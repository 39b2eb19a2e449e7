import DocFilter.Proofs.Job
import DocFilter.Proofs.Rendering.Complete
import DocFilter.Tool

/-!
# What the programs do

The rendering of a program and its job come from the command line and the environment. A
program that is given no format takes it to be empty. The document stays as it is then,
unless the empty format is what the rendering is for.
-/

namespace DocFilter

namespace Rendering

variable {σ : Type}

/-- A document stays as it is in a walk with one rendering exactly if the rendering has
nothing to do in it. -/
theorem filter_eq_self_iff (rendering : Rendering) (format : String) (document : Document)
    (state : σ) :
    (document.filter rendering.filter format document.height state).result = .ok document ↔
      ∀ node ∈ document.nodes, ¬ rendering.Concerns format node := by
  have gives := rendering.gives_answers (σ := σ) ⟨format, document.metadata⟩
  have serves := rendering.serves format
  constructor
  · intro walked node member concerns
    rw [gives.result] at walked
    have settles := (serves.of_iff someConcerns_singleton).settles
    exact settles.document walked node member ((someConcerns_singleton node).mp concerns)
  · intro calm
    exact (Document.filter_of_keeps (Nat.le_refl _) gives fun node member =>
      serves.keeps (calm node member)).1

end Rendering

/-- The templates that are used unless others are chosen refer to nothing but the fields
there are. -/
theorem Listing.Renderer.valid_of_default {renderer : Renderer}
    (block : renderer.options.blockTemplate = defaultBlockTemplate)
    (inline : renderer.options.inlineTemplate = defaultInlineTemplate) : renderer.Valid where
  block := by
    rw [blockTemplate, block]
    decide +kernel
  inline := by
    rw [inlineTemplate, inline]
    decide +kernel

namespace Tool

open CommandLine (Arguments effective)

/-- A program always has a rendering, whatever the options and the environment say. -/
theorem exists_rendering (tool : Tool) (arguments : Arguments)
    (environment : List (String × String)) :
    ∃ rendering, tool.rendering arguments environment = .ok rendering ∧
      rendering.targetFormat =
        effective tool arguments environment .targetFormat Listing.defaultTargetFormat := by
  cases tool with
  | minted =>
      rw [Tool.rendering, Listing.Renderer.ofOptions?_eq_ok.mpr
        ⟨rfl, Listing.Renderer.valid_of_default rfl rfl⟩]
      exact ⟨_, rfl, rfl⟩
  | prettyTables => exact ⟨_, rfl, rfl⟩

theorem execute_eq {tool : Tool} {words : List String} {arguments : Arguments}
    {environment : List (String × String)} {rendering : Rendering}
    (asked : CommandLine.read tool words = .ok (.run arguments))
    (made : tool.rendering arguments environment = .ok rendering) (standardInput : ByteArray)
    (workspace : Workspace) :
    tool.execute words environment standardInput workspace =
      .ofRun (arguments.job.run rendering.filter Document.height () standardInput workspace) := by
  rw [execute, asked]
  dsimp only
  rw [made]

/-- A program succeeds in silence, and bytes are in a sink and nowhere else. -/
structure Execution.Delivers (execution : Execution) (bytes : ByteArray) (workspace : Workspace)
    (sink : Sink) : Prop where
  succeeds : execution.code = 0
  silent : execution.standardError = ""
  leaves : Job.Run.Leaves ⟨.ok (), execution.standardOutput, execution.workspace⟩ bytes
    workspace sink

/-- A program with nothing in its way delivers the document. -/
theorem delivers_of_clear {tool : Tool} {words : List String} {arguments : Arguments}
    {environment : List (String × String)} {rendering : Rendering} {standardInput : ByteArray}
    {workspace : Workspace} {bytes : ByteArray} {document : Document}
    (asked : CommandLine.read tool words = .ok (.run arguments))
    (made : tool.rendering arguments environment = .ok rendering)
    (clear : arguments.job.Clear rendering.filter Document.height () standardInput workspace
      bytes document) :
    (tool.execute words environment standardInput workspace).Delivers
      (document.bytes arguments.job.layout) workspace arguments.job.target := by
  obtain ⟨outcome, leaves⟩ := clear.leaves
  rw [execute_eq asked made]
  generalize arguments.job.run rendering.filter Document.height () standardInput workspace =
    run at outcome leaves
  obtain ⟨result, standardOutput, left⟩ := run
  cases outcome
  exact ⟨rfl, rfl, leaves⟩

/-- The nodes that a program renders. -/
def renders (tool : Tool) (node : Node) : Bool :=
  match tool with
  | .minted => node.isCode
  | .prettyTables => node.isCaptionedTable

theorem concerns_iff {tool : Tool} {arguments : Arguments}
    {environment : List (String × String)} {rendering : Rendering}
    (made : tool.rendering arguments environment = .ok rendering) (format : String)
    (node : Node) :
    rendering.Concerns format node ↔
      rendering.targetFormat = format ∧ tool.renders node = true := by
  cases tool with
  | minted =>
      obtain ⟨renderer, -, followed⟩ := exists_of_bind_eq_ok made
      cases followed
      exact Iff.rfl
  | prettyTables =>
      cases made
      exact Iff.rfl

/-- A program that is given no format leaves every document as it is, whatever the options
and the environment say, if its target is not the empty format or the document has no node
that it renders. If the target is the empty format, the program renders for that, and what
it delivers is not the document if the document has such a node. -/
theorem execute_without_format {tool : Tool} {words : List String} {arguments : Arguments}
    (asked : CommandLine.read tool words = .ok (.run arguments)) (bare : arguments.format = none)
    (environment : List (String × String)) :
    let target := effective tool arguments environment .targetFormat Listing.defaultTargetFormat
    let job := arguments.job
    ∃ rendering, tool.rendering arguments environment = .ok rendering ∧
      ∀ (standardInput : ByteArray) (workspace : Workspace) (bytes : ByteArray)
        (document : Document), Document.ofSource (.ofBytes bytes .complete) = .ok document →
        (∃ feed, job.feed workspace = .ok feed ∧ feed.bytes? standardInput = some bytes) →
        (∃ sink, job.sink workspace = .ok sink ∧ sink ≠ .full) →
          let execution := tool.execute words environment standardInput workspace
          (target ≠ "" ∨ (∀ node ∈ document.nodes, tool.renders node = false) →
            execution.Delivers (document.toText job.layout ++ "\n").toUTF8 workspace
              job.target) ∧
          (target = "" → ∀ result,
            (document.filter (rendering.filter (σ := Unit)) "" document.height ()).result =
                .ok result →
              execution.Delivers (result.toText job.layout ++ "\n").toUTF8 workspace
                  job.target ∧
                ((∃ node ∈ document.nodes, tool.renders node = true) → result ≠ document)) := by
  intro target job
  obtain ⟨rendering, made, targeted⟩ := tool.exists_rendering arguments environment
  have nameless : arguments.job.format = "" := by
    show arguments.format.getD "" = ""
    rw [bare]
    rfl
  refine ⟨rendering, made, ?_⟩
  intro standardInput workspace bytes document decoded opens creates execution
  have delivers {result : Document}
      (walked : (document.filter (rendering.filter (σ := Unit)) "" document.height ()).result =
        .ok result) : execution.Delivers (result.bytes job.layout) workspace job.target := by
    refine delivers_of_clear asked made ⟨opens, ⟨document, decoded, ?_⟩, creates⟩
    rw [nameless]
    exact walked
  have stays := rendering.filter_eq_self_iff "" document ()
  constructor
  · intro calm
    refine delivers (stays.mpr fun node member concerns => ?_)
    obtain ⟨same, rendered⟩ := (concerns_iff made "" node).mp concerns
    rcases calm with other | none
    · exact other (targeted.symm.trans same)
    · exact Bool.eq_false_iff.mp (none node member) rendered
  · intro empty result walked
    refine ⟨delivers walked, ?_⟩
    rintro ⟨node, member, rendered⟩ rfl
    exact stays.mp walked node member ((concerns_iff made "" node).mpr
      ⟨targeted.trans empty, rendered⟩)

/-- The text of a document with nothing but code. -/
def onlyCode : ByteArray :=
  ("\x7b\"pandoc-api-version\":[1,23],\"meta\":\x7b\x7d,\"blocks\":[\x7b\"t\":\"Plain\"," ++
    "\"c\":[\x7b\"t\":\"Code\",\"c\":[[\"\",[],[]],\"x\"]\x7d]\x7d]\x7d").toUTF8

/-- Code stays as it is with a language on the command line and a target in the environment. -/
theorem execute_without_format_beamer :
    ∃ document, Document.ofSource (.ofBytes onlyCode .complete) = .ok document ∧
      (Tool.minted.execute ["--default-language", "sh"] [("PANDOC_MINTED_TARGET", "beamer")]
        onlyCode []).Delivers (document.toText .compact ++ "\n").toUTF8 []
          .standardOutput := by
  have asked : CommandLine.read .minted ["--default-language", "sh"] =
      .ok (.run { values := [(.defaultLanguage, "sh")] }) := by decide
  obtain ⟨document, decoded⟩ : ∃ document,
      Document.ofSource (.ofBytes onlyCode .complete) = .ok document :=
    exists_of_isOk (by decide +kernel)
  obtain ⟨rendering, -, runs⟩ :=
    execute_without_format asked rfl [("PANDOC_MINTED_TARGET", "beamer")]
  obtain ⟨stays, -⟩ := runs onlyCode [] onlyCode document decoded
    ⟨.standardInput, rfl, rfl⟩ ⟨.standardOutput, rfl, nofun⟩
  exact ⟨document, decoded, stays (.inl (by decide))⟩

/-- What is left when a program with an empty target has run on code without a format. -/
def emptyTarget : Execution := Tool.minted.execute ["--target-format="] [] onlyCode []

/-- Code is rendered without a format if the target is empty. -/
theorem execute_without_format_emptyTarget :
    CommandLine.read .minted ["--target-format="] =
        .ok (.run { values := [(.targetFormat, "")] }) ∧
      emptyTarget.code = 0 ∧
        ∃ document, Document.ofSource (.ofBytes onlyCode .complete) = .ok document ∧
          emptyTarget.standardOutput.size ≠
            (document.toText .compact ++ "\n").toUTF8.size := by
  have runs : (Document.ofSource (.ofBytes onlyCode .complete)).toOption.any (fun document =>
      emptyTarget.code = 0 ∧
        emptyTarget.standardOutput.size ≠ (document.bytes .compact).size) = true := by
    decide +kernel
  refine ⟨by decide, ?_⟩
  cases decoded : Document.ofSource (.ofBytes onlyCode .complete) with
  | error error =>
      rw [decoded] at runs
      cases runs
  | ok document =>
      rw [decoded, Except.toOption, Option.any_some, decide_eq_true_iff] at runs
      obtain ⟨succeeds, differs⟩ := runs
      exact ⟨succeeds, document, rfl, differs⟩

end Tool

end DocFilter
