import DocFilter.Job
import DocFilter.Proofs.Channel
import DocFilter.Proofs.Success

/-!
# What a job touches

A job writes only after everything that can fail was done. If it fails, no file is changed
and nothing is written; if it succeeds, the document is in the one place that the job names
for it, and whatever else there is stays as it was.
-/

namespace DocFilter

/-! ## Files -/

namespace Workspace

theorem lookup_replaced (location : Location) (content : ByteArray) (workspace : Workspace)
    (other : Location) :
    (workspace.map fun (held, bytes) =>
        (held, if held == location then content else bytes)).lookup other =
      if other = location then (workspace.lookup other).map fun _ => content
      else workspace.lookup other := by
  induction workspace with
  | nil => simp
  | cons file rest ih =>
      obtain ⟨held, bytes⟩ := file
      rw [List.map_cons, List.lookup_cons, List.lookup_cons, ih]
      by_cases here : other = held
      · subst here
        by_cases same : other = location <;> simp [same]
      · simp [beq_false_of_ne here]

/-- Setting the content of a file changes no other file. -/
theorem content?_setContent (workspace : Workspace) (location other : Location)
    (content : ByteArray) :
    (workspace.setContent location content).content? other =
      if other = location then some content else workspace.content? other := by
  unfold setContent
  split
  case isTrue present =>
      obtain ⟨bytes, held⟩ := Option.isSome_iff_exists.mp present
      show List.lookup other _ = _
      rw [lookup_replaced]
      by_cases same : other = location
      · subst same
        rw [if_pos rfl, if_pos rfl, show workspace.lookup other = some bytes from held]
        rfl
      · rw [if_neg same, if_neg same]
        rfl
  case isFalse missing =>
      have none : workspace.lookup location = none := Option.not_isSome_iff_eq_none.mp missing
      show List.lookup other (workspace ++ [(location, content)]) = _
      rw [List.lookup_append, List.lookup_cons, List.lookup_nil]
      by_cases same : other = location
      · subst same
        rw [none, if_pos rfl, beq_self_eq_true]
        rfl
      · rw [if_neg same, beq_false_of_ne same, Option.or_none]
        rfl

/-- A path that can be followed leads where it seems to. -/
theorem follow_eq {workspace : Workspace} {location found : Location} {parts : List String}
    (followed : workspace.follow location parts = .ok found) :
    found = parts.foldl Location.step location := by
  induction parts generalizing location with
  | nil =>
      cases followed
      rfl
  | cons part rest ih =>
      rw [follow] at followed
      split at followed
      case isTrue =>
          split at followed
          case isTrue => cases followed
          case isFalse => exact ih followed
      case isFalse =>
          split at followed <;> cases followed

theorem locate_eq {workspace : Workspace} {path : String} {found : Location}
    (located : workspace.locate path (pathParts path) = .ok found) :
    found = .ofPath path := by
  rw [locate] at located
  split at located
  case isTrue => cases located
  case isFalse =>
      split at located
      case isTrue => cases located
      case isFalse => exact follow_eq located

end Workspace

/-! ## What is read -/

/-- What can be read to its end from a feed. -/
def Feed.bytes? (standardInput : ByteArray) : Feed → Option ByteArray
  | .standardInput => some standardInput
  | .content bytes => some bytes
  | .directory => none

/-- The bytes are all that there is at a location to be read. A file comes before a device. -/
def Workspace.Holds (workspace : Workspace) (standardInput : ByteArray) (location : Location)
    (bytes : ByteArray) : Prop :=
  match workspace.content? location, Device.at? location with
  | some content, _ => bytes = content
  | none, some device => device.feed.bytes? standardInput = some bytes
  | none, none => False

theorem Workspace.holds_of_feedAt {workspace : Workspace} {path : String} {feed : Feed}
    (opened : workspace.feedAt path = .ok feed) {standardInput bytes : ByteArray}
    (readable : feed.bytes? standardInput = some bytes) :
    workspace.Holds standardInput (.ofPath path) bytes := by
  rw [feedAt] at opened
  cases located : workspace.locate path (pathParts path) with
  | error problem =>
      rw [located] at opened
      cases opened
  | ok location =>
      rw [located] at opened
      obtain rfl := locate_eq located
      change (if workspace.isDirectory (.ofPath path) then _ else _) = _ at opened
      split at opened
      case isTrue =>
          -- A directory is opened, but not read.
          cases opened
          cases readable
      case isFalse =>
          unfold Holds
          cases held : workspace.content? (.ofPath path) with
          | some content =>
              rw [held] at opened
              cases opened
              cases readable
              rfl
          | none =>
              rw [held] at opened
              cases special : Device.at? (.ofPath path) with
              | some device =>
                  rw [special] at opened
                  cases opened
                  exact readable
              | none =>
                  rw [special] at opened
                  cases opened

namespace Job

variable {job : Job} {standardInput bytes : ByteArray} {workspace : Workspace}

/-- The bytes are those that a job is to read. -/
def Reads (job : Job) (standardInput : ByteArray) (workspace : Workspace)
    (bytes : ByteArray) : Prop :=
  match job.input with
  | none => bytes = standardInput
  | some path => workspace.Holds standardInput (.ofPath path) bytes

theorem reads_of_feed {feed : Feed} (opened : job.feed workspace = .ok feed)
    (readable : feed.bytes? standardInput = some bytes) :
    job.Reads standardInput workspace bytes := by
  rw [Job.feed] at opened
  rw [Reads]
  cases named : job.input with
  | none =>
      rw [named] at opened
      cases opened
      cases readable
      rfl
  | some path =>
      rw [named] at opened
      exact Workspace.holds_of_feedAt opened readable

end Job

/-! ## What is written -/

/-- Where a path leads to be written: to a device, or else to a file. -/
def Sink.ofPath (path : String) : Sink :=
  match Device.at? (.ofPath path) with
  | some device => device.sink
  | none => .file (.ofPath path)

theorem Workspace.sinkAt_eq {workspace : Workspace} {path : String} {sink : Sink}
    (opened : workspace.sinkAt path = .ok sink) : sink = .ofPath path := by
  unfold sinkAt at opened
  dsimp only at opened
  split at opened
  case isTrue =>
      -- Behind a slash at the end nothing is created.
      cases located : workspace.locate path
          (((pathParts path).reverse.dropWhile (· == "")).reverse.dropLast ++ ["."]) with
      | error problem =>
          rw [located] at opened
          cases opened
      | ok location =>
          rw [located] at opened
          cases opened
  case isFalse whole =>
      have same : ((pathParts path).reverse.dropWhile (· == "")).reverse = pathParts path := by
        have kept : (pathParts path).reverse.dropWhile (· == "") = (pathParts path).reverse :=
          (List.dropWhile_suffix (· == "")).eq_of_length_le (by simpa using whole)
        rw [kept, List.reverse_reverse]
      rw [same] at opened
      cases located : workspace.locate path (pathParts path) with
      | error problem =>
          rw [located] at opened
          cases opened
      | ok location =>
          rw [located] at opened
          obtain rfl := locate_eq located
          change (if workspace.isDirectory (.ofPath path) then _ else _) = _ at opened
          rw [Sink.ofPath]
          split at opened
          case isTrue => cases opened
          case isFalse =>
              cases special : Device.at? (.ofPath path) with
              | some device =>
                  rw [special] at opened
                  cases opened
                  rfl
              | none =>
                  rw [special] at opened
                  cases opened
                  rfl

/-- The bytes are in a sink, the standard output has nothing else, and every file is as it
was before unless it is the sink. -/
def Job.Run.Leaves (run : Run) (bytes : ByteArray) (workspace : Workspace) : Sink → Prop
  | .standardOutput => run.standardOutput = bytes ∧ run.workspace = workspace
  | .file location =>
      run.standardOutput = .empty ∧
        run.workspace.content? location = some bytes ∧
        ∀ other, other ≠ location → run.workspace.content? other = workspace.content? other
  | .nowhere => run.standardOutput = .empty ∧ run.workspace = workspace
  | .full => False

namespace Job

/-- Where the output of a job belongs. -/
def target (job : Job) : Sink :=
  match job.output with
  | none => .standardOutput
  | some path => .ofPath path

theorem sink_eq_target {job : Job} {workspace : Workspace} {sink : Sink}
    (opened : job.sink workspace = .ok sink) : sink = job.target := by
  rw [Job.sink] at opened
  rw [target]
  cases named : job.output with
  | none =>
      rw [named] at opened
      cases opened
      rfl
  | some path =>
      rw [named] at opened
      exact Workspace.sinkAt_eq opened

theorem deliver_leaves {bytes : ByteArray} {workspace : Workspace} {sink : Sink}
    (room : sink ≠ .full) :
    (deliver bytes workspace sink).outcome = .ok () ∧
      (deliver bytes workspace sink).Leaves bytes workspace sink := by
  cases sink with
  | standardOutput => exact ⟨rfl, rfl, rfl⟩
  | file location =>
      refine ⟨rfl, rfl, ?_, ?_⟩
      · show (workspace.setContent location bytes).content? location = _
        rw [Workspace.content?_setContent, if_pos rfl]
      · intro other different
        show (workspace.setContent location bytes).content? other = _
        rw [Workspace.content?_setContent, if_neg different]
  | nowhere => exact ⟨rfl, rfl, rfl⟩
  | full => exact absurd rfl room

end Job

/-! ## Runs -/

namespace Job

/-- Nothing is in the way of a job: its input can be opened and read to its end, what it
reads is filtered to a document, and its output can be opened and has room. -/
structure Clear {σ : Type} (job : Job) (filter : NodeFilter σ) (limit : Document → Nat)
    (state : σ) (standardInput : ByteArray) (workspace : Workspace) (bytes : ByteArray)
    (document : Document) : Prop where
  opens : ∃ feed, job.feed workspace = .ok feed ∧ feed.bytes? standardInput = some bytes
  filters : FiltersTo filter job.format limit bytes state document
  creates : ∃ sink, job.sink workspace = .ok sink ∧ sink ≠ .full

section

variable {σ : Type} {job : Job} {filter : NodeFilter σ} {limit : Document → Nat} {state : σ}
  {standardInput : ByteArray} {workspace : Workspace}

/-- A feed that cannot be read to its end is not filtered. -/
theorem bytes?_of_transform {feed : Feed} {written : ByteArray}
    (made : job.transform filter limit state (feed.source standardInput) = .ok written) :
    ∃ bytes document, feed.bytes? standardInput = some bytes ∧
      FiltersTo filter job.format limit bytes state document ∧
      written = document.bytes job.layout := by
  obtain ⟨document, filtered, rfl⟩ := exists_of_map_eq_ok made
  cases feed with
  | standardInput =>
      exact ⟨standardInput, document, rfl, filterSource_eq_ok_iff.mp filtered, rfl⟩
  | content bytes => exact ⟨bytes, document, rfl, filterSource_eq_ok_iff.mp filtered, rfl⟩
  | directory =>
      have interrupted : (Feed.source standardInput .directory).ending =
        .interrupted FileProblem.isDirectory.message := rfl
      obtain ⟨problem, failed⟩ := Document.ofSource_interrupted interrupted
      rw [filterSource_result, failed] at filtered
      cases filtered

theorem transform_of_filtersTo {feed : Feed} {bytes : ByteArray} {document : Document}
    (readable : feed.bytes? standardInput = some bytes)
    (filters : FiltersTo filter job.format limit bytes state document) :
    job.transform filter limit state (feed.source standardInput) =
      .ok (document.bytes job.layout) := by
  have source : feed.source standardInput = .ofBytes bytes .complete := by
    cases feed with
    | directory => cases readable
    | standardInput =>
        cases readable
        rfl
    | content held =>
        cases readable
        rfl
  rw [transform, source, filterSource_eq_ok_iff.mpr filters]
  rfl

/-- A job fails before it touches anything, or nothing is in its way. -/
theorem run_cases (job : Job) (filter : NodeFilter σ) (limit : Document → Nat) (state : σ)
    (standardInput : ByteArray) (workspace : Workspace) :
    (∃ failure, job.run filter limit state standardInput workspace =
        .failed failure workspace) ∨
      ∃ bytes document, job.Clear filter limit state standardInput workspace bytes document := by
  rw [run]
  split
  case h_1 problem _ => exact .inl ⟨.file problem, rfl⟩
  case h_2 feed opened =>
      split
      case h_1 halt _ => exact .inl ⟨.filtering halt, rfl⟩
      case h_2 written made =>
          obtain ⟨bytes, document, readable, filters, -⟩ := bytes?_of_transform made
          split
          case h_1 problem _ => exact .inl ⟨.file problem, rfl⟩
          case h_2 sink created =>
              by_cases room : sink = .full
              · subst room
                exact .inl ⟨.writing fullMessage, rfl⟩
              · exact .inr ⟨bytes, document, ⟨feed, opened, readable⟩, filters, sink, created, room⟩

/-- A job with nothing in its way leaves the document where it belongs. -/
theorem Clear.leaves {bytes : ByteArray} {document : Document}
    (clear : job.Clear filter limit state standardInput workspace bytes document) :
    (job.run filter limit state standardInput workspace).outcome = .ok () ∧
      (job.run filter limit state standardInput workspace).Leaves
        (document.bytes job.layout) workspace job.target := by
  obtain ⟨⟨feed, opened, readable⟩, filters, sink, created, room⟩ := clear
  have target := sink_eq_target created
  rw [run, opened]
  dsimp only
  rw [transform_of_filtersTo readable filters, created]
  dsimp only
  rw [← target]
  exact deliver_leaves room

end

/-- A job that fails leaves every file as it was and writes nothing to the standard output.
A job that succeeds has filtered all that it was to read, as it was before anything was
written, and leaves the text of the result and a line end in the one place that it names;
everything else is as it was. It succeeds exactly if nothing is in its way. -/
theorem run_spec {σ : Type} (job : Job) (filter : NodeFilter σ) (limit : Document → Nat)
    (state : σ) (standardInput : ByteArray) (workspace : Workspace) :
    let run := job.run filter limit state standardInput workspace
    (∀ failure, run.outcome = .error failure →
      run.workspace = workspace ∧ run.standardOutput = .empty) ∧
    (run.outcome = .ok () → ∃ bytes document,
      job.Reads standardInput workspace bytes ∧
        FiltersTo filter job.format limit bytes state document ∧
        run.Leaves (document.toText job.layout ++ "\n").toUTF8 workspace job.target) ∧
    (run.outcome = .ok () ↔
      ∃ bytes document,
        job.Clear filter limit state standardInput workspace bytes document) := by
  intro run
  rcases run_cases job filter limit state standardInput workspace with
    ⟨failure, failed⟩ | ⟨bytes, document, clear⟩
  · have stopped : run = .failed failure workspace := failed
    rw [stopped]
    refine ⟨fun _ _ => ⟨rfl, rfl⟩, nofun, nofun, ?_⟩
    rintro ⟨bytes, document, clear⟩
    exact stopped ▸ clear.leaves.1
  · obtain ⟨succeeded, leaves⟩ := clear.leaves
    refine ⟨?_, ?_, fun _ => ⟨bytes, document, clear⟩, fun _ => succeeded⟩
    · intro failure failed
      cases failed.symm.trans succeeded
    · intro _
      obtain ⟨feed, opened, readable⟩ := clear.opens
      exact ⟨bytes, document, reads_of_feed opened readable, clear.filters, leaves⟩

/-- A job that writes over what it reads: two paths that lead to one file. -/
def inPlace : Job where
  format := "latex"
  layout := .indented
  input := some "doc.json"
  output := some "./doc.json"

/-- The bytes of a document without blocks. -/
def blank : ByteArray :=
  "\x7b\"blocks\":[],\"meta\":\x7b\x7d,\"pandoc-api-version\":[1]\x7d".toUTF8

/-- The result is made of what was in the file before, and other files stay. -/
theorem run_spec_inPlace :
    let workspace := Workspace.ofFiles [("doc.json", blank), ("notes", .empty)]
    let run := inPlace.run .identity Document.height () .empty workspace
    run.outcome = .ok () ∧ run.standardOutput = .empty ∧
      run.workspace.content? ["notes"] = some .empty ∧
      ∃ document, FiltersTo .identity "latex" Document.height blank () document ∧
        run.workspace.content? ["doc.json"] =
          some (document.toText .indented ++ "\n").toUTF8 := by
  intro workspace run
  obtain ⟨_, succeeded⟩ : ∃ value, run.outcome = .ok value := exists_of_isOk (by decide +kernel)
  have location : Location.ofPath "doc.json" = ["doc.json"] := by decide +kernel
  have target : inPlace.target = .file ["doc.json"] := by
    have detour : Location.ofPath "./doc.json" = ["doc.json"] := by decide +kernel
    show Sink.ofPath "./doc.json" = _
    rw [Sink.ofPath, detour]
    rfl
  obtain ⟨-, spec, -⟩ := run_spec inPlace .identity Document.height () .empty workspace
  obtain ⟨bytes, document, reads, filters, leaves⟩ := spec succeeded
  rw [target] at leaves
  obtain ⟨silent, written, others⟩ := leaves
  have same : bytes = blank := by
    change workspace.Holds .empty (.ofPath "doc.json") bytes at reads
    rw [location] at reads
    exact reads
  subst same
  refine ⟨succeeded, silent, ?_, document, filters, written⟩
  exact others ["notes"] (by decide)

end Job

end DocFilter
