import DocFilter.Proofs.Document.Lists
import DocFilter.Proofs.Walk.Record
import Mathlib.Data.List.Flatten

/-!
# What a walk leaves as it is

Whatever a filter answers, the walk changes nothing but lists of nodes. A node that the
filter keeps is rebuilt with the frame it had, and so is one that takes the place of another;
then the lists in it are rebuilt in turn. A document that was walked to the end has the
version, the keys and the scalars that it had before.
-/

namespace DocFilter

namespace Enquiry

/-- The node, if the filter kept it. -/
def kept? (enquiry : Enquiry) : Option Node :=
  match enquiry.outcome with
  | .ok .keep => some enquiry.node
  | _ => none

end Enquiry

theorem Action.after_map {α β : Type} (f : α → β) (action : Action α) (node : α) :
    (action.map f).after (f node) = (action.after node).map f := by
  cases action <;> rfl

/-! ## Lists that are rebuilt -/

/-- In this relation, lists of nodes stand before and after a walk on which these enquiries
were made. Nodes are asked about one by one. One that is kept is rebuilt with the same frame,
and one that is replaced gives way to nodes with the frames of its replacements; the lists of
what stands there now are rebuilt next, before the rest. -/
inductive Rebuilt : List Enquiry → List (List Node) → List (List Node) → Prop where
  | done : Rebuilt [] [] []
  | next {asked : List Enquiry} {rest rest' : List (List Node)}
      (following : Rebuilt asked rest rest') : Rebuilt asked ([] :: rest) ([] :: rest')
  | kept {asked : List Enquiry} {node node' : Node} {content content' : List Node}
      {rest rest' : List (List Node)} (frame : node.SameFrame node')
      (following : Rebuilt asked (node.lists ++ content :: rest)
        (node'.lists ++ content' :: rest')) :
      Rebuilt (⟨node, .ok .keep⟩ :: asked) ((node :: content) :: rest)
        ((node' :: content') :: rest')
  | replaced {asked : List Enquiry} {node : Node} {action : Action Node}
      {nodes nodes' content content' : List Node} {rest rest' : List (List Node)}
      (instead : action.replacements? = some nodes)
      (frames : List.Forall₂ Node.SameFrame nodes nodes')
      (following : Rebuilt asked (nodes.flatMap Node.lists ++ content :: rest)
        (nodes'.flatMap Node.lists ++ content' :: rest')) :
      Rebuilt (⟨node, .ok action⟩ :: asked) ((node :: content) :: rest)
        ((nodes' ++ content') :: rest')

namespace Rebuilt

/-- Lists are rebuilt one after the other. -/
theorem append {asked more : List Enquiry} {first first' others others' : List (List Node)}
    (rebuilt : Rebuilt asked first first') (following : Rebuilt more others others') :
    Rebuilt (asked ++ more) (first ++ others) (first' ++ others') := by
  induction rebuilt with
  | done => exact following
  | next _ ih => exact .next ih
  | kept frame _ ih =>
      rw [List.append_assoc, List.append_assoc] at ih
      exact .kept frame ih
  | replaced instead frames _ ih =>
      rw [List.append_assoc, List.append_assoc] at ih
      exact .replaced instead frames ih

/-- A list is rebuilt from what stands in the place of its first node, and the rest. -/
theorem cons {asked more : List Enquiry} {node : Node} {action : Action Node}
    {nodes' content content' : List Node}
    (frames : List.Forall₂ Node.SameFrame (action.after node) nodes')
    (inside : Rebuilt asked ((action.after node).flatMap Node.lists)
      (nodes'.flatMap Node.lists))
    (others : Rebuilt more [content] [content']) :
    Rebuilt (⟨node, .ok action⟩ :: (asked ++ more)) [node :: content]
      [nodes' ++ content'] := by
  have following := inside.append others
  cases action with
  | keep =>
      obtain ⟨node', frame, rfl⟩ : ∃ node', node.SameFrame node' ∧ nodes' = [node'] := by
        cases frames with
        | cons frame none =>
            cases none
            exact ⟨_, frame, rfl⟩
      simp only [Action.after, Action.replacements?, Option.getD_none, List.flatMap_cons,
        List.flatMap_nil, List.append_nil] at following
      exact .kept frame following
  | one replacement => exact .replaced rfl frames following
  | many replacements => exact .replaced rfl frames following

/-- The nodes that were kept, one by one and in the order in which they were asked about, have
the frames of nodes that now stand in the lists, in reading order. -/
theorem exists_sublist {asked : List Enquiry} {lists lists' : List (List Node)}
    (rebuilt : Rebuilt asked lists lists') :
    ∃ nodes, List.Forall₂ Node.SameFrame (asked.filterMap Enquiry.kept?) nodes ∧
      nodes.Sublist (Node.read lists') := by
  induction rebuilt with
  | done => exact ⟨[], .nil, List.nil_sublist _⟩
  | next _ ih =>
      obtain ⟨nodes, frames, listed⟩ := ih
      exact ⟨nodes, frames, by simpa using listed⟩
  | @kept asked node node' content content' rest rest' frame _ ih =>
      obtain ⟨nodes, frames, listed⟩ := ih
      refine ⟨node' :: nodes, ?_, ?_⟩
      · simpa [Enquiry.kept?] using List.Forall₂.cons frame frames
      · simpa using listed
  | @replaced asked node action nodes nodes' content content' rest rest' instead frames _ ih =>
      obtain ⟨kept, same, listed⟩ := ih
      refine ⟨kept, ?_, listed.trans ?_⟩
      · cases action with
        | keep => cases instead
        | one replacement => exact same
        | many replacements => exact same
      · have inside : (nodes'.flatMap Node.inner).Sublist
            (nodes'.flatMap fun node => node :: node.inner) :=
          List.Sublist.flatMap_right nodes' fun node _ => List.sublist_cons_self node node.inner
        simpa [Node.read_flatMap] using inside

end Rebuilt

/-! ## Dialogues that lead to something -/

namespace Dialogue

variable {α β : Type}

/-- Whatever is answered, a dialogue that comes to an end has this to say of the enquiries
made and of its result. -/
def Leads : Dialogue α → (List Enquiry → α → Prop) → Prop
  | .done value, holds => holds [] value
  | .tooDeep, _ => True
  | .inline node next, holds =>
      ∀ action, (next (action.after node)).Leads fun asked value =>
        holds (.ofInline node (.ok action) :: asked) value
  | .block node next, holds =>
      ∀ action, (next (action.after node)).Leads fun asked value =>
        holds (.ofBlock node (.ok action) :: asked) value

namespace Leads

theorem bind {dialogue : Dialogue α} {next : α → Dialogue β}
    {first : List Enquiry → α → Prop} {holds : List Enquiry → β → Prop}
    (leads : dialogue.Leads first)
    (following : ∀ asked value, first asked value →
      (next value).Leads fun more result => holds (asked ++ more) result) :
    (dialogue >>= next).Leads holds := by
  induction dialogue generalizing first holds with
  | done value => exact following [] value leads
  | tooDeep => trivial
  | inline node later ih =>
      intro action
      exact ih _ (leads action) fun asked value held => following _ value held
  | block node later ih =>
      intro action
      exact ih _ (leads action) fun asked value held => following _ value held

theorem map {dialogue : Dialogue α} {build : α → β} {first : List Enquiry → α → Prop}
    {holds : List Enquiry → β → Prop} (leads : dialogue.Leads first)
    (built : ∀ asked value, first asked value → holds asked (build value)) :
    (do return build (← dialogue) : Dialogue β).Leads holds := by
  refine leads.bind fun asked value held => ?_
  have result := built asked value held
  rwa [← List.append_nil asked] at result

theorem and {dialogue : Dialogue α} {first second : List Enquiry → α → Prop}
    (leads : dialogue.Leads first) (leads' : dialogue.Leads second) :
    dialogue.Leads fun asked value => first asked value ∧ second asked value := by
  induction dialogue generalizing first second with
  | done value => exact ⟨leads, leads'⟩
  | tooDeep => trivial
  | inline node next ih =>
      intro action
      exact ih _ (leads action) (leads' action)
  | block node next ih =>
      intro action
      exact ih _ (leads action) (leads' action)

theorem trivially (dialogue : Dialogue α) : dialogue.Leads fun _ _ => True := by
  induction dialogue with
  | done value => trivial
  | tooDeep => trivial
  | inline node next ih => exact fun action => ih _
  | block node next ih => exact fun action => ih _

/-- What a dialogue leads to holds of its enquiries and its result with any filter. -/
theorem converse {σ : Type} {filter : NodeFilter σ} {context : Context}
    {dialogue : Dialogue α} {holds : List Enquiry → α → Prop} {progress : Progress σ}
    {value : α} (leads : dialogue.Leads holds)
    (ended : (Walk.converse filter context dialogue progress).1 = .ok value) :
    holds (Walk.enquiries filter context dialogue progress) value := by
  induction dialogue generalizing holds progress with
  | done result =>
      cases ended
      exact leads
  | tooDeep => cases ended
  | inline node next ih =>
      cases answered : (filter.inline context node progress.state).nodes node with
      | error halt =>
          rw [Walk.converse_inline_halt filter context answered] at ended
          cases ended
      | ok nodes =>
          rw [Walk.converse_inline filter context answered] at ended
          rw [Walk.enquiries, answered]
          obtain ⟨action, outcome, rfl⟩ := Reply.exists_of_nodes answered
          rw [outcome]
          exact ih _ (leads action) ended
  | block node next ih =>
      cases answered : (filter.block context node progress.state).nodes node with
      | error halt =>
          rw [Walk.converse_block_halt filter context answered] at ended
          cases ended
      | ok nodes =>
          rw [Walk.converse_block filter context answered] at ended
          rw [Walk.enquiries, answered]
          obtain ⟨action, outcome, rfl⟩ := Reply.exists_of_nodes answered
          rw [outcome]
          exact ih _ (leads action) ended

end Leads

/-! ## Frames -/

/-- Results of a dialogue are related to a value if it leads to nothing else. -/
def leading : Relator Id Dialogue where
  rel results x y := y.Leads fun _ b => results x.run b
  pure same := same
  bind related follow := related.bind fun _ b same => follow _ b same

section

variable {f : List Inline → Dialogue (List Inline)} {h : List Block → Dialogue (List Block)}

theorem leading_any {α : Type} (visit : α → Dialogue α) (a a' : α) (_ : a = a') :
    leading.rel (fun _ _ => True) (pure a) (visit a') :=
  Leads.trivially (visit a')

/-- A traversal of an inline leaves its frame as it is. -/
theorem leads_sameFrame_inline (x : Inline) :
    (x.traverse f h).Leads fun _ y => (Node.inline x).SameFrame (.inline y) := by
  have related := leading.traverseInline (leading_any f) (leading_any h)
    (x.alike_refl (fun _ => rfl) (fun _ => rfl))
  rw [Inline.traverse_pure] at related
  have framed : leading.rel (fun x y => (Node.inline x).SameFrame (.inline y)) (pure x)
      (x.traverse f h) := leading.mono related fun _ _ => .inline
  exact framed

theorem leads_sameFrame_block (x : Block) :
    (x.traverse f h).Leads fun _ y => (Node.block x).SameFrame (.block y) := by
  have related := leading.traverseBlock (leading_any f) (leading_any h)
    (x.alike_refl (fun _ => rfl) (fun _ => rfl))
  rw [Block.traverse_pure] at related
  have framed : leading.rel (fun x y => (Node.block x).SameFrame (.block y)) (pure x)
      (x.traverse f h) := leading.mono related fun _ _ => .block
  exact framed

theorem leads_sameFrame_document (x : Document) :
    (x.traverse f h).Leads fun _ y => x.SameFrame y := by
  have related := leading.traverseDocument (leading_any f) (leading_any h)
    (x.alike_refl (fun _ => rfl) (fun _ => rfl))
  rw [Document.traverse_pure] at related
  exact related

end

/-! ## Traversals that rebuild lists -/

/-- A dialogue after which these lists are rebuilt as those of its result. -/
abbrev Rebuilds (dialogue : Dialogue α) (lists : List (List Node))
    (lists' : α → List (List Node)) : Prop :=
  dialogue.Leads fun asked value => Rebuilt asked lists (lists' value)

theorem Rebuilds.mapM {visit : α → Dialogue β} {lists : α → List (List Node)}
    {lists' : β → List (List Node)} (each : ∀ a, (visit a).Rebuilds (lists a) lists')
    (xs : List α) :
    (xs.mapM visit).Rebuilds (xs.flatMap lists) fun ys => ys.flatMap lists' := by
  induction xs with
  | nil =>
      rw [List.mapM_nil]
      exact Rebuilt.done
  | cons a rest ih =>
      rw [List.mapM_cons]
      refine (each a).bind fun asked b first => ?_
      exact ih.map fun more others following => first.append following

section

variable {f : List Inline → Dialogue (List Inline)} {h : List Block → Dialogue (List Block)}
  (inlines : ∀ content, (f content).Rebuilds [Node.ofInlines content] fun content' =>
    [Node.ofInlines content'])
  (blocks : ∀ content, (h content).Rebuilds [Node.ofBlocks content] fun content' =>
    [Node.ofBlocks content'])

include inlines in
theorem traverse_citation (citation : Citation) :
    (citation.traverse f).Rebuilds citation.lists Citation.lists := by
  refine (inlines citation.before).bind fun asked before front => ?_
  exact (inlines citation.after).map fun more after back => front.append back

include inlines in
theorem mapM_lines (lines : List (List Inline)) :
    (lines.mapM f).Rebuilds (lines.map Node.ofInlines) fun lines' =>
      lines'.map Node.ofInlines := by
  simpa only [List.map_eq_flatMap] using Rebuilds.mapM inlines lines

include blocks in
theorem mapM_items (items : List (List Block)) :
    (items.mapM h).Rebuilds (items.map Node.ofBlocks) fun items' =>
      items'.map Node.ofBlocks := by
  simpa only [List.map_eq_flatMap] using Rebuilds.mapM blocks items

include blocks in
theorem traverse_cell (cell : Cell) : (cell.traverse h).Rebuilds cell.lists Cell.lists :=
  (blocks cell.content).map fun _ _ inside => inside

include blocks in
theorem traverse_row (row : Row) : (row.traverse h).Rebuilds row.lists Row.lists :=
  (Rebuilds.mapM (traverse_cell blocks) row.cells).map fun _ _ cells => cells

include blocks in
theorem traverse_tableBody (body : TableBody) :
    (body.traverse h).Rebuilds body.lists TableBody.lists := by
  refine (Rebuilds.mapM (traverse_row blocks) body.head).bind fun asked head heading => ?_
  exact (Rebuilds.mapM (traverse_row blocks) body.rows).map fun more rows others =>
    heading.append others

include inlines blocks

theorem traverse_caption (caption : Caption) :
    (caption.traverse f h).Rebuilds caption.lists Caption.lists := by
  obtain ⟨short, long⟩ := caption
  cases short with
  | none =>
      rw [Caption.traverse, Option.mapM_none, pure_bind]
      exact (blocks long).map fun _ _ inside => inside
  | some short =>
      rw [Caption.traverse, Option.mapM_some, map_eq_pure_bind, bind_assoc]
      refine (inlines short).bind fun asked short' brief => ?_
      rw [pure_bind]
      exact (blocks long).map fun more long' inside => brief.append inside

theorem traverse_table (table : Table) :
    (table.traverse f h).Rebuilds table.lists Table.lists := by
  have rows (rows : List Row) := Rebuilds.mapM (traverse_row blocks) rows
  refine (traverse_caption inlines blocks table.caption).bind fun _ caption captions => ?_
  refine (rows table.head.rows).bind fun _ head heads => ?_
  refine (Rebuilds.mapM (traverse_tableBody blocks) table.bodies).bind fun _ bodies each => ?_
  refine (rows table.foot.rows).map fun _ foot feet => ?_
  exact captions.append (heads.append (each.append feet))

theorem traverse_definition (item : List Inline × List (List Block)) :
    (do
      let term ← f item.1
      let definitions ← item.2.mapM h
      return (term, definitions) : Dialogue (List Inline × List (List Block))).Rebuilds
        (Definition.lists item) Definition.lists := by
  refine (inlines item.1).bind fun asked term defined => ?_
  exact (mapM_items blocks item.2).map fun more definitions each => defined.append each

/-- The lists of an inline are rebuilt one after the other. -/
theorem traverse_inline (inline : Inline) :
    (inline.traverse f h).Rebuilds inline.lists Inline.lists := by
  cases inline with
  | cite citations content =>
      refine (Rebuilds.mapM (traverse_citation inlines) citations).bind fun _ _ each => ?_
      exact (inlines content).map fun _ _ inside => each.append inside
  | note content => exact (blocks content).map fun _ _ inside => inside
  | str | code | space | softBreak | lineBreak | math | raw => exact Rebuilt.done
  | emph content | underline content | strong content | strikeout content
  | superscript content | subscript content | smallCaps content | quoted _ content
  | link _ content _ | image _ content _ | span _ content =>
      exact (inlines content).map fun _ _ inside => inside

theorem traverse_block (block : Block) :
    (block.traverse f h).Rebuilds block.lists Block.lists := by
  cases block with
  | plain content | para content | header _ _ content =>
      exact (inlines content).map fun _ _ inside => inside
  | blockQuote content | div _ content => exact (blocks content).map fun _ _ inside => inside
  | lineBlock lines => exact (mapM_lines inlines lines).map fun _ _ each => each
  | orderedList _ items | bulletList items =>
      exact (mapM_items blocks items).map fun _ _ each => each
  | definitionList items =>
      exact (Rebuilds.mapM (traverse_definition inlines blocks) items).map fun _ _ each => each
  | table table => exact (traverse_table inlines blocks table).map fun _ _ inside => inside
  | figure _ caption content =>
      refine (traverse_caption inlines blocks caption).bind fun _ _ captions => ?_
      exact (blocks content).map fun _ _ inside => captions.append inside
  | code | raw | horizontalRule => exact Rebuilt.done

omit inlines blocks

mutual

theorem traverse_metaValue
    (inlines : ∀ content, (f content).Rebuilds [Node.ofInlines content] fun content' =>
      [Node.ofInlines content'])
    (blocks : ∀ content, (h content).Rebuilds [Node.ofBlocks content] fun content' =>
      [Node.ofBlocks content']) :
    ∀ value : MetaValue, (value.traverse f h).Rebuilds value.lists MetaValue.lists
  | .map entries => (traverse_metaEntries inlines blocks entries).map fun _ _ each => each
  | .list items => (traverse_metaItems inlines blocks items).map fun _ _ each => each
  | .bool _ => Rebuilt.done
  | .string _ => Rebuilt.done
  | .inlines content => (inlines content).map fun _ _ inside => inside
  | .blocks content => (blocks content).map fun _ _ inside => inside

theorem traverse_metaItems
    (inlines : ∀ content, (f content).Rebuilds [Node.ofInlines content] fun content' =>
      [Node.ofInlines content'])
    (blocks : ∀ content, (h content).Rebuilds [Node.ofBlocks content] fun content' =>
      [Node.ofBlocks content']) :
    ∀ values : List MetaValue, (MetaValue.traverseItems f h values).Rebuilds
      (MetaValue.listsOf values) MetaValue.listsOf
  | [] => Rebuilt.done
  | value :: rest => by
      refine (traverse_metaValue inlines blocks value).bind fun _ _ first => ?_
      exact (traverse_metaItems inlines blocks rest).map fun _ _ others => first.append others

theorem traverse_metaEntries
    (inlines : ∀ content, (f content).Rebuilds [Node.ofInlines content] fun content' =>
      [Node.ofInlines content'])
    (blocks : ∀ content, (h content).Rebuilds [Node.ofBlocks content] fun content' =>
      [Node.ofBlocks content']) :
    ∀ entries : List (String × MetaValue), (MetaValue.traverseEntries f h entries).Rebuilds
      (MetaValue.listsOfEntries entries) MetaValue.listsOfEntries
  | [] => Rebuilt.done
  | (_, value) :: rest => by
      refine (traverse_metaValue inlines blocks value).bind fun _ _ first => ?_
      exact (traverse_metaEntries inlines blocks rest).map fun _ _ others => first.append others

end

include inlines blocks in
theorem traverse_document (document : Document) :
    (document.traverse f h).Rebuilds document.lists Document.lists := by
  refine (traverse_metaEntries inlines blocks document.metadata).bind fun _ _ entries => ?_
  exact (blocks document.blocks).map fun _ _ inside => entries.append inside

end

/-! ## Walks -/

section

variable (node : α → Node) {descend : α → Dialogue α}
  (descends : ∀ a, (descend a).Leads fun asked b =>
    (node a).SameFrame (node b) ∧ Rebuilt asked (node a).lists (node b).lists)

include descends

theorem mapM_descend (nodes : List α) :
    (nodes.mapM descend).Leads fun asked nodes' =>
      List.Forall₂ Node.SameFrame (nodes.map node) (nodes'.map node) ∧
        Rebuilt asked ((nodes.map node).flatMap Node.lists)
          ((nodes'.map node).flatMap Node.lists) := by
  induction nodes with
  | nil =>
      rw [List.mapM_nil]
      exact ⟨.nil, .done⟩
  | cons a rest ih =>
      rw [List.mapM_cons]
      refine (descends a).bind fun asked b first => ?_
      refine ih.map fun more others following => ?_
      obtain ⟨frame, inside⟩ := first
      obtain ⟨frames, rebuilt⟩ := following
      exact ⟨.cons frame frames, inside.append rebuilt⟩

/-- A list is rebuilt from what takes the place of each of its nodes. -/
theorem splice_rebuilds {visit : α → Dialogue (List α)}
    (visits : ∀ a, (visit a).Leads fun asked nodes => ∃ action : Action α,
      nodes = action.after a ∧ asked = [⟨node a, .ok (action.map node)⟩])
    (content : List α) :
    (Visitor.splice visit descend content).Rebuilds [content.map node] fun content' =>
      [content'.map node] := by
  induction content with
  | nil => exact Rebuilt.next .done
  | cons a rest ih =>
      rw [Visitor.splice]
      refine (visits a).bind fun _ _ visited => ?_
      obtain ⟨action, rfl, rfl⟩ := visited
      refine (mapM_descend node descends (action.after a)).bind fun asked nodes inside => ?_
      refine ih.map fun more others following => ?_
      obtain ⟨frames, rebuilt⟩ := inside
      rw [← Action.after_map] at frames rebuilt
      have whole := Rebuilt.cons frames rebuilt following
      rwa [← List.map_append, ← List.map_cons] at whole

end

theorem visitInline (x : Inline) :
    (visitor.inline x).Leads fun asked nodes => ∃ action : Action Inline,
      nodes = action.after x ∧ asked = [⟨.inline x, .ok (action.map .inline)⟩] :=
  fun action => ⟨action, rfl, rfl⟩

theorem visitBlock (x : Block) :
    (visitor.block x).Leads fun asked nodes => ∃ action : Action Block,
      nodes = action.after x ∧ asked = [⟨.block x, .ok (action.map .block)⟩] :=
  fun action => ⟨action, rfl, rfl⟩

/-- A node is rebuilt with the frame it had, and its lists are rebuilt. -/
theorem descend_rebuilds (limit : Nat) :
    (∀ x, (visitor.descendInline limit x).Leads fun asked y =>
      (Node.inline x).SameFrame (.inline y) ∧ Rebuilt asked x.lists y.lists) ∧
    ∀ x, (visitor.descendBlock limit x).Leads fun asked y =>
      (Node.block x).SameFrame (.block y) ∧ Rebuilt asked x.lists y.lists := by
  induction limit with
  | zero => exact ⟨fun _ => trivial, fun _ => trivial⟩
  | succ limit ih =>
      obtain ⟨descendInline, descendBlock⟩ := ih
      have inlines := splice_rebuilds .inline descendInline visitInline
      have blocks := splice_rebuilds .block descendBlock visitBlock
      constructor
      · intro x
        exact (leads_sameFrame_inline x).and (traverse_inline inlines blocks x)
      · intro x
        exact (leads_sameFrame_block x).and (traverse_block inlines blocks x)

theorem document_rebuilds (limit : Nat) (source : Document) :
    (visitor.document limit source).Leads fun asked result =>
      source.SameFrame result ∧ Rebuilt asked source.lists result.lists := by
  obtain ⟨descendInline, descendBlock⟩ := descend_rebuilds limit
  have inlines := splice_rebuilds .inline descendInline visitInline
  have blocks := splice_rebuilds .block descendBlock visitBlock
  exact (leads_sameFrame_document source).and (traverse_document inlines blocks source)

end Dialogue

/-! ## Documents -/

namespace Document

variable {σ : Type}

/-- Everything that a filter is asked on a walk of a document, with its answers. -/
def record (source : Document) (filter : NodeFilter σ) (format : String) (limit : Nat)
    (state : σ) : List Enquiry :=
  (source.filter filter.recorded format limit (state, [])).state.2

theorem record_eq (source : Document) (filter : NodeFilter σ) (format : String) (limit : Nat)
    (state : σ) :
    source.record filter format limit state =
      Walk.enquiries filter ⟨format, source.metadata⟩ (Dialogue.visitor.document limit source)
        ⟨state, {}, #[]⟩ := by
  have recorded := Walk.converse_recorded filter ⟨format, source.metadata⟩
    (Dialogue.visitor.document limit source) ⟨state, {}, #[]⟩ []
  have last := source.filter_state filter.recorded format limit (state, [])
  exact congrArg Prod.snd (last.trans (congrArg (fun outcome => outcome.2.state) recorded))

/-- A document that was walked without error has the version that it had, and its metadata
have the same keys, lengths of lists and scalars. All its lists are rebuilt with what the
filter answered, each node in the frame that it had. In particular the nodes that the filter
kept have, one by one, the frames of nodes of the result that stand in the same order. -/
theorem filter_frames {source result : Document} {filter : NodeFilter σ} {format : String}
    {limit : Nat} {state : σ}
    (walked : (source.filter filter format limit state).result = .ok result) :
    source.SameFrame result ∧
      Rebuilt (source.record filter format limit state) source.lists result.lists ∧
      ∃ nodes, List.Forall₂ Node.SameFrame
          ((source.record filter format limit state).filterMap Enquiry.kept?) nodes ∧
        nodes.Sublist result.nodes := by
  rw [filter_result] at walked
  obtain ⟨frame, rebuilt⟩ := (Dialogue.document_rebuilds limit source).converse walked
  rw [← record_eq] at rebuilt
  have kept := rebuilt.exists_sublist
  rw [read_lists] at kept
  exact ⟨frame, rebuilt, kept⟩

/-- A filter that counts what it is asked. It drops rules when the count is even, and puts two
texts in the place of a space. -/
def dropping : NodeFilter Nat where
  block _ node count :=
    match node with
    | .horizontalRule =>
        ⟨.pure (if count % 2 == 0 then .many [] else .keep), count + 1⟩
    | _ => ⟨.pure .keep, count + 1⟩
  inline _ node count :=
    match node with
    | .space => ⟨.pure (.many [.str "-", .str "-"]), count + 1⟩
    | _ => ⟨.pure .keep, count + 1⟩

/-- A document with a space in a metadata list, and with rules in a cell of a table in an
item. -/
def ruled : Document where
  version := [1, 23]
  metadata := [("k", .list [.inlines [.space], .bool true])]
  blocks :=
    [.orderedList ⟨3, .decimal, .period⟩
      [[.table ⟨⟨"t", [], []⟩, ⟨none, []⟩, [⟨.left, .default⟩],
        ⟨.empty, [⟨.empty, [⟨.empty, .right, 1, 2, [.horizontalRule, .horizontalRule]⟩]⟩]⟩, [],
        ⟨.empty, []⟩⟩], []]]

/-- The same document after a walk with that filter. -/
def partlyRuled : Document where
  version := [1, 23]
  metadata := [("k", .list [.inlines [.str "-", .str "-"], .bool true])]
  blocks :=
    [.orderedList ⟨3, .decimal, .period⟩
      [[.table ⟨⟨"t", [], []⟩, ⟨none, []⟩, [⟨.left, .default⟩],
        ⟨.empty, [⟨.empty, [⟨.empty, .right, 1, 2, [.horizontalRule]⟩]⟩]⟩, [],
        ⟨.empty, []⟩⟩], []]]

/-- The space is replaced and a rule is dropped, and all that they stood in stays. -/
theorem filter_frames_ruled :
    (ruled.filter dropping "html" 4 0).result = .ok partlyRuled ∧
      ruled.SameFrame partlyRuled ∧
      Rebuilt (ruled.record dropping "html" 4 0) ruled.lists partlyRuled.lists := by
  have walked : (ruled.filter dropping "html" 4 0).result = .ok partlyRuled := rfl
  obtain ⟨frame, rebuilt, -⟩ := filter_frames walked
  exact ⟨walked, frame, rebuilt⟩

end Document

end DocFilter
