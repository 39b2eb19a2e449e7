import DocFilter.Proofs.Channel
import DocFilter.Proofs.Decode.Restoring
import DocFilter.Proofs.Document.Accepted
import DocFilter.Proofs.Document.RoundTrip
import DocFilter.Proofs.Rendering.Complete

/-!
# Texts that pass through

A chain of renderings none of which has the format as its target writes what was read. The
text that comes out denotes the value that went in, but for the forms in which values come
back and for widths that are rounded; it denotes the same value exactly if that is what is
written for a document, and the numerals are those of its numbers.
-/

namespace DocFilter

open Json (Found Outline Value)

/-! ## Walks that keep every node -/

namespace Answers

theorem eq_of_splice_keep {α : Type} {descend : α → Except Halt α}
    (same : ∀ x y, descend x = .ok y → x = y) {xs ys : List α}
    (walked : Visitor.splice (fun node => nodes node (.ok .keep)) descend xs = .ok ys) :
    xs = ys := by
  induction xs generalizing ys with
  | nil =>
      cases walked
      rfl
  | cons x rest ih =>
      rw [Visitor.splice] at walked
      obtain ⟨kept, visited, walked⟩ := exists_of_bind_eq_ok walked
      obtain ⟨rebuilt, mapped, walked⟩ := exists_of_bind_eq_ok walked
      obtain ⟨others, following, walked⟩ := exists_of_bind_eq_ok walked
      cases walked
      cases visited
      have single := eq_of_forall₂ same (forall₂_of_mapM mapped)
      rw [← single, ← ih following]
      rfl

theorem descend_keep (limit : Nat) :
    (∀ x y : Inline, keep.visitor.descendInline limit x = .ok y → x = y) ∧
      ∀ x y : Block, keep.visitor.descendBlock limit x = .ok y → x = y := by
  induction limit with
  | zero =>
      constructor
      · rintro x y ⟨⟩
      · rintro x y ⟨⟩
  | succ limit ih =>
      have inlines (xs ys : List Inline) (walked : keep.visitor.inlines limit xs = .ok ys) :
          xs = ys := eq_of_splice_keep ih.1 walked
      have blocks (xs ys : List Block) (walked : keep.visitor.blocks limit xs = .ok ys) :
          xs = ys := eq_of_splice_keep ih.2 walked
      constructor
      · intro x y walked
        exact (Inline.alike_of_traverse inlines blocks walked).eq
          (fun _ _ same => same) fun _ _ same => same
      · intro x y walked
        exact (Block.alike_of_traverse inlines blocks walked).eq
          (fun _ _ same => same) fun _ _ same => same

/-- What comes of a walk that keeps every node, within whatever limit, is the document. -/
theorem eq_of_document_keep {limit : Nat} {source result : Document}
    (walked : keep.visitor.document limit source = .ok result) : source = result := by
  obtain ⟨descendInline, descendBlock⟩ := descend_keep limit
  have alike := Document.alike_of_traverse (fun _ _ => eq_of_splice_keep descendInline)
    (fun _ _ => eq_of_splice_keep descendBlock) walked
  exact alike.eq (fun _ _ same => same) fun _ _ same => same

end Answers

/-! ## Texts in and out -/

namespace Document

variable {text : String} {source : Document}

theorem records_distinct : ∀ names ∈ grammar.records, names.Nodup := by decide

theorem distinct_of_ofText (read : ofText text = .ok source) : source.toJson.Distinct := by
  obtain ⟨outline, -, decoded⟩ := decoder_of_ofSource read
  exact Document.takes (Json.distinct_forms records_distinct) _ _ _ decoded

theorem exists_outline_of_ofText? {value : Value} (denotes : Value.ofText? text = some value) :
    ∃ outline : Outline, Json.Scan.ofSource (.ofText text) = ⟨outline, []⟩ ∧
      outline.value? = some value := by
  rw [Value.ofText?] at denotes
  split at denotes
  case h_1 outline scanned => exact ⟨outline, scanned, denotes⟩
  case h_2 => cases denotes

/-- What a text denotes is respelt. -/
theorem respelt_of_ofText (read : ofText text = .ok source) {value : Value}
    (denotes : Value.ofText? text = some value) : value.Respelt grammar source.toJson.value := by
  obtain ⟨outline, scanned, decoded⟩ := decoder_of_ofSource read
  obtain ⟨other, scanned', denotes⟩ := exists_outline_of_ofText? denotes
  cases scanned.symm.trans scanned'
  exact Document.takes (Json.respelt_forms grammar) _ _ _ decoded value denotes

/-- A text that denotes what is written for the document that it was read as has the form in
which the document is written. -/
theorem writtenAs_of_ofText (read : ofText text = .ok source)
    (denotes : Value.ofText? text = some source.toJson.value) : source.toJson.WrittenAs text := by
  obtain ⟨outline, scanned, decoded⟩ := decoder_of_ofSource read
  obtain ⟨other, scanned', denotes⟩ := exists_outline_of_ofText? denotes
  cases scanned.symm.trans scanned'
  have restores := Document.takes (Json.restores_forms records_distinct) _ _ _ decoded
  exact ⟨outline, scanned, restores denotes⟩

/-- What is read as the value of a document is decoded to that document. -/
theorem eq_of_writtenAs {document : Document} (read : ofText text = .ok source)
    (sorted : document.Sorted) (shallow : document.toJson.depth ≤ 127)
    (written : document.toJson.WrittenAs text) : source = document :=
  Except.ok.inj (read.symm.trans (ofText_of_writtenAs sorted shallow written))

end Document

section

variable {chain : Chain Rendering} {format : String} {limit : Document → Nat} {text out : String}
  {σ : Type} {state : σ}

/-- A text that passes through a chain of renderings for another format comes out as the text
of the document that it was read as. This denotes what the text denotes, but for the forms
in which values come back. It denotes the same value exactly if the text denotes what is
written for a document and is read as that document: if it has the form in which the document
is written, and its numerals are those that are written for the numbers that they are read as. -/
theorem Document.filterText_respells
    (others : ∀ rendering ∈ chain.leaves, rendering.targetFormat ≠ format)
    (filtered : (filterText chain.rendering format limit text state).result = .ok out) :
    ∃ source : Document, ofText text = .ok source ∧ out = source.toText .compact ∧
      Value.ofText? out = some source.toJson.value ∧
      (∀ value, Value.ofText? text = some value → value.Respelt grammar source.toJson.value) ∧
      (Value.ofText? out = Value.ofText? text ↔
        ∃ document : Document, document.Sorted ∧ document.toJson.depth ≤ 127 ∧
          document.toJson.WrittenAs text ∧
          Value.ofText? text = some document.toJson.value) := by
  obtain ⟨result, made, rfl⟩ := exists_of_map_eq_ok filtered
  rw [filterSource_result] at made
  obtain ⟨source, read, walked⟩ := exists_of_bind_eq_ok made
  have read : ofText text = .ok source := eq_ok_of_mapError_eq_ok read
  have gives : (chain.rendering (σ := σ)).Gives ⟨format, source.metadata⟩ Answers.keep :=
    chain.gives_keep others
  rw [gives.result] at walked
  obtain rfl := Answers.eq_of_document_keep walked
  have denotes : Value.ofText? (source.toText .compact) = some source.toJson.value :=
    Value.ofText?_toText .compact (distinct_of_ofText read)
  refine ⟨source, read, rfl, denotes, fun value => respelt_of_ofText read, ?_⟩
  rw [denotes]
  constructor
  · intro same
    exact ⟨source, sorted_of_ofSource read, depth_le_of_ofSource read,
      writtenAs_of_ofText read same.symm, same.symm⟩
  · rintro ⟨document, sorted, shallow, written, same⟩
    obtain rfl := eq_of_writtenAs read sorted shallow written
    exact same.symm

end

/-- A value with a rule as a list, one with a content of null and a member that no rule has,
and with a member that no document has. -/
def Json.loose : Json :=
  .object [
    ("blocks", .list [.list [.string "HorizontalRule", .null],
      .object [("c", .null), ("t", .string "HorizontalRule"), ("x", .string "y")]]),
    ("pandoc-api-version", .list [.int 1, .int 23]),
    ("meta", .object []),
    ("other", .list [])]

/-- The document that such a value is read as. -/
def Document.twoRules : Document := ⟨[1, 23], [], [.horizontalRule, .horizontalRule]⟩

theorem Json.loose_distinct : loose.Distinct := by
  simp [loose, int]

theorem Json.ofText?_loose : Value.ofText? (loose.toText .compact) = some loose.value :=
  Value.ofText?_toText .compact loose_distinct

theorem Block.eq_of_kind_horizontalRule {block : Block} (rule : block.kind = .horizontalRule) :
    block = .horizontalRule := by
  cases block with
  | horizontalRule => rfl
  | _ => cases rule

theorem Document.ofText_loose : ofText (Json.loose.toText .compact) = .ok twoRules := by
  have evaluated : ((ofText (Json.loose.toText .compact)).toOption.map fun source =>
      (source.version, source.metadata.length, source.blocks.map Block.kind)) =
        some ([1, 23], 0, [.horizontalRule, .horizontalRule]) := by
    decide +kernel
  generalize ofText _ = read at evaluated ⊢
  cases read with
  | error error => cases evaluated
  | ok source =>
      obtain ⟨version, metadata, blocks⟩ := source
      have parts := Option.some.inj evaluated
      simp only [Prod.mk.injEq, List.length_eq_zero_iff, List.map_eq_cons_iff,
        List.map_eq_nil_iff] at parts
      obtain ⟨rfl, rfl, first, _, rfl, rule, second, _, rfl, rule', rfl⟩ := parts
      rw [Block.eq_of_kind_horizontalRule rule, Block.eq_of_kind_horizontalRule rule']
      rfl

/-- Both rules come out as objects, and everything else that is in excess is gone. -/
theorem Document.filterText_loose :
    (filterText Chain.nested.rendering "html" height (Json.loose.toText .compact) ()).result =
      .ok (twoRules.toText .compact) := by
  have read : ofSource (.ofText (Json.loose.toText .compact)) = .ok twoRules := ofText_loose
  have gives : (Chain.nested.rendering (σ := Unit)).Gives ⟨"html", twoRules.metadata⟩ .keep :=
    Chain.nested.gives_keep (by decide)
  have walked : (twoRules.filter Chain.nested.rendering "html" twoRules.height ()).result =
      .ok twoRules := by
    rw [gives.result, Answers.keep_document (Nat.le_refl _)]
  rw [filterText]
  dsimp only
  rw [filterSource_result, read]
  exact congrArg (Except.map fun document => document.toText .compact) walked

/-- What comes out for such a value is respelt, by a chain that renders nothing for the
format. -/
theorem Document.filterText_respells_loose :
    (∀ rendering ∈ Chain.nested.leaves, rendering.targetFormat ≠ "html") ∧
      ∃ source : Document, ofText (Json.loose.toText .compact) = .ok source ∧
        Value.ofText? (twoRules.toText .compact) = some source.toJson.value ∧
        Json.loose.value.Respelt grammar source.toJson.value ∧
        (Value.ofText? (twoRules.toText .compact) = Value.ofText? (Json.loose.toText .compact) ↔
          ∃ document : Document, document.Sorted ∧ document.toJson.depth ≤ 127 ∧
            document.toJson.WrittenAs (Json.loose.toText .compact) ∧
            Value.ofText? (Json.loose.toText .compact) = some document.toJson.value) := by
  have others : ∀ rendering ∈ Chain.nested.leaves, rendering.targetFormat ≠ "html" := by decide
  obtain ⟨source, read, -, denotes, respelt, same⟩ := filterText_respells others filterText_loose
  exact ⟨others, source, read, denotes, respelt _ Json.ofText?_loose, same⟩

/-- What comes out for such a value denotes another. -/
theorem Document.filterText_not_lossless :
    (∀ rendering ∈ Chain.nested.leaves, rendering.targetFormat ≠ "html") ∧
      Value.ofText? (Json.loose.toText .compact) = some Json.loose.value ∧
      (filterText Chain.nested.rendering "html" height (Json.loose.toText .compact) ()).result =
        .ok (twoRules.toText .compact) ∧
      Value.ofText? (twoRules.toText .compact) ≠ Value.ofText? (Json.loose.toText .compact) := by
  refine ⟨by decide, Json.ofText?_loose, filterText_loose, fun same => ?_⟩
  have denotes : Value.ofText? (twoRules.toText .compact) = some twoRules.toJson.value :=
    Value.ofText?_toText .compact (distinct_of_ofText ofText_loose)
  rw [denotes, Json.ofText?_loose] at same
  have other := congrFun (Value.object.inj (Option.some.inj same)) "other"
  cases other

end DocFilter
