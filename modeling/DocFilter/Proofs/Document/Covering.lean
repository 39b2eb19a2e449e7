import DocFilter.Proofs.Document.Alike
import DocFilter.Proofs.Document.Codec
import DocFilter.Proofs.Json.ReadAs
import DocFilter.Proofs.Success

/-!
# Values that cover others

A value covers another one if that is no deeper and has no floating point number of its
own. What stands inside a value is covered by it, and nodes with the same frame cover each
other as their children do.
-/

namespace DocFilter

namespace Json

/-- Another value is no deeper, and its floating point numbers are among those of the
value. -/
structure Covers (value other : Json) : Prop where
  depth_le : other.depth ≤ value.depth
  reals : ∀ width, .real width ∈ other.numbers → .real width ∈ value.numbers

namespace Covers

theorem refl (value : Json) : value.Covers value := ⟨Nat.le_refl _, fun _ member => member⟩

theorem trans {x y z : Json} (first : x.Covers y) (second : y.Covers z) : x.Covers z where
  depth_le := Nat.le_trans second.depth_le first.depth_le
  reals width member := first.reals width (second.reals width member)

/-- A list covers another one if each item of that is covered by one of its items. -/
theorem list {items others : List Json}
    (each : ∀ other ∈ others, ∃ item ∈ items, item.Covers other) :
    (Json.list items).Covers (.list others) where
  depth_le := by
    refine Nat.succ_le_succ (depths_le_iff.mpr fun other member => ?_)
    obtain ⟨item, listed, covers⟩ := each other member
    exact Nat.le_trans covers.depth_le (depths_le_iff.mp (Nat.le_refl _) item listed)
  reals width within := by
    obtain ⟨other, member, inside⟩ := mem_listNumbers.mp within
    obtain ⟨item, listed, covers⟩ := each other member
    exact mem_listNumbers.mpr ⟨item, listed, covers.reals width inside⟩

/-- Lists cover each other item by item. -/
theorem items {items others : List Json} (each : List.Forall₂ Covers items others) :
    (Json.list items).Covers (.list others) :=
  list fun _ member => exists_of_forall₂ each member

/-- Lists of what is written cover each other item by item. -/
theorem mapped {α : Type} {related : α → α → Prop} {write : α → Json} {xs ys : List α}
    (covers : ∀ ⦃x y⦄, related x y → (write x).Covers (write y))
    (each : List.Forall₂ related xs ys) :
    (Json.list (xs.map write)).Covers (.list (ys.map write)) :=
  items (List.rel_map covers each)

/-- A list of what is written covers another one if for each item of that one of its items
does. -/
theorem mapped_of_forall {α : Type} {write : α → Json} {xs ys : List α}
    (each : ∀ y ∈ ys, ∃ x ∈ xs, (write x).Covers (write y)) :
    (Json.list (xs.map write)).Covers (.list (ys.map write)) := by
  refine .list (List.forall_mem_map.mpr fun y member => ?_)
  obtain ⟨x, listed, covers⟩ := each y member
  exact ⟨write x, List.mem_map_of_mem listed, covers⟩

theorem item {items : List Json} {item : Json} (member : item ∈ items) :
    (Json.list items).Covers item where
  depth_le := Nat.le_succ_of_le (depths_le_iff.mp (Nat.le_refl _) item member)
  reals _ inside := mem_listNumbers.mpr ⟨item, member, inside⟩

/-- Objects cover each other member by member. -/
theorem members {members others : List (String × Json)}
    (each : List.Forall₂ (fun member other => member.2.Covers other.2) members others) :
    (object members).Covers (object others) where
  depth_le := by
    refine Nat.succ_le_succ (memberDepths_le_iff.mpr fun other member => ?_)
    obtain ⟨member, listed, covers⟩ := exists_of_forall₂ each member
    exact Nat.le_trans covers.depth_le (memberDepths_le_iff.mp (Nat.le_refl _) member listed)
  reals width within := by
    obtain ⟨other, member, inside⟩ := mem_memberNumbers.mp within
    obtain ⟨member, listed, covers⟩ := exists_of_forall₂ each member
    exact mem_memberNumbers.mpr ⟨member, listed, covers.reals width inside⟩

/-- Nodes cover each other as their contents do, whatever their tags are. -/
theorem node {tag tag' : String} {content other : Json} (inside : content.Covers other) :
    (Json.node tag content).Covers (.node tag' other) :=
  members (.cons ⟨Nat.le_refl 0, nofun⟩ (.cons inside .nil))

theorem content {tag : String} {content : Json} : (Json.node tag content).Covers content where
  depth_le := Nat.le_succ_of_le (Nat.le_trans (Nat.le_max_left _ _) (Nat.le_max_right _ _))
  reals _ inside := mem_memberNumbers.mpr ⟨("c", content), by simp, inside⟩

/-- What covers a list covers what its items are. -/
theorem of_mapped {α : Type} {write : α → Json} {xs : List α} {value : Json} {x : α}
    (covers : value.Covers (.list (xs.map write))) (member : x ∈ xs) : value.Covers (write x) :=
  covers.trans (item (List.mem_map_of_mem member))

end Covers

end Json

/-! ## Nodes with the same frame -/

/-- The value of some inlines covers that of others. -/
def Inline.CoverAll (xs ys : List Inline) : Prop :=
  (Json.list (toJsons xs)).Covers (.list (toJsons ys))

def Block.CoverAll (xs ys : List Block) : Prop :=
  (Json.list (toJsons xs)).Covers (.list (toJsons ys))

open Json (Covers)

theorem Inline.coverAll_of_forall {xs ys : List Inline}
    (each : ∀ y ∈ ys, ∃ x ∈ xs, x.toJson.Covers y.toJson) : CoverAll xs ys := by
  rw [CoverAll, toJsons_eq, toJsons_eq]
  exact .mapped_of_forall each

theorem Block.coverAll_of_forall {xs ys : List Block}
    (each : ∀ y ∈ ys, ∃ x ∈ xs, x.toJson.Covers y.toJson) : CoverAll xs ys := by
  rw [CoverAll, toJsons_eq, toJsons_eq]
  exact .mapped_of_forall each

namespace Covers

theorem lines {xs ys : List (List Inline)} (each : List.Forall₂ Inline.CoverAll xs ys) :
    (Json.list (Inline.linesToJson xs)).Covers (.list (Inline.linesToJson ys)) := by
  rw [Inline.linesToJson_eq, Inline.linesToJson_eq]
  exact .mapped (fun _ _ covers => covers) each

theorem blockItems {xs ys : List (List Block)} (each : List.Forall₂ Block.CoverAll xs ys) :
    (Json.list (Block.itemsToJson xs)).Covers (.list (Block.itemsToJson ys)) := by
  rw [Block.itemsToJson_eq, Block.itemsToJson_eq]
  exact .mapped (fun _ _ covers => covers) each

end Covers

theorem Citation.Alike.covers {x y : Citation} (alike : x.Alike Inline.CoverAll y) :
    x.toJson.Covers y.toJson := by
  cases alike with
  | intro front back =>
      exact .members (.cons (.refl _) (.cons front (.cons back (.cons (.refl _)
        (.cons (.refl _) (.cons (.refl _) .nil))))))

theorem Inline.Alike.covers {x y : Inline} (alike : x.Alike Inline.CoverAll Block.CoverAll y) :
    x.toJson.Covers y.toJson := by
  cases alike with
  | str | code | space | softBreak | lineBreak | math | raw => exact .refl _
  | emph inside | underline inside | strong inside | strikeout inside | superscript inside
  | subscript inside | smallCaps inside | note inside => exact .node inside
  | quoted inside | span inside => exact .node (.items (.cons (.refl _) (.cons inside .nil)))
  | cite each inside =>
      have cited := Covers.mapped (fun _ _ alike => Citation.Alike.covers alike) each
      rw [← Citation.toJsons_eq, ← Citation.toJsons_eq] at cited
      exact .node (.items (.cons cited (.cons inside .nil)))
  | link inside | image inside =>
      exact .node (.items (.cons (.refl _) (.cons inside (.cons (.refl _) .nil))))

theorem Caption.Alike.covers {x y : Caption}
    (alike : x.Alike Inline.CoverAll Block.CoverAll y) : x.toJson.Covers y.toJson := by
  cases alike with
  | intro brief inside =>
      cases brief with
      | none => exact .items (.cons (.refl _) (.cons inside .nil))
      | some short => exact .items (.cons short (.cons inside .nil))

theorem Cell.Alike.covers {x y : Cell} (alike : x.Alike Block.CoverAll y) :
    x.toJson.Covers y.toJson := by
  cases alike with
  | intro inside =>
      exact .items (.cons (.refl _) (.cons (.refl _) (.cons (.refl _) (.cons (.refl _)
        (.cons inside .nil)))))

theorem Row.Alike.covers {x y : Row} (alike : x.Alike Block.CoverAll y) :
    x.toJson.Covers y.toJson := by
  cases alike with
  | intro each =>
      have cells := Covers.mapped (fun _ _ alike => Cell.Alike.covers alike) each
      rw [← Cell.toJsons_eq, ← Cell.toJsons_eq] at cells
      exact .items (.cons (.refl _) (.cons cells .nil))

theorem Row.Alike.covers_all {xs ys : List Row}
    (each : List.Forall₂ (Row.Alike Block.CoverAll) xs ys) :
    (Json.list (toJsons xs)).Covers (.list (toJsons ys)) := by
  rw [toJsons_eq, toJsons_eq]
  exact .mapped (fun _ _ alike => Row.Alike.covers alike) each

theorem TableBody.Alike.covers {x y : TableBody} (alike : x.Alike Block.CoverAll y) :
    x.toJson.Covers y.toJson := by
  cases alike with
  | intro heading each =>
      have head := Row.Alike.covers_all heading
      have rows := Row.Alike.covers_all each
      exact .items (.cons (.refl _) (.cons (.refl _) (.cons head (.cons rows .nil))))

theorem Table.Alike.covers {x y : Table} (alike : x.Alike Inline.CoverAll Block.CoverAll y) :
    x.toJson.Covers y.toJson := by
  cases alike with
  | intro captions heads each feet =>
      have head := Row.Alike.covers_all heads
      have bodies := Covers.mapped (fun _ _ alike => TableBody.Alike.covers alike) each
      rw [← TableBody.toJsons_eq, ← TableBody.toJsons_eq] at bodies
      have foot := Row.Alike.covers_all feet
      exact .items (.cons (.refl _) (.cons captions.covers (.cons (.refl _)
        (.cons (.items (.cons (.refl _) (.cons head .nil))) (.cons bodies
          (.cons (.items (.cons (.refl _) (.cons foot .nil))) .nil))))))

theorem Definition.Alike.covers {x y : List Inline × List (List Block)}
    (alike : Definition.Alike Inline.CoverAll Block.CoverAll x y) :
    (Json.list [.list (Inline.toJsons x.1), .list (Block.itemsToJson x.2)]).Covers
      (.list [.list (Inline.toJsons y.1), .list (Block.itemsToJson y.2)]) := by
  cases alike with
  | intro defined each => exact .items (.cons defined (.cons (Covers.blockItems each) .nil))

theorem Block.Alike.covers {x y : Block} (alike : x.Alike Inline.CoverAll Block.CoverAll y) :
    x.toJson.Covers y.toJson := by
  cases alike with
  | code | raw | horizontalRule => exact .refl _
  | plain inside | para inside | blockQuote inside => exact .node inside
  | lineBlock each => exact .node (Covers.lines each)
  | orderedList each =>
      exact .node (.items (.cons (.refl _) (.cons (Covers.blockItems each) .nil)))
  | bulletList each => exact .node (Covers.blockItems each)
  | definitionList each =>
      have items := Covers.mapped (fun _ _ alike => Definition.Alike.covers alike) each
      rw [← Block.definitionsToJson_eq, ← Block.definitionsToJson_eq] at items
      exact .node items
  | header inside =>
      exact .node (.items (.cons (.refl _) (.cons (.refl _) (.cons inside .nil))))
  | table inside => exact .node inside.covers
  | figure captions inside =>
      exact .node (.items (.cons (.refl _) (.cons captions.covers (.cons inside .nil))))
  | div inside => exact .node (.items (.cons (.refl _) (.cons inside .nil)))

mutual

theorem MetaValue.Alike.covers {x y : MetaValue}
    (alike : x.Alike Inline.CoverAll Block.CoverAll y) : x.toJson.Covers y.toJson := by
  cases alike with
  | map each => exact .node (.members (MetaValue.AlikeEntries.covers each))
  | list each => exact .node (.items (MetaValue.AlikeItems.covers each))
  | bool | string => exact .refl _
  | inlines inside => exact .node inside
  | blocks inside => exact .node inside

theorem MetaValue.AlikeItems.covers {xs ys : List MetaValue}
    (alike : MetaValue.AlikeItems Inline.CoverAll Block.CoverAll xs ys) :
    List.Forall₂ Covers (MetaValue.toJsons xs) (MetaValue.toJsons ys) := by
  cases alike with
  | nil => exact .nil
  | cons first others =>
      exact .cons (MetaValue.Alike.covers first) (MetaValue.AlikeItems.covers others)

theorem MetaValue.AlikeEntries.covers {xs ys : List (String × MetaValue)}
    (alike : MetaValue.AlikeEntries Inline.CoverAll Block.CoverAll xs ys) :
    List.Forall₂ (fun member other => member.2.Covers other.2) (MetaValue.entriesToJson xs)
      (MetaValue.entriesToJson ys) := by
  cases alike with
  | nil => exact .nil
  | cons first others =>
      exact .cons (MetaValue.Alike.covers first) (MetaValue.AlikeEntries.covers others)

end

theorem Document.Alike.covers {x y : Document}
    (alike : x.Alike Inline.CoverAll Block.CoverAll y) : x.toJson.Covers y.toJson := by
  cases alike with
  | intro entries inside =>
      exact .members (.cons (.refl _) (.cons (.members entries.covers) (.cons inside .nil)))

/-! ## Order of metadata -/

section

variable {inlines : List Inline → List Inline → Prop} {blocks : List Block → List Block → Prop}

/-- Entries that are alike have the same keys. -/
theorem MetaValue.AlikeEntries.keys_eq {xs ys : List (String × MetaValue)}
    (alike : MetaValue.AlikeEntries inlines blocks xs ys) :
    xs.map Prod.fst = ys.map Prod.fst := by
  induction xs generalizing ys with
  | nil =>
      cases alike
      rfl
  | cons entry rest ih =>
      cases alike with
      | cons first others => exact congrArg (List.cons _) (ih others)

theorem MetaValue.AlikeEntries.increasing {xs ys : List (String × MetaValue)}
    (alike : MetaValue.AlikeEntries inlines blocks xs ys) (sorted : Entries.Sorted xs) :
    Entries.Sorted ys := by
  have keys : (xs.map Prod.fst).Pairwise (· < ·) := List.pairwise_map.mpr sorted
  rw [alike.keys_eq] at keys
  exact List.pairwise_map.mp keys

mutual

theorem MetaValue.Alike.sorted {x y : MetaValue} (alike : x.Alike inlines blocks y)
    (sorted : x.Sorted) : y.Sorted := by
  cases alike with
  | map entries =>
      cases sorted with
      | map increasing each =>
          exact .map (entries.increasing increasing) (MetaValue.AlikeEntries.sorted entries each)
  | list items =>
      cases sorted with
      | list each => exact .list (MetaValue.AlikeItems.sorted items each)
  | bool value => exact .bool value
  | string text => exact .string text
  | inlines => exact .inlines _
  | blocks => exact .blocks _

theorem MetaValue.AlikeItems.sorted {xs ys : List MetaValue}
    (alike : MetaValue.AlikeItems inlines blocks xs ys) (sorted : ∀ item ∈ xs, item.Sorted) :
    ∀ item ∈ ys, item.Sorted := by
  cases alike with
  | nil => exact List.forall_mem_nil _
  | cons first others =>
      obtain ⟨head, tail⟩ := List.forall_mem_cons.mp sorted
      exact List.forall_mem_cons.mpr
        ⟨MetaValue.Alike.sorted first head, MetaValue.AlikeItems.sorted others tail⟩

theorem MetaValue.AlikeEntries.sorted {xs ys : List (String × MetaValue)}
    (alike : MetaValue.AlikeEntries inlines blocks xs ys)
    (sorted : ∀ entry ∈ xs, entry.2.Sorted) : ∀ entry ∈ ys, entry.2.Sorted := by
  cases alike with
  | nil => exact List.forall_mem_nil _
  | cons first others =>
      obtain ⟨head, tail⟩ := List.forall_mem_cons.mp sorted
      exact List.forall_mem_cons.mpr
        ⟨MetaValue.Alike.sorted first head, MetaValue.AlikeEntries.sorted others tail⟩

end

/-- Documents that are alike are in order together. -/
theorem Document.Alike.sorted {x y : Document} (alike : x.Alike inlines blocks y)
    (sorted : x.Sorted) : y.Sorted := by
  cases alike with
  | intro entries inside =>
      exact ⟨entries.increasing sorted.increasing, entries.sorted sorted.each⟩

end

end DocFilter
