/-!
# Entries in the order of their keys

A map from strings is the list of its entries, with keys increasing. Keys are
compared character by character.
-/

namespace DocFilter.Entries

variable {α : Type}

/-- Puts an entry where its key belongs. An entry with the same key is replaced. -/
def insert (key : String) (value : α) : List (String × α) → List (String × α)
  | [] => [(key, value)]
  | (other, held) :: rest =>
      if key < other then (key, value) :: (other, held) :: rest
      else if key = other then (key, value) :: rest
      else (other, held) :: insert key value rest

/-- The keys increase from one entry to the next. -/
def Sorted (entries : List (String × α)) : Prop :=
  entries.Pairwise fun first second => first.1 < second.1

/-- What is in a map after an entry is put where it belongs: that entry, and
otherwise nothing new. -/
theorem mem_insert {key : String} {value : α} {entries : List (String × α)}
    {entry : String × α} (member : entry ∈ insert key value entries) :
    entry = (key, value) ∨ entry ∈ entries := by
  induction entries with
  | nil => simpa [insert] using member
  | cons head rest ih =>
      obtain ⟨first, held⟩ := head
      unfold insert at member
      split at member
      · simpa using member
      · split at member
        · rcases List.mem_cons.mp member with same | later
          · exact .inl same
          · exact .inr (List.mem_cons_of_mem _ later)
        · rcases List.mem_cons.mp member with same | later
          · exact .inr (same ▸ List.mem_cons_self)
          · rcases ih later with new | old
            · exact .inl new
            · exact .inr (List.mem_cons_of_mem _ old)

/-- Keys still increase after an entry is put where it belongs. -/
theorem sorted_insert (key : String) (value : α) {entries : List (String × α)}
    (sorted : Sorted entries) : Sorted (insert key value entries) := by
  induction entries with
  | nil => simp [Sorted, insert]
  | cons head rest ih =>
      obtain ⟨first, held⟩ := head
      obtain ⟨least, sortedRest⟩ := List.pairwise_cons.mp sorted
      unfold insert
      split
      next before =>
        refine List.pairwise_cons.mpr ⟨fun entry member => ?_, sorted⟩
        rcases List.mem_cons.mp member with same | later
        · exact same ▸ before
        · exact String.lt_trans before (least entry later)
      next notBefore =>
        split
        next same =>
          exact List.pairwise_cons.mpr
            ⟨fun entry member => same ▸ least entry member, sortedRest⟩
        next different =>
          have after : first < key :=
            Decidable.byContradiction fun notAfter =>
              different
                (String.le_antisymm (String.not_lt.mp notAfter) (String.not_lt.mp notBefore))
          refine List.pairwise_cons.mpr ⟨fun entry member => ?_, ih sortedRest⟩
          rcases mem_insert member with new | old
          · exact new ▸ after
          · exact least entry old

/-- An entry with a new key stands beside the others after it is put where it belongs. -/
theorem insert_perm {key : String} (value : α) {entries : List (String × α)}
    (new : ∀ entry ∈ entries, entry.1 ≠ key) :
    (insert key value entries).Perm ((key, value) :: entries) := by
  induction entries with
  | nil => exact .refl _
  | cons head rest ih =>
      obtain ⟨first, held⟩ := head
      unfold insert
      split
      · exact .refl _
      · split
        next same => exact absurd same.symm (new _ List.mem_cons_self)
        next =>
          have moved := ih fun entry member => new entry (List.mem_cons_of_mem _ member)
          exact (moved.cons (first, held)).trans (.swap (key, value) (first, held) rest)

/-- Entries with different new keys stand beside the others, in the order of their
keys, after they are put where they belong one after the other. -/
theorem foldl_insert (entries : List (String × α)) {held : List (String × α)}
    (sorted : Sorted held) (different : entries.Pairwise fun first second => first.1 ≠ second.1)
    (new : ∀ entry ∈ entries, ∀ old ∈ held, old.1 ≠ entry.1) :
    Sorted (entries.foldl (fun map entry => insert entry.1 entry.2 map) held) ∧
      (entries.foldl (fun map entry => insert entry.1 entry.2 map) held).Perm
        (entries ++ held) := by
  induction entries generalizing held with
  | nil => exact ⟨sorted, .refl _⟩
  | cons head rest ih =>
      obtain ⟨key, value⟩ := head
      obtain ⟨apart, differentRest⟩ := List.pairwise_cons.mp different
      have newRest : ∀ entry ∈ rest, ∀ old ∈ insert key value held, old.1 ≠ entry.1 := by
        intro entry member old inserted
        rcases mem_insert inserted with rfl | before
        · exact apart entry member
        · exact new entry (List.mem_cons_of_mem _ member) old before
      obtain ⟨ordered, same⟩ := ih (sorted_insert key value sorted) differentRest newRest
      have moved := insert_perm value (new (key, value) List.mem_cons_self)
      refine ⟨ordered, same.trans ?_⟩
      exact (moved.append_left rest).trans List.perm_middle

/-- A map can be built from its entries in any order. -/
theorem foldl_insert_of_perm {entries ordered : List (String × α)} (sorted : Sorted entries)
    (same : ordered.Perm entries) :
    ordered.foldl (fun map entry => insert entry.1 entry.2 map) [] = entries := by
  have apart : entries.Pairwise fun first second => first.1 ≠ second.1 :=
    List.Pairwise.imp (fun less => String.ne_of_lt less) sorted
  have different := same.symm.pairwise apart fun unequal => unequal.symm
  obtain ⟨built, kept⟩ := foldl_insert ordered .nil different fun _ _ _ none => nomatch none
  rw [List.append_nil] at kept
  refine (kept.trans same).eq_of_pairwise ?_ built sorted
  intro first second _ _ less greater
  exact absurd (String.lt_trans less greater) (String.lt_irrefl _)

end DocFilter.Entries
