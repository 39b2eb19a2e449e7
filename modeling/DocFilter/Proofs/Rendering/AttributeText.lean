import DocFilter.Listing

/-!
# The attribute text of a listing

The attributes of code are written into one text, key and value joined by an equals sign,
with a comma and a blank between the pairs. The pairs are read back here: if no comma
stands in them and no equals sign in a key, they are those of the code without its captions.
-/

namespace DocFilter.Listing

/-! ## Reading pairs -/

/-- The stretches of a text between commas with a blank behind them, empty ones included. -/
def betweenCommas : List Char → List (List Char)
  | [] => [[]]
  | ',' :: ' ' :: rest => [] :: betweenCommas rest
  | char :: rest => (betweenCommas rest).modifyHead (char :: ·)

/-- What stands in front of the first equals sign of a text and what stands behind it. -/
def pairOf? (text : List Char) : Option (String × String) :=
  match text.dropWhile (· != '=') with
  | [] => none
  | _ :: value => some (String.ofList (text.takeWhile (· != '=')), String.ofList value)

/-- The pairs of a text, which has none if it is empty. -/
def readPairs (text : String) : Option (List (String × String)) :=
  if text = "" then some [] else (betweenCommas text.toList).mapM pairOf?

theorem betweenCommas_cons {char : Char} (other : char ≠ ',') (rest : List Char) :
    betweenCommas (char :: rest) = (betweenCommas rest).modifyHead (char :: ·) := by
  rw [betweenCommas]
  rintro _ rfl
  exact absurd rfl other

/-- A stretch without a comma is the beginning of the first one. -/
theorem betweenCommas_append {stretch : List Char} (plain : ',' ∉ stretch) (rest : List Char) :
    betweenCommas (stretch ++ rest) = (betweenCommas rest).modifyHead (stretch ++ ·) := by
  induction stretch with
  | nil => exact (congrFun List.modifyHead_id _).symm
  | cons char stretch ih =>
      simp only [List.mem_cons, not_or] at plain
      rw [List.cons_append, betweenCommas_cons (Ne.symm plain.1), ih plain.2,
        List.modifyHead_modifyHead]
      rfl

/-- Stretches without a comma are found again in the text that they make up. -/
theorem betweenCommas_intercalate {first : List Char} {others : List (List Char)}
    (plain : ∀ stretch ∈ first :: others, ',' ∉ stretch) :
    betweenCommas ([',', ' '].intercalate (first :: others)) = first :: others := by
  obtain ⟨head, tail⟩ := List.forall_mem_cons.mp plain
  induction others generalizing first with
  | nil =>
      have alone := betweenCommas_append head []
      rw [List.append_nil] at alone
      rw [List.intercalate_singleton, alone]
      simp [betweenCommas]
  | cons second others ih =>
      obtain ⟨next, later⟩ := List.forall_mem_cons.mp tail
      rw [List.intercalate_cons_cons, List.append_assoc, betweenCommas_append head,
        List.cons_append, List.singleton_append, betweenCommas, ih tail next later]
      simp

/-- Key and value are those on both sides of the equals sign, if the key has none. -/
theorem pairOf?_append {key : List Char} (plain : '=' ∉ key) (value : List Char) :
    pairOf? (key ++ '=' :: value) = some (String.ofList key, String.ofList value) := by
  have inside : ∀ char ∈ key, (char != '=') = true := by
    intro char member
    exact bne_iff_ne.mpr fun equals => plain (equals ▸ member)
  rw [pairOf?, List.dropWhile_append_of_pos inside, List.takeWhile_append_of_pos inside]
  simp

/-! ## Writing pairs -/

/-- A pair as it stands in the text of attributes. -/
def written (pair : String × String) : String := pair.1 ++ "=" ++ pair.2

/-- Neither a comma nor, in the key, an equals sign stands in a pair. -/
structure Plain (pair : String × String) : Prop where
  keyComma : ',' ∉ pair.1.toList
  valueComma : ',' ∉ pair.2.toList
  keyEquals : '=' ∉ pair.1.toList

theorem toList_written (pair : String × String) :
    (written pair).toList = pair.1.toList ++ '=' :: pair.2.toList := by
  simp [written]

theorem Plain.comma_not_mem {pair : String × String} (plain : Plain pair) :
    ',' ∉ (written pair).toList := by
  rw [toList_written, List.mem_append, List.mem_cons]
  rintro (key | equals | value)
  · exact plain.keyComma key
  · cases equals
  · exact plain.valueComma value

theorem Plain.pairOf?_written {pair : String × String} (plain : Plain pair) :
    pairOf? (written pair).toList = some pair := by
  rw [toList_written, pairOf?_append plain.keyEquals, String.ofList_toList, String.ofList_toList]

theorem mapM_written {pairs : List (String × String)} (plain : ∀ pair ∈ pairs, Plain pair) :
    (pairs.map fun pair => (written pair).toList).mapM pairOf? = some pairs := by
  induction pairs with
  | nil => rfl
  | cons pair rest ih =>
      obtain ⟨first, others⟩ := List.forall_mem_cons.mp plain
      rw [List.map_cons, List.mapM_cons, first.pairOf?_written, ih others]
      rfl

/-- Plain pairs are read back from the text that they are written into. -/
theorem readPairs_intercalate {pairs : List (String × String)}
    (plain : ∀ pair ∈ pairs, Plain pair) :
    readPairs (String.intercalate ", " (pairs.map written)) = some pairs := by
  cases pairs with
  | nil => rfl
  | cons pair rest =>
      have stretches : betweenCommas (String.intercalate ", " ((pair :: rest).map written)).toList =
          (pair :: rest).map fun pair => (written pair).toList := by
        rw [String.toList_intercalate, List.map_map]
        apply betweenCommas_intercalate
        rw [← List.map_cons, List.forall_mem_map]
        exact fun held listed => (plain held listed).comma_not_mem
      -- A pair is written with an equals sign, so the text of one is not that of none.
      have filled : String.intercalate ", " ((pair :: rest).map written) ≠ "" := by
        intro empty
        rw [empty, List.map_cons, toList_written] at stretches
        simp [betweenCommas] at stretches
      rw [readPairs, if_neg filled, stretches]
      exact mapM_written plain

namespace CodeParts

/-- The attribute text of code is made up of the pairs that are no captions: if no comma
stands in a pair and no equals sign in a key, they are read back from it, in order and as
often as they are there. The caption is the first one, if there is any. -/
theorem readPairs_ofAttr {attr : Attr} (plain : ∀ pair ∈ attr.pairs, Plain pair)
    (contents language : String) :
    readPairs (ofAttr attr contents language).attributes =
        some (attr.pairs.filter fun pair => pair.1 != "caption") ∧
      (∀ caption, (ofAttr attr contents language).caption = some caption ↔
        ∃ before after, attr.pairs = before ++ ("caption", caption) :: after ∧
          ∀ pair ∈ before, pair.1 ≠ "caption") ∧
      ((ofAttr attr contents language).caption = none ↔
        ∀ pair ∈ attr.pairs, pair.1 ≠ "caption") := by
  have looked : (ofAttr attr contents language).caption = attr.pairs.lookup "caption" := rfl
  refine ⟨?_, fun caption => ?_, ?_⟩
  · exact readPairs_intercalate fun pair member => plain pair (List.mem_filter.mp member).1
  · rw [looked, List.lookup_eq_some_iff]
    simp only [bne_iff_ne, ne_comm]
  · rw [looked, List.lookup_eq_none_iff]
    simp only [bne_iff_ne, ne_comm]

/-- Attributes with two captions, an empty key, a key that is repeated, and values with an
equals sign and with blanks. -/
def crowded : Attr where
  pairs := [("caption", "A"), ("", "="), ("k", " v "), ("caption", "B"), ("k", "")]

theorem readPairs_ofAttr_crowded :
    (∀ pair ∈ crowded.pairs, Plain pair) ∧
      readPairs (ofAttr crowded "" "text").attributes =
        some [("", "="), ("k", " v "), ("k", "")] ∧
      (ofAttr crowded "" "text").caption = some "A" := by
  have plain : ∀ pair ∈ crowded.pairs, Plain pair := by
    intro pair member
    simp only [crowded, List.mem_cons, List.not_mem_nil, or_false] at member
    rcases member with rfl | rfl | rfl | rfl | rfl
    all_goals exact ⟨by decide, by decide, by decide⟩
  obtain ⟨pairs, captions, -⟩ := readPairs_ofAttr plain "" "text"
  refine ⟨plain, pairs, (captions "A").mpr ⟨[], _, rfl, nofun⟩⟩

end CodeParts

end DocFilter.Listing
