import DocFilter.Document.Prose
import Mathlib.Data.List.DropRight

/-!
# Prose and its plain text

Prose is split at spaces, and only there. Splitting a text and taking the plain text of the
outcome leaves out the spaces that separate nothing: those at the two ends, and those that
follow another one. Words that are joined by single spaces are split into the same words.
-/

namespace DocFilter

/-! ## Spaces that separate nothing -/

/-- The character separates words. -/
def isSpace (char : Char) : Bool := char == ' '

/-- A text without the spaces at its two ends. -/
def trimSpaces (text : List Char) : List Char := (text.dropWhile isSpace).rdropWhile isSpace

/-- A text with one space in the place of every run of spaces: a space is left out if another
one follows. -/
def joinSpaces : List Char → List Char
  | [] => []
  | char :: rest =>
      if char = ' ' ∧ rest.head? = some ' ' then joinSpaces rest else char :: joinSpaces rest

theorem joinSpaces_cons_of_ne {char : Char} (other : char ≠ ' ') (rest : List Char) :
    joinSpaces (char :: rest) = char :: joinSpaces rest := by
  rw [joinSpaces, if_neg fun both => other both.1]

/-- A character is cut off with all that follows only if nothing of that is left. -/
theorem rdropWhile_cons (char : Char) (rest : List Char) :
    (char :: rest).rdropWhile isSpace =
      if rest.rdropWhile isSpace = [] ∧ isSpace char then []
      else char :: rest.rdropWhile isSpace := by
  simp only [List.rdropWhile, List.reverse_cons, List.dropWhile_append, List.isEmpty_iff,
    List.reverse_eq_nil_iff]
  by_cases nothing : rest.reverse.dropWhile isSpace = []
  · by_cases space : isSpace char <;> simp [nothing, space]
  · simp [nothing]

/-- A text without spaces at its end, and with one space in the place of every run. -/
def closeUp (text : List Char) : List Char := joinSpaces (text.rdropWhile isSpace)

theorem closeUp_cons_of_ne {char : Char} (other : char ≠ ' ') (rest : List Char) :
    closeUp (char :: rest) = char :: closeUp rest := by
  have letter : isSpace char = false := beq_false_of_ne other
  rw [closeUp, rdropWhile_cons, if_neg (by simp [letter]), joinSpaces_cons_of_ne other]
  rfl

/-- Of two spaces side by side, the first one separates nothing. -/
theorem closeUp_space_space (rest : List Char) :
    closeUp (' ' :: ' ' :: rest) = closeUp (' ' :: rest) := by
  by_cases nothing : rest.rdropWhile isSpace = []
  · simp [closeUp, rdropWhile_cons, nothing, isSpace]
  · have once : (' ' :: rest).rdropWhile isSpace = ' ' :: rest.rdropWhile isSpace := by
      rw [rdropWhile_cons, if_neg fun both => nothing both.1]
    have twice : (' ' :: ' ' :: rest).rdropWhile isSpace =
        ' ' :: ' ' :: rest.rdropWhile isSpace := by
      rw [rdropWhile_cons, once, if_neg fun both => List.cons_ne_nil _ _ both.1]
    rw [closeUp, closeUp, twice, once, joinSpaces, if_pos ⟨rfl, rfl⟩]

/-- A space in front of a word stays. -/
theorem closeUp_space_cons {char : Char} (other : char ≠ ' ') (rest : List Char) :
    closeUp (' ' :: char :: rest) = ' ' :: closeUp (char :: rest) := by
  have letter : isSpace char = false := beq_false_of_ne other
  simp [closeUp, rdropWhile_cons, letter, joinSpaces, other]

/-! ## The stretches of a text -/

theorem exists_betweenSpaces (text : List Char) :
    ∃ first others, betweenSpaces text = first :: others := by
  rw [betweenSpaces_eq_splitOn]
  exact List.exists_cons_of_ne_nil (List.splitOn_ne_nil _ _)

/-- A space ends a stretch. -/
theorem betweenSpaces_space (rest : List Char) :
    betweenSpaces (' ' :: rest) = [] :: betweenSpaces rest := by
  rw [betweenSpaces, if_pos rfl]

/-- Any other character belongs to the first stretch. -/
theorem betweenSpaces_cons_of_ne {char : Char} (other : char ≠ ' ') {rest first : List Char}
    {others : List (List Char)} (stretches : betweenSpaces rest = first :: others) :
    betweenSpaces (char :: rest) = (char :: first) :: others := by
  rw [betweenSpaces, if_neg other, stretches]

/-- The words among some stretches, with a space in front of each. -/
def following (stretches : List (List Char)) : List Char :=
  (stretches.filter fun word => !word.isEmpty).flatMap (' ' :: ·)

/-- The first stretch with the words behind it is the text with its spaces closed up. At its
beginning the text may have spaces: behind a first word they are those before the second. -/
theorem append_following {text first : List Char} {others : List (List Char)}
    (stretches : betweenSpaces text = first :: others) :
    first ++ following others = closeUp text := by
  induction text generalizing first others with
  | nil =>
      cases stretches
      rfl
  | cons char rest ih =>
      by_cases space : char = ' '
      · subst space
        rw [betweenSpaces_space] at stretches
        cases stretches
        cases rest with
        | nil => rfl
        | cons second rest =>
            by_cases again : second = ' '
            · subst again
              rw [closeUp_space_space, ← ih (betweenSpaces_space rest), betweenSpaces_space]
              rfl
            · obtain ⟨next, later, split⟩ := exists_betweenSpaces rest
              have word := betweenSpaces_cons_of_ne again split
              rw [closeUp_space_cons again, ← ih word, word]
              rfl
      · obtain ⟨next, later, split⟩ := exists_betweenSpaces rest
        rw [betweenSpaces_cons_of_ne space split] at stretches
        cases stretches
        rw [closeUp_cons_of_ne space, ← ih split, List.cons_append]

theorem intercalate_cons (first : List Char) (others : List (List Char)) :
    [' '].intercalate (first :: others) = first ++ others.flatMap (' ' :: ·) := by
  induction others generalizing first with
  | nil => simp
  | cons second others ih =>
      rw [List.intercalate_cons_cons, ih]
      simp

/-- With single spaces between them, the stretches that are not empty are the text without
the spaces that separate nothing. -/
theorem intercalate_words (text : List Char) :
    [' '].intercalate ((betweenSpaces text).filter fun word => !word.isEmpty) =
      joinSpaces (trimSpaces text) := by
  induction text with
  | nil => rfl
  | cons char rest ih =>
      by_cases space : char = ' '
      · subst space
        rw [betweenSpaces_space]
        exact ih
      · obtain ⟨next, later, split⟩ := exists_betweenSpaces rest
        have word := betweenSpaces_cons_of_ne space split
        have kept : trimSpaces (char :: rest) = (char :: rest).rdropWhile isSpace := by
          rw [trimSpaces, List.dropWhile_cons_of_neg (by simp [isSpace, space])]
        rw [word, List.filter_cons_of_pos rfl, intercalate_cons, kept]
        exact append_following word

/-! ## Words -/

/-- Something, and no space in it. -/
structure IsWord (text : String) : Prop where
  nonempty : text ≠ ""
  solid : ' ' ∉ text.toList

theorem isWord_of_mem_wordsOf {text word : String} (member : word ∈ wordsOf text) :
    IsWord word := by
  obtain ⟨stretch, found, rfl⟩ := List.mem_map.mp member
  obtain ⟨between, something⟩ := List.mem_filter.mp found
  constructor
  · intro nothing
    have empty : stretch = [] := by
      rw [← String.toList_ofList (l := stretch), nothing]
      rfl
    rw [empty] at something
    cases something
  · rw [String.toList_ofList]
    exact space_not_mem_betweenSpaces between

/-- Words with single spaces between them are the words of the text that they make up. -/
theorem wordsOf_intercalate {words : List String} (each : ∀ word ∈ words, IsWord word) :
    wordsOf (" ".intercalate words) = words := by
  by_cases none : words = []
  · subst none
    rfl
  · have solid : ∀ letters ∈ words.map String.toList, ' ' ∉ letters := by
      intro letters member
      obtain ⟨word, listed, rfl⟩ := List.mem_map.mp member
      exact (each word listed).solid
    have split : betweenSpaces (" ".intercalate words).toList = words.map String.toList := by
      rw [betweenSpaces_eq_splitOn, String.toList_intercalate]
      exact List.splitOn_intercalate ' ' solid (by simpa using none)
    have kept : (words.map String.toList).filter (fun word => !word.isEmpty) =
        words.map String.toList := by
      rw [List.filter_eq_self]
      intro letters member
      obtain ⟨word, listed, rfl⟩ := List.mem_map.mp member
      simpa using (each word listed).nonempty
    rw [wordsOf, split, kept, List.map_map]
    simp [Function.comp_def]

/-- The plain text of words is the words with single spaces between them. -/
theorem plainTexts_words (words : List String) :
    Inline.plainTexts ((words.map Inline.str).intersperse .space) = " ".intercalate words := by
  induction words with
  | nil => rfl
  | cons word rest ih =>
      cases rest with
      | nil => simp [Inline.plainTexts, Inline.plainText]
      | cons second rest =>
          rw [String.intercalate_cons_cons, ← ih]
          simp [Inline.plainTexts, Inline.plainText, String.append_assoc]

/-! ## Prose -/

/-- Words with one space between each two of them, at least one word. -/
inductive IsProse : List Inline → Prop where
  | word {text : String} (isWord : IsWord text) : IsProse [.str text]
  | more {text : String} {rest : List Inline} (isWord : IsWord text) (prose : IsProse rest) :
      IsProse (.str text :: .space :: rest)

theorem isProse_of_words {words : List String} (some : words ≠ [])
    (each : ∀ word ∈ words, IsWord word) :
    IsProse ((words.map Inline.str).intersperse .space) := by
  induction words with
  | nil => exact absurd rfl some
  | cons word rest ih =>
      obtain ⟨first, others⟩ := List.forall_mem_cons.mp each
      cases rest with
      | nil => exact .word first
      | cons second rest => exact .more first (ih (List.cons_ne_nil _ _) others)

/-- Prose is words with single spaces between them. Its plain text is the text without the
spaces at the two ends and with one in the place of every run, and is split into the same
prose. Conversely, words joined by single spaces are split into these words. -/
theorem Inline.words_normalise :
    (∀ text : String,
      (Inline.words text = [] ∨ IsProse (Inline.words text)) ∧
      Inline.plainTexts (Inline.words text) = String.ofList (joinSpaces (trimSpaces text.toList)) ∧
      Inline.words (Inline.plainTexts (Inline.words text)) = Inline.words text) ∧
    ∀ words : List String, (∀ word ∈ words, IsWord word) →
      Inline.words (" ".intercalate words) = (words.map Inline.str).intersperse .space := by
  have joined (words : List String) (each : ∀ word ∈ words, IsWord word) :
      Inline.words (" ".intercalate words) = (words.map Inline.str).intersperse .space := by
    rw [Inline.words, wordsOf_intercalate each]
  refine ⟨fun text => ⟨?shape, ?content, ?again⟩, joined⟩
  case shape =>
    by_cases none : wordsOf text = []
    · left
      rw [Inline.words, none]
      rfl
    · right
      exact isProse_of_words none fun word => isWord_of_mem_wordsOf
  case content =>
    rw [Inline.words, plainTexts_words, ← String.toList_inj, String.toList_intercalate,
      String.toList_ofList, ← intercalate_words, wordsOf, List.map_map]
    simp [Function.comp_def]
  case again =>
    have content : Inline.plainTexts (Inline.words text) = " ".intercalate (wordsOf text) :=
      plainTexts_words (wordsOf text)
    rw [content]
    exact joined (wordsOf text) fun word => isWord_of_mem_wordsOf

/-- A tabulator is no space: it stands inside a word. -/
theorem Inline.words_normalise_tabbed :
    (∀ word ∈ ["one\ttwo", "three"], IsWord word) ∧
    Inline.words (" ".intercalate ["one\ttwo", "three"]) =
      [.str "one\ttwo", .space, .str "three"] ∧
    Inline.plainTexts (Inline.words "  one\ttwo   three ") = "one\ttwo three" := by
  have each : ∀ word ∈ ["one\ttwo", "three"], IsWord word := by
    intro word member
    rcases List.mem_pair.mp member with rfl | rfl
    · exact ⟨by decide, by decide⟩
    · exact ⟨by decide, by decide⟩
  obtain ⟨splits, joins⟩ := Inline.words_normalise
  obtain ⟨-, content, -⟩ := splits "  one\ttwo   three "
  refine ⟨each, joins ["one\ttwo", "three"] each, ?_⟩
  rw [content]
  decide +kernel

end DocFilter
