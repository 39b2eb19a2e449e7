import DocFilter.Document.Basic

/-!
# Prose

Running text as inlines and back: words with spaces between them become nodes,
and nodes have a plain text.
-/

namespace DocFilter

/-- The stretches of a text between its spaces, empty ones included. -/
def betweenSpaces : List Char → List (List Char)
  | [] => [[]]
  | char :: rest =>
      if char = ' ' then [] :: betweenSpaces rest
      else
        match betweenSpaces rest with
        | first :: others => (char :: first) :: others
        | [] => [[char]]

/-- The stretches are those that a text is split into at its spaces. -/
theorem betweenSpaces_eq_splitOn (text : List Char) : betweenSpaces text = text.splitOn ' ' := by
  induction text with
  | nil => rfl
  | cons char rest ih =>
      rw [betweenSpaces, ih, List.splitOn_cons_eq_if_modifyHead]
      by_cases space : char = ' '
      · rw [if_pos space, if_pos (beq_iff_eq.mpr space)]
      · rw [if_neg space, if_neg fun same => space (beq_iff_eq.mp same)]
        cases stretches : rest.splitOn ' ' with
        | nil => exact absurd stretches (List.splitOn_ne_nil _ _)
        | cons first others => rfl

/-- There is no space in a stretch between spaces. -/
theorem space_not_mem_betweenSpaces {text stretch : List Char}
    (member : stretch ∈ betweenSpaces text) : ' ' ∉ stretch := by
  induction text generalizing stretch with
  | nil => simp_all [betweenSpaces]
  | cons char rest ih =>
      unfold betweenSpaces at member
      split at member
      next =>
        rcases List.mem_cons.mp member with empty | later
        · simp [empty]
        · exact ih later
      next other =>
        split at member
        next first others stretches =>
          rcases List.mem_cons.mp member with longer | later
          · have shorter := ih (stretches ▸ List.mem_cons_self)
            simp [longer, shorter, Ne.symm other]
          · exact ih (stretches ▸ List.mem_cons_of_mem _ later)
        next => simp_all [Ne.symm other]

/-- The words of a text: what stands between spaces, without empty stretches.
No other character separates words. -/
def wordsOf (text : String) : List String :=
  ((betweenSpaces text.toList).filter fun word => !word.isEmpty).map String.ofList

/-- A text as words with single spaces between them. -/
def Inline.words (text : String) : List Inline :=
  ((wordsOf text).map Inline.str).intersperse .space

def Block.prose (text : String) : Block := .para (Inline.words text)

mutual

/-- The plain text of an inline. Breaks count as blanks; raw markup and notes
have no plain text. -/
def Inline.plainText : Inline → String
  | .str text => text
  | .code _ text => text
  | .math _ text => text
  | .space => " "
  | .softBreak => " "
  | .lineBreak => "\n"
  | .emph content => Inline.plainTexts content
  | .underline content => Inline.plainTexts content
  | .strong content => Inline.plainTexts content
  | .strikeout content => Inline.plainTexts content
  | .superscript content => Inline.plainTexts content
  | .subscript content => Inline.plainTexts content
  | .smallCaps content => Inline.plainTexts content
  | .quoted _ content => Inline.plainTexts content
  | .cite _ content => Inline.plainTexts content
  | .link _ content _ => Inline.plainTexts content
  | .image _ content _ => Inline.plainTexts content
  | .span _ content => Inline.plainTexts content
  | .raw _ _ => ""
  | .note _ => ""

def Inline.plainTexts : List Inline → String
  | [] => ""
  | inline :: rest => inline.plainText ++ Inline.plainTexts rest

end

end DocFilter
