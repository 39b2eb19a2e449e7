/-!
# Templates

A template is a text with placeholders: a dollar sign and a name, which is as
long as possible or stands in braces. Two dollar signs are a literal one, and
any other dollar sign dangles. Substituted texts are inserted as they are and
not looked at again.
-/

namespace DocFilter

structure Template where
  source : String
  deriving DecidableEq

namespace Template

/-- What is wrong with a template, or with its use. -/
inductive Problem where
  /-- A dollar sign that starts no placeholder, and where in the template it
  was noticed, in bytes. -/
  | dangling (offset : Nat)
  /-- A placeholder for which there is no text. -/
  | unknown (name : String)
  deriving DecidableEq

def Problem.message : Problem → String
  | .dangling offset => s!"invalid placeholder at offset {offset}"
  | .unknown name => "unknown placeholder $" ++ name

def byteCount : List Char → Nat
  | [] => 0
  | char :: rest => char.utf8Size + byteCount rest

/-- A piece of a template. -/
inductive Piece where
  | literal (char : Char)
  /-- Two dollar signs. -/
  | dollar
  | bare (name : List Char)
  | braced (name : List Char)
  /-- A dollar sign that starts no placeholder. -/
  | dangling
  deriving DecidableEq

namespace Piece

/-- What a piece is written as. -/
def source : Piece → List Char
  | .literal char => [char]
  | .dollar => ['$', '$']
  | .bare name => '$' :: name
  | .braced name => '$' :: '\x7b' :: (name ++ ['\x7d'])
  | .dangling => ['$']

def width (piece : Piece) : Nat := byteCount piece.source

def name? : Piece → Option String
  | .bare name => some (String.ofList name)
  | .braced name => some (String.ofList name)
  | _ => none

end Piece

/-- Names start with a letter or an underscore. Letters are those of ASCII. -/
def startsName (char : Char) : Bool := char == '_' || char.isAlpha

/-- Names go on with letters, underscores and digits. -/
def continuesName (char : Char) : Bool := startsName char || char.isDigit

/-- The longest name at the start of a text, and the rest of the text. -/
def takeName : List Char → Option (List Char × List Char)
  | first :: rest =>
      if startsName first then
        some (first :: rest.takeWhile continuesName, rest.dropWhile continuesName)
      else none
  | [] => none

theorem append_of_takeName {text name rest : List Char}
    (taken : takeName text = some (name, rest)) : name ++ rest = text := by
  cases text with
  | nil => simp [takeName] at taken
  | cons first tail =>
      simp only [takeName] at taken
      split at taken
      · simp only [Option.some.injEq, Prod.mk.injEq] at taken
        rw [← taken.1, ← taken.2, List.cons_append, List.takeWhile_append_dropWhile]
      · simp at taken

theorem takeName_length_lt {text name rest : List Char}
    (taken : takeName text = some (name, rest)) : rest.length < text.length := by
  cases text with
  | nil => simp [takeName] at taken
  | cons first tail =>
      simp only [takeName] at taken
      split at taken
      · simp only [Option.some.injEq, Prod.mk.injEq] at taken
        rw [← taken.2, List.length_cons]
        exact Nat.lt_succ_of_le (List.dropWhile_suffix continuesName).length_le
      · simp at taken

def piecesOf : List Char → List Piece
  | [] => []
  | '$' :: '$' :: rest => .dollar :: piecesOf rest
  | '$' :: '\x7b' :: rest =>
      match _taken : takeName rest with
      | some (name, '\x7d' :: rest) => .braced name :: piecesOf rest
      | _ => .dangling :: piecesOf ('\x7b' :: rest)
  | '$' :: rest =>
      match _taken : takeName rest with
      | some (name, rest) => .bare name :: piecesOf rest
      | none => .dangling :: piecesOf rest
  | char :: rest => .literal char :: piecesOf rest
termination_by text => text.length
decreasing_by
  · simp only [List.length_cons]
    omega
  · have shorter := takeName_length_lt _taken
    simp only [List.length_cons] at shorter ⊢
    omega
  · simp only [List.length_cons]
    omega
  · have shorter := takeName_length_lt _taken
    simp only [List.length_cons]
    omega
  · simp only [List.length_cons]
    omega
  · simp only [List.length_cons]
    omega

def pieces (template : Template) : List Piece := piecesOf template.source.toList

/-- The names of all placeholders, in order. -/
def placeholders (template : Template) : List String :=
  template.pieces.filterMap Piece.name?

/-- Looks for the first piece that dangles or has a name that is not known. A
dangling dollar sign is noticed behind it. -/
def validateFrom (known : List String) : Nat → List Piece → Except Problem Unit
  | _, [] => .ok ()
  | offset, piece :: rest =>
      match piece, piece.name? with
      | .dangling, _ => .error (.dangling (offset + 1))
      | _, some name =>
          if known.contains name then validateFrom known (offset + piece.width) rest
          else .error (.unknown name)
      | _, none => validateFrom known (offset + piece.width) rest

/-- Checks that every placeholder has a known name and no dollar sign dangles. -/
def validate (template : Template) (known : List String) : Except Problem Unit :=
  validateFrom known 0 template.pieces

/-- Puts texts into the place of pieces. A dangling dollar sign is noticed at
its place. -/
def substituteFrom (fields : List (String × String)) :
    Nat → List Piece → Except Problem (List Char)
  | _, [] => .ok []
  | offset, piece :: rest => do
      let text ←
        match piece with
        | .literal char => .ok [char]
        | .dollar => .ok ['$']
        | .dangling => .error (.dangling offset)
        | .bare name | .braced name =>
            match fields.lookup (String.ofList name) with
            | some text => .ok text.toList
            | none => .error (.unknown (String.ofList name))
      let following ← substituteFrom fields (offset + piece.width) rest
      .ok (text ++ following)

/-- The template with the first text under the name of each placeholder in the
place of that placeholder. -/
def substitute (template : Template) (fields : List (String × String)) :
    Except Problem String :=
  (substituteFrom fields 0 template.pieces).map String.ofList

end Template

end DocFilter
