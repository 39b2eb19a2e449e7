import DocFilter.Text.Hidden

/-!
# Texts inside messages

A text that a message quotes stands between quotation marks. Marks,
backslashes and line ends in it are escaped by a letter, and characters that
would not be seen by their number.
-/

namespace DocFilter.Text

/-- The character cannot be seen on its own. -/
def isHidden (value : Char) : Bool :=
  value.toNat < 0x20 || value.toNat == 0x7F ||
    (0x80 ≤ value.toNat && hiddenRanges.any fun (first, last) =>
      first ≤ value.toNat && value.toNat ≤ last)

/-- A character inside a quoted text. -/
def shownChar (value : Char) : List Char :=
  match value with
  | '\x00' => ['\\', '0']
  | '\t' => ['\\', 't']
  | '\n' => ['\\', 'n']
  | '\r' => ['\\', 'r']
  | '"' => ['\\', '"']
  | '\\' => ['\\', '\\']
  | _ =>
      if isHidden value then
        ['\\', 'u', '\x7b'] ++ Nat.toDigits 16 value.toNat ++ ['\x7d']
      else [value]

/-- A text as a message quotes it. -/
def shown (text : String) : String :=
  String.ofList ('"' :: (text.toList.flatMap shownChar ++ ['"']))

end DocFilter.Text
