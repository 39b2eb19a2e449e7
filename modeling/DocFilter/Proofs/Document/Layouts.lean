import DocFilter.Channel
import DocFilter.Proofs.Json.Layouts

/-!
# Documents in the two layouts

The compact text of a document is one line without blanks that separate anything, whatever
texts and names are in the document, and the indented text has nothing but blanks added.
-/

namespace DocFilter

/-- No byte of a character is a control code unless the character is one. -/
theorem le_of_mem_utf8EncodeChar {char : Char} (plain : 0x20 ≤ char.toNat) {byte : UInt8}
    (member : byte ∈ String.utf8EncodeChar char) : 0x20 ≤ byte := by
  have code : 0x20 ≤ char.val.toNat := plain
  have small (number : Nat) (low : 0x20 ≤ number % 2 ^ 8) : 0x20 ≤ UInt8.ofNat number := by
    rw [UInt8.le_iff_toNat_le, UInt8.toNat_ofNat']
    exact low
  rw [String.utf8EncodeChar.eq_def] at member
  dsimp only at member
  -- Every byte but a character of one byte itself has its highest bit set.
  split at member
  next single =>
    rw [List.mem_singleton.mp member]
    exact small _ (by omega)
  split at member
  next =>
    simp only [List.mem_cons, List.not_mem_nil, or_false] at member
    rcases member with rfl | rfl
    all_goals exact small _ (by omega)
  split at member
  next =>
    simp only [List.mem_cons, List.not_mem_nil, or_false] at member
    rcases member with rfl | rfl | rfl
    all_goals exact small _ (by omega)
  next =>
    simp only [List.mem_cons, List.not_mem_nil, or_false] at member
    rcases member with rfl | rfl | rfl | rfl
    all_goals exact small _ (by omega)

/-- Behind the bytes of a text comes the one byte of a line end. -/
theorem bytes_append_lineEnd (text : String) :
    (text ++ "\n").toUTF8.data.toList = text.toUTF8.data.toList ++ [0x0a] := by
  rw [String.toUTF8_eq_toByteArray, String.toByteArray_append, ByteArray.data_append,
    Array.toList_append]
  rfl

/-- The bytes of a text without control characters. -/
theorem le_of_mem_bytes {text : String} (plain : ∀ char ∈ text.toList, 0x20 ≤ char.toNat)
    {byte : UInt8} (member : byte ∈ text.toUTF8.data.toList) : 0x20 ≤ byte := by
  have encoded : text.toUTF8.data.toList = text.toList.flatMap String.utf8EncodeChar := by
    rw [String.toUTF8_eq_toByteArray, ← String.ofList_toList (s := text),
      String.toByteArray_ofList, String.toList_ofList, List.utf8Encode, List.data_toByteArray]
  rw [encoded] at member
  obtain ⟨char, listed, within⟩ := List.mem_flatMap.mp member
  exact le_of_mem_utf8EncodeChar (plain char listed) within

namespace Document

open Json (Place placed withoutBlanks Visible)

/-- The compact text of a document has no control characters, and outside of string literals it
has printing characters of ASCII only, so that nothing there is a blank of any kind. What is
written out is its UTF-8 and a line end, and there is no other line end in it. The indented
text without the spaces and line ends outside of string literals is the compact one. -/
theorem layouts_agree (document : Document) :
    (∀ char ∈ (document.toText .compact).toList, 0x20 ≤ char.toNat) ∧
    (∀ char, (Place.outside, char) ∈ placed .outside (document.toText .compact).toList →
      Visible char) ∧
    (document.bytes .compact).data.toList =
        (document.toText .compact).toUTF8.data.toList ++ [0x0a] ∧
    (∀ byte ∈ (document.toText .compact).toUTF8.data.toList, 0x20 ≤ byte) ∧
    withoutBlanks (document.toText .indented).toList = (document.toText .compact).toList := by
  have compact := Json.toText_loosened .compact document.toJson
  have indented := Json.toText_loosened .indented document.toJson
  refine ⟨?_, ?_, bytes_append_lineEnd _, ?_, indented.withoutBlanks_eq⟩
  · intro char member
    exact compact.le_of_mem member
  · intro char member
    exact compact.visible_of_outside member
  · intro byte member
    exact le_of_mem_bytes (fun char listed => compact.le_of_mem listed) member

/-- A document with quotation marks, a backslash, blanks and a line end in its texts. -/
def quotation : Document :=
  ⟨[1, 23], [("a \"key\"", .string "\\")], [.plain [.str "two\nlines: [ ]"]]⟩

/-- A blank in a name stays, and the bracket before it stands outside. -/
theorem layouts_agree_quotation :
    ' ' ∈ (quotation.toText .compact).toList ∧
    (Place.outside, '[') ∈ placed .outside (quotation.toText .compact).toList ∧ Visible '[' ∧
    withoutBlanks (quotation.toText .indented).toList = (quotation.toText .compact).toList := by
  have text : (quotation.toText .compact).toList =
      Json.write .compact 0 quotation.toJson [] := String.toList_ofList
  have blank : ' ' ∈ (quotation.toText .compact).toList := by
    rw [text]
    decide +kernel
  have opened : (Place.outside, '[') ∈ placed .outside (quotation.toText .compact).toList := by
    rw [text]
    decide +kernel
  obtain ⟨-, visible, -, -, same⟩ := layouts_agree quotation
  exact ⟨blank, opened, visible '[' opened, same⟩

end Document

end DocFilter
