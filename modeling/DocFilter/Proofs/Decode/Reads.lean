import DocFilter.Decode.Tagged
import DocFilter.Document.Encode
import DocFilter.Proofs.Json.ReadAs
import Mathlib.Data.List.Permutation
import Mathlib.Data.List.Perm.Basic

/-!
# Values that decoders read

A decoder reads a value as a result if it turns every outline that is read as the
value into the result, directly from a text with room enough as well as from a
buffer. Every way of building decoders has a law that says what it reads.
-/

namespace DocFilter.Decode

open Json (ReadAs MembersReadAs Outline Quoted Found orFault Close)

variable {α β : Type} {level : Nat}

/-! ## Room -/

/-- A value with containers nested so deep can be decoded: decoders reach as deep
as the given level, and directly from a text so many more may be opened. -/
structure Mode.Holds (level : Nat) (mode : Mode) (depth : Nat) : Prop where
  reached : depth ≤ level
  room : ∀ room, mode = .direct room → depth ≤ room

/-! ## Results -/

@[simp] theorem ok_bind (value : α) (next : α → Result β) :
    (Except.ok value >>= next) = next value := rfl

@[simp] theorem ofFault_ok (value : α) : ofFault (.ok value) = .ok value := rfl

namespace Mode.Holds

variable {level lesser depth : Nat} {mode : Mode}

/-- Where a value has room, a less deep one has. -/
theorem mono (holds : mode.Holds level depth) (le : lesser ≤ depth) :
    mode.Holds level lesser where
  reached := Nat.le_trans le holds.reached
  room room same := Nat.le_trans le (holds.room room same)

/-- A container can be opened where there is room for it. Decoders of a lower
level do for what is inside. -/
theorem descend (holds : mode.Holds (level + 1) (depth + 1)) :
    ∃ inside : Mode, mode.enter = .ok inside ∧ inside.Holds level depth := by
  have reached : depth ≤ level := Nat.le_of_succ_le_succ holds.reached
  cases mode with
  | direct room =>
      have positive : depth + 1 ≤ room := holds.room room rfl
      obtain ⟨inner, rfl⟩ : ∃ inner, room = inner + 1 := ⟨room - 1, by omega⟩
      refine ⟨.direct inner, rfl, reached, ?_⟩
      intro room same
      cases same
      exact Nat.le_of_succ_le_succ positive
  | buffered => exact ⟨.buffered, rfl, reached, fun _ none => nomatch none⟩

/-- A container can be opened where there is room for it, and leaves room inside. -/
theorem enter (holds : mode.Holds level (depth + 1)) :
    ∃ inside : Mode, mode.enter = .ok inside ∧ inside.Holds level depth := by
  obtain ⟨inside, entered, within⟩ :=
    descend ⟨Nat.le_succ_of_le holds.reached, holds.room⟩
  exact ⟨inside, entered, Nat.le_of_succ_le holds.reached, within.room⟩

theorem buffered (holds : mode.Holds level depth) : Mode.buffered.Holds level depth where
  reached := holds.reached
  room _ none := nomatch none

/-- What is read as a value can be taken into a buffer where there is room for it. -/
theorem buffer {outline : Outline} {value : Json} (holds : mode.Holds level value.depth)
    (readAs : ReadAs outline value) : mode.buffer outline = .ok () := by
  cases mode with
  | direct room =>
      have checked := Json.check_of_readAs outline value room readAs (holds.room room rfl)
      rw [Mode.buffer, checked, ofFault_ok]
  | buffered => rfl

end Mode.Holds

/-- A decoder turns whatever is read as the value into the result, unless containers
are nested deeper than the level. -/
def Reads (level : Nat) (decoder : Decoder α) (value : Json) (result : α) : Prop :=
  ∀ (mode : Mode) (outline : Outline), ReadAs outline value →
    mode.Holds level value.depth → decoder mode outline = .ok result

namespace Reads

/-! ## Values without parts -/

theorem string (text : String) : Reads level Decode.string (.string text) text := by
  intro mode outline readAs _
  rw [Decode.string, readAs.found_string]
  rfl

theorem bool (value : Bool) : Reads level Decode.bool (.bool value) value := by
  intro mode outline readAs _
  rw [Decode.bool, readAs.found_bool]
  rfl

/-- An integer between the bounds is read as itself. -/
theorem int (least greatest : Int) {value : Int} (wanted : Wanted) (above : least ≤ value)
    (below : value ≤ greatest) :
    Reads level (Decode.int least greatest wanted) (.int value) value := by
  intro mode outline readAs _
  rw [Decode.int, readAs.found_int]
  show (if least ≤ value && value ≤ greatest then _ else _) = _
  rw [if_pos (by simp [above, below])]
  rfl

theorem int32 (value : Int32) : Reads level Decode.int32 (.int value.toInt) value := by
  intro mode outline readAs holds
  have above := value.le_toInt
  have below := value.toInt_lt
  have read := Reads.int (-2147483648) 2147483647 .int32
    (by omega) (by omega) mode outline readAs holds
  rw [Decode.int32, read]
  show Except.ok (Int32.ofInt value.toInt) = _
  rw [Int32.ofInt_toInt]

theorem nat32 (value : UInt32) : Reads level Decode.nat32 (.int value.toNat) value := by
  intro mode outline readAs holds
  have below := value.toNat_lt
  have read := Reads.int 0 4294967295 .nat32
    (by omega) (by omega) mode outline readAs holds
  rw [Decode.nat32, read]
  show Except.ok (Nat.toUInt32 (value.toNat : Int).toNat) = _
  rw [Int.toNat_natCast, Nat.toUInt32, UInt32.ofNat_toNat]

/-- A floating point number is read as itself, also if it is written as an integer. -/
theorem float64 (value : Float) : Reads level Decode.float64 (.real value) value := by
  intro mode outline readAs _
  rcases readAs.found_real with found | ⟨number, found, rfl⟩
  · rw [Decode.float64, found]
    rfl
  · rw [Decode.float64, found]
    rfl

theorem optional_none (decoder : Decoder α) : Reads level (optional decoder) .null none := by
  intro mode outline readAs _
  rw [readAs.null_inv]
  rfl

/-! ## Lists -/

/-- A list where something may be missing is read as what is there. -/
theorem optional_some {decoder : Decoder α} {values : List Json} {result : α}
    (reads : Reads level decoder (.list values) result) :
    Reads level (optional decoder) (.list values) (some result) := by
  intro mode outline readAs holds
  have read := reads mode outline readAs holds
  obtain ⟨items, rfl, -⟩ := readAs.list_inv
  simp only [optional, read]
  rfl

theorem list {item : Decoder α} {values : List Json} {results : List α}
    (each : List.Forall₂ (Reads level item) values results) :
    Reads level (Decode.list item) (.list values) results := by
  intro mode outline readAs holds
  obtain ⟨items, rfl, asRead⟩ := readAs.list_inv
  obtain ⟨inside, entered, room⟩ := holds.enter
  have decoded : items.mapM (item inside) = .ok results := by
    clear holds entered readAs
    induction asRead generalizing results with
    | nil =>
        cases each
        rfl
    | cons first others ih =>
        cases each with
        | cons read reads =>
            have bounded := room.mono (Nat.le_max_left _ _)
            rw [List.mapM_cons, read inside _ first bounded,
              ih reads (room.mono (Nat.le_max_right _ _))]
            rfl
  simp only [Decode.list, entered, ok_bind, decoded]
  rfl

theorem list_map {item : Decoder α} {encode : α → Json} {results : List α}
    (each : ∀ result ∈ results, Reads level item (encode result) result) :
    Reads level (Decode.list item) (.list (results.map encode)) results := by
  apply Reads.list
  induction results with
  | nil => exact .nil
  | cons result results ih =>
      exact .cons (each result List.mem_cons_self)
        (ih fun other member => each other (List.mem_cons_of_mem _ member))

end Reads

/-! ## Lists with a fixed number of items -/

/-- Decoding one item after the other uses up the items and yields the result. -/
def ReadsItems (level : Nat) (parts : ItemsM α) (values : List Json) (result : α) : Prop :=
  ∀ (mode : Mode) (wanted : Wanted) (outlines : List Outline) (taken : Nat) (close : Close),
    List.Forall₂ ReadAs outlines values → mode.Holds level (Json.depths values) →
      parts mode wanted ⟨taken, outlines, close⟩ =
        .ok (result, ⟨taken + values.length, [], close⟩)

namespace ReadsItems

/-- No item is used for what is known. -/
theorem pure (result : α) : ReadsItems level (pure result) [] result := by
  intro mode wanted outlines taken close each _
  cases each
  rfl

/-- An item is used, and then those that remain. -/
theorem item {decoder : Decoder α} {next : α → ItemsM β} {value : Json} {values : List Json}
    {part : α} {result : β} (first : Reads level decoder value part)
    (others : ReadsItems level (next part) values result) :
    ReadsItems level (Decode.item decoder >>= next) (value :: values) result := by
  intro mode wanted outlines taken close each holds
  cases each with
  | @cons outline _ outlines _ readAs rest =>
      have read := first mode outline readAs (holds.mono (Nat.le_max_left _ _))
      have remaining := others mode wanted outlines (taken + 1) close rest
        (holds.mono (Nat.le_max_right _ _))
      have used : Decode.item decoder mode wanted ⟨taken, outline :: outlines, close⟩ =
          .ok (part, ⟨taken + 1, outlines, close⟩) := by
        simp only [Decode.item, read]
        rfl
      have follows : (Decode.item decoder >>= next) mode wanted
          ⟨taken, outline :: outlines, close⟩ =
            (Decode.item decoder mode wanted ⟨taken, outline :: outlines, close⟩ >>=
              fun read => next read.1 mode wanted read.2) := rfl
      rw [follows, used, ok_bind, remaining, List.length_cons]
      congr 3
      omega

end ReadsItems

namespace Reads

/-- A list that stands for a record is read if its parts are. -/
theorem positional {parts : ItemsM α} {values : List Json} {result : α} (wanted length : Wanted)
    (reads : ReadsItems level parts values result) :
    Reads level (Decode.positional wanted length parts) (.list values) result := by
  intro mode outline readAs holds
  obtain ⟨items, rfl, each⟩ := readAs.list_inv
  obtain ⟨inside, entered, room⟩ := holds.enter
  have decoded := reads inside length items 0 .closed each room
  have opened : Decode.positional wanted length parts mode (.list items .closed) =
      (do
        let inside ← mode.enter
        let read ← parts inside length ⟨0, items, .closed⟩
        read.2.finish mode
        return read.1) := rfl
  rw [opened, entered, ok_bind, decoded]
  cases mode with
  | direct room => rfl
  | buffered => rfl

theorem tuple {parts : ItemsM α} {values : List Json} {result : α} (size : Nat)
    (reads : ReadsItems level parts values result) :
    Reads level (Decode.tuple size parts) (.list values) result :=
  .positional _ _ reads

theorem pair {left : Decoder α} {right : Decoder β} {first second : Json} {a : α} {b : β}
    (readsFirst : Reads level left first a) (readsSecond : Reads level right second b) :
    Reads level (Decode.pair left right) (.list [first, second]) (a, b) :=
  .tuple 2 (.item readsFirst (.item readsSecond (.pure (a, b))))

end Reads

end DocFilter.Decode
