import DocFilter.Decode.Problem
import DocFilter.Entries

/-!
# Decoders

A decoder turns the outline of a text into a value of its type, or into the
first problem in reading order. It meets the outline in one of two ways.
Directly from the text, the number of containers that may be open is limited.
From a buffer, when the value had to be read before it was known what it has
to be, the value is complete and was checked already.
-/

namespace DocFilter.Decode

open Json (Outline Close Quoted Fault Found orFault)

/-- How a decoder meets an outline. -/
inductive Mode where
  /-- From the text; so many more containers may be opened. -/
  | direct (room : Nat)
  /-- From a buffer. -/
  | buffered
  deriving DecidableEq

abbrev Result (α : Type) := Except Problem α

abbrev Decoder (α : Type) := Mode → Outline → Result α

def ofFault {α : Type} : Except Fault α → Result α
  | .ok value => .ok value
  | .error cause => .error (.fault cause)

def faulty {α : Type} (cause : Fault) : Result α := .error (.fault cause)

def mismatch {α : Type} (cause : Mismatch) : Result α := .error (.mismatch cause)

namespace Mode

/-- The mode inside a container that is opened. -/
def enter : Mode → Result Mode
  | .direct 0 => faulty .tooDeep
  | .direct (room + 1) => .ok (.direct room)
  | .buffered => .ok .buffered

/-- Takes a value into a buffer: it is checked completely. -/
def buffer : Mode → Outline → Result Unit
  | .direct room, value => ofFault (value.check room)
  | .buffered, _ => .ok ()

end Mode

/-- Reports a value of the wrong type. A scalar is read completely before. -/
def reject {α : Type} (wanted : Wanted) (value : Outline) : Result α := do
  let found ← ofFault value.found
  mismatch (.wrongType found wanted)

/-- Reports a value of the wrong type after a container has been opened. -/
def rejectInside {α : Type} (wanted : Wanted) (mode : Mode) (value : Outline) : Result α := do
  match value with
  | .list _ _ | .object _ _ => discard mode.enter
  | _ => pure ()
  reject wanted value

def string : Decoder String := fun _ value => do
  match ← ofFault value.found with
  | .string text => return text
  | found => mismatch (.wrongType found .string)

def bool : Decoder Bool := fun _ value => do
  match ← ofFault value.found with
  | .bool truth => return truth
  | found => mismatch (.wrongType found .boolean)

/-- Decodes an integer between two bounds; a floating point number is none,
even if it is whole. -/
def int (least greatest : Int) (wanted : Wanted) : Decoder Int := fun _ value => do
  match ← ofFault value.found with
  | .number (.whole number) =>
      if least ≤ number && number ≤ greatest then return number
      else mismatch (.wrongValue (.number (.whole number)) wanted)
  | found => mismatch (.wrongType found wanted)

def int32 : Decoder Int32 := fun mode value =>
  return Int32.ofInt (← int (-2147483648) 2147483647 .int32 mode value)

def nat32 : Decoder UInt32 := fun mode value =>
  return (← int 0 4294967295 .nat32 mode value).toNat.toUInt32

/-- Decodes a floating point number; an integer is rounded to one. -/
def float64 : Decoder Float := fun _ value => do
  match ← ofFault value.found with
  | .number (.whole number) => return Float.ofInt number
  | .number (.real number) => return number
  | found => mismatch (.wrongType found .float64)

/-- Decodes null as nothing. -/
def optional {α : Type} (decoder : Decoder α) : Decoder (Option α) := fun mode value => do
  match value with
  | .scalar .null => return none
  | _ => return some (← decoder mode value)

def list {α : Type} (item : Decoder α) : Decoder (List α) := fun mode value => do
  match value with
  | .list items close =>
      let inside ← mode.enter
      let decoded ← items.mapM (item inside)
      ofFault (orFault close.listFault?)
      return decoded
  | _ => reject .list value

/-!
## Lists with a fixed number of items
-/

/-- The items of a list that are still to be decoded, and how many were. -/
structure Items where
  taken : Nat
  rest : List Outline
  close : Close

/-- Decoding the items of a list one after the other. The mode is that of the
items, and the wanted length is named if the list is over too early. -/
abbrev ItemsM (α : Type) := Mode → Wanted → StateT Items (Except Problem) α

instance : Monad ItemsM where
  pure value := fun _ _ => pure value
  bind first next := fun mode wanted => do
    let value ← first mode wanted
    next value mode wanted

def item {α : Type} (decoder : Decoder α) : ItemsM α := fun mode wanted state =>
  match state.rest with
  | [] =>
      match state.close.listFault? with
      | some fault => faulty fault
      | none => mismatch (.wrongLength state.taken wanted)
  | value :: rest => do
      let decoded ← decoder mode value
      return (decoded, { state with taken := state.taken + 1, rest })

/-- The end of a list after its last wanted item. Directly from the text, any
further item is text that should not be there. From a buffer, the list has the
wrong length. -/
def Items.finish (mode : Mode) (state : Items) : Result Unit :=
  match mode with
  | .direct _ =>
      match state.rest with
      | _ :: _ => faulty .trailingCharacters
      | [] =>
          match state.close with
          | .noSeparator => faulty .trailingCharacters
          | close => ofFault (orFault close.listFault?)
  | .buffered =>
      match state.rest with
      | [] => .ok ()
      | rest => mismatch (.wrongLength (state.taken + rest.length) (.items state.taken))

/-- Decodes the items of an opened list. -/
def decodeItems {α : Type} (length : Wanted) (parts : ItemsM α) (mode : Mode)
    (items : List Outline) (close : Close) : Result α := do
  let inside ← mode.enter
  let (decoded, state) ← parts inside length ⟨0, items, close⟩
  state.finish mode
  return decoded

/-- Decodes a list that stands for a record, one item for each part. -/
def positional {α : Type} (wanted length : Wanted) (parts : ItemsM α) : Decoder α :=
  fun mode value =>
    match value with
    | .list items close => decodeItems length parts mode items close
    | _ => reject wanted value

/-- Decodes a record without a name. -/
def tuple {α : Type} (size : Nat) (parts : ItemsM α) : Decoder α :=
  positional (.tuple size) (.tuple size) parts

def pair {α β : Type} (first : Decoder α) (second : Decoder β) : Decoder (α × β) :=
  tuple 2 do
    let left ← item first
    let right ← item second
    return (left, right)

/-!
## Objects
-/

/-- Goes through the members of an object. The value of a known name changes
the draft; what becomes of any other is up to `other`. -/
def foldMembers {δ : Type} (known : List String) (other : Outline → Result Unit)
    (accept : δ → String → Outline → Result δ) (close : Close) :
    δ → List (Quoted × Outline) → Result δ
  | draft, [] => do
      ofFault (orFault close.objectFault?)
      return draft
  | draft, (key, value) :: members => do
      let name ← ofFault key.read
      if known.contains name then
        let next ← accept draft name value
        foldMembers known other accept close next members
      else
        other value
        foldMembers known other accept close draft members

/-- Passes over a value that is not wanted. -/
def ignore (value : Outline) : Result Unit := ofFault value.skip

/-- Decodes a record from its named parts in any order, or from the list of
its parts. A draft holds the parts met so far. -/
def record {α δ : Type} (type : String) (names : List String) (draft : δ)
    (accept : Mode → δ → String → Outline → Result δ) (finish : δ → Result α)
    (parts : ItemsM α) : Decoder α := fun mode value => do
  match value with
  | .list items close => decodeItems (.recordList type names.length) parts mode items close
  | .object members close =>
      let inside ← mode.enter
      finish (← foldMembers names ignore (accept inside) close draft members)
  | _ => reject (.record type) value

/-- Sets a part of a draft that must not be there yet. -/
def setOnce {α : Type} (name : String) (part : Option α) (decode : Result α) :
    Result (Option α) :=
  match part with
  | some _ => mismatch (.duplicateField name)
  | none => decode.map some

/-- A part of a draft that must be there. -/
def required {α : Type} (name : String) : Option α → Result α
  | some part => .ok part
  | none => mismatch (.missingField name)

/-!
## Maps
-/

/-- Decodes the members of an object into a map. -/
def mapMembers {α : Type} (entry : Outline → Result α) (close : Close) :
    List (String × α) → List (Quoted × Outline) → Result (List (String × α))
  | entries, [] => do
      ofFault (orFault close.objectFault?)
      return entries
  | entries, (key, value) :: members => do
      let name ← ofFault key.read
      let decoded ← entry value
      mapMembers entry close (Entries.insert name decoded entries) members

def map {α : Type} (entry : Decoder α) : Decoder (List (String × α)) := fun mode value => do
  match value with
  | .object members close =>
      let inside ← mode.enter
      mapMembers (entry inside) close [] members
  | _ => reject .map value

end DocFilter.Decode
