import DocFilter.Decode.Basic

/-!
# Tagged values

A node is an object with a tag under `t` and, if its kind has any, a content
under `c`. A choice is an object with nothing but a tag. In either, members may
come in any order, and the list of tag and content is accepted as well.

The tag decides how the content is to be decoded. A content that comes first
is therefore taken into a buffer, and decoded from it once the tag is known.
-/

namespace DocFilter.Decode

open Json (Outline Close Quoted orFault)

/-- The tags of a type, in the order in which they are numbered. -/
structure Vocabulary (κ : Type) where
  type : String
  entries : List (String × κ)

namespace Vocabulary

variable {κ : Type}

def names (vocabulary : Vocabulary κ) : List String := vocabulary.entries.map (·.1)

def named (vocabulary : Vocabulary κ) (tag : String) : Result κ :=
  match vocabulary.entries.lookup tag with
  | some kind => .ok kind
  | none => mismatch (.unknownTag tag vocabulary.names)

/-- The meaning of the number of a tag. -/
def numbered (vocabulary : Vocabulary κ) (index : Nat) : Result κ :=
  match vocabulary.entries[index]? with
  | some (_, kind) => .ok kind
  | none =>
      mismatch (.wrongValue (.number (.whole index)) (.tagIndex vocabulary.entries.length))

/-- Decodes a tag that stands alone. In a buffer, the number of a tag stands
for it as well. -/
def plainTag (vocabulary : Vocabulary κ) : Decoder κ := fun mode value => do
  match ← ofFault value.found, mode with
  | .string tag, _ => vocabulary.named tag
  | .number (.whole (.ofNat index)), .buffered => vocabulary.numbered index
  | found, _ => mismatch (.wrongType found .tag)

/-- Decodes the value under a tag that is given as a name: null. -/
def unitValue (value : Outline) : Result Unit := do
  match ← ofFault value.found with
  | .null => return ()
  | found => mismatch (.wrongType found .unit)

/-- The end of an object that has a tag as its only name. -/
def afterEntry (members : List (Quoted × Outline)) (close : Close) : Result Unit :=
  match members, close with
  | [], .closed => .ok ()
  | [], .cut false ending => faulty (.ofEnding .object ending)
  | _, _ => faulty .expectedValue

/-- Decodes the members of an object that has a tag as its only name, directly
from the text. -/
def entryTag (vocabulary : Vocabulary κ) (members : List (Quoted × Outline)) (close : Close) :
    Result κ :=
  match members with
  | (key, value) :: members => do
      let kind ← vocabulary.named (← ofFault key.read)
      unitValue value
      afterEntry members close
      return kind
  | [] =>
      match close with
      | .badKey => faulty .keyNotString
      | .cut _ ending => faulty (.ofEnding .object ending)
      | _ => faulty .expectedValue

/-- Decodes such a tag from a buffer, where an empty object is as good as null. -/
def bufferedEntryTag (vocabulary : Vocabulary κ) (members : List (Quoted × Outline)) :
    Result κ :=
  match members with
  | [(key, value)] => do
      let kind ← vocabulary.named (← ofFault key.read)
      match value with
      | .object [] _ => pure ()
      | _ => unitValue value
      return kind
  | _ => mismatch (.wrongValue .object .singleEntry)

/-- Decodes the tag of a node: a string, or an object that has the tag as its
only name. -/
def nodeTag (vocabulary : Vocabulary κ) : Decoder κ := fun mode value => do
  match value, mode with
  | .scalar (.quoted literal), _ => vocabulary.named (← ofFault literal.read)
  | .object members close, .direct _ =>
      discard mode.enter
      vocabulary.entryTag members close
  | .object members _, .buffered => vocabulary.bufferedEntryTag members
  | .absent fault, _ => faulty fault
  | _, .direct _ => faulty .expectedValue
  | _, .buffered => reject .tagOrMap value

end Vocabulary

/-- The content that nodes of one kind have. -/
inductive Payload (α : Type) where
  /-- None; a content of null is accepted. The kind is named if there is another. -/
  | bare (kind : String) (value : α)
  | content (decoder : Decoder α)

namespace Payload

variable {α : Type}

def decode (type : String) : Payload α → Decoder α
  | .bare kind value, mode, outline =>
      match outline with
      | .scalar .null => .ok value
      | _ => rejectInside (.bare type kind) mode outline
  | .content decoder, mode, outline => decoder mode outline

/-- The value of a node without content. -/
def absent : Payload α → Result α
  | .bare _ value => .ok value
  | .content _ => mismatch (.missingField "c")

end Payload

/-- What has been met of a node. -/
inductive NodeDraft (κ α : Type) where
  | nothing
  | tag (kind : κ)
  /-- A content that waits for its tag. -/
  | content (buffer : Outline)
  | complete (value : α)

section Node

variable {κ α : Type}

/-- One more of the two members of a node. -/
def acceptNode (vocabulary : Vocabulary κ) (payload : κ → Payload α) (mode : Mode)
    (draft : NodeDraft κ α) (name : String) (value : Outline) : Result (NodeDraft κ α) :=
  if name == "t" then
    match draft with
    | .nothing => return .tag (← vocabulary.nodeTag mode value)
    | .content buffer => do
        let kind ← vocabulary.nodeTag mode value
        return .complete (← (payload kind).decode vocabulary.type .buffered buffer)
    | _ => mismatch (.duplicateField "t")
  else
    match draft with
    | .nothing => do
        mode.buffer value
        return .content value
    | .tag kind => return .complete (← (payload kind).decode vocabulary.type mode value)
    | _ => mismatch (.duplicateField "c")

/-- The node, once all members are met. -/
def finishNode (payload : κ → Payload α) : NodeDraft κ α → Result α
  | .complete value => .ok value
  | .tag kind => (payload kind).absent
  | _ => mismatch (.missingField "t")

def node (vocabulary : Vocabulary κ) (payload : κ → Payload α) : Decoder α :=
  fun mode value => do
    match value with
    | .object members close =>
        let inside ← mode.enter
        finishNode payload
          (← foldMembers ["t", "c"] ignore (acceptNode vocabulary payload inside) close
            .nothing members)
    | .list items close =>
        let parts : ItemsM α := do
          let kind ← item vocabulary.plainTag
          item ((payload kind).decode vocabulary.type)
        decodeItems (.node vocabulary.type) parts mode items close
    | _ => reject (.node vocabulary.type) value

/-- The content of a kind that has several parts. -/
def parts (type kind : String) (size : Nat) (decoder : ItemsM α) : Payload α :=
  .content (positional (.parts type kind) (.partsList type kind size) decoder)

/-- The tag among the members of a choice. -/
def acceptChoice (vocabulary : Vocabulary κ) (mode : Mode) (draft : Option κ)
    (_ : String) (value : Outline) : Result (Option κ) :=
  setOnce "t" draft (vocabulary.plainTag mode value)

/-- Decodes a choice. Members besides the tag, and items beyond it, are taken
into a buffer and then ignored. -/
def choice (vocabulary : Vocabulary κ) : Decoder κ := fun mode value => do
  match value with
  | .object members close =>
      let inside ← mode.enter
      let draft ← foldMembers ["t"] inside.buffer (acceptChoice vocabulary inside) close
        none members
      required "t" draft
  | .list items close =>
      let inside ← mode.enter
      match items with
      | [] =>
          ofFault (orFault close.listFault?)
          mismatch (.missingField "t")
      | tag :: extra =>
          let kind ← vocabulary.plainTag inside tag
          extra.forM inside.buffer
          ofFault (orFault close.listFault?)
          if extra.isEmpty then return kind
          else mismatch (.wrongLength extra.length (.items 0))
  | _ => reject (.choice vocabulary.type) value

end Node

/-- Decodes a whole text. Nothing but blanks may follow the value. -/
def run {α : Type} (decoder : Decoder α) (source : Text.Source) : Result α := do
  let scan := Json.Scan.ofSource source
  let value ← decoder (.direct 127) scan.root
  match scan.rest, source.ending with
  | [], .complete => return value
  | [], .interrupted reason => faulty (.interrupted reason)
  | _, _ => faulty .trailingCharacters

end DocFilter.Decode
