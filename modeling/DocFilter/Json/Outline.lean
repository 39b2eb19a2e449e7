import DocFilter.Json.Token

/-!
# The outline of a text

A text has the shape of a value even if something is wrong with it: up to its
first malformed place it is a tree, and the tree records at that place what
is wrong. Readers walk the outline in reading order and report whatever they
meet first, be it a value of the wrong kind or that one malformed place.
-/

namespace DocFilter.Json

/-- How a container ends. -/
inductive Close where
  /-- With its closing bracket. -/
  | closed
  /-- An item or a member is followed by neither a comma nor the bracket. -/
  | noSeparator
  /-- The closing bracket follows a comma. -/
  | danglingComma
  /-- Something that is no string stands where a name must be. -/
  | badKey
  /-- Nowhere: the text ends, after a comma or not, or what the container
  holds last is malformed, and nothing was read beyond. -/
  | cut (afterComma : Bool) (ending : Text.Ending)
  deriving DecidableEq

/-- A value as it stands in a text, with at most one malformed place in it. -/
inductive Outline where
  /-- No value, but a fault. -/
  | absent (fault : Fault)
  | scalar (value : Scalar)
  | list (items : List Outline) (close : Close)
  | object (members : List (Quoted × Outline)) (close : Close)

/-- A container that waits for a value; what it holds so far stands last one
first. -/
inductive Waiting where
  | list (items : List Outline)
  | member (members : List (Quoted × Outline)) (key : Quoted)

/-- What has to come next. -/
inductive Stage where
  /-- A value, or the end of a list in which there is none yet. -/
  | value
  /-- The end of a list, or a comma. -/
  | afterItem (items : List Outline)
  /-- A name, or the end of an object in which there is none yet. -/
  | key (members : List (Quoted × Outline))
  | colon (members : List (Quoted × Outline)) (key : Quoted)
  /-- The end of an object, or a comma. -/
  | afterMember (members : List (Quoted × Outline))

/-- A text as one value, and the tokens beyond it. -/
structure Scan where
  root : Outline
  rest : List Token

namespace Waiting

/-- The container, if what it waits for is the last thing read. -/
def tear (ending : Text.Ending) (inner : Outline) : Waiting → Outline
  | .list items => .list (items.reverse ++ [inner]) (.cut false ending)
  | .member members key => .object (members.reverse ++ [(key, inner)]) (.cut false ending)

/-- The outermost container, if the innermost value is the last thing read. -/
def tearAll (ending : Text.Ending) : Outline → List Waiting → Outline
  | inner, [] => inner
  | inner, waiting :: outer => tearAll ending (waiting.tear ending inner) outer

end Waiting

/-- What one token leads to. -/
inductive Progress where
  | next (stage : Stage) (waiting : List Waiting)
  /-- The whole value is read. -/
  | whole (root : Outline)
  /-- The token is out of place; the value is read no further. -/
  | torn (root : Outline)

/-- Goes on after a finished value: it belongs to the innermost waiting
container, or is the whole. -/
def supply (value : Outline) : List Waiting → Progress
  | [] => .whole value
  | .list items :: outer => .next (.afterItem (value :: items)) outer
  | .member members key :: outer => .next (.afterMember ((key, value) :: members)) outer

/-- One more token. -/
def advance (ending : Text.Ending) : Stage → List Waiting → Token → Progress
  | .value, waiting, .scalar value => supply (.scalar value) waiting
  | .value, waiting, .openList => .next .value (.list [] :: waiting)
  | .value, waiting, .openObject => .next (.key []) waiting
  | .value, .list [] :: outer, .closeList => supply (.list [] .closed) outer
  | .value, .list items :: outer, .closeList =>
      .torn (Waiting.tearAll ending (.list items.reverse .danglingComma) outer)
  | .value, waiting, _ => .torn (Waiting.tearAll ending (.absent .expectedValue) waiting)
  | .afterItem items, outer, .comma => .next .value (.list items :: outer)
  | .afterItem items, outer, .closeList => supply (.list items.reverse .closed) outer
  | .afterItem items, outer, _ =>
      .torn (Waiting.tearAll ending (.list items.reverse .noSeparator) outer)
  | .key members, outer, .scalar (.quoted key) => .next (.colon members key) outer
  | .key [], outer, .closeObject => supply (.object [] .closed) outer
  | .key members, outer, .closeObject =>
      .torn (Waiting.tearAll ending (.object members.reverse .danglingComma) outer)
  | .key members, outer, _ =>
      .torn (Waiting.tearAll ending (.object members.reverse .badKey) outer)
  | .colon members key, outer, .colon => .next .value (.member members key :: outer)
  | .colon members key, outer, _ =>
      .torn (Waiting.tearAll ending (.absent .expectedColon) (.member members key :: outer))
  | .afterMember members, outer, .comma => .next (.key members) outer
  | .afterMember members, outer, .closeObject =>
      supply (.object members.reverse .closed) outer
  | .afterMember members, outer, _ =>
      .torn (Waiting.tearAll ending (.object members.reverse .noSeparator) outer)

/-- The end of the text. -/
def breakOff (ending : Text.Ending) : Stage → List Waiting → Outline
  | .value, .list [] :: outer =>
      Waiting.tearAll ending (.list [] (.cut false ending)) outer
  | .value, waiting => Waiting.tearAll ending (.absent (.ofEnding .value ending)) waiting
  | .afterItem items, outer =>
      Waiting.tearAll ending (.list items.reverse (.cut false ending)) outer
  | .key members, outer =>
      Waiting.tearAll ending (.object members.reverse (.cut (!members.isEmpty) ending)) outer
  | .colon members key, outer =>
      Waiting.tearAll ending (.absent (.ofEnding .object ending))
        (.member members key :: outer)
  | .afterMember members, outer =>
      Waiting.tearAll ending (.object members.reverse (.cut false ending)) outer

/-- Reads tokens into the containers that are open. -/
def scan (ending : Text.Ending) : Stage → List Waiting → List Token → Scan
  | stage, waiting, [] => ⟨breakOff ending stage waiting, []⟩
  | stage, waiting, token :: rest =>
      match advance ending stage waiting token with
      | .next stage waiting => scan ending stage waiting rest
      | .whole root => ⟨root, rest⟩
      | .torn root => ⟨root, []⟩

def Scan.ofSource (source : Text.Source) : Scan :=
  scan source.ending .value [] (tokens source)

namespace Close

def listFault? : Close → Option Fault
  | .closed => none
  | .danglingComma => some .trailingComma
  | .cut _ ending => some (.ofEnding .list ending)
  | _ => some .expectedListSeparator

/-- The fault of a list that is not closed, when its items are passed over: a
comma then promises an item, so a bracket after it is no value. -/
def skippedListFault? : Close → Option Fault
  | .danglingComma => some .expectedValue
  | close => close.listFault?

def objectFault? : Close → Option Fault
  | .closed => none
  | .danglingComma => some .trailingComma
  | .badKey => some .keyNotString
  | .cut true ending => some (.ofEnding .value ending)
  | .cut false ending => some (.ofEnding .object ending)
  | .noSeparator => some .expectedMemberSeparator

/-- The fault of an object that is not closed, when its members are passed
over: a comma then promises a name. -/
def skippedObjectFault? : Close → Option Fault
  | .danglingComma => some .keyNotString
  | .cut _ ending => some (.ofEnding .object ending)
  | close => close.objectFault?

end Close

def orFault : Option Fault → Except Fault Unit
  | none => .ok ()
  | some fault => .error fault

namespace Outline

mutual

/-- Passes over a value that is not wanted. Its shape is checked, but neither
its depth nor the size of its numbers nor the texts of its strings. -/
def skip : Outline → Except Fault Unit
  | .absent fault => .error fault
  | .scalar value => value.skip
  | .list items close => do
      skipItems items
      orFault close.skippedListFault?
  | .object members close => do
      skipMembers members
      orFault close.skippedObjectFault?

def skipItems : List Outline → Except Fault Unit
  | [] => .ok ()
  | item :: items => do
      item.skip
      skipItems items

def skipMembers : List (Quoted × Outline) → Except Fault Unit
  | [] => .ok ()
  | (key, value) :: members => do
      key.skip
      value.skip
      skipMembers members

end

mutual

/-- Checks a value completely, inside of which `room` more containers may be
open at a time. -/
def check (room : Nat) : Outline → Except Fault Unit
  | .absent fault => .error fault
  | .scalar value => value.read.map fun _ => ()
  | .list items close =>
      match room with
      | 0 => .error .tooDeep
      | room + 1 => do
          checkItems room items
          orFault close.listFault?
  | .object members close =>
      match room with
      | 0 => .error .tooDeep
      | room + 1 => do
          checkMembers room members
          orFault close.objectFault?

def checkItems (room : Nat) : List Outline → Except Fault Unit
  | [] => .ok ()
  | item :: items => do
      item.check room
      checkItems room items

def checkMembers (room : Nat) : List (Quoted × Outline) → Except Fault Unit
  | [] => .ok ()
  | (key, value) :: members => do
      discard key.read
      value.check room
      checkMembers room members

end

/-- What a value turns out to be when it is looked at; containers are not
looked into. -/
def found : Outline → Except Fault Found
  | .absent fault => .error fault
  | .scalar value => value.read
  | .list _ _ => .ok .list
  | .object _ _ => .ok .object

end Outline

end DocFilter.Json
