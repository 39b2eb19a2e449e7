import DocFilter.Location

/-!
# Workspaces

The files that a program sees, named by paths from the directory that it is
started in. Files are opened and created by path, and what the system says if
that fails is part of what users see. Besides files there are a few directories
that every system has, and devices.
-/

namespace DocFilter

/-- Why a file cannot be opened, created or read. -/
inductive FileProblem where
  | missing
  | notDirectory
  | isDirectory
  | nameTooLong
  deriving DecidableEq

def FileProblem.message : FileProblem → String
  | .missing => "No such file or directory (os error 2)"
  | .notDirectory => "Not a directory (os error 20)"
  | .isDirectory => "Is a directory (os error 21)"
  | .nameTooLong => "File name too long (os error 36)"

/-- What can be opened to be read. -/
inductive Feed where
  | standardInput
  | content (bytes : ByteArray)
  /-- A directory can be opened, but not read. -/
  | directory

/-- What can be opened to be written. -/
inductive Sink where
  | standardOutput
  /-- A file, which is created if it does not exist. -/
  | file (location : Location)
  /-- A device that forgets what is written. -/
  | nowhere
  /-- A device that has no room for anything. -/
  | full

/-- A special file, which behaves in its own way. -/
structure Device where
  feed : Feed
  sink : Sink

namespace Device

/-- Zero bytes without end. No text that is read as a document goes beyond the
first of them, so it stands for all. -/
def zeros : Feed := .content ⟨#[0]⟩

/-- The devices, by their names in the directory `/dev`. -/
def named : List (String × Device) := [
  ("null", ⟨.content .empty, .nowhere⟩),
  ("zero", ⟨zeros, .nowhere⟩),
  ("full", ⟨zeros, .full⟩),
  ("stdin", ⟨.standardInput, .nowhere⟩),
  ("stdout", ⟨.content .empty, .standardOutput⟩)]

def at? : Location → Option Device
  | ["/", "dev", name] => named.lookup name
  | _ => none

end Device

/-- Files with their locations and contents. -/
abbrev Workspace := List (Location × ByteArray)

namespace Workspace

def content? (workspace : Workspace) (location : Location) : Option ByteArray :=
  workspace.lookup location

def setContent (workspace : Workspace) (location : Location) (content : ByteArray) : Workspace :=
  if (workspace.content? location).isSome then
    workspace.map fun (other, held) => (other, if other == location then content else held)
  else workspace ++ [(location, content)]

/-- The workspace after files are put, one after the other, where their paths lead. -/
def ofFiles (files : List (String × ByteArray)) : Workspace :=
  files.foldl (fun workspace (path, content) => workspace.setContent (.ofPath path) content) []

/-- The directories in the root that every system has. -/
def systemDirectories : List String :=
  ["bin", "dev", "etc", "home", "lib", "proc", "root", "sys", "tmp", "usr", "var"]

/-- There is a directory at a location: where paths start and around that, in the
root of every system, and wherever there are files below. -/
def isDirectory (workspace : Workspace) (location : Location) : Bool :=
  location.isAround || location == .root ||
    systemDirectories.any (fun name => location == ["/", name]) ||
    workspace.any fun (held, _) =>
      location.length < held.length && held.take location.length == location

/-- There is a file or a device at a location. -/
def isFile (workspace : Workspace) (location : Location) : Bool :=
  (workspace.content? location).isSome || (Device.at? location).isSome

/-- How many bytes a part of a path may have. -/
def partLimit : Nat := 255

/-- How many bytes a path may have. -/
def pathLimit : Nat := 4095

/-- Follows the parts of a path from a location on. Whatever is gone on from must
be a directory. -/
def follow (workspace : Workspace) (location : Location) :
    List String → Except FileProblem Location
  | [] => .ok location
  | part :: rest =>
      if workspace.isDirectory location then
        if partLimit < part.utf8ByteSize then .error .nameTooLong
        else follow workspace (location.step part) rest
      else if workspace.isFile location then .error .notDirectory
      else .error .missing

/-- Follows parts from where a path starts. -/
def locate (workspace : Workspace) (path : String) (parts : List String) :
    Except FileProblem Location :=
  if path.isEmpty then .error .missing
  else if pathLimit < path.utf8ByteSize then .error .nameTooLong
  else workspace.follow (.start path) parts

/-- Opens what a path leads to, to read it. -/
def feedAt (workspace : Workspace) (path : String) : Except FileProblem Feed := do
  let location ← workspace.locate path (pathParts path)
  if workspace.isDirectory location then return .directory
  else
    match workspace.content? location, Device.at? location with
    | some content, _ => return .content content
    | none, some device => return device.feed
    | none, none => .error .missing

/-- Opens what a path leads to, to write it. Behind a slash at the end there can
only be a directory, whether there is one or not. -/
def sinkAt (workspace : Workspace) (path : String) : Except FileProblem Sink := do
  let parts := pathParts path
  let named := (parts.reverse.dropWhile (· == "")).reverse
  if named.length < parts.length then
    discard (workspace.locate path (named.dropLast ++ ["."]))
    .error .isDirectory
  else
    let location ← workspace.locate path named
    if workspace.isDirectory location then .error .isDirectory
    else
      match Device.at? location with
      | some device => return device.sink
      | none => return .file location

end Workspace

end DocFilter
