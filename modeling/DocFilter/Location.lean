/-!
# Locations and paths

A path leads part by part from the directory that a program is started in, or
from the root, to a location. Many paths lead to one location; without detours
there is only one.
-/

namespace DocFilter

/-- Where a file can be, as the parts of the path that leads there without
detours. A location outside of the directory where paths start begins with two
dots for each directory to be left, or with the root. -/
abbrev Location := List String

/-- The parts of a path, between its slashes, if the characters read so far begin the first
of them, the last one coming first. -/
def partsAfter (read : List Char) : List Char → List String
  | [] => [String.ofList read.reverse]
  | '/' :: rest => String.ofList read.reverse :: partsAfter [] rest
  | char :: rest => partsAfter (char :: read) rest

def pathParts (path : String) : List String := partsAfter [] path.toList

namespace Location

/-- The directory where relative paths start. -/
def here : Location := []

def root : Location := ["/"]

/-- The location is the directory where relative paths start, or is around it. -/
def isAround (location : Location) : Bool := location.all (· == "..")

/-- The directory that a location is in; the root is in itself. -/
def parent (location : Location) : Location :=
  if location == root then root
  else if location.isAround then ".." :: location
  else location.dropLast

/-- Goes on by one part of a path. An empty part and a dot stay, and two dots
go back. -/
def step (location : Location) (part : String) : Location :=
  if part == "" || part == "." then location
  else if part == ".." then location.parent
  else location ++ [part]

def start (path : String) : Location :=
  if path.toList.head? == some '/' then root else here

/-- The location that a path leads to if nothing is in the way. -/
def ofPath (path : String) : Location := (pathParts path).foldl step (start path)

end Location

end DocFilter
