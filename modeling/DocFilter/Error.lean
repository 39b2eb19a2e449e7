import DocFilter.Decode.Problem
import DocFilter.Document.Basic
import DocFilter.Template

/-!
# Errors

Everything that can go wrong while a document is filtered, as causes.
-/

namespace DocFilter

/-- A place in a table that only some kinds of blocks can be rendered in. -/
inductive Place where
  | tableCaption
  | tableCell
  deriving DecidableEq

def Place.name : Place → String
  | .tableCaption => "table caption"
  | .tableCell => "table cell"

/-- What can go wrong. -/
inductive Error where
  /-- What was read is no document. -/
  | malformed (problem : Decode.Problem)
  /-- A channel failed, for the stated reason. -/
  | channel (reason : String)
  /-- A block of a kind that cannot be rendered where it stands. -/
  | unsupported (place : Place) (found : BlockKind)
  | template (problem : Template.Problem)
  /-- Markup could not be produced. -/
  | rendering (text : String)
  | other (text : String)

namespace Error

def message : Error → String
  | .malformed problem => "Malformed document tree: " ++ problem.message
  | .channel reason => "I/O error: " ++ reason
  | .unsupported place found => s!"Unsupported {found.tag} node in {place.name}"
  | .template problem => "Template error: " ++ problem.message
  | .rendering text => "Rendering error: " ++ text
  | .other text => text

end Error

end DocFilter
