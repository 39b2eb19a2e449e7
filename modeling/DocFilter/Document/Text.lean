import DocFilter.Document.Decode
import DocFilter.Document.Encode
import DocFilter.Json.Printer
import DocFilter.Report

/-!
# Documents as text
-/

namespace DocFilter.Document

def ofSource (source : Text.Source) : Except Error Document :=
  (Decode.run Document.decoder source).mapError .malformed

def ofText (text : String) : Except Error Document := ofSource (.ofText text)

def toText (document : Document) (layout : Json.Layout) : String :=
  document.toJson.toText layout

/-- Reads a document, and tells about its version. -/
def read (source : Text.Source) : Report Document :=
  match ofSource source with
  | .ok document => ⟨.ok document, document.versionNotices⟩
  | .error error => .fail error

end DocFilter.Document
