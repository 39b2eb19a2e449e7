import DocFilter.Document.Text
import DocFilter.Walk

/-!
# Filtering over channels

A document is read from one channel, filtered, and written to another. Either
channel may fail at some byte. Nothing is written unless the whole document was
read and filtered. How deeply the walk may go depends on the document: its own
height is enough for every filter that puts nothing taller into a node's place.
-/

namespace DocFilter

/-- A point at which a channel fails, and why. -/
structure Breakage where
  /-- How many bytes pass before. -/
  after : Nat
  reason : String
  deriving DecidableEq

/-- A channel to read from: the bytes in it, and where it fails. -/
structure Reader where
  bytes : ByteArray
  breakage : Option Breakage := none

/-- What arrives over a channel. A channel that would fail where there is
nothing left to read does not fail. -/
def Reader.source (reader : Reader) : Text.Source :=
  match reader.breakage with
  | some breakage =>
      if breakage.after < reader.bytes.size then
        .ofBytes (reader.bytes.extract 0 breakage.after) (.interrupted breakage.reason)
      else .ofBytes reader.bytes .complete
  | none => .ofBytes reader.bytes .complete

/-- A channel to write to: where it fails. -/
structure Writer where
  breakage : Option Breakage := none

/-- Writes bytes: what the channel takes, and whether that is everything. -/
def Writer.write (writer : Writer) (bytes : ByteArray) : ByteArray × Except Error Unit :=
  match writer.breakage with
  | some breakage =>
      if breakage.after < bytes.size then
        (bytes.extract 0 breakage.after, .error (.channel breakage.reason))
      else (bytes, .ok ())
  | none => (bytes, .ok ())

/-- A document as it is written to a channel: one text, and a line end. -/
def Document.bytes (document : Document) (layout : Json.Layout) : ByteArray :=
  (document.toText layout ++ "\n").toUTF8

section

variable {σ : Type} (filter : NodeFilter σ) (format : String) (limit : Document → Nat)

/-- Reads a document and filters it. -/
def filterSource (source : Text.Source) (state : σ) : Outcome σ Document :=
  let report := Document.read source
  match report.outcome with
  | .ok document =>
      let outcome := document.filter filter format (limit document) state
      { outcome with notices := report.notices ++ outcome.notices }
  | .error error => ⟨.error (.failed error), state, report.notices⟩

/-- Filters a text: the text of the filtered document, without blanks. -/
def filterText (text : String) (state : σ) : Outcome σ String :=
  let outcome := filterSource filter format limit (.ofText text) state
  { outcome with result := outcome.result.map fun document => document.toText .compact }

/-- Filters from one channel to another. The first component is what was
written. -/
def filterChannel (layout : Json.Layout) (reader : Reader) (writer : Writer) (state : σ) :
    ByteArray × Outcome σ Unit :=
  let outcome := filterSource filter format limit reader.source state
  match outcome.result with
  | .ok document =>
      let (written, result) := writer.write (document.bytes layout)
      (written, { outcome with result := result.mapError .failed })
  | .error halt => (.empty, { outcome with result := .error halt })

end

end DocFilter
