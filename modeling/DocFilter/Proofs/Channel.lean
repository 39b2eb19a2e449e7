import DocFilter.Channel
import DocFilter.Document.Height
import Mathlib.Tactic.ByContra

/-!
# Faults of channels

What comes before a fault of the channel that a document is read from is never taken for
the document. So nothing is written unless the whole document was read and filtered, and
then everything up to a fault of the channel that it is written to.
-/

namespace DocFilter

theorem exists_early_breakage {fault : Option Breakage} {size : Nat}
    (faulty : ¬ ∀ breakage, fault = some breakage → size ≤ breakage.after) :
    ∃ breakage, fault = some breakage ∧ breakage.after < size := by
  by_contra none
  apply faulty
  intro breakage same
  exact Nat.le_of_not_lt fun early => none ⟨breakage, same, early⟩

/-! ## Reading -/

/-- No fault comes before the end of what is read. -/
def Reader.Intact (reader : Reader) : Prop :=
  ∀ breakage, reader.breakage = some breakage → reader.bytes.size ≤ breakage.after

namespace Reader

variable {reader : Reader}

theorem source_of_intact (intact : reader.Intact) :
    reader.source = .ofBytes reader.bytes .complete := by
  unfold source
  split
  case h_1 breakage fault =>
      rw [if_neg (Nat.not_lt.mpr (intact breakage fault))]
  case h_2 => rfl

theorem exists_interrupted (faulty : ¬ reader.Intact) :
    ∃ reason, reader.source.ending = .interrupted reason := by
  obtain ⟨breakage, fault, early⟩ := exists_early_breakage faulty
  refine ⟨breakage.reason, ?_⟩
  rw [source, fault]
  dsimp only
  rw [if_pos early]
  rfl

end Reader

/-- A text that was interrupted is not decoded, whatever its beginning is. -/
theorem Decode.run_interrupted {α : Type} (decoder : Decoder α) {source : Text.Source}
    {reason : String} (interrupted : source.ending = .interrupted reason) :
    ∃ problem, run decoder source = .error problem := by
  rw [run]
  cases decoder (.direct 127) (Json.Scan.ofSource source).root with
  | error problem => exact ⟨problem, rfl⟩
  | ok value =>
      -- A value is not enough: the text has to be over behind it.
      cases (Json.Scan.ofSource source).rest with
      | nil =>
          rw [interrupted]
          exact ⟨.fault (.interrupted reason), rfl⟩
      | cons next others => exact ⟨.fault .trailingCharacters, rfl⟩

theorem Document.ofSource_interrupted {source : Text.Source} {reason : String}
    (interrupted : source.ending = .interrupted reason) :
    ∃ problem, ofSource source = .error (.malformed problem) := by
  obtain ⟨problem, failed⟩ := Decode.run_interrupted decoder interrupted
  refine ⟨problem, ?_⟩
  rw [ofSource, failed]
  rfl

/-! ## Writing -/

/-- The channel takes so many bytes without a fault. -/
def Writer.Takes (writer : Writer) (size : Nat) : Prop :=
  ∀ breakage, writer.breakage = some breakage → size ≤ breakage.after

namespace Writer

variable {writer : Writer} {bytes : ByteArray}

theorem write_of_takes (takes : writer.Takes bytes.size) :
    writer.write bytes = (bytes, .ok ()) := by
  unfold write
  split
  case h_1 breakage fault =>
      rw [if_neg (Nat.not_lt.mpr (takes breakage fault))]
  case h_2 => rfl

/-- A channel that does not take everything takes what comes before its fault. -/
theorem write_of_not_takes (faulty : ¬ writer.Takes bytes.size) :
    ∃ breakage, writer.breakage = some breakage ∧ breakage.after < bytes.size ∧
      writer.write bytes =
        (bytes.extract 0 breakage.after, .error (.channel breakage.reason)) := by
  obtain ⟨breakage, fault, early⟩ := exists_early_breakage faulty
  refine ⟨breakage, fault, early, ?_⟩
  rw [write, fault]
  dsimp only
  rw [if_pos early]

theorem write_prefix (writer : Writer) (bytes : ByteArray) :
    ∃ rest, (writer.write bytes).1 ++ rest = bytes := by
  by_cases takes : writer.Takes bytes.size
  · rw [write_of_takes takes]
    exact ⟨.empty, ByteArray.append_empty⟩
  · obtain ⟨breakage, -, early, written⟩ := write_of_not_takes takes
    rw [written]
    refine ⟨bytes.extract breakage.after bytes.size, ?_⟩
    rw [ByteArray.extract_append_extract, Nat.zero_min, Nat.max_eq_right (Nat.le_of_lt early),
      ByteArray.extract_zero_size]

end Writer

/-! ## From one channel to the other -/

section

variable {σ : Type} (filter : NodeFilter σ) (format : String) (limit : Document → Nat)

/-- The bytes are those of a document that is filtered to the other one. -/
def FiltersTo (bytes : ByteArray) (state : σ) (result : Document) : Prop :=
  ∃ source, Document.ofSource (.ofBytes bytes .complete) = .ok source ∧
    (source.filter filter format (limit source) state).result = .ok result

variable {filter format limit}

/-- What comes of a text is what comes of the document that was read, if there is one. -/
theorem filterSource_result (source : Text.Source) (state : σ) :
    (filterSource filter format limit source state).result =
      (Document.ofSource source).mapError .failed >>= fun document =>
        (document.filter filter format (limit document) state).result := by
  rw [filterSource, Document.read]
  cases Document.ofSource source with
  | error error => rfl
  | ok document => rfl

theorem filterSource_eq_ok_iff {bytes : ByteArray} {state : σ} {result : Document} :
    (filterSource filter format limit (.ofBytes bytes .complete) state).result = .ok result ↔
      FiltersTo filter format limit bytes state result := by
  rw [filterSource_result, FiltersTo]
  cases Document.ofSource (.ofBytes bytes .complete) with
  | error error =>
      constructor
      · nofun
      · rintro ⟨_, ⟨⟩, -⟩
  | ok source =>
      constructor
      · intro filtered
        exact ⟨source, rfl, filtered⟩
      · rintro ⟨_, ⟨⟩, filtered⟩
        exact filtered

variable {layout : Json.Layout} {reader : Reader} {writer : Writer} {state : σ}

/-- Nothing is written of what was not read or filtered. -/
theorem filterChannel_of_error {halt : Halt}
    (failed : (filterSource filter format limit reader.source state).result = .error halt) :
    (filterChannel filter format limit layout reader writer state).1 = .empty ∧
      (filterChannel filter format limit layout reader writer state).2.result =
        .error halt := by
  rw [filterChannel]
  dsimp only
  rw [failed]
  exact ⟨rfl, rfl⟩

/-- A document that was filtered is written as far as the channel takes it. -/
theorem filterChannel_of_ok {document : Document}
    (filtered : (filterSource filter format limit reader.source state).result = .ok document) :
    (filterChannel filter format limit layout reader writer state).1 =
        (writer.write (document.bytes layout)).1 ∧
      (filterChannel filter format limit layout reader writer state).2.result =
        (writer.write (document.bytes layout)).2.mapError .failed := by
  rw [filterChannel]
  dsimp only
  rw [filtered]
  exact ⟨rfl, rfl⟩

/-- If a fault comes before the end of what is read, nothing is written, even if a whole
document comes before the fault. -/
theorem filterChannel_of_not_intact (faulty : ¬ reader.Intact) :
    (filterChannel filter format limit layout reader writer state).1 = .empty ∧
      ∃ problem, (filterChannel filter format limit layout reader writer state).2.result =
        .error (.failed (.malformed problem)) := by
  obtain ⟨reason, interrupted⟩ := Reader.exists_interrupted faulty
  obtain ⟨problem, failed⟩ := Document.ofSource_interrupted interrupted
  have stopped : (filterSource filter format limit reader.source state).result =
      .error (.failed (.malformed problem)) := by
    rw [filterSource_result, failed]
    rfl
  obtain ⟨written, result⟩ := filterChannel_of_error stopped
  exact ⟨written, problem, result⟩

theorem filterChannel_of_filtersTo (intact : reader.Intact) {document : Document}
    (filters : FiltersTo filter format limit reader.bytes state document) :
    (filterChannel filter format limit layout reader writer state).1 =
        (writer.write (document.bytes layout)).1 ∧
      (filterChannel filter format limit layout reader writer state).2.result =
        (writer.write (document.bytes layout)).2.mapError .failed := by
  apply filterChannel_of_ok
  rw [Reader.source_of_intact intact]
  exact filterSource_eq_ok_iff.mpr filters

theorem filterChannel_of_not_filtersTo
    (none : ∀ document, ¬ FiltersTo filter format limit reader.bytes state document) :
    (filterChannel filter format limit layout reader writer state).1 = .empty ∧
      ∃ halt, (filterChannel filter format limit layout reader writer state).2.result =
        .error halt := by
  by_cases intact : reader.Intact
  · cases filtered : (filterSource filter format limit reader.source state).result with
    | ok document =>
        rw [Reader.source_of_intact intact, filterSource_eq_ok_iff] at filtered
        exact absurd filtered (none document)
    | error halt =>
        obtain ⟨written, result⟩ := filterChannel_of_error filtered
        exact ⟨written, halt, result⟩
  · obtain ⟨written, problem, result⟩ := filterChannel_of_not_intact intact
    exact ⟨written, .failed (.malformed problem), result⟩

/-- If everything goes well, all of the result was written. -/
theorem of_filterChannel_eq_ok
    (succeeded : (filterChannel filter format limit layout reader writer state).2.result =
      .ok ()) :
    reader.Intact ∧ ∃ document, FiltersTo filter format limit reader.bytes state document ∧
      writer.Takes (document.bytes layout).size ∧
      (filterChannel filter format limit layout reader writer state).1 =
        document.bytes layout := by
  have intact : reader.Intact := by
    by_contra faulty
    obtain ⟨-, problem, failed⟩ := filterChannel_of_not_intact faulty
    cases failed.symm.trans succeeded
  have filtered : ∃ document, FiltersTo filter format limit reader.bytes state document := by
    by_contra none
    obtain ⟨-, halt, failed⟩ := filterChannel_of_not_filtersTo (not_exists.mp none)
    cases failed.symm.trans succeeded
  obtain ⟨document, filters⟩ := filtered
  obtain ⟨written, result⟩ := filterChannel_of_filtersTo intact filters
  have takes : writer.Takes (document.bytes layout).size := by
    by_contra faulty
    obtain ⟨breakage, -, -, stopped⟩ := Writer.write_of_not_takes faulty
    rw [stopped] at result
    cases result.symm.trans succeeded
  refine ⟨intact, document, filters, takes, ?_⟩
  rw [written, Writer.write_of_takes takes]

end

/-- What is written is the beginning of what the whole input is filtered to: the text of a
document, and a line end, in UTF-8. It is empty if the input cannot be decoded or filtered, and
if it cannot be read to its end, which is an error of decoding. Everything goes well exactly if
the input is read to its end and can be decoded and filtered, and the channel takes the whole
result; then all of it is written. -/
theorem filterChannel_spec {σ : Type} (filter : NodeFilter σ) (format : String)
    (limit : Document → Nat) (layout : Json.Layout) (reader : Reader) (writer : Writer)
    (state : σ) :
    let channel := filterChannel filter format limit layout reader writer state
    let Filtered := FiltersTo filter format limit reader.bytes state
    let line (document : Document) := (document.toText layout ++ "\n").toUTF8
    (∀ document, Filtered document → ∃ rest, channel.1 ++ rest = line document) ∧
    ((∀ document, ¬ Filtered document) → channel.1 = .empty) ∧
    (¬ reader.Intact →
      channel.1 = .empty ∧
        ∃ problem, channel.2.result = .error (.failed (.malformed problem))) ∧
    (channel.2.result = .ok () ↔
      reader.Intact ∧ ∃ document, Filtered document ∧ writer.Takes (line document).size) ∧
    (channel.2.result = .ok () →
      ∃ document, Filtered document ∧ channel.1 = line document) := by
  intro channel Filtered line
  refine ⟨?_, ?_, filterChannel_of_not_intact, ⟨?_, ?_⟩, ?_⟩
  · intro document filters
    by_cases intact : reader.Intact
    · obtain ⟨written, -⟩ := filterChannel_of_filtersTo intact filters
      rw [show channel.1 = _ from written]
      exact writer.write_prefix (line document)
    · obtain ⟨written, -⟩ := filterChannel_of_not_intact intact
      rw [show channel.1 = _ from written]
      exact ⟨line document, ByteArray.empty_append⟩
  · intro none
    exact (filterChannel_of_not_filtersTo none).1
  · intro succeeded
    obtain ⟨intact, document, filters, takes, -⟩ := of_filterChannel_eq_ok succeeded
    exact ⟨intact, document, filters, takes⟩
  · rintro ⟨intact, document, filters, takes⟩
    have written : channel.2.result = (writer.write (line document)).2.mapError .failed :=
      (filterChannel_of_filtersTo intact filters).2
    rw [written, Writer.write_of_takes takes]
    rfl
  · intro succeeded
    obtain ⟨-, document, filters, -, written⟩ := of_filterChannel_eq_ok succeeded
    exact ⟨document, filters, written⟩

/-- A whole document and a blank, with a fault before the blank. -/
def Reader.brokenOff : Reader where
  bytes := "\x7b\"pandoc-api-version\":[1],\"meta\":\x7b\x7d,\"blocks\":[]\x7d ".toUTF8
  breakage := some ⟨48, "channel closed"⟩

/-- The document before the fault is not taken for the input. -/
theorem filterChannel_spec_brokenOff :
    Reader.brokenOff.bytes.size = 49 ∧
      (filterChannel .identity "latex" Document.height .compact .brokenOff {} ()).1 = .empty ∧
      ∃ problem,
        (filterChannel .identity "latex" Document.height .compact .brokenOff {} ()).2.result =
          .error (.failed (.malformed problem)) := by
  have size : Reader.brokenOff.bytes.size = 49 := by decide +kernel
  have faulty : ¬ Reader.brokenOff.Intact := by
    intro intact
    have late : Reader.brokenOff.bytes.size ≤ 48 := intact ⟨48, "channel closed"⟩ rfl
    rw [size] at late
    exact absurd late (by decide)
  obtain ⟨-, -, interrupted, -⟩ :=
    filterChannel_spec .identity "latex" Document.height .compact .brokenOff {} ()
  exact ⟨size, interrupted faulty⟩

end DocFilter
