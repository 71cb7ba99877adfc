import ConcertTicketing.Events.SeatMaps
import ConcertTicketing.Library.Decimal
import Mathlib.Data.List.ProdSigma

/-!
# Labels of seats

A label is the prefix of the section, the number of the row and the number of
the seat without a separator, or a letter and the number of the seat.  Two
seats of an event share a label when digits move between the numbers of a large
section, when two sections have one prefix, and when the prefix of one section
goes on where a label of another one does.  Otherwise the labels are distinct.
-/

namespace ConcertTicketing.Events

open SeatsService

def Db.seatLabels (db : Db) (eventId : EventId) : List Text :=
  (db.seatRowsOf eventId).map fun entry => entry.2.label

/-- `section.rowPrefix ?? ''`. -/
def SeatMapConfigDto.prefixText (config : SeatMapConfigDto) : Text :=
  config.rowPrefix.getD []

def seatLabel (config : SeatMapConfigDto) (row number : Nat) : Text :=
  rowLabel config.rowPrefix row ++ Nat.toDigits 10 number

def labels (config : SeatMapConfigDto) : List Text :=
  (List.range' 1 config.rows).flatMap fun row =>
    (List.range' 1 config.seatsPerRow).map (seatLabel config row)

structure InSection (config : SeatMapConfigDto) (row number : Nat) :
    Prop where
  row_pos : 0 < row
  row_le : row ≤ config.rows
  number_pos : 0 < number
  number_le : number ≤ config.seatsPerRow

private theorem mem_labels {config : SeatMapConfigDto} {label : Text} :
    label ∈ labels config ↔
      ∃ row number, InSection config row number ∧
        seatLabel config row number = label := by
  simp only [labels, List.mem_flatMap, List.mem_map, List.mem_range'_1]
  constructor
  · rintro ⟨row, rowRange, number, range, same⟩
    exact ⟨row, number,
      ⟨by omega, by omega, by omega, by omega⟩, same⟩
  · rintro ⟨row, number, inSection, same⟩
    have rowPositive := inSection.row_pos
    have rowSmall := inSection.row_le
    have positive := inSection.number_pos
    have small := inSection.number_le
    exact ⟨row, by omega, number, by omega, same⟩

private theorem map_label_sectionTexts (sections : List SeatMapConfigDto) :
    (sectionTexts sections).map (fun texts => texts.2.2) =
      sections.flatMap labels := by
  simp only [sectionTexts, rowTexts, List.map_flatMap, List.map_map]
  rfl

/-- The labels are distinct when a label tells its row and its number. -/
theorem nodup_labels_iff {config : SeatMapConfigDto} :
    (labels config).Nodup ↔
      ∀ row number otherRow otherNumber,
        InSection config row number →
        InSection config otherRow otherNumber →
        seatLabel config row number = seatLabel config otherRow otherNumber →
        row = otherRow ∧ number = otherNumber := by
  let rows := List.range' 1 config.rows
  let numbers := List.range' 1 config.seatsPerRow
  have grid : labels config =
      (rows ×ˢ numbers).map fun seat => seatLabel config seat.1 seat.2 := by
    change _ = (rows.product numbers).map _
    simp only [labels, List.product, List.map_flatMap, List.map_map]
    rfl
  have rowsDistinct : rows.Nodup := List.nodup_range'
  have numbersDistinct : numbers.Nodup := List.nodup_range'
  have inGrid : ∀ row number,
      (row, number) ∈ rows ×ˢ numbers ↔ InSection config row number := by
    intro row number
    constructor
    · intro member
      obtain ⟨inRows, inNumbers⟩ := List.pair_mem_product.mp member
      have rowRange := List.mem_range'_1.mp inRows
      have range := List.mem_range'_1.mp inNumbers
      exact ⟨by omega, by omega, by omega, by omega⟩
    · rintro ⟨rowPositive, rowSmall, positive, small⟩
      exact List.pair_mem_product.mpr
        ⟨List.mem_range'_1.mpr (by omega), List.mem_range'_1.mpr (by omega)⟩
  rw [grid, List.nodup_map_iff_inj_on (rowsDistinct.product numbersDistinct)]
  constructor
  · intro injective row number otherRow otherNumber here there same
    have equal := injective (row, number) ((inGrid row number).mpr here)
      (otherRow, otherNumber) ((inGrid otherRow otherNumber).mpr there) same
    exact Prod.mk.inj equal
  · rintro tells ⟨row, number⟩ here ⟨otherRow, otherNumber⟩ there same
    obtain ⟨rfl, rfl⟩ := tells row number otherRow otherNumber
      ((inGrid row number).mp here) ((inGrid otherRow otherNumber).mp there)
      same
    rfl

theorem rowLabel_of_prefixText {config : SeatMapConfigDto}
    (prefixed : config.prefixText ≠ []) (row : Nat) :
    rowLabel config.rowPrefix row =
      config.prefixText ++ Nat.toDigits 10 row := by
  rw [rowLabel]
  split
  · next empty => exact absurd empty prefixed
  · next start nonempty => rfl

theorem rowLabel_of_letter {config : SeatMapConfigDto}
    (unprefixed : config.prefixText = []) (row : Nat) :
    rowLabel config.rowPrefix row = fromCharCode (64 + row) := by
  rw [rowLabel]
  split
  · rfl
  · next start nonempty => exact absurd unprefixed nonempty

/-- The letter of a code, by its place among the characters. -/
theorem fromCharCode_eq (code : Nat) :
    ∃ letter : Char, fromCharCode code = [letter] ∧
      letter.toNat = if code % 65536 < 0xD800 then code % 65536
        else 0xF0000 + code % 65536 := by
  refine ⟨_, rfl, ?_⟩
  have small : code % 65536 < 65536 := Nat.mod_lt code (by decide)
  have valid : (if code % 65536 < 0xD800 then code % 65536
      else 0xF0000 + code % 65536).isValidChar := by
    rw [Nat.isValidChar]
    split <;> omega
  rw [Char.ofNat, dif_pos valid]
  rfl

/-- Two codes give one letter when they agree in their last 16 bits. -/
theorem fromCharCode_inj {code other : Nat} :
    fromCharCode code = fromCharCode other ↔ code % 65536 = other % 65536 := by
  obtain ⟨letter, text, place⟩ := fromCharCode_eq code
  obtain ⟨otherLetter, otherText, otherPlace⟩ := fromCharCode_eq other
  have small : code % 65536 < 65536 := Nat.mod_lt code (by decide)
  have otherSmall : other % 65536 < 65536 := Nat.mod_lt other (by decide)
  rw [text, otherText, List.singleton_inj, ← Char.toNat_inj, place, otherPlace]
  constructor
  · intro same
    split at same
    · split at same <;> omega
    · split at same <;> omega
  · intro same
    rw [same]

/-- Letters do not come round again, and with a prefix the numbers of rows or
those of seats are too short to run together. -/
def LabelsTell (config : SeatMapConfigDto) : Prop :=
  if config.prefixText = [] then config.rows ≤ 65536
  else config.rows ≤ 10 ∨ config.seatsPerRow ≤ 10

instance : DecidablePred LabelsTell :=
  fun _ => inferInstanceAs (Decidable (ite _ _ _))

section OneSection

variable {config : SeatMapConfigDto}

private theorem nodup_labels_of_letters (unprefixed : config.prefixText = [])
    (nonempty : 1 ≤ config.seatsPerRow) :
    (labels config).Nodup ↔ config.rows ≤ 65536 := by
  rw [nodup_labels_iff]
  simp only [seatLabel, rowLabel_of_letter unprefixed]
  constructor
  · intro tells
    by_contra many
    have same : fromCharCode (64 + 1) = fromCharCode (64 + 65537) :=
      fromCharCode_inj.mpr (by decide)
    have equal := tells 1 1 65537 1 ⟨by omega, by omega, by omega, nonempty⟩
      ⟨by omega, by omega, by omega, nonempty⟩ (by rw [same])
    omega
  · intro few row number otherRow otherNumber here there same
    have parts := List.cons.inj same
    have letters := fromCharCode_inj.mp (List.singleton_inj.mpr parts.1)
    have rowRange := here.row_le
    have otherRange := there.row_le
    have rowPositive := here.row_pos
    have otherPositive := there.row_pos
    exact ⟨by omega, Numeral.toDigits_inj parts.2⟩

private theorem nodup_labels_of_prefixText (prefixed : config.prefixText ≠ []) :
    (labels config).Nodup ↔ config.rows ≤ 10 ∨ config.seatsPerRow ≤ 10 := by
  rw [nodup_labels_iff]
  simp only [seatLabel, rowLabel_of_prefixText prefixed, List.append_assoc,
    List.append_cancel_left_eq]
  constructor
  · intro tells
    by_contra many
    have equal := tells 1 11 11 1 ⟨by omega, by omega, by omega, by omega⟩
      ⟨by omega, by omega, by omega, by omega⟩ (by decide)
    omega
  · intro few row number otherRow otherNumber here there same
    have rowRange := here.row_le
    have range := here.number_le
    have otherRowRange := there.row_le
    have otherRange := there.number_le
    rcases Numeral.pair_cases here.row_pos here.number_pos there.row_pos
        there.number_pos same with equal | large | large
    · exact equal
    · omega
    · omega

private theorem nodup_labels (nonempty : 1 ≤ config.seatsPerRow) :
    (labels config).Nodup ↔ LabelsTell config := by
  by_cases unprefixed : config.prefixText = []
  · rw [LabelsTell, if_pos unprefixed]
    exact nodup_labels_of_letters unprefixed nonempty
  · rw [LabelsTell, if_neg unprefixed]
    exact nodup_labels_of_prefixText unprefixed

end OneSection

/-- The prefix of the other section, with `11` behind it, reads as a row of
the section with a seat number behind it. -/
def ReadsAs (config other : SeatMapConfigDto) : Prop :=
  other.prefixText ≠ [] ∧
    ∃ row number, InSection config row number ∧
      rowLabel config.rowPrefix row ++ Nat.toDigits 10 number =
        other.prefixText ++ "11".toList

/-- Neither section has labels of the other one. -/
structure LabelsDiffer (config other : SeatMapConfigDto) : Prop where
  prefixes : config.prefixText ≠ other.prefixText
  forth : ¬ ReadsAs config other
  back : ¬ ReadsAs other config

section TwoSections

variable {config other : SeatMapConfigDto}
  {row number otherRow otherNumber : Nat}

/-- A letter with a number behind it reads as a seat of a section whose prefix
begins with that letter. -/
theorem readsAs_of_letter (unprefixed : config.prefixText = [])
    (prefixed : other.prefixText ≠ [])
    (here : InSection config row number)
    (there : InSection other otherRow otherNumber)
    (same : seatLabel config row number =
      seatLabel other otherRow otherNumber) :
    ReadsAs config other := by
  rw [seatLabel, seatLabel, rowLabel_of_letter unprefixed,
    rowLabel_of_prefixText prefixed] at same
  cases start : other.prefixText with
  | nil => exact absurd start prefixed
  | cons letter front =>
      rw [start, List.append_assoc, List.cons_append] at same
      obtain ⟨letters, digits⟩ := List.cons.inj same
      obtain ⟨least, positive, small, ends⟩ := Numeral.ends_in_eleven
        there.row_pos there.number_pos here.number_pos digits
      refine ⟨prefixed, row, least, ⟨here.row_pos, here.row_le, positive,
        small.trans here.number_le⟩, ?_⟩
      have rowLetter : rowLabel config.rowPrefix row = [letter] := by
        rw [rowLabel_of_letter unprefixed]
        exact List.singleton_inj.mpr letters
      rw [rowLetter, ends, start]
      rfl

/-- So does a shorter prefix with two numbers behind it. -/
theorem readsAs_of_prefixText {front : Text}
    (prefixed : config.prefixText ≠ [])
    (longer : other.prefixText = config.prefixText ++ front)
    (here : InSection config row number)
    (there : InSection other otherRow otherNumber)
    (same : Nat.toDigits 10 row ++ Nat.toDigits 10 number = front ++
      (Nat.toDigits 10 otherRow ++ Nat.toDigits 10 otherNumber)) :
    ReadsAs config other := by
  obtain ⟨leastRow, least, rowRange, range, ends⟩ :=
    Numeral.pair_ends_in_eleven here.row_pos here.number_pos there.row_pos
      there.number_pos same
  refine ⟨?_, leastRow, least, ⟨rowRange.1, rowRange.2.trans here.row_le,
    range.1, range.2.trans here.number_le⟩, ?_⟩
  · rw [longer]
    exact List.append_ne_nil_of_left_ne_nil prefixed front
  · rw [rowLabel_of_prefixText prefixed, List.append_assoc, ends, longer,
      List.append_assoc]
    rfl

private theorem first_mem_labels (rows : 1 ≤ config.rows)
    (seats : 1 ≤ config.seatsPerRow) :
    rowLabel config.rowPrefix 1 ++ Nat.toDigits 10 1 ∈ labels config :=
  mem_labels.mpr ⟨1, 1, ⟨Nat.one_pos, rows, Nat.one_pos, seats⟩, rfl⟩

/-- Two sections share a label only in these ways. -/
theorem disjoint_labels_of_differ (differ : LabelsDiffer config other) :
    List.Disjoint (labels config) (labels other) := by
  intro label inConfig inOther
  obtain ⟨row, number, here, isHere⟩ := mem_labels.mp inConfig
  obtain ⟨otherRow, otherNumber, there, isThere⟩ := mem_labels.mp inOther
  have same := isHere.trans isThere.symm
  by_cases unprefixed : config.prefixText = []
  · by_cases otherUnprefixed : other.prefixText = []
    · exact differ.prefixes (unprefixed.trans otherUnprefixed.symm)
    · exact differ.forth
        (readsAs_of_letter unprefixed otherUnprefixed here there same)
  · by_cases otherUnprefixed : other.prefixText = []
    · exact differ.back
        (readsAs_of_letter otherUnprefixed unprefixed there here same.symm)
    · rw [seatLabel, seatLabel, rowLabel_of_prefixText unprefixed,
        rowLabel_of_prefixText otherUnprefixed, List.append_assoc,
        List.append_assoc] at same
      rcases List.append_eq_append_iff.mp same with
        ⟨front, longer, digits⟩ | ⟨front, longer, digits⟩
      · exact differ.forth
          (readsAs_of_prefixText unprefixed longer here there digits)
      · exact differ.back
          (readsAs_of_prefixText otherUnprefixed longer there here digits)

private theorem not_readsAs_of_disjoint (rows : 1 ≤ other.rows)
    (seats : 1 ≤ other.seatsPerRow)
    (disjoint : List.Disjoint (labels config) (labels other)) :
    ¬ ReadsAs config other := by
  rintro ⟨prefixed, row, number, inSection, same⟩
  have first := first_mem_labels rows seats
  rw [rowLabel_of_prefixText prefixed, List.append_assoc] at first
  exact disjoint (mem_labels.mpr ⟨row, number, inSection, same⟩) first

private theorem disjoint_labels_iff
    (here : 1 ≤ config.rows ∧ 1 ≤ config.seatsPerRow)
    (there : 1 ≤ other.rows ∧ 1 ≤ other.seatsPerRow) :
    List.Disjoint (labels config) (labels other) ↔
      LabelsDiffer config other := by
  constructor
  · intro disjoint
    refine ⟨?_, not_readsAs_of_disjoint there.1 there.2 disjoint,
      not_readsAs_of_disjoint here.1 here.2 disjoint.symm⟩
    intro same
    have first := first_mem_labels here.1 here.2
    have rowOne : rowLabel config.rowPrefix 1 = rowLabel other.rowPrefix 1 := by
      rw [SeatMapConfigDto.prefixText, SeatMapConfigDto.prefixText] at same
      rw [rowLabel, rowLabel, same]
    have otherFirst := first_mem_labels there.1 there.2
    rw [← rowOne] at otherFirst
    exact disjoint first otherFirst
  · exact disjoint_labels_of_differ

end TwoSections

/-- Each section tells its seats apart, and any two sections differ. -/
structure LabelsDistinct (sections : List SeatMapConfigDto) : Prop where
  each : ∀ config ∈ sections, LabelsTell config
  pairs : sections.Pairwise LabelsDiffer

/-- In a run with valid bodies the seats of an event have distinct labels
exactly when the sections that have come in for it keep them apart. -/
theorem nodup_seatLabels_iff {history : List (Db × Action)} {db : Db}
    (run : Trace step Db.empty history db)
    (validated : StepsMeet Validated history) (eventId : EventId) :
    (db.seatLabels eventId).Nodup ↔
      LabelsDistinct (sectionsOf eventId history) := by
  have shown : db.seatLabels eventId =
      (sectionsOf eventId history).flatMap labels := by
    rw [← map_label_sectionTexts, ← seatTexts_of_run run, Db.seatTexts,
      List.map_map]
    rfl
  rw [shown, List.nodup_flatMap]
  constructor
  · rintro ⟨each, pairs⟩
    constructor
    · intro config member
      exact (nodup_labels (mem_sectionsOf validated member).2).mp
        (each config member)
    · refine pairs.imp_of_mem ?_
      intro config other member otherMember disjoint
      exact (disjoint_labels_iff (mem_sectionsOf validated member)
        (mem_sectionsOf validated otherMember)).mp disjoint
  · intro distinct
    constructor
    · intro config member
      exact (nodup_labels (mem_sectionsOf validated member).2).mpr
        (distinct.each config member)
    · refine distinct.pairs.imp_of_mem ?_
      intro config other member otherMember differ
      exact disjoint_labels_of_differ differ

def plannedEvent : List Action :=
  [.outside (.registered 10), .request 10 (.createEvent concert),
    .request 10 (.createTicketType 0 standing)]

def lettersAndBalcony : List Action :=
  plannedEvent ++
    [.request 10 (.createSeatMap 0 [⟨2, 3, none, 0⟩]),
      .request 10
        (.updateLayout 0 ⟨some [⟨1, 2, some "VIP".toList, 0⟩], none⟩)]

theorem lettersAndBalcony_enabled :
    (replay step [] Db.empty lettersAndBalcony).isSome = true := by
  decide

theorem nodup_seatLabels_lettersAndBalcony :
    (((replay step [] Db.empty lettersAndBalcony).get
        lettersAndBalcony_enabled).2.seatLabels 0).Nodup ↔
      LabelsDistinct (sectionsOf 0
        ((replay step [] Db.empty lettersAndBalcony).get
          lettersAndBalcony_enabled).1) :=
  nodup_seatLabels_iff
    (Trace.of_replay_get lettersAndBalcony lettersAndBalcony_enabled)
    (by decide) 0

/-- Section `A` has a seat 11 in row 1, and section `A1` a seat 1 in row 1. -/
def runTogether : List Action :=
  plannedEvent ++
    [.request 10 (.createSeatMap 0
      [⟨1, 11, some "A".toList, 0⟩, ⟨1, 1, some "A1".toList, 0⟩])]

/-- Two seats of an event can have one label. -/
theorem runTogether_shares_label :
    ¬ ∀ (history : List (Db × Action)) (db : Db),
      Trace step Db.empty history db → StepsMeet Validated history →
      ∀ eventId, (db.seatLabels eventId).Nodup := by
  intro always
  obtain ⟨history, db, run, checked⟩ :=
    Trace.exists_of_replay step Db.empty runTogether
      (fun result =>
        decide (StepsMeet Validated result.1 ∧
          ¬ (result.2.seatLabels 0).Nodup))
      (by decide)
  obtain ⟨validated, twice⟩ := of_decide_eq_true checked
  exact twice (always history db run validated 0)

end ConcertTicketing.Events
