import ConcertTicketing.Events.SeatLabels
import ConcertTicketing.Library.Sorting
import Mathlib.Data.List.Infix
import Mathlib.Data.List.Pairwise

/-!
# The order of the seat list

`createSeatMap` and `getLayout` answer with the seats of an event ordered by
`row` and `number`, two columns of text.  Numbers of one digit are in order as
texts, those of two digits stand between them; and rows of two sections with
one label are mixed.
-/

namespace ConcertTicketing.Events

open SeatsService

/-- The order of the columns `row` and `number`. -/
def textsOrder (first second : Text × Text × Text) : Prop :=
  first.1 < second.1 ∨ (first.1 = second.1 ∧ first.2.1 ≤ second.2.1)

private theorem seatOrder_iff (first second : SeatId × SeatRow) :
    Db.seatOrder first second ↔ textsOrder first.2.texts second.2.texts :=
  Iff.rfl

instance : Std.Total Db.seatOrder where
  total first second := by
    rcases lt_trichotomy first.2.row second.2.row with less | same | greater
    · exact Or.inl (Or.inl less)
    · rcases le_total first.2.number second.2.number with below | above
      · exact Or.inl (Or.inr ⟨same, below⟩)
      · exact Or.inr (Or.inr ⟨same.symm, above⟩)
    · exact Or.inr (Or.inl greater)

instance : IsTrans (SeatId × SeatRow) Db.seatOrder where
  trans first second third := by
    rintro (less | ⟨same, below⟩) (later | ⟨equal, above⟩)
    · exact Or.inl (less.trans later)
    · exact Or.inl (equal ▸ less)
    · exact Or.inl (same ▸ later)
    · exact Or.inr ⟨same.trans equal, below.trans above⟩

/-- What `getLayout` answers with. -/
inductive Layout where
  | seatMap (seats : List (SeatId × SeatRow))
  | zones (zones : List (ZoneId × Zone))
  | blank
  deriving DecidableEq, Repr

/-- `SeatsService.getLayout`, with the way in which the database sorts. -/
def getLayout (sorting : Sorting Db.seatOrder) (eventId : EventId)
    (db : Db) : Except ServiceError Layout :=
  match db.events.find? eventId with
  | none => .error (.notFound "Sự kiện không tồn tại")
  | some event =>
      match event.ticketModel with
      | some .seatMap => .ok (.seatMap (sorting.sort (db.seatRowsOf eventId)))
      | some .zone => .ok (.zones (db.zonesOf eventId))
      | none => .ok .blank

/-- The seat lists that the services answer with at the end of a run: that of
`createSeatMap`, when it has come last, and that of `getLayout`. -/
inductive Answers (sorting : Sorting Db.seatOrder) (eventId : EventId) :
    List (Db × Action) → Db → List (SeatId × SeatRow) → Prop
  | created (before : Db) (organizerId : UserId)
      (sections : List SeatMapConfigDto) (earlier : List (Db × Action))
      (response : Response) (after : Db)
      (served : (Request.createSeatMap eventId sections).serve organizerId
        before = (.ok response, after)) :
      Answers sorting eventId
        ((before, .request organizerId (.createSeatMap eventId sections)) ::
          earlier) after (sorting.sort (after.seatRowsOf eventId))
  | layout (history : List (Db × Action)) (db : Db)
      (seats : List (SeatId × SeatRow))
      (answered : getLayout sorting eventId db = .ok (.seatMap seats)) :
      Answers sorting eventId history db seats

theorem Answers.eq_sort {sorting : Sorting Db.seatOrder} {eventId : EventId}
    {history : List (Db × Action)} {db : Db}
    {seats : List (SeatId × SeatRow)}
    (answers : Answers sorting eventId history db seats) :
    seats = sorting.sort (db.seatRowsOf eventId) := by
  cases answers with
  | created before organizerId sections earlier response after served => rfl
  | layout history db seats answered =>
      rw [getLayout] at answered
      split at answered
      · cases answered
      · split at answered
        · cases answered
          rfl
        · cases answered
        · cases answered

/-- A seat map that is answered has passed its checks. -/
theorem creates_of_createSeatMap {db after : Db} {organizerId : UserId}
    {eventId : EventId} {sections : List SeatMapConfigDto}
    {response : Response}
    (served : (Request.createSeatMap eventId sections).serve organizerId
      db = (.ok response, after)) :
    ∃ event, CreatesSeatMap db organizerId eventId sections event := by
  rw [Request.serve, Request.operation, createSeatMap,
    assertEventOwnerAndStatus] at served
  rcases assertOwnerAndStatus_cases
      "Không thể chỉnh sửa sơ đồ khi sự kiện ở trạng thái " organizerId
      eventId db with
    ⟨error, _, ran⟩ | ⟨event, isMutable, ran⟩
  · rw [Program.run_bind_error ran] at served
    cases served
  · rw [Program.run_bind_ok ran] at served
    by_cases laidOut : event.ticketModel.isSome = true
    · rw [if_pos laidOut] at served
      cases served
    · rw [if_neg laidOut] at served
      rcases assertTicketTypesOwnership_cases eventId
          (ticketTypeIds sections) db with
        ⟨error, _, checked⟩ | ⟨counted, _⟩
      · rw [Program.run_bind_error checked] at served
        cases served
      · exact ⟨event, isMutable, Option.not_isSome_iff_eq_none.mp laidOut,
          counted⟩

/-- The seats in the response of `createSeatMap` are such an answer. -/
theorem answers_of_createSeatMap {before after : Db} {organizerId : UserId}
    {eventId : EventId} {sections : List SeatMapConfigDto} {total : Nat}
    {seats : List (SeatId × SeatRow)}
    (served : (Request.createSeatMap eventId sections).serve organizerId
      before = (.ok (.seatMap total seats), after))
    (earlier : List (Db × Action)) :
    Answers Sorting.stable eventId
      ((before, .request organizerId (.createSeatMap eventId sections)) ::
        earlier) after seats := by
  obtain ⟨event, creates⟩ := creates_of_createSeatMap served
  have created := createSeatMap_of_creates creates
  have same : ((.ok (.seatMap total seats), after) :
      Except ServiceError Response × Db) =
        (.ok (.seatMap
          ((seatMapCreated before eventId sections).seatsOf eventId).length
          ((seatMapCreated before eventId sections).seatsOf eventId)),
        seatMapCreated before eventId sections) :=
    served.symm.trans created
  cases same
  exact Answers.created before organizerId sections earlier _ _ served

def splitRows {α : Type} (seatsPerRow : Nat) : Nat → List α → List (List α)
  | 0, _ => []
  | rows + 1, seats =>
      seats.take seatsPerRow ::
        splitRows seatsPerRow rows (seats.drop seatsPerRow)

/-- The seats in the order of their generation, by the section and the row
that each of them has been generated for. -/
def splitSections {α : Type} :
    List SeatMapConfigDto → List α →
      List (SeatMapConfigDto × List (List α))
  | [], _ => []
  | config :: rest, seats =>
      (config, splitRows config.seatsPerRow config.rows seats) ::
        splitSections rest (seats.drop (config.rows * config.seatsPerRow))

/-- The seats of each generated row stand together in the order of their
numbers, and the rows of each section stand in their order. -/
structure InSeatingOrder (sections : List SeatMapConfigDto)
    (generated answer : List (SeatId × SeatRow)) : Prop where
  rows : ∀ block ∈ splitSections sections generated,
    ∀ row ∈ block.2, row <:+: answer
  sections : ∀ block ∈ splitSections sections generated,
    block.2.flatten.Sublist answer

instance (sections : List SeatMapConfigDto)
    (generated answer : List (SeatId × SeatRow)) :
    Decidable (InSeatingOrder sections generated answer) :=
  decidable_of_iff
    ((∀ block ∈ splitSections sections generated,
      ∀ row ∈ block.2, row <:+: answer) ∧
      ∀ block ∈ splitSections sections generated,
        block.2.flatten.Sublist answer)
    ⟨fun parts => ⟨parts.1, parts.2⟩,
      fun ordered => ⟨ordered.rows, ordered.sections⟩⟩

section Splits

variable {α γ : Type} {view : α → γ} {later : List γ}

private theorem splitRows_spec {seatsPerRow : Nat} {texts : Nat → List γ}
    (length : ∀ row, (texts row).length = seatsPerRow) (rows start : Nat)
    {seats : List α}
    (shown : seats.map view =
      (List.range' start rows).flatMap texts ++ later) :
    (splitRows seatsPerRow rows seats).map (List.map view) =
        (List.range' start rows).map texts ∧
      (splitRows seatsPerRow rows seats).flatten =
        seats.take (rows * seatsPerRow) ∧
      (seats.drop (rows * seatsPerRow)).map view = later := by
  induction rows generalizing start seats with
  | zero =>
      rw [Nat.zero_mul, List.drop_zero, List.take_zero]
      exact ⟨rfl, rfl, shown⟩
  | succ rows inductionHypothesis =>
      rw [List.range'_succ, List.flatMap_cons, List.append_assoc] at shown
      have front : (seats.take seatsPerRow).map view = texts start := by
        rw [List.map_take, shown, List.take_left' (length start)]
      have back : (seats.drop seatsPerRow).map view =
          (List.range' (start + 1) rows).flatMap texts ++ later := by
        rw [List.map_drop, shown, List.drop_left' (length start)]
      obtain ⟨split, joined, rest⟩ := inductionHypothesis (start + 1) back
      have total : (rows + 1) * seatsPerRow =
          seatsPerRow + rows * seatsPerRow := by
        rw [Nat.succ_mul, Nat.add_comm]
      refine ⟨?_, ?_, ?_⟩
      · rw [splitRows, List.map_cons, front, split, List.range'_succ,
          List.map_cons]
      · rw [splitRows, List.flatten_cons, joined, total, List.take_add]
      · rw [total, ← List.drop_drop, rest]

private theorem length_rowTexts (config : SeatMapConfigDto) (row : Nat) :
    (rowTexts config row).length = config.seatsPerRow := by
  rw [rowTexts, List.length_map, List.length_range']

/-- A list that shows the texts of the sections falls into blocks that show
the texts of their rows. -/
theorem splitSections_spec {view : α → Text × Text × Text}
    (sections : List SeatMapConfigDto) {seats : List α}
    (shown : seats.map view = sectionTexts sections) :
    (∀ block ∈ splitSections sections seats,
      block.2.map (List.map view) =
        (List.range' 1 block.1.rows).map (rowTexts block.1)) ∧
    (splitSections sections seats).map Prod.fst = sections ∧
    ((splitSections sections seats).flatMap fun block =>
      block.2.flatten) = seats := by
  induction sections generalizing seats with
  | nil =>
      rw [List.map_eq_nil_iff.mp shown]
      refine ⟨?_, rfl, rfl⟩
      intro block member
      cases member
  | cons config rest inductionHypothesis =>
      obtain ⟨split, joined, back⟩ :=
        splitRows_spec (length_rowTexts config) config.rows 1 shown
      obtain ⟨texts, configs, all⟩ := inductionHypothesis back
      refine ⟨?_, ?_, ?_⟩
      · intro block member
        rcases List.mem_cons.mp member with rfl | inRest
        · exact split
        · exact texts block inRest
      · rw [splitSections, List.map_cons, configs]
      · rw [splitSections, List.flatMap_cons, all, joined,
          List.take_append_drop]

end Splits

/-- Numbers of seats have one digit, and so have the numbers of rows behind a
prefix; letters have not come round to the first code. -/
def TextsAscend (config : SeatMapConfigDto) : Prop :=
  config.seatsPerRow ≤ 9 ∧
    if config.prefixText = [] then config.rows ≤ 65471 else config.rows ≤ 9

instance : DecidablePred TextsAscend :=
  fun config => inferInstanceAs
    (Decidable (_ ∧ if config.prefixText = [] then _ else _))

section Texts

variable {config : SeatMapConfigDto}

def textsAt (config : SeatMapConfigDto) (row number : Nat) :
    Text × Text × Text :=
  (rowLabel config.rowPrefix row, Nat.toDigits 10 number,
    seatLabel config row number)

private theorem mem_rowTexts {row : Nat} {texts : Text × Text × Text}
    (member : texts ∈ rowTexts config row) :
    ∃ number, textsAt config row number = texts := by
  obtain ⟨number, _, same⟩ := List.mem_map.mp member
  exact ⟨number, same⟩

private theorem pairwise_range'_iff {related : Nat → Nat → Prop}
    {start count : Nat} :
    (List.range' start count).Pairwise related ↔
      ∀ first second, start ≤ first → first < second →
        second < start + count → related first second := by
  induction count generalizing start with
  | zero =>
      refine iff_of_true List.Pairwise.nil ?_
      omega
  | succ count inductionHypothesis =>
      rw [List.range'_succ, List.pairwise_cons, inductionHypothesis]
      constructor
      · rintro ⟨head, tail⟩ first second above less below
        by_cases same : first = start
        · subst first
          exact head second (List.mem_range'_1.mpr (by omega))
        · exact tail first second (by omega) less (by omega)
      · intro all
        constructor
        · intro second member
          have range := List.mem_range'_1.mp member
          exact all start second (Nat.le_refl start) (by omega) (by omega)
        · intro first second above less below
          exact all first second (by omega) less (by omega)

private theorem pairwise_rowTexts_iff
    {related : Text × Text × Text → Text × Text × Text → Prop}
    {row : Nat} :
    (rowTexts config row).Pairwise related ↔
      ∀ first second, 1 ≤ first → first < second →
        second < 1 + config.seatsPerRow →
        related (textsAt config row first) (textsAt config row second) :=
  List.pairwise_map.trans pairwise_range'_iff

private theorem digits_lt {first second : Nat} (less : first < second)
    (small : second ≤ 9) :
    Nat.toDigits 10 first < Nat.toDigits 10 second := by
  have all : ∀ second < 10, ∀ first < second,
      Nat.toDigits 10 first < Nat.toDigits 10 second := by
    decide
  exact all second (by omega) first less

private theorem fromCharCode_lt {first second : Nat} (less : first < second)
    (small : second < 65536) : fromCharCode first < fromCharCode second := by
  obtain ⟨letter, text, place⟩ := fromCharCode_eq first
  obtain ⟨otherLetter, otherText, otherPlace⟩ := fromCharCode_eq second
  rw [Nat.mod_eq_of_lt (by omega)] at place
  rw [Nat.mod_eq_of_lt small] at otherPlace
  have below : letter.toNat < otherLetter.toNat := by
    rw [place, otherPlace]
    split <;> split <;> omega
  rw [text, otherText]
  exact List.Lex.rel below

private theorem rowLabel_lt (ascend : TextsAscend config) {first second : Nat}
    (less : first < second) (inRows : second ≤ config.rows) :
    rowLabel config.rowPrefix first < rowLabel config.rowPrefix second := by
  have rows := ascend.2
  by_cases unprefixed : config.prefixText = []
  · rw [if_pos unprefixed] at rows
    rw [rowLabel_of_letter unprefixed, rowLabel_of_letter unprefixed]
    exact fromCharCode_lt (by omega) (by omega)
  · rw [if_neg unprefixed] at rows
    rw [rowLabel_of_prefixText unprefixed, rowLabel_of_prefixText unprefixed]
    exact List.append_left_lt (digits_lt less (by omega))

/-- The texts of a section whose numbers ascend leave no order open. -/
theorem strict_sectionRows (ascend : TextsAscend config) :
    Sorting.Strict textsOrder
      ((List.range' 1 config.rows).flatMap (rowTexts config)) := by
  apply List.pairwise_flatMap.mpr
  constructor
  · intro row member
    apply pairwise_rowTexts_iff.mpr
    intro first second positive less inRow
    have below := digits_lt less (by have := ascend.1; omega)
    constructor
    · exact Or.inr ⟨rfl, le_of_lt below⟩
    · rintro (above | ⟨_, above⟩)
      · exact lt_irrefl _ above
      · exact absurd below (not_lt_of_ge above)
  · apply pairwise_range'_iff.mpr
    intro first second positive less inRows texts member others otherMember
    obtain ⟨number, rfl⟩ := mem_rowTexts member
    obtain ⟨other, rfl⟩ := mem_rowTexts otherMember
    have below := rowLabel_lt ascend less (by omega)
    constructor
    · exact Or.inl below
    · rintro (above | ⟨same, _⟩)
      · exact lt_asymm below above
      · exact ne_of_lt below same.symm

/-- When the texts of a section are in order, its numbers ascend. -/
theorem textsAscend_of_pairwise (rows : 1 ≤ config.rows)
    (seats : 1 ≤ config.seatsPerRow)
    (ordered : ((List.range' 1 config.rows).flatMap
      (rowTexts config)).Pairwise textsOrder) :
    TextsAscend config := by
  obtain ⟨inRow, inRows⟩ := List.pairwise_flatMap.mp ordered
  have firstRow := pairwise_rowTexts_iff.mp
    (inRow 1 (List.mem_range'_1.mpr (by omega)))
  have later := pairwise_range'_iff.mp inRows
  have firstSeat : ∀ row, textsAt config row 1 ∈ rowTexts config row := by
    intro row
    exact List.mem_map_of_mem (List.mem_range'_1.mpr (by omega))
  constructor
  · by_contra many
    rcases firstRow 2 10 (by omega) (by omega) (by omega) with
      less | ⟨_, below⟩
    · exact lt_irrefl _ less
    · have above : ¬ Nat.toDigits 10 2 ≤ Nat.toDigits 10 10 := by decide
      exact above below
  · by_cases unprefixed : config.prefixText = []
    · rw [if_pos unprefixed]
      by_contra many
      have pair := later 65471 65472 (by omega) (by omega) (by omega) _
        (firstSeat 65471) _ (firstSeat 65472)
      rw [textsOrder, textsAt, textsAt, rowLabel_of_letter unprefixed,
        rowLabel_of_letter unprefixed] at pair
      have above : fromCharCode (64 + 65472) < fromCharCode (64 + 65471) := by
        decide
      rcases pair with less | ⟨same, _⟩
      · exact lt_asymm less above
      · exact ne_of_lt above same.symm
    · rw [if_neg unprefixed]
      by_contra many
      have pair := later 2 10 (by omega) (by omega) (by omega) _
        (firstSeat 2) _ (firstSeat 10)
      rw [textsOrder, textsAt, textsAt, rowLabel_of_prefixText unprefixed,
        rowLabel_of_prefixText unprefixed] at pair
      have above : config.prefixText ++ Nat.toDigits 10 10 <
          config.prefixText ++ Nat.toDigits 10 2 :=
        List.append_left_lt (by decide)
      rcases pair with less | ⟨same, _⟩
      · exact lt_asymm less above
      · exact ne_of_lt above same.symm

end Texts

def HasSeatMap (db : Db) (eventId : EventId) : Prop :=
  ∃ event, db.events.find? eventId = some event ∧
    event.ticketModel = some .seatMap

section Models

variable {db next : Db} {organizerId : UserId} {eventId : EventId}

private theorem HasSeatMap.of_events (has : HasSeatMap db eventId)
    (same : next.events = db.events) : HasSeatMap next eventId := by
  rw [HasSeatMap, same]
  exact has

theorem HasSeatMap.withEvent (has : HasSeatMap db eventId)
    {data : EventUpdateInput}
    (keeps : data.ticketModel.overNullable (some .seatMap) = some .seatMap)
    (updated : EventId) :
    HasSeatMap (db.withEvent updated data) eventId := by
  obtain ⟨event, found, model⟩ := has
  refine ⟨if eventId = updated then data.writeOver event else event, ?_, ?_⟩
  · rw [Db.withEvent, Table.find?_modify, found]
    rfl
  · split
    · rw [EventUpdateInput.writeOver, model]
      exact keeps
    · exact model

theorem HasSeatMap.effect (has : HasSeatMap db eventId) {request : Request}
    (effect : Effect db organizerId request next) :
    HasSeatMap next eventId := by
  cases effect with
  | eventCreated dto profile event entry known owner =>
      obtain ⟨event, found, model⟩ := has
      exact ⟨event, Table.find?_insert found _, model⟩
  | eventUpdated target dto event entry updates =>
      exact (has.withEvent rfl target).of_events rfl
  | eventSubmitted target event entry own submittable =>
      exact (has.withEvent rfl target).of_events rfl
  | seatMapCreated target sections event creates =>
      exact (has.withEvent rfl target).of_events rfl
  | zonesCreated target zones event creates =>
      obtain ⟨mapped, found, model⟩ := has
      have different : eventId ≠ target := by
        intro same
        subst target
        have equal : event = mapped := Option.some.inj
          ((find?_of_ownEvent creates.isMutable.1).symm.trans found)
        have blank := creates.blank
        rw [equal, model] at blank
        cases blank
      refine ⟨mapped, ?_, model⟩
      exact (Db.find?_withEvent different _).trans found
  | _ => exact has.of_events rfl

theorem HasSeatMap.step (has : HasSeatMap db eventId) {action : Action}
    (stepped : Events.step db action = some next) :
    HasSeatMap next eventId := by
  cases step_cases stepped with
  | served organizerId request next effect => exact has.effect effect
  | outside event =>
      cases event with
      | registered userId =>
          rw [Outside.apply]
          split
          · exact has
          · exact has.of_events rfl
      | reviewed reviewed status =>
          obtain ⟨event, found, model⟩ := has
          refine ⟨if eventId = reviewed then { event with status := status }
            else event, ?_, ?_⟩
          · rw [Outside.apply, Table.find?_modify, found]
            rfl
          · split
            · exact model
            · exact model
      | sold ticketTypeId count => exact has.of_events rfl
      | ordered ticketTypeId =>
          rw [Outside.apply]
          split
          · exact has.of_events rfl
          · exact has

/-- Sections come in only for an event that has a seat map behind the
request. -/
theorem hasSeatMap_of_taken {action : Action}
    (taken : sectionsTaken eventId db action ≠ [])
    (stepped : Events.step db action = some next) :
    HasSeatMap next eventId := by
  rw [sectionsTaken.eq_def] at taken
  split at taken
  · next organizerId target sections =>
      split at taken
      · next passes =>
          obtain ⟨rfl, event, _, creates⟩ := passes
          rw [← Option.some.inj stepped, Request.serve, Request.operation,
            createSeatMap_of_creates creates]
          refine ⟨EventUpdateInput.writeOver
            { ticketModel := .value .seatMap } event, ?_, rfl⟩
          change (db.withEvent target _).events.find? target = _
          rw [Db.withEvent, Table.find?_modify,
            find?_of_ownEvent creates.isMutable.1, Option.map_some,
            if_pos rfl]
      · exact absurd rfl taken
  · next organizerId target dto =>
      split at taken
      · next passes =>
          obtain ⟨rfl, event, _, adds⟩ := passes
          have has : HasSeatMap db target :=
            ⟨event, find?_of_ownEvent adds.isMutable.1, adds.model⟩
          exact has.step stepped
      · exact absurd rfl taken
  · exact absurd rfl taken

end Models

private theorem hasSeatMap_of_run {history : List (Db × Action)} {db : Db}
    (run : Trace step Db.empty history db) {eventId : EventId}
    (nonempty : sectionsOf eventId history ≠ []) :
    HasSeatMap db eventId := by
  induction run with
  | nil => exact absurd rfl nonempty
  | @snoc earlier before after action _ stepped inductionHypothesis =>
      by_cases first : sectionsOf eventId earlier = []
      · rw [sectionsOf, first, List.nil_append] at nonempty
        exact hasSeatMap_of_taken nonempty stepped
      · exact (inductionHypothesis first).step stepped

/-! ## Answers in order -/

/-- Numbers and letters ascend in each section, and sections with one prefix
have one seat in a row. -/
structure OrderKept (sections : List SeatMapConfigDto) : Prop where
  each : ∀ config ∈ sections, TextsAscend config
  pairs : sections.Pairwise fun config other =>
    config.prefixText = other.prefixText →
      config.seatsPerRow = 1 ∧ other.seatsPerRow = 1

section Answers

variable {sections : List SeatMapConfigDto}
  {generated answer : List (SeatId × SeatRow)}
  {block other : SeatMapConfigDto × List (List (SeatId × SeatRow))}
  {row : List (SeatId × SeatRow)}

def entryTexts (entry : SeatId × SeatRow) : Text × Text × Text :=
  entry.2.texts

/-- The rows of the block show the texts of the rows of its section. -/
def Shows (block : SeatMapConfigDto × List (List (SeatId × SeatRow))) :
    Prop :=
  block.2.map (List.map entryTexts) =
    (List.range' 1 block.1.rows).map (rowTexts block.1)

private theorem Shows.flatten (shows : Shows block) :
    block.2.flatten.map entryTexts =
      (List.range' 1 block.1.rows).flatMap (rowTexts block.1) := by
  rw [List.map_flatten, shows, List.flatMap_def]

theorem Shows.rows (shows : Shows block) (member : row ∈ block.2) :
    ∃ index, index ≤ block.1.rows ∧
      row.map entryTexts = rowTexts block.1 index := by
  have shown : row.map entryTexts ∈
      (List.range' 1 block.1.rows).map (rowTexts block.1) := by
    rw [← shows]
    exact List.mem_map_of_mem member
  obtain ⟨index, inRows, same⟩ := List.mem_map.mp shown
  have range := List.mem_range'_1.mp inRows
  exact ⟨index, by omega, same.symm⟩

/-- Every seat of a row shows the label of the row. -/
theorem row_of_mem {config : SeatMapConfigDto} {index : Nat}
    (shown : row.map entryTexts = rowTexts config index)
    {entry : SeatId × SeatRow} (member : entry ∈ row) :
    entry.2.row = rowLabel config.rowPrefix index := by
  have inRow : entryTexts entry ∈ rowTexts config index := by
    rw [← shown]
    exact List.mem_map_of_mem member
  obtain ⟨number, same⟩ := mem_rowTexts inRow
  exact (congrArg Prod.fst same).symm

private theorem length_of_shown {config : SeatMapConfigDto} {index : Nat}
    (shown : row.map entryTexts = rowTexts config index) :
    row.length = config.seatsPerRow := by
  have length := congrArg List.length shown
  rw [List.length_map, length_rowTexts] at length
  exact length

/-- A letter is no label with a prefix. -/
theorem rowLabel_ne_of_letter {config other : SeatMapConfigDto}
    (unprefixed : config.prefixText = []) (prefixed : other.prefixText ≠ [])
    (index otherIndex : Nat) :
    rowLabel config.rowPrefix index ≠ rowLabel other.rowPrefix otherIndex := by
  intro same
  rw [rowLabel_of_letter unprefixed, rowLabel_of_prefixText prefixed] at same
  have length := congrArg List.length same
  have front : 0 < other.prefixText.length := List.length_pos_iff.mpr prefixed
  have digits : 0 < (Nat.toDigits 10 otherIndex).length :=
    Nat.length_toDigits_pos
  have letter : (fromCharCode (64 + index)).length = 1 := rfl
  rw [List.length_append] at length
  omega

/-- Rows with one label belong to sections with one prefix. -/
theorem prefixText_of_rowLabel {config other : SeatMapConfigDto}
    (ascend : TextsAscend config) (otherAscend : TextsAscend other)
    {index otherIndex : Nat} (inRows : index ≤ config.rows)
    (inOther : otherIndex ≤ other.rows)
    (same : rowLabel config.rowPrefix index =
      rowLabel other.rowPrefix otherIndex) :
    config.prefixText = other.prefixText := by
  by_cases unprefixed : config.prefixText = []
  · by_cases otherUnprefixed : other.prefixText = []
    · exact unprefixed.trans otherUnprefixed.symm
    · exact absurd same
        (rowLabel_ne_of_letter unprefixed otherUnprefixed index otherIndex)
  · by_cases otherUnprefixed : other.prefixText = []
    · exact absurd same.symm
        (rowLabel_ne_of_letter otherUnprefixed unprefixed otherIndex index)
    · have rows := ascend.2
      have otherRows := otherAscend.2
      rw [if_neg unprefixed] at rows
      rw [if_neg otherUnprefixed] at otherRows
      rw [rowLabel_of_prefixText unprefixed,
        rowLabel_of_prefixText otherUnprefixed,
        Nat.toDigits_of_lt_base (by omega),
        Nat.toDigits_of_lt_base (by omega)] at same
      exact (List.append_inj' same rfl).1

/-- Two rows show different labels, or both have one seat. -/
def Apart (first second : List (SeatId × SeatRow)) : Prop :=
  ∀ entry ∈ first, ∀ later ∈ second, entry.2.row = later.2.row →
    first.length = 1 ∧ second.length = 1

instance : Std.Symm Apart where
  symm first second apart := by
    intro entry member later laterMember same
    exact (apart later laterMember entry member same.symm).symm

/-- The rows of a section have different labels. -/
theorem apart_rows (shows : Shows block) (ascend : TextsAscend block.1) :
    block.2.Pairwise Apart := by
  have texts : ((List.range' 1 block.1.rows).map
      (rowTexts block.1)).Pairwise fun first second =>
        ∀ here ∈ first, ∀ there ∈ second, here.1 < there.1 := by
    apply List.pairwise_map.mpr
    apply pairwise_range'_iff.mpr
    intro first second positive less inRows here member there otherMember
    obtain ⟨number, rfl⟩ := mem_rowTexts member
    obtain ⟨other, rfl⟩ := mem_rowTexts otherMember
    exact rowLabel_lt ascend less (by omega)
  rw [← shows] at texts
  refine (List.pairwise_map.mp texts).imp ?_
  intro first second below entry member later laterMember same
  have less := below _ (List.mem_map_of_mem member) _
    (List.mem_map_of_mem laterMember)
  exact absurd same (ne_of_lt less)

private theorem apart_blocks (shows : Shows block) (otherShows : Shows other)
    (ascend : TextsAscend block.1) (otherAscend : TextsAscend other.1)
    (single : block.1.prefixText = other.1.prefixText →
      block.1.seatsPerRow = 1 ∧ other.1.seatsPerRow = 1) :
    ∀ first ∈ block.2, ∀ second ∈ other.2, Apart first second := by
  intro first member second otherMember entry inFirst later inSecond same
  obtain ⟨index, inRows, shown⟩ := shows.rows member
  obtain ⟨otherIndex, inOther, otherShown⟩ := otherShows.rows otherMember
  rw [row_of_mem shown inFirst, row_of_mem otherShown inSecond] at same
  have seats := single
    (prefixText_of_rowLabel ascend otherAscend inRows inOther same)
  rw [length_of_shown shown, length_of_shown otherShown]
  exact seats

/-- A row stands together in an ascending list of all seats. -/
theorem isInfix_of_apart
    {rows : List (List (SeatId × SeatRow))} (apart : rows.Pairwise Apart)
    (all : rows.flatten = generated) (distinct : answer.Nodup)
    (perm : answer.Perm generated) (ascending : answer.Pairwise Db.seatOrder)
    (strict : Sorting.Strict Db.seatOrder row) (member : row ∈ rows)
    {label : Text} (labelled : ∀ entry ∈ row, entry.2.row = label)
    (nonempty : row ≠ []) : row <:+: answer := by
  have subset : row ⊆ answer := by
    intro entry inRow
    rw [perm.mem_iff, ← all]
    exact List.mem_flatten_of_mem member inRow
  by_cases single : row.length = 1
  · obtain ⟨entry, rfl⟩ := List.length_eq_one_iff.mp single
    obtain ⟨front, back, rfl⟩ :=
      List.append_of_mem (subset List.mem_cons_self)
    exact ⟨front, back, by simp⟩
  · have same : (answer.filter fun entry =>
        decide (entry.2.row = label)).Perm row := by
      refine (List.perm_ext_iff_of_nodup (distinct.filter _)
        strict.nodup).mpr ?_
      intro entry
      rw [List.mem_filter, decide_eq_true_eq]
      constructor
      · rintro ⟨inAnswer, sameLabel⟩
        rw [perm.mem_iff, ← all] at inAnswer
        obtain ⟨otherRow, otherMember, inOther⟩ :=
          List.mem_flatten.mp inAnswer
        by_cases equal : row = otherRow
        · rw [equal]
          exact inOther
        · obtain ⟨first, inRow⟩ := List.exists_mem_of_ne_nil row nonempty
          have related := apart.forall member otherMember equal
          have one := related first inRow entry inOther
            ((labelled first inRow).trans sameLabel.symm)
          exact absurd one.1 single
      · intro inRow
        exact ⟨subset inRow, labelled entry inRow⟩
    have kept : (answer.filter fun entry =>
        decide (entry.2.row = label)) = row := by
      refine List.Perm.eq_of_pairwise ?_ (ascending.filter _)
        (strict.imp And.left) same
      intro first second inFirst inSecond below above
      exact strict.antisymm (same.mem_iff.mp inFirst) inSecond below above
    rw [← kept]
    refine Sorting.filter_isInfix
      (fun entry : SeatId × SeatRow => entry.2.row) ?_
    refine ascending.imp ?_
    rintro first second (less | ⟨equal, _⟩)
    · exact le_of_lt less
    · exact le_of_eq equal

/-- Seats of a section whose numbers ascend leave no order open. -/
theorem strict_block (shows : Shows block) (ascend : TextsAscend block.1) :
    Sorting.Strict Db.seatOrder block.2.flatten := by
  have texts := strict_sectionRows ascend
  rw [← shows.flatten] at texts
  exact List.pairwise_map.mp texts

private theorem inSeatingOrder_of_orderKept
    (shown : generated.map entryTexts = sectionTexts sections)
    (seats : ∀ config ∈ sections, 1 ≤ config.seatsPerRow)
    (distinct : generated.Nodup) (kept : OrderKept sections)
    (perm : answer.Perm generated)
    (ascending : answer.Pairwise Db.seatOrder) :
    InSeatingOrder sections generated answer := by
  obtain ⟨shows, configs, all⟩ := splitSections_spec sections shown
  have inSections : ∀ block ∈ splitSections sections generated,
      block.1 ∈ sections := by
    intro block member
    rw [← configs]
    exact List.mem_map_of_mem member
  have answerDistinct : answer.Nodup := perm.nodup_iff.mpr distinct
  have pairs := kept.pairs
  rw [← configs] at pairs
  have apart : ((splitSections sections generated).flatMap
      Prod.snd).Pairwise Apart := by
    apply List.pairwise_flatMap.mpr
    constructor
    · intro block member
      exact apart_rows (shows block member)
        (kept.each _ (inSections block member))
    · refine (List.pairwise_map.mp pairs).imp_of_mem ?_
      intro block other member otherMember single
      exact apart_blocks (shows block member) (shows other otherMember)
        (kept.each _ (inSections block member))
        (kept.each _ (inSections other otherMember)) single
  have joined : ((splitSections sections generated).flatMap
      Prod.snd).flatten = generated := by
    rw [List.flatMap_def, List.flatten_flatten, List.map_map,
      ← List.flatMap_def]
    exact all
  constructor
  · intro block member row inBlock
    have strict := strict_block (shows block member)
      (kept.each _ (inSections block member))
    obtain ⟨index, _, rowShown⟩ := Shows.rows (shows block member) inBlock
    refine isInfix_of_apart apart joined answerDistinct perm ascending
      (List.Pairwise.sublist (List.sublist_flatten_of_mem inBlock) strict)
      (List.mem_flatMap.mpr ⟨block, member, inBlock⟩)
      (fun entry inRow => row_of_mem rowShown inRow) ?_
    apply List.ne_nil_of_length_pos
    rw [length_of_shown rowShown]
    exact seats block.1 (inSections block member)
  · intro block member
    refine Sorting.Strict.sublist (strict_block (shows block member)
      (kept.each _ (inSections block member))) ?_ answerDistinct ascending
    intro entry inBlock
    rw [perm.mem_iff, ← all]
    exact List.mem_flatMap.mpr ⟨block, member, inBlock⟩

/-- A section that stands in order in an answer has ascending numbers. -/
theorem textsAscend_of_sublist (shows : Shows block)
    (rows : 1 ≤ block.1.rows) (seats : 1 ≤ block.1.seatsPerRow)
    (ascending : answer.Pairwise Db.seatOrder)
    (ordered : block.2.flatten.Sublist answer) : TextsAscend block.1 := by
  apply textsAscend_of_pairwise rows seats
  rw [← shows.flatten]
  exact List.pairwise_map.mpr (ascending.sublist ordered)

/-- The first row of a block. -/
theorem Shows.first (shows : Shows block) (rows : 1 ≤ block.1.rows) :
    ∃ row ∈ block.2, row.map entryTexts = rowTexts block.1 1 := by
  have member : rowTexts block.1 1 ∈ block.2.map (List.map entryTexts) := by
    rw [shows]
    exact List.mem_map_of_mem (List.mem_range'_1.mpr (by omega))
  exact List.mem_map.mp member

/-- The first seat of a row and the seats behind it. -/
theorem rowTexts_of_one {config : SeatMapConfigDto}
    (seats : 1 ≤ config.seatsPerRow) (row : Nat) :
    rowTexts config row = textsAt config row 1 ::
      (List.range' 2 (config.seatsPerRow - 1)).map (textsAt config row) := by
  have numbers : List.range' 1 config.seatsPerRow =
      1 :: List.range' 2 (config.seatsPerRow - 1) := by
    obtain ⟨more, total⟩ : ∃ more, config.seatsPerRow = more + 1 :=
      ⟨config.seatsPerRow - 1, by omega⟩
    rw [total, List.range'_succ, Nat.add_sub_cancel]
  rw [rowTexts, numbers]
  rfl

private theorem rowTexts_of_two {config : SeatMapConfigDto}
    (seats : 2 ≤ config.seatsPerRow) (row : Nat) :
    rowTexts config row = textsAt config row 1 :: textsAt config row 2 ::
      (List.range' 3 (config.seatsPerRow - 2)).map (textsAt config row) := by
  have numbers : List.range' 2 (config.seatsPerRow - 1) =
      2 :: List.range' 3 (config.seatsPerRow - 2) := by
    obtain ⟨more, total⟩ : ∃ more, config.seatsPerRow = more + 2 :=
      ⟨config.seatsPerRow - 2, by omega⟩
    rw [total, Nat.add_sub_cancel]
    exact List.range'_succ
  rw [rowTexts_of_one (by omega), numbers, List.map_cons]

/-- When a seat of another section may come between the first two seats of a
row, they are not always together. -/
theorem single_of_sharedPrefix (shows : Shows block)
    (otherShows : Shows other) (rows : 1 ≤ block.1.rows)
    (seats : 1 ≤ block.1.seatsPerRow) (otherRows : 1 ≤ other.1.rows)
    (otherSeats : 1 ≤ other.1.seatsPerRow) (distinct : generated.Nodup)
    (subset : block.2.flatten ⊆ generated)
    (otherSubset : other.2.flatten ⊆ generated)
    (disjoint : List.Disjoint block.2.flatten other.2.flatten)
    (same : block.1.prefixText = other.1.prefixText)
    (together : ∀ sorting : Sorting Db.seatOrder, ∀ row ∈ block.2,
      row <:+: sorting.sort generated) :
    block.1.seatsPerRow = 1 := by
  by_contra several
  obtain ⟨row, member, shown⟩ := shows.first rows
  obtain ⟨otherRow, otherMember, otherShown⟩ := otherShows.first otherRows
  rw [rowTexts_of_two (by omega)] at shown
  rw [rowTexts_of_one otherSeats] at otherShown
  obtain ⟨first, rest, rfl, firstTexts, restShown⟩ :=
    List.map_eq_cons_iff.mp shown
  obtain ⟨second, seatsLater, rfl, secondTexts, _⟩ :=
    List.map_eq_cons_iff.mp restShown
  obtain ⟨between, otherLater, rfl, betweenTexts, _⟩ :=
    List.map_eq_cons_iff.mp otherShown
  have inOther : between ∈ other.2.flatten :=
    List.mem_flatten_of_mem otherMember List.mem_cons_self
  have inBlock : ∀ entry ∈ first :: second :: seatsLater,
      entry ∈ block.2.flatten :=
    fun entry inRow => List.mem_flatten_of_mem member inRow
  have different : ∀ entry ∈ first :: second :: seatsLater,
      entry ≠ between := by
    intro entry inRow equal
    rw [equal] at inRow
    exact disjoint (inBlock between inRow) inOther
  have label : rowLabel block.1.rowPrefix 1 = rowLabel other.1.rowPrefix 1 := by
    rw [SeatMapConfigDto.prefixText, SeatMapConfigDto.prefixText] at same
    rw [rowLabel, rowLabel, same]
  have below : Db.seatOrder first between := by
    rw [seatOrder_iff]
    change textsOrder (entryTexts first) (entryTexts between)
    rw [firstTexts, betweenTexts]
    exact Or.inr ⟨label, le_refl _⟩
  have notAbove : ¬ Db.seatOrder second between := by
    rw [seatOrder_iff]
    change ¬ textsOrder (entryTexts second) (entryTexts between)
    rw [secondTexts, betweenTexts]
    rintro (less | ⟨_, small⟩)
    · rw [textsAt, textsAt, label] at less
      exact lt_irrefl _ less
    · have above : ¬ Nat.toDigits 10 2 ≤ Nat.toDigits 10 1 := by decide
      exact above small
  let sorting : Sorting Db.seatOrder := Sorting.last between
  refine Sorting.not_isInfix_of_between ?_ (sorting.ascending generated)
    (Sorting.pair_sublist_last (otherSubset inOther)
      (subset (inBlock first (by simp))) (different first (by simp)) below)
    (different second (by simp)).symm notAbove
    (together sorting _ member)
  exact (sorting.perm generated).nodup_iff.mpr distinct

private theorem orderKept_of_inSeatingOrder
    (shown : generated.map entryTexts = sectionTexts sections)
    (positive : ∀ config ∈ sections,
      1 ≤ config.rows ∧ 1 ≤ config.seatsPerRow)
    (distinct : generated.Nodup)
    (ordered : ∀ sorting : Sorting Db.seatOrder,
      InSeatingOrder sections generated (sorting.sort generated)) :
    OrderKept sections := by
  obtain ⟨shows, configs, all⟩ := splitSections_spec sections shown
  have inSections : ∀ block ∈ splitSections sections generated,
      block.1 ∈ sections := by
    intro block member
    rw [← configs]
    exact List.mem_map_of_mem member
  have subset : ∀ block ∈ splitSections sections generated,
      block.2.flatten ⊆ generated := by
    intro block member entry inBlock
    rw [← all]
    exact List.mem_flatMap.mpr ⟨block, member, inBlock⟩
  have disjoint : (splitSections sections generated).Pairwise
      fun block other => List.Disjoint block.2.flatten other.2.flatten := by
    rw [← all] at distinct
    exact (List.nodup_flatMap.mp distinct).2
  constructor
  · intro config member
    rw [← configs] at member
    obtain ⟨block, inSplit, rfl⟩ := List.mem_map.mp member
    have bounds := positive block.1 (inSections block inSplit)
    exact textsAscend_of_sublist (shows block inSplit) bounds.1 bounds.2
      (Sorting.stable.ascending generated)
      ((ordered Sorting.stable).sections block inSplit)
  · rw [← configs]
    apply List.pairwise_map.mpr
    refine disjoint.imp_of_mem ?_
    intro block other member otherMember apart same
    have bounds := positive block.1 (inSections block member)
    have otherBounds := positive other.1 (inSections other otherMember)
    constructor
    · exact single_of_sharedPrefix (shows block member)
        (shows other otherMember) bounds.1 bounds.2 otherBounds.1
        otherBounds.2 distinct (subset block member) (subset other otherMember)
        apart same (fun sorting => (ordered sorting).rows block member)
    · exact single_of_sharedPrefix (shows other otherMember)
        (shows block member) otherBounds.1 otherBounds.2 bounds.1 bounds.2
        distinct (subset other otherMember) (subset block member)
        apart.symm same.symm
        (fun sorting => (ordered sorting).rows other otherMember)

end Answers

private theorem nodup_seatRowsOf (db : Db) (eventId : EventId) :
    (db.seatRowsOf eventId).Nodup :=
  (List.Nodup.of_map Prod.fst db.seats.distinct).filter _

/-- In a run with valid bodies the services list the seats of an event in
seating order, however the database sorts, exactly when the sections that have
come in keep it. -/
theorem inSeatingOrder_iff {history : List (Db × Action)} {db : Db}
    (run : Trace step Db.empty history db)
    (validated : StepsMeet Validated history) (eventId : EventId) :
    (∀ sorting seats, Answers sorting eventId history db seats →
      InSeatingOrder (sectionsOf eventId history) (db.seatRowsOf eventId)
        seats) ↔
      OrderKept (sectionsOf eventId history) := by
  have shown : (db.seatRowsOf eventId).map entryTexts =
      sectionTexts (sectionsOf eventId history) :=
    seatTexts_of_run run eventId
  have positive : ∀ config ∈ sectionsOf eventId history,
      1 ≤ config.rows ∧ 1 ≤ config.seatsPerRow :=
    fun _ member => mem_sectionsOf validated member
  have distinct := nodup_seatRowsOf db eventId
  constructor
  · intro ordered
    by_cases empty : sectionsOf eventId history = []
    · rw [empty]
      exact ⟨by simp, List.Pairwise.nil⟩
    · obtain ⟨event, found, model⟩ := hasSeatMap_of_run run empty
      apply orderKept_of_inSeatingOrder shown positive distinct
      intro sorting
      apply ordered sorting
      apply Answers.layout
      rw [getLayout, found]
      simp only [model]
  · intro kept sorting seats answers
    rw [answers.eq_sort]
    exact inSeatingOrder_of_orderKept shown
      (fun config member => (positive config member).2) distinct kept
      (sorting.perm _) (sorting.ascending _)

theorem inSeatingOrder_lettersAndBalcony :
    (∀ sorting seats,
      Answers sorting 0
        ((replay step [] Db.empty lettersAndBalcony).get
          lettersAndBalcony_enabled).1
        ((replay step [] Db.empty lettersAndBalcony).get
          lettersAndBalcony_enabled).2 seats →
      InSeatingOrder
        (sectionsOf 0
          ((replay step [] Db.empty lettersAndBalcony).get
            lettersAndBalcony_enabled).1)
        (((replay step [] Db.empty lettersAndBalcony).get
          lettersAndBalcony_enabled).2.seatRowsOf 0) seats) ↔
      OrderKept (sectionsOf 0
        ((replay step [] Db.empty lettersAndBalcony).get
          lettersAndBalcony_enabled).1) :=
  inSeatingOrder_iff
    (Trace.of_replay_get lettersAndBalcony lettersAndBalcony_enabled)
    (by decide) 0

def tenSeats : List Action :=
  plannedEvent ++ [.request 10 (.createSeatMap 0 [⟨1, 10, none, 0⟩])]

/-- The seat list can have seat 10 between seats 1 and 2. -/
theorem tenSeats_out_of_order :
    ¬ ∀ (history : List (Db × Action)) (db : Db),
      Trace step Db.empty history db → StepsMeet Validated history →
      ∀ eventId sorting seats, Answers sorting eventId history db seats →
        InSeatingOrder (sectionsOf eventId history) (db.seatRowsOf eventId)
          seats := by
  intro always
  obtain ⟨history, db, run, checked⟩ :=
    Trace.exists_of_replay step Db.empty tenSeats
      (fun result =>
        decide (StepsMeet Validated result.1 ∧
          getLayout Sorting.stable 0 result.2 =
            .ok (.seatMap (result.2.seatsOf 0)) ∧
          ¬ InSeatingOrder (sectionsOf 0 result.1) (result.2.seatRowsOf 0)
            (result.2.seatsOf 0)))
      (by decide)
  obtain ⟨validated, answered, mixed⟩ := of_decide_eq_true checked
  exact mixed (always history db run validated 0 Sorting.stable _
    (.layout history db _ answered))

end ConcertTicketing.Events
