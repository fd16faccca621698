import Thermals.Proofs.Geo.Degrees
import Thermals.Proofs.Log.Feeding
import Thermals.Proofs.Log.Reordering

namespace Thermals.Log

open Number Geo Time Traffic Detection

namespace Record

structure Placed (r : Record) : Prop where
  paired : r.latitude.isSome = r.longitude.isSome
  latitude : ∀ x ∈ r.latitude, Within 90.0 x
  longitude : ∀ x ∈ r.longitude, Within 180.0 x

structure Rated (r : Record) : Prop where
  turning : ∀ x ∈ r.turnRate, x.isFinite = true
  climbing : ∀ x ∈ r.climbRate, x.isFinite = true

structure Sound (r : Record) : Prop where
  named : ∃ id, FlarmId.parse r.id = .ok id
  placed : r.Placed
  rated : r.Rated

def plain (r : Record) (id : FlarmId) : Report where
  id
  name := if r.name = some "" then none else r.name
  location := r.latitude.bind fun latitude => r.longitude.map fun longitude => ⟨longitude, latitude⟩
  turnRate := r.turnRate
  climbRate := r.climbRate

/-- The fault of a record by itself, in the order in which they are looked for: each case leaves out
those before it. -/
inductive Refused (r : Record) : RecordFault → Prop where
  | noId {fault : IdFault} (unread : FlarmId.parse r.id = .error fault) : Refused r (.noId fault)
  | incompletePosition {id : FlarmId} (parsed : FlarmId.parse r.id = .ok id)
      (half : r.latitude.isSome ≠ r.longitude.isSome) : Refused r (.incompletePosition id r.time)
  | position {id : FlarmId} {latitude longitude : Float} (parsed : FlarmId.parse r.id = .ok id)
      (north : r.latitude = some latitude) (east : r.longitude = some longitude)
      (beyond : ¬ (Within 90.0 latitude ∧ Within 180.0 longitude)) :
      Refused r (.position id r.time latitude longitude)
  | rate {id : FlarmId} (parsed : FlarmId.parse r.id = .ok id) (placed : r.Placed)
      (unrated : ¬ r.Rated) : Refused r (.rate id r.time)

variable {r : Record} {id : FlarmId} {latitude longitude : Float}

theorem placed_of_some (north : r.latitude = some latitude) (east : r.longitude = some longitude) :
    r.Placed ↔ Within 90.0 latitude ∧ Within 180.0 longitude := by
  constructor
  · intro placed
    exact ⟨placed.latitude latitude north, placed.longitude longitude east⟩
  · intro within
    refine ⟨by rw [north, east]; rfl, ?_, ?_⟩
    · simpa [north] using within.1
    · simpa [east] using within.2

theorem location_of_some (north : r.latitude = some latitude) (east : r.longitude = some longitude)
    [Decidable r.Placed] (id : FlarmId) :
    r.location id = if r.Placed then .ok (r.plain id).location
      else .error (.position id r.time latitude longitude) := by
  have checked : (isCoordinate 90 latitude && isCoordinate 180 longitude) = true ↔ r.Placed := by
    rw [Bool.and_eq_true, isCoordinate_iff exact_ninety, isCoordinate_iff exact_halfTurn,
      placed_of_some north east]
  simp only [location, north, east, checked]
  by_cases placed : r.Placed
  · obtain ⟨inLatitude, inLongitude⟩ := (placed_of_some north east).mp placed
    simp [placed, plain, north, east, ofDegrees_of_within inLongitude inLatitude]
  · simp [placed]

theorem location_of_half (half : r.latitude.isSome ≠ r.longitude.isSome) (id : FlarmId) :
    r.location id = .error (.incompletePosition id r.time) := by
  cases north : r.latitude <;> cases east : r.longitude <;> simp_all [location]

theorem location_of_placed (placed : r.Placed) (id : FlarmId) :
    r.location id = .ok (r.plain id).location := by
  classical
  cases north : r.latitude with
  | none =>
    have east : r.longitude = none := by simpa [north] using placed.paired.symm
    simp [location, plain, north, east]
  | some latitude =>
    have paired := placed.paired
    rw [north] at paired
    obtain ⟨longitude, east⟩ := Option.isSome_iff_exists.mp paired.symm
    rw [location_of_some north east, if_pos placed]

theorem isRate_iff (r : Record) : (isRate r.turnRate && isRate r.climbRate) = true ↔ r.Rated := by
  have finite (rate : Option Float) : isRate rate = true ↔ ∀ x ∈ rate, x.isFinite = true := by
    cases rate <;> simp [isRate]
  rw [Bool.and_eq_true, finite, finite]
  exact ⟨fun both => ⟨both.1, both.2⟩, fun rated => ⟨rated.turning, rated.climbing⟩⟩

theorem report_of_placed (parsed : FlarmId.parse r.id = .ok id) (placed : r.Placed)
    [Decidable r.Rated] :
    r.report = if r.Rated then .ok (r.plain id) else .error (.rate id r.time) := by
  have name : r.name.filter (· ≠ "") = if r.name = some "" then none else r.name := by
    cases r.name with
    | none => rfl
    | some name => by_cases empty : name = "" <;> simp [empty]
  simp only [report, parsed, location_of_placed placed, isRate_iff, name, Except.mapError, bind,
    Except.bind]
  rfl

theorem report_of_sound (parsed : FlarmId.parse r.id = .ok id) (placed : r.Placed) (rated : r.Rated) :
    r.report = .ok (r.plain id) := by
  classical
  rw [report_of_placed parsed placed, if_pos rated]

theorem report_of_refused {fault : RecordFault} (refused : r.Refused fault) :
    r.report = .error fault := by
  classical
  cases refused with
  | noId unread => simp [report, unread, Except.mapError, bind, Except.bind]
  | incompletePosition parsed half =>
    simp [report, parsed, location_of_half half, Except.mapError, bind, Except.bind]
  | position parsed north east beyond =>
    have unplaced := mt (placed_of_some north east).mp beyond
    simp [report, parsed, location_of_some north east, unplaced, Except.mapError, bind, Except.bind]
  | rate parsed placed unrated => rw [report_of_placed parsed placed, if_neg unrated]

theorem sound_or_refused (r : Record) : r.Sound ∨ ∃ fault, r.Refused fault := by
  cases parsed : FlarmId.parse r.id with
  | error fault => exact Or.inr ⟨_, .noId parsed⟩
  | ok id =>
    by_cases placed : r.Placed
    · by_cases rated : r.Rated
      · exact Or.inl ⟨⟨id, parsed⟩, placed, rated⟩
      · exact Or.inr ⟨_, .rate parsed placed rated⟩
    · by_cases half : r.latitude.isSome = r.longitude.isSome
      · cases north : r.latitude with
        | none =>
          have east : r.longitude = none := by simpa [north] using half.symm
          exact absurd ⟨half, by simp [north], by simp [east]⟩ placed
        | some latitude =>
          rw [north] at half
          obtain ⟨longitude, east⟩ := Option.isSome_iff_exists.mp half.symm
          exact Or.inr ⟨_, .position parsed north east (mt (placed_of_some north east).mpr placed)⟩
      · exact Or.inr ⟨_, .incompletePosition parsed half⟩

theorem report_eq_ok_iff {report : Report} : r.report = .ok report ↔
    FlarmId.parse r.id = .ok report.id ∧ r.Placed ∧ r.Rated ∧ report = r.plain report.id := by
  constructor
  · intro read
    rcases r.sound_or_refused with ⟨⟨id, parsed⟩, placed, rated⟩ | ⟨fault, refused⟩
    · rw [report_of_sound parsed placed rated] at read
      obtain rfl := Except.ok.inj read
      exact ⟨parsed, placed, rated, rfl⟩
    · rw [report_of_refused refused] at read
      cases read
  · intro sound
    obtain ⟨parsed, placed, rated, same⟩ := sound
    rw [report_of_sound parsed placed rated, ← same]

theorem report_eq_error_iff {fault : RecordFault} : r.report = .error fault ↔ r.Refused fault := by
  constructor
  · intro unread
    rcases r.sound_or_refused with ⟨⟨id, parsed⟩, placed, rated⟩ | ⟨other, refused⟩
    · rw [report_of_sound parsed placed rated] at unread
      cases unread
    · rw [report_of_refused refused] at unread
      obtain rfl := Except.error.inj unread
      exact refused
  · exact report_of_refused

theorem sound_iff : r.Sound ↔ ∃ report, r.report = .ok report := by
  constructor
  · intro sound
    obtain ⟨id, parsed⟩ := sound.named
    exact ⟨_, report_of_sound parsed sound.placed sound.rated⟩
  · intro read
    obtain ⟨report, read⟩ := read
    obtain ⟨parsed, placed, rated, -⟩ := report_eq_ok_iff.mp read
    exact ⟨⟨_, parsed⟩, placed, rated⟩

end Record

def timesOf (records : List (Option Record)) : List Instant :=
  records.filterMap (Option.map Record.time)

structure Acceptable (records : List (Option Record)) : Prop where
  sound : ∀ row ∈ records, ∃ record, row = some record ∧ record.Sound
  ordered : (timesOf records).Pairwise (· ≤ ·)

/-- The fault of a row behind others, of which `last` is the time of the last one. -/
inductive Refuses (last : Option Instant) : Option Record → Fault → Prop where
  | row : Refuses last none .row
  | record {record : Record} {fault : RecordFault} (refused : record.Refused fault) :
      Refuses last (some record) (.record fault)
  | outOfOrder {record : Record} {id : FlarmId} {before : Instant}
      (parsed : FlarmId.parse record.id = .ok id) (sound : record.Sound)
      (found : last = some before) (late : record.time < before) :
      Refuses last (some record) (.record (.outOfOrder id record.time before))

theorem bind_eq_error_iff {ε α β : Type} {first : Except ε α} {next : α → Except ε β} {fault : ε} :
    first >>= next = .error fault ↔
      first = .error fault ∨ ∃ a, first = .ok a ∧ next a = .error fault := by
  cases first <;> simp [bind, Except.bind]

theorem foldlM_eq_error_iff {ε σ α : Type} {step : σ → α → Except ε σ} {items : List α} {state : σ}
    {fault : ε} : items.foldlM step state = .error fault ↔
      ∃ earlier item later middle, items = earlier ++ item :: later ∧
        earlier.foldlM step state = .ok middle ∧ step middle item = .error fault := by
  induction items generalizing state with
  | nil => simp [pure, Except.pure]
  | cons first rest ih =>
    rw [List.foldlM_cons, bind_eq_error_iff]
    constructor
    · intro failed
      rcases failed with failed | ⟨next, stepped, failed⟩
      · exact ⟨[], first, rest, state, rfl, rfl, failed⟩
      · obtain ⟨earlier, item, later, middle, rfl, passed, failed⟩ := ih.mp failed
        refine ⟨first :: earlier, item, later, middle, rfl, ?_, failed⟩
        rw [List.foldlM_cons]
        exact bind_eq_ok_iff.mpr ⟨next, stepped, passed⟩
    · intro failed
      obtain ⟨earlier, item, later, middle, split, passed, failed⟩ := failed
      cases earlier with
      | nil =>
        obtain ⟨rfl, rfl⟩ := List.cons_eq_cons.mp split
        obtain rfl := Except.ok.inj passed
        exact Or.inl failed
      | cons other earlier =>
        obtain ⟨rfl, rfl⟩ := List.cons_eq_cons.mp split
        rw [List.foldlM_cons] at passed
        obtain ⟨next, stepped, passed⟩ := bind_eq_ok_iff.mp passed
        exact Or.inr ⟨next, stepped, ih.mpr ⟨earlier, item, later, middle, rfl, passed, failed⟩⟩

theorem addReport_eq_error_iff {time : Instant} {report : Report} {ticks : List Tick}
    {fault : RecordFault} : addReport time report ticks = .error fault ↔
      ∃ before, ticks.head?.map Tick.time = some before ∧ time < before ∧
        fault = .outOfOrder report.id time before := by
  cases ticks with
  | nil => simp [addReport]
  | cons last earlier =>
    simp only [addReport, List.head?_cons, Option.map_some, Option.some.injEq, exists_eq_left']
    split
    · rename_i same
      have notLess : ¬ time < last.time := by
        rw [same]
        exact Int.lt_irrefl _
      simp [notLess]
    · split <;> simp [*, eq_comm]

variable {records : List (Option Record)} {row : Option Record} {fault : Fault} {ticks : List Tick}

theorem refuses_unread_iff {last : Option Instant} {record : Record} {unread : RecordFault}
    (read : record.report = .error unread) :
    Refuses last (some record) fault ↔ fault = .record unread := by
  constructor
  · intro refuses
    cases refuses with
    | record refused =>
      rw [Record.report_eq_error_iff.mpr refused] at read
      rw [Except.error.inj read]
    | outOfOrder parsed sound found late =>
      obtain ⟨report, other_read⟩ := Record.sound_iff.mp sound
      rw [read] at other_read
      cases other_read
  · intro same
    rw [same]
    exact .record (Record.report_eq_error_iff.mp read)

theorem refuses_read_iff {last : Option Instant} {record : Record} {report : Report}
    (read : record.report = .ok report) : Refuses last (some record) fault ↔
      ∃ before, last = some before ∧ record.time < before ∧
        fault = .record (.outOfOrder report.id record.time before) := by
  have parsed := id_of_report read
  constructor
  · intro refuses
    cases refuses with
    | record refused =>
      rw [Record.report_eq_error_iff.mpr refused] at read
      cases read
    | outOfOrder other_parsed sound found late =>
      rw [parsed] at other_parsed
      obtain rfl := Except.ok.inj other_parsed
      exact ⟨_, found, late, rfl⟩
  · intro refused
    obtain ⟨before, found, late, rfl⟩ := refused
    exact .outOfOrder parsed (Record.sound_iff.mpr ⟨report, read⟩) found late

theorem addRecord_eq_error_iff :
    addRecord ticks row = .error fault ↔ Refuses (ticks.head?.map Tick.time) row fault := by
  cases row with
  | none =>
    constructor
    · intro failed
      obtain rfl := Except.error.inj failed
      exact .row
    · intro refuses
      cases refuses
      rfl
  | some record =>
    cases read : record.report with
    | error unread =>
      have failed : addRecord ticks (some record) = .error (.record unread) := by
        simp [addRecord, read, bind, Except.bind, Except.mapError]
      rw [refuses_unread_iff read, failed, Except.error.injEq, eq_comm]
    | ok report =>
      have failed : addRecord ticks (some record) = .error fault ↔
          ∃ other, addReport record.time report ticks = .error other ∧ fault = .record other := by
        rw [addRecord_some read]
        cases addReport record.time report ticks <;> simp [Except.mapError, eq_comm]
      rw [refuses_read_iff read, failed]
      constructor
      · intro late
        obtain ⟨other, added, rfl⟩ := late
        obtain ⟨before, found, late, rfl⟩ := addReport_eq_error_iff.mp added
        exact ⟨before, found, late, rfl⟩
      · intro late
        obtain ⟨before, found, late, rfl⟩ := late
        exact ⟨_, addReport_eq_error_iff.mpr ⟨before, found, late, rfl⟩, rfl⟩

theorem head?_foldlM_addRecord (read : records.foldlM addRecord [] = .ok ticks) :
    ticks.head?.map Tick.time = (timesOf records).getLast? := by
  induction records using List.reverseRecOn generalizing ticks with
  | nil =>
    obtain rfl := Except.ok.inj read
    rfl
  | append_singleton earlier row _ =>
    simp only [List.foldlM_append, List.foldlM_cons, List.foldlM_nil, bind_pure] at read
    obtain ⟨middle, -, added⟩ := bind_eq_ok_iff.mp read
    obtain ⟨record, report, rfl, -, added⟩ := addRecord_eq_ok added
    rw [head?_addReport added]
    simp [timesOf]

theorem ticksOf_ok_iff_acceptable : (∃ ticks, ticksOf records = .ok ticks) ↔ Acceptable records := by
  have readable_iff : (∀ row ∈ records, ∃ record report, row = some record ∧
      record.report = .ok report) ↔ ∀ row ∈ records, ∃ record, row = some record ∧ record.Sound := by
    simp only [Record.sound_iff, exists_and_left]
  rw [ticksOf_ok_iff]
  constructor
  · intro accepted
    obtain ⟨readable, rising⟩ := accepted
    rw [map_time_logged readable] at rising
    exact ⟨readable_iff.mp readable, rising⟩
  · intro acceptable
    have readable := readable_iff.mpr acceptable.sound
    refine ⟨readable, ?_⟩
    rw [map_time_logged readable]
    exact acceptable.ordered

theorem ticksOf_eq_error_iff : ticksOf records = .error fault ↔
    ∃ earlier row later, records = earlier ++ row :: later ∧ Acceptable earlier ∧
      Refuses (timesOf earlier).getLast? row fault := by
  have folded : ticksOf records = .error fault ↔ records.foldlM addRecord [] = .error fault := by
    unfold ticksOf
    cases records.foldlM addRecord [] <;> simp [Except.map]
  rw [folded, foldlM_eq_error_iff]
  constructor
  · intro failed
    obtain ⟨earlier, row, later, ticks, split, passed, failed⟩ := failed
    have accepted : ticksOf earlier = .ok ticks.reverse := by rw [ticksOf, passed]; rfl
    refine ⟨earlier, row, later, split, ticksOf_ok_iff_acceptable.mp ⟨_, accepted⟩, ?_⟩
    rw [← head?_foldlM_addRecord passed]
    exact addRecord_eq_error_iff.mp failed
  · intro refused
    obtain ⟨earlier, row, later, split, acceptable, refuses⟩ := refused
    obtain ⟨_, accepted⟩ := ticksOf_ok_iff_acceptable.mpr acceptable
    obtain ⟨ticks, passed⟩ : ∃ ticks, earlier.foldlM addRecord [] = .ok ticks := by
      cases passed : earlier.foldlM addRecord [] with
      | ok ticks => exact ⟨ticks, rfl⟩
      | error fault =>
        rw [ticksOf, passed] at accepted
        cases accepted
    rw [← head?_foldlM_addRecord passed] at refuses
    exact ⟨earlier, row, later, ticks, split, passed, addRecord_eq_error_iff.mpr refuses⟩

/-- A log is read just when it is acceptable, and what is read has the values of its records as they
stand. In any other log the first row with a fault decides, whatever rows are behind it. -/
theorem read_or_first_refused (records : List (Option Record)) :
    ((∃ ticks, ticksOf records = .ok ticks) ↔ Acceptable records) ∧
    (∀ fault, ticksOf records = .error fault ↔
      ∃ earlier row later, records = earlier ++ row :: later ∧ Acceptable earlier ∧
        Refuses (timesOf earlier).getLast? row fault) ∧
    ∀ ticks, ticksOf records = .ok ticks →
      (∀ record, some record ∈ records →
        ∃ id, FlarmId.parse record.id = .ok id ∧ record.report = .ok (record.plain id)) ∧
      ∀ tick ∈ ticks, ∀ report ∈ tick.roster.reports, ∃ record,
        (recordsOf tick.time report.id records).getLast? = some record ∧
          report = record.plain report.id := by
  refine ⟨ticksOf_ok_iff_acceptable, fun fault => ticksOf_eq_error_iff, ?_⟩
  intro ticks read
  constructor
  · intro record listed
    have acceptable := ticksOf_ok_iff_acceptable.mp ⟨ticks, read⟩
    obtain ⟨other, same, sound⟩ := acceptable.sound _ listed
    obtain rfl := Option.some.inj same
    obtain ⟨id, parsed⟩ := sound.named
    exact ⟨id, parsed, Record.report_of_sound parsed sound.placed sound.rated⟩
  · intro tick member report listed
    obtain ⟨record, last, reported⟩ := (gathers_of_ticksOf read).last tick member report listed
    obtain ⟨-, -, -, same⟩ := Record.report_eq_ok_iff.mp reported
    exact ⟨record, last, same⟩

def edge : Record where
  time := .ofSeconds 2
  id := "DD8F12"
  latitude := some (-90.0)
  longitude := some 180.0
  turnRate := some 20.0
  climbRate := none
  name := some ""

theorem rate_refused_behind_edge :
    let late := { edge with time := .ofSeconds 1, turnRate := some (infinity true) }
    let records := [some edge, some late, none]
    ticksOf records = .error (.record (.rate Flight.target late.time)) ∧
      (∃ earlier row later, records = earlier ++ row :: later ∧ Acceptable earlier ∧
        Refuses (timesOf earlier).getLast? row (.record (.rate Flight.target late.time))) ∧
      edge.report = .ok (edge.plain Flight.target) ∧
      (edge.plain Flight.target).location = some ⟨180.0, -90.0⟩ := by
  intro late records
  have refused : ticksOf records = .error (.record (.rate Flight.target late.time)) := by
    decide +kernel
  have read : ticksOf [some edge] = .ok [⟨edge.time, .ofList [edge.plain Flight.target]⟩] := by
    decide +kernel
  obtain ⟨-, first, -⟩ := read_or_first_refused records
  obtain ⟨-, -, kept⟩ := read_or_first_refused [some edge]
  obtain ⟨id, parsed, reported⟩ := (kept _ read).1 edge (by simp)
  have own : FlarmId.parse edge.id = .ok Flight.target := by decide +kernel
  obtain rfl := Except.ok.inj (own.symm.trans parsed)
  exact ⟨refused, (first _).mp refused, reported, by decide +kernel⟩

end Thermals.Log
