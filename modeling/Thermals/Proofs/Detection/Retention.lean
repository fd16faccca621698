import Thermals.Proofs.Detection.Evidence
import Thermals.Proofs.Detection.Known

namespace Thermals

open Time Traffic

def Config.keeping (config : Config) (age : Span) : Config := { config with maxRecentlyStoppedAge := age }

namespace Detection

theorem Track.swept_keeping_of_kept (config : Config) {t : Track} {now : Instant} {age : Span}
    (kept : t.isExpired now age = false) : t.swept (config.keeping age) now = t :=
  @swept_of_kept (config.keeping age) now t kept

theorem Track.swept_keeping_of_expired (config : Config) {t : Track} {now : Instant} {age : Span}
    (expired : t.isExpired now age = true) :
    t.swept (config.keeping age) now = fresh t.id config.positionHistorySize :=
  @swept_of_expired (config.keeping age) now t expired

/-- What is known of a target with a shorter and with a longer age: the same, or nothing beside a
stopped thermal that is too old for the shorter one. -/
inductive Outlived (shorter : Span) (now : Instant) : Track → Track → Prop
  | same (t : Track) : Outlived shorter now t t
  | dropped {a b : Track} (idle : a.phase = .idle) (stopped : b.phase = .recentlyStopped)
      (old : shorter < b.age now) : Outlived shorter now a b

namespace Outlived

variable {config : Config} {shorter longer : Span} {now : Instant} {id : FlarmId} {a b : Track}

theorem wait {later : Instant} (outlived : Outlived shorter now a b) (le : now ≤ later) :
    Outlived shorter later a b := by
  cases outlived with
  | same => exact .same a
  | dropped idle stopped old =>
    exact .dropped idle stopped (Span.lt_of_lt_of_le old (Instant.since_mono le b.updated))

theorem heard (outlived : Outlived shorter now a b) (fits : a.Fits config.positionHistorySize id)
    (other_fits : b.Fits config.positionHistorySize id) (report : Option Report) :
    Outlived shorter now (a.heard (config.keeping shorter) now report)
      (b.heard (config.keeping longer) now report) := by
  cases outlived with
  | same => exact .same _
  | dropped idle stopped old =>
    cases report with
    | none => exact .dropped idle stopped old
    | some report =>
      cases turning : turns config report with
      | true =>
        -- A turn starts both afresh, and nothing is left of the difference.
        have restarted : a.observe (config.keeping shorter) now report =
            b.observe (config.keeping shorter) now report :=
          Track.observe_restarts (Or.inl idle) (Or.inr stopped) turning
            (fits.id.trans other_fits.id.symm) (fits.capacity.trans other_fits.capacity.symm)
        rw [Track.heard, restarted]
        exact .same _
      | false =>
        have resting : a.observe (config.keeping shorter) now report =
            { a with history := noted a.history report } :=
          Track.observe_dormant (Or.inl idle) turning
        have waiting : b.observe (config.keeping longer) now report =
            { b with history := noted b.history report } :=
          Track.observe_dormant (Or.inr stopped) turning
        rw [Track.heard, Track.heard, resting, waiting]
        exact .dropped idle stopped old

theorem swept (le : shorter ≤ longer) (outlived : Outlived shorter now a b) (own : a.id = b.id)
    (safe : a.mayCircle = true → a.isExpired now shorter = false) :
    Outlived shorter now (a.swept (config.keeping shorter) now)
      (b.swept (config.keeping longer) now) := by
  cases outlived with
  | same =>
    cases short : a.isExpired now shorter with
    | false =>
      have long := Track.kept_mono (Int.le_refl now.millis) le short
      rw [Track.swept_keeping_of_kept config short, Track.swept_keeping_of_kept config long]
      exact .same a
    | true =>
      rw [Track.swept_keeping_of_expired config short]
      cases long : a.isExpired now longer with
      | true =>
        rw [Track.swept_keeping_of_expired config long]
        exact .same _
      | false =>
        rw [Track.swept_keeping_of_kept config long]
        cases phase : a.phase with
        | idle => simp [Track.isExpired, phase] at long
        | potentiallyCircling => simp [safe (Track.mayCircle_iff.mpr (Or.inl phase))] at short
        | circling => simp [safe (Track.mayCircle_iff.mpr (Or.inr phase))] at short
        | recentlyStopped =>
          have old : shorter < a.age now := by simpa [Track.isExpired, phase] using short
          exact .dropped rfl phase old
  | dropped idle stopped old =>
    have short : a.isExpired now shorter = true := by simp [Track.isExpired, idle]
    rw [Track.swept_keeping_of_expired config short]
    cases long : b.isExpired now longer with
    | true =>
      rw [Track.swept_keeping_of_expired config long, own]
      exact .same _
    | false =>
      rw [Track.swept_keeping_of_kept config long]
      exact .dropped rfl stopped old

theorem filter_confirmed (outlived : Outlived shorter now a b)
    (young : a.phase = .recentlyStopped → a.age now ≤ shorter) :
    (some a).filter (fun t => t.phase = .circling || t.phase = .recentlyStopped) =
      ((some b).filter fun t => t.phase = .circling || t.phase = .recentlyStopped).filter
        fun t => t.phase = .circling || t.age now ≤ shorter := by
  cases outlived with
  | same =>
    rw [Option.filter_filter, Option.filter_some, Option.filter_some]
    cases phase : a.phase with
    | recentlyStopped => simp [young phase]
    | idle => simp
    | potentiallyCircling => simp
    | circling => simp
  | dropped idle stopped old =>
    have hidden : ¬ b.age now ≤ shorter := Nat.not_le.mpr old
    rw [Option.filter_filter, Option.filter_some, Option.filter_some]
    simp [idle, stopped, hidden]

theorem filter_mayCircle (outlived : Outlived shorter now a b) :
    (some a).filter Track.mayCircle = (some b).filter Track.mayCircle := by
  cases outlived with
  | same => rfl
  | dropped idle stopped =>
    rw [Option.filter_some, Option.filter_some]
    simp [Track.mayCircle, idle, stopped]

end Outlived

namespace Detector

def heard (d : Detector) (tick : Tick) : Detector :=
  tick.roster.reports.foldl (fun d report => d.update tick.time report) d

/-- No cleanup drops a target that is circling, for certain or perhaps. -/
def KeepsCircling (config : Config) (ticks : List Tick) : Prop :=
  ∀ seen tick, seen ++ [tick] <+: ticks → ∀ e ∈ ((session config seen).1.heard tick).table.entries,
    e.2.mayCircle = true → e ∈ (((session config seen).1.heard tick).cleanup tick.time).table.entries

variable {config : Config} {shorter longer : Span} {ticks seen : List Tick} {tick : Tick}

theorem config_heard (config : Config) (seen : List Tick) (tick : Tick) :
    ((session config seen).1.heard tick).config = config := by
  rw [heard, config_foldl_update, session_fst, config_run]

theorem get?_heard {id : FlarmId}
    (active : ((known config seen id).heard config tick.time (tick.roster.find? id)).phase ≠ .idle) :
    ((session config seen).1.heard tick).table.get? id =
      some ((known config seen id).heard config tick.time (tick.roster.find? id)) := by
  have settings : (session config seen).1.config = config := by rw [session_fst, config_run]
  rw [heard, get?_foldl_update tick.roster.nodup, settings]
  cases reported : tick.roster.find? id with
  | some report =>
    rw [Roster.find?] at reported
    rw [reported]
    rfl
  | none =>
    rw [reported] at active
    rw [Roster.find?] at reported
    rw [reported]
    exact tracked_of_prior active

theorem mem_cleanup_heard_iff {e : FlarmId × Track} :
    e ∈ (((session config seen).1.heard tick).cleanup tick.time).table.entries ↔
      e ∈ ((session config seen).1.heard tick).table.entries ∧
        e.2.isExpired tick.time config.maxRecentlyStoppedAge = false := by
  simp [cleanup, Table.sweep, Table.filter, config_heard]

theorem keepsCircling_nil (config : Config) : KeepsCircling config [] := forall_prefix_nil

theorem keepsCircling_append_singleton (keeps : KeepsCircling config ticks)
    (kept : ∀ e ∈ ((session config ticks).1.heard tick).table.entries, e.2.mayCircle = true →
      e.2.isExpired tick.time config.maxRecentlyStoppedAge = false) :
    KeepsCircling config (ticks ++ [tick]) := by
  refine forall_prefix_append_singleton.mpr ⟨keeps, ?_⟩
  intro e member circling
  exact mem_cleanup_heard_iff.mpr ⟨member, kept e member circling⟩

theorem KeepsCircling.safe (keeps : KeepsCircling config ticks) (part : seen ++ [tick] <+: ticks)
    {id : FlarmId} {t : Track}
    (heard : (known config seen id).heard config tick.time (tick.roster.find? id) = t)
    (circling : t.mayCircle = true) :
    t.isExpired tick.time config.maxRecentlyStoppedAge = false := by
  subst heard
  have held := get?_heard (Track.active_of_mayCircle circling)
  have member := (Table.get?_eq_some_iff _ _ _).mp held
  exact (mem_cleanup_heard_iff.mp (keeps seen tick part _ member circling)).2

theorem time_le_of_rising (rising : (ticks.map Tick.time).Pairwise (· ≤ ·))
    (part : seen ++ [tick] <+: ticks) : ∀ other ∈ seen, other.time ≤ tick.time := by
  have ordered := rising.sublist (part.map Tick.time).sublist
  rw [List.map_append, List.pairwise_append] at ordered
  intro other member
  exact ordered.2.2 other.time (List.mem_map_of_mem member) tick.time (List.mem_singleton_self _)

theorem outlived_of_rising (le : shorter ≤ longer)
    (rising : (ticks.map Tick.time).Pairwise (· ≤ ·))
    (keeps : KeepsCircling (config.keeping shorter) ticks) (id : FlarmId) (part : seen <+: ticks)
    (now : Instant) (past : ∀ tick ∈ seen, tick.time ≤ now) :
    Outlived shorter now (known (config.keeping shorter) seen id)
      (known (config.keeping longer) seen id) := by
  -- The ages grow with the times, so what is too old once stays so, which needs that `now` is not before
  -- any of the ticks.
  induction seen using List.reverseRecOn generalizing now with
  | nil => exact .same _
  | append_singleton seen tick ih =>
    have earlier : seen <+: ticks := (List.prefix_append _ _).trans part
    have before := time_le_of_rising rising part
    have fits := fits_known (config.keeping shorter) seen id
    have other_fits := fits_known (config.keeping longer) seen id
    rw [known_append_singleton, known_append_singleton]
    apply Outlived.wait ?_ (past tick (by simp))
    apply Outlived.swept le ?_ ?_ (keeps.safe part rfl)
    · exact (ih earlier tick.time before).heard fits other_fits (tick.roster.find? id)
    · exact (fits.heard _).id.trans (other_fits.heard _).id.symm

/-- With a shorter age all is the same, but for stopped thermals that are too old for it. -/
theorem shorter_age_hides (le : shorter ≤ longer) (rising : (ticks.map Tick.time).Pairwise (· ≤ ·))
    (keeps : KeepsCircling (config.keeping shorter) ticks) (part : seen ++ [tick] <+: ticks) :
    let first := session (config.keeping shorter) (seen ++ [tick])
    let second := session (config.keeping longer) (seen ++ [tick])
    first.2.thermals = second.2.thermals.filter
        (fun track => track.phase = .circling || track.age tick.time ≤ shorter) ∧
      first.1.table.filter Track.mayCircle = second.1.table.filter Track.mayCircle := by
  intro first second
  have past : ∀ other ∈ seen ++ [tick], other.time ≤ tick.time := by
    intro other member
    rcases List.mem_append.mp member with member | member
    · exact time_le_of_rising rising part other member
    · rw [List.mem_singleton.mp member]
      exact Int.le_refl _
  have outlived (id : FlarmId) := outlived_of_rising le rising keeps id part tick.time past
  constructor
  · apply Table.eq_of_get?
    intro id
    have young (stopped : (known (config.keeping shorter) (seen ++ [tick]) id).phase = .recentlyStopped) :
        (known (config.keeping shorter) (seen ++ [tick]) id).age tick.time ≤ shorter := by
      have kept := kept_known (by rw [stopped]; decide)
      exact ((Track.isExpired_eq_false_iff _ _ _).mp kept).2.1 stopped
    calc first.2.thermals.get? id
        = published (config.keeping shorter) (seen ++ [tick]) id := rfl
      _ = (published (config.keeping longer) (seen ++ [tick]) id).filter
            fun track => track.phase = .circling || track.age tick.time ≤ shorter := by
          rw [published_eq_filter_known, published_eq_filter_known]
          exact (outlived id).filter_confirmed young
      _ = _ := (Table.get?_filter _ _ id).symm
  · apply Table.eq_of_get?
    intro id
    have active (t : Track) : t.mayCircle = true → t.phase ≠ .idle := Track.active_of_mayCircle
    calc (first.1.table.filter Track.mayCircle).get? id
        = (tracked (config.keeping shorter) (seen ++ [tick]) id).filter Track.mayCircle :=
          Table.get?_filter _ _ id
      _ = (tracked (config.keeping longer) (seen ++ [tick]) id).filter Track.mayCircle := by
          rw [filter_tracked active, filter_tracked active]
          exact (outlived id).filter_mayCircle
      _ = _ := (Table.get?_filter _ _ id).symm

theorem stopped_thermal_hidden :
    let ticks := Flight.opening ++ [Flight.tick 7 []]
    let first := session (Flight.settings.keeping (.ofMillis 3500)) ticks
    let second := session (Flight.settings.keeping (.ofSeconds 10)) ticks
    KeepsCircling (Flight.settings.keeping (.ofMillis 3500)) ticks ∧
      first.2.thermals = second.2.thermals.filter
        (fun track => track.phase = .circling || track.age (.ofSeconds 7) ≤ .ofMillis 3500) ∧
      first.2.thermals.ids = [] ∧ second.2.thermals.ids = [Flight.target] ∧
      first.1.table.filter Track.mayCircle = second.1.table.filter Track.mayCircle := by
  intro ticks first second
  have keeps : KeepsCircling (Flight.settings.keeping (.ofMillis 3500)) ticks := by
    have log : ticks = [] ++ [ticks[0]] ++ [ticks[1]] ++ [ticks[2]] ++ [ticks[3]] ++ [ticks[4]] := rfl
    rw [log]
    iterate 5 refine keepsCircling_append_singleton ?_ (by decide +kernel)
    exact keepsCircling_nil _
  have le : Span.ofMillis 3500 ≤ Span.ofSeconds 10 := by decide
  obtain ⟨shown, held⟩ := shorter_age_hides le (by decide +kernel) keeps (List.prefix_refl ticks)
  exact ⟨keeps, shown, by decide +kernel, by decide +kernel, held⟩

end Detector
end Detection
end Thermals
