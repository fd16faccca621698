import Thermals.Detection.Track

namespace Thermals.Detection

open Time Traffic

def Ascending (entries : List (FlarmId × Track)) : Prop := entries.Pairwise (fun a b => a.1 < b.1)

def place (id : FlarmId) (track : Track) : List (FlarmId × Track) → List (FlarmId × Track)
  | [] => [(id, track)]
  | (key, held) :: rest =>
    if id < key then (id, track) :: (key, held) :: rest
    else if id = key then (id, track) :: rest
    else (key, held) :: place id track rest

theorem mem_keys_place {id key : FlarmId} {track : Track} {entries : List (FlarmId × Track)} :
    key ∈ (place id track entries).map Prod.fst ↔ key = id ∨ key ∈ entries.map Prod.fst := by
  induction entries with
  | nil => simp [place]
  | cons e rest ih =>
    obtain ⟨k, held⟩ := e
    unfold place
    split
    · simp
    · split
      · rename_i same
        simp [same]
      · simp only [List.map_cons, List.mem_cons, ih]
        constructor <;> rintro (h | h | h) <;> simp [h]

theorem Ascending.keys {entries : List (FlarmId × Track)} :
    Ascending entries ↔ (entries.map Prod.fst).Pairwise (· < ·) := by
  simp [Ascending, List.pairwise_map]

theorem Ascending.place {entries : List (FlarmId × Track)} (h : Ascending entries) (id : FlarmId)
    (track : Track) : Ascending (place id track entries) := by
  rw [Ascending.keys] at h ⊢
  induction entries with
  | nil => simp [Detection.place]
  | cons e rest ih =>
    obtain ⟨k, held⟩ := e
    have tail := List.pairwise_cons.mp h
    unfold Detection.place
    split
    · rename_i less
      refine List.pairwise_cons.mpr ⟨?_, h⟩
      intro key member
      rcases List.mem_cons.mp member with rfl | member
      · exact less
      · exact Nat.lt_trans less (tail.1 key member)
    · split
      · rename_i same
        subst same
        exact List.pairwise_cons.mpr tail
      · rename_i notLess notSame
        refine List.pairwise_cons.mpr ⟨?_, ih tail.2⟩
        intro key member
        rcases mem_keys_place.mp member with rfl | member
        · have differ : key.value ≠ k.value := fun e => notSame (FlarmId.ext e)
          simp only [FlarmId.lt_def] at notLess ⊢
          omega
        · exact tail.1 key member

/-- Tracks by the ids of their targets, in ascending order, so that two tables that answer alike are
equal. -/
@[ext] structure Table where
  entries : List (FlarmId × Track)
  ascending : Ascending entries
  deriving DecidableEq

namespace Table

def empty : Table := ⟨[], List.Pairwise.nil⟩

def size (t : Table) : Nat := t.entries.length

def isEmpty (t : Table) : Bool := t.entries.isEmpty

def ids (t : Table) : List FlarmId := t.entries.map Prod.fst

def tracks (t : Table) : List Track := t.entries.map Prod.snd

def get? (t : Table) (id : FlarmId) : Option Track :=
  (t.entries.find? (fun e => e.1 = id)).map Prod.snd

def put (t : Table) (id : FlarmId) (track : Track) : Table :=
  ⟨place id track t.entries, t.ascending.place id track⟩

def filter (t : Table) (keep : Track → Bool) : Table :=
  ⟨t.entries.filter (fun e => keep e.2), t.ascending.filter _⟩

def track (t : Table) (historySize : Nat) (id : FlarmId) : Track :=
  (t.get? id).getD (Track.fresh id historySize)

def observe (t : Table) (historySize : Nat) (config : Config) (now : Instant) (id : FlarmId)
    (report : Report) : Table :=
  t.put id ((t.track historySize id).observe config now report)

def sweep (t : Table) (now : Instant) (maxAge : Span) : Table :=
  t.filter (fun track => !track.isExpired now maxAge)

def dropped (t : Table) (now : Instant) (maxAge : Span) : Nat := t.size - (t.sweep now maxAge).size

def relevant (t : Table) (now : Instant) (maxAge : Span) : Table :=
  t.filter (fun track => track.isRelevant now maxAge)

end Table
end Thermals.Detection
