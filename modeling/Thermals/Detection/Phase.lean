namespace Thermals.Detection

inductive Phase where
  | idle
  | potentiallyCircling
  | circling
  | recentlyStopped
  deriving DecidableEq, Repr, Inhabited

namespace Phase

def all : List Phase := [idle, potentiallyCircling, circling, recentlyStopped]

def text : Phase → String
  | idle => "idle"
  | potentiallyCircling => "potentially_circling"
  | circling => "circling"
  | recentlyStopped => "recently_stopped"

def name : Phase → String
  | idle => "Idle"
  | potentiallyCircling => "PotentiallyCircling"
  | circling => "Circling"
  | recentlyStopped => "RecentlyStopped"

def ofName? (name : String) : Option Phase := all.find? (fun p => p.name = name)

def rank : Phase → Nat
  | idle => 0
  | potentiallyCircling => 1
  | circling => 2
  | recentlyStopped => 3

instance : Ord Phase := ⟨fun a b => compare a.rank b.rank⟩

end Phase
end Thermals.Detection
