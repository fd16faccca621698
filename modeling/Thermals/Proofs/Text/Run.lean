namespace Thermals.Text

def OpensWith (kind : Char → Bool) (text : List Char) : Prop := text.head?.any kind = true

instance (kind : Char → Bool) (text : List Char) : Decidable (OpensWith kind text) :=
  inferInstanceAs (Decidable (_ = true))

theorem opensWith_iff {kind : Char → Bool} {text : List Char} :
    OpensWith kind text ↔ ∃ c rest, kind c = true ∧ text = c :: rest := by
  constructor
  · intro opens
    cases text with
    | nil => cases opens
    | cons c rest => exact ⟨c, rest, opens, rfl⟩
  · intro found
    obtain ⟨c, rest, is, rfl⟩ := found
    exact is

theorem OpensWith.ne_nil {kind : Char → Bool} {text : List Char} (opens : OpensWith kind text) :
    text ≠ [] := by
  obtain ⟨c, rest, -, rfl⟩ := opensWith_iff.mp opens
  exact List.cons_ne_nil c rest

def StopsRun (kind : Char → Bool) (rest : List Char) : Prop := ∀ c ∈ rest.head?, kind c = false

theorem stopsRun_nil (kind : Char → Bool) : StopsRun kind [] := by
  intro c member
  cases member

theorem stopsRun_cons {kind : Char → Bool} {c : Char} (other : kind c = false) (rest : List Char) :
    StopsRun kind (c :: rest) := by
  intro head same
  obtain rfl := Option.some.inj same
  exact other

variable {kind : Char → Bool} {run rest : List Char}

theorem takeWhile_run (all : ∀ c ∈ run, kind c = true) (stops : StopsRun kind rest) :
    (run ++ rest).takeWhile kind = run := by
  rw [List.takeWhile_append_of_pos all]
  cases rest with
  | nil => simp
  | cons c rest => simp [stops c rfl]

theorem dropWhile_run (all : ∀ c ∈ run, kind c = true) (stops : StopsRun kind rest) :
    (run ++ rest).dropWhile kind = rest := by
  rw [List.dropWhile_append_of_pos all]
  cases rest with
  | nil => rfl
  | cons c rest => simp [stops c rfl]

end Thermals.Text
