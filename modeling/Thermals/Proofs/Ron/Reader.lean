import Thermals.Proofs.Number.Digits
import Thermals.Proofs.Text.Run
import Thermals.Ron.Text

namespace Thermals.Ron.Reader

open Text Number

section Steps

variable {α β : Type} {reader : Reader α} {text rest : List Char} {a : α}

theorem bind_of_some (read : reader text = some (a, rest)) (next : α → Reader β) :
    (reader >>= next) text = next a rest := by
  change (reader text).bind (fun found => next found.1 found.2) = next a rest
  rw [read]
  rfl

theorem bind_of_none (failed : reader text = none) (next : α → Reader β) :
    (reader >>= next) text = none := by
  change (reader text).bind (fun found => next found.1 found.2) = none
  rw [failed]
  rfl

theorem bind_of_map {value : Option α} (read : reader text = value.map (·, rest))
    (next : α → Reader β) : (reader >>= next) text = value.bind fun a => next a rest := by
  cases value with
  | none => exact bind_of_none read next
  | some a => exact bind_of_some read next

theorem orElse_of_some {other : Reader α} (read : reader text = some (a, rest)) :
    (reader <|> other) text = some (a, rest) := by
  change (reader text <|> other text) = some (a, rest)
  rw [read]
  rfl

theorem orElse_of_none {other : Reader α} (failed : reader text = none) :
    (reader <|> other) text = other text := by
  change (reader text <|> other text) = other text
  rw [failed]
  rfl

theorem ensure_true (text : List Char) : ensure true text = some ((), text) := rfl

theorem chars_append (expected rest : List Char) :
    chars expected (expected ++ rest) = some ((), rest) := by
  simp [chars]

theorem accept_same (c : Char) (rest : List Char) : accept c (c :: rest) = some (true, rest) := by
  simp [accept]

theorem accept_other {c head : Char} (other : head ≠ c) (rest : List Char) :
    accept c (head :: rest) = some (false, head :: rest) := by
  simp [accept, other]

theorem run_eq {kind : Char → Bool} {found : List Char} (all : ∀ c ∈ found, kind c = true)
    (stops : StopsRun kind rest) : run kind (found ++ rest) = some (found, rest) := by
  rw [run, takeWhile_run all stops, dropWhile_run all stops]

theorem nonempty_eq {kind : Char → Bool} {found : List Char} (some : found ≠ [])
    (all : ∀ c ∈ found, kind c = true) (stops : StopsRun kind rest) :
    nonempty kind (found ++ rest) = .some (found, rest) := by
  rw [nonempty, bind_of_some (run_eq all stops)]
  cases found with
  | nil => exact absurd rfl some
  | cons c more => rfl

theorem skip_cons {c : Char} (uncommented : c ≠ '/') (rest : List Char) :
    skip .between (c :: rest) = if isSpace c then skip .between rest else some (c :: rest) := by
  rw [skip] <;> intros <;> contradiction

def isVisible (c : Char) : Bool := !isSpace c && c != '/'

theorem spaces_of_visible (visible : OpensWith isVisible text) : spaces text = some ((), text) := by
  obtain ⟨c, rest, seen, rfl⟩ := opensWith_iff.mp visible
  simp only [isVisible, Bool.and_eq_true, Bool.not_eq_true', bne_iff_ne] at seen
  rw [spaces, skip_cons seen.2, seen.1]
  rfl

theorem spaces_cons {c : Char} (space : isSpace c = true) (rest : List Char) :
    spaces (c :: rest) = spaces rest := by
  have uncommented : c ≠ '/' := by
    intro same
    rw [same] at space
    cases space
  rw [spaces, skip_cons uncommented, space]
  rfl

theorem ahead_cons (kind : Char → Bool) (c : Char) (rest : List Char) :
    ahead kind (c :: rest) = some (kind c, c :: rest) := by
  simp [ahead]

end Steps

def startsPlainName (c : Char) : Bool := startsName c && c != 'b' && c != 'r'

/-- A name that needs no mark: it starts no string, and no sign or point is in it. -/
structure IsPlainName (name : String) : Prop where
  starts : OpensWith startsPlainName name.toList
  continues : ∀ c ∈ name.toList, continuesName c = true

instance (name : String) : Decidable (IsPlainName name) :=
  decidable_of_iff
    (OpensWith startsPlainName name.toList ∧ name.toList.all continuesName = true)
    ⟨fun plain => ⟨plain.1, List.all_eq_true.mp plain.2⟩,
      fun plain => ⟨plain.starts, List.all_eq_true.mpr plain.continues⟩⟩

theorem opensWith_of_literalMark : ∀ mark ∈ literalMarks, OpensWith (!startsPlainName ·) mark := by
  decide +kernel

namespace IsPlainName

variable {word : String} (plain : IsPlainName word)

include plain

theorem split : ∃ c more, word.toList = c :: more ∧ startsName c = true ∧ c ≠ 'r' := by
  obtain ⟨c, more, start, split⟩ := opensWith_iff.mp plain.starts
  simp only [startsPlainName, Bool.and_eq_true, bne_iff_ne] at start
  exact ⟨c, more, split, start.1.1, start.2⟩

theorem no_literalMark (rest : List Char) :
    literalMarks.any (·.isPrefixOf (word.toList ++ rest)) = false := by
  obtain ⟨c, more, start, split⟩ := opensWith_iff.mp plain.starts
  rw [List.any_eq_false]
  intro mark listed found
  rw [split, List.cons_append] at found
  obtain ⟨left, whole⟩ := List.isPrefixOf_iff_prefix.mp found
  obtain ⟨d, tail, other, rfl⟩ := opensWith_iff.mp (opensWith_of_literalMark mark listed)
  obtain ⟨rfl, -⟩ := List.cons_eq_cons.mp whole
  rw [start] at other
  cases other

theorem plainName_append {rest : List Char} (stops : StopsRun inMarkedName rest) :
    plainName (word.toList ++ rest) = some (word.toList, rest) := by
  obtain ⟨c, more, split, starts, -⟩ := plain.split
  have stopsPlain : StopsRun continuesName rest := by
    intro c head
    have other := stops c head
    simp only [inMarkedName, Bool.or_eq_false_iff] at other
    exact other.2
  have startsAhead : ahead startsName (word.toList ++ rest) = some (true, word.toList ++ rest) := by
    rw [split, List.cons_append, ahead_cons, starts]
  have unmarkedBehind : ahead inMarkedName rest = some (false, rest) := by
    cases rest with
    | nil => rfl
    | cons c rest => rw [ahead_cons, stops c rfl]
  rw [plainName, bind_of_some startsAhead, bind_of_some (ensure_true _),
    bind_of_some (run_eq plain.continues stopsPlain), bind_of_some unmarkedBehind]
  rfl

theorem name_append {rest : List Char} (stops : StopsRun inMarkedName rest) :
    name (word.toList ++ rest) = some (word, rest) := by
  obtain ⟨c, more, split, -, notR⟩ := plain.split
  have unmarked : markedName (word.toList ++ rest) = none := by
    have failed : chars ['r', '#'] (word.toList ++ rest) = none := by
      simp [chars, split, Ne.symm notR]
    exact bind_of_none failed _
  have read := plain.plainName_append stops
  have got : (get : Reader (List Char)) (word.toList ++ rest) =
      some (word.toList ++ rest, word.toList ++ rest) := rfl
  rw [name, bind_of_some got, plain.no_literalMark, Bool.not_false, bind_of_some (ensure_true _),
    bind_of_some ((orElse_of_none unmarked).trans read), String.ofList_toList]
  rfl

end IsPlainName

theorem untilQuote_append (escape : Reader Char) {room : Nat} {found : List Char}
    (plain : ∀ c ∈ found, c ≠ '"' ∧ c ≠ '\\') (enough : found.length < room) (rest : List Char) :
    untilQuote escape room (found ++ '"' :: rest) = some (found, rest) := by
  induction found generalizing room with
  | nil =>
    obtain ⟨room, rfl⟩ := Nat.exists_eq_succ_of_ne_zero (Nat.ne_of_gt enough)
    rfl
  | cons c more ih =>
    obtain ⟨room, rfl⟩ := Nat.exists_eq_succ_of_ne_zero (Nat.ne_of_gt (Nat.zero_lt_of_lt enough))
    obtain ⟨noQuote, noEscape⟩ := plain c List.mem_cons_self
    have read : untilQuote escape room (more ++ '"' :: rest) = some (more, rest) :=
      ih (fun c member => plain c (List.mem_cons_of_mem _ member)) (Nat.lt_of_succ_lt_succ enough)
    have first : anyChar ((c :: more) ++ '"' :: rest) = some (c, more ++ '"' :: rest) := rfl
    rw [untilQuote, bind_of_some first]
    split
    · exact absurd rfl noQuote
    · exact absurd rfl noEscape
    · rw [bind_of_some read]
      rfl

theorem text_append {found : List Char} (plain : ∀ c ∈ found, c ≠ '"' ∧ c ≠ '\\')
    (rest : List Char) :
    text ('"' :: (found ++ '"' :: rest)) = some (String.ofList found, rest) := by
  have opened : char '"' ('"' :: (found ++ '"' :: rest)) = some ((), found ++ '"' :: rest) :=
    chars_append ['"'] _
  have got : (get : Reader (List Char)) (found ++ '"' :: rest) =
      some (found ++ '"' :: rest, found ++ '"' :: rest) := rfl
  have enough : found.length < (found ++ '"' :: rest).length := by simp
  have read : escapedText escape ('"' :: (found ++ '"' :: rest)) = some (found, rest) := by
    rw [escapedText, bind_of_some opened, bind_of_some got]
    exact untilQuote_append escape plain enough rest
  rw [text, bind_of_some (orElse_of_some read)]
  rfl

end Thermals.Ron.Reader
