import Mathlib.Data.List.Forall2
import Thermals.Config.Parser
import Thermals.Config.Printer
import Thermals.Proofs.Ron.Number
import Thermals.Proofs.Time.SpanText

namespace Thermals.Config

open Text Number Time Ron Ron.Reader

def entry (field : String × String) (rest : List Char) : List Char :=
  field.1.toList ++ ':' :: ' ' :: (field.2.toList ++ ',' :: rest)

def body (fields : List (String × String)) : List Char :=
  fields.flatMap (fun field => (line field).toList) ++ [')']

theorem body_cons (field : String × String) (rest : List (String × String)) :
    body (field :: rest) =
      ' ' :: ' ' :: ' ' :: ' ' :: entry field ('\n' :: body rest) := by
  have split : (line field).toList = ' ' :: ' ' :: ' ' :: ' ' :: entry field ['\n'] := by
    simp [line, entry, String.toList_append]
  rw [body, List.flatMap_cons, split]
  simp [entry, body]

theorem toList_text (c : Config) :
    c.text.toList = "ThermalDetectorConfig".toList ++ '(' :: '\n' :: body c.fields := by
  have whole : c.text =
      "ThermalDetectorConfig" ++ "(\n" ++ String.join (c.fields.map line) ++ ")" := rfl
  have closing : ")".toList = [')'] := by decide
  have opening : "(\n".toList = ['(', '\n'] := by decide
  simp only [whole, String.toList_append, String.toList_join, List.flatMap_map, closing, opening,
    List.append_assoc, body, List.cons_append, List.nil_append]

namespace Draft

def held? {α : Type} (held value : Option α) : Option (Option α) :=
  if held.isNone then value.map some else none

theorem once_eq {α : Type} (held : Option α) {value : Option α} {reader : Reader α}
    {text rest : List Char} (read : reader text = value.map (·, rest)) :
    once held reader text = (held? held value).map (·, rest) := by
  unfold once held?
  cases held with
  | some a => rfl
  | none =>
    apply (bind_of_some (ensure_true text) _).trans
    rw [bind_of_map read]
    cases value <;> rfl

/-- A line that is read as the change which `update` makes. -/
structure ReadsAs (field : String × String) (update : Draft → Option Draft) : Prop where
  plain : IsPlainName field.1
  opens : OpensWith (fun c => isVisible c && c != ')') field.1.toList
  valued : OpensWith isVisible field.2.toList
  assigns (d : Draft) (rest : List Char) :
    d.assign field.1 (field.2.toList ++ ',' :: rest) = (update d).map (·, ',' :: rest)

theorem ReadsAs.setting_eq {field : String × String} {update : Draft → Option Draft}
    (reads : ReadsAs field update) (d : Draft) (rest : List Char) :
    setting d (entry field rest) = (update d).map (·, ',' :: rest) := by
  obtain ⟨c, more, visible, split⟩ := opensWith_iff.mp reads.valued
  have named : name (entry field rest) = some (field.1, ':' :: ' ' :: (field.2.toList ++ ',' :: rest)) :=
    reads.plain.name_append (stopsRun_cons (by decide +kernel) _)
  have colon : spaces (':' :: ' ' :: (field.2.toList ++ ',' :: rest)) =
      some ((), ':' :: ' ' :: (field.2.toList ++ ',' :: rest)) := spaces_of_visible rfl
  have passed : char ':' (':' :: ' ' :: (field.2.toList ++ ',' :: rest)) =
      some ((), ' ' :: (field.2.toList ++ ',' :: rest)) := chars_append [':'] _
  have blank : spaces (' ' :: (field.2.toList ++ ',' :: rest)) =
      some ((), field.2.toList ++ ',' :: rest) := by
    rw [spaces_cons (by decide), split]
    exact spaces_of_visible visible
  rw [setting, bind_of_some named, bind_of_some colon, bind_of_some passed, bind_of_some blank]
  exact reads.assigns d rest

section Separated

variable {α : Type} {thing : α → Reader α} {a next : α} {text after opened : List Char} {close : Char}

theorem separatedBy_close (room : Nat) (a : α) (rest : List Char) :
    separatedBy close thing (room + 1) a (close :: rest) = some (a, rest) := by
  rw [separatedBy, bind_of_some (accept_same close rest)]
  rfl

theorem separatedBy_next (room : Nat) (going : accept close text = some (false, text))
    (read : thing a text = some (next, ',' :: after)) (passed : spaces after = some ((), opened)) :
    separatedBy close thing (room + 1) a text = separatedBy close thing room next opened := by
  have comma : spaces (',' :: after) = some ((), ',' :: after) := spaces_of_visible rfl
  rw [separatedBy, bind_of_some going]
  simp only [Bool.false_eq_true, if_false]
  rw [bind_of_some read, bind_of_some comma, bind_of_some (accept_same ',' after)]
  simp only [if_true]
  exact bind_of_some passed _

theorem separatedBy_failed (room : Nat) (going : accept close text = some (false, text))
    (failed : thing a text = none) : separatedBy close thing (room + 1) a text = none := by
  rw [separatedBy, bind_of_some going]
  simp only [Bool.false_eq_true, if_false]
  exact bind_of_none failed _

end Separated

theorem length_lt_body (fields : List (String × String)) : fields.length < (body fields).length := by
  induction fields with
  | nil => simp [body]
  | cons field rest ih =>
    rw [body_cons]
    simp only [entry, List.length_cons, List.length_append]
    omega

def changed (updates : List (Draft → Option Draft)) (d : Draft) : Option Draft :=
  updates.foldlM (fun d (update : Draft → Option Draft) => update d) d

theorem changed_cons (update : Draft → Option Draft) (updates : List (Draft → Option Draft))
    (d : Draft) : changed (update :: updates) d = (update d).bind (changed updates) := rfl

theorem separatedBy_body {fields : List (String × String)} {updates : List (Draft → Option Draft)}
    (reads : List.Forall₂ ReadsAs fields updates) :
    ∃ opened, spaces (body fields) = some ((), opened) ∧ fields.length < opened.length ∧
      ∀ room, fields.length < room → ∀ d, separatedBy ')' setting room d opened =
        (changed updates d).map (·, []) := by
  induction reads with
  | nil =>
    refine ⟨[')'], spaces_of_visible rfl, by simp, ?_⟩
    intro room enough d
    obtain ⟨room, rfl⟩ := Nat.exists_eq_succ_of_ne_zero (Nat.ne_of_gt enough)
    exact separatedBy_close room d []
  | @cons field update fields updates first _ ih =>
    obtain ⟨after, passed, -, rest⟩ := ih
    obtain ⟨c, more, opens, split⟩ := opensWith_iff.mp first.opens
    obtain ⟨visible, unclosed⟩ := Bool.and_eq_true_iff.mp opens
    have start : entry field ('\n' :: body fields) =
        c :: (more ++ ':' :: ' ' :: (field.2.toList ++ ',' :: '\n' :: body fields)) := by
      rw [entry, split, List.cons_append]
    refine ⟨entry field ('\n' :: body fields), ?_, ?_, ?_⟩
    · rw [body_cons]
      repeat rw [spaces_cons (by decide)]
      rw [start]
      exact spaces_of_visible visible
    · have longer := length_lt_body fields
      simp only [entry, List.length_cons, List.length_append]
      omega
    · intro room enough d
      obtain ⟨room, rfl⟩ := Nat.exists_eq_succ_of_ne_zero (Nat.ne_of_gt (Nat.zero_lt_of_lt enough))
      have going : accept ')' (entry field ('\n' :: body fields)) =
          some (false, entry field ('\n' :: body fields)) := by
        rw [start]
        exact accept_other (bne_iff_ne.mp unclosed) _
      have read := first.setting_eq d ('\n' :: body fields)
      cases updated : update d with
      | none =>
        rw [updated] at read
        rw [separatedBy_failed room going read, changed_cons, updated]
        rfl
      | some next =>
        rw [updated] at read
        have broken : spaces ('\n' :: body fields) = some ((), after) := by
          rw [spaces_cons (by decide), passed]
        rw [separatedBy_next room going read broken, rest room (Nat.lt_of_succ_lt_succ enough),
          changed_cons, updated]
        rfl

theorem headers_unmarked {c : Char} (unmarked : c ≠ '#') (room : Nat) (rest : List Char) :
    headers (room + 1) [] (c :: rest) = some ([], c :: rest) := by
  have none : ahead (· == '#') (c :: rest) = some (false, c :: rest) := by
    rw [ahead_cons, beq_false_of_ne unmarked]
  rw [headers, bind_of_some none]
  rfl

theorem title_append (rest : List Char) :
    title false ("ThermalDetectorConfig".toList ++ '(' :: rest) = some ((), '(' :: rest) := by
  have plain : IsPlainName "ThermalDetectorConfig" := by decide +kernel
  obtain ⟨c, more, split, starts, -⟩ := plain.split
  have named : ahead startsName ("ThermalDetectorConfig".toList ++ '(' :: rest) =
      some (true, "ThermalDetectorConfig".toList ++ '(' :: rest) := by
    rw [split, List.cons_append, ahead_cons, starts]
  rw [title, bind_of_some named]
  exact bind_of_some (plain.name_append (stopsRun_cons (by decide +kernel) _)) _

theorem read_text {c : Config} {updates : List (Draft → Option Draft)}
    (reads : List.Forall₂ ReadsAs c.fields updates) : Draft.read.all? c.text = changed updates {} := by
  obtain ⟨rest, text⟩ : ∃ rest, c.text.toList = 'T' :: rest := ⟨_, toList_text c⟩
  have start : spaces c.text.toList = some ((), c.text.toList) := by
    rw [text]
    exact spaces_of_visible rfl
  have got : (get : Reader (List Char)) c.text.toList = some (c.text.toList, c.text.toList) := rfl
  have headed : headers c.text.toList.length [] c.text.toList = some ([], c.text.toList) := by
    rw [text, List.length_cons]
    exact headers_unmarked (by decide) _ rest
  have titled : title false c.text.toList = some ((), '(' :: '\n' :: body c.fields) := by
    rw [toList_text]
    exact title_append _
  have between : spaces ('(' :: '\n' :: body c.fields) = some ((), '(' :: '\n' :: body c.fields) :=
    spaces_of_visible rfl
  have passed : char '(' ('(' :: '\n' :: body c.fields) = some ((), '\n' :: body c.fields) :=
    chars_append ['('] _
  obtain ⟨opened, blank, long, settings⟩ := separatedBy_body reads
  have broken : spaces ('\n' :: body c.fields) = some ((), opened) := by
    rw [spaces_cons (by decide), blank]
  have read : separated ')' setting {} opened = (changed updates {}).map (·, []) :=
    settings _ (Nat.lt_succ_of_lt long) {}
  have all : Draft.read c.text.toList = (changed updates {}).map (·, []) := by
    rw [Draft.read, bind_of_some start, bind_of_some got, bind_of_some headed, List.contains_nil,
      bind_of_some titled, bind_of_some between, bind_of_some passed, bind_of_some broken,
      bind_of_map read]
    cases changed updates {} <;> rfl
  rw [all?, all]
  cases changed updates {} <;> rfl

theorem map_once {α : Type} {held value : Option α} {reader : Reader α} {text rest : List Char}
    (read : reader text = value.map (·, rest)) (set : Option α → Draft) :
    (do return set (← once held reader) : Reader Draft) text =
      ((held? held value).map set).map (·, rest) := by
  rw [bind_of_map (once_eq held read)]
  cases held? held value <;> rfl

theorem isVisible_of_isDigit {c : Char} (digit : c.isDigit = true) : isVisible c = true := by
  have bounds := isDigit_bounds digit
  have uncommented : c ≠ '/' := ne_of_isDigit digit rfl
  simp [isVisible, isSpace, uncommented]
  omega

theorem visible_of_isMagnitude {text : List Char} (magnitude : IsMagnitude text) :
    OpensWith isVisible text := by
  obtain ⟨c, rest, digit, rfl⟩ := opensWith_iff.mp magnitude.starts
  exact isVisible_of_isDigit digit

theorem isDecimalChar_whole : ∀ c ∈ numberStyle.whole.toList, isDecimalChar c = true :=
  List.all_eq_true.mp (by decide +kernel)

theorem isDecimalChar_plus : ∀ c ∈ numberStyle.plus.toList, isDecimalChar c = true :=
  List.all_eq_true.mp (by decide +kernel)

theorem float_write {x : Float} {negative : Bool} {units : Nat}
    (exact : Exact.ofFloat x = .finite negative units)
    (restored : float? (numberStyle.write x).toList = some x) (rest : List Char) :
    float ["f64"] ((numberStyle.write x).toList ++ ',' :: rest) = some (x, ',' :: rest) := by
  obtain ⟨text, magnitude, signed⟩ := numberStyle.toList_write isDecimalChar_whole isDecimalChar_plus exact
  exact float_eq _ magnitude signed restored (stopsRun_cons (by decide) _)
    (stopsRun_cons (by decide +kernel) _)

theorem visible_write {x : Float} {negative : Bool} {units : Nat}
    (exact : Exact.ofFloat x = .finite negative units) :
    OpensWith isVisible (numberStyle.write x).toList := by
  obtain ⟨text, magnitude, signed⟩ := numberStyle.toList_write isDecimalChar_whole isDecimalChar_plus exact
  rcases signed with written | written <;> rw [written]
  · exact visible_of_isMagnitude magnitude
  · rfl

theorem toList_quote (text : String) : (quote text).toList = '"' :: (text.toList ++ ['"']) := by
  simp [quote, String.toList_append]

theorem visible_quote (text : String) :
    OpensWith isVisible (quote text).toList := by
  rw [toList_quote]
  rfl

theorem span_quote (d : Span) (rest : List Char) :
    span ((quote d.text).toList ++ ',' :: rest) =
      (Span.parse d.text).toOption.map (·, ',' :: rest) := by
  have read := text_append d.unquoted_text (',' :: rest)
  rw [String.ofList_toList] at read
  have split : (quote d.text).toList ++ ',' :: rest =
      '"' :: (d.text.toList ++ '"' :: ',' :: rest) := by
    rw [toList_quote, List.cons_append, List.append_assoc]
    rfl
  rw [span, split]
  exact bind_of_some read _

def updates (c : Config) : List (Draft → Option Draft) := [
  fun d => (held? d.minTurnRate (some c.minTurnRate)).map fun a => { d with minTurnRate := a },
  fun d => (held? d.maxDiameter (some c.maxDiameter)).map fun a => { d with maxDiameter := a },
  fun d => (held? d.minCirclingDuration (Span.parse c.minCirclingDuration.text).toOption).map
    fun a => { d with minCirclingDuration := a },
  fun d => (held? d.maxRecentlyStoppedAge (Span.parse c.maxRecentlyStoppedAge.text).toOption).map
    fun a => { d with maxRecentlyStoppedAge := a },
  fun d => (held? d.positionHistorySize (some c.positionHistorySize)).map
    fun a => { d with positionHistorySize := a }]

theorem readsAs_of_once {α : Type} {key value : String} {reader : Reader α} {read : Option α}
    {held : Draft → Option α} {set : Draft → Option α → Draft} (plain : IsPlainName key)
    (opens : OpensWith (fun c => isVisible c && c != ')') key.toList)
    (valued : OpensWith isVisible value.toList)
    (assigned : ∀ d : Draft, d.assign key = do return set d (← once (held d) reader))
    (reads : ∀ rest, reader (value.toList ++ ',' :: rest) = read.map (·, ',' :: rest)) :
    ReadsAs (key, value) fun d => (held? (held d) read).map (set d) := by
  refine ⟨plain, opens, valued, ?_⟩
  intro d rest
  rw [assigned]
  exact map_once (reads rest) (set d)

theorem readsAs_fields {c : Config} {rateNegative diameterNegative : Bool} {rate diameter : Nat}
    (exactRate : Exact.ofFloat c.minTurnRate = .finite rateNegative rate)
    (exactDiameter : Exact.ofFloat c.maxDiameter = .finite diameterNegative diameter)
    (rateRestored : float? (numberStyle.write c.minTurnRate).toList = some c.minTurnRate)
    (diameterRestored : float? (numberStyle.write c.maxDiameter).toList = some c.maxDiameter)
    (size : c.positionHistorySize < 2 ^ 64) : List.Forall₂ ReadsAs c.fields (updates c) := by
  have sized := visible_of_isMagnitude (isNumeral_toString c.positionHistorySize).isMagnitude
  refine .cons ?_ (.cons ?_ (.cons ?_ (.cons ?_ (.cons ?_ .nil))))
  · exact readsAs_of_once (by decide +kernel) (by decide +kernel) (visible_write exactRate)
      (fun _ => rfl) (float_write exactRate rateRestored)
  · exact readsAs_of_once (by decide +kernel) (by decide +kernel) (visible_write exactDiameter)
      (fun _ => rfl) (float_write exactDiameter diameterRestored)
  · exact readsAs_of_once (by decide +kernel) (by decide +kernel) (visible_quote _) (fun _ => rfl)
      (span_quote c.minCirclingDuration)
  · exact readsAs_of_once (by decide +kernel) (by decide +kernel) (visible_quote _) (fun _ => rfl)
      (span_quote c.maxRecentlyStoppedAge)
  · refine readsAs_of_once (by decide +kernel) (by decide +kernel) sized (fun _ => rfl) ?_
    intro rest
    exact unsigned64_toString size (stopsRun_cons (by decide +kernel) _)
      (stopsRun_cons (by decide) _)

end Draft

open Draft

theorem parse?_text {c : Config} (reads : List.Forall₂ ReadsAs c.fields (updates c)) :
    Config.parse? c.text =
      if c.minCirclingDuration.InMicroseconds ∨ c.maxRecentlyStoppedAge.InMicroseconds then none
      else some c := by
  rw [Config.parse?, read_text reads, updates, Span.parse_text, Span.parse_text]
  by_cases duration : c.minCirclingDuration.InMicroseconds
  · rw [if_pos duration, if_pos (Or.inl duration)]
    rfl
  by_cases age : c.maxRecentlyStoppedAge.InMicroseconds
  · rw [if_neg duration, if_pos age, if_pos (Or.inr age)]
    rfl
  · rw [if_neg duration, if_neg age, if_neg (not_or.mpr ⟨duration, age⟩)]
    rfl

end Thermals.Config
