namespace Thermals.Ron

abbrev Reader : Type → Type := StateT (List Char) Option

def isSpace (c : Char) : Bool :=
  let n := c.toNat
  (9 ≤ n && n ≤ 13) || n == 0x20 || n == 0x85 || n == 0x200E || n == 0x200F || n == 0x2028 ||
    n == 0x2029

/-- Where a text is read: between things, in a comment up to the end of the line, or in a comment
with so many others around it. -/
inductive Place where
  | between
  | line
  | block (outer : Nat)
  deriving DecidableEq, Repr

/-- What follows the spaces and comments at the front. A comment between marks has to end. -/
def skip : Place → List Char → Option (List Char)
  | .between, '/' :: '/' :: rest => skip .line rest
  | .between, '/' :: '*' :: rest => skip (.block 0) rest
  | .between, '/' :: _ => none
  | .between, c :: rest => if isSpace c then skip .between rest else some (c :: rest)
  | .between, [] => some []
  | .line, '\n' :: rest => skip .between rest
  | .line, _ :: rest => skip .line rest
  | .line, [] => some []
  | .block outer, '/' :: '*' :: rest => skip (.block (outer + 1)) rest
  | .block 0, '*' :: '/' :: rest => skip .between rest
  | .block (outer + 1), '*' :: '/' :: rest => skip (.block outer) rest
  | .block outer, _ :: rest => skip (.block outer) rest
  | .block _, [] => none

namespace Reader

def spaces : Reader Unit := fun text => (skip .between text).map ((), ·)

def chars (expected : List Char) : Reader Unit := fun text =>
  if expected.isPrefixOf text then some ((), text.drop expected.length) else none

def char (c : Char) : Reader Unit := chars [c]

def accept (c : Char) : Reader Bool := fun text =>
  match text with
  | head :: rest => if head = c then some (true, rest) else some (false, text)
  | [] => some (false, [])

def run (kind : Char → Bool) : Reader (List Char) := fun text =>
  some (text.takeWhile kind, text.dropWhile kind)

def ahead (kind : Char → Bool) : Reader Bool := fun text => some ((text.take 1).any kind, text)

def lookahead {α : Type} (reader : Reader α) : Reader Bool := fun text =>
  some ((reader text).isSome, text)

def ensure (condition : Bool) : Reader Unit := if condition then pure () else failure

def anyChar : Reader Char := fun text =>
  match text with
  | c :: rest => some (c, rest)
  | [] => none

/-- Things with commas between them, up to `close`. A comma can stand behind the last one, too. -/
def separatedBy {α : Type} (close : Char) (thing : α → Reader α) : Nat → α → Reader α
  | 0, _ => failure
  | room + 1, gathered => do
    if ← accept close then return gathered
    let gathered ← thing gathered
    spaces
    if ← accept ',' then
      spaces
      separatedBy close thing room gathered
    else
      char close
      return gathered

def separated {α : Type} (close : Char) (thing : α → Reader α) (start : α) : Reader α := fun text =>
  separatedBy close thing (text.length + 1) start text

def all? {α : Type} (reader : Reader α) (text : String) : Option α :=
  match reader text.toList with
  | some (a, []) => some a
  | _ => none

end Reader
end Thermals.Ron
