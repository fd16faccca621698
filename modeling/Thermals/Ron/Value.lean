import Thermals.Ron.Text

namespace Thermals.Ron.Reader

/-- What has no other values in it. The words cannot be names of anything else. -/
def plainValue : Reader Unit :=
  word "true" <|> word "false" <|> word "None" <|> chars ['(', ')'] <|>
    (do let _ ← special ["f32", "f64"]) <|> byte <|> bytes <|> (do let _ ← text) <|>
    character escape (fun _ => true) <|> number

/-- The name of a structure or a variant, which `Some` is not. -/
def valueName : Reader Unit := do
  ensure !(← lookahead (word "Some"))
  let _ ← name

def field (value : Reader Unit) : Reader Unit := do
  let _ ← name
  spaces
  char ':'
  spaces
  value

def fieldAhead : Reader Bool := lookahead (field (pure ()))

def separatedValues (close : Char) (value : Reader Unit) : Reader Unit := do
  spaces
  separated close (fun _ => value) ()

def parenthesized (value : Reader Unit) : Reader Unit := do
  spaces
  if ← fieldAhead then separatedValues ')' (field value) else separatedValues ')' value

def entry (value : Reader Unit) : Reader Unit := do
  value
  spaces
  char ':'
  spaces
  value

def compound (value : Reader Unit) : Reader Unit :=
  (do char '['; separatedValues ']' value) <|>
  (do char '\x7b'; separatedValues '\x7d' (entry value)) <|>
  (do char '('; parenthesized value) <|>
  (do
    valueName
    spaces
    if ← accept '(' then parenthesized value)

def present (value : Reader Unit) : Reader Unit := do
  word "Some"
  spaces
  char '('
  spaces
  value
  spaces
  let _ ← accept ','
  spaces
  char ')'

/-- Each value takes from a store of nesting: one for being made of others, and one more for each of
those. -/
def anyValue : Nat → Reader Unit
  | 0 => plainValue <|> valueName
  | 1 => plainValue <|> present (anyValue 0) <|> compound failure
  | store + 2 => plainValue <|> present (anyValue (store + 1)) <|> compound (anyValue store)

end Thermals.Ron.Reader
