import Thermals.Ron.Number

namespace Thermals.Ron.Reader

open Number

def hexDigits (count : Nat) : Reader Nat := fun text =>
  if (text.take count).length = count then
    (readHex 0 (text.take count)).map (·, text.drop count)
  else none

def followers? (lead : Nat) : Option Nat :=
  if 0xC2 ≤ lead ∧ lead ≤ 0xDF then some 1
  else if 0xE0 ≤ lead ∧ lead ≤ 0xEF then some 2
  else if 0xF0 ≤ lead ∧ lead ≤ 0xF4 then some 3
  else none

def ofBytes? (bytes : List Nat) : Option Char :=
  match (String.fromUTF8? ⟨(bytes.map UInt8.ofNat).toArray⟩).map String.toList with
  | some [c] => some c
  | _ => none

/-- The character whose first byte was read, with an escape for each of the others. -/
def characterOf (lead : Nat) : Reader Char := do
  if lead < 0x80 then return Char.ofNat lead
  let count ← lift (followers? lead)
  let rest ← (List.range count).mapM fun _ => do
    chars ['\\', 'x']
    hexDigits 2
  lift (ofBytes? (lead :: rest))

def codePoint : Reader Char := do
  char '\x7b'
  let digits ← run (fun c => (hexValue? c).isSome)
  ensure (!digits.isEmpty && digits.length ≤ 6)
  char '\x7d'
  let value ← lift (readHex 0 digits)
  if valid : value.isValidChar then return Char.ofNatAux value valid
  else failure

/-- What follows a backslash. A byte by its digits is `byte`'s to read on. -/
def escapeWith (byte : Nat → Reader Char) : Reader Char := do
  match ← anyChar with
  | '\'' => return '\''
  | '"' => return '"'
  | '\\' => return '\\'
  | 'n' => return '\n'
  | 'r' => return '\r'
  | 't' => return '\t'
  | '0' => return '\x00'
  | 'x' => byte (← hexDigits 2)
  | 'u' => codePoint
  | _ => failure

def escape : Reader Char := escapeWith characterOf

def byteEscape : Reader Char := escapeWith fun byte => pure (Char.ofNat byte)

def untilQuote (escape : Reader Char) : Nat → Reader (List Char)
  | 0 => failure
  | room + 1 => do
    match ← anyChar with
    | '"' => return []
    | '\\' =>
      if ← accept '\n' then
        let _ ← run isSpace
        untilQuote escape room
      else
        let c ← escape
        return c :: (← untilQuote escape room)
    | c => return c :: (← untilQuote escape room)

def escapedText (escape : Reader Char) : Reader (List Char) := do
  char '"'
  untilQuote escape (← get).length

def until? (close : List Char) : List Char → Option (List Char × List Char)
  | [] => none
  | c :: rest =>
    if close.isPrefixOf (c :: rest) then some ([], (c :: rest).drop close.length)
    else (until? close rest).map fun (found, rest) => (c :: found, rest)

/-- Between these marks, with any number of `#` on both sides, nothing is escaped. -/
def rawText : Reader (List Char) := do
  char 'r'
  let marks ← run (· == '#')
  char '"'
  until? ('"' :: marks)

def text : Reader String := do
  return String.ofList (← escapedText escape <|> rawText)

def bytes : Reader Unit := do
  char 'b'
  let _ ← escapedText byteEscape <|> rawText

def character (escape : Reader Char) (kind : Char → Bool) : Reader Unit := do
  char '\''
  let c ← anyChar
  let c ← if c = '\\' then escape else pure c
  ensure (kind c)
  char '\''

def byte : Reader Unit := do
  char 'b'
  character byteEscape fun c => c.toNat < 0x100

end Thermals.Ron.Reader
