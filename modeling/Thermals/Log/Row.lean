import Thermals.Text.Blank

namespace Thermals.Log

abbrev Row : Type := List (List UInt8)

inductive Place where
  | startOfRow
  | startOfField
  | plain
  | quoted
  | closing
  | comment
  deriving DecidableEq, Repr

def comma : UInt8 := 0x2C

def quote : UInt8 := 0x22

def hash : UInt8 := 0x23

def lineFeed : UInt8 := 0x0A

def isBreak (byte : UInt8) : Bool := byte == lineFeed || byte == 0x0D

/-- The field, the fields of the row and the rows that were scanned so far, each latest first. Lines that
start with `#` are comments, and empty lines are no rows. What follows the closing quote of a field is
still part of it. -/
structure Scanner where
  place : Place
  field : List UInt8
  fields : List (List UInt8)
  rows : List Row
  deriving DecidableEq, Repr

namespace Scanner

def start : Scanner := ⟨.startOfRow, [], [], []⟩

def push (s : Scanner) (place : Place) (byte : UInt8) : Scanner :=
  { s with place, field := byte :: s.field }

def endField (s : Scanner) : Scanner :=
  { s with place := .startOfField, field := [], fields := s.field.reverse :: s.fields }

def endRow (s : Scanner) : Scanner :=
  let s := s.endField
  { s with place := .startOfRow, fields := [], rows := s.fields.reverse :: s.rows }

def plainByte (s : Scanner) (byte : UInt8) : Scanner :=
  if byte = comma then s.endField
  else if isBreak byte then s.endRow
  else s.push .plain byte

def firstByte (s : Scanner) (byte : UInt8) : Scanner :=
  if byte = quote then { s with place := .quoted } else s.plainByte byte

def step (s : Scanner) (byte : UInt8) : Scanner :=
  match s.place with
  | .startOfRow =>
    if isBreak byte then s
    else if byte = hash then { s with place := .comment }
    else s.firstByte byte
  | .startOfField => s.firstByte byte
  | .plain => s.plainByte byte
  | .quoted => if byte = quote then { s with place := .closing } else s.push .quoted byte
  | .closing => if byte = quote then s.push .quoted byte else s.plainByte byte
  | .comment => if byte = lineFeed then { s with place := .startOfRow } else s

def finish (s : Scanner) : List Row :=
  match s.place with
  | .startOfRow | .comment => s.rows.reverse
  | _ => s.endRow.rows.reverse

end Scanner

def withoutMark : List UInt8 → List UInt8
  | 0xEF :: 0xBB :: 0xBF :: rest => rest
  | text => text

def rows (text : List UInt8) : List Row :=
  ((withoutMark text).foldl Scanner.step Scanner.start).finish

def Row.texts? (row : Row) : Option (List String) :=
  row.mapM fun field =>
    (String.fromUTF8? ⟨field.toArray⟩).map fun text => String.ofList (Text.trim text.toList)

end Thermals.Log
