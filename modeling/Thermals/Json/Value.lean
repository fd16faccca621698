import Thermals.Json.Escape
import Thermals.Number.Style

namespace Thermals.Json

open Number

/-- Numbers and strings are kept as they are written. -/
inductive Value where
  | null
  | bool (b : Bool)
  | number (text : String)
  /-- What stands between the quotes. -/
  | string (written : List Char)
  | array (items : List Value)
  | object (fields : List (List Char × Value))

/-- Numbers in JSON have a point or an exponent. What is not finite has no text there. -/
def numberStyle : Style where
  positional leading := -5 ≤ leading ∧ leading < 16
  whole := ".0"
  plus := "+"
  nan := "null"
  infinite _ := "null"

def quote (written : List Char) : String := String.ofList ('"' :: written ++ ['"'])

namespace Value

def ofString (text : String) : Value := string (escaped text)

def ofInt (n : Int) : Value := number (toString n)

def ofNat (n : Nat) : Value := number (toString n)

def ofFloat (x : Float) : Value := number (numberStyle.write x)

def record (fields : List (String × Value)) : Value :=
  object (fields.map fun (key, value) => (escaped key, value))

mutual

def text : Value → String
  | null => "null"
  | bool b => if b then "true" else "false"
  | number text => text
  | string written => quote written
  | array items => "[" ++ itemsText items ++ "]"
  | object fields => "\x7b" ++ fieldsText fields ++ "\x7d"

def itemsText : List Value → String
  | [] => ""
  | [value] => value.text
  | value :: rest => value.text ++ "," ++ itemsText rest

def fieldsText : List (List Char × Value) → String
  | [] => ""
  | [(key, value)] => quote key ++ ":" ++ value.text
  | (key, value) :: rest => quote key ++ ":" ++ value.text ++ "," ++ fieldsText rest

end

end Value
end Thermals.Json
