import Thermals.Ron.Reader
import Thermals.Text.Kinds

namespace Thermals.Ron

open Text

def startsName (c : Char) : Bool := c == '_' || isLetter c

def continuesName (c : Char) : Bool := isWord c && !isJoinControl c

def inMarkedName (c : Char) : Bool := c == '.' || c == '+' || c == '-' || continuesName c

/-- The beginnings of strings and bytes that look like names. -/
def literalMarks : List (List Char) :=
  ["b\"".toList, "b'".toList, "br#".toList, "br\"".toList, "r\"".toList, "r#\"".toList,
    "r##".toList]

namespace Reader

def nonempty (kind : Char → Bool) : Reader (List Char) := do
  let found ← run kind
  ensure !found.isEmpty
  return found

def markedName : Reader (List Char) := do
  chars ['r', '#']
  nonempty inMarkedName

def plainName : Reader (List Char) := do
  ensure (← ahead startsName)
  let found ← run continuesName
  ensure !(← ahead inMarkedName)
  return found

def name : Reader String := do
  let text ← get
  ensure !(literalMarks.any (·.isPrefixOf text))
  return String.ofList (← markedName <|> plainName)

def word (word : String) : Reader Unit := do
  chars word.toList
  ensure !(← ahead continuesName)

end Reader
end Thermals.Ron
