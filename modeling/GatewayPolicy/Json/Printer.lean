import GatewayPolicy.Json.Value
import GatewayPolicy.Text.Shortest
/-!
# Writing JSON

The compact text of a value, on one line whatever the strings hold.
-/

namespace GatewayPolicy.Json

/-- The code unit escape of a character below U+10000. -/
def codeUnit (c : Char) : List Char :=
  let ds := Nat.toDigits 16 c.toNat
  '\\' :: 'u' :: (List.replicate (4 - ds.length) '0' ++ ds)

/-- Whether a reader of lines may take a character for the end of a line. -/
def endsLine (c : Char) : Bool := c == '\x85' || c == '\u2028' || c == '\u2029'

/-- How one character is written in a string. -/
def printChar (c : Char) : List Char :=
  if c = '"' then ['\\', '"']
  else if c = '\\' then ['\\', '\\']
  else if c.toNat < 0x20 || endsLine c then codeUnit c
  else [c]

/-- A string with its quotes. -/
def printString (s : String) : String := String.ofList ('"' :: (s.toList.flatMap printChar ++ ['"']))

mutual

/-- The text of a value. -/
def print : Json → String
  | null => "null"
  | bool true => "true"
  | bool false => "false"
  | int i => toString i
  | float x => Text.floatText x
  | string s => printString s
  | array items => "[" ++ String.intercalate "," (printItems items) ++ "]"
  | object members => "\x7b" ++ String.intercalate "," (printMembers members) ++ "\x7d"

/-- The texts of the items of an array. -/
def printItems : List Json → List String
  | [] => []
  | v :: vs => print v :: printItems vs

/-- The texts of the members of an object. -/
def printMembers : List (String × Json) → List String
  | [] => []
  | (name, v) :: ms => (printString name ++ ":" ++ print v) :: printMembers ms

end

end GatewayPolicy.Json
