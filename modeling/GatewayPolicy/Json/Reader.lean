import GatewayPolicy.Json.Number
import GatewayPolicy.Text.Escape
/-!
# Reading JSON

One JSON value per text, with white space around it and nothing else. Arrays and
objects nest 127 deep at most; a name that is written twice keeps its last value.
Each reader answers the value at the start of a text and what follows it.
-/

namespace GatewayPolicy.Json

/-- The characters between tokens. -/
def isSpace (c : Char) : Bool := c == ' ' || c == '\n' || c == '\t' || c == '\r'

/-- What follows the white space that a text starts with. -/
def skipSpace (cs : List Char) : List Char := cs.dropWhile isSpace

/-! ## Scalars -/

/-- Reads a word. -/
def readWord (word : String) (v : Json) (cs : List Char) : Option (Json × List Char) :=
  if word.toList.isPrefixOf cs then some (v, cs.drop word.length) else none

/-- The fraction of a number: none, or a point and at least one digit. -/
def readFraction : List Char → Option (List Char × List Char)
  | '.' :: r =>
    let ds := r.takeWhile Char.isDigit
    if ds.isEmpty then none else some (ds, r.dropWhile Char.isDigit)
  | r => some ([], r)

/-- The exponent of a number: none, or `e`, a sign if any, and at least one digit. -/
def readExponent : List Char → Option (Option Int × List Char)
  | [] => some (none, [])
  | c :: r =>
    if c == 'e' || c == 'E' then
      let (negative, r) := Text.Decimal.sign r
      let ds := r.takeWhile Char.isDigit
      let n : Int := Text.digitsValue ds
      if ds.isEmpty then none else some (some (if negative then -n else n), r.dropWhile Char.isDigit)
    else some (none, c :: r)

/-- The whole part of a number: one digit, or more of which the first is not zero. -/
def readWhole (cs : List Char) : Option (List Char × List Char) :=
  match cs.takeWhile Char.isDigit with
  | [] => none
  | '0' :: _ :: _ => none
  | ds => some (ds, cs.dropWhile Char.isDigit)

/-- Reads a number. -/
def readNumber (cs : List Char) : Option (Json × List Char) := do
  let (negative, r) := match cs with
    | '-' :: r => (true, r)
    | r => (false, r)
  let (whole, r) ← readWhole r
  let (fraction, r) ← readFraction r
  let (exponent, r) ← readExponent r
  return (← ofNumber? negative whole fraction exponent, r)

/-- The character that a backslash and one letter stand for in a string. -/
def shortEscape : Char → Option Char
  | '"' => some '"'
  | '\\' => some '\\'
  | '/' => some '/'
  | 'b' => some '\x08'
  | 'f' => some '\x0c'
  | 'n' => some '\n'
  | 'r' => some '\r'
  | 't' => some '\t'
  | _ => none

/-- Whether a code unit starts a pair. -/
def isHighSurrogate (n : Nat) : Bool := 0xD800 ≤ n && n ≤ 0xDBFF

/-- The character of a pair of code units. -/
def pairChar? (high low : Nat) : Option Char :=
  if isHighSurrogate high && (0xDC00 ≤ low && low ≤ 0xDFFF) then
    Text.charOfNat? (0x10000 + (high - 0xD800) * 0x400 + (low - 0xDC00))
  else none

/-- Reads a string after its opening quote; `done` holds what was read, last character first. -/
def readString (done : List Char) : List Char → Option (String × List Char)
  | [] => none
  | '"' :: r => some (String.ofList done.reverse, r)
  | '\\' :: 'u' :: a :: b :: c :: d :: '\\' :: 'u' :: e :: f :: g :: h :: r => do
    let n ← Text.radixValue? 16 [a, b, c, d]
    if isHighSurrogate n then
      let x ← pairChar? n (← Text.radixValue? 16 [e, f, g, h])
      readString (x :: done) r
    else
      let x ← Text.charOfNat? n
      readString (x :: done) ('\\' :: 'u' :: e :: f :: g :: h :: r)
  | '\\' :: 'u' :: a :: b :: c :: d :: r => do
    let x ← Text.charOfNat? (← Text.radixValue? 16 [a, b, c, d])
    readString (x :: done) r
  | '\\' :: e :: r => do
    let x ← shortEscape e
    readString (x :: done) r
  | c :: r => if c.toNat < 0x20 || c == '\\' then none else readString (c :: done) r

/-! ## Arrays and objects -/

/-- Reads items up to a closing bracket, with a comma between two of them. There are fewer of
them than `bound`. -/
def readItems {α : Type} (item : List Char → Option (α × List Char)) (close : Char) :
    Nat → List Char → Option (List α × List Char)
  | 0, _ => none
  | bound + 1, cs => do
    let (a, r) ← item cs
    match skipSpace r with
    | ',' :: r =>
      let (as, r) ← readItems item close bound r
      return (a :: as, r)
    | c :: r => if c = close then some ([a], r) else none
    | [] => none

/-- Reads what stands in brackets after the opening one. -/
def readBracket {α : Type} (item : List Char → Option (α × List Char)) (close : Char) (cs : List Char) :
    Option (List α × List Char) :=
  match skipSpace cs with
  | c :: r => if c = close then some ([], r) else readItems item close (cs.length + 1) cs
  | [] => none

/-- Reads a member of an object whose values `value` reads. -/
def readMember (value : List Char → Option (Json × List Char)) (cs : List Char) :
    Option ((String × Json) × List Char) :=
  match skipSpace cs with
  | '"' :: r => do
    let (name, r) ← readString [] r
    match skipSpace r with
    | ':' :: r =>
      let (v, r) ← value r
      return ((name, v), r)
    | _ => none
  | _ => none

/-- The number of brackets that may be open at once. -/
def maxDepth : Nat := 127

/-- Reads a value in which at most `depth` brackets are open at once. -/
def readValue : (depth : Nat) → List Char → Option (Json × List Char)
  | depth, cs =>
    match skipSpace cs with
    | 'n' :: r => readWord "null" null ('n' :: r)
    | 't' :: r => readWord "true" (bool true) ('t' :: r)
    | 'f' :: r => readWord "false" (bool false) ('f' :: r)
    | '"' :: r => (readString [] r).map fun (s, r) => (string s, r)
    | '[' :: r =>
      match depth with
      | 0 => none
      | depth + 1 => (readBracket (readValue depth) ']' r).map fun (vs, r) => (array vs, r)
    | '\x7b' :: r =>
      match depth with
      | 0 => none
      | depth + 1 => (readBracket (readMember (readValue depth)) '\x7d' r).map fun (ms, r) => (ofMembers ms, r)
    | r => readNumber r

/-- The value that a text holds, if it is JSON in which at most `depth` brackets are open at once. -/
def readWithin? (depth : Nat) (s : String) : Option Json :=
  match readValue depth s.toList with
  | some (v, r) => if (skipSpace r).isEmpty then some v else none
  | none => none

/-- The value that a text holds, if it is JSON. -/
def read? (s : String) : Option Json := readWithin? maxDepth s

end GatewayPolicy.Json
