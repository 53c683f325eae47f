/-!
# Decimal numerals

How numbers are spelled. `Decimal.read?` reads a signed decimal numeral with an
optional fraction and exponent into its exact value; `isReal` adds the words for
infinity and for the value that is no number; `readCount` and `readHex` read the
unsigned whole numbers of 32 bits and of four hexadecimal digits.
-/

namespace GatewayPolicy.Text

/-- The value of a decimal digit. -/
def digitValue (c : Char) : Nat := c.toNat - '0'.toNat

/-- The number that a list of decimal digits stands for. -/
def digitsValue (cs : List Char) : Nat := cs.foldl (fun n c => 10 * n + digitValue c) 0

/-- The value of a hexadecimal digit. -/
def hexValue? (c : Char) : Option Nat :=
  if '0' ≤ c ∧ c ≤ '9' then some (c.toNat - '0'.toNat)
  else if 'a' ≤ c ∧ c ≤ 'f' then some (c.toNat - 'a'.toNat + 10)
  else if 'A' ≤ c ∧ c ≤ 'F' then some (c.toNat - 'A'.toNat + 10)
  else none

/-- The value of a list of digits in a base of at most sixteen. -/
def radixValue? (base : Nat) (cs : List Char) : Option Nat :=
  cs.foldlM (fun n c => do
    let d ← hexValue? c
    if d < base then pure (base * n + d) else none) 0

/-- The value of a non-empty list of digits in a base of at most sixteen. -/
def radixNumeral? (base : Nat) (cs : List Char) : Option Nat :=
  if cs.isEmpty then none else radixValue? base cs

/-- A numeral without the plus sign it starts with. -/
def dropPlus : List Char → List Char
  | '+' :: r => r
  | r => r

/-- The count that a text spells: decimal digits, perhaps after a plus sign, for a number below 2³². -/
def readCount (s : String) : Option UInt32 := do
  let n ← radixNumeral? 10 (dropPlus s.toList)
  if n < UInt32.size then some (UInt32.ofNat n) else none

/-- The number that hexadecimal digits spell, perhaps after a plus sign. -/
def readHex (cs : List Char) : Option Nat := radixNumeral? 16 (dropPlus cs)

/-- The number `± digits · 10 ^ exponent`. -/
structure Decimal where
  negative : Bool
  digits : Nat
  exponent : Int
  deriving DecidableEq, Repr

namespace Decimal

/-- The sign that a numeral starts with, and the rest of it. -/
def sign : List Char → Bool × List Char
  | '+' :: r => (false, r)
  | '-' :: r => (true, r)
  | r => (false, r)

/-- An exponent: nothing, or `e`, a sign if any, and digits up to the end. -/
def exponent? : List Char → Option Int
  | [] => some 0
  | c :: r =>
    if c == 'e' || c == 'E' then
      let (negative, ds) := sign r
      if !ds.isEmpty && ds.all Char.isDigit then
        some (if negative then -(digitsValue ds : Int) else digitsValue ds)
      else none
    else none

/-- A fraction: nothing, or a point and digits. Answers the digits and what follows them. -/
def fraction : List Char → List Char × List Char
  | '.' :: r => (r.takeWhile Char.isDigit, r.dropWhile Char.isDigit)
  | r => ([], r)

/-- Reads a numeral up to its end. There is a digit before the exponent, on some side of the point. -/
def read? (cs : List Char) : Option Decimal := do
  let (negative, body) := sign cs
  let whole := body.takeWhile Char.isDigit
  let (frac, r) := fraction (body.dropWhile Char.isDigit)
  if whole.isEmpty && frac.isEmpty then none
  else
    let e ← exponent? r
    some ⟨negative, digitsValue (whole ++ frac), e - frac.length⟩

/-- Whether the nearest number of double precision is finite: the magnitude is below
`2 ^ 1024 - 2 ^ 970`, where rounding would reach infinity. -/
def isFinite (d : Decimal) : Bool :=
  if d.digits = 0 then true
  else if d.exponent > 400 then false
  else if d.exponent ≥ 0 then decide (d.digits * Nat.pow 10 d.exponent.toNat < Nat.pow 2 1024 - Nat.pow 2 970)
  else
    let len : Int := (Nat.toDigits 10 d.digits).length
    if len + d.exponent < 300 then true
    else decide (d.digits < (Nat.pow 2 1024 - Nat.pow 2 970) * Nat.pow 10 (-d.exponent).toNat)

/-- The nearest number of double precision, for a numeral of moderate size. -/
def toFloat (d : Decimal) : Float :=
  let len : Int := (Nat.toDigits 10 d.digits).length
  let x :=
    if d.digits = 0 || len + d.exponent < -400 then 0.0
    else if d.exponent ≥ 0 then Float.ofScientific (d.digits * Nat.pow 10 d.exponent.toNat) false 0
    else Float.ofScientific d.digits true (-d.exponent).toNat
  if d.negative then -x else x

end Decimal

/-- The words, in any case, for the values that no numeral spells. -/
def realWords : List (List Char) := ["inf".toList, "infinity".toList, "nan".toList]

/-- Whether a text spells a real number, infinity, or no number. -/
def isReal (cs : List Char) : Bool :=
  (Decimal.read? cs).isSome || realWords.contains ((Decimal.sign cs).2.map Char.toLower)

end GatewayPolicy.Text
