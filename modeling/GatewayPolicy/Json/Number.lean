import GatewayPolicy.Json.Value
import GatewayPolicy.Text.Decimal
/-!
# JSON numbers

A whole number without fraction and exponent is exact if it fits into 64 bits. Any
other number is a double: the digits that fit into 64 bits, rounded, times or
through a power of ten. From the first digit that does not fit on, all digits of its
part are left out: each of the whole part counts as a power of ten, those of the
fraction count as nothing.
-/

namespace GatewayPolicy.Json

/-- The digits of a number as far as they fit, and the power of ten that goes with them. -/
structure Significand where
  digits : Nat
  exponent : Int
  /-- A digit was left out, so all later ones of its part are. -/
  full : Bool

namespace Significand

/-- Adds a digit before or after the point. -/
def push (afterPoint : Bool) (s : Significand) (c : Char) : Significand :=
  let n := 10 * s.digits + Text.digitValue c
  if s.full || n ≥ UInt64.size then
    { s with full := true, exponent := if afterPoint then s.exponent else s.exponent + 1 }
  else { s with digits := n, exponent := if afterPoint then s.exponent - 1 else s.exponent }

/-- The significand of a number with the given digits before and after the point. -/
def ofDigits (whole fraction : List Char) : Significand :=
  let s := whole.foldl (push false) ⟨0, 0, false⟩
  if fraction.isEmpty then s else fraction.foldl (push true) { s with full := false }

end Significand

/-- The largest power of ten that is a double. -/
def maxPower : Nat := 308

/-- The power of ten as a double. -/
def powerOfTen (n : Nat) : Float := Float.ofScientific 1 false n

/-- Divides by a power of ten, by steps of the largest one. -/
def shrink (x : Float) (n : Nat) : Float :=
  if n ≤ maxPower then x / powerOfTen n
  else if x == 0.0 then x
  else shrink (x / powerOfTen maxPower) (n - maxPower)
termination_by n
decreasing_by simp [maxPower] at *; omega

/-- The double that a significand and a further power of ten give, if it is finite. -/
def scale? (digits : Nat) (exponent : Int) : Option Float :=
  let x := (UInt64.ofNat digits).toFloat
  if exponent < 0 then some (shrink x (-exponent).toNat)
  else if x == 0.0 then some x
  else if exponent ≤ maxPower then
    let y := x * powerOfTen exponent.toNat
    if y.isInf then none else some y
  else none

/-- An exponent of 2³¹ or more, which no double reaches. -/
def isHugeExponent (n : Nat) : Bool := n ≥ Nat.pow 2 31

/-- The number with the given sign, digits before and after the point, and exponent. -/
def ofNumber? (negative : Bool) (whole : List Char) (fraction : List Char) (exponent : Option Int) : Option Json :=
  let s := Significand.ofDigits whole fraction
  let signed := fun x : Float => if negative then -x else x
  if exponent.isNone && fraction.isEmpty && !s.full then
    -- Minus zero has no place among the whole numbers.
    if !negative then some (int s.digits)
    else if 0 < s.digits && s.digits ≤ Nat.pow 2 63 then some (int (-s.digits))
    else some (float (signed (UInt64.ofNat s.digits).toFloat))
  else
    let e := exponent.getD 0
    if isHugeExponent e.natAbs then
      if s.digits ≠ 0 && e > 0 then none else some (float (signed 0.0))
    else (scale? s.digits (s.exponent + e)).map fun x => float (signed x)

end GatewayPolicy.Json
