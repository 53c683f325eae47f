/-!
# Shortest decimals

The number of double precision with the bits of a given word, and the shortest
decimal that reads back as it. A double stands for all reals between the midpoints
to its two neighbours; the shortest decimal is the first one on ever finer decimal
grids that lies there, the nearer one where a grid has two.
-/

namespace GatewayPolicy.Text

/-- The magnitude `mantissa · 2 ^ exponent` of a finite double, and whether the gap below
it is half the gap above. -/
structure Binary where
  mantissa : Nat
  exponent : Int
  narrowBelow : Bool
  deriving DecidableEq, Repr

namespace Binary

/-- The magnitude that a word of 64 bits stands for. -/
def ofBits (bits : UInt64) : Binary :=
  let fraction := bits.toNat % Nat.pow 2 52
  let e : Nat := bits.toNat / Nat.pow 2 52 % Nat.pow 2 11
  if e = 0 then ⟨fraction, -1074, false⟩
  else ⟨fraction + Nat.pow 2 52, (e : Int) - 1075, fraction = 0 && e > 1⟩

/-- Twice the magnitude, the reach below and the reach above it, as whole multiples of `1 / scale`. -/
def scaled (b : Binary) : Nat × Nat × Nat × Nat :=
  let up := Nat.pow 2 b.exponent.toNat
  let down := Nat.pow 2 (-b.exponent).toNat
  (4 * b.mantissa * up, (if b.narrowBelow then 1 else 2) * up, 2 * up, 4 * down)

/-- A positive magnitude as digits and a power of ten, on the grid of multiples of `10 ^ k`: the
nearest point of the grid that reads back as the magnitude. -/
def onGrid? (b : Binary) (k : Int) : Option Nat :=
  let (value, below, above, scale) := b.scaled
  let unit := scale * Nat.pow 10 k.toNat
  let times := Nat.pow 10 (-k).toNat
  let value := value * times
  let low := value - below * times
  let high := value + above * times
  -- A midpoint is rounded to the neighbour whose mantissa is even.
  let even := b.mantissa % 2 = 0
  let inside := fun n : Nat =>
    if even then decide (low ≤ n * unit ∧ n * unit ≤ high) else decide (low < n * unit ∧ n * unit < high)
  let n := value / unit
  let lower := if inside n && n > 0 then some n else none
  let upper := if inside (n + 1) then some (n + 1) else none
  match lower, upper with
  | some a, some c => some (if 2 * (value - a * unit) ≤ unit then a else c)
  | some a, none => some a
  | none, u => u

/-- An estimate of the number of digits before the point, never too small. -/
def digitsBefore (b : Binary) : Int :=
  let bits : Int := Nat.log2 b.mantissa + b.exponent + 1
  if bits ≥ 0 then bits * 302 / 1000 + 1 else bits * 301 / 1000 + 1

/-- The first grid with a hit, tried from coarse to fine. -/
def shortestFrom (b : Binary) (k : Int) : Nat → Nat × Int
  | 0 => (0, 0)
  | fuel + 1 =>
    match b.onGrid? k with
    | some n => (n, k)
    | none => shortestFrom b (k - 1) fuel

/-- The digits and the power of ten of the shortest decimal. -/
def shortest (b : Binary) : Nat × Int :=
  if b.mantissa = 0 then (0, 0) else shortestFrom b b.digitsBefore 20

end Binary

/-- Digits with the point placed for a power of ten, and at least one digit on either side of it. -/
def positional (digits : Nat) (exponent : Int) : String :=
  let ds := Nat.toDigits 10 digits
  if exponent ≥ 0 then
    String.ofList (ds ++ List.replicate (if digits = 0 then 0 else exponent.toNat) '0' ++ ['.', '0'])
  else
    let places := (-exponent).toNat
    let padded := List.replicate (places + 1 - ds.length) '0' ++ ds
    let whole := padded.length - places
    String.ofList (padded.take whole ++ '.' :: padded.drop whole)

/-- Digits with the point after the first one, if there are more, and the power of ten that is left. -/
def scientific (digits : Nat) (exponent : Int) : String :=
  let ds := Nat.toDigits 10 digits
  let power := exponent + (ds.length - 1)
  let fraction := if ds.length = 1 then [] else '.' :: ds.drop 1
  String.ofList (ds.take 1 ++ fraction) ++ (if power < 0 then "e-" else "e+") ++ toString power.natAbs

/-- Whether a number with the given digits is written positionally: zero is, and so are the numbers
from `0.00001` on and below `10 ^ 16`. -/
def isPositional (digits : Nat) (exponent : Int) : Bool :=
  let power := exponent + ((Nat.toDigits 10 digits).length - 1)
  digits = 0 || (-5 ≤ power && power < 16)

/-- A finite number, with the fewest digits that read back. -/
def floatText (x : Float) : String :=
  let bits := x.toBits
  let (digits, exponent) := (Binary.ofBits bits).shortest
  (if bits ≥ 0x8000000000000000 then "-" else "") ++
    (if isPositional digits exponent then positional digits exponent else scientific digits exponent)

end GatewayPolicy.Text
