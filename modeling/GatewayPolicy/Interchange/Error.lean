import GatewayPolicy.Json.Value
import GatewayPolicy.Text.Display
import GatewayPolicy.Text.Shortest
/-!
# Decoding errors

Why a JSON value does not stand for a value of the model. A message says what was
found and what was expected.
-/

namespace GatewayPolicy

/-- What was found in the place of an expected value. -/
inductive Found where
  | null
  | bool (b : Bool)
  | int (i : Int)
  | float (x : Float)
  | string (s : String)
  | sequence
  | map
  /-- The bare name of an alternative that carries a value. -/
  | unitVariant
  deriving Repr

namespace Found

/-- A JSON value as messages mention it. -/
def ofJson : Json → Found
  | .null => null
  | .bool b => bool b
  | .int i => int i
  | .float x => float x
  | .string s => string s
  | .array _ => sequence
  | .object _ => map

/-- The words for what was found. -/
def describe : Found → String
  | null => "null"
  | bool b => s!"boolean `{b}`"
  | int i => s!"integer `{i}`"
  | float x => s!"floating point `{Text.floatText x}`"
  | string s => s!"string {Text.display s}"
  | sequence => "sequence"
  | map => "map"
  | unitVariant => "unit variant"

end Found

/-- Why a value does not decode. -/
inductive DecodeError where
  /-- The value is of another type. -/
  | wrongType (found : Found) (expected : String)
  /-- The value is of the right type and not acceptable. -/
  | wrongValue (found : Found) (expected : String)
  /-- A sequence is too short or too long. -/
  | wrongLength (length : Nat) (expected : String)
  /-- A field without default is absent. -/
  | missingField (name : String)
  /-- No alternative has this name. -/
  | unknownVariant (name : String) (known : List String)
  deriving Repr

namespace DecodeError

/-- A name as messages mention it. -/
def ticked (name : String) : String := s!"`{name}`"

/-- The names that were possible. -/
def choice : List String → String
  | [a] => ticked a
  | [a, b] => ticked a ++ " or " ++ ticked b
  | names => "one of " ++ String.intercalate ", " (names.map ticked)

def message : DecodeError → String
  | wrongType found expected => s!"invalid type: {found.describe}, expected {expected}"
  | wrongValue found expected => s!"invalid value: {found.describe}, expected {expected}"
  | wrongLength n expected => s!"invalid length {n}, expected {expected}"
  | missingField name => "missing field " ++ ticked name
  | unknownVariant name known => "unknown variant " ++ ticked name ++ ", expected " ++ choice known

end DecodeError

end GatewayPolicy
