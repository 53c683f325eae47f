import GatewayPolicy.Interchange.Error
/-!
# Decoders

Decoders of the types that records are made of, and the two forms of a record: an
object, whose members are visited in the order of their names before the absent
ones count, and an array with the fields in the order of their declaration.
-/

namespace GatewayPolicy

/-- A reader of JSON values as values of a type. -/
abbrev Decoder (α : Type) := Json → Except DecodeError α

namespace Decoder

variable {α : Type}

/-- The error for a value of another type. -/
def mismatch (expected : String) (v : Json) : Except DecodeError α :=
  .error (.wrongType (.ofJson v) expected)

def string : Decoder String
  | .string s => .ok s
  | v => mismatch "a string" v

def bool : Decoder Bool
  | .bool b => .ok b
  | v => mismatch "a boolean" v

/-- A number of 32 bits. -/
def count : Decoder UInt32
  | .int i =>
    if 0 ≤ i ∧ i.toNat < UInt32.size then .ok (UInt32.ofNat i.toNat) else .error (.wrongValue (.int i) "u32")
  | v => mismatch "u32" v

/-- A value, or null for none. -/
def optional (d : Decoder α) : Decoder (Option α)
  | .null => .ok none
  | v => some <$> d v

def list (d : Decoder α) : Decoder (List α)
  | .array vs => vs.mapM d
  | v => mismatch "a sequence" v

/-! ## Alternatives -/

/-- The name and the value of an alternative: a string, or an object with one member. -/
def variant : Decoder (String × Option Json)
  | .string s => .ok (s, none)
  | .object [(name, v)] => .ok (name, some v)
  | .object _ => .error (.wrongValue .map "map with a single key")
  | v => mismatch "string or map" v

/-- One of some alternatives that carry no value. -/
def plainVariant (all : List α) (name : α → String) (v : Json) : Except DecodeError α := do
  let (s, value) ← variant v
  match all.find? (fun a => name a == s), value with
  | none, _ => .error (.unknownVariant s (all.map name))
  | some a, none | some a, some .null => .ok a
  | some _, some w => mismatch "unit" w

/-! ## Records -/

/-- The member of an object, if it is there. -/
def member? (ms : List (String × Json)) (name : String) (d : Decoder α) : Except DecodeError (Option α) :=
  match Entries.get? name ms with
  | some v => some <$> d v
  | none => .ok none

/-- A field that must be there. -/
def required (name : String) : Option α → Except DecodeError α
  | some a => .ok a
  | none => .error (.missingField name)

/-- The item of an array, if it is there. -/
def item? (vs : List Json) (i : Nat) (d : Decoder α) : Except DecodeError (Option α) :=
  match vs[i]? with
  | some v => some <$> d v
  | none => .ok none

/-- The item of an array, which must be there. -/
def item (vs : List Json) (i : Nat) (expected : String) (d : Decoder α) : Except DecodeError α := do
  match ← item? vs i d with
  | some a => .ok a
  | none => .error (.wrongLength vs.length expected)

/-- The end of an array of `n` fields. -/
def atMost (vs : List Json) (n : Nat) : Except DecodeError Unit :=
  if vs.length ≤ n then .ok () else .error (.wrongLength vs.length "fewer elements in array")

end Decoder

end GatewayPolicy
