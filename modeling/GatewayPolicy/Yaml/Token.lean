import GatewayPolicy.Yaml.Scalar
import GatewayPolicy.Yaml.Tag
/-!
# Tokens

The tokens of a YAML text, among them the starts and ends of block collections, which
the indentation tells, and the names, tags and directives, with their readers.
-/

namespace GatewayPolicy.Yaml

inductive Token where
  /-- The version that a document asks for. -/
  | version (major minor : Nat)
  /-- What a tag handle stands for, in octets. -/
  | tagHandle (handle : String) (expansion : List UInt8)
  | documentStart
  | documentEnd
  | blockSequence
  | blockMapping
  | blockEnd
  | flowSequence
  | flowSequenceEnd
  | flowMapping
  | flowMappingEnd
  /-- The dash of a block sequence. -/
  | entry
  /-- The comma of a flow collection. -/
  | comma
  | key
  | value
  | reference (name : String)
  | anchor (name : String)
  /-- A tag: its handle, empty if there is none, and the octets after it. -/
  | tag (handle : String) (suffix : List UInt8)
  /-- A scalar; only a plain one can be something other than a string. -/
  | scalar (plain : Bool) (text : String)
  deriving DecidableEq, Repr, Inhabited

/-- Whether a character may occur in a name. -/
def isNameChar (c : Char) : Bool := c.isAlphanum || c == '_' || c == '-'

/-- Reads the name of an anchor or an alias. -/
def readName (gs : List Glyph) : Option (String × List Glyph) :=
  let (name, r) := span isNameChar gs
  let ended := blankAhead r || ['?', ':', ',', ']', '\x7d', '%', '@', '`'].any fun c => ahead c r
  if name.isEmpty || !ended then none else some (String.ofList name, r)

/-! ## Tags -/

/-- Whether a character may occur in a tag; some do only between angle brackets. -/
def isTagChar (bracketed : Bool) (c : Char) : Bool :=
  isNameChar c || ";/?:@&=+$.!~*'()".toList.contains c || (bracketed && [',', '[', ']'].contains c)

/-- The octets that are owed to a character after one more octet of it, where `owed` were before. The
first octet of a character tells how many follow; the ones that follow are told by their two top bits. -/
def stillOwed? (owed octet : Nat) : Option Nat :=
  match owed with
  | owed + 1 => if octet / 64 = 2 then some owed else none
  | 0 =>
    if octet / 128 = 0 then some 0
    else if octet / 32 = 6 then some 1
    else if octet / 16 = 14 then some 2
    else if octet / 8 = 30 then some 3
    else none

/-- Reads the octets of a tag, with those already read, last octet first. A percent sign and two digits
are one octet, and all octets of a character are written so or none. -/
def readOctets (bracketed : Bool) (done : List UInt8) (owed : Nat) :
    List Glyph → Option (List UInt8 × List Glyph)
  | [] => if owed = 0 then some (done.reverse, []) else none
  | g :: r =>
    if g.char = '%' then
      match r with
      | a :: b :: r' => do
        let octet := 16 * (← Text.hexValue? a.char) + (← Text.hexValue? b.char)
        readOctets bracketed (UInt8.ofNat octet :: done) (← stillOwed? owed octet) r'
      | _ => none
    else if owed ≠ 0 then none
    else if isTagChar bracketed g.char then readOctets bracketed (UInt8.ofNat g.char.toNat :: done) 0 r
    else some (done.reverse, g :: r)

/-- The octets that count: those before the first zero. -/
def untilZero (octets : List UInt8) : List UInt8 := octets.takeWhile (· ≠ 0)

/-- Reads octets, of which there is one at least. Answers those that count. -/
def readSomeOctets (bracketed : Bool) (gs : List Glyph) : Option (List UInt8 × List Glyph) := do
  let (octets, r) ← readOctets bracketed [] 0 gs
  if octets.isEmpty then none else some (untilZero octets, r)

/-- Reads a tag handle: an exclamation mark, perhaps with a name and a second one. -/
def readHandle : List Glyph → Option (String × List Glyph)
  | [] => none
  | g :: r =>
    if g.char = '!' then
      let (name, r) := span isNameChar r
      if ahead '!' r then some (String.ofList ('!' :: name ++ ['!']), r.drop 1)
      else some (String.ofList ('!' :: name), r)
    else none

/-- Reads a tag. -/
def readTag (flow : Bool) (gs : List Glyph) : Option (Token × List Glyph) := do
  let (token, r) ← match gs with
    | a :: b :: r =>
      if a.char = '!' && b.char = '<' then do
        let (octets, r) ← readSomeOctets true r
        if ahead '>' r then some (Token.tag "" octets, r.drop 1) else none
      else readShort gs
    | gs => readShort gs
  if blankAhead r || (flow && ahead ',' r) then some (token, r) else none
where
  /-- Reads a tag with a handle, or one of the document's own. -/
  readShort (gs : List Glyph) : Option (Token × List Glyph) := do
    let (handle, r) ← readHandle gs
    if handle.length > 1 && handle.toList.getLast? = some '!' then
      let (suffix, r) ← readSomeOctets false r
      return (.tag handle suffix, r)
    else
      let (octets, r) ← readOctets false [] 0 r
      let suffix := Tag.octetsOf (String.ofList (handle.toList.drop 1)) ++ untilZero octets
      return (if suffix.isEmpty then .tag "" (Tag.octetsOf "!") else .tag "!" suffix, r)

/-! ## Directives -/

/-- Reads a number of at most nine digits. -/
def readVersionNumber (gs : List Glyph) : Option (Nat × List Glyph) :=
  let (ds, r) := span Char.isDigit gs
  if ds.isEmpty || ds.length > 9 then none else some (Text.digitsValue ds, r)

/-- Reads a directive after its percent sign, up to the end of the line. -/
def readDirective (gs : List Glyph) : Option (Token × List Glyph) := do
  let (name, r) := span isNameChar gs
  if !blankAhead r then none
  let blanks := (span isBlank r).2
  let (token, r) ← match String.ofList name with
    | "YAML" => do
      let (major, r) ← readVersionNumber blanks
      if !ahead '.' r then none
      let (minor, r) ← readVersionNumber (r.drop 1)
      some (Token.version major minor, r)
    | "TAG" => do
      let (handle, r) ← readHandle blanks
      if handle ≠ "!" && handle.toList.getLast? ≠ some '!' then none
      if !(r.head?.any fun g => isBlank g.char) then none
      let (expansion, r) ← readSomeOctets true (span isBlank r).2
      if !blankAhead r then none
      some (Token.tagHandle handle expansion, r)
    | _ => none
  return (token, ← skipLine r)

end GatewayPolicy.Yaml
