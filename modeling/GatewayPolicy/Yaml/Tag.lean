/-!
# Tags

What the tag of a node says. A tag is written in octets; one that starts with an
exclamation mark is the document's own and known by its name.
-/

namespace GatewayPolicy.Yaml

inductive Tag where
  /-- A tag of the document's own, by its name. -/
  | own (name : String)
  /-- A tag of the document's own whose name is no text. It says nothing. -/
  | nameless
  /-- The tag of a standard type, by the name of the type. -/
  | standard (type : String)
  /-- Any other tag. -/
  | foreign
  deriving DecidableEq, Repr, Inhabited

namespace Tag

/-- The text that octets encode. -/
def text? (octets : List UInt8) : Option String := String.fromUTF8? ⟨octets.toArray⟩

/-- The octets of a text. -/
def octetsOf (s : String) : List UInt8 := s.toUTF8.toList

/-- What the tags of the standard types start with. -/
def standardStart : String := "tag:yaml.org,2002:"

/-- The tag that octets stand for. An exclamation mark alone is its own name. -/
def ofOctets (octets : List UInt8) : Tag :=
  match octets with
  | 0x21 :: r =>
    match text? (if r.isEmpty then octets else r) with
    | some name => own name
    | none => nameless
  | _ =>
    let start := octetsOf standardStart
    match text? (octets.drop start.length) with
    | some type => if start.isPrefixOf octets then standard type else foreign
    | none => foreign

/-- The name of a tag of the document's own. -/
def ownName? : Tag → Option String
  | own name => some name
  | _ => none

/-- A name without the exclamation mark it starts with, unless that is all of it. -/
def bareName (name : String) : String :=
  match name.toList with
  | '!' :: c :: r => String.ofList (c :: r)
  | _ => name

/-- Whether two names are the same, up to an exclamation mark in front. -/
def sameName (a b : String) : Bool := bareName a == bareName b

end Tag

end GatewayPolicy.Yaml
