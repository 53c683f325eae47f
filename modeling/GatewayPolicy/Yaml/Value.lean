import GatewayPolicy.Yaml.Grammar
/-!
# YAML values

What the nodes of a document stand for. A plain scalar is null, a truth value or a
number if it is spelled like one; every other scalar is a string. Aliases are
replaced by what they stand for, within bounds on depth and number. No mapping has
the same key twice. The tag of a mapping takes the tags of its keys away.
-/

namespace GatewayPolicy.Yaml

inductive Value where
  | null
  | bool (b : Bool)
  | int (i : Int)
  | float (x : Float)
  | string (s : String)
  | list (items : List Value)
  | map (entries : List (Value × Value))
  /-- A value under a tag of the document's own. -/
  | tagged (tag : String) (v : Value)
  deriving Inhabited, Repr

namespace Value

/-! ## Equality -/

/-- Whether two numbers are the same; the one that is no number is the same as itself. -/
def sameFloat (x y : Float) : Bool := x == y || (x.isNaN && y.isNaN)

mutual

/-- Whether two values are the same. The order of the entries of a mapping does not count. -/
def same : Value → Value → Bool
  | null, null => true
  | bool a, bool b => a == b
  | int a, int b => a == b
  | float a, float b => sameFloat a b
  | string a, string b => a == b
  | list as, list bs => sameItems as bs
  | map as, map bs => as.length == bs.length && entriesWithin as bs
  | tagged s a, tagged t b => Tag.sameName s t && same a b
  | _, _ => false

/-- Whether two lists hold the same values. -/
def sameItems : List Value → List Value → Bool
  | [], [] => true
  | a :: as, b :: bs => same a b && sameItems as bs
  | _, _ => false

/-- Whether each entry occurs among some others. -/
def entriesWithin : List (Value × Value) → List (Value × Value) → Bool
  | [], _ => true
  | (k, v) :: as, bs => (bs.any fun e => same k e.1 && same v e.2) && entriesWithin as bs

end

/-- Whether no key occurs twice. -/
def distinctKeys : List (Value × Value) → Bool
  | [] => true
  | (k, _) :: es => !(es.any fun e => same k e.1) && distinctKeys es

/-! ## Scalars -/

/-- The truth value that a text spells. -/
def readBool : String → Option Bool
  | "true" | "True" | "TRUE" => some true
  | "false" | "False" | "FALSE" => some false
  | _ => none

/-- Whether a text spells null. -/
def isNull (s : String) : Bool := ["null", "Null", "NULL", "~"].contains s

/-- Whether a text is a zero followed by more digits, perhaps signed. -/
def hasLeadingZero (cs : List Char) : Bool :=
  match (Text.Decimal.sign cs).2 with
  | '0' :: d :: ds => (d :: ds).all Char.isDigit
  | _ => false

/-- The whole number that a text spells without its sign. -/
def readMagnitude (cs : List Char) : Option Nat :=
  let radix := match cs with
    | '0' :: 'x' :: r => Text.radixNumeral? 16 r
    | '0' :: 'o' :: r => Text.radixNumeral? 8 r
    | '0' :: 'b' :: r => Text.radixNumeral? 2 r
    | _ => none
  radix <|> (if hasLeadingZero cs then none else Text.radixNumeral? 10 cs)

/-- A whole number as a value. Numbers beyond 64 bits are refused, and those beyond 128 bits
are not taken for whole numbers. -/
inductive Whole where
  | fits (i : Int)
  | tooLarge
  | none
  deriving DecidableEq, Repr

/-- The whole number that a text spells. -/
def readWhole (cs : List Char) : Whole :=
  let (negative, body) := Text.Decimal.sign cs
  match readMagnitude body with
  | some n =>
    if negative then
      if n ≤ Nat.pow 2 63 then .fits (-n) else if n ≤ Nat.pow 2 127 then .tooLarge else .none
    else if n < UInt64.size then .fits n else if n < Nat.pow 2 128 then .tooLarge else .none
  | Option.none => .none

/-- The number that a text spells that is no whole number. -/
def readFloat (cs : List Char) : Option Float :=
  let body := Text.dropPlus cs
  let text := String.ofList body
  if [".inf", ".Inf", ".INF"].contains text then some (1.0 / 0.0)
  else if ["-.inf", "-.Inf", "-.INF"].contains (String.ofList cs) then some (-1.0 / 0.0)
  else if [".nan", ".NaN", ".NAN"].contains (String.ofList cs) then some (0.0 / 0.0)
  else if cs.length > body.length && (body.head? = some '+' || body.head? = some '-') then none
  else
    match Text.Decimal.read? body with
    | some d => if d.isFinite then some d.toFloat else none
    | none => none

/-- The value of a plain scalar. -/
def ofPlain (s : String) : Option Value :=
  let cs := s.toList
  if cs.isEmpty || isNull s then some null
  else
    match readBool s, readWhole cs with
    | some b, _ => some (bool b)
    | none, .fits i => some (int i)
    | none, .tooLarge => none
    | none, .none =>
      if hasLeadingZero cs then some (string s)
      else
        match readFloat cs with
        | some x => some (float x)
        | none => some (string s)

/-- The value of a scalar under the tag of a standard type. -/
def ofStandard (type s : String) : Option Value :=
  match type with
  | "null" => if isNull s then some null else none
  | "bool" => (readBool s).map bool
  | "int" =>
    match readWhole s.toList with
    | .fits i => some (int i)
    | _ => none
  | "float" => (readFloat s.toList).map float
  | _ => some (string s)

/-- The value of a scalar, apart from a tag of the document's own. -/
def ofScalar (tag : Option Tag) (plain : Bool) (s : String) : Option Value :=
  match tag with
  | some (.standard type) => ofStandard type s
  | some .foreign => some (string s)
  | _ => if plain then ofPlain s else some (string s)

/-- The name of the tag, if that is one of the document's own. -/
def ownName? (tag : Option Tag) : Option String := tag.bind Tag.ownName?

/-- A value under a tag, if that is one of the document's own. -/
def withOwnTag (tag : Option Tag) (v : Value) : Value :=
  match ownName? tag with
  | some name => tagged name v
  | none => v

/-! ## Documents -/

/-- The collections that may be inside one another. -/
def maxDepth : Nat := 128

/-- The aliases that may be followed per mark of a document. -/
def aliasesPerMark : Nat := 100

/-- What following aliases needs: the anchored nodes, and in the state the number of aliases that
may still be followed. -/
abbrev Follow := ReaderT (List (Nat × Node)) (StateT Nat Option)

/-- The node that stands in a place, or is stood for. The latest node of an anchor counts. -/
def target (n : Node) : Follow Node := do
  match n with
  | .reference a =>
    match ← get with
    | 0 => failure
    | left + 1 =>
      set left
      match (← read).reverse.lookup a with
      | some n => return n
      | none => failure
  | n => return n

/-- The tag of a node, unless the node is bare. -/
def tagUnless (bare : Bool) (p : Props) : Option Tag := if bare then none else p.tag

/-- The value of a node in which at most `depth` collections are inside one another. A key of a
tagged mapping is `bare`: its own tag does not count, nor do those of its keys if it is a mapping
itself. An alias is never bare. -/
def ofNode : (depth : Nat) → (bare : Bool) → Node → Follow Value
  | depth, bare, n => do
    let bare := bare && !n.isReference
    match ← target n with
    | .scalar p plain text =>
      let tag := tagUnless bare p
      match ofScalar tag plain text with
      | some v => return withOwnTag tag v
      | none => failure
    | .sequence p items =>
      match depth with
      | 0 => failure
      | depth + 1 =>
        let vs ← items.mapM (ofNode depth false)
        return withOwnTag (tagUnless bare p) (list vs)
    | .mapping p entries =>
      match depth with
      | 0 => failure
      | depth + 1 =>
        let tag := tagUnless bare p
        let bareKeys := bare || (ownName? tag).isSome
        let es ← entries.mapM fun e => do return (← ofNode depth bareKeys e.1, ← ofNode depth false e.2)
        if !distinctKeys es then failure
        return withOwnTag tag (map es)
    | .reference _ => failure

/-- Follows the aliases of a document. -/
def following {α : Type} (root : Node) (f : Follow α) : Option α :=
  ((f.run root.anchored).run (aliasesPerMark * root.marks)).map (·.1)

/-- The value that a text holds. An empty text holds null. -/
def read? (s : String) : Option Value := do
  match ← document? s with
  | some root => following root (ofNode maxDepth false root)
  | none => some null

/-- A value without its tags. -/
def untagged : Value → Value
  | tagged _ v => untagged v
  | v => v

/-- The value of a key of a mapping. -/
def get? (name : String) (v : Value) : Option Value :=
  match v.untagged with
  | map es => (es.find? fun e => same e.1 (string name)).map (·.2)
  | _ => none

end Value

end GatewayPolicy.Yaml
