import GatewayPolicy.Yaml.Lexer
import GatewayPolicy.Yaml.Node
/-!
# From tokens to trees

The tokens of a document are taken one by one. What stands inside an open collection
is kept as a list of items; at the end of the collection the list is read as its
entries, and the collection becomes one item of what is around it.
-/

namespace GatewayPolicy.Yaml

/-- A part of a collection. -/
inductive Item where
  | node (n : Node)
  /-- What stands in front of a node that is still to come, or is left out. -/
  | props (p : Props)
  /-- The entries of a sequence that is not indented further than the mapping around it. -/
  | run (items : List Node)
  | entry
  | comma
  | key
  | value
  deriving Repr

/-! ## Entries of collections -/

/-- The stretches of a list between the separators. There is always one more of them. -/
def stretches {α : Type} (separates : α → Bool) : List α → List (List α)
  | [] => [[]]
  | a :: as =>
    let rest := stretches separates as
    if separates a then [] :: rest
    else
      match rest with
      | s :: ss => (a :: s) :: ss
      | [] => [[a]]

/-- The node that a list starts with, or the one that is left out there. -/
def slot : List Item → Node × List Item
  | .node n :: r => (n, r)
  | .props p :: .run items :: r => (.sequence p items, r)
  | .props p :: r => (.absent p, r)
  | .run items :: r => (.sequence {} items, r)
  | r => (.absent {}, r)

/-- A key and its value, each of which may be left out, and nothing else. -/
def pair (is : List Item) : Option (Node × Node) :=
  let (k, r) := slot is
  match r with
  | [] => some (k, .absent {})
  | .value :: r =>
    let (v, r) := slot r
    if r.isEmpty then some (k, v) else none
  | _ => none

/-- A single node, written as something. -/
def single : List Item → Option Node
  | [.node n] => some n
  | [.props p] => some (.absent p)
  | _ => none

/-- The items of a block sequence. -/
def sequenceItems : List Item → Option (List Node)
  | [] => some []
  | .entry :: .node n :: r => (sequenceItems r).map (n :: ·)
  | .entry :: .props p :: r => (sequenceItems r).map (.absent p :: ·)
  | .entry :: r => (sequenceItems r).map (.absent {} :: ·)
  | _ => none

/-- Puts a dash in front of items whose later dashes are gathered. -/
def gatherEntry : List Item → List Item
  | .node n :: .run items :: r => .run (n :: items) :: r
  | .node n :: r => .run [n] :: r
  | .props p :: .run items :: r => .run (.absent p :: items) :: r
  | .props p :: r => .run [.absent p] :: r
  | .run items :: r => .run (.absent {} :: items) :: r
  | r => .run [.absent {}] :: r

/-- Gathers neighbouring dashes, with their nodes, into sequences. -/
def gatherEntries : List Item → List Item
  | [] => []
  | .entry :: r => gatherEntry (gatherEntries r)
  | i :: r => i :: gatherEntries r

/-- Whether an item is the start of a key. -/
def Item.isKey : Item → Bool
  | .key => true
  | _ => false

/-- Whether an item is a comma. -/
def Item.isComma : Item → Bool
  | .comma => true
  | _ => false

/-- The entries of a block mapping: each starts with its key. -/
def mappingEntries (is : List Item) : Option (List (Node × Node)) :=
  match stretches Item.isKey (gatherEntries is) with
  | [] :: entries => entries.mapM pair
  | _ => none

/-- What stands between the commas of a flow collection. The last comma may have nothing after it. -/
def flowParts (is : List Item) : List (List Item) :=
  let parts := stretches Item.isComma is
  match parts.getLast? with
  | some [] => parts.dropLast
  | _ => parts

/-- The items of a flow sequence. A key and its value make up a mapping of their own. -/
def flowItems (is : List Item) : Option (List Node) :=
  (flowParts is).mapM fun
    | .key :: r => (pair r).map fun e => .mapping {} [e]
    | part => single part

/-- The entries of a flow mapping. -/
def flowEntries (is : List Item) : Option (List (Node × Node)) :=
  (flowParts is).mapM fun
    | .key :: r => pair r
    | part => (single part).map fun k => (k, .absent {})

/-! ## Open collections -/

/-- A kind of collection. -/
inductive Bracket where
  | blockSequence
  | blockMapping
  | flowSequence
  | flowMapping
  deriving DecidableEq, Repr

namespace Bracket

/-- The collection that a token opens. -/
def opened? : Token → Option Bracket
  | .blockSequence => some blockSequence
  | .blockMapping => some blockMapping
  | .flowSequence => some flowSequence
  | .flowMapping => some flowMapping
  | _ => none

/-- Whether a collection is written in brackets. -/
def isFlow : Bracket → Bool
  | blockSequence | blockMapping => false
  | flowSequence | flowMapping => true

/-- The token that closes a collection. -/
def closing : Bracket → Token
  | blockSequence | blockMapping => .blockEnd
  | flowSequence => .flowSequenceEnd
  | flowMapping => .flowMappingEnd

/-- The collection of the given items. -/
def collect (p : Props) (is : List Item) : Bracket → Option Node
  | blockSequence => (sequenceItems is).map (.sequence p)
  | blockMapping => (mappingEntries is).map (.mapping p)
  | flowSequence => (flowItems is).map (.sequence p)
  | flowMapping => (flowEntries is).map (.mapping p)

end Bracket

/-- The tokens of a document as far as they are read. -/
structure Reading where
  /-- The anchors by name. -/
  anchors : List (String × Nat) := []
  /-- The items of the innermost open collection, last item first. -/
  items : List Item := []
  /-- The open collections and the items in front of each, innermost first. -/
  outer : List (Bracket × List Item) := []

namespace Reading

/-- What handles stand for, besides those that a document declares. -/
def standardHandles : List (String × List UInt8) :=
  [("!", Tag.octetsOf "!"), ("!!", Tag.octetsOf Tag.standardStart)]

def push (d : Reading) (i : Item) : Reading := { d with items := i :: d.items }

/-- What stands in front of a node, and the items before it. -/
def takeProps : List Item → Props × List Item
  | .props p :: r => (p, r)
  | r => ({}, r)

/-- Anchors the next node under a name: under the number of names that are known by then. -/
def anchor (d : Reading) (name : String) : Reading :=
  let n := d.anchors.length
  let d := { d with anchors := (name, n) :: d.anchors.filter fun a => a.1 != name }
  match d.items with
  | .props ⟨none, tag⟩ :: r => { d with items := .props ⟨some n, tag⟩ :: r }
  | _ => d.push (.props ⟨some n, none⟩)

/-- Tags the next node. -/
def tag (d : Reading) (t : Tag) : Reading :=
  match d.items with
  | .props ⟨anchor, none⟩ :: r => { d with items := .props ⟨anchor, some t⟩ :: r }
  | _ => d.push (.props ⟨none, some t⟩)

/-- Whether a token ends what stands in a place of a flow sequence. -/
def endsPlace : Token → Bool
  | .value | .comma | .flowSequenceEnd => true
  | _ => false

/-- Whether the last token was the question mark of a key in a flow sequence. -/
def awaitsKey (d : Reading) : Bool :=
  match d.outer, d.items with
  | (.flowSequence, _) :: _, .key :: _ => true
  | _, _ => false

/-- Takes one token, apart from a question mark without a key in a flow sequence. -/
def takePlain (handles : List (String × List UInt8)) (d : Reading) (t : Token) : Option Reading :=
  match t with
  | .entry => some (d.push .entry)
  | .comma => some (d.push .comma)
  | .key => some (d.push .key)
  | .value => some (d.push .value)
  | .anchor name => some (d.anchor name)
  | .reference name => (d.anchors.lookup name).map fun n => d.push (.node (.reference n))
  | .tag "" suffix => some (d.tag (.ofOctets suffix))
  | .tag handle suffix => (handles.lookup handle).map fun e => d.tag (.ofOctets (e ++ suffix))
  | .scalar plain text =>
    let (p, r) := takeProps d.items
    some { d with items := .node (.scalar p plain text) :: r }
  | t =>
    match Bracket.opened? t, d.outer with
    | some b, outer =>
      -- Inside brackets all collections are written in brackets.
      if !b.isFlow && outer.any (·.1.isFlow) then none
      else some { d with items := [], outer := (b, d.items) :: outer }
    | none, (b, before) :: outer =>
      if t = b.closing then
        let (p, r) := takeProps before
        (b.collect p d.items.reverse).map fun n => { d with items := .node n :: r, outer }
      else none
    | none, [] => none

/-- Takes one token. In a flow sequence, a question mark without a key takes the token after it away,
even the end of the sequence. -/
def take (handles : List (String × List UInt8)) (d : Reading) (t : Token) : Option Reading :=
  if d.awaitsKey && endsPlace t then some (d.push (.node (.absent {}))) else d.takePlain handles t

/-- The node that a document consists of. -/
def root (d : Reading) : Option Node :=
  match d.outer, d.items with
  | [], [] => some (.absent {})
  | [], [.node n] => some n
  | [], [.props p] => some (.absent p)
  | _, _ => none

end Reading

/-! ## Documents -/

/-- The tag handles that the directives at the start of a text declare, and what follows. No
handle is declared twice, and a version is given once and is 1.1 or 1.2. -/
def directives (versioned : Bool) (handles : List (String × List UInt8)) :
    List Token → Option (List (String × List UInt8) × List Token)
  | .version major minor :: r =>
    if versioned || major ≠ 1 || (minor ≠ 1 && minor ≠ 2) then none else directives true handles r
  | .tagHandle handle expansion :: r =>
    if (handles.lookup handle).isSome then none else directives versioned ((handle, expansion) :: handles) r
  | r => some (handles, r)

/-- Whether a token is one of those inside a document. -/
def isContent : Token → Bool
  | .version .. | .tagHandle .. | .documentStart | .documentEnd => false
  | _ => true

/-- The tree of the given tokens, after which nothing but ends of documents follows. -/
def content (handles : List (String × List UInt8)) (ts : List Token) : Option Node := do
  let d ← (ts.takeWhile isContent).foldlM (Reading.take (handles ++ Reading.standardHandles)) {}
  if (ts.dropWhile isContent).all (· == .documentEnd) then d.root else none

/-- What a text holds: nothing, or one document. -/
def document? (s : String) : Option (Option Node) := do
  let ts ← tokens? s
  let (handles, r) ← directives false [] ts
  match r with
  | .documentStart :: r => some <$> content handles r
  | [] => if ts.isEmpty then some none else none
  | .documentEnd :: _ => none
  | r => if r.length = ts.length then some <$> content handles r else none

end GatewayPolicy.Yaml
