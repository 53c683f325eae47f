import GatewayPolicy.Yaml.Token
/-!
# From characters to tokens

The lexer keeps the columns of the open block collections and, for each level of flow
collections, the place where a key may have started. A key without a question mark is
only known by the colon after it; its token, and the start of its mapping, are put in
front of it then.
-/

namespace GatewayPolicy.Yaml

/-- A place where a key may have started. -/
structure KeyStart where
  /-- The number of tokens before it. -/
  position : Nat
  line : Nat
  column : Nat
  /-- The octets before it on its line. -/
  offset : Nat
  /-- A colon has to follow, since the line belongs to a mapping. -/
  required : Bool
  deriving Repr

/-- What the lexer knows between two tokens. -/
structure Lexer where
  tokens : Array Token := #[]
  /-- The column of the innermost block collection, `-1` outside of all. -/
  indent : Int := -1
  /-- The columns of the block collections around it, innermost first. -/
  outer : List Int := []
  /-- Whether a key may start here. -/
  keyAllowed : Bool := true
  /-- The possible key of the innermost flow level, or of the block level. -/
  keyStart : Option KeyStart := none
  /-- The possible keys of the levels around it, innermost first; one per open flow collection. -/
  outerKeys : List (Option KeyStart) := []

namespace Lexer

/-- Whether the lexer is inside a flow collection. -/
def inFlow (l : Lexer) : Bool := !l.outerKeys.isEmpty

def emit (l : Lexer) (t : Token) : Lexer := { l with tokens := l.tokens.push t }

/-- Puts a token in front of those from a position on. -/
def insertAt (l : Lexer) (position : Nat) (t : Token) : Lexer :=
  { l with tokens := l.tokens.insertIdxIfInBounds position t }

/-! ## Block collections -/

/-- Closes the block collections to the right of a column. -/
def closeTo (l : Lexer) (column : Int) : Lexer :=
  if l.inFlow then l else go l.tokens l.indent l.outer
where
  /-- The same for the given tokens and columns. -/
  go (tokens : Array Token) (indent : Int) : List Int → Lexer
    | [] => { l with tokens, indent, outer := [] }
    | i :: is => if indent > column then go (tokens.push .blockEnd) i is else { l with tokens, indent, outer := i :: is }

/-- Opens a block collection at a column, unless one is open there, with its token at a position. -/
def openAt (l : Lexer) (column position : Nat) (t : Token) : Lexer :=
  if !l.inFlow && l.indent < column then
    { l.insertAt position t with indent := column, outer := l.indent :: l.outer }
  else l

/-! ## Keys -/

/-- The longest stretch, in octets, between the start of a key and its colon. -/
def maxKeyLength : Nat := 1024

/-- Gives up a key that the given place is too far from. It is an error if it was required. -/
def refresh (here : Glyph) : Option KeyStart → Option (Option KeyStart)
  | none => some none
  | some k =>
    if k.line < here.line || k.offset + maxKeyLength < here.offset then
      if k.required then none else some none
    else some (some k)

/-- Gives up the keys that the given place is too far from. -/
def refreshKeys (l : Lexer) (here : Glyph) : Option Lexer := do
  return { l with keyStart := ← refresh here l.keyStart, outerKeys := ← l.outerKeys.mapM (refresh here) }

/-- Gives up the possible key of this level. It is an error if it was required. -/
def dropKey (l : Lexer) : Option Lexer :=
  if l.keyStart.any (·.required) then none else some { l with keyStart := none }

/-- Takes the given place for the start of a key, if one may start there. -/
def markKey (l : Lexer) (here : Glyph) : Option Lexer :=
  if l.keyAllowed then do
    let l ← l.dropKey
    let required := !l.inFlow && l.indent = here.column
    return { l with keyStart := some ⟨l.tokens.size, here.line, here.column, here.offset, required⟩ }
  else some l

/-! ## Between tokens -/

/-- Skips blanks, comments and breaks up to the next token; tabs are skipped where they do not indent.
Answers also whether a key may start there: in a block it may on a new line. -/
def skipToToken (flow keyAllowed : Bool) (gs : List Glyph) : Bool × List Glyph :=
  go gs keyAllowed false
where
  /-- The same, inside a comment or not. -/
  go : List Glyph → Bool → Bool → Bool × List Glyph
    | [], keyAllowed, _ => (keyAllowed, [])
    | g :: r, keyAllowed, comment =>
      if isBreak g.char then go r (keyAllowed || !flow) false
      else if comment then go r keyAllowed true
      else if g.char == '#' then go r keyAllowed true
      else if g.char == ' ' || (g.char == '\t' && (flow || !keyAllowed)) then go r keyAllowed false
      else if g.column = 0 && g.char == byteOrderMark then go r keyAllowed false
      else (keyAllowed, g :: r)

/-! ## Tokens -/

/-- A directive or a mark between documents ends all block collections. -/
def atDocument (l : Lexer) : Option Lexer := do
  let l ← (l.closeTo (-1)).dropKey
  return { l with keyAllowed := false }

/-- Opens a flow collection. -/
def openFlow (l : Lexer) (here : Glyph) (t : Token) : Option Lexer := do
  let l ← l.markKey here
  return { l.emit t with keyStart := none, outerKeys := l.keyStart :: l.outerKeys, keyAllowed := true }

/-- Closes a flow collection. -/
def closeFlow (l : Lexer) (t : Token) : Option Lexer := do
  let l ← l.dropKey
  let l := { l.emit t with keyAllowed := false }
  match l.outerKeys with
  | k :: ks => return { l with keyStart := k, outerKeys := ks }
  | [] => return l

/-- Starts an indicator of a block collection that needs a fresh line. -/
def atIndicator (l : Lexer) (here : Glyph) (collection : Token) : Option Lexer :=
  if l.inFlow then some l
  else if l.keyAllowed then some (l.openAt here.column l.tokens.size collection)
  else none

/-- The dash of a sequence. -/
def entry (l : Lexer) (here : Glyph) : Option Lexer := do
  let l ← (← l.atIndicator here .blockSequence).dropKey
  return { l.emit .entry with keyAllowed := true }

/-- The question mark of a key. -/
def key (l : Lexer) (here : Glyph) : Option Lexer := do
  let l ← (← l.atIndicator here .blockMapping).dropKey
  return { l.emit .key with keyAllowed := !l.inFlow }

/-- The colon of a value. -/
def value (l : Lexer) (here : Glyph) : Option Lexer :=
  match l.keyStart with
  | some k =>
    -- The mapping goes to the place of the key as well, and so in front of it.
    let l := (l.insertAt k.position .key).openAt k.column k.position .blockMapping
    some { l.emit .value with keyStart := none, keyAllowed := false }
  | none => do
    let l ← l.atIndicator here .blockMapping
    return { l.emit .value with keyAllowed := !l.inFlow }

/-- A token with which a key may start. -/
def atom (l : Lexer) (here : Glyph) (t : Token) : Option Lexer := do
  let l ← l.markKey here
  return { l.emit t with keyAllowed := false }

/-- Whether a plain scalar may start with what is ahead. -/
def startsPlain (flow : Bool) : List Glyph → Bool
  | [] => false
  | g :: r =>
    if g.char == '-' then !(r.head?.any fun b => isBlank b.char)
    else if g.char == '?' || g.char == ':' then !flow && !blankAhead r
    else !(blankAhead [g] || ",[]\x7b\x7d#&*!|>'\"%@`".toList.contains g.char)

/-- Reads one token, which starts with the given character. -/
def next (l : Lexer) (g : Glyph) (r : List Glyph) : Option (Lexer × List Glyph) :=
  let gs := g :: r
  if g.column = 0 && g.char == '%' then do
    let (t, r) ← readDirective r
    return ((← l.atDocument).emit t, r)
  else if let some c := documentMark gs then do
    return ((← l.atDocument).emit (if c = '-' then .documentStart else .documentEnd), r.drop 2)
  else
    match g.char with
    | '[' => do return (← l.openFlow g .flowSequence, r)
    | '\x7b' => do return (← l.openFlow g .flowMapping, r)
    | ']' => do return (← l.closeFlow .flowSequenceEnd, r)
    | '\x7d' => do return (← l.closeFlow .flowMappingEnd, r)
    | ',' => do
      let l ← l.dropKey
      return ({ l.emit .comma with keyAllowed := true }, r)
    | '*' => do
      let (name, r) ← readName r
      return (← l.atom g (.reference name), r)
    | '&' => do
      let (name, r) ← readName r
      return (← l.atom g (.anchor name), r)
    | '!' => do
      let (t, r) ← readTag l.inFlow gs
      return (← l.atom g t, r)
    | '\'' => do
      let (text, r) ← readSingle [] .none r
      return (← l.atom g (.scalar false text), r)
    | '"' => do
      let (text, r) ← readDouble [] .none .text r
      return (← l.atom g (.scalar false text), r)
    | c => do
      if c == '-' && blankAhead r then return (← l.entry g, r)
      if c == '?' && (l.inFlow || blankAhead r) then return (← l.key g, r)
      if c == ':' && (l.inFlow || blankAhead r) then return (← l.value g, r)
      if (c == '|' || c == '>') && !l.inFlow then
        let l ← l.dropKey
        let (text, r) ← readBlock (c == '>') l.indent r
        -- A block scalar takes its last line whole, so what follows is on a fresh one.
        return ({ l.emit (.scalar false text) with keyAllowed := true }, r)
      if startsPlain l.inFlow gs then
        let (text, lineEnded, r) ← readPlain l.inFlow (l.indent + 1) [] .none true gs
        let l ← l.atom g (.scalar true text)
        return ({ l with keyAllowed := lineEnded }, r)
      none

/-- The end of the text closes all block collections. -/
def finish (l : Lexer) : Option (List Token) := do
  let l ← (l.closeTo (-1)).dropKey
  return l.tokens.toList

/-- Reads all tokens of a text with fewer than `bound` characters. -/
def run (l : Lexer) : (bound : Nat) → List Glyph → Option (List Token)
  | 0, _ => none
  | bound + 1, gs =>
    let (keyAllowed, gs) := skipToToken l.inFlow l.keyAllowed gs
    match gs with
    | [] => finish { l with keyAllowed }
    | g :: r => do
      let l ← refreshKeys { l with keyAllowed } g
      let (l, r) ← (l.closeTo g.column).next g r
      l.run bound r

end Lexer

/-- The tokens of a YAML text. -/
def tokens? (s : String) : Option (List Token) := do
  let gs ← glyphs? s.toList
  Lexer.run {} (gs.length + 1) gs

end GatewayPolicy.Yaml
