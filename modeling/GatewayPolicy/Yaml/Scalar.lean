import GatewayPolicy.Text.Decimal
import GatewayPolicy.Text.Escape
import GatewayPolicy.Yaml.Glyph
/-!
# Scalars

The three ways to write a scalar: plain, quoted, and as a block. Each reader goes
through the characters once and answers the text of the scalar and what follows it.
Line breaks inside plain and quoted scalars are folded: one break is a blank, more
breaks lose the first.
-/

namespace GatewayPolicy.Yaml

/-! ## Gaps between words -/

/-- The white space after a word, last character first, as far as it is read. -/
inductive Gap where
  /-- Blanks on one line. -/
  | blanks (cs : List Char)
  /-- One break, then more of them. -/
  | broken (first : Char) (more : List Char)
  /-- Breaks after one that a backslash took away. -/
  | joined (more : List Char)
  deriving Repr

namespace Gap

def none : Gap := blanks []

/-- A gap and a further blank. Blanks around breaks are lost. -/
def blank (c : Char) : Gap → Gap
  | blanks cs => blanks (c :: cs)
  | g => g

/-- A gap and a further break. -/
def lineEnd (c : Char) : Gap → Gap
  | blanks _ => broken c []
  | broken b more => broken b (c :: more)
  | joined more => joined (c :: more)

/-- Whether a gap goes over the end of a line. -/
def endsLine : Gap → Bool
  | blanks _ => false
  | _ => true

/-- What a gap leaves in the scalar, last character first. -/
def text : Gap → List Char
  | blanks cs => cs
  | joined more => more
  | broken b more => if b = '\n' then (if more.isEmpty then [' '] else more) else more ++ [b]

end Gap

/-- The text of characters given last first. -/
def textOf (done : List Char) : String := String.ofList done.reverse

/-! ## Plain scalars -/

/-- The indicators of flow collections. -/
def isFlowIndicator (c : Char) : Bool := c == ',' || c == '[' || c == ']' || c == '\x7b' || c == '\x7d'

/-- Whether a plain scalar ends before what is ahead. -/
def endsPlain (flow : Bool) : List Glyph → Bool
  | [] => true
  | g :: r => (g.char == ':' && blankAhead r) || (flow && isFlowIndicator g.char)

/-- Whether a colon in a flow collection stands where no scalar may have one. -/
def badColon (flow : Bool) : List Glyph → Bool
  | a :: b :: _ => flow && a.char == ':' && (b.char == '?' || isFlowIndicator b.char)
  | _ => false

/-- Reads a plain scalar whose lines are indented to the column `indent` at least. Answers also
whether a line ended after it. -/
def readPlain (flow : Bool) (indent : Int) (done : List Char) (gap : Gap) (wordStart : Bool) :
    List Glyph → Option (String × Bool × List Glyph)
  | [] => some (textOf done, gap.endsLine, [])
  | g :: r =>
    if isBlank g.char then
      -- A tab must not indent a line that the scalar goes on in.
      if gap.endsLine && g.column < indent && g.char == '\t' then none
      else readPlain flow indent done (gap.blank g.char) true r
    else if isBreak g.char then readPlain flow indent done (gap.lineEnd g.char) true r
    else if wordStart && ((documentMark (g :: r)).isSome || g.char == '#' ||
        (gap.endsLine && !flow && g.column < indent)) then
      some (textOf done, gap.endsLine, g :: r)
    else if badColon flow (g :: r) then none
    else if endsPlain flow (g :: r) then some (textOf done, gap.endsLine, g :: r)
    else readPlain flow indent (g.char :: (gap.text ++ done)) .none false r

/-! ## Quoted scalars -/

/-- Reads a scalar after its opening single quote. A quote inside is written twice. -/
def readSingle (done : List Char) (gap : Gap) : List Glyph → Option (String × List Glyph)
  | [] => none
  | g :: r =>
    if isBlank g.char then readSingle done (gap.blank g.char) r
    else if isBreak g.char then readSingle done (gap.lineEnd g.char) r
    else if (documentMark (g :: r)).isSome then none
    else
      let done := gap.text ++ done
      if g.char = '\'' then
        match r with
        | q :: r' => if q.char = '\'' then readSingle ('\'' :: done) .none r' else some (textOf done, q :: r')
        | [] => some (textOf done, [])
      else readSingle (g.char :: done) .none r

/-- What a backslash and one character stand for: a character, or one with its number in so many
hexadecimal digits. -/
def doubleEscape : Char → Option (Char ⊕ Nat)
  | '0' => some (.inl '\x00')
  | 'a' => some (.inl '\x07')
  | 'b' => some (.inl '\x08')
  | 't' | '\t' => some (.inl '\t')
  | 'n' => some (.inl '\n')
  | 'v' => some (.inl '\x0b')
  | 'f' => some (.inl '\x0c')
  | 'r' => some (.inl '\r')
  | 'e' => some (.inl '\x1b')
  | ' ' => some (.inl ' ')
  | '"' => some (.inl '"')
  | '/' => some (.inl '/')
  | '\\' => some (.inl '\\')
  | 'N' => some (.inl '\x85')
  | '_' => some (.inl '\xa0')
  | 'L' => some (.inl '\u2028')
  | 'P' => some (.inl '\u2029')
  | 'x' => some (.inr 2)
  | 'u' => some (.inr 4)
  | 'U' => some (.inr 8)
  | _ => none

/-- Where the reader of a double quoted scalar is. -/
inductive DoubleState where
  | text
  | escape
  /-- So many digits of a number are still to come. -/
  | digits (left : Nat) (value : Nat)
  deriving Repr

/-- Reads a scalar after its opening double quote. -/
def readDouble (done : List Char) (gap : Gap) : DoubleState → List Glyph → Option (String × List Glyph)
  | _, [] => none
  | .escape, g :: r =>
    if isBreak g.char then readDouble done (.joined []) .text r
    else
      match doubleEscape g.char with
      | some (.inl c) => readDouble (c :: done) .none .text r
      | some (.inr n) => readDouble done .none (.digits n 0) r
      | none => none
  | .digits left value, g :: r => do
    let value := 16 * value + (← Text.hexValue? g.char)
    if left ≤ 1 then
      let c ← Text.charOfNat? value
      readDouble (c :: done) .none .text r
    else readDouble done .none (.digits (left - 1) value) r
  | .text, g :: r =>
    if isBlank g.char then readDouble done (gap.blank g.char) .text r
    else if isBreak g.char then readDouble done (gap.lineEnd g.char) .text r
    else if (documentMark (g :: r)).isSome then none
    else
      let done := gap.text ++ done
      if g.char = '"' then some (textOf done, r)
      else if g.char = '\\' then readDouble done .none .escape r
      else readDouble (g.char :: done) .none .text r

/-! ## Block scalars -/

/-- What becomes of the breaks after a block scalar. -/
inductive Chomping where
  | strip
  | clip
  | keep
  deriving DecidableEq, Repr

/-- The header of a block scalar. -/
structure BlockHeader where
  folded : Bool
  chomping : Chomping
  /-- The indentation relative to the parent, unless the first line shows it. -/
  increment : Option Nat
  deriving Repr

/-- The chomping indicator at the start of a list. -/
def readChomping : List Glyph → Option Chomping × List Glyph
  | [] => (none, [])
  | g :: r => if g.char = '+' then (some .keep, r) else if g.char = '-' then (some .strip, r) else (none, g :: r)

/-- The indentation indicator at the start of a list, a digit from one to nine. -/
def readIncrement : List Glyph → Option (Option Nat × List Glyph)
  | [] => some (none, [])
  | g :: r =>
    if g.char = '0' then none
    else if g.char.isDigit then some (some (Text.digitValue g.char), r)
    else some (none, g :: r)

/-- The rest of a line that holds nothing but blanks and a comment, with its break. -/
def skipLine (gs : List Glyph) : Option (List Glyph) :=
  let r := (span isBlank gs).2
  let r := if ahead '#' r then (span (fun c => !isBreak c) r).2 else r
  match r with
  | [] => some []
  | g :: r => if isBreak g.char then some r else none

/-- Reads the header of a block scalar after its indicator, up to the end of the line. -/
def readHeader (folded : Bool) (gs : List Glyph) : Option (BlockHeader × List Glyph) := do
  let (chomping, r) := readChomping gs
  let (increment, r) ← readIncrement r
  let (chomping, r) := if chomping.isNone && increment.isSome then readChomping r else (chomping, r)
  return (⟨folded, chomping.getD .clip, increment⟩, ← skipLine r)

/-- The column of the first line that is not empty, at least that of the emptier lines before it,
where `column` is the present one. A tab in the indentation is an error. -/
def findIndent (column deepest : Nat) : List Glyph → Option Nat
  | [] => some (max deepest column)
  | g :: r =>
    if g.char = ' ' then findIndent (column + 1) deepest r
    else if g.char = '\t' then none
    else if isBreak g.char then findIndent 0 (max deepest column) r
    else some (max deepest column)

/-- A block scalar as far as it is read, last characters first. -/
structure BlockText where
  done : List Char := []
  /-- The break after the last line. -/
  lead : Option Char := none
  /-- The breaks after that one. -/
  trailing : List Char := []
  /-- Whether the last line started with a blank. -/
  leadingBlank : Bool := false

namespace BlockText

/-- A further line, of which only the first character is known. A folded scalar joins two lines
of which none starts with a blank. -/
def startLine (folded : Bool) (b : BlockText) (c : Char) : BlockText :=
  let joins := folded && b.lead == some '\n' && !b.leadingBlank && !isBlank c
  let between := if joins then (if b.trailing.isEmpty then [' '] else []) else b.lead.toList
  { done := c :: (b.trailing ++ between ++ b.done), leadingBlank := isBlank c }

/-- The text of the scalar. -/
def finish (chomping : Chomping) (b : BlockText) : String :=
  match chomping with
  | .strip => textOf b.done
  | .clip => textOf (b.lead.toList ++ b.done)
  | .keep => textOf (b.trailing ++ b.lead.toList ++ b.done)

end BlockText

/-- Reads the lines of a block scalar at the column `indent`. -/
def readLines (h : BlockHeader) (indent : Nat) (b : BlockText) (inLine : Bool) :
    List Glyph → Option (String × List Glyph)
  | [] => some (b.finish h.chomping, [])
  | g :: r =>
    if inLine then
      if isBreak g.char then readLines h indent { b with lead := some g.char } false r
      else readLines h indent { b with done := g.char :: b.done } true r
    else if g.column < indent && g.char == ' ' then readLines h indent b false r
    else if g.column < indent && g.char == '\t' then none
    else if isBreak g.char then readLines h indent { b with trailing := g.char :: b.trailing } false r
    else if g.column = indent then readLines h indent (b.startLine h.folded g.char) true r
    else some (b.finish h.chomping, g :: r)

/-- Reads a block scalar after its indicator, in a collection at the column `parent`. -/
def readBlock (folded : Bool) (parent : Int) (gs : List Glyph) : Option (String × List Glyph) := do
  let (h, r) ← readHeader folded gs
  let least := max parent 0
  let indent ← match h.increment with
    | some n => some (least + n).toNat
    | none => (findIndent 0 0 r).map fun n => max (max n (parent + 1).toNat) 1
  readLines h indent {} false r

end GatewayPolicy.Yaml
