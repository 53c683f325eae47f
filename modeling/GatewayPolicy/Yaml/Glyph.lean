/-!
# Placed characters

A YAML text as characters with their places. Every line break is one character, `'\n'`
unless it is one of the two Unicode separators, which keep their own. Columns count
characters; lengths along a line count octets.
-/

namespace GatewayPolicy.Yaml

/-- A character and its place. -/
structure Glyph where
  char : Char
  line : Nat
  column : Nat
  /-- The octets before it on its line. -/
  offset : Nat
  deriving DecidableEq, Repr, Inhabited

/-- Whether a text may hold a character. -/
def isAllowed (c : Char) : Bool :=
  let n := c.toNat
  n == 0x09 || n == 0x0A || n == 0x0D || (0x20 ≤ n && n ≤ 0x7E) || n == 0x85 ||
    (0xA0 ≤ n && n ≤ 0xFFFD) || 0x10000 ≤ n

/-- The mark that may stand in front of a line. It takes a column there. -/
def byteOrderMark : Char := '\ufeff'

/-- Whether a character separates two lines for good: it is not folded. -/
def isSeparator (c : Char) : Bool := c == '\u2028' || c == '\u2029'

/-- Whether a character ends a line, once breaks are brought to one form. -/
def isBreak (c : Char) : Bool := c == '\n' || isSeparator c

/-- Whether a character is a blank within a line. -/
def isBlank (c : Char) : Bool := c == ' ' || c == '\t'

/-- The characters of a text with their places, from the given place on. -/
def place (line column offset : Nat) : List Char → List Glyph
  | [] => []
  | '\r' :: '\n' :: r => ⟨'\n', line, column, offset⟩ :: place (line + 1) 0 0 r
  | c :: r =>
    if c == '\r' || c == '\n' || c == '\x85' then ⟨'\n', line, column, offset⟩ :: place (line + 1) 0 0 r
    else if isSeparator c then ⟨c, line, column, offset⟩ :: place (line + 1) 0 0 r
    else ⟨c, line, column, offset⟩ :: place line (column + 1) (offset + c.utf8Size) r

/-- The characters of a text with their places, if the text may hold them. -/
def glyphs? (cs : List Char) : Option (List Glyph) :=
  if cs.all isAllowed then some (place 0 0 0 cs) else none

/-- Whether a list starts with a blank, a break or nothing. -/
def blankAhead : List Glyph → Bool
  | [] => true
  | g :: _ => isBlank g.char || isBreak g.char

/-- Whether a list starts with the given character. -/
def ahead (c : Char) : List Glyph → Bool
  | [] => false
  | g :: _ => g.char == c

/-- Whether a list starts, at the first column, with a mark between documents. -/
def documentMark : List Glyph → Option Char
  | a :: b :: c :: r =>
    if a.column = 0 && (a.char == '-' || a.char == '.') && b.char == a.char && c.char == a.char && blankAhead r then
      some a.char
    else none
  | _ => none

/-- The first characters that satisfy a condition, and what follows them. -/
def span (p : Char → Bool) (gs : List Glyph) : List Char × List Glyph :=
  ((gs.takeWhile fun g => p g.char).map Glyph.char, gs.dropWhile fun g => p g.char)

end GatewayPolicy.Yaml
