import GatewayPolicy.Text.Decimal
/-!
# Escapes of interpolated text

The text of an interpolated string is written with doubled braces and with the
backslash escapes of a string literal. `unescape` gives the characters that such a
text stands for, and nothing if an item of it is not well formed.
-/

namespace GatewayPolicy.Text

/-- The character that a backslash and one letter stand for. -/
def simpleEscape : Char → Option Char
  | '"' => some '"'
  | '\'' => some '\''
  | '\\' => some '\\'
  | '0' => some '\x00'
  | 'n' => some '\n'
  | 'r' => some '\r'
  | 't' => some '\t'
  | _ => none

/-- The character with a number, which is no surrogate and not too large. -/
def charOfNat? (n : Nat) : Option Char :=
  if h : n.isValidChar then some (Char.ofNatAux n h) else none

/-- The character that the four characters after `\u` stand for. -/
def codeEscape (ds : List Char) : Option Char := do charOfNat? (← readHex ds)

/-- The characters that escaped text stands for. -/
def unescape : List Char → Option (List Char)
  | [] => some []
  | '\x7b' :: '\x7b' :: r => (unescape r).map ('\x7b' :: ·)
  | '\x7d' :: '\x7d' :: r => (unescape r).map ('\x7d' :: ·)
  | '\\' :: 'u' :: a :: b :: c :: d :: r => do
    let x ← codeEscape [a, b, c, d]
    return x :: (← unescape r)
  | '\\' :: e :: r => do
    let x ← simpleEscape e
    return x :: (← unescape r)
  | c :: r => if c = '\x7b' ∨ c = '\x7d' ∨ c = '\\' then none else (unescape r).map (c :: ·)

end GatewayPolicy.Text
