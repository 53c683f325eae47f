import GatewayPolicy.Text.Shown
/-!
# Strings in messages

A message shows a string between double quotes, with escapes for the quotes, the
backslashes and the characters that have no glyph of their own.
-/

namespace GatewayPolicy.Text

/-- How a message shows one character of a string. -/
def displayChar (c : Char) : List Char :=
  if c = '"' then ['\\', '"']
  else if c = '\\' then ['\\', '\\']
  else if c = '\n' then ['\\', 'n']
  else if c = '\r' then ['\\', 'r']
  else if c = '\t' then ['\\', 't']
  else if c.toNat = 0 then ['\\', '0']
  else if isShown c then [c]
  else '\\' :: 'u' :: '\x7b' :: (Nat.toDigits 16 c.toNat ++ ['\x7d'])

/-- A string as a message shows it. -/
def display (s : String) : String := String.ofList ('"' :: (s.toList.flatMap displayChar ++ ['"']))

end GatewayPolicy.Text
