import GatewayPolicy.Policy.Fragment
/-!
# XML text of fragments

Elements stand on lines of their own, indented by four blanks per level, except
next to a text: no line break is written after one. An element without text and
children is one empty tag.
-/

namespace GatewayPolicy.Xml

/-- How one character is written in texts and attribute values. -/
def escapeChar (c : Char) : List Char :=
  if c = '<' then "&lt;".toList
  else if c = '>' then "&gt;".toList
  else if c = '&' then "&amp;".toList
  else if c = '\'' then "&apos;".toList
  else if c = '"' then "&quot;".toList
  else [c]

/-- A text with the markup characters written as entities. -/
def escape (s : String) : List Char := s.toList.flatMap escapeChar

/-- The blanks per level. -/
def indentWidth : Nat := 4

/-- A line break and the indentation of a level. -/
def lineBreak (depth : Nat) : List Char := '\n' :: List.replicate (indentWidth * depth) ' '

/-- The attributes of a tag. -/
def attributes (a : Attributes) : List Char :=
  a.entries.flatMap fun (name, value) => ' ' :: (name.toList ++ '=' :: '"' :: (escape value ++ ['"']))

/-- The characters of a tag between the angle brackets, attributes included. -/
def tagBody (f : Fragment) : List Char := f.tag.toList ++ attributes f.attributes

mutual

/-- The element at a level. -/
def element (depth : Nat) : Fragment → List Char
  | ⟨tag, attrs, none, []⟩ => '<' :: (tagBody ⟨tag, attrs, none, []⟩ ++ ['/', '>'])
  | ⟨tag, attrs, text, cs⟩ =>
    '<' :: (tagBody ⟨tag, attrs, text, cs⟩ ++ '>' :: ((text.map escape).getD [] ++
      elements (depth + 1) text.isNone cs ++
      (if text.isSome && cs.isEmpty then [] else lineBreak depth) ++
      '<' :: '/' :: (tag.toList ++ ['>'])))

/-- Elements at a level, the first of them after a line break if `breakFirst` holds. -/
def elements (depth : Nat) (breakFirst : Bool) : List Fragment → List Char
  | [] => []
  | f :: fs => (if breakFirst then lineBreak depth else []) ++ element depth f ++ elements depth true fs

end

/-- The XML text of a fragment. -/
def render (f : Fragment) : String := String.ofList (element 0 f)

end GatewayPolicy.Xml
