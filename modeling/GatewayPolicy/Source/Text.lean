import GatewayPolicy.Source.Node
import GatewayPolicy.Text.Decimal
/-!
# Source text of nodes

The source text of a node follows from its kind, its token and the texts of its
children. Literals stay bare when they read as a keyword or a number and are
quoted otherwise.
-/

namespace GatewayPolicy

/-! ## Literals -/

/-- How one character is written between quotes. -/
def quoteChar (c : Char) : List Char :=
  if c = '"' then ['\\', '"']
  else if c = '\\' then ['\\', '\\']
  else if c = '\n' then ['\\', 'n']
  else if c = '\t' then ['\\', 't']
  else [c]

/-- The characters of a string literal. -/
def quoteChars (cs : List Char) : List Char := '"' :: (cs.flatMap quoteChar ++ ['"'])

/-- The string literal for a value. -/
def quote (s : String) : String := String.ofList (quoteChars s.toList)

/-- The literals that are words of the language. -/
def keywords : List String := ["true", "false", "null"]

/-- Whether a value is written without quotes. -/
def isBare (s : String) : Bool := keywords.contains s || Text.isReal s.toList

/-- The source text of a literal. -/
def literalText (s : String) : String := if isBare s then s else quote s

/-! ## Nodes -/

/-- The texts of some nodes, one after the other. -/
def joinTexts (separator : String) (ns : List Node) : String :=
  String.intercalate separator (ns.map Node.text)

/-- The text of the child at a position, empty when there is none. -/
def childText (ns : List Node) (i : Nat) : String := (ns[i]?.map Node.text).getD ""

/-- The source text of a node with the given kind, token and children. -/
def synthesize (k : Kind) (token : Option String) (children : List Node) : String :=
  let first := childText children 0
  let name := token.getD ""
  match k with
  | .block => if children.isEmpty then "\x7b \x7d" else "\x7b " ++ joinTexts " " children ++ " \x7d"
  | .ifStatement =>
    let head := "if (" ++ first ++ ") " ++ childText children 1
    match children[2]? with
    | some clause => head ++ " " ++ clause.text
    | none => head
  | .elseClause => "else " ++ first
  | .expressionStatement => first ++ ";"
  | .localDeclaration => "var " ++ name ++ " = " ++ first ++ ";"
  | .returnStatement => if children.isEmpty then "return;" else "return " ++ first ++ ";"
  | .invocation => first ++ "(" ++ joinTexts ", " (children.drop 1) ++ ")"
  | .memberAccess => first ++ "." ++ name
  | .literal => literalText name
  | .interpolatedString => "$\"" ++ joinTexts "" children ++ "\""
  | .interpolation => "\x7b" ++ first ++ "\x7d"
  | .interpolatedText | .anonymousFunction | .identifier => name

/-! ## Construction -/

namespace Node

/-- A node with the text its parts give it. -/
def make (k : Kind) (token : Option String) (children : List Node) : Node :=
  ⟨k, token, children, synthesize k token children⟩

/-- A statement list. -/
def block (statements : List Node) : Node := make .block none statements

/-- An if statement without an else clause. -/
def ifStatement (condition statement : Node) : Node := make .ifStatement none [condition, statement]

/-- An if statement with an else clause around the last statement. -/
def ifElse (condition statement otherwise : Node) : Node :=
  make .ifStatement none [condition, statement, make .elseClause none [otherwise]]

/-- An expression as a statement. -/
def expressionStatement (e : Node) : Node := make .expressionStatement none [e]

/-- A local variable with its initial value. -/
def localDeclaration (name : String) (e : Node) : Node := make .localDeclaration (some name) [e]

/-- The end of a method with its value. -/
def returnStatement (e : Node) : Node := make .returnStatement none [e]

def identifier (name : String) : Node := make .identifier (some name) []

/-- A member of a receiver. -/
def memberAccess (receiver : Node) (member : String) : Node := make .memberAccess (some member) [receiver]

def invocation (target : Node) (arguments : List Node) : Node := make .invocation none (target :: arguments)

/-- A call of a member of a named receiver. -/
def methodCall (receiver method : String) (arguments : List Node) : Node :=
  invocation (memberAccess (identifier receiver) method) arguments

/-- A string literal, quoted whatever its value reads as. -/
def stringLiteral (value : String) : Node := ⟨.literal, some value, [], quote value⟩

/-- A literal whose text is its value. -/
def bareLiteral (value : String) : Node := ⟨.literal, some value, [], value⟩

/-- A string of texts and holes. -/
def interpolatedString (parts : List Node) : Node := make .interpolatedString none parts

/-- The text between two holes, as it is written. -/
def interpolatedText (raw : String) : Node := make .interpolatedText (some raw) []

def interpolation (e : Node) : Node := make .interpolation none [e]

/-- A lambda with the given source text. -/
def anonymousFunction (source : String) : Node := ⟨.anonymousFunction, none, [], source⟩

end Node

end GatewayPolicy
