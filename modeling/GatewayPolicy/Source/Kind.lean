/-!
# Kinds of nodes

The fourteen kinds of node a policy source tree is made of. A kind has a title,
used in messages, and a code, used in stored trees.
-/

namespace GatewayPolicy

/-- The kind of a source node. -/
inductive Kind where
  /-- A statement list in braces. -/
  | block
  /-- A condition, a statement and at most one else clause. -/
  | ifStatement
  /-- The last part of an if statement. -/
  | elseClause
  /-- An expression used as a statement. -/
  | expressionStatement
  /-- A local variable with its initial value. -/
  | localDeclaration
  /-- The end of a method, with its value if it has one. -/
  | returnStatement
  /-- A call: the called expression, then the arguments. -/
  | invocation
  /-- A member of a receiver. -/
  | memberAccess
  /-- A string, number, boolean or null. -/
  | literal
  /-- A string with holes. -/
  | interpolatedString
  /-- The text between two holes. -/
  | interpolatedText
  /-- A hole. -/
  | interpolation
  /-- A lambda, kept as its source text. -/
  | anonymousFunction
  /-- A plain name. -/
  | identifier
  deriving DecidableEq, Repr, Inhabited

namespace Kind

/-- Every kind, in the order in which messages list them. -/
def all : List Kind :=
  [block, ifStatement, elseClause, expressionStatement, localDeclaration, returnStatement, invocation,
    memberAccess, literal, interpolatedString, interpolatedText, interpolation, anonymousFunction, identifier]

/-- The name of a kind in messages. -/
def title : Kind → String
  | block => "block"
  | ifStatement => "if statement"
  | elseClause => "else clause"
  | expressionStatement => "expression statement"
  | localDeclaration => "local declaration"
  | returnStatement => "return statement"
  | invocation => "invocation"
  | memberAccess => "member access"
  | literal => "literal"
  | interpolatedString => "interpolated string"
  | interpolatedText => "interpolated text"
  | interpolation => "interpolation"
  | anonymousFunction => "anonymous function"
  | identifier => "identifier"

/-- The name of a kind in stored trees. -/
def code : Kind → String
  | block => "block"
  | ifStatement => "if_statement"
  | elseClause => "else_clause"
  | expressionStatement => "expression_statement"
  | localDeclaration => "local_declaration"
  | returnStatement => "return_statement"
  | invocation => "invocation"
  | memberAccess => "member_access"
  | literal => "literal"
  | interpolatedString => "interpolated_string"
  | interpolatedText => "interpolated_text"
  | interpolation => "interpolation"
  | anonymousFunction => "anonymous_function"
  | identifier => "identifier"

/-- The kind a code stands for. -/
def ofCode? (s : String) : Option Kind := all.find? fun k => k.code == s

/-- Whether nodes of a kind stand where statements do. -/
def isStatement : Kind → Bool
  | block | ifStatement | expressionStatement | localDeclaration | returnStatement => true
  | _ => false

/-- Whether nodes of a kind stand where expressions do. -/
def isExpression : Kind → Bool
  | invocation | memberAccess | literal | interpolatedString | anonymousFunction | identifier => true
  | _ => false

theorem ofCode?_code (k : Kind) : ofCode? k.code = some k := by
  cases k <;> decide

theorem mem_all (k : Kind) : k ∈ all := by
  cases k <;> decide

end Kind

end GatewayPolicy
