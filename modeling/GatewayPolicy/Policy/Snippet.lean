import GatewayPolicy.Text.Blank
/-!
# Expression snippets

A snippet is an expression that the gateway evaluates for each request, or a
constant. The policy document carries code as `@(expression)` or `@{ statements }`.
-/

namespace GatewayPolicy

/-- What the gateway makes of a snippet. -/
inductive ResultType where
  | value
  | predicate
  deriving DecidableEq, Repr

/-- A constant, or the body of a lambda with its parameter list. -/
inductive SnippetSource where
  | literal (text : String)
  | code (parameter body : String)
  deriving DecidableEq, Repr

/-- An expression carried into a policy document. -/
structure Snippet where
  resultType : ResultType
  source : SnippetSource
  deriving DecidableEq, Repr

namespace Snippet

/-- A constant value. -/
def literal (text : String) : Snippet := ⟨.value, .literal text⟩

/-- Code with a trimmed body. -/
def code (t : ResultType) (parameter body : String) : Snippet := ⟨t, .code parameter (Text.trimmed body)⟩

/-- Code that gives a value. -/
def valueCode (parameter body : String) : Snippet := code .value parameter body

/-- Code that decides a condition. -/
def predicate (parameter body : String) : Snippet := code .predicate parameter body

/-- Whether a snippet is evaluated for each request. -/
def isCode (s : Snippet) : Bool :=
  match s.source with
  | .literal _ => false
  | .code .. => true

/-- The snippet as source: the constant, or the lambda. -/
def sourceText (s : Snippet) : String :=
  match s.source with
  | .literal text => text
  | .code parameter body => parameter ++ " => " ++ body

/-- Whether the body of a lambda is a statement list in braces. -/
def isBracedBody (body : String) : Bool :=
  body.toList.head? == some '\x7b' && body.toList.getLast? == some '\x7d'

/-- The snippet as the document carries it. -/
def policyText (s : Snippet) : String :=
  match s.source with
  | .literal text => text
  | .code _ body => if isBracedBody body then "@" ++ body else "@(" ++ body ++ ")"

end Snippet

end GatewayPolicy
