import GatewayPolicy.Compile.Section
import GatewayPolicy.Interchange.LoadError
import GatewayPolicy.Policy.Leaf
import GatewayPolicy.Source.Kind
/-!
# Compile errors

A failure inside a section has a cause; the error adds the section. Causes and
errors are told apart by their constructors, and each has one message.
-/

namespace GatewayPolicy

/-- Why a node of a known kind does not compile. -/
inductive Reason where
  /-- The expression of a statement is no call. -/
  | notPolicyCall (text : String)
  /-- The called expression is no member. -/
  | notOnContext (text : String)
  /-- The member is not one of the request context. -/
  | wrongReceiver (text parameter : String)
  | unknownPolicy (method : String)
  | noVariableName
  /-- The result of the policy cannot be bound to a variable. -/
  | noValue (method : String)
  | branchNotBlock (text : String)
  | notCondition (text : String)
  | notExpression (text : String)
  | holeNotName (text : String)
  | badEscape (template : String)
  | notLambda (text : String)
  | parameterCount (text : String)
  | parameterName (expected found : String)
  | emptyLambda
  | notHelperCall (text : String)
  | helperArguments (text parameter : String)
  | helperVoid (name : String)
  | helperParameters (name parameter : String)
  | helperWithoutBody (name : String)
  | sectionReturns (method type : String)
  | sectionWithoutBlock (method : String)
  /-- Any other reason, in its own words. -/
  | other (message : String)
  deriving DecidableEq, Repr

def Reason.message : Reason → String
  | notPolicyCall text => s!"`{text}` is not a policy method call"
  | notOnContext text => s!"`{text}` must be called on the context"
  | wrongReceiver text parameter => s!"`{text}` must be called on '{parameter}'"
  | unknownPolicy method => s!"unknown policy method '{method}'"
  | noVariableName => "declaration has no variable name"
  | noValue method => s!"policy method '{method}' does not produce a value"
  | branchNotBlock text => s!"branch body `{text}` must be a block"
  | notCondition text => s!"`{text}` cannot be used as a condition"
  | notExpression text => s!"cannot extract an expression from `{text}`"
  | holeNotName text => s!"interpolation hole `{text}` must reference a variable by name"
  | badEscape template => s!"invalid escape sequence in `$\"{template}\"`"
  | notLambda text => s!"`{text}` is not a lambda"
  | parameterCount text => s!"lambda `{text}` must take exactly one parameter"
  | parameterName expected found => s!"lambda parameter must be named '{expected}' but is '{found}'"
  | emptyLambda => "lambda has an empty body"
  | notHelperCall text => s!"`{text}` does not call a helper method of the declaration"
  | helperArguments text parameter => s!"helper call `{text}` may only pass '{parameter}' through"
  | helperVoid name => s!"helper '{name}' does not return a value"
  | helperParameters name parameter => s!"helper '{name}' must take no parameters or a single '{parameter}' parameter"
  | helperWithoutBody name => s!"helper '{name}' has no body"
  | sectionReturns method type => s!"section method '{method}' must return void, found '{type}'"
  | sectionWithoutBlock method => s!"section method '{method}' must have a block body"
  | other message => message

/-- The numbers of arguments that a policy takes: from a least one up to a largest one, if any. -/
structure Arity where
  least : Nat
  most : Option Nat
  deriving DecidableEq, Repr

namespace Arity

/-- Whether a number of arguments is taken. -/
def accepts (a : Arity) (n : Nat) : Bool := a.least ≤ n && a.most.all fun m => n ≤ m

/-- The words for the numbers that are taken. -/
def describe (a : Arity) : String :=
  match a.most with
  | none => s!"at least {a.least}"
  | some m => if a.least = m then s!"{m}" else s!"{a.least} to {m}"

end Arity

/-- What is wrong with the arguments of a policy. -/
inductive ArgumentFault where
  /-- There are too few or too many. -/
  | number (accepted : Arity) (found : Nat)
  /-- A count is no literal. -/
  | notLiteral (field text : String)
  /-- A count is no whole number of 32 bits. -/
  | notCount (field text : String)
  /-- Any other fault, in its own words. -/
  | other (message : String)
  deriving DecidableEq, Repr

def ArgumentFault.message : ArgumentFault → String
  | number accepted found => s!"expected {accepted.describe} argument(s), found {found}"
  | notLiteral field text => s!"{field} must be an integer literal, found `{text}`"
  | notCount field text => s!"{field} must be a non-negative integer, found `{text}`"
  | other message => message

/-- Why a section does not compile. -/
inductive Cause where
  /-- A node is of another kind than its place asks for. -/
  | structural (expected found : Kind)
  /-- A node of a known kind does not compile. -/
  | unsupported (kind : Kind) (reason : Reason)
  /-- A policy is called with the wrong arguments. -/
  | arguments (policy : String) (fault : ArgumentFault)
  /-- A helper is called that is not declared. -/
  | lookup (name : String)
  /-- The values of a policy do not make an element. -/
  | build (error : BuildError)
  /-- Errors were reported on the way. -/
  | reported (messages : List String)
  deriving DecidableEq, Repr

/-- The message for a cause in a section. -/
def Cause.message (s : Section) : Cause → String
  | structural expected found =>
    s!"Structural error in section '{s.tag}' ({s.methodName}): expected {expected.title}, found {found.title}"
  | unsupported kind reason =>
    s!"Unsupported {kind.title} in section '{s.tag}' ({s.methodName}): {reason.message}"
  | arguments policy fault =>
    s!"Invalid arguments for '{policy}' in section '{s.tag}' ({s.methodName}): {fault.message}"
  | lookup name =>
    s!"Helper method '{name}' referenced in section '{s.tag}' ({s.methodName}) is not declared"
  | build error => s!"Failed to build policy in section '{s.tag}' ({s.methodName}): {error.message}"
  | reported messages =>
    s!"{messages.length} error(s) reported in section '{s.tag}' ({s.methodName}): " ++
      String.intercalate "; " messages

/-- Why a declaration does not compile. -/
inductive CompileError where
  /-- A section fails. -/
  | inSection (s : Section) (cause : Cause)
  /-- A method that returns nothing is no section method. -/
  | unsupportedSection (method : String)
  /-- There is no declaration to compile. -/
  | load (error : LoadError)
  /-- The text of the options holds no options. -/
  | options
  deriving Repr

namespace CompileError

/-- The tag of the section that fails. -/
def section? : CompileError → Option String
  | inSection s _ => some s.tag
  | _ => none

/-- The method that fails. -/
def method? : CompileError → Option String
  | inSection s _ => some s.methodName
  | unsupportedSection method => some method
  | _ => none

/-- The message for an error, where it has one. -/
def message? : CompileError → Option String
  | inSection s cause => some (cause.message s)
  | unsupportedSection method => some ("Unsupported section method: " ++ method)
  | load error => error.message?.map ("Parse error: " ++ ·)
  | options => none

end CompileError

end GatewayPolicy
