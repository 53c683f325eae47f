import GatewayPolicy.Compile.Error
import GatewayPolicy.Compile.MethodTable
import GatewayPolicy.Compile.Options
import GatewayPolicy.Text.Arrow
import GatewayPolicy.Text.Escape
/-!
# Extraction of snippets

An expression becomes a snippet as a whole or not at all: a literal is its value, an
interpolated string is a template over the named variables, a lambda is its source,
and a helper call is the body of the helper. Literals and interpolated strings decide
no condition.
-/

namespace GatewayPolicy

/-- What the meaning of an expression depends on. -/
structure Environment where
  methods : MethodTable
  options : Options

/-! ## Interpolated strings -/

/-- One part of an interpolated string. -/
inductive TemplatePart where
  | text (raw : String)
  | hole (name : String)
  deriving DecidableEq, Repr

namespace TemplatePart

/-- The part that a node stands for. A hole names a variable. -/
def ofNode (n : Node) : Except Cause TemplatePart :=
  match n.kind with
  | .interpolatedText => .ok (text n.name)
  | .interpolation =>
    match n.expression with
    | none => .error (.structural .identifier n.kind)
    | some e => if e.kind = .identifier then .ok (hole e.name) else .error (.unsupported e.kind (.holeNotName n.text))
  | other => .error (.structural .interpolatedText other)

/-- Whether a part is a hole. -/
def isHole : TemplatePart → Bool
  | text _ => false
  | hole _ => true

/-- The source of a part: the text as it is, or the look-up of the variable. -/
def source (o : Options) : TemplatePart → String
  | text raw => raw
  | hole name => "\x7b" ++ o.contextParameter ++ "." ++ o.variablesMember ++ "[\"" ++ name ++ "\"]\x7d"

end TemplatePart

/-- The source of all parts. -/
def templateSource (o : Options) (ps : List TemplatePart) : String := String.join (ps.map (·.source o))

/-- Without holes the text is a constant with its escapes resolved, otherwise it is code. -/
def extractTemplate (o : Options) (ps : List TemplatePart) : Except Cause Snippet :=
  let template := templateSource o ps
  if ps.any TemplatePart.isHole then .ok (.valueCode o.contextParameter ("$\"" ++ template ++ "\""))
  else
    match Text.unescape template.toList with
    | some cs => .ok (.literal (String.ofList cs))
    | none => .error (.unsupported .interpolatedString (.badEscape template))

/-! ## Lambdas -/

/-- The text without the parentheses around it, if there are any. -/
def insideParentheses : List Char → List Char
  | '(' :: r => if r.getLast? = some ')' then r.dropLast else '(' :: r
  | r => r

/-- The single parameter of a trimmed parameter list: `x`, `(x)` or `(Type x)`. -/
def lambdaParameter (cs : List Char) : Option (List Char) :=
  let inner := Text.trim (insideParentheses (Text.trim cs))
  if inner.isEmpty || inner.contains ',' then none else some (Text.lastWord inner)

/-- A lambda is kept as it is once its parameter is seen to be the request context. -/
def extractLambda (o : Options) (expected : ResultType) (text : String) : Except Cause Snippet :=
  let fail := fun r : Reason => Except.error (Cause.unsupported .anonymousFunction r)
  match Text.splitArrow text.toList with
  | none => fail (.notLambda text)
  | some (parameters, body) =>
    match lambdaParameter parameters with
    | none => fail (.parameterCount text)
    | some p =>
      if String.ofList p ≠ o.contextParameter then fail (.parameterName o.contextParameter (String.ofList p))
      else if (Text.trim body).isEmpty then fail .emptyLambda
      else .ok (.code expected (String.ofList (Text.trim parameters)) (String.ofList (Text.trim body)))

/-! ## Helper calls -/

/-- Whether the arguments of a helper call pass nothing but the request context. -/
def passesContext (parameter : String) : List Node → Bool
  | [] => true
  | [a] => a.kind = .identifier && a.name = parameter
  | _ => false

/-- Whether a method takes nothing but the request context. -/
def takesContext (parameter : String) : List Parameter → Bool
  | [] => true
  | [p] => p.name = parameter
  | _ => false

/-- A helper call is the body of the helper. -/
def extractForwarded (env : Environment) (n : Node) : Except Cause Snippet :=
  let parameter := env.options.contextParameter
  let fail := fun r : Reason => Except.error (Cause.unsupported n.kind r)
  match n.invokedIdentifier with
  | none => fail (.notHelperCall n.text)
  | some name =>
    if !passesContext parameter n.arguments then fail (.helperArguments n.text parameter)
    else
      match env.methods.get? name with
      | none => .error (.lookup name)
      | some m =>
        if m.isVoid then fail (.helperVoid name)
        else if !takesContext parameter m.parameters then fail (.helperParameters name parameter)
        else
          match m.expressionBody <|> m.body with
          | none => fail (.helperWithoutBody name)
          | some b => .ok (.predicate parameter b.text)

/-! ## Expressions -/

/-- The snippet of an expression from which a result of the given type is expected. -/
def extract (env : Environment) (expected : ResultType) (n : Node) : Except Cause Snippet :=
  match n.kind, expected with
  | .literal, .predicate | .interpolatedString, .predicate => .error (.unsupported n.kind (.notCondition n.text))
  | .literal, .value => .ok (.literal n.name)
  | .interpolatedString, .value => do extractTemplate env.options (← n.children.mapM TemplatePart.ofNode)
  | .anonymousFunction, _ => extractLambda env.options expected n.text
  | .invocation, _ => extractForwarded env n
  | other, _ => .error (.unsupported other (.notExpression n.text))

/-- The snippet of a policy argument. -/
def extractValue (env : Environment) (n : Node) : Except Cause Snippet := extract env .value n

/-- The snippet of a condition. -/
def extractPredicate (env : Environment) (n : Node) : Except Cause Snippet := extract env .predicate n

end GatewayPolicy
