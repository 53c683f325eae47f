import GatewayPolicy.Source.Declaration
import GatewayPolicy.Text.Arrow
/-!
# Layout of source trees

Each kind of node has a layout: how many children of which kinds it has, and
whether it has a token. `Node.checkLayout` finds the first error in the layout of one
node, and `Node.check` the first one in a tree: those of a node come before those of
its children.
-/

namespace GatewayPolicy

/-- A rule of layout. -/
inductive LayoutRule where
  | oneBody
  | blockBody
  | statementHere
  | expressionHere
  | ifParts
  | elseThird
  | oneStatement
  | oneExpression
  | atMostOneExpression
  | invocationTarget
  | stringParts
  | nameToken
  | valueToken
  | noChildren
  | arrow
  deriving DecidableEq, Repr

/-- What a broken rule asks for. -/
def LayoutRule.message : LayoutRule → String
  | oneBody => "method has both a block body and an expression body"
  | blockBody => "method body must be a block"
  | statementHere => "expected a statement"
  | expressionHere => "expected an expression"
  | ifParts => "expected condition, statement and optional else"
  | elseThird => "third child must be an else clause"
  | oneStatement => "expected exactly one statement"
  | oneExpression => "expected exactly one expression"
  | atMostOneExpression => "expected at most one expression"
  | invocationTarget => "missing invocation target"
  | stringParts => "interpolated string parts must be text or interpolations"
  | nameToken => "missing name token"
  | valueToken => "missing value token"
  | noChildren => "unexpected children"
  | arrow => "source text must contain a lambda"

/-- A broken rule: the child positions that lead to the node, its kind, and the rule. -/
structure LayoutError where
  trail : List Nat
  kind : Kind
  rule : LayoutRule
  deriving DecidableEq, Repr

namespace LayoutError

/-- The error as seen from the parent of its tree, which holds the tree at position `i`. -/
def under (i : Nat) (e : LayoutError) : LayoutError := { e with trail := i :: e.trail }

/-- The place of an error below a root place. -/
def place (root : String) (e : LayoutError) : String :=
  e.trail.foldl (fun p i => p ++ "[" ++ toString i ++ "]") root

end LayoutError

namespace Node

/-- The error of a node that breaks a rule unless `ok` holds. -/
def require (n : Node) (ok : Bool) (r : LayoutRule) : Except LayoutError Unit :=
  if ok then .ok () else .error ⟨[], n.kind, r⟩

/-- The same for the child at position `i`. -/
def requireAt (i : Nat) (n : Node) (ok : Bool) (r : LayoutRule) : Except LayoutError Unit :=
  (n.require ok r).mapError (·.under i)

/-- The same for every child, from position `i` on. -/
def requireEach (ok : Node → Bool) (r : LayoutRule) (i : Nat) : List Node → Except LayoutError Unit
  | [] => .ok ()
  | c :: cs => do
    c.requireAt i (ok c) r
    requireEach ok r (i + 1) cs

/-- Whether a node may be a part of an interpolated string. -/
def isStringPart (n : Node) : Bool := n.kind == .interpolatedText || n.kind == .interpolation

/-- The error for the first child unless it is an expression. -/
def firstIsExpression (n : Node) : Except LayoutError Unit :=
  requireEach (·.kind.isExpression) .expressionHere 0 (n.children.take 1)

/-- Checks the layout of one node, leaving the layout of its children aside. -/
def checkLayout (n : Node) : Except LayoutError Unit :=
  let count := n.children.length
  match n.kind with
  | .block => requireEach (·.kind.isStatement) .statementHere 0 n.children
  | .ifStatement => do
    n.require (count == 2 || count == 3) .ifParts
    n.firstIsExpression
    requireEach (·.kind.isStatement) .statementHere 1 ((n.children.drop 1).take 1)
    requireEach (·.kind == .elseClause) .elseThird 2 (n.children.drop 2)
  | .elseClause => do
    n.require (count == 1) .oneStatement
    requireEach (·.kind.isStatement) .statementHere 0 n.children
  | .expressionStatement | .interpolation => do
    n.require (count == 1) .oneExpression
    n.firstIsExpression
  | .localDeclaration | .memberAccess => do
    n.require (n.name != "") .nameToken
    n.require (count == 1) .oneExpression
    n.firstIsExpression
  | .returnStatement => do
    n.require (count ≤ 1) .atMostOneExpression
    n.firstIsExpression
  | .invocation => do
    n.require (count ≥ 1) .invocationTarget
    requireEach (·.kind.isExpression) .expressionHere 0 n.children
  | .interpolatedString => requireEach isStringPart .stringParts 0 n.children
  | .literal | .interpolatedText => do
    n.require n.token.isSome .valueToken
    n.require (count == 0) .noChildren
  | .identifier => do
    n.require (n.name != "") .nameToken
    n.require (count == 0) .noChildren
  | .anonymousFunction => n.require (Text.hasArrow n.text) .arrow

mutual

/-- Checks the layout of a node and of everything below it. -/
def check : Node → Except LayoutError Unit
  | ⟨k, t, cs, x⟩ => do
    checkLayout ⟨k, t, cs, x⟩
    checkChildren 0 cs

/-- Checks some children, from position `i` on. -/
def checkChildren (i : Nat) : List Node → Except LayoutError Unit
  | [] => .ok ()
  | c :: cs => do
    (check c).mapError (·.under i)
    checkChildren (i + 1) cs

end

end Node

/-- A layout error and the place its trail starts from. -/
structure InvalidNode where
  root : String
  error : LayoutError
  deriving DecidableEq, Repr

/-- The message for an invalid node. -/
def InvalidNode.message (e : InvalidNode) : String :=
  "Invalid " ++ e.error.kind.title ++ " node at " ++ e.error.place e.root ++ ": " ++ e.error.rule.message

/-- Checks a tree whose place has a name. -/
def Node.checkAt (root : String) (n : Node) : Except InvalidNode Unit := n.check.mapError (⟨root, ·⟩)

/-- Checks a method of the named class: it has one body at most, and that body is sound. -/
def Method.check (className : String) (m : Method) : Except InvalidNode Unit := do
  let root := className ++ "." ++ m.name
  if m.body.isSome && m.expressionBody.isSome then throw ⟨root, [], .block, .oneBody⟩
  if let some b := m.body then
    let root := root ++ ".body"
    (b.require (b.kind == .block) .blockBody).mapError (⟨root, ·⟩)
    b.checkAt root
  if let some e := m.expressionBody then
    let root := root ++ ".expression_body"
    (e.require e.kind.isExpression .expressionHere).mapError (⟨root, ·⟩)
    e.checkAt root

/-- Checks every method of a declaration, in order. -/
def Declaration.check (d : Declaration) : Except InvalidNode Unit :=
  d.methods.forM (Method.check d.name)

end GatewayPolicy
