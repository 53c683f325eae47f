import GatewayPolicy.Source.Kind
/-!
# Source nodes

A node has a kind, a token of its own (a name, a literal value, the text between
two holes), children whose layout depends on the kind, and its source text. The
functions below name the children by their role; they answer nothing on nodes of
another kind and on nodes whose children are missing.
-/

namespace GatewayPolicy

/-- A node of a policy source tree. -/
structure Node where
  kind : Kind
  token : Option String
  children : List Node
  text : String
  deriving Repr

namespace Node

mutual

/-- Whether two nodes are the same. -/
def sameNode : (a b : Node) → Decidable (a = b)
  | ⟨k, t, cs, x⟩, ⟨l, u, ds, y⟩ =>
    have := sameNodes cs ds
    decidable_of_iff (k = l ∧ t = u ∧ cs = ds ∧ x = y) (by simp)

/-- Whether two lists hold the same nodes. -/
def sameNodes : (as bs : List Node) → Decidable (as = bs)
  | [], [] => isTrue rfl
  | [], _ :: _ => isFalse (by simp)
  | _ :: _, [] => isFalse (by simp)
  | a :: as, b :: bs =>
    have := sameNode a b
    have := sameNodes as bs
    decidable_of_iff (a = b ∧ as = bs) (by simp)

end

instance : DecidableEq Node := sameNode

/-- The token of a node, empty when it has none. -/
def name (n : Node) : String := n.token.getD ""

/-- The child at a position of a node of the given kind. -/
def childOf (n : Node) (k : Kind) (i : Nat) : Option Node :=
  if n.kind = k then n.children[i]? else none

/-- The statements of a block. -/
def statements (n : Node) : List Node :=
  if n.kind = .block then n.children else []

/-- The condition of an if statement. -/
def condition (n : Node) : Option Node := n.childOf .ifStatement 0

/-- The statement that an if statement or an else clause governs. -/
def statement (n : Node) : Option Node :=
  match n.kind with
  | .ifStatement => n.children[1]?
  | .elseClause => n.children[0]?
  | _ => none

/-- The statement after the `else` of an if statement. -/
def elseStatement (n : Node) : Option Node :=
  ((n.childOf .ifStatement 2).filter fun c => c.kind = .elseClause).bind statement

/-- The expression inside a statement or a hole, or the receiver of a member. -/
def expression (n : Node) : Option Node :=
  match n.kind with
  | .expressionStatement | .returnStatement | .localDeclaration | .interpolation | .memberAccess =>
    n.children[0]?
  | _ => none

/-- The called expression of an invocation. -/
def target (n : Node) : Option Node := n.childOf .invocation 0

/-- The arguments of an invocation. -/
def arguments (n : Node) : List Node :=
  if n.kind = .invocation then n.children.drop 1 else []

/-- The member that an invocation calls on a receiver. -/
def invokedMember (n : Node) : Option String :=
  (n.target.filter fun t => t.kind = .memberAccess).map name

/-- The plain name that an invocation calls. -/
def invokedIdentifier (n : Node) : Option String :=
  (n.target.filter fun t => t.kind = .identifier).map name

end Node

end GatewayPolicy
