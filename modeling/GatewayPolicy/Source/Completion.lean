import GatewayPolicy.Source.Declaration
import GatewayPolicy.Source.Text
/-!
# Completion of source texts

A stored tree may leave texts out. Completion gives every node without a text the
one that its parts give it, children first, and leaves all other texts alone.
-/

namespace GatewayPolicy

mutual

/-- A tree with its missing texts filled in. -/
def Node.complete : Node → Node
  | ⟨k, t, cs, x⟩ =>
    let cs' := completeAll cs
    ⟨k, t, cs', if x = "" then synthesize k t cs' else x⟩

/-- Some trees with their missing texts filled in. -/
def Node.completeAll : List Node → List Node
  | [] => []
  | c :: cs => c.complete :: completeAll cs

end

mutual

/-- The number of nodes of a tree that have no text. -/
def Node.missingTexts : Node → Nat
  | ⟨_, _, cs, x⟩ => missingTextsAll cs + if x = "" then 1 else 0

/-- The number of nodes without text in some trees. -/
def Node.missingTextsAll : List Node → Nat
  | [] => 0
  | c :: cs => c.missingTexts + missingTextsAll cs

end

/-- A method with complete bodies. -/
def Method.complete (m : Method) : Method :=
  { m with body := m.body.map Node.complete, expressionBody := m.expressionBody.map Node.complete }

/-- The number of nodes without text in the bodies of a method. -/
def Method.missingTexts (m : Method) : Nat :=
  (m.body.map Node.missingTexts).getD 0 + (m.expressionBody.map Node.missingTexts).getD 0

/-- A declaration with complete methods. -/
def Declaration.complete (d : Declaration) : Declaration := { d with methods := d.methods.map Method.complete }

/-- The number of nodes without text in a declaration. -/
def Declaration.missingTexts (d : Declaration) : Nat := d.methods.foldr (fun m n => m.missingTexts + n) 0

end GatewayPolicy
