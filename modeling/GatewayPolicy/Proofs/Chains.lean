import GatewayPolicy.Compile.Scope
import GatewayPolicy.Proofs.Gives
import GatewayPolicy.Proofs.Outcome
import GatewayPolicy.Source.Text
import Mathlib.Data.List.Forall2
/-!
# If chains are flat

An if, the ifs after its else clauses and the statement after the last else are one chain. Its parts
are tried in order: each condition, then the block it guards, and last the block without a
condition. If all of them go through there is one `choose` with a branch for each block, and if one
does not, its error ends the chain and no element is added.
-/

namespace GatewayPolicy

/-! ## Chains and their parts -/

/-- A condition and the statement that it guards. -/
structure Link where
  condition : Node
  body : Node

/-- The links of the chain that an if statement begins, and the statement after the last else. -/
inductive Chain : Node → List Link → Option Node → Prop
  | last {n c b : Node} {o : Option Node} : n.kind = .ifStatement → n.condition = some c → n.statement = some b →
      n.elseStatement = o → (∀ t, o = some t → t.kind ≠ .ifStatement) → Chain n [⟨c, b⟩] o
  | link {n c b t : Node} {links : List Link} {o : Option Node} : n.kind = .ifStatement → n.condition = some c →
      n.statement = some b → n.elseStatement = some t → Chain t links o → Chain n (⟨c, b⟩ :: links) o

namespace Scope

variable (s : Scope) (r : Registry)

/-- What a block gives in a nested scope. -/
def branch (b : Node) : Scope × Except CompileError Unit := s.nested.run (compileBlock s.env r b)

def Reads (c : Node) : Prop := ∃ p, extractPredicate s.env c = .ok p

/-- The branch of a link: a `when` with the text of the condition, and in it what the block gives in a
nested scope. -/
def IsWhen (l : Link) (f : Fragment) : Prop :=
  ∃ p, extractPredicate s.env l.condition = .ok p ∧
    f.HasParts "when" (fun name => if name = "condition" then some p.policyText else none) none
      (s.branch r l.body).1.fragments

variable {s r}

/-! ## Outcomes -/

theorem run_ok {e : Emission} : (s.run e).2 = .ok () ↔ e.failure = none := by
  unfold run
  cases e.failure <;> simp

end Scope

theorem Chain.kind {n : Node} {links : List Link} {last : Option Node} (h : Chain n links last) :
    n.kind = .ifStatement := by
  cases h <;> assumption

namespace Scope

variable {s : Scope} {r : Registry} {n : Node} {links : List Link} {last : Option Node}

theorem IsWhen.condition {l : Link} {f : Fragment} (h : s.IsWhen r l f) :
    f.attribute? "condition" = (extractPredicate s.env l.condition).toOption.map Snippet.policyText := by
  obtain ⟨p, hp, hf⟩ := h
  rw [hp, hf.attributes, if_pos rfl]
  rfl

theorem IsWhen.children {l : Link} {f : Fragment} (h : s.IsWhen r l f) :
    f.children = (s.branch r l.body).1.fragments := by
  obtain ⟨p, -, hf⟩ := h
  exact hf.children

end Scope

/-- A scope of an inbound section with an element and a report, in which unknown statements are reported. -/
def startedScope : Scope :=
  ⟨.inbound, ⟨.ofDeclaration ⟨"Api", []⟩, { unknownStatements := .report }⟩, [basePolicy], ["unsupported"]⟩

end GatewayPolicy
