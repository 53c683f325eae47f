import GatewayPolicy.Proofs.Outcome
import GatewayPolicy.Proofs.StatementTree
import GatewayPolicy.Source.WellFormed
/-!
# Reading a checked tree

Each lemma reads what the check of a tree says about the children of one kind of node.
-/

namespace GatewayPolicy

namespace Node

variable {n c : Node}

/-! ## The parts of the check -/

theorem require_ok {b : Bool} {r : LayoutRule} : n.require b r = .ok () ↔ b = true := by
  cases b <;> simp [require]

theorem requireEach_ok {ok : Node → Bool} {r : LayoutRule} {i : Nat} {cs : List Node} :
    requireEach ok r i cs = .ok () ↔ ∀ c ∈ cs, ok c = true := by
  induction cs generalizing i with
  | nil => simp [requireEach]
  | cons c cs ih =>
    rw [requireEach, then_ok, List.forall_mem_cons, ← ih, requireAt, mapError_eq_ok, require_ok]

theorem checkChildren_ok {i : Nat} {cs : List Node} : checkChildren i cs = .ok () ↔ ∀ c ∈ cs, c.check = .ok () := by
  induction cs generalizing i with
  | nil => simp [checkChildren]
  | cons c cs ih =>
    rw [checkChildren, then_ok, List.forall_mem_cons, ← ih, mapError_eq_ok]

/-- A tree that passes the check. -/
def Sound (n : Node) : Prop := n.check = .ok ()

theorem sound_iff : n.Sound ↔ n.checkLayout = .ok () ∧ ∀ c ∈ n.children, c.Sound := by
  obtain ⟨k, t, cs, x⟩ := n
  rw [Sound, check, then_ok, checkChildren_ok]
  rfl

/-- The kinds of nodes that hold exactly one expression. -/
def singleKinds : List Kind := [.expressionStatement, .localDeclaration, .interpolation, .memberAccess]

namespace Sound

theorem child (h : n.Sound) (hc : c ∈ n.children) : c.Sound := (sound_iff.1 h).2 c hc

theorem statements (h : n.Sound) : ∀ s ∈ n.statements, s.Sound := fun _ hs => h.child (mem_children_of_mem_statements hs)

/-! ## Layouts -/

theorem children_single (h : n.Sound) (hk : n.kind ∈ singleKinds) : ∃ e, n.children = [e] := by
  have hl := (sound_iff.1 h).1
  have hc : n.children.length = 1 := by
    simp only [singleKinds, List.mem_cons, List.not_mem_nil, or_false] at hk
    rcases hk with hk | hk | hk | hk <;>
      simp only [checkLayout, hk, then_ok, require_ok, beq_iff_eq] at hl
    · exact hl.1
    · exact hl.2.1
    · exact hl.1
    · exact hl.2.1
  exact List.length_eq_one_iff.1 hc

theorem expression_single (h : n.Sound) (hk : n.kind ∈ singleKinds) : ∃ e, n.expression = some e ∧ e.Sound := by
  obtain ⟨e, he⟩ := h.children_single hk
  refine ⟨e, ?_, h.child (by simp [he])⟩
  simp only [singleKinds, List.mem_cons, List.not_mem_nil, or_false] at hk
  rcases hk with hk | hk | hk | hk <;> simp [expression, hk, he]

/-- The statements of a block are sound and of statement kinds. -/
theorem isStatement_statements (h : n.Sound) : ∀ s ∈ n.statements, s.Sound ∧ s.kind.isStatement := by
  intro s hs
  refine ⟨h.statements s hs, ?_⟩
  unfold Node.statements at hs
  by_cases hk : n.kind = .block
  · rw [if_pos hk] at hs
    have hl := (sound_iff.1 h).1
    simp only [checkLayout, hk, requireEach_ok] at hl
    exact hl s hs
  · rw [if_neg hk] at hs
    cases hs

/-- An if statement has a condition and a statement, and an else clause if it has a third part. -/
theorem children_if (h : n.Sound) (hk : n.kind = .ifStatement) :
    ∃ c s, n.children = [c, s] ∨ ∃ e, n.children = [c, s, e] ∧ e.kind = .elseClause := by
  have hl := (sound_iff.1 h).1
  simp only [checkLayout, hk, then_ok, require_ok, requireEach_ok, Bool.or_eq_true, beq_iff_eq] at hl
  obtain ⟨hc, -, -, he⟩ := hl
  match hcs : n.children, hc with
  | [c, s], _ => exact ⟨c, s, .inl rfl⟩
  | [c, s, e], _ => exact ⟨c, s, .inr ⟨e, rfl, he e (by simp [hcs])⟩⟩

theorem children_else (h : n.Sound) (hk : n.kind = .elseClause) : ∃ t, n.children = [t] := by
  have hl := (sound_iff.1 h).1
  simp only [checkLayout, hk, then_ok, require_ok, beq_iff_eq] at hl
  exact List.length_eq_one_iff.1 hl.1

/-- An invocation has a target. -/
theorem target_invocation (h : n.Sound) (hk : n.kind = .invocation) : ∃ t, n.target = some t := by
  have hl := (sound_iff.1 h).1
  simp only [checkLayout, hk, then_ok, require_ok, decide_eq_true_eq] at hl
  obtain ⟨hc, -⟩ := hl
  match hcs : n.children, hc with
  | t :: _, _ => exact ⟨t, by simp [target, childOf, hk, hcs]⟩

theorem isStringPart_child (h : n.Sound) (hk : n.kind = .interpolatedString) (hc : c ∈ n.children) :
    c.isStringPart := by
  have hl := (sound_iff.1 h).1
  simp only [checkLayout, hk, requireEach_ok] at hl
  exact hl c hc

/-! ## If statements by their places -/

theorem condition_if (h : n.Sound) (hk : n.kind = .ifStatement) : ∃ c, n.condition = some c ∧ c.Sound := by
  obtain ⟨c, s, hc | ⟨e, hc, -⟩⟩ := h.children_if hk
  all_goals exact ⟨c, by simp [condition, childOf, hk, hc], h.child (by simp [hc])⟩

theorem statement_if (h : n.Sound) (hk : n.kind = .ifStatement) : ∃ s, n.statement = some s := by
  obtain ⟨c, s, hc | ⟨e, hc, -⟩⟩ := h.children_if hk
  all_goals exact ⟨s, by simp [Node.statement, hk, hc]⟩

/-- The children of an if statement are the parts that its places name, and no others. -/
theorem places_if {s : Node} (h : n.Sound) (hk : n.kind = .ifStatement) (hs : n.statement = some s) :
    ∃ c, (n.children = [c, s] ∧ n.elseStatement = none) ∨
      ∃ e t, n.children = [c, s, e] ∧ e.kind = .elseClause ∧ e.children = [t] ∧ n.elseStatement = some t := by
  obtain ⟨c, s', hc | ⟨e, hc, he⟩⟩ := h.children_if hk
  · obtain rfl : s' = s := by simpa [Node.statement, hk, hc] using hs
    exact ⟨c, .inl ⟨hc, by simp [Node.elseStatement, childOf, hk, hc]⟩⟩
  · obtain rfl : s' = s := by simpa [Node.statement, hk, hc] using hs
    obtain ⟨t, ht⟩ := (h.child (c := e) (by simp [hc])).children_else he
    have hn : n.elseStatement = some t := by
      simp [Node.elseStatement, childOf, Option.filter_some, Node.statement, hk, hc, he, ht]
    exact ⟨c, .inr ⟨e, t, hc, he, ht, hn⟩⟩

theorem statement {s : Node} (h : n.Sound) (hs : n.statement = some s) : s.Sound :=
  h.child (mem_children_of_statement hs)

theorem elseStatement {t : Node} (h : n.Sound) (ht : n.elseStatement = some t) : t.Sound := by
  obtain ⟨-, e, he, -, ht⟩ := elseStatement_eq_some ht
  have he := h.child (List.mem_of_getElem? he)
  exact he.child (List.mem_of_getElem? ht)

theorem arguments (h : n.Sound) : ∀ a ∈ n.arguments, a.Sound := fun _ ha => h.child (mem_children_of_mem_arguments ha)

end Sound

end Node

/-! ## Methods -/

theorem Node.checkAt_ok {root : String} {n : Node} : n.checkAt root = .ok () ↔ n.Sound := mapError_eq_ok

/-- A method passes the check if it has one body at most: a sound block or a sound expression. -/
theorem Method.check_ok {m : Method} {className : String} :
    m.check className = .ok () ↔
      (m.body = none ∨ m.expressionBody = none) ∧ (∀ b, m.body = some b → b.kind = .block ∧ b.Sound) ∧
        ∀ e, m.expressionBody = some e → e.kind.isExpression ∧ e.Sound := by
  unfold check
  cases m.body with
  | none =>
    cases m.expressionBody with
    | none => exact ⟨fun _ => by simp, fun _ => rfl⟩
    | some e => simp [then_ok, mapError_eq_ok, Node.require_ok, Node.checkAt_ok]
  | some b =>
    cases m.expressionBody with
    | none => simp [then_ok, mapError_eq_ok, Node.require_ok, Node.checkAt_ok]
    | some e => simp [throw, throwThe, MonadExceptOf.throw]

/-- The body of a method that passes the check is a sound block. -/
theorem Method.body_of_check {m : Method} {className : String} {b : Node} (h : m.check className = .ok ())
    (hb : m.body = some b) : b.kind = .block ∧ b.Sound :=
  (Method.check_ok.1 h).2.1 b hb

theorem Declaration.check_ok {d : Declaration} : d.check = .ok () ↔ ∀ m ∈ d.methods, m.check d.name = .ok () :=
  forM_ok

end GatewayPolicy
