import GatewayPolicy.Proofs.Layout
import Mathlib.Data.List.Basic
/-!
# Well-formed trees

The check of the layout lets just those trees through that are well-formed kind by kind. Before it
looks at a child by its position, it has seen that there is one.
-/

namespace GatewayPolicy

/-! ## Trees and declarations -/

/-- A tree in which every node has the children and the token that its kind asks for. -/
inductive Node.WellFormed : Node → Prop
  | block {t x ss} : (∀ s ∈ ss, s.kind.isStatement) → (∀ s ∈ ss, Node.WellFormed s) → Node.WellFormed ⟨.block, t, ss, x⟩
  | ifThen {t x c s} : c.kind.isExpression → s.kind.isStatement → Node.WellFormed c → Node.WellFormed s →
      Node.WellFormed ⟨.ifStatement, t, [c, s], x⟩
  | ifElse {t x c s e} : c.kind.isExpression → s.kind.isStatement → e.kind = .elseClause →
      Node.WellFormed c → Node.WellFormed s → Node.WellFormed e → Node.WellFormed ⟨.ifStatement, t, [c, s, e], x⟩
  | elseClause {t x s} : s.kind.isStatement → Node.WellFormed s → Node.WellFormed ⟨.elseClause, t, [s], x⟩
  | single {k t x e} : k = .expressionStatement ∨ k = .interpolation → e.kind.isExpression → Node.WellFormed e →
      Node.WellFormed ⟨k, t, [e], x⟩
  | named {k v x e} : k = .localDeclaration ∨ k = .memberAccess → v ≠ "" → e.kind.isExpression → Node.WellFormed e →
      Node.WellFormed ⟨k, some v, [e], x⟩
  | returnNothing {t x} : Node.WellFormed ⟨.returnStatement, t, [], x⟩
  | returnValue {t x e} : e.kind.isExpression → Node.WellFormed e → Node.WellFormed ⟨.returnStatement, t, [e], x⟩
  | invocation {t x e es} : (∀ a ∈ e :: es, a.kind.isExpression) → (∀ a ∈ e :: es, Node.WellFormed a) →
      Node.WellFormed ⟨.invocation, t, e :: es, x⟩
  | interpolatedString {t x ps} : (∀ p ∈ ps, p.kind = .interpolatedText ∨ p.kind = .interpolation) →
      (∀ p ∈ ps, Node.WellFormed p) → Node.WellFormed ⟨.interpolatedString, t, ps, x⟩
  | value {k v x} : k = .literal ∨ k = .interpolatedText → Node.WellFormed ⟨k, some v, [], x⟩
  | identifier {v x} : v ≠ "" → Node.WellFormed ⟨.identifier, some v, [], x⟩
  | anonymousFunction {t x cs} : ['=', '>'] <:+: x.toList → (∀ c ∈ cs, Node.WellFormed c) →
      Node.WellFormed ⟨.anonymousFunction, t, cs, x⟩

/-- A method with one body at most, which is a well-formed block or a well-formed expression. -/
structure Method.WellFormed (m : Method) : Prop where
  oneBody : m.body = none ∨ m.expressionBody = none
  block : ∀ b, m.body = some b → b.kind = .block ∧ b.WellFormed
  expression : ∀ e, m.expressionBody = some e → e.kind.isExpression ∧ e.WellFormed

/-! ## Layouts -/

namespace Text

theorem isSome_splitArrow_cons {c : Char} {r : List Char} (h : (splitArrow r).isSome) :
    (splitArrow (c :: r)).isSome := by
  unfold splitArrow
  split
  · next hr => cases hr
  · rfl
  · next hr =>
    cases hr
    rwa [Option.isSome_map]

theorem hasArrow_iff {s : String} : hasArrow s ↔ ['=', '>'] <:+: s.toList := by
  constructor
  · intro h
    obtain ⟨⟨a, b⟩, h⟩ := Option.isSome_iff_exists.1 h
    exact ⟨a, b, by simp [splitArrow_eq h]⟩
  · rintro ⟨a, b, h⟩
    rw [hasArrow, ← h, List.append_assoc]
    clear h
    induction a with
    | nil => rfl
    | cons c a ih => exact isSome_splitArrow_cons ih

end Text

namespace Node

variable {n : Node}

theorem token_of_name_ne_empty (h : n.name ≠ "") : ∃ v, n.token = some v ∧ v ≠ "" := by
  unfold name at h
  cases ht : n.token with
  | none => simp [ht] at h
  | some v => exact ⟨v, rfl, by simpa [ht] using h⟩

theorem firstIsExpression_ok : n.firstIsExpression = .ok () ↔ ∀ e ∈ n.children.take 1, e.kind.isExpression :=
  requireEach_ok

theorem WellFormed.layout_ok (h : n.WellFormed) : n.checkLayout = .ok () := by
  cases h with
  | single hk he _ =>
    rcases hk with rfl | rfl <;>
      simpa [checkLayout, then_ok, require_ok, firstIsExpression_ok] using he
  | named hk hv he _ =>
    rcases hk with rfl | rfl <;>
      simpa [checkLayout, then_ok, require_ok, firstIsExpression_ok, name] using ⟨hv, he⟩
  | value hk =>
    rcases hk with rfl | rfl <;> simp [checkLayout, then_ok, require_ok]
  | interpolatedString hp _ =>
    simpa [checkLayout, requireEach_ok, isStringPart] using hp
  | identifier hv => simpa [checkLayout, then_ok, require_ok, name] using hv
  | anonymousFunction ha _ => simpa [checkLayout, require_ok] using Text.hasArrow_iff.2 ha
  | _ => simp_all [checkLayout, then_ok, require_ok, requireEach_ok, firstIsExpression_ok]

theorem WellFormed.children (h : n.WellFormed) : ∀ c ∈ n.children, c.WellFormed := by
  cases h <;> simp_all

theorem wellFormed_of_checkLayout (h : n.checkLayout = .ok ()) (hc : ∀ c ∈ n.children, c.WellFormed) :
    n.WellFormed := by
  obtain ⟨k, t, cs, x⟩ := n
  dsimp only at hc
  cases k <;>
    simp only [checkLayout, then_ok, require_ok, requireEach_ok, firstIsExpression_ok,
      bne_iff_ne, beq_iff_eq, decide_eq_true_eq, Bool.or_eq_true] at h
  case block => exact .block h hc
  case ifStatement =>
    obtain ⟨hl, hx, hs, he⟩ := h
    rcases hl with hl | hl
    · obtain ⟨c, s, rfl⟩ := List.length_eq_two.1 hl
      exact .ifThen (hx c (by simp)) (hs s (by simp)) (hc c (by simp)) (hc s (by simp))
    · obtain ⟨c, s, e, rfl⟩ := List.length_eq_three.1 hl
      exact .ifElse (hx c (by simp)) (hs s (by simp)) (he e (by simp))
        (hc c (by simp)) (hc s (by simp)) (hc e (by simp))
  case elseClause =>
    obtain ⟨hl, hs⟩ := h
    obtain ⟨s, rfl⟩ := List.length_eq_one_iff.1 hl
    exact .elseClause (hs s (by simp)) (hc s (by simp))
  case expressionStatement | interpolation =>
    obtain ⟨hl, hx⟩ := h
    obtain ⟨e, rfl⟩ := List.length_eq_one_iff.1 hl
    exact .single (by simp) (hx e (by simp)) (hc e (by simp))
  case localDeclaration | memberAccess =>
    obtain ⟨hn, hl, hx⟩ := h
    obtain ⟨v, rfl, hv⟩ := token_of_name_ne_empty hn
    obtain ⟨e, rfl⟩ := List.length_eq_one_iff.1 hl
    exact .named (by simp) hv (hx e (by simp)) (hc e (by simp))
  case returnStatement =>
    obtain ⟨hl, hx⟩ := h
    rcases Nat.le_one_iff_eq_zero_or_eq_one.1 hl with hl | hl
    · obtain rfl := List.eq_nil_of_length_eq_zero hl
      exact .returnNothing
    · obtain ⟨e, rfl⟩ := List.length_eq_one_iff.1 hl
      exact .returnValue (hx e (by simp)) (hc e (by simp))
  case invocation =>
    obtain ⟨hl, hx⟩ := h
    obtain ⟨e, es, rfl⟩ := List.exists_cons_of_length_pos hl
    exact .invocation hx hc
  case literal | interpolatedText =>
    obtain ⟨ht, hl⟩ := h
    obtain ⟨v, rfl⟩ := Option.isSome_iff_exists.1 ht
    obtain rfl := List.eq_nil_of_length_eq_zero hl
    exact .value (by simp)
  case interpolatedString => exact .interpolatedString (by simpa [isStringPart] using h) hc
  case identifier =>
    obtain ⟨hn, hl⟩ := h
    obtain ⟨v, rfl, hv⟩ := token_of_name_ne_empty hn
    obtain rfl := List.eq_nil_of_length_eq_zero hl
    exact .identifier hv
  case anonymousFunction => exact .anonymousFunction (Text.hasArrow_iff.1 h) hc

/-- A tree passes the check if it is well-formed, and no other does. -/
theorem sound_iff_wellFormed : n.Sound ↔ n.WellFormed := by
  induction n using children_induction with
  | parent n ih =>
    rw [sound_iff]
    constructor
    · rintro ⟨hl, hs⟩
      exact wellFormed_of_checkLayout hl fun c hc => (ih c hc).1 (hs c hc)
    · intro h
      exact ⟨h.layout_ok, fun c hc => (ih c hc).2 (h.children c hc)⟩

end Node

/-! ## Children by their positions

The check reads the children that a rule is about as a list, which may be empty. Here they are
taken by their positions, so that a child that is not there would be an error of its own. -/

/-- How a check ends that looks at children by their positions. -/
inductive PositionError where
  /-- A node has no child at a position that was looked at. -/
  | missing (position : Nat)
  /-- A rule is broken. -/
  | broken (error : LayoutError)

/-- The error as seen from the parent of its tree, which holds the tree at position `i`. -/
def PositionError.under (i : Nat) : PositionError → PositionError
  | missing position => missing position
  | broken e => broken (e.under i)

namespace Node

/-- A rule that looks at no position. -/
abbrev rule (x : Except LayoutError Unit) : Except PositionError Unit := x.mapError .broken

/-- A rule for the child at a position, which has to be there. -/
def ruleAt (n : Node) (i : Nat) (ok : Node → Bool) (r : LayoutRule) : Except PositionError Unit :=
  match n.children[i]? with
  | none => .error (.missing i)
  | some c => rule (c.requireAt i (ok c) r)

/-- The same for a child that may be absent. -/
def ruleAt? (n : Node) (i : Nat) (ok : Node → Bool) (r : LayoutRule) : Except PositionError Unit :=
  match n.children[i]? with
  | none => .ok ()
  | some c => rule (c.requireAt i (ok c) r)

/-- Checks the layout of one node and takes its children by their positions, where it does not go
through all of them. -/
def layoutByPosition (n : Node) : Except PositionError Unit :=
  let count := n.children.length
  match n.kind with
  | .ifStatement => do
    rule (n.require (count == 2 || count == 3) .ifParts)
    n.ruleAt 0 (·.kind.isExpression) .expressionHere
    n.ruleAt 1 (·.kind.isStatement) .statementHere
    n.ruleAt? 2 (·.kind == .elseClause) .elseThird
  | .elseClause => do
    rule (n.require (count == 1) .oneStatement)
    n.ruleAt 0 (·.kind.isStatement) .statementHere
  | .expressionStatement | .interpolation => do
    rule (n.require (count == 1) .oneExpression)
    n.ruleAt 0 (·.kind.isExpression) .expressionHere
  | .localDeclaration | .memberAccess => do
    rule (n.require (n.name != "") .nameToken)
    rule (n.require (count == 1) .oneExpression)
    n.ruleAt 0 (·.kind.isExpression) .expressionHere
  | .returnStatement => do
    rule (n.require (count ≤ 1) .atMostOneExpression)
    n.ruleAt? 0 (·.kind.isExpression) .expressionHere
  | .block | .invocation | .interpolatedString | .literal | .interpolatedText | .identifier | .anonymousFunction =>
    rule n.checkLayout

mutual

/-- Checks the layout of a node and of everything below it by positions. -/
def checkByPosition : Node → Except PositionError Unit
  | ⟨k, t, cs, x⟩ => do
    layoutByPosition ⟨k, t, cs, x⟩
    checkAllByPosition 0 cs

/-- Checks some children by positions, from position `i` on. -/
def checkAllByPosition (i : Nat) : List Node → Except PositionError Unit
  | [] => .ok ()
  | c :: cs => do
    (checkByPosition c).mapError (·.under i)
    checkAllByPosition (i + 1) cs

end

section
variable {n : Node} {ok : Node → Bool} {r : LayoutRule} {i : Nat}

theorem rule_then {x y : Except LayoutError Unit} : rule (x >>= fun _ => y) = (rule x >>= fun _ => rule y) := by
  cases x <;> rfl

/-- What follows a rule of the node itself may count on it. -/
theorem rule_require_then {b : Bool} {x : Except PositionError Unit} {y : Except LayoutError Unit}
    (h : b = true → x = rule y) : (rule (n.require b r) >>= fun _ => x) = rule (n.require b r >>= fun _ => y) := by
  cases b with
  | false => rfl
  | true => exact h rfl

theorem ruleAt?_eq : n.ruleAt? i ok r = rule (requireEach ok r i ((n.children.drop i).take 1)) := by
  rw [ruleAt?, ← List.head?_drop]
  cases n.children.drop i with
  | nil => rfl
  | cons c cs =>
    rw [List.head?_cons, List.take_succ_cons, List.take_zero, requireEach, rule_then]
    dsimp only
    cases c.requireAt i (ok c) r <;> rfl

/-- A child that is there is not missed. -/
theorem ruleAt_eq (h : i < n.children.length) :
    n.ruleAt i ok r = rule (requireEach ok r i ((n.children.drop i).take 1)) := by
  rw [← ruleAt?_eq, ruleAt, ruleAt?, List.getElem?_eq_getElem h]

theorem ruleAt_single (h : (n.children.length == 1) = true) :
    n.ruleAt 0 ok r = rule (requireEach ok r 0 (n.children.take 1)) :=
  ruleAt_eq (by rw [beq_iff_eq.1 h]; exact Nat.one_pos)

theorem layoutByPosition_eq (n : Node) : n.layoutByPosition = rule n.checkLayout := by
  obtain ⟨k, t, cs, x⟩ := n
  cases k
  case ifStatement =>
    refine rule_require_then fun hl => ?_
    have hl : cs.length = 2 ∨ cs.length = 3 := by simpa using hl
    -- Nothing stands behind the third child, so the rule for it is one for all from there on.
    have hd : (cs.drop 2).take 1 = cs.drop 2 := List.take_of_length_le (by rw [List.length_drop]; omega)
    rw [ruleAt_eq (by dsimp only; omega), ruleAt_eq (by dsimp only; omega), ruleAt?_eq, hd, rule_then, rule_then]
    rfl
  case elseClause =>
    refine rule_require_then fun hl => ?_
    rw [ruleAt_single hl, List.take_of_length_le (Nat.le_of_eq (beq_iff_eq.1 hl))]
  case expressionStatement | interpolation => exact rule_require_then ruleAt_single
  case localDeclaration | memberAccess => exact rule_require_then fun _ => rule_require_then ruleAt_single
  case returnStatement => exact rule_require_then fun _ => ruleAt?_eq
  all_goals rfl

/-- The check by positions misses no child, so it is the check. -/
theorem checkByPosition_eq (n : Node) : n.checkByPosition = rule n.check := by
  induction n using children_induction with
  | parent n ih =>
    obtain ⟨k, t, cs, x⟩ := n
    have hc (i : Nat) : checkAllByPosition i cs = rule (checkChildren i cs) := by
      induction cs generalizing i with
      | nil => rfl
      | cons c cs ihc =>
        obtain ⟨h, hcs⟩ := List.forall_mem_cons.1 ih
        rw [checkAllByPosition, checkChildren, rule_then, h, ihc hcs]
        cases c.check <;> rfl
    rw [checkByPosition, check, rule_then, layoutByPosition_eq, hc]

end

end Node

/-- The check of the layout accepts just the well-formed trees, and the declarations whose methods are
well-formed; on no tree does it look for a child that is not there. -/
theorem checks_accept_well_formed :
    (∀ (n : Node) (root : String), n.checkAt root = .ok () ↔ n.WellFormed) ∧
      (∀ n : Node, n.checkByPosition = n.check.mapError .broken ∧ ∀ i, n.checkByPosition ≠ .error (.missing i)) ∧
      ∀ d : Declaration, d.check = .ok () ↔ ∀ m ∈ d.methods, m.WellFormed := by
  refine ⟨fun n root => ?_, fun n => ?_, fun d => ?_⟩
  · rw [Node.checkAt_ok, Node.sound_iff_wellFormed]
  · refine ⟨n.checkByPosition_eq, fun i h => ?_⟩
    rw [n.checkByPosition_eq] at h
    obtain ⟨e, -, he⟩ := mapError_eq_error.1 h
    cases he
  · rw [Declaration.check_ok]
    refine forall₂_congr fun m _ => ?_
    rw [Method.check_ok]
    simp only [Node.sound_iff_wellFormed]
    exact ⟨fun ⟨h₁, h₂, h₃⟩ => ⟨h₁, h₂, h₃⟩, fun h => ⟨h.oneBody, h.block, h.expression⟩⟩

end GatewayPolicy
