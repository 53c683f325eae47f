import GatewayPolicy.Proofs.WellFormedness
import GatewayPolicy.Source.Text
/-!
# Places of layout errors

The trail of a layout error leads to a node of the checked tree. That node has the kind that the
error names, and it breaks the rule that the error names: a rule about the node itself, or the rule
that its parent has for the position it stands at.
-/

namespace GatewayPolicy

/-! ## Broken rules -/

namespace LayoutRule

/-- Every rule, in the order of their declaration. -/
def all : List LayoutRule :=
  [oneBody, blockBody, statementHere, expressionHere, ifParts, elseThird, oneStatement, oneExpression,
    atMostOneExpression, invocationTarget, stringParts, nameToken, valueToken, noChildren, arrow]

theorem find?_message (r : LayoutRule) : all.find? (fun s => s.message == r.message) = some r := by
  cases r <;> decide

/-- The message of a rule tells it from every other rule. -/
theorem message_injective : Function.Injective message := by
  intro r s h
  have hr := find?_message r
  rw [h, find?_message s] at hr
  exact (Option.some.inj hr).symm

end LayoutRule

/-- A node breaks a rule about its own token, its text or the number of its children. -/
def Node.Malformed (n : Node) : LayoutRule → Prop
  | .ifParts => n.kind = .ifStatement ∧ n.children.length ≠ 2 ∧ n.children.length ≠ 3
  | .oneStatement => n.kind = .elseClause ∧ n.children.length ≠ 1
  | .oneExpression => n.kind ∈ Node.singleKinds ∧ n.children.length ≠ 1
  | .atMostOneExpression => n.kind = .returnStatement ∧ 1 < n.children.length
  | .invocationTarget => n.kind = .invocation ∧ n.children = []
  | .nameToken => n.kind ∈ [.localDeclaration, .memberAccess, .identifier] ∧ n.token.getD "" = ""
  | .valueToken => n.kind ∈ [.literal, .interpolatedText] ∧ n.token = none
  | .noChildren => n.kind ∈ [.literal, .interpolatedText, .identifier] ∧ n.children ≠ []
  | .arrow => n.kind = .anonymousFunction ∧ ¬ ['=', '>'] <:+: n.text.toList
  | .oneBody | .blockBody | .statementHere | .expressionHere | .elseThird | .stringParts => False

/-- A node of this kind breaks a rule at position `i` of a parent of the other kind. -/
def Kind.Misplaced (k parent : Kind) (i : Nat) : LayoutRule → Prop
  | .statementHere =>
    (parent = .block ∨ parent = .ifStatement ∧ i = 1 ∨ parent = .elseClause ∧ i = 0) ∧ k.isStatement = false
  | .expressionHere =>
    (parent = .invocation ∨ parent ∈ .ifStatement :: .returnStatement :: Node.singleKinds ∧ i = 0) ∧
      k.isExpression = false
  | .elseThird => (parent = .ifStatement ∧ i = 2) ∧ k ≠ .elseClause
  | .stringParts => parent = .interpolatedString ∧ k ≠ .interpolatedText ∧ k ≠ .interpolation
  | _ => False

namespace Node

/-- The node that a trail of child positions leads to. -/
def descendant? (n : Node) : List Nat → Option Node
  | [] => some n
  | i :: trail => n.children[i]?.bind fun c => c.descendant? trail

/-- An error is about a node of a tree: it has the trail of the node and its kind, and the node breaks
the rule. -/
structure Blames (n : Node) (e : LayoutError) (culprit : Node) : Prop where
  found : n.descendant? e.trail = some culprit
  kind : e.kind = culprit.kind
  broken : culprit.Malformed e.rule ∨
    ∃ above i parent, e.trail = above ++ [i] ∧ n.descendant? above = some parent ∧
      culprit.kind.Misplaced parent.kind i e.rule

/-- A check that fails only for nodes of a tree that break a rule. -/
abbrev Located (n : Node) : Except LayoutError Unit → Prop := FailsOnly fun e => ∃ culprit, n.Blames e culprit

variable {n c : Node} {ok : Node → Bool} {r : LayoutRule} {i : Nat}

/-! ## One node -/

theorem Blames.own (h : n.Malformed r) : n.Blames ⟨[], n.kind, r⟩ n := ⟨rfl, rfl, .inl h⟩

theorem Blames.child (hc : n.children[i]? = some c) (h : c.kind.Misplaced n.kind i r) :
    n.Blames ⟨[i], c.kind, r⟩ c where
  found := by rw [descendant?, hc, Option.bind_some, descendant?]
  kind := rfl
  broken := .inr ⟨[], i, n, rfl, rfl, h⟩

/-- What is wrong with a child is wrong with the tree, one step further down. -/
theorem Blames.below {e : LayoutError} {culprit : Node} (hc : n.children[i]? = some c) (h : c.Blames e culprit) :
    n.Blames (e.under i) culprit where
  found := by rw [LayoutError.under, descendant?, hc, Option.bind_some, h.found]
  kind := h.kind
  broken := by
    rcases h.broken with hm | ⟨above, j, parent, ht, hp, hm⟩
    · exact .inl hm
    · refine .inr ⟨i :: above, j, parent, ?_, ?_, hm⟩
      · rw [LayoutError.under, ht, List.cons_append]
      · rw [descendant?, hc, Option.bind_some, hp]

theorem located_require {b : Bool} (h : b = false → n.Malformed r) : n.Located (n.require b r) := by
  cases b with
  | true => exact .ok ()
  | false => exact FailsOnly.error.2 ⟨n, .own (h rfl)⟩

/-- The same for a rule about all children from position `i` on, or the first of these. -/
theorem located_requireEach {cs : List Node} (hcs : cs <+: n.children.drop i)
    (h : ∀ c j, i ≤ j → j < i + cs.length → ok c = false → c.kind.Misplaced n.kind j r) :
    n.Located (requireEach ok r i cs) := by
  induction cs generalizing i with
  | nil => exact .ok ()
  | cons c cs ih =>
    rw [List.length_cons] at h
    obtain ⟨after, hcs⟩ := hcs
    have hc : n.children[i]? = some c := by rw [← List.head?_drop, ← hcs, List.cons_append, List.head?_cons]
    have hrest : cs <+: n.children.drop (i + 1) := ⟨after, by rw [← List.tail_drop, ← hcs, List.cons_append, List.tail_cons]⟩
    have hfirst : n.Located (c.requireAt i (ok c) r) := by
      unfold requireAt require
      cases ho : ok c with
      | true => exact .ok ()
      | false => exact FailsOnly.error.2 ⟨c, .child hc (h c i (Nat.le_refl i) (by omega) ho)⟩
    exact hfirst.bind fun _ _ => ih hrest fun d j hi hj => h d j (by omega) (by omega)

/-- A rule about the first child at most. -/
theorem located_first {cs : List Node} (hcs : cs <+: n.children.drop i) (hl : cs.length ≤ 1)
    (h : ∀ c, ok c = false → c.kind.Misplaced n.kind i r) : n.Located (requireEach ok r i cs) := by
  refine located_requireEach hcs fun c j hi hj => ?_
  obtain rfl : j = i := by omega
  exact h c

theorem located_firstIsExpression (h : n.kind ∈ .ifStatement :: .returnStatement :: singleKinds) :
    n.Located n.firstIsExpression :=
  located_first (List.take_prefix 1 _) (List.length_take_le 1 _) fun _ hc => ⟨.inr ⟨h, rfl⟩, hc⟩

theorem located_checkLayout (n : Node) : n.Located n.checkLayout := by
  have hall : n.children <+: n.children.drop 0 := List.prefix_refl _
  unfold checkLayout
  cases hk : n.kind <;> dsimp only
  case block => exact located_requireEach hall fun c j _ _ hc => ⟨.inl hk, hc⟩
  case ifStatement =>
    refine FailsOnly.bind (located_require fun hb => ⟨hk, by simpa using hb⟩) fun _ hb => ?_
    have hl : n.children.length ≤ 3 := by
      have hb := require_ok.1 hb
      simp only [Bool.or_eq_true, beq_iff_eq] at hb
      omega
    refine FailsOnly.bind (located_firstIsExpression (by simp [hk])) fun _ _ => FailsOnly.bind ?_ fun _ _ => ?_
    · exact located_first (List.take_prefix 1 _) (List.length_take_le 1 _) fun c hc => ⟨.inr (.inl ⟨hk, rfl⟩), hc⟩
    · refine located_first (List.prefix_refl _) ?_ fun c hc => ⟨⟨hk, rfl⟩, by simpa using hc⟩
      rw [List.length_drop]
      omega
  case elseClause =>
    refine FailsOnly.bind (located_require fun hb => ⟨hk, by simpa using hb⟩) fun _ hb => ?_
    have hl : n.children.length = 1 := by simpa using require_ok.1 hb
    exact located_first hall (Nat.le_of_eq hl) fun c hc => ⟨.inr (.inr ⟨hk, rfl⟩), hc⟩
  case expressionStatement | interpolation =>
    refine FailsOnly.bind (located_require fun hb => ⟨by simp [hk, singleKinds], by simpa using hb⟩) fun _ _ => ?_
    exact located_firstIsExpression (by simp [hk, singleKinds])
  case localDeclaration | memberAccess =>
    refine FailsOnly.bind (located_require fun hb => ⟨by simp [hk], by simpa [name] using hb⟩) fun _ _ => ?_
    refine FailsOnly.bind (located_require fun hb => ⟨by simp [hk, singleKinds], by simpa using hb⟩) fun _ _ => ?_
    exact located_firstIsExpression (by simp [hk, singleKinds])
  case returnStatement =>
    refine FailsOnly.bind (located_require fun hb => ⟨hk, by simpa using hb⟩) fun _ _ => ?_
    exact located_firstIsExpression (by simp [hk])
  case invocation =>
    refine FailsOnly.bind (located_require fun hb => ⟨hk, by simpa using hb⟩) fun _ _ => ?_
    exact located_requireEach hall fun c j _ _ hc => ⟨.inl hk, hc⟩
  case interpolatedString =>
    exact located_requireEach hall fun c j _ _ hc => ⟨hk, by simpa [isStringPart] using hc⟩
  case literal | interpolatedText =>
    refine FailsOnly.bind (located_require fun hb => ⟨by simp [hk], by simpa using hb⟩) fun _ _ => ?_
    exact located_require fun hb => ⟨by simp [hk], by simpa using hb⟩
  case identifier =>
    refine FailsOnly.bind (located_require fun hb => ⟨by simp [hk], by simpa [name] using hb⟩) fun _ _ => ?_
    exact located_require fun hb => ⟨by simp [hk], by simpa using hb⟩
  case anonymousFunction =>
    refine located_require fun hb => ⟨hk, ?_⟩
    rw [← Text.hasArrow_iff, hb]
    exact Bool.false_ne_true

/-! ## Whole trees -/

theorem located_under (hc : n.children[i]? = some c) (h : c.Located c.check) :
    n.Located (c.check.mapError (·.under i)) := by
  intro e he
  obtain ⟨e, hce, rfl⟩ := mapError_eq_error.1 he
  obtain ⟨culprit, hb⟩ := h e hce
  exact ⟨culprit, hb.below hc⟩

theorem located_checkChildren {cs : List Node} (hcs : cs = n.children.drop i) (h : ∀ c ∈ cs, c.Located c.check) :
    n.Located (checkChildren i cs) := by
  induction cs generalizing i with
  | nil => exact .ok ()
  | cons c cs ih =>
    obtain ⟨hfirst, hrest⟩ := List.forall_mem_cons.1 h
    have hc : n.children[i]? = some c := by rw [← List.head?_drop, ← hcs, List.head?_cons]
    have hcs : cs = n.children.drop (i + 1) := by rw [← List.tail_drop, ← hcs, List.tail_cons]
    exact FailsOnly.bind (located_under hc hfirst) fun _ _ => ih hcs hrest

/-- Every error of the check is about a node of the tree that breaks a rule. -/
theorem located_check (n : Node) : n.Located n.check := by
  induction n using children_induction with
  | parent n ih =>
    obtain ⟨k, t, cs, x⟩ := n
    exact FailsOnly.bind (located_checkLayout _) fun _ _ => located_checkChildren List.drop_zero.symm ih

end Node

/-! ## Names of places

The name of a place is the name of the root and the positions that lead on from it. A check that
hands the names down, and so knows no trails, finds the same. -/

/-- A trail as it stands in the name of a place. -/
def trailText : List Nat → String
  | [] => ""
  | i :: trail => "[" ++ toString i ++ "]" ++ trailText trail

/-- A broken rule with the name of the place. -/
structure PlacedError where
  place : String
  kind : Kind
  rule : LayoutRule

namespace LayoutError

theorem place_eq (root : String) (e : LayoutError) : e.place root = root ++ trailText e.trail := by
  obtain ⟨trail, k, r⟩ := e
  unfold place
  dsimp only
  induction trail generalizing root with
  | nil => rw [List.foldl_nil, trailText, String.append_empty]
  | cons i trail ih => rw [List.foldl_cons, ih, trailText]; simp only [String.append_assoc]

def placed (place : String) (e : LayoutError) : PlacedError := ⟨e.place place, e.kind, e.rule⟩

end LayoutError

namespace Node

mutual

/-- Checks a tree whose place has this name. -/
def checkNamed (place : String) : Node → Except PlacedError Unit
  | ⟨k, t, cs, x⟩ => do
    (checkLayout ⟨k, t, cs, x⟩).mapError (·.placed place)
    checkAllNamed place 0 cs

/-- Checks some children, from position `i` on, of the node whose place has this name. -/
def checkAllNamed (place : String) (i : Nat) : List Node → Except PlacedError Unit
  | [] => .ok ()
  | c :: cs => do
    checkNamed (place ++ "[" ++ toString i ++ "]") c
    checkAllNamed place (i + 1) cs

end

theorem checkNamed_eq (place : String) (n : Node) : n.checkNamed place = n.check.mapError (·.placed place) := by
  induction n using children_induction generalizing place with
  | parent n ih =>
    obtain ⟨k, t, cs, x⟩ := n
    have hc (i : Nat) : checkAllNamed place i cs = (checkChildren i cs).mapError (·.placed place) := by
      induction cs generalizing i with
      | nil => rfl
      | cons c cs ihc =>
        obtain ⟨h, hcs⟩ := List.forall_mem_cons.1 ih
        rw [checkAllNamed, checkChildren, h, ihc hcs]
        cases c.check <;> rfl
    rw [checkNamed, check, hc]
    cases checkLayout ⟨k, t, cs, x⟩ <;> rfl

end Node

/-- An error leads to the node it is about. The name of its place is that of the root with the
positions that lead to a node of the tree. The error has the kind of this node, and the node breaks
the rule that the message names, by itself or at its position in its parent. Under another name of
the root all else stays as it is. -/
theorem layout_error_names_culprit {n : Node} {root : String} {e : InvalidNode} (h : n.checkAt root = .error e) :
    ∃ trail culprit,
      n.descendant? trail = some culprit ∧ e.error.kind = culprit.kind ∧
        e.error.place e.root = root ++ trailText trail ∧
        (∀ r : LayoutRule, r.message = e.error.rule.message → culprit.Malformed r ∨
          ∃ above i parent, trail = above ++ [i] ∧ n.descendant? above = some parent ∧
            culprit.kind.Misplaced parent.kind i r) ∧
        ∀ place, n.checkAt place = .error ⟨place, trail, culprit.kind, e.error.rule⟩ ∧
          n.checkNamed place = .error ⟨place ++ trailText trail, culprit.kind, e.error.rule⟩ := by
  obtain ⟨f, hf, rfl⟩ := mapError_eq_error.1 h
  obtain ⟨culprit, hb⟩ := n.located_check f hf
  refine ⟨f.trail, culprit, hb.found, hb.kind, f.place_eq root, fun r hr => ?_, fun place => ⟨?_, ?_⟩⟩
  · rw [LayoutRule.message_injective hr]
    exact hb.broken
  · rw [Node.checkAt, hf, ← hb.kind]
    rfl
  · rw [Node.checkNamed_eq, hf, ← hb.kind, ← f.place_eq]
    rfl

/-- An expression among the statements that an if in a block governs. -/
theorem layout_error_names_culprit_nested :
    let inner := Node.block [.expressionStatement (.identifier "x"), .identifier "y"]
    let body := Node.block [.ifStatement (.identifier "c") inner]
    let e : InvalidNode := ⟨"Api.Inbound.body", [0, 1, 1], .identifier, .statementHere⟩
    body.checkAt "Api.Inbound.body" = .error e ∧
      e.message = "Invalid identifier node at Api.Inbound.body[0][1][1]: expected a statement" ∧
      ∃ trail culprit, body.descendant? trail = some culprit ∧ e.error.kind = culprit.kind ∧
        e.error.place e.root = "Api.Inbound.body" ++ trailText trail := by
  intro inner body e
  have h : body.checkAt "Api.Inbound.body" = .error e := rfl
  obtain ⟨trail, culprit, hf, hk, hp, -⟩ := layout_error_names_culprit h
  exact ⟨h, by decide +kernel, trail, culprit, hf, hk, hp⟩

end GatewayPolicy
