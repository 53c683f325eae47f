import GatewayPolicy.Proofs.Element
import GatewayPolicy.Proofs.Layout
import GatewayPolicy.Proofs.Sections
/-!
# Nodes in their places

The compiler reaches the parts of a node through functions that answer nothing on a node
of another layout, and calls a missing part a structural failure. The layout check rules
these failures out: on a checked tree every part is where the compiler looks for it. Each
function of the compiler is safe on checked nodes, whatever compilers are registered.
-/

namespace GatewayPolicy

/-- Whether a cause is a node of another kind than its place asks for. -/
def Cause.isStructural : Cause → Bool
  | structural .. => true
  | _ => false

/-! ## Safe results -/

/-- A result that is no structural failure. -/
def Safe {α : Type} (x : Except Cause α) : Prop := ∀ c, x = .error c → c.isStructural = false

section
variable {α β : Type} {x : Except Cause α} {f : α → Except Cause β}

@[simp] theorem safe_ok (a : α) : Safe (.ok a : Except Cause α) := FailsOnly.ok a

@[simp] theorem safe_error {c : Cause} : Safe (.error c : Except Cause α) ↔ c.isStructural = false := FailsOnly.error

theorem Safe.bind (hx : Safe x) (hf : ∀ a, x = .ok a → Safe (f a)) : Safe (x >>= f) := FailsOnly.bind hx hf

theorem Safe.mapM {as : List α} (h : ∀ a ∈ as, Safe (f a)) : Safe (as.mapM f) := FailsOnly.mapM h

theorem Safe.mapM_option {o : Option α} (h : ∀ a, o = some a → Safe (f a)) : Safe (o.mapM f) :=
  FailsOnly.mapM_option h

theorem built_safe (x : Except BuildError Fragment) : Safe (built x) := by
  cases x with
  | error e => exact safe_error.2 rfl
  | ok f => exact safe_ok f

end

/-! ## Expressions -/

section
variable {env : Environment} {n : Node}

/-- A part of an interpolated string is a text, or a hole with an expression in it. -/
theorem TemplatePart.ofNode_safe (h : n.Sound) (hn : n.isStringPart) : Safe (ofNode n) := by
  simp only [Node.isStringPart, Bool.or_eq_true, beq_iff_eq] at hn
  unfold ofNode
  rcases hn with hn | hn
  · rw [hn]
    exact safe_ok _
  · obtain ⟨e, he, -⟩ := h.expression_single (by simp [hn, Node.singleKinds])
    rw [hn, he]
    dsimp only
    split
    · exact safe_ok _
    · exact safe_error.2 rfl

theorem extractTemplate_safe (o : Options) (ps : List TemplatePart) : Safe (extractTemplate o ps) := by
  unfold extractTemplate
  dsimp only
  split
  · exact safe_ok _
  · split
    · exact safe_ok _
    · exact safe_error.2 rfl

theorem extractLambda_safe (o : Options) (expected : ResultType) (text : String) :
    Safe (extractLambda o expected text) := by
  unfold extractLambda
  dsimp only
  repeat' split
  all_goals simp [Cause.isStructural]

theorem extractForwarded_safe (env : Environment) (n : Node) : Safe (extractForwarded env n) := by
  unfold extractForwarded
  dsimp only
  repeat' split
  all_goals simp [Cause.isStructural]

theorem extract_safe (h : n.Sound) (expected : ResultType) : Safe (extract env expected n) := by
  unfold extract
  split
  · exact safe_error.2 rfl
  · exact safe_error.2 rfl
  · exact safe_ok _
  · next hn =>
    have hp : Safe (n.children.mapM TemplatePart.ofNode) := by
      refine .mapM fun c hc => ?_
      exact TemplatePart.ofNode_safe (h.child hc) (h.isStringPart_child hn hc)
    exact hp.bind fun ps _ => extractTemplate_safe _ ps
  · exact extractLambda_safe _ _ _
  · exact extractForwarded_safe _ _
  · exact safe_error.2 rfl

theorem extractValue_safe (h : n.Sound) : Safe (extractValue env n) := extract_safe h .value

theorem extractPredicate_safe (h : n.Sound) : Safe (extractPredicate env n) := extract_safe h .predicate

end

/-! ## Policy calls -/

section
variable {env : Environment} {n call : Node}

theorem readCountArgument_safe (policy : PolicyCall) (field : String) (n : Node) :
    Safe (readCountArgument policy field n) := by
  unfold readCountArgument
  repeat' split
  all_goals simp [Cause.isStructural]

theorem headerElement_safe (action : ExistsAction) {values : List Node} (hn : n.Sound)
    (hv : ∀ v ∈ values, v.Sound) : Safe (headerElement env action n values) := by
  have hs : Safe (values.mapM (extractValue env)) := .mapM fun v h => extractValue_safe (hv v h)
  exact (extractValue_safe hn).bind fun _ _ => hs.bind fun _ _ => built_safe _

theorem managedIdentityElement_safe {clientId : Option Node} (output : Option String) (hn : n.Sound)
    (hc : ∀ c, clientId = some c → c.Sound) : Safe (managedIdentityElement env n clientId output) := by
  have hs : Safe (clientId.mapM (extractValue env)) := .mapM_option fun c h => extractValue_safe (hc c h)
  exact (extractValue_safe hn).bind fun _ _ => hs.bind fun _ _ => built_safe _

theorem rateLimitElement_safe (calls period : Node) {condition : Option Node} (hn : n.Sound)
    (hc : ∀ c, condition = some c → c.Sound) : Safe (rateLimitElement env calls period n condition) := by
  have hs : Safe (condition.mapM (extractPredicate env)) := .mapM_option fun c h => extractPredicate_safe (hc c h)
  refine (readCountArgument_safe _ _ calls).bind fun _ _ => ?_
  refine (readCountArgument_safe _ _ period).bind fun _ _ => ?_
  exact (extractValue_safe hn).bind fun _ _ => hs.bind fun _ _ => built_safe _

theorem PolicyCall.element_safe (p : PolicyCall) (h : call.Sound) : Safe (p.element env call) := by
  have ha := h.arguments
  unfold element
  split
  · exact safe_ok _
  · next name v vs he =>
    rw [he, List.forall_mem_cons] at ha
    exact headerElement_safe _ ha.1 ha.2
  · next name v vs he =>
    rw [he, List.forall_mem_cons] at ha
    exact headerElement_safe _ ha.1 ha.2
  · next name he =>
    rw [he, List.forall_mem_cons] at ha
    exact headerElement_safe _ ha.1 ha.2
  · next body he =>
    rw [he, List.forall_mem_cons] at ha
    exact (extractValue_safe ha.1).bind fun _ _ => built_safe _
  · next username password he =>
    rw [he, List.forall_mem_cons, List.forall_mem_cons] at ha
    obtain ⟨hu, hp, -⟩ := ha
    exact (extractValue_safe hu).bind fun _ _ => (extractValue_safe hp).bind fun _ _ => built_safe _
  · next resource he =>
    rw [he, List.forall_mem_cons] at ha
    exact managedIdentityElement_safe _ ha.1 (by simp)
  · next resource clientId he =>
    rw [he, List.forall_mem_cons, List.forall_mem_cons] at ha
    obtain ⟨hr, hc, -⟩ := ha
    exact managedIdentityElement_safe _ hr (by simpa using hc)
  · next calls period key he =>
    exact rateLimitElement_safe _ _ (ha key (by simp [he])) (by simp)
  · next calls period key condition he =>
    exact rateLimitElement_safe _ _ (ha key (by simp [he])) (by simpa using ha condition (by simp [he]))
  · exact safe_error.2 rfl

theorem BoundCall.element_safe (p : BoundCall) (name : String) (h : call.Sound) : Safe (p.element env call name) := by
  have ha := h.arguments
  unfold element
  split
  · next resource he =>
    rw [he, List.forall_mem_cons] at ha
    exact managedIdentityElement_safe _ ha.1 (by simp)
  · next resource clientId he =>
    rw [he, List.forall_mem_cons, List.forall_mem_cons] at ha
    obtain ⟨hr, hc, -⟩ := ha
    exact managedIdentityElement_safe _ hr (by simpa using hc)
  · exact safe_error.2 rfl

/-- Every invocation has a target, so a call is read without a structural failure. -/
theorem calledPolicy_safe (o : Options) (h : call.Sound) : Safe (calledPolicy o call) := by
  unfold calledPolicy
  by_cases hk : call.kind = .invocation
  · obtain ⟨t, ht⟩ := h.target_invocation hk
    rw [if_neg (by simp [hk]), ht]
    dsimp only
    repeat' split
    all_goals simp [Cause.isStructural]
  · rw [if_pos hk]
    exact safe_error.2 rfl

theorem callStatement_safe (ps : List PolicyCall) (h : n.Sound) (hn : n.kind = .expressionStatement) :
    Safe (callStatement env ps n) := by
  obtain ⟨call, hc, hs⟩ := h.expression_single (by simp [hn, Node.singleKinds])
  rw [callStatement_eq env ps hn, hc]
  refine (calledPolicy_safe _ hs).bind fun name _ => ?_
  split
  · exact safe_error.2 rfl
  · exact PolicyCall.element_safe _ hs

theorem bindingStatement_safe (ps : List BoundCall) (h : n.Sound) (hn : n.kind = .localDeclaration) :
    Safe (bindingStatement env ps n) := by
  obtain ⟨call, hc, hs⟩ := h.expression_single (by simp [hn, Node.singleKinds])
  rw [bindingStatement_eq env ps hn, hc]
  split
  · exact safe_error.2 rfl
  · refine (calledPolicy_safe _ hs).bind fun name _ => ?_
    split
    · exact safe_error.2 rfl
    · exact BoundCall.element_safe _ _ hs

end

/-! ## Emissions -/

namespace Emission

/-- An emission that did not end in a structural failure. -/
def Safe (e : Emission) : Prop := ∀ c, e.failure = some c → c.isStructural = false

variable {a b e : Emission}

@[simp] theorem safe_fail {c : Cause} : (fail c).Safe ↔ c.isStructural = false := by
  simp [Safe, fail]

theorem safe_of_failure_eq_none (h : e.failure = none) : e.Safe := by
  intro c hc
  rw [h] at hc
  cases hc

theorem safe_ofElement {x : Except Cause Fragment} (h : GatewayPolicy.Safe x) : (ofElement x).Safe := by
  cases x with
  | error c => exact safe_fail.2 (safe_error.1 h)
  | ok f => exact safe_of_failure_eq_none rfl

theorem Safe.andThen (ha : a.Safe) (hb : b.Safe) : (a.andThen b).Safe := by
  intro c h
  rw [andThen_failure, Option.or_eq_some_iff] at h
  rcases h with h | ⟨-, h⟩
  · exact ha c h
  · exact hb c h

theorem safe_wrap {parent : Fragment} : (e.wrap parent).Safe ↔ e.Safe := by
  simp [Safe]

theorem safe_gather {parent : Fragment} : (e.gather parent).Safe ↔ e.Safe := by
  simp [Safe]

end Emission

/-! ## Statements -/

section
variable {env : Environment} {r : Registry} {n : Node}

/-- The statements of a list, if sound, compile without a structural failure. -/
def ListSafe (env : Environment) (r : Registry) (ns : List Node) : Prop :=
  (∀ n ∈ ns, n.Sound) → (compileStatements env r ns).Safe

/-- The branches of an if statement, if sound, compile without a structural failure. -/
def ChainSafe (env : Environment) (r : Registry) (n : Node) : Prop :=
  n.Sound → (compileChain env r n.children).Safe

theorem compileBranch_safe {s : Node} (parent : Fragment) (hs : s.Sound) (h : ListSafe env r s.statements) :
    (compileBranch env r parent s).Safe := by
  rw [compileBranch_eq]
  split
  · exact Emission.safe_wrap.2 (h hs.statements)
  · exact Emission.safe_fail.2 rfl

theorem compileElse_safe {o : Option Node} (ho : ∀ t, o = some t → t.Sound)
    (h : ∀ t, o = some t → (t.kind = .ifStatement → ChainSafe env r t) ∧ ListSafe env r t.statements) :
    (compileElse env r o).Safe := by
  cases o with
  | none => exact Emission.safe_of_failure_eq_none rfl
  | some t =>
    obtain ⟨h₁, h₂⟩ := h t rfl
    have ht := ho t rfl
    rw [compileElse]
    split
    · next hk => exact h₁ hk ht
    · exact compileBranch_safe _ ht h₂

theorem compileChain_safe (hk : n.kind = .ifStatement) (hs : ∀ s, n.statement = some s → ListSafe env r s.statements)
    (ht : ∀ t, n.elseStatement = some t → (t.kind = .ifStatement → ChainSafe env r t) ∧ ListSafe env r t.statements) :
    ChainSafe env r n := by
  intro hn
  obtain ⟨c, hc, hcs⟩ := hn.condition_if hk
  obtain ⟨s, hst⟩ := hn.statement_if hk
  rw [compileChain_eq env r hk, hc, hst]
  have hp : Safe (extractPredicate env c) := extractPredicate_safe hcs
  dsimp only
  cases hx : extractPredicate env c with
  | error e =>
    rw [hx] at hp
    exact Emission.safe_fail.2 (safe_error.1 hp)
  | ok p =>
    have hb := compileBranch_safe (whenElement p) (hn.statement hst) (hs s hst)
    exact hb.andThen (compileElse_safe (fun t => hn.elseStatement) ht)

theorem compileStatement_safe (h : n.Sound) (hn : ListSafe env r n.statements)
    (hc : n.kind = .ifStatement → ChainSafe env r n) : (compileStatement env r n).Safe := by
  rw [compileStatement_eq]
  cases hf : r.find? n.kind with
  | none =>
    apply Emission.safe_of_failure_eq_none
    unfold unknownStatement
    cases env.options.unknownStatements <;> rfl
  | some compiler =>
    have hk : n.kind = compiler.kind := (kind_of_find? r hf).symm
    cases compiler with
    | calls ps => exact Emission.safe_ofElement (callStatement_safe ps h hk)
    | bindings ps => exact Emission.safe_ofElement (bindingStatement_safe ps h hk)
    | branches => exact Emission.safe_gather.2 (hc hk h)
    | nestedBlocks =>
      have hs := hn h.statements
      rw [Node.statements, if_pos (show n.kind = .block from hk)] at hs
      exact hs

/-- Sound statements compile without a structural failure, whichever compilers are registered. -/
theorem compileStatements_safe (env : Environment) (r : Registry) (ns : List Node) : ListSafe env r ns := by
  refine Node.chains_induction (P := ListSafe env r) (Q := ChainSafe env r) ?_ ?_ ?_ ns
  · intro _
    rw [compileStatements_nil]
    exact Emission.safe_of_failure_eq_none rfl
  · intro n ns ihn ihc ih h
    obtain ⟨hn, hns⟩ := List.forall_mem_cons.1 h
    rw [compileStatements_cons]
    exact (compileStatement_safe hn ihn ihc).andThen (ih hns)
  · intro n hk
    exact compileChain_safe hk

end

/-! ## Declarations -/

namespace PolicyCompiler

variable {env : Environment} {r : Registry} {m : Method}

theorem sealSection_safe {s : Section} {e : Emission} (h : e.Safe) : Safe (sealSection s e) := by
  unfold sealSection
  split
  · next c hc => exact safe_error.2 (h c hc)
  · split
    · exact safe_ok _
    · exact safe_error.2 rfl

theorem compileSection_safe {className : String} {s : Section} (h : m.check className = .ok ()) :
    Safe (compileSection env r s m) := by
  cases hb : m.body with
  | none =>
    rw [compileSection, hb]
    exact safe_error.2 rfl
  | some b =>
    obtain ⟨hk, hs⟩ := m.body_of_check h hb
    rw [compileSection_eq hb, compileBlock_eq, if_pos hk]
    exact sealSection_safe (compileStatements_safe env r _ hs.statements)

theorem compileMethod_safe {className : String} {s : Section} {c : Cause} (hm : m.check className = .ok ())
    (h : compileMethod env r m = .error (.inSection s c)) : c.isStructural = false := by
  unfold compileMethod at h
  split at h
  · cases h
  · cases h
    rfl
  · cases h
  · obtain ⟨c', hc, he⟩ := mapError_eq_error.1 h
    cases he
    have hs : Safe (compileSection env r s m) := compileSection_safe hm
    cases hx : compileSection env r s m with
    | error e =>
      rw [hx] at hc hs
      cases hc
      exact safe_error.1 hs
    | ok f =>
      rw [hx] at hc
      cases hc

theorem compileMethods_error {ms : List Method} {e : CompileError} (h : compileMethods env r ms = .error e) :
    ∃ m ∈ ms, compileMethod env r m = .error e := by
  obtain ⟨before, m, after, rfl, -, hm⟩ := compileMethods_error_iff.1 h
  exact ⟨m, List.mem_append_right before List.mem_cons_self, hm⟩

/-- A declaration that passes the layout check compiles without a structural failure, with any
options and any list of statement compilers. -/
theorem checked_not_structural {d : Declaration} (h : d.check = .ok ()) (o : Options)
    (compilers : List StatementCompiler) (s : Section) (expected found : Kind) :
    compile ⟨o, ⟨compilers⟩⟩ d ≠ .error (.inSection s (.structural expected found)) := by
  intro hc
  rcases bind_error.1 hc with hc | ⟨fs, -, hc⟩
  · obtain ⟨m, hm, he⟩ := compileMethods_error hc
    have hs := compileMethod_safe (Declaration.check_ok.1 h m hm) he
    cases hs
  · cases hc

theorem checked_not_structural_branching :
    branchingDeclaration.check = .ok () ∧
      compile ⟨{}, ⟨[.calls [.setBody, .base], .branches]⟩⟩ branchingDeclaration ≠
        .error (.inSection .inbound (.structural .block .ifStatement)) := by
  have h : branchingDeclaration.check = .ok () := by decide +kernel
  exact ⟨h, checked_not_structural h _ _ .inbound .block .ifStatement⟩

/-- The check is needed: an if statement without parts fails so. -/
example :
    (match compile (standard {}) ⟨"Api", [.forSection "Inbound" (.block [.make .ifStatement none []])]⟩ with
      | .error (.inSection _ c) => c.isStructural
      | _ => false) = true := by
  decide +kernel

end PolicyCompiler

end GatewayPolicy
