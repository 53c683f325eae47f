import GatewayPolicy.Proofs.Gives
import GatewayPolicy.Proofs.Placement
/-!
# Drafts that are refused

A draft is refused when a field is missing or has a value that the policy does not take.
The calls fill in their drafts so that this happens in one way only: a variable whose
name is all white space is to hold a token.
-/

namespace GatewayPolicy

/-- Whether a cause is the refusal of a draft. -/
def Cause.isBuild : Cause → Bool
  | build _ => true
  | _ => false

/-- A result that is not the refusal of a draft. -/
abbrev NotRefused {α : Type} (x : Except Cause α) : Prop := FailsOnly (fun c => c.isBuild = false) x

theorem NotRefused.ne_build {α : Type} {x : Except Cause α} (h : NotRefused x) {e : BuildError} :
    x ≠ .error (.build e) := by
  intro hx
  cases h _ hx

/-! ## Extraction -/

section
variable {env : Environment} {n : Node}

theorem TemplatePart.ofNode_notRefused (n : Node) : NotRefused (ofNode n) := by
  unfold ofNode
  repeat' split
  all_goals simp [Cause.isBuild]

theorem extractTemplate_notRefused (o : Options) (ps : List TemplatePart) : NotRefused (extractTemplate o ps) := by
  unfold extractTemplate
  dsimp only
  repeat' split
  all_goals simp [Cause.isBuild]

theorem extractLambda_notRefused (o : Options) (expected : ResultType) (text : String) :
    NotRefused (extractLambda o expected text) := by
  unfold extractLambda
  dsimp only
  repeat' split
  all_goals simp [Cause.isBuild]

theorem extractForwarded_notRefused (env : Environment) (n : Node) : NotRefused (extractForwarded env n) := by
  unfold extractForwarded
  dsimp only
  repeat' split
  all_goals simp [Cause.isBuild]

theorem extract_notRefused (env : Environment) (expected : ResultType) (n : Node) :
    NotRefused (extract env expected n) := by
  unfold extract
  split
  · exact FailsOnly.error.2 rfl
  · exact FailsOnly.error.2 rfl
  · exact .ok _
  · exact (FailsOnly.mapM fun c _ => TemplatePart.ofNode_notRefused c).bind fun ps _ => extractTemplate_notRefused _ ps
  · exact extractLambda_notRefused _ _ _
  · exact extractForwarded_notRefused _ _
  · exact FailsOnly.error.2 rfl

theorem readCountArgument_notRefused (p : PolicyCall) (field : String) (n : Node) :
    NotRefused (readCountArgument p field n) := by
  unfold readCountArgument
  repeat' split
  all_goals simp [Cause.isBuild]

theorem calledPolicy_notRefused (o : Options) (n : Node) : NotRefused (calledPolicy o n) := by
  unfold calledPolicy
  repeat' split
  all_goals simp [Cause.isBuild]

/-! ## What conditions are -/

theorem extractLambda_resultType {o : Options} {expected : ResultType} {text : String} {p : Snippet}
    (h : extractLambda o expected text = .ok p) : p.resultType = expected := by
  unfold extractLambda at h
  dsimp only at h
  repeat' split at h
  all_goals cases h
  rfl

theorem extractForwarded_resultType {p : Snippet} (h : extractForwarded env n = .ok p) :
    p.resultType = .predicate := by
  unfold extractForwarded at h
  dsimp only at h
  repeat' split at h
  all_goals cases h
  rfl

theorem extractPredicate_resultType {p : Snippet} (h : extractPredicate env n = .ok p) :
    p.resultType = .predicate := by
  unfold extractPredicate extract at h
  split at h
  · cases h
  · cases h
  · next he => cases he
  · next he => cases he
  · exact extractLambda_resultType h
  · exact extractForwarded_resultType h
  · cases h

end

/-! ## Drafts -/

section
variable {name resource key : Snippet} {values : List Snippet} {clientId condition : Option Snippet}

theorem SetHeader.build_eq {a : ExistsAction} (h : a = .delete ↔ values = []) :
    build ⟨some name, some a, values⟩ =
      .ok (Fragment.empty tag
        |>.withAttribute "name" name.policyText
        |>.withAttribute "exists-action" a.name
        |>.withChildren (values.map fun v => (Fragment.empty valueTag).withText v.policyText)) := by
  cases values with
  | nil =>
    obtain rfl := h.2 rfl
    rfl
  | cons v vs =>
    cases a with
    | delete => cases h.1 rfl
    | _ => rfl

theorem RateLimitByKey.build_eq {calls period : UInt32} (h : ∀ p, condition = some p → p.resultType = .predicate) :
    build { calls := some calls, renewalPeriod := some period, counterKey := some key,
            incrementCondition := condition } =
      .ok (Fragment.empty tag
        |>.withAttribute "calls" (countText calls)
        |>.withAttribute "renewal-period" (countText period)
        |>.withAttribute "counter-key" key.policyText
        |>.withAttribute? "increment-condition" (condition.map Snippet.policyText)) := by
  cases condition with
  | none => rfl
  | some p =>
    have hp : p.resultType = .predicate := h p rfl
    simp [build, requireField, hp, Fragment.withAttribute?]

/-- The refusal of a variable for a token. -/
def BuildError.blankVariable : BuildError :=
  .invalidValue "authentication-managed-identity" "output-token-variable-name" "variable name is empty"

theorem AuthenticationManagedIdentity.build_error {output : Option String} {e : BuildError}
    (h : build ⟨some resource, clientId, output, none⟩ = .error e) :
    e = .blankVariable ∧ ∃ v, output = some v ∧ Text.trimmed v = "" := by
  cases output with
  | none => cases h
  | some v =>
    rcases bind_error.1 h with h | ⟨resource, -, h⟩
    · cases h
    · dsimp only at h
      split at h
      · next hv =>
        cases h
        exact ⟨rfl, v, rfl, hv⟩
      · cases h

end

/-! ## Calls -/

section
variable {env : Environment} {n call : Node}

theorem built_notRefused {x : Except BuildError Fragment} (h : ∃ f, x = .ok f) : NotRefused (built x) := by
  obtain ⟨f, rfl⟩ := h
  exact .ok f

theorem headerElement_notRefused {a : ExistsAction} {values : List Node} (h : a = .delete ↔ values = []) :
    NotRefused (headerElement env a n values) := by
  refine (extract_notRefused env .value n).bind fun name _ => ?_
  refine (FailsOnly.mapM fun v _ => extract_notRefused env .value v).bind fun vs hvs => ?_
  -- There are values just if there are arguments for them.
  exact built_notRefused ⟨_, SetHeader.build_eq (h.trans (mapM_ok_nil_iff hvs))⟩

theorem rateLimitElement_notRefused (env : Environment) (calls period key : Node) (condition : Option Node) :
    NotRefused (rateLimitElement env calls period key condition) := by
  refine (readCountArgument_notRefused _ _ calls).bind fun _ _ => ?_
  refine (readCountArgument_notRefused _ _ period).bind fun _ _ => ?_
  refine (extract_notRefused env .value key).bind fun _ _ => ?_
  refine (FailsOnly.mapM_option fun c _ => extract_notRefused env .predicate c).bind fun p hp => ?_
  refine built_notRefused ⟨_, RateLimitByKey.build_eq fun q hq => ?_⟩
  subst hq
  -- The condition of the draft was extracted as one.
  cases condition with
  | none => cases hp
  | some c =>
    obtain ⟨q', hc, hp⟩ := bind_ok.1 hp
    cases hp
    exact extractPredicate_resultType hc

theorem managedIdentityElement_error {resource : Node} {clientId : Option Node} {output : Option String}
    {e : BuildError} (h : managedIdentityElement env resource clientId output = .error (.build e)) :
    e = .blankVariable ∧ ∃ v, output = some v ∧ Text.trimmed v = "" := by
  rcases bind_error.1 h with h | ⟨r, -, h⟩
  · exact absurd h (NotRefused.ne_build (extract_notRefused _ _ _))
  · rcases bind_error.1 h with h | ⟨c, -, h⟩
    · have hc : NotRefused (clientId.mapM (extractValue env)) := .mapM_option fun c _ => extract_notRefused env .value c
      exact absurd h (NotRefused.ne_build hc)
    · obtain ⟨e', he, hb⟩ := mapError_eq_error.1 h
      cases hb
      exact AuthenticationManagedIdentity.build_error he

/-- A token that goes to no variable makes no trouble. -/
theorem managedIdentityElement_notRefused (env : Environment) (resource : Node) (clientId : Option Node) :
    NotRefused (managedIdentityElement env resource clientId none) := by
  intro c h
  cases c with
  | build e =>
    obtain ⟨-, v, hv, -⟩ := managedIdentityElement_error h
    cases hv
  | _ => rfl

theorem PolicyCall.element_notRefused (env : Environment) (p : PolicyCall) (call : Node) :
    NotRefused (p.element env call) := by
  unfold element
  split
  · exact .ok _
  · exact headerElement_notRefused (by simp)
  · exact headerElement_notRefused (by simp)
  · exact headerElement_notRefused (by simp)
  · exact (extract_notRefused env .value _).bind fun _ _ => built_notRefused ⟨_, rfl⟩
  · refine (extract_notRefused env .value _).bind fun _ _ => ?_
    exact (extract_notRefused env .value _).bind fun _ _ => built_notRefused ⟨_, rfl⟩
  · exact managedIdentityElement_notRefused env _ _
  · exact managedIdentityElement_notRefused env _ _
  · exact rateLimitElement_notRefused env _ _ _ _
  · exact rateLimitElement_notRefused env _ _ _ _
  · exact FailsOnly.error.2 rfl

theorem BoundCall.element_error {p : BoundCall} {v : String} {e : BuildError}
    (h : p.element env call v = .error (.build e)) : e = .blankVariable ∧ Text.trimmed v = "" := by
  have hv : ∀ r c, managedIdentityElement env r c (some v) = .error (.build e) →
      e = .blankVariable ∧ Text.trimmed v = "" := by
    intro r c h
    obtain ⟨he, _, ⟨⟩, hb⟩ := managedIdentityElement_error h
    exact ⟨he, hb⟩
  unfold element at h
  split at h
  · exact hv _ _ h
  · exact hv _ _ h
  · cases h

theorem callStatement_notRefused (ps : List PolicyCall) (hn : n.kind = .expressionStatement) :
    NotRefused (callStatement env ps n) := by
  rw [callStatement_eq env ps hn]
  split
  · exact FailsOnly.error.2 rfl
  · refine (calledPolicy_notRefused _ _).bind fun name _ => ?_
    split
    · exact FailsOnly.error.2 rfl
    · exact PolicyCall.element_notRefused _ _ _

/-- A binding is refused for its blank variable alone. -/
theorem bindingStatement_error {ps : List BoundCall} {e : BuildError} (hn : n.kind = .localDeclaration)
    (h : bindingStatement env ps n = .error (.build e)) :
    e = .blankVariable ∧ n.name ≠ "" ∧ Text.trimmed n.name = "" := by
  rw [bindingStatement_eq env ps hn] at h
  split at h
  · cases h
  · next hv =>
    split at h
    · cases h
    · rcases bind_error.1 h with h | ⟨name, -, h⟩
      · exact absurd h (NotRefused.ne_build (calledPolicy_notRefused _ _))
      · split at h
        · cases h
        · obtain ⟨he, hb⟩ := BoundCall.element_error h
          exact ⟨he, hv, hb⟩

theorem policyElement_error {e : BuildError} (hn : n.isPolicy) (h : policyElement env n = .error (.build e)) :
    e = .blankVariable ∧ n.kind = .localDeclaration ∧ n.name ≠ "" ∧ Text.trimmed n.name = "" := by
  unfold policyElement at h
  split at h
  · next hk => exact absurd h (NotRefused.ne_build (callStatement_notRefused _ hk))
  · next hk =>
    have hl : n.kind = .localDeclaration := by simpa [Node.isPolicy, hk] using hn
    obtain ⟨he, hv, hb⟩ := bindingStatement_error hl h
    exact ⟨he, hl, hv, hb⟩

end

/-! ## The statement that fails -/

/-- The compilation of a statement list by the standard registry ends at the policy statement `n`,
whose element fails with `c`; what comes before `n` does not fail. -/
inductive FailsAt (env : Environment) : List Node → Node → Cause → Prop
  | policy {n c} : n.isPolicy → policyElement env n = .error c → FailsAt env [n] n c
  | first {m ms n c} : FailsAt env [m] n c → FailsAt env (m :: ms) n c
  | later {m ms n c} : (compileStatement env .standard m).failure = none → FailsAt env ms n c → FailsAt env (m :: ms) n c
  | block {m n c} : m.kind = .block → FailsAt env m.statements n c → FailsAt env [m] n c
  | body {m p s n c} : Guards env m p s → FailsAt env s.statements n c → FailsAt env [m] n c
  | elseIf {m p s t n c} : Guards env m p s → (compileStatements env .standard s.statements).failure = none →
      m.elseStatement = some t → t.kind = .ifStatement → FailsAt env [t] n c → FailsAt env [m] n c
  | otherwise {m p s t n c} : Guards env m p s → (compileStatements env .standard s.statements).failure = none →
      m.elseStatement = some t → t.kind = .block → FailsAt env t.statements n c → FailsAt env [m] n c

section
variable {env : Environment} {m n s t : Node} {p : Snippet} {c : Cause} {e : BuildError}

theorem compileBranch_failure {r : Registry} {parent : Fragment} (hs : s.kind = .block) :
    (compileBranch env r parent s).failure = (compileStatements env r s.statements).failure := by
  rw [compileBranch_eq, if_pos hs, Emission.wrap_failure]

theorem compileStatement_guards (h : Guards env m p s) :
    (compileStatement env .standard m).failure =
      (compileStatements env .standard s.statements).failure.or (compileElse env .standard m.elseStatement).failure := by
  obtain ⟨c, hc, hp⟩ := h.condition
  rw [compileStatement_if env h.kind, Emission.gather_failure, compileChain_eq env .standard h.kind, hc, h.statement]
  dsimp only
  rw [hp]
  dsimp only
  rw [Emission.andThen_failure, compileBranch_failure h.block]

/-- The failing statement makes the list fail with its own cause. -/
theorem FailsAt.failure {ns : List Node} (h : FailsAt env ns n c) :
    (compileStatements env .standard ns).failure = some c := by
  induction h with
  | policy hn he => rw [compileStatements_singleton, compileStatement_policy env hn, he]; rfl
  | first _ ih =>
    rw [compileStatements_singleton] at ih
    rw [compileStatements_cons, Emission.andThen_failure, ih, Option.some_or]
  | later hm _ ih => rw [compileStatements_cons, Emission.andThen_failure, hm, Option.none_or, ih]
  | block hm _ ih => rw [compileStatements_singleton, compileStatement_block env hm, ih]
  | body hg _ ih => rw [compileStatements_singleton, compileStatement_guards hg, ih, Option.some_or]
  | elseIf hg hs ht hk _ ih =>
    rw [compileStatements_singleton, compileStatement_if env hk, Emission.gather_failure] at ih
    rw [compileStatements_singleton, compileStatement_guards hg, hs, Option.none_or, ht, compileElse, if_pos hk, ih]
  | otherwise hg hs ht hk _ ih =>
    rw [compileStatements_singleton, compileStatement_guards hg, hs, Option.none_or, ht, compileElse,
      if_neg (by simp [hk]), compileBranch_failure hk, ih]

/-- A refusal while a list compiles has a failing statement in the list: conditions and missing parts
fail in other ways. -/
def Located (env : Environment) (ns : List Node) : Prop :=
  ∀ e, (compileStatements env .standard ns).failure = some (.build e) → ∃ n, FailsAt env ns n (.build e)

/-- The same for the branches of an if statement. -/
def ChainLocated (env : Environment) (m : Node) : Prop :=
  ∀ e, (compileChain env .standard m.children).failure = some (.build e) → ∃ n, FailsAt env [m] n (.build e)

theorem compileBranch_located {parent : Fragment}
    (h : (compileBranch env .standard parent s).failure = some (.build e)) (hs : Located env s.statements) :
    s.kind = .block ∧ ∃ n, FailsAt env s.statements n (.build e) := by
  by_cases hk : s.kind = .block
  · rw [compileBranch_failure hk] at h
    exact ⟨hk, hs e h⟩
  · rw [compileBranch_eq, if_neg hk] at h
    cases h

theorem compileChain_located (hm : m.kind = .ifStatement) (hs : ∀ s, m.statement = some s → Located env s.statements)
    (ht : ∀ t, m.elseStatement = some t → (t.kind = .ifStatement → ChainLocated env t) ∧ Located env t.statements) :
    ChainLocated env m := by
  intro e h
  rw [compileChain_eq env .standard hm] at h
  split at h
  · cases h
  · cases h
  · next x s hx hst =>
    split at h
    · next c hc =>
      cases h
      exact absurd hc (NotRefused.ne_build (extract_notRefused _ _ _))
    · next p hp =>
      rw [Emission.andThen_failure, Option.or_eq_some_iff] at h
      rcases h with h | ⟨hb, h⟩
      · obtain ⟨hk, n, hn⟩ := compileBranch_located h (hs s hst)
        exact ⟨n, .body ⟨hm, ⟨x, hx, hp⟩, hst, hk⟩ hn⟩
      · -- The branch before the else did not fail, so its statement is a block.
        have hk : s.kind = .block := by
          by_contra hk
          rw [compileBranch_eq, if_neg hk] at hb
          cases hb
        rw [compileBranch_failure hk] at hb
        have hg : Guards env m p s := ⟨hm, ⟨x, hx, hp⟩, hst, hk⟩
        cases hl : m.elseStatement with
        | none =>
          rw [hl] at h
          cases h
        | some t =>
          rw [hl, compileElse] at h
          obtain ⟨h₁, h₂⟩ := ht t hl
          split at h
          · next hi =>
            obtain ⟨n, hn⟩ := h₁ hi e h
            exact ⟨n, .elseIf hg hb hl hi hn⟩
          · obtain ⟨hi, n, hn⟩ := compileBranch_located h h₂
            exact ⟨n, .otherwise hg hb hl hi hn⟩

theorem compileStatement_located (h : (compileStatement env .standard m).failure = some (.build e))
    (hb : Located env m.statements) (hc : m.kind = .ifStatement → ChainLocated env m) :
    ∃ n, FailsAt env [m] n (.build e) := by
  rcases m.kind_cases with hm | hm | hm | hm
  · rw [compileStatement_policy env hm] at h
    cases hx : policyElement env m with
    | ok f =>
      rw [hx] at h
      cases h
    | error c =>
      rw [hx] at h
      cases h
      exact ⟨m, .policy hm hx⟩
  · rw [compileStatement_if env hm, Emission.gather_failure] at h
    exact hc hm e h
  · rw [compileStatement_block env hm] at h
    obtain ⟨n, hn⟩ := hb e h
    exact ⟨n, .block hm hn⟩
  · rw [compileStatement_unknown env hm, unknownStatement] at h
    split at h <;> cases h

theorem compileStatements_located (env : Environment) (ns : List Node) : Located env ns := by
  refine Node.chains_induction (P := Located env) (Q := ChainLocated env) ?_ ?_ ?_ ns
  · intro e h
    rw [compileStatements_nil] at h
    cases h
  · intro m ms hm hc ih e h
    rw [compileStatements_cons, Emission.andThen_failure, Option.or_eq_some_iff] at h
    rcases h with h | ⟨hn, h⟩
    · obtain ⟨n, hf⟩ := compileStatement_located h hm hc
      exact ⟨n, .first hf⟩
    · obtain ⟨n, hf⟩ := ih e h
      exact ⟨n, .later hn hf⟩
  · intro m hm
    exact compileChain_located hm

/-- A list is refused just if it fails at a statement that is. -/
theorem compileStatements_refused_iff {ns : List Node} :
    (compileStatements env .standard ns).failure = some (.build e) ↔ ∃ n, FailsAt env ns n (.build e) :=
  ⟨compileStatements_located env ns e, fun ⟨_, h⟩ => h.failure⟩

/-- A refusal is that of a statement with a blank variable for a token. -/
theorem FailsAt.refused {ns : List Node} (h : FailsAt env ns n c) (hc : c = .build e) :
    e = .blankVariable ∧ n.kind = .localDeclaration ∧ n.name ≠ "" ∧ Text.trimmed n.name = "" := by
  induction h with
  | policy hn he =>
    subst hc
    exact policyElement_error hn he
  | first _ ih | later _ _ ih | block _ _ ih | body _ _ ih | elseIf _ _ _ _ _ ih | otherwise _ _ _ _ _ ih => exact ih hc

end

/-! ## Declarations -/

namespace PolicyCompiler

/-- The section of a method is refused at a statement of its body. -/
theorem compileMethod_refused {env : Environment} {m : Method} {s : Section} {e : BuildError}
    (h : compileMethod env .standard m = .error (.inSection s (.build e))) :
    Section.ofMethodName? m.name = some s ∧
      ∃ b n, m.body = some b ∧ FailsAt env b.statements n (.build e) := by
  unfold compileMethod at h
  split at h
  · cases h
  · cases h
  · cases h
  · next s' hv hs =>
    obtain ⟨c, hc, he⟩ := mapError_eq_error.1 h
    cases he
    refine ⟨hs, ?_⟩
    cases hx : compileSection env .standard s m with
    | ok f =>
      rw [hx] at hc
      cases hc
    | error c =>
      rw [hx] at hc
      cases hc
      cases hb : m.body with
      | none =>
        rw [compileSection, hb] at hx
        cases hx
      | some b =>
        rw [compileSection_eq hb, sealSection] at hx
        split at hx
        · next c hf =>
          cases hx
          rw [compileBlock_eq] at hf
          split at hf
          · obtain ⟨n, hn⟩ := compileStatements_refused_iff.1 hf
            exact ⟨b, n, rfl, hn⟩
          · cases hf
        · split at hx <;> cases hx

/-- A draft is refused for one reason only. If a compilation ends in the refusal of a draft, this is
the refusal of a variable for a token; the compilation stopped at a local declaration in the body of
the failing section's method, and the declared name is all white space and not empty. No field is
ever missing: conditions in particular are predicates. -/
theorem refused_for_blank_variable {o : Options} {d : Declaration} {s : Section} {e : BuildError}
    (h : compile (standard o) d = .error (.inSection s (.build e))) :
    e = .invalidValue "authentication-managed-identity" "output-token-variable-name" "variable name is empty" ∧
      (∃ m ∈ d.methods, ∃ b n, Section.ofMethodName? m.name = some s ∧ m.body = some b ∧
        FailsAt ((standard o).environment d) b.statements n (.build e) ∧
        n.kind = .localDeclaration ∧ n.name ≠ "" ∧ ∀ c ∈ n.name.toList, Text.isBlank c) ∧
      ∀ n p, extractPredicate ((standard o).environment d) n = .ok p → p.resultType = .predicate ∧ p.isCode := by
  rcases bind_error.1 h with h | ⟨fs, -, h⟩
  · obtain ⟨m, hm, he⟩ := compileMethods_error h
    obtain ⟨hs, b, n, hb, hf⟩ := compileMethod_refused he
    obtain ⟨rfl, hk, hne, ht⟩ := hf.refused rfl
    refine ⟨rfl, ⟨m, hm, b, n, hs, hb, hf, hk, hne, ?_⟩, ?_⟩
    · rw [Text.trimmed, String.ofList_eq_empty_iff] at ht
      exact Text.trim_eq_nil.1 ht
    · exact fun n p hp => ⟨extractPredicate_resultType hp, extractPredicate_isCode hp⟩
  · cases h

/-- A declaration that binds a token to a variable named by two blanks, in the last branch of a chain. -/
def blankVariableDeclaration : Declaration :=
  let call := Node.methodCall "context"
  let isGet := Node.invocation (.identifier "IsGet") []
  let bind := Node.localDeclaration "  " (call "AuthenticationManagedIdentity" [.stringLiteral "api"])
  ⟨"Api", [.expressionBodied "IsGet" "bool" (.identifier "isGet"),
    .forSection "Inbound" (.block [.expressionStatement (call "Base" []),
      .ifElse isGet (.block []) (.ifElse isGet (.block []) (.block [.block [bind]]))])]⟩

theorem refused_for_blank_variable_branching :
    compile (standard {}) blankVariableDeclaration = .error (.inSection .inbound (.build .blankVariable)) ∧
      ∃ m ∈ blankVariableDeclaration.methods, ∃ b n, m.body = some b ∧
        FailsAt ((standard {}).environment blankVariableDeclaration) b.statements n (.build .blankVariable) ∧
        n.name ≠ "" ∧ ∀ c ∈ n.name.toList, Text.isBlank c := by
  have h : compile (standard {}) blankVariableDeclaration = .error (.inSection .inbound (.build .blankVariable)) := rfl
  obtain ⟨-, ⟨m, hm, b, n, -, hb, hf, -, hne, hc⟩, -⟩ := refused_for_blank_variable h
  exact ⟨h, m, hm, b, n, hb, hf, hne, hc⟩

end PolicyCompiler

end GatewayPolicy
