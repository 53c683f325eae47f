import GatewayPolicy.Proofs.Gives
import GatewayPolicy.Proofs.Sections
/-!
# Reporting what is skipped

A statement without a compiler is left out or reported, as the options say. The two ways
of compilation fail alike and give the same elements; where nothing fails, the reports are
exactly the statements that are left out.
-/

namespace GatewayPolicy

/-! ## The statements left out -/

/-- The statements of a list that no standard compiler takes, at any depth of blocks and branches. -/
def unknowns : List Node → List Node
  | [] => []
  | n :: ns =>
    (match n.kind with
      | .block => unknowns n.statements
      | .ifStatement => unknowns n.statement.toList ++ unknowns n.elseStatement.toList
      | .expressionStatement | .localDeclaration => []
      | _ => [n]) ++ unknowns ns
termination_by ns => sizeOf ns
decreasing_by
  all_goals simp only [List.cons.sizeOf_spec]
  · have h := n.sizeOf_statements; omega
  · have h := n.sizeOf_statement; omega
  · have h := n.sizeOf_elseStatement; omega
  · omega

/-- The report of a statement that no compiler takes. -/
def unsupportedMessage (n : Node) : String := s!"unsupported {n.kind.title} `{n.text}`"

/-- The reports of the unknown statements of a list. -/
def unknownReports (ns : List Node) : List String := (unknowns ns).map unsupportedMessage

section
variable {n : Node}

@[simp] theorem unknownReports_nil : unknownReports [] = [] := by
  rw [unknownReports, unknowns, List.map_nil]

theorem unknowns_cons (n : Node) (ns : List Node) : unknowns (n :: ns) = unknowns [n] ++ unknowns ns := by
  rw [unknowns, unknowns, unknowns, List.append_nil]

theorem unknownReports_cons (n : Node) (ns : List Node) :
    unknownReports (n :: ns) = unknownReports [n] ++ unknownReports ns := by
  rw [unknownReports, unknowns_cons, List.map_append]
  rfl

theorem unknownReports_policy (hn : n.isPolicy) : unknownReports [n] = [] := by
  simp only [Node.isPolicy, Bool.or_eq_true, beq_iff_eq] at hn
  rw [unknownReports, unknowns, unknowns]
  rcases hn with hn | hn <;> simp [hn]

theorem unknownReports_block (hn : n.kind = .block) : unknownReports [n] = unknownReports n.statements := by
  rw [unknownReports, unknowns, unknowns, hn, List.append_nil]
  rfl

theorem unknownReports_if (hn : n.kind = .ifStatement) :
    unknownReports [n] = unknownReports n.statement.toList ++ unknownReports n.elseStatement.toList := by
  rw [unknownReports, unknowns, unknowns, hn, List.append_nil, List.map_append]
  rfl

theorem unknownReports_unknown (hn : n.isUnknown) : unknownReports [n] = [unsupportedMessage n] := by
  rw [Node.isUnknown, find?_standard] at hn
  rw [unknownReports, unknowns, unknowns]
  cases hk : n.kind <;> simp_all

end

/-! ## Two compilations side by side -/

/-- Two emissions fail alike, or `b` adds the reports `us` to the elements of `a`. -/
inductive Adds : Emission → Emission → List String → Prop
  | reports (fs us) : Adds ⟨fs, [], none⟩ ⟨fs, us, none⟩ us
  | failure {a b us} (c : Cause) : a.failure = some c → b.failure = some c → Adds a b us

namespace Adds

variable {a b c d : Emission} {us vs : List String}

theorem refl_fail (e : Cause) (us : List String) : Adds (.fail e) (.fail e) us := .failure e rfl rfl

theorem refl_ofElement (x : Except Cause Fragment) : Adds (.ofElement x) (.ofElement x) [] := by
  cases x with
  | error e => exact refl_fail e []
  | ok f => exact .reports [f] []

theorem andThen (h : Adds a b us) (h' : Adds c d vs) : Adds (a.andThen c) (b.andThen d) (us ++ vs) := by
  cases h with
  | failure e ha hb =>
    exact .failure e (by simp [Emission.andThen_failure, ha]) (by simp [Emission.andThen_failure, hb])
  | reports fs =>
    cases h' with
    | failure e hc hd =>
      exact .failure e (by simp [Emission.andThen_failure, hc]) (by simp [Emission.andThen_failure, hd])
    | reports gs => exact .reports (fs ++ gs) (us ++ vs)

theorem wrap (parent : Fragment) (h : Adds a b us) : Adds (a.wrap parent) (b.wrap parent) us := by
  cases h with
  | failure e ha hb => exact .failure e (by simp [ha]) (by simp [hb])
  | reports fs => exact .reports [parent.withChildren fs] us

theorem gather (parent : Fragment) (h : Adds a b us) : Adds (a.gather parent) (b.gather parent) us := by
  cases h with
  | failure e ha hb => exact .failure e (by simp [ha]) (by simp [hb])
  | reports fs => exact .reports [parent.withChildren fs] us

end Adds

/-! ## Statements -/

/-- The environment with another choice for unknown statements. -/
def Environment.choosing (env : Environment) (u : UnknownStatements) : Environment :=
  { env with options := { env.options with unknownStatements := u } }

section
variable (env : Environment)

/-- The choice plays no part in the extraction of snippets. -/
theorem extractPredicate_choosing (u : UnknownStatements) (n : Node) :
    extractPredicate (env.choosing u) n = extractPredicate env n := by
  rfl

theorem policyElement_choosing (u : UnknownStatements) (n : Node) :
    policyElement (env.choosing u) n = policyElement env n := by
  rfl

/-- Two results for the same list: of leaving unknown statements out, and of reporting them. -/
def SideBySide (ns : List Node) : Prop :=
  Adds (compileStatements (env.choosing .skip) .standard ns) (compileStatements (env.choosing .report) .standard ns)
    (unknownReports ns)

/-- The same for the branches of an if statement. -/
def ChainSideBySide (n : Node) : Prop :=
  Adds (compileChain (env.choosing .skip) .standard n.children)
    (compileChain (env.choosing .report) .standard n.children) (unknownReports [n])

variable {env}

theorem compileBranch_adds {s : Node} (parent : Fragment) (h : SideBySide env s.statements) :
    Adds (compileBranch (env.choosing .skip) .standard parent s)
      (compileBranch (env.choosing .report) .standard parent s) (unknownReports [s]) := by
  rw [compileBranch_eq, compileBranch_eq]
  by_cases hs : s.kind = .block
  · rw [if_pos hs, if_pos hs, unknownReports_block hs]
    exact h.wrap parent
  · rw [if_neg hs, if_neg hs]
    exact .refl_fail _ _

theorem compileElse_adds {o : Option Node}
    (h : ∀ t, o = some t → (t.kind = .ifStatement → ChainSideBySide env t) ∧ SideBySide env t.statements) :
    Adds (compileElse (env.choosing .skip) .standard o) (compileElse (env.choosing .report) .standard o)
      (unknownReports o.toList) := by
  cases o with
  | none =>
    rw [Option.toList_none, unknownReports_nil]
    exact .reports [] []
  | some t =>
    obtain ⟨h₁, h₂⟩ := h t rfl
    rw [compileElse, compileElse]
    by_cases ht : t.kind = .ifStatement
    · rw [if_pos ht, if_pos ht]
      exact h₁ ht
    · rw [if_neg ht, if_neg ht]
      exact compileBranch_adds _ h₂

theorem compileChain_adds {n : Node} (hn : n.kind = .ifStatement)
    (hs : ∀ s, n.statement = some s → SideBySide env s.statements)
    (ht : ∀ t, n.elseStatement = some t →
      (t.kind = .ifStatement → ChainSideBySide env t) ∧ SideBySide env t.statements) : ChainSideBySide env n := by
  rw [ChainSideBySide, compileChain_eq _ _ hn, compileChain_eq _ _ hn, unknownReports_if hn]
  cases n.condition with
  | none => exact .refl_fail _ _
  | some c =>
    cases h : n.statement with
    | none => exact .refl_fail _ _
    | some s =>
      simp only [extractPredicate_choosing]
      cases extractPredicate env c with
      | error e => exact .refl_fail _ _
      | ok p => exact (compileBranch_adds _ (hs s h)).andThen (compileElse_adds ht)

theorem compileStatement_adds {n : Node} (hn : SideBySide env n.statements)
    (hc : n.kind = .ifStatement → ChainSideBySide env n) :
    Adds (compileStatement (env.choosing .skip) .standard n) (compileStatement (env.choosing .report) .standard n)
      (unknownReports [n]) := by
  rcases n.kind_cases with hk | hk | hk | hk
  · rw [compileStatement_policy _ hk, compileStatement_policy _ hk, policyElement_choosing, policyElement_choosing,
      unknownReports_policy hk]
    exact .refl_ofElement _
  · rw [compileStatement_if _ hk, compileStatement_if _ hk]
    exact (hc hk).gather _
  · rw [compileStatement_block _ hk, compileStatement_block _ hk, unknownReports_block hk]
    exact hn
  · rw [compileStatement_unknown _ hk, compileStatement_unknown _ hk, unknownReports_unknown hk]
    exact .reports [] [unsupportedMessage n]

variable (env)

/-- Reporting unknown statements adds their reports, in order, to what leaving them out gives. -/
theorem compileStatements_adds (ns : List Node) : SideBySide env ns := by
  refine Node.chains_induction (P := SideBySide env) (Q := ChainSideBySide env) ?_ ?_ ?_ ns
  · rw [SideBySide, unknownReports_nil, compileStatements_nil, compileStatements_nil]
    exact .reports [] []
  · intro n ns ihn ihc ih
    rw [SideBySide, compileStatements_cons, compileStatements_cons, unknownReports_cons]
    exact (compileStatement_adds ihn ihc).andThen ih
  · intro n hn
    exact compileChain_adds hn

end

/-! ## Sections and methods -/

theorem compileBlock_adds (env : Environment) (b : Node) :
    Adds (compileBlock (env.choosing .skip) .standard b) (compileBlock (env.choosing .report) .standard b)
      (unknownReports b.statements) := by
  rw [compileBlock_eq, compileBlock_eq]
  split
  · exact compileStatements_adds env b.statements
  · exact .refl_fail _ _

/-- The unknown statements in the body of a section method; no other method has any. -/
def Method.unknowns (m : Method) : List Node :=
  if m.isSection then (m.body.map fun b => GatewayPolicy.unknowns b.statements).getD [] else []

/-- The cause of failure that reports the unknown statements of a section method. -/
def Method.unknownsReported (m : Method) : Cause := .reported (m.unknowns.map unsupportedMessage)

namespace PolicyCompiler

variable {env : Environment} {m : Method}

theorem sealSection_adds {a b : Emission} {us : List String} (s : Section) (h : Adds a b us) :
    sealSection s b = sealSection s a >>= fun f => if us.isEmpty then .ok f else .error (.reported us) := by
  cases h with
  | failure c ha hb => simp [sealSection, ha, hb]
  | reports fs => rfl

theorem compileSection_report {s : Section} (hm : Section.ofMethodName? m.name = some s) :
    compileSection (env.choosing .report) .standard s m =
      compileSection (env.choosing .skip) .standard s m >>= fun f =>
        if m.unknowns.isEmpty then .ok f else .error m.unknownsReported := by
  cases hb : m.body with
  | none => rw [compileSection, compileSection, hb]; rfl
  | some b =>
    have hu : m.unknowns = unknowns b.statements := by simp [Method.unknowns, Method.isSection, hm, hb]
    have he : m.unknowns.isEmpty = (unknownReports b.statements).isEmpty := by simp [hu, unknownReports]
    rw [compileSection_eq hb, compileSection_eq hb, sealSection_adds s (compileBlock_adds env b), he,
      Method.unknownsReported, hu]
    rfl

/-- Reporting fails where leaving out fails, and where something was left out. -/
theorem compileMethod_report :
    compileMethod (env.choosing .report) .standard m =
      compileMethod (env.choosing .skip) .standard m >>= fun o =>
        match Section.ofMethodName? m.name with
        | some s => if m.unknowns.isEmpty then .ok o else .error (.inSection s m.unknownsReported)
        | none => .ok o := by
  unfold compileMethod
  cases hv : m.isVoid <;> cases hs : Section.ofMethodName? m.name
  · rfl
  · rfl
  · rfl
  · next s =>
    simp only [compileSection_report hs]
    cases compileSection (env.choosing .skip) .standard s m with
    | error c => rfl
    | ok f => cases m.unknowns.isEmpty <;> rfl

/-! ## Declarations -/

/-- Whether leaving unknown statements out fails at a method, or drops some of its statements. -/
def stops (env : Environment) (m : Method) : Bool :=
  !(compileMethod (env.choosing .skip) .standard m).isOk || !m.unknowns.isEmpty

theorem compileMethod_of_not_stops (h : stops env m = false) :
    ∃ o, compileMethod (env.choosing .skip) .standard m = .ok o ∧
      compileMethod (env.choosing .report) .standard m = .ok o := by
  simp only [stops, Bool.or_eq_false_iff, Bool.not_eq_false'] at h
  obtain ⟨o, ho⟩ := exists_of_isOk h.1
  refine ⟨o, ho, ?_⟩
  rw [compileMethod_report, ho, h.2]
  cases Section.ofMethodName? m.name <;> rfl

theorem compileMethod_of_stops {o : Option Fragment} (h : stops env m)
    (ho : compileMethod (env.choosing .skip) .standard m = .ok o) :
    ∃ s, Section.ofMethodName? m.name = some s ∧
      compileMethod (env.choosing .report) .standard m = .error (.inSection s m.unknownsReported) := by
  have hu : m.unknowns.isEmpty = false := by simpa [stops, ho, Except.isOk, Except.toBool] using h
  cases hs : Section.ofMethodName? m.name with
  | none => simp [Method.unknowns, Method.isSection, hs] at hu
  | some s =>
    refine ⟨s, rfl, ?_⟩
    rw [compileMethod_report, ho, hs, hu]
    rfl

/-- Two results, of leaving unknown statements out and of reporting them, are decided by the first
method that stops, if there is one. -/
def DecidedBy {α : Type} (env : Environment) (first : Option Method) (x y : Except CompileError α) : Prop :=
  match first with
  | none => ∃ a, x = .ok a ∧ y = .ok a
  | some m =>
    match compileMethod (env.choosing .skip) .standard m with
    | .error e => x = .error e ∧ y = .error e
    | .ok _ => ∃ s, Section.ofMethodName? m.name = some s ∧ y = .error (.inSection s m.unknownsReported)

theorem DecidedBy.map {α β : Type} {first : Option Method} {x y : Except CompileError α} (f : α → β)
    (h : DecidedBy env first x y) : DecidedBy env first (x >>= fun a => .ok (f a)) (y >>= fun a => .ok (f a)) := by
  unfold DecidedBy at h ⊢
  cases first with
  | none =>
    obtain ⟨a, rfl, rfl⟩ := h
    exact ⟨f a, rfl, rfl⟩
  | some m =>
    dsimp only at h ⊢
    cases hm : compileMethod (env.choosing .skip) .standard m with
    | error e =>
      rw [hm] at h
      obtain ⟨rfl, rfl⟩ := h
      exact ⟨rfl, rfl⟩
    | ok o =>
      rw [hm] at h
      obtain ⟨s, hs, rfl⟩ := h
      exact ⟨s, hs, rfl⟩

theorem compileMethods_report (env : Environment) (ms : List Method) :
    DecidedBy env (ms.find? (stops env)) (compileMethods (env.choosing .skip) .standard ms)
      (compileMethods (env.choosing .report) .standard ms) := by
  induction ms with
  | nil => exact ⟨[], rfl, rfl⟩
  | cons m ms ih =>
    rw [compileMethods, compileMethods]
    by_cases hm : stops env m
    · rw [List.find?_cons_of_pos hm]
      cases ho : compileMethod (env.choosing .skip) .standard m with
      | error e =>
        simp only [DecidedBy, ho]
        exact ⟨rfl, by rw [compileMethod_report, ho]; rfl⟩
      | ok o =>
        obtain ⟨s, hs, hr⟩ := compileMethod_of_stops hm ho
        simp only [DecidedBy, ho]
        exact ⟨s, hs, by rw [hr]; rfl⟩
    · obtain ⟨o, ho, hr⟩ := compileMethod_of_not_stops (by simpa using hm)
      rw [List.find?_cons_of_neg hm, ho, hr]
      exact ih.map (o.toList ++ ·)

/-- Reporting unknown statements is leaving them out with a list of what is left out. The first
method that fails when they are left out, or drops a statement, decides: without one the
documents are the same, at a failure the errors are, and otherwise the dropped statements
of that method are reported, each once and in source order. -/
theorem report_lists_what_skip_drops (o : Options) (d : Declaration) :
    let env : Environment := ⟨.ofDeclaration d, o⟩
    let skip := PolicyCompiler.standard { o with unknownStatements := .skip }
    let report := PolicyCompiler.standard { o with unknownStatements := .report }
    match d.methods.find? (stops env) with
    | none => ∃ doc, skip.compile d = .ok doc ∧ report.compile d = .ok doc
    | some m =>
      match compileMethod (env.choosing .skip) .standard m with
      | .error e => skip.compile d = .error e ∧ report.compile d = .error e
      | .ok _ => ∃ s, Section.ofMethodName? m.name = some s ∧
          report.compile d = .error (.inSection s (.reported (m.unknowns.map unsupportedMessage))) := by
  intro env skip report
  exact (compileMethods_report env d.methods).map fun fs => Document.mk fs (.forDeclaration d.name)

end PolicyCompiler

end GatewayPolicy
