import GatewayPolicy.Proofs.Element
import GatewayPolicy.Proofs.Sections
/-!
# Helper calls

A section sees the other methods of its declaration through the names that its body calls.
What a section compiles to depends on the first method of each such name and on nothing
else about the helpers: not on their places, nor on helpers that are never reached.
-/

namespace GatewayPolicy

/-! ## Called names -/

mutual

/-- The names that a tree calls as helpers: the plain names among the targets of its invocations. -/
def Node.callees : Node → List String
  | ⟨k, t, cs, x⟩ => (Node.mk k t cs x).invokedIdentifier.toList ++ calleesAll cs

/-- The names that some trees call. -/
def calleesAll : List Node → List String
  | [] => []
  | n :: ns => n.callees ++ calleesAll ns

end

theorem mem_callees_invoked {n : Node} {name : String} (h : n.invokedIdentifier = some name) : name ∈ n.callees := by
  obtain ⟨k, t, cs, x⟩ := n
  rw [Node.callees, h]
  exact List.mem_append_left _ List.mem_cons_self

theorem mem_calleesAll {ns : List Node} {c : Node} {name : String} (hc : c ∈ ns) (h : name ∈ c.callees) :
    name ∈ calleesAll ns := by
  induction ns with
  | nil => cases hc
  | cons n ns ih =>
    rw [calleesAll]
    rcases List.mem_cons.1 hc with rfl | hc
    · exact List.mem_append_left _ h
    · exact List.mem_append_right _ (ih hc)

theorem mem_callees_child {n c : Node} {name : String} (hc : c ∈ n.children) (h : name ∈ c.callees) :
    name ∈ n.callees := by
  obtain ⟨k, t, cs, x⟩ := n
  rw [Node.callees]
  exact List.mem_append_right _ (mem_calleesAll hc h)

/-! ## Agreement -/

/-- Two look-ups that mean the same to a helper call: they find the same, or methods that return
nothing, which no call may reach. -/
def SameHelper (a b : Option Method) : Prop := a = b ∨ ∃ m m', a = some m ∧ b = some m' ∧ m.isVoid ∧ m'.isVoid

/-- Two environments in which the helper calls of a tree mean the same. -/
structure Agree (env env' : Environment) (n : Node) : Prop where
  options : env.options = env'.options
  helpers : ∀ name ∈ n.callees, SameHelper (env.methods.get? name) (env'.methods.get? name)

section
variable {env env' : Environment} {n c : Node}

theorem Agree.child (h : Agree env env' n) (hc : c ∈ n.children) : Agree env env' c :=
  ⟨h.options, fun name hn => h.helpers name (mem_callees_child hc hn)⟩

theorem Agree.elseStatement (h : Agree env env' n) (hc : n.elseStatement = some c) : Agree env env' c := by
  obtain ⟨-, e, he, -, hc⟩ := Node.elseStatement_eq_some hc
  exact (h.child (List.mem_of_getElem? he)).child (List.mem_of_getElem? hc)

/-! ## Expressions -/

theorem extractForwarded_congr (h : Agree env env' n) : extractForwarded env n = extractForwarded env' n := by
  unfold extractForwarded
  rw [h.options]
  cases hn : n.invokedIdentifier with
  | none => rfl
  | some name =>
    rcases h.helpers name (mem_callees_invoked hn) with hm | ⟨m, m', hm, hm', hv, hv'⟩
    · dsimp only
      rw [hm]
    · -- A method that returns nothing fails the call before its parameters and its body are looked at.
      dsimp only
      rw [hm, hm']
      dsimp only
      rw [hv, hv']
      rfl

theorem extract_congr (h : Agree env env' n) (expected : ResultType) : extract env expected n = extract env' expected n := by
  unfold extract
  rw [h.options, extractForwarded_congr h]

theorem mapM_extract_congr {as : List Node} (h : ∀ a ∈ as, Agree env env' a) (expected : ResultType) :
    as.mapM (extract env expected) = as.mapM (extract env' expected) := by
  induction as with
  | nil => rfl
  | cons a as ih =>
    rw [List.forall_mem_cons] at h
    rw [List.mapM_cons, List.mapM_cons, extract_congr h.1, ih h.2]

theorem mapM_option_extract_congr {o : Option Node} (h : ∀ a, o = some a → Agree env env' a) (expected : ResultType) :
    o.mapM (extract env expected) = o.mapM (extract env' expected) := by
  cases o with
  | none => rfl
  | some a => rw [Option.mapM_some, Option.mapM_some, extract_congr (h a rfl)]

end

/-! ## Policy calls -/

section
variable {env env' : Environment} {n call : Node}

theorem headerElement_congr (a : ExistsAction) {values : List Node} (hn : Agree env env' n)
    (hv : ∀ v ∈ values, Agree env env' v) : headerElement env a n values = headerElement env' a n values := by
  have he := mapM_extract_congr hv .value
  unfold headerElement extractValue
  rw [extract_congr hn, he]

theorem managedIdentityElement_congr {clientId : Option Node} (output : Option String) (hn : Agree env env' n)
    (hc : ∀ c, clientId = some c → Agree env env' c) :
    managedIdentityElement env n clientId output = managedIdentityElement env' n clientId output := by
  have he := mapM_option_extract_congr hc .value
  unfold managedIdentityElement extractValue
  rw [extract_congr hn, he]

theorem rateLimitElement_congr (calls period : Node) {condition : Option Node} (hn : Agree env env' n)
    (hc : ∀ c, condition = some c → Agree env env' c) :
    rateLimitElement env calls period n condition = rateLimitElement env' calls period n condition := by
  have he := mapM_option_extract_congr hc .predicate
  unfold rateLimitElement extractValue extractPredicate
  rw [extract_congr hn, he]

theorem PolicyCall.element_congr (p : PolicyCall) (h : Agree env env' call) : p.element env call = p.element env' call := by
  have ha : ∀ a ∈ call.arguments, Agree env env' a := fun a ha => h.child (Node.mem_children_of_mem_arguments ha)
  unfold element
  generalize call.arguments = as at ha ⊢
  split
  · rfl
  · exact headerElement_congr _ (ha _ (by simp)) fun v hv => ha v (List.mem_cons_of_mem _ hv)
  · exact headerElement_congr _ (ha _ (by simp)) fun v hv => ha v (List.mem_cons_of_mem _ hv)
  · exact headerElement_congr _ (ha _ (by simp)) (by simp)
  · unfold extractValue
    rw [extract_congr (ha _ (by simp))]
  · unfold extractValue
    rw [extract_congr (ha _ (by simp))]
    simp only [extract_congr (ha _ (List.mem_cons_of_mem _ List.mem_cons_self))]
  · exact managedIdentityElement_congr none (ha _ (by simp)) (by simp)
  · exact managedIdentityElement_congr none (ha _ (by simp)) fun c hc => ha c (by cases hc; simp)
  · exact rateLimitElement_congr _ _ (ha _ (by simp)) (by simp)
  · exact rateLimitElement_congr _ _ (ha _ (by simp)) fun c hc => ha c (by cases hc; simp)
  · rfl

theorem BoundCall.element_congr (p : BoundCall) (name : String) (h : Agree env env' call) :
    p.element env call name = p.element env' call name := by
  have ha : ∀ a ∈ call.arguments, Agree env env' a := fun a ha => h.child (Node.mem_children_of_mem_arguments ha)
  unfold element
  generalize call.arguments = as at ha ⊢
  split
  · exact managedIdentityElement_congr _ (ha _ (by simp)) (by simp)
  · exact managedIdentityElement_congr _ (ha _ (by simp)) fun c hc => ha c (by cases hc; simp)
  · rfl

theorem callStatement_congr (ps : List PolicyCall) (hn : n.kind = .expressionStatement) (h : Agree env env' n) :
    callStatement env ps n = callStatement env' ps n := by
  rw [callStatement_eq env ps hn, callStatement_eq env' ps hn, h.options]
  cases he : n.expression with
  | none => rfl
  | some call => simp only [PolicyCall.element_congr _ (h.child (Node.mem_children_of_expression he))]

theorem bindingStatement_congr (ps : List BoundCall) (hn : n.kind = .localDeclaration) (h : Agree env env' n) :
    bindingStatement env ps n = bindingStatement env' ps n := by
  rw [bindingStatement_eq env ps hn, bindingStatement_eq env' ps hn, h.options]
  cases he : n.expression with
  | none => rfl
  | some call => simp only [BoundCall.element_congr _ _ (h.child (Node.mem_children_of_expression he))]

end

/-! ## Statements -/

section
variable {env env' : Environment} {r : Registry} {n : Node}

/-- The statements of a list compile to the same if their helper calls mean the same. -/
def ListCongr (env env' : Environment) (r : Registry) (ns : List Node) : Prop :=
  (∀ n ∈ ns, Agree env env' n) → compileStatements env r ns = compileStatements env' r ns

/-- The branches of a chain compile to the same if its helper calls mean the same. -/
def ChainCongr (env env' : Environment) (r : Registry) (n : Node) : Prop :=
  Agree env env' n → compileChain env r n.children = compileChain env' r n.children

theorem compileBranch_congr (parent : Fragment) (h : Agree env env' n) (hn : ListCongr env env' r n.statements) :
    compileBranch env r parent n = compileBranch env' r parent n := by
  rw [compileBranch_eq, compileBranch_eq, hn fun s hs => h.child (Node.mem_children_of_mem_statements hs)]

theorem compileElse_congr {o : Option Node} (h : ∀ t, o = some t → Agree env env' t)
    (ho : ∀ t, o = some t → (t.kind = .ifStatement → ChainCongr env env' r t) ∧ ListCongr env env' r t.statements) :
    compileElse env r o = compileElse env' r o := by
  cases o with
  | none => rfl
  | some t =>
    obtain ⟨h₁, h₂⟩ := ho t rfl
    rw [compileElse, compileElse]
    split
    · next hk => exact h₁ hk (h t rfl)
    · exact compileBranch_congr _ (h t rfl) h₂

theorem compileChain_congr (hn : n.kind = .ifStatement) (hs : ∀ s, n.statement = some s → ListCongr env env' r s.statements)
    (ht : ∀ t, n.elseStatement = some t →
      (t.kind = .ifStatement → ChainCongr env env' r t) ∧ ListCongr env env' r t.statements) :
    ChainCongr env env' r n := by
  intro h
  rw [compileChain_eq env r hn, compileChain_eq env' r hn, compileElse_congr (fun t => h.elseStatement) ht]
  cases hc : n.condition with
  | none => rfl
  | some c =>
    cases hst : n.statement with
    | none => rfl
    | some s =>
      have hp := extract_congr (h.child (Node.mem_children_of_condition hc)) .predicate
      have hb := fun parent => compileBranch_congr parent (h.child (Node.mem_children_of_statement hst)) (hs s hst)
      simp only [extractPredicate, hp, hb]

theorem compileStatement_congr (h : Agree env env' n) (hn : ListCongr env env' r n.statements)
    (hc : n.kind = .ifStatement → ChainCongr env env' r n) : compileStatement env r n = compileStatement env' r n := by
  rw [compileStatement_eq, compileStatement_eq]
  cases hf : r.find? n.kind with
  | none => rw [h.options]
  | some compiler =>
    have hk : n.kind = compiler.kind := (kind_of_find? r hf).symm
    cases compiler with
    | calls ps => exact congrArg Emission.ofElement (callStatement_congr ps hk h)
    | bindings ps => exact congrArg Emission.ofElement (bindingStatement_congr ps hk h)
    | branches => exact congrArg (Emission.gather _) (hc hk h)
    | nestedBlocks =>
      rw [Node.statements, if_pos (show n.kind = .block from hk)] at hn
      exact hn fun c => h.child

theorem compileStatements_congr (ns : List Node) : ListCongr env env' r ns := by
  refine Node.chains_induction (P := ListCongr env env' r) (Q := ChainCongr env env' r) ?_ ?_ ?_ ns
  · intro _
    rfl
  · intro n ns ihn ihc ih h
    rw [List.forall_mem_cons] at h
    rw [compileStatements_cons, compileStatements_cons, compileStatement_congr h.1 ihn ihc, ih h.2]
  · intro n hn
    exact compileChain_congr hn

theorem compileBlock_congr (h : Agree env env' n) : compileBlock env r n = compileBlock env' r n := by
  rw [compileBlock_eq, compileBlock_eq,
    compileStatements_congr _ fun s hs => h.child (Node.mem_children_of_mem_statements hs)]

end

/-! ## Declarations -/

/-- Whether a method can serve as a helper only: it returns a value and has no section's name. -/
def Method.isHelper (m : Method) : Bool := !m.isVoid && !m.isSection

/-- The body that becomes a section. -/
def Method.sectionBody (m : Method) : Option Node := if m.isVoid && m.isSection then m.body else none

/-- The names that the sections of a declaration call as helpers. -/
def Declaration.callees (d : Declaration) : List String := calleesAll (d.methods.filterMap Method.sectionBody)

/-- Two declarations with the same sections, whose helper calls find the same methods. The helpers
may stand in other places, and other helpers may be there that no section calls. -/
structure SameSections (d e : Declaration) : Prop where
  name : d.name = e.name
  sections : d.methods.filter (!·.isHelper) = e.methods.filter (!·.isHelper)
  helpers : ∀ name ∈ d.callees, d.method? name = e.method? name

namespace SameSections

variable {name : String} {m : Method} {before between after : List Method}

/-- A helper may be left out if no section calls its name, or if an earlier method has the name. -/
theorem insert (hm : m.isHelper)
    (h : m.name ∈ Declaration.callees ⟨name, before ++ m :: after⟩ → ∃ o ∈ before, o.name = m.name) :
    SameSections ⟨name, before ++ m :: after⟩ ⟨name, before ++ after⟩ where
  name := rfl
  sections := by simp [hm]
  helpers called hc := by
    unfold Declaration.method?
    rw [List.find?_append, List.find?_append]
    by_cases he : m.name = called
    · -- The earlier method of the name is found with or without the helper.
      subst he
      obtain ⟨o, ho, he⟩ := h hc
      have hs : (before.find? fun o => o.name == m.name).isSome := List.find?_isSome.2 ⟨o, ho, by simpa using he⟩
      rw [Option.or_of_isSome hs, Option.or_of_isSome hs]
    · rw [List.find?_cons_of_neg (by simpa using he)]

/-- A helper may be moved past methods of other names, and past any methods if no section calls it. -/
theorem move (hm : m.isHelper)
    (h : m.name ∈ Declaration.callees ⟨name, before ++ m :: (between ++ after)⟩ → ∀ o ∈ between, o.name ≠ m.name) :
    SameSections ⟨name, before ++ m :: (between ++ after)⟩ ⟨name, before ++ (between ++ m :: after)⟩ where
  name := rfl
  sections := by simp [hm]
  helpers called hc := by
    unfold Declaration.method?
    rw [List.find?_append, List.find?_append]
    congr 1
    by_cases he : m.name = called
    · subst he
      have hn : (between.find? fun o => o.name == m.name) = none := List.find?_eq_none.2 (by simpa using h hc)
      rw [List.find?_append, hn, Option.none_or, List.find?_cons_of_pos (by simp), List.find?_cons_of_pos (by simp)]
    · rw [List.find?_cons_of_neg (by simpa using he), List.find?_append, List.find?_append,
        List.find?_cons_of_neg (by simpa using he)]

end SameSections

namespace PolicyCompiler

section
variable {env env' : Environment} {r : Registry}

theorem compileMethod_congr {m : Method} (h : ∀ b, m.sectionBody = some b → Agree env env' b) :
    compileMethod env r m = compileMethod env' r m := by
  unfold compileMethod
  split
  · rfl
  · rfl
  · rfl
  · next s hv hs =>
    cases hb : m.body with
    | none => rw [compileSection, compileSection, hb]
    | some b =>
      have hsb : m.sectionBody = some b := by simp [Method.sectionBody, Method.isSection, hv, hs, hb]
      rw [compileSection_eq hb, compileSection_eq hb, compileBlock_congr (h b hsb)]

theorem compileMethods_congr {ms : List Method} (h : ∀ m ∈ ms, ∀ b, m.sectionBody = some b → Agree env env' b) :
    compileMethods env r ms = compileMethods env' r ms := by
  induction ms with
  | nil => rfl
  | cons m ms ih =>
    rw [List.forall_mem_cons] at h
    rw [compileMethods, compileMethods, compileMethod_congr h.1, ih h.2]

theorem compileMethod_helper {m : Method} (h : m.isHelper) : compileMethod env r m = .ok none := by
  obtain ⟨hv, hs⟩ : m.isVoid = false ∧ Section.ofMethodName? m.name = none := by
    simpa [Method.isHelper, Method.isSection] using h
  rw [compileMethod, hv, hs]

/-- Helpers give nothing of their own, and compiling goes past them. -/
theorem compileMethods_filter (ms : List Method) :
    compileMethods env r (ms.filter (!·.isHelper)) = compileMethods env r ms := by
  induction ms with
  | nil => rfl
  | cons m ms ih =>
    by_cases hm : m.isHelper
    · rw [List.filter_cons_of_neg (by simp [hm]), ih, compileMethods, compileMethod_helper hm]
      cases compileMethods env r ms <;> rfl
    · rw [List.filter_cons_of_pos (by simp [hm]), compileMethods, compileMethods, ih]

theorem compile_congr (c : PolicyCompiler) {d e : Declaration} (h : SameSections d e) : c.compile d = c.compile e := by
  have hagree : ∀ m ∈ d.methods.filter (!·.isHelper), ∀ b, m.sectionBody = some b →
      Agree (c.environment d) (c.environment e) b := by
    refine fun m hm b hb => ⟨rfl, fun name hn => .inl ?_⟩
    have hd : name ∈ d.callees := mem_calleesAll (List.mem_filterMap.2 ⟨m, List.mem_of_mem_filter hm, hb⟩) hn
    rw [environment_get?, environment_get?, h.helpers name hd]
  unfold compile
  rw [← compileMethods_filter, compileMethods_congr hagree, h.sections, compileMethods_filter, h.name]

end

/-- Helpers matter by what their names mean to the sections. Declarations with the same sections
whose helper calls find the same methods compile to the same result; so a helper that no section
calls, or whose name an earlier method has, may be left out, and a helper may stand on either side
of methods that do not have its name. -/
theorem compile_ignores_helper_placement (c : PolicyCompiler) :
    (∀ d e, SameSections d e → c.compile d = c.compile e) ∧
      (∀ name before m after, m.isHelper →
        (m.name ∈ Declaration.callees ⟨name, before ++ m :: after⟩ → ∃ o ∈ before, o.name = m.name) →
        c.compile ⟨name, before ++ m :: after⟩ = c.compile ⟨name, before ++ after⟩) ∧
      (∀ name before m between after, m.isHelper →
        (m.name ∈ Declaration.callees ⟨name, before ++ m :: (between ++ after)⟩ → ∀ o ∈ between, o.name ≠ m.name) →
        c.compile ⟨name, before ++ m :: (between ++ after)⟩ = c.compile ⟨name, before ++ (between ++ m :: after)⟩) :=
  ⟨fun _ _ => c.compile_congr, fun _ _ _ _ hm h => c.compile_congr (.insert hm h),
    fun _ _ _ _ _ hm h => c.compile_congr (.move hm h)⟩

theorem compile_ignores_helper_placement_branching :
    let unused := Method.expressionBodied "IsPost" "bool" (.identifier "isPost")
    let shadowed := Method.expressionBodied "IsGet" "bool" (.identifier "always")
    let helper := Method.expressionBodied "IsGet" "bool" (.identifier "isGet")
    let sections := branchingDeclaration.methods.drop 1
    let rearranged : Declaration := ⟨"Api", unused :: sections ++ [helper, shadowed]⟩
    let c := standard {}
    SameSections branchingDeclaration rearranged ∧ c.compile branchingDeclaration = c.compile rearranged ∧
      helper.isHelper ∧ shadowed.isHelper ∧ helper.name ∈ branchingDeclaration.callees ∧
      c.compile ⟨"Api", helper :: sections ++ [shadowed]⟩ = c.compile ⟨"Api", helper :: sections⟩ ∧
      c.compile ⟨"Api", helper :: sections⟩ = c.compile ⟨"Api", sections ++ [helper]⟩ := by
  intro unused shadowed helper sections rearranged c
  have h := compile_ignores_helper_placement c
  have hs : SameSections branchingDeclaration rearranged :=
    ⟨by decide +kernel, by decide +kernel, by decide +kernel⟩
  refine ⟨hs, h.1 _ _ hs, by decide +kernel, by decide +kernel, by decide +kernel, ?_, ?_⟩
  · simpa using h.2.1 "Api" (helper :: sections) shadowed [] (by decide +kernel) (by decide +kernel)
  · simpa using h.2.2 "Api" [] helper sections [] (by decide +kernel) (by decide +kernel)

end PolicyCompiler

end GatewayPolicy
