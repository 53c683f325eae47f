import GatewayPolicy.Proofs.Element
import GatewayPolicy.Proofs.Sections
/-!
# Source texts serve messages only

The source text of a node goes into the document where the node is a lambda or the body
of a helper. All other source texts are read for messages alone: without them a
declaration compiles to the same document, or fails at the same place for the same cause.
-/

namespace GatewayPolicy

/-! ## Without texts -/

namespace Node

mutual

/-- A node without the source texts of itself and of its parts. Lambdas keep theirs. -/
def textless : Node → Node
  | ⟨k, t, cs, x⟩ => ⟨k, t, allTextless cs, if k = .anonymousFunction then x else ""⟩

/-- Some nodes without their source texts. -/
def allTextless : List Node → List Node
  | [] => []
  | n :: ns => n.textless :: allTextless ns

end

end Node

namespace Method

/-- The body of a method without source texts, except for its own if the method is a helper. -/
def textlessBody (m : Method) (b : Node) : Node :=
  if m.isVoid then b.textless else { b.textless with text := b.text }

/-- A method without the source texts that no snippet takes over. -/
def textless (m : Method) : Method :=
  { m with body := m.body.map m.textlessBody, expressionBody := m.expressionBody.map m.textlessBody }

end Method

/-- A declaration without the source texts that no snippet takes over. -/
def Declaration.textless (d : Declaration) : Declaration := { d with methods := d.methods.map Method.textless }

/-- A cause without the words of its message. The kinds, the policy, the helper, the error of the
policy and the number of reports stay. -/
def Cause.wordless : Cause → Cause
  | unsupported kind _ => unsupported kind (.other "")
  | arguments policy _ => arguments policy (.other "")
  | reported messages => reported (messages.map fun _ => "")
  | structural expected found => structural expected found
  | lookup name => lookup name
  | build error => build error

/-- An error without the words of its message. The section with its method stays. -/
def CompileError.wordless : CompileError → CompileError
  | inSection s cause => inSection s cause.wordless
  | unsupportedSection method => unsupportedSection method
  | load error => load error
  | options => options

/-! ## Results up to words -/

/-- Two results that are the same but for what `forget` leaves out of an error. -/
def SameUpTo {ε ε' α : Type} (forget : ε → ε') (x y : Except ε α) : Prop := x.mapError forget = y.mapError forget

namespace SameUpTo

variable {ε ε' α β γ : Type} {forget : ε → ε'} {x y : Except ε α}

theorem refl (x : Except ε α) : SameUpTo forget x x := rfl

theorem symm (h : SameUpTo forget x y) : SameUpTo forget y x := Eq.symm h

theorem trans {z : Except ε α} (h : SameUpTo forget x y) (h' : SameUpTo forget y z) : SameUpTo forget x z := Eq.trans h h'

theorem error {e e' : ε} (h : forget e = forget e') : SameUpTo forget (.error e : Except ε α) (.error e') :=
  congrArg Except.error h

theorem cases_on (h : SameUpTo forget x y) :
    (∃ a, x = .ok a ∧ y = .ok a) ∨ ∃ e e', x = .error e ∧ y = .error e' ∧ forget e = forget e' := by
  cases x <;> cases y <;> simp_all [SameUpTo, Except.mapError]

theorem bind {f g : α → Except ε β} (h : SameUpTo forget x y) (hf : ∀ a, SameUpTo forget (f a) (g a)) :
    SameUpTo forget (x >>= f) (y >>= g) := by
  rcases h.cases_on with ⟨a, rfl, rfl⟩ | ⟨e, e', rfl, rfl, he⟩
  · exact hf a
  · exact error he

theorem mapM {f : α → Except ε β} {g : γ → Except ε β} {t : α → γ} (h : ∀ a, SameUpTo forget (f a) (g (t a)))
    (as : List α) : SameUpTo forget (as.mapM f) ((as.map t).mapM g) := by
  induction as with
  | nil => exact refl _
  | cons a as ih =>
    rw [List.map_cons, List.mapM_cons, List.mapM_cons]
    exact (h a).bind fun b => ih.bind fun bs => refl _

theorem mapM_option {f : α → Except ε β} {g : γ → Except ε β} {t : α → γ}
    (h : ∀ a, SameUpTo forget (f a) (g (t a))) (o : Option α) : SameUpTo forget (o.mapM f) ((o.map t).mapM g) := by
  cases o with
  | none => exact refl _
  | some a => exact (h a).bind fun b => refl _

end SameUpTo

/-- Two results of compiling in a section that differ at most in words. -/
abbrev Alike {α : Type} (x y : Except Cause α) : Prop := SameUpTo Cause.wordless x y

/-! ## Nodes -/

namespace Node

variable (n : Node)

theorem allTextless_eq (ns : List Node) : allTextless ns = ns.map textless := by
  induction ns with
  | nil => rfl
  | cons n ns ih => rw [allTextless, ih, List.map_cons]

@[simp] theorem textless_kind : n.textless.kind = n.kind := by
  cases n
  rfl

@[simp] theorem textless_name : n.textless.name = n.name := by
  cases n
  rfl

@[simp] theorem textless_children : n.textless.children = n.children.map textless := by
  cases n
  exact allTextless_eq _

theorem textless_text (h : n.kind = .anonymousFunction) : n.textless.text = n.text := by
  cases n
  exact if_pos h

@[simp] theorem textless_childOf (k : Kind) (i : Nat) : n.textless.childOf k i = (n.childOf k i).map textless := by
  unfold childOf
  rw [textless_kind, textless_children, List.getElem?_map]
  split <;> rfl

@[simp] theorem textless_statements : n.textless.statements = n.statements.map textless := by
  unfold statements
  rw [textless_kind, textless_children]
  split <;> rfl

@[simp] theorem textless_condition : n.textless.condition = n.condition.map textless := n.textless_childOf ..

@[simp] theorem textless_statement : n.textless.statement = n.statement.map textless := by
  unfold statement
  rw [textless_kind, textless_children]
  cases n.kind <;> simp

@[simp] theorem textless_elseStatement : n.textless.elseStatement = n.elseStatement.map textless := by
  unfold elseStatement
  rw [textless_childOf]
  cases n.childOf .ifStatement 2 with
  | none => rfl
  | some c =>
    by_cases hc : c.kind = .elseClause <;> simp [Option.filter_some, hc]

@[simp] theorem textless_expression : n.textless.expression = n.expression.map textless := by
  unfold expression
  rw [textless_kind, textless_children]
  cases n.kind <;> simp

@[simp] theorem textless_target : n.textless.target = n.target.map textless := n.textless_childOf ..

@[simp] theorem textless_arguments : n.textless.arguments = n.arguments.map textless := by
  unfold arguments
  rw [textless_kind, textless_children, ← List.map_drop]
  split <;> rfl

@[simp] theorem textless_invokedIdentifier : n.textless.invokedIdentifier = n.invokedIdentifier := by
  unfold invokedIdentifier
  rw [textless_target]
  cases n.target with
  | none => rfl
  | some t => by_cases ht : t.kind = .identifier <;> simp [Option.filter_some, ht]

end Node

/-! ## Expressions -/

/-- The helpers of `env'` are those of `env` without their source texts. -/
structure Environment.Textless (env env' : Environment) : Prop where
  options : env'.options = env.options
  methods : ∀ name, env'.methods.get? name = (env.methods.get? name).map Method.textless

/-- The body that a helper call is replaced by keeps its source text. -/
theorem Method.textless_forwarded {m : Method} (hm : m.isVoid = false) :
    (m.textless.expressionBody <|> m.textless.body).map Node.text = (m.expressionBody <|> m.body).map Node.text := by
  have ht : ∀ b, (m.textlessBody b).text = b.text := fun b => by simp [textlessBody, hm]
  unfold textless
  cases m.expressionBody <;> cases m.body <;> simp [ht]

section
variable {env env' : Environment} (h : env.Textless env')

theorem TemplatePart.ofNode_alike (n : Node) : Alike (ofNode n) (ofNode n.textless) := by
  unfold ofNode
  rw [n.textless_kind, n.textless_name, n.textless_expression]
  cases n.kind <;> try exact .refl _
  cases n.expression with
  | none => exact .refl _
  | some e =>
    dsimp only [Option.map_some]
    rw [e.textless_kind, e.textless_name]
    split
    · exact .refl _
    · exact .error rfl

theorem passesContext_textless (parameter : String) (as : List Node) :
    passesContext parameter (as.map Node.textless) = passesContext parameter as := by
  match as with
  | [] => rfl
  | [a] => simp [passesContext]
  | _ :: _ :: _ => rfl

include h

theorem extractForwarded_alike (n : Node) : Alike (extractForwarded env n) (extractForwarded env' n.textless) := by
  unfold extractForwarded
  rw [h.options, n.textless_invokedIdentifier, n.textless_arguments, n.textless_kind]
  dsimp only
  rw [passesContext_textless]
  split
  · exact .error rfl
  · next name _ =>
    split
    · exact .error rfl
    · rw [h.methods]
      cases env.methods.get? name with
      | none => exact .refl _
      | some m =>
        dsimp only [Option.map_some]
        have hv : m.textless.isVoid = m.isVoid := rfl
        have hp : m.textless.parameters = m.parameters := rfl
        rw [hv, hp]
        split
        · exact .error rfl
        · next hv =>
          split
          · exact .error rfl
          · -- The snippet takes over the text of the body, which is the same on both sides.
            have hb := m.textless_forwarded (by simpa using hv)
            revert hb
            generalize (m.textless.expressionBody <|> m.textless.body) = b, (m.expressionBody <|> m.body) = b'
            intro hb
            cases b <;> cases b' <;> simp only [Option.map_none, Option.map_some, reduceCtorEq, Option.some.injEq] at hb
            · exact .refl _
            · dsimp only
              rw [hb]
              exact .refl _

theorem extract_alike (expected : ResultType) (n : Node) :
    Alike (extract env expected n) (extract env' expected n.textless) := by
  unfold extract
  rw [n.textless_kind, n.textless_name, n.textless_children, h.options]
  split
  · exact .error rfl
  · exact .error rfl
  · exact .refl _
  · exact (SameUpTo.mapM TemplatePart.ofNode_alike _).bind fun ps => .refl _
  · next hk =>
    rw [n.textless_text hk]
    exact .refl _
  · exact extractForwarded_alike h n
  · exact .error rfl

theorem extractValue_alike (n : Node) : Alike (extractValue env n) (extractValue env' n.textless) := extract_alike h _ n

theorem extractPredicate_alike (n : Node) : Alike (extractPredicate env n) (extractPredicate env' n.textless) :=
  extract_alike h _ n

end

/-! ## Policy calls -/

section
variable {env env' : Environment} (h : env.Textless env')

theorem readCountArgument_alike (policy : PolicyCall) (field : String) (n : Node) :
    Alike (readCountArgument policy field n) (readCountArgument policy field n.textless) := by
  unfold readCountArgument
  rw [n.textless_kind, n.textless_name]
  split
  · exact .error rfl
  · split
    · exact .refl _
    · exact .error rfl

include h

theorem headerElement_alike (a : ExistsAction) (name : Node) (values : List Node) :
    Alike (headerElement env a name values) (headerElement env' a name.textless (values.map Node.textless)) :=
  (extractValue_alike h name).bind fun _ => (SameUpTo.mapM (extractValue_alike h) values).bind fun _ => .refl _

theorem managedIdentityElement_alike (resource : Node) (clientId : Option Node) (output : Option String) :
    Alike (managedIdentityElement env resource clientId output)
      (managedIdentityElement env' resource.textless (clientId.map Node.textless) output) :=
  (extractValue_alike h resource).bind fun _ =>
    (SameUpTo.mapM_option (extractValue_alike h) clientId).bind fun _ => .refl _

theorem rateLimitElement_alike (calls period key : Node) (condition : Option Node) :
    Alike (rateLimitElement env calls period key condition)
      (rateLimitElement env' calls.textless period.textless key.textless (condition.map Node.textless)) := by
  refine (readCountArgument_alike _ _ calls).bind fun _ => ?_
  refine (readCountArgument_alike _ _ period).bind fun _ => ?_
  refine (extractValue_alike h key).bind fun _ => ?_
  exact (SameUpTo.mapM_option (extractPredicate_alike h) condition).bind fun _ => .refl _

theorem PolicyCall.element_alike (p : PolicyCall) (call : Node) :
    Alike (p.element env call) (p.element env' call.textless) := by
  unfold element
  rw [call.textless_arguments]
  generalize call.arguments = as
  cases p with
  | base =>
    match as with
    | [] | _ :: _ => exact rfl
  | setHeader =>
    match as with
    | [] | [_] => exact rfl
    | name :: v :: vs => exact headerElement_alike h _ name (v :: vs)
  | appendHeader =>
    match as with
    | [] | [_] => exact rfl
    | name :: v :: vs => exact headerElement_alike h _ name (v :: vs)
  | removeHeader =>
    match as with
    | [] | _ :: _ :: _ => exact rfl
    | [name] => exact headerElement_alike h _ name []
  | setBody =>
    match as with
    | [] | _ :: _ :: _ => exact rfl
    | [body] => exact (extractValue_alike h body).bind fun _ => .refl _
  | authenticationBasic =>
    match as with
    | [] | [_] | _ :: _ :: _ :: _ => exact rfl
    | [username, password] =>
      exact (extractValue_alike h username).bind fun _ => (extractValue_alike h password).bind fun _ => .refl _
  | authenticationManagedIdentity =>
    match as with
    | [] | _ :: _ :: _ :: _ => exact rfl
    | [resource] => exact managedIdentityElement_alike h resource none none
    | [resource, clientId] => exact managedIdentityElement_alike h resource (some clientId) none
  | rateLimitByKey =>
    match as with
    | [] | [_] | [_, _] | _ :: _ :: _ :: _ :: _ :: _ => exact rfl
    | [calls, period, key] => exact rateLimitElement_alike h calls period key none
    | [calls, period, key, condition] => exact rateLimitElement_alike h calls period key (some condition)

theorem BoundCall.element_alike (p : BoundCall) (call : Node) (name : String) :
    Alike (p.element env call name) (p.element env' call.textless name) := by
  unfold element
  rw [call.textless_arguments]
  generalize call.arguments = as
  cases p with
  | authenticationManagedIdentity =>
    match as with
    | [] | _ :: _ :: _ :: _ => exact rfl
    | [resource] => exact managedIdentityElement_alike h resource none (some name)
    | [resource, clientId] => exact managedIdentityElement_alike h resource (some clientId) (some name)

omit h in
theorem calledPolicy_alike (o : Options) (call : Node) : Alike (calledPolicy o call) (calledPolicy o call.textless) := by
  unfold calledPolicy
  rw [call.textless_kind, call.textless_target]
  split
  · exact .error rfl
  · cases call.target with
    | none => exact .refl _
    | some t =>
      dsimp only [Option.map_some]
      rw [t.textless_kind, t.textless_name, t.textless_expression, Option.any_map]
      simp only [Node.textless_kind, Node.textless_name]
      split
      · exact .error rfl
      · split
        · exact .refl _
        · exact .error rfl

theorem callStatement_alike (ps : List PolicyCall) {n : Node} (hn : n.kind = .expressionStatement) :
    Alike (callStatement env ps n) (callStatement env' ps n.textless) := by
  rw [callStatement_eq env ps hn, callStatement_eq env' ps (n.textless_kind.trans hn), n.textless_expression,
    n.textless_kind, h.options]
  cases n.expression with
  | none => exact .refl _
  | some call =>
    refine (calledPolicy_alike _ call).bind fun name => ?_
    rw [call.textless_kind]
    cases ps.find? fun p => p.name == name with
    | none => exact .refl _
    | some p => exact PolicyCall.element_alike h p call

theorem bindingStatement_alike (ps : List BoundCall) {n : Node} (hn : n.kind = .localDeclaration) :
    Alike (bindingStatement env ps n) (bindingStatement env' ps n.textless) := by
  rw [bindingStatement_eq env ps hn, bindingStatement_eq env' ps (n.textless_kind.trans hn), n.textless_expression,
    n.textless_kind, n.textless_name, h.options]
  split
  · exact .refl _
  · cases n.expression with
    | none => exact .refl _
    | some call =>
      refine (calledPolicy_alike _ call).bind fun name => ?_
      cases ps.find? fun p => p.name == name with
      | none => exact .refl _
      | some p => exact BoundCall.element_alike h p call n.name

end

/-! ## Emissions -/

namespace Emission

/-- Two emissions fail alike, or they give the same elements and as many reports. -/
inductive Alike : Emission → Emission → Prop
  | ok {fs : List Fragment} {rs qs : List String} : rs.length = qs.length → Alike ⟨fs, rs, none⟩ ⟨fs, qs, none⟩
  | failure {a b : Emission} {c c' : Cause} : a.failure = some c → b.failure = some c' → c.wordless = c'.wordless →
      Alike a b

namespace Alike

variable {a b c d : Emission}

theorem fail {c c' : Cause} (h : c.wordless = c'.wordless) : (fail c).Alike (fail c') := failure rfl rfl h

theorem ofElement {x y : Except Cause Fragment} (h : GatewayPolicy.Alike x y) : (ofElement x).Alike (ofElement y) := by
  rcases h.cases_on with ⟨f, rfl, rfl⟩ | ⟨e, e', rfl, rfl, he⟩
  · exact ok rfl
  · exact fail he

theorem andThen (h : a.Alike b) (h' : c.Alike d) : (a.andThen c).Alike (b.andThen d) := by
  cases h with
  | failure ha hb he => exact failure (by simp [andThen_failure, ha]) (by simp [andThen_failure, hb]) he
  | ok hr =>
    cases h' with
    | failure hc hd he => exact failure (by simp [andThen_failure, hc]) (by simp [andThen_failure, hd]) he
    | ok hq => exact ok (by rw [List.length_append, List.length_append, hr, hq])

theorem wrap (parent : Fragment) (h : a.Alike b) : (a.wrap parent).Alike (b.wrap parent) := by
  cases h with
  | ok hr => exact ok hr
  | failure ha hb he => exact failure (by simp [ha]) (by simp [hb]) he

theorem gather (parent : Fragment) (h : a.Alike b) : (a.gather parent).Alike (b.gather parent) := by
  cases h with
  | ok hr => exact ok hr
  | failure ha hb he => exact failure (by simp [ha]) (by simp [hb]) he

end Alike

end Emission

/-! ## Statements -/

section
variable {env env' : Environment} {r : Registry} {n : Node}

/-- The statements of a list compile alike without their source texts. -/
def ListAlike (env env' : Environment) (r : Registry) (ns : List Node) : Prop :=
  (compileStatements env r ns).Alike (compileStatements env' r (ns.map Node.textless))

/-- The branches of a chain compile alike without their source texts. -/
def ChainAlike (env env' : Environment) (r : Registry) (n : Node) : Prop :=
  (compileChain env r n.children).Alike (compileChain env' r n.textless.children)

theorem compileBranch_alike (parent : Fragment) {s : Node} (hs : ListAlike env env' r s.statements) :
    (compileBranch env r parent s).Alike (compileBranch env' r parent s.textless) := by
  rw [compileBranch_eq, compileBranch_eq, s.textless_kind, s.textless_statements]
  split
  · exact hs.wrap parent
  · exact .fail rfl

theorem compileElse_alike {o : Option Node}
    (ho : ∀ t, o = some t → (t.kind = .ifStatement → ChainAlike env env' r t) ∧ ListAlike env env' r t.statements) :
    (compileElse env r o).Alike (compileElse env' r (o.map Node.textless)) := by
  cases o with
  | none => exact .ok rfl
  | some t =>
    obtain ⟨h₁, h₂⟩ := ho t rfl
    rw [Option.map_some, compileElse, compileElse, t.textless_kind]
    split
    · next hk => exact h₁ hk
    · exact compileBranch_alike _ h₂

theorem compileChain_alike (h : env.Textless env') (hn : n.kind = .ifStatement)
    (hs : ∀ s, n.statement = some s → ListAlike env env' r s.statements)
    (ht : ∀ t, n.elseStatement = some t →
      (t.kind = .ifStatement → ChainAlike env env' r t) ∧ ListAlike env env' r t.statements) :
    ChainAlike env env' r n := by
  rw [ChainAlike, compileChain_eq env r hn, compileChain_eq env' r (n.textless_kind.trans hn), n.textless_condition,
    n.textless_statement, n.textless_elseStatement]
  cases n.condition with
  | none => exact .fail rfl
  | some c =>
    cases hst : n.statement with
    | none => exact .fail rfl
    | some s =>
      dsimp only [Option.map_some]
      rcases (extractPredicate_alike h c).cases_on with ⟨p, hp, hp'⟩ | ⟨e, e', he, he', hw⟩
      · rw [hp, hp']
        exact (compileBranch_alike _ (hs s hst)).andThen (compileElse_alike ht)
      · rw [he, he']
        exact .fail hw

theorem unknownStatement_alike (o : Options) (n : Node) :
    (unknownStatement o n).Alike (unknownStatement o n.textless) := by
  unfold unknownStatement
  cases o.unknownStatements with
  | skip => exact .ok rfl
  | report => exact .ok rfl

theorem compileStatement_alike (h : env.Textless env') (hn : ListAlike env env' r n.statements)
    (hc : n.kind = .ifStatement → ChainAlike env env' r n) :
    (compileStatement env r n).Alike (compileStatement env' r n.textless) := by
  rw [compileStatement_eq, compileStatement_eq, n.textless_kind]
  cases hf : r.find? n.kind with
  | none =>
    rw [h.options]
    exact unknownStatement_alike _ n
  | some compiler =>
    have hk : n.kind = compiler.kind := (kind_of_find? r hf).symm
    cases compiler with
    | calls ps => exact .ofElement (callStatement_alike h ps hk)
    | bindings ps => exact .ofElement (bindingStatement_alike h ps hk)
    | branches => exact (hc hk).gather _
    | nestedBlocks =>
      rw [Node.statements, if_pos (show n.kind = .block from hk)] at hn
      rw [n.textless_children]
      exact hn

theorem compileStatements_alike (h : env.Textless env') (r : Registry) (ns : List Node) : ListAlike env env' r ns := by
  refine Node.chains_induction (P := ListAlike env env' r) (Q := ChainAlike env env' r) ?_ ?_ ?_ ns
  · rw [ListAlike, List.map_nil, compileStatements_nil, compileStatements_nil]
    exact .ok rfl
  · intro n ns ihn ihc ih
    rw [ListAlike, List.map_cons, compileStatements_cons, compileStatements_cons]
    exact (compileStatement_alike h ihn ihc).andThen ih
  · intro n hn
    exact compileChain_alike h hn

theorem compileBlock_alike (h : env.Textless env') (r : Registry) (b : Node) :
    (compileBlock env r b).Alike (compileBlock env' r b.textless) := by
  rw [compileBlock_eq, compileBlock_eq, b.textless_kind, b.textless_statements]
  split
  · exact compileStatements_alike h r _
  · exact .fail rfl

end

/-! ## Declarations -/

theorem Method.textless_bodyKind (m : Method) : m.textless.bodyKind = m.bodyKind := by
  have hk : ∀ b, (m.textlessBody b).kind = b.kind := fun b => by
    unfold textlessBody
    split <;> exact b.textless_kind
  unfold bodyKind anyBody textless
  cases m.body <;> cases m.expressionBody <;> simp [hk]

theorem Declaration.textless_method? (d : Declaration) (name : String) :
    d.textless.method? name = (d.method? name).map Method.textless := by
  unfold method? textless
  rw [List.find?_map]
  rfl

namespace PolicyCompiler

theorem environment_textless (c : PolicyCompiler) (d : Declaration) :
    (c.environment d).Textless (c.environment d.textless) where
  options := rfl
  methods name := by rw [environment_get?, environment_get?, d.textless_method?]

section
variable {env env' : Environment} (r : Registry)

theorem sealSection_alike (s : Section) {a b : Emission} (h : a.Alike b) :
    Alike (sealSection s a) (sealSection s b) := by
  cases h with
  | failure ha hb he =>
    rw [sealSection, sealSection, ha, hb]
    exact .error he
  | @ok fs rs qs hr =>
    -- With as many reports on both sides, both sections fail or neither does.
    have he : rs.isEmpty = qs.isEmpty := by cases rs <;> cases qs <;> simp_all
    have hw : (Cause.reported rs).wordless = (Cause.reported qs).wordless := by
      simp [Cause.wordless, List.map_const', hr]
    rw [sealSection, sealSection]
    dsimp only
    rw [he]
    split
    · exact .refl _
    · exact .error hw

theorem compileSection_alike (h : env.Textless env') (s : Section) {m : Method} (hm : m.isVoid) :
    Alike (compileSection env r s m) (compileSection env' r s m.textless) := by
  cases hb : m.body with
  | none =>
    have hb' : m.textless.body = none := by simp [Method.textless, hb]
    rw [compileSection, compileSection, hb, hb', m.textless_bodyKind]
    exact .refl _
  | some b =>
    have hb' : m.textless.body = some b.textless := by simp [Method.textless, Method.textlessBody, hb, hm]
    rw [compileSection_eq hb, compileSection_eq hb']
    exact sealSection_alike s (compileBlock_alike h r b)

theorem compileMethod_alike (h : env.Textless env') (m : Method) :
    SameUpTo CompileError.wordless (compileMethod env r m) (compileMethod env' r m.textless) := by
  have hv : m.textless.isVoid = m.isVoid := rfl
  have hn : m.textless.name = m.name := rfl
  unfold compileMethod
  rw [hv, hn, m.textless_bodyKind]
  split
  · exact .refl _
  · exact .error rfl
  · exact .refl _
  · next s hm _ =>
    rcases (compileSection_alike r h s hm).cases_on with ⟨f, hf, hf'⟩ | ⟨c, c', hc, hc', hw⟩
    · rw [hf, hf']
      exact .refl _
    · rw [hc, hc']
      exact .error (congrArg (CompileError.inSection s) hw)

theorem compileMethods_alike (h : env.Textless env') (ms : List Method) :
    SameUpTo CompileError.wordless (compileMethods env r ms) (compileMethods env' r (ms.map Method.textless)) := by
  induction ms with
  | nil => exact .refl _
  | cons m ms ih =>
    rw [List.map_cons, compileMethods, compileMethods]
    exact (compileMethod_alike r h m).bind fun f => ih.bind fun fs => .refl _

end

theorem compile_textless (c : PolicyCompiler) (d : Declaration) :
    SameUpTo CompileError.wordless (c.compile d) (c.compile d.textless) :=
  (compileMethods_alike c.registry (environment_textless c d) d.methods).bind fun _ => .refl _

/-- Source texts serve messages only. Two declarations that differ at most in source texts that no
snippet takes over compile to the same document, or fail in the same section with errors that
differ at most in their words. -/
theorem compile_ignores_texts (c : PolicyCompiler) {d e : Declaration} (h : d.textless = e.textless) :
    (c.compile d).mapError CompileError.wordless = (c.compile e).mapError CompileError.wordless := by
  have hd := compile_textless c d
  rw [h] at hd
  exact hd.trans (compile_textless c e).symm

theorem compile_ignores_texts_branching :
    branchingDeclaration ≠ branchingDeclaration.textless ∧
      branchingDeclaration.textless = branchingDeclaration.textless.textless ∧
      (compile (standard {}) branchingDeclaration).mapError CompileError.wordless =
        (compile (standard {}) branchingDeclaration.textless).mapError CompileError.wordless := by
  have h : branchingDeclaration.textless = branchingDeclaration.textless.textless := by decide +kernel
  exact ⟨by decide +kernel, h, compile_ignores_texts (standard {}) h⟩

end PolicyCompiler

end GatewayPolicy
