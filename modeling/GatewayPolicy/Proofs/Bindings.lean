import GatewayPolicy.Proofs.Arguments
/-!
# Results bound to a variable

A call that is bound to a variable and the same call on its own go through compilers and policies of
their own. They are tied together here: what is bound is the element of the call alone with one
attribute more, the name of the variable, and a blank name is refused after everything else.
-/

namespace GatewayPolicy

/-- The attribute that names the variable for the result. -/
def outputAttribute : String := "output-token-variable-name"

/-- Sends the result of an element to a variable. -/
def Fragment.outputTo (v : String) (f : Fragment) : Except Cause Fragment :=
  if Text.trimmed v = "" then .error (.build .blankVariable) else .ok (f.withAttribute outputAttribute v)

section
variable {env : Environment} {call : Node} {v : String}

theorem AuthenticationManagedIdentity.build_output (resource : Snippet) (clientId : Option Snippet) (v : String) :
    built (build ⟨some resource, clientId, some v, none⟩) =
      built (build ⟨some resource, clientId, none, none⟩) >>= Fragment.outputTo v := by
  have hnone : built (build ⟨some resource, clientId, none, none⟩) =
      .ok (Fragment.empty tag
        |>.withAttribute "resource" resource.policyText
        |>.withAttribute? "client-id" (clientId.map Snippet.policyText)) := rfl
  rw [hnone, ok_bind, Fragment.outputTo]
  by_cases hv : Text.trimmed v = ""
  · simp only [build, requireField, hv, if_true]
    rfl
  · simp only [build, requireField, hv, if_false]
    rfl

/-- Whatever the arguments are, the variable is looked at last. -/
theorem managedIdentityElement_output (resource : Node) (clientId : Option Node) (v : String) :
    managedIdentityElement env resource clientId (some v) =
      managedIdentityElement env resource clientId none >>= Fragment.outputTo v := by
  unfold managedIdentityElement
  simp only [AuthenticationManagedIdentity.build_output, bind_assoc]

/-- A bound call gives what the call alone gives, sent to the variable. -/
theorem BoundCall.element_eq (b : BoundCall) (call : Node) (v : String) :
    b.element env call v = b.call.element env call >>= Fragment.outputTo v := by
  cases b
  unfold element PolicyCall.element BoundCall.call
  generalize call.arguments = as
  rcases as with _ | ⟨resource, _ | ⟨clientId, _ | _⟩⟩
  · rfl
  · exact managedIdentityElement_output resource none v
  · exact managedIdentityElement_output resource (some clientId) v
  · rfl

/-- A call alone sends its result to no variable. -/
theorem managedIdentity_attribute {f : Fragment} (h : PolicyCall.authenticationManagedIdentity.element env call = .ok f) :
    f.attribute? outputAttribute = none := by
  have hnone {resource : Node} {clientId : Option Node} (h : managedIdentityElement env resource clientId none = .ok f) :
      f.attribute? outputAttribute = none := by
    obtain ⟨r, -, h⟩ := bind_ok.1 h
    obtain ⟨c, -, h⟩ := bind_ok.1 h
    cases h
    cases c <;> rfl
  unfold PolicyCall.element at h
  generalize call.arguments = as at h
  rcases as with _ | ⟨resource, _ | ⟨clientId, _ | _⟩⟩
  · cases h
  · exact hnone h
  · exact hnone h
  · cases h

/-! ## Statements -/

/-- A member of the context is called just by a node that calls a policy of that name. -/
theorem PolicyCall.calls_iff {o : Options} {p : PolicyCall} : p.Calls o call ↔ calledPolicy o call = .ok p.name := by
  refine ⟨Calls.calledPolicy, fun h => ?_⟩
  unfold calledPolicy at h
  split at h
  · cases h
  rename_i hk
  split at h
  · cases h
  rename_i t ht
  split at h
  · cases h
  rename_i hm
  split at h
  · rename_i hr
    obtain ⟨r, hr, hp⟩ : ∃ r, t.expression = some r ∧ r.kind = .identifier ∧ r.name = o.contextParameter := by
      simpa [Option.any_eq_true] using hr
    exact ⟨not_not.1 hk, t, ht, not_not.1 hm, by simpa using h, r, hr, hp⟩
  · cases h

variable {plain bound : Node}

theorem compileStatement_plain (hp : plain.kind = .expressionStatement) (he : plain.expression = some call)
    {p : PolicyCall} (hc : p.Calls env.options call) :
    compileStatement env .standard plain = .ofElement (p.element env call) := by
  rw [compileStatement_policy env (by simp [Node.isPolicy, hp]), policyElement, if_pos hp, callStatement_eq env _ hp, he]
  simp [hc.calledPolicy, PolicyCall.find?_all]

theorem compileStatement_bound (hb : bound.kind = .localDeclaration) (he : bound.expression = some call)
    (hv : bound.name ≠ "") {b : BoundCall} (hc : b.call.Calls env.options call) :
    compileStatement env .standard bound = .ofElement (b.element env call bound.name) := by
  rw [compileStatement_policy env (by simp [Node.isPolicy, hb]), policyElement, if_neg (by simp [hb]),
    bindingStatement_eq env _ hb, if_neg hv, he]
  cases b
  simp [hc.calledPolicy, BoundCall.all, BoundCall.name]

/-- Only the result of a policy that gives one can be bound. -/
theorem compileStatement_bound_fails (hb : bound.kind = .localDeclaration) (he : bound.expression = some call)
    (hc : ∀ b : BoundCall, ¬ b.call.Calls env.options call) :
    ∃ c, compileStatement env .standard bound = .fail c := by
  rw [compileStatement_policy env (by simp [Node.isPolicy, hb]), policyElement, if_neg (by simp [hb]),
    bindingStatement_eq env _ hb]
  split
  · exact ⟨_, rfl⟩
  · rw [he]
    dsimp only
    cases hp : calledPolicy env.options call with
    | error c => exact ⟨c, rfl⟩
    | ok name =>
      rw [ok_bind]
      split
      · exact ⟨_, rfl⟩
      · next b hf =>
        have hname : b.name = name := by simpa using List.find?_some hf
        exact absurd (PolicyCall.calls_iff.2 (hp.trans (congrArg _ hname.symm))) (hc b)

end

/-! ## Scopes -/

namespace Scope

/-- What binding the result of a call to a variable makes of a scope, beside what the call alone makes
of it: the element that is added has the variable as one attribute more, and is otherwise the same. -/
structure BindingResult (s : Scope) (v : String) (call : Node) (plain bound : Scope × Except CompileError Unit) :
    Prop where
  succeeds : Text.trimmed v ≠ "" →
    (bound.2 = .ok () ↔ PolicyCall.authenticationManagedIdentity.Calls s.env.options call ∧ plain.2 = .ok ())
  adds : Text.trimmed v ≠ "" → bound.2 = .ok () → ∃ f g,
    plain = ({ s with fragments := s.fragments ++ [f] }, .ok ()) ∧
    bound = ({ s with fragments := s.fragments ++ [g] }, .ok ()) ∧ f.attribute? outputAttribute = none ∧
    g.HasParts f.tag (fun name => if name = outputAttribute then some v else f.attribute? name) f.text f.children
  fails : v ≠ "" → PolicyCall.authenticationManagedIdentity.Calls s.env.options call →
    plain.2 ≠ .ok () → bound = plain
  blank : v ≠ "" → Text.trimmed v = "" → PolicyCall.authenticationManagedIdentity.Calls s.env.options call →
    plain.2 = .ok () → bound = (s, .error (.inSection s.place (.build .blankVariable)))

variable {s : Scope} {v : String} {call plain bound : Node}

/-- One element more is added, or none; the element goes to the variable. -/
theorem bindingResult_ofElement {x : Except Cause Fragment} (hx : ∀ f, x = .ok f → f.attribute? outputAttribute = none)
    (hc : PolicyCall.authenticationManagedIdentity.Calls s.env.options call) :
    s.BindingResult v call (s.run (.ofElement x)) (s.run (.ofElement (x >>= Fragment.outputTo v))) := by
  rw [run_ofElement, run_ofElement]
  cases x with
  | error c =>
    rw [error_bind]
    refine ⟨fun _ => by simp, fun _ h => ?_, fun _ _ _ => rfl, fun _ _ _ h => ?_⟩
    · cases h
    · cases h
  | ok f =>
    rw [ok_bind, Fragment.outputTo]
    by_cases hv : Text.trimmed v = ""
    · rw [if_pos hv]
      exact ⟨fun h => absurd hv h, fun h => absurd hv h, fun _ _ h => absurd rfl h, fun _ _ _ _ => rfl⟩
    · rw [if_neg hv]
      have hadds := f.hasParts.withAttribute outputAttribute v
      exact ⟨fun _ => by simp [hc], fun _ _ => ⟨f, _, rfl, rfl, hx f rfl, hadds⟩, fun _ _ h => absurd rfl h,
        fun _ h => absurd h hv⟩

/-- Binding the result of a call only adds the variable. A declaration with a name that is not blank
compiles just if its call is one of the managed identity policy on the context and compiles on its own,
and then adds the element of the call with the name as one attribute more. A call of the policy that
fails on its own fails in the same way when it is bound; one that compiles is refused for a blank name. -/
theorem binding_adds_output_variable (s : Scope) (hp : plain.kind = .expressionStatement)
    (hpe : plain.expression = some call) (hb : bound.kind = .localDeclaration) (hbe : bound.expression = some call) :
    s.BindingResult bound.name call (s.run (compileStatement s.env .standard plain))
      (s.run (compileStatement s.env .standard bound)) := by
  by_cases hv : bound.name = ""
  · have hblank : Text.trimmed bound.name = "" := by rw [hv]; rfl
    exact ⟨fun h => absurd hblank h, fun h => absurd hblank h, fun h => absurd hv h, fun h => absurd hv h⟩
  · by_cases hc : PolicyCall.authenticationManagedIdentity.Calls s.env.options call
    · rw [compileStatement_plain hp hpe hc,
        compileStatement_bound hb hbe hv (b := .authenticationManagedIdentity) hc, BoundCall.element_eq]
      exact bindingResult_ofElement (fun f => managedIdentity_attribute) hc
    · obtain ⟨c, hf⟩ : ∃ c, compileStatement s.env .standard bound = .fail c :=
        compileStatement_bound_fails hb hbe fun b => by cases b; exact hc
      rw [hf]
      refine ⟨fun _ => ⟨fun h => ?_, fun h => absurd h.1 hc⟩, fun _ h => ?_, fun _ h => absurd h hc, fun _ _ h => absurd h hc⟩
      · cases h
      · cases h

end Scope

/-- A call with a second argument that is no snippet fails alike in both forms; without that argument it
goes through, but not into a variable with a blank name. -/
theorem binding_adds_output_variable_token :
    let call := fun arguments => Node.methodCall "context" "AuthenticationManagedIdentity" arguments
    let vault := call [.stringLiteral "https://vault.azure.net"]
    let unread := call [.stringLiteral "https://vault.azure.net", .identifier "client"]
    let run := fun n => startedScope.run (compileStatement startedScope.env .standard n)
    (∃ f g, (run (.expressionStatement vault)).1.fragments = [basePolicy, f] ∧
      (run (.localDeclaration "token" vault)).1.fragments = [basePolicy, g] ∧
      f.attribute? "output-token-variable-name" = none ∧ g.attribute? "output-token-variable-name" = some "token" ∧
      g.attribute? "resource" = some "https://vault.azure.net" ∧ g.tag = "authentication-managed-identity") ∧
    run (.localDeclaration "\t" vault) = (startedScope, .error (.inSection .inbound (.build .blankVariable))) ∧
    run (.localDeclaration "token" unread) = run (.expressionStatement unread) ∧
      (run (.expressionStatement unread)).2 ≠ .ok () := by
  intro call vault unread run
  have hc (arguments : List Node) :
      PolicyCall.authenticationManagedIdentity.Calls startedScope.env.options (call arguments) :=
    ⟨rfl, _, rfl, rfl, rfl, _, rfl, rfl, rfl⟩
  have h (v : String) (arguments : List Node) : startedScope.BindingResult v (call arguments)
      (run (.expressionStatement (call arguments))) (run (.localDeclaration v (call arguments))) :=
    @Scope.binding_adds_output_variable (call arguments) (.expressionStatement (call arguments))
      (.localDeclaration v (call arguments)) startedScope rfl rfl rfl rfl
  have hok : (run (.expressionStatement vault)).2 = .ok () := Scope.run_ok.2 (by decide +kernel)
  have hfail : (run (.expressionStatement unread)).2 ≠ .ok () := mt Scope.run_ok.1 (by decide +kernel)
  obtain ⟨f, g, hp, hb, hf, hg⟩ := (h "token" _).adds (by decide) (((h "token" _).succeeds (by decide)).2 ⟨hc _, hok⟩)
  have hplain : (run (.expressionStatement vault)).1.fragments = [basePolicy, f] :=
    congrArg (fun result => result.1.fragments) hp
  have hbound : (run (.localDeclaration "token" vault)).1.fragments = [basePolicy, g] :=
    congrArg (fun result => result.1.fragments) hb
  have hvault : (run (.expressionStatement vault)).1.fragments.tail.map (fun e => (e.tag, e.attribute? "resource")) =
      [("authentication-managed-identity", some "https://vault.azure.net")] := by decide +kernel
  rw [hplain] at hvault
  obtain ⟨htag, hresource⟩ : f.tag = "authentication-managed-identity" ∧
      f.attribute? "resource" = some "https://vault.azure.net" := by simpa using hvault
  refine ⟨⟨f, g, hplain, hbound, hf, ?_, ?_, hg.tag.trans htag⟩, ?_, ?_, hfail⟩
  · exact hg.attributes "output-token-variable-name"
  · exact (hg.attributes "resource").trans hresource
  · exact (h "\t" _).blank (by decide) (by decide) (hc _) hok
  · exact (h "token" _).fails (by decide) (hc _) hfail

end GatewayPolicy
