import GatewayPolicy.Compile.Statement
import GatewayPolicy.Proofs.Outcome
/-!
# Elements of policy statements

Each policy statement gives one leaf: an element with the tag of a policy and no elements
below it but the values of a header.
-/

namespace GatewayPolicy

/-! ## Parts -/

/-- All that can be read off an element: its tag, the values of its attributes by their names, its text
and its children. -/
structure Fragment.HasParts (f : Fragment) (tag : String) (values : String → Option String) (text : Option String)
    (children : List Fragment) : Prop where
  tag : f.tag = tag
  attributes : ∀ name, f.attribute? name = values name
  text : f.text = text
  children : f.children = children

namespace Fragment

variable {f : Fragment} {tag : String} {values : String → Option String} {text : Option String} {cs : List Fragment}

theorem hasParts (f : Fragment) : f.HasParts f.tag f.attribute? f.text f.children := ⟨rfl, fun _ => rfl, rfl, rfl⟩

/-- An attribute that is written has its value, and nothing else changes. -/
theorem HasParts.withAttribute (h : f.HasParts tag values text cs) (k v : String) :
    (f.withAttribute k v).HasParts tag (fun name => if name = k then some v else values name) text cs := by
  refine ⟨h.tag, fun name => ?_, h.text, h.children⟩
  rw [withAttribute_attribute?, h.attributes]
  by_cases hk : k = name
  · rw [if_pos hk, if_pos hk.symm]
  · rw [if_neg hk, if_neg fun hn => hk hn.symm]

theorem HasParts.withChildren (h : f.HasParts tag values text cs) (ds : List Fragment) :
    (f.withChildren ds).HasParts tag values text (cs ++ ds) := by
  refine ⟨h.tag, h.attributes, h.text, ?_⟩
  rw [withChildren_children, h.children]

end Fragment

/-! ## Policies -/

/-- The tags of the policies. -/
def policyTags : List String :=
  [basePolicy.tag, SetHeader.tag, SetBody.tag, AuthenticationBasic.tag, AuthenticationManagedIdentity.tag,
    RateLimitByKey.tag]

/-- The tag of the values of a header. -/
def valueTag : String := "value"

/-- An element of a policy: below it there are only values. -/
structure Fragment.IsLeaf (f : Fragment) : Prop where
  tag : f.tag ∈ policyTags
  values : ∀ c ∈ f.children, c.tag = valueTag ∧ c.children = []

/-- A leaf is no part of an if chain and no value. -/
theorem Fragment.IsLeaf.tag_not_mem {f : Fragment} (h : f.IsLeaf) :
    f.tag ∉ [chooseTag, whenTag, otherwiseTag, valueTag] := by
  have hd : ∀ t ∈ policyTags, t ∉ [chooseTag, whenTag, otherwiseTag, valueTag] := by decide
  exact hd _ h.tag

/-! ## Leaves -/

/-- The elements that policy statements make: a header has values unless it is deleted, the variable
for a token has a name, and the condition of a rate limit is code. -/
inductive LeafElement : Fragment → Prop
  | base : LeafElement basePolicy
  | header (name : Snippet) (a : ExistsAction) (values : List Snippet) : a ≠ .skip → (a = .delete ↔ values = []) →
      LeafElement (Fragment.empty SetHeader.tag
        |>.withAttribute "name" name.policyText
        |>.withAttribute "exists-action" a.name
        |>.withChildren (values.map fun v => (Fragment.empty valueTag).withText v.policyText))
  | body (body : Snippet) : LeafElement ((Fragment.empty SetBody.tag).withText body.policyText)
  | basic (username password : Snippet) :
      LeafElement (Fragment.empty AuthenticationBasic.tag
        |>.withAttribute "username" username.policyText
        |>.withAttribute "password" password.policyText)
  | managedIdentity (resource : Snippet) (clientId : Option Snippet) (output : Option String) :
      (∀ v, output = some v → Text.trimmed v ≠ "") →
      LeafElement (Fragment.empty AuthenticationManagedIdentity.tag
        |>.withAttribute "resource" resource.policyText
        |>.withAttribute? "client-id" (clientId.map Snippet.policyText)
        |>.withAttribute? "output-token-variable-name" output)
  | rateLimit (calls period : UInt32) (key : Snippet) (condition : Option Snippet) :
      (∀ c, condition = some c → c.isCode) →
      LeafElement (Fragment.empty RateLimitByKey.tag
        |>.withAttribute "calls" (RateLimitByKey.countText calls)
        |>.withAttribute "renewal-period" (RateLimitByKey.countText period)
        |>.withAttribute "counter-key" key.policyText
        |>.withAttribute? "increment-condition" (condition.map Snippet.policyText))

theorem LeafElement.isLeaf {f : Fragment} (h : LeafElement f) : f.IsLeaf := by
  cases h with
  | header name a values =>
    refine ⟨by simp [policyTags], fun c hc => ?_⟩
    simp only [Fragment.withChildren_children, Fragment.withAttribute_children, Fragment.empty_children,
      List.nil_append] at hc
    obtain ⟨v, -, rfl⟩ := List.mem_map.1 hc
    simp
  | _ => exact ⟨by simp [policyTags], by simp [basePolicy]⟩

/-! ## Building -/

section
variable {f : Fragment}

theorem SetHeader.build_ok {name : Snippet} {a : ExistsAction} {values : List Snippet} (ha : a ≠ .skip)
    (h : build ⟨some name, some a, values⟩ = .ok f) : LeafElement f := by
  obtain ⟨name, hn, h⟩ := bind_ok.1 h
  cases hn
  split at h
  · next hd =>
    split at h
    · cases h
    · next hv =>
      cases h
      exact .header name a values ha (by simp_all)
  · next hd =>
    split at h
    · cases h
    · next hv =>
      cases h
      exact .header name a values ha (by simp_all)

theorem SetBody.build_ok {body : Snippet} (h : build ⟨some body, none⟩ = .ok f) : LeafElement f := by
  cases h
  exact .body body

theorem AuthenticationBasic.build_ok {username password : Snippet}
    (h : build ⟨some username, some password⟩ = .ok f) : LeafElement f := by
  cases h
  exact .basic username password

theorem AuthenticationManagedIdentity.build_ok {resource : Snippet} {clientId : Option Snippet}
    {output : Option String} (h : build ⟨some resource, clientId, output, none⟩ = .ok f) : LeafElement f := by
  obtain ⟨resource, hr, h⟩ := bind_ok.1 h
  cases hr
  cases output with
  | none =>
    cases h
    exact .managedIdentity resource clientId none (by simp)
  | some v =>
    dsimp only at h
    split at h
    · cases h
    · next hv =>
      cases h
      exact .managedIdentity resource clientId (some v) (by simpa using hv)

theorem RateLimitByKey.build_ok {calls period : UInt32} {key : Snippet} {condition : Option Snippet}
    (hc : ∀ c, condition = some c → c.isCode)
    (h : build { calls := some calls, renewalPeriod := some period, counterKey := some key,
                 incrementCondition := condition } = .ok f) : LeafElement f := by
  cases condition with
  | none =>
    cases h
    exact .rateLimit calls period key none hc
  | some c =>
    obtain ⟨calls, h₁, h⟩ := bind_ok.1 h
    obtain ⟨period, h₂, h⟩ := bind_ok.1 h
    obtain ⟨key, h₃, h⟩ := bind_ok.1 h
    cases h₁
    cases h₂
    cases h₃
    dsimp only at h
    split at h
    · cases h
    · cases h
      exact .rateLimit calls period key (some c) hc

theorem built_ok {x : Except BuildError Fragment} : built x = .ok f ↔ x = .ok f := mapError_eq_ok

end

/-! ## Conditions -/

section
variable {env : Environment} {n : Node} {s : Snippet}

theorem extractLambda_isCode {o : Options} {expected : ResultType} {text : String}
    (h : extractLambda o expected text = .ok s) : s.isCode := by
  unfold extractLambda at h
  dsimp only at h
  repeat' split at h
  all_goals cases h
  rfl

theorem extractForwarded_isCode (h : extractForwarded env n = .ok s) : s.isCode := by
  unfold extractForwarded at h
  dsimp only at h
  repeat' split at h
  all_goals cases h
  rfl

/-- A condition is code: a constant decides nothing. -/
theorem extractPredicate_isCode (h : extractPredicate env n = .ok s) : s.isCode := by
  unfold extractPredicate extract at h
  split at h
  · cases h
  · cases h
  · next he => cases he
  · next he => cases he
  · exact extractLambda_isCode h
  · exact extractForwarded_isCode h
  · cases h

end

/-! ## Calls -/

section
variable {env : Environment} {f : Fragment}

theorem headerElement_leaf {a : ExistsAction} {name : Node} {values : List Node} (ha : a ≠ .skip)
    (h : headerElement env a name values = .ok f) : LeafElement f := by
  obtain ⟨name, -, h⟩ := bind_ok.1 h
  obtain ⟨values, -, h⟩ := bind_ok.1 h
  exact SetHeader.build_ok ha (built_ok.1 h)

theorem managedIdentityElement_leaf {resource : Node} {clientId : Option Node} {output : Option String}
    (h : managedIdentityElement env resource clientId output = .ok f) : LeafElement f := by
  obtain ⟨resource, -, h⟩ := bind_ok.1 h
  obtain ⟨clientId, -, h⟩ := bind_ok.1 h
  exact AuthenticationManagedIdentity.build_ok (built_ok.1 h)

theorem rateLimitElement_leaf {calls period key : Node} {condition : Option Node}
    (h : rateLimitElement env calls period key condition = .ok f) : LeafElement f := by
  obtain ⟨calls, -, h⟩ := bind_ok.1 h
  obtain ⟨period, -, h⟩ := bind_ok.1 h
  obtain ⟨key, -, h⟩ := bind_ok.1 h
  obtain ⟨snippet, hs, h⟩ := bind_ok.1 h
  refine RateLimitByKey.build_ok (fun c hc => ?_) (built_ok.1 h)
  subst hc
  cases condition with
  | none => cases hs
  | some n =>
    obtain ⟨s, hn, hs⟩ := bind_ok.1 hs
    cases hs
    exact extractPredicate_isCode hn

theorem PolicyCall.element_leaf {p : PolicyCall} {call : Node} (h : p.element env call = .ok f) : LeafElement f := by
  unfold element at h
  split at h
  · cases h
    exact .base
  · exact headerElement_leaf (by decide) h
  · exact headerElement_leaf (by decide) h
  · exact headerElement_leaf (by decide) h
  · obtain ⟨body, -, h⟩ := bind_ok.1 h
    exact SetBody.build_ok (built_ok.1 h)
  · obtain ⟨username, -, h⟩ := bind_ok.1 h
    obtain ⟨password, -, h⟩ := bind_ok.1 h
    exact AuthenticationBasic.build_ok (built_ok.1 h)
  · exact managedIdentityElement_leaf h
  · exact managedIdentityElement_leaf h
  · exact rateLimitElement_leaf h
  · exact rateLimitElement_leaf h
  · cases h

theorem BoundCall.element_leaf {p : BoundCall} {call : Node} {name : String}
    (h : p.element env call name = .ok f) : LeafElement f := by
  unfold element at h
  split at h
  · exact managedIdentityElement_leaf h
  · exact managedIdentityElement_leaf h
  · cases h

end

/-! ## Statements -/

section
variable (env : Environment) {n : Node}

theorem callStatement_eq (ps : List PolicyCall) (hn : n.kind = .expressionStatement) :
    callStatement env ps n =
      match n.expression with
      | none => .error (.structural .invocation n.kind)
      | some call =>
        calledPolicy env.options call >>= fun name =>
        match ps.find? fun p => p.name == name with
        | none => .error (.unsupported call.kind (.unknownPolicy name))
        | some p => p.element env call := by
  rw [callStatement, if_neg (by simp [hn])]
  rfl

theorem bindingStatement_eq (ps : List BoundCall) (hn : n.kind = .localDeclaration) :
    bindingStatement env ps n =
      if n.name = "" then .error (.unsupported n.kind .noVariableName)
      else
        match n.expression with
        | none => .error (.structural .invocation n.kind)
        | some call =>
          calledPolicy env.options call >>= fun name =>
          match ps.find? fun p => p.name == name with
          | none => .error (.unsupported n.kind (.noValue name))
          | some p => p.element env call n.name := by
  rw [bindingStatement, if_neg (by simp [hn])]
  dsimp only
  by_cases hv : n.name = ""
  · rw [if_pos hv, if_pos hv]
    rfl
  · rw [if_neg hv, if_neg hv]
    rfl

end

variable {env : Environment} {n : Node} {f : Fragment}

theorem callStatement_leaf {ps : List PolicyCall} (hn : n.kind = .expressionStatement)
    (h : callStatement env ps n = .ok f) : LeafElement f := by
  rw [callStatement_eq env ps hn] at h
  split at h
  · cases h
  · obtain ⟨name, -, h⟩ := bind_ok.1 h
    split at h
    · cases h
    · exact PolicyCall.element_leaf h

theorem bindingStatement_leaf {ps : List BoundCall} (hn : n.kind = .localDeclaration)
    (h : bindingStatement env ps n = .ok f) : LeafElement f := by
  rw [bindingStatement_eq env ps hn] at h
  split at h
  · cases h
  · split at h
    · cases h
    · obtain ⟨name, -, h⟩ := bind_ok.1 h
      split at h
      · cases h
      · exact BoundCall.element_leaf h

/-- Whether a node is a statement that calls a policy. -/
def Node.isPolicy (n : Node) : Bool := n.kind == .expressionStatement || n.kind == .localDeclaration

/-- The element that the default policies make of a policy statement. -/
def policyElement (env : Environment) (n : Node) : Except Cause Fragment :=
  if n.kind = .expressionStatement then callStatement env PolicyCall.all n else bindingStatement env BoundCall.all n

theorem policyElement_leaf (hn : n.isPolicy) (h : policyElement env n = .ok f) : LeafElement f := by
  unfold policyElement at h
  split at h
  · next hk => exact callStatement_leaf hk h
  · next hk => exact bindingStatement_leaf (by simpa [Node.isPolicy, hk] using hn) h

theorem policyElement_isLeaf (hn : n.isPolicy) (h : policyElement env n = .ok f) : f.IsLeaf :=
  (policyElement_leaf hn h).isLeaf

end GatewayPolicy
