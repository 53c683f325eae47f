import GatewayPolicy.Proofs.Gives
import GatewayPolicy.Proofs.Sections
import Mathlib.Algebra.Group.Nat.Defs
/-!
# The policy schema

What the gateway takes as a policy: which elements stand where, with which attributes,
texts and children. The schema is written down on its own, and every document that
compiles obeys it, whether or not the layout of the declaration was checked.
-/

namespace GatewayPolicy

/-! ## Values -/

/-- A value that the gateway evaluates: an expression in `@(` and `)`, or statements in `@{` and `}`. -/
def IsCode (v : String) : Prop := ∃ body, v = "@(" ++ body ++ ")" ∨ v = "@\x7b" ++ body ++ "\x7d"

/-- A number below 2³² in decimal digits without leading zeros. -/
structure IsCount (v : String) : Prop where
  digits : v ≠ "" ∧ ∀ c ∈ v.toList, c.isDigit
  noLeadingZero : v.toList.head? = some '0' → v = "0"
  bound : Nat.ofDigitChars 10 v.toList 0 < 2 ^ 32

/-- A value with a character that is no white space. -/
def IsNotBlank (v : String) : Prop := ∃ c ∈ v.toList, Text.isBlank c = false

/-! ## Elements by their tags -/

/-- An attribute of an element: its name, whether it must be there, and what its values are like. -/
structure AttributeRule where
  name : String
  required : Bool := true
  form : String → Prop := fun _ => True

/-- What stands in the tag of an element, and whether it has a text. -/
structure ElementRule where
  tag : String
  attributes : List AttributeRule := []
  text : Bool := false

/-- An element has the tag of a rule, the attributes that the rule asks for and no others, and a text
just if the rule says so. -/
structure Fragment.Follows (f : Fragment) (r : ElementRule) : Prop where
  tag : f.tag = r.tag
  required : ∀ a ∈ r.attributes, a.required → (f.attribute? a.name).isSome
  known : ∀ e ∈ f.attributes.entries, ∃ a ∈ r.attributes, a.name = e.1 ∧ a.form e.2
  text : f.text.isSome = r.text

def headerRule : ElementRule where
  tag := "set-header"
  attributes :=
    [{ name := "exists-action", form := fun v => v ∈ ["override", "append", "delete"] }, { name := "name" }]

def valueRule : ElementRule where
  tag := "value"
  text := true

def baseRule : ElementRule where
  tag := "base"

def bodyRule : ElementRule where
  tag := "set-body"
  text := true

def basicRule : ElementRule where
  tag := "authentication-basic"
  attributes := [{ name := "password" }, { name := "username" }]

def managedIdentityRule : ElementRule where
  tag := "authentication-managed-identity"
  attributes :=
    [{ name := "output-token-variable-name", required := false, form := IsNotBlank },
      { name := "client-id", required := false }, { name := "resource" }]

def rateLimitRule : ElementRule where
  tag := "rate-limit-by-key"
  attributes :=
    [{ name := "increment-condition", required := false, form := IsCode }, { name := "counter-key" },
      { name := "renewal-period", form := IsCount }, { name := "calls", form := IsCount }]

/-- The policies without elements inside. -/
def childlessRules : List ElementRule := [baseRule, bodyRule, basicRule, managedIdentityRule, rateLimitRule]

def chooseRule : ElementRule where
  tag := "choose"

def whenRule : ElementRule where
  tag := "when"
  attributes := [{ name := "condition", form := IsCode }]

def otherwiseRule : ElementRule where
  tag := "otherwise"

/-! ## Elements by their places -/

/-- An element that may stand in a section, in a `when` or in an `otherwise`. A header has values
unless it is deleted; a choice has at least one `when`, and at most one `otherwise` after them. -/
inductive InnerElement : Fragment → Prop
  | childless {f : Fragment} {r : ElementRule} : r ∈ childlessRules → f.Follows r → f.children = [] → InnerElement f
  | header {f : Fragment} : f.Follows headerRule → (∀ v ∈ f.children, v.Follows valueRule ∧ v.children = []) →
      (f.children = [] ↔ f.attribute? "exists-action" = some "delete") → InnerElement f
  | choose {f : Fragment} (whens last : List Fragment) : f.Follows chooseRule → f.children = whens ++ last →
      whens ≠ [] → last.length ≤ 1 →
      (∀ w ∈ whens, w.Follows whenRule) → (∀ w ∈ whens, ∀ c ∈ w.children, InnerElement c) →
      (∀ o ∈ last, o.Follows otherwiseRule) → (∀ o ∈ last, ∀ c ∈ o.children, InnerElement c) → InnerElement f

/-- An element that may stand at the top of a document. -/
structure SectionElement (f : Fragment) : Prop where
  rule : ∃ tag ∈ ["inbound", "outbound", "on-error"], f.Follows { tag }
  children : ∀ c ∈ f.children, InnerElement c

/-! ## Values that are written -/

theorem Snippet.isCode_policyText {s : Snippet} (h : s.isCode) : IsCode s.policyText := by
  obtain ⟨t, source⟩ := s
  cases source with
  | literal text => cases h
  | code parameter body =>
    by_cases hb : isBracedBody body
    · -- The braces of the body are those of the form.
      have hp : policyText ⟨t, .code parameter body⟩ = "@" ++ body := by simp [policyText, hb]
      simp only [isBracedBody, Bool.and_eq_true, beq_iff_eq] at hb
      obtain ⟨hh, hl⟩ := hb
      obtain ⟨r, hr⟩ := List.head?_eq_some_iff.1 hh
      have hne : r ≠ [] := by
        rintro rfl
        simp [hr] at hl
      rw [hr, List.getLast?_cons_of_ne_nil hne, List.getLast?_eq_some_iff] at hl
      obtain ⟨m, hm⟩ := hl
      refine ⟨String.ofList m, .inr ?_⟩
      rw [hp, ← String.toList_inj]
      simp [hr, hm]
    · exact ⟨body, .inl (by simp [policyText, hb])⟩

theorem head?_toDigits {n : Nat} (hn : 0 < n) : (Nat.toDigits 10 n).head? ≠ some '0' := by
  induction n using Nat.strongRecOn with
  | _ n ih =>
    by_cases h : n < 10
    · have hd : ∀ m < 10, 0 < m → some m.digitChar ≠ some '0' := by decide
      rw [Nat.toDigits_of_lt_base h]
      exact hd n h hn
    · have hd : 0 < n / 10 := by omega
      have ht := Nat.toDigits_append_toDigits (b := 10) (d := n % 10) (by decide) hd (Nat.mod_lt n (by decide))
      rw [Nat.div_add_mod] at ht
      rw [← ht, List.head?_append_of_ne_nil _ Nat.toDigits_ne_nil]
      exact ih _ (by omega) hd

theorem RateLimitByKey.isCount_countText (n : UInt32) : IsCount (countText n) where
  digits := by
    refine ⟨fun h => ?_, fun c hc => ?_⟩
    · have hl := congrArg String.toList h
      rw [countText, Nat.toList_repr] at hl
      exact Nat.toDigits_ne_nil hl
    · rw [countText, Nat.toList_repr] at hc
      exact Nat.isDigit_of_mem_toDigits (by decide) (by decide) hc
  noLeadingZero := by
    intro h
    rw [countText, Nat.toList_repr] at h
    rw [countText, Nat.eq_zero_of_not_pos fun hn => head?_toDigits hn h]
    rfl
  bound := by
    rw [countText, Nat.toList_repr, Nat.ofDigitChars_toDigits (by decide) (by decide)]
    exact n.toNat_lt

theorem isNotBlank_of_trimmed {v : String} (h : Text.trimmed v ≠ "") : IsNotBlank v := by
  by_contra hb
  refine h ?_
  have hall : ∀ c ∈ v.toList, Text.isBlank c := fun c hc => by
    by_contra hc'
    exact hb ⟨c, hc, by simpa using hc'⟩
  rw [Text.trimmed, Text.trim_of_blank hall]

/-! ## Following a rule -/

namespace Fragment

variable {f : Fragment} {tag name v : String} {as : List AttributeRule} {form : String → Prop} {text : Bool}

theorem follows_empty (tag : String) : (empty tag).Follows ⟨tag, [], false⟩ :=
  ⟨rfl, by simp, by simp [empty, Attributes.empty], rfl⟩

namespace Follows

/-- An attribute more follows the rule with that attribute more. -/
theorem withAttribute {required : Bool} (h : f.Follows ⟨tag, as, text⟩) (hv : form v) :
    (f.withAttribute name v).Follows ⟨tag, ⟨name, required, form⟩ :: as, text⟩ where
  tag := h.tag
  text := h.text
  required := by
    intro b hb hr
    by_cases hn : name = b.name
    · simp [attribute?, Fragment.withAttribute, hn]
    · rcases List.mem_cons.1 hb with rfl | hb
      · exact absurd rfl hn
      · simpa [attribute?, Fragment.withAttribute, hn] using h.required b hb hr
  known := by
    intro e he
    rcases Entries.mem_put he with rfl | he
    · exact ⟨⟨name, required, form⟩, List.mem_cons_self, rfl, hv⟩
    · obtain ⟨b, hb, hk⟩ := h.known e he
      exact ⟨b, List.mem_cons_of_mem _ hb, hk⟩

/-- An attribute that may be absent. -/
theorem withAttribute? {o : Option String} (h : f.Follows ⟨tag, as, text⟩) (ho : ∀ v, o = some v → form v) :
    (f.withAttribute? name o).Follows ⟨tag, ⟨name, false, form⟩ :: as, text⟩ := by
  cases o with
  | some v => exact h.withAttribute (ho v rfl)
  | none =>
    refine ⟨h.tag, ?_, ?_, h.text⟩
    · intro b hb hr
      rcases List.mem_cons.1 hb with rfl | hb
      · cases hr
      · exact h.required b hb hr
    · intro e he
      obtain ⟨b, hb, hk⟩ := h.known e he
      exact ⟨b, List.mem_cons_of_mem _ hb, hk⟩

theorem withText (h : f.Follows ⟨tag, as, false⟩) (v : String) : (f.withText v).Follows ⟨tag, as, true⟩ :=
  ⟨h.tag, h.required, h.known, rfl⟩

theorem withChildren {r : ElementRule} (h : f.Follows r) (cs : List Fragment) : (f.withChildren cs).Follows r :=
  ⟨h.tag, h.required, h.known, h.text⟩

end Follows

end Fragment

/-! ## What compiles obeys the schema -/

theorem LeafElement.innerElement {f : Fragment} (h : LeafElement f) : InnerElement f := by
  cases h with
  | base => exact .childless (r := baseRule) (by simp [childlessRules]) (Fragment.follows_empty _) rfl
  | header name a values ha hv =>
    refine .header (.withChildren (.withAttribute (.withAttribute (Fragment.follows_empty _) trivial) ?_) _) ?_ ?_
    · cases a <;> simp [ExistsAction.name] at ha ⊢
    · intro v hm
      simp only [Fragment.withChildren_children, Fragment.withAttribute_children, Fragment.empty_children,
        List.nil_append] at hm
      obtain ⟨s, -, rfl⟩ := List.mem_map.1 hm
      exact ⟨(Fragment.follows_empty _).withText _, rfl⟩
    · have hd : a.name = "delete" ↔ a = .delete := by cases a <;> simp [ExistsAction.name]
      simp [Fragment.attribute?, Fragment.withChildren, Fragment.withAttribute, Fragment.empty, hd, hv]
  | body body =>
    exact .childless (r := bodyRule) (by simp [childlessRules]) ((Fragment.follows_empty _).withText _) rfl
  | basic username password =>
    refine .childless (r := basicRule) (by simp [childlessRules]) ?_ rfl
    exact .withAttribute (.withAttribute (Fragment.follows_empty _) trivial) trivial
  | managedIdentity resource clientId output h =>
    refine .childless (r := managedIdentityRule) (by simp [childlessRules]) ?_ (by simp)
    refine .withAttribute? (.withAttribute? (.withAttribute (Fragment.follows_empty _) trivial) ?_) ?_
    · exact fun _ _ => trivial
    · exact fun v hv => isNotBlank_of_trimmed (h v hv)
  | rateLimit calls period key condition hc =>
    refine .childless (r := rateLimitRule) (by simp [childlessRules]) ?_ (by simp)
    refine .withAttribute? (.withAttribute (.withAttribute (.withAttribute (Fragment.follows_empty _) ?_) ?_) trivial) ?_
    · exact RateLimitByKey.isCount_countText calls
    · exact RateLimitByKey.isCount_countText period
    · intro v hv
      obtain ⟨c, hs, rfl⟩ := Option.map_eq_some_iff.1 hv
      exact Snippet.isCode_policyText (hc c hs)

section
variable {env : Environment} {n s : Node} {p : Snippet} {fs bs : List Fragment}

theorem Guards.isCode (h : Guards env n p s) : p.isCode := by
  obtain ⟨c, -, hp⟩ := h.condition
  exact extractPredicate_isCode hp

theorem follows_whenBranch (h : p.isCode) (fs : List Fragment) : (whenBranch p fs).Follows whenRule :=
  .withChildren (.withAttribute (Fragment.follows_empty _) (Snippet.isCode_policyText h)) fs

/-- The branches of a chain: `when` elements, and at most one `otherwise` after them. -/
def Branches (bs : List Fragment) : Prop :=
  ∃ whens last, bs = whens ++ last ∧ last.length ≤ 1 ∧
    (∀ w ∈ whens, w.Follows whenRule ∧ ∀ c ∈ w.children, InnerElement c) ∧
    ∀ o ∈ last, o.Follows otherwiseRule ∧ ∀ c ∈ o.children, InnerElement c

theorem branches_nil : Branches [] := ⟨[], [], by simp⟩

theorem branches_otherwise (hfs : ∀ f ∈ fs, InnerElement f) : Branches [otherwiseBranch fs] :=
  ⟨[], [otherwiseBranch fs], rfl, Nat.le_refl 1, by simp,
    List.forall_mem_singleton.2 ⟨.withChildren (Fragment.follows_empty _) fs, hfs⟩⟩

/-- A branch with a condition in front of other branches makes a choice of them. -/
theorem Branches.innerElement (h : Branches bs) (hp : p.isCode) (hfs : ∀ f ∈ fs, InnerElement f) :
    InnerElement (chooseElement (whenBranch p fs :: bs)) := by
  obtain ⟨whens, last, rfl, hl, hw, ho⟩ := h
  have hall : ∀ w ∈ whenBranch p fs :: whens, w.Follows whenRule ∧ ∀ c ∈ w.children, InnerElement c :=
    List.forall_mem_cons.2 ⟨⟨follows_whenBranch hp fs, hfs⟩, hw⟩
  exact .choose (whenBranch p fs :: whens) last (.withChildren (Fragment.follows_empty _) _) rfl (List.cons_ne_nil _ _)
    hl (fun w h => (hall w h).1) (fun w h => (hall w h).2) (fun o h => (ho o h).1) (fun o h => (ho o h).2)

theorem InnerElement.branches (h : InnerElement (chooseElement bs)) : Branches bs := by
  cases h with
  | childless hr hf =>
    have ht : ∀ r ∈ childlessRules, chooseTag ≠ r.tag := by
      simp [childlessRules, chooseTag, baseRule, bodyRule, basicRule, managedIdentityRule, rateLimitRule]
    exact absurd hf.tag (ht _ hr)
  | header hf => exact absurd hf.tag (by simp [chooseTag, headerRule])
  | choose whens last _ hc _ hl hw hwc ho hoc =>
    exact ⟨whens, last, hc, hl, fun w h => ⟨hw w h, hwc w h⟩, fun o h => ⟨ho o h, hoc o h⟩⟩

/-- What statements give stands where policies may stand. -/
theorem Gives.innerElement {ns : List Node} {rs : List String} (h : Gives env ns fs rs) :
    ∀ f ∈ fs, InnerElement f := by
  induction h with
  | nil => simp
  | cons _ _ ih ihs => exact List.forall_mem_append.2 ⟨ih, ihs⟩
  | policy hn hf => exact List.forall_mem_singleton.2 (policyElement_leaf hn hf).innerElement
  | block _ _ ih => exact ih
  | unknown _ he =>
    unfold unknownStatement at he
    split at he <;> cases he <;> simp
  | ifOnly hg _ _ ih => exact List.forall_mem_singleton.2 (branches_nil.innerElement hg.isCode ih)
  | ifElse hg _ _ _ _ ihs iht =>
    exact List.forall_mem_singleton.2 ((branches_otherwise iht).innerElement hg.isCode ihs)
  | ifElseIf hg _ _ _ _ ihs iht =>
    -- The rest of the chain is a choice of its own, whose branches come after the first one.
    have hbs := (List.forall_mem_singleton.1 iht).branches
    exact List.forall_mem_singleton.2 (hbs.innerElement hg.isCode ihs)

end

/-- Every document obeys the policy schema. Whatever the options, the sections of a document that the
standard compiler makes are section elements, down to the last value. -/
theorem compile_obeys_schema {o : Options} {d : Declaration} {doc : Document}
    (h : (PolicyCompiler.standard o).compile d = .ok doc) : ∀ f ∈ doc.sections, SectionElement f := by
  intro f hf
  obtain ⟨m, s, b, fs, -, -, -, hfs, rfl⟩ := PolicyCompiler.sectionOf_of_mem h hf
  refine ⟨⟨s.tag, ?_, .withChildren (Fragment.follows_empty _) fs⟩, (gives_of_compile hfs).innerElement⟩
  cases s <;> simp [Section.tag]

theorem compile_obeys_schema_branching :
    ∃ doc, (PolicyCompiler.standard {}).compile branchingDeclaration = .ok doc ∧
      ∀ f ∈ doc.sections, SectionElement f := by
  obtain ⟨doc, h⟩ := exists_of_isOk (x := PolicyCompiler.compile (.standard {}) branchingDeclaration)
    (by decide +kernel)
  exact ⟨doc, h, compile_obeys_schema h⟩

end GatewayPolicy
