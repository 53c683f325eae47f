import GatewayPolicy.Proofs.Element
import GatewayPolicy.Proofs.StatementTree
/-!
# What statements give

`Gives` sums up the compilation of statement lists by the standard registry when it
succeeds: the elements that a list adds and the errors it reports, case by case of its
statements. Results about compiled sections are inductions over `Gives`, so none of them
looks at the compiler again.
-/

namespace GatewayPolicy

/-! ## Branches and chains -/

/-- The element of an if chain with the given branches. -/
def chooseElement (bs : List Fragment) : Fragment := (Fragment.empty chooseTag).withChildren bs

/-- The branch of a condition. -/
def whenBranch (p : Snippet) (fs : List Fragment) : Fragment := (whenElement p).withChildren fs

/-- The branch after the last else. -/
def otherwiseBranch (fs : List Fragment) : Fragment := (Fragment.empty otherwiseTag).withChildren fs

@[simp] theorem chooseElement_tag (bs : List Fragment) : (chooseElement bs).tag = chooseTag := rfl
@[simp] theorem chooseElement_children (bs : List Fragment) : (chooseElement bs).children = bs := rfl
@[simp] theorem whenBranch_tag (p : Snippet) (fs : List Fragment) : (whenBranch p fs).tag = whenTag := rfl
@[simp] theorem whenBranch_children (p : Snippet) (fs : List Fragment) : (whenBranch p fs).children = fs := rfl
@[simp] theorem otherwiseBranch_tag (fs : List Fragment) : (otherwiseBranch fs).tag = otherwiseTag := rfl
@[simp] theorem otherwiseBranch_children (fs : List Fragment) : (otherwiseBranch fs).children = fs := rfl

@[simp] theorem whenBranch_condition (p : Snippet) (fs : List Fragment) :
    (whenBranch p fs).attribute? "condition" = some p.policyText := by
  simp [whenBranch, whenElement, Fragment.withChildren, Fragment.withAttribute, Fragment.attribute?]

section
variable {env : Environment} {r : Registry} {n : Node} {fs bs : List Fragment} {rs : List String}

theorem compileBranch_ok {parent : Fragment} :
    compileBranch env r parent n = ⟨fs, rs, none⟩ ↔
      n.kind = .block ∧
        ∃ gs, compileStatements env r n.statements = ⟨gs, rs, none⟩ ∧ fs = [parent.withChildren gs] := by
  rw [compileBranch_eq]
  split
  · next hk => simp [hk, Emission.wrap_ok]
  · next hk => simp [hk, Emission.fail_ok]

/-- An if statement whose condition reads as `p` and that governs the block `s`. -/
structure Guards (env : Environment) (n : Node) (p : Snippet) (s : Node) : Prop where
  kind : n.kind = .ifStatement
  condition : ∃ c, n.condition = some c ∧ extractPredicate env c = .ok p
  statement : n.statement = some s
  block : s.kind = .block

/-- A chain that compiles starts with a condition and its block; the rest of it compiles too. -/
theorem compileChain_ok (hn : n.kind = .ifStatement) (h : compileChain env r n.children = ⟨bs, rs, none⟩) :
    ∃ p s fs rs₁ bs₂ rs₂, Guards env n p s ∧ compileStatements env r s.statements = ⟨fs, rs₁, none⟩ ∧
      compileElse env r n.elseStatement = ⟨bs₂, rs₂, none⟩ ∧ bs = whenBranch p fs :: bs₂ ∧ rs = rs₁ ++ rs₂ := by
  rw [compileChain_eq env r hn] at h
  split at h
  · exact absurd h (Emission.fail_ok _)
  · exact absurd h (Emission.fail_ok _)
  · next c s hc hs =>
    split at h
    · exact absurd h (Emission.fail_ok _)
    · next p hp =>
      obtain ⟨bs₁, rs₁, bs₂, rs₂, hb, he, rfl, rfl⟩ := Emission.andThen_ok.1 h
      obtain ⟨hk, fs, hf, rfl⟩ := compileBranch_ok.1 hb
      exact ⟨p, s, fs, rs₁, bs₂, rs₂, ⟨hn, ⟨c, hc, hp⟩, hs, hk⟩, hf, he, rfl, rfl⟩

end

/-! ## Statements by their kinds -/

namespace Node

/-- Whether a node is a statement that no standard compiler takes. -/
def isUnknown (n : Node) : Bool := (Registry.standard.find? n.kind).isNone

end Node

section
variable (env : Environment) {n : Node}

theorem compileStatement_policy (hn : n.isPolicy) :
    compileStatement env .standard n = .ofElement (policyElement env n) := by
  rw [compileStatement_eq, find?_standard, policyElement]
  simp only [Node.isPolicy, Bool.or_eq_true, beq_iff_eq] at hn
  rcases hn with hn | hn <;> simp [hn]

theorem compileStatement_if (hn : n.kind = .ifStatement) :
    compileStatement env .standard n = (compileChain env .standard n.children).gather (.empty chooseTag) := by
  rw [compileStatement_eq, find?_standard, hn]

theorem compileStatement_block (hn : n.kind = .block) :
    compileStatement env .standard n = compileStatements env .standard n.statements := by
  rw [compileStatement_eq, find?_standard, hn, Node.statements, if_pos hn]

theorem compileStatement_unknown (hn : n.isUnknown) :
    compileStatement env .standard n = unknownStatement env.options n := by
  rw [Node.isUnknown, Option.isNone_iff_eq_none] at hn
  rw [compileStatement_eq, hn]

theorem Node.kind_cases (n : Node) : n.isPolicy ∨ n.kind = .ifStatement ∨ n.kind = .block ∨ n.isUnknown := by
  simp only [isPolicy, isUnknown, find?_standard]
  cases n.kind <;> simp

end

/-! ## The relation -/

/-- A statement list gives these elements and these reports. -/
inductive Gives (env : Environment) : List Node → List Fragment → List String → Prop
  | nil : Gives env [] [] []
  | cons {n ns fs gs rs qs} : Gives env [n] fs rs → Gives env ns gs qs → Gives env (n :: ns) (fs ++ gs) (rs ++ qs)
  | policy {n f} : n.isPolicy → policyElement env n = .ok f → Gives env [n] [f] []
  | block {n fs rs} : n.kind = .block → Gives env n.statements fs rs → Gives env [n] fs rs
  | unknown {n fs rs} : n.isUnknown → unknownStatement env.options n = ⟨fs, rs, none⟩ → Gives env [n] fs rs
  | ifOnly {n p s fs rs} : Guards env n p s → n.elseStatement = none → Gives env s.statements fs rs →
      Gives env [n] [chooseElement [whenBranch p fs]] rs
  | ifElse {n p s t fs rs gs qs} : Guards env n p s → n.elseStatement = some t → t.kind = .block →
      Gives env s.statements fs rs → Gives env t.statements gs qs →
      Gives env [n] [chooseElement [whenBranch p fs, otherwiseBranch gs]] (rs ++ qs)
  | ifElseIf {n p s t fs rs bs qs} : Guards env n p s → n.elseStatement = some t → t.kind = .ifStatement →
      Gives env s.statements fs rs → Gives env [t] [chooseElement bs] qs →
      Gives env [n] [chooseElement (whenBranch p fs :: bs)] (rs ++ qs)

/-- What a statement list compiles to without failure is what it gives. -/
theorem gives_of_compile {env : Environment} {ns : List Node} {fs : List Fragment} {rs : List String}
    (h : compileStatements env .standard ns = ⟨fs, rs, none⟩) : Gives env ns fs rs := by
  induction ns using Node.statements_induction generalizing fs rs with
  | nil =>
    rw [compileStatements_nil] at h
    cases h
    exact .nil
  | cons n ns ihn ihs iht ih =>
    rw [compileStatements_cons] at h
    obtain ⟨fs₁, rs₁, fs₂, rs₂, h₁, h₂, rfl, rfl⟩ := Emission.andThen_ok.1 h
    refine .cons ?_ (ih h₂)
    rcases n.kind_cases with hn | hn | hn | hn
    · rw [compileStatement_policy env hn] at h₁
      obtain ⟨f, hf, rfl, rfl⟩ := Emission.ofElement_ok.1 h₁
      exact .policy hn hf
    · rw [compileStatement_if env hn] at h₁
      obtain ⟨bs, hb, rfl⟩ := Emission.gather_ok.1 h₁
      obtain ⟨p, s, fs, rs₁, bs₂, rs₂, hg, hs, he, rfl, rfl⟩ := compileChain_ok hn hb
      have hs := ihs s hg.statement hs
      cases ht : n.elseStatement with
      | none =>
        rw [ht] at he
        cases he
        rw [List.append_nil]
        exact .ifOnly hg ht hs
      | some t =>
        rw [ht, compileElse] at he
        obtain ⟨iht₁, iht₂⟩ := iht t ht
        split at he
        · next hk =>
          refine .ifElseIf hg ht hk hs (iht₁ ?_)
          rw [compileStatements_singleton, compileStatement_if env hk]
          exact Emission.gather_ok.2 ⟨_, he, rfl⟩
        · obtain ⟨hk, gs, hgs, rfl⟩ := compileBranch_ok.1 he
          exact .ifElse hg ht hk hs (iht₂ hgs)
    · rw [compileStatement_block env hn] at h₁
      exact .block hn (ihn h₁)
    · rw [compileStatement_unknown env hn] at h₁
      exact .unknown hn h₁

end GatewayPolicy
