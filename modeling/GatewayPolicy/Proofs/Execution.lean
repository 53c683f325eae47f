import GatewayPolicy.Proofs.Gives
import GatewayPolicy.Proofs.Sections
/-!
# Compiled sections run like their bodies

A body runs as the host language does: its statements in order, a policy statement
emitting its element, an if asking an oracle about its condition. A section runs as the
gateway does: its elements in order, a `choose` through the branch that applies. The
two emit the same leaves, whatever the oracle answers.
-/

namespace GatewayPolicy

/-- Answers a condition, knowing the leaves that were emitted before. -/
abbrev Oracle := List Fragment → String → Bool

/-! ## The two runs -/

mutual

/-- Runs a statement that follows the leaves `ω`. There is no answer for a statement without a
meaning: one of another kind, or one whose parts do not read. -/
def runStatement (env : Environment) (ask : Oracle) (ω : List Fragment) (n : Node) : Option (List Fragment) :=
  match n.kind with
  | .block => runStatements env ask ω n.statements
  | .expressionStatement | .localDeclaration => (policyElement env n).toOption.map (ω ++ [·])
  | .ifStatement =>
    match n.condition.map (extractPredicate env), _hs : n.statement, _ht : n.elseStatement with
    | some (.ok p), some s, some t =>
      if ask ω p.policyText then runStatement env ask ω s else runStatement env ask ω t
    | some (.ok p), some s, none => if ask ω p.policyText then runStatement env ask ω s else some ω
    | _, _, _ => none
  | _ => none
termination_by sizeOf n
decreasing_by
  · exact n.sizeOf_statements
  all_goals
    have h₁ := n.sizeOf_statement
    have h₂ := n.sizeOf_elseStatement
    simp only [_hs, _ht, Option.toList_some, List.cons.sizeOf_spec] at h₁ h₂
    omega

/-- Runs a statement list that follows the leaves `ω`. -/
def runStatements (env : Environment) (ask : Oracle) (ω : List Fragment) : List Node → Option (List Fragment)
  | [] => some ω
  | n :: ns => (runStatement env ask ω n).bind (runStatements env ask · ns)
termination_by ns => sizeOf ns
decreasing_by
  all_goals simp only [List.cons.sizeOf_spec]; omega

end

/-- The branch of a `choose` that applies: the first `when` with an accepted condition, else the
`otherwise`. -/
def applying (accepts : String → Bool) (bs : List Fragment) : Option Fragment :=
  (bs.find? fun b => b.tag == whenTag && (b.attribute? "condition").any accepts).or
    (bs.find? fun b => b.tag == otherwiseTag)

/-- The elements of the branch that applies, none if no branch does. -/
def applyingElements (accepts : String → Bool) (bs : List Fragment) : List Fragment :=
  (applying accepts bs).elim [] Fragment.children

theorem sizeOf_applyingElements (accepts : String → Bool) (f : Fragment) :
    sizeOf (applyingElements accepts f.children) < sizeOf f := by
  have hf : sizeOf f.children + 1 < sizeOf f := by
    obtain ⟨t, as, x, cs⟩ := f
    have ht : 1 ≤ sizeOf t := by cases t; simp
    simp only [Fragment.mk.sizeOf_spec]
    omega
  unfold applyingElements
  cases h : applying accepts f.children with
  | none => simp only [Option.elim_none, List.nil.sizeOf_spec]; omega
  | some b =>
    have hm : b ∈ f.children := by
      rcases Option.or_eq_some_iff.1 h with h | ⟨-, h⟩ <;> exact List.mem_of_find?_eq_some h
    have hb := List.sizeOf_lt_of_mem hm
    cases b
    simp only [Option.elim_some, Fragment.mk.sizeOf_spec] at hb ⊢
    omega

/-- Runs elements that follow the leaves `ω`. -/
def runFragments (ask : Oracle) (ω : List Fragment) : List Fragment → List Fragment
  | [] => ω
  | f :: fs =>
    let ω := if f.tag = chooseTag then runFragments ask ω (applyingElements (ask ω) f.children) else ω ++ [f]
    runFragments ask ω fs
termination_by fs => sizeOf fs
decreasing_by
  all_goals simp only [List.cons.sizeOf_spec]
  · have h := sizeOf_applyingElements (ask ω) f; omega
  · omega

/-! ## Running statements -/

section
variable (env : Environment) (ask : Oracle) (ω : List Fragment)

@[simp] theorem runStatements_nil : runStatements env ask ω [] = some ω := by
  rw [runStatements]

theorem runStatements_cons (n : Node) (ns : List Node) :
    runStatements env ask ω (n :: ns) = (runStatement env ask ω n).bind (runStatements env ask · ns) := by
  rw [runStatements]

theorem runStatements_singleton (n : Node) : runStatements env ask ω [n] = runStatement env ask ω n := by
  rw [runStatements_cons]
  simp

variable {n : Node}

theorem runStatement_policy (hn : n.isPolicy) {f : Fragment} (hf : policyElement env n = .ok f) :
    runStatement env ask ω n = some (ω ++ [f]) := by
  simp only [Node.isPolicy, Bool.or_eq_true, beq_iff_eq] at hn
  rw [runStatement]
  rcases hn with hn | hn <;> simp [hn, hf, Except.toOption]

theorem runStatement_block (hn : n.kind = .block) :
    runStatement env ask ω n = runStatements env ask ω n.statements := by
  rw [runStatement]
  simp [hn]

theorem runStatement_if {p : Snippet} {s : Node} (hg : Guards env n p s) :
    runStatement env ask ω n =
      if ask ω p.policyText then runStatements env ask ω s.statements
      else runStatements env ask ω n.elseStatement.toList := by
  obtain ⟨c, hc, hp⟩ := hg.condition
  rw [runStatement, ← runStatement_block env ask ω hg.block]
  simp only [hg.kind, hc, Option.map_some, hp]
  split
  · next hp hs ht =>
    cases hp
    cases hs.symm.trans hg.statement
    rw [ht, Option.toList_some, runStatements_singleton]
  · next hp hs ht =>
    cases hp
    cases hs.symm.trans hg.statement
    rw [ht, Option.toList_none, runStatements_nil]
  · next h₁ h₂ =>
    cases ht : n.elseStatement with
    | none => exact absurd ht (h₂ p s rfl hg.statement)
    | some t => exact absurd ht (h₁ p s t rfl hg.statement)

end

/-! ## Running elements -/

section
variable (ask : Oracle) (ω : List Fragment)

@[simp] theorem runFragments_nil : runFragments ask ω [] = ω := by
  rw [runFragments]

theorem runFragments_append (fs gs : List Fragment) :
    runFragments ask ω (fs ++ gs) = runFragments ask (runFragments ask ω fs) gs := by
  induction fs generalizing ω with
  | nil => simp
  | cons f fs ih => rw [List.cons_append, runFragments, ih, ← runFragments]

theorem runFragments_leaf {f : Fragment} (hf : f.IsLeaf) : runFragments ask ω [f] = ω ++ [f] := by
  have ht : f.tag ≠ chooseTag := fun h => hf.tag_not_mem (by simp [h])
  rw [runFragments]
  simp [ht]

theorem runFragments_choose (bs : List Fragment) :
    runFragments ask ω [chooseElement bs] = runFragments ask ω (applyingElements (ask ω) bs) := by
  rw [runFragments]
  simp

/-- A `when` in front of the other branches applies if its condition is accepted, and is passed
over otherwise. -/
theorem runFragments_when (p : Snippet) (fs bs : List Fragment) :
    runFragments ask ω [chooseElement (whenBranch p fs :: bs)] =
      if ask ω p.policyText then runFragments ask ω fs else runFragments ask ω [chooseElement bs] := by
  have ht : (whenTag == otherwiseTag) = false := by decide
  rw [runFragments_choose, runFragments_choose]
  by_cases h : ask ω p.policyText <;> simp [applyingElements, applying, h, ht]

theorem runFragments_otherwise (gs : List Fragment) :
    runFragments ask ω [chooseElement [otherwiseBranch gs]] = runFragments ask ω gs := by
  have ht : (otherwiseTag == whenTag) = false := by decide
  rw [runFragments_choose]
  simp [applyingElements, applying, ht]

end

/-! ## The two runs agree -/

/-- Statements that give elements without reports run as these elements do. -/
theorem runStatements_of_gives {env : Environment} {ns : List Node} {fs : List Fragment} {rs : List String}
    (ask : Oracle) (henv : env.options.unknownStatements = .report) (h : Gives env ns fs rs) (hrs : rs = [])
    (ω : List Fragment) : runStatements env ask ω ns = some (runFragments ask ω fs) := by
  induction h generalizing ω with
  | nil => simp
  | cons _ _ ihn ihns =>
    obtain ⟨h₁, h₂⟩ := List.append_eq_nil_iff.1 hrs
    rw [runStatements_cons, ← runStatements_singleton, ihn h₁, Option.bind_some, ihns h₂, runFragments_append]
  | policy hn hf =>
    have hl := policyElement_isLeaf hn hf
    rw [runStatements_singleton, runStatement_policy env ask ω hn hf, runFragments_leaf ask ω hl]
  | block hn _ ih => rw [runStatements_singleton, runStatement_block env ask ω hn, ih hrs]
  | unknown hn hu =>
    -- An unknown statement would have been reported.
    subst hrs
    simp [unknownStatement, henv, Emission.report] at hu
  | ifOnly hg he _ ih =>
    rw [runStatements_singleton, runStatement_if env ask ω hg, ih hrs, he, runFragments_when, runFragments_choose]
    simp only [Option.toList_none, runStatements_nil, applyingElements, applying]
    split <;> simp
  | ifElse hg he hk _ _ ihs iht =>
    obtain ⟨h₁, h₂⟩ := List.append_eq_nil_iff.1 hrs
    rw [runStatements_singleton, runStatement_if env ask ω hg, ihs h₁, he, runFragments_when, runFragments_otherwise,
      Option.toList_some, runStatements_singleton, runStatement_block env ask ω hk, iht h₂]
    split <;> rfl
  | ifElseIf hg he _ _ _ ihs iht =>
    obtain ⟨h₁, h₂⟩ := List.append_eq_nil_iff.1 hrs
    rw [runStatements_singleton, runStatement_if env ask ω hg, ihs h₁, he, runFragments_when, Option.toList_some,
      iht h₂]
    split <;> rfl

/-- The body of a section method emits what the elements of its section emit, after any leaves. -/
def RunsAlike (env : Environment) (ask : Oracle) (m : Method) (f : Fragment) : Prop :=
  ∃ s b, Section.ofMethodName? m.name = some s ∧ f.tag = s.tag ∧ m.body = some b ∧
    ∀ ω, runStatement env ask ω b = some (runFragments ask ω f.children)

/-- Compilation preserves execution. When a declaration compiles with reports, the bodies of its
section methods run like the sections of the document, whatever the oracle answers. -/
theorem compile_preserves_execution (o : Options) (d : Declaration) (doc : Document)
    (h : (PolicyCompiler.standard { o with unknownStatements := .report }).compile d = .ok doc) (ask : Oracle) :
    List.Forall₂ (RunsAlike ⟨.ofDeclaration d, { o with unknownStatements := .report }⟩ ask)
      d.sectionMethods doc.sections := by
  refine (PolicyCompiler.compile_ok h).imp ?_
  rintro m f ⟨s, b, fs, hm, hb, hk, hfs, rfl⟩
  refine ⟨s, b, hm, rfl, hb, fun ω => ?_⟩
  rw [runStatement_block _ ask ω hk]
  exact runStatements_of_gives ask rfl (gives_of_compile hfs) rfl ω

theorem compile_preserves_execution_branching :
    ∃ doc, (PolicyCompiler.standard { unknownStatements := .report }).compile branchingDeclaration = .ok doc ∧
      ∀ ask, List.Forall₂ (RunsAlike ⟨.ofDeclaration branchingDeclaration, { unknownStatements := .report }⟩ ask)
        branchingDeclaration.sectionMethods doc.sections := by
  obtain ⟨doc, h⟩ := exists_of_isOk (x := PolicyCompiler.compile (.standard { unknownStatements := .report })
    branchingDeclaration) (by decide +kernel)
  exact ⟨doc, h, compile_preserves_execution {} branchingDeclaration doc h⟩

end GatewayPolicy
