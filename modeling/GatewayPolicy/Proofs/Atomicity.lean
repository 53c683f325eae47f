import GatewayPolicy.Proofs.Chains
/-!
# One statement, one element

A policy statement and an if chain add one element to their scope when they compile, and none
when they fail, however late they do. A nested block runs its statements one after the other,
each in the scope that the one before it left. Whatever a scope held stays in it.
-/

namespace GatewayPolicy

/-! ## Emissions of one statement -/

namespace Emission

/-- One element without a failure, or a failure without an element. -/
def IsAtomic (e : Emission) : Prop :=
  match e.failure with
  | none => ∃ f, e.fragments = [f]
  | some _ => e.fragments = []

theorem isAtomic_fail (c : Cause) : (fail c).IsAtomic := rfl

theorem isAtomic_ofElement (x : Except Cause Fragment) : (ofElement x).IsAtomic := by
  cases x with
  | error c => exact isAtomic_fail c
  | ok f => exact ⟨f, rfl⟩

/-- The branches of a chain end up in one element, or are dropped with the chain. -/
theorem isAtomic_gather (parent : Fragment) (e : Emission) : (e.gather parent).IsAtomic := by
  obtain ⟨fs, rs, c⟩ := e
  cases c with
  | none => exact ⟨parent.withChildren fs, rfl⟩
  | some c => exact (rfl : (⟨[], rs, some c⟩ : Emission).fragments = [])

end Emission

section
variable {env : Environment} {r : Registry} {n : Node} {c : StatementCompiler}

theorem StatementCompiler.compile_isAtomic (hc : c ≠ .nestedBlocks) : (c.compile env r n).IsAtomic := by
  cases c with
  | calls policies => exact Emission.isAtomic_ofElement _
  | bindings policies => exact Emission.isAtomic_ofElement _
  | branches =>
    rw [compile]
    split
    · exact Emission.isAtomic_gather _ _
    · exact Emission.isAtomic_fail _
  | nestedBlocks => exact absurd rfl hc

/-- A statement of a block goes to the compiler that is registered for its kind. -/
theorem compileStatement_registered (h : r.find? n.kind = some c) :
    compileStatement env r n = c.compile env r n := by
  have hk : c.kind = n.kind := kind_of_find? r h
  rw [compileStatement_eq, h]
  cases c with
  | calls policies => rfl
  | bindings policies => rfl
  | branches => exact (if_pos hk.symm).symm
  | nestedBlocks => exact (if_pos hk.symm).symm

end

namespace Scope

/-! ## Scopes grow -/

/-- A scope of the same place with all that `s` holds, and what was added behind it. -/
structure Extends (s t : Scope) : Prop where
  place : t.place = s.place
  env : t.env = s.env
  fragments : s.fragments <+: t.fragments
  errors : s.errors <+: t.errors

theorem run_extends (s : Scope) (e : Emission) : s.Extends (s.run e).1 :=
  ⟨rfl, rfl, List.prefix_append _ _, List.prefix_append _ _⟩

/-! ## Statements in a scope -/

section
variable {s : Scope}

theorem run_ofElement (x : Except Cause Fragment) :
    s.run (.ofElement x) =
      match x with
      | .ok f => (s.add f, .ok ())
      | .error c => (s, .error (s.error c)) := by
  cases x <;> simp [run, extend, add, Emission.ofElement, Emission.fail]

/-- An emission after another runs in the scope that the first one left. -/
theorem run_andThen_eq (a b : Emission) :
    s.run (a.andThen b) =
      match s.run a with
      | (t, .ok ()) => t.run b
      | (t, .error e) => (t, .error e) := by
  obtain ⟨fs, rs, c⟩ := a
  cases c with
  | some c => rfl
  | none => simp [run, extend, error, Emission.andThen]

theorem run_isAtomic {e : Emission} (h : e.IsAtomic) :
    ((s.run e).2 = .ok () → ∃ f, (s.run e).1.fragments = s.fragments ++ [f]) ∧
      ((s.run e).2 ≠ .ok () → (s.run e).1.fragments = s.fragments) := by
  obtain ⟨fs, rs, c⟩ := e
  cases c with
  | none =>
    obtain ⟨f, rfl⟩ := h
    exact ⟨fun _ => ⟨f, rfl⟩, fun hne => absurd rfl hne⟩
  | some c =>
    obtain rfl : fs = [] := h
    refine ⟨fun hok => ?_, fun _ => List.append_nil _⟩
    cases hok

end

/-- Runs statements one after the other, each in the scope that the one before it left, up to the
first that fails. -/
def runStatements (r : Registry) (s : Scope) : List Node → Scope × Except CompileError Unit
  | [] => (s, .ok ())
  | n :: ns =>
    match s.run (compileStatement s.env r n) with
    | (t, .ok ()) => t.runStatements r ns
    | (t, .error e) => (t, .error e)

/-- A statement list compiles statement by statement. -/
theorem run_compileStatements (s : Scope) (r : Registry) (ns : List Node) :
    s.run (compileStatements s.env r ns) = s.runStatements r ns := by
  induction ns generalizing s with
  | nil => simp [run, extend, runStatements]
  | cons n ns ih =>
    rw [compileStatements_cons, run_andThen_eq, runStatements]
    rcases h : s.run (compileStatement s.env r n) with ⟨t, o⟩
    have ht : t.env = s.env := by simpa [h] using (s.run_extends (compileStatement s.env r n)).env
    cases o with
    | error e => rfl
    | ok u => rw [← ht]; exact ih t

/-- What a statement compiler makes of a scope. -/
structure StatementResult (s : Scope) (r : Registry) (c : StatementCompiler) (n : Node)
    (result : Scope × Except CompileError Unit) : Prop where
  one : c ≠ .nestedBlocks → result.2 = .ok () → ∃ f, result.1.fragments = s.fragments ++ [f]
  nothing : c ≠ .nestedBlocks → result.2 ≠ .ok () → result.1.fragments = s.fragments
  block : c = .nestedBlocks → n.kind = .block → result = s.runStatements r n.statements
  kept : s.Extends result.1

/-- A statement adds one element to its scope or, if it fails, none; only a nested block may add
several, or some before it fails. All that the scope held stays in front. The same goes for a
statement that a block hands to the compiler registered for its kind. -/
theorem statement_adds_one_or_nothing (s : Scope) (r : Registry) (c : StatementCompiler) (n : Node) :
    s.StatementResult r c n (s.run (c.compile s.env r n)) ∧
      (r.find? n.kind = some c → s.StatementResult r c n (s.run (compileStatement s.env r n))) := by
  have h : s.StatementResult r c n (s.run (c.compile s.env r n)) := by
    refine ⟨fun hc => ?_, fun hc => ?_, fun hc hn => ?_, s.run_extends _⟩
    · exact (run_isAtomic (StatementCompiler.compile_isAtomic hc)).1
    · exact (run_isAtomic (StatementCompiler.compile_isAtomic hc)).2
    · subst hc
      rw [StatementCompiler.compile, compileBlock_eq, if_pos hn, run_compileStatements]
  refine ⟨h, fun hr => ?_⟩
  rw [compileStatement_registered hr]
  exact h

end Scope

/-- A chain whose second branch has an argument that is no snippet. The first branch compiles, with a
statement that is reported. -/
def lateFailure : Node :=
  let call := fun policy argument => Node.expressionStatement (.methodCall "context" policy [argument])
  .ifElse (.anonymousFunction "context => context.Fresh")
    (.block [.returnStatement (.identifier "x"), call "SetBody" (.stringLiteral "fresh")])
    (.ifStatement (.anonymousFunction "context => context.Member") (.block [call "SetBody" (.identifier "x")]))

theorem statement_adds_one_or_nothing_late :
    let result := startedScope.run (compileStatement startedScope.env .standard lateFailure)
    Registry.standard.find? lateFailure.kind = some .branches ∧ result.2 ≠ .ok () ∧
      result.1.errors = ["unsupported", "unsupported return statement `return x;`"] ∧
      result.1.fragments = [basePolicy] := by
  intro result
  have hf : (compileStatement startedScope.env .standard lateFailure).failure ≠ none := by decide +kernel
  have hr : result.2 ≠ .ok () := fun hok => hf (Scope.run_ok.1 hok)
  have h := (Scope.statement_adds_one_or_nothing startedScope .standard .branches lateFailure).2 rfl
  exact ⟨rfl, hr, by decide +kernel, h.nothing (by decide) hr⟩

end GatewayPolicy
