import GatewayPolicy.Compile.Policy
import GatewayPolicy.Proofs.Outcome
import GatewayPolicy.Proofs.StatementTree
import GatewayPolicy.Source.Text
import Mathlib.Data.List.Forall2
/-!
# Sections of a document

The sections of a compiled document stand for the section methods of the declaration,
one for one and in order.
-/

namespace GatewayPolicy

/-- Whether the name of a method is that of a section. -/
def Method.isSection (m : Method) : Bool := (Section.ofMethodName? m.name).isSome

/-- The section methods of a declaration, in order. -/
def Declaration.sectionMethods (d : Declaration) : List Method := d.methods.filter Method.isSection

/-- A section method and its element: the body is a block that compiles without failure and
without reports, and its elements are the children. -/
def SectionOf (env : Environment) (r : Registry) (m : Method) (f : Fragment) : Prop :=
  ∃ s b fs, Section.ofMethodName? m.name = some s ∧ m.body = some b ∧ b.kind = .block ∧
    compileStatements env r b.statements = ⟨fs, [], none⟩ ∧ f = (Fragment.empty s.tag).withChildren fs

namespace PolicyCompiler

variable {env : Environment} {r : Registry} {m : Method}

theorem environment_get? (c : PolicyCompiler) (d : Declaration) (name : String) :
    (c.environment d).methods.get? name = d.method? name := MethodTable.get?_ofDeclaration d name

theorem sealSection_ok {s : Section} {e : Emission} {f : Fragment} :
    sealSection s e = .ok f ↔ ∃ fs, e = ⟨fs, [], none⟩ ∧ f = (Fragment.empty s.tag).withChildren fs := by
  obtain ⟨fs, rs, c⟩ := e
  cases c with
  | some c => simp [sealSection]
  | none => cases rs <;> simp [sealSection, eq_comm]

theorem compileSection_eq {s : Section} {b : Node} (hb : m.body = some b) :
    compileSection env r s m = sealSection s (compileBlock env r b) := by
  rw [compileSection, hb]

theorem compileSection_ok {s : Section} {f : Fragment} (hm : Section.ofMethodName? m.name = some s)
    (h : compileSection env r s m = .ok f) : SectionOf env r m f := by
  cases hb : m.body with
  | none =>
    rw [compileSection, hb] at h
    cases h
  | some b =>
    rw [compileSection_eq hb] at h
    obtain ⟨fs, he, rfl⟩ := sealSection_ok.1 h
    rw [compileBlock_eq] at he
    split at he
    · next hk => exact ⟨s, b, fs, hm, hb, hk, he, rfl⟩
    · exact absurd he (Emission.fail_ok _)

/-- A method adds its section to the document if it is a section method, and nothing otherwise. -/
theorem compileMethod_ok {o : Option Fragment} (h : compileMethod env r m = .ok o) :
    (m.isSection = false ∧ o = none) ∨ (m.isSection = true ∧ ∃ f, o = some f ∧ SectionOf env r m f) := by
  unfold compileMethod at h
  split at h
  · next hs => cases h; exact .inl ⟨by simp [Method.isSection, hs], rfl⟩
  · cases h
  · cases h
  · next s _ hs =>
    rw [mapError_eq_ok] at h
    cases hc : compileSection env r s m with
    | error e => rw [hc] at h; cases h
    | ok f =>
      rw [hc] at h
      cases h
      exact .inr ⟨by simp [Method.isSection, hs], f, rfl, compileSection_ok hs hc⟩

theorem compileMethods_ok {ms : List Method} {fs : List Fragment} (h : compileMethods env r ms = .ok fs) :
    List.Forall₂ (SectionOf env r) (ms.filter Method.isSection) fs := by
  induction ms generalizing fs with
  | nil => cases h; exact .nil
  | cons m ms ih =>
    rw [compileMethods, bind_ok] at h
    obtain ⟨o, ho, h⟩ := h
    obtain ⟨gs, hgs, h⟩ := bind_ok.1 h
    cases h
    rcases compileMethod_ok ho with ⟨hm, rfl⟩ | ⟨hm, f, rfl, hf⟩
    · rw [List.filter_cons_of_neg (by simp [hm])]
      exact ih hgs
    · rw [List.filter_cons_of_pos hm]
      exact .cons hf (ih hgs)

/-- Compiling fails at the first method that fails. -/
theorem compileMethods_error_iff {ms : List Method} {e : CompileError} :
    compileMethods env r ms = .error e ↔
      ∃ before m after, ms = before ++ m :: after ∧ (∀ x ∈ before, ∃ o, compileMethod env r x = .ok o) ∧
        compileMethod env r m = .error e := by
  induction ms with
  | nil => simp [compileMethods]
  | cons n ms ih =>
    rw [compileMethods, bind_error]
    constructor
    · rintro (h | ⟨o, ho, h⟩)
      · exact ⟨[], n, ms, rfl, by simp, h⟩
      · rcases bind_error.1 h with h | ⟨fs, -, h⟩
        · obtain ⟨before, m, after, rfl, hb, hm⟩ := ih.1 h
          exact ⟨n :: before, m, after, rfl, List.forall_mem_cons.2 ⟨⟨o, ho⟩, hb⟩, hm⟩
        · cases h
    · rintro ⟨_ | ⟨x, before⟩, m, after, hms, hb, hm⟩
      · cases hms
        exact .inl hm
      · cases hms
        obtain ⟨⟨o, ho⟩, hb⟩ := List.forall_mem_cons.1 hb
        exact .inr ⟨o, ho, bind_error.2 (.inl (ih.2 ⟨before, m, after, rfl, hb, hm⟩))⟩

/-- The sections of a compiled document, method by method. -/
theorem compile_ok {c : PolicyCompiler} {d : Declaration} {doc : Document} (h : c.compile d = .ok doc) :
    List.Forall₂ (SectionOf (c.environment d) c.registry) d.sectionMethods doc.sections := by
  rw [compile, bind_ok] at h
  obtain ⟨fs, hfs, h⟩ := h
  cases h
  exact compileMethods_ok hfs

/-- Every section of a compiled document stands for a method. -/
theorem sectionOf_of_mem {c : PolicyCompiler} {d : Declaration} {doc : Document} {f : Fragment}
    (h : c.compile d = .ok doc) (hf : f ∈ doc.sections) : ∃ m, SectionOf (c.environment d) c.registry m f := by
  have hall := compile_ok h
  generalize d.sectionMethods = ms, doc.sections = fs at hall hf
  induction hall with
  | nil => cases hf
  | @cons m g _ _ hm _ ih =>
    rcases List.mem_cons.1 hf with rfl | hf
    · exact ⟨m, hm⟩
    · exact ih hf

end PolicyCompiler

/-- A declaration with a helper, a chain of three branches and a nested block. -/
def branchingDeclaration : Declaration :=
  let call := Node.methodCall "context"
  let deny := Node.block [.expressionStatement (call "RemoveHeader" [.stringLiteral "X-Trace"])]
  let bind := Node.localDeclaration "token" (call "AuthenticationManagedIdentity" [.stringLiteral "api"])
  let chain :=
    Node.ifElse (.anonymousFunction "context => context.Fresh")
      (.block [.expressionStatement (call "SetBody" [.interpolatedString [.interpolatedText "none"]])])
      (.ifElse (.invocation (.identifier "IsGet") []) (.block [.block [bind]]) deny)
  ⟨"Api", [.expressionBodied "IsGet" "bool" (.identifier "isGet"),
    .forSection "Inbound" (.block [.expressionStatement (call "Base" []), chain])]⟩

end GatewayPolicy
