import GatewayPolicy.Proofs.HelperCalls
/-!
# The first failure

The methods of a declaration compile in order, and the first that fails ends the
compilation. Its error names that method and the tag of its section, whatever went wrong
inside, and nothing that later sections hold can change it.
-/

namespace GatewayPolicy

/-! ## Later bodies -/

/-- A method that returns nothing gets another body, or the method stays as it is. -/
inductive Rebodied : Method → Method → Prop
  | same (m : Method) : Rebodied m m
  | void (m : Method) (b x : Option Node) : m.isVoid → Rebodied m { m with body := b, expressionBody := x }

theorem Rebodied.name_eq {m m' : Method} (h : Rebodied m m') : m'.name = m.name := by
  cases h <;> rfl

/-- No helper call can tell which body a method has that returns nothing. -/
theorem Rebodied.sameHelper {ms ms' : List Method} (h : List.Forall₂ Rebodied ms ms') (name : String) :
    SameHelper (ms.find? fun m => m.name == name) (ms'.find? fun m => m.name == name) := by
  induction h with
  | nil => exact .inl rfl
  | @cons m m' ms ms' hm _ ih =>
    by_cases hn : m.name = name
    · rw [List.find?_cons_of_pos (by simpa using hn), List.find?_cons_of_pos (by simpa [hm.name_eq] using hn)]
      cases hm with
      | same => exact .inl rfl
      | void b x hv => exact .inr ⟨_, _, rfl, rfl, hv, hv⟩
    · rw [List.find?_cons_of_neg (by simpa using hn), List.find?_cons_of_neg (by simpa [hm.name_eq] using hn)]
      exact ih

namespace PolicyCompiler

section
variable {env : Environment} {r : Registry} {m : Method} {e : CompileError}

/-! ## Methods that pass -/

/-- A method that lets the compilation go on: a helper, or a section that compiles. -/
inductive Passes (env : Environment) (r : Registry) (m : Method) : Prop
  | helper : m.isHelper → Passes env r m
  | section (s : Section) (f : Fragment) : m.isVoid → Section.ofMethodName? m.name = some s →
      compileSection env r s m = .ok f → Passes env r m

theorem Passes.of_ok {o : Option Fragment} (h : compileMethod env r m = .ok o) : Passes env r m := by
  unfold compileMethod at h
  split at h
  · next hv hs => exact .helper (by simp [Method.isHelper, Method.isSection, hv, hs])
  · cases h
  · cases h
  · next s hv hs =>
    rw [mapError_eq_ok] at h
    cases hc : compileSection env r s m with
    | error c => rw [hc] at h; cases h
    | ok f => exact .section s f hv hs hc

/-! ## Methods that fail -/

/-- The errors of a method: it fails in its section, or it would have to be a section and has the
name of none. -/
inductive ErrorOf (m : Method) : CompileError → Prop
  | inSection (s : Section) (c : Cause) : Section.ofMethodName? m.name = some s → ErrorOf m (.inSection s c)
  | noSection : Section.ofMethodName? m.name = none → ErrorOf m (.unsupportedSection m.name)

theorem compileMethod_error (h : compileMethod env r m = .error e) : ErrorOf m e := by
  unfold compileMethod at h
  split at h
  · cases h
  · next s hv hs =>
    cases h
    exact .inSection s _ hs
  · next hv hs =>
    cases h
    exact .noSection hs
  · next s hv hs =>
    obtain ⟨c, -, rfl⟩ := mapError_eq_error.1 h
    exact .inSection s c hs

theorem ErrorOf.method? (h : ErrorOf m e) : e.method? = some m.name := by
  cases h with
  | inSection s c hs => rw [CompileError.method?, Section.methodName_of_ofMethodName? hs]
  | noSection => rfl

theorem ErrorOf.section? (h : ErrorOf m e) : e.section? = (Section.ofMethodName? m.name).map Section.tag := by
  cases h with
  | inSection s c hs => rw [hs]; rfl
  | noSection hs => rw [hs]; rfl

theorem ErrorOf.unsupported (h : ErrorOf m e) (hm : m.isSection = false) : e = .unsupportedSection m.name := by
  cases h with
  | inSection s c hs => simp [Method.isSection, hs] at hm
  | noSection => rfl

end

/-! ## Declarations -/

variable {c : PolicyCompiler} {d : Declaration} {e : CompileError}

theorem compile_error : c.compile d = .error e ↔ compileMethods (c.environment d) c.registry d.methods = .error e := by
  rw [compile, bind_error]
  constructor
  · rintro (h | ⟨fs, -, h⟩)
    · exact h
    · cases h
  · exact .inl

/-- Other bodies of later methods change nothing in the methods before them. -/
theorem compileMethod_rebodied {r : Registry} {d d' : Declaration} (h : List.Forall₂ Rebodied d.methods d'.methods)
    (m : Method) : compileMethod (c.environment d) r m = compileMethod (c.environment d') r m := by
  refine compileMethod_congr fun b _ => ⟨rfl, fun called _ => ?_⟩
  rw [environment_get?, environment_get?]
  exact Rebodied.sameHelper h called

/-- The error of a compilation belongs to the first method that fails: the methods before it are
helpers or compile into their sections; the error names the method and the tag of its section,
which is missing only if the method has no section's name. Other bodies of later methods leave
the error as it is. -/
theorem compile_reports_first_failure (h : c.compile d = .error e) :
    ∃ before m after, d.methods = before ++ m :: after ∧
      (∀ x ∈ before, Passes (c.environment d) c.registry x) ∧
      compileMethod (c.environment d) c.registry m = .error e ∧
      e.method? = some m.name ∧ e.section? = (Section.ofMethodName? m.name).map Section.tag ∧
      (e.section? = none ↔ m.isSection = false) ∧ (m.isSection = false → e = .unsupportedSection m.name) ∧
      (∀ l, e ≠ .load l) ∧ e ≠ .options ∧
      ∀ after', List.Forall₂ Rebodied after after' → c.compile ⟨d.name, before ++ m :: after'⟩ = .error e := by
  obtain ⟨name, ms⟩ := d
  obtain ⟨before, m, after, rfl, hb, hm⟩ := compileMethods_error_iff.1 (compile_error.1 h)
  have he := compileMethod_error hm
  refine ⟨before, m, after, rfl, fun x hx => ?_, hm, he.method?, he.section?, ?_, he.unsupported, ?_, ?_, ?_⟩
  · obtain ⟨o, ho⟩ := hb x hx
    exact .of_ok ho
  · rw [he.section?, Option.map_eq_none_iff, Method.isSection, Option.isSome_eq_false_iff, Option.isNone_iff_eq_none]
  · rintro l rfl
    cases he
  · rintro rfl
    cases he
  · -- The methods up to the failing one stay as they are, and each compiles as before.
    intro after' ha
    have hall : List.Forall₂ Rebodied (before ++ m :: after) (before ++ m :: after') :=
      List.rel_append (List.forall₂_same.2 fun x _ => .same x) (.cons (.same m) ha)
    have hsame : ∀ x, compileMethod (c.environment ⟨name, before ++ m :: after⟩) c.registry x =
        compileMethod (c.environment ⟨name, before ++ m :: after'⟩) c.registry x := compileMethod_rebodied hall
    refine compile_error.2 (compileMethods_error_iff.2 ⟨before, m, after', rfl, fun x hx => ?_, ?_⟩)
    · obtain ⟨o, ho⟩ := hb x hx
      exact ⟨o, (hsame x).symm.trans ho⟩
    · exact (hsame m).symm.trans hm

/-- A declaration with two sections that have one tag, the second of which calls a helper that is
missing from a branch inside a branch; a later section has no block. -/
def failingDeclaration : Declaration :=
  let call := Node.methodCall "context"
  let isGet := Node.invocation (.identifier "IsGet") []
  let put := Node.block [.expressionStatement (call "SetBody" [.invocation (.identifier "Put") []])]
  ⟨"Api", [.expressionBodied "IsGet" "bool" (.identifier "isGet"),
    .forSection "Inbound" (.block [.expressionStatement (call "Base" [])]),
    .forSection "Backend" (.block [.ifElse isGet (.block []) (.ifElse isGet put put)]),
    .forSection "Outbound" (.identifier "none")]⟩

theorem compile_reports_first_failure_backend :
    compile (standard {}) failingDeclaration = .error (.inSection .backend (.lookup "Put")) ∧
      ∃ before m after, failingDeclaration.methods = before ++ m :: after ∧ m.name = "Backend" ∧
        ∀ after', List.Forall₂ Rebodied after after' →
          compile (standard {}) ⟨"Api", before ++ m :: after'⟩ = .error (.inSection .backend (.lookup "Put")) := by
  have h : compile (standard {}) failingDeclaration = .error (.inSection .backend (.lookup "Put")) := rfl
  obtain ⟨before, m, after, hd, -, -, hm, -, -, -, -, -, ha⟩ := compile_reports_first_failure h
  exact ⟨h, before, m, after, hd, (Option.some.inj hm).symm, ha⟩

end PolicyCompiler

end GatewayPolicy
