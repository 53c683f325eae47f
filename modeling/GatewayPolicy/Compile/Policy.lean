import GatewayPolicy.Compile.Scope
import GatewayPolicy.Policy.Document
/-!
# Compilation of declarations

Every method that returns nothing is a section; the sections make up the document in
the order of the methods. A method that returns a value is a helper and gives nothing
of its own. The first failure ends the compilation.
-/

namespace GatewayPolicy

/-- A compiler of declarations. -/
structure PolicyCompiler where
  options : Options
  registry : Registry

namespace PolicyCompiler

/-- A compiler with all statement compilers. -/
def standard (o : Options) : PolicyCompiler := ⟨o, .standard⟩

/-- What the sections of a declaration depend on besides their own bodies. -/
def environment (c : PolicyCompiler) (d : Declaration) : Environment := ⟨.ofDeclaration d, c.options⟩

/-- The element of a section whose body gave an emission. -/
def sealSection (s : Section) (e : Emission) : Except Cause Fragment :=
  match e.failure with
  | some c => .error c
  | none =>
    if e.reports.isEmpty then .ok ((Fragment.empty s.tag).withChildren e.fragments)
    else .error (.reported e.reports)

/-- The element of a section method. -/
def compileSection (env : Environment) (r : Registry) (s : Section) (m : Method) : Except Cause Fragment :=
  match m.body with
  | none => .error (.unsupported m.bodyKind (.sectionWithoutBlock m.name))
  | some b => sealSection s (compileBlock env r b)

/-- What a method adds to the document: a section, or nothing. -/
def compileMethod (env : Environment) (r : Registry) (m : Method) : Except CompileError (Option Fragment) :=
  match m.isVoid, Section.ofMethodName? m.name with
  | false, none => .ok none
  | false, some s => .error (.inSection s (.unsupported m.bodyKind (.sectionReturns m.name m.returnType)))
  | true, none => .error (.unsupportedSection m.name)
  | true, some s => (some <$> compileSection env r s m).mapError (.inSection s)

/-- The sections of some methods, in order. -/
def compileMethods (env : Environment) (r : Registry) : List Method → Except CompileError (List Fragment)
  | [] => .ok []
  | m :: ms => do
    let f ← compileMethod env r m
    let fs ← compileMethods env r ms
    return f.toList ++ fs

/-- The policy document of a declaration. -/
def compile (c : PolicyCompiler) (d : Declaration) : Except CompileError Document := do
  let sections ← compileMethods (c.environment d) c.registry d.methods
  return ⟨sections, .forDeclaration d.name⟩

/-- The policy document of a loaded declaration, unless loading it failed. -/
def compileLoaded (c : PolicyCompiler) (d : Except LoadError Declaration) : Except CompileError Document := do
  c.compile (← d.mapError .load)

end PolicyCompiler

end GatewayPolicy
