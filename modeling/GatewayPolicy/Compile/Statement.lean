import GatewayPolicy.Compile.Call
/-!
# Statements

A statement list is compiled in source order into elements and reports, up to the
first failure. An if chain becomes one `choose` element with a branch per condition
and one for the last else; a nested block adds its elements in place. Nothing in a
statement depends on what the statements before it gave.
-/

namespace GatewayPolicy

/-! ## Emissions -/

/-- What a statement adds to its scope: elements, reported errors, and the failure that ended
its compilation, if there was one. -/
structure Emission where
  fragments : List Fragment := []
  reports : List String := []
  failure : Option Cause := none
  deriving DecidableEq, Repr

namespace Emission

/-- A failure, with nothing added. -/
def fail (c : Cause) : Emission := { failure := some c }

/-- One reported error. -/
def report (message : String) : Emission := { reports := [message] }

/-- One element, or the failure to make it. -/
def ofElement : Except Cause Fragment → Emission
  | .ok f => { fragments := [f] }
  | .error c => fail c

/-- One emission after the other; after a failure nothing follows. -/
def andThen (a b : Emission) : Emission :=
  if a.failure.isSome then a else ⟨a.fragments ++ b.fragments, a.reports ++ b.reports, b.failure⟩

/-- An emission whose elements become the children of one element. A failure leaves nothing of it. -/
def wrap (parent : Fragment) (e : Emission) : Emission :=
  match e.failure with
  | some c => fail c
  | none => { fragments := [parent.withChildren e.fragments], reports := e.reports }

/-- An emission whose elements become the children of one element. A failure leaves the reports. -/
def gather (parent : Fragment) (e : Emission) : Emission :=
  match e.failure with
  | some c => { reports := e.reports, failure := some c }
  | none => { fragments := [parent.withChildren e.fragments], reports := e.reports }

end Emission

/-! ## Statement compilers -/

/-- A compiler of one kind of statement. -/
inductive StatementCompiler where
  /-- Policy calls for their effect. -/
  | calls (policies : List PolicyCall)
  /-- Policy calls whose result is bound to a variable. -/
  | bindings (policies : List BoundCall)
  /-- If chains. -/
  | branches
  /-- Nested blocks. -/
  | nestedBlocks
  deriving DecidableEq, Repr

namespace StatementCompiler

/-- The kind of statement that a compiler takes. -/
def kind : StatementCompiler → Kind
  | calls _ => .expressionStatement
  | bindings _ => .localDeclaration
  | branches => .ifStatement
  | nestedBlocks => .block

/-- The names of the policies that a compiler of calls takes, in order. -/
def policyNames : StatementCompiler → List String
  | calls policies => (PolicyCall.all.filter policies.contains).map PolicyCall.name |>.mergeSort (· ≤ ·)
  | bindings policies => (BoundCall.all.filter policies.contains).map BoundCall.name
  | branches | nestedBlocks => []

/-- One compiler for each kind of statement that has one. -/
def defaults : List StatementCompiler := [calls PolicyCall.all, bindings BoundCall.all, branches, nestedBlocks]

end StatementCompiler

/-- The compilers in use. Of several for one kind the last counts. -/
structure Registry where
  compilers : List StatementCompiler
  deriving DecidableEq, Repr

namespace Registry

/-- The registry with a compiler for each kind of statement that has one. -/
def standard : Registry := ⟨StatementCompiler.defaults⟩

/-- The compiler for a kind of statement. -/
def find? (r : Registry) (k : Kind) : Option StatementCompiler := r.compilers.reverse.find? fun c => c.kind == k

/-- The kinds of statement that have a compiler. -/
def kinds (r : Registry) : List Kind := Kind.all.filter fun k => (r.find? k).isSome

end Registry

/-! ## Calls and bindings -/

/-- The element of an expression statement. -/
def callStatement (env : Environment) (policies : List PolicyCall) (n : Node) : Except Cause Fragment := do
  if n.kind ≠ .expressionStatement then throw (.structural .expressionStatement n.kind)
  match n.expression with
  | none => throw (.structural .invocation n.kind)
  | some call =>
    let name ← calledPolicy env.options call
    match policies.find? fun p => p.name == name with
    | none => throw (.unsupported call.kind (.unknownPolicy name))
    | some p => p.element env call

/-- The element of a local declaration. -/
def bindingStatement (env : Environment) (policies : List BoundCall) (n : Node) : Except Cause Fragment := do
  if n.kind ≠ .localDeclaration then throw (.structural .localDeclaration n.kind)
  if n.name = "" then throw (.unsupported n.kind .noVariableName)
  match n.expression with
  | none => throw (.structural .invocation n.kind)
  | some call =>
    let name ← calledPolicy env.options call
    match policies.find? fun p => p.name == name with
    | none => throw (.unsupported n.kind (.noValue name))
    | some p => p.element env call n.name

/-! ## Blocks and branches -/

/-- The element around the branches of an if chain. -/
def chooseTag : String := "choose"

/-- The element of a branch with a condition. -/
def whenTag : String := "when"

/-- The element of the branch without a condition. -/
def otherwiseTag : String := "otherwise"

/-- The element of a branch with the given condition, still without children. -/
def whenElement (condition : Snippet) : Fragment :=
  (Fragment.empty whenTag).withAttribute "condition" condition.policyText

/-- What becomes of a statement without a compiler. -/
def unknownStatement (o : Options) (n : Node) : Emission :=
  match o.unknownStatements with
  | .skip => {}
  | .report => .report s!"unsupported {n.kind.title} `{n.text}`"

mutual

/-- Compiles a statement by the compiler for its kind. -/
def compileStatement (env : Environment) (r : Registry) : Node → Emission
  | ⟨k, t, cs, x⟩ =>
    match r.find? k with
    | some (.calls policies) => .ofElement (callStatement env policies ⟨k, t, cs, x⟩)
    | some (.bindings policies) => .ofElement (bindingStatement env policies ⟨k, t, cs, x⟩)
    | some .branches => (compileChain env r cs).gather (.empty chooseTag)
    | some .nestedBlocks => compileStatements env r cs
    | none => unknownStatement env.options ⟨k, t, cs, x⟩

/-- Compiles a statement list in order. -/
def compileStatements (env : Environment) (r : Registry) : List Node → Emission
  | [] => {}
  | n :: ns => (compileStatement env r n).andThen (compileStatements env r ns)

/-- Compiles the body of a branch, which is a block, into the given element. -/
def compileBranch (env : Environment) (r : Registry) (parent : Fragment) : Node → Emission
  | ⟨k, _, cs, x⟩ =>
    if k = .block then (compileStatements env r cs).wrap parent
    else .fail (.unsupported k (.branchNotBlock x))

/-- Compiles the parts of an if statement into the branches of its chain. An `else if` goes on
with the chain; each condition is read before the body it guards. -/
def compileChain (env : Environment) (r : Registry) : List Node → Emission
  | [] => .fail (.structural .invocation .ifStatement)
  | [_] => .fail (.structural .block .ifStatement)
  | condition :: body :: rest =>
    match extractPredicate env condition with
    | .error c => .fail c
    | .ok s =>
      (compileBranch env r (whenElement s) body).andThen
        (match rest with
        | ⟨.elseClause, _, ⟨k, t, cs, x⟩ :: _, _⟩ :: _ =>
          if k = .ifStatement then compileChain env r cs
          else compileBranch env r (.empty otherwiseTag) ⟨k, t, cs, x⟩
        | _ => {})

end

/-- Compiles the statements of a block. -/
def compileBlock (env : Environment) (r : Registry) (n : Node) : Emission :=
  if n.kind = .block then compileStatements env r n.children else .fail (.structural .block n.kind)

/-- Compiles a node by the given compiler, whatever its kind. -/
def StatementCompiler.compile (env : Environment) (r : Registry) (n : Node) : StatementCompiler → Emission
  | calls policies => .ofElement (callStatement env policies n)
  | bindings policies => .ofElement (bindingStatement env policies n)
  | branches =>
    if n.kind = .ifStatement then (compileChain env r n.children).gather (.empty chooseTag)
    else .fail (.structural .ifStatement n.kind)
  | nestedBlocks => compileBlock env r n

end GatewayPolicy
