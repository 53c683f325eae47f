import GatewayPolicy.Proofs.Arguments
import GatewayPolicy.Proofs.Atomicity
import GatewayPolicy.Proofs.Sections
/-!
# Compilers with handlers

A compiler of calls holds handlers, each under the name of a member. A handler is given the scope and
the call, and what it makes of the scope is its own affair. Here declarations are compiled with handlers
of any kind; where each handler adds the element of its policy, this is the compiler of a registry.
-/

namespace GatewayPolicy

/-! ## Steps in a scope -/

/-- What a step makes of a scope, and its answer. -/
abbrev Outcome (α : Type) := Scope × Except CompileError α

/-- Goes on in the scope that a step left, unless the step failed. -/
def Outcome.andThen {α β : Type} (x : Outcome α) (f : Scope → α → Outcome β) : Outcome β :=
  match x with
  | (s, .ok a) => f s a
  | (s, .error e) => (s, .error e)

/-- Leaves a scope as it is and fails. -/
def Scope.fail {α : Type} (s : Scope) (c : Cause) : Outcome α := (s, .error (s.error c))

/-! ## Registries -/

/-- The entry that counts for a key: the last one that has it. -/
def lastOf? {α κ : Type} [DecidableEq κ] (key : α → κ) (as : List α) (k : κ) : Option α :=
  as.reverse.find? fun a => key a == k

section
variable {α β κ : Type} [DecidableEq κ]

theorem lastOf?_append (key : α → κ) (as bs : List α) (k : κ) :
    lastOf? key (as ++ bs) k = (lastOf? key bs k).or (lastOf? key as k) := by
  rw [lastOf?, List.reverse_append, List.find?_append]
  rfl

theorem lastOf?_cons (key : α → κ) (a : α) (as : List α) (k : κ) :
    lastOf? key (a :: as) k = (lastOf? key as k).or (if key a = k then some a else none) := by
  rw [← List.singleton_append, lastOf?_append]
  by_cases h : key a = k <;> simp [lastOf?, h]

theorem lastOf?_map (f : α → β) (key : β → κ) (as : List α) (k : κ) :
    lastOf? key (as.map f) k = (lastOf? (fun a => key (f a)) as k).map f := by
  rw [lastOf?, lastOf?, ← List.map_reverse, List.find?_map]
  rfl

theorem exists_lastOf? (key : α → κ) {as : List α} {a : α} (h : a ∈ as) : ∃ b, lastOf? key as (key a) = some b := by
  rw [← Option.isSome_iff_exists, lastOf?, List.find?_isSome]
  exact ⟨a, List.mem_reverse.2 h, by simp⟩

/-- Where no two entries share a key, the last one with it is the first one. -/
theorem lastOf?_of_injective {key : α → κ} (hkey : Function.Injective key) (as : List α) (k : κ) :
    lastOf? key as k = as.find? fun a => key a == k := by
  cases h : as.find? fun a => key a == k with
  | none => simpa [lastOf?] using h
  | some a =>
    obtain rfl : key a = k := by simpa using List.find?_some h
    obtain ⟨b, hb⟩ := exists_lastOf? key (List.mem_of_find?_eq_some h)
    have hba : key b = key a := by simpa using List.find?_some hb
    rw [hb, hkey hba]

end

/-- A handler of the calls of a member of the request context. Besides the call it is given what else
the statement holds. -/
structure Handler (α : Type) where
  member : String
  handle : Scope → Node → α → Outcome Unit

/-- A compiler of one kind of statement, with the handlers it hands calls to. -/
inductive HandlerCompiler where
  /-- Calls for their effect. -/
  | calls (handlers : List (Handler Unit))
  /-- Calls whose result is bound to the variable that the handler is given. -/
  | bindings (handlers : List (Handler String))
  /-- If chains. -/
  | branches
  /-- Nested blocks. -/
  | nestedBlocks

/-- The kind of statement that a compiler takes. -/
def HandlerCompiler.kind : HandlerCompiler → Kind
  | calls _ => .expressionStatement
  | bindings _ => .localDeclaration
  | branches => .ifStatement
  | nestedBlocks => .block

/-! ## Calls and bindings -/

/-- Hands the call of a statement to the handler of the member that is called. -/
def handOver {α : Type} (handlers : List (Handler α)) (s : Scope) (n : Node) (a : α)
    (unknown : Node → String → Cause) : Outcome Unit :=
  match n.expression with
  | none => s.fail (.structural .invocation n.kind)
  | some call =>
    match calledPolicy s.env.options call with
    | .error c => s.fail c
    | .ok name =>
      match lastOf? Handler.member handlers name with
      | none => s.fail (unknown call name)
      | some h => h.handle s call a

/-- Compiles an expression statement. -/
def handleCall (handlers : List (Handler Unit)) (s : Scope) (n : Node) : Outcome Unit :=
  if n.kind ≠ .expressionStatement then s.fail (.structural .expressionStatement n.kind)
  else handOver handlers s n () fun call name => .unsupported call.kind (.unknownPolicy name)

/-- Compiles a local declaration. -/
def handleBinding (handlers : List (Handler String)) (s : Scope) (n : Node) : Outcome Unit :=
  if n.kind ≠ .localDeclaration then s.fail (.structural .localDeclaration n.kind)
  else if n.name = "" then s.fail (.unsupported n.kind .noVariableName)
  else handOver handlers s n n.name fun _ name => .unsupported n.kind (.noValue name)

/-! ## Blocks and branches -/

mutual

/-- Compiles a statement by the last compiler for its kind. -/
def handleStatement (cs : List HandlerCompiler) (s : Scope) : Node → Outcome Unit
  | ⟨k, t, ns, x⟩ =>
    match lastOf? HandlerCompiler.kind cs k with
    | some (.calls handlers) => handleCall handlers s ⟨k, t, ns, x⟩
    | some (.bindings handlers) => handleBinding handlers s ⟨k, t, ns, x⟩
    | some .branches => (handleChain cs s ns).andThen fun s bs => (s.add (chooseElement bs), .ok ())
    | some .nestedBlocks => handleStatements cs s ns
    | none => s.run (unknownStatement s.env.options ⟨k, t, ns, x⟩)

/-- Compiles a statement list in order. -/
def handleStatements (cs : List HandlerCompiler) (s : Scope) : List Node → Outcome Unit
  | [] => (s, .ok ())
  | n :: ns => (handleStatement cs s n).andThen fun s _ => handleStatements cs s ns

/-- Compiles the body of a branch in a scope of its own and answers the branch. -/
def handleBranch (cs : List HandlerCompiler) (parent : Fragment) (s : Scope) : Node → Outcome (List Fragment)
  | ⟨k, _, ns, x⟩ =>
    if k = .block then
      match handleStatements cs s.nested ns with
      | (inner, .ok ()) => ((s.absorb inner).1, .ok [parent.withChildren (s.absorb inner).2])
      | (_, .error e) => (s, .error e)
    else s.fail (.unsupported k (.branchNotBlock x))

/-- Compiles the parts of an if statement and answers the branches of its chain. -/
def handleChain (cs : List HandlerCompiler) (s : Scope) : List Node → Outcome (List Fragment)
  | [] => s.fail (.structural .invocation .ifStatement)
  | [_] => s.fail (.structural .block .ifStatement)
  | condition :: body :: rest =>
    match extractPredicate s.env condition with
    | .error c => s.fail c
    | .ok p =>
      (handleBranch cs (whenElement p) s body).andThen fun s bs =>
        Outcome.andThen
          (match rest with
          | ⟨.elseClause, _, ⟨k, t, ns, x⟩ :: _, _⟩ :: _ =>
            if k = .ifStatement then handleChain cs s ns
            else handleBranch cs (.empty otherwiseTag) s ⟨k, t, ns, x⟩
          | _ => (s, .ok []))
          fun s bs' => (s, .ok (bs ++ bs'))

end

/-- Compiles the statements of a block. -/
def handleBlock (cs : List HandlerCompiler) (s : Scope) (n : Node) : Outcome Unit :=
  if n.kind = .block then handleStatements cs s n.children else s.fail (.structural .block n.kind)

/-! ## Declarations -/

/-- The element of a section method. -/
def handleSection (env : Environment) (cs : List HandlerCompiler) (place : Section) (m : Method) :
    Except CompileError Fragment :=
  match m.body with
  | none => .error (.inSection place (.unsupported m.bodyKind (.sectionWithoutBlock m.name)))
  | some b =>
    match handleBlock cs { place, env } b with
    | (_, .error e) => .error e
    | (s, .ok ()) =>
      if s.errors.isEmpty then .ok ((Fragment.empty place.tag).withChildren s.fragments)
      else .error (.inSection place (.reported s.errors))

/-- What a method adds to the document: a section, or nothing. -/
def handleMethod (env : Environment) (cs : List HandlerCompiler) (m : Method) :
    Except CompileError (Option Fragment) :=
  match m.isVoid, Section.ofMethodName? m.name with
  | false, none => .ok none
  | false, some s => .error (.inSection s (.unsupported m.bodyKind (.sectionReturns m.name m.returnType)))
  | true, none => .error (.unsupportedSection m.name)
  | true, some s => some <$> handleSection env cs s m

/-- The sections of some methods, in order. -/
def handleMethods (env : Environment) (cs : List HandlerCompiler) : List Method → Except CompileError (List Fragment)
  | [] => .ok []
  | m :: ms => do
    let f ← handleMethod env cs m
    let fs ← handleMethods env cs ms
    return f.toList ++ fs

/-- The policy document of a declaration, compiled with the given compilers. -/
def compileWith (o : Options) (cs : List HandlerCompiler) (d : Declaration) : Except CompileError Document := do
  let sections ← handleMethods ⟨.ofDeclaration d, o⟩ cs d.methods
  return ⟨sections, .forDeclaration d.name⟩

/-! ## Policies as handlers -/

/-- The handler that adds the element of a policy. -/
def PolicyCall.handler (p : PolicyCall) : Handler Unit :=
  ⟨p.name, fun s call _ => s.run (.ofElement (p.element s.env call))⟩

/-- The handler that adds the element of a policy whose result goes to the variable. -/
def BoundCall.handler (b : BoundCall) : Handler String :=
  ⟨b.name, fun s call v => s.run (.ofElement (b.element s.env call v))⟩

/-- A statement compiler with the handlers of its policies. -/
def StatementCompiler.withHandlers : StatementCompiler → HandlerCompiler
  | calls policies => .calls (policies.map PolicyCall.handler)
  | bindings policies => .bindings (policies.map BoundCall.handler)
  | branches => .branches
  | nestedBlocks => .nestedBlocks

/-- The compilers of a registry with the handlers of their policies. -/
def Registry.withHandlers (r : Registry) : List HandlerCompiler := r.compilers.map StatementCompiler.withHandlers

theorem PolicyCall.name_injective : Function.Injective PolicyCall.name := by
  intro p q h
  have hp := PolicyCall.find?_all p
  rw [h, PolicyCall.find?_all q] at hp
  exact (Option.some.inj hp).symm

theorem BoundCall.name_injective : Function.Injective BoundCall.name := by
  rintro ⟨⟩ ⟨⟩ -
  rfl

theorem lastOf?_withHandlers (r : Registry) (k : Kind) :
    lastOf? HandlerCompiler.kind r.withHandlers k = (r.find? k).map StatementCompiler.withHandlers := by
  have hkind : (fun c : StatementCompiler => c.withHandlers.kind) = StatementCompiler.kind := by
    funext c
    cases c <;> rfl
  rw [Registry.withHandlers, lastOf?_map, hkind]
  rfl

theorem lastOf?_callHandlers (policies : List PolicyCall) (m : String) :
    lastOf? Handler.member (policies.map PolicyCall.handler) m =
      (policies.find? fun p => p.name == m).map PolicyCall.handler := by
  rw [lastOf?_map]
  exact congrArg _ (lastOf?_of_injective PolicyCall.name_injective policies m)

theorem lastOf?_bindingHandlers (policies : List BoundCall) (m : String) :
    lastOf? Handler.member (policies.map BoundCall.handler) m =
      (policies.find? fun b => b.name == m).map BoundCall.handler := by
  rw [lastOf?_map]
  exact congrArg _ (lastOf?_of_injective BoundCall.name_injective policies m)

section
variable {s : Scope} {n : Node}

theorem handleCall_policies (policies : List PolicyCall) (hn : n.kind = .expressionStatement) :
    handleCall (policies.map PolicyCall.handler) s n = s.run (.ofElement (callStatement s.env policies n)) := by
  rw [handleCall, if_neg (by simp [hn]), handOver, callStatement_eq s.env policies hn, Scope.run_ofElement]
  cases n.expression with
  | none => rfl
  | some call =>
    dsimp only
    cases calledPolicy s.env.options call with
    | error c => rfl
    | ok m =>
      dsimp only [ok_bind]
      rw [lastOf?_callHandlers]
      cases policies.find? fun p => p.name == m with
      | none => rfl
      | some p => exact Scope.run_ofElement _

theorem handleBinding_policies (policies : List BoundCall) (hn : n.kind = .localDeclaration) :
    handleBinding (policies.map BoundCall.handler) s n = s.run (.ofElement (bindingStatement s.env policies n)) := by
  rw [handleBinding, if_neg (by simp [hn]), handOver, bindingStatement_eq s.env policies hn, Scope.run_ofElement]
  by_cases hv : n.name = ""
  · simp [hv, Scope.fail]
  · rw [if_neg hv, if_neg hv]
    cases n.expression with
    | none => rfl
    | some call =>
      dsimp only
      cases calledPolicy s.env.options call with
      | error c => rfl
      | ok m =>
        dsimp only [ok_bind]
        rw [lastOf?_bindingHandlers]
        cases policies.find? fun b => b.name == m with
        | none => rfl
        | some b => exact Scope.run_ofElement _

end

/-! ## The compiler of a registry -/

namespace Scope

/-- Adds the reports of an emission and answers its elements. -/
def collect (s : Scope) (e : Emission) : Outcome (List Fragment) :=
  ({ s with errors := s.errors ++ e.reports }, match e.failure with
    | some c => .error (s.error c)
    | none => .ok e.fragments)

section
variable {s : Scope} {a b : Emission}

theorem run_then {f : Scope → Unit → Outcome Unit} (hf : f (s.extend a) () = (s.extend a).run b) :
    Outcome.andThen (s.run a) f = s.run (a.andThen b) := by
  rw [run_andThen_eq]
  obtain ⟨fs, rs, c⟩ := a
  cases c with
  | some c => rfl
  | none => exact hf

theorem collect_then {f : Scope → Outcome (List Fragment)} (hf : f (s.collect a).1 = (s.collect a).1.collect b) :
    ((s.collect a).andThen fun t bs => (f t).andThen fun t bs' => (t, .ok (bs ++ bs'))) =
      s.collect (a.andThen b) := by
  obtain ⟨fs, rs, c⟩ := a
  obtain ⟨gs, qs, d⟩ := b
  cases c with
  | some c => rfl
  | none =>
    simp only [collect, Outcome.andThen] at hf ⊢
    rw [hf]
    cases d <;> simp [Emission.andThen, error]

theorem run_gather_eq (e : Emission) (parent : Fragment) :
    s.run (e.gather parent) = (s.collect e).andThen fun t bs => (t.add (parent.withChildren bs), .ok ()) := by
  obtain ⟨fs, rs, c⟩ := e
  cases c with
  | none => rfl
  | some c => simp [run, extend, collect, Emission.gather, Outcome.andThen]

/-- A branch compiles in a scope of its own. -/
theorem collect_wrap (e : Emission) (parent : Fragment) :
    s.collect (e.wrap parent) =
      match s.nested.run e with
      | (inner, .ok ()) => ((s.absorb inner).1, .ok [parent.withChildren (s.absorb inner).2])
      | (_, .error e) => (s, .error e) := by
  obtain ⟨fs, rs, c⟩ := e
  cases c with
  | none => rfl
  | some c => simp [collect, Emission.wrap, Emission.fail, run, nested, error]

theorem collect_fail (c : Cause) : s.collect (.fail c) = s.fail c := by
  simp [collect, Emission.fail, fail]

end

end Scope

mutual

theorem handleStatement_withHandlers (r : Registry) (s : Scope) (n : Node) :
    handleStatement r.withHandlers s n = s.run (compileStatement s.env r n) := by
  cases n with
  | mk k t ns x =>
    rw [handleStatement, compileStatement, lastOf?_withHandlers]
    cases h : r.find? k with
    | none => rfl
    | some c =>
      have hk : c.kind = k := kind_of_find? r h
      cases c with
      | calls policies => exact handleCall_policies policies hk.symm
      | bindings policies => exact handleBinding_policies policies hk.symm
      | branches =>
        dsimp only [Option.map_some, StatementCompiler.withHandlers]
        rw [handleChain_withHandlers r s ns, Scope.run_gather_eq]
        rfl
      | nestedBlocks => exact handleStatements_withHandlers r s ns

theorem handleStatements_withHandlers (r : Registry) (s : Scope) (ns : List Node) :
    handleStatements r.withHandlers s ns = s.run (compileStatements s.env r ns) := by
  cases ns with
  | nil => simp [handleStatements, Scope.run, Scope.extend]
  | cons n ns =>
    rw [handleStatements, compileStatements, handleStatement_withHandlers r s n]
    -- The rest compiles in the same environment, which no emission changes.
    exact Scope.run_then (handleStatements_withHandlers r _ ns)

theorem handleBranch_withHandlers (r : Registry) (parent : Fragment) (s : Scope) (n : Node) :
    handleBranch r.withHandlers parent s n = s.collect (compileBranch s.env r parent n) := by
  cases n with
  | mk k t ns x =>
    rw [handleBranch, compileBranch]
    split
    · rw [Scope.collect_wrap, handleStatements_withHandlers r s.nested ns]
      rfl
    · rw [Scope.collect_fail]

theorem handleChain_withHandlers (r : Registry) (s : Scope) (ns : List Node) :
    handleChain r.withHandlers s ns = s.collect (compileChain s.env r ns) := by
  rcases ns with _ | ⟨condition, _ | ⟨body, rest⟩⟩
  · rw [handleChain, compileChain, Scope.collect_fail]
  · rw [handleChain, compileChain, Scope.collect_fail]
  · rw [handleChain.eq_def, compileChain.eq_def]
    dsimp only
    cases extractPredicate s.env condition with
    | error c => exact (Scope.collect_fail c).symm
    | ok p =>
      dsimp only
      rw [handleBranch_withHandlers r _ s body]
      refine Scope.collect_then ?_
      -- What follows the branch is a link, a last else or nothing.
      split
      · next k t ns x _ _ _ =>
        by_cases hk : k = .ifStatement
        · simp only [if_pos hk]
          exact handleChain_withHandlers r _ ns
        · simp only [if_neg hk]
          exact handleBranch_withHandlers r _ _ ⟨k, t, ns, x⟩
      · simp [Scope.collect]

end

section
variable {env : Environment} {r : Registry}

theorem handleBlock_withHandlers (s : Scope) (n : Node) :
    handleBlock r.withHandlers s n = s.run (compileBlock s.env r n) := by
  rw [handleBlock, compileBlock]
  split
  · exact handleStatements_withHandlers r s n.children
  · simp [Scope.run, Scope.extend, Scope.fail, Emission.fail]

theorem handleSection_withHandlers (place : Section) (m : Method) :
    handleSection env r.withHandlers place m = (PolicyCompiler.compileSection env r place m).mapError (.inSection place) := by
  rw [handleSection, PolicyCompiler.compileSection]
  cases m.body with
  | none => rfl
  | some b =>
    dsimp only
    rw [handleBlock_withHandlers]
    obtain ⟨fs, rs, c⟩ := compileBlock env r b
    cases c with
    | some c => rfl
    | none => cases rs <;> rfl

theorem handleMethod_withHandlers (m : Method) :
    handleMethod env r.withHandlers m = PolicyCompiler.compileMethod env r m := by
  rw [handleMethod, PolicyCompiler.compileMethod]
  cases m.isVoid with
  | false => cases Section.ofMethodName? m.name <;> rfl
  | true =>
    cases Section.ofMethodName? m.name with
    | none => rfl
    | some place =>
      dsimp only
      rw [handleSection_withHandlers]
      cases PolicyCompiler.compileSection env r place m <;> rfl

theorem handleMethods_withHandlers (ms : List Method) :
    handleMethods env r.withHandlers ms = PolicyCompiler.compileMethods env r ms := by
  induction ms with
  | nil => rfl
  | cons m ms ih => rw [handleMethods, PolicyCompiler.compileMethods, handleMethod_withHandlers, ih]

/-- With the handlers of its policies, a registry compiles every declaration as it does by itself. -/
theorem compileWith_withHandlers (o : Options) (d : Declaration) :
    compileWith o r.withHandlers d = PolicyCompiler.compile ⟨o, r⟩ d := by
  rw [compileWith, PolicyCompiler.compile, handleMethods_withHandlers]
  rfl

end

end GatewayPolicy
