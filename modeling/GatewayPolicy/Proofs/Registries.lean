import GatewayPolicy.Proofs.Handlers
import Mathlib.Logic.Relation
/-!
# Registries are last-wins and otherwise free of order

Of a list of compilers only the last one of each kind counts, and of a list of handlers only the last
one of each member. A compiler goes back to the whole list for every inner block, so that the entries
that count are followed through statements, branches and chains up to the document.
-/

namespace GatewayPolicy

/-! ## Lists whose last entries count -/

/-- Two compilers of one type. For each member the same handler counts in both, or none does. -/
inductive HandlerCompiler.DispatchesAlike : HandlerCompiler → HandlerCompiler → Prop
  | calls {hs hs' : List (Handler Unit)} :
      (∀ m, lastOf? Handler.member hs m = lastOf? Handler.member hs' m) → DispatchesAlike (.calls hs) (.calls hs')
  | bindings {hs hs' : List (Handler String)} :
      (∀ m, lastOf? Handler.member hs m = lastOf? Handler.member hs' m) →
        DispatchesAlike (.bindings hs) (.bindings hs')
  | branches : DispatchesAlike .branches .branches
  | nestedBlocks : DispatchesAlike .nestedBlocks .nestedBlocks

/-- For each kind of statement the compilers that count in two lists dispatch alike, or neither list
has one. -/
def DispatchAlike (cs cs' : List HandlerCompiler) : Prop :=
  ∀ k, Option.Rel HandlerCompiler.DispatchesAlike (lastOf? HandlerCompiler.kind cs k)
    (lastOf? HandlerCompiler.kind cs' k)

/-- Two neighbours with different keys change places, or an entry is left out that a later one overrides. -/
inductive Rearranges {α κ : Type} (key : α → κ) : List α → List α → Prop
  | swap (front back : List α) {a b : α} : key a ≠ key b →
      Rearranges key (front ++ a :: b :: back) (front ++ b :: a :: back)
  | drop (front back : List α) {a b : α} : b ∈ back → key a = key b →
      Rearranges key (front ++ a :: back) (front ++ back)

/-- A rearrangement of the compilers, or of the handlers of one of them. -/
inductive RearrangesCompilers : List HandlerCompiler → List HandlerCompiler → Prop
  | compilers {cs cs' : List HandlerCompiler} : Rearranges HandlerCompiler.kind cs cs' → RearrangesCompilers cs cs'
  | calls (front back : List HandlerCompiler) {hs hs' : List (Handler Unit)} : Rearranges Handler.member hs hs' →
      RearrangesCompilers (front ++ .calls hs :: back) (front ++ .calls hs' :: back)
  | bindings (front back : List HandlerCompiler) {hs hs' : List (Handler String)} : Rearranges Handler.member hs hs' →
      RearrangesCompilers (front ++ .bindings hs :: back) (front ++ .bindings hs' :: back)

/-! ## Lookups -/

/-- A rearrangement leaves the entry that counts for each key. -/
theorem Rearranges.lastOf?_eq {α κ : Type} [DecidableEq κ] {key : α → κ} {as bs : List α} (h : Rearranges key as bs)
    (k : κ) : lastOf? key as k = lastOf? key bs k := by
  cases h with
  | @swap front back a b hab =>
    -- At most one of the two has the key.
    simp only [lastOf?_append, lastOf?_cons, Option.or_assoc]
    by_cases ha : key a = k
    · have hb : key b ≠ k := fun h => hab (ha.trans h.symm)
      simp [ha, hb]
    · simp [ha]
  | @drop front back a b hb hab =>
    rw [lastOf?_append, lastOf?_append, lastOf?_cons]
    by_cases ha : key a = k
    · obtain ⟨c, hc⟩ := exists_lastOf? key hb
      rw [← hab, ha] at hc
      simp [hc]
    · simp [ha]

theorem HandlerCompiler.DispatchesAlike.refl : ∀ c : HandlerCompiler, c.DispatchesAlike c
  | .calls _ => .calls fun _ => rfl
  | .bindings _ => .bindings fun _ => rfl
  | .branches => .branches
  | .nestedBlocks => .nestedBlocks

theorem HandlerCompiler.DispatchesAlike.kind {c c' : HandlerCompiler} (h : c.DispatchesAlike c') : c.kind = c'.kind := by
  cases h <;> rfl

section
variable {cs cs' : List HandlerCompiler}

theorem DispatchAlike.of_lookups
    (h : ∀ k, lastOf? HandlerCompiler.kind cs k = lastOf? HandlerCompiler.kind cs' k) : DispatchAlike cs cs' := by
  intro k
  rw [h]
  cases lastOf? HandlerCompiler.kind cs' k with
  | none => exact .none
  | some c => exact .some (.refl c)

/-- One compiler may stand for another that dispatches alike. -/
theorem DispatchAlike.replace (front back : List HandlerCompiler) {c c' : HandlerCompiler} (h : c.DispatchesAlike c') :
    DispatchAlike (front ++ c :: back) (front ++ c' :: back) := by
  intro k
  rw [lastOf?_append, lastOf?_append, lastOf?_cons, lastOf?_cons, ← h.kind]
  cases lastOf? HandlerCompiler.kind back k with
  | some d => exact .some (.refl d)
  | none =>
    by_cases hk : c.kind = k
    · simpa [hk] using Option.Rel.some h
    · simp only [hk, if_false, Option.none_or]
      cases lastOf? HandlerCompiler.kind front k with
      | none => exact .none
      | some d => exact .some (.refl d)

theorem RearrangesCompilers.dispatchAlike (h : RearrangesCompilers cs cs') : DispatchAlike cs cs' := by
  cases h with
  | compilers h => exact .of_lookups h.lastOf?_eq
  | calls front back h => exact .replace front back (.calls h.lastOf?_eq)
  | bindings front back h => exact .replace front back (.bindings h.lastOf?_eq)

end

/-! ## Statements -/

theorem handOver_congr {α : Type} {hs hs' : List (Handler α)}
    (h : ∀ m, lastOf? Handler.member hs m = lastOf? Handler.member hs' m) (s : Scope) (n : Node) (a : α)
    (unknown : Node → String → Cause) : handOver hs s n a unknown = handOver hs' s n a unknown := by
  unfold handOver
  simp only [h]

mutual

theorem handleStatement_congr {cs cs' : List HandlerCompiler} (h : DispatchAlike cs cs') (s : Scope) (n : Node) :
    handleStatement cs s n = handleStatement cs' s n := by
  cases n with
  | mk k t ns x =>
    rw [handleStatement, handleStatement]
    have hk := h k
    generalize lastOf? HandlerCompiler.kind cs k = c at hk
    generalize lastOf? HandlerCompiler.kind cs' k = c' at hk
    cases hk with
    | none => rfl
    | some hc =>
      cases hc with
      | calls hm =>
        dsimp only [handleCall]
        rw [handOver_congr hm]
      | bindings hm =>
        dsimp only [handleBinding]
        rw [handOver_congr hm]
      | branches =>
        dsimp only
        rw [handleChain_congr h s ns]
      | nestedBlocks => exact handleStatements_congr h s ns

theorem handleStatements_congr {cs cs' : List HandlerCompiler} (h : DispatchAlike cs cs') (s : Scope) (ns : List Node) :
    handleStatements cs s ns = handleStatements cs' s ns := by
  cases ns with
  | nil => rw [handleStatements, handleStatements]
  | cons n ns =>
    rw [handleStatements, handleStatements, handleStatement_congr h s n]
    congr 1
    funext t _
    exact handleStatements_congr h t ns

theorem handleBranch_congr {cs cs' : List HandlerCompiler} (h : DispatchAlike cs cs') (parent : Fragment) (s : Scope)
    (n : Node) : handleBranch cs parent s n = handleBranch cs' parent s n := by
  cases n with
  | mk k t ns x => rw [handleBranch, handleBranch, handleStatements_congr h s.nested ns]

theorem handleChain_congr {cs cs' : List HandlerCompiler} (h : DispatchAlike cs cs') (s : Scope) (ns : List Node) :
    handleChain cs s ns = handleChain cs' s ns := by
  rcases ns with _ | ⟨condition, _ | ⟨body, rest⟩⟩
  · rw [handleChain, handleChain]
  · rw [handleChain, handleChain]
  · rw [handleChain.eq_def, handleChain.eq_def cs']
    dsimp only
    cases extractPredicate s.env condition with
    | error c => rfl
    | ok p =>
      dsimp only
      rw [handleBranch_congr h _ s body]
      congr 1
      funext t bs
      congr 1
      split
      · next k t' ns x _ _ _ => rw [handleChain_congr h t ns, handleBranch_congr h _ t ⟨k, t', ns, x⟩]
      · rfl

end

/-! ## Declarations -/

section
variable {cs cs' : List HandlerCompiler}

theorem handleMethod_of_alike (h : DispatchAlike cs cs') (env : Environment) (m : Method) :
    handleMethod env cs m = handleMethod env cs' m := by
  have hsection (place : Section) : handleSection env cs place m = handleSection env cs' place m := by
    unfold handleSection handleBlock
    simp only [handleStatements_congr h]
  unfold handleMethod
  simp only [hsection]

theorem handleMethods_of_alike (h : DispatchAlike cs cs') (env : Environment) (ms : List Method) :
    handleMethods env cs ms = handleMethods env cs' ms := by
  induction ms with
  | nil => rfl
  | cons m ms ih => rw [handleMethods, handleMethods, handleMethod_of_alike h, ih]

theorem compileWith_of_alike (h : DispatchAlike cs cs') (o : Options) (d : Declaration) :
    compileWith o cs d = compileWith o cs' d := by
  rw [compileWith, compileWith, handleMethods_of_alike h]

end

/-- Only the last compiler of each kind counts for a compilation, and of its handlers only the last one
of each member; where these dispatch alike, every declaration has the same document or the same error.
So nothing changes where entries with different keys change places and overridden ones are left out,
in the list of compilers and in the lists of their handlers, and as often as one likes. -/
theorem compile_depends_on_last_entries (o : Options) (d : Declaration) :
    (∀ cs cs', DispatchAlike cs cs' → compileWith o cs d = compileWith o cs' d) ∧
      (∀ cs cs', Relation.EqvGen RearrangesCompilers cs cs' → compileWith o cs d = compileWith o cs' d) ∧
      (∀ r : Registry, compileWith o r.withHandlers d = PolicyCompiler.compile ⟨o, r⟩ d) ∧
      ∀ r r' : Registry, DispatchAlike r.withHandlers r'.withHandlers →
        PolicyCompiler.compile ⟨o, r⟩ d = PolicyCompiler.compile ⟨o, r'⟩ d := by
  refine ⟨fun cs cs' h => compileWith_of_alike h o d, fun cs cs' h => ?_, fun r => compileWith_withHandlers o d,
    fun r r' h => ?_⟩
  · induction h with
    | rel cs cs' h => exact compileWith_of_alike h.dispatchAlike o d
    | refl cs => rfl
    | symm cs cs' _ ih => exact ih.symm
    | trans cs cs' cs'' _ _ ih ih' => exact ih.trans ih'
  · calc
      PolicyCompiler.compile ⟨o, r⟩ d = compileWith o r.withHandlers d := (compileWith_withHandlers o d).symm
      _ = compileWith o r'.withHandlers d := compileWith_of_alike h o d
      _ = PolicyCompiler.compile ⟨o, r'⟩ d := compileWith_withHandlers o d

/-- A handler that refuses all calls of a policy. -/
def PolicyCall.refusal (p : PolicyCall) : Handler Unit :=
  ⟨p.name, fun s call _ => s.fail (.unsupported call.kind (.other "refused"))⟩

/-- The standard compilers out of order, with a compiler of calls and a handler that are overridden. -/
def crowdedCompilers : List HandlerCompiler :=
  [.nestedBlocks, .calls [PolicyCall.base.refusal], .branches,
    .calls (PolicyCall.base.refusal :: PolicyCall.all.map PolicyCall.handler),
    .bindings (BoundCall.all.map BoundCall.handler)]

theorem crowdedCompilers_dispatchAlike : DispatchAlike crowdedCompilers Registry.standard.withHandlers := by
  have hbase : PolicyCall.base.handler ∈ PolicyCall.all.map PolicyCall.handler := List.mem_map_of_mem (by decide)
  have hdrop : Rearranges Handler.member (PolicyCall.base.refusal :: PolicyCall.all.map PolicyCall.handler)
      (PolicyCall.all.map PolicyCall.handler) := .drop [] _ hbase rfl
  intro k
  cases k
  case expressionStatement => exact .some (.calls hdrop.lastOf?_eq)
  case localDeclaration => exact .some (.bindings fun _ => rfl)
  case ifStatement => exact .some .branches
  case block => exact .some .nestedBlocks
  all_goals exact .none

theorem compile_depends_on_last_entries_crowded :
    ∃ doc, PolicyCompiler.compile (.standard {}) branchingDeclaration = .ok doc ∧
      compileWith {} crowdedCompilers branchingDeclaration = .ok doc := by
  obtain ⟨doc, h⟩ := exists_of_isOk (x := PolicyCompiler.compile (.standard {}) branchingDeclaration) (by decide +kernel)
  obtain ⟨halike, -, hstandard, -⟩ := compile_depends_on_last_entries {} branchingDeclaration
  refine ⟨doc, h, ?_⟩
  rw [halike _ _ crowdedCompilers_dispatchAlike, hstandard .standard]
  exact h

end GatewayPolicy
