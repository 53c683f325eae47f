import GatewayPolicy.Proofs.Emission
/-!
# Statement trees

A statement holds others in three places: the statements of a block, the statement that
an if governs, and the one after its else. The compilation of a statement is put here in
terms of these places, and an induction goes through all of them.
-/

namespace GatewayPolicy

namespace Node

/-! ## Inner statements are smaller -/

theorem sizeOf_children (n : Node) : sizeOf n.children + 3 ≤ sizeOf n := by
  obtain ⟨k, t, cs, x⟩ := n
  have hk : 1 ≤ sizeOf k := by cases k <;> simp
  have ht : 1 ≤ sizeOf t := by cases t <;> simp
  simp only [mk.sizeOf_spec]
  omega

theorem sizeOf_child {n c : Node} (h : c ∈ n.children) : sizeOf c + 3 < sizeOf n := by
  have hc := List.sizeOf_lt_of_mem h
  have hn := n.sizeOf_children
  omega

/-- Induction over a tree: a property of all children of a node is handed to the node. -/
theorem children_induction {P : Node → Prop} (parent : ∀ n, (∀ c ∈ n.children, P c) → P n) (n : Node) : P n := by
  -- On the size of the node, since its children stand in a list.
  induction hm : sizeOf n using Nat.strongRecOn generalizing n with
  | _ m ih =>
    subst hm
    refine parent n fun c hc => ih _ ?_ c rfl
    have h := sizeOf_child hc
    omega

theorem mem_children_of_statement {n s : Node} (h : n.statement = some s) : s ∈ n.children := by
  unfold statement at h
  split at h
  · exact List.mem_of_getElem? h
  · exact List.mem_of_getElem? h
  · cases h

theorem mem_children_of_mem_statements {n s : Node} (h : s ∈ n.statements) : s ∈ n.children := by
  unfold statements at h
  split at h
  · exact h
  · cases h

theorem mem_children_of_mem_arguments {n a : Node} (h : a ∈ n.arguments) : a ∈ n.children := by
  unfold arguments at h
  split at h
  · exact List.mem_of_mem_drop h
  · cases h

theorem mem_children_of_condition {n c : Node} (h : n.condition = some c) : c ∈ n.children := by
  unfold condition childOf at h
  split at h
  · exact List.mem_of_getElem? h
  · cases h

theorem mem_children_of_expression {n e : Node} (h : n.expression = some e) : e ∈ n.children := by
  unfold expression at h
  split at h
  case h_6 => cases h
  all_goals exact List.mem_of_getElem? h

/-- The statement after an else stands in the else clause, the third part of the if. -/
theorem elseStatement_eq_some {n t : Node} (h : n.elseStatement = some t) :
    n.kind = .ifStatement ∧ ∃ e, n.children[2]? = some e ∧ e.kind = .elseClause ∧ e.children[0]? = some t := by
  obtain ⟨e, he, ht⟩ := Option.bind_eq_some_iff.1 h
  obtain ⟨he, hk⟩ := Option.filter_eq_some_iff.1 he
  have hk : e.kind = .elseClause := by simpa using hk
  unfold childOf at he
  split at he
  · next hn => exact ⟨hn, e, he, hk, by simpa [statement, hk] using ht⟩
  · cases he

theorem sizeOf_statements (n : Node) : sizeOf n.statements < sizeOf n := by
  have hn := n.sizeOf_children
  unfold statements
  split
  · omega
  · simp only [List.nil.sizeOf_spec]; omega

theorem sizeOf_statement (n : Node) : sizeOf n.statement.toList < sizeOf n := by
  cases h : n.statement with
  | none => have hn := n.sizeOf_children; simp only [Option.toList_none, List.nil.sizeOf_spec]; omega
  | some s =>
    have hs := sizeOf_child (mem_children_of_statement h)
    simp only [Option.toList_some, List.cons.sizeOf_spec, List.nil.sizeOf_spec]
    omega

theorem sizeOf_elseStatement (n : Node) : sizeOf n.elseStatement.toList < sizeOf n := by
  cases h : n.elseStatement with
  | none => have hn := n.sizeOf_children; simp only [Option.toList_none, List.nil.sizeOf_spec]; omega
  | some t =>
    obtain ⟨-, e, he, -, ht⟩ := elseStatement_eq_some h
    have h₁ := sizeOf_child (List.mem_of_getElem? he)
    have h₂ := sizeOf_child (List.mem_of_getElem? ht)
    simp only [Option.toList_some, List.cons.sizeOf_spec, List.nil.sizeOf_spec]
    omega

/-- Induction over a statement list and all statement lists inside it. The inner statements of an
if come as statements in a list and as blocks with a list. -/
@[elab_as_elim]
theorem statements_induction {P : List Node → Prop} (nil : P [])
    (cons : ∀ n ns, P n.statements → (∀ s, n.statement = some s → P s.statements) →
      (∀ t, n.elseStatement = some t → P [t] ∧ P t.statements) → P ns → P (n :: ns))
    (ns : List Node) : P ns := by
  -- On the size of the list, since an inner list is no part of the outer one.
  induction hm : sizeOf ns using Nat.strongRecOn generalizing ns with
  | _ m ih =>
    subst hm
    cases ns with
    | nil => exact nil
    | cons n ns =>
      have hc : sizeOf (n :: ns) = 1 + sizeOf n + sizeOf ns := List.cons.sizeOf_spec n ns
      have below : ∀ ms, sizeOf ms < sizeOf n → P ms := fun ms h => ih _ (by omega) ms rfl
      refine cons n ns (below _ n.sizeOf_statements) (fun s hs => ?_) (fun t ht => ?_) (ih _ (by omega) ns rfl)
      · have h := n.sizeOf_statement
        rw [hs] at h
        have hs := s.sizeOf_statements
        simp only [Option.toList_some, List.cons.sizeOf_spec] at h
        exact below _ (by omega)
      · have h := n.sizeOf_elseStatement
        rw [ht] at h
        have ht := t.sizeOf_statements
        simp only [Option.toList_some] at h
        refine ⟨below _ h, below _ ?_⟩
        simp only [List.cons.sizeOf_spec] at h
        omega

/-- The same induction with a second property, of the if statements alone: an if after an else is
reached as a link of a chain and not as a statement in a list. -/
theorem chains_induction {P : List Node → Prop} {Q : Node → Prop} (nil : P [])
    (cons : ∀ n ns, P n.statements → (n.kind = .ifStatement → Q n) → P ns → P (n :: ns))
    (chain : ∀ n, n.kind = .ifStatement → (∀ s, n.statement = some s → P s.statements) →
      (∀ t, n.elseStatement = some t → (t.kind = .ifStatement → Q t) ∧ P t.statements) → Q n)
    (ns : List Node) : P ns := by
  have hboth : P ns ∧ ∀ n ∈ ns, n.kind = .ifStatement → Q n := by
    induction ns using statements_induction with
    | nil => exact ⟨nil, by simp⟩
    | cons n ns ihn ihs iht ih =>
      have hn : n.kind = .ifStatement → Q n := by
        refine fun hk => chain n hk (fun s hs => (ihs s hs).1) fun t ht => ?_
        obtain ⟨⟨-, h₁⟩, h₂, -⟩ := iht t ht
        exact ⟨h₁ t List.mem_cons_self, h₂⟩
      exact ⟨cons n ns ihn.1 hn ih.1, List.forall_mem_cons.2 ⟨hn, ih.2⟩⟩
  exact hboth.1

end Node

/-! ## Compiling by the places -/

variable (env : Environment) (r : Registry)

/-- A statement compiles as its kind is registered. -/
theorem compileStatement_eq (n : Node) :
    compileStatement env r n =
      match r.find? n.kind with
      | some (.calls policies) => .ofElement (callStatement env policies n)
      | some (.bindings policies) => .ofElement (bindingStatement env policies n)
      | some .branches => (compileChain env r n.children).gather (.empty chooseTag)
      | some .nestedBlocks => compileStatements env r n.children
      | none => unknownStatement env.options n := by
  obtain ⟨k, t, cs, x⟩ := n
  unfold compileStatement
  rfl

theorem find?_standard (k : Kind) :
    Registry.standard.find? k =
      match k with
      | .expressionStatement => some (.calls PolicyCall.all)
      | .localDeclaration => some (.bindings BoundCall.all)
      | .ifStatement => some .branches
      | .block => some .nestedBlocks
      | _ => none := by
  cases k <;> rfl

theorem kind_of_find? {k : Kind} {c : StatementCompiler} (h : r.find? k = some c) : c.kind = k := by
  simpa using List.find?_some h

@[simp] theorem compileStatements_nil : compileStatements env r [] = {} := by
  rw [compileStatements]

theorem compileStatements_cons (n : Node) (ns : List Node) :
    compileStatements env r (n :: ns) = (compileStatement env r n).andThen (compileStatements env r ns) := by
  rw [compileStatements]

theorem compileStatements_singleton (n : Node) : compileStatements env r [n] = compileStatement env r n := by
  rw [compileStatements_cons, compileStatements_nil, Emission.andThen_empty]

theorem compileStatements_append (ns ms : List Node) :
    compileStatements env r (ns ++ ms) = (compileStatements env r ns).andThen (compileStatements env r ms) := by
  induction ns with
  | nil => rw [List.nil_append, compileStatements_nil, Emission.empty_andThen]
  | cons n ns ih => rw [List.cons_append, compileStatements_cons, ih, compileStatements_cons, Emission.andThen_assoc]

theorem compileBranch_eq (parent : Fragment) (n : Node) :
    compileBranch env r parent n =
      if n.kind = .block then (compileStatements env r n.statements).wrap parent
      else .fail (.unsupported n.kind (.branchNotBlock n.text)) := by
  cases n
  rw [compileBranch]
  split
  · next hk => simp only [Node.statements, hk, if_true]
  · rfl

theorem compileBlock_eq (n : Node) :
    compileBlock env r n =
      if n.kind = .block then compileStatements env r n.statements else .fail (.structural .block n.kind) := by
  rw [compileBlock]
  split
  · next hn => rw [Node.statements, if_pos hn]
  · rfl

/-- Compiles the statement after an else into the branches of the chain before it. -/
def compileElse : Option Node → Emission
  | none => {}
  | some t =>
    if t.kind = .ifStatement then compileChain env r t.children
    else compileBranch env r (.empty otherwiseTag) t

/-- A chain compiles by its parts: the condition is read first, then the governed statement
compiles, then the rest of the chain. -/
theorem compileChain_eq {n : Node} (hn : n.kind = .ifStatement) :
    compileChain env r n.children =
      match n.condition, n.statement with
      | none, _ => .fail (.structural .invocation .ifStatement)
      | some _, none => .fail (.structural .block .ifStatement)
      | some c, some s =>
        match extractPredicate env c with
        | .error e => .fail e
        | .ok p => (compileBranch env r (whenElement p) s).andThen (compileElse env r n.elseStatement) := by
  obtain ⟨k, t, cs, x⟩ := n
  obtain rfl : k = .ifStatement := hn
  match cs with
  | [] => simp [compileChain, Node.condition, Node.childOf]
  | [_] => simp [compileChain, Node.condition, Node.statement, Node.childOf]
  | c :: s :: rest =>
    rw [compileChain.eq_def]
    show (match extractPredicate env c with | .error e => _ | .ok p => _) =
      match extractPredicate env c with | .error e => _ | .ok p => _
    cases extractPredicate env c with
    | error e => rfl
    | ok p =>
      refine congrArg (compileBranch env r (whenElement p) s).andThen ?_
      match rest with
      | [] => rfl
      | ⟨k, _, [], _⟩ :: _ => cases k <;> rfl
      | ⟨k, _, ⟨_, _, _, _⟩ :: _, _⟩ :: _ => cases k <;> rfl

end GatewayPolicy
