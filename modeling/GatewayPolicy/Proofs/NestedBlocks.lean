import GatewayPolicy.Proofs.Chains
import Mathlib.Logic.Relation
/-!
# Nested blocks are transparent

A block that stands among the statements of another block may give way to its own statements,
at any depth of blocks, branches and else clauses: the elements, the reports and the failure stay
the same. A tree in which all of them have given way compiles like the tree itself.
-/

namespace GatewayPolicy

/-! ## Blocks that give way -/

/-- Whether a child at a position is part of the tree of statements. The first part of an if is its
condition. -/
def Kind.holdsStatement (k : Kind) (i : Nat) : Bool :=
  match k with
  | block | elseClause => true
  | ifStatement => i != 0
  | _ => false

/-- Somewhere in a tree of statements, a block among the statements of a block gives way to its own
statements. Every other node keeps its token and its text. -/
inductive Unnests : Node → Node → Prop
  | here {t x before b after} : b.kind = .block →
      Unnests ⟨.block, t, before ++ b :: after, x⟩ ⟨.block, t, before ++ (b.children ++ after), x⟩
  | inside {k t x before n n' after} : k.holdsStatement before.length → Unnests n n' →
      Unnests ⟨k, t, before ++ n :: after, x⟩ ⟨k, t, before ++ n' :: after, x⟩

/-! ## Nodes that compile alike -/

section
variable {env : Environment} {n n' : Node}

/-- Two nodes of one kind that compile to the same in every place of a tree of statements. -/
structure CompilesAlike (env : Environment) (n n' : Node) : Prop where
  kind : n'.kind = n.kind
  statement : compileStatement env .standard n' = compileStatement env .standard n
  branch : ∀ parent, compileBranch env .standard parent n' = compileBranch env .standard parent n
  chain : n.kind = .ifStatement → compileChain env .standard n'.children = compileChain env .standard n.children
  clause : n.kind = .elseClause → compileElse env .standard n'.statement = compileElse env .standard n.statement

/-- What is no block is a branch that fails, whatever it holds. -/
theorem compileBranch_of_ne_block {r : Registry} {parent : Fragment} (hn : n.kind ≠ .block) :
    compileBranch env r parent n = .fail (.unsupported n.kind (.branchNotBlock n.text)) := by
  rw [compileBranch_eq, if_neg hn]

namespace CompilesAlike

theorem of_block (hn : n.kind = .block) (hn' : n'.kind = .block)
    (h : compileStatements env .standard n'.statements = compileStatements env .standard n.statements) :
    CompilesAlike env n n' where
  kind := hn'.trans hn.symm
  statement := by rw [compileStatement_block env hn', compileStatement_block env hn, h]
  branch := fun parent => by rw [compileBranch_eq, compileBranch_eq, if_pos hn, if_pos hn', h]
  chain := fun hk => by rw [hn] at hk; cases hk
  clause := fun hk => by rw [hn] at hk; cases hk

theorem of_if (hn : n.kind = .ifStatement) (hn' : n'.kind = .ifStatement) (ht : n'.text = n.text)
    (h : compileChain env .standard n'.children = compileChain env .standard n.children) : CompilesAlike env n n' where
  kind := hn'.trans hn.symm
  statement := by rw [compileStatement_if env hn', compileStatement_if env hn, h]
  branch := fun parent => by
    rw [compileBranch_of_ne_block (by simp [hn']), compileBranch_of_ne_block (by simp [hn]), hn, hn', ht]
  chain := fun _ => h
  clause := fun hk => by rw [hn] at hk; cases hk

theorem of_else (hn : n.kind = .elseClause) (hn' : n'.kind = .elseClause) (ht : n'.text = n.text)
    (h : compileElse env .standard n'.statement = compileElse env .standard n.statement) : CompilesAlike env n n' where
  kind := hn'.trans hn.symm
  statement := by
    rw [compileStatement_eq, compileStatement_eq, find?_standard, find?_standard, hn, hn']
    simp only [unknownStatement, hn, hn', ht]
  branch := fun parent => by
    rw [compileBranch_of_ne_block (by simp [hn']), compileBranch_of_ne_block (by simp [hn]), hn, hn', ht]
  chain := fun hk => by rw [hn] at hk; cases hk
  clause := fun _ => h

theorem otherwise (h : CompilesAlike env n n') :
    compileElse env .standard (some n') = compileElse env .standard (some n) := by
  rw [compileElse, compileElse, h.kind]
  by_cases hk : n.kind = .ifStatement
  · rw [if_pos hk, if_pos hk, h.chain hk]
  · rw [if_neg hk, if_neg hk, h.branch]

theorem block (h : CompilesAlike env n n') : compileBlock env .standard n' = compileBlock env .standard n := by
  rw [compileBlock_eq, compileBlock_eq, h.kind]
  by_cases hk : n.kind = .block
  · rw [if_pos hk, if_pos hk, ← compileStatement_block env hk, ← compileStatement_block env (h.kind.trans hk),
      h.statement]
  · rw [if_neg hk, if_neg hk]

end CompilesAlike

/-! ## Chains by their parts -/

theorem elseStatement_cons {t : Option String} {x : String} {c b e : Node} {more : List Node} :
    (Node.mk .ifStatement t (c :: b :: e :: more) x).elseStatement =
      if e.kind = .elseClause then e.statement else none := by
  by_cases he : e.kind = .elseClause <;> simp [Node.elseStatement, Node.childOf, Option.filter, he]

/-- A chain compiles to the same if its condition is the same and the other parts compile alike. -/
theorem compileChain_of_parts {r : Registry} (hn : n.kind = .ifStatement) (hn' : n'.kind = .ifStatement)
    (hc : n'.condition = n.condition)
    (hs : ∀ parent, n'.statement.map (compileBranch env r parent) = n.statement.map (compileBranch env r parent))
    (he : compileElse env r n'.elseStatement = compileElse env r n.elseStatement) :
    compileChain env r n'.children = compileChain env r n.children := by
  rw [compileChain_eq env r hn', compileChain_eq env r hn, hc, he]
  cases n.condition with
  | none => rfl
  | some c =>
    cases h : n.statement with
    | none =>
      have h' : n'.statement = none := by simpa [h] using hs (.empty whenTag)
      rw [h']
    | some s =>
      obtain ⟨s', h', -⟩ := Option.map_eq_some_iff.1 ((hs (.empty whenTag)).trans (by rw [h]; rfl))
      have hb : ∀ parent, compileBranch env r parent s' = compileBranch env r parent s := fun parent => by
        simpa [h, h'] using hs parent
      rw [h']
      dsimp only
      cases extractPredicate env c with
      | error e => rfl
      | ok p => dsimp only; rw [hb]

/-! ## One block gives way -/

theorem Unnests.compilesAlike (h : Unnests n n') : CompilesAlike env n n' := by
  induction h with
  | @here t x before b after hb =>
    refine .of_block rfl rfl ?_
    show compileStatements env .standard (before ++ (b.children ++ after)) =
      compileStatements env .standard (before ++ b :: after)
    have hc : b.statements = b.children := if_pos hb
    rw [compileStatements_append, compileStatements_append, compileStatements_append, compileStatements_cons,
      compileStatement_block env hb, hc]
  | @inside k t x before n n' after hk _ ih =>
    cases k with
    | block =>
      refine .of_block rfl rfl ?_
      show compileStatements env .standard (before ++ n' :: after) =
        compileStatements env .standard (before ++ n :: after)
      rw [compileStatements_append, compileStatements_append, compileStatements_cons, compileStatements_cons,
        ih.statement]
    | ifStatement =>
      refine .of_if rfl rfl rfl ?_
      -- The part that changes is the governed statement, the else clause, or one that nobody reads.
      match before, hk with
      | [c], _ =>
        exact compileChain_of_parts rfl rfl rfl (fun parent => congrArg some (ih.branch parent)) rfl
      | [c, b], _ =>
        refine compileChain_of_parts rfl rfl rfl (fun _ => rfl) ?_
        show compileElse env .standard (Node.mk .ifStatement t (c :: b :: n' :: after) x).elseStatement =
          compileElse env .standard (Node.mk .ifStatement t (c :: b :: n :: after) x).elseStatement
        rw [elseStatement_cons, elseStatement_cons, ih.kind]
        split
        · next he => exact ih.clause he
        · rfl
      | c :: b :: e :: more, _ =>
        exact compileChain_of_parts rfl rfl rfl (fun _ => rfl) rfl
    | elseClause =>
      refine .of_else rfl rfl rfl ?_
      cases before with
      | nil => exact ih.otherwise
      | cons t more => rfl
    | _ => cases hk

end

/-! ## All blocks give way -/

mutual

/-- The tree of statements in which every block among the statements of a block has given way. -/
def Node.unnested : Node → Node
  | ⟨.block, t, cs, x⟩ => ⟨.block, t, unnestedStatements cs, x⟩
  | ⟨.ifStatement, t, c :: cs, x⟩ => ⟨.ifStatement, t, c :: unnestedAll cs, x⟩
  | ⟨.elseClause, t, cs, x⟩ => ⟨.elseClause, t, unnestedAll cs, x⟩
  | n => n

/-- The same for each of some nodes. -/
def unnestedAll : List Node → List Node
  | [] => []
  | n :: ns => n.unnested :: unnestedAll ns

/-- The same for the statements of a block. -/
def unnestedStatements : List Node → List Node
  | [] => []
  | n :: ns => (if n.kind = .block then n.unnested.children else [n.unnested]) ++ unnestedStatements ns

end

/-- A tree in which no block can give way. -/
def Node.Settled (n : Node) : Prop := ∀ m, ¬ Unnests n m

/-- Some blocks give way, one after the other. -/
abbrev UnnestsTo : Node → Node → Prop := Relation.ReflTransGen Unnests

section
variable {n m : Node} {k : Kind} {t : Option String} {x : String} {cs before : List Node}

theorem UnnestsTo.inside {after : List Node} (hk : k.holdsStatement before.length) (h : UnnestsTo n m) :
    UnnestsTo ⟨k, t, before ++ n :: after, x⟩ ⟨k, t, before ++ m :: after, x⟩ :=
  Relation.ReflTransGen.lift (fun c => Node.mk k t (before ++ c :: after) x) (fun _ _ hc => .inside hk hc) n m h

theorem unnestsTo_all (before : List Node) (hk : ∀ i, before.length ≤ i → k.holdsStatement i)
    (h : ∀ c ∈ cs, UnnestsTo c c.unnested) :
    UnnestsTo ⟨k, t, before ++ cs, x⟩ ⟨k, t, before ++ unnestedAll cs, x⟩ := by
  induction cs generalizing before with
  | nil => exact .refl
  | cons c cs ih =>
    obtain ⟨hc, hcs⟩ := List.forall_mem_cons.1 h
    have hrest := @ih (before ++ [c.unnested]) (fun i hi => hk i (by simp at hi; omega)) hcs
    rw [List.append_assoc, List.append_assoc] at hrest
    exact (UnnestsTo.inside (hk _ (Nat.le_refl _)) hc).trans hrest

theorem unnested_kind (n : Node) : n.unnested.kind = n.kind := by
  obtain ⟨k, t, cs, x⟩ := n
  cases k <;> first | rfl | (cases cs <;> rfl)

theorem unnestsTo_statements (before : List Node) (h : ∀ c ∈ cs, UnnestsTo c c.unnested) :
    UnnestsTo ⟨.block, t, before ++ cs, x⟩ ⟨.block, t, before ++ unnestedStatements cs, x⟩ := by
  induction cs generalizing before with
  | nil => exact .refl
  | cons c cs ih =>
    obtain ⟨hc, hcs⟩ := List.forall_mem_cons.1 h
    have hin : UnnestsTo ⟨.block, t, before ++ c :: cs, x⟩ ⟨.block, t, before ++ c.unnested :: cs, x⟩ := .inside rfl hc
    rw [unnestedStatements]
    by_cases hk : c.kind = .block
    · rw [if_pos hk, ← List.append_assoc]
      have hrest := @ih (before ++ c.unnested.children) hcs
      rw [List.append_assoc] at hrest
      exact (hin.tail (.here ((unnested_kind c).trans hk))).trans hrest
    · rw [if_neg hk, ← List.append_assoc]
      have hrest := @ih (before ++ [c.unnested]) hcs
      rw [List.append_assoc] at hrest
      exact hin.trans hrest

/-- Blocks give way one by one until none is left. -/
theorem unnestsTo_unnested (n : Node) : UnnestsTo n n.unnested := by
  induction n using Node.children_induction with
  | parent n ih =>
    obtain ⟨k, t, cs, x⟩ := n
    cases k with
    | block => exact unnestsTo_statements [] ih
    | elseClause => exact unnestsTo_all [] (fun _ _ => rfl) ih
    | ifStatement =>
      cases cs with
      | nil => exact .refl
      | cons c cs =>
        refine unnestsTo_all [c] (fun i hi => ?_) (List.forall_mem_cons.1 ih).2
        simp only [List.length_singleton] at hi
        simp only [Kind.holdsStatement, bne_iff_ne, ne_eq]
        omega
    | _ => exact .refl

/-! ## No block is left -/

/-- No block can give way just if no block stands among the statements of a block, here or below. -/
theorem settled_iff : n.Settled ↔
    (n.kind = .block → ∀ c ∈ n.children, c.kind ≠ .block) ∧
      ∀ before c after, n.children = before ++ c :: after → n.kind.holdsStatement before.length → c.Settled := by
  obtain ⟨k, t, cs, x⟩ := n
  constructor
  · intro h
    constructor
    · rintro rfl c hc hb
      obtain ⟨before, after, rfl⟩ := List.append_of_mem hc
      exact h _ (.here hb)
    · rintro before c after rfl hk m hm
      exact h _ (.inside hk hm)
  · rintro ⟨hb, hc⟩ m hm
    cases hm with
    | here h => exact hb rfl _ (by simp) h
    | inside hk h => exact hc _ _ _ rfl hk _ h

theorem mem_unnestedAll {c : Node} (h : c ∈ unnestedAll cs) : ∃ d ∈ cs, c = d.unnested := by
  induction cs with
  | nil => cases h
  | cons d cs ih =>
    rcases List.mem_cons.1 h with rfl | h
    · exact ⟨d, List.mem_cons_self, rfl⟩
    · obtain ⟨e, he, rfl⟩ := ih h
      exact ⟨e, List.mem_cons_of_mem _ he, rfl⟩

theorem settled_unnestedStatements (h : ∀ c ∈ cs, c.unnested.Settled) :
    ∀ c ∈ unnestedStatements cs, c.kind ≠ .block ∧ c.Settled := by
  induction cs with
  | nil => exact fun c hc => by cases hc
  | cons d cs ih =>
    obtain ⟨hd, hcs⟩ := List.forall_mem_cons.1 h
    intro c hc
    rw [unnestedStatements] at hc
    rcases List.mem_append.1 hc with hc | hc
    · split at hc
      · next hk =>
        -- The statements of the block that gives way are settled with it.
        have hk' := (unnested_kind d).trans hk
        obtain ⟨hne, hin⟩ := settled_iff.1 hd
        obtain ⟨before, after, he⟩ := List.append_of_mem hc
        exact ⟨hne hk' c hc, hin before c after he (by rw [hk']; rfl)⟩
      · next hk =>
        obtain rfl := List.mem_singleton.1 hc
        exact ⟨by rw [unnested_kind]; exact hk, hd⟩
    · exact ih hcs c hc

theorem settled_unnested (n : Node) : n.unnested.Settled := by
  induction n using Node.children_induction with
  | parent n ih =>
    obtain ⟨k, t, cs, x⟩ := n
    have hall : ∀ c ∈ unnestedAll cs, c.Settled := fun c hc => by
      obtain ⟨d, hd, rfl⟩ := mem_unnestedAll hc
      exact ih d hd
    cases k with
    | block =>
      have hs := settled_unnestedStatements ih
      refine settled_iff.2 ⟨fun _ c hc => (hs c hc).1, fun before c after he _ => (hs c ?_).2⟩
      show c ∈ (Node.mk .block t cs x).unnested.children
      simp [he]
    | elseClause =>
      refine settled_iff.2 ⟨nofun, fun before c after he _ => hall c ?_⟩
      show c ∈ (Node.mk .elseClause t cs x).unnested.children
      simp [he]
    | ifStatement =>
      refine settled_iff.2 ⟨?_, ?_⟩
      · rw [unnested_kind]
        exact nofun
      · intro before d after he hk
        cases cs with
        | nil => cases before <;> cases he
        | cons c cs =>
          -- The condition stands first, so a statement stands among the rest.
          match before, hk with
          | _ :: before, _ =>
            obtain ⟨-, he⟩ := List.cons_eq_cons.1 he
            exact hall d (by simp [unnestedAll, he])
    | _ => exact settled_iff.2 ⟨nofun, nofun⟩

end

/-- Blocks among the statements of a block, at any depth, may give way to their statements: what is
added to a scope stays the same, the reports with their order and the failure included. All of them
can give way, and the tree in which none is left compiles like the one with all of them. -/
theorem nested_blocks_are_transparent (s : Scope) (b : Node) :
    (∀ b', UnnestsTo b b' → s.run (compileBlock s.env .standard b') = s.run (compileBlock s.env .standard b)) ∧
      UnnestsTo b b.unnested ∧ b.unnested.Settled ∧
      s.run (compileBlock s.env .standard b.unnested) = s.run (compileBlock s.env .standard b) := by
  have h : ∀ b', UnnestsTo b b' → s.run (compileBlock s.env .standard b') = s.run (compileBlock s.env .standard b) := by
    intro b' hb
    induction hb with
    | refl => rfl
    | tail _ hstep ih => rw [hstep.compilesAlike.block, ih]
  exact ⟨h, unnestsTo_unnested b, settled_unnested b, h _ (unnestsTo_unnested b)⟩

/-- A block with statements in the else branch of an if inside it. -/
def elseTree (statements : List Node) : Node :=
  let condition := Node.anonymousFunction "context => context.Fresh"
  let otherwise := Node.mk .elseClause none [⟨.block, none, statements, "\x7b \x7d"⟩] "else"
  ⟨.block, none, [⟨.ifStatement, none, [condition, .block [], otherwise], "if"⟩], "\x7b \x7d"⟩

theorem nested_blocks_are_transparent_else :
    let base := Node.expressionStatement (.methodCall "context" "Base" [])
    let unknown := Node.returnStatement (.identifier "x")
    let nested := elseTree [base, .block [unknown, base], base]
    let flat := elseTree [base, unknown, base, base]
    UnnestsTo nested flat ∧ nested ≠ flat ∧
      startedScope.run (compileBlock startedScope.env .standard flat) =
        startedScope.run (compileBlock startedScope.env .standard nested) := by
  intro base unknown nested flat
  have hu : Unnests nested flat :=
    @Unnests.inside _ _ _ [] _ _ _ rfl (@Unnests.inside _ _ _ [_, _] _ _ _ rfl
      (@Unnests.inside _ _ _ [] _ _ _ rfl (@Unnests.here _ _ [base] (.block [unknown, base]) _ rfl)))
  exact ⟨.single hu, by decide +kernel, (nested_blocks_are_transparent startedScope nested).1 flat (.single hu)⟩

end GatewayPolicy
