import GatewayPolicy.Compile.Scope
import GatewayPolicy.Proofs.Gives
import GatewayPolicy.Proofs.Layout
import GatewayPolicy.Proofs.Sections
/-!
# Nothing is lost or added

The elements of a compiled section account for the statements of its body, one for one:
the leaves for the policy statements, in order, each as it compiles alone; the elements of
if chains for the if statements and the last else clauses. The body is walked by its
children and not by the functions the compiler reads it with, so no statement escapes.
-/

namespace GatewayPolicy

/-! ## Both sides as lists -/

mutual

/-- The statements and else clauses inside a node, in source order, each with the kind of the node
it stands in. Expressions are not entered. -/
def Node.inside : Node → List (Kind × Node)
  | ⟨.block, _, cs, _⟩ => insideAll .block cs
  | ⟨.ifStatement, _, _ :: cs, _⟩ => insideAll .ifStatement cs
  | ⟨.elseClause, _, cs, _⟩ => insideAll .elseClause cs
  | _ => []

/-- Some children of a node of the given kind, with everything inside them. -/
def insideAll (parent : Kind) : List Node → List (Kind × Node)
  | [] => []
  | n :: ns => (parent, n) :: (n.inside ++ insideAll parent ns)

end

mutual

/-- The elements of a tree, each before its children. -/
def Fragment.preorder : Fragment → List Fragment
  | ⟨tag, as, x, cs⟩ => ⟨tag, as, x, cs⟩ :: preorderAll cs

/-- The elements of some trees. -/
def preorderAll : List Fragment → List Fragment
  | [] => []
  | f :: fs => f.preorder ++ preorderAll fs

end

/-- Whether an element is that of a policy: no part of an if chain and no value. -/
def Fragment.isPolicy (f : Fragment) : Bool := !([chooseTag, whenTag, otherwiseTag, valueTag].contains f.tag)

/-- Whether a visited node is an if statement. -/
def isIf (v : Kind × Node) : Bool := v.2.kind == .ifStatement

/-- Whether a visited node is an if statement that does not stand after an else. -/
def isChainHead (v : Kind × Node) : Bool := v.2.kind == .ifStatement && v.1 != .elseClause

/-- Whether a visited node is an else clause with a block. -/
def isLastElse (v : Kind × Node) : Bool := v.2.kind == .elseClause && v.2.statement.any (·.kind == .block)

/-- Compiled alone in an empty scope of the section, a statement gives the element and nothing else. -/
def GivesAlone (env : Environment) (s : Section) (n : Node) (f : Fragment) : Prop :=
  (Scope.mk s env [] []).run (compileStatement env .standard n) = (⟨s, env, [f], []⟩, .ok ())

/-- These elements account for these visited nodes. -/
structure AccountsFor (env : Environment) (s : Section) (fs : List Fragment) (vs : List (Kind × Node)) : Prop where
  policies : List.Forall₂ (GivesAlone env s) ((vs.map Prod.snd).filter Node.isPolicy) (fs.filter Fragment.isPolicy)
  whens : fs.countP (·.tag == whenTag) = vs.countP isIf
  chooses : fs.countP (·.tag == chooseTag) = vs.countP isChainHead
  otherwises : fs.countP (·.tag == otherwiseTag) = vs.countP isLastElse

/-! ## Walking -/

section
variable {n : Node}

theorem insideAll_cons (k : Kind) (n : Node) (ns : List Node) :
    insideAll k (n :: ns) = insideAll k [n] ++ insideAll k ns := by
  simp [insideAll]

theorem insideAll_singleton (k : Kind) (n : Node) : insideAll k [n] = (k, n) :: n.inside := by
  simp [insideAll]

theorem inside_block (hn : n.kind = .block) : n.inside = insideAll .block n.statements := by
  obtain ⟨k, t, cs, x⟩ := n
  obtain rfl : k = .block := hn
  rfl

theorem inside_if {c : Node} {cs : List Node} (hn : n.kind = .ifStatement) (hc : n.children = c :: cs) :
    n.inside = insideAll .ifStatement cs := by
  obtain ⟨k, t, cs, x⟩ := n
  obtain rfl : k = .ifStatement := hn
  cases hc
  rfl

theorem inside_else (hn : n.kind = .elseClause) : n.inside = insideAll .elseClause n.children := by
  obtain ⟨k, t, cs, x⟩ := n
  obtain rfl : k = .elseClause := hn
  rfl

theorem inside_other (hn : n.kind ∉ [.block, .ifStatement, .elseClause]) : n.inside = [] := by
  obtain ⟨k, t, cs, x⟩ := n
  cases k <;> first | rfl | simp at hn

variable {env : Environment} {p : Snippet} {b : Node}

/-- Inside an if statement without an else there is the block it governs. -/
theorem inside_no_else (h : n.Sound) (hg : Guards env n p b) (he : n.elseStatement = none) :
    n.inside = (.ifStatement, b) :: insideAll .block b.statements := by
  obtain ⟨c, ⟨hc, -⟩ | ⟨e, t, -, -, -, ht⟩⟩ := h.places_if hg.kind hg.statement
  · rw [inside_if hg.kind hc, insideAll_singleton, inside_block hg.block]
  · rw [he] at ht
    cases ht

/-- After the block there is the else clause with its statement. -/
theorem inside_with_else {t : Node} (h : n.Sound) (hg : Guards env n p b) (he : n.elseStatement = some t) :
    ∃ e, e.kind = .elseClause ∧ e.children = [t] ∧
      n.inside = (.ifStatement, b) ::
        (insideAll .block b.statements ++ (.ifStatement, e) :: (.elseClause, t) :: t.inside) := by
  obtain ⟨c, ⟨-, hc⟩ | ⟨e, t', hc, hek, het, ht⟩⟩ := h.places_if hg.kind hg.statement
  · rw [he] at hc
    cases hc
  · obtain rfl : t = t' := by simpa [he] using ht
    refine ⟨e, hek, het, ?_⟩
    rw [inside_if hg.kind hc, insideAll_cons, insideAll_singleton, insideAll_singleton, inside_block hg.block,
      inside_else hek, het, insideAll_singleton, List.cons_append]

end

@[simp] theorem preorderAll_nil : preorderAll [] = [] := by
  rw [preorderAll]

theorem preorderAll_cons (f : Fragment) (fs : List Fragment) :
    preorderAll (f :: fs) = f :: (preorderAll f.children ++ preorderAll fs) := by
  obtain ⟨tag, as, x, cs⟩ := f
  rw [preorderAll, Fragment.preorder, List.cons_append]

theorem preorderAll_append (fs gs : List Fragment) : preorderAll (fs ++ gs) = preorderAll fs ++ preorderAll gs := by
  induction fs with
  | nil => simp
  | cons f fs ih => rw [List.cons_append, preorderAll_cons, preorderAll_cons, ih, List.cons_append, List.append_assoc]

/-- Elements without children are all there is of them. -/
theorem preorderAll_childless {fs : List Fragment} (h : ∀ f ∈ fs, f.children = []) : preorderAll fs = fs := by
  induction fs with
  | nil => simp
  | cons f fs ih =>
    obtain ⟨hf, hfs⟩ := List.forall_mem_cons.1 h
    rw [preorderAll_cons, hf, ih hfs, preorderAll_nil, List.nil_append]

/-! ## Accounts add up -/

namespace AccountsFor

variable {env : Environment} {s : Section} {fs gs : List Fragment} {vs ws : List (Kind × Node)} {n b e t : Node}
  {k : Kind}

theorem nil : AccountsFor env s [] [] := ⟨.nil, rfl, rfl, rfl⟩

theorem append (h : AccountsFor env s fs vs) (h' : AccountsFor env s gs ws) :
    AccountsFor env s (fs ++ gs) (vs ++ ws) where
  policies := by
    rw [List.map_append, List.filter_append, List.filter_append]
    exact List.rel_append h.policies h'.policies
  whens := by rw [List.countP_append, List.countP_append, h.whens, h'.whens]
  chooses := by rw [List.countP_append, List.countP_append, h.chooses, h'.chooses]
  otherwises := by rw [List.countP_append, List.countP_append, h.otherwises, h'.otherwises]

/-- A node that is neither a policy statement nor a part of an if chain. -/
theorem plain (hn : n.kind = .block ∨ n.kind = .returnStatement) : AccountsFor env s [] [(k, n)] := by
  rcases hn with hn | hn <;> constructor <;> simp [isIf, isChainHead, isLastElse, Node.isPolicy, hn]

theorem elseIf (he : e.kind = .elseClause) (ht : e.children = [t]) (hk : t.kind = .ifStatement) :
    AccountsFor env s [] [(k, e)] := by
  constructor <;> simp [isIf, isChainHead, isLastElse, Node.isPolicy, Node.statement, he, ht, hk]

theorem lastElse (gs : List Fragment) (he : e.kind = .elseClause) (ht : e.children = [t]) (hk : t.kind = .block) :
    AccountsFor env s [otherwiseBranch gs] [(k, e)] := by
  constructor <;>
    simp [isIf, isChainHead, isLastElse, Node.isPolicy, Node.statement, Fragment.isPolicy, he, ht, hk, otherwiseTag,
      chooseTag, whenTag]

theorem chain (bs fs : List Fragment) (p : Snippet) (hk : k ≠ .elseClause) (hn : n.kind = .ifStatement) :
    AccountsFor env s [chooseElement bs, whenBranch p fs] [(k, n)] := by
  constructor <;>
    simp [isIf, isChainHead, isLastElse, Node.isPolicy, Fragment.isPolicy, hk, hn, otherwiseTag, chooseTag, whenTag]

/-- The first branch of a chain with its block, in front of the rest. -/
theorem branch (bs gs : List Fragment) (p : Snippet) {j : Kind} (hk : k ≠ .elseClause) (hn : n.kind = .ifStatement)
    (hb : b.kind = .block) (h : AccountsFor env s fs vs) :
    AccountsFor env s (chooseElement bs :: whenBranch p gs :: fs) ((k, n) :: (j, b) :: vs) := by
  have hblock : AccountsFor env s fs ((j, b) :: vs) := (plain (.inl hb)).append h
  exact (chain bs gs p hk hn).append hblock

/-- After an else an if statement goes on with the chain and needs no element around it. -/
theorem link {bs : List Fragment} (ht : t.kind = .ifStatement)
    (h : AccountsFor env s (chooseElement bs :: fs) ((.block, t) :: vs)) :
    AccountsFor env s fs ((.elseClause, t) :: vs) where
  policies := by simpa [Fragment.isPolicy] using h.policies
  whens := by simpa [isIf, ht, chooseTag, whenTag] using h.whens
  chooses := by simpa [isChainHead, ht] using h.chooses
  otherwises := by simpa [isLastElse, ht, chooseTag, otherwiseTag] using h.otherwises

theorem values (h : ∀ f ∈ fs, f.tag = valueTag) : AccountsFor env s fs [] := by
  have ht : ∀ tag, tag ≠ valueTag → fs.countP (·.tag == tag) = 0 := by
    intro tag hne
    refine List.countP_eq_zero.2 fun f hf => ?_
    simpa [h f hf] using hne.symm
  have hnil : fs.filter Fragment.isPolicy = [] := by
    refine List.filter_eq_nil_iff.2 fun f hf => ?_
    simp [Fragment.isPolicy, h f hf]
  constructor
  · rw [hnil]
    exact .nil
  · exact ht _ (by decide)
  · exact ht _ (by decide)
  · exact ht _ (by decide)

theorem leaf {f : Fragment} (hn : n.isPolicy) (hl : f.IsLeaf) (ha : GivesAlone env s n f) :
    AccountsFor env s [f] [(k, n)] := by
  have ht := hl.tag_not_mem
  have hf : f.isPolicy := by simpa [Fragment.isPolicy] using ht
  simp only [List.mem_cons, List.not_mem_nil, or_false, not_or] at ht
  simp only [Node.isPolicy, Bool.or_eq_true, beq_iff_eq] at hn
  rcases hn with hn | hn <;> constructor <;>
    simp [isIf, isChainHead, isLastElse, Node.isPolicy, hn, hf, ht, ha]

/-- A policy statement accounts for its leaf with the values below it. -/
theorem policy {f : Fragment} (hn : n.isPolicy) (hf : policyElement env n = .ok f) :
    AccountsFor env s (preorderAll [f]) [(k, n)] := by
  have hl := policyElement_isLeaf hn hf
  have ha : GivesAlone env s n f := by
    rw [GivesAlone, compileStatement_policy env hn, hf]
    rfl
  rw [preorderAll_cons, preorderAll_nil, List.append_nil, preorderAll_childless fun c hc => (hl.values c hc).2]
  exact (leaf hn hl ha).append (values fun c hc => (hl.values c hc).1)

end AccountsFor

/-! ## Statements -/

section
variable {env : Environment} {ns : List Node} {fs : List Fragment} {rs : List String}

/-- What a list of sound statements gives accounts for everything inside it. -/
theorem Gives.accountsFor (s : Section) (h : Gives env ns fs rs) (hn : ∀ n ∈ ns, n.Sound ∧ n.kind.isStatement) :
    AccountsFor env s (preorderAll fs) (insideAll .block ns) := by
  induction h with
  | nil => exact .nil
  | cons _ _ ih ihs =>
    rw [List.forall_mem_cons] at hn
    rw [preorderAll_append, insideAll_cons]
    exact (ih (by simpa using hn.1)).append (ihs hn.2)
  | @policy n f hp hf =>
    have hi : n.kind ∉ [.block, .ifStatement, .elseClause] := by
      simp only [Node.isPolicy, Bool.or_eq_true, beq_iff_eq] at hp
      rcases hp with hp | hp <;> simp [hp]
    rw [insideAll_singleton, inside_other hi]
    exact .policy hp hf
  | @unknown n fs rs hu he =>
    have hk : n.kind = .returnStatement := by
      have hs := (hn n List.mem_cons_self).2
      rw [Node.isUnknown, find?_standard] at hu
      cases hk : n.kind <;> simp_all [Kind.isStatement]
    have hfs : fs = [] := by
      unfold unknownStatement at he
      split at he <;> cases he <;> rfl
    rw [insideAll_singleton, inside_other (by simp [hk]), hfs]
    exact .plain (.inr hk)
  | @block n fs rs hk _ ih =>
    have hs := (hn n List.mem_cons_self).1
    rw [insideAll_singleton, inside_block hk]
    exact (AccountsFor.plain (.inl hk)).append (ih hs.isStatement_statements)
  | @ifOnly n p b fs rs hg he _ ih =>
    have hs := (hn n List.mem_cons_self).1
    have ih := ih (hs.statement hg.statement).isStatement_statements
    rw [insideAll_singleton, inside_no_else hs hg he]
    simp only [preorderAll_cons, preorderAll_nil, chooseElement_children, whenBranch_children, List.append_nil]
    exact .branch _ _ p (by decide) hg.kind hg.block ih
  | @ifElse n p b t fs rs gs qs hg he ht _ _ ih iht =>
    have hs := (hn n List.mem_cons_self).1
    have ih := ih (hs.statement hg.statement).isStatement_statements
    have iht := iht (hs.elseStatement he).isStatement_statements
    obtain ⟨e, hek, het, hi⟩ := inside_with_else hs hg he
    rw [insideAll_singleton, hi, inside_block ht]
    simp only [preorderAll_cons, preorderAll_nil, chooseElement_children, whenBranch_children,
      otherwiseBranch_children, List.append_nil]
    have hlast : AccountsFor env s (otherwiseBranch gs :: preorderAll gs)
        ((.ifStatement, e) :: (.elseClause, t) :: insideAll .block t.statements) :=
      (AccountsFor.lastElse gs hek het ht).append ((AccountsFor.plain (.inl ht)).append iht)
    exact .branch _ _ p (by decide) hg.kind hg.block (ih.append hlast)
  | @ifElseIf n p b t fs rs bs qs hg he ht _ _ ih iht =>
    have hs := (hn n List.mem_cons_self).1
    have ih := ih (hs.statement hg.statement).isStatement_statements
    have iht := iht (by simpa [ht, Kind.isStatement] using hs.elseStatement he)
    obtain ⟨e, hek, het, hi⟩ := inside_with_else hs hg he
    rw [insideAll_singleton, hi]
    simp only [insideAll_singleton, preorderAll_cons, preorderAll_nil, chooseElement_children, whenBranch_children,
      List.append_nil] at iht ⊢
    -- The rest of the chain was accounted for as an if statement of its own, with a `choose` around it.
    have hnext : AccountsFor env s (preorderAll bs) ((.ifStatement, e) :: (.elseClause, t) :: t.inside) :=
      (AccountsFor.elseIf hek het ht).append (iht.link ht)
    exact .branch _ _ p (by decide) hg.kind hg.block (ih.append hnext)

end

/-! ## Sections -/

/-- A section accounts for the body of its method: its elements below the section element for what
is inside the body. -/
def KeepsBody (env : Environment) (m : Method) (f : Fragment) : Prop :=
  ∃ s b, Section.ofMethodName? m.name = some s ∧ m.body = some b ∧ f.tag = s.tag ∧
    AccountsFor env s (preorderAll f.children) b.inside

/-- Compilation keeps every statement. When a checked declaration compiles, with any options, its
sections account for the bodies of its section methods. -/
theorem compile_keeps_statements {o : Options} {d : Declaration} {doc : Document} (hd : d.check = .ok ())
    (h : (PolicyCompiler.standard o).compile d = .ok doc) :
    List.Forall₂ (KeepsBody ⟨.ofDeclaration d, o⟩) d.sectionMethods doc.sections := by
  have hc : ∀ m ∈ d.sectionMethods, m.check d.name = .ok () := fun m hm =>
    Declaration.check_ok.1 hd m (List.mem_filter.1 hm).1
  have hall := (List.forall₂_and_left _ _).2 ⟨hc, PolicyCompiler.compile_ok h⟩
  refine hall.imp ?_
  rintro m f ⟨hm, s, b, fs, hs, hb, hk, hfs, rfl⟩
  obtain ⟨-, hb'⟩ := m.body_of_check hm hb
  refine ⟨s, b, hs, hb, rfl, ?_⟩
  rw [inside_block hk]
  exact (gives_of_compile hfs).accountsFor s hb'.isStatement_statements

theorem compile_keeps_statements_branching :
    branchingDeclaration.check = .ok () ∧
      ∃ doc, (PolicyCompiler.standard {}).compile branchingDeclaration = .ok doc ∧
        List.Forall₂ (KeepsBody ⟨.ofDeclaration branchingDeclaration, {}⟩)
          branchingDeclaration.sectionMethods doc.sections := by
  have hd : branchingDeclaration.check = .ok () := by decide +kernel
  obtain ⟨doc, h⟩ := exists_of_isOk (x := PolicyCompiler.compile (.standard {}) branchingDeclaration)
    (by decide +kernel)
  exact ⟨hd, doc, h, compile_keeps_statements hd h⟩

end GatewayPolicy
