import GatewayPolicy.Proofs.Element
import GatewayPolicy.Proofs.Emission
import GatewayPolicy.Proofs.Rendering
import GatewayPolicy.Proofs.Sections
/-!
# The vocabulary of documents

Whatever a declaration says, its document is written with the same few names: what comes from the
declaration stands in values and texts. No element has both a text and children.
-/

namespace GatewayPolicy

/-- The tags and the attribute names of documents. -/
def vocabulary : List String :=
  ["policies", "inbound", "outbound", "on-error", "choose", "when", "condition", "otherwise", "base", "set-header",
    "name", "exists-action", "value", "set-body", "authentication-basic", "username", "password",
    "authentication-managed-identity", "resource", "client-id", "output-token-variable-name", "rate-limit-by-key",
    "calls", "renewal-period", "counter-key", "increment-condition"]

theorem isName_of_mem_vocabulary : ∀ name ∈ vocabulary, Xml.isName name := by decide +kernel

/-- A fragment with names of the vocabulary, all the way down, and with text or children but not both. -/
inductive Fragment.InVocabulary : Fragment → Prop
  | intro {f : Fragment} (tag : f.tag ∈ vocabulary) (attributes : ∀ e ∈ f.attributes.entries, e.1 ∈ vocabulary)
    (content : f.text = none ∨ f.children = []) (children : ∀ c ∈ f.children, c.InVocabulary) : f.InVocabulary

namespace Fragment.InVocabulary

variable {f : Fragment} {name value : String}

theorem isPlain (h : f.InVocabulary) : f.IsPlain := by
  induction h with
  | intro ht ha hc _ ih =>
    exact .intro (isName_of_mem_vocabulary _ ht) (fun e he => isName_of_mem_vocabulary _ (ha e he)) hc ih

/-! ## Building -/

theorem empty {tag : String} (h : tag ∈ vocabulary) : (Fragment.empty tag).InVocabulary :=
  .intro h (by simp [Fragment.empty, Attributes.empty]) (.inl rfl) (by simp)

theorem withAttribute (h : f.InVocabulary) (hn : name ∈ vocabulary) (value : String) :
    (f.withAttribute name value).InVocabulary := by
  obtain ⟨ht, ha, hx, hc⟩ := h
  refine .intro ht (fun e he => ?_) hx hc
  rcases Entries.mem_put he with rfl | he
  · exact hn
  · exact ha e he

theorem withAttribute? (h : f.InVocabulary) (hn : name ∈ vocabulary) (value : Option String) :
    (f.withAttribute? name value).InVocabulary := by
  cases value with
  | none => exact h
  | some v => exact h.withAttribute hn v

theorem withText (h : f.InVocabulary) (hc : f.children = []) (text : String) : (f.withText text).InVocabulary := by
  obtain ⟨ht, ha, -, hcs⟩ := h
  exact .intro ht ha (.inr hc) hcs

theorem withChildren (h : f.InVocabulary) (ht : f.text = none) {cs : List Fragment}
    (hcs : ∀ c ∈ cs, c.InVocabulary) : (f.withChildren cs).InVocabulary := by
  obtain ⟨htag, ha, -, hc⟩ := h
  exact .intro htag ha (.inl ht) (List.forall_mem_append.2 ⟨hc, hcs⟩)

end Fragment.InVocabulary

theorem LeafElement.inVocabulary {f : Fragment} (h : LeafElement f) : f.InVocabulary := by
  cases h with
  | base => exact .empty (by decide)
  | header name a values =>
    refine .withChildren ((Fragment.InVocabulary.empty (by decide)).withAttribute (by decide) _
      |>.withAttribute (by decide) _) rfl fun v hv => ?_
    obtain ⟨s, -, rfl⟩ := List.mem_map.1 hv
    exact (Fragment.InVocabulary.empty (by decide)).withText rfl _
  | body body => exact (Fragment.InVocabulary.empty (by decide)).withText rfl _
  | basic username password =>
    exact (Fragment.InVocabulary.empty (by decide)).withAttribute (by decide) _ |>.withAttribute (by decide) _
  | managedIdentity resource clientId output =>
    exact (Fragment.InVocabulary.empty (by decide)).withAttribute (by decide) _
      |>.withAttribute? (by decide) _ |>.withAttribute? (by decide) _
  | rateLimit calls period key condition =>
    exact (Fragment.InVocabulary.empty (by decide)).withAttribute (by decide) _
      |>.withAttribute (by decide) _ |>.withAttribute (by decide) _ |>.withAttribute? (by decide) _

/-! ## Compiling -/

/-- An emission with names of the vocabulary, whether it ends in a failure or not. -/
def Emission.InVocabulary (e : Emission) : Prop := ∀ f ∈ e.fragments, f.InVocabulary

namespace Emission.InVocabulary

variable {a b e : Emission} {parent : Fragment}

theorem empty : Emission.InVocabulary {} := by
  intro f hf
  cases hf

theorem fail (c : Cause) : (Emission.fail c).InVocabulary := by
  intro f hf
  cases hf

theorem ofElement {x : Except Cause Fragment} (h : ∀ f, x = .ok f → LeafElement f) :
    (Emission.ofElement x).InVocabulary := by
  cases x with
  | error c => exact fail c
  | ok f => exact List.forall_mem_singleton.2 (h f rfl).inVocabulary

theorem andThen (ha : a.InVocabulary) (hb : b.InVocabulary) : (a.andThen b).InVocabulary := by
  unfold Emission.andThen
  split
  · exact ha
  · exact List.forall_mem_append.2 ⟨ha, hb⟩

theorem wrap (h : e.InVocabulary) (hp : parent.InVocabulary) (ht : parent.text = none) :
    (e.wrap parent).InVocabulary := by
  unfold Emission.wrap
  split
  · exact fail _
  · exact List.forall_mem_singleton.2 (hp.withChildren ht h)

theorem gather (h : e.InVocabulary) (hp : parent.InVocabulary) (ht : parent.text = none) :
    (e.gather parent).InVocabulary := by
  unfold Emission.gather
  split
  · exact empty
  · exact List.forall_mem_singleton.2 (hp.withChildren ht h)

end Emission.InVocabulary

section
variable (env : Environment) (r : Registry)

def ListInVocabulary (ns : List Node) : Prop := (compileStatements env r ns).InVocabulary

def ChainInVocabulary (n : Node) : Prop := (compileChain env r n.children).InVocabulary

variable {env r}

theorem statement_inVocabulary {n : Node} (hs : ListInVocabulary env r n.statements)
    (hc : n.kind = .ifStatement → ChainInVocabulary env r n) : (compileStatement env r n).InVocabulary := by
  rw [compileStatement_eq]
  split
  · next h => exact .ofElement fun f => callStatement_leaf (kind_of_find? r h).symm
  · next h => exact .ofElement fun f => bindingStatement_leaf (kind_of_find? r h).symm
  · next h => exact (hc (kind_of_find? r h).symm).gather (.empty (by decide)) rfl
  · next h =>
    have hk : n.kind = .block := (kind_of_find? r h).symm
    rw [ListInVocabulary, Node.statements, if_pos hk] at hs
    exact hs
  · intro f hf
    unfold unknownStatement at hf
    split at hf <;> cases hf

theorem branch_inVocabulary {n : Node} (hs : ListInVocabulary env r n.statements) {parent : Fragment}
    (hp : parent.InVocabulary) (ht : parent.text = none) : (compileBranch env r parent n).InVocabulary := by
  rw [compileBranch_eq]
  split
  · exact hs.wrap hp ht
  · exact .fail _

theorem chain_inVocabulary {n : Node} (hn : n.kind = .ifStatement)
    (hs : ∀ s, n.statement = some s → ListInVocabulary env r s.statements)
    (ht : ∀ t, n.elseStatement = some t →
      (t.kind = .ifStatement → ChainInVocabulary env r t) ∧ ListInVocabulary env r t.statements) :
    ChainInVocabulary env r n := by
  rw [ChainInVocabulary, compileChain_eq env r hn]
  split
  · exact .fail _
  · exact .fail _
  · next c s _ hb =>
    split
    · exact .fail _
    · next p _ =>
      have hwhen : (whenElement p).InVocabulary :=
        (Fragment.InVocabulary.empty (by decide)).withAttribute (by decide) _
      refine .andThen (branch_inVocabulary (hs s hb) hwhen rfl) ?_
      unfold compileElse
      split
      · exact .empty
      · next t he =>
        split
        · next hk => exact (ht t he).1 hk
        · exact branch_inVocabulary (ht t he).2 (.empty (by decide)) rfl

theorem statements_inVocabulary (ns : List Node) : ListInVocabulary env r ns := by
  refine Node.chains_induction (P := ListInVocabulary env r) (Q := ChainInVocabulary env r) ?_ ?_ ?_ ns
  · rw [ListInVocabulary, compileStatements_nil]
    exact .empty
  · intro n ns hs hc ih
    rw [ListInVocabulary, compileStatements_cons]
    exact (statement_inVocabulary hs hc).andThen ih
  · exact fun n => chain_inVocabulary

end

/-- Every document is written with the vocabulary, whatever compilers made it. -/
theorem PolicyCompiler.toFragment_inVocabulary {c : PolicyCompiler} {d : Declaration} {doc : Document}
    (h : c.compile d = .ok doc) : doc.toFragment.InVocabulary := by
  refine .withChildren (.empty (by decide)) rfl fun f hf => ?_
  obtain ⟨m, s, b, fs, -, -, -, hfs, rfl⟩ := sectionOf_of_mem h hf
  have hs : s.tag ∈ vocabulary := by cases s <;> decide
  have hall : ListInVocabulary (c.environment d) c.registry b.statements := statements_inVocabulary _
  rw [ListInVocabulary, hfs] at hall
  exact (Fragment.InVocabulary.empty hs).withChildren rfl hall

end GatewayPolicy
