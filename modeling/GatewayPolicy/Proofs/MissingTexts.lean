import GatewayPolicy.Proofs.Completion
import GatewayPolicy.Proofs.LayoutErrors
import Mathlib.Data.List.Forall2
/-!
# Missing texts

Completion fills in the texts that are missing, each from the parts of its node as they are after
filling, and changes nothing else. After it, a checked tree has a text at every node, but for
interpolated texts that are empty themselves. Texts that nodes have by construction need not be
stored: whichever of them are left out, completion brings them back.
-/

namespace GatewayPolicy

/-! ## The nodes of a tree -/

mutual

/-- The nodes of a tree, each in front of those below it. -/
def Node.preorder : Node → List Node
  | ⟨k, t, cs, x⟩ => ⟨k, t, cs, x⟩ :: preorderAll cs

/-- The nodes of some trees, one tree after the other. -/
def Node.preorderAll : List Node → List Node
  | [] => []
  | c :: cs => c.preorder ++ preorderAll cs

end

/-- The nodes of the bodies of a method. -/
def Method.nodes (m : Method) : List Node := Node.preorderAll (m.body.toList ++ m.expressionBody.toList)

/-- The nodes of a declaration. -/
def Declaration.nodes (d : Declaration) : List Node := d.methods.flatMap Method.nodes

namespace Node

variable {n : Node}

theorem preorderAll_append (ns ms : List Node) : preorderAll (ns ++ ms) = preorderAll ns ++ preorderAll ms := by
  induction ns with
  | nil => rfl
  | cons n ns ih => rw [List.cons_append, preorderAll, preorderAll, ih, List.append_assoc]

theorem forall_mem_preorderAll {P : Node → Prop} {ns : List Node} :
    (∀ m ∈ preorderAll ns, P m) ↔ ∀ n ∈ ns, ∀ m ∈ n.preorder, P m := by
  induction ns with
  | nil => simp [preorderAll]
  | cons n ns ih => rw [preorderAll, List.forall_mem_append, ih, List.forall_mem_cons]

/-- A property of all nodes of a tree, from the node at its top and the trees below. -/
theorem forall_mem_preorder {P : Node → Prop} :
    (∀ m ∈ n.preorder, P m) ↔ P n ∧ ∀ c ∈ n.children, ∀ m ∈ c.preorder, P m := by
  obtain ⟨k, t, cs, x⟩ := n
  rw [preorder, List.forall_mem_cons, forall_mem_preorderAll]

/-! ## Counting -/

theorem missingTexts_eq (n : Node) : n.missingTexts = n.preorder.countP (·.text = "") := by
  induction n using children_induction with
  | parent n ih =>
    obtain ⟨k, t, cs, x⟩ := n
    have hc : missingTextsAll cs = (preorderAll cs).countP (·.text = "") := by
      induction cs with
      | nil => rfl
      | cons c cs ihc =>
        obtain ⟨h, hcs⟩ := List.forall_mem_cons.1 ih
        rw [missingTextsAll, preorderAll, List.countP_append, h, ihc hcs]
    rw [missingTexts, preorder, List.countP_cons, hc]
    simp only [decide_eq_true_eq]

end Node

theorem Method.missingTexts_eq (m : Method) : m.missingTexts = m.nodes.countP (·.text = "") := by
  have ho : ∀ o : Option Node, (o.map Node.missingTexts).getD 0 = (Node.preorderAll o.toList).countP (·.text = "") := by
    intro o
    cases o with
    | none => rfl
    | some n => simp [Node.missingTexts_eq, Node.preorderAll]
  rw [missingTexts, nodes, Node.preorderAll_append, List.countP_append, ho, ho]

theorem Declaration.missingTexts_eq (d : Declaration) : d.missingTexts = d.nodes.countP (·.text = "") := by
  unfold missingTexts nodes
  induction d.methods with
  | nil => rfl
  | cons m ms ih => rw [List.foldr_cons, List.flatMap_cons, List.countP_append, ih, m.missingTexts_eq]

/-! ## One pass

A pass that fills in texts and counts them as it goes ends with the completed tree and the number
of texts that were missing. -/

mutual

/-- A tree with its missing texts filled in, and how many there were. -/
def Node.fill : Node → Node × Nat
  | ⟨k, t, cs, x⟩ =>
    let (cs', filled) := fillAll cs
    if x = "" then (⟨k, t, cs', synthesize k t cs'⟩, filled + 1) else (⟨k, t, cs', x⟩, filled)

/-- The same for some trees together. -/
def Node.fillAll : List Node → List Node × Nat
  | [] => ([], 0)
  | c :: cs => (c.fill.1 :: (fillAll cs).1, c.fill.2 + (fillAll cs).2)

end

/-- The same for a body that may be absent. -/
def Node.fillBody : Option Node → Option Node × Nat
  | none => (none, 0)
  | some n => (some n.fill.1, n.fill.2)

def Method.fill (m : Method) : Method × Nat :=
  let (body, inBody) := Node.fillBody m.body
  let (expression, inExpression) := Node.fillBody m.expressionBody
  ({ m with body := body, expressionBody := expression }, inBody + inExpression)

def Declaration.fill (d : Declaration) : Declaration × Nat :=
  ({ d with methods := d.methods.map fun m => m.fill.1 }, d.methods.foldr (fun m n => m.fill.2 + n) 0)

theorem Node.fill_eq (n : Node) : n.fill = (n.complete, n.missingTexts) := by
  induction n using children_induction with
  | parent n ih =>
    obtain ⟨k, t, cs, x⟩ := n
    have hc : fillAll cs = (completeAll cs, missingTextsAll cs) := by
      induction cs with
      | nil => rfl
      | cons c cs ihc =>
        obtain ⟨h, hcs⟩ := List.forall_mem_cons.1 ih
        rw [fillAll, completeAll, missingTextsAll, h, ihc hcs]
    rw [fill, complete, missingTexts, hc]
    by_cases hx : x = ""
    · simp only [if_pos hx]
    · simp only [if_neg hx, Nat.add_zero]

theorem Method.fill_eq (m : Method) : m.fill = (m.complete, m.missingTexts) := by
  have ho : ∀ o : Option Node, Node.fillBody o = (o.map Node.complete, (o.map Node.missingTexts).getD 0) := by
    intro o
    cases o with
    | none => rfl
    | some n => rw [Node.fillBody, n.fill_eq]; rfl
  rw [fill, ho, ho, complete, missingTexts]

theorem Declaration.fill_eq (d : Declaration) : d.fill = (d.complete, d.missingTexts) := by
  simp only [fill, Method.fill_eq, complete, missingTexts]

/-! ## What is filled in -/

/-- A tree that differs from another in its texts alone: a text that was there is kept, and a node
that had none has the text of its kind, its token and its children, as they are in the new tree. -/
inductive Node.Filled : Node → Node → Prop
  | node {k t cs cs' x x'} : List.Forall₂ Node.Filled cs cs' → (x ≠ "" → x' = x) →
      (x = "" → x' = synthesize k t cs') → Node.Filled ⟨k, t, cs, x⟩ ⟨k, t, cs', x'⟩

/-- A method with the same head whose bodies are filled. -/
structure Method.Filled (m m' : Method) : Prop where
  name : m'.name = m.name
  returnType : m'.returnType = m.returnType
  parameters : m'.parameters = m.parameters
  body : Option.Rel Node.Filled m.body m'.body
  expressionBody : Option.Rel Node.Filled m.expressionBody m'.expressionBody

/-- A declaration of the same name whose methods are filled. -/
structure Declaration.Filled (d d' : Declaration) : Prop where
  name : d'.name = d.name
  methods : List.Forall₂ Method.Filled d.methods d'.methods

theorem Node.filled_complete (n : Node) : n.Filled n.complete := by
  induction n using children_induction with
  | parent n ih =>
    obtain ⟨k, t, cs, x⟩ := n
    rw [complete, completeAll_eq]
    refine .node ?_ (fun hx => if_neg hx) (fun hx => if_pos hx)
    exact List.forall₂_map_right_iff.2 (List.forall₂_same.2 ih)

theorem Method.filled_complete (m : Method) : m.Filled m.complete := by
  have ho : ∀ o : Option Node, Option.Rel Node.Filled o (o.map Node.complete) := by
    intro o
    cases o with
    | none => exact .none
    | some n => exact .some n.filled_complete
  exact ⟨rfl, rfl, rfl, ho m.body, ho m.expressionBody⟩

theorem Declaration.filled_complete (d : Declaration) : d.Filled d.complete where
  name := rfl
  methods := List.forall₂_map_right_iff.2 (List.forall₂_same.2 fun m _ => m.filled_complete)

/-! ## Empty texts -/

theorem quote_ne_empty (s : String) : quote s ≠ "" := by
  intro h
  have hl := congrArg String.toList h
  simp [quote, quoteChars] at hl

theorem literalText_ne_empty (s : String) : literalText s ≠ "" := by
  unfold literalText
  split
  · next hb =>
    rintro rfl
    exact absurd hb (by decide)
  · exact quote_ne_empty s

/-- A text is empty only if it is the token alone and the token is empty. -/
theorem synthesize_eq_empty {k : Kind} {t : Option String} {cs : List Node} (h : synthesize k t cs = "") :
    k ∈ [.interpolatedText, .anonymousFunction, .identifier] ∧ t.getD "" = "" := by
  cases k
  case interpolatedText | anonymousFunction | identifier => exact ⟨by decide, h⟩
  case literal => exact absurd h (literalText_ne_empty _)
  all_goals
    simp only [synthesize] at h
    repeat' split at h
    all_goals simp at h

namespace Node

variable {n : Node}

theorem Sound.text_complete (h : n.Sound) (hx : n.complete.text = "") :
    n.kind = .interpolatedText ∧ n.token = some "" := by
  rw [complete_text] at hx
  split at hx
  · next ht =>
    obtain ⟨hk, hv⟩ := synthesize_eq_empty hx
    have hl := (sound_iff.1 h).1
    simp only [List.mem_cons, List.not_mem_nil, or_false] at hk
    rcases hk with hk | hk | hk <;> simp only [checkLayout, hk, then_ok, require_ok] at hl
    · obtain ⟨v, hn⟩ := Option.isSome_iff_exists.1 hl.1
      rw [hn, Option.getD_some] at hv
      exact ⟨hk, by rw [hn, hv]⟩
    · -- A lambda without a text has no arrow.
      rw [ht] at hl
      cases hl
    · simp [name, hv] at hl
  · next ht => exact absurd hx ht

/-- In a sound tree completion leaves no text empty but that of an empty interpolated text. -/
theorem Sound.texts_complete (h : n.Sound) :
    ∀ m ∈ n.complete.preorder, m.text = "" → m.kind = .interpolatedText ∧ m.token = some "" := by
  induction n using children_induction with
  | parent n ih =>
    rw [forall_mem_preorder, complete_kind, complete_token, complete_children, List.forall_mem_map]
    exact ⟨h.text_complete, fun c hc => ih c hc (h.child hc)⟩

end Node

theorem Method.texts_complete {m : Method} {className : String} (h : m.check className = .ok ()) :
    ∀ n ∈ m.complete.nodes, n.text = "" → n.kind = .interpolatedText ∧ n.token = some "" := by
  obtain ⟨-, hb, he⟩ := Method.check_ok.1 h
  refine Node.forall_mem_preorderAll.2 fun n hn => ?_
  rw [List.mem_append, Option.mem_toList, Option.mem_toList] at hn
  rcases hn with hn | hn
  · obtain ⟨b, hm, rfl⟩ := Option.map_eq_some_iff.1 hn
    exact (hb b hm).2.texts_complete
  · obtain ⟨e, hm, rfl⟩ := Option.map_eq_some_iff.1 hn
    exact (he e hm).2.texts_complete

/-- Completion fills in the texts that are missing and no others, as many as there are nodes without
a text. A second completion changes nothing. A declaration that passes the check passes it
afterwards, and the only nodes that are left without a text are interpolated texts that are empty. -/
theorem completion_fills_missing_texts (d : Declaration) :
    d.fill = (d.complete, d.missingTexts) ∧ d.missingTexts = d.nodes.countP (·.text = "") ∧ d.Filled d.complete ∧
      d.complete.complete = d.complete ∧
      (d.check = .ok () → d.complete.check = .ok () ∧
        ∀ n ∈ d.complete.nodes, n.text = "" → n.kind = .interpolatedText ∧ n.token = some "") := by
  refine ⟨d.fill_eq, d.missingTexts_eq, d.filled_complete, d.complete_complete, fun h => ?_⟩
  refine ⟨Declaration.check_complete h, fun n hn => ?_⟩
  obtain ⟨m, hm, hn⟩ := List.mem_flatMap.1 hn
  obtain ⟨k, hk, rfl⟩ := List.mem_map.1 hm
  exact Method.texts_complete (Declaration.check_ok.1 h k hk) n hn

/-- A helper that puts a name into a string, after an empty text. -/
def untextedDeclaration : Declaration :=
  let hole := Node.mk .interpolation none [⟨.identifier, some "x", [], ""⟩] ""
  ⟨"Api", [.expressionBodied "Greeting" "string" ⟨.interpolatedString, none, [⟨.interpolatedText, some "", [], ""⟩, hole], ""⟩]⟩

theorem completion_fills_missing_texts_interpolated :
    untextedDeclaration.check = .ok () ∧ untextedDeclaration.complete.check = .ok () ∧
      untextedDeclaration.complete.nodes.map Node.text = ["$\"\x7bx\x7d\"", "", "\x7bx\x7d", "x"] ∧
      ∀ n ∈ untextedDeclaration.complete.nodes, n.text = "" → n.kind = .interpolatedText ∧ n.token = some "" := by
  have h : untextedDeclaration.check = .ok () := rfl
  obtain ⟨-, -, -, -, hc⟩ := completion_fills_missing_texts untextedDeclaration
  exact ⟨h, (hc h).1, by decide +kernel, (hc h).2⟩

/-! ## Texts left out -/

/-- A tree in which every node is as its parts make it. -/
def Node.Made (n : Node) : Prop := ∀ m ∈ n.preorder, m = .make m.kind m.token m.children

instance : DecidablePred Node.Made := fun n =>
  inferInstanceAs (Decidable (∀ m ∈ n.preorder, m = .make m.kind m.token m.children))

/-- A declaration whose bodies are as their parts make them. -/
def Declaration.Made (d : Declaration) : Prop := ∀ n ∈ d.nodes, n = .make n.kind n.token n.children

instance : DecidablePred Declaration.Made := fun d =>
  inferInstanceAs (Decidable (∀ n ∈ d.nodes, n = .make n.kind n.token n.children))

/-- Where a node stands in a declaration: below the block or below the expression of a method. -/
structure NodePlace where
  method : Nat
  inExpression : Bool
  trail : List Nat

mutual

/-- A tree without the texts of the nodes to which the erased trails lead. -/
def Node.erase (erased : List Nat → Bool) : Node → Node
  | ⟨k, t, cs, x⟩ => ⟨k, t, eraseAll erased 0 cs, if erased [] then "" else x⟩

/-- The same for some children, from position `i` on. -/
def Node.eraseAll (erased : List Nat → Bool) (i : Nat) : List Node → List Node
  | [] => []
  | c :: cs => c.erase (fun trail => erased (i :: trail)) :: eraseAll erased (i + 1) cs

end

/-- A declaration without the texts of the nodes at the erased places. -/
def Declaration.erase (erased : NodePlace → Bool) (d : Declaration) : Declaration :=
  { d with methods := d.methods.mapIdx fun i m =>
      { m with
        body := m.body.map (Node.erase fun trail => erased ⟨i, false, trail⟩)
        expressionBody := m.expressionBody.map (Node.erase fun trail => erased ⟨i, true, trail⟩) } }

namespace Node

variable {n : Node}

theorem getElem?_eraseAll (erased : List Nat → Bool) (i j : Nat) (cs : List Node) :
    (eraseAll erased i cs)[j]? = cs[j]?.map (erase fun trail => erased ((i + j) :: trail)) := by
  induction cs generalizing i j with
  | nil => rfl
  | cons c cs ih =>
    cases j with
    | zero => rfl
    | succ j =>
      rw [eraseAll, List.getElem?_cons_succ, List.getElem?_cons_succ, ih]
      simp only [Nat.add_assoc, Nat.add_comm 1]

/-- The same trails lead to nodes, and these lose just the texts that are erased below them. -/
theorem descendant?_erase (erased : List Nat → Bool) (n : Node) (trail : List Nat) :
    (n.erase erased).descendant? trail = (n.descendant? trail).map (erase fun below => erased (trail ++ below)) := by
  induction trail generalizing n erased with
  | nil => rfl
  | cons i trail ih =>
    obtain ⟨k, t, cs, x⟩ := n
    rw [erase, descendant?, descendant?, getElem?_eraseAll, Nat.zero_add]
    dsimp only
    cases cs[i]? with
    | none => rfl
    | some c => exact ih _ c

/-- In a tree that its parts make, completion brings back whatever texts are erased. -/
theorem Made.complete_erase (h : n.Made) (erased : List Nat → Bool) : (n.erase erased).complete = n := by
  induction n using children_induction generalizing erased with
  | parent n ih =>
    obtain ⟨hn, hcs⟩ := forall_mem_preorder.1 h
    obtain ⟨k, t, cs, x⟩ := n
    have hc (i : Nat) : completeAll (eraseAll erased i cs) = cs := by
      clear h hn
      induction cs generalizing i with
      | nil => rfl
      | cons c cs ihc =>
        rw [eraseAll, completeAll, ih c List.mem_cons_self (hcs c List.mem_cons_self),
          ihc (fun d hd => ih d (List.mem_cons_of_mem c hd)) fun d hd => hcs d (List.mem_cons_of_mem c hd)]
    have hx : x = synthesize k t cs := congrArg text hn
    rw [erase, complete, hc]
    -- A text that was empty from the start is made again, like an erased one.
    by_cases he : (if erased [] then "" else x) = ""
    · rw [if_pos he, ← hx]
    · rw [if_neg he]
      rw [if_neg fun h => he (if_pos h)]

end Node

/-- Texts that nodes have by their parts need not be stored: if the texts of some nodes are erased,
whichever and however many, completion brings the tree or the declaration back as it was. -/
theorem completion_restores_erased_texts :
    (∀ n : Node, n.Made → ∀ erased : List Nat → Bool, (n.erase erased).complete = n) ∧
      ∀ d : Declaration, d.Made → ∀ erased : NodePlace → Bool, (d.erase erased).complete = d := by
  refine ⟨fun n h => h.complete_erase, fun d h erased => ?_⟩
  have hm : ∀ m ∈ d.methods, ∀ n ∈ m.body.toList ++ m.expressionBody.toList, n.Made := fun m hm =>
    Node.forall_mem_preorderAll.1 fun n hn => h n (List.mem_flatMap.2 ⟨m, hm, hn⟩)
  have ho {o : Option Node} (e : List Nat → Bool) (h : ∀ n ∈ o.toList, n.Made) :
      (o.map (Node.erase e)).map Node.complete = o := by
    cases o with
    | none => rfl
    | some n => rw [Option.map_some, Option.map_some, (h n (by simp)).complete_erase]
  unfold Declaration.complete Declaration.erase
  congr 1
  refine List.ext_getElem? fun i => ?_
  rw [List.getElem?_map, List.getElem?_mapIdx, Option.map_map]
  cases hi : d.methods[i]? with
  | none => rfl
  | some m =>
    obtain ⟨hb, he⟩ := List.forall_mem_append.1 (hm m (List.mem_of_getElem? hi))
    simp only [Option.map_some, Function.comp_apply, Method.complete, ho _ hb, ho _ he]

/-- The texts of a body and of the call inside it are left out; those of the statement around the call
and of the parts of the call are kept. -/
theorem completion_restores_erased_texts_between :
    let body := Node.block [.expressionStatement (.methodCall "context" "SetBody" [.make .literal (some "on") []])]
    let d : Declaration := ⟨"Api", [.forSection "Inbound" body]⟩
    let erased : List Nat → Bool := fun trail => trail == [] || trail == [0, 0]
    (body.Made ∧ body.erase erased ≠ body ∧ (body.erase erased).complete = body) ∧
      d.Made ∧ d.erase (fun place => erased place.trail) ≠ d ∧ (d.erase fun place => erased place.trail).complete = d := by
  intro body d erased
  have hb : body.Made := by decide +kernel
  have hd : d.Made := by decide +kernel
  exact ⟨⟨hb, by decide +kernel, completion_restores_erased_texts.1 body hb erased⟩,
    hd, by decide +kernel, completion_restores_erased_texts.2 d hd _⟩

end GatewayPolicy
