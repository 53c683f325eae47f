import GatewayPolicy.Proofs.Layout
import GatewayPolicy.Source.Completion
/-!
# Completed trees

Completion fills in texts and changes nothing else. A text is filled in from texts that are
complete themselves, so a second completion finds nothing to change, even where the text of a
node is empty for good. A tree that passes the check passes it as completed.
-/

namespace GatewayPolicy

namespace Node

variable (n : Node)

theorem completeAll_eq (ns : List Node) : completeAll ns = ns.map complete := by
  induction ns with
  | nil => rfl
  | cons n ns ih => rw [completeAll, ih, List.map_cons]

@[simp] theorem complete_kind : n.complete.kind = n.kind := by
  cases n
  rfl

@[simp] theorem complete_token : n.complete.token = n.token := by
  cases n
  rfl

@[simp] theorem complete_name : n.complete.name = n.name := by
  cases n
  rfl

@[simp] theorem complete_children : n.complete.children = n.children.map complete := by
  cases n
  exact completeAll_eq _

theorem complete_text :
    n.complete.text = if n.text = "" then synthesize n.kind n.token (n.children.map complete) else n.text := by
  obtain ⟨k, t, cs, x⟩ := n
  rw [← completeAll_eq]
  rfl

theorem complete_text_of_ne (h : n.text ≠ "") : n.complete.text = n.text := by
  rw [complete_text, if_neg h]

/-- A completed tree is left as it is. -/
theorem complete_complete : n.complete.complete = n.complete := by
  induction n using children_induction with
  | parent n ih =>
    obtain ⟨k, t, cs, x⟩ := n
    have hc : (cs.map complete).map complete = cs.map complete := by
      rw [List.map_map]
      exact List.map_congr_left ih
    rw [complete, complete, completeAll_eq, completeAll_eq, hc]
    congr 1
    by_cases hx : x = ""
    · -- The same parts are asked again, so an empty answer stays empty.
      rw [if_pos hx, ite_self]
    · rw [if_neg hx, if_neg hx]

/-! ## The check of a completed tree -/

variable {n}

theorem requireEach_complete {ok : Node → Bool} (h : ∀ c, ok c.complete = ok c) (r : LayoutRule) (i : Nat)
    (cs : List Node) : requireEach ok r i (cs.map complete) = requireEach ok r i cs := by
  induction cs generalizing i with
  | nil => rfl
  | cons c cs ih =>
    have hc : requireAt i c.complete (ok c.complete) r = requireAt i c (ok c) r := by
      rw [h, requireAt, requireAt, require, require, complete_kind]
    rw [List.map_cons, requireEach, requireEach, hc, ih]

/-- The layout of a node shows in its text only if the node is a lambda. -/
theorem checkLayout_complete (h : n.kind = .anonymousFunction → n.text ≠ "") :
    n.complete.checkLayout = n.checkLayout := by
  have hr : ∀ b r, n.complete.require b r = n.require b r := fun b r => by rw [require, require, complete_kind]
  have hs : ∀ c : Node, c.complete.isStringPart = c.isStringPart := fun c => by simp [isStringPart]
  have hf : n.complete.firstIsExpression = n.firstIsExpression := by
    rw [firstIsExpression, complete_children, ← List.map_take]
    exact requireEach_complete (fun c => by rw [complete_kind]) ..
  unfold checkLayout
  rw [complete_kind, complete_children, complete_token, complete_name, List.length_map, ← List.map_drop,
    ← List.map_drop, ← List.map_take, hf]
  cases hk : n.kind
  case anonymousFunction => exact (hr _ _).trans (by rw [complete_text_of_ne n (h hk)])
  all_goals simp only [hr, requireEach_complete, hs, complete_kind, implies_true]

theorem Sound.complete (h : n.Sound) : n.complete.Sound := by
  induction n using children_induction with
  | parent n ih =>
    obtain ⟨hl, hc⟩ := sound_iff.1 h
    have ht : n.kind = .anonymousFunction → n.text ≠ "" := by
      intro hk ht
      simp only [checkLayout, hk, require_ok, ht] at hl
      cases hl
    refine sound_iff.2 ⟨(checkLayout_complete ht).trans hl, fun c hm => ?_⟩
    rw [complete_children] at hm
    obtain ⟨d, hd, rfl⟩ := List.mem_map.1 hm
    exact ih d hd (hc d hd)

end Node

/-! ## Declarations -/

theorem Method.complete_complete (m : Method) : m.complete.complete = m.complete := by
  have ho : ∀ o : Option Node, (o.map Node.complete).map Node.complete = o.map Node.complete := by
    intro o
    cases o with
    | none => rfl
    | some n => rw [Option.map_some, Option.map_some, n.complete_complete]
  unfold complete
  rw [ho, ho]

theorem Method.check_complete {m : Method} {className : String} (h : m.check className = .ok ()) :
    m.complete.check className = .ok () := by
  obtain ⟨hn, hb, he⟩ := Method.check_ok.1 h
  refine Method.check_ok.2 ⟨?_, ?_, ?_⟩
  · rcases hn with hn | hn
    · exact .inl (by rw [complete, hn, Option.map_none])
    · exact .inr (by rw [complete, hn, Option.map_none])
  · intro b hm
    obtain ⟨c, hc, rfl⟩ := Option.map_eq_some_iff.1 hm
    rw [Node.complete_kind]
    exact ⟨(hb c hc).1, (hb c hc).2.complete⟩
  · intro e hm
    obtain ⟨c, hc, rfl⟩ := Option.map_eq_some_iff.1 hm
    rw [Node.complete_kind]
    exact ⟨(he c hc).1, (he c hc).2.complete⟩

theorem Declaration.complete_complete (d : Declaration) : d.complete.complete = d.complete := by
  have hm : (d.methods.map Method.complete).map Method.complete = d.methods.map Method.complete := by
    rw [List.map_map]
    exact List.map_congr_left fun m _ => m.complete_complete
  unfold complete
  rw [hm]

theorem Declaration.check_complete {d : Declaration} (h : d.check = .ok ()) : d.complete.check = .ok () := by
  refine Declaration.check_ok.2 fun m hm => ?_
  obtain ⟨k, hk, rfl⟩ := List.mem_map.1 hm
  exact Method.check_complete (Declaration.check_ok.1 h k hk)

end GatewayPolicy
