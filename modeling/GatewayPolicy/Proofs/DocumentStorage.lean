import GatewayPolicy.Proofs.Storage
import Mathlib.Logic.Function.Basic
/-!
# Stored documents

A document is read back from the JSON value that it is written as, whatever fragments it holds, and
so is a snippet. What is left out when it is written, because it is absent or empty, is what is
filled in when it is read. Attributes come in the order of their names, so each one is added after
those that were read before.
-/

namespace GatewayPolicy

open Decoder

/-! ## Attributes -/

/-- A name that is larger than all others is written behind them. -/
theorem Entries.put_of_gt {α : Type} {k : String} {v : α} {es : Entries α} (h : ∀ p ∈ es, p.1 < k) :
    es.put k v = es ++ [(k, v)] := by
  induction es with
  | nil => rfl
  | cons p es ih =>
    obtain ⟨a, b⟩ := p
    obtain ⟨ha, hes⟩ := List.forall_mem_cons.1 h
    have hlt : ¬ k < a := fun hk => String.lt_irrefl k (String.lt_trans hk ha)
    have hne : k ≠ a := by
      rintro rfl
      exact String.lt_irrefl k ha
    rw [put, if_neg hlt, if_neg hne, ih hes, List.cons_append]

namespace Attributes

theorem eq_empty {a : Attributes} (h : a.isEmpty) : a = .empty := by
  obtain ⟨es, hs⟩ := a
  obtain rfl : es = [] := List.isEmpty_iff.1 h
  rfl

theorem foldlM_set (es : Entries String) {a b : Attributes} (h : b.entries = a.entries ++ es) :
    (es.map fun (name, v) => (name, Json.string v)).foldlM
      (fun (a : Attributes) (name, v) => do return a.set name (← string v)) a = .ok b := by
  induction es generalizing a with
  | nil =>
    obtain ⟨xs, hx⟩ := a
    obtain ⟨ys, hy⟩ := b
    obtain rfl : ys = xs := by simpa using h
    rfl
  | cons e es ih =>
    obtain ⟨name, v⟩ := e
    have hs : ∀ p ∈ a.entries, p.1 < name := by
      intro p hp
      have hb := b.sorted
      rw [h] at hb
      exact (List.pairwise_append.1 hb).2.2 p hp _ List.mem_cons_self
    refine ih (a := a.set name v) ?_
    show b.entries = a.entries.put name v ++ es
    rw [Entries.put_of_gt hs, h, List.append_assoc, List.singleton_append]

theorem fromJson_toJson (a : Attributes) : fromJson a.toJson = .ok a :=
  foldlM_set a.entries (a := .empty) rfl

end Attributes

/-! ## Fragments -/

namespace Fragment

/-- Induction over a fragment tree: a property of all children of a fragment is handed to it. -/
theorem children_induction {P : Fragment → Prop} (parent : ∀ f, (∀ c ∈ f.children, P c) → P f) (f : Fragment) :
    P f := by
  induction hm : sizeOf f using Nat.strongRecOn generalizing f with
  | _ m ih =>
    subst hm
    refine parent f fun c hc => ih _ ?_ c rfl
    obtain ⟨t, as, x, cs⟩ := f
    have hc := List.sizeOf_lt_of_mem hc
    simp only [mk.sizeOf_spec] at hc ⊢
    omega

theorem listToJson_eq (fs : List Fragment) : listToJson fs = fs.map toJson := by
  induction fs with
  | nil => rfl
  | cons f fs ih => rw [listToJson, ih, List.map_cons]

theorem childrenFromJson_eq : childrenFromJson = list fromJson := by
  funext v
  cases v with
  | array vs => exact items_eq (f := listFromJson) rfl (fun _ _ => rfl) vs
  | _ => rfl

theorem fromJson_toJson (f : Fragment) : fromJson f.toJson = .ok f := by
  induction f using children_induction with
  | parent f ih =>
    obtain ⟨tag, as, x, cs⟩ := f
    rw [toJson, listToJson_eq, fromJson]
    generalize hms : Json.memberIf "attributes" _ ++ _ ++ _ ++ _ = ms
    have ha : member? ms "attributes" Attributes.fromJson = .ok (if as.isEmpty then none else some as) := by
      split
      · next hn => exact member?_none (by simp [← hms, hn])
      · next hn => exact member?_some (by simp [← hms, hn]) as.fromJson_toJson
    have hc : childrenMember ms = .ok (if cs.isEmpty then none else some cs) := by
      rw [named_eq (f := childrenMember) rfl (fun _ _ _ => rfl), childrenFromJson_eq]
      cases cs with
      | nil => exact member?_none (by simp [← hms, Json.arrayIf])
      | cons c cs => exact member?_some (by simp [← hms, Json.arrayIf]) (list_map ih)
    have ht : member? ms "tag" string = .ok (some tag) := member?_string (by simp [← hms])
    have hx : member? ms "text" (optional string) = .ok (x.map some) := member?_optional_string (by simp [← hms])
    have hd : (if as.isEmpty then none else some as).getD .empty = as := by
      split
      · next hn => exact (Attributes.eq_empty hn).symm
      · rfl
    rw [ha, hc, ht, hx]
    show Except.ok (Fragment.mk tag ((if as.isEmpty then none else some as).getD .empty) _ _) = _
    rw [hd]
    cases x <;> cases cs <;> rfl

end Fragment

/-! ## Documents and snippets -/

theorem Metadata.fromJson_toJson (m : Metadata) : Metadata.fromJson m.toJson = .ok m := by
  rfl

theorem Document.fromJson_toJson (d : Document) : Document.fromJson d.toJson = .ok d := by
  obtain ⟨sections, metadata⟩ := d
  rw [toJson, fromJson]
  generalize hms : [_, _] = ms
  have hm : member? ms "metadata" Metadata.fromJson = .ok (some metadata) :=
    member?_some (by simp [← hms]) metadata.fromJson_toJson
  have hs : member? ms "sections" Fragment.childrenFromJson = .ok (some sections) := by
    rw [Fragment.childrenFromJson_eq]
    refine member?_some (v := .array (sections.map Fragment.toJson)) (by simp [← hms, Fragment.listToJson_eq]) ?_
    exact list_map fun f _ => f.fromJson_toJson
  rw [hm, hs]
  rfl

theorem ResultType.fromJson_name (t : ResultType) : ResultType.fromJson (.string t.name) = .ok t := by
  cases t <;> rfl

theorem SnippetSource.fromJson_toJson (s : SnippetSource) : SnippetSource.fromJson s.toJson = .ok s := by
  cases s <;> rfl

theorem Snippet.fromJson_toJson (s : Snippet) : Snippet.fromJson s.toJson = .ok s := by
  obtain ⟨t, source⟩ := s
  rw [toJson, fromJson]
  generalize hms : [_, _] = ms
  have ht : member? ms "result_type" ResultType.fromJson = .ok (some t) :=
    member?_some (by simp [← hms]) t.fromJson_name
  have hs : member? ms "source" SnippetSource.fromJson = .ok (some source) :=
    member?_some (by simp [← hms]) source.fromJson_toJson
  rw [ht, hs]
  rfl

/-- Documents and snippets are read back as they were written, so no two documents are written alike. -/
theorem output_survives_storage :
    (∀ d : Document, Document.fromJson d.toJson = .ok d) ∧ (∀ s : Snippet, Snippet.fromJson s.toJson = .ok s) ∧
      Function.Injective Document.toJson := by
  refine ⟨Document.fromJson_toJson, Snippet.fromJson_toJson, fun d d' h => ?_⟩
  have hd := d.fromJson_toJson
  rw [h, d'.fromJson_toJson] at hd
  exact (Except.ok.inj hd).symm

end GatewayPolicy
