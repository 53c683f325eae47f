import GatewayPolicy.Proofs.DocumentStorage
import GatewayPolicy.Proofs.Inventory
/-!
# Strings of a tree

The values of a tree and its texts, apart from its tags and names: what they are like, and what
becomes of the tree if they are changed.
-/

namespace GatewayPolicy

def Attributes.mapValues (g : String → String) (a : Attributes) : Attributes where
  entries := a.entries.map fun e => (e.1, g e.2)
  sorted := by simpa [Entries.Sorted, List.pairwise_map] using a.sorted

namespace Fragment

mutual

/-- Changes the values and the texts of a tree. -/
def mapStrings (value text : String → String) : Fragment → Fragment
  | ⟨tag, as, x, cs⟩ => ⟨tag, as.mapValues value, x.map text, mapStringsAll value text cs⟩

def mapStringsAll (value text : String → String) : List Fragment → List Fragment
  | [] => []
  | f :: fs => f.mapStrings value text :: mapStringsAll value text fs

end

/-- The values of an element and its text are like this. -/
def HasStrings (value text : String → Prop) (f : Fragment) : Prop :=
  (∀ e ∈ f.attributes.entries, value e.2) ∧ ∀ x, f.text = some x → text x

instance (value text : String → Prop) [DecidablePred value] [DecidablePred text] :
    DecidablePred (HasStrings value text) := fun f =>
  inferInstanceAs (Decidable ((∀ e ∈ f.attributes.entries, value e.2) ∧ ∀ x ∈ f.text, text x))

/-- A property of all elements of a tree, from the element and its children. -/
theorem forall_mem_preorder {P : Fragment → Prop} {f : Fragment} :
    (∀ g ∈ f.preorder, P g) ↔ P f ∧ ∀ c ∈ f.children, ∀ g ∈ c.preorder, P g := by
  have hall : ∀ fs, (∀ g ∈ preorderAll fs, P g) ↔ ∀ c ∈ fs, ∀ g ∈ c.preorder, P g := by
    intro fs
    induction fs with
    | nil => simp
    | cons c cs ih => rw [preorderAll, List.forall_mem_append, ih, List.forall_mem_cons]
  obtain ⟨tag, as, x, cs⟩ := f
  rw [preorder, List.forall_mem_cons, hall]

theorem mapStringsAll_eq (value text : String → String) (fs : List Fragment) :
    mapStringsAll value text fs = fs.map (·.mapStrings value text) := by
  induction fs with
  | nil => rfl
  | cons f fs ih => rw [mapStringsAll, ih, List.map_cons]

section
variable {value text value' text' : String → String}

theorem mapStrings_mapStrings (f : Fragment) :
    (f.mapStrings value text).mapStrings value' text' = f.mapStrings (value' ∘ value) (text' ∘ text) := by
  induction f using children_induction with
  | parent f ih =>
    obtain ⟨tag, as, x, cs⟩ := f
    have hcs : (cs.map (·.mapStrings value text)).map (·.mapStrings value' text') =
        cs.map (·.mapStrings (value' ∘ value) (text' ∘ text)) := by
      rw [List.map_map]
      exact List.map_congr_left ih
    simp only [mapStrings, Attributes.mapValues, mapStringsAll_eq, hcs, List.map_map, Option.map_map]
    rfl

theorem map_eq_self {α : Type} {g : α → α} {as : List α} : as.map g = as ↔ ∀ a ∈ as, g a = a := by
  have h := List.map_inj_left (l := as) (f := g) (g := id)
  rwa [List.map_id] at h

/-- A tree stays as it is just if all its strings do. -/
theorem mapStrings_eq_self {f : Fragment} : f.mapStrings value text = f ↔
    ∀ g ∈ f.preorder, g.HasStrings (fun v => value v = v) (fun x => text x = x) := by
  induction f using children_induction with
  | parent f ih =>
    rw [forall_mem_preorder, HasStrings, ← forall₂_congr ih]
    obtain ⟨tag, ⟨es, hs⟩, x, cs⟩ := f
    have he : (es.map fun e => (e.1, value e.2)) = es ↔ ∀ e ∈ es, value e.2 = e.2 := by
      simp [map_eq_self, Prod.ext_iff]
    have hx : x.map text = x ↔ ∀ y, x = some y → text y = y := by
      cases x <;> simp
    simp only [mapStrings, Attributes.mapValues, mapStringsAll_eq, mk.injEq, Attributes.mk.injEq, true_and, he, hx,
      map_eq_self, and_assoc]

end

end Fragment

end GatewayPolicy
