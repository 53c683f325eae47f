/-!
# Entries in key order

Lists of named values in ascending order of their names, by code point. A name
occurs once: writing it again replaces its value.
-/

namespace GatewayPolicy

/-- Named values. -/
abbrev Entries (α : Type) := List (String × α)

namespace Entries

variable {α : Type}

/-- Writes the value of a name, before the first larger name. -/
def put (k : String) (v : α) : Entries α → Entries α
  | [] => [(k, v)]
  | (a, b) :: r =>
    if k < a then (k, v) :: (a, b) :: r
    else if k = a then (k, v) :: r
    else (a, b) :: put k v r

/-- The value of a name. -/
def get? (k : String) : Entries α → Option α
  | [] => none
  | (a, b) :: r => if a = k then some b else get? k r

/-- Each name is smaller than all later ones. -/
def Sorted (es : Entries α) : Prop := es.Pairwise fun p q => p.1 < q.1

/-! ## Writing and reading -/

theorem mem_put {k : String} {v : α} {es : Entries α} {p : String × α} (h : p ∈ es.put k v) :
    p = (k, v) ∨ p ∈ es := by
  induction es with
  | nil => simpa [put] using h
  | cons q r ih =>
    obtain ⟨a, b⟩ := q
    rw [put] at h
    split at h
    · simpa using h
    · split at h
      · rcases List.mem_cons.1 h with rfl | h
        · exact .inl rfl
        · exact .inr (List.mem_cons_of_mem _ h)
      · rcases List.mem_cons.1 h with rfl | h
        · exact .inr List.mem_cons_self
        · exact (ih h).imp_right (List.mem_cons_of_mem _)

theorem sorted_put {k : String} {v : α} {es : Entries α} (h : es.Sorted) : (es.put k v).Sorted := by
  induction es with
  | nil => exact List.pairwise_singleton ..
  | cons q r ih =>
    obtain ⟨a, b⟩ := q
    obtain ⟨hq, hr⟩ := List.pairwise_cons.1 h
    rw [put]
    split
    · next hk =>
      refine List.pairwise_cons.2 ⟨fun p hp => ?_, h⟩
      rcases List.mem_cons.1 hp with rfl | hp
      · exact hk
      · exact String.lt_trans hk (hq p hp)
    · split
      · next hk =>
        subst hk
        exact List.pairwise_cons.2 ⟨hq, hr⟩
      · next hlt hne =>
        refine List.pairwise_cons.2 ⟨fun p hp => ?_, ih hr⟩
        rcases mem_put hp with rfl | hp
        · exact String.not_le.1 fun hle => hne (String.le_antisymm hle (String.not_lt.1 hlt))
        · exact hq p hp

@[simp] theorem get?_put (k j : String) (v : α) (es : Entries α) :
    (es.put k v).get? j = if k = j then some v else es.get? j := by
  induction es with
  | nil => simp [put, get?]
  | cons q r ih =>
    obtain ⟨a, b⟩ := q
    rw [put]
    split
    · rw [get?]
    · split
      · next hk => subst hk; rw [get?, get?]; split <;> rfl
      · next hne =>
        rw [get?, get?, ih]
        split
        · next haj => subst haj; simp [hne]
        · rfl

end Entries

end GatewayPolicy
