import GatewayPolicy.Interchange.FromYaml
import GatewayPolicy.Json.Value
import Mathlib.Data.List.Nodup
import Mathlib.Data.List.Perm.Subperm
/-!
# Values of the same shape

A JSON value and a YAML value have the same shape if they are made of the same mappings, lists and
scalars. The entries of a mapping may come in any order on either side. A record has the same fields
in both, and a field is looked up in both with the same result.
-/

namespace GatewayPolicy

/-! ## Members -/

theorem Entries.mem_of_get? {α : Type} {k : String} {v : α} {es : Entries α} (h : es.get? k = some v) :
    (k, v) ∈ es := by
  induction es with
  | nil => cases h
  | cons e es ih =>
    obtain ⟨j, w⟩ := e
    rw [get?] at h
    split at h
    · next hj =>
      cases h
      rw [hj]
      exact List.mem_cons_self
    · exact List.mem_cons_of_mem _ (ih h)

theorem Entries.get?_eq_none {α : Type} {k : String} {es : Entries α} : es.get? k = none ↔ k ∉ es.map Prod.fst := by
  induction es with
  | nil => simp [get?]
  | cons e es ih =>
    rw [get?, List.map_cons, List.mem_cons, not_or, ← ih]
    split
    · next hj => simp [hj]
    · next hj => simp [Ne.symm hj]

/-! ## Shapes -/

namespace Yaml.Value

mutual

/-- A JSON value as a YAML value. -/
def ofJson : Json → Value
  | .null => null
  | .bool b => bool b
  | .int i => int i
  | .float x => float x
  | .string s => string s
  | .array vs => list (ofJsonItems vs)
  | .object ms => map (ofJsonMembers ms)

def ofJsonItems : List Json → List Value
  | [] => []
  | v :: vs => ofJson v :: ofJsonItems vs

def ofJsonMembers : List (String × Json) → List (Value × Value)
  | [] => []
  | (name, v) :: ms => (string name, ofJson v) :: ofJsonMembers ms

end

def HasShape (w : Value) (v : Json) : Prop := same (ofJson v) w

namespace HasShape

variable {w : Value}

theorem eq_null (h : w.HasShape .null) : w = .null := by
  cases w <;> simp_all [HasShape, ofJson, same]

theorem ne_null {v : Json} (h : w.HasShape v) (hv : v ≠ .null) : w ≠ .null := by
  rintro rfl
  cases v <;> simp_all [HasShape, ofJson, same]

theorem eq_string {s : String} (h : w.HasShape (.string s)) : w = .string s := by
  cases w <;> simp_all [HasShape, ofJson, same]

theorem untagged {v : Json} (h : w.HasShape v) : w.untagged = w := by
  cases w <;> simp_all [HasShape, Value.untagged]
  cases v <;> simp_all [ofJson, same]

theorem eq_list {vs : List Json} (h : w.HasShape (.array vs)) :
    ∃ ws, w = .list ws ∧ sameItems (ofJsonItems vs) ws := by
  cases w <;> simp_all [HasShape, ofJson, same]

theorem eq_map {ms : List (String × Json)} (h : w.HasShape (.object ms)) :
    ∃ es, w = .map es ∧ (ofJsonMembers ms).length = es.length ∧ entriesWithin (ofJsonMembers ms) es := by
  cases w <;> simp_all [HasShape, ofJson, same]

end HasShape

/-! ## Records -/

/-- Fields as the entries of a mapping. -/
def entries (fields : List (String × Value)) : List (Value × Value) := fields.map fun f => (string f.1, f.2)

theorem asRecord_entries (fields : List (String × Value)) : (map (entries fields)).asRecord = some fields := by
  show (entries fields).mapM _ = _
  induction fields with
  | nil => rfl
  | cons f fields ih =>
    rw [entries, List.map_cons, ← entries, List.mapM_cons, ih]
    rfl

theorem exists_entries {es : List (Value × Value)} (h : ∀ e ∈ es, ∃ name, e.1 = string name) :
    ∃ fields, es = entries fields := by
  induction es with
  | nil => exact ⟨[], rfl⟩
  | cons e es ih =>
    obtain ⟨⟨name, hn⟩, h⟩ := List.forall_mem_cons.1 h
    obtain ⟨fields, rfl⟩ := ih h
    obtain ⟨k, w⟩ := e
    obtain rfl : k = string name := hn
    exact ⟨(name, w) :: fields, rfl⟩

/-- Fields stand for the members of an object: for each member there is a value of its shape, and
there are no others. No name occurs twice. -/
structure FieldsOf (ms : List (String × Json)) (fields : List (String × Value)) : Prop where
  shape : ∀ m ∈ ms, ∃ w, (m.1, w) ∈ fields ∧ w.HasShape m.2
  names : (ms.map Prod.fst).Perm (fields.map Prod.fst)
  distinct : (ms.map Prod.fst).Nodup

theorem entriesWithin_members {ms : List (String × Json)} {es : List (Value × Value)}
    (h : entriesWithin (ofJsonMembers ms) es) : ∀ m ∈ ms, ∃ w, (string m.1, w) ∈ es ∧ w.HasShape m.2 := by
  induction ms with
  | nil => simp
  | cons m ms ih =>
    obtain ⟨name, v⟩ := m
    simp only [ofJsonMembers, entriesWithin, Bool.and_eq_true, List.any_eq_true] at h
    obtain ⟨⟨⟨k, w⟩, he, hk, hw⟩, h⟩ := h
    obtain rfl : k = string name := HasShape.eq_string hk
    exact List.forall_mem_cons.2 ⟨⟨w, he, hw⟩, ih h⟩

theorem length_members (ms : List (String × Json)) : (ofJsonMembers ms).length = ms.length := by
  induction ms with
  | nil => rfl
  | cons m ms ih => simp [ofJsonMembers, ih]

/-- A mapping of the shape of an object is a record with its fields. -/
theorem HasShape.fields {ms : List (String × Json)} {w : Value} (h : w.HasShape (.object ms))
    (hn : (ms.map Prod.fst).Nodup) : ∃ fields, w = map (entries fields) ∧ FieldsOf ms fields := by
  obtain ⟨es, rfl, hl, hs⟩ := h.eq_map
  have hs := entriesWithin_members hs
  -- As many entries as members, and one for each member: the names are the same.
  have hi : Function.Injective string := fun a b hab => by cases hab; rfl
  have hk : ((ms.map Prod.fst).map string).Perm (es.map Prod.fst) := by
    refine List.Subperm.perm_of_length_le (List.subperm_of_subset (List.Nodup.map hi hn) ?_) ?_
    · intro k hk
      obtain ⟨name, hname, rfl⟩ := List.mem_map.1 hk
      obtain ⟨m, hm, rfl⟩ := List.mem_map.1 hname
      obtain ⟨w, hw, -⟩ := hs m hm
      exact List.mem_map_of_mem hw
    · rw [length_members] at hl
      simp [hl]
  have hstring : ∀ e ∈ es, ∃ name, e.1 = string name := by
    intro e he
    obtain ⟨name, -, hname⟩ := List.mem_map.1 (hk.symm.subset (List.mem_map_of_mem he))
    exact ⟨name, hname.symm⟩
  obtain ⟨fields, rfl⟩ := exists_entries hstring
  refine ⟨fields, rfl, fun m hm => ?_, ?_, hn⟩
  · obtain ⟨w, hw, hv⟩ := hs m hm
    obtain ⟨⟨name, x⟩, hf, he⟩ := List.mem_map.1 hw
    cases he
    exact ⟨x, hf, hv⟩
  · have he : (entries fields).map Prod.fst = (fields.map Prod.fst).map string := by simp [entries]
    rw [he] at hk
    exact (List.map_perm_map_iff hi).1 hk

/-! ## Looking fields up -/

theorem filter_name {fields : List (String × Value)} {name : String} {w : Value} (hn : (fields.map Prod.fst).Nodup)
    (h : (name, w) ∈ fields) : fields.filter (fun e => e.1 == name) = [(name, w)] := by
  induction fields with
  | nil => cases h
  | cons f fields ih =>
    obtain ⟨hf, hn⟩ := List.nodup_cons.1 hn
    rcases List.mem_cons.1 h with rfl | h
    · have hr : fields.filter (fun e => e.1 == name) = [] := by
        rw [List.filter_eq_nil_iff]
        intro e he hk
        apply hf
        rw [← eq_of_beq hk]
        exact List.mem_map.2 ⟨e, he, rfl⟩
      rw [List.filter_cons_of_pos (by simp), hr]
    · have hk : f.1 ≠ name := by
        rintro rfl
        exact hf (List.mem_map.2 ⟨_, h, rfl⟩)
      rw [List.filter_cons_of_neg (by simpa using hk), ih hn h]

namespace FieldsOf

variable {α : Type} {ms : List (String × Json)} {fields : List (String × Value)} {name : String}

theorem filter_some {v : Json} (h : FieldsOf ms fields) (hv : Entries.get? name ms = some v) :
    ∃ w, fields.filter (fun e => e.1 == name) = [(name, w)] ∧ w.HasShape v := by
  obtain ⟨w, hw, hs⟩ := h.shape _ (Entries.mem_of_get? hv)
  exact ⟨w, filter_name (h.names.nodup_iff.1 h.distinct) hw, hs⟩

theorem filter_none (h : FieldsOf ms fields) (hv : Entries.get? name ms = none) :
    fields.filter (fun e => e.1 == name) = [] := by
  rw [List.filter_eq_nil_iff]
  intro e he hk
  apply Entries.get?_eq_none.1 hv
  rw [← eq_of_beq hk]
  exact h.names.symm.subset (List.mem_map_of_mem he)

/-- A field is there just if the member is. -/
theorem field?_some {v : Json} (h : FieldsOf ms fields) (hv : Entries.get? name ms = some v) (f : Value → Option α) :
    ∃ w, w.HasShape v ∧ field? fields name f = (f w).map some := by
  obtain ⟨w, hf, hs⟩ := h.filter_some hv
  exact ⟨w, hs, by rw [field?, hf]⟩

theorem field?_none (h : FieldsOf ms fields) (hv : Entries.get? name ms = none) (f : Value → Option α) :
    field? fields name f = some none := by
  rw [field?, h.filter_none hv]

theorem get?_entries (fields : List (String × Value)) (name : String) :
    (map (entries fields)).get? name = (fields.filter fun e => e.1 == name).head?.map Prod.snd := by
  have hs : ∀ k : String, same (string k) (string name) = (k == name) := fun k => by rw [same]
  show ((entries fields).find? _).map _ = _
  rw [entries, List.find?_map, List.head?_filter, Option.map_map]
  simp only [Function.comp_def, hs]

theorem get?_some {v : Json} (h : FieldsOf ms fields) (hv : Entries.get? name ms = some v) :
    ∃ w, (map (entries fields)).get? name = some w ∧ w.HasShape v := by
  obtain ⟨w, hf, hs⟩ := h.filter_some hv
  exact ⟨w, by rw [get?_entries, hf]; rfl, hs⟩

theorem get?_none (h : FieldsOf ms fields) (hv : Entries.get? name ms = none) :
    (map (entries fields)).get? name = none := by
  rw [get?_entries, h.filter_none hv]
  rfl

end FieldsOf

theorem childrenEntry_entries (fields : List (String × Value)) :
    Node.childrenEntry (entries fields) = (field? fields "children" Node.childrenFromYaml).map (·.getD []) := by
  induction fields with
  | nil => rfl
  | cons f fields ih =>
    obtain ⟨k, v⟩ := f
    have hk : isNamed "children" (string k, v) = (k == "children") := rfl
    have ha : (entries fields).any (isNamed "children") = fields.any fun e => e.1 == "children" := by
      rw [entries, List.any_map]
      rfl
    show (if isNamed "children" (string k, v) then
      if (entries fields).any (isNamed "children") then none else Node.childrenFromYaml v
      else Node.childrenEntry (entries fields)) = _
    rw [hk, ha, ih, field?, field?]
    by_cases hc : k = "children"
    · subst hc
      rw [List.filter_cons_of_pos (by rfl), if_pos (by rfl)]
      cases hr : fields.filter fun e => e.1 == "children" with
      | nil =>
        have hany : (fields.any fun e => e.1 == "children") = false := by simpa [List.filter_eq_nil_iff] using hr
        simp [hany, Function.comp_def]
      | cons e es =>
        -- There is a second field of that name.
        have he : e ∈ fields.filter fun e => e.1 == "children" := by simp [hr]
        have hany : (fields.any fun e => e.1 == "children") = true := List.any_eq_true.2 ⟨e, List.mem_filter.1 he⟩
        simp [hany]
    · rw [List.filter_cons_of_neg (by simpa using hc), if_neg (by simpa using hc)]

end Yaml.Value

end GatewayPolicy
