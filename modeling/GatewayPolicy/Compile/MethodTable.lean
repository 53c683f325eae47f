import GatewayPolicy.Source.Declaration
/-!
# Method tables

The methods of a declaration by name. Of several methods with one name the table
holds the first.
-/

namespace GatewayPolicy

namespace Method

/-- The first method of each name. -/
def firsts : List Method → List Method
  | [] => []
  | m :: ms => m :: (firsts ms).filter fun o => o.name != m.name

theorem nodup_firsts (ms : List Method) : ((firsts ms).map Method.name).Nodup := by
  induction ms with
  | nil => exact .nil
  | cons m ms ih =>
    refine List.nodup_cons.2 ⟨?_, List.Nodup.sublist (List.filter_sublist.map _) ih⟩
    simp only [List.mem_map, List.mem_filter]
    rintro ⟨o, ⟨-, ho⟩, he⟩
    simp [he] at ho

end Method

/-- Methods with distinct names. -/
structure MethodTable where
  methods : List Method
  distinct : (methods.map Method.name).Nodup

namespace MethodTable

def ofDeclaration (d : Declaration) : MethodTable := ⟨Method.firsts d.methods, Method.nodup_firsts _⟩

def get? (t : MethodTable) (name : String) : Option Method := t.methods.find? fun m => m.name == name

theorem get?_ofDeclaration (d : Declaration) (name : String) : (ofDeclaration d).get? name = d.method? name := by
  show (Method.firsts d.methods).find? _ = d.methods.find? _
  induction d.methods with
  | nil => rfl
  | cons m ms ih =>
    rw [Method.firsts]
    by_cases hm : m.name = name
    · rw [List.find?_cons_of_pos (by simpa using hm), List.find?_cons_of_pos (by simpa using hm)]
    · rw [List.find?_cons_of_neg (by simpa using hm), List.find?_cons_of_neg (by simpa using hm), ← ih,
        List.find?_filter]
      -- A later method of the wanted name is not one that the table leaves out.
      congr 1
      funext o
      by_cases ho : o.name = name
      · have hne : name ≠ m.name := fun h => hm h.symm
        simp [ho, hne]
      · simp [ho]

def size (t : MethodTable) : Nat := t.methods.length

def isEmpty (t : MethodTable) : Bool := t.methods.isEmpty

end MethodTable

end GatewayPolicy
