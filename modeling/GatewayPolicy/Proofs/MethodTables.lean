import GatewayPolicy.Compile.MethodTable
import GatewayPolicy.Source.Text
import Mathlib.Data.Finset.Card
/-!
# A method table agrees with its declaration

A table is filled with the methods of a declaration one by one, and a method whose name it already has
is left out. After any number of methods it therefore finds, for every name, the method that a search
from the front finds, and it holds one method for each name.
-/

namespace GatewayPolicy.MethodTable

/-- The names of the methods in a table. -/
def names (t : MethodTable) : List String := t.methods.map Method.name

/-- The table without methods. -/
def empty : MethodTable := ⟨[], .nil⟩

/-- The table with a method more, unless it has one of that name. -/
def insertIfNew (t : MethodTable) (m : Method) : MethodTable :=
  if h : m.name ∈ t.names then t
  else ⟨t.methods ++ [m], by
    rw [List.map_append]
    exact List.Nodup.append t.distinct (List.nodup_singleton _) (List.disjoint_singleton.2 h)⟩

theorem ext_methods {t u : MethodTable} (h : t.methods = u.methods) : t = u := by
  cases t
  cases u
  cases h
  rfl

section
variable {d : Declaration} {t : MethodTable} {m : Method} {ms : List Method} {name : String}

/-! ## One method more -/

theorem insertIfNew_of_mem (h : m.name ∈ t.names) : t.insertIfNew m = t := dif_pos h

theorem insertIfNew_methods (h : m.name ∉ t.names) : (t.insertIfNew m).methods = t.methods ++ [m] := by
  rw [insertIfNew, dif_neg h]

theorem mem_names_insertIfNew : name ∈ (t.insertIfNew m).names ↔ name ∈ t.names ∨ name = m.name := by
  by_cases h : m.name ∈ t.names
  · rw [insertIfNew_of_mem h]
    constructor
    · exact .inl
    · rintro (hn | rfl)
      · exact hn
      · exact h
  · rw [names, insertIfNew_methods h, List.map_append, List.mem_append]
    exact or_congr_right List.mem_singleton

/-! ## All methods of a declaration -/

/-- Of each name that a table does not have, the first method comes in. -/
theorem methods_foldl_insertIfNew (ms : List Method) (t : MethodTable) :
    (ms.foldl insertIfNew t).methods = t.methods ++ (Method.firsts ms).filter fun m => m.name ∉ t.names := by
  induction ms generalizing t with
  | nil => simp [Method.firsts]
  | cons m ms ih =>
    -- What is new after `m` is what was new before it and has another name.
    have hnew : (Method.firsts ms).filter (fun o => o.name ∉ (t.insertIfNew m).names) =
        ((Method.firsts ms).filter fun o => o.name != m.name).filter fun o => o.name ∉ t.names := by
      rw [List.filter_filter]
      refine List.filter_congr fun o _ => ?_
      simp [mem_names_insertIfNew, bne, beq_eq_decide]
    rw [List.foldl_cons, ih, hnew, Method.firsts]
    by_cases h : m.name ∈ t.names
    · rw [insertIfNew_of_mem h, List.filter_cons_of_neg (by simpa using h)]
    · rw [insertIfNew_methods h, List.filter_cons_of_pos (by simpa using h), List.append_assoc, List.singleton_append]

theorem ofDeclaration_eq_foldl (d : Declaration) : ofDeclaration d = d.methods.foldl insertIfNew empty := by
  refine ext_methods ?_
  rw [methods_foldl_insertIfNew]
  simp [ofDeclaration, empty, names]

theorem mem_names_foldl : name ∈ (ms.foldl insertIfNew t).names ↔ name ∈ t.names ∨ name ∈ ms.map Method.name := by
  induction ms generalizing t with
  | nil => simp
  | cons m ms ih => rw [List.foldl_cons, ih, mem_names_insertIfNew, List.map_cons, List.mem_cons, or_assoc]

theorem mem_names_ofDeclaration : name ∈ (ofDeclaration d).names ↔ name ∈ d.methods.map Method.name := by
  rw [ofDeclaration_eq_foldl, mem_names_foldl]
  simp [empty, names]

/-- A table has as many methods as names. -/
theorem size_eq_card (t : MethodTable) : t.size = t.names.toFinset.card := by
  rw [names, List.toFinset_card_of_nodup t.distinct, List.length_map]
  rfl

/-- A method behind the others is inserted last. -/
theorem ofDeclaration_append (d : Declaration) (m : Method) :
    ofDeclaration ⟨d.name, d.methods ++ [m]⟩ = (ofDeclaration d).insertIfNew m := by
  rw [ofDeclaration_eq_foldl, ofDeclaration_eq_foldl, List.foldl_append]
  rfl

/-! ## Look-ups -/

/-- A search finds the first method of a name. -/
theorem method?_eq_some_iff : d.method? name = some m ↔
    ∃ front back, d.methods = front ++ m :: back ∧ m.name = name ∧ ∀ o ∈ front, o.name ≠ name := by
  rw [Declaration.method?, List.find?_eq_some_iff_append]
  simp only [beq_iff_eq, Bool.not_eq_true', beq_eq_false_iff_ne]
  constructor
  · rintro ⟨hn, front, back, hd, hf⟩
    exact ⟨front, back, hd, hn, hf⟩
  · rintro ⟨front, back, hd, hn, hf⟩
    exact ⟨hn, front, back, hd, hf⟩

theorem method?_eq_none_iff : d.method? name = none ↔ ∀ o ∈ d.methods, o.name ≠ name := by
  rw [Declaration.method?, List.find?_eq_none]
  simp only [beq_iff_eq]

end

/-- The table of a declaration is filled method by method, from the empty table on. Under every name it
has the same method as the declaration: the first one that is declared by that name, and none just if
none is. It holds as many methods as there are names, and a method behind the others whose name is
declared before changes nothing that is found. -/
theorem agrees_with_declaration (d : Declaration) :
    ofDeclaration d = d.methods.foldl insertIfNew empty ∧
      (∀ name, (ofDeclaration d).get? name = d.method? name) ∧
      (∀ name m, (ofDeclaration d).get? name = some m ↔
        ∃ front back, d.methods = front ++ m :: back ∧ m.name = name ∧ ∀ o ∈ front, o.name ≠ name) ∧
      (∀ name, (ofDeclaration d).get? name = none ↔ ∀ o ∈ d.methods, o.name ≠ name) ∧
      (ofDeclaration d).size = (d.methods.map Method.name).toFinset.card ∧
      ∀ m, (∃ o ∈ d.methods, o.name = m.name) →
        ∀ name, (ofDeclaration ⟨d.name, d.methods ++ [m]⟩).get? name = (ofDeclaration d).get? name := by
  have hget := get?_ofDeclaration d
  refine ⟨ofDeclaration_eq_foldl d, hget, fun name m => ?_, fun name => ?_, ?_, fun m hm name => ?_⟩
  · rw [hget, method?_eq_some_iff]
  · rw [hget, method?_eq_none_iff]
  · have hnames : (ofDeclaration d).names.toFinset = (d.methods.map Method.name).toFinset := by
      ext name
      rw [List.mem_toFinset, List.mem_toFinset, mem_names_ofDeclaration]
    rw [size_eq_card, hnames]
  · have hn : m.name ∈ (ofDeclaration d).names := mem_names_ofDeclaration.2 (List.mem_map.2 hm)
    rw [ofDeclaration_append, insertIfNew_of_mem hn]

/-- Helpers of one name around a section. -/
def repeatedHelper : Declaration :=
  ⟨"Api", [.expressionBodied "IsGet" "bool" (.identifier "first"), .forSection "Inbound" (.block []),
    .expressionBodied "IsGet" "bool" (.identifier "second")]⟩

theorem agrees_with_declaration_repeated :
    let m := Method.expressionBodied "IsGet" "bool" (.identifier "third")
    (∃ o ∈ repeatedHelper.methods, o.name = m.name) ∧ (ofDeclaration repeatedHelper).size = 2 ∧
      (ofDeclaration repeatedHelper).get? "isget" = none ∧
      (ofDeclaration ⟨"Api", repeatedHelper.methods ++ [m]⟩).get? "IsGet" =
        some (.expressionBodied "IsGet" "bool" (.identifier "first")) := by
  intro m
  have hm : ∃ o ∈ repeatedHelper.methods, o.name = m.name := ⟨_, List.mem_cons_self, rfl⟩
  obtain ⟨-, -, hsome, hnone, hsize, happend⟩ := agrees_with_declaration repeatedHelper
  have hfirst : (ofDeclaration repeatedHelper).get? "IsGet" =
      some (.expressionBodied "IsGet" "bool" (.identifier "first")) := (hsome _ _).2 ⟨[], _, rfl, rfl, by simp⟩
  exact ⟨hm, hsize.trans (by decide), (hnone _).2 (by decide), (happend m hm _).trans hfirst⟩

end GatewayPolicy.MethodTable
