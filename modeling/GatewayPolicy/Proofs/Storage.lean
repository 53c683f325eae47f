import GatewayPolicy.Interchange.Load
import GatewayPolicy.Interchange.ToJson
import GatewayPolicy.Proofs.Completion
/-!
# Stored declarations

Every type that a declaration is made of is read back as it was written, members that were left
out included. A declaration that was loaded has passed the check and is complete, so once stored
it is loaded again as it is.
-/

namespace GatewayPolicy

/-! ## Members -/

@[simp] theorem Entries.get?_nil {α : Type} (k : String) : Entries.get? k ([] : Entries α) = none := rfl

@[simp] theorem Entries.get?_cons {α : Type} (k j : String) (v : α) (es : Entries α) :
    Entries.get? k ((j, v) :: es) = if j = k then some v else es.get? k := rfl

@[simp] theorem Entries.get?_append {α : Type} (k : String) (es es' : Entries α) :
    Entries.get? k (es ++ es') = (es.get? k).or (es'.get? k) := by
  induction es with
  | nil => rfl
  | cons e es ih =>
    rw [List.cons_append, get?, get?, ih]
    split <;> rfl

@[simp] theorem Json.get?_memberIf (k name : String) (v : Option Json) :
    Entries.get? k (memberIf name v) = if name = k then v else none := by
  cases v with
  | none => rw [memberIf, Entries.get?_nil, ite_self]
  | some v => rfl

namespace Decoder

variable {α : Type} {d : Decoder α} {ms : List (String × Json)} {name : String}

theorem member?_some {v : Json} {a : α} (h : Entries.get? name ms = some v) (hv : d v = .ok a) :
    member? ms name d = .ok (some a) := by
  rw [member?, h]
  dsimp only
  rw [hv]
  rfl

theorem member?_none (h : Entries.get? name ms = none) : member? ms name d = .ok none := by
  rw [member?, h]

theorem optional_some {v : Json} {a : α} (hn : v ≠ .null) (hv : d v = .ok a) : optional d v = .ok (some a) := by
  unfold optional
  split
  · contradiction
  · rw [hv]
    rfl

/-- A member that is written only if there is a value, and not as null then. -/
theorem member?_optional {write : α → Json} {o : Option α} (h : Entries.get? name ms = o.map write)
    (hw : ∀ a, write a ≠ .null ∧ d (write a) = .ok a) : member? ms name (optional d) = .ok (o.map some) := by
  cases o with
  | none => exact member?_none h
  | some a => exact member?_some h (optional_some (hw a).1 (hw a).2)

theorem member?_string {s : String} (h : Entries.get? name ms = some (.string s)) :
    member? ms name string = .ok (some s) :=
  member?_some h rfl

theorem member?_optional_string {o : Option String} (h : Entries.get? name ms = o.map .string) :
    member? ms name (optional string) = .ok (o.map some) :=
  member?_optional h fun _ => ⟨Json.noConfusion, rfl⟩

/-- A list whose members are read back is read back. -/
theorem list_map {write : α → Json} {as : List α} (h : ∀ a ∈ as, d (write a) = .ok a) :
    list d (.array (as.map write)) = .ok as := by
  show (as.map write).mapM d = _
  induction as with
  | nil => rfl
  | cons a as ih =>
    obtain ⟨ha, has⟩ := List.forall_mem_cons.1 h
    rw [List.map_cons, List.mapM_cons, ha, ih has]
    rfl

/-- A function that reads the items of an array one by one reads a list. -/
theorem items_eq {f : List Json → Except DecodeError (List α)} (nil : f [] = .ok [])
    (cons : ∀ v vs, f (v :: vs) = d v >>= fun a => f vs >>= fun as => pure (a :: as)) (vs : List Json) :
    f vs = vs.mapM d := by
  induction vs with
  | nil => exact nil
  | cons v vs ih => rw [cons, ih, List.mapM_cons]

/-- A function that goes through the members of an object up to one of a name reads that member. -/
theorem named_eq {f : List (String × Json) → Except DecodeError (Option α)} (nil : f [] = .ok none)
    (cons : ∀ k v ms, f ((k, v) :: ms) = if k = name then some <$> d v else f ms) (ms : List (String × Json)) :
    f ms = member? ms name d := by
  induction ms with
  | nil => exact nil
  | cons m ms ih =>
    obtain ⟨k, v⟩ := m
    rw [cons, member?, Entries.get?]
    split
    · rfl
    · exact ih

end Decoder

open Decoder

/-! ## Nodes -/

theorem Kind.fromJson_toJson (k : Kind) : Kind.fromJson k.toJson = .ok k := by
  have hf : all.find? (fun a => a.code == k.code) = some k := k.ofCode?_code
  simp only [fromJson, toJson, plainVariant, variant, bind, Except.bind, hf]

namespace Node

theorem listToJson_eq (ns : List Node) : listToJson ns = ns.map toJson := by
  induction ns with
  | nil => rfl
  | cons n ns ih => rw [listToJson, ih, List.map_cons]

theorem childrenFromJson_eq : childrenFromJson = list fromJson := by
  funext v
  cases v with
  | array vs => exact items_eq (f := listFromJson) rfl (fun _ _ => rfl) vs
  | _ => rfl

theorem childrenMember_eq (ms : List (String × Json)) :
    childrenMember ms = member? ms "children" (list fromJson) := by
  rw [← childrenFromJson_eq]
  exact named_eq (f := childrenMember) rfl (fun _ _ _ => rfl) ms

theorem toJson_ne_null (n : Node) : n.toJson ≠ .null := by
  cases n
  rintro ⟨⟩

theorem fromJson_toJson (n : Node) : fromJson n.toJson = .ok n := by
  induction n using children_induction with
  | parent n ih =>
    obtain ⟨k, t, cs, x⟩ := n
    -- Children and a token may have left no member behind; a kind and a text are always written.
    rw [toJson, listToJson_eq, fromJson, childrenMember_eq]
    generalize hms : Json.memberIf "children" _ ++ _ ++ _ = ms
    have hc : member? ms "children" (list fromJson) = .ok (if cs.isEmpty then none else some cs) := by
      cases cs with
      | nil => exact member?_none (by simp [← hms, Json.arrayIf])
      | cons c cs => exact member?_some (by simp [← hms, Json.arrayIf]) (list_map ih)
    have hk : member? ms "kind" Kind.fromJson = .ok (some k) :=
      member?_some (by simp [← hms]) k.fromJson_toJson
    have hx : member? ms "source_text" string = .ok (some x) := member?_string (by simp [← hms])
    have ht : member? ms "token" (optional string) = .ok (t.map some) := member?_optional_string (by simp [← hms])
    rw [hc, hk, hx, ht]
    cases t <;> cases cs <;> rfl

end Node

/-! ## Declarations -/

theorem Parameter.fromJson_toJson (p : Parameter) : fromJson p.toJson = .ok p := by
  obtain ⟨name, type⟩ := p
  rw [toJson, fromJson]
  generalize hms : _ :: Json.memberIf "type" _ = ms
  have hn : member? ms "name" string = .ok (some name) := member?_string (by simp [← hms])
  have ht : member? ms "type" (optional string) = .ok (type.map some) := member?_optional_string (by simp [← hms])
  rw [hn, ht]
  cases type <;> rfl

theorem Method.fromJson_toJson (m : Method) : fromJson m.toJson = .ok m := by
  obtain ⟨name, returnType, parameters, body, expressionBody⟩ := m
  have hw : ∀ n : Node, n.toJson ≠ .null ∧ Node.fromJson n.toJson = .ok n :=
    fun n => ⟨n.toJson_ne_null, n.fromJson_toJson⟩
  rw [toJson, fromJson]
  generalize hms : Json.memberIf "body" _ ++ _ ++ _ = ms
  have hb : member? ms "body" (optional Node.fromJson) = .ok (body.map some) :=
    member?_optional (by simp [← hms]) hw
  have he : member? ms "expression_body" (optional Node.fromJson) = .ok (expressionBody.map some) :=
    member?_optional (by simp [← hms]) hw
  have hn : member? ms "name" string = .ok (some name) := member?_string (by simp [← hms])
  have hp : member? ms "parameters" (list Parameter.fromJson) = .ok (some parameters) :=
    member?_some (by simp [← hms]) (list_map fun p _ => p.fromJson_toJson)
  have hr : member? ms "return_type" string = .ok (some returnType) := member?_string (by simp [← hms])
  rw [hb, he, hn, hp, hr]
  cases body <;> cases expressionBody <;> rfl

namespace Declaration

theorem fromJson_toJson (d : Declaration) : fromJson d.toJson = .ok d := by
  obtain ⟨name, methods⟩ := d
  rw [toJson, fromJson]
  generalize hms : [_, _] = ms
  have hm : member? ms "methods" (list Method.fromJson) = .ok (some methods) :=
    member?_some (by simp [← hms]) (list_map fun m _ => m.fromJson_toJson)
  have hn : member? ms "name" string = .ok (some name) := member?_string (by simp [← hms])
  rw [hm, hn]
  rfl

theorem finish_ok {d d' : Declaration} : d.finish = .ok d' ↔ d.check = .ok () ∧ d.complete = d' := by
  rw [finish, then_ok, mapError_eq_ok]
  simp

/-- A declaration that was finished is finished. -/
theorem finish_finish {d d' : Declaration} (h : d.finish = .ok d') : d'.finish = .ok d' := by
  obtain ⟨hc, rfl⟩ := finish_ok.1 h
  exact finish_ok.2 ⟨check_complete hc, d.complete_complete⟩

/-- A declaration is loaded from its stored form if it passes the check. Its missing texts are filled in. -/
theorem loadJsonValue_toJson_eq (d : Declaration) : loadJsonValue d.toJson = d.finish := by
  have hw : d.toJson.get? wrapperKey = none := by simp [toJson, Json.get?, Entries.get?, wrapperKey]
  have hn : d.toJson.get? "name" = some (.string d.name) := by simp [toJson, Json.get?]
  rw [loadJsonValue, hw, Option.getD_none, hn, d.fromJson_toJson]
  rfl

theorem finish_of_loadJsonValue {v : Json} {d : Declaration} (h : loadJsonValue v = .ok d) :
    ∃ d₀ : Declaration, d₀.finish = .ok d := by
  unfold loadJsonValue at h
  dsimp only at h
  split at h
  · cases h
  · obtain ⟨d₀, -, h⟩ := bind_ok.1 h
    exact ⟨d₀, h⟩

/-- A declaration that was loaded is loaded again, as it is, from what it is stored as. -/
theorem loadJsonValue_toJson {v : Json} {d : Declaration} (h : loadJsonValue v = .ok d) :
    loadJsonValue d.toJson = .ok d := by
  obtain ⟨d₀, h₀⟩ := finish_of_loadJsonValue h
  rw [loadJsonValue_toJson_eq, finish_finish h₀]

/-- A declaration under its key, with a typed parameter, without source texts, and with a part whose
text stays empty. -/
def wrappedApi : Json :=
  let part : Json := .object [("kind", .string "interpolated_text"), ("token", .string "")]
  let banner : Json := .object [("children", .array [part]), ("kind", .string "interpolated_string")]
  let banners : Json :=
    .object [("children", .array [banner]), ("kind", .string "local_declaration"), ("token", .string "banner")]
  let block : Json := .object [("children", .array [banners]), ("kind", .string "block")]
  let context : Json := .object [("name", .string "context"), ("type", .string "IRequest")]
  .object
    [("declaration", .object
      [("methods", .array
        [.object [("body", block), ("name", .string "Inbound"), ("parameters", .array [context])],
          .object [("name", .string "Outbound"), ("return_type", .string "bool")]]),
        ("name", .string "Api")]),
      ("version", .string "0.1")]

theorem loadJsonValue_toJson_wrapped :
    ∃ d, loadJsonValue wrappedApi = .ok d ∧ loadJsonValue d.toJson = .ok d := by
  obtain ⟨d, hd⟩ := exists_of_isOk (x := loadJsonValue wrappedApi) (by decide +kernel)
  exact ⟨d, hd, loadJsonValue_toJson hd⟩

end Declaration

end GatewayPolicy
