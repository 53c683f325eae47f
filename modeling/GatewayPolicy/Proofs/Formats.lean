import GatewayPolicy.Proofs.Shapes
import GatewayPolicy.Proofs.Storage
/-!
# The two formats agree

A declaration is decoded from a YAML value as from a JSON value of the same shape, if every record is
given as an object and every kind as a string. What follows the decoding is the same for both formats,
so a declaration that is loaded from the one is loaded from the other, and one that fails the check
fails it alike.
-/

namespace GatewayPolicy

open Decoder
open Yaml (Value)
open Yaml.Value

/-! ## Agreement -/

/-- What one decoder reads from a JSON value, another reads from the YAML values of its shape. -/
def ReadsAlike {α : Type} (d : Decoder α) (f : Value → Option α) (v : Json) : Prop :=
  ∀ w a, w.HasShape v → d v = .ok a → f w = some a

namespace ReadsAlike

variable {α : Type} {d : Decoder α} {f : Value → Option α} {v : Json}

theorem string (v : Json) : ReadsAlike Decoder.string asString v := by
  intro w s hw h
  cases v with
  | string t =>
    cases h
    rw [hw.eq_string]
    rfl
  | _ => cases h

theorem optional (h : v ≠ .null → ReadsAlike d f v) : ReadsAlike (Decoder.optional d) (asOptional f) v := by
  intro w o hw ho
  by_cases hv : v = .null
  · subst hv
    cases ho
    rw [hw.eq_null]
    rfl
  · have hd : Decoder.optional d v = some <$> d v := by
      unfold Decoder.optional
      split
      · exact absurd rfl hv
      · rfl
    have hf : asOptional f w = (f w).map some := by
      unfold asOptional
      split
      · exact absurd rfl (hw.ne_null hv)
      · rfl
    obtain ⟨a, ha, rfl⟩ := map_ok.1 (hd.symm.trans ho)
    rw [hf, h hv w a hw ha, Option.map_some]

theorem items {vs : List Json} {ws : List Value} {as : List α} (h : ∀ x ∈ vs, ReadsAlike d f x)
    (hs : sameItems (ofJsonItems vs) ws) (hd : vs.mapM d = .ok as) : ws.mapM f = some as := by
  induction vs generalizing ws as with
  | nil =>
    cases hd
    cases ws with
    | nil => rfl
    | cons w ws => cases hs
  | cons v vs ih =>
    obtain ⟨hv, h⟩ := List.forall_mem_cons.1 h
    cases ws with
    | nil => cases hs
    | cons w ws =>
      simp only [ofJsonItems, sameItems, Bool.and_eq_true] at hs
      rw [List.mapM_cons] at hd
      obtain ⟨a, ha, hd⟩ := bind_ok.1 hd
      obtain ⟨bs, hbs, hd⟩ := bind_ok.1 hd
      cases hd
      rw [List.mapM_cons, hv w a hs.1 ha, ih h hs.2 hbs]
      rfl

theorem list (h : ∀ vs, v = .array vs → ∀ x ∈ vs, ReadsAlike d f x) :
    ReadsAlike (Decoder.list d) (asList f) v := by
  intro w as hw has
  cases v with
  | array vs =>
    obtain ⟨ws, rfl, hs⟩ := hw.eq_list
    exact items (h vs rfl) hs has
  | _ => cases has

theorem member {ms : List (String × Json)} {fields : List (String × Value)} {name : String} {o : Option α}
    (hf : FieldsOf ms fields) (h : ∀ v, Entries.get? name ms = some v → ReadsAlike d f v)
    (ho : member? ms name d = .ok o) : field? fields name f = some o := by
  cases hv : Entries.get? name ms with
  | none =>
    rw [member?_none hv] at ho
    cases ho
    exact hf.field?_none hv f
  | some v =>
    obtain ⟨w, hw, he⟩ := hf.field?_some hv f
    rw [member?, hv] at ho
    obtain ⟨a, ha, rfl⟩ := map_ok.1 ho
    rw [he, h v hv w a hw ha, Option.map_some]

end ReadsAlike

/-! ## Records given as objects -/

/-- An object with the given members, no two of one name. -/
def Json.HasMembers (v : Json) (ms : List (String × Json)) : Prop := v = .object ms ∧ (ms.map Prod.fst).Nodup

/-- A node as an object, with its kind as a string, and so all the way down. -/
inductive Node.InObjects : Json → Prop
  | intro {v : Json} {ms : List (String × Json)} : v.HasMembers ms →
      (∀ k, Entries.get? "kind" ms = some k → ∃ s, k = .string s) →
      (∀ cs, Entries.get? "children" ms = some (.array cs) → ∀ c ∈ cs, InObjects c) → InObjects v

/-- A method as an object, with its parameters and bodies as objects. -/
def Method.InObjects (v : Json) : Prop :=
  ∃ ms, v.HasMembers ms ∧
    (∀ ps, Entries.get? "parameters" ms = some (.array ps) → ∀ p ∈ ps, ∃ qs, p.HasMembers qs) ∧
    ∀ name ∈ ["body", "expression_body"], ∀ b, Entries.get? name ms = some b → b ≠ .null → Node.InObjects b

/-- A declaration as an object, with its methods as objects. -/
def Declaration.InObjects (v : Json) : Prop :=
  ∃ ms, v.HasMembers ms ∧ ∀ fs, Entries.get? "methods" ms = some (.array fs) → ∀ f ∈ fs, Method.InObjects f

theorem required_ok {α : Type} {name : String} {o : Option α} {a : α} : required name o = .ok a ↔ o = some a := by
  cases o <;> simp [required]

theorem plainVariant_string {α : Type} {all : List α} {name : α → String} {s : String} {a : α}
    (h : plainVariant all name (.string s) = .ok a) : all.find? (fun b => name b == s) = some a := by
  simp only [plainVariant, variant, bind, Except.bind] at h
  split at h
  · cases h
  · next hf _ => cases h; exact hf
  · next hn => cases hn
  · next hn => cases hn

theorem Kind.readsAlike (s : String) : ReadsAlike Kind.fromJson Kind.fromYaml (.string s) := by
  intro w k hw h
  rw [hw.eq_string]
  exact plainVariant_string h

theorem Parameter.readsAlike {v : Json} {ms : List (String × Json)} (hv : v.HasMembers ms) :
    ReadsAlike Parameter.fromJson Parameter.fromYaml v := by
  obtain ⟨rfl, hn⟩ := hv
  intro w p hw h
  obtain ⟨fields, rfl, hf⟩ := hw.fields hn
  obtain ⟨name, hname, h⟩ := bind_ok.1 h
  obtain ⟨type, htype, h⟩ := bind_ok.1 h
  obtain ⟨n, hreq, h⟩ := bind_ok.1 h
  cases h
  cases required_ok.1 hreq
  have h₁ := ReadsAlike.member hf (fun v _ => .string v) hname
  have h₂ := ReadsAlike.member hf (fun v _ => .optional fun _ => .string v) htype
  rw [Parameter.fromYaml, asRecord_entries]
  simp [h₁, h₂]

/-! ## Nodes -/

theorem Node.listFromYaml_eq (ws : List Value) : listFromYaml ws = ws.mapM fromYaml := by
  induction ws with
  | nil => rfl
  | cons w ws ih => rw [listFromYaml, ih, List.mapM_cons]

theorem Node.readsAlike_children {v : Json}
    (h : ∀ cs, v = .array cs → ∀ c ∈ cs, ReadsAlike Node.fromJson Node.fromYaml c) :
    ReadsAlike (list Node.fromJson) Node.childrenFromYaml v := by
  intro w ns hw hns
  have hl := ReadsAlike.list h w ns hw hns
  cases v with
  | array cs =>
    obtain ⟨ws, rfl, -⟩ := hw.eq_list
    exact (listFromYaml_eq ws).trans hl
  | _ => cases hns

theorem Node.readsAlike {v : Json} (hv : Node.InObjects v) : ReadsAlike Node.fromJson Node.fromYaml v := by
  induction hv with
  | @intro v ms hv hk hc ih =>
    obtain ⟨rfl, hn⟩ := hv
    intro w n hw h
    obtain ⟨fields, rfl, hf⟩ := hw.fields hn
    rw [fromJson, childrenMember_eq] at h
    obtain ⟨children, hchildren, h⟩ := bind_ok.1 h
    obtain ⟨kind, hkind, h⟩ := bind_ok.1 h
    obtain ⟨text, htext, h⟩ := bind_ok.1 h
    obtain ⟨token, htoken, h⟩ := bind_ok.1 h
    obtain ⟨k, hreq, h⟩ := bind_ok.1 h
    cases h
    cases required_ok.1 hreq
    have h₁ := ReadsAlike.member hf (fun v hv => readsAlike_children fun cs hcs => ih cs (by rw [hv, hcs])) hchildren
    have h₂ := ReadsAlike.member hf (fun v hv => by obtain ⟨s, rfl⟩ := hk v hv; exact Kind.readsAlike s) hkind
    have h₃ := ReadsAlike.member hf (fun v _ => .string v) htext
    have h₄ := ReadsAlike.member hf (fun v _ => .optional fun _ => .string v) htoken
    rw [fromYaml, asRecord_entries, childrenEntry_entries]
    simp [h₁, h₂, h₃, h₄]

/-! ## Declarations -/

theorem Method.readsAlike {v : Json} (hv : Method.InObjects v) : ReadsAlike Method.fromJson Method.fromYaml v := by
  obtain ⟨ms, ⟨rfl, hn⟩, hps, hbs⟩ := hv
  intro w m hw h
  obtain ⟨fields, rfl, hf⟩ := hw.fields hn
  obtain ⟨body, hbody, h⟩ := bind_ok.1 h
  obtain ⟨expressionBody, hexpr, h⟩ := bind_ok.1 h
  obtain ⟨name, hname, h⟩ := bind_ok.1 h
  obtain ⟨parameters, hparams, h⟩ := bind_ok.1 h
  obtain ⟨returnType, hret, h⟩ := bind_ok.1 h
  obtain ⟨n, hreq, h⟩ := bind_ok.1 h
  cases h
  cases required_ok.1 hreq
  have h₁ := ReadsAlike.member hf (fun v _ => .string v) hname
  have h₂ := ReadsAlike.member hf (fun v _ => .string v) hret
  have h₃ := ReadsAlike.member hf (fun v hv => .list fun ps hp p hm => by
    obtain ⟨qs, hq⟩ := hps ps (by rw [hv, hp]) p hm
    exact Parameter.readsAlike hq) hparams
  have h₄ := ReadsAlike.member hf
    (fun v hv => .optional fun hnull => Node.readsAlike (hbs "body" (by simp) v hv hnull)) hbody
  have h₅ := ReadsAlike.member hf
    (fun v hv => .optional fun hnull => Node.readsAlike (hbs "expression_body" (by simp) v hv hnull)) hexpr
  rw [Method.fromYaml, asRecord_entries]
  simp [h₁, h₂, h₃, h₄, h₅]

namespace Declaration

theorem readsAlike {v : Json} (hv : Declaration.InObjects v) :
    ReadsAlike Declaration.fromJson Declaration.fromYaml v := by
  obtain ⟨ms, ⟨rfl, hn⟩, hms⟩ := hv
  intro w d hw h
  obtain ⟨fields, rfl, hf⟩ := hw.fields hn
  obtain ⟨methods, hmethods, h⟩ := bind_ok.1 h
  obtain ⟨name, hname, h⟩ := bind_ok.1 h
  obtain ⟨n, hreq, h⟩ := bind_ok.1 h
  cases h
  cases required_ok.1 hreq
  have h₁ := ReadsAlike.member hf (fun v _ => .string v) hname
  have h₂ := ReadsAlike.member hf (fun v hv => .list fun fs hfs m hm => by
    exact Method.readsAlike (hms fs (by rw [hv, hfs]) m hm)) hmethods
  rw [fromYaml, asRecord_entries]
  simp [h₁, h₂]

/-- A stored declaration as objects, with or without the object around it. -/
def StoredInObjects (v : Json) : Prop :=
  (∃ ms, v.HasMembers ms) ∧ Declaration.InObjects ((v.get? wrapperKey).getD v)

section
variable {v : Json} {w : Value} {ms : List (String × Json)} {name : String}

/-- A member that may be missing has its shape on the other side. -/
theorem get?_getD (hv : v.HasMembers ms) (hw : w.HasShape v) :
    ((w.get? name).getD w).HasShape ((v.get? name).getD v) := by
  obtain ⟨rfl, hn⟩ := hv
  obtain ⟨fields, rfl, hf⟩ := hw.fields hn
  cases hg : Entries.get? name ms with
  | none =>
    rw [hf.get?_none hg, Json.get?, hg]
    exact hw
  | some u =>
    obtain ⟨x, hx, hs⟩ := hf.get?_some hg
    rw [hx, Json.get?, hg]
    exact hs

theorem isNone_get? (hv : v.HasMembers ms) (hw : w.HasShape v) : (w.get? name).isNone = (v.get? name).isNone := by
  obtain ⟨rfl, hn⟩ := hv
  obtain ⟨fields, rfl, hf⟩ := hw.fields hn
  cases hg : Entries.get? name ms with
  | none => rw [hf.get?_none hg, Json.get?, hg]; rfl
  | some u =>
    obtain ⟨x, hx, -⟩ := hf.get?_some hg
    rw [hx, Json.get?, hg]
    rfl

end

/-- What is loaded from a JSON value is loaded from a YAML value of its shape: the same declaration, or
the same error of its layout. Only where a JSON value does not decode at all may the YAML value do. -/
theorem loadYamlValue_of_shape {v : Json} {w : Value} (hv : StoredInObjects v) (hw : w.HasShape v)
    (hd : ∀ e, loadJsonValue v ≠ .error (.jsonShape e)) : loadYamlValue w = loadJsonValue v := by
  obtain ⟨⟨ms, hms⟩, hi⟩ := hv
  have hs : ((w.get? wrapperKey).getD w).HasShape ((v.get? wrapperKey).getD v) := get?_getD hms hw
  unfold loadJsonValue at hd
  unfold loadJsonValue loadYamlValue
  dsimp only at hd ⊢
  generalize (v.get? wrapperKey).getD v = v', (w.get? wrapperKey).getD w = w' at hi hs hd ⊢
  have hi' := hi
  obtain ⟨ms', hms', -⟩ := hi'
  rw [isNone_get? hms' hs]
  split
  · rfl
  · next hn =>
    rw [if_neg hn] at hd
    cases hj : fromJson v' with
    | error e =>
      rw [hj] at hd
      exact absurd rfl (hd e)
    | ok d =>
      rw [readsAlike hi w' d hs hj]
      rfl

/-- A declaration under its key, with a body and with an expression body that is null. -/
def nestedApi : Json :=
  let result : Json := .object [("children", .array [.object [("kind", .string "identifier"), ("token", .string "x")]]),
    ("kind", .string "return_statement"), ("source_text", .string "")]
  let block : Json := .object [("children", .array [result]), ("kind", .string "block")]
  let context : Json := .object [("name", .string "context"), ("type", .null)]
  .object
    [("declaration", .object
      [("methods", .array
        [.object [("body", block), ("expression_body", .null), ("name", .string "Inbound"),
          ("parameters", .array [context])]]),
        ("name", .string "Api")]),
      ("version", .int 1)]

/-- The same with the entries of its mappings in other orders. -/
def nestedApiYaml : Value :=
  let result : Value := .map [(.string "source_text", .string ""), (.string "kind", .string "return_statement"),
    (.string "children", .list [.map [(.string "kind", .string "identifier"), (.string "token", .string "x")]])]
  let block : Value := .map [(.string "kind", .string "block"), (.string "children", .list [result])]
  let context : Value := .map [(.string "type", .null), (.string "name", .string "context")]
  .map
    [(.string "version", .int 1),
      (.string "declaration", .map
        [(.string "name", .string "Api"),
          (.string "methods", .list
            [.map [(.string "name", .string "Inbound"), (.string "parameters", .list [context]),
              (.string "body", block), (.string "expression_body", .null)]])])]

theorem loadYamlValue_of_shape_nested :
    StoredInObjects nestedApi ∧ nestedApiYaml.HasShape nestedApi ∧ (loadJsonValue nestedApi).isOk ∧
      loadYamlValue nestedApiYaml = loadJsonValue nestedApi := by
  have hv : StoredInObjects nestedApi := by
    refine ⟨⟨_, rfl, by decide⟩, _, ⟨rfl, by decide⟩, fun fs hfs f hf => ?_⟩
    cases hfs
    cases List.mem_singleton.1 hf
    refine ⟨_, ⟨rfl, by decide⟩, fun ps hps p hp => ?_, fun name hname b hb hnull => ?_⟩
    · cases hps
      cases List.mem_singleton.1 hp
      exact ⟨_, rfl, by decide⟩
    · simp only [List.mem_cons, List.not_mem_nil, or_false] at hname
      rcases hname with rfl | rfl
      · cases hb
        refine .intro ⟨rfl, by decide⟩ (fun k hk => by cases hk; exact ⟨_, rfl⟩) fun cs hcs c hc => ?_
        cases hcs
        cases List.mem_singleton.1 hc
        refine .intro ⟨rfl, by decide⟩ (fun k hk => by cases hk; exact ⟨_, rfl⟩) fun cs hcs c hc => ?_
        cases hcs
        cases List.mem_singleton.1 hc
        exact .intro ⟨rfl, by decide⟩ (fun k hk => by cases hk; exact ⟨_, rfl⟩) fun cs hcs => by cases hcs
      · cases hb
        exact absurd rfl hnull
  have hw : nestedApiYaml.HasShape nestedApi := by
    unfold HasShape
    decide +kernel
  have hok : (loadJsonValue nestedApi).isOk := by decide +kernel
  refine ⟨hv, hw, hok, loadYamlValue_of_shape hv hw fun e he => ?_⟩
  rw [he] at hok
  cases hok

end Declaration

end GatewayPolicy
