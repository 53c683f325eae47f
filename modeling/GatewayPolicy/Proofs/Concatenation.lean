import GatewayPolicy.Proofs.EscapeGrammar
/-!
# Escaped texts one after the other

Behind an escaped text everything begins afresh: what stands before a text changes neither whether it
is well escaped nor what it stands for. So an interpolated string without holes, in however many texts
it is written, is the constant that its texts stand for one after the other.
-/

namespace GatewayPolicy

/-- Well-escaped texts stand together for what they stand for one by one. -/
theorem unescape_join {raws : List String} {vs : List (List Char)}
    (h : List.Forall₂ (fun raw v => Text.unescape raw.toList = some v) raws vs) :
    Text.unescape (String.join raws).toList = some vs.flatten := by
  rw [String.toList_join]
  induction h with
  | nil => rfl
  | cons hv _ ih =>
    have hv := Text.unescape_eq_some_iff.1 hv
    rw [List.flatMap_cons, hv.unescape_append, ih, Option.map_some, List.flatten_cons]

/-- Behind a well-escaped text, a text stands for what it stands for alone, and for nothing if it stands
for nothing alone. An interpolated string that is made of well-escaped texts is, in any context, the
constant that they stand for one after the other. -/
theorem escaped_texts_compose :
    (∀ (a b : String) (x : List Char), Text.unescape a.toList = some x →
      (∀ y, Text.unescape (a ++ b).toList = some (x ++ y) ↔ Text.unescape b.toList = some y) ∧
      (Text.unescape (a ++ b).toList = none ↔ Text.unescape b.toList = none)) ∧
    ∀ (env : Environment) (n : Node) (vs : List (List Char)), n.kind = .interpolatedString →
      (∀ c ∈ n.children, c.kind = .interpolatedText) →
      List.Forall₂ (fun c v => Text.unescape c.name.toList = some v) n.children vs →
      extractValue env n = .ok (.literal (String.ofList vs.flatten)) := by
  refine ⟨fun a b x ha => ?_, fun env n vs hk ht hv => ?_⟩
  · have hab := (Text.unescape_eq_some_iff.1 ha).unescape_append b.toList
    rw [String.toList_append, hab]
    constructor
    · intro y
      rw [Option.map_eq_some_iff]
      constructor
      · rintro ⟨z, hz, he⟩
        rwa [List.append_cancel_left he] at hz
      · intro hy
        exact ⟨y, hy, rfl⟩
    · exact Option.map_eq_none_iff
  · have hn : n.HoleFree (String.join (n.children.map Node.name)) := ⟨hk, ht, rfl⟩
    rw [hn.extractValue_eq, unescape_join (List.forall₂_map_left_iff.2 hv)]

/-- An escaped backslash before a text that a backslash would make a code, and an ill-formed text
behind a whole code. -/
theorem escaped_texts_compose_backslash :
    let raws := ["\\\\", "u0041", "\x7b\x7b", "\\u0041"]
    Text.unescape "\\\\u0041".toList = some ['\\', 'u', '0', '0', '4', '1'] ∧
      Text.unescape "\\u0041\\u00".toList = none ∧
      extractValue ⟨.ofDeclaration ⟨"Api", []⟩, {}⟩ (.interpolatedString (raws.map .interpolatedText)) =
        .ok (.literal "\\u0041\x7bA") := by
  intro raws
  obtain ⟨hcompose, hextract⟩ := escaped_texts_compose
  have hbackslash : Text.unescape "\\\\".toList = some ['\\'] := by decide
  have hcode : Text.unescape "\\u0041".toList = some ['A'] := by decide
  refine ⟨?_, ?_, ?_⟩
  · exact ((hcompose "\\\\" "u0041" _ hbackslash).1 _).2 (by decide)
  · exact (hcompose "\\u0041" "\\u00" _ hcode).2.2 (by decide)
  · refine hextract _ _ [['\\'], ['u', '0', '0', '4', '1'], ['\x7b'], ['A']] rfl ?_ ?_
    · exact List.forall_mem_map.2 fun _ _ => rfl
    · exact .cons hbackslash (.cons (by decide) (.cons (by decide) (.cons hcode .nil)))

end GatewayPolicy
