import GatewayPolicy.Proofs.Interpolation
import Mathlib.Tactic.Ring
/-!
# The grammar of escaped text

A text is unescaped just if it is a sequence of items: characters that stand for themselves, doubled
braces, escapes of one letter, and codes of four hexadecimal digits. Codes are read more freely than
that: a plus sign may stand in the place of the first digit. An interpolated string without holes is a
constant just if its texts, put together, are such a sequence.
-/

namespace GatewayPolicy

namespace Text

/-! ## Hexadecimal numbers -/

/-- The hexadecimal digits with their values. -/
def hexDigits : List (Char × Nat) :=
  ['0', '1', '2', '3', '4', '5', '6', '7', '8', '9', 'a', 'b', 'c', 'd', 'e', 'f'].zipIdx ++
    ['A', 'B', 'C', 'D', 'E', 'F'].zipIdx 10

/-- Hexadecimal digits and the number that they stand for. -/
inductive HexNumber : List Char → Nat → Prop
  | nil : HexNumber [] 0
  | cons {d k ds n} : (d, k) ∈ hexDigits → HexNumber ds n → HexNumber (d :: ds) (k * 16 ^ ds.length + n)

section
variable {d : Char} {ds : List Char} {k n : Nat}

theorem mem_hexDigits : (d, k) ∈ hexDigits ↔ hexValue? d = some k := by
  constructor
  · intro h
    exact (by decide : ∀ e ∈ hexDigits, hexValue? e.1 = some e.2) _ h
  · intro h
    have hd : d.toNat < 128 := by
      unfold hexValue? at h
      split_ifs at h with h₁ h₂ h₃
      · exact Nat.lt_of_le_of_lt h₁.2 (by decide)
      · exact Nat.lt_of_le_of_lt h₂.2 (by decide)
      · exact Nat.lt_of_le_of_lt h₃.2 (by decide)
    have hk := (by decide : ∀ n < 128, ∀ k ∈ hexValue? (Char.ofNat n), (Char.ofNat n, k) ∈ hexDigits) _ hd
    rw [Char.ofNat_toNat] at hk
    exact hk k h

theorem hexDigits_lt (h : (d, k) ∈ hexDigits) : k < 16 := (by decide : ∀ e ∈ hexDigits, e.2 < 16) _ h

/-- One digit more behind a number. -/
theorem push_digit_iff {a b : Nat} : (do
      let k ← hexValue? d
      if k < 16 then pure (16 * a + k) else none) = some b ↔ ∃ k, (d, k) ∈ hexDigits ∧ 16 * a + k = b := by
  constructor
  · intro h
    obtain ⟨k, hk, hb⟩ := Option.bind_eq_some_iff.1 h
    have hd := mem_hexDigits.2 hk
    rw [if_pos (hexDigits_lt hd)] at hb
    exact ⟨k, hd, Option.some.inj hb⟩
  · rintro ⟨k, hd, rfl⟩
    exact Option.bind_eq_some_iff.2 ⟨k, mem_hexDigits.1 hd, if_pos (hexDigits_lt hd)⟩

/-- Digits behind a number that was read. -/
theorem push_digits_iff {a : Nat} : ds.foldlM (fun n c => do
      let k ← hexValue? c
      if k < 16 then pure (16 * n + k) else none) a = some n ↔ ∃ m, HexNumber ds m ∧ a * 16 ^ ds.length + m = n := by
  induction ds generalizing a with
  | nil =>
    constructor
    · intro h
      cases h
      exact ⟨0, .nil, by simp⟩
    · rintro ⟨_, ⟨⟩, rfl⟩
      simp
  | cons d ds ih =>
    rw [List.foldlM_cons]
    constructor
    · intro h
      obtain ⟨b, hb, h⟩ := Option.bind_eq_some_iff.1 h
      obtain ⟨k, hd, rfl⟩ := push_digit_iff.1 hb
      obtain ⟨m, hm, rfl⟩ := ih.1 h
      exact ⟨_, .cons hd hm, by rw [List.length_cons]; ring⟩
    · rintro ⟨_, hn, rfl⟩
      cases hn with | @cons _ k _ m hd hm =>
      exact Option.bind_eq_some_iff.2 ⟨_, push_digit_iff.2 ⟨k, hd, rfl⟩, ih.2 ⟨m, hm, by rw [List.length_cons]; ring⟩⟩

theorem radixValue?_eq_some_iff : radixValue? 16 ds = some n ↔ HexNumber ds n := by
  have h := @push_digits_iff ds n 0
  simp only [Nat.zero_mul, Nat.zero_add, exists_eq_right] at h
  exact h

/-- A sign is no digit. -/
theorem not_hexNumber_plus : ¬ HexNumber ('+' :: ds) n := by
  intro h
  cases h with | cons hd =>
  have hn : hexValue? '+' = none := by decide
  cases hn.symm.trans (mem_hexDigits.1 hd)

/-- A number is read from digits, or from a plus sign and digits. -/
theorem readHex_eq_some_iff :
    readHex ds = some n ↔ ds ≠ [] ∧ HexNumber ds n ∨ ∃ r, ds = '+' :: r ∧ r ≠ [] ∧ HexNumber r n := by
  have hr (r : List Char) : radixNumeral? 16 r = some n ↔ r ≠ [] ∧ HexNumber r n := by
    rw [← radixValue?_eq_some_iff, radixNumeral?]
    cases r <;> simp
  rw [readHex, hr]
  unfold dropPlus
  split
  · simp [not_hexNumber_plus]
  · next hs =>
    constructor
    · exact .inl
    · rintro (h | ⟨r, rfl, -⟩)
      · exact h
      · exact absurd rfl (hs r)

theorem charOfNat?_eq_some_iff {x : Char} : charOfNat? n = some x ↔ x.toNat = n := by
  constructor
  · intro h
    by_cases hn : n.isValidChar
    · rw [charOfNat?, dif_pos hn] at h
      cases h
      rfl
    · rw [charOfNat?, dif_neg hn] at h
      cases h
  · rintro rfl
    exact dif_pos x.valid

theorem codeEscape_eq_some_iff {x : Char} : codeEscape ds = some x ↔
    ds ≠ [] ∧ HexNumber ds x.toNat ∨ ∃ r, ds = '+' :: r ∧ r ≠ [] ∧ HexNumber r x.toNat := by
  rw [← readHex_eq_some_iff]
  constructor
  · intro h
    obtain ⟨n, hn, hx⟩ := Option.bind_eq_some_iff.1 h
    rwa [charOfNat?_eq_some_iff.1 hx]
  · intro h
    exact Option.bind_eq_some_iff.2 ⟨_, h, charOfNat?_eq_some_iff.2 rfl⟩

end

/-! ## Items -/

/-- The escapes of one letter and what they stand for. -/
def letterEscapes : List (Char × Char) :=
  [('"', '"'), ('\'', '\''), ('\\', '\\'), ('0', '\x00'), ('n', '\n'), ('r', '\r'), ('t', '\t')]

/-- An item of the grammar and the character that it stands for. -/
inductive GrammarItem : List Char → Char → Prop
  | plain {c} : c ≠ '\x7b' → c ≠ '\x7d' → c ≠ '\\' → GrammarItem [c] c
  | brace {c} : c = '\x7b' ∨ c = '\x7d' → GrammarItem [c, c] c
  | letter {e x} : (e, x) ∈ letterEscapes → GrammarItem ['\\', e] x
  | code {ds x} : ds.length = 4 → HexNumber ds x.toNat → GrammarItem ('\\' :: 'u' :: ds) x

/-- A code with a plus sign in the place of its first digit. -/
inductive SignedCode : List Char → Char → Prop
  | intro {ds x} : ds.length = 3 → HexNumber ds x.toNat → SignedCode ('\\' :: 'u' :: '+' :: ds) x

/-- What is read as one item. -/
def AcceptedItem (i : List Char) (x : Char) : Prop := GrammarItem i x ∨ SignedCode i x

section
variable {i j : List Char} {x y : Char}

theorem mem_letterEscapes {e : Char} : (e, x) ∈ letterEscapes ↔ simpleEscape e = some x := by
  constructor
  · intro h
    exact (by decide : ∀ p ∈ letterEscapes, simpleEscape p.1 = some p.2) _ h
  · intro h
    have he := simpleEscape_cases h
    simp only [List.mem_cons, List.not_mem_nil, or_false] at he
    rcases he with rfl | rfl | rfl | rfl | rfl | rfl | rfl
    all_goals
      cases h
      decide

theorem item_iff : Item i x ↔ AcceptedItem i x := by
  constructor
  · intro h
    cases h with
    | opening => exact .inl (.brace (.inl rfl))
    | closing => exact .inl (.brace (.inr rfl))
    | simple h => exact .inl (.letter (mem_letterEscapes.2 h))
    | code h =>
      rcases codeEscape_eq_some_iff.1 h with ⟨-, h⟩ | ⟨r, hr, -, h⟩
      · exact .inl (.code rfl h)
      · obtain ⟨rfl, rfl⟩ := List.cons_eq_cons.1 hr
        exact .inr (.intro rfl h)
    | plain h =>
      simp only [isPlain, Bool.and_eq_true, bne_iff_ne] at h
      exact .inl (.plain h.1.1 h.1.2 h.2)
  · rintro (h | h)
    · cases h with
      | plain h₁ h₂ h₃ => exact .plain (by simp [isPlain, h₁, h₂, h₃])
      | brace h =>
        rcases h with rfl | rfl
        · exact .opening
        · exact .closing
      | letter h => exact .simple (mem_letterEscapes.1 h)
      | @code ds x hl h =>
        obtain ⟨a, b, c, d, rfl⟩ := List.length_eq_four.1 hl
        exact .code (codeEscape_eq_some_iff.2 (.inl ⟨by simp, h⟩))
    · cases h with | @intro ds x hl h =>
      obtain ⟨b, c, d, rfl⟩ := List.length_eq_three.1 hl
      exact .code (codeEscape_eq_some_iff.2 (.inr ⟨_, rfl, by simp, h⟩))

/-- No code of the grammar has a sign. -/
theorem SignedCode.not_grammarItem (h : SignedCode i x) : ¬ GrammarItem i y := by
  intro hg
  cases h
  cases hg with | code _ hn => exact not_hexNumber_plus hn

end

/-! ## Sequences of items -/

/-- A sequence of items and the characters that they stand for. -/
inductive Spells (P : List Char → Char → Prop) : List Char → List Char → Prop
  | nil : Spells P [] []
  | cons {i x r v} : P i x → Spells P r v → Spells P (i ++ r) (x :: v)

/-- No item begins another one, so the text itself tells where an item ends. -/
structure SelfDelimiting (P : List Char → Char → Prop) : Prop where
  nonempty : ∀ {x}, ¬ P [] x
  unique : ∀ {i j x y r t}, P i x → P j y → i ++ r = j ++ t → i = j ∧ x = y

/-- A text that has a signed code between two sequences of items. -/
def HasSigned (s : List Char) : Prop :=
  ∃ a i b u x w, s = a ++ (i ++ b) ∧ Spells AcceptedItem a u ∧ SignedCode i x ∧ Spells AcceptedItem b w

section
variable {P Q : List Char → Char → Prop} {s v : List Char}

theorem acceptedItem_selfDelimiting : SelfDelimiting AcceptedItem where
  nonempty := by
    rintro x (h | h) <;> cases h
  unique := by
    intro i j x y r t hi hj h
    have hr := readItem_item (item_iff.2 hi) r
    rw [h, readItem_item (item_iff.2 hj) t] at hr
    cases hr
    exact ⟨List.append_cancel_right h, rfl⟩

theorem Spells.mono (hPQ : ∀ i x, P i x → Q i x) (h : Spells P s v) : Spells Q s v := by
  induction h with
  | nil => exact .nil
  | cons hi _ ih => exact .cons (hPQ _ _ hi) ih

theorem Spells.append {t w : List Char} (h : Spells P s v) (h' : Spells P t w) : Spells P (s ++ t) (v ++ w) := by
  induction h with
  | nil => exact h'
  | cons hi _ ih =>
    rw [List.append_assoc]
    exact .cons hi ih

theorem Spells.eq_nil (hP : SelfDelimiting P) (h : Spells P [] v) : v = [] := by
  generalize he : [] = s at h
  cases h with
  | nil => rfl
  | cons hi =>
    obtain ⟨rfl, -⟩ := List.append_eq_nil_iff.1 he.symm
    exact absurd hi hP.nonempty

/-- The first item of a text is the one that it begins with. -/
theorem Spells.uncons {i r : List Char} {x : Char} (hQ : SelfDelimiting Q) (hPQ : ∀ i x, P i x → Q i x) (hi : Q i x)
    (h : Spells P (i ++ r) v) : P i x ∧ ∃ w, v = x :: w ∧ Spells P r w := by
  generalize he : i ++ r = s at h
  cases h with
  | nil =>
    obtain ⟨rfl, -⟩ := List.append_eq_nil_iff.1 he
    exact absurd hi hQ.nonempty
  | cons hj hr =>
    obtain ⟨rfl, rfl⟩ := hQ.unique hi (hPQ _ _ hj) he
    obtain rfl := List.append_cancel_left he
    exact ⟨hj, _, rfl, hr⟩

theorem spells_iff_escaped : Spells AcceptedItem s v ↔ Escaped s v := by
  constructor
  · intro h
    induction h with
    | nil => exact .nil
    | cons hi _ ih => exact .cons (item_iff.2 hi) ih
  · intro h
    induction h with
    | nil => exact .nil
    | cons hi _ ih => exact .cons (item_iff.1 hi) ih

/-- What is unescaped, item by item. -/
theorem unescape_iff_spells : unescape s = some v ↔ Spells AcceptedItem s v :=
  unescape_eq_some_iff.trans spells_iff_escaped.symm

theorem Spells.grammar_or_signed (h : Spells AcceptedItem s v) : Spells GrammarItem s v ∨ HasSigned s := by
  induction h with
  | nil => exact .inl .nil
  | @cons i x r v hi hr ih =>
    rcases hi with hg | hs
    · rcases ih with ih | ⟨a, j, b, u, y, w, rfl, ha, hj, hb⟩
      · exact .inl (.cons hg ih)
      · refine .inr ⟨i ++ a, j, b, x :: u, y, w, ?_, .cons (.inl hg) ha, hj, hb⟩
        rw [List.append_assoc]
    · exact .inr ⟨[], i, r, [], x, v, rfl, .nil, hs, hr⟩

/-- The items of a text are one sequence only, so a text of the grammar has no signed code. -/
theorem Spells.not_hasSigned (h : Spells GrammarItem s v) : ¬ HasSigned s := by
  rintro ⟨a, j, b, u, y, w, rfl, ha, hj, -⟩
  have first {k t z v} := @Spells.uncons GrammarItem AcceptedItem v k t z acceptedItem_selfDelimiting fun _ _ => .inl
  induction ha generalizing v with
  | nil => exact hj.not_grammarItem (first (.inr hj) h).1
  | cons hk _ ih =>
    rw [List.append_assoc] at h
    obtain ⟨-, v, rfl, hr⟩ := first hk h
    exact ih hr

end

end Text

/-! ## Strings without holes -/

/-- An interpolated string that is made of texts, which give `raw` together. -/
structure Node.HoleFree (n : Node) (raw : String) : Prop where
  kind : n.kind = .interpolatedString
  texts : ∀ c ∈ n.children, c.kind = .interpolatedText
  joined : String.join (n.children.map Node.name) = raw

section
variable {n : Node} {raw : String}

theorem Node.holeFree_texts (raws : List String) :
    (Node.interpolatedString (raws.map .interpolatedText)).HoleFree (String.join raws) where
  kind := rfl
  texts := List.forall_mem_map.2 fun _ _ => rfl
  joined := congrArg String.join (List.map_map.trans (List.map_id _))

theorem ofNode_texts {ns : List Node} (h : ∀ c ∈ ns, c.kind = .interpolatedText) :
    ns.mapM TemplatePart.ofNode = .ok (ns.map fun c => .text c.name) := by
  induction ns with
  | nil => rfl
  | cons c ns ih =>
    obtain ⟨hc, hns⟩ := List.forall_mem_cons.1 h
    rw [List.mapM_cons, TemplatePart.ofNode, hc, ih hns]
    rfl

/-- The texts are unescaped together, whatever the context. -/
theorem Node.HoleFree.extractValue_eq (h : n.HoleFree raw) (env : Environment) :
    extractValue env n =
      match Text.unescape raw.toList with
      | some v => .ok (.literal (String.ofList v))
      | none => .error (.unsupported .interpolatedString (.badEscape raw)) := by
  have hs : templateSource env.options (n.children.map fun c => .text c.name) = raw := by
    rw [templateSource, List.map_map, ← h.joined]
    rfl
  have hh : (n.children.map fun c => TemplatePart.text c.name).any TemplatePart.isHole = false := by
    simp [TemplatePart.isHole]
  have he : extractValue env n = extractTemplate env.options (n.children.map fun c => .text c.name) := by
    simp only [extractValue, extract, h.kind, ofNode_texts h.texts]
    rfl
  rw [he, extractTemplate, hs]
  exact if_neg (by rw [hh]; decide)

/-- A text is unescaped just if it is a sequence of items, to the characters that these stand for. The
items are those of the grammar and codes with a sign, so the grammar is met just on the texts without
such a code. An interpolated string without holes is the constant that its texts stand for together,
in any context, and unsupported if they stand for none. -/
theorem unescape_accepts_grammar (raw : String) :
    (∀ v, Text.unescape raw.toList = some v ↔ Text.Spells Text.AcceptedItem raw.toList v) ∧
    ((∀ v, Text.unescape raw.toList = some v ↔ Text.Spells Text.GrammarItem raw.toList v) ↔
      ¬ Text.HasSigned raw.toList) ∧
    ∀ (env : Environment) (n : Node), n.HoleFree raw →
      (∀ p, extractValue env n = .ok p ↔
        ∃ v, Text.Spells Text.AcceptedItem raw.toList v ∧ p = .literal (String.ofList v)) ∧
      ((∀ v, ¬ Text.Spells Text.AcceptedItem raw.toList v) →
        extractValue env n = .error (.unsupported .interpolatedString (.badEscape raw))) := by
  refine ⟨fun v => Text.unescape_iff_spells, ⟨fun h hs => ?_, fun h v => ?_⟩, fun env n hn => ?_⟩
  · obtain ⟨a, i, b, u, x, w, hraw, ha, hi, hb⟩ := id hs
    have hv : Text.Spells Text.AcceptedItem raw.toList (u ++ x :: w) := hraw ▸ ha.append (.cons (.inr hi) hb)
    exact ((h _).1 (Text.unescape_iff_spells.2 hv)).not_hasSigned hs
  · rw [Text.unescape_iff_spells]
    constructor
    · intro hv
      exact hv.grammar_or_signed.resolve_right h
    · exact Text.Spells.mono fun _ _ => .inl
  · simp only [hn.extractValue_eq, ← Text.unescape_iff_spells]
    cases Text.unescape raw.toList with
    | none => simp
    | some v => simp [eq_comm]

/-- A code that is cut in two, and a doubled brace that is. -/
theorem unescape_accepts_grammar_cut :
    let raw := "\\u0041\x7b\x7b\\n"
    let n := Node.interpolatedString (["\\u00", "41\x7b", "\x7b\\n"].map .interpolatedText)
    n.HoleFree raw ∧ Text.Spells Text.GrammarItem raw.toList ['A', '\x7b', '\n'] ∧
      extractValue ⟨.ofDeclaration ⟨"Api", []⟩, {}⟩ n = .ok (.literal "A\x7b\n") := by
  intro raw n
  have hn : n.HoleFree raw := Node.holeFree_texts ["\\u00", "41\x7b", "\x7b\\n"]
  have hv : Text.Spells Text.AcceptedItem raw.toList ['A', '\x7b', '\n'] := Text.unescape_iff_spells.1 (by decide)
  have hl : raw.toList = ['\\', 'u', '0', '0', '4', '1'] ++ (['\x7b', '\x7b'] ++ (['\\', 'n'] ++ [])) := by decide
  have hi : Text.GrammarItem ['\\', 'u', '0', '0', '4', '1'] 'A' := .code rfl (Text.radixValue?_eq_some_iff.1 rfl)
  have hg : Text.Spells Text.GrammarItem raw.toList ['A', '\x7b', '\n'] := by
    rw [hl]
    exact .cons hi (.cons (.brace (.inl rfl)) (.cons (.letter (by decide)) .nil))
  exact ⟨hn, hg, (((unescape_accepts_grammar raw).2.2 _ n hn).1 _).2 ⟨_, hv, rfl⟩⟩

/-- Three digits behind a sign make a code, which the grammar does not have. -/
theorem signed_code_accepted :
    let raw := "\\u+041"
    extractValue ⟨.ofDeclaration ⟨"Api", []⟩, {}⟩ (.interpolatedString [.interpolatedText raw]) = .ok (.literal "A") ∧
      ∀ v, ¬ Text.Spells Text.GrammarItem raw.toList v := by
  intro raw
  have hl : raw.toList = [] ++ (['\\', 'u', '+', '0', '4', '1'] ++ []) := by decide
  have hi : Text.SignedCode ['\\', 'u', '+', '0', '4', '1'] 'A' := .intro rfl (Text.radixValue?_eq_some_iff.1 rfl)
  have he := (Node.holeFree_texts [raw]).extractValue_eq ⟨.ofDeclaration ⟨"Api", []⟩, {}⟩
  rw [show Text.unescape (String.join [raw]).toList = some ['A'] by decide] at he
  exact ⟨he, fun v hv => hv.not_hasSigned ⟨[], _, [], [], 'A', [], hl, .nil, hi, .nil⟩⟩

end

end GatewayPolicy
