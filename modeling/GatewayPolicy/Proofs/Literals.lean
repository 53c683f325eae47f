import GatewayPolicy.Proofs.EscapeGrammar
/-!
# Literals

What a reader makes of the literal that is written for a value. It gets the value back from a string
literal just if the value has no carriage return, which is written as it is. The values that are
written without quotes are keywords and numerals, and they are read as such; the words for infinity
and for no number are written in the same way, but are no literals.
-/

namespace GatewayPolicy

namespace Literal

/-! ## A reader of literals -/

/-- The signs that a numeral and its exponent may have. -/
def signs : List (List Char) := [[], ['+'], ['-']]

def Digits (ds : List Char) : Prop := ds ≠ [] ∧ ∀ d ∈ ds, d.isDigit

/-- The digits of a numeral with their point. Languages do not agree on whether there may be a point
without digits behind it; `trailing` says if there may. -/
inductive Mantissa (trailing : Bool) : List Char → Prop
  | whole {ds} : Digits ds → Mantissa trailing ds
  | fraction {ds fs} : Digits ds → Digits fs → Mantissa trailing (ds ++ '.' :: fs)
  | point {fs} : Digits fs → Mantissa trailing ('.' :: fs)
  | open {ds} : trailing → Digits ds → Mantissa trailing (ds ++ ['.'])

inductive Exponent : List Char → Prop
  | none : Exponent []
  | some {e s ds} : e ∈ ['e', 'E'] → s ∈ signs → Digits ds → Exponent (e :: (s ++ ds))

inductive Numeral (trailing : Bool) : List Char → Prop
  | intro {s m e} : s ∈ signs → Mantissa trailing m → Exponent e → Numeral trailing (s ++ (m ++ e))

/-- The escapes of a string literal and what they stand for. -/
def escapes : List (Char × Char) := [('"', '"'), ('\\', '\\'), ('n', '\n'), ('t', '\t'), ('r', '\r')]

/-- An item between the quotes of a string literal and the character that it stands for. -/
inductive StringItem : List Char → Char → Prop
  | plain {c} : c ∉ ['"', '\\', '\n', '\r'] → StringItem [c] c
  | escape {e x} : (e, x) ∈ escapes → StringItem ['\\', e] x

/-- A string literal and its content. -/
inductive ReadsString : List Char → List Char → Prop
  | intro {r v} : Text.Spells StringItem r v → ReadsString ('"' :: (r ++ ['"'])) v

/-- A literal and what it is read as. -/
inductive Reads (trailing : Bool) : List Char → List Char → Prop
  | keyword {w} : w ∈ ["true", "false", "null"] → Reads trailing w.toList w.toList
  | numeral {t} : Numeral trailing t → Reads trailing t t
  | string {t v} : ReadsString t v → Reads trailing t v

/-- A word, in any case and with or without a sign, for infinity or for no number. -/
inductive NumberWord : List Char → Prop
  | intro {s w} : s ∈ signs → w.map Char.toLower ∈ ["inf".toList, "infinity".toList, "nan".toList] → NumberWord (s ++ w)

/-- A numeral without digits behind its point. -/
inductive Pointed : List Char → Prop
  | intro {s ds e} : s ∈ signs → Digits ds → Exponent e → Pointed (s ++ (ds ++ '.' :: e))

/-! ## Numerals -/

section
variable {cs ds fs r s e : List Char} {c : Char}

theorem span_digits (hd : ∀ d ∈ ds, d.isDigit) (hr : ∀ c ∈ r.head?, ¬ c.isDigit) :
    (ds ++ r).takeWhile Char.isDigit = ds ∧ (ds ++ r).dropWhile Char.isDigit = r := by
  rw [List.takeWhile_append_of_pos hd, List.dropWhile_append_of_pos hd]
  cases r with
  | nil => simp
  | cons c r =>
    have hc : ¬ c.isDigit := hr c rfl
    rw [List.takeWhile_cons_of_neg hc, List.dropWhile_cons_of_neg hc, List.append_nil]
    exact ⟨rfl, rfl⟩

theorem mem_signs : s ∈ signs ↔ s = [] ∨ s = ['+'] ∨ s = ['-'] := by
  simp [signs]

theorem exists_sign (cs : List Char) : ∃ s ∈ signs, cs = s ++ (Text.Decimal.sign cs).2 := by
  unfold Text.Decimal.sign
  split
  · exact ⟨['+'], by decide, rfl⟩
  · exact ⟨['-'], by decide, rfl⟩
  · exact ⟨[], by decide, rfl⟩

theorem sign_append (hs : s ∈ signs) (hr : ∀ c ∈ r.head?, c ∉ ['+', '-']) : (Text.Decimal.sign (s ++ r)).2 = r := by
  rcases mem_signs.1 hs with rfl | rfl | rfl
  · unfold Text.Decimal.sign
    split
    · next h => exact absurd (by simp) (hr '+' (by simp_all))
    · next h => exact absurd (by simp) (hr '-' (by simp_all))
    · rfl
  · rfl
  · rfl

theorem not_sign_of_isDigit (h : c.isDigit) : c ∉ ['+', '-'] := by
  intro hc
  rcases List.mem_pair.1 hc with rfl | rfl <;> cases h

theorem digits_iff : Digits ds ↔ !ds.isEmpty && ds.all Char.isDigit := by
  simp [Digits]

theorem Digits.head (h : Digits ds) (r : List Char) : ∃ d t, ds ++ r = d :: t ∧ d.isDigit := by
  cases ds with
  | nil => exact absurd rfl h.1
  | cons d t => exact ⟨d, t ++ r, rfl, h.2 d List.mem_cons_self⟩

theorem Exponent.head (h : Exponent e) : ∀ c ∈ e.head?, c ∈ ['e', 'E'] := by
  cases h with
  | none => simp
  | some he => simpa using he

theorem Exponent.head_not_digit (h : Exponent e) : ∀ c ∈ e.head?, ¬ c.isDigit := by
  intro c hc
  rcases List.mem_pair.1 (h.head c hc) with rfl | rfl <;> decide

theorem exponent?_cons :
    (Text.Decimal.exponent? (c :: r)).isSome ↔ c ∈ ['e', 'E'] ∧ Digits (Text.Decimal.sign r).2 := by
  rw [digits_iff, Text.Decimal.exponent?]
  cases Text.Decimal.sign r with | mk negative ds =>
  by_cases hc : c = 'e' ∨ c = 'E'
  · by_cases hd : !ds.isEmpty && ds.all Char.isDigit
    · simp [hc, hd]
    · simp [hc, hd]
  · simp [hc]

theorem exponent?_isSome_iff : (Text.Decimal.exponent? e).isSome ↔ Exponent e := by
  constructor
  · intro h
    cases e with
    | nil => exact .none
    | cons c r =>
      obtain ⟨hc, hd⟩ := exponent?_cons.1 h
      obtain ⟨s, hs, hr⟩ := exists_sign r
      rw [hr]
      exact .some hc hs hd
  · intro h
    cases h with
    | none => rfl
    | @some c s ds hc hs hd =>
      refine exponent?_cons.2 ⟨hc, ?_⟩
      rwa [sign_append hs fun d hm => not_sign_of_isDigit (hd.2 d (List.mem_of_mem_head? hm))]

/-- What a numeral has behind its sign: a digit before the exponent, and the exponent. -/
def Unsigned (body : List Char) : Prop :=
  let rest := body.dropWhile Char.isDigit
  (body.takeWhile Char.isDigit ≠ [] ∨ (Text.Decimal.fraction rest).1 ≠ []) ∧ Exponent (Text.Decimal.fraction rest).2

theorem read?_isSome_iff : (Text.Decimal.read? cs).isSome ↔ Unsigned (Text.Decimal.sign cs).2 := by
  simp only [Unsigned, Text.Decimal.read?, Bool.and_eq_true, List.isEmpty_iff, ← exponent?_isSome_iff, ne_eq,
    ← not_and_or]
  split
  · next h => simp only [h, and_self, not_true, false_and, Option.isSome_none, Bool.false_eq_true]
  · next h =>
    rw [and_iff_right h]
    cases Text.Decimal.exponent? _ <;> rfl

/-- With a point there are digits on one side of it at least. -/
theorem mantissa_iff {m : List Char} : Mantissa true m ↔ Digits m ∨
    ∃ ds fs, m = ds ++ '.' :: fs ∧ (∀ d ∈ ds, d.isDigit) ∧ (∀ d ∈ fs, d.isDigit) ∧ (ds ≠ [] ∨ fs ≠ []) := by
  constructor
  · intro h
    cases h with
    | whole hd => exact .inl hd
    | fraction hd hf => exact .inr ⟨_, _, rfl, hd.2, hf.2, .inl hd.1⟩
    | point hf => exact .inr ⟨[], _, rfl, by simp, hf.2, .inr hf.1⟩
    | «open» _ hd => exact .inr ⟨_, [], rfl, hd.2, by simp, .inl hd.1⟩
  · rintro (hd | ⟨ds, fs, rfl, hd, hf, hne⟩)
    · exact .whole hd
    · by_cases hds : ds = []
      · subst hds
        exact .point ⟨hne.resolve_left (by simp), hf⟩
      · by_cases hfs : fs = []
        · subst hfs
          exact .open rfl ⟨hds, hd⟩
        · exact .fraction ⟨hds, hd⟩ ⟨hfs, hf⟩

theorem Mantissa.head {trailing : Bool} {m : List Char} (h : Mantissa trailing m) :
    ∃ c t, m = c :: t ∧ (c.isDigit ∨ c = '.') := by
  cases h with
  | whole hd =>
    obtain ⟨d, t, he, hdig⟩ := hd.head []
    exact ⟨d, t, by rw [← he, List.append_nil], .inl hdig⟩
  | point hf => exact ⟨'.', _, rfl, .inr rfl⟩
  | fraction hd | «open» _ hd =>
    obtain ⟨d, t, he, hdig⟩ := hd.head ('.' :: _)
    exact ⟨d, t, he, .inl hdig⟩

theorem fraction_of_ne (h : ∀ x, r ≠ '.' :: x) : Text.Decimal.fraction r = ([], r) := by
  unfold Text.Decimal.fraction
  split
  · next x => exact absurd rfl (h x)
  · rfl

theorem unsigned_iff {body : List Char} : Unsigned body ↔ ∃ m e, body = m ++ e ∧ Mantissa true m ∧ Exponent e := by
  constructor
  · rintro ⟨hne, he⟩
    have hw : ∀ d ∈ body.takeWhile Char.isDigit, d.isDigit := fun d hd => List.mem_takeWhile_imp hd
    rw [← List.takeWhile_append_dropWhile (p := Char.isDigit) (l := body)]
    generalize body.takeWhile Char.isDigit = ds at hne hw
    generalize body.dropWhile Char.isDigit = rest at hne he
    by_cases hp : ∀ x, rest ≠ '.' :: x
    · rw [fraction_of_ne hp] at hne he
      exact ⟨ds, rest, rfl, .whole ⟨hne.resolve_right (by simp), hw⟩, he⟩
    · obtain ⟨x, hx⟩ := not_forall.1 hp
      obtain rfl := not_not.1 hx
      have hf : ∀ d ∈ x.takeWhile Char.isDigit, d.isDigit := fun d hd => List.mem_takeWhile_imp hd
      have hbody : ds ++ '.' :: x = (ds ++ '.' :: x.takeWhile Char.isDigit) ++ x.dropWhile Char.isDigit := by simp
      exact ⟨_, _, hbody, mantissa_iff.2 (.inr ⟨_, _, rfl, hw, hf, hne⟩), he⟩
  · rintro ⟨m, e, rfl, hm, he⟩
    have hend := he.head_not_digit
    rw [Unsigned]
    rcases mantissa_iff.1 hm with hd | ⟨ds, fs, rfl, hd, hf, hne⟩
    · have hp : ∀ x, e ≠ '.' :: x := fun x hx => absurd (he.head '.' (by rw [hx]; rfl)) (by decide)
      rw [(span_digits hd.2 hend).1, (span_digits hd.2 hend).2, fraction_of_ne hp]
      exact ⟨.inl hd.1, he⟩
    · have hpoint : ∀ c ∈ ('.' :: (fs ++ e)).head?, ¬ c.isDigit := by
        rintro _ ⟨⟩
        decide
      rw [List.append_assoc, List.cons_append, (span_digits hd hpoint).1, (span_digits hd hpoint).2,
        Text.Decimal.fraction, (span_digits hf hend).1, (span_digits hf hend).2]
      exact ⟨hne, he⟩

theorem numeral_iff_read? : Numeral true cs ↔ (Text.Decimal.read? cs).isSome := by
  rw [read?_isSome_iff, unsigned_iff]
  constructor
  · rintro @⟨s, m, e, hs, hm, he⟩
    refine ⟨m, e, sign_append hs ?_, hm, he⟩
    obtain ⟨c, t, rfl, hc⟩ := hm.head
    rintro _ ⟨⟩
    rcases hc with hc | rfl
    · exact not_sign_of_isDigit hc
    · decide
  · rintro ⟨m, e, hbody, hm, he⟩
    obtain ⟨s, hs, hcs⟩ := exists_sign cs
    rw [hcs, hbody]
    exact .intro hs hm he

/-! ## What a numeral is made of -/

theorem not_mem_signs {c : Char} (hc : c ∉ ['+', '-']) (hs : s ∈ signs) : c ∉ s := by
  intro h
  rcases mem_signs.1 hs with rfl | rfl | rfl
  · cases h
  · exact hc (by simp_all)
  · exact hc (by simp_all)

theorem Digits.not_mem (h : Digits ds) (hc : ¬ c.isDigit) : c ∉ ds := fun hm => hc (h.2 c hm)

theorem Exponent.not_mem (h : Exponent e) (hc : c ∉ ['e', 'E', '+', '-']) (hd : ¬ c.isDigit) : c ∉ e := by
  cases h with
  | none => simp
  | some he hs hds =>
    rw [List.mem_cons, List.mem_append]
    rintro (rfl | hm | hm)
    · exact hc (by simp_all)
    · exact not_mem_signs (by simp_all) hs hm
    · exact hds.not_mem hd hm

theorem Mantissa.not_mem {trailing : Bool} {m : List Char} (h : Mantissa trailing m) (hc : c ≠ '.') (hd : ¬ c.isDigit) :
    c ∉ m := by
  cases h with
  | whole hds => exact hds.not_mem hd
  | fraction hds hfs => simp [hds.not_mem hd, hfs.not_mem hd, hc]
  | point hfs => simp [hfs.not_mem hd, hc]
  | «open» _ hds => simp [hds.not_mem hd, hc]

theorem Numeral.not_mem {trailing : Bool} (h : Numeral trailing cs) (hc : c ∉ ['.', 'e', 'E', '+', '-'])
    (hd : ¬ c.isDigit) : c ∉ cs := by
  simp only [List.mem_cons, List.not_mem_nil, or_false, not_or] at hc
  cases h with | intro hs hm he =>
  rw [List.mem_append, List.mem_append]
  rintro (h | h | h)
  · exact not_mem_signs (by simp [hc]) hs h
  · exact hm.not_mem hc.1 hd h
  · exact he.not_mem (by simp [hc]) hd h

theorem NumberWord.not_mem (h : NumberWord cs) (hc : c ∉ ['+', '-'])
    (hl : c.toLower ∉ ['i', 'n', 'f', 't', 'y', 'a']) : c ∉ cs := by
  cases h with | @intro s w hs hw =>
  rw [List.mem_append]
  rintro (h | h)
  · exact not_mem_signs hc hs h
  · have hletters := (by decide : ∀ w ∈ Text.realWords, w ⊆ ['i', 'n', 'f', 't', 'y', 'a']) _ hw
    exact hl (hletters (List.mem_map_of_mem h))

theorem toLower_of_isDigit (h : c.isDigit) : c.toLower = c := by
  have h9 : c.toNat ≤ 57 := by
    rw [Char.isDigit, Bool.and_eq_true, decide_eq_true_eq, decide_eq_true_eq] at h
    exact h.2
  refine dif_neg fun hu => ?_
  have h65 : 65 ≤ c.toNat := hu.1
  omega

/-- Every word has a letter that no numeral has. -/
theorem NumberWord.not_numeral {trailing : Bool} (h : NumberWord cs) : ¬ Numeral trailing cs := by
  cases h with | @intro s w hs hw =>
  have hn : 'n' ∈ w.map Char.toLower := (by decide : ∀ w ∈ Text.realWords, 'n' ∈ w) _ hw
  obtain ⟨c, hc, hlow⟩ := List.mem_map.1 hn
  intro h
  refine h.not_mem ?_ ?_ (List.mem_append_right s hc)
  · intro hm
    simp only [List.mem_cons, List.not_mem_nil, or_false] at hm
    rcases hm with rfl | rfl | rfl | rfl | rfl <;> exact absurd hlow (by decide)
  · intro hd
    rw [toLower_of_isDigit hd] at hlow
    rw [hlow] at hd
    cases hd

/-- The texts that are written without quotes, keywords apart. -/
theorem isReal_iff : Text.isReal cs ↔ Numeral true cs ∨ NumberWord cs := by
  rw [Text.isReal, Bool.or_eq_true, numeral_iff_read?, List.contains_iff_mem]
  refine or_congr_right ⟨fun h => ?_, fun h => ?_⟩
  · obtain ⟨s, hs, hcs⟩ := exists_sign cs
    rw [hcs]
    exact .intro hs h
  · cases h with | @intro s w hs hw =>
    rwa [sign_append hs]
    intro c hc hm
    have hc := List.mem_map_of_mem (f := Char.toLower) (List.mem_of_mem_head? hc)
    obtain ⟨hplus, hminus⟩ := (by decide : ∀ w ∈ Text.realWords, '+' ∉ w ∧ '-' ∉ w) _ hw
    rcases List.mem_pair.1 hm with rfl | rfl
    · exact hplus hc
    · exact hminus hc

/-! ## Points -/

theorem Pointed.numeral (h : Pointed cs) : Numeral true cs := by
  cases h with | @intro s ds e hs hd he =>
  have hcs : ds ++ '.' :: e = (ds ++ ['.']) ++ e := by simp
  rw [hcs]
  exact .intro hs (.open rfl hd) he

/-- Behind the point of a numeral without an open end there is a digit. -/
theorem Numeral.digit_behind {x z : List Char} (h : Numeral false (x ++ '.' :: z)) (hx : '.' ∉ x) (hz : '.' ∉ z) :
    ∃ d ∈ z.head?, d.isDigit := by
  generalize hcs : x ++ '.' :: z = cs at h
  cases h with | @intro s m e hs hm he =>
  have hns := not_mem_signs (by decide : '.' ∉ ['+', '-']) hs
  have hne := he.not_mem (by decide : '.' ∉ ['e', 'E', '+', '-']) (by decide)
  have behind (y : List Char) {fs : List Char} (h : s ++ (m ++ e) = y ++ '.' :: (fs ++ e)) (hf : Digits fs) :
      ∃ d ∈ z.head?, d.isDigit := by
    obtain ⟨-, -, rfl⟩ := (List.append_cons_inj_of_notMem hx hz).1 (hcs.trans h)
    obtain ⟨d, t, hd, hdig⟩ := hf.head e
    exact ⟨d, by rw [hd]; rfl, hdig⟩
  cases hm with
  | whole hd =>
    have hp : '.' ∈ s ++ (m ++ e) := hcs ▸ by simp
    simp [hns, hne, hd.not_mem (by decide : ¬ '.'.isDigit)] at hp
  | @fraction ds _ _ hf => exact behind (s ++ ds) (by simp) hf
  | point hf => exact behind s rfl hf
  | «open» ht => cases ht

theorem Pointed.not_numeral (h : Pointed cs) : ¬ Numeral false cs := by
  cases h with | @intro s ds e hs hd he =>
  intro h
  rw [← List.append_assoc] at h
  have hx : '.' ∉ s ++ ds := by
    simp [not_mem_signs (by decide : '.' ∉ ['+', '-']) hs, hd.not_mem (by decide : ¬ '.'.isDigit)]
  obtain ⟨d, hm, hdig⟩ := h.digit_behind hx (he.not_mem (by decide) (by decide))
  exact he.head_not_digit d hm hdig

theorem mantissa_open_iff {m : List Char} :
    Mantissa true m ↔ Mantissa false m ∨ ∃ ds, Digits ds ∧ m = ds ++ ['.'] := by
  constructor
  · intro h
    cases h with
    | whole hd => exact .inl (.whole hd)
    | fraction hd hf => exact .inl (.fraction hd hf)
    | point hf => exact .inl (.point hf)
    | «open» _ hd => exact .inr ⟨_, hd, rfl⟩
  · rintro (h | ⟨ds, hd, rfl⟩)
    · cases h with
      | whole hd => exact .whole hd
      | fraction hd hf => exact .fraction hd hf
      | point hf => exact .point hf
      | «open» ht => cases ht
    · exact .open rfl hd

theorem numeral_iff {trailing : Bool} : Numeral trailing cs ↔ Numeral true cs ∧ (Pointed cs → trailing) := by
  cases trailing with
  | true => simp
  | false =>
    constructor
    · intro h
      refine ⟨?_, fun hp => absurd h hp.not_numeral⟩
      cases h with | intro hs hm he => exact .intro hs (mantissa_open_iff.2 (.inl hm)) he
    · rintro ⟨h, hp⟩
      cases h with | @intro s m e hs hm he =>
      rcases mantissa_open_iff.1 hm with hm | ⟨ds, hd, rfl⟩
      · exact .intro hs hm he
      · rw [List.append_assoc] at hp
        cases hp (.intro hs hd he)

end

/-! ## Strings -/

section
variable {v w r : List Char} {c : Char}

theorem stringItem_selfDelimiting : Text.SelfDelimiting StringItem where
  nonempty := by
    intro x h
    cases h
  unique := by
    intro i j x y r t hi hj h
    cases hi with
    | plain hc =>
      cases hj with
      | plain => exact ⟨by rw [(List.cons_eq_cons.1 h).1], (List.cons_eq_cons.1 h).1⟩
      | escape =>
        rw [(List.cons_eq_cons.1 h).1] at hc
        exact absurd (by decide) hc
    | @escape e x he =>
      cases hj with
      | plain hc =>
        rw [← (List.cons_eq_cons.1 h).1] at hc
        exact absurd (by decide) hc
      | @escape f y hf =>
        obtain rfl := (List.cons_eq_cons.1 (List.cons_eq_cons.1 h).2).1
        -- A letter stands for one character only.
        have hone := (by decide : ∀ a ∈ escapes, ∀ b ∈ escapes, a.1 = b.1 → a.2 = b.2)
        exact ⟨rfl, hone _ he _ hf rfl⟩

theorem stringItem_quoteChar (hc : c ≠ '\r') : StringItem (quoteChar c) c := by
  unfold quoteChar
  split_ifs with h₁ h₂ h₃ h₄
  · subst h₁; exact .escape (by decide)
  · subst h₂; exact .escape (by decide)
  · subst h₃; exact .escape (by decide)
  · subst h₄; exact .escape (by decide)
  · exact .plain (by simp [h₁, h₂, h₃, hc])

/-- No string literal has a carriage return. -/
theorem not_spells_return : ¬ Text.Spells StringItem ('\r' :: r) w := by
  intro h
  generalize hs : '\r' :: r = s at h
  cases h with
  | nil => cases hs
  | cons hi =>
    cases hi with
    | plain hc =>
      rw [← (List.cons_eq_cons.1 hs).1] at hc
      exact hc (by decide)
    | escape => cases hs

theorem spells_quoted : Text.Spells StringItem (v.flatMap quoteChar) w ↔ w = v ∧ '\r' ∉ v := by
  induction v generalizing w with
  | nil =>
    constructor
    · intro h
      exact ⟨h.eq_nil stringItem_selfDelimiting, by simp⟩
    · rintro ⟨rfl, -⟩
      exact .nil
  | cons c v ih =>
    rw [List.flatMap_cons]
    by_cases hc : c = '\r'
    · subst hc
      exact iff_of_false not_spells_return (by simp)
    · have hi := stringItem_quoteChar hc
      constructor
      · intro h
        obtain ⟨-, w, rfl, hr⟩ := h.uncons stringItem_selfDelimiting (fun _ _ => id) hi
        obtain ⟨rfl, hv⟩ := ih.1 hr
        exact ⟨rfl, by simp [Ne.symm hc, hv]⟩
      · rintro ⟨rfl, hv⟩
        rw [List.mem_cons, not_or] at hv
        exact .cons hi (ih.2 ⟨rfl, hv.2⟩)

theorem readsString_quoteChars : ReadsString (quoteChars v) w ↔ w = v ∧ '\r' ∉ v := by
  rw [← spells_quoted, quoteChars]
  constructor
  · intro h
    generalize hs : '"' :: (v.flatMap quoteChar ++ ['"']) = s at h
    cases h with | intro h =>
    rwa [List.append_cancel_right (List.cons_eq_cons.1 hs).2]
  · exact .intro

end

/-! ## Literals of values -/

section
variable {v : String} {w : List Char} {trailing : Bool}

theorem keyword_plain {k : String} (h : k ∈ keywords) :
    '"' ∉ k.toList ∧ '\r' ∉ k.toList ∧ ¬ NumberWord k.toList ∧ ¬ Numeral true k.toList := by
  -- Each keyword has a letter that neither the words nor the numerals have.
  have hword {c : Char} (hc : c = 'u' ∨ c = 'l') (hm : c ∈ k.toList) :
      ¬ NumberWord k.toList ∧ ¬ Numeral true k.toList := by
    constructor
    · intro h
      rcases hc with rfl | rfl <;> exact h.not_mem (by decide) (by decide) hm
    · intro h
      rcases hc with rfl | rfl <;> exact h.not_mem (by decide) (by decide) hm
  simp only [keywords, List.mem_cons, List.not_mem_nil, or_false] at h
  rcases h with rfl | rfl | rfl
  · exact ⟨by decide, by decide, hword (.inl rfl) (by decide)⟩
  · exact ⟨by decide, by decide, hword (.inr rfl) (by decide)⟩
  · exact ⟨by decide, by decide, hword (.inl rfl) (by decide)⟩

theorem isBare_iff : isBare v ↔ v ∈ keywords ∨ Numeral true v.toList ∨ NumberWord v.toList := by
  rw [isBare, Bool.or_eq_true, isReal_iff, List.contains_iff_mem]

theorem not_mem_of_isBare (h : isBare v) : '"' ∉ v.toList ∧ '\r' ∉ v.toList := by
  rcases isBare_iff.1 h with h | h | h
  · exact ⟨(keyword_plain h).1, (keyword_plain h).2.1⟩
  · exact ⟨h.not_mem (by decide) (by decide), h.not_mem (by decide) (by decide)⟩
  · exact ⟨h.not_mem (by decide) (by decide), h.not_mem (by decide) (by decide)⟩

theorem reads_bare (h : isBare v) :
    Reads trailing v.toList w ↔ w = v.toList ∧ ¬ NumberWord v.toList ∧ (Pointed v.toList → trailing) := by
  constructor
  · intro hr
    generalize ht : v.toList = t at hr
    cases hr with
    | keyword hk =>
      have hp := (keyword_plain hk).2.2
      exact ⟨rfl, hp.1, fun h => absurd h.numeral hp.2⟩
    | numeral hn => exact ⟨rfl, fun hw => hw.not_numeral hn, (numeral_iff.1 hn).2⟩
    | string hs =>
      cases hs
      exact absurd (by rw [ht]; exact List.mem_cons_self) (not_mem_of_isBare h).1
  · rintro ⟨rfl, hw, hp⟩
    rcases isBare_iff.1 h with h | h | h
    · exact .keyword h
    · exact .numeral (numeral_iff.2 ⟨h, hp⟩)
    · exact absurd h hw

theorem reads_quoted {q : List Char} : Reads trailing (quoteChars q) w ↔ ReadsString (quoteChars q) w := by
  constructor
  · intro h
    have hq : '"' ∈ quoteChars q := List.mem_cons_self
    generalize quoteChars q = t at h hq
    cases h with
    | keyword hk => exact absurd hq (keyword_plain hk).1
    | numeral hn => exact absurd hq (hn.not_mem (by decide) (by decide))
    | string hs => exact hs
  · exact .string

end

/-- What a reader gets from the literal of a value is that value and nothing else. It gets it just if
the value has no carriage return, is not a word for infinity or for no number, and has no point without
digits behind it, unless the language has such numerals. From a string literal it gets the value just
if there is no carriage return. -/
theorem literal_reads_back (trailing : Bool) (v : String) (w : List Char) :
    (ReadsString (quote v).toList w ↔ w = v.toList ∧ '\r' ∉ v.toList) ∧
    (Reads trailing (literalText v).toList w ↔
      w = v.toList ∧ '\r' ∉ v.toList ∧ ¬ NumberWord v.toList ∧ (Pointed v.toList → trailing)) := by
  have hq : (quote v).toList = quoteChars v.toList := String.toList_ofList
  refine ⟨by rw [hq, readsString_quoteChars], ?_⟩
  rw [literalText]
  split
  · next hb => rw [reads_bare hb, and_iff_right (not_mem_of_isBare hb).2]
  · next hb =>
    have hword : ¬ NumberWord v.toList := fun h => hb (isBare_iff.2 (.inr (.inr h)))
    have hpoint : ¬ Pointed v.toList := fun h => hb (isBare_iff.2 (.inr (.inl h.numeral)))
    rw [hq, reads_quoted, readsString_quoteChars]
    simp [hword, hpoint]

/-- The word for infinity is written without quotes and is no literal, and a carriage return is left in
a string literal as it is. -/
theorem infinity_not_read_back :
    (literalText "inf" = "inf" ∧ ∀ trailing w, ¬ Reads trailing (literalText "inf").toList w) ∧
    (quote "\r" = "\"\r\"" ∧ ∀ w, ¬ ReadsString (quote "\r").toList w) := by
  have hb : isBare "inf" := by decide
  have hl : literalText "inf" = "inf" := if_pos hb
  have hq : (quote "\r").toList = quoteChars ['\r'] := by decide
  refine ⟨⟨hl, fun trailing w h => ?_⟩, by decide, fun w h => ?_⟩
  · rw [hl] at h
    exact (reads_bare hb |>.1 h).2.1 (.intro (s := []) (by decide) (by decide))
  · rw [hq] at h
    exact (readsString_quoteChars.1 h).2 (by decide)

end Literal

/-! ## Quoted values in interpolated strings -/

/-- A text with its braces doubled. -/
def doubleBraces (cs : List Char) : List Char :=
  cs.flatMap fun c => if c = '\x7b' ∨ c = '\x7d' then [c, c] else [c]

/-- A quoted value as the text of an interpolated string: without the quotes and with doubled braces. -/
def interpolatedForm (v : String) : String := String.ofList (doubleBraces (quote v).toList.tail.dropLast)

theorem grammarItem_quoteChar (c : Char) : Text.GrammarItem (doubleBraces (quoteChar c)) c := by
  unfold quoteChar
  split_ifs with h₁ h₂ h₃ h₄
  · subst h₁; exact .letter (by decide)
  · subst h₂; exact .letter (by decide)
  · subst h₃; exact .letter (by decide)
  · subst h₄; exact .letter (by decide)
  · by_cases hb : c = '\x7b' ∨ c = '\x7d'
    · have hd : doubleBraces [c] = [c, c] := by simp [doubleBraces, hb]
      rw [hd]
      exact .brace hb
    · have hd : doubleBraces [c] = [c] := by simp [doubleBraces, hb]
      rw [hd]
      rw [not_or] at hb
      exact .plain hb.1 hb.2 h₂

theorem spells_interpolatedForm (v : String) : Text.Spells Text.GrammarItem (interpolatedForm v).toList v.toList := by
  have hq : (quote v).toList.tail.dropLast = v.toList.flatMap quoteChar := by
    rw [quote, String.toList_ofList, quoteChars, List.tail_cons, List.dropLast_concat]
  rw [interpolatedForm, String.toList_ofList, hq]
  induction v.toList with
  | nil => exact .nil
  | cons c cs ih =>
    rw [List.flatMap_cons, doubleBraces, List.flatMap_append]
    exact .cons (grammarItem_quoteChar c) ih

/-- The texts of an interpolated string that make up a quoted value stand for the value, wherever they
are cut: the string is extracted to what the string literal is extracted to, which is the value. -/
theorem quoted_texts_extract_to_value {v : String} {raws : List String} (h : String.join raws = interpolatedForm v)
    (env : Environment) :
    extractValue env (.interpolatedString (raws.map .interpolatedText)) = .ok (.literal v) ∧
      extractValue env (.stringLiteral v) = .ok (.literal v) := by
  have hv : Text.unescape (String.join raws).toList = some v.toList := by
    rw [h, Text.unescape_iff_spells]
    exact (spells_interpolatedForm v).mono fun _ _ => .inl
  refine ⟨?_, rfl⟩
  rw [(Node.holeFree_texts raws).extractValue_eq, hv]
  show Except.ok (Snippet.literal (String.ofList v.toList)) = _
  rw [String.ofList_toList]

/-- Cuts inside two escapes and between the braces of a pair. -/
theorem quoted_texts_extract_to_value_cut :
    let raws := ["a\\", "\"\x7b", "\x7b\\", "n"]
    let env : Environment := ⟨.ofDeclaration ⟨"Api", []⟩, {}⟩
    String.join raws = interpolatedForm "a\"\x7b\n" ∧
      extractValue env (.interpolatedString (raws.map .interpolatedText)) =
        extractValue env (.stringLiteral "a\"\x7b\n") := by
  intro raws env
  have h : String.join raws = interpolatedForm "a\"\x7b\n" := by decide
  exact ⟨h, (quoted_texts_extract_to_value h env).1.trans (quoted_texts_extract_to_value h env).2.symm⟩

end GatewayPolicy
