import GatewayPolicy.Proofs.Outcome
import GatewayPolicy.Compile.Extract
import GatewayPolicy.Source.Text
import Mathlib.Data.List.Basic
import Mathlib.Data.List.TakeWhile
/-!
# Parameter lists of lambdas

A lambda takes the request context and nothing else. Its parameter list is the name of the context,
in parentheses or not, and in parentheses there may be a type in front of the name. More is let
through: a type without parentheses around it and the name, and parentheses among the words of a type.
-/

namespace GatewayPolicy

namespace Text

/-! ## White space at the ends -/

def Blanks (cs : List Char) : Prop := ∀ c ∈ cs, isBlank c

instance (cs : List Char) : Decidable (Blanks cs) := decidable_of_iff (cs.all isBlank) List.all_eq_true

/-- A text without white space at its ends. -/
structure Tight (cs : List Char) : Prop where
  head : ∀ c ∈ cs.head?, isBlank c = false
  last : ∀ c ∈ cs.getLast?, isBlank c = false

section
variable {cs l r p f : List Char}

theorem trimLeft_of_tight (h : Tight cs) : trimLeft cs = cs := by
  cases cs with
  | nil => rfl
  | cons c cs => exact trimLeft_of_head (h.head c rfl)

theorem Tight.reverse (h : Tight cs) : Tight cs.reverse where
  head := by
    rw [List.head?_reverse]
    exact h.last
  last := by
    rw [List.getLast?_reverse]
    exact h.head

theorem Blanks.reverse (h : Blanks cs) : Blanks cs.reverse := fun c hc => h c (List.mem_reverse.1 hc)

/-- Trimming takes off white space and nothing else. -/
theorem trim_padded (hl : Blanks l) (hr : Blanks r) (h : Tight cs) : trim (l ++ (cs ++ r)) = cs := by
  have hleft {x : List Char} (hl : Blanks l) : trimLeft (l ++ x) = trimLeft x := List.dropWhile_append_of_pos hl
  cases cs with
  | nil => exact trim_of_blank (List.forall_mem_append.2 ⟨hl, hr⟩)
  | cons c cs =>
    have hc : trimLeft (c :: cs ++ r) = c :: cs ++ r := trimLeft_of_head (h.head c rfl)
    have hright : trimLeft (r.reverse ++ (c :: cs).reverse) = trimLeft (c :: cs).reverse :=
      List.dropWhile_append_of_pos hr.reverse
    rw [trim, hleft hl, hc, trimRight, List.reverse_append]
    show (trimLeft _).reverse = _
    rw [hright, trimLeft_of_tight h.reverse, List.reverse_reverse]

theorem trim_of_tight (h : Tight cs) : trim cs = cs := by
  have ht := trim_padded (l := []) (r := []) (by simp [Blanks]) (by simp [Blanks]) h
  rwa [List.nil_append, List.append_nil] at ht

theorem exists_trimLeft (cs : List Char) : ∃ l, Blanks l ∧ cs = l ++ trimLeft cs :=
  ⟨cs.takeWhile isBlank, fun _ hc => List.mem_takeWhile_imp hc, List.takeWhile_append_dropWhile.symm⟩

theorem exists_trimRight (cs : List Char) : ∃ r, Blanks r ∧ cs = trimRight cs ++ r := by
  obtain ⟨l, hl, h⟩ := exists_trimLeft cs.reverse
  refine ⟨l.reverse, hl.reverse, ?_⟩
  have hr := congrArg List.reverse h
  rwa [List.reverse_reverse, List.reverse_append] at hr

theorem exists_padding (cs : List Char) : ∃ l r, Blanks l ∧ Blanks r ∧ cs = l ++ (trim cs ++ r) := by
  obtain ⟨l, hl, hcs⟩ := exists_trimLeft cs
  obtain ⟨r, hr, h⟩ := exists_trimRight (trimLeft cs)
  refine ⟨l, r, hl, hr, ?_⟩
  rw [trim, ← h]
  exact hcs

theorem tight_trim (cs : List Char) : Tight (trim cs) where
  head := by
    intro c hc
    obtain ⟨x, hx⟩ := List.head?_eq_some_iff.1 hc
    obtain ⟨r, -, h⟩ := exists_trimRight (trimLeft cs)
    rw [show trimRight (trimLeft cs) = c :: x from hx] at h
    exact trimLeft_head h
  last := by
    intro c hc
    rw [trim, trimRight, List.getLast?_reverse] at hc
    obtain ⟨x, hx⟩ := List.head?_eq_some_iff.1 hc
    exact trimLeft_head hx

/-- A text of white space that begins a tight text is empty. -/
theorem Tight.eq_nil_of_blanks (h : Tight (l ++ cs)) (hl : Blanks l) : l = [] := by
  cases l with
  | nil => rfl
  | cons c l =>
    have hc := h.head c rfl
    rw [hl c List.mem_cons_self] at hc
    cases hc

end

/-! ## Words -/

/-- Some characters, none of them white space and none of them barred. -/
def IsWord (barred w : List Char) : Prop := w ≠ [] ∧ ∀ c ∈ w, isBlank c = false ∧ c ∉ barred

instance (barred w : List Char) : Decidable (IsWord barred w) :=
  decidable_of_iff (w ≠ [] ∧ w.all fun c => !isBlank c && c ∉ barred) (by simp [IsWord])

/-- One or more words with white space between them. -/
inductive Words (barred : List Char) : List Char → Prop
  | word {w} : IsWord barred w → Words barred w
  | cons {w sep ws} : IsWord barred w → sep ≠ [] → Blanks sep → Words barred ws → Words barred (w ++ (sep ++ ws))

section
variable {barred cs w f p : List Char} {c : Char}

theorem IsWord.tight (h : IsWord barred w) : Tight w where
  head := fun c hc => (h.2 c (List.mem_of_mem_head? hc)).1
  last := fun c hc => (h.2 c (List.mem_of_getLast? hc)).1

/-- A character more at the front of the first word. -/
theorem Words.push (hc : isBlank c = false) (hb : c ∉ barred) (h : Words barred cs) : Words barred (c :: cs) := by
  have hpush {w : List Char} (hw : IsWord barred w) : IsWord barred (c :: w) :=
    ⟨by simp, List.forall_mem_cons.2 ⟨⟨hc, hb⟩, hw.2⟩⟩
  cases h with
  | word hw => exact .word (hpush hw)
  | cons hw hne hs hws => exact .cons (hpush hw) hne hs hws

theorem IsWord.mono {open' : List Char} (hb : open' ⊆ barred) (h : IsWord barred w) : IsWord open' w :=
  ⟨h.1, fun c hc => ⟨(h.2 c hc).1, fun hm => (h.2 c hc).2 (hb hm)⟩⟩

theorem Words.mono {open' : List Char} (hb : open' ⊆ barred) (h : Words barred cs) : Words open' cs := by
  induction h with
  | word hw => exact .word (hw.mono hb)
  | cons hw hne hs _ ih => exact .cons (hw.mono hb) hne hs ih

theorem Words.append {sep : List Char} (h : Words barred cs) (hne : sep ≠ []) (hs : Blanks sep) (h' : Words barred w) :
    Words barred (cs ++ (sep ++ w)) := by
  induction h with
  | word hw => exact .cons hw hne hs h'
  | cons hw hne' hs' _ ih =>
    rw [List.append_assoc, List.append_assoc]
    exact .cons hw hne' hs' ih

/-- A text that does not end in white space is white space and words. -/
theorem exists_words (hne : cs ≠ []) (hl : ∀ c ∈ cs.getLast?, isBlank c = false) (hb : ∀ c ∈ cs, c ∉ barred) :
    ∃ sep ws, Blanks sep ∧ Words barred ws ∧ cs = sep ++ ws := by
  induction cs with
  | nil => exact absurd rfl hne
  | cons c cs ih =>
    obtain ⟨hbc, hb⟩ := List.forall_mem_cons.1 hb
    cases cs with
    | nil =>
      have hc : isBlank c = false := hl c rfl
      exact ⟨[], [c], by simp [Blanks], .word ⟨by simp, by simp [hc, hbc]⟩, rfl⟩
    | cons d cs =>
      obtain ⟨sep, ws, hsep, hws, h⟩ := ih (by simp) hl hb
      by_cases hc : isBlank c
      · exact ⟨c :: sep, ws, List.forall_mem_cons.2 ⟨hc, hsep⟩, hws, by rw [h]; rfl⟩
      · rw [Bool.not_eq_true] at hc
        refine ⟨[], c :: (sep ++ ws), by simp [Blanks], ?_, by rw [h]; rfl⟩
        by_cases he : sep = []
        · subst he
          exact hws.push hc hbc
        · exact .cons (w := [c]) ⟨by simp, by simp [hc, hbc]⟩ he hsep hws

/-- What is words: a text without white space at its ends and without the barred characters. -/
theorem words_iff (hbar : barred.all fun c => !isBlank c) :
    Words barred cs ↔ cs ≠ [] ∧ Tight cs ∧ ∀ c ∈ cs, c ∉ barred := by
  constructor
  · intro h
    induction h with
    | word hw => exact ⟨hw.1, hw.tight, fun c hc => (hw.2 c hc).2⟩
    | @cons w sep ws hw _ hsep _ ih =>
      refine ⟨by simp [hw.1], ⟨?_, ?_⟩, ?_⟩
      · rw [List.head?_append_of_ne_nil _ hw.1]
        exact hw.tight.head
      · rw [← List.append_assoc, List.getLast?_append_of_ne_nil _ ih.1]
        exact ih.2.1.last
      · simp only [List.forall_mem_append]
        refine ⟨fun c hc => (hw.2 c hc).2, fun c hc hm => ?_, ih.2.2⟩
        have hblank := hsep c hc
        have hmark := List.all_eq_true.1 hbar c hm
        rw [hblank] at hmark
        cases hmark
  · rintro ⟨hne, ht, hb⟩
    obtain ⟨sep, ws, hsep, hws, rfl⟩ := exists_words hne ht.last hb
    obtain rfl := ht.eq_nil_of_blanks hsep
    exact hws

theorem lastWord_append (hp : ∀ c ∈ p, isBlank c = false) (hf : ∀ c ∈ f.getLast?, isBlank c) :
    lastWord (f ++ p) = p := by
  have hr : ∀ c ∈ p.reverse, (!isBlank c) = true := fun c hc => by rw [hp c (List.mem_reverse.1 hc)]; rfl
  rw [lastWord, List.reverse_append, List.takeWhile_append_of_pos hr]
  have hend : f.reverse.takeWhile (fun c => !isBlank c) = [] := by
    rw [← List.head?_reverse] at hf
    cases h : f.reverse with
    | nil => rfl
    | cons c r =>
      have hc : isBlank c := hf c (by rw [h]; rfl)
      exact List.takeWhile_cons_of_neg (by simp [hc])
  rw [hend, List.append_nil, List.reverse_reverse]

theorem exists_lastWord (cs : List Char) : ∃ f, cs = f ++ lastWord cs ∧ ∀ c ∈ f.getLast?, isBlank c := by
  refine ⟨(cs.reverse.dropWhile fun c => !isBlank c).reverse, ?_, fun c hc => ?_⟩
  · rw [lastWord, ← List.reverse_append, List.takeWhile_append_dropWhile, List.reverse_reverse]
  · rw [List.getLast?_reverse] at hc
    have h := List.head?_dropWhile_not (fun c => !isBlank c) cs.reverse
    rw [hc] at h
    simpa using h

/-- What a tight text has in front of its last word: a tight text and white space. -/
theorem exists_front (h : Tight (f ++ p)) (hf : f ≠ []) (hlast : ∀ c ∈ f.getLast?, isBlank c) :
    ∃ t sep, t ≠ [] ∧ Tight t ∧ sep ≠ [] ∧ Blanks sep ∧ f = t ++ sep := by
  obtain ⟨l, sep, hl, hsep, hpad⟩ := exists_padding f
  have hfirst : Tight (l ++ (trim f ++ sep ++ p)) := by
    rw [← List.append_assoc, ← hpad]
    exact h
  obtain rfl := hfirst.eq_nil_of_blanks hl
  rw [List.nil_append] at hpad
  refine ⟨trim f, sep, ?_, tight_trim f, ?_, hsep, hpad⟩
  · intro he
    rw [he, List.nil_append] at hpad
    exact hf (h.eq_nil_of_blanks (hpad ▸ hsep))
  · rintro rfl
    rw [List.append_nil] at hpad
    obtain ⟨c, hm⟩ := Option.ne_none_iff_exists'.1 (mt List.getLast?_eq_none_iff.1 hf)
    have hb := (tight_trim f).last c (by rw [← hpad]; exact hm)
    rw [hlast c hm] at hb
    cases hb

end

/-! ## The first arrow -/

theorem splitArrow_append {a : List Char} (ha : ¬ ['=', '>'] <:+: a) (b : List Char) :
    splitArrow (a ++ '=' :: '>' :: b) = some (a, b) := by
  induction a with
  | nil => rfl
  | cons c a ih =>
    have hc : ∀ r, c = '=' → a ++ '=' :: '>' :: b = '>' :: r → False := by
      rintro r rfl hr
      cases a with
      | nil => cases (List.cons_eq_cons.1 hr).1
      | cons d a =>
        obtain rfl := (List.cons_eq_cons.1 hr).1
        exact ha ⟨[], a, rfl⟩
    rw [List.cons_append, splitArrow, ih fun h => ha (h.trans (List.suffix_cons c a).isInfix)]
    · rfl
    · exact hc

end Text

/-! ## Parameter lists -/

section
open Text

/-- Parentheses and the comma, which part parameters. -/
def listMarks : List Char := ['(', ')', ',']

def inParentheses (m : List Char) : List Char := '(' :: (m ++ [')'])

/-- A parameter list of a lambda that takes `p` only: `p`, `(p)` or `(T p)`. -/
inductive SingleParameter (p : List Char) : List Char → Prop
  | bare : SingleParameter p p
  | wrapped {l r} : Blanks l → Blanks r → SingleParameter p (inParentheses (l ++ (p ++ r)))
  | typed {l t sep r} : Blanks l → Words listMarks t → sep ≠ [] → Blanks sep → Blanks r →
      SingleParameter p (inParentheses (l ++ ((t ++ (sep ++ p)) ++ r)))

/-- A text that is let through as well: words in front of `p` without parentheses around them, or with
parentheses of their own. -/
inductive LooseParameter (p : List Char) : List Char → Prop
  | unwrapped {t sep} : Words [','] t → sep ≠ [] → Blanks sep → LooseParameter p (t ++ (sep ++ p))
  | nested {l t sep r} : Blanks l → Words [','] t → '(' ∈ t ∨ ')' ∈ t → sep ≠ [] → Blanks sep → Blanks r →
      LooseParameter p (inParentheses (l ++ ((t ++ (sep ++ p)) ++ r)))

/-- A text whose last word is `p`, without commas. -/
def EndsIn (p x : List Char) : Prop := x = p ∨ ∃ t sep, Words [','] t ∧ sep ≠ [] ∧ Blanks sep ∧ x = t ++ (sep ++ p)

variable {p q x cs : List Char}

theorem not_mem_blanks {c : Char} (hc : isBlank c = false) {sep : List Char} (h : Blanks sep) : c ∉ sep := by
  intro hm
  have hb := h c hm
  rw [hc] at hb
  cases hb

theorem endsIn_iff (hp : IsWord listMarks p) (hx : Tight x) : EndsIn p x ↔ x ≠ [] ∧ ',' ∉ x ∧ lastWord x = p := by
  have hbar : [','].all fun c => !isBlank c := by decide
  have hcomma : ',' ∉ p := fun hm => (hp.2 _ hm).2 (by decide)
  have hblank : ∀ c ∈ p, isBlank c = false := fun c hc => (hp.2 c hc).1
  constructor
  · rintro (rfl | ⟨t, sep, ht, hne, hsep, rfl⟩)
    · exact ⟨hp.1, hcomma, lastWord_append (f := []) hblank (by simp)⟩
    · obtain ⟨ht, -, htc⟩ := (words_iff hbar).1 ht
      refine ⟨by simp [ht], ?_, ?_⟩
      · simp only [List.mem_append, not_or]
        exact ⟨fun hm => htc _ hm (by decide), not_mem_blanks rfl hsep, hcomma⟩
      · rw [← List.append_assoc]
        refine lastWord_append hblank fun c hc => ?_
        rw [List.getLast?_append_of_ne_nil _ hne] at hc
        exact hsep c (List.mem_of_getLast? hc)
  · rintro ⟨-, hc, rfl⟩
    obtain ⟨f, hf, hlast⟩ := exists_lastWord x
    generalize lastWord x = p at *
    subst hf
    by_cases hf : f = []
    · exact .inl (by rw [hf]; rfl)
    · obtain ⟨t, sep, hne, ht, hend, hsep, rfl⟩ := exists_front hx hf hlast
      have hwords : Words [','] t := by
        refine (words_iff hbar).2 ⟨hne, ht, fun c hm hcm => hc ?_⟩
        obtain rfl := List.mem_singleton.1 hcm
        simp [hm]
      exact .inr ⟨t, sep, hwords, hend, hsep, List.append_assoc ..⟩

/-! ## Parentheses -/

theorem insideParentheses_inParentheses (m : List Char) : insideParentheses (inParentheses m) = m := by
  rw [inParentheses, insideParentheses, List.getLast?_concat, if_pos rfl, List.dropLast_concat]

theorem insideParentheses_of_ne (h : ∀ m, q ≠ inParentheses m) : insideParentheses q = q := by
  unfold insideParentheses
  split
  · next r =>
    rw [if_neg]
    intro hr
    obtain ⟨m, rfl⟩ := List.getLast?_eq_some_iff.1 hr
    exact h m rfl
  · rfl

/-- The parameter of a list is the last of its words, if there is no comma. -/
theorem lambdaParameter_eq_some_iff (hp : IsWord listMarks p) :
    lambdaParameter cs = some p ↔ EndsIn p (trim (insideParentheses (trim cs))) := by
  rw [endsIn_iff hp (tight_trim _), lambdaParameter]
  simp only [Bool.or_eq_true, List.isEmpty_iff, List.contains_iff_mem]
  split
  · next h =>
    constructor
    · rintro ⟨⟩
    · rintro ⟨hne, hc, -⟩
      exact absurd h (not_or.2 ⟨hne, hc⟩)
  · next h =>
    rw [not_or] at h
    rw [Option.some_inj, and_iff_right h.1, and_iff_right h.2]

theorem EndsIn.mark_not_last (hp : IsWord listMarks p) (h : EndsIn p q) (m : List Char) : q ≠ inParentheses m := by
  rintro rfl
  have hlast : (inParentheses m).getLast? = p.getLast? := by
    rcases h with h | ⟨t, sep, -, -, -, h⟩
    · rw [h]
    · rw [h, ← List.append_assoc, List.getLast?_append_of_ne_nil _ hp.1]
  have hm : p.getLast? = some ')' := by
    rw [← hlast]
    show (('(' :: m) ++ [')']).getLast? = some ')'
    exact List.getLast?_concat
  exact (hp.2 _ (List.mem_of_getLast? hm)).2 (by decide)

theorem EndsIn.tight (hp : IsWord listMarks p) (h : EndsIn p x) : Tight x := by
  rcases h with rfl | ⟨t, sep, ht, hne, hsep, rfl⟩
  · exact hp.tight
  · have hw := ht.append hne hsep (.word (hp.mono (by decide)))
    exact ((words_iff (by decide)).1 hw).2.1

theorem trim_inside {l r : List Char} (hp : IsWord listMarks p) (hl : Blanks l) (hr : Blanks r) (h : EndsIn p x) :
    trim (insideParentheses (inParentheses (l ++ (x ++ r)))) = x := by
  rw [insideParentheses_inParentheses, trim_padded hl hr (h.tight hp)]

theorem trim_inside_of_not_wrapped (hp : IsWord listMarks p) (h : EndsIn p q) : trim (insideParentheses q) = q := by
  rw [insideParentheses_of_ne (h.mark_not_last hp), trim_of_tight (h.tight hp)]

/-! ## What is let through -/

theorem Text.Words.of_comma_free {t : List Char} (h : Words [','] t) (hopen : '(' ∉ t) (hclose : ')' ∉ t) :
    Words listMarks t := by
  obtain ⟨hne, ht, hc⟩ := (words_iff (by decide)).1 h
  refine (words_iff (by decide)).2 ⟨hne, ht, fun c hm hmark => ?_⟩
  simp only [listMarks, List.mem_cons, List.not_mem_nil, or_false] at hmark
  rcases hmark with rfl | rfl | rfl
  · exact hopen hm
  · exact hclose hm
  · exact hc _ hm (by decide)

/-- Within the parentheses, or in a list without them, the parameter is the last word. -/
theorem SingleParameter.endsIn (hp : IsWord listMarks p) (h : SingleParameter p q) :
    EndsIn p (trim (insideParentheses q)) := by
  cases h with
  | bare =>
    have h : EndsIn p p := .inl rfl
    rwa [trim_inside_of_not_wrapped hp h]
  | wrapped hl hr =>
    have h : EndsIn p p := .inl rfl
    rwa [trim_inside hp hl hr h]
  | @typed l t sep r hl ht hne hsep hr =>
    have h : EndsIn p (t ++ (sep ++ p)) := .inr ⟨t, sep, ht.mono (by decide), hne, hsep, rfl⟩
    rwa [trim_inside hp hl hr h]

theorem LooseParameter.endsIn (hp : IsWord listMarks p) (h : LooseParameter p q) :
    EndsIn p (trim (insideParentheses q)) := by
  cases h with
  | @unwrapped t sep ht hne hsep =>
    have h : EndsIn p (t ++ (sep ++ p)) := .inr ⟨t, sep, ht, hne, hsep, rfl⟩
    rwa [trim_inside_of_not_wrapped hp h]
  | @nested l t sep r hl ht _ hne hsep hr =>
    have h : EndsIn p (t ++ (sep ++ p)) := .inr ⟨t, sep, ht, hne, hsep, rfl⟩
    rwa [trim_inside hp hl hr h]

theorem EndsIn.single_or_loose (hq : Tight q) (h : EndsIn p (trim (insideParentheses q))) :
    SingleParameter p q ∨ LooseParameter p q := by
  by_cases hw : ∃ m, q = inParentheses m
  · obtain ⟨m, rfl⟩ := hw
    rw [insideParentheses_inParentheses] at h
    obtain ⟨l, r, hl, hr, hm⟩ := exists_padding m
    rw [hm]
    rcases h with h | ⟨t, sep, ht, hne, hsep, h⟩
    · rw [h]
      exact .inl (.wrapped hl hr)
    · rw [h]
      by_cases hmark : '(' ∈ t ∨ ')' ∈ t
      · exact .inr (.nested hl ht hmark hne hsep hr)
      · rw [not_or] at hmark
        exact .inl (.typed hl (ht.of_comma_free hmark.1 hmark.2) hne hsep hr)
  · rw [insideParentheses_of_ne (not_exists.1 hw), trim_of_tight hq] at h
    rcases h with rfl | ⟨t, sep, ht, hne, hsep, rfl⟩
    · exact .inl .bare
    · exact .inr (.unwrapped ht hne hsep)

/-- A lambda takes just the lists of one parameter and what is let through as well. -/
theorem lambdaParameter_iff (hp : IsWord listMarks p) :
    lambdaParameter cs = some p ↔ SingleParameter p (trim cs) ∨ LooseParameter p (trim cs) := by
  rw [lambdaParameter_eq_some_iff hp]
  constructor
  · exact EndsIn.single_or_loose (tight_trim cs)
  · rintro (h | h)
    · exact h.endsIn hp
    · exact h.endsIn hp

/-- What is let through as well is no list of one parameter. -/
theorem LooseParameter.not_single (hp : IsWord listMarks p) (h : LooseParameter p q) : ¬ SingleParameter p q := by
  have hlonger {t sep : List Char} (hne : sep ≠ []) : t ++ (sep ++ p) ≠ p := by
    intro h
    have hl := congrArg List.length h
    have hpos := List.length_pos_iff.2 hne
    simp only [List.length_append] at hl
    omega
  intro hs
  cases h with
  | @unwrapped t sep ht hne hsep =>
    have he : EndsIn p (t ++ (sep ++ p)) := .inr ⟨t, sep, ht, hne, hsep, rfl⟩
    generalize hq : t ++ (sep ++ p) = q at hs he
    cases hs with
    | bare => exact hlonger hne hq
    | wrapped | typed => exact he.mark_not_last hp _ rfl
  | @nested l t sep r hl ht hmark hne hsep hr =>
    have hx := trim_inside hp hl hr (.inr ⟨t, sep, ht, hne, hsep, rfl⟩)
    generalize hq : inParentheses (l ++ ((t ++ (sep ++ p)) ++ r)) = q at hs hx
    cases hs with
    | bare => exact EndsIn.mark_not_last hp (.inl rfl) _ hq.symm
    | wrapped hl' hr' => exact hlonger hne (hx.symm.trans (trim_inside hp hl' hr' (.inl rfl)))
    | @typed l' t' sep' r' hl' ht' hne' hsep' hr' =>
      -- The words of a type have no parentheses, nor have white space and the name.
      have hclosed {c : Char} (hm : c ∈ listMarks) (hb : isBlank c = false) : c ∉ t ++ (sep ++ p) := by
        rw [← hx, trim_inside hp hl' hr' (.inr ⟨t', sep', ht'.mono (by decide), hne', hsep', rfl⟩)]
        simp only [List.mem_append, not_or]
        exact ⟨fun h => ((words_iff (by decide)).1 ht').2.2 c h hm, not_mem_blanks hb hsep', fun h => (hp.2 c h).2 hm⟩
      rcases hmark with h | h
      · exact hclosed (by decide) rfl (List.mem_append_left _ h)
      · exact hclosed (by decide) rfl (List.mem_append_left _ h)

end

/-! ## Extraction -/

section
variable {o : Options} {expected : ResultType} {text : String} {a b : List Char}

theorem extractLambda_ok_iff (ht : Text.splitArrow text.toList = some (a, b)) (hb : Text.trim b ≠ []) :
    (∃ s, extractLambda o expected text = .ok s) ↔ lambdaParameter a = some o.contextParameter.toList := by
  simp only [extractLambda, ht]
  cases lambdaParameter a with
  | none => simp
  | some p =>
    have hp : String.ofList p = o.contextParameter ↔ p = o.contextParameter.toList := by
      rw [← String.toList_inj, String.toList_ofList]
    by_cases hpo : p = o.contextParameter.toList
    · simp [hpo, hb]
    · simp [hp, hpo]

theorem extractLambda_error (o : Options) (expected : ResultType) (text : String) :
    FailsOnly (fun e => ∃ r, e = Cause.unsupported .anonymousFunction r) (extractLambda o expected text) := by
  unfold extractLambda
  repeat' split
  all_goals simp [FailsOnly]

end

/-- A lambda with a body is taken just if its parameter list, what stands before the first arrow, is
one of the single context parameter or is let through as well; no list is both, and all others are
unsupported. The name of the context may be any word without parentheses and commas, so it may be made
of letters, digits and underscores. -/
theorem extract_lambda_iff_parameters {env : Environment} {n : Node} {a b : List Char}
    (hn : n.kind = .anonymousFunction) (ht : n.text.toList = a ++ '=' :: '>' :: b) (ha : ¬ ['=', '>'] <:+: a)
    (hb : ∃ c ∈ b, Text.isBlank c = false) (hp : Text.IsWord listMarks env.options.contextParameter.toList)
    (expected : ResultType) :
    let p := env.options.contextParameter.toList
    ((∃ s, extract env expected n = .ok s) ↔ SingleParameter p (Text.trim a) ∨ LooseParameter p (Text.trim a)) ∧
    (LooseParameter p (Text.trim a) → ¬ SingleParameter p (Text.trim a)) ∧
    (¬ (SingleParameter p (Text.trim a) ∨ LooseParameter p (Text.trim a)) →
      ∃ r, extract env expected n = .error (.unsupported .anonymousFunction r)) := by
  intro p
  have hs : Text.splitArrow n.text.toList = some (a, b) := by rw [ht, Text.splitArrow_append ha]
  have hbody : Text.trim b ≠ [] := by
    rw [Ne, Text.trim_eq_nil]
    intro h
    obtain ⟨c, hc, hcb⟩ := hb
    rw [h c hc] at hcb
    cases hcb
  have he : extract env expected n = extractLambda env.options expected n.text := by
    simp only [extract, hn]
  have hok : (∃ s, extract env expected n = .ok s) ↔
      SingleParameter p (Text.trim a) ∨ LooseParameter p (Text.trim a) := by
    rw [he, extractLambda_ok_iff hs hbody, lambdaParameter_iff hp]
  refine ⟨hok, LooseParameter.not_single hp, fun hno => ?_⟩
  cases hx : extract env expected n with
  | ok s => exact absurd (hok.1 ⟨s, hx⟩) hno
  | error e =>
    obtain ⟨r, rfl⟩ := extractLambda_error env.options expected n.text e (he ▸ hx)
    exact ⟨r, rfl⟩

/-- A type of two words, and an arrow in the body. -/
theorem extract_lambda_iff_parameters_typed :
    let env : Environment := ⟨.ofDeclaration ⟨"Api", []⟩, {}⟩
    let text := "( Map Entry  context ) => context.Any(x => x)"
    SingleParameter "context".toList "( Map Entry  context )".toList ∧
      ∃ s, extract env .predicate (.anonymousFunction text) = .ok s := by
  intro env text
  have hm : Text.IsWord listMarks ['M', 'a', 'p'] := by decide
  have he : Text.IsWord listMarks ['E', 'n', 't', 'r', 'y'] := by decide
  have hone : Text.Blanks [' '] := by decide
  have hs : SingleParameter "context".toList "( Map Entry  context )".toList :=
    .typed hone (.cons hm (by decide) hone (.word he)) (by decide : [' ', ' '] ≠ []) (by decide) hone
  have harrow : ¬ ['=', '>'] <:+: "( Map Entry  context ) ".toList := fun h =>
    absurd (h.subset List.mem_cons_self) (by decide)
  have hok := (@extract_lambda_iff_parameters env (.anonymousFunction text) "( Map Entry  context ) ".toList
    " context.Any(x => x)".toList rfl (by decide) harrow ⟨'c', by decide, by decide⟩ (by decide) .predicate).1
  exact ⟨hs, hok.2 (.inl hs)⟩

/-- A type in front of the name without parentheses around them, and a parenthesis that is not closed. -/
theorem loose_parameters_taken :
    let env : Environment := ⟨.ofDeclaration ⟨"Api", []⟩, {}⟩
    ((∃ s, extract env .predicate (.anonymousFunction "Request context => context.Fresh") = .ok s) ∧
      ¬ SingleParameter "context".toList "Request context".toList) ∧
    (∃ s, extract env .predicate (.anonymousFunction "( context => context.Fresh") = .ok s) ∧
      ¬ SingleParameter "context".toList "( context".toList := by
  intro env
  have hp : Text.IsWord listMarks "context".toList := by decide
  have hone : Text.Blanks [' '] := by decide
  have hloose {t : List Char} (ht : Text.IsWord [','] t) :
      LooseParameter "context".toList (t ++ ([' '] ++ "context".toList)) := .unwrapped (.word ht) (by decide) hone
  have hr : Text.IsWord [','] "Request".toList := by decide
  have hparen : Text.IsWord [','] "(".toList := by decide
  exact ⟨⟨exists_of_isOk (by decide), (hloose hr).not_single hp⟩,
    exists_of_isOk (by decide), (hloose hparen).not_single hp⟩

end GatewayPolicy
