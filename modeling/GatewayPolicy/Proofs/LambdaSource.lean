import GatewayPolicy.Proofs.Lambdas
/-!
# Lambdas are carried verbatim

A lambda is a parameter list and a body on the two sides of its first arrow. Extraction takes the
white space off both and keeps them as they are otherwise; a body may have arrows of its own. What is
kept, written out with an arrow between the parts, is a lambda that is extracted to the same again.
-/

namespace GatewayPolicy

/-! ## The first arrow -/

namespace Text

variable {cs a b x y l r : List Char}

/-- An arrow of an append is an arrow of a part, or stands half in each. -/
theorem arrow_infix_append (h : ['=', '>'] <:+: x ++ y) :
    ['=', '>'] <:+: x ∨ ['=', '>'] <:+: y ∨ '=' ∈ x ∧ '>' ∈ y := by
  rcases List.infix_append_iff.1 h with h | h | ⟨l₁, l₂, he, h₁, h₂⟩
  · exact .inl h
  · exact .inr (.inl h)
  · rcases List.cons_eq_append_iff.1 he with ⟨rfl, rfl⟩ | ⟨t, rfl, ht⟩
    · exact .inr (.inl h₂.isInfix)
    · rcases List.cons_eq_append_iff.1 ht with ⟨rfl, rfl⟩ | ⟨u, rfl, hu⟩
      · exact .inr (.inr ⟨h₁.subset (by simp), h₂.subset (by simp)⟩)
      · obtain ⟨rfl, rfl⟩ := List.nil_eq_append_iff.1 hu
        exact .inl h₁.isInfix

/-- White space has no part in an arrow. -/
theorem arrow_infix_padded (hl : Blanks l) (hr : Blanks r) (h : ['=', '>'] <:+: l ++ (x ++ r)) : ['=', '>'] <:+: x := by
  have hgap {s : List Char} (hs : Blanks s) : '=' ∉ s ∧ '>' ∉ s := ⟨not_mem_blanks rfl hs, not_mem_blanks rfl hs⟩
  rcases arrow_infix_append h with h | h | h
  · exact absurd (h.subset List.mem_cons_self) (hgap hl).1
  · rcases arrow_infix_append h with h | h | h
    · exact h
    · exact absurd (h.subset List.mem_cons_self) (hgap hr).1
    · exact absurd h.2 (hgap hr).2
  · exact absurd h.1 (hgap hl).1

/-- A text is cut where its first arrow stands. -/
theorem splitArrow_eq_some_iff :
    splitArrow cs = some (a, b) ↔ cs = a ++ '=' :: '>' :: b ∧ ¬ ['=', '>'] <:+: a := by
  refine ⟨fun h => ⟨splitArrow_eq h, ?_⟩, ?_⟩
  · fun_induction splitArrow cs generalizing a with
    | case1 => cases h
    | case2 r =>
      cases h
      simp
    | case3 c r hc ih =>
      obtain ⟨⟨a', b'⟩, hs, he⟩ := Option.map_eq_some_iff.1 h
      cases he
      intro hi
      rcases List.infix_cons_iff.1 hi with hp | hi
      · -- The arrow would stand at the start, where the text is not cut.
        obtain ⟨t, ht⟩ := hp
        obtain ⟨rfl, rfl⟩ := List.cons.inj ht
        exact hc _ rfl (splitArrow_eq hs)
      · exact ih hs hi
  · rintro ⟨rfl, ha⟩
    exact splitArrow_append ha b

end Text

/-! ## Lambdas as they are written -/

section
open Text

/-- A text that writes a lambda with the parameter list `q` and the body `b`: the list, the first arrow
and the body, with any white space around the list and the body. -/
structure LambdaText (cs q b : List Char) : Prop where
  padded : ∃ w₁ w₂ w₃ w₄, Blanks w₁ ∧ Blanks w₂ ∧ Blanks w₃ ∧ Blanks w₄ ∧
    cs = (w₁ ++ (q ++ w₂)) ++ '=' :: '>' :: (w₃ ++ (b ++ w₄))
  list : Tight q
  body : Tight b
  hasBody : b ≠ []
  firstArrow : ¬ ['=', '>'] <:+: q

variable {cs q b x : List Char}

theorem LambdaText.split (h : LambdaText cs q b) :
    ∃ x y, splitArrow cs = some (x, y) ∧ trim x = q ∧ trim y = b := by
  obtain ⟨w₁, w₂, w₃, w₄, h₁, h₂, h₃, h₄, rfl⟩ := h.padded
  have hs := splitArrow_append (fun hi => h.firstArrow (arrow_infix_padded h₁ h₂ hi)) (w₃ ++ (b ++ w₄))
  exact ⟨_, _, hs, trim_padded h₁ h₂ h.list, trim_padded h₃ h₄ h.body⟩

/-- What stands on the two sides of the first arrow, when there is something behind it. -/
theorem LambdaText.of_split {y : List Char} (h : splitArrow cs = some (x, y)) (hy : trim y ≠ []) :
    LambdaText cs (trim x) (trim y) := by
  obtain ⟨rfl, ha⟩ := splitArrow_eq_some_iff.1 h
  obtain ⟨w₁, w₂, h₁, h₂, hx⟩ := exists_padding x
  obtain ⟨w₃, w₄, h₃, h₄, hb⟩ := exists_padding y
  refine ⟨⟨w₁, w₂, w₃, w₄, h₁, h₂, h₃, h₄, by rw [← hx, ← hb]⟩, tight_trim x, tight_trim y, hy, fun hi => ha ?_⟩
  rw [hx]
  exact hi.trans ⟨w₁, w₂, by rw [List.append_assoc]⟩

/-- White space around a parameter list plays no part. -/
theorem lambdaParameter_trim (cs : List Char) : lambdaParameter (trim cs) = lambdaParameter cs := by
  rw [lambdaParameter, lambdaParameter, trim_of_tight (tight_trim cs)]

/-! ## Extraction -/

variable {o : Options} {expected : ResultType} {text : String} {s : Snippet}

theorem code_of_tight {parameter body : String} (h : Tight body.toList) :
    Snippet.code expected parameter body = ⟨expected, .code parameter body⟩ := by
  rw [Snippet.code, trimmed, trim_of_tight h, String.ofList_toList]

theorem extractLambda_of_split {y : List Char} (h : splitArrow text.toList = some (x, y)) :
    extractLambda o expected text = .ok s ↔
      lambdaParameter x = some o.contextParameter.toList ∧ trim y ≠ [] ∧
        ⟨expected, .code (String.ofList (trim x)) (String.ofList (trim y))⟩ = s := by
  have hcode : Snippet.code expected (String.ofList (trim x)) (String.ofList (trim y)) = ⟨expected, .code _ _⟩ :=
    code_of_tight (by rw [String.toList_ofList]; exact tight_trim y)
  simp only [extractLambda, h, hcode]
  cases lambdaParameter x with
  | none => simp
  | some p =>
    have hp : String.ofList p = o.contextParameter ↔ p = o.contextParameter.toList := by
      rw [← String.toList_inj, String.toList_ofList]
    by_cases hpo : p = o.contextParameter.toList
    · by_cases hy : trim y = [] <;> simp [hpo, hy]
    · simp [hp, hpo]

/-- A lambda is extracted just if it is written with a body, and with a parameter list that has the
context as its parameter; the snippet is the list and the body. -/
theorem extractLambda_eq_ok_iff :
    extractLambda o expected text = .ok s ↔
      ∃ q b : String, s = ⟨expected, .code q b⟩ ∧ LambdaText text.toList q.toList b.toList ∧
        lambdaParameter q.toList = some o.contextParameter.toList := by
  constructor
  · intro h
    cases hs : splitArrow text.toList with
    | none => simp [extractLambda, hs] at h
    | some parts =>
      obtain ⟨hp, hy, rfl⟩ := (extractLambda_of_split hs).1 h
      refine ⟨_, _, rfl, ?_, ?_⟩
      · rw [String.toList_ofList, String.toList_ofList]
        exact .of_split hs hy
      · rw [String.toList_ofList, lambdaParameter_trim, hp]
  · rintro ⟨q, b, rfl, ht, hp⟩
    obtain ⟨x, y, hs, hx, hy⟩ := ht.split
    rw [extractLambda_of_split hs, hx, hy, ← lambdaParameter_trim, hx]
    exact ⟨hp, ht.hasBody, by simp⟩

/-- The source of a lambda is written with one blank on each side of its arrow. -/
theorem LambdaText.sourceText {q b : String} (h : LambdaText text.toList q.toList b.toList) :
    LambdaText (Snippet.sourceText ⟨expected, .code q b⟩).toList q.toList b.toList where
  padded := ⟨[], [' '], [' '], [], by decide, by decide, by decide, by decide, by simp [Snippet.sourceText]⟩
  list := h.list
  body := h.body
  hasBody := h.hasBody
  firstArrow := h.firstArrow

end

/-- Lambdas are carried verbatim. What a lambda is extracted to is its parameter list and its body as
they are written, without the white space around them, and the list ends before the first arrow; just
the lambdas with a body and with the context as the parameter of their list are extracted. A lambda with
the source of the snippet as its text is extracted to the same snippet. -/
theorem lambda_carried_verbatim {env : Environment} {n : Node} (hn : n.kind = .anonymousFunction)
    (expected : ResultType) (s : Snippet) :
    (extract env expected n = .ok s ↔
      ∃ q b : String, s = ⟨expected, .code q b⟩ ∧ LambdaText n.text.toList q.toList b.toList ∧
        lambdaParameter q.toList = some env.options.contextParameter.toList) ∧
    (extract env expected n = .ok s →
      ∀ m : Node, m.kind = .anonymousFunction → m.text = s.sourceText → extract env expected m = .ok s) := by
  have he {m : Node} (hm : m.kind = .anonymousFunction) :
      extract env expected m = extractLambda env.options expected m.text := by
    simp only [extract, hm]
  refine ⟨by rw [he hn, extractLambda_eq_ok_iff], fun h m hm ht => ?_⟩
  rw [he hn, extractLambda_eq_ok_iff] at h
  obtain ⟨q, b, rfl, hl, hp⟩ := h
  rw [he hm, ht, extractLambda_eq_ok_iff]
  exact ⟨q, b, rfl, hl.sourceText, hp⟩

/-- A name that ends in half an arrow, right before the arrow, and a second arrow in the body. -/
theorem lambda_carried_verbatim_merging :
    let env : Environment := ⟨.ofDeclaration ⟨"Api", []⟩, { contextParameter := "c=" }⟩
    let written := Node.anonymousFunction "\tc==>c=.Any(x=>x)\n"
    let s : Snippet := ⟨.value, .code "c=" "c=.Any(x=>x)"⟩
    extract env .value written = .ok s ∧ LambdaText written.text.toList "c=".toList "c=.Any(x=>x)".toList ∧
      extract env .value (.anonymousFunction "c= => c=.Any(x=>x)") = .ok s := by
  intro env written s
  have h := @lambda_carried_verbatim env written rfl .value s
  have hs : extract env .value written = .ok s := by decide
  obtain ⟨q, b, hqb, hl, -⟩ := h.1.1 hs
  obtain ⟨rfl, rfl⟩ : "c=" = q ∧ "c=.Any(x=>x)" = b := by simpa [s] using hqb
  exact ⟨hs, hl, h.2 hs _ rfl rfl⟩

end GatewayPolicy
