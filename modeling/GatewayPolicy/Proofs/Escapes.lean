import GatewayPolicy.Text.Escape
/-!
# Escaped text, item by item

Escaped text is a sequence of items: a doubled brace, an escape, or any other character.
Each item stands for one character and says by itself where it ends, so the text after it
is read as if it stood alone.
-/

namespace GatewayPolicy.Text

/-- Whether a character stands for itself in escaped text. -/
def isPlain (c : Char) : Bool := c != '\x7b' && c != '\x7d' && c != '\\'

/-- An item of escaped text and the character that it stands for. -/
inductive Item : List Char → Char → Prop
  | opening : Item ['\x7b', '\x7b'] '\x7b'
  | closing : Item ['\x7d', '\x7d'] '\x7d'
  | simple {e x} : simpleEscape e = some x → Item ['\\', e] x
  | code {a b c d x} : codeEscape [a, b, c, d] = some x → Item ['\\', 'u', a, b, c, d] x
  | plain {c} : isPlain c → Item [c] c

/-- A text and the characters that its items stand for. -/
inductive Escaped : List Char → List Char → Prop
  | nil : Escaped [] []
  | cons {i r v x} : Item i x → Escaped r v → Escaped (i ++ r) (x :: v)

variable {cs i r v w : List Char} {x : Char}

/-- Escaped texts may be put together. -/
theorem Escaped.append (h : Escaped cs v) (h' : Escaped r w) : Escaped (cs ++ r) (v ++ w) := by
  induction h with
  | nil => exact h'
  | cons hi _ ih =>
    rw [List.append_assoc]
    exact .cons hi ih

/-- The letters of simple escapes. -/
theorem simpleEscape_cases {e : Char} (h : simpleEscape e = some x) :
    e ∈ ['"', '\'', '\\', '0', 'n', 'r', 't'] := by
  unfold simpleEscape at h
  split at h
  case h_8 => cases h
  all_goals simp

/-! ## Unescaping -/

theorem unescape_item (h : Item i x) (r : List Char) : unescape (i ++ r) = (unescape r).map (x :: ·) := by
  cases h with
  | opening => rfl
  | closing => rfl
  | simple h =>
    have he := simpleEscape_cases h
    simp only [List.mem_cons, List.not_mem_nil, or_false] at he
    rcases he with rfl | rfl | rfl | rfl | rfl | rfl | rfl
    all_goals
      cases h
      cases hr : unescape r <;> simp [unescape, simpleEscape, hr]
  | code h =>
    show unescape ('\\' :: 'u' :: _ :: _ :: _ :: _ :: r) = _
    rw [unescape, h]
    cases unescape r <;> rfl
  | plain h =>
    simp only [isPlain, Bool.and_eq_true, bne_iff_ne] at h
    obtain ⟨⟨h₁, h₂⟩, h₃⟩ := h
    show unescape (_ :: r) = _
    rw [unescape, if_neg (by simp [h₁, h₂, h₃])]
    all_goals simp_all

/-- What stands behind an escaped text is unescaped as if it stood alone. -/
theorem Escaped.unescape_append (h : Escaped cs v) (r : List Char) :
    unescape (cs ++ r) = (unescape r).map (v ++ ·) := by
  induction h with
  | nil => simp
  | cons hi _ ih =>
    rw [List.append_assoc, unescape_item hi, ih, Option.map_map]
    rfl

/-- A text is unescaped just if it is a sequence of items. -/
theorem unescape_eq_some_iff : unescape cs = some v ↔ Escaped cs v := by
  constructor
  · intro h
    fun_induction unescape cs generalizing v with
    | case1 =>
      cases h
      exact .nil
    | case2 r ih =>
      obtain ⟨w, hw, rfl⟩ := Option.map_eq_some_iff.1 h
      exact .cons .opening (ih hw)
    | case3 r ih =>
      obtain ⟨w, hw, rfl⟩ := Option.map_eq_some_iff.1 h
      exact .cons .closing (ih hw)
    | case4 a b c d r ih =>
      obtain ⟨y, hy, h⟩ := Option.bind_eq_some_iff.1 h
      obtain ⟨w, hw, h⟩ := Option.bind_eq_some_iff.1 h
      cases h
      exact .cons (.code hy) (ih hw)
    | case5 e r _ ih =>
      obtain ⟨y, hy, h⟩ := Option.bind_eq_some_iff.1 h
      obtain ⟨w, hw, h⟩ := Option.bind_eq_some_iff.1 h
      cases h
      exact .cons (.simple hy) (ih hw)
    | case6 => cases h
    | case7 c r _ _ _ _ hc ih =>
      obtain ⟨w, hw, rfl⟩ := Option.map_eq_some_iff.1 h
      refine .cons (.plain ?_) (ih hw)
      simp only [not_or] at hc
      simp [isPlain, hc]
  · intro h
    have hu := h.unescape_append []
    rwa [List.append_nil, unescape, Option.map_some, List.append_nil] at hu

end GatewayPolicy.Text
