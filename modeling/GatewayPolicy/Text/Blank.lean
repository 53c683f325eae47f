/-!
# White space

The characters of the Unicode property White_Space, and what is cut at them:
trimming both ends of a text, and the last of its words.
-/

namespace GatewayPolicy.Text

/-- The characters with the Unicode property White_Space. -/
def isBlank (c : Char) : Bool :=
  let n := c.toNat
  (9 ≤ n && n ≤ 13) || n == 0x20 || n == 0x85 || n == 0xA0 || n == 0x1680 ||
    (0x2000 ≤ n && n ≤ 0x200A) || n == 0x2028 || n == 0x2029 || n == 0x202F || n == 0x205F || n == 0x3000

/-- A text without the white space it starts with. -/
def trimLeft (cs : List Char) : List Char := cs.dropWhile isBlank

/-- A text without the white space it ends with. -/
def trimRight (cs : List Char) : List Char := (cs.reverse.dropWhile isBlank).reverse

/-- A text without the white space at its two ends. -/
def trim (cs : List Char) : List Char := trimRight (trimLeft cs)

/-- The characters after the last white space of a text. -/
def lastWord (cs : List Char) : List Char := (cs.reverse.takeWhile fun c => !isBlank c).reverse

/-- The text without the white space at its two ends. -/
def trimmed (s : String) : String := String.ofList (trim s.toList)

/-! ## What trimming leaves -/

theorem trimLeft_head {c : Char} {cs r : List Char} (h : trimLeft cs = c :: r) : isBlank c = false := by
  induction cs with
  | nil => simp [trimLeft] at h
  | cons a as ih =>
    by_cases ha : isBlank a
    · rw [trimLeft, List.dropWhile_cons_of_pos ha] at h
      exact ih h
    · rw [trimLeft, List.dropWhile_cons_of_neg ha] at h
      obtain ⟨rfl, -⟩ := List.cons.inj h
      simpa using ha

theorem trimLeft_of_head {c : Char} {r : List Char} (h : isBlank c = false) : trimLeft (c :: r) = c :: r := by
  simp [trimLeft, h]

theorem trim_of_ends {c : Char} {r : List Char} (h : (r ++ [c]).head?.any isBlank = false) (hc : isBlank c = false) :
    trim (r ++ [c]) = r ++ [c] := by
  have hl : trimLeft (r ++ [c]) = r ++ [c] := by
    cases r with
    | nil => exact trimLeft_of_head hc
    | cons d r => exact trimLeft_of_head h
  rw [trim, hl, trimRight, List.reverse_append, List.reverse_singleton, List.singleton_append,
    List.dropWhile_cons_of_neg (by simp [hc]), List.reverse_cons, List.reverse_reverse]

theorem trim_of_blank {cs : List Char} (h : ∀ c ∈ cs, isBlank c) : trim cs = [] := by
  have hl : trimLeft cs = [] := by
    induction cs with
    | nil => rfl
    | cons c cs ih =>
      rw [trimLeft, List.dropWhile_cons_of_pos (h c List.mem_cons_self)]
      exact ih fun d hd => h d (List.mem_cons_of_mem c hd)
  rw [trim, hl]
  rfl

theorem blank_of_trimLeft {cs : List Char} (h : trimLeft cs = []) : ∀ c ∈ cs, isBlank c := by
  induction cs with
  | nil => simp
  | cons a as ih =>
    by_cases ha : isBlank a
    · rw [trimLeft, List.dropWhile_cons_of_pos ha] at h
      exact List.forall_mem_cons.2 ⟨ha, ih h⟩
    · rw [trimLeft, List.dropWhile_cons_of_neg ha] at h
      cases h

theorem trim_eq_nil {cs : List Char} : trim cs = [] ↔ ∀ c ∈ cs, isBlank c := by
  refine ⟨fun h => ?_, trim_of_blank⟩
  cases hl : trimLeft cs with
  | nil => exact blank_of_trimLeft hl
  | cons c r =>
    -- The first character that is left is no white space, so trimming the end leaves it.
    rw [trim, hl, trimRight, List.reverse_eq_nil_iff] at h
    have hc : isBlank c := blank_of_trimLeft h c (by simp)
    rw [trimLeft_head hl] at hc
    cases hc

end GatewayPolicy.Text
