/-!
# The lambda arrow

A lambda is written `parameters => body`. A text is cut at its first arrow.
-/

namespace GatewayPolicy.Text

/-- What stands before and after the first `=>` of a text, if it has one. -/
def splitArrow : List Char → Option (List Char × List Char)
  | [] => none
  | '=' :: '>' :: r => some ([], r)
  | c :: r => (splitArrow r).map fun (a, b) => (c :: a, b)

/-- Whether a text contains `=>`. -/
def hasArrow (s : String) : Bool := (splitArrow s.toList).isSome

theorem splitArrow_eq {cs a b : List Char} (h : splitArrow cs = some (a, b)) : cs = a ++ '=' :: '>' :: b := by
  fun_induction splitArrow cs generalizing a b with
  | case1 => simp at h
  | case2 r => simp at h; obtain ⟨rfl, rfl⟩ := h; rfl
  | case3 c r _ ih =>
    obtain ⟨⟨a', b'⟩, hs, he⟩ := Option.map_eq_some_iff.1 h
    simp at he
    obtain ⟨rfl, rfl⟩ := he
    simp [ih hs]

end GatewayPolicy.Text
