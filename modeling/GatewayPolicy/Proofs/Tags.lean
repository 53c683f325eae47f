import GatewayPolicy.Policy.Xml
import Mathlib.Tactic.SplitIfs
/-!
# Reading tags

What stands between the angle brackets of a tag is read: a name, attributes with their values
between double quotes, and a slash if the element is empty. A written tag is read as the tag and
the attributes that it was written for, since no value has a quote of its own once it is escaped.
-/

namespace GatewayPolicy

/-- A name that is smaller than all others is written in front of them. -/
theorem Entries.put_of_lt {α : Type} {k : String} {v : α} {es : Entries α} (h : ∀ p ∈ es, k < p.1) :
    es.put k v = (k, v) :: es := by
  cases es with
  | nil => rfl
  | cons p es => rw [put, if_pos (h p List.mem_cons_self)]

namespace Xml

/-! ## Entities -/

/-- A text with the five entities resolved. -/
def resolve : List Char → List Char
  | '&' :: 'l' :: 't' :: ';' :: r => '<' :: resolve r
  | '&' :: 'g' :: 't' :: ';' :: r => '>' :: resolve r
  | '&' :: 'a' :: 'm' :: 'p' :: ';' :: r => '&' :: resolve r
  | '&' :: 'a' :: 'p' :: 'o' :: 's' :: ';' :: r => '\'' :: resolve r
  | '&' :: 'q' :: 'u' :: 'o' :: 't' :: ';' :: r => '"' :: resolve r
  | c :: r => c :: resolve r
  | [] => []

theorem resolve_escapeChar (c : Char) (r : List Char) : resolve (escapeChar c ++ r) = c :: resolve r := by
  unfold escapeChar
  split_ifs with h₁ h₂ h₃ h₄ h₅
  · subst h₁; rfl
  · subst h₂; rfl
  · subst h₃; rfl
  · subst h₄; rfl
  · subst h₅; rfl
  · -- Only an ampersand begins an entity.
    show resolve (c :: r) = _
    rw [resolve]
    all_goals simp [h₃]

theorem resolve_escape (s : String) : resolve (escape s) = s.toList := by
  unfold escape
  induction s.toList with
  | nil => rfl
  | cons c cs ih => rw [List.flatMap_cons, resolve_escapeChar, ih]

/-- The characters of markup that no escaped text has. -/
def marks : List Char := ['<', '>', '"']

theorem marks_escape {m : Char} (hm : m ∈ marks) (s : String) : m ∉ escape s := by
  intro h
  obtain ⟨c, -, hc⟩ := List.mem_flatMap.1 h
  simp only [marks, List.mem_cons, List.not_mem_nil, or_false] at hm
  unfold escapeChar at hc
  split_ifs at hc with h₁ h₂ h₃ h₄ h₅
  case neg =>
    rw [List.mem_singleton] at hc
    subst hc
    simp_all
  all_goals
    rcases hm with rfl | rfl | rfl
    all_goals revert hc; decide

/-! ## Cutting a text -/

/-- What stands before and after the first occurrence of a character. -/
def cut (c : Char) : List Char → Option (List Char × List Char)
  | [] => none
  | d :: r => if d = c then some ([], r) else (cut c r).map fun (a, b) => (d :: a, b)

theorem cut_append {c : Char} {a : List Char} (h : c ∉ a) (b : List Char) : cut c (a ++ c :: b) = some (a, b) := by
  induction a with
  | nil => exact if_pos rfl
  | cons d a ih =>
    rw [List.mem_cons, not_or] at h
    rw [List.cons_append, cut, if_neg (Ne.symm h.1), ih h.2]
    rfl

theorem cut_length {c : Char} {cs a b : List Char} (h : cut c cs = some (a, b)) : b.length < cs.length := by
  induction cs generalizing a with
  | nil => cases h
  | cons d cs ih =>
    rw [cut] at h
    split_ifs at h
    · cases h
      simp
    · obtain ⟨⟨a', b'⟩, hc, he⟩ := Option.map_eq_some_iff.1 h
      cases he
      exact Nat.lt_succ_of_lt (ih hc)

/-! ## Names -/

/-- The characters of names: letters, digits and hyphens. Beyond ASCII nothing is told apart. -/
def isNameChar (c : Char) : Bool := c.isAlphanum || c = '-' || 127 < c.toNat

/-- A plain name begins with a letter of ASCII. -/
def isName (s : String) : Bool := s.toList.head?.any Char.isAlpha && s.toList.all isNameChar

section
variable {s : String} (h : isName s)
include h

theorem isNameChar_of_isName : ∀ c ∈ s.toList, isNameChar c := by
  rw [isName, Bool.and_eq_true, List.all_eq_true] at h
  exact h.2

theorem not_mem_of_isName {c : Char} (hc : isNameChar c = false) : c ∉ s.toList := by
  intro hm
  rw [isNameChar_of_isName h c hm] at hc
  cases hc

theorem exists_cons_of_isName : ∃ c r, s.toList = c :: r ∧ isNameChar c := by
  have hn : s.toList ≠ [] := by
    intro hs
    rw [isName, hs] at h
    cases h
  obtain ⟨c, r, hs⟩ := List.exists_cons_of_ne_nil hn
  exact ⟨c, r, hs, isNameChar_of_isName h c (by simp [hs])⟩

end

/-! ## Tags -/

/-- An attribute and what follows it. -/
def readAttribute (cs : List Char) : Option ((String × String) × List Char) := do
  let (name, r) ← cut '=' cs
  match r with
  | '"' :: r =>
    let (value, rest) ← cut '"' r
    return ((String.ofList name, String.ofList (resolve value)), rest)
  | _ => none

theorem readAttribute_length {cs r : List Char} {a : String × String} (h : readAttribute cs = some (a, r)) :
    r.length < cs.length := by
  obtain ⟨⟨name, r₁⟩, h₁, h⟩ := Option.bind_eq_some_iff.1 h
  dsimp only at h
  split at h
  · obtain ⟨⟨value, r₂⟩, h₂, h⟩ := Option.bind_eq_some_iff.1 h
    cases h
    have hl₁ := cut_length h₁
    have hl₂ := cut_length h₂
    rw [List.length_cons] at hl₁
    show r₂.length < cs.length
    omega
  · cases h

/-- The attributes of a tag, and whether the tag stands for an empty element. -/
def readAttributes : List Char → Option (Attributes × Bool)
  | [] => some (.empty, false)
  | ['/'] => some (.empty, true)
  | ' ' :: cs =>
    match _h : readAttribute cs with
    | some ((name, value), r) => (readAttributes r).map fun (a, e) => (a.set name value, e)
    | none => none
  | _ => none
termination_by cs => cs.length
decreasing_by
  have h := readAttribute_length _h
  simp only [List.length_cons]
  omega

/-- The element that a tag begins, still without its content, and whether it is empty. -/
def readTag (cs : List Char) : Option (Fragment × Bool) :=
  (readAttributes (cs.dropWhile isNameChar)).map fun (a, e) =>
    (⟨String.ofList (cs.takeWhile isNameChar), a, none, []⟩, e)

theorem readAttribute_eq {name : String} (hn : isName name) (value : String) (r : List Char) :
    readAttribute (name.toList ++ '=' :: '"' :: (escape value ++ '"' :: r)) = some ((name, value), r) := by
  have hq : '"' ∉ escape value := marks_escape (by decide) value
  rw [readAttribute, cut_append (not_mem_of_isName hn rfl)]
  show (cut '"' (escape value ++ '"' :: r)).bind _ = _
  rw [cut_append hq]
  simp [resolve_escape]

/-- How a tag goes on after its name and attributes. -/
def tagEnd (isEmpty : Bool) : List Char := if isEmpty then ['/'] else []

theorem readAttributes_attributes {a : Attributes} (h : ∀ e ∈ a.entries, isName e.1) (isEmpty : Bool) :
    readAttributes (attributes a ++ tagEnd isEmpty) = some (a, isEmpty) := by
  obtain ⟨es, hs⟩ := a
  induction es with
  | nil => cases isEmpty <;> simp [attributes, tagEnd, readAttributes] <;> rfl
  | cons e es ih =>
    obtain ⟨name, value⟩ := e
    obtain ⟨hlt, hes⟩ := List.pairwise_cons.1 hs
    obtain ⟨hn, h⟩ := List.forall_mem_cons.1 h
    have ha : attributes ⟨(name, value) :: es, hs⟩ ++ tagEnd isEmpty =
        ' ' :: (name.toList ++ '=' :: '"' :: (escape value ++ '"' :: (attributes ⟨es, hes⟩ ++ tagEnd isEmpty))) := by
      simp [attributes]
    -- The first name is the smallest, so it is written in front of the attributes that follow it.
    have hr := readAttribute_eq hn value (attributes ⟨es, hes⟩ ++ tagEnd isEmpty)
    rw [ha, readAttributes]
    split
    · next he =>
      cases hr.symm.trans he
      rw [ih hes h]
      simp only [Option.map_some, Attributes.set, Entries.put_of_lt hlt]
    · next he => cases hr.symm.trans he

/-- A name ends where the attributes begin, or the tag. -/
theorem attributes_head (a : Attributes) (isEmpty : Bool) :
    attributes a ++ tagEnd isEmpty = [] ∨
      ∃ c r, attributes a ++ tagEnd isEmpty = c :: r ∧ isNameChar c = false := by
  obtain ⟨es, hs⟩ := a
  cases es with
  | cons e es => exact .inr ⟨' ', _, rfl, rfl⟩
  | nil =>
    cases isEmpty with
    | false => exact .inl rfl
    | true => exact .inr ⟨'/', [], rfl, rfl⟩

theorem readTag_tagBody {f : Fragment} (ht : isName f.tag) (ha : ∀ e ∈ f.attributes.entries, isName e.1)
    (isEmpty : Bool) : readTag (tagBody f ++ tagEnd isEmpty) = some (⟨f.tag, f.attributes, none, []⟩, isEmpty) := by
  have hc := isNameChar_of_isName ht
  have hr := readAttributes_attributes ha isEmpty
  rw [tagBody, List.append_assoc, readTag, List.dropWhile_append_of_pos hc, List.takeWhile_append_of_pos hc]
  rcases attributes_head f.attributes isEmpty with he | ⟨c, r, he, hn⟩
  · rw [he] at hr ⊢
    simp [hr]
  · rw [he] at hr ⊢
    simp [hr, hn]

/-- Escaped values leave a tag without the sign that ends it. -/
theorem tagBody_closed {f : Fragment} (ht : isName f.tag) (ha : ∀ e ∈ f.attributes.entries, isName e.1)
    (isEmpty : Bool) : '>' ∉ tagBody f ++ tagEnd isEmpty := by
  have he : '>' ∉ tagEnd isEmpty := by cases isEmpty <;> decide
  have hv : '>' ∉ attributes f.attributes := by
    intro h
    obtain ⟨⟨name, value⟩, hm, h⟩ := List.mem_flatMap.1 h
    have hn : '>' ∉ name.toList := not_mem_of_isName (ha _ hm) rfl
    have hx : '>' ∉ escape value := marks_escape (by decide) value
    simp [hn, hx] at h
  simp [tagBody, not_mem_of_isName ht, hv, he, show isNameChar '>' = false from rfl]

end Xml

end GatewayPolicy
