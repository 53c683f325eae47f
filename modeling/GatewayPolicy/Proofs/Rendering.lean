import GatewayPolicy.Proofs.Tags
/-!
# Rendered fragments are read back

A reader goes through an XML text from tag to tag and keeps the elements that are open. What
stands before a tag is a text if the tag ends an element without children, and is passed over
before any other tag. So the line breaks between elements are of no account, and an element with
an empty text differs from one without text.
-/

namespace GatewayPolicy

namespace Xml

/-! ## Reading from tag to tag -/

/-- An element at its end tag. If it has no children, what stands before the end tag is its text. -/
def closed (data : List Char) (e : Fragment) : Fragment :=
  if e.children.isEmpty then e.withText (String.ofList (resolve data)) else e

/-- What a tag with some characters before it makes of the open elements, innermost first. -/
def step (data : List Char) : List Char → List Fragment → Option (List Fragment)
  | '/' :: name, e :: p :: s => if e.tag = String.ofList name then some (p.withChild (closed data e) :: s) else none
  | '/' :: _, _ => none
  | body, s =>
    match readTag body, s with
    | some (e, false), s => some (e :: s)
    | some (e, true), p :: s => some (p.withChild e :: s)
    | _, _ => none

/-- What a text makes of the open elements. -/
def read (cs : List Char) (s : List Fragment) : Option (List Fragment) :=
  match _h₁ : cut '<' cs with
  | none => if cs.isEmpty then some s else none
  | some (data, r₁) =>
    match _h₂ : cut '>' r₁ with
    | none => none
    | some (body, r₂) => (step data body s).bind (read r₂)
termination_by cs.length
decreasing_by
  have h₁ := cut_length _h₁
  have h₂ := cut_length _h₂
  omega

/-- The only element of an XML text. -/
def decode (text : String) : Option Fragment :=
  match read text.toList [.empty ""] with
  | some [⟨_, _, _, [f]⟩] => some f
  | _ => none

/-! ## One tag -/

section
variable {data body r : List Char} {f p e : Fragment} {s : List Fragment}

theorem read_tag (hd : '<' ∉ data) (hb : '>' ∉ body) :
    read (data ++ '<' :: (body ++ '>' :: r)) s = (step data body s).bind (read r) := by
  rw [read]
  split
  · next h => cases (cut_append hd _).symm.trans h
  · next h₁ =>
    cases (cut_append hd _).symm.trans h₁
    split
    · next h₂ => cases (cut_append hb _).symm.trans h₂
    · next h₂ =>
      cases (cut_append hb _).symm.trans h₂
      rfl

theorem step_of_ne {c : Char} (hc : c ≠ '/') :
    step data (c :: body) s =
      match readTag (c :: body), s with
      | some (e, false), s => some (e :: s)
      | some (e, true), p :: s => some (p.withChild e :: s)
      | _, _ => none := by
  rw [step.eq_def]
  split
  · next h => exact absurd (List.cons.inj h).1 hc
  · next h _ => exact absurd (List.cons.inj h).1 hc
  · rfl

theorem tagBody_head (ht : isName f.tag) : ∃ c r, tagBody f = c :: r ∧ c ≠ '/' := by
  obtain ⟨c, r, hs, hc⟩ := exists_cons_of_isName ht
  refine ⟨c, r ++ attributes f.attributes, by rw [tagBody, hs, List.cons_append], ?_⟩
  rintro rfl
  cases hc

/-- A start tag opens an element. -/
theorem read_start (hd : '<' ∉ data) (ht : isName f.tag) (ha : ∀ e ∈ f.attributes.entries, isName e.1) :
    read (data ++ '<' :: (tagBody f ++ '>' :: r)) s = read r (⟨f.tag, f.attributes, none, []⟩ :: s) := by
  have hb := tagBody_closed ht ha false
  have hr := readTag_tagBody ht ha false
  rw [tagEnd, if_neg Bool.false_ne_true, List.append_nil] at hb hr
  obtain ⟨c, b, hf, hc⟩ := tagBody_head ht
  rw [hf] at hb hr ⊢
  rw [read_tag hd hb, step_of_ne hc, hr]
  rfl

/-- An empty tag is a whole element. -/
theorem read_empty (hd : '<' ∉ data) (ht : isName f.tag) (ha : ∀ e ∈ f.attributes.entries, isName e.1) :
    read (data ++ '<' :: (tagBody f ++ '/' :: '>' :: r)) (p :: s) =
      read r (p.withChild ⟨f.tag, f.attributes, none, []⟩ :: s) := by
  have hb := tagBody_closed ht ha true
  have hr := readTag_tagBody ht ha true
  rw [tagEnd, if_pos rfl] at hb hr
  obtain ⟨c, b, hf, hc⟩ := tagBody_head ht
  rw [hf, List.cons_append] at hb hr
  rw [List.append_cons (tagBody f), hf, List.cons_append, read_tag hd hb, step_of_ne hc, hr]
  rfl

/-- An end tag closes the innermost element. -/
theorem read_end (hd : '<' ∉ data) (ht : isName e.tag) :
    read (data ++ '<' :: '/' :: (e.tag.toList ++ '>' :: r)) (e :: p :: s) =
      read r (p.withChild (closed data e) :: s) := by
  have hb : '>' ∉ '/' :: e.tag.toList := by simp [not_mem_of_isName ht, isNameChar]
  rw [← List.cons_append, read_tag hd hb, step, if_pos String.ofList_toList.symm]
  rfl

end

/-! ## Elements as they are written -/

section
variable (depth : Nat) (tag : String) (a : Attributes) (r : List Char)

theorem element_empty :
    element depth ⟨tag, a, none, []⟩ ++ r = '<' :: (tagBody ⟨tag, a, none, []⟩ ++ '/' :: '>' :: r) := by
  simp [element]

theorem element_text (x : String) :
    element depth ⟨tag, a, some x, []⟩ ++ r =
      '<' :: (tagBody ⟨tag, a, some x, []⟩ ++ '>' :: (escape x ++ '<' :: '/' :: (tag.toList ++ '>' :: r))) := by
  simp [element, elements]

theorem element_children (c : Fragment) (cs : List Fragment) :
    element depth ⟨tag, a, none, c :: cs⟩ ++ r =
      '<' :: (tagBody ⟨tag, a, none, c :: cs⟩ ++ '>' :: (elements (depth + 1) true (c :: cs) ++
        (lineBreak depth ++ '<' :: '/' :: (tag.toList ++ '>' :: r)))) := by
  simp [element]

theorem lineBreak_closed : '<' ∉ lineBreak depth := by
  simp [lineBreak, List.mem_replicate]

end

end Xml

/-! ## Trees -/

/-- A fragment with plain names, all the way down, and with text or children but not both. -/
inductive Fragment.IsPlain : Fragment → Prop
  | intro {f : Fragment} (tag : Xml.isName f.tag) (attributes : ∀ e ∈ f.attributes.entries, Xml.isName e.1)
    (content : f.text = none ∨ f.children = []) (children : ∀ c ∈ f.children, c.IsPlain) : f.IsPlain

namespace Xml

/-- Wherever an element stands, it is read as a child of the element that is open there. -/
def ReadsAsChild (f : Fragment) : Prop :=
  ∀ (depth : Nat) (data r : List Char) (p : Fragment) (s : List Fragment), '<' ∉ data →
    read (data ++ (element depth f ++ r)) (p :: s) = read r (p.withChild f :: s)

theorem read_elements {fs : List Fragment} (h : ∀ f ∈ fs, ReadsAsChild f) (depth : Nat) (r : List Char) (p : Fragment)
    (s : List Fragment) : read (elements depth true fs ++ r) (p :: s) = read r (p.withChildren fs :: s) := by
  induction fs generalizing p with
  | nil =>
    cases p
    simp [elements, Fragment.withChildren]
  | cons f fs ih =>
    obtain ⟨hf, hfs⟩ := List.forall_mem_cons.1 h
    rw [elements, if_pos rfl, List.append_assoc, List.append_assoc, hf depth _ _ p s (lineBreak_closed depth), ih hfs]
    simp [Fragment.withChild, Fragment.withChildren]

theorem readsAsChild {f : Fragment} (h : f.IsPlain) : ReadsAsChild f := by
  induction h with
  | @intro f ht ha hc _ ih =>
    intro depth data r p s hd
    obtain ⟨tag, a, text, cs⟩ := f
    match text, cs, hc with
    | none, [], _ => rw [element_empty, read_empty hd ht ha]
    | some x, [], _ =>
      -- The element is still without children at its end tag, so what stands before it is the text.
      have hx : '<' ∉ escape x := marks_escape (by decide) x
      have hc : closed (escape x) ⟨tag, a, none, []⟩ = ⟨tag, a, some x, []⟩ := by
        simp [closed, Fragment.withText, resolve_escape]
      have he := read_end (e := ⟨tag, a, none, []⟩) (r := r) (p := p) (s := s) hx ht
      rw [hc] at he
      rw [element_text, read_start hd ht ha, he]
    | none, c :: cs, _ =>
      -- With children, the line break before the end tag is no text.
      rw [element_children, read_start hd ht ha, read_elements ih]
      exact read_end (e := ⟨tag, a, none, c :: cs⟩) (lineBreak_closed depth) ht

theorem decode_of_isPlain {f : Fragment} (h : f.IsPlain) : decode (render f) = some f := by
  have hr := readsAsChild h 0 [] [] (.empty "") [] List.not_mem_nil
  have hn : read [] [(Fragment.empty "").withChild f] = some [(Fragment.empty "").withChild f] := by
    rw [read]
    rfl
  rw [List.nil_append, List.append_nil, hn] at hr
  rw [decode, render, String.toList_ofList, hr]
  rfl

/-- A plain fragment is read back from its rendering, with its tags, attributes and texts and its
children in order, so no other plain fragment is rendered alike. -/
theorem decode_render {f : Fragment} (h : f.IsPlain) :
    decode (render f) = some f ∧ ∀ g : Fragment, g.IsPlain → render g = render f → g = f := by
  refine ⟨decode_of_isPlain h, fun g hg he => ?_⟩
  have hf := decode_of_isPlain h
  rw [← he, decode_of_isPlain hg] at hf
  exact Option.some.inj hf

/-- An element without text, one with an empty text, and one with quotes, entities and a line break. -/
def echoInbound : Fragment :=
  (Fragment.empty "inbound").withChildren
    [.empty "base", (Fragment.empty "value").withText "",
      ((Fragment.empty "set-body").withAttribute "template" "'\"x\" > y'").withText "a < b\n    & c"]

theorem decode_render_echo :
    echoInbound.IsPlain ∧ decode (render echoInbound) = some echoInbound ∧
      ∀ g : Fragment, g.IsPlain → render g = render echoInbound → g = echoInbound := by
  have hc : ∀ c ∈ echoInbound.children,
      isName c.tag ∧ (∀ e ∈ c.attributes.entries, isName e.1) ∧ c.children = [] := by decide
  have h : echoInbound.IsPlain := by
    refine .intro (by decide) (by decide) (.inl rfl) fun c hm => ?_
    obtain ⟨ht, ha, hn⟩ := hc c hm
    exact .intro ht ha (.inr hn) fun d hd => by simp [hn] at hd
  exact ⟨h, decode_render h⟩

end Xml

end GatewayPolicy
