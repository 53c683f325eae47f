import GatewayPolicy.Proofs.Strings
import GatewayPolicy.Proofs.Vocabulary
/-!
# What a conforming reader sees

A reader of XML 1.0 takes legal characters only. It passes every line break on as a line feed, and
in values white space as blanks. Documents are written without references to characters, so the
reader gets their strings back just if these have no character of that kind.
-/

namespace GatewayPolicy

namespace Xml

/-! ## A conforming reader -/

/-- The characters that an XML text may have. -/
def isLegal (c : Char) : Bool :=
  c = '\t' || c = '\n' || c = '\r' || (0x20 ≤ c.toNat && c.toNat ≤ 0xD7FF) ||
    (0xE000 ≤ c.toNat && c.toNat ≤ 0xFFFD) || 0x10000 ≤ c.toNat

/-- A text with a line feed for every line break. -/
def lineFeeds : List Char → List Char
  | '\r' :: '\n' :: r => '\n' :: lineFeeds r
  | '\r' :: r => '\n' :: lineFeeds r
  | c :: r => c :: lineFeeds r
  | [] => []

def feeds (s : String) : String := String.ofList (lineFeeds s.toList)

/-- The characters that are read as blanks in values. -/
def breaks : List Char := ['\t', '\n', '\r']

/-- A value with blanks for its white space. -/
def blanks (v : String) : String := String.ofList (v.toList.map fun c => if c ∈ breaks then ' ' else c)

/-- What a reader gets from a text that it takes. No entity stands for white space, so it does not
matter that the entities of a value are resolved before its white space is replaced. -/
def conform (text : String) : Option Fragment :=
  if text.toList.all isLegal then (decode (feeds text)).map (·.mapStrings blanks id)
  else none

def Legal (cs : List Char) : Prop := ∀ c ∈ cs, isLegal c

def SurvivesAsValue (v : String) : Prop := ∀ c ∈ v.toList, isLegal c ∧ c ∉ breaks

def SurvivesAsText (x : String) : Prop := ∀ c ∈ x.toList, isLegal c ∧ c ≠ '\r'

instance : DecidablePred Legal := fun cs => List.decidableBAll (fun c => isLegal c) cs

instance : DecidablePred SurvivesAsValue := fun v => List.decidableBAll (fun c => isLegal c ∧ c ∉ breaks) v.toList

instance : DecidablePred SurvivesAsText := fun x => List.decidableBAll (fun c => isLegal c ∧ c ≠ '\r') x.toList

/-! ## Line breaks -/

theorem lineFeeds_cons {c : Char} (hc : c ≠ '\r') (r : List Char) : lineFeeds (c :: r) = c :: lineFeeds r := by
  rw [lineFeeds]
  all_goals simp [hc]

theorem lineFeeds_return {r : List Char} (hr : r.head? ≠ some '\n') : lineFeeds ('\r' :: r) = '\n' :: lineFeeds r := by
  rw [lineFeeds]
  rintro t rfl
  exact hr rfl

theorem lineFeeds_append {a : List Char} (ha : '\r' ∉ a) (r : List Char) : lineFeeds (a ++ r) = a ++ lineFeeds r := by
  induction a with
  | nil => rfl
  | cons c a ih =>
    rw [List.mem_cons, not_or] at ha
    rw [List.cons_append, lineFeeds_cons (Ne.symm ha.1), ih ha.2, List.cons_append]

theorem lineFeeds_eq {a : List Char} (ha : '\r' ∉ a) : lineFeeds a = a := by
  have h := lineFeeds_append ha []
  rwa [List.append_nil, lineFeeds, List.append_nil] at h

theorem return_not_mem_lineFeeds (a : List Char) : '\r' ∉ lineFeeds a := by
  induction a using lineFeeds.induct with
  | case1 r ih => simpa [lineFeeds] using ih
  | case2 r h ih => simpa [lineFeeds] using ih
  | case3 c r _ hc ih =>
    have hc : c ≠ '\r' := hc
    rw [lineFeeds_cons hc]
    simpa using ⟨hc.symm, ih⟩
  | case4 => simp [lineFeeds]

/-- Escaping puts no line feed in front. -/
theorem head?_flatMap_escapeChar {cs r : List Char} (hcs : cs.head? ≠ some '\n') (hr : r.head? ≠ some '\n') :
    (cs.flatMap escapeChar ++ r).head? ≠ some '\n' := by
  cases cs with
  | nil => exact hr
  | cons c cs =>
    have hc : c ≠ '\n' := by simpa using hcs
    have he : (escapeChar c).head? ≠ some '\n' := by
      unfold escapeChar
      split_ifs <;> simp [hc]
    have hn : escapeChar c ≠ [] := by
      unfold escapeChar
      split_ifs <;> simp
    rw [List.flatMap_cons, List.append_assoc, List.head?_append_of_ne_nil _ hn]
    exact he

theorem return_not_mem_escapeChar {c : Char} (hc : c ≠ '\r') : '\r' ∉ escapeChar c := by
  unfold escapeChar
  split_ifs <;> simp [hc.symm]

/-- A string before a mark has its line breaks to itself. -/
theorem lineFeeds_escape (s : String) {m : Char} (hm : m ≠ '\r' ∧ m ≠ '\n') (r : List Char) :
    lineFeeds (escape s ++ m :: r) = escape (feeds s) ++ m :: lineFeeds r := by
  simp only [escape, feeds, String.toList_ofList]
  -- Escaping leaves white space as it is, so the string is walked by its line breaks.
  induction s.toList using lineFeeds.induct with
  | case1 cs ih =>
    show lineFeeds ('\r' :: '\n' :: (cs.flatMap escapeChar ++ m :: r)) =
      '\n' :: ((lineFeeds cs).flatMap escapeChar ++ m :: lineFeeds r)
    rw [lineFeeds, ih]
  | case2 cs h ih =>
    have hcs : cs.head? ≠ some '\n' := by
      cases cs with
      | nil => simp
      | cons c cs => simpa using fun hc => h cs (by rw [hc])
    have hr : (m :: r).head? ≠ some '\n' := by simpa using hm.2
    rw [lineFeeds_return hcs]
    show lineFeeds ('\r' :: (cs.flatMap escapeChar ++ m :: r)) =
      '\n' :: ((lineFeeds cs).flatMap escapeChar ++ m :: lineFeeds r)
    rw [lineFeeds_return (head?_flatMap_escapeChar hcs hr), ih]
  | case3 c cs _ hc ih =>
    have hc : c ≠ '\r' := hc
    rw [lineFeeds_cons hc, List.flatMap_cons, List.append_assoc, lineFeeds_append (return_not_mem_escapeChar hc), ih,
      List.flatMap_cons, List.append_assoc]
  | case4 => exact lineFeeds_cons hm.1 r

/-! ## Line breaks of a document -/

theorem return_not_mem_vocabulary {name : String} (h : name ∈ vocabulary) : '\r' ∉ name.toList :=
  not_mem_of_isName (isName_of_mem_vocabulary _ h) rfl

section
variable {f : Fragment} {depth : Nat} {r : List Char}

theorem lineFeeds_attributes {a : Attributes} (ha : ∀ e ∈ a.entries, e.1 ∈ vocabulary) :
    lineFeeds (attributes a ++ r) = attributes (a.mapValues feeds) ++ lineFeeds r := by
  obtain ⟨es, hs⟩ := a
  simp only [attributes, Attributes.mapValues] at ha ⊢
  clear hs
  induction es with
  | nil => rfl
  | cons e es ih =>
    obtain ⟨he, ha⟩ := List.forall_mem_cons.1 ha
    have hn := lineFeeds_append (return_not_mem_vocabulary he)
    simp only [List.flatMap_cons, List.map_cons, List.cons_append, List.append_assoc, List.nil_append]
    simp (disch := decide) only [lineFeeds_cons, hn, lineFeeds_escape, ih ha]

theorem lineFeeds_tagBody (ht : f.tag ∈ vocabulary) (ha : ∀ e ∈ f.attributes.entries, e.1 ∈ vocabulary) :
    lineFeeds (tagBody f ++ r) = tagBody (f.mapStrings feeds feeds) ++ lineFeeds r := by
  obtain ⟨tag, as, x, cs⟩ := f
  rw [tagBody, List.append_assoc, lineFeeds_append (return_not_mem_vocabulary ht), lineFeeds_attributes ha,
    Fragment.mapStrings, tagBody, List.append_assoc]

theorem lineFeeds_lineBreak : lineFeeds (lineBreak depth ++ r) = lineBreak depth ++ lineFeeds r := by
  refine lineFeeds_append ?_ r
  simp [lineBreak, List.mem_replicate]

/-- The line breaks of a tree are those of its strings: none is made or lost between them. -/
def FeedsApart (f : Fragment) : Prop :=
  ∀ depth r, lineFeeds (element depth f ++ r) = element depth (f.mapStrings feeds feeds) ++ lineFeeds r

theorem lineFeeds_elements {fs : List Fragment} (h : ∀ f ∈ fs, FeedsApart f) :
    lineFeeds (elements depth true fs ++ r) =
      elements depth true (Fragment.mapStringsAll feeds feeds fs) ++ lineFeeds r := by
  induction fs with
  | nil => rfl
  | cons f fs ih =>
    obtain ⟨hf, hfs⟩ := List.forall_mem_cons.1 h
    simp only [elements, Fragment.mapStringsAll, if_true, List.append_assoc]
    rw [lineFeeds_lineBreak, hf, ih hfs]

theorem feedsApart (h : f.InVocabulary) : FeedsApart f := by
  induction h with
  | @intro f ht ha hc _ ih =>
    intro depth r
    have hb (r : List Char) := lineFeeds_tagBody (r := r) ht ha
    have hend := lineFeeds_append (return_not_mem_vocabulary ht)
    obtain ⟨tag, as, text, cs⟩ := f
    cases text with
    | some x =>
      -- With a text there are no children.
      obtain rfl : cs = [] := by simpa using hc
      simp only [Fragment.mapStrings, Fragment.mapStringsAll, Option.map_some, element_text] at hb ⊢
      simp (disch := decide) only [lineFeeds_cons, hb, lineFeeds_escape, hend]
    | none =>
      cases cs with
      | nil =>
        simp only [Fragment.mapStrings, Fragment.mapStringsAll, Option.map_none, element_empty] at hb ⊢
        simp (disch := decide) only [lineFeeds_cons, hb]
      | cons c cs =>
        have hcs (r : List Char) : lineFeeds (elements (depth + 1) true (c :: cs) ++ r) = _ := lineFeeds_elements ih
        simp only [Fragment.mapStrings, Fragment.mapStringsAll, Option.map_none, element_children] at hb hcs ⊢
        simp (disch := decide) only [lineFeeds_cons, hb, hcs, lineFeeds_lineBreak, hend]

end

/-! ## Legal characters of a document -/

theorem legal_nil : Legal [] := by
  simp [Legal]

theorem legal_cons {c : Char} {cs : List Char} : Legal (c :: cs) ↔ isLegal c ∧ Legal cs := List.forall_mem_cons

theorem legal_append {as bs : List Char} : Legal (as ++ bs) ↔ Legal as ∧ Legal bs := List.forall_mem_append

/-- Markup is legal, so it only matters what stands around it. -/
theorem legal_mark {c : Char} (hc : isLegal c) {cs : List Char} : Legal (c :: cs) ↔ Legal cs := by
  rw [legal_cons, and_iff_right hc]

theorem legal_of_mem_vocabulary : ∀ name ∈ vocabulary, Legal name.toList := by decide +kernel

theorem legal_escapeChar (c : Char) : Legal (escapeChar c) ↔ isLegal c := by
  unfold escapeChar
  split_ifs with h₁ h₂ h₃ h₄ h₅
  · subst h₁; exact iff_of_true (by decide) (by decide)
  · subst h₂; exact iff_of_true (by decide) (by decide)
  · subst h₃; exact iff_of_true (by decide) (by decide)
  · subst h₄; exact iff_of_true (by decide) (by decide)
  · subst h₅; exact iff_of_true (by decide) (by decide)
  · rw [legal_cons, and_iff_left legal_nil]

theorem legal_escape (s : String) : Legal (escape s) ↔ Legal s.toList := by
  unfold escape
  induction s.toList with
  | nil => rfl
  | cons c cs ih => rw [List.flatMap_cons, legal_append, legal_escapeChar, ih, legal_cons]

theorem legal_attributes {a : Attributes} (ha : ∀ e ∈ a.entries, e.1 ∈ vocabulary) :
    Legal (attributes a) ↔ ∀ e ∈ a.entries, Legal e.2.toList := by
  obtain ⟨es, hs⟩ := a
  simp only [attributes] at ha ⊢
  clear hs
  induction es with
  | nil => simp [legal_nil]
  | cons e es ih =>
    obtain ⟨he, ha⟩ := List.forall_mem_cons.1 ha
    have hn := legal_of_mem_vocabulary _ he
    rw [List.flatMap_cons, legal_append, ih ha, List.forall_mem_cons]
    simp (disch := decide) [legal_mark, legal_append, legal_escape, legal_nil, hn]

theorem legal_tagBody {f : Fragment} (ht : f.tag ∈ vocabulary) (ha : ∀ e ∈ f.attributes.entries, e.1 ∈ vocabulary) :
    Legal (tagBody f) ↔ ∀ e ∈ f.attributes.entries, Legal e.2.toList := by
  rw [tagBody, legal_append, legal_attributes ha, and_iff_right (legal_of_mem_vocabulary _ ht)]

theorem legal_lineBreak (depth : Nat) : Legal (lineBreak depth) := by
  intro c hc
  simp only [lineBreak, List.mem_cons, List.mem_replicate] at hc
  rcases hc with rfl | ⟨-, rfl⟩ <;> decide

theorem legal_elements {fs : List Fragment} {depth : Nat} :
    Legal (elements depth true fs) ↔ ∀ f ∈ fs, Legal (element depth f) := by
  induction fs with
  | nil => simp [elements, legal_nil]
  | cons f fs ih =>
    rw [elements, if_pos rfl, legal_append, legal_append, ih, and_iff_right (legal_lineBreak depth),
      List.forall_mem_cons]

/-- A rendered tree has legal characters just if its strings have. -/
theorem legal_element {f : Fragment} (h : f.InVocabulary) (depth : Nat) :
    Legal (element depth f) ↔ ∀ g ∈ f.preorder, g.HasStrings (Legal ·.toList) (Legal ·.toList) := by
  induction h generalizing depth with
  | @intro f ht ha hc _ ih =>
    have hb := legal_tagBody ht ha
    have hn := legal_of_mem_vocabulary _ ht
    have hl := legal_lineBreak depth
    rw [Fragment.forall_mem_preorder, Fragment.HasStrings, ← hb, ← forall₂_congr fun c hc => ih c hc (depth + 1),
      ← legal_elements]
    obtain ⟨tag, as, text, cs⟩ := f
    cases text with
    | some x =>
      obtain rfl : cs = [] := by simpa using hc
      simp (disch := decide) [element, elements, tagBody, legal_mark, legal_append, legal_nil, legal_escape, hn]
    | none =>
      cases cs with
      | nil => simp (disch := decide) [element, elements, tagBody, legal_mark, legal_append, legal_nil, hn]
      | cons c cs => simp (disch := decide) [element, tagBody, legal_mark, legal_append, legal_nil, hn, hl]

/-! ## Strings that are left alone -/

theorem feeds_eq_iff {s : String} : feeds s = s ↔ '\r' ∉ s.toList := by
  rw [← String.toList_inj, feeds, String.toList_ofList]
  constructor
  · intro h
    rw [← h]
    exact return_not_mem_lineFeeds _
  · exact lineFeeds_eq

theorem blanks_eq {s : String} (h : ∀ c ∈ s.toList, c ∉ breaks) : blanks s = s := by
  rw [← String.toList_inj, blanks, String.toList_ofList, Fragment.map_eq_self]
  exact fun c hc => if_neg (h c hc)

theorem not_mem_breaks_of_mem_blanks {s : String} {c : Char} (h : c ∈ (blanks s).toList) : c ∉ breaks := by
  rw [blanks, String.toList_ofList] at h
  obtain ⟨d, -, rfl⟩ := List.mem_map.1 h
  split
  · decide
  · assumption

theorem blanks_feeds_eq_iff {s : String} : blanks (feeds s) = s ↔ ∀ c ∈ s.toList, c ∉ breaks := by
  constructor
  · intro h c hc
    rw [← h] at hc
    exact not_mem_breaks_of_mem_blanks hc
  · intro h
    have hr : '\r' ∉ s.toList := fun hr => h _ hr (by decide)
    rw [feeds_eq_iff.2 hr, blanks_eq h]

/-! ## Reading a document -/

theorem inVocabulary_mapStrings {f : Fragment} (h : f.InVocabulary) (value text : String → String) :
    (f.mapStrings value text).InVocabulary := by
  induction h with
  | @intro f ht ha hc _ ih =>
    obtain ⟨tag, as, x, cs⟩ := f
    refine .intro ht (fun e he => ?_) ?_ fun c hm => ?_
    · obtain ⟨d, hd, rfl⟩ := List.mem_map.1 he
      exact ha d hd
    · rcases hc with rfl | rfl
      · exact .inl rfl
      · exact .inr rfl
    · rw [Fragment.mapStrings, Fragment.mapStringsAll_eq] at hm
      obtain ⟨d, hd, rfl⟩ := List.mem_map.1 hm
      exact ih d hd

theorem feeds_render {f : Fragment} (h : f.InVocabulary) : feeds (render f) = render (f.mapStrings feeds feeds) := by
  have he := feedsApart h 0 []
  rw [List.append_nil, lineFeeds, List.append_nil] at he
  rw [feeds, render, String.toList_ofList, he, render]

/-- What a reader sees of a tree, if its strings are legal. -/
theorem conform_render {f g : Fragment} (h : f.InVocabulary) :
    conform (render f) = some g ↔
      (∀ e ∈ f.preorder, e.HasStrings (Legal ·.toList) (Legal ·.toList)) ∧
        f.mapStrings (blanks ∘ feeds) feeds = g := by
  have hr : conform (render f) =
      if (element 0 f).all isLegal then some (f.mapStrings (blanks ∘ feeds) feeds) else none := by
    rw [conform, feeds_render h, decode_of_isPlain (inVocabulary_mapStrings h feeds feeds).isPlain, Option.map_some,
      Fragment.mapStrings_mapStrings, render, String.toList_ofList]
    rfl
  rw [hr, ← legal_element h 0, Legal, ← List.all_eq_true]
  split
  · next hl => simp [hl]
  · next hl => simp [hl]

theorem survivesAsValue_iff {v : String} : SurvivesAsValue v ↔ Legal v.toList ∧ (blanks ∘ feeds) v = v := by
  rw [Function.comp_apply, blanks_feeds_eq_iff, Legal, ← forall₂_and]
  rfl

theorem survivesAsText_iff {x : String} : SurvivesAsText x ↔ Legal x.toList ∧ feeds x = x := by
  have hr : '\r' ∉ x.toList ↔ ∀ c ∈ x.toList, c ≠ '\r' :=
    ⟨fun h c hc he => h (he ▸ hc), fun h hc => h _ hc rfl⟩
  rw [feeds_eq_iff, Legal, hr, ← forall₂_and]
  rfl

/-- A reader gets a tree back just if all of its strings survive. -/
theorem conform_render_eq_some_iff {f : Fragment} (h : f.InVocabulary) :
    conform (render f) = some f ↔ ∀ g ∈ f.preorder, g.HasStrings SurvivesAsValue SurvivesAsText := by
  rw [conform_render h, Fragment.mapStrings_eq_self, ← forall₂_and]
  refine forall₂_congr fun g _ => ?_
  simp only [Fragment.HasStrings, survivesAsValue_iff, survivesAsText_iff]
  rw [and_and_and_comm, ← forall₂_and, ← forall₂_and]

end Xml

/-! ## Compiled documents -/

namespace PolicyCompiler

/-- A reader gets all strings of a compiled document just if no value has white space but blanks, no
text has a carriage return, and none of them has a character that XML does not know. -/
theorem conform_toXml {c : PolicyCompiler} {d : Declaration} {doc : Document} (h : c.compile d = .ok doc) :
    Xml.conform doc.toXml = some doc.toFragment ↔
      ∀ f ∈ doc.toFragment.preorder, f.HasStrings Xml.SurvivesAsValue Xml.SurvivesAsText :=
  Xml.conform_render_eq_some_iff (toFragment_inVocabulary h)

theorem conform_toXml_branching :
    ∃ doc, (standard {}).compile branchingDeclaration = .ok doc ∧ Xml.conform doc.toXml = some doc.toFragment := by
  obtain ⟨doc, h, hs⟩ := exists_ok_and (x := (standard {}).compile branchingDeclaration)
    (P := fun doc => ∀ f ∈ doc.toFragment.preorder, f.HasStrings Xml.SurvivesAsValue Xml.SurvivesAsText)
    (by decide +kernel)
  exact ⟨doc, h, (conform_toXml h).2 hs⟩

/-- A choice by a lambda of several lines, with a comment on one of them. -/
def commentedDeclaration : Declaration :=
  let lambda := Node.anonymousFunction "context => \x7b\n  // any client\n  return context.Fresh;\n\x7d"
  let base := Node.block [.expressionStatement (.methodCall "context" "Base" [])]
  ⟨"Api", [.forSection "Inbound" (.block [.ifStatement lambda base])]⟩

/-- The lines of the lambda are joined, so the comment goes on to its end. -/
theorem conform_toXml_commented :
    ∃ doc seen, (standard {}).compile commentedDeclaration = .ok doc ∧ Xml.conform doc.toXml = some seen ∧
      seen ≠ doc.toFragment ∧
      ∃ f ∈ seen.preorder, f.attribute? "condition" = some "@\x7b   // any client   return context.Fresh; \x7d" := by
  obtain ⟨doc, h, hl, hs⟩ := exists_ok_and (x := (standard {}).compile commentedDeclaration)
    (P := fun doc =>
      let seen := doc.toFragment.mapStrings (Xml.blanks ∘ Xml.feeds) Xml.feeds
      (∀ f ∈ doc.toFragment.preorder, f.HasStrings (Xml.Legal ·.toList) (Xml.Legal ·.toList)) ∧
        seen ≠ doc.toFragment ∧
        ∃ f ∈ seen.preorder, f.attribute? "condition" = some "@\x7b   // any client   return context.Fresh; \x7d")
    (by decide +kernel)
  exact ⟨doc, _, h, (Xml.conform_render (toFragment_inVocabulary h)).2 ⟨hl, rfl⟩, hs⟩

end PolicyCompiler

end GatewayPolicy
