import GatewayPolicy.Compile.Extract
import GatewayPolicy.Proofs.Escapes
import GatewayPolicy.Proofs.Outcome
import GatewayPolicy.Source.Text
import Mathlib.Data.List.Forall2
import Mathlib.Data.List.TakeWhile
/-!
# Interpolated strings keep their meaning

The gateway evaluates a template from left to right: an item of escaped text gives its
character, a look-up gives the value of the variable. Raw texts and look-ups stand side by
side in a template, and the evaluation finds every boundary between them again.
-/

namespace GatewayPolicy

/-! ## Templates -/

namespace Text

/-- The character of an escape, after its backslash, and the text that follows. -/
def readEscape : List Char → Option (Char × List Char)
  | [] => none
  | e :: r =>
    if e = 'u' then if r.length < 4 then none else (codeEscape (r.take 4)).map (·, r.drop 4)
    else (simpleEscape e).map (·, r)

/-- The character of the first item of a text, and the text that follows. -/
def readItem : List Char → Option (Char × List Char)
  | [] => none
  | c :: r =>
    if isPlain c then some (c, r)
    else if c = '\\' then readEscape r
    else if r.head? = some c then some (c, r.tail)
    else none

variable {i r : List Char} {x : Char}

theorem readItem_item (h : Item i x) (r : List Char) : readItem (i ++ r) = some (x, r) := by
  cases h with
  | opening => rfl
  | closing => rfl
  | simple h =>
    have he := simpleEscape_cases h
    simp only [List.mem_cons, List.not_mem_nil, or_false] at he
    rcases he with rfl | rfl | rfl | rfl | rfl | rfl | rfl
    all_goals
      cases h
      rfl
  | code h => simp [readItem, readEscape, isPlain, h]
  | plain h => simp [readItem, h]

theorem readItem_length {cs : List Char} (h : readItem cs = some (x, r)) : r.length < cs.length := by
  cases cs with
  | nil => cases h
  | cons c cs =>
    simp only [readItem] at h
    split_ifs at h
    · cases h
      simp
    · cases cs with
      | nil => cases h
      | cons e cs =>
        simp only [readEscape] at h
        split_ifs at h
        · obtain ⟨y, -, he⟩ := Option.map_eq_some_iff.1 h
          cases he
          simp only [List.length_drop, List.length_cons]
          omega
        · obtain ⟨y, -, he⟩ := Option.map_eq_some_iff.1 h
          cases he
          simp only [List.length_cons]
          omega
    · cases h
      simp only [List.length_tail, List.length_cons]
      omega

end Text

/-- What stands in a look-up before the name of the variable. -/
def holeStart (o : Options) : List Char :=
  '\x7b' :: (o.contextParameter.toList ++ '.' :: (o.variablesMember.toList ++ ['[', '"']))

/-- The variable of the look-up that a text begins with, and the text after it. -/
def readHole (o : Options) (cs : List Char) : Option (String × List Char) :=
  if holeStart o <+: cs then
    let r := cs.drop (holeStart o).length
    match r.dropWhile (· ≠ '"') with
    | '"' :: ']' :: '\x7d' :: rest => some (String.ofList (r.takeWhile (· ≠ '"')), rest)
    | _ => none
  else none

theorem readHole_length {o : Options} {cs rest : List Char} {name : String} (h : readHole o cs = some (name, rest)) :
    rest.length < cs.length := by
  unfold readHole at h
  split_ifs at h
  dsimp only at h
  split at h
  · next he =>
    cases h
    have hl := (List.dropWhile_suffix (p := fun c => decide (c ≠ '"')) (l := cs.drop (holeStart o).length)).length_le
    rw [he] at hl
    simp only [List.length_cons, List.length_drop] at hl
    omega
  · cases h

/-- The characters of a template when the variables have the values of `store`, if the whole template
is made of look-ups and items. -/
def evalTemplate (o : Options) (store : String → String) : List Char → Option (List Char)
  | [] => some []
  | c :: cs =>
    match _h : readHole o (c :: cs) with
    | some (name, r) => (evalTemplate o store r).map ((store name).toList ++ ·)
    | none =>
      match _h : Text.readItem (c :: cs) with
      | some (x, r) => (evalTemplate o store r).map (x :: ·)
      | none => none
termination_by cs => cs.length
decreasing_by
  · exact readHole_length _h
  · exact Text.readItem_length _h

/-! ## Evaluation part by part -/

section
variable {o : Options} {store : String → String} {cs r v : List Char} {x : Char} {name : String}

theorem evalTemplate_hole (h : readHole o cs = some (name, r)) :
    evalTemplate o store cs = (evalTemplate o store r).map ((store name).toList ++ ·) := by
  cases cs with
  | nil => cases h
  | cons c cs =>
    rw [evalTemplate]
    split
    · next h' => cases h.symm.trans h'; rfl
    · next h' => cases h.symm.trans h'

theorem evalTemplate_item (hn : readHole o cs = none) (h : Text.readItem cs = some (x, r)) :
    evalTemplate o store cs = (evalTemplate o store r).map (x :: ·) := by
  cases cs with
  | nil => cases h
  | cons c cs =>
    rw [evalTemplate]
    split
    · next h' => cases hn.symm.trans h'
    · split
      · next h' => cases h.symm.trans h'; rfl
      · next h' => cases h.symm.trans h'

/-- No look-up begins where an item begins: its brace is followed by a name and not doubled. -/
theorem readHole_item {i : List Char} (hp : o.contextParameter.toList.head? ≠ some '\x7b') (h : Text.Item i x)
    (r : List Char) : readHole o (i ++ r) = none := by
  refine if_neg fun hs => ?_
  rw [holeStart] at hs
  cases h with
  | opening =>
    rw [List.cons_append, List.cons_prefix_cons] at hs
    obtain ⟨-, hs⟩ := hs
    cases hl : o.contextParameter.toList with
    | nil => simp [hl] at hs
    | cons c cs =>
      rw [hl, List.cons_append, List.cons_append, List.cons_prefix_cons] at hs
      simp [hl, hs.1] at hp
  | closing | simple | code => simp at hs
  | plain h =>
    rw [List.cons_append, List.cons_prefix_cons] at hs
    rw [← hs.1] at h
    cases h

theorem evalTemplate_escaped (hp : o.contextParameter.toList.head? ≠ some '\x7b') (h : Text.Escaped cs v)
    (r : List Char) : evalTemplate o store (cs ++ r) = (evalTemplate o store r).map (v ++ ·) := by
  induction h with
  | nil => simp
  | cons hi _ ih =>
    rw [List.append_assoc, evalTemplate_item (readHole_item hp hi _) (Text.readItem_item hi _), ih, Option.map_map]
    rfl

theorem readHole_source (hq : '"' ∉ name.toList) (r : List Char) :
    readHole o (((TemplatePart.hole name).source o).toList ++ r) = some (name, r) := by
  have hs : ((TemplatePart.hole name).source o).toList ++ r =
      holeStart o ++ (name.toList ++ '"' :: ']' :: '\x7d' :: r) := by
    simp [TemplatePart.source, holeStart]
  have hc : ∀ c ∈ name.toList, decide (c ≠ '"') = true := fun c hc => by
    rw [decide_eq_true_eq]
    rintro rfl
    exact hq hc
  rw [hs, readHole, if_pos (List.prefix_append _ _), List.drop_left]
  dsimp only
  rw [List.dropWhile_append_of_pos hc, List.takeWhile_append_of_pos hc]
  simp

end

/-! ## Parts -/

/-- What a part of an interpolated string gives for the values of the variables: a text gives the
characters that it stands for, a hole the value of the variable that it names. -/
inductive PartMeaning : Node → ((String → String) → String) → Prop
  | text {n v} : n.kind = .interpolatedText → Text.unescape n.name.toList = some v →
      PartMeaning n fun _ => String.ofList v
  | hole {n e} : n.kind = .interpolation → n.expression = some e → e.kind = .identifier → '"' ∉ e.name.toList →
      PartMeaning n fun store => store e.name

/-- The same for a part that was read. -/
inductive TemplatePart.Means : TemplatePart → ((String → String) → String) → Prop
  | text {raw v} : Text.Escaped raw.toList v → Means (.text raw) fun _ => String.ofList v
  | hole {name} : '"' ∉ name.toList → Means (.hole name) fun store => store name

section
variable {o : Options} {ns : List Node} {ps : List TemplatePart} {fs : List ((String → String) → String)}

theorem PartMeaning.ofNode {n : Node} {f : (String → String) → String} (h : PartMeaning n f) :
    ∃ p, TemplatePart.ofNode n = .ok p ∧ p.Means f ∧ (p.isHole ↔ n.kind = .interpolation) := by
  cases h with
  | text hk hv =>
    refine ⟨.text n.name, by rw [TemplatePart.ofNode, hk], .text (Text.unescape_eq_some_iff.1 hv), ?_⟩
    simp [TemplatePart.isHole, hk]
  | @hole e hk he hi hq =>
    refine ⟨.hole e.name, by simp [TemplatePart.ofNode, hk, he, hi], .hole hq, ?_⟩
    simp [TemplatePart.isHole, hk]

/-- The parts of an interpolated string are read one for one. -/
theorem ofNode_parts (h : List.Forall₂ PartMeaning ns fs) :
    ∃ ps, ns.mapM TemplatePart.ofNode = .ok ps ∧ List.Forall₂ TemplatePart.Means ps fs ∧
      (ps.any TemplatePart.isHole ↔ ∃ n ∈ ns, n.kind = .interpolation) := by
  induction h with
  | nil => exact ⟨[], rfl, .nil, by simp⟩
  | cons hn _ ih =>
    obtain ⟨p, hp, hm, hi⟩ := hn.ofNode
    obtain ⟨ps, hps, hms, his⟩ := ih
    refine ⟨p :: ps, by rw [List.mapM_cons, hp, hps]; rfl, .cons hm hms, ?_⟩
    rw [List.any_cons, Bool.or_eq_true, hi, his, List.exists_mem_cons_iff]

theorem toList_templateSource (o : Options) (ps : List TemplatePart) :
    (templateSource o ps).toList = ps.flatMap fun p => (p.source o).toList := by
  rw [templateSource, String.toList_join, List.flatMap_map]

/-- A template means what its parts mean, in order. -/
theorem evalTemplate_source (hp : o.contextParameter.toList.head? ≠ some '\x7b')
    (h : List.Forall₂ TemplatePart.Means ps fs) (store : String → String) :
    evalTemplate o store (templateSource o ps).toList = some (String.join (fs.map (· store))).toList := by
  rw [toList_templateSource, String.toList_join, List.flatMap_map]
  induction h with
  | nil => rw [List.flatMap_nil, List.flatMap_nil, evalTemplate]
  | cons hm _ ih =>
    rw [List.flatMap_cons, List.flatMap_cons]
    cases hm with
    | text hv =>
      rw [TemplatePart.source, evalTemplate_escaped hp hv, ih, Option.map_some, String.toList_ofList]
    | hole hq => rw [evalTemplate_hole (readHole_source hq _), ih, Option.map_some]

/-- Texts without holes between them are one escaped text. -/
theorem escaped_source (h : List.Forall₂ TemplatePart.Means ps fs) (hn : ps.any TemplatePart.isHole = false)
    (store : String → String) : Text.Escaped (templateSource o ps).toList (String.join (fs.map (· store))).toList := by
  rw [toList_templateSource, String.toList_join, List.flatMap_map]
  induction h with
  | nil => exact .nil
  | cons hm _ ih =>
    rw [List.any_cons, Bool.or_eq_false_iff] at hn
    rw [List.flatMap_cons, List.flatMap_cons]
    cases hm with
    | text hv =>
      rw [String.toList_ofList]
      exact hv.append (ih hn.2)
    | hole => cases hn.1

end

/-! ## Extraction -/

/-- The body of a template is code without white space at its ends. -/
theorem valueCode_template (parameter template : String) :
    Snippet.valueCode parameter ("$\"" ++ template ++ "\"") =
      ⟨.value, .code parameter ("$\"" ++ template ++ "\"")⟩ := by
  have ht : Text.trim ("$\"" ++ template ++ "\"").toList = ("$\"" ++ template ++ "\"").toList := by
    have hs : ("$\"" ++ template ++ "\"").toList = ('$' :: '"' :: template.toList) ++ ['"'] := by simp
    rw [hs]
    exact Text.trim_of_ends rfl rfl
  rw [Snippet.valueCode, Snippet.code, Text.trimmed, ht, String.ofList_toList]

/-- An interpolated string is extracted to what it means. Its texts must be well escaped, and its holes
must name variables without a quote in their names; no brace begins the name of the context. Without
holes the snippet is the constant text. With holes it is code, `$"` and a template and `"`, and
whatever values the variables have, the template gives the texts and the values in order. -/
theorem extract_keeps_meaning {env : Environment} {n : Node} {fs : List ((String → String) → String)}
    (hp : env.options.contextParameter.toList.head? ≠ some '\x7b') (hn : n.kind = .interpolatedString)
    (h : List.Forall₂ PartMeaning n.children fs) :
    ∃ p, extractValue env n = .ok p ∧
      ((∀ c ∈ n.children, c.kind ≠ .interpolation) →
        ∀ store : String → String, p = .literal (String.join (fs.map (· store)))) ∧
      ((∃ c ∈ n.children, c.kind = .interpolation) →
        ∃ template : String,
          p = ⟨.value, .code env.options.contextParameter ("$\"" ++ template ++ "\"")⟩ ∧
          ∀ store, evalTemplate env.options store template.toList =
            some (String.join (fs.map (· store))).toList) := by
  obtain ⟨ps, hps, hms, hi⟩ := ofNode_parts h
  have he : extractValue env n = extractTemplate env.options ps := by
    simp only [extractValue, extract, hn, hps]
    rfl
  rw [he, extractTemplate]
  by_cases hh : ps.any TemplatePart.isHole
  · rw [if_pos hh]
    refine ⟨_, rfl, fun hc => ?_, fun _ => ?_⟩
    · obtain ⟨c, hm, hk⟩ := hi.1 hh
      exact absurd hk (hc c hm)
    · exact ⟨templateSource env.options ps, valueCode_template _ _, evalTemplate_source hp hms⟩
  · have hu : ∀ store : String → String, Text.unescape (templateSource env.options ps).toList =
        some (String.join (fs.map (· store))).toList :=
      fun store => Text.unescape_eq_some_iff.2 (escaped_source hms (by simpa using hh) store)
    rw [if_neg hh, hu fun _ => ""]
    refine ⟨_, rfl, fun _ store => ?_, fun hc => absurd (hi.2 hc) hh⟩
    -- Without holes the values of the variables play no part.
    have hs := (hu fun _ => "").symm.trans (hu store)
    rw [Option.some.inj hs, String.ofList_toList]

/-- A string with a hole between doubled braces and an escape at its end. -/
def bracedHole : Node :=
  .interpolatedString
    [.interpolatedText "\x7b\x7b", .interpolation (.identifier "id"), .interpolatedText "\x7d\x7d\\n"]

theorem extract_keeps_meaning_braces :
    ∃ template : String,
      extractValue ⟨.ofDeclaration ⟨"Api", []⟩, {}⟩ bracedHole =
        .ok ⟨.value, .code "context" ("$\"" ++ template ++ "\"")⟩ ∧
      ∀ store, evalTemplate {} store template.toList = some ('\x7b' :: ((store "id").toList ++ ['\x7d', '\n'])) := by
  have hole : PartMeaning (.interpolation (.identifier "id")) fun store => store "id" :=
    @PartMeaning.hole _ (.identifier "id") rfl rfl rfl (by decide)
  have hp : List.Forall₂ PartMeaning bracedHole.children
      [fun _ => String.ofList ['\x7b'], fun store => store "id", fun _ => String.ofList ['\x7d', '\n']] :=
    .cons (.text rfl rfl) (.cons hole (.cons (.text rfl rfl) .nil))
  obtain ⟨p, he, -, ht⟩ := @extract_keeps_meaning ⟨.ofDeclaration ⟨"Api", []⟩, {}⟩ _ _ (by decide) rfl hp
  obtain ⟨template, rfl, hv⟩ :=
    ht ⟨.interpolation (.identifier "id"), by simp [bracedHole, Node.interpolatedString, Node.make], rfl⟩
  refine ⟨template, he, fun store => ?_⟩
  rw [hv store, String.toList_join]
  simp

end GatewayPolicy
