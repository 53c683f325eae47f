import GatewayPolicy.Proofs.WellFormedness
import GatewayPolicy.Source.Text
/-!
# Statements by their texts

What the text of a statement says about its tree. Blocks, ifs, returns and statements of one name
are told apart by their texts, and so are their parts, with one exception: an else is not bracketed,
so the text does not say which of several ifs without an else it belongs to. Two trees have the same
text just if they are the same once every else has gone to the nearest if, and so trees in which
every else is there already have texts of their own.
-/

namespace GatewayPolicy

/-! ## Names -/

/-- The characters that end a word in the text of a statement. -/
def delimiters : List Char := [' ', ';', '(', ')', '\x7b', '\x7d']

/-- The words that are no names. -/
def reservedWords : List String := ["if", "else", "return", "var"]

/-- A name: some characters, letters for example, of which none ends a word. -/
structure Word where
  text : String
  nonempty : text ≠ ""
  unreserved : text ∉ reservedWords
  closed : ∀ c ∈ text.toList, c ∉ delimiters

/-- Words are told apart by what stands in front of the first delimiter. -/
theorem cut_at_delimiter {v w : List Char} {d e : Char} {x y : List Char} (hv : ∀ c ∈ v, c ∉ delimiters)
    (hw : ∀ c ∈ w, c ∉ delimiters) (hd : d ∈ delimiters) (he : e ∈ delimiters) (h : v ++ d :: x = w ++ e :: y) :
    v = w ∧ d = e ∧ x = y := by
  induction v generalizing w with
  | nil =>
    cases w with
    | nil => exact ⟨rfl, List.cons_eq_cons.1 h⟩
    | cons c w =>
      obtain ⟨rfl, -⟩ := List.cons_eq_cons.1 h
      exact absurd hd (hw d List.mem_cons_self)
  | cons c v ih =>
    obtain ⟨hc, hv⟩ := List.forall_mem_cons.1 hv
    cases w with
    | nil =>
      obtain ⟨rfl, -⟩ := List.cons_eq_cons.1 h
      exact absurd he hc
    | cons b w =>
      obtain ⟨rfl, hr⟩ := List.cons_eq_cons.1 h
      obtain ⟨rfl, hrest⟩ := ih hv (List.forall_mem_cons.1 hw).2 hr
      exact ⟨rfl, hrest⟩

namespace Word

def chars (w : Word) : List Char := w.text.toList

theorem ext_text {v w : Word} (h : v.text = w.text) : v = w := by
  obtain ⟨x, _, _, _⟩ := v
  obtain ⟨y, _, _, _⟩ := w
  obtain rfl : x = y := h
  rfl

theorem ext_chars {v w : Word} (h : v.chars = w.chars) : v = w := ext_text (String.toList_inj.1 h)

theorem ext_identifier {v w : Word} (h : Node.identifier v.text = Node.identifier w.text) : v = w :=
  ext_text (congrArg Node.text h)

theorem chars_ne_return (w : Word) : w.chars ≠ "return".toList := by
  intro h
  exact w.unreserved (by rw [String.toList_inj.1 h]; decide)

end Word

/-! ## Statements -/

/-- A statement made of blocks, ifs, returns and names. -/
inductive PlainStatement where
  | block (ss : List PlainStatement)
  | ifThen (c : Word) (s : PlainStatement)
  | ifElse (c : Word) (s t : PlainStatement)
  | returnNothing
  | returnName (x : Word)
  | name (x : Word)

namespace PlainStatement

/-- Induction over a statement and all statements inside it. -/
@[elab_as_elim]
theorem inner_induction {P : PlainStatement → Prop} (block : ∀ ss, (∀ s ∈ ss, P s) → P (block ss))
    (ifThen : ∀ c s, P s → P (ifThen c s)) (ifElse : ∀ c s t, P s → P t → P (ifElse c s t))
    (returnNothing : P returnNothing) (returnName : ∀ x, P (returnName x)) (name : ∀ x, P (name x))
    (s : PlainStatement) : P s :=
  @PlainStatement.rec P (fun ss => ∀ s ∈ ss, P s) block ifThen ifElse returnNothing returnName name
    (fun _ hs => nomatch hs) (fun _ _ hs hss => List.forall_mem_cons.2 ⟨hs, hss⟩) s

mutual

/-- The tree of a statement. -/
def node : PlainStatement → Node
  | block ss => .block (nodes ss)
  | ifThen c s => .ifStatement (.identifier c.text) s.node
  | ifElse c s t => .ifElse (.identifier c.text) s.node t.node
  | returnNothing => .make .returnStatement none []
  | returnName x => .returnStatement (.identifier x.text)
  | name x => .expressionStatement (.identifier x.text)

def nodes : List PlainStatement → List Node
  | [] => []
  | s :: ss => s.node :: nodes ss

end

/-- What stands between the statement of an if and that of its else. -/
def elseText : List Char := [' ', 'e', 'l', 's', 'e', ' ']

/-- The characters of an if on a name, with what comes behind its condition. -/
def ifText (c : Word) (rest : List Char) : List Char := ['i', 'f'] ++ ' ' :: '(' :: (c.chars ++ ')' :: ' ' :: rest)

theorem ifText_append (c : Word) (x y : List Char) : ifText c x ++ y = ifText c (x ++ y) := by
  simp only [ifText, List.append_assoc, List.cons_append]

theorem ifText_inj {c d : Word} {x y : List Char} (h : ifText c x = ifText d y) : c = d ∧ x = y := by
  have h : ['i', 'f', ' ', '('] ++ (c.chars ++ ')' :: ' ' :: x) = ['i', 'f', ' ', '('] ++ (d.chars ++ ')' :: ' ' :: y) := h
  obtain ⟨hc, -, hrest⟩ := cut_at_delimiter c.closed d.closed (by decide) (by decide) (List.append_cancel_left h)
  exact ⟨Word.ext_chars hc, (List.cons_eq_cons.1 hrest).2⟩

mutual

/-- The characters of a statement. -/
def chars : PlainStatement → List Char
  | block ss => '\x7b' :: ' ' :: (charsAll ss ++ ['\x7d'])
  | ifThen c s => ifText c s.chars
  | ifElse c s t => ifText c (s.chars ++ (elseText ++ t.chars))
  | returnNothing => ['r', 'e', 't', 'u', 'r', 'n'] ++ [';']
  | returnName x => ['r', 'e', 't', 'u', 'r', 'n'] ++ ' ' :: (x.chars ++ [';'])
  | name x => x.chars ++ [';']

/-- The characters of some statements in a block, each with a blank behind it. -/
def charsAll : List PlainStatement → List Char
  | [] => []
  | s :: ss => s.chars ++ ' ' :: charsAll ss

end

theorem nodes_eq (ss : List PlainStatement) : nodes ss = ss.map node := by
  induction ss with
  | nil => rfl
  | cons s ss ih => rw [nodes, ih, List.map_cons]

/-- The trees are well-formed. -/
theorem node_wellFormed (s : PlainStatement) : s.node.kind.isStatement ∧ s.node.WellFormed := by
  have hw : ∀ x : Word, (Node.identifier x.text).WellFormed := fun x => .identifier x.nonempty
  induction s using inner_induction with
  | block ss ih =>
    refine ⟨rfl, .block ?_ ?_⟩ <;> rw [nodes_eq, List.forall_mem_map]
    · exact fun s hs => (ih s hs).1
    · exact fun s hs => (ih s hs).2
  | ifThen c s ih => exact ⟨rfl, .ifThen rfl ih.1 (hw c) ih.2⟩
  | ifElse c s t ihs iht => exact ⟨rfl, .ifElse rfl ihs.1 rfl (hw c) ihs.2 (.elseClause iht.1 iht.2)⟩
  | returnNothing => exact ⟨rfl, .returnNothing⟩
  | returnName x => exact ⟨rfl, .returnValue rfl (hw x)⟩
  | name x => exact ⟨rfl, .single (.inl rfl) rfl (hw x)⟩

theorem nodes_inj {ss ts : List PlainStatement} (hs : ∀ s ∈ ss, ∀ t, s.node = t.node → s = t)
    (h : nodes ss = nodes ts) : ss = ts := by
  induction ss generalizing ts with
  | nil =>
    cases ts with
    | nil => rfl
    | cons t ts => cases h
  | cons s ss ih =>
    obtain ⟨hhead, htail⟩ := List.forall_mem_cons.1 hs
    cases ts with
    | nil => cases h
    | cons t ts =>
      obtain ⟨hst, hrest⟩ := List.cons_eq_cons.1 h
      rw [hhead t hst, ih htail hrest]

/-- Statements that are not the same have trees that are not. -/
theorem node_inj {a b : PlainStatement} (h : a.node = b.node) : a = b := by
  induction a using inner_induction generalizing b with
  | block ss ih =>
    cases b with
    | block ts => rw [nodes_inj (fun s hs t => ih s hs) (congrArg Node.children h)]
    | _ => cases h
  | ifThen c s ih =>
    cases b with
    | ifThen d t =>
      obtain ⟨hc, hrest⟩ := List.cons_eq_cons.1 (congrArg Node.children h)
      have hs := (List.cons_eq_cons.1 hrest).1
      rw [Word.ext_identifier hc, ih hs]
    | ifElse => cases congrArg (·.children.length) h
    | _ => cases h
  | ifElse c s t ihs iht =>
    cases b with
    | ifElse d u v =>
      obtain ⟨hc, hrest⟩ := List.cons_eq_cons.1 (congrArg Node.children h)
      obtain ⟨hs, hclause⟩ := List.cons_eq_cons.1 hrest
      have ht := (List.cons_eq_cons.1 (congrArg Node.children (List.cons_eq_cons.1 hclause).1)).1
      rw [Word.ext_identifier hc, ihs hs, iht ht]
    | ifThen => cases congrArg (·.children.length) h
    | _ => cases h
  | returnNothing =>
    cases b with
    | returnNothing => rfl
    | _ => cases h
  | returnName x =>
    cases b with
    | returnName y => rw [Word.ext_identifier (List.cons_eq_cons.1 (congrArg Node.children h)).1]
    | _ => cases h
  | name x =>
    cases b with
    | name y => rw [Word.ext_identifier (List.cons_eq_cons.1 (congrArg Node.children h)).1]
    | _ => cases h

theorem charsAll_eq (ss : List PlainStatement) (h : ss ≠ []) :
    charsAll ss = [' '].intercalate (ss.map chars) ++ [' '] := by
  induction ss with
  | nil => exact absurd rfl h
  | cons s ss ih =>
    cases ss with
    | nil => simp [charsAll]
    | cons t ss =>
      rw [charsAll, ih (by simp)]
      simp only [List.map_cons, List.intercalate_cons_cons, List.append_assoc, List.cons_append, List.nil_append]

/-- The text of the tree has these characters. -/
theorem toList_text (s : PlainStatement) : s.node.text.toList = s.chars := by
  induction s using inner_induction with
  | block ss ih =>
    show (synthesize .block none (nodes ss)).toList = _
    cases ss with
    | nil => simp [synthesize, nodes, chars, charsAll]
    | cons s ss =>
      have hs : (joinTexts " " (nodes (s :: ss))).toList = [' '].intercalate ((s :: ss).map chars) := by
        rw [joinTexts, String.toList_intercalate, nodes_eq, List.map_map, List.map_map]
        exact congrArg _ (List.map_congr_left ih)
      rw [chars, charsAll_eq _ (by simp), ← hs]
      simp [synthesize, nodes]
  | ifThen c s ih =>
    show (synthesize .ifStatement none [.identifier c.text, s.node]).toList = _
    simp [synthesize, childText, chars, ifText, Word.chars, ih, Node.identifier, Node.make]
  | ifElse c s t ihs iht =>
    show (synthesize .ifStatement none [.identifier c.text, s.node, .make .elseClause none [t.node]]).toList = _
    simp [synthesize, childText, chars, ifText, Word.chars, elseText, ihs, iht, Node.identifier, Node.make]
  | returnNothing => rfl
  | returnName x => simp [node, Node.returnStatement, Node.make, synthesize, childText, Node.identifier, chars, Word.chars]
  | name x => simp [node, Node.expressionStatement, Node.make, synthesize, childText, Node.identifier, chars, Word.chars]

/-! ## Beginnings -/

/-- The first word of a statement and the delimiter behind it. -/
def opening : PlainStatement → List Char × Char
  | block _ => ([], '\x7b')
  | ifThen .. | ifElse .. => (['i', 'f'], ' ')
  | returnNothing => (['r', 'e', 't', 'u', 'r', 'n'], ';')
  | returnName _ => (['r', 'e', 't', 'u', 'r', 'n'], ' ')
  | name x => (x.chars, ';')

section
variable {a b s t : PlainStatement} {x y : List Char}

theorem opening_closed (s : PlainStatement) : (∀ c ∈ s.opening.1, c ∉ delimiters) ∧ s.opening.2 ∈ delimiters := by
  cases s with
  | name x => exact ⟨x.closed, by simp [opening, delimiters]⟩
  | _ => simp [opening, delimiters]

theorem exists_chars (s : PlainStatement) : ∃ r, s.chars = s.opening.1 ++ s.opening.2 :: r := by
  cases s <;> exact ⟨_, by rw [chars]; rfl⟩

/-- A text begins with a word and a delimiter as the statement does that stands first in it. -/
theorem opening_eq {w : List Char} {d : Char} (hw : ∀ c ∈ w, c ∉ delimiters) (hd : d ∈ delimiters)
    (h : s.chars ++ x = w ++ d :: y) : s.opening = (w, d) := by
  obtain ⟨r, hr⟩ := s.exists_chars
  rw [hr, List.append_assoc, List.cons_append] at h
  obtain ⟨h₁, h₂, -⟩ := cut_at_delimiter s.opening_closed.1 hw s.opening_closed.2 hd h
  exact Prod.ext h₁ h₂

theorem opening_eq_opening (h : a.chars ++ x = b.chars ++ y) : b.opening = a.opening := by
  obtain ⟨r, hr⟩ := a.exists_chars
  rw [hr, List.append_assoc, List.cons_append] at h
  exact opening_eq a.opening_closed.1 a.opening_closed.2 h.symm

theorem eq_block_of_opening (h : b.opening = ([], '\x7b')) : ∃ ts, b = block ts := by
  cases b <;> simp_all [opening]

theorem eq_if_of_opening (h : b.opening = (['i', 'f'], ' ')) :
    (∃ c s, b = ifThen c s) ∨ ∃ c s t, b = ifElse c s t := by
  cases b <;> simp_all [opening]

theorem eq_returnNothing_of_opening (h : b.opening = (['r', 'e', 't', 'u', 'r', 'n'], ';')) : b = returnNothing := by
  cases b with
  | name x => exact absurd (Prod.ext_iff.1 h).1 x.chars_ne_return
  | _ => simp_all [opening]

theorem eq_returnName_of_opening (h : b.opening = (['r', 'e', 't', 'u', 'r', 'n'], ' ')) : ∃ x, b = returnName x := by
  cases b <;> simp_all [opening]

theorem eq_name_of_opening {v : Word} (h : b.opening = (v.chars, ';')) : b = name v := by
  cases b with
  | name x => rw [Word.ext_chars (Prod.ext_iff.1 h).1]
  | returnNothing => exact absurd (Prod.ext_iff.1 h).1.symm v.chars_ne_return
  | _ => simp_all [opening]

/-- No statement begins as an else clause does, or as what ends a block. -/
theorem opening_ne (s : PlainStatement) : s.opening ≠ (['e', 'l', 's', 'e'], ' ') ∧ s.opening ≠ ([], '\x7d') := by
  cases s <;> simp [opening]

end

/-! ## Elses and their ifs -/

/-- Whether a statement ends in an if without an else, to which an else behind it would belong. -/
def endsOpen : PlainStatement → Bool
  | ifThen .. => true
  | ifElse _ _ t => t.endsOpen
  | _ => false

/-- A statement in which every else belongs to the nearest if: what stands in front of an else does
not end in an if without one. -/
inductive Tidy : PlainStatement → Prop
  | block {ss} : (∀ s ∈ ss, Tidy s) → Tidy (block ss)
  | ifThen {c s} : Tidy s → Tidy (ifThen c s)
  | ifElse {c s t} : s.endsOpen = false → Tidy s → Tidy t → Tidy (ifElse c s t)
  | returnNothing : Tidy returnNothing
  | returnName {x} : Tidy (returnName x)
  | name {x} : Tidy (name x)

/-- A statement with an else behind it, which goes to the last if without one. -/
def takeElse (t : PlainStatement) : PlainStatement → PlainStatement
  | ifThen c s => if s.endsOpen then ifThen c (takeElse t s) else ifElse c s t
  | ifElse c s e => ifElse c s (takeElse t e)
  | s => s

mutual

/-- A statement in which every else has gone to the nearest if. -/
def rebound : PlainStatement → PlainStatement
  | block ss => block (reboundAll ss)
  | ifThen c s => ifThen c s.rebound
  | ifElse c s t => takeElse t.rebound (ifThen c s.rebound)
  | returnNothing => returnNothing
  | returnName x => returnName x
  | name x => name x

def reboundAll : List PlainStatement → List PlainStatement
  | [] => []
  | s :: ss => s.rebound :: reboundAll ss

end

section
variable {s t : PlainStatement}

theorem reboundAll_eq (ss : List PlainStatement) : reboundAll ss = ss.map rebound := by
  induction ss with
  | nil => rfl
  | cons s ss ih => rw [reboundAll, ih, List.map_cons]

theorem chars_takeElse (h : s.endsOpen) : (takeElse t s).chars = s.chars ++ (elseText ++ t.chars) := by
  induction s using inner_induction with
  | ifThen c s ih =>
    rw [takeElse]
    by_cases hs : s.endsOpen
    · rw [if_pos hs, chars, chars, ih hs, ifText_append]
    · rw [if_neg hs, chars, chars, ifText_append]
  | ifElse c s e _ ih => rw [takeElse, chars, chars, ih h, ifText_append, List.append_assoc, List.append_assoc]
  | _ => cases h

theorem Tidy.takeElse (hs : s.Tidy) (ht : t.Tidy) (h : s.endsOpen) : (takeElse t s).Tidy := by
  induction hs with
  | @ifThen c s hs ih =>
    rw [PlainStatement.takeElse]
    by_cases ho : s.endsOpen
    · rw [if_pos ho]
      exact .ifThen (ih ho)
    · rw [if_neg ho]
      exact .ifElse (Bool.eq_false_iff.2 ho) hs ht
  | ifElse ho hs _ _ ih => exact .ifElse ho hs (ih h)
  | _ => cases h

theorem tidy_rebound (s : PlainStatement) : s.rebound.Tidy := by
  induction s using inner_induction with
  | block ss ih =>
    rw [rebound, reboundAll_eq]
    exact .block (List.forall_mem_map.2 ih)
  | ifThen c s ih => exact .ifThen ih
  | ifElse c s t ihs iht => exact (Tidy.ifThen ihs).takeElse iht rfl
  | returnNothing => exact .returnNothing
  | returnName x => exact .returnName
  | name x => exact .name

theorem charsAll_rebound {ss : List PlainStatement} (h : ∀ s ∈ ss, s.rebound.chars = s.chars) :
    charsAll (ss.map rebound) = charsAll ss := by
  induction ss with
  | nil => rfl
  | cons s ss ih =>
    obtain ⟨hs, hss⟩ := List.forall_mem_cons.1 h
    rw [List.map_cons, charsAll, charsAll, hs, ih hss]

/-- The text does not show where an else belongs. -/
theorem chars_rebound (s : PlainStatement) : s.rebound.chars = s.chars := by
  induction s using inner_induction with
  | block ss ih => rw [rebound, chars, chars, reboundAll_eq, charsAll_rebound ih]
  | ifThen c s ih => rw [rebound, chars, chars, ih]
  | ifElse c s t ihs iht => rw [rebound, chars_takeElse rfl, chars, chars, ihs, iht, ifText_append]
  | _ => rfl

theorem Tidy.rebound_eq (h : s.Tidy) : s.rebound = s := by
  induction h with
  | block _ ih =>
    rw [rebound, reboundAll_eq]
    exact congrArg PlainStatement.block ((List.map_congr_left ih).trans (List.map_id _))
  | ifThen _ ih => rw [rebound, ih]
  | ifElse ho _ _ ihs iht => rw [rebound, ihs, iht, PlainStatement.takeElse, if_neg (Bool.eq_false_iff.1 ho)]
  | _ => rfl

end

/-! ## Reading texts back -/

section
variable {ss ts : List PlainStatement} {u v : List Char}

/-- A tidy statement is read off the front of a text, whatever comes behind it, but for an else that
would belong to it. -/
def ReadsOff (a : PlainStatement) : Prop :=
  ∀ {b : PlainStatement} {u v : List Char}, a.Tidy → b.Tidy → (a.endsOpen → ¬ elseText <+: u) →
    (b.endsOpen → ¬ elseText <+: v) → a.chars ++ u = b.chars ++ v → a = b ∧ u = v

/-- No else comes next in a block. -/
theorem not_else_in_block (ss : List PlainStatement) (u : List Char) :
    ¬ elseText <+: ' ' :: (charsAll ss ++ '\x7d' :: u) := by
  rintro ⟨w, h⟩
  have h : charsAll ss ++ '\x7d' :: u = ['e', 'l', 's', 'e'] ++ ' ' :: w := (List.cons_eq_cons.1 h).2.symm
  cases ss with
  | nil => cases h
  | cons s ss =>
    rw [charsAll, List.append_assoc] at h
    exact s.opening_ne.1 (opening_eq (by simp [delimiters]) (by decide) h)

theorem ReadsOff.block (h : ∀ s ∈ ss, s.ReadsOff) (hss : ∀ s ∈ ss, s.Tidy) (hts : ∀ t ∈ ts, t.Tidy)
    (he : charsAll ss ++ '\x7d' :: u = charsAll ts ++ '\x7d' :: v) : ss = ts ∧ u = v := by
  induction ss generalizing ts with
  | nil =>
    cases ts with
    | nil => exact ⟨rfl, (List.cons_eq_cons.1 he).2⟩
    | cons t ts =>
      rw [charsAll, charsAll, List.append_assoc] at he
      exact absurd (opening_eq (by simp) (by decide) he.symm) t.opening_ne.2
  | cons s ss ih =>
    cases ts with
    | nil =>
      rw [charsAll, charsAll, List.append_assoc] at he
      exact absurd (opening_eq (by simp) (by decide) he) s.opening_ne.2
    | cons t ts =>
      obtain ⟨hread, hreads⟩ := List.forall_mem_cons.1 h
      obtain ⟨hs, hss'⟩ := List.forall_mem_cons.1 hss
      obtain ⟨ht, hts'⟩ := List.forall_mem_cons.1 hts
      rw [charsAll, charsAll, List.append_assoc, List.append_assoc] at he
      obtain ⟨rfl, hrest⟩ := hread hs ht (fun _ => not_else_in_block ss u) (fun _ => not_else_in_block ts v) he
      obtain ⟨rfl, rfl⟩ := ih hreads hss' hts' (List.cons_eq_cons.1 hrest).2
      exact ⟨rfl, rfl⟩

theorem readsOff (a : PlainStatement) : a.ReadsOff := by
  induction a using inner_induction with
  | block ss ih =>
    intro b u v ha hb _ _ h
    obtain ⟨ts, rfl⟩ := eq_block_of_opening (opening_eq_opening h)
    cases ha with | block hss =>
    cases hb with | block hts =>
    simp only [chars, List.cons_append, List.append_assoc, List.cons.injEq, true_and, List.nil_append] at h
    obtain ⟨rfl, rfl⟩ := ReadsOff.block ih hss hts h
    exact ⟨rfl, rfl⟩
  | ifThen c s ih =>
    intro b u v ha hb hu hv h
    cases ha with | ifThen hs =>
    -- The text behind an open if begins with no else, so the other statement has none either.
    rcases eq_if_of_opening (opening_eq_opening h) with ⟨d, t, rfl⟩ | ⟨d, t, e, rfl⟩
    · cases hb with | ifThen ht =>
      rw [chars, chars, ifText_append, ifText_append] at h
      obtain ⟨rfl, hrest⟩ := ifText_inj h
      obtain ⟨rfl, rfl⟩ := ih hs ht (fun _ => hu rfl) (fun _ => hv rfl) hrest
      exact ⟨rfl, rfl⟩
    · cases hb with | ifElse ho ht _ =>
      rw [chars, chars, ifText_append, ifText_append, List.append_assoc, List.append_assoc] at h
      obtain ⟨-, rfl⟩ := ih hs ht (fun _ => hu rfl) (by simp [ho]) (ifText_inj h).2
      exact absurd (List.prefix_append _ _) (hu rfl)
  | ifElse c s e ihs ihe =>
    intro b u v ha hb hu hv h
    cases ha with | ifElse ho hs he =>
    rcases eq_if_of_opening (opening_eq_opening h) with ⟨d, t, rfl⟩ | ⟨d, t, f, rfl⟩
    · cases hb with | ifThen ht =>
      rw [chars, chars, ifText_append, ifText_append, List.append_assoc, List.append_assoc] at h
      obtain ⟨-, rfl⟩ := ihs hs ht (by simp [ho]) (fun _ => hv rfl) (ifText_inj h).2
      exact absurd (List.prefix_append _ _) (hv rfl)
    · cases hb with | ifElse ho' ht hf =>
      rw [chars, chars, ifText_append, ifText_append] at h
      simp only [List.append_assoc] at h
      obtain ⟨rfl, hrest⟩ := ifText_inj h
      obtain ⟨rfl, helse⟩ := ihs hs ht (by simp [ho]) (by simp [ho']) hrest
      obtain ⟨rfl, rfl⟩ := ihe he hf hu hv (List.append_cancel_left helse)
      exact ⟨rfl, rfl⟩
  | returnNothing =>
    intro b u v _ _ _ _ h
    obtain rfl := eq_returnNothing_of_opening (opening_eq_opening h)
    exact ⟨rfl, List.append_cancel_left h⟩
  | returnName x =>
    intro b u v _ _ _ _ h
    obtain ⟨y, rfl⟩ := eq_returnName_of_opening (opening_eq_opening h)
    simp only [chars, List.cons_append, List.append_assoc, List.cons.injEq, true_and, List.nil_append] at h
    obtain ⟨hx, -, h⟩ := cut_at_delimiter x.closed y.closed (by decide) (by decide) h
    exact ⟨by rw [Word.ext_chars hx], h⟩
  | name x =>
    intro b u v _ _ _ _ h
    obtain rfl := eq_name_of_opening (opening_eq_opening h)
    exact ⟨rfl, List.append_cancel_left h⟩

end

theorem text_rebound (s : PlainStatement) : s.rebound.node.text = s.node.text := by
  rw [← String.toList_inj, toList_text, toList_text, chars_rebound]

theorem Tidy.eq_of_text_eq {a b : PlainStatement} (ha : a.Tidy) (hb : b.Tidy) (h : a.node.text = b.node.text) :
    a = b := by
  have hc : a.chars ++ [] = b.chars ++ [] := by rw [← toList_text, ← toList_text, h]
  have hn : ¬ elseText <+: [] := by decide
  exact (readsOff a ha hb (fun _ => hn) (fun _ => hn) hc).1

/-- Statements are told apart by their texts up to the ifs that their elses belong to. Where every
else belongs to the nearest if, the text is that of one such statement only; and every statement has
its text in common with one, which is another statement just if some else does not belong there. -/
theorem texts_tell_statements_apart (a b : PlainStatement) :
    (a.Tidy → b.Tidy → (a.node.text = b.node.text ↔ a.node = b.node)) ∧
    (a.node.text = b.node.text ↔ a.rebound.node = b.rebound.node) ∧
    (a.rebound.Tidy ∧ a.rebound.node.text = a.node.text) ∧
    (a.Tidy ↔ a.rebound.node = a.node) := by
  refine ⟨fun ha hb => ⟨fun h => ?_, congrArg Node.text⟩, ⟨fun h => ?_, fun h => ?_⟩,
    ⟨a.tidy_rebound, a.text_rebound⟩, fun h => ?_, fun h => ?_⟩
  · rw [ha.eq_of_text_eq hb h]
  · rw [a.tidy_rebound.eq_of_text_eq b.tidy_rebound (by rw [text_rebound, text_rebound, h])]
  · rw [← a.text_rebound, h, b.text_rebound]
  · rw [h.rebound_eq]
  · rw [← node_inj h]
    exact a.tidy_rebound

/-- With braces around the inner if, the place of the else shows. -/
theorem texts_tell_statements_apart_braced :
    let a : Word := ⟨"a", by decide, by decide, by simp [delimiters]⟩
    let b : Word := ⟨"b", by decide, by decide, by simp [delimiters]⟩
    let x : Word := ⟨"x", by decide, by decide, by simp [delimiters]⟩
    let inner := ifThen a (block [ifElse b (returnName x) returnNothing])
    let outer := ifElse a (block [ifThen b (returnName x)]) returnNothing
    inner.node.text = "if (a) \x7b if (b) return x; else return; \x7d" ∧
    outer.node.text = "if (a) \x7b if (b) return x; \x7d else return;" ∧
    inner.Tidy ∧ outer.Tidy ∧ (inner.node.text = outer.node.text ↔ inner.node = outer.node) := by
  intro a b x inner outer
  have hi : inner.Tidy := .ifThen (.block (by simpa using .ifElse rfl .returnName .returnNothing))
  have ho : outer.Tidy := .ifElse rfl (.block (by simpa using .ifThen .returnName)) .returnNothing
  exact ⟨by decide +kernel, by decide +kernel, hi, ho, (texts_tell_statements_apart inner outer).1 hi ho⟩

/-- Without them it does not: the text of an if with an else inside an if is that of an if inside an
if with an else. -/
theorem dangling_else_shares_text :
    let x := Node.returnStatement (.identifier "x")
    let y := Node.returnStatement (.identifier "y")
    let inner := Node.ifStatement (.identifier "a") (.ifElse (.identifier "b") x y)
    let outer := Node.ifElse (.identifier "a") (.ifStatement (.identifier "b") x) y
    (inner.check = .ok () ∧ inner.text = "if (a) if (b) return x; else return y;") ∧
    (outer.check = .ok () ∧ outer.text = "if (a) if (b) return x; else return y;") ∧ inner ≠ outer := by
  exact ⟨⟨rfl, by decide +kernel⟩, ⟨rfl, by decide +kernel⟩, by decide +kernel⟩

end PlainStatement

end GatewayPolicy
