import GatewayPolicy.Proofs.LambdaSource
/-!
# Forwarded helpers

A condition is a lambda, or a call of a helper that passes nothing but the request context. Such a
call stands for the lambda with the body of the helper, and is extracted to the same snippet, unless
the source of the body is white space only: there is no lambda without a body, but the call is let
through, and it alone gives a condition without code.
-/

namespace GatewayPolicy

/-! ## Helper calls -/

/-- A call that passes nothing but the request context `p`: `name()` or `name(p)`. -/
structure Node.CallsHelper (n : Node) (name p : String) : Prop where
  kind : n.kind = .invocation
  target : ∃ t, n.target = some t ∧ t.kind = .identifier ∧ t.name = name
  arguments : n.arguments = [] ∨ ∃ a, n.arguments = [a] ∧ a.kind = .identifier ∧ a.name = p

/-- A method that returns a value and takes nothing but the request context `p`, with its body. A method
with two bodies counts for its expression. -/
structure Method.Yields (m : Method) (p : String) (b : Node) : Prop where
  value : m.isVoid = false
  parameters : m.parameters = [] ∨ ∃ q, m.parameters = [q] ∧ q.name = p
  body : (m.expressionBody <|> m.body) = some b

section
variable {env : Environment} {n : Node} {s : Snippet} {p name : String}

theorem passesContext_iff {as : List Node} :
    passesContext p as ↔ as = [] ∨ ∃ a, as = [a] ∧ a.kind = .identifier ∧ a.name = p := by
  unfold passesContext
  split <;> simp_all

theorem takesContext_iff {ps : List Parameter} : takesContext p ps ↔ ps = [] ∨ ∃ q, ps = [q] ∧ q.name = p := by
  unfold takesContext
  split <;> simp_all

theorem invokedIdentifier_eq_some_iff :
    n.invokedIdentifier = some name ↔ ∃ t, n.target = some t ∧ t.kind = .identifier ∧ t.name = name := by
  simp [Node.invokedIdentifier, and_assoc]

/-- A helper call is extracted just if it calls a method that may stand for its body. -/
theorem extractForwarded_eq_ok_iff (hn : n.kind = .invocation) :
    extractForwarded env n = .ok s ↔
      ∃ name m b, n.CallsHelper name env.options.contextParameter ∧ env.methods.get? name = some m ∧
        m.Yields env.options.contextParameter b ∧ .predicate env.options.contextParameter b.text = s := by
  constructor
  · intro h
    unfold extractForwarded at h
    dsimp only at h
    -- Each check in turn is passed.
    split at h
    · cases h
    rename_i name hname
    split at h
    · cases h
    rename_i ha
    split at h
    · cases h
    rename_i m hm
    split at h
    · cases h
    rename_i hv
    split at h
    · cases h
    rename_i hp
    split at h
    · cases h
    rename_i b hb
    cases h
    refine ⟨name, m, b, ⟨hn, ?_, ?_⟩, hm, ⟨?_, ?_, hb⟩, rfl⟩
    · exact invokedIdentifier_eq_some_iff.1 hname
    · exact passesContext_iff.1 (by simpa using ha)
    · simpa using hv
    · exact takesContext_iff.1 (by simpa using hp)
  · rintro ⟨name, m, b, hc, hm, hy, rfl⟩
    have hname := invokedIdentifier_eq_some_iff.2 hc.target
    have ha := passesContext_iff.2 hc.arguments
    have hp := takesContext_iff.2 hy.parameters
    simp [extractForwarded, hname, ha, hm, hy.value, hp, hy.body]

/-- A condition is a lambda or a helper call. -/
theorem extractPredicate_ok_cases (h : extractPredicate env n = .ok s) :
    n.kind = .anonymousFunction ∧ extractLambda env.options .predicate n.text = .ok s ∨
      n.kind = .invocation ∧ extractForwarded env n = .ok s := by
  unfold extractPredicate extract at h
  split at h
  · cases h
  · cases h
  · next he => cases he
  · next he => cases he
  · next hk => exact .inl ⟨hk, h⟩
  · next hk => exact .inr ⟨hk, h⟩
  · cases h

end

/-! ## Bodies as lambdas -/

section
open Text
variable {o : Options} {text : String}

/-- The lambda `p => t` is extracted to the snippet that stands for `t`, unless `t` is white space. -/
theorem extractLambda_written {t : String} (hp : IsWord ('=' :: listMarks) o.contextParameter.toList)
    (ht : text = o.contextParameter ++ " => " ++ t) :
    extractLambda o .predicate text =
      if Blanks t.toList then .error (.unsupported .anonymousFunction .emptyLambda)
      else .ok (.predicate o.contextParameter t) := by
  have heq : '=' ∉ o.contextParameter.toList ++ [' '] := by
    rw [List.mem_append, not_or]
    exact ⟨fun hm => (hp.2 _ hm).2 (by decide), by decide⟩
  have hs : splitArrow text.toList = some (o.contextParameter.toList ++ [' '], ' ' :: t.toList) :=
    splitArrow_eq_some_iff.2 ⟨by simp [ht], fun hi => heq (hi.subset List.mem_cons_self)⟩
  have hl : trim (o.contextParameter.toList ++ [' ']) = o.contextParameter.toList := by
    simpa using trim_padded (l := []) (r := [' ']) (by decide) (by decide) hp.tight
  have hparam : lambdaParameter (o.contextParameter.toList ++ [' ']) = some o.contextParameter.toList := by
    rw [lambdaParameter_iff (hp.mono (by decide)), hl]
    exact .inl .bare
  have hb : trim (' ' :: t.toList) = trim t.toList := rfl
  split
  · next hblank => simp [extractLambda, hs, hparam, hb, trim_eq_nil.2 hblank]
  · next hblank =>
    rw [extractLambda_of_split hs, hl, hb, String.ofList_toList]
    exact ⟨hparam, fun he => hblank (trim_eq_nil.1 he), rfl⟩

/-- The body of an accepted condition is empty just if it is the body of a helper and white space. -/
theorem condition_body {env : Environment} {n : Node} {s : Snippet} (h : extractPredicate env n = .ok s) :
    ∃ q c, s = ⟨.predicate, .code q c⟩ ∧
      (c = "" ↔ ∃ name m b, n.CallsHelper name env.options.contextParameter ∧ env.methods.get? name = some m ∧
        m.Yields env.options.contextParameter b ∧ Blanks b.text.toList) := by
  rcases extractPredicate_ok_cases h with ⟨hn, h⟩ | ⟨hn, h⟩
  · obtain ⟨q, c, rfl, hl, -⟩ := extractLambda_eq_ok_iff.1 h
    refine ⟨q, c, rfl, ⟨fun hc => ?_, ?_⟩⟩
    · exact absurd (by rw [hc]; rfl) hl.hasBody
    · rintro ⟨name, m, b, hc, -⟩
      cases hn.symm.trans hc.kind
  · obtain ⟨name, m, b, hc, hm, hy, rfl⟩ := (extractForwarded_eq_ok_iff hn).1 h
    have hblank : trimmed b.text = "" ↔ Blanks b.text.toList := by
      rw [trimmed, ← String.toList_inj, String.toList_ofList]
      exact trim_eq_nil
    refine ⟨_, _, rfl, hblank.trans ⟨fun hb => ⟨name, m, b, hc, hm, hy, hb⟩, ?_⟩⟩
    rintro ⟨name', m', b', hc', hm', hy', hb⟩
    -- A call has one helper, and a helper one body.
    have hname := (invokedIdentifier_eq_some_iff.2 hc.target).symm.trans (invokedIdentifier_eq_some_iff.2 hc'.target)
    cases hname
    cases hm.symm.trans hm'
    cases hy.body.symm.trans hy'.body
    exact hb

end

/-- A call of a helper is extracted to the snippet of the lambda that has the body of the helper, which
is the expression if it has one and the block if not. The lambda is refused if that body is white space
only, and just then the two differ: the call is extracted all the same, to a condition without code.
No other condition that is accepted has an empty body. The name of the context may be any word without
parentheses, commas and equals signs, so it may be made of letters, digits and underscores. -/
theorem forwards_like_lambda {d : Declaration} {o : Options} {call lambda : Node} {name : String} {m : Method} {b : Node}
    (hp : Text.IsWord ('=' :: listMarks) o.contextParameter.toList) (hc : call.CallsHelper name o.contextParameter)
    (hm : d.method? name = some m) (hy : m.Yields o.contextParameter b) (hl : lambda.kind = .anonymousFunction)
    (ht : lambda.text = o.contextParameter ++ " => " ++ b.text) :
    let env : Environment := ⟨.ofDeclaration d, o⟩
    extractPredicate env call = .ok (.predicate o.contextParameter b.text) ∧
    (¬ Text.Blanks b.text.toList → extractPredicate env lambda = extractPredicate env call) ∧
    (Text.Blanks b.text.toList → extractPredicate env lambda = .error (.unsupported .anonymousFunction .emptyLambda)) ∧
    ∀ n s, extractPredicate env n = .ok s → ∃ q c, s = ⟨.predicate, .code q c⟩ ∧
      (c = "" ↔ ∃ name m b, n.CallsHelper name o.contextParameter ∧ d.method? name = some m ∧
        m.Yields o.contextParameter b ∧ Text.Blanks b.text.toList) := by
  intro env
  have hlambda : extractPredicate env lambda = extractLambda o .predicate lambda.text := by
    simp only [extractPredicate, extract, hl, env]
  have hcall : extractPredicate env call = .ok (.predicate o.contextParameter b.text) := by
    simp only [extractPredicate, extract, hc.kind]
    exact (extractForwarded_eq_ok_iff hc.kind).2
      ⟨name, m, b, hc, (MethodTable.get?_ofDeclaration d name).trans hm, hy, rfl⟩
  rw [hlambda, extractLambda_written hp ht]
  refine ⟨hcall, fun hb => by rw [if_neg hb, hcall], fun hb => if_pos hb, fun n s h => ?_⟩
  obtain ⟨q, c, hs, hbody⟩ := condition_body h
  exact ⟨q, c, hs, by simpa only [MethodTable.get?_ofDeclaration, env] using hbody⟩

/-- A block with an arrow in it. A later method of the name plays no part. -/
theorem forwards_like_lambda_block :
    let block : Node := ⟨.block, none, [], "\x7b return context.Tags.Any(t => t); \x7d"⟩
    let d : Declaration :=
      ⟨"Api", [.blockBodied "IsTagged" "bool" block, .expressionBodied "IsTagged" "bool" (.identifier "tagged")]⟩
    let env : Environment := ⟨.ofDeclaration d, {}⟩
    extractPredicate env (.anonymousFunction "context => \x7b return context.Tags.Any(t => t); \x7d") =
        extractPredicate env (.invocation (.identifier "IsTagged") []) ∧
      extractPredicate env (.invocation (.identifier "IsTagged") []) =
        .ok (.predicate "context" "\x7b return context.Tags.Any(t => t); \x7d") := by
  intro block d env
  have hc : (Node.invocation (.identifier "IsTagged") []).CallsHelper "IsTagged" "context" :=
    ⟨rfl, ⟨_, rfl, rfl, rfl⟩, .inl rfl⟩
  have hy : (Method.blockBodied "IsTagged" "bool" block).Yields "context" block :=
    ⟨by decide, .inr ⟨⟨"context", none⟩, rfl, rfl⟩, rfl⟩
  have h := @forwards_like_lambda d {} _ (.anonymousFunction "context => \x7b return context.Tags.Any(t => t); \x7d")
    _ _ block (by decide) hc rfl hy rfl rfl
  exact ⟨h.2.1 (by decide), h.1⟩

/-- A helper with a body of one blank, in a declaration that passes its checks. The lambda with that
body is refused, the call is let through. -/
theorem blank_helper_forwarded :
    let d : Declaration := ⟨"Api", [.expressionBodied "IsFresh" "bool" ⟨.identifier, some "fresh", [], " "⟩]⟩
    let env : Environment := ⟨.ofDeclaration d, {}⟩
    d.check = .ok () ∧
      extractPredicate env (.invocation (.identifier "IsFresh") [.identifier "context"]) =
        .ok ⟨.predicate, .code "context" ""⟩ ∧
      extractPredicate env (.anonymousFunction "context =>  ") =
        .error (.unsupported .anonymousFunction .emptyLambda) := by
  intro d env
  exact ⟨by decide, by decide, by decide⟩

end GatewayPolicy
