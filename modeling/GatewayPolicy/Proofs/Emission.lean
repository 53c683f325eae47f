import GatewayPolicy.Compile.Statement
/-!
# Emissions

Emissions compose in order, and the composition succeeds when both parts do.
-/

namespace GatewayPolicy

namespace Emission

variable {a b e : Emission} {fs : List Fragment} {rs : List String}

@[simp] theorem andThen_empty (e : Emission) : e.andThen {} = e := by
  obtain ⟨fs, rs, c⟩ := e
  cases c <;> simp [andThen]

@[simp] theorem empty_andThen (e : Emission) : Emission.andThen {} e = e := rfl

theorem andThen_assoc (a b e : Emission) : (a.andThen b).andThen e = a.andThen (b.andThen e) := by
  obtain ⟨fs, rs, c⟩ := a
  obtain ⟨gs, qs, d⟩ := b
  cases c with
  | some c => rfl
  | none => cases d <;> simp [andThen]

/-! ## Success -/

theorem andThen_ok : a.andThen b = ⟨fs, rs, none⟩ ↔
    ∃ fs₁ rs₁ fs₂ rs₂, a = ⟨fs₁, rs₁, none⟩ ∧ b = ⟨fs₂, rs₂, none⟩ ∧ fs = fs₁ ++ fs₂ ∧ rs = rs₁ ++ rs₂ := by
  obtain ⟨fs₁, rs₁, c₁⟩ := a
  obtain ⟨fs₂, rs₂, c₂⟩ := b
  cases c₁ with
  | some c => simp [andThen]
  | none =>
    constructor
    · intro h
      simp only [andThen, Option.isSome_none, Bool.false_eq_true, if_false, mk.injEq] at h
      obtain ⟨rfl, rfl, rfl⟩ := h
      exact ⟨fs₁, rs₁, fs₂, rs₂, rfl, rfl, rfl, rfl⟩
    · rintro ⟨_, _, _, _, ⟨⟩, ⟨⟩, rfl, rfl⟩
      rfl

theorem fail_ok (c : Cause) : fail c ≠ ⟨fs, rs, none⟩ := by
  simp [fail]

theorem ofElement_ok {x : Except Cause Fragment} :
    ofElement x = ⟨fs, rs, none⟩ ↔ ∃ f, x = .ok f ∧ fs = [f] ∧ rs = [] := by
  cases x with
  | error c => simp [ofElement, fail]
  | ok f => simp [ofElement, eq_comm]

theorem wrap_ok {parent : Fragment} :
    e.wrap parent = ⟨fs, rs, none⟩ ↔ ∃ gs, e = ⟨gs, rs, none⟩ ∧ fs = [parent.withChildren gs] := by
  obtain ⟨gs, rs', c⟩ := e
  cases c with
  | some c => simp [wrap, fail]
  | none =>
    simp only [wrap, mk.injEq, and_true]
    constructor
    · rintro ⟨rfl, rfl⟩
      exact ⟨gs, ⟨rfl, rfl⟩, rfl⟩
    · rintro ⟨_, ⟨rfl, rfl⟩, rfl⟩
      exact ⟨rfl, rfl⟩

theorem gather_ok {parent : Fragment} :
    e.gather parent = ⟨fs, rs, none⟩ ↔ ∃ gs, e = ⟨gs, rs, none⟩ ∧ fs = [parent.withChildren gs] := by
  obtain ⟨gs, rs', c⟩ := e
  cases c with
  | some c => simp [gather]
  | none =>
    simp only [gather, mk.injEq, and_true]
    constructor
    · rintro ⟨rfl, rfl⟩
      exact ⟨gs, ⟨rfl, rfl⟩, rfl⟩
    · rintro ⟨_, ⟨rfl, rfl⟩, rfl⟩
      exact ⟨rfl, rfl⟩

/-! ## Failure -/

theorem andThen_failure (a b : Emission) : (a.andThen b).failure = a.failure.or b.failure := by
  obtain ⟨fs, rs, c⟩ := a
  cases c <;> rfl

@[simp] theorem wrap_failure (parent : Fragment) (e : Emission) : (e.wrap parent).failure = e.failure := by
  obtain ⟨fs, rs, c⟩ := e
  cases c <;> rfl

@[simp] theorem gather_failure (parent : Fragment) (e : Emission) : (e.gather parent).failure = e.failure := by
  obtain ⟨fs, rs, c⟩ := e
  cases c <;> rfl

end Emission

end GatewayPolicy
