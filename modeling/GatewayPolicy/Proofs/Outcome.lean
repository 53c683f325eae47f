/-!
# Outcomes

How the parts of a computation that may fail make up its success or its failure.
-/

namespace GatewayPolicy

variable {ε ε' α β : Type}

@[simp] theorem ok_bind (a : α) (f : α → Except ε β) : Except.ok a >>= f = f a := rfl
@[simp] theorem error_bind (e : ε) (f : α → Except ε β) : Except.error e >>= f = .error e := rfl
@[simp] theorem pure_eq_ok (a : α) : (pure a : Except ε α) = .ok a := rfl

theorem bind_ok {x : Except ε α} {f : α → Except ε β} {b : β} :
    x >>= f = .ok b ↔ ∃ a, x = .ok a ∧ f a = .ok b := by
  cases x <;> simp

/-- The same for a step without a result. -/
theorem then_ok {x : Except ε Unit} {f : Unit → Except ε β} {b : β} :
    x >>= f = .ok b ↔ x = .ok () ∧ f () = .ok b := by
  cases x <;> simp

theorem bind_error {x : Except ε α} {f : α → Except ε β} {e : ε} :
    x >>= f = .error e ↔ x = .error e ∨ ∃ a, x = .ok a ∧ f a = .error e := by
  cases x <;> simp

theorem map_ok {x : Except ε α} {f : α → β} {b : β} : f <$> x = .ok b ↔ ∃ a, x = .ok a ∧ f a = b := by
  cases x <;> simp [Functor.map, Except.map]

theorem mapError_eq_ok {x : Except ε α} {f : ε → ε'} {a : α} : x.mapError f = .ok a ↔ x = .ok a := by
  cases x with
  | error e => constructor <;> intro h <;> cases h
  | ok b => constructor <;> intro h <;> cases h <;> rfl

theorem mapError_eq_error {x : Except ε α} {f : ε → ε'} {e : ε'} :
    x.mapError f = .error e ↔ ∃ c, x = .error c ∧ f c = e := by
  cases x with
  | error c =>
    constructor
    · intro h
      cases h
      exact ⟨c, rfl, rfl⟩
    · rintro ⟨_, ⟨⟩, rfl⟩
      rfl
  | ok a =>
    constructor
    · intro h
      cases h
    · rintro ⟨_, ⟨⟩, -⟩

theorem exists_of_isOk {x : Except ε α} (h : x.isOk) : ∃ a, x = .ok a := by
  cases x with
  | error e => cases h
  | ok a => exact ⟨a, rfl⟩

/-- The same with a property of the result that can be computed. -/
theorem exists_ok_and {x : Except ε α} {P : α → Prop} [DecidablePred P] (h : x.toOption.any P) :
    ∃ a, x = .ok a ∧ P a := by
  cases x with
  | error e => cases h
  | ok a => exact ⟨a, rfl, of_decide_eq_true h⟩

/-- A list is read as a whole or fails at one of its members. -/
theorem mapM_error {f : α → Except ε β} {e : ε} {as : List α} (h : as.mapM f = .error e) :
    ∃ a ∈ as, f a = .error e := by
  induction as with
  | nil => cases h
  | cons a as ih =>
    rw [List.mapM_cons, bind_error] at h
    rcases h with h | ⟨b, -, h⟩
    · exact ⟨a, List.mem_cons_self, h⟩
    · rcases bind_error.1 h with h | ⟨bs, -, h⟩
      · obtain ⟨c, hc, he⟩ := ih h
        exact ⟨c, List.mem_cons_of_mem _ hc, he⟩
      · cases h

theorem mapM_ok_nil {f : α → Except ε β} {as : List α} (h : as.mapM f = .ok []) : as = [] := by
  cases as with
  | nil => rfl
  | cons a as =>
    rw [List.mapM_cons] at h
    obtain ⟨b, -, h⟩ := bind_ok.1 h
    obtain ⟨bs, -, h⟩ := bind_ok.1 h
    cases h

/-- Nothing is read just from nothing. -/
theorem mapM_ok_nil_iff {f : α → Except ε β} {as : List α} {bs : List β} (h : as.mapM f = .ok bs) :
    as = [] ↔ bs = [] := by
  constructor
  · rintro rfl
    cases h
    rfl
  · rintro rfl
    exact mapM_ok_nil h

theorem mapM_map_result {γ : Type} {f : α → Except ε β} {g : β → γ} {as : List α} :
    as.mapM (fun a => g <$> f a) = List.map g <$> as.mapM f := by
  induction as with
  | nil => rfl
  | cons a as ih =>
    rw [List.mapM_cons, List.mapM_cons, ih]
    cases f a with
    | error e => rfl
    | ok b => cases as.mapM f <;> rfl

theorem forM_ok {f : α → Except ε Unit} {as : List α} : as.forM f = .ok () ↔ ∀ a ∈ as, f a = .ok () := by
  induction as with
  | nil => exact ⟨fun _ => by simp, fun _ => rfl⟩
  | cons a as ih => rw [List.forM, then_ok, List.forall_mem_cons, ih]

/-! ## Lists of outcomes -/

theorem mapM_id_ok {as : List α} : (as.map .ok).mapM id = (.ok as : Except ε (List α)) := by
  induction as with
  | nil => rfl
  | cons a as ih =>
    rw [List.map_cons, List.mapM_cons, ih]
    rfl

/-- The failure of a list of outcomes is its first one. -/
theorem mapM_id_error {xs : List (Except ε α)} {i : Nat} {e : ε} (h : xs[i]? = some (.error e))
    (hb : ∀ j < i, ∀ x, xs[j]? = some x → ∃ a, x = .ok a) : xs.mapM id = .error e := by
  induction xs generalizing i with
  | nil => cases h
  | cons x xs ih =>
    rw [List.mapM_cons]
    cases i with
    | zero =>
      cases h
      rfl
    | succ i =>
      obtain ⟨a, rfl⟩ := hb 0 (Nat.succ_pos i) x rfl
      rw [ih h fun j hj => hb (j + 1) (Nat.succ_lt_succ hj)]
      rfl

theorem exists_map_ok {xs : List (Except ε α)} (h : ∀ x ∈ xs, ∃ a, x = .ok a) : ∃ as : List α, as.map .ok = xs := by
  induction xs with
  | nil => exact ⟨[], rfl⟩
  | cons x xs ih =>
    obtain ⟨⟨a, rfl⟩, hxs⟩ := List.forall_mem_cons.1 h
    obtain ⟨as, rfl⟩ := ih hxs
    exact ⟨a :: as, rfl⟩

/-! ## What a failure is like -/

/-- Whatever failure a computation ends in, if it fails, has the property `P`. -/
def FailsOnly (P : ε → Prop) (x : Except ε α) : Prop := ∀ e, x = .error e → P e

namespace FailsOnly

variable {P : ε → Prop} {x : Except ε α} {f : α → Except ε β}

@[simp] theorem ok (a : α) : FailsOnly P (.ok a : Except ε α) := by
  intro e h
  cases h

@[simp] theorem error {e : ε} : FailsOnly P (.error e : Except ε α) ↔ P e := by
  simp [FailsOnly]

theorem bind (hx : FailsOnly P x) (hf : ∀ a, x = .ok a → FailsOnly P (f a)) : FailsOnly P (x >>= f) := by
  intro e h
  rcases bind_error.1 h with h | ⟨a, ha, h⟩
  · exact hx e h
  · exact hf a ha e h

theorem mapM {as : List α} (h : ∀ a ∈ as, FailsOnly P (f a)) : FailsOnly P (as.mapM f) := by
  intro e he
  obtain ⟨a, ha, he⟩ := mapM_error he
  exact h a ha e he

theorem mapM_option {o : Option α} (h : ∀ a, o = some a → FailsOnly P (f a)) : FailsOnly P (o.mapM f) := by
  cases o with
  | none => exact ok none
  | some a => exact (h a rfl).bind fun b _ => ok (some b)

end FailsOnly

end GatewayPolicy
