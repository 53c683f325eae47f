import GatewayPolicy.Proofs.Atomicity
import GatewayPolicy.Proofs.Drafts
import GatewayPolicy.Proofs.Schema
/-!
# Arguments of policy calls

The arguments of a policy call are read from left to right, and the first that cannot be read is the
failure of the call. The element that it gives otherwise can be read back argument by argument.
-/

namespace GatewayPolicy

/-! ## Counts -/

namespace Text

end Text

namespace PolicyCall

end PolicyCall

/-! ## Elements -/

/-- What a computation gives is read back as the texts in `front` and those of some outcomes after
them; if an outcome is a failure, the computation fails with the first such. -/
def ReadsAs (read : Fragment → List String) (front : List String) (x : Except Cause Fragment)
    (texts : List (Except Cause String)) : Prop :=
  read <$> x = (front ++ ·) <$> texts.mapM id

namespace ReadsAs

variable {α : Type} {read : Fragment → List String} {front : List String} {texts : List (Except Cause String)}

theorem done {f : Fragment} (h : read f = front) : ReadsAs read front (.ok f) [] := by
  simp [ReadsAs, h]

/-- One argument more is read. -/
theorem step {x : Except Cause α} {k : α → Except Cause Fragment} {g : α → String}
    (h : ∀ a, x = .ok a → ReadsAs read (front ++ [g a]) (k a) texts) :
    ReadsAs read front (x >>= k) ((g <$> x) :: texts) := by
  rw [ReadsAs, List.mapM_cons]
  cases x with
  | error c => rfl
  | ok a =>
    have ha : read <$> k a = _ := h a rfl
    rw [ok_bind, ha]
    cases texts.mapM id <;> simp

/-- Some arguments more are read, all in the same way. -/
theorem steps {as : List Node} {x : Node → Except Cause α} {k : List α → Except Cause Fragment} {g : α → String}
    (h : ∀ bs, as.mapM x = .ok bs → ReadsAs read (front ++ bs.map g) (k bs) []) :
    ReadsAs read front (as.mapM x >>= k) (as.map fun a => g <$> x a) := by
  rw [ReadsAs, List.mapM_map]
  show read <$> (as.mapM x >>= k) = (front ++ ·) <$> as.mapM fun a => g <$> x a
  rw [mapM_map_result]
  cases hb : as.mapM x with
  | error c => rfl
  | ok bs =>
    have hbs : read <$> k bs = _ := h bs hb
    simp [hbs]

/-- The first text that there is not is the failure. -/
theorem error {x : Except Cause Fragment} {i : Nat} {c : Cause} (h : ReadsAs read [] x texts)
    (hi : texts[i]? = some (.error c)) (hb : ∀ j < i, ∀ t, texts[j]? = some t → ∃ a, t = .ok a) : x = .error c := by
  rw [ReadsAs, mapM_id_error hi hb] at h
  cases x with
  | error c' =>
    cases h
    rfl
  | ok f => cases h

/-- With all texts there, something is given, and they are read back. -/
theorem ok {x : Except Cause Fragment} (h : ReadsAs read [] x texts) (ht : ∀ t ∈ texts, ∃ a, t = .ok a) :
    ∃ f, x = .ok f ∧ (read f).map .ok = texts := by
  obtain ⟨ts, rfl⟩ := exists_map_ok ht
  rw [ReadsAs, mapM_id_ok] at h
  obtain ⟨f, rfl, hf⟩ := map_ok.1 h
  exact ⟨f, rfl, by rw [hf]; rfl⟩

end ReadsAs

section
variable {env : Environment}

namespace PolicyCall

variable {p : PolicyCall} {call : Node}

/-- A node that calls a policy on the request context. -/
structure Calls (o : Options) (p : PolicyCall) (call : Node) : Prop where
  kind : call.kind = .invocation
  target : ∃ t, call.target = some t ∧ t.kind = .memberAccess ∧ t.name = p.name ∧
    ∃ receiver, t.expression = some receiver ∧ receiver.kind = .identifier ∧ receiver.name = o.contextParameter

theorem Calls.calledPolicy {o : Options} (h : p.Calls o call) : calledPolicy o call = .ok p.name := by
  obtain ⟨t, ht, hk, hn, r, hr, hi, hp⟩ := h.target
  simp [GatewayPolicy.calledPolicy, h.kind, ht, hk, hn, hr, hi, hp]

theorem find?_all (p : PolicyCall) : all.find? (fun q => q.name == p.name) = some p := by
  cases p <;> rfl

end PolicyCall

end

namespace Scope

end Scope

end GatewayPolicy
