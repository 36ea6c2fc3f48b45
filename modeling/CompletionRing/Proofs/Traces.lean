import CompletionRing.Run
import Mathlib.Tactic.Common

/-!
# Traces

What a computation in two parts comes to, where the first part is known to come to its end or to
stop, and what a run takes from the computation that it was made of.
-/

namespace CompletionRing

namespace Traced

variable {α β : Type} {x : Traced α}

@[simp] lemma mk_ok_bind (events : List Event) (value : α) (f : α → Traced β) :
    (⟨events, .ok value⟩ : Traced α) >>= f =
      ⟨events ++ (f value).events, (f value).result⟩ := rfl

@[simp] lemma mk_error_bind (events : List Event) (fault : Fault) (f : α → Traced β) :
    (⟨events, .error fault⟩ : Traced α) >>= f = ⟨events, .error fault⟩ := rfl

lemma result_bind {a : α} (f : α → Traced β) (h : x.result = .ok a) :
    (x >>= f).result = (f a).result := by
  obtain ⟨events, result⟩ := x
  cases h
  rfl

lemma result_bind_error {fault : Fault} (f : α → Traced β) (h : x.result = .error fault) :
    (x >>= f).result = .error fault := by
  obtain ⟨events, result⟩ := x
  cases h
  rfl

lemma result_bind_eq_ok {f : α → Traced β} {b : β} (h : (x >>= f).result = .ok b) :
    ∃ a, x.result = .ok a ∧ (f a).result = .ok b := by
  obtain ⟨events, result⟩ := x
  cases result with
  | error fault =>
    rw [Traced.mk_error_bind] at h
    cases h
  | ok a => exact ⟨a, rfl, h⟩

end Traced

namespace Run

variable {σ α β : Type} {before : σ} {x : Traced (α × σ)} {f : α → β}

lemma exists_of_ofTraced_ok {b : β}
    (h : (ofTraced before (x >>= fun answer => pure (f answer.1, answer.2))).trace.result = .ok b) :
    ∃ a, f a = b ∧ x.result = .ok (a,
      (ofTraced before (x >>= fun answer => pure (f answer.1, answer.2))).state) := by
  obtain ⟨events, result⟩ := x
  cases result with
  | error fault => cases h
  | ok answer =>
    cases h
    exact ⟨answer.1, rfl, rfl⟩

lemma of_ofTraced_error {fault : Fault}
    (h : (ofTraced before
      (x >>= fun answer => pure (f answer.1, answer.2))).trace.result = .error fault) :
    x.result = .error fault := by
  obtain ⟨events, result⟩ := x
  cases result with
  | error fault' =>
    cases h
    rfl
  | ok answer => cases h

lemma ofTraced_of_ok {a : α} {after : σ} (h : x.result = .ok (a, after)) :
    (ofTraced before x).state = after ∧ (ofTraced before x).trace.result = .ok a := by
  rw [ofTraced, h]
  exact ⟨rfl, rfl⟩

lemma state_bind {x : Run σ α} {a : α} (f : α → σ → Run σ β) (h : x.trace.result = .ok a) :
    (x.bind f).state = (f a x.state).state := by
  rw [bind, h]

lemma result_bind {x : Run σ α} {a : α} (f : α → σ → Run σ β) (h : x.trace.result = .ok a) :
    (x.bind f).trace.result = (f a x.state).trace.result := by
  rw [bind, h]

end Run

end CompletionRing
