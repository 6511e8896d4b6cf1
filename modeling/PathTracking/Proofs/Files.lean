import Mathlib.Tactic.Common
import PathTracking.Files

/-!
# Computations among files

A computation among files can change their state with every access, whether it succeeds or not.
What it comes to, and the state it leaves behind (`perform`), is read off it step by step.
-/
namespace PathTracking

variable {σ ε ε' α β : Type}

/-- What a computation comes to among files in a state, and the state it leaves them in. -/
def perform (x : ExceptT ε (StateM σ) α) (s : σ) : Except ε α × σ := x.run.run s

@[simp]
theorem perform_pure (a : α) (s : σ) : perform (pure a : ExceptT ε (StateM σ) α) s = (.ok a, s) :=
  rfl

@[simp]
theorem perform_lift (x : Except ε α) (s : σ) :
    perform (liftM x : ExceptT ε (StateM σ) α) s = (x, s) :=
  rfl

@[simp]
theorem perform_adapt (f : ε → ε') (x : ExceptT ε (StateM σ) α) (s : σ) :
    perform (x.adapt f) s = ((perform x s).1.mapError f, (perform x s).2) :=
  rfl

theorem perform_bind (x : ExceptT ε (StateM σ) α) (f : α → ExceptT ε (StateM σ) β) (s : σ) :
    perform (x >>= f) s =
      match perform x s with
      | (.ok a, s') => perform (f a) s'
      | (.error e, s') => (.error e, s') := by
  simp only [perform, ExceptT.run_bind, StateT.run_bind]
  rcases x.run.run s with ⟨_ | _, _⟩ <;> rfl

@[simp]
theorem perform_lift_bind (x : Except ε α) (f : α → Except ε β) (s : σ) :
    perform (liftM x >>= fun a => liftM (f a) : ExceptT ε (StateM σ) β) s = (x >>= f, s) := by
  cases x <;> rfl

theorem perform_bind_of_ok {x : ExceptT ε (StateM σ) α} {f : α → ExceptT ε (StateM σ) β} {a : α}
    {s s' : σ} (first : perform x s = (.ok a, s')) : perform (x >>= f) s = perform (f a) s' := by
  rw [perform_bind, first]

theorem perform_bind_error_iff {x : ExceptT ε (StateM σ) α} {f : α → ExceptT ε (StateM σ) β}
    {e : ε} {s : σ} :
    (perform (x >>= f) s).1 = .error e ↔
      (perform x s).1 = .error e ∨
        ∃ a s', perform x s = (.ok a, s') ∧ (perform (f a) s').1 = .error e := by
  rw [perform_bind]
  obtain ⟨result, s'⟩ := perform x s
  cases result <;> simp

theorem perform_lift_bind_error_iff {x : Except ε α} {f : α → ExceptT ε (StateM σ) β} {e : ε}
    {s : σ} :
    (perform (liftM x >>= f) s).1 = .error e ↔
      x = .error e ∨ ∃ a, x = .ok a ∧ (perform (f a) s).1 = .error e := by
  rw [perform_bind, perform_lift]
  cases x <;> simp

end PathTracking
