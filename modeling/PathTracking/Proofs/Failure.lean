import Mathlib.Data.List.Forall2

/-!
# Computations that can fail

When a computation in steps succeeds and when it fails, what renaming its errors leaves of that,
and which elements the results of a traversal belong to.
-/
namespace PathTracking

variable {ε ε' α β : Type}

theorem bind_eq_ok_iff {x : Except ε α} {f : α → Except ε β} {b : β} :
    x >>= f = .ok b ↔ ∃ a, x = .ok a ∧ f a = .ok b := by
  cases x <;> simp [bind, Except.bind]

theorem bind_eq_error_iff {x : Except ε α} {f : α → Except ε β} {e : ε} :
    x >>= f = .error e ↔ x = .error e ∨ ∃ a, x = .ok a ∧ f a = .error e := by
  cases x <;> simp [bind, Except.bind]

theorem map_eq_ok_iff {x : Except ε α} {f : α → β} {b : β} :
    x.map f = .ok b ↔ ∃ a, x = .ok a ∧ f a = b := by
  cases x <;> simp [Except.map]

theorem map_eq_error_iff {x : Except ε α} {f : α → β} {e : ε} :
    x.map f = .error e ↔ x = .error e := by
  cases x <;> simp [Except.map]

@[simp] theorem mapError_ok (a : α) (f : ε → ε') :
    (Except.ok a : Except ε α).mapError f = .ok a := rfl

@[simp] theorem mapError_error (e : ε) (f : ε → ε') :
    (Except.error e : Except ε α).mapError f = .error (f e) := rfl

theorem mapError_eq_error_iff {x : Except ε α} {f : ε → ε'} {e' : ε'} :
    x.mapError f = .error e' ↔ ∃ e, x = .error e ∧ f e = e' := by
  cases x <;> simp

theorem mapError_eq_ok_iff {x : Except ε α} {f : ε → ε'} {a : α} :
    x.mapError f = .ok a ↔ x = .ok a := by
  cases x <;> simp

theorem toOption_eq_some_iff {x : Except ε α} {a : α} : x.toOption = some a ↔ x = .ok a := by
  cases x <;> simp [Except.toOption]

/-- A traversal succeeds where every element does. -/
theorem mapM_eq_ok_iff {f : α → Except ε β} {as : List α} {bs : List β} :
    as.mapM f = .ok bs ↔ List.Forall₂ (fun a b => f a = .ok b) as bs := by
  induction as generalizing bs with
  | nil => cases bs <;> simp [pure, Except.pure]
  | cons a as ih =>
    rw [List.mapM_cons, bind_eq_ok_iff]
    constructor
    · rintro ⟨b, here, later⟩
      obtain ⟨rest, traversed, ⟨⟩⟩ := bind_eq_ok_iff.mp later
      exact .cons here (ih.mp traversed)
    · rintro (_ | ⟨here, later⟩)
      exact ⟨_, here, bind_eq_ok_iff.mpr ⟨_, ih.mpr later, rfl⟩⟩

theorem length_of_mapM {f : α → Except ε β} {as : List α} {bs : List β}
    (traversed : as.mapM f = .ok bs) : bs.length = as.length :=
  (mapM_eq_ok_iff.mp traversed).length_eq.symm

/-- Where an element of the result of a traversal comes from. -/
theorem mapM_eq_ok_split_iff {f : α → Except ε β} {as : List α} {b : β} {above below : List β} :
    as.mapM f = .ok (above ++ b :: below) ↔
      ∃ first a rest, as = first ++ a :: rest ∧ first.mapM f = .ok above ∧ f a = .ok b ∧
        rest.mapM f = .ok below := by
  simp only [mapM_eq_ok_iff]
  constructor
  · intro traversed
    have first := List.forall₂_take_append _ _ _ traversed
    obtain ⟨a, rest, here, later, split⟩ :=
      List.forall₂_cons_right_iff.mp (List.forall₂_drop_append _ _ _ traversed)
    exact ⟨_, a, rest, by rw [← split, List.take_append_drop], first, here, later⟩
  · rintro ⟨first, a, rest, rfl, above, here, later⟩
    exact List.rel_append above (.cons here later)

end PathTracking
