import Mathlib.Order.Antisymmetrization

/-!
# Strict weak orders

A strict weak order compares the keys of its elements in a linear order: the keys are the classes of
elements that are not before each other.
-/

namespace WeakOrder

variable {α : Type} {less : α → α → Bool}

/-- The preorder in which `a` is at most `b` if `b` is not before `a`. -/
def notAfter (less : α → α → Bool) [weak : IsStrictWeakOrder α fun a b => less a b = true] : Preorder α where
  le a b := less b a = false
  lt a b := less a b = true
  le_refl a := by
    have irrefl := irrefl_of (fun a b => less a b = true) a
    simpa using irrefl
  le_trans a b c first second := by
    rw [← Bool.not_eq_true] at *
    intro before
    -- `b` is before `a` or `c` is before `b`, or all three are in one class
    by_cases ab : less a b = true
    · exact second (trans_of (fun a b => less a b = true) before ab)
    by_cases bc : less b c = true
    · exact first (trans_of (fun a b => less a b = true) bc before)
    exact (weak.incomp_trans a b c ⟨ab, first⟩ ⟨bc, second⟩).2 before
  lt_iff_le_not_ge a b := by
    have asymm : less a b = true → ¬ less b a = true := asymm_of (fun a b => less a b = true)
    cases ab : less a b <;> cases ba : less b a <;> simp_all

theorem exists_key (less : α → α → Bool) [IsStrictWeakOrder α fun a b => less a b = true] :
    ∃ (κ : Type) (_ : LinearOrder κ) (key : α → κ), ∀ a b, less a b = decide (key a < key b) := by
  classical
  let order := notAfter less
  have total : Std.Total (α := α) (· ≤ ·) := by
    constructor
    intro a b
    change less b a = false ∨ less a b = false
    have asymm : less a b = true → ¬ less b a = true := asymm_of (fun a b => less a b = true)
    cases ab : less a b <;> cases ba : less b a <;> simp_all
  refine ⟨Antisymmetrization α (· ≤ ·), inferInstance, toAntisymmetrization (· ≤ ·), fun a b => ?_⟩
  rw [Bool.eq_iff_iff, decide_eq_true_iff, toAntisymmetrization_lt_toAntisymmetrization_iff]
  rfl

end WeakOrder
