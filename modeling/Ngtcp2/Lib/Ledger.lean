import Mathlib.Algebra.BigOperators.Group.Finset.Piecewise

/-!
# Claims of which only the highest counts

What a key is charged with is the highest number claimed for it, and the total is the sum over all keys.
-/

namespace Ledger

variable {κ : Type} [DecidableEq κ]

def highest : List (κ × Nat) → κ → Nat
  | [], _ => 0
  | (key, n) :: rest, k => if key = k then max n (highest rest k) else highest rest k

def keys (claims : List (κ × Nat)) : Finset κ := (claims.map Prod.fst).toFinset

def total (claims : List (κ × Nat)) : Nat := ∑ k ∈ keys claims, highest claims k

theorem highest_concat (claims : List (κ × Nat)) (key : κ) (n : Nat) :
    highest (claims ++ [(key, n)]) = Function.update (highest claims) key (max (highest claims key) n) := by
  funext k
  induction claims with
  | nil =>
    by_cases same : k = key
    · subst same
      simp [highest]
    · have other : key ≠ k := fun h => same h.symm
      simp [highest, same, other]
  | cons claim rest ih =>
    obtain ⟨first, m⟩ := claim
    by_cases same : k = key
    · subst same
      simp only [Function.update_self] at ih
      by_cases own : first = k <;> simp [highest, own, ih, Nat.max_assoc]
    · simp only [Function.update_of_ne same] at ih
      by_cases own : first = k <;> simp [highest, own, ih, Function.update_of_ne same]

theorem highest_absent {claims : List (κ × Nat)} {k : κ} (absent : k ∉ keys claims) :
    highest claims k = 0 := by
  induction claims with
  | nil => rfl
  | cons claim rest ih =>
    simp only [keys, List.map_cons, List.toFinset_cons, Finset.mem_insert, not_or] at absent
    have other : claim.1 ≠ k := fun h => absent.1 h.symm
    simp [highest, other, ih absent.2]

theorem keys_concat (claims : List (κ × Nat)) (key : κ) (n : Nat) :
    keys (claims ++ [(key, n)]) = insert key (keys claims) := by
  ext k
  simp [keys]

theorem total_concat (claims : List (κ × Nat)) (key : κ) (n : Nat) :
    total (claims ++ [(key, n)]) + highest claims key = total claims + max (highest claims key) n := by
  have charged : total (claims ++ [(key, n)]) =
      max (highest claims key) n + ∑ k ∈ (keys claims).erase key, highest claims k := by
    rw [total, keys_concat, highest_concat, Finset.sum_update_of_mem (Finset.mem_insert_self _ _),
      Finset.sdiff_singleton_eq_erase, Finset.erase_insert_eq_erase]
  by_cases known : key ∈ keys claims
  · have before := Finset.add_sum_erase (keys claims) (highest claims) known
    rw [← total] at before
    omega
  · rw [Finset.erase_eq_of_notMem known, ← total] at charged
    have nothing := highest_absent known
    omega

end Ledger
