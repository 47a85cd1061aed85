import Mathlib.Data.List.Basic
import Mathlib.Algebra.GroupWithZero.Nat

/-!
# Filling a space in order

Items of a queue, some of which are dead, are written one after the other until one does not fit.
-/

namespace Ngtcp2

variable {α : Type} (size : α → Nat) (dead : α → Bool)

def total (xs : List α) : Nat := (xs.map size).sum

@[simp] theorem total_nil : total size [] = 0 := rfl

@[simp] theorem total_cons (x : α) (xs : List α) : total size (x :: xs) = size x + total size xs := List.sum_cons

def living (xs : List α) : List α := xs.filter fun x => !dead x

@[simp] theorem living_nil : living dead [] = [] := rfl

theorem living_dead {x : α} (isDead : dead x = true) (xs : List α) : living dead (x :: xs) = living dead xs := by
  simp [living, isDead]

theorem living_live {x : α} (live : dead x = false) (xs : List α) : living dead (x :: xs) = x :: living dead xs := by
  simp [living, live]

/-- `written` are the living items at the front of a queue that fit behind `used` of the `space`, and `left` has the
others. -/
structure Packs (used space : Nat) (queue written left : List α) : Prop where
  live : ∀ x ∈ written, dead x = false
  split : living dead queue = written ++ living dead left
  fits : written ≠ [] → used + total size written ≤ space
  longest : ∀ x rest, living dead left = x :: rest → space < used + total size written + size x

variable {size dead} {used space : Nat} {x : α} {queue written left : List α}

namespace Packs

theorem nil : Packs size dead used space [] [] [] := ⟨by simp, rfl, by simp, by simp⟩

theorem skip_iff (isDead : dead x = true) :
    Packs size dead used space (x :: queue) written left ↔ Packs size dead used space queue written left := by
  constructor
  · intro ⟨live, split, fits, longest⟩
    exact ⟨live, (living_dead dead isDead queue).symm.trans split, fits, longest⟩
  · intro ⟨live, split, fits, longest⟩
    exact ⟨live, (living_dead dead isDead queue).trans split, fits, longest⟩

theorem cons_iff (live : dead x = false) (room : used + size x ≤ space) :
    Packs size dead used space (x :: queue) (x :: written) left ↔
      Packs size dead (used + size x) space queue written left := by
  have sum (w : List α) : used + total size (x :: w) = used + size x + total size w := by
    rw [total_cons, Nat.add_assoc]
  constructor
  · intro packs
    refine ⟨fun y member => packs.live y (List.mem_cons_of_mem x member), ?_, fun _ => ?_, fun y rest first => ?_⟩
    · have split := packs.split
      rw [living_live dead live, List.cons_append] at split
      exact (List.cons.inj split).2
    · exact sum written ▸ packs.fits (List.cons_ne_nil x written)
    · exact sum written ▸ packs.longest y rest first
  · intro packs
    refine ⟨List.forall_mem_cons.mpr ⟨live, packs.live⟩, ?_, fun _ => ?_, fun y rest first => ?_⟩
    · rw [living_live dead live, packs.split, List.cons_append]
    · rw [sum]
      by_cases empty : written = []
      · simpa [empty] using room
      · exact packs.fits empty
    · rw [sum]
      exact packs.longest y rest first

theorem stop_iff : Packs size dead used space queue [] queue ↔
    ∀ y rest, living dead queue = y :: rest → space < used + size y := by
  constructor
  · intro packs
    simpa using packs.longest
  · intro full
    exact ⟨by simp, rfl, by simp, by simpa using full⟩

theorem not_dead (isDead : dead x = true) : ¬ Packs size dead used space queue (x :: written) left := by
  intro packs
  have live := packs.live x List.mem_cons_self
  simp [isDead] at live

end Packs

end Ngtcp2
