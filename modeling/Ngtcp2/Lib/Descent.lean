import Mathlib.Data.List.Basic
import Mathlib.Data.List.TakeWhile

/-!
# Falling lists and falling spans

A list whose keys fall strictly is swept once against spans of numbers that lie one below the other.
-/

/-- The numbers from `lo` to `hi`, both included. -/
structure Span where
  lo : Nat
  hi : Nat
  deriving DecidableEq, Repr

namespace Span

def Has (s : Span) (n : Nat) : Prop := s.lo ≤ n ∧ n ≤ s.hi

instance (s : Span) (n : Nat) : Decidable (s.Has n) := inferInstanceAs (Decidable (_ ∧ _))

def Covers (spans : List Span) (n : Nat) : Prop := ∃ s ∈ spans, s.Has n

instance (spans : List Span) (n : Nat) : Decidable (Covers spans n) :=
  inferInstanceAs (Decidable (∃ s ∈ spans, s.Has n))

/-- Every span lies below `top` and below the one before it. -/
def Fall : Nat → List Span → Prop
  | _, [] => True
  | top, s :: rest => s.hi < top ∧ s.lo ≤ s.hi ∧ Fall s.lo rest

variable {s : Span} {rest spans : List Span} {n top : Nat}

@[simp] theorem covers_nil : ¬ Covers [] n := by
  simp [Covers]

@[simp] theorem covers_cons : Covers (s :: rest) n ↔ s.Has n ∨ Covers rest n := by
  simp [Covers]

theorem Fall.below (fall : Fall top spans) (covered : Covers spans n) : n < top := by
  induction spans generalizing top with
  | nil => simp at covered
  | cons s rest ih =>
    obtain ⟨first, nonempty, later⟩ := fall
    rcases covers_cons.mp covered with here | there
    · exact Nat.lt_of_le_of_lt here.2 first
    · have lower := ih later there
      omega

theorem covers_upper (fall : Fall top (s :: rest)) (upper : s.lo ≤ n) : Covers (s :: rest) n ↔ n ≤ s.hi := by
  constructor
  · intro covered
    rcases covers_cons.mp covered with here | there
    · exact here.2
    · have lower := fall.2.2.below there
      omega
  · intro inside
    exact covers_cons.mpr (.inl ⟨upper, inside⟩)

theorem covers_lower (lower : n < s.lo) : Covers (s :: rest) n ↔ Covers rest n := by
  constructor
  · intro covered
    rcases covers_cons.mp covered with here | there
    · have upper := here.1
      omega
    · exact there
  · intro there
    exact covers_cons.mpr (.inr there)

end Span

section Falling

variable {α : Type} {key : α → Nat} {xs : List α} {x : α} {n : Nat}

/-- The keys of a list fall strictly. -/
def Falling (key : α → Nat) (xs : List α) : Prop := xs.Pairwise fun a b => key b < key a

instance (key : α → Nat) (xs : List α) : Decidable (Falling key xs) :=
  inferInstanceAs (Decidable (xs.Pairwise _))

namespace Falling

theorem tail (falling : Falling key (x :: xs)) : Falling key xs := (List.pairwise_cons.mp falling).2

theorem head (falling : Falling key (x :: xs)) : ∀ y ∈ xs, key y < key x := (List.pairwise_cons.mp falling).1

theorem dropWhile (p : α → Bool) (falling : Falling key xs) : Falling key (xs.dropWhile p) :=
  falling.sublist (List.dropWhile_sublist p)

theorem below (falling : Falling key xs) : ∀ y ∈ xs.dropWhile fun y => decide (n ≤ key y), key y < n := by
  induction xs with
  | nil => simp
  | cons x xs ih =>
    by_cases upper : n ≤ key x
    · simpa [upper] using ih falling.tail
    · intro y member
      rw [List.dropWhile_cons, if_neg (by simpa using upper)] at member
      rcases List.mem_cons.mp member with rfl | member
      · omega
      · have less := falling.head y member
        omega

theorem at_most (falling : Falling key xs) : ∀ y ∈ xs.dropWhile fun y => decide (n < key y), key y ≤ n := by
  intro y member
  have same : (fun y => decide (n < key y)) = fun y => decide (n + 1 ≤ key y) := rfl
  rw [same] at member
  exact Nat.le_of_lt_succ (falling.below y member)

end Falling

/-- Two walks down the list, first to `hi` and then through what lies between `lo` and `hi`, end where a
walk to `lo` does. -/
theorem Falling.walk {lo hi : Nat} (falling : Falling key xs) (order : lo ≤ hi) :
    ((xs.takeWhile fun x => decide (lo ≤ key x)).filter fun x => decide (hi < key x)) =
      (xs.takeWhile fun x => decide (hi < key x)) ∧
    ((xs.dropWhile fun x => decide (hi < key x)).dropWhile fun x => decide (lo ≤ key x ∧ key x ≤ hi)) =
      xs.dropWhile fun x => decide (lo ≤ key x) := by
  induction xs with
  | nil => simp
  | cons x xs ih =>
    obtain ⟨taken, dropped⟩ := ih falling.tail
    by_cases above : hi < key x
    · have upper : lo ≤ key x := by omega
      simpa [above, upper, taken] using dropped
    · -- no key behind `x` is above `hi`
      have rest : (xs.takeWhile fun x => decide (hi < key x)) = [] := by
        cases xs with
        | nil => rfl
        | cons y ys =>
          have less := falling.head y (by simp)
          rw [List.takeWhile_cons, if_neg (by simp; omega)]
      have stays : (xs.dropWhile fun x => decide (hi < key x)) = xs := by
        have split := List.takeWhile_append_dropWhile (p := fun x => decide (hi < key x)) (l := xs)
        rwa [rest, List.nil_append] at split
      rw [rest] at taken
      rw [stays] at dropped
      by_cases upper : lo ≤ key x
      · simpa [above, upper, Nat.le_of_not_lt above, taken] using dropped
      · simp [above, upper]

theorem above_of_mem_takeWhile (member : x ∈ xs.takeWhile fun y => decide (n ≤ key y)) : n ≤ key x := by
  simpa using List.mem_takeWhile_imp member

theorem Falling.filter_covers {s : Span} {rest : List Span} {top : Nat} (falling : Falling key xs)
    (fall : Span.Fall top (s :: rest)) (p : α → Bool) :
    (xs.filter fun x => decide (Span.Covers (s :: rest) (key x)) && p x) =
      ((xs.takeWhile fun x => decide (s.lo ≤ key x)).filter fun x => decide (key x ≤ s.hi) && p x) ++
      ((xs.dropWhile fun x => decide (s.lo ≤ key x)).filter fun x => decide (Span.Covers rest (key x)) && p x) := by
  conv_lhs => rw [← List.takeWhile_append_dropWhile (p := fun x => decide (s.lo ≤ key x)) (l := xs), List.filter_append]
  congr 1
  · refine List.filter_congr fun x member => ?_
    rw [decide_eq_decide.mpr (Span.covers_upper fall (above_of_mem_takeWhile member))]
  · refine List.filter_congr fun x member => ?_
    rw [decide_eq_decide.mpr (Span.covers_lower (falling.below x member))]

theorem Falling.filter_not_covers {s : Span} {rest : List Span} {top : Nat} (falling : Falling key xs)
    (fall : Span.Fall top (s :: rest)) :
    (xs.filter fun x => !decide (Span.Covers (s :: rest) (key x))) =
      ((xs.takeWhile fun x => decide (s.lo ≤ key x)).filter fun x => decide (s.hi < key x)) ++
      ((xs.dropWhile fun x => decide (s.lo ≤ key x)).filter fun x => !decide (Span.Covers rest (key x))) := by
  conv_lhs => rw [← List.takeWhile_append_dropWhile (p := fun x => decide (s.lo ≤ key x)) (l := xs), List.filter_append]
  congr 1
  · refine List.filter_congr fun x member => ?_
    have upper := Span.covers_upper fall (above_of_mem_takeWhile member)
    by_cases inside : key x ≤ s.hi
    · simp [upper, inside]
    · simp [upper, inside, Nat.lt_of_not_le inside]
  · refine List.filter_congr fun x member => ?_
    rw [decide_eq_decide.mpr (Span.covers_lower (falling.below x member))]

theorem findIdx?_congr {p q : α → Bool} (same : ∀ x ∈ xs, p x = q x) : xs.findIdx? p = xs.findIdx? q := by
  induction xs with
  | nil => rfl
  | cons x xs ih =>
    rw [List.findIdx?_cons, List.findIdx?_cons, same x (by simp), ih fun y member => same y (by simp [member])]

theorem Falling.findIdx?_covers {s : Span} {rest : List Span} {top : Nat} (falling : Falling key xs)
    (fall : Span.Fall top (s :: rest)) (p : α → Bool) :
    (xs.findIdx? fun x => decide (Span.Covers (s :: rest) (key x)) && p x) =
      match (xs.takeWhile fun x => decide (s.lo ≤ key x)).findIdx? fun x => decide (key x ≤ s.hi) && p x with
      | some i => some i
      | none =>
        ((xs.dropWhile fun x => decide (s.lo ≤ key x)).findIdx?
          fun x => decide (Span.Covers rest (key x)) && p x).map
            (· + (xs.takeWhile fun x => decide (s.lo ≤ key x)).length) := by
  have front : ((xs.takeWhile fun x => decide (s.lo ≤ key x)).findIdx?
      fun x => decide (Span.Covers (s :: rest) (key x)) && p x) =
        (xs.takeWhile fun x => decide (s.lo ≤ key x)).findIdx? fun x => decide (key x ≤ s.hi) && p x := by
    refine findIdx?_congr fun x member => ?_
    rw [decide_eq_decide.mpr (Span.covers_upper fall (above_of_mem_takeWhile member))]
  have back : ((xs.dropWhile fun x => decide (s.lo ≤ key x)).findIdx?
      fun x => decide (Span.Covers (s :: rest) (key x)) && p x) =
        (xs.dropWhile fun x => decide (s.lo ≤ key x)).findIdx? fun x => decide (Span.Covers rest (key x)) && p x := by
    refine findIdx?_congr fun x member => ?_
    rw [decide_eq_decide.mpr (Span.covers_lower (falling.below x member))]
  conv_lhs => rw [← List.takeWhile_append_dropWhile (p := fun x => decide (s.lo ≤ key x)) (l := xs)]
  rw [List.findIdx?_append, front, back]
  cases (xs.takeWhile fun x => decide (s.lo ≤ key x)).findIdx? fun x => decide (key x ≤ s.hi) && p x <;> rfl

end Falling
