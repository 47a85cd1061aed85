import Ngtcp2.Base
import Ngtcp2.Lib.Ranges

namespace Ngtcp2

open Range

def rangeIntersect (a b : Range) : Range :=
  if max a.begin b.begin < min a.stop b.stop then
    { begin := max a.begin b.begin, stop := min a.stop b.stop }
  else { begin := 0, stop := 0 }

/-- The callers' ranges all have `begin ≤ stop`, so that the source's subtraction does not wrap. -/
def rangeLen (r : Range) : Nat := r.stop - r.begin

def rangeEqual (a b : Range) : Bool := a.begin == b.begin && a.stop == b.stop

def rangeCut (a b : Range) : Range × Range :=
  ({ begin := a.begin, stop := b.begin }, { begin := b.stop, stop := a.stop })

def rangeNotAfter (a b : Range) : Bool := decide (a.stop ≤ b.stop)

theorem rangeIntersect_has (a b : Range) (o : Nat) :
    (rangeIntersect a b).Has o ↔ a.Has o ∧ b.Has o := by
  unfold rangeIntersect Has
  split_ifs <;> simp only [] <;> omega

theorem rangeIntersect_nonempty {a b : Range} (len : rangeLen (rangeIntersect a b) ≠ 0) :
    rangeIntersect a b = { begin := max a.begin b.begin, stop := min a.stop b.stop } ∧
      max a.begin b.begin < min a.stop b.stop := by
  unfold rangeIntersect at *
  split_ifs at * with overlap
  · exact ⟨rfl, overlap⟩
  · exact absurd rfl len

theorem rangeIntersect_empty {a b : Range} (len : rangeLen (rangeIntersect a b) = 0) (o : Nat) :
    ¬ (a.Has o ∧ b.Has o) := by
  rw [← rangeIntersect_has]
  unfold rangeLen at len
  unfold Has
  omega

/-!
The trackers of acknowledged offsets, of received offsets and their common loop over the list of
gaps. `write` is what the loop does with each part of a gap that it closes.
-/

/-- The gap `g` without its part `m`: what the loop leaves behind it, and the gap it stands at. -/
def cutGap (g m : Range) : List Range × Range :=
  let (l, r) := rangeCut g m
  if rangeLen l ≠ 0 then
    if rangeLen r ≠ 0 then ([l], r) else ([], l)
  else if rangeLen r ≠ 0 then ([], r)
  else ([], g)

def pushGaps {δ : Type} (write : Range → δ → δ) (q : Range) : List Range → δ → List Range × δ
  | [], d => ([], d)
  | g :: rest, d =>
    let m := rangeIntersect q g
    if rangeLen m ≠ 0 then
      if rangeEqual g m then pushGaps write q rest (write m d)
      else
        let (before, at_) := cutGap g m
        if rangeNotAfter q at_ then (before ++ at_ :: rest, write m d)
        else
          let (gaps, d) := pushGaps write q rest (write m d)
          (before ++ at_ :: gaps, d)
    else if rangeNotAfter q g then (g :: rest, d)
    else
      let (gaps, d) := pushGaps write q rest d
      (g :: gaps, d)

def closedParts (q : Range) : List Range → List Range
  | [] => []
  | g :: rest =>
    let m := rangeIntersect q g
    if rangeLen m ≠ 0 then
      if rangeEqual g m then m :: closedParts q rest
      else if rangeNotAfter q (cutGap g m).2 then [m]
      else m :: closedParts q rest
    else if rangeNotAfter q g then []
    else closedParts q rest

theorem pushGaps_snd {δ : Type} (write : Range → δ → δ) (q : Range) (gaps : List Range) (d : δ) :
    (pushGaps write q gaps d).2 = (closedParts q gaps).foldl (fun d m => write m d) d := by
  induction gaps generalizing d with
  | nil => rfl
  | cons g rest ih =>
    simp only [pushGaps, closedParts]
    split_ifs <;> simp [ih]

theorem cutGap_cases {q g : Range} (len : rangeLen (rangeIntersect q g) ≠ 0)
    (differ : ¬ rangeEqual g (rangeIntersect q g)) :
    (g.begin < q.begin ∧ q.begin < q.stop ∧ q.stop < g.stop ∧
      cutGap g (rangeIntersect q g) = ([⟨g.begin, q.begin⟩], ⟨q.stop, g.stop⟩)) ∨
    (g.begin < q.begin ∧ q.begin < g.stop ∧ g.stop ≤ q.stop ∧
      cutGap g (rangeIntersect q g) = ([], ⟨g.begin, q.begin⟩)) ∨
    (q.begin ≤ g.begin ∧ g.begin < q.stop ∧ q.stop < g.stop ∧
      cutGap g (rangeIntersect q g) = ([], ⟨q.stop, g.stop⟩)) := by
  obtain ⟨meet, overlap⟩ := rangeIntersect_nonempty len
  rw [meet] at differ ⊢
  simp only [rangeEqual, Bool.and_eq_true, beq_iff_eq, not_and] at differ
  have left : rangeLen ⟨g.begin, max q.begin g.begin⟩ ≠ 0 ↔ g.begin < q.begin := by
    simp only [rangeLen]
    omega
  have right : rangeLen ⟨min q.stop g.stop, g.stop⟩ ≠ 0 ↔ q.stop < g.stop := by
    simp only [rangeLen]
    omega
  simp only [cutGap, rangeCut, left, right]
  by_cases before : g.begin < q.begin
  · by_cases after : q.stop < g.stop
    · refine Or.inl ⟨before, by omega, after, ?_⟩
      simp [before, after, Nat.le_of_lt]
    · refine Or.inr (Or.inl ⟨before, by omega, by omega, ?_⟩)
      simp [before, after, Nat.le_of_lt]
  · have after : q.stop < g.stop := by omega
    refine Or.inr (Or.inr ⟨by omega, by omega, after, ?_⟩)
    simp [before, after, Nat.le_of_lt]

theorem cutGap_has {q g : Range} (len : rangeLen (rangeIntersect q g) ≠ 0)
    (differ : ¬ rangeEqual g (rangeIntersect q g)) (o : Nat) :
    Covers ((cutGap g (rangeIntersect q g)).1 ++ [(cutGap g (rangeIntersect q g)).2]) o ↔
      g.Has o ∧ ¬ q.Has o := by
  rcases cutGap_cases len differ with ⟨_, _, _, cut⟩ | ⟨_, _, _, cut⟩ | ⟨_, _, _, cut⟩ <;>
    rw [cut] <;> simp [Has] <;> omega

theorem cutGap_ordered {q g : Range} {lo : Nat} {rest : List Range}
    (len : rangeLen (rangeIntersect q g) ≠ 0) (differ : ¬ rangeEqual g (rangeIntersect q g))
    (ordered : Ordered lo (g :: rest)) {gaps : List Range} (tail : Ordered (g.stop + 1) gaps) :
    Ordered lo
      ((cutGap g (rangeIntersect q g)).1 ++ (cutGap g (rangeIntersect q g)).2 :: gaps) := by
  obtain ⟨lower, nonempty, _⟩ := ordered
  rcases cutGap_cases len differ with ⟨_, _, _, cut⟩ | ⟨_, _, _, cut⟩ | ⟨_, _, _, cut⟩ <;> rw [cut]
  · exact ⟨lower, by assumption, by simp only []; omega, by assumption, tail⟩
  · exact ⟨lower, by assumption, tail.weaken (by simp only []; omega)⟩
  · exact ⟨by simp only []; omega, by assumption, tail⟩

theorem cutGap_stop {q g : Range} (len : rangeLen (rangeIntersect q g) ≠ 0)
    (differ : ¬ rangeEqual g (rangeIntersect q g)) :
    (cutGap g (rangeIntersect q g)).2.stop ≤ g.stop := by
  rcases cutGap_cases len differ with ⟨_, _, _, cut⟩ | ⟨_, inside, _, cut⟩ | ⟨_, _, _, cut⟩ <;>
    rw [cut]
  exact Nat.le_of_lt inside

theorem pushGaps_ordered {δ : Type} (write : Range → δ → δ) (q : Range) {gaps : List Range}
    {lo : Nat} (ordered : Ordered lo gaps) (d : δ) : Ordered lo (pushGaps write q gaps d).1 := by
  induction gaps generalizing lo d with
  | nil => trivial
  | cons g rest ih =>
    have tail := ordered.2.2
    simp only [pushGaps]
    split_ifs with len equal before before
    · exact (ih tail _).weaken (by have := ordered.1; have := ordered.2.1; omega)
    · exact cutGap_ordered len equal ordered tail
    · exact cutGap_ordered len equal ordered (ih tail _)
    · exact ordered
    · exact ⟨ordered.1, ordered.2.1, ih tail _⟩

theorem rangeNotAfter_rest {q : Range} {stop o : Nat} {rest : List Range}
    (before : q.stop ≤ stop) (tail : Ordered (stop + 1) rest) (covered : Covers rest o) :
    ¬ q.Has o := by
  have := tail.lower covered
  unfold Has
  omega

theorem rangeEqual_has {q g : Range} (equal : rangeEqual g (rangeIntersect q g)) {o : Nat}
    (has : g.Has o) : q.Has o := by
  have both := (rangeIntersect_has q g o).mp
  simp only [rangeEqual, Bool.and_eq_true, beq_iff_eq] at equal
  exact (both ⟨by rw [← equal.1]; exact has.1, by rw [← equal.2]; exact has.2⟩).1

theorem pushGaps_covers {δ : Type} (write : Range → δ → δ) (q : Range) {gaps : List Range}
    {lo : Nat} (ordered : Ordered lo gaps) (d : δ) (o : Nat) :
    Covers (pushGaps write q gaps d).1 o ↔ Covers gaps o ∧ ¬ q.Has o := by
  induction gaps generalizing lo d with
  | nil => simp [pushGaps]
  | cons g rest ih =>
    have tail := ordered.2.2
    have split (gaps : List Range) (b : List Range) (a : Range) :
        Covers (b ++ a :: gaps) o ↔ Covers (b ++ [a]) o ∨ Covers gaps o := by
      simp [Covers, or_and_right, exists_or, or_assoc]
    simp only [pushGaps]
    split_ifs with len equal before before
    · have inside := fun has => rangeEqual_has equal (o := o) has
      rw [ih tail, covers_cons]
      tauto
    · have beyond := fun covered => rangeNotAfter_rest (q := q) (o := o)
        (Nat.le_trans (of_decide_eq_true before) (cutGap_stop len equal)) tail covered
      rw [split, cutGap_has len equal, covers_cons]
      tauto
    · rw [split, cutGap_has len equal, covers_cons, ih tail]
      tauto
    · have beyond := fun covered => rangeNotAfter_rest (q := q) (o := o)
        (of_decide_eq_true before) tail covered
      have apart := rangeIntersect_empty (not_not.mp len) o
      rw [covers_cons]
      tauto
    · have apart := rangeIntersect_empty (not_not.mp len) o
      rw [covers_cons, covers_cons, ih tail]
      tauto

theorem closedParts_covers (q : Range) {gaps : List Range} {lo : Nat}
    (ordered : Ordered lo gaps) (o : Nat) :
    Covers (closedParts q gaps) o ↔ Covers gaps o ∧ q.Has o := by
  induction gaps generalizing lo with
  | nil => simp [closedParts]
  | cons g rest ih =>
    have tail := ordered.2.2
    simp only [closedParts]
    split_ifs with len equal before before
    · rw [covers_cons, covers_cons, ih tail, rangeIntersect_has]
      tauto
    · have beyond := fun covered => rangeNotAfter_rest (q := q) (o := o)
        (Nat.le_trans (of_decide_eq_true before) (cutGap_stop len equal)) tail covered
      rw [covers_cons, covers_cons, rangeIntersect_has]
      simp only [covers_nil, or_false]
      tauto
    · rw [covers_cons, covers_cons, ih tail, rangeIntersect_has]
      tauto
    · have beyond := fun covered => rangeNotAfter_rest (q := q) (o := o)
        (of_decide_eq_true before) tail covered
      have apart := rangeIntersect_empty (not_not.mp len) o
      rw [covers_cons]
      simp only [covers_nil, false_iff]
      tauto
    · have apart := rangeIntersect_empty (not_not.mp len) o
      rw [covers_cons, ih tail]
      tauto

theorem closedParts_nonempty (q : Range) (gaps : List Range) {m : Range}
    (member : m ∈ closedParts q gaps) : m.begin < m.stop := by
  induction gaps with
  | nil => exact absurd member (by simp [closedParts])
  | cons g rest ih =>
    have here (len : rangeLen (rangeIntersect q g) ≠ 0) :
        (rangeIntersect q g).begin < (rangeIntersect q g).stop := by
      unfold rangeLen at len
      omega
    simp only [closedParts] at member
    split_ifs at member with len
    · rcases List.mem_cons.mp member with rfl | later
      · exact here len
      · exact ih later
    · exact List.mem_singleton.mp member ▸ here len
    · rcases List.mem_cons.mp member with rfl | later
      · exact here len
      · exact ih later
    · exact absurd member List.not_mem_nil
    · exact ih member

/-- `ngtcp2_gaptr`: the offsets that have not been acknowledged. -/
structure Gaptr where
  gap : List Range
  deriving DecidableEq, Repr

def ngtcp2GaptrInit : Gaptr := { gap := [{ begin := 0, stop := uint64Max }] }

def ngtcp2GaptrPush (gaptr : Gaptr) (offset datalen : Nat) : Gaptr :=
  let q : Range := { begin := offset, stop := add64 offset datalen }
  { gap := (pushGaps (fun _ u => u) q gaptr.gap ()).1 }

def ngtcp2GaptrFirstGapOffset (gaptr : Gaptr) : Nat := first uint64Max gaptr.gap

end Ngtcp2
