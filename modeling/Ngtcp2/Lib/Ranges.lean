import Mathlib.Data.List.Basic
import Mathlib.Order.Bounds.Defs

/-!
# Ordered lists of half-open ranges

A set of natural numbers kept as a list of ranges `[begin, stop)`, in increasing order and with at
least one number missing between two neighbours.
-/

structure Range where
  begin : Nat
  stop : Nat
  deriving DecidableEq, Repr

namespace Range

def Has (r : Range) (o : Nat) : Prop := r.begin ≤ o ∧ o < r.stop

instance (r : Range) (o : Nat) : Decidable (r.Has o) :=
  inferInstanceAs (Decidable (_ ∧ _))

/-- `o` lies in one of the ranges. -/
def Covers (rs : List Range) (o : Nat) : Prop := ∃ r ∈ rs, r.Has o

@[simp] theorem covers_nil (o : Nat) : ¬ Covers [] o := by
  simp [Covers]

@[simp] theorem covers_cons (r : Range) (rs : List Range) (o : Nat) :
    Covers (r :: rs) o ↔ r.Has o ∨ Covers rs o := by
  simp [Covers]

/-- Every range starts at `lo` or later and ends strictly before the next begins. -/
def Spaced : Nat → List Range → Prop
  | _, [] => True
  | lo, r :: rest => lo ≤ r.begin ∧ r.begin ≤ r.stop ∧ Spaced (r.stop + 1) rest

theorem Spaced.weaken {lo lo' : Nat} {rs : List Range} (h : Spaced lo rs) (le : lo' ≤ lo) :
    Spaced lo' rs := by
  cases rs with
  | nil => trivial
  | cons r rest => exact ⟨Nat.le_trans le h.1, h.2⟩

theorem Spaced.lower {lo o : Nat} {rs : List Range} (h : Spaced lo rs) (covered : Covers rs o) :
    lo ≤ o := by
  induction rs generalizing lo with
  | nil => exact absurd covered (covers_nil o)
  | cons r rest ih =>
    obtain ⟨first, nonempty, tail⟩ := h
    rcases (covers_cons r rest o).mp covered with here | later
    · exact Nat.le_trans first here.1
    · have := ih tail later
      omega

/-- A spaced list without empty ranges. -/
def Ordered : Nat → List Range → Prop
  | _, [] => True
  | lo, r :: rest => lo ≤ r.begin ∧ r.begin < r.stop ∧ Ordered (r.stop + 1) rest

theorem Ordered.spaced {lo : Nat} {rs : List Range} (h : Ordered lo rs) : Spaced lo rs := by
  induction rs generalizing lo with
  | nil => trivial
  | cons r rest ih => exact ⟨h.1, Nat.le_of_lt h.2.1, ih h.2.2⟩

theorem Ordered.weaken {lo lo' : Nat} {rs : List Range} (h : Ordered lo rs) (le : lo' ≤ lo) :
    Ordered lo' rs := by
  cases rs with
  | nil => trivial
  | cons r rest => exact ⟨Nat.le_trans le h.1, h.2⟩

theorem Ordered.lower {lo o : Nat} {rs : List Range} (h : Ordered lo rs) (covered : Covers rs o) :
    lo ≤ o :=
  h.spaced.lower covered

/-- Where the first range begins, or `top` when there is none. -/
def first (top : Nat) : List Range → Nat
  | [] => top
  | r :: _ => r.begin

theorem Ordered.first_le {lo o : Nat} {rs : List Range} (top : Nat) (h : Ordered lo rs)
    (covered : Covers rs o) : first top rs ≤ o := by
  cases rs with
  | nil => exact absurd covered (covers_nil o)
  | cons r rest =>
    have own : Ordered r.begin (r :: rest) := ⟨Nat.le_refl _, h.2⟩
    exact own.lower covered

theorem Ordered.first_covered {lo o : Nat} {rs : List Range} (top : Nat) (h : Ordered lo rs)
    (covered : Covers rs o) : Covers rs (first top rs) := by
  cases rs with
  | nil => exact absurd covered (covers_nil o)
  | cons r rest => exact (covers_cons _ _ _).mpr (Or.inl ⟨Nat.le_refl _, h.2.1⟩)

theorem Ordered.covers_tail {r : Range} {rest : List Range} {lo : Nat} (ordered : Ordered lo (r :: rest)) (o : Nat) :
    Covers rest o ↔ Covers (r :: rest) o ∧ r.stop ≤ o := by
  have later : Covers rest o → r.stop + 1 ≤ o := ordered.2.2.lower
  rw [covers_cons]
  unfold Has
  constructor
  · intro covered
    exact ⟨.inr covered, Nat.le_of_succ_le (later covered)⟩
  · rintro ⟨here | covered, beyond⟩
    · omega
    · exact covered

theorem Ordered.not_covers_stop {r : Range} {rest : List Range} {lo : Nat} (ordered : Ordered lo (r :: rest)) :
    ¬ Covers (r :: rest) r.stop := by
  intro covered
  have later := (ordered.covers_tail r.stop).mpr ⟨covered, Nat.le_refl _⟩
  have := ordered.2.2.lower later
  omega

theorem Ordered.stop_le_of_covers {r r' : Range} {rest rest' : List Range} {lo lo' : Nat} (ordered : Ordered lo (r :: rest))
    (ordered' : Ordered lo' (r' :: rest')) (same : ∀ o, Covers (r :: rest) o ↔ Covers (r' :: rest') o)
    (begins : r'.begin ≤ r.begin) : r'.stop ≤ r.stop := by
  by_contra longer
  have inside : r'.Has r.stop := ⟨Nat.le_trans begins (Nat.le_of_lt ordered.2.1), Nat.lt_of_not_le longer⟩
  exact ordered.not_covers_stop ((same _).mpr ((covers_cons _ _ _).mpr (.inl inside)))

theorem Ordered.covers_begin {r : Range} {rest : List Range} {lo : Nat} (ordered : Ordered lo (r :: rest)) :
    Covers (r :: rest) r.begin :=
  (covers_cons _ _ _).mpr (.inl ⟨Nat.le_refl _, ordered.2.1⟩)

theorem Ordered.ext {rs rs' : List Range} {lo lo' : Nat} (ordered : Ordered lo rs) (ordered' : Ordered lo' rs')
    (same : ∀ o, Covers rs o ↔ Covers rs' o) : rs = rs' := by
  induction rs generalizing lo lo' rs' with
  | nil =>
    cases rs' with
    | nil => rfl
    | cons r' rest' => exact absurd ((same _).mpr ordered'.covers_begin) (covers_nil _)
  | cons r rest ih =>
    cases rs' with
    | nil => exact absurd ((same _).mp ordered.covers_begin) (covers_nil _)
    | cons r' rest' =>
      have below : r'.begin ≤ r.begin := ordered'.first_le 0 ((same _).mp ordered.covers_begin)
      have above : r.begin ≤ r'.begin := ordered.first_le 0 ((same _).mpr ordered'.covers_begin)
      have ends := Nat.le_antisymm (ordered.stop_le_of_covers ordered' same below)
        (ordered'.stop_le_of_covers ordered (fun o => (same o).symm) above)
      have tails : rest = rest' := by
        apply ih ordered.2.2 ordered'.2.2
        intro o
        rw [ordered.covers_tail, ordered'.covers_tail, same, ends]
      obtain ⟨begin, stop⟩ := r
      obtain ⟨begin', stop'⟩ := r'
      obtain rfl : begin = begin' := Nat.le_antisymm above below
      obtain rfl : stop' = stop := ends
      rw [tails]

theorem Ordered.first_least {rs : List Range} {lo top : Nat} {P : Nat → Prop} (ordered : Ordered lo rs)
    (covers : ∀ o, Covers rs o ↔ o < top ∧ P o) (last : P top) : IsLeast {o | P o} (first top rs) := by
  by_cases empty : rs = []
  · subst empty
    refine ⟨last, fun o outside => ?_⟩
    by_contra below
    exact covers_nil o ((covers o).mpr ⟨Nat.lt_of_not_le below, outside⟩)
  · obtain ⟨r, rest, rfl⟩ := List.exists_cons_of_ne_nil empty
    have reached := (covers _).mp ordered.covers_begin
    refine ⟨reached.2, fun o outside => ?_⟩
    by_cases below : o < top
    · exact ordered.first_le top ((covers o).mpr ⟨below, outside⟩)
    · exact Nat.le_trans (Nat.le_of_lt reached.1) (Nat.le_of_not_lt below)

theorem Spaced.ordered {lo : Nat} {gaps : List Range} (spaced : Spaced lo gaps)
    (nonempty : ∀ g ∈ gaps, g.begin ≠ g.stop) : Ordered lo gaps := by
  induction gaps generalizing lo with
  | nil => trivial
  | cons g rest ih =>
    have first := nonempty g List.mem_cons_self
    obtain ⟨lower, upto, tail⟩ := spaced
    exact ⟨lower, by omega, ih tail fun g' member => nonempty g' (List.mem_cons_of_mem _ member)⟩

theorem Ordered.nonempty {lo : Nat} {gaps : List Range} (ordered : Ordered lo gaps) {g : Range} (member : g ∈ gaps) :
    g.begin ≠ g.stop := by
  induction gaps generalizing lo with
  | nil => cases member
  | cons g' rest ih =>
    rcases List.mem_cons.mp member with rfl | later
    · exact Nat.ne_of_lt ordered.2.1
    · exact ih ordered.2.2 later

theorem Ordered.length_le {lo hi : Nat} {gaps : List Range} (ordered : Ordered lo gaps)
    (below : ∀ g ∈ gaps, g.begin ≤ hi) : gaps = [] ∨ lo + 2 * (gaps.length - 1) ≤ hi := by
  induction gaps generalizing lo with
  | nil => exact .inl rfl
  | cons g rest ih =>
    right
    obtain ⟨start, nonempty, tail⟩ := ordered
    have first := below g List.mem_cons_self
    rcases ih tail fun e member => below e (List.mem_cons_of_mem _ member) with rfl | later
    · simp
      omega
    · simp only [List.length_cons]
      omega

theorem Ordered.bounds {lo : Nat} {gaps : List Range} (ordered : Ordered lo gaps) {g : Range} (member : g ∈ gaps) :
    lo ≤ g.begin ∧ g.begin < g.stop := by
  induction gaps generalizing lo with
  | nil => cases member
  | cons r rest ih =>
    obtain ⟨start, nonempty, tail⟩ := ordered
    rcases List.mem_cons.mp member with rfl | inner
    · exact ⟨start, nonempty⟩
    · have bounds := ih tail inner
      omega

theorem Ordered.before_begin {lo : Nat} {gaps : List Range} (ordered : Ordered lo gaps) {g : Range}
    (member : g ∈ gaps) (above : lo < g.begin) : ¬ Covers gaps (g.begin - 1) := by
  induction gaps generalizing lo with
  | nil => cases member
  | cons r rest ih =>
    obtain ⟨start, nonempty, tail⟩ := ordered
    have later := fun covered => tail.lower (o := g.begin - 1) covered
    rw [covers_cons]
    rcases List.mem_cons.mp member with rfl | inner
    · rintro (here | covered)
      · unfold Has at here
        omega
      · have := later covered
        omega
    · have from_ := (tail.bounds inner).1
      rintro (here | covered)
      · unfold Has at here
        omega
      · rcases Nat.eq_or_lt_of_le from_ with same | less
        · have := later covered
          omega
        · exact ih tail inner less covered

end Range
