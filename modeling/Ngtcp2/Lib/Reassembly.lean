import Mathlib.Order.Nat
import Mathlib.Algebra.Order.Group.Nat
import Mathlib.Data.Nat.Find
import Mathlib.Tactic.Basic
import Mathlib.Tactic.SplitIfs
import Mathlib.Tactic.Tauto
import Mathlib.Data.List.Basic

/-!
# Putting a sequence together from pieces

Pieces of a sequence arrive in any order and may overlap. The front is the first position that no piece has
filled, and the text is what lies before it.
-/

structure Assembly (β : Type) where
  cell : Nat → Option β
  bounded : ∃ n, ∀ o, n ≤ o → cell o = none

namespace Assembly

variable {β : Type}

/-- What a piece says about a position. -/
def slot (offset : Nat) (data : List β) (o : Nat) : Option β :=
  if offset ≤ o then data[o - offset]? else none

theorem slot_isSome {offset : Nat} {data : List β} {o : Nat} :
    (slot offset data o).isSome = true ↔ offset ≤ o ∧ o < offset + data.length := by
  unfold slot
  split
  · simp
    omega
  · simp
    omega

theorem slot_none {offset : Nat} {data : List β} {o : Nat} (outside : ¬ (offset ≤ o ∧ o < offset + data.length)) :
    slot offset data o = none := by
  rw [← slot_isSome] at outside
  simpa using outside

def empty : Assembly β where
  cell _ := none
  bounded := ⟨0, fun _ _ => rfl⟩

section

variable (a : Assembly β)

theorem gap : ∃ o, a.cell o = none := by
  obtain ⟨n, none⟩ := a.bounded
  exact ⟨n, none n (Nat.le_refl n)⟩

def front : Nat := Nat.find a.gap

theorem cell_front : a.cell a.front = none := Nat.find_spec a.gap

variable {a}

theorem cell_below {o : Nat} (below : o < a.front) : (a.cell o).isSome = true := by
  rw [Option.isSome_iff_ne_none]
  exact Nat.find_min a.gap below

theorem front_le {o : Nat} (none : a.cell o = none) : a.front ≤ o := Nat.find_min' a.gap none

theorem le_front {n : Nat} (some : ∀ o, o < n → (a.cell o).isSome = true) : n ≤ a.front := by
  by_contra less
  have here := some a.front (by omega)
  simp [a.cell_front] at here

theorem front_eq {n : Nat} (none : a.cell n = none) (some : ∀ o, o < n → (a.cell o).isSome = true) :
    a.front = n :=
  Nat.le_antisymm (front_le none) (le_front some)

end

@[simp] theorem empty_front : (empty : Assembly β).front = 0 := front_eq rfl (by simp)

/-- The positions from `lo` up to `hi`. -/
def slice (a : Assembly β) (lo hi : Nat) : List β := (List.range' lo (hi - lo)).filterMap a.cell

def text (a : Assembly β) : List β := a.slice 0 a.front

theorem slice_append (a : Assembly β) {lo mid hi : Nat} (first : lo ≤ mid) (second : mid ≤ hi) :
    a.slice lo mid ++ a.slice mid hi = a.slice lo hi := by
  have joined := List.range'_append_1 (s := lo) (m := mid - lo) (n := hi - mid)
  rw [show lo + (mid - lo) = mid by omega, show mid - lo + (hi - mid) = hi - lo by omega] at joined
  unfold slice
  rw [← joined, List.filterMap_append]

theorem slice_congr {a b : Assembly β} {lo hi : Nat} (same : ∀ o, lo ≤ o → o < hi → a.cell o = b.cell o) :
    a.slice lo hi = b.slice lo hi := by
  refine List.filterMap_congr fun o member => ?_
  obtain ⟨from_, upto⟩ := List.mem_range'_1.mp member
  exact same o from_ (by omega)

theorem slice_map (a : Assembly β) (lo n : Nat) (f : Nat → β)
    (filled : ∀ i, i < n → a.cell (lo + i) = some (f (lo + i))) :
    a.slice lo (lo + n) = (List.range n).map fun i => f (lo + i) := by
  unfold slice
  rw [show lo + n - lo = n by omega]
  induction n with
  | zero => rfl
  | succ n ih =>
    rw [List.range'_concat, List.filterMap_append, ih fun i less => filled i (by omega), List.range_succ,
      List.map_append]
    simp [filled n (by omega)]

theorem slice_data (a : Assembly β) (lo : Nat) (data : List β)
    (same : ∀ i, (h : i < data.length) → a.cell (lo + i) = some data[i]) :
    a.slice lo (lo + data.length) = data := by
  unfold slice
  rw [show lo + data.length - lo = data.length by omega]
  induction data generalizing lo with
  | nil => rfl
  | cons d rest ih =>
    rw [List.length_cons, List.range'_succ, List.filterMap_cons]
    have first := same 0 (by simp)
    rw [Nat.add_zero] at first
    rw [first]
    simp only [List.getElem_cons_zero]
    rw [ih (lo + 1) fun i less => ?_]
    have next := same (i + 1) (by simpa using less)
    rw [List.getElem_cons_succ] at next
    rw [← next]
    congr 1
    omega

theorem length_text (a : Assembly β) : a.text.length = a.front := by
  have filled (n : Nat) (le : n ≤ a.front) : (a.slice 0 n).length = n := by
    induction n with
    | zero => rfl
    | succ n ih =>
      obtain ⟨b, held⟩ := Option.isSome_iff_exists.mp (a.cell_below (o := n) (by omega))
      have last := a.slice_map n 1 (fun _ => b) fun i less => by
        obtain rfl : i = 0 := by omega
        exact held
      rw [← a.slice_append (Nat.zero_le n) (Nat.le_succ n), List.length_append, ih (by omega)]
      rw [Nat.succ_eq_add_one, last]
      rfl
  exact filled _ (Nat.le_refl _)

/-- Nothing differs from the sequence `whole`. -/
def Agrees (a : Assembly β) (whole : List β) : Prop := ∀ o b, a.cell o = some b → whole[o]? = some b

theorem Agrees.text {a : Assembly β} {whole : List β} (agrees : a.Agrees whole) :
    a.text = whole.take a.front := by
  have within : a.front ≤ whole.length := by
    by_contra beyond
    obtain ⟨b, held⟩ := Option.isSome_iff_exists.mp (a.cell_below (o := whole.length) (by omega))
    have value := agrees _ _ held
    simp at value
  have len : (whole.take a.front).length = a.front := by simp [within]
  have cells := a.slice_data 0 (whole.take a.front) fun i less => by
    rw [len] at less
    obtain ⟨b, held⟩ := Option.isSome_iff_exists.mp (a.cell_below less)
    have value := agrees _ _ held
    obtain ⟨_, value⟩ := List.getElem?_eq_some_iff.mp value
    simp [held, value]
  rwa [len, Nat.zero_add] at cells

section Put

variable (a : Assembly β) (offset : Nat) (data : List β)

def put : Assembly β where
  cell o :=
    if offset ≤ a.front ∧ a.front ≤ o then (slot offset data o).or (a.cell o)
    else (a.cell o).or (slot offset data o)
  bounded := by
    obtain ⟨n, none⟩ := a.bounded
    refine ⟨max n (offset + data.length), fun o le => ?_⟩
    simp [none o (by omega), slot_none (by omega : ¬ (offset ≤ o ∧ o < offset + data.length))]

variable {a offset data}

theorem put_cell_isSome (o : Nat) :
    ((a.put offset data).cell o).isSome = true ↔
      (a.cell o).isSome = true ∨ offset ≤ o ∧ o < offset + data.length := by
  rw [← slot_isSome]
  unfold put
  dsimp only
  split <;> simp [Option.isSome_or, or_comm]

theorem put_cell_none {o : Nat} :
    (a.put offset data).cell o = none ↔ a.cell o = none ∧ ¬ (offset ≤ o ∧ o < offset + data.length) := by
  rw [← Option.not_isSome_iff_eq_none, ← Option.not_isSome_iff_eq_none, put_cell_isSome]
  tauto

theorem put_cell_below {o : Nat} (below : o < a.front) : (a.put offset data).cell o = a.cell o := by
  obtain ⟨b, held⟩ := Option.isSome_iff_exists.mp (a.cell_below below)
  unfold put
  dsimp only
  rw [if_neg (by omega), held]
  rfl

theorem front_le_put : a.front ≤ (a.put offset data).front :=
  le_front fun o below => (put_cell_isSome o).mpr (.inl (cell_below below))

theorem put_front_behind (behind : a.front < offset) : (a.put offset data).front = a.front :=
  Nat.le_antisymm (front_le (put_cell_none.mpr ⟨a.cell_front, by omega⟩)) front_le_put

theorem put_old (old : offset + data.length ≤ a.front) : a.put offset data = a := by
  have cells : (a.put offset data).cell = a.cell := by
    funext o
    by_cases below : o < a.front
    · exact put_cell_below below
    · have nothing := slot_none (by omega : ¬ (offset ≤ o ∧ o < offset + data.length))
      unfold put
      simp [nothing]
  cases a
  unfold put at *
  simpa using cells

theorem put_text_behind (behind : a.front < offset) : (a.put offset data).text = a.text := by
  unfold text
  rw [put_front_behind behind]
  exact slice_congr fun o _ below => put_cell_below below

theorem put_text_reached (reached : offset ≤ a.front) (new : a.front ≤ offset + data.length) :
    (a.put offset data).text = a.text ++ (data.drop (a.front - offset) ++
      a.slice (offset + data.length) (a.put offset data).front) := by
  have further : offset + data.length ≤ (a.put offset data).front := by
    refine le_front fun o below => (put_cell_isSome o).mpr ?_
    by_cases known : o < a.front
    · exact .inl (cell_below known)
    · exact .inr (by omega)
  have old : (a.put offset data).slice 0 a.front = a.slice 0 a.front :=
    slice_congr fun o _ below => put_cell_below below
  have len : (data.drop (a.front - offset)).length = offset + data.length - a.front := by
    rw [List.length_drop]
    omega
  have piece : (a.put offset data).slice a.front (offset + data.length) = data.drop (a.front - offset) := by
    have cells := (a.put offset data).slice_data a.front (data.drop (a.front - offset))
      fun i less => by
        rw [len] at less
        have inside : a.front + i - offset < data.length := by omega
        have same : data[a.front + i - offset]? = some data[a.front - offset + i] := by
          rw [List.getElem?_eq_getElem inside]
          simp only [show a.front + i - offset = a.front - offset + i by omega]
        unfold put slot
        simp only [reached, show a.front ≤ a.front + i by omega, show offset ≤ a.front + i by omega, same,
          List.getElem_drop]
        simp
    rwa [len, show a.front + (offset + data.length - a.front) = offset + data.length by omega] at cells
  have waiting : (a.put offset data).slice (offset + data.length) (a.put offset data).front =
      a.slice (offset + data.length) (a.put offset data).front := by
    refine slice_congr fun o from_ _ => ?_
    have nothing := slot_none (by omega : ¬ (offset ≤ o ∧ o < offset + data.length))
    unfold put
    simp [nothing]
  unfold text
  rw [← old, ← piece, ← waiting, slice_append _ new further, slice_append _ (Nat.zero_le _) front_le_put]

theorem Agrees.put {whole : List β} (agrees : a.Agrees whole)
    (piece : ∀ i, (h : i < data.length) → whole[offset + i]? = some data[i]) :
    (a.put offset data).Agrees whole := by
  have said (o : Nat) (b : β) (slot : slot offset data o = some b) : whole[o]? = some b := by
    unfold Assembly.slot at slot
    split at slot
    next from_ =>
      obtain ⟨less, value⟩ := List.getElem?_eq_some_iff.mp slot
      rw [← value, ← piece _ less]
      congr 1
      omega
    next => cases slot
  intro o b held
  unfold Assembly.put at held
  dsimp only at held
  split at held <;> rcases Option.or_eq_some_iff.mp held with first | ⟨-, second⟩
  · exact said o b first
  · exact agrees o b second
  · exact agrees o b first
  · exact said o b second

end Put

end Assembly
