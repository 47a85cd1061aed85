import Ngtcp2.Base
import Mathlib.Data.List.Perm.Basic
import Mathlib.Logic.Function.Basic

namespace Ngtcp2

/-- `ngtcp2_pq`. `index` is the `index` member of the item at an address. -/
structure Pq (α : Type) where
  q : Array α
  index : Nat → Nat
  capacity : Nat

section

variable {α : Type} (addr : α → Nat) (less : α → α → Bool)

def ngtcp2PqInit : Pq α := { q := #[], index := fun _ => 0, capacity := 0 }

def pqSwap (pq : Pq α) (i j : Nat) : Pq α :=
  match pq.q[i]?, pq.q[j]? with
  | some a, some b =>
    { pq with
      q := pq.q.swapIfInBounds i j
      index := Function.update (Function.update pq.index (addr b) i) (addr a) j }
  | _, _ => pq

/-- The parent of `index` is smaller, so that `index` bounds the rounds. -/
def bubbleUp : Nat → Pq α → Nat → Pq α
  | 0, pq, _ => pq
  | rounds + 1, pq, index =>
    if index = 0 then pq
    else
      let parent := (index - 1) / 2
      match pq.q[index]?, pq.q[parent]? with
      | some a, some b =>
        if less a b then bubbleUp rounds (pqSwap addr pq parent index) parent else pq
      | _, _ => pq

/-- The smallest of the items at `minindex` and `j`. -/
def minChild (pq : Pq α) (j minindex : Nat) : Nat :=
  match pq.q[j]?, pq.q[minindex]? with
  | some a, some b => if less a b then j else minindex
  | _, _ => minindex

def bubbleDown : Nat → Pq α → Nat → Pq α
  | 0, pq, _ => pq
  | rounds + 1, pq, index =>
    let j := index * 2 + 1
    let minindex := minChild less pq (j + 1) (minChild less pq j index)
    if minindex = index then pq
    else bubbleDown rounds (pqSwap addr pq index minindex) minindex

def pqFull (pq : Pq α) : Bool := decide (pq.capacity ≤ pq.q.size)

def ngtcp2PqPush (pq : Pq α) (item : α) : Pq α :=
  let capacity := if pqFull pq then max 4 (pq.capacity * 2) else pq.capacity
  let len := pq.q.size
  bubbleUp addr less len
    { q := pq.q.push item, index := Function.update pq.index (addr item) len, capacity := capacity }
    len

def ngtcp2PqTop (pq : Pq α) : Option α := pq.q[0]?

def ngtcp2PqPop (pq : Pq α) : Pq α :=
  match pq.q.back? with
  | none => pq
  | some last =>
    let pq' : Pq α :=
      { pq with
        q := (pq.q.setIfInBounds 0 last).pop
        index := Function.update pq.index (addr last) 0 }
    bubbleDown addr less pq'.q.size pq' 0

/-- The assertion that the slot `item->index` holds the item itself is the error case. -/
def ngtcp2PqRemove (pq : Pq α) (item : α) : Except Err (Pq α) :=
  let index := pq.index (addr item)
  match pq.q[index]?, pq.q.back? with
  | some held, some last =>
    if addr held ≠ addr item then .error .ABORT
    else if index = 0 then .ok (ngtcp2PqPop addr less pq)
    else if index = pq.q.size - 1 then .ok { pq with q := pq.q.pop }
    else
      let pq' : Pq α :=
        { pq with
          q := (pq.q.setIfInBounds index last).pop
          index := Function.update pq.index (addr last) index }
      if less item last then .ok (bubbleDown addr less pq'.q.size pq' index)
      else .ok (bubbleUp addr less index pq' index)
  | _, _ => .error .ABORT

/-- The loop of `ngtcp2_pq_update` over the items. The callback may change an item and says whether it did. -/
def pqUpdateItems {σ : Type} (fn : α → σ → (α × Bool) × σ) : List α → σ → (List α × Bool) × σ
  | [], arg => (([], false), arg)
  | a :: rest, arg =>
    let ((a, changed), arg) := fn a arg
    let ((rest, rv), arg) := pqUpdateItems fn rest arg
    ((a :: rest, changed || rv), arg)

/-- `bubble_down` for every slot in front of `i`, from the last one to the first. -/
def bubbleDownAll : Nat → Pq α → Pq α
  | 0, pq => pq
  | i + 1, pq => bubbleDownAll i (bubbleDown addr less pq.q.size pq i)

def ngtcp2PqUpdate {σ : Type} (pq : Pq α) (fn : α → σ → (α × Bool) × σ) (arg : σ) : Pq α × σ :=
  if pq.q.size = 0 then (pq, arg)
  else
    let ((items, rv), arg) := pqUpdateItems fn pq.q.toList arg
    let pq := { pq with q := items.toArray }
    (if rv then bubbleDownAll addr less pq.q.size pq else pq, arg)

theorem pqSwap_perm (pq : Pq α) (i j : Nat) :
    (pqSwap addr pq i j).q.toList.Perm pq.q.toList := by
  unfold pqSwap
  split
  · dsimp only
    rw [Array.swapIfInBounds_def]
    split
    · split
      case isTrue lt lt' => exact Array.perm_iff_toList_perm.mp (Array.swap_perm lt lt')
      case isFalse => exact .refl _
    · exact .refl _
  · exact .refl _

theorem bubbleUp_perm (rounds : Nat) (pq : Pq α) (index : Nat) :
    (bubbleUp addr less rounds pq index).q.toList.Perm pq.q.toList := by
  induction rounds generalizing pq index with
  | zero => exact .refl _
  | succ rounds ih =>
    simp only [bubbleUp]
    split
    · exact .refl _
    split
    · split
      · exact (ih _ _).trans (pqSwap_perm addr pq _ _)
      · exact .refl _
    · exact .refl _

theorem bubbleDown_perm (rounds : Nat) (pq : Pq α) (index : Nat) :
    (bubbleDown addr less rounds pq index).q.toList.Perm pq.q.toList := by
  induction rounds generalizing pq index with
  | zero => exact .refl _
  | succ rounds ih =>
    simp only [bubbleDown]
    split
    · exact .refl _
    · exact (ih _ _).trans (pqSwap_perm addr pq _ _)

theorem ngtcp2PqPush_perm (pq : Pq α) (item : α) :
    (ngtcp2PqPush addr less pq item).q.toList.Perm (item :: pq.q.toList) := by
  refine (bubbleUp_perm addr less _ _ _).trans ?_
  simp only [Array.toList_push]
  exact List.perm_append_singleton item pq.q.toList

theorem replaceByLast_perm {items : List α} {i : Nat} {held last : α} (inside : items[i]? = some held)
    (ends : items.getLast? = some last) :
    items.Perm (held :: (items.set i last).dropLast) := by
  obtain ⟨init, rfl⟩ := List.getLast?_eq_some_iff.mp ends
  obtain ⟨lt, rfl⟩ := List.getElem?_eq_some_iff.mp inside
  by_cases before : i < init.length
  · rw [List.set_append_left i last before, List.dropLast_concat, List.getElem_append_left before]
    refine (List.perm_append_singleton last init).trans ?_
    have taken := (List.getElem_cons_eraseIdx_perm before).symm.cons last
    have put := (List.set_perm_cons_eraseIdx before last).symm.cons init[i]
    exact taken.trans ((List.Perm.swap _ _ _).trans put)
  · have eq : i = init.length := by
      simp only [List.length_append, List.length_singleton] at lt
      omega
    subst eq
    simp only [List.getElem_concat_length, List.set_append_right _ _ (Nat.le_refl _), Nat.sub_self,
      List.set_cons_zero, List.dropLast_concat]
    exact List.perm_append_singleton last init

theorem ngtcp2PqPop_perm {pq : Pq α} {item : α} (top : ngtcp2PqTop pq = some item) :
    pq.q.toList.Perm (item :: (ngtcp2PqPop addr less pq).q.toList) := by
  have inside : pq.q.toList[0]? = some item := by
    rw [Array.getElem?_toList]
    exact top
  unfold ngtcp2PqPop
  cases ends : pq.q.back? with
  | none =>
    have empty : pq.q.toList = [] := by
      rw [← Array.getLast?_toList, List.getLast?_eq_none_iff] at ends
      exact ends
    rw [empty] at inside
    cases inside
  | some last =>
    rw [← Array.getLast?_toList] at ends
    refine (replaceByLast_perm inside ends).trans (.cons _ ?_)
    refine .symm ((bubbleDown_perm addr less _ _ _).trans ?_)
    simp only [Array.toList_pop, Array.toList_setIfInBounds]
    exact .refl _

theorem ngtcp2PqRemove_perm {pq pq' : Pq α} {item : α}
    (run : ngtcp2PqRemove addr less pq item = .ok pq') :
    ∃ held, addr held = addr item ∧ pq.q.toList.Perm (held :: pq'.q.toList) := by
  unfold ngtcp2PqRemove at run
  dsimp only at run
  split at run
  case h_2 => cases run
  case h_1 held last slot ends =>
  rw [← Array.getLast?_toList] at ends
  have inside : pq.q.toList[pq.index (addr item)]? = some held := by
    rw [Array.getElem?_toList]
    exact slot
  have replaced := replaceByLast_perm inside ends
  split at run
  · cases run
  case isFalse same =>
  refine ⟨held, not_not.mp same, ?_⟩
  split at run
  case isTrue zero =>
    cases run
    rw [zero] at slot
    exact ngtcp2PqPop_perm addr less slot
  split at run
  case isTrue final =>
    cases run
    -- the item is the last one, so that nothing has to take its place
    obtain ⟨init, items⟩ := List.getLast?_eq_some_iff.mp ends
    have size : pq.q.size = init.length + 1 := by
      rw [← Array.length_toList, items]
      simp
    rw [final, size, Nat.add_sub_cancel, items, List.getElem?_concat_length] at inside
    cases inside
    simp only [Array.toList_pop, items, List.dropLast_concat]
    exact List.perm_append_singleton held init
  split at run
  · cases run
    refine replaced.trans (.cons _ (.symm ((bubbleDown_perm addr less _ _ _).trans ?_)))
    simp only [Array.toList_pop, Array.toList_setIfInBounds]
    exact .refl _
  · cases run
    refine replaced.trans (.cons _ (.symm ((bubbleUp_perm addr less _ _ _).trans ?_)))
    simp only [Array.toList_pop, Array.toList_setIfInBounds]
    exact .refl _

end

end Ngtcp2
