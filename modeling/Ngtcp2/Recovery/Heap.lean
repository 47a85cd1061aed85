import Mathlib.Order.Basic
import Ngtcp2.Recovery.Pq
import Mathlib.Order.Lattice
import Mathlib.Algebra.Order.Ring.Nat

/-!
# The order of the priority queue

Bubbling starts with one slot out of order, and the order off that slot is carried from round to round.
-/

namespace Ngtcp2

section

variable {α κ : Type} [LinearOrder κ] (addr : α → Nat) (key : α → κ) {less : α → α → Bool}

namespace Pq

variable (pq : Pq α)

def Indexed : Prop := ∀ i a, pq.q[i]? = some a → pq.index (addr a) = i

def Edge (j i : Nat) : Prop := ∀ a b, pq.q[i]? = some a → pq.q[j]? = some b → key b ≤ key a

def Heap : Prop := ∀ i, 0 < i → pq.Edge key ((i - 1) / 2) i

-- the children of the slot `k` are in order with its parent, whatever is in `k`
def Across (k : Nat) : Prop := 0 < k → ∀ c, 0 < c → (c - 1) / 2 = k → pq.Edge key ((k - 1) / 2) c

structure UpOk (k : Nat) : Prop where
  edges : ∀ i, 0 < i → i ≠ k → pq.Edge key ((i - 1) / 2) i
  across : pq.Across key k

structure DownOk (k : Nat) : Prop where
  edges : ∀ i, 0 < i → (i - 1) / 2 ≠ k → pq.Edge key ((i - 1) / 2) i
  across : pq.Across key k

-- the same below the slots in front of `lo`, which nothing is said about
def HeapFrom (lo : Nat) : Prop := ∀ i, 0 < i → lo ≤ (i - 1) / 2 → pq.Edge key ((i - 1) / 2) i

structure DownFrom (lo k : Nat) : Prop where
  edges : ∀ i, 0 < i → lo ≤ (i - 1) / 2 → (i - 1) / 2 ≠ k → pq.Edge key ((i - 1) / 2) i
  across : lo ≤ (k - 1) / 2 → pq.Across key k

structure Ok : Prop where
  indexed : pq.Indexed addr
  heap : pq.Heap key

end Pq

section Swap

variable {addr key} {pq : Pq α} {i j : Nat} {a b : α}

theorem pqSwap_get (first : pq.q[i]? = some a) (second : pq.q[j]? = some b) (k : Nat) :
    (pqSwap addr pq i j).q[k]? = if k = i then some b else if k = j then some a else pq.q[k]? := by
  obtain ⟨inside, atFirst⟩ := Array.getElem?_eq_some_iff.mp first
  obtain ⟨inside', atSecond⟩ := Array.getElem?_eq_some_iff.mp second
  unfold pqSwap
  rw [first, second]
  dsimp only
  rw [Array.swapIfInBounds_def, dif_pos inside, dif_pos inside', Array.getElem?_swap]
  by_cases same : k = i
  · subst same
    by_cases same' : k = j
    · subst same'
      simp_all
    · simp [atSecond, Ne.symm same']
  · by_cases same' : k = j
    · subst same'
      simp [same, atFirst]
    · simp [same, same', Ne.symm same, Ne.symm same']

theorem pqSwap_size (pq : Pq α) (i j : Nat) : (pqSwap addr pq i j).q.size = pq.q.size := by
  unfold pqSwap
  split
  · simp
  · rfl

theorem pqSwap_indexed (first : pq.q[i]? = some a) (second : pq.q[j]? = some b)
    (indexed : pq.Indexed addr) : (pqSwap addr pq i j).Indexed addr := by
  intro k item found
  rw [pqSwap_get first second] at found
  have index : (pqSwap addr pq i j).index =
      Function.update (Function.update pq.index (addr b) i) (addr a) j := by
    unfold pqSwap
    rw [first, second]
  have atI := indexed i a first
  have atJ := indexed j b second
  rw [index]
  by_cases same : k = i
  · subst same
    obtain rfl : b = item := by simpa using found
    by_cases alike : addr b = addr a
    · rw [alike, Function.update_self]
      rw [alike] at atJ
      omega
    · rw [Function.update_of_ne alike, Function.update_self]
  · by_cases same' : k = j
    · subst same'
      obtain rfl : a = item := by simpa [same] using found
      exact Function.update_self ..
    · have held : pq.q[k]? = some item := by simpa [same, same'] using found
      have own := indexed k item held
      have other : addr item ≠ addr a := fun h => same (by rw [← own, h, atI])
      have other' : addr item ≠ addr b := fun h => same' (by rw [← own, h, atJ])
      rw [Function.update_of_ne other, Function.update_of_ne other', own]

end Swap

section Bubble

variable {addr key} {pq : Pq α} {k : Nat} {a b : α}

theorem bubbleUp_indexed (rounds : Nat) (pq : Pq α) (k : Nat) (indexed : pq.Indexed addr) :
    (bubbleUp addr less rounds pq k).Indexed addr := by
  induction rounds generalizing pq k with
  | zero => exact indexed
  | succ rounds ih =>
    simp only [bubbleUp]
    split
    · exact indexed
    split
    next a b first second =>
      split
      · exact ih _ _ (pqSwap_indexed second first indexed)
      · exact indexed
    · exact indexed

theorem Pq.UpOk.swap (up : pq.UpOk key k) (positive : 0 < k) (first : pq.q[k]? = some a)
    (second : pq.q[(k - 1) / 2]? = some b) (before : key a < key b) :
    (pqSwap addr pq ((k - 1) / 2) k).UpOk key ((k - 1) / 2) := by
  have below : (k - 1) / 2 < k := by omega
  constructor
  · intro i above other x y held held'
    rw [pqSwap_get second first] at held held'
    by_cases here : i = k
    · -- the two have changed places
      subst here
      simp only [↓reduceIte] at held'
      rw [if_neg (by omega)] at held
      simp only [↓reduceIte, Option.some.injEq] at held held'
      subst held held'
      exact before.le
    have kept : pq.q[i]? = some x := by simpa [here, other] using held
    by_cases child : (i - 1) / 2 = k
    · rw [child, if_neg (by omega), if_pos rfl] at held'
      obtain rfl := Option.some.inj held'
      exact up.across positive i above child x b kept second
    by_cases sibling : (i - 1) / 2 = (k - 1) / 2
    · rw [sibling, if_pos rfl] at held'
      obtain rfl := Option.some.inj held'
      have least := up.edges i above here x b kept (sibling ▸ second)
      exact before.le.trans least
    · rw [if_neg sibling, if_neg child] at held'
      exact up.edges i above here x y kept held'
  · intro inner c above child x y held held'
    rw [pqSwap_get second first] at held held'
    rw [if_neg (by omega), if_neg (by omega)] at held'
    have beneath : key y ≤ key b := up.edges _ inner (by omega) b y second held'
    by_cases here : c = k
    · subst here
      rw [if_neg (by omega), if_pos rfl] at held
      obtain rfl := Option.some.inj held
      exact beneath
    · rw [if_neg (by omega), if_neg here] at held
      have least := up.edges c above here x b held (child ▸ second)
      exact beneath.trans least

variable (order : ∀ a b, less a b = decide (key a < key b))

include order

theorem bubbleUp_heap {rounds : Nat} (room : k ≤ rounds) (up : pq.UpOk key k) :
    (bubbleUp addr less rounds pq k).Heap key := by
  induction rounds generalizing pq k with
  | zero =>
    intro i above
    exact up.edges i above (by omega)
  | succ rounds ih =>
    simp only [bubbleUp]
    split
    next zero =>
      intro i above
      exact up.edges i above (by omega)
    next positive =>
    have positive : 0 < k := Nat.pos_of_ne_zero positive
    split
    next a b first second =>
      split
      next before =>
        rw [order] at before
        exact ih (by omega) (up.swap positive first second (of_decide_eq_true before))
      next after =>
        rw [order, decide_eq_true_eq] at after
        intro i above
        by_cases here : i = k
        · subst here
          intro x y held held'
          obtain rfl := Option.some.inj (first.symm.trans held)
          obtain rfl := Option.some.inj (second.symm.trans held')
          exact not_lt.mp after
        · exact up.edges i above here
    next missing =>
      intro i above
      by_cases here : i = k
      · subst here
        intro x y held held'
        exact (missing x y held held').elim
      · exact up.edges i above here

theorem minChild_spec (pq : Pq α) (j : Nat) {m : Nat} {a : α} (held : pq.q[m]? = some a) :
    (minChild less pq j m = m ∨ minChild less pq j m = j) ∧
      ∃ least, pq.q[minChild less pq j m]? = some least ∧ key least ≤ key a ∧
        ∀ b, pq.q[j]? = some b → key least ≤ key b := by
  unfold minChild
  rw [held]
  cases other : pq.q[j]? with
  | none => exact ⟨.inl rfl, a, held, le_refl _, nofun⟩
  | some b =>
    dsimp only
    rw [order]
    by_cases before : key b < key a
    · rw [if_pos (decide_eq_true before)]
      refine ⟨.inr rfl, b, other, before.le, fun b' same => ?_⟩
      obtain rfl := Option.some.inj same
      exact le_refl _
    · rw [if_neg (by simpa using before)]
      refine ⟨.inl rfl, a, held, le_refl _, fun b' same => ?_⟩
      obtain rfl := Option.some.inj same
      exact not_lt.mp before

omit order in
theorem Pq.DownFrom.swap {lo m : Nat} (down : pq.DownFrom key lo k) (bound : lo ≤ k)
    (child : m = k * 2 + 1 ∨ m = k * 2 + 2) (first : pq.q[k]? = some a) (second : pq.q[m]? = some b)
    (least : key b ≤ key a)
    (beside : ∀ c x, (c = k * 2 + 1 ∨ c = k * 2 + 2) → pq.q[c]? = some x → key b ≤ key x) :
    (pqSwap addr pq k m).DownFrom key lo m := by
  constructor
  · intro i above low other x y held held'
    rw [pqSwap_get first second] at held held'
    by_cases here : i = m
    · subst here
      rw [if_neg (by omega), if_pos rfl] at held
      rw [if_pos (by omega)] at held'
      obtain rfl := Option.some.inj held
      obtain rfl := Option.some.inj held'
      exact least
    by_cases sibling : (i - 1) / 2 = k
    · rw [if_neg (by omega), if_neg here] at held
      rw [if_pos sibling] at held'
      obtain rfl := Option.some.inj held'
      exact beside i x (by omega) held
    by_cases root : i = k
    · subst root
      rw [if_pos rfl] at held
      rw [if_neg sibling, if_neg other] at held'
      obtain rfl := Option.some.inj held
      exact down.across low above m (by omega) (by omega) b y second held'
    · rw [if_neg root, if_neg here] at held
      rw [if_neg sibling, if_neg other] at held'
      exact down.edges i above low sibling x y held held'
  · intro _ positive c above under x y held held'
    rw [pqSwap_get first second] at held held'
    rw [if_neg (by omega), if_neg (by omega)] at held
    rw [if_pos (by omega)] at held'
    obtain rfl := Option.some.inj held'
    exact down.edges c above (by omega) (by omega) x b held (under ▸ second)

theorem bubbleDown_heapFrom {lo rounds : Nat} (room : pq.q.size ≤ rounds + k) (bound : lo ≤ k)
    (down : pq.DownFrom key lo k) : (bubbleDown addr less rounds pq k).HeapFrom key lo := by
  have outside : pq.q.size ≤ k → pq.HeapFrom key lo := by
    intro beyond i above low x y held held'
    by_cases child : (i - 1) / 2 = k
    · have inside := (Array.getElem?_eq_some_iff.mp held').1
      omega
    · exact down.edges i above low child x y held held'
  induction rounds generalizing pq k with
  | zero => exact outside (by omega)
  | succ rounds ih =>
    simp only [bubbleDown]
    cases root : pq.q[k]? with
    | none =>
      have beyond := Array.getElem?_eq_none_iff.mp root
      have still (j : Nat) : minChild less pq j k = k := by
        unfold minChild
        rw [root]
        split <;> simp_all
      rw [still, still, if_pos rfl]
      exact outside beyond
    | some a =>
      obtain ⟨which, x, atLeft, leftRoot, left⟩ := minChild_spec order pq (k * 2 + 1) root
      obtain ⟨which', y, least, right, leastRight⟩ := minChild_spec order pq (k * 2 + 1 + 1) atLeft
      have beside (c : Nat) (z : α) (child : c = k * 2 + 1 ∨ c = k * 2 + 2) (held : pq.q[c]? = some z) :
          key y ≤ key z := by
        rcases child with rfl | rfl
        · exact right.trans (left z held)
        · exact leastRight z held
      split
      next same =>
        -- both children are in order with their parent
        rw [same, root] at least
        obtain rfl := Option.some.inj least
        intro i above low u w held held'
        by_cases child : (i - 1) / 2 = k
        · rw [child, root] at held'
          obtain rfl := Option.some.inj held'
          exact beside i u (by omega) held
        · exact down.edges i above low child u w held held'
      next moved =>
        generalize minChild less pq (k * 2 + 1 + 1) (minChild less pq (k * 2 + 1) k) = m at *
        have child : m = k * 2 + 1 ∨ m = k * 2 + 2 := by omega
        have swapped : (pqSwap addr pq k m).DownFrom key lo m :=
          down.swap bound child root least (right.trans leftRoot) beside
        refine ih ?_ (by omega) swapped fun beyond i above low u w held held' => ?_
        · rw [pqSwap_size]
          omega
        · by_cases under : (i - 1) / 2 = m
          · have inside := (Array.getElem?_eq_some_iff.mp held').1
            omega
          · exact swapped.edges i above low under u w held held'

theorem bubbleDown_heap {rounds : Nat} (room : pq.q.size ≤ rounds + k) (down : pq.DownOk key k) :
    (bubbleDown addr less rounds pq k).Heap key := by
  have from_ : pq.DownFrom key 0 k := ⟨fun i above _ => down.edges i above, fun _ => down.across⟩
  have heap : (bubbleDown addr less rounds pq k).HeapFrom key 0 := bubbleDown_heapFrom order room (Nat.zero_le k) from_
  exact fun i above => heap i above (Nat.zero_le _)

end Bubble

theorem bubbleDown_indexed (rounds : Nat) (pq : Pq α) (k : Nat) (indexed : pq.Indexed addr) :
    (bubbleDown addr less rounds pq k).Indexed addr := by
  induction rounds generalizing pq k with
  | zero => exact indexed
  | succ rounds ih =>
    simp only [bubbleDown]
    split
    · exact indexed
    · refine ih _ _ ?_
      generalize minChild less pq (k * 2 + 1 + 1) (minChild less pq (k * 2 + 1) k) = m
      cases first : pq.q[k]? with
      | none =>
        unfold pqSwap
        rw [first]
        exact indexed
      | some a =>
        cases second : pq.q[m]? with
        | none =>
          unfold pqSwap
          rw [first, second]
          exact indexed
        | some b => exact pqSwap_indexed first second indexed

section Operations

variable {addr key} {pq : Pq α} {item : α} (order : ∀ a b, less a b = decide (key a < key b))

theorem Pq.Heap.least (heap : pq.Heap key) {top : α} (first : pq.q[0]? = some top) {i : Nat} {a : α}
    (held : pq.q[i]? = some a) : key top ≤ key a := by
  induction i using Nat.strongRecOn generalizing a with
  | ind i ih =>
    by_cases zero : i = 0
    · subst zero
      obtain rfl := Option.some.inj (first.symm.trans held)
      exact le_refl _
    · have inside := (Array.getElem?_eq_some_iff.mp held).1
      have parent : pq.q[(i - 1) / 2]? = some pq.q[(i - 1) / 2] :=
        Array.getElem?_eq_getElem (by omega)
      have above := heap i (by omega) a _ held parent
      exact (ih _ (by omega) parent).trans above

theorem Pq.Indexed.inj (indexed : pq.Indexed addr) {i j : Nat} {a b : α} (first : pq.q[i]? = some a)
    (second : pq.q[j]? = some b) (same : addr a = addr b) : i = j := by
  rw [← indexed i a first, ← indexed j b second, same]

include order

theorem ngtcp2PqPush_ok (ok : pq.Ok addr key) (fresh : ∀ a ∈ pq.q.toList, addr a ≠ addr item) :
    (ngtcp2PqPush addr less pq item).Ok addr key := by
  constructor
  · refine bubbleUp_indexed _ _ _ fun i a held => ?_
    dsimp only at held ⊢
    rw [Array.getElem?_push] at held
    split at held
    next last =>
      obtain rfl := Option.some.inj held
      rw [Function.update_self, last]
    next =>
      have member : a ∈ pq.q.toList := by simpa using Array.mem_of_getElem? held
      rw [Function.update_of_ne (fresh a member)]
      exact ok.indexed i a held
  · refine bubbleUp_heap order (Nat.le_refl _) ⟨fun i above other x y held held' => ?_, fun positive c above child x y held => ?_⟩
    · dsimp only at held held'
      rw [Array.getElem?_push, if_neg other] at held
      have inside := (Array.getElem?_eq_some_iff.mp held).1
      rw [Array.getElem?_push, if_neg (by omega)] at held'
      exact ok.heap i above x y held held'
    · have inside := (Array.getElem?_eq_some_iff.mp held).1
      simp only [Array.size_push] at inside
      omega

omit order in
theorem replaced_get {last : α} {k i : Nat} (index : Nat → Nat) (inside : k + 1 < pq.q.size) :
    ({ pq with q := (pq.q.setIfInBounds k last).pop, index := index } : Pq α).q[i]? =
      if i = k then some last else if i + 1 < pq.q.size then pq.q[i]? else none := by
  dsimp only
  rw [Array.getElem?_pop, Array.size_setIfInBounds, Array.getElem?_setIfInBounds]
  by_cases here : i = k
  · subst here
    rw [if_pos (by omega), if_pos rfl, if_pos (by omega), if_pos rfl]
  · rw [if_neg here, if_neg (Ne.symm here)]
    by_cases short : i + 1 < pq.q.size
    · rw [if_pos (by omega), if_pos short]
    · rw [if_neg (by omega), if_neg short]

omit order in
theorem replaced_indexed {last : α} {k : Nat} (indexed : pq.Indexed addr) (inside : k + 1 < pq.q.size)
    (ends : pq.q[pq.q.size - 1]? = some last) :
    ({ pq with
        q := (pq.q.setIfInBounds k last).pop
        index := Function.update pq.index (addr last) k } : Pq α).Indexed addr := by
  intro i a held
  rw [replaced_get _ inside] at held
  dsimp only
  split at held
  next here =>
    obtain rfl := Option.some.inj held
    rw [Function.update_self, here]
  next other =>
    split at held
    next short =>
      have differ : addr a ≠ addr last := fun same => by
        have slots := indexed.inj held ends same
        omega
      rw [Function.update_of_ne differ]
      exact indexed i a held
    next => cases held

omit order in
theorem shortened_ok (ok : pq.Ok addr key) (index : Nat → Nat)
    (same : ∀ a, pq.q[pq.q.size - 1]? ≠ some a → index (addr a) = pq.index (addr a)) :
    ({ pq with q := pq.q.pop, index := index } : Pq α).Ok addr key := by
  have kept (i : Nat) (a : α) (held : pq.q.pop[i]? = some a) : pq.q[i]? = some a ∧ i + 1 < pq.q.size := by
    rw [Array.getElem?_pop] at held
    split at held
    next inside => exact ⟨held, by omega⟩
    next => cases held
  constructor
  · intro i a held
    obtain ⟨before, short⟩ := kept i a held
    dsimp only
    rw [same a fun ends => ?_]
    · exact ok.indexed i a before
    · have slots := ok.indexed.inj before ends rfl
      omega
  · intro i above x y held held'
    exact ok.heap i above x y (kept i x held).1 (kept _ y held').1

omit order in
theorem Pq.back_get {last : α} (ends : pq.q.back? = some last) : pq.q[pq.q.size - 1]? = some last := by
  rw [Array.back?_eq_getElem?] at ends
  exact ends

theorem ngtcp2PqPop_ok (ok : pq.Ok addr key) : (ngtcp2PqPop addr less pq).Ok addr key := by
  unfold ngtcp2PqPop
  cases ends : pq.q.back? with
  | none => exact ok
  | some last =>
    have last_ := Pq.back_get ends
    have some := (Array.getElem?_eq_some_iff.mp last_).1
    by_cases single : pq.q.size = 1
    · -- nothing is left
      have empty : (pq.q.setIfInBounds 0 last).pop = #[] := by
        rw [← Array.size_eq_zero_iff, Array.size_pop, Array.size_setIfInBounds, single]
      simp only [empty]
      exact ⟨fun i a held => by simp [bubbleDown] at held, fun i above x y held => by simp [bubbleDown] at held⟩
    · have inside : 0 + 1 < pq.q.size := by omega
      refine ⟨bubbleDown_indexed _ _ _ _ (replaced_indexed ok.indexed inside last_), ?_⟩
      refine bubbleDown_heap order (Nat.le_refl _) ⟨fun i above other x y held held' => ?_, fun above => by omega⟩
      rw [replaced_get _ inside] at held held'
      rw [if_neg (by omega)] at held held'
      split at held
      next =>
        split at held'
        next => exact ok.heap i above x y held held'
        next => cases held'
      next => cases held

theorem ngtcp2PqRemove_ok {pq' : Pq α} (ok : pq.Ok addr key)
    (own : ∀ held ∈ pq.q.toList, addr held = addr item → held = item)
    (run : ngtcp2PqRemove addr less pq item = .ok pq') : pq'.Ok addr key := by
  unfold ngtcp2PqRemove at run
  dsimp only at run
  split at run
  case h_2 => cases run
  case h_1 held last slot ends =>
  have last_ := Pq.back_get ends
  split at run
  · cases run
  case isFalse same =>
  have mine : held = item := own held (by simpa using Array.mem_of_getElem? slot) (not_not.mp same)
  subst mine
  split at run
  · cases run
    exact ngtcp2PqPop_ok order ok
  case isFalse positive =>
  have positive := Nat.pos_of_ne_zero positive
  split at run
  · cases run
    exact shortened_ok ok pq.index fun _ _ => rfl
  case isFalse middle =>
  generalize pq.index (addr held) = k at *
  have slotted := (Array.getElem?_eq_some_iff.mp slot).1
  have inside : k + 1 < pq.q.size := by omega
  have indexed := replaced_indexed ok.indexed inside last_
  -- the neighbours of the slot keep their order, whichever way its new item goes
  have across : ({ pq with
      q := (pq.q.setIfInBounds k last).pop
      index := Function.update pq.index (addr last) k } : Pq α).Across key k := by
    intro _ c above child x y held_ held'
    rw [replaced_get _ inside, if_neg (by omega)] at held_ held'
    split at held_
    next =>
      split at held'
      next =>
        have lower := ok.heap c above x held held_ (child ▸ slot)
        have upper := ok.heap k positive held y slot held'
        exact upper.trans lower
      next => cases held'
    next => cases held_
  split at run
  next before =>
    rw [order, decide_eq_true_eq] at before
    cases run
    refine ⟨bubbleDown_indexed _ _ _ _ indexed, bubbleDown_heap order (Nat.le_add_right _ _) ⟨?_, across⟩⟩
    intro i above other x y held_ held'
    rw [replaced_get _ inside] at held_ held'
    rw [if_neg other] at held'
    split at held'
    next =>
      split at held_
      next here =>
        obtain rfl := Option.some.inj held_
        have upper := ok.heap i above held y (here ▸ slot) held'
        exact upper.trans before.le
      next =>
        split at held_
        next => exact ok.heap i above x y held_ held'
        next => cases held_
    next => cases held'
  next after =>
    rw [order, decide_eq_true_eq] at after
    cases run
    refine ⟨bubbleUp_indexed _ _ _ indexed, bubbleUp_heap order (Nat.le_refl _) ⟨?_, across⟩⟩
    intro i above other x y held_ held'
    rw [replaced_get _ inside] at held_ held'
    rw [if_neg other] at held_
    split at held_
    next =>
      split at held'
      next here =>
        obtain rfl := Option.some.inj held'
        have lower := ok.heap i above x held held_ (here ▸ slot)
        exact (not_lt.mp after).trans lower
      next =>
        split at held'
        next => exact ok.heap i above x y held_ held'
        next => cases held'
    next => cases held_

omit order in
theorem ngtcp2PqRemove_total (ok : pq.Ok addr key) (member : item ∈ pq.q.toList) :
    ∃ pq', ngtcp2PqRemove addr less pq item = .ok pq' := by
  obtain ⟨i, inside, rfl⟩ := List.mem_iff_getElem.mp member
  have inside : i < pq.q.size := by simpa using inside
  have slot : pq.q[i]? = some pq.q[i] := Array.getElem?_eq_getElem inside
  have index := ok.indexed i _ slot
  unfold ngtcp2PqRemove
  rw [Array.getElem_toList, index]
  dsimp only
  rw [slot]
  cases ends : pq.q.back? with
  | none =>
    rw [Array.back?_eq_getElem?, Array.getElem?_eq_none_iff] at ends
    omega
  | some last =>
    dsimp only
    rw [if_neg (fun differ => differ rfl)]
    split_ifs <;> exact ⟨_, rfl⟩

end Operations

section Room

variable (less : α → α → Bool) {pq : Pq α}

def Pq.slots (pq : Pq α) : Nat × Nat := (pq.q.size, pq.capacity)

theorem pqFull_eq (pq : Pq α) : pqFull pq = decide (pq.slots.2 ≤ pq.slots.1) := rfl

theorem pqSwap_slots (pq : Pq α) (i j : Nat) : (pqSwap addr pq i j).slots = pq.slots := by
  unfold Pq.slots
  rw [pqSwap_size]
  unfold pqSwap
  split <;> rfl

theorem bubbleUp_slots (rounds : Nat) (pq : Pq α) (k : Nat) : (bubbleUp addr less rounds pq k).slots = pq.slots := by
  induction rounds generalizing pq k with
  | zero => rfl
  | succ rounds ih =>
    unfold bubbleUp
    split
    · rfl
    dsimp only
    split
    · split
      · rw [ih, pqSwap_slots]
      · rfl
    · rfl

theorem bubbleDown_slots (rounds : Nat) (pq : Pq α) (k : Nat) :
    (bubbleDown addr less rounds pq k).slots = pq.slots := by
  induction rounds generalizing pq k with
  | zero => rfl
  | succ rounds ih =>
    unfold bubbleDown
    dsimp only
    split
    · rfl
    · rw [ih, pqSwap_slots]

theorem ngtcp2PqPush_slots (item : α) (free : pqFull pq = false) :
    (ngtcp2PqPush addr less pq item).slots = (pq.q.size + 1, pq.capacity) := by
  unfold ngtcp2PqPush
  rw [bubbleUp_slots]
  simp [Pq.slots, free]

theorem ngtcp2PqPop_slots {item : α} (top : ngtcp2PqTop pq = some item) :
    (ngtcp2PqPop addr less pq).slots = (pq.q.size - 1, pq.capacity) ∧ 0 < pq.q.size := by
  have inside : 0 < pq.q.size := (Array.getElem?_eq_some_iff.mp top).1
  refine ⟨?_, inside⟩
  unfold ngtcp2PqPop
  cases ends : pq.q.back? with
  | none =>
    rw [Array.back?_eq_getElem?, Array.getElem?_eq_none_iff] at ends
    omega
  | some last =>
    dsimp only
    rw [bubbleDown_slots]
    simp [Pq.slots]

end Room

end

end Ngtcp2
