import Ngtcp2.Lib.WeakOrder
import Ngtcp2.Recovery.Heap

/-!
# Runs of the priority queue

Whatever is pushed, popped, removed or changed, for any strict weak order, the array stays a heap in which
every item knows its slot.
-/

namespace Ngtcp2

section Update

variable {α κ σ : Type} [LinearOrder κ] {addr : α → Nat} {key : α → κ} {less : α → α → Bool} {pq : Pq α}

theorem bubbleDownAll_perm (i : Nat) (pq : Pq α) : (bubbleDownAll addr less i pq).q.toList.Perm pq.q.toList := by
  induction i generalizing pq with
  | zero => exact .refl _
  | succ i ih => exact (ih _).trans (bubbleDown_perm addr less _ _ _)

theorem bubbleDownAll_indexed (i : Nat) (indexed : pq.Indexed addr) : (bubbleDownAll addr less i pq).Indexed addr := by
  induction i generalizing pq with
  | zero => exact indexed
  | succ i ih => exact ih (bubbleDown_indexed addr _ _ _ indexed)

theorem bubbleDownAll_heap (order : ∀ a b, less a b = decide (key a < key b)) (i : Nat) (behind : pq.HeapFrom key i) :
    (bubbleDownAll addr less i pq).Heap key := by
  induction i generalizing pq with
  | zero => exact fun i above => behind i above (Nat.zero_le _)
  | succ i ih =>
    apply ih
    apply bubbleDown_heapFrom order (Nat.le_add_right _ _) (Nat.le_refl i)
    constructor
    · intro j above low other
      exact behind j above (by omega)
    · intro low above
      omega

structure Reporting (addr : α → Nat) (less : α → α → Bool) (fn : α → σ → (α × Bool) × σ) : Prop where
  addr : ∀ a arg, addr (fn a arg).1.1 = addr a
  silent : ∀ a arg, (fn a arg).1.2 = false → less (fn a arg).1.1 a = false ∧ less a (fn a arg).1.1 = false

variable {fn : α → σ → (α × Bool) × σ}

theorem pqUpdateItems_addr (reporting : Reporting addr less fn) (items : List α) (arg : σ) :
    (pqUpdateItems fn items arg).1.1.map addr = items.map addr := by
  induction items generalizing arg with
  | nil => rfl
  | cons a rest ih =>
    simp only [pqUpdateItems, List.map_cons]
    rw [reporting.addr, ih]

theorem pqUpdateItems_silent (order : ∀ a b, less a b = decide (key a < key b)) (reporting : Reporting addr less fn)
    (items : List α) (arg : σ) (silent : (pqUpdateItems fn items arg).1.2 = false) :
    (pqUpdateItems fn items arg).1.1.map key = items.map key := by
  induction items generalizing arg with
  | nil => rfl
  | cons a rest ih =>
    simp only [pqUpdateItems, Bool.or_eq_false_iff] at silent
    obtain ⟨before, after⟩ := reporting.silent a arg silent.1
    rw [order, decide_eq_false_iff_not, not_lt] at before after
    simp only [pqUpdateItems, List.map_cons]
    rw [ih _ silent.2, le_antisymm after before]

theorem Pq.slot_map {β : Type} (f : α → β) {items : List α} {q : Array α} (same : items.map f = q.toList.map f) {i : Nat}
    {a : α} (held : items.toArray[i]? = some a) : ∃ b, q[i]? = some b ∧ f b = f a := by
  have slot : (items.map f)[i]? = some (f a) := by
    rw [List.getElem?_map, ← List.getElem?_toArray, held]
    rfl
  rw [same, List.getElem?_map, Array.getElem?_toList, Option.map_eq_some_iff] at slot
  exact slot

theorem ngtcp2PqUpdate_ok (order : ∀ a b, less a b = decide (key a < key b)) (reporting : Reporting addr less fn)
    (ok : pq.Ok addr key) (arg : σ) : (ngtcp2PqUpdate addr less pq fn arg).1.Ok addr key := by
  unfold ngtcp2PqUpdate
  split
  · exact ok
  have addrs := pqUpdateItems_addr reporting pq.q.toList arg
  have silent := pqUpdateItems_silent order reporting pq.q.toList arg
  generalize pqUpdateItems fn pq.q.toList arg = updated at *
  obtain ⟨⟨items, rv⟩, arg⟩ := updated
  dsimp only at *
  have indexed : ({ pq with q := items.toArray } : Pq α).Indexed addr := by
    intro i a held
    obtain ⟨b, held', same⟩ := Pq.slot_map addr addrs held
    dsimp only
    rw [← same]
    exact ok.indexed i b held'
  cases rv with
  | true =>
    refine ⟨bubbleDownAll_indexed _ indexed, bubbleDownAll_heap order _ ?_⟩
    -- the last slot has no child
    intro i above low x y held
    have inside : i < items.toArray.size := (Array.getElem?_eq_some_iff.mp held).1
    have low : items.toArray.size ≤ (i - 1) / 2 := low
    omega
  | false =>
    refine ⟨indexed, fun i above x y held held' => ?_⟩
    have keys := silent rfl
    obtain ⟨x', before, same⟩ := Pq.slot_map key keys held
    obtain ⟨y', before', same'⟩ := Pq.slot_map key keys held'
    rw [← same, ← same']
    exact ok.heap i above x' y' before before'

theorem ngtcp2PqUpdate_perm (pq : Pq α) (arg : σ) :
    (ngtcp2PqUpdate addr less pq fn arg).1.q.toList.Perm (pqUpdateItems fn pq.q.toList arg).1.1 := by
  unfold ngtcp2PqUpdate
  split
  next empty =>
    have none : pq.q.toList = [] := by simpa using Array.size_eq_zero_iff.mp empty
    rw [none]
    exact .refl _
  next =>
    dsimp only
    split
    · exact bubbleDownAll_perm _ _
    · exact .refl _

end Update

section Run

variable {α : Type} (addr : α → Nat) (less : α → α → Bool)

inductive PqReached : Pq α → Prop
  | init : PqReached ngtcp2PqInit
  | push {pq : Pq α} (item : α) (reached : PqReached pq) (fresh : ∀ a ∈ pq.q.toList, addr a ≠ addr item) :
    PqReached (ngtcp2PqPush addr less pq item)
  | pop {pq : Pq α} (reached : PqReached pq) : PqReached (ngtcp2PqPop addr less pq)
  | remove {pq pq' : Pq α} {item : α} (reached : PqReached pq) (member : item ∈ pq.q.toList)
    (run : ngtcp2PqRemove addr less pq item = .ok pq') : PqReached pq'
  | update {σ : Type} {pq : Pq α} {fn : α → σ → (α × Bool) × σ} (arg : σ) (reached : PqReached pq)
    (reporting : Reporting addr less fn) : PqReached (ngtcp2PqUpdate addr less pq fn arg).1

variable {addr less} {pq : Pq α} {κ : Type} [LinearOrder κ] {key : α → κ}

theorem Pq.Ok.own (ok : pq.Ok addr key) {item held : α} (member : item ∈ pq.q.toList) (member' : held ∈ pq.q.toList)
    (same : addr held = addr item) : held = item := by
  obtain ⟨i, slot⟩ := List.mem_iff_getElem?.mp member
  obtain ⟨j, slot'⟩ := List.mem_iff_getElem?.mp member'
  rw [Array.getElem?_toList] at slot slot'
  obtain rfl := ok.indexed.inj slot' slot same
  exact Option.some.inj (slot'.symm.trans slot)

theorem PqReached.ok (order : ∀ a b, less a b = decide (key a < key b)) (reached : PqReached addr less pq) :
    pq.Ok addr key := by
  induction reached with
  | init => exact ⟨fun i a held => by simp [ngtcp2PqInit] at held, fun i _ x y held => by simp [ngtcp2PqInit] at held⟩
  | push item _ fresh ih => exact ngtcp2PqPush_ok order ih fresh
  | pop _ ih => exact ngtcp2PqPop_ok order ih
  | remove _ member run ih => exact ngtcp2PqRemove_ok order ih (fun held member' => ih.own member member') run
  | update arg _ reporting ih => exact ngtcp2PqUpdate_ok order reporting ih arg

end Run

/-- Every queue of a run is a heap whose items know their slots, its first item is a least one, and an operation
changes nothing but the item that it is about. -/
theorem pq_correct {α : Type} (addr : α → Nat) (less : α → α → Bool) [IsStrictWeakOrder α fun a b => less a b = true]
    (pq : Pq α) (reached : PqReached addr less pq) :
    (∀ i a b, 0 < i → pq.q[i]? = some a → pq.q[(i - 1) / 2]? = some b → less a b = false) ∧
    (∀ i a, pq.q[i]? = some a → pq.index (addr a) = i) ∧
    (∀ top, ngtcp2PqTop pq = some top → top ∈ pq.q.toList ∧ ∀ a ∈ pq.q.toList, less a top = false) ∧
    (ngtcp2PqTop pq = none → pq.q.toList = []) ∧
    (∀ item, (ngtcp2PqPush addr less pq item).q.toList.Perm (item :: pq.q.toList)) ∧
    (∀ top, ngtcp2PqTop pq = some top → pq.q.toList.Perm (top :: (ngtcp2PqPop addr less pq).q.toList)) ∧
    (∀ item ∈ pq.q.toList, ∃ pq', ngtcp2PqRemove addr less pq item = .ok pq' ∧ pq.q.toList.Perm (item :: pq'.q.toList)) ∧
    ∀ (σ : Type) (fn : α → σ → (α × Bool) × σ) (arg : σ),
      (ngtcp2PqUpdate addr less pq fn arg).1.q.toList.Perm (pqUpdateItems fn pq.q.toList arg).1.1 := by
  obtain ⟨κ, _, key, order⟩ := WeakOrder.exists_key less
  have ok := reached.ok order
  have least (a b : α) : less a b = false ↔ key b ≤ key a := by rw [order, decide_eq_false_iff_not, not_lt]
  refine ⟨fun i a b above held held' => ?_, ok.indexed, fun top first => ⟨?_, fun a member => ?_⟩, fun none => ?_,
    ngtcp2PqPush_perm addr less pq, fun top first => ngtcp2PqPop_perm addr less first, fun item member => ?_,
    fun σ fn arg => ngtcp2PqUpdate_perm pq arg⟩
  · exact (least a b).mpr (ok.heap i above a b held held')
  · simpa using Array.mem_of_getElem? first
  · obtain ⟨i, slot⟩ := List.mem_iff_getElem?.mp member
    rw [Array.getElem?_toList] at slot
    exact (least a top).mpr (ok.heap.least first slot)
  · simpa [ngtcp2PqTop] using none
  · obtain ⟨pq', run⟩ := ngtcp2PqRemove_total ok member
    obtain ⟨held, same, perm⟩ := ngtcp2PqRemove_perm addr less run
    have inside : held ∈ pq.q.toList := perm.mem_iff.mpr List.mem_cons_self
    rw [ok.own member inside same] at perm
    exact ⟨pq', run, perm⟩

def keyLess (a b : Nat × Nat) : Bool := decide (a.2 < b.2)

instance : IsStrictWeakOrder (Nat × Nat) fun a b => keyLess a b = true where
  irrefl a := by simp [keyLess]
  trans a b c := by
    simp only [keyLess, decide_eq_true_eq]
    omega
  incomp_trans a b c := by
    simp only [keyLess, decide_eq_true_eq]
    omega

theorem pq_correct_pushed :
    let pq := ngtcp2PqPush Prod.fst keyLess (ngtcp2PqPush Prod.fst keyLess ngtcp2PqInit (0, 5)) (1, 3)
    ngtcp2PqTop pq = some (1, 3) ∧ ∀ a ∈ pq.q.toList, keyLess a (1, 3) = false := by
  have first : PqReached Prod.fst keyLess (ngtcp2PqPush Prod.fst keyLess ngtcp2PqInit (0, 5)) :=
    .push (0, 5) .init (by simp [ngtcp2PqInit])
  have reached := PqReached.push (1, 3) first (by decide)
  have top : ngtcp2PqTop (ngtcp2PqPush Prod.fst keyLess (ngtcp2PqPush Prod.fst keyLess ngtcp2PqInit (0, 5)) (1, 3)) =
      some (1, 3) := by decide
  exact ⟨top, ((pq_correct Prod.fst keyLess _ reached).2.2.1 _ top).2⟩

end Ngtcp2
