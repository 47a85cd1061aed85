import Mathlib.Algebra.BigOperators.Group.List.Basic
import Ngtcp2.Recovery.Heap
import Mathlib.Algebra.GroupWithZero.Nat

namespace Ngtcp2

/-- `ngtcp2_rtb_entry`. Entries are told apart by `addr`, as the source does by pointer. -/
structure RtbEntry where
  addr : Nat
  hd : PktHd
  frc : List Frame
  expiry : Nat
  deadline : Nat
  count : Nat
  pktlen : Nat
  unprotected : Bool
  deriving DecidableEq, Repr

def ngtcp2RtbEntryNew (addr : Nat) (hd : PktHd) (frc : List Frame) (ts deadline pktlen : Nat)
    (unprotected : Bool) : RtbEntry where
  addr := addr
  hd := hd
  frc := frc
  expiry := add64 ts initialExpiry
  deadline := deadline
  count := 0
  pktlen := pktlen
  unprotected := unprotected

def ngtcp2RtbEntryExtendExpiry (ent : RtbEntry) (ts : Nat) : RtbEntry :=
  { ent with
    count := ent.count + 1
    expiry := add64 ts (initialExpiry * 2 ^ (ent.count + 1) % 18446744073709551616) }

def expiryLess (lhs rhs : RtbEntry) : Bool := decide (lhs.expiry < rhs.expiry)

structure Rtb where
  pq : Pq RtbEntry
  head : List RtbEntry
  bytesInFlight : Nat
  largestAcked : Nat

def ngtcp2RtbInit : Rtb := { pq := ngtcp2PqInit, head := [], bytesInFlight := 0, largestAcked := 0 }

def ngtcp2RtbAdd (rtb : Rtb) (ent : RtbEntry) : Rtb :=
  { rtb with
    pq := ngtcp2PqPush RtbEntry.addr expiryLess rtb.pq ent
    head := ent :: rtb.head
    bytesInFlight := rtb.bytesInFlight + ent.pktlen }

def ngtcp2RtbTop (rtb : Rtb) : Option RtbEntry := ngtcp2PqTop rtb.pq

def unlink (addr : Nat) : List RtbEntry → List RtbEntry
  | [] => []
  | e :: rest => if e.addr = addr then rest else e :: unlink addr rest

def ngtcp2RtbPop (rtb : Rtb) : Except Err Rtb :=
  match ngtcp2PqTop rtb.pq with
  | none => .ok rtb
  | some ent =>
    if ¬ rtb.bytesInFlight ≥ ent.pktlen then .error .ABORT
    else
      .ok { rtb with
        pq := ngtcp2PqPop RtbEntry.addr expiryLess rtb.pq
        bytesInFlight := rtb.bytesInFlight - ent.pktlen
        head := unlink ent.addr rtb.head }

def rtbRemove (rtb : Rtb) (ent : RtbEntry) : Except Err Rtb :=
  match ngtcp2PqRemove RtbEntry.addr expiryLess rtb.pq ent with
  | .error e => .error e
  | .ok pq =>
    if ¬ rtb.bytesInFlight ≥ ent.pktlen then .error .ABORT
    else
      .ok { rtb with
        pq := pq
        bytesInFlight := rtb.bytesInFlight - ent.pktlen
        head := unlink ent.addr rtb.head }

theorem unlink_perm {ents : List RtbEntry} (nodup : (ents.map RtbEntry.addr).Nodup) {ent : RtbEntry}
    (member : ent ∈ ents) : ents.Perm (ent :: unlink ent.addr ents) := by
  induction ents with
  | nil => cases member
  | cons e rest ih =>
    simp only [List.map_cons, List.nodup_cons] at nodup
    rcases List.mem_cons.mp member with rfl | member
    · simp [unlink]
    · have other : e.addr ≠ ent.addr := fun same => nodup.1 (same ▸ List.mem_map_of_mem member)
      rw [unlink, if_neg other]
      exact ((ih nodup.2 member).cons e).trans (.swap ..)

theorem unlink_sublist (addr : Nat) (ents : List RtbEntry) : (unlink addr ents).Sublist ents := by
  induction ents with
  | nil => exact .slnil
  | cons e rest ih =>
    unfold unlink
    split
    · exact List.sublist_cons_self e rest
    · exact ih.cons_cons e

theorem unlink_suffix {ent : RtbEntry} {rest ents : List RtbEntry} (suffix : ent :: rest <:+ ents) :
    rest <:+ unlink ent.addr ents := by
  induction ents with
  | nil => simp at suffix
  | cons first later ih =>
    rcases List.suffix_cons_iff.mp suffix with same | inside
    · cases same
      simp [unlink]
    · simp only [unlink]
      split
      · exact (List.suffix_cons ent rest).trans inside
      · exact (ih inside).trans (List.suffix_cons first _)

theorem expiryLess_key (a b : RtbEntry) : expiryLess a b = decide (a.expiry < b.expiry) := rfl

structure Rtb.Sound (rtb : Rtb) : Prop where
  pq : rtb.pq.Ok RtbEntry.addr RtbEntry.expiry
  bytes : rtb.bytesInFlight = (rtb.pq.q.toList.map RtbEntry.pktlen).sum

structure Queue where
  items : List RtbEntry
  sound : Prop

def Rtb.queue (rtb : Rtb) : Queue := { items := rtb.pq.q.toList, sound := rtb.Sound }

namespace Queue

variable (q : Queue) (ent : RtbEntry) (q' : Queue)

structure Pushed : Prop where
  perm : q'.items.Perm (ent :: q.items)
  sound : (∀ e ∈ q.items, e.addr ≠ ent.addr) → q.sound → q'.sound

structure Popped : Prop where
  perm : q.items.Perm (ent :: q'.items)
  sound : q.sound → q'.sound

-- the slot of the entry holds `held`
structure Removed (held : RtbEntry) : Prop where
  perm : q.items.Perm (held :: q'.items)
  sound : (∀ e ∈ q.items, e.addr = ent.addr → e = ent) → q.sound → q'.sound

end Queue

theorem ngtcp2RtbInit_sound : ngtcp2RtbInit.Sound :=
  ⟨⟨fun i a held => by simp [ngtcp2RtbInit, ngtcp2PqInit] at held,
    fun i _ a b held => by simp [ngtcp2RtbInit, ngtcp2PqInit] at held⟩, rfl⟩

theorem ngtcp2RtbAdd_pushed (rtb : Rtb) (ent : RtbEntry) :
    rtb.queue.Pushed ent (ngtcp2RtbAdd rtb ent).queue := by
  have perm : (ngtcp2RtbAdd rtb ent).pq.q.toList.Perm (ent :: rtb.pq.q.toList) :=
    ngtcp2PqPush_perm RtbEntry.addr expiryLess rtb.pq ent
  refine ⟨perm, fun fresh sound => ⟨ngtcp2PqPush_ok expiryLess_key sound.pq fresh, ?_⟩⟩
  rw [(perm.map _).sum_eq]
  have bytes := sound.bytes
  simp only [ngtcp2RtbAdd, List.map_cons, List.sum_cons]
  omega

theorem ngtcp2RtbPop_top {rtb : Rtb} {ent : RtbEntry} (top : ngtcp2RtbTop rtb = some ent) :
    ngtcp2RtbPop rtb = .error .ABORT ∧ ¬ rtb.Sound ∨
      ∃ rtb', ngtcp2RtbPop rtb = .ok rtb' ∧ rtb'.head = unlink ent.addr rtb.head ∧
        rtb.queue.Popped ent rtb'.queue := by
  have perm := ngtcp2PqPop_perm RtbEntry.addr expiryLess top
  have total : rtb.Sound → rtb.bytesInFlight =
      ent.pktlen + ((ngtcp2PqPop RtbEntry.addr expiryLess rtb.pq).q.toList.map RtbEntry.pktlen).sum := by
    intro sound
    rw [sound.bytes, (perm.map _).sum_eq]
    rfl
  unfold ngtcp2RtbPop
  rw [show ngtcp2PqTop rtb.pq = some ent from top]
  dsimp only
  split
  next short =>
    refine .inl ⟨rfl, fun sound => short ?_⟩
    have bytes := total sound
    omega
  next =>
    refine .inr ⟨_, rfl, rfl, perm, fun sound => ⟨ngtcp2PqPop_ok expiryLess_key sound.pq, ?_⟩⟩
    have bytes := total sound
    dsimp only
    omega

theorem rtbRemove_ok {rtb rtb' : Rtb} {ent : RtbEntry} (run : rtbRemove rtb ent = .ok rtb') :
    rtb'.head = unlink ent.addr rtb.head ∧
      ∃ held, held.addr = ent.addr ∧ rtb.queue.Removed ent rtb'.queue held := by
  unfold rtbRemove at run
  split at run
  · cases run
  case h_2 pq removed =>
    split at run
    · cases run
    · cases run
      obtain ⟨held, slot, perm⟩ := ngtcp2PqRemove_perm _ _ removed
      refine ⟨rfl, held, slot, perm, fun own sound => ⟨ngtcp2PqRemove_ok expiryLess_key sound.pq own removed, ?_⟩⟩
      have mine : held = ent := own held (perm.symm.subset List.mem_cons_self) slot
      have bytes := sound.bytes
      rw [(perm.map _).sum_eq, mine, List.map_cons, List.sum_cons] at bytes
      dsimp only
      omega

theorem rtbRemove_error {rtb : Rtb} {ent : RtbEntry} {e : Err} (run : rtbRemove rtb ent = .error e) :
    e = .ABORT := by
  unfold rtbRemove at run
  split at run
  case h_1 err removed =>
    cases run
    unfold ngtcp2PqRemove at removed
    dsimp only at removed
    split at removed
    · split_ifs at removed
      cases removed
      rfl
    · cases removed
      rfl
  case h_2 =>
    split at run
    · cases run
      rfl
    · cases run

theorem rtbRemove_total {rtb : Rtb} {ent : RtbEntry} (sound : rtb.Sound) (member : ent ∈ rtb.pq.q.toList) :
    ∃ rtb', rtbRemove rtb ent = .ok rtb' := by
  obtain ⟨pq, removed⟩ : ∃ pq, ngtcp2PqRemove RtbEntry.addr expiryLess rtb.pq ent = .ok pq :=
    ngtcp2PqRemove_total sound.pq member
  have counted : ent.pktlen ≤ rtb.bytesInFlight := by
    rw [sound.bytes, ((List.perm_cons_erase member).map _).sum_eq]
    exact Nat.le_add_right _ _
  unfold rtbRemove
  rw [removed]
  dsimp only
  rw [if_neg (by omega)]
  exact ⟨_, rfl⟩

end Ngtcp2
