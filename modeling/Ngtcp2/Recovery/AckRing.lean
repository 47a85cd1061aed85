import Mathlib.Data.List.Induction
import Mathlib.Data.List.Perm.Basic
import Mathlib.Logic.Function.Basic
import Ngtcp2.Recovery.Acktr

/-!
# The ring of sent ACK frames

The frames of sent ACKs are owned by a ring of 128 slots. A slot that is taken again while the ring is full loses the
frame that it held.
-/

namespace Ngtcp2

/-- `ngtcp2_ringbuf`. A slot that has never been written holds nothing. -/
structure Ringbuf (α : Type) where
  buf : Nat → Option α
  nmemb : Nat
  first : Nat
  len : Nat

section Ring

variable {α : Type}

/-- `size` is the size of a member, which the source starts at instead of their number. -/
def ngtcp2RingbufInit (nmemb size : Nat) : Ringbuf α :=
  { buf := fun _ => none, nmemb := nmemb, first := size - 1, len := 0 }

/-- `ngtcp2_ringbuf_push_front` and the write through the pointer that it returns. -/
def ngtcp2RingbufPushFront (rb : Ringbuf α) (x : α) : Ringbuf α :=
  let first := sub64 rb.first 1 &&& (rb.nmemb - 1)
  { rb with buf := Function.update rb.buf first (some x), first := first, len := min rb.nmemb (rb.len + 1) }

def ngtcp2RingbufResize (rb : Ringbuf α) (len : Nat) : Except Err (Ringbuf α) :=
  if len ≤ rb.nmemb then .ok { rb with len := len } else .error .ABORT

def ngtcp2RingbufGet (rb : Ringbuf α) (offset : Nat) : Except Err α :=
  if offset < rb.len then
    match rb.buf (add64 rb.first offset &&& (rb.nmemb - 1)) with
    | some x => .ok x
    | none => .error .ABORT
  else .error .ABORT

def ringbufFrom (rb : Ringbuf α) (offset : Nat) : Except Err (List α) :=
  (List.range' offset (rb.len - offset)).mapM (ngtcp2RingbufGet rb)

structure Ringbuf.Holds (rb : Ringbuf α) (xs : List α) : Prop where
  nmemb : rb.nmemb = ringbufAcks
  first : rb.first < ringbufAcks
  len : rb.len = xs.length
  short : xs.length ≤ ringbufAcks
  slots : ∀ i x, xs[i]? = some x → rb.buf ((rb.first + i) % ringbufAcks) = some x

theorem and_mask (n : Nat) : n &&& (ringbufAcks - 1) = n % ringbufAcks := Nat.and_two_pow_sub_one_eq_mod n 7

variable {rb : Ringbuf α} {xs : List α}

theorem Ringbuf.Holds.get (holds : rb.Holds xs) {i : Nat} {x : α} (member : xs[i]? = some x) :
    ngtcp2RingbufGet rb i = .ok x := by
  have inside : i < xs.length := (List.getElem?_eq_some_iff.mp member).1
  have slot := holds.slots i x member
  have sum : add64 rb.first i = rb.first + i := by
    have := holds.first
    have := holds.short
    unfold ringbufAcks at *
    exact add64_eq (by omega)
  unfold ngtcp2RingbufGet
  rw [holds.len, if_pos inside, holds.nmemb, and_mask, sum, slot]

theorem Ringbuf.Holds.members (holds : rb.Holds xs) (n offset : Nat) (inside : offset + n = xs.length) :
    (List.range' offset n).mapM (ngtcp2RingbufGet rb) = .ok (xs.drop offset) := by
  induction n generalizing offset with
  | zero =>
    rw [List.drop_eq_nil_of_le (by omega)]
    rfl
  | succ n ih =>
    have short : offset < xs.length := by omega
    have first := holds.get (List.getElem?_eq_getElem short)
    rw [List.range'_succ, List.mapM_cons, first, List.drop_eq_getElem_cons short]
    change (do
      let rest ← (List.range' (offset + 1) n).mapM (ngtcp2RingbufGet rb)
      pure (xs[offset] :: rest)) = _
    rw [ih (offset + 1) (by omega)]
    rfl

theorem Ringbuf.Holds.from_ (holds : rb.Holds xs) {offset : Nat} (inside : offset ≤ xs.length) :
    ringbufFrom rb offset = .ok (xs.drop offset) := by
  unfold ringbufFrom
  rw [holds.len]
  exact holds.members _ _ (by omega)

theorem Ringbuf.Holds.push (holds : rb.Holds xs) (x : α) :
    (ngtcp2RingbufPushFront rb x).Holds ((x :: xs).take ringbufAcks) := by
  have bound := holds.first
  have next : sub64 rb.first 1 % ringbufAcks < ringbufAcks ∧
      (sub64 rb.first 1 % ringbufAcks + 1) % ringbufAcks = rb.first % ringbufAcks := by
    unfold sub64 ringbufAcks at *
    omega
  unfold ngtcp2RingbufPushFront
  rw [holds.nmemb, and_mask]
  refine ⟨rfl, next.1, ?_, ?_, fun i y member => ?_⟩
  · rw [holds.len, List.length_take, List.length_cons]
  · rw [List.length_take]
    exact Nat.min_le_left _ _
  · rw [List.getElem?_take] at member
    split at member
    next inside =>
      dsimp only
      cases i with
      | zero =>
        obtain rfl : x = y := by simpa using member
        rw [Nat.add_zero, Nat.mod_eq_of_lt next.1, Function.update_self]
      | succ i =>
        have slot := holds.slots i y (by simpa using member)
        have other : (sub64 rb.first 1 % ringbufAcks + (i + 1)) % ringbufAcks ≠ sub64 rb.first 1 % ringbufAcks := by
          unfold ringbufAcks at *
          omega
        have same : (sub64 rb.first 1 % ringbufAcks + (i + 1)) % ringbufAcks = (rb.first + i) % ringbufAcks := by
          have := next.2
          unfold ringbufAcks at *
          omega
        rw [Function.update_of_ne other, same, slot]
    next => cases member

theorem Ringbuf.Holds.resize (holds : rb.Holds xs) {len : Nat} (shorter : len ≤ xs.length) :
    ∃ rb', ngtcp2RingbufResize rb len = .ok rb' ∧ rb'.Holds (xs.take len) := by
  have short := holds.short
  refine ⟨{ rb with len := len }, ?_, holds.nmemb, holds.first, ?_, ?_, fun i x member => ?_⟩
  · unfold ngtcp2RingbufResize
    rw [holds.nmemb, if_pos (Nat.le_trans shorter short)]
  · rw [List.length_take, Nat.min_eq_left shorter]
  · rw [List.length_take]
    exact Nat.le_trans (Nat.min_le_left _ _) (Nat.le_trans shorter short)
  · rw [List.getElem?_take] at member
    split at member
    next => exact holds.slots i x member
    next => cases member

end Ring

section Scan

variable (unprotected : Bool)

/-- The position in the ring that `ngtcp2_acktr_recv_ack` comes to. -/
def acktrScan (acks : List AcktrAckEntry) (fr : Ack) : Option Nat :=
  let above := acks.takeWhile fun e => decide (fr.largestAck < e.pktNum)
  let rest := acks.dropWhile fun e => decide (fr.largestAck < e.pktNum)
  acktrScanFirst fr unprotected above.length rest

theorem ngtcp2AcktrRecvAck_scan (acktr : Acktr) (fr : Ack) :
    ngtcp2AcktrRecvAck acktr fr unprotected =
      match acktrScan unprotected acktr.acks fr with
      | none => acktr
      | some j => acktrOnAck acktr j := rfl

-- the scan stays inside of the ring

theorem acktrScanBlk_bound (largestAck minAck j : Nat) (acks : List AcktrAckEntry) :
    (∀ found, (acktrScanBlk largestAck minAck unprotected j acks).1 = some found → found < j + acks.length) ∧
      (acktrScanBlk largestAck minAck unprotected j acks).2.1 +
        (acktrScanBlk largestAck minAck unprotected j acks).2.2.length = j + acks.length := by
  induction acks generalizing j with
  | nil => exact ⟨nofun, rfl⟩
  | cons e rest ih =>
    have next := ih (j + 1)
    simp only [acktrScanBlk, List.length_cons] at *
    split_ifs
    · refine ⟨fun found run => ?_, ?_⟩
      · have := next.1 found run
        omega
      · omega
    · exact ⟨nofun, rfl⟩
    · refine ⟨fun found run => ?_, ?_⟩
      · have := next.1 found run
        omega
      · omega
    · refine ⟨fun found run => ?_, rfl⟩
      obtain rfl := Option.some.inj run
      omega

theorem acktrScanBlks_bound (minAck : Nat) (blks : List AckBlk) (j : Nat) (acks : List AcktrAckEntry) {found : Nat}
    (run : acktrScanBlks unprotected minAck blks j acks = some found) : found < j + acks.length := by
  induction blks generalizing minAck j acks with
  | nil => cases run
  | cons blk rest ih =>
    simp only [acktrScanBlks] at run
    have bound := acktrScanBlk_bound unprotected (sub64 minAck (add64 blk.gap 2))
      (sub64 (sub64 minAck (add64 blk.gap 2)) blk.blklen) j acks
    split at run
    next j' _ _ scanned =>
      rw [scanned] at bound
      exact bound.1 found run
    next => cases run
    next j' acks' _ scanned =>
      rw [scanned] at bound
      have later := ih _ _ _ run
      have whole := bound.2
      dsimp only at whole
      omega

theorem acktrScanFirst_bound (fr : Ack) (j : Nat) (acks : List AcktrAckEntry) {found : Nat}
    (run : acktrScanFirst fr unprotected j acks = some found) : found < j + acks.length := by
  induction acks generalizing j with
  | nil => cases run
  | cons e rest ih =>
    simp only [acktrScanFirst] at run
    split_ifs at run
    · have := ih (j + 1) run
      rw [List.length_cons]
      omega
    · obtain rfl := Option.some.inj run
      rw [List.length_cons]
      omega
    · exact acktrScanBlks_bound unprotected _ _ _ _ run

theorem acktrScan_bound {acks : List AcktrAckEntry} {fr : Ack} {j : Nat} (run : acktrScan unprotected acks fr = some j) :
    j < acks.length := by
  have bound := acktrScanFirst_bound unprotected fr _ _ run
  rwa [← List.length_append, List.takeWhile_append_dropWhile] at bound

end Scan

/-- The ring with the frames that it owns. Each frame is named by the number of those before it, and `freed` lists
the frames that were freed. -/
structure AckMem where
  acks : Ringbuf (Nat × AcktrAckEntry)
  freed : List Nat
  nframes : Nat

def ackMemInit : AckMem := { acks := ngtcp2RingbufInit ringbufAcks 24, freed := [], nframes := 0 }

/-- `ngtcp2_acktr_add_ack` with a frame of its own. -/
def ackMemAddAck (mem : AckMem) (pktNum : Nat) (fr : Ack) (unprotected : Bool) : AckMem :=
  let ent : AcktrAckEntry := { ack := fr, pktNum := pktNum, unprotected := unprotected }
  { mem with acks := ngtcp2RingbufPushFront mem.acks (mem.nframes, ent), nframes := mem.nframes + 1 }

/-- The end of `acktr_on_ack`. -/
def ackMemOnAck (mem : AckMem) (j : Nat) : Except Err AckMem := do
  let old ← ringbufFrom mem.acks j
  let acks ← ngtcp2RingbufResize mem.acks j
  pure { mem with acks := acks, freed := mem.freed ++ old.map Prod.fst }

def ackMemRecvAck (mem : AckMem) (fr : Ack) (unprotected : Bool) : Except Err AckMem := do
  let ents ← ringbufFrom mem.acks 0
  match acktrScan unprotected (ents.map Prod.snd) fr with
  | none => pure mem
  | some j => ackMemOnAck mem j

/-- `ngtcp2_acktr_free`: all frames that have been freed in the end. -/
def ackMemFree (mem : AckMem) : Except Err (List Nat) := do
  let ents ← ringbufFrom mem.acks 0
  pure (mem.freed ++ ents.map Prod.fst)

inductive AckOp where
  | addAck (pktNum : Nat) (fr : Ack) (unprotected : Bool)
  | recvAck (fr : Ack) (unprotected : Bool)

def AckMem.exec (mem : AckMem) : AckOp → Except Err AckMem
  | .addAck pktNum fr unprotected => .ok (ackMemAddAck mem pktNum fr unprotected)
  | .recvAck fr unprotected => ackMemRecvAck mem fr unprotected

def ackMemAfter (ops : List AckOp) : Except Err AckMem := ops.foldlM AckMem.exec ackMemInit

def Acktr.exec (acktr : Acktr) : AckOp → Acktr
  | .addAck pktNum fr unprotected => ngtcp2AcktrAddAck acktr pktNum fr unprotected
  | .recvAck fr unprotected => ngtcp2AcktrRecvAck acktr fr unprotected

def RingSpacious (ops : List AckOp) : Prop :=
  ∀ before pktNum fr unprotected after, ops = before ++ .addAck pktNum fr unprotected :: after →
    ∃ mem, ackMemAfter before = .ok mem ∧ mem.acks.len < ringbufAcks

section Own

variable {mem : AckMem} {live : List (Nat × AcktrAckEntry)} {lost : List Nat}

structure AckMem.Owns (mem : AckMem) (live : List (Nat × AcktrAckEntry)) (lost : List Nat) : Prop where
  holds : mem.acks.Holds live
  all : (mem.freed ++ (live.map Prod.fst ++ lost)).Perm (List.range mem.nframes)

theorem ackMemInit_owns : ackMemInit.Owns [] [] where
  holds := ⟨rfl, by decide, rfl, by decide, nofun⟩
  all := .refl _

theorem AckMem.Owns.addAck (owns : mem.Owns live lost) (pktNum : Nat) (fr : Ack) (unprotected : Bool)
    (free : live.length < ringbufAcks) :
    (ackMemAddAck mem pktNum fr unprotected).Owns ((mem.nframes, ⟨fr, pktNum, unprotected⟩) :: live) lost where
  holds := by
    have pushed := owns.holds.push (mem.nframes, ⟨fr, pktNum, unprotected⟩)
    rwa [List.take_of_length_le free] at pushed
  all := by
    have more := (List.perm_middle.trans (owns.all.cons mem.nframes)).trans (List.perm_append_singleton _ _).symm
    rw [← List.range_succ] at more
    exact more

theorem AckMem.Owns.overflow (owns : mem.Owns live lost) (pktNum : Nat) (fr : Ack) (unprotected : Bool)
    (full : live.length = ringbufAcks) :
    ∃ live' gone, (ackMemAddAck mem pktNum fr unprotected).Owns live' (gone :: lost) ∧
      live' = ((mem.nframes, ⟨fr, pktNum, unprotected⟩) :: live).take ringbufAcks := by
  obtain ⟨init, last, rfl⟩ : ∃ init last, live = init ++ [last] := by
    rcases List.eq_nil_or_concat live with rfl | ⟨init, last, rfl⟩
    · cases full
    · exact ⟨init, last, List.concat_eq_append⟩
  have pushed := owns.holds.push (mem.nframes, ⟨fr, pktNum, unprotected⟩)
  have kept : ((mem.nframes, (⟨fr, pktNum, unprotected⟩ : AcktrAckEntry)) :: (init ++ [last])).take ringbufAcks =
      (mem.nframes, ⟨fr, pktNum, unprotected⟩) :: init := by
    rw [← full, List.length_append, List.length_singleton, List.take_succ_cons, List.take_left]
  rw [kept] at pushed
  refine ⟨_, last.1, ⟨pushed, ?_⟩, kept.symm⟩
  have same : (init ++ [last]).map Prod.fst ++ lost = init.map Prod.fst ++ last.1 :: lost := by simp
  have all := owns.all
  rw [same] at all
  have more := (List.perm_middle.trans (all.cons mem.nframes)).trans (List.perm_append_singleton _ _).symm
  rw [← List.range_succ] at more
  exact more

theorem AckMem.Owns.recvAck (owns : mem.Owns live lost) (fr : Ack) (unprotected : Bool) :
    ∃ mem' live', ackMemRecvAck mem fr unprotected = .ok mem' ∧ mem'.Owns live' lost ∧
      (∀ acktr : Acktr, live.map Prod.snd = acktr.acks →
        live'.map Prod.snd = (ngtcp2AcktrRecvAck acktr fr unprotected).acks) := by
  have read := owns.holds.from_ (Nat.zero_le _)
  rw [List.drop_zero] at read
  have start : ackMemRecvAck mem fr unprotected =
      match acktrScan unprotected (live.map Prod.snd) fr with
      | none => .ok mem
      | some j => ackMemOnAck mem j := by
    unfold ackMemRecvAck
    rw [read]
    rfl
  cases found : acktrScan unprotected (live.map Prod.snd) fr with
  | none =>
    rw [found] at start
    refine ⟨mem, live, start, owns, fun acktr same => ?_⟩
    rw [ngtcp2AcktrRecvAck_scan, ← same, found]
    exact same
  | some j =>
    rw [found] at start
    have inside := acktrScan_bound unprotected found
    rw [List.length_map] at inside
    obtain ⟨acks, resized, holds⟩ := owns.holds.resize (Nat.le_of_lt inside)
    have old := owns.holds.from_ (Nat.le_of_lt inside)
    have run : ackMemOnAck mem j = .ok { mem with acks := acks, freed := mem.freed ++ (live.drop j).map Prod.fst } := by
      unfold ackMemOnAck
      rw [old, resized]
      rfl
    refine ⟨_, live.take j, start.trans run, ⟨holds, ?_⟩, fun acktr same => ?_⟩
    · have split : live.map Prod.fst = (live.take j).map Prod.fst ++ (live.drop j).map Prod.fst := by
        rw [← List.map_append, List.take_append_drop]
      have all := owns.all
      rw [split, List.append_assoc] at all
      have moved := (List.perm_append_comm_assoc ((live.drop j).map Prod.fst) ((live.take j).map Prod.fst) lost).append_left
        mem.freed
      dsimp only
      rw [List.append_assoc]
      exact moved.trans all
    · have known : ∃ ack, acktr.acks[j]? = some ack := by
        rw [← same]
        exact ⟨_, List.getElem?_eq_getElem (by rw [List.length_map]; exact inside)⟩
      obtain ⟨ack, known⟩ := known
      rw [ngtcp2AcktrRecvAck_scan, ← same, found]
      dsimp only
      unfold acktrOnAck
      rw [known, ← same, List.map_take]

theorem ackMemAfter_concat (ops : List AckOp) (op : AckOp) :
    ackMemAfter (ops ++ [op]) = ackMemAfter ops >>= fun mem => mem.exec op := by
  unfold ackMemAfter
  rw [List.foldlM_append]
  cases ops.foldlM AckMem.exec ackMemInit with
  | error e => rfl
  | ok mem =>
    change [op].foldlM AckMem.exec mem = mem.exec op
    rw [List.foldlM_cons]
    cases mem.exec op <;> rfl

theorem ringSpacious_concat (ops : List AckOp) (op : AckOp) :
    RingSpacious (ops ++ [op]) ↔ RingSpacious ops ∧ ∀ pktNum fr unprotected, op = .addAck pktNum fr unprotected →
      ∃ mem, ackMemAfter ops = .ok mem ∧ mem.acks.len < ringbufAcks := by
  constructor
  · intro spacious
    refine ⟨fun before pktNum fr unprotected after split => ?_, fun pktNum fr unprotected last => ?_⟩
    · exact spacious before pktNum fr unprotected (after ++ [op]) (by rw [split]; simp)
    · exact spacious ops pktNum fr unprotected [] (by rw [last])
  · rintro ⟨earlier, last⟩ before pktNum fr unprotected after split
    rcases List.eq_nil_or_concat after with rfl | ⟨after, final, rfl⟩
    · obtain ⟨rfl, same⟩ := List.append_inj' split rfl
      exact last pktNum fr unprotected (List.head_eq_of_cons_eq same)
    · apply earlier before pktNum fr unprotected after
      have both : ops ++ [op] = (before ++ .addAck pktNum fr unprotected :: after) ++ [final] := by
        rw [split]
        simp
      exact (List.append_inj' both rfl).1

theorem ackMemAfter_owns (ops : List AckOp) :
    ∃ mem live lost, ackMemAfter ops = .ok mem ∧ mem.Owns live lost ∧ (lost = [] ↔ RingSpacious ops) ∧
      live.map Prod.snd = (ops.foldl Acktr.exec ngtcp2AcktrInit).acks := by
  induction ops using List.reverseRecOn with
  | nil =>
    refine ⟨ackMemInit, [], [], rfl, ackMemInit_owns, ?_, rfl⟩
    simp only [true_iff]
    intro before pktNum fr unprotected after split
    simp at split
  | append_singleton ops op ih =>
    obtain ⟨mem, live, lost, run, owns, none, acks⟩ := ih
    rw [ackMemAfter_concat, run, ringSpacious_concat, ← none, List.foldl_append]
    cases op with
    | addAck pktNum fr unprotected =>
      have pushed : (((mem.nframes, (⟨fr, pktNum, unprotected⟩ : AcktrAckEntry)) :: live).take ringbufAcks).map Prod.snd =
          (Acktr.exec (ops.foldl Acktr.exec ngtcp2AcktrInit) (.addAck pktNum fr unprotected)).acks := by
        rw [List.map_take, List.map_cons, acks]
        rfl
      have length := owns.holds.len
      by_cases free : live.length < ringbufAcks
      · rw [List.take_of_length_le free] at pushed
        refine ⟨_, _, lost, rfl, owns.addAck pktNum fr unprotected free, ?_, pushed⟩
        constructor
        · exact fun gone => ⟨gone, fun _ _ _ _ => ⟨mem, run, length ▸ free⟩⟩
        · exact fun both => both.1
      · have full : live.length = ringbufAcks := Nat.le_antisymm owns.holds.short (Nat.le_of_not_lt free)
        obtain ⟨live', gone, owns', kept⟩ := owns.overflow pktNum fr unprotected full
        refine ⟨_, live', gone :: lost, rfl, owns', ?_, kept ▸ pushed⟩
        constructor
        · exact nofun
        · rintro ⟨_, spacious⟩
          obtain ⟨mem', same, fits⟩ := spacious pktNum fr unprotected rfl
          obtain rfl := Except.ok.inj (run.symm.trans same)
          omega
    | recvAck fr unprotected =>
      obtain ⟨mem', live', run', owns', kept⟩ := owns.recvAck fr unprotected
      refine ⟨mem', live', lost, run', owns', ?_, kept _ acks⟩
      constructor
      · exact fun gone => ⟨gone, nofun⟩
      · exact fun both => both.1

end Own

/-- Every frame is freed exactly once, and not while the ring refers to it, unless one is added to a full ring. -/
theorem sentAcks_freed_iff (ops : List AckOp) :
    ∃ mem ents freed, ackMemAfter ops = .ok mem ∧ ringbufFrom mem.acks 0 = .ok ents ∧
      ents.map Prod.snd = (ops.foldl Acktr.exec ngtcp2AcktrInit).acks ∧
      (∀ ent ∈ ents, ent.1 ∉ mem.freed) ∧ ackMemFree mem = .ok freed ∧ freed.Nodup ∧
      (freed.Perm (List.range mem.nframes) ↔ RingSpacious ops) := by
  obtain ⟨mem, live, lost, run, owns, none, acks⟩ := ackMemAfter_owns ops
  have read := owns.holds.from_ (Nat.zero_le _)
  rw [List.drop_zero] at read
  have freed : ackMemFree mem = .ok (mem.freed ++ live.map Prod.fst) := by
    unfold ackMemFree
    rw [read]
    rfl
  have all := owns.all
  rw [← List.append_assoc] at all
  have once : (mem.freed ++ live.map Prod.fst).Nodup :=
    (List.nodup_append.mp (all.nodup_iff.mpr List.nodup_range)).1
  refine ⟨mem, live, _, run, read, acks, fun ent member gone => ?_, freed, once, ?_⟩
  · have apart := (List.nodup_append.mp once).2.2
    exact apart ent.1 gone ent.1 (List.mem_map_of_mem member) rfl
  · rw [← none]
    constructor
    · intro whole
      have lengths := all.length_eq.trans whole.length_eq.symm
      rw [List.length_append] at lengths
      exact List.length_eq_zero_iff.mp (by omega)
    · rintro rfl
      rwa [List.append_nil] at all

def unacknowledgedAcks : List AckOp :=
  List.replicate 129 (.addAck 0 { largestAck := 0, ackDelay := 0, firstAckBlklen := 0, blks := [] } false)

theorem sentAcks_leak :
    (ackMemAfter unacknowledgedAcks).toOption.map AckMem.nframes = some 129 ∧
      (ackMemAfter unacknowledgedAcks >>= ackMemFree).toOption.map List.length = some 128 := by
  decide +kernel

end Ngtcp2
