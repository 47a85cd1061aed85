import Ngtcp2.Base

namespace Ngtcp2

structure AcktrEntry where
  pktNum : Nat
  tstamp : Nat
  unprotected : Bool
  deriving DecidableEq, Repr

structure AcktrAckEntry where
  ack : Ack
  pktNum : Nat
  unprotected : Bool
  deriving DecidableEq, Repr

/-- `ngtcp2_acktr`: received packets to acknowledge, latest first, and the ring of sent ACK frames. -/
structure Acktr where
  acks : List AcktrAckEntry
  ent : List AcktrEntry
  nack : Nat
  activeAck : Bool
  deriving DecidableEq, Repr

def ngtcp2AcktrInit : Acktr := { acks := [], ent := [], nack := 0, activeAck := false }

/-- The insertion point of the scan in `ngtcp2_acktr_add`, or `none` for a known packet number. -/
def acktrInsert (ent : AcktrEntry) : List AcktrEntry → Option (List AcktrEntry)
  | [] => some [ent]
  | e :: rest =>
    if e.pktNum > ent.pktNum then (acktrInsert ent rest).map (e :: ·)
    else if e.pktNum = ent.pktNum then none
    else some (ent :: e :: rest)

def ngtcp2AcktrAdd (acktr : Acktr) (ent : AcktrEntry) (activeAck : Bool) : Except Err Acktr :=
  match acktrInsert ent acktr.ent with
  | none => .error .PROTO
  | some ents =>
    let acktr := { acktr with ent := ents, activeAck := acktr.activeAck || activeAck }
    if acktr.nack + 1 > acktrMaxEnt then .ok { acktr with ent := acktr.ent.dropLast }
    else .ok { acktr with nack := acktr.nack + 1 }

def ngtcp2AcktrForget (acktr : Acktr) (kept : Nat) : Acktr :=
  { acktr with ent := acktr.ent.take kept, nack := acktr.nack - (acktr.ent.length - kept) }

def ngtcp2AcktrAddAck (acktr : Acktr) (pktNum : Nat) (fr : Ack) (unprotected : Bool) : Acktr :=
  let ent : AcktrAckEntry := { ack := fr, pktNum := pktNum, unprotected := unprotected }
  { acktr with acks := (ent :: acktr.acks).take ringbufAcks }

/-- The entries of one further block: those above it are passed, those inside it removed. -/
def acktrOnAckBlk (largestAck minAck : Nat) : List AcktrEntry → List AcktrEntry × List AcktrEntry
  | [] => ([], [])
  | e :: rest =>
    if e.pktNum > largestAck then
      let (passed, left) := acktrOnAckBlk largestAck minAck rest
      (e :: passed, left)
    else if e.pktNum < minAck then ([], e :: rest)
    else acktrOnAckBlk largestAck minAck rest

def acktrOnAckBlks (minAck : Nat) : List AckBlk → List AcktrEntry → List AcktrEntry
  | [], ents => ents
  | blk :: blks, ents =>
    match ents with
    | [] => []
    | e :: rest =>
      let largestAck := sub64 minAck (add64 blk.gap 2)
      let minAck := sub64 largestAck blk.blklen
      let (passed, left) := acktrOnAckBlk largestAck minAck (e :: rest)
      passed ++ acktrOnAckBlks minAck blks left

/-- `acktr_on_ack` for the entries that the acknowledged ACK frame `fr` reported. -/
def acktrOnAckEnts (fr : Ack) (ents : List AcktrEntry) : List AcktrEntry :=
  let above := ents.takeWhile fun e => decide (fr.largestAck < e.pktNum)
  let rest := ents.dropWhile fun e => decide (fr.largestAck < e.pktNum)
  let minAck := sub64 fr.largestAck fr.firstAckBlklen
  let rest := rest.dropWhile fun e => decide (minAck ≤ e.pktNum ∧ e.pktNum ≤ fr.largestAck)
  above ++ acktrOnAckBlks minAck fr.blks rest

def acktrOnAck (acktr : Acktr) (j : Nat) : Acktr :=
  match acktr.acks[j]? with
  | none => acktr
  | some ack =>
    let ents := acktrOnAckEnts ack.ack acktr.ent
    { acktr with
      ent := ents
      nack := acktr.nack - (acktr.ent.length - ents.length)
      acks := acktr.acks.take j }

theorem acktrOnAckBlk_sublist (largestAck minAck : Nat) (ents : List AcktrEntry) :
    ((acktrOnAckBlk largestAck minAck ents).1 ++ (acktrOnAckBlk largestAck minAck ents).2).Sublist
      ents := by
  induction ents with
  | nil => exact List.Sublist.refl _
  | cons e rest ih =>
    simp only [acktrOnAckBlk]
    split
    · exact ih.cons_cons e
    split
    · exact List.Sublist.refl _
    · exact ih.cons e

theorem acktrOnAckBlks_sublist (minAck : Nat) (blks : List AckBlk) (ents : List AcktrEntry) :
    (acktrOnAckBlks minAck blks ents).Sublist ents := by
  induction blks generalizing minAck ents with
  | nil => exact List.Sublist.refl _
  | cons blk rest ih =>
    cases ents with
    | nil => exact List.Sublist.refl _
    | cons e later =>
      simp only [acktrOnAckBlks]
      exact ((ih _ _).append_left _).trans (acktrOnAckBlk_sublist _ _ _)

theorem acktrOnAckEnts_sublist (fr : Ack) (ents : List AcktrEntry) :
    (acktrOnAckEnts fr ents).Sublist ents := by
  simp only [acktrOnAckEnts]
  have rest := (acktrOnAckBlks_sublist (sub64 fr.largestAck fr.firstAckBlklen) fr.blks _).trans
    (List.dropWhile_sublist (l := ents.dropWhile fun e => decide (fr.largestAck < e.pktNum))
      fun e => decide (sub64 fr.largestAck fr.firstAckBlklen ≤ e.pktNum ∧ e.pktNum ≤ fr.largestAck))
  have whole := rest.append_left (ents.takeWhile fun e => decide (fr.largestAck < e.pktNum))
  rwa [List.takeWhile_append_dropWhile] at whole

/-- The scan of the ring inside one block: the index found, or the index and rest to go on with. -/
def acktrScanBlk (largestAck minAck : Nat) (unprotected : Bool) :
    Nat → List AcktrAckEntry → Option Nat × Nat × List AcktrAckEntry
  | j, [] => (none, j, [])
  | j, e :: rest =>
    if e.pktNum > largestAck then acktrScanBlk largestAck minAck unprotected (j + 1) rest
    else if e.pktNum < minAck then (none, j, e :: rest)
    else if unprotected && !e.unprotected then
      acktrScanBlk largestAck minAck unprotected (j + 1) rest
    else (some j, j, e :: rest)

def acktrScanBlks (unprotected : Bool) (minAck : Nat) :
    List AckBlk → Nat → List AcktrAckEntry → Option Nat
  | [], _, _ => none
  | blk :: blks, j, acks =>
    let largestAck := sub64 minAck (add64 blk.gap 2)
    let minAck := sub64 largestAck blk.blklen
    match acktrScanBlk largestAck minAck unprotected j acks with
    | (some j, _, _) => some j
    | (none, _, []) => none
    | (none, j, acks) => acktrScanBlks unprotected minAck blks j acks

/-- The first block: elements above `largestAck` are passed once, before the block is looked at. -/
def acktrScanFirst (fr : Ack) (unprotected : Bool) : Nat → List AcktrAckEntry → Option Nat
  | _, [] => none
  | j, e :: rest =>
    let minAck := sub64 fr.largestAck fr.firstAckBlklen
    if minAck ≤ e.pktNum ∧ e.pktNum ≤ fr.largestAck then
      if unprotected && !e.unprotected then acktrScanFirst fr unprotected (j + 1) rest
      else some j
    else acktrScanBlks unprotected minAck fr.blks j (e :: rest)

def ngtcp2AcktrRecvAck (acktr : Acktr) (fr : Ack) (unprotected : Bool) : Acktr :=
  let above := acktr.acks.takeWhile fun e => decide (fr.largestAck < e.pktNum)
  let rest := acktr.acks.dropWhile fun e => decide (fr.largestAck < e.pktNum)
  match acktrScanFirst fr unprotected above.length rest with
  | none => acktr
  | some j => acktrOnAck acktr j

theorem ngtcp2AcktrRecvAck_sublist (acktr : Acktr) (fr : Ack) (unprotected : Bool) :
    (ngtcp2AcktrRecvAck acktr fr unprotected).ent.Sublist acktr.ent ∧
      (ngtcp2AcktrRecvAck acktr fr unprotected).activeAck = acktr.activeAck := by
  simp only [ngtcp2AcktrRecvAck]
  split
  · exact ⟨List.Sublist.refl _, rfl⟩
  · unfold acktrOnAck
    split
    · exact ⟨List.Sublist.refl _, rfl⟩
    · exact ⟨acktrOnAckEnts_sublist _ _, rfl⟩

end Ngtcp2
