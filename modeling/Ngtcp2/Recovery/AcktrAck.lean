import Ngtcp2.Recovery.AckRanges

/-!
# ACK frames for ACK frames

What an acknowledged ACK frame has reported need not be reported again.
-/

namespace Ngtcp2

section Entries

variable {minAck : Nat} {blks : List AckBlk} {ents : List AcktrEntry} {fr : Ack}

theorem acktrOnAckBlk_eq {largestAck : Nat} (order : minAck ≤ largestAck) (ents : List AcktrEntry) :
    acktrOnAckBlk largestAck minAck ents =
      ((ents.takeWhile fun e => decide (minAck ≤ e.pktNum)).filter fun e => decide (largestAck < e.pktNum),
        ents.dropWhile fun e => decide (minAck ≤ e.pktNum)) := by
  induction ents with
  | nil => rfl
  | cons e rest ih =>
    simp only [acktrOnAckBlk, ih]
    by_cases above : e.pktNum > largestAck
    · have upper : minAck ≤ e.pktNum := by omega
      simp [above, upper]
    · by_cases below : e.pktNum < minAck
      · simp [above, below, Nat.not_le_of_lt below]
      · simp [above, below, Nat.le_of_not_lt below]

theorem acktrOnAckBlks_eq (fit : BlksFit minAck blks) (bound : minAck < 18446744073709551616)
    (falling : Falling AcktrEntry.pktNum ents) :
    acktrOnAckBlks minAck blks ents =
      ents.filter fun e => !decide (Span.Covers (blkSpans minAck blks) e.pktNum) := by
  induction blks generalizing minAck ents with
  | nil => simp [acktrOnAckBlks, blkSpans]
  | cons blk rest ih =>
    cases ents with
    | nil => rfl
    | cons e later =>
      obtain ⟨hi, lo⟩ := fit.first bound
      have fall := fit.fall bound
      simp only [blkSpans, hi, lo] at fall
      simp only [acktrOnAckBlks, blkSpans, hi, lo]
      rw [falling.filter_not_covers fall, acktrOnAckBlk_eq fall.2.1]
      dsimp only
      rw [ih fit.2.2 (by omega) (falling.dropWhile _)]

theorem acktrOnAckEnts_eq (valid : fr.Valid) (falling : Falling AcktrEntry.pktNum ents) :
    acktrOnAckEnts fr ents = ents.filter fun e => !decide (fr.Denotes e.pktNum) := by
  have fall := valid.fall
  unfold Ack.spans at fall
  rw [valid.first] at fall
  obtain ⟨taken, dropped⟩ := falling.walk fall.2.1
  have rest := acktrOnAckBlks_eq valid.blks valid.bound
    (falling.dropWhile fun e => decide (fr.largestAck - fr.firstAckBlklen ≤ e.pktNum))
  simp only [valid.denotes_iff, Ack.spans, acktrOnAckEnts, valid.first]
  rw [falling.filter_not_covers fall, taken, dropped, rest]

end Entries

section Ring

variable {minAck : Nat} {blks : List AckBlk} {acks : List AcktrAckEntry} {fr : Ack} (unprotected : Bool)

def AcktrAckEntry.takes (unprotected : Bool) (ent : AcktrAckEntry) : Bool :=
  !(unprotected && !ent.unprotected)

theorem acktrScanBlk_eq {largestAck : Nat} (order : minAck ≤ largestAck) (j : Nat) (acks : List AcktrAckEntry) :
    acktrScanBlk largestAck minAck unprotected j acks =
      match (acks.takeWhile fun e => decide (minAck ≤ e.pktNum)).findIdx?
          fun e => decide (e.pktNum ≤ largestAck) && e.takes unprotected with
      | some i => (some (j + i), j + i, acks.drop i)
      | none => (none, j + (acks.takeWhile fun e => decide (minAck ≤ e.pktNum)).length,
          acks.dropWhile fun e => decide (minAck ≤ e.pktNum)) := by
  induction acks generalizing j with
  | nil => rfl
  | cons e rest ih =>
    -- an element that is passed moves everything on by one
    have passed (upper : minAck ≤ e.pktNum) (other : (decide (e.pktNum ≤ largestAck) && e.takes unprotected) = false) :
        acktrScanBlk largestAck minAck unprotected (j + 1) rest =
          match ((e :: rest).takeWhile fun e => decide (minAck ≤ e.pktNum)).findIdx?
              fun e => decide (e.pktNum ≤ largestAck) && e.takes unprotected with
          | some i => (some (j + i), j + i, (e :: rest).drop i)
          | none => (none, j + ((e :: rest).takeWhile fun e => decide (minAck ≤ e.pktNum)).length,
              (e :: rest).dropWhile fun e => decide (minAck ≤ e.pktNum)) := by
      rw [ih, List.takeWhile_cons, if_pos (by simpa using upper), List.findIdx?_cons, if_neg (by simpa using other)]
      cases (rest.takeWhile fun e => decide (minAck ≤ e.pktNum)).findIdx?
          fun e => decide (e.pktNum ≤ largestAck) && e.takes unprotected with
      | none => simp [upper, Nat.add_assoc, Nat.add_comm 1]
      | some i => simp [Nat.add_assoc, Nat.add_comm 1]
    simp only [acktrScanBlk]
    by_cases above : e.pktNum > largestAck
    · rw [if_pos above]
      exact passed (by omega) (by simp [Nat.not_le_of_lt above])
    · rw [if_neg above]
      by_cases below : e.pktNum < minAck
      · simp [below, Nat.not_le_of_lt below]
      · rw [if_neg below]
        cases shut : (unprotected && !e.unprotected) with
        | true =>
          exact passed (by omega) (by simp [AcktrAckEntry.takes, shut])
        | false =>
          have opened : e.takes unprotected = true := by simp [AcktrAckEntry.takes, shut]
          simp [List.findIdx?_cons, Nat.le_of_not_lt below, Nat.le_of_not_lt above, opened]

theorem acktrScanBlks_eq (fit : BlksFit minAck blks) (bound : minAck < 18446744073709551616)
    (falling : Falling AcktrAckEntry.pktNum acks) (j : Nat) :
    acktrScanBlks unprotected minAck blks j acks =
      (acks.findIdx? fun e => decide (Span.Covers (blkSpans minAck blks) e.pktNum) && e.takes unprotected).map
        (j + ·) := by
  induction blks generalizing minAck acks j with
  | nil =>
    have none : (acks.findIdx? fun e => decide (Span.Covers (blkSpans minAck []) e.pktNum) && e.takes unprotected) =
        none := by
      simp [List.findIdx?_eq_none_iff, blkSpans]
    rw [acktrScanBlks, none, Option.map_none]
  | cons blk rest ih =>
    obtain ⟨hi, lo⟩ := fit.first bound
    have fall := fit.fall bound
    simp only [blkSpans, hi, lo] at fall
    simp only [acktrScanBlks, blkSpans, hi, lo]
    rw [acktrScanBlk_eq unprotected fall.2.1]
    rw [falling.findIdx?_covers fall]
    cases (acks.takeWhile fun e => decide (minAck - (blk.gap + 2) - blk.blklen ≤ e.pktNum)).findIdx?
        fun e => decide (e.pktNum ≤ minAck - (blk.gap + 2)) && e.takes unprotected with
    | some i => rfl
    | none =>
      have next := ih fit.2.2 (by omega)
        (falling.dropWhile fun e => decide (minAck - (blk.gap + 2) - blk.blklen ≤ e.pktNum))
        (j + (acks.takeWhile fun e => decide (minAck - (blk.gap + 2) - blk.blklen ≤ e.pktNum)).length)
      dsimp only
      cases left : acks.dropWhile fun e => decide (minAck - (blk.gap + 2) - blk.blklen ≤ e.pktNum) with
      | nil => rfl
      | cons e later =>
        rw [left] at next
        dsimp only
        rw [next, Option.map_map]
        congr 1
        funext i
        simp only [Function.comp_apply]
        omega

theorem acktrScanFirst_eq (valid : fr.Valid) (falling : Falling AcktrAckEntry.pktNum acks)
    (within : ∀ e ∈ acks, e.pktNum ≤ fr.largestAck) (j : Nat) :
    acktrScanFirst fr unprotected j acks =
      (acks.findIdx? fun e => decide (fr.Denotes e.pktNum) && e.takes unprotected).map (j + ·) := by
  simp only [valid.denotes_iff, Ack.spans, valid.first]
  have fall := valid.fall
  unfold Ack.spans at fall
  rw [valid.first] at fall
  induction acks generalizing j with
  | nil => rfl
  | cons e rest ih =>
    have low := within e (by simp)
    simp only [acktrScanFirst, valid.first]
    by_cases upper : fr.largestAck - fr.firstAckBlklen ≤ e.pktNum
    · have covered : Span.Covers _ e.pktNum := (Span.covers_upper fall upper).mpr low
      rw [if_pos ⟨upper, low⟩, List.findIdx?_cons, decide_eq_true covered, Bool.true_and]
      cases shut : (unprotected && !e.unprotected) with
      | true =>
        have closed : e.takes unprotected = false := by simp [AcktrAckEntry.takes, shut]
        rw [if_pos rfl, closed, if_neg Bool.false_ne_true, ih falling.tail (fun e member => within e (by simp [member])),
          Option.map_map]
        congr 1
        funext i
        simp only [Function.comp_apply]
        omega
      | false =>
        have opened : e.takes unprotected = true := by simp [AcktrAckEntry.takes, shut]
        simp [opened]
    · -- the element and all behind it are below the first block
      rw [if_neg (by omega), acktrScanBlks_eq unprotected valid.blks valid.bound falling]
      have lower : ∀ a ∈ e :: rest, a.pktNum < fr.largestAck - fr.firstAckBlklen := by
        intro a member
        rcases List.mem_cons.mp member with rfl | member
        · omega
        · have less := falling.head a member
          omega
      congr 1
      refine findIdx?_congr fun a member => ?_
      rw [decide_eq_decide.mpr (Span.covers_lower (lower a member))]

theorem ngtcp2AcktrRecvAck_eq {acktr : Acktr} (valid : fr.Valid) (falling : Falling AcktrAckEntry.pktNum acktr.acks) :
    ngtcp2AcktrRecvAck acktr fr unprotected =
      match acktr.acks.findIdx? fun e => decide (fr.Denotes e.pktNum) && e.takes unprotected with
      | none => acktr
      | some j => acktrOnAck acktr j := by
  have rest := acktrScanFirst_eq unprotected valid (falling.dropWhile fun e => decide (fr.largestAck < e.pktNum))
    falling.at_most (acktr.acks.takeWhile fun e => decide (fr.largestAck < e.pktNum)).length
  have front : ((acktr.acks.takeWhile fun e => decide (fr.largestAck < e.pktNum)).findIdx?
      fun e => decide (fr.Denotes e.pktNum) && e.takes unprotected) = none := by
    rw [List.findIdx?_eq_none_iff]
    intro e member
    have above : fr.largestAck < e.pktNum := by simpa using List.mem_takeWhile_imp member
    have outside : ¬ fr.Denotes e.pktNum := by
      intro denoted
      have below := valid.fall.below ((valid.denotes_iff _).mp denoted)
      omega
    simp [outside]
  have parts : (acktr.acks.findIdx? fun e => decide (fr.Denotes e.pktNum) && e.takes unprotected) =
      ((acktr.acks.dropWhile fun e => decide (fr.largestAck < e.pktNum)).findIdx?
        fun e => decide (fr.Denotes e.pktNum) && e.takes unprotected).map
          ((acktr.acks.takeWhile fun e => decide (fr.largestAck < e.pktNum)).length + ·) := by
    conv_lhs => rw [← List.takeWhile_append_dropWhile (p := fun e => decide (fr.largestAck < e.pktNum)) (l := acktr.acks)]
    rw [List.findIdx?_append, front]
    simp [Nat.add_comm]
  unfold ngtcp2AcktrRecvAck
  cases found : acktr.acks.findIdx? fun e => decide (fr.Denotes e.pktNum) && e.takes unprotected <;>
    simp only [rest.trans (parts.symm.trans found)]

end Ring

/-- A tracker as it is kept: both lists fall, the entries are counted, and the frames of the ring are ones that
`ngtcp2_pkt_validate_ack` accepts, which `acktr_on_ack` relies on. -/
structure Acktr.Ok (acktr : Acktr) : Prop where
  ents : Falling AcktrEntry.pktNum acktr.ent
  acks : Falling AcktrAckEntry.pktNum acktr.acks
  count : acktr.nack = acktr.ent.length
  reports : ∀ a ∈ acktr.acks, a.ack.Valid

/-- The packet of a sent ACK frame is acknowledged by `fr`, and is unprotected if `fr` came unprotected. -/
def AcktrAckEntry.AckedBy (fr : Ack) (unprotected : Bool) (ent : AcktrAckEntry) : Prop :=
  fr.Denotes ent.pktNum ∧ (unprotected = true → ent.unprotected = true)

instance (fr : Ack) (unprotected : Bool) (ent : AcktrAckEntry) : Decidable (ent.AckedBy fr unprotected) :=
  inferInstanceAs (Decidable (_ ∧ _))

theorem AcktrAckEntry.ackedBy_iff (fr : Ack) (unprotected : Bool) (ent : AcktrAckEntry) :
    ent.AckedBy fr unprotected ↔ (decide (fr.Denotes ent.pktNum) && ent.takes unprotected) = true := by
  unfold AcktrAckEntry.AckedBy AcktrAckEntry.takes
  cases unprotected <;> simp

/-- What an ACK frame of the peer does to the tracker. -/
theorem ngtcp2AcktrRecvAck_exact (acktr : Acktr) (fr : Ack) (unprotected : Bool) (ok : acktr.Ok) (valid : fr.Valid) :
    ((∀ a ∈ acktr.acks, ¬ a.AckedBy fr unprotected) → ngtcp2AcktrRecvAck acktr fr unprotected = acktr) ∧
    ∀ j a, acktr.acks[j]? = some a → a.AckedBy fr unprotected →
      (∀ i b, i < j → acktr.acks[i]? = some b → ¬ b.AckedBy fr unprotected) →
      ngtcp2AcktrRecvAck acktr fr unprotected =
        { acktr with
          ent := acktr.ent.filter fun e => !decide (a.ack.Denotes e.pktNum)
          nack := (acktr.ent.filter fun e => !decide (a.ack.Denotes e.pktNum)).length
          acks := acktr.acks.take j } := by
  rw [ngtcp2AcktrRecvAck_eq unprotected valid ok.acks]
  refine ⟨fun none => ?_, fun j a here acked newer => ?_⟩
  · have missing : (acktr.acks.findIdx? fun e => decide (fr.Denotes e.pktNum) && e.takes unprotected) = Option.none := by
      rw [List.findIdx?_eq_none_iff]
      intro a member
      simpa [AcktrAckEntry.ackedBy_iff] using none a member
    rw [missing]
  · have found : (acktr.acks.findIdx? fun e => decide (fr.Denotes e.pktNum) && e.takes unprotected) = some j := by
      obtain ⟨inside, same⟩ := List.getElem?_eq_some_iff.mp here
      rw [List.findIdx?_eq_some_iff_getElem]
      refine ⟨inside, ?_, fun i less => ?_⟩
      · rw [same]
        exact (a.ackedBy_iff fr unprotected).mp acked
      · have other := newer i _ less (List.getElem?_eq_getElem (Nat.lt_trans less inside))
        simpa [AcktrAckEntry.ackedBy_iff] using other
    have ents := acktrOnAckEnts_eq (ok.reports a (List.mem_of_getElem? here)) ok.ents
    have shorter := List.length_filter_le (fun e : AcktrEntry => !decide (a.ack.Denotes e.pktNum)) acktr.ent
    rw [found]
    simp only [acktrOnAck, here, ents, ok.count]
    congr 1
    omega

def twoAcks : Acktr where
  acks := [⟨⟨3, 0, 1, []⟩, 9, false⟩, ⟨⟨5, 0, 0, []⟩, 7, false⟩]
  ent := [⟨5, 0, false⟩, ⟨3, 0, false⟩, ⟨2, 0, true⟩]
  nack := 3
  activeAck := false

theorem ngtcp2AcktrRecvAck_exact_second :
    ngtcp2AcktrRecvAck twoAcks ⟨7, 0, 0, []⟩ false =
      { acks := [⟨⟨3, 0, 1, []⟩, 9, false⟩], ent := [⟨3, 0, false⟩, ⟨2, 0, true⟩], nack := 2, activeAck := false } := by
  refine (ngtcp2AcktrRecvAck_exact twoAcks ⟨7, 0, 0, []⟩ false ⟨by decide, by decide, rfl, ?_⟩
    ⟨by decide, by decide⟩).2 1 _ rfl (by decide) ?_
  · intro a member
    rcases List.mem_pair.mp member with rfl | rfl
    · exact ⟨by decide, by decide⟩
    · exact ⟨by decide, by decide⟩
  · intro i b less here
    obtain rfl : i = 0 := by omega
    cases here
    decide

end Ngtcp2
