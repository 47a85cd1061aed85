import Ngtcp2.Machine.Ack

/-!
# The packet numbers of an ACK frame

The frame covers all packets that `conn_create_ack_frame` has passed.
-/

namespace Ngtcp2

def AckBlk.largest (minAck : Nat) (blk : AckBlk) : Nat := sub64 minAck (add64 blk.gap 2)

def AckBlk.smallest (minAck : Nat) (blk : AckBlk) : Nat := sub64 (blk.largest minAck) blk.blklen

def BlksCover (n : Nat) : Nat → List AckBlk → Prop
  | _, [] => False
  | minAck, blk :: rest =>
    (blk.smallest minAck ≤ n ∧ n ≤ blk.largest minAck) ∨ BlksCover n (blk.smallest minAck) rest

instance (n : Nat) : (minAck : Nat) → (blks : List AckBlk) → Decidable (BlksCover n minAck blks)
  | _, [] => inferInstanceAs (Decidable False)
  | minAck, blk :: rest =>
    have := instDecidableBlksCover n (blk.smallest minAck) rest
    inferInstanceAs (Decidable (_ ∨ _))

def blksEnd : Nat → List AckBlk → Nat
  | minAck, [] => minAck
  | minAck, blk :: rest => blksEnd (blk.smallest minAck) rest

/-- A number is in the first block, which goes down from `largestAck`, or in one of the others. -/
def AckCover (largestAck firstAckBlklen : Nat) (blks : List AckBlk) (n : Nat) : Prop :=
  (sub64 largestAck firstAckBlklen ≤ n ∧ n ≤ largestAck) ∨ BlksCover n (sub64 largestAck firstAckBlklen) blks

def Ack.Covers (ack : Ack) (n : Nat) : Prop := AckCover ack.largestAck ack.firstAckBlklen ack.blks n

instance (ack : Ack) (n : Nat) : Decidable (ack.Covers n) := inferInstanceAs (Decidable (_ ∨ _))

theorem BlksCover.append {n minAck : Nat} {blks : List AckBlk} {blk : AckBlk}
    (cover : BlksCover n minAck blks ∨
      blk.smallest (blksEnd minAck blks) ≤ n ∧ n ≤ blk.largest (blksEnd minAck blks)) :
    BlksCover n minAck (blks ++ [blk]) := by
  induction blks generalizing minAck with
  | nil => exact .inl (cover.resolve_left id)
  | cons first rest ih =>
    rcases cover with (inFirst | inRest) | last
    · exact .inl inFirst
    · exact .inr (ih (.inl inRest))
    · exact .inr (ih (.inr last))

theorem blksEnd_append (minAck : Nat) (blks : List AckBlk) (blk : AckBlk) :
    blksEnd minAck (blks ++ [blk]) = blk.smallest (blksEnd minAck blks) := by
  induction blks generalizing minAck with
  | nil => rfl
  | cons first rest ih => exact ih _

structure AckScan.Ok (scan : AckScan) (largestAck : Nat) (seen : Nat → Prop) : Prop where
  run : scan.lastPktNum ≤ scan.firstPktNum
  bound : scan.firstPktNum < 18446744073709551616
  first : scan.initial = true → scan.firstPktNum = largestAck ∧ scan.blks = []
  joined : scan.initial = false → ∀ blklen,
    AckBlk.largest (blksEnd (sub64 largestAck scan.firstAckBlklen) scan.blks) ⟨scan.gap, blklen⟩ =
      scan.firstPktNum
  covered : ∀ n, seen n → scan.lastPktNum ≤ n ∧ n ≤ scan.firstPktNum ∨
    scan.initial = false ∧ AckCover largestAck scan.firstAckBlklen scan.blks n

theorem AckScan.start_ok {largestAck : Nat} (bound : largestAck < 18446744073709551616) :
    (AckScan.start largestAck).Ok largestAck (· = largestAck) where
  run := Nat.le_refl _
  bound := bound
  first _ := ⟨rfl, rfl⟩
  joined := by simp [AckScan.start]
  covered := by
    rintro n rfl
    exact .inl ⟨Nat.le_refl _, Nat.le_refl _⟩

theorem endRun_initial (scan : AckScan) : scan.endRun.initial = false := by
  unfold AckScan.endRun
  split
  · rfl
  · simpa using ‹¬ scan.initial = true›

namespace AckScan.Ok

variable {scan : AckScan} {largestAck : Nat} {seen seen' : Nat → Prop}

theorem sub_run (ok : scan.Ok largestAck seen) :
    sub64 scan.firstPktNum (sub64 scan.firstPktNum scan.lastPktNum) = scan.lastPktNum := by
  have run := ok.run
  have bound := ok.bound
  rw [sub64_eq run bound, sub64_eq (by omega) bound]
  omega

theorem endRun_end (ok : scan.Ok largestAck seen) :
    blksEnd (sub64 largestAck scan.endRun.firstAckBlklen) scan.endRun.blks = scan.lastPktNum := by
  cases initial : scan.initial with
  | true =>
    obtain ⟨same, blks⟩ := ok.first initial
    simp [AckScan.endRun, initial, blks, blksEnd, ← same, ok.sub_run]
  | false =>
    simp [AckScan.endRun, initial, blksEnd_append, AckBlk.smallest, ok.joined initial, ok.sub_run]

theorem endRun_cover (ok : scan.Ok largestAck seen) {n : Nat} (member : seen n) :
    AckCover largestAck scan.endRun.firstAckBlklen scan.endRun.blks n := by
  cases initial : scan.initial with
  | true =>
    obtain ⟨same, blks⟩ := ok.first initial
    have inRun := (ok.covered n member).resolve_right (by simp [initial])
    left
    simpa [AckScan.endRun, initial, ← same, ok.sub_run] using inRun
  | false =>
    have ended : scan.endRun.firstAckBlklen = scan.firstAckBlklen ∧
        scan.endRun.blks = scan.blks ++ [⟨scan.gap, sub64 scan.firstPktNum scan.lastPktNum⟩] := by
      simp [AckScan.endRun, initial]
    rw [ended.1, ended.2]
    rcases ok.covered n member with inRun | ⟨-, inFirst | inBlks⟩
    · refine .inr (.append (.inr ?_))
      rw [AckBlk.smallest, ok.joined initial, ok.sub_run]
      exact inRun
    · exact .inl inFirst
    · exact .inr (.append (.inl inBlks))

theorem extend (ok : scan.Ok largestAck seen) {n : Nat} (next : n + 1 = scan.lastPktNum) :
    AckScan.Ok { scan with lastPktNum := n } largestAck fun m => seen m ∨ m = n where
  run := by
    have run := ok.run
    dsimp only
    omega
  bound := ok.bound
  first := ok.first
  joined := ok.joined
  covered := by
    have run := ok.run
    rintro m (member | rfl)
    · rcases ok.covered m member with inRun | closed
      · exact .inl ⟨by dsimp only; omega, inRun.2⟩
      · exact .inr closed
    · exact .inl ⟨Nat.le_refl _, by dsimp only; omega⟩

theorem skip (ok : scan.Ok largestAck seen) {n : Nat} (gap : n + 2 ≤ scan.lastPktNum) :
    AckScan.Ok
      { scan.endRun with
        gap := sub64 scan.endRun.lastPktNum (add64 n 2), firstPktNum := n, lastPktNum := n }
      largestAck fun m => seen m ∨ m = n := by
  have run := ok.run
  have bound := ok.bound
  have last : scan.endRun.lastPktNum = scan.lastPktNum := by
    unfold AckScan.endRun
    split <;> rfl
  have closed := endRun_initial scan
  refine ⟨Nat.le_refl n, by dsimp only; omega, fun initial => ?_, fun _ blklen => ?_, ?_⟩
  · simp [closed] at initial
  · have width : sub64 scan.endRun.lastPktNum (add64 n 2) = scan.lastPktNum - (n + 2) := by
      rw [last, add64_eq (by omega), sub64_eq gap (by omega)]
    dsimp only
    rw [ok.endRun_end, AckBlk.largest, width, add64_eq (by dsimp only; omega),
      sub64_eq (by dsimp only; omega) (by omega)]
    dsimp only
    omega
  · rintro m (member | rfl)
    · exact .inr ⟨closed, ok.endRun_cover member⟩
    · exact .inl ⟨Nat.le_refl _, Nat.le_refl _⟩

end AckScan.Ok

theorem endRun_cover_closed {scan : AckScan} {largestAck n : Nat} (closed : scan.initial = false)
    (cover : AckCover largestAck scan.firstAckBlklen scan.blks n) :
    AckCover largestAck scan.endRun.firstAckBlklen scan.endRun.blks n := by
  simp only [AckScan.endRun, closed, Bool.false_eq_true, if_false]
  exact cover.imp_right fun inBlks => .append (.inl inBlks)

theorem ackScan_cover (unprotected : Bool) {ents : List AcktrEntry} {scan scan' : AckScan}
    {left : List AcktrEntry} {largestAck : Nat} {seen : Nat → Prop} (ok : scan.Ok largestAck seen)
    (scanned : ackScan unprotected ents scan = (scan', left)) {passed : List AcktrEntry}
    (split : ents = passed ++ left) (descending : passed.Pairwise fun a b => b.pktNum < a.pktNum)
    (below : ∀ e ∈ passed, e.pktNum < scan.lastPktNum) {n : Nat}
    (member : seen n ∨ ∃ e ∈ passed, e.pktNum = n ∧ (unprotected = true → e.unprotected = true)) :
    AckCover largestAck scan'.endRun.firstAckBlklen scan'.endRun.blks n := by
  induction passed generalizing ents scan seen with
  | nil =>
    have member : seen n := by simpa using member
    obtain rfl : ents = left := split
    cases ents with
    | nil =>
      cases scanned
      exact ok.endRun_cover member
    | cons e rest =>
      -- the scan stops at once, or else it leaves less than it was given
      have shorter : ∀ scan scan' : AckScan, ackScan unprotected rest scan ≠ (scan', e :: rest) := by
        intro scan scan' all
        have suffix := (ackScan_suffix unprotected rest scan).length_le
        simp only [all, List.length_cons] at suffix
        omega
      simp only [ackScan] at scanned
      split at scanned
      next => exact absurd scanned (shorter _ _)
      next =>
      split at scanned
      next => exact absurd scanned (shorter _ _)
      next =>
      split at scanned
      next =>
        cases scanned
        exact endRun_cover_closed (endRun_initial scan) (ok.endRun_cover member)
      next => exact absurd scanned (shorter _ _)
  | cons e passed ih =>
    obtain ⟨first, descending⟩ := List.pairwise_cons.mp descending
    have lower := below e List.mem_cons_self
    have bound := ok.bound
    have run := ok.run
    subst split
    simp only [List.cons_append, ackScan] at scanned
    split at scanned
    next skipped =>
      refine ih ok scanned rfl descending (fun e member => below e (List.mem_cons_of_mem _ member)) ?_
      simp only [Bool.and_eq_true, Bool.not_eq_true'] at skipped
      simpa [skipped] using member
    next =>
    have member : (seen n ∨ n = e.pktNum) ∨
        ∃ e ∈ passed, e.pktNum = n ∧ (unprotected = true → e.unprotected = true) := by
      rcases member with member | ⟨e', member, rfl, covered⟩
      · exact .inl (.inl member)
      · rcases List.mem_cons.mp member with rfl | member
        · exact .inl (.inr rfl)
        · exact .inr ⟨e', member, rfl, covered⟩
    split at scanned
    next next =>
      rw [add64_eq (by omega)] at next
      exact ih (ok.extend next) scanned rfl descending first member
    next apart =>
      rw [add64_eq (by omega)] at apart
      split at scanned
      next => 
        have length := congrArg (fun r => r.2.length) scanned
        simp at length
        omega
      next => exact ih (ok.skip (by omega)) scanned rfl descending first member

end Ngtcp2
