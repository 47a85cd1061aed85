import Ngtcp2.Machine.Basic
import Ngtcp2.Recovery.AckRanges
import Ngtcp2.Recovery.RtbOps

/-!
# Acknowledged entries leave the retransmission buffer

One walk down the list takes the blocks of an ACK frame one after the other.
-/

namespace Ngtcp2

open Prog

variable (app : App)

def rtbAckEntries : List RtbEntry → ConnM Unit
  | [] => pure ()
  | ent :: rest => do
    rtbAckEntry app ent
    rtbAckEntries rest

def RtbEntry.pktNum (ent : RtbEntry) : Nat := ent.hd.pktNum

def RtbEntry.takes (unprotected : Bool) (ent : RtbEntry) : Bool := !(unprotected && !ent.unprotected)

theorem rtbAckEntries_append (xs ys : List RtbEntry) :
    rtbAckEntries app (xs ++ ys) = rtbAckEntries app xs >>= fun _ => rtbAckEntries app ys := by
  induction xs with
  | nil => rfl
  | cons ent rest ih =>
    rw [List.cons_append, rtbAckEntries, rtbAckEntries, ih, bind_assoc]

section Walk

variable {app} {unprotected : Bool} {minAck : Nat} {blks : List AckBlk} {ents : List RtbEntry} {fr : Ack}

theorem rtbAckBlk_eq {largestAck : Nat} (order : minAck ≤ largestAck) (ents : List RtbEntry) :
    rtbAckBlk app largestAck minAck unprotected ents = (do
      rtbAckEntries app ((ents.takeWhile fun ent => decide (minAck ≤ ent.pktNum)).filter
        fun ent => decide (ent.pktNum ≤ largestAck) && ent.takes unprotected)
      pure (ents.dropWhile fun ent => decide (minAck ≤ ent.pktNum))) := by
  induction ents with
  | nil => rfl
  | cons ent rest ih =>
    simp only [rtbAckBlk, ih]
    change (if ent.pktNum > largestAck then _ else if ent.pktNum < minAck then _ else _) = _
    by_cases above : ent.pktNum > largestAck
    · have upper : minAck ≤ ent.pktNum := by omega
      simp [above, upper, Nat.not_le_of_lt above]
    · by_cases below : ent.pktNum < minAck
      · simp [above, below, Nat.not_le_of_lt below]
        rfl
      · have inside : minAck ≤ ent.pktNum ∧ ent.pktNum ≤ largestAck := by omega
        cases shut : (unprotected && !ent.unprotected) with
        | true =>
          have passed : ent.takes unprotected = false := by simp [RtbEntry.takes, shut]
          simp [above, below, inside, passed]
        | false =>
          have taken : ent.takes unprotected = true := by simp [RtbEntry.takes, shut]
          simp [above, below, inside, taken, rtbAckEntries, bind_assoc]

theorem rtbAckBlks_eq (fit : BlksFit minAck blks) (bound : minAck < 18446744073709551616)
    (falling : Falling RtbEntry.pktNum ents) :
    rtbAckBlks app minAck unprotected blks ents =
      rtbAckEntries app (ents.filter fun ent =>
        decide (Span.Covers (blkSpans minAck blks) ent.pktNum) && ent.takes unprotected) := by
  induction blks generalizing minAck ents with
  | nil => simp [rtbAckBlks, blkSpans, rtbAckEntries]
  | cons blk rest ih =>
    by_cases empty : ents = []
    · subst empty
      rfl
    · obtain ⟨hi, lo⟩ := fit.first bound
      have fall := fit.fall bound
      simp only [blkSpans, hi, lo] at fall
      simp only [rtbAckBlks, blkSpans, hi, lo, if_neg empty]
      rw [falling.filter_covers fall, rtbAckEntries_append, rtbAckBlk_eq fall.2.1, bind_assoc]
      congr 1
      funext _
      exact ih fit.2.2 (by omega) (falling.dropWhile _)

theorem rtbAckFirst_eq {largestAck : Nat} (within : ∀ ent ∈ ents, ent.pktNum ≤ largestAck) :
    rtbAckFirst app largestAck minAck unprotected ents = rtbAckBlk app largestAck minAck unprotected ents := by
  induction ents with
  | nil => rfl
  | cons ent rest ih =>
    have low : ent.hd.pktNum ≤ largestAck := within ent (by simp)
    have later := ih fun ent member => within ent (by simp [member])
    simp only [rtbAckFirst, rtbAckBlk, later]
    by_cases upper : minAck ≤ ent.hd.pktNum
    · simp [upper, low, Nat.not_lt_of_le low, Nat.not_lt_of_le upper]
    · simp [upper, Nat.not_lt_of_le low, Nat.lt_of_not_le upper]

def RtbEntry.ackedBy (fr : Ack) (unprotected : Bool) (ent : RtbEntry) : Bool :=
  decide (fr.Denotes ent.pktNum) && ent.takes unprotected

theorem ngtcp2RtbRecvAck_eq (valid : fr.Valid) {s : Conn} (falling : Falling RtbEntry.pktNum s.rtb.head) :
    ngtcp2RtbRecvAck app fr unprotected s =
      rtbAckEntries app (s.rtb.head.filter fun ent => ent.ackedBy fr unprotected) s := by
  have fall := valid.fall
  unfold Ack.spans at fall
  rw [valid.first] at fall
  have above : ((s.rtb.head.takeWhile fun ent => decide (fr.largestAck < ent.pktNum)).filter
      fun ent => ent.ackedBy fr unprotected) = [] := by
    rw [List.filter_eq_nil_iff]
    intro ent member
    have above : fr.largestAck < ent.pktNum := by simpa using List.mem_takeWhile_imp member
    have outside : ¬ fr.Denotes ent.pktNum := by
      intro denoted
      have below := valid.fall.below ((valid.denotes_iff _).mp denoted)
      omega
    simp [RtbEntry.ackedBy, outside]
  have split : (s.rtb.head.filter fun ent => ent.ackedBy fr unprotected) =
      (s.rtb.head.dropWhile fun ent => decide (fr.largestAck < ent.pktNum)).filter
        fun ent => ent.ackedBy fr unprotected := by
    conv_lhs => rw [← List.takeWhile_append_dropWhile (p := fun ent => decide (fr.largestAck < ent.pktNum)) (l := s.rtb.head)]
    rw [List.filter_append, above, List.nil_append]
  have rest := falling.dropWhile fun ent => decide (fr.largestAck < ent.pktNum)
  rw [split]
  change (if (s.rtb.head.dropWhile fun ent => decide (fr.largestAck < ent.pktNum)) = [] then pure () else do
    let ents ← rtbAckFirst app fr.largestAck (sub64 fr.largestAck fr.firstAckBlklen) unprotected
      (s.rtb.head.dropWhile fun ent => decide (fr.largestAck < ent.pktNum))
    rtbAckBlks app (sub64 fr.largestAck fr.firstAckBlklen) unprotected fr.blks ents : ConnM Unit) s = _
  generalize found : (s.rtb.head.dropWhile fun ent => decide (fr.largestAck < ent.pktNum)) = ents at rest ⊢
  have within : ∀ ent ∈ ents, ent.pktNum ≤ fr.largestAck := found ▸ falling.at_most
  by_cases empty : ents = []
  · subst empty
    rfl
  · simp only [RtbEntry.ackedBy, valid.denotes_iff, Ack.spans, valid.first]
    rw [if_neg empty, rest.filter_covers fall, rtbAckEntries_append, rtbAckFirst_eq within, rtbAckBlk_eq fall.2.1,
      bind_assoc, ← rtbAckBlks_eq valid.blks valid.bound (rest.dropWhile _)]
    rfl

end Walk

theorem rtbRemove_largestAcked {rtb rtb' : Rtb} {ent : RtbEntry} (run : rtbRemove rtb ent = .ok rtb') :
    rtb'.largestAcked = rtb.largestAcked := by
  unfold rtbRemove at run
  split at run
  · cases run
  · split at run
    · cases run
    · cases run
      rfl

section Remove

variable {app} (ok : ∀ log e, app.ok log e = true)

include ok

theorem ngtcp2ConnCloseStream_rtb (strm : Strm) (code : Nat) (s : Conn) :
    Keeps Conn.rtb (ngtcp2ConnCloseStream app strm code) s := by
  refine .bind (.modify rfl) fun _ _ _ => .bind (.got (.run (connMark_run _ _) rfl)) fun _ _ _ =>
    .bind (.run (connCall_succeeds (ok _ _)) rfl) fun _ _ _ => .bind ?_ fun _ _ _ => .bind ?_ fun _ _ _ => .modify rfl
  · refine .got ?_
    split
    · exact .pure _
    · refine .bind (.run (connMark_run _ _) rfl) fun _ _ _ => .modify ?_
      split <;> rfl
  · unfold connFcErase
    split
    · exact .modify rfl
    · exact .pure _

theorem ackStreamFrame_rtb (fr : StreamFrame) (s : Conn) : Keeps Conn.rtb (ackStreamFrame app fr) s := by
  refine .bind (.run (t := s) rfl rfl) fun found t run => ?_
  cases run
  cases found : s.strms fr.streamId with
  | none => exact .pure _
  | some strm =>
    have look (g : Strm → Strm) := modifyStrm_run g found
    refine .bind (.run (look _) rfl) fun _ t run => ?_
    cases (look _).symm.trans run
    dsimp only
    split
    · exact .pure _
    · refine .bind (.run (connCall_succeeds (ok _ _)) rfl) fun _ t run => ?_
      cases (connCall_succeeds (ok _ _)).symm.trans run
      refine .bind (.run (getStrm_run (Conn.setStrm_strms ..)) rfl) fun _ _ _ => ?_
      split
      · exact ngtcp2ConnCloseStream_rtb ok _ _ _
      · exact .pure _

theorem callAckedStreamOffset_rtb (frc : List Frame) (s : Conn) : Keeps Conn.rtb (callAckedStreamOffset app frc) s := by
  induction frc generalizing s with
  | nil => exact .pure _
  | cons fr rest ih =>
    cases fr with
    | stream fr => exact .bind (ackStreamFrame_rtb ok fr s) fun _ t _ => ih t
    | _ => exact ih s

theorem rtbAckFrames_rtb (frc : List Frame) (s : Conn) : Keeps Conn.rtb (rtbAckFrames app frc) s := by
  refine .got ?_
  split
  · exact callAckedStreamOffset_rtb ok frc s
  · exact .pure _

theorem rtbAckEntry_removes {ent : RtbEntry} {s : Conn} (consistent : s.rtb.Consistent) (member : ent ∈ s.rtb.head) :
    ∃ t, rtbAckEntry app ent s = (.ok (), t) ∧ t.rtb.Consistent ∧ t.rtb.head = unlink ent.addr s.rtb.head ∧
      t.rtb.largestAcked = max s.rtb.largestAcked ent.pktNum := by
  obtain ⟨_, t, told, same⟩ := rtbAckFrames_rtb ok ent.frc (s.emit (.mark (.ackedEntry ent.hd.pktNum ent.frc)))
  have noted : Rtb.Consistent { s.rtb with largestAcked := max s.rtb.largestAcked ent.hd.pktNum } :=
    ⟨consistent.same, consistent.once, consistent.sound.pq, consistent.sound.bytes⟩
  obtain ⟨rtb, removed, after, head⟩ := noted.remove member
  have largest := rtbRemove_largestAcked removed
  refine ⟨{ t with rtb := rtb }, ?_, after, head, largest⟩
  unfold rtbAckEntry
  rw [bind_ok (connMark_run _ _), bind_ok told]
  change (Prog.ofExcept (rtbRemove { t.rtb with largestAcked := max t.rtb.largestAcked ent.hd.pktNum } ent) >>= fun rtb =>
    modify fun c => { c with rtb := rtb } : ConnM Unit) t = _
  rw [show t.rtb = s.rtb from same, removed]
  rfl

omit ok in
theorem unlink_eq_filter {ents : List RtbEntry} (once : (ents.map RtbEntry.addr).Nodup) (addr : Nat) :
    unlink addr ents = ents.filter fun ent => ent.addr != addr := by
  induction ents with
  | nil => rfl
  | cons ent rest ih =>
    rw [List.map_cons, List.nodup_cons] at once
    by_cases same : ent.addr = addr
    · have others : ∀ e ∈ rest, e.addr ≠ addr := fun e member again =>
        once.1 (List.mem_map.mpr ⟨e, member, again.trans same.symm⟩)
      simp only [unlink, same, if_true, List.filter_cons, bne_self_eq_false, Bool.false_eq_true, if_false]
      exact (List.filter_eq_self.mpr fun e member => by simpa using others e member).symm
    · simp [unlink, same, ih once.2]

theorem rtbAckEntries_removes {ents : List RtbEntry} {s : Conn} (consistent : s.rtb.Consistent)
    (part : ents.Sublist s.rtb.head) :
    ∃ t, rtbAckEntries app ents s = (.ok (), t) ∧ t.rtb.Consistent ∧
      (t.rtb.head = s.rtb.head.filter fun ent => decide (ent.addr ∉ ents.map RtbEntry.addr)) ∧
      t.rtb.largestAcked = (ents.map RtbEntry.pktNum).foldl max s.rtb.largestAcked := by
  induction ents generalizing s with
  | nil => exact ⟨s, rfl, consistent, by simp, rfl⟩
  | cons ent rest ih =>
    obtain ⟨t, first, after, head, largest⟩ := rtbAckEntry_removes ok consistent (part.subset List.mem_cons_self)
    rw [unlink_eq_filter consistent.once] at head
    have apart : ent.addr ∉ rest.map RtbEntry.addr :=
      (List.nodup_cons.mp ((part.map RtbEntry.addr).nodup consistent.once)).1
    -- the entries to come are still in the list
    have left : rest.Sublist t.rtb.head := by
      have kept : (rest.filter fun e => e.addr != ent.addr) = rest := by
        refine List.filter_eq_self.mpr fun e member => ?_
        simpa using fun same => apart (List.mem_map.mpr ⟨e, member, same⟩)
      rw [head, ← kept]
      exact ((List.sublist_cons_self ent rest).trans part).filter _
    obtain ⟨u, others, last, head', largest'⟩ := ih after left
    refine ⟨u, (bind_ok first).trans others, last, ?_, ?_⟩
    · rw [head', head, List.filter_filter]
      refine List.filter_congr fun e _ => ?_
      by_cases same : e.addr = ent.addr <;> simp [same]
    · rw [largest', largest]
      rfl

end Remove

/-- An ACK frame removes the entries with the numbers it denotes, in an unprotected packet only unprotected
ones. -/
theorem ngtcp2RtbRecvAck_exact (app : App) (fr : Ack) (unprotected : Bool) (s : Conn)
    (ok : ∀ log e, app.ok log e = true) (wire : fr.WireOk) (accepted : ngtcp2PktValidateAck fr = true)
    (consistent : s.rtb.Consistent) (falling : Falling RtbEntry.pktNum s.rtb.head) :
    (∃ t, ngtcp2RtbRecvAck app fr unprotected s = (.ok (), t) ∧
      (t.rtb.head = s.rtb.head.filter fun ent =>
        !decide (fr.Denotes ent.pktNum ∧ (unprotected = true → ent.unprotected = true))) ∧
      t.rtb.largestAcked = ((s.rtb.head.filter fun ent =>
        decide (fr.Denotes ent.pktNum ∧ (unprotected = true → ent.unprotected = true))).map
          RtbEntry.pktNum).foldl max s.rtb.largestAcked) ∧
    NoWrap fr.subs := by
  have valid : fr.Valid := ⟨accepted, wire.fits⟩
  have same : (fun ent : RtbEntry => ent.ackedBy fr unprotected) = fun ent =>
      decide (fr.Denotes ent.pktNum ∧ (unprotected = true → ent.unprotected = true)) := by
    funext ent
    unfold RtbEntry.ackedBy RtbEntry.takes
    cases unprotected <;> simp
  obtain ⟨t, run, -, head, largest⟩ := rtbAckEntries_removes ok consistent
    (List.filter_sublist (l := s.rtb.head) (p := fun ent => ent.ackedBy fr unprotected))
  rw [← ngtcp2RtbRecvAck_eq valid falling] at run
  refine ⟨⟨t, run, ?_, ?_⟩, valid.noWrap⟩
  · rw [head]
    refine List.filter_congr fun ent member => ?_
    rw [same]
    -- an address stands for one entry of the list
    have own : ent.addr ∈ (s.rtb.head.filter fun ent =>
        decide (fr.Denotes ent.pktNum ∧ (unprotected = true → ent.unprotected = true))).map RtbEntry.addr ↔
        (fr.Denotes ent.pktNum ∧ (unprotected = true → ent.unprotected = true)) := by
      constructor
      · intro listed
        obtain ⟨other, inside, address⟩ := List.mem_map.mp listed
        obtain ⟨inside, acked⟩ := List.mem_filter.mp inside
        obtain rfl := List.inj_on_of_nodup_map consistent.once inside member address
        exact of_decide_eq_true acked
      · intro acked
        exact List.mem_map_of_mem (List.mem_filter.mpr ⟨member, decide_eq_true acked⟩)
    simp only [own, decide_not]
  · rw [largest, same]

def twoSent : Conn :=
  let hd (pktNum : Nat) : PktHd :=
    { longForm := false, omitConnId := false, type := .PKT_01, connId := 1, pktNum := pktNum, version := 1 }
  { connNew 1 1 ⟨0, 0, 0, 0, false, [], 0⟩ false true with
    rtb := ngtcp2RtbAdd (ngtcp2RtbAdd ngtcp2RtbInit (ngtcp2RtbEntryNew 0 (hd 4) [] 0 1 30 false))
      (ngtcp2RtbEntryNew 1 (hd 6) [] 0 1 30 false) }

theorem twoSent_consistent : twoSent.rtb.Consistent :=
  (Rtb.Consistent.init.add (by simp [ngtcp2RtbInit])).add (by simp [ngtcp2RtbAdd, ngtcp2RtbInit, ngtcp2RtbEntryNew])

theorem ngtcp2RtbRecvAck_exact_twoSent :
    ∃ t, ngtcp2RtbRecvAck App.quiet ⟨6, 0, 0, []⟩ false twoSent = (.ok (), t) ∧
      t.rtb.head.map RtbEntry.pktNum = [4] ∧ t.rtb.largestAcked = 6 := by
  obtain ⟨⟨t, run, head, largest⟩, -⟩ := ngtcp2RtbRecvAck_exact App.quiet ⟨6, 0, 0, []⟩ false twoSent (fun _ _ => rfl)
    (by decide) (by decide) twoSent_consistent (by decide)
  refine ⟨t, run, ?_, ?_⟩
  · rw [head]
    decide
  · rw [largest]
    decide

end Ngtcp2
