import Ngtcp2.Account.Takes

/-!
# What writing a packet does to an outline

Streams keep their codes, and the application is told nothing.
-/

namespace Ngtcp2

open Prog

section

variable (app : App)

-- retransmission

theorem connMarkEntry_deeds {m : Option Nat → Mark} (silent : ∀ n, (Event.mark (m n)).told = false) :
    Takes .idle (connMarkEntry m) := .got fun _ => connMark_deeds (silent _)

theorem setRtb_deeds (f : Conn → Rtb) : Takes .write (modify fun c => { c with rtb := f c }) :=
  .step fun c => .sends c.outline (f c).head c.earlyRtb rfl

theorem connRtbAdd_deeds (ent : RtbEntry) : Takes .write (connRtbAdd app ent) := by
  refine .got fun c => ?_
  dsimp only
  split
  · exact .bind (malloc_deeds app).idle fun _ => setRtb_deeds fun c => ngtcp2RtbAdd c.rtb ent
  · exact setRtb_deeds fun c => ngtcp2RtbAdd c.rtb ent

theorem connRtbEntryNew_deeds (hd : PktHd) (frc : List Frame) (ts deadline pktlen : Nat) (unprotected : Bool) :
    Takes .idle (connRtbEntryNew app hd frc ts deadline pktlen unprotected) :=
  .bind (malloc_deeds app) fun _ => .pure _

theorem tryFrame_deeds {α : Type} (ppe : Ppe) (called : Bool) (hd : PktHd) (fr : Frame) {f : Except Err Ppe → ConnM α}
    (rest : ∀ r, Takes .idle (f r)) :
    Takes .idle (Prog.attempt (connPpeWriteFrame app ppe called hd fr) >>= f) :=
  .bind (.attempt (connPpeWriteFrame_deeds app ppe called hd fr)) rest

theorem writeFrames_deeds (hd : PktHd) (frs : List Frame) (ppe : Ppe) (called : Bool) :
    Takes .idle (writeFrames app hd frs ppe called) := by
  induction frs generalizing ppe called with
  | nil => exact .pure _
  | cons fr rest ih =>
    refine tryFrame_deeds app ppe called hd fr fun r => ?_
    split
    · exact .bind (ih _ _) fun _ => .pure _
    · exact .pure _
    · exact .throw _

theorem connSplitEntry_deeds (ent : RtbEntry) (hd : PktHd) (written left : List Frame) (nwrite ts : Nat)
    (unprotected : Bool) : Takes .write (connSplitEntry app ent hd written left nwrite ts unprotected) :=
  .bind (connMark_deeds rfl).idle fun _ => .bind (connRtbEntryNew_deeds app _ _ _ _ _ _).idle fun _ =>
    .bind (connRtbAdd_deeds app _) fun _ => .pure _

theorem retransmitPadding_deeds (hd : PktHd) (ppe : Ppe) : Takes .idle (retransmitPadding app hd ppe) := by
  unfold retransmitPadding
  split
  · exact .bind (.ofExcept _) fun _ => .bind (connCall_deeds app rfl) fun _ => .pure _
  · exact .pure _

theorem connRetransmitUnprotected_deeds (destlen : Nat) (ent : RtbEntry) (ts : Nat) :
    Takes .write (connRetransmitUnprotected app destlen ent ts) := by
  refine .got fun c => ?_
  dsimp only
  split
  · exact .pure _
  · exact .throw _
  refine .bind (writeFrames_deeds app _ _ _ _).idle fun r => ?_
  split
  · exact .ite (.pure _) (.pure _)
  split
  · exact .bind (retransmitPadding_deeds app _ _).idle fun _ => .bind incLastTxPktNum_deeds.idle fun _ =>
      .bind (ngtcp2PpeFinal_deeds app _).idle fun _ => .pure _
  · exact .bind (ngtcp2PpeFinal_deeds app _).idle fun _ => .bind (connSplitEntry_deeds app _ _ _ _ _ _ _) fun _ =>
      .bind incLastTxPktNum_deeds.idle fun _ => .pure _

theorem retransmitFrames_deeds (hd : PktHd) (unchecked : Bool) (frs : List Frame) (ppe : Ppe) (called : Bool) :
    Takes .idle (retransmitFrames app hd unchecked frs ppe called) := by
  induction frs generalizing unchecked ppe called with
  | nil =>
    unfold retransmitFrames
    exact .ite (.throw _) (.pure _)
  | cons fr rest ih =>
    refine .got fun c => ?_
    split
    · exact ih _ _ _
    refine tryFrame_deeds app ppe called hd fr fun r => ?_
    split
    · exact .bind (ih _ _ _) fun _ => .pure _
    · exact .pure _
    · exact .throw _

theorem retransmitAck_deeds (ackExpired : Bool) (hd : PktHd) (ppe : Ppe) (ts : Nat) :
    Takes .idle (retransmitAck app ackExpired hd ppe ts) := by
  unfold retransmitAck
  split
  · refine .bind (connCreateAckFrame_deeds app ts false) fun ack => ?_
    split
    · exact .pure _
    refine tryFrame_deeds app ppe true hd _ fun r => ?_
    split
    · exact .bind connCommitTxAck_deeds fun _ => .bind (connAddAck_deeds _ _ _) fun _ => .pure _
    · exact .pure _
    · exact .throw _
  · exact .pure _

theorem connRetransmitProtected_deeds (destlen : Nat) (ent : RtbEntry) (ts : Nat) :
    Takes .write (connRetransmitProtected app destlen ent ts) := by
  refine .got fun c => ?_
  dsimp only
  split
  · exact .pure _
  · exact .throw _
  refine .bind (retransmitFrames_deeds app _ _ _ _ _).idle fun r => ?_
  split
  · exact .ite (.pure _) (.pure _)
  refine .bind (retransmitAck_deeds app _ _ _ ts).idle fun _ => .bind (ngtcp2PpeFinal_deeds app _).idle fun _ => ?_
  split
  · exact .bind incLastTxPktNum_deeds.idle fun _ => .pure _
  · exact .bind (connSplitEntry_deeds app _ _ _ _ _ _ _) fun _ => .bind incLastTxPktNum_deeds.idle fun _ => .pure _

theorem connRetransmitEntry_deeds (destlen : Nat) (ent : RtbEntry) (ts : Nat) :
    Takes .write (connRetransmitEntry app destlen ent ts) := by
  refine .got fun c => ?_
  split
  · split
    · exact .ite (.pure _) (connRetransmitUnprotected_deeds app _ _ _)
    · exact .ite (.pure _) (connRetransmitUnprotected_deeds app _ _ _)
    · exact .throw _
  · split <;> first | exact connRetransmitProtected_deeds app _ _ _ | exact .throw _

theorem connRtbReadd_deeds (ent : RtbEntry) : Takes .write (connRtbReadd app ent) := by
  refine .bind (.attempt (connRtbAdd_deeds app ent)) fun r => ?_
  split
  · exact .pure _
  · exact .ite (.throw _) (.throw _)

theorem connRetransmitLoop_deeds (destlen ts rounds : Nat) : Takes .write (connRetransmitLoop app destlen ts rounds) := by
  induction rounds with
  | zero => exact .pure _
  | succ rounds ih =>
    refine .got fun c => ?_
    split
    · exact .pure _
    split
    · exact .pure _
    refine .bind (.ofExcept _) fun rtb => .bind (setRtb_deeds fun _ => rtb) fun _ => ?_
    split
    · exact .throw _
    refine .bind (connRetransmitEntry_deeds app destlen _ ts) fun r => ?_
    split
    · exact .bind (connMarkEntry_deeds fun _ => rfl).idle fun _ => .bind (connRtbReadd_deeds app _) fun _ => .throw _
    · split
      · exact ih
      split
      · exact .pure _
      · exact .bind (connRtbReadd_deeds app _) fun _ => .pure _

theorem connRetransmit_deeds (destlen ts : Nat) : Takes .write (connRetransmit app destlen ts) :=
  .got fun _ => connRetransmitLoop_deeds app destlen ts _

-- handshake packets

theorem handshakePktAck_deeds (hd : PktHd) (ppe : Ppe) (ts : Nat) : Takes .idle (handshakePktAck app hd ppe ts) := by
  refine .bind (connCreateAckFrame_deeds app ts true) fun ack => ?_
  split
  · exact .pure _
  · exact .bind (.ofExcept _) fun _ => .bind (connCall_deeds app rfl) fun _ => .bind connCommitTxAck_deeds fun _ =>
      .bind (connAddAck_deeds _ _ _) fun _ => .pure _

theorem handshakePktStream_deeds (hd : PktHd) (ppe : Ppe) (nwrite : Nat) :
    Takes .idle (handshakePktStream app hd ppe nwrite) := by
  unfold handshakePktStream
  split
  · exact .bind (malloc_deeds app) fun _ => .bind (getStrm_deeds 0) fun _ => .bind (.ofExcept _) fun _ =>
      .bind (connCall_deeds app rfl) fun _ => .bind (connMark_deeds rfl) fun _ =>
      .bind (modifyStrm_deeds 0 fun _ => rfl) fun _ => .pure _
  · exact .pure _

theorem handshakePktTail_deeds (hd : PktHd) (ppe : Ppe) : Takes .idle (handshakePktTail app hd ppe) := by
  have padded (len : Nat) : Takes .idle (callPadding app hd len) := by
    unfold callPadding
    exact .ite (connCall_deeds app rfl) (.pure _)
  refine .got fun c => ?_
  split
  · exact .bind (.ofExcept _) fun _ => .bind (padded _) fun _ => .pure _
  split
  · exact .bind (malloc_deeds app) fun _ => .bind (.ofExcept _) fun _ => .bind (connCall_deeds app rfl) fun _ => .pure _
  · exact .pure _

theorem handshakePktRest_deeds (hd : PktHd) (ppe : Ppe) (ts : Nat) : Takes .write (handshakePktRest app hd ppe ts) := by
  have tracked (frc : List Frame) (spktlen : Nat) : Takes .write (handshakePktTrack app hd frc ts spktlen) := by
    unfold handshakePktTrack
    exact .ite (.bind (connRtbEntryNew_deeds app _ _ _ _ _ _).idle fun _ => connRtbAdd_deeds app _) (.pure _)
  refine .bind (getStrm_deeds 0).idle fun strm0 => ?_
  dsimp only
  split
  · exact .throw _
  · exact .bind (handshakePktStream_deeds app _ _ _).idle fun _ => .bind (handshakePktTail_deeds app _ _).idle fun _ =>
      .bind (ngtcp2PpeFinal_deeds app _).idle fun _ => .bind (tracked _ _) fun _ =>
      .bind incLastTxPktNum_deeds.idle fun _ => .pure _

theorem connWriteHandshakePkt_deeds (destlen : Nat) (type : PktType) (ts : Nat) :
    Takes .write (connWriteHandshakePkt app destlen type ts) := by
  have marked {m : ConnM Nat} (takes : Takes .write m) : Takes .write (markFailure .abandonedPkt m) := by
    refine .bind (.attempt takes) fun r => ?_
    split
    · exact .pure _
    · exact .bind (connMark_deeds rfl).idle fun _ => .throw _
  refine .got fun c => ?_
  refine .bind (.ofExcept _) fun ppe => .bind (connCall_deeds app rfl).idle fun _ => ?_
  split
  · exact .bind (handshakePktAck_deeds app _ _ ts).idle fun _ =>
      .ite (.bind incLastTxPktNum_deeds.idle fun _ => (ngtcp2PpeFinal_deeds app _).idle)
        (.ite (marked (handshakePktRest_deeds app _ _ ts)) (handshakePktRest_deeds app _ _ ts))
  · exact handshakePktRest_deeds app _ _ ts

theorem connWriteHandshakeAckPkt_deeds (destlen : Nat) (type : PktType) (ts : Nat) :
    Takes .idle (connWriteHandshakeAckPkt app destlen type ts) := by
  refine .got fun c => ?_
  split
  · exact .pure _
  refine .bind (connCreateAckFrame_deeds app ts true) fun ack => ?_
  split
  · exact .pure _
  · exact .got fun _ => .bind (.ofExcept _) fun _ => .bind (connCall_deeds app rfl) fun _ => .bind (.ofExcept _) fun _ =>
      .bind (connCall_deeds app rfl) fun _ => .bind connCommitTxAck_deeds fun _ => .bind (connAddAck_deeds _ _ _) fun _ =>
      .bind incLastTxPktNum_deeds fun _ => ngtcp2PpeFinal_deeds app _

-- short packets

theorem connQueueMaxData_deeds (ackfr : Option Ack) : Takes .idle (connQueueMaxData app ackfr) := by
  refine .got fun c => ?_
  split
  · exact .bind (connPushFrq_deeds app _) fun _ => .still fun _ => rfl
  · exact .pure _

theorem connQueueMaxStreamData_deeds (ids : List Nat) : Takes .idle (connQueueMaxStreamData app ids) := by
  induction ids with
  | nil => exact .pure _
  | cons id rest ih =>
    refine .bind (getStrm_deeds id) fun strm => ?_
    split
    · exact .throw _
    · exact .bind (connPushFrq_deeds app _) fun _ => .bind (modifyStrm_deeds id fun _ => rfl) fun _ =>
        .bind (.still fun _ => rfl) fun _ => ih

theorem frqFrames_deeds (hd : PktHd) (frs : List Frame) (ppe : Ppe) (called : Bool) :
    Takes .idle (frqFrames app hd frs ppe called) := by
  induction frs generalizing ppe called with
  | nil => exact .pure _
  | cons fr rest ih =>
    refine .got fun c => ?_
    split
    · exact ih _ _
    refine tryFrame_deeds app ppe called hd fr fun r => ?_
    split
    · exact .bind (ih _ _) fun _ => .pure _
    · exact .pure _
    · exact .throw _

theorem maxStreamIdFrame_deeds (hd : PktHd) (bidi : Bool) (written left : List Frame) (ppe : Ppe) (called : Bool) :
    Takes .idle (maxStreamIdFrame app hd bidi written left ppe called) := by
  refine .got fun c => ?_
  dsimp only
  split
  · refine .bind (malloc_deeds app) fun _ => .bind (.still fun _ => rfl) fun _ => tryFrame_deeds app ppe called hd _ fun r => ?_
    split
    · exact .pure _
    · exact .pure _
    · exact .throw _
  · exact .pure _

theorem connWritePktFrames_deeds (destlen ts : Nat) (ackfr : Option Ack) :
    Takes .write (connWritePktFrames app destlen ts ackfr) := by
  have acked (hd : PktHd) (ppe : Ppe) : Takes .idle (writePktAck app hd ppe ackfr) := by
    unfold writePktAck
    split
    · exact .pure _
    · exact .bind (connPpeWriteFrame_deeds app _ _ _ _) fun _ => .bind connCommitTxAck_deeds fun _ =>
        .bind (connAddAck_deeds _ _ _) fun _ => .pure _
  have set (frq : List Frame) : Takes .idle (setFrq frq) := .still fun _ => rfl
  have tracked (hd : PktHd) (written left : List Frame) (pktlen : Nat) :
      Takes .write (writePktTrack app hd written left ts pktlen) := by
    unfold writePktTrack
    exact .ite (.bind (connRtbEntryNew_deeds app _ _ _ _ _ _).idle fun _ => .bind (set _).idle fun _ =>
      connRtbAdd_deeds app _) (.pure _)
  exact .got fun c => .bind (.ofExcept _) fun ppe => .bind (acked _ _).idle fun _ => .got fun _ =>
    .bind (frqFrames_deeds app _ _ _ _).idle fun _ => .bind (set _).idle fun _ =>
    .bind (maxStreamIdFrame_deeds app _ _ _ _ _ _).idle fun _ =>
    .bind (maxStreamIdFrame_deeds app _ _ _ _ _ _).idle fun _ => .ite (.ite (.pure _) (.throw _))
      (.bind (ngtcp2PpeFinal_deeds app _).idle fun _ => .bind (tracked _ _ _ _) fun _ =>
        .bind incLastTxPktNum_deeds.idle fun _ => .pure _)

theorem connWritePkt_deeds (destlen ts : Nat) : Takes .write (connWritePkt app destlen ts) := by
  have due : Takes .idle (connCreateDueAck app ts) := by
    refine .got fun c => ?_
    split
    · exact connCreateAckFrame_deeds app ts false
    · exact .pure _
  exact .bind due.idle fun _ => .bind (connQueueMaxData_deeds app _).idle fun _ => .got fun _ =>
    .bind (connQueueMaxStreamData_deeds app _).idle fun _ => .got fun _ =>
    .ite (.pure _) (connWritePktFrames_deeds app destlen ts _)

theorem connWriteSingleFramePkt_deeds (destlen : Nat) (fr : Frame) :
    Takes .idle (connWriteSingleFramePkt app destlen fr) := by
  refine .got fun c => .bind (.ofExcept _) fun _ => .bind (connCall_deeds app rfl) fun _ => .bind (.ofExcept _) fun _ =>
    .bind (connCall_deeds app rfl) fun _ => .bind (ngtcp2PpeFinal_deeds app _) fun _ => ?_
  split
  · exact .bind (connAddAck_deeds _ _ _) fun _ => .bind incLastTxPktNum_deeds fun _ => .pure _
  · exact .bind incLastTxPktNum_deeds fun _ => .pure _

theorem connWriteProtectedAckPkt_deeds (destlen ts : Nat) : Takes .idle (connWriteProtectedAckPkt app destlen ts) := by
  refine .got fun c => ?_
  split
  · exact .pure _
  refine .bind (connCreateAckFrame_deeds app ts false) fun ack => ?_
  split
  · exact .pure _
  · exact .bind (connWriteSingleFramePkt_deeds app destlen _) fun _ => .bind connCommitTxAck_deeds fun _ => .pure _

end

section

variable (app : App)

-- the flights of the handshake

theorem setTxBuf_deeds (data : List UInt8) : Takes .idle (setTxBuf data) := modifyStrm_deeds 0 fun _ => rfl

theorem connWriteClientInitial_deeds (destlen ts : Nat) : Takes .write (connWriteClientInitial app destlen ts) := by
  have numbered (pktNum : Nat) : Takes .idle (connSetClientPktNum pktNum) := by
    refine .got fun c => ?_
    split
    · exact .bind (connMark_deeds rfl) fun _ => .still fun _ => by simp only [Conn.outline]
    · exact .pure _
  exact .bind (connCallHandshakeData_deeds app rfl).idle fun _ => .ite (.throw _)
    (.bind (setTxBuf_deeds _).idle fun _ => .bind (numbered _).idle fun _ => connWriteHandshakePkt_deeds app _ _ _)

theorem connWriteClientHandshake_deeds (destlen ts : Nat) : Takes .write (connWriteClientHandshake app destlen ts) := by
  refine .bind (getStrm_deeds 0).idle fun strm0 => ?_
  split
  · exact .bind (connCallHandshakeData_deeds app rfl).idle fun _ =>
      .ite (.got fun _ => .ite (.throw _) (connWriteHandshakeAckPkt_deeds app _ _ _).idle)
        (.bind (setTxBuf_deeds _).idle fun _ => connWriteHandshakePkt_deeds app _ _ _)
  · exact connWriteHandshakePkt_deeds app _ _ _

theorem connWriteServerHandshake_deeds (destlen : Nat) (initial : Bool) (ts : Nat) :
    Takes .write (connWriteServerHandshake app destlen initial ts) := by
  have numbered (pktNum : Nat) : Takes .idle (connSetInitialPktNum initial pktNum) := by
    have same (c : Conn) (n : Nat) :
        ({ c with lastTxPktNum := n, rtb := { c.rtb with largestAcked := n } } : Conn).outline = c.outline := rfl
    unfold connSetInitialPktNum
    split
    · exact .bind (connMark_deeds rfl) fun _ => .still fun c => same c (sub64 pktNum 1)
    · exact .pure _
  refine .bind (getStrm_deeds 0).idle fun strm0 => ?_
  split
  · exact .bind (connCallHandshakeData_deeds app rfl).idle fun _ =>
      .ite (.got fun _ => .ite (.throw _) (.ite (.throw _) (connWriteHandshakeAckPkt_deeds app _ _ _).idle))
        (.bind (setTxBuf_deeds _).idle fun _ => .bind (numbered _).idle fun _ => connWriteHandshakePkt_deeds app _ _ _)
  · exact .bind (numbered _).idle fun _ => connWriteHandshakePkt_deeds app _ _ _

theorem processEarlyRtb_deeds (ents : List RtbEntry) : Takes .write (processEarlyRtb app ents) := by
  have cleared : Takes .write (modify fun c : Conn => { c with earlyRtb := [] }) :=
    .step fun c => .sends c.outline c.rtb.head [] rfl
  induction ents with
  | nil => exact cleared
  | cons ent rest ih =>
    refine .got fun c => .bind (connMarkEntry_deeds fun _ => rfl).idle fun _ =>
      .bind (.attempt (connRtbAdd_deeds app _)) fun r => ?_
    split
    · exact ih
    · exact .bind cleared fun _ => .throw _

theorem connFinishClientHandshake_deeds (destlen ts : Nat) : Takes .write (connFinishClientHandshake app destlen ts) := by
  refine .bind (setState_deeds _).idle fun _ => .got fun c => ?_
  split
  · exact .throw _
  split
  · exact .pure _
  · exact .bind (.got fun _ => processEarlyRtb_deeds app _) fun _ => connRetransmit_deeds app destlen ts

-- the functions that the application calls

theorem ngtcp2ConnWritePkt_deeds (destlen ts : Nat) : Takes .write (ngtcp2ConnWritePkt app destlen ts) := by
  refine .got fun c => ?_
  split
  · exact .throw _
  refine .bind (connRetransmit_deeds app destlen ts) fun nwrite => ?_
  split
  · exact .pure _
  refine .got fun c => ?_
  split
  · exact .bind (connWriteClientInitial_deeds app _ _) fun _ => .bind (setState_deeds _).idle fun _ => .pure _
  · exact connWriteClientHandshake_deeds app _ _
  · exact .bind (connWriteClientHandshake_deeds app _ _) fun _ => .ite (.pure _) (connFinishClientHandshake_deeds app _ _)
  · exact connWriteClientHandshake_deeds app _ _
  · exact .bind (connWriteServerHandshake_deeds app _ _ _) fun _ => .bind (setState_deeds _).idle fun _ => .pure _
  · exact connWriteServerHandshake_deeds app _ _ _
  · exact .bind (getStrm_deeds 0).idle fun _ => connWriteServerHandshake_deeds app _ _ _
  · exact connWritePkt_deeds app _ _
  · exact .pure _
  · exact .pure _

theorem ngtcp2ConnWriteAckPkt_deeds (destlen ts : Nat) : Takes .write (ngtcp2ConnWriteAckPkt app destlen ts) := by
  refine .got fun c => ?_
  split
  · exact .throw _
  refine .bind (connRetransmit_deeds app destlen ts) fun nwrite => ?_
  split
  · exact .pure _
  refine .got fun c => ?_
  split <;> first
    | exact (connWriteHandshakeAckPkt_deeds app _ _ _).idle
    | exact (connWriteProtectedAckPkt_deeds app _ _).idle
    | exact .pure _

theorem ngtcp2ConnWriteStream_deeds (destlen id : Nat) (fin : Bool) (data : List UInt8) (ts : Nat) :
    Takes .write (ngtcp2ConnWriteStream app destlen id fin data ts) := by
  have tracked (early : Bool) (ent : RtbEntry) : Takes .write (writeStreamTrack app early ent) := by
    unfold writeStreamTrack
    split
    · exact .step fun c => .sends c.outline c.rtb.head _ rfl
    · exact connRtbAdd_deeds app ent
  refine .got fun c => ?_
  split
  · exact .throw _
  split
  · exact .throw _
  split
  · exact .throw _
  have counted (ndatalen : Nat) (fin : Bool) : Takes .idle (modifyStrm id fun strm =>
      { strm with txOffset := add64 strm.txOffset ndatalen, shutWr := strm.shutWr || fin }) :=
    modifyStrm_deeds id fun _ => rfl
  have spent (ndatalen : Nat) : Takes .idle (modify fun c : Conn =>
      { c with txOffset := if id ≠ 0 then add64 c.txOffset ndatalen else c.txOffset }) :=
    .still fun _ => by simp only [Conn.outline]
  exact .bind (.ofExcept _) fun _ => .bind (.ofExcept _) fun _ => .ite (.throw _) (.ite (.throw _)
    (.bind (connCall_deeds app rfl).idle fun _ => .bind (malloc_deeds app).idle fun _ => .bind (.ofExcept _) fun _ =>
      .bind (connCall_deeds app rfl).idle fun _ => .bind (ngtcp2PpeFinal_deeds app _).idle fun _ =>
      .bind (connRtbEntryNew_deeds app _ _ _ _ _ _).idle fun _ => .bind (tracked _ _) fun _ =>
      .bind (counted _ _).idle fun _ => .bind (spent _).idle fun _ => .bind incLastTxPktNum_deeds.idle fun _ => .pure _))

theorem ngtcp2ConnWriteConnectionClose_deeds (destlen code : Nat) :
    Takes .idle (ngtcp2ConnWriteConnectionClose app destlen code) := by
  refine .got fun c => ?_
  split
  · exact .throw _
  split
  · refine .bind (connWriteSingleFramePkt_deeds app destlen _) fun nwrite => ?_
    split
    · exact .bind (setState_deeds _) fun _ => .pure _
    · exact .pure _
  · exact .throw _

theorem ngtcp2ConnWriteApplicationClose_deeds (destlen code : Nat) :
    Takes .idle (ngtcp2ConnWriteApplicationClose app destlen code) := by
  refine .got fun c => ?_
  split
  · exact .throw _
  split
  · exact .throw _
  split
  · exact .bind (connWriteSingleFramePkt_deeds app destlen _) fun _ => .bind (setState_deeds _) fun _ => .pure _
  · exact .throw _

theorem ngtcp2ConnOpenBidiStream_deeds : Takes .opening (ngtcp2ConnOpenBidiStream app) := by
  refine .got fun c => ?_
  split
  · exact .throw _
  · exact .bind (malloc_deeds app).idle fun _ => .bind (ngtcp2ConnInitStream_deeds trivial) fun _ =>
      .bind (.still fun _ => by simp only [Conn.outline]) fun _ => .pure _

theorem ngtcp2ConnOpenUniStream_deeds : Takes .opening (ngtcp2ConnOpenUniStream app) := by
  refine .got fun c => ?_
  split
  · exact .throw _
  · exact .bind (malloc_deeds app).idle fun _ => .bind (ngtcp2ConnInitStream_deeds trivial) fun _ =>
      .bind (Takes.idle (modifyStrm_deeds _ fun _ => rfl)) fun _ =>
      .bind (.still fun _ => by simp only [Conn.outline]) fun _ => .pure _

end

end Ngtcp2
