import Ngtcp2.Account.Takes

/-!
# What receiving a packet does to an outline

A packet is a list of frames, each reported to the application before it is handled.
-/

namespace Ngtcp2

open Prog Relation

def Frame.Handled (fr : Frame) (o p : Outline) : Prop :=
  match fr with
  | .maxStreamId n => p = o.raise n
  | fr => ReflTransGen (Deed (.frame fr)) o p

def Outline.limit (o : Outline) (bidi : Bool) : Nat := if bidi then o.maxLocalStreamIdBidi else o.maxLocalStreamIdUni

inductive Course (completing : Prop) : Outline → Outline → Prop
  | deed {o p : Outline} (deed : Deed .idle o p) : Course completing o p
  | refused (o : Outline) (hd : PktHd) (fr : Frame) : Course completing o (o.tell (.recvFrame hd fr))
  | handled {o p : Outline} (hd : PktHd) (fr : Frame) (handled : fr.Handled (o.tell (.recvFrame hd fr)) p) :
    Course completing o p
  | retry (o : Outline) :
    Course completing o
      { o.setTag 0 (some { streamId := 0, appErrorCode := 0, stopSending := false }) with entries := [] }
  | notify (o : Outline) (bidi : Bool) (now : completing) :
    Course completing o (o.tell (.extendMaxStreamId (o.limit bidi)))

abbrev Courses {α : Type} (completing : Prop) (m : ConnM α) : Prop := Along Conn.outline (Course completing) m

variable {completing : Prop}

theorem Takes.courses {α : Type} {m : ConnM α} (takes : Takes .idle m) : Courses completing m :=
  Along.mono takes fun _ _ => Course.deed

def Handles (fr : Frame) {α : Type} (m : ConnM α) : Prop :=
  ∀ s, wp m (fun _ t => fr.Handled s.outline t.outline) (fun _ t => fr.Handled s.outline t.outline) s

theorem Takes.handles {α : Type} {m : ConnM α} {fr : Frame} (takes : Takes (.frame fr) m)
    (plain : ∀ n, fr ≠ .maxStreamId n) : Handles fr m := by
  intro s
  have handled : ∀ t : Conn, Deeds (.frame fr) s t → fr.Handled s.outline t.outline := by
    intro t deeds
    cases fr with
    | maxStreamId n => exact absurd rfl (plain n)
    | _ => exact deeds
  exact wp_mono (takes s) (fun _ t => handled t) fun _ t => handled t

section

variable (app : App)

theorem connRecvMaxStreamId_handles (n : Nat) : Handles (.maxStreamId n) (connRecvMaxStreamId app n) := by
  intro s
  let u : Conn :=
    if bidiStream n then { s with maxLocalStreamIdBidi := max s.maxLocalStreamIdBidi n }
    else { s with maxLocalStreamIdUni := max s.maxLocalStreamIdUni n }
  have raised : (u.emit (.extendMaxStreamId n)).outline = s.outline.raise n := by
    rw [Conn.outline_tell rfl]
    unfold Outline.raise
    by_cases bidi : bidiStream n = true <;> simp [u, bidi, Outline.tell, Conn.outline]
  have run : connRecvMaxStreamId app n s = connCall app (.extendMaxStreamId n) u := rfl
  unfold wp
  rw [run]
  cases ok : app.ok u.log (.extendMaxStreamId n) with
  | true =>
    rw [connCall_succeeds ok]
    exact raised
  | false =>
    rw [connCall_fails app ok]
    exact raised

theorem recvFrame_handles (fr : Frame) : Handles fr (recvFrame app fr) := by
  have quiet (still : Takes .idle (recvFrame app fr)) (plain : ∀ n, fr ≠ .maxStreamId n) : Handles fr (recvFrame app fr) :=
    (still.idle).handles plain
  cases fr with
  | ack fr => exact (connRecvAck_deeds app fr false).handles nofun
  | stream fr => exact (connRecvStream_deeds app fr).handles nofun
  | rstStream fr => exact (connRecvRstStream_deeds app fr).handles nofun
  | stopSending fr => exact (connRecvStopSending_deeds app fr).handles nofun
  | maxStreamData fr => exact (connRecvMaxStreamData_deeds app fr).handles nofun
  | maxStreamId n => exact connRecvMaxStreamId_handles app n
  | maxData n => exact quiet (.still fun _ => rfl) nofun
  | ping data =>
    refine quiet ?_ nofun
    change Takes .idle (if data = [] then pure () else connPushFrq app (.pong data))
    split
    · exact .pure _
    · exact connPushFrq_deeds app _
  | pong data =>
    refine quiet ?_ nofun
    change Takes .idle (if data = [] then throw .FRAME_FORMAT else pure ())
    split
    · exact .throw _
    · exact .pure _
  | connectionClose code reason => exact quiet (setState_deeds _) nofun
  | applicationClose code reason => exact quiet (setState_deeds _) nofun
  | padding | blocked | streamBlocked | streamIdBlocked | newConnectionId => exact quiet (.pure _) nofun

theorem recvFrame_courses {α : Type} (hd : PktHd) (fr : Frame) {m : ConnM α}
    (handles : Handles fr m ∨ ∃ e, m = throw e) :
    Courses completing (connCall app (.recvFrame hd fr) >>= fun _ => m) := by
  intro s
  have told : (s.emit (.recvFrame hd fr)).outline = s.outline.tell (.recvFrame hd fr) := Conn.outline_tell rfl
  have refused : Steps Conn.outline (Course completing) s (s.emit (.recvFrame hd fr)) := by
    refine .single ?_
    rw [told]
    exact .refused _ hd fr
  unfold Goes wp
  cases ok : app.ok s.log (.recvFrame hd fr) with
  | false =>
    rw [bind_error (connCall_fails app ok)]
    exact refused
  | true =>
    rw [bind_ok (connCall_succeeds ok)]
    rcases handles with handles | ⟨e, rfl⟩
    · have course : ∀ t : Conn, fr.Handled (s.emit (.recvFrame hd fr)).outline t.outline →
          Steps Conn.outline (Course completing) s t := by
        intro t handled
        rw [told] at handled
        exact .single (.handled hd fr handled)
      exact wp_mono (handles (s.emit (.recvFrame hd fr))) (fun _ t => course t) fun _ t => course t
    · exact refused

theorem Handles.then {α β : Type} {fr : Frame} {m : ConnM α} {f : α → β} (handles : Handles fr m) :
    Handles fr (m >>= fun a => pure (f a)) := by
  intro s
  rw [wp_bind]
  exact handles s

theorem frameLoop_courses {handle : Frame → ConnM Bool} (courses : ∀ fr, Courses completing (handle fr))
    (frs : List Frame) (ack : Bool) : Courses completing (frameLoop handle frs ack) := by
  induction frs generalizing ack with
  | nil => exact .pure _
  | cons fr rest ih => exact .bind (courses fr) fun _ => ih _

theorem protectedFrame_courses (hd : PktHd) (fr : Frame) : Courses completing (protectedFrame app hd fr) := by
  refine recvFrame_courses app hd fr ?_
  split
  · exact .inr ⟨_, rfl⟩
  · exact .inl (recvFrame_handles app fr).then

theorem delayedHandshakeFrame_courses (hd : PktHd) (fr : Frame) :
    Courses completing (delayedHandshakeFrame app hd fr) := by
  refine recvFrame_courses app hd fr ?_
  split
  · split
    · exact .inr ⟨_, rfl⟩
    next ack _ => exact .inl ((connRecvAck_deeds app ack true).handles nofun).then
  next => exact .inl (Takes.handles (Stays.pure _) nofun)
  next fr => exact .inl ((connRecvStream_deeds app fr).handles nofun).then
  · exact .inr ⟨_, rfl⟩

theorem endOfFrames_deeds (malformed : Bool) : Takes .idle (endOfFrames malformed) := by
  unfold endOfFrames
  split
  · exact .throw _
  · exact .pure _

theorem connDecryptPkt_deeds (pkt : Pkt) (ckm : Option CryptoKm) (pktNum : Nat) :
    Takes .idle (connDecryptPkt pkt ckm pktNum) := by
  unfold connDecryptPkt
  split
  · exact .throw _
  · split <;> first | exact .pure _ | exact .throw _

theorem connSetMaxRxPktNum_deeds (pktNum : Nat) : Takes .idle (connSetMaxRxPktNum pktNum) := .still fun _ => rfl

theorem connRecvDelayedHandshakePkt_courses (pkt : Pkt) (hd : PktHd) (ts : Nat) :
    Courses completing (connRecvDelayedHandshakePkt app pkt hd ts) := by
  refine .got fun c => ?_
  split
  · exact .pure _
  split
  · exact .pure _
  · exact .bind (connDecryptPkt_deeds pkt _ _).courses fun _ =>
      .bind (frameLoop_courses (delayedHandshakeFrame_courses app hd) _ _) fun _ =>
      .bind (endOfFrames_deeds _).courses fun _ => .bind (connSetMaxRxPktNum_deeds _).courses fun _ =>
      (ngtcp2ConnSchedAck_deeds app _ _ ts true).courses

theorem connRecvProtected_courses (pkt : Pkt) (hd : PktHd) (ckm : Option CryptoKm) (ts : Nat) :
    Courses completing (connRecvProtected app pkt hd ckm ts) := by
  have reset : Takes .idle (connOnStatelessReset app pkt hd) := by
    refine .got fun c => ?_
    split
    · exact .throw _
    · exact .ite (.throw _) (.bind (setState_deeds _) fun _ => connCall_deeds app rfl)
  refine .bind (Takes.courses (Stays.attempt (connDecryptPkt_deeds pkt ckm _))) fun r => ?_
  split
  · split
    · exact .throw _
    · refine .bind (Takes.courses (Stays.attempt reset)) fun r => ?_
      split
      · exact .pure _
      · exact .throw _
  · refine .bind (.still fun _ => rfl) fun _ => .got fun c => ?_
    split
    · exact .pure _
    · exact .bind (frameLoop_courses (protectedFrame_courses app hd) _ _) fun _ =>
        .bind (endOfFrames_deeds _).courses fun _ => .bind (connSetMaxRxPktNum_deeds _).courses fun _ =>
        (ngtcp2ConnSchedAck_deeds app _ _ ts false).courses

theorem connRecvPktHd_courses (pkt : Pkt) (hd : PktHd) (ts : Nat) :
    Courses completing (connRecvPktHd app pkt hd ts) := by
  refine .got fun c => .bind (connCall_deeds app rfl).courses fun _ => ?_
  split
  · split
    · exact connRecvDelayedHandshakePkt_courses app pkt _ ts
    · exact connRecvDelayedHandshakePkt_courses app pkt _ ts
    · split
      · exact .pure _
      split
      · exact .pure _
      · exact connRecvProtected_courses app pkt _ _ ts
    · exact .pure _
  · exact connRecvProtected_courses app pkt _ _ ts

theorem connRecvPkt_courses (pkt : Pkt) (ts : Nat) : Courses completing (connRecvPkt app pkt ts) := by
  refine .got fun c => .bind (.ofExcept _) fun hd => ?_
  split
  · split
    · split
      · exact .pure _
      · exact (connCall_deeds app rfl).courses
    · split
      · exact .pure _
      · exact connRecvPktHd_courses app pkt _ ts
  · split
    · exact .throw _
    · exact connRecvPktHd_courses app pkt _ ts

-- the handshake

theorem connRecvServerStatelessRetry_courses : Courses completing (connRecvServerStatelessRetry app) := by
  have renewed : Courses completing (modify fun c : Conn =>
      { c with
        lastTxPktNum := 0
        maxRxPktNum := 0
        rtb := ngtcp2RtbInit
        acktr := ngtcp2AcktrInit
        strms := Function.update c.strms 0
          (some (ngtcp2StrmInit 0 false false c.localSettings.maxStreamData.toNat strm0MaxStreamData))
        connIdNegotiated := false }) := by
    refine .step fun c => ?_
    have set := Conn.outline_setStrm (s := c) 0
      (some (ngtcp2StrmInit 0 false false c.localSettings.maxStreamData.toNat strm0MaxStreamData))
    change Course completing c.outline { Conn.outline { c with strms := Function.update c.strms 0 _ } with entries := [] }
    rw [set]
    exact .retry _
  exact .bind (.still fun _ => rfl) fun _ => .bind (connCall_deeds app rfl).courses fun _ =>
    .bind (malloc_deeds app).courses fun _ => .got fun _ => .bind (connMark_deeds rfl).courses fun _ =>
    .bind (connMark_deeds rfl).courses fun _ => .bind renewed fun _ => (setState_deeds _).courses

theorem connBufferProtectedPkt_deeds (pkt : Pkt) : Takes .idle (connBufferProtectedPkt app pkt) := by
  refine .got fun c => ?_
  split
  · exact .pure _
  · exact .bind (malloc_deeds app) fun _ => .still fun _ => rfl

theorem handshakePktAccept_deeds (pkt : Pkt) (hd : PktHd) : Takes .idle (handshakePktAccept app pkt hd) := by
  have negotiated : Takes .idle (connOnVersionNegotiation app pkt hd) := by
    unfold connOnVersionNegotiation
    split
    · exact .throw _
    · split
      · exact .bind (malloc_deeds app) fun _ => connCall_deeds app rfl
      · exact connCall_deeds app rfl
  refine .got fun c => ?_
  split
  · split
    · split
      · exact .bind (.still fun _ => rfl) fun _ => .bind (connCallRecvClientInitial_deeds app) fun _ => .pure _
      · exact .pure _
    · exact .pure _
    · split
      · exact .bind (connBufferProtectedPkt_deeds app pkt) fun _ => .pure _
      · exact .pure _
    · exact .throw _
  · split
    · split
      · exact .pure _
      · exact .bind (.still fun _ => rfl) fun _ => .pure _
    · refine .bind (getStrm_deeds 0) fun strm0 => ?_
      split
      · exact .throw _
      · exact .pure _
    · split
      · exact .pure _
      · exact .bind negotiated fun _ => .throw _
    · exact .throw _

theorem handshakeStream_deeds (hd : PktHd) (fr : StreamFrame) (failed : Bool) :
    Takes .idle (handshakeStream app hd fr failed) := by
  have delivered : Takes .idle (handshakeDeliver app fr failed) := by
    have removed (id rxOffset : Nat) : Takes .idle (connRemovePrefix id rxOffset) := modifyStrm_deeds id fun _ => rfl
    refine .bind (getStrm_deeds 0) fun strm0 => .bind (connMark_deeds rfl) fun _ => .bind (removed _ _) fun _ =>
      .bind (.attempt (connCallRecvStream0Data_deeds app _)) fun r => ?_
    split
    · refine .bind (connCreditStrm0_deeds _) fun _ => ?_
      split
      · exact .bind (connEmitPendingStream0Data_deeds app _ _) fun _ => .pure _
      · exact .pure _
    · exact .bind (connCreditStrm0_deeds _) fun _ => .pure _
    · exact .throw _
  unfold handshakeStream
  split
  · exact .pure _
  split
  · exact .throw _
  split
  · exact .throw _
  split
  · exact .throw _
  refine .bind (getStrm_deeds 0) fun strm0 => ?_
  dsimp only
  split
  · exact .pure _
  split
  · exact .bind (modifyStrm_deeds 0 fun _ => rfl) fun _ => connRefuse_deeds _ _
  · refine .bind (connClaim_deeds 0 _ fun _ => rfl) fun _ => ?_
    split
    · exact delivered
    · split
      · exact .bind (modifyStrm_deeds 0 fun _ => rfl) fun _ => .pure _
      · exact .pure _

theorem handshakeFrame_courses (hd : PktHd) (fr : Frame) (loop : Bool × Bool) :
    Courses completing (handshakeFrame app hd fr loop) := by
  refine recvFrame_courses app hd fr ?_
  split
  · split
    · exact .inr ⟨_, rfl⟩
    next ack _ => exact .inl ((connRecvAck_deeds app ack true).handles nofun).then
  · split
    · exact .inr ⟨_, rfl⟩
    · exact .inl (Takes.handles (Stays.pure _) nofun)
  next fr =>
    exact .inl (Takes.handles (.bind (handshakeStream_deeds app hd fr loop.2).idle fun _ => .pure _) nofun)
  · split
    · exact .inl (Takes.handles (.bind (setState_deeds _).idle fun _ => .pure _) nofun)
    · exact .inr ⟨_, rfl⟩
  · exact .inr ⟨_, rfl⟩

theorem handshakeFrames_courses (hd : PktHd) (frs : List Frame) (loop : Bool × Bool) :
    Courses completing (handshakeFrames app hd frs loop) := by
  induction frs generalizing loop with
  | nil => exact .pure _
  | cons fr rest ih => exact .bind (handshakeFrame_courses app hd fr loop) fun _ => ih _

theorem connRecvHandshakePayload_courses (pkt : Pkt) (hd : PktHd) (ts : Nat) :
    Courses completing (connRecvHandshakePayload app pkt hd ts) := by
  refine .got fun c => .bind (connDecryptPkt_deeds pkt _ _).courses fun _ =>
    .bind (handshakeFrames_courses app hd _ _) fun _ => .bind (endOfFrames_deeds _).courses fun _ =>
    .bind (getStrm_deeds 0).courses fun strm0 => ?_
  split
  · exact .throw _
  refine .bind (connSetMaxRxPktNum_deeds _).courses fun _ => ?_
  split
  · split
    · exact .throw _
    · exact connRecvServerStatelessRetry_courses app
  · refine .bind (ngtcp2ConnSchedAck_deeds app _ _ ts true).courses fun _ => ?_
    split
    · exact .throw _
    · exact .pure _

theorem connRecvHandshakePkt_courses (pkt : Pkt) (ts : Nat) :
    Courses completing (connRecvHandshakePkt app pkt ts) := by
  have headed (hd : PktHd) : Courses completing (connRecvHandshakePktHd app pkt hd ts) := by
    refine .bind (connCall_deeds app rfl).courses fun _ => .bind (handshakePktAccept_deeds app pkt hd).courses
      fun accepted => ?_
    split
    · exact connRecvHandshakePayload_courses app pkt hd ts
    · exact .pure _
  refine .got fun c => ?_
  split
  · split
    · exact .pure _
    · exact (connBufferProtectedPkt_deeds app pkt).courses
  refine .bind (.ofExcept _) fun hd => ?_
  split
  · exact connRecvPkt_courses app pkt ts
  split
  · exact headed _
  split
  · exact .pure _
  · exact headed _

theorem processBufferedPkts_courses {recv : Pkt → ConnM Unit} (courses : ∀ pkt, Courses completing (recv pkt))
    (pkts : List Pkt) : Courses completing (processBufferedPkts recv pkts) := by
  induction pkts with
  | nil => exact .still fun _ => rfl
  | cons pkt rest ih => exact .bind (courses pkt) fun _ => ih

theorem connCall_notifies (now : completing) (bidi : Bool) {s : Conn} {n : Nat} (limit : n = s.outline.limit bidi) :
    wp (connCall app (.extendMaxStreamId n))
      (fun _ t => t = s.emit (.extendMaxStreamId n) ∧ Steps Conn.outline (Course completing) s t)
      (fun _ t => Steps Conn.outline (Course completing) s t) s := by
  have notified : Steps Conn.outline (Course completing) s (s.emit (.extendMaxStreamId n)) := by
    refine .single ?_
    rw [Conn.outline_tell rfl, limit]
    exact .notify _ bidi now
  unfold wp
  cases ok : app.ok s.log (.extendMaxStreamId n) with
  | true =>
    rw [connCall_succeeds ok]
    exact ⟨rfl, notified⟩
  | false =>
    rw [connCall_fails app ok]
    exact notified

theorem connHandshakeCompleted_courses (now : completing) : Courses completing (connHandshakeCompleted app) := by
  have uni (s t : Conn) (same : t.maxLocalStreamIdUni = s.maxLocalStreamIdUni) :
      Goes (Steps Conn.outline (Course completing)) (fun _ => Steps Conn.outline (Course completing))
        (if s.maxLocalStreamIdUni > 0 then connCall app (.extendMaxStreamId s.maxLocalStreamIdUni) else pure ()) t := by
    split
    · exact wp_mono (connCall_notifies app now false same.symm) (fun _ _ run => run.2) fun _ _ run => run
    · exact .done _
  refine .bind (connCallHandshakeCompleted_deeds app).courses fun _ s => .got ?_
  dsimp only
  split
  · refine .seq (wp_mono (connCall_notifies app now true rfl) (fun _ _ run => run.2) fun _ _ run => run)
      fun _ t run => uni s t ?_
    obtain ⟨rfl, -⟩ := wp_ok (connCall_notifies app now true rfl) run
    rfl
  · exact uni s s rfl

theorem connLeaveHandshake_deeds (state : ConnState) : Takes .idle (connLeaveHandshake state) :=
  .got fun _ => .bind (connMark_deeds rfl) fun _ => setState_deeds _

theorem connRecvInHandshake_courses (pkt : Pkt) (failed : ConnState) (ts : Nat) :
    Courses completing (connRecvInHandshake app pkt failed ts) := by
  refine .bind (.attempt (connRecvHandshakePkt_courses app pkt ts)) fun r => ?_
  split
  · exact .pure _
  · exact .bind (connLeaveHandshake_deeds _).courses fun _ => .pure _
  · exact .throw _

theorem connRecvClientWaitHandshake_courses (now : completing) (pkt : Pkt) (ts : Nat) :
    Courses completing (connRecvClientWaitHandshake app pkt ts) := by
  refine .bind (connRecvInHandshake_courses app pkt _ ts) fun going => ?_
  split
  · refine .got fun c => ?_
    split
    · exact .bind (connHandshakeCompleted_courses app now) fun _ => .bind (connLeaveHandshake_deeds _).courses fun _ =>
        .got fun _ => processBufferedPkts_courses (fun pkt => connRecvPkt_courses app pkt ts) _
    · exact .pure _
  · exact .pure _

theorem connRecvServerHandshake_courses (now : completing) (pkt : Pkt) (ts : Nat) :
    Courses completing (connRecvServerHandshake app pkt ts) := by
  refine .bind (connRecvInHandshake_courses app pkt _ ts) fun going => ?_
  split
  · refine .got fun c => ?_
    split
    · exact .got fun _ => processBufferedPkts_courses (fun pkt => connRecvHandshakePkt_courses app pkt ts) _
    split
    · refine .bind (connHandshakeCompleted_courses app now) fun _ => .bind (connLeaveHandshake_deeds _).courses fun _ =>
        .got fun c => ?_
      split
      · exact .throw _
      · exact .got fun _ => processBufferedPkts_courses (fun pkt => connRecvPkt_courses app pkt ts) _
    · exact .pure _
  · exact .pure _

def ConnState.Completes (state : ConnState) : Prop :=
  state = .CLIENT_WAIT_HANDSHAKE ∨ state = .SERVER_INITIAL ∨ state = .SERVER_WAIT_HANDSHAKE

theorem ngtcp2ConnRecv_course (pkt : Option Pkt) (ts : Nat) (s : Conn) :
    Goes (Steps Conn.outline (Course s.state.Completes)) (fun _ => Steps Conn.outline (Course s.state.Completes))
      (ngtcp2ConnRecv app pkt ts) s := by
  unfold ngtcp2ConnRecv
  split
  · exact .failed _
  refine .got ?_
  split
  next state => exact connRecvClientWaitHandshake_courses app (.inl state) _ ts s
  next state => exact connRecvServerHandshake_courses app (.inr (.inl state)) _ ts s
  next state => exact connRecvServerHandshake_courses app (.inr (.inr state)) _ ts s
  all_goals first | exact connRecvHandshakePkt_courses app _ ts s | exact connRecvPkt_courses app _ ts s | exact .done _

end

end Ngtcp2
