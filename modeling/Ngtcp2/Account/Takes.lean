import Ngtcp2.Account.Outline
import Ngtcp2.Conn.Recv

/-!
# What the functions of the library do to an outline

Callbacks, timers and the packets under construction do not show in an outline.
-/

namespace Ngtcp2

open Prog Relation

section

variable (app : App) {d : Doing}

theorem emitEvent_deeds {e : Event} (silent : e.told = false) : Takes .idle (emitEvent e) :=
  .still fun _ => Conn.outline_emit silent

theorem connMark_deeds {m : Mark} (silent : (Event.mark m).told = false) : Takes .idle (connMark m) :=
  emitEvent_deeds silent

theorem setState_deeds (state : ConnState) : Takes .idle (setState state) :=
  .still fun c => Conn.outline_emit (s := { c with state := state }) (e := .mark (.state state)) rfl

theorem connCall_deeds {e : Event} (silent : e.told = false) : Takes .idle (connCall app e) := by
  refine .got fun c => .bind (emitEvent_deeds silent) fun _ => ?_
  split
  · exact .pure _
  · exact .throw _

theorem connCall_fails {e : Event} {s : Conn} (refused : app.ok s.log e = false) :
    connCall app e s = (.error .CALLBACK_FAILURE, s.emit e) := by
  change (if app.ok s.log e then pure () else throw Err.CALLBACK_FAILURE : ConnM Unit) (s.emit e) = _
  rw [if_neg (by simp [refused])]
  rfl

theorem malloc_deeds : Takes .idle (malloc app) := by
  refine .got fun c => .bind (.still fun _ => rfl) fun _ => ?_
  split
  · exact .pure _
  · exact .throw _

theorem modifyStrm_deeds (id : Nat) {f : Strm → Strm} (same : ∀ strm, (f strm).tag = strm.tag) :
    Takes .idle (modifyStrm id f) := by
  refine .still fun c => ?_
  have tags := Conn.tags_modified (s := c) same id
  change { c.outline with tags := Conn.tags { c with strms := Function.update c.strms id ((c.strms id).map f) } } = _
  rw [tags]
  rfl

theorem getStrm_deeds (id : Nat) : Takes .idle (getStrm id) := by
  refine .got fun c => ?_
  split
  · exact .pure _
  · exact .throw _

theorem ngtcp2ConnFindStream_deeds (id : Nat) : Takes .idle (ngtcp2ConnFindStream id) := .got fun _ => .pure _

-- acknowledgements of received packets

theorem mallocs_deeds (n : Nat) : Takes .idle (mallocs app n) := by
  induction n with
  | zero => exact .pure _
  | succ n ih => exact .bind (malloc_deeds app) fun _ => ih

theorem connCreateAckFrame_deeds (ts : Nat) (unprotected : Bool) :
    Takes .idle (connCreateAckFrame app ts unprotected) := by
  have marked : Takes .idle (markUnprotectedAck unprotected) := by
    refine .got fun c => ?_
    split
    · exact connMark_deeds rfl
    · exact .pure _
  have forgot (left : List AcktrEntry) : Takes .idle (connForgetAck left) := by
    unfold connForgetAck
    split
    · exact .pure _
    · exact .still fun _ => rfl
  refine .got fun c => ?_
  split
  · exact .bind (.still fun _ => rfl) fun _ => .pure _
  · refine .bind marked fun _ => .got fun c => ?_
    split
    · exact .bind (.still fun _ => rfl) fun _ => .pure _
    · exact .bind (mallocs_deeds app _) fun _ => .bind (forgot _) fun _ => .pure _

theorem connCommitTxAck_deeds : Takes .idle connCommitTxAck :=
  .bind (.still fun _ => rfl) fun _ => .still fun _ => rfl

theorem connAddAck_deeds (pktNum : Nat) (ack : Ack) (unprotected : Bool) :
    Takes .idle (connAddAck pktNum ack unprotected) := .still fun _ => rfl

theorem ngtcp2ConnSchedAck_deeds (pktNum : Nat) (activeAck : Bool) (ts : Nat) (unprotected : Bool) :
    Takes .idle (ngtcp2ConnSchedAck app pktNum activeAck ts unprotected) := by
  have armed : Takes .idle (connArmAck ts) := by
    refine .got fun c => ?_
    split
    · exact .still fun _ => by simp only [Conn.outline]
    · exact .pure _
  exact .bind (malloc_deeds app) fun _ => .got fun _ => .bind (.ofExcept _) fun _ => .bind (.still fun _ => rfl) fun _ =>
    .bind (emitEvent_deeds rfl) fun _ => armed

-- packets under construction

theorem ngtcp2PpeFinal_deeds (ppe : Ppe) : Takes .idle (ngtcp2PpeFinal app ppe) := by
  unfold ngtcp2PpeFinal
  split
  · exact .throw _
  · refine .got fun c => .bind (emitEvent_deeds rfl) fun _ => ?_
    split
    · exact .throw _
    · exact .pure _

theorem connPpeWriteFrame_deeds (ppe : Ppe) (called : Bool) (hd : PktHd) (fr : Frame) :
    Takes .idle (connPpeWriteFrame app ppe called hd fr) := by
  refine .bind (.ofExcept _) fun _ => ?_
  dsimp only
  split
  · exact .bind (connCall_deeds app rfl) fun _ => .bind (connCall_deeds app rfl) fun _ => .pure _
  · exact .bind (connCall_deeds app rfl) fun _ => .pure _

theorem incLastTxPktNum_deeds : Takes .idle incLastTxPktNum := .still fun _ => rfl

-- the TLS stack

theorem connSetRemoteSettings_deeds (settings : Settings) : Takes .idle (connSetRemoteSettings settings) := by
  intro s
  have told : (s.emit (.mark (.maxTxOffset settings.maxData.toNat s.txOffset))).outline =
      s.outline.tell (.mark (.maxTxOffset settings.maxData.toNat s.txOffset)) := Conn.outline_tell rfl
  refine .single (?_ : Deed .idle s.outline { (s.emit (.mark (.maxTxOffset settings.maxData.toNat s.txOffset))).outline with
    maxLocalStreamIdBidi := settings.maxStreamIdBidi.toNat, maxLocalStreamIdUni := settings.maxStreamIdUni.toNat })
  rw [told]
  exact .limits _ _ _ _ _

theorem tlsCall_deeds (call : TlsCall) : Takes .idle (tlsCall call) := by
  have installed (current : Conn → Option CryptoKm) (install : Conn → Conn)
      (same : ∀ c, (install c).outline = c.outline) : Takes .idle (installKey current install) := by
    refine .got fun c => ?_
    split
    · exact .throw _
    · exact .still same
  cases call with
  | handshakeCompleted => exact .still fun _ => rfl
  | setHandshakeTxKeys ckm => exact installed _ _ fun _ => rfl
  | setHandshakeRxKeys ckm => exact installed _ _ fun _ => rfl
  | updateEarlyKeys ckm => exact installed _ _ fun _ => rfl
  | updateTxKeys ckm => exact installed _ _ fun _ => rfl
  | updateRxKeys ckm => exact installed _ _ fun _ => rfl
  | setAeadOverhead aeadOverhead => exact .still fun _ => rfl
  | setRemoteTransportParams exttype params =>
    exact .got fun _ => .bind (.ofExcept _) fun _ => .bind (connSetRemoteSettings_deeds _) fun _ =>
      .bind (getStrm_deeds 0) fun _ => .bind (connMark_deeds rfl) fun _ =>
      .bind (modifyStrm_deeds 0 fun _ => rfl) fun _ => .still fun _ => rfl
  | setEarlyRemoteTransportParams params =>
    refine .got fun c => ?_
    split
    · exact .throw _
    · exact connSetRemoteSettings_deeds _
  | earlyDataRejected => exact .still fun _ => rfl

theorem connCallTls_deeds {e : Event} (silent : e.told = false) : Takes .idle (connCallTls app e) := by
  have calls (list : List TlsCall) : Takes .idle (tlsCalls list) := by
    induction list with
    | nil => exact .pure _
    | cons call rest ih => exact .bind (.attempt (tlsCall_deeds call)) fun _ => ih
  exact .got fun _ => .bind (emitEvent_deeds silent) fun _ => calls _

theorem connCallRecvClientInitial_deeds : Takes .idle (connCallRecvClientInitial app) := by
  refine .got fun c => .bind (connCallTls_deeds app rfl) fun _ => ?_
  split
  · exact .pure _
  · exact .throw _

theorem connCallHandshakeCompleted_deeds : Takes .idle (connCallHandshakeCompleted app) := by
  refine .got fun c => .bind (connCallTls_deeds app rfl) fun _ => ?_
  split
  · exact .pure _
  · exact .throw _

theorem connCallRecvStream0Data_deeds (data : List UInt8) : Takes .idle (connCallRecvStream0Data app data) := by
  have marked (refused : Bool) : Takes .idle (markRefusedStream0 refused) := by
    unfold markRefusedStream0
    split
    · exact connMark_deeds rfl
    · exact .pure _
  refine .got fun c => .bind (connCallTls_deeds app rfl) fun _ => .bind (marked _) fun _ => ?_
  split <;> first | exact .pure _ | exact .throw _

theorem connCallHandshakeData_deeds {e : Event} (silent : e.told = false) : Takes .idle (connCallHandshakeData app e) := by
  refine .got fun c => .bind (connCallTls_deeds app silent) fun _ => ?_
  split
  · exact .throw _
  · exact .pure _

-- streams

theorem connFcUnlink_deeds (id : Nat) : Takes .idle (connFcUnlink id) := by
  refine .bind (getStrm_deeds id) fun strm => ?_
  split
  · exact .bind (.still fun _ => rfl) fun _ => modifyStrm_deeds id fun _ => rfl
  · exact .pure _

theorem connExtendMaxStreamOffset_deeds (id datalen : Nat) : Takes .idle (connExtendMaxStreamOffset id datalen) := by
  have marked : Takes .idle (markExtendStream0 id) := by
    unfold markExtendStream0
    split
    · exact connMark_deeds rfl
    · exact .pure _
  have grown : Takes .idle (modifyStrm id fun strm =>
      if strm.unsentMaxRxOffset ≤ sub64 maxVarint datalen then
        { strm with unsentMaxRxOffset := add64 strm.unsentMaxRxOffset datalen }
      else strm) := by
    refine modifyStrm_deeds id fun strm => ?_
    split <;> rfl
  refine .bind marked fun _ => .bind grown fun _ => .got fun c => .bind (getStrm_deeds id) fun strm => ?_
  split
  · exact .bind (.still fun _ => rfl) fun _ => modifyStrm_deeds id fun _ => rfl
  · exact .pure _

theorem connPushFrq_deeds (fr : Frame) : Takes .idle (connPushFrq app fr) :=
  .bind (malloc_deeds app) fun _ => .still fun _ => rfl

theorem connRstStream_deeds (id code : Nat) : Takes .idle (connRstStream app id code) :=
  .bind (getStrm_deeds id) fun _ => connPushFrq_deeds app _

theorem connSetIdtr_deeds (id : Nat) (idtr : Idtr) : Takes .idle (connSetIdtr id idtr) := .still fun _ => rfl

theorem ngtcp2ConnInitStream_start (id : Nat) (s : Conn) :
    ngtcp2ConnInitStream id s =
      (match s.strms id with
      | some _ => throw .INVALID_ARGUMENT
      | none => modify fun c =>
        { c with
          strms := Function.update c.strms id
            (some (ngtcp2StrmInit id false false c.localSettings.maxStreamData.toNat
              c.remoteSettings.maxStreamData.toNat)) } : ConnM Unit)
        (s.emit (.mark (.mapInsert id (s.strms id).isSome))) := rfl

theorem ngtcp2ConnInitStream_deeds {id : Nat} (allowed : d.Opens id) : Takes d (ngtcp2ConnInitStream id) := by
  intro s
  let u : Conn := s.emit (.mark (.mapInsert id (s.strms id).isSome))
  have same : u.outline = s.outline := Conn.outline_emit rfl
  refine .jump _ u (ngtcp2ConnInitStream_start id s) (.of_eq same) ?_
  cases found : s.strms id with
  | some strm => exact .failed _
  | none =>
    have absent : u.outline.tags id = none := by
      rw [same]
      simp [Conn.outline, found]
    have opened := Deed.opens (d := d) u.outline id absent allowed
    refine .modified (.single ?_)
    rw [Conn.outline_setStrm]
    exact opened

theorem connNewRemoteStream_deeds {id : Nat} (idtr : Idtr) (allowed : d.Opens id) :
    Takes d (connNewRemoteStream app id idtr) := by
  refine .bind (connSetIdtr_deeds id idtr).idle fun _ => .bind (malloc_deeds app).idle fun _ =>
    .bind (ngtcp2ConnInitStream_deeds allowed) fun _ => ?_
  split
  · refine Takes.idle (modifyStrm_deeds id ?_)
    exact fun _ => rfl
  · exact .pure _

theorem ngtcp2ConnCloseStream_deeds {s : Conn} {id code : Nat} {strm : Strm} (found : s.strms id = some strm)
    (due : d.cause strm.tag = some code) :
    Goes (Deeds d) (fun _ => Deeds d) (ngtcp2ConnCloseStream app strm code) s := by
  have extended : Takes .idle (connExtendRemoteStreamId strm.streamId) := by
    refine .got fun c => ?_
    split
    · exact .pure _
    · refine .bind (connMark_deeds rfl) fun _ => .still fun c => ?_
      split <;> rfl
  have erased : Takes .idle (connFcErase strm) := by
    unfold connFcErase
    split
    · exact .still fun _ => rfl
    · exact .pure _
  have rest : Takes d (do connExtendRemoteStreamId strm.streamId; connFcErase strm; connImmediateAck) :=
    .bind extended.idle fun _ => .bind erased.idle fun _ => .still fun _ => rfl
  let u : Conn := ({ s with strms := Function.update s.strms strm.streamId none }).emit
    (.mark (closeMark strm s.frq))
  let told : Event := .streamClose strm.streamId (if strm.appErrorCode = 0 then strm.appErrorCode else code)
  have closed : Deeds d s (u.emit told) := by
    have shown : (u.emit told).outline = (s.outline.setTag strm.streamId none).tell told := by
      rw [Conn.outline_tell rfl, Conn.outline_emit rfl, Conn.outline_setStrm]
      rfl
    refine .single ?_
    rw [shown]
    refine .closes _ id code strm.tag ?_ due
    simp [Conn.outline, found]
  have run : ngtcp2ConnCloseStream app strm code s =
      (connCall app told >>= fun _ => do
        connExtendRemoteStreamId strm.streamId
        connFcErase strm
        connImmediateAck) u := rfl
  unfold Goes wp
  rw [run]
  cases ok : app.ok u.log told with
  | true =>
    rw [bind_ok (connCall_succeeds ok)]
    exact (rest (u.emit told)).after closed
  | false =>
    rw [bind_error (connCall_fails app ok)]
    exact closed

theorem ngtcp2ConnCloseStreamIfShutRdwr_deeds {s : Conn} {id code : Nat}
    (due : ∀ tag, s.tags id = some tag → d.cause tag = some code) :
    Goes (Deeds d) (fun _ => Deeds d) (ngtcp2ConnCloseStreamIfShutRdwr app id code) s := by
  refine .seq ((getStrm_deeds id).idle s) fun strm t run => ?_
  obtain ⟨rfl, found⟩ := getStrm_ok run
  split
  · refine ngtcp2ConnCloseStream_deeds app found (due _ ?_)
    simp [Conn.tags, Conn.outline, found]
  · exact .done _

end

section

variable (app : App)

-- STREAM frames

theorem connEmitPendingStreamData_deeds (id rounds rxOffset : Nat) :
    Takes .idle (connEmitPendingStreamData app id rounds rxOffset) := by
  induction rounds generalizing rxOffset with
  | zero => exact .pure _
  | succ rounds ih =>
    refine .bind (getStrm_deeds id) fun strm => .bind (.ofExcept _) fun data => ?_
    split
    · split
      · exact .pure _
      · exact .throw _
    · exact .bind (connCall_deeds app rfl) fun _ => .bind (.ofExcept _) fun _ =>
        .bind (modifyStrm_deeds id fun _ => rfl) fun _ => ih _

theorem connCreditStrm0_deeds (datalen : Nat) : Takes .idle (connCreditStrm0 datalen) :=
  .bind (getStrm_deeds 0) fun _ => .bind (connMark_deeds rfl) fun _ => modifyStrm_deeds 0 fun _ => rfl

theorem connEmitPendingStream0Data_deeds (rounds rxOffset : Nat) :
    Takes .idle (connEmitPendingStream0Data app rounds rxOffset) := by
  induction rounds generalizing rxOffset with
  | zero => exact .pure _
  | succ rounds ih =>
    refine .bind (getStrm_deeds 0) fun strm => .bind (.ofExcept _) fun data => ?_
    split
    · split
      · exact .pure _
      · exact .throw _
    · exact .bind (connCallRecvStream0Data_deeds app _) fun _ => .bind (connCreditStrm0_deeds _) fun _ =>
        .bind (connExtendMaxStreamOffset_deeds 0 _) fun _ => .bind (getStrm_deeds 0) fun _ => .bind (.ofExcept _) fun _ =>
        .bind (modifyStrm_deeds 0 fun _ => rfl) fun _ => ih _

theorem connTakeStream_deeds (fr : StreamFrame) : Takes .idle (connTakeStream app fr) := by
  have removed (id rxOffset : Nat) : Takes .idle (connRemovePrefix id rxOffset) := modifyStrm_deeds id fun _ => rfl
  refine .bind (getStrm_deeds fr.streamId) fun strm => ?_
  dsimp only
  split
  · split
    · exact .bind (connMark_deeds rfl) fun _ => .bind (removed _ _) fun _ =>
        .bind (connCallRecvStream0Data_deeds app _) fun _ => .bind (connMark_deeds rfl) fun _ =>
        connEmitPendingStream0Data_deeds app _ _
    · exact .bind (removed _ _) fun _ => .bind (connCall_deeds app rfl) fun _ =>
        connEmitPendingStreamData_deeds app _ _ _
  · exact modifyStrm_deeds _ fun _ => rfl

theorem connClaim_deeds (id offset : Nat) {f : Strm → Strm} (same : ∀ strm, (f strm).tag = strm.tag) :
    Takes .idle (connClaim id offset f) := .bind (connMark_deeds rfl) fun _ => modifyStrm_deeds id same

theorem connRefuse_deeds {α : Type} (id : Nat) (e : Err) : Takes .idle (connRefuse id e : ConnM α) :=
  .bind (connMark_deeds rfl) fun _ => .throw _

theorem connDeliverStream_deeds {s : Conn} {fr : StreamFrame}
    (going : ∀ tag, s.tags fr.streamId = some tag → tag.stopSending = false) :
    Goes (Deeds (.frame (.stream fr))) (fun _ => Deeds (.frame (.stream fr))) (connDeliverStream app fr) s := by
  refine (connTakeStream_deeds app fr).idle_then fun _ t kept => ?_
  apply ngtcp2ConnCloseStreamIfShutRdwr_deeds
  intro tag found
  rw [kept] at found
  simp [Doing.cause, going tag found]

theorem connRecvStreamFin_deeds (fr : StreamFrame) : Takes (.frame (.stream fr)) (connRecvStreamFin app fr) := by
  have claimed : Takes .idle (connClaim fr.streamId fr.endOffset fun strm =>
      { strm with lastRxOffset := fr.endOffset, shutRd := true }) := connClaim_deeds _ _ fun _ => rfl
  intro s
  refine .seq (claimed.idle s) fun _ t _ => .seq ((getStrm_deeds fr.streamId).idle t) fun strm u run => ?_
  obtain ⟨rfl, found⟩ := getStrm_ok run
  have tagged : u.tags fr.streamId = some strm.tag := by simp [Conn.tags, Conn.outline, found]
  split
  next stopped =>
    apply ngtcp2ConnCloseStreamIfShutRdwr_deeds
    intro tag here
    obtain rfl : strm.tag = tag := by simpa [tagged] using here
    simp [Doing.cause, Strm.tag, stopped]
  next going =>
    have going : ∀ tag, u.tags fr.streamId = some tag → tag.stopSending = false := by
      intro tag here
      obtain rfl : strm.tag = tag := by simpa [tagged] using here
      simpa [Strm.tag] using going
    refine (connFcUnlink_deeds fr.streamId).idle_then fun _ v kept => ?_
    split
    · refine (connCall_deeds app rfl).idle_then fun _ w kept' => ?_
      apply ngtcp2ConnCloseStreamIfShutRdwr_deeds
      intro tag here
      rw [kept', kept] at here
      simp [Doing.cause, going tag here]
    · exact connDeliverStream_deeds app (kept ▸ going)

theorem connRecvStreamNoFin_deeds (fr : StreamFrame) : Takes (.frame (.stream fr)) (connRecvStreamNoFin app fr) := by
  have claimed : Takes .idle (connClaim fr.streamId fr.endOffset fun strm =>
      { strm with lastRxOffset := max strm.lastRxOffset fr.endOffset }) := connClaim_deeds _ _ fun _ => rfl
  intro s
  refine .seq (claimed.idle s) fun _ t _ => .seq ((getStrm_deeds fr.streamId).idle t) fun strm u run => ?_
  obtain ⟨rfl, found⟩ := getStrm_ok run
  split
  · exact .done _
  split
  · exact .done _
  next going =>
    apply connDeliverStream_deeds
    intro tag here
    obtain rfl : strm.tag = tag := by simpa [Conn.tags, Conn.outline, found] using here
    simpa [Strm.tag] using going

theorem connRecvStreamOn_deeds (fr : StreamFrame) : Takes (.frame (.stream fr)) (connRecvStreamOn app fr) := by
  have counted (strm : Strm) : Takes .idle (connRecvStreamCount strm fr) := by
    refine .got fun c => ?_
    split
    · split
      · exact .throw _
      · exact .still fun _ => by simp only [Conn.outline]
    · exact .pure _
  refine .bind (getStrm_deeds _).idle fun strm => ?_
  split
  · exact .throw _
  refine .bind (counted strm).idle fun _ => ?_
  split
  · split
    · split
      · exact (connRefuse_deeds _ _).idle
      · exact (connClaim_deeds _ _ fun _ => rfl).idle
    · split
      · exact (connRefuse_deeds _ _).idle
      · exact connRecvStreamFin_deeds app fr
  · split
    · exact (connRefuse_deeds _ _).idle
    · exact connRecvStreamNoFin_deeds app fr

theorem connRecvStream_deeds (fr : StreamFrame) : Takes (.frame (.stream fr)) (connRecvStream app fr) := by
  refine .got fun c => ?_
  split
  · exact .throw _
  split
  · exact connRecvStreamOn_deeds app fr
  split
  · exact .pure _
  split
  · exact .pure _
  · exact .throw _
  · exact .bind (connNewRemoteStream_deeds app _ rfl) fun _ => connRecvStreamOn_deeds app fr

-- other frames

theorem connRecvMaxStreamData_deeds (fr : MaxStreamData) :
    Takes (.frame (.maxStreamData fr)) (connRecvMaxStreamData app fr) := by
  have raised : Takes .idle (modifyStrm fr.streamId fun strm =>
      { strm with maxTxOffset := max strm.maxTxOffset fr.maxStreamData }) := modifyStrm_deeds _ fun _ => rfl
  refine .got fun c => ?_
  split
  · exact .throw _
  split
  · exact raised.idle
  split
  · exact .pure _
  split
  · exact .pure _
  · exact .throw _
  · exact .bind (connNewRemoteStream_deeds app _ rfl) fun _ => raised.idle

theorem connRecvRstStream_deeds (fr : RstStream) : Takes (.frame (.rstStream fr)) (connRecvRstStream app fr) := by
  have gone : Takes .idle (connRecvRstStreamGone fr) := by
    refine .got fun c => ?_
    split
    · split
      · exact .throw _
      · exact .pure _
    · refine .bind (.ofExcept _) fun opened => ?_
      split
      · exact .pure _
      split
      · exact .throw _
      · exact .bind (connMark_deeds rfl) fun _ => .bind (connSetIdtr_deeds _ _) fun _ =>
          .still fun _ => by simp only [Conn.outline]
  have here (strm : Strm) : Takes (.frame (.rstStream fr)) (connRecvRstStreamOn app strm fr) := by
    refine .got fun c => ?_
    dsimp only
    split
    · exact .throw _
    split
    · exact .throw _
    split
    · exact .throw _
    · have counted : Takes .idle (modify fun c : Conn =>
          { c with rxOffset := add64 c.rxOffset (fr.finalOffset - strm.lastRxOffset) }) :=
        .still fun _ => by simp only [Conn.outline]
      have claimed : Takes .idle (connClaim fr.streamId fr.finalOffset fun strm =>
          { strm with shutRd := true, recvRst := true }) := connClaim_deeds _ _ fun _ => rfl
      exact .bind counted.idle fun _ => .bind (connMark_deeds rfl).idle fun _ => .bind claimed.idle fun _ s =>
        ngtcp2ConnCloseStreamIfShutRdwr_deeds app fun _ _ => rfl
  refine .got fun c => ?_
  split
  · exact .throw _
  split
  · exact .throw _
  split
  · exact gone.idle
  · exact here _

theorem connRecvStopSending_deeds (fr : StopSending) :
    Takes (.frame (.stopSending fr)) (connRecvStopSending app fr) := by
  refine .got fun c => ?_
  split
  · exact .throw _
  split
  · exact .throw _
  split
  · split
    · exact .pure _
    · refine .bind (.ofExcept _) fun opened => ?_
      split
      · exact .pure _
      · exact (connSetIdtr_deeds _ _).idle
  · have reset : Takes .idle (modifyStrm fr.streamId fun strm => { strm with shutWr := true, sentRst := true }) :=
      modifyStrm_deeds _ fun _ => rfl
    exact .bind (connRstStream_deeds app _ _).idle fun _ => .bind reset.idle fun _ s =>
      ngtcp2ConnCloseStreamIfShutRdwr_deeds app fun _ _ => rfl

-- ACK frames

theorem ackStreamFrame_deeds (ack : Ack) (fr : StreamFrame) : Takes (.frame (.ack ack)) (ackStreamFrame app fr) := by
  refine .bind (ngtcp2ConnFindStream_deeds _).idle fun found => ?_
  split
  · exact .pure _
  next strm =>
    have pushed : Takes .idle (modifyStrm fr.streamId fun strm' =>
        { strm' with ackedTxOffset := ngtcp2GaptrPush strm.ackedTxOffset fr.offset fr.datalen }) :=
      modifyStrm_deeds _ fun _ => rfl
    refine .bind pushed.idle fun _ => ?_
    dsimp only
    split
    · exact .pure _
    · exact .bind (connCall_deeds app rfl).idle fun _ s => ngtcp2ConnCloseStreamIfShutRdwr_deeds app fun _ _ => rfl

theorem callAckedStreamOffset_deeds (ack : Ack) (frc : List Frame) :
    Takes (.frame (.ack ack)) (callAckedStreamOffset app frc) := by
  induction frc with
  | nil => exact .pure _
  | cons fr rest ih =>
    cases fr with
    | stream fr => exact .bind (ackStreamFrame_deeds app ack fr) fun _ => ih
    | _ => exact ih

theorem rtbAckEntry_deeds (ack : Ack) (ent : RtbEntry) : Takes (.frame (.ack ack)) (rtbAckEntry app ent) := by
  have frames : Takes (.frame (.ack ack)) (rtbAckFrames app ent.frc) := by
    refine .got fun c => ?_
    split
    · exact callAckedStreamOffset_deeds app ack ent.frc
    · exact .pure _
  refine .bind (connMark_deeds rfl).idle fun _ => .bind frames fun _ s => .got ?_
  refine .seq (.result _) fun rtb t run => ?_
  have removed := congrArg Prod.fst run
  obtain rfl : s = t := congrArg Prod.snd run
  -- the entry leaves the list, and nothing else is in an outline
  refine .modified (.single (.fewer s.outline rtb.head ?_))
  have head := (rtbRemove_ok removed).1
  rw [head]
  exact (unlink_sublist _ _).subset

theorem rtbAckFirst_deeds (ack : Ack) (largestAck minAck : Nat) (unprotected : Bool) (ents : List RtbEntry) :
    Takes (.frame (.ack ack)) (rtbAckFirst app largestAck minAck unprotected ents) := by
  induction ents with
  | nil => exact .pure _
  | cons ent rest ih =>
    unfold rtbAckFirst
    split
    · split
      · exact ih
      · exact .bind (rtbAckEntry_deeds app ack ent) fun _ => ih
    · exact .pure _

theorem rtbAckBlk_deeds (ack : Ack) (largestAck minAck : Nat) (unprotected : Bool) (ents : List RtbEntry) :
    Takes (.frame (.ack ack)) (rtbAckBlk app largestAck minAck unprotected ents) := by
  induction ents with
  | nil => exact .pure _
  | cons ent rest ih =>
    unfold rtbAckBlk
    split
    · exact ih
    split
    · exact .pure _
    split
    · exact ih
    · exact .bind (rtbAckEntry_deeds app ack ent) fun _ => ih

theorem rtbAckBlks_deeds (ack : Ack) (minAck : Nat) (unprotected : Bool) (blks : List AckBlk) (ents : List RtbEntry) :
    Takes (.frame (.ack ack)) (rtbAckBlks app minAck unprotected blks ents) := by
  induction blks generalizing minAck ents with
  | nil => exact .pure _
  | cons blk blks ih =>
    unfold rtbAckBlks
    split
    · exact .pure _
    · exact .bind (rtbAckBlk_deeds app ack _ _ unprotected ents) fun _ => ih _ _

theorem connRecvAck_deeds (ack : Ack) (unprotected : Bool) : Takes (.frame (.ack ack)) (connRecvAck app ack unprotected) := by
  have searched : Takes (.frame (.ack ack)) (ngtcp2RtbRecvAck app ack unprotected) := by
    refine .got fun c => ?_
    dsimp only
    split
    · exact .pure _
    · exact .bind (rtbAckFirst_deeds app ack _ _ unprotected _) fun _ => rtbAckBlks_deeds app ack _ unprotected _ _
  unfold connRecvAck
  split
  · exact .throw _
  · exact .bind (.still fun _ => rfl) fun _ => searched

end

end Ngtcp2
