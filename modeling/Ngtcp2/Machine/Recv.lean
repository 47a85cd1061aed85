import Ngtcp2.Machine.RecvAck

namespace Ngtcp2

open Prog Relation

variable {sc : Scope} (app : App)

theorem connRecvAck_does (fr : Ack) (unprotected : Bool) :
    Does sc (connRecvAck app fr unprotected) := by
  unfold connRecvAck
  split
  · exact .throw _
  · refine .bind (.move fun c => ?_) fun _ => ngtcp2RtbRecvAck_does app unprotected fr
    obtain ⟨fewer, active⟩ := ngtcp2AcktrRecvAck_sublist c.acktr fr unprotected
    have forget : Move sc _ _ := .forget c.view _ fewer
    simpa [Conn.view, active] using forget

theorem connBufferProtectedPkt_does (pkt : Pkt) : Does sc (connBufferProtectedPkt app pkt) := by
  refine .get fun c => ?_
  split
  · exact .pure _
  · exact .bind (malloc_does app) fun _ => .same fun _ => rfl

theorem connDecryptPkt_spec (sc : Scope) (pkt : Pkt) (ckm : Option CryptoKm) (pktNum : Nat) (s : Conn) :
    wp (connDecryptPkt pkt ckm pktNum) (fun r t => Reaches sc s t ∧ ∀ fr ∈ r.1, fr.WireOk)
      (fun _ t => SameView s t) s := by
  unfold connDecryptPkt
  split
  · exact rfl
  split
  case h_1 payload => exact ⟨.refl, pkt.framesOk _ _ _ _ payload⟩
  all_goals exact rfl

theorem endOfFrames_still (malformed : Bool) : Still (endOfFrames malformed) := by
  unfold endOfFrames
  split
  · exact .throw _
  · exact .pure _

theorem connSetMaxRxPktNum_still (pktNum : Nat) : Still (connSetMaxRxPktNum pktNum) :=
  .modify fun _ => rfl

theorem frameLoop_does {handle : Frame → ConnM Bool} {frs : List Frame} (requireAck : Bool)
    (wire : ∀ fr ∈ frs, fr.WireOk) (each : ∀ fr, fr.WireOk → Does sc (handle fr)) :
    Does sc (frameLoop handle frs requireAck) := by
  induction frs generalizing requireAck with
  | nil => exact .pure _
  | cons fr rest ih =>
    exact .bind (each fr (wire fr List.mem_cons_self)) fun _ =>
      ih _ fun fr member => wire fr (List.mem_cons_of_mem _ member)

def Frame.rx : Frame → Nat → Prop
  | .stream fr, id => id = fr.streamId
  | .rstStream fr, id => id = fr.streamId
  | _, _ => False

def Frame.shut : Frame → Nat → Prop
  | .rstStream fr, id => id = fr.streamId
  | .stopSending fr, id => id = fr.streamId
  | _, _ => False

def Frame.enters : Frame → ConnState → Prop
  | .connectionClose _ _, state => state = .DRAINING
  | .applicationClose _ _, state => state = .DRAINING
  | _, _ => False

theorem recvFrame_does {fr : Frame} (wire : fr.WireOk) (rx : ∀ id, fr.rx id → sc.rx id)
    (shut : ∀ id, fr.shut id → sc.shut id) (enters : ∀ state, fr.enters state → sc.become state) :
    Does sc (recvFrame app fr) := by
  cases fr with
  | ack fr => exact connRecvAck_does app fr false
  | stream fr => exact connRecvStream_does app wire (rx _ rfl)
  | rstStream fr => exact connRecvRstStream_does app wire (rx _ rfl) (shut _ rfl)
  | stopSending fr => exact connRecvStopSending_does app wire (shut _ rfl)
  | maxStreamData fr => exact connRecvMaxStreamData_does app wire
  | maxData maxData => exact connRecvMaxData_does wire
  | maxStreamId maxStreamId => exact connRecvMaxStreamId_does app wire
  | ping data => exact connRecvPing_does app data
  | pong data => exact connRecvPong_does data
  | connectionClose errorCode reason => exact connRecvConnectionClose_does (enters _ rfl)
  | applicationClose appErrorCode reason => exact connRecvConnectionClose_does (enters _ rfl)
  | _ => exact .pure _

variable (all : ∀ id, sc.rx id ∧ sc.shut id)

section

variable (drain : sc.become .DRAINING)

include all

theorem delayedHandshakeFrame_does (hd : PktHd) {fr : Frame} (wire : fr.WireOk) :
    Does sc (delayedHandshakeFrame app hd fr) := by
  refine .bind (connCall_still app rfl).does fun _ => ?_
  cases fr with
  | ack fr =>
    dsimp only
    split
    · exact .throw _
    · exact .bind (connRecvAck_does app fr true) fun _ => .pure _
  | padding len => exact .pure _
  | stream fr => exact .bind (connRecvStream_does app wire (all _).1) fun _ => .pure _
  | _ => exact .throw _

include drain

theorem protectedFrame_does (hd : PktHd) {fr : Frame} (wire : fr.WireOk) :
    Does sc (protectedFrame app hd fr) := by
  refine .bind (connCall_still app rfl).does fun _ => ?_
  split
  · exact .throw _
  · refine .bind (recvFrame_does app wire (fun id _ => (all id).1) (fun id _ => (all id).2)
      fun state enters => ?_) fun _ => .pure _
    cases fr <;> first | exact enters ▸ drain | exact enters.elim

omit drain in
theorem connRecvDelayedHandshakePkt_does (pkt : Pkt) {hd : PktHd} (ts : Nat)
    (bound : hd.pktNum < 18446744073709551616) :
    Does sc (connRecvDelayedHandshakePkt app pkt hd ts) := by
  refine .get fun c => ?_
  split
  · exact .pure _
  split
  · exact .pure _
  intro s
  refine .seqWith (wp_mono (connDecryptPkt_spec sc pkt _ _ s) (fun _ _ ok => ok)
    fun _ _ same => .inr (.of_same same)) fun ⟨frs, malformed⟩ t wire => ?_
  exact Does.bind (frameLoop_does _ wire fun _ => delayedHandshakeFrame_does app all hd) (fun _ =>
    .bind (endOfFrames_still _).does fun _ => .bind (connSetMaxRxPktNum_still _).does fun _ =>
    ngtcp2ConnSchedAck_does app _ _ _ bound) t

omit all in
theorem connOnStatelessReset_always (pkt : Pkt) (hd : PktHd) :
    Always sc (connOnStatelessReset app pkt hd) := by
  have drains : Always sc (setState .DRAINING) := by
    refine fun s => .modified (.of_move fun owed => ?_)
    rw [s.view_enter .DRAINING]
    exact .enter { s.view with owed := owed } .DRAINING drain fun _ => rfl
  have reset : Always sc (do setState .DRAINING; connCall app (.recvStatelessReset hd)) := fun s =>
    .seq (drains s) fun _ t _ => (connCall_still app rfl).always t
  refine fun s => .got ?_
  split
  · exact .failed _
  dsimp only
  split <;> split
  · exact .failed _
  · exact reset s
  · exact .failed _
  · exact reset s

theorem connRecvProtectedFrames_does {hd : PktHd} {frs : List Frame} (malformed : Bool) (ts : Nat)
    (wire : ∀ fr ∈ frs, fr.WireOk) (bound : hd.pktNum < 18446744073709551616) :
    Does sc (connRecvProtectedFrames app hd frs malformed ts) :=
  .bind (frameLoop_does _ wire fun _ => protectedFrame_does app all drain hd) fun _ =>
    .bind (endOfFrames_still _).does fun _ => .bind (connSetMaxRxPktNum_still _).does fun _ =>
    ngtcp2ConnSchedAck_does app _ _ _ bound

theorem connRecvProtected_does (pkt : Pkt) {hd : PktHd} (ckm : Option CryptoKm) (ts : Nat)
    (bound : hd.pktNum < 18446744073709551616) : Does sc (connRecvProtected app pkt hd ckm ts) := by
  intro s
  have spec := connDecryptPkt_spec sc pkt ckm hd.pktNum s
  have first : Goes (Reaches sc) (fun _ => SameView) (connDecryptPkt pkt ckm hd.pktNum) s :=
    wp_mono spec (fun _ _ ok => ok.1) fun _ _ same => same
  refine Goes.attempted first (fun ⟨frs, malformed⟩ t run => ?_) fun e t run same => ?_
  · have wire := (wp_ok spec run).2
    refine .seq (.modified (.of_same rfl)) fun _ u _ => .got ?_
    split
    · exact .done _
    · exact connRecvProtectedFrames_does app all drain malformed ts wire bound u
  · refine Goes.after ?_ (.of_same same)
    dsimp only
    split
    · exact .failed _
    · refine (connOnStatelessReset_always app drain pkt hd).attempt (fun r => ?_) t
      cases r with
      | ok => exact .pure _
      | error => exact .throw _

omit all drain in
theorem ngtcp2PktAdjustPktNum_lt {pktNum : Nat} (maxPktNum n : Nat) (bound : pktNum < 4294967296) :
    ngtcp2PktAdjustPktNum maxPktNum pktNum n < 18446744073709551616 := by
  have small : pktNum < 2 ^ 64 := by omega
  have either : ∀ u, u < 18446744073709551616 → u ||| pktNum < 18446744073709551616 :=
    fun u lt => Nat.or_lt_two_pow (n := 64) lt small
  unfold ngtcp2PktAdjustPktNum
  dsimp only
  split_ifs
  all_goals exact either _ (Nat.mod_lt _ (by decide))

theorem connRecvPktHd_does (pkt : Pkt) {hd : PktHd} (ts : Nat) (bound : hd.pktNum < 4294967296) :
    Does sc (connRecvPktHd app pkt hd ts) := by
  refine .get fun c => .bind (connCall_still app rfl).does fun _ => ?_
  have adjusted := ngtcp2PktAdjustPktNum_lt c.maxRxPktNum (pktNumBits hd) bound
  split
  · split
    · exact connRecvDelayedHandshakePkt_does app all pkt ts adjusted
    · exact connRecvDelayedHandshakePkt_does app all pkt ts adjusted
    · split
      · exact .pure _
      split
      · exact .pure _
      · exact connRecvProtected_does app all drain pkt _ ts adjusted
    · exact .pure _
  · exact connRecvProtected_does app all drain pkt _ ts adjusted

omit all drain in
theorem decodeHd_spec (pkt : Pkt) (s : Conn) :
    wp (Prog.ofExcept pkt.decodeHd) (fun hd t => Reaches sc s t ∧ hd.pktNum < 4294967296)
      (fun e t => Fails sc e s t) s := by
  unfold Pkt.decodeHd
  split
  · exact .inr .refl
  case h_2 hd decoded => exact ⟨.refl, pkt.pktNumOk hd decoded⟩

theorem connRecvPkt_does (pkt : Pkt) (ts : Nat) : Does sc (connRecvPkt app pkt ts) := by
  intro s
  refine .got (.seqWith (decodeHd_spec pkt s) fun hd t bound => ?_)
  split
  · split
    · split
      · exact .done _
      · exact (connCall_still app rfl).does t
    split
    · exact .done _
    · exact connRecvPktHd_does app all drain pkt ts bound t
  split
  · exact .failed _
  · exact connRecvPktHd_does app all drain pkt ts bound t

end

theorem connOnVersionNegotiation_does (pkt : Pkt) (hd : PktHd) :
    Does sc (connOnVersionNegotiation app pkt hd) := by
  unfold connOnVersionNegotiation
  split
  · exact .throw _
  split
  · exact .bind (malloc_does app) fun _ => (connCall_still app rfl).does
  · exact (connCall_still app rfl).does

theorem connRecvServerStatelessRetry_goes {s : Conn} (send : sc.send)
    (enters : sc.become .CLIENT_INITIAL) (stays : s.state.closed = false) :
    Goes (Reaches sc) (Fails sc) (connRecvServerStatelessRetry app) s := by
  refine .seq (.modified (.of_same rfl)) fun _ t run => ?_
  cases run
  refine .seq ((connCall_still app rfl).does _) fun _ t run => ?_
  have first := SameView.state ((connCall_still app rfl _).reached run)
  refine .seq (malloc_does app t) fun _ u run => .got ?_
  obtain ⟨-, rfl⟩ := malloc_ok app run
  let listed := decide (0 ∈ t.fcStrms)
  let u : Conn := Conn.emit { t with nalloc := t.nalloc + 1 } (.mark (.retryListed listed))
  have view : u.view = (Conn.view { t with nalloc := t.nalloc + 1 }).emit (.mark (.retryListed listed)) :=
    Conn.view_emit _ rfl
  refine .seq (.modified (.of_move (view ▸ .noteRetry _ listed))) fun _ w run => ?_
  obtain rfl : w = u := congrArg Prod.snd run.symm
  -- the mark and the new start are one move
  let fresh := ngtcp2StrmInit 0 false false u.localSettings.maxStreamData.toNat strm0MaxStreamData
  refine .jump (pure ())
    (Conn.enter
      { (u.emit (.mark (.retry u.txCkm.isSome (!u.earlyRtb.isEmpty)))).setStrm 0 (some fresh) with
        lastTxPktNum := 0
        maxRxPktNum := 0
        rtb := ngtcp2RtbInit
        acktr := ngtcp2AcktrInit
        connIdNegotiated := false }
      .CLIENT_INITIAL) rfl (.of_move ?_) (.done _)
  rw [Conn.view_enter]
  change Move sc _ (View.enter { Conn.view ((u.emit _).setStrm 0 (some fresh)) with
    lastTxPktNum := 0, queue := ngtcp2RtbInit.queue, head := [], tracked := [], activeAck := false } _)
  rw [Conn.view_setStrm, Conn.view_emit u rfl]
  refine .retry u.view rfl send enters ?_ rfl ?_
  · exact (congrArg ConnState.closed first).trans stays
  · rw [view]
    exact List.mem_concat_self

theorem handshakePktAccept_does (pkt : Pkt) (hd : PktHd) : Does sc (handshakePktAccept app pkt hd) := by
  refine .get fun c => ?_
  dsimp only
  split
  · split
    · split
      · exact .bind (.same fun _ => rfl) fun _ => .bind (connCallRecvClientInitial_does app) fun _ =>
          .pure _
      · exact .pure _
    · exact .pure _
    · split
      · exact .bind (connBufferProtectedPkt_does app pkt) fun _ => .pure _
      · exact .pure _
    · exact .throw _
  · split
    · split
      · exact .pure _
      · exact .bind (.same fun _ => rfl) fun _ => .pure _
    · refine .bind (getStrm_still 0).does fun strm0 => ?_
      split
      · exact .throw _
      · exact .pure _
    · split
      · exact .pure _
      · exact .bind (connOnVersionNegotiation_does app pkt hd) fun _ => .throw _
    · exact .throw _

theorem handshakePktAccept_retry {pkt : Pkt} {hd : PktHd} {s t : Conn} (type : hd.type = .RETRY)
    (run : handshakePktAccept app pkt hd s = (.ok true, t)) : s.server = false := by
  cases server : s.server with
  | false => rfl
  | true =>
    have unfolded : handshakePktAccept app pkt hd s = (.error .PROTO, s) := by
      unfold handshakePktAccept
      change (if s.server then _ else _ : ConnM Bool) s = _
      simp only [server, type]
      rfl
    cases unfolded.symm.trans run

theorem handshakeDeliver_goes {fr : StreamFrame} {s : Conn} {strm0 : Strm} (failed : Bool) (allowed : sc.rx 0)
    (bound : fr.endOffset < 2 * varintBound) (found : s.strms 0 = some strm0)
    (start : fr.offset ≤ ngtcp2StrmRxOffset strm0) (new : ngtcp2StrmRxOffset strm0 < fr.endOffset)
    (reach : fr.endOffset ≤ strm0.lastRxOffset) :
    Goes (Reaches sc) (Fails sc) (handshakeDeliver app fr failed) s := by
  refine .seq ((getStrm_still 0).does s) fun strm t run => ?_
  obtain ⟨rfl, found'⟩ := getStrm_ok run
  obtain rfl := Option.some.inj (found.symm.trans found')
  let data := fr.data.drop (ngtcp2StrmRxOffset strm0 - fr.offset)
  have ends : ngtcp2StrmRxOffset strm0 + data.length = fr.endOffset := by
    simp only [data, List.length_drop]
    unfold StreamFrame.endOffset StreamFrame.datalen at new ⊢
    omega
  refine .seq (connMarkCredit_goes found) fun _ u run => ?_
  obtain rfl : u = t.emit (.mark (.credit strm0.credited)) := congrArg Prod.snd run.symm
  have marked : .mark (.credit strm0.credited) ∈ (t.emit (.mark (.credit strm0.credited))).view.log := by
    rw [Conn.view_emit _ rfl]
    simp [View.emit]
  have removes := connRemovePrefix_goes (s := t.emit (.mark (.credit strm0.credited))) allowed found
    (show ngtcp2StrmRxOffset strm0 + data.length ≤ _ by omega)
  refine .seq removes fun _ u run => ?_
  have marked := goes_logged removes run marked
  rw [connRemovePrefix, modifyStrm_run _ (c := t.emit _) found] at run
  cases run
  let strm1 : Strm :=
    { strm0 with rob := ngtcp2RobRemovePrefix strm0.rob (ngtcp2StrmRxOffset strm0 + data.length) }
  have below : ngtcp2StrmRxOffset strm0 + data.length ≤ ngtcp2StrmRxOffset strm1 := by
    refine ngtcp2RobRemovePrefix_first ?_
    unfold varintBound at bound
    unfold uint64Max
    omega
  -- whether the TLS stack likes the bytes or not, they are added to the window
  let start := (t.emit (.mark (.credit strm0.credited))).setStrm 0 (some strm1)
  have credits {v : Conn} {owed : Nat} (same : SameStrms start v)
      (reached : ReflTransGen (Move sc) start.view { v.view with owed := owed })
      (due : data.length = owed ∨ .mark .uncredited ∈ v.view.log) :
      wp (connCreditStrm0 data.length)
        (fun _ w => Reaches sc start w ∧ ∃ strm', w.strms 0 = some strm' ∧
          Credit strm' (ngtcp2StrmRxOffset strm0 + data.length) w.view.log)
        (fun e w => Fails sc e start w) v := by
    obtain ⟨maxTx, held⟩ := same.found (Conn.setStrm_strms ..)
    have logged : .mark (.credit strm0.credited) ∈ v.view.log := (Move.log_run reached).subset marked
    refine wp_mono (connCreditStrm0_spec allowed reached due held (Credit.start logged rfl (Nat.le_refl _)) below) ?_
      fun _ _ failed => failed
    rintro _ w ⟨reached, credit, found⟩
    exact ⟨reached, _, found, credit⟩
  have keeps := connCallRecvStream0Data_sameStrms app data start
  change wp (Prog.attempt (connCallRecvStream0Data app data) >>= _) _ _ start
  rw [wp_bind, wp_attempt]
  refine wp_intro (fun _ v run => ?_) fun e v run => ?_
  · have hands := connCallRecvStream0Data_handsOn app allowed run
    dsimp only
    rw [wp_bind]
    refine wp_mono (credits (keeps.reached run) hands (.inl rfl)) ?_ fun _ _ failed => failed
    rintro _ w ⟨reached, strm', held, credit⟩
    refine Goes.after ?_ reached
    split
    · exact .seq (connEmitPendingStream0Data_goes app allowed _ held credit) fun _ _ _ => .done _
    · exact .done _
  · obtain ⟨reached, refused⟩ := wp_error (connCallRecvStream0Data_spec app allowed data start) run
    by_cases tls : e = .TLS_HANDSHAKE
    · subst tls
      dsimp only
      rw [wp_bind]
      refine wp_mono (credits (keeps.stopped run) (by exact reached) (.inr refused)) ?_ fun _ _ failed => failed
      rintro _ w ⟨reached, -⟩
      exact reached
    · cases e <;> first | exact .inr reached | exact absurd rfl tls

section

include all

theorem handshakeStream_does (hd : PktHd) {fr : StreamFrame} (wire : fr.WireOk) (failed : Bool) :
    Does sc (handshakeStream app hd fr failed) := by
  unfold handshakeStream
  split
  · exact .pure _
  split
  · exact .throw _
  split
  · exact .throw _
  split
  · exact .throw _
  refine .strm fun strm0 s found => ?_
  split
  · exact .done _
  next new =>
  let record (strm0 : Strm) : Strm := { strm0 with lastRxOffset := max strm0.lastRxOffset fr.endOffset }
  split
  · refine Eq.mpr (wp_bind _ _) (Eq.mpr (wp_modifyStrm record found) ?_)
    have bound := wire.endOffset
    exact connRefuse_fails (n := s.rxOffset) (max strm0.lastRxOffset fr.endOffset) (all 0).1 found (by omega)
  next window =>
  have claims : s.view.Claims 0 strm0.view (record strm0).view fr.endOffset s.rxOffset :=
    { bound := wire.endOffset, window := Nat.le_of_not_lt window, rob := rfl, unsent := rfl
      shut := fun nonzero => absurd rfl nonzero
      last := .inl rfl
      listed := fun _ => .inl rfl
      counted := fun _ => .inl ⟨.inl rfl, rfl⟩ }
  have claimed := claim_reaches (f := record) (all 0).1 found ⟨rfl, rfl, rfl, rfl, rfl, rfl, rfl, rfl, rfl⟩ (fun _ => rfl) claims
  refine Eq.mpr (wp_connClaim found) (Goes.after ?_ claimed)
  split
  next start =>
    exact handshakeDeliver_goes app failed (all 0).1 wire.endOffset (Conn.setStrm_strms ..) start
      (Nat.lt_of_not_le new) (Nat.le_max_right _ _)
  next =>
    dsimp only
    split
    · exact .seq (recvReordering_goes (all 0).1 (Conn.setStrm_strms ..) wire.endOffset (Nat.le_max_right _ _))
        fun _ _ _ => .done _
    · exact .done _

theorem handshakeFrame_does {hd : PktHd} (drain : hd.type = .HANDSHAKE → sc.become .DRAINING)
    {fr : Frame} (wire : fr.WireOk) (loop : Bool × Bool) : Does sc (handshakeFrame app hd fr loop) := by
  refine .bind (connCall_still app rfl).does fun _ => ?_
  cases fr with
  | ack fr =>
    dsimp only
    split
    · exact .throw _
    · exact .bind (connRecvAck_does app fr true) fun _ => .pure _
  | padding len =>
    dsimp only
    split
    · exact .throw _
    · exact .pure _
  | stream fr => exact .bind (handshakeStream_does app all hd wire loop.2) fun _ => .pure _
  | connectionClose errorCode reason =>
    dsimp only
    split
    case isTrue type => exact .bind (connRecvConnectionClose_does (drain type)) fun _ => .pure _
    case isFalse => exact .throw _
  | _ => exact .throw _

theorem handshakeFrames_does {hd : PktHd} (drain : hd.type = .HANDSHAKE → sc.become .DRAINING)
    {frs : List Frame} (wire : ∀ fr ∈ frs, fr.WireOk) (loop : Bool × Bool) :
    Does sc (handshakeFrames app hd frs loop) := by
  induction frs generalizing loop with
  | nil => exact .pure _
  | cons fr rest ih =>
    exact .bind (handshakeFrame_does app all drain (wire fr List.mem_cons_self) loop)
      (ih fun fr member => wire fr (List.mem_cons_of_mem _ member))

end

structure Receives (sc : Scope) : Prop where
  all : ∀ id, sc.rx id ∧ sc.shut id
  send : sc.send
  drain : sc.become .DRAINING
  retry : sc.become .CLIENT_INITIAL

variable (recv : Receives sc)

include recv

theorem connRecvHandshakePayload_goes (pkt : Pkt) {hd : PktHd} (ts : Nat)
    (bound : hd.pktNum < 18446744073709551616) {s : Conn}
    (stays : hd.type = .RETRY → s.state.closed = false) :
    Goes (Reaches sc) (Fails sc) (connRecvHandshakePayload app pkt hd ts) s := by
  refine .got ?_
  have spec := fun sc => connDecryptPkt_spec sc pkt s.hsRxCkm hd.pktNum s
  have decrypt : Goes (Reaches sc) (Fails sc) (connDecryptPkt pkt s.hsRxCkm hd.pktNum) s :=
    wp_mono (spec sc) (fun _ _ ok => ok.1) fun _ _ same => .inr (.of_same same)
  refine .seq decrypt fun ⟨frs, malformed⟩ t decrypted => ?_
  have wire := (wp_ok (spec sc) decrypted).2
  refine .seq (handshakeFrames_does app recv.all (fun _ => recv.drain) wire _ t)
    fun ⟨requireAck, failed⟩ u handled => ?_
  -- the frames of a Retry packet do not change the state
  have same : hd.type = .RETRY → u.state = s.state := by
    intro type
    have untouched : Does { sc with become := fun _ => False }
        (handshakeFrames app hd frs (false, false)) :=
      handshakeFrames_does app (by exact recv.all) (by simp [type]) wire (false, false)
    have kept : Reaches .none s t := (wp_ok (spec .none) decrypted).1
    exact (((untouched t).reached handled).steady fun _ => id).trans (kept.steady fun _ => id)
  refine .seq ((endOfFrames_still _).does u) fun _ w ended => .seq ((getStrm_still 0).does w)
    fun strm0 x looked => ?_
  have here : x.state = u.state :=
    (SameView.state ((getStrm_still 0 w).reached looked)).trans
      (SameView.state ((endOfFrames_still _ u).reached ended))
  split
  · exact .failed _
  refine .seq ((connSetMaxRxPktNum_still _).does x) fun _ y counted => ?_
  have there : y.state = x.state := SameView.state ((connSetMaxRxPktNum_still _ x).reached counted)
  split
  case isTrue type =>
    split
    · exact .failed _
    · refine connRecvServerStatelessRetry_goes app recv.send recv.retry ?_
      rw [there, here, same type]
      exact stays type
  case isFalse =>
    refine .seq (ngtcp2ConnSchedAck_does app _ _ _ bound y) fun _ z _ => ?_
    split
    · exact .failed _
    · exact .done _

theorem connRecvHandshakePktHd_goes (pkt : Pkt) {hd : PktHd} (ts : Nat)
    (bound : hd.pktNum < 18446744073709551616) {s : Conn}
    (stays : s.server = false → s.state.closed = false) :
    Goes (Reaches sc) (Fails sc) (connRecvHandshakePktHd app pkt hd ts) s := by
  refine .seq ((connCall_still app rfl).does s) fun _ t called => ?_
  have same : t.view = s.view := (connCall_still app rfl s).reached called
  refine .seq (handshakePktAccept_does app pkt hd t) fun accepted u run => ?_
  cases accepted with
  | false => exact .done _
  | true =>
    refine connRecvHandshakePayload_goes app recv pkt ts bound fun type => ?_
    have kept : Does .none _ := handshakePktAccept_does app pkt hd
    have state : u.state = t.state := ((kept t).reached run).steady fun _ => id
    have client : s.server = false :=
      (congrArg View.server same).symm.trans (handshakePktAccept_retry app type run)
    rw [state, SameView.state same]
    exact stays client

theorem connRecvHandshakePkt_goes (pkt : Pkt) (ts : Nat) {s : Conn}
    (stays : s.server = false → s.state.closed = false) :
    Goes (Reaches sc) (Fails sc) (connRecvHandshakePkt app pkt ts) s := by
  refine .got ?_
  split
  · split
    · exact .done _
    · exact connBufferProtectedPkt_does app pkt s
  refine .seqWith (P := fun hd t => t = s ∧ hd.pktNum < 4294967296) ?_ fun hd t decoded => ?_
  · unfold Pkt.decodeHd
    split
    · exact .inr .refl
    case h_2 hd decoded => exact ⟨.refl, rfl, pkt.pktNumOk hd decoded⟩
  obtain ⟨rfl, bound⟩ := decoded
  split
  · exact connRecvPkt_does app recv.all recv.drain pkt ts t
  split
  · exact connRecvHandshakePktHd_goes app recv pkt ts (Nat.zero_lt_succ _) stays
  split
  · exact .done _
  · exact connRecvHandshakePktHd_goes app recv pkt ts (ngtcp2PktAdjustPktNum_lt _ _ bound) stays

omit recv in
theorem processBufferedPkts_does {recv : Pkt → ConnM Unit} (each : ∀ pkt, Does sc (recv pkt))
    (pkts : List Pkt) : Does sc (processBufferedPkts recv pkts) := by
  induction pkts with
  | nil => exact .same fun _ => rfl
  | cons pkt rest ih => exact .bind (each pkt) fun _ => ih

theorem connProcessBufferedProtectedPkt_does (ts : Nat) :
    Does sc (connProcessBufferedProtectedPkt app ts) :=
  .get fun _ => processBufferedPkts_does (fun pkt => connRecvPkt_does app recv.all recv.drain pkt ts) _

theorem connProcessBuffered0rttPkt_goes (ts : Nat) {s : Conn} (server : s.server = true) :
    Goes (Reaches sc) (Fails sc) (connProcessBuffered0rttPkt app ts) s := by
  refine .got ?_
  generalize s.buffedRxPpkts = pkts
  induction pkts generalizing s with
  | nil => exact .modified (.of_same rfl)
  | cons pkt rest ih =>
    have first : Goes (Reaches sc) (Fails sc) (connRecvHandshakePkt app pkt ts) s :=
      connRecvHandshakePkt_goes app recv pkt ts (by simp [server])
    exact .seq first fun _ t run => ih ((first.reached run).server.trans server)

omit recv in
theorem connHandshakeCompleted_does : Does sc (connHandshakeCompleted app) := by
  refine .bind (connCallHandshakeCompleted_does app) fun _ => .get fun c => ?_
  dsimp only
  split
  · refine .bind (connCall_still app rfl).does fun _ => ?_
    split
    · exact (connCall_still app rfl).does
    · exact .pure _
  · split
    · exact (connCall_still app rfl).does
    · exact .pure _

omit recv in
theorem connLeaveHandshake_does {state : ConnState} (enters : sc.become state) :
    Does sc (connLeaveHandshake state) := by
  intro s
  refine .got (.jump (pure ()) ((s.emit (.mark (.handshakeOver s.state.closed))).enter state)
    rfl (.of_move ?_) (.done _))
  rw [Conn.view_enter, Conn.view_emit _ rfl]
  exact .handshakeOver s.view state enters

theorem connRecvInHandshake_goes (pkt : Pkt) {failed : ConnState} (ts : Nat) {s : Conn}
    (stays : s.server = false → s.state.closed = false) (enters : sc.become failed) :
    Goes (Reaches sc) (Fails sc) (connRecvInHandshake app pkt failed ts) s := by
  refine .attempted (connRecvHandshakePkt_goes app recv pkt ts stays) (fun _ t _ => .done _)
    fun e t _ stopped => ?_
  by_cases tls : e = .TLS_HANDSHAKE
  · subst tls
    have reached : Reaches sc s t := stopped.resolve_left (by simp [Err.fatal])
    exact (Does.bind (connLeaveHandshake_does enters) (fun _ => .pure false) t).after reached
  · cases e <;> first | exact stopped | exact absurd rfl tls

theorem connRecvClientWaitHandshake_goes (pkt : Pkt) (ts : Nat) {s : Conn}
    (opened : s.state.closed = false) (failed : sc.become .CLIENT_TLS_HANDSHAKE_FAILED)
    (finished : sc.become .CLIENT_HANDSHAKE_ALMOST_FINISHED) :
    Goes (Reaches sc) (Fails sc) (connRecvClientWaitHandshake app pkt ts) s := by
  refine .seq (connRecvInHandshake_goes app recv pkt ts (fun _ => opened) failed)
    fun goesOn t _ => ?_
  split
  · refine .got ?_
    split
    · exact Does.bind (connHandshakeCompleted_does app) (fun _ =>
        .bind (connLeaveHandshake_does finished) fun _ =>
        connProcessBufferedProtectedPkt_does app recv ts) t
    · exact .done _
  · exact .done _

theorem connRecvServerHandshake_goes (pkt : Pkt) (ts : Nat) {s : Conn}
    (server : s.server = true)
    (failed : sc.become .SERVER_TLS_HANDSHAKE_FAILED) (finished : sc.become .POST_HANDSHAKE) :
    Goes (Reaches sc) (Fails sc) (connRecvServerHandshake app pkt ts) s := by
  have first := connRecvInHandshake_goes app recv pkt ts (s := s) (by simp [server]) failed
  refine .seq first fun goesOn t run => ?_
  split
  · refine .got ?_
    split
    · exact connProcessBuffered0rttPkt_goes app recv ts ((first.reached run).server.trans server)
    split
    · refine Does.bind (connHandshakeCompleted_does app) (fun _ =>
        .bind (connLeaveHandshake_does finished) fun _ => .get fun c => ?_) t
      split
      · exact .throw _
      · exact connProcessBufferedProtectedPkt_does app recv ts
    · exact .done _
  · exact .done _

def recvEnters : ConnState → List ConnState
  | .CLIENT_WAIT_HANDSHAKE =>
    [.DRAINING, .CLIENT_INITIAL, .CLIENT_TLS_HANDSHAKE_FAILED, .CLIENT_HANDSHAKE_ALMOST_FINISHED]
  | .SERVER_INITIAL | .SERVER_WAIT_HANDSHAKE =>
    [.DRAINING, .CLIENT_INITIAL, .SERVER_TLS_HANDSHAKE_FAILED, .POST_HANDSHAKE]
  | .CLIENT_TLS_HANDSHAKE_FAILED | .SERVER_TLS_HANDSHAKE_FAILED => [.DRAINING, .CLIENT_INITIAL]
  | .CLIENT_HANDSHAKE_ALMOST_FINISHED | .POST_HANDSHAKE => [.DRAINING]
  | .CLIENT_INITIAL | .CLOSING | .DRAINING => []

def Conn.Role (c : Conn) : Prop :=
  c.state = .SERVER_INITIAL ∨ c.state = .SERVER_WAIT_HANDSHAKE → c.server = true

omit recv in
theorem ngtcp2ConnRecv_goes (all : ∀ id, sc.rx id ∧ sc.shut id) (send : sc.send) (pkt : Option Pkt)
    (ts : Nat) {s : Conn} (role : s.Role) (enters : ∀ state ∈ recvEnters s.state, sc.become state) :
    Goes (Reaches sc) (Fails sc) (ngtcp2ConnRecv app pkt ts) s := by
  cases pkt with
  | none => exact .failed _
  | some pkt =>
    have recv : .CLIENT_INITIAL ∈ recvEnters s.state → .DRAINING ∈ recvEnters s.state → Receives sc :=
      fun retry drain => ⟨all, send, enters _ drain, enters _ retry⟩
    refine .got ?_
    cases state : s.state <;> rw [state] at enters recv <;> dsimp only
    case CLIENT_WAIT_HANDSHAKE =>
      exact connRecvClientWaitHandshake_goes app (recv (by decide) (by decide)) pkt ts
        (by rw [state]; rfl) (enters _ (by decide)) (enters _ (by decide))
    case SERVER_INITIAL =>
      exact connRecvServerHandshake_goes app (recv (by decide) (by decide)) pkt ts (role (.inl state))
        (enters _ (by decide)) (enters _ (by decide))
    case SERVER_WAIT_HANDSHAKE =>
      exact connRecvServerHandshake_goes app (recv (by decide) (by decide)) pkt ts (role (.inr state))
        (enters _ (by decide)) (enters _ (by decide))
    case CLIENT_TLS_HANDSHAKE_FAILED =>
      exact connRecvHandshakePkt_goes app (recv (by decide) (by decide)) pkt ts
        fun _ => by rw [state]; rfl
    case SERVER_TLS_HANDSHAKE_FAILED =>
      exact connRecvHandshakePkt_goes app (recv (by decide) (by decide)) pkt ts
        fun _ => by rw [state]; rfl
    case CLIENT_HANDSHAKE_ALMOST_FINISHED =>
      exact connRecvPkt_does app all (enters _ (by decide)) pkt ts s
    case POST_HANDSHAKE => exact connRecvPkt_does app all (enters _ (by decide)) pkt ts s
    all_goals exact .done _

end Ngtcp2
