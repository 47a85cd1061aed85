import Ngtcp2.Conn.RecvFrame
import Ngtcp2.Conn.WriteApi

namespace Ngtcp2

def validateAckBlks : Nat → List AckBlk → Bool
  | _, [] => true
  | largestAck, blk :: rest =>
    if largestAck < add64 blk.gap 2 then false
    else if largestAck - add64 blk.gap 2 < blk.blklen then false
    else validateAckBlks (largestAck - add64 blk.gap 2 - blk.blklen) rest

def ngtcp2PktValidateAck (fr : Ack) : Bool :=
  if fr.largestAck < fr.firstAckBlklen then false
  else validateAckBlks (fr.largestAck - fr.firstAckBlklen) fr.blks

/-- `1llu << n` is at most `2^32` here. -/
def ngtcp2PktAdjustPktNum (maxPktNum pktNum n : Nat) : Nat :=
  let k := if maxPktNum = uint64Max then maxPktNum else maxPktNum + 1
  let u := (k - k % 2 ^ n) % 18446744073709551616
  let a := u ||| pktNum
  let b := add64 u (2 ^ n) ||| pktNum
  let a1 := if k < a then a - k else k - a
  let b1 := if k < b then b - k else k - b
  if a1 < b1 then a else b

section

variable (app : App)

/-- The frame is known to be acknowledged; stream data in order is reported. -/
def ackStreamFrame (fr : StreamFrame) : ConnM Unit := do
  match ← ngtcp2ConnFindStream fr.streamId with
  | none => pure ()
  | some strm => do
    let prevStreamOffset := ngtcp2GaptrFirstGapOffset strm.ackedTxOffset
    let acked := ngtcp2GaptrPush strm.ackedTxOffset fr.offset fr.datalen
    modifyStrm fr.streamId fun strm => { strm with ackedTxOffset := acked }
    let datalen := sub64 (ngtcp2GaptrFirstGapOffset acked) prevStreamOffset
    if datalen = 0 ∧ ¬ fr.fin then pure ()
    else do
      connCall app (.ackedStreamDataOffset fr.streamId prevStreamOffset datalen)
      ngtcp2ConnCloseStreamIfShutRdwr app fr.streamId ngtcp2NoError

def callAckedStreamOffset : List Frame → ConnM Unit
  | [] => pure ()
  | .stream fr :: rest => do
    ackStreamFrame app fr
    callAckedStreamOffset rest
  | _ :: rest => callAckedStreamOffset rest

/-- The frames are reported if the application wants to know. -/
def rtbAckFrames (frc : List Frame) : ConnM Unit := do
  let c ← get
  if c.ackedStreamDataOffset then callAckedStreamOffset app frc else pure ()

/-- An acknowledged entry leaves the retransmission buffer. -/
def rtbAckEntry (ent : RtbEntry) : ConnM Unit := do
  connMark (.ackedEntry ent.hd.pktNum ent.frc)
  rtbAckFrames app ent.frc
  let c ← get
  let rtb ← Prog.ofExcept
    (rtbRemove { c.rtb with largestAcked := max c.rtb.largestAcked ent.hd.pktNum } ent)
  modify fun c => { c with rtb := rtb }

/-- The entries of the first block. What is returned is the list from `*pent` on. -/
def rtbAckFirst (largestAck minAck : Nat) (unprotected : Bool) :
    List RtbEntry → ConnM (List RtbEntry)
  | [] => pure []
  | ent :: rest => do
    if minAck ≤ ent.hd.pktNum ∧ ent.hd.pktNum ≤ largestAck then
      if unprotected && !ent.unprotected then rtbAckFirst largestAck minAck unprotected rest
      else do
        rtbAckEntry app ent
        rtbAckFirst largestAck minAck unprotected rest
    else pure (ent :: rest)

def rtbAckBlk (largestAck minAck : Nat) (unprotected : Bool) :
    List RtbEntry → ConnM (List RtbEntry)
  | [] => pure []
  | ent :: rest => do
    if ent.hd.pktNum > largestAck then rtbAckBlk largestAck minAck unprotected rest
    else if ent.hd.pktNum < minAck then pure (ent :: rest)
    else if unprotected && !ent.unprotected then rtbAckBlk largestAck minAck unprotected rest
    else do
      rtbAckEntry app ent
      rtbAckBlk largestAck minAck unprotected rest

def rtbAckBlks (minAck : Nat) (unprotected : Bool) : List AckBlk → List RtbEntry → ConnM Unit
  | [], _ => pure ()
  | blk :: blks, ents =>
    if ents = [] then pure ()
    else do
      let largestAck := sub64 minAck (add64 blk.gap 2)
      let minAck := sub64 largestAck blk.blklen
      let ents ← rtbAckBlk app largestAck minAck unprotected ents
      rtbAckBlks minAck unprotected blks ents

def ngtcp2RtbRecvAck (fr : Ack) (unprotected : Bool) : ConnM Unit := do
  let c ← get
  let ents := c.rtb.head.dropWhile fun ent => decide (fr.largestAck < ent.hd.pktNum)
  if ents = [] then pure ()
  else do
    let minAck := sub64 fr.largestAck fr.firstAckBlklen
    let ents ← rtbAckFirst app fr.largestAck minAck unprotected ents
    rtbAckBlks app minAck unprotected fr.blks ents

def connRecvAck (fr : Ack) (unprotected : Bool) : ConnM Unit := do
  if !ngtcp2PktValidateAck fr then throw .ACK_FRAME
  else do
    modify fun c => { c with acktr := ngtcp2AcktrRecvAck c.acktr fr unprotected }
    ngtcp2RtbRecvAck app fr unprotected

def connRecvConnectionClose : ConnM Unit := setState .DRAINING

def connBufferProtectedPkt (pkt : Pkt) : ConnM Unit := do
  let c ← get
  if c.buffedRxPpkts.length ≥ maxNumBuffedRxPpkts then pure ()
  else do
    let _ ← malloc app
    modify fun c => { c with buffedRxPpkts := c.buffedRxPpkts ++ [pkt] }

/-- Decrypting without a key dereferences a null pointer. -/
def connDecryptPkt (pkt : Pkt) (ckm : Option CryptoKm) (pktNum : Nat) :
    ConnM (List Frame × Bool) := do
  match ckm with
  | none => throw .ABORT
  | some ckm =>
    match pkt.payload ckm pktNum with
    | .frames frs malformed => pure (frs, malformed)
    | .tlsDecrypt => throw .TLS_DECRYPT
    | .failure => throw .CALLBACK_FAILURE

/-- The frame loops end with an error when bytes are left that are no frame. -/
def endOfFrames (malformed : Bool) : ConnM Unit :=
  if malformed then throw .FRAME_FORMAT else pure ()

def connSetMaxRxPktNum (pktNum : Nat) : ConnM Unit :=
  modify fun c => { c with maxRxPktNum := max c.maxRxPktNum pktNum }

/-- One frame of a handshake packet that arrives late. The result is whether it asks for an ACK. -/
def delayedHandshakeFrame (hd : PktHd) (fr : Frame) : ConnM Bool := do
  connCall app (.recvFrame hd fr)
  match fr with
  | .ack fr =>
    if hd.type = .INITIAL then throw .PROTO
    else do
      connRecvAck app fr true
      pure false
  | .padding _ => pure false
  | .stream fr => do
    connRecvStream app fr
    pure true
  | _ => throw .PROTO

/-- A frame loop. The result is whether some frame asks for an ACK. -/
def frameLoop (handle : Frame → ConnM Bool) : List Frame → Bool → ConnM Bool
  | [], requireAck => pure requireAck
  | fr :: rest, requireAck => do
    let ack ← handle fr
    frameLoop handle rest (requireAck || ack)

def connRecvDelayedHandshakePkt (pkt : Pkt) (hd : PktHd) (ts : Nat) : ConnM Unit := do
  let c ← get
  if hd.type = .INITIAL ∧ (!c.server ∨ c.clientConnId ≠ hd.connId) then pure ()
  else if hd.type ≠ .INITIAL ∧ c.connId ≠ hd.connId then pure ()
  else do
    let (frs, malformed) ← connDecryptPkt pkt c.hsRxCkm hd.pktNum
    let requireAck ← frameLoop (delayedHandshakeFrame app hd) frs false
    endOfFrames malformed
    connSetMaxRxPktNum hd.pktNum
    ngtcp2ConnSchedAck app hd.pktNum requireAck ts true

def connOnStatelessReset (pkt : Pkt) (hd : PktHd) : ConnM Unit := do
  let c ← get
  match pkt.resetToken with
  | none => throw .INVALID_ARGUMENT
  | some token =>
    let expected :=
      if c.server then c.localSettings.statelessResetToken else c.remoteSettings.statelessResetToken
    if token ≠ expected then throw .INVALID_ARGUMENT
    else do
      setState .DRAINING
      connCall app (.recvStatelessReset hd)

def recvFrame : Frame → ConnM Unit
  | .ack fr => connRecvAck app fr false
  | .stream fr => connRecvStream app fr
  | .rstStream fr => connRecvRstStream app fr
  | .stopSending fr => connRecvStopSending app fr
  | .maxStreamData fr => connRecvMaxStreamData app fr
  | .maxData maxData => connRecvMaxData maxData
  | .maxStreamId maxStreamId => connRecvMaxStreamId app maxStreamId
  | .ping data => connRecvPing app data
  | .pong data => connRecvPong data
  | .connectionClose _ _ | .applicationClose _ _ => connRecvConnectionClose
  | .padding _ | .blocked _ | .streamBlocked _ _ | .streamIdBlocked _ | .newConnectionId _ _ => pure ()

/-- Whether a frame of a protected packet asks for an ACK. -/
def Frame.requireAck : Frame → Bool
  | .ack _ | .padding _ | .connectionClose _ _ => false
  | _ => true

/-- The handshake stream has no place in a 0-RTT packet. -/
def Frame.isStream0 : Frame → Bool
  | .stream fr => fr.streamId == 0
  | _ => false

/-- One frame of a protected packet. The result is whether it asks for an ACK. -/
def protectedFrame (hd : PktHd) (fr : Frame) : ConnM Bool := do
  connCall app (.recvFrame hd fr)
  if hd.longForm && fr.isStream0 then throw .PROTO
  else do
    recvFrame app fr
    pure fr.requireAck

def pktNumBits (hd : PktHd) : Nat :=
  if hd.longForm then 32
  else
    match hd.type with
    | .PKT_01 => 8
    | .PKT_02 => 16
    | _ => 32

def connRecvProtectedFrames (hd : PktHd) (frs : List Frame) (malformed : Bool) (ts : Nat) :
    ConnM Unit := do
  let requireAck ← frameLoop (protectedFrame app hd) frs false
  endOfFrames malformed
  connSetMaxRxPktNum hd.pktNum
  ngtcp2ConnSchedAck app hd.pktNum requireAck ts false

/-- The payload of a protected packet, or what a failure to decrypt it means. -/
def connRecvProtected (pkt : Pkt) (hd : PktHd) (ckm : Option CryptoKm) (ts : Nat) : ConnM Unit := do
  match ← Prog.attempt (connDecryptPkt pkt ckm hd.pktNum) with
  | .error e =>
    if e ≠ .TLS_DECRYPT ∨ hd.longForm then throw e
    else
      match ← Prog.attempt (connOnStatelessReset app pkt hd) with
      | .ok () => pure ()
      | .error _ => throw e
  | .ok (frs, malformed) => do
    modify fun c => { c with recvProtectedPkt := c.recvProtectedPkt || !hd.longForm }
    let c ← get
    if !hd.longForm && !hd.omitConnId && c.connId != hd.connId then pure ()
    else connRecvProtectedFrames app hd frs malformed ts

/-- `conn_recv_pkt` behind the decoding of the header. -/
def connRecvPktHd (pkt : Pkt) (hd : PktHd) (ts : Nat) : ConnM Unit := do
  let c ← get
  let hd := { hd with pktNum := ngtcp2PktAdjustPktNum c.maxRxPktNum hd.pktNum (pktNumBits hd) }
  connCall app (.recvPkt hd)
  if hd.longForm then
    match hd.type with
    | .INITIAL | .HANDSHAKE => connRecvDelayedHandshakePkt app pkt hd ts
    | .ZERO_RTT_PROTECTED =>
      if !c.server || c.clientConnId != hd.connId || c.version != hd.version then pure ()
      else if c.earlyCkm.isNone then pure ()
      else connRecvProtected app pkt hd c.earlyCkm ts
    | _ => pure ()
  else connRecvProtected app pkt hd c.rxCkm ts

def connRecvPkt (pkt : Pkt) (ts : Nat) : ConnM Unit := do
  let c ← get
  let hd ← Prog.ofExcept pkt.decodeHd
  if pkt.longForm then
    if hd.version = 0 then
      if c.server || c.clientConnId != hd.connId then pure ()
      else connCall app (.recvPkt { hd with type := .VERSION_NEGOTIATION, pktNum := 0 })
    else if c.version ≠ hd.version then pure ()
    else connRecvPktHd app pkt hd ts
  else if !c.localSettings.omitConnectionId && hd.omitConnId then throw .PROTO
  else connRecvPktHd app pkt hd ts

/-- The callback is given `sv` even where the versions were decoded into another buffer. -/
def connOnVersionNegotiation (pkt : Pkt) (hd : PktHd) : ConnM Unit := do
  match pkt.versions with
  | none => throw .PROTO
  | some versions =>
    if versions.length > 16 then do
      let _ ← malloc app
      connCall app (.recvVersionNegotiation hd none versions.length)
    else connCall app (.recvVersionNegotiation hd (some versions) versions.length)

def connRecvServerStatelessRetry : ConnM Unit := do
  modify fun c => { c with statelessRetry := true }
  connCall app .recvServerStatelessRetry
  let _ ← malloc app
  let c ← get
  connMark (.retryListed (decide (0 ∈ c.fcStrms)))
  connMark (.retry c.txCkm.isSome (!c.earlyRtb.isEmpty))
  modify fun c =>
    { c with
      lastTxPktNum := 0
      maxRxPktNum := 0
      rtb := ngtcp2RtbInit
      acktr := ngtcp2AcktrInit
      strms := Function.update c.strms 0
        (some (ngtcp2StrmInit 0 false false c.localSettings.maxStreamData.toNat strm0MaxStreamData))
      connIdNegotiated := false }
  setState .CLIENT_INITIAL

/-- What the roles make of a handshake packet's type before it is decrypted. `true` goes on. -/
def handshakePktAccept (pkt : Pkt) (hd : PktHd) : ConnM Bool := do
  let c ← get
  if c.server then
    match hd.type with
    | .INITIAL => do
      if !c.connIdNegotiated then do
        modify fun c => { c with connIdNegotiated := true, clientConnId := hd.connId }
        connCallRecvClientInitial app
      pure true
    | .HANDSHAKE => pure (c.connId == hd.connId)
    | .ZERO_RTT_PROTECTED => do
      if !c.connIdNegotiated then connBufferProtectedPkt app pkt
      pure false
    | _ => throw .PROTO
  else
    match hd.type with
    | .HANDSHAKE =>
      if c.connIdNegotiated then pure (c.connId == hd.connId)
      else do
        modify fun c => { c with connIdNegotiated := true, connId := hd.connId }
        pure true
    | .RETRY => do
      let strm0 ← getStrm 0
      if strm0.lastRxOffset ≠ 0 then throw .PROTO
      else pure (c.connId == hd.connId)
    | .VERSION_NEGOTIATION =>
      if c.clientConnId ≠ hd.connId then pure false
      else do
        connOnVersionNegotiation app pkt hd
        throw .VERSION_NEGOTIATION
    | _ => throw .PROTO

/-- Bytes of stream 0 that are next in order. The result is whether the TLS handshake failed. -/
def handshakeDeliver (fr : StreamFrame) (failed : Bool) : ConnM Bool := do
  let strm0 ← getStrm 0
  let rxOffset := ngtcp2StrmRxOffset strm0
  let data := fr.data.drop (rxOffset - fr.offset)
  let rxOffset := rxOffset + data.length
  connMark (.credit strm0.credited)
  connRemovePrefix 0 rxOffset
  match ← Prog.attempt (connCallRecvStream0Data app data) with
  | .ok () => do
    connCreditStrm0 data.length
    if !failed then connEmitPendingStream0Data app (emitRounds strm0) rxOffset
    pure failed
  | .error .TLS_HANDSHAKE => do
    connCreditStrm0 data.length
    pure true
  | .error e => throw e

/-- A STREAM frame of a handshake packet. Once the handshake has failed nothing more is buffered,
but bytes in order still reach the TLS stack. -/
def handshakeStream (hd : PktHd) (fr : StreamFrame) (failed : Bool) : ConnM Bool := do
  if fr.streamId ≠ 0 then pure failed
  else if fr.datalen = 0 then throw .FRAME_FORMAT
  else if hd.type = .INITIAL ∧ fr.offset ≠ 0 then throw .PROTO
  else if fr.fin then throw .PROTO
  else do
    let strm0 ← getStrm 0
    if ngtcp2StrmRxOffset strm0 ≥ fr.endOffset then pure failed
    else
      let record (strm0 : Strm) : Strm :=
        { strm0 with lastRxOffset := max strm0.lastRxOffset fr.endOffset }
      if strm0.maxRxOffset < fr.endOffset then do
        modifyStrm 0 record
        connRefuse 0 .FLOW_CONTROL
      else do
        connClaim 0 fr.endOffset record
        if fr.offset ≤ ngtcp2StrmRxOffset strm0 then handshakeDeliver app fr failed
        else do
          if !failed then modifyStrm 0 fun strm0 => ngtcp2StrmRecvReordering strm0 fr
          pure failed

/-- One frame of a handshake packet. The state of the loop is `require_ack` and
`handshake_failed`. -/
def handshakeFrame (hd : PktHd) (fr : Frame) (loop : Bool × Bool) : ConnM (Bool × Bool) := do
  connCall app (.recvFrame hd fr)
  match fr with
  | .ack fr =>
    if hd.type = .INITIAL ∨ hd.type = .RETRY then throw .PROTO
    else do
      connRecvAck app fr true
      pure loop
  | .padding _ => if hd.type = .RETRY then throw .PROTO else pure loop
  | .stream fr => do
    let failed ← handshakeStream app hd fr loop.2
    pure (true, failed)
  | .connectionClose _ _ =>
    if hd.type = .HANDSHAKE then do
      connRecvConnectionClose
      pure (true, loop.2)
    else throw .PROTO
  | _ => throw .PROTO

def handshakeFrames (hd : PktHd) : List Frame → Bool × Bool → ConnM (Bool × Bool)
  | [], loop => pure loop
  | fr :: rest, loop => do
    let loop ← handshakeFrame app hd fr loop
    handshakeFrames hd rest loop

/-- `conn_recv_handshake_pkt` from the decryption on. -/
def connRecvHandshakePayload (pkt : Pkt) (hd : PktHd) (ts : Nat) : ConnM Unit := do
  let c ← get
  let (frs, malformed) ← connDecryptPkt pkt c.hsRxCkm hd.pktNum
  let (requireAck, failed) ← handshakeFrames app hd frs (false, false)
  endOfFrames malformed
  let strm0 ← getStrm 0
  if (hd.type = .INITIAL ∨ hd.type = .RETRY) ∧ ngtcp2RobFirstGapOffset strm0.rob = 0 then
    throw .PROTO
  else do
    connSetMaxRxPktNum hd.pktNum
    if hd.type = .RETRY then
      if failed then throw .PROTO else connRecvServerStatelessRetry app
    else do
      ngtcp2ConnSchedAck app hd.pktNum requireAck ts true
      if failed then throw .TLS_HANDSHAKE else pure ()

/-- `conn_recv_handshake_pkt` behind the decoding of the header. -/
def connRecvHandshakePktHd (pkt : Pkt) (hd : PktHd) (ts : Nat) : ConnM Unit := do
  connCall app (.recvPkt hd)
  if ← handshakePktAccept app pkt hd then connRecvHandshakePayload app pkt hd ts

def connRecvHandshakePkt (pkt : Pkt) (ts : Nat) : ConnM Unit := do
  let c ← get
  if !pkt.longForm then
    if c.state = .SERVER_INITIAL then pure () else connBufferProtectedPkt app pkt
  else do
    let hd ← Prog.ofExcept pkt.decodeHd
    if c.server && c.earlyCkm.isSome && c.clientConnId == hd.connId &&
        hd.type == .ZERO_RTT_PROTECTED then connRecvPkt app pkt ts
    else if hd.version = 0 then
      connRecvHandshakePktHd app pkt { hd with type := .VERSION_NEGOTIATION, pktNum := 0 } ts
    else if c.version ≠ hd.version then pure ()
    else
      connRecvHandshakePktHd app pkt
        { hd with pktNum := ngtcp2PktAdjustPktNum c.maxRxPktNum hd.pktNum 32 } ts

/-- The buffered packets are deleted only after all of them have been processed. -/
def processBufferedPkts (recv : Pkt → ConnM Unit) : List Pkt → ConnM Unit
  | [] => modify fun c => { c with buffedRxPpkts := [] }
  | pkt :: rest => do
    recv pkt
    processBufferedPkts recv rest

def connProcessBufferedProtectedPkt (ts : Nat) : ConnM Unit := do
  let c ← get
  processBufferedPkts (fun pkt => connRecvPkt app pkt ts) c.buffedRxPpkts

def connProcessBuffered0rttPkt (ts : Nat) : ConnM Unit := do
  let c ← get
  processBufferedPkts (fun pkt => connRecvHandshakePkt app pkt ts) c.buffedRxPpkts

def connHandshakeCompleted : ConnM Unit := do
  connCallHandshakeCompleted app
  let c ← get
  if c.maxLocalStreamIdBidi > 0 then connCall app (.extendMaxStreamId c.maxLocalStreamIdBidi)
  if c.maxLocalStreamIdUni > 0 then connCall app (.extendMaxStreamId c.maxLocalStreamIdUni)

/-- The end of the handshake, whatever the packet has made of the state. -/
def connLeaveHandshake (state : ConnState) : ConnM Unit := do
  let c ← get
  connMark (.handshakeOver c.state.closed)
  setState state

/-- A handshake packet in a state where a TLS failure changes the state. `false` ends the call. -/
def connRecvInHandshake (pkt : Pkt) (failed : ConnState) (ts : Nat) : ConnM Bool := do
  match ← Prog.attempt (connRecvHandshakePkt app pkt ts) with
  | .ok () => pure true
  | .error .TLS_HANDSHAKE => do
    connLeaveHandshake failed
    pure false
  | .error e => throw e

def connRecvClientWaitHandshake (pkt : Pkt) (ts : Nat) : ConnM Unit := do
  if ← connRecvInHandshake app pkt .CLIENT_TLS_HANDSHAKE_FAILED ts then do
    let c ← get
    if c.handshakeCompleted then do
      connHandshakeCompleted app
      connLeaveHandshake .CLIENT_HANDSHAKE_ALMOST_FINISHED
      connProcessBufferedProtectedPkt app ts

def connRecvServerHandshake (pkt : Pkt) (ts : Nat) : ConnM Unit := do
  if ← connRecvInHandshake app pkt .SERVER_TLS_HANDSHAKE_FAILED ts then do
    let c ← get
    if c.state = .SERVER_INITIAL ∧ c.connIdNegotiated then connProcessBuffered0rttPkt app ts
    else if c.handshakeCompleted then do
      connHandshakeCompleted app
      connLeaveHandshake .POST_HANDSHAKE
      let c ← get
      if !c.transportParamRecved then throw .REQUIRED_TRANSPORT_PARAM
      else connProcessBufferedProtectedPkt app ts

/-- An empty datagram is `none`. -/
def ngtcp2ConnRecv (pkt : Option Pkt) (ts : Nat) : ConnM Unit := do
  match pkt with
  | none => throw .INVALID_ARGUMENT
  | some pkt => do
    let c ← get
    match c.state with
    | .CLIENT_WAIT_HANDSHAKE => connRecvClientWaitHandshake app pkt ts
    | .SERVER_INITIAL | .SERVER_WAIT_HANDSHAKE => connRecvServerHandshake app pkt ts
    | .CLIENT_TLS_HANDSHAKE_FAILED | .SERVER_TLS_HANDSHAKE_FAILED => connRecvHandshakePkt app pkt ts
    | .CLIENT_HANDSHAKE_ALMOST_FINISHED | .POST_HANDSHAKE => connRecvPkt app pkt ts
    | .CLIENT_INITIAL | .CLOSING | .DRAINING => pure ()

end

def ngtcp2ConnEarliestExpiry (c : Conn) : Nat :=
  match ngtcp2RtbTop c.rtb with
  | none => c.nextAckExpiry
  | some ent => if c.nextAckExpiry > 0 then min c.nextAckExpiry ent.expiry else ent.expiry

end Ngtcp2
