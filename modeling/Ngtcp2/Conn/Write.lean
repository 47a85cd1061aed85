import Ngtcp2.Conn.Retransmit
import Ngtcp2.Conn.Streams

namespace Ngtcp2

section

variable (app : App)

/-- The result tells whether an ACK frame was committed. -/
def handshakePktAck (hd : PktHd) (ppe : Ppe) (ts : Nat) : ConnM (Bool × Ppe) := do
  match ← connCreateAckFrame app ts true with
  | none => pure (false, ppe)
  | some ack => do
    let ppe ← Prog.ofExcept (ngtcp2PpeEncodeFrame ppe (.ack ack))
    connCall app (.sendFrame hd (.ack ack))
    connCommitTxAck
    connAddAck hd.pktNum ack true
    pure (true, ppe)

/-- The STREAM frame of a handshake packet takes `nwrite` bytes off stream 0's buffer. -/
def handshakePktStream (hd : PktHd) (ppe : Ppe) (nwrite : Nat) : ConnM (List Frame × Ppe) := do
  if nwrite > 0 then do
    let _ ← malloc app
    let strm0 ← getStrm 0
    let fr : Frame := .stream
      { fin := false, streamId := 0, offset := strm0.txOffset, data := strm0.txBuf.take nwrite }
    let ppe ← Prog.ofExcept (ngtcp2PpeEncodeFrame ppe fr)
    connCall app (.sendFrame hd fr)
    connMark (.handshakeBytes (strm0.txOffset + nwrite) strm0.maxTxOffset)
    modifyStrm 0 fun strm0 =>
      { strm0 with
        txBuf := strm0.txBuf.drop nwrite
        txOffset := add64 strm0.txOffset nwrite }
    pure ([fr], ppe)
  else pure ([], ppe)

def callPadding (hd : PktHd) (len : Nat) : ConnM Unit :=
  if len > 0 then connCall app (.sendFrame hd (.padding len)) else pure ()

/-- The padding of an Initial packet, or the CONNECTION_CLOSE frame after a failed handshake. -/
def handshakePktTail (hd : PktHd) (ppe : Ppe) : ConnM (List Frame × Ppe) := do
  let c ← get
  if hd.type = .INITIAL then do
    let (len, ppe) ← Prog.ofExcept (ngtcp2PpePadding ppe)
    callPadding app hd len
    pure ([], ppe)
  else if c.state = .CLIENT_TLS_HANDSHAKE_FAILED ∨ c.state = .SERVER_TLS_HANDSHAKE_FAILED then do
    let _ ← malloc app
    let fr : Frame := .connectionClose tlsHandshakeFailed []
    let ppe ← Prog.ofExcept (ngtcp2PpeEncodeFrame ppe fr)
    connCall app (.sendFrame hd fr)
    pure ([fr], ppe)
  else pure ([], ppe)

/-- A handshake packet is tracked if it carries frames that have to arrive. -/
def handshakePktTrack (hd : PktHd) (frc : List Frame) (ts spktlen : Nat) : ConnM Unit :=
  if frc ≠ [] then do
    let ent ← connRtbEntryNew app hd frc ts (add64 ts pktDeadlinePeriod) spktlen true
    connRtbAdd app ent
  else pure ()

/-- The part of `conn_write_handshake_pkt` after the ACK frame. -/
def handshakePktRest (hd : PktHd) (ppe : Ppe) (ts : Nat) : ConnM Nat := do
  let strm0 ← getStrm 0
  let nwrite := min strm0.txBuf.length (sub64 (ngtcp2PpeLeft ppe) streamOverhead)
  if nwrite ≠ strm0.txBuf.length ∧ hd.type = .INITIAL then throw .NOBUF
  else do
    let (frc, ppe) ← handshakePktStream app hd ppe nwrite
    let (frc', ppe) ← handshakePktTail app hd ppe
    let spktlen ← ngtcp2PpeFinal app ppe
    handshakePktTrack app hd (frc ++ frc') ts spktlen
    incLastTxPktNum
    pure spktlen

/-- A failure of `m` is marked. -/
def markFailure {α : Type} (mark : Mark) (m : ConnM α) : ConnM α := do
  match ← Prog.attempt m with
  | .ok a => pure a
  | .error e => do
    connMark mark
    throw e

def connWriteHandshakePkt (destlen : Nat) (type : PktType) (ts : Nat) : ConnM Nat := do
  let c ← get
  let ackExpired := connNextAckExpired c ts
  let hd := connLongHd c type
  let ppe ← Prog.ofExcept
    (ngtcp2PpeEncodeHd (ngtcp2PpeInit destlen handshakeAeadOverhead c.hsTxCkm) hd)
  connCall app (.sendPkt hd)
  if type ≠ .INITIAL ∧ ackExpired then do
    let (acked, ppe) ← handshakePktAck app hd ppe ts
    if ngtcp2PpeLeft ppe < streamOverhead + 1 then do
      incLastTxPktNum
      ngtcp2PpeFinal app ppe
    else if acked then markFailure .abandonedPkt (handshakePktRest app hd ppe ts)
    else handshakePktRest app hd ppe ts
  else handshakePktRest app hd ppe ts

def connWriteHandshakeAckPkt (destlen : Nat) (type : PktType) (ts : Nat) : ConnM Nat := do
  let c ← get
  if !connNextAckExpired c ts then pure 0
  else
    match ← connCreateAckFrame app ts true with
    | none => pure 0
    | some ack => do
      let c ← get
      let hd := connLongHd c type
      let ppe ← Prog.ofExcept
        (ngtcp2PpeEncodeHd (ngtcp2PpeInit destlen handshakeAeadOverhead c.hsTxCkm) hd)
      connCall app (.sendPkt hd)
      let ppe ← Prog.ofExcept (ngtcp2PpeEncodeFrame ppe (.ack ack))
      connCall app (.sendFrame hd (.ack ack))
      connCommitTxAck
      connAddAck hd.pktNum ack true
      incLastTxPktNum
      ngtcp2PpeFinal app ppe

def connQueueMaxData (ackfr : Option Ack) : ConnM Unit := do
  let c ← get
  if (ackfr.isSome || !c.frq.isEmpty || connShouldSendMaxData c) &&
      decide (c.unsentMaxRxOffset > c.maxRxOffset) then do
    connPushFrq app (.maxData c.unsentMaxRxOffset)
    modify fun c => { c with maxRxOffset := c.unsentMaxRxOffset }

/-- A listed stream that is gone, or whose place another object has taken, is a dangling pointer. -/
def connQueueMaxStreamData : List Nat → ConnM Unit
  | [] => pure ()
  | streamId :: rest => do
    let strm ← getStrm streamId
    if !strm.fcPprev then throw .ABORT
    else do
      connPushFrq app
        (.maxStreamData { streamId := streamId, maxStreamData := strm.unsentMaxRxOffset })
      modifyStrm streamId fun strm =>
        { strm with maxRxOffset := strm.unsentMaxRxOffset, fcPprev := false }
      modify fun c => { c with fcStrms := rest }
      connQueueMaxStreamData rest

/-- The queued frames that `conn_write_pkt` drops. -/
def droppedFrame (c : Conn) : Frame → Bool
  | .rstStream fr => (c.strms fr.streamId).isNone && fr.appErrorCode != ngtcp2Stopping
  | .stopSending fr =>
    match c.strms fr.streamId with
    | none => true
    | some strm => strm.shutRd
  | _ => false

/-- The loop over `conn->frq`. The source asserts that a failed write lacks space. -/
def frqFrames (hd : PktHd) : List Frame → Ppe → Bool → ConnM (List Frame × List Frame × Ppe)
  | [], ppe, _ => pure ([], [], ppe)
  | fr :: rest, ppe, called => do
    let c ← get
    if droppedFrame c fr then frqFrames hd rest ppe called
    else
      match ← Prog.attempt (connPpeWriteFrame app ppe called hd fr) with
      | .ok ppe => do
        let (written, left, ppe) ← frqFrames hd rest ppe true
        pure (fr :: written, left, ppe)
      | .error .NOBUF => pure ([], fr :: rest, ppe)
      | .error _ => throw .ABORT

def unsentMaxRemoteStreamId (c : Conn) (bidi : Bool) : Nat :=
  if bidi then c.unsentMaxRemoteStreamIdBidi else c.unsentMaxRemoteStreamIdUni

def maxRemoteStreamId (c : Conn) (bidi : Bool) : Nat :=
  if bidi then c.maxRemoteStreamIdBidi else c.maxRemoteStreamIdUni

/-- The limit is raised, and the frame that tells the peer is the last one of the queue. -/
def queueMaxStreamId (bidi : Bool) (n : Nat) (c : Conn) : Conn :=
  { c with
    frq := c.frq ++ [.maxStreamId n]
    maxRemoteStreamIdBidi := if bidi then n else c.maxRemoteStreamIdBidi
    maxRemoteStreamIdUni := if bidi then c.maxRemoteStreamIdUni else n }

/-- A MAX_STREAM_ID frame goes behind the queued frames when all of them are written. -/
def maxStreamIdFrame (hd : PktHd) (bidi : Bool) (written left : List Frame) (ppe : Ppe)
    (called : Bool) : ConnM (List Frame × List Frame × Ppe) := do
  let c ← get
  let unsent := unsentMaxRemoteStreamId c bidi
  if left = [] ∧ unsent > maxRemoteStreamId c bidi then do
    let _ ← malloc app
    modify (queueMaxStreamId bidi unsent)
    match ← Prog.attempt (connPpeWriteFrame app ppe called hd (.maxStreamId unsent)) with
    | .ok ppe => pure (written ++ [.maxStreamId unsent], [], ppe)
    | .error .NOBUF => pure (written, [.maxStreamId unsent], ppe)
    | .error _ => throw .ABORT
  else pure (written, left, ppe)

def writePktAck (hd : PktHd) (ppe : Ppe) (ackfr : Option Ack) : ConnM Ppe :=
  match ackfr with
  | none => pure ppe
  | some ack => do
    let ppe ← connPpeWriteFrame app ppe false hd (.ack ack)
    connCommitTxAck
    connAddAck hd.pktNum ack false
    pure ppe

def setFrq (frq : List Frame) : ConnM Unit := modify fun c => { c with frq := frq }

/-- The written frames move from `conn->frq` to an entry. -/
def writePktTrack (hd : PktHd) (written left : List Frame) (ts pktlen : Nat) : ConnM Unit :=
  if written ≠ [] then do
    let ent ← connRtbEntryNew app hd written ts (add64 ts pktDeadlinePeriod) pktlen false
    setFrq left
    connRtbAdd app ent
  else pure ()

/-- The part of `conn_write_pkt` behind the decision to send. -/
def connWritePktFrames (destlen ts : Nat) (ackfr : Option Ack) : ConnM Nat := do
  let c ← get
  let hd := connShortHd c
  let ppe ← Prog.ofExcept
    (ngtcp2PpeEncodeHd (ngtcp2PpeInit destlen c.aeadOverhead c.txCkm) hd)
  let ppe ← writePktAck app hd ppe ackfr
  let c ← get
  let (written, left, ppe) ← frqFrames app hd c.frq ppe ackfr.isSome
  setFrq (written ++ left)
  let (written, left, ppe) ←
    maxStreamIdFrame app hd true written left ppe (ackfr.isSome || !written.isEmpty)
  let (written, left, ppe) ←
    maxStreamIdFrame app hd false written left ppe (ackfr.isSome || !written.isEmpty)
  if ackfr.isNone && written.isEmpty then
    if left = [] then pure 0 else throw .NOBUF
  else do
    let nwrite ← ngtcp2PpeFinal app ppe
    writePktTrack app hd written left ts nwrite
    incLastTxPktNum
    pure nwrite

def connCreateDueAck (ts : Nat) : ConnM (Option Ack) := do
  let c ← get
  if connNextAckExpired c ts then connCreateAckFrame app ts false else pure none

def connWritePkt (destlen ts : Nat) : ConnM Nat := do
  let ackfr ← connCreateDueAck app ts
  connQueueMaxData app ackfr
  let c ← get
  connQueueMaxStreamData app c.fcStrms
  let c ← get
  if ackfr.isNone && c.unsentMaxRemoteStreamIdBidi == c.maxRemoteStreamIdBidi &&
      c.unsentMaxRemoteStreamIdUni == c.maxRemoteStreamIdUni && c.frq.isEmpty then pure 0
  else connWritePktFrames app destlen ts ackfr

def connWriteSingleFramePkt (destlen : Nat) (fr : Frame) : ConnM Nat := do
  let c ← get
  let hd := connShortHd c
  let ppe ← Prog.ofExcept
    (ngtcp2PpeEncodeHd (ngtcp2PpeInit destlen c.aeadOverhead c.txCkm) hd)
  connCall app (.sendPkt hd)
  let ppe ← Prog.ofExcept (ngtcp2PpeEncodeFrame ppe fr)
  connCall app (.sendFrame hd fr)
  let nwrite ← ngtcp2PpeFinal app ppe
  match fr with
  | .ack ack => connAddAck hd.pktNum ack false
  | _ => pure ()
  incLastTxPktNum
  pure nwrite

def connWriteProtectedAckPkt (destlen ts : Nat) : ConnM Nat := do
  let c ← get
  if !connNextAckExpired c ts then pure 0
  else
    match ← connCreateAckFrame app ts false with
    | none => pure 0
    | some ack => do
      let spktlen ← connWriteSingleFramePkt app destlen (.ack ack)
      connCommitTxAck
      pure spktlen

end

end Ngtcp2
