import Ngtcp2.Conn.Tls
import Ngtcp2.Conn.Write

namespace Ngtcp2

section

variable (app : App)

def setTxBuf (data : List UInt8) : ConnM Unit :=
  modifyStrm 0 fun strm0 => { strm0 with txBuf := data }

/-- The first packet of a client starts at a packet number chosen by the application. -/
def connSetClientPktNum (pktNum : Nat) : ConnM Unit := do
  let c ← get
  if !c.statelessRetry then do
    connMark (.initialPktNum pktNum)
    modify fun c => { c with lastTxPktNum := sub64 pktNum 1 }

def connWriteClientInitial (destlen ts : Nat) : ConnM Nat := do
  let (pktNum, data) ← connCallHandshakeData app .sendClientInitial
  if data = [] then throw .CALLBACK_FAILURE
  else do
    setTxBuf data
    connSetClientPktNum pktNum
    connWriteHandshakePkt app destlen .INITIAL ts

def connWriteClientHandshake (destlen ts : Nat) : ConnM Nat := do
  let strm0 ← getStrm 0
  if strm0.txBuf = [] then do
    let (_, data) ← connCallHandshakeData app .sendClientHandshake
    if data = [] then do
      let c ← get
      if c.state = .CLIENT_TLS_HANDSHAKE_FAILED then throw .TLS_HANDSHAKE
      else connWriteHandshakeAckPkt app destlen .HANDSHAKE ts
    else do
      setTxBuf data
      connWriteHandshakePkt app destlen .HANDSHAKE ts
  else connWriteHandshakePkt app destlen .HANDSHAKE ts

/-- The first flight of a server starts at a packet number chosen by the application. -/
def connSetInitialPktNum (initial : Bool) (pktNum : Nat) : ConnM Unit := do
  if initial then do
    connMark (.initialPktNum pktNum)
    modify fun c =>
      { c with
        lastTxPktNum := sub64 pktNum 1
        rtb := { c.rtb with largestAcked := sub64 pktNum 1 } }

/-- With bytes left in the buffer the packet number is the local variable's initial zero. -/
def connWriteServerHandshake (destlen : Nat) (initial : Bool) (ts : Nat) : ConnM Nat := do
  let strm0 ← getStrm 0
  if strm0.txBuf = [] then do
    let (pktNum, data) ← connCallHandshakeData app .sendServerHandshake
    if data = [] then do
      let c ← get
      if initial then throw .CALLBACK_FAILURE
      else if c.state = .SERVER_TLS_HANDSHAKE_FAILED then throw .TLS_HANDSHAKE
      else connWriteHandshakeAckPkt app destlen .HANDSHAKE ts
    else do
      setTxBuf data
      connSetInitialPktNum initial pktNum
      connWriteHandshakePkt app destlen .HANDSHAKE ts
  else do
    connSetInitialPktNum initial 0
    connWriteHandshakePkt app destlen .HANDSHAKE ts

/-- Rejected 0-RTT data is sent again at once. -/
def earlyEntryDue (c : Conn) (ent : RtbEntry) : RtbEntry :=
  if c.earlyDataRejected then { ent with expiry := 0 } else ent

def processEarlyRtb : List RtbEntry → ConnM Unit
  | [] => modify fun c => { c with earlyRtb := [] }
  | ent :: rest => do
    let c ← get
    connMarkEntry fun head => .earlyEntry ent.hd.pktNum head c.txCkm.isSome
    match ← Prog.attempt (connRtbAdd app (earlyEntryDue c ent)) with
    | .ok () => processEarlyRtb rest
    | .error e => do
      modify fun c => { c with earlyRtb := [] }
      throw e

def connProcessEarlyRtb : ConnM Unit := do
  let c ← get
  processEarlyRtb app c.earlyRtb

/-- The last flight of a client ends its handshake. -/
def connFinishClientHandshake (destlen ts : Nat) : ConnM Nat := do
  setState .POST_HANDSHAKE
  let c ← get
  if !c.transportParamRecved then throw .REQUIRED_TRANSPORT_PARAM
  else if c.earlyRtb = [] then pure 0
  else do
    connProcessEarlyRtb app
    connRetransmit app destlen ts

def ngtcp2ConnWritePkt (destlen ts : Nat) : ConnM Nat := do
  let c ← get
  if c.lastTxPktNum = uint64Max then throw .PKT_NUM_EXHAUSTED
  else do
    let nwrite ← connRetransmit app destlen ts
    if nwrite ≠ 0 then pure nwrite
    else do
      let c ← get
      match c.state with
      | .CLIENT_INITIAL => do
        let nwrite ← connWriteClientInitial app destlen ts
        setState .CLIENT_WAIT_HANDSHAKE
        pure nwrite
      | .CLIENT_WAIT_HANDSHAKE => connWriteClientHandshake app destlen ts
      | .CLIENT_HANDSHAKE_ALMOST_FINISHED => do
        let nwrite ← connWriteClientHandshake app destlen ts
        if nwrite ≠ 0 then pure nwrite else connFinishClientHandshake app destlen ts
      | .CLIENT_TLS_HANDSHAKE_FAILED => connWriteClientHandshake app destlen ts
      | .SERVER_INITIAL => do
        let nwrite ← connWriteServerHandshake app destlen true ts
        setState .SERVER_WAIT_HANDSHAKE
        pure nwrite
      | .SERVER_WAIT_HANDSHAKE => connWriteServerHandshake app destlen false ts
      | .SERVER_TLS_HANDSHAKE_FAILED => do
        let strm0 ← getStrm 0
        connWriteServerHandshake app destlen (strm0.txOffset == 0) ts
      | .POST_HANDSHAKE => connWritePkt app destlen ts
      | .CLOSING => pure 0
      | .DRAINING => pure 0

def ngtcp2ConnWriteAckPkt (destlen ts : Nat) : ConnM Nat := do
  let c ← get
  if c.lastTxPktNum = uint64Max then throw .PKT_NUM_EXHAUSTED
  else do
    let nwrite ← connRetransmit app destlen ts
    if nwrite ≠ 0 then pure nwrite
    else do
      let c ← get
      match c.state with
      | .CLIENT_INITIAL | .CLIENT_WAIT_HANDSHAKE | .CLIENT_HANDSHAKE_ALMOST_FINISHED
      | .SERVER_INITIAL | .SERVER_WAIT_HANDSHAKE =>
        connWriteHandshakeAckPkt app destlen .HANDSHAKE ts
      | .POST_HANDSHAKE => connWriteProtectedAckPkt app destlen ts
      | _ => pure 0

/-- The header and key of a stream write: a short packet, or a 0-RTT packet of a client. -/
def writeStreamHd (c : Conn) : Except Err (PktHd × CryptoKm × Bool) :=
  match c.txCkm, c.earlyCkm with
  | some ckm, _ => .ok (connShortHd c, ckm, false)
  | none, some ckm =>
    if c.server then .error .NOKEY
    else if c.earlyDataRejected then .error .EARLY_DATA_REJECTED
    else .ok ({ connLongHd c .ZERO_RTT_PROTECTED with connId := c.clientConnId }, ckm, true)
  | none, none => .error .NOKEY

/-- What flow control and the packet leave of `datalen` bytes. -/
def writeStreamLen (c : Conn) (strm : Strm) (left datalen : Nat) : Nat :=
  min (min (min datalen (left - streamOverhead)) (sub64 strm.maxTxOffset strm.txOffset))
    (sub64 c.maxTxOffset c.txOffset)

/-- The entry of a 0-RTT packet waits for the end of the handshake and then goes out as short. -/
def writeStreamTrack (early : Bool) (ent : RtbEntry) : ConnM Unit :=
  if early then
    modify fun c =>
      { c with
        earlyRtb := c.earlyRtb ++ [{ ent with hd := { ent.hd with longForm := false, type := .PKT_01 } }] }
  else connRtbAdd app ent

/-- The result is the length of the packet and `*pdatalen`. -/
def ngtcp2ConnWriteStream (destlen streamId : Nat) (fin : Bool) (data : List UInt8) (ts : Nat) :
    ConnM (Nat × Nat) := do
  let c ← get
  if c.lastTxPktNum = uint64Max then throw .PKT_NUM_EXHAUSTED
  else
    match c.strms streamId with
    | none => throw .STREAM_NOT_FOUND
    | some strm =>
      if strm.shutWr then throw .STREAM_SHUT_WR
      else do
        let (hd, ckm, early) ← Prog.ofExcept (writeStreamHd c)
        let ppe ← Prog.ofExcept
          (ngtcp2PpeEncodeHd (ngtcp2PpeInit destlen c.aeadOverhead (some ckm)) hd)
        let left := ngtcp2PpeLeft ppe
        let ndatalen := writeStreamLen c strm left data.length
        if left ≤ streamOverhead then throw .NOBUF
        else if data.length > 0 ∧ ndatalen = 0 then throw .STREAM_DATA_BLOCKED
        else do
          let fin := fin && ndatalen == data.length
          let fr : Frame := .stream
            { fin := fin, streamId := streamId, offset := strm.txOffset, data := data.take ndatalen }
          connCall app (.sendPkt hd)
          let _ ← malloc app
          let ppe ← Prog.ofExcept (ngtcp2PpeEncodeFrame ppe fr)
          connCall app (.sendFrame hd fr)
          let nwrite ← ngtcp2PpeFinal app ppe
          let ent ← connRtbEntryNew app hd [fr] ts (add64 ts pktDeadlinePeriod) nwrite false
          writeStreamTrack app early ent
          modifyStrm streamId fun strm =>
            { strm with txOffset := add64 strm.txOffset ndatalen, shutWr := strm.shutWr || fin }
          modify fun c =>
            { c with txOffset := if streamId ≠ 0 then add64 c.txOffset ndatalen else c.txOffset }
          incLastTxPktNum
          pure (nwrite, ndatalen)

def ngtcp2ConnWriteConnectionClose (destlen errorCode : Nat) : ConnM Nat := do
  let c ← get
  if c.lastTxPktNum = uint64Max then throw .PKT_NUM_EXHAUSTED
  else if c.state = .POST_HANDSHAKE then do
    let nwrite ← connWriteSingleFramePkt app destlen (.connectionClose errorCode [])
    if nwrite > 0 then setState .CLOSING
    pure nwrite
  else throw .INVALID_STATE

def ngtcp2ConnWriteApplicationClose (destlen appErrorCode : Nat) : ConnM Nat := do
  let c ← get
  if appErrorCode = ngtcp2Stopping then throw .INVALID_ARGUMENT
  else if c.lastTxPktNum = uint64Max then throw .PKT_NUM_EXHAUSTED
  else if c.state = .POST_HANDSHAKE then do
    let nwrite ← connWriteSingleFramePkt app destlen (.applicationClose appErrorCode [])
    setState .CLOSING
    pure nwrite
  else throw .INVALID_STATE

end

end Ngtcp2
