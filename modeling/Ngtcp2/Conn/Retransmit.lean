import Ngtcp2.Conn.Ack

namespace Ngtcp2

/-- A mark that names the packet number at the head of the retransmission buffer. -/
def connMarkEntry (m : Option Nat → Mark) : ConnM Unit := do
  let c ← get
  connMark (m (c.rtb.head.head?.map fun ent => ent.hd.pktNum))

section

variable (app : App)

/-- `ngtcp2_rtb_add`, which allocates when the array of the queue is full. -/
def connRtbAdd (ent : RtbEntry) : ConnM Unit := do
  let c ← get
  if pqFull c.rtb.pq then
    let _ ← malloc app
  modify fun c => { c with rtb := ngtcp2RtbAdd c.rtb ent }

def connRtbEntryNew (hd : PktHd) (frc : List Frame) (ts deadline pktlen : Nat)
    (unprotected : Bool) : ConnM RtbEntry := do
  let addr ← malloc app
  pure (ngtcp2RtbEntryNew addr hd frc ts deadline pktlen unprotected)

/-- The frames at the head of a chain that fit the packet, and those left. -/
def writeFrames (hd : PktHd) : List Frame → Ppe → Bool → ConnM (List Frame × List Frame × Ppe)
  | [], ppe, _ => pure ([], [], ppe)
  | fr :: rest, ppe, called => do
    match ← Prog.attempt (connPpeWriteFrame app ppe called hd fr) with
    | .ok ppe => do
      let (written, left, ppe) ← writeFrames hd rest ppe true
      pure (fr :: written, left, ppe)
    | .error .NOBUF => pure ([], fr :: rest, ppe)
    | .error e => throw e

/-- The entry that tracks the frames of a partial retransmission. -/
def connSplitEntry (ent : RtbEntry) (hd : PktHd) (written left : List Frame) (nwrite ts : Nat)
    (unprotected : Bool) : ConnM RtbEntry := do
  connMark .splitEntry
  let nent ← connRtbEntryNew app hd [] ts ent.deadline nwrite unprotected
  let nent := ngtcp2RtbEntryExtendExpiry { nent with count := ent.count } ts
  connRtbAdd app { nent with frc := written }
  pure { ent with frc := left }

def retransmitPadding (hd : PktHd) (ppe : Ppe) : ConnM Ppe :=
  if hd.type = .INITIAL then do
    let (len, ppe) ← Prog.ofExcept (ngtcp2PpePadding ppe)
    connCall app (.sendFrame hd (.padding len))
    pure ppe
  else pure ppe

/-- The result is `none` for `NGTCP2_ERR_NOBUF`, where the caller goes on with the entry. -/
def connRetransmitUnprotected (destlen : Nat) (ent : RtbEntry) (ts : Nat) :
    ConnM (Option Nat × RtbEntry) := do
  let c ← get
  let hd : PktHd :=
    { ent.hd with version := c.version, connId := c.connId, pktNum := add64 c.lastTxPktNum 1 }
  match ngtcp2PpeEncodeHd (ngtcp2PpeInit destlen handshakeAeadOverhead c.hsTxCkm) hd with
  | .error .NOBUF => pure (none, ent)
  | .error e => throw e
  | .ok ppe => do
    let (written, left, ppe) ← writeFrames app hd ent.frc ppe false
    if written = [] then
      if left = [] then pure (some 0, ent) else pure (none, ent)
    else if left = [] then do
      let ent := ngtcp2RtbEntryExtendExpiry { ent with hd := hd } ts
      let ppe ← retransmitPadding app hd ppe
      incLastTxPktNum
      let nwrite ← ngtcp2PpeFinal app ppe
      pure (some nwrite, ent)
    else do
      let nwrite ← ngtcp2PpeFinal app ppe
      let ent ← connSplitEntry app ent hd written left nwrite ts true
      incLastTxPktNum
      pure (some nwrite, ent)

/-- The frames that `conn_retransmit_protected` drops instead of sending them again. -/
def obsoleteFrame (c : Conn) : Frame → Bool
  | .stream fr =>
    match c.strms fr.streamId with
    | none => true
    | some strm => strm.sentRst
  | .stopSending fr =>
    match c.strms fr.streamId with
    | none => true
    | some strm => strm.shutRd
  | .maxStreamId maxStreamId =>
    if bidiStream maxStreamId then decide (maxStreamId < c.maxRemoteStreamIdBidi)
    else decide (maxStreamId < c.maxRemoteStreamIdUni)
  | .maxStreamData fr =>
    match c.strms fr.streamId with
    | none => true
    | some strm => decide (fr.maxStreamData < strm.maxRxOffset)
  | .maxData maxData => decide (maxData < c.maxRxOffset)
  | _ => false

def Frame.isStopSending : Frame → Bool
  | .stopSending _ => true
  | _ => false

/-- The loop over the chain. `unchecked` is the round after a STOP_SENDING frame was dropped: the
source falls through to the write there, so that the next frame goes out whatever it is and a
missing one is dereferenced. -/
def retransmitFrames (hd : PktHd) (unchecked : Bool) :
    List Frame → Ppe → Bool → ConnM (List Frame × List Frame × Ppe)
  | [], ppe, _ => if unchecked then throw .ABORT else pure ([], [], ppe)
  | fr :: rest, ppe, called => do
    let c ← get
    if !unchecked && obsoleteFrame c fr then
      retransmitFrames hd fr.isStopSending rest ppe called
    else
      match ← Prog.attempt (connPpeWriteFrame app ppe called hd fr) with
      | .ok ppe => do
        let (written, left, ppe) ← retransmitFrames hd false rest ppe true
        pure (fr :: written, left, ppe)
      | .error .NOBUF => pure ([], fr :: rest, ppe)
      | .error e => throw e

/-- ACK is added last so that no packet with an ACK frame alone is sent here. -/
def retransmitAck (ackExpired : Bool) (hd : PktHd) (ppe : Ppe) (ts : Nat) : ConnM Ppe := do
  if ackExpired then
    match ← connCreateAckFrame app ts false with
    | none => pure ppe
    | some ack => do
      match ← Prog.attempt (connPpeWriteFrame app ppe true hd (.ack ack)) with
      | .ok ppe => do
        connCommitTxAck
        connAddAck hd.pktNum ack false
        pure ppe
      | .error .NOBUF => pure ppe
      | .error e => throw e
  else pure ppe

def connRetransmitProtected (destlen : Nat) (ent : RtbEntry) (ts : Nat) :
    ConnM (Option Nat × RtbEntry) := do
  let c ← get
  let ackExpired := connNextAckExpired c ts
  let hd : PktHd :=
    { ent.hd with
      version := c.version
      connId := c.connId
      pktNum := add64 c.lastTxPktNum 1
      type := connSelectPktType c (add64 c.lastTxPktNum 1) }
  match ngtcp2PpeEncodeHd (ngtcp2PpeInit destlen c.aeadOverhead c.txCkm) hd with
  | .error .NOBUF => pure (none, ent)
  | .error e => throw e
  | .ok ppe => do
    let (written, left, ppe) ← retransmitFrames app hd false ent.frc ppe false
    if written = [] then
      if left = [] then pure (some 0, { ent with frc := [] })
      else pure (none, { ent with frc := left })
    else do
      let ppe ← retransmitAck app ackExpired hd ppe ts
      let nwrite ← ngtcp2PpeFinal app ppe
      if left = [] then do
        incLastTxPktNum
        pure (some nwrite, ngtcp2RtbEntryExtendExpiry { ent with hd := hd, frc := written } ts)
      else do
        let ent ← connSplitEntry app ent hd written left nwrite ts false
        incLastTxPktNum
        pure (some nwrite, ent)

/-- The packet types that `conn_retransmit` sends again. -/
def connRetransmitEntry (destlen : Nat) (ent : RtbEntry) (ts : Nat) :
    ConnM (Option Nat × RtbEntry) := do
  let c ← get
  if ent.hd.longForm then
    match ent.hd.type with
    | .INITIAL | .HANDSHAKE =>
      if c.recvProtectedPkt then pure (some 0, ent)
      else connRetransmitUnprotected app destlen ent ts
    | _ => throw .INVALID_ARGUMENT
  else
    match ent.hd.type with
    | .PKT_01 | .PKT_02 | .PKT_03 => connRetransmitProtected app destlen ent ts
    | _ => throw .INVALID_ARGUMENT

/-- Putting a popped entry back. The caller's assertion on the error code is wrong way round. -/
def connRtbReadd (ent : RtbEntry) : ConnM Unit := do
  match ← Prog.attempt (connRtbAdd app ent) with
  | .ok () => pure ()
  | .error e => if ngtcp2ErrFatal e then throw e else throw .ABORT

/-- A round that goes on has dropped an entry, so that their number bounds the rounds. -/
def connRetransmitLoop (destlen ts : Nat) : Nat → ConnM Nat
  | 0 => pure 0
  | rounds + 1 => do
    let c ← get
    match ngtcp2RtbTop c.rtb with
    | none => pure 0
    | some ent =>
      if ent.expiry > ts then pure 0
      else do
        let rtb ← Prog.ofExcept (ngtcp2RtbPop c.rtb)
        modify fun c => { c with rtb := rtb }
        if ent.deadline ≤ ts then throw .PKT_TIMEOUT
        else do
          match ← connRetransmitEntry app destlen ent ts with
          | (none, ent) => do
            connMarkEntry (.readdEntry ent.hd.pktNum)
            connRtbReadd app ent
            throw .NOBUF
          | (some nwrite, ent) =>
            if nwrite = 0 then connRetransmitLoop destlen ts rounds
            else if ent.frc = [] then pure nwrite
            else do
              connRtbReadd app { ent with pktlen := nwrite }
              pure nwrite

def connRetransmit (destlen ts : Nat) : ConnM Nat := do
  let c ← get
  connRetransmitLoop app destlen ts (c.rtb.pq.q.size + 1)

end

end Ngtcp2
