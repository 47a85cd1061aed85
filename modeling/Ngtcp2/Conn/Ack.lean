import Ngtcp2.Conn.Ppe
import Ngtcp2.Conn.State

namespace Ngtcp2

/-- The variables of the loop in `conn_create_ack_frame`. -/
structure AckScan where
  firstPktNum : Nat
  lastPktNum : Nat
  initial : Bool
  firstAckBlklen : Nat
  gap : Nat
  blks : List AckBlk
  deriving DecidableEq, Repr

def AckScan.start (pktNum : Nat) : AckScan :=
  { firstPktNum := pktNum, lastPktNum := pktNum, initial := true, firstAckBlklen := 0, gap := 0,
    blks := [] }

/-- The run of packet numbers that has come to its end becomes a block of the frame. -/
def AckScan.endRun (scan : AckScan) : AckScan :=
  if scan.initial then
    { scan with initial := false, firstAckBlklen := sub64 scan.firstPktNum scan.lastPktNum }
  else
    { scan with
      blks := scan.blks ++
        [{ gap := scan.gap, blklen := sub64 scan.firstPktNum scan.lastPktNum }] }

/-- The entries that are left when the loop ends are those from the one at `prpkt` on. -/
def ackScan (unprotected : Bool) : List AcktrEntry → AckScan → AckScan × List AcktrEntry
  | [], scan => (scan, [])
  | e :: rest, scan =>
    if unprotected && !e.unprotected then ackScan unprotected rest scan
    else if add64 e.pktNum 1 = scan.lastPktNum then
      ackScan unprotected rest { scan with lastPktNum := e.pktNum }
    else
      let ended := scan.endRun
      let scan :=
        { ended with
          gap := sub64 ended.lastPktNum (add64 e.pktNum 2)
          firstPktNum := e.pktNum
          lastPktNum := e.pktNum }
      if scan.blks.length = maxAckBlks then (scan, e :: rest)
      else ackScan unprotected rest scan

def ackOfScan (largestAck ackDelay : Nat) (scan : AckScan) : Ack :=
  { largestAck := largestAck, ackDelay := ackDelay, firstAckBlklen := scan.endRun.firstAckBlklen,
    blks := scan.endRun.blks }

/-- How often `conn_ensure_ack_blks` doubles the space for 8 blocks until `n` fit. -/
def ackBlksReallocs (n : Nat) : Nat := (List.range 64).countP fun k => decide (8 * 2 ^ k < n)

section

variable (app : App)

def mallocs : Nat → ConnM Unit
  | 0 => pure ()
  | n + 1 => do
    let _ ← malloc app
    mallocs n

/-- `ngtcp2_acktr_forget` for the entries that did not fit into a frame. -/
def connForgetAck (left : List AcktrEntry) : ConnM Unit :=
  if left = [] then pure ()
  else
    modify fun c =>
      { c with acktr := ngtcp2AcktrForget c.acktr (c.acktr.ent.length - left.length) }

/-- The frame for the tracked packets, if there is one to report. -/
def connCollectAck (ts : Nat) (unprotected : Bool) : ConnM (Option Ack) := do
  let c ← get
  match c.acktr.ent.dropWhile fun e => unprotected && !e.unprotected with
  | [] => do
    connInvalidateNextAckExpiry
    pure none
  | e :: rest => do
    let (scan, left) := ackScan unprotected rest (AckScan.start e.pktNum)
    let ackDelay := sub64 ts e.tstamp / 2 ^ c.localSettings.ackDelayExponent
    let ack := ackOfScan e.pktNum ackDelay scan
    mallocs app (1 + ackBlksReallocs ack.blks.length)
    connForgetAck left
    pure (some ack)

def markUnprotectedAck (unprotected : Bool) : ConnM Unit := do
  let c ← get
  if unprotected then connMark (.unprotectedAck (c.acktr.ent.map AcktrEntry.pktNum))

def connCreateAckFrame (ts : Nat) (unprotected : Bool) : ConnM (Option Ack) := do
  let c ← get
  if !c.acktr.activeAck then do
    connInvalidateNextAckExpiry
    pure none
  else do
    markUnprotectedAck unprotected
    connCollectAck app ts unprotected

def connCommitTxAck : ConnM Unit := do
  connInvalidateNextAckExpiry
  modify fun c => { c with acktr := { c.acktr with activeAck := false } }

def connAddAck (pktNum : Nat) (ack : Ack) (unprotected : Bool) : ConnM Unit :=
  modify fun c => { c with acktr := ngtcp2AcktrAddAck c.acktr pktNum ack unprotected }

/-- The timer is started for the first packet that asks for an ACK. -/
def connArmAck (ts : Nat) : ConnM Unit := do
  let c ← get
  if !c.immediateAck && c.nextAckExpiry == 0 && c.acktr.activeAck then connSetNextAckExpiry ts

def ngtcp2ConnSchedAck (pktNum : Nat) (activeAck : Bool) (ts : Nat) (unprotected : Bool) :
    ConnM Unit := do
  let _ ← malloc app
  let c ← get
  let acktr ← Prog.ofExcept
    (ngtcp2AcktrAdd c.acktr { pktNum := pktNum, tstamp := ts, unprotected := unprotected } activeAck)
  modify fun c => { c with acktr := acktr }
  emitEvent (.schedAck pktNum activeAck unprotected ts)
  connArmAck ts

/-- The packet number has its nonce from here on. -/
def ngtcp2PpeFinal (ppe : Ppe) : ConnM Nat := do
  match ppe.ckm with
  | none => throw .ABORT
  | some ckm => do
    let c ← get
    emitEvent (.encrypt ckm ppe.pktNum ppe.frames)
    match app.encrypt c.log (ppe.len - ppe.hdlen) with
    | none => throw .CALLBACK_FAILURE
    | some n => pure (ppe.hdlen + n)

def connPpeWriteFrame (ppe : Ppe) (sendPktCbCalled : Bool) (hd : PktHd) (fr : Frame) :
    ConnM Ppe := do
  let ppe ← Prog.ofExcept (ngtcp2PpeEncodeFrame ppe fr)
  if !sendPktCbCalled then connCall app (.sendPkt hd)
  connCall app (.sendFrame hd fr)
  pure ppe

end

def connSelectPktType (c : Conn) (pktNum : Nat) : PktType :=
  let n := sub64 pktNum c.rtb.largestAcked
  if uint64Max / 2 ≤ pktNum then .PKT_03
  else
    let n := add64 (add64 n n) 1
    if n > 65535 then .PKT_03
    else if n > 255 then .PKT_02
    else .PKT_01

def connLongHd (c : Conn) (type : PktType) : PktHd :=
  { longForm := true, omitConnId := false, type := type, connId := c.connId,
    pktNum := add64 c.lastTxPktNum 1, version := c.version }

def connShortHd (c : Conn) : PktHd :=
  { longForm := false, omitConnId := false,
    type := connSelectPktType c (add64 c.lastTxPktNum 1), connId := c.connId,
    pktNum := add64 c.lastTxPktNum 1, version := c.version }

/-- `++conn->last_tx_pkt_num`. -/
def incLastTxPktNum : ConnM Unit :=
  modify fun c => { c with lastTxPktNum := add64 c.lastTxPktNum 1 }

end Ngtcp2
