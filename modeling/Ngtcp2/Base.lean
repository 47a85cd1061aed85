import Mathlib.Data.Nat.Basic

namespace Ngtcp2

def uint64Max : Nat := 18446744073709551615

def add64 (a b : Nat) : Nat := (a + b) % 18446744073709551616

def sub64 (a b : Nat) : Nat := (a + (18446744073709551616 - b)) % 18446744073709551616

theorem add64_eq {a b : Nat} (h : a + b < 18446744073709551616) : add64 a b = a + b :=
  Nat.mod_eq_of_lt h

theorem add64_lt (a b : Nat) : add64 a b < 18446744073709551616 :=
  Nat.mod_lt _ (by decide)

theorem sub64_eq {a b : Nat} (h : b ≤ a) (bound : a < 18446744073709551616) :
    sub64 a b = a - b := by
  unfold sub64
  omega

theorem sub64_lt (a b : Nat) : sub64 a b < 18446744073709551616 :=
  Nat.mod_lt _ (by decide)

def maxVarint : Nat := 4611686018427387903
def ngtcp2NoError : Nat := 0
def ngtcp2Stopping : Nat := 0
def tlsHandshakeFailed : Nat := 513
def maxAckBlks : Nat := 255
def streamOverhead : Nat := 15
def longHeaderlen : Nat := 17
def initialExpiry : Nat := 1000000
def pktDeadlinePeriod : Nat := 5000000
def delayedAckTimeout : Nat := 25000
def maxNumBuffedRxPpkts : Nat := 16
def strm0MaxStreamData : Nat := 65535
def handshakeAeadOverhead : Nat := 16
def acktrMaxEnt : Nat := 1024
def ringbufAcks : Nat := 128

/-- Library error codes. `ABORT` stands for a failed `assert` or a null dereference: the process
is gone, so no caller of the library ever sees it as a return value. -/
inductive Err where
  | INVALID_ARGUMENT | UNKNOWN_PKT_TYPE | NOBUF | PROTO | INVALID_STATE | ACK_FRAME
  | STREAM_ID_BLOCKED | STREAM_IN_USE | STREAM_DATA_BLOCKED | FLOW_CONTROL | PKT_TIMEOUT
  | STREAM_ID | FINAL_OFFSET | TLS_HANDSHAKE | PKT_NUM_EXHAUSTED | REQUIRED_TRANSPORT_PARAM
  | MALFORMED_TRANSPORT_PARAM | FRAME_FORMAT | TLS_DECRYPT | STREAM_SHUT_WR | STREAM_NOT_FOUND | VERSION_NEGOTIATION
  | TLS_FATAL_ALERT_GENERATED | TLS_FATAL_ALERT_RECEIVED | STREAM_STATE | NOKEY
  | EARLY_DATA_REJECTED | NOMEM | CALLBACK_FAILURE | ABORT
  deriving DecidableEq, Repr

/-- The codes below `NGTCP2_ERR_FATAL`, after which the connection has to be given up. -/
def Err.fatal : Err → Bool
  | .NOMEM | .CALLBACK_FAILURE | .ABORT => true
  | _ => false

/-- The return value that stands for a code. An abort has none; it is put below all others. -/
def Err.code : Err → Int
  | .INVALID_ARGUMENT => -201
  | .UNKNOWN_PKT_TYPE => -202
  | .NOBUF => -203
  | .PROTO => -205
  | .INVALID_STATE => -206
  | .ACK_FRAME => -207
  | .STREAM_ID_BLOCKED => -208
  | .STREAM_IN_USE => -209
  | .STREAM_DATA_BLOCKED => -210
  | .FLOW_CONTROL => -211
  | .PKT_TIMEOUT => -212
  | .STREAM_ID => -213
  | .FINAL_OFFSET => -214
  | .TLS_HANDSHAKE => -215
  | .PKT_NUM_EXHAUSTED => -216
  | .REQUIRED_TRANSPORT_PARAM => -217
  | .MALFORMED_TRANSPORT_PARAM => -218
  | .FRAME_FORMAT => -219
  | .TLS_DECRYPT => -220
  | .STREAM_SHUT_WR => -221
  | .STREAM_NOT_FOUND => -222
  | .VERSION_NEGOTIATION => -223
  | .TLS_FATAL_ALERT_GENERATED => -224
  | .TLS_FATAL_ALERT_RECEIVED => -225
  | .STREAM_STATE => -226
  | .NOKEY => -227
  | .EARLY_DATA_REJECTED => -228
  | .NOMEM => -501
  | .CALLBACK_FAILURE => -502
  | .ABORT => -1000

/-- The source compares in this direction, although fatal codes are the smaller ones. -/
def ngtcp2ErrFatal (e : Err) : Bool := decide (e.code ≥ -500)

inductive PktType where
  | VERSION_NEGOTIATION | INITIAL | RETRY | HANDSHAKE | ZERO_RTT_PROTECTED | PKT_01 | PKT_02 | PKT_03
  deriving DecidableEq, Repr

structure PktHd where
  longForm : Bool
  omitConnId : Bool
  type : PktType
  connId : Nat
  pktNum : Nat
  version : Nat
  deriving DecidableEq, Repr

structure StreamFrame where
  fin : Bool
  streamId : Nat
  offset : Nat
  data : List UInt8
  deriving DecidableEq, Repr

def StreamFrame.datalen (fr : StreamFrame) : Nat := fr.data.length

def StreamFrame.endOffset (fr : StreamFrame) : Nat := fr.offset + fr.datalen

structure AckBlk where
  gap : Nat
  blklen : Nat
  deriving DecidableEq, Repr

structure Ack where
  largestAck : Nat
  ackDelay : Nat
  firstAckBlklen : Nat
  blks : List AckBlk
  deriving DecidableEq, Repr

structure RstStream where
  streamId : Nat
  appErrorCode : Nat
  finalOffset : Nat
  deriving DecidableEq, Repr

structure StopSending where
  streamId : Nat
  appErrorCode : Nat
  deriving DecidableEq, Repr

structure MaxStreamData where
  streamId : Nat
  maxStreamData : Nat
  deriving DecidableEq, Repr

inductive Frame where
  | stream (fr : StreamFrame)
  | ack (fr : Ack)
  | padding (len : Nat)
  | rstStream (fr : RstStream)
  | connectionClose (errorCode : Nat) (reason : List UInt8)
  | applicationClose (appErrorCode : Nat) (reason : List UInt8)
  | maxData (maxData : Nat)
  | maxStreamData (fr : MaxStreamData)
  | maxStreamId (maxStreamId : Nat)
  | ping (data : List UInt8)
  | blocked (offset : Nat)
  | streamBlocked (streamId offset : Nat)
  | streamIdBlocked (streamId : Nat)
  | newConnectionId (seq connId : Nat)
  | stopSending (fr : StopSending)
  | pong (data : List UInt8)
  deriving DecidableEq, Repr

def Frame.stream? : Frame → Option StreamFrame
  | .stream fr => some fr
  | _ => none

def varintBound : Nat := 4611686018427387904

/-- What the frame decoder guarantees of the fields it reads: variable-length integers are below
`2^62`, and so is the length of data that lies inside a packet. -/
def StreamFrame.WireOk (fr : StreamFrame) : Prop :=
  fr.streamId < varintBound ∧ fr.offset < varintBound ∧ fr.datalen < varintBound

def Ack.WireOk (fr : Ack) : Prop :=
  fr.largestAck < varintBound ∧ fr.firstAckBlklen < varintBound ∧
    ∀ blk ∈ fr.blks, blk.gap < varintBound ∧ blk.blklen < varintBound

def Frame.WireOk : Frame → Prop
  | .stream fr => fr.WireOk
  | .ack fr => fr.WireOk
  | .rstStream fr => fr.streamId < varintBound ∧ fr.finalOffset < varintBound
  | .stopSending fr => fr.streamId < varintBound
  | .maxData n => n < varintBound
  | .maxStreamData fr => fr.streamId < varintBound ∧ fr.maxStreamData < varintBound
  | .maxStreamId n => n < varintBound
  | _ => True

instance (fr : StreamFrame) : Decidable fr.WireOk := inferInstanceAs (Decidable (_ ∧ _ ∧ _))

instance (fr : Ack) : Decidable fr.WireOk := inferInstanceAs (Decidable (_ ∧ _ ∧ _))

instance (fr : Frame) : Decidable fr.WireOk := by
  cases fr <;> unfold Frame.WireOk <;> infer_instance

inductive ConnState where
  | CLIENT_INITIAL | CLIENT_WAIT_HANDSHAKE | CLIENT_HANDSHAKE_ALMOST_FINISHED
  | CLIENT_TLS_HANDSHAKE_FAILED | SERVER_INITIAL | SERVER_WAIT_HANDSHAKE
  | SERVER_TLS_HANDSHAKE_FAILED | POST_HANDSHAKE | CLOSING | DRAINING
  deriving DecidableEq, Repr

/-- Nothing is received any more. -/
def ConnState.closed (state : ConnState) : Bool := state == .CLOSING || state == .DRAINING

structure CryptoKm where
  key : List UInt8
  iv : List UInt8
  deriving DecidableEq, Repr

/-- Points of the code that statements about whole runs put a condition on, each with the values it
works on. -/
inductive Mark where
  /-- `conn->max_tx_offset` is assigned while `tx_offset` bytes have been sent. -/
  | maxTxOffset (limit txOffset : Nat)
  /-- `strm0->max_tx_offset` is assigned while `tx_offset` bytes have been sent. -/
  | strm0MaxTxOffset (limit txOffset : Nat)
  /-- A handshake packet takes stream 0 up to an offset, whatever its limit is. -/
  | handshakeBytes (endOffset limit : Nat)
  /-- `conn->last_tx_pkt_num` is overwritten so that the next packet gets this number. -/
  | initialPktNum (pktNum : Nat)
  /-- The frames of an entry are divided between it and a new one. -/
  | splitEntry
  /-- An entry goes back into the retransmission buffer unsent, before the entry `head`. -/
  | readdEntry (pktNum : Nat) (head : Option Nat)
  /-- An entry of 0-RTT data moves into the retransmission buffer, before the entry `head`, with or
  without 1-RTT keys. -/
  | earlyEntry (pktNum : Nat) (head : Option Nat) (keyed : Bool)
  /-- A Retry packet starts the connection over, with or without 1-RTT keys and 0-RTT data that
  waits for the end of the handshake. -/
  | retry (keyed early : Bool)
  /-- An ACK frame for unprotected packets is asked for while these packets are tracked. -/
  | unprotectedAck (tracked : List Nat)
  /-- A handshake packet is given up after its ACK frame was committed. -/
  | abandonedPkt
  /-- A stream object goes into `conn->strms`, where its id is present already or not. -/
  | mapInsert (streamId : Nat) (present : Bool)
  /-- A stream is removed, reset locally or not, while its RST_STREAM frame waits in the queue or
  not. -/
  | closeStream (streamId : Nat) (sentRst rstQueued : Bool)
  /-- Data or a reset takes the receive side of a stream up to an offset. -/
  | claim (streamId offset : Nat)
  /-- A STREAM frame is refused after it has been counted or recorded. -/
  | refused (streamId : Nat)
  /-- Bytes of stream 0 are about to be handed on, while its window is at most a full one beyond them
  or not. -/
  | credit (within : Bool)
  /-- The window of stream 0 is about to grow by bytes that were handed on, up to the largest offset at
  most or beyond it. -/
  | creditFits (fits : Bool)
  /-- Bytes of stream 0 were handed on, and its window is not credited for it. -/
  | uncredited
  /-- The window of stream 0 is extended by other means than the credit for bytes that were handed on. -/
  | extendStream0
  /-- A stream of the peer is closed, while the start of the window of its kind is behind the first id
  that has not been opened or not. -/
  | idWindow (behind : Bool)
  /-- A RST_STREAM frame ends the receive side of a stream that waits for a MAX_STREAM_DATA frame or
  does not. -/
  | rstListed (listed : Bool)
  /-- A Retry packet replaces stream 0, which waits for a MAX_STREAM_DATA frame or does not. -/
  | retryListed (listed : Bool)
  /-- An ACK frame of the peer covers an entry of the retransmission buffer. -/
  | ackedEntry (pktNum : Nat) (frames : List Frame)
  /-- The TLS handshake has succeeded or failed, and the state is about to be assigned for it, while
  the connection is closed already or not. -/
  | handshakeOver (closed : Bool)
  /-- `conn->state` is assigned. -/
  | state (state : ConnState)
  deriving DecidableEq, Repr

/-- What a connection does: callbacks, packets handed to encryption with the frames they carry,
received packets that are scheduled for acknowledgement, and marks. -/
inductive Event where
  | sendPkt (hd : PktHd)
  | sendFrame (hd : PktHd) (fr : Frame)
  | encrypt (ckm : CryptoKm) (pktNum : Nat) (frames : List Frame)
  | recvPkt (hd : PktHd)
  | recvFrame (hd : PktHd) (fr : Frame)
  | recvStreamData (streamId : Nat) (fin : Bool) (data : List UInt8)
  | recvStream0Data (data : List UInt8)
  | streamClose (streamId appErrorCode : Nat)
  | ackedStreamDataOffset (streamId offset datalen : Nat)
  | extendMaxStreamId (maxStreamId : Nat)
  | handshakeCompleted
  | sendClientInitial
  | sendClientHandshake
  | sendServerHandshake
  | recvClientInitial (connId : Nat)
  | recvVersionNegotiation (hd : PktHd) (sv : Option (List Nat)) (nsv : Nat)
  | recvServerStatelessRetry
  | recvStatelessReset (hd : PktHd)
  | schedAck (pktNum : Nat) (activeAck unprotected : Bool) (ts : Nat)
  | mark (m : Mark)
  deriving DecidableEq, Repr

end Ngtcp2
