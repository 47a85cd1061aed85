import Ngtcp2.Lib.Prog
import Ngtcp2.Stream.Idtr
import Ngtcp2.Stream.Strm
import Ngtcp2.Recovery.Acktr
import Ngtcp2.Recovery.Rtb

namespace Ngtcp2

structure Settings where
  maxStreamData : UInt32
  maxData : UInt32
  maxStreamIdBidi : UInt32
  maxStreamIdUni : UInt32
  omitConnectionId : Bool
  statelessResetToken : List UInt8
  ackDelayExponent : Nat
  deriving DecidableEq, Repr

inductive TransportParamsType where
  | CLIENT_HELLO | ENCRYPTED_EXTENSIONS | NEW_SESSION_TICKET
  deriving DecidableEq, Repr

structure TransportParams where
  settings : Settings
  negotiatedVersion : Nat
  supportedVersions : List Nat
  deriving DecidableEq, Repr

/-- What decrypting a payload gives: its frames and whether undecodable bytes follow them. -/
inductive Decrypted where
  | frames (frs : List Frame) (malformed : Bool)
  | tlsDecrypt
  | failure
  deriving DecidableEq, Repr

/-- A received packet: `hd` is the decoded header, `payload` what the decrypt callback makes of the rest under a
key and packet number, `resetToken` the last bytes read as a stateless reset and `versions` the payload read as
a list of versions. -/
structure Pkt where
  hd : Except Err PktHd
  longForm : Bool
  payload : CryptoKm → Nat → Decrypted
  resetToken : Option (List UInt8)
  versions : Option (List Nat)
  pktNumOk : ∀ h, hd = .ok h → h.pktNum < 4294967296
  framesOk : ∀ ckm pktNum frs malformed, payload ckm pktNum = .frames frs malformed →
    ∀ fr ∈ frs, fr.WireOk

def Pkt.decodeHd (pkt : Pkt) : Except Err PktHd :=
  match pkt.hd with
  | .error e => .error e
  | .ok hd => .ok { hd with longForm := pkt.longForm }

/-- `ngtcp2_conn`, with the bits of `flags` as fields. `strm0` is the stream with id 0 of `strms`.
`nalloc` counts allocations and `log` records what the application and the peer can see. -/
structure Conn where
  state : ConnState
  ackedStreamDataOffset : Bool
  strms : Nat → Option Strm
  fcStrms : List Nat
  remoteBidiIdtr : Idtr
  remoteUniIdtr : Idtr
  connId : Nat
  clientConnId : Nat
  lastTxPktNum : Nat
  maxRxPktNum : Nat
  unsentMaxRemoteStreamIdBidi : Nat
  maxRemoteStreamIdBidi : Nat
  remoteStreamIdBidiWindowStart : Nat
  maxLocalStreamIdBidi : Nat
  nextLocalStreamIdBidi : Nat
  unsentMaxRemoteStreamIdUni : Nat
  maxRemoteStreamIdUni : Nat
  remoteStreamIdUniWindowStart : Nat
  maxLocalStreamIdUni : Nat
  nextLocalStreamIdUni : Nat
  unsentMaxRxOffset : Nat
  maxRxOffset : Nat
  rxOffset : Nat
  txOffset : Nat
  maxTxOffset : Nat
  frq : List Frame
  acktr : Acktr
  rtb : Rtb
  earlyRtb : List RtbEntry
  version : Nat
  handshakeCompleted : Bool
  connIdNegotiated : Bool
  transportParamRecved : Bool
  recvProtectedPkt : Bool
  statelessRetry : Bool
  earlyDataRejected : Bool
  server : Bool
  hsTxCkm : Option CryptoKm
  hsRxCkm : Option CryptoKm
  earlyCkm : Option CryptoKm
  txCkm : Option CryptoKm
  rxCkm : Option CryptoKm
  aeadOverhead : Nat
  buffedRxPpkts : List Pkt
  localSettings : Settings
  remoteSettings : Settings
  nextAckExpiry : Nat
  immediateAck : Bool
  nalloc : Nat
  log : List Event

abbrev ConnM := Prog Conn Err

/-- What the TLS stack does to the connection from inside a callback. -/
inductive TlsCall where
  | handshakeCompleted
  | setHandshakeTxKeys (ckm : CryptoKm)
  | setHandshakeRxKeys (ckm : CryptoKm)
  | updateEarlyKeys (ckm : CryptoKm)
  | updateTxKeys (ckm : CryptoKm)
  | updateRxKeys (ckm : CryptoKm)
  | setAeadOverhead (aeadOverhead : Nat)
  | setRemoteTransportParams (exttype : TransportParamsType) (params : TransportParams)
  | setEarlyRemoteTransportParams (params : TransportParams)
  | earlyDataRejected
  deriving DecidableEq, Repr

/-- The application behind the callbacks, and the allocator, during one call of the library. Every
answer may depend on all that the connection has done so far. -/
structure App where
  /-- Whether a callback returns 0. -/
  ok : List Event → Event → Bool
  /-- The code `recv_stream0_data` returns. -/
  recvStream0Data : List Event → Option Err
  /-- The calls a callback of the TLS stack makes before it returns. -/
  tls : List Event → Event → List TlsCall
  /-- The packet number and the data of the next handshake message. -/
  handshakeData : List Event → Event → Option (UInt64 × List UInt8)
  /-- The length of the protected payload. -/
  encrypt : List Event → Nat → Option Nat
  malloc : Nat → Bool

/-- An application whose callbacks all succeed and that has nothing to send. -/
def App.quiet : App where
  ok _ _ := true
  recvStream0Data _ := none
  tls _ _ := []
  handshakeData _ _ := some (0, [])
  encrypt _ payloadlen := some payloadlen
  malloc _ := true

def emitEvent (e : Event) : ConnM Unit :=
  modify fun c => { c with log := c.log ++ [e] }

def connMark (m : Mark) : ConnM Unit := emitEvent (.mark m)

def Conn.enter (c : Conn) (state : ConnState) : Conn :=
  { c with state := state, log := c.log ++ [.mark (.state state)] }

def setState (state : ConnState) : ConnM Unit := modify fun c => c.enter state

section

variable (app : App)

def connCall (e : Event) : ConnM Unit := do
  let c ← get
  emitEvent e
  if app.ok c.log e then pure () else throw .CALLBACK_FAILURE

/-- One allocation. The count of earlier ones stands for the address. -/
def malloc : ConnM Nat := do
  let c ← get
  modify fun c => { c with nalloc := c.nalloc + 1 }
  if app.malloc c.nalloc then pure c.nalloc else throw .NOMEM

end

def modifyStrm (streamId : Nat) (f : Strm → Strm) : ConnM Unit :=
  modify fun c =>
    { c with strms := Function.update c.strms streamId ((c.strms streamId).map f) }

def ngtcp2ConnFindStream (streamId : Nat) : ConnM (Option Strm) := do
  let c ← get
  pure (c.strms streamId)

/-- The stream an earlier lookup has found. -/
def getStrm (streamId : Nat) : ConnM Strm := do
  let c ← get
  match c.strms streamId with
  | some strm => pure strm
  | none => throw .ABORT

def connLocalStream (c : Conn) (streamId : Nat) : Bool :=
  if c.server then streamId % 2 != 0 else streamId % 2 == 0

def bidiStream (streamId : Nat) : Bool := streamId / 2 % 2 == 0

def connSetNextAckExpiry (ts : Nat) : ConnM Unit :=
  modify fun c => { c with nextAckExpiry := add64 ts delayedAckTimeout, immediateAck := false }

def connInvalidateNextAckExpiry : ConnM Unit :=
  modify fun c => { c with nextAckExpiry := 0, immediateAck := false }

def connImmediateAck : ConnM Unit := modify fun c => { c with immediateAck := true }

def connNextAckExpired (c : Conn) (ts : Nat) : Bool :=
  c.immediateAck || (c.nextAckExpiry != 0 && decide (c.nextAckExpiry ≤ ts))

def connNew (connId version : Nat) (settings : Settings) (acked server : Bool) : Conn where
  state := if server then .SERVER_INITIAL else .CLIENT_INITIAL
  ackedStreamDataOffset := acked
  strms := fun id =>
    if id = 0 then
      some (ngtcp2StrmInit 0 false false settings.maxStreamData.toNat strm0MaxStreamData)
    else none
  fcStrms := []
  remoteBidiIdtr := ngtcp2IdtrInit (!server)
  remoteUniIdtr := ngtcp2IdtrInit (!server)
  connId := connId
  clientConnId := 0
  lastTxPktNum := 0
  maxRxPktNum := 0
  unsentMaxRemoteStreamIdBidi := settings.maxStreamIdBidi.toNat
  maxRemoteStreamIdBidi := settings.maxStreamIdBidi.toNat
  remoteStreamIdBidiWindowStart := 0
  maxLocalStreamIdBidi := 0
  nextLocalStreamIdBidi := 0
  unsentMaxRemoteStreamIdUni := settings.maxStreamIdUni.toNat
  maxRemoteStreamIdUni := settings.maxStreamIdUni.toNat
  remoteStreamIdUniWindowStart := 0
  maxLocalStreamIdUni := 0
  nextLocalStreamIdUni := 0
  unsentMaxRxOffset := settings.maxData.toNat
  maxRxOffset := settings.maxData.toNat
  rxOffset := 0
  txOffset := 0
  maxTxOffset := 0
  frq := []
  acktr := ngtcp2AcktrInit
  rtb := ngtcp2RtbInit
  earlyRtb := []
  version := version
  handshakeCompleted := false
  connIdNegotiated := false
  transportParamRecved := false
  recvProtectedPkt := false
  statelessRetry := false
  earlyDataRejected := false
  server := server
  hsTxCkm := none
  hsRxCkm := none
  earlyCkm := none
  txCkm := none
  rxCkm := none
  aeadOverhead := 0
  buffedRxPpkts := []
  localSettings := settings
  remoteSettings :=
    { maxStreamData := 0, maxData := 0, maxStreamIdBidi := 0, maxStreamIdUni := 0,
      omitConnectionId := false, statelessResetToken := List.replicate 16 0, ackDelayExponent := 0 }
  nextAckExpiry := 0
  immediateAck := false
  nalloc := 0
  log := []

def ngtcp2ConnClientNew (connId version : Nat) (settings : Settings) (acked : Bool) : Conn :=
  { connNew connId version settings acked false with
    clientConnId := connId
    nextLocalStreamIdBidi := 4
    nextLocalStreamIdUni := 2 }

/-- The id 0 is taken by the handshake stream. -/
def ngtcp2ConnServerNew (connId version : Nat) (settings : Settings) (acked : Bool) : Conn :=
  let c := connNew connId version settings acked true
  { c with
    remoteBidiIdtr := (ngtcp2IdtrOpen c.remoteBidiIdtr 0).toOption.getD c.remoteBidiIdtr
    nextLocalStreamIdBidi := 1
    nextLocalStreamIdUni := 3 }

end Ngtcp2
