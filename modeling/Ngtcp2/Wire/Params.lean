import Mathlib.Data.Fintype.Pi
import Ngtcp2.Conn.State
import Ngtcp2.Wire.Fields

/-!
# Transport parameters on the wire

The codec of the TLS extension in which the endpoints tell each other their transport parameters.
-/

namespace Ngtcp2

/-- `ngtcp2_transport_params`. The members `v.ch.initial_version` and `v.ee.negotiated_version` of the union `v` are
the same four bytes. -/
structure WireParams where
  version : UInt32
  supportedVersions : List UInt32
  initialMaxStreamData : UInt32
  initialMaxData : UInt32
  initialMaxStreamIdBidi : UInt32
  initialMaxStreamIdUni : UInt32
  idleTimeout : UInt16
  omitConnectionId : UInt8
  maxPacketSize : UInt16
  statelessResetToken : Fin 16 → UInt8
  serverUnicastIp : Fin 4 → UInt32
  ackDelayExponent : UInt8
  deriving DecidableEq

inductive ParamId where
  | INITIAL_MAX_STREAM_DATA | INITIAL_MAX_DATA | INITIAL_MAX_STREAM_ID_BIDI | IDLE_TIMEOUT | OMIT_CONNECTION_ID
  | MAX_PACKET_SIZE | STATELESS_RESET_TOKEN | ACK_DELAY_EXPONENT | INITIAL_MAX_STREAM_ID_UNI | SERVER_UNICAST_IP
  deriving DecidableEq, Repr

namespace ParamId

def code : ParamId → Nat
  | INITIAL_MAX_STREAM_DATA => 0
  | INITIAL_MAX_DATA => 1
  | INITIAL_MAX_STREAM_ID_BIDI => 2
  | IDLE_TIMEOUT => 3
  | OMIT_CONNECTION_ID => 4
  | MAX_PACKET_SIZE => 5
  | STATELESS_RESET_TOKEN => 6
  | ACK_DELAY_EXPONENT => 7
  | INITIAL_MAX_STREAM_ID_UNI => 8
  | SERVER_UNICAST_IP => 9

def all : List ParamId :=
  [INITIAL_MAX_STREAM_DATA, INITIAL_MAX_DATA, INITIAL_MAX_STREAM_ID_BIDI, IDLE_TIMEOUT, OMIT_CONNECTION_ID,
    MAX_PACKET_SIZE, STATELESS_RESET_TOKEN, ACK_DELAY_EXPONENT, INITIAL_MAX_STREAM_ID_UNI, SERVER_UNICAST_IP]

def ofCode (n : Nat) : Option ParamId := all.find? fun id => id.code == n

def size : ParamId → Nat
  | INITIAL_MAX_STREAM_DATA | INITIAL_MAX_DATA | INITIAL_MAX_STREAM_ID_BIDI | INITIAL_MAX_STREAM_ID_UNI => 4
  | IDLE_TIMEOUT | MAX_PACKET_SIZE => 2
  | OMIT_CONNECTION_ID => 0
  | STATELESS_RESET_TOKEN => 16
  | SERVER_UNICAST_IP => 16
  | ACK_DELAY_EXPONENT => 1

end ParamId

def maxPktSize : UInt16 := 65527
def defaultAckDelayExponent : UInt8 := 3
def maxSupportedVersions : Nat := 63

section Encode

def put16 (n : Nat) : List UInt8 := beBytes 2 n
def put32 (n : UInt32) : List UInt8 := beBytes 4 n.toNat

def putParam (id : ParamId) (len : Nat) (value : List UInt8) : List UInt8 := put16 id.code ++ put16 len ++ value

def putOptional (present : Bool) (bytes : List UInt8) : List UInt8 := if present then bytes else []

def putVersions (exttype : TransportParamsType) (params : WireParams) : List UInt8 :=
  match exttype with
  | .CLIENT_HELLO => put32 params.version
  | .ENCRYPTED_EXTENSIONS =>
    put32 params.version ++ [UInt8.ofNat (params.supportedVersions.length * 4)] ++ params.supportedVersions.flatMap put32
  | .NEW_SESSION_TICKET => []

def hasToken (exttype : TransportParamsType) : Bool :=
  match exttype with
  | .CLIENT_HELLO => false
  | .ENCRYPTED_EXTENSIONS | .NEW_SESSION_TICKET => true

def hasUnicastIp (params : WireParams) : Bool :=
  params.serverUnicastIp 0 != 0 || params.serverUnicastIp 1 != 0 || params.serverUnicastIp 2 != 0 ||
    params.serverUnicastIp 3 != 0

def unicastIp (params : WireParams) : List UInt8 :=
  put32 (params.serverUnicastIp 0) ++ put32 (params.serverUnicastIp 1) ++ put32 (params.serverUnicastIp 2) ++
    put32 (params.serverUnicastIp 3)

def paramsVlen (exttype : TransportParamsType) (params : WireParams) : Nat :=
  match exttype with
  | .CLIENT_HELLO => 4
  | .ENCRYPTED_EXTENSIONS => 4 + 1 + params.supportedVersions.length * 4
  | .NEW_SESSION_TICKET => 0

def paramsLen (exttype : TransportParamsType) (params : WireParams) : Nat :=
  2 + 8 + 8 + 6 + (if hasToken exttype then 20 else 0) + paramsVlen exttype params +
  (if params.initialMaxStreamIdBidi != 0 then 8 else 0) +
  (if params.initialMaxStreamIdUni != 0 then 8 else 0) +
  (if params.omitConnectionId != 0 then 4 else 0) +
  (if params.maxPacketSize != maxPktSize then 6 else 0) +
  (if params.ackDelayExponent != defaultAckDelayExponent then 5 else 0) +
  (if hasUnicastIp params then 20 else 0)

def ngtcp2EncodeTransportParams (destlen : Nat) (exttype : TransportParamsType) (params : WireParams) :
    Except Err (List UInt8) :=
  let len := paramsLen exttype params
  if destlen < len then .error .NOBUF
  else
    let bytes :=
      putVersions exttype params ++ put16 (len - paramsVlen exttype params - 2) ++
      putParam .INITIAL_MAX_STREAM_DATA 4 (put32 params.initialMaxStreamData) ++
      putParam .INITIAL_MAX_DATA 4 (put32 params.initialMaxData) ++
      putParam .IDLE_TIMEOUT 2 (put16 params.idleTimeout.toNat) ++
      putOptional (hasToken exttype)
        (putParam .STATELESS_RESET_TOKEN 16 (List.ofFn params.statelessResetToken)) ++
      putOptional (params.initialMaxStreamIdBidi != 0)
        (putParam .INITIAL_MAX_STREAM_ID_BIDI 4 (put32 params.initialMaxStreamIdBidi)) ++
      putOptional (params.initialMaxStreamIdUni != 0)
        (putParam .INITIAL_MAX_STREAM_ID_UNI 4 (put32 params.initialMaxStreamIdUni)) ++
      putOptional (params.omitConnectionId != 0) (putParam .OMIT_CONNECTION_ID 0 []) ++
      putOptional (params.maxPacketSize != maxPktSize)
        (putParam .MAX_PACKET_SIZE 2 (put16 params.maxPacketSize.toNat)) ++
      putOptional (hasUnicastIp params)
        (putParam .SERVER_UNICAST_IP 16 (unicastIp params)) ++
      putOptional (params.ackDelayExponent != defaultAckDelayExponent)
        (putParam .ACK_DELAY_EXPONENT 1 [params.ackDelayExponent])
    -- `assert((size_t)(p - dest) == len)`
    if bytes.length = len then .ok bytes else .error .ABORT

end Encode

section Decode

def validStreamIdBidi (n : UInt32) : TransportParamsType → Bool
  | .CLIENT_HELLO => n &&& 0x3 == 0x1
  | .ENCRYPTED_EXTENSIONS | .NEW_SESSION_TICKET => n &&& 0x3 == 0x0

def validStreamIdUni (n : UInt32) : TransportParamsType → Bool
  | .CLIENT_HELLO => n &&& 0x3 == 0x3
  | .ENCRYPTED_EXTENSIONS | .NEW_SESSION_TICKET => n &&& 0x3 == 0x2

def get32 (value : List UInt8) : UInt32 := UInt32.ofNat (ofBeBytes value)
def get16 (value : List UInt8) : UInt16 := UInt16.ofNat (ofBeBytes value)

/-- The parameters read so far, and those of them that have been seen (the bits of `flags`). -/
structure ParamsScan where
  params : WireParams
  flags : List ParamId

def needParam (data : List UInt8) (p len : Nat) : Except Err Unit :=
  if data.length - p < len then .error .MALFORMED_TRANSPORT_PARAM else .ok ()

def checkParam (ok : Bool) : Except Err Unit := if ok then .ok () else .error .MALFORMED_TRANSPORT_PARAM

def readValue (data : List UInt8) (p size : Nat) : Except Err (List UInt8 × Nat) := do
  let (len, p) ← ofRead (Reader.number 2 data p)
  checkParam (len == size)
  needParam data p size
  ofRead (Reader.bytes size data p)

def setParam (exttype : TransportParamsType) (id : ParamId) (value : List UInt8) (params : WireParams) :
    Except Err WireParams :=
  match id with
  | .INITIAL_MAX_STREAM_DATA => .ok { params with initialMaxStreamData := get32 value }
  | .INITIAL_MAX_DATA => .ok { params with initialMaxData := get32 value }
  | .INITIAL_MAX_STREAM_ID_BIDI => do
    checkParam (validStreamIdBidi (get32 value) exttype)
    .ok { params with initialMaxStreamIdBidi := get32 value }
  | .INITIAL_MAX_STREAM_ID_UNI => do
    checkParam (validStreamIdUni (get32 value) exttype)
    .ok { params with initialMaxStreamIdUni := get32 value }
  | .IDLE_TIMEOUT => .ok { params with idleTimeout := get16 value }
  | .OMIT_CONNECTION_ID => .ok { params with omitConnectionId := 1 }
  | .MAX_PACKET_SIZE => .ok { params with maxPacketSize := get16 value }
  | .STATELESS_RESET_TOKEN => .ok { params with statelessResetToken := fun i => value.getD i 0 }
  | .SERVER_UNICAST_IP => .ok { params with serverUnicastIp := fun i => get32 ((value.drop (4 * i)).take 4) }
  | .ACK_DELAY_EXPONENT => do
    checkParam (value.getD 0 0 ≤ 20)
    .ok { params with ackDelayExponent := value.getD 0 0 }

def decodeParam (exttype : TransportParamsType) (data : List UInt8) (p : Nat) (scan : ParamsScan) :
    Except Err (ParamsScan × Nat) := do
  let (type, p) ← ofRead (Reader.number 2 data p)
  match ParamId.ofCode type with
  | some id => do
    -- a client has no token to give
    checkParam (id != .STATELESS_RESET_TOKEN || hasToken exttype)
    let (value, p) ← readValue data p id.size
    let params ← setParam exttype id value scan.params
    .ok ({ params := params, flags := id :: scan.flags }, p)
  | none => do
    let (valuelen, p) ← ofRead (Reader.number 2 data p)
    needParam data p valuelen
    .ok (scan, p + valuelen)

/-- The loop over the parameters. There is no result while it is running. -/
def decodeParams (exttype : TransportParamsType) (data : List UInt8) :
    Nat → Nat → ParamsScan → Option (Except Err (ParamsScan × Nat))
  | 0, _, _ => none
  | rounds + 1, p, scan =>
    if data.length - p < 4 then some (.ok (scan, p))
    else
      match decodeParam exttype data p scan with
      | .error e => some (.error e)
      | .ok (scan, p) => decodeParams exttype data rounds p scan

/-- The versions at the front. A version that goes beyond `supported_versions` would be stored outside of it. -/
def decodeVersions (exttype : TransportParamsType) (data : List UInt8) (params : WireParams) :
    Except Err (WireParams × Nat) :=
  match exttype with
  | .CLIENT_HELLO => do
    needParam data 0 4
    let (version, p) ← ofRead (Reader.number 4 data 0)
    .ok ({ params with version := UInt32.ofNat version }, p)
  | .ENCRYPTED_EXTENSIONS => do
    needParam data 0 5
    let (version, p) ← ofRead (Reader.number 4 data 0)
    let (versionslen, p) ← ofRead (Reader.byte data p)
    needParam data p versionslen.toNat
    checkParam (versionslen.toNat % 4 == 0)
    let (versions, p) ← ofRead (Reader.many (Reader.number 4) (versionslen.toNat / 4) data p)
    if maxSupportedVersions < versions.length then .error .ABORT
    else .ok ({ params with version := UInt32.ofNat version, supportedVersions := versions.map UInt32.ofNat }, p)
  | .NEW_SESSION_TICKET => .ok (params, 0)

def requiredParams (exttype : TransportParamsType) : List ParamId :=
  [.INITIAL_MAX_STREAM_DATA, .INITIAL_MAX_DATA, .IDLE_TIMEOUT] ++
    if hasToken exttype then [.STATELESS_RESET_TOKEN] else []

def defaultParams (scan : ParamsScan) : WireParams :=
  { scan.params with
    initialMaxStreamIdBidi :=
      if .INITIAL_MAX_STREAM_ID_BIDI ∈ scan.flags then scan.params.initialMaxStreamIdBidi else 0
    initialMaxStreamIdUni :=
      if .INITIAL_MAX_STREAM_ID_UNI ∈ scan.flags then scan.params.initialMaxStreamIdUni else 0
    omitConnectionId := if .OMIT_CONNECTION_ID ∈ scan.flags then scan.params.omitConnectionId else 0
    maxPacketSize := if .MAX_PACKET_SIZE ∈ scan.flags then scan.params.maxPacketSize else maxPktSize
    ackDelayExponent :=
      if .ACK_DELAY_EXPONENT ∈ scan.flags then scan.params.ackDelayExponent else defaultAckDelayExponent }

def finishParams (exttype : TransportParamsType) (data : List UInt8) (p : Nat) (scan : ParamsScan) :
    Except Err WireParams :=
  if data.length - p ≠ 0 then .error .MALFORMED_TRANSPORT_PARAM
  else if (requiredParams exttype).all fun id => id ∈ scan.flags then .ok (defaultParams scan)
  else .error .REQUIRED_TRANSPORT_PARAM

def decodeFront (exttype : TransportParamsType) (data : List UInt8) (params : WireParams) :
    Except Err (WireParams × Nat) := do
  let (params, vlen) ← decodeVersions exttype data params
  needParam data vlen 2
  let (len, p) ← ofRead (Reader.number 2 data vlen)
  checkParam (vlen + 2 + len == data.length)
  .ok (params, p)

/-- The destination is only of interest if the decoder succeeds. A parameter takes at least four bytes, so that the
loop has ended after that many rounds. -/
def ngtcp2DecodeTransportParams (params : WireParams) (exttype : TransportParamsType) (data : List UInt8) :
    Option (Except Err WireParams) :=
  match decodeFront exttype data params with
  | .error e => some (.error e)
  | .ok (params, p) =>
    match decodeParams exttype data (data.length + 1) p { params := params, flags := [] } with
    | none => none
    | some (.error e) => some (.error e)
    | some (.ok (scan, p)) => some (finishParams exttype data p scan)

end Decode

end Ngtcp2
