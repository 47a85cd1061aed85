import Ngtcp2.Conn.Ack

namespace Ngtcp2

def ngtcp2ConnHandshakeCompleted : ConnM Unit :=
  modify fun c => { c with handshakeCompleted := true }

def ngtcp2ConnEarlyDataRejected : ConnM Unit :=
  modify fun c => { c with earlyDataRejected := true }

def ngtcp2ConnSetAeadOverhead (aeadOverhead : Nat) : ConnM Unit :=
  modify fun c => { c with aeadOverhead := aeadOverhead }

/-- The five functions that install a key refuse to replace one. -/
def installKey (current : Conn → Option CryptoKm) (install : Conn → Conn) : ConnM Unit := do
  let c ← get
  if (current c).isSome then throw .INVALID_STATE
  else modify install

def ngtcp2ConnSetHandshakeTxKeys (ckm : CryptoKm) : ConnM Unit :=
  installKey Conn.hsTxCkm fun c => { c with hsTxCkm := some ckm }

def ngtcp2ConnSetHandshakeRxKeys (ckm : CryptoKm) : ConnM Unit :=
  installKey Conn.hsRxCkm fun c => { c with hsRxCkm := some ckm }

def ngtcp2ConnUpdateEarlyKeys (ckm : CryptoKm) : ConnM Unit :=
  installKey Conn.earlyCkm fun c => { c with earlyCkm := some ckm }

def ngtcp2ConnUpdateTxKeys (ckm : CryptoKm) : ConnM Unit :=
  installKey Conn.txCkm fun c => { c with txCkm := some ckm }

def ngtcp2ConnUpdateRxKeys (ckm : CryptoKm) : ConnM Unit :=
  installKey Conn.rxCkm fun c => { c with rxCkm := some ckm }

def connClientValidateTransportParams (c : Conn) (params : TransportParams) : Except Err Unit :=
  if params.negotiatedVersion ≠ c.version then .error .VERSION_NEGOTIATION
  else if c.version ∈ params.supportedVersions then .ok ()
  else .error .VERSION_NEGOTIATION

def validateTransportParams (c : Conn) (exttype : TransportParamsType) (params : TransportParams) :
    Except Err Unit :=
  match exttype with
  | .CLIENT_HELLO => if !c.server then .error .INVALID_ARGUMENT else .ok ()
  | .ENCRYPTED_EXTENSIONS =>
    if c.server then .error .INVALID_ARGUMENT else connClientValidateTransportParams c params
  | .NEW_SESSION_TICKET => if c.server then .error .INVALID_ARGUMENT else .ok ()

/-- The limits of the peer, which replace the current ones. -/
def connSetRemoteSettings (settings : Settings) : ConnM Unit := do
  let c ← get
  connMark (.maxTxOffset settings.maxData.toNat c.txOffset)
  modify fun c =>
    { c with
      remoteSettings := settings
      maxLocalStreamIdBidi := settings.maxStreamIdBidi.toNat
      maxLocalStreamIdUni := settings.maxStreamIdUni.toNat
      maxTxOffset := settings.maxData.toNat }

def ngtcp2ConnSetRemoteTransportParams (exttype : TransportParamsType) (params : TransportParams) :
    ConnM Unit := do
  let c ← get
  Prog.ofExcept (validateTransportParams c exttype params)
  connSetRemoteSettings params.settings
  let strm0 ← getStrm 0
  connMark (.strm0MaxTxOffset params.settings.maxStreamData.toNat strm0.txOffset)
  modifyStrm 0 fun strm0 => { strm0 with maxTxOffset := params.settings.maxStreamData.toNat }
  modify fun c => { c with transportParamRecved := true }

def ngtcp2ConnSetEarlyRemoteTransportParams (params : TransportParams) : ConnM Unit := do
  let c ← get
  if c.server then throw .INVALID_STATE
  else connSetRemoteSettings params.settings

def tlsCall : TlsCall → ConnM Unit
  | .handshakeCompleted => ngtcp2ConnHandshakeCompleted
  | .setHandshakeTxKeys ckm => ngtcp2ConnSetHandshakeTxKeys ckm
  | .setHandshakeRxKeys ckm => ngtcp2ConnSetHandshakeRxKeys ckm
  | .updateEarlyKeys ckm => ngtcp2ConnUpdateEarlyKeys ckm
  | .updateTxKeys ckm => ngtcp2ConnUpdateTxKeys ckm
  | .updateRxKeys ckm => ngtcp2ConnUpdateRxKeys ckm
  | .setAeadOverhead aeadOverhead => ngtcp2ConnSetAeadOverhead aeadOverhead
  | .setRemoteTransportParams exttype params => ngtcp2ConnSetRemoteTransportParams exttype params
  | .setEarlyRemoteTransportParams params => ngtcp2ConnSetEarlyRemoteTransportParams params
  | .earlyDataRejected => ngtcp2ConnEarlyDataRejected

/-- The return codes of calls made inside a callback go to the TLS stack. -/
def tlsCalls : List TlsCall → ConnM Unit
  | [] => pure ()
  | call :: rest => do
    let _ ← Prog.attempt (tlsCall call)
    tlsCalls rest

section

variable (app : App)

def connCallTls (e : Event) : ConnM Unit := do
  let c ← get
  emitEvent e
  tlsCalls (app.tls c.log e)

def connCallRecvClientInitial : ConnM Unit := do
  let c ← get
  connCallTls app (.recvClientInitial c.clientConnId)
  if app.ok c.log (.recvClientInitial c.clientConnId) then pure () else throw .CALLBACK_FAILURE

def connCallHandshakeCompleted : ConnM Unit := do
  let c ← get
  connCallTls app .handshakeCompleted
  if app.ok c.log .handshakeCompleted then pure () else throw .CALLBACK_FAILURE

def markRefusedStream0 (refused : Bool) : ConnM Unit :=
  if refused then connMark .uncredited else pure ()

def connCallRecvStream0Data (data : List UInt8) : ConnM Unit := do
  let c ← get
  connCallTls app (.recvStream0Data data)
  markRefusedStream0 (app.recvStream0Data c.log).isSome
  match app.recvStream0Data c.log with
  | none => pure ()
  | some .TLS_HANDSHAKE => throw .TLS_HANDSHAKE
  | some .TLS_FATAL_ALERT_GENERATED => throw .TLS_FATAL_ALERT_GENERATED
  | some .TLS_FATAL_ALERT_RECEIVED => throw .TLS_FATAL_ALERT_RECEIVED
  | some _ => throw .CALLBACK_FAILURE

/-- The next handshake message of the TLS stack and the packet number it chooses. -/
def connCallHandshakeData (e : Event) : ConnM (Nat × List UInt8) := do
  let c ← get
  connCallTls app e
  match app.handshakeData c.log e with
  | none => throw .CALLBACK_FAILURE
  | some (pktNum, data) => pure (pktNum.toNat, data)

end

end Ngtcp2
