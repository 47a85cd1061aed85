import Ngtcp2.Conn.Streams
import Ngtcp2.Conn.Tls

namespace Ngtcp2

/-- The check of a stream id that the handlers of stream frames start with. -/
def streamIdError (c : Conn) (streamId : Nat) : Option Err :=
  if bidiStream streamId then
    if connLocalStream c streamId then
      if c.nextLocalStreamIdBidi ≤ streamId then some .STREAM_STATE else none
    else if c.maxRemoteStreamIdBidi < streamId then some .STREAM_ID
    else none
  else if connLocalStream c streamId then
    if c.nextLocalStreamIdUni ≤ streamId then some .STREAM_STATE else none
  else if c.maxRemoteStreamIdUni < streamId then some .STREAM_ID
  else none

def connIdtr (c : Conn) (streamId : Nat) : Idtr :=
  if bidiStream streamId then c.remoteBidiIdtr else c.remoteUniIdtr

def connSetIdtr (streamId : Nat) (idtr : Idtr) : ConnM Unit :=
  modify fun c =>
    { c with
      remoteBidiIdtr := if bidiStream streamId then idtr else c.remoteBidiIdtr
      remoteUniIdtr := if bidiStream streamId then c.remoteUniIdtr else idtr }

def connMaxDataViolated (c : Conn) (datalen : Nat) : Bool :=
  decide (sub64 c.maxRxOffset c.rxOffset < datalen)

section

variable (app : App)

/-- A stream of the peer that a frame names for the first time. -/
def connNewRemoteStream (streamId : Nat) (idtr : Idtr) : ConnM Unit := do
  connSetIdtr streamId idtr
  let _ ← malloc app
  ngtcp2ConnInitStream streamId
  if !bidiStream streamId then modifyStrm streamId fun strm => { strm with shutWr := true }

def connRecvMaxStreamData (fr : MaxStreamData) : ConnM Unit := do
  let c ← get
  match streamIdError c fr.streamId with
  | some e => throw e
  | none =>
    match c.strms fr.streamId with
    | some _ =>
      modifyStrm fr.streamId fun strm =>
        { strm with maxTxOffset := max strm.maxTxOffset fr.maxStreamData }
    | none =>
      if connLocalStream c fr.streamId then pure ()
      else
        match ngtcp2IdtrOpen (connIdtr c fr.streamId) fr.streamId with
        | .error .STREAM_IN_USE => pure ()
        | .error e => throw e
        | .ok idtr => do
          connNewRemoteStream app fr.streamId idtr
          modifyStrm fr.streamId fun strm =>
            { strm with maxTxOffset := max strm.maxTxOffset fr.maxStreamData }

def connRecvMaxData (maxData : Nat) : ConnM Unit :=
  modify fun c => { c with maxTxOffset := max c.maxTxOffset maxData }

def connRecvMaxStreamId (maxStreamId : Nat) : ConnM Unit := do
  modify fun c =>
    if bidiStream maxStreamId then
      { c with maxLocalStreamIdBidi := max c.maxLocalStreamIdBidi maxStreamId }
    else { c with maxLocalStreamIdUni := max c.maxLocalStreamIdUni maxStreamId }
  connCall app (.extendMaxStreamId maxStreamId)

def connRecvPing (data : List UInt8) : ConnM Unit :=
  if data = [] then pure () else connPushFrq app (.pong data)

def connRecvPong (data : List UInt8) : ConnM Unit :=
  if data = [] then throw .FRAME_FORMAT else pure ()

/-- Every round but the last releases a chunk or reaches the first gap. -/
def connEmitPendingStreamData (streamId : Nat) : Nat → Nat → ConnM Unit
  | 0, _ => pure ()
  | rounds + 1, rxOffset => do
    let strm ← getStrm streamId
    let data ← Prog.ofExcept (ngtcp2RobDataAt strm.rob rxOffset)
    if data = [] then
      if rxOffset = ngtcp2StrmRxOffset strm then pure () else throw .ABORT
    else do
      let fin := strm.shutRd && rxOffset + data.length == strm.lastRxOffset
      connCall app (.recvStreamData streamId fin data)
      let rob ← Prog.ofExcept (ngtcp2RobPop strm.rob rxOffset data.length)
      modifyStrm streamId fun strm => { strm with rob := rob }
      connEmitPendingStreamData streamId rounds (rxOffset + data.length)

/-- `strm->unsent_max_rx_offset += datalen` for stream 0. -/
def connCreditStrm0 (datalen : Nat) : ConnM Unit := do
  let strm ← getStrm 0
  connMark (.creditFits (decide (strm.unsentMaxRxOffset + datalen ≤ maxVarint)))
  modifyStrm 0 fun strm => { strm with unsentMaxRxOffset := add64 strm.unsentMaxRxOffset datalen }

def connEmitPendingStream0Data : Nat → Nat → ConnM Unit
  | 0, _ => pure ()
  | rounds + 1, rxOffset => do
    let strm ← getStrm 0
    let data ← Prog.ofExcept (ngtcp2RobDataAt strm.rob rxOffset)
    if data = [] then
      if rxOffset = ngtcp2StrmRxOffset strm then pure () else throw .ABORT
    else do
      connCallRecvStream0Data app data
      connCreditStrm0 data.length
      connExtendMaxStreamOffset 0 data.length
      let strm ← getStrm 0
      let rob ← Prog.ofExcept (ngtcp2RobPop strm.rob rxOffset data.length)
      modifyStrm 0 fun strm => { strm with rob := rob }
      connEmitPendingStream0Data rounds (rxOffset + data.length)

/-- Room for every round of the loops above. -/
def emitRounds (strm : Strm) : Nat := strm.rob.data.length + 2

def connRemovePrefix (streamId rxOffset : Nat) : ConnM Unit :=
  modifyStrm streamId fun strm => { strm with rob := ngtcp2RobRemovePrefix strm.rob rxOffset }

/-- Whether the window of stream 0, which grows with the bytes that are handed on, is at most a full
one beyond them. -/
def Strm.credited (strm : Strm) : Bool :=
  decide (strm.unsentMaxRxOffset ≤ maxVarint + ngtcp2StrmRxOffset strm)

def connTakeStream0 (strm : Strm) (data : List UInt8) : ConnM Unit := do
  let rxOffset := ngtcp2StrmRxOffset strm + data.length
  connMark (.credit strm.credited)
  connRemovePrefix 0 rxOffset
  connCallRecvStream0Data app data
  connMark .uncredited
  connEmitPendingStream0Data app (emitRounds strm) rxOffset

/-- Bytes that start at or before the first gap go to the application with those they complete, and
others into the reorder buffer. -/
def connTakeStream (fr : StreamFrame) : ConnM Unit := do
  let strm ← getStrm fr.streamId
  let rxOffset := ngtcp2StrmRxOffset strm
  if fr.offset ≤ rxOffset then
    let data := fr.data.drop (rxOffset - fr.offset)
    if fr.streamId = 0 then connTakeStream0 app strm data
    else do
      let rxOffset := rxOffset + data.length
      connRemovePrefix fr.streamId rxOffset
      connCall app
        (.recvStreamData fr.streamId (strm.shutRd && rxOffset == strm.lastRxOffset) data)
      connEmitPendingStreamData app fr.streamId (emitRounds strm) rxOffset
  else modifyStrm fr.streamId fun strm => ngtcp2StrmRecvReordering strm fr

/-- The end of `conn_recv_stream`. -/
def connDeliverStream (fr : StreamFrame) : ConnM Unit := do
  connTakeStream app fr
  ngtcp2ConnCloseStreamIfShutRdwr app fr.streamId ngtcp2NoError

/-- The stream is known to reach up to an offset. -/
def connClaim (streamId offset : Nat) (f : Strm → Strm) : ConnM Unit := do
  connMark (.claim streamId offset)
  modifyStrm streamId f

/-- What has been counted or recorded for a frame stays so when the frame is refused. -/
def connRefuse {α : Type} (streamId : Nat) (e : Err) : ConnM α := do
  connMark (.refused streamId)
  throw e

/-- A frame with FIN bit on a stream whose receive side is open. -/
def connRecvStreamFin (fr : StreamFrame) : ConnM Unit := do
  connClaim fr.streamId fr.endOffset fun strm =>
    { strm with lastRxOffset := fr.endOffset, shutRd := true }
  let strm ← getStrm fr.streamId
  if strm.stopSending then ngtcp2ConnCloseStreamIfShutRdwr app fr.streamId strm.appErrorCode
  else do
    connFcUnlink fr.streamId
    if fr.endOffset = ngtcp2StrmRxOffset strm then do
      connCall app (.recvStreamData fr.streamId true [])
      ngtcp2ConnCloseStreamIfShutRdwr app fr.streamId ngtcp2NoError
    else connDeliverStream app fr

def connRecvStreamNoFin (fr : StreamFrame) : ConnM Unit := do
  connClaim fr.streamId fr.endOffset fun strm =>
    { strm with lastRxOffset := max strm.lastRxOffset fr.endOffset }
  let strm ← getStrm fr.streamId
  if fr.endOffset ≤ ngtcp2StrmRxOffset strm then pure ()
  else if strm.stopSending then pure ()
  else connDeliverStream app fr

/-- The bytes by which a frame moves the end of a stream count against the connection's limit. -/
def connRecvStreamCount (strm : Strm) (fr : StreamFrame) : ConnM Unit := do
  let c ← get
  if strm.lastRxOffset < fr.endOffset ∧ strm.streamId ≠ 0 then
    if connMaxDataViolated c (fr.endOffset - strm.lastRxOffset) then throw .FLOW_CONTROL
    else
      modify fun c => { c with rxOffset := add64 c.rxOffset (fr.endOffset - strm.lastRxOffset) }

/-- `conn_recv_stream` once the stream is there. -/
def connRecvStreamOn (fr : StreamFrame) : ConnM Unit := do
  let strm ← getStrm fr.streamId
  if strm.maxRxOffset < fr.endOffset then throw .FLOW_CONTROL
  else do
    connRecvStreamCount strm fr
    if fr.fin then
      if strm.shutRd then
        if strm.lastRxOffset ≠ fr.endOffset then connRefuse fr.streamId .FINAL_OFFSET
        else connClaim fr.streamId fr.endOffset id
      else if strm.lastRxOffset > fr.endOffset then connRefuse fr.streamId .FINAL_OFFSET
      else connRecvStreamFin app fr
    else if strm.shutRd ∧ strm.lastRxOffset < fr.endOffset then connRefuse fr.streamId .FINAL_OFFSET
    else connRecvStreamNoFin app fr

/-- The checks of `conn_recv_stream` that come before the stream is looked up. The data of a frame
lies in memory, so that `NGTCP2_MAX_VARINT - fr->datalen` does not wrap. -/
def recvStreamError (c : Conn) (fr : StreamFrame) : Option Err :=
  if fr.streamId = 0 ∧ fr.fin then some .PROTO
  else if ¬ fr.fin ∧ fr.datalen = 0 then some .FRAME_FORMAT
  else
    match streamIdError c fr.streamId with
    | some e => some e
    | none =>
      if ¬ bidiStream fr.streamId ∧ connLocalStream c fr.streamId ∧ fr.endOffset ≠ 0 then
        some .FINAL_OFFSET
      else if maxVarint - fr.datalen < fr.offset then some .PROTO
      else none

def connRecvStream (fr : StreamFrame) : ConnM Unit := do
  let c ← get
  match recvStreamError c fr with
  | some e => throw e
  | none =>
    match c.strms fr.streamId with
    | some _ => connRecvStreamOn app fr
    | none =>
      if connLocalStream c fr.streamId then pure ()
      else
        match ngtcp2IdtrOpen (connIdtr c fr.streamId) fr.streamId with
        | .error .STREAM_IN_USE => pure ()
        | .error _ => throw .ABORT
        | .ok idtr => do
          connNewRemoteStream app fr.streamId idtr
          connRecvStreamOn app fr

def connRecvRstStreamGone (fr : RstStream) : ConnM Unit := do
  let c ← get
  if connLocalStream c fr.streamId then
    if ¬ bidiStream fr.streamId ∧ fr.finalOffset ≠ 0 then throw .FINAL_OFFSET else pure ()
  else do
    let opened ← Prog.ofExcept (ngtcp2IdtrIsOpen (connIdtr c fr.streamId) fr.streamId)
    if opened then pure ()
    else if c.localSettings.maxStreamData.toNat < fr.finalOffset ∨
        connMaxDataViolated c fr.finalOffset then throw .FLOW_CONTROL
    else do
      let idtr := (ngtcp2IdtrOpen (connIdtr c fr.streamId) fr.streamId).toOption
      connMark (.claim fr.streamId fr.finalOffset)
      connSetIdtr fr.streamId (idtr.getD (connIdtr c fr.streamId))
      modify fun c => { c with rxOffset := add64 c.rxOffset fr.finalOffset }

def connRecvRstStreamOn (strm : Strm) (fr : RstStream) : ConnM Unit := do
  let c ← get
  let datalen := fr.finalOffset - strm.lastRxOffset
  if strm.shutRd ∧ strm.lastRxOffset ≠ fr.finalOffset then throw .FINAL_OFFSET
  else if ¬ strm.shutRd ∧ strm.lastRxOffset > fr.finalOffset then throw .FINAL_OFFSET
  else if strm.maxRxOffset < fr.finalOffset ∨ connMaxDataViolated c datalen then
    throw .FLOW_CONTROL
  else do
    modify fun c => { c with rxOffset := add64 c.rxOffset datalen }
    connMark (.rstListed strm.fcPprev)
    connClaim fr.streamId fr.finalOffset fun strm => { strm with shutRd := true, recvRst := true }
    ngtcp2ConnCloseStreamIfShutRdwr app fr.streamId fr.appErrorCode

def connRecvRstStream (fr : RstStream) : ConnM Unit := do
  let c ← get
  if fr.streamId = 0 then throw .PROTO
  else
    match streamIdError c fr.streamId with
    | some e => throw e
    | none =>
      match c.strms fr.streamId with
      | none => connRecvRstStreamGone fr
      | some strm => connRecvRstStreamOn app strm fr

def connRecvStopSending (fr : StopSending) : ConnM Unit := do
  let c ← get
  if fr.streamId = 0 then throw .PROTO
  else
    match streamIdError c fr.streamId with
    | some e => throw e
    | none =>
      match c.strms fr.streamId with
      | none =>
        if connLocalStream c fr.streamId then pure ()
        else do
          let opened ← Prog.ofExcept (ngtcp2IdtrIsOpen (connIdtr c fr.streamId) fr.streamId)
          if opened then pure ()
          else do
            let idtr := (ngtcp2IdtrOpen (connIdtr c fr.streamId) fr.streamId).toOption
            connSetIdtr fr.streamId (idtr.getD (connIdtr c fr.streamId))
      | some _ => do
        connRstStream app fr.streamId ngtcp2Stopping
        modifyStrm fr.streamId fun strm => { strm with shutWr := true, sentRst := true }
        ngtcp2ConnCloseStreamIfShutRdwr app fr.streamId fr.appErrorCode

end

end Ngtcp2
