import Ngtcp2.Conn.Ack

namespace Ngtcp2

/-- The stream leaves the list of streams that wait for a MAX_STREAM_DATA frame. -/
def connFcUnlink (streamId : Nat) : ConnM Unit := do
  let strm ← getStrm streamId
  if strm.fcPprev then do
    modify fun c => { c with fcStrms := c.fcStrms.erase streamId }
    modifyStrm streamId fun strm => { strm with fcPprev := false }

def connShouldSendMaxStreamData (c : Conn) (strm : Strm) : Bool :=
  decide (c.localSettings.maxStreamData.toNat / 2 <
    sub64 strm.unsentMaxRxOffset strm.maxRxOffset)

def connShouldSendMaxData (c : Conn) : Bool :=
  decide (c.localSettings.maxData.toNat / 2 < sub64 c.unsentMaxRxOffset c.maxRxOffset)

def markExtendStream0 (streamId : Nat) : ConnM Unit :=
  if streamId = 0 then connMark .extendStream0 else pure ()

def connExtendMaxStreamOffset (streamId datalen : Nat) : ConnM Unit := do
  markExtendStream0 streamId
  modifyStrm streamId fun strm =>
    if strm.unsentMaxRxOffset ≤ sub64 maxVarint datalen then
      { strm with unsentMaxRxOffset := add64 strm.unsentMaxRxOffset datalen }
    else strm
  let c ← get
  let strm ← getStrm streamId
  if !(strm.shutRd || strm.stopSending) && !strm.fcPprev && connShouldSendMaxStreamData c strm then do
    modify fun c => { c with fcStrms := streamId :: c.fcStrms }
    modifyStrm streamId fun strm => { strm with fcPprev := true }

def ngtcp2ConnExtendMaxStreamOffset (streamId datalen : Nat) : ConnM Unit := do
  match ← ngtcp2ConnFindStream streamId with
  | none => throw .STREAM_NOT_FOUND
  | some _ => connExtendMaxStreamOffset streamId datalen

def ngtcp2ConnExtendMaxOffset (datalen : Nat) : ConnM Unit :=
  modify fun c =>
    if maxVarint < datalen ∨ c.unsentMaxRxOffset > sub64 maxVarint datalen then
      { c with unsentMaxRxOffset := maxVarint }
    else { c with unsentMaxRxOffset := c.unsentMaxRxOffset + datalen }

/-- The source increments the pointer to the window start, not the window start. -/
def handleRemoteStreamIdExtension (unsentMaxRemoteStreamId windowStart : Nat) (idtr : Idtr) : Nat :=
  if unsentMaxRemoteStreamId ≤ maxVarint - 4 ∧ windowStart < ngtcp2IdtrFirstGap idtr then
    unsentMaxRemoteStreamId + 4
  else unsentMaxRemoteStreamId

/-- The peer has opened streams that the start of the window does not count yet. -/
def idWindowBehind (c : Conn) (streamId : Nat) : Bool :=
  if bidiStream streamId then
    decide (c.remoteStreamIdBidiWindowStart < ngtcp2IdtrFirstGap c.remoteBidiIdtr)
  else decide (c.remoteStreamIdUniWindowStart < ngtcp2IdtrFirstGap c.remoteUniIdtr)

def connExtendRemoteStreamId (streamId : Nat) : ConnM Unit := do
  let c ← get
  if connLocalStream c streamId then pure ()
  else do
    connMark (.idWindow (idWindowBehind c streamId))
    modify fun c =>
      if bidiStream streamId then
        { c with
          unsentMaxRemoteStreamIdBidi := handleRemoteStreamIdExtension c.unsentMaxRemoteStreamIdBidi
            c.remoteStreamIdBidiWindowStart c.remoteBidiIdtr }
      else
        { c with
          unsentMaxRemoteStreamIdUni := handleRemoteStreamIdExtension c.unsentMaxRemoteStreamIdUni
            c.remoteStreamIdUniWindowStart c.remoteUniIdtr }

section

variable (app : App)

/-- `ngtcp2_map_insert` refuses an id that it has already, which an assertion rules out. -/
def ngtcp2ConnInitStream (streamId : Nat) : ConnM Unit := do
  let c ← get
  connMark (.mapInsert streamId (c.strms streamId).isSome)
  match c.strms streamId with
  | some _ => throw .INVALID_ARGUMENT
  | none =>
    modify fun c =>
      { c with
        strms := Function.update c.strms streamId
          (some (ngtcp2StrmInit streamId false false c.localSettings.maxStreamData.toNat
            c.remoteSettings.maxStreamData.toNat)) }

/-- A removed stream leaves the list of streams that wait for a MAX_STREAM_DATA frame. -/
def connFcErase (strm : Strm) : ConnM Unit :=
  if strm.fcPprev then modify fun c => { c with fcStrms := c.fcStrms.erase strm.streamId }
  else pure ()

/-- A RST_STREAM frame that reports a reset of the stream by the application is queued. -/
def rstQueued (frq : List Frame) (streamId : Nat) : Bool :=
  frq.any fun
    | .rstStream fr => fr.streamId == streamId && fr.appErrorCode != ngtcp2Stopping
    | _ => false

def closeMark (strm : Strm) (frq : List Frame) : Mark :=
  .closeStream strm.streamId strm.sentRst (rstQueued frq strm.streamId)

def markCloseStream (strm : Strm) : ConnM Unit := do
  let c ← get
  connMark (closeMark strm c.frq)

/-- The test on `strm->app_error_code` is the source's, which takes the stream's own code only when
it is zero. -/
def ngtcp2ConnCloseStream (strm : Strm) (appErrorCode : Nat) : ConnM Unit := do
  let appErrorCode := if strm.appErrorCode = 0 then strm.appErrorCode else appErrorCode
  modify fun c => { c with strms := Function.update c.strms strm.streamId none }
  markCloseStream strm
  connCall app (.streamClose strm.streamId appErrorCode)
  connExtendRemoteStreamId strm.streamId
  connFcErase strm
  connImmediateAck

/-- The condition of `ngtcp2_conn_close_stream_if_shut_rdwr`. -/
def Strm.closable (strm : Strm) : Bool :=
  (strm.shutRd && strm.shutWr) &&
  (strm.recvRst || ngtcp2RobFirstGapOffset strm.rob == strm.lastRxOffset) &&
  (strm.sentRst || ngtcp2GaptrFirstGapOffset strm.ackedTxOffset == strm.txOffset)

def ngtcp2ConnCloseStreamIfShutRdwr (streamId appErrorCode : Nat) : ConnM Unit := do
  let strm ← getStrm streamId
  if strm.closable then ngtcp2ConnCloseStream app strm appErrorCode

def connPushFrq (fr : Frame) : ConnM Unit := do
  let _ ← malloc app
  modify fun c => { c with frq := fr :: c.frq }

def connRstStream (streamId appErrorCode : Nat) : ConnM Unit := do
  let strm ← getStrm streamId
  connPushFrq app (.rstStream
    { streamId := strm.streamId, appErrorCode := appErrorCode, finalOffset := strm.txOffset })

def connStopSending (streamId appErrorCode : Nat) : ConnM Unit := do
  connPushFrq app (.stopSending { streamId := streamId, appErrorCode := appErrorCode })
  connFcUnlink streamId

def connShutdownStreamWrite (streamId appErrorCode : Nat) : ConnM Unit := do
  let strm ← getStrm streamId
  if strm.sentRst then pure ()
  else do
    modifyStrm streamId fun strm =>
      { strm with shutWr := true, sentRst := true, appErrorCode := appErrorCode }
    connRstStream app streamId appErrorCode

def connShutdownStreamRead (streamId appErrorCode : Nat) : ConnM Unit := do
  let strm ← getStrm streamId
  if strm.stopSending then pure ()
  else do
    modifyStrm streamId fun strm =>
      { strm with stopSending := true, appErrorCode := appErrorCode }
    connStopSending app streamId appErrorCode

/-- The checks that the three shutdown functions share. -/
def shutdownChecked (streamId appErrorCode : Nat) (shutdown : ConnM Unit) : ConnM Unit := do
  if streamId = 0 ∨ appErrorCode = ngtcp2Stopping then throw .INVALID_ARGUMENT
  else
    match ← ngtcp2ConnFindStream streamId with
    | none => throw .STREAM_NOT_FOUND
    | some _ => shutdown

def ngtcp2ConnShutdownStream (streamId appErrorCode : Nat) : ConnM Unit :=
  shutdownChecked streamId appErrorCode do
    connShutdownStreamRead app streamId appErrorCode
    connShutdownStreamWrite app streamId appErrorCode

def ngtcp2ConnShutdownStreamWrite (streamId appErrorCode : Nat) : ConnM Unit :=
  shutdownChecked streamId appErrorCode (connShutdownStreamWrite app streamId appErrorCode)

def ngtcp2ConnShutdownStreamRead (streamId appErrorCode : Nat) : ConnM Unit :=
  shutdownChecked streamId appErrorCode (connShutdownStreamRead app streamId appErrorCode)

def ngtcp2ConnOpenBidiStream : ConnM Nat := do
  let c ← get
  if c.nextLocalStreamIdBidi > c.maxLocalStreamIdBidi then throw .STREAM_ID_BLOCKED
  else do
    let _ ← malloc app
    ngtcp2ConnInitStream c.nextLocalStreamIdBidi
    modify fun c => { c with nextLocalStreamIdBidi := add64 c.nextLocalStreamIdBidi 4 }
    pure c.nextLocalStreamIdBidi

def ngtcp2ConnOpenUniStream : ConnM Nat := do
  let c ← get
  if c.nextLocalStreamIdUni > c.maxLocalStreamIdUni then throw .STREAM_ID_BLOCKED
  else do
    let _ ← malloc app
    ngtcp2ConnInitStream c.nextLocalStreamIdUni
    modifyStrm c.nextLocalStreamIdUni fun strm => { strm with shutRd := true }
    modify fun c => { c with nextLocalStreamIdUni := add64 c.nextLocalStreamIdUni 4 }
    pure c.nextLocalStreamIdUni

end

end Ngtcp2
