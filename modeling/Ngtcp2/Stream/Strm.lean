import Ngtcp2.Stream.Rob

namespace Ngtcp2

/-- `ngtcp2_strm`. The bits of `flags` are fields of their own, `fcPprev` says whether the source's
pointer is set, and `txBuf` is what the buffer still holds. -/
structure Strm where
  streamId : Nat
  txOffset : Nat
  ackedTxOffset : Gaptr
  maxTxOffset : Nat
  lastRxOffset : Nat
  rob : Rob
  maxRxOffset : Nat
  unsentMaxRxOffset : Nat
  nbuffered : Nat
  txBuf : List UInt8
  shutRd : Bool
  shutWr : Bool
  sentRst : Bool
  recvRst : Bool
  stopSending : Bool
  fcPprev : Bool
  appErrorCode : Nat

def robChunk : Nat := 8192

def ngtcp2StrmInit (streamId : Nat) (shutRd shutWr : Bool) (maxRxOffset maxTxOffset : Nat) : Strm where
  streamId := streamId
  txOffset := 0
  ackedTxOffset := ngtcp2GaptrInit
  maxTxOffset := maxTxOffset
  lastRxOffset := 0
  rob := ngtcp2RobInit robChunk
  maxRxOffset := maxRxOffset
  unsentMaxRxOffset := maxRxOffset
  nbuffered := 0
  txBuf := []
  shutRd := shutRd
  shutWr := shutWr
  sentRst := false
  recvRst := false
  stopSending := false
  fcPprev := false
  appErrorCode := 0

def ngtcp2StrmRxOffset (strm : Strm) : Nat := ngtcp2RobFirstGapOffset strm.rob

def ngtcp2StrmRecvReordering (strm : Strm) (fr : StreamFrame) : Strm :=
  { strm with rob := ngtcp2RobPush strm.rob fr.offset fr.data }

end Ngtcp2
