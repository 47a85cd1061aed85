import Ngtcp2.Base

namespace Ngtcp2

/-- The assertion of `ngtcp2_put_varint_len` is the failure case. -/
def ngtcp2PutVarintLen (n : Nat) : Except Err Nat :=
  if n < 64 then .ok 1
  else if n < 16384 then .ok 2
  else if n < 1073741824 then .ok 4
  else if n < varintBound then .ok 8
  else .error .ABORT

def putVarintLens : List Nat → Except Err Nat
  | [] => .ok 0
  | n :: rest =>
    match ngtcp2PutVarintLen n, putVarintLens rest with
    | .ok a, .ok b => .ok (a + b)
    | .error e, _ => .error e
    | .ok _, .error e => .error e

/-- An encoding with the given variable-length integers and `fixed` further bytes. -/
def encodedLen (fixed : Nat) (varints : List Nat) : Except Err Nat :=
  match putVarintLens varints with
  | .ok n => .ok (fixed + n)
  | .error e => .error e

def ngtcp2PktEncodeFrameLen : Frame → Except Err Nat
  | .stream fr =>
    encodedLen (1 + fr.datalen)
      ((if fr.offset ≠ 0 then [fr.offset] else []) ++ [fr.streamId, fr.datalen])
  | .ack fr =>
    encodedLen 1 ([fr.largestAck, fr.ackDelay, fr.blks.length, fr.firstAckBlklen] ++
      fr.blks.flatMap fun blk => [blk.gap, blk.blklen])
  | .padding len => .ok len
  | .rstStream fr => encodedLen 3 [fr.streamId, fr.finalOffset]
  | .connectionClose _ reason => encodedLen (3 + reason.length) [reason.length]
  | .applicationClose _ reason => encodedLen (3 + reason.length) [reason.length]
  | .maxData maxData => encodedLen 1 [maxData]
  | .maxStreamData fr => encodedLen 1 [fr.streamId, fr.maxStreamData]
  | .maxStreamId maxStreamId => encodedLen 1 [maxStreamId]
  | .ping data => .ok (2 + data.length)
  | .blocked offset => encodedLen 1 [offset]
  | .streamBlocked streamId offset => encodedLen 1 [streamId, offset]
  | .streamIdBlocked streamId => encodedLen 1 [streamId]
  | .newConnectionId seq _ => encodedLen 25 [seq]
  | .stopSending fr => encodedLen 3 [fr.streamId]
  | .pong data => .ok (2 + data.length)

def ngtcp2PktEncodeHdLen (hd : PktHd) : Except Err Nat :=
  if hd.longForm then .ok longHeaderlen
  else
    let len := if hd.omitConnId then 1 else 9
    match hd.type with
    | .PKT_01 => .ok (len + 1)
    | .PKT_02 => .ok (len + 2)
    | .PKT_03 => .ok (len + 4)
    | _ => .error .INVALID_ARGUMENT

/-- `ngtcp2_ppe`: a packet under construction, `len` of `outlen` bytes of it written. -/
structure Ppe where
  outlen : Nat
  len : Nat
  hdlen : Nat
  pktNum : Nat
  aeadOverhead : Nat
  ckm : Option CryptoKm
  frames : List Frame
  deriving DecidableEq, Repr

def ngtcp2PpeInit (outlen aeadOverhead : Nat) (ckm : Option CryptoKm) : Ppe where
  outlen := outlen
  len := 0
  hdlen := 0
  pktNum := 0
  aeadOverhead := aeadOverhead
  ckm := ckm
  frames := []

def Ppe.bufLeft (ppe : Ppe) : Nat := ppe.outlen - ppe.len

def ngtcp2PpeEncodeHd (ppe : Ppe) (hd : PktHd) : Except Err Ppe :=
  if ppe.bufLeft < ppe.aeadOverhead then .error .NOBUF
  else
    match ngtcp2PktEncodeHdLen hd with
    | .error e => .error e
    | .ok n =>
      if ppe.bufLeft - ppe.aeadOverhead < n then .error .NOBUF
      else .ok { ppe with len := ppe.len + n, hdlen := n, pktNum := hd.pktNum }

def ngtcp2PpeEncodeFrame (ppe : Ppe) (fr : Frame) : Except Err Ppe :=
  if ppe.bufLeft < ppe.aeadOverhead then .error .NOBUF
  else
    match ngtcp2PktEncodeFrameLen fr with
    | .error e => .error e
    | .ok n =>
      if ppe.bufLeft - ppe.aeadOverhead < n then .error .NOBUF
      else .ok { ppe with len := ppe.len + n, frames := ppe.frames ++ [fr] }

def ngtcp2PpeLeft (ppe : Ppe) : Nat :=
  if ppe.bufLeft < ppe.aeadOverhead then 0 else ppe.bufLeft - ppe.aeadOverhead

def ngtcp2PpePadding (ppe : Ppe) : Except Err (Nat × Ppe) :=
  if ¬ ppe.bufLeft ≥ ppe.aeadOverhead then .error .ABORT
  else
    let len := ppe.bufLeft - ppe.aeadOverhead
    .ok (len, { ppe with len := ppe.len + len, frames := ppe.frames ++ [.padding len] })

end Ngtcp2
