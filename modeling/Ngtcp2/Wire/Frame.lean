import Ngtcp2.Wire.Fields

/-!
# Frames on the wire

`ngtcp2_pkt_decode_frame` and `ngtcp2_pkt_encode_frame` on bytes, and beside them the format of frames
as a grammar.
-/

namespace Ngtcp2

/-- `ngtcp2_frame`, with the fields beside the frame that no connection looks at: `flags` of a STREAM
frame and `stateless_reset_token` of a NEW_CONNECTION_ID frame. -/
structure WireFrame where
  fr : Frame
  flags : UInt8
  statelessResetToken : List UInt8
  deriving DecidableEq, Repr

def Frame.plain (fr : Frame) : WireFrame := { fr := fr, flags := 0, statelessResetToken := [] }

def hasMask (b mask : UInt8) : Bool := b &&& mask == mask

def finBit (type : UInt8) : Bool := type &&& 0x01 != 0
def lenBit (type : UInt8) : Bool := type &&& 0x02 != 0
def offBit (type : UInt8) : Bool := type &&& 0x04 != 0

section Decode

def readStream (type : UInt8) : Reader WireFrame := do
  let streamId ← ngtcp2GetVarint
  let offset ← (if offBit type then ngtcp2GetVarint else pure 0)
  let data ← (if lenBit type then readData else Reader.remainder)
  pure
    { fr := .stream { fin := finBit type, streamId := streamId, offset := offset, data := data }
      flags := type &&& 0xef
      statelessResetToken := [] }

def ngtcp2PktDecodeStreamFrame (payload : List UInt8) : Except Err (WireFrame × Nat) := do
  let (p, len) ← scanFrom payload [.varint] 1 1
  let (type, _) ← ofRead (Reader.byte payload 0)
  let (p, len) ← (if offBit type then scanFrom payload [.varint] p len else pure (p, len))
  let (_, len) ← (if lenBit type then scanFrom payload [.data] p len else pure (p, len))
  let result ← ofRead (readStream type payload 1)
  -- without a length the data goes on to the end of the payload
  if lenBit type then decoded result len else pure (result.1, payload.length)

def skipVarint : Reader Unit := fun buf p => (ngtcp2GetVarintLen buf p).map fun n => ((), p + n)

def readAckBlk : Reader AckBlk := do
  let gap ← ngtcp2GetVarint
  let blklen ← ngtcp2GetVarint
  pure { gap := gap, blklen := blklen }

def skipAckBlk : Reader Unit := do
  skipVarint
  skipVarint

def readAck (numBlks : Nat) : Reader WireFrame := do
  let largestAck ← ngtcp2GetVarint
  let ackDelay ← ngtcp2GetVarint
  skipVarint
  let firstAckBlklen ← ngtcp2GetVarint
  let blks ← Reader.many readAckBlk (min maxAckBlks numBlks)
  let _ ← Reader.many skipAckBlk (numBlks - maxAckBlks)
  pure (Frame.ack
    { largestAck := largestAck, ackDelay := ackDelay, firstAckBlklen := firstAckBlklen, blks := blks }).plain

/-- The number of blocks is below `2^62`, so that `len` does not wrap. -/
def ngtcp2PktDecodeAckFrame (payload : List UInt8) : Except Err (WireFrame × Nat) := do
  need payload 5
  -- Largest Acknowledged, ACK Delay
  let (p, len) ← scan payload [.varint, .varint] 1 5
  -- ACK Block Count
  let (q, len) ← scan payload [.varint] p len
  let (numBlks, _) ← ofRead (ngtcp2GetVarint payload p)
  let len := len + numBlks * 2
  need payload len
  -- First ACK Block, and Gap and Additional ACK Block as often as announced
  let (_, len) ← scan payload (.varint :: List.replicate (numBlks * 2) .varint) q len
  let result ← ofRead (readAck numBlks payload 1)
  decoded result len

def ngtcp2PktDecodePaddingFrame : List UInt8 → Except Err (WireFrame × Nat)
  | [] => .error .ABORT
  | _ :: rest =>
    let len := 1 + (rest.takeWhile (· == 0)).length
    .ok ((Frame.padding len).plain, len)

def ngtcp2PktDecodeRstStreamFrame : List UInt8 → Except Err (WireFrame × Nat) :=
  decodeFields [.varint, .fixed 2, .varint] do
    let streamId ← ngtcp2GetVarint
    let appErrorCode ← Reader.number 2
    let finalOffset ← ngtcp2GetVarint
    pure (Frame.rstStream { streamId, appErrorCode, finalOffset }).plain

def decodeCloseFrame (frame : Nat → List UInt8 → Frame) : List UInt8 → Except Err (WireFrame × Nat) :=
  decodeFields [.fixed 2, .data] do
    let errorCode ← Reader.number 2
    let reason ← readData
    pure (frame errorCode reason).plain

def ngtcp2PktDecodeConnectionCloseFrame : List UInt8 → Except Err (WireFrame × Nat) :=
  decodeCloseFrame .connectionClose

def ngtcp2PktDecodeApplicationCloseFrame : List UInt8 → Except Err (WireFrame × Nat) :=
  decodeCloseFrame .applicationClose

def decodeVarintFrame (frame : Nat → Frame) : List UInt8 → Except Err (WireFrame × Nat) :=
  decodeFields [.varint] do
    let n ← ngtcp2GetVarint
    pure (frame n).plain

def decodeVarintsFrame (frame : Nat → Nat → Frame) : List UInt8 → Except Err (WireFrame × Nat) :=
  decodeFields [.varint, .varint] do
    let m ← ngtcp2GetVarint
    let n ← ngtcp2GetVarint
    pure (frame m n).plain

def ngtcp2PktDecodeMaxDataFrame : List UInt8 → Except Err (WireFrame × Nat) := decodeVarintFrame .maxData

def ngtcp2PktDecodeMaxStreamDataFrame : List UInt8 → Except Err (WireFrame × Nat) :=
  decodeVarintsFrame fun streamId maxStreamData => .maxStreamData { streamId, maxStreamData }

def ngtcp2PktDecodeMaxStreamIdFrame : List UInt8 → Except Err (WireFrame × Nat) :=
  decodeVarintFrame .maxStreamId

def decodePingFrame (frame : List UInt8 → Frame) : List UInt8 → Except Err (WireFrame × Nat) :=
  decodeFields [.shortData] do
    let data ← readShortData
    pure (frame data).plain

def ngtcp2PktDecodePingFrame : List UInt8 → Except Err (WireFrame × Nat) := decodePingFrame .ping

def ngtcp2PktDecodeBlockedFrame : List UInt8 → Except Err (WireFrame × Nat) := decodeVarintFrame .blocked

def ngtcp2PktDecodeStreamBlockedFrame : List UInt8 → Except Err (WireFrame × Nat) :=
  decodeVarintsFrame .streamBlocked

def ngtcp2PktDecodeStreamIdBlockedFrame : List UInt8 → Except Err (WireFrame × Nat) :=
  decodeVarintFrame .streamIdBlocked

/-- `seq` has 16 bits. -/
def ngtcp2PktDecodeNewConnectionIdFrame : List UInt8 → Except Err (WireFrame × Nat) :=
  decodeFields [.varint, .fixed 8, .fixed 16] do
    let seq ← ngtcp2GetVarint
    let connId ← Reader.number 8
    let token ← Reader.bytes 16
    pure { fr := .newConnectionId (seq % 65536) connId, flags := 0, statelessResetToken := token }

def ngtcp2PktDecodeStopSendingFrame : List UInt8 → Except Err (WireFrame × Nat) :=
  decodeFields [.varint, .fixed 2] do
    let streamId ← ngtcp2GetVarint
    let appErrorCode ← Reader.number 2
    pure (Frame.stopSending { streamId, appErrorCode }).plain

def ngtcp2PktDecodePongFrame : List UInt8 → Except Err (WireFrame × Nat) := decodePingFrame .pong

/-- The frame at the front of a payload and its length. An empty payload gives 0 and no frame. -/
def ngtcp2PktDecodeFrame (payload : List UInt8) : Except Err (Option (WireFrame × Nat)) :=
  match payload with
  | [] => .ok none
  | type :: _ =>
    Option.some <$>
      if hasMask type 0x10 then ngtcp2PktDecodeStreamFrame payload
      else if hasMask type 0x0e then ngtcp2PktDecodeAckFrame payload
      else
        match type.toNat with
        | 0x00 => ngtcp2PktDecodePaddingFrame payload
        | 0x01 => ngtcp2PktDecodeRstStreamFrame payload
        | 0x02 => ngtcp2PktDecodeConnectionCloseFrame payload
        | 0x03 => ngtcp2PktDecodeApplicationCloseFrame payload
        | 0x04 => ngtcp2PktDecodeMaxDataFrame payload
        | 0x05 => ngtcp2PktDecodeMaxStreamDataFrame payload
        | 0x06 => ngtcp2PktDecodeMaxStreamIdFrame payload
        | 0x07 => ngtcp2PktDecodePingFrame payload
        | 0x08 => ngtcp2PktDecodeBlockedFrame payload
        | 0x09 => ngtcp2PktDecodeStreamBlockedFrame payload
        | 0x0a => ngtcp2PktDecodeStreamIdBlockedFrame payload
        | 0x0b => ngtcp2PktDecodeNewConnectionIdFrame payload
        | 0x0c => ngtcp2PktDecodeStopSendingFrame payload
        | 0x0d => ngtcp2PktDecodePongFrame payload
        | _ => .error .FRAME_FORMAT

end Decode

section Encode

def streamFlags (fr : StreamFrame) : UInt8 :=
  0x02 ||| (if fr.fin then 0x01 else 0) ||| (if fr.offset ≠ 0 then 0x04 else 0)

def putVarints : List Nat → Except Err (List UInt8)
  | [] => pure []
  | n :: rest => do
    let first ← ngtcp2PutVarint n
    let rest ← putVarints rest
    pure (first ++ rest)

def putFrame (w : WireFrame) : Except Err (List UInt8) :=
  match w.fr with
  | .stream fr => do
    let head ← putVarints ([fr.streamId] ++ (if fr.offset ≠ 0 then [fr.offset] else []) ++ [fr.datalen])
    pure ((streamFlags fr ||| 0x10) :: (head ++ fr.data))
  | .ack fr => do
    let head ← putVarints [fr.largestAck, fr.ackDelay, fr.blks.length, fr.firstAckBlklen]
    let blks ← putVarints (fr.blks.flatMap fun blk => [blk.gap, blk.blklen])
    pure (0x0e :: (head ++ blks))
  | .padding len => pure (List.replicate len 0)
  | .rstStream fr => do
    let streamId ← ngtcp2PutVarint fr.streamId
    let finalOffset ← ngtcp2PutVarint fr.finalOffset
    pure (0x01 :: (streamId ++ beBytes 2 fr.appErrorCode ++ finalOffset))
  | .connectionClose errorCode reason => do
    let reasonlen ← ngtcp2PutVarint reason.length
    pure (0x02 :: (beBytes 2 errorCode ++ reasonlen ++ reason))
  | .applicationClose appErrorCode reason => do
    let reasonlen ← ngtcp2PutVarint reason.length
    pure (0x03 :: (beBytes 2 appErrorCode ++ reasonlen ++ reason))
  | .maxData maxData => do
    let n ← ngtcp2PutVarint maxData
    pure (0x04 :: n)
  | .maxStreamData fr => do
    let fields ← putVarints [fr.streamId, fr.maxStreamData]
    pure (0x05 :: fields)
  | .maxStreamId maxStreamId => do
    let n ← ngtcp2PutVarint maxStreamId
    pure (0x06 :: n)
  | .ping data => pure (0x07 :: UInt8.ofNat data.length :: data)
  | .blocked offset => do
    let n ← ngtcp2PutVarint offset
    pure (0x08 :: n)
  | .streamBlocked streamId offset => do
    let fields ← putVarints [streamId, offset]
    pure (0x09 :: fields)
  | .streamIdBlocked streamId => do
    let n ← ngtcp2PutVarint streamId
    pure (0x0a :: n)
  | .newConnectionId seq connId => do
    let n ← ngtcp2PutVarint seq
    pure (0x0b :: (n ++ beBytes 8 connId ++ w.statelessResetToken))
  | .stopSending fr => do
    let streamId ← ngtcp2PutVarint fr.streamId
    pure (0x0c :: (streamId ++ beBytes 2 fr.appErrorCode))
  | .pong data => pure (0x0d :: UInt8.ofNat data.length :: data)

def WireFrame.encoded (w : WireFrame) : WireFrame :=
  match w.fr with
  | .stream fr => { w with flags := streamFlags fr }
  | _ => w

/-- The bytes that go into a buffer of the given length, and the frame. -/
def ngtcp2PktEncodeFrame (outlen : Nat) (w : WireFrame) : Except Err (List UInt8 × WireFrame) := do
  let len ← ngtcp2PktEncodeFrameLen w.fr
  if outlen < len then throw .NOBUF
  let bytes ← putFrame w
  -- `assert((size_t)(p - out) == len)`
  if bytes.length = len then pure (bytes, w.encoded) else throw .ABORT

end Encode

section Format

def streamBody (type : UInt8) : Grammar WireFrame := do
  let streamId ← varint
  let offset ← (if offBit type then varint else pure 0)
  let data ← (if lenBit type then sizedData else Grammar.remainder)
  pure
    { fr := .stream { fin := finBit type, streamId := streamId, offset := offset, data := data }
      flags := type &&& 0xef
      statelessResetToken := [] }

def ackBlk : Grammar AckBlk := do
  let gap ← varint
  let blklen ← varint
  pure { gap := gap, blklen := blklen }

def ackBody : Grammar WireFrame := do
  let largestAck ← varint
  let ackDelay ← varint
  let numBlks ← varint
  let firstAckBlklen ← varint
  let blks ← Grammar.many ackBlk numBlks
  pure (Frame.ack
    { largestAck := largestAck, ackDelay := ackDelay, firstAckBlklen := firstAckBlklen, blks := blks }).plain

def paddingBody : Grammar WireFrame := fun s =>
  let more := (s.takeWhile (· == 0)).length
  some ((Frame.padding (1 + more)).plain, s.drop more)

def newConnectionIdBody : Grammar WireFrame := do
  let seq ← varint
  let connId ← Grammar.number 8
  let token ← Grammar.bytes 16
  pure { fr := .newConnectionId seq connId, flags := 0, statelessResetToken := token }

def rstStreamBody : Grammar WireFrame := do
  let streamId ← varint
  let appErrorCode ← Grammar.number 2
  let finalOffset ← varint
  pure (Frame.rstStream { streamId, appErrorCode, finalOffset }).plain

def stopSendingBody : Grammar WireFrame := do
  let streamId ← varint
  let appErrorCode ← Grammar.number 2
  pure (Frame.stopSending { streamId, appErrorCode }).plain

def closeBody (frame : Nat → List UInt8 → Frame) : Grammar WireFrame := do
  let errorCode ← Grammar.number 2
  let reason ← sizedData
  pure (frame errorCode reason).plain

def varintBody (frame : Nat → Frame) : Grammar WireFrame := do
  let n ← varint
  pure (frame n).plain

def varintsBody (frame : Nat → Nat → Frame) : Grammar WireFrame := do
  let m ← varint
  let n ← varint
  pure (frame m n).plain

def pingBody (frame : List UInt8 → Frame) : Grammar WireFrame := do
  let data ← shortData
  pure (frame data).plain

def frameBody (type : UInt8) : Grammar WireFrame :=
  match type.toNat with
  | 0x00 => paddingBody
  | 0x01 => rstStreamBody
  | 0x02 => closeBody .connectionClose
  | 0x03 => closeBody .applicationClose
  | 0x04 => varintBody .maxData
  | 0x05 => varintsBody fun streamId maxStreamData => .maxStreamData { streamId, maxStreamData }
  | 0x06 => varintBody .maxStreamId
  | 0x07 => pingBody .ping
  | 0x08 => varintBody .blocked
  | 0x09 => varintsBody .streamBlocked
  | 0x0a => varintBody .streamIdBlocked
  | 0x0b => newConnectionIdBody
  | 0x0c => stopSendingBody
  | 0x0d => pingBody .pong
  | 0x0e => ackBody
  | _ => if 0x10 ≤ type.toNat ∧ type.toNat ≤ 0x17 then streamBody type else Grammar.fail

def frame : Grammar WireFrame := do
  let type ← Grammar.byte
  frameBody type

end Format

end Ngtcp2
