import Ngtcp2.Wire.Loop

/-!
# The round trip of frames

What the encoder writes for a frame is as long as it has computed beforehand, and the decoder reads the
frame back, whatever follows it.
-/

namespace Ngtcp2

open Grammar

def varintBytes (n : Nat) : List UInt8 :=
  match ngtcp2PutVarint n with
  | .ok bytes => bytes
  | .error _ => []

section Varints

variable {n : Nat}

theorem ngtcp2PutVarint_eq (bound : n < varintBound) : ngtcp2PutVarint n = .ok (varintBytes n) := by
  obtain ⟨bytes, put, -, -⟩ := ngtcp2PutVarint_spec bound
  simp only [varintBytes, put]

theorem ngtcp2PutVarintLen_eq (bound : n < varintBound) : ngtcp2PutVarintLen n = .ok (varintBytes n).length := by
  obtain ⟨bytes, put, len, -⟩ := ngtcp2PutVarint_spec bound
  simp only [varintBytes, put, len]

theorem varint_append (bound : n < varintBound) (rest : List UInt8) :
    varint (varintBytes n ++ rest) = some (n, rest) := by
  obtain ⟨bytes, put, -, read⟩ := ngtcp2PutVarint_spec bound
  simp only [varintBytes, put, read]

theorem putVarints_eq {ns : List Nat} (bounds : ∀ n ∈ ns, n < varintBound) :
    putVarints ns = .ok (ns.flatMap varintBytes) := by
  induction ns with
  | nil => rfl
  | cons n ns ih =>
    rw [putVarints, ngtcp2PutVarint_eq (bounds n (by simp)), ih fun m member => bounds m (by simp [member])]
    rfl

theorem putVarintLens_eq {ns : List Nat} (bounds : ∀ n ∈ ns, n < varintBound) :
    putVarintLens ns = .ok (ns.flatMap varintBytes).length := by
  induction ns with
  | nil => rfl
  | cons n ns ih =>
    rw [putVarintLens, ngtcp2PutVarintLen_eq (bounds n (by simp)), ih fun m member => bounds m (by simp [member])]
    simp

theorem encodedLen_eq {ns : List Nat} (bounds : ∀ n ∈ ns, n < varintBound) (fixed : Nat) :
    encodedLen fixed ns = .ok (fixed + (ns.flatMap varintBytes).length) := by
  unfold encodedLen
  rw [putVarintLens_eq bounds]

end Varints

def WireFrame.Plain (w : WireFrame) : Prop := w.flags = 0 ∧ w.statelessResetToken = []

/-- Variable-length integers are below `2^62`, the data of PING and PONG and the blocks of ACK are at
most 255, and the other fields are of the width that they have in the frame object. -/
def WireFrame.Encodable (w : WireFrame) : Prop :=
  match w.fr with
  | .stream fr =>
    fr.streamId < varintBound ∧ fr.offset < varintBound ∧ fr.datalen < varintBound ∧ w.statelessResetToken = []
  | .ack fr =>
    fr.largestAck < varintBound ∧ fr.ackDelay < varintBound ∧ fr.firstAckBlklen < varintBound ∧
    (∀ blk ∈ fr.blks, blk.gap < varintBound ∧ blk.blklen < varintBound) ∧ fr.blks.length ≤ maxAckBlks ∧ w.Plain
  | .padding len => 1 ≤ len ∧ w.Plain
  | .rstStream fr =>
    fr.streamId < varintBound ∧ fr.appErrorCode < 65536 ∧ fr.finalOffset < varintBound ∧ w.Plain
  | .connectionClose code reason | .applicationClose code reason =>
    code < 65536 ∧ reason.length < varintBound ∧ w.Plain
  | .maxData n | .maxStreamId n | .blocked n | .streamIdBlocked n => n < varintBound ∧ w.Plain
  | .maxStreamData fr => fr.streamId < varintBound ∧ fr.maxStreamData < varintBound ∧ w.Plain
  | .streamBlocked streamId offset => streamId < varintBound ∧ offset < varintBound ∧ w.Plain
  | .ping data | .pong data => data.length ≤ 255 ∧ w.Plain
  | .newConnectionId seq connId =>
    seq < 65536 ∧ connId < 18446744073709551616 ∧ w.statelessResetToken.length = 16 ∧ w.flags = 0
  | .stopSending fr => fr.streamId < varintBound ∧ fr.appErrorCode < 65536 ∧ w.Plain

def WireFrame.Before (w : WireFrame) (rest : List UInt8) : Prop :=
  ∀ len, w.fr = .padding len → rest.head? ≠ some 0

structure FrameBytes (w : WireFrame) (bytes : List UInt8) : Prop where
  len : ngtcp2PktEncodeFrameLen w.fr = .ok bytes.length
  put : putFrame w = .ok bytes
  read : ∀ rest, w.Before rest → ngtcp2PktDecodeFrame (bytes ++ rest) = .ok (some (w.encoded, bytes.length))

theorem decodeFrame_body {type : UInt8} {body rest : List UInt8} {w : WireFrame}
    (found : codeBody type (body ++ rest) = some (w, rest)) (kept : w.stored = w) :
    ngtcp2PktDecodeFrame ((type :: body) ++ rest) = .ok (some (w, (type :: body).length)) := by
  rw [List.cons_append, decodeFrame_spec, map_some found, kept]
  simp only [outcome, List.length_cons, List.length_append]
  change Except.ok (some (w, _)) = _
  congr 3
  omega

section Frames

variable {w : WireFrame}

section Families

variable {type : UInt8}

def Frame.Kept (fr : Frame) : Prop := fr.plain.stored = fr.plain ∧ fr.plain.encoded = fr.plain

theorem frameBytes_varint {frame : Nat → Frame} {n : Nat} (bound : n < varintBound)
    (len : ngtcp2PktEncodeFrameLen (frame n) = encodedLen 1 [n])
    (put : putFrame (frame n).plain = (do
      let bytes ← ngtcp2PutVarint n
      pure (type :: bytes)))
    (read : codeBody type = varintBody frame) (kept : (frame n).Kept) :
    FrameBytes (frame n).plain (type :: varintBytes n) where
  len := by
    change ngtcp2PktEncodeFrameLen (frame n) = _
    rw [len, encodedLen_eq (by simpa using bound)]
    simp [Nat.add_comm]
  put := by
    rw [put, ngtcp2PutVarint_eq bound]
    rfl
  read rest _ := by
    rw [kept.2]
    refine decodeFrame_body ?_ kept.1
    rw [read, varintBody, bind_some (varint_append bound rest)]
    rfl

theorem frameBytes_varints {f : Nat → Nat → Frame} {m n : Nat} (bound : m < varintBound) (bound' : n < varintBound)
    (len : ngtcp2PktEncodeFrameLen (f m n) = encodedLen 1 [m, n])
    (put : putFrame (f m n).plain = (do
      let bytes ← putVarints [m, n]
      pure (type :: bytes)))
    (read : codeBody type = varintsBody f) (kept : (f m n).Kept) :
    FrameBytes (f m n).plain (type :: (varintBytes m ++ varintBytes n)) where
  len := by
    change ngtcp2PktEncodeFrameLen (f m n) = _
    rw [len, encodedLen_eq (by simpa using ⟨bound, bound'⟩)]
    simp [Nat.add_comm]
  put := by
    rw [put, putVarints_eq (by simpa using ⟨bound, bound'⟩)]
    simp
  read rest _ := by
    rw [kept.2]
    refine decodeFrame_body ?_ kept.1
    rw [read, varintsBody, List.append_assoc, bind_some (varint_append bound _), bind_some (varint_append bound' rest)]
    rfl

theorem frameBytes_close {frame : Nat → List UInt8 → Frame} {code : Nat} {reason : List UInt8}
    (small : code < 65536) (bound : reason.length < varintBound)
    (len : ngtcp2PktEncodeFrameLen (frame code reason) = encodedLen (3 + reason.length) [reason.length])
    (put : putFrame (frame code reason).plain = (do
      let reasonlen ← ngtcp2PutVarint reason.length
      pure (type :: (beBytes 2 code ++ reasonlen ++ reason))))
    (read : codeBody type = closeBody frame) (kept : (frame code reason).Kept) :
    FrameBytes (frame code reason).plain (type :: (beBytes 2 code ++ varintBytes reason.length ++ reason)) where
  len := by
    change ngtcp2PktEncodeFrameLen (frame code reason) = _
    rw [len, encodedLen_eq (by simpa using bound)]
    simp
    omega
  put := by
    rw [put, ngtcp2PutVarint_eq bound]
    rfl
  read rest _ := by
    rw [kept.2]
    refine decodeFrame_body ?_ kept.1
    rw [read, closeBody, List.append_assoc, List.append_assoc, bind_some (number_append (by omega) _),
      bind_some (a := reason) (r := rest)]
    · rfl
    · rw [sizedData, bind_some (varint_append bound _), bytes_append rfl]

theorem frameBytes_ping {frame : List UInt8 → Frame} {data : List UInt8} (short : data.length ≤ 255)
    (len : ngtcp2PktEncodeFrameLen (frame data) = .ok (2 + data.length))
    (put : putFrame (frame data).plain = pure (type :: UInt8.ofNat data.length :: data))
    (read : codeBody type = pingBody frame) (kept : (frame data).Kept) :
    FrameBytes (frame data).plain (type :: UInt8.ofNat data.length :: data) where
  len := by
    change ngtcp2PktEncodeFrameLen (frame data) = _
    rw [len, List.length_cons, List.length_cons, Nat.add_comm]
  put := put
  read rest _ := by
    rw [kept.2]
    refine decodeFrame_body ?_ kept.1
    have count : (UInt8.ofNat data.length).toNat = data.length := by
      simp
      omega
    rw [read, pingBody, bind_some (a := data) (r := rest)]
    · rfl
    · rw [shortData, List.cons_append, bind_some rfl, count, bytes_append rfl]

end Families

theorem frameBytes_padding {len : Nat} (some : 1 ≤ len) : FrameBytes (Frame.padding len).plain (List.replicate len 0) where
  len := by simp [Frame.plain, ngtcp2PktEncodeFrameLen]
  put := rfl
  read rest before := by
    obtain ⟨more, rfl⟩ : ∃ more, len = more + 1 := ⟨len - 1, by omega⟩
    have stops : (List.replicate more (0 : UInt8) ++ rest).takeWhile (· == 0) = List.replicate more 0 := by
      have first := before (more + 1) rfl
      rw [List.takeWhile_append_of_pos (by simp)]
      cases rest with
      | nil => simp
      | cons b rest => simp_all
    refine decodeFrame_body ?_ rfl
    change Option.some ((Frame.padding _).plain, _) = _
    rw [stops]
    simp [WireFrame.encoded, Frame.plain, Nat.add_comm]

theorem frameBytes_rstStream {fr : RstStream} (id : fr.streamId < varintBound) (code : fr.appErrorCode < 65536)
    (offset : fr.finalOffset < varintBound) :
    FrameBytes (Frame.rstStream fr).plain
      (0x01 :: (varintBytes fr.streamId ++ beBytes 2 fr.appErrorCode ++ varintBytes fr.finalOffset)) where
  len := by
    change encodedLen 3 [fr.streamId, fr.finalOffset] = _
    rw [encodedLen_eq (by simpa using ⟨id, offset⟩)]
    simp
    omega
  put := by
    change (do
      let streamId ← ngtcp2PutVarint fr.streamId
      let finalOffset ← ngtcp2PutVarint fr.finalOffset
      pure ((0x01 : UInt8) :: (streamId ++ beBytes 2 fr.appErrorCode ++ finalOffset))) = _
    rw [ngtcp2PutVarint_eq id, ngtcp2PutVarint_eq offset]
    rfl
  read rest _ := by
    refine decodeFrame_body (w := (Frame.rstStream fr).plain) ?_ rfl
    change rstStreamBody _ = _
    rw [rstStreamBody, List.append_assoc, List.append_assoc, bind_some (varint_append id _),
      bind_some (number_append (by omega) _), bind_some (varint_append offset rest)]
    rfl

theorem frameBytes_stopSending {fr : StopSending} (id : fr.streamId < varintBound) (code : fr.appErrorCode < 65536) :
    FrameBytes (Frame.stopSending fr).plain (0x0c :: (varintBytes fr.streamId ++ beBytes 2 fr.appErrorCode)) where
  len := by
    change encodedLen 3 [fr.streamId] = _
    rw [encodedLen_eq (by simpa using id)]
    simp
    omega
  put := by
    change (do
      let streamId ← ngtcp2PutVarint fr.streamId
      pure ((0x0c : UInt8) :: (streamId ++ beBytes 2 fr.appErrorCode))) = _
    rw [ngtcp2PutVarint_eq id]
    rfl
  read rest _ := by
    refine decodeFrame_body (w := (Frame.stopSending fr).plain) ?_ rfl
    change stopSendingBody _ = _
    rw [stopSendingBody, List.append_assoc, bind_some (varint_append id _), bind_some (number_append (by omega) rest)]
    rfl

theorem frameBytes_newConnectionId {seq connId : Nat} {token : List UInt8} (small : seq < 65536)
    (id : connId < 18446744073709551616) (length : token.length = 16) :
    FrameBytes ⟨.newConnectionId seq connId, 0, token⟩ (0x0b :: (varintBytes seq ++ beBytes 8 connId ++ token)) where
  len := by
    change encodedLen 25 [seq] = _
    rw [encodedLen_eq (by simp [varintBound]; omega)]
    simp [length]
    omega
  put := by
    change (do
      let n ← ngtcp2PutVarint seq
      pure ((0x0b : UInt8) :: (n ++ beBytes 8 connId ++ token))) = _
    rw [ngtcp2PutVarint_eq (by simp [varintBound]; omega)]
    rfl
  read rest _ := by
    refine decodeFrame_body (w := ⟨.newConnectionId seq connId, 0, token⟩) ?_ ?_
    · change newConnectionIdBody _ = _
      rw [newConnectionIdBody, List.append_assoc, List.append_assoc,
        bind_some (varint_append (by simp [varintBound]; omega) _), bind_some (number_append (by omega) _),
        bind_some (bytes_append length rest)]
      rfl
    · simp [WireFrame.stored, Nat.mod_eq_of_lt small]

theorem streamBits (fin off : Bool) :
    hasMask (0x02 ||| (if fin then 0x01 else 0) ||| (if off then 0x04 else 0) ||| 0x10) 0x10 = true ∧
    offBit (0x02 ||| (if fin then 0x01 else 0) ||| (if off then 0x04 else 0) ||| 0x10) = off ∧
    lenBit (0x02 ||| (if fin then 0x01 else 0) ||| (if off then 0x04 else 0) ||| 0x10) = true ∧
    finBit (0x02 ||| (if fin then 0x01 else 0) ||| (if off then 0x04 else 0) ||| 0x10) = fin ∧
    (0x02 ||| (if fin then 0x01 else 0) ||| (if off then 0x04 else 0) ||| 0x10) &&& 0xef =
      (0x02 ||| (if fin then 0x01 else 0) ||| (if off then 0x04 else 0) : UInt8) := by
  cases fin <;> cases off <;> decide

theorem streamType (fr : StreamFrame) :
    hasMask (streamFlags fr ||| 0x10) 0x10 = true ∧ offBit (streamFlags fr ||| 0x10) = decide (fr.offset ≠ 0) ∧
    lenBit (streamFlags fr ||| 0x10) = true ∧ finBit (streamFlags fr ||| 0x10) = fr.fin ∧
    (streamFlags fr ||| 0x10) &&& 0xef = streamFlags fr := by
  have bits := streamBits fr.fin (decide (fr.offset ≠ 0))
  simp only [decide_eq_true_eq] at bits
  exact bits

theorem frameBytes_stream {fr : StreamFrame} {flags : UInt8} (id : fr.streamId < varintBound)
    (offset : fr.offset < varintBound) (length : fr.datalen < varintBound) :
    FrameBytes ⟨.stream fr, flags, []⟩
      ((streamFlags fr ||| 0x10) ::
        (([fr.streamId] ++ (if fr.offset ≠ 0 then [fr.offset] else []) ++ [fr.datalen]).flatMap varintBytes ++ fr.data)) where
  len := by
    change encodedLen (1 + fr.datalen) ((if fr.offset ≠ 0 then [fr.offset] else []) ++ [fr.streamId, fr.datalen]) = _
    rw [encodedLen_eq (by split <;> simp [id, offset, length])]
    split <;> simp [StreamFrame.datalen] <;> omega
  put := by
    change (do
      let head ← putVarints ([fr.streamId] ++ (if fr.offset ≠ 0 then [fr.offset] else []) ++ [fr.datalen])
      pure ((streamFlags fr ||| 0x10) :: (head ++ fr.data))) = _
    rw [putVarints_eq (by split <;> simp [id, offset, length])]
    rfl
  read rest _ := by
    obtain ⟨stream, off, len, fin, flags'⟩ := streamType fr
    refine decodeFrame_body (w := ⟨.stream fr, streamFlags fr, []⟩) ?_ rfl
    unfold codeBody
    rw [if_pos stream, streamBody, off, len, fin, flags']
    have data : sizedData (varintBytes fr.datalen ++ (fr.data ++ rest)) = some (fr.data, rest) := by
      rw [sizedData, bind_some (varint_append length _)]
      exact bytes_append rfl rest
    by_cases start : fr.offset = 0
    · simp only [start, ne_eq, not_true_eq_false, if_false, decide_false, Bool.false_eq_true, if_true, List.append_nil,
        List.singleton_append, List.flatMap_cons, List.flatMap_nil, List.append_assoc]
      rw [bind_some (varint_append id _), Grammar.pure_bind, bind_some data]
      obtain ⟨fin, streamId, offset, data⟩ := fr
      cases start
      rfl
    · simp only [start, ne_eq, not_false_eq_true, if_true, decide_true, List.cons_append, List.nil_append,
        List.flatMap_cons, List.flatMap_nil, List.append_nil, List.append_assoc]
      rw [bind_some (varint_append id _), bind_some (varint_append offset _), bind_some data]
      rfl

def ackBlkBytes (blk : AckBlk) : List UInt8 := varintBytes blk.gap ++ varintBytes blk.blklen

theorem frameBytes_ack {fr : Ack} (largest : fr.largestAck < varintBound) (delay : fr.ackDelay < varintBound)
    (first : fr.firstAckBlklen < varintBound)
    (each : ∀ blk ∈ fr.blks, blk.gap < varintBound ∧ blk.blklen < varintBound) (few : fr.blks.length ≤ maxAckBlks) :
    FrameBytes (Frame.ack fr).plain
      (0x0e :: (varintBytes fr.largestAck ++ varintBytes fr.ackDelay ++ varintBytes fr.blks.length ++
        varintBytes fr.firstAckBlklen ++ fr.blks.flatMap ackBlkBytes)) := by
  have count : fr.blks.length < varintBound := Nat.lt_of_le_of_lt few (by decide)
  have heads : ∀ n ∈ [fr.largestAck, fr.ackDelay, fr.blks.length, fr.firstAckBlklen], n < varintBound := by
    simp [largest, delay, count, first]
  have fields : ∀ n ∈ fr.blks.flatMap (fun blk => [blk.gap, blk.blklen]), n < varintBound := by
    simp only [List.mem_flatMap, List.mem_cons, List.not_mem_nil, or_false]
    rintro n ⟨blk, member, rfl | rfl⟩
    · exact (each blk member).1
    · exact (each blk member).2
  have blks : (fr.blks.flatMap fun blk => [blk.gap, blk.blklen]).flatMap varintBytes = fr.blks.flatMap ackBlkBytes := by
    rw [List.flatMap_assoc]
    congr 1
    funext blk
    simp [ackBlkBytes]
  refine ⟨?_, ?_, fun rest _ => ?_⟩
  · change encodedLen 1 (_ ++ _) = _
    rw [encodedLen_eq fun n member => (List.mem_append.mp member).elim (heads n) (fields n), List.flatMap_append, blks]
    simp
    omega
  · change (do
      let head ← putVarints [fr.largestAck, fr.ackDelay, fr.blks.length, fr.firstAckBlklen]
      let blks ← putVarints (fr.blks.flatMap fun (blk : AckBlk) => [blk.gap, blk.blklen])
      pure ((0x0e : UInt8) :: (head ++ blks))) = _
    rw [putVarints_eq heads, putVarints_eq fields, blks]
    simp [bind, Except.bind, pure, Except.pure]
  · refine decodeFrame_body (w := (Frame.ack fr).plain) ?_ ?_
    · change ackBody _ = _
      have read : many ackBlk fr.blks.length (fr.blks.flatMap ackBlkBytes ++ rest) = some (fr.blks, rest) := by
        refine many_append fr.blks (fun blk member rest => ?_) rest
        rw [ackBlk, ackBlkBytes, List.append_assoc, bind_some (varint_append (each blk member).1 _),
          bind_some (varint_append (each blk member).2 rest)]
        rfl
      simp only [List.append_assoc]
      rw [ackBody, bind_some (varint_append largest _), bind_some (varint_append delay _),
        bind_some (varint_append count _), bind_some (varint_append first _), bind_some read]
      rfl
    · simp [WireFrame.stored, Frame.plain, List.take_of_length_le few]

theorem WireFrame.encoded_fr (w : WireFrame) : w.encoded.fr = w.fr := by
  obtain ⟨fr, flags, token⟩ := w
  cases fr <;> rfl

theorem WireFrame.Encodable.frameBytes (ok : w.Encodable) : ∃ bytes, FrameBytes w bytes := by
  obtain ⟨fr, flags, token⟩ := w
  cases fr with
  | stream fr =>
    obtain ⟨id, offset, length, rfl⟩ := ok
    exact ⟨_, frameBytes_stream id offset length⟩
  | ack fr =>
    obtain ⟨largest, delay, first, each, few, rfl, rfl⟩ := ok
    exact ⟨_, frameBytes_ack largest delay first each few⟩
  | padding len =>
    obtain ⟨some, rfl, rfl⟩ := ok
    exact ⟨_, frameBytes_padding some⟩
  | rstStream fr =>
    obtain ⟨id, code, offset, rfl, rfl⟩ := ok
    exact ⟨_, frameBytes_rstStream id code offset⟩
  | connectionClose code reason =>
    obtain ⟨small, bound, rfl, rfl⟩ := ok
    exact ⟨_, frameBytes_close small bound rfl rfl rfl ⟨rfl, rfl⟩⟩
  | applicationClose code reason =>
    obtain ⟨small, bound, rfl, rfl⟩ := ok
    exact ⟨_, frameBytes_close small bound rfl rfl rfl ⟨rfl, rfl⟩⟩
  | maxData n =>
    obtain ⟨bound, rfl, rfl⟩ := ok
    exact ⟨_, frameBytes_varint bound rfl rfl rfl ⟨rfl, rfl⟩⟩
  | maxStreamData fr =>
    obtain ⟨id, bound, rfl, rfl⟩ := ok
    exact ⟨_, frameBytes_varints (f := fun streamId maxStreamData => .maxStreamData { streamId, maxStreamData })
      id bound rfl rfl rfl ⟨rfl, rfl⟩⟩
  | maxStreamId n =>
    obtain ⟨bound, rfl, rfl⟩ := ok
    exact ⟨_, frameBytes_varint bound rfl rfl rfl ⟨rfl, rfl⟩⟩
  | ping data =>
    obtain ⟨short, rfl, rfl⟩ := ok
    exact ⟨_, frameBytes_ping short rfl rfl rfl ⟨rfl, rfl⟩⟩
  | blocked n =>
    obtain ⟨bound, rfl, rfl⟩ := ok
    exact ⟨_, frameBytes_varint bound rfl rfl rfl ⟨rfl, rfl⟩⟩
  | streamBlocked streamId offset =>
    obtain ⟨id, bound, rfl, rfl⟩ := ok
    exact ⟨_, frameBytes_varints id bound rfl rfl rfl ⟨rfl, rfl⟩⟩
  | streamIdBlocked n =>
    obtain ⟨bound, rfl, rfl⟩ := ok
    exact ⟨_, frameBytes_varint bound rfl rfl rfl ⟨rfl, rfl⟩⟩
  | newConnectionId seq connId =>
    obtain ⟨small, id, length, rfl⟩ := ok
    exact ⟨_, frameBytes_newConnectionId small id length⟩
  | stopSending fr =>
    obtain ⟨id, code, rfl, rfl⟩ := ok
    exact ⟨_, frameBytes_stopSending id code⟩
  | pong data =>
    obtain ⟨short, rfl, rfl⟩ := ok
    exact ⟨_, frameBytes_ping short rfl rfl rfl ⟨rfl, rfl⟩⟩

theorem FrameBytes.encode {bytes : List UInt8} (written : FrameBytes w bytes) (outlen : Nat) :
    ngtcp2PktEncodeFrame outlen w = if outlen < bytes.length then .error .NOBUF else .ok (bytes, w.encoded) := by
  unfold ngtcp2PktEncodeFrame
  rw [written.len, written.put]
  by_cases short : outlen < bytes.length <;> simp [short, bind, Except.bind, pure, Except.pure, throw, throwThe, MonadExceptOf.throw]

end Frames

inductive EncodedAs : List WireFrame → List UInt8 → Prop where
  | nil : EncodedAs [] []
  | cons {w : WireFrame} {ws : List WireFrame} {bytes rest : List UInt8} (outlen : Nat) (ok : w.Encodable)
    (wrote : ngtcp2PktEncodeFrame outlen w = .ok (bytes, w.encoded)) (before : w.Before rest)
    (more : EncodedAs ws rest) : EncodedAs (w :: ws) (bytes ++ rest)

theorem EncodedAs.decode {ws : List WireFrame} {payload : List UInt8} (encoded : EncodedAs ws payload) {fuel : Nat}
    (enough : payload.length ≤ fuel) : decodeFramesFrom fuel payload = (ws.map WireFrame.encoded, false) := by
  induction encoded generalizing fuel with
  | nil => cases fuel <;> rfl
  | @cons w ws bytes rest outlen ok wrote before _ ih =>
    obtain ⟨bytes', written⟩ := ok.frameBytes
    obtain rfl : bytes' = bytes := by
      rw [written.encode] at wrote
      split at wrote
      · cases wrote
      · exact (Prod.mk.inj (Except.ok.inj wrote)).1
    have read := written.read rest before
    cases bytes' with
    | nil =>
      -- nothing is decoded from an empty payload
      have none := written.read [] fun _ _ => by simp
      cases none
    | cons type body =>
      cases fuel with
      | zero => simp at enough
      | succ fuel =>
        simp only [List.cons_append, List.length_cons, List.length_append] at enough read ⊢
        rw [decodeFramesFrom, read]
        have left : (type :: (body ++ rest)).drop (body.length + 1) = rest := by simp
        simp only [left, ih (show rest.length ≤ fuel by omega), List.map_cons]

/-- The round trip of a frame, whatever the buffer and the bytes behind it, and of a whole payload. -/
theorem frames_roundtrip :
    (∀ w : WireFrame, w.Encodable → w.encoded.fr = w.fr ∧ ∃ bytes : List UInt8,
      (∀ outlen, ngtcp2PktEncodeFrame outlen w =
        if outlen < bytes.length then .error .NOBUF else .ok (bytes, w.encoded)) ∧
      ∀ rest, w.Before rest → ngtcp2PktDecodeFrame (bytes ++ rest) = .ok (some (w.encoded, bytes.length))) ∧
    ∀ ws payload, EncodedAs ws payload → decodeFrames payload = (ws.map WireFrame.encoded, false) := by
  refine ⟨fun w ok => ⟨w.encoded_fr, ?_⟩, fun ws payload encoded => encoded.decode (Nat.le_refl _)⟩
  obtain ⟨bytes, written⟩ := ok.frameBytes
  exact ⟨bytes, written.encode, written.read⟩

end Ngtcp2
