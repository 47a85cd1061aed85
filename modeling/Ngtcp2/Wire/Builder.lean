import Ngtcp2.Wire.Encode
import Ngtcp2.Wire.Header

/-!
# Building a packet in a buffer

A packet is written front to back into a buffer of the application, and the bytes that the AEAD adds are kept free behind
it.
-/

namespace Ngtcp2

open Prog

/-- `ngtcp2_ppe` with the memory of its buffer. `last` is counted from the beginning of the buffer. -/
structure PpeBuf where
  out : List UInt8
  last : Nat
  hdlen : Nat
  pktNum : Nat
  aeadOverhead : Nat
  deriving DecidableEq, Repr

namespace PpeBuf

def init (out : List UInt8) (aeadOverhead : Nat) : PpeBuf :=
  { out := out, last := 0, hdlen := 0, pktNum := 0, aeadOverhead := aeadOverhead }

def left (ppe : PpeBuf) : Nat := sub64 ppe.out.length ppe.last

/-- Bytes are written from `last` on. Behind the end of the buffer there is no memory to write to. -/
def put (bytes : List UInt8) : Prog PpeBuf Err Unit := do
  let ppe ← get
  if ppe.last + bytes.length ≤ ppe.out.length then
    set { ppe with
      out := ppe.out.take ppe.last ++ bytes ++ ppe.out.drop (ppe.last + bytes.length)
      last := ppe.last + bytes.length }
  else throw .ABORT

def encodeHdAs (outlen : Nat) (w : WireHd) : Except Err (List UInt8) :=
  if w.hd.longForm then ngtcp2PktEncodeHdLong outlen w else ngtcp2PktEncodeHdShort outlen w

def encodeHd (w : WireHd) : Prog PpeBuf Err Unit := do
  let ppe ← get
  if ppe.left < ppe.aeadOverhead then throw .NOBUF
  let bytes ← Prog.ofExcept (encodeHdAs (sub64 ppe.left ppe.aeadOverhead) w)
  put bytes
  modify fun ppe => { ppe with hdlen := bytes.length, pktNum := w.hd.pktNum }

def encodeFrame (w : WireFrame) : Prog PpeBuf Err Unit := do
  let ppe ← get
  if ppe.left < ppe.aeadOverhead then throw .NOBUF
  let (bytes, _) ← Prog.ofExcept (ngtcp2PktEncodeFrame (sub64 ppe.left ppe.aeadOverhead) w)
  put bytes

def padding : Prog PpeBuf Err Nat := do
  let ppe ← get
  if ¬ ppe.left ≥ ppe.aeadOverhead then throw .ABORT
  let len := sub64 ppe.left ppe.aeadOverhead
  put (List.replicate len 0)
  pure len

/-- The plaintext that `ngtcp2_ppe_final` hands to the encrypt callback. -/
def payload (ppe : PpeBuf) : List UInt8 := (ppe.out.take ppe.last).drop ppe.hdlen

def destlen (ppe : PpeBuf) : Nat := sub64 ppe.out.length ppe.hdlen

/-- `ngtcp2_ppe_final`. The callback is given `destlen`, the payload and the header, and writes its result over the
payload. -/
def final (encrypt : Nat → List UInt8 → List UInt8 → Option (List UInt8)) : Prog PpeBuf Err (List UInt8) := do
  let ppe ← get
  match encrypt ppe.destlen ppe.payload (ppe.out.take ppe.hdlen) with
  | none => throw .CALLBACK_FAILURE
  | some sealed =>
    set { ppe with last := ppe.hdlen }
    put sealed
    let ppe ← get
    pure (ppe.out.take ppe.last)

end PpeBuf

def WireFrame.Sized (w : WireFrame) : Prop :=
  ∀ seq connId, w.fr = .newConnectionId seq connId → w.statelessResetToken.length = 16

def hdEncoding (w : WireHd) : List UInt8 :=
  match PpeBuf.encodeHdAs longHeaderlen w with
  | .ok bytes => bytes
  | .error _ => []

def frameEncoding (w : WireFrame) : List UInt8 :=
  match putFrame w with
  | .ok bytes => bytes
  | .error _ => []

inductive PpeBuilt (out : List UInt8) (aeadOverhead : Nat) (w : WireHd) : PpeBuf → List UInt8 → Prop
  | hd {ppe : PpeBuf} (run : PpeBuf.encodeHd w (.init out aeadOverhead) = (.ok (), ppe)) :
    PpeBuilt out aeadOverhead w ppe (hdEncoding w)
  | frame {ppe ppe' : PpeBuf} {plain : List UInt8} {fr : WireFrame} (built : PpeBuilt out aeadOverhead w ppe plain)
    (sized : fr.Sized) (run : PpeBuf.encodeFrame fr ppe = (.ok (), ppe')) :
    PpeBuilt out aeadOverhead w ppe' (plain ++ frameEncoding fr)
  | refused {ppe ppe' : PpeBuf} {plain : List UInt8} {fr : WireFrame} (built : PpeBuilt out aeadOverhead w ppe plain)
    (sized : fr.Sized) (run : PpeBuf.encodeFrame fr ppe = (.error .NOBUF, ppe')) : PpeBuilt out aeadOverhead w ppe' plain
  | padding {ppe ppe' : PpeBuf} {plain : List UInt8} {len : Nat} (built : PpeBuilt out aeadOverhead w ppe plain)
    (run : PpeBuf.padding ppe = (.ok len, ppe')) : PpeBuilt out aeadOverhead w ppe' (plain ++ List.replicate len 0)

section Encoders

variable {w : WireFrame} {ns : List Nat} {n fixed : Nat}

-- a length that could be computed comes from integers that can be written

theorem ngtcp2PutVarintLen_cases (n : Nat) :
    n < varintBound ∨ ngtcp2PutVarintLen n = .error .ABORT := by
  unfold ngtcp2PutVarintLen varintBound
  split_ifs
  all_goals first | exact .inr rfl | exact .inl (by omega)

theorem putVarintLens_cases (ns : List Nat) : (∀ n ∈ ns, n < varintBound) ∨ putVarintLens ns = .error .ABORT := by
  induction ns with
  | nil => exact .inl nofun
  | cons n ns ih =>
    unfold putVarintLens
    rcases ngtcp2PutVarintLen_cases n with small | failed
    · rw [ngtcp2PutVarintLen_eq small]
      rcases ih with others | failed
      · exact .inl (List.forall_mem_cons.mpr ⟨small, others⟩)
      · rw [failed]
        exact .inr rfl
    · rw [failed]
      exact .inr rfl

theorem encodedLen_cases (fixed : Nat) (ns : List Nat) :
    (∀ n ∈ ns, n < varintBound) ∧ encodedLen fixed ns = .ok (fixed + (ns.flatMap varintBytes).length) ∨
      encodedLen fixed ns = .error .ABORT := by
  rcases putVarintLens_cases ns with small | failed
  · exact .inl ⟨small, encodedLen_eq small fixed⟩
  · unfold encodedLen
    rw [failed]
    exact .inr rfl

theorem putFrame_cases (sized : w.Sized) :
    (∃ bytes, ngtcp2PktEncodeFrameLen w.fr = .ok bytes.length ∧ putFrame w = .ok bytes) ∨
      ngtcp2PktEncodeFrameLen w.fr = .error .ABORT := by
  obtain ⟨fr, flags, token⟩ := w
  have whole {fixed : Nat} {ns : List Nat} {put : Except Err (List UInt8)}
      (written : (∀ n ∈ ns, n < varintBound) →
        ∃ bytes, put = .ok bytes ∧ bytes.length = fixed + (ns.flatMap varintBytes).length) :
      (∃ bytes, encodedLen fixed ns = .ok bytes.length ∧ put = .ok bytes) ∨ encodedLen fixed ns = .error .ABORT := by
    rcases encodedLen_cases fixed ns with ⟨small, len⟩ | failed
    · obtain ⟨bytes, put, length⟩ := written small
      exact .inl ⟨bytes, by rw [len, length], put⟩
    · exact .inr failed
  cases fr with
  | stream fr =>
    apply whole
    intro small
    have bounds : ∀ n ∈ [fr.streamId] ++ (if fr.offset ≠ 0 then [fr.offset] else []) ++ [fr.datalen], n < varintBound := by
      intro n member
      apply small
      simp only [List.mem_append] at member ⊢
      simp only [List.mem_cons] at member ⊢
      tauto
    simp only [putFrame, putVarints_eq bounds]
    refine ⟨_, rfl, ?_⟩
    simp only [List.length_cons, List.length_append, List.flatMap_append, List.flatMap_cons, List.flatMap_nil,
      List.length_nil]
    unfold StreamFrame.datalen
    omega
  | ack fr =>
    apply whole
    intro small
    have head := putVarints_eq fun n member => small n (List.mem_append_left _ member)
    have blks := putVarints_eq fun n member => small n (List.mem_append_right _ member)
    simp only [putFrame, head, blks]
    refine ⟨_, rfl, ?_⟩
    rw [List.flatMap_append, List.length_cons, List.length_append]
    omega
  | padding len => exact .inl ⟨List.replicate len 0, by simp [ngtcp2PktEncodeFrameLen], rfl⟩
  | rstStream fr =>
    apply whole
    intro small
    have id := small fr.streamId (by simp)
    have offset := small fr.finalOffset (by simp)
    simp only [putFrame, ngtcp2PutVarint_eq id, ngtcp2PutVarint_eq offset]
    refine ⟨_, rfl, ?_⟩
    simp
    omega
  | connectionClose code reason | applicationClose code reason =>
    apply whole
    intro small
    have length := small reason.length (by simp)
    simp only [putFrame, ngtcp2PutVarint_eq length]
    refine ⟨_, rfl, ?_⟩
    simp
    omega
  | maxData n | maxStreamId n | blocked n | streamIdBlocked n =>
    apply whole
    intro small
    have value := small n (by simp)
    simp only [putFrame, ngtcp2PutVarint_eq value]
    refine ⟨_, rfl, ?_⟩
    simp
    omega
  | maxStreamData fr | streamBlocked id offset =>
    apply whole
    intro small
    simp only [putFrame, putVarints_eq small]
    refine ⟨_, rfl, ?_⟩
    rw [List.length_cons]
    omega
  | ping data | pong data =>
    refine .inl ⟨_, ?_, rfl⟩
    simp only [ngtcp2PktEncodeFrameLen, List.length_cons]
    congr 1
    omega
  | newConnectionId seq connId =>
    have length := sized seq connId rfl
    apply whole
    intro small
    have value := small seq (by simp)
    simp only [putFrame, ngtcp2PutVarint_eq value]
    refine ⟨_, rfl, ?_⟩
    dsimp only at length
    simp [length]
    omega
  | stopSending fr =>
    apply whole
    intro small
    have id := small fr.streamId (by simp)
    simp only [putFrame, ngtcp2PutVarint_eq id]
    refine ⟨_, rfl, ?_⟩
    simp
    omega

theorem ngtcp2PktEncodeFrame_eq (outlen : Nat) {bytes : List UInt8} (len : ngtcp2PktEncodeFrameLen w.fr = .ok bytes.length)
    (written : putFrame w = .ok bytes) :
    ngtcp2PktEncodeFrame outlen w = if outlen < bytes.length then .error .NOBUF else .ok (bytes, w.encoded) := by
  unfold ngtcp2PktEncodeFrame
  rw [len, written]
  change (if outlen < bytes.length then _ else if bytes.length = bytes.length then _ else _) = _
  rw [if_pos rfl]
  rfl

theorem ngtcp2PktEncodeFrame_cases (outlen : Nat) (sized : w.Sized) :
    ngtcp2PktEncodeFrame outlen w = .ok (frameEncoding w, w.encoded) ∧ (frameEncoding w).length ≤ outlen ∨
      ngtcp2PktEncodeFrame outlen w = .error .NOBUF ∨
      ngtcp2PktEncodeFrame outlen w = .error .ABORT ∧ ngtcp2PktEncodeFrameLen w.fr = .error .ABORT := by
  rcases putFrame_cases sized with ⟨bytes, len, written⟩ | failed
  · have same : frameEncoding w = bytes := by
      unfold frameEncoding
      rw [written]
    rw [same, ngtcp2PktEncodeFrame_eq outlen len written]
    by_cases short : outlen < bytes.length
    · exact .inr (.inl (if_pos short))
    · exact .inl ⟨if_neg short, Nat.le_of_not_lt short⟩
  · refine .inr (.inr ⟨?_, failed⟩)
    unfold ngtcp2PktEncodeFrame
    rw [failed]
    rfl

theorem encodeHdAs_eq (w : WireHd) :
    (∃ n, ngtcp2PktEncodeHdLen w.hd = .ok n ∧ (hdEncoding w).length = n ∧ ∀ outlen,
      PpeBuf.encodeHdAs outlen w = if outlen < n then .error .NOBUF else .ok (hdEncoding w)) ∨
    ngtcp2PktEncodeHdLen w.hd = .error .INVALID_ARGUMENT ∧ ∀ outlen, PpeBuf.encodeHdAs outlen w = .error .INVALID_ARGUMENT := by
  unfold hdEncoding PpeBuf.encodeHdAs ngtcp2PktEncodeHdLen
  cases w.hd.longForm with
  | true =>
    refine .inl ⟨longHeaderlen, rfl, ?_, fun outlen => rfl⟩
    simp [ngtcp2PktEncodeHdLong, longHeaderlen, length_beBytes]
  | false =>
    have type : w.hd.type.pktNumLen = none ∨ ∃ n, n ≤ 4 ∧ w.hd.type.pktNumLen = some n := by
      cases w.hd.type <;> simp [PktType.pktNumLen]
    simp only [Bool.false_eq_true, if_false]
    unfold ngtcp2PktEncodeHdShort
    rcases type with none | ⟨n, small, some⟩
    · refine .inr ⟨?_, fun outlen => by rw [none]⟩
      cases same : w.hd.type <;> rw [same] at none <;> first | rfl | cases none
    · have length (first : UInt8) :
          (first :: ((if w.hd.omitConnId then [] else beBytes 8 w.hd.connId) ++ beBytes n w.hd.pktNum)).length =
            1 + (if w.hd.omitConnId then 0 else 8) + n := by
        cases w.hd.omitConnId <;> simp [length_beBytes] <;> omega
      have enough : ¬ longHeaderlen < 1 + (if w.hd.omitConnId then 0 else 8) + n := by
        unfold longHeaderlen
        split_ifs <;> omega
      simp only [some, if_pos (length _), if_neg enough]
      refine .inl ⟨1 + (if w.hd.omitConnId then 0 else 8) + n, ?_, length _, fun outlen => rfl⟩
      cases same : w.hd.type <;> rw [same] at some <;> simp only [PktType.pktNumLen] at some <;>
        first | (cases some; cases w.hd.omitConnId <;> rfl) | cases some

end Encoders

namespace PpeBuf

variable {ppe : PpeBuf} {out plain bytes : List UInt8} {aeadOverhead : Nat} {w : WireHd} {fr : WireFrame}

structure Holds (ppe : PpeBuf) (out : List UInt8) (aeadOverhead : Nat) (plain : List UInt8) : Prop where
  overhead : ppe.aeadOverhead = aeadOverhead
  size : ppe.out.length = out.length
  reserve : ppe.last + aeadOverhead ≤ out.length
  front : ppe.out.take ppe.last = plain
  rest : ppe.out.drop ppe.last = out.drop ppe.last

theorem put_fits (fits : ppe.last + bytes.length ≤ ppe.out.length) :
    put bytes ppe = (.ok (),
      { ppe with
        out := ppe.out.take ppe.last ++ bytes ++ ppe.out.drop (ppe.last + bytes.length)
        last := ppe.last + bytes.length }) := by
  change (if ppe.last + bytes.length ≤ ppe.out.length then _ else _ : Prog PpeBuf Err Unit) ppe = _
  rw [if_pos fits]
  rfl

namespace Holds

variable (holds : ppe.Holds out aeadOverhead plain) (size : out.length < 2 ^ 64)

include holds size

theorem left_eq : ppe.left = out.length - ppe.last := by
  have := holds.reserve
  unfold left
  rw [holds.size]
  exact sub64_eq (by omega) (by omega)

theorem enough : ¬ ppe.left < ppe.aeadOverhead := by
  have := holds.reserve
  rw [holds.left_eq size, holds.overhead]
  omega

theorem space_eq : sub64 ppe.left ppe.aeadOverhead = out.length - ppe.last - aeadOverhead := by
  have := holds.reserve
  rw [holds.left_eq size, holds.overhead]
  exact sub64_eq (by omega) (by omega)

theorem put (fits : bytes.length ≤ sub64 ppe.left ppe.aeadOverhead) :
    ∃ ppe', PpeBuf.put bytes ppe = (.ok (), ppe') ∧ ppe'.Holds out aeadOverhead (plain ++ bytes) ∧
      ppe'.last = ppe.last + bytes.length ∧ ppe'.hdlen = ppe.hdlen ∧ ppe'.pktNum = ppe.pktNum := by
  rw [holds.space_eq size] at fits
  have reserve := holds.reserve
  have length := holds.size
  have front : (ppe.out.take ppe.last).length = ppe.last := by
    rw [List.length_take]
    omega
  refine ⟨_, put_fits (by omega), ?_, rfl, rfl, rfl⟩
  exact {
    overhead := holds.overhead
    size := by simp; omega
    reserve := by dsimp only; omega
    front := by
      dsimp only
      rw [List.take_left' (by rw [List.length_append, front]), holds.front]
    rest := by
      dsimp only
      rw [List.drop_left' (by rw [List.length_append, front]), ← List.drop_drop, holds.rest, List.drop_drop] }

theorem encodeFrame_eq (fr : WireFrame) :
    PpeBuf.encodeFrame fr ppe =
      (Prog.ofExcept (ngtcp2PktEncodeFrame (sub64 ppe.left ppe.aeadOverhead) fr) >>= fun r => PpeBuf.put r.1) ppe := by
  change (if ppe.left < ppe.aeadOverhead then _ else _ : Prog PpeBuf Err Unit) ppe = _
  rw [if_neg (holds.enough size)]

theorem encodeFrame (sized : fr.Sized) :
    (∃ ppe', PpeBuf.encodeFrame fr ppe = (.ok (), ppe') ∧ ppe'.Holds out aeadOverhead (plain ++ frameEncoding fr) ∧
      ppe.last ≤ ppe'.last ∧ ppe'.hdlen = ppe.hdlen) ∨
    PpeBuf.encodeFrame fr ppe = (.error .NOBUF, ppe) ∨
    PpeBuf.encodeFrame fr ppe = (.error .ABORT, ppe) ∧ ngtcp2PktEncodeFrameLen fr.fr = .error .ABORT := by
  rw [holds.encodeFrame_eq size]
  rcases ngtcp2PktEncodeFrame_cases (sub64 ppe.left ppe.aeadOverhead) sized with ⟨run, fits⟩ | run | ⟨run, failed⟩
  · obtain ⟨ppe', written, holds', last, hdlen, _⟩ := holds.put size fits
    rw [run]
    exact .inl ⟨ppe', written, holds', by omega, hdlen⟩
  · rw [run]
    exact .inr (.inl rfl)
  · rw [run]
    exact .inr (.inr ⟨rfl, failed⟩)

theorem padding :
    ∃ ppe', PpeBuf.padding ppe = (.ok (sub64 ppe.left ppe.aeadOverhead), ppe') ∧
      ppe'.Holds out aeadOverhead (plain ++ List.replicate (sub64 ppe.left ppe.aeadOverhead) 0) ∧
      ppe.last ≤ ppe'.last ∧ ppe'.hdlen = ppe.hdlen := by
  have fits : (List.replicate (sub64 ppe.left ppe.aeadOverhead) (0 : UInt8)).length ≤ sub64 ppe.left ppe.aeadOverhead := by
    rw [List.length_replicate]
  obtain ⟨ppe', written, holds', last, hdlen, _⟩ := holds.put size fits
  refine ⟨ppe', ?_, holds', by omega, hdlen⟩
  change (if ¬ ppe.left ≥ ppe.aeadOverhead then _ else _ : Prog PpeBuf Err Nat) ppe = _
  rw [if_neg (by have := holds.enough size; omega)]
  exact Prog.bind_ok written

theorem encodeHd_eq (w : WireHd) :
    PpeBuf.encodeHd w ppe =
      (Prog.ofExcept (encodeHdAs (sub64 ppe.left ppe.aeadOverhead) w) >>= fun bytes => do
        PpeBuf.put bytes
        modify fun ppe => { ppe with hdlen := bytes.length, pktNum := w.hd.pktNum }) ppe := by
  change (if ppe.left < ppe.aeadOverhead then _ else _ : Prog PpeBuf Err Unit) ppe = _
  rw [if_neg (holds.enough size)]

theorem encodeHd (w : WireHd) :
    (∃ ppe', PpeBuf.encodeHd w ppe = (.ok (), ppe') ∧ ppe'.Holds out aeadOverhead (plain ++ hdEncoding w) ∧
      ppe'.hdlen = (hdEncoding w).length ∧ ppe'.hdlen ≤ ppe'.last) ∨
    ∃ e, PpeBuf.encodeHd w ppe = (.error e, ppe) := by
  rw [holds.encodeHd_eq size]
  rcases encodeHdAs_eq w with ⟨n, _, length, run⟩ | ⟨_, run⟩
  · rw [run]
    by_cases short : sub64 ppe.left ppe.aeadOverhead < n
    · rw [if_pos short]
      exact .inr ⟨_, rfl⟩
    · obtain ⟨ppe', written, holds', last, _⟩ := holds.put size (length.trans_le (Nat.le_of_not_lt short))
      rw [if_neg short]
      refine .inl ⟨_, Prog.bind_ok written, ?_, rfl, ?_⟩
      · exact ⟨holds'.overhead, holds'.size, holds'.reserve, holds'.front, holds'.rest⟩
      · dsimp only
        rw [last]
        exact Nat.le_add_left _ _
  · rw [run]
    exact .inr ⟨_, rfl⟩

end Holds

structure Shows (ppe : PpeBuf) (q : Ppe) : Prop where
  outlen : q.outlen = ppe.out.length
  len : q.len = ppe.last
  hdlen : q.hdlen = ppe.hdlen
  pktNum : q.pktNum = ppe.pktNum
  overhead : q.aeadOverhead = ppe.aeadOverhead

namespace Shows

variable {q : Ppe} (same : ppe.Shows q) (holds : ppe.Holds out aeadOverhead plain) (size : out.length < 2 ^ 64)

include same holds size

theorem space : ¬ q.bufLeft < q.aeadOverhead ∧ q.bufLeft - q.aeadOverhead = sub64 ppe.left ppe.aeadOverhead := by
  have left : q.bufLeft = ppe.left := by
    unfold Ppe.bufLeft
    rw [holds.left_eq size, same.outlen, same.len, holds.size]
  rw [left, same.overhead, holds.space_eq size]
  exact ⟨holds.enough size, by rw [holds.left_eq size, holds.overhead]⟩

theorem put (fits : bytes.length ≤ sub64 ppe.left ppe.aeadOverhead) (frames : List Frame) :
    ∃ ppe', PpeBuf.put bytes ppe = (.ok (), ppe') ∧
      ppe'.Shows { q with len := q.len + bytes.length, frames := frames } := by
  obtain ⟨ppe', written, holds', last, hdlen, pktNum⟩ := holds.put size fits
  refine ⟨ppe', written, ?_, ?_, same.hdlen.trans hdlen.symm, same.pktNum.trans pktNum.symm, ?_⟩
  · exact same.outlen.trans (holds.size.trans holds'.size.symm)
  · rw [last, ← same.len]
  · exact same.overhead.trans (holds.overhead.trans holds'.overhead.symm)

theorem encodeFrame (sized : fr.Sized) :
    match ngtcp2PpeEncodeFrame q fr.fr with
    | .ok q' => ∃ ppe', PpeBuf.encodeFrame fr ppe = (.ok (), ppe') ∧ ppe'.Shows q'
    | .error e => PpeBuf.encodeFrame fr ppe = (.error e, ppe) := by
  obtain ⟨enough, space⟩ := same.space holds size
  rw [holds.encodeFrame_eq size, ngtcp2PpeEncodeFrame, if_neg enough, space]
  rcases putFrame_cases sized with ⟨bytes, len, written⟩ | failed
  · rw [len, ngtcp2PktEncodeFrame_eq _ len written]
    dsimp only
    by_cases short : sub64 ppe.left ppe.aeadOverhead < bytes.length
    · rw [if_pos short, if_pos short]
      rfl
    · rw [if_neg short, if_neg short]
      exact same.put holds size (Nat.le_of_not_lt short) _
  · unfold ngtcp2PktEncodeFrame
    rw [failed]
    rfl

theorem encodeHd (w : WireHd) :
    match ngtcp2PpeEncodeHd q w.hd with
    | .ok q' => ∃ ppe', PpeBuf.encodeHd w ppe = (.ok (), ppe') ∧ ppe'.Shows q'
    | .error e => PpeBuf.encodeHd w ppe = (.error e, ppe) := by
  obtain ⟨enough, space⟩ := same.space holds size
  rw [holds.encodeHd_eq size, ngtcp2PpeEncodeHd, if_neg enough, space]
  rcases encodeHdAs_eq w with ⟨n, len, length, run⟩ | ⟨len, run⟩
  · rw [len, run]
    dsimp only
    by_cases short : sub64 ppe.left ppe.aeadOverhead < n
    · rw [if_pos short, if_pos short]
      rfl
    · rw [if_neg short, if_neg short]
      obtain ⟨ppe', written, shown⟩ := same.put holds size (length.trans_le (Nat.le_of_not_lt short)) q.frames
      rw [length] at shown
      exact ⟨_, Prog.bind_ok written, shown.outlen, shown.len, length.symm, rfl, shown.overhead⟩
  · rw [len, run]
    rfl

theorem padding :
    ∃ len q' ppe', ngtcp2PpePadding q = .ok (len, q') ∧ PpeBuf.padding ppe = (.ok len, ppe') ∧ ppe'.Shows q' := by
  obtain ⟨enough, space⟩ := same.space holds size
  have fits : (List.replicate (sub64 ppe.left ppe.aeadOverhead) (0 : UInt8)).length ≤ sub64 ppe.left ppe.aeadOverhead := by
    rw [List.length_replicate]
  obtain ⟨ppe', written, shown⟩ := same.put holds size fits (q.frames ++ [.padding (sub64 ppe.left ppe.aeadOverhead)])
  rw [List.length_replicate] at shown
  have reserve := holds.enough size
  refine ⟨sub64 ppe.left ppe.aeadOverhead, _, ppe', ?_, ?_, shown⟩
  · unfold ngtcp2PpePadding
    rw [if_neg (by omega), space]
  · change (if ¬ ppe.left ≥ ppe.aeadOverhead then _ else _ : Prog PpeBuf Err Nat) ppe = _
    rw [if_neg (by omega)]
    exact Prog.bind_ok written

end Shows

theorem encodeHd_short (short : ppe.left < ppe.aeadOverhead) : encodeHd w ppe = (.error .NOBUF, ppe) := by
  change (if ppe.left < ppe.aeadOverhead then _ else _ : Prog PpeBuf Err Unit) ppe = _
  rw [if_pos short]
  rfl

theorem encodeHd_init (aeadOverhead : Nat) (w : WireHd) (size : out.length < 2 ^ 64) :
    (∃ ppe, encodeHd w (init out aeadOverhead) = (.ok (), ppe) ∧ ppe.Holds out aeadOverhead (hdEncoding w) ∧
      ppe.hdlen = (hdEncoding w).length ∧ ppe.hdlen ≤ ppe.last) ∨
    ∃ e, encodeHd w (init out aeadOverhead) = (.error e, init out aeadOverhead) := by
  have left : (init out aeadOverhead).left = out.length := sub64_eq (Nat.zero_le _) size
  by_cases fits : aeadOverhead ≤ out.length
  · have empty : (init out aeadOverhead).Holds out aeadOverhead [] :=
      ⟨rfl, rfl, (Nat.zero_add _).trans_le fits, rfl, rfl⟩
    exact empty.encodeHd size w
  · have short : (init out aeadOverhead).left < (init out aeadOverhead).aeadOverhead := by
      rw [left]
      exact Nat.lt_of_not_le fits
    exact .inr ⟨_, encodeHd_short short⟩

end PpeBuf

theorem PpeBuilt.holds {out plain : List UInt8} {aeadOverhead : Nat} {w : WireHd} {ppe : PpeBuf}
    (size : out.length < 2 ^ 64) (built : PpeBuilt out aeadOverhead w ppe plain) :
    ppe.Holds out aeadOverhead plain ∧ ppe.hdlen = (hdEncoding w).length ∧ ppe.hdlen ≤ ppe.last := by
  induction built with
  | hd run =>
    rcases PpeBuf.encodeHd_init _ w size with ⟨ppe', run', holds, hdlen, last⟩ | ⟨e, failed⟩
    · obtain ⟨_, rfl⟩ := Prod.mk.inj (run.symm.trans run')
      exact ⟨holds, hdlen, last⟩
    · cases run.symm.trans failed
  | frame _ sized run ih =>
    obtain ⟨holds, hdlen, last⟩ := ih
    rcases holds.encodeFrame size sized with ⟨ppe', run', holds', more, same⟩ | refused | ⟨failed, _⟩
    · obtain ⟨_, rfl⟩ := Prod.mk.inj (run.symm.trans run')
      exact ⟨holds', same.trans hdlen, by omega⟩
    · cases run.symm.trans refused
    · cases run.symm.trans failed
  | refused _ sized run ih =>
    obtain ⟨holds, hdlen, last⟩ := ih
    rcases holds.encodeFrame size sized with ⟨ppe', run', _⟩ | refused | ⟨failed, _⟩
    · cases run.symm.trans run'
    · obtain ⟨_, rfl⟩ := Prod.mk.inj (run.symm.trans refused)
      exact ⟨holds, hdlen, last⟩
    · cases run.symm.trans failed
  | padding _ run ih =>
    obtain ⟨holds, hdlen, last⟩ := ih
    obtain ⟨ppe', run', holds', more, same⟩ := holds.padding size
    obtain ⟨len, rfl⟩ := Prod.mk.inj (run.symm.trans run')
    obtain rfl := Except.ok.inj len
    exact ⟨holds', same.trans hdlen, by omega⟩

section Built

variable {out plain : List UInt8} {aeadOverhead : Nat} {w : WireHd} {ppe : PpeBuf}

theorem PpeBuilt.head (built : PpeBuilt out aeadOverhead w ppe plain) : ∃ frames, plain = hdEncoding w ++ frames := by
  induction built with
  | hd run => exact ⟨[], (List.append_nil _).symm⟩
  | refused _ _ _ ih => exact ih
  | frame _ _ _ ih | padding _ _ ih =>
    obtain ⟨frames, rfl⟩ := ih
    exact ⟨_, List.append_assoc _ _ _⟩

theorem PpeBuilt.destlen (size : out.length < 2 ^ 64) (built : PpeBuilt out aeadOverhead w ppe plain) :
    ppe.payload.length + aeadOverhead ≤ ppe.destlen ∧ ppe.destlen = out.length - ppe.hdlen ∧ ppe.hdlen ≤ ppe.last := by
  obtain ⟨holds, _, header⟩ := built.holds size
  have reserve := holds.reserve
  have destlen : ppe.destlen = out.length - ppe.hdlen := by
    unfold PpeBuf.destlen
    rw [holds.size]
    exact sub64_eq (by omega) size
  refine ⟨?_, destlen, header⟩
  unfold PpeBuf.payload
  rw [destlen, List.length_drop, List.length_take, holds.size]
  omega

theorem PpeBuilt.final (size : out.length < 2 ^ 64) (built : PpeBuilt out aeadOverhead w ppe plain)
    {encrypt : Nat → List UInt8 → List UInt8 → Option (List UInt8)} {sealed : List UInt8}
    (run : encrypt ppe.destlen ppe.payload (hdEncoding w) = some sealed)
    (short : sealed.length ≤ ppe.payload.length + aeadOverhead) :
    ∃ ppe', PpeBuf.final encrypt ppe = (.ok (hdEncoding w ++ sealed), ppe') := by
  obtain ⟨holds, hdlen, header⟩ := built.holds size
  obtain ⟨frames, rfl⟩ := built.head
  obtain ⟨room, destlen, _⟩ := built.destlen size
  have reserve := holds.reserve
  have front : ppe.out.take ppe.hdlen = hdEncoding w := by
    have taken : ppe.out.take ppe.hdlen = (ppe.out.take ppe.last).take ppe.hdlen := by
      rw [List.take_take, Nat.min_eq_left header]
    rw [taken, holds.front, hdlen, List.take_left]
  have fits : ppe.hdlen + sealed.length ≤ ppe.out.length := by
    rw [holds.size]
    omega
  have written : PpeBuf.put sealed { ppe with last := ppe.hdlen } = (.ok (),
      { ppe with
        out := ppe.out.take ppe.hdlen ++ sealed ++ ppe.out.drop (ppe.hdlen + sealed.length)
        last := ppe.hdlen + sealed.length }) := PpeBuf.put_fits fits
  have packet : (ppe.out.take ppe.hdlen ++ sealed ++ ppe.out.drop (ppe.hdlen + sealed.length)).take
      (ppe.hdlen + sealed.length) = hdEncoding w ++ sealed := by
    rw [front, hdlen, List.take_left' (List.length_append ..)]
  have ends : PpeBuf.final encrypt ppe = (do
      set { ppe with last := ppe.hdlen }
      PpeBuf.put sealed
      let ppe ← get
      pure (ppe.out.take ppe.last) : Prog PpeBuf Err (List UInt8)) ppe := by
    change (match encrypt ppe.destlen ppe.payload (ppe.out.take ppe.hdlen) with
      | none => throw .CALLBACK_FAILURE
      | some sealed => do
        set { ppe with last := ppe.hdlen }
        PpeBuf.put sealed
        let ppe ← get
        pure (ppe.out.take ppe.last) : Prog PpeBuf Err (List UInt8)) ppe = _
    rw [front, run]
  rw [ends, ← packet]
  exact ⟨_, (Prog.bind_ok rfl).trans (Prog.bind_ok written)⟩

end Built

/-- Behind a header the bytes of the AEAD stay free, a refused frame changes nothing, and the plaintext is the
header with the accepted frames and the padding. -/
theorem ppe_bounded (out : List UInt8) (aeadOverhead : Nat) (w : WireHd) (size : out.length < 2 ^ 64) :
    (∀ e ppe, PpeBuf.encodeHd w (.init out aeadOverhead) = (.error e, ppe) → ppe = .init out aeadOverhead) ∧
    ∀ ppe plain, PpeBuilt out aeadOverhead w ppe plain →
      ppe.out.length = out.length ∧ ppe.last + aeadOverhead ≤ out.length ∧
      ppe.out.take ppe.last = plain ∧ ppe.out.drop ppe.last = out.drop ppe.last ∧
      (∃ len ppe', PpeBuf.padding ppe = (.ok len, ppe')) ∧
      ppe.payload.length + aeadOverhead ≤ ppe.destlen ∧
      ∀ fr : WireFrame, fr.Sized →
        (∃ ppe', PpeBuf.encodeFrame fr ppe = (.ok (), ppe')) ∨
        PpeBuf.encodeFrame fr ppe = (.error .NOBUF, ppe) ∨
        PpeBuf.encodeFrame fr ppe = (.error .ABORT, ppe) ∧ ngtcp2PktEncodeFrameLen fr.fr = .error .ABORT := by
  refine ⟨fun e ppe run => ?_, fun ppe plain built => ?_⟩
  · rcases PpeBuf.encodeHd_init aeadOverhead w size with ⟨ppe', run', _⟩ | ⟨e', failed⟩
    · cases run.symm.trans run'
    · exact (Prod.mk.inj (run.symm.trans failed)).2
  · obtain ⟨holds, _, _⟩ := built.holds size
    obtain ⟨ppe', padded, _⟩ := holds.padding size
    refine ⟨holds.size, holds.reserve, holds.front, holds.rest, ⟨_, ppe', padded⟩, (built.destlen size).1,
      fun fr sized => ?_⟩
    rcases holds.encodeFrame size sized with ⟨ppe', run, _⟩ | others
    · exact .inl ⟨ppe', run⟩
    · exact .inr others

def pingPpe : PpeBuf :=
  (PpeBuf.encodeFrame (Frame.ping []).plain
    (PpeBuf.encodeHd ⟨⟨true, false, .INITIAL, 7, 1, 0⟩, false⟩ (.init (List.replicate 64 0xff) 16)).2).2

theorem ppe_bounded_ping :
    pingPpe.last = 19 ∧ pingPpe.out.take 19 = hdEncoding ⟨⟨true, false, .INITIAL, 7, 1, 0⟩, false⟩ ++ [0x07, 0x00] ∧
      pingPpe.payload.length + 16 ≤ pingPpe.destlen ∧
      PpeBuf.encodeFrame (Frame.padding 30).plain pingPpe = (.error .NOBUF, pingPpe) := by
  have ping : (Frame.ping []).plain.Sized := nofun
  have built : PpeBuilt (List.replicate 64 0xff) 16 ⟨⟨true, false, .INITIAL, 7, 1, 0⟩, false⟩ pingPpe
      (hdEncoding ⟨⟨true, false, .INITIAL, 7, 1, 0⟩, false⟩ ++ frameEncoding (Frame.ping []).plain) :=
    .frame (.hd rfl) ping rfl
  have bounded := ppe_bounded (List.replicate 64 0xff) 16 ⟨⟨true, false, .INITIAL, 7, 1, 0⟩, false⟩ (by decide)
  obtain ⟨_, _, plain, _, _, space, _⟩ := bounded.2 _ _ built
  exact ⟨rfl, plain, space, rfl⟩

end Ngtcp2
