import Ngtcp2.Wire.Decode

/-!
# What the frame decoder accepts

The decoder never reads outside of the payload and always moves on.
-/

namespace Ngtcp2

open Grammar

section Found

variable {s : List UInt8}

theorem wlp_varint {Q : Nat → List UInt8 → Prop} (each : ∀ n rest, n < varintBound → rest <:+ s → Q n rest) :
    wlp varint Q s :=
  fun n rest found => each n rest (varint_lt found) (varint_local s n rest found)

theorem wlp_sizedData {Q : List UInt8 → List UInt8 → Prop}
    (each : ∀ data rest, data ++ rest <:+ s → data.length < varintBound → Q data rest) : wlp sizedData Q s :=
  wlp_bind <| wlp_varint fun n mid bound tail => wlp_bytes fun data rest split length =>
    each data rest (split ▸ tail) (by omega)

theorem wlp_shortData {Q : List UInt8 → List UInt8 → Prop}
    (each : ∀ data rest, data ++ rest <:+ s → Q data rest) : wlp shortData Q s := by
  refine wlp_bind fun n mid found => wlp_bytes fun data rest split _ => each data rest ?_
  rw [split]
  exact Local.byte s n mid found

def Frame.data? : Frame → Option (List UInt8)
  | .stream fr => some fr.data
  | .connectionClose _ reason | .applicationClose _ reason => some reason
  | .ping data | .pong data => some data
  | _ => none

/-- A frame found at the front of `s` before `rest`: it points to bytes that end where `rest` begins. -/
structure Found (s : List UInt8) (fr : Frame) (rest : List UInt8) : Prop where
  tail : rest <:+ s
  data : ∀ data, fr.data? = some data → data ++ rest <:+ s
  wire : s.length < varintBound → fr.WireOk

theorem streamBody_front (type : UInt8) : wlp (streamBody type) (fun w rest => Found s w.fr rest) s := by
  refine wlp_bind <| wlp_varint fun streamId mid id first => wlp_bind ?_
  have offsetOk : wlp (if offBit type then varint else pure 0)
      (fun offset mid => offset < varintBound ∧ mid <:+ s) mid := by
    split
    · exact wlp_varint fun offset rest bound tail => ⟨bound, tail.trans first⟩
    · exact wlp_pure ⟨by decide, first⟩
  intro offset mid' found
  obtain ⟨bound, second⟩ := offsetOk offset mid' found
  have dataOk : wlp (if lenBit type then sizedData else remainder) (fun data rest => data ++ rest <:+ s) mid' := by
    split
    · exact wlp_sizedData fun data rest tail _ => tail.trans second
    · rintro _ _ ⟨rfl, rfl⟩
      simpa using second
  refine wlp_bind fun data rest found => wlp_pure ?_
  have whole := dataOk data rest found
  refine ⟨(List.suffix_append data rest).trans whole, fun _ here => Option.some.inj here ▸ whole, fun short => ?_⟩
  have length := whole.length_le
  rw [List.length_append] at length
  exact ⟨id, bound, show data.length < _ by omega⟩

theorem ackBlk_front (s : List UInt8) :
    wlp ackBlk (fun blk rest => (blk.gap < varintBound ∧ blk.blklen < varintBound) ∧ rest <:+ s) s :=
  wlp_bind <| wlp_varint fun _ _ gap first => wlp_bind <| wlp_varint fun _ _ blklen second =>
    wlp_pure ⟨⟨gap, blklen⟩, second.trans first⟩

theorem ackBody_front : wlp ackBody (fun w rest => Found s w.fr rest) s := by
  refine wlp_bind <| wlp_varint fun largestAck _ largest first => wlp_bind <| wlp_varint fun _ _ _ second =>
    wlp_bind <| wlp_varint fun numBlks _ _ third => wlp_bind <| wlp_varint fun firstAckBlklen _ blklen fourth =>
    wlp_bind fun blks rest found => wlp_pure ?_
  obtain ⟨each, last⟩ := wlp_many ackBlk_front numBlks blks rest found
  exact ⟨last.trans (fourth.trans (third.trans (second.trans first))), nofun, fun _ => ⟨largest, blklen, each⟩⟩

theorem paddingBody_front : wlp paddingBody (fun w rest => Found s w.fr rest) s := by
  rintro _ _ ⟨rfl, rfl⟩
  exact ⟨List.drop_suffix _ s, nofun, fun _ => trivial⟩

theorem newConnectionIdBody_front : wlp newConnectionIdBody (fun w rest => Found s w.fr rest) s :=
  wlp_bind <| wlp_varint fun _ _ _ first => wlp_bind <| wlp_number fun _ _ second =>
    wlp_bind <| wlp_bytes fun token _ split _ =>
      wlp_pure ⟨List.IsSuffix.trans ⟨token, split⟩ (second.trans first), nofun, fun _ => trivial⟩

theorem rstStreamBody_front : wlp rstStreamBody (fun w rest => Found s w.fr rest) s :=
  wlp_bind <| wlp_varint fun _ _ id first => wlp_bind <| wlp_number fun _ _ second =>
    wlp_bind <| wlp_varint fun _ _ offset third =>
      wlp_pure ⟨third.trans (second.trans first), nofun, fun _ => ⟨id, offset⟩⟩

theorem stopSendingBody_front : wlp stopSendingBody (fun w rest => Found s w.fr rest) s :=
  wlp_bind <| wlp_varint fun _ _ id first => wlp_bind <| wlp_number fun _ _ second =>
    wlp_pure ⟨second.trans first, nofun, fun _ => id⟩

theorem closeBody_front {frame : Nat → List UInt8 → Frame} (shape : frame = .connectionClose ∨ frame = .applicationClose) :
    wlp (closeBody frame) (fun w rest => Found s w.fr rest) s := by
  refine wlp_bind <| wlp_number fun code _ first => wlp_bind <| wlp_sizedData fun reason rest second _ => wlp_pure ?_
  have whole := second.trans first
  rcases shape with rfl | rfl <;>
    exact ⟨(List.suffix_append reason rest).trans whole, fun _ here => Option.some.inj here ▸ whole, fun _ => trivial⟩

theorem pingBody_front {frame : List UInt8 → Frame} (shape : frame = .ping ∨ frame = .pong) :
    wlp (pingBody frame) (fun w rest => Found s w.fr rest) s := by
  refine wlp_bind <| wlp_shortData fun data rest whole => wlp_pure ?_
  rcases shape with rfl | rfl <;>
    exact ⟨(List.suffix_append data rest).trans whole, fun _ here => Option.some.inj here ▸ whole, fun _ => trivial⟩

theorem varintBody_front {frame : Nat → Frame} (plain : ∀ n, (frame n).data? = none)
    (wire : ∀ n, n < varintBound → (frame n).WireOk) :
    wlp (varintBody frame) (fun w rest => Found s w.fr rest) s :=
  wlp_bind <| wlp_varint fun n _ bound tail =>
    wlp_pure ⟨tail, fun _ here => (nomatch (plain n).symm.trans here), fun _ => wire n bound⟩

theorem varintsBody_front {frame : Nat → Nat → Frame} (plain : ∀ m n, (frame m n).data? = none)
    (wire : ∀ m n, m < varintBound → n < varintBound → (frame m n).WireOk) :
    wlp (varintsBody frame) (fun w rest => Found s w.fr rest) s :=
  wlp_bind <| wlp_varint fun m _ bound first => wlp_bind <| wlp_varint fun n _ bound' second =>
    wlp_pure ⟨second.trans first, fun _ here => (nomatch (plain m n).symm.trans here), fun _ => wire m n bound bound'⟩

theorem frameBody_front (type : UInt8) : wlp (frameBody type) (fun w rest => Found s w.fr rest) s := by
  unfold frameBody
  split
  · exact paddingBody_front
  · exact rstStreamBody_front
  · exact closeBody_front (.inl rfl)
  · exact closeBody_front (.inr rfl)
  · exact varintBody_front (fun _ => rfl) fun _ bound => bound
  · exact varintsBody_front (fun _ _ => rfl) fun _ _ id bound => ⟨id, bound⟩
  · exact varintBody_front (fun _ => rfl) fun _ bound => bound
  · exact pingBody_front (.inl rfl)
  · exact varintBody_front (fun _ => rfl) fun _ _ => trivial
  · exact varintsBody_front (fun _ _ => rfl) fun _ _ _ _ => trivial
  · exact varintBody_front (fun _ => rfl) fun _ _ => trivial
  · exact newConnectionIdBody_front
  · exact stopSendingBody_front
  · exact pingBody_front (.inr rfl)
  · exact ackBody_front
  · split
    · exact streamBody_front type
    · exact wlp_fail

theorem codeBody_front (type : UInt8) : wlp (codeBody type) (fun w rest => Found s w.fr rest) s := by
  unfold codeBody
  split
  · exact streamBody_front type
  · split
    · exact ackBody_front
    · exact frameBody_front type

theorem Found.stored {w : WireFrame} {rest : List UInt8} (found : Found s w.fr rest) : Found s w.stored.fr rest := by
  obtain ⟨fr, flags, token⟩ := w
  cases fr with
  | ack fr =>
    refine ⟨found.tail, nofun, fun short => ?_⟩
    obtain ⟨largest, blklen, each⟩ := found.wire short
    exact ⟨largest, blklen, fun blk member => each blk (List.mem_of_mem_take member)⟩
  | newConnectionId seq connId => exact ⟨found.tail, nofun, fun _ => trivial⟩
  | _ => exact found

theorem decodeFrame_found (type : UInt8) (rest : List UInt8) :
    ngtcp2PktDecodeFrame (type :: rest) = .error .FRAME_FORMAT ∨
    ∃ w after, ngtcp2PktDecodeFrame (type :: rest) = .ok (some (w, (type :: rest).length - after.length)) ∧
      Found rest w.fr after := by
  rw [decodeFrame_spec]
  cases here : codeBody type rest with
  | none =>
    rw [map_none here]
    exact .inl rfl
  | some pair =>
    obtain ⟨w, after⟩ := pair
    rw [map_some here]
    exact .inr ⟨w.stored, after, rfl, (codeBody_front type w after here).stored⟩

end Found

section Format

def WireFrame.capped (w : WireFrame) : WireFrame :=
  match w.fr with
  | .ack fr => { w with fr := .ack { fr with blks := fr.blks.take maxAckBlks } }
  | _ => w

structure DecodesFormat (payload : List UInt8) : Prop where
  accepts : ∀ w rest, frame payload = some (w, rest) →
    ngtcp2PktDecodeFrame payload = .ok (some (w.capped, payload.length - rest.length))
  rejects : payload ≠ [] → frame payload = none → ngtcp2PktDecodeFrame payload = .error .FRAME_FORMAT

/-- The type is not defined, but it has the bits of STREAM or, without those, of ACK, and what stands
behind it would be such a frame. -/
def MistypedPayload (type : UInt8) (rest : List UInt8) : Prop :=
  ¬ Defined type ∧
    (hasMask type 0x10 = true ∧ (streamBody type rest).isSome ∨
      hasMask type 0x10 = false ∧ hasMask type 0x0e = true ∧ (ackBody rest).isSome)

def WideSeq (type : UInt8) (rest : List UInt8) : Prop :=
  type.toNat = 0x0b ∧
    ∃ w after seq connId,
      newConnectionIdBody rest = some (w, after) ∧ w.fr = .newConnectionId seq connId ∧ 65536 ≤ seq

def Misread : List UInt8 → Prop
  | [] => False
  | type :: rest => MistypedPayload type rest ∨ WideSeq type rest

variable {type : UInt8} {rest : List UInt8}

theorem frame_cons (type : UInt8) (rest : List UInt8) : frame (type :: rest) = frameBody type rest :=
  bind_some rfl

theorem frameBody_newConnectionId {w : WireFrame} {after : List UInt8} {seq connId : Nat}
    (found : frameBody type rest = some (w, after)) (here : w.fr = .newConnectionId seq connId) :
    type.toNat = 0x0b := by
  have other : type.toNat ≠ 0x0b → wlp (frameBody type) (fun w _ => w.fr ≠ .newConnectionId seq connId) rest := by
    intro other
    unfold frameBody
    split <;> try contradiction
    case h_1 => rintro _ _ ⟨rfl, rfl⟩; simp [Frame.plain]
    case h_16 =>
      split
      · exact wlp_bind fun _ _ _ => wlp_bind fun _ _ _ => wlp_bind fun _ _ _ => wlp_pure (by simp)
      · exact wlp_fail
    all_goals
      first
      | exact wlp_bind fun _ _ _ => wlp_pure (by simp [Frame.plain])
      | exact wlp_bind fun _ _ _ => wlp_bind fun _ _ _ => wlp_pure (by simp [Frame.plain])
      | exact wlp_bind fun _ _ _ => wlp_bind fun _ _ _ => wlp_bind fun _ _ _ => wlp_pure (by simp [Frame.plain])
      | exact wlp_bind fun _ _ _ => wlp_bind fun _ _ _ => wlp_bind fun _ _ _ => wlp_bind fun _ _ _ =>
          wlp_bind fun _ _ _ => wlp_pure (by simp [Frame.plain])
  by_contra wrong
  exact other wrong w after found here

theorem WireFrame.stored_eq_capped {w : WireFrame} (narrow : ∀ seq connId, w.fr = .newConnectionId seq connId → seq < 65536) :
    w.stored = w.capped := by
  obtain ⟨fr, flags, token⟩ := w
  cases fr with
  | newConnectionId seq connId =>
    have small := narrow seq connId rfl
    simp [stored, capped, Nat.mod_eq_of_lt small]
  | _ => rfl

theorem decodesFormat_defined (defined : Defined type) : DecodesFormat (type :: rest) ↔ ¬ WideSeq type rest := by
  have spec := decodeFrame_spec type rest
  rw [codeBody_defined type defined] at spec
  constructor
  · rintro good ⟨value, ⟨fr, flags, token⟩, after, seq, connId, found, rfl, wide⟩
    have here : frameBody type rest = some (⟨.newConnectionId seq connId, flags, token⟩, after) := by
      simpa only [frameBody, value] using found
    rw [good.accepts _ after ((frame_cons type rest).trans here), map_some here] at spec
    have same : seq = seq % 65536 := by
      simpa [outcome, WireFrame.stored, WireFrame.capped] using spec
    omega
  · intro narrow
    refine ⟨fun w after found => ?_, fun _ missing => ?_⟩
    · rw [frame_cons] at found
      have same : w.stored = w.capped := by
        refine WireFrame.stored_eq_capped fun seq connId here => ?_
        have value := frameBody_newConnectionId found here
        by_contra wide
        simp only [frameBody, value] at found
        exact narrow ⟨value, w, after, seq, connId, found, here, by omega⟩
      rw [spec, map_some found, same]
      rfl
    · rw [frame_cons] at missing
      rw [spec, map_none missing]
      rfl

theorem decodesFormat_undefined (undefined : ¬ Defined type) :
    DecodesFormat (type :: rest) ↔ codeBody type rest = none := by
  have missing : frame (type :: rest) = none := by
    rw [frame_cons, frameBody_undefined type undefined]
    rfl
  have spec := decodeFrame_spec type rest
  constructor
  · intro good
    rw [good.rejects (by simp) missing] at spec
    cases here : codeBody type rest with
    | none => rfl
    | some pair =>
      rw [map_some (a := pair.1) (r := pair.2) here] at spec
      cases spec
  · intro none
    refine ⟨fun w after found => ?_, fun _ _ => ?_⟩
    · rw [missing] at found
      cases found
    · rw [spec, map_none none]
      rfl

theorem codeBody_undefined (undefined : ¬ Defined type) : codeBody type rest = none ↔ ¬ MistypedPayload type rest := by
  simp only [MistypedPayload, undefined, not_false_eq_true, true_and]
  unfold codeBody
  rw [frameBody_undefined type undefined]
  by_cases stream : hasMask type 0x10 = true
  · simp [stream]
  · by_cases ack : hasMask type 0x0e = true
    · simp [stream, ack]
    · simp [stream, ack, fail_run]

/-- The decoder goes by the format exactly where the payload is not misread. -/
theorem decodesFormat_iff (payload : List UInt8) : DecodesFormat payload ↔ ¬ Misread payload := by
  cases payload with
  | nil => exact iff_of_true ⟨nofun, fun nonempty => absurd rfl nonempty⟩ id
  | cons type rest =>
    unfold Misread
    by_cases defined : Defined type
    · rw [decodesFormat_defined defined]
      simp [MistypedPayload, defined]
    · rw [decodesFormat_undefined defined, codeBody_undefined defined]
      have other : ¬ WideSeq type rest := fun wide => defined (.inl (by have value := wide.1; omega))
      simp [other]

/-- 0x30 0x00 is taken for a STREAM frame without data, and the sequence number 65536 is read as 0. -/
theorem misread_payloads :
    ¬ DecodesFormat [0x30, 0x00] ∧ ngtcp2PktDecodeFrame [0x30, 0x00] =
      .ok (some (⟨.stream { fin := false, streamId := 0, offset := 0, data := [] }, 0x20, []⟩, 2)) ∧
    ¬ DecodesFormat ([0x0b, 0x80, 0x01, 0x00, 0x00] ++ List.replicate 24 0) ∧
    ngtcp2PktDecodeFrame ([0x0b, 0x80, 0x01, 0x00, 0x00] ++ List.replicate 24 0) =
      .ok (some (⟨.newConnectionId 0 0, 0, List.replicate 16 0⟩, 29)) := by
  refine ⟨fun good => ?_, by decide +kernel, fun good => ?_, by decide +kernel⟩
  · have rejected := good.rejects (by simp) (by decide +kernel)
    revert rejected
    decide +kernel
  · have accepted := good.accepts ⟨.newConnectionId 65536 0, 0, List.replicate 16 0⟩ [] (by decide +kernel)
    revert accepted
    decide +kernel

end Format

end Ngtcp2
