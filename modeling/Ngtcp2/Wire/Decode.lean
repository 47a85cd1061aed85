import Ngtcp2.Wire.Frame

/-!
# The frame decoder and the format

Each decoder finds in a payload what the grammar of its frame says.
-/

namespace Ngtcp2

/-- The frame as it is stored: blocks of an ACK frame beyond the largest number are left out, and a
sequence number loses its upper bits. -/
def WireFrame.stored (w : WireFrame) : WireFrame :=
  match w.fr with
  | .ack fr => { w with fr := .ack { fr with blks := fr.blks.take maxAckBlks } }
  | .newConnectionId seq connId => { w with fr := .newConnectionId (seq % 65536) connId }
  | _ => w

section Simple

variable (type : UInt8) (rest : List UInt8)

theorem decodeRstStreamFrame_spec :
    ngtcp2PktDecodeRstStreamFrame (type :: rest) = outcome (type :: rest) (rstStreamBody rest) :=
  decodeFields_spec
    (ngtcp2GetVarint_refines.bind fun _ => (Reader.Refines.number 2).bind fun _ =>
      ngtcp2GetVarint_refines.bind fun _ => .pure _)
    (.varint fun _ => .number fun _ => .varint fun _ => .pure _) type rest

theorem decodeStopSendingFrame_spec :
    ngtcp2PktDecodeStopSendingFrame (type :: rest) = outcome (type :: rest) (stopSendingBody rest) :=
  decodeFields_spec
    (ngtcp2GetVarint_refines.bind fun _ => (Reader.Refines.number 2).bind fun _ => .pure _)
    (.varint fun _ => .number fun _ => .pure _) type rest

theorem decodeCloseFrame_spec (frame : Nat → List UInt8 → Frame) :
    decodeCloseFrame frame (type :: rest) = outcome (type :: rest) (closeBody frame rest) :=
  decodeFields_spec ((Reader.Refines.number 2).bind fun _ => readData_refines.bind fun _ => .pure _)
    (.number fun _ => .data fun _ => .pure _) type rest

theorem decodeVarintFrame_spec (frame : Nat → Frame) :
    decodeVarintFrame frame (type :: rest) = outcome (type :: rest) (varintBody frame rest) :=
  decodeFields_spec (ngtcp2GetVarint_refines.bind fun _ => .pure _) (.varint fun _ => .pure _) type rest

theorem decodeVarintsFrame_spec (frame : Nat → Nat → Frame) :
    decodeVarintsFrame frame (type :: rest) = outcome (type :: rest) (varintsBody frame rest) :=
  decodeFields_spec (ngtcp2GetVarint_refines.bind fun _ => ngtcp2GetVarint_refines.bind fun _ => .pure _)
    (.varint fun _ => .varint fun _ => .pure _) type rest

theorem decodePingFrame_spec (frame : List UInt8 → Frame) :
    decodePingFrame frame (type :: rest) = outcome (type :: rest) (pingBody frame rest) :=
  decodeFields_spec (readShortData_refines.bind fun _ => .pure _) (.shortData fun _ => .pure _) type rest

theorem decodeNewConnectionIdFrame_spec :
    ngtcp2PktDecodeNewConnectionIdFrame (type :: rest) =
      outcome (type :: rest) (newConnectionIdBody.map WireFrame.stored rest) := by
  have body : newConnectionIdBody.map WireFrame.stored =
      (do
        let seq ← varint
        let connId ← Grammar.number 8
        let token ← Grammar.bytes 16
        pure { fr := .newConnectionId (seq % 65536) connId, flags := 0, statelessResetToken := token }) := by
    simp only [newConnectionIdBody, Grammar.map_bind, Grammar.map_pure, WireFrame.stored]
  rw [body]
  exact decodeFields_spec
    (ngtcp2GetVarint_refines.bind fun _ => (Reader.Refines.number 8).bind fun _ =>
      (Reader.Refines.bytes 16).bind fun _ => .pure _)
    (.varint fun _ => .number fun _ => .bytes fun _ => .pure _) type rest

theorem decodePaddingFrame_spec :
    ngtcp2PktDecodePaddingFrame (type :: rest) = outcome (type :: rest) (paddingBody rest) := by
  have least : (rest.takeWhile (· == 0)).length ≤ rest.length := (List.takeWhile_prefix _).length_le
  simp only [ngtcp2PktDecodePaddingFrame, paddingBody, outcome, List.length_cons, List.length_drop]
  congr 2
  omega

end Simple

section Stream

variable (type : UInt8) (rest : List UInt8)

theorem readStream_refines : Reader.Refines (readStream type) (streamBody type) := by
  refine ngtcp2GetVarint_refines.bind fun _ => .bind ?_ fun _ => .bind ?_ fun _ => .pure _
  · split
    · exact ngtcp2GetVarint_refines
    · exact .pure 0
  · split
    · exact readData_refines
    · exact .remainder

theorem scanFrom_some {α : Type} {g : Grammar α} (field : Field) {payload r : List UInt8} {p : Nat} {a : α}
    (skip : field.skip = g >>= fun _ => pure ()) (inside : p ≤ payload.length)
    (found : g (payload.drop p) = some (a, r)) :
    scanFrom payload [field] p p = .ok (payload.length - r.length, payload.length - r.length) := by
  have skipped : skipAll [field] (payload.drop p) = some ((), r) := by
    rw [skipAll, skip]
    exact (Grammar.bind_some (Grammar.bind_some found)).trans rfl
  simp only [scanFrom_spec [field] inside, skipped, scanned, Nat.not_lt_zero, if_false, Nat.add_zero]

theorem scanFrom_none {α : Type} {g : Grammar α} (field : Field) {payload : List UInt8} {p : Nat}
    (skip : field.skip = g >>= fun _ => pure ()) (inside : p ≤ payload.length)
    (none : g (payload.drop p) = none) : scanFrom payload [field] p p = .error .FRAME_FORMAT := by
  have skipped : skipAll [field] (payload.drop p) = Option.none := by
    rw [skipAll, skip]
    exact Grammar.bind_none (Grammar.bind_none none)
  rw [scanFrom_spec [field] inside, skipped]
  rfl

theorem skipAll_single (field : Field) (s : List UInt8) : skipAll [field] s = field.skip s := by
  cases here : field.skip s with
  | none => exact Grammar.bind_none here
  | some pair => exact Grammar.bind_some (r := pair.2) (a := pair.1) here

def streamHead (type : UInt8) : Grammar (Nat × Nat) := do
  let streamId ← varint
  let offset ← (if offBit type then varint else pure 0)
  pure (streamId, offset)

theorem scanHead_spec {α : Type} (next : Nat × Nat → Except Err α) :
    (do
      let (p, len) ← scanFrom (type :: rest) [.varint] 1 1
      let (p, len) ← (if offBit type then scanFrom (type :: rest) [.varint] p len else pure (p, len))
      next (p, len)) =
    match streamHead type rest with
    | none => .error .FRAME_FORMAT
    | some (_, r) => next ((type :: rest).length - r.length, (type :: rest).length - r.length) := by
  cases first : varint rest with
  | none =>
    have failed : scanFrom (type :: rest) [.varint] 1 1 = .error .FRAME_FORMAT :=
      scanFrom_none .varint rfl (by simp) first
    rw [failed, streamHead, Grammar.bind_none first]
    rfl
  | some pair =>
    obtain ⟨streamId, r⟩ := pair
    have done : scanFrom (type :: rest) [.varint] 1 1 = .ok _ :=
      scanFrom_some .varint rfl (by simp) first
    obtain ⟨here, within⟩ := Reader.rest_eq varint_local (type :: rest) 1 first
    rw [done, streamHead, Grammar.bind_some first]
    simp only [bind, Except.bind]
    by_cases off : offBit type = true
    · simp only [off, if_true]
      cases second : varint r with
      | none =>
        rw [scanFrom_none .varint rfl (by omega) (by rw [here, second])]
      | some pair =>
        obtain ⟨offset, r'⟩ := pair
        rw [scanFrom_some .varint rfl (by omega) (by rw [here, second])]
        rfl
    · simp only [off, Bool.false_eq_true, if_false]
      rfl

theorem streamHead_local : (streamHead type).Local := by
  refine varint_local.bind fun _ => .bind ?_ fun _ => .pure _
  split
  · exact varint_local
  · exact .pure 0

theorem streamBody_eq :
    streamBody type rest =
      match streamHead type rest with
      | none => none
      | some ((streamId, offset), r) =>
        ((if lenBit type then sizedData else Grammar.remainder) r).map fun x =>
          ({ fr := .stream { fin := finBit type, streamId := streamId, offset := offset, data := x.1 }
             flags := type &&& 0xef
             statelessResetToken := [] }, x.2) := by
  unfold streamBody streamHead
  cases first : varint rest with
  | none => rw [Grammar.bind_none first, Grammar.bind_none first]
  | some pair =>
    rw [Grammar.bind_some (r := pair.2) (a := pair.1) first, Grammar.bind_some (r := pair.2) (a := pair.1) first]
    cases second : (if offBit type then varint else pure 0 : Grammar Nat) pair.2 with
    | none => rw [Grammar.bind_none second, Grammar.bind_none second]
    | some next =>
      rw [Grammar.bind_some (r := next.2) (a := next.1) second,
        Grammar.bind_some (r := next.2) (a := next.1) second]
      cases third : (if lenBit type then sizedData else Grammar.remainder) next.2 with
      | none =>
        rw [Grammar.bind_none third]
        simp only [Grammar.pure_run, third, Option.map_none]
      | some last =>
        rw [Grammar.bind_some (r := last.2) (a := last.1) third]
        simp only [Grammar.pure_run, third, Option.map_some]

theorem decodeStreamFrame_spec :
    ngtcp2PktDecodeStreamFrame (type :: rest) = outcome (type :: rest) (streamBody type rest) := by
  have read := readStream_refines type
  have body := streamBody_eq type rest
  have scan := scanHead_spec type rest fun (p, len) => do
    let (_, len) ← (if lenBit type then scanFrom (type :: rest) [.data] p len else pure (p, len))
    let result ← ofRead (readStream type (type :: rest) 1)
    if lenBit type then decoded result len else pure (result.1, (type :: rest).length)
  refine Eq.trans ?_ (scan.trans ?_)
  · unfold ngtcp2PktDecodeStreamFrame
    cases scanFrom (type :: rest) [.varint] 1 1 <;> rfl
  · cases head : streamHead type rest with
    | none =>
      simp only [head] at body
      rw [body]
      rfl
    | some pair =>
      obtain ⟨⟨streamId, offset⟩, r⟩ := pair
      obtain ⟨here, within⟩ := Reader.rest_eq (streamHead_local type) (type :: rest) 1 head
      simp only [head] at body
      by_cases len : lenBit type = true
      · simp only [len, if_true] at body ⊢
        cases last : sizedData r with
        | none =>
          rw [last] at body
          rw [body, scanFrom_none .data rfl (by omega) (by rw [here, last])]
          rfl
        | some pair =>
          obtain ⟨data, r'⟩ := pair
          rw [last] at body
          have value := read.run (type :: rest) 1 _ r' (by simp) body
          rw [body, scanFrom_some .data rfl (by omega) (by rw [here, last]), value]
          simp only [bind, Except.bind, ofRead, decoded, if_true]
          rfl
      · simp only [len, Bool.false_eq_true, if_false, Grammar.remainder, Option.map_some] at body ⊢
        have value := read.run (type :: rest) 1 _ [] (by simp) body
        rw [body, value]
        rfl

end Stream

section Ack

variable (type : UInt8) (rest : List UInt8)

theorem skipVarint_refines : Reader.Refines skipVarint (varint.map fun _ => ()) where
  run buf p a r inside found := by
    cases here : buf.drop p with
    | nil => simp [here, Grammar.map, varint_nil] at found
    | cons b tail =>
      obtain ⟨at_, length⟩ := Reader.getElem?_of_drop here
      have pos := varintlenDef_pos b
      rw [here, Grammar.map, varint_cons] at found
      split at found
      · cases found
      · obtain ⟨-, rfl⟩ := Prod.mk.inj (Option.some.inj found)
        simp only [skipVarint, ngtcp2GetVarintLen, at_, Option.map_some, List.length_drop]
        congr 2
        omega
  keeps := varint_local.map

theorem ackBlk_local : ackBlk.Local := varint_local.bind fun _ => varint_local.bind fun _ => .pure _

theorem readAckBlk_refines : Reader.Refines readAckBlk ackBlk :=
  ngtcp2GetVarint_refines.bind fun _ => ngtcp2GetVarint_refines.bind fun _ => .pure _

theorem skipAckBlk_refines : Reader.Refines skipAckBlk (ackBlk.map fun _ => ()) where
  run buf p a r inside found := by
    simp only [ackBlk, Grammar.map_bind, Grammar.map_pure] at found
    obtain ⟨gap, mid, first, found⟩ := Grammar.bind_eq_some found
    obtain ⟨blklen, last, second, ⟨⟩⟩ := Grammar.bind_eq_some found
    have one := skipVarint_refines.run buf p () mid inside (Grammar.map_some first)
    obtain ⟨here, within⟩ := Reader.rest_eq varint_local buf p first
    have two := skipVarint_refines.run buf (buf.length - mid.length) () r (by omega)
      (Grammar.map_some (a := blklen) (here.symm ▸ second))
    exact (Reader.bind_some one).trans two
  keeps := ackBlk_local.map

def ackStored (numBlks : Nat) : Grammar WireFrame := do
  let largestAck ← varint
  let ackDelay ← varint
  let _ ← varint.map fun _ => ()
  let firstAckBlklen ← varint
  let blks ← Grammar.many ackBlk (min maxAckBlks numBlks)
  let _ ← Grammar.many (ackBlk.map fun _ => ()) (numBlks - maxAckBlks)
  pure (Frame.ack
    { largestAck := largestAck, ackDelay := ackDelay, firstAckBlklen := firstAckBlklen, blks := blks }).plain

theorem readAck_refines (numBlks : Nat) : Reader.Refines (readAck numBlks) (ackStored numBlks) :=
  ngtcp2GetVarint_refines.bind fun _ => ngtcp2GetVarint_refines.bind fun _ =>
    skipVarint_refines.bind fun _ => ngtcp2GetVarint_refines.bind fun _ =>
      (readAckBlk_refines.many _).bind fun _ => (skipAckBlk_refines.many _).bind fun _ => .pure _

theorem many_ackStored {numBlks : Nat} {s r : List UInt8} {blks : List AckBlk}
    (found : Grammar.many ackBlk numBlks s = some (blks, r)) :
    ∃ mid skipped, Grammar.many ackBlk (min maxAckBlks numBlks) s = some (blks.take maxAckBlks, mid) ∧
      Grammar.many (ackBlk.map fun _ => ()) (numBlks - maxAckBlks) mid = some (skipped, r) := by
  have count : numBlks = min maxAckBlks numBlks + (numBlks - maxAckBlks) := by omega
  rw [count] at found
  obtain ⟨mid, front, back⟩ := Grammar.many_add found
  have length : blks.length = numBlks := by rw [Grammar.many_length found, ← count]
  have take : blks.take (min maxAckBlks numBlks) = blks.take maxAckBlks := by
    by_cases few : numBlks ≤ maxAckBlks
    · rw [min_eq_right few, List.take_of_length_le length.le, List.take_of_length_le (length ▸ few)]
    · rw [min_eq_left (by omega)]
  rw [take] at front
  refine ⟨mid, (blks.drop (min maxAckBlks numBlks)).map fun _ => (), front, ?_⟩
  rw [Grammar.many_map, Grammar.map_some back]

def ackRest (numBlks : Nat) : Grammar (Nat × List AckBlk) := do
  let firstAckBlklen ← varint
  let blks ← Grammar.many ackBlk numBlks
  pure (firstAckBlklen, blks)

theorem many_shaped {β : Type} {fields : List Field} (n : Nat) {f : List AckBlk → Grammar β}
    (second : ∀ blks, Shaped (f blks) fields) :
    Shaped (Grammar.many ackBlk n >>= f) (List.replicate (n * 2) .varint ++ fields) := by
  induction n generalizing f with
  | zero => simpa [Grammar.many, Grammar.pure_bind] using second []
  | succ n ih =>
    rw [Grammar.many, Grammar.bind_assoc, show (n + 1) * 2 = n * 2 + 1 + 1 by omega, List.replicate_succ,
      List.replicate_succ, ackBlk, Grammar.bind_assoc]
    refine .varint fun gap => ?_
    rw [Grammar.bind_assoc]
    refine .varint fun blklen => ?_
    rw [Grammar.pure_bind, Grammar.bind_assoc]
    exact ih fun blks => by
      rw [Grammar.pure_bind]
      exact second _

theorem ackRest_shaped (numBlks : Nat) :
    Shaped (ackRest numBlks) (.varint :: List.replicate (numBlks * 2) .varint) := by
  refine .varint fun firstAckBlklen => ?_
  have shaped : Shaped (Grammar.many ackBlk numBlks >>= fun blks => pure (firstAckBlklen, blks))
      (List.replicate (numBlks * 2) .varint ++ []) := many_shaped numBlks fun _ => .pure _
  rwa [List.append_nil] at shaped

theorem ackBody_none {r r' : List UInt8} {numBlks : Nat} (head : skipAll [.varint, .varint] rest = some ((), r))
    (count : varint r = some (numBlks, r')) (none : skipAll (.varint :: List.replicate (numBlks * 2) .varint) r' = none) :
    ackBody rest = Option.none := by
  obtain ⟨_, r1, first, found⟩ := Grammar.bind_eq_some head
  obtain ⟨_, r2, second, ⟨⟩⟩ := Grammar.bind_eq_some found
  obtain ⟨largestAck, _, first, ⟨⟩⟩ := Grammar.bind_eq_some first
  obtain ⟨ackDelay, _, second, ⟨⟩⟩ := Grammar.bind_eq_some second
  have shaped := ackRest_shaped numBlks r'
  have missing : ackRest numBlks r' = Option.none := by simpa [none] using shaped
  rw [ackBody, Grammar.bind_some first, Grammar.bind_some second, Grammar.bind_some count]
  cases third : varint r' with
  | none => rw [Grammar.bind_none third]
  | some pair =>
    rw [Grammar.bind_some (r := pair.2) (a := pair.1) third, Grammar.bind_none]
    rw [ackRest, Grammar.bind_some (r := pair.2) (a := pair.1) third] at missing
    cases last : Grammar.many ackBlk numBlks pair.2 with
    | none => rfl
    | some next =>
      rw [Grammar.bind_some (r := next.2) (a := next.1) last] at missing
      cases missing

theorem ackBody_head {r : List UInt8} (head : skipAll [.varint, .varint] rest = some ((), r)) (none : varint r = none) :
    ackBody rest = Option.none := by
  obtain ⟨_, r1, first, found⟩ := Grammar.bind_eq_some head
  obtain ⟨_, r2, second, ⟨⟩⟩ := Grammar.bind_eq_some found
  obtain ⟨largestAck, _, first, ⟨⟩⟩ := Grammar.bind_eq_some first
  obtain ⟨ackDelay, _, second, ⟨⟩⟩ := Grammar.bind_eq_some second
  rw [ackBody, Grammar.bind_some first, Grammar.bind_some second, Grammar.bind_none none]

theorem ackBody_short {r : List UInt8} (head : skipAll [.varint, .varint] rest = some ((), r)) (short : r.length < 2) :
    ackBody rest = none := by
  obtain ⟨_, r1, first, found⟩ := Grammar.bind_eq_some head
  obtain ⟨_, r2, second, ⟨⟩⟩ := Grammar.bind_eq_some found
  obtain ⟨largestAck, _, first, ⟨⟩⟩ := Grammar.bind_eq_some first
  obtain ⟨ackDelay, _, second, ⟨⟩⟩ := Grammar.bind_eq_some second
  rw [ackBody, Grammar.bind_some first, Grammar.bind_some second]
  cases third : varint r with
  | none => rw [Grammar.bind_none third]
  | some pair =>
    have least := Field.skip_minLen .varint (r := pair.2) (Grammar.bind_some (r := pair.2) (a := pair.1) third)
    have empty : pair.2 = [] := List.eq_nil_of_length_eq_zero (by simp only [Field.minLen] at least; omega)
    rw [Grammar.bind_some (r := pair.2) (a := pair.1) third, empty, Grammar.bind_none varint_nil]

theorem ackBody_noHead (none : skipAll [.varint, .varint] rest = none) : ackBody rest = Option.none := by
  unfold ackBody
  cases first : varint rest with
  | none => rw [Grammar.bind_none first]
  | some pair =>
    rw [Grammar.bind_some (r := pair.2) (a := pair.1) first]
    cases second : varint pair.2 with
    | none => rw [Grammar.bind_none second]
    | some next =>
      have found : skipAll [.varint, .varint] rest = some ((), next.2) :=
        (Grammar.bind_some (Grammar.bind_some (r := pair.2) (a := pair.1) first)).trans
          (Grammar.bind_some (Grammar.bind_some (r := next.2) (a := next.1) second))
      rw [none] at found
      cases found

theorem ackBody_found {r r' left : List UInt8} {numBlks : Nat} (head : skipAll [.varint, .varint] rest = some ((), r))
    (count : varint r = some (numBlks, r'))
    (last : skipAll (.varint :: List.replicate (numBlks * 2) .varint) r' = some ((), left)) :
    ∃ w, ackBody rest = some (w, left) ∧ ackStored numBlks rest = some (w.stored, left) := by
  obtain ⟨_, r1, first, found⟩ := Grammar.bind_eq_some head
  obtain ⟨_, r2, second, ⟨⟩⟩ := Grammar.bind_eq_some found
  obtain ⟨largestAck, _, first, ⟨⟩⟩ := Grammar.bind_eq_some first
  obtain ⟨ackDelay, _, second, ⟨⟩⟩ := Grammar.bind_eq_some second
  have shaped := ackRest_shaped numBlks r'
  obtain ⟨⟨firstAckBlklen, blks⟩, there⟩ : ∃ x, ackRest numBlks r' = some (x, left) := by simpa [last] using shaped
  obtain ⟨_, r3, third, found⟩ := Grammar.bind_eq_some there
  obtain ⟨_, r4, fourth, ⟨⟩⟩ := Grammar.bind_eq_some found
  obtain ⟨mid, skipped, front, back⟩ := many_ackStored fourth
  refine ⟨(Frame.ack { largestAck, ackDelay, firstAckBlklen, blks }).plain, ?_, ?_⟩
  · rw [ackBody, Grammar.bind_some first, Grammar.bind_some second, Grammar.bind_some count,
      Grammar.bind_some third, Grammar.bind_some fourth, Grammar.pure_run]
  · rw [ackStored, Grammar.bind_some first, Grammar.bind_some second, Grammar.bind_some (Grammar.map_some count),
      Grammar.bind_some third, Grammar.bind_some front, Grammar.bind_some back, Grammar.pure_run]
    rfl

theorem decodeAckFrame_spec :
    ngtcp2PktDecodeAckFrame (type :: rest) = outcome (type :: rest) (ackBody.map WireFrame.stored rest) := by
  have rejected (none : ackBody rest = none) :
      outcome (type :: rest) (ackBody.map WireFrame.stored rest) = .error .FRAME_FORMAT := by
    rw [Grammar.map_none none]
    rfl
  have blocks (n : Nat) : minLen (.varint :: List.replicate (n * 2) .varint) = 1 + n * 2 := by
    simp [minLen, Field.minLen]
  unfold ngtcp2PktDecodeAckFrame
  cases head : skipAll [.varint, .varint] rest with
  | none =>
    rw [rejected (ackBody_noHead rest head)]
    by_cases short : (type :: rest).length < 5
    · rw [need_short short]
      rfl
    · have first : scan (type :: rest) [.varint, .varint] 1 5 = _ := scan_spec [.varint, .varint] 1 2 (by
        change 5 ≤ _
        omega)
      rw [need_ok (by omega), first, List.drop_succ_cons, List.drop_zero, head]
      rfl
  | some pair =>
    obtain ⟨_, r⟩ := pair
    have least := skipAll_minLen head
    by_cases few : r.length < 2
    · rw [rejected (ackBody_short rest head few)]
      by_cases short : (type :: rest).length < 5
      · rw [need_short short]
        rfl
      · have first : scan (type :: rest) [.varint, .varint] 1 5 = _ := scan_spec [.varint, .varint] 1 2 (by
          change 5 ≤ _
          omega)
        rw [need_ok (by omega), first, List.drop_succ_cons, List.drop_zero, head, scanned, if_pos few]
        rfl
    · obtain ⟨here, within⟩ := Reader.rest_eq (skipAll_local _) (type :: rest) 1 head
      have long : 5 ≤ (type :: rest).length := by
        change 2 + r.length ≤ rest.length at least
        rw [List.length_cons]
        omega
      have first : scan (type :: rest) [.varint, .varint] 1 5 = _ := scan_spec [.varint, .varint] 1 2 long
      rw [need_ok long, first, List.drop_succ_cons, List.drop_zero, head, scanned, if_neg few]
      simp only [bind, Except.bind]
      generalize position : (type :: rest).length - r.length = p at here
      have second : scan (type :: rest) [.varint] p (p + 2) = _ := scan_spec [.varint] p 1 (by
        change p + 1 + 1 ≤ _
        omega)
      rw [second, skipAll_single, here]
      cases count : varint r with
      | none =>
        have none : Field.varint.skip r = Option.none := Grammar.bind_none count
        rw [rejected (ackBody_head rest head count), none]
        rfl
      | some pair =>
        obtain ⟨numBlks, r'⟩ := pair
        have found : Field.varint.skip r = some ((), r') := Grammar.bind_some count
        have read := ngtcp2GetVarint_refines.run (type :: rest) p numBlks r' (by omega) (by rw [here, count])
        obtain ⟨there, inside⟩ := Reader.rest_eq varint_local (type :: rest) p (by rw [here, count])
        rw [found, scanned]
        by_cases end_ : r'.length < 1
        · have none : skipAll (.varint :: List.replicate (numBlks * 2) .varint) r' = Option.none := by
            rw [List.eq_nil_of_length_eq_zero (by omega : r'.length = 0)]
            exact Grammar.bind_none (Grammar.bind_none varint_nil)
          rw [rejected (ackBody_none rest head count none), if_pos end_]
        · rw [if_neg end_]
          simp only [read, ofRead]
          generalize position' : (type :: rest).length - r'.length = q at there
          by_cases room : (type :: rest).length < q + 1 + numBlks * 2
          · have none : skipAll (.varint :: List.replicate (numBlks * 2) .varint) r' = Option.none := by
              cases last : skipAll (.varint :: List.replicate (numBlks * 2) .varint) r' with
              | none => rfl
              | some pair =>
                have least := skipAll_minLen (r := pair.2) last
                rw [blocks] at least
                omega
            rw [rejected (ackBody_none rest head count none), need_short room]
          · have third : scan (type :: rest) (.varint :: List.replicate (numBlks * 2) .varint) q
                (q + 1 + numBlks * 2) =
                scanned (type :: rest) 0
                  (skipAll (.varint :: List.replicate (numBlks * 2) .varint) ((type :: rest).drop q)) := by
              have total : scan (type :: rest) _ q _ = _ :=
                scan_spec (.varint :: List.replicate (numBlks * 2) .varint) q 0 (by rw [blocks]; omega)
              rwa [blocks, Nat.add_zero, ← Nat.add_assoc] at total
            rw [need_ok (by omega)]
            simp only [third, there]
            cases last : skipAll (.varint :: List.replicate (numBlks * 2) .varint) r' with
            | none =>
              rw [rejected (ackBody_none rest head count last)]
              rfl
            | some pair =>
              obtain ⟨_, left⟩ := pair
              obtain ⟨w, body, kept⟩ := ackBody_found rest head count last
              have value := (readAck_refines numBlks).run (type :: rest) 1 _ left (by simp) kept
              simp only [scanned, Nat.not_lt_zero, if_false, Nat.add_zero, value, decoded, if_true,
                Grammar.map_some body, outcome]

end Ack

section Frame

/-- The grammar that the code goes by: the bits of STREAM and ACK are looked for in the type byte
before its value is. -/
def codeBody (type : UInt8) : Grammar WireFrame :=
  if hasMask type 0x10 then streamBody type
  else if hasMask type 0x0e then ackBody
  else frameBody type

variable (type : UInt8) (rest : List UInt8)

theorem streamBody_stored : (streamBody type).map WireFrame.stored = streamBody type := by
  simp only [streamBody, Grammar.map_bind, Grammar.map_pure]
  rfl

theorem small_masks (k : Fin 24) :
    (14 < k.val → 16 ≤ k.val → hasMask (UInt8.ofNat k) 0x10 = true) ∧
    (k.val ≤ 14 → hasMask (UInt8.ofNat k) 0x10 = false) ∧
    (k.val < 14 → hasMask (UInt8.ofNat k) 0x0e = false) ∧ (k.val = 14 → hasMask (UInt8.ofNat k) 0x0e = true) := by
  revert k
  decide

theorem masks_of_small (small : type.toNat < 24) :
    (16 ≤ type.toNat → hasMask type 0x10 = true) ∧ (type.toNat ≤ 14 → hasMask type 0x10 = false) ∧
    (type.toNat < 14 → hasMask type 0x0e = false) ∧ (type.toNat = 14 → hasMask type 0x0e = true) := by
  have masks := small_masks ⟨type.toNat, small⟩
  simp only [UInt8.ofNat_toNat] at masks
  exact ⟨fun low => masks.1 (by omega) low, masks.2⟩

def Defined : Prop := type.toNat ≤ 0x0e ∨ 0x10 ≤ type.toNat ∧ type.toNat ≤ 0x17

instance : Decidable (Defined type) := inferInstanceAs (Decidable (_ ∨ _))

theorem frameBody_stream (low : 0x10 ≤ type.toNat) (high : type.toNat ≤ 0x17) : frameBody type = streamBody type := by
  unfold frameBody
  split
  case h_16 => exact if_pos ⟨low, high⟩
  all_goals omega

theorem frameBody_undefined (undefined : ¬ Defined type) : frameBody type = Grammar.fail := by
  unfold Defined at undefined
  have outside : ¬ (0x10 ≤ type.toNat ∧ type.toNat ≤ 0x17) := fun inside => undefined (.inr inside)
  unfold frameBody
  split
  case h_16 => exact if_neg outside
  all_goals omega

theorem codeBody_defined (defined : Defined type) : codeBody type = frameBody type := by
  unfold codeBody
  rcases defined with low | ⟨low, high⟩
  · have masks := masks_of_small type (by omega)
    rw [if_neg (by simp [masks.2.1 low])]
    by_cases ack : type.toNat = 14
    · rw [if_pos (masks.2.2.2 ack)]
      simp only [frameBody, ack]
    · rw [if_neg (by simp [masks.2.2.1 (by omega)])]
  · rw [if_pos ((masks_of_small type (by omega)).1 low), frameBody_stream type low high]

theorem decodeFrame_spec :
    ngtcp2PktDecodeFrame (type :: rest) =
      Option.some <$> outcome (type :: rest) ((codeBody type).map WireFrame.stored rest) := by
  unfold ngtcp2PktDecodeFrame codeBody
  simp only
  congr 1
  by_cases stream : hasMask type 0x10 = true
  · rw [if_pos stream, if_pos stream, streamBody_stored]
    exact decodeStreamFrame_spec type rest
  by_cases ack : hasMask type 0x0e = true
  · rw [if_neg stream, if_neg stream, if_pos ack, if_pos ack]
    exact decodeAckFrame_spec type rest
  rw [if_neg stream, if_neg stream, if_neg ack, if_neg ack]
  -- the type decides
  split <;> rename_i value
  case h_15 =>
    have undefined : ¬ Defined type := by
      rintro (low | ⟨low, high⟩)
      · have masks := masks_of_small type (by omega)
        by_cases last : type.toNat = 14
        · exact ack (masks.2.2.2 last)
        · simp_all only [imp_false]
          omega
      · exact stream ((masks_of_small type (by omega)).1 low)
    rw [frameBody_undefined type undefined]
    rfl
  -- only ACK and NEW_CONNECTION_ID frames lose something, so `stored` keeps the other bodies
  all_goals simp only [frameBody, value, rstStreamBody, closeBody, varintBody, varintsBody, pingBody, stopSendingBody,
    Grammar.map_bind, Grammar.map_pure]
  · exact decodePaddingFrame_spec type rest
  · exact decodeRstStreamFrame_spec type rest
  · exact decodeCloseFrame_spec type rest _
  · exact decodeCloseFrame_spec type rest _
  · exact decodeVarintFrame_spec type rest _
  · exact decodeVarintsFrame_spec type rest _
  · exact decodeVarintFrame_spec type rest _
  · exact decodePingFrame_spec type rest _
  · exact decodeVarintFrame_spec type rest _
  · exact decodeVarintsFrame_spec type rest _
  · exact decodeVarintFrame_spec type rest _
  · exact decodeNewConnectionIdFrame_spec type rest
  · exact decodeStopSendingFrame_spec type rest
  · exact decodePingFrame_spec type rest _

end Frame

end Ngtcp2
