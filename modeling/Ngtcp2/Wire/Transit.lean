import Ngtcp2.Wire.Builder
import Ngtcp2.Wire.Packet

/-!
# A packet on its way

What is written into a packet is what the peer finds in it. A connection only counts the bytes of a packet that it
builds, and decides as the code does that writes them.
-/

namespace Ngtcp2

section Headers

variable {w : WireHd} {rest : List UInt8}

def WireHd.Readable (w : WireHd) : Prop :=
  w.hd.connId < 18446744073709551616 ∧
    if w.hd.longForm then longType w.hd.type.code = some w.hd.type ∧ w.hd.version < 4294967296
    else w.hd.type.pktNumLen.isSome

/-- The header as it is read. It carries the last bits of the packet number. -/
def WireHd.received (w : WireHd) : WireHd :=
  if w.hd.longForm then
    { hd := { w.hd with longForm := true, omitConnId := false, pktNum := w.hd.pktNum % 4294967296 }, keyPhase := false }
  else w.short (w.hd.type.pktNumLen.getD 0)

theorem longBits {type : PktType} (long : longType type.code = some type) :
    headerFormBit (0x80 ||| type.code) = true ∧ longType ((0x80 ||| type.code) &&& 0x7f) = some type := by
  cases type <;> revert long <;> decide

theorem decodeHdLong_encoded (id : w.hd.connId < 18446744073709551616) (long : longType w.hd.type.code = some w.hd.type)
    (version : w.hd.version < 4294967296) :
    ngtcp2PktDecodeHd ((0x80 ||| w.hd.type.code) ::
        (beBytes 8 w.hd.connId ++ beBytes 4 w.hd.version ++ beBytes 4 w.hd.pktNum) ++ rest) =
      .ok (⟨{ w.hd with longForm := true, omitConnId := false, pktNum := w.hd.pktNum % 4294967296 }, false⟩,
        longHeaderlen) := by
  obtain ⟨form, read⟩ := longBits long
  generalize 0x80 ||| w.hd.type.code = first at *
  have connId := getUint_append [first] 8 w.hd.connId (beBytes 4 w.hd.version ++ (beBytes 4 w.hd.pktNum ++ rest)) (p := 1)
    rfl
  have field := getUint_append (first :: beBytes 8 w.hd.connId) 4 w.hd.version (beBytes 4 w.hd.pktNum ++ rest) (p := 9)
    (by simp)
  have pktNum := getUint_append (first :: (beBytes 8 w.hd.connId ++ beBytes 4 w.hd.version)) 4 w.hd.pktNum rest (p := 13)
    (by simp)
  rw [Nat.mod_eq_of_lt (by simpa using id)] at connId
  rw [Nat.mod_eq_of_lt (by simpa using version)] at field
  simp only [List.cons_append, List.nil_append, List.append_assoc] at connId field pktNum
  simp [ngtcp2PktDecodeHd, ngtcp2PktDecodeHdLong, form, read, connId, field, pktNum, longHeaderlen]
  omega

theorem decodeHd_of_short {pkt : List UInt8} {r : WireHd × Nat} (read : ngtcp2PktDecodeHdShort pkt = .ok r) :
    ngtcp2PktDecodeHd pkt = .ok r := by
  cases pkt with
  | nil => cases read
  | cons first rest =>
    cases form : headerFormBit first with
    | false => simpa [ngtcp2PktDecodeHd, form] using read
    | true => simp [ngtcp2PktDecodeHdShort, form] at read

theorem hdEncoding_read (ok : w.Readable) :
    ngtcp2PktDecodeHd (hdEncoding w ++ rest) = .ok (w.received, (hdEncoding w).length) := by
  obtain ⟨id, ok⟩ := ok
  unfold WireHd.received
  cases form : w.hd.longForm with
  | true =>
    rw [form] at ok
    have written : hdEncoding w = (0x80 ||| w.hd.type.code) ::
        (beBytes 8 w.hd.connId ++ beBytes 4 w.hd.version ++ beBytes 4 w.hd.pktNum) := by
      simp [hdEncoding, PpeBuf.encodeHdAs, form, ngtcp2PktEncodeHdLong]
    rw [written, decodeHdLong_encoded id ok.1 ok.2]
    simp [longHeaderlen]
  | false =>
    rw [form] at ok
    obtain ⟨width, len⟩ := Option.isSome_iff_exists.mp ok
    obtain ⟨bytes, encoded, decoded⟩ := decodeHdShort_encoded len id
    have same : hdEncoding w = bytes := by
      -- both are what fits a buffer of this length
      have all : PpeBuf.encodeHdAs bytes.length w = .ok bytes := by
        simp [PpeBuf.encodeHdAs, form, encoded]
      rcases encodeHdAs_eq w with ⟨n, -, -, run⟩ | ⟨-, run⟩ <;> rw [run] at all
      · split at all
        · cases all
        · exact Except.ok.inj all
      · cases all
    rw [same, len]
    exact decodeHd_of_short (decoded rest)

end Headers

def nullSeal (_ : Nat) (plain _ : List UInt8) : Option (List UInt8) := some (plain ++ List.replicate 16 0)

def nullOpen (_ : CryptoKm) (_ : Nat) (_ sealed : List UInt8) : Opened :=
  if short : (sealed.take (sealed.length - 16)).length < varintBound then .plaintext _ short else .failure

def pingHd : WireHd := ⟨⟨true, false, .INITIAL, 7, 1, 0⟩, false⟩

section Counting

inductive PpeOp where
  | frame (fr : WireFrame)
  | padding

namespace PpeOp

def write : PpeOp → Prog PpeBuf Err Unit
  | .frame fr => PpeBuf.encodeFrame fr
  | .padding => do
    let _ ← PpeBuf.padding
    pure ()

def count (q : Ppe) : PpeOp → Except Err Ppe
  | .frame fr => ngtcp2PpeEncodeFrame q fr.fr
  | .padding => (ngtcp2PpePadding q).map Prod.snd

def Sized : PpeOp → Prop
  | .frame fr => fr.Sized
  | .padding => True

end PpeOp

def PpeBuf.after : List PpeOp → PpeBuf → List (Except Err Unit) × PpeBuf
  | [], ppe => ([], ppe)
  | op :: ops, ppe => ((op.write ppe).1 :: (after ops (op.write ppe).2).1, (after ops (op.write ppe).2).2)

def Ppe.after : List PpeOp → Ppe → List (Except Err Unit) × Ppe
  | [], q => ([], q)
  | op :: ops, q =>
    let q' := (op.count q).toOption.getD q
    ((op.count q).map (fun _ => ()) :: (after ops q').1, (after ops q').2)

structure PpeBuf.Refines (ppe : PpeBuf) (q : Ppe) (out : List UInt8) (aeadOverhead : Nat) (hd : List UInt8)
    (ws : List WireFrame) : Prop where
  holds : ppe.Holds out aeadOverhead (hd ++ ws.flatMap frameEncoding)
  same : ppe.Shows q
  frames : q.frames = ws.map WireFrame.fr

variable {ppe : PpeBuf} {q : Ppe} {out hd : List UInt8} {aeadOverhead : Nat} {ws : List WireFrame}

theorem PpeBuf.Refines.add {ppe' : PpeBuf} {q' : Ppe} (refines : ppe.Refines q out aeadOverhead hd ws) (fr : WireFrame)
    (holds : ppe'.Holds out aeadOverhead (hd ++ ws.flatMap frameEncoding ++ frameEncoding fr)) (same : ppe'.Shows q')
    (frames : q'.frames = q.frames ++ [fr.fr]) : ppe'.Refines q' out aeadOverhead hd (ws ++ [fr]) where
  holds := by rwa [List.flatMap_append, List.flatMap_singleton, ← List.append_assoc]
  same := same
  frames := by rw [frames, refines.frames, List.map_append, List.map_singleton]

theorem ppeEncodeFrame_frames {q' : Ppe} {fr : Frame} (counted : ngtcp2PpeEncodeFrame q fr = .ok q') :
    q'.frames = q.frames ++ [fr] := by
  unfold ngtcp2PpeEncodeFrame at counted
  repeat' split at counted
  all_goals cases counted
  rfl

theorem PpeBuf.Refines.step (refines : ppe.Refines q out aeadOverhead hd ws) (size : out.length < 2 ^ 64) {op : PpeOp}
    (sized : op.Sized) :
    (op.write ppe).1 = (op.count q).map (fun _ => ()) ∧
      ∃ ws', (op.write ppe).2.Refines ((op.count q).toOption.getD q) out aeadOverhead hd ws' := by
  cases op with
  | frame fr =>
    have shown := refines.same.encodeFrame refines.holds size sized
    simp only [PpeOp.write, PpeOp.count]
    cases counted : ngtcp2PpeEncodeFrame q fr.fr with
    | error e =>
      simp only [counted] at shown
      rw [shown]
      exact ⟨rfl, ws, refines⟩
    | ok q' =>
      simp only [counted] at shown
      obtain ⟨ppe', run, shown⟩ := shown
      rw [run]
      rcases refines.holds.encodeFrame size sized with ⟨ppe'', run', holds, -⟩ | refused | ⟨failed, -⟩
      · obtain rfl := (Prod.mk.inj (run.symm.trans run')).2
        exact ⟨rfl, _, refines.add fr holds shown (ppeEncodeFrame_frames counted)⟩
      · cases run.symm.trans refused
      · cases run.symm.trans failed
  | padding =>
    obtain ⟨len, q', ppe', counted, run, shown⟩ := refines.same.padding refines.holds size
    have more : q'.frames = q.frames ++ [.padding len] := by
      unfold ngtcp2PpePadding at counted
      split at counted <;> cases counted
      rfl
    obtain ⟨ppe'', run', holds, -⟩ := refines.holds.padding size
    obtain ⟨length, rfl⟩ := Prod.mk.inj (run.symm.trans run')
    obtain rfl := Except.ok.inj length
    simp only [PpeOp.write, PpeOp.count, counted, Prog.bind_ok run]
    exact ⟨rfl, _, refines.add (Frame.padding _).plain holds shown more⟩

theorem PpeBuf.Refines.after (refines : ppe.Refines q out aeadOverhead hd ws) (size : out.length < 2 ^ 64)
    {ops : List PpeOp} (sized : ∀ op ∈ ops, op.Sized) :
    (ppe.after ops).1 = (q.after ops).1 ∧ ∃ ws', (ppe.after ops).2.Refines (q.after ops).2 out aeadOverhead hd ws' := by
  induction ops generalizing ppe q ws with
  | nil => exact ⟨rfl, ws, refines⟩
  | cons op ops ih =>
    obtain ⟨op_sized, sized⟩ := List.forall_mem_cons.mp sized
    obtain ⟨result, ws', refines⟩ := refines.step size op_sized
    obtain ⟨results, rest⟩ := ih refines sized
    exact ⟨congrArg₂ _ result results, rest⟩

end Counting

/-- A packet that a connection counts the bytes of is the packet that is written: the header and the frames are taken or
refused alike, the lengths are the same, and the bytes are those of the frames that the connection has recorded. -/
theorem ppe_refines (out : List UInt8) (aeadOverhead : Nat) (ckm : Option CryptoKm) (w : WireHd) (ops : List PpeOp)
    (size : out.length < 2 ^ 64) (sized : ∀ op ∈ ops, op.Sized) :
    (∃ e, ngtcp2PpeEncodeHd (ngtcp2PpeInit out.length aeadOverhead ckm) w.hd = .error e ∧
      PpeBuf.encodeHd w (.init out aeadOverhead) = (.error e, .init out aeadOverhead)) ∨
    ∃ q ppe, ∃ ws : List WireFrame, ngtcp2PpeEncodeHd (ngtcp2PpeInit out.length aeadOverhead ckm) w.hd = .ok q ∧
      PpeBuf.encodeHd w (.init out aeadOverhead) = (.ok (), ppe) ∧ (ppe.after ops).1 = (q.after ops).1 ∧
      (ppe.after ops).2.last = (q.after ops).2.len ∧ (q.after ops).2.frames = ws.map WireFrame.fr ∧
      (ppe.after ops).2.out.take (ppe.after ops).2.last = hdEncoding w ++ ws.flatMap frameEncoding := by
  by_cases room : aeadOverhead ≤ out.length
  · have empty : (PpeBuf.init out aeadOverhead).Holds out aeadOverhead [] :=
      ⟨rfl, rfl, (Nat.zero_add _).trans_le room, rfl, rfl⟩
    have shown := PpeBuf.Shows.encodeHd (q := ngtcp2PpeInit out.length aeadOverhead ckm) ⟨rfl, rfl, rfl, rfl, rfl⟩ empty
      size w
    cases counted : ngtcp2PpeEncodeHd (ngtcp2PpeInit out.length aeadOverhead ckm) w.hd with
    | error e =>
      simp only [counted] at shown
      exact .inl ⟨e, rfl, shown⟩
    | ok q =>
      simp only [counted] at shown
      obtain ⟨ppe, run, shown⟩ := shown
      rcases empty.encodeHd size w with ⟨ppe', run', holds, -⟩ | ⟨e, failed⟩
      · obtain rfl := (Prod.mk.inj (run.symm.trans run')).2
        have none : q.frames = [] := by
          unfold ngtcp2PpeEncodeHd at counted
          repeat' split at counted
          all_goals cases counted
          rfl
        have refines : ppe.Refines q out aeadOverhead (hdEncoding w) [] := ⟨by simpa using holds, shown, none⟩
        obtain ⟨results, ws, refines⟩ := refines.after size sized
        exact .inr ⟨q, ppe, ws, rfl, run, results, refines.same.len.symm, refines.frames, refines.holds.front⟩
      · cases run.symm.trans failed
  · refine .inl ⟨.NOBUF, if_pos (Nat.lt_of_not_le room), PpeBuf.encodeHd_short ?_⟩
    have left : (PpeBuf.init out aeadOverhead).left = out.length := sub64_eq (Nat.zero_le _) size
    rw [left]
    exact Nat.lt_of_not_le room

theorem ppe_refines_ping :
    ∃ ppe, ∃ ws : List WireFrame, PpeBuf.encodeHd pingHd (.init (List.replicate 64 0xff) 16) = (.ok (), ppe) ∧
      (ppe.after [.frame (Frame.ping []).plain, .padding]).2.last = 48 ∧ [.ping [], .padding 29] = ws.map WireFrame.fr := by
  have sized : ∀ op ∈ [PpeOp.frame (Frame.ping []).plain, .padding], op.Sized := by
    simp [PpeOp.Sized, WireFrame.Sized, Frame.plain]
  rcases ppe_refines (List.replicate 64 0xff) 16 none pingHd _ (by decide) sized with
    ⟨e, failed, -⟩ | ⟨q, ppe, ws, counted, run, -, last, frames, -⟩
  · cases failed
  · cases counted
    exact ⟨ppe, ws, run, last, frames⟩

end Ngtcp2
