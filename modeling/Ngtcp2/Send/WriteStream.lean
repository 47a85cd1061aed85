import Ngtcp2.Send.Noted
import Ngtcp2.System
import Ngtcp2.Recovery.Resend
import Ngtcp2.Wire.Encode

/-!
# Writing stream data

`ngtcp2_conn_write_stream` sends one STREAM frame in a packet of its own. It comes to nothing, or to a
packet that is tracked and accounted for.
-/

namespace Ngtcp2

open Prog

structure WriteReady (s : Conn) (destlen streamId : Nat) (strm : Strm) (ppe : Ppe) : Prop where
  unspent : s.lastTxPktNum ≠ uint64Max
  found : s.strms streamId = some strm
  unshut : strm.shutWr = false
  headed : ∃ hd ckm early, writeStreamHd s = .ok (hd, ckm, early) ∧
    ngtcp2PpeEncodeHd (ngtcp2PpeInit destlen s.aeadOverhead (some ckm)) hd = .ok ppe
  room : streamOverhead < ngtcp2PpeLeft ppe

/-- A STREAM frame has gone out as the next packet, and the entry `ent` tracks it. -/
structure StreamSent (s t : Conn) (strm : Strm) (fr : StreamFrame) (early : Bool) (ent : RtbEntry) : Prop where
  found : s.strms fr.streamId = some strm
  unshut : strm.shutWr = false
  offset : fr.offset = strm.txOffset
  strms : t.strms = Function.update s.strms fr.streamId
    (some { strm with txOffset := strm.txOffset + fr.datalen, shutWr := fr.fin })
  txOffset : t.txOffset = if fr.streamId = 0 then s.txOffset else add64 s.txOffset fr.datalen
  room : fr.datalen ≤ sub64 s.maxTxOffset s.txOffset
  unspent : s.lastTxPktNum ≠ uint64Max
  lastTxPktNum : t.lastTxPktNum = add64 s.lastTxPktNum 1
  frames : ent.frc = [.stream fr]
  number : ent.hd.pktNum = t.lastTxPktNum
  tracked : if early then t.rtb = s.rtb ∧ t.earlyRtb = s.earlyRtb ++ [ent]
    else t.rtb = ngtcp2RtbAdd s.rtb ent ∧ t.earlyRtb = s.earlyRtb

section

variable (app : App) {s : Conn} {destlen streamId : Nat} {fin : Bool} {data : List UInt8} {ts : Nat}

theorem writeStreamTrack_sent (early : Bool) (ent : RtbEntry) (nwrite : Nat) {u : Conn} {strm : Strm} {fr : StreamFrame}
    (noted : Noted s u) (unspent : s.lastTxPktNum ≠ uint64Max) (found : s.strms fr.streamId = some strm)
    (unshut : strm.shutWr = false) (offset : fr.offset = strm.txOffset) (bound : fr.endOffset < 18446744073709551616)
    (room : fr.datalen ≤ sub64 s.maxTxOffset s.txOffset) (frames : ent.frc = [.stream fr])
    (number : ent.hd.pktNum = add64 s.lastTxPktNum 1) :
    wp (do
      writeStreamTrack app early ent
      modifyStrm fr.streamId fun strm =>
        { strm with txOffset := add64 strm.txOffset fr.datalen, shutWr := strm.shutWr || fr.fin }
      modify fun c => { c with txOffset := if fr.streamId ≠ 0 then add64 c.txOffset fr.datalen else c.txOffset }
      incLastTxPktNum
      pure (nwrite, fr.datalen) : ConnM (Nat × Nat))
      (fun r t => r = (nwrite, fr.datalen) ∧ ∃ ent, StreamSent s t strm fr early ent) (fun _ t => Noted s t) u := by
  obtain ⟨n, log, rfl⟩ := noted
  have sum : add64 strm.txOffset fr.datalen = strm.txOffset + fr.datalen := by
    refine add64_eq ?_
    rw [← offset]
    exact bound
  have update : (some strm).map (fun strm : Strm =>
      { strm with txOffset := add64 strm.txOffset fr.datalen, shutWr := strm.shutWr || fr.fin }) =
      some { strm with txOffset := strm.txOffset + fr.datalen, shutWr := fr.fin } := by
    simp [sum, unshut]
  have strms : Function.update s.strms fr.streamId ((s.strms fr.streamId).map fun strm : Strm =>
        { strm with txOffset := add64 strm.txOffset fr.datalen, shutWr := strm.shutWr || fr.fin }) =
      Function.update s.strms fr.streamId
        (some { strm with txOffset := strm.txOffset + fr.datalen, shutWr := fr.fin }) := by
    simp [found, sum, unshut]
  have txOffset : (if fr.streamId ≠ 0 then add64 s.txOffset fr.datalen else s.txOffset) =
      if fr.streamId = 0 then s.txOffset else add64 s.txOffset fr.datalen := by
    by_cases zero : fr.streamId = 0 <;> simp [zero]
  unfold writeStreamTrack
  rw [wp_bind]
  cases early with
  | true =>
    exact ⟨rfl, { ent with hd := { ent.hd with longForm := false, type := .PKT_01 } }, found, unshut, offset, strms,
      txOffset, room, unspent, rfl, frames, number, rfl, rfl⟩
  | false =>
    refine wp_mono (connRtbAdd_notes app ent _) ?_ fun _ t stopped => (Noted.trans ⟨n, log, rfl⟩ stopped)
    rintro _ t ⟨m, rfl⟩
    exact ⟨rfl, ent, found, unshut, offset, strms, txOffset, room, unspent, rfl, frames, number, rfl, rfl⟩

theorem ngtcp2ConnWriteStream_sent (destlen streamId : Nat) (fin : Bool) (data : List UInt8) (ts : Nat) (s : Conn) :
    wp (ngtcp2ConnWriteStream app destlen streamId fin data ts)
      (fun r t => 0 < r.1 ∧ ∃ strm ppe fr early ent, WriteReady s destlen streamId strm ppe ∧
        StreamSent s t strm fr early ent ∧ fr.streamId = streamId ∧ fr.datalen < varintBound ∧ fr.datalen = r.2 ∧
        fr.data = data.take r.2 ∧ fr.fin = (fin && r.2 == data.length) ∧ r.2 = writeStreamLen s strm (ngtcp2PpeLeft ppe) data.length ∧
        (data ≠ [] → 0 < r.2)) (fun _ t => Noted s t) s := by
  have here : Noted s s := .refl s
  unfold ngtcp2ConnWriteStream
  rw [wp_bind, wp_get]
  split
  next => exact here
  next unspent =>
  split
  next => exact here
  next strm found =>
  split
  next => exact here
  next open_ =>
  have unshut : strm.shutWr = false := by simpa using open_
  rw [wp_bind]
  cases headed : writeStreamHd s with
  | error e => exact here
  | ok r =>
  obtain ⟨hd, ckm, early⟩ := r
  have number : hd.pktNum = add64 s.lastTxPktNum 1 := (writeStreamHd_ok headed).1
  rw [wp_ofExcept_ok]
  dsimp only
  rw [wp_bind]
  cases encoded : ngtcp2PpeEncodeHd (ngtcp2PpeInit destlen s.aeadOverhead (some ckm)) hd with
  | error e => exact here
  | ok ppe =>
  rw [wp_ofExcept_ok]
  split
  next => exact here
  next room =>
  split
  next => exact here
  next unblocked =>
  have ready : WriteReady s destlen streamId strm ppe :=
    ⟨unspent, found, unshut, ⟨hd, ckm, early, headed, encoded⟩, by omega⟩
  obtain ⟨whole, strmFits, connFits⟩ := writeStreamLen_le s strm (ngtcp2PpeLeft ppe) data.length
  generalize size : writeStreamLen s strm (ngtcp2PpeLeft ppe) data.length = n at *
  let fr : StreamFrame :=
    { fin := fin && n == data.length, streamId := streamId, offset := strm.txOffset, data := data.take n }
  have datalen : fr.datalen = n := List.length_take_of_le whole
  rw [wp_bind]
  refine wp_mono (connCall_notes app _ s) (fun _ t noted => ?_) fun _ _ stopped => stopped
  rw [wp_bind]
  refine wp_mono (malloc_notes app t) (fun _ u noted' => ?_) fun _ _ stopped => noted.trans stopped
  have noted := noted.trans noted'
  rw [wp_bind]
  cases written : ngtcp2PpeEncodeFrame ppe (.stream fr) with
  | error e => exact noted
  | ok ppe' =>
  obtain ⟨⟨len, valid⟩, adds⟩ := ngtcp2PpeEncodeFrame_ok written
  have bound := streamFrame_bound valid
  have built := adds (ngtcp2PpeEncodeHd_at encoded)
  rw [wp_ofExcept_ok, wp_bind]
  refine wp_mono (connCall_notes app _ u) (fun _ v noted' => ?_) fun _ _ stopped => noted.trans stopped
  have noted := noted.trans noted'
  rw [wp_bind]
  refine wp_intro (fun nwrite w run => ?_) fun _ _ run => noted.trans ((ngtcp2PpeFinal_notes app ppe' v).stopped run)
  have positive : 0 < nwrite := by
    have spec := wp_ok (ngtcp2PpeFinal_spec app v built) run
    exact spec.1
  have noted := noted.trans ((ngtcp2PpeFinal_notes app ppe' v).reached run)
  rw [wp_bind]
  refine wp_mono (connRtbEntryNew_notes app _ _ _ _ _ _ w) ?_ fun _ _ stopped => noted.trans stopped
  rintro ent x ⟨rfl, noted'⟩
  have finish := writeStreamTrack_sent app early
    (ngtcp2RtbEntryNew w.nalloc hd [.stream fr] ts (add64 ts pktDeadlinePeriod) nwrite false) nwrite
    (noted.trans noted') unspent found (by simpa using open_) rfl bound (datalen ▸ connFits) rfl number
  rw [datalen] at finish
  refine wp_mono finish ?_ fun _ _ stopped => stopped
  rintro r t ⟨rfl, ent, sent⟩
  refine ⟨positive, strm, ppe, fr, early, ent, ready, sent, rfl, (streamFrame_bounds valid).2.2, datalen, rfl, rfl,
    size.symm, fun some => ?_⟩
  have filled := List.length_pos_of_ne_nil some
  dsimp only
  omega

/-- Where a stream write fails, nothing has changed but the log and the allocations. Where it succeeds, one
STREAM frame with a front part of the data has gone out, in one new entry. -/
theorem writeStream_atomic (destlen streamId : Nat) (fin : Bool) (data : List UInt8) (ts : Nat) (s : Conn) :
    wp (ngtcp2ConnWriteStream app destlen streamId fin data ts)
      (fun r t => 0 < r.1 ∧ r.2 ≤ data.length ∧ ∃ strm fr early ent, StreamSent s t strm fr early ent ∧
        fr.streamId = streamId ∧ fr.datalen = r.2 ∧ fr.data = data.take r.2 ∧
        (fr.fin = true ↔ fin = true ∧ r.2 = data.length) ∧
        (s.lastTxPktNum ≤ uint64Max → t.lastTxPktNum = s.lastTxPktNum + 1) ∧
        (s.txOffset ≤ s.maxTxOffset → s.maxTxOffset ≤ uint64Max → streamId ≠ 0 → t.txOffset = s.txOffset + r.2))
      (fun _ t => Noted s t) s := by
  refine wp_mono (ngtcp2ConnWriteStream_sent app destlen streamId fin data ts s) ?_ fun _ _ noted => noted
  rintro ⟨nwrite, n⟩ t ⟨positive, strm, ppe, fr, early, ent, -, sent, named, -, datalen, front, last, size, -⟩
  have whole := (writeStreamLen_le s strm (ngtcp2PpeLeft ppe) data.length).1
  refine ⟨positive, size ▸ whole, strm, fr, early, ent, sent, named, datalen, front, by simp [last], fun small => ?_,
    fun within small plain => ?_⟩
  · rw [sent.lastTxPktNum]
    have unspent := sent.unspent
    exact add64_eq (by unfold uint64Max at *; omega)
  · have room := sent.room
    rw [sub64_eq within (by unfold uint64Max at small; omega)] at room
    rw [sent.txOffset, if_neg (named ▸ plain), ← datalen]
    exact add64_eq (by unfold uint64Max at small; omega)

end

def streamWidth (streamId offset datalen : Nat) : Nat :=
  1 + (varintBytes streamId).length + (if offset = 0 then 0 else (varintBytes offset).length) +
    (varintBytes datalen).length

def Conn.windowed (c : Conn) (strm : Strm) (datalen : Nat) : Nat :=
  min datalen (min (sub64 strm.maxTxOffset strm.txOffset) (sub64 c.maxTxOffset c.txOffset))

/-- There is space for a STREAM frame: either all data that may be sent fits with its own overhead, or
the data is cut and the overhead is not larger than what is reserved for it. -/
def StreamSpace (streamId offset windowed left : Nat) : Prop :=
  if windowed ≤ left - streamOverhead then
    windowed < varintBound ∧ streamWidth streamId offset windowed + windowed ≤ left
  else
    left - streamOverhead < varintBound ∧ streamWidth streamId offset (left - streamOverhead) ≤ streamOverhead

instance (streamId offset windowed left : Nat) : Decidable (StreamSpace streamId offset windowed left) := by
  unfold StreamSpace
  infer_instance

theorem writeStreamLen_eq (c : Conn) (strm : Strm) (left datalen : Nat) :
    writeStreamLen c strm left datalen = min (c.windowed strm datalen) (left - streamOverhead) := by
  unfold writeStreamLen Conn.windowed
  omega

theorem streamSpace_iff {streamId offset windowed left : Nat} (room : streamOverhead < left) :
    StreamSpace streamId offset windowed left ↔
      min windowed (left - streamOverhead) < varintBound ∧
        streamWidth streamId offset (min windowed (left - streamOverhead)) + min windowed (left - streamOverhead) ≤
          left := by
  unfold StreamSpace
  split
  next small => rw [Nat.min_eq_left small]
  next large =>
    rw [Nat.min_eq_right (by omega)]
    refine and_congr_right fun _ => ?_
    omega

section

variable {fr : StreamFrame} {ppe : Ppe}

theorem streamFrameLen (streamId : fr.streamId < varintBound) (offset : fr.offset < varintBound)
    (datalen : fr.datalen < varintBound) :
    ngtcp2PktEncodeFrameLen (.stream fr) = .ok (streamWidth fr.streamId fr.offset fr.datalen + fr.datalen) := by
  change encodedLen _ _ = _
  rw [encodedLen_eq]
  · unfold streamWidth
    by_cases zero : fr.offset = 0 <;> simp [zero] <;> omega
  · intro n member
    by_cases zero : fr.offset = 0
    · have either : n = fr.streamId ∨ n = fr.datalen := by simpa [zero] using member
      rcases either with rfl | rfl <;> assumption
    · have either : n = fr.offset ∨ n = fr.streamId ∨ n = fr.datalen := by simpa [zero] using member
      rcases either with rfl | rfl | rfl <;> assumption

theorem ngtcp2PpeEncodeFrame_stream (streamId : fr.streamId < varintBound) (offset : fr.offset < varintBound)
    (room : 0 < ngtcp2PpeLeft ppe) :
    (∃ ppe', ngtcp2PpeEncodeFrame ppe (.stream fr) = .ok ppe') ↔
      fr.datalen < varintBound ∧ streamWidth fr.streamId fr.offset fr.datalen + fr.datalen ≤ ngtcp2PpeLeft ppe := by
  have space : ¬ ppe.bufLeft < ppe.aeadOverhead ∧ ngtcp2PpeLeft ppe = ppe.bufLeft - ppe.aeadOverhead := by
    unfold ngtcp2PpeLeft at room ⊢
    split at room
    · omega
    next enough => exact ⟨enough, if_neg enough⟩
  constructor
  · rintro ⟨ppe', run⟩
    obtain ⟨⟨n, valid⟩, -⟩ := ngtcp2PpeEncodeFrame_ok run
    have datalen : fr.datalen < varintBound := (streamFrame_bounds valid).2.2
    rw [ngtcp2PpeEncodeFrame, if_neg space.1, streamFrameLen streamId offset datalen] at run
    dsimp only at run
    split at run
    · cases run
    · exact ⟨datalen, by omega⟩
  · rintro ⟨datalen, fits⟩
    rw [ngtcp2PpeEncodeFrame, if_neg space.1, streamFrameLen streamId offset datalen]
    dsimp only
    rw [if_neg (by omega)]
    exact ⟨_, rfl⟩

end

section

variable {app : App} {s : Conn} {destlen streamId : Nat} {strm : Strm} {ppe : Ppe}

theorem succeeds_of_keeps {α : Type} {m : ConnM α} {u : Conn} (keeps : Keeps (fun _ : Conn => ()) m u) :
    ∃ r t, m u = (.ok r, t) := by
  obtain ⟨r, t, run, -⟩ := keeps
  exact ⟨r, t, run⟩

theorem writeStream_run (obliging : Obliging app) (ready : WriteReady s destlen streamId strm ppe) (fin : Bool)
    (data : List UInt8) (ts : Nat) (allowed : data = [] ∨ 0 < s.windowed strm data.length) :
    (∃ r t, ngtcp2ConnWriteStream app destlen streamId fin data ts s = (.ok r, t)) ↔
      ∃ ppe', ngtcp2PpeEncodeFrame ppe (.stream
        { fin := fin && writeStreamLen s strm (ngtcp2PpeLeft ppe) data.length == data.length, streamId := streamId,
          offset := strm.txOffset,
          data := data.take (writeStreamLen s strm (ngtcp2PpeLeft ppe) data.length) }) = .ok ppe' := by
  obtain ⟨hd, ckm, early, headed, encoded⟩ := ready.headed
  have room := ready.room
  have unblocked : ¬ (data.length > 0 ∧ writeStreamLen s strm (ngtcp2PpeLeft ppe) data.length = 0) := by
    rintro ⟨some, none⟩
    rw [writeStreamLen_eq] at none
    rcases allowed with rfl | allowed
    · cases some
    · omega
  unfold ngtcp2ConnWriteStream
  rw [bind_ok (show (get : ConnM Conn) s = (.ok s, s) from rfl), if_neg ready.unspent, ready.found]
  dsimp only
  rw [if_neg (by simp [ready.unshut]), headed, bind_ok (show Prog.ofExcept (.ok _) s = (.ok _, s) from rfl)]
  dsimp only
  rw [encoded, bind_ok (show Prog.ofExcept (.ok _) s = (.ok _, s) from rfl), if_neg (by omega), if_neg unblocked]
  rw [bind_ok (connCall_succeeds (obliging.callbacks _ _)), bind_ok (malloc_succeeds (obliging.memory _))]
  cases written : ngtcp2PpeEncodeFrame ppe (.stream
    { fin := fin && writeStreamLen s strm (ngtcp2PpeLeft ppe) data.length == data.length, streamId := streamId,
      offset := strm.txOffset, data := data.take (writeStreamLen s strm (ngtcp2PpeLeft ppe) data.length) }) with
  | error e =>
    constructor
    · rintro ⟨r, t, run⟩
      cases run
    · rintro ⟨ppe', run⟩
      cases run
  | ok ppe' =>
    refine ⟨fun _ => ⟨ppe', rfl⟩, fun _ => ?_⟩
    have built := (ngtcp2PpeEncodeFrame_ok written).2 (ngtcp2PpeEncodeHd_at encoded)
    refine succeeds_of_keeps (.bind (.run rfl rfl) fun _ u run => ?_)
    cases run
    refine .bind (.run (connCall_succeeds (obliging.callbacks _ _)) rfl) fun _ v _ => ?_
    obtain ⟨nwrite, w, sealed, -⟩ := ngtcp2PpeFinal_run obliging ppe' built.ckm built.hdlen v
    refine .bind (.run sealed rfl) fun _ x _ => .bind (.bind (.run (malloc_succeeds (obliging.memory _)) rfl)
      fun _ _ _ => .pure _) fun ent y _ => .bind ?_ fun _ _ _ => .bind (.modify rfl) fun _ _ _ => .bind (.modify rfl)
      fun _ _ _ => .bind (.modify rfl) fun _ _ _ => .pure _
    unfold writeStreamTrack
    split
    · exact .modify rfl
    · obtain ⟨z, added, -⟩ := connRtbAdd_run obliging ent y
      exact .run added rfl

/-- A stream write with something to send succeeds exactly if the overhead of the frame is within what is
reserved, or the data is so short that it fits nevertheless. -/
theorem writeStream_fits_iff (obliging : Obliging app) (ready : WriteReady s destlen streamId strm ppe)
    (idBound : streamId < varintBound) (offsetBound : strm.txOffset < varintBound) (fin : Bool) (data : List UInt8)
    (ts : Nat) (allowed : data = [] ∨ 0 < s.windowed strm data.length) :
    (∃ r t, ngtcp2ConnWriteStream app destlen streamId fin data ts s = (.ok r, t)) ↔
      StreamSpace streamId strm.txOffset (s.windowed strm data.length) (ngtcp2PpeLeft ppe) := by
  have room := ready.room
  have whole := (writeStreamLen_le s strm (ngtcp2PpeLeft ppe) data.length).1
  rw [writeStream_run obliging ready fin data ts allowed, streamSpace_iff room, ← writeStreamLen_eq,
    ngtcp2PpeEncodeFrame_stream idBound offsetBound (by omega)]
  simp [StreamFrame.datalen, Nat.min_eq_left whole]

end

-- the client has opened stream 4
def writingServer : Conn :=
  openServer.play [(.quiet, .frame (.stream { fin := false, streamId := 4, offset := 0, data := [1] }))]

theorem writeStream_fits_iff_writingServer :
    ∃ strm ppe, WriteReady writingServer 50 4 strm ppe ∧
      writingServer.windowed strm 100 = 100 ∧ ngtcp2PpeLeft ppe - streamOverhead < 100 ∧
      ((∃ r t, ngtcp2ConnWriteStream .quiet 50 4 false (List.replicate 100 0) 0 writingServer = (.ok r, t)) ↔
        StreamSpace 4 strm.txOffset (writingServer.windowed strm (List.replicate 100 (0 : UInt8)).length)
          (ngtcp2PpeLeft ppe)) := by
  have ready : ∃ strm ppe, WriteReady writingServer 50 4 strm ppe ∧ strm.txOffset < varintBound ∧
      writingServer.windowed strm 100 = 100 ∧ ngtcp2PpeLeft ppe - streamOverhead < 100 :=
    ⟨_, _, ⟨by decide, rfl, rfl, ⟨_, _, _, rfl, rfl⟩, by decide⟩, by decide, by decide, by decide⟩
  obtain ⟨strm, ppe, ready, bound, windowed, cut⟩ := ready
  refine ⟨strm, ppe, ready, windowed, cut, writeStream_fits_iff quiet_obliging ready (by decide) bound false _ 0 (.inr ?_)⟩
  rw [List.length_replicate, windowed]
  decide

-- a stream with a large id on which much has been sent
def longStrm : Strm :=
  { ngtcp2StrmInit 4611686018427387900 false false 1000 4294967296 with txOffset := 2147483648 }

def longServer : Conn :=
  { openServer with strms := Function.update openServer.strms 4611686018427387900 (some longStrm) }

theorem writeStream_reserves_too_little :
    ∃ ppe, WriteReady longServer 100 4611686018427387900 longStrm ppe ∧ longStrm.txOffset < varintBound ∧
      longServer.windowed longStrm 100 = 100 ∧
      (ngtcp2ConnWriteStream .quiet 100 4611686018427387900 false (List.replicate 100 0) 0 longServer).1 =
        .error .NOBUF :=
  ⟨_, ⟨by decide, by simp [longServer], rfl, ⟨_, _, _, rfl, rfl⟩, by decide⟩, by decide, by decide, by decide⟩

end Ngtcp2
