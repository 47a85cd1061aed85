import Ngtcp2.Conn.Write
import Ngtcp2.Machine.RecvAck

/-!
# Building packets

What is done before a packet is sent shows in a view by its allocations only.
-/

namespace Ngtcp2

open Prog Relation

variable (app : App)

structure Ppe.At (ppe : Ppe) (pktNum : Nat) (ckm : Option CryptoKm) (frames : List Frame) : Prop where
  pktNum : ppe.pktNum = pktNum
  ckm : ppe.ckm = ckm
  frames : ppe.frames = frames
  hdlen : 0 < ppe.hdlen

theorem ngtcp2PktEncodeHdLen_pos {hd : PktHd} {n : Nat} (run : ngtcp2PktEncodeHdLen hd = .ok n) :
    0 < n := by
  unfold ngtcp2PktEncodeHdLen at run
  dsimp only at run
  split at run
  · cases run
    decide
  split at run
  all_goals
    cases run
    try omega

theorem ngtcp2PpeEncodeHd_at {destlen overhead : Nat} {ckm : Option CryptoKm} {hd : PktHd} {ppe : Ppe}
    (run : ngtcp2PpeEncodeHd (ngtcp2PpeInit destlen overhead ckm) hd = .ok ppe) :
    ppe.At hd.pktNum ckm [] := by
  unfold ngtcp2PpeEncodeHd at run
  split at run
  · cases run
  split at run
  · cases run
  case h_2 n encoded =>
    split at run
    · cases run
    · cases run
      exact ⟨rfl, rfl, rfl, ngtcp2PktEncodeHdLen_pos encoded⟩

theorem ngtcp2PktEncodeHdLen_valid {hd : PktHd} (valid : hd.longForm = true ∨ hd.shortType) :
    ∃ n, ngtcp2PktEncodeHdLen hd = .ok n := by
  unfold ngtcp2PktEncodeHdLen
  by_cases long : hd.longForm = true
  · exact ⟨_, if_pos long⟩
  · rcases valid.resolve_left long with short | short | short
    all_goals simp [long, short]

theorem ngtcp2PpeEncodeHd_error {destlen overhead : Nat} {ckm : Option CryptoKm} {hd : PktHd} {e : Err}
    (valid : hd.longForm = true ∨ hd.shortType)
    (run : ngtcp2PpeEncodeHd (ngtcp2PpeInit destlen overhead ckm) hd = .error e) : e = .NOBUF := by
  obtain ⟨n, encoded⟩ := ngtcp2PktEncodeHdLen_valid valid
  unfold ngtcp2PpeEncodeHd at run
  rw [encoded] at run
  dsimp only at run
  split_ifs at run
  all_goals
    cases run
    rfl

theorem ngtcp2PutVarintLen_ok {n len : Nat} (run : ngtcp2PutVarintLen n = .ok len) :
    n < varintBound := by
  unfold ngtcp2PutVarintLen at run
  split_ifs at run
  all_goals
    unfold varintBound at *
    omega

theorem ngtcp2PutVarintLen_error {n : Nat} {e : Err} (run : ngtcp2PutVarintLen n = .error e) :
    e = .ABORT := by
  unfold ngtcp2PutVarintLen at run
  split_ifs at run
  all_goals
    cases run
    try rfl

theorem putVarintLens_error {ns : List Nat} {e : Err} (run : putVarintLens ns = .error e) :
    e = .ABORT := by
  induction ns with
  | nil => cases run
  | cons n rest ih =>
    unfold putVarintLens at run
    split at run
    · cases run
    case h_2 err first =>
      cases run
      exact ngtcp2PutVarintLen_error first
    case h_3 err later =>
      cases run
      exact ih later

theorem putVarintLens_ok {ns : List Nat} {len : Nat} (run : putVarintLens ns = .ok len) :
    ∀ n ∈ ns, n < varintBound := by
  induction ns generalizing len with
  | nil => simp
  | cons n rest ih =>
    unfold putVarintLens at run
    split at run
    case h_1 first later =>
      intro m member
      rcases List.mem_cons.mp member with rfl | member
      · exact ngtcp2PutVarintLen_ok first
      · exact ih later m member
    all_goals cases run

theorem encodedLen_error {fixed : Nat} {ns : List Nat} {e : Err}
    (run : encodedLen fixed ns = .error e) : e = .ABORT := by
  unfold encodedLen at run
  split at run
  · cases run
  case h_2 err failed =>
    cases run
    exact putVarintLens_error failed

theorem ngtcp2PktEncodeFrameLen_error {fr : Frame} {e : Err}
    (run : ngtcp2PktEncodeFrameLen fr = .error e) : e = .ABORT := by
  cases fr <;> first | exact encodedLen_error run | cases run

theorem streamFrame_bounds {fr : StreamFrame} {n : Nat} (run : ngtcp2PktEncodeFrameLen (.stream fr) = .ok n) :
    fr.streamId < varintBound ∧ fr.offset < varintBound ∧ fr.datalen < varintBound := by
  change encodedLen _ _ = _ at run
  unfold encodedLen at run
  split at run
  case h_1 len encoded =>
    have bounds := putVarintLens_ok encoded
    have offset : fr.offset < varintBound := by
      by_cases zero : fr.offset = 0
      · rw [zero]
        decide
      · exact bounds _ (by simp [zero])
    exact ⟨bounds _ (by simp), offset, bounds _ (by simp)⟩
  case h_2 => cases run

theorem streamFrame_bound {fr : StreamFrame} {n : Nat}
    (run : ngtcp2PktEncodeFrameLen (.stream fr) = .ok n) :
    fr.offset + fr.datalen < 18446744073709551616 := by
  obtain ⟨-, offset, datalen⟩ := streamFrame_bounds run
  unfold varintBound at *
  omega

theorem ngtcp2PpeEncodeFrame_ok {ppe ppe' : Ppe} {fr : Frame}
    (run : ngtcp2PpeEncodeFrame ppe fr = .ok ppe') :
    (∃ n, ngtcp2PktEncodeFrameLen fr = .ok n) ∧
      ∀ {pktNum ckm frames}, ppe.At pktNum ckm frames → ppe'.At pktNum ckm (frames ++ [fr]) := by
  unfold ngtcp2PpeEncodeFrame at run
  split at run
  · cases run
  split at run
  · cases run
  case h_2 n encoded =>
    split at run
    · cases run
    · cases run
      refine ⟨⟨n, encoded⟩, fun before => ⟨before.pktNum, before.ckm, ?_, before.hdlen⟩⟩
      rw [← before.frames]

theorem ngtcp2PpeEncodeFrame_error {ppe : Ppe} {fr : Frame} {e : Err}
    (run : ngtcp2PpeEncodeFrame ppe fr = .error e) : e = .NOBUF ∨ e = .ABORT := by
  unfold ngtcp2PpeEncodeFrame at run
  split at run
  · cases run
    exact .inl rfl
  split at run
  case h_1 err encoded =>
    cases run
    exact .inr (ngtcp2PktEncodeFrameLen_error encoded)
  case h_2 =>
    split at run
    · cases run
      exact .inl rfl
    · cases run

variable {n : Nat} {ckm : Option CryptoKm} {frames : List Frame} {ppe : Ppe}

theorem connPpeWriteFrame_spec (called : Bool) (hd : PktHd) (fr : Frame) (s : Conn)
    (before : ppe.At n ckm frames) :
    wp (connPpeWriteFrame app ppe called hd fr)
      (fun ppe' t => Plain s t ∧ ppe'.At n ckm (frames ++ [fr]))
      (fun e t => e.fatal = true ∨ (e = .NOBUF ∧ t = s)) s := by
  unfold connPpeWriteFrame
  rw [wp_bind]
  cases encoded : ngtcp2PpeEncodeFrame ppe fr with
  | error e =>
    rcases ngtcp2PpeEncodeFrame_error encoded with rfl | rfl
    · exact .inr ⟨rfl, rfl⟩
    · exact .inl rfl
  | ok ppe' =>
    have after := (ngtcp2PpeEncodeFrame_ok encoded).2 before
    have last (u : Conn) : wp (do connCall app (.sendFrame hd fr); pure ppe' : ConnM Ppe)
        (fun ppe'' t => Plain u t ∧ ppe''.At n ckm (frames ++ [fr])) (fun e _ => e.fatal = true) u := by
      rw [wp_bind]
      exact wp_mono (connCall_plain app rfl) (fun _ t plain => ⟨plain, after⟩) fun _ _ fatal => fatal
    rw [wp_ofExcept_ok]
    cases called with
    | true => exact wp_mono (last s) (fun _ _ ok => ok) fun _ _ fatal => .inl fatal
    | false =>
      refine wp_mono (Q := fun ppe'' t => Plain s t ∧ ppe''.At n ckm (frames ++ [fr]))
        (E := fun e _ => e.fatal = true) ?_ (fun _ _ ok => ok) fun _ _ fatal => .inl fatal
      change wp (connCall app (.sendPkt hd) >>= fun _ => _) _ _ s
      rw [wp_bind]
      refine wp_mono (connCall_plain app rfl) (fun _ u plain => ?_) fun _ _ fatal => fatal
      exact wp_mono (last u) (fun _ t ok => ⟨plain.trans ok.1, ok.2⟩) fun _ _ fatal => fatal

theorem ngtcp2PpeFinal_spec (s : Conn) (before : ppe.At n ckm frames) :
    wp (ngtcp2PpeFinal app ppe)
      (fun len t => 0 < len ∧ ∃ km, t = s.emit (.encrypt km n frames)) (fun e _ => e.fatal = true) s := by
  obtain ⟨rfl, rfl, rfl, hdlen⟩ := before
  unfold ngtcp2PpeFinal
  cases key : ppe.ckm with
  | none => exact rfl
  | some km =>
    dsimp only
    rw [wp_bind, wp_get, wp_bind, emitEvent, wp_modify]
    split
    · exact rfl
    · exact ⟨by omega, km, rfl⟩

theorem ngtcp2PpePadding_spec (s : Conn) (before : ppe.At n ckm frames) :
    wp (Prog.ofExcept (ngtcp2PpePadding ppe) : ConnM (Nat × Ppe))
      (fun r t => t = s ∧ r.2.At n ckm (frames ++ [.padding r.1])) (fun e _ => e.fatal = true) s := by
  unfold ngtcp2PpePadding
  split
  · exact rfl
  · refine ⟨rfl, before.pktNum, before.ckm, ?_, before.hdlen⟩
    rw [← before.frames]

theorem retransmitPadding_spec (hd : PktHd) (s : Conn) (before : ppe.At n ckm frames) :
    wp (retransmitPadding app hd ppe) (fun ppe' t => Plain s t ∧ ∃ frames', ppe'.At n ckm frames')
      (fun e _ => e.fatal = true) s := by
  unfold retransmitPadding
  split
  · rw [wp_bind]
    refine wp_mono (ngtcp2PpePadding_spec s before) ?_ fun _ _ fatal => fatal
    rintro ⟨len, ppe'⟩ t ⟨rfl, built⟩
    dsimp only
    rw [wp_bind]
    exact wp_mono (connCall_plain app rfl) (fun _ u plain => ⟨plain, _, built⟩) fun _ _ fatal => fatal
  · exact ⟨.refl s, frames, before⟩

structure Wrote (s : Conn) (n : Nat) (ckm : Option CryptoKm) (before : List Frame)
    (Q : List Frame → List Frame → Prop) (r : List Frame × List Frame × Ppe) (t : Conn) : Prop where
  plain : Plain s t
  built : r.2.2.At n ckm (before ++ r.1)
  divided : Q r.1 r.2.1

theorem Wrote.stop (s : Conn) {left : List Frame} {Q : List Frame → List Frame → Prop}
    (before : ppe.At n ckm frames) (divided : Q [] left) :
    Wrote s n ckm frames Q ([], left, ppe) s :=
  ⟨.refl s, by simpa using before, divided⟩

theorem Wrote.cons {s t u : Conn} {fr : Frame} {Q Q' : List Frame → List Frame → Prop}
    {r : List Frame × List Frame × Ppe} (plain : Plain s t) (rest : Wrote t n ckm (frames ++ [fr]) Q r u)
    (divided : ∀ {written left}, Q written left → Q' (fr :: written) left) :
    Wrote s n ckm frames Q' (fr :: r.1, r.2.1, r.2.2) u :=
  ⟨plain.trans rest.plain, by simpa using rest.built, divided rest.divided⟩

theorem writeFrames_spec (hd : PktHd) (frc : List Frame) (called : Bool) (s : Conn)
    (before : ppe.At n ckm frames) :
    wp (writeFrames app hd frc ppe called)
      (Wrote s n ckm frames fun written left => frc = written ++ left) (fun e _ => e.fatal = true) s := by
  induction frc generalizing ppe frames called s with
  | nil => exact .stop s before rfl
  | cons fr rest ih =>
    unfold writeFrames
    rw [wp_bind, wp_attempt]
    refine wp_mono (connPpeWriteFrame_spec app called hd fr s before) (fun ppe' t wrote => ?_) ?_
    · dsimp only
      rw [wp_bind]
      refine wp_mono (ih true t wrote.2) (fun r u more => ?_) fun _ _ fatal => fatal
      exact more.cons wrote.1 fun divided => by rw [divided]; rfl
    · rintro e t (fatal | ⟨rfl, rfl⟩)
      · cases e <;> first | exact fatal | cases fatal
      · exact .stop t before rfl

def Sifted (gone : Frame → Bool) (frc written left : List Frame) : Prop :=
  (written ++ left).Sublist frc ∧ ∀ fr, (written ++ left).count fr < frc.count fr → gone fr = true

theorem Sifted.stop {gone : Frame → Bool} (frc : List Frame) : Sifted gone frc [] frc :=
  ⟨List.Sublist.refl _, fun _ fewer => absurd fewer (Nat.lt_irrefl _)⟩

theorem Sifted.write {gone : Frame → Bool} {fr : Frame} {frc written left : List Frame}
    (sifted : Sifted gone frc written left) : Sifted gone (fr :: frc) (fr :: written) left := by
  refine ⟨sifted.1.cons_cons fr, fun fr' fewer => sifted.2 fr' ?_⟩
  simp only [List.cons_append, List.count_cons] at fewer
  omega

theorem Sifted.skip {gone : Frame → Bool} {fr : Frame} {frc written left : List Frame}
    (skipped : gone fr = true) (sifted : Sifted gone frc written left) :
    Sifted gone (fr :: frc) written left := by
  refine ⟨sifted.1.cons fr, fun fr' fewer => ?_⟩
  by_cases same : fr' = fr
  · exact same ▸ skipped
  · exact sifted.2 fr' (by simpa [List.count_cons, Ne.symm same] using fewer)

theorem obsoleteFrame_plain {s t : Conn} (plain : Plain s t) : obsoleteFrame t = obsoleteFrame s := by
  obtain ⟨n, es, -, -, rfl⟩ := plain
  funext fr
  cases fr <;> rfl

theorem droppedFrame_plain {s t : Conn} (plain : Plain s t) : droppedFrame t = droppedFrame s := by
  obtain ⟨n, es, -, -, rfl⟩ := plain
  funext fr
  cases fr <;> rfl

theorem retransmitFrames_spec (hd : PktHd) (unchecked : Bool) (frc : List Frame) (called : Bool)
    (s : Conn) (before : ppe.At n ckm frames) :
    wp (retransmitFrames app hd unchecked frc ppe called)
      (Wrote s n ckm frames (Sifted (obsoleteFrame s) frc))
      (fun e _ => e.fatal = true) s := by
  induction frc generalizing ppe frames called s unchecked with
  | nil =>
    unfold retransmitFrames
    split
    · exact rfl
    · exact .stop s before (.stop _)
  | cons fr rest ih =>
    unfold retransmitFrames
    change wp (if !unchecked && obsoleteFrame s fr then _ else _ : ConnM _) _ _ s
    split
    case isTrue skip =>
      have obsolete : obsoleteFrame s fr = true := by simp_all
      refine wp_mono (ih fr.isStopSending called s before) (fun r t more => ?_) fun _ _ fatal => fatal
      exact ⟨more.plain, more.built, more.divided.skip obsolete⟩
    case isFalse =>
      rw [wp_bind, wp_attempt]
      refine wp_mono (connPpeWriteFrame_spec app called hd fr s before) (fun ppe' t wrote => ?_) ?_
      · dsimp only
        rw [wp_bind]
        refine wp_mono (ih false true t wrote.2) (fun r u more => ?_) fun _ _ fatal => fatal
        rw [obsoleteFrame_plain wrote.1] at more
        exact more.cons wrote.1 Sifted.write
      · rintro e t (fatal | ⟨rfl, rfl⟩)
        · cases e <;> first | exact fatal | cases fatal
        · exact .stop t before (.stop _)

theorem frqFrames_spec (hd : PktHd) (frq : List Frame) (called : Bool) (s : Conn)
    (before : ppe.At n ckm frames) :
    wp (frqFrames app hd frq ppe called) (Wrote s n ckm frames (Sifted (droppedFrame s) frq))
      (fun e _ => e.fatal = true) s := by
  induction frq generalizing ppe frames called s with
  | nil => exact .stop s before (.stop _)
  | cons fr rest ih =>
    unfold frqFrames
    change wp (if droppedFrame s fr then _ else _ : ConnM _) _ _ s
    split
    case isTrue skip =>
      refine wp_mono (ih called s before) (fun r t more => ?_) fun _ _ fatal => fatal
      exact ⟨more.plain, more.built, more.divided.skip skip⟩
    case isFalse =>
      rw [wp_bind, wp_attempt]
      refine wp_mono (connPpeWriteFrame_spec app called hd fr s before) (fun ppe' t wrote => ?_) ?_
      · dsimp only
        rw [wp_bind]
        refine wp_mono (ih true t wrote.2) (fun r u more => ?_) fun _ _ fatal => fatal
        rw [droppedFrame_plain wrote.1] at more
        exact more.cons wrote.1 Sifted.write
      · rintro e t (fatal | ⟨rfl, rfl⟩)
        · cases e <;> first | exact fatal | cases fatal
        · exact .stop t before (.stop _)

end Ngtcp2
