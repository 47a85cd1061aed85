import Ngtcp2.Machine.Write

namespace Ngtcp2

open Prog Relation

variable {sc : Scope} (app : App)

def Quiet (s t : Conn) : Prop := (∀ sc, Reaches sc s t) ∧ t.view.tracked = s.view.tracked

theorem Quiet.trans {s t u : Conn} (first : Quiet s t) (second : Quiet t u) : Quiet s u :=
  ⟨fun sc => ReflTransGen.trans (first.1 sc) (second.1 sc), second.2.trans first.2⟩

theorem Quiet.move {s t : Conn} (move : ∀ sc, Move sc s.view t.view)
    (tracked : t.view.tracked = s.view.tracked) : Quiet s t :=
  ⟨fun sc => .of_move (move sc), tracked⟩

theorem Conn.pushFrq_quiet (c : Conn) (fr : Frame) (due : c.view.Queues fr) : Quiet c (c.pushFrq fr) :=
  ⟨fun _ => c.pushFrq_moves due, rfl⟩

theorem connQueueMaxData_spec (ackfr : Option Ack) (s : Conn) :
    wp (connQueueMaxData app ackfr) (fun _ t => Quiet s t) (fun e _ => e.fatal = true) s := by
  unfold connQueueMaxData
  rw [wp_bind, wp_get]
  split
  next =>
    rw [wp_bind]
    refine wp_mono (connPushFrq_spec app _ s) ?_ fun _ _ fatal => fatal
    rintro _ t rfl
    exact (s.pushFrq_quiet (.maxData _) rfl).trans (.move (fun _ => .advertise _ List.mem_cons_self) rfl)
  next => exact ⟨fun _ => .refl, rfl⟩

theorem advertise_quiet {c : Conn} {id : Nat} {strm : Strm} {rest : List Nat}
    (first : c.fcStrms = id :: rest) (listed : strm.fcPprev = true) (found : c.strms id = some strm)
    (queued : .maxStreamData { streamId := id, maxStreamData := strm.unsentMaxRxOffset } ∈ c.frq) :
    Quiet c { c.setStrm id (some { strm with
      maxRxOffset := strm.unsentMaxRxOffset, fcPprev := false }) with fcStrms := rest } := by
  refine .move (fun sc => ?_) rfl
  have view := c.view_setStrm id (some { strm with
    maxRxOffset := strm.unsentMaxRxOffset, fcPprev := false })
  change Move sc _ { Conn.view (c.setStrm id _) with fcStrms := rest }
  rw [view]
  exact .advertiseStrm c.view rest id strm.view first listed (Conn.view_strms found) queued

theorem connQueueMaxStreamData_spec {ids : List Nat} {s : Conn} (all : s.fcStrms = ids) :
    wp (connQueueMaxStreamData app ids) (fun _ t => Quiet s t) (fun e _ => e.fatal = true) s := by
  induction ids generalizing s with
  | nil => exact ⟨fun _ => .refl, rfl⟩
  | cons id rest ih =>
    unfold connQueueMaxStreamData
    rw [wp_bind]
    refine wp_intro (fun strm t run => ?_) fun _ _ run => getStrm_error run
    obtain ⟨rfl, found⟩ := getStrm_ok run
    split
    next => exact rfl
    next listed =>
    have listed : strm.fcPprev = true := by simpa using listed
    rw [wp_bind]
    refine wp_mono (connPushFrq_spec app _ t) ?_ fun _ _ fatal => fatal
    rintro _ u rfl
    rw [wp_bind, wp_modifyStrm (c := t.pushFrq _) _ found, wp_bind, wp_modify]
    refine wp_mono (ih rfl) (fun _ w quiet => ?_) fun _ _ fatal => fatal
    exact (t.pushFrq_quiet (.maxStreamData _) ⟨strm.view, Conn.view_strms found, rfl⟩).trans
      (Quiet.trans (advertise_quiet (c := t.pushFrq _) all listed found List.mem_cons_self) quiet)

theorem connCreateDueAck_spec (ts : Nat) (s : Conn) :
    wp (connCreateDueAck app ts)
      (fun r t => Aside s t ∧ ∀ ack, r = some ack → AckMade false t ack)
      (fun e _ => e.fatal = true) s := by
  unfold connCreateDueAck
  rw [wp_bind, wp_get]
  split
  next => exact connCreateAckFrame_spec app ts false s
  next => exact ⟨.refl s, by simp⟩

section Frames

variable {s t u : Conn} {ckm : Option CryptoKm} {ackfr : Option (Ack × Bool)} {frames : List Frame}
  {ppe : Ppe} {v : View} {hd : PktHd} {destlen ts : Nat}

theorem Prepared.wrote {Q : List Frame → List Frame → Prop} {r : List Frame × List Frame × Ppe}
    (prepared : Prepared s ckm ackfr frames ppe v t) (wrote : Wrote t v.next ckm frames Q r u) :
    Prepared s ckm ackfr (frames ++ r.1) r.2.2 { v with nalloc := u.nalloc } u :=
  { prepared.plain wrote.plain with
    carried := (prepared.plain wrote.plain).carried.mono rfl id (List.subset_append_left _ _)
    built := wrote.built }

theorem Prepared.sift {frq : List Frame} (prepared : Prepared s ckm ackfr frames ppe v t)
    (kept : frq.Sublist t.frq)
    (dropped : ∀ fr, frq.count fr < t.frq.count fr → droppedFrame t fr = true) :
    Prepared s ckm ackfr frames ppe { v with frq := frq } { t with frq := frq } := by
  have queue : t.frq = v.frq := congrArg View.frq prepared.committed
  have strms : t.view.strms = v.strms := by rw [prepared.committed]; rfl
  refine prepared.move (fun _ => .sift v frq (queue ▸ kept) fun fr fewer => ?_) ?_ rfl id rfl id
  · have gone := dropped fr (queue ▸ fewer)
    cases fr with
    | rstStream fr =>
      simp only [droppedFrame, Bool.and_eq_true, Option.isNone_iff_eq_none, bne_iff_ne] at gone
      refine ⟨?_, gone.2⟩
      rw [← strms]
      simp [Conn.view, gone.1]
    | stopSending fr => trivial
    | _ => cases gone
  · have committed := prepared.committed
    change { t.view with frq := frq } = _
    rw [committed]
    rfl

theorem writePktAck_spec {ack? : Option Ack} (made : ∀ ack, ack? = some ack → AckMade false s ack)
    (prepared : Prepared s ckm none frames ppe s.view s) :
    wp (writePktAck app hd ppe ack?)
      (fun ppe' t => ∃ ackfr frames v, ackfr.isSome = ack?.isSome ∧
        Prepared s ckm ackfr frames ppe' v t)
      (fun e t => e.fatal = true ∨ t = s) s := by
  unfold writePktAck
  cases ack? with
  | none => exact ⟨none, frames, _, rfl, prepared⟩
  | some ack =>
    dsimp only
    rw [wp_bind]
    refine wp_mono (connPpeWriteFrame_spec app false hd (.ack ack) s prepared.built) ?_ ?_
    · rintro ppe' t ⟨plain, built⟩
      rw [wp_commitAck]
      have written : Prepared s ckm none (frames ++ [.ack ack]) ppe' _ t :=
        { prepared.plain plain with built := built, carried := trivial }
      exact ⟨some (ack, false), _, _, rfl,
        written.commit (by simp) (made ack rfl) plain (t.view_commitAck _ _ _)⟩
    · rintro e t (fatal | ⟨-, rfl⟩)
      · exact .inl fatal
      · exact .inr rfl

theorem Prepared.advertiseId (bidi : Bool) (prepared : Prepared s ckm ackfr frames ppe v t) :
    ∃ w, Prepared s ckm ackfr frames ppe w (queueMaxStreamId bidi (unsentMaxRemoteStreamId t bidi) t) := by
  have limit : unsentMaxRemoteStreamId t bidi = v.unsentMaxRemoteStreamId bidi := by
    change t.view.unsentMaxRemoteStreamId bidi = _
    rw [prepared.committed]
    rfl
  refine ⟨_, prepared.move (fun _ => .advertiseId v bidi _ limit) ?_ rfl id rfl id⟩
  have committed := prepared.committed
  change { t.view with
    frq := t.view.frq ++ [Frame.maxStreamId (unsentMaxRemoteStreamId t bidi)]
    maxRemoteStreamIdBidi :=
      if bidi then unsentMaxRemoteStreamId t bidi else t.view.maxRemoteStreamIdBidi
    maxRemoteStreamIdUni :=
      if bidi then t.view.maxRemoteStreamIdUni else unsentMaxRemoteStreamId t bidi } = _
  rw [committed]
  rfl

theorem maxStreamIdFrame_spec (bidi : Bool) {written left : List Frame} (called : Bool)
    (prepared : Prepared s ckm ackfr frames ppe v t) (queued : t.frq = written ++ left) :
    wp (maxStreamIdFrame app hd bidi written left ppe called)
      (fun r u => (∃ frames v, Prepared s ckm ackfr frames r.2.2 v u) ∧ u.frq = r.1 ++ r.2.1)
      (fun e _ => e.fatal = true) t := by
  unfold maxStreamIdFrame
  rw [wp_bind, wp_get]
  dsimp only
  split
  next room =>
    obtain ⟨rfl, -⟩ := room
    rw [wp_bind]
    refine wp_mono (malloc_plain app t) ?_ fun _ _ fatal => fatal
    rintro addr t' ⟨-, rfl⟩
    rw [wp_bind, wp_modify, wp_bind, wp_attempt]
    obtain ⟨w, moved⟩ := (prepared.plain (.alloc t)).advertiseId bidi
    have queued' : (queueMaxStreamId bidi (unsentMaxRemoteStreamId t bidi)
        { t with nalloc := t.nalloc + 1 }).frq =
        written ++ [.maxStreamId (unsentMaxRemoteStreamId t bidi)] := by
      simp [queueMaxStreamId, queued]
    refine wp_mono (connPpeWriteFrame_spec app called hd _ _ moved.built) ?_ ?_
    · rintro ppe' u ⟨plain, built⟩
      refine ⟨⟨_, _, { moved.plain plain with
        built := built, carried := (moved.plain plain).carried.mono rfl id (List.subset_append_left _ _) }⟩,
        ?_⟩
      obtain ⟨n, es, -, -, rfl⟩ := plain
      exact queued'.trans (List.append_nil _).symm
    · rintro e u (fatal | ⟨rfl, rfl⟩)
      · cases e <;> first | exact fatal | cases fatal
      · exact ⟨⟨_, _, moved⟩, queued'⟩
  next => exact ⟨⟨frames, v, prepared⟩, queued⟩

theorem writePktFinish_spec {written left : List Frame}
    (prepared : Prepared s ckm ackfr frames ppe v t) (send : sc.send) (post : sc.post)
    (pktNum : hd.pktNum = s.view.next) (type : hd.Tracked) (short : hd.longForm = false)
    (queued : t.frq = written ++ left) :
    wp (do
        let nwrite ← ngtcp2PpeFinal app ppe
        writePktTrack app hd written left ts nwrite
        incLastTxPktNum
        pure nwrite)
      (Sent sc s) (fun e _ => e.fatal = true) t := by
  have number : t.view.next = v.next := by rw [prepared.committed]; rfl
  rw [wp_bind]
  refine wp_mono (ngtcp2PpeFinal_spec app t prepared.built) ?_ fun _ _ fatal => fatal
  rintro len u ⟨positive, km, rfl⟩
  rw [← number, wp_bind]
  unfold writePktTrack
  split
  next =>
    rw [wp_bind]
    refine wp_mono (connRtbEntryNew_spec app _ _ _ _ _ _ _) ?_ fun _ _ fatal => fatal
    rintro ent u ⟨rfl, rfl⟩
    unfold setFrq
    rw [wp_bind, wp_modify]
    refine wp_mono (connRtbAdd_spec app _ _) ?_ fun _ _ fatal => fatal
    rintro _ u ⟨n, grows, rfl⟩
    exact prepared.tracked (n := n) send positive pktNum type rfl grows (.queued post short queued)
  next => exact prepared.sent send positive km

theorem connShortHd_tracked (c : Conn) : (connShortHd c).Tracked := connSelectPktType_short c _

theorem connWritePktFrames_spec {ack? : Option Ack} (send : sc.send) (post : sc.post)
    (ready : s.view.Ready) (made : ∀ ack, ack? = some ack → AckMade false s ack) :
    wp (connWritePktFrames app destlen ts ack?) (Sends sc s) (fun e t => Fails sc e s t) s := by
  unfold connWritePktFrames
  rw [wp_bind, wp_get]
  dsimp only
  rw [wp_bind]
  cases encoded : ngtcp2PpeEncodeHd (ngtcp2PpeInit destlen s.aeadOverhead s.txCkm) (connShortHd s) with
  | error e => exact .inr .refl
  | ok ppe =>
  rw [wp_ofExcept_ok, wp_bind]
  refine wp_mono (writePktAck_spec app made (.start ready rfl encoded)) ?_ ?_
  case refine_2 =>
    rintro e t (fatal | rfl)
    · exact .inl fatal
    · exact .inr .refl
  rintro ppe t ⟨ackfr, frames, v, asked, prepared⟩
  rw [wp_bind, wp_get, wp_bind]
  refine wp_mono (frqFrames_spec app _ t.frq _ t prepared.built) ?_ fun _ _ fatal => .inl fatal
  rintro ⟨written, left, ppe⟩ u wrote
  dsimp only
  have same : u.frq = t.frq := by
    obtain ⟨n, es, -, -, rfl⟩ := wrote.plain
    rfl
  have prepared : Prepared s _ ackfr (frames ++ written) ppe _ { u with frq := written ++ left } :=
    (prepared.wrote wrote).sift (same ▸ wrote.divided.1) fun fr fewer => by
      rw [droppedFrame_plain wrote.plain]
      exact wrote.divided.2 fr (same ▸ fewer)
  unfold setFrq
  rw [wp_bind, wp_modify, wp_bind]
  refine wp_mono (maxStreamIdFrame_spec app true _ prepared rfl) ?_ fun _ _ fatal => .inl fatal
  rintro ⟨written', left', ppe⟩ t' ⟨⟨frames', v', prepared⟩, queued⟩
  dsimp only at prepared queued ⊢
  rw [wp_bind]
  refine wp_mono (maxStreamIdFrame_spec app false _ prepared queued) ?_ fun _ _ fatal => .inl fatal
  rintro ⟨written'', left'', ppe⟩ t'' ⟨⟨frames'', v'', prepared⟩, queued'⟩
  dsimp only at prepared queued' ⊢
  split
  next nothing =>
    obtain rfl : ackfr = none := by
      cases ack? with
      | none => simpa using asked
      | some ack => simp at nothing
    split
    next => exact .nothing fun _ => prepared.reaches
    next => exact .inr prepared.reaches
  next =>
    exact wp_mono (writePktFinish_spec app prepared send post rfl (connShortHd_tracked s) rfl queued')
      (fun _ _ sent => .packet sent) fun _ _ fatal => .inl fatal

theorem connWritePkt_spec (send : sc.send) (post : sc.post) (ready : s.view.Ready) :
    wp (connWritePkt app destlen ts) (Sends sc s) (fun e t => Fails sc e s t) s := by
  unfold connWritePkt
  rw [wp_bind]
  refine wp_mono (connCreateDueAck_spec app ts s) ?_ fun _ _ fatal => .inl fatal
  rintro ack? t ⟨aside, made⟩
  rw [wp_bind]
  refine wp_mono (connQueueMaxData_spec app ack? t) (fun _ u queued => ?_) fun _ _ fatal => .inl fatal
  rw [wp_bind, wp_get, wp_bind]
  refine wp_mono (connQueueMaxStreamData_spec app (s := u) rfl) (fun _ w queued' => ?_) fun _ _ fatal => .inl fatal
  have quiet := queued.trans queued'
  have reached : ∀ sc, Reaches sc s w := fun sc => ReflTransGen.trans aside.reaches (quiet.1 sc)
  rw [wp_bind, wp_get]
  split
  next => exact .nothing reached
  next =>
    refine wp_mono (connWritePktFrames_spec app send post (ready_after reached ready) fun ack asked => ?_)
      (fun _ _ sends => .after reached sends) fun _ _ stopped => Path.after (reached sc) stopped
    -- the tracked packets are those the frame was made for
    refine ⟨?_, by simp⟩
    rw [quiet.2]
    exact (made ack asked).1

theorem connWriteSingleFramePkt_spec (fr : Frame) :
    wp (connWriteSingleFramePkt app destlen fr)
      (fun len t => 0 < len ∧ ∃ u km, Plain s u ∧ t.view = u.view.send km [fr] none)
      (fun e t => e.fatal = true ∨ Aside s t) s := by
  unfold connWriteSingleFramePkt
  rw [wp_bind, wp_get]
  dsimp only
  rw [wp_bind]
  cases encoded : ngtcp2PpeEncodeHd (ngtcp2PpeInit destlen s.aeadOverhead s.txCkm) (connShortHd s) with
  | error e => exact .inr (.refl s)
  | ok ppe =>
  rw [wp_ofExcept_ok, wp_bind]
  refine wp_mono (connCall_plain app rfl) (fun _ t plain => ?_) fun _ _ fatal => .inl fatal
  rw [wp_bind]
  cases written : ngtcp2PpeEncodeFrame ppe fr with
  | error e => exact .inr plain.aside
  | ok ppe' =>
  have built : ppe'.At s.view.next s.txCkm [fr] :=
    (ngtcp2PpeEncodeFrame_ok written).2 (ngtcp2PpeEncodeHd_at encoded)
  rw [wp_ofExcept_ok, wp_bind]
  refine wp_mono (connCall_plain app rfl) (fun _ u plain' => ?_) fun _ _ fatal => .inl fatal
  have plain := plain.trans plain'
  have number : s.view.next = u.view.next := plain.aside.silent.1.symm
  rw [wp_bind]
  refine wp_mono (ngtcp2PpeFinal_spec app u built) ?_ fun _ _ fatal => .inl fatal
  rintro len w ⟨positive, km, rfl⟩
  rw [number]
  have view := u.view_sent km [fr]
  cases fr with
  | ack ack => exact ⟨positive, u, km, plain, view⟩
  | _ => exact ⟨positive, u, km, plain, view⟩

theorem connWriteClosePkt_spec (fr : Frame) (send : sc.send) (ready : s.view.Ready) :
    wp (connWriteSingleFramePkt app destlen fr) (Sent sc s) (fun e t => Fails sc e s t) s := by
  refine wp_mono (connWriteSingleFramePkt_spec app fr) ?_ ?_
  · rintro len t ⟨positive, u, km, plain, view⟩
    have reached : Reaches sc s u := plain.aside.reaches
    refine ⟨positive, ReflTransGen.tail reached ?_, ?_⟩
    · rw [view]
      exact .send u.view km [fr] none send (plain.aside.silent.2 ready) trivial
    · rw [view, View.send_packets]
      exact Nat.lt_succ_of_le (View.packets_run reached)
  · rintro e t (fatal | aside)
    · exact .inl fatal
    · exact .inr aside.reaches

theorem connWriteProtectedAckPkt_spec (send : sc.send) (ready : s.view.Ready) :
    wp (connWriteProtectedAckPkt app destlen ts) (Sends sc s) (fun e t => Fails sc e s t) s := by
  unfold connWriteProtectedAckPkt
  rw [wp_bind, wp_get]
  split
  next => exact .nothing fun _ => .refl
  next =>
  rw [wp_bind]
  refine wp_mono (connCreateAckFrame_spec app ts false s) ?_ fun _ _ fatal => .inl fatal
  rintro (_ | ack) t ⟨aside, made⟩
  · exact .nothing fun _ => aside.reaches
  dsimp only
  rw [wp_bind]
  refine wp_mono (connWriteSingleFramePkt_spec app (.ack ack)) ?_ ?_
  · rintro len u ⟨positive, w, km, plain, view⟩
    have reached : Reaches sc s w := (aside.trans plain.aside).reaches
    have carried : AckCarried w.view [.ack ack] (some (ack, false)) := by
      refine ⟨by simp, ?_, by simp⟩
      rw [plain.view.2]
      exact (made ack rfl).1
    let committed : Conn :=
      { u with nextAckExpiry := 0, immediateAck := false, acktr := { u.acktr with activeAck := false } }
    have final : committed.view = w.view.send km [.ack ack] (some (ack, false)) := by
      have step : committed.view = u.view.commit (some (ack, false)) := by
        simp [committed, View.commit, Conn.view]
      rw [step, view]
      simp [View.commit, View.send]
    change Sends sc s len committed
    refine .packet ⟨positive, ReflTransGen.tail reached ?_, ?_⟩
    · rw [final]
      exact .send w.view km _ _ send ((aside.trans plain.aside).silent.2 ready) carried
    · rw [final, View.send_packets]
      exact Nat.lt_succ_of_le (View.packets_run reached)
  · rintro e u (fatal | stopped)
    · exact .inl fatal
    · exact .inr (aside.trans stopped).reaches

end Frames

end Ngtcp2
