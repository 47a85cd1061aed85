import Ngtcp2.Receive.Receiver

/-!
# Frames on an open stream

The handlers of STREAM, RST_STREAM and STOP_SENDING frames take the receiver of an open stream from
one state to the next, or refuse the frame.
-/

namespace Ngtcp2

open Prog

variable (app : App)

def Err.outside : Err → Bool
  | .NOMEM | .CALLBACK_FAILURE => true
  | _ => false

theorem Err.outside_fatal {e : Err} (outside : e.outside = true) : e.fatal = true := by
  cases e <;> simp_all [Err.outside, Err.fatal]

theorem malloc_outside (s : Conn) :
    wp (malloc app) (fun _ t => t = { s with nalloc := s.nalloc + 1 }) (fun e _ => e.outside = true) s := by
  refine wp_intro (fun _ t run => (malloc_ok app run).2) fun e t run => ?_
  change (if app.malloc s.nalloc then pure s.nalloc else throw .NOMEM : ConnM Nat)
    { s with nalloc := s.nalloc + 1 } = _ at run
  split at run
  · cases run
  · cases run
    rfl

structure Conn.Steady (s t : Conn) : Prop where
  book : t.view.book = s.view.book
  localSettings : t.localSettings = s.localSettings
  rxOffset : t.rxOffset = s.rxOffset
  maxRxOffset : t.maxRxOffset = s.maxRxOffset
  maxRemoteStreamIdBidi : t.maxRemoteStreamIdBidi = s.maxRemoteStreamIdBidi
  maxRemoteStreamIdUni : t.maxRemoteStreamIdUni = s.maxRemoteStreamIdUni
  refused : ∀ id, .mark (.refused id) ∈ t.log → .mark (.refused id) ∈ s.log

theorem Conn.Steady.refl (s : Conn) : s.Steady s := ⟨rfl, rfl, rfl, rfl, rfl, rfl, fun _ => id⟩

theorem Conn.Steady.trans {s t u : Conn} (first : s.Steady t) (second : t.Steady u) : s.Steady u where
  book := second.book.trans first.book
  localSettings := second.localSettings.trans first.localSettings
  rxOffset := second.rxOffset.trans first.rxOffset
  maxRxOffset := second.maxRxOffset.trans first.maxRxOffset
  maxRemoteStreamIdBidi := second.maxRemoteStreamIdBidi.trans first.maxRemoteStreamIdBidi
  maxRemoteStreamIdUni := second.maxRemoteStreamIdUni.trans first.maxRemoteStreamIdUni
  refused id member := first.refused id (second.refused id member)

def Conn.window (c : Conn) (id : Nat) : Option Nat := (c.strms id).map Strm.maxRxOffset

structure Conn.Rests (s t : Conn) (id : Nat) (strm : Strm) : Prop where
  found : t.strms id = some strm
  named : strm.streamId = id
  window : s.window id = some strm.maxRxOffset
  told : deliveries id t.log = deliveries id s.log
  steady : s.Steady t

structure Progress (s t : Conn) (id : Nat) (r r' : Receiver) : Prop where
  side : (∃ side, t.rxSide id = some side ∧ side.Represents r') ∨ t.rxSide id = none ∧ r'.settled = true
  named : ∀ strm, t.strms id = some strm → strm.streamId = id
  window : ∀ n, t.window id = some n → s.window id = some n
  told : Reports (deliveries id s.log) r → Reports (deliveries id t.log) r'
  steady : s.Steady t

section Closing

variable {s t : Conn} {id : Nat}

theorem IdMoved.log {v w : View} (moved : IdMoved v w) :
    w.log = v.log ∨ ∃ behind, w.log = v.log ++ [.mark (.idWindow behind)] := by
  cases moved with
  | ours => exact .inl rfl
  | theirs behind bidi uni bidiOk uniOk level => exact .inr ⟨behind, rfl⟩

theorem Closes.log {v w : View} (closes : Closes id v w) :
    ∃ es, w.log = v.log ++ es ∧ deliveries id es = [] ∧ ∀ i, .mark (.refused i) ∉ es := by
  rcases closes with rfl | ⟨strm, -, -, code, u, moved, rfl⟩
  · exact ⟨[], by simp, rfl, by simp⟩
  · let base := [Event.mark (closeMark strm v.frq), .streamClose strm.streamId code]
    have plain : deliveries id base = [] ∧ ∀ i, .mark (.refused i) ∉ base := by
      simp [base, deliveries, closeMark, Event.delivery?]
    rcases moved.log with log | ⟨behind, log⟩
    · exact ⟨base, log, plain⟩
    · refine ⟨base ++ [.mark (.idWindow behind)], ?_, ?_, ?_⟩
      · change u.log = _
        rw [log]
        simp [base, View.closeStream]
      · rw [deliveries_append, plain.1]
        rfl
      · intro i member
        rcases List.mem_append.mp member with member | member
        · exact plain.2 i member
        · simp at member

theorem Closes.told (closes : Closes id s.view t.view) : deliveries id t.log = deliveries id s.log := by
  obtain ⟨es, log, none, -⟩ := closes.log
  rw [← t.deliveries_view, log, deliveries_append, none, List.append_nil, s.deliveries_view]

theorem Closes.steady (closes : Closes id s.view t.view) : s.Steady t := by
  have refused (i : Nat) (member : .mark (.refused i) ∈ t.log) : .mark (.refused i) ∈ s.log := by
    obtain ⟨es, log, -, none⟩ := closes.log
    rw [← Conn.mem_log rfl, log, List.mem_append] at member
    exact (Conn.mem_log rfl).mp (member.resolve_right (none i))
  have fields : t.view.book = s.view.book ∧ t.view.localSettings = s.view.localSettings ∧
      t.view.rxOffset = s.view.rxOffset ∧ t.view.maxRxOffset = s.view.maxRxOffset ∧
      t.view.maxRemoteStreamIdBidi = s.view.maxRemoteStreamIdBidi ∧
      t.view.maxRemoteStreamIdUni = s.view.maxRemoteStreamIdUni := by
    rcases closes with same | ⟨strm, -, -, code, u, moved, same⟩ <;> rw [same]
    · exact ⟨rfl, rfl, rfl, rfl, rfl, rfl⟩
    · cases moved <;> exact ⟨rfl, rfl, rfl, rfl, rfl, rfl⟩
  obtain ⟨book, settings, rx, max, bidi, uni⟩ := fields
  exact ⟨book, settings, rx, max, bidi, uni, refused⟩

theorem Closes.strm {strm : Strm} (closes : Closes id s.view t.view) (found : s.strms id = some strm)
    (named : strm.streamId = id) :
    t.view.strms id = s.view.strms id ∨ t.strms id = none ∧ strm.rxSide.settled = true := by
  rcases closes with same | ⟨strm', held, closable, code, u, moved, same⟩
  · exact .inl (by rw [same])
  · right
    obtain rfl : strm.view = strm' := Option.some.inj ((Conn.view_strms found).symm.trans held)
    refine ⟨?_, Strm.closable_settled (by exact closable : strm.closable = true)⟩
    have gone : t.view.strms id = none := by
      have removed : u.strms = (s.view.closeStream strm.view code).strms := by
        cases moved <;> rfl
      rw [same]
      change u.strms id = none
      rw [removed, ← named]
      simp [View.closeStream, View.setStrm, Strm.view]
    cases left : t.strms id with
    | none => rfl
    | some strm => simp [Conn.view, left] at gone

theorem ngtcp2ConnCloseStreamIfShutRdwr_outside {strm : Strm} (found : t.strms id = some strm) (code : Nat) :
    wp (ngtcp2ConnCloseStreamIfShutRdwr app id code) (fun _ _ => True) (fun e _ => e.outside = true) t := by
  unfold ngtcp2ConnCloseStreamIfShutRdwr
  rw [wp_bind, wp_getStrm found]
  split
  next =>
    let marked := (t.setStrm strm.streamId none).emit (.mark (closeMark strm t.frq))
    change wp (connCall app _ >>= fun _ => connExtendRemoteStreamId _ >>= fun _ => connFcErase strm >>=
      fun _ => connImmediateAck) _ _ marked
    rw [wp_bind]
    refine wp_intro (fun _ u run => ?_) fun e u run => by rw [connCall_failed app run]; rfl
    rw [wp_bind]
    refine wp_mono (connExtendRemoteStreamId_spec _ _) (fun _ w _ => ?_) fun _ _ never => never.elim
    simp only [connFcErase, connImmediateAck, wp_bind, wp_modify, wp_ite, wp_pure]
    split <;> trivial
  next => trivial

theorem Progress.close {r r' : Receiver} {strm : Strm} (progress : Progress s t id r r')
    (found : t.strms id = some strm) (code : Nat) :
    wp (ngtcp2ConnCloseStreamIfShutRdwr app id code) (fun _ u => Progress s u id r r')
      (fun e _ => e.outside = true) t := by
  have both := wp_and (ngtcp2ConnCloseStreamIfShutRdwr_spec app id code t)
    (ngtcp2ConnCloseStreamIfShutRdwr_outside app found code)
  refine wp_mono both (fun _ u closed => ?_) fun _ _ err => err.2
  have closes := closed.1
  obtain ⟨side, named, window, told, steady⟩ := progress
  have told : Reports (deliveries id s.log) r → Reports (deliveries id u.log) r' := by
    rw [closes.told]
    exact told
  have steady := steady.trans closes.steady
  have held := Conn.rxSide_of found
  rcases closes.strm found (named strm found) with same | ⟨gone, settled⟩
  · have field {α : Type} (f : Strm → α) (plain : ∀ strm, f strm.view = f strm) :
        (u.strms id).map f = (t.strms id).map f := by
      have mapped := congrArg (Option.map f) same
      simpa [Conn.view, Option.map_map, Function.comp_def, plain] using mapped
    refine ⟨?_, fun strm' found' => ?_, ?_, told, steady⟩
    · unfold Conn.rxSide at side ⊢
      rwa [field Strm.rxSide fun _ => rfl]
    · have name := field Strm.streamId fun _ => rfl
      rw [found', found] at name
      exact (Option.some.inj name).trans (named strm found)
    · unfold Conn.window at window ⊢
      rwa [field Strm.maxRxOffset fun _ => rfl]
  · refine ⟨.inr ⟨by simp [Conn.rxSide, gone], ?_⟩, by simp [gone], by simp [Conn.window, gone], told, steady⟩
    rcases side with ⟨side, now, represents⟩ | ⟨none, -⟩
    · obtain rfl := Option.some.inj (held.symm.trans now)
      exact represents.settled.symm.trans settled
    · simp [held] at none

end Closing

section Claims

variable {s t : Conn} {id offset : Nat} {strm strm' : Strm}

def Conn.claimed (c : Conn) (id offset : Nat) (strm : Strm) : Conn :=
  (c.emit (.mark (.claim id offset))).setStrm id (some strm)

theorem Conn.claimed_rests (found : s.strms id = some strm) (named : strm.streamId = id)
    (same : strm'.streamId = strm.streamId ∧ strm'.maxRxOffset = strm.maxRxOffset) :
    s.Rests (s.claimed id offset strm') id strm' where
  found := Conn.setStrm_strms ..
  named := same.1.trans named
  window := by simp [Conn.window, found, same.2]
  told := deliveries_plain rfl
  steady :=
    { Conn.Steady.refl s with
      refused := fun i member => by simpa [Conn.claimed, Conn.emit, Conn.setStrm] using member }

theorem Conn.Rests.unlink (rests : s.Rests t id strm) :
    s.Rests (t.fcUnlinked id strm) id { strm with fcPprev := false } where
  found := Conn.fcUnlinked_strms rests.found
  named := rests.named
  window := rests.window
  told := by
    unfold Conn.fcUnlinked
    split <;> exact rests.told
  steady := by
    unfold Conn.fcUnlinked
    split
    · exact rests.steady.trans (t := t) { Conn.Steady.refl t with refused := fun _ member => member }
    · exact rests.steady

theorem Conn.Rests.progress {r r' : Receiver} (rests : s.Rests t id strm) (represents : strm.rxSide.Represents r')
    (text : r'.data.text = r.data.text) (done : r'.done = r.done) : Progress s t id r r' where
  side := .inl ⟨_, Conn.rxSide_of rests.found, represents⟩
  named strm' found' := by
    obtain rfl := Option.some.inj (rests.found.symm.trans found')
    exact rests.named
  window n now := by
    rw [Conn.window, rests.found] at now
    rw [rests.window]
    exact now
  told reports := by
    rw [rests.told]
    exact reports.same text done
  steady := rests.steady

theorem connClaim_run {f : Strm → Strm} (found : s.strms id = some strm) :
    connClaim id offset f s = (.ok (), s.claimed id offset (f strm)) :=
  (bind_ok (connMark_run _ s)).trans (modifyStrm_run f (c := s.emit _) found)

end Claims

section Delivering

variable {s t : Conn} {fr : StreamFrame} {strm : Strm} {r : Receiver}

namespace Receiver

theorem incomplete (agreed : r.refuses fr = false) (open_ : (fr.fin && r.shut) = false)
    (new : r.data.front < fr.endOffset) : r.complete = false := by
  cases shut : r.shut with
  | false => simp [complete, shut]
  | true =>
    have plain : fr.fin = false := by simpa [shut] using open_
    have old : fr.endOffset ≤ r.last := by simpa [refuses, plain, shut] using agreed
    simp only [complete, shut, Bool.true_and, beq_eq_false_iff_ne]
    omega

theorem done_of_incomplete (incomplete : r.complete = false) : r.done = false := by
  cases done : r.done with
  | false => rfl
  | true => simp [complete_of_done done] at incomplete

theorem accept_old (old : fr.endOffset ≤ r.data.front ∨ r.stopped = true) : (r.accept fr).data = r.data := by
  unfold accept dataAfter
  dsimp only
  split
  · rfl
  next running => exact Assembly.put_old (old.resolve_right running)

theorem accept_done_old (agreed : r.refuses fr = false) (plain : fr.fin = false)
    (old : fr.endOffset ≤ r.data.front ∨ r.stopped = true) : (r.accept fr).done = r.done := by
  have data := accept_old old
  have front := r.front_le
  have within : r.shut = true → max r.last fr.endOffset = r.last := by
    intro shut
    have end_ : fr.endOffset ≤ r.last := by simpa [refuses, plain, shut] using agreed
    omega
  unfold accept at data ⊢
  dsimp only at data ⊢
  rw [data, plain, Bool.or_false]
  cases shut : r.shut with
  | false =>
    cases done : r.done with
    | false => simp
    | true => simp [(r.ended done).1] at shut
  | true =>
    rw [within shut]
    cases done : r.done with
    | true => simp [(r.ended done).2]
    | false =>
      by_cases complete : r.data.front = r.last
      · simp [Receiver.complete, shut, complete]
      · simp [complete]

end Receiver

theorem mem_deliverEvents {id : Nat} {shutRd : Bool} {last rxOffset : Nat} {chunks : List (List UInt8)} {e : Event}
    (member : e ∈ deliverEvents id shutRd last rxOffset chunks) : ∃ fin data, e = .recvStreamData id fin data := by
  induction chunks generalizing rxOffset with
  | nil => cases member
  | cons data rest ih =>
    rcases List.mem_cons.mp member with rfl | later
    · exact ⟨_, _, rfl⟩
    · exact ih later

theorem connDeliverStream_progress (plain : fr.streamId ≠ 0) (rests : s.Rests t fr.streamId strm)
    (keeps : strm.rob.Keeps r.data) (last : strm.lastRxOffset = max r.last fr.endOffset)
    (shut : strm.shutRd = (r.shut || fr.fin)) (reset : strm.recvRst = r.reset)
    (stopped : strm.stopSending = r.stopped) (running : r.stopped = false)
    (bound : fr.endOffset ≤ 2 * varintBound) (agreed : r.refuses fr = false)
    (open_ : (fr.fin && r.shut) = false) (new : r.data.front < fr.endOffset) :
    wp (connDeliverStream app fr) (fun _ u => Progress s u fr.streamId r (r.accept fr))
      (fun e _ => e.outside = true) t := by
  have data : (r.accept fr).data = r.data.put fr.offset fr.data := by
    simp [Receiver.accept, Receiver.dataAfter, running]
  have incomplete := Receiver.incomplete agreed open_ new
  have undone := Receiver.done_of_incomplete incomplete
  obtain ⟨chunks, rob, taken, kept, text, filled, behind⟩ := strm.rxSide.take_keeps keeps bound new
  unfold connDeliverStream
  rw [wp_bind]
  refine wp_mono (connTakeStream_takes app plain rests.found) ?_ fun e _ err => ?_
  case refine_2 =>
    rcases err with rfl | failed
    · rfl
    · exact absurd (taken.symm.trans failed) (by simp)
  rintro _ u ⟨chunks', rob', taken', rfl⟩
  obtain ⟨rfl, rfl⟩ : chunks = chunks' ∧ rob = rob' := by simpa using taken.symm.trans taken'
  refine Progress.close app ?_ (Conn.setStrm_strms ..) _
  have log (es : List Event) : deliveries fr.streamId (t.emits es).log =
      deliveries fr.streamId s.log ++ deliveries fr.streamId es := by
    change deliveries fr.streamId (t.log ++ es) = _
    rw [deliveries_append, rests.told]
  refine ⟨.inl ⟨_, Conn.rxSide_setStrm .., ?_⟩, fun strm' found' => ?_, fun n now => ?_, fun reports => ?_, ?_⟩
  · exact ⟨data ▸ kept, last, shut, reset, stopped⟩
  · obtain rfl := Option.some.inj ((Conn.setStrm_strms ..).symm.trans found')
    exact rests.named
  · rw [Conn.window, Conn.setStrm_strms] at now
    rw [rests.window]
    exact now
  · change Reports (deliveries _ (t.emits _).log) _
    rw [log, deliveries_deliverEvents, shut, last]
    have front : ngtcp2StrmRxOffset strm = r.data.front := keeps.firstGap
    rw [front]
    refine reports.taken (by rw [data, text]) filled (fun _ => undone) ?_
    have done : (r.accept fr).done = (r.accept fr).complete := by
      change ((r.accept fr).complete && (r.done || !(r.stopped || r.complete))) = _
      rw [running, incomplete]
      simp
    split
    next none =>
      have ahead := behind.mp none
      rw [done, undone]
      have stays : (r.accept fr).data.front = r.data.front := by
        rw [data]
        exact Assembly.put_front_behind ahead
      have more : r.data.front < (r.accept fr).last := Nat.lt_of_lt_of_le new (Nat.le_max_right _ _)
      unfold Receiver.complete
      rw [stays]
      simp only [Bool.and_eq_false_iff, beq_eq_false_iff_ne]
      exact .inr (Nat.ne_of_lt more)
    next => exact done
  · refine rests.steady.trans { Conn.Steady.refl t with refused := fun i member => ?_ }
    rcases List.mem_append.mp (by exact member) with member | member
    · exact member
    · obtain ⟨fin, data, same⟩ := mem_deliverEvents member
      cases same

end Delivering

section Handlers

variable {s t : Conn} {fr : StreamFrame} {strm : Strm} {r : Receiver}

structure Conn.Holds (s : Conn) (id : Nat) (strm : Strm) (r : Receiver) : Prop where
  found : s.strms id = some strm
  named : strm.streamId = id
  represents : strm.rxSide.Represents r

namespace Receiver

theorem undone (unshut : r.shut = false) : r.done = false := by
  cases done : r.done with
  | false => rfl
  | true => simp [(r.ended done).1] at unshut

theorem accept_fin_here (unshut : r.shut = false) (fin : fr.fin = true) (running : r.stopped = false)
    (agreed : r.refuses fr = false) (here : fr.endOffset = r.data.front) :
    (r.accept fr).data = r.data ∧ (r.accept fr).done = true ∧ (r.accept fr).last = fr.endOffset := by
  have data := accept_old (r := r) (.inl (Nat.le_of_eq here))
  have within : r.last ≤ fr.endOffset := by simpa [refuses, fin, unshut] using agreed
  have last : max r.last fr.endOffset = fr.endOffset := Nat.max_eq_right within
  refine ⟨data, ?_, last⟩
  unfold accept at data ⊢
  dsimp only at data ⊢
  rw [data, last]
  simp [fin, running, complete, unshut, here]

theorem accept_fin_stopped (unshut : r.shut = false) (stopped : r.stopped = true) :
    (r.accept fr).done = r.done := by
  simp [accept, stopped, undone unshut]

end Receiver

theorem connRecvStreamFin_progress (plain : fr.streamId ≠ 0) (holds : s.Holds fr.streamId strm r)
    (bound : fr.endOffset ≤ 2 * varintBound) (fin : fr.fin = true) (unshut : r.shut = false)
    (agreed : r.refuses fr = false) :
    wp (connRecvStreamFin app fr) (fun _ t => Progress s t fr.streamId r (r.accept fr))
      (fun e _ => e.outside = true) s := by
  obtain ⟨found, named, represents⟩ := holds
  have within : r.last ≤ fr.endOffset := by simpa [Receiver.refuses, fin, unshut] using agreed
  have last : fr.endOffset = max r.last fr.endOffset := (Nat.max_eq_right within).symm
  let ended : Strm := { strm with lastRxOffset := fr.endOffset, shutRd := true }
  have rests : s.Rests (s.claimed fr.streamId fr.endOffset ended) fr.streamId ended :=
    Conn.claimed_rests found named ⟨rfl, rfl⟩
  have front : ngtcp2StrmRxOffset ended = r.data.front := represents.keeps.firstGap
  -- the fields that the frame leaves when it brings no data
  have fields (data : (r.accept fr).data = r.data) (fcPprev : Bool) :
      RxSide.Represents (Strm.rxSide { ended with fcPprev := fcPprev }) (r.accept fr) :=
    ⟨data ▸ represents.keeps, last, by simp [Receiver.accept, fin, Strm.rxSide, ended], represents.reset,
      represents.stopped⟩
  unfold connRecvStreamFin
  rw [wp_bind, wp_run_ok (connClaim_run found), wp_bind, wp_getStrm rests.found]
  split
  next stopping =>
    have stopped : r.stopped = true := represents.stopped.symm.trans stopping
    have data : (r.accept fr).data = r.data := Receiver.accept_old (.inr stopped)
    refine Progress.close app ?_ rests.found _
    exact rests.progress (fields data ended.fcPprev) (by rw [data]) (Receiver.accept_fin_stopped unshut stopped)
  next unstopped =>
    have running : r.stopped = false := represents.stopped.symm.trans (Bool.eq_false_of_not_eq_true unstopped)
    have unlinked := rests.unlink
    rw [wp_bind, wp_run_ok (connFcUnlink_run rests.found)]
    split
    next here =>
      obtain ⟨data, done, -⟩ := Receiver.accept_fin_here unshut fin running agreed (here.trans front)
      rw [wp_bind]
      refine wp_intro (fun _ t run => ?_) fun e t run => by rw [connCall_failed app run]; rfl
      cases connCall_ok app run
      refine Progress.close app ?_ (by exact unlinked.found) _
      have undone := Receiver.undone unshut
      refine ⟨.inl ⟨_, Conn.rxSide_of unlinked.found, fields data false⟩, fun strm' held => ?_, fun n now => ?_,
        fun reports => ?_, ?_⟩
      · obtain rfl := Option.some.inj (unlinked.found.symm.trans held)
        exact unlinked.named
      · rw [unlinked.window]
        exact (congrArg (Option.map Strm.maxRxOffset) unlinked.found).symm.trans now
      · have told := deliveries_append fr.streamId (Conn.fcUnlinked (s.claimed fr.streamId fr.endOffset ended) fr.streamId ended).log
          [.recvStreamData fr.streamId true []]
        have one : deliveries fr.streamId [.recvStreamData fr.streamId true []] = [(true, [])] := by
          simp [deliveries, Event.delivery?]
        refine Eq.mpr (congrArg (Reports · _) told) ?_
        rw [unlinked.told, one]
        obtain ⟨text, k, flags⟩ := reports
        exact ⟨by simp [text, data], k, by simp [flags, undone, done]⟩
      · refine unlinked.steady.trans { Conn.Steady.refl _ with refused := fun i member => ?_ }
        simpa [Conn.emit] using member
    next ahead =>
      have new : r.data.front < fr.endOffset :=
        Nat.lt_of_le_of_ne (Nat.le_trans r.front_le within) fun same => ahead (same.symm.trans front.symm)
      exact connDeliverStream_progress app plain unlinked represents.keeps last (by simp [fin, ended])
        represents.reset represents.stopped running bound agreed (by simp [unshut]) new

theorem connRecvStreamNoFin_progress (plain : fr.streamId ≠ 0) (holds : s.Holds fr.streamId strm r)
    (bound : fr.endOffset ≤ 2 * varintBound) (open_ : fr.fin = false) (agreed : r.refuses fr = false) :
    wp (connRecvStreamNoFin app fr) (fun _ t => Progress s t fr.streamId r (r.accept fr))
      (fun e _ => e.outside = true) s := by
  obtain ⟨found, named, represents⟩ := holds
  let further : Strm := { strm with lastRxOffset := max strm.lastRxOffset fr.endOffset }
  have rests : s.Rests (s.claimed fr.streamId fr.endOffset further) fr.streamId further :=
    Conn.claimed_rests found named ⟨rfl, rfl⟩
  have front : ngtcp2StrmRxOffset further = r.data.front := represents.keeps.firstGap
  have last : further.lastRxOffset = max r.last fr.endOffset := congrArg (max · _) represents.last
  have shut : further.shutRd = (r.shut || fr.fin) := represents.shut.trans (by simp [open_])
  have unchanged (old : fr.endOffset ≤ r.data.front ∨ r.stopped = true) :
      Progress s (s.claimed fr.streamId fr.endOffset further) fr.streamId r (r.accept fr) := by
    have data := Receiver.accept_old old
    exact rests.progress ⟨data ▸ represents.keeps, last, shut, represents.reset, represents.stopped⟩ (by rw [data])
      (Receiver.accept_done_old agreed open_ old)
  unfold connRecvStreamNoFin
  rw [wp_bind, wp_run_ok (connClaim_run found), wp_bind, wp_getStrm rests.found]
  split
  next old => exact unchanged (.inl (front ▸ old))
  next new =>
    split
    next stopping => exact unchanged (.inr (represents.stopped.symm.trans stopping))
    next unstopped =>
      have running : r.stopped = false := represents.stopped.symm.trans (Bool.eq_false_of_not_eq_true unstopped)
      exact connDeliverStream_progress app plain rests represents.keeps last shut represents.reset
        represents.stopped running bound agreed (by simp [open_]) (front ▸ Nat.lt_of_not_le new)

inductive Verdict
  | flow
  | final
  | accepted
deriving DecidableEq

def Receiver.verdict (r : Receiver) (window : Nat) (c : Conn) (fr : StreamFrame) : Verdict :=
  if window < fr.endOffset ∨ (r.last < fr.endOffset ∧ connMaxDataViolated c (fr.endOffset - r.last)) then .flow
  else if r.refuses fr then .final
  else .accepted

def Conn.counted (c : Conn) (r : Receiver) (fr : StreamFrame) : Conn :=
  if r.last < fr.endOffset then { c with rxOffset := add64 c.rxOffset (fr.endOffset - r.last) } else c

theorem Conn.counted_holds (holds : s.Holds fr.streamId strm r) : (s.counted r fr).Holds fr.streamId strm r := by
  unfold Conn.counted
  split <;> exact ⟨holds.found, holds.named, holds.represents⟩

def Receiver.exceeds (r : Receiver) (c : Conn) (fr : StreamFrame) : Prop :=
  r.last < fr.endOffset ∧ connMaxDataViolated c (fr.endOffset - r.last) = true

theorem connRecvStreamCount_counts (plain : fr.streamId ≠ 0) (holds : s.Holds fr.streamId strm r) :
    wp (connRecvStreamCount strm fr) (fun _ t => ¬ r.exceeds s fr ∧ t = s.counted r fr)
      (fun e t => e = .FLOW_CONTROL ∧ r.exceeds s fr ∧ t = s) s := by
  have last : strm.lastRxOffset = r.last := holds.represents.last
  have named : strm.streamId ≠ 0 := holds.named ▸ plain
  unfold connRecvStreamCount
  rw [wp_bind, wp_get, last]
  by_cases further : r.last < fr.endOffset
  · rw [if_pos ⟨further, named⟩]
    split
    next violated => exact ⟨rfl, ⟨further, violated⟩, rfl⟩
    next within => exact ⟨fun exceeds => within exceeds.2, by simp [Conn.counted, further]⟩
  · rw [if_neg fun both => further both.1]
    exact ⟨fun exceeds => further exceeds.1, by simp [Conn.counted, further]⟩

theorem connRecvStreamOn_spec (plain : fr.streamId ≠ 0) (holds : s.Holds fr.streamId strm r)
    (bound : fr.endOffset ≤ 2 * varintBound) :
    wp (connRecvStreamOn app fr)
      (fun _ t => r.verdict strm.maxRxOffset s fr = .accepted ∧
        Progress (s.counted r fr) t fr.streamId r (r.take fr))
      (fun e t => e.outside = true ∨ (e = .FLOW_CONTROL ∧ r.verdict strm.maxRxOffset s fr = .flow ∧ t = s) ∨
        e = .FINAL_OFFSET ∧ r.verdict strm.maxRxOffset s fr = .final ∧
          t = (s.counted r fr).emit (.mark (.refused fr.streamId))) s := by
  have last : strm.lastRxOffset = r.last := holds.represents.last
  have shut : strm.shutRd = r.shut := holds.represents.shut
  have counted := Conn.counted_holds holds
  unfold connRecvStreamOn
  rw [wp_bind, wp_getStrm holds.found]
  split
  next beyond => exact .inr (.inl ⟨rfl, by simp [Receiver.verdict, beyond], rfl⟩)
  next inside =>
    rw [wp_bind]
    refine wp_mono (connRecvStreamCount_counts plain holds) ?_ ?_
    case refine_2 =>
      rintro e t ⟨rfl, exceeds, rfl⟩
      refine .inr (.inl ⟨rfl, ?_, rfl⟩)
      unfold Receiver.verdict
      exact if_pos (.inr exceeds)
    rintro _ t ⟨fits, rfl⟩
    have passed : ¬ (strm.maxRxOffset < fr.endOffset ∨ r.exceeds s fr) := not_or.mpr ⟨inside, fits⟩
    have final (refuses : r.refuses fr = true) : r.verdict strm.maxRxOffset s fr = .final :=
      (if_neg passed).trans (if_pos refuses)
    have accepted (agreed : r.refuses fr = false) : r.verdict strm.maxRxOffset s fr = .accepted :=
      (if_neg passed).trans (if_neg (by simp [agreed]))
    have takes (agreed : r.refuses fr = false) (new : (fr.fin && r.shut) = false) : r.take fr = r.accept fr := by
      simp [Receiver.take, agreed, new]
    rw [last, shut]
    split
    next fin =>
      split
      next ended =>
        split
        next other => exact .inr (.inr ⟨rfl, final (by simpa [Receiver.refuses, fin, ended] using other), rfl⟩)
        next same =>
          have agreed : r.refuses fr = false := by simpa [Receiver.refuses, fin, ended] using same
          refine Eq.mpr (wp_run_ok (connClaim_run counted.found)) ⟨accepted agreed, ?_⟩
          have dropped : r.take fr = r := by simp [Receiver.take, fin, ended]
          rw [dropped]
          exact (Conn.claimed_rests counted.found counted.named ⟨rfl, rfl⟩).progress counted.represents rfl rfl
      next running =>
        have unshut : r.shut = false := Bool.eq_false_of_not_eq_true running
        split
        next short => exact .inr (.inr ⟨rfl, final (by simpa [Receiver.refuses, fin, unshut] using short), rfl⟩)
        next long =>
          have agreed : r.refuses fr = false := by simpa [Receiver.refuses, fin, unshut] using long
          rw [takes agreed (by simp [unshut])]
          exact wp_mono (connRecvStreamFin_progress app plain counted bound fin unshut agreed)
            (fun _ _ progress => ⟨accepted agreed, progress⟩) fun _ _ outside => .inl outside
    next open_ =>
      have open_ : fr.fin = false := Bool.eq_false_of_not_eq_true open_
      split
      next beyond => exact .inr (.inr ⟨rfl, final (by simpa [Receiver.refuses, open_] using beyond), rfl⟩)
      next within =>
        have agreed : r.refuses fr = false := by simpa [Receiver.refuses, open_] using within
        rw [takes agreed (by simp [open_])]
        exact wp_mono (connRecvStreamNoFin_progress app plain counted bound open_ agreed)
          (fun _ _ progress => ⟨accepted agreed, progress⟩) fun _ _ outside => .inl outside

end Handlers

section Resets

variable {s t : Conn} {strm : Strm} {r : Receiver}

def Receiver.refusesReset (r : Receiver) (finalOffset : Nat) : Bool :=
  if r.shut then r.last != finalOffset else decide (finalOffset < r.last)

def Conn.countedTo (c : Conn) (r : Receiver) (finalOffset : Nat) : Conn :=
  { c with rxOffset := add64 c.rxOffset (finalOffset - r.last) }

theorem Progress.after_mark {m : Mark} {id : Nat} {r' : Receiver} (progress : Progress (s.emit (.mark m)) t id r r')
    (plain : ∀ i, m ≠ .refused i) : Progress s t id r r' where
  side := progress.side
  named := progress.named
  window := progress.window
  told reports := progress.told (by rwa [show deliveries id (s.emit (.mark m)).log = _ from deliveries_plain rfl])
  steady :=
    { progress.steady with
      refused := fun i member => by
        have marked := progress.steady.refused i member
        simpa [Conn.emit, (plain i).symm] using marked }

theorem connRecvRstStreamOn_spec {fr : RstStream} (holds : s.Holds fr.streamId strm r) :
    wp (connRecvRstStreamOn app strm fr)
      (fun _ t => r.refusesReset fr.finalOffset = false ∧
        Progress (s.countedTo r fr.finalOffset) t fr.streamId r r.resetBy)
      (fun e t => e.outside = true ∨ (e = .FINAL_OFFSET ∧ r.refusesReset fr.finalOffset = true ∧ t = s) ∨
        e = .FLOW_CONTROL ∧ (strm.maxRxOffset < fr.finalOffset ∨
          connMaxDataViolated s (fr.finalOffset - r.last) = true) ∧ t = s) s := by
  obtain ⟨found, named, represents⟩ := holds
  have last : strm.lastRxOffset = r.last := represents.last
  have shut : strm.shutRd = r.shut := represents.shut
  unfold connRecvRstStreamOn
  rw [wp_bind, wp_get]
  dsimp only
  rw [last, shut]
  split
  next other =>
    refine .inr (.inl ⟨rfl, ?_, rfl⟩)
    simpa [Receiver.refusesReset, other.1] using other.2
  next agreed =>
  split
  next short =>
    refine .inr (.inl ⟨rfl, ?_, rfl⟩)
    simpa [Receiver.refusesReset, short.1] using short.2
  next long =>
  split
  next exceeds => exact .inr (.inr ⟨rfl, exceeds, rfl⟩)
  next fits =>
  have known : r.refusesReset fr.finalOffset = false := by
    cases ended : r.shut with
    | true => simpa [Receiver.refusesReset, ended] using agreed
    | false => simpa [Receiver.refusesReset, ended] using long
  rw [wp_bind, wp_modify, wp_bind, wp_connMark, wp_bind]
  let reset : Strm := { strm with shutRd := true, recvRst := true }
  let marked := (s.countedTo r fr.finalOffset).emit (.mark (.rstListed strm.fcPprev))
  refine Eq.mpr (wp_run_ok (connClaim_run (s := marked) found)) ?_
  have rests : marked.Rests (marked.claimed fr.streamId fr.finalOffset reset) fr.streamId reset :=
    Conn.claimed_rests found named ⟨rfl, rfl⟩
  have progress : Progress marked (marked.claimed fr.streamId fr.finalOffset reset) fr.streamId r r.resetBy :=
    rests.progress ⟨represents.keeps, represents.last, rfl, rfl, represents.stopped⟩ rfl rfl
  refine wp_mono ((progress.after_mark (by simp)).close app rests.found _) (fun _ _ done => ⟨known, done⟩)
    fun _ _ outside => .inl outside

theorem connRecvStopSending_open {fr : StopSending} (holds : s.Holds fr.streamId strm r)
    (valid : streamIdError s fr.streamId = none) :
    wp (connRecvStopSending app fr) (fun _ t => Progress s t fr.streamId r r)
      (fun e _ => e.outside = true ∨ fr.streamId = 0) s := by
  obtain ⟨found, named, represents⟩ := holds
  unfold connRecvStopSending
  rw [wp_bind, wp_get]
  split
  next zero => exact .inr zero
  next plain =>
  rw [valid, found]
  dsimp only
  unfold connRstStream connPushFrq
  rw [wp_bind, wp_bind, wp_getStrm found, wp_bind]
  refine wp_mono (malloc_outside app s) ?_ fun _ _ outside => .inl outside
  rintro _ t rfl
  rw [wp_modify, wp_bind]
  refine Eq.mpr (wp_modifyStrm _ (by exact found)) ?_
  refine wp_mono (Progress.close app ?_ (Conn.setStrm_strms ..) _) (fun _ _ done => done) fun _ _ outside => .inl outside
  let reset : Strm := { strm with shutWr := true, sentRst := true }
  refine Conn.Rests.progress (?_ : s.Rests _ fr.streamId reset) represents rfl rfl
  refine ⟨Conn.setStrm_strms .., named, ?_, rfl, ?_⟩
  · simp [Conn.window, found, reset]
  · exact { Conn.Steady.refl s with refused := fun _ member => member }

end Resets

end Ngtcp2
