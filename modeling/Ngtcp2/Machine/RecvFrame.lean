import Ngtcp2.Machine.RecvStream

namespace Ngtcp2

open Prog Relation

variable {sc : Scope} (app : App)

theorem maxStreamData_does {id n : Nat} (bound : n < varintBound) :
    Does sc (modifyStrm id fun strm => { strm with maxTxOffset := max strm.maxTxOffset n }) := by
  refine modifyStrm_does fun v strm found raw eq => ?_
  subst eq
  exact .maxStreamData v id n raw.view found bound

theorem connRecvMaxStreamData_does {fr : MaxStreamData} (wire : (Frame.maxStreamData fr).WireOk) :
    Does sc (connRecvMaxStreamData app fr) := by
  intro s
  refine .got ?_
  split
  · exact .failed _
  split
  · exact maxStreamData_does wire.2 s
  case h_2 absent =>
  split
  · exact .done _
  case isFalse remote =>
  split
  · exact .done _
  · exact .failed _
  case h_3 idtr opened =>
  exact .seq (connNewRemoteStream_goes app wire.1 (by simpa using remote) opened absent)
    fun _ t _ => maxStreamData_does wire.2 t

theorem connRecvMaxData_does {maxData : Nat} (bound : maxData < varintBound) :
    Does sc (connRecvMaxData maxData) :=
  .move fun _ => .maxData _ _ bound

theorem connRecvMaxStreamId_does {maxStreamId : Nat} (bound : maxStreamId < varintBound) :
    Does sc (connRecvMaxStreamId app maxStreamId) := by
  refine .bind (.move fun c => ?_) fun _ => (connCall_still app rfl).does
  split
  · exact .maxStreamId c.view (max c.maxLocalStreamIdBidi maxStreamId) _
      (fun old => Nat.max_lt.mpr ⟨old, bound⟩) fun old => old
  · exact .maxStreamId c.view _ (max c.maxLocalStreamIdUni maxStreamId) (fun old => old)
      fun old => Nat.max_lt.mpr ⟨old, bound⟩

theorem connRecvPing_does (data : List UInt8) : Does sc (connRecvPing app data) := by
  unfold connRecvPing
  split
  · exact .pure _
  · exact connPushFrq_does app fun _ => trivial

theorem connRecvPong_does (data : List UInt8) : Does sc (connRecvPong data) := by
  unfold connRecvPong
  split
  · exact .throw _
  · exact .pure _

theorem connSetIdtr_goes {id : Nat} {s : Conn} (allowed : sc.shut id) (bound : id < varintBound)
    (remote : connLocalStream s id = false) :
    Goes (Reaches sc) (Fails sc)
      (connSetIdtr id ((ngtcp2IdtrOpen (connIdtr s id) id).toOption.getD (connIdtr s id))) s := by
  refine .modified ?_
  cases opened : ngtcp2IdtrOpen (connIdtr s id) id with
  | ok idtr => exact .of_move (.openId s.view id idtr allowed bound remote opened)
  | error e =>
    refine .of_same ?_
    unfold SameView Conn.view connIdtr
    cases bidiStream id <;> simp [Except.toOption]

theorem connRecvRstStreamGone_does {fr : RstStream} (wire : (Frame.rstStream fr).WireOk)
    (allowed : sc.rx fr.streamId) (shut : sc.shut fr.streamId) : Does sc (connRecvRstStreamGone fr) := by
  intro s
  refine .got ?_
  split
  · split
    · exact .failed _
    · exact .done _
  case isFalse remote =>
  refine .seq (.result _) fun opened t run => ?_
  obtain rfl : t = s := congrArg Prod.snd run.symm
  split
  · exact .done _
  next unseen =>
  split
  · exact .failed _
  next fits =>
  let idtr := (ngtcp2IdtrOpen (connIdtr t fr.streamId) fr.streamId).toOption.getD (connIdtr t fr.streamId)
  -- the mark, the tracker and the count are one move
  refine .jump (pure ())
    { t.emit (.mark (.claim fr.streamId fr.finalOffset)) with
      remoteBidiIdtr := if bidiStream fr.streamId then idtr else t.remoteBidiIdtr
      remoteUniIdtr := if bidiStream fr.streamId then t.remoteUniIdtr else idtr
      rxOffset := add64 t.rxOffset fr.finalOffset } rfl (.of_move ?_) (.done _)
  change Move sc _ { Conn.view (t.emit _) with remoteBidiIdtr := _, remoteUniIdtr := _, rxOffset := _ }
  rw [Conn.view_emit _ rfl]
  have remote : connLocalStream t fr.streamId = false := by simpa using remote
  refine .claimUnseen t.view fr.streamId fr.finalOffset idtr allowed shut wire.1 remote ?_ ?_
  · have closed : ngtcp2IdtrIsOpen (connIdtr t fr.streamId) fr.streamId = .ok false := by
      rw [← Bool.eq_false_iff.mpr unseen]
      exact congrArg Prod.fst run
    by_cases ok : (connIdtr t fr.streamId).Ok
    · obtain ⟨idtr', opens⟩ := ngtcp2IdtrOpen_of_closed ok wire.1 closed
      exact .inl (by simp only [idtr, opens]; exact opens)
    · cases opens : ngtcp2IdtrOpen (connIdtr t fr.streamId) fr.streamId with
      | ok idtr' => exact .inl (by simp only [idtr, opens]; exact opens)
      | error e => exact .inr ⟨ok, by simp only [idtr, opens]; rfl⟩
  · simp only [connMaxDataViolated, decide_eq_true_eq, not_or, not_lt] at fits
    exact fits.2

theorem connRecvRstStreamOn_goes {fr : RstStream} {s : Conn} {strm : Strm}
    (wire : (Frame.rstStream fr).WireOk) (allowed : sc.rx fr.streamId) (plain : fr.streamId ≠ 0)
    (found : s.strms fr.streamId = some strm) :
    Goes (Reaches sc) (Fails sc) (connRecvRstStreamOn app strm fr) s := by
  refine .got ?_
  dsimp only
  split
  · exact .failed _
  next ends =>
  split
  · exact .failed _
  next below =>
  split
  · exact .failed _
  next fits =>
  simp only [connMaxDataViolated, decide_eq_true_eq, not_or, not_lt] at fits
  have reach : strm.lastRxOffset ≤ fr.finalOffset := by
    cases shut : strm.shutRd
    · exact Nat.le_of_not_lt fun beyond => below ⟨by simp [shut], beyond⟩
    · exact Nat.le_of_eq (not_not.mp fun differ => ends ⟨shut, differ⟩)
  let reset (strm : Strm) : Strm := { strm with shutRd := true, recvRst := true }
  let noted := s.emit (.mark (.rstListed strm.fcPprev))
  have view : noted.view = s.view.emit (.mark (.rstListed strm.fcPprev)) := Conn.view_emit _ rfl
  have notes : Reaches sc s noted := .of_move (view ▸ .noteRst s.view strm.fcPprev)
  have claims : noted.view.Claims fr.streamId strm.view (reset strm).view fr.finalOffset
      (add64 s.rxOffset (fr.finalOffset - strm.lastRxOffset)) :=
    { bound := Nat.lt_of_lt_of_le wire.2 (by decide), window := fits.1, rob := rfl, unsent := rfl
      shut := fun _ shut => ⟨rfl, Nat.le_of_eq (not_not.mp fun differ => ends ⟨shut, fun same => differ same.symm⟩)⟩
      last := .inr ⟨rfl, rfl⟩
      listed := fun listed => .inr (.inr (by rw [view, ← listed]; exact List.mem_concat_self))
      counted := fun _ => .inr ⟨plain, reach, fits.2, rfl⟩ }
  have claimed := claim_reaches (s := noted) (f := reset) allowed found ⟨rfl, rfl, rfl, rfl, rfl, rfl, rfl, rfl, rfl⟩
    (fun zero => absurd zero plain) claims
  change wp _ _ _ s
  rw [wp_bind, wp_modify, wp_bind, wp_connMark]
  refine Eq.mpr (wp_connClaim (by exact found)) (Goes.after ?_ (ReflTransGen.trans notes claimed))
  exact ngtcp2ConnCloseStreamIfShutRdwr_does app _ _ _

theorem connRecvRstStream_does {fr : RstStream} (wire : (Frame.rstStream fr).WireOk)
    (allowed : sc.rx fr.streamId) (shut : sc.shut fr.streamId) : Does sc (connRecvRstStream app fr) := by
  intro s
  refine .got ?_
  split
  · exact .failed _
  case isFalse plain =>
  split
  · exact .failed _
  split
  · exact connRecvRstStreamGone_does wire allowed shut s
  next strm found => exact connRecvRstStreamOn_goes app wire allowed plain found

theorem connStopReset_goes {id : Nat} {s : Conn} {strm : Strm} {rest : ConnM Unit}
    (found : s.strms id = some strm) (does : Does sc rest) :
    Goes (Reaches sc) (Fails sc) (do
      connRstStream app id ngtcp2Stopping
      modifyStrm id fun strm => { strm with shutWr := true, sentRst := true }
      rest) s := by
  change wp _ _ _ s
  unfold connRstStream
  rw [wp_bind, wp_bind]
  refine wp_intro (fun strm' t run => ?_) fun e t run => .inl (getStrm_error run)
  obtain ⟨rfl, found'⟩ := getStrm_ok run
  obtain rfl := Option.some.inj (found.symm.trans found')
  refine wp_mono (connPushFrq_spec app _ _) ?_ fun _ _ fatal => .inl fatal
  rintro _ u rfl
  rw [wp_bind]
  refine Eq.mpr (wp_modifyStrm _ (by exact found)) ?_
  exact (does _).after (reset_reaches found strm.appErrorCode)

theorem connRecvStopSending_does {fr : StopSending} (wire : (Frame.stopSending fr).WireOk)
    (shut : sc.shut fr.streamId) :
    Does sc (connRecvStopSending app fr) := by
  intro s
  refine .got ?_
  split
  · exact .failed _
  split
  · exact .failed _
  split
  · split
    · exact .done _
    case isFalse remote =>
    refine .seq (.result _) fun opened t run => ?_
    have same : t = s := congrArg Prod.snd run.symm
    subst same
    split
    · exact .done _
    · exact connSetIdtr_goes shut wire (by simpa using remote)
  case h_2 strm found =>
    exact connStopReset_goes app found (ngtcp2ConnCloseStreamIfShutRdwr_does app _ _)

end Ngtcp2
