import Ngtcp2.Receive.Follow

/-!
# Streams that have been shut down

What was missing when the application stopped reading is missing for ever.
-/

namespace Ngtcp2

open Prog

def Strm.ResetShut (strm : Strm) : Prop := strm.sentRst = true → strm.shutWr = true

theorem Move.resetShut {v w : View} (move : Move .any v w) (strms : v.Each fun _ => Strm.ResetShut) :
    w.Each fun _ => Strm.ResetShut := by
  -- most moves that write a stream leave both flags alone
  have kept {u : View} (same : u.strms = v.strms) {id : Nat} {strm strm' : Strm} (found : v.strms id = some strm)
      (sent : strm'.sentRst = strm.sentRst) (shut : strm'.shutWr = strm.shutWr) :
      (u.setStrm id (some strm')).Each fun _ => Strm.ResetShut := by
    refine (strms.same same).set ?_
    unfold Strm.ResetShut
    rw [sent, shut]
    exact strms id strm found
  have fresh {u : View} (same : u.strms = v.strms) {id : Nat} {strm : Strm} (unsent : strm.sentRst = false) :
      (u.setStrm id (some strm)).Each fun _ => Strm.ResetShut :=
    (strms.same same).set fun sent => by simp [unsent] at sent
  cases move
  case maxStreamData id n strm found small => exact kept rfl found rfl rfl
  case strm0Limit limit strm found small => exact kept rfl found rfl rfl
  case handshakeBytes n strm found small => exact kept rfl found rfl rfl
  case newRemote id idtr strm small remote opened absent maxTx init => exact fresh rfl (init ▸ rfl)
  case newBidi strm allowed absent maxTx init => exact fresh rfl (init ▸ rfl)
  case newUni strm allowed absent maxTx init => exact fresh rfl (init ▸ rfl)
  case close id code strm found closable => exact View.Each.unset strms
  case reset id strm fr found named queued => exact strms.set fun _ => rfl
  case stop id strm allowed found unlisted plain => exact kept rfl found rfl rfl
  case rx id strm strm' allowed found step => exact kept rfl found step.same.1.sentRst step.same.1.shutWr
  case credit n strm allowed found credits => exact kept rfl found rfl rfl
  case claim id offset n strm strm' allowed found same zero claims => exact kept rfl found same.sentRst same.shutWr
  case refuse id n last strm allowed found reach => exact kept rfl found rfl rfl
  case advertiseStrm waiting id strm first listed found queued => exact kept rfl found rfl rfl
  case fcLink id strm found unlisted receives => exact kept rfl found rfl rfl
  case fcUnlink id strm found listed => exact kept rfl found rfl rfl
  case ackReport ent fr rest strm held chain acked found told => exact kept rfl found rfl rfl
  case sendStream ckm fr strm ent queue nalloc allowed ready keyed entry short carries pushed found
      offset small strmFits connFits filled =>
    refine View.Each.set strms fun sent => ?_
    simp [strms fr.streamId strm found sent]
  case sendEarly ckm fr strm ent nalloc allowed ready entry short carries found offset small strmFits
      connFits filled =>
    refine View.Each.set strms fun sent => ?_
    simp [strms fr.streamId strm found sent]
  case ackFrame ent fr rest held chain acked silent =>
    rcases v.ackFrame_cases fr with ⟨sent, strm, -, found, same⟩ | ⟨-, same⟩ <;> rw [same]
    · exact kept rfl found rfl rfl
    · exact strms
  case retry allowed enters stays empty noted => exact fresh rfl rfl
  all_goals exact strms.same rfl

theorem Runs.resetShut {acts : List Act} {c : Conn} (run : Runs acts c) : c.view.Each fun _ => Strm.ResetShut :=
  run.invariant (C := fun _ => True) (fun _ _ => trivial) (fun _ first => first.each fun _ => nofun)
    (fun _ _ move _ => move.resetShut) trivial

section

variable (app : App) {s t : Conn} {id : Nat} {strm : Strm}

def Conn.Drops (s t : Conn) (id : Nat) : Prop :=
  t.strms id = none ∧ ∃ new code, t.log = s.log ++ new ∧ .streamClose id code ∈ new

theorem ngtcp2ConnCloseStream_drops (strm : Strm) (code : Nat) (s : Conn) :
    wp (ngtcp2ConnCloseStream app strm code) (fun _ t => s.Drops t strm.streamId) (fun _ _ => True) s := by
  have rest (u : Conn) : wp (do connExtendRemoteStreamId strm.streamId; connFcErase strm; connImmediateAck)
      (fun _ t => t.strms = u.strms ∧ u.log <+: t.log) (fun _ _ => True) u := by
    simp only [connExtendRemoteStreamId, connFcErase, connImmediateAck, connMark, emitEvent, wp_bind, wp_get, wp_ite,
      wp_pure, wp_modify]
    split_ifs <;> first | exact ⟨trivial, List.prefix_rfl⟩ | exact ⟨rfl, List.prefix_append _ _⟩
  let told : Event := .streamClose strm.streamId (if strm.appErrorCode = 0 then strm.appErrorCode else code)
  let marked := (s.setStrm strm.streamId none).emit (.mark (closeMark strm s.frq))
  change wp (connCall app told >>= fun _ => connExtendRemoteStreamId _ >>= fun _ => connFcErase strm >>=
    fun _ => connImmediateAck) _ _ marked
  rw [wp_bind]
  refine wp_intro (fun _ u run => ?_) fun _ _ _ => trivial
  cases connCall_ok app run
  refine wp_mono (rest _) ?_ fun _ _ _ => trivial
  rintro _ t ⟨strms, later, log⟩
  refine ⟨?_, [.mark (closeMark strm s.frq), told] ++ later, _, ?_, List.mem_append_left _ (List.mem_cons_of_mem _ (List.mem_singleton_self told))⟩
  · rw [strms]
    exact Conn.setStrm_strms ..
  · rw [← log]
    simp [marked, Conn.emit, Conn.setStrm]

theorem connRecvStreamFin_drops {fr : StreamFrame} (found : s.strms fr.streamId = some strm)
    (named : strm.streamId = fr.streamId) (stopped : strm.stopSending = true) (reset : strm.sentRst = true)
    (shut : strm.shutWr = true) :
    wp (connRecvStreamFin app fr)
      (fun _ t => s.Drops t fr.streamId ↔ strm.recvRst = true ∨ ngtcp2RobFirstGapOffset strm.rob = fr.endOffset)
      (fun _ _ => True) s := by
  let strm' : Strm := { strm with lastRxOffset := fr.endOffset, shutRd := true }
  let u := (s.emit (.mark (.claim fr.streamId fr.endOffset))).setStrm fr.streamId (some strm')
  have here : u.strms fr.streamId = some strm' := Conn.setStrm_strms ..
  unfold connRecvStreamFin
  rw [wp_connClaim found, wp_bind, wp_getStrm here]
  have closable : strm'.closable = true ↔ strm.recvRst = true ∨ ngtcp2RobFirstGapOffset strm.rob = fr.endOffset := by
    simp [strm', Strm.closable, reset, shut]
  change wp (if strm.stopSending = true then _ else _) _ _ u
  rw [if_pos stopped, ngtcp2ConnCloseStreamIfShutRdwr, wp_bind, wp_getStrm here, ← closable]
  split
  next open_ =>
    refine wp_mono (ngtcp2ConnCloseStream_drops app strm' _ u) ?_ fun _ _ _ => trivial
    rintro _ t ⟨gone, new, code, log, told⟩
    have name : strm'.streamId = fr.streamId := named
    rw [name] at gone told
    refine iff_of_true ⟨gone, .mark (.claim fr.streamId fr.endOffset) :: new, code, ?_, List.mem_cons_of_mem _ told⟩ open_
    simp [log, u, Conn.emit, Conn.setStrm]
  next closed =>
    refine iff_of_false ?_ closed
    rintro ⟨gone, -⟩
    rw [here] at gone
    cases gone

/-- FIN on a stream that the application has shut down closes it exactly if it is the first FIN and no bytes
were missing when the application stopped reading. -/
theorem finAccepted_closes_iff {acts : List Act} (run : Runs acts s) {fr : StreamFrame} (fin : fr.fin = true)
    (found : s.strms fr.streamId = some strm) (stopped : strm.stopSending = true) (reset : strm.sentRst = true)
    (accepted : connRecvStream app fr s = (.ok (), t)) :
    s.Drops t fr.streamId ↔
      strm.shutRd = false ∧ (strm.recvRst = true ∨ ngtcp2RobFirstGapOffset strm.rob = fr.endOffset) := by
  have named : strm.view.streamId = fr.streamId := run.ids.name (Conn.view_strms found)
  have shut : strm.shutWr = true := run.resetShut.conn found reset
  refine wp_ok (Q := fun _ t => s.Drops t fr.streamId ↔ strm.shutRd = false ∧
    (strm.recvRst = true ∨ ngtcp2RobFirstGapOffset strm.rob = fr.endOffset)) (E := fun _ _ => True) ?_ accepted
  unfold connRecvStream
  rw [wp_bind, wp_get]
  split
  · trivial
  rw [found]
  unfold connRecvStreamOn
  rw [wp_bind, wp_getStrm found]
  split
  · trivial
  rw [wp_bind]
  refine wp_mono (connRecvStreamCount_spec strm fr s) ?_ fun _ _ _ => trivial
  rintro _ u ⟨n, rfl, -⟩
  split
  next twice =>
    split
    · trivial
    · have claimed : connClaim fr.streamId fr.endOffset id { s with rxOffset := n } = _ := connClaim_run found
      rw [wp_run_ok claimed]
      refine iff_of_false ?_ ?_
      · rintro ⟨gone, -⟩
        cases (Conn.setStrm_strms ..).symm.trans gone
      · rintro ⟨first, -⟩
        simp [first] at twice
  next first =>
    split
    · trivial
    · have first : strm.shutRd = false := by simpa using first
      have drops := connRecvStreamFin_drops app (s := { s with rxOffset := n }) found named stopped reset shut
      refine wp_mono drops (fun _ t drops => ?_) fun _ _ _ => trivial
      rw [and_iff_right first]
      exact drops

end

-- the client sends a byte on stream 4, and the application shuts the stream down
def shutServer : Conn :=
  openServer.play
    [(.quiet, .frame (.stream { fin := false, streamId := 4, offset := 0, data := [1] })),
     (.quiet, .shutdownStream 4 7)]

theorem shutServer_runs : ∃ acts, Runs acts shutServer := ⟨_, openServer_runs.play _ (by decide)⟩

def bareFin : StreamFrame := { fin := true, streamId := 4, offset := 1, data := [] }

def lastByte : StreamFrame := { fin := true, streamId := 4, offset := 1, data := [1] }

theorem finAccepted_closes_iff_shutServer :
    ∃ strm t, shutServer.strms 4 = some strm ∧ connRecvStream .quiet bareFin shutServer = (.ok (), t) ∧
      (shutServer.Drops t 4 ↔
        strm.shutRd = false ∧ (strm.recvRst = true ∨ ngtcp2RobFirstGapOffset strm.rob = bareFin.endOffset)) := by
  obtain ⟨acts, run⟩ := shutServer_runs
  have flags : (shutServer.strms 4).map (fun strm => (strm.stopSending, strm.sentRst)) = some (true, true) := by decide
  obtain ⟨strm, found⟩ : ∃ strm, shutServer.strms 4 = some strm := Option.isSome_iff_exists.mp (by decide)
  rw [found] at flags
  obtain ⟨stopped, reset⟩ : strm.stopSending = true ∧ strm.sentRst = true := by simpa using flags
  have accepted : connRecvStream .quiet bareFin shutServer = (.ok (), (connRecvStream .quiet bareFin shutServer).2) := rfl
  have fin : bareFin.fin = true := rfl
  have closes := finAccepted_closes_iff .quiet run fin found stopped reset accepted
  exact ⟨strm, _, found, accepted, closes⟩

/-- The last byte comes with FIN after the stream is shut down. It is dropped, so that the stream stays. -/
theorem finAccepted_lingers :
    ∃ acts c t, Runs acts c ∧ (c.strms 4).any (fun strm => strm.stopSending && strm.sentRst) = true ∧
      connRecvStream .quiet lastByte c = (.ok (), t) ∧ ¬ c.Drops t 4 := by
  obtain ⟨acts, run⟩ := shutServer_runs
  have left : ((connRecvStream .quiet lastByte shutServer).2.strms 4).isSome = true := by decide
  refine ⟨acts, shutServer, (connRecvStream .quiet lastByte shutServer).2, run, by decide, rfl, fun ⟨gone, _⟩ => ?_⟩
  rw [gone] at left
  cases left

end Ngtcp2
