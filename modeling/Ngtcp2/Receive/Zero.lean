import Ngtcp2.Receive.Take

/-!
# The two receivers of stream 0

The frames of stream 0 are taken by `conn_recv_handshake_pkt` during the handshake and by `conn_recv_stream`
after it.
-/

namespace Ngtcp2

open Prog Range

variable (app : App)

structure RxSide.ZeroOk (side : RxSide) : Prop where
  unshut : side.shutRd = false
  unstopped : side.stopSending = false
  ordered : Ordered 0 side.rob.gap
  above : ∀ o, side.lastRxOffset ≤ o → o < uint64Max → Covers side.rob.gap o
  bound : side.lastRxOffset < 2 * varintBound

theorem RxSide.ZeroOk.first_le {side : RxSide} (ok : side.ZeroOk) :
    ngtcp2RobFirstGapOffset side.rob ≤ side.lastRxOffset := by
  have bound := ok.bound
  refine ok.ordered.first_le uint64Max (ok.above _ (Nat.le_refl _) ?_)
  unfold varintBound at bound
  unfold uint64Max
  omega

theorem RxSide.zeroOk_new : (RxSide.new false).ZeroOk where
  unshut := rfl
  unstopped := rfl
  ordered := ⟨Nat.le_refl _, by decide, trivial⟩
  above o _ small := (covers_cons ..).mpr (.inl ⟨Nat.zero_le _, small⟩)
  bound := (by decide : 0 < 2 * varintBound)

def View.ZeroOk (v : View) : Prop := ∃ side, v.rxSide 0 = some side ∧ side.ZeroOk

theorem Move.zeroOk {sc : Scope} {v w : View} (move : Move sc v w) (ids : v.Ids) (ok : v.ZeroOk) : w.ZeroOk := by
  obtain ⟨side, held, good⟩ := ok
  cases move.rxEffect ids 0 with
  | kept same => exact ⟨side, same.trans held, good⟩
  | opened absent free shutRd ours found => simp [held] at absent
  | closed side' held' settled gone =>
    obtain rfl := Option.some.inj (held.symm.trans held')
    simp [RxSide.settled, good.unshut] at settled
  | restarted zero found => exact ⟨_, found, RxSide.zeroOk_new⟩
  | stopped plain allowed side' held' found => exact absurd rfl plain
  | filled allowed side' rob held' filled found =>
    obtain rfl := Option.some.inj (held.symm.trans held')
    exact ⟨_, found, { good with
      ordered := filled.ordered good.ordered
      above := fun o least small => filled.above good.ordered o least (good.above o least small) }⟩
  | reached allowed side' last shutRd recvRst held' reach zero found =>
    obtain rfl := Option.some.inj (held.symm.trans held')
    have bound := good.bound
    exact ⟨_, found, { good with
      unshut := (zero rfl).trans good.unshut
      above := fun o least small => good.above o (by dsimp only at least; omega) small
      bound := by dsimp only; omega }⟩

theorem Runs.zeroOk {acts : List Act} {c : Conn} (run : Runs acts c) : ∃ side, c.rxSide 0 = some side ∧ side.ZeroOk := by
  have start (c : Conn) (first : Started c) : c.view.Ids ∧ c.view.ZeroOk := by
    refine ⟨first.ids, .new false, ?_, RxSide.zeroOk_new⟩
    rw [Conn.view_rxSide]
    cases first <;> rfl
  have invariant : c.view.Ids ∧ c.view.ZeroOk :=
    run.invariant (C := fun _ => True) (P := fun v => v.Ids ∧ v.ZeroOk) (fun _ _ => trivial) start
      (fun _ _ move _ ok => ⟨move.ids ok.1, move.zeroOk ok.1 ok.2⟩) trivial
  obtain ⟨side, held, ok⟩ := invariant.2
  exact ⟨side, (c.view_rxSide 0).symm.trans held, ok⟩

/-- Stream 0 is always there and receives, and what it has received in order ends at its last offset or before. -/
theorem stream0_always_receives {acts : List Act} {c : Conn} (run : Runs acts c) :
    ∃ strm, c.strms 0 = some strm ∧ strm.shutRd = false ∧ strm.stopSending = false ∧
      ngtcp2RobFirstGapOffset strm.rob ≤ strm.lastRxOffset ∧ strm.lastRxOffset < 2 * varintBound := by
  obtain ⟨side, held, ok⟩ := run.zeroOk
  obtain ⟨strm, found, rfl⟩ := Option.map_eq_some_iff.mp held
  exact ⟨strm, found, ok.unshut, ok.unstopped, ok.first_le, ok.bound⟩

theorem stream0_always_receives_openServer : ∃ strm, openServer.strms 0 = some strm ∧ strm.shutRd = false :=
  (stream0_always_receives openServer_runs).imp fun _ ok => ⟨ok.1, ok.2.1⟩

section Paths

variable {fr : StreamFrame} {s : Conn} {side : RxSide}

def Took (side : RxSide) (fr : StreamFrame) (s t : Conn) : Prop :=
  ∃ chunks side', side.accept fr = .ok (chunks, side') ∧ t.rxSide 0 = some side' ∧
    handed t.log = handed s.log ++ chunks

theorem Took.of_take {t : Conn} (new : ¬ fr.endOffset ≤ ngtcp2RobFirstGapOffset side.rob)
    {chunks : List (List UInt8)} {side' : RxSide}
    (taken : RxSide.take { side with lastRxOffset := max side.lastRxOffset fr.endOffset } fr = .ok (chunks, side'))
    (held : t.rxSide 0 = some side') (told : handed t.log = handed s.log ++ chunks) : Took side fr s t := by
  refine ⟨chunks, side', ?_, held, told⟩
  unfold RxSide.accept
  exact (if_neg new).trans taken

theorem connTakeStream0_takes {strm : Strm} (found : s.strms 0 = some strm)
    (reached : fr.offset ≤ ngtcp2StrmRxOffset strm) :
    wp (connTakeStream0 app strm (fr.data.drop (ngtcp2StrmRxOffset strm - fr.offset)))
      (fun _ t => ∃ chunks side, strm.rxSide.take fr = .ok (chunks, side) ∧ t.rxSide 0 = some side ∧
        handed t.log = handed s.log ++ chunks) (fun _ _ => True) s := by
  unfold connTakeStream0
  rw [wp_bind, wp_connMark, wp_bind]
  refine Eq.mpr (wp_modifyStrm _ (by exact found)) ?_
  rw [wp_bind]
  refine wp_mono (connCallRecvStream0Data_hands app _ _) ?_ fun _ _ _ => trivial
  rintro _ t ⟨same, told⟩
  rw [Conn.rxSide_setStrm] at same
  rw [wp_bind, wp_connMark]
  refine wp_mono (connEmitPendingStream0Data_drains app _ _ same) ?_ fun _ _ _ => trivial
  rintro _ u ⟨chunks, rob, drained, held, more⟩
  refine ⟨_, _, RxSide.take_reached rfl reached drained, held, ?_⟩
  have marked : handed (t.log ++ [.mark .uncredited]) = handed t.log := handed_emit t rfl
  rw [more]
  change handed (t.log ++ [.mark .uncredited]) ++ chunks = _
  rw [marked, told, List.append_assoc]
  exact congrArg (· ++ _) (handed_emit s rfl)

theorem connRecvStream_zero (zero : fr.streamId = 0) (held : s.rxSide 0 = some side) (ok : side.ZeroOk) :
    wp (connRecvStream app fr) (fun _ t => Took side fr s t) (fun _ _ => True) s := by
  obtain ⟨strm, found, rfl⟩ := Conn.strm_of held
  have unshut : strm.shutRd = false := ok.unshut
  have unstopped : strm.stopSending = false := ok.unstopped
  unfold connRecvStream
  rw [wp_bind, wp_get]
  split
  · trivial
  next passed =>
  have plain : fr.fin = false := by
    cases fin : fr.fin
    · rfl
    · exact absurd zero (recvStreamError_fin passed fin)
  rw [zero, found]
  unfold connRecvStreamOn
  rw [zero, wp_bind, wp_getStrm found]
  split
  · trivial
  rw [wp_bind]
  refine wp_mono (connRecvStreamCount_spec strm fr s) ?_ fun _ _ _ => trivial
  rintro _ t ⟨n, rfl, -⟩
  rw [if_neg (by simp [plain]), if_neg (by simp [unshut])]
  unfold connRecvStreamNoFin
  let further : Strm := { strm with lastRxOffset := max strm.lastRxOffset fr.endOffset }
  rw [zero]
  refine Eq.mpr (wp_connClaim (by exact found)) ?_
  rw [wp_bind, wp_getStrm (Conn.setStrm_strms ..)]
  split
  next old =>
    refine ⟨[], further.rxSide, ?_, Conn.rxSide_setStrm .., ?_⟩
    · unfold RxSide.accept
      exact if_pos old
    · exact (handed_emit _ rfl).trans (List.append_nil _).symm
  next new =>
  rw [if_neg (by simp [unstopped])]
  unfold connDeliverStream connTakeStream
  rw [zero, wp_bind, wp_bind, wp_getStrm (Conn.setStrm_strms ..)]
  -- stream 0 is never shut, so that it stays open
  have stays (u : Conn) (side' : RxSide) (open_ : u.rxSide 0 = some side') (unshut : side'.shutRd = false)
      (took : Took strm.rxSide fr s u) :
      wp (ngtcp2ConnCloseStreamIfShutRdwr app 0 ngtcp2NoError) (fun _ t => Took strm.rxSide fr s t)
        (fun _ _ => True) u := by
    obtain ⟨strm', found', rfl⟩ := Conn.strm_of open_
    unfold ngtcp2ConnCloseStreamIfShutRdwr
    rw [wp_bind, wp_getStrm found', if_neg]
    · exact took
    · have live : strm'.shutRd = false := unshut
      simp [Strm.closable, live]
  dsimp only
  split
  next reached =>
    refine wp_mono (connTakeStream0_takes app (Conn.setStrm_strms ..) reached) ?_ fun _ _ _ => trivial
    rintro _ u ⟨chunks, side', taken, now, told⟩
    obtain ⟨rob, rfl⟩ := RxSide.take_side taken
    refine stays u _ now unshut (Took.of_take new taken now ?_)
    rw [told]
    exact congrArg (· ++ _) (handed_emit _ rfl)
  next behind =>
    rw [wp_modifyStrm _ (Conn.setStrm_strms ..)]
    refine stays _ _ (Conn.rxSide_setStrm ..) unshut
      (Took.of_take new (RxSide.take_behind behind) (Conn.rxSide_setStrm ..) ?_)
    exact (handed_emit _ rfl).trans (List.append_nil _).symm

theorem handshakeDeliver_takes {strm : Strm} (found : s.strms 0 = some strm)
    (reached : fr.offset ≤ ngtcp2StrmRxOffset strm) :
    wp (handshakeDeliver app fr false)
      (fun failed t => failed = false → ∃ chunks side, strm.rxSide.take fr = .ok (chunks, side) ∧
        t.rxSide 0 = some side ∧ handed t.log = handed s.log ++ chunks) (fun _ _ => True) s := by
  unfold handshakeDeliver
  rw [wp_bind, wp_getStrm found]
  dsimp only
  rw [wp_bind, wp_connMark, wp_bind]
  refine Eq.mpr (wp_modifyStrm _ (by exact found)) ?_
  rw [wp_bind, wp_attempt]
  refine wp_mono (connCallRecvStream0Data_hands app _ _) ?_ fun e t _ => ?_
  · rintro _ t ⟨same, told⟩
    rw [Conn.rxSide_setStrm] at same
    rw [wp_bind]
    refine wp_mono (connCreditStrm0_idle _ t) (fun _ u idle => ?_) fun _ _ _ => trivial
    rw [Bool.not_false, if_pos rfl, wp_bind]
    refine wp_mono (connEmitPendingStream0Data_drains app _ _ (idle.1.trans same)) ?_ fun _ _ _ => trivial
    rintro _ w ⟨chunks, rob, drained, held, more⟩ -
    refine ⟨_, _, RxSide.take_reached rfl reached drained, held, ?_⟩
    rw [more, idle.2, told, List.append_assoc]
    exact congrArg (· ++ _) (handed_emit s rfl)
  · -- a handshake that fails is no success
    split
    next same => cases same
    next =>
      rw [wp_bind]
      exact wp_mono (connCreditStrm0_idle _ t) (fun _ _ _ failed => nomatch failed) fun _ _ _ => trivial
    next => trivial

theorem handshakeStream_zero (hd : PktHd) (zero : fr.streamId = 0) (held : s.rxSide 0 = some side)
    (ok : side.ZeroOk) :
    wp (handshakeStream app hd fr false) (fun failed t => failed = false → Took side fr s t)
      (fun _ _ => True) s := by
  obtain ⟨strm, found, rfl⟩ := Conn.strm_of held
  unfold handshakeStream
  rw [if_neg (not_not.mpr zero)]
  split
  · trivial
  split
  · trivial
  split
  · trivial
  rw [wp_bind, wp_getStrm found]
  dsimp only
  split
  next old =>
    rintro -
    have within := ok.first_le
    have same : max strm.lastRxOffset fr.endOffset = strm.lastRxOffset :=
      Nat.max_eq_left (Nat.le_trans old within)
    refine ⟨[], strm.rxSide, ?_, held, by simp⟩
    unfold RxSide.accept
    simp only [Strm.rxSide, same]
    exact if_pos old
  next new =>
  have new : ¬ fr.endOffset ≤ ngtcp2RobFirstGapOffset strm.rob := new
  split
  · rw [wp_bind]
    exact Eq.mpr (wp_modifyStrm _ found) trivial
  refine Eq.mpr (wp_connClaim found) ?_
  split
  next reached =>
    refine wp_mono (handshakeDeliver_takes app (Conn.setStrm_strms ..) reached) ?_ fun _ _ _ => trivial
    intro failed u took content
    obtain ⟨chunks, side', taken, now, told⟩ := took content
    refine Took.of_take new taken now ?_
    rw [told]
    exact congrArg (· ++ _) (handed_emit _ rfl)
  next behind =>
    rw [Bool.not_false, if_pos rfl, wp_bind]
    refine Eq.mpr (wp_modifyStrm _ (Conn.setStrm_strms ..)) fun _ => ?_
    refine Took.of_take new (RxSide.take_behind behind) (Conn.rxSide_setStrm ..) ?_
    exact (handed_emit _ rfl).trans (List.append_nil _).symm

end Paths

/-- A frame of stream 0, and the header of the Handshake packet that it comes in unless the handshake
is over. -/
structure ZeroAct where
  app : App
  hd : Option PktHd
  fr : StreamFrame

def ZeroAct.takes (act : ZeroAct) (s : Conn) : Bool × Conn :=
  match act.hd with
  | some hd =>
    match handshakeStream act.app hd act.fr false s with
    | (.ok failed, t) => (!failed, t)
    | (.error _, t) => (false, t)
  | none =>
    match connRecvStream act.app act.fr s with
    | (.ok _, t) => (true, t)
    | (.error _, t) => (false, t)

structure StreamFrame.OfZero (fr : StreamFrame) : Prop where
  zero : fr.streamId = 0
  some : fr.data ≠ []
  plain : fr.fin = false
  bound : fr.endOffset < varintBound

structure ZeroStep (s : Conn) (act : ZeroAct) (t : Conn) : Prop where
  takes : act.takes s = (true, t)
  ofZero : act.fr.OfZero

theorem ZeroAct.took {act : ZeroAct} {s t : Conn} {side : RxSide} (takes : act.takes s = (true, t))
    (zero : act.fr.streamId = 0) (held : s.rxSide 0 = some side) (ok : side.ZeroOk) : Took side act.fr s t := by
  unfold ZeroAct.takes at takes
  split at takes
  next hd _ =>
    split at takes
    next failed u run =>
      obtain ⟨content, rfl⟩ : (!failed) = true ∧ u = t := by simpa using takes
      exact wp_ok (handshakeStream_zero act.app hd zero held ok) run (by simpa using content)
    next => simp at takes
  next =>
    split at takes
    next u run =>
      obtain rfl : u = t := by simpa using takes
      exact wp_ok (Q := fun _ t => Took side act.fr s t) (connRecvStream_zero act.app zero held ok) run
    next => simp at takes

structure ZeroHeld (s c : Conn) (frs : List StreamFrame) (side : RxSide) : Prop where
  held : c.rxSide 0 = some side
  ok : side.ZeroOk
  keeps : side.rob.Keeps (assembled frs)
  told : ∃ chunks, handed c.log = handed s.log ++ chunks ∧ chunks.flatten = (assembled frs).text

theorem ZeroHeld.next {s c d : Conn} {frs : List StreamFrame} {side : RxSide} {act : ZeroAct}
    (holds : ZeroHeld s c frs side) (step : ZeroStep c act d) : ∃ side', ZeroHeld s d (frs ++ [act.fr]) side' := by
  obtain ⟨held, ok, keeps, chunks, told, text⟩ := holds
  have bound := step.ofZero.bound
  obtain ⟨more, side', accepted, now, added⟩ := ZeroAct.took step.takes step.ofZero.zero held ok
  obtain ⟨more', rob, accepted', keeps', text'⟩ := side.accept_keeps act.fr keeps (by omega)
  obtain ⟨rfl, rfl⟩ : more' = more ∧ _ = side' := by simpa using accepted'.symm.trans accepted
  rw [← assembled_concat] at keeps' text'
  refine ⟨_, now, ?_, keeps', chunks ++ more', ?_, ?_⟩
  · have small := ok.bound
    refine { ok with ordered := ?_, above := fun o least small => ?_, bound := ?_ }
    · exact keeps'.ordered.weaken (Nat.zero_le _)
    · rw [keeps'.gaps]
      dsimp only at least
      have outside : ¬ ((assembled (frs ++ [act.fr])).cell o).isSome = true := by
        intro has
        rw [assembled_concat] at has
        have old := ok.above o (by omega) small
        rw [keeps.gaps] at old
        rcases (Assembly.put_cell_isSome o).mp has with before | ⟨_, inside⟩
        · exact old.2.2 before
        · unfold StreamFrame.endOffset StreamFrame.datalen at least
          omega
      refine ⟨?_, small, outside⟩
      by_contra below
      exact outside (Assembly.cell_below (by omega))
    · dsimp only
      omega
  · rw [added, told, List.append_assoc]
  · rw [List.flatten_append, text, text']

theorem zero_in_order {s c : Conn} {acts : List ZeroAct} {whole : List UInt8} {g : Nat}
    (new : s.rxSide 0 = some (.new false)) (run : Run ZeroStep (fun c => c = s) acts c)
    (parts : ∀ act ∈ acts, act.fr.PartOf whole) (least : LeastUncovered (acts.map ZeroAct.fr) g) :
    ∃ chunks, handed c.log = handed s.log ++ chunks ∧ chunks.flatten = whole.take g := by
  have invariant : ∃ side, ZeroHeld s c (acts.map ZeroAct.fr) side := by
    refine run.invariant (P := fun acts c => ∃ side, ZeroHeld s c (acts.map ZeroAct.fr) side) ?_ ?_
    · rintro _ rfl
      exact ⟨_, new, RxSide.zeroOk_new, ngtcp2RobInit_keeps, [], by simp, by simp [assembled, Assembly.text,
        Assembly.slice]⟩
    · rintro acts c act d ⟨side, holds⟩ step
      simpa using holds.next step
  obtain ⟨side, -, -, -, chunks, told, text⟩ := invariant
  refine ⟨chunks, told, text.trans (assembled_text ?_ least)⟩
  simpa using parts

/-- What a frame of stream 0 does in a run does not depend on which of the two receivers takes it, and a new
stream 0 comes out in order whichever receiver takes each of its frames. -/
theorem stream0_receivers_agree {acts : List Act} {c : Conn} (run : Runs acts c) (app app' : App) (hd : PktHd)
    {fr : StreamFrame} (ofZero : fr.OfZero)
    (first : (ZeroAct.takes { app := app, hd := some hd, fr := fr } c).1 = true)
    (second : (ZeroAct.takes { app := app', hd := none, fr := fr } c).1 = true) :
    (let s := (ZeroAct.takes { app := app, hd := some hd, fr := fr } c).2
     let t := (ZeroAct.takes { app := app', hd := none, fr := fr } c).2
     handed s.log = handed t.log ∧ ∃ strm strm', s.strms 0 = some strm ∧ t.strms 0 = some strm' ∧
      strm.rob = strm'.rob ∧ strm.lastRxOffset = strm'.lastRxOffset) ∧
    ∀ (s t : Conn) (acts : List ZeroAct) (whole : List UInt8) (g : Nat), s.rxSide 0 = some (.new false) →
      Run ZeroStep (fun c => c = s) acts t → (∀ act ∈ acts, act.fr.PartOf whole) →
      LeastUncovered (acts.map ZeroAct.fr) g →
      ∃ chunks, handed t.log = handed s.log ++ chunks ∧ chunks.flatten = whole.take g := by
  obtain ⟨side, held, ok⟩ := run.zeroOk
  refine ⟨?_, fun s t acts whole g new run parts least => zero_in_order new run parts least⟩
  obtain ⟨chunks, side', accepted, now, told⟩ :=
    ZeroAct.took (Prod.ext first rfl) ofZero.zero held ok
  obtain ⟨chunks', side'', accepted', now', told'⟩ :=
    ZeroAct.took (Prod.ext second rfl) ofZero.zero held ok
  obtain ⟨rfl, rfl⟩ : chunks = chunks' ∧ side' = side'' := by simpa using accepted.symm.trans accepted'
  obtain ⟨strm, found, same⟩ := Conn.strm_of now
  obtain ⟨strm', found', same'⟩ := Conn.strm_of now'
  refine ⟨told.trans told'.symm, strm, strm', found, found', ?_, ?_⟩
  · exact congrArg RxSide.rob (same.trans same'.symm)
  · exact congrArg RxSide.lastRxOffset (same.trans same'.symm)

-- the server has the first two bytes of the stream
def thirdByte : StreamFrame := { fin := false, streamId := 0, offset := 1, data := [0, 7] }

def handshakeHd : PktHd :=
  { longForm := true, omitConnId := false, type := .HANDSHAKE, connId := 1, pktNum := 3, version := 1 }

theorem stream0_receivers_agree_thirdByte :
    let s := (ZeroAct.takes { app := .quiet, hd := some handshakeHd, fr := thirdByte } openServer).2
    let t := (ZeroAct.takes { app := .quiet, hd := none, fr := thirdByte } openServer).2
    handed t.log = [[0], [0], [7]] ∧ handed s.log = handed t.log :=
  ⟨by decide +kernel, (stream0_receivers_agree openServer_runs .quiet .quiet handshakeHd
    ⟨rfl, by decide, rfl, by decide⟩ (by decide +kernel) (by decide +kernel)).1.1⟩

end Ngtcp2
