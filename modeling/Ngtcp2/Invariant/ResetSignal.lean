import Ngtcp2.Invariant.Signals

/-!
# Local resets

`conn_write_pkt` filters out a RST_STREAM frame whose stream is gone.
-/

namespace Ngtcp2

open List Prog

def Mark.ResetKept : Mark → Prop
  | .closeStream _ _ rstQueued => rstQueued = false
  | _ => True

instance (m : Mark) : Decidable m.ResetKept := by
  apply m.casesOn (motive := fun m => Decidable m.ResetKept) <;> intros <;> unfold Mark.ResetKept <;> infer_instance

def View.RstNamed (v : View) : Prop :=
  ∀ rst, .rstStream rst ∈ v.frq → rst.appErrorCode = ngtcp2Stopping ∨ (v.strms rst.streamId).isSome = true

structure View.Resets (v : View) : Prop where
  sent : v.Each fun id strm =>
    strm.sentRst = true → ∃ rst : RstStream, rst.streamId = id ∧ v.Signalled (.rstStream rst)
  named : v.RstNamed

section

variable {v w : View}

theorem View.RstNamed.same (named : v.RstNamed) (frq : ∀ rst, .rstStream rst ∈ w.frq → .rstStream rst ∈ v.frq)
    (opened : ∀ id, (v.strms id).isSome = true → (w.strms id).isSome = true) : w.RstNamed :=
  fun rst member => (named rst (frq rst member)).imp_right (opened rst.streamId)

theorem View.opened_set {id : Nat} {strm : Strm} (strms : w.strms = Function.update v.strms id (some strm))
    (i : Nat) (opened : (v.strms i).isSome = true) : (w.strms i).isSome = true := by
  rw [strms]
  by_cases same : i = id <;> simp [same]
  simpa [same] using opened

theorem Move.rstNamed {sc : Scope} (move : Move sc v w) (ids : v.Ids) (kept : Marked Mark.ResetKept w.log)
    (named : v.RstNamed) : w.RstNamed := by
  cases move
  case push fr due =>
    intro rst member
    rcases mem_cons.mp member with rfl | member
    · obtain ⟨id, strm, found, same⟩ := due
      rw [same, ids.name found]
      exact .inr (by simp [found])
    · exact named rst member
  case sift frq sublist dropped => exact named.same (fun rst member => sublist.subset member) fun _ opened => opened
  case advertiseId bidi n limit =>
    refine named.same (fun rst member => ?_) fun _ opened => opened
    rcases mem_append.mp member with member | member
    · exact member
    · simp at member
  case sendQueued ckm frames ack ent queue nalloc frq allowed post ready carried entry short taken
      pushed =>
    exact named.same (fun rst member => taken ▸ mem_append_right _ member) fun _ opened => opened
  case close id code strm found closable =>
    intro rst member
    have unqueued : rstQueued v.frq strm.streamId = false :=
      kept (closeMark strm v.frq) (by simp [View.closeStream])
    rcases named rst member with stopping | opened
    · exact .inl stopping
    by_cases same : rst.streamId = strm.streamId
    · left
      have all := any_eq_false.mp unqueued _ member
      simpa [same] using all
    · right
      change (Function.update v.strms strm.streamId none rst.streamId).isSome = true
      rwa [Function.update_of_ne same]
  case ackFrame ent fr rest held chain acked silent =>
    rcases v.ackFrame_cases fr with ⟨_, _, _, _, same⟩ | ⟨_, same⟩ <;> rw [same]
    · exact named.same (fun _ member => member) (View.opened_set rfl)
    · exact named
  all_goals first
    | exact named.same (fun _ member => member) fun _ opened => opened
    | exact named.same (fun _ member => member) (View.opened_set rfl)

theorem Move.rst_kept {act : Act} {state : ConnState} (move : Move (act.scope state) v w)
    (flight : v.Flight state) (timely : act.result ≠ .error .PKT_TIMEOUT) (named : v.RstNamed)
    {rst : RstStream} (signalled : v.Signalled (.rstStream rst)) : w.Signalled (.rstStream rst) := by
  rcases move.signalled flight.linked rfl timely (flight.young rfl) signalled with
    signalled | obsolete | ⟨member, absent, code⟩
  · exact signalled
  · exact obsolete.elim
  · rcases named rst member with stopping | opened
    · exact absurd stopping code
    · simp [absent] at opened

theorem Move.resets {act : Act} {state : ConnState} (move : Move (act.scope state) v w)
    (flight : v.Flight state) (timely : act.result ≠ .error .PKT_TIMEOUT)
    (kept : Marked Mark.ResetKept w.log) (resets : v.Resets) : w.Resets := by
  refine ⟨fun id strm found sent => ?_, move.rstNamed flight.ids kept resets.named⟩
  have was (old : Strm) (held : v.strms id = some old) (before : old.sentRst = true) :
      ∃ rst : RstStream, rst.streamId = id ∧ w.Signalled (.rstStream rst) := by
    obtain ⟨rst, name, signalled⟩ := resets.sent id old held before
    exact ⟨rst, name, move.rst_kept flight timely resets.named signalled⟩
  rcases (move.held flight.linked).strm found with step | ⟨old, held, same, -⟩
  · cases step with
    | kept old held alike => exact was old held (alike.sentRst ▸ sent)
    | handshake old zero held alike => exact was old held (alike.sentRst ▸ sent)
    | restarted shutRd shutWr maxTx zero init => simp [init, ngtcp2StrmInit] at sent
    | fresh shutRd shutWr maxTx inserted init => simp [init, ngtcp2StrmInit] at sent
    | reset old rst held named queued alike => exact ⟨rst, named.trans (flight.ids.name held), .inl queued⟩
    | advertised old held queued alike => exact was old held (alike.sentRst ▸ sent)
  · exact was old held (same ▸ sent)

end

theorem connShutdownStreamWrite_reset (app : App) (id code : Nat) (s : Conn) :
    wp (connShutdownStreamWrite app id code)
      (fun _ t => ∃ strm, t.strms id = some strm ∧ strm.sentRst = true) (fun _ _ => True) s := by
  change wp (getStrm id >>= _) _ _ s
  rw [wp_bind]
  refine wp_intro (fun strm t run => ?_) fun _ _ _ => trivial
  obtain ⟨rfl, found⟩ := getStrm_ok run
  split
  next sent => exact ⟨strm, found, sent⟩
  next =>
    rw [wp_bind, wp_modifyStrm _ found]
    unfold connRstStream
    rw [wp_bind]
    refine wp_intro (fun strm' u run => ?_) fun _ _ _ => trivial
    obtain ⟨rfl, found'⟩ := getStrm_ok run
    obtain rfl := Option.some.inj ((Conn.setStrm_strms _ _ _).symm.trans found')
    refine wp_mono (connPushFrq_spec app _ _) ?_ fun _ _ _ => trivial
    rintro _ w rfl
    exact ⟨_, found', rfl⟩

def Call.resets (id : Nat) : Call → Prop
  | .shutdownStream streamId _ => streamId = id
  | .shutdownStreamWrite streamId _ => streamId = id
  | _ => False

theorem shutdownChecked_reset {id code : Nat} {shutdown : ConnM Unit} {Q : Conn → Prop}
    (inner : ∀ s, wp shutdown (fun _ t => Q t) (fun _ _ => True) s) (s : Conn) :
    wp (returns0 (shutdownChecked id code shutdown)) (fun _ t => Q t) (fun _ _ => True) s := by
  unfold returns0 shutdownChecked
  rw [wp_bind]
  split
  · trivial
  · rw [wp_bind]
    refine wp_intro (fun found t run => ?_) fun _ _ _ => trivial
    split
    · trivial
    · exact inner t

theorem Step.reset {s t : Conn} {act : Act} (step : Step s act t) {id len : Nat}
    (resets : act.call.resets id) (ok : act.result = .ok len) :
    ∃ strm, t.strms id = some strm ∧ strm.sentRst = true := by
  have exec := ok ▸ step.exec
  obtain ⟨app, call, result⟩ := act
  cases call <;> first | exact resets.elim | cases resets
  case shutdownStream code =>
    have both (s : Conn) : wp (connShutdownStreamRead app id code >>= fun _ =>
        connShutdownStreamWrite app id code)
        (fun _ t => ∃ strm, t.strms id = some strm ∧ strm.sentRst = true) (fun _ _ => True) s := by
      rw [wp_bind]
      exact wp_intro (fun _ t _ => connShutdownStreamWrite_reset app id code t) fun _ _ _ => trivial
    exact wp_ok (shutdownChecked_reset both s) exec
  case shutdownStreamWrite code =>
    exact wp_ok (shutdownChecked_reset (connShutdownStreamWrite_reset app id code) s) exec

theorem Step.resets {s t : Conn} {act : Act} (step : Step s act t) (role : s.Role)
    (flight : s.view.Flight s.state) (timely : act.result ≠ .error .PKT_TIMEOUT)
    (kept : Marked Mark.ResetKept t.view.log) (resets : s.view.Resets) :
    t.view.Resets ∧ ∀ rst, s.view.Signalled (.rstStream rst) → t.view.Signalled (.rstStream rst) := by
  have reached : t.view.Flight s.state ∧ t.view.Resets ∧
      ∀ rst, s.view.Signalled (.rstStream rst) → t.view.Signalled (.rstStream rst) := by
    refine (step.reaches_scope role).invariant (C := Marked Mark.ResetKept)
      (P := fun v => v.Flight s.state ∧ v.Resets ∧
        ∀ rst, s.view.Signalled (.rstStream rst) → v.Signalled (.rstStream rst))
      Marked.earlier (fun v w move kept holds => ?_) kept ⟨flight, resets, fun _ => id⟩
    obtain ⟨flight, resets, signalled⟩ := holds
    exact ⟨move.flight flight, move.resets flight timely kept resets,
      fun rst before => move.rst_kept flight timely resets.named (signalled rst before)⟩
  exact reached.2

theorem Runs.resets {acts : List Act} {c : Conn} (run : Runs acts c)
    (timely : ∀ act ∈ acts, act.result ≠ .error .PKT_TIMEOUT) (kept : Marked Mark.ResetKept c.view.log) :
    c.view.Resets ∧ ∀ act ∈ acts, ∀ id len, act.call.resets id → act.result = .ok len →
      ∃ rst : RstStream, rst.streamId = id ∧ c.view.Signalled (.rstStream rst) := by
  induction run with
  | start first =>
    refine ⟨⟨?_, fun rst member => ?_⟩, fun act member => (nomatch member)⟩
    · exact first.each fun maxRx sent => (nomatch sent)
    · cases first <;> cases member
  | @next acts s t act before step ih =>
    have role := Runs.role before
    have earlier := Marked.earlier (step.reaches_scope role).log_extends kept
    obtain ⟨resets, done⟩ := ih (fun act member => timely act (mem_append_left _ member)) earlier
    have inTime := timely act (mem_append_right _ (mem_singleton_self act))
    obtain ⟨resets, signalled⟩ := step.resets role (Runs.flight before) inTime kept resets
    refine ⟨resets, fun act' member id len shuts ok => ?_⟩
    rcases mem_append.mp member with member | member
    · obtain ⟨rst, name, sent⟩ := done act' member id len shuts ok
      exact ⟨rst, name, signalled rst sent⟩
    · obtain rfl := mem_singleton.mp member
      obtain ⟨strm, found, sent⟩ := step.reset shuts ok
      exact resets.sent.conn found sent

/-- The peer is told of every local reset, unless a stream is removed while the frame that reports its reset is
queued. -/
theorem local_reset_signalled {acts : List Act} {c : Conn} (run : Runs acts c)
    (timely : ∀ act ∈ acts, act.result ≠ .error .PKT_TIMEOUT) (kept : Marked Mark.ResetKept c.log) :
    ∀ act ∈ acts, ∀ id len, act.call.resets id → act.result = .ok len →
      ∃ rst : RstStream, rst.streamId = id ∧ .rstStream rst ∈ c.signalled := by
  have marked : Marked Mark.ResetKept c.view.log :=
    fun m member => kept m ((Conn.mem_log rfl).mp member)
  intro act member id len shuts ok
  obtain ⟨rst, name, signalled⟩ := (Runs.resets run timely marked).2 act member id len shuts ok
  exact ⟨rst, name, Conn.mem_signalled (Runs.flight run) rfl signalled⟩

def resetCalls : List (App × Call) :=
  [(.quiet, .openBidiStream), (.quiet, .shutdownStreamWrite 1 7)]

theorem local_reset_signalled_resetCalls :
    ∃ rst : RstStream, rst.streamId = 1 ∧ .rstStream rst ∈ (openServer.play resetCalls).signalled :=
  local_reset_signalled (Runs.play openServer_runs resetCalls (by decide)) (by decide) (by decide)
    { app := .quiet, call := .shutdownStreamWrite 1 7, result := .ok 0 }
    (mem_append_right _ (mem_cons_of_mem _ mem_cons_self)) 1 0 rfl rfl

def overtakenCalls : List (App × Call) :=
  resetCalls ++
    [(.quiet, .frame (.stream { fin := true, streamId := 1, offset := 0, data := [] })),
     (.quiet, .writePkt 1200 0)]

theorem local_reset_unsignalled :
    ∃ acts c, Runs acts c ∧ (∀ act ∈ acts, act.result ≠ .error .PKT_TIMEOUT) ∧
      (∃ act ∈ acts, act.call.resets 1 ∧ act.result = .ok 0) ∧
      ∀ rst, .rstStream rst ∈ c.signalled → rst.streamId ≠ 1 := by
  refine ⟨_, _, Runs.play openServer_runs overtakenCalls (by decide), by decide, ?_, ?_⟩
  · exact ⟨{ app := .quiet, call := .shutdownStreamWrite 1 7, result := .ok 0 },
      mem_append_right _ (mem_cons_of_mem _ mem_cons_self), rfl, rfl⟩
  · have silent : ∀ fr ∈ (openServer.play overtakenCalls).signalled, fr.stream?.isSome = true := by decide
    intro rst member
    cases silent _ member

end Ngtcp2
