import Ngtcp2.Receive.Deliver

/-!
# STOP_SENDING and the receive side

STOP_SENDING that comes first uses up the id of the stream and leaves no receiver behind.
-/

namespace Ngtcp2

open Prog

def streamCalls (frs : List StreamFrame) : List Call := frs.map fun fr => .frame (.stream fr)

structure Alike (s t : Conn) (id : Nat) : Prop where
  limit : t.limit id = s.limit id
  rxOffset : t.rxOffset = s.rxOffset
  maxRxOffset : t.maxRxOffset = s.maxRxOffset
  server : t.server = s.server
  maxRemoteStreamIdBidi : t.maxRemoteStreamIdBidi = s.maxRemoteStreamIdBidi

structure Twin (s t : Conn) (id : Nat) (r : Receiver) : Prop where
  first : s.Tracks id r
  second : t.Tracks id r
  unreset : r.reset = false
  alike : r.complete = true ∨ Alike s t id

section

variable {s s' t t' : Conn} {id : Nat} {r : Receiver} {fr : StreamFrame} {act act' : Act}

theorem Receiver.complete_of_settled (settled : r.settled = true) (unreset : r.reset = false) : r.complete = true := by
  simpa [Receiver.settled, Receiver.complete, unreset] using settled

theorem Receiver.take_reset : (r.take fr).reset = r.reset := by
  unfold Receiver.take
  split <;> rfl

theorem recvStreamError_alike (alike : Alike s t fr.streamId) (remote : connLocalStream s fr.streamId = false)
    (bidi : bidiStream fr.streamId = true) : recvStreamError t fr = recvStreamError s fr := by
  have remote' : connLocalStream t fr.streamId = false := by
    unfold connLocalStream at remote ⊢
    rwa [alike.server]
  simp [recvStreamError, streamIdError, bidi, remote, remote', alike.maxRemoteStreamIdBidi]

theorem Receiver.verdict_alike (alike : Alike s t fr.streamId) :
    r.verdict (t.limit fr.streamId) t fr = r.verdict (s.limit fr.streamId) s fr := by
  unfold Receiver.verdict connMaxDataViolated
  rw [alike.limit, alike.rxOffset, alike.maxRxOffset]

theorem Conn.counted_alike (alike : Alike s t fr.streamId) :
    (t.counted r fr).rxOffset = (s.counted r fr).rxOffset := by
  unfold Conn.counted
  split
  · exact congrArg (add64 · _) alike.rxOffset
  · exact alike.rxOffset

theorem Advance.alike {r' : Receiver} {n : Nat} (alike : Alike s t id) (first : Advance s s' id r r')
    (second : Advance t t' id r r') (unreset : r'.reset = false) (offset : s'.rxOffset = n) (offset' : t'.rxOffset = n) :
    r'.complete = true ∨ Alike s' t' id := by
  rcases first.limit with limit | settled
  · rcases second.limit with limit' | settled
    · right
      exact ⟨(limit'.trans alike.limit).trans limit.symm, offset'.trans offset.symm,
        (second.maxRxOffset.trans alike.maxRxOffset).trans first.maxRxOffset.symm,
        (second.server.trans alike.server).trans first.server.symm,
        (second.maxRemoteStreamIdBidi.trans alike.maxRemoteStreamIdBidi).trans first.maxRemoteStreamIdBidi.symm⟩
    · exact .inl (Receiver.complete_of_settled settled unreset)
  · exact .inl (Receiver.complete_of_settled settled unreset)

theorem Conn.Tracks.complete (tracks : s.Tracks id r) (step : Step s act s') (plain : id ≠ 0)
    (called : act.call = .frame (.stream fr)) (named : fr.streamId = id) (complete : r.complete = true) :
    s'.Tracks id r := by
  have moved {verdict : Verdict} {n : Nat} (outcome : Outcome s s' fr r r verdict n) : s'.Tracks id r := by
    rw [← named] at tracks ⊢
    exact tracks.next step outcome.advance.follows (outcome.advance.told tracks.told)
  cases tracks.streamed step plain called named with
  | invalid _ _ _ same => exact same ▸ tracks
  | ignored _ _ same => exact same ▸ tracks
  | flow _ _ outcome => exact moved outcome
  | final _ _ outcome => exact moved outcome
  | accepted _ _ outcome =>
    rw [Receiver.take_complete complete] at outcome
    exact moved outcome

namespace Twin

theorem judged {r' : Receiver} {verdict : Verdict} (twin : Twin s t id r) (alike : Alike s t id) (step : Step s act s')
    (step' : Step t act' t') (named : fr.streamId = id) {n m : Nat} (outcome : Outcome s s' fr r r' verdict n)
    (outcome' : Outcome t t' fr r r' verdict m) (unreset : r'.reset = false) (offset : m = n) : Twin s' t' id r' := by
  subst named
  exact ⟨twin.first.next step outcome.advance.follows (outcome.advance.told twin.first.told),
    twin.second.next step' outcome'.advance.follows (outcome'.advance.told twin.second.told), unreset,
    outcome.advance.alike alike outcome'.advance unreset outcome.rxOffset (outcome'.rxOffset.trans offset)⟩

theorem stream (twin : Twin s t id r) (plain : id ≠ 0) (bidi : bidiStream id = true)
    (remote : connLocalStream s id = false) (step : Step s act s') (step' : Step t act' t')
    (called : act.call = .frame (.stream fr)) (called' : act'.call = .frame (.stream fr)) (named : fr.streamId = id) :
    ∃ r', Twin s' t' id r' := by
  by_cases complete : r.complete = true
  · exact ⟨r, twin.first.complete step plain called named complete,
      twin.second.complete step' plain called' named complete, twin.unreset, .inl complete⟩
  have alike := twin.alike.resolve_left complete
  have open_ (settled : r.settled = true) : False := complete (Receiver.complete_of_settled settled twin.unreset)
  have errors : recvStreamError t fr = recvStreamError s fr :=
    recvStreamError_alike (named ▸ alike) (named ▸ remote) (named ▸ bidi)
  have verdicts : r.verdict (t.limit fr.streamId) t fr = r.verdict (s.limit fr.streamId) s fr :=
    Receiver.verdict_alike (named ▸ alike)
  have counted : (t.counted r fr).rxOffset = (s.counted r fr).rxOffset := Conn.counted_alike (named ▸ alike)
  have agree {v v' : Verdict} {r₁ r₂ : Receiver} {n m : Nat} (outcome : Outcome s s' fr r r₁ v n)
      (outcome' : Outcome t t' fr r r₂ v' m) : v' = v :=
    outcome'.judged.symm.trans (verdicts.trans outcome.judged)
  cases twin.first.streamed step plain called named with
  | ignored _ _ _ _ settled => exact (open_ settled).elim
  | invalid e _ bad same =>
    cases twin.second.streamed step' plain called' named with
    | ignored _ _ _ _ settled => exact (open_ settled).elim
    | invalid _ _ _ same' => exact ⟨r, same ▸ same' ▸ twin⟩
    | flow _ valid => cases (errors.trans bad).symm.trans valid
    | final _ valid => cases (errors.trans bad).symm.trans valid
    | accepted _ valid => cases (errors.trans bad).symm.trans valid
  | flow _ valid outcome =>
    cases twin.second.streamed step' plain called' named with
    | ignored _ _ _ _ settled => exact (open_ settled).elim
    | invalid e _ bad => cases (errors.trans valid).symm.trans bad
    | flow _ _ outcome' => exact ⟨r, twin.judged alike step step' named outcome outcome' twin.unreset alike.rxOffset⟩
    | final _ _ outcome' => cases agree outcome outcome'
    | accepted _ _ outcome' => cases agree outcome outcome'
  | final _ valid outcome =>
    cases twin.second.streamed step' plain called' named with
    | ignored _ _ _ _ settled => exact (open_ settled).elim
    | invalid e _ bad => cases (errors.trans valid).symm.trans bad
    | flow _ _ outcome' => cases agree outcome outcome'
    | final _ _ outcome' => exact ⟨r, twin.judged alike step step' named outcome outcome' twin.unreset counted⟩
    | accepted _ _ outcome' => cases agree outcome outcome'
  | accepted _ valid outcome =>
    cases twin.second.streamed step' plain called' named with
    | ignored _ _ _ _ settled => exact (open_ settled).elim
    | invalid e _ bad => cases (errors.trans valid).symm.trans bad
    | flow _ _ outcome' => cases agree outcome outcome'
    | final _ _ outcome' => cases agree outcome outcome'
    | accepted _ _ outcome' =>
      exact ⟨r.take fr, twin.judged alike step step' named outcome outcome' (Receiver.take_reset.trans twin.unreset)
        counted⟩

theorem stopSending {fr : StopSending} (twin : Twin s t id r) (plain : id ≠ 0) (step : Step t act t')
    (called : act.call = .frame (.stopSending fr)) (named : fr.streamId = id) (known : t.view.book.Taken id) :
    Twin s t' id r := by
  subst named
  have wire : fr.streamId < varintBound := by
    have wire := step.wire
    rw [called] at wire
    exact wire
  have spec := connRecvStopSending_spec act.app twin.second.ids plain wire twin.second.follows known
  rcases step.frame called spec with ⟨m, -, same | ⟨advance, offset⟩⟩ | ⟨e, -, alive, outside | ⟨-, same⟩⟩
  · exact same ▸ twin
  · refine ⟨twin.first, twin.second.next step advance.follows (advance.told twin.second.told), twin.unreset, ?_⟩
    rcases twin.alike with complete | alike
    · exact .inl complete
    rcases advance.limit with limit | settled
    · exact .inr ⟨limit.trans alike.limit, offset.trans alike.rxOffset, advance.maxRxOffset.trans alike.maxRxOffset,
        advance.server.trans alike.server, advance.maxRemoteStreamIdBidi.trans alike.maxRemoteStreamIdBidi⟩
    · exact .inl (Receiver.complete_of_settled settled twin.unreset)
  · simp [Err.outside_fatal outside] at alive
  · exact same ▸ twin

end Twin

end

theorem Step.connLocalStream {s t : Conn} {act : Act} (step : Step s act t) (role : s.Role) (id : Nat) :
    connLocalStream t id = connLocalStream s id := by
  have server : t.server = s.server := (step.reaches_any role).server
  unfold Ngtcp2.connLocalStream
  rw [server]

theorem map_call_concat {acts : List Act} {calls : List Call} {call : Call}
    (same : acts.map Act.call = calls ++ [call]) :
    ∃ earlier act, acts = earlier ++ [act] ∧ earlier.map Act.call = calls ∧ act.call = call := by
  obtain ⟨earlier, last, rfl, calls, one⟩ := List.map_eq_append_iff.mp same
  obtain ⟨act, rfl, called⟩ := List.map_eq_singleton_iff.mp one
  exact ⟨earlier, act, rfl, calls, called⟩

theorem Twin.run {s t c d : Conn} {id : Nat} {r : Receiver} {acts acts' : List Act} {frs : List StreamFrame}
    (twin : Twin s t id r) (plain : id ≠ 0) (bidi : bidiStream id = true) (remote : connLocalStream s id = false)
    (first : Run Step (fun c => c = s) acts c) (second : Run Step (fun c => c = t) acts' d)
    (calls : acts.map Act.call = streamCalls frs) (calls' : acts'.map Act.call = streamCalls frs)
    (named : ∀ fr ∈ frs, fr.streamId = id) :
    connLocalStream c id = false ∧ ∃ r', Twin c d id r' := by
  induction frs using List.reverseRecOn generalizing acts acts' c d with
  | nil =>
    obtain rfl : acts = [] := List.map_eq_nil_iff.mp calls
    obtain rfl : acts' = [] := List.map_eq_nil_iff.mp calls'
    rw [first.of_nil, second.of_nil]
    exact ⟨remote, r, twin⟩
  | append_singleton frs fr ih =>
    rw [streamCalls, List.map_append] at calls calls'
    obtain ⟨acts, act, rfl, calls, called⟩ := map_call_concat calls
    obtain ⟨acts', act', rfl, calls', called'⟩ := map_call_concat calls'
    obtain ⟨s', first, step⟩ := first.of_concat
    obtain ⟨t', second, step'⟩ := second.of_concat
    obtain ⟨theirs, r', twin⟩ := ih first second calls calls' fun fr member => named fr (List.mem_append_left _ member)
    refine ⟨(step.connLocalStream twin.first.role id).trans theirs, ?_⟩
    exact twin.stream plain bidi theirs step step' called called' (named fr (by simp))

/-- If the stream is known when STOP_SENDING comes, a run with it and one without it deliver the same bytes and
report the end equally often. -/
theorem stopSending_commutes {id : Nat} {before first second first' second' : List Act} {stop : Act}
    {s m c m' n' c' : Conn} {frs frs' : List StreamFrame} {fr : StopSending}
    (reached : Runs before s) (untouched : s.Untouched id) (bidi : bidiStream id = true)
    (remote : connLocalStream s id = false)
    (run : Run Step (fun d => d = s) first m) (rest : Run Step (fun d => d = m) second c)
    (run' : Run Step (fun d => d = s) first' m') (stopped : Step m' stop n')
    (rest' : Run Step (fun d => d = n') second' c')
    (calls : first.map Act.call = streamCalls frs) (calls' : first'.map Act.call = streamCalls frs)
    (later : second.map Act.call = streamCalls frs') (later' : second'.map Act.call = streamCalls frs')
    (called : stop.call = .frame (.stopSending fr)) (named : fr.streamId = id)
    (frames : ∀ fr ∈ frs ++ frs', fr.streamId = id) (known : m'.view.book.Taken id) :
    ((deliveries id c.log).map Prod.snd).flatten = ((deliveries id c'.log).map Prod.snd).flatten ∧
    ((deliveries id c.log).map Prod.fst).count true = ((deliveries id c'.log).map Prod.fst).count true := by
  have tracks := untouched.tracks reached
  have start : Twin s s id .new := ⟨tracks, tracks, rfl, .inr ⟨rfl, rfl, rfl, rfl, rfl⟩⟩
  obtain ⟨remote, r, middle⟩ := start.run untouched.plain bidi remote run run' calls calls'
    fun fr member => frames fr (List.mem_append_left _ member)
  have middle := middle.stopSending untouched.plain stopped called named known
  obtain ⟨-, r, final⟩ := middle.run untouched.plain bidi remote rest rest' later later'
    fun fr member => frames fr (List.mem_append_right _ member)
  refine ⟨final.first.told.text.trans final.second.told.text.symm, ?_⟩
  rw [final.first.told.count, final.second.told.count]

def firstHalf : List StreamFrame := [{ fin := false, streamId := 4, offset := 0, data := [1, 2] }]

def secondHalf : List StreamFrame := [{ fin := true, streamId := 4, offset := 2, data := [3, 4, 5] }]

def quietly (calls : List Call) : List (App × Call) := calls.map fun call => (.quiet, call)

def stopFour : Act where
  app := .quiet
  call := .frame (.stopSending { streamId := 4, appErrorCode := 0 })
  result := .ok 0

def halfServer : Conn := openServer.play (quietly (streamCalls firstHalf))

def stoppedServer : Conn := (stopFour.call.exec .quiet halfServer).2

theorem stopSending_commutes_halves :
    let c := halfServer.play (quietly (streamCalls secondHalf))
    let c' := stoppedServer.play (quietly (streamCalls secondHalf))
    ((deliveries 4 c.log).map Prod.snd).flatten = [1, 2, 3, 4, 5] ∧
    ((deliveries 4 c.log).map Prod.snd).flatten = ((deliveries 4 c'.log).map Prod.snd).flatten := by
  have run := openServer.played (quietly (streamCalls firstHalf)) (by decide)
  have rest := halfServer.played (quietly (streamCalls secondHalf)) (by decide)
  have stopped : Step halfServer stopFour stoppedServer := ⟨rfl, nofun, by decide⟩
  have rest' := stoppedServer.played (quietly (streamCalls secondHalf)) (by decide)
  have known : halfServer.view.book.Taken 4 := by
    have ids := (Runs.play openServer_runs (quietly (streamCalls firstHalf)) (by decide)).ids
    exact ids.taken (Conn.view_strms rfl)
  have calls : (openServer.acts (quietly (streamCalls firstHalf))).map Act.call = streamCalls firstHalf := rfl
  have later : (halfServer.acts (quietly (streamCalls secondHalf))).map Act.call = streamCalls secondHalf := rfl
  have later' : (stoppedServer.acts (quietly (streamCalls secondHalf))).map Act.call = streamCalls secondHalf := rfl
  have called : stopFour.call = .frame (.stopSending { streamId := 4, appErrorCode := 0 }) := rfl
  exact ⟨by decide, (stopSending_commutes openServer_runs openServer_untouched rfl rfl run rest run stopped rest' calls
    calls later later' called rfl (by decide) known).1⟩

def refusedServer : Conn := (stopFour.call.exec .quiet openServer).2

-- STOP_SENDING that overtakes the first frame
theorem stopSending_loses :
    ∃ before s acts acts' stop n c c' frs fr, Runs before s ∧ s.Untouched 4 ∧ 4 ≤ s.maxRemoteStreamIdBidi ∧
      connLocalStream s 4 = false ∧ Run Step (fun d => d = s) acts c ∧ Step s stop n ∧
      Run Step (fun d => d = n) acts' c' ∧ acts.map Act.call = streamCalls frs ∧ acts'.map Act.call = streamCalls frs ∧
      stop.call = .frame (.stopSending fr) ∧ fr.streamId = 4 ∧ (∀ fr ∈ frs, fr.streamId = 4) ∧
      ((deliveries 4 c.log).map Prod.snd).flatten = [1, 2] ∧ deliveries 4 c'.log = [] := by
  have stopped : Step openServer stopFour refusedServer := ⟨rfl, nofun, by decide⟩
  exact ⟨_, openServer, _, _, stopFour, refusedServer, _, _, firstHalf, _, openServer_runs, openServer_untouched,
    by decide, rfl, openServer.played (quietly (streamCalls firstHalf)) (by decide), stopped,
    refusedServer.played (quietly (streamCalls firstHalf)) (by decide), rfl, rfl, rfl, rfl, by decide, by decide,
    by decide⟩

end Ngtcp2
