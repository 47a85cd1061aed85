import Ngtcp2.Receive.Ending
import Ngtcp2.Invariant.RxFlow

/-!
# A peer that keeps to the limits

After RST_STREAM ahead of the data, RST_STREAM once more, FIN and data that goes on from the old end are turned
away.
-/

namespace Ngtcp2

open Prog

def reach (frs : List StreamFrame) : Nat := frs.foldl (fun n fr => max n fr.endOffset) 0

theorem reach_concat (frs : List StreamFrame) (fr : StreamFrame) :
    reach (frs ++ [fr]) = max (reach frs) fr.endOffset := by
  simp [reach]

/-- A call that brings what such a peer sends on a stream, extends the window of the stream or does not
touch it. -/
inductive Conforms (s : Conn) (id final : Nat) : Call → Prop
  | stream (fr : StreamFrame) (named : fr.streamId = id) (within : fr.endOffset ≤ final)
    (end_ : fr.fin = true → fr.endOffset = final) (some : fr.fin = true ∨ fr.data ≠ [])
    (allowed : streamIdError s id = none) (window : fr.endOffset ≤ s.limit id)
    (total : Ledger.total (claims s.log ++ [(id, fr.endOffset)]) ≤ s.maxRxOffset) :
    Conforms s id final (.frame (.stream fr))
  | reset (fr : RstStream) (named : fr.streamId = id) (end_ : fr.finalOffset = final)
    (allowed : streamIdError s id = none) (window : fr.finalOffset ≤ s.limit id)
    (total : Ledger.total (claims s.log ++ [(id, fr.finalOffset)]) ≤ s.maxRxOffset) :
    Conforms s id final (.frame (.rstStream fr))
  | extend (n : UInt64) : Conforms s id final (.extendMaxStreamOffset id n)
  | apart (call : Call) (apart : ¬ call.Touches id) : Conforms s id final call

structure ConformingStep (id final : Nat) (s : Conn) (act : Act) (t : Conn) : Prop where
  step : Step s act t
  conforms : Conforms s id final act.call

/-- After RST_STREAM, either the data has come up to the final offset, or only data comes of which the
end has come before. -/
def NotAhead (id final : Nat) (before : List Act) (call : Call) : Prop :=
  resetFrames id before ≠ [] → reach (streamFrames id before) = final ∨
    (∀ fr, call = .frame (.rstStream fr) → fr.streamId ≠ id) ∧
    ∀ fr, call = .frame (.stream fr) → fr.streamId = id →
      fr.fin = false ∧ fr.endOffset ≤ reach (streamFrames id before)

section

variable {id final : Nat} {acts : List Act} {act : Act} {r : Receiver} {fr : StreamFrame} {s c : Conn}

structure Receiver.Level (r : Receiver) (final id : Nat) (acts : List Act) : Prop where
  last : r.last = reach (streamFrames id acts)
  below : r.last ≤ final
  shut : r.shut = true → resetFrames id acts ≠ [] ∨ r.last = final

namespace Receiver.Level

theorem new : Receiver.new.Level final id [] := ⟨rfl, Nat.zero_le _, nofun⟩

theorem old (level : r.Level final id acts) (shut : r.shut = true) (named : fr.streamId = id)
    (within : fr.endOffset ≤ final) (inTime : NotAhead id final acts (.frame (.stream fr))) :
    fr.endOffset ≤ r.last := by
  rcases level.shut shut with reset | known
  · rcases inTime reset with reached | ⟨-, old⟩
    · rw [level.last, reached]
      exact within
    · rw [level.last]
      exact (old fr rfl named).2
  · rwa [known]

theorem agrees (level : r.Level final id acts) (named : fr.streamId = id) (within : fr.endOffset ≤ final)
    (end_ : fr.fin = true → fr.endOffset = final) (inTime : NotAhead id final acts (.frame (.stream fr))) :
    r.refuses fr = false := by
  have old (shut : r.shut = true) := level.old shut named within inTime
  have below := level.below
  unfold Receiver.refuses
  cases fin : fr.fin with
  | true =>
    have known := end_ fin
    cases shut : r.shut with
    | true =>
      have old := old shut
      simp
      omega
    | false =>
      simp
      omega
  | false =>
    cases shut : r.shut with
    | true => simpa using old shut
    | false => rfl

theorem take (level : r.Level final id acts) (called : act.call = .frame (.stream fr)) (named : fr.streamId = id)
    (within : fr.endOffset ≤ final) (end_ : fr.fin = true → fr.endOffset = final)
    (agreed : r.refuses fr = false) : (r.take fr).Level final id (acts ++ [act]) := by
  have frames : streamFrames id (acts ++ [act]) = streamFrames id acts ++ [fr] := by
    rw [streamFrames_concat, streamFrames_one called named]
  have resets (before : resetFrames id acts ≠ []) : resetFrames id (acts ++ [act]) ≠ [] := by
    simp [resetFrames_concat, before]
  have last : (r.take fr).last = max r.last fr.endOffset := by
    unfold Receiver.take
    split
    next known =>
      have both : fr.fin = true ∧ r.shut = true := by simpa [agreed] using known
      have same : r.last = fr.endOffset := by simpa [Receiver.refuses, both] using agreed
      omega
    next => rfl
  have below := level.below
  refine ⟨?_, by omega, fun shut => ?_⟩
  · rw [frames, reach_concat, last, level.last]
  · rw [last]
    cases fin : fr.fin with
    | true =>
      have known := end_ fin
      right
      omega
    | false =>
      have before : r.shut = true := by
        rw [Receiver.take_plain fin agreed] at shut
        simpa [Receiver.accept, fin] using shut
      rcases level.shut before with reset | known
      · exact .inl (resets reset)
      · right
        omega

theorem reset {fr : RstStream} (level : r.Level final id acts) (called : act.call = .frame (.rstStream fr))
    (named : fr.streamId = id) : r.resetBy.Level final id (acts ++ [act]) where
  last := by
    rw [streamFrames_concat, show streamFrames id [act] = [] by simp [streamFrames, called], List.append_nil]
    exact level.last
  below := level.below
  shut _ := by
    left
    simp [resetFrames, called, named]

theorem other (level : r.Level final id acts) (none : streamFrames id [act] = []) : r.Level final id (acts ++ [act]) where
  last := by
    rw [streamFrames_concat, none, List.append_nil]
    exact level.last
  below := level.below
  shut shut := by
    rcases level.shut shut with reset | known
    · exact .inl (by simp [resetFrames_concat, reset])
    · exact .inr known

end Receiver.Level

theorem View.RxOk.charge (ok : c.view.RxOk) (plain : id ≠ 0) (follows : c.view.Follows id r)
    (here : ¬ c.view.Gone id) (open_ : r.shut = false) : Ledger.highest (claims c.log) id = r.last := by
  rw [← c.claims_view]
  cases follows with
  | unseen _ free => exact Ledger.highest_absent fun known => free (ok.known id known)
  | gone absent taken => exact absurd ⟨absent, taken⟩ here
  | held side now represents =>
    obtain ⟨strm, found, rfl⟩ := Option.map_eq_some_iff.mp now
    have charged := ok.charged id strm found plain
    have shut : strm.shutRd = false := represents.shut.trans open_
    exact (charged.exact_ shut).symm.trans represents.last

theorem View.RxOk.fits {n : Nat} (ok : c.view.RxOk) (charge : Ledger.highest (claims c.log) id = r.last)
    (total : Ledger.total (claims c.log ++ [(id, n)]) ≤ c.maxRxOffset) :
    connMaxDataViolated c (n - r.last) = false := by
  have sum := Ledger.total_concat (claims c.log) id n
  have counted : c.rxOffset = Ledger.total (claims c.log) := by
    rw [← c.claims_view]
    exact ok.total
  have left : sub64 c.maxRxOffset c.rxOffset = c.maxRxOffset - c.rxOffset := ok.sub
  have within : c.rxOffset ≤ c.maxRxOffset := ok.within
  unfold connMaxDataViolated
  rw [left, decide_eq_false_iff_not]
  omega

theorem Receiver.Level.accepts (level : r.Level final id acts) (ok : c.view.RxOk) (plain : id ≠ 0)
    (follows : c.view.Follows id r) (here : ¬ c.view.Gone id) (named : fr.streamId = id)
    (within : fr.endOffset ≤ final) (end_ : fr.fin = true → fr.endOffset = final)
    (window : fr.endOffset ≤ c.limit id)
    (total : Ledger.total (claims c.log ++ [(id, fr.endOffset)]) ≤ c.maxRxOffset)
    (inTime : NotAhead id final acts (.frame (.stream fr))) :
    r.verdict (c.limit fr.streamId) c fr = .accepted := by
  have agreed := level.agrees named within end_ inTime
  have room : ¬ (c.limit fr.streamId < fr.endOffset ∨
      (r.last < fr.endOffset ∧ connMaxDataViolated c (fr.endOffset - r.last) = true)) := by
    rintro (beyond | ⟨new, violated⟩)
    · rw [named] at beyond
      omega
    · have open_ : r.shut = false := by
        by_contra shut
        have old := level.old (by simpa using shut) named within inTime
        omega
      rw [ok.fits (ok.charge plain follows here open_) total] at violated
      cases violated
  unfold Receiver.verdict
  rw [if_neg room, agreed]
  rfl

theorem recvStreamError_conforming (receives : c.view.Receives id) (plain : id ≠ 0) (named : fr.streamId = id)
    (bound : final ≤ maxVarint) (within : fr.endOffset ≤ final) (some : fr.fin = true ∨ fr.data ≠ [])
    (allowed : streamIdError c id = none) : recvStreamError c fr = none := by
  have filled : ¬ (¬ fr.fin = true ∧ fr.datalen = 0) := by
    rintro ⟨plain, empty⟩
    exact some.resolve_left plain (List.length_eq_zero_iff.mp empty)
  have ours : ¬ (¬ bidiStream fr.streamId = true ∧ connLocalStream c fr.streamId = true ∧ fr.endOffset ≠ 0) := by
    rintro ⟨uni, ours, -⟩
    rw [named] at uni ours
    exact uni (receives ours)
  have offset : ¬ maxVarint - fr.datalen < fr.offset := by
    unfold StreamFrame.endOffset at within
    omega
  unfold recvStreamError
  rw [if_neg fun zero => plain (named ▸ zero.1), if_neg filled, named, allowed]
  dsimp only
  rw [← named, if_neg ours, if_neg offset]

theorem Receiver.Level.resets {fr : RstStream} (level : r.Level final id acts) (ok : c.view.RxOk) (plain : id ≠ 0)
    (follows : c.view.Follows id r) (here : ¬ c.view.Gone id) (named : fr.streamId = id) (end_ : fr.finalOffset = final)
    (window : fr.finalOffset ≤ c.limit id)
    (total : Ledger.total (claims c.log ++ [(id, fr.finalOffset)]) ≤ c.maxRxOffset)
    (inTime : NotAhead id final acts (.frame (.rstStream fr))) :
    r.refusesReset fr.finalOffset = false ∧ ¬ r.resetExceeds c fr := by
  have below := level.below
  have known (shut : r.shut = true) : r.last = final := by
    rcases level.shut shut with reset | known
    · rcases inTime reset with reached | ⟨other, -⟩
      · exact level.last.trans reached
      · exact absurd named (other fr rfl)
    · exact known
  constructor
  · unfold Receiver.refusesReset
    cases shut : r.shut with
    | true => simp [known shut, end_]
    | false =>
      simp
      omega
  · rintro (beyond | violated)
    · rw [named] at beyond
      omega
    · cases shut : r.shut with
      | true =>
        rw [known shut, end_, Nat.sub_self] at violated
        simp [connMaxDataViolated] at violated
      | false =>
        rw [ok.fits (ok.charge plain follows here shut) total] at violated
        cases violated

end

structure Conn.Keeps (c : Conn) (id final : Nat) (acts : List Act) (r : Receiver) : Prop where
  tracks : c.Tracks id r
  level : c.view.Gone id ∨ r.Level final id acts

section

variable {id final : Nat} {acts : List Act} {act : Act} {r : Receiver} {s t c : Conn}

theorem Conn.Keeps.accepts (app : App) {fr : Frame} (keeps : c.Keeps id final acts r) (ok : c.view.RxOk)
    (plain : id ≠ 0) (bound : final ≤ maxVarint) (touches : Call.Touches (.frame fr) id) (wire : fr.WireOk)
    (conforms : Conforms c id final (.frame fr)) (inTime : NotAhead id final acts (.frame fr)) :
    wp (recvFrame app fr) (fun _ _ => True) (fun e _ => e.outside = true) c := by
  obtain ⟨tracks, level⟩ := keeps
  cases conforms with
  | apart _ apart => exact absurd touches apart
  | stream fr named within end_ some allowed window total =>
    subst named
    have valid := recvStreamError_conforming tracks.receives plain rfl bound within some allowed
    refine wp_mono (connRecvStream_spec app tracks.ids plain wire tracks.follows) (fun _ _ _ => trivial) ?_
    rintro e t (outside | ⟨bad, -⟩ | ⟨-, ⟨rfl, outcome⟩ | ⟨rfl, outcome⟩⟩)
    · exact outside
    · cases valid.symm.trans bad
    · have level := level.resolve_left outcome.here
      have judged := level.accepts ok plain tracks.follows outcome.here rfl within end_ window total inTime
      cases judged.symm.trans outcome.judged
    · have level := level.resolve_left outcome.here
      have judged := level.accepts ok plain tracks.follows outcome.here rfl within end_ window total inTime
      cases judged.symm.trans outcome.judged
  | reset fr named end_ allowed window total =>
    subst named
    refine wp_mono (connRecvRstStream_spec app tracks.ids plain wire tracks.receives tracks.follows)
      (fun _ _ _ => trivial) ?_
    rintro e t (outside | bad | ⟨here, refused⟩)
    · exact outside
    · cases allowed.symm.trans bad
    · have level := level.resolve_left here
      obtain ⟨agreed, fits⟩ := level.resets ok plain tracks.follows here rfl end_ window total inTime
      rcases refused with ⟨-, refused⟩ | ⟨-, exceeds⟩
      · cases agreed.symm.trans refused
      · exact absurd exceeds fits

theorem Conn.Keeps.step (keeps : s.Keeps id final acts r) (ok : s.view.RxOk) (plain : id ≠ 0)
    (bound : final ≤ maxVarint) (step : ConformingStep id final s act t) (inTime : NotAhead id final acts act.call) :
    ∃ r', t.Keeps id final (acts ++ [act]) r' := by
  obtain ⟨step, conforms⟩ := step
  have gone : s.view.Gone id → t.view.Gone id := step.gone keeps.tracks.role keeps.tracks.ids plain
  have taken {fr : Frame} (called : act.call = .frame fr) (touches : Call.Touches (.frame fr) id) :
      ∃ n, act.result = .ok n := by
    have wire : fr.WireOk := by
      have wire := step.wire
      rwa [called] at wire
    rw [called] at conforms inTime
    have spec := keeps.accepts act.app ok plain bound touches wire conforms inTime
    rcases step.frame called spec with ⟨n, ok, -⟩ | ⟨e, -, alive, outside⟩
    · exact ⟨n, ok⟩
    · simp [Err.outside_fatal outside] at alive
  obtain ⟨tracks, level⟩ := keeps
  generalize called : act.call = call at conforms
  cases conforms with
  | extend n =>
    exact ⟨r, tracks.extend step called, level.imp gone fun level => level.other (by simp [streamFrames, called])⟩
  | apart _ apart =>
    rw [← called] at apart
    exact ⟨r, tracks.apart step plain apart, level.imp gone fun level => level.other (streamFrames_apart apart)⟩
  | stream fr named within end_ some allowed window total =>
    obtain ⟨n, result⟩ := taken called (.inl named.symm)
    rcases tracks.stream step plain called named result with ⟨rfl, closed, -⟩ | ⟨tracks, outcome⟩
    · exact ⟨r, tracks, .inl closed⟩
    · have level := level.resolve_left (named ▸ outcome.here)
      exact ⟨r.take fr, tracks, .inr (level.take called named within end_ outcome.agreed)⟩
  | reset fr named end_ allowed window total =>
    obtain ⟨n, result⟩ := taken called (.inl named.symm)
    rcases tracks.reset step plain called named result with ⟨rfl, closed, -⟩ | ⟨tracks, outcome⟩
    · exact ⟨r, tracks, .inl closed⟩
    · exact ⟨r.resetBy, tracks, level.imp gone fun level => level.reset called named⟩

end

/-- What a peer sends up to `final` within the windows is accepted unless the application or the memory fails,
as long as nothing new comes after RST_STREAM ahead of the data. -/
theorem conforming_accepted {id final : Nat} {before acts : List Act} {s c : Conn} (reached : Runs before s)
    (untouched : s.Untouched id) (bound : final ≤ maxVarint)
    (run : Run (ConformingStep id final) (fun d => d = s) acts c)
    (exact_ : ∀ act ∈ before ++ acts, ¬ act.call.wraps) (accepted : Marked Mark.Accepted c.log)
    (inTime : Each (fun before act => NotAhead id final before act.call) acts) (app : App) {fr : Frame}
    (touches : Call.Touches (.frame fr) id) (wire : fr.WireOk) (conforms : Conforms c id final (.frame fr))
    (now : NotAhead id final acts (.frame fr)) :
    (∃ t, Call.exec app (.frame fr) c = (.ok 0, t)) ∨
      ∃ e t, Call.exec app (.frame fr) c = (.error e, t) ∧ e.outside = true := by
  have marked : Marked Mark.Accepted c.view.log := fun m member => accepted m ((Conn.mem_log rfl).mp member)
  have invariant : Runs (before ++ acts) c ∧ ((∀ act ∈ before ++ acts, ¬ act.call.wraps) →
      Marked Mark.Accepted c.view.log → ∃ r, c.Keeps id final acts r) := by
    refine run.invariant_each (P := fun acts c => Runs (before ++ acts) c ∧
      ((∀ act ∈ before ++ acts, ¬ act.call.wraps) → Marked Mark.Accepted c.view.log →
        ∃ r, c.Keeps id final acts r)) inTime ?_ ?_
    · rintro c rfl
      rw [List.append_nil]
      exact ⟨reached, fun _ _ => ⟨.new, untouched.tracks reached, .inr .new⟩⟩
    · rintro acts s act t ⟨reached, keeps⟩ inTime step
      rw [← List.append_assoc]
      refine ⟨.next reached step.step, fun exact_ marked => ?_⟩
      have exact_ : ∀ act ∈ before ++ acts, ¬ act.call.wraps :=
        fun act member => exact_ act (List.mem_append_left _ member)
      have marked := Marked.earlier (step.step.reaches_any (Runs.role reached)).log_extends marked
      obtain ⟨r, keeps⟩ := keeps exact_ marked
      exact keeps.step (Runs.rxOk reached exact_ marked).2 untouched.plain bound step inTime
  obtain ⟨reached, keeps⟩ := invariant
  obtain ⟨r, keeps⟩ := keeps exact_ marked
  have spec := keeps.accepts app (Runs.rxOk reached exact_ marked).2 untouched.plain bound touches wire conforms now
  have whole : wp (Call.exec app (.frame fr)) (fun n _ => n = 0) (fun e _ => e.outside = true) c := by
    change wp (returns0 (recvFrame app fr)) _ _ c
    unfold returns0
    rw [wp_bind]
    exact wp_mono spec (fun _ _ _ => rfl) fun _ _ outside => outside
  have split : Call.exec app (.frame fr) c = ((Call.exec app (.frame fr) c).1, (Call.exec app (.frame fr) c).2) := rfl
  cases result : (Call.exec app (.frame fr) c).1 with
  | ok n =>
    rw [result] at split
    obtain rfl := wp_ok whole split
    exact .inl ⟨_, split⟩
  | error e =>
    rw [result] at split
    have outside := wp_error whole split
    exact .inr ⟨e, _, split, outside⟩

def resetFive : RstStream := { streamId := 4, appErrorCode := 0, finalOffset := 5 }

def lastThree : StreamFrame := { fin := false, streamId := 4, offset := 2, data := [3, 4, 5] }

def firstTwo : StreamFrame := { fin := false, streamId := 4, offset := 0, data := [1, 2] }

-- the last bytes come before the first, with RST_STREAM between them
def resetLevel : List (App × Call) := [(.quiet, .frame (.stream lastThree)), (.quiet, .frame (.rstStream resetFive))]

theorem conforming_accepted_resetLevel :
    (resetFrames 4 (openServer.acts resetLevel)).length = 1 ∧
    ((∃ t, Call.exec .quiet (.frame (.stream firstTwo)) (openServer.play resetLevel) = (.ok 0, t)) ∨
      ∃ e t, Call.exec .quiet (.frame (.stream firstTwo)) (openServer.play resetLevel) = (.error e, t) ∧
        e.outside = true) := by
  have run : Run (ConformingStep 4 5) (fun d => d = openServer) (openServer.acts resetLevel)
      (openServer.play resetLevel) := by
    have first : Conforms openServer 4 5 (.frame (.stream lastThree)) :=
      .stream _ rfl (by decide) (by decide) (by decide) (by decide) (by decide) (by decide)
    have second : Conforms (openServer.play [(.quiet, .frame (.stream lastThree))]) 4 5 (.frame (.rstStream resetFive)) :=
      .reset _ rfl (by decide) (by decide) (by decide) (by decide)
    have step : ConformingStep 4 5 openServer ⟨.quiet, .frame (.stream lastThree), .ok 0⟩
        (openServer.play [(.quiet, .frame (.stream lastThree))]) := ⟨⟨rfl, nofun, by decide⟩, first⟩
    have step' : ConformingStep 4 5 (openServer.play [(.quiet, .frame (.stream lastThree))])
        ⟨.quiet, .frame (.rstStream resetFive), .ok 0⟩ (openServer.play resetLevel) :=
      ⟨⟨rfl, nofun, by decide⟩, second⟩
    have start : Run (ConformingStep 4 5) (fun d => d = openServer) [] openServer := .start rfl
    exact .next (.next start step) step'
  have inTime : Each (fun before act => NotAhead 4 5 before act.call) (openServer.acts resetLevel) := by
    rw [show openServer.acts resetLevel = [] ++ [_] ++ [_] from rfl, Each.concat, Each.concat]
    exact ⟨⟨.nil, fun reset => absurd rfl reset⟩, fun reset => absurd rfl reset⟩
  have conforms : Conforms (openServer.play resetLevel) 4 5 (.frame (.stream firstTwo)) :=
    .stream _ rfl (by decide) (by decide) (by decide) (by decide) (by decide) (by decide)
  exact ⟨by decide, conforming_accepted openServer_runs openServer_untouched (by decide) run (by decide) (by decide)
    inTime .quiet (.inl rfl) (by decide) conforms fun _ => .inl (by decide)⟩

-- RST_STREAM is ahead of the data and comes twice
def resetAhead : List (App × Call) := [(.quiet, .frame (.stream firstTwo)), (.quiet, .frame (.rstStream resetFive))]

theorem conforming_rejected :
    ∃ before acts s c fr, Runs before s ∧ s.Untouched 4 ∧ Run (ConformingStep 4 5) (fun d => d = s) acts c ∧
      (∀ act ∈ before ++ acts, ¬ act.call.wraps) ∧ Marked Mark.Accepted c.log ∧
      Conforms c 4 5 (.frame fr) ∧ (Call.exec .quiet (.frame fr) c).1 = .error .FINAL_OFFSET := by
  have first : Conforms openServer 4 5 (.frame (.stream firstTwo)) :=
    .stream _ rfl (by decide) (by decide) (by decide) (by decide) (by decide) (by decide)
  have second : Conforms (openServer.play [(.quiet, .frame (.stream firstTwo))]) 4 5 (.frame (.rstStream resetFive)) :=
    .reset _ rfl (by decide) (by decide) (by decide) (by decide)
  have third : Conforms (openServer.play resetAhead) 4 5 (.frame (.rstStream resetFive)) :=
    .reset _ rfl (by decide) (by decide) (by decide) (by decide)
  have step : ConformingStep 4 5 openServer ⟨.quiet, .frame (.stream firstTwo), .ok 0⟩
      (openServer.play [(.quiet, .frame (.stream firstTwo))]) := ⟨⟨rfl, nofun, by decide⟩, first⟩
  have step' : ConformingStep 4 5 (openServer.play [(.quiet, .frame (.stream firstTwo))])
      ⟨.quiet, .frame (.rstStream resetFive), .ok 0⟩ (openServer.play resetAhead) := ⟨⟨rfl, nofun, by decide⟩, second⟩
  have start : Run (ConformingStep 4 5) (fun d => d = openServer) [] openServer := .start rfl
  have run : Run (ConformingStep 4 5) (fun d => d = openServer) (openServer.acts resetAhead)
      (openServer.play resetAhead) := .next (.next start step) step'
  exact ⟨_, openServer.acts resetAhead, openServer, openServer.play resetAhead, .rstStream resetFive, openServer_runs,
    openServer_untouched, run, by decide, by decide, third, by decide⟩

end Ngtcp2
