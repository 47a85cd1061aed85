import Ngtcp2.Receive.Deliver

/-!
# The end of a stream

RST_STREAM shuts the receive side as well, but does not say that the last byte that has come is the last one
there is.
-/

namespace Ngtcp2

open Prog

def resetFrames (id : Nat) (acts : List Act) : List RstStream :=
  acts.filterMap fun act =>
    match act.call with
    | .frame (.rstStream fr) => if fr.streamId = id then some fr else none
    | _ => none

/-- What the peer sends on a stream is accepted, its window is extended, or something is done that does
not touch it. -/
inductive Act.Accepts (id : Nat) (act : Act) : Prop
  | stream (fr : StreamFrame) (called : act.call = .frame (.stream fr)) (named : fr.streamId = id)
    (taken : ∃ n, act.result = .ok n)
  | reset (fr : RstStream) (called : act.call = .frame (.rstStream fr)) (named : fr.streamId = id)
    (taken : ∃ n, act.result = .ok n)
  | extend (n : UInt64) (called : act.call = .extendMaxStreamOffset id n)
  | apart (apart : ¬ act.call.Touches id)

def Gapless (frs : List StreamFrame) : Prop := ∀ fr ∈ frs, ∀ o, o < fr.endOffset → Covered frs o

def FilledInTime (id : Nat) (before : List Act) (act : Act) : Prop :=
  ∀ fr, act.call = .frame (.stream fr) → fr.streamId = id → fr.fin = false → resetFrames id before ≠ [] →
    (∀ fr' ∈ streamFrames id before, fr'.fin = false) → Gapless (streamFrames id before ++ [fr]) →
      Gapless (streamFrames id before)

section

variable {id : Nat} {frs : List StreamFrame} {fr : StreamFrame} {r : Receiver} {acts : List Act}

namespace Receiver

theorem take_plain (plain : fr.fin = false) (agreed : r.refuses fr = false) : r.take fr = r.accept fr := by
  simp [Receiver.take, plain, agreed]

theorem accept_last (plain : fr.fin = false) (agreed : r.refuses fr = false) (shut : r.shut = true) :
    (r.accept fr).last = r.last := by
  have within : fr.endOffset ≤ r.last := by simpa [Receiver.refuses, plain, shut] using agreed
  exact Nat.max_eq_left within

end Receiver

structure Receiver.Saw (r : Receiver) (frs : List StreamFrame) : Prop where
  running : r.stopped = false
  ends : ∀ fr ∈ frs, fr.fin = true → r.shut = true ∧ fr.endOffset = r.last
  covers : (∀ fr ∈ frs, fr.fin = false) → ∀ o, (r.data.cell o).isSome = true ↔ Covered frs o
  reach : (∀ fr ∈ frs, fr.fin = false) → ∀ o, o < r.last ↔ ∃ fr ∈ frs, o < fr.endOffset

namespace Receiver.Saw

theorem new : Receiver.new.Saw [] where
  running := rfl
  ends := nofun
  covers _ o := by simp [Receiver.new, Assembly.empty, Covered]
  reach _ o := by simp [Receiver.new]

theorem resetBy (saw : r.Saw frs) : r.resetBy.Saw frs where
  running := saw.running
  ends fr member fin := ⟨rfl, (saw.ends fr member fin).2⟩
  covers := saw.covers
  reach := saw.reach

theorem take (saw : r.Saw frs) (agreed : r.refuses fr = false) : (r.take fr).Saw (frs ++ [fr]) := by
  cases fin : fr.fin with
  | false =>
    rw [Receiver.take_plain fin agreed]
    have earlier (plain : ∀ fr' ∈ frs ++ [fr], fr'.fin = false) : ∀ fr' ∈ frs, fr'.fin = false :=
      fun fr' member => plain fr' (List.mem_append_left _ member)
    refine ⟨saw.running, fun fr' member now => ?_, fun plain o => ?_, fun plain o => ?_⟩
    · have before : fr' ∈ frs := by
        rcases List.mem_append.mp member with before | last
        · exact before
        · obtain rfl := List.mem_singleton.mp last
          simp [fin] at now
      obtain ⟨shut, known⟩ := saw.ends fr' before now
      refine ⟨?_, known.trans (Receiver.accept_last fin agreed shut).symm⟩
      change (r.shut || fr.fin) = true
      simp [shut]
    · have data : (r.accept fr).data = r.data.put fr.offset fr.data := by
        simp [Receiver.accept, Receiver.dataAfter, saw.running]
      rw [data, Assembly.put_cell_isSome, saw.covers (earlier plain), covered_concat]
      rfl
    · change o < max r.last fr.endOffset ↔ _
      rw [lt_max_iff, saw.reach (earlier plain)]
      simp [or_and_right, exists_or]
  | true =>
    -- nothing is said of the bytes once FIN has come
    have late {P : Prop} (plain : ∀ fr' ∈ frs ++ [fr], fr'.fin = false) : P := by
      have plain := plain fr (by simp)
      simp [fin] at plain
    cases shut : r.shut with
    | true =>
      have same : r.take fr = r := by simp [Receiver.take, fin, shut]
      have known : r.last = fr.endOffset := by simpa [Receiver.refuses, fin, shut] using agreed
      rw [same]
      refine ⟨saw.running, fun fr' member now => ?_, late, late⟩
      rcases List.mem_append.mp member with before | last
      · exact saw.ends fr' before now
      · obtain rfl := List.mem_singleton.mp last
        exact ⟨shut, known.symm⟩
    | false =>
      have same : r.take fr = r.accept fr := by simp [Receiver.take, agreed, shut]
      have beyond : r.last ≤ fr.endOffset := by simpa [Receiver.refuses, fin, shut] using agreed
      rw [same]
      refine ⟨saw.running, fun fr' member now => ?_, late, late⟩
      rcases List.mem_append.mp member with before | last
      · have known := (saw.ends fr' before now).1
        simp [shut] at known
      · obtain rfl := List.mem_singleton.mp last
        refine ⟨?_, (Nat.max_eq_right beyond).symm⟩
        change (r.shut || fr'.fin) = true
        simp [now]

theorem gapless (saw : r.Saw frs) (plain : ∀ fr ∈ frs, fr.fin = false) :
    r.data.front = r.last ↔ Gapless frs := by
  constructor
  · intro complete fr member o below
    have within := (saw.reach plain o).mpr ⟨fr, member, below⟩
    exact (saw.covers plain o).mp (Assembly.cell_below (complete ▸ within))
  · intro gapless
    by_contra open_
    have below : r.data.front < r.last := Nat.lt_of_le_of_ne r.front_le open_
    obtain ⟨fr, member, inside⟩ := (saw.reach plain _).mp below
    have held := (saw.covers plain _).mpr (gapless fr member _ inside)
    rw [Assembly.cell_front] at held
    cases held

end Receiver.Saw

theorem resetFrames_concat (act : Act) :
    resetFrames id (acts ++ [act]) = resetFrames id acts ++ resetFrames id [act] := by
  simp [resetFrames]

structure Receiver.Ends (r : Receiver) (id : Nat) (acts : List Act) : Prop where
  known : r.shut = true → resetFrames id acts ≠ [] ∨
    ∃ fr ∈ streamFrames id acts, fr.fin = true ∧ fr.endOffset = r.last
  told : r.done = true → ∃ fr ∈ streamFrames id acts, fr.fin = true ∧ fr.endOffset = r.last

namespace Receiver.Ends

theorem later (ends : r.Ends id acts) (act : Act) : r.Ends id (acts ++ [act]) where
  known shut := by
    rw [resetFrames_concat, streamFrames_concat]
    rcases ends.known shut with reset | ⟨fr, member, fin⟩
    · exact .inl (by simp [reset])
    · exact .inr ⟨fr, List.mem_append_left _ member, fin⟩
  told done := by
    rw [streamFrames_concat]
    obtain ⟨fr, member, fin⟩ := ends.told done
    exact ⟨fr, List.mem_append_left _ member, fin⟩

theorem reset {fr : RstStream} {act : Act} (ends : r.Ends id acts) (called : act.call = .frame (.rstStream fr))
    (named : fr.streamId = id) : r.resetBy.Ends id (acts ++ [act]) where
  known _ := by
    rw [resetFrames_concat]
    exact .inl (by simp [resetFrames, called, named])
  told done := (ends.later act).told done

theorem take {act : Act} (ends : r.Ends id acts) (saw : r.Saw (streamFrames id acts))
    (agreed : r.refuses fr = false) (called : act.call = .frame (.stream fr)) (named : fr.streamId = id)
    (filled : FilledInTime id acts act) : (r.take fr).Ends id (acts ++ [act]) := by
  have saw' := saw.take agreed
  have frames : streamFrames id (acts ++ [act]) = streamFrames id acts ++ [fr] := by
    rw [streamFrames_concat, streamFrames_one called named]
  cases fin : fr.fin with
  | true =>
    have last := (saw'.ends fr (by simp) fin).2
    have here : ∃ fr' ∈ streamFrames id (acts ++ [act]), fr'.fin = true ∧ fr'.endOffset = (r.take fr).last :=
      ⟨fr, by simp [frames], fin, last⟩
    exact ⟨fun _ => .inr here, fun _ => here⟩
  | false =>
    rw [Receiver.take_plain fin agreed] at saw' ⊢
    have shut : (r.accept fr).shut = r.shut := by simp [Receiver.accept, fin]
    have later := ends.later act
    have known (shut : r.shut = true) : resetFrames id (acts ++ [act]) ≠ [] ∨
        ∃ fr' ∈ streamFrames id (acts ++ [act]), fr'.fin = true ∧ fr'.endOffset = (r.accept fr).last := by
      rw [Receiver.accept_last fin agreed shut]
      exact later.known shut
    refine ⟨fun now => known (shut ▸ now), fun done => ?_⟩
    obtain ⟨now, front⟩ := (r.accept fr).ended done
    rw [shut] at now
    rw [Receiver.accept_last fin agreed now]
    have either : r.done = true ∨ r.complete = false := by
      have parts : ((r.accept fr).complete && (r.done || !(r.stopped || r.complete))) = true := done
      cases before : r.done <;> simp_all
    rcases either with before | open_
    · exact later.told before
    · by_contra none
      -- the end has been taken for granted because of RST_STREAM
      have reset : resetFrames id acts ≠ [] := by
        rcases ends.known now with reset | ⟨fr', member, known⟩
        · exact reset
        · exact absurd ⟨fr', by simp [frames, member], known⟩ none
      have plain : ∀ fr' ∈ streamFrames id acts, fr'.fin = false := by
        intro fr' member
        by_contra late
        have known := saw.ends fr' member (by simpa using late)
        exact none ⟨fr', by simp [frames, member], by simpa using late, known.2⟩
      have all : ∀ fr' ∈ streamFrames id acts ++ [fr], fr'.fin = false := by
        intro fr' member
        rcases List.mem_append.mp member with before | last
        · exact plain fr' before
        · obtain rfl := List.mem_singleton.mp last
          exact fin
      have gapless := filled fr called named fin reset plain ((saw'.gapless all).mp front)
      have complete : r.complete = true := by simp [Receiver.complete, now, (saw.gapless plain).mpr gapless]
      simp [complete] at open_

end Receiver.Ends

end

structure Conn.Heard (c : Conn) (id : Nat) (acts : List Act) (r : Receiver) : Prop where
  tracks : c.Tracks id r
  saw : c.view.Gone id ∨ r.Saw (streamFrames id acts)
  ends : r.Ends id acts

theorem Conn.Heard.step {id : Nat} {acts : List Act} {act : Act} {s t : Conn} {r : Receiver}
    (heard : s.Heard id acts r) (plain : id ≠ 0) (step : Step s act t) (accepts : act.Accepts id)
    (filled : FilledInTime id acts act) : ∃ r', t.Heard id (acts ++ [act]) r' := by
  obtain ⟨tracks, saw, ends⟩ := heard
  have gone : s.view.Gone id → t.view.Gone id := step.gone tracks.role tracks.ids plain
  have same (none : streamFrames id [act] = []) : t.view.Gone id ∨ r.Saw (streamFrames id (acts ++ [act])) := by
    rw [streamFrames_concat, none, List.append_nil]
    exact saw.imp_left gone
  cases accepts with
  | extend n called =>
    exact ⟨r, tracks.extend step called, same (by simp [streamFrames, called]), ends.later act⟩
  | apart apart => exact ⟨r, tracks.apart step plain apart, same (streamFrames_apart apart), ends.later act⟩
  | reset fr called named taken =>
    obtain ⟨n, taken⟩ := taken
    rcases tracks.reset step plain called named taken with ⟨rfl, closed, -⟩ | ⟨tracks, outcome⟩
    · exact ⟨r, tracks, .inl closed, ends.later act⟩
    · refine ⟨r.resetBy, tracks, ?_, ends.reset called named⟩
      exact (same (by simp [streamFrames, called])).imp_right Receiver.Saw.resetBy
  | stream fr called named taken =>
    obtain ⟨n, taken⟩ := taken
    rcases tracks.stream step plain called named taken with ⟨rfl, closed, -⟩ | ⟨tracks, outcome⟩
    · exact ⟨r, tracks, .inl closed, ends.later act⟩
    · have agreed := outcome.agreed
      have saw := saw.resolve_left (named ▸ outcome.here)
      refine ⟨r.take fr, tracks, .inr ?_, ends.take saw agreed called named filled⟩
      rw [streamFrames_concat, streamFrames_one called named]
      exact saw.take agreed

/-- The end of the stream is reported only if FIN has come, and at the offset that it gives, unless a frame
without FIN bit fills the last gap after RST_STREAM. -/
theorem fin_reported_truly {id : Nat} {before acts : List Act} {s c : Conn} (reached : Runs before s)
    (untouched : s.Untouched id) (run : Run Step (fun c => c = s) acts c) (accepts : ∀ act ∈ acts, act.Accepts id)
    (filled : Each (FilledInTime id) acts) (told : true ∈ (deliveries id c.log).map Prod.fst) :
    ∃ fr ∈ streamFrames id acts, fr.fin = true ∧
      fr.endOffset = ((deliveries id c.log).map Prod.snd).flatten.length := by
  have each : Each (fun before act => act.Accepts id ∧ FilledInTime id before act) acts :=
    fun before act after split => ⟨accepts act (by simp [split]), filled before act after split⟩
  have invariant : ∃ r, c.Heard id acts r := by
    refine run.invariant_each (P := fun acts c => ∃ r, c.Heard id acts r) each ?_ ?_
    · rintro c rfl
      exact ⟨.new, untouched.tracks reached, .inr .new, nofun, nofun⟩
    · rintro acts s act t ⟨r, heard⟩ ⟨accepts, filled⟩ step
      exact heard.step untouched.plain step accepts filled
  obtain ⟨r, tracks, -, ends⟩ := invariant
  have done : r.done = true := by
    obtain ⟨k, flags⟩ := tracks.told.flags
    rw [flags] at told
    cases done : r.done with
    | true => rfl
    | false => simp [done] at told
  obtain ⟨fr, member, fin, last⟩ := ends.told done
  refine ⟨fr, member, fin, ?_⟩
  rw [tracks.told.text, Assembly.length_text, last, (r.ended done).2]

-- the stream is reset after its last bytes have come and FIN has said that they are the last
def resetBehindFin : List (App × Call) :=
  [(.quiet, .frame (.stream { fin := true, streamId := 4, offset := 5, data := fiveBytes })),
   (.quiet, .frame (.rstStream { streamId := 4, appErrorCode := 0, finalOffset := 10 })),
   (.quiet, .frame (.stream { fin := false, streamId := 4, offset := 0, data := fiveBytes }))]

theorem fin_reported_truly_resetBehindFin :
    (deliveries 4 (openServer.play resetBehindFin).log).map Prod.fst = [false, true] ∧
    ∃ fr ∈ streamFrames 4 (openServer.acts resetBehindFin), fr.fin = true ∧
      fr.endOffset = ((deliveries 4 (openServer.play resetBehindFin).log).map Prod.snd).flatten.length := by
  have run := openServer.played resetBehindFin (by decide)
  have accepts : ∀ act ∈ openServer.acts resetBehindFin, act.Accepts 4 := by
    intro act member
    simp only [resetBehindFin, Conn.acts, List.mem_cons, List.not_mem_nil, or_false] at member
    rcases member with rfl | rfl | rfl
    · exact .stream _ rfl rfl ⟨0, rfl⟩
    · exact .reset _ rfl rfl ⟨0, rfl⟩
    · exact .stream _ rfl rfl ⟨0, rfl⟩
  have filled : Each (FilledInTime 4) (openServer.acts resetBehindFin) := by
    rw [show openServer.acts resetBehindFin = [] ++ [_] ++ [_] ++ [_] from rfl, Each.concat, Each.concat, Each.concat]
    refine ⟨⟨⟨.nil, ?_⟩, ?_⟩, ?_⟩
    · rintro fr - - - none
      exact absurd rfl none
    · rintro fr called
      cases called
    · rintro fr - - - - plain
      have fin := plain _ (List.mem_cons_self)
      cases fin
  exact ⟨by decide, fin_reported_truly openServer_runs openServer_untouched run accepts filled (by decide)⟩

-- the last bytes come first, then RST_STREAM, and then the rest; FIN never comes
def filledAfterReset : List (App × Call) :=
  [(.quiet, .frame (.stream { fin := false, streamId := 4, offset := 5, data := fiveBytes })),
   (.quiet, .frame (.rstStream { streamId := 4, appErrorCode := 0, finalOffset := 10 })),
   (.quiet, .frame (.stream { fin := false, streamId := 4, offset := 0, data := fiveBytes }))]

theorem fin_reported_falsely :
    ∃ before acts s c, Runs before s ∧ s.Untouched 4 ∧ Run Step (fun c => c = s) acts c ∧
      (∀ act ∈ acts, act.Accepts 4) ∧ true ∈ (deliveries 4 c.log).map Prod.fst ∧
      ∀ fr ∈ streamFrames 4 acts, fr.fin = false := by
  refine ⟨_, openServer.acts filledAfterReset, openServer, openServer.play filledAfterReset, openServer_runs,
    openServer_untouched, openServer.played filledAfterReset (by decide), fun act member => ?_, by decide, by decide⟩
  simp only [filledAfterReset, Conn.acts, List.mem_cons, List.not_mem_nil, or_false] at member
  rcases member with rfl | rfl | rfl
  · exact .stream _ rfl rfl ⟨0, rfl⟩
  · exact .reset _ rfl rfl ⟨0, rfl⟩
  · exact .stream _ rfl rfl ⟨0, rfl⟩

end Ngtcp2
