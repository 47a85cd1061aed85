import Ngtcp2.Receive.Follow

/-!
# The bytes of a stream reach the application

A frame with FIN bit is not looked at once the end is known, so the bytes it brings must have come before.
-/

namespace Ngtcp2

open Prog

def streamFrames (id : Nat) (acts : List Act) : List StreamFrame :=
  acts.filterMap fun act =>
    match act.call with
    | .frame (.stream fr) => if fr.streamId = id then some fr else none
    | _ => none

structure Conn.Untouched (c : Conn) (id : Nat) : Prop where
  plain : id ≠ 0
  receives : c.view.Receives id
  new : c.rxSide id = none ∧ ¬ c.view.book.Taken id ∨ c.rxSide id = some (.new false)
  quiet : deliveries id c.log = []

theorem Conn.Untouched.follows {c : Conn} {id : Nat} (untouched : c.Untouched id) : c.view.Follows id .new := by
  rcases untouched.new with ⟨absent, free⟩ | present
  · exact .unseen ((c.view_rxSide id).trans absent) free
  · exact .held _ ((c.view_rxSide id).trans present) RxSide.represents_new

theorem Conn.Untouched.tracks {before : List Act} {c : Conn} {id : Nat} (untouched : c.Untouched id)
    (reached : Runs before c) : c.Tracks id .new where
  role := reached.role
  ids := reached.ids
  receives := untouched.receives
  follows := untouched.follows
  told := untouched.quiet ▸ reports_new

/-- What happens while a stream is received: parts of it arrive and are taken, its window is extended,
or something is done that does not touch it. -/
inductive Act.Receives (id : Nat) (whole : List UInt8) (act : Act) : Prop
  | part (fr : StreamFrame) (called : act.call = .frame (.stream fr)) (named : fr.streamId = id)
    (part : fr.PartOf whole) (end_ : fr.fin = true → fr.endOffset = whole.length)
    (taken : ∃ n, act.result = .ok n)
  | extend (n : UInt64) (called : act.call = .extendMaxStreamOffset id n)
  | apart (apart : ¬ act.call.Touches id)

def FinRepeats (id : Nat) (before : List Act) (act : Act) : Prop :=
  ∀ fr, act.call = .frame (.stream fr) → fr.streamId = id → fr.fin = true →
    (∃ fr' ∈ streamFrames id before, fr'.fin = true) →
      ∀ o, fr.offset ≤ o → o < fr.endOffset → Covered (streamFrames id before) o

section

variable {id : Nat} {whole : List UInt8} {frs : List StreamFrame} {fr : StreamFrame} {r : Receiver}

theorem covered_concat (o : Nat) :
    Covered (frs ++ [fr]) o ↔ Covered frs o ∨ fr.offset ≤ o ∧ o < fr.endOffset := by
  constructor
  · rintro ⟨fr', member, inside⟩
    rcases List.mem_append.mp member with member | member
    · exact .inl ⟨fr', member, inside⟩
    · obtain rfl := List.mem_singleton.mp member
      exact .inr inside
  · rintro (⟨fr', member, inside⟩ | inside)
    · exact ⟨fr', List.mem_append_left _ member, inside⟩
    · exact ⟨fr, by simp, inside⟩

theorem StreamFrame.PartOf.inside (part : fr.PartOf whole) {o : Nat} (after : fr.offset ≤ o)
    (before : o < fr.endOffset) : o < whole.length := by
  unfold StreamFrame.endOffset StreamFrame.datalen at before
  have held := part (o - fr.offset) (by omega)
  rw [show fr.offset + (o - fr.offset) = o by omega] at held
  exact (List.getElem?_eq_some_iff.mp held).1

structure Receiver.Has (r : Receiver) (whole : List UInt8) (frs : List StreamFrame) : Prop where
  covers : ∀ o, (r.data.cell o).isSome = true ↔ Covered frs o
  agrees : r.data.Agrees whole
  unreset : r.reset = false
  running : r.stopped = false
  shut : r.shut = frs.any (·.fin)
  last : r.shut = true → r.last = whole.length
  done : r.done = r.complete

namespace Receiver.Has

theorem new : Receiver.new.Has whole [] where
  covers o := by simp [Receiver.new, Assembly.empty, Covered]
  agrees o b held := by cases held
  unreset := rfl
  running := rfl
  shut := rfl
  last := nofun
  done := rfl

theorem same (has : r.Has whole frs) (old : ∀ o, fr.offset ≤ o → o < fr.endOffset → Covered frs o)
    (fin : fr.fin = true → r.shut = true) : r.Has whole (frs ++ [fr]) where
  covers o := by
    rw [has.covers, covered_concat]
    exact ⟨.inl, fun covered => covered.elim (fun before => before) fun inside => old o inside.1 inside.2⟩
  agrees := has.agrees
  unreset := has.unreset
  running := has.running
  shut := by
    rw [List.any_append, ← has.shut]
    cases last : fr.fin with
    | false => simp [last]
    | true => simp [fin last]
  last := has.last
  done := has.done

theorem accept (has : r.Has whole frs) (part : fr.PartOf whole) (end_ : fr.fin = true → fr.endOffset = whole.length)
    (agreed : r.refuses fr = false) : (r.accept fr).Has whole (frs ++ [fr]) := by
  have data : (r.accept fr).data = r.data.put fr.offset fr.data := by
    simp [Receiver.accept, Receiver.dataAfter, has.running]
  constructor
  case covers =>
    intro o
    rw [data, Assembly.put_cell_isSome, has.covers, covered_concat]
    rfl
  case agrees =>
    rw [data]
    exact has.agrees.put part
  case unreset => exact has.unreset
  case running => exact has.running
  case shut => simp [Receiver.accept, has.shut]
  case last =>
    intro shut
    change max r.last fr.endOffset = whole.length
    unfold Receiver.refuses at agreed
    cases before : r.shut with
    | true =>
      have known := has.last before
      cases now : fr.fin with
      | true =>
        have known := end_ now
        omega
      | false =>
        simp [now, before] at agreed
        omega
    | false =>
      have now : fr.fin = true := by simpa [Receiver.accept, before] using shut
      have known := end_ now
      simp [now, before] at agreed
      omega
  case done =>
    change ((r.accept fr).complete && (r.done || !(r.stopped || r.complete))) = (r.accept fr).complete
    rw [has.running, has.done]
    cases r.complete <;> simp

theorem finished (has : r.Has whole frs) (settled : r.settled = true) (part : fr.PartOf whole) :
    r.Has whole (frs ++ [fr]) := by
  have parts : r.shut = true ∧ r.data.front = r.last := by simpa [Receiver.settled, has.unreset] using settled
  refine has.same (fun o after before => ?_) fun _ => parts.1
  have inside := part.inside after before
  rw [← has.last parts.1, ← parts.2] at inside
  exact (has.covers o).mp (Assembly.cell_below inside)

theorem front (has : r.Has whole frs) {g : Nat} (least : LeastUncovered frs g) : r.data.front = g := by
  refine Assembly.front_eq ?_ fun o below => (has.covers o).mpr (least.2 o below)
  have missing := mt (has.covers g).mp least.1
  simpa using missing

end Receiver.Has

theorem streamFrames_concat (acts : List Act) (act : Act) :
    streamFrames id (acts ++ [act]) = streamFrames id acts ++ streamFrames id [act] := by
  simp [streamFrames]

theorem streamFrames_one {act : Act} (called : act.call = .frame (.stream fr)) (named : fr.streamId = id) :
    streamFrames id [act] = [fr] := by
  simp [streamFrames, called, named]

theorem streamFrames_apart {act : Act} (apart : ¬ act.call.Touches id) : streamFrames id [act] = [] := by
  simp only [streamFrames, List.filterMap_cons, List.filterMap_nil]
  split
  next none => rfl
  next fr' found =>
    exfalso
    split at found
    next fr called =>
      split at found
      next named => exact apart (.inl (by rw [called]; exact named.symm))
      next => cases found
    next => cases found

end

structure Conn.Received (c : Conn) (id : Nat) (whole : List UInt8) (frs : List StreamFrame) (r : Receiver) : Prop where
  tracks : c.Tracks id r
  has : r.Has whole frs

theorem Conn.Received.step {id : Nat} {whole : List UInt8} {acts : List Act} {act : Act} {s t : Conn} {r : Receiver}
    (received : s.Received id whole (streamFrames id acts) r) (plain : id ≠ 0) (step : Step s act t)
    (frame : act.Receives id whole) (repeats : FinRepeats id acts act) :
    ∃ r', t.Received id whole (streamFrames id (acts ++ [act])) r' := by
  obtain ⟨tracks, has⟩ := received
  rw [streamFrames_concat]
  cases frame with
  | extend n called =>
    rw [show streamFrames id [act] = [] by simp [streamFrames, called], List.append_nil]
    exact ⟨r, tracks.extend step called, has⟩
  | apart apart =>
    rw [streamFrames_apart apart, List.append_nil]
    exact ⟨r, tracks.apart step plain apart, has⟩
  | part fr called named part end_ taken =>
    obtain ⟨n, taken⟩ := taken
    rw [streamFrames_one called named]
    rcases tracks.stream step plain called named taken with ⟨rfl, -, settled⟩ | ⟨tracks, outcome⟩
    · exact ⟨r, tracks, has.finished settled part⟩
    · refine ⟨r.take fr, tracks, ?_⟩
      have agreed := outcome.agreed
      unfold Receiver.take
      rw [agreed, Bool.false_or]
      split
      next known =>
        -- a frame with FIN bit after another one is not looked at
        have both : fr.fin = true ∧ r.shut = true := by simpa using known
        refine has.same (repeats fr called named both.1 ?_) fun _ => both.2
        have shut := both.2
        rw [has.shut, List.any_eq_true] at shut
        exact shut
      next => exact has.accept part end_ agreed

/-- The application has been given the string up to the first offset that has not come, and been told of its
end, once and with the last bytes, exactly if FIN has come and the string is complete. -/
theorem stream_delivered_once {id : Nat} {whole : List UInt8} {before acts : List Act} {s c : Conn} {g : Nat}
    (reached : Runs before s) (untouched : s.Untouched id) (run : Run Step (fun c => c = s) acts c)
    (frames : ∀ act ∈ acts, act.Receives id whole) (repeats : Each (FinRepeats id) acts)
    (least : LeastUncovered (streamFrames id acts) g) :
    ((deliveries id c.log).map Prod.snd).flatten = whole.take g ∧
    ∃ k, (deliveries id c.log).map Prod.fst = List.replicate k false ++
      if (∃ fr ∈ streamFrames id acts, fr.fin = true) ∧ g = whole.length then [true] else [] := by
  have each : Each (fun before act => act.Receives id whole ∧ FinRepeats id before act) acts :=
    fun before act after split => ⟨frames act (by simp [split]), repeats before act after split⟩
  have invariant : ∃ r, c.Received id whole (streamFrames id acts) r := by
    refine run.invariant_each (P := fun acts c => ∃ r, c.Received id whole (streamFrames id acts) r) each ?_ ?_
    · rintro c rfl
      exact ⟨.new, untouched.tracks reached, .new⟩
    · rintro acts s act t ⟨r, received⟩ ⟨frame, repeats⟩ step
      exact received.step untouched.plain step frame repeats
  obtain ⟨r, tracks, has⟩ := invariant
  have front := has.front least
  refine ⟨?_, ?_⟩
  · rw [tracks.told.text, has.agrees.text, front]
  · obtain ⟨k, flags⟩ := tracks.told.flags
    refine ⟨k, flags.trans ?_⟩
    have done : r.done = true ↔ (∃ fr ∈ streamFrames id acts, fr.fin = true) ∧ g = whole.length := by
      have shut : r.shut = true ↔ ∃ fr ∈ streamFrames id acts, fr.fin = true := by
        rw [has.shut, List.any_eq_true]
      rw [has.done, Receiver.complete, Bool.and_eq_true, shut, beq_iff_eq, front]
      refine and_congr_right fun fin => ?_
      rw [has.last (shut.mpr fin)]
    simp only [done]

theorem openServer_untouched : openServer.Untouched 4 where
  plain := by decide
  receives := fun _ => rfl
  new := by
    refine .inl ⟨by decide, fun taken => ?_⟩
    have ids := openServer_runs.ids
    have run : ngtcp2IdtrIsOpen (openServer.view.book.idtr 4) 4 = .ok false := by decide
    have opened : (openServer.view.book.idtr 4).Opened 4 := taken
    have used := (ngtcp2IdtrIsOpen_iff (ids.book.idtr 4).1 (by decide) run).mpr opened
    cases used
  quiet := by decide

def fiveBytes : List UInt8 := [1, 2, 3, 4, 5]

-- the last two bytes come first, with FIN; the frame that brings the rest repeats one of them
def tailFirst : List (App × Call) :=
  [(.quiet, .frame (.stream { fin := true, streamId := 4, offset := 3, data := [4, 5] })),
   (.quiet, .frame (.stream { fin := false, streamId := 4, offset := 0, data := [1, 2, 3, 4] })),
   (.quiet, .frame (.stream { fin := true, streamId := 4, offset := 3, data := [4, 5] }))]

theorem stream_delivered_once_tailFirst :
    (deliveries 4 (openServer.play tailFirst).log).map Prod.snd = [[1, 2, 3, 4], [5]] ∧
    ((deliveries 4 (openServer.play tailFirst).log).map Prod.snd).flatten = fiveBytes.take 5 := by
  have run := openServer.played tailFirst (by decide)
  have frames : ∀ act ∈ openServer.acts tailFirst, act.Receives 4 fiveBytes := by
    intro act member
    simp only [tailFirst, Conn.acts, List.mem_cons, List.not_mem_nil, or_false] at member
    rcases member with rfl | rfl | rfl <;> exact .part _ rfl rfl (by decide) (by decide) ⟨0, rfl⟩
  have repeats : Each (FinRepeats 4) (openServer.acts tailFirst) := by
    rw [show openServer.acts tailFirst = [] ++ [_] ++ [_] ++ [_] from rfl, Each.concat, Each.concat, Each.concat]
    refine ⟨⟨⟨.nil, ?_⟩, ?_⟩, ?_⟩
    · rintro fr - - - ⟨fr', member, -⟩
      cases member
    · rintro fr called - fin
      cases called
      cases fin
    · rintro fr called - - - o after before
      cases called
      have range : o = 3 ∨ o = 4 := by
        simp [StreamFrame.endOffset, StreamFrame.datalen] at after before
        omega
      rcases range with rfl | rfl <;> decide
  exact ⟨by decide, (stream_delivered_once openServer_runs openServer_untouched run frames repeats (by decide)).1⟩

-- FIN comes alone, and then all bytes with FIN once more
def finTwice : List (App × Call) :=
  [(.quiet, .frame (.stream { fin := true, streamId := 4, offset := 5, data := [] })),
   (.quiet, .frame (.stream { fin := true, streamId := 4, offset := 0, data := fiveBytes }))]

theorem stream_delivered_once_lost :
    ∃ before acts s c, Runs before s ∧ s.Untouched 4 ∧ Run Step (fun c => c = s) acts c ∧
      (∀ act ∈ acts, act.Receives 4 fiveBytes) ∧ LeastUncovered (streamFrames 4 acts) 5 ∧
      deliveries 4 c.log = [] ∧ ((deliveries 4 c.log).map Prod.snd).flatten ≠ fiveBytes.take 5 := by
  refine ⟨_, openServer.acts finTwice, openServer, openServer.play finTwice, openServer_runs, openServer_untouched,
    openServer.played finTwice (by decide), fun act member => ?_, by decide, by decide, by decide⟩
  simp only [finTwice, Conn.acts, List.mem_cons, List.not_mem_nil, or_false] at member
  rcases member with rfl | rfl <;> exact .part _ rfl rfl (by decide) (by decide) ⟨0, rfl⟩

end Ngtcp2
