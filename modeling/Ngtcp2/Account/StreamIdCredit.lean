import Ngtcp2.Account.CloseCode
import Ngtcp2.Invariant.Signals

/-!
# The limits on stream ids that are reported

The limit is a running maximum, but each MAX_STREAM_ID frame is reported with its own value. So the
reports rise as long as the frames do.
-/

namespace Ngtcp2

open Prog Relation

def Conn.localLimit (c : Conn) (bidi : Bool) : Nat := if bidi then c.maxLocalStreamIdBidi else c.maxLocalStreamIdUni

section

variable (bidi : Bool)

def Frame.streamIdLimit? : Frame → Option Nat
  | .maxStreamId n => if bidiStream n = bidi then some n else none
  | _ => none

def limitsHeard (frames : List Frame) : List Nat := frames.filterMap (Frame.streamIdLimit? bidi)

def Event.streamIdNotice? : Event → Option Nat
  | .extendMaxStreamId n => if bidiStream n = bidi then some n else none
  | _ => none

/-- The values of one kind that `extend_max_stream_id` has been called with. -/
def limitNotices (events : List Event) : List Nat := events.filterMap (Event.streamIdNotice? bidi)

end

def Event.setsLimits : Event → Bool
  | .mark (.maxTxOffset _ _) => true
  | _ => false

def framesIn (events : List Event) : List Frame := events.filterMap Event.frame?

theorem framesIn_append (events later : List Event) : framesIn (events ++ later) = framesIn events ++ framesIn later :=
  List.filterMap_append

theorem limitsHeard_append (bidi : Bool) (frames later : List Frame) :
    limitsHeard bidi (frames ++ later) = limitsHeard bidi frames ++ limitsHeard bidi later := List.filterMap_append

theorem limitNotices_append (bidi : Bool) (events later : List Event) :
    limitNotices bidi (events ++ later) = limitNotices bidi events ++ limitNotices bidi later := List.filterMap_append

variable {bidi : Bool} {o p q : Outline} {new later : List Event} {heard heard' : List Nat}

structure Climb (bidi : Bool) (heard : List Nat) (o p : Outline) (new : List Event) : Prop where
  log : p.log = o.log ++ new
  among : (limitNotices bidi new).Sublist heard
  limit : (∀ e ∈ new, e.setsLimits = false) → (o.limit bidi :: heard).Pairwise (· < ·) →
    p.limit bidi = (limitNotices bidi new).getLastD (o.limit bidi)

theorem getLastD_mem_cons (values : List Nat) (start : Nat) : values.getLastD start ∈ start :: values := by
  cases values with
  | nil => simp
  | cons first rest =>
    rw [List.getLastD_cons]
    exact List.mem_cons_of_mem _ (getLastD_mem_cons rest first)

theorem getLastD_append (values later : List Nat) (start : Nat) :
    (values ++ later).getLastD start = later.getLastD (values.getLastD start) := by
  simp only [List.getLastD_eq_getLast?, List.getLast?_append]
  cases later.getLast? <;> rfl

theorem rising_append {values later : List Nat} {start : Nat} (early : (start :: values).Pairwise (· < ·))
    (late : (values.getLastD start :: later).Pairwise (· < ·)) : (start :: (values ++ later)).Pairwise (· < ·) := by
  induction values generalizing start with
  | nil => exact late
  | cons first rest ih =>
    obtain ⟨below, early⟩ := List.pairwise_cons.mp early
    have above : start < first := below first List.mem_cons_self
    have tail := ih early (by rwa [List.getLastD_cons] at late)
    refine List.pairwise_cons.mpr ⟨fun n member => ?_, tail⟩
    rcases List.mem_cons.mp member with rfl | member
    · exact above
    · exact above.trans ((List.pairwise_cons.mp tail).1 n member)

namespace Climb

theorem refl (o : Outline) : Climb bidi [] o o [] := ⟨by simp, by simp [limitNotices], fun _ _ => rfl⟩

theorem trans (begun : Climb bidi heard o p new) (rest : Climb bidi heard' p q later) :
    Climb bidi (heard ++ heard') o q (new ++ later) where
  log := by rw [rest.log, begun.log, List.append_assoc]
  among := by
    rw [limitNotices_append]
    exact begun.among.append rest.among
  limit unset rising := by
    obtain ⟨early, late, apart⟩ := List.pairwise_append.mp (List.cons_append ▸ rising)
    have first := begun.limit (fun e member => unset e (List.mem_append_left _ member)) early
    -- the limit in between is one of the values before, so that what is heard later lies above it
    have between : p.limit bidi ∈ o.limit bidi :: heard :=
      (List.Sublist.cons_cons _ begun.among).subset (first ▸ getLastD_mem_cons _ _)
    have second := rest.limit (fun e member => unset e (List.mem_append_right _ member))
      (List.pairwise_cons.mpr ⟨apart _ between, late⟩)
    rw [second, first, limitNotices_append, getLastD_append]

theorem silent (log : p.log = o.log ++ new) (silent : limitNotices bidi new = [])
    (limit : (∀ e ∈ new, e.setsLimits = false) → p.limit bidi = o.limit bidi) :
    Climb bidi heard o p new where
  log := log
  among := by simp [silent]
  limit unset _ := by
    rw [limit unset, silent]
    rfl

end Climb

theorem Deed.climb (bidi : Bool) {d : Doing} (deed : Deed d o p) : ∃ new, framesIn new = [] ∧ Climb bidi [] o p new := by
  cases deed with
  | limits limit sent bidi uni =>
    exact ⟨[.mark (.maxTxOffset limit sent)], rfl, .silent rfl rfl fun unset => by simp [Event.setsLimits] at unset⟩
  | fewer | sends | opens => exact ⟨[], rfl, .silent (by simp [Outline.setTag]) rfl fun _ => rfl⟩
  | closes key code tag found due => exact ⟨[_], rfl, .silent rfl rfl fun _ => rfl⟩

theorem Deed.climb_run (bidi : Bool) {d : Doing} (deeds : ReflTransGen (Deed d) o p) :
    ∃ new, framesIn new = [] ∧ Climb bidi [] o p new := by
  induction deeds with
  | refl => exact ⟨[], rfl, .refl o⟩
  | tail _ deed ih =>
    obtain ⟨new, none, climb⟩ := ih
    obtain ⟨later, none', climb'⟩ := deed.climb bidi
    refine ⟨new ++ later, ?_, climb.trans climb'⟩
    rw [framesIn_append, none, none']
    rfl

theorem Outline.raise_climb (bidi : Bool) (o : Outline) (n : Nat) :
    Climb bidi (limitsHeard bidi [.maxStreamId n]) o (o.raise n) [.extendMaxStreamId n] := by
  refine ⟨rfl, ?_, fun _ rising => ?_⟩
  · by_cases kind : bidiStream n = bidi <;>
      simp [limitNotices, limitsHeard, Event.streamIdNotice?, Frame.streamIdLimit?, kind]
  · by_cases kind : bidiStream n = bidi
    · have higher : o.limit bidi < n := by
        simpa [limitsHeard, Frame.streamIdLimit?, kind] using rising
      unfold Outline.limit at higher ⊢
      cases bidi <;> simp_all [limitNotices, Event.streamIdNotice?, Outline.raise, Outline.tell, Nat.le_of_lt]
    · unfold Outline.limit
      cases bidi <;> simp_all [limitNotices, Event.streamIdNotice?, Outline.raise, Outline.tell]

theorem Course.climb {completing : Prop} (bidi : Bool) (course : Course completing o p) (done : ¬ completing) :
    ∃ new, Climb bidi (limitsHeard bidi (framesIn new)) o p new := by
  have reported (hd : PktHd) (fr : Frame) (heard : List Nat) :
      Climb bidi heard o (o.tell (.recvFrame hd fr)) [.recvFrame hd fr] := .silent rfl rfl fun _ => rfl
  have other (hd : PktHd) {fr : Frame} (plain : limitsHeard bidi [fr] = [])
      (handled : ReflTransGen (Deed (.frame fr)) (o.tell (.recvFrame hd fr)) p) :
      ∃ new, Climb bidi (limitsHeard bidi (framesIn new)) o p new := by
    obtain ⟨new, none, climb⟩ := Deed.climb_run bidi handled
    have heard : limitsHeard bidi (framesIn (.recvFrame hd fr :: new)) = [] := by
      change limitsHeard bidi (fr :: framesIn new) = []
      rw [none, plain]
    refine ⟨.recvFrame hd fr :: new, ?_⟩
    rw [heard]
    exact (reported hd fr []).trans climb
  cases course with
  | deed deed =>
    obtain ⟨new, none, climb⟩ := deed.climb bidi
    exact ⟨new, none ▸ climb⟩
  | refused hd fr => exact ⟨_, reported hd fr _⟩
  | handled hd fr handled =>
    cases fr with
    | maxStreamId n =>
      obtain rfl := handled
      have raised := Outline.raise_climb bidi (o.tell (.recvFrame hd (.maxStreamId n))) n
      have both := (reported hd (.maxStreamId n) []).trans raised
      exact ⟨[.recvFrame hd (.maxStreamId n), .extendMaxStreamId n], both⟩
    | _ => exact other hd rfl handled
  | retry => exact ⟨[], .silent (by simp [Outline.setTag]) rfl fun _ => rfl⟩
  | notify bidi now => exact absurd now done

theorem Course.climb_run {completing : Prop} (bidi : Bool) (courses : ReflTransGen (Course completing) o p)
    (done : ¬ completing) : ∃ new, Climb bidi (limitsHeard bidi (framesIn new)) o p new := by
  induction courses with
  | refl => exact ⟨[], .refl o⟩
  | tail _ course ih =>
    obtain ⟨new, climb⟩ := ih
    obtain ⟨later, climb'⟩ := course.climb bidi done
    refine ⟨new ++ later, ?_⟩
    rw [framesIn_append, limitsHeard_append]
    exact climb.trans climb'

-- shutting down a stream changes its tag only

def Outline.bare (o : Outline) : Outline := { o with tags := fun _ => none }

theorem Deed.bare (deed : Deed .idle o p) : Deed .idle o.bare p.bare := by
  cases deed with
  | limits limit sent bidi uni => exact .limits o.bare limit sent bidi uni
  | fewer entries fewer => exact .fewer o.bare entries fewer
  | sends entries earlyRtb writing => cases writing
  | opens id absent allowed => exact allowed.elim
  | closes key code tag found due => cases due

section

variable (app : App) {s : Conn} {call : Call}

theorem Call.exec_bare (shuts : call.shuts ≠ none) : Along (fun c : Conn => c.outline.bare) (Deed .idle) (call.exec app) := by
  have plain {α : Type} {m : ConnM α} (takes : Takes .idle m) :
      Along (fun c : Conn => c.outline.bare) (Deed .idle) m := takes.map fun _ _ => Deed.bare
  have modified (id : Nat) (f : Strm → Strm) :
      Along (fun c : Conn => c.outline.bare) (Deed .idle) (modifyStrm id f) := .still fun _ => rfl
  have write (id code : Nat) :
      Along (fun c : Conn => c.outline.bare) (Deed .idle) (connShutdownStreamWrite app id code) := by
    refine .bind (plain (getStrm_deeds id)) fun strm => ?_
    exact .ite (.pure _) (.bind (modified id _) fun _ => plain (connRstStream_deeds app id code))
  have read (id code : Nat) :
      Along (fun c : Conn => c.outline.bare) (Deed .idle) (connShutdownStreamRead app id code) := by
    refine .bind (plain (getStrm_deeds id)) fun strm => ?_
    exact .ite (.pure _) (.bind (modified id _) fun _ => plain (.bind (connPushFrq_deeds app _) fun _ => connFcUnlink_deeds id))
  have checked (id code : Nat) {m : ConnM Unit} (along : Along (fun c : Conn => c.outline.bare) (Deed .idle) m) :
      Along (fun c : Conn => c.outline.bare) (Deed .idle) (returns0 (shutdownChecked id code m)) := by
    refine .bind (.ite (.throw _) (.bind (plain (ngtcp2ConnFindStream_deeds id)) fun found => ?_)) fun _ => .pure _
    cases found with
    | none => exact .throw _
    | some strm => exact along
  cases call with
  | shutdownStream id code => exact checked id code (.bind (read id code) fun _ => write id code)
  | shutdownStreamWrite id code => exact checked id code (write id code)
  | shutdownStreamRead id code => exact checked id code (read id code)
  | _ => exact absurd rfl shuts

theorem Call.exec_climb (bidi : Bool) (call : Call) (done : ¬ s.state.Completes) {r : Except Err Nat} {t : Conn}
    (exec : call.exec app s = (r, t)) :
    ∃ new, Climb bidi (limitsHeard bidi (call.frame?.toList ++ framesIn new)) s.outline t.outline new := by
  have ended {Q : Conn → Prop} (spec : wp (call.exec app) (fun _ => Q) (fun _ => Q) s) : Q t := by
    cases r with
    | ok n => exact wp_ok spec exec
    | error e => exact wp_error spec exec
  by_cases shuts : call.shuts = none
  · cases ended (call.exec_turn app shuts s) with
    | deeds d frame deeds =>
      obtain ⟨new, none, climb⟩ := Deed.climb_run bidi deeds
      exact ⟨new, climb.log, climb.among.trans (List.nil_sublist _), fun unset rising =>
        climb.limit unset (rising.sublist (List.Sublist.cons_cons _ (List.nil_sublist _)))⟩
    | raised n frame raised =>
      rw [raised, frame]
      exact ⟨[.extendMaxStreamId n], Outline.raise_climb bidi s.outline n⟩
    | course frame course =>
      obtain ⟨new, climb⟩ := Course.climb_run bidi course done
      refine ⟨new, ?_⟩
      rw [frame]
      exact climb
  · obtain ⟨new, none, climb⟩ := Deed.climb_run bidi (ended (call.exec_bare app shuts s))
    exact ⟨new, climb.log, climb.among.trans (List.nil_sublist _), fun unset rising =>
      climb.limit unset (rising.sublist (List.Sublist.cons_cons _ (List.nil_sublist _)))⟩

end

section

variable {acts before : List Act} {s t u : Conn} {call : Call} {app : App} {r : Except Err Nat}

/-- The limits of one kind that the peer sends during a call rise, starting above the one in force, and
transport parameters do not set the limits again. -/
def LimitsRise (bidi : Bool) (call : Call) (s t : Conn) : Prop :=
  ∃ new, t.log = s.log ++ new ∧
    (s.localLimit bidi :: limitsHeard bidi (call.frame?.toList ++ framesIn new)).Pairwise (· < ·) ∧
    ∀ e ∈ new, e.setsLimits = false

structure RisingStep (bidi : Bool) (s : Conn) (act : Act) (t : Conn) : Prop where
  step : Step s act t
  rise : LimitsRise bidi act.call s t

theorem limitNotices_told (bidi : Bool) (events : List Event) :
    limitNotices bidi (events.filter Event.told) = limitNotices bidi events := by
  unfold limitNotices
  rw [List.filterMap_filter]
  refine List.filterMap_congr fun e _ => ?_
  cases e with
  | mark m => cases m <;> rfl
  | _ => rfl

structure ReportsRise (bidi : Bool) (s t : Conn) (new : List Event) : Prop where
  log : t.log = s.log ++ new
  rising : (s.localLimit bidi :: limitNotices bidi new).Pairwise (· < ·)
  limit : t.localLimit bidi = (limitNotices bidi new).getLastD (s.localLimit bidi)

theorem ReportsRise.trans {new later : List Event} (begun : ReportsRise bidi s t new)
    (rest : ReportsRise bidi t u later) : ReportsRise bidi s u (new ++ later) where
  log := by rw [rest.log, begun.log, List.append_assoc]
  rising := by
    rw [limitNotices_append]
    exact rising_append begun.rising (begun.limit ▸ rest.rising)
  limit := by rw [rest.limit, begun.limit, limitNotices_append, getLastD_append]

theorem Call.exec_reports (done : ¬ s.state.Completes) (exec : call.exec app s = (r, t)) (rise : LimitsRise bidi call s t) :
    ∃ new, ReportsRise bidi s t new := by
  obtain ⟨new, log, rising, unset⟩ := rise
  obtain ⟨shown, climb⟩ := call.exec_climb app bidi done exec
  obtain rfl : shown = new.filter Event.told := by
    have both := climb.log
    simpa [Conn.outline, log] using both.symm
  have unset' : ∀ e ∈ new.filter Event.told, e.setsLimits = false := fun e member => unset e (List.mem_filter.mp member).1
  have heard : framesIn (new.filter Event.told) = framesIn new := filterMap_frame new
  rw [heard] at climb
  refine ⟨new, log, ?_, ?_⟩
  · rw [← limitNotices_told]
    exact rising.sublist (climb.among.cons_cons _)
  · rw [← limitNotices_told]
    exact climb.limit unset' rising

theorem ConnState.settled_not_completes {state : ConnState} (settled : state.settled = true) : ¬ state.Completes := by
  rintro (rfl | rfl | rfl) <;> cases settled

theorem RisingStep.reports (reached : Runs before s) (settled : s.state.settled = true)
    (run : Run (RisingStep bidi) (· = s) acts u) :
    (∃ steps, Runs steps u) ∧ u.state.settled = true ∧ ∃ new, ReportsRise bidi s u new := by
  induction run with
  | start here =>
    subst here
    exact ⟨⟨before, reached⟩, settled, [], by simp, by simp [limitNotices], rfl⟩
  | next _ taken ih =>
    obtain ⟨⟨steps, run⟩, settled, new, reports⟩ := ih
    obtain ⟨later, reports'⟩ := Call.exec_reports (ConnState.settled_not_completes settled) taken.step.exec taken.rise
    refine ⟨⟨_, .next run taken.step⟩, ?_, _, reports.trans reports'⟩
    rcases taken.step.state (Runs.role run) with same | entered
    · rwa [same]
    · exact Call.enters_settled settled entered

/-- As long as each MAX_STREAM_ID frame extends the limit, the limits reported rise and the last one is in
force. -/
theorem streamIdNotices_rise (reached : Runs before s) (settled : s.state.settled = true)
    (run : Run (RisingStep bidi) (· = s) acts u) (exec : call.exec app u = (r, t)) (rise : LimitsRise bidi call u t) :
    ∃ new, ReportsRise bidi s t new := by
  obtain ⟨-, settled, new, reports⟩ := RisingStep.reports reached settled run
  obtain ⟨later, reports'⟩ := Call.exec_reports (ConnState.settled_not_completes settled) exec rise
  exact ⟨_, reports.trans reports'⟩

end

def raisingPkt : Pkt := .of false .PKT_01 3 [.maxStreamId 45, .maxStreamId 49] (by decide)

def raisedServer : Conn := openServer.play [(.quiet, .frame (.maxStreamId 41))]

theorem streamIdNotices_rise_raisedServer :
    ∃ new, ReportsRise true openServer (raisedServer.play [(.quiet, .recv (some raisingPkt) 0)]) new := by
  have step : RisingStep true openServer { app := .quiet, call := .frame (.maxStreamId 41), result := .ok 0 }
      raisedServer := ⟨⟨rfl, nofun, by decide⟩, [.extendMaxStreamId 41], rfl, by decide, by decide⟩
  have start : Run (RisingStep true) (· = openServer) [] openServer := .start rfl
  have exec : (Call.recv (some raisingPkt) 0).exec .quiet raisedServer =
      (.ok 0, raisedServer.play [(.quiet, .recv (some raisingPkt) 0)]) := rfl
  have rise : LimitsRise true (.recv (some raisingPkt) 0) raisedServer
      (raisedServer.play [(.quiet, .recv (some raisingPkt) 0)]) :=
    ⟨(raisedServer.play [(.quiet, .recv (some raisingPkt) 0)]).log.drop raisedServer.log.length, by decide +kernel,
      by decide +kernel, by decide +kernel⟩
  exact streamIdNotices_rise openServer_runs rfl (.next start step) exec rise

/-- A lower limit that comes late is reported although a higher one is in force. -/
theorem streamIdNotices_fall :
    ∃ acts c, Runs acts c ∧ c.localLimit true = 45 ∧
      c.log = openServer.log ++ [.extendMaxStreamId 45, .extendMaxStreamId 41] :=
  ⟨_, _, openServer_runs.play [(.quiet, .frame (.maxStreamId 45)), (.quiet, .frame (.maxStreamId 41))] (by decide),
    by decide, by decide⟩

end Ngtcp2
