import Ngtcp2.Account.Turn
import Ngtcp2.Invariant.StreamIds

/-!
# The code a stream is closed with

`stream_close` gets zero if the stream has no code of its own, and otherwise the code of the event that
closes it, which is the wrong way round.
-/

namespace Ngtcp2

open Prog Relation

def Tag.fresh (id : Nat) : Tag where
  streamId := id
  appErrorCode := 0
  stopSending := false

def Outline.tag (o : Outline) (id : Nat) : Tag := (o.tags id).getD (.fresh id)

structure Outline.Sound (o : Outline) : Prop where
  named : ∀ id, (o.tag id).streamId = id
  zero : o.tag 0 = .fresh 0

def Event.frame? : Event → Option Frame
  | .recvFrame _ fr => some fr
  | _ => none

def frameInHand (first : Option Frame) (events : List Event) : Option Frame :=
  (events.filterMap Event.frame?).getLast?.or first

theorem frameInHand_append (first : Option Frame) (earlier later : List Event) :
    frameInHand first (earlier ++ later) = frameInHand (frameInHand first earlier) later := by
  unfold frameInHand
  rw [List.filterMap_append, List.getLast?_append, Option.or_assoc]

theorem frameInHand_quiet (first : Option Frame) {events : List Event} (quiet : ∀ e ∈ events, e.frame? = none) :
    frameInHand first events = first := by
  have none : events.filterMap Event.frame? = [] := List.filterMap_eq_nil_iff.mpr quiet
  simp [frameInHand, none]

def Tag.told (tag : Tag) (fr : Frame) : Nat :=
  if tag.appErrorCode = 0 then tag.appErrorCode else ((Doing.frame fr).cause tag).getD 0

structure Told (first : Option Frame) (o p : Outline) (new : List Event) : Prop where
  log : p.log = o.log ++ new
  kept : ∀ id, p.tag id = o.tag id ∨ ∃ code, .streamClose id code ∈ new
  closed : ∀ pre post id code, new = pre ++ .streamClose id code :: post →
    (∃ fr, frameInHand first pre = some fr ∧ code = (o.tag id).told fr) ∨ ∃ code', .streamClose id code' ∈ pre

namespace Told

variable {first : Option Frame} {o p q : Outline} {new later : List Event}

theorem refl (o : Outline) : Told first o o [] where
  log := by simp
  kept _ := .inl rfl
  closed := by
    intro pre post id code split
    simp at split

theorem trans (begun : Told first o p new) (rest : Told (frameInHand first new) p q later) :
    Told first o q (new ++ later) where
  log := by rw [rest.log, begun.log, List.append_assoc]
  kept id := by
    rcases rest.kept id with same | ⟨code, closed⟩
    · rw [same]
      exact (begun.kept id).imp_right fun ⟨code, closed⟩ => ⟨code, List.mem_append_left _ closed⟩
    · exact .inr ⟨code, List.mem_append_right _ closed⟩
  closed pre post id code split := by
    -- the event is one of the earlier or one of the later ones
    rcases List.append_eq_append_iff.mp split with ⟨pre', rfl, tail⟩ | ⟨post', head, tail⟩
    · rcases rest.closed pre' post id code tail with ⟨fr, frame, right⟩ | ⟨code', before⟩
      · rcases begun.kept id with same | ⟨code', closed⟩
        · exact .inl ⟨fr, frameInHand_append first new pre' ▸ frame, same ▸ right⟩
        · exact .inr ⟨code', List.mem_append_left _ closed⟩
      · exact .inr ⟨code', List.mem_append_right _ before⟩
    · cases post' with
      | nil =>
        have tail : later = .streamClose id code :: post := by simpa using tail.symm
        obtain rfl : new = pre := by simpa using head
        rcases rest.closed [] post id code tail with ⟨fr, frame, right⟩ | ⟨code', before⟩
        · rcases begun.kept id with same | ⟨code', closed⟩
          · exact .inl ⟨fr, frame, same ▸ right⟩
          · exact .inr ⟨code', closed⟩
        · cases before
      | cons e post' =>
        obtain ⟨rfl, -⟩ : Event.streamClose id code = e ∧ post = post' ++ later := by simpa using tail
        exact begun.closed pre post' id code head

theorem quiet (log : p.log = o.log ++ new) (kept : ∀ id, p.tag id = o.tag id)
    (silent : ∀ id code, .streamClose id code ∉ new) : Told first o p new where
  log := log
  kept id := .inl (kept id)
  closed pre post id code split := absurd (split ▸ by simp) (silent id code)

end Told

theorem Outline.tag_setTag (o : Outline) (id key : Nat) (tag : Option Tag) :
    (o.setTag id tag).tag key = if key = id then tag.getD (.fresh key) else o.tag key := by
  unfold Outline.tag Outline.setTag
  by_cases here : key = id <;> simp [here]

theorem Outline.setTag_setTag (o : Outline) (id : Nat) (tag tag' : Option Tag) :
    (o.setTag id tag).setTag id tag' = o.setTag id tag' := by
  simp [Outline.setTag]

section

variable {d : Doing} {o p : Outline}

theorem Deed.told (deed : Deed d o p) (sound : o.Sound) :
    p.Sound ∧ ∃ new, Told d.frame? o p new ∧ ∀ e ∈ new, e.frame? = none := by
  cases deed with
  | limits limit sent bidi uni =>
    exact ⟨⟨sound.named, sound.zero⟩, [.mark (.maxTxOffset limit sent)], .quiet rfl (fun _ => rfl) (by simp), by
      simp [Event.frame?]⟩
  | fewer entries fewer =>
    exact ⟨⟨sound.named, sound.zero⟩, [], .quiet (by simp) (fun _ => rfl) (by simp), by simp⟩
  | sends entries earlyRtb writing =>
    exact ⟨⟨sound.named, sound.zero⟩, [], .quiet (by simp) (fun _ => rfl) (by simp), by simp⟩
  | opens id absent allowed =>
    have same : ∀ key, (o.setTag id (some (.fresh id))).tag key = o.tag key := by
      intro key
      rw [o.tag_setTag]
      split
      next here => simp [here, Outline.tag, absent]
      next => rfl
    refine ⟨⟨fun key => ?_, ?_⟩, [], .quiet (by simp [Outline.setTag]) same (by simp), by simp⟩
    · exact (congrArg Tag.streamId (same key)).trans (sound.named key)
    · exact (same 0).trans sound.zero
  | closes key code tag found due =>
    have here : o.tag key = tag := by simp [Outline.tag, found]
    obtain rfl : tag.streamId = key := here ▸ sound.named key
    have gone : ∀ id, ((o.setTag tag.streamId none).tell (.streamClose tag.streamId
        (if tag.appErrorCode = 0 then tag.appErrorCode else code))).tag id =
        if id = tag.streamId then .fresh id else o.tag id := fun id => o.tag_setTag tag.streamId id none
    obtain ⟨fr, rfl⟩ : ∃ fr, d = .frame fr := by
      cases d with
      | frame fr => exact ⟨fr, rfl⟩
      | idle | opening | write => cases due
    refine ⟨⟨fun id => ?_, ?_⟩, [_], ⟨rfl, fun id => ?_, fun pre post id code' split => ?_⟩, by simp [Event.frame?]⟩
    · rw [gone]
      split
      · rfl
      · exact sound.named id
    · rw [gone]
      split
      · rfl
      · exact sound.zero
    · rw [gone]
      split
      next same => exact .inr ⟨if tag.appErrorCode = 0 then tag.appErrorCode else code, by simp [same]⟩
      next => exact .inl rfl
    · obtain ⟨rfl, ⟨rfl, rfl⟩, rfl⟩ : pre = [] ∧ (tag.streamId = id ∧
          (if tag.appErrorCode = 0 then tag.appErrorCode else code) = code') ∧ post = [] := by
        cases pre with
        | nil => simpa [and_comm, eq_comm] using split
        | cons => simp at split
      refine .inl ⟨fr, rfl, ?_⟩
      rw [here]
      simp [Tag.told, due]

theorem Deed.told_run (deeds : ReflTransGen (Deed d) o p) (sound : o.Sound) :
    p.Sound ∧ ∃ new, Told d.frame? o p new ∧ ∀ e ∈ new, e.frame? = none := by
  induction deeds with
  | refl => exact ⟨sound, [], .refl o, by simp⟩
  | tail _ deed ih =>
    obtain ⟨sound', new, told, quiet⟩ := ih
    obtain ⟨sound'', later, told', quiet'⟩ := deed.told sound'
    refine ⟨sound'', new ++ later, told.trans ?_, fun e member => ?_⟩
    · rw [frameInHand_quiet _ quiet]
      exact told'
    · exact (List.mem_append.mp member).elim (quiet e) (quiet' e)

theorem Outline.raise_told (o : Outline) (n : Nat) (sound : o.Sound) (first : Option Frame) :
    (o.raise n).Sound ∧ Told first o (o.raise n) [.extendMaxStreamId n] :=
  ⟨⟨sound.named, sound.zero⟩, .quiet rfl (fun _ => rfl) (by simp)⟩

theorem Course.told {completing : Prop} (course : Course completing o p) (sound : o.Sound) (first : Option Frame) :
    p.Sound ∧ ∃ new, Told first o p new := by
  have reported (hd : PktHd) (fr : Frame) : (o.tell (.recvFrame hd fr)).Sound ∧
      Told first o (o.tell (.recvFrame hd fr)) [.recvFrame hd fr] :=
    ⟨⟨sound.named, sound.zero⟩, .quiet rfl (fun _ => rfl) (by simp)⟩
  cases course with
  | deed deed =>
    obtain ⟨sound', new, told, quiet⟩ := deed.told sound
    -- nothing is closed without a frame
    refine ⟨sound', new, told.log, told.kept, fun pre post id code split => ?_⟩
    refine (told.closed pre post id code split).imp_left ?_
    rintro ⟨fr, frame, -⟩
    rw [frameInHand_quiet _ fun e member => quiet e (split ▸ List.mem_append_left _ member)] at frame
    cases frame
  | refused hd fr => exact ⟨(reported hd fr).1, _, (reported hd fr).2⟩
  | handled hd fr handled =>
    obtain ⟨sound', told⟩ := reported hd fr
    cases fr with
    | maxStreamId n =>
      obtain rfl := handled
      obtain ⟨sound'', told'⟩ := Outline.raise_told _ n sound' (frameInHand first [.recvFrame hd (.maxStreamId n)])
      exact ⟨sound'', _, told.trans told'⟩
    | _ =>
      obtain ⟨sound'', new, told', -⟩ := Deed.told_run handled sound'
      exact ⟨sound'', _, told.trans told'⟩
  | retry =>
    have same : ∀ id, Outline.tag { o.setTag 0 (some (.fresh 0)) with entries := [] } id = o.tag id := by
      intro id
      refine (o.tag_setTag 0 id _).trans ?_
      split
      next zero => simp [zero, sound.zero]
      next => rfl
    refine ⟨⟨fun id => ?_, ?_⟩, [], .quiet (by simp [Outline.setTag]) same (by simp)⟩
    · exact (congrArg Tag.streamId (same id)).trans (sound.named id)
    · exact (same 0).trans sound.zero
  | notify bidi now => exact ⟨⟨sound.named, sound.zero⟩, _, .quiet rfl (fun _ => rfl) (by simp)⟩

theorem Course.told_run {completing : Prop} (courses : ReflTransGen (Course completing) o p) (sound : o.Sound)
    (first : Option Frame) : p.Sound ∧ ∃ new, Told first o p new := by
  induction courses with
  | refl => exact ⟨sound, [], .refl o⟩
  | tail _ course ih =>
    obtain ⟨sound', new, told⟩ := ih
    obtain ⟨sound'', later, told'⟩ := course.told sound' (frameInHand first new)
    exact ⟨sound'', new ++ later, told.trans told'⟩

theorem Turn.told {call : Call} {s : Conn} (turn : Turn call s p) (sound : s.outline.Sound) :
    p.Sound ∧ ∃ new, Told call.frame? s.outline p new := by
  cases turn with
  | deeds d frame deeds =>
    obtain ⟨sound', new, told, -⟩ := Deed.told_run deeds sound
    exact ⟨sound', new, frame ▸ told⟩
  | raised n frame raised =>
    obtain ⟨sound', told⟩ := s.outline.raise_told n sound call.frame?
    exact ⟨raised ▸ sound', _, raised ▸ told⟩
  | course frame course => exact Course.told_run course sound _

end

section

variable (app : App) {s : Conn} {id : Nat} {strm : Strm}

theorem Conn.outline_found (found : s.strms id = some strm) : s.outline.setTag id (some strm.tag) = s.outline := by
  have here : s.outline.tags id = some strm.tag := by simp [Conn.outline, found]
  unfold Outline.setTag
  rw [← here, Function.update_eq_self]

theorem Conn.fcUnlinked_outline (found : s.strms id = some strm) : (s.fcUnlinked id strm).outline = s.outline := by
  have same : Option.map Strm.tag (some { strm with fcPprev := false }) = some strm.tag := rfl
  unfold Conn.fcUnlinked
  split
  · change Conn.outline { s with strms := Function.update s.strms id (some { strm with fcPprev := false }) } = _
    rw [Conn.outline_setStrm, same, Conn.outline_found found]
  · rfl

theorem connShutdownStreamRead_tag (code : Nat) (found : s.strms id = some strm) :
    wp (connShutdownStreamRead app id code)
      (fun _ t => ∃ strm', t.strms id = some strm' ∧ strm'.sentRst = strm.sentRst ∧
        strm'.tag = (if strm.stopSending then strm.tag else { strm.tag with appErrorCode := code, stopSending := true }) ∧
        t.outline = s.outline.setTag id (some strm'.tag)) (fun e _ => e.fatal = true) s := by
  unfold connShutdownStreamRead
  rw [wp_bind, wp_getStrm found]
  split
  next stopped => exact ⟨strm, found, rfl, rfl, (Conn.outline_found found).symm⟩
  next going =>
  let strm' : Strm := { strm with stopSending := true, appErrorCode := code }
  let u := s.setStrm id (some strm')
  have here : u.strms id = some strm' := Conn.setStrm_strms ..
  rw [wp_bind, wp_run_ok (modifyStrm_run _ found), connStopSending, wp_bind]
  refine wp_mono (connPushFrq_spec app _ u) ?_ fun _ _ fatal => fatal
  rintro _ t rfl
  have listed : (u.pushFrq (.stopSending { streamId := id, appErrorCode := code })).strms id = some strm' := here
  rw [wp_run_ok (connFcUnlink_run listed)]
  refine ⟨{ strm' with fcPprev := false }, Conn.fcUnlinked_strms listed, rfl, rfl, ?_⟩
  rw [Conn.fcUnlinked_outline listed]
  exact Conn.outline_setStrm id (some strm')

theorem connShutdownStreamWrite_tag (code : Nat) (found : s.strms id = some strm) :
    wp (connShutdownStreamWrite app id code)
      (fun _ t => t.outline =
        s.outline.setTag id (some (if strm.sentRst then strm.tag else { strm.tag with appErrorCode := code })))
      (fun e _ => e.fatal = true) s := by
  unfold connShutdownStreamWrite
  rw [wp_bind, wp_getStrm found]
  split
  · exact (Conn.outline_found found).symm
  let strm' : Strm := { strm with shutWr := true, sentRst := true, appErrorCode := code }
  let u := s.setStrm id (some strm')
  have here : u.strms id = some strm' := Conn.setStrm_strms ..
  rw [wp_bind, wp_run_ok (modifyStrm_run _ found), connRstStream, wp_bind, wp_getStrm here]
  refine wp_mono (connPushFrq_spec app _ u) ?_ fun _ _ fatal => fatal
  rintro _ t rfl
  exact Conn.outline_setStrm id (some strm')

/-- Where a shutdown has no effect, because that side of the stream has been shut down before, it brings
no other code. -/
def Call.Heeded (s : Conn) : Call → Prop
  | .shutdownStream id code => ∀ strm, s.strms id = some strm → strm.stopSending = true → strm.sentRst = true →
    code = strm.appErrorCode
  | .shutdownStreamWrite id code => ∀ strm, s.strms id = some strm → strm.sentRst = true → code = strm.appErrorCode
  | .shutdownStreamRead id code => ∀ strm, s.strms id = some strm → strm.stopSending = true → code = strm.appErrorCode
  | _ => True

theorem Call.exec_shut {call : Call} {code : Nat} (shuts : call.shuts = some (id, code)) (s : Conn) :
    wp (call.exec app)
      (fun _ t => id ≠ 0 ∧ ∃ strm tag, s.strms id = some strm ∧ tag.streamId = strm.streamId ∧
        t.outline = s.outline.setTag id (some tag) ∧ (call.Heeded s → tag.appErrorCode = code))
      (fun e t => e.fatal = true ∨ t = s) s := by
  have checked {m : ConnM Unit} {Q : Strm → Conn → Prop}
      (spec : ∀ strm, s.strms id = some strm → wp m (fun _ => Q strm) (fun e _ => e.fatal = true) s) :
      wp (returns0 (shutdownChecked id code m))
        (fun _ t => id ≠ 0 ∧ ∃ strm, s.strms id = some strm ∧ Q strm t) (fun e t => e.fatal = true ∨ t = s) s := by
    unfold returns0 shutdownChecked
    rw [wp_bind]
    split
    · exact .inr rfl
    next valid =>
    rw [wp_bind, wp_findStream]
    cases found : s.strms id with
    | none => exact .inr rfl
    | some strm =>
      have plain : id ≠ 0 := fun zero => valid (.inl zero)
      exact wp_mono (spec strm found) (fun _ t done => ⟨plain, strm, rfl, done⟩) fun _ _ fatal => .inl fatal
  cases call with
  | shutdownStream id' code' =>
    obtain ⟨rfl, rfl⟩ : id' = id ∧ code' = code := by simpa [Call.shuts] using shuts
    have both : ∀ strm, s.strms id' = some strm →
        wp (do connShutdownStreamRead app id' code'; connShutdownStreamWrite app id' code')
          (fun _ t => ∃ tag : Tag, tag.streamId = strm.streamId ∧ t.outline = s.outline.setTag id' (some tag) ∧
            (¬ (strm.stopSending = true ∧ strm.sentRst = true ∧ code' ≠ strm.appErrorCode) → tag.appErrorCode = code'))
          (fun e _ => e.fatal = true) s := by
      intro strm found
      rw [wp_bind]
      refine wp_mono (connShutdownStreamRead_tag app code' found) ?_ fun _ _ fatal => fatal
      rintro _ u ⟨strm', here, reset, tag, shown⟩
      refine wp_mono (connShutdownStreamWrite_tag app code' here) ?_ fun _ _ fatal => fatal
      intro _ t written
      rw [shown, reset] at written
      refine ⟨_, ?_, by rw [written, Outline.setTag_setTag], fun given => ?_⟩
      · rw [tag]
        split <;> split <;> rfl
      · rw [tag]
        by_cases stopped : strm.stopSending = true
        · by_cases reset : strm.sentRst = true
          · simpa [stopped, reset, Strm.tag, eq_comm] using given
          · simp [reset]
        · by_cases reset : strm.sentRst = true <;> simp [stopped, reset]
    refine wp_mono (checked both) ?_ fun _ _ failed => failed
    rintro _ t ⟨plain, strm, found, tag, named, shown, given⟩
    refine ⟨plain, strm, tag, found, named, shown, fun heeded => given ?_⟩
    rintro ⟨stopped, reset, other⟩
    exact other (heeded strm found stopped reset)
  | shutdownStreamWrite id' code' =>
    obtain ⟨rfl, rfl⟩ : id' = id ∧ code' = code := by simpa [Call.shuts] using shuts
    refine wp_mono (checked fun strm found => connShutdownStreamWrite_tag app code' found) ?_ fun _ _ failed => failed
    rintro _ t ⟨plain, strm, found, shown⟩
    refine ⟨plain, strm, _, found, ?_, shown, fun heeded => ?_⟩
    · split <;> rfl
    · split
      next reset => exact (heeded strm found reset).symm
      next => rfl
  | shutdownStreamRead id' code' =>
    obtain ⟨rfl, rfl⟩ : id' = id ∧ code' = code := by simpa [Call.shuts] using shuts
    refine wp_mono (checked fun strm found => connShutdownStreamRead_tag app code' found) ?_ fun _ _ failed => failed
    rintro _ t ⟨plain, strm, found, strm', -, -, tag, shown⟩
    refine ⟨plain, strm, strm'.tag, found, ?_, shown, fun heeded => ?_⟩
    · rw [tag]
      split <;> rfl
    · rw [tag]
      split
      next stopped => exact (heeded strm found stopped).symm
      next => rfl
  | _ => cases shuts

end

def lastShutdown (id : Nat) (acts : List Act) : Nat :=
  acts.foldl (fun last act =>
    match act.call.shuts, act.result with
    | some (shut, code), .ok _ => if shut = id then code else last
    | _, _ => last) 0

def Frame.closeCode : Frame → Nat
  | .rstStream fr => fr.appErrorCode
  | .stopSending fr => fr.appErrorCode
  | _ => ngtcp2NoError

def dueCode (own : Nat) (fr : Frame) : Nat := if own ≠ 0 then own else fr.closeCode

/-- RST_STREAM and STOP_SENDING bring the stream's own code, zero if it has none, and a stream with a
code of its own does not end with data or an acknowledgement, unless FIN comes after the application has
stopped reading. -/
def CodesAgree (own : Nat) (stopped : Bool) : Frame → Prop
  | .rstStream fr => fr.appErrorCode = own
  | .stopSending fr => fr.appErrorCode = own
  | .stream _ => own = 0 ∨ stopped = true
  | _ => own = 0

theorem told_due_iff (tag : Tag) (fr : Frame) :
    tag.told fr = dueCode tag.appErrorCode fr ↔ CodesAgree tag.appErrorCode tag.stopSending fr := by
  unfold Tag.told dueCode
  cases fr with
  | rstStream fr | stopSending fr =>
    by_cases none : tag.appErrorCode = 0
    · simp only [none, if_true, ne_eq, not_true, if_false, CodesAgree, Frame.closeCode]
      exact eq_comm
    · simp [none, CodesAgree, Doing.cause]
  | stream fr =>
    by_cases none : tag.appErrorCode = 0
    · simp [none, CodesAgree, Frame.closeCode, ngtcp2NoError]
    · by_cases stopped : tag.stopSending = true
      · simp [none, stopped, CodesAgree, Doing.cause]
      · simpa [none, stopped, CodesAgree, Doing.cause, ngtcp2NoError] using Ne.symm none
  | _ =>
    by_cases none : tag.appErrorCode = 0
    · simp [none, CodesAgree, Frame.closeCode, ngtcp2NoError]
    · simpa [none, CodesAgree, Doing.cause, ngtcp2NoError] using Ne.symm none

def Conn.stopped (c : Conn) (id : Nat) : Bool := (c.strms id).any Strm.stopSending

theorem Conn.stopped_tag (c : Conn) (id : Nat) : (c.outline.tag id).stopSending = c.stopped id := by
  cases found : c.strms id <;> simp [Outline.tag, Conn.outline, Conn.stopped, found, Tag.fresh, Strm.tag]

structure Conn.Coded (c : Conn) (acts : List Act) : Prop where
  sound : c.outline.Sound
  own : ∀ id, (c.outline.tag id).appErrorCode = lastShutdown id acts ∨ ∃ code, .streamClose id code ∈ c.log

structure HeededStep (s : Conn) (act : Act) (t : Conn) : Prop where
  step : Step s act t
  heeded : act.call.Heeded s

theorem Started.coded {c : Conn} (first : Started c) : c.Coded [] := by
  have fresh : ∀ id, c.outline.tag id = .fresh id := by
    intro id
    cases first <;> unfold Outline.tag Conn.outline <;> by_cases zero : id = 0 <;>
      simp [ngtcp2ConnClientNew, ngtcp2ConnServerNew, connNew, zero, Strm.tag, ngtcp2StrmInit, Tag.fresh]
  exact ⟨⟨fun id => by rw [fresh]; rfl, fresh 0⟩, fun id => .inl (by rw [fresh]; rfl)⟩

section

variable {s t : Conn} {act : Act} {acts : List Act}

theorem Conn.mem_outline {id code : Nat} : .streamClose id code ∈ s.outline.log ↔ .streamClose id code ∈ s.log := by
  simp [Conn.outline, Event.told]

theorem lastShutdown_concat (id : Nat) (acts : List Act) (act : Act) :
    lastShutdown id (acts ++ [act]) =
      match act.call.shuts, act.result with
      | some (shut, code), .ok _ => if shut = id then code else lastShutdown id acts
      | _, _ => lastShutdown id acts := by
  unfold lastShutdown
  rw [List.foldl_append]
  rfl

theorem Step.turn (step : Step s act t) (plain : act.call.shuts = none) : Turn act.call s t.outline := by
  have turn := act.call.exec_turn act.app plain s
  unfold wp at turn
  rw [step.exec] at turn
  cases result : act.result <;> simpa [result] using turn

theorem Conn.Coded.step (coded : s.Coded acts) (heeded : act.call.Heeded s) (step : Step s act t) :
    t.Coded (acts ++ [act]) := by
  cases shuts : act.call.shuts with
  | none =>
    obtain ⟨sound, new, told⟩ := (step.turn shuts).told coded.sound
    refine ⟨sound, fun id => ?_⟩
    rw [lastShutdown_concat, shuts]
    dsimp only
    have later {code : Nat} (closed : .streamClose id code ∈ s.outline.log ++ new) : .streamClose id code ∈ t.log :=
      Conn.mem_outline.mp (told.log ▸ closed)
    rcases told.kept id with same | ⟨code, closed⟩
    · rw [same]
      exact (coded.own id).imp_right fun ⟨code, closed⟩ =>
        ⟨code, later (List.mem_append_left _ (Conn.mem_outline.mpr closed))⟩
    · exact .inr ⟨code, later (List.mem_append_right _ closed)⟩
  | some pair =>
    obtain ⟨id, code⟩ := pair
    have shut := act.call.exec_shut act.app shuts s
    cases result : act.result with
    | error e =>
      rcases wp_error shut (result ▸ step.exec) with fatal | rfl
      · simp [step.alive e result] at fatal
      · refine ⟨coded.sound, fun key => ?_⟩
        rw [lastShutdown_concat, shuts, result]
        exact coded.own key
    | ok n =>
      obtain ⟨plain, strm, tag, found, named, shown, given⟩ := wp_ok shut (result ▸ step.exec)
      have tags : ∀ key, t.outline.tag key = if key = id then tag else s.outline.tag key := by
        intro key
        rw [shown, Outline.tag_setTag]
        rfl
      have here : s.outline.tag id = strm.tag := by simp [Outline.tag, Conn.outline, found]
      have streamId : strm.streamId = id := by
        have named := coded.sound.named id
        rwa [here] at named
      have log : t.outline.log = s.outline.log := by rw [shown]; rfl
      refine ⟨⟨fun key => ?_, ?_⟩, fun key => ?_⟩
      · rw [tags]
        split
        next same => rw [named, streamId, same]
        next => exact coded.sound.named key
      · rw [tags, if_neg plain.symm]
        exact coded.sound.zero
      · rw [tags, lastShutdown_concat, shuts, result]
        dsimp only
        by_cases same : key = id
        · rw [if_pos same, if_pos same.symm]
          exact .inl (given heeded)
        · rw [if_neg same, if_neg (Ne.symm same)]
          refine (coded.own key).imp_right fun ⟨code, closed⟩ => ⟨code, ?_⟩
          rw [← Conn.mem_outline, log]
          exact Conn.mem_outline.mpr closed

theorem HeededStep.runs (run : Run HeededStep Started acts s) : Runs acts s := by
  induction run with
  | start first => exact .start first
  | next _ taken ih => exact .next ih taken.step

theorem HeededStep.coded (run : Run HeededStep Started acts s) : s.Coded acts :=
  run.invariant (P := fun acts c => c.Coded acts) (fun _ => Started.coded) fun _ _ _ _ coded taken =>
    coded.step taken.heeded taken.step

theorem Runs.heeded (run : Runs acts s) (plain : ∀ act ∈ acts, act.call.shuts = none) :
    Run HeededStep Started acts s := by
  induction run with
  | start first => exact .start first
  | @next acts s t act _ taken ih =>
    refine .next (ih fun act member => plain act (List.mem_append_left _ member)) ⟨taken, ?_⟩
    have none := plain act (by simp)
    unfold Call.Heeded
    split <;> first | trivial | simp_all [Call.shuts]

theorem filterMap_frame (log : List Event) :
    (log.filter Event.told).filterMap Event.frame? = log.filterMap Event.frame? := by
  rw [List.filterMap_filter]
  refine List.filterMap_congr fun e _ => ?_
  cases e with
  | mark m => cases m <;> rfl
  | _ => rfl

end

-- the application resets stream 4, and the peer resets it with the same code
def opened4 : List (App × Call) :=
  [(.quiet, .frame (.stream { fin := false, streamId := 4, offset := 0, data := [1] }))]

def shutdown4 : Call := .shutdownStream 4 7

def reset4 : Call := .frame (.rstStream { streamId := 4, appErrorCode := 7, finalOffset := 1 })

-- the peer stops stream 4 and resets it with a code of its own, which the application is not told
def peerReset4 : List (App × Call) :=
  opened4 ++ [(.quiet, .frame (.stopSending { streamId := 4, appErrorCode := 5 })), (.quiet, reset4)]

end Ngtcp2
