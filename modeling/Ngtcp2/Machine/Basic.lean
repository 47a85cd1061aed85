import Ngtcp2.Machine.Does

namespace Ngtcp2

open Prog Relation

variable {sc : Scope} (app : App)

def Conn.emit (c : Conn) (e : Event) : Conn := { c with log := c.log ++ [e] }

def Conn.setStrm (c : Conn) (id : Nat) (strm : Option Strm) : Conn :=
  { c with strms := Function.update c.strms id strm }

def Conn.setIdtr (c : Conn) (id : Nat) (idtr : Idtr) : Conn :=
  { c with
    remoteBidiIdtr := if bidiStream id then idtr else c.remoteBidiIdtr
    remoteUniIdtr := if bidiStream id then c.remoteUniIdtr else idtr }

theorem Conn.view_enter (c : Conn) (state : ConnState) : (c.enter state).view = c.view.enter state := by
  simp [Conn.enter, Conn.view, View.enter, Event.kept]

theorem Conn.view_emit (c : Conn) {e : Event} (kept : e.kept = true) :
    (c.emit e).view = c.view.emit e := by
  simp [Conn.emit, Conn.view, View.emit, kept]

theorem Conn.view_setStrm (c : Conn) (id : Nat) (strm : Option Strm) :
    (c.setStrm id strm).view = c.view.setStrm id (strm.map Strm.view) := by
  unfold Conn.setStrm Conn.view View.setStrm
  congr
  funext id'
  by_cases same : id' = id
  · subst same
    simp
  · simp [same]

theorem Conn.view_strms {c : Conn} {id : Nat} {strm : Strm} (found : c.strms id = some strm) :
    c.view.strms id = some strm.view := by
  simp [Conn.view, found]

@[simp] theorem Conn.setStrm_strms (c : Conn) (id : Nat) (strm : Option Strm) :
    (c.setStrm id strm).strms id = strm := by
  simp [Conn.setStrm]

@[simp] theorem Conn.setStrm_setStrm (c : Conn) (id : Nat) (strm strm' : Option Strm) :
    (c.setStrm id strm).setStrm id strm' = c.setStrm id strm' := by
  simp [Conn.setStrm]

theorem modifyStrm_run {c : Conn} {id : Nat} {strm : Strm} (f : Strm → Strm)
    (found : c.strms id = some strm) :
    modifyStrm id f c = (.ok (), c.setStrm id (some (f strm))) := by
  change (Except.ok PUnit.unit, c.setStrm id ((c.strms id).map f)) = _
  rw [found]
  rfl

theorem Conn.view_opened {c : Conn} {id : Nat} {strm : Strm} (found : c.strms id = some strm) :
    (c.view.strms id).isSome = true := by
  simp [Conn.view, found]

theorem modifyStrm_opened {s t : Conn} {id : Nat} {strm : Strm} {f : Strm → Strm} {a : Unit}
    (found : s.strms id = some strm) (run : modifyStrm id f s = (.ok a, t)) :
    (t.view.strms id).isSome = true := by
  rw [modifyStrm_run f found] at run
  cases run
  exact Conn.view_opened (Conn.setStrm_strms _ _ _)

theorem connMark_run (m : Mark) (c : Conn) : connMark m c = (.ok (), c.emit (.mark m)) := rfl

section

variable {Q : Unit → Conn → Prop} {E : Err → Conn → Prop}

theorem wp_connMark (m : Mark) (c : Conn) : wp (connMark m) Q E c = Q () (c.emit (.mark m)) := rfl

theorem wp_connMarkEntry (m : Option Nat → Mark) (c : Conn) :
    wp (connMarkEntry m) Q E c = Q () (c.emit (.mark (m c.view.headPktNum))) := rfl

theorem wp_modifyStrm {c : Conn} {id : Nat} {strm : Strm} (f : Strm → Strm)
    (found : c.strms id = some strm) :
    wp (modifyStrm id f) Q E c = Q () (c.setStrm id (some (f strm))) := by
  unfold wp
  rw [modifyStrm_run f found]

end

theorem View.setStrm_self {v : View} {id : Nat} {strm : Option Strm} (same : v.strms id = strm) :
    v.setStrm id strm = v := by
  subst same
  simp [View.setStrm]

theorem modifyStrm_still {id : Nat} {f : Strm → Strm} (same : ∀ strm, (f strm).view = strm.view) :
    Still (modifyStrm id f) := by
  refine .modify fun c => (Conn.view_setStrm c id _).trans (View.setStrm_self ?_)
  cases found : c.strms id <;> simp [Conn.view, found, same]

theorem modifyStrm_does {id : Nat} {f : Strm → Strm}
    (move : ∀ v strm, v.strms id = some strm → ∀ raw : Strm, raw.view = strm →
      Move sc v (v.setStrm id (some (f raw).view))) : Does sc (modifyStrm id f) := by
  intro s
  refine .modified ?_
  have view := Conn.view_setStrm s id ((s.strms id).map f)
  cases found : s.strms id with
  | none =>
    rw [found] at view
    exact .of_same (view.trans (View.setStrm_self (by simp [Conn.view, found])))
  | some strm =>
    rw [found] at view
    apply Reaches.of_move
    exact view ▸ move s.view strm.view (Conn.view_strms found) strm rfl

theorem emitEvent_still {e : Event} (plain : e.kept = false) : Still (emitEvent e) :=
  .modify fun c => by simp [Conn.view, List.filter_append, plain]

theorem connCall_still {e : Event} (plain : e.kept = false) : Still (connCall app e) := by
  refine .get fun c => .bind (emitEvent_still plain) fun _ => ?_
  split
  · exact .pure _
  · exact .throw _

section Succeeds

variable {app} {s : Conn}

theorem connCall_succeeds {e : Event} (ok : app.ok s.log e = true) : connCall app e s = (.ok (), s.emit e) := by
  simp only [connCall]
  change (if app.ok s.log e then pure () else throw Err.CALLBACK_FAILURE : ConnM Unit) (s.emit e) = _
  rw [if_pos ok]
  rfl

theorem malloc_succeeds (memory : app.malloc s.nalloc = true) :
    malloc app s = (.ok s.nalloc, { s with nalloc := s.nalloc + 1 }) := by
  change (if app.malloc s.nalloc then pure s.nalloc else throw Err.NOMEM : ConnM Nat) { s with nalloc := s.nalloc + 1 } = _
  rw [if_pos memory]
  rfl

theorem malloc_fails (memory : ¬ app.malloc s.nalloc = true) :
    malloc app s = (.error .NOMEM, { s with nalloc := s.nalloc + 1 }) := by
  change (if app.malloc s.nalloc then pure s.nalloc else throw Err.NOMEM : ConnM Nat) { s with nalloc := s.nalloc + 1 } = _
  rw [if_neg memory]
  rfl

end Succeeds

theorem connCall_ok {e : Event} {s t : Conn} {a : Unit} (run : connCall app e s = (.ok a, t)) :
    t = s.emit e := by
  change (if app.ok s.log e then pure () else throw .CALLBACK_FAILURE : ConnM Unit) (s.emit e) = _
    at run
  split at run
  · cases run
    rfl
  · cases run

theorem connCall_failed {e : Event} {s t : Conn} {err : Err}
    (run : connCall app e s = (.error err, t)) : err = .CALLBACK_FAILURE := by
  change (if app.ok s.log e then pure () else throw .CALLBACK_FAILURE : ConnM Unit) (s.emit e) = _
    at run
  split at run
  · cases run
  · cases run
    rfl

theorem connCall_error {e : Event} {s t : Conn} {err : Err}
    (run : connCall app e s = (.error err, t)) : err.fatal = true := by
  rw [connCall_failed app run]
  rfl

theorem connCall_deliver {id : Nat} {s : Conn} (fin : Bool) (data : List UInt8) (allowed : sc.rx id)
    (opened : (s.view.strms id).isSome = true) :
    Goes (Reaches sc) (Fails sc) (connCall app (.recvStreamData id fin data)) s := by
  refine .got (.seq (.modified (.of_move ?_)) fun _ t _ => ?_)
  · have view := s.view_emit (e := .recvStreamData id fin data) rfl
    exact view ▸ .deliver s.view id fin data allowed opened
  · split
    · exact .done _
    · exact .failed _

theorem malloc_does : Does sc (malloc app) := by
  refine .get fun c => .bind (.move fun c => ?_) fun _ => ?_
  · exact .alloc _ _ (Nat.le_succ _)
  · split
    · exact .pure _
    · exact .throw _

theorem malloc_ok {s t : Conn} {a : Nat} (run : malloc app s = (.ok a, t)) :
    a = s.nalloc ∧ t = { s with nalloc := s.nalloc + 1 } := by
  change (if app.malloc s.nalloc then pure s.nalloc else throw .NOMEM : ConnM Nat)
    { s with nalloc := s.nalloc + 1 } = _ at run
  split at run
  · cases run
    exact ⟨rfl, rfl⟩
  · cases run

theorem ngtcp2ConnFindStream_still (id : Nat) : Still (ngtcp2ConnFindStream id) :=
  .get fun _ => .pure _

theorem wp_findStream {id : Nat} {Q : Option Strm → Conn → Prop} {E : Err → Conn → Prop} {s : Conn} :
    wp (ngtcp2ConnFindStream id) Q E s = Q (s.strms id) s := rfl

theorem getStrm_still (id : Nat) : Still (getStrm id) := by
  refine .get fun c => ?_
  split
  · exact .pure _
  · exact .throw _

theorem getStrm_run {id : Nat} {s : Conn} {strm : Strm} (found : s.strms id = some strm) :
    getStrm id s = (.ok strm, s) := by
  unfold getStrm
  rw [Prog.get_bind, found]
  rfl

theorem getStrm_none {id : Nat} {s : Conn} (missing : s.strms id = none) : getStrm id s = (.error .ABORT, s) := by
  unfold getStrm
  rw [Prog.get_bind, missing]
  rfl

theorem getStrm_ok {id : Nat} {s t : Conn} {strm : Strm} (run : getStrm id s = (.ok strm, t)) :
    t = s ∧ s.strms id = some strm := by
  cases found : s.strms id with
  | none => cases (getStrm_none found).symm.trans run
  | some strm' =>
    cases (getStrm_run found).symm.trans run
    exact ⟨rfl, rfl⟩

theorem getStrm_error {id : Nat} {s t : Conn} {e : Err} (run : getStrm id s = (.error e, t)) :
    e.fatal = true := by
  cases found : s.strms id with
  | none =>
    cases (getStrm_none found).symm.trans run
    rfl
  | some strm => cases (getStrm_run found).symm.trans run

theorem getStrm_error_same {id : Nat} {s t : Conn} {e : Err} (run : getStrm id s = (.error e, t)) :
    t = s := by
  cases found : s.strms id with
  | none =>
    cases (getStrm_none found).symm.trans run
    rfl
  | some strm => cases (getStrm_run found).symm.trans run

theorem wp_getStrm {id : Nat} {s : Conn} {strm : Strm} (found : s.strms id = some strm)
    {Q : Strm → Conn → Prop} {E : Err → Conn → Prop} : wp (getStrm id) Q E s = Q strm s :=
  wp_run_ok (getStrm_run found)

theorem Does.strm {α : Type} {id : Nat} {f : Strm → ConnM α}
    (rest : ∀ strm s, s.strms id = some strm → Goes (Reaches sc) (Fails sc) (f strm) s) :
    Does sc (getStrm id >>= f) := by
  refine fun s => .seq ((getStrm_still id).does s) fun strm t run => ?_
  obtain ⟨rfl, found⟩ := getStrm_ok run
  exact rest strm t found

theorem setState_goes {state : ConnState} {s : Conn} (allowed : sc.become state)
    (stays : s.state.closed = true → state.closed = true) :
    Goes (Reaches sc) (Fails sc) (setState state) s :=
  .modified (.of_move (s.view_enter state ▸ .enter s.view state allowed stays))

theorem connRecvConnectionClose_does (allowed : sc.become .DRAINING) :
    Does sc connRecvConnectionClose :=
  fun _ => setState_goes allowed fun _ => rfl

def Conn.fcUnlinked (c : Conn) (id : Nat) (strm : Strm) : Conn :=
  if strm.fcPprev then
    { c.setStrm id (some { strm with fcPprev := false }) with fcStrms := c.fcStrms.erase id }
  else c

theorem connFcUnlink_run {id : Nat} {s : Conn} {strm : Strm} (found : s.strms id = some strm) :
    connFcUnlink id s = (.ok (), s.fcUnlinked id strm) := by
  unfold connFcUnlink Conn.fcUnlinked
  rw [bind_ok (getStrm_run found)]
  split
  · exact modifyStrm_run (c := { s with fcStrms := s.fcStrms.erase id }) _ found
  · rfl

theorem Conn.fcUnlinked_strms {c : Conn} {id : Nat} {strm : Strm} (found : c.strms id = some strm) :
    (c.fcUnlinked id strm).strms id = some { strm with fcPprev := false } := by
  unfold Conn.fcUnlinked
  split
  · exact Conn.setStrm_strms ..
  next unlisted => simpa [← Bool.eq_false_iff.mpr unlisted] using found

theorem Conn.fcUnlinked_reaches {c : Conn} {id : Nat} {strm : Strm} (found : c.strms id = some strm) :
    Reaches sc c (c.fcUnlinked id strm) := by
  unfold Conn.fcUnlinked
  split
  next listed =>
    refine .of_move ?_
    change Move sc _ { Conn.view (c.setStrm id _) with fcStrms := _ }
    rw [Conn.view_setStrm]
    exact .fcUnlink c.view id strm.view (Conn.view_strms found) listed
  next => exact .refl

theorem connPushFrq_does {fr : Frame} (due : ∀ v : View, v.Queues fr) : Does sc (connPushFrq app fr) :=
  .bind (malloc_does app) fun _ => .move fun c => .push _ fr (due c.view)

def Plain (s t : Conn) : Prop :=
  ∃ n es, s.nalloc ≤ n ∧ (∀ e ∈ es, e.kept = false) ∧ t = { s with nalloc := n, log := s.log ++ es }

theorem Plain.refl (s : Conn) : Plain s s := ⟨s.nalloc, [], Nat.le_refl _, by simp, by simp⟩

theorem Plain.trans {s t u : Conn} (first : Plain s t) (second : Plain t u) : Plain s u := by
  obtain ⟨n, es, le, plain, rfl⟩ := first
  obtain ⟨m, fs, le', plain', rfl⟩ := second
  refine ⟨m, es ++ fs, Nat.le_trans le le', fun e member => ?_, by simp⟩
  rcases List.mem_append.mp member with member | member
  · exact plain e member
  · exact plain' e member

theorem Plain.emit (s : Conn) {e : Event} (plain : e.kept = false) : Plain s (s.emit e) :=
  ⟨s.nalloc, [e], Nat.le_refl _, by simpa using plain, rfl⟩

theorem Plain.alloc (s : Conn) : Plain s { s with nalloc := s.nalloc + 1 } :=
  ⟨s.nalloc + 1, [], Nat.le_succ _, by simp, by simp⟩

theorem Plain.view {s t : Conn} (plain : Plain s t) :
    s.nalloc ≤ t.nalloc ∧ t.view = { s.view with nalloc := t.nalloc } := by
  obtain ⟨n, es, le, hidden, rfl⟩ := plain
  refine ⟨le, ?_⟩
  have none : es.filter Event.kept = [] := by
    simpa [List.filter_eq_nil_iff] using hidden
  simp [Conn.view, none]

def Aside (s t : Conn) : Prop :=
  ∀ sc hand, ReflTransGen (Move sc) { s.view with hand := hand } { t.view with hand := hand }

theorem Aside.refl (s : Conn) : Aside s s := fun _ _ => .refl

theorem Aside.trans {s t u : Conn} (first : Aside s t) (second : Aside t u) : Aside s u :=
  fun sc hand => (first sc hand).trans (second sc hand)

theorem Aside.reaches {s t : Conn} (aside : Aside s t) : Reaches sc s t := aside sc none

theorem Aside.silent {s t : Conn} (aside : Aside s t) :
    t.view.next = s.view.next ∧ (s.view.Ready → t.view.Ready) := by
  have silent := Move.silent_run (aside .none none) id
  exact ⟨congrArg (add64 · 1) silent.1, silent.2⟩

theorem Plain.aside {s t : Conn} (plain : Plain s t) : Aside s t := by
  obtain ⟨grows, view⟩ := plain.view
  intro sc hand
  rw [view]
  exact .single (.alloc { s.view with hand := hand } _ grows)

theorem connCall_plain {e : Event} {s : Conn} (plain : e.kept = false) :
    wp (connCall app e) (fun _ t => Plain s t) (fun e _ => e.fatal = true) s := by
  refine wp_intro (fun _ t run => ?_) fun _ _ run => connCall_error app run
  cases connCall_ok app run
  exact .emit s plain

theorem malloc_plain (s : Conn) :
    wp (malloc app) (fun a t => a = s.nalloc ∧ t = { s with nalloc := s.nalloc + 1 })
      (fun e _ => e.fatal = true) s := by
  refine wp_intro (fun _ t run => malloc_ok app run) fun e t run => ?_
  change (if app.malloc s.nalloc then pure s.nalloc else throw .NOMEM : ConnM Nat)
    { s with nalloc := s.nalloc + 1 } = _ at run
  split at run
  · cases run
  · cases run
    rfl

theorem mallocs_plain (n : Nat) (s : Conn) :
    wp (mallocs app n) (fun _ t => Plain s t) (fun e _ => e.fatal = true) s := by
  induction n generalizing s with
  | zero => exact .refl s
  | succ n ih =>
    unfold mallocs
    rw [wp_bind]
    refine wp_mono (malloc_plain app s) ?_ fun _ _ fatal => fatal
    rintro _ t ⟨-, rfl⟩
    exact wp_mono (ih _) (fun _ _ plain => (Plain.alloc s).trans plain) fun _ _ fatal => fatal

end Ngtcp2
