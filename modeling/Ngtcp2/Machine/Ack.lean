import Mathlib.Data.List.TakeWhile
import Ngtcp2.Machine.RecvFrame

namespace Ngtcp2

open Prog Relation

variable {sc : Scope} (app : App)

theorem ackScan_suffix (unprotected : Bool) (ents : List AcktrEntry) (scan : AckScan) :
    (ackScan unprotected ents scan).2 <:+ ents := by
  induction ents generalizing scan with
  | nil => exact List.suffix_refl _
  | cons e rest ih =>
    simp only [ackScan]
    split
    · exact (ih _).trans (List.suffix_cons e rest)
    split
    · exact (ih _).trans (List.suffix_cons e rest)
    split
    · exact List.suffix_refl _
    · exact (ih _).trans (List.suffix_cons e rest)

def AckMade (unprotected : Bool) (c : Conn) (ack : Ack) : Prop :=
  Created unprotected c.view.tracked ack ∧ (unprotected = true → Vouched c.view.log)

theorem vouched_emit (log : List Event) (tracked : List Nat) :
    Vouched (log ++ [.mark (.unprotectedAck tracked)]) :=
  ⟨log, tracked, [], rfl, by simp⟩

theorem markUnprotectedAck_run (unprotected : Bool) (s : Conn) :
    ∃ t, markUnprotectedAck unprotected s = (.ok (), t) ∧ Aside s t ∧
      (unprotected = true → Vouched t.view.log) := by
  cases unprotected with
  | false => exact ⟨s, rfl, .refl s, by simp⟩
  | true =>
    have view := Conn.view_emit s
      (e := .mark (.unprotectedAck (s.acktr.ent.map AcktrEntry.pktNum))) rfl
    refine ⟨_, rfl, fun sc hand => .single ?_, fun _ => ?_⟩
    · change Move sc _ { Conn.view (s.emit _) with hand := hand }
      rw [view]
      exact .askUnprotected { s.view with hand := hand }
    · exact (congrArg View.log view) ▸ vouched_emit _ _

theorem connForgetAck_ok {left : List AcktrEntry} {s t : Conn} {a : Unit}
    (run : connForgetAck left s = (.ok a, t)) :
    t.acktr.ent = s.acktr.ent.take (s.acktr.ent.length - left.length) ∧ t.log = s.log := by
  unfold connForgetAck at run
  split at run
  case isTrue empty =>
    cases run
    simp [empty]
  case isFalse =>
    cases run
    exact ⟨rfl, rfl⟩

theorem connForgetAck_spec (left : List AcktrEntry) (s : Conn) :
    wp (connForgetAck left) (fun _ t => Aside s t) (fun _ _ => False) s := by
  unfold connForgetAck
  split
  · exact .refl s
  · exact fun sc hand => .single (.forget { s.view with hand := hand } _ (List.take_sublist _ _))

theorem keptAck_append {unprotected : Bool} {ents rest : List AcktrEntry} {e : AcktrEntry}
    {scan : AckScan} {left : List AcktrEntry}
    (found : ents.dropWhile (fun e => unprotected && !e.unprotected) = e :: rest)
    (scanned : ackScan unprotected rest (AckScan.start e.pktNum) = (scan, left)) :
    ents.take (ents.length - left.length) ++ left = ents := by
  have inRest : left <:+ rest := by
    have suffix := ackScan_suffix unprotected rest (AckScan.start e.pktNum)
    rwa [scanned] at suffix
  have inEnts : e :: rest <:+ ents := found ▸ List.dropWhile_suffix _
  obtain ⟨kept, rfl⟩ := inRest.trans ((List.suffix_cons e rest).trans inEnts)
  simp

theorem invalidate_aside {unprotected : Bool} {s : Conn}
    (none : s.acktr.ent.dropWhile (fun e => unprotected && !e.unprotected) = [])
    (vouched : unprotected = true → Vouched s.view.log) :
    Aside s { s with nextAckExpiry := 0, immediateAck := false } := by
  intro sc hand
  apply ReflTransGen.single
  rw [List.dropWhile_eq_nil_iff] at none
  simp only [Bool.and_eq_true, Bool.not_eq_true', ← Bool.not_eq_true] at none
  cases tracked : s.acktr.ent with
  | nil => exact .disarm { s.view with hand := hand } (.inr tracked)
  | cons e rest =>
    have asked := (none e (by simp [tracked])).1
    exact .disarmUnprotected { s.view with hand := hand }
      (fun e member => by simpa using (none e member).2) (vouched asked)

theorem connCollectAck_spec (ts : Nat) (unprotected : Bool) {s : Conn}
    (vouched : unprotected = true → Vouched s.view.log) :
    wp (connCollectAck app ts unprotected)
      (fun r t => Aside s t ∧ ∀ ack, r = some ack → AckMade unprotected t ack)
      (fun e _ => e.fatal = true) s := by
  unfold connCollectAck
  rw [wp_bind, wp_get]
  split
  case h_1 none => exact ⟨invalidate_aside none vouched, by simp⟩
  case h_2 e rest found =>
  cases scanned : ackScan unprotected rest (AckScan.start e.pktNum) with
  | mk scan left =>
    dsimp only
    rw [wp_bind]
    refine wp_mono (mallocs_plain app _ s) (fun _ u plain => ?_) fun _ _ fatal => fatal
    rw [wp_bind]
    refine wp_mono (wp_run (connForgetAck_spec left u) fun _ _ => connForgetAck_ok)
      (fun _ t forgot => ?_) fun _ _ none => none.elim
    obtain ⟨aside, kept, log⟩ := forgot
    refine ⟨plain.aside.trans aside, fun ack made => ?_⟩
    cases made
    obtain ⟨n, es, -, hidden, rfl⟩ := plain
    refine ⟨⟨left, e, rest, scan, _, ?_, scanned, rfl⟩, fun asked => ?_⟩
    · change (t.acktr.ent ++ left).dropWhile _ = _
      rw [kept, keptAck_append found scanned]
      exact found
    · have same : t.view.log = s.view.log := by
        change t.log.filter Event.kept = _
        rw [log]
        simpa [Conn.view, List.filter_eq_nil_iff] using hidden
      exact same ▸ vouched asked

theorem connCreateAckFrame_spec (ts : Nat) (unprotected : Bool) (s : Conn) :
    wp (connCreateAckFrame app ts unprotected)
      (fun r t => Aside s t ∧ ∀ ack, r = some ack → AckMade unprotected t ack)
      (fun e _ => e.fatal = true) s := by
  change wp (if !s.acktr.activeAck then _ else _ : ConnM (Option Ack)) _ _ s
  split
  case isTrue idle =>
    have off : s.acktr.activeAck = false := by simpa using idle
    exact ⟨fun sc hand => .single (.disarm { s.view with hand := hand } (.inl off)), by simp⟩
  case isFalse =>
    obtain ⟨t, run, aside, vouched⟩ := markUnprotectedAck_run unprotected s
    rw [wp_bind]
    unfold wp
    rw [run]
    exact wp_mono (connCollectAck_spec app ts unprotected vouched)
      (fun r u made => ⟨aside.trans made.1, made.2⟩) fun _ _ fatal => fatal

theorem ngtcp2AcktrAdd_ok {acktr acktr' : Acktr} {ent : AcktrEntry} {active : Bool}
    (run : ngtcp2AcktrAdd acktr ent active = .ok acktr') :
    ∃ ents, acktrInsert ent acktr.ent = some ents ∧ acktr'.ent.Sublist ents ∧
      acktr'.activeAck = (acktr.activeAck || active) := by
  unfold ngtcp2AcktrAdd at run
  split at run
  · cases run
  case h_2 ents inserted =>
    dsimp only at run
    split at run
    · cases run
      exact ⟨ents, inserted, List.dropLast_sublist _, rfl⟩
    · cases run
      exact ⟨ents, inserted, List.Sublist.refl _, rfl⟩

theorem connArmAck_run (ts : Nat) (s : Conn) :
    ∃ t, connArmAck ts s = (.ok (), t) ∧
      t.view = { s.view with
        armed := s.view.armed || (s.view.activeAck && add64 ts delayedAckTimeout != 0) } := by
  change ∃ t, (if !s.immediateAck && s.nextAckExpiry == 0 && s.acktr.activeAck then
    connSetNextAckExpiry ts else pure () : ConnM Unit) s = (.ok (), t) ∧ _
  cases immediate : s.immediateAck <;> by_cases expiry : s.nextAckExpiry = 0 <;>
    cases active : s.acktr.activeAck <;>
    simp [immediate, expiry, active, Conn.view, connSetNextAckExpiry, modify, modifyGet,
      MonadStateOf.modifyGet, pure]

theorem schedAck_reaches {s t u : Conn} {ent : AcktrEntry} {active : Bool} {acktr : Acktr}
    (bound : ent.pktNum < 18446744073709551616)
    (added : ngtcp2AcktrAdd s.acktr ent active = .ok acktr)
    (tracked : t = ({ s with acktr := acktr } : Conn).emit
      (.schedAck ent.pktNum active ent.unprotected ent.tstamp))
    (armed : u.view = { t.view with
      armed := t.view.armed || (t.view.activeAck && add64 ent.tstamp delayedAckTimeout != 0) }) :
    Reaches sc s u := by
  obtain ⟨ents, inserted, kept, flag⟩ := ngtcp2AcktrAdd_ok added
  refine ReflTransGen.head (Move.sched s.view ent ents active bound inserted) (.single ?_)
  rw [armed, tracked, Conn.view_emit _ rfl]
  have forget : Move sc _ _ := .forget
    { s.view.emit (.schedAck ent.pktNum active ent.unprotected ent.tstamp) with
      tracked := ents
      activeAck := s.view.activeAck || active
      armed := s.view.armed ||
        ((s.view.activeAck || active) && add64 ent.tstamp delayedAckTimeout != 0) } acktr.ent kept
  have active_ : s.view.activeAck = s.acktr.activeAck := rfl
  rw [active_, ← flag] at forget ⊢
  exact forget

theorem ngtcp2ConnSchedAck_does {pktNum : Nat} (active : Bool) (ts : Nat) (unprotected : Bool)
    (bound : pktNum < 18446744073709551616) :
    Does sc (ngtcp2ConnSchedAck app pktNum active ts unprotected) := by
  refine .bind (malloc_does app) fun _ s => .got ?_
  cases added : ngtcp2AcktrAdd s.acktr
      { pktNum := pktNum, tstamp := ts, unprotected := unprotected } active with
  | error e => exact .jump (throw e) s rfl .refl (.failed e)
  | ok acktr =>
    obtain ⟨t, run, armed⟩ := connArmAck_run ts (({ s with acktr := acktr } : Conn).emit
      (.schedAck pktNum active unprotected ts))
    exact .jump (pure ()) t run (schedAck_reaches bound added rfl armed) (.done _)

end Ngtcp2
