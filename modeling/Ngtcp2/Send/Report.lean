import Ngtcp2.Lib.Along
import Ngtcp2.Recovery.Resend
import Ngtcp2.System

/-!
# Failures of the application while packets are written

The assertions of the transmit path are about calls that have failed: a callback, or an allocation.
-/

namespace Ngtcp2

open Prog

def App.Answers (app : App) (log : List Event) : Event → Prop
  | .sendPkt hd => app.ok log (.sendPkt hd) = true
  | .sendFrame hd fr => app.ok log (.sendFrame hd fr) = true
  | .encrypt _ _ _ => ∃ n, (app.encrypt log n).isSome = true
  | _ => True

structure Served (app : App) (s t : Conn) : Prop where
  log : s.log <+: t.log
  nalloc : s.nalloc ≤ t.nalloc
  callbacks : ∀ log e, log ++ [e] <+: t.log → s.log <+: log → app.Answers log e
  memory : ∀ n, s.nalloc ≤ n → n < t.nalloc → app.malloc n = true

def Err.reported (e : Err) : Prop := e = .CALLBACK_FAILURE ∨ e = .NOMEM

def Owns (R : Conn → Conn → Prop) (e : Err) (s t : Conn) : Prop := e.reported ∨ R s t

instance Owns.path {R : Conn → Conn → Prop} [Std.Refl R] [IsTrans Conn R] : Path R (Owns R) where
  refl := Std.Refl.refl
  trans := IsTrans.trans _ _ _
  stop := .inr
  after first := Or.imp_right (IsTrans.trans _ _ _ first)

section

variable {app : App} {s t u : Conn}

theorem concat_not_within (log : List Event) (e : Event) : ¬ log ++ [e] <+: log := by
  intro longer
  have short := longer.length_le
  rw [List.length_append] at short
  exact Nat.not_succ_le_self _ short

namespace Served

theorem same (log : t.log = s.log) (nalloc : t.nalloc = s.nalloc) : Served app s t where
  log := log ▸ List.prefix_rfl
  nalloc := nalloc.ge
  callbacks log' e before after := by
    rw [log] at before
    exact absurd (before.trans after) (concat_not_within log' e)
  memory n above below := absurd (nalloc ▸ below) (Nat.not_lt.mpr above)

theorem trans (first : Served app s t) (second : Served app t u) : Served app s u where
  log := first.log.trans second.log
  nalloc := first.nalloc.trans second.nalloc
  callbacks log e before after := by
    -- the event is one of the first ones or one of the second
    rcases List.prefix_or_prefix_of_prefix before second.log with early | late
    · exact first.callbacks log e early after
    · rcases List.prefix_concat_iff.mp late with whole | late
      · exact first.callbacks log e (whole ▸ List.prefix_rfl) after
      · exact second.callbacks log e before late
  memory n above below := by
    by_cases early : n < t.nalloc
    · exact first.memory n above early
    · exact second.memory n (Nat.le_of_not_lt early) below

theorem emit {e : Event} (answers : app.Answers s.log e) : Served app s (s.emit e) where
  log := List.prefix_append _ _
  nalloc := Nat.le_refl _
  callbacks log e' before after := by
    rcases List.prefix_concat_iff.mp before with whole | early
    · obtain ⟨rfl, rfl⟩ : log = s.log ∧ e' = e := by simpa using whole
      exact answers
    · exact absurd (early.trans after) (concat_not_within log e')
  memory n above below := absurd below (Nat.not_lt.mpr above)

theorem alloc (memory : app.malloc s.nalloc = true) : Served app s { s with nalloc := s.nalloc + 1 } where
  log := List.prefix_rfl
  nalloc := Nat.le_succ _
  callbacks log e before after := absurd (List.IsPrefix.trans before after) (concat_not_within log e)
  memory n above below := by
    obtain rfl : n = s.nalloc := Nat.le_antisymm (Nat.le_of_lt_succ below) above
    exact memory

end Served

instance : Std.Refl (Served app) := ⟨fun _ => .same rfl rfl⟩

instance : IsTrans Conn (Served app) := ⟨fun _ _ _ => .trans⟩

structure Calm (app : App) (s t : Conn) : Prop where
  served : Served app s t
  rtb : t.rtb = s.rtb
  frq : t.frq = s.frq

namespace Calm

theorem trans (first : Calm app s t) (second : Calm app t u) : Calm app s u where
  served := first.served.trans second.served
  rtb := second.rtb.trans first.rtb
  frq := second.frq.trans first.frq

theorem emit {e : Event} (answers : app.Answers s.log e) : Calm app s (s.emit e) := ⟨.emit answers, rfl, rfl⟩

end Calm

instance : Std.Refl (Calm app) := ⟨fun _ => ⟨.same rfl rfl, rfl, rfl⟩⟩

instance : IsTrans Conn (Calm app) := ⟨fun _ _ _ => .trans⟩

end

abbrev Honest (app : App) {α : Type} (m : ConnM α) : Prop := Stays (Served app) (Owns (Served app)) m

abbrev Polite (app : App) {α : Type} (m : ConnM α) : Prop := Stays (Calm app) (Owns (Calm app)) m

section

variable {app : App} {α β : Type}

theorem Polite.honest {m : ConnM α} (polite : Polite app m) : Honest app m :=
  fun s => wp_mono (polite s) (fun _ _ calm => calm.served) fun _ _ => Or.imp_right Calm.served

theorem Polite.still {f : Conn → Conn} (log : ∀ c, (f c).log = c.log) (nalloc : ∀ c, (f c).nalloc = c.nalloc)
    (rtb : ∀ c, (f c).rtb = c.rtb) (frq : ∀ c, (f c).frq = c.frq) : Polite app (modify f) :=
  .modified fun c => ⟨.same (log c) (nalloc c), rtb c, frq c⟩

theorem Honest.still {f : Conn → Conn} (log : ∀ c, (f c).log = c.log) (nalloc : ∀ c, (f c).nalloc = c.nalloc) :
    Honest app (modify f) := .modified fun c => .same (log c) (nalloc c)

variable (app)

theorem malloc_polite : Polite app (malloc app) := by
  intro s
  change wp (if app.malloc s.nalloc then pure s.nalloc else throw .NOMEM : ConnM Nat) _ _
    { s with nalloc := s.nalloc + 1 }
  split
  next memory => exact ⟨.alloc memory, rfl, rfl⟩
  next => exact .inl (.inr rfl)

theorem mallocs_polite (n : Nat) : Polite app (mallocs app n) := by
  induction n with
  | zero => exact .pure _
  | succ n ih => exact .bind (malloc_polite app) fun _ => ih

theorem connCall_polite {e : Event} (answers : ∀ log, app.ok log e = true → app.Answers log e) :
    Polite app (connCall app e) := by
  intro s
  change wp (if app.ok s.log e then pure () else throw .CALLBACK_FAILURE : ConnM Unit) _ _ (s.emit e)
  split
  next ok => exact .emit (answers s.log ok)
  next => exact .inl (.inl rfl)

theorem connMark_polite (m : Mark) : Polite app (connMark m) := .modified fun _ => .emit trivial

-- packets under construction

theorem ngtcp2PpeFinal_polite (ppe : Ppe) : Polite app (ngtcp2PpeFinal app ppe) := by
  unfold ngtcp2PpeFinal
  split
  · exact .throw _
  next ckm _ =>
    intro s
    rw [Prog.Goes, wp_bind, wp_get, wp_bind, emitEvent, wp_modify]
    cases encrypted : app.encrypt s.log (ppe.len - ppe.hdlen) with
    | none => exact .inl (.inl rfl)
    | some n => exact .emit ⟨_, by rw [encrypted]; rfl⟩

theorem connPpeWriteFrame_polite (ppe : Ppe) (called : Bool) (hd : PktHd) (fr : Frame) :
    Polite app (connPpeWriteFrame app ppe called hd fr) := by
  refine .bind (.ofExcept _) fun ppe => ?_
  have last : Polite app (do connCall app (.sendFrame hd fr); pure ppe : ConnM Ppe) :=
    .bind (connCall_polite app fun _ ok => ok) fun _ => .pure _
  cases called with
  | true => exact last
  | false => exact .bind (connCall_polite app fun _ ok => ok) fun _ => last

theorem tryFrame_polite (ppe : Ppe) (called : Bool) (hd : PktHd) (fr : Frame) {f : Except Err Ppe → ConnM β}
    (ok : ∀ ppe, Polite app (f (.ok ppe))) (full : Polite app (f (.error .NOBUF)))
    (other : ∀ e, e ≠ .NOBUF → f (.error e) = throw e) :
    Polite app (Prog.attempt (connPpeWriteFrame app ppe called hd fr) >>= f) := by
  intro s
  refine Goes.attempted (connPpeWriteFrame_polite app ppe called hd fr s) (fun ppe t _ => ok ppe t) fun e t _ stopped => ?_
  by_cases space : e = .NOBUF
  · subst space
    have calm : Calm app s t := stopped.resolve_left (by rintro (never | never) <;> cases never)
    exact (full t).after calm
  · rw [other e space]
    exact stopped

theorem connCreateAckFrame_polite (ts : Nat) : Polite app (connCreateAckFrame app ts false) := by
  have invalidated : Polite app connInvalidateNextAckExpiry :=
    Polite.still (fun _ => rfl) (fun _ => rfl) (fun _ => rfl) fun _ => rfl
  have forgot (left : List AcktrEntry) : Polite app (connForgetAck left) :=
    .ite (.pure _) (Polite.still (fun _ => rfl) (fun _ => rfl) (fun _ => rfl) fun _ => rfl)
  have collected : Polite app (connCollectAck app ts false) := by
    refine .got fun c => ?_
    split
    · exact .bind invalidated fun _ => .pure _
    · exact .bind (mallocs_polite app _) fun _ => .bind (forgot _) fun _ => .pure _
  exact .got fun c => .ite (.bind invalidated fun _ => .pure _) (.bind (.got fun _ => .pure _) fun _ => collected)

theorem commitAck_polite (pktNum : Nat) (ack : Ack) (ppe : Ppe) :
    Polite app (do connCommitTxAck; connAddAck pktNum ack false; pure ppe : ConnM Ppe) := by
  have committed : Polite app connCommitTxAck :=
    .bind (Polite.still (fun _ => rfl) (fun _ => rfl) (fun _ => rfl) fun _ => rfl) fun _ =>
      Polite.still (fun _ => rfl) (fun _ => rfl) (fun _ => rfl) fun _ => rfl
  have added : Polite app (connAddAck pktNum ack false) :=
    Polite.still (fun _ => rfl) (fun _ => rfl) (fun _ => rfl) fun _ => rfl
  exact .bind committed fun _ => .bind added fun _ => .pure _

theorem incLastTxPktNum_polite : Polite app incLastTxPktNum :=
  Polite.still (fun _ => rfl) (fun _ => rfl) (fun _ => rfl) fun _ => rfl

theorem connRtbEntryNew_polite (hd : PktHd) (frc : List Frame) (ts deadline pktlen : Nat) (unprotected : Bool) :
    Polite app (connRtbEntryNew app hd frc ts deadline pktlen unprotected) :=
  .bind (malloc_polite app) fun _ => .pure _

-- packets that are sent again

theorem writeFrames_polite (hd : PktHd) (frc : List Frame) (ppe : Ppe) (called : Bool) :
    Polite app (writeFrames app hd frc ppe called) := by
  induction frc generalizing ppe called with
  | nil => exact .pure _
  | cons fr rest ih =>
    refine tryFrame_polite app ppe called hd fr (fun ppe => ?_) (.pure _) fun e other => ?_
    · exact .bind (ih ppe true) fun _ => .pure _
    · cases e <;> first | rfl | exact absurd rfl other

theorem retransmitFrames_polite (hd : PktHd) (unchecked : Bool) (frc : List Frame) (ppe : Ppe) (called : Bool) :
    Polite app (retransmitFrames app hd unchecked frc ppe called) := by
  induction frc generalizing ppe called unchecked with
  | nil => exact .ite (.throw _) (.pure _)
  | cons fr rest ih =>
    refine .got fun c => .ite (ih _ ppe called) ?_
    refine tryFrame_polite app ppe called hd fr (fun ppe => ?_) (.pure _) fun e other => ?_
    · exact .bind (ih false ppe true) fun _ => .pure _
    · cases e <;> first | rfl | exact absurd rfl other

theorem retransmitAck_polite (expired : Bool) (hd : PktHd) (ppe : Ppe) (ts : Nat) :
    Polite app (retransmitAck app expired hd ppe ts) := by
  refine .ite (.bind (connCreateAckFrame_polite app ts) fun made => ?_) (.pure _)
  cases made with
  | none => exact .pure _
  | some ack =>
    refine tryFrame_polite app ppe true hd (.ack ack) (fun ppe => ?_) (.pure _) fun e other => ?_
    · exact commitAck_polite app _ ack ppe
    · cases e <;> first | rfl | exact absurd rfl other

theorem retransmitPadding_polite (hd : PktHd) (ppe : Ppe) : Polite app (retransmitPadding app hd ppe) :=
  .ite (.bind (.ofExcept _) fun _ => .bind (connCall_polite app fun _ ok => ok) fun _ => .pure _) (.pure _)

end

structure AddsOne (app : App) (s t : Conn) : Prop where
  served : Served app s t
  slots : pqFull s.rtb.pq = false →
    t.rtb.pq.slots.1 ≤ s.rtb.pq.slots.1 + 1 ∧ t.rtb.pq.slots.2 = s.rtb.pq.slots.2

abbrev Adding (app : App) {α : Type} (m : ConnM α) : Prop := Stays (AddsOne app) (Owns (Served app)) m

section

variable {app : App} {α β : Type}

theorem Polite.adding {m : ConnM α} (polite : Polite app m) : Adding app m :=
  fun s => wp_mono (polite s) (fun _ _ calm => ⟨calm.served, fun _ => by rw [calm.rtb]; exact ⟨Nat.le_succ _, rfl⟩⟩)
    fun _ _ => Or.imp_right Calm.served

theorem Adding.honest {m : ConnM α} (adding : Adding app m) : Honest app m :=
  fun s => wp_mono (adding s) (fun _ _ added => added.served) fun _ _ owns => owns

theorem Polite.before {m : ConnM α} {f : α → ConnM β} (first : Polite app m) (second : ∀ a, Adding app (f a)) :
    Adding app (m >>= f) := by
  intro s
  change wp (m >>= f) _ _ s
  rw [wp_bind]
  refine wp_mono (first s) (fun a t calm => ?_) fun _ _ => Or.imp_right Calm.served
  refine wp_mono (second a t) (fun _ u added => ⟨calm.served.trans added.served, ?_⟩) fun _ _ =>
    Or.imp_right calm.served.trans
  rw [← calm.rtb]
  exact added.slots

theorem Adding.before {m : ConnM α} {f : α → ConnM β} (first : Adding app m) (second : ∀ a, Polite app (f a)) :
    Adding app (m >>= f) := by
  intro s
  change wp (m >>= f) _ _ s
  rw [wp_bind]
  refine wp_mono (first s) (fun a t added => ?_) fun _ _ owns => owns
  refine wp_mono (second a t) (fun _ u calm => ⟨added.served.trans calm.served, ?_⟩) fun _ _ =>
    Or.imp_right fun calm => added.served.trans calm.served
  rw [calm.rtb]
  exact added.slots

variable (app)

theorem connRtbAdd_adding (ent : RtbEntry) : Adding app (connRtbAdd app ent) := by
  have added : Adding app (modify fun c : Conn => { c with rtb := ngtcp2RtbAdd c.rtb ent }) := by
    refine .modified fun c => ⟨.same rfl rfl, fun free => ?_⟩
    have grown := ngtcp2PqPush_slots RtbEntry.addr expiryLess ent free
    change (ngtcp2PqPush RtbEntry.addr expiryLess c.rtb.pq ent).slots.1 ≤ _ ∧
      (ngtcp2PqPush RtbEntry.addr expiryLess c.rtb.pq ent).slots.2 = _
    rw [grown]
    exact ⟨Nat.le_refl _, rfl⟩
  refine .got fun c => ?_
  split
  · exact (malloc_polite app).before fun _ => added
  · exact added

theorem connSplitEntry_adding (ent : RtbEntry) (hd : PktHd) (written left : List Frame) (nwrite ts : Nat)
    (unprotected : Bool) : Adding app (connSplitEntry app ent hd written left nwrite ts unprotected) :=
  (connMark_polite app _).before fun _ => (connRtbEntryNew_polite app _ _ _ _ _ _).before fun _ =>
    (connRtbAdd_adding app _).before fun _ => .pure _

theorem connRetransmitUnprotected_adding (destlen : Nat) (ent : RtbEntry) (ts : Nat) :
    Adding app (connRetransmitUnprotected app destlen ent ts) := by
  refine .got fun c => ?_
  dsimp only
  split
  · exact Polite.adding (.pure _)
  · exact Polite.adding (.throw _)
  refine (writeFrames_polite app _ _ _ _).before fun r => ?_
  split
  · exact Polite.adding (.ite (.pure _) (.pure _))
  split
  · exact Polite.adding (.bind (retransmitPadding_polite app _ _) fun _ => .bind (incLastTxPktNum_polite app) fun _ =>
      .bind (ngtcp2PpeFinal_polite app _) fun _ => .pure _)
  · exact (ngtcp2PpeFinal_polite app _).before fun _ => (connSplitEntry_adding app _ _ _ _ _ _ _).before fun _ =>
      .bind (incLastTxPktNum_polite app) fun _ => .pure _

theorem connRetransmitProtected_adding (destlen : Nat) (ent : RtbEntry) (ts : Nat) :
    Adding app (connRetransmitProtected app destlen ent ts) := by
  refine .got fun c => ?_
  dsimp only
  split
  · exact Polite.adding (.pure _)
  · exact Polite.adding (.throw _)
  refine (retransmitFrames_polite app _ _ _ _ _).before fun r => ?_
  split
  · exact Polite.adding (.ite (.pure _) (.pure _))
  refine (retransmitAck_polite app _ _ _ _).before fun _ => (ngtcp2PpeFinal_polite app _).before fun _ => ?_
  split
  · exact Polite.adding (.bind (incLastTxPktNum_polite app) fun _ => .pure _)
  · exact (connSplitEntry_adding app _ _ _ _ _ _ _).before fun _ => .bind (incLastTxPktNum_polite app) fun _ => .pure _

theorem connRetransmitEntry_adding (destlen : Nat) (ent : RtbEntry) (ts : Nat) :
    Adding app (connRetransmitEntry app destlen ent ts) := by
  refine .got fun c => ?_
  split
  · split
    · exact .ite (Polite.adding (.pure _)) (connRetransmitUnprotected_adding app _ _ _)
    · exact .ite (Polite.adding (.pure _)) (connRetransmitUnprotected_adding app _ _ _)
    · exact Polite.adding (.throw _)
  · split
    · exact connRetransmitProtected_adding app _ _ _
    · exact connRetransmitProtected_adding app _ _ _
    · exact connRetransmitProtected_adding app _ _ _
    · exact Polite.adding (.throw _)

end

def Roomy (app : App) (s : Conn) : Prop :=
  pqFull s.rtb.pq = false ∨ ∀ n, s.nalloc ≤ n → app.malloc n = true

section

variable {app : App} {s t : Conn}

theorem Roomy.malloc (roomy : Roomy app s) (full : pqFull s.rtb.pq = true) : app.malloc s.nalloc = true := by
  rcases roomy with free | memory
  · rw [full] at free
    cases free
  · exact memory _ (Nat.le_refl _)

theorem Roomy.after_pop {rtb : Rtb} {ent : RtbEntry} (roomy : Roomy app s) (top : ngtcp2RtbTop s.rtb = some ent)
    (popped : ngtcp2RtbPop s.rtb = .ok rtb) (added : AddsOne app { s with rtb := rtb } t) : Roomy app t := by
  rcases roomy with free | memory
  · left
    obtain ⟨shrunk, inside⟩ := ngtcp2PqPop_slots RtbEntry.addr expiryLess top
    have queue : rtb.pq.slots = (s.rtb.pq.q.size - 1, s.rtb.pq.capacity) := by
      unfold ngtcp2RtbTop at top
      unfold ngtcp2RtbPop at popped
      rw [top] at popped
      dsimp only at popped
      split at popped
      · cases popped
      · cases popped
        exact shrunk
    rw [pqFull_eq, decide_eq_false_iff_not, Nat.not_le] at free ⊢
    change s.rtb.pq.q.size < s.rtb.pq.capacity at free
    have still : pqFull rtb.pq = false := by
      rw [pqFull_eq, queue, decide_eq_false_iff_not]
      dsimp only
      omega
    obtain ⟨size, capacity⟩ := added.slots still
    dsimp only at size capacity
    rw [queue] at size capacity
    dsimp only at size capacity
    omega
  · exact .inr fun n above => memory n (added.served.nalloc.trans above)

variable (app)

theorem connRtbReadd_goes (ent : RtbEntry) (roomy : Roomy app s) :
    Goes (Served app) (Owns (Served app)) (connRtbReadd app ent) s := by
  -- the allocation for a full queue succeeds, so that the assertion is not reached
  have added : ∃ u, connRtbAdd app ent s = (.ok (), u) ∧ Served app s u := by
    by_cases full : pqFull s.rtb.pq = true
    · have memory := roomy.malloc full
      refine ⟨{ s with rtb := ngtcp2RtbAdd s.rtb ent, nalloc := s.nalloc + 1 }, ?_, ?_⟩
      · have got : malloc app s = (.ok s.nalloc, { s with nalloc := s.nalloc + 1 }) := by
          change (if app.malloc s.nalloc then pure s.nalloc else throw .NOMEM : ConnM Nat) _ = _
          rw [if_pos memory]
          rfl
        change (if pqFull s.rtb.pq then
          (malloc app >>= fun _ => modify fun c => { c with rtb := ngtcp2RtbAdd c.rtb ent } : ConnM Unit)
          else modify fun c => { c with rtb := ngtcp2RtbAdd c.rtb ent }) s = _
        rw [if_pos full, Prog.bind_ok got]
        rfl
      · exact (Served.alloc memory).trans (.same rfl rfl)
    · refine ⟨{ s with rtb := ngtcp2RtbAdd s.rtb ent }, ?_, .same rfl rfl⟩
      change (if pqFull s.rtb.pq then
        (malloc app >>= fun _ => modify fun c => { c with rtb := ngtcp2RtbAdd c.rtb ent } : ConnM Unit)
        else modify fun c => { c with rtb := ngtcp2RtbAdd c.rtb ent }) s = _
      rw [if_neg full]
      rfl
  obtain ⟨u, run, served⟩ := added
  have tried : Prog.attempt (connRtbAdd app ent) s = (.ok (.ok ()), u) := by
    unfold Prog.attempt
    rw [run]
  refine .jump (pure ()) u ?_ served (.done _)
  exact Prog.bind_ok tried

theorem connRetransmitLoop_goes (destlen ts rounds : Nat) (roomy : Roomy app s) :
    Goes (Served app) (Owns (Served app)) (connRetransmitLoop app destlen ts rounds) s := by
  induction rounds generalizing s with
  | zero => exact .done _
  | succ rounds ih =>
    refine .got ?_
    cases top : ngtcp2RtbTop s.rtb with
    | none => exact .done _
    | some ent =>
      dsimp only
      split
      · exact .done _
      cases popped : ngtcp2RtbPop s.rtb with
      | error e => exact .failed e
      | ok rtb =>
        refine .seq (.result _) fun rtb' t run => ?_
        cases run
        refine .seq (.modified (.same rfl rfl)) fun _ t run => ?_
        cases run
        split
        · exact .failed _
        refine Goes.seqWith (P := fun _ t => Roomy app t) ?_ fun r t roomy => ?_
        · exact wp_mono (connRetransmitEntry_adding app destlen ent ts _)
            (fun _ t added => ⟨added.served, roomy.after_pop top popped added⟩) fun _ _ owns => owns
        · obtain ⟨nwrite, ent⟩ := r
          cases nwrite with
          | none =>
            have marked : Polite app (connMarkEntry (.readdEntry ent.hd.pktNum)) := .got fun _ => connMark_polite app _
            have kept : wp (connMarkEntry (.readdEntry ent.hd.pktNum)) (fun _ u => Served app t u ∧ Roomy app u)
                (fun e u => Owns (Served app) e t u) t := by
              refine wp_mono (marked t) (fun _ u calm => ⟨calm.served, ?_⟩) fun _ _ => Or.imp_right Calm.served
              unfold Roomy
              rw [calm.rtb]
              exact roomy.imp_right fun memory n above => memory n (calm.served.nalloc.trans above)
            exact .seqWith kept fun _ u roomy => .seq (connRtbReadd_goes app ent roomy) fun _ _ _ => .failed _
          | some nwrite =>
            dsimp only
            split
            · exact ih roomy
            split
            · exact .done _
            · exact .seq (connRtbReadd_goes app _ roomy) fun _ _ _ => .done _

end

-- a packet of queued frames

def Frame.raisesLimit : Frame → Bool
  | .maxData _ | .maxStreamData _ | .maxStreamId _ => true
  | _ => false

/-- The callbacks accept the frames of the queue and those that raise a limit, and the packet itself unless
it is `called` for already. -/
structure Accepts (app : App) (called : Bool) (frq : List Frame) (log : List Event) : Prop where
  frames : ∀ later hd fr, log <+: later → fr ∈ frq ∨ fr.raisesLimit = true → app.ok later (.sendFrame hd fr) = true
  packet : called = false → ∀ later hd, log <+: later → app.ok later (.sendPkt hd) = true

def Conn.ackDue (c : Conn) (ts : Nat) : Bool :=
  connNextAckExpired c ts && c.acktr.activeAck && !c.acktr.ent.isEmpty

structure Queues (app : App) (s t : Conn) : Prop where
  served : Served app s t
  frq : ∀ fr ∈ t.frq, fr ∈ s.frq ∨ fr.raisesLimit = true

section

variable {app : App} {called : Bool} {frq : List Frame} {log : List Event} {s t u : Conn}

namespace Accepts

theorem later {log' : List Event} (accepts : Accepts app called frq log) (longer : log <+: log') :
    Accepts app called frq log' where
  frames later hd fr after := accepts.frames later hd fr (longer.trans after)
  packet none later hd after := accepts.packet none later hd (longer.trans after)

theorem less {called' : Bool} {frq' : List Frame} (accepts : Accepts app called frq log)
    (fewer : ∀ fr ∈ frq', fr ∈ frq ∨ fr.raisesLimit = true) (ahead : called' = false → called = false) :
    Accepts app called' frq' log where
  frames later hd fr after := by
    rintro (queued | raises)
    · exact accepts.frames later hd fr after (fewer fr queued)
    · exact accepts.frames later hd fr after (.inr raises)
  packet none := accepts.packet (ahead none)

end Accepts

theorem Queues.trans (first : Queues app s t) (second : Queues app t u) : Queues app s u where
  served := first.served.trans second.served
  frq fr queued := (second.frq fr queued).elim (first.frq fr) .inr

instance : Std.Refl (Queues app) := ⟨fun _ => ⟨.same rfl rfl, fun _ => .inl⟩⟩

instance : IsTrans Conn (Queues app) := ⟨fun _ _ _ => .trans⟩

theorem Polite.queues {α : Type} {m : ConnM α} (polite : Polite app m) : Stays (Queues app) (Owns (Queues app)) m := by
  have lift {s t : Conn} (calm : Calm app s t) : Queues app s t := ⟨calm.served, fun _ => calm.frq ▸ .inl⟩
  exact fun s => wp_mono (polite s) (fun _ _ => lift) fun _ _ => Or.imp_right lift

variable (app)

theorem connPushFrq_queues {fr : Frame} (raises : fr.raisesLimit = true) :
    Stays (Queues app) (Owns (Queues app)) (connPushFrq app fr) := by
  refine .bind (malloc_polite app).queues fun _ => .modified fun c => ⟨.same rfl rfl, fun fr' queued => ?_⟩
  rcases List.mem_cons.mp queued with rfl | queued
  · exact .inr raises
  · exact .inl queued

theorem connQueueMaxData_queues (ackfr : Option Ack) :
    Stays (Queues app) (Owns (Queues app)) (connQueueMaxData app ackfr) := by
  refine .got fun c => .ite (.bind (connPushFrq_queues app rfl) fun _ => ?_) (.pure _)
  exact .modified fun _ => ⟨.same rfl rfl, fun _ => .inl⟩

theorem connQueueMaxStreamData_queues (ids : List Nat) :
    Stays (Queues app) (Owns (Queues app)) (connQueueMaxStreamData app ids) := by
  induction ids with
  | nil => exact .pure _
  | cons id rest ih =>
    have found : Polite app (getStrm id) := by
      refine .got fun c => ?_
      split
      · exact .pure _
      · exact .throw _
    refine .bind found.queues fun strm => .ite (.throw _) ?_
    refine .bind (connPushFrq_queues app rfl) fun _ => .bind ?_ fun _ => .bind ?_ fun _ => ih
    · exact .modified fun _ => ⟨.same rfl rfl, fun _ => .inl⟩
    · exact .modified fun _ => ⟨.same rfl rfl, fun _ => .inl⟩

theorem connPpeWriteFrame_calm (ppe : Ppe) (called : Bool) (hd : PktHd) (fr : Frame) (s : Conn)
    (packet : called = false → app.ok s.log (.sendPkt hd) = true)
    (frame : ∀ later, s.log <+: later → app.ok later (.sendFrame hd fr) = true) :
    Goes (Calm app) (fun _ => Calm app) (connPpeWriteFrame app ppe called hd fr) s := by
  have call {e : Event} {c : Conn} (ok : app.ok c.log e = true) : connCall app e c = (.ok (), c.emit e) := by
    change (if app.ok c.log e then pure () else throw .CALLBACK_FAILURE : ConnM Unit) (c.emit e) = _
    rw [if_pos ok]
    rfl
  unfold Goes connPpeWriteFrame
  rw [wp_bind]
  cases ngtcp2PpeEncodeFrame ppe fr with
  | error e => exact ⟨.same rfl rfl, rfl, rfl⟩
  | ok ppe =>
    cases called with
    | true =>
      have answers := frame s.log List.prefix_rfl
      have sent := call answers
      simp only [wp_ofExcept_ok, Bool.not_true, Bool.false_eq_true, if_false, wp_bind, wp_pure]
      rw [wp_run_ok sent]
      exact .emit answers
    | false =>
      have answers := packet rfl
      have sent := call answers
      have later := frame (s.emit (.sendPkt hd)).log (List.prefix_append _ _)
      have framed := call later
      simp only [wp_ofExcept_ok, Bool.not_false, if_true, wp_bind, wp_pure]
      rw [wp_run_ok sent, wp_run_ok framed]
      have called : Calm app s (s.emit (.sendPkt hd)) := .emit answers
      exact called.trans (.emit later)

theorem frqFrames_calm (hd : PktHd) (frs : List Frame) (ppe : Ppe) (called : Bool) (s : Conn)
    (accepts : Accepts app called frs s.log) :
    Goes (Calm app) (Owns (Calm app)) (frqFrames app hd frs ppe called) s := by
  induction frs generalizing ppe called s with
  | nil => exact .done _
  | cons fr rest ih =>
    refine .got ?_
    split
    · exact ih ppe called s (accepts.less (fun _ queued => .inl (List.mem_cons_of_mem _ queued)) id)
    have tried := connPpeWriteFrame_calm app ppe called hd fr s
      (fun none => accepts.packet none s.log hd List.prefix_rfl)
      fun later after => accepts.frames later hd fr after (.inl List.mem_cons_self)
    refine Goes.attempted tried (fun ppe t run => ?_) fun e t run calm => ?_
    · have calm : Calm app s t := tried.reached run
      have others : Accepts app true rest t.log :=
        (accepts.later calm.served.log).less (fun _ queued => .inl (List.mem_cons_of_mem _ queued)) nofun
      exact .seq (ih ppe true t others) fun _ _ _ => .done _
    · cases e <;> first | exact calm | exact .inr calm

theorem maxStreamIdFrame_goes (hd : PktHd) (bidi : Bool) (written left : List Frame) (ppe : Ppe) (called : Bool)
    (s : Conn) (accepts : Accepts app called [] s.log) :
    Goes (Served app) (Owns (Served app)) (maxStreamIdFrame app hd bidi written left ppe called) s := by
  refine .got ?_
  dsimp only
  split
  · refine .seq ((malloc_polite app).honest s) fun _ t run => .seq (.modified (.same rfl rfl)) fun _ u next => ?_
    have accepts : Accepts app called [] u.log := by
      have served : Served app s t := ((malloc_polite app).honest s).reached run
      cases next
      exact accepts.later served.log
    have tried := connPpeWriteFrame_calm app ppe called hd (.maxStreamId (unsentMaxRemoteStreamId s bidi)) u
      (fun none => accepts.packet none u.log hd List.prefix_rfl)
      fun later after => accepts.frames later hd _ after (.inr rfl)
    have served : Goes (Served app) (fun _ => Served app) _ u :=
      wp_mono tried (fun _ _ calm => calm.served) fun _ _ calm => calm.served
    refine Goes.attempted served (fun ppe t run => .done _) fun e t run served => ?_
    cases e <;> first | exact served | exact .inr served
  · exact .done _

theorem writePktAck_polite (hd : PktHd) (ppe : Ppe) (ackfr : Option Ack) : Polite app (writePktAck app hd ppe ackfr) := by
  cases ackfr with
  | none => exact .pure _
  | some ack => exact .bind (connPpeWriteFrame_polite app ppe false hd _) fun ppe => commitAck_polite app _ ack ppe

theorem writePktTrack_honest (hd : PktHd) (written left : List Frame) (ts pktlen : Nat) :
    Honest app (writePktTrack app hd written left ts pktlen) :=
  .ite (.bind (connRtbEntryNew_polite app _ _ _ _ _ _).honest fun _ =>
    .bind (Honest.still (fun _ => rfl) fun _ => rfl) fun _ => (connRtbAdd_adding app _).honest) (.pure _)

theorem connWritePktFrames_goes (destlen ts : Nat) (ackfr : Option Ack) (s : Conn)
    (accepts : Accepts app ackfr.isSome s.frq s.log) :
    Goes (Served app) (Owns (Served app)) (connWritePktFrames app destlen ts ackfr) s := by
  refine .got <| .seq (.result _) fun ppe s' run => ?_
  obtain rfl : s = s' := (Prod.mk.inj run).2
  have acked := writePktAck_polite app (connShortHd s) ppe ackfr s
  refine .seq ((writePktAck_polite app (connShortHd s) ppe ackfr).honest s) fun ppe t run => .got ?_
  have calm : Calm app s t := acked.reached run
  have accepts : Accepts app ackfr.isSome t.frq t.log := by
    rw [calm.frq]
    exact accepts.later calm.served.log
  have written := frqFrames_calm app (connShortHd s) t.frq ppe ackfr.isSome t accepts
  have honest : Goes (Served app) (Owns (Served app)) (frqFrames app (connShortHd s) t.frq ppe ackfr.isSome) t :=
    wp_mono written (fun _ _ calm => calm.served) fun _ _ => Or.imp_right Calm.served
  refine .seq honest fun r u run => ?_
  obtain ⟨written, left, ppe⟩ := r
  -- every later packet call is made only if no frame has been written
  have rest (u : Conn) (served : Served app t u) (written : List Frame) :
      Accepts app (ackfr.isSome || !written.isEmpty) [] u.log := by
    refine (accepts.later served.log).less nofun fun none => ?_
    exact (Bool.or_eq_false_iff.mp none).1
  have served : Served app t u := honest.reached run
  refine .seq (.modified (.same rfl rfl)) fun _ u' set => ?_
  have served : Served app t u' := by
    cases set
    exact served.trans (.same rfl rfl)
  have first := maxStreamIdFrame_goes app (connShortHd s) true written left ppe _ u' (rest u' served written)
  refine .seq first fun r v run => ?_
  have served : Served app t v := served.trans (first.reached run)
  obtain ⟨written, left, ppe⟩ := r
  have second := maxStreamIdFrame_goes app (connShortHd s) false written left ppe _ v (rest v served written)
  refine .seq second fun r w run => ?_
  obtain ⟨written, left, ppe⟩ := r
  dsimp only
  have sent : Honest app (do
      let nwrite ← ngtcp2PpeFinal app ppe
      writePktTrack app (connShortHd s) written left ts nwrite
      incLastTxPktNum
      pure nwrite) :=
    .bind (ngtcp2PpeFinal_polite app ppe).honest fun nwrite => .bind (writePktTrack_honest app _ _ _ _ nwrite) fun _ =>
      .bind (incLastTxPktNum_polite app).honest fun _ => .pure _
  split
  · split
    · exact .done _
    · exact .failed _
  · exact sent w

theorem connCreateDueAck_queues (ts : Nat) (s : Conn) :
    wp (connCreateDueAck app ts) (fun made t => Queues app s t ∧ (made.isSome = false → s.ackDue ts = false))
      (fun e t => Owns (Queues app) e s t) s := by
  have polite : Polite app (connCreateDueAck app ts) := .got fun c => .ite (connCreateAckFrame_polite app ts) (.pure _)
  refine wp_run (polite.queues s) fun made t run missing => ?_
  by_contra due
  unfold Conn.ackDue at due
  simp only [Bool.not_eq_false, Bool.and_eq_true, Bool.not_eq_true', List.isEmpty_eq_false_iff] at due
  obtain ⟨⟨expired, active⟩, tracked⟩ := due
  obtain ⟨e, rest, entries⟩ := List.exists_cons_of_ne_nil tracked
  have collected : wp (connCollectAck app ts false) (fun made _ => made.isSome = true) (fun _ _ => True) s := by
    unfold connCollectAck
    simp only [wp_bind, wp_get, entries, Bool.false_and, List.dropWhile_cons, Bool.false_eq_true, if_false, wp_pure,
      Option.isSome_some]
    exact wp_intro (fun _ _ _ => wp_intro (fun _ _ _ => trivial) fun _ _ _ => trivial) fun _ _ _ => trivial
  have spec : wp (connCreateDueAck app ts) (fun made _ => made.isSome = true) (fun _ _ => True) s := by
    unfold connCreateDueAck connCreateAckFrame markUnprotectedAck
    simp only [wp_bind, wp_get, expired, active, if_true, Bool.not_true, Bool.false_eq_true, if_false, wp_pure]
    exact collected
  have some := wp_ok (Q := fun made _ => made.isSome = true) spec run
  rw [missing] at some
  cases some

theorem connWritePkt_goes (destlen ts : Nat) (s : Conn) (accepts : Accepts app (s.ackDue ts) s.frq s.log) :
    Goes (Served app) (Owns (Served app)) (connWritePkt app destlen ts) s := by
  have queues {α : Type} {m : ConnM α} {s : Conn} (goes : Goes (Queues app) (Owns (Queues app)) m s) :
      wp m (fun _ t => Served app s t ∧ Queues app s t) (fun e t => Owns (Served app) e s t) s :=
    wp_mono goes (fun _ _ more => ⟨more.served, more⟩) fun _ _ => Or.imp_right Queues.served
  have due : wp (connCreateDueAck app ts)
      (fun made t => Served app s t ∧ Queues app s t ∧ (made.isSome = false → s.ackDue ts = false))
      (fun e t => Owns (Served app) e s t) s :=
    wp_mono (connCreateDueAck_queues app ts s) (fun _ _ made => ⟨made.1.served, made⟩) fun _ _ =>
      Or.imp_right Queues.served
  refine .seqWith due fun ackfr t made => ?_
  refine .seqWith (queues (connQueueMaxData_queues app ackfr t)) fun _ u raised => .got ?_
  refine .seqWith (queues (connQueueMaxStreamData_queues app u.fcStrms u)) fun _ v listed => .got ?_
  split
  · exact .done _
  · have more : Queues app s v := (made.1.trans raised).trans listed
    exact connWritePktFrames_goes app destlen ts ackfr v ((accepts.later more.served.log).less more.frq made.2)

end

/-- A callback or an allocation that fails is reported by the return value. The assertions of the transmit
path are about the error codes of such calls, so that none of them fails. -/
def FailsLoudly (app : App) {α : Type} (m : ConnM α) (s : Conn) : Prop :=
  ∀ r t, m s = (r, t) → ¬ Served app s t → r = .error .CALLBACK_FAILURE ∨ r = .error .NOMEM

section

variable {app : App} {α : Type} {m : ConnM α} {s : Conn}

theorem FailsLoudly.of_goes (goes : Goes (Served app) (Owns (Served app)) m s) : FailsLoudly app m s := by
  intro r t run fails
  cases r with
  | ok a => exact absurd (goes.reached run) fails
  | error e => exact ((goes.stopped run).resolve_right fails).imp (congrArg _) (congrArg _)

end

def resettingServer : Conn := openServer.play [(.quiet, .openBidiStream), (.quiet, .shutdownStreamWrite 1 7)]

def App.keyless : App := { App.quiet with encrypt := fun _ _ => none }

def App.unresettable : App :=
  { App.quiet with ok := fun _ e => match e with
    | .sendFrame _ (.rstStream _) => false
    | _ => true }

end Ngtcp2
