import Ngtcp2.Invariant.AckCover
import Ngtcp2.System

/-!
# Packets that wait for an ACK frame

The log tells which packets wait: those that were scheduled with `active_ack` and that no ACK frame has covered
since.
-/

namespace Ngtcp2

def Frame.covers (n : Nat) : Frame → Bool
  | .ack fr => decide (fr.Covers n)
  | _ => false

def pendingAfter (pending : List (Nat × Bool)) : Event → List (Nat × Bool)
  | .schedAck n active unprotected _ =>
    let others := pending.filter fun p => p.1 != n
    if active then (n, unprotected) :: others else others
  | .encrypt _ _ frames => pending.filter fun p => !frames.any (Frame.covers p.1)
  | _ => pending

def pendingAcks (log : List Event) : List (Nat × Bool) := log.foldl pendingAfter []

/-- An unprotected ACK frame is not asked for while a protected packet waits, the timer does not
start at a time that wraps to zero, and no packet is given up behind its ACK frame. -/
def Event.AckKept (pending : List (Nat × Bool)) : Event → Prop
  | .mark (.unprotectedAck tracked) => ∀ n ∈ tracked, (n, false) ∉ pending
  | .schedAck _ active _ ts => active = true → add64 ts delayedAckTimeout ≠ 0
  | .mark .abandonedPkt => False
  | _ => True

def AcksKept (pending : List (Nat × Bool)) : List Event → Prop
  | [] => True
  | e :: rest => e.AckKept pending ∧ AcksKept (pendingAfter pending e) rest

instance (pending : List (Nat × Bool)) (e : Event) : Decidable (e.AckKept pending) := by
  unfold Event.AckKept
  split <;> infer_instance

instance : (pending : List (Nat × Bool)) → (log : List Event) → Decidable (AcksKept pending log)
  | _, [] => inferInstanceAs (Decidable True)
  | pending, e :: rest =>
    have := instDecidableAcksKept (pendingAfter pending e) rest
    inferInstanceAs (Decidable (_ ∧ _))

theorem AcksKept.append {pending : List (Nat × Bool)} {log log' : List Event} :
    AcksKept pending (log ++ log') ↔
      AcksKept pending log ∧ AcksKept (log.foldl pendingAfter pending) log' := by
  induction log generalizing pending with
  | nil => simp [AcksKept]
  | cons e rest ih => simp [AcksKept, ih, and_assoc]

theorem AcksKept.earlier {log log' : List Event} (earlier : log <+: log') (kept : AcksKept [] log') :
    AcksKept [] log := by
  obtain ⟨later, rfl⟩ := earlier
  exact (AcksKept.append.mp kept).1

theorem pendingAcks_append (log : List Event) (e : Event) :
    pendingAcks (log ++ [e]) = pendingAfter (pendingAcks log) e := by
  simp [pendingAcks]

def vouchedAfter (vouched : Bool) : Event → Bool
  | .mark (.unprotectedAck _) => true
  | .schedAck _ _ _ _ => false
  | _ => vouched

def vouches (log : List Event) : Bool := log.foldl vouchedAfter false

theorem Vouched.vouches {log : List Event} (vouched : Vouched log) : vouches log = true := by
  obtain ⟨pre, tracked, post, rfl, later⟩ := vouched
  unfold Ngtcp2.vouches
  rw [List.foldl_append, List.foldl_cons]
  change post.foldl vouchedAfter true = true
  induction post with
  | nil => rfl
  | cons e rest ih =>
    have stays : vouchedAfter true e = true := by
      unfold vouchedAfter
      split
      · rfl
      · exact absurd rfl (later _ List.mem_cons_self _ _ _ _)
      · rfl
    rw [List.foldl_cons, stays]
    exact ih fun e member => later e (List.mem_cons_of_mem _ member)

def Event.ackPlain : Event → Bool
  | .schedAck _ _ _ _ | .encrypt _ _ _ | .mark (.unprotectedAck _) => false
  | _ => true

theorem pendingAcks_plain (log : List Event) {e : Event} (plain : e.ackPlain = true) :
    pendingAcks (log ++ [e]) = pendingAcks log ∧ vouches (log ++ [e]) = vouches log := by
  simp only [pendingAcks, vouches, List.foldl_append, List.foldl_cons, List.foldl_nil]
  cases e <;> first | exact ⟨rfl, rfl⟩ | cases plain | skip
  rename_i m
  cases m <;> first | exact ⟨rfl, rfl⟩ | cases plain

structure View.AckOk (v : View) : Prop where
  descending : v.tracked.Pairwise fun a b => b.pktNum < a.pktNum
  bound : ∀ e ∈ v.tracked, e.pktNum < 18446744073709551616
  vouched : vouches v.log = true → ∀ e ∈ v.tracked, (e.pktNum, false) ∉ pendingAcks v.log
  waiting : ∀ e ∈ v.tracked, ∀ unprotected, (e.pktNum, unprotected) ∈ pendingAcks v.log →
    unprotected = e.unprotected ∧ v.activeAck = true ∧ v.armed = true

theorem acktrInsert_spec {ent : AcktrEntry} {ents ents' : List AcktrEntry}
    (descending : ents.Pairwise fun a b => b.pktNum < a.pktNum) (inserted : acktrInsert ent ents = some ents') :
    (ents'.Pairwise fun a b => b.pktNum < a.pktNum) ∧ (∀ e ∈ ents', e = ent ∨ e ∈ ents) ∧
      ∀ e ∈ ents, e.pktNum ≠ ent.pktNum := by
  induction ents generalizing ents' with
  | nil =>
    cases inserted
    simp
  | cons first rest ih =>
    obtain ⟨above, descending'⟩ := List.pairwise_cons.mp descending
    unfold acktrInsert at inserted
    split at inserted
    next larger =>
      cases tail : acktrInsert ent rest with
      | none => simp [tail] at inserted
      | some rest' =>
        obtain ⟨sorted, members, apart⟩ := ih descending' tail
        obtain rfl : first :: rest' = ents' := by simpa [tail] using inserted
        refine ⟨List.pairwise_cons.mpr ⟨fun e member => ?_, sorted⟩, fun e member => ?_, fun e member => ?_⟩
        · rcases members e member with rfl | member
          · exact larger
          · exact above e member
        · rcases List.mem_cons.mp member with rfl | member
          · exact .inr List.mem_cons_self
          · exact (members e member).imp_right (List.mem_cons_of_mem _)
        · rcases List.mem_cons.mp member with rfl | member
          · omega
          · exact apart e member
    next notLarger =>
      split at inserted
      · cases inserted
      next other =>
        cases inserted
        have smaller : first.pktNum < ent.pktNum := by omega
        refine ⟨List.pairwise_cons.mpr ⟨fun e member => ?_, descending⟩, fun e member => ?_, fun e member => ?_⟩
        · rcases List.mem_cons.mp member with rfl | member
          · exact smaller
          · exact Nat.lt_trans (above e member) smaller
        · exact List.mem_cons.mp member
        · rcases List.mem_cons.mp member with rfl | member
          · exact other
          · have lower := above e member
            omega

namespace View.AckOk

variable {v w : View}

theorem plain (ok : v.AckOk) {e : Event} (plain : e.ackPlain = true) (log : w.log = v.log ++ [e])
    (tracked : w.tracked = v.tracked) (active : w.activeAck = v.activeAck) (armed : w.armed = v.armed) :
    w.AckOk := by
  obtain ⟨pending, vouches⟩ := pendingAcks_plain v.log plain
  refine ⟨?_, ?_, ?_, ?_⟩
  · rw [tracked]
    exact ok.descending
  · rw [tracked]
    exact ok.bound
  · rw [tracked, log, pending, vouches]
    exact ok.vouched
  · rw [tracked, log, pending, active, armed]
    exact ok.waiting

theorem same (ok : v.AckOk) (log : w.log = v.log) (tracked : w.tracked.Sublist v.tracked)
    (flags : ∀ e ∈ w.tracked, v.activeAck = true → v.armed = true → w.activeAck = true ∧ w.armed = true) :
    w.AckOk where
  descending := ok.descending.sublist tracked
  bound e member := ok.bound e (tracked.subset member)
  vouched vouches e member := log ▸ ok.vouched (log ▸ vouches) e (tracked.subset member)
  waiting e member unprotected pending := by
    obtain ⟨kind, active, armed⟩ := ok.waiting e (tracked.subset member) unprotected (log ▸ pending)
    exact ⟨kind, flags e member active armed⟩

theorem created (ok : v.AckOk) {ack : Ack} {unprotected : Bool} (made : Created unprotected v.tracked ack)
    {e : AcktrEntry} (member : e ∈ v.tracked) (kind : unprotected = true → e.unprotected = true) :
    ack.Covers e.pktNum := by
  obtain ⟨left, first, rest, scan, delay, found, scanned, rfl⟩ := made
  obtain ⟨passed, rfl⟩ : left <:+ rest := by
    have suffix := ackScan_suffix unprotected rest (AckScan.start first.pktNum)
    rwa [scanned] at suffix
  -- the tracked packets are those passed over, the first one of the frame and those it goes on with
  have parts := (v.tracked ++ left).takeWhile_append_dropWhile (p := fun e => unprotected && !e.unprotected)
  rw [found, ← List.cons_append, ← List.append_assoc] at parts
  have tracked := List.append_cancel_right parts
  have descending := ok.descending
  rw [← tracked] at member descending
  obtain ⟨-, descending, -⟩ := List.pairwise_append.mp descending
  obtain ⟨below, descending⟩ := List.pairwise_cons.mp descending
  have bound := ok.bound first (tracked ▸ List.mem_append_right _ List.mem_cons_self)
  refine ackScan_cover unprotected (AckScan.start_ok bound) scanned rfl descending below ?_
  rcases List.mem_append.mp member with member | member
  · have skipped := List.mem_takeWhile_imp member
    simp only [Bool.and_eq_true, Bool.not_eq_true'] at skipped
    simp [kind skipped.1] at skipped
  · rcases List.mem_cons.mp member with rfl | member
    · exact .inl rfl
    · exact .inr ⟨e, member, rfl, kind⟩

theorem send (ok : v.AckOk) {ckm : CryptoKm} {frames : List Frame} {ack : Option (Ack × Bool)}
    (carried : AckCarried v frames ack) (log : w.log = v.log ++ [.encrypt ckm v.next frames])
    (tracked : w.tracked = v.tracked) (active : w.activeAck = (v.activeAck && ack.isNone))
    (armed : w.armed = (v.armed && ack.isNone)) : w.AckOk := by
  have pending : pendingAcks w.log = (pendingAcks v.log).filter fun p => !frames.any (Frame.covers p.1) := by
    rw [log, pendingAcks_append]
    rfl
  have vouches : vouches w.log = vouches v.log := by
    rw [log]
    simp [Ngtcp2.vouches, vouchedAfter]
  refine ⟨tracked ▸ ok.descending, tracked ▸ ok.bound, fun vouched e member waits => ?_,
    fun e member unprotected waits => ?_⟩
  · rw [tracked] at member
    rw [pending] at waits
    exact ok.vouched (vouches ▸ vouched) e member (List.mem_of_mem_filter waits)
  · rw [tracked] at member
    rw [pending, List.mem_filter] at waits
    obtain ⟨kind, isActive, isArmed⟩ := ok.waiting e member unprotected waits.1
    refine ⟨kind, ?_⟩
    cases ack with
    | none => simp [active, armed, isActive, isArmed]
    | some made =>
      obtain ⟨ack, asked⟩ := made
      obtain ⟨sent, created, vouched⟩ := carried
      exfalso
      by_cases covered : asked = true → e.unprotected = true
      · have covers := ok.created created member covered
        have told : frames.any (Frame.covers e.pktNum) = true :=
          List.any_eq_true.mpr ⟨.ack ack, sent, by simpa [Frame.covers] using covers⟩
        simp [told] at waits
      · obtain ⟨rfl, other⟩ : asked = true ∧ e.unprotected = false := by simpa using covered
        rw [kind, other] at waits
        exact ok.vouched (vouched rfl).vouches e member waits.1

end View.AckOk

theorem Move.ackOk {v w : View} (move : Move .any v w) (kept : AcksKept [] w.log) (ok : v.AckOk) :
    w.AckOk := by
  cases move
  case sched ent ents active bound inserted =>
    obtain ⟨descending, members, apart⟩ := acktrInsert_spec ok.descending inserted
    have timed := (AcksKept.append.mp kept).2.1
    refine ⟨descending, fun e member => ?_, fun vouched => ?_, fun e member unprotected waits => ?_⟩
    · rcases members e member with rfl | member
      · exact bound
      · exact ok.bound e member
    · simp [View.emit, vouches, vouchedAfter] at vouched
    · change _ ∈ pendingAcks (v.log ++ [.schedAck ent.pktNum active ent.unprotected ent.tstamp]) at waits
      rw [pendingAcks_append] at waits
      rcases members e member with rfl | member
      · -- the packet itself waits only if it asks for an ACK frame, which starts the timer
        cases active
        · simp [pendingAfter] at waits
        · obtain rfl : unprotected = e.unprotected := by simpa [pendingAfter] using waits
          have starts := timed rfl
          exact ⟨rfl, by simp, by simp [starts]⟩
      · have other := apart e member
        have waited : (e.pktNum, unprotected) ∈ pendingAcks v.log := by
          cases active <;> simpa [pendingAfter, other] using waits
        obtain ⟨kind, isActive, isArmed⟩ := ok.waiting e member unprotected waited
        exact ⟨kind, by simp [isActive], by simp [isArmed]⟩
  case forget ents sublist =>
    exact ok.same rfl sublist fun _ _ active armed => ⟨active, armed⟩
  case disarm idle =>
    refine ok.same rfl (.refl _) fun e member active _ => ?_
    rcases idle with idle | idle
    · simp [idle] at active
    · rw [idle] at member
      cases member
  case arm => exact ok.same rfl (.refl _) fun _ _ active _ => ⟨active, rfl⟩
  case askUnprotected =>
    have unasked := (AcksKept.append.mp kept).2.1
    have pending : pendingAcks (v.log ++ [.mark (.unprotectedAck (v.tracked.map AcktrEntry.pktNum))]) =
        pendingAcks v.log := pendingAcks_append _ _
    refine ⟨ok.descending, ok.bound, fun _ e member => ?_, fun e member unprotected waits => ?_⟩
    · change _ ∉ pendingAcks (v.log ++ _)
      rw [pending]
      exact unasked _ (List.mem_map_of_mem member)
    · change _ ∈ pendingAcks (v.log ++ _) at waits
      rw [pending] at waits
      exact ok.waiting e member unprotected waits
  case disarmUnprotected none vouched =>
    refine ⟨ok.descending, ok.bound, ok.vouched, fun e member unprotected waits => ?_⟩
    have kind := (ok.waiting e member unprotected waits).1
    rw [none e member] at kind
    subst kind
    exact absurd waits (ok.vouched vouched.vouches e member)
  case abandon => exact (AcksKept.append.mp kept).2.1.elim
  case send ckm frames ack allowed ready carried => exact ok.send carried rfl rfl rfl rfl
  case sendHandshake ckm frames ack ent queue nalloc allowed ready carried entry handshake pushed =>
    exact ok.send carried rfl rfl rfl rfl
  case sendQueued ckm frames ack ent queue nalloc frq allowed post ready carried entry short taken
      pushed => exact ok.send carried rfl rfl rfl rfl
  case sendStream ckm fr strm ent queue nalloc allowed ready keyed entry short carries pushed found
      offset bound strmFits connFits filled =>
    have carried : AckCarried v [.stream fr] none := trivial
    exact ok.send carried rfl rfl rfl rfl
  case sendEarly ckm fr strm ent nalloc allowed ready entry short carries found offset bound strmFits
      connFits filled =>
    have carried : AckCarried v [.stream fr] none := trivial
    exact ok.send carried rfl rfl rfl rfl
  case resend ckm frames ack ent ent' queue allowed ready carried held same renewed pktNum pushed =>
    exact ok.send carried rfl rfl rfl rfl
  case split ckm frames ack ent ent' nent queue nalloc allowed ready carried held same chain renewed
      pktNum fresh allocated pushed =>
    have sent : (v.send ckm frames ack).AckOk := ok.send carried rfl rfl rfl rfl
    exact sent.plain (e := .mark .splitEntry) rfl rfl rfl rfl rfl
  case retry allowed enters stays empty noted =>
    refine ⟨.nil, fun _ member => ?_, fun _ _ member => ?_, fun _ member => ?_⟩ <;> cases member
  case handshakeOver state allowed =>
    have told : (v.emit (.mark (.handshakeOver v.state.closed))).AckOk := ok.plain rfl rfl rfl rfl rfl
    exact told.plain (e := .mark (.state state)) rfl rfl rfl rfl rfl
  case close id code strm found closable =>
    let mark := Event.mark (closeMark strm v.frq)
    have told : (v.emit mark).AckOk := ok.plain rfl rfl rfl rfl rfl
    refine told.plain (e := .streamClose strm.streamId code) rfl ?_ rfl rfl rfl
    simp [View.closeStream, View.emit, mark]
  case ackFrame ent fr rest held chain acked silent =>
    rcases v.ackFrame_cases fr with ⟨_, _, _, _, same⟩ | ⟨_, same⟩ <;> rw [same] <;>
      exact ok.same rfl (.refl _) fun _ _ active armed => ⟨active, armed⟩
  all_goals first
    | exact ok.same rfl (.refl _) fun _ _ active armed => ⟨active, armed⟩
    | exact ok.plain rfl rfl rfl rfl rfl

theorem pendingAfter_kept {e : Event} (left : e.kept = false) (pending : List (Nat × Bool)) :
    pendingAfter pending e = pending := by
  cases e <;> first | rfl | cases left

theorem Conn.pendingAcks_view (c : Conn) : pendingAcks c.view.log = pendingAcks c.log := by
  unfold pendingAcks Conn.view
  rw [List.foldl_filter]
  congr
  funext pending e
  split
  · rfl
  next left => exact (pendingAfter_kept (by simpa using left) pending).symm

theorem AcksKept.kept {pending : List (Nat × Bool)} {log : List Event} (kept : AcksKept pending log) :
    AcksKept pending (log.filter Event.kept) := by
  induction log generalizing pending with
  | nil => trivial
  | cons e rest ih =>
    rw [List.filter_cons]
    split
    · exact ⟨kept.1, ih kept.2⟩
    next left => exact ih (pendingAfter_kept (by simpa using left) pending ▸ kept.2)

/-- A tracked packet that waits for an ACK frame keeps the flag set and the timer running, unless an ACK frame
for unprotected packets is made while it waits. -/
theorem ack_eliciting_remembered {acts : List Act} {c : Conn} (run : Runs acts c)
    (kept : AcksKept [] c.log) :
    ∀ e ∈ c.acktr.ent, ∀ unprotected, (e.pktNum, unprotected) ∈ pendingAcks c.log →
      c.acktr.activeAck = true ∧ (c.immediateAck = true ∨ c.nextAckExpiry ≠ 0) := by
  have ok : c.view.AckOk := by
    refine run.invariant (C := AcksKept []) AcksKept.earlier (fun c first => ?_) (fun _ _ => Move.ackOk)
      kept.kept
    cases first <;>
      exact ⟨.nil, fun _ member => (nomatch member), fun _ _ member => (nomatch member),
        fun _ member => (nomatch member)⟩
  intro e member unprotected waits
  rw [← c.pendingAcks_view] at waits
  obtain ⟨-, active, armed⟩ := ok.waiting e member unprotected waits
  exact ⟨active, by simpa [Conn.view] using armed⟩

-- the last packet of the handshake waits for its acknowledgement
theorem ack_eliciting_remembered_openServer :
    (2, true) ∈ pendingAcks openServer.log ∧ openServer.acktr.activeAck = true ∧
      (openServer.immediateAck = true ∨ openServer.nextAckExpiry ≠ 0) :=
  ⟨by decide, ack_eliciting_remembered openServer_runs (by decide) { pktNum := 2, tstamp := 0, unprotected := true }
    (by decide +kernel) true (by decide +kernel)⟩

def earlyPingCalls : List (App × Call) :=
  (.quiet, .tls (.updateEarlyKeys .plain)) :: tlsCallsOf .CLIENT_HELLO ++
    [(.quiet, .recv (some (handshakePkt .INITIAL 1 0)) 0),
     (.quiet, .recv (some (.of true .ZERO_RTT_PROTECTED 2 [.ping []] (by simp [Frame.WireOk]))) 0),
     (.quiet, .writeAckPkt 1200 30000)]

theorem ack_eliciting_forgotten :
    ∃ acts c, Runs acts c ∧ (c.acktr.ent.map AcktrEntry.pktNum) = [2, 1] ∧
      pendingAcks c.log = [(2, false)] ∧ c.acktr.activeAck = false ∧ c.immediateAck = false ∧
      c.nextAckExpiry = 0 :=
  ⟨_, _, Runs.play (.start (.server 1 1 .plain true)) earlyPingCalls (by decide), by decide⟩

end Ngtcp2
