import Ngtcp2.Machine.WritePkt

namespace Ngtcp2

open Prog Relation

variable {sc : Scope} (app : App)

theorem does_all {α : Type} {m : ConnM α} (does : ∀ sc, Does sc m) (s : Conn) :
    wp m (fun _ t => ∀ sc, Reaches sc s t)
      (fun e t => e.fatal = true ∨ ∀ sc, Reaches sc s t) s := by
  refine wp_intro (fun a t run sc => (does sc s).reached run) fun e t run => ?_
  cases fatal : e.fatal with
  | true => exact .inl rfl
  | false => exact .inr fun sc => ((does sc s).stopped run).resolve_left (by simp [fatal])

theorem setTxBuf_still (data : List UInt8) : Still (setTxBuf data) :=
  modifyStrm_still fun _ => rfl

theorem connCallHandshakeData_spec {e : Event} (plain : e.kept = false) (s : Conn) :
    wp (connCallHandshakeData app e)
      (fun r t => (∀ sc, Reaches sc s t) ∧ r.1 < 18446744073709551616)
      (fun e t => e.fatal = true ∨ ∀ sc, Reaches sc s t) s := by
  refine wp_run (does_all (fun sc => connCallHandshakeData_does app plain) s) fun r t run => ?_
  obtain ⟨c, _, -, run⟩ := bind_eq_ok run
  obtain ⟨_, _, -, run⟩ := bind_eq_ok run
  cases answer : app.handshakeData c.log e with
  | none =>
    rw [answer] at run
    cases run
  | some message =>
    rw [answer] at run
    cases run
    exact message.1.toNat_lt

section Initial

variable {s : Conn} {n : Nat} {destlen ts : Nat}

theorem initial_reaches (rtb : Rtb) (send : sc.send) (bound : n < 18446744073709551616)
    (same : rtb.queue = s.rtb.queue ∧ rtb.head = s.rtb.head) :
    let t : Conn := { s.emit (.mark (.initialPktNum n)) with lastTxPktNum := sub64 n 1, rtb := rtb }
    Reaches sc s t ∧ t.view.Ready := by
  intro t
  have view : t.view =
      { s.view.emit (.mark (.initialPktNum n)) with lastTxPktNum := sub64 n 1 } := by
    rw [← Conn.view_emit _ rfl]
    simp [t, Conn.view, Conn.emit, same.1, same.2]
  have move : Move sc s.view t.view := by
    rw [view]
    exact .initial s.view n send bound
  refine ⟨.of_move move, ?_⟩
  rw [view]
  by_cases zero : n = 0
  · subst zero
    exact .inr ⟨s.view.log, [], rfl, by simp⟩
  · left
    dsimp only
    unfold sub64 uint64Max
    omega

theorem connSetClientPktNum_spec (send : sc.send) (ready : s.view.Ready)
    (bound : n < 18446744073709551616) :
    wp (connSetClientPktNum n) (fun _ t => Reaches sc s t ∧ t.view.Ready) (fun _ _ => False) s := by
  unfold connSetClientPktNum
  rw [wp_bind, wp_get]
  split
  next => exact initial_reaches s.rtb send bound ⟨rfl, rfl⟩
  next => exact ⟨.refl, ready⟩

theorem connSetInitialPktNum_spec (initial : Bool) (send : sc.send) (ready : s.view.Ready)
    (bound : n < 18446744073709551616) :
    wp (connSetInitialPktNum initial n) (fun _ t => Reaches sc s t ∧ t.view.Ready)
      (fun _ _ => False) s := by
  unfold connSetInitialPktNum
  split
  next =>
    have sound : ({ s.rtb with largestAcked := sub64 n 1 } : Rtb).Sound ↔ s.rtb.Sound :=
      ⟨fun sound => ⟨sound.pq, sound.bytes⟩, fun sound => ⟨sound.pq, sound.bytes⟩⟩
    refine initial_reaches { s.rtb with largestAcked := sub64 n 1 } send bound ⟨?_, rfl⟩
    simp only [Rtb.queue, sound]
  next => exact ⟨.refl, ready⟩

theorem handshakePkt_after {t : Conn} (type : PktType) (send : sc.send) (reached : Reaches sc s t)
    (ready : t.view.Ready) (known : type = .INITIAL ∨ type = .HANDSHAKE) :
    wp (connWriteHandshakePkt app destlen type ts) (Sends sc s) (fun e u => Fails sc e s u) t :=
  wp_mono (connWriteHandshakePkt_spec app type send ready known)
    (fun _ _ sent => .packet (.after reached sent)) fun _ _ stopped => Path.after reached stopped

theorem connWriteClientInitial_spec (send : sc.send) (ready : s.view.Ready) :
    wp (connWriteClientInitial app destlen ts) (Sends sc s) (fun e t => Fails sc e s t) s := by
  unfold connWriteClientInitial
  rw [wp_bind]
  refine wp_mono (connCallHandshakeData_spec app rfl s) ?_ fun e t stopped => ?_
  · rintro ⟨pktNum, data⟩ t ⟨reached, bound⟩
    dsimp only at bound ⊢
    split
    next => exact .inl rfl
    next =>
    rw [wp_bind]
    refine wp_mono (setTxBuf_still data t) (fun _ u same => ?_) fun _ u same => ?_
    · have ready : u.view.Ready := by
        rw [show u.view = t.view from same]
        exact ready_after reached ready
      rw [wp_bind]
      refine wp_mono (connSetClientPktNum_spec send ready bound) (fun _ w numbered => ?_)
        fun _ _ none => none.elim
      exact handshakePkt_after app .INITIAL send
        (ReflTransGen.trans (reached sc) (ReflTransGen.trans (Reaches.of_same same) numbered.1))
        numbered.2 (.inl rfl)
    · exact .inr (ReflTransGen.trans (reached sc) (Reaches.of_same same))
  · exact stopped.imp_right fun reached => reached sc

end Initial

section Handshake

variable {s : Conn} {destlen ts : Nat}

theorem handshakeAckPkt_after {t : Conn} (type : PktType) (send : sc.send)
    (reached : ∀ sc, Reaches sc s t) (ready : s.view.Ready) :
    wp (connWriteHandshakeAckPkt app destlen type ts) (Sends sc s) (fun e u => Fails sc e s u) t :=
  wp_mono (connWriteHandshakeAckPkt_spec app type send (ready_after reached ready))
    (fun _ _ sends => .after reached sends) fun _ _ stopped => Path.after (reached sc) stopped

theorem connWriteClientHandshake_spec (send : sc.send) (ready : s.view.Ready) :
    wp (connWriteClientHandshake app destlen ts) (Sends sc s) (fun e t => Fails sc e s t) s := by
  unfold connWriteClientHandshake
  rw [wp_bind]
  refine wp_intro (fun strm t run => ?_) fun e _ run => .inl (getStrm_error run)
  obtain ⟨rfl, -⟩ := getStrm_ok run
  split
  next =>
    rw [wp_bind]
    refine wp_mono (connCallHandshakeData_spec app rfl t) ?_ fun e u stopped => ?_
    · rintro ⟨pktNum, data⟩ u ⟨reached, -⟩
      dsimp only
      split
      next =>
        rw [wp_bind, wp_get]
        split
        next => exact .inr (reached sc)
        next => exact handshakeAckPkt_after app .HANDSHAKE send reached ready
      next =>
        rw [wp_bind]
        refine wp_mono (setTxBuf_still data u) (fun _ w same => ?_) fun _ w same => ?_
        · have reached : ∀ sc, Reaches sc t w := fun sc =>
            ReflTransGen.trans (reached sc) (Reaches.of_same same)
          exact handshakePkt_after app .HANDSHAKE send (reached sc) (ready_after reached ready) (.inr rfl)
        · exact .inr (ReflTransGen.trans (reached sc) (Reaches.of_same same))
    · exact stopped.imp_right fun reached => reached sc
  next => exact handshakePkt_after app .HANDSHAKE send .refl ready (.inr rfl)

theorem connWriteServerHandshake_spec (initial : Bool) (send : sc.send) (ready : s.view.Ready) :
    wp (connWriteServerHandshake app destlen initial ts) (Sends sc s) (fun e t => Fails sc e s t) s := by
  unfold connWriteServerHandshake
  rw [wp_bind]
  refine wp_intro (fun strm t run => ?_) fun e _ run => .inl (getStrm_error run)
  obtain ⟨rfl, -⟩ := getStrm_ok run
  split
  next =>
    rw [wp_bind]
    refine wp_mono (connCallHandshakeData_spec app rfl t) ?_ fun e u stopped => ?_
    · rintro ⟨pktNum, data⟩ u ⟨reached, bound⟩
      dsimp only at bound ⊢
      split
      next =>
        rw [wp_bind, wp_get]
        split
        next => exact .inl rfl
        next =>
        split
        next => exact .inr (reached sc)
        next => exact handshakeAckPkt_after app .HANDSHAKE send reached ready
      next =>
        rw [wp_bind]
        refine wp_mono (setTxBuf_still data u) (fun _ w same => ?_) fun _ w same => ?_
        · have reached : ∀ sc, Reaches sc t w := fun sc =>
            ReflTransGen.trans (reached sc) (Reaches.of_same same)
          rw [wp_bind]
          refine wp_mono (connSetInitialPktNum_spec initial send (ready_after reached ready) bound)
            (fun _ x numbered => ?_) fun _ _ none => none.elim
          exact handshakePkt_after app .HANDSHAKE send (ReflTransGen.trans (reached sc) numbered.1)
            numbered.2 (.inr rfl)
        · exact .inr (ReflTransGen.trans (reached sc) (Reaches.of_same same))
    · exact stopped.imp_right fun reached => reached sc
  next =>
    rw [wp_bind]
    refine wp_mono (connSetInitialPktNum_spec initial send ready (by decide)) (fun _ x numbered => ?_)
      fun _ _ none => none.elim
    exact handshakePkt_after app .HANDSHAKE send numbered.1 numbered.2 (.inr rfl)

theorem processEarlyRtb_spec (ents : List RtbEntry) (s : Conn) :
    wp (processEarlyRtb app ents)
      (fun _ t => ∀ sc, ReflTransGen (Move sc) { s.view with earlyRtb := ents } t.view)
      (fun e _ => e.fatal = true) s := by
  induction ents generalizing s with
  | nil => exact fun _ => .refl
  | cons ent rest ih =>
    unfold processEarlyRtb
    rw [wp_bind, wp_get]
    have same : (earlyEntryDue s ent).addr = ent.addr ∧ (earlyEntryDue s ent).hd = ent.hd ∧
        (earlyEntryDue s ent).frc = ent.frc := by
      unfold earlyEntryDue
      split <;> exact ⟨rfl, rfl, rfl⟩
    rw [wp_bind, wp_connMarkEntry, wp_bind, wp_attempt]
    refine wp_mono (connRtbAdd_spec app (earlyEntryDue s ent) _) ?_ fun _ _ fatal => fatal
    rintro _ t ⟨n, grows, rfl⟩
    refine wp_mono (ih _) (fun _ u moves sc => ?_) fun _ _ fatal => fatal
    have first : Move sc _ _ := .earlyEntry { s.view with earlyRtb := ent :: rest } ent _ rest _ rfl
      same (ngtcp2RtbAdd_pushed s.rtb (earlyEntryDue s ent))
    refine .head first (.head (.alloc _ n grows) ?_)
    have view := s.view_emit
      (e := .mark (.earlyEntry ent.hd.pktNum s.view.headPktNum s.view.keyed)) rfl
    have log := congrArg View.log view
    simp only [Conn.view] at log
    have moves := moves sc
    simp only [Conn.view] at moves ⊢
    rw [log] at moves
    exact moves

theorem connProcessEarlyRtb_spec (s : Conn) :
    wp (connProcessEarlyRtb app) (fun _ t => ∀ sc, Reaches sc s t) (fun e _ => e.fatal = true) s :=
  processEarlyRtb_spec app s.earlyRtb s

theorem Fails.loses {e : Err} {s t : Conn} (fails : Fails sc e s t) : Loses sc e s t :=
  fails.imp_right fun reached _ => reached

structure Ends (sc : Scope) (s : Conn) (len : Nat) (t : Conn) : Prop where
  reached : Reaches sc s t
  packet : 0 < len → s.view.packets < t.view.packets

theorem Ends.zero {t : Conn} (reached : Reaches sc s t) : Ends sc s 0 t :=
  ⟨reached, fun positive => absurd positive (Nat.lt_irrefl 0)⟩

theorem Ends.after {t u : Conn} {len : Nat} (reached : Reaches sc s t) (ends : Ends sc t len u) :
    Ends sc s len u where
  reached := ReflTransGen.trans reached ends.reached
  packet positive := Nat.lt_of_le_of_lt (View.packets_run reached) (ends.packet positive)

theorem Ends.enter {t : Conn} {len : Nat} {state : ConnState} (ends : Ends sc s len t)
    (allowed : sc.become state) (stays : t.state.closed = true → state.closed = true) :
    Ends sc s len (t.enter state) where
  reached := ReflTransGen.tail ends.reached (t.view_enter state ▸ .enter t.view state allowed stays)
  packet positive := by
    rw [t.view_enter]
    exact Nat.lt_of_lt_of_le (ends.packet positive) (View.packets_run (.single (.enter t.view state allowed stays)))

theorem Sends.ends {t : Conn} {len : Nat} (sends : Sends sc s len t) : Ends sc s len t where
  reached := sends.reached
  packet := by
    cases sends with
    | nothing => exact fun positive => absurd positive (Nat.lt_irrefl 0)
    | packet sent => exact fun _ => sent.packet

theorem Sends.zero {t : Conn} {len : Nat} (sends : Sends sc s len t) (zero : ¬ len ≠ 0) :
    ∀ sc, Reaches sc s t := by
  cases sends with
  | nothing reached => exact reached
  | packet sent => exact absurd (Nat.pos_iff_ne_zero.mp sent.positive) zero

theorem connFinishClientHandshake_spec (send : sc.send) (allowed : sc.become .POST_HANDSHAKE)
    (opened : s.state.closed = false) (ready : s.view.Ready) :
    wp (connFinishClientHandshake app destlen ts) (Ends sc s) (fun e t => Loses sc e s t) s := by
  unfold connFinishClientHandshake setState
  rw [wp_bind, wp_modify, wp_bind, wp_get]
  have entered : Reaches sc s (s.enter .POST_HANDSHAKE) :=
    .of_move (s.view_enter _ ▸ .enter s.view _ allowed (by simp [Conn.view, opened]))
  split
  next => exact .inr fun _ => entered
  next =>
  split
  next => exact .zero entered
  next =>
  rw [wp_bind]
  refine wp_mono (connProcessEarlyRtb_spec app _) (fun _ t reached => ?_) fun _ _ fatal => .inl fatal
  have here : Reaches sc s t := ReflTransGen.trans entered (reached sc)
  have entering : (s.enter .POST_HANDSHAKE).view.Ready := by
    rw [s.view_enter]
    exact ready.emit rfl rfl rfl
  have ready' : t.view.Ready := ready_after reached entering
  exact wp_mono (connRetransmit_spec app destlen ts send ready')
    (fun _ _ sends => .after here sends.ends) fun _ _ loses => Path.after here loses

section After

variable {t : Conn} {m : ConnM Nat}

theorem ends_after (reached : ∀ sc, Reaches sc s t)
    (spec : wp m (Sends sc t) (fun e u => Fails sc e t u) t) :
    wp m (Ends sc s) (fun e u => Loses sc e s u) t :=
  wp_mono spec (fun _ _ sends => .after (reached sc) sends.ends)
    fun _ _ stopped => Path.after (reached sc) (Fails.loses stopped)

theorem setState_after {state : ConnState} (allowed : sc.become state)
    (opened : t.state.closed = false) (reached : ∀ sc, Reaches sc s t) (send : sc.send)
    (spec : ∀ sc : Scope, sc.send → wp m (Sends sc t) (fun e u => Fails sc e t u) t) :
    wp (do
        let nwrite ← m
        setState state
        pure nwrite)
      (Ends sc s) (fun e u => Loses sc e s u) t := by
  rw [wp_bind]
  have steady := spec { sc with become := fun _ => False } send
  refine wp_mono (wp_and (spec sc send) steady) (fun len u sends => ?_)
    fun _ _ stopped => Path.after (reached sc) (Fails.loses stopped.1)
  have same : u.state = t.state := sends.2.reached.steady fun _ => id
  exact Ends.enter (.after (reached sc) sends.1.ends) allowed (by simp [same, opened])

end After

def writePktEnters : ConnState → List ConnState
  | .CLIENT_INITIAL => [.CLIENT_WAIT_HANDSHAKE]
  | .CLIENT_HANDSHAKE_ALMOST_FINISHED => [.POST_HANDSHAKE]
  | .SERVER_INITIAL => [.SERVER_WAIT_HANDSHAKE]
  | _ => []

theorem ngtcp2ConnWritePkt_spec (send : sc.send) (s : Conn) (post : s.state = .POST_HANDSHAKE → sc.post)
    (enters : ∀ state ∈ writePktEnters s.state, sc.become state) :
    wp (ngtcp2ConnWritePkt app destlen ts) (Ends sc s) (fun e t => Loses sc e s t) s := by
  unfold ngtcp2ConnWritePkt
  rw [wp_bind, wp_get]
  split
  next => exact .inr fun _ => .refl
  next fresh =>
  have ready : s.view.Ready := .inl fresh
  rw [wp_bind]
  refine wp_mono (connRetransmit_spec app destlen ts send ready) (fun len t sends => ?_)
    fun _ _ loses => loses
  split
  next => exact sends.ends
  next zero =>
  have reached := sends.zero zero
  have ready := ready_after reached ready
  have same := state_after reached
  rw [wp_bind, wp_get]
  rw [← same] at enters post
  cases state : t.state <;> rw [state] at enters <;> dsimp only
  case CLIENT_INITIAL =>
    exact setState_after (enters _ (by decide)) (by rw [state]; rfl) reached send
      fun _ send => connWriteClientInitial_spec app send ready
  case CLIENT_WAIT_HANDSHAKE => exact ends_after reached (connWriteClientHandshake_spec app send ready)
  case CLIENT_HANDSHAKE_ALMOST_FINISHED =>
    rw [wp_bind]
    refine wp_mono (connWriteClientHandshake_spec app send ready) (fun len u sends => ?_)
      fun _ _ stopped => Path.after (reached sc) (Fails.loses stopped)
    split
    next => exact .after (reached sc) sends.ends
    next zero =>
      have reached' : Reaches sc s u := ReflTransGen.trans (reached sc) (sends.zero zero sc)
      have opened : u.state.closed = false := by
        rw [state_after (sends.zero zero), state]
        rfl
      exact wp_mono (connFinishClientHandshake_spec app send (enters _ (by decide)) opened
          (ready_after (sends.zero zero) ready))
        (fun _ _ ends => .after reached' ends) fun _ _ loses => Path.after reached' loses
  case CLIENT_TLS_HANDSHAKE_FAILED =>
    exact ends_after reached (connWriteClientHandshake_spec app send ready)
  case SERVER_INITIAL =>
    exact setState_after (enters _ (by decide)) (by rw [state]; rfl) reached send
      fun _ send => connWriteServerHandshake_spec app true send ready
  case SERVER_WAIT_HANDSHAKE =>
    exact ends_after reached (connWriteServerHandshake_spec app false send ready)
  case SERVER_TLS_HANDSHAKE_FAILED =>
    rw [wp_bind]
    refine wp_intro (fun strm u run => ?_) fun e _ run => .inl (getStrm_error run)
    obtain ⟨rfl, -⟩ := getStrm_ok run
    exact ends_after reached (connWriteServerHandshake_spec app _ send ready)
  case POST_HANDSHAKE => exact ends_after reached (connWritePkt_spec app send (post state) ready)
  case CLOSING => exact .zero (reached sc)
  case DRAINING => exact .zero (reached sc)

theorem ngtcp2ConnWriteAckPkt_spec (send : sc.send) (s : Conn) :
    wp (ngtcp2ConnWriteAckPkt app destlen ts) (Ends sc s) (fun e t => Loses sc e s t) s := by
  unfold ngtcp2ConnWriteAckPkt
  rw [wp_bind, wp_get]
  split
  next => exact .inr fun _ => .refl
  next fresh =>
  have ready : s.view.Ready := .inl fresh
  rw [wp_bind]
  refine wp_mono (connRetransmit_spec app destlen ts send ready) (fun len t sends => ?_)
    fun _ _ loses => loses
  split
  next => exact sends.ends
  next zero =>
  have reached := sends.zero zero
  have ready := ready_after reached ready
  have handshake : wp (connWriteHandshakeAckPkt app destlen .HANDSHAKE ts) (Ends sc s)
      (fun e u => Loses sc e s u) t :=
    ends_after reached (connWriteHandshakeAckPkt_spec app .HANDSHAKE send ready)
  rw [wp_bind, wp_get]
  split
  all_goals first
    | exact handshake
    | exact ends_after reached (connWriteProtectedAckPkt_spec app send ready)
    | exact .zero (reached sc)

theorem connClose_spec (fr : Frame) (send : sc.send) (fresh : s.lastTxPktNum ≠ uint64Max) :
    wp (connWriteSingleFramePkt app destlen fr)
      (fun len t => Ends sc s len t ∧ (sc.become .CLOSING → Ends sc s len (t.enter .CLOSING)))
      (fun e t => Loses sc e s t) s := by
  refine wp_mono (connWriteClosePkt_spec app fr send (.inl fresh)) (fun len t sent => ?_)
    fun _ _ stopped => stopped.loses
  have ends : Ends sc s len t := (Sends.packet sent).ends
  exact ⟨ends, fun allowed => ends.enter allowed fun _ => rfl⟩

theorem ngtcp2ConnWriteConnectionClose_spec (errorCode : Nat) (send : sc.send) (s : Conn)
    (closing : s.state = .POST_HANDSHAKE → sc.become .CLOSING) :
    wp (ngtcp2ConnWriteConnectionClose app destlen errorCode) (Ends sc s)
      (fun e t => Loses sc e s t) s := by
  unfold ngtcp2ConnWriteConnectionClose
  rw [wp_bind, wp_get]
  split
  next => exact .inr fun _ => .refl
  next fresh =>
  split
  next state =>
    rw [wp_bind]
    refine wp_mono (connClose_spec app _ send fresh) (fun len t ends => ?_) fun _ _ loses => loses
    split
    next => exact ends.2 (closing state)
    next => exact ends.1
  next => exact .inr fun _ => .refl

theorem ngtcp2ConnWriteApplicationClose_spec (appErrorCode : Nat) (send : sc.send) (s : Conn)
    (closing : s.state = .POST_HANDSHAKE → sc.become .CLOSING) :
    wp (ngtcp2ConnWriteApplicationClose app destlen appErrorCode) (Ends sc s)
      (fun e t => Loses sc e s t) s := by
  unfold ngtcp2ConnWriteApplicationClose
  rw [wp_bind, wp_get]
  split
  next => exact .inr fun _ => .refl
  next =>
  split
  next => exact .inr fun _ => .refl
  next fresh =>
  split
  next state =>
    rw [wp_bind]
    exact wp_mono (connClose_spec app _ send fresh) (fun len t ends => ends.2 (closing state))
      fun _ _ loses => loses
  next => exact .inr fun _ => .refl

end Handshake

section Stream

variable {s : Conn} {destlen ts : Nat}

def Conn.streamSent (c : Conn) (km : CryptoKm) (fr : StreamFrame) (strm : Strm) : Conn :=
  { (c.emit (.encrypt km c.view.next [.stream fr])).setStrm fr.streamId (some strm) with
    txOffset := if fr.streamId ≠ 0 then add64 c.txOffset fr.datalen else c.txOffset
    lastTxPktNum := c.view.next }

theorem Conn.view_streamSent (c : Conn) (km : CryptoKm) (fr : StreamFrame) (strm : Strm) :
    (c.streamSent km fr strm).view =
      { (c.view.send km [.stream fr] none).setStrm fr.streamId (some strm.view) with
        txOffset := if fr.streamId ≠ 0 then add64 c.txOffset fr.datalen else c.txOffset } := by
  have stream := (c.emit (.encrypt km c.view.next [.stream fr])).view_setStrm fr.streamId (some strm)
  rw [Conn.view_emit _ rfl] at stream
  have log := congrArg View.log stream
  have strms := congrArg View.strms stream
  simp only [Conn.view] at log strms
  simp only [Conn.streamSent, Conn.view, log, strms]
  simp [Conn.setStrm, Conn.emit, View.setStrm, View.emit, View.send, View.next]

theorem writeStreamHd_ok {hd : PktHd} {ckm : CryptoKm} {early : Bool}
    (run : writeStreamHd s = .ok (hd, ckm, early)) :
    hd.pktNum = s.view.next ∧ if early then hd.longForm = true
      else hd = connShortHd s ∧ s.txCkm.isSome = true := by
  unfold writeStreamHd at run
  split at run
  next ckm' key =>
    cases run
    simp [connShortHd, key, Conn.view, View.next]
  next =>
    split_ifs at run
    cases run
    exact ⟨rfl, rfl⟩
  next => cases run

structure StreamFits (c : Conn) (fr : StreamFrame) (strm : Strm) : Prop where
  found : c.strms fr.streamId = some strm
  offset : fr.offset = strm.txOffset
  bound : strm.txOffset + fr.datalen < 18446744073709551616
  strmFits : fr.datalen ≤ sub64 strm.maxTxOffset strm.txOffset
  connFits : fr.datalen ≤ sub64 c.maxTxOffset c.txOffset

def Strm.wrote (strm : Strm) (fr : StreamFrame) : Strm :=
  { strm with txOffset := add64 strm.txOffset fr.datalen, shutWr := strm.shutWr || fr.fin }

variable {u : Conn} {km : CryptoKm} {fr : StreamFrame} {strm : Strm} {ent : RtbEntry} {n len : Nat}

theorem streamSent_sent {c : Conn} (move : Move sc u.view (c.streamSent km fr (strm.wrote fr)).view)
    (log : c.log = u.log) (positive : 0 < len) :
    Sent sc u len (c.streamSent km fr (strm.wrote fr)) := by
  refine ⟨positive, .of_move move, ?_⟩
  have grown : (c.streamSent km fr (strm.wrote fr)).view.packets = u.view.packets + 1 := by
    rw [Conn.view_streamSent]
    change (c.view.send km [.stream fr] none).packets = _
    rw [View.send_packets]
    simp [View.packets, Conn.view, log]
  omega

theorem sendStream_sent (send : sc.send) (ready : u.view.Ready) (keyed : u.txCkm.isSome = true)
    (entry : u.view.NewEntry ent n) (short : ent.hd.longForm = false) (carries : ent.frc = [.stream fr])
    (fits : StreamFits u fr strm) (filled : fr.data = [] → sc.empty) (positive : 0 < len) :
    Sent sc u len (({ u with nalloc := n, rtb := ngtcp2RtbAdd u.rtb ent } : Conn).streamSent km fr
      (strm.wrote fr)) := by
  refine streamSent_sent ?_ rfl positive
  rw [Conn.view_streamSent]
  have move : Move sc _ _ := .sendStream u.view km fr strm.view ent _ n send ready keyed entry short
    carries (ngtcp2RtbAdd_pushed u.rtb ent) (Conn.view_strms fits.found) fits.offset fits.bound fits.strmFits
    fits.connFits filled
  unfold Strm.wrote
  rw [add64_eq fits.bound]
  exact move

theorem sendEarly_sent (send : sc.send) (ready : u.view.Ready)
    (entry : u.view.NewEntry ent n) (short : ent.hd.longForm = false) (carries : ent.frc = [.stream fr])
    (fits : StreamFits u fr strm) (filled : fr.data = [] → sc.empty) (positive : 0 < len) :
    Sent sc u len (({ u with nalloc := n, earlyRtb := u.earlyRtb ++ [ent] } : Conn).streamSent km fr
      (strm.wrote fr)) := by
  refine streamSent_sent ?_ rfl positive
  rw [Conn.view_streamSent]
  have move : Move sc _ _ := .sendEarly u.view km fr strm.view ent n send ready entry short
    carries (Conn.view_strms fits.found) fits.offset fits.bound fits.strmFits fits.connFits filled
  unfold Strm.wrote
  rw [add64_eq fits.bound]
  exact move

theorem writeStreamLen_le (c : Conn) (strm : Strm) (left datalen : Nat) :
    writeStreamLen c strm left datalen ≤ datalen ∧
      writeStreamLen c strm left datalen ≤ sub64 strm.maxTxOffset strm.txOffset ∧
      writeStreamLen c strm left datalen ≤ sub64 c.maxTxOffset c.txOffset := by
  unfold writeStreamLen
  omega

theorem writeStreamFinish_spec (ts : Nat) {hd : PktHd} {ckm : Option CryptoKm} {ppe : Ppe} {early : Bool}
    (send : sc.send) (ready : u.view.Ready) (built : ppe.At u.view.next ckm [.stream fr])
    (pktNum : hd.pktNum = u.view.next)
    (type : if early then hd.longForm = true else hd.Tracked ∧ hd.longForm = false)
    (keyed : early = false → u.txCkm.isSome = true) (fits : StreamFits u fr strm)
    (filled : fr.data = [] → sc.empty) :
    wp (do
        let nwrite ← ngtcp2PpeFinal app ppe
        let ent ← connRtbEntryNew app hd [.stream fr] ts (add64 ts pktDeadlinePeriod) nwrite false
        writeStreamTrack app early ent
        modifyStrm fr.streamId fun strm =>
          { strm with txOffset := add64 strm.txOffset fr.datalen, shutWr := strm.shutWr || fr.fin }
        modify fun c =>
          { c with txOffset := if fr.streamId ≠ 0 then add64 c.txOffset fr.datalen else c.txOffset }
        incLastTxPktNum
        pure (nwrite, fr.datalen))
      (fun r t => Sent sc u r.1 t) (fun e _ => e.fatal = true) u := by
  rw [wp_bind]
  refine wp_mono (ngtcp2PpeFinal_spec app u built) ?_ fun _ _ fatal => fatal
  rintro len t ⟨positive, km, rfl⟩
  rw [wp_bind]
  refine wp_mono (connRtbEntryNew_spec app _ _ _ _ _ _ _) ?_ fun _ _ fatal => fatal
  rintro ent t ⟨rfl, rfl⟩
  rw [wp_bind]
  unfold writeStreamTrack
  cases early with
  | true =>
    simp only [if_true] at type ⊢
    rw [wp_modify, wp_bind]
    refine Eq.mpr (wp_modifyStrm _ (by exact fits.found)) ?_
    exact sendEarly_sent (n := u.nalloc + 1) send ready
      ⟨pktNum, by simp [PktHd.Tracked, PktHd.shortType], Nat.le_refl _, Nat.lt_succ_self _⟩ rfl rfl fits filled
      positive
  | false =>
    simp only [Bool.false_eq_true, if_false] at type ⊢
    refine wp_mono (connRtbAdd_spec app _ _) ?_ fun _ _ fatal => fatal
    rintro _ t ⟨n, grows, rfl⟩
    rw [wp_bind]
    refine Eq.mpr (wp_modifyStrm _ (by exact fits.found)) ?_
    exact sendStream_sent (n := n) send ready (keyed rfl)
      ⟨pktNum, type.1, Nat.le_refl _, grows⟩ type.2 rfl fits filled positive

theorem ngtcp2ConnWriteStream_spec (streamId : Nat) (fin : Bool) (data : List UInt8) (send : sc.send)
    (empty : data = [] → sc.empty) (s : Conn) :
    wp (ngtcp2ConnWriteStream app destlen streamId fin data ts) (fun r t => Sends sc s r.1 t)
      (fun e t => Loses sc e s t) s := by
  have here (e : Err) : Loses sc e s s := .inr fun _ => .refl
  unfold ngtcp2ConnWriteStream
  rw [wp_bind, wp_get]
  split
  next => exact here _
  next fresh =>
  split
  next => exact here _
  next strm found =>
  split
  next => exact here _
  next =>
  rw [wp_bind]
  cases headed : writeStreamHd s with
  | error e => exact here _
  | ok r =>
  obtain ⟨hd, ckm, early⟩ := r
  obtain ⟨pktNum, type⟩ := writeStreamHd_ok headed
  rw [wp_ofExcept_ok]
  dsimp only
  rw [wp_bind]
  cases encoded : ngtcp2PpeEncodeHd (ngtcp2PpeInit destlen s.aeadOverhead (some ckm)) hd with
  | error e => exact here _
  | ok ppe =>
  rw [wp_ofExcept_ok]
  split
  next => exact here _
  next =>
  split
  next => exact here _
  next unblocked =>
  obtain ⟨whole, strmFits, connFits⟩ := writeStreamLen_le s strm (ngtcp2PpeLeft ppe) data.length
  have taken : (data.take (writeStreamLen s strm (ngtcp2PpeLeft ppe) data.length)).length =
      writeStreamLen s strm (ngtcp2PpeLeft ppe) data.length := List.length_take_of_le whole
  rw [wp_bind]
  refine wp_mono (connCall_plain app rfl) (fun _ t plain => ?_) fun _ _ fatal => .inl fatal
  rw [wp_bind]
  refine wp_mono (malloc_plain app t) ?_ fun _ _ fatal => .inl fatal
  rintro addr t' ⟨-, rfl⟩
  have plain := plain.trans (.alloc t)
  rw [wp_bind]
  let fr : StreamFrame :=
    { fin := fin && writeStreamLen s strm (ngtcp2PpeLeft ppe) data.length == data.length
      streamId := streamId
      offset := strm.txOffset
      data := data.take (writeStreamLen s strm (ngtcp2PpeLeft ppe) data.length) }
  have datalen : fr.datalen = writeStreamLen s strm (ngtcp2PpeLeft ppe) data.length := taken
  cases written : ngtcp2PpeEncodeFrame ppe (.stream fr) with
  | error e => exact .inr fun _ => plain.aside.reaches
  | ok ppe' =>
  obtain ⟨⟨n, valid⟩, adds⟩ := ngtcp2PpeEncodeFrame_ok written
  have built := adds (ngtcp2PpeEncodeHd_at encoded)
  rw [wp_ofExcept_ok, wp_bind]
  refine wp_mono (connCall_plain app rfl) (fun _ u plain' => ?_) fun _ _ fatal => .inl fatal
  have plain := plain.trans plain'
  have silent := plain.aside.silent
  have reached : Reaches sc s u := plain.aside.reaches
  have bound := streamFrame_bound valid
  have fits : StreamFits u fr strm := by
    obtain ⟨n, es, -, -, rfl⟩ := plain
    exact ⟨found, rfl, bound, datalen ▸ strmFits, datalen ▸ connFits⟩
  have filled : fr.data = [] → sc.empty := by
    intro none
    refine empty (List.eq_nil_of_length_eq_zero ?_)
    have zero : fr.data.length = 0 := by simp [none]
    have len : fr.data.length = writeStreamLen s strm (ngtcp2PpeLeft ppe) data.length := taken
    omega
  have keyed : early = false → u.txCkm.isSome = true := by
    obtain ⟨n, es, -, -, rfl⟩ := plain
    rintro rfl
    exact type.2
  have type : if early then hd.longForm = true else hd.Tracked ∧ hd.longForm = false := by
    cases early with
    | true => exact type
    | false =>
      obtain rfl := type.1
      exact ⟨connShortHd_tracked s, rfl⟩
  have finish := writeStreamFinish_spec app ts send (silent.2 (.inl fresh))
    (by rw [silent.1, ← pktNum]; exact built) (pktNum.trans silent.1.symm) type keyed fits filled
  rw [datalen] at finish
  exact wp_mono finish (fun _ _ sent => .packet (.after reached sent)) fun _ _ fatal => .inl fatal

end Stream

end Ngtcp2
