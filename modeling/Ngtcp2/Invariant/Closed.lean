import Ngtcp2.System

/-!
# A closed connection

Only the end of the handshake assigns the state without a look at the old one.
-/

namespace Ngtcp2

open Prog

def states (log : List Event) : List ConnState :=
  log.filterMap fun
    | .mark (.state state) => some state
    | _ => none

def Mark.OverOpen (m : Mark) : Prop := m ≠ .handshakeOver true

instance : DecidablePred Mark.OverOpen := fun m => inferInstanceAs (Decidable (m ≠ _))

structure View.Absorbed (v : View) : Prop where
  ordered : (states v.log).Pairwise fun earlier later => earlier.closed = true → later.closed = true
  current : ∀ state ∈ states v.log, state.closed = true → v.state.closed = true

theorem View.Absorbed.same {v w : View} (absorbed : v.Absorbed) (state : w.state = v.state)
    (log : states w.log = states v.log) : w.Absorbed where
  ordered := log ▸ absorbed.ordered
  current := state ▸ log ▸ absorbed.current

theorem View.Absorbed.enter {v w : View} {state : ConnState} (absorbed : v.Absorbed)
    (stays : v.state.closed = true → state.closed = true) (entered : w.state = state)
    (log : states w.log = states v.log ++ [state]) : w.Absorbed where
  ordered := by
    rw [log]
    refine List.pairwise_append.mpr ⟨absorbed.ordered, List.pairwise_singleton _ _, ?_⟩
    intro earlier member later last closed
    obtain rfl : later = state := by simpa using last
    exact stays (absorbed.current earlier member closed)
  current := by
    intro earlier member closed
    rw [entered]
    rw [log, List.mem_append] at member
    rcases member with member | member
    · exact stays (absorbed.current earlier member closed)
    · obtain rfl : earlier = state := by simpa using member
      exact closed

theorem states_view (c : Conn) : states c.view.log = states c.log := by
  refine (List.filterMap_filter ..).trans (List.filterMap_congr fun e _ => ?_)
  cases e <;> rfl

theorem Move.absorbed {v w : View} (move : Move .any v w) (opened : Marked Mark.OverOpen w.log)
    (absorbed : v.Absorbed) : w.Absorbed := by
  cases move
  case enter state allowed stays => exact absorbed.enter stays rfl (by simp [View.enter, states])
  case handshakeOver state allowed =>
    have open_ : v.state.closed = false := by
      have apart := opened (.handshakeOver v.state.closed) (by simp [View.enter, View.emit])
      simpa [Mark.OverOpen] using apart
    exact absorbed.enter (by simp [open_]) rfl (by simp [View.enter, View.emit, states])
  case retry allowed enters stays empty noted =>
    exact absorbed.enter (by simp [stays]) rfl (by simp [View.enter, View.emit, View.setStrm, states])
  case ackFrame ent fr rest held chain acked silent =>
    rcases v.ackFrame_cases fr with ⟨_, _, _, _, same⟩ | ⟨_, same⟩ <;> rw [same] <;>
      exact absorbed.same rfl rfl
  all_goals
    exact absorbed.same rfl (by simp [View.emit, View.setStrm, View.closeStream, closeMark, View.send,
      View.add, View.setIdtr, states])

def closingPkt : Pkt :=
  .of true .HANDSHAKE 1
    [.connectionClose 0 [], .stream { fin := false, streamId := 0, offset := 0, data := [0] }] (by decide)

def closingCalls : List (App × Call) :=
  tlsCallsOf .ENCRYPTED_EXTENSIONS ++
    [(.hello, .writePkt 1200 0), (.finished, .recv (some closingPkt) 0)]

section Silent

variable {s : Conn}

def Conn.NoneDue (s : Conn) (ts : Nat) : Prop := ∀ ent, ngtcp2RtbTop s.rtb = some ent → ts < ent.expiry

/-- A draining connection has nothing to send in a call: no packet is due, and a stream is gone, shut
or without a key. -/
def Call.Idle (s : Conn) : Call → Prop
  | .writePkt _ ts | .writeAckPkt _ ts => s.NoneDue ts
  | .writeStream _ streamId _ _ _ =>
    ∀ strm, s.strms streamId = some strm → strm.shutWr = true ∨ ∀ sent, writeStreamHd s ≠ .ok sent
  | _ => True

theorem connRetransmit_idle (app : App) (destlen : Nat) {ts : Nat} (idle : s.NoneDue ts) :
    wp (connRetransmit app destlen ts) (fun len t => len = 0 ∧ t = s) (fun _ _ => False) s := by
  unfold connRetransmit connRetransmitLoop
  rw [wp_bind, wp_get, wp_bind, wp_get]
  cases top : ngtcp2RtbTop s.rtb with
  | none => exact ⟨rfl, rfl⟩
  | some ent =>
    dsimp only
    rw [if_pos (idle ent top)]
    exact ⟨rfl, rfl⟩

theorem ngtcp2ConnWritePkt_idle (app : App) (destlen : Nat) {ts : Nat} (draining : s.state = .DRAINING)
    (idle : s.NoneDue ts) :
    wp (ngtcp2ConnWritePkt app destlen ts) (fun len _ => len = 0) (fun _ _ => True) s := by
  unfold ngtcp2ConnWritePkt
  rw [wp_bind, wp_get]
  split
  next => trivial
  next =>
    rw [wp_bind]
    refine wp_mono (connRetransmit_idle app destlen idle) ?_ fun _ _ never => never.elim
    rintro len t ⟨rfl, rfl⟩
    rw [if_neg (by decide), wp_bind, wp_get, draining]
    rfl

theorem ngtcp2ConnWriteAckPkt_idle (app : App) (destlen : Nat) {ts : Nat}
    (draining : s.state = .DRAINING) (idle : s.NoneDue ts) :
    wp (ngtcp2ConnWriteAckPkt app destlen ts) (fun len _ => len = 0) (fun _ _ => True) s := by
  unfold ngtcp2ConnWriteAckPkt
  rw [wp_bind, wp_get]
  split
  next => trivial
  next =>
    rw [wp_bind]
    refine wp_mono (connRetransmit_idle app destlen idle) ?_ fun _ _ never => never.elim
    rintro len t ⟨rfl, rfl⟩
    rw [if_neg (by decide), wp_bind, wp_get, draining]
    rfl

theorem ngtcp2ConnWriteStream_idle (app : App) {destlen streamId : Nat} {fin : Bool} {data : List UInt8}
    {ts : Nat} (idle : (Call.writeStream destlen streamId fin data ts).Idle s) :
    wp (ngtcp2ConnWriteStream app destlen streamId fin data ts) (fun _ _ => False) (fun _ _ => True) s := by
  unfold ngtcp2ConnWriteStream
  rw [wp_bind, wp_get]
  split
  next => trivial
  next =>
    cases found : s.strms streamId with
    | none => trivial
    | some strm =>
      dsimp only
      split
      next => trivial
      next opened =>
        have nokey := (idle strm found).resolve_left opened
        rw [wp_bind]
        cases hd : writeStreamHd s with
        | error e => trivial
        | ok sent => exact absurd hd (nokey sent)

theorem returns0_zero (m : ConnM Unit) : wp (returns0 m) (fun len _ => len = 0) (fun _ _ => True) s := by
  unfold returns0
  rw [wp_bind]
  exact wp_intro (fun _ _ _ => rfl) fun _ _ _ => trivial

theorem Call.exec_idle (app : App) {call : Call} (draining : s.state = .DRAINING) (idle : call.Idle s) :
    wp (call.exec app) (fun len _ => len = 0) (fun _ _ => True) s := by
  cases call with
  | writePkt destlen ts => exact ngtcp2ConnWritePkt_idle app destlen draining idle
  | writeAckPkt destlen ts => exact ngtcp2ConnWriteAckPkt_idle app destlen draining idle
  | writeStream destlen streamId fin data ts =>
    unfold Call.exec
    rw [wp_bind]
    exact wp_mono (ngtcp2ConnWriteStream_idle app idle) (fun _ _ never => never.elim) fun _ _ _ => trivial
  | writeConnectionClose destlen errorCode =>
    unfold Call.exec ngtcp2ConnWriteConnectionClose
    rw [wp_bind, wp_get]
    simp [draining]
  | writeApplicationClose destlen appErrorCode =>
    unfold Call.exec ngtcp2ConnWriteApplicationClose
    rw [wp_bind, wp_get]
    simp [draining]
  | openBidiStream =>
    unfold Call.exec
    rw [wp_bind]
    exact wp_intro (fun _ _ _ => rfl) fun _ _ _ => trivial
  | openUniStream =>
    unfold Call.exec
    rw [wp_bind]
    exact wp_intro (fun _ _ _ => rfl) fun _ _ _ => trivial
  | _ => exact returns0_zero _

def drainedServer : Conn :=
  openServer.play
    [(.quiet, .openBidiStream), (.quiet, .writeStream 1200 1 false [0] 0),
     (.quiet, .recv (some (.of false .PKT_01 3 [.connectionClose 0 []] (by decide))) 0)]

end Silent

def ConnState.stage : ConnState → Nat
  | .POST_HANDSHAKE => 1
  | .CLOSING => 2
  | .DRAINING => 3
  | _ => 0

theorem Call.enters_stage {call : Call} {state next : ConnState} (entered : call.enters state next) :
    state.stage ≤ next.stage := by
  cases call with
  | recv pkt ts =>
    have all : ∀ next ∈ recvEnters state, state.stage ≤ next.stage := by cases state <;> decide
    exact all next entered
  | frame fr =>
    obtain rfl : next = .DRAINING := by cases fr <;> first | exact entered | exact entered.elim
    cases state <;> decide
  | writePkt destlen ts =>
    have all : ∀ next ∈ writePktEnters state, state.stage ≤ next.stage := by cases state <;> decide
    exact all next entered
  | writeConnectionClose destlen errorCode =>
    obtain ⟨rfl, rfl⟩ := entered
    decide
  | writeApplicationClose destlen appErrorCode =>
    obtain ⟨rfl, rfl⟩ := entered
    decide
  | _ => exact entered.elim

/-- From one call to the next a connection only goes forward: it is set up, open, closing, draining. -/
theorem conn_stages_rise {before acts : List Act} {s c : Conn} (reached : Runs before s)
    (run : Run Step (fun d => d = s) acts c) : s.state.stage ≤ c.state.stage := by
  have rises : c.Role ∧ s.state.stage ≤ c.state.stage := by
    refine run.invariant (P := fun _ c => c.Role ∧ s.state.stage ≤ c.state.stage) ?_ ?_
    · rintro c rfl
      exact ⟨reached.role, Nat.le_refl _⟩
    · rintro _ t act u ⟨role, rises⟩ step
      refine ⟨step.role role, rises.trans ?_⟩
      rcases step.state role with same | entered
      · rw [same]
      · exact Call.enters_stage entered
  exact rises.2

theorem conn_stages_rise_drainedServer :
    1 ≤ (openServer.play [(.quiet, .frame (.connectionClose 0 []))]).state.stage :=
  conn_stages_rise openServer_runs (openServer.played [(.quiet, .frame (.connectionClose 0 []))] (by decide))

end Ngtcp2
