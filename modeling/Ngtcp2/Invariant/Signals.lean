import Ngtcp2.Invariant.Entries
import Ngtcp2.Invariant.StreamIds

/-!
# Frames that reach the peer

A control frame that is not acknowledged leaves the queue and the entries in three ways only: it is obsolete
when its entry is due again, it is filtered out, or the connection is started over.
-/

namespace Ngtcp2

open List

def ConnState.settled (state : ConnState) : Bool := state == .POST_HANDSHAKE || state.closed

theorem Call.enters_settled {call : Call} {state next : ConnState} (settled : state.settled = true)
    (entered : call.enters state next) : next.settled = true := by
  cases call with
  | recv pkt ts =>
    have all : ∀ next ∈ recvEnters state, state.settled = true → next.settled = true := by
      cases state <;> decide
    exact all next entered settled
  | frame fr =>
    have drains : next = .DRAINING := by
      cases fr <;> first | exact entered | exact entered.elim
    exact drains ▸ rfl
  | writePkt destlen ts =>
    have all : ∀ next ∈ writePktEnters state, state.settled = true → next.settled = true := by
      cases state <;> decide
    exact all next entered settled
  | writeConnectionClose destlen errorCode => exact entered.2 ▸ rfl
  | writeApplicationClose destlen appErrorCode => exact entered.2 ▸ rfl
  | _ => exact entered.elim

theorem Call.posts_settled {call : Call} {state : ConnState} (posts : call.posts state) :
    state.settled = true := by
  cases call <;> first | exact posts.elim | exact posts ▸ rfl

def Frame.control (fr : Frame) : Bool := !fr.handshake && fr.stream?.isNone

namespace View

def Signalled (v : View) (fr : Frame) : Prop := fr ∈ v.frq ∨ fr ∈ v.held ∨ v.Acked fr

theorem mem_held {v : View} {fr : Frame} : fr ∈ v.held ↔ ∃ ent ∈ v.entries, fr ∈ ent.frc := mem_flatMap

theorem Acked.later {v w : View} {fr : Frame} (acked : v.Acked fr) (later : v.log <+: w.log) :
    w.Acked fr := by
  obtain ⟨n, frames, member, carried⟩ := acked
  exact ⟨n, frames, later.subset member, carried⟩

end View

section Moves

variable {sc : Scope} {v w : View} {fr : Frame}

theorem Move.queued (move : Move sc v w) (member : fr ∈ v.frq) :
    fr ∈ w.frq ∨ fr ∈ w.held ∨ v.Dropped fr := by
  cases move
  case push fr' due => exact .inl (mem_cons_of_mem _ member)
  case sift frq kept dropped =>
    by_cases stays : fr ∈ frq
    · exact .inl stays
    · refine .inr (.inr (dropped fr ?_))
      rw [count_eq_zero.mpr stays]
      exact count_pos_iff.mpr member
  case advertiseId bidi n limit => exact .inl (mem_append_left _ member)
  case sendQueued ckm frames ack ent queue nalloc frq allowed post ready carried entry short taken
      pushed =>
    rw [taken] at member
    rcases mem_append.mp member with member | member
    · exact .inr (.inl (View.mem_held.mpr ⟨ent, by simp [View.entries, View.add], member⟩))
    · exact .inl member
  case ackFrame ent fr' rest held chain acked silent =>
    rcases v.ackFrame_cases fr' with ⟨_, _, _, _, same⟩ | ⟨_, same⟩ <;> rw [same] <;> exact .inl member
  all_goals exact .inl member

theorem Move.in_flight (move : Move sc v w) (linked : v.Linked) (control : fr.handshake = false)
    (stays : ¬ sc.lose) (young : ¬ sc.become .CLIENT_INITIAL) (member : fr ∈ v.held) :
    fr ∈ w.held ∨ w.Acked fr ∨ v.Obsolete fr := by
  cases move.held linked with
  | same perm _ => exact .inl (perm.symm.subset member)
  | handshake new perm _ _ => exact .inl (perm.symm.subset (mem_append_right new member))
  | queued new perm _ _ _ => exact .inl (perm.symm.subset (mem_append_right new member))
  | stream fr' _ _ perm => exact .inl (perm.symm.subset (mem_cons_of_mem _ member))
  | acked fr' perm acked =>
    rcases mem_cons.mp (perm.subset member) with rfl | member
    · exact .inr (.inl acked)
    · exact .inl member
  | obsolete gone perm all =>
    rcases mem_append.mp (perm.subset member) with member | member
    · exact .inr (.inr (all fr member))
    · exact .inl member
  | dropped gone perm settled =>
    rcases mem_append.mp (perm.subset member) with member | member
    · rcases settled with handshake | ⟨-, acked⟩ | lost
      · simp [handshake fr member] at control
      · exact .inr (.inl ((acked fr member).later move.log_extends))
      · exact absurd lost stays
    · exact .inl member
  | retry perm enters => exact absurd enters young

theorem Move.signalled (move : Move sc v w) (linked : v.Linked) (control : fr.handshake = false)
    (stays : ¬ sc.lose) (young : fr ∈ v.held → ¬ sc.become .CLIENT_INITIAL) (signalled : v.Signalled fr) :
    w.Signalled fr ∨ v.Obsolete fr ∨ (fr ∈ v.frq ∧ v.Dropped fr) := by
  rcases signalled with member | member | acked
  · rcases move.queued member with member | member | dropped
    · exact .inl (.inl member)
    · exact .inl (.inr (.inl member))
    · exact .inr (.inr ⟨member, dropped⟩)
  · rcases move.in_flight linked control stays (young member) member with member | acked | obsolete
    · exact .inl (.inr (.inl member))
    · exact .inl (.inr (.inr acked))
    · exact .inr (.inl obsolete)
  · exact .inl (.inr (.inr (acked.later move.log_extends)))

structure View.Flight (state : ConnState) (v : View) : Prop where
  linked : v.Linked
  ids : v.Ids
  control : ∀ fr ∈ v.held, fr.control = true → state.settled = true
  early : ∀ ent ∈ v.earlyRtb, ∀ fr ∈ ent.frc, fr.control = false

theorem Move.early (move : Move sc v w) (early : ∀ ent ∈ v.earlyRtb, ∀ fr ∈ ent.frc, fr.control = false) :
    ∀ ent ∈ w.earlyRtb, ∀ fr ∈ ent.frc, fr.control = false := by
  cases move
  case sendEarly ckm fr strm ent nalloc allowed ready entry short carries found offset bound strmFits
      connFits filled =>
    intro e member
    rcases mem_append.mp member with member | member
    · exact early e member
    · obtain rfl := mem_singleton.mp member
      simp [carries, Frame.control, Frame.stream?]
  case earlyEntry ent ent' rest queue waiting same pushed =>
    exact fun e member => early e (waiting ▸ mem_cons_of_mem _ member)
  case ackFrame ent fr' rest held chain acked silent =>
    rcases v.ackFrame_cases fr' with ⟨_, _, _, _, same⟩ | ⟨_, same⟩ <;> rw [same] <;> exact early
  all_goals exact early

theorem Move.flight {act : Act} {state : ConnState} (move : Move (act.scope state) v w)
    (flight : v.Flight state) : w.Flight state := by
  refine ⟨move.linked flight.linked, move.ids flight.ids, fun fr member control => ?_,
    move.early flight.early⟩
  have old (member : fr ∈ v.held) : state.settled = true := flight.control fr member control
  cases move.held flight.linked with
  | same perm => exact old (perm.subset member)
  | handshake new perm all =>
    rcases mem_append.mp (perm.subset member) with member | member
    · simp [Frame.control, (all fr member).1] at control
    · exact old member
  | queued new perm post _ => exact Call.posts_settled post
  | stream sent _ _ perm =>
    rcases mem_cons.mp (perm.subset member) with rfl | member
    · simp [Frame.control, Frame.stream?] at control
    · exact old member
  | acked gone perm _ => exact old (perm.symm.subset (mem_cons_of_mem _ member))
  | obsolete gone perm _ => exact old (perm.symm.subset (mem_append_right gone member))
  | dropped gone perm _ => exact old (perm.symm.subset (mem_append_right gone member))
  | retry perm _ => exact old (perm.symm.subset (mem_append_right _ member))

theorem View.Flight.young {act : Act} {state : ConnState} (flight : v.Flight state)
    (control : fr.control = true) (member : fr ∈ v.held) : ¬ (act.scope state).become .CLIENT_INITIAL := by
  intro enters
  have settled := Call.enters_settled (flight.control fr member control) enters
  cases settled

end Moves

theorem Step.flight {s t : Conn} {act : Act} (step : Step s act t) (role : s.Role)
    (flight : s.view.Flight s.state) : t.view.Flight t.state := by
  have reached : t.view.Flight s.state :=
    (step.reaches_scope role).invariant (C := fun _ => True) (fun _ _ => trivial)
      (fun _ _ move _ => move.flight) trivial flight
  refine { reached with control := fun fr member control => ?_ }
  have settled := reached.control fr member control
  rcases step.state role with same | entered
  · rwa [same]
  · exact Call.enters_settled settled entered

theorem Runs.flight {acts : List Act} {c : Conn} (run : Runs acts c) : c.view.Flight c.state := by
  induction run with
  | start first =>
    refine ⟨first.linked, first.ids, fun fr member => ?_, fun ent member => ?_⟩ <;>
      cases first <;> cases member
  | next before step ih => exact step.flight (Runs.role before) ih

def Event.ackedFrames : Event → List Frame
  | .mark (.ackedEntry _ frames) => frames
  | _ => []

/-- The frames that are queued, in the retransmission buffer or in a packet that has been
acknowledged. -/
def Conn.signalled (c : Conn) : List Frame :=
  c.frq ++ c.rtb.head.flatMap RtbEntry.frc ++ c.log.flatMap Event.ackedFrames

theorem Conn.mem_signalled {c : Conn} {fr : Frame} (flight : c.view.Flight c.state)
    (control : fr.control = true) (signalled : c.view.Signalled fr) : fr ∈ c.signalled := by
  simp only [Conn.signalled, mem_append, mem_flatMap]
  rcases signalled with member | member | ⟨n, frames, member, carried⟩
  · exact .inl (.inl member)
  · obtain ⟨ent, member, carried⟩ := View.mem_held.mp member
    rcases mem_append.mp member with member | member
    · exact .inl (.inr ⟨ent, by simpa [Conn.view] using member, carried⟩)
    · simp [flight.early ent member fr carried] at control
  · exact .inr ⟨_, (Conn.mem_log rfl).mp member, carried⟩

end Ngtcp2
