import Ngtcp2.Invariant.Signals

/-!
# Limits that the peer is told of

The check for obsolete MAX_STREAM_ID frames goes by the kind of the id, so that a limit that is an id of the
other kind is compared with the wrong one.
-/

namespace Ngtcp2

open List

def Settings.maxStreamId (settings : Settings) (bidi : Bool) : Nat :=
  if bidi then settings.maxStreamIdBidi.toNat else settings.maxStreamIdUni.toNat

structure View.IdGranted (v : View) (bidi : Bool) : Prop where
  unsent : bidiStream (v.unsentMaxRemoteStreamId bidi) = bidi
  kind : bidiStream (v.maxRemoteStreamId bidi) = bidi
  signalled : v.maxRemoteStreamId bidi = v.localSettings.maxStreamId bidi ∨
    v.Signalled (.maxStreamId (v.maxRemoteStreamId bidi))

structure View.Granted (v : View) : Prop where
  data : v.maxRxOffset = v.localSettings.maxData.toNat ∨ v.Signalled (.maxData v.maxRxOffset)
  strms : v.Each fun id strm => strm.maxRxOffset = v.localSettings.maxStreamData.toNat ∨
    v.Signalled (.maxStreamData { streamId := id, maxStreamData := strm.maxRxOffset })
  ids : ∀ bidi, bidiStream (v.localSettings.maxStreamId bidi) = bidi → v.IdGranted bidi

section

variable {sc : Scope} {v w : View}

theorem Move.localSettings (move : Move sc v w) : w.localSettings = v.localSettings := by
  cases move
  case ackFrame ent fr rest held chain acked silent =>
    rcases v.ackFrame_cases fr with ⟨_, _, _, _, same⟩ | ⟨_, same⟩ <;> rw [same]
    rfl
  all_goals rfl

theorem Move.maxRxOffset (move : Move sc v w) :
    w.maxRxOffset = v.maxRxOffset ∨ .maxData w.maxRxOffset ∈ w.frq := by
  cases move
  case advertise queued => exact .inr queued
  case ackFrame ent fr rest held chain acked silent =>
    rcases v.ackFrame_cases fr with ⟨_, _, _, _, same⟩ | ⟨_, same⟩ <;> rw [same] <;> exact .inl rfl
  all_goals exact .inl rfl

theorem IdExtended.kind {old new : Nat} (extended : IdExtended old new) : bidiStream new = bidiStream old := by
  rcases extended with rfl | ⟨rfl, -⟩
  · rfl
  · unfold bidiStream
    congr 1
    omega

theorem Move.unsentMaxRemoteStreamId (move : Move sc v w) (bidi : Bool) :
    bidiStream (w.unsentMaxRemoteStreamId bidi) = bidiStream (v.unsentMaxRemoteStreamId bidi) := by
  cases move
  case extendId bidiLimit uniLimit bidiOk uniOk noted =>
    cases bidi
    · exact uniOk.kind
    · exact bidiOk.kind
  case ackFrame ent fr rest held chain acked silent =>
    rcases v.ackFrame_cases fr with ⟨_, _, _, _, same⟩ | ⟨_, same⟩ <;> rw [same] <;> rfl
  all_goals
    unfold View.unsentMaxRemoteStreamId
    rfl

theorem Move.maxRemoteStreamId (move : Move sc v w) (bidi : Bool) :
    w.maxRemoteStreamId bidi = v.maxRemoteStreamId bidi ∨
      w.maxRemoteStreamId bidi = v.unsentMaxRemoteStreamId bidi ∧
        .maxStreamId (w.maxRemoteStreamId bidi) ∈ w.frq := by
  cases move
  case advertiseId kind n limit =>
    subst limit
    by_cases same : kind = bidi
    · subst same
      right
      cases kind <;> exact ⟨rfl, mem_append_right _ (mem_singleton_self _)⟩
    · left
      cases kind <;> cases bidi <;> first | rfl | exact absurd rfl same
  case ackFrame ent fr rest held chain acked silent =>
    rcases v.ackFrame_cases fr with ⟨_, _, _, _, same⟩ | ⟨_, same⟩ <;> rw [same] <;> exact .inl rfl
  all_goals
    left
    unfold View.maxRemoteStreamId
    rfl

theorem Move.granted {act : Act} {state : ConnState} (move : Move (act.scope state) v w)
    (flight : v.Flight state) (timely : act.result ≠ .error .PKT_TIMEOUT) (granted : v.Granted) :
    w.Granted := by
  have stays {fr : Frame} (control : fr.control = true) (needed : ¬ v.Obsolete fr) (kept : ¬ v.Dropped fr)
      (signalled : v.Signalled fr) : w.Signalled fr := by
    have plain : fr.handshake = false := by
      simp only [Frame.control, Bool.and_eq_true, Bool.not_eq_true'] at control
      exact control.1
    rcases move.signalled flight.linked plain timely (flight.young control) signalled with
      signalled | obsolete | ⟨-, dropped⟩
    · exact signalled
    · exact absurd obsolete needed
    · exact absurd dropped kept
  have settings := move.localSettings
  refine ⟨?_, fun id strm found => ?_, fun bidi own => ?_⟩
  · rw [settings]
    rcases move.maxRxOffset with same | queued
    · rw [same]
      refine granted.data.imp_right (stays rfl (fun obsolete => ?_) fun dropped => dropped)
      exact absurd obsolete (Nat.lt_irrefl _)
    · exact .inr (.inl queued)
  · rw [settings]
    have was (old : Strm) (held : v.strms id = some old) (same : strm.maxRxOffset = old.maxRxOffset) :
        strm.maxRxOffset = v.localSettings.maxStreamData.toNat ∨
          w.Signalled (.maxStreamData { streamId := id, maxStreamData := strm.maxRxOffset }) := by
      rw [same]
      refine (granted.strms id old held).imp_right (stays rfl (fun obsolete => ?_) fun dropped => dropped)
      exact absurd (obsolete old held) (Nat.lt_irrefl _)
    rcases (move.held flight.linked).strm found with step | ⟨old, held, -, same⟩
    · cases step with
      | kept old held alike => exact was old held alike.maxRxOffset
      | handshake old zero held alike => exact was old held alike.maxRxOffset
      | restarted shutRd shutWr maxTx zero init => exact .inl (init ▸ rfl)
      | fresh shutRd shutWr maxTx inserted init => exact .inl (init ▸ rfl)
      | reset old rst held named queued alike => exact was old held alike.maxRxOffset
      | advertised old held queued alike => exact .inr (.inl queued)
    · exact was old held same
  · rw [settings] at own
    have before := granted.ids bidi own
    have unsent := (move.unsentMaxRemoteStreamId bidi).trans before.unsent
    rcases move.maxRemoteStreamId bidi with same | ⟨raised, queued⟩
    · refine ⟨unsent, same ▸ before.kind, ?_⟩
      rw [same, settings]
      refine before.signalled.imp_right (stays rfl (fun obsolete => ?_) fun dropped => dropped)
      change _ < v.maxRemoteStreamId (bidiStream (v.maxRemoteStreamId bidi)) at obsolete
      rw [before.kind] at obsolete
      exact absurd obsolete (Nat.lt_irrefl _)
    · exact ⟨unsent, raised ▸ before.unsent, .inr (.inl queued)⟩

end

theorem Runs.granted {acts : List Act} {c : Conn} (run : Runs acts c)
    (timely : ∀ act ∈ acts, act.result ≠ .error .PKT_TIMEOUT) : c.view.Granted := by
  induction run with
  | start first =>
    refine ⟨?_, ?_, fun bidi own => ?_⟩
    · cases first <;> exact .inl rfl
    · intro id strm found
      left
      by_cases zero : id = 0
      · subst zero
        cases first <;> cases found <;> rfl
      · cases first <;> simp [Conn.view, ngtcp2ConnClientNew, ngtcp2ConnServerNew, connNew, zero] at found
    · cases first <;> cases bidi <;> exact ⟨own, own, .inl rfl⟩
  | @next acts s t act before step ih =>
    have inTime := timely act (mem_append_right _ (mem_singleton_self act))
    have reached : t.view.Flight s.state ∧ t.view.Granted := by
      refine (step.reaches_scope (Runs.role before)).invariant (C := fun _ => True)
        (P := fun v => v.Flight s.state ∧ v.Granted) (fun _ _ => trivial)
        (fun v w move _ holds => ?_) trivial
        ⟨Runs.flight before, ih fun act member => timely act (mem_append_left _ member)⟩
      exact ⟨move.flight holds.1, move.granted holds.1 inTime holds.2⟩
    exact reached.2

/-- The frame that grants a limit above the initial one is on its way or has arrived. -/
theorem granted_limits_signalled {acts : List Act} {c : Conn} (run : Runs acts c)
    (timely : ∀ act ∈ acts, act.result ≠ .error .PKT_TIMEOUT) :
    (c.localSettings.maxData.toNat < c.maxRxOffset → .maxData c.maxRxOffset ∈ c.signalled) ∧
    (∀ id strm, c.strms id = some strm → c.localSettings.maxStreamData.toNat < strm.maxRxOffset →
      .maxStreamData { streamId := id, maxStreamData := strm.maxRxOffset } ∈ c.signalled) ∧
    (bidiStream c.localSettings.maxStreamIdBidi.toNat = true →
      c.localSettings.maxStreamIdBidi.toNat < c.maxRemoteStreamIdBidi →
      .maxStreamId c.maxRemoteStreamIdBidi ∈ c.signalled) ∧
    (bidiStream c.localSettings.maxStreamIdUni.toNat = false →
      c.localSettings.maxStreamIdUni.toNat < c.maxRemoteStreamIdUni →
      .maxStreamId c.maxRemoteStreamIdUni ∈ c.signalled) := by
  have granted := Runs.granted run timely
  have flight := Runs.flight run
  have told {fr : Frame} {limit initial : Nat} (control : fr.control = true)
      (signalled : limit = initial ∨ c.view.Signalled fr) (raised : initial < limit) : fr ∈ c.signalled :=
    Conn.mem_signalled flight control (signalled.resolve_left (Nat.ne_of_gt raised))
  refine ⟨told rfl granted.data, fun id strm found => ?_, fun own => ?_, fun own => ?_⟩
  · exact told rfl (granted.strms.conn found)
  · exact told rfl (granted.ids true own).signalled
  · exact told rfl (granted.ids false own).signalled

def endedCalls : List (App × Call) :=
  [(.quiet, .frame (.stream { fin := true, streamId := 2, offset := 0, data := [0] })),
   (.quiet, .writePkt 1200 0)]

theorem granted_limits_signalled_endedCalls :
    (openServer.play endedCalls).maxRemoteStreamIdUni = 46 ∧
      .maxStreamId 46 ∈ (openServer.play endedCalls).signalled :=
  ⟨by decide, (granted_limits_signalled (Runs.play openServer_runs endedCalls (by decide))
    (by decide)).2.2.2 (by decide) (by decide)⟩

def Settings.mixed : Settings := { Settings.plain with maxStreamIdBidi := 100, maxStreamIdUni := 40 }

def mixedCalls : List (App × Call) :=
  serverCalls ++ endedCalls ++ [(.quiet, .writePkt 1200 1000000), (.quiet, .writePkt 1200 1000000)]

theorem granted_limit_unsignalled :
    ∃ acts c, Runs acts c ∧ (∀ act ∈ acts, act.result ≠ .error .PKT_TIMEOUT) ∧
      c.localSettings.maxStreamIdUni.toNat < c.maxRemoteStreamIdUni ∧
      .maxStreamId c.maxRemoteStreamIdUni ∉ c.signalled :=
  ⟨_, _, Runs.play (.start (.server 1 1 .mixed true)) mixedCalls (by decide), by decide, by decide, by decide⟩

end Ngtcp2
