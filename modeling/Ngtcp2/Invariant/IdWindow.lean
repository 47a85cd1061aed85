import Ngtcp2.Invariant.Limits

/-!
# The window of stream ids

`++premote_stream_id_window_start` moves the pointer and leaves the counter at 0.
-/

namespace Ngtcp2

open List

def Mark.WindowLevel : Mark → Prop
  | .idWindow behind => behind = false
  | _ => True

instance : DecidablePred Mark.WindowLevel := fun m => by
  apply m.casesOn (motive := fun m => Decidable m.WindowLevel) <;> intros <;> unfold Mark.WindowLevel <;> infer_instance

structure View.WindowUnmoved (v : View) : Prop where
  bidi : v.unsentMaxRemoteStreamIdBidi = v.localSettings.maxStreamIdBidi.toNat
  uni : v.unsentMaxRemoteStreamIdUni = v.localSettings.maxStreamIdUni.toNat
  starts : v.remoteStreamIdBidiWindowStart = 0 ∧ v.remoteStreamIdUniWindowStart = 0

theorem View.WindowUnmoved.same {v w : View} (unmoved : v.WindowUnmoved)
    (settings : w.localSettings = v.localSettings)
    (limits : w.unsentMaxRemoteStreamIdBidi = v.unsentMaxRemoteStreamIdBidi ∧
      w.unsentMaxRemoteStreamIdUni = v.unsentMaxRemoteStreamIdUni)
    (starts : w.remoteStreamIdBidiWindowStart = v.remoteStreamIdBidiWindowStart ∧
      w.remoteStreamIdUniWindowStart = v.remoteStreamIdUniWindowStart) : w.WindowUnmoved where
  bidi := by rw [limits.1, settings, unmoved.bidi]
  uni := by rw [limits.2, settings, unmoved.uni]
  starts := by rw [starts.1, starts.2]; exact unmoved.starts

theorem Move.windowUnmoved {sc : Scope} {v w : View} (move : Move sc v w)
    (level : Marked Mark.WindowLevel w.log) (unmoved : v.WindowUnmoved) : w.WindowUnmoved := by
  have settings := move.localSettings
  have earlier := Marked.earlier move.log_extends level
  cases move
  case extendId bidi uni bidiOk uniOk noted =>
    rcases noted with ⟨rfl, rfl⟩ | behind
    · exact unmoved.same rfl ⟨rfl, rfl⟩ ⟨rfl, rfl⟩
    · exact absurd (earlier _ behind) (by simp [Mark.WindowLevel])
  case ackFrame ent fr rest held chain acked silent =>
    rcases v.ackFrame_cases fr with ⟨_, _, _, _, same⟩ | ⟨_, same⟩ <;> rw [same] at settings ⊢ <;>
      exact unmoved.same settings ⟨rfl, rfl⟩ ⟨rfl, rfl⟩
  case initial n allowed bound =>
    refine unmoved.same settings ⟨?_, ?_⟩ ⟨?_, ?_⟩ <;> simp only [View.emit]
  all_goals exact unmoved.same settings ⟨rfl, rfl⟩ ⟨rfl, rfl⟩

/-- The limits are as many streams ahead of the initial ones as the start has moved, unless a stream of the peer
is closed while the start is behind. -/
theorem id_window_in_step {acts : List Act} {c : Conn} (run : Runs acts c)
    (level : Marked Mark.WindowLevel c.log) :
    c.unsentMaxRemoteStreamIdBidi =
        c.localSettings.maxStreamIdBidi.toNat + 4 * c.remoteStreamIdBidiWindowStart ∧
      c.remoteStreamIdBidiWindowStart ≤ ngtcp2IdtrFirstGap c.remoteBidiIdtr ∧
    c.unsentMaxRemoteStreamIdUni =
        c.localSettings.maxStreamIdUni.toNat + 4 * c.remoteStreamIdUniWindowStart ∧
      c.remoteStreamIdUniWindowStart ≤ ngtcp2IdtrFirstGap c.remoteUniIdtr := by
  have unmoved : c.view.WindowUnmoved := by
    refine run.invariant_marked (fun c first => ?_) (fun _ _ => Move.windowUnmoved) level
    cases first <;> exact ⟨rfl, rfl, rfl, rfl⟩
  have bidi : c.remoteStreamIdBidiWindowStart = 0 := unmoved.starts.1
  have uni : c.remoteStreamIdUniWindowStart = 0 := unmoved.starts.2
  rw [bidi, uni]
  exact ⟨unmoved.bidi, Nat.zero_le _, unmoved.uni, Nat.zero_le _⟩

-- the client opens its stream 6 ahead of stream 2 and ends it
def skippedCalls : List (App × Call) :=
  [(.quiet, .frame (.stream { fin := true, streamId := 6, offset := 0, data := [1] }))]

theorem id_window_in_step_skippedCalls :
    let c := openServer.play skippedCalls
    c.strms 6 = none ∧
      c.unsentMaxRemoteStreamIdUni =
        c.localSettings.maxStreamIdUni.toNat + 4 * c.remoteStreamIdUniWindowStart :=
  have runs := Runs.play openServer_runs skippedCalls (by decide)
  have window := id_window_in_step runs (by decide)
  ⟨by decide, window.2.2.1⟩

-- the client opens its first stream of one direction and ends it, and then the next one
def closedCalls : List (App × Call) :=
  [(.quiet, .frame (.stream { fin := true, streamId := 2, offset := 0, data := [1] })),
   (.quiet, .frame (.stream { fin := true, streamId := 6, offset := 0, data := [1] }))]

theorem id_window_start_stays :
    ∃ acts c, Runs acts c ∧ c.localSettings.maxStreamIdUni = 42 ∧ c.unsentMaxRemoteStreamIdUni = 50 ∧
      c.remoteStreamIdUniWindowStart = 0 :=
  ⟨_, _, Runs.play openServer_runs closedCalls (by decide), by decide, by decide, by decide⟩

end Ngtcp2
