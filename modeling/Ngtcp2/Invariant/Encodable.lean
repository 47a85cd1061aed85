import Ngtcp2.Invariant.Entries
import Ngtcp2.Invariant.RxFlow

/-!
# Limits that can be encoded

The limits of the connection and on stream ids are guarded, the windows of streams are not.
-/

namespace Ngtcp2

open List

def Mark.CreditFits : Mark → Prop
  | .creditFits fits => fits = true
  | _ => True

instance : DecidablePred Mark.CreditFits := fun m => by
  apply m.casesOn (motive := fun m => Decidable m.CreditFits) <;> intros <;> unfold Mark.CreditFits <;> infer_instance

def Frame.LimitOk : Frame → Prop
  | .maxData n => n ≤ maxVarint
  | .maxStreamData fr => fr.streamId ≤ maxVarint ∧ fr.maxStreamData ≤ maxVarint
  | .maxStreamId n => n ≤ maxVarint
  | _ => True

structure Strm.WindowOk (strm : Strm) : Prop where
  unsent : strm.unsentMaxRxOffset ≤ maxVarint
  chunk : strm.rob.chunk ≤ maxVarint

structure View.Encodable (v : View) : Prop where
  data : v.unsentMaxRxOffset ≤ maxVarint
  ids : ∀ bidi, v.unsentMaxRemoteStreamId bidi ≤ maxVarint
  strms : v.Each fun _ => Strm.WindowOk

section

variable {sc : Scope} {v w : View}

theorem View.Encodable.same (ok : v.Encodable) (data : w.unsentMaxRxOffset = v.unsentMaxRxOffset)
    (ids : ∀ bidi, w.unsentMaxRemoteStreamId bidi = v.unsentMaxRemoteStreamId bidi)
    (strms : w.Each fun _ => Strm.WindowOk) : w.Encodable where
  data := data ▸ ok.data
  ids bidi := ids bidi ▸ ok.ids bidi
  strms := strms

theorem ngtcp2StrmInit_windowOk (id : Nat) (shutRd shutWr : Bool) (maxRx : UInt32) (maxTx : Nat) :
    (ngtcp2StrmInit id shutRd shutWr maxRx.toNat maxTx).WindowOk where
  unsent := Nat.le_trans (Nat.le_of_lt maxRx.toNat_lt) (by decide)
  chunk := by simp only [ngtcp2StrmInit, ngtcp2RobInit]; decide

theorem Strm.WindowOk.step {wrap : Prop} {id : Nat} {strm strm' : Strm} (ok : strm.WindowOk)
    (exact_ : ¬ wrap) (step : v.RxStep wrap id strm strm') :
    strm'.WindowOk := by
  cases step with
  | rob rob filled => exact ⟨ok.unsent, filled.chunk ▸ ok.chunk⟩
  | extend n grows noted =>
    rcases grows ok.chunk with same | ⟨-, small⟩ | wraps
    · exact same ▸ ok
    · exact ⟨small, ok.chunk⟩
    · exact absurd wraps exact_

theorem IdExtended.small {old new : Nat} (extended : IdExtended old new) (ok : old ≤ maxVarint) :
    new ≤ maxVarint := by
  rcases extended with rfl | ⟨-, small⟩
  · exact ok
  · exact small

theorem Move.encodable (move : Move sc v w) (exact_ : ¬ sc.wrap) (fits : Marked Mark.CreditFits w.log)
    (ok : v.Encodable) : w.Encodable := by
  have earlier := Marked.earlier move.log_extends fits
  have strms := ok.strms
  have kept {id : Nat} {old : Strm} (found : v.strms id = some old) : old.WindowOk := strms id old found
  cases move
  case maxStreamData id n strm found bound =>
    exact ok.same rfl (fun _ => rfl) (strms.set ⟨(kept found).unsent, (kept found).chunk⟩)
  case strm0Limit limit strm found bound =>
    exact ok.same rfl (fun _ => rfl) (View.Each.set strms ⟨(kept found).unsent, (kept found).chunk⟩)
  case handshakeBytes n strm found bound =>
    exact ok.same rfl (fun _ => rfl) (View.Each.set strms ⟨(kept found).unsent, (kept found).chunk⟩)
  case newRemote id idtr strm bound remote opened absent maxTx init =>
    exact ok.same rfl (fun _ => rfl) (View.Each.set strms (init ▸ ngtcp2StrmInit_windowOk ..))
  case newBidi strm allowed absent maxTx init =>
    exact ok.same rfl (fun _ => rfl) (View.Each.set strms (init ▸ ngtcp2StrmInit_windowOk ..))
  case newUni strm allowed absent maxTx init =>
    exact ok.same rfl (fun _ => rfl) (View.Each.set strms (init ▸ ngtcp2StrmInit_windowOk ..))
  case close id code strm found closable => exact ok.same rfl (fun _ => rfl) (View.Each.unset strms)
  case reset id strm fr found named queued =>
    exact ok.same rfl (fun _ => rfl) (strms.set ⟨(kept found).unsent, (kept found).chunk⟩)
  case stop id strm allowed found unlisted plain =>
    exact ok.same rfl (fun _ => rfl) (strms.set ⟨(kept found).unsent, (kept found).chunk⟩)
  case rx id strm strm' allowed found step =>
    exact ok.same rfl (fun _ => rfl) (strms.set ((kept found).step exact_ step))
  case credit n strm allowed found credits =>
    have small : strm.unsentMaxRxOffset + n ≤ maxVarint := of_decide_eq_true (earlier _ credits.noted)
    exact ok.same rfl (fun _ => rfl) (View.Each.set strms ⟨Nat.le_trans (add64_le _ _) small, (kept found).chunk⟩)
  case claim id offset n strm strm' allowed found same zero claims =>
    refine ok.same rfl (fun _ => rfl) (View.Each.set strms ⟨?_, ?_⟩)
    · exact claims.unsent ▸ (kept found).unsent
    · exact claims.rob ▸ (kept found).chunk
  case refuse id n last strm allowed found reach =>
    exact ok.same rfl (fun _ => rfl) (View.Each.set strms ⟨(kept found).unsent, (kept found).chunk⟩)
  case fcLink id strm found unlisted receives =>
    exact ok.same rfl (fun _ => rfl) (View.Each.set strms ⟨(kept found).unsent, (kept found).chunk⟩)
  case fcUnlink id strm found listed =>
    exact ok.same rfl (fun _ => rfl) (View.Each.set strms ⟨(kept found).unsent, (kept found).chunk⟩)
  case advertiseStrm rest id strm first listed found queued =>
    exact ok.same rfl (fun _ => rfl) (View.Each.set strms ⟨(kept found).unsent, (kept found).chunk⟩)
  case extendId bidi uni bidiOk uniOk noted =>
    refine ⟨ok.data, fun kind => ?_, strms⟩
    cases kind with
    | true => exact bidiOk.small (ok.ids true)
    | false => exact uniOk.small (ok.ids false)
  case extend n grows => exact ⟨(grows ok.data).2, ok.ids, strms⟩
  case sendStream ckm fr strm ent queue nalloc allowed ready keyed entry short carries pushed found
      offset small strmFits connFits filled =>
    exact ok.same rfl (fun _ => rfl) (View.Each.set strms ⟨(kept found).unsent, (kept found).chunk⟩)
  case sendEarly ckm fr strm ent nalloc allowed ready entry short carries found offset small strmFits
      connFits filled =>
    exact ok.same rfl (fun _ => rfl) (View.Each.set strms ⟨(kept found).unsent, (kept found).chunk⟩)
  case ackFrame ent fr rest held chain acked silent =>
    rcases v.ackFrame_cases fr with ⟨sent, strm, _, found, same⟩ | ⟨_, same⟩ <;> rw [same]
    · exact ok.same rfl (fun _ => rfl) (View.Each.set strms ⟨(kept found).unsent, (kept found).chunk⟩)
    · exact ok.same rfl (fun _ => rfl) strms
  case ackReport ent fr rest strm held chain acked found told =>
    exact ok.same rfl (fun _ => rfl) (View.Each.set strms ⟨(kept found).unsent, (kept found).chunk⟩)
  case initial n allowed bound =>
    refine ok.same ?_ (fun bidi => ?_) (strms.same ?_)
    all_goals simp only [View.emit, View.unsentMaxRemoteStreamId]
  case retry allowed enters stays empty noted =>
    exact ok.same rfl (fun _ => rfl) (View.Each.set strms (ngtcp2StrmInit_windowOk ..))
  all_goals exact ok.same rfl (fun _ => rfl) strms

theorem Move.frq_from (move : Move sc v w) {fr : Frame} (member : fr ∈ w.frq) :
    fr ∈ v.frq ∨ v.Queues fr ∨ ∃ bidi, fr = .maxStreamId (v.unsentMaxRemoteStreamId bidi) := by
  cases move
  case push fr' due =>
    rcases mem_cons.mp member with rfl | member
    · exact .inr (.inl due)
    · exact .inl member
  case sift frq kept dropped => exact .inl (kept.subset member)
  case advertiseId bidi n limit =>
    rcases mem_append.mp member with member | member
    · exact .inl member
    · exact .inr (.inr ⟨bidi, limit ▸ mem_singleton.mp member⟩)
  case sendQueued ckm frames ack ent queue nalloc frq allowed post ready carried entry short taken
      pushed =>
    exact .inl (taken ▸ mem_append_right _ member)
  case ackFrame ent fr' rest held chain acked silent =>
    rcases v.ackFrame_cases fr' with ⟨_, _, _, _, same⟩ | ⟨_, same⟩ <;> rw [same] at member <;>
      exact .inl member
  all_goals exact .inl member

theorem View.HeldStep.from_ (step : View.HeldStep sc v w) {fr : Frame} (member : fr ∈ w.held) :
    fr ∈ v.held ∨ fr ∈ v.frq ∨ fr.handshake = true ∨ ∃ sent, fr = .stream sent := by
  cases step with
  | same perm => exact .inl (perm.subset member)
  | handshake new perm all =>
    rcases mem_append.mp (perm.subset member) with member | member
    · exact .inr (.inr (.inl (all fr member).1))
    · exact .inl member
  | queued new perm post taken =>
    rcases mem_append.mp (perm.subset member) with member | member
    · exact .inr (.inl (taken ▸ mem_append_left _ member))
    · exact .inl member
  | stream sent old new perm =>
    rcases mem_cons.mp (perm.subset member) with rfl | member
    · exact .inr (.inr (.inr ⟨sent, rfl⟩))
    · exact .inl member
  | acked sent perm => exact .inl (perm.symm.subset (mem_cons_of_mem _ member))
  | obsolete gone perm => exact .inl (perm.symm.subset (mem_append_right _ member))
  | dropped gone perm => exact .inl (perm.symm.subset (mem_append_right _ member))
  | retry perm => exact .inl (perm.symm.subset (mem_append_right _ member))

def View.FramesOk (v : View) : Prop := (∀ fr ∈ v.frq, fr.LimitOk) ∧ ∀ fr ∈ v.held, fr.LimitOk

theorem View.Queues.limitOk {fr : Frame} (due : v.Queues fr) (ids : v.Ids) (ok : v.Encodable) :
    fr.LimitOk := by
  cases fr with
  | maxData n =>
    obtain rfl : n = v.unsentMaxRxOffset := due
    exact ok.data
  | maxStreamData fr =>
    obtain ⟨strm, found, limit⟩ := due
    have key : v.key fr.streamId = some (strm.streamId, fr.streamId == 0 && strm.shutRd) := by
      simp [View.key, found]
    have bound := (ids.key _ _ _ key).2.2.1
    exact ⟨Nat.le_pred_of_lt bound, limit ▸ (ok.strms _ _ found).unsent⟩
  | maxStreamId n => exact due.elim
  | _ => exact trivial

theorem Move.framesOk (move : Move sc v w) (linked : v.Linked) (ids : v.Ids) (ok : v.Encodable)
    (frames : v.FramesOk) : w.FramesOk := by
  refine ⟨fun fr member => ?_, fun fr member => ?_⟩
  · rcases move.frq_from member with old | due | ⟨bidi, rfl⟩
    · exact frames.1 fr old
    · exact due.limitOk ids ok
    · exact ok.ids bidi
  · rcases (move.held linked).from_ member with old | queued | handshake | ⟨sent, rfl⟩
    · exact frames.2 fr old
    · exact frames.1 fr queued
    · cases fr <;> first | exact trivial | cases handshake
    · exact trivial

end

theorem Started.encodable {c : Conn} (first : Started c) : c.view.Encodable := by
  have small (n : UInt32) : n.toNat ≤ maxVarint := Nat.le_trans (Nat.le_of_lt n.toNat_lt) (by decide)
  have zero (maxRx : UInt32) (maxTx : Nat) : (ngtcp2StrmInit 0 false false maxRx.toNat maxTx).view.WindowOk :=
    ⟨(ngtcp2StrmInit_windowOk 0 false false maxRx maxTx).unsent,
      (ngtcp2StrmInit_windowOk 0 false false maxRx maxTx).chunk⟩
  refine ⟨?_, fun bidi => ?_, first.each fun maxRx => zero maxRx _⟩
  · cases first <;> exact small _
  · cases first <;> cases bidi <;> exact small _

theorem Runs.encodable {acts : List Act} {c : Conn} (run : Runs acts c)
    (exact_ : ∀ act ∈ acts, ¬ act.call.wraps) (fits : Marked Mark.CreditFits c.view.log) :
    c.view.Linked ∧ c.view.Ids ∧ c.view.Encodable ∧ c.view.FramesOk := by
  induction run with
  | start first =>
    refine ⟨first.linked, first.ids, first.encodable, ?_⟩
    cases first <;> exact ⟨nofun, nofun⟩
  | @next acts s t act before step ih =>
    have reaches := step.reaches_scope (Runs.role before)
    have earlier := ih (fun act member => exact_ act (mem_append_left _ member))
      (Marked.earlier reaches.log_extends fits)
    have now := exact_ act (mem_append_right _ (mem_singleton_self act))
    exact reaches.invariant (C := Marked Mark.CreditFits) Marked.earlier
      (P := fun v => v.Linked ∧ v.Ids ∧ v.Encodable ∧ v.FramesOk)
      (fun _ _ move fits ⟨linked, ids, ok, frames⟩ =>
        ⟨move.linked linked, move.ids ids, move.encodable now fits ok, move.framesOk linked ids ok frames⟩)
      fits earlier

theorem putVarintLens_small {ns : List Nat} (small : ∀ n ∈ ns, n ≤ maxVarint) :
    ∃ len, putVarintLens ns = .ok len := by
  induction ns with
  | nil => exact ⟨0, rfl⟩
  | cons n rest ih =>
    obtain ⟨b, rest_ok⟩ := ih fun m member => small m (mem_cons_of_mem _ member)
    have bound := small n mem_cons_self
    obtain ⟨a, first_ok⟩ : ∃ a, ngtcp2PutVarintLen n = .ok a := by
      unfold maxVarint at bound
      unfold ngtcp2PutVarintLen varintBound
      split_ifs <;> first | exact ⟨_, rfl⟩ | omega
    exact ⟨a + b, by simp [putVarintLens, first_ok, rest_ok]⟩

def Frame.raises : Frame → Bool
  | .maxData _ | .maxStreamData _ | .maxStreamId _ => true
  | _ => false

theorem Frame.LimitOk.encodes {fr : Frame} (ok : fr.LimitOk) (raises : fr.raises = true) :
    ∃ len, ngtcp2PktEncodeFrameLen fr = .ok len := by
  have lens (ns : List Nat) (small : ∀ n ∈ ns, n ≤ maxVarint) : ∃ len, encodedLen 1 ns = .ok len := by
    obtain ⟨len, lens⟩ := putVarintLens_small small
    exact ⟨1 + len, by simp [encodedLen, lens]⟩
  cases fr with
  | maxData n => exact lens [n] (by simpa [Frame.LimitOk] using ok)
  | maxStreamData fr => exact lens [fr.streamId, fr.maxStreamData] (by simpa [Frame.LimitOk] using ok)
  | maxStreamId n => exact lens [n] (by simpa [Frame.LimitOk] using ok)
  | _ => cases raises

/-- Every limit, and every frame that tells the peer of one, can be encoded, unless a window of a stream is
extended too far. -/
theorem limits_encodable {acts : List Act} {c : Conn} (run : Runs acts c)
    (exact_ : ∀ act ∈ acts, ¬ act.call.wraps) (fits : Marked Mark.CreditFits c.log) :
    (∀ id strm, c.strms id = some strm → strm.unsentMaxRxOffset ≤ maxVarint) ∧
    c.unsentMaxRxOffset ≤ maxVarint ∧
    c.unsentMaxRemoteStreamIdBidi ≤ maxVarint ∧ c.unsentMaxRemoteStreamIdUni ≤ maxVarint ∧
    ∀ fr, fr ∈ c.frq ∨ fr ∈ c.rtb.head.flatMap RtbEntry.frc → fr.raises = true →
      ∃ len, ngtcp2PktEncodeFrameLen fr = .ok len := by
  obtain ⟨-, -, ok, queued, held⟩ :=
    run.encodable exact_ fun m member => fits m ((Conn.mem_log rfl).mp member)
  refine ⟨fun id strm found => (ok.strms.conn found).unsent, ok.data, ok.ids true, ok.ids false, ?_⟩
  rintro fr (member | member) raises
  · exact (queued fr member).encodes raises
  · refine (held fr ?_).encodes raises
    have sent : fr ∈ c.view.head.flatMap RtbEntry.frc := member
    simp [View.held, View.entries, sent]

-- the window of stream 4 and that of the connection are extended, and the peer is told
def raisedCalls : List (App × Call) :=
  [(.quiet, .frame (.stream { fin := false, streamId := 4, offset := 0, data := [1] })),
   (.quiet, .extendMaxStreamOffset 4 4611686018427380000), (.quiet, .extendMaxOffset 18446744073709551615),
   (.quiet, .writePkt 1200 0)]

theorem limits_encodable_raisedCalls :
    let c := openServer.play raisedCalls
    c.unsentMaxRxOffset = maxVarint ∧
      .maxStreamData { streamId := 4, maxStreamData := 4611686018427381000 } ∈
        c.rtb.head.flatMap RtbEntry.frc ∧
      ∀ id strm, c.strms id = some strm → strm.unsentMaxRxOffset ≤ maxVarint :=
  have runs := Runs.play openServer_runs raisedCalls (by decide)
  have ok := limits_encodable runs (by decide) (by decide)
  ⟨by decide, by decide, ok.1⟩

def beyondCalls : List (App × Call) :=
  [(.quiet, .openBidiStream), (.quiet, .extendMaxStreamOffset 1 4611686018427387904)]

/-- The window is beyond what can be encoded, and the next packet fails the assertion. -/
theorem limits_beyond :
    ∃ acts c strm, Runs acts c ∧ c.strms 1 = some strm ∧ maxVarint < strm.unsentMaxRxOffset ∧
      ((Call.writePkt 1200 0).exec .quiet c).1 = .error .ABORT :=
  ⟨_, _, _, Runs.play openServer_runs beyondCalls (by decide), rfl, by decide, by decide⟩

end Ngtcp2
