import Mathlib.Data.List.Nodup
import Ngtcp2.Invariant.StreamIds

/-!
# Streams that wait for a MAX_STREAM_DATA frame

A stream is in the list when its window is to be advertised, and leaves it when its receiving side
ends. RST_STREAM and a Retry packet forget to take it out.
-/

namespace Ngtcp2

open List

def Mark.Unlisted : Mark → Prop
  | .rstListed listed => listed = false
  | .retryListed listed => listed = false
  | _ => True

instance : DecidablePred Mark.Unlisted := fun m => by
  apply m.casesOn (motive := fun m => Decidable m.Unlisted) <;> intros <;> unfold Mark.Unlisted <;> infer_instance

def Strm.Receives (strm : Strm) : Prop :=
  strm.fcPprev = true → strm.shutRd = false ∧ strm.stopSending = false

structure View.FcOk (v : View) : Prop where
  once : v.fcStrms.Nodup
  listed : ∀ id, id ∈ v.fcStrms ↔ ∃ strm, v.strms id = some strm ∧ strm.fcPprev = true
  receives : v.Each fun _ => Strm.Receives

section

variable {sc : Scope} {v w : View}

namespace View.FcOk

theorem same (ok : v.FcOk) (fcStrms : w.fcStrms = v.fcStrms) (strms : w.strms = v.strms) : w.FcOk where
  once := fcStrms ▸ ok.once
  listed := by
    rw [fcStrms, strms]
    exact ok.listed
  receives := ok.receives.same strms

theorem update (ok : v.FcOk) {id : Nat} {new : Option Strm}
    (strms : w.strms = Function.update v.strms id new) (once : w.fcStrms.Nodup)
    (others : ∀ i, i ≠ id → (i ∈ w.fcStrms ↔ i ∈ v.fcStrms))
    (here : id ∈ w.fcStrms ↔ ∃ strm, new = some strm ∧ strm.fcPprev = true)
    (receives : ∀ strm, new = some strm → strm.Receives) : w.FcOk where
  once := once
  listed i := by
    rw [strms]
    by_cases same : i = id
    · subst same
      simpa using here
    · simpa [same] using (others i same).trans (ok.listed i)
  receives i strm found := by
    rw [strms] at found
    by_cases same : i = id
    · subst same
      exact receives strm (by simpa using found)
    · exact ok.receives i strm (by simpa [same] using found)

theorem set (ok : v.FcOk) {id : Nat} {old new : Strm} (found : v.strms id = some old)
    (strms : w.strms = Function.update v.strms id (some new)) (fcStrms : w.fcStrms = v.fcStrms)
    (fcPprev : new.fcPprev = old.fcPprev) (receives : new.Receives) : w.FcOk := by
  refine ok.update strms (fcStrms ▸ ok.once) (fun _ _ => by rw [fcStrms]) ?_ ?_
  · rw [fcStrms, ok.listed id, found]
    simp [fcPprev]
  · rintro _ ⟨rfl⟩
    exact receives

theorem kept (ok : v.FcOk) {id : Nat} {old new : Strm} (found : v.strms id = some old)
    (strms : w.strms = Function.update v.strms id (some new)) (fcStrms : w.fcStrms = v.fcStrms)
    (same : new.fcPprev = old.fcPprev ∧ new.shutRd = old.shutRd ∧ new.stopSending = old.stopSending) :
    w.FcOk := by
  obtain ⟨fcPprev, shutRd, stopSending⟩ := same
  refine ok.set found strms fcStrms fcPprev fun listed => ?_
  rw [shutRd, stopSending]
  exact ok.receives id old found (fcPprev ▸ listed)

theorem fresh (ok : v.FcOk) {id : Nat} {new : Strm} (absent : id ∉ v.fcStrms)
    (strms : w.strms = Function.update v.strms id (some new)) (fcStrms : w.fcStrms = v.fcStrms)
    (unlisted : new.fcPprev = false) : w.FcOk := by
  refine ok.update strms (fcStrms ▸ ok.once) (fun _ _ => by rw [fcStrms]) ?_ ?_
  · rw [fcStrms]
    simp [absent, unlisted]
  · rintro _ ⟨rfl⟩ listed
    simp [unlisted] at listed

theorem absent (ok : v.FcOk) {id : Nat} (gone : v.strms id = none) : id ∉ v.fcStrms := by
  simp [ok.listed id, gone]

theorem removed (ok : v.FcOk) {id : Nat} {new : Option Strm}
    (strms : w.strms = Function.update v.strms id new) (fcStrms : w.fcStrms = v.fcStrms.erase id)
    (unlisted : ∀ strm, new = some strm → strm.fcPprev = false) : w.FcOk := by
  refine ok.update strms (fcStrms ▸ ok.once.erase id) (fun i other => ?_) ?_ fun strm is listed => ?_
  · rw [fcStrms, ok.once.mem_erase_iff]
    simp [other]
  · rw [fcStrms]
    have out : id ∉ v.fcStrms.erase id := ok.once.not_mem_erase
    simp only [out, false_iff, not_exists, not_and, Bool.not_eq_true]
    exact unlisted
  · simp [unlisted strm is] at listed

end View.FcOk

theorem Move.fcOk (move : Move sc v w) (ids : v.Ids) (marked : Marked Mark.Unlisted w.log) (ok : v.FcOk) :
    w.FcOk := by
  have earlier := Marked.earlier move.log_extends marked
  cases move
  case maxStreamData id n strm found bound => exact ok.kept found rfl rfl ⟨rfl, rfl, rfl⟩
  case strm0Limit limit strm found bound => exact ok.kept found rfl rfl ⟨rfl, rfl, rfl⟩
  case handshakeBytes n strm found bound => exact ok.kept found rfl rfl ⟨rfl, rfl, rfl⟩
  case newRemote id idtr strm bound remote opened absent maxTx init =>
    exact ok.fresh (ok.absent absent) rfl rfl (init ▸ rfl)
  case newBidi strm allowed absent maxTx init => exact ok.fresh (ok.absent absent) rfl rfl (init ▸ rfl)
  case newUni strm allowed absent maxTx init => exact ok.fresh (ok.absent absent) rfl rfl (init ▸ rfl)
  case close id code strm found closable =>
    have name := ids.name found
    cases listed : strm.fcPprev with
    | true => exact ok.removed rfl (by simp [View.closeStream, listed]) nofun
    | false =>
      have out : strm.streamId ∉ v.fcStrms := by simp [ok.listed, name, found, listed]
      exact ok.removed rfl (by simp [View.closeStream, View.setStrm, listed, erase_of_not_mem out]) nofun
  case reset id strm fr found named queued => exact ok.kept found rfl rfl ⟨rfl, rfl, rfl⟩
  case stop id strm allowed found unlisted plain =>
    exact ok.set found rfl rfl rfl fun listed => by simp [unlisted] at listed
  case rx id strm strm' allowed found step =>
    have same := step.same
    exact ok.kept found rfl rfl ⟨same.1.fcPprev, same.2, same.1.stopSending⟩
  case credit n strm allowed found credits => exact ok.kept found rfl rfl ⟨rfl, rfl, rfl⟩
  case claim id offset n strm strm' allowed found same zero claims =>
    refine ok.set found rfl rfl same.fcPprev fun listed => ?_
    have listed : strm.fcPprev = true := same.fcPprev ▸ listed
    obtain ⟨open_, receives⟩ := ok.receives id strm found listed
    rw [same.stopSending]
    rcases claims.listed listed with kept | stopped | reset
    · exact ⟨kept.trans open_, receives⟩
    · simp [receives] at stopped
    · exact absurd (earlier _ reset) (by simp [Mark.Unlisted])
  case refuse id n last strm allowed found reach => exact ok.kept found rfl rfl ⟨rfl, rfl, rfl⟩
  case fcLink id strm found unlisted receives =>
    have out : id ∉ v.fcStrms := by simp [ok.listed, found, unlisted]
    refine ok.update rfl (nodup_cons.mpr ⟨out, ok.once⟩) (fun i other => by simp [other]) (by simp) ?_
    rintro _ ⟨rfl⟩ _
    exact receives
  case fcUnlink id strm found listed =>
    refine ok.removed rfl rfl ?_
    rintro _ ⟨rfl⟩
    rfl
  case advertiseStrm rest id strm first listed found queued =>
    refine ok.removed rfl (by simp [first]) ?_
    rintro _ ⟨rfl⟩
    rfl
  case sendStream ckm fr strm ent queue nalloc allowed ready keyed entry short carries pushed found
      offset small strmFits connFits filled =>
    exact ok.kept found rfl rfl ⟨rfl, rfl, rfl⟩
  case sendEarly ckm fr strm ent nalloc allowed ready entry short carries found offset small strmFits
      connFits filled =>
    exact ok.kept found rfl rfl ⟨rfl, rfl, rfl⟩
  case ackFrame ent fr rest held chain acked silent =>
    rcases v.ackFrame_cases fr with ⟨sent, strm, _, found, same⟩ | ⟨_, same⟩ <;> rw [same]
    · exact ok.kept found rfl rfl ⟨rfl, rfl, rfl⟩
    · exact ok.same rfl rfl
  case ackReport ent fr rest strm held chain acked found told => exact ok.kept found rfl rfl ⟨rfl, rfl, rfl⟩
  case initial n allowed bound => refine ok.same ?_ ?_ <;> simp only [View.emit]
  case retry allowed enters stays empty noted =>
    have out : 0 ∉ v.fcStrms := of_decide_eq_false (earlier _ noted)
    exact ok.fresh out rfl rfl rfl
  all_goals exact ok.same rfl rfl

end

theorem Started.fcOk {c : Conn} (first : Started c) : c.view.FcOk := by
  have out (id : Nat) (strm : Strm) (found : c.view.strms id = some strm) : strm.fcPprev = false := by
    cases first <;> by_cases zero : id = 0 <;>
      simp [Conn.view, ngtcp2ConnClientNew, ngtcp2ConnServerNew, connNew, zero, ngtcp2StrmInit] at found <;>
      simp [← found, Strm.view]
  have empty : c.view.fcStrms = [] := by cases first <;> rfl
  refine ⟨empty ▸ .nil, fun id => ?_, fun id strm found listed => ?_⟩
  · rw [empty]
    constructor
    · intro member
      cases member
    · rintro ⟨strm, found, listed⟩
      simp [out id strm found] at listed
  · simp [out id strm found] at listed

/-- The list holds the open streams that are marked as listed, each once, and all of them still receive, unless
one is reset or stream 0 started over while it is listed. -/
theorem fc_strms_receive {acts : List Act} {c : Conn} (run : Runs acts c)
    (unlisted : Marked Mark.Unlisted c.log) :
    c.fcStrms.Nodup ∧
    (∀ id, id ∈ c.fcStrms ↔ ∃ strm, c.strms id = some strm ∧ strm.fcPprev = true) ∧
    ∀ id strm, id ∈ c.fcStrms → c.strms id = some strm → strm.shutRd = false ∧ strm.stopSending = false := by
  obtain ⟨-, ok⟩ : c.view.Ids ∧ c.view.FcOk :=
    run.invariant_marked (P := fun v => v.Ids ∧ v.FcOk) (fun c first => ⟨first.ids, first.fcOk⟩)
      (fun v w move marked both => ⟨move.ids both.1, move.fcOk both.1 marked both.2⟩) unlisted
  have listed (id : Nat) : id ∈ c.fcStrms ↔ ∃ strm, c.strms id = some strm ∧ strm.fcPprev = true := by
    refine (ok.listed id).trans ⟨fun ⟨strm, found, listed⟩ => ?_, fun ⟨strm, found, listed⟩ => ?_⟩
    · obtain ⟨raw, held, rfl⟩ := Option.map_eq_some_iff.mp found
      exact ⟨raw, held, listed⟩
    · exact ⟨strm.view, Conn.view_strms found, listed⟩
  refine ⟨ok.once, listed, fun id strm member found => ?_⟩
  obtain ⟨strm', found', fcPprev⟩ := (listed id).mp member
  cases found.symm.trans found'
  exact ok.receives.conn found fcPprev

-- the windows of streams 4 and 8 are extended, the client ends stream 4 and resets stream 12
def listedCalls : List (App × Call) :=
  [(.quiet, .frame (.stream { fin := false, streamId := 4, offset := 0, data := [1] })),
   (.quiet, .frame (.stream { fin := false, streamId := 8, offset := 0, data := [1] })),
   (.quiet, .frame (.stream { fin := false, streamId := 12, offset := 0, data := [1] })),
   (.quiet, .extendMaxStreamOffset 4 600), (.quiet, .extendMaxStreamOffset 8 600),
   (.quiet, .frame (.stream { fin := true, streamId := 4, offset := 1, data := [] })),
   (.quiet, .frame (.rstStream { streamId := 12, appErrorCode := 0, finalOffset := 1 }))]

theorem fc_strms_receive_listedCalls :
    let c := openServer.play listedCalls
    c.fcStrms = [8] ∧ c.fcStrms.Nodup ∧
      ∀ id strm, id ∈ c.fcStrms → c.strms id = some strm → strm.shutRd = false ∧ strm.stopSending = false :=
  have runs := Runs.play openServer_runs listedCalls (by decide)
  have ok := fc_strms_receive runs (by decide)
  ⟨by decide, ok.1, ok.2.2⟩

-- the window of stream 4 is extended, and then the client resets it
def resetListedCalls : List (App × Call) :=
  [(.quiet, .frame (.stream { fin := false, streamId := 4, offset := 0, data := [1] })),
   (.quiet, .extendMaxStreamOffset 4 600),
   (.quiet, .frame (.rstStream { streamId := 4, appErrorCode := 0, finalOffset := 1 }))]

theorem fc_strms_keep_reset :
    ∃ acts c strm, Runs acts c ∧ 4 ∈ c.fcStrms ∧ c.strms 4 = some strm ∧ strm.shutRd = true :=
  ⟨_, _, _, Runs.play openServer_runs resetListedCalls (by decide), by decide, rfl, by decide⟩

end Ngtcp2
