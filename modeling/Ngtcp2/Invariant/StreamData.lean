import Ngtcp2.Invariant.Entries
import Ngtcp2.Invariant.StreamIds

/-!
# Sent stream data

Each offset below the send offset has been sent in one STREAM frame, and that frame is in flight until the
offset is recorded as acknowledged.
-/

namespace Ngtcp2

open List Range

def Frame.carries (id o : Nat) : Frame → Bool
  | .stream fr => fr.streamId == id && decide (fr.offset ≤ o ∧ o < fr.endOffset)
  | _ => false

theorem Frame.carries_stream {id o : Nat} {fr : Frame} :
    fr.carries id o = true ↔
      ∃ sent, fr = .stream sent ∧ sent.streamId = id ∧ sent.offset ≤ o ∧ o < sent.endOffset := by
  cases fr <;> simp [Frame.carries]

theorem Frame.carries_other {id o : Nat} {fr : StreamFrame} (other : fr.streamId ≠ id) :
    (Frame.stream fr).carries id o = false := by
  simp [Frame.carries, other]

theorem Frame.carries_own {id o : Nat} {fr : StreamFrame} (named : fr.streamId = id) :
    (Frame.stream fr).carries id o = true ↔ fr.offset ≤ o ∧ o < fr.endOffset := by
  simp [Frame.carries, named]

namespace View

def copies (v : View) (id o : Nat) : Nat := v.held.countP (Frame.carries id o)

variable {v w : View} {id o : Nat}

theorem copies_perm (perm : w.held.Perm v.held) : w.copies id o = v.copies id o := perm.countP_eq _

theorem copies_append {frs : List Frame} (perm : w.held.Perm (frs ++ v.held)) :
    w.copies id o = frs.countP (Frame.carries id o) + v.copies id o := by
  rw [copies, perm.countP_eq, countP_append, copies]

theorem copies_cons {fr : Frame} (perm : w.held.Perm (fr :: v.held)) :
    w.copies id o = v.copies id o + if fr.carries id o then 1 else 0 := by
  rw [copies, perm.countP_eq, countP_cons, copies]

theorem copies_pos : v.copies id o ≠ 0 ↔
    ∃ fr, .stream fr ∈ v.held ∧ fr.streamId = id ∧ fr.offset ≤ o ∧ o < fr.endOffset := by
  rw [← Nat.pos_iff_ne_zero, copies, countP_pos_iff]
  constructor
  · rintro ⟨fr, member, carries⟩
    obtain ⟨sent, rfl, has⟩ := Frame.carries_stream.mp carries
    exact ⟨sent, member, has⟩
  · rintro ⟨sent, member, has⟩
    exact ⟨_, member, Frame.carries_stream.mpr ⟨sent, rfl, has⟩⟩

end View

inductive View.Lost (sc : Scope) (v w : View) (id o : Nat) (strm : Strm) : Prop
  | reset (sent : strm.sentRst = true)
  | callback (none : v.ackedStreamDataOffset = false)
  | timeout (allowed : sc.lose)
  | retry (early : Bool) (marked : .mark (.retry v.keyed early) ∈ w.log) (ent : RtbEntry)
    (member : ent ∈ v.head) (fr : Frame) (held : fr ∈ ent.frc) (carries : fr.carries id o = true)

inductive View.DataStep (sc : Scope) (v w : View) (id : Nat) (strm : Strm) : Prop
  | fresh (inserted : w.log = v.log ++ [.mark (.mapInsert id false)]) (txOffset : strm.txOffset = 0)
    (acked : strm.ackedTxOffset = ngtcp2GaptrInit) (fewer : ∀ o, w.copies id o ≤ v.copies id o)
  | kept (old : Strm) (held : v.strms id = some old) (txOffset : strm.txOffset = old.txOffset)
    (acked : strm.ackedTxOffset = old.ackedTxOffset) (sentRst : strm.sentRst = false → old.sentRst = false)
    (fewer : ∀ o, w.copies id o ≤ v.copies id o)
    (lost : ∀ o, w.copies id o = v.copies id o ∨ View.Lost sc v w id o old)
  | sent (fr : StreamFrame) (old : Strm) (held : v.strms id = some old) (named : fr.streamId = id)
    (offset : fr.offset = old.txOffset) (bound : fr.endOffset < 18446744073709551616)
    (txOffset : strm.txOffset = fr.endOffset) (acked : strm.ackedTxOffset = old.ackedTxOffset)
    (sentRst : strm.sentRst = old.sentRst)
    (more : ∀ o, w.copies id o = v.copies id o + if (Frame.stream fr).carries id o then 1 else 0)
  | acked (fr : StreamFrame) (old : Strm) (held : v.strms id = some old) (named : fr.streamId = id)
    (member : .stream fr ∈ v.held) (txOffset : strm.txOffset = old.txOffset)
    (acked : strm.ackedTxOffset = ngtcp2GaptrPush old.ackedTxOffset fr.offset fr.datalen)
    (sentRst : strm.sentRst = old.sentRst)
    (less : ∀ o, v.copies id o = w.copies id o + if (Frame.stream fr).carries id o then 1 else 0)

section Moves

variable {sc : Scope} {v w : View} {id : Nat} {strm : Strm}

theorem View.Still.data (still : v.Still w) (plain : id ≠ 0) (found : w.strms id = some strm)
    (fewer : ∀ o, w.copies id o ≤ v.copies id o)
    (lost : ∀ old, v.strms id = some old → ∀ o, w.copies id o = v.copies id o ∨ View.Lost sc v w id o old) :
    View.DataStep sc v w id strm := by
  cases still id strm found with
  | kept old held alike =>
    exact .kept old held alike.txOffset alike.ackedTxOffset (fun unsent => alike.sentRst ▸ unsent) fewer
      (lost old held)
  | handshake old zero held alike => exact absurd zero plain
  | restarted shutRd shutWr maxTx zero init => exact absurd zero plain
  | fresh shutRd shutWr maxTx inserted init => exact .fresh inserted (by rw [init]; rfl) (by rw [init]; rfl) fewer
  | reset old rst held named queued alike =>
    refine .kept old held alike.txOffset alike.ackedTxOffset (fun unsent => ?_) fewer (lost old held)
    simp [alike.sentRst] at unsent
  | advertised old held queued alike =>
    exact .kept old held alike.txOffset alike.ackedTxOffset (fun unsent => alike.sentRst ▸ unsent) fewer
      (lost old held)

theorem View.Still.data_same (still : v.Still w) (plain : id ≠ 0) (found : w.strms id = some strm)
    (same : ∀ o, w.copies id o = v.copies id o) : View.DataStep sc v w id strm :=
  still.data plain found (fun o => (same o).le) fun _ _ o => .inl (same o)

theorem View.Still.data_gone (still : v.Still w) (plain : id ≠ 0) (found : w.strms id = some strm)
    {gone : List Frame} (perm : v.held.Perm (gone ++ w.held))
    (lost : ∀ old, v.strms id = some old → ∀ fr ∈ gone, ∀ o, fr.carries id o = true →
      View.Lost sc v w id o old) : View.DataStep sc v w id strm := by
  have total (o : Nat) : v.copies id o = gone.countP (Frame.carries id o) + w.copies id o :=
    View.copies_append perm
  refine still.data plain found (fun o => by have := total o; omega) fun old held o => ?_
  by_cases none : gone.countP (Frame.carries id o) = 0
  · have counted := total o
    exact .inl (by omega)
  · obtain ⟨fr, member, carries⟩ := countP_pos_iff.mp (Nat.pos_of_ne_zero none)
    exact .inr (lost old held fr member o carries)

theorem Frame.carries_handshake {fr : Frame} {o : Nat} (handshake : fr.handshake = true) (plain : id ≠ 0) :
    fr.carries id o = false := by
  cases fr with
  | stream fr =>
    refine Frame.carries_other fun same => plain ?_
    rw [← same]
    simpa [Frame.handshake] using handshake
  | _ => rfl

theorem Move.data (move : Move sc v w) (linked : v.Linked) (control : ∀ fr ∈ v.frq, fr.stream? = none)
    (plain : id ≠ 0) (found : w.strms id = some strm) : View.DataStep sc v w id strm := by
  have added {new : List Frame} (perm : w.held.Perm (new ++ v.held)) (strms : w.strms = v.strms)
      (none : ∀ fr ∈ new, ∀ o, fr.carries id o = false) : View.DataStep sc v w id strm := by
    refine (View.Still.same strms).data_same plain found fun o => ?_
    rw [View.copies_append perm, countP_eq_zero.mpr fun fr member => by simp [none fr member o], Nat.zero_add]
  have other {i : Nat} {new : Option Strm} (strms : w.strms = Function.update v.strms i new) (named : i ≠ id)
      (same : ∀ o, w.copies id o = v.copies id o) : View.DataStep sc v w id strm := by
    rw [strms, Function.update_of_ne named.symm] at found
    exact .kept strm found rfl rfl (fun unsent => unsent) (fun o => (same o).le) fun o => .inl (same o)
  cases move.held linked with
  | same perm still => exact still.data_same plain found fun o => View.copies_perm perm
  | handshake new perm all strms =>
    exact added perm strms fun fr member o => Frame.carries_handshake (all fr member).1 plain
  | queued new perm post taken strms =>
    refine added perm strms fun fr member o => ?_
    have unsent := control fr (taken ▸ mem_append_left _ member)
    cases fr <;> first | rfl | cases unsent
  | stream fr old new perm held offset bound filled strms alike =>
    by_cases named : fr.streamId = id
    · subst named
      obtain rfl : new = strm := by simpa [strms] using found
      have ends : fr.endOffset = old.txOffset + fr.datalen := by rw [StreamFrame.endOffset, offset]
      exact .sent fr old held rfl offset (ends ▸ bound) (ends ▸ alike.txOffset) alike.ackedTxOffset
        alike.sentRst fun o => View.copies_cons perm
    · exact other strms named fun o => by simp [View.copies_cons perm, Frame.carries_other named]
  | acked fr perm acked strms =>
    rcases v.ackFrame_cases fr with ⟨sent, old, rfl, held, same⟩ | ⟨absent, same⟩ <;> rw [same] at strms
    · by_cases named : sent.streamId = id
      · subst named
        obtain rfl : _ = strm := by simpa [strms, View.setStrm] using found
        exact .acked sent old held rfl (perm.symm.subset mem_cons_self) rfl rfl rfl
          fun o => View.copies_cons perm
      · exact other strms named fun o => by simp [View.copies_cons perm, Frame.carries_other named]
    · refine (View.Still.same strms).data_same plain found fun o => ?_
      have uncarried : fr.carries id o = false := by
        by_contra carries
        obtain ⟨sent, rfl, rfl, -⟩ := Frame.carries_stream.mp (by simpa using carries)
        simp [strms, absent sent rfl] at found
      simp [View.copies_cons perm, uncarried]
  | obsolete gone perm all strms =>
    refine (View.Still.same strms).data_gone plain found perm fun old held fr member o carries => ?_
    obtain ⟨sent, rfl, rfl, -⟩ := Frame.carries_stream.mp carries
    exact .reset (all _ member old held)
  | dropped gone perm settled strms =>
    refine (View.Still.same strms).data_gone plain found perm fun old held fr member o carries => ?_
    rcases settled with handshake | ⟨none, -⟩ | lost
    · simp [Frame.carries_handshake (handshake fr member) plain] at carries
    · exact .callback none
    · exact .timeout lost
  | retry perm enters marked still =>
    refine still.data_gone plain found perm fun old held fr member o carries => ?_
    obtain ⟨ent, inside, member⟩ := mem_flatMap.mp member
    exact .retry _ marked ent inside fr member carries

end Moves

structure View.Tracks (v : View) (id : Nat) (strm : Strm) : Prop where
  ordered : Range.Ordered 0 strm.ackedTxOffset.gap
  sent : ∀ o, v.copies id o ≠ 0 →
    v.copies id o = 1 ∧ o < strm.txOffset ∧ Covers strm.ackedTxOffset.gap o
  acked : ∀ o, o < uint64Max → ¬ Covers strm.ackedTxOffset.gap o → o < strm.txOffset

structure View.Sent (v : View) : Prop where
  linked : v.Linked
  ids : v.Ids
  control : ∀ fr ∈ v.frq, fr.stream? = none
  inserted : v.Each fun id _ => id ≠ 0 → .mark (.mapInsert id false) ∈ v.log
  frames : ∀ fr, .stream fr ∈ v.held → fr.streamId ≠ 0 →
    fr.endOffset < 18446744073709551616 ∧ .mark (.mapInsert fr.streamId false) ∈ v.log
  each : v.Each fun id strm => id ≠ 0 → v.Tracks id strm

theorem ngtcp2GaptrPush_covers {gaptr : Gaptr} {id : Nat} {fr : StreamFrame} (ordered : Ordered 0 gaptr.gap)
    (bound : fr.endOffset < 18446744073709551616) (named : fr.streamId = id) (o : Nat) :
    Covers (ngtcp2GaptrPush gaptr fr.offset fr.datalen).gap o ↔
      Covers gaptr.gap o ∧ ¬ (Frame.stream fr).carries id o = true := by
  let range : Range := { begin := fr.offset, stop := add64 fr.offset fr.datalen }
  have has : range.Has o ↔ (Frame.stream fr).carries id o = true := by
    rw [Frame.carries_own named, Range.Has, show range.stop = fr.endOffset from add64_eq bound]
  rw [← has]
  exact pushGaps_covers _ range ordered () o

section Tracks

variable {sc : Scope} {v w : View} {id : Nat} {strm : Strm}

theorem View.Ids.fresh {log : List Event} (ids : w.Ids) (inserted : w.log = log ++ [.mark (.mapInsert id false)]) :
    .mark (.mapInsert id false) ∉ log := by
  intro before
  have once := ids.once
  rw [inserted, streamEvents_named rfl] at once
  have apart := (pairwise_append.mp once).2.2 _ (mem_filter.mpr ⟨before, rfl⟩) _ (mem_singleton_self _)
  exact apart rfl

theorem View.DataStep.tracks (step : View.DataStep sc v w id strm) (sent : v.Sent) (ids : w.Ids)
    (plain : id ≠ 0) : w.Tracks id strm := by
  cases step with
  | fresh inserted txOffset acked fewer =>
    have none (o : Nat) : w.copies id o = 0 := by
      by_contra some
      have before : v.copies id o ≠ 0 := fun zero => some (Nat.eq_zero_of_le_zero (zero ▸ fewer o))
      obtain ⟨fr, member, rfl, -⟩ := View.copies_pos.mp before
      exact ids.fresh inserted (sent.frames fr member plain).2
    refine ⟨?_, fun o some => absurd (none o) some, fun o bound uncovered => ?_⟩
    · rw [acked]
      exact ⟨Nat.le_refl _, by decide, trivial⟩
    · rw [acked] at uncovered
      exact absurd ((covers_cons _ _ _).mpr (.inl ⟨Nat.zero_le o, bound⟩)) uncovered
  | kept old held txOffset acked sentRst fewer lost =>
    obtain ⟨ordered, inFlight, covered⟩ := sent.each id old held plain
    refine ⟨acked ▸ ordered, fun o some => ?_, fun o => ?_⟩ <;> rw [txOffset, acked]
    · have less := fewer o
      obtain ⟨once, rest⟩ := inFlight o (by omega)
      exact ⟨by omega, rest⟩
    · exact covered o
  | sent fr old held named offset bound txOffset acked sentRst more =>
    obtain ⟨ordered, inFlight, covered⟩ := sent.each id old held plain
    have grows : old.txOffset ≤ strm.txOffset := by
      rw [txOffset, StreamFrame.endOffset, offset]
      exact Nat.le_add_right _ _
    refine ⟨acked ▸ ordered, fun o some => ?_, fun o small uncovered => ?_⟩
    · rw [acked]
      have total := more o
      by_cases carries : (Frame.stream fr).carries id o = true
      · obtain ⟨low, high⟩ := (Frame.carries_own named).mp carries
        have none : v.copies id o = 0 := by
          by_contra before
          have below := (inFlight o before).2.1
          omega
        refine ⟨by simp [total, none, carries], by omega, ?_⟩
        by_contra uncovered
        have below := covered o (by unfold uint64Max; omega) uncovered
        omega
      · simp only [carries, Bool.false_eq_true, ↓reduceIte, Nat.add_zero] at total
        obtain ⟨once, below, open_⟩ := inFlight o (total ▸ some)
        exact ⟨total ▸ once, by omega, open_⟩
    · have below := covered o small (acked ▸ uncovered)
      omega
  | acked fr old held named member txOffset acked sentRst less =>
    obtain ⟨ordered, inFlight, covered⟩ := sent.each id old held plain
    obtain ⟨bound, -⟩ := sent.frames fr member (named ▸ plain)
    have closes (o : Nat) : Covers strm.ackedTxOffset.gap o ↔
        Covers old.ackedTxOffset.gap o ∧ ¬ (Frame.stream fr).carries id o = true :=
      acked ▸ ngtcp2GaptrPush_covers ordered bound named o
    refine ⟨?_, fun o some => ?_, fun o small uncovered => ?_⟩
    · rw [acked]
      exact pushGaps_ordered _ _ ordered ()
    · have total := less o
      obtain ⟨once, below, open_⟩ := inFlight o (by omega)
      have uncarried : ¬ (Frame.stream fr).carries id o = true := by
        intro carries
        rw [if_pos carries] at total
        omega
      rw [if_neg uncarried] at total
      exact ⟨by omega, txOffset ▸ below, (closes o).mpr ⟨open_, uncarried⟩⟩
    · rw [txOffset]
      by_cases carries : (Frame.stream fr).carries id o = true
      · have total := less o
        rw [if_pos carries] at total
        exact (inFlight o (by omega)).2.1
      · exact covered o small fun open_ => uncovered ((closes o).mpr ⟨open_, carries⟩)

theorem Move.queues_control (move : Move sc v w) (control : ∀ fr ∈ v.frq, fr.stream? = none) :
    ∀ fr ∈ w.frq, fr.stream? = none := by
  cases move
  case push fr' due =>
    intro fr member
    rcases mem_cons.mp member with rfl | member
    · cases fr <;> first | rfl | exact due.elim
    · exact control fr member
  case sift frq kept dropped => exact fun fr member => control fr (kept.subset member)
  case advertiseId bidi n limit =>
    intro fr member
    rcases mem_append.mp member with member | member
    · exact control fr member
    · rw [mem_singleton.mp member]
      rfl
  case sendQueued ckm frames ack ent queue nalloc frq allowed post ready carried entry short taken
      pushed => exact fun fr member => control fr (taken ▸ mem_append_right _ member)
  case ackFrame ent fr' rest held chain acked silent =>
    rcases v.ackFrame_cases fr' with ⟨_, _, _, _, same⟩ | ⟨_, same⟩ <;> rw [same] <;> exact control
  all_goals exact control

theorem Move.new_stream (move : Move sc v w) (linked : v.Linked)
    (control : ∀ fr ∈ v.frq, fr.stream? = none) {fr : StreamFrame} (plain : fr.streamId ≠ 0)
    (member : .stream fr ∈ w.held) : .stream fr ∈ v.held ∨ fr.endOffset < 18446744073709551616 ∧
      (v.strms fr.streamId).isSome = true ∧ (fr.data = [] → sc.empty) := by
  cases move.held linked with
  | same perm => exact .inl (perm.subset member)
  | handshake new perm all =>
    rcases mem_append.mp (perm.subset member) with member | member
    · have handshake := (all _ member).1
      simp [Frame.handshake, plain] at handshake
    · exact .inl member
  | queued new perm post taken =>
    rcases mem_append.mp (perm.subset member) with member | member
    · cases control _ (taken ▸ mem_append_left _ member)
    · exact .inl member
  | stream sent old new perm held offset bound filled =>
    rcases mem_cons.mp (perm.subset member) with same | member
    · obtain rfl := Frame.stream.inj same
      exact .inr ⟨by rwa [StreamFrame.endOffset, offset], by simp [held], filled⟩
    · exact .inl member
  | acked gone perm => exact .inl (perm.symm.subset (mem_cons_of_mem _ member))
  | obsolete gone perm => exact .inl (perm.symm.subset (mem_append_right gone member))
  | dropped gone perm => exact .inl (perm.symm.subset (mem_append_right gone member))
  | retry perm => exact .inl (perm.symm.subset (mem_append_right _ member))

theorem Move.sent (move : Move sc v w) (sent : v.Sent) : w.Sent := by
  have linked := move.linked sent.linked
  have ids := move.ids sent.ids
  have later {e : Event} (member : e ∈ v.log) : e ∈ w.log := move.log_extends.subset member
  refine ⟨linked, ids, move.queues_control sent.control, fun id strm found plain => ?_,
    fun fr member plain => ?_, fun id strm found plain => ?_⟩
  · cases move.data sent.linked sent.control plain found with
    | fresh inserted => simp [inserted]
    | kept old held => exact later (sent.inserted id old held plain)
    | sent fr old held => exact later (sent.inserted id old held plain)
    | acked fr old held => exact later (sent.inserted id old held plain)
  · rcases move.new_stream sent.linked sent.control plain member with before | ⟨bound, opened, -⟩
    · obtain ⟨bound, inserted⟩ := sent.frames fr before plain
      exact ⟨bound, later inserted⟩
    · obtain ⟨old, held⟩ := Option.isSome_iff_exists.mp opened
      exact ⟨bound, later (sent.inserted _ old held plain)⟩
  · exact (move.data sent.linked sent.control plain found).tracks sent ids plain

end Tracks

theorem Started.sent {c : Conn} (first : Started c) : c.view.Sent := by
  refine ⟨first.linked, first.ids, fun fr member => ?_, ?_, fun fr member => ?_, ?_⟩
  · cases first <;> cases member
  · exact first.each fun maxRx plain => absurd rfl plain
  · cases first <;> cases member
  · exact first.each fun maxRx plain => absurd rfl plain

end Ngtcp2
