import Ngtcp2.Invariant.StreamData

/-!
# Unacknowledged data

A STREAM frame without data carries no offset that the tracker of acknowledged offsets could miss.
-/

namespace Ngtcp2

open List Range

/-- What the TLS stack promises: 1-RTT keys are not there yet when a Retry packet starts the
connection over, and they are there when the handshake is over. -/
def Mark.TlsOrdered : Mark → Prop
  | .retry keyed _ => keyed = false
  | .earlyEntry _ _ keyed => keyed = true
  | _ => True

instance : DecidablePred Mark.TlsOrdered := fun m => by
  apply m.casesOn (motive := fun m => Decidable m.TlsOrdered) <;> intros <;> unfold Mark.TlsOrdered <;> infer_instance

def View.Buffered (v : View) : Prop :=
  ∀ fr ∈ (v.hand.toList ++ v.head).flatMap RtbEntry.frc, fr.appStream = true → v.keyed = true

def View.Complete (v : View) : Prop :=
  v.Each fun id strm => id ≠ 0 → strm.sentRst = false →
    ∀ o < strm.txOffset, Covers strm.ackedTxOffset.gap o → v.copies id o ≠ 0

section Moves

variable {sc : Scope} {v w : View}

theorem View.Buffered.same (buffered : v.Buffered) (keyed : w.keyed = v.keyed)
    (frames : (w.hand.toList ++ w.head).flatMap RtbEntry.frc ⊆ (v.hand.toList ++ v.head).flatMap RtbEntry.frc) :
    w.Buffered := by
  intro fr member app
  rw [keyed]
  exact buffered fr (frames member) app

theorem View.Buffered.added (buffered : v.Buffered) {ent : RtbEntry} (keyed : w.keyed = v.keyed)
    (hand : w.hand = v.hand) (head : w.head = ent :: v.head)
    (allowed : ∀ fr ∈ ent.frc, fr.appStream = true → v.keyed = true) : w.Buffered := by
  intro fr member app
  rw [keyed]
  simp only [hand, head, flatMap_append, flatMap_cons, mem_append] at member
  rcases member with member | member | member
  · exact buffered fr (by simp [member]) app
  · exact allowed fr member app
  · exact buffered fr (by simp [member]) app

theorem Move.buffered (move : Move sc v w) (linked : v.Linked) (control : ∀ fr ∈ v.frq, fr.stream? = none)
    (tls : Marked Mark.TlsOrdered w.log) (buffered : v.Buffered) : w.Buffered := by
  cases move
  case key => exact fun _ _ _ => rfl
  case sendHandshake ckm frames ack ent queue nalloc allowed ready carried entry handshake pushed =>
    refine buffered.added rfl rfl rfl fun fr member app => ?_
    have apart := (handshake fr member).1
    cases fr <;> simp_all [Frame.handshake, Frame.appStream]
  case sendQueued ckm frames ack ent queue nalloc frq allowed post ready carried entry short taken
      pushed =>
    refine buffered.added rfl rfl rfl fun fr member app => ?_
    have plain := control fr (taken ▸ mem_append_left _ member)
    cases fr <;> first | cases app | cases plain
  case sendStream ckm fr strm ent queue nalloc allowed ready keyed entry short carries pushed found
      offset bound strmFits connFits filled =>
    exact buffered.added rfl rfl rfl fun _ _ _ => keyed
  case earlyEntry ent ent' rest queue waiting same pushed =>
    have keyed : v.keyed = true := tls (.earlyEntry ent.hd.pktNum v.headPktNum v.keyed) (by simp [View.emit, View.add])
    exact buffered.added rfl rfl rfl fun _ _ _ => keyed
  case pop ent queue empty popped =>
    have perm := (linked.removed popped.perm).1
    refine buffered.same rfl ?_
    simp only [empty, Option.toList_none, nil_append, Option.toList_some, singleton_append]
    exact (perm.symm.flatMap_right RtbEntry.frc).subset
  case take ent held queue empty member slot removed =>
    obtain rfl := linked.slot member slot removed.perm
    have perm := (linked.removed removed.perm).1
    refine buffered.same rfl ?_
    simp only [empty, Option.toList_none, nil_append, Option.toList_some, singleton_append]
    exact (perm.symm.flatMap_right RtbEntry.frc).subset
  case discard ent frc held kept obsolete =>
    refine buffered.same rfl ?_
    simp only [held, Option.toList_some, singleton_append, flatMap_cons]
    exact append_subset.mpr ⟨subset_append_of_subset_left _ kept.subset, subset_append_right _ _⟩
  case drop ent held settled =>
    refine buffered.same rfl ?_
    simp [held]
  case resend ckm frames ack ent ent' queue allowed ready carried held same renewed pktNum pushed =>
    refine buffered.same rfl ?_
    simp [View.add, View.send, held, same]
  case split ckm frames ack ent ent' nent queue nalloc allowed ready carried held same chain renewed
      pktNum fresh allocated pushed =>
    refine buffered.same rfl fun fr member => ?_
    simp only [Option.toList_none, nil_append, flatMap_cons, mem_append] at member
    simp only [held, chain, Option.toList_some, singleton_append, flatMap_cons, mem_append]
    tauto
  case putBack ent queue held pushed =>
    refine buffered.same rfl ?_
    simp [View.add, View.emit, held]
  case ackFrame ent fr rest held chain acked silent =>
    have fewer : rest ++ v.head.flatMap RtbEntry.frc ⊆ (v.hand.toList ++ v.head).flatMap RtbEntry.frc := by
      simp only [held, chain, Option.toList_some, flatMap_cons, cons_append]
      exact subset_cons_self _ _
    rcases v.ackFrame_cases fr with ⟨_, _, _, _, same⟩ | ⟨_, same⟩ <;> rw [same] <;>
      exact buffered.same rfl fewer
  case ackReport ent fr rest strm held chain acked found told =>
    have fewer : rest ++ v.head.flatMap RtbEntry.frc ⊆ (v.hand.toList ++ v.head).flatMap RtbEntry.frc := by
      simp only [held, chain, Option.toList_some, flatMap_cons, cons_append]
      exact subset_cons_self _ _
    exact buffered.same rfl fewer
  case retry allowed enters stays empty noted =>
    refine buffered.same rfl ?_
    simp [View.enter, View.emit, View.setStrm, empty]
  all_goals exact buffered.same rfl (Subset.refl _)

theorem Move.complete (move : Move sc v w) (sent : v.Sent) (timely : ¬ sc.lose)
    (callback : v.ackedStreamDataOffset = true) (tls : Marked Mark.TlsOrdered w.log)
    (buffered : v.Buffered) (complete : v.Complete) : w.Complete := by
  intro id strm found plain unreset o below uncovered
  cases move.data sent.linked sent.control plain found with
  | fresh inserted txOffset => simp [txOffset] at below
  | kept old held txOffset acked sentRst fewer lost =>
    have unreset := sentRst unreset
    rcases lost o with same | lost
    · rw [same]
      exact complete id old held plain unreset o (txOffset ▸ below) (acked ▸ uncovered)
    · cases lost with
      | reset sent => simp [unreset] at sent
      | callback none => simp [callback] at none
      | timeout allowed => exact absurd allowed timely
      | retry early marked ent member fr inside carries =>
        have unkeyed : v.keyed = false := tls _ marked
        obtain ⟨data, rfl, rfl, -⟩ := Frame.carries_stream.mp carries
        have inBuffer := mem_flatMap.mpr ⟨ent, mem_append_right v.hand.toList member, inside⟩
        have keyed := buffered _ inBuffer (by simpa [Frame.appStream] using plain)
        simp [unkeyed] at keyed
  | sent fr old held named offset bound txOffset acked sentRst more =>
    rw [more o]
    by_cases carries : (Frame.stream fr).carries id o = true
    · simp [carries]
    · have before : o < old.txOffset := by
        rw [Frame.carries_own named] at carries
        omega
      have some := complete id old held plain (sentRst ▸ unreset) o before (acked ▸ uncovered)
      omega
  | acked fr old held named member txOffset acked sentRst less =>
    obtain ⟨bound, -⟩ := sent.frames fr member (named ▸ plain)
    have ordered := (sent.each id old held plain).ordered
    rw [acked] at uncovered
    obtain ⟨open_, outside⟩ := (ngtcp2GaptrPush_covers ordered bound named o).mp uncovered
    have some := complete id old held plain (sentRst ▸ unreset) o (txOffset ▸ below) open_
    have total := less o
    rw [if_neg outside] at total
    omega

theorem Move.callback (move : Move sc v w) : w.ackedStreamDataOffset = v.ackedStreamDataOffset := by
  cases move
  case ackFrame ent fr rest held chain acked silent =>
    rcases v.ackFrame_cases fr with ⟨_, _, _, _, same⟩ | ⟨_, same⟩
    · rw [same]
      rfl
    · rw [same]
  all_goals rfl

end Moves

structure View.Keeps (v : View) : Prop where
  sent : v.Sent
  buffered : v.Buffered
  complete : v.ackedStreamDataOffset = true → v.Complete

theorem Move.keeps {sc : Scope} {v w : View} (move : Move sc v w) (timely : ¬ sc.lose)
    (tls : Marked Mark.TlsOrdered w.log) (keeps : v.Keeps) : w.Keeps where
  sent := move.sent keeps.sent
  buffered := move.buffered keeps.sent.linked keeps.sent.control tls keeps.buffered
  complete callback := by
    rw [move.callback] at callback
    exact move.complete keeps.sent timely callback tls keeps.buffered (keeps.complete callback)

theorem Started.keeps {c : Conn} (first : Started c) : c.view.Keeps := by
  refine ⟨first.sent, fun fr member => ?_, fun _ => first.each fun maxRx plain => absurd rfl plain⟩
  cases first <;> cases member

theorem Runs.keeps {acts : List Act} {c : Conn} (run : Runs acts c)
    (timely : ∀ act ∈ acts, act.result ≠ .error .PKT_TIMEOUT) (tls : Marked Mark.TlsOrdered c.view.log) :
    c.view.Keeps := by
  induction run with
  | start first => exact first.keeps
  | @next acts s t act before step ih =>
    have reaches := step.reaches_scope (Runs.role before)
    have earlier := ih (fun act member => timely act (mem_append_left _ member))
      (Marked.earlier reaches.log_extends tls)
    have inTime := timely act (mem_append_right _ (mem_singleton_self act))
    exact reaches.invariant (C := Marked Mark.TlsOrdered) Marked.earlier
      (fun _ _ move tls => move.keeps inTime tls) tls earlier

def Conn.unacked (c : Conn) : List Frame := (c.rtb.head ++ c.earlyRtb).flatMap RtbEntry.frc

theorem Conn.held_view (c : Conn) : c.view.held = c.unacked := by
  simp [View.held, View.entries, Conn.view, Conn.unacked]

/-- The data of an open stream is acknowledged or waits to be acknowledged, at every offset that has
been sent. -/
theorem stream_data_never_lost {acts : List Act} {c : Conn} (run : Runs acts c)
    (timely : ∀ act ∈ acts, act.result ≠ .error .PKT_TIMEOUT) (callback : c.ackedStreamDataOffset = true)
    (tls : Marked Mark.TlsOrdered c.log) :
    ∀ id strm, c.strms id = some strm → id ≠ 0 → strm.sentRst = false → ∀ o < strm.txOffset,
      ¬ Covers strm.ackedTxOffset.gap o ∨
        ∃ fr, .stream fr ∈ c.unacked ∧ fr.streamId = id ∧ fr.offset ≤ o ∧ o < fr.endOffset := by
  intro id strm found plain unreset o below
  have marked : Marked Mark.TlsOrdered c.view.log := fun m member => tls m ((Conn.mem_log rfl).mp member)
  have complete := (Runs.keeps run timely marked).complete callback
  by_cases open_ : Covers strm.ackedTxOffset.gap o
  · have some := complete.conn found plain unreset o below open_
    rw [View.copies_pos, Conn.held_view] at some
    exact .inr some
  · exact .inl open_

def sentCalls : List (App × Call) :=
  [(.quiet, .openBidiStream), (.quiet, .writeStream 1200 1 false [1, 2, 3] 0)]

theorem stream_data_never_lost_sentCalls :
    ∃ strm, (openServer.play sentCalls).strms 1 = some strm ∧ strm.txOffset = 3 ∧
      ∀ o < 3, ¬ Covers strm.ackedTxOffset.gap o ∨ ∃ fr, .stream fr ∈ (openServer.play sentCalls).unacked ∧
        fr.streamId = 1 ∧ fr.offset ≤ o ∧ o < fr.endOffset := by
  have kept := stream_data_never_lost (Runs.play openServer_runs sentCalls (by decide)) (by decide)
    (by decide) (by decide) 1
  exact ⟨_, rfl, rfl, fun o below => kept _ rfl (by decide) rfl o below⟩

structure View.Finished (v : View) : Prop where
  closed : ∀ id reset queued, .mark (.closeStream id reset queued) ∈ v.log → ∃ code, .streamClose id code ∈ v.log
  filled : ∀ fr, .stream fr ∈ v.held → fr.streamId ≠ 0 → fr.data ≠ []
  gone : ∀ id queued, .mark (.closeStream id false queued) ∈ v.log → ∀ fr, .stream fr ∈ v.held → fr.streamId ≠ id

section Closing

variable {sc : Scope} {v w : View}

theorem Move.closes (move : Move sc v w) {id : Nat} {reset queued : Bool}
    (member : .mark (.closeStream id reset queued) ∈ w.log) :
    .mark (.closeStream id reset queued) ∈ v.log ∨
      ∃ i strm code, v.strms i = some strm ∧ strm.closable = true ∧ strm.streamId = id ∧
        strm.sentRst = reset ∧ w = v.closeStream strm code := by
  cases move
  case close i code strm found closable =>
    simp only [View.closeStream, closeMark, mem_append, mem_cons, Event.mark.injEq, Mark.closeStream.injEq,
      reduceCtorEq, not_mem_nil, or_false] at member
    rcases member with member | ⟨rfl, rfl, -⟩
    · exact .inl member
    · exact .inr ⟨i, strm, code, found, closable, rfl, rfl, rfl⟩
  case ackFrame ent fr rest held chain acked silent =>
    rcases v.ackFrame_cases fr with ⟨_, _, _, _, same⟩ | ⟨_, same⟩ <;> rw [same] at member <;>
      exact .inl member
  all_goals first
    | exact .inl member
    | (left
       simpa [View.emit, View.enter, View.setStrm, View.setIdtr, View.send, View.add] using member)

theorem Strm.closable_acked {id : Nat} {strm : Strm} (closable : strm.closable = true)
    (unreset : strm.sentRst = false) (tracks : v.Tracks id strm) (o : Nat) : v.copies id o = 0 := by
  have reached : ngtcp2GaptrFirstGapOffset strm.ackedTxOffset = strm.txOffset := by
    simp only [Strm.closable, unreset, Bool.false_or, Bool.and_eq_true, beq_iff_eq] at closable
    exact closable.2
  by_contra some
  obtain ⟨-, below, open_⟩ := tracks.sent o some
  have first := tracks.ordered.first_le uint64Max open_
  unfold ngtcp2GaptrFirstGapOffset at reached
  omega

theorem Move.finished (move : Move sc v w) (sent : v.Sent) (filled : ¬ sc.empty) (finished : v.Finished) :
    w.Finished := by
  have ids := move.ids sent.ids
  have data (fr : StreamFrame) (member : .stream fr ∈ w.held) (plain : fr.streamId ≠ 0) : fr.data ≠ [] := by
    rcases move.new_stream sent.linked sent.control plain member with before | ⟨-, -, empty⟩
    · exact finished.filled fr before plain
    · exact fun none => filled (empty none)
  have closed (id : Nat) (reset queued : Bool) (member : .mark (.closeStream id reset queued) ∈ w.log) :
      ∃ code, .streamClose id code ∈ w.log := by
    rcases move.closes member with member | ⟨i, strm, code, -, -, rfl, -, rfl⟩
    · obtain ⟨code, told⟩ := finished.closed id reset queued member
      exact ⟨code, move.log_extends.subset told⟩
    · exact ⟨code, by simp [View.closeStream]⟩
  refine ⟨closed, data, fun id queued member fr inFlight same => ?_⟩
  have plain : id ≠ 0 := by
    rintro rfl
    obtain ⟨code, told⟩ := closed 0 false queued member
    have none := (ids.gone 0 code (mem_filter.mpr ⟨told, rfl⟩)).1
    have zero := ids.zero
    simp [none] at zero
  subst same
  rcases move.closes member with before | ⟨i, strm, code, found, closable, named, unreset, rfl⟩
  · rcases move.new_stream sent.linked sent.control plain inFlight with old | ⟨-, opened, -⟩
    · exact finished.gone _ queued before fr old rfl
    · obtain ⟨code, told⟩ := finished.closed _ _ _ before
      have none := (sent.ids.gone _ code (mem_filter.mpr ⟨told, rfl⟩)).1
      simp [View.key] at none
      simp [none] at opened
  · have name := sent.ids.name found
    rw [name] at named
    subst named
    have none := Strm.closable_acked closable unreset (sent.each _ _ found plain) fr.offset
    have carried : v.copies fr.streamId fr.offset ≠ 0 := by
      have some := length_pos_iff.mpr (data fr inFlight plain)
      exact View.copies_pos.mpr ⟨fr, inFlight, rfl, Nat.le_refl _, by
        unfold StreamFrame.endOffset StreamFrame.datalen
        omega⟩
    exact carried none

end Closing

theorem Runs.finished {acts : List Act} {c : Conn} (run : Runs acts c)
    (filled : ∀ act ∈ acts, ¬ act.call.empty) : c.view.Sent ∧ c.view.Finished := by
  induction run with
  | start first =>
    refine ⟨first.sent, fun id reset queued member => ?_, fun fr member => ?_, fun id queued member => ?_⟩ <;>
      cases first <;> cases member
  | @next acts s t act before step ih =>
    have earlier := ih fun act member => filled act (mem_append_left _ member)
    have now := filled act (mem_append_right _ (mem_singleton_self act))
    exact (step.reaches_scope (Runs.role before)).invariant (C := fun _ => True) (fun _ _ => trivial)
      (P := fun v => v.Sent ∧ v.Finished)
      (fun _ _ move _ holds => ⟨move.sent holds.1, move.finished holds.1 now holds.2⟩) trivial earlier

/-- A stream that has not been reset is removed only when everything sent on it is acknowledged, unless a STREAM
frame without data was sent. -/
theorem closed_stream_acked {acts : List Act} {c : Conn} (run : Runs acts c)
    (filled : ∀ act ∈ acts, ¬ act.call.empty) :
    ∀ id queued, .mark (.closeStream id false queued) ∈ c.log →
      ∀ fr, .stream fr ∈ c.unacked → fr.streamId ≠ id := by
  intro id queued member
  rw [← Conn.held_view]
  exact (Runs.finished run filled).2.gone id queued ((Conn.mem_log rfl).mpr member)

def bothEndedCalls : List (App × Call) :=
  [(.quiet, .openBidiStream), (.quiet, .writeStream 1200 1 true [1, 2, 3] 0),
   (.quiet, .frame (.stream { fin := true, streamId := 1, offset := 0, data := [] })),
   (.quiet, .frame (.ack { largestAck := 2, ackDelay := 0, firstAckBlklen := 0, blks := [] }))]

instance (call : Call) : Decidable call.empty := by
  apply call.casesOn (motive := fun call => Decidable call.empty) <;> intros <;> unfold Call.empty <;> infer_instance

theorem closed_stream_acked_bothEndedCalls :
    .mark (.closeStream 1 false false) ∈ (openServer.play bothEndedCalls).log ∧
      ∀ fr, .stream fr ∈ (openServer.play bothEndedCalls).unacked → fr.streamId ≠ 1 := by
  have closed : .mark (.closeStream 1 false false) ∈ (openServer.play bothEndedCalls).log := by decide
  exact ⟨closed, closed_stream_acked (Runs.play openServer_runs bothEndedCalls (by decide)) (by decide) 1
    false closed⟩

def emptyFinCalls : List (App × Call) :=
  [(.quiet, .openBidiStream), (.quiet, .writeStream 1200 1 true [] 0),
   (.quiet, .frame (.stream { fin := true, streamId := 1, offset := 0, data := [] }))]

theorem closed_stream_unacked :
    ∃ acts c, Runs acts c ∧ .mark (.closeStream 1 false false) ∈ c.log ∧
      .stream { fin := true, streamId := 1, offset := 0, data := [] } ∈ c.unacked :=
  ⟨_, _, Runs.play openServer_runs emptyFinCalls (by decide), by decide, by decide⟩

end Ngtcp2
