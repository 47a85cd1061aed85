import Ngtcp2.Invariant.Unacked
import Ngtcp2.Receive.Deliver

/-!
# From one application to the other

All STREAM frames that a connection ever has in flight on a stream are parts of one byte string. Whatever the
network does to them, the application at the other end is given a beginning of this string.
-/

namespace Ngtcp2

open List

section Parts

variable {fr : StreamFrame} {whole : List UInt8}

theorem StreamFrame.PartOf.append (part : fr.PartOf whole) (more : List UInt8) : fr.PartOf (whole ++ more) := by
  intro i inside
  have held := part i inside
  rwa [getElem?_append_left (List.getElem?_eq_some_iff.mp held).1]

theorem StreamFrame.partOf_end (offset : fr.offset = whole.length) : fr.PartOf (whole ++ fr.data) := by
  intro i inside
  rw [offset, getElem?_append_right (Nat.le_add_right _ _), Nat.add_sub_cancel_left, getElem?_eq_getElem inside]

theorem Receiver.take_agrees {r : Receiver} (agrees : r.data.Agrees whole) (part : fr.PartOf whole) :
    (r.take fr).data.Agrees whole := by
  unfold Receiver.take
  split
  · exact agrees
  · change (r.dataAfter fr).Agrees whole
    unfold Receiver.dataAfter
    split
    · exact agrees
    · exact agrees.put part

end Parts

/-- The strings `whole` that the streams have sent so far. The frames `flown` have been in flight before. -/
structure View.Writes (v : View) (flown : List Frame) (whole : Nat → List UInt8) : Prop where
  length : v.Each fun id strm => id ≠ 0 → strm.txOffset = (whole id).length
  parts : ∀ fr, .stream fr ∈ flown ∨ .stream fr ∈ v.held → fr.streamId ≠ 0 → fr.PartOf (whole fr.streamId)
  opened : ∀ id, id ≠ 0 → whole id ≠ [] → .mark (.mapInsert id false) ∈ v.log

section Moves

variable {sc : Scope} {v w : View} {flown : List Frame} {whole : Nat → List UInt8}

theorem View.Writes.kept (writes : v.Writes flown whole) (move : Move sc v w)
    (length : w.Each fun id strm => id ≠ 0 → strm.txOffset = (whole id).length)
    (old : ∀ fr, .stream fr ∈ w.held → fr.streamId ≠ 0 → .stream fr ∈ v.held) : w.Writes flown whole where
  length := length
  parts fr sent plain := writes.parts fr (sent.imp_right fun member => old fr member plain) plain
  opened id plain some := move.log_extends.subset (writes.opened id plain some)

theorem View.Writes.still (writes : v.Writes flown whole) (ids : w.Ids) (strms : v.Still w) :
    w.Each fun id strm => id ≠ 0 → strm.txOffset = (whole id).length := by
  intro id strm found plain
  cases strms id strm found with
  | kept old held alike => exact alike.txOffset.trans (writes.length id old held plain)
  | handshake old zero => exact absurd zero plain
  | restarted shutRd shutWr maxTx zero => exact absurd zero plain
  | fresh shutRd shutWr maxTx inserted init =>
    -- an id is used once, so that nothing has been sent on a new stream
    have none : whole id = [] := by
      by_contra some
      exact ids.fresh inserted (writes.opened id plain some)
    rw [init, none]
    rfl
  | reset old rst held named queued alike => exact alike.txOffset.trans (writes.length id old held plain)
  | advertised old held queued alike => exact alike.txOffset.trans (writes.length id old held plain)

theorem View.Writes.sent {fr : StreamFrame} {old new : Strm} (writes : v.Writes flown whole) (move : Move sc v w)
    (inserted : fr.streamId ≠ 0 → .mark (.mapInsert fr.streamId false) ∈ v.log)
    (perm : w.held.Perm (.stream fr :: v.held)) (found : v.strms fr.streamId = some old)
    (offset : fr.offset = old.txOffset) (strms : w.strms = Function.update v.strms fr.streamId (some new))
    (txOffset : new.txOffset = old.txOffset + fr.datalen) :
    w.Writes flown (Function.update whole fr.streamId (whole fr.streamId ++ fr.data)) := by
  constructor
  case length =>
    intro id strm here plain
    rw [strms] at here
    by_cases named : id = fr.streamId
    · subst named
      obtain rfl : new = strm := by simpa using here
      simp [txOffset, writes.length _ old found plain, StreamFrame.datalen]
    · rw [Function.update_of_ne named] at here ⊢
      exact writes.length id strm here plain
  case parts =>
    intro fr' sent plain
    have before (known : .stream fr' ∈ flown ∨ .stream fr' ∈ v.held) :
        fr'.PartOf (Function.update whole fr.streamId (whole fr.streamId ++ fr.data) fr'.streamId) := by
      have part := writes.parts fr' known plain
      by_cases named : fr'.streamId = fr.streamId
      · rw [named] at part ⊢
        rw [Function.update_self]
        exact part.append _
      · rwa [Function.update_of_ne named]
    -- an older frame is a part of what was sent before it, the new one is the end
    rcases sent with known | member
    · exact before (.inl known)
    rcases mem_cons.mp (perm.subset member) with same | member
    · obtain rfl := Frame.stream.inj same
      rw [Function.update_self]
      exact StreamFrame.partOf_end (offset.trans (writes.length _ old found plain))
    · exact before (.inr member)
  case opened =>
    intro id plain some
    by_cases named : id = fr.streamId
    · exact move.log_extends.subset (named ▸ inserted (named ▸ plain))
    · rw [Function.update_of_ne named] at some
      exact move.log_extends.subset (writes.opened id plain some)

theorem Move.writes (move : Move sc v w) (sent : v.Sent) (writes : v.Writes flown whole) :
    ∃ whole', w.Writes flown whole' := by
  have ids := move.ids sent.ids
  have same (strms : w.strms = v.strms) := writes.still ids (View.Still.same strms)
  cases move.held sent.linked with
  | same perm strms => exact ⟨whole, writes.kept move (writes.still ids strms) fun fr member _ => perm.subset member⟩
  | handshake new perm all strms =>
    refine ⟨whole, writes.kept move (same strms) fun fr member plain => ?_⟩
    rcases mem_append.mp (perm.subset member) with member | member
    · have handshake := (all _ member).1
      simp [Frame.handshake, plain] at handshake
    · exact member
  | queued new perm post taken strms =>
    refine ⟨whole, writes.kept move (same strms) fun fr member plain => ?_⟩
    rcases mem_append.mp (perm.subset member) with member | member
    · cases sent.control _ (taken ▸ mem_append_left _ member)
    · exact member
  | stream fr old new perm found offset bound filled strms alike =>
    exact ⟨_, writes.sent move (sent.inserted _ old found) perm found offset strms alike.txOffset⟩
  | acked fr perm acked strms =>
    refine ⟨whole, writes.kept move (fun id strm found plain => ?_)
      fun fr' member _ => perm.symm.subset (mem_cons_of_mem _ member)⟩
    rcases v.ackFrame_cases fr with ⟨data, old, rfl, held, now⟩ | ⟨-, now⟩ <;> rw [strms, now] at found
    · by_cases named : id = data.streamId
      · subst named
        obtain rfl : _ = strm := by simpa [View.setStrm] using found
        exact writes.length _ old held plain
      · exact writes.length id strm (by simpa [View.setStrm, named] using found) plain
    · exact writes.length id strm found plain
  | obsolete gone perm all strms =>
    exact ⟨whole, writes.kept move (same strms) fun fr member _ => perm.symm.subset (mem_append_right gone member)⟩
  | dropped gone perm settled strms =>
    exact ⟨whole, writes.kept move (same strms) fun fr member _ => perm.symm.subset (mem_append_right gone member)⟩
  | retry perm enters marked strms =>
    exact ⟨whole, writes.kept move (writes.still ids strms) fun fr member _ => perm.symm.subset (mem_append_right _ member)⟩

end Moves

/-- A connection with the frames that have been in flight between its calls. -/
structure Sender where
  conn : Conn
  flown : List Frame

def SenderStep (s : Sender) (act : Act) (t : Sender) : Prop :=
  Step s.conn act t.conn ∧ t.flown = s.flown ++ t.conn.unacked

def SenderStarted (s : Sender) : Prop := Started s.conn ∧ s.flown = []

theorem Started.unsent {c : Conn} (first : Started c) : c.view.held = [] := by cases first <;> rfl

theorem Sender.writes {acts : List Act} {a : Sender} (run : Run SenderStep SenderStarted acts a) :
    Runs acts a.conn ∧ a.conn.view.Sent ∧ ∃ whole, a.conn.view.Writes a.flown whole := by
  refine run.invariant (P := fun acts a => Runs acts a.conn ∧ a.conn.view.Sent ∧ ∃ whole, a.conn.view.Writes a.flown whole)
    (fun a first => ?_) fun acts s act t before step => ?_
  · obtain ⟨first, none⟩ := first
    refine ⟨.start first, first.sent, fun _ => [], first.each fun maxRx plain => absurd rfl plain, fun fr member => ?_,
      fun id _ some => absurd rfl some⟩
    simp [none, first.unsent] at member
  · obtain ⟨runs, sent, whole, writes⟩ := before
    obtain ⟨taken, flown⟩ := step
    have kept := (taken.reaches_scope runs.role).invariant (C := fun _ => True)
      (P := fun v => v.Sent ∧ ∃ whole, v.Writes s.flown whole) (fun _ _ => trivial)
      (fun v w move _ holds => ⟨move.sent holds.1, holds.2.elim fun whole => move.writes holds.1⟩) trivial
      ⟨sent, whole, writes⟩
    obtain ⟨sent, whole, writes⟩ := kept
    refine ⟨runs.next taken, sent, whole, { writes with parts := fun fr member => writes.parts fr ?_ }⟩
    rw [flown, mem_append, ← Conn.held_view] at member
    exact member.elim (·) .inr

theorem Runs.sender {acts : List Act} {c : Conn} (run : Runs acts c) :
    ∃ flown, Run SenderStep SenderStarted acts ⟨c, flown⟩ ∧ ∀ fr ∈ c.unacked, fr ∈ flown := by
  induction run with
  | start first =>
    refine ⟨[], .start ⟨first, rfl⟩, fun fr member => ?_⟩
    simp [← Conn.held_view, first.unsent] at member
  | next _ taken ih =>
    obtain ⟨flown, run, -⟩ := ih
    exact ⟨_, run.next ⟨taken, rfl⟩, fun fr member => mem_append_right _ member⟩

/-- A call at the other end: it takes a frame that has been in flight, however often and in whatever order they
come, it extends the window, or it does not touch the stream. -/
inductive Act.Relays (id : Nat) (flown : List Frame) (act : Act) : Prop
  | frame (fr : StreamFrame) (called : act.call = .frame (.stream fr)) (named : fr.streamId = id)
    (sent : .stream fr ∈ flown) (taken : ∃ n, act.result = .ok n)
  | extend (n : UInt64) (called : act.call = .extendMaxStreamOffset id n)
  | apart (apart : ¬ act.call.Touches id)

def threeBytes : StreamFrame := { fin := false, streamId := 4, offset := 0, data := [1, 2, 3] }

end Ngtcp2
