import Ngtcp2.Invariant.Entries
import Ngtcp2.Recovery.RtbOps
import Mathlib.Algebra.GroupWithZero.Nat

/-!
# The retransmission buffer stays consistent

An entry joins the queue while no entry of the queue has its address.
-/

namespace Ngtcp2

open List

section

variable {sc : Scope} {v w : View}

theorem View.Linked.queued (linked : v.Linked) {ent : RtbEntry} (member : ent ∈ v.queue.items) :
    ent ∈ v.entries := by
  have inside := linked.same.subset member
  simp [View.entries, inside]

theorem View.Linked.fresh (linked : v.Linked) {addr : Nat} (fresh : v.nalloc ≤ addr) :
    ∀ e ∈ v.queue.items, e.addr ≠ addr := by
  intro e member same
  have older := linked.allocated e (linked.queued member)
  omega

theorem View.Linked.apart (linked : v.Linked) {ent : RtbEntry} {rest : List RtbEntry}
    (elsewhere : v.entries.Perm (ent :: rest)) (head : v.head ⊆ rest) :
    ∀ e ∈ v.queue.items, e.addr ≠ ent.addr := by
  intro e member same
  have once := (elsewhere.map RtbEntry.addr).nodup_iff.mp linked.nodup
  rw [map_cons, nodup_cons] at once
  exact once.1 (same ▸ mem_map_of_mem (head (linked.same.subset member)))

theorem View.Linked.apart_hand (linked : v.Linked) {ent : RtbEntry} (held : v.hand = some ent) :
    ∀ e ∈ v.queue.items, e.addr ≠ ent.addr :=
  linked.apart (.of_eq (View.entries_hand held)) (subset_append_left _ _)

theorem Move.rtbSound (move : Move sc v w) (linked : v.Linked) (sound : v.queue.sound) : w.queue.sound := by
  cases move
  case sendHandshake ckm frames ack ent queue nalloc allowed ready carried entry handshake pushed =>
    exact pushed.sound (linked.fresh entry.fresh) sound
  case sendQueued ckm frames ack ent queue nalloc frq allowed post ready carried entry short taken
      pushed =>
    exact pushed.sound (linked.fresh entry.fresh) sound
  case sendStream ckm fr strm ent queue nalloc allowed ready keyed entry short carries pushed found
      offset bound strmFits connFits filled =>
    exact pushed.sound (linked.fresh entry.fresh) sound
  case earlyEntry ent ent' rest queue waiting same pushed =>
    have apart := linked.apart (View.entries_early waiting)
      (subset_append_of_subset_left _ (subset_append_right _ _))
    exact pushed.sound (same.1 ▸ apart) sound
  case pop ent queue empty popped => exact popped.sound sound
  case resend ckm frames ack ent ent' queue allowed ready carried held same renewed pktNum pushed =>
    exact pushed.sound (same.1 ▸ linked.apart_hand held) sound
  case split ckm frames ack ent ent' nent queue nalloc allowed ready carried held same chain renewed
      pktNum fresh allocated pushed =>
    obtain ⟨mid, first, second⟩ := pushed
    refine second.sound (fun e member => ?_) (first.sound (linked.fresh fresh) sound)
    rw [same.1]
    rcases mem_cons.mp (first.perm.subset member) with rfl | member
    · have older := linked.allocated ent (by simp [View.entries, held])
      omega
    · exact linked.apart_hand held e member
  case putBack ent queue held pushed => exact pushed.sound (linked.apart_hand held) sound
  case take ent held queue empty member slot removed =>
    refine removed.sound (fun e inside same => ?_) sound
    exact inj_on_of_nodup_map linked.head_nodup (linked.same.subset inside) member same
  case ackFrame ent fr rest held chain acked silent =>
    rcases v.ackFrame_cases fr with ⟨_, _, _, _, same⟩ | ⟨_, same⟩ <;> rw [same] <;> exact sound
  case retry allowed enters stays empty noted => exact ngtcp2RtbInit_sound
  all_goals exact sound

end

theorem Runs.rtb_consistent {acts : List Act} {c : Conn} (run : Runs acts c) : c.rtb.Consistent := by
  have kept : c.view.Linked ∧ c.view.queue.sound := by
    refine run.invariant (C := fun _ => True) (P := fun v => v.Linked ∧ v.queue.sound)
      (fun _ _ => trivial) (fun c first => ⟨first.linked, ?_⟩) (fun v w move _ both => ?_) trivial
    · cases first <;> exact ngtcp2RtbInit_sound
    · exact ⟨move.linked both.1, move.rtbSound both.1 both.2⟩
  obtain ⟨linked, sound⟩ := kept
  exact ⟨linked.same.symm, linked.head_nodup, sound⟩

end Ngtcp2
