import Mathlib.Data.List.Nodup
import Ngtcp2.Lib.Run
import Ngtcp2.Recovery.Rtb

/-!
# Sequences of operations on the retransmission buffer

The retransmission loop pops an entry, may change it, and links it again or deletes it.
-/

namespace Ngtcp2

open List

structure Rtb.Consistent (rtb : Rtb) : Prop where
  same : rtb.head.Perm rtb.pq.q.toList
  once : (rtb.head.map RtbEntry.addr).Nodup
  sound : rtb.Sound

namespace Rtb.Consistent

variable {rtb rtb' : Rtb} {ent : RtbEntry}

theorem init : ngtcp2RtbInit.Consistent := ⟨.refl _, .nil, ngtcp2RtbInit_sound⟩

theorem add (ok : rtb.Consistent) (fresh : ∀ e ∈ rtb.head, e.addr ≠ ent.addr) :
    (ngtcp2RtbAdd rtb ent).Consistent := by
  have pushed := ngtcp2RtbAdd_pushed rtb ent
  refine ⟨(ok.same.cons ent).trans pushed.perm.symm, ?_, ?_⟩
  · refine nodup_cons.mpr ⟨fun member => ?_, ok.once⟩
    obtain ⟨e, inside, same⟩ := mem_map.mp member
    exact fresh e inside same
  · exact pushed.sound (fun e member => fresh e (ok.same.symm.subset member)) ok.sound

theorem unlinked (ok : rtb.Consistent) (perm : rtb.pq.q.toList.Perm (ent :: rtb'.pq.q.toList))
    (head : rtb'.head = unlink ent.addr rtb.head) (sound : rtb'.Sound) : rtb'.Consistent := by
  have member : ent ∈ rtb.head := ok.same.symm.subset (perm.symm.subset mem_cons_self)
  have split := unlink_perm ok.once member
  refine ⟨?_, ?_, sound⟩
  · rw [head]
    exact (split.symm.trans (ok.same.trans perm)).cons_inv
  · rw [head]
    exact ((unlink_sublist ent.addr rtb.head).map _).nodup ok.once

theorem pop (ok : rtb.Consistent) (top : ngtcp2RtbTop rtb = some ent) :
    ∃ rtb', ngtcp2RtbPop rtb = .ok rtb' ∧ rtb'.Consistent ∧ rtb'.head = unlink ent.addr rtb.head := by
  rcases ngtcp2RtbPop_top top with ⟨-, broken⟩ | ⟨rtb', popped, head, gone⟩
  · exact absurd ok.sound broken
  · exact ⟨rtb', popped, ok.unlinked gone.perm head (gone.sound ok.sound), head⟩

theorem remove (ok : rtb.Consistent) (member : ent ∈ rtb.head) :
    ∃ rtb', rtbRemove rtb ent = .ok rtb' ∧ rtb'.Consistent ∧ rtb'.head = unlink ent.addr rtb.head := by
  obtain ⟨rtb', removed⟩ := rtbRemove_total ok.sound (ok.same.subset member)
  obtain ⟨head, held, slot, gone⟩ := rtbRemove_ok removed
  have own : ∀ e ∈ rtb.pq.q.toList, e.addr = ent.addr → e = ent := fun e inside same =>
    inj_on_of_nodup_map ok.once (ok.same.symm.subset inside) member same
  obtain rfl := own held (gone.perm.symm.subset mem_cons_self) slot
  exact ⟨rtb', removed, ok.unlinked gone.perm head (gone.sound own ok.sound), head⟩

theorem top_least (ok : rtb.Consistent) (top : ngtcp2RtbTop rtb = some ent) :
    ent ∈ rtb.head ∧ ∀ e ∈ rtb.head, ent.expiry ≤ e.expiry := by
  have first : rtb.pq.q[0]? = some ent := top
  refine ⟨ok.same.symm.subset (Array.mem_toList_iff.mpr (Array.mem_of_getElem? first)), fun e member => ?_⟩
  obtain ⟨i, slot⟩ := Array.mem_iff_getElem?.mp (Array.mem_toList_iff.mp (ok.same.subset member))
  exact ok.sound.pq.heap.least first slot

end Rtb.Consistent

structure RtbState where
  rtb : Rtb
  popped : Option RtbEntry

inductive RtbOp where
  | add (ent : RtbEntry)
  | pop
  | change (expiry count pktlen : Nat) (hd : PktHd) (frc : List Frame)
  | readd
  | delete
  | recvAck (acked : RtbEntry → Bool)

namespace RtbOp

def removeAcked (acked : RtbEntry → Bool) : List RtbEntry → Rtb → Except Err Rtb
  | [], rtb => .ok rtb
  | ent :: rest, rtb =>
    if acked ent then
      match rtbRemove rtb ent with
      | .error e => .error e
      | .ok rtb => removeAcked acked rest rtb
    else removeAcked acked rest rtb

def exec (s : RtbState) : RtbOp → Except Err RtbState
  | add ent => .ok { s with rtb := ngtcp2RtbAdd s.rtb ent }
  | pop =>
    match ngtcp2RtbTop s.rtb, ngtcp2RtbPop s.rtb with
    | none, _ => .ok s
    | some _, .error e => .error e
    | some ent, .ok rtb => .ok { rtb := rtb, popped := some ent }
  | change expiry count pktlen hd frc =>
    .ok { s with popped := s.popped.map fun ent =>
      { ent with expiry := expiry, count := count, pktlen := pktlen, hd := hd, frc := frc } }
  | readd =>
    match s.popped with
    | none => .ok s
    | some ent => .ok { rtb := ngtcp2RtbAdd s.rtb ent, popped := none }
  | delete => .ok { s with popped := none }
  | recvAck acked =>
    match removeAcked acked s.rtb.head s.rtb with
    | .error e => .error e
    | .ok rtb => .ok { s with rtb := rtb }

def Allowed (s : RtbState) : RtbOp → Prop
  | add ent => ∀ e ∈ s.popped.toList ++ s.rtb.head, e.addr ≠ ent.addr
  | _ => True

end RtbOp

structure RtbState.Ok (s : RtbState) : Prop where
  rtb : s.rtb.Consistent
  apart : ∀ ent, s.popped = some ent → ∀ e ∈ s.rtb.head, e.addr ≠ ent.addr

theorem removeAcked_ok (acked : RtbEntry → Bool) {ents : List RtbEntry} {rtb : Rtb} (ok : rtb.Consistent)
    (suffix : ents <:+ rtb.head) :
    ∃ rtb', RtbOp.removeAcked acked ents rtb = .ok rtb' ∧ rtb'.Consistent ∧ rtb'.head ⊆ rtb.head := by
  induction ents generalizing rtb with
  | nil => exact ⟨rtb, rfl, ok, Subset.refl _⟩
  | cons ent rest ih =>
    unfold RtbOp.removeAcked
    split
    · obtain ⟨rtb', removed, ok', head⟩ := ok.remove (suffix.subset mem_cons_self)
      have left : rest <:+ rtb'.head := head ▸ unlink_suffix suffix
      obtain ⟨last, walked, consistent, fewer⟩ := ih ok' left
      rw [removed]
      refine ⟨last, walked, consistent, List.Subset.trans fewer ?_⟩
      rw [head]
      exact (unlink_sublist ent.addr rtb.head).subset
    · exact ih ok ((suffix_cons ent rest).trans suffix)

theorem RtbOp.exec_ok {s : RtbState} {op : RtbOp} (ok : s.Ok) (allowed : op.Allowed s) :
    ∃ t, op.exec s = .ok t ∧ t.Ok := by
  cases op with
  | add ent =>
    have fresh : ∀ e ∈ s.rtb.head, e.addr ≠ ent.addr := fun e member =>
      allowed e (mem_append_right _ member)
    refine ⟨_, rfl, ok.rtb.add fresh, fun held popped e member => ?_⟩
    rcases mem_cons.mp member with rfl | member
    · exact fun same => allowed held (mem_append_left _ (by rw [popped]; exact mem_singleton_self _)) same.symm
    · exact ok.apart held popped e member
  | pop =>
    unfold exec
    cases top : ngtcp2RtbTop s.rtb with
    | none => exact ⟨s, rfl, ok⟩
    | some ent =>
      obtain ⟨rtb, popped, consistent, head⟩ := ok.rtb.pop top
      rw [popped]
      refine ⟨_, rfl, consistent, fun held same e member => ?_⟩
      obtain rfl : ent = held := Option.some.inj same
      have once := (unlink_perm ok.rtb.once (ok.rtb.top_least top).1).map RtbEntry.addr
      have apart := (nodup_cons.mp (once.nodup_iff.mp ok.rtb.once)).1
      have inside : e.addr ∈ (unlink ent.addr s.rtb.head).map RtbEntry.addr :=
        mem_map_of_mem (head ▸ member)
      exact fun same => apart (by rwa [same] at inside)
  | change expiry count pktlen hd frc =>
    refine ⟨_, rfl, ok.rtb, fun held same e member => ?_⟩
    obtain ⟨ent, popped, rfl⟩ := Option.map_eq_some_iff.mp same
    exact ok.apart ent popped e member
  | readd =>
    unfold exec
    cases popped : s.popped with
    | none => exact ⟨s, rfl, ok⟩
    | some ent => exact ⟨_, rfl, ok.rtb.add (ok.apart ent popped), nofun⟩
  | delete => exact ⟨_, rfl, ok.rtb, nofun⟩
  | recvAck acked =>
    obtain ⟨rtb, walked, consistent, fewer⟩ := removeAcked_ok acked ok.rtb (suffix_refl _)
    simp only [exec, walked]
    exact ⟨_, rfl, consistent, fun ent popped e member => ok.apart ent popped e (fewer member)⟩

structure RtbStep (s : RtbState) (op : RtbOp) (t : RtbState) : Prop where
  allowed : op.Allowed s
  exec : op.exec s = .ok t

def RtbStart (s : RtbState) : Prop := s = { rtb := ngtcp2RtbInit, popped := none }

theorem rtbRun_ok {ops : List RtbOp} {s : RtbState} (run : Run RtbStep RtbStart ops s) : s.Ok := by
  refine Run.invariant run (P := fun _ s => s.Ok) (fun s first => ?_) fun _ s op t ok step => ?_
  · subst first
    exact ⟨.init, nofun⟩
  · obtain ⟨t', done, ok'⟩ := RtbOp.exec_ok ok step.allowed
    cases done.symm.trans step.exec
    exact ok'

end Ngtcp2
