import Mathlib.Data.List.Nodup
import Ngtcp2.Invariant.Streams

/-!
# Frames in flight

Queue and list of the retransmission buffer hold the same entries, and no two entries share an address.
-/

namespace Ngtcp2

open List

structure RtbEntry.Ok (ent : RtbEntry) : Prop where
  tracked : ent.hd.Tracked
  handshake : ent.hd.longForm = true → ∀ fr ∈ ent.frc, fr.handshake = true

namespace View

def entries (v : View) : List RtbEntry := v.hand.toList ++ v.head ++ v.earlyRtb

def held (v : View) : List Frame := v.entries.flatMap RtbEntry.frc

structure Linked (v : View) : Prop where
  same : v.queue.items.Perm v.head
  nodup : (v.entries.map RtbEntry.addr).Nodup
  allocated : ∀ ent ∈ v.entries, ent.addr < v.nalloc
  ok : ∀ ent ∈ v.entries, ent.Ok

end View

namespace View.Linked

variable {v w : View}

theorem head_nodup (linked : v.Linked) : (v.head.map RtbEntry.addr).Nodup := by
  have part : v.head.Sublist v.entries :=
    (sublist_append_right _ _).trans (sublist_append_left _ _)
  exact (part.map _).nodup linked.nodup

theorem removed (linked : v.Linked) {ent : RtbEntry} {queue : List RtbEntry}
    (perm : v.queue.items.Perm (ent :: queue)) :
    v.head.Perm (ent :: unlink ent.addr v.head) ∧ queue.Perm (unlink ent.addr v.head) := by
  have member : ent ∈ v.head := linked.same.subset (perm.symm.subset mem_cons_self)
  have unlinked := unlink_perm linked.head_nodup member
  exact ⟨unlinked, (perm.symm.trans (linked.same.trans unlinked)).cons_inv⟩

theorem rearranged (linked : v.Linked) (same : w.queue.items.Perm w.head)
    (addrs : (w.entries.map RtbEntry.addr).Perm (v.entries.map RtbEntry.addr))
    (nalloc : v.nalloc ≤ w.nalloc) (ok : ∀ ent ∈ w.entries, ent.Ok) : w.Linked where
  same := same
  nodup := addrs.nodup_iff.mpr linked.nodup
  allocated := by
    intro ent member
    obtain ⟨ent', member', same⟩ := mem_map.mp (addrs.subset (mem_map_of_mem member))
    exact same ▸ Nat.lt_of_lt_of_le (linked.allocated ent' member') nalloc
  ok := ok

theorem perm (linked : v.Linked) (same : w.queue.items.Perm w.head) (perm : w.entries.Perm v.entries)
    (nalloc : v.nalloc ≤ w.nalloc) : w.Linked :=
  linked.rearranged same (perm.map _) nalloc fun ent member => linked.ok ent (perm.subset member)

theorem still (linked : v.Linked) (queue : w.queue = v.queue) (hand : w.hand = v.hand)
    (head : w.head = v.head) (early : w.earlyRtb = v.earlyRtb) (nalloc : v.nalloc ≤ w.nalloc) : w.Linked :=
  linked.perm (queue ▸ head ▸ linked.same) (.of_eq (by simp [View.entries, hand, head, early])) nalloc

theorem sublist (linked : v.Linked) (same : w.queue.items.Perm w.head) (sublist : w.entries.Sublist v.entries)
    (nalloc : v.nalloc ≤ w.nalloc) : w.Linked where
  same := same
  nodup := (sublist.map _).nodup linked.nodup
  allocated ent member := Nat.lt_of_lt_of_le (linked.allocated ent (sublist.subset member)) nalloc
  ok ent member := linked.ok ent (sublist.subset member)

theorem added (linked : v.Linked) {ent : RtbEntry} (same : w.queue.items.Perm w.head)
    (perm : w.entries.Perm (ent :: v.entries)) (fresh : v.nalloc ≤ ent.addr)
    (allocated : ent.addr < w.nalloc) (ok : ent.Ok) : w.Linked where
  same := same
  nodup := by
    refine (perm.map RtbEntry.addr).nodup_iff.mpr (nodup_cons.mpr ⟨fun member => ?_, linked.nodup⟩)
    obtain ⟨ent', member', same⟩ := mem_map.mp member
    have older := linked.allocated ent' member'
    omega
  allocated := by
    intro ent' member
    rcases mem_cons.mp (perm.subset member) with rfl | member
    · exact allocated
    · have older := linked.allocated ent' member
      omega
  ok := by
    intro ent' member
    rcases mem_cons.mp (perm.subset member) with rfl | member
    · exact ok
    · exact linked.ok ent' member

end View.Linked

section Moves

variable {sc : Scope} {v w : View}

theorem View.Linked.exchange (linked : v.Linked) {ent ent' : RtbEntry} {rest : List RtbEntry}
    (same : w.queue.items.Perm w.head) (before : v.entries.Perm (ent :: rest))
    (after : w.entries.Perm (ent' :: rest)) (addr : ent'.addr = ent.addr) (ok : ent'.Ok)
    (nalloc : v.nalloc ≤ w.nalloc) : w.Linked := by
  refine linked.rearranged same ?_ nalloc fun e member => ?_
  · refine ((after.map RtbEntry.addr).trans ?_).trans (before.map RtbEntry.addr).symm
    simp [addr]
  · rcases mem_cons.mp (after.subset member) with rfl | member
    · exact ok
    · exact linked.ok e (before.symm.subset (mem_cons_of_mem _ member))

theorem View.Linked.slot (linked : v.Linked) {ent held : RtbEntry} {queue : List RtbEntry}
    (member : ent ∈ v.head) (slot : held.addr = ent.addr) (removed : v.queue.items.Perm (held :: queue)) :
    held = ent :=
  inj_on_of_nodup_map linked.head_nodup (linked.same.subset (removed.symm.subset mem_cons_self)) member slot

theorem View.entries_cons {ent : RtbEntry} (hand : w.hand = v.hand) (head : w.head = ent :: v.head)
    (early : w.earlyRtb = v.earlyRtb) : w.entries.Perm (ent :: v.entries) := by
  rw [View.entries, View.entries, hand, head, early, append_assoc, append_assoc, cons_append]
  exact perm_middle

theorem View.entries_hand {ent : RtbEntry} (held : v.hand = some ent) :
    v.entries = ent :: (v.head ++ v.earlyRtb) := by
  simp [View.entries, held]

theorem View.Linked.popped (linked : v.Linked) {ent : RtbEntry} {queue : List RtbEntry}
    (empty : v.hand = none) (perm : v.queue.items.Perm (ent :: queue)) (hand : w.hand = some ent)
    (head : w.head = unlink ent.addr v.head) (early : w.earlyRtb = v.earlyRtb) :
    w.entries.Perm v.entries := by
  rw [View.entries_hand hand, head, early, View.entries, empty]
  exact ((linked.removed perm).1.append_right v.earlyRtb).symm

theorem View.entries_early {ent : RtbEntry} {rest : List RtbEntry} (waiting : v.earlyRtb = ent :: rest) :
    v.entries.Perm (ent :: (v.hand.toList ++ v.head ++ rest)) := by
  rw [View.entries, waiting]
  exact perm_middle

theorem View.entries_earlyEntry {ent : RtbEntry} {rest : List RtbEntry} (hand : w.hand = v.hand)
    (head : w.head = ent :: v.head) (early : w.earlyRtb = rest) :
    w.entries.Perm (ent :: (v.hand.toList ++ v.head ++ rest)) := by
  rw [View.entries, hand, head, early, append_assoc, append_assoc, cons_append]
  exact perm_middle

theorem PktHd.Renewed.tracked {hd hd' : PktHd} (renewed : hd.Renewed hd') (tracked : hd.Tracked) :
    hd'.Tracked := by
  obtain ⟨long, type⟩ := renewed
  unfold PktHd.Tracked at *
  rw [long]
  split at type <;> rename_i form
  · rw [if_pos form] at tracked ⊢
    rwa [type]
  · rwa [if_neg form]

theorem RtbEntry.Ok.renewed {ent ent' : RtbEntry} (ok : ent.Ok) (renewed : ent.hd.Renewed ent'.hd)
    (frames : ent'.frc ⊆ ent.frc) : ent'.Ok where
  tracked := renewed.tracked ok.tracked
  handshake long fr member := ok.handshake (renewed.1 ▸ long) fr (frames member)

theorem RtbEntry.Ok.same {ent ent' : RtbEntry} (ok : ent.Ok) (hd : ent'.hd = ent.hd)
    (frames : ent'.frc ⊆ ent.frc) : ent'.Ok where
  tracked := hd ▸ ok.tracked
  handshake long fr member := ok.handshake (hd ▸ long) fr (frames member)

theorem RtbEntry.Ok.short {ent : RtbEntry} (tracked : ent.hd.Tracked) (short : ent.hd.longForm = false) :
    ent.Ok where
  tracked := tracked
  handshake long := by simp [short] at long

theorem Move.linked (move : Move sc v w) (linked : v.Linked) : w.Linked := by
  have handOk {ent : RtbEntry} (held : v.hand = some ent) : ent.Ok :=
    linked.ok ent (by simp [View.entries, held])
  cases move
  case alloc n grows => exact linked.still rfl rfl rfl rfl grows
  case sendHandshake ckm frames ack ent queue nalloc allowed ready carried entry handshake pushed =>
    exact linked.added (pushed.perm.trans (linked.same.cons ent)) (View.entries_cons rfl rfl rfl) entry.fresh
      entry.allocated ⟨entry.tracked, fun _ fr member => (handshake fr member).1⟩
  case sendQueued ckm frames ack ent queue nalloc frq allowed post ready carried entry short taken
      pushed =>
    exact linked.added (pushed.perm.trans (linked.same.cons ent)) (View.entries_cons rfl rfl rfl) entry.fresh
      entry.allocated (.short entry.tracked short)
  case sendStream ckm fr strm ent queue nalloc allowed ready keyed entry short carries pushed found
      offset bound strmFits connFits filled =>
    exact linked.added (pushed.perm.trans (linked.same.cons ent)) (View.entries_cons rfl rfl rfl) entry.fresh
      entry.allocated (.short entry.tracked short)
  case sendEarly ckm fr strm ent nalloc allowed ready entry short carries found offset bound strmFits
      connFits filled =>
    have last := perm_append_singleton ent v.entries
    refine linked.added linked.same ?_ entry.fresh entry.allocated (.short entry.tracked short)
    rwa [View.entries, append_assoc] at last
  case earlyEntry ent ent' rest queue waiting same pushed =>
    have ok : ent'.Ok := (linked.ok ent (by simp [View.entries, waiting])).same same.2.1 (by simp [same])
    exact linked.exchange (pushed.perm.trans (linked.same.cons ent')) (View.entries_early waiting)
      (View.entries_earlyEntry rfl rfl rfl) same.1 ok (Nat.le_refl _)
  case pop ent queue empty popped =>
    exact linked.perm (linked.removed popped.perm).2 (linked.popped empty popped.perm rfl rfl rfl)
      (Nat.le_refl _)
  case take ent held queue empty member slot removed =>
    obtain rfl := linked.slot member slot removed.perm
    exact linked.perm (linked.removed removed.perm).2 (linked.popped empty removed.perm rfl rfl rfl)
      (Nat.le_refl _)
  case discard ent frc held kept obsolete =>
    exact linked.exchange linked.same (.of_eq (View.entries_hand held)) (.of_eq (View.entries_hand rfl)) rfl
      ((handOk held).same rfl kept.subset) (Nat.le_refl _)
  case drop ent held settled =>
    refine linked.sublist linked.same ?_ (Nat.le_refl _)
    rw [View.entries_hand held]
    exact sublist_cons_self _ _
  case resend ckm frames ack ent ent' queue allowed ready carried held same renewed pktNum pushed =>
    exact linked.exchange (pushed.perm.trans (linked.same.cons ent')) (.of_eq (View.entries_hand held)) (.refl _)
      same.1 ((handOk held).renewed renewed (by simp [same])) (Nat.le_refl _)
  case split ckm frames ack ent ent' nent queue nalloc allowed ready carried held same chain renewed
      pktNum fresh allocated pushed =>
    have ok := handOk held
    let mid := { v with hand := some ent' }
    have left : mid.Linked :=
      linked.exchange linked.same (.of_eq (View.entries_hand held)) (.of_eq (View.entries_hand rfl)) same.1
        (ok.same same.2 (by simp [chain])) (Nat.le_refl _)
    refine left.added ?_ (.swap ..) fresh allocated (ok.renewed renewed (by simp [chain]))
    obtain ⟨_, first, second⟩ := pushed
    exact second.perm.trans ((first.perm.trans (linked.same.cons nent)).cons ent')
  case putBack ent queue held pushed =>
    exact linked.perm (pushed.perm.trans (linked.same.cons ent)) (.of_eq (View.entries_hand held).symm)
      (Nat.le_refl _)
  case ackFrame ent fr rest held chain acked silent =>
    have ok : RtbEntry.Ok { ent with frc := rest } := (handOk held).same rfl (by simp [chain])
    rcases v.ackFrame_cases fr with ⟨_, _, _, _, same⟩ | ⟨_, same⟩ <;> rw [same] <;>
      exact linked.exchange linked.same (.of_eq (View.entries_hand held)) (.of_eq (View.entries_hand rfl))
        rfl ok (Nat.le_refl _)
  case ackReport ent fr rest strm held chain acked found told =>
    have ok : RtbEntry.Ok { ent with frc := rest } := (handOk held).same rfl (by simp [chain])
    exact linked.exchange linked.same (.of_eq (View.entries_hand held)) (.of_eq (View.entries_hand rfl))
      rfl ok (Nat.le_refl _)
  case retry allowed enters stays empty noted =>
    refine linked.sublist (.refl _) ?_ (Nat.le_refl _)
    exact ((nil_sublist v.head).append_left v.hand.toList).append_right v.earlyRtb
  all_goals exact linked.still rfl rfl rfl rfl (Nat.le_refl _)

inductive View.HeldStep (sc : Scope) (v w : View) : Prop
  | same (perm : w.held.Perm v.held) (strms : v.Still w)
  | handshake (new : List Frame) (perm : w.held.Perm (new ++ v.held))
    (all : ∀ fr ∈ new, fr.Handshake) (strms : w.strms = v.strms)
  | queued (new : List Frame) (perm : w.held.Perm (new ++ v.held)) (post : sc.post)
    (taken : v.frq = new ++ w.frq) (strms : w.strms = v.strms)
  | stream (fr : StreamFrame) (old new : Strm) (perm : w.held.Perm (.stream fr :: v.held))
    (found : v.strms fr.streamId = some old) (offset : fr.offset = old.txOffset)
    (bound : old.txOffset + fr.datalen < 18446744073709551616) (filled : fr.data = [] → sc.empty)
    (strms : w.strms = Function.update v.strms fr.streamId (some new))
    (alike : { old with txOffset := old.txOffset + fr.datalen }.Alike new)
  | acked (fr : Frame) (perm : v.held.Perm (fr :: w.held)) (acked : w.Acked fr)
    (strms : w.strms = (v.ackFrame fr).strms)
  | obsolete (gone : List Frame) (perm : v.held.Perm (gone ++ w.held)) (all : ∀ fr ∈ gone, v.Obsolete fr)
    (strms : w.strms = v.strms)
  | dropped (gone : List Frame) (perm : v.held.Perm (gone ++ w.held))
    (settled : (∀ fr ∈ gone, fr.handshake = true) ∨
      (v.ackedStreamDataOffset = false ∧ ∀ fr ∈ gone, v.Acked fr) ∨ sc.lose) (strms : w.strms = v.strms)
  | retry (perm : v.held.Perm (v.head.flatMap RtbEntry.frc ++ w.held)) (enters : sc.become .CLIENT_INITIAL)
    (marked : .mark (.retry v.keyed (!v.earlyRtb.isEmpty)) ∈ w.log) (strms : v.Still w)

theorem View.held_same (perm : w.entries.Perm v.entries) : w.held.Perm v.held := perm.flatMap_right _

theorem View.held_still (hand : w.hand = v.hand) (head : w.head = v.head) (early : w.earlyRtb = v.earlyRtb) :
    w.held.Perm v.held :=
  View.held_same (.of_eq (by simp [View.entries, hand, head, early]))

theorem View.held_cons {ent : RtbEntry} (perm : w.entries.Perm (ent :: v.entries)) :
    w.held.Perm (ent.frc ++ v.held) := by
  have flat := perm.flatMap_right RtbEntry.frc
  rwa [flatMap_cons] at flat

theorem View.held_exchange (gone : List Frame) {ent ent' : RtbEntry} {rest : List RtbEntry}
    (before : v.entries.Perm (ent :: rest)) (after : w.entries.Perm (ent' :: rest))
    (frames : ent.frc.Perm (gone ++ ent'.frc)) : v.held.Perm (gone ++ w.held) := by
  have was := before.flatMap_right RtbEntry.frc
  have now := after.flatMap_right RtbEntry.frc
  rw [flatMap_cons] at was now
  calc v.held.Perm (ent.frc ++ rest.flatMap RtbEntry.frc) := was
    _ ~ (gone ++ ent'.frc) ++ rest.flatMap RtbEntry.frc := frames.append_right _
    _ = gone ++ (ent'.frc ++ rest.flatMap RtbEntry.frc) := append_assoc ..
    _ ~ gone ++ w.held := now.symm.append_left gone

theorem Move.held (move : Move sc v w) (linked : v.Linked) : View.HeldStep sc v w := by
  have handOk {ent : RtbEntry} (held : v.hand = some ent) : ent.Ok :=
    linked.ok ent (by simp [View.entries, held])
  cases move
  -- streams
  case maxStreamData i n old held bound =>
    exact .same (.refl _) (.set rfl (.kept old held ⟨rfl, rfl, rfl, rfl, rfl⟩))
  case strm0Limit limit old held bound =>
    exact .same (.refl _) (.set rfl (.kept old held ⟨rfl, rfl, rfl, rfl, rfl⟩))
  case handshakeBytes n old held bound =>
    exact .same (.refl _) (.set rfl (.handshake old rfl held ⟨rfl, rfl, rfl, rfl, rfl⟩))
  case newRemote i idtr new bound remote opened absent maxTx init =>
    exact .same (.refl _) (.set rfl (.fresh _ _ _ rfl init))
  case newBidi new allowed absent maxTx init => exact .same (.refl _) (.set rfl (.fresh _ _ _ rfl init))
  case newUni new allowed absent maxTx init => exact .same (.refl _) (.set rfl (.fresh _ _ _ rfl init))
  case close i code old held closable => exact .same (.refl _) (.unset rfl)
  case reset i old rst held named queued =>
    exact .same (.refl _) (.set rfl (.reset old rst held named queued ⟨rfl, rfl, rfl, rfl, rfl⟩))
  case stop i old allowed held unlisted plain =>
    exact .same (.refl _) (.set rfl (.kept old held ⟨rfl, rfl, rfl, rfl, rfl⟩))
  case rx i old new allowed held step =>
    have same := step.same.1
    exact .same (.refl _) (.set rfl (.kept old held
      ⟨same.streamId, same.txOffset, same.ackedTxOffset, same.sentRst, same.maxRxOffset⟩))
  case credit n old allowed held credits =>
    exact .same (.refl _) (.set rfl (.kept old held ⟨rfl, rfl, rfl, rfl, rfl⟩))
  case claim i offset n old new allowed held same zero claims =>
    exact .same (.refl _) (.set rfl (.kept old held
      ⟨same.streamId, same.txOffset, same.ackedTxOffset, same.sentRst, same.maxRxOffset⟩))
  case refuse i n last old allowed held reach =>
    exact .same (.refl _) (.set rfl (.kept old held ⟨rfl, rfl, rfl, rfl, rfl⟩))
  case advertiseStrm waiting i old first listed held queued =>
    exact .same (.refl _) (.set rfl (.advertised old held queued ⟨rfl, rfl, rfl, rfl, rfl⟩))
  case fcLink i old held unlisted receives =>
    exact .same (.refl _) (.set rfl (.kept old held ⟨rfl, rfl, rfl, rfl, rfl⟩))
  case fcUnlink i old held listed =>
    exact .same (.refl _) (.set rfl (.kept old held ⟨rfl, rfl, rfl, rfl, rfl⟩))
  -- packets
  case sendHandshake ckm frames ack ent queue nalloc allowed ready carried entry handshake pushed =>
    exact .handshake ent.frc (View.held_cons (View.entries_cons rfl rfl rfl)) handshake rfl
  case sendQueued ckm frames ack ent queue nalloc frq allowed post ready carried entry short taken
      pushed =>
    exact .queued ent.frc (View.held_cons (View.entries_cons rfl rfl rfl)) post taken rfl
  case sendStream ckm fr strm ent queue nalloc allowed ready keyed entry short carries pushed found
      offset bound strmFits connFits filled =>
    have perm := View.held_cons (v := v) (w := (v.send ckm [.stream fr] none).add ent queue)
      (View.entries_cons rfl rfl rfl)
    rw [carries] at perm
    exact .stream fr strm _ perm found offset bound filled rfl ⟨rfl, rfl, rfl, rfl, rfl⟩
  case sendEarly ckm fr strm ent nalloc allowed ready entry short carries found offset bound strmFits
      connFits filled =>
    have last := perm_append_singleton ent v.entries
    rw [View.entries, append_assoc] at last
    have perm := View.held_cons (w := { v with earlyRtb := v.earlyRtb ++ [ent] }) last
    rw [carries] at perm
    exact .stream fr strm _ perm found offset bound filled rfl ⟨rfl, rfl, rfl, rfl, rfl⟩
  case earlyEntry ent ent' rest queue waiting same pushed =>
    have perm := View.held_exchange (v := v) []
      (w := { v.add ent' queue with earlyRtb := rest }) (View.entries_early waiting)
      (View.entries_earlyEntry rfl rfl rfl) (by simp [same])
    exact .same perm.symm (.same rfl)
  -- the entry in hand
  case pop ent queue empty popped =>
    exact .same (View.held_same (linked.popped empty popped.perm rfl rfl rfl)) (.same rfl)
  case take ent held queue empty member slot removed =>
    obtain rfl := linked.slot member slot removed.perm
    exact .same (View.held_same (linked.popped empty removed.perm rfl rfl rfl)) (.same rfl)
  case discard ent frc held kept obsolete =>
    obtain ⟨gone, perm⟩ := kept.exists_perm_append
    refine .obsolete gone (View.held_exchange gone (.of_eq (View.entries_hand held))
      (.of_eq (View.entries_hand rfl)) (perm.trans perm_append_comm)) (fun fr member => obsolete fr ?_) rfl
    have lost : 0 < gone.count fr := count_pos_iff.mpr member
    rw [perm.count_eq, count_append]
    omega
  case drop ent held settled =>
    have perm : v.held.Perm (ent.frc ++ View.held { v with hand := none }) := by
      refine .of_eq ?_
      simp [View.held, View.entries, held]
    refine .dropped ent.frc perm ?_ rfl
    rcases settled with empty | long | untracked | acked | lost
    · simp [empty]
    · exact .inl ((handOk held).handshake long)
    · exact absurd (handOk held).tracked untracked
    · exact .inr (.inl acked)
    · exact .inr (.inr lost)
  case resend ckm frames ack ent ent' queue allowed ready carried held same renewed pktNum pushed =>
    have perm := View.held_exchange (v := v) []
      (w := { v.add ent' queue with hand := none }) (.of_eq (View.entries_hand held)) (.refl _)
      (by simp [same])
    exact .same perm.symm (.same rfl)
  case split ckm frames ack ent ent' nent queue nalloc allowed ready carried held same chain renewed
      pktNum fresh allocated pushed =>
    let rest := (v.head ++ v.earlyRtb).flatMap RtbEntry.frc
    have was : v.held = (nent.frc ++ ent'.frc) ++ rest := by
      simp [View.held, View.entries_hand held, chain, rest]
    refine .same ?_ (.same rfl)
    calc (ent'.frc ++ (nent.frc ++ rest)).Perm ((ent'.frc ++ nent.frc) ++ rest) := .of_eq (by simp)
      _ ~ (nent.frc ++ ent'.frc) ++ rest := perm_append_comm.append_right rest
      _ = v.held := was.symm
  case putBack ent queue held pushed =>
    exact .same (View.held_same (.of_eq (View.entries_hand held).symm)) (.same rfl)
  case ackFrame ent fr rest held chain acked silent =>
    have perm := View.held_exchange [fr] (w := { v with hand := some { ent with frc := rest } })
      (.of_eq (View.entries_hand held)) (.of_eq (View.entries_hand rfl)) (by simp [chain])
    have frames : View.held { v.ackFrame fr with hand := some { ent with frc := rest } } =
        View.held { v with hand := some { ent with frc := rest } } := by
      rcases v.ackFrame_cases fr with ⟨_, _, _, _, same⟩ | ⟨_, same⟩
      · rw [same]
        rfl
      · rw [same]
    refine .acked fr (frames ▸ perm) ?_ rfl
    rcases v.ackFrame_cases fr with ⟨_, _, _, _, same⟩ | ⟨_, same⟩ <;> rw [same] <;> exact acked
  case ackReport ent fr rest strm held chain acked found told =>
    have perm := View.held_exchange [.stream fr] (w := { v with hand := some { ent with frc := rest } })
      (.of_eq (View.entries_hand held)) (.of_eq (View.entries_hand rfl)) (by simp [chain])
    refine .acked (.stream fr) perm ?_ ?_
    · obtain ⟨n, frames, logged, member⟩ := acked
      exact ⟨n, frames, mem_append_left _ logged, member⟩
    · simp [View.ackFrame, found, View.setStrm, View.emit]
  case retry allowed enters stays empty noted =>
    refine .retry (.of_eq ?_) enters ?_ (.set rfl (.restarted false false _ rfl rfl))
    · simp [View.held, View.entries, View.enter, View.emit, View.setStrm, empty]
    · simp [View.enter, View.emit, View.setStrm]
  all_goals exact .same (View.held_still rfl rfl rfl) (.same rfl)

theorem View.HeldStep.strm (step : View.HeldStep sc v w) {id : Nat} {strm : Strm}
    (found : w.strms id = some strm) :
    v.StrmStep w id strm ∨ ∃ old, v.strms id = some old ∧ strm.sentRst = old.sentRst ∧
      strm.maxRxOffset = old.maxRxOffset := by
  have written {i : Nat} {new old : Strm} (held : v.strms i = some old)
      (strms : w.strms = Function.update v.strms i (some new)) (sentRst : new.sentRst = old.sentRst)
      (maxRxOffset : new.maxRxOffset = old.maxRxOffset) :
      ∃ old, v.strms id = some old ∧ strm.sentRst = old.sentRst ∧ strm.maxRxOffset = old.maxRxOffset := by
    rw [strms] at found
    by_cases here : id = i
    · subst here
      obtain rfl : new = strm := by simpa using found
      exact ⟨old, held, sentRst, maxRxOffset⟩
    · exact ⟨strm, by simpa [here] using found, rfl, rfl⟩
  cases step with
  | same _ still => exact .inl (still id strm found)
  | handshake _ _ _ strms => exact .inl (View.Still.same strms id strm found)
  | queued _ _ _ _ strms => exact .inl (View.Still.same strms id strm found)
  | stream fr old new _ held _ _ _ strms alike =>
    exact .inr (written held strms alike.sentRst alike.maxRxOffset)
  | acked fr _ _ strms =>
    rcases v.ackFrame_cases fr with ⟨sent, old, _, held, same⟩ | ⟨_, same⟩ <;> rw [same] at strms
    · exact .inr (written held strms rfl rfl)
    · exact .inl (View.Still.same strms id strm found)
  | obsolete _ _ _ strms => exact .inl (View.Still.same strms id strm found)
  | dropped _ _ _ strms => exact .inl (View.Still.same strms id strm found)
  | retry _ _ _ still => exact .inl (still id strm found)

theorem Started.linked {c : Conn} (first : Started c) : c.view.Linked := by
  cases first <;>
    exact ⟨.refl _, .nil, fun _ member => (nomatch member), fun _ member => (nomatch member)⟩

end Moves

end Ngtcp2
