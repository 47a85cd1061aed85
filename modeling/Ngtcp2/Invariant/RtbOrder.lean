import Ngtcp2.Invariant.PktNum

/-!
# The order of the retransmission buffer

`ngtcp2_rtb_add` puts every entry in front, which keeps the list in order for packets that have just been sent.
-/

namespace Ngtcp2

open List

def Mark.InOrder : Mark → Prop
  | .splitEntry => False
  | .readdEntry pktNum head => ∀ n ∈ head, n < pktNum
  | .earlyEntry pktNum head _ => ∀ n ∈ head, n < pktNum
  | .retry _ early => early = false
  | _ => True

instance : DecidablePred Mark.InOrder := fun m => by
  apply m.casesOn (motive := fun m => Decidable m.InOrder) <;> intros <;> unfold Mark.InOrder <;> infer_instance

structure RtbOk (log : List Event) : Prop where
  above : log.Pairwise Event.InitialAbove
  marked : Marked Mark.InOrder log

theorem RtbOk.earlier {log log' : List Event} (earlier : log <+: log') (ok : RtbOk log') : RtbOk log where
  above := ok.above.sublist earlier.sublist
  marked := ok.marked.earlier earlier

def Descending (ents : List RtbEntry) : Prop := ents.Pairwise fun a b => b.hd.pktNum < a.hd.pktNum

theorem Descending.cons {ents : List RtbEntry} {ent : RtbEntry} (descending : Descending ents)
    (above : ∀ n ∈ ents.head?.map fun ent => ent.hd.pktNum, n < ent.hd.pktNum) :
    Descending (ent :: ents) := by
  refine pairwise_cons.mpr ⟨fun e member => ?_, descending⟩
  cases ents with
  | nil => cases member
  | cons first rest =>
    have largest := above first.hd.pktNum rfl
    rcases mem_cons.mp member with rfl | member
    · exact largest
    · exact Nat.lt_trans ((pairwise_cons.mp descending).1 e member) largest

structure View.Ordered (v : View) : Prop where
  linked : v.Linked
  descending : Descending v.head
  used : ∀ ent ∈ v.entries, Used v.log ent.hd.pktNum ∧ ent.hd.pktNum ≤ v.lastTxPktNum
  bound : v.lastTxPktNum < 18446744073709551616

section

variable {v w : View}

theorem View.entries_new {ent : RtbEntry} {n : Nat} (hand : w.hand = v.hand) (head : w.head = ent :: v.head)
    (early : w.earlyRtb = v.earlyRtb) (number : ent.hd.pktNum = n) :
    ∀ ent' ∈ w.entries, ent'.hd.pktNum = n ∨ ∃ ent ∈ v.entries, ent'.hd = ent.hd := by
  intro ent' member
  rcases mem_cons.mp ((View.entries_cons hand head early).subset member) with rfl | member
  · exact .inl number
  · exact .inr ⟨ent', member, rfl⟩

theorem View.entries_same (perm : w.entries.Perm v.entries) :
    ∀ ent' ∈ w.entries, ∃ ent ∈ v.entries, ent'.hd = ent.hd :=
  fun ent' member => ⟨ent', perm.subset member, rfl⟩

theorem View.entries_handed {ent ent' : RtbEntry} {rest : List RtbEntry} (waiting : v.earlyRtb = ent :: rest)
    (hd : ent'.hd = ent.hd) (hand : w.hand = v.hand) (head : w.head = ent' :: v.head)
    (early : w.earlyRtb = rest) : ∀ ent' ∈ w.entries, ∃ ent ∈ v.entries, ent'.hd = ent.hd := by
  intro e member
  have older := View.entries_early waiting
  rcases mem_cons.mp ((View.entries_earlyEntry hand head early).subset member) with rfl | member
  · exact ⟨ent, older.symm.subset mem_cons_self, hd⟩
  · exact ⟨e, older.symm.subset (mem_cons_of_mem _ member), rfl⟩

theorem View.entries_exchanged {ent ent' : RtbEntry} (held : v.hand = some ent) (hand : w.hand = some ent')
    (hd : ent'.hd = ent.hd) (head : w.head = v.head) (early : w.earlyRtb = v.earlyRtb) :
    ∀ ent' ∈ w.entries, ∃ ent ∈ v.entries, ent'.hd = ent.hd := by
  intro e member
  rw [View.entries_hand hand, head, early] at member
  rw [View.entries_hand held]
  rcases mem_cons.mp member with rfl | member
  · exact ⟨ent, mem_cons_self, hd⟩
  · exact ⟨e, mem_cons_of_mem _ member, rfl⟩

end

namespace View.Ordered

variable {v w : View}

theorem below (ordered : v.Ordered) (ready : v.Ready) (above : v.log.Pairwise Event.InitialAbove)
    {ent : RtbEntry} (member : ent ∈ v.entries) : ent.hd.pktNum < v.next :=
  let used := ordered.used ent member
  ready.above above ordered.bound used.1 used.2

theorem head_below (ordered : v.Ordered) (ready : v.Ready) (above : v.log.Pairwise Event.InitialAbove) :
    ∀ ent ∈ v.head, ent.hd.pktNum < v.next :=
  fun ent member => ordered.below ready above (by simp [View.entries, member])

theorem moved (ordered : v.Ordered) (linked : w.Linked) (descending : Descending w.head)
    (numbers : ∀ ent' ∈ w.entries, ∃ ent ∈ v.entries, ent'.hd = ent.hd)
    (log : v.log <+: w.log) (last : w.lastTxPktNum = v.lastTxPktNum) : w.Ordered where
  linked := linked
  descending := descending
  used := by
    intro ent' member
    obtain ⟨ent, member, hd⟩ := numbers ent' member
    have used := ordered.used ent member
    exact hd ▸ last ▸ ⟨used.1.later log, used.2⟩
  bound := last ▸ ordered.bound

theorem sent (ordered : v.Ordered) {ckm : CryptoKm} {frames : List Frame} (ready : v.Ready)
    (above : v.log.Pairwise Event.InitialAbove) (linked : w.Linked) (descending : Descending w.head)
    (numbers : ∀ ent' ∈ w.entries, ent'.hd.pktNum = v.next ∨ ∃ ent ∈ v.entries, ent'.hd = ent.hd)
    (log : w.log = v.log ++ [.encrypt ckm v.next frames]) (last : w.lastTxPktNum = v.next) :
    w.Ordered where
  linked := linked
  descending := descending
  used := by
    intro ent' member
    rw [last, log]
    rcases numbers ent' member with number | ⟨ent, member, hd⟩
    · rw [number]
      exact ⟨⟨ckm, frames, by simp⟩, Nat.le_refl _⟩
    · have used := ordered.used ent member
      exact hd ▸ ⟨used.1.later (prefix_append _ _), Nat.le_of_lt (ordered.below ready above member)⟩
  bound := last ▸ add64_lt _ _

end View.Ordered

theorem Move.ordered {v w : View} (move : Move .any v w) (ok : RtbOk w.log) (ordered : v.Ordered) :
    w.Ordered := by
  have linked := move.linked ordered.linked
  have log := move.log_extends
  have above := (ok.earlier log).above
  cases move
  case initial n allowed bound =>
    refine ⟨linked, ordered.descending, fun ent member => ?_, sub64_lt _ _⟩
    change ent ∈ v.hand.toList ++ v.head ++ v.earlyRtb at member
    have used := ordered.used ent member
    have below : ent.hd.pktNum < n := used.1.initial ok.above
    have back : sub64 n 1 = n - 1 := sub64_eq (by omega) bound
    refine ⟨used.1.later log, ?_⟩
    change ent.hd.pktNum ≤ sub64 n 1
    omega
  case send ckm frames ack allowed ready carried =>
    exact ordered.sent ready above linked ordered.descending (fun ent member => .inr ⟨ent, member, rfl⟩)
      rfl rfl
  case sendHandshake ckm frames ack ent queue nalloc allowed ready carried entry handshake pushed =>
    have descending : Descending (ent :: v.head) :=
      pairwise_cons.mpr ⟨entry.pktNum ▸ ordered.head_below ready above, ordered.descending⟩
    exact ordered.sent ready above linked descending (View.entries_new rfl rfl rfl entry.pktNum) rfl rfl
  case sendQueued ckm frames ack ent queue nalloc frq allowed post ready carried entry short taken
      pushed =>
    have descending : Descending (ent :: v.head) :=
      pairwise_cons.mpr ⟨entry.pktNum ▸ ordered.head_below ready above, ordered.descending⟩
    exact ordered.sent ready above linked descending (View.entries_new rfl rfl rfl entry.pktNum) rfl rfl
  case sendStream ckm fr strm ent queue nalloc allowed ready keyed entry short carries pushed found
      offset bound strmFits connFits filled =>
    have descending : Descending (ent :: v.head) :=
      pairwise_cons.mpr ⟨entry.pktNum ▸ ordered.head_below ready above, ordered.descending⟩
    exact ordered.sent ready above linked descending (View.entries_new rfl rfl rfl entry.pktNum) rfl rfl
  case sendEarly ckm fr strm ent nalloc allowed ready entry short carries found offset bound strmFits
      connFits filled =>
    refine ordered.sent ready above linked ordered.descending (fun ent' member => ?_) rfl rfl
    rw [View.entries, ← append_assoc] at member
    rcases mem_append.mp member with member | member
    · exact .inr ⟨ent', member, rfl⟩
    · exact .inl (mem_singleton.mp member ▸ entry.pktNum)
  case earlyEntry ent ent' rest queue waiting same pushed =>
    have first := ok.marked (.earlyEntry ent.hd.pktNum v.headPktNum v.keyed) (by simp [View.emit, View.add])
    have descending : Descending (ent' :: v.head) := ordered.descending.cons (same.2.1 ▸ first)
    exact ordered.moved linked descending (View.entries_handed waiting same.2.1 rfl rfl rfl) log rfl
  case pop ent queue empty popped =>
    exact ordered.moved linked (ordered.descending.sublist (unlink_sublist ..))
      (View.entries_same (ordered.linked.popped empty popped.perm rfl rfl rfl)) log rfl
  case take ent held queue empty member slot removed =>
    obtain rfl := ordered.linked.slot member slot removed.perm
    exact ordered.moved linked (ordered.descending.sublist (unlink_sublist ..))
      (View.entries_same (ordered.linked.popped empty removed.perm rfl rfl rfl)) log rfl
  case discard ent frc held kept obsolete =>
    exact ordered.moved linked ordered.descending (View.entries_exchanged held rfl rfl rfl rfl) log rfl
  case drop ent held settled =>
    refine ordered.moved linked ordered.descending (fun e member => ⟨e, ?_, rfl⟩) log rfl
    rw [View.entries_hand held]
    exact mem_cons_of_mem _ member
  case resend ckm frames ack ent ent' queue allowed ready carried held same renewed pktNum pushed =>
    have descending : Descending (ent' :: v.head) :=
      pairwise_cons.mpr ⟨pktNum ▸ ordered.head_below ready above, ordered.descending⟩
    refine ordered.sent ready above linked descending (fun e member => ?_) rfl rfl
    rcases mem_cons.mp member with rfl | member
    · exact .inl pktNum
    · refine .inr ⟨e, ?_, rfl⟩
      rw [View.entries_hand held]
      exact mem_cons_of_mem _ member
  case split ckm frames ack ent ent' nent queue nalloc allowed ready carried held same chain renewed
      pktNum fresh allocated pushed =>
    exact (ok.marked .splitEntry (by simp [View.emit])).elim
  case putBack ent queue held pushed =>
    have first := ok.marked (.readdEntry ent.hd.pktNum v.headPktNum) (by simp [View.emit, View.add])
    have descending : Descending (ent :: v.head) := ordered.descending.cons first
    refine ordered.moved linked descending (fun e member => ⟨e, ?_, rfl⟩) log rfl
    rw [View.entries_hand held]
    exact member
  case ackFrame ent fr rest held chain acked silent =>
    rcases v.ackFrame_cases fr with ⟨_, _, _, _, same⟩ | ⟨_, same⟩ <;> rw [same] at linked log ⊢ <;>
      exact ordered.moved linked ordered.descending (View.entries_exchanged held rfl rfl rfl rfl) log rfl
  case ackReport ent fr rest strm held chain acked found told =>
    exact ordered.moved linked ordered.descending (View.entries_exchanged held rfl rfl rfl rfl) log rfl
  case retry allowed enters stays empty noted =>
    have none := ok.marked (.retry v.keyed (!v.earlyRtb.isEmpty)) (by simp [View.enter, View.emit, View.setStrm])
    have early : v.earlyRtb = [] := by simpa [Mark.InOrder] using none
    have small : 0 < 18446744073709551616 := by decide
    refine ⟨linked, .nil, fun ent member => ?_, small⟩
    change ent ∈ v.hand.toList ++ [] ++ v.earlyRtb at member
    simp [empty, early] at member
  all_goals
    exact ordered.moved linked ordered.descending (fun ent member => ⟨ent, member, rfl⟩) log rfl

def reinsertedCalls : List (App × Call) :=
  [(.quiet, .openBidiStream), (.quiet, .writeStream 1200 1 false [0] 0), (.quiet, .writePkt 30 1000000)]

end Ngtcp2
