import Ngtcp2.Machine.Tls

/-!
# Receiving data

The bytes of stream 0 are added to its window, so that the loop over them has to know how far it has come.
-/

namespace Ngtcp2

open Prog Relation Range

variable {sc : Scope} (app : App)

section Filled

variable {rob rob' : Rob} {offset last : Nat}

theorem ngtcp2RobPop_filled {len : Nat} (last : Nat) (run : ngtcp2RobPop rob offset len = .ok rob') :
    rob.Filled rob' last ∧ rob'.gap = rob.gap := by
  have same : rob'.chunk = rob.chunk ∧ rob'.gap = rob.gap := by
    unfold ngtcp2RobPop at run
    split at run
    · cases run
    · split at run <;> cases run <;> exact ⟨rfl, rfl⟩
  obtain ⟨chunk, gap⟩ := same
  exact ⟨⟨chunk, fun ordered => gap ▸ ordered, fun _ o covered => gap ▸ covered,
    fun _ o _ covered => gap.symm ▸ covered⟩, gap⟩

theorem ngtcp2RobRemovePrefix_filled (fits : offset ≤ max last (ngtcp2RobFirstGapOffset rob)) :
    rob.Filled (ngtcp2RobRemovePrefix rob offset) last where
  chunk := rfl
  ordered ordered := (removeGaps_ordered ordered).weaken (Nat.zero_le _)
  fewer ordered o covered := ((removeGaps_covers ordered o).mp covered).1
  above ordered o above covered := by
    have first : ngtcp2RobFirstGapOffset rob ≤ o := ordered.first_le uint64Max covered
    exact (removeGaps_covers ordered o).mpr ⟨covered, by omega⟩

theorem ngtcp2RobPush_filled {data : List UInt8} (bound : offset + data.length < 18446744073709551616)
    (fits : offset + data.length ≤ last) : rob.Filled (ngtcp2RobPush rob offset data) last where
  chunk := rfl
  ordered ordered := pushGaps_ordered _ _ ordered _
  fewer ordered o covered := ((pushGaps_covers _ _ ordered _ o).mp covered).1
  above ordered o above covered := by
    refine (pushGaps_covers _ _ ordered _ o).mpr ⟨covered, fun has => ?_⟩
    have below := has.2
    simp only [add64_eq bound] at below
    omega

theorem ngtcp2RobDataAt_length {data : List UInt8} (run : ngtcp2RobDataAt rob offset = .ok data)
    (some : data ≠ []) :
    offset + data.length ≤ ngtcp2RobFirstGapOffset rob ∧ data.length ≤ rob.chunk := by
  unfold ngtcp2RobDataAt at run
  unfold ngtcp2RobFirstGapOffset
  split at run
  · cases run
  next g rest gaps =>
  rw [gaps]
  split at run
  · cases run
    exact absurd rfl some
  next gap =>
  split at run
  · cases run
  split at run
  · cases run
  next low =>
  split at run
  · cases run
  · cases run
    simp only [List.length_map, List.length_range, Range.first]
    omega

end Filled

theorem ngtcp2RobRemovePrefix_first {rob : Rob} {offset : Nat} (bound : offset ≤ uint64Max) :
    offset ≤ ngtcp2RobFirstGapOffset (ngtcp2RobRemovePrefix rob offset) := by
  unfold ngtcp2RobFirstGapOffset ngtcp2RobRemovePrefix
  induction rob.gap with
  | nil => exact bound
  | cons g rest ih =>
    simp only [removeGaps]
    split_ifs with below inside
    · exact below
    · exact Nat.le_refl _
    · exact ih

theorem goes_logged {α : Type} {m : ConnM α} {s t : Conn} {a : α} {e : Event}
    (goes : Goes (Reaches sc) (Fails sc) m s) (run : m s = (.ok a, t)) (member : e ∈ s.view.log) :
    e ∈ t.view.log :=
  (Move.log_run (goes.reached run)).subset member

section

variable {id : Nat} (allowed : sc.rx id)

include allowed

theorem connRemovePrefix_goes {s : Conn} {strm : Strm} {rxOffset : Nat} (found : s.strms id = some strm)
    (fits : rxOffset ≤ max strm.lastRxOffset (ngtcp2StrmRxOffset strm)) :
    Goes (Reaches sc) (Fails sc) (connRemovePrefix id rxOffset) s :=
  modifyStrm_rx allowed found (.rob _ (ngtcp2RobRemovePrefix_filled fits))

theorem connEmitPendingStreamData_does (rounds rxOffset : Nat) :
    Does sc (connEmitPendingStreamData app id rounds rxOffset) := by
  induction rounds generalizing rxOffset with
  | zero => exact .pure _
  | succ rounds ih =>
    refine .strm fun strm s found => .seq (.result _) fun data t run => ?_
    obtain rfl : t = s := congrArg Prod.snd run.symm
    split
    · split
      · exact .done _
      · exact .failed _
    · refine .seq (connCall_deliver app _ _ allowed (Conn.view_opened found)) fun _ u run => ?_
      cases connCall_ok app run
      refine .seq (.result _) fun rob w run => ?_
      have popped : ngtcp2RobPop strm.rob rxOffset data.length = .ok rob := congrArg Prod.fst run
      obtain rfl := congrArg Prod.snd run
      exact .seq (modifyStrm_rx allowed found (.rob rob (ngtcp2RobPop_filled _ popped).1)) fun _ x _ => ih _ x

theorem recvReordering_goes {fr : StreamFrame} {s : Conn} {strm : Strm} (found : s.strms id = some strm)
    (bound : fr.endOffset < 2 * varintBound) (reach : fr.endOffset ≤ strm.lastRxOffset) :
    Goes (Reaches sc) (Fails sc) (modifyStrm id fun strm => ngtcp2StrmRecvReordering strm fr) s := by
  refine modifyStrm_rx allowed found (.rob _ (ngtcp2RobPush_filled ?_ reach))
  unfold StreamFrame.endOffset StreamFrame.datalen varintBound at bound
  omega

end

def Credit (strm : Strm) (rxOffset : Nat) (log : List Event) : Prop :=
  (strm.rob.chunk ≤ maxVarint → strm.unsentMaxRxOffset ≤ maxVarint + rxOffset) ∨ .mark (.credit false) ∈ log

def Conn.credited (c : Conn) (strm : Strm) (n : Nat) : Conn :=
  (c.emit (.mark (.creditFits (decide (strm.unsentMaxRxOffset + n ≤ maxVarint))))).setStrm 0
    (some { strm with unsentMaxRxOffset := add64 strm.unsentMaxRxOffset n })

theorem connCreditStrm0_run {s : Conn} {strm : Strm} (n : Nat) (found : s.strms 0 = some strm) :
    connCreditStrm0 n s = (.ok (), s.credited strm n) := by
  unfold connCreditStrm0
  rw [bind_ok (getStrm_run found)]
  exact modifyStrm_run (c := s.emit _) _ found

theorem Conn.credited_reaches {s₀ s : Conn} {strm : Strm} {rxOffset n owed : Nat} (allowed : sc.rx 0)
    (reached : ReflTransGen (Move sc) s₀.view { s.view with owed := owed })
    (due : n = owed ∨ .mark .uncredited ∈ s.view.log) (found : s.strms 0 = some strm)
    (credit : Credit strm rxOffset s.view.log) (below : rxOffset + n ≤ ngtcp2StrmRxOffset strm) :
    Reaches sc s₀ (s.credited strm n) := by
  let fits := decide (strm.unsentMaxRxOffset + n ≤ maxVarint)
  let noted : View := { s.view.emit (.mark (.creditFits fits)) with owed := owed }
  refine (reached.tail (.noteCredit _ fits)).tail ?_
  unfold Conn.credited
  rw [Conn.view_setStrm, Conn.view_emit _ rfl]
  refine .credit noted n strm.view allowed (Conn.view_strms found) ⟨?_, ?_, ?_⟩
  · exact List.mem_concat_self
  · refine credit.imp (fun within small => ?_) fun logged => List.mem_append_left _ logged
    have inside := within small
    change strm.unsentMaxRxOffset + n ≤ maxVarint + ngtcp2StrmRxOffset strm
    omega
  · exact due.imp_right fun logged => List.mem_append_left _ logged

theorem add64_le (a b : Nat) : add64 a b ≤ a + b := Nat.mod_le _ _

theorem connCreditStrm0_spec {s₀ s : Conn} {strm : Strm} {rxOffset n owed : Nat} (allowed : sc.rx 0)
    (reached : ReflTransGen (Move sc) s₀.view { s.view with owed := owed })
    (due : n = owed ∨ .mark .uncredited ∈ s.view.log) (found : s.strms 0 = some strm)
    (credit : Credit strm rxOffset s.view.log) (below : rxOffset + n ≤ ngtcp2StrmRxOffset strm) :
    wp (connCreditStrm0 n)
      (fun _ t => Reaches sc s₀ t ∧ Credit { strm with unsentMaxRxOffset := add64 strm.unsentMaxRxOffset n }
          (rxOffset + n) t.view.log ∧
        t.strms 0 = some { strm with unsentMaxRxOffset := add64 strm.unsentMaxRxOffset n })
      (fun e t => Fails sc e s₀ t) s := by
  rw [wp_run_ok (connCreditStrm0_run n found)]
  refine ⟨Conn.credited_reaches allowed reached due found credit below, ?_, Conn.setStrm_strms ..⟩
  refine credit.imp (fun within chunk => ?_) fun logged => ?_
  · have inside := within chunk
    have total := add64_le strm.unsentMaxRxOffset n
    change add64 strm.unsentMaxRxOffset n ≤ maxVarint + (rxOffset + n)
    omega
  · unfold Conn.credited
    rw [Conn.view_setStrm, Conn.view_emit _ rfl]
    exact List.mem_append_left _ logged

theorem handOn_credited {s : Conn} {strm : Strm} {rxOffset : Nat} {data : List UInt8} (allowed : sc.rx 0)
    (found : s.strms 0 = some strm) (credit : Credit strm rxOffset s.view.log)
    (below : rxOffset + data.length ≤ ngtcp2StrmRxOffset strm) :
    wp (connCallRecvStream0Data app data >>= fun _ => connCreditStrm0 data.length)
      (fun _ t => Reaches sc s t ∧ ∃ maxTx,
        let credited : Strm :=
          { strm with maxTxOffset := maxTx, unsentMaxRxOffset := add64 strm.unsentMaxRxOffset data.length }
        t.strms 0 = some credited ∧ Credit credited (rxOffset + data.length) t.view.log)
      (fun e t => Fails sc e s t) s := by
  rw [wp_bind]
  refine wp_intro (fun _ t run => ?_) fun e t run => .inr (wp_error (connCallRecvStream0Data_spec app allowed data s) run).1
  have hands := connCallRecvStream0Data_handsOn app allowed run
  obtain ⟨maxTx, held⟩ := ((connCallRecvStream0Data_sameStrms app data s).reached run).found found
  have later : Credit { strm with maxTxOffset := maxTx } rxOffset t.view.log :=
    credit.imp_right fun logged => (Move.log_run hands).subset logged
  refine wp_mono (connCreditStrm0_spec allowed hands (.inl rfl) held later below) ?_ fun _ _ failed => failed
  intro _ u ⟨reached, credit, found⟩
  exact ⟨reached, maxTx, found, credit⟩

theorem handOn_uncredited {s : Conn} {strm : Strm} {rxOffset : Nat} {data : List UInt8} (allowed : sc.rx 0)
    (found : s.strms 0 = some strm) (credit : Credit strm rxOffset s.view.log) :
    wp (connCallRecvStream0Data app data >>= fun _ => connMark .uncredited)
      (fun _ t => Reaches sc s t ∧ ∃ maxTx,
        t.strms 0 = some { strm with maxTxOffset := maxTx } ∧ Credit { strm with maxTxOffset := maxTx } rxOffset t.view.log)
      (fun e t => Fails sc e s t) s := by
  rw [wp_bind]
  refine wp_intro (fun _ t run => ?_) fun e t run => .inr (wp_error (connCallRecvStream0Data_spec app allowed data s) run).1
  have hands := connCallRecvStream0Data_handsOn app allowed run
  obtain ⟨maxTx, held⟩ := ((connCallRecvStream0Data_sameStrms app data s).reached run).found found
  refine ⟨hands.uncredit, maxTx, held, credit.imp_right fun logged => ?_⟩
  exact (Move.log_run hands.uncredit).subset logged

theorem connEmitPendingStream0Data_goes (allowed : sc.rx 0) (rounds : Nat) {rxOffset : Nat} {s : Conn}
    {strm : Strm} (found : s.strms 0 = some strm) (credit : Credit strm rxOffset s.view.log) :
    Goes (Reaches sc) (Fails sc) (connEmitPendingStream0Data app rounds rxOffset) s := by
  induction rounds generalizing rxOffset s strm with
  | zero => exact .done _
  | succ rounds ih =>
    refine .seq ((getStrm_still 0).does s) fun strm' t run => ?_
    obtain ⟨rfl, found'⟩ := getStrm_ok run
    obtain rfl := Option.some.inj (found.symm.trans found')
    refine .seq (.result _) fun data u run => ?_
    obtain rfl : u = t := congrArg Prod.snd run.symm
    have read : ngtcp2RobDataAt strm.rob rxOffset = .ok data := congrArg Prod.fst run
    split
    · split
      · exact .done _
      · exact .failed _
    next some =>
    obtain ⟨below, small⟩ := ngtcp2RobDataAt_length read some
    refine Eq.mpr (congrArg (Goes (Reaches sc) (Fails sc) · u)
      (bind_assoc (connCallRecvStream0Data app data) (fun _ => connCreditStrm0 data.length) _).symm) ?_
    refine .seqWith (handOn_credited app allowed found credit below) fun _ v ⟨maxTx, found, credit⟩ => ?_
    have extends_ : Goes (Reaches sc) (Fails sc) (connExtendMaxStreamOffset 0 data.length) _ :=
      connExtendMaxStreamOffset_goes allowed found fun chunk => .inl (Nat.le_trans small chunk)
    refine .seq extends_ fun _ x run => ?_
    have logged' (member : .mark (.credit false) ∈ v.view.log) := goes_logged extends_ run member
    obtain ⟨listed, found, -⟩ := wp_ok (connExtendMaxStreamOffset_spec data.length found) run
    refine .seq ((getStrm_still 0).does x) fun strm' y run => ?_
    obtain ⟨rfl, found'⟩ := getStrm_ok run
    have seen := Option.some.inj (found.symm.trans found')
    have rob : strm'.rob = strm.rob := (congrArg Strm.rob seen).symm
    have unsent : strm'.unsentMaxRxOffset = extended (add64 strm.unsentMaxRxOffset data.length) data.length :=
      (congrArg Strm.unsentMaxRxOffset seen).symm
    refine .seq (.result _) fun rob' z run => ?_
    have popped : ngtcp2RobPop strm'.rob rxOffset data.length = .ok rob' := congrArg Prod.fst run
    obtain rfl : z = y := congrArg Prod.snd run.symm
    obtain ⟨filled, gap⟩ := ngtcp2RobPop_filled strm'.lastRxOffset popped
    have pops : Goes (Reaches sc) (Fails sc) (modifyStrm 0 fun strm => { strm with rob := rob' }) z :=
      modifyStrm_rx allowed found' (.rob rob' filled)
    refine .seq pops fun _ w run => ?_
    have logged'' (member : .mark (.credit false) ∈ v.view.log) := goes_logged pops run (logged' member)
    rw [modifyStrm_run _ found'] at run
    cases run
    refine ih (Conn.setStrm_strms ..) (credit.imp (fun within chunk => ?_) logged'')
    change rob'.chunk ≤ maxVarint at chunk
    rw [filled.chunk, rob] at chunk
    have before := within chunk
    change strm'.unsentMaxRxOffset ≤ maxVarint + (rxOffset + data.length)
    change add64 strm.unsentMaxRxOffset data.length ≤ maxVarint + (rxOffset + data.length) at before
    rw [unsent]
    rcases extended_cases (add64 strm.unsentMaxRxOffset data.length) (Nat.le_trans small chunk) with
      same | ⟨-, capped⟩ <;> omega

theorem connMarkCredit_goes {s : Conn} {strm : Strm} (found : s.strms 0 = some strm) :
    Goes (Reaches sc) (Fails sc) (connMark (.credit strm.credited)) s := by
  refine .modified (.of_move ?_)
  have view := s.view_emit (e := .mark (.credit strm.credited)) rfl
  exact view ▸ .markCredit s.view strm.view (Conn.view_strms found)

theorem Credit.start {s : Conn} {strm strm' : Strm} {rxOffset : Nat}
    (member : .mark (.credit strm.credited) ∈ s.view.log)
    (unsent : strm'.unsentMaxRxOffset = strm.unsentMaxRxOffset) (later : ngtcp2StrmRxOffset strm ≤ rxOffset) :
    Credit strm' rxOffset s.view.log := by
  cases credited : strm.credited with
  | false => exact .inr (credited ▸ member)
  | true =>
    refine .inl fun _ => ?_
    have within := of_decide_eq_true credited
    omega

theorem connTakeStream0_goes {s : Conn} {strm : Strm} {data : List UInt8} (allowed : sc.rx 0)
    (found : s.strms 0 = some strm)
    (fits : ngtcp2StrmRxOffset strm + data.length ≤ max strm.lastRxOffset (ngtcp2StrmRxOffset strm)) :
    Goes (Reaches sc) (Fails sc) (connTakeStream0 app strm data) s := by
  refine .seq (connMarkCredit_goes found) fun _ t run => ?_
  obtain rfl : t = s.emit (.mark (.credit strm.credited)) := congrArg Prod.snd run.symm
  have marked : .mark (.credit strm.credited) ∈ (s.emit (.mark (.credit strm.credited))).view.log := by
    rw [Conn.view_emit _ rfl]
    simp [View.emit]
  have removes := connRemovePrefix_goes (s := s.emit (.mark (.credit strm.credited))) allowed found fits
  refine .seq removes fun _ u run => ?_
  have marked := goes_logged removes run marked
  rw [connRemovePrefix, modifyStrm_run _ (c := s.emit _) found] at run
  cases run
  -- `conn_recv_stream` does not credit the stream for these bytes
  refine Eq.mpr (congrArg (Goes (Reaches sc) (Fails sc) · _)
    (bind_assoc (connCallRecvStream0Data app data) (fun _ => connMark .uncredited) _).symm) ?_
  let further : Strm := { strm with rob := ngtcp2RobRemovePrefix strm.rob (ngtcp2StrmRxOffset strm + data.length) }
  have credit : Credit further (ngtcp2StrmRxOffset strm + data.length) _ :=
    Credit.start marked rfl (Nat.le_add_right _ data.length)
  refine .seqWith (handOn_uncredited app allowed (Conn.setStrm_strms ..) credit) fun _ v handed => ?_
  obtain ⟨maxTx, found, credit⟩ := handed
  exact connEmitPendingStream0Data_goes app allowed _ found credit

theorem connTakeStream_goes {fr : StreamFrame} {s : Conn} (allowed : sc.rx fr.streamId)
    (bound : fr.endOffset < 2 * varintBound)
    (reach : ∀ strm, s.strms fr.streamId = some strm → fr.endOffset ≤ strm.lastRxOffset) :
    Goes (Reaches sc) (Fails sc) (connTakeStream app fr) s := by
  refine .seq ((getStrm_still _).does s) fun strm t run => ?_
  obtain ⟨rfl, found⟩ := getStrm_ok run
  have reach := reach strm found
  dsimp only
  split
  next start =>
    have fits : ngtcp2StrmRxOffset strm + (fr.data.drop (ngtcp2StrmRxOffset strm - fr.offset)).length ≤
        max strm.lastRxOffset (ngtcp2StrmRxOffset strm) := by
      rw [List.length_drop]
      unfold StreamFrame.endOffset StreamFrame.datalen at reach
      omega
    split
    next zero =>
      rw [zero] at allowed found
      exact connTakeStream0_goes app allowed found fits
    next =>
      refine .seq (connRemovePrefix_goes allowed found fits) fun _ u run => ?_
      exact .seq (connCall_deliver app _ _ allowed (modifyStrm_opened found run)) fun _ w _ =>
        connEmitPendingStreamData_does app allowed _ _ w
  next => exact recvReordering_goes allowed found bound reach

theorem connDeliverStream_goes {fr : StreamFrame} {s : Conn} (allowed : sc.rx fr.streamId)
    (bound : fr.endOffset < 2 * varintBound)
    (reach : ∀ strm, s.strms fr.streamId = some strm → fr.endOffset ≤ strm.lastRxOffset) :
    Goes (Reaches sc) (Fails sc) (connDeliverStream app fr) s :=
  .seq (connTakeStream_goes app allowed bound reach) fun _ t _ =>
    ngtcp2ConnCloseStreamIfShutRdwr_does app _ _ t

theorem claim_reaches {id offset n : Nat} {f : Strm → Strm} {s : Conn} {strm : Strm} (allowed : sc.rx id)
    (found : s.strms id = some strm) (same : strm.view.SameTx (f strm).view)
    (zero : id = 0 → (f strm).shutRd = strm.shutRd)
    (claims : s.view.Claims id strm.view (f strm).view offset n) :
    Reaches sc s ((Conn.emit { s with rxOffset := n } (.mark (.claim id offset))).setStrm id (some (f strm))) := by
  refine .of_move ?_
  rw [Conn.view_setStrm, Conn.view_emit _ rfl]
  exact .claim s.view id offset n _ _ allowed (Conn.view_strms found) same zero claims

theorem wp_connClaim {α : Type} {id offset : Nat} {f : Strm → Strm} {s : Conn} {strm : Strm}
    {rest : Unit → ConnM α} {Q : α → Conn → Prop} {E : Err → Conn → Prop} (found : s.strms id = some strm) :
    wp (connClaim id offset f >>= rest) Q E s =
      wp (rest ()) Q E ((s.emit (.mark (.claim id offset))).setStrm id (some (f strm))) := by
  have run : connClaim id offset f s =
      (.ok (), (s.emit (.mark (.claim id offset))).setStrm id (some (f strm))) :=
    (bind_ok (connMark_run _ s)).trans (modifyStrm_run f (c := s.emit _) found)
  rw [wp_bind]
  unfold wp
  rw [run]

def Conn.Counted (c : Conn) (strm : Strm) (offset n : Nat) : Prop :=
  (strm.streamId = 0 ∨ offset ≤ strm.lastRxOffset) ∧ n = c.rxOffset ∨
  strm.streamId ≠ 0 ∧ strm.lastRxOffset ≤ offset ∧
    offset - strm.lastRxOffset ≤ sub64 c.maxRxOffset c.rxOffset ∧
    n = add64 c.rxOffset (offset - strm.lastRxOffset)

theorem connRecvStreamCount_spec (strm : Strm) (fr : StreamFrame) (s : Conn) :
    wp (connRecvStreamCount strm fr)
      (fun _ t => ∃ n, t = { s with rxOffset := n } ∧ s.Counted strm fr.endOffset n) (fun _ t => t = s) s := by
  unfold connRecvStreamCount
  rw [wp_bind, wp_get]
  split
  next counts =>
    split
    next => rfl
    next fits =>
      simp only [connMaxDataViolated, decide_eq_true_eq, not_lt] at fits
      exact ⟨_, rfl, .inr ⟨counts.2, Nat.le_of_lt counts.1, fits, rfl⟩⟩
  next old =>
    refine ⟨s.rxOffset, rfl, .inl ⟨?_, rfl⟩⟩
    by_cases zero : strm.streamId = 0
    · exact .inl zero
    · exact .inr (by by_contra new; exact old ⟨by omega, zero⟩)

theorem connRefuse_fails {α : Type} {id n : Nat} (last : Nat) {s : Conn} {strm : Strm} {e : Err}
    {Q : α → Conn → Prop} (allowed : sc.rx id) (found : s.strms id = some strm)
    (reach : last = strm.lastRxOffset ∨ strm.lastRxOffset ≤ last ∧ last < 2 * varintBound) :
    wp (connRefuse id e : ConnM α) Q (fun e t => Fails sc e s t)
      (Conn.setStrm { s with rxOffset := n } id (some { strm with lastRxOffset := last })) := by
  refine .inr (.of_move ?_)
  let refused : Strm := { strm with lastRxOffset := last }
  have view : (Conn.emit (Conn.setStrm { s with rxOffset := n } id (some refused)) (.mark (.refused id))).view =
      { (s.view.emit (.mark (.refused id))).setStrm id (some refused.view) with rxOffset := n } := by
    rw [Conn.view_emit _ rfl, Conn.view_setStrm]
    rfl
  change Move sc s.view (Conn.emit _ _).view
  rw [view]
  exact .refuse s.view id n last _ allowed (Conn.view_strms found) reach

theorem connRecvStreamFin_goes {fr : StreamFrame} {s : Conn} {strm : Strm} {n : Nat}
    (allowed : sc.rx fr.streamId) (plain : fr.streamId ≠ 0) (bound : fr.endOffset < 2 * varintBound)
    (found : s.strms fr.streamId = some strm) (unshut : strm.shutRd = false)
    (window : fr.endOffset ≤ strm.maxRxOffset) (ends : strm.lastRxOffset ≤ fr.endOffset)
    (counted : s.Counted strm fr.endOffset n) :
    wp (connRecvStreamFin app fr) (fun _ t => Reaches sc s t) (fun e t => Fails sc e s t)
      { s with rxOffset := n } := by
  let shut (strm : Strm) : Strm := { strm with lastRxOffset := fr.endOffset, shutRd := true }
  unfold connRecvStreamFin
  refine Eq.mpr (wp_connClaim (s := { s with rxOffset := n }) found) ?_
  rw [wp_bind, wp_getStrm (Conn.setStrm_strms ..)]
  split
  next stopped =>
    have claims : s.view.Claims fr.streamId strm.view (shut strm).view fr.endOffset n :=
      { bound, window, rob := rfl, unsent := rfl
        shut := fun _ before => by simp [Strm.view, unshut] at before
        last := .inl (Nat.max_eq_right ends).symm
        listed := fun _ => .inr (.inl stopped)
        counted := fun named => named ▸ counted }
    have claimed := claim_reaches (f := shut) allowed found ⟨rfl, rfl, rfl, rfl, rfl, rfl, rfl, rfl, rfl⟩
      (fun zero => absurd zero plain) claims
    exact Goes.after (ngtcp2ConnCloseStreamIfShutRdwr_does app _ _ _) claimed
  next =>
    -- in the end it makes no difference that the stream leaves the list before it is shut
    let listless : Strm := { strm with fcPprev := false }
    have unlinked : Reaches sc s (s.fcUnlinked fr.streamId strm) := Conn.fcUnlinked_reaches found
    have found' := Conn.fcUnlinked_strms found
    have rxOffset : (s.fcUnlinked fr.streamId strm).rxOffset = s.rxOffset ∧
        (s.fcUnlinked fr.streamId strm).maxRxOffset = s.maxRxOffset := by
      unfold Conn.fcUnlinked
      split <;> exact ⟨rfl, rfl⟩
    have claims : (s.fcUnlinked fr.streamId strm).view.Claims fr.streamId listless.view (shut listless).view
        fr.endOffset n :=
      { bound, window, rob := rfl, unsent := rfl
        shut := fun _ before => by simp [listless, Strm.view, unshut] at before
        last := .inl (Nat.max_eq_right ends).symm
        listed := fun linked => by cases linked
        counted := fun named => by
          change (_ ∧ n = Conn.rxOffset _) ∨ (_ ∧ _ ∧ _ ≤ sub64 (Conn.maxRxOffset _) (Conn.rxOffset _) ∧
            n = add64 (Conn.rxOffset _) _)
          rw [rxOffset.1, rxOffset.2]
          exact named ▸ counted }
    have claimed := claim_reaches (f := shut) allowed found' ⟨rfl, rfl, rfl, rfl, rfl, rfl, rfl, rfl, rfl⟩
      (fun zero => absurd zero plain) claims
    let claim := Conn.emit { s with rxOffset := n } (.mark (.claim fr.streamId fr.endOffset))
    have same : (claim.setStrm fr.streamId (some (shut strm))).fcUnlinked fr.streamId (shut strm) =
        Conn.setStrm (Conn.emit { s.fcUnlinked fr.streamId strm with rxOffset := n }
          (.mark (.claim fr.streamId fr.endOffset))) fr.streamId (some (shut listless)) := by
      unfold Conn.fcUnlinked
      cases listed : strm.fcPprev <;> simp [shut, listless, listed, Conn.setStrm, Conn.emit, claim]
    have run := connFcUnlink_run (s := claim.setStrm fr.streamId (some (shut strm))) (Conn.setStrm_strms ..)
    rw [wp_bind]
    refine wp_intro (fun _ u done => ?_) fun _ _ failed => by cases run.symm.trans failed
    obtain rfl := (congrArg Prod.snd (run.symm.trans done)).symm.trans same
    have found'' := Conn.setStrm_strms (Conn.emit { s.fcUnlinked fr.streamId strm with rxOffset := n }
      (.mark (.claim fr.streamId fr.endOffset))) fr.streamId (some (shut listless))
    refine Goes.after ?_ (ReflTransGen.trans unlinked claimed)
    split
    · exact .seq (connCall_deliver app _ _ allowed (Conn.view_opened found'')) fun _ w _ =>
        ngtcp2ConnCloseStreamIfShutRdwr_does app _ _ w
    · refine connDeliverStream_goes app allowed bound fun strm' seen => ?_
      obtain rfl := Option.some.inj (found''.symm.trans seen)
      exact Nat.le_refl _

theorem connRecvStreamNoFin_goes {fr : StreamFrame} {s : Conn} {strm : Strm} {n : Nat}
    (allowed : sc.rx fr.streamId) (bound : fr.endOffset < 2 * varintBound)
    (found : s.strms fr.streamId = some strm) (shut : strm.shutRd = true → fr.endOffset ≤ strm.lastRxOffset)
    (window : fr.endOffset ≤ strm.maxRxOffset) (counted : s.Counted strm fr.endOffset n) :
    wp (connRecvStreamNoFin app fr) (fun _ t => Reaches sc s t) (fun e t => Fails sc e s t)
      { s with rxOffset := n } := by
  let further (strm : Strm) : Strm := { strm with lastRxOffset := max strm.lastRxOffset fr.endOffset }
  have claims : s.view.Claims fr.streamId strm.view (further strm).view fr.endOffset n :=
    { bound, window, rob := rfl, unsent := rfl
      shut := fun _ before => ⟨before, shut before⟩
      last := .inl rfl
      listed := fun _ => .inl rfl
      counted := fun named => named ▸ counted }
  have claimed := claim_reaches (f := further) allowed found ⟨rfl, rfl, rfl, rfl, rfl, rfl, rfl, rfl, rfl⟩
    (fun _ => rfl) claims
  unfold connRecvStreamNoFin
  refine Eq.mpr (wp_connClaim (s := { s with rxOffset := n }) found) (Goes.after ?_ claimed)
  refine .seq ((getStrm_still _).does _) fun strm' t run => ?_
  obtain ⟨rfl, found'⟩ := getStrm_ok run
  obtain rfl := Option.some.inj ((Conn.setStrm_strms ..).symm.trans found')
  split
  · exact .done _
  split
  · exact .done _
  · refine connDeliverStream_goes app allowed bound fun strm' found'' => ?_
    obtain rfl := Option.some.inj (found'.symm.trans found'')
    exact Nat.le_max_right _ _

theorem connRecvStreamOn_does {fr : StreamFrame} (allowed : sc.rx fr.streamId)
    (plain : fr.fin = true → fr.streamId ≠ 0) (bound : fr.endOffset < 2 * varintBound) :
    Does sc (connRecvStreamOn app fr) := by
  refine .strm fun strm s found => ?_
  split
  · exact .failed _
  next window =>
  have window : fr.endOffset ≤ strm.maxRxOffset := Nat.le_of_not_lt window
  change wp _ _ _ s
  rw [wp_bind]
  refine wp_mono (connRecvStreamCount_spec strm fr s) ?_ fun _ _ same => same ▸ .inr .refl
  rintro _ t ⟨n, rfl, counted⟩
  have refused (e : Err) : wp (connRefuse fr.streamId e : ConnM Unit) (fun _ t => Reaches sc s t) (fun e t => Fails sc e s t)
      { s with rxOffset := n } := by
    have still : Conn.setStrm { s with rxOffset := n } fr.streamId (some strm) = { s with rxOffset := n } := by
      simp [Conn.setStrm, ← found]
    exact still ▸ connRefuse_fails strm.lastRxOffset allowed found (.inl rfl)
  split
  next fin =>
    split
    next shut =>
      split
      · exact refused _
      next ends =>
        have ends : strm.lastRxOffset = fr.endOffset := not_not.mp ends
        have claims : s.view.Claims fr.streamId strm.view (id strm).view fr.endOffset n :=
          { bound, window, rob := rfl, unsent := rfl
            shut := fun _ _ => ⟨shut, Nat.le_of_eq ends.symm⟩
            last := .inr ⟨rfl, shut⟩
            listed := fun _ => .inl rfl
            counted := fun named => named ▸ counted }
        have claimed := claim_reaches (f := id) allowed found ⟨rfl, rfl, rfl, rfl, rfl, rfl, rfl, rfl, rfl⟩ (fun _ => rfl) claims
        have run : wp (connClaim fr.streamId fr.endOffset id >>= pure) (fun _ t => Reaches sc s t)
            (fun e t => Fails sc e s t) { s with rxOffset := n } :=
          Eq.mpr (wp_connClaim (s := { s with rxOffset := n }) found) claimed
        rwa [wp_bind] at run
    next unshut =>
      split
      · exact refused _
      next ends =>
        exact connRecvStreamFin_goes app allowed (plain fin) bound found (by simpa using unshut) window
          (Nat.le_of_not_lt ends) counted
  next =>
    split
    · exact refused _
    next shut =>
      refine connRecvStreamNoFin_goes app allowed bound found (fun before => ?_) window counted
      exact Nat.le_of_not_lt fun new => shut ⟨before, new⟩

theorem recvStreamError_fin {c : Conn} {fr : StreamFrame} (passed : recvStreamError c fr = none)
    (fin : fr.fin = true) : fr.streamId ≠ 0 := by
  intro zero
  simp [recvStreamError, zero, fin] at passed

theorem StreamFrame.WireOk.endOffset {fr : StreamFrame} (wire : fr.WireOk) :
    fr.endOffset < 2 * varintBound := by
  obtain ⟨-, offset, datalen⟩ := wire
  unfold StreamFrame.endOffset
  omega

theorem connRecvStream_does {fr : StreamFrame} (wire : fr.WireOk) (allowed : sc.rx fr.streamId) :
    Does sc (connRecvStream app fr) := by
  intro s
  refine .got ?_
  split
  · exact .failed _
  case h_2 passed =>
  have plain := recvStreamError_fin passed
  split
  · exact connRecvStreamOn_does app allowed plain wire.endOffset s
  case h_2 absent =>
  split
  · exact .done _
  case isFalse remote =>
  split
  · exact .done _
  · exact .failed _
  case h_3 idtr opened =>
  exact .seq (connNewRemoteStream_goes app wire.1 (by simpa using remote) opened absent)
    fun _ t _ => connRecvStreamOn_does app allowed plain wire.endOffset t

end Ngtcp2
