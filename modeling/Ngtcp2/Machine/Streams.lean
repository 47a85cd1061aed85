import Ngtcp2.Machine.Basic

namespace Ngtcp2

open Prog Relation

variable {sc : Scope} (app : App)

theorem modifyStrm_rx {id : Nat} {f : Strm → Strm} {s : Conn} {strm : Strm} (allowed : sc.rx id)
    (found : s.strms id = some strm) (step : s.view.RxStep sc.wrap id strm.view (f strm).view) :
    Goes (Reaches sc) (Fails sc) (modifyStrm id f) s := by
  refine Eq.mpr (wp_modifyStrm f found) (.of_move ?_)
  rw [Conn.view_setStrm]
  exact .rx s.view id _ _ allowed (Conn.view_strms found) step

def extended (unsent datalen : Nat) : Nat :=
  if unsent ≤ sub64 maxVarint datalen then add64 unsent datalen else unsent

theorem extended_cases {datalen : Nat} (unsent : Nat) (fits : datalen ≤ maxVarint) :
    extended unsent datalen = unsent ∨
      unsent ≤ extended unsent datalen ∧ extended unsent datalen ≤ maxVarint := by
  unfold extended
  split
  next below =>
    rw [sub64_eq fits (by decide)] at below
    have sum : unsent + datalen ≤ maxVarint := by omega
    have small : maxVarint < 18446744073709551616 := by decide
    rw [add64_eq (by omega)]
    exact .inr ⟨Nat.le_add_right _ _, sum⟩
  next => exact .inl rfl

def Conn.noteExtend (c : Conn) (id : Nat) : Conn := if id = 0 then c.emit (.mark .extendStream0) else c

theorem Conn.noteExtend_strms (c : Conn) (id : Nat) : (c.noteExtend id).strms = c.strms := by
  unfold Conn.noteExtend
  split <;> rfl

theorem Conn.noteExtend_reaches (c : Conn) (id : Nat) : Reaches sc c (c.noteExtend id) := by
  unfold Conn.noteExtend
  split
  · refine .of_move ?_
    rw [Conn.view_emit _ rfl]
    exact .noteExtend c.view
  · exact .refl

theorem connExtendMaxStreamOffset_spec {id : Nat} (datalen : Nat) {s : Conn} {strm : Strm}
    (found : s.strms id = some strm) :
    wp (connExtendMaxStreamOffset id datalen)
      (fun _ t => ∃ listed, t.strms id = some { strm with
          unsentMaxRxOffset := extended strm.unsentMaxRxOffset datalen, fcPprev := listed } ∧
        ∀ sc, Reaches sc ((s.noteExtend id).setStrm id
          (some { strm with unsentMaxRxOffset := extended strm.unsentMaxRxOffset datalen })) t)
      (fun _ _ => False) s := by
  have marked : markExtendStream0 id s = (.ok (), s.noteExtend id) := by
    unfold markExtendStream0 Conn.noteExtend
    split <;> rfl
  have found : (s.noteExtend id).strms id = some strm := (congrFun (s.noteExtend_strms id) id).trans found
  unfold connExtendMaxStreamOffset
  rw [wp_bind, wp_run_ok marked]
  generalize s.noteExtend id = s at found
  let grown : Strm := { strm with unsentMaxRxOffset := extended strm.unsentMaxRxOffset datalen }
  have first : modifyStrm id (fun strm => if strm.unsentMaxRxOffset ≤ sub64 maxVarint datalen then
      { strm with unsentMaxRxOffset := add64 strm.unsentMaxRxOffset datalen } else strm) s =
      (.ok (), s.setStrm id (some grown)) := by
    rw [modifyStrm_run _ found]
    simp only [grown, extended]
    split <;> rfl
  rw [wp_bind]
  refine wp_intro (fun _ t run => ?_) fun _ _ run => nomatch first.symm.trans run
  obtain rfl : s.setStrm id (some grown) = t := congrArg Prod.snd (first.symm.trans run)
  rw [wp_bind, wp_get, wp_bind, wp_getStrm (Conn.setStrm_strms ..)]
  have held : (s.setStrm id (some grown)).strms id = some grown := Conn.setStrm_strms ..
  split
  next due =>
    simp only [Bool.and_eq_true, Bool.not_eq_true', Bool.or_eq_false_iff] at due
    rw [wp_bind, wp_modify]
    refine Eq.mpr (wp_modifyStrm _ (by exact held)) ⟨true, Conn.setStrm_strms .., fun sc => .of_move ?_⟩
    change Move sc _ { (Conn.setStrm (s.setStrm id (some grown)) id
      (some { grown with fcPprev := true })).view with fcStrms := id :: s.fcStrms }
    rw [Conn.view_setStrm (c := s.setStrm id (some grown))]
    exact .fcLink (s.setStrm id (some grown)).view id grown.view (Conn.view_strms held) due.1.2 due.1.1
  next => exact ⟨strm.fcPprev, held, fun _ => .refl⟩

theorem connExtendMaxStreamOffset_goes {id datalen : Nat} {s : Conn} {strm : Strm} (allowed : sc.rx id)
    (found : s.strms id = some strm)
    (fits : strm.rob.chunk ≤ maxVarint → datalen ≤ maxVarint ∨ sc.wrap) :
    Goes (Reaches sc) (Fails sc) (connExtendMaxStreamOffset id datalen) s := by
  refine wp_mono (connExtendMaxStreamOffset_spec datalen found)
    (fun _ t ⟨_, _, linked⟩ => (s.noteExtend_reaches id).trans (.head ?_ (linked sc))) fun _ _ never => never.elim
  have found : (s.noteExtend id).strms id = some strm := (congrFun (s.noteExtend_strms id) id).trans found
  rw [Conn.view_setStrm]
  refine .rx (s.noteExtend id).view id strm.view _ allowed (Conn.view_strms found)
    (.extend _ (fun small => ?_) fun zero => ?_)
  · rcases fits small with fits | wrap
    · exact (extended_cases _ fits).imp_right .inl
    · exact .inr (.inr wrap)
  · rw [Conn.noteExtend, if_pos zero, Conn.view_emit _ rfl]
    exact List.mem_concat_self

theorem ngtcp2ConnExtendMaxStreamOffset_does {id : Nat} (datalen : Nat) (allowed : sc.rx id)
    (fits : datalen ≤ maxVarint ∨ sc.wrap) : Does sc (ngtcp2ConnExtendMaxStreamOffset id datalen) := by
  intro s
  refine .got ?_
  cases found : s.strms id with
  | none => exact .failed _
  | some strm => exact connExtendMaxStreamOffset_goes allowed found fun _ => fits

theorem ngtcp2ConnExtendMaxOffset_does (datalen : Nat) :
    Does sc (ngtcp2ConnExtendMaxOffset datalen) := by
  refine .move fun c => ?_
  split
  · exact .extend _ maxVarint fun bound => ⟨bound, Nat.le_refl _⟩
  case isFalse inside =>
    refine .extend _ (c.unsentMaxRxOffset + datalen) fun _ => ⟨Nat.le_add_right _ _, ?_⟩
    simp only [sub64, maxVarint, Conn.view] at *
    omega

theorem handleRemoteStreamIdExtension_extended (unsent windowStart : Nat) (idtr : Idtr) :
    IdExtended unsent (handleRemoteStreamIdExtension unsent windowStart idtr) := by
  unfold handleRemoteStreamIdExtension
  split
  case isTrue room =>
    simp only [maxVarint] at room
    exact .inr ⟨rfl, by simp only [maxVarint]; omega⟩
  case isFalse => exact .inl rfl

theorem handleRemoteStreamIdExtension_same {unsent windowStart : Nat} {idtr : Idtr}
    (level : ¬ windowStart < ngtcp2IdtrFirstGap idtr) :
    handleRemoteStreamIdExtension unsent windowStart idtr = unsent := by
  unfold handleRemoteStreamIdExtension
  rw [if_neg fun moves => level moves.2]

inductive IdMoved (v : View) : View → Prop
  | ours : IdMoved v v
  | theirs (behind : Bool) (bidi uni : Nat) (bidiOk : IdExtended v.unsentMaxRemoteStreamIdBidi bidi)
    (uniOk : IdExtended v.unsentMaxRemoteStreamIdUni uni)
    (level : behind = false → bidi = v.unsentMaxRemoteStreamIdBidi ∧ uni = v.unsentMaxRemoteStreamIdUni) :
    IdMoved v
      { v.emit (.mark (.idWindow behind)) with
        unsentMaxRemoteStreamIdBidi := bidi, unsentMaxRemoteStreamIdUni := uni }

theorem connExtendRemoteStreamId_spec (id : Nat) (s : Conn) :
    wp (connExtendRemoteStreamId id) (fun _ t => IdMoved s.view t.view) (fun _ _ => False) s := by
  unfold connExtendRemoteStreamId
  rw [wp_bind, wp_get]
  split
  · exact .ours
  rw [wp_bind, wp_connMark, wp_modify]
  have log := s.view_emit (e := .mark (.idWindow (idWindowBehind s id))) rfl
  have moved (bidi uni : Nat) (bidiOk : IdExtended s.unsentMaxRemoteStreamIdBidi bidi)
      (uniOk : IdExtended s.unsentMaxRemoteStreamIdUni uni)
      (level : idWindowBehind s id = false →
        bidi = s.unsentMaxRemoteStreamIdBidi ∧ uni = s.unsentMaxRemoteStreamIdUni) :
      IdMoved s.view { (s.emit (.mark (.idWindow (idWindowBehind s id)))).view with
        unsentMaxRemoteStreamIdBidi := bidi, unsentMaxRemoteStreamIdUni := uni } := by
    rw [log]
    exact .theirs _ bidi uni bidiOk uniOk level
  unfold idWindowBehind at moved ⊢
  split
  next kind =>
    rw [if_pos kind] at moved
    exact moved _ _ (handleRemoteStreamIdExtension_extended _ _ _) (.inl rfl) fun level =>
      ⟨handleRemoteStreamIdExtension_same (of_decide_eq_false level), rfl⟩
  next kind =>
    rw [if_neg kind] at moved
    exact moved _ _ (.inl rfl) (handleRemoteStreamIdExtension_extended _ _ _) fun level =>
      ⟨rfl, handleRemoteStreamIdExtension_same (of_decide_eq_false level)⟩

theorem IdMoved.moves {v w : View} (moved : IdMoved v w) : ReflTransGen (Move sc) v w := by
  cases moved with
  | ours => exact .refl
  | theirs behind bidi uni bidiOk uniOk level =>
    refine .head (.noteWindow v behind) (.single (.extendId _ bidi uni bidiOk uniOk ?_))
    cases behind with
    | false => exact .inl (level rfl)
    | true => exact .inr (by simp [View.emit])

def Removes (strm : Strm) (v w : View) : Prop :=
  ∃ code u, IdMoved (v.closeStream strm code) u ∧ w = { u with armed := true }

def Closes (id : Nat) (v w : View) : Prop :=
  w = v ∨ ∃ strm, v.strms id = some strm ∧ strm.closable = true ∧ Removes strm v w

theorem Conn.view_closeStream (c : Conn) (strm : Strm) (code : Nat) :
    { (((c.setStrm strm.streamId none).emit (.mark (closeMark strm c.frq))).emit
        (.streamClose strm.streamId code)).view with
      fcStrms := if strm.fcPprev then c.fcStrms.erase strm.streamId else c.fcStrms } =
      c.view.closeStream strm.view code := by
  rw [Conn.view_emit _ rfl, Conn.view_emit _ rfl, Conn.view_setStrm]
  simp [View.closeStream, View.emit, View.setStrm, Strm.view, Conn.view, closeMark]
  rfl

theorem connFcErase_immediateAck (strm : Strm) (s : Conn) :
    wp (do connFcErase strm; connImmediateAck)
      (fun _ t => t.view = { s.view with
        fcStrms := if strm.fcPprev then s.fcStrms.erase strm.streamId else s.fcStrms, armed := true })
      (fun e _ => e.fatal = true) s := by
  simp only [connFcErase, connImmediateAck, wp_bind, wp_modify, wp_ite, wp_pure]
  split_ifs <;> rfl

theorem IdMoved.listed {v w : View} (moved : IdMoved v w) (fcStrms : List Nat) :
    IdMoved { v with fcStrms := fcStrms } { w with fcStrms := fcStrms } := by
  cases moved with
  | ours => exact .ours
  | theirs behind bidi uni bidiOk uniOk level =>
    exact .theirs (v := { v with fcStrms := fcStrms }) behind bidi uni bidiOk uniOk level

theorem IdMoved.same {v w : View} (moved : IdMoved v w) : w.fcStrms = v.fcStrms := by
  cases moved <;> rfl

theorem ngtcp2ConnCloseStream_spec (strm : Strm) (appErrorCode : Nat) (s : Conn) :
    wp (ngtcp2ConnCloseStream app strm appErrorCode) (fun _ t => Removes strm.view s.view t.view)
      (fun e _ => e.fatal = true) s := by
  let code := if strm.appErrorCode = 0 then strm.appErrorCode else appErrorCode
  let marked := (s.setStrm strm.streamId none).emit
    (.mark (closeMark strm s.frq))
  change wp (connCall app (.streamClose strm.streamId code) >>= fun _ => connExtendRemoteStreamId _ >>=
    fun _ => connFcErase strm >>= fun _ => connImmediateAck) _ _ marked
  rw [wp_bind]
  refine wp_intro (fun _ u run => ?_) fun e u run => connCall_error app run
  cases connCall_ok app run
  have view := s.view_closeStream strm code
  rw [wp_bind]
  refine wp_mono (connExtendRemoteStreamId_spec _ _) (fun _ t moved => ?_) fun _ _ never => never.elim
  refine wp_mono (connFcErase_immediateAck strm t) (fun _ w last => ?_) fun _ _ fatal => fatal
  -- the list is updated after the ids, which do not depend on it
  have same : t.fcStrms = s.fcStrms := moved.same
  have moved := moved.listed (if strm.fcPprev then s.fcStrms.erase strm.streamId else s.fcStrms)
  rw [view] at moved
  refine ⟨code, _, moved, ?_⟩
  rw [last, same]

theorem ngtcp2ConnCloseStreamIfShutRdwr_spec (id appErrorCode : Nat) (s : Conn) :
    wp (ngtcp2ConnCloseStreamIfShutRdwr app id appErrorCode) (fun _ t => Closes id s.view t.view)
      (fun e _ => e.fatal = true) s := by
  unfold ngtcp2ConnCloseStreamIfShutRdwr
  rw [wp_bind]
  refine wp_intro (fun strm t run => ?_) fun e t run => getStrm_error run
  obtain ⟨rfl, found⟩ := getStrm_ok run
  split
  case isTrue closable =>
    exact wp_mono (ngtcp2ConnCloseStream_spec app strm appErrorCode t)
      (fun _ _ removes => .inr ⟨strm.view, Conn.view_strms found, closable, removes⟩)
      fun _ _ fatal => fatal
  case isFalse => exact .inl rfl

theorem Closes.moves {id : Nat} {v w : View} (closes : Closes id v w) :
    ReflTransGen (Move sc) v w := by
  rcases closes with rfl | ⟨strm, found, closable, code, u, moved, rfl⟩
  · exact .refl
  · exact .head (.close v id code strm found closable) (moved.moves.tail (.arm u))

theorem ngtcp2ConnCloseStreamIfShutRdwr_does (id appErrorCode : Nat) :
    Does sc (ngtcp2ConnCloseStreamIfShutRdwr app id appErrorCode) :=
  fun s => wp_mono (ngtcp2ConnCloseStreamIfShutRdwr_spec app id appErrorCode s)
    (fun _ _ closes => closes.moves) fun _ _ fatal => .inl fatal

def Conn.pushFrq (c : Conn) (fr : Frame) : Conn :=
  { c with nalloc := c.nalloc + 1, frq := fr :: c.frq }

theorem connPushFrq_spec (fr : Frame) (s : Conn) :
    wp (connPushFrq app fr) (fun _ t => t = s.pushFrq fr) (fun e _ => e.fatal = true) s := by
  unfold connPushFrq
  rw [wp_bind]
  refine wp_mono (malloc_plain app s) ?_ fun _ _ fatal => fatal
  rintro addr t ⟨-, rfl⟩
  exact rfl

theorem Conn.pushFrq_moves (c : Conn) {fr : Frame} (due : c.view.Queues fr) :
    Reaches sc c (c.pushFrq fr) :=
  .head (.alloc c.view (c.nalloc + 1) (Nat.le_succ _)) (.single (.push _ fr (by cases fr <;> exact due)))

theorem reset_reaches {id code : Nat} {s : Conn} {strm : Strm} (found : s.strms id = some strm)
    (appErrorCode : Nat) :
    Reaches sc s
      ((s.pushFrq (.rstStream
        { streamId := strm.streamId, appErrorCode := code, finalOffset := strm.txOffset })).setStrm id
          (some { strm with shutWr := true, sentRst := true, appErrorCode := appErrorCode })) := by
  let fr : RstStream :=
    { streamId := strm.streamId, appErrorCode := code, finalOffset := strm.txOffset }
  have queued : Reaches sc s (s.pushFrq (.rstStream fr)) := by
    exact s.pushFrq_moves ⟨id, strm.view, Conn.view_strms found, rfl⟩
  refine ReflTransGen.tail queued ?_
  rw [Conn.view_setStrm]
  exact .reset _ id strm.view fr (Conn.view_strms found) rfl List.mem_cons_self

theorem connShutdownStreamWrite_does (id appErrorCode : Nat) :
    Does sc (connShutdownStreamWrite app id appErrorCode) := by
  intro s
  change wp (getStrm id >>= _) _ _ s
  rw [wp_bind]
  refine wp_intro (fun strm t run => ?_) fun e t run => .inl (getStrm_error run)
  obtain ⟨rfl, found⟩ := getStrm_ok run
  split
  · exact .refl
  -- the flags are set before the frame is queued
  · rw [wp_bind, wp_modifyStrm _ found]
    unfold connRstStream
    rw [wp_bind]
    refine wp_intro (fun strm' u run => ?_) fun e u run => .inl (getStrm_error run)
    obtain ⟨rfl, found'⟩ := getStrm_ok run
    obtain rfl := Option.some.inj ((Conn.setStrm_strms _ _ _).symm.trans found')
    refine wp_mono (connPushFrq_spec app _ _) ?_ fun _ _ fatal => .inl fatal
    rintro _ w rfl
    exact reset_reaches found appErrorCode

theorem stop_reaches {id : Nat} {s : Conn} {strm : Strm} {fr : StopSending} (appErrorCode : Nat)
    (allowed : sc.shut id) (plain : id ≠ 0) (found : s.strms id = some strm) :
    let stopped : Strm := { strm with stopSending := true, appErrorCode := appErrorCode }
    Reaches sc s (((s.setStrm id (some stopped)).pushFrq (.stopSending fr)).fcUnlinked id stopped) := by
  intro stopped
  have queued : Reaches sc s (s.pushFrq (.stopSending fr)) := s.pushFrq_moves trivial
  have found' : (s.pushFrq (.stopSending fr)).strms id = some strm := found
  have unlinked : Reaches sc s ((s.pushFrq (.stopSending fr)).fcUnlinked id strm) :=
    ReflTransGen.trans queued (Conn.fcUnlinked_reaches found')
  -- the stream leaves the list before the flag is set, which makes no difference in the end
  have same : ((s.setStrm id (some stopped)).pushFrq (.stopSending fr)).fcUnlinked id stopped =
      ((s.pushFrq (.stopSending fr)).fcUnlinked id strm).setStrm id
        (some { stopped with fcPprev := false }) := by
    unfold Conn.fcUnlinked
    cases listed : strm.fcPprev with
    | false =>
      have plain : stopped = { stopped with fcPprev := false } := by rw [← listed]
      simp only [stopped, listed, Bool.false_eq_true, ↓reduceIte]
      rw [← listed]
      rfl
    | true => simp [stopped, listed, Conn.setStrm, Conn.pushFrq]
  rw [same]
  refine ReflTransGen.tail unlinked ?_
  rw [Conn.view_setStrm]
  exact .stop _ id { strm with fcPprev := false }.view allowed
    (Conn.view_strms (Conn.fcUnlinked_strms found')) rfl plain

theorem connShutdownStreamRead_does {id : Nat} (appErrorCode : Nat) (allowed : sc.shut id) (plain : id ≠ 0) :
    Does sc (connShutdownStreamRead app id appErrorCode) := by
  refine .strm fun strm s found => ?_
  split
  · exact .done _
  · change wp (modifyStrm id _ >>= fun _ => connStopSending app id appErrorCode) _ _ s
    rw [wp_bind, wp_modifyStrm _ found]
    unfold connStopSending
    rw [wp_bind]
    refine wp_mono (connPushFrq_spec app _ _) ?_ fun _ _ fatal => .inl fatal
    rintro _ t rfl
    have run := connFcUnlink_run (s := (s.setStrm id (some { strm with
      stopSending := true, appErrorCode := appErrorCode })).pushFrq
        (.stopSending { streamId := id, appErrorCode := appErrorCode })) (Conn.setStrm_strms ..)
    unfold wp
    rw [run]
    exact stop_reaches appErrorCode allowed plain found

theorem shutdownChecked_does {id appErrorCode : Nat} {shutdown : ConnM Unit}
    (inner : id ≠ 0 → Does sc shutdown) : Does sc (shutdownChecked id appErrorCode shutdown) := by
  unfold shutdownChecked
  split
  · exact .throw _
  next checked =>
    refine .bind (ngtcp2ConnFindStream_still id).does fun found => ?_
    split
    · exact .throw _
    · exact inner fun zero => checked (.inl zero)

theorem ngtcp2ConnShutdownStream_does {id : Nat} (appErrorCode : Nat) (allowed : sc.shut id) :
    Does sc (ngtcp2ConnShutdownStream app id appErrorCode) :=
  shutdownChecked_does fun plain => .bind (connShutdownStreamRead_does app _ allowed plain) fun _ =>
    connShutdownStreamWrite_does app _ _

theorem ngtcp2ConnInitStream_unfold (id : Nat) (s : Conn) :
    ngtcp2ConnInitStream id s =
      (match s.strms id with
        | some _ => throw .INVALID_ARGUMENT
        | none => modify fun c =>
          c.setStrm id (some (ngtcp2StrmInit id false false c.localSettings.maxStreamData.toNat
            c.remoteSettings.maxStreamData.toNat)) : ConnM Unit)
        (s.emit (.mark (.mapInsert id (s.strms id).isSome))) := rfl

theorem ngtcp2ConnInitStream_run {id : Nat} {s : Conn} (absent : s.strms id = none) :
    ngtcp2ConnInitStream id s =
      (.ok (), (s.emit (.mark (.mapInsert id false))).setStrm id
        (some (ngtcp2StrmInit id false false s.localSettings.maxStreamData.toNat
          s.remoteSettings.maxStreamData.toNat))) := by
  rw [ngtcp2ConnInitStream_unfold, absent]
  rfl

theorem ngtcp2ConnInitStream_clash {id : Nat} {s : Conn} {strm : Strm} (found : s.strms id = some strm) :
    ngtcp2ConnInitStream id s =
      (.error .INVALID_ARGUMENT, s.emit (.mark (.mapInsert id true))) := by
  rw [ngtcp2ConnInitStream_unfold, found]
  rfl

theorem ngtcp2ConnInitStream_clash_goes {α : Type} {id : Nat} {s : Conn} {strm : Strm}
    {rest : Unit → ConnM α} (found : s.strms id = some strm)
    (next : id = s.nextLocalStreamIdBidi ∧ id ≤ s.maxLocalStreamIdBidi ∨
      id = s.nextLocalStreamIdUni ∧ id ≤ s.maxLocalStreamIdUni) :
    Goes (Reaches sc) (Fails sc) (ngtcp2ConnInitStream id >>= rest) s := by
  unfold Goes wp
  rw [bind_error (ngtcp2ConnInitStream_clash found)]
  refine .inr (.of_move ?_)
  rw [s.view_emit rfl]
  exact .clash s.view id (by simp [Conn.view, found]) next

theorem ngtcp2ConnOpenBidiStream_does : Does sc (ngtcp2ConnOpenBidiStream app) := by
  intro s
  refine .got ?_
  split
  · exact .failed _
  case isFalse allowed =>
  refine .seq (malloc_does app s) fun a t run => ?_
  obtain ⟨rfl, rfl⟩ := malloc_ok app run
  cases found : s.strms s.nextLocalStreamIdBidi with
  | some strm =>
    exact ngtcp2ConnInitStream_clash_goes found (.inl ⟨rfl, Nat.le_of_not_lt allowed⟩)
  | none =>
    refine .jump (pure s.nextLocalStreamIdBidi)
      { (({ s with nalloc := s.nalloc + 1 } : Conn).emit
          (.mark (.mapInsert s.nextLocalStreamIdBidi false))).setStrm s.nextLocalStreamIdBidi (some _) with
        nextLocalStreamIdBidi := add64 s.nextLocalStreamIdBidi 4 }
      (bind_ok (ngtcp2ConnInitStream_run found)) (.of_move ?_) (.done _)
    change Move sc _ { Conn.view (Conn.setStrm _ _ _) with nextLocalStreamIdBidi := _ }
    rw [Conn.view_setStrm, Conn.view_emit _ rfl]
    exact .newBidi _ _ (Nat.le_of_not_lt allowed) (by simp [Conn.view, found])
      s.remoteSettings.maxStreamData rfl

theorem ngtcp2ConnOpenUniStream_does : Does sc (ngtcp2ConnOpenUniStream app) := by
  intro s
  refine .got ?_
  split
  · exact .failed _
  case isFalse allowed =>
  refine .seq (malloc_does app s) fun a t run => ?_
  obtain ⟨rfl, rfl⟩ := malloc_ok app run
  cases found : s.strms s.nextLocalStreamIdUni with
  | some strm =>
    exact ngtcp2ConnInitStream_clash_goes found (.inr ⟨rfl, Nat.le_of_not_lt allowed⟩)
  | none =>
    -- the stream is set up and then shut for reading, in one move
    have init := ngtcp2ConnInitStream_run (s := { s with nalloc := s.nalloc + 1 }) found
    refine .jump (pure s.nextLocalStreamIdUni)
      { (({ s with nalloc := s.nalloc + 1 } : Conn).emit
          (.mark (.mapInsert s.nextLocalStreamIdUni false))).setStrm s.nextLocalStreamIdUni
          (some (ngtcp2StrmInit s.nextLocalStreamIdUni true false s.localSettings.maxStreamData.toNat
            s.remoteSettings.maxStreamData.toNat)) with
        nextLocalStreamIdUni := add64 s.nextLocalStreamIdUni 4 }
      ?_ (.of_move ?_) (.done _)
    · rw [bind_ok init, bind_ok (modifyStrm_run _ (Conn.setStrm_strms _ _ _)),
        Conn.setStrm_setStrm]
      rfl
    · change Move sc _ { Conn.view (Conn.setStrm _ _ _) with nextLocalStreamIdUni := _ }
      rw [Conn.view_setStrm, Conn.view_emit _ rfl]
      exact .newUni _ _ (Nat.le_of_not_lt allowed) (by simp [Conn.view, found])
        s.remoteSettings.maxStreamData rfl

def Conn.openRemote (c : Conn) (id : Nat) (idtr : Idtr) : Conn :=
  (({ c.setIdtr id idtr with nalloc := c.nalloc + 1 } : Conn).emit (.mark (.mapInsert id false))).setStrm id
    (some (ngtcp2StrmInit id false (!bidiStream id) c.localSettings.maxStreamData.toNat
      c.remoteSettings.maxStreamData.toNat))

theorem connNewRemoteStream_run {id : Nat} {idtr : Idtr} {s : Conn} (absent : s.strms id = none) :
    connNewRemoteStream app id idtr s = (.ok (), s.openRemote id idtr) ∨
      ∃ t, connNewRemoteStream app id idtr s = (.error .NOMEM, t) := by
  let opened : Conn := { s.setIdtr id idtr with nalloc := s.nalloc + 1 }
  have init : ngtcp2ConnInitStream id opened = _ := ngtcp2ConnInitStream_run absent
  have unfolded : connNewRemoteStream app id idtr s =
      ((if app.malloc s.nalloc then pure s.nalloc else throw .NOMEM) >>= fun _ =>
        ngtcp2ConnInitStream id >>= fun _ =>
          if !bidiStream id then modifyStrm id fun strm => { strm with shutWr := true }
          else pure () : ConnM Unit) opened := rfl
  rw [unfolded]
  cases app.malloc s.nalloc with
  | false => exact .inr ⟨opened, rfl⟩
  | true =>
    left
    refine (bind_ok (a := s.nalloc) (t := opened) rfl).trans ?_
    rw [bind_ok init]
    unfold Conn.openRemote
    cases bidiStream id with
    | true => rfl
    | false =>
      refine (modifyStrm_run _ (Conn.setStrm_strms _ _ _)).trans ?_
      rw [Conn.setStrm_setStrm]
      rfl

theorem connNewRemoteStream_goes {id : Nat} {idtr : Idtr} {s : Conn} (bound : id < varintBound)
    (remote : connLocalStream s id = false) (opened : ngtcp2IdtrOpen (connIdtr s id) id = .ok idtr)
    (absent : s.strms id = none) :
    Goes (Reaches sc) (Fails sc) (connNewRemoteStream app id idtr) s := by
  rcases connNewRemoteStream_run app absent with run | ⟨t, run⟩
  · refine .jump (pure ()) _ run (ReflTransGen.head (.alloc s.view (s.nalloc + 1) (Nat.le_succ _))
      (.single ?_)) (.done _)
    unfold Conn.openRemote
    rw [Conn.view_setStrm, Conn.view_emit _ rfl]
    exact .newRemote { s.view with nalloc := s.nalloc + 1 } id idtr _ bound remote opened
      (by simp [Conn.view, absent]) s.remoteSettings.maxStreamData rfl
  · exact goes_fatal run rfl

end Ngtcp2
