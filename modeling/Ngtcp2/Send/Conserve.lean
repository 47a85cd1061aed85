import Ngtcp2.Lib.Along
import Ngtcp2.Machine.WritePkt
import Ngtcp2.Recovery.Resend
import Ngtcp2.System

/-!
# The queue of control frames

The frames that `conn_write_pkt` makes itself join the queue first: credit at its front, limits on stream ids at
its end.
-/

namespace Ngtcp2

open Prog

def raisedFrame (old new : Nat) (fr : Nat → Frame) : List Frame := if new = old then [] else [fr new]

def Conn.creditFrame (c : Conn) (id : Nat) : Frame :=
  .maxStreamData { streamId := id, maxStreamData := ((c.strms id).map Strm.unsentMaxRxOffset).getD 0 }

def creditFrames (s t : Conn) : List Frame :=
  (s.fcStrms.map s.creditFrame).reverse ++ raisedFrame s.maxRxOffset t.maxRxOffset .maxData

def streamIdFrames (s t : Conn) : List Frame :=
  raisedFrame s.maxRemoteStreamIdBidi t.maxRemoteStreamIdBidi .maxStreamId ++
    raisedFrame s.maxRemoteStreamIdUni t.maxRemoteStreamIdUni .maxStreamId

structure Posts (s t : Conn) (acks written : List Frame) : Prop where
  first : ∀ fr ∈ acks, fr.isAck = true
  packets : packets t.log =
    packets s.log ++ if acks ++ written = [] then [] else [(add64 s.lastTxPktNum 1, acks ++ written)]
  untracked : written = [] → t.rtb = s.rtb
  tracked : written ≠ [] →
    ∃ ent, ent.hd.pktNum = add64 s.lastTxPktNum 1 ∧ ent.frc = written ∧ t.rtb = ngtcp2RtbAdd s.rtb ent

def Conserves (s t : Conn) : Prop :=
  ∃ taken acks, creditFrames s t ++ s.frq ++ streamIdFrames s t = taken ++ t.frq ∧
    Posts s t acks (living (droppedFrame s) taken)

structure Mail where
  frq : List Frame
  rtb : Rtb
  packets : List (Nat × List Frame)
  lastTxPktNum : Nat
  maxRxOffset : Nat
  maxRemoteStreamIdBidi : Nat
  maxRemoteStreamIdUni : Nat
  fcStrms : List Nat
  credit : Nat → Frame
  dropped : Frame → Bool

def Conn.mail (c : Conn) : Mail where
  frq := c.frq
  rtb := c.rtb
  packets := packets c.log
  lastTxPktNum := c.lastTxPktNum
  maxRxOffset := c.maxRxOffset
  maxRemoteStreamIdBidi := c.maxRemoteStreamIdBidi
  maxRemoteStreamIdUni := c.maxRemoteStreamIdUni
  fcStrms := c.fcStrms
  credit := c.creditFrame
  dropped := droppedFrame c

section

variable (app : App) {s t u : Conn}

theorem Plain.mail (plain : Plain s t) : t.mail = s.mail := by
  have dropped := droppedFrame_plain plain
  have same : packets t.log = packets s.log := congrArg Prod.snd plain.outgoing
  obtain ⟨n, es, -, -, rfl⟩ := plain
  unfold Conn.mail
  rw [dropped, same]
  rfl

-- an ACK frame

theorem connCreateDueAck_mail (ts : Nat) (s : Conn) :
    wp (connCreateDueAck app ts) (fun _ t => t.mail = s.mail) (fun e _ => e.fatal = true) s := by
  have allocated (n : Nat) : Along Conn.mail (fun _ _ => False) (mallocs app n) := by
    induction n with
    | zero => exact .pure _
    | succ n ih => exact .bind (.got fun c => .bind (.still fun _ => rfl) fun _ => .ite (.pure _) (.throw _)) fun _ => ih
  have invalidated : Along Conn.mail (fun _ _ => False) connInvalidateNextAckExpiry := .still fun _ => rfl
  have forgot (left : List AcktrEntry) : Along Conn.mail (fun _ _ => False) (connForgetAck left) :=
    .ite (.pure _) (.still fun _ => rfl)
  have collected : Along Conn.mail (fun _ _ => False) (connCollectAck app ts false) := by
    refine .got fun c => ?_
    split
    · exact .bind invalidated fun _ => .pure _
    · exact .bind (allocated _) fun _ => .bind (forgot _) fun _ => .pure _
  have created : Along Conn.mail (fun _ _ => False) (connCreateDueAck app ts) :=
    .got fun c => .ite (.got fun c => .ite (.bind invalidated fun _ => .pure _)
      (.bind (.got fun _ => .pure _) fun _ => collected)) (.pure _)
  have same {t : Conn} (steps : Steps Conn.mail (fun _ _ => False) s t) : t.mail = s.mail := by
    rcases steps.cases_tail with same | ⟨_, _, none⟩
    · exact same
    · exact none.elim
  have both := wp_and (created s) (connCreateDueAck_spec app ts s)
  exact wp_mono both (fun _ _ run => same run.1) fun _ _ run => run.2

-- the frames that are made first

theorem connQueueMaxData_mail (ackfr : Option Ack) (s : Conn) :
    wp (connQueueMaxData app ackfr)
      (fun _ t => ∃ n, t.mail =
        { s.mail with frq := raisedFrame s.maxRxOffset n .maxData ++ s.frq, maxRxOffset := n })
      (fun e _ => e.fatal = true) s := by
  unfold connQueueMaxData
  rw [wp_bind, wp_get]
  split
  next raised =>
    rw [wp_bind]
    refine wp_mono (connPushFrq_spec app _ s) ?_ fun _ _ fatal => fatal
    rintro _ t rfl
    have higher : s.unsentMaxRxOffset ≠ s.maxRxOffset := by
      simp only [Bool.and_eq_true, decide_eq_true_eq] at raised
      omega
    refine ⟨s.unsentMaxRxOffset, ?_⟩
    rw [raisedFrame, if_neg higher]
    rfl
  next =>
    refine ⟨s.maxRxOffset, ?_⟩
    rw [raisedFrame, if_pos rfl]
    rfl

theorem droppedFrame_same (same : ∀ id, (t.strms id).map Strm.shutRd = (s.strms id).map Strm.shutRd) :
    droppedFrame t = droppedFrame s := by
  funext fr
  cases fr with
  | rstStream fr =>
    have gone : (t.strms fr.streamId).isNone = (s.strms fr.streamId).isNone := by
      simpa using congrArg Option.isNone (same fr.streamId)
    simp only [droppedFrame, gone]
  | stopSending fr =>
    have shut := same fr.streamId
    simp only [droppedFrame]
    cases now : t.strms fr.streamId <;> cases before : s.strms fr.streamId <;> simp_all
  | _ => rfl

def Conn.advertised (c : Conn) (id : Nat) (strm : Strm) (rest : List Nat) : Conn :=
  { (c.pushFrq (.maxStreamData { streamId := id, maxStreamData := strm.unsentMaxRxOffset })).setStrm id
      (some { strm with maxRxOffset := strm.unsentMaxRxOffset, fcPprev := false }) with fcStrms := rest }

theorem Conn.advertised_mail {id : Nat} {strm : Strm} (found : s.strms id = some strm) (rest : List Nat) :
    (s.advertised id strm rest).mail = { s.mail with frq := s.creditFrame id :: s.frq, fcStrms := rest } := by
  have here : (s.advertised id strm rest).strms id =
      some { strm with maxRxOffset := strm.unsentMaxRxOffset, fcPprev := false } := Conn.setStrm_strms ..
  have other {key : Nat} (apart : key ≠ id) : (s.advertised id strm rest).strms key = s.strms key := by
    simp [Conn.advertised, Conn.setStrm, Conn.pushFrq, apart]
  have credit : (s.advertised id strm rest).creditFrame = s.creditFrame := by
    funext key
    unfold Conn.creditFrame
    by_cases same : key = id
    · rw [same, here, found]
      rfl
    · rw [other same]
  have dropped : droppedFrame (s.advertised id strm rest) = droppedFrame s := by
    refine droppedFrame_same fun key => ?_
    by_cases same : key = id
    · rw [same, here, found]
      rfl
    · rw [other same]
  have queued : (s.advertised id strm rest).frq = s.creditFrame id :: s.frq := by
    unfold Conn.creditFrame
    rw [found]
    rfl
  unfold Conn.mail
  rw [credit, dropped, queued]
  rfl

theorem connQueueMaxStreamData_mail {ids : List Nat} {s : Conn} (all : s.fcStrms = ids) :
    wp (connQueueMaxStreamData app ids)
      (fun _ t => t.mail = { s.mail with frq := (ids.map s.creditFrame).reverse ++ s.frq, fcStrms := [] })
      (fun e _ => e.fatal = true) s := by
  induction ids generalizing s with
  | nil =>
    change s.mail = { s.mail with frq := s.frq, fcStrms := [] }
    rw [← all]
    rfl
  | cons id rest ih =>
    unfold connQueueMaxStreamData
    rw [wp_bind]
    refine wp_intro (fun strm t run => ?_) fun _ _ run => getStrm_error run
    obtain ⟨rfl, found⟩ := getStrm_ok run
    split
    next => exact rfl
    next listed =>
    rw [wp_bind]
    refine wp_mono (connPushFrq_spec app _ t) ?_ fun _ _ fatal => fatal
    rintro _ u rfl
    rw [wp_bind, wp_modifyStrm (c := t.pushFrq _) _ found, wp_bind, wp_modify]
    have next := t.advertised_mail found rest
    have credit := congrArg Mail.credit next
    have queued := congrArg Mail.frq next
    refine wp_mono (ih (s := t.advertised id strm rest) rfl) (fun _ w mail => ?_) fun _ _ fatal => fatal
    dsimp only [Conn.mail] at credit queued
    rw [mail, next, credit, queued]
    simp

-- the frames of the packet

variable {hd : PktHd} {ppe : Ppe} {n : Nat} {ckm : Option CryptoKm} {acks written left : List Frame}

theorem writePktAck_mail (ackfr : Option Ack) (built : ppe.At n ckm []) (s : Conn) :
    wp (writePktAck app hd ppe ackfr)
      (fun ppe' t => t.mail = s.mail ∧ ∃ acks, ppe'.At n ckm acks ∧ acks.isEmpty = ackfr.isNone ∧
        ∀ fr ∈ acks, fr.isAck = true)
      (fun e t => e.fatal = true ∨ t = s) s := by
  unfold writePktAck
  cases ackfr with
  | none => exact ⟨rfl, [], built, rfl, by simp⟩
  | some ack =>
    dsimp only
    rw [wp_bind]
    refine wp_mono (connPpeWriteFrame_spec app false hd (.ack ack) s built) ?_ ?_
    · rintro ppe' t ⟨plain, built⟩
      exact ⟨plain.mail, _, built, rfl, by simp [Frame.isAck]⟩
    · rintro e t (fatal | ⟨-, rfl⟩)
      · exact .inl fatal
      · exact .inr rfl

def TakenFrom (dropped : Frame → Bool) (queue written left : List Frame) : Prop :=
  ∃ taken, queue = taken ++ left ∧ written = living dropped taken

theorem frqFrames_takes (frq : List Frame) (called : Bool) (s : Conn) (before : ppe.At n ckm acks) :
    wp (frqFrames app hd frq ppe called) (Wrote s n ckm acks (TakenFrom (droppedFrame s) frq))
      (fun e _ => e.fatal = true) s := by
  induction frq generalizing ppe acks called s with
  | nil => exact .stop s before ⟨[], rfl, rfl⟩
  | cons fr rest ih =>
    unfold frqFrames
    change wp (if droppedFrame s fr then _ else _ : ConnM _) _ _ s
    split
    next skip =>
      refine wp_mono (ih called s before) (fun r t more => ?_) fun _ _ fatal => fatal
      obtain ⟨taken, queue, written⟩ := more.divided
      refine ⟨more.plain, more.built, fr :: taken, by rw [queue]; rfl, ?_⟩
      rw [living_dead _ skip, written]
    next keep =>
      rw [wp_bind, wp_attempt]
      refine wp_mono (connPpeWriteFrame_spec app called hd fr s before) (fun ppe' t wrote => ?_) ?_
      · dsimp only
        rw [wp_bind]
        refine wp_mono (ih true t wrote.2) (fun r u more => ?_) fun _ _ fatal => fatal
        rw [droppedFrame_plain wrote.1] at more
        refine more.cons wrote.1 ?_
        rintro written left ⟨taken, queue, same⟩
        refine ⟨fr :: taken, by rw [queue]; rfl, ?_⟩
        rw [living_live _ (by simpa using keep), same]
      · rintro e t (fatal | ⟨rfl, rfl⟩)
        · cases e <;> first | exact fatal | cases fatal
        · exact .stop t before ⟨[], rfl, rfl⟩

structure Draft (s t : Conn) (n : Nat) (ckm : Option CryptoKm) (acks written left : List Frame) (ppe : Ppe) :
    Prop where
  built : ppe.At n ckm (acks ++ written)
  queued : t.frq = written ++ left
  taken : TakenFrom (droppedFrame s) (s.frq ++ streamIdFrames s t) written left
  same : t.mail = { s.mail with
    frq := t.frq, maxRemoteStreamIdBidi := t.maxRemoteStreamIdBidi, maxRemoteStreamIdUni := t.maxRemoteStreamIdUni }

theorem Draft.plain (draft : Draft s t n ckm acks written left ppe) (plain : Plain t u) :
    Draft s u n ckm acks written left ppe := by
  have same := plain.mail
  obtain ⟨k, es, -, -, rfl⟩ := plain
  exact ⟨draft.built, draft.queued, draft.taken, same.trans draft.same⟩

theorem streamIdFrames_raised {bidi : Bool} {k : Nat} (fresh : maxRemoteStreamId t bidi = maxRemoteStreamId s bidi)
    (second : bidi = true → t.maxRemoteStreamIdUni = s.maxRemoteStreamIdUni) (higher : maxRemoteStreamId t bidi < k) :
    streamIdFrames s (queueMaxStreamId bidi k t) = streamIdFrames s t ++ [.maxStreamId k] := by
  have apart : k ≠ maxRemoteStreamId s bidi := by omega
  unfold streamIdFrames raisedFrame
  cases bidi with
  | true =>
    have bidi : t.maxRemoteStreamIdBidi = s.maxRemoteStreamIdBidi := fresh
    have apart : k ≠ s.maxRemoteStreamIdBidi := apart
    simp [queueMaxStreamId, bidi, apart, second rfl]
  | false =>
    have uni : t.maxRemoteStreamIdUni = s.maxRemoteStreamIdUni := fresh
    have apart : k ≠ s.maxRemoteStreamIdUni := apart
    simp [queueMaxStreamId, uni, apart]

theorem maxStreamIdFrame_draft (bidi : Bool) (called : Bool) (draft : Draft s t n ckm acks written left ppe)
    (fresh : maxRemoteStreamId t bidi = maxRemoteStreamId s bidi)
    (second : bidi = true → t.maxRemoteStreamIdUni = s.maxRemoteStreamIdUni) :
    wp (maxStreamIdFrame app hd bidi written left ppe called)
      (fun r u => Draft s u n ckm acks r.1 r.2.1 r.2.2 ∧ maxRemoteStreamId u (!bidi) = maxRemoteStreamId t (!bidi))
      (fun e _ => e.fatal = true) t := by
  unfold maxStreamIdFrame
  rw [wp_bind, wp_get]
  dsimp only
  split
  next room =>
    obtain ⟨rfl, higher⟩ := room
    rw [wp_bind]
    refine wp_mono (malloc_plain app t) ?_ fun _ _ fatal => fatal
    rintro _ _ ⟨-, rfl⟩
    rw [wp_bind, wp_modify, wp_bind, wp_attempt]
    let k := unsentMaxRemoteStreamId t bidi
    let raised := queueMaxStreamId bidi k { t with nalloc := t.nalloc + 1 }
    have queued : raised.frq = written ++ [.maxStreamId k] := by
      simp [raised, queueMaxStreamId, draft.queued]
    have made : streamIdFrames s raised = streamIdFrames s t ++ [.maxStreamId k] :=
      streamIdFrames_raised (t := { t with nalloc := t.nalloc + 1 }) fresh second higher
    have same : raised.mail = { s.mail with
        frq := raised.frq, maxRemoteStreamIdBidi := raised.maxRemoteStreamIdBidi,
        maxRemoteStreamIdUni := raised.maxRemoteStreamIdUni } := by
      change { t.mail with
        frq := raised.frq, maxRemoteStreamIdBidi := raised.maxRemoteStreamIdBidi,
        maxRemoteStreamIdUni := raised.maxRemoteStreamIdUni } = _
      rw [draft.same]
    have other : maxRemoteStreamId raised (!bidi) = maxRemoteStreamId t (!bidi) := by
      cases bidi <;> rfl
    obtain ⟨taken, queue, sent⟩ := draft.taken
    have queue : s.frq ++ streamIdFrames s raised = taken ++ [.maxStreamId k] := by
      rw [made, ← List.append_assoc, queue, List.append_nil]
    refine wp_mono (connPpeWriteFrame_spec app called hd (.maxStreamId k) raised draft.built) ?_ ?_
    · rintro ppe' u ⟨plain, built⟩
      have more : written ++ [.maxStreamId k] = living (droppedFrame s) (taken ++ [.maxStreamId k]) := by
        simp [living, sent, droppedFrame]
      have next : Draft s raised n ckm acks (written ++ [.maxStreamId k]) [] ppe' :=
        ⟨by simpa using built, by simpa using queued, ⟨_, by simpa using queue, more⟩, same⟩
      refine ⟨next.plain plain, ?_⟩
      obtain ⟨_, es, -, -, rfl⟩ := plain
      exact other
    · rintro e u (fatal | ⟨rfl, rfl⟩)
      · cases e <;> first | exact fatal | cases fatal
      · exact ⟨⟨draft.built, queued, ⟨taken, queue, sent⟩, same⟩, other⟩
  next => exact ⟨draft, rfl⟩

theorem writePktFinish_posts {ts : Nat} (draft : Draft s t (add64 s.lastTxPktNum 1) ckm acks written left ppe)
    (first : ∀ fr ∈ acks, fr.isAck = true) (some : acks ++ written ≠ []) (number : hd.pktNum = add64 s.lastTxPktNum 1) :
    wp (do
        let nwrite ← ngtcp2PpeFinal app ppe
        writePktTrack app hd written left ts nwrite
        incLastTxPktNum
        pure nwrite)
      (fun _ u => Posts s u acks written ∧ u.frq = left ∧ streamIdFrames s u = streamIdFrames s t ∧
        u.maxRxOffset = s.maxRxOffset)
      (fun e _ => e.fatal = true) t := by
  have rtb : t.rtb = s.rtb := congrArg Mail.rtb draft.same
  have log : packets t.log = packets s.log := congrArg Mail.packets draft.same
  have rx : t.maxRxOffset = s.maxRxOffset := congrArg Mail.maxRxOffset draft.same
  have sent (km : CryptoKm) : packets (t.emit (.encrypt km (add64 s.lastTxPktNum 1) (acks ++ written))).log =
      packets s.log ++ if acks ++ written = [] then [] else [(add64 s.lastTxPktNum 1, acks ++ written)] := by
    rw [if_neg some, ← log]
    simp [packets, Conn.emit, Event.packet?]
  rw [wp_bind]
  refine wp_mono (ngtcp2PpeFinal_spec app t draft.built) ?_ fun _ _ fatal => fatal
  rintro len u ⟨-, km, rfl⟩
  rw [wp_bind]
  unfold writePktTrack
  split
  next carries =>
    rw [wp_bind]
    refine wp_mono (connRtbEntryNew_spec app _ _ _ _ _ _ _) ?_ fun _ _ fatal => fatal
    rintro ent _ ⟨rfl, rfl⟩
    unfold setFrq
    rw [wp_bind, wp_modify]
    refine wp_mono (connRtbAdd_spec app _ _) ?_ fun _ _ fatal => fatal
    rintro _ _ ⟨k, -, rfl⟩
    refine ⟨⟨first, sent km, fun none => absurd none carries, fun _ => ?_⟩, rfl, rfl, rx⟩
    let ent := ngtcp2RtbEntryNew t.nalloc hd written ts (add64 ts pktDeadlinePeriod) len false
    exact ⟨ent, number, rfl, congrArg (ngtcp2RtbAdd · ent) rtb⟩
  next none =>
    have none : written = [] := by simpa using none
    refine ⟨⟨first, sent km, fun _ => rtb, fun carries => absurd none carries⟩, ?_, rfl, rx⟩
    change t.frq = left
    rw [draft.queued, none]
    rfl

def Delivers (s t : Conn) : Prop :=
  t.maxRxOffset = s.maxRxOffset ∧ ∃ taken acks, s.frq ++ streamIdFrames s t = taken ++ t.frq ∧
    Posts s t acks (living (droppedFrame s) taken)

theorem Delivers.unsent (same : t.mail = s.mail) : Delivers s t := by
  have queue : t.frq = s.frq := congrArg Mail.frq same
  have log : packets t.log = packets s.log := congrArg Mail.packets same
  have rtb : t.rtb = s.rtb := congrArg Mail.rtb same
  have rx : t.maxRxOffset = s.maxRxOffset := congrArg Mail.maxRxOffset same
  have bidi : t.maxRemoteStreamIdBidi = s.maxRemoteStreamIdBidi := congrArg Mail.maxRemoteStreamIdBidi same
  have uni : t.maxRemoteStreamIdUni = s.maxRemoteStreamIdUni := congrArg Mail.maxRemoteStreamIdUni same
  refine ⟨rx, [], [], ?_, by simp, by simp [log], fun _ => rtb, fun some => absurd rfl some⟩
  simp [streamIdFrames, raisedFrame, bidi, uni, queue]

theorem connWritePktFrames_delivers (destlen ts : Nat) (ackfr : Option Ack) (s : Conn) :
    wp (connWritePktFrames app destlen ts ackfr) (fun _ t => Delivers s t)
      (fun e t => e.fatal = true ∨ Delivers s t) s := by
  unfold connWritePktFrames
  rw [wp_bind, wp_get]
  dsimp only
  rw [wp_bind]
  cases encoded : ngtcp2PpeEncodeHd (ngtcp2PpeInit destlen s.aeadOverhead s.txCkm) (connShortHd s) with
  | error e => exact .inr (.unsent rfl)
  | ok ppe =>
  rw [wp_ofExcept_ok, wp_bind]
  refine wp_mono (writePktAck_mail app ackfr (ngtcp2PpeEncodeHd_at encoded) s) ?_ ?_
  case refine_2 =>
    rintro e t (fatal | rfl)
    · exact .inl fatal
    · exact .inr (.unsent rfl)
  rintro ppe t ⟨same, acks, built, asked, first⟩
  rw [wp_bind, wp_get, wp_bind]
  refine wp_mono (frqFrames_takes app t.frq _ t built) ?_ fun _ _ fatal => .inl fatal
  rintro ⟨written, left, ppe⟩ u wrote
  dsimp only
  unfold setFrq
  rw [wp_bind, wp_modify, wp_bind]
  have mail : u.mail = s.mail := wrote.plain.mail.trans same
  have bidi : u.maxRemoteStreamIdBidi = s.maxRemoteStreamIdBidi := congrArg Mail.maxRemoteStreamIdBidi mail
  have uni : u.maxRemoteStreamIdUni = s.maxRemoteStreamIdUni := congrArg Mail.maxRemoteStreamIdUni mail
  have draft : Draft s { u with frq := written ++ left } (add64 s.lastTxPktNum 1) s.txCkm acks written left ppe := by
    refine ⟨wrote.built, rfl, ?_, ?_⟩
    · have dropped : droppedFrame t = droppedFrame s := congrArg Mail.dropped same
      have queue : t.frq = s.frq := congrArg Mail.frq same
      have divided := wrote.divided
      rw [dropped, queue] at divided
      simpa [streamIdFrames, raisedFrame, bidi, uni] using divided
    · change { u.mail with frq := written ++ left } = { s.mail with
        frq := written ++ left, maxRemoteStreamIdBidi := u.maxRemoteStreamIdBidi,
        maxRemoteStreamIdUni := u.maxRemoteStreamIdUni }
      rw [mail, bidi, uni]
      rfl
  refine wp_mono (maxStreamIdFrame_draft app true _ draft bidi fun _ => uni) ?_ fun _ _ fatal => .inl fatal
  rintro ⟨written', left', ppe⟩ t' ⟨draft, other⟩
  dsimp only at draft ⊢
  rw [wp_bind]
  refine wp_mono (maxStreamIdFrame_draft app false _ draft (other.trans uni) fun asked => by cases asked) ?_
    fun _ _ fatal => .inl fatal
  rintro ⟨written'', left'', ppe⟩ t'' ⟨draft, -⟩
  dsimp only at draft ⊢
  obtain ⟨taken, queue, sent⟩ := draft.taken
  have rx : t''.maxRxOffset = s.maxRxOffset := congrArg Mail.maxRxOffset draft.same
  split
  next nothing =>
    -- no packet is needed, or not even one frame fits
    obtain ⟨noAck, noFrame⟩ : ackfr.isNone = true ∧ written'' = [] := by simpa using nothing
    have unsent : Delivers s t'' := by
      have log : packets t''.log = packets s.log := congrArg Mail.packets draft.same
      have rtb : t''.rtb = s.rtb := congrArg Mail.rtb draft.same
      have none : living (droppedFrame s) taken = [] := sent.symm.trans noFrame
      refine ⟨rx, taken, [], ?_, by simp, ?_, fun _ => rtb, fun some => absurd none some⟩
      · rw [queue, draft.queued, noFrame]
        rfl
      · simp [none, log]
    split
    · exact unsent
    · exact .inr unsent
  next something =>
    have some : acks ++ written'' ≠ [] := by
      intro none
      obtain ⟨rfl, rfl⟩ := List.append_eq_nil_iff.mp none
      simp [← asked] at something
    refine wp_mono (writePktFinish_posts app draft first some rfl) ?_ fun _ _ fatal => .inl fatal
    rintro _ w ⟨posts, left, limits, rx⟩
    refine ⟨rx, taken, acks, ?_, sent ▸ posts⟩
    rw [limits, queue, left]

theorem Delivers.conserves {w : Conn} {k : Nat} (delivers : Delivers w t)
    (prepared : w.mail = { s.mail with
      frq := (s.fcStrms.map s.creditFrame).reverse ++ (raisedFrame s.maxRxOffset k .maxData ++ s.frq),
      maxRxOffset := k, fcStrms := [] }) : Conserves s t := by
  have queue : w.frq = _ := congrArg Mail.frq prepared
  have rx : w.maxRxOffset = k := congrArg Mail.maxRxOffset prepared
  have bidi : w.maxRemoteStreamIdBidi = s.maxRemoteStreamIdBidi := congrArg Mail.maxRemoteStreamIdBidi prepared
  have uni : w.maxRemoteStreamIdUni = s.maxRemoteStreamIdUni := congrArg Mail.maxRemoteStreamIdUni prepared
  have log : packets w.log = packets s.log := congrArg Mail.packets prepared
  have rtb : w.rtb = s.rtb := congrArg Mail.rtb prepared
  have last : w.lastTxPktNum = s.lastTxPktNum := congrArg Mail.lastTxPktNum prepared
  have dropped : droppedFrame w = droppedFrame s := congrArg Mail.dropped prepared
  obtain ⟨rx', taken, acks, divided, posts⟩ := delivers
  have limits : streamIdFrames w t = streamIdFrames s t := by
    unfold streamIdFrames
    rw [bidi, uni]
  rw [dropped] at posts
  refine ⟨taken, acks, ?_, posts.first, ?_, ?_, ?_⟩
  · rw [← divided, queue, limits, creditFrames, rx', rx]
    simp
  · rw [posts.packets, log, last]
  · rw [← rtb]
    exact posts.untracked
  · rw [← rtb, ← last]
    exact posts.tracked

theorem connWritePkt_conserves (destlen ts : Nat) (s : Conn) :
    wp (connWritePkt app destlen ts) (fun _ t => Conserves s t) (fun e t => e.fatal = true ∨ Conserves s t) s := by
  unfold connWritePkt
  rw [wp_bind]
  refine wp_mono (connCreateDueAck_mail app ts s) (fun ackfr t same => ?_) fun _ _ fatal => .inl fatal
  rw [wp_bind]
  refine wp_mono (connQueueMaxData_mail app ackfr t) (fun _ u queued => ?_) fun _ _ fatal => .inl fatal
  obtain ⟨k, queued⟩ := queued
  rw [wp_bind, wp_get, wp_bind]
  refine wp_mono (connQueueMaxStreamData_mail app (s := u) rfl) (fun _ w mail => ?_) fun _ _ fatal => .inl fatal
  have prepared : w.mail = { s.mail with
      frq := (s.fcStrms.map s.creditFrame).reverse ++ (raisedFrame s.maxRxOffset k .maxData ++ s.frq),
      maxRxOffset := k, fcStrms := [] } := by
    have first : u.mail = { t.mail with
      frq := raisedFrame t.mail.maxRxOffset k .maxData ++ t.mail.frq, maxRxOffset := k } := queued
    have second : w.mail = { u.mail with
      frq := (u.mail.fcStrms.map u.mail.credit).reverse ++ u.mail.frq, fcStrms := [] } := mail
    rw [second, first, same]
    rfl
  rw [wp_bind, wp_get]
  split
  · exact (Delivers.unsent rfl).conserves prepared
  · exact wp_mono (connWritePktFrames_delivers app destlen ts ackfr w) (fun _ _ delivers => delivers.conserves prepared)
      fun _ _ stopped => stopped.imp_right fun delivers => delivers.conserves prepared

/-- A piece from the front of the queue is owned by one new entry, apart from the frames that are dropped, and
the rest stays in its order. -/
theorem writePkt_conserves {destlen ts : Nat} {r : Except Err Nat} (run : connWritePkt app destlen ts s = (r, t))
    (returns : (∃ n, r = .ok n) ∨ r = .error .NOBUF) : Conserves s t := by
  have spec := connWritePkt_conserves app destlen ts s
  rcases returns with ⟨n, rfl⟩ | rfl
  · exact wp_ok (a := n) spec run
  · rcases wp_error spec run with fatal | conserves
    · cases fatal
    · exact conserves

end

-- a server with RST_STREAM, STOP_SENDING and PONG in its queue, and room for some of them
def postingServer : Conn :=
  openServer.play
    [(.quiet, .frame (.stream { fin := false, streamId := 4, offset := 0, data := [1] })),
     (.quiet, .shutdownStream 4 7), (.quiet, .frame (.ping [1, 2, 3]))]

theorem writePkt_conserves_postingServer :
    postingServer.frq.length = 3 ∧ (connWritePkt .quiet 20 0 postingServer).2.frq.length = 1 ∧
      Conserves postingServer (connWritePkt .quiet 20 0 postingServer).2 := by
  have run : connWritePkt .quiet 20 0 postingServer = (.ok 20, (connWritePkt .quiet 20 0 postingServer).2) := rfl
  exact ⟨by decide, by decide, writePkt_conserves .quiet run (.inl ⟨20, rfl⟩)⟩

end Ngtcp2
