import Ngtcp2.Invariant.RxFlow
import Ngtcp2.Invariant.Unacked

/-!
# Notifications of acknowledged data

The acknowledged start of a stream only grows while a frame of an acknowledged packet is recorded.
-/

namespace Ngtcp2

open List Range

def Chained : Nat → List (Nat × Nat) → Nat → Prop
  | start, [], stop => stop = start
  | start, (offset, datalen) :: rest, stop => offset = start ∧ Chained (start + datalen) rest stop

theorem Chained.concat {start mid datalen : Nat} {told : List (Nat × Nat)} (chained : Chained start told mid) :
    Chained start (told ++ [(mid, datalen)]) (mid + datalen) := by
  induction told generalizing start with
  | nil =>
    obtain rfl : mid = start := chained
    exact ⟨rfl, rfl⟩
  | cons first rest ih => exact ⟨chained.1, ih chained.2⟩

section Log

def Event.restarts (id : Nat) : Event → Bool
  | .mark (.retry _ _) => id == 0
  | _ => false

def current (id : Nat) (log : List Event) : List Event :=
  (log.reverse.takeWhile fun e => !e.restarts id).reverse

def Event.notice? (id : Nat) : Event → Option (Nat × Nat)
  | .ackedStreamDataOffset streamId offset datalen => if streamId = id then some (offset, datalen) else none
  | _ => none

def notices (id : Nat) (log : List Event) : List (Nat × Nat) := (current id log).filterMap (Event.notice? id)

def ackedFrames (id : Nat) (log : List Event) : List Frame :=
  ((current id log).filterMap Event.ackedFrames?).flatten

def Acknowledged (log : List Event) (id o : Nat) : Prop :=
  ∃ fr, .stream fr ∈ ackedFrames id log ∧ fr.streamId = id ∧ fr.offset ≤ o ∧ o < fr.endOffset

theorem current_concat (id : Nat) (log : List Event) (e : Event) :
    current id (log ++ [e]) = if e.restarts id then [] else current id log ++ [e] := by
  unfold current
  cases restarts : e.restarts id <;> simp [restarts]

def Event.plainAck : Event → Bool
  | .ackedStreamDataOffset _ _ _ => false
  | .mark (.ackedEntry _ _) => false
  | .mark (.retry _ _) => false
  | _ => true

def ackEvents (log : List Event) : List Event := log.filter fun e => !e.plainAck

theorem ackEvents_plain {log : List Event} {e : Event} (plain : e.plainAck = true) :
    ackEvents (log ++ [e]) = ackEvents log := by
  simp [ackEvents, plain]

theorem ackEvents_concat {log : List Event} {e : Event} (other : e.plainAck = false) :
    ackEvents (log ++ [e]) = ackEvents log ++ [e] := by
  simp [ackEvents, other]

theorem Event.plainAck_cases {e : Event} (plain : e.plainAck = true) (id : Nat) :
    e.restarts id = false ∧ e.notice? id = none ∧ e.ackedFrames? = none := by
  cases e with
  | mark m => cases m <;> first | exact ⟨rfl, rfl, rfl⟩ | cases plain
  | _ => first | exact ⟨rfl, rfl, rfl⟩ | cases plain

theorem current_ackEvents (id : Nat) (log : List Event) : current id (ackEvents log) = ackEvents (current id log) := by
  induction log using reverseRecOn with
  | nil => rfl
  | append_singleton log e ih =>
    rw [current_concat]
    cases plain : e.plainAck with
    | true => rw [ackEvents_plain plain, (Event.plainAck_cases plain id).1, ih, if_neg (by simp), ackEvents_plain plain]
    | false =>
      rw [ackEvents_concat plain, current_concat, ih]
      split
      · rfl
      · rw [ackEvents_concat plain]

theorem filterMap_ackEvents {α : Type} {f : Event → Option α} (none : ∀ e, e.plainAck = true → f e = none)
    (log : List Event) : (ackEvents log).filterMap f = log.filterMap f := by
  unfold ackEvents
  rw [filterMap_filter]
  refine filterMap_congr fun e _ => ?_
  cases plain : e.plainAck with
  | true => simp [none e plain]
  | false => simp

theorem notices_ackEvents (id : Nat) (log : List Event) : notices id (ackEvents log) = notices id log := by
  unfold notices
  rw [current_ackEvents, filterMap_ackEvents fun e plain => (Event.plainAck_cases plain id).2.1]

theorem ackedFrames_ackEvents (id : Nat) (log : List Event) :
    ackedFrames id (ackEvents log) = ackedFrames id log := by
  unfold ackedFrames
  rw [current_ackEvents, filterMap_ackEvents fun e plain => (Event.plainAck_cases plain id).2.2]

theorem lastAcked_ackEvents (log : List Event) : lastAcked (ackEvents log) = lastAcked log := by
  induction log using reverseRecOn with
  | nil => rfl
  | append_singleton log e ih =>
    cases plain : e.plainAck with
    | true => rw [ackEvents_plain plain, ih, lastAcked_plain (Event.plainAck_cases plain 0).2.2]
    | false =>
      rw [ackEvents_concat plain]
      unfold lastAcked at ih ⊢
      cases acked : e.ackedFrames? <;> simp [acked, ih]

theorem notices_same {log log' : List Event} (same : ackEvents log' = ackEvents log) (id : Nat) :
    notices id log' = notices id log := by
  rw [← notices_ackEvents, same, notices_ackEvents]

theorem ackedFrames_same {log log' : List Event} (same : ackEvents log' = ackEvents log) (id : Nat) :
    ackedFrames id log' = ackedFrames id log := by
  rw [← ackedFrames_ackEvents, same, ackedFrames_ackEvents]

theorem notices_concat (id : Nat) (log : List Event) (e : Event) :
    notices id (log ++ [e]) = if e.restarts id then [] else notices id log ++ (e.notice? id).toList := by
  unfold notices
  rw [current_concat]
  split
  · rfl
  · cases told : e.notice? id <;> simp [told]

theorem ackedFrames_concat (id : Nat) (log : List Event) (e : Event) :
    ackedFrames id (log ++ [e]) =
      if e.restarts id then [] else ackedFrames id log ++ e.ackedFrames?.getD [] := by
  unfold ackedFrames
  rw [current_concat]
  split
  · rfl
  · cases acked : e.ackedFrames? <;> simp [acked]

def FinTold (log : List Event) : Prop :=
  ∀ before after id offset, log = before ++ .ackedStreamDataOffset id offset 0 :: after →
    ∃ fr, .stream fr ∈ lastAcked before ∧ fr.streamId = id ∧ fr.fin = true

theorem FinTold.concat {log : List Event} {e : Event} (told : FinTold log)
    (last : ∀ id offset, e = .ackedStreamDataOffset id offset 0 →
      ∃ fr, .stream fr ∈ lastAcked log ∧ fr.streamId = id ∧ fr.fin = true) : FinTold (log ++ [e]) := by
  intro before after id offset split
  cases after using reverseRecOn with
  | nil =>
    obtain ⟨rfl, same⟩ := append_inj' split rfl
    exact last id offset (by simpa using same)
  | append_singleton after e' =>
    rw [← cons_append, ← append_assoc] at split
    exact told before after id offset (append_inj' split rfl).1

end Log

structure Strm.Notified (strm : Strm) (id : Nat) (log : List Event) (pending : List Frame) : Prop where
  ordered : Ordered 0 strm.ackedTxOffset.gap
  top : ∀ o, Covers strm.ackedTxOffset.gap o → o < uint64Max
  told : Chained 0 (notices id log) (ngtcp2GaptrFirstGapOffset strm.ackedTxOffset)
  closed : ∀ o < uint64Max, ¬ Covers strm.ackedTxOffset.gap o →
    ∃ fr ∈ ackedFrames id log, fr.carries id o = true
  acked : ∀ fr ∈ ackedFrames id log, ∀ o, fr.carries id o = true →
    ¬ Covers strm.ackedTxOffset.gap o ∨ ∃ fr ∈ pending, fr.carries id o = true

section Gap

variable {strm : Strm} {id : Nat} {log : List Event} {pending : List Frame}

theorem firstGap_le (gaptr : Gaptr) (ordered : Ordered 0 gaptr.gap) (top : ∀ o, Covers gaptr.gap o → o < uint64Max) :
    ngtcp2GaptrFirstGapOffset gaptr ≤ uint64Max := by
  unfold ngtcp2GaptrFirstGapOffset
  cases gaps : gaptr.gap with
  | nil => exact Nat.le_refl _
  | cons r rest =>
    rw [gaps] at ordered top
    exact Nat.le_of_lt (top _ ((covers_cons ..).mpr (.inl ⟨Nat.le_refl _, ordered.2.1⟩)))

theorem below_firstGap {gaptr : Gaptr} (ordered : Ordered 0 gaptr.gap) {o : Nat}
    (below : o < ngtcp2GaptrFirstGapOffset gaptr) : ¬ Covers gaptr.gap o := by
  intro open_
  have first := ordered.first_le uint64Max open_
  unfold ngtcp2GaptrFirstGapOffset at below
  omega

theorem firstGap_push (gaptr : Gaptr) (offset datalen : Nat) (ordered : Ordered 0 gaptr.gap)
    (top : ∀ o, Covers gaptr.gap o → o < uint64Max) :
    ngtcp2GaptrFirstGapOffset gaptr ≤ ngtcp2GaptrFirstGapOffset (ngtcp2GaptrPush gaptr offset datalen) := by
  let range : Range := { begin := offset, stop := add64 offset datalen }
  have later : Ordered 0 (ngtcp2GaptrPush gaptr offset datalen).gap := pushGaps_ordered _ range ordered ()
  by_contra down
  have below := Nat.lt_of_not_le down
  have reached : Covers (ngtcp2GaptrPush gaptr offset datalen).gap
      (ngtcp2GaptrFirstGapOffset (ngtcp2GaptrPush gaptr offset datalen)) := by
    unfold ngtcp2GaptrFirstGapOffset at below ⊢
    cases gaps : (ngtcp2GaptrPush gaptr offset datalen).gap with
    | nil =>
      have small := firstGap_le gaptr ordered top
      rw [gaps] at below
      exact absurd below (Nat.not_lt_of_le small)
    | cons r rest =>
      rw [gaps] at later
      exact (covers_cons ..).mpr (.inl ⟨Nat.le_refl _, later.2.1⟩)
  exact below_firstGap ordered below ((pushGaps_covers _ range ordered () _).mp reached).1

theorem Strm.Notified.push {log' : List Event} {pending' : List Frame} {fr : StreamFrame}
    (ok : strm.Notified id log pending) (bound : fr.endOffset < 18446744073709551616)
    (named : fr.streamId = id) (member : .stream fr ∈ ackedFrames id log)
    (frames : ackedFrames id log' = ackedFrames id log) (chain : pending = .stream fr :: pending')
    (told : Chained 0 (notices id log')
      (ngtcp2GaptrFirstGapOffset strm.ackedTxOffset + strm.ackedGain fr)) :
    Strm.Notified { strm with ackedTxOffset := ngtcp2GaptrPush strm.ackedTxOffset fr.offset fr.datalen } id
      log' pending' := by
  have covers := ngtcp2GaptrPush_covers ok.ordered bound named
  have grows := firstGap_push strm.ackedTxOffset fr.offset fr.datalen ok.ordered ok.top
  have ordered : Ordered 0 (ngtcp2GaptrPush strm.ackedTxOffset fr.offset fr.datalen).gap :=
    pushGaps_ordered _ _ ok.ordered ()
  have top (o : Nat) (open_ : Covers (ngtcp2GaptrPush strm.ackedTxOffset fr.offset fr.datalen).gap o) :
      o < uint64Max := ok.top o ((covers o).mp open_).1
  have small := firstGap_le _ ordered top
  refine ⟨ordered, top, ?_, fun o below closed => ?_, fun acked inside o carries => ?_⟩
  · have gain : ngtcp2GaptrFirstGapOffset strm.ackedTxOffset + strm.ackedGain fr =
        ngtcp2GaptrFirstGapOffset (ngtcp2GaptrPush strm.ackedTxOffset fr.offset fr.datalen) := by
      unfold Strm.ackedGain
      rw [sub64_eq grows (by unfold uint64Max at small; omega)]
      omega
    exact gain ▸ told
  · rw [frames]
    by_cases old : Covers strm.ackedTxOffset.gap o
    · have carries : (Frame.stream fr).carries id o = true := by
        by_contra outside
        exact closed ((covers o).mpr ⟨old, outside⟩)
      exact ⟨_, member, carries⟩
    · exact ok.closed o below old
  · rw [frames] at inside
    rcases ok.acked acked inside o carries with closed | ⟨other, waits, carries'⟩
    · exact .inl fun open_ => closed ((covers o).mp open_).1
    · rw [chain] at waits
      rcases mem_cons.mp waits with rfl | waits
      · exact .inl fun open_ => ((covers o).mp open_).2 carries'
      · exact .inr ⟨other, waits, carries'⟩

end Gap

def View.pending (v : View) : List Frame := if v.acking then v.hand.toList.flatMap RtbEntry.frc else []

def View.AckKept (v w : View) : Prop :=
  ∀ id strm, w.strms id = some strm →
    (∃ old, v.strms id = some old ∧ strm.ackedTxOffset = old.ackedTxOffset) ∨
      (v.strms id = none ∧ w.log = v.log ++ [.mark (.mapInsert id false)] ∧
        strm.ackedTxOffset = ngtcp2GaptrInit)

inductive View.AckStep (v w : View) : Prop
  | quiet (strms : v.AckKept w) (log : ackEvents w.log = ackEvents v.log) (pending : w.pending = v.pending)
  | take (n : Nat) (frames : List Frame) (strms : w.strms = v.strms) (idle : v.pending = [])
    (log : w.log = v.log ++ [.mark (.ackedEntry n frames)]) (pending : w.pending = frames)
    (inFlight : frames ⊆ v.held)
  | ack (fr : Frame) (strms : w.strms = (v.ackFrame fr).strms) (log : w.log = v.log)
    (pending : v.pending = fr :: w.pending) (inFlight : fr ∈ v.held)
    (silent : ∀ sent strm, fr = .stream sent → v.strms sent.streamId = some strm →
      strm.ackedGain sent = 0 ∧ sent.fin = false)
  | report (fr : StreamFrame) (strm : Strm) (found : v.strms fr.streamId = some strm)
    (strms : w.strms = (v.ackFrame (.stream fr)).strms)
    (log : w.log = v.log ++ [.ackedStreamDataOffset fr.streamId
      (ngtcp2GaptrFirstGapOffset strm.ackedTxOffset) (strm.ackedGain fr)])
    (pending : v.pending = .stream fr :: w.pending) (inFlight : .stream fr ∈ v.held)
    (latest : .stream fr ∈ lastAcked v.log) (told : strm.ackedGain fr ≠ 0 ∨ fr.fin = true)
  | retry (keyed early : Bool) (zero : ∀ strm, w.strms 0 = some strm → strm.ackedTxOffset = ngtcp2GaptrInit)
    (others : ∀ id, id ≠ 0 → w.strms id = v.strms id)
    (log : w.log = v.log ++ [.mark (.retry keyed early), .mark (.state .CLIENT_INITIAL)])
    (idle : v.pending = []) (pending : w.pending = [])

section Steps

variable {sc : Scope} {v w : View} {i : Nat}

theorem View.AckKept.same (strms : w.strms = v.strms) : v.AckKept w :=
  fun _ strm found => .inl ⟨strm, strms ▸ found, rfl⟩

theorem View.AckKept.set {old new : Strm} (found : v.strms i = some old)
    (strms : w.strms = Function.update v.strms i (some new))
    (same : new.ackedTxOffset = old.ackedTxOffset) : v.AckKept w := by
  intro id strm found'
  rw [strms] at found'
  by_cases here : id = i
  · subst here
    obtain rfl : new = strm := by simpa using found'
    exact .inl ⟨old, found, same⟩
  · exact .inl ⟨strm, by simpa [here] using found', rfl⟩

theorem View.AckKept.opened {new : Strm} (absent : v.strms i = none)
    (strms : w.strms = Function.update v.strms i (some new))
    (log : w.log = v.log ++ [.mark (.mapInsert i false)])
    (init : new.ackedTxOffset = ngtcp2GaptrInit) : v.AckKept w := by
  intro id strm found
  rw [strms] at found
  by_cases here : id = i
  · subst here
    obtain rfl : new = strm := by simpa using found
    exact .inr ⟨absent, log, init⟩
  · exact .inl ⟨strm, by simpa [here] using found, rfl⟩

theorem View.AckKept.unset (strms : w.strms = Function.update v.strms i none) : v.AckKept w := by
  intro id strm found
  rw [strms] at found
  by_cases here : id = i
  · simp [here] at found
  · exact .inl ⟨strm, by simpa [here] using found, rfl⟩

theorem View.pending_idle (idle : v.acking = false) : v.pending = [] := by simp [View.pending, idle]

theorem View.pending_held {ent : RtbEntry} (acking : v.acking = true) (held : v.hand = some ent) :
    v.pending = ent.frc := by
  simp [View.pending, acking, held]

theorem View.pending_same (acking : w.acking = v.acking) (hand : w.hand = v.hand) : w.pending = v.pending := by
  simp [View.pending, acking, hand]

theorem View.pending_resting (before : v.acking = false) (after : w.acking = false) : w.pending = v.pending := by
  simp [View.pending, before, after]

theorem View.hand_held {ent : RtbEntry} {fr : Frame} (held : v.hand = some ent) (member : fr ∈ ent.frc) :
    fr ∈ v.held :=
  mem_flatMap.mpr ⟨ent, by simp [View.entries, held], member⟩

theorem Move.ackStep (move : Move sc v w) (callback : v.ackedStreamDataOffset = true)
    (idle : v.hand = none → v.acking = false) : View.AckStep v w ∧ (w.hand = none → w.acking = false) := by
  cases move
  -- a stream is written
  case maxStreamData id n strm found bound => exact ⟨.quiet (.set found rfl rfl) rfl (View.pending_same rfl rfl), idle⟩
  case strm0Limit limit strm found bound =>
    exact ⟨.quiet (.set found rfl rfl) (ackEvents_plain rfl) (View.pending_same rfl rfl), idle⟩
  case handshakeBytes n strm found bound =>
    exact ⟨.quiet (.set found rfl rfl) (ackEvents_plain rfl) (View.pending_same rfl rfl), idle⟩
  case reset id strm fr found named queued => exact ⟨.quiet (.set found rfl rfl) rfl (View.pending_same rfl rfl), idle⟩
  case stop id strm allowed found unlisted plain => exact ⟨.quiet (.set found rfl rfl) rfl (View.pending_same rfl rfl), idle⟩
  case rx id strm strm' allowed found step =>
    exact ⟨.quiet (.set found rfl step.same.1.ackedTxOffset) rfl (View.pending_same rfl rfl), idle⟩
  case credit n strm allowed found credits =>
    exact ⟨.quiet (.set found rfl rfl) rfl (View.pending_same rfl rfl), idle⟩
  case claim id offset n strm strm' allowed found same zero claims =>
    exact ⟨.quiet (.set found rfl same.ackedTxOffset) (ackEvents_plain rfl) (View.pending_same rfl rfl), idle⟩
  case refuse id n last strm allowed found reach =>
    exact ⟨.quiet (.set found rfl rfl) (ackEvents_plain rfl) (View.pending_same rfl rfl), idle⟩
  case fcLink id strm found unlisted receives => exact ⟨.quiet (.set found rfl rfl) rfl (View.pending_same rfl rfl), idle⟩
  case fcUnlink id strm found listed => exact ⟨.quiet (.set found rfl rfl) rfl (View.pending_same rfl rfl), idle⟩
  case advertiseStrm rest id strm first listed found queued =>
    exact ⟨.quiet (.set found rfl rfl) rfl (View.pending_same rfl rfl), idle⟩
  case sendStream ckm fr strm ent queue nalloc allowed ready keyed entry short carries pushed found offset
      bound strmFits connFits filled =>
    exact ⟨.quiet (.set found rfl rfl) (ackEvents_plain rfl) (View.pending_same rfl rfl), idle⟩
  case sendEarly ckm fr strm ent nalloc allowed ready entry short carries found offset bound strmFits
      connFits filled =>
    exact ⟨.quiet (.set found rfl rfl) (ackEvents_plain rfl) (View.pending_same rfl rfl), idle⟩
  -- a stream comes or goes
  case newRemote id idtr strm bound remote opened absent maxTx init =>
    exact ⟨.quiet (.opened absent rfl rfl (by rw [init]; rfl)) (ackEvents_plain rfl) (View.pending_same rfl rfl), idle⟩
  case newBidi strm allowed absent maxTx init =>
    exact ⟨.quiet (.opened absent rfl rfl (by rw [init]; rfl)) (ackEvents_plain rfl) (View.pending_same rfl rfl), idle⟩
  case newUni strm allowed absent maxTx init =>
    exact ⟨.quiet (.opened absent rfl rfl (by rw [init]; rfl)) (ackEvents_plain rfl) (View.pending_same rfl rfl), idle⟩
  case close id code strm found closable =>
    refine ⟨.quiet (.unset rfl) ?_ (View.pending_same rfl rfl), idle⟩
    simp [View.closeStream, ackEvents, closeMark, Event.plainAck]
  -- several events
  case handshakeOver state allowed =>
    refine ⟨.quiet (.same rfl) ?_ (View.pending_same rfl rfl), idle⟩
    simp [View.enter, View.emit, ackEvents, Event.plainAck]
  case split resting ckm frames ack ent ent' nent queue nalloc allowed ready carried held same chain renewed
      pktNum fresh allocated pushed =>
    refine ⟨.quiet (.same rfl) ?_ (View.pending_resting resting resting), fun _ => resting⟩
    simp [View.send, View.emit, ackEvents, Event.plainAck]
  -- the entry in hand
  case pop ent queue empty popped =>
    exact ⟨.quiet (.same rfl) rfl (View.pending_resting (idle empty) (idle empty)), fun none => by cases none⟩
  case discard resting ent frc held kept obsolete =>
    exact ⟨.quiet (.same rfl) rfl (View.pending_resting resting resting), fun none => by cases none⟩
  case drop settledFrames ent held settled =>
    refine ⟨.quiet (.same rfl) rfl ?_, fun _ => rfl⟩
    rw [View.pending_idle rfl]
    rcases settledFrames with resting | none | empty
    · exact (View.pending_idle resting).symm
    · simp [callback] at none
    · simp [View.pending, held, empty ent held]
  case resend resting ckm frames ack ent ent' queue allowed ready carried held same renewed pktNum pushed =>
    exact ⟨.quiet (.same rfl) (ackEvents_plain rfl) (View.pending_resting resting resting), fun _ => resting⟩
  case putBack resting ent queue held pushed =>
    exact ⟨.quiet (.same rfl) (ackEvents_plain rfl) (View.pending_resting resting resting), fun _ => resting⟩
  -- acknowledged packets
  case take ent held queue empty member slot removed =>
    refine ⟨.take ent.hd.pktNum ent.frc rfl (View.pending_idle (idle empty)) rfl
      (by simp [View.pending]) fun fr inside => ?_, fun none => by cases none⟩
    exact mem_flatMap.mpr ⟨ent, by simp [View.entries, member], inside⟩
  case ackFrame acking ent fr rest held chain acked silent =>
    have pending : v.pending = fr :: rest := (View.pending_held acking held).trans chain
    have inFlight : fr ∈ v.held := View.hand_held held (by simp [chain])
    have next : View.pending { v.ackFrame fr with hand := some { ent with frc := rest } } = rest := by
      rcases v.ackFrame_cases fr with ⟨_, _, _, _, same⟩ | ⟨_, same⟩ <;>
        simp [View.pending, same, View.setStrm, acking]
    refine ⟨.ack fr rfl ?_ (by rw [next, pending]) inFlight silent, fun none => by cases none⟩
    rcases v.ackFrame_cases fr with ⟨_, _, _, _, same⟩ | ⟨_, same⟩
    · rw [same]
      rfl
    · rw [same]
  case ackReport acking latest ent fr rest strm held chain acked found told =>
    have pending : v.pending = .stream fr :: rest := (View.pending_held acking held).trans chain
    refine ⟨.report fr strm found ?_ rfl (pending.trans ?_) (View.hand_held held (by simp [chain]))
      (latest ent held _ (by simp [chain])) told, fun none => by cases none⟩
    · simp [View.ackFrame, found, View.setStrm, View.emit]
    · simp [View.pending, View.setStrm, View.emit, acking]
  case retry allowed enters stays empty noted =>
    have resting := idle empty
    refine ⟨.retry v.keyed (!v.earlyRtb.isEmpty) (fun strm found => ?_) (fun id plain => ?_) ?_
      (View.pending_idle resting) (View.pending_idle resting), idle⟩
    · obtain rfl : _ = strm := by simpa [View.enter, View.setStrm, View.emit] using found
      rfl
    · simp [View.enter, View.setStrm, View.emit, plain]
    · simp [View.enter, View.setStrm, View.emit]
  all_goals first
    | exact ⟨.quiet (.same rfl) (ackEvents_plain rfl) (View.pending_same rfl rfl), idle⟩
    | exact ⟨.quiet (.same rfl) rfl (View.pending_same rfl rfl), idle⟩

end Steps

structure View.Notifies (v : View) : Prop where
  sent : v.Sent
  callback : v.ackedStreamDataOffset = true
  idle : v.hand = none → v.acking = false
  bounded : ∀ fr, .stream fr ∈ v.held → fr.endOffset < 18446744073709551616
  pending : ∀ fr ∈ v.pending, ∀ id, fr ∈ ackedFrames id v.log
  frames : ∀ id fr, .stream fr ∈ ackedFrames id v.log →
    fr.endOffset < 18446744073709551616 ∧ (fr.streamId ≠ 0 → .mark (.mapInsert fr.streamId false) ∈ v.log)
  opened : ∀ id, id ≠ 0 → notices id v.log ≠ [] → .mark (.mapInsert id false) ∈ v.log
  chained : ∀ id, ∃ stop, Chained 0 (notices id v.log) stop
  each : v.Each fun id strm => strm.Notified id v.log v.pending
  fin : FinTold (ackEvents v.log)

section Keep

variable {sc : Scope} {v w : View}

theorem Strm.Notified.same {strm strm' : Strm} {id : Nat} {log log' : List Event} {pending : List Frame}
    (ok : strm.Notified id log pending) (acked : strm'.ackedTxOffset = strm.ackedTxOffset)
    (told : notices id log' = notices id log) (frames : ackedFrames id log' = ackedFrames id log) :
    strm'.Notified id log' pending := by
  refine ⟨?_, ?_, ?_, ?_, ?_⟩ <;> rw [acked]
  · exact ok.ordered
  · exact ok.top
  · exact told ▸ ok.told
  · exact frames ▸ ok.closed
  · exact frames ▸ ok.acked

theorem Strm.Notified.init {strm : Strm} {id : Nat} {log : List Event} {pending : List Frame}
    (init : strm.ackedTxOffset = ngtcp2GaptrInit) (untold : notices id log = [])
    (none : ∀ fr, .stream fr ∈ ackedFrames id log → fr.streamId ≠ id) : strm.Notified id log pending := by
  have covers (o : Nat) : Covers ngtcp2GaptrInit.gap o ↔ o < uint64Max := by
    simp [ngtcp2GaptrInit, Covers, Range.Has]
  refine ⟨?_, ?_, ?_, ?_, ?_⟩ <;> rw [init]
  · exact ⟨Nat.le_refl _, by decide, trivial⟩
  · exact fun o open_ => (covers o).mp open_
  · rw [untold]
    rfl
  · exact fun o below closed => absurd ((covers o).mpr below) closed
  · intro fr member o carries
    obtain ⟨data, rfl, named, -⟩ := Frame.carries_stream.mp carries
    exact absurd named (none data member)

theorem Move.bounded (move : Move sc v w) (sent : v.Sent)
    (bounded : ∀ fr, .stream fr ∈ v.held → fr.endOffset < 18446744073709551616) :
    ∀ fr, .stream fr ∈ w.held → fr.endOffset < 18446744073709551616 := by
  intro fr member
  cases move.held sent.linked with
  | same perm => exact bounded fr (perm.subset member)
  | handshake new perm all =>
    rcases mem_append.mp (perm.subset member) with member | member
    · exact (all _ member).2 fr rfl
    · exact bounded fr member
  | queued new perm post taken =>
    rcases mem_append.mp (perm.subset member) with member | member
    · cases sent.control _ (taken ▸ mem_append_left _ member)
    · exact bounded fr member
  | stream new old strm perm held offset bound =>
    rcases mem_cons.mp (perm.subset member) with same | member
    · obtain rfl := Frame.stream.inj same
      rwa [StreamFrame.endOffset, offset]
    · exact bounded fr member
  | acked gone perm => exact bounded fr (perm.symm.subset (mem_cons_of_mem _ member))
  | obsolete gone perm => exact bounded fr (perm.symm.subset (mem_append_right gone member))
  | dropped gone perm => exact bounded fr (perm.symm.subset (mem_append_right gone member))
  | retry perm => exact bounded fr (perm.symm.subset (mem_append_right _ member))

theorem View.Notifies.recorded {fr : Frame} (ok : v.Notifies) (strms : w.strms = (v.ackFrame fr).strms)
    (pending : v.pending = fr :: w.pending) (inFlight : fr ∈ v.held)
    (frames : ∀ id, ackedFrames id w.log = ackedFrames id v.log)
    (told : ∀ data strm, fr = .stream data → v.strms data.streamId = some strm →
      Chained 0 (notices data.streamId w.log)
        (ngtcp2GaptrFirstGapOffset strm.ackedTxOffset + strm.ackedGain data))
    (others : ∀ id, (∀ data, fr = .stream data → data.streamId ≠ id) → notices id w.log = notices id v.log) :
    w.Each fun id strm => strm.Notified id w.log w.pending := by
  -- a stream that the frame is not about
  have other (id : Nat) (strm : Strm) (found : v.strms id = some strm)
      (apart : ∀ data, fr = .stream data → data.streamId ≠ id) : strm.Notified id w.log w.pending := by
    have before := (ok.each id strm found).same rfl (others id apart) (frames id)
    refine { before with acked := fun acked member o carries => ?_ }
    rcases before.acked acked member o carries with closed | ⟨waiting, inside, carries⟩
    · exact .inl closed
    · rw [pending] at inside
      rcases mem_cons.mp inside with rfl | inside
      · obtain ⟨data, same, named, -⟩ := Frame.carries_stream.mp carries
        exact absurd named (apart data same)
      · exact .inr ⟨waiting, inside, carries⟩
  intro id strm found
  rw [strms] at found
  rcases v.ackFrame_cases fr with ⟨data, old, rfl, held, same⟩ | ⟨absent, same⟩ <;> rw [same] at found
  · by_cases here : id = data.streamId
    · subst here
      obtain rfl : _ = strm := by simpa [View.setStrm] using found
      have member := ok.pending (.stream data) (by simp [pending]) data.streamId
      exact (ok.each _ old held).push (ok.bounded data inFlight) rfl member (frames _) pending (told data old rfl held)
    · refine other id strm (by simpa [View.setStrm, here] using found) fun data' same => ?_
      obtain rfl := Frame.stream.inj same
      exact fun named => here named.symm
  · refine other id strm found fun data is named => ?_
    subst named
    simp [absent data is] at found

theorem Move.notifies (move : Move sc v w) (ok : v.Notifies) : w.Notifies := by
  have sent := move.sent ok.sent
  have bounded := move.bounded ok.sent ok.bounded
  have callback := move.callback.trans ok.callback
  have later {e : Event} (member : e ∈ v.log) : e ∈ w.log := move.log_extends.subset member
  obtain ⟨step, idle⟩ := move.ackStep ok.callback ok.idle
  cases step with
  | quiet strms log pending =>
    have told := notices_same log
    have frames := ackedFrames_same log
    refine ⟨sent, callback, idle, bounded, ?_, ?_, ?_, ?_, fun id strm found => ?_, log ▸ ok.fin⟩
    · intro fr member id
      rw [frames]
      exact ok.pending fr (pending ▸ member) id
    · intro id fr member
      rw [frames] at member
      exact ⟨(ok.frames id fr member).1, fun plain => later ((ok.frames id fr member).2 plain)⟩
    · intro id plain some
      rw [told] at some
      exact later (ok.opened id plain some)
    · intro id
      rw [told]
      exact ok.chained id
    · rw [pending]
      rcases strms id strm found with ⟨old, held, acked⟩ | ⟨absent, inserted, init⟩
      · exact (ok.each id old held).same acked (told id) (frames id)
      · have plain : id ≠ 0 := by
          rintro rfl
          have zero := ok.sent.ids.zero
          simp [View.key, absent] at zero
        have fresh := sent.ids.fresh inserted
        refine .init init ?_ fun fr member named => ?_
        · rw [told]
          by_contra some
          exact fresh (ok.opened id plain some)
        · rw [frames] at member
          subst named
          exact fresh ((ok.frames _ fr member).2 plain)
  | take n new strms resting log pending inFlight =>
    have told (id : Nat) : notices id w.log = notices id v.log := by
      rw [log, notices_concat]
      simp [Event.restarts, Event.notice?]
    have frames (id : Nat) : ackedFrames id w.log = ackedFrames id v.log ++ new := by
      rw [log, ackedFrames_concat]
      simp [Event.restarts, Event.ackedFrames?]
    refine ⟨sent, callback, idle, bounded, ?_, ?_, ?_, ?_, fun id strm found => ?_, ?_⟩
    · intro fr member id
      rw [frames]
      exact mem_append_right _ (pending ▸ member)
    · intro id fr member
      rw [frames] at member
      rcases mem_append.mp member with member | member
      · exact ⟨(ok.frames id fr member).1, fun plain => later ((ok.frames id fr member).2 plain)⟩
      · exact ⟨ok.bounded fr (inFlight member), fun plain => later (ok.sent.frames fr (inFlight member) plain).2⟩
    · intro id plain some
      rw [told] at some
      exact later (ok.opened id plain some)
    · intro id
      rw [told]
      exact ok.chained id
    · have before := ok.each id strm (strms ▸ found)
      refine ⟨before.ordered, before.top, told id ▸ before.told, fun o below closed => ?_,
        fun fr member o carries => ?_⟩
      · obtain ⟨fr, member, carries⟩ := before.closed o below closed
        rw [frames]
        exact ⟨fr, mem_append_left _ member, carries⟩
      · rw [frames] at member
        rcases mem_append.mp member with member | member
        · rcases before.acked fr member o carries with closed | ⟨_, waits, _⟩
          · exact .inl closed
          · simp [resting] at waits
        · exact .inr ⟨fr, pending ▸ member, carries⟩
    · rw [log, ackEvents_concat rfl]
      exact ok.fin.concat fun id offset same => by cases same
  | ack fr strms log pending inFlight silent =>
    have frames (id : Nat) : ackedFrames id w.log = ackedFrames id v.log := by rw [log]
    refine ⟨sent, callback, idle, bounded, ?_, log ▸ ok.frames, log ▸ ok.opened, log ▸ ok.chained,
      ok.recorded strms pending inFlight frames ?_ fun id _ => by rw [log], log ▸ ok.fin⟩
    · intro fr' member id
      rw [frames]
      exact ok.pending fr' (by simp [pending, member]) id
    · intro data strm same found
      rw [log, (silent data strm same found).1]
      exact (ok.each _ strm found).told
  | report fr strm found strms log pending inFlight latest told =>
    have frames (id : Nat) : ackedFrames id w.log = ackedFrames id v.log := by
      rw [log, ackedFrames_concat]
      simp [Event.restarts, Event.ackedFrames?]
    have others (id : Nat) (apart : fr.streamId ≠ id) : notices id w.log = notices id v.log := by
      rw [log, notices_concat]
      simp [Event.restarts, Event.notice?, apart]
    have now : Chained 0 (notices fr.streamId w.log)
        (ngtcp2GaptrFirstGapOffset strm.ackedTxOffset + strm.ackedGain fr) := by
      rw [log, notices_concat]
      simp only [Event.restarts, Event.notice?, Bool.false_eq_true, ↓reduceIte, Option.toList_some]
      exact (ok.each _ strm found).told.concat
    refine ⟨sent, callback, idle, bounded, ?_, ?_, ?_, ?_, ok.recorded strms pending inFlight frames ?_ ?_, ?_⟩
    · intro fr' member id
      rw [frames]
      exact ok.pending fr' (by simp [pending, member]) id
    · intro id fr' member
      rw [frames] at member
      exact ⟨(ok.frames id fr' member).1, fun plain => later ((ok.frames id fr' member).2 plain)⟩
    · intro id plain some
      by_cases here : fr.streamId = id
      · subst here
        exact later (ok.sent.inserted _ strm found plain)
      · rw [others id here] at some
        exact later (ok.opened id plain some)
    · intro id
      by_cases here : fr.streamId = id
      · subst here
        exact ⟨_, now⟩
      · rw [others id here]
        exact ok.chained id
    · intro data old same held
      obtain rfl := Frame.stream.inj same
      obtain rfl : strm = old := Option.some.inj (found.symm.trans held)
      exact now
    · exact fun id apart => others id (apart fr rfl)
    · rw [log, ackEvents_concat rfl]
      refine ok.fin.concat fun id offset same => ?_
      obtain ⟨rfl, -, none⟩ := Event.ackedStreamDataOffset.inj same
      rw [lastAcked_ackEvents]
      exact ⟨fr, latest, rfl, told.resolve_left fun some => some none⟩
  | retry keyed early zero others log resting pending =>
    have split : w.log = (v.log ++ [.mark (.retry keyed early)]) ++ [.mark (.state .CLIENT_INITIAL)] := by simp [log]
    have told (id : Nat) : notices id w.log = if id = 0 then [] else notices id v.log := by
      rw [split, notices_concat, notices_concat]
      by_cases here : id = 0 <;> simp [Event.restarts, Event.notice?, here]
    have frames (id : Nat) : ackedFrames id w.log = if id = 0 then [] else ackedFrames id v.log := by
      rw [split, ackedFrames_concat, ackedFrames_concat]
      by_cases here : id = 0 <;> simp [Event.restarts, Event.ackedFrames?, here]
    refine ⟨sent, callback, idle, bounded, ?_, ?_, ?_, ?_, fun id strm found => ?_, ?_⟩
    · intro fr member
      simp [pending] at member
    · intro id fr member
      rw [frames] at member
      by_cases here : id = 0
      · simp [here] at member
      · rw [if_neg here] at member
        exact ⟨(ok.frames id fr member).1, fun plain => later ((ok.frames id fr member).2 plain)⟩
    · intro id plain some
      rw [told, if_neg plain] at some
      exact later (ok.opened id plain some)
    · intro id
      rw [told]
      by_cases here : id = 0
      · rw [if_pos here]
        exact ⟨0, rfl⟩
      · rw [if_neg here]
        exact ok.chained id
    · by_cases here : id = 0
      · subst here
        refine .init (zero strm found) (told 0) fun fr member => ?_
        simp [frames] at member
      · rw [pending, ← resting]
        have before := ok.each id strm (by rw [← others id here, found])
        exact before.same rfl (by rw [told, if_neg here]) (by rw [frames, if_neg here])
    · rw [split, ackEvents_plain rfl, ackEvents_concat rfl]
      exact ok.fin.concat fun id offset same => by cases same

end Keep

section Runs

theorem Started.notifies {c : Conn} (first : Started c) (callback : c.ackedStreamDataOffset = true) :
    c.view.Notifies where
  sent := first.sent
  callback := callback
  idle _ := rfl
  bounded fr member := by cases first <;> cases member
  pending fr member := nomatch member
  frames id fr member := by cases first <;> cases member
  opened id _ some := by cases first <;> exact absurd rfl some
  chained id := ⟨0, by cases first <;> rfl⟩
  each := first.each fun maxRx => .init rfl (by cases first <;> rfl) fun fr member => by
    cases first <;> cases member
  fin before after id offset split := by
    have none : ackEvents c.view.log = [] := by cases first <;> rfl
    simp [none] at split

theorem Runs.notifies {acts : List Act} {c : Conn} (run : Runs acts c)
    (callback : c.ackedStreamDataOffset = true) : c.view.Notifies := by
  -- whether there is a callback never changes
  have kept : c.view.ackedStreamDataOffset = true → c.view.Notifies := by
    refine run.invariant (C := fun _ => True) (P := fun v => v.ackedStreamDataOffset = true → v.Notifies)
      (fun _ _ => trivial) (fun _ first => first.notifies) (fun v w move _ ih callback => ?_) trivial
    exact move.notifies (ih (move.callback.symm.trans callback))
  exact kept callback

theorem Conn.ackEvents_view (c : Conn) : ackEvents c.view.log = ackEvents c.log := by
  unfold ackEvents Conn.view
  rw [filter_filter]
  refine filter_congr fun e _ => ?_
  cases e <;> simp [Event.plainAck, Event.kept]

theorem Strm.Notified.reaches {strm : Strm} {id : Nat} {log : List Event} (ok : strm.Notified id log [])
    (bounded : ∀ fr, .stream fr ∈ ackedFrames id log → fr.endOffset < 18446744073709551616) :
    (∀ o < ngtcp2GaptrFirstGapOffset strm.ackedTxOffset, Acknowledged log id o) ∧
      ¬ Acknowledged log id (ngtcp2GaptrFirstGapOffset strm.ackedTxOffset) := by
  have small := firstGap_le _ ok.ordered ok.top
  constructor
  · intro o below
    obtain ⟨fr, member, carries⟩ := ok.closed o (by omega) (below_firstGap ok.ordered below)
    obtain ⟨data, rfl, has⟩ := Frame.carries_stream.mp carries
    exact ⟨data, member, has⟩
  · rintro ⟨fr, member, named, low, high⟩
    rcases ok.acked _ member _ ((Frame.carries_own named).mpr ⟨low, high⟩) with closed | ⟨_, none, _⟩
    · have bound := bounded fr member
      unfold ngtcp2GaptrFirstGapOffset at closed high
      cases gaps : strm.ackedTxOffset.gap with
      | nil =>
        -- no offset is left, and no frame reaches that far
        simp only [gaps, first, uint64Max] at high
        omega
      | cons r rest =>
        have ordered := gaps ▸ ok.ordered
        simp only [gaps] at closed
        exact closed ((covers_cons ..).mpr (.inl ⟨Nat.le_refl _, ordered.2.1⟩))
    · cases none

/-- What the application is told of a stream is a chain from offset 0 to the least offset that is not
acknowledged. -/
theorem acks_chained {acts : List Act} {c : Conn} (run : Runs acts c) (callback : c.ackedStreamDataOffset = true)
    (id : Nat) :
    (∃ stop, Chained 0 (notices id c.log) stop ∧ ∀ strm, c.strms id = some strm →
      (∀ o < stop, Acknowledged c.log id o) ∧ ¬ Acknowledged c.log id stop) ∧
    ∀ before after offset, c.log = before ++ .ackedStreamDataOffset id offset 0 :: after →
      ∃ fr, .stream fr ∈ lastAcked before ∧ fr.streamId = id ∧ fr.fin = true := by
  have ok := Runs.notifies run callback
  have told := notices_same c.ackEvents_view id
  have frames := ackedFrames_same c.ackEvents_view id
  refine ⟨?_, fun before after offset split => ?_⟩
  · cases found : c.strms id with
    | none =>
      obtain ⟨stop, chained⟩ := ok.chained id
      exact ⟨stop, told ▸ chained, fun strm held => (nomatch held)⟩
    | some strm =>
      have notified : strm.Notified id c.log [] := (ok.each.conn found).same rfl told.symm frames.symm
      refine ⟨_, notified.told, fun strm' held => ?_⟩
      obtain rfl := Option.some.inj held
      exact notified.reaches fun fr member => (ok.frames id fr (frames ▸ member)).1
  · have parts : ackEvents c.view.log =
        ackEvents before ++ .ackedStreamDataOffset id offset 0 :: ackEvents after := by
      rw [c.ackEvents_view, split]
      simp [ackEvents, Event.plainAck]
    have fin := ok.fin _ _ id offset parts
    rwa [lastAcked_ackEvents] at fin

def swappedAckCalls : List (App × Call) :=
  [(.quiet, .openBidiStream), (.quiet, .writeStream 1200 1 false [1, 2, 3] 0),
   (.quiet, .writeStream 1200 1 true [4, 5] 0),
   (.quiet, .frame (.ack { largestAck := 3, ackDelay := 0, firstAckBlklen := 0, blks := [] })),
   (.quiet, .frame (.ack { largestAck := 2, ackDelay := 0, firstAckBlklen := 0, blks := [] }))]

theorem acks_chained_swappedAckCalls :
    notices 1 (openServer.play swappedAckCalls).log = [(0, 0), (0, 5)] ∧
      ∃ stop, Chained 0 (notices 1 (openServer.play swappedAckCalls).log) stop ∧
        ∀ strm, (openServer.play swappedAckCalls).strms 1 = some strm →
          (∀ o < stop, Acknowledged (openServer.play swappedAckCalls).log 1 o) ∧
            ¬ Acknowledged (openServer.play swappedAckCalls).log 1 stop :=
  ⟨by decide, (acks_chained (Runs.play openServer_runs swappedAckCalls (by decide)) (by decide) 1).1⟩

def firstAckPkt : Pkt :=
  .of true .HANDSHAKE 1 [.ack { largestAck := 1, ackDelay := 0, firstAckBlklen := 0, blks := [] }] (by decide)

def restartedCalls : List (App × Call) :=
  [(.quiet, .tls (.setHandshakeTxKeys .plain)), (.quiet, .tls (.setHandshakeRxKeys .plain)),
   (.hello, .writePkt 1200 0), (.quiet, .recv (some firstAckPkt) 0),
   (.quiet, .recv (some (handshakePkt .RETRY 2 0)) 0), (.hello, .writePkt 1200 0),
   (.quiet, .recv (some firstAckPkt) 0)]

theorem acks_restart :
    ∃ acts c, Runs acts c ∧ c.ackedStreamDataOffset = true ∧
      ¬ ∃ stop, Chained 0 (c.log.filterMap (Event.notice? 0)) stop := by
  have run : Runs ((ngtcp2ConnClientNew 1 1 .plain true).acts restartedCalls)
      ((ngtcp2ConnClientNew 1 1 .plain true).play restartedCalls) :=
    Runs.play (.start (.client 1 1 .plain true)) restartedCalls (by decide +kernel)
  refine ⟨_, _, run, by decide +kernel, ?_⟩
  have told : ((ngtcp2ConnClientNew 1 1 .plain true).play restartedCalls).log.filterMap (Event.notice? 0) =
      [(0, 1), (0, 1)] := by decide +kernel
  rw [told]
  rintro ⟨stop, -, again, -⟩
  cases again

end Runs

end Ngtcp2
