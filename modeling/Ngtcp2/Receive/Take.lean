import Ngtcp2.Receive.Buffer
import Ngtcp2.Receive.Side

/-!
# Taking the data of a frame

What the data of a frame does to the receive side of a stream is a function of that side.
-/

namespace Ngtcp2

open Prog

variable (app : App)

def RxSide.take (side : RxSide) (fr : StreamFrame) : Except Err (List (List UInt8) × RxSide) :=
  let rxOffset := ngtcp2RobFirstGapOffset side.rob
  if fr.offset ≤ rxOffset then
    let data := fr.data.drop (rxOffset - fr.offset)
    match robDrain (side.rob.data.length + 2) (rxOffset + data.length)
        (ngtcp2RobRemovePrefix side.rob (rxOffset + data.length)) with
    | .error e => .error e
    | .ok (chunks, rob) => .ok (data :: chunks, { side with rob := rob })
  else .ok ([], { side with rob := ngtcp2RobPush side.rob fr.offset fr.data })

theorem RxSide.take_reached {side : RxSide} {fr : StreamFrame} {chunks : List (List UInt8)} {rob : Rob}
    {rxOffset : Nat} (gap : ngtcp2RobFirstGapOffset side.rob = rxOffset) (reached : fr.offset ≤ rxOffset)
    (drained : robDrain (side.rob.data.length + 2) (rxOffset + (fr.data.drop (rxOffset - fr.offset)).length)
      (ngtcp2RobRemovePrefix side.rob (rxOffset + (fr.data.drop (rxOffset - fr.offset)).length)) =
        .ok (chunks, rob)) :
    side.take fr = .ok (fr.data.drop (rxOffset - fr.offset) :: chunks, { side with rob := rob }) := by
  subst gap
  simp only [RxSide.take, reached, ↓reduceIte, drained]

theorem RxSide.take_fails {side : RxSide} {fr : StreamFrame} {e : Err} {rxOffset : Nat}
    (gap : ngtcp2RobFirstGapOffset side.rob = rxOffset) (reached : fr.offset ≤ rxOffset)
    (failed : robDrain (side.rob.data.length + 2) (rxOffset + (fr.data.drop (rxOffset - fr.offset)).length)
      (ngtcp2RobRemovePrefix side.rob (rxOffset + (fr.data.drop (rxOffset - fr.offset)).length)) = .error e) :
    side.take fr = .error e := by
  subst gap
  simp only [RxSide.take, reached, ↓reduceIte, failed]

theorem RxSide.take_behind {side : RxSide} {fr : StreamFrame}
    (behind : ¬ fr.offset ≤ ngtcp2RobFirstGapOffset side.rob) :
    side.take fr = .ok ([], { side with rob := ngtcp2RobPush side.rob fr.offset fr.data }) :=
  if_neg behind

theorem RxSide.take_keeps (side : RxSide) {a : Assembly UInt8} {fr : StreamFrame} (keeps : side.rob.Keeps a)
    (bound : fr.endOffset ≤ 2 * varintBound) (new : a.front < fr.endOffset) :
    ∃ chunks rob, side.take fr = .ok (chunks, { side with rob := rob }) ∧
      rob.Keeps (a.put fr.offset fr.data) ∧ (a.put fr.offset fr.data).text = a.text ++ chunks.flatten ∧
      (∀ chunk ∈ chunks, chunk ≠ []) ∧ (chunks = [] ↔ a.front < fr.offset) := by
  unfold StreamFrame.endOffset StreamFrame.datalen at bound new
  by_cases reached : fr.offset ≤ a.front
  · have len : a.front + (fr.data.drop (a.front - fr.offset)).length = fr.offset + fr.data.length := by
      rw [List.length_drop]
      omega
    obtain ⟨chunks, rob, drained, kept, text, filled⟩ := keeps.take bound reached new (Nat.le_refl _)
    refine ⟨fr.data.drop (a.front - fr.offset) :: chunks, rob, ?_, kept, ?_, ?_, ?_⟩
    · exact RxSide.take_reached keeps.firstGap reached (by rw [len]; exact drained)
    · rw [text, List.flatten_cons]
    · intro chunk member
      rcases List.mem_cons.mp member with rfl | later
      · intro none
        rw [none, List.length_nil] at len
        omega
      · exact filled chunk later
    · simp [reached]
  · have behind : a.front < fr.offset := Nat.lt_of_not_le reached
    refine ⟨[], _, RxSide.take_behind (by rwa [keeps.firstGap]), keeps.push bound behind, ?_, by simp,
      by simp [behind]⟩
    rw [Assembly.put_text_behind behind]
    simp

def RxSide.accept (side : RxSide) (fr : StreamFrame) : Except Err (List (List UInt8) × RxSide) :=
  let side := { side with lastRxOffset := max side.lastRxOffset fr.endOffset }
  if fr.endOffset ≤ ngtcp2RobFirstGapOffset side.rob then .ok ([], side) else side.take fr

theorem RxSide.accept_keeps (side : RxSide) {a : Assembly UInt8} (fr : StreamFrame) (keeps : side.rob.Keeps a)
    (bound : fr.endOffset ≤ 2 * varintBound) :
    ∃ chunks rob, side.accept fr = .ok (chunks,
        { side with rob := rob, lastRxOffset := max side.lastRxOffset fr.endOffset }) ∧
      rob.Keeps (a.put fr.offset fr.data) ∧ (a.put fr.offset fr.data).text = a.text ++ chunks.flatten := by
  unfold RxSide.accept
  dsimp only
  rw [keeps.firstGap]
  split
  next old =>
    refine ⟨[], side.rob, rfl, ?_, ?_⟩ <;> rw [Assembly.put_old old]
    · exact keeps
    · simp
  next new =>
    let further : RxSide := { side with lastRxOffset := max side.lastRxOffset fr.endOffset }
    obtain ⟨chunks, rob, taken, kept, text, -⟩ :=
      further.take_keeps keeps bound (Nat.lt_of_not_le new)
    exact ⟨chunks, rob, taken, kept, text⟩

theorem RxSide.take_side {side side' : RxSide} {fr : StreamFrame} {chunks : List (List UInt8)}
    (taken : side.take fr = .ok (chunks, side')) : ∃ rob, side' = { side with rob := rob } := by
  unfold RxSide.take at taken
  dsimp only at taken
  split at taken
  · split at taken
    · cases taken
    · cases taken
      exact ⟨_, rfl⟩
  · cases taken
    exact ⟨_, rfl⟩

theorem Conn.rxSide_of {c : Conn} {id : Nat} {strm : Strm} (found : c.strms id = some strm) :
    c.rxSide id = some strm.rxSide := by
  simp [Conn.rxSide, found]

theorem Conn.strm_of {c : Conn} {id : Nat} {side : RxSide} (held : c.rxSide id = some side) :
    ∃ strm, c.strms id = some strm ∧ strm.rxSide = side := by
  unfold Conn.rxSide at held
  exact Option.map_eq_some_iff.mp held

theorem Conn.rxSide_setStrm (c : Conn) (id : Nat) (strm : Strm) :
    (c.setStrm id (some strm)).rxSide id = some strm.rxSide := by
  simp [Conn.rxSide]

section Frames

def Covered (frs : List StreamFrame) (o : Nat) : Prop := ∃ fr ∈ frs, fr.offset ≤ o ∧ o < fr.endOffset

def LeastUncovered (frs : List StreamFrame) (g : Nat) : Prop :=
  ¬ Covered frs g ∧ ∀ o, o < g → Covered frs o

def StreamFrame.PartOf (fr : StreamFrame) (whole : List UInt8) : Prop :=
  ∀ i, (h : i < fr.data.length) → whole[fr.offset + i]? = some fr.data[i]

instance (frs : List StreamFrame) (o : Nat) : Decidable (Covered frs o) :=
  inferInstanceAs (Decidable (∃ fr ∈ frs, fr.offset ≤ o ∧ o < fr.endOffset))

instance (frs : List StreamFrame) (g : Nat) : Decidable (LeastUncovered frs g) :=
  inferInstanceAs (Decidable (_ ∧ _))

instance (fr : StreamFrame) (whole : List UInt8) : Decidable (fr.PartOf whole) :=
  inferInstanceAs (Decidable (∀ i, (h : i < fr.data.length) → whole[fr.offset + i]? = some fr.data[i]))

def assembled (frs : List StreamFrame) : Assembly UInt8 :=
  frs.foldl (fun a fr => a.put fr.offset fr.data) .empty

theorem assembled_concat (frs : List StreamFrame) (fr : StreamFrame) :
    assembled (frs ++ [fr]) = (assembled frs).put fr.offset fr.data := by
  simp [assembled]

theorem assembled_covered (frs : List StreamFrame) (o : Nat) :
    ((assembled frs).cell o).isSome = true ↔ Covered frs o := by
  induction frs using List.reverseRecOn with
  | nil => simp [assembled, Assembly.empty, Covered]
  | append_singleton frs fr ih =>
    rw [assembled_concat, Assembly.put_cell_isSome, ih]
    constructor
    · rintro (⟨fr', member, inside⟩ | inside)
      · exact ⟨fr', List.mem_append_left _ member, inside⟩
      · exact ⟨fr, by simp, inside⟩
    · rintro ⟨fr', member, inside⟩
      rcases List.mem_append.mp member with member | member
      · exact .inl ⟨fr', member, inside⟩
      · obtain rfl := List.mem_singleton.mp member
        exact .inr inside

theorem assembled_agrees {frs : List StreamFrame} {whole : List UInt8}
    (parts : ∀ fr ∈ frs, fr.PartOf whole) : (assembled frs).Agrees whole := by
  induction frs using List.reverseRecOn with
  | nil =>
    intro o b held
    cases held
  | append_singleton frs fr ih =>
    rw [assembled_concat]
    exact (ih fun fr' member => parts fr' (List.mem_append_left _ member)).put (parts fr (by simp))

theorem assembled_front {frs : List StreamFrame} {g : Nat} (least : LeastUncovered frs g) :
    (assembled frs).front = g := by
  refine Assembly.front_eq ?_ fun o below => (assembled_covered frs o).mpr (least.2 o below)
  have missing := mt (assembled_covered frs g).mp least.1
  simpa using missing

theorem assembled_text {frs : List StreamFrame} {whole : List UInt8} {g : Nat}
    (parts : ∀ fr ∈ frs, fr.PartOf whole) (least : LeastUncovered frs g) :
    (assembled frs).text = whole.take g := by
  rw [(assembled_agrees parts).text, assembled_front least]

end Frames

section Events

def Conn.emits (c : Conn) (es : List Event) : Conn := { c with log := c.log ++ es }

def deliverEvents (id : Nat) (shutRd : Bool) (last : Nat) : Nat → List (List UInt8) → List Event
  | _, [] => []
  | rxOffset, data :: rest =>
    .recvStreamData id (shutRd && rxOffset + data.length == last) data ::
      deliverEvents id shutRd last (rxOffset + data.length) rest

theorem connEmitPendingStreamData_drains {id : Nat} (rounds rxOffset : Nat) {s : Conn} {strm : Strm}
    (found : s.strms id = some strm) :
    wp (connEmitPendingStreamData app id rounds rxOffset)
      (fun _ t => ∃ chunks rob, robDrain rounds rxOffset strm.rob = .ok (chunks, rob) ∧
        t = (s.emits (deliverEvents id strm.shutRd strm.lastRxOffset rxOffset chunks)).setStrm id
          (some { strm with rob := rob }))
      (fun e _ => e = .CALLBACK_FAILURE ∨ robDrain rounds rxOffset strm.rob = .error e) s := by
  induction rounds generalizing rxOffset s strm with
  | zero =>
    refine ⟨[], strm.rob, rfl, ?_⟩
    simp [deliverEvents, Conn.emits, Conn.setStrm, ← found]
  | succ rounds ih =>
    unfold connEmitPendingStreamData
    rw [wp_bind, wp_getStrm found]
    cases read : ngtcp2RobDataAt strm.rob rxOffset with
    | error e => exact .inr (by simp only [robDrain, read])
    | ok data =>
      rw [wp_bind, wp_ofExcept_ok]
      split
      next none =>
        subst none
        split
        next here =>
          refine ⟨[], strm.rob, robDrain_stop read here, ?_⟩
          simp [deliverEvents, Conn.emits, Conn.setStrm, ← found]
        next ahead =>
          have stuck : ¬ rxOffset = ngtcp2RobFirstGapOffset strm.rob := ahead
          exact .inr (by simp only [robDrain, read, if_pos, if_neg stuck])
      next some_data =>
        rw [wp_bind]
        refine wp_intro (fun _ t run => ?_) fun _ _ run => .inl (connCall_failed app run)
        cases connCall_ok app run
        cases popped : ngtcp2RobPop strm.rob rxOffset data.length with
        | error e => exact .inr (by simp only [robDrain, read, if_neg some_data, popped])
        | ok rob =>
          rw [wp_bind, wp_ofExcept_ok, wp_bind]
          refine Eq.mpr (wp_modifyStrm _ (by exact found)) ?_
          refine wp_mono (ih (rxOffset + data.length) (Conn.setStrm_strms ..)) ?_ fun e _ err => err.imp_right ?_
          case refine_2 =>
            intro failed
            simp only [robDrain, read, if_neg some_data, popped, failed]
          rintro _ u ⟨chunks, rob', drained, rfl⟩
          refine ⟨data :: chunks, rob', robDrain_next read some_data popped drained, ?_⟩
          simp [deliverEvents, Conn.emits, Conn.emit, Conn.setStrm]

theorem connTakeStream_takes {fr : StreamFrame} {s : Conn} {strm : Strm} (plain : fr.streamId ≠ 0)
    (found : s.strms fr.streamId = some strm) :
    wp (connTakeStream app fr)
      (fun _ t => ∃ chunks rob, strm.rxSide.take fr = .ok (chunks, { strm.rxSide with rob := rob }) ∧
        t = (s.emits (deliverEvents fr.streamId strm.shutRd strm.lastRxOffset (ngtcp2StrmRxOffset strm)
          chunks)).setStrm fr.streamId (some { strm with rob := rob }))
      (fun e _ => e = .CALLBACK_FAILURE ∨ strm.rxSide.take fr = .error e) s := by
  unfold connTakeStream
  rw [wp_bind, wp_getStrm found]
  dsimp only
  split
  next reached =>
    let data := fr.data.drop (ngtcp2StrmRxOffset strm - fr.offset)
    let removed : Strm := { strm with rob := ngtcp2RobRemovePrefix strm.rob (ngtcp2StrmRxOffset strm + data.length) }
    rw [wp_bind]
    refine Eq.mpr (wp_modifyStrm _ found) ?_
    rw [wp_bind]
    refine wp_intro (fun _ t run => ?_) fun _ _ run => .inl (connCall_failed app run)
    cases connCall_ok app run
    refine wp_mono (connEmitPendingStreamData_drains app _ _ (Conn.setStrm_strms _ _ (some removed))) ?_
      fun e _ err => err.imp_right fun failed => RxSide.take_fails rfl reached failed
    rintro _ u ⟨chunks, rob, drained, rfl⟩
    refine ⟨data :: chunks, rob, RxSide.take_reached rfl reached drained, ?_⟩
    simp [deliverEvents, Conn.emits, Conn.emit, Conn.setStrm, removed, data]
  next behind =>
    refine Eq.mpr (wp_modifyStrm _ found) ⟨[], _, RxSide.take_behind behind, ?_⟩
    simp [deliverEvents, Conn.emits, ngtcp2StrmRecvReordering, Strm.rxSide]

end Events

section Zero

def Event.handed? : Event → Option (List UInt8)
  | .recvStream0Data data => some data
  | _ => none

def handed (log : List Event) : List (List UInt8) := log.filterMap Event.handed?

theorem handed_emit (c : Conn) {e : Event} (plain : e.handed? = none) :
    handed (c.emit e).log = handed c.log := by
  simp [handed, Conn.emit, plain]

def Idle0 (s t : Conn) : Prop := t.rxSide 0 = s.rxSide 0 ∧ handed t.log = handed s.log

instance : Path Idle0 (fun _ : Err => Idle0) where
  refl _ := ⟨rfl, rfl⟩
  trans first second := ⟨second.1.trans first.1, second.2.trans first.2⟩
  stop same := same
  after first second := ⟨second.1.trans first.1, second.2.trans first.2⟩

theorem emitEvent_idle {e : Event} (plain : e.handed? = none) (s : Conn) :
    Goes Idle0 (fun _ => Idle0) (emitEvent e) s :=
  .modified ⟨rfl, handed_emit s plain⟩

theorem modifyStrm_idle {id : Nat} {f : Strm → Strm} (same : ∀ strm, (f strm).rxSide = strm.rxSide) (s : Conn) :
    Goes Idle0 (fun _ => Idle0) (modifyStrm id f) s := by
  refine .modified ⟨?_, rfl⟩
  unfold Conn.rxSide
  by_cases zero : 0 = id
  · subst zero
    cases s.strms 0 <;> simp [same]
  · simp [zero]

theorem getStrm_idle (id : Nat) (s : Conn) : Goes Idle0 (fun _ => Idle0) (getStrm id) s :=
  wp_intro (fun _ _ run => (getStrm_ok run).1 ▸ ⟨rfl, rfl⟩)
    fun _ _ run => getStrm_error_same run ▸ ⟨rfl, rfl⟩

theorem tlsCall_idle (call : TlsCall) (s : Conn) : Goes Idle0 (fun _ => Idle0) (tlsCall call) s := by
  have key (current : Conn → Option CryptoKm) {install : Conn → Conn}
      (same : ∀ c, (install c).strms = c.strms ∧ (install c).log = c.log) (s : Conn) :
      Goes Idle0 (fun _ => Idle0) (installKey current install) s := by
    refine .got ?_
    split
    · exact .failed _
    · refine .modified ⟨?_, ?_⟩
      · unfold Conn.rxSide
        rw [(same s).1]
      · rw [(same s).2]
  have settings (settings : Settings) (s : Conn) :
      Goes Idle0 (fun _ => Idle0) (connSetRemoteSettings settings) s :=
    .got (.seq (emitEvent_idle rfl s) fun _ _ _ => .modified ⟨rfl, rfl⟩)
  cases call with
  | setRemoteTransportParams exttype params =>
    exact .got (.seq (.result _) fun _ _ _ => .seq (settings _ _) fun _ t _ => .seq (getStrm_idle 0 t)
      fun _ u _ => .seq (emitEvent_idle rfl u) fun _ w _ => .seq (modifyStrm_idle (by exact fun _ => rfl) w)
        fun _ _ _ => .modified ⟨rfl, rfl⟩)
  | setEarlyRemoteTransportParams params =>
    refine .got ?_
    split
    · exact .failed _
    · exact settings _ _
  | handshakeCompleted => exact .modified ⟨rfl, rfl⟩
  | setAeadOverhead aeadOverhead => exact .modified ⟨rfl, rfl⟩
  | earlyDataRejected => exact .modified ⟨rfl, rfl⟩
  | setHandshakeTxKeys ckm => exact key _ (by exact fun _ => ⟨rfl, rfl⟩) s
  | setHandshakeRxKeys ckm => exact key _ (by exact fun _ => ⟨rfl, rfl⟩) s
  | updateEarlyKeys ckm => exact key _ (by exact fun _ => ⟨rfl, rfl⟩) s
  | updateTxKeys ckm => exact key _ (by exact fun _ => ⟨rfl, rfl⟩) s
  | updateRxKeys ckm => exact key _ (by exact fun _ => ⟨rfl, rfl⟩) s

theorem tlsCalls_idle (calls : List TlsCall) (s : Conn) :
    Goes Idle0 (fun _ => Idle0) (tlsCalls calls) s := by
  induction calls generalizing s with
  | nil => exact .done _
  | cons call rest ih =>
    exact .attempted (tlsCall_idle call s) (fun _ t _ => ih t) fun _ t _ idle => (ih t).after idle

theorem markRefusedStream0_idle (refused : Bool) (s : Conn) :
    Goes Idle0 (fun _ => Idle0) (markRefusedStream0 refused) s := by
  cases refused
  · exact .done _
  · exact emitEvent_idle rfl s

theorem connCallRecvStream0Data_hands (data : List UInt8) (s : Conn) :
    wp (connCallRecvStream0Data app data)
      (fun _ t => t.rxSide 0 = s.rxSide 0 ∧ handed t.log = handed s.log ++ [data])
      (fun _ t => t.rxSide 0 = s.rxSide 0 ∧ handed t.log = handed s.log ++ [data]) s := by
  have first : handed (s.emit (.recvStream0Data data)).log = handed s.log ++ [data] := by
    simp [handed, Conn.emit, Event.handed?]
  unfold connCallRecvStream0Data connCallTls
  rw [wp_bind, wp_get, wp_bind, wp_bind, wp_get, wp_bind]
  change wp (tlsCalls _) _ _ (s.emit (.recvStream0Data data))
  refine wp_mono (tlsCalls_idle _ (s.emit (.recvStream0Data data))) (fun _ t idle => ?_) fun _ t idle => ?_
  · rw [wp_bind]
    refine wp_mono (markRefusedStream0_idle _ t) (fun _ u noted => ?_) fun _ u noted => ?_
    · have done : u.rxSide 0 = s.rxSide 0 ∧ handed u.log = handed s.log ++ [data] :=
        ⟨noted.1.trans idle.1, noted.2.trans (idle.2.trans first)⟩
      split <;> exact done
    · exact ⟨noted.1.trans idle.1, noted.2.trans (idle.2.trans first)⟩
  · exact ⟨idle.1, idle.2.trans first⟩

theorem connCreditStrm0_idle (n : Nat) (s : Conn) : Goes Idle0 (fun _ => Idle0) (connCreditStrm0 n) s :=
  .seq (getStrm_idle 0 s) fun _ t _ => .seq (emitEvent_idle rfl t) fun _ u _ =>
    modifyStrm_idle (by exact fun _ => rfl) u

theorem connExtendMaxStreamOffset_idle (n : Nat) (s : Conn) :
    Goes Idle0 (fun _ => Idle0) (connExtendMaxStreamOffset 0 n) s := by
  refine .seq (emitEvent_idle rfl s) fun _ marked _ => .seq (modifyStrm_idle (fun strm => ?_) marked)
    fun _ t _ => .got (.seq (getStrm_idle 0 t) fun _ u _ => ?_)
  · split <;> rfl
  · split
    · exact .seq (.modified ⟨rfl, rfl⟩) fun _ w _ => modifyStrm_idle (by exact fun _ => rfl) w
    · exact .done _

theorem connEmitPendingStream0Data_drains (rounds rxOffset : Nat) {s : Conn} {side : RxSide}
    (held : s.rxSide 0 = some side) :
    wp (connEmitPendingStream0Data app rounds rxOffset)
      (fun _ t => ∃ chunks rob, robDrain rounds rxOffset side.rob = .ok (chunks, rob) ∧
        t.rxSide 0 = some { side with rob := rob } ∧ handed t.log = handed s.log ++ chunks)
      (fun _ _ => True) s := by
  induction rounds generalizing rxOffset s side with
  | zero => exact ⟨[], side.rob, rfl, held, by simp⟩
  | succ rounds ih =>
    obtain ⟨strm, found, rfl⟩ := Conn.strm_of held
    unfold connEmitPendingStream0Data
    rw [wp_bind, wp_getStrm found]
    change wp (Prog.ofExcept (ngtcp2RobDataAt strm.rxSide.rob rxOffset) >>= _) _ _ s
    cases read : ngtcp2RobDataAt strm.rxSide.rob rxOffset with
    | error e => trivial
    | ok data =>
      rw [wp_bind, wp_ofExcept_ok]
      split
      next none =>
        subst none
        split
        next here => exact ⟨[], strm.rob, robDrain_stop read here, held, by simp⟩
        next => trivial
      next some_data =>
        rw [wp_bind]
        refine wp_mono (connCallRecvStream0Data_hands app data s) ?_ fun _ _ _ => trivial
        rintro _ t ⟨same, told⟩
        rw [wp_bind]
        refine wp_mono (connCreditStrm0_idle data.length t) (fun _ u credited => ?_) fun _ _ _ => trivial
        rw [wp_bind]
        refine wp_mono (connExtendMaxStreamOffset_idle data.length u) (fun _ w extended => ?_) fun _ _ _ => trivial
        have now : w.rxSide 0 = some strm.rxSide := by
          rw [extended.1, credited.1, same, held]
        obtain ⟨strm', found', side'⟩ := Conn.strm_of now
        have rob : strm'.rob = strm.rxSide.rob := congrArg RxSide.rob side'
        rw [wp_bind, wp_getStrm found', rob]
        cases popped : ngtcp2RobPop strm.rxSide.rob rxOffset data.length with
        | error e => trivial
        | ok rob' =>
          rw [wp_bind, wp_ofExcept_ok, wp_bind]
          refine Eq.mpr (wp_modifyStrm _ found') ?_
          refine wp_mono (ih (rxOffset + data.length) (Conn.rxSide_setStrm ..)) ?_ fun _ _ _ => trivial
          rintro _ x ⟨chunks, rob'', drained, after, more⟩
          refine ⟨data :: chunks, rob'', robDrain_next read some_data popped drained, ?_, ?_⟩
          · rw [after, ← side']
            rfl
          · rw [more]
            change handed w.log ++ chunks = _
            rw [extended.2, credited.2, told, List.append_assoc]
            rfl

end Zero

end Ngtcp2
