import Ngtcp2.Lib.Raises
import Ngtcp2.Receive.Buffer
import Ngtcp2.Send.WriteStream

/-!
# STREAM frames that the peer can accept

`conn_recv_stream` turns a frame away as malformed before it looks at the stream.
-/

namespace Ngtcp2

open Prog

def Err.malformed : Err → Bool
  | .FRAME_FORMAT => true
  | .PROTO => true
  | _ => false

def Tolerates {α : Type} (m : ConnM α) : Prop := Raises (fun e => e.malformed = false) m

section

variable (app : App)

theorem getStrm_tolerates (streamId : Nat) : Tolerates (getStrm streamId) := by
  refine .got fun c => ?_
  split
  · exact .pure _
  · exact .throw rfl

theorem connCall_tolerates (e : Event) : Tolerates (connCall app e) := by
  refine .got fun c => .bind (.modify _) fun _ => ?_
  split
  · exact .pure _
  · exact .throw rfl

theorem malloc_tolerates : Tolerates (malloc app) := by
  refine .got fun c => .bind (.modify _) fun _ => ?_
  split
  · exact .pure _
  · exact .throw rfl

theorem connFcUnlink_tolerates (streamId : Nat) : Tolerates (connFcUnlink streamId) := by
  refine .bind (getStrm_tolerates streamId) fun strm => ?_
  split
  · exact .bind (.modify _) fun _ => .modify _
  · exact .pure _

theorem connExtendMaxStreamOffset_tolerates (streamId datalen : Nat) :
    Tolerates (connExtendMaxStreamOffset streamId datalen) := by
  have marked : Tolerates (markExtendStream0 streamId) := by
    unfold markExtendStream0
    split
    · exact .modify _
    · exact .pure _
  refine .bind marked fun _ => .bind (.modify _) fun _ => .got fun c => .bind (getStrm_tolerates streamId) fun strm => ?_
  split
  · exact .bind (.modify _) fun _ => .modify _
  · exact .pure _

theorem ngtcp2ConnCloseStream_tolerates (strm : Strm) (code : Nat) : Tolerates (ngtcp2ConnCloseStream app strm code) := by
  have extended : Tolerates (connExtendRemoteStreamId strm.streamId) := by
    refine .got fun c => ?_
    split
    · exact .pure _
    · exact .bind (.modify _) fun _ => .modify _
  have erased : Tolerates (connFcErase strm) := by
    unfold connFcErase
    split
    · exact .modify _
    · exact .pure _
  exact .bind (.modify _) fun _ => .bind (.got fun _ => .modify _) fun _ => .bind (connCall_tolerates app _) fun _ =>
    .bind extended fun _ => .bind erased fun _ => .modify _

theorem ngtcp2ConnCloseStreamIfShutRdwr_tolerates (streamId code : Nat) :
    Tolerates (ngtcp2ConnCloseStreamIfShutRdwr app streamId code) := by
  refine .bind (getStrm_tolerates streamId) fun strm => ?_
  split
  · exact ngtcp2ConnCloseStream_tolerates app strm code
  · exact .pure _

theorem robDataAt_tolerates (rob : Rob) (offset : Nat) :
    Tolerates (Prog.ofExcept (ngtcp2RobDataAt rob offset) : ConnM (List UInt8)) :=
  .ofExcept fun _ failed => by rw [ngtcp2RobDataAt_error failed]; rfl

theorem robPop_tolerates (rob : Rob) (offset len : Nat) :
    Tolerates (Prog.ofExcept (ngtcp2RobPop rob offset len) : ConnM Rob) :=
  .ofExcept fun _ failed => by rw [ngtcp2RobPop_error failed]; rfl

theorem connEmitPendingStreamData_tolerates (streamId rounds rxOffset : Nat) :
    Tolerates (connEmitPendingStreamData app streamId rounds rxOffset) := by
  induction rounds generalizing rxOffset with
  | zero => exact .pure _
  | succ rounds ih =>
    refine .bind (getStrm_tolerates streamId) fun strm => .bind (robDataAt_tolerates _ _) fun data => ?_
    split
    · split
      · exact .pure _
      · exact .throw rfl
    · exact .bind (connCall_tolerates app _) fun _ => .bind (robPop_tolerates _ _ _) fun _ => .bind (.modify _) fun _ => ih _

theorem connCallRecvStream0Data_tolerates (data : List UInt8) : Tolerates (connCallRecvStream0Data app data) := by
  have calls (list : List TlsCall) : Tolerates (tlsCalls list) := by
    induction list with
    | nil => exact .pure _
    | cons call rest ih => exact .bind .attempt fun _ => ih
  have marked (refused : Bool) : Tolerates (markRefusedStream0 refused) := by
    unfold markRefusedStream0
    split
    · exact .modify _
    · exact .pure _
  refine .got fun c => .bind (.got fun _ => .bind (.modify _) fun _ => calls _) fun _ => .bind (marked _) fun _ => ?_
  split <;> first | exact .pure _ | exact .throw rfl

theorem connEmitPendingStream0Data_tolerates (rounds rxOffset : Nat) :
    Tolerates (connEmitPendingStream0Data app rounds rxOffset) := by
  induction rounds generalizing rxOffset with
  | zero => exact .pure _
  | succ rounds ih =>
    refine .bind (getStrm_tolerates 0) fun strm => .bind (robDataAt_tolerates _ _) fun data => ?_
    split
    · split
      · exact .pure _
      · exact .throw rfl
    · have credited : Tolerates (connCreditStrm0 data.length) :=
        .bind (getStrm_tolerates 0) fun _ => .bind (.modify _) fun _ => .modify _
      exact .bind (connCallRecvStream0Data_tolerates app data) fun _ => .bind credited fun _ =>
        .bind (connExtendMaxStreamOffset_tolerates 0 _) fun _ => .bind (getStrm_tolerates 0) fun _ =>
        .bind (robPop_tolerates _ _ _) fun _ => .bind (.modify _) fun _ => ih _

theorem connDeliverStream_tolerates (fr : StreamFrame) : Tolerates (connDeliverStream app fr) := by
  refine .bind (.bind (getStrm_tolerates fr.streamId) fun strm => ?_) fun _ =>
    ngtcp2ConnCloseStreamIfShutRdwr_tolerates app fr.streamId _
  dsimp only
  split
  · split
    · exact .bind (.modify _) fun _ => .bind (.modify _) fun _ => .bind (connCallRecvStream0Data_tolerates app _) fun _ =>
        .bind (.modify _) fun _ => connEmitPendingStream0Data_tolerates app _ _
    · exact .bind (.modify _) fun _ => .bind (connCall_tolerates app _) fun _ =>
        connEmitPendingStreamData_tolerates app _ _ _
  · exact .modify _

theorem connRecvStreamOn_tolerates (fr : StreamFrame) : Tolerates (connRecvStreamOn app fr) := by
  have claimed (f : Strm → Strm) : Tolerates (connClaim fr.streamId fr.endOffset f) :=
    .bind (.modify _) fun _ => .modify _
  have refused : Tolerates (connRefuse fr.streamId .FINAL_OFFSET : ConnM Unit) :=
    .bind (.modify _) fun _ => .throw rfl
  have counted (strm : Strm) : Tolerates (connRecvStreamCount strm fr) := by
    refine .got fun c => ?_
    split
    · split
      · exact .throw rfl
      · exact .modify _
    · exact .pure _
  have closed (code : Nat) := ngtcp2ConnCloseStreamIfShutRdwr_tolerates app fr.streamId code
  have last : Tolerates (connRecvStreamFin app fr) := by
    refine .bind (claimed _) fun _ => .bind (getStrm_tolerates _) fun strm => ?_
    split
    · exact closed _
    · refine .bind (connFcUnlink_tolerates _) fun _ => ?_
      split
      · exact .bind (connCall_tolerates app _) fun _ => closed _
      · exact connDeliverStream_tolerates app fr
  have more : Tolerates (connRecvStreamNoFin app fr) := by
    refine .bind (claimed _) fun _ => .bind (getStrm_tolerates _) fun strm => ?_
    split
    · exact .pure _
    · split
      · exact .pure _
      · exact connDeliverStream_tolerates app fr
  refine .bind (getStrm_tolerates _) fun strm => ?_
  split
  · exact .throw rfl
  refine .bind (counted strm) fun _ => ?_
  split
  · split
    · split
      · exact refused
      · exact claimed _
    · split
      · exact refused
      · exact last
  · split
    · exact refused
    · exact more

theorem connRecvStream_malformed_iff (fr : StreamFrame) (d : Conn) :
    (∃ e t, connRecvStream app fr d = (.error e, t) ∧ e.malformed = true) ↔
      ∃ e, recvStreamError d fr = some e ∧ e.malformed = true := by
  have opened (streamId : Nat) (idtr : Idtr) : Tolerates (connNewRemoteStream app streamId idtr) := by
    refine .bind (.modify _) fun _ => .bind (malloc_tolerates app) fun _ => .bind ?_ fun _ => ?_
    · refine .got fun c => .bind (.modify _) fun _ => ?_
      split
      · exact .throw rfl
      · exact .modify _
    · split
      · exact .modify _
      · exact .pure _
  cases checked : recvStreamError d fr with
  | some e =>
    have run : connRecvStream app fr d = (.error e, d) := by
      unfold connRecvStream
      rw [bind_ok (show (get : ConnM Conn) d = (.ok d, d) from rfl), checked]
      rfl
    constructor
    · rintro ⟨e', t, failed, malformed⟩
      cases run.symm.trans failed
      exact ⟨e, rfl, malformed⟩
    · rintro ⟨e', same, malformed⟩
      cases same
      exact ⟨e, d, run, malformed⟩
  | none =>
    have tolerated : wp (connRecvStream app fr) (fun _ _ => True) (fun e _ => e.malformed = false) d := by
      unfold connRecvStream
      rw [wp_bind, wp_get, checked]
      dsimp only
      split
      · exact connRecvStreamOn_tolerates app fr d
      · split
        · trivial
        · split
          · trivial
          · rfl
          · exact Raises.bind (opened _ _) (fun _ => connRecvStreamOn_tolerates app fr) d
    constructor
    · rintro ⟨e, t, failed, malformed⟩
      have fine := wp_error tolerated failed
      rw [malformed] at fine
      cases fine
    · rintro ⟨e, same, -⟩
      cases same

end

/-- A write that produces a legal STREAM frame: with data or FIN, without FIN on stream 0, which means
that the data does not all go out if FIN is asked for, and up to an offset that has an encoding. -/
def LegalWrite (s : Conn) (strm : Strm) (left streamId : Nat) (fin : Bool) (data : List UInt8) : Prop :=
  (data ≠ [] ∨ fin = true) ∧
    ¬ (streamId = 0 ∧ fin = true ∧ data.length ≤ sub64 strm.maxTxOffset strm.txOffset ∧
      data.length ≤ sub64 s.maxTxOffset s.txOffset ∧ data.length ≤ left - streamOverhead) ∧
    strm.txOffset + min (s.windowed strm data.length) (left - streamOverhead) ≤ maxVarint

instance (s : Conn) (strm : Strm) (left streamId : Nat) (fin : Bool) (data : List UInt8) :
    Decidable (LegalWrite s strm left streamId fin data) := by
  unfold LegalWrite
  infer_instance

theorem recvStreamError_malformed_iff {d : Conn} {fr : StreamFrame} (within : streamIdError d fr.streamId = none)
    (receives : bidiStream fr.streamId = true ∨ connLocalStream d fr.streamId = false)
    (bound : fr.datalen < varintBound) :
    (∃ e, recvStreamError d fr = some e ∧ e.malformed = true) ↔
      (fr.streamId = 0 ∧ fr.fin = true) ∨ (fr.fin = false ∧ fr.datalen = 0) ∨ maxVarint < fr.offset + fr.datalen := by
  have theirs : ¬ (¬ bidiStream fr.streamId = true ∧ connLocalStream d fr.streamId = true ∧ fr.endOffset ≠ 0) := by
    rintro ⟨uni, here, -⟩
    rcases receives with bidi | away
    · exact uni bidi
    · rw [away] at here
      cases here
  unfold recvStreamError
  rw [within]
  dsimp only
  rw [if_neg theirs]
  by_cases zero : fr.streamId = 0 ∧ fr.fin = true
  · simp [zero, Err.malformed]
  rw [if_neg zero]
  by_cases empty : ¬ fr.fin = true ∧ fr.datalen = 0
  · rw [if_pos empty]
    have silent : fr.fin = false := by simpa using empty.1
    exact ⟨fun _ => .inr (.inl ⟨silent, empty.2⟩), fun _ => ⟨_, rfl, rfl⟩⟩
  rw [if_neg empty]
  have rest : (fr.streamId = 0 ∧ fr.fin = true) ∨ (fr.fin = false ∧ fr.datalen = 0) ∨
      maxVarint < fr.offset + fr.datalen ↔ maxVarint < fr.offset + fr.datalen := by
    refine ⟨?_, fun beyond => .inr (.inr beyond)⟩
    rintro (bad | ⟨silent, bad⟩ | beyond)
    · exact absurd bad zero
    · exact absurd ⟨by simp [silent], bad⟩ empty
    · exact beyond
  rw [rest]
  have beyond : maxVarint - fr.datalen < fr.offset ↔ maxVarint < fr.offset + fr.datalen := by
    unfold maxVarint
    unfold varintBound at bound
    omega
  by_cases far : maxVarint - fr.datalen < fr.offset
  · rw [if_pos far]
    exact ⟨fun _ => beyond.mp far, fun _ => ⟨_, rfl, rfl⟩⟩
  · rw [if_neg far, ← beyond]
    simp [far]

section

variable {app peer : App} {s t d : Conn} {destlen streamId ts : Nat} {fin : Bool} {data : List UInt8} {r : Nat × Nat}

/-- The frame of a successful write is malformed to the peer exactly if the write was not a legal one. -/
theorem writeStream_legal_iff (run : ngtcp2ConnWriteStream app destlen streamId fin data ts s = (.ok r, t))
    (within : streamIdError d streamId = none)
    (receives : bidiStream streamId = true ∨ connLocalStream d streamId = false) :
    ∃ strm ppe fr early ent, WriteReady s destlen streamId strm ppe ∧ StreamSent s t strm fr early ent ∧
      fr.streamId = streamId ∧
      ((¬ ∃ e u, connRecvStream peer fr d = (.error e, u) ∧ e.malformed = true) ↔
        LegalWrite s strm (ngtcp2PpeLeft ppe) streamId fin data) := by
  obtain ⟨-, strm, ppe, fr, early, ent, ready, sent, rfl, bound, datalen, front, last, size, some⟩ :=
    wp_ok (ngtcp2ConnWriteStream_sent app destlen streamId fin data ts s) run
  refine ⟨strm, ppe, fr, early, ent, ready, sent, rfl, ?_⟩
  rw [connRecvStream_malformed_iff, recvStreamError_malformed_iff within receives bound]
  have written := size.trans (writeStreamLen_eq s strm _ _)
  have complete : fr.fin = true ↔ fin = true ∧ r.2 = data.length := by simp [last]
  have whole : r.2 = data.length ↔ data.length ≤ sub64 strm.maxTxOffset strm.txOffset ∧
      data.length ≤ sub64 s.maxTxOffset s.txOffset ∧ data.length ≤ ngtcp2PpeLeft ppe - streamOverhead := by
    rw [written]
    unfold Conn.windowed
    omega
  have silent : fr.fin = false ∧ r.2 = 0 ↔ data = [] ∧ fin = false := by
    constructor
    · rintro ⟨open_, none⟩
      have empty : data = [] := by
        by_contra filled
        exact absurd none (some filled).ne'
      rw [last, none, empty] at open_
      exact ⟨empty, by simpa using open_⟩
    · rintro ⟨rfl, rfl⟩
      exact ⟨by simp [last], by simp [written, Conn.windowed]⟩
  unfold LegalWrite
  rw [sent.offset, datalen, ← written, silent, complete, whole]
  cases fin <;> simp [not_or]

end

-- the client that has opened stream 4
def awaitingClient : Conn := openClient.play [(.quiet, .openBidiStream)]

theorem writeStream_legal_iff_writingServer :
    ∃ t strm ppe fr early ent, WriteReady writingServer 1200 4 strm ppe ∧ StreamSent writingServer t strm fr early ent ∧
      fr.streamId = 4 ∧
      ((¬ ∃ e u, connRecvStream .quiet fr awaitingClient = (.error e, u) ∧ e.malformed = true) ↔
        LegalWrite writingServer strm (ngtcp2PpeLeft ppe) 4 true [1, 2, 3]) := by
  have run : ∃ r t, ngtcp2ConnWriteStream .quiet 1200 4 true [1, 2, 3] 0 writingServer = (.ok r, t) := ⟨_, _, rfl⟩
  obtain ⟨r, t, run⟩ := run
  exact ⟨t, writeStream_legal_iff run (by decide) (.inl (by decide))⟩

-- an empty write without FIN is sent, and the peer takes its frame for a malformed one
theorem writeStream_sends_malformed :
    ∃ n t fr, ngtcp2ConnWriteStream .quiet 1200 4 false [] 0 writingServer = (.ok (n, 0), t) ∧
      (∃ ent, t.rtb = ngtcp2RtbAdd writingServer.rtb ent ∧ ent.frc = [.stream fr]) ∧
      streamIdError awaitingClient fr.streamId = none ∧
      (connRecvStream .quiet fr awaitingClient).1 = .error .FRAME_FORMAT :=
  ⟨_, _, { fin := false, streamId := 4, offset := 0, data := [] }, rfl, ⟨_, rfl, rfl⟩, by decide, by decide⟩

end Ngtcp2
