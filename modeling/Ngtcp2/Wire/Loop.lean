import Ngtcp2.System
import Ngtcp2.Wire.Accept

/-!
# Frame loops

The loops over the bytes of a decrypted payload. They end, and they do what the loops over a list of
frames do for the frames that the payload holds.
-/

namespace Ngtcp2

inductive FrameLoop where
  | recvPkt | recvHandshakePkt | recvDelayedHandshakePkt
  deriving DecidableEq, Repr

/-- The number of blocks that an ACK frame has room for in the frame object of a loop: a
`ngtcp2_max_frame`, or a `ngtcp2_frame`. -/
def FrameLoop.maxBlks : FrameLoop → Nat
  | .recvPkt | .recvHandshakePkt => maxAckBlks
  | .recvDelayedHandshakePkt => 1

section Loops

variable {σ : Type}

/-- `for (; payloadlen;)`. Without fuel left the loop is still running. -/
def payloadLoop (handle : Frame → σ → ConnM σ) : Nat → List UInt8 → σ → ConnM (Option σ)
  | _, [], st => pure (some st)
  | 0, _ :: _, _ => pure none
  | fuel + 1, type :: rest, st =>
    match ngtcp2PktDecodeFrame (type :: rest) with
    | .error e => throw e
    | .ok none => payloadLoop handle fuel (type :: rest) st
    | .ok (some (w, nread)) => do
      let st ← handle w.fr st
      payloadLoop handle fuel ((type :: rest).drop nread) st

def decodeCalls (handle : Frame → σ → ConnM σ) : Nat → List UInt8 → σ → Conn → List (List UInt8)
  | _, [], _, _ => []
  | 0, _ :: _, _, _ => []
  | fuel + 1, type :: rest, st, s =>
    (type :: rest) ::
      match ngtcp2PktDecodeFrame (type :: rest) with
      | .ok (some (w, nread)) =>
        match handle w.fr st s with
        | (.ok st, t) => decodeCalls handle fuel ((type :: rest).drop nread) st t
        | (.error _, _) => []
      | _ => []

def loopFrames (handle : Frame → σ → ConnM σ) : List Frame → σ → ConnM σ
  | [], st => pure st
  | fr :: frs, st => do
    let st ← handle fr st
    loopFrames handle frs st

def decodeFramesFrom : Nat → List UInt8 → List WireFrame × Bool
  | _, [] => ([], false)
  | 0, _ :: _ => ([], true)
  | fuel + 1, type :: rest =>
    match ngtcp2PktDecodeFrame (type :: rest) with
    | .ok (some (w, nread)) =>
      let (ws, malformed) := decodeFramesFrom fuel ((type :: rest).drop nread)
      (w :: ws, malformed)
    | _ => ([], true)

def decodeFrames (payload : List UInt8) : List WireFrame × Bool := decodeFramesFrom payload.length payload

theorem Found.drop {rest after : List UInt8} {fr : Frame} (found : Found rest fr after) (type : UInt8) :
    (type :: rest).drop ((type :: rest).length - after.length) = after ∧ after.length ≤ rest.length := by
  have tail : after <:+ type :: rest := found.tail.trans (List.suffix_cons type rest)
  exact ⟨(List.suffix_iff_eq_drop.mp tail).symm, found.tail.length_le⟩

theorem payloadLoop_eq (handle : Frame → σ → ConnM σ) {fuel : Nat} {payload : List UInt8}
    (enough : payload.length ≤ fuel) (st : σ) :
    payloadLoop handle fuel payload st = (do
      let st ← loopFrames handle ((decodeFramesFrom fuel payload).1.map WireFrame.fr) st
      endOfFrames (decodeFramesFrom fuel payload).2
      pure (some st)) := by
  induction fuel generalizing payload st with
  | zero =>
    obtain rfl := List.length_eq_zero_iff.mp (Nat.le_zero.mp enough)
    rfl
  | succ fuel ih =>
    cases payload with
    | nil => rfl
    | cons type rest =>
      unfold payloadLoop decodeFramesFrom
      rcases decodeFrame_found type rest with refused | ⟨w, after, accepted, found⟩
      · simp only [refused]
        rfl
      · obtain ⟨left, shorter⟩ := found.drop type
        simp only [accepted, left, List.map_cons, loopFrames, Prog.bind_assoc]
        congr 1
        funext st'
        exact ih (by simp at enough; omega) st'

theorem payloadLoop_ends (handle : Frame → σ → ConnM σ) {fuel : Nat} {payload : List UInt8}
    (enough : payload.length ≤ fuel) (st : σ) (s : Conn) : (payloadLoop handle fuel payload st s).1 ≠ .ok none := by
  rw [payloadLoop_eq handle enough]
  intro running
  cases run : loopFrames handle ((decodeFramesFrom fuel payload).1.map WireFrame.fr) st s with
  | mk result t =>
    cases result with
    | error e =>
      rw [Prog.bind_error run] at running
      cases running
    | ok st' =>
      rw [Prog.bind_ok run] at running
      cases bad : (decodeFramesFrom fuel payload).2 <;> rw [bad] at running <;> cases running

theorem frameLoop_eq (handle : Frame → ConnM Bool) (frs : List Frame) (requireAck failed : Bool) :
    loopFrames (fun fr loop => do
      let ack ← handle fr
      pure (loop.1 || ack, loop.2)) frs (requireAck, failed) = (do
      let requireAck ← frameLoop handle frs requireAck
      pure (requireAck, failed)) := by
  induction frs generalizing requireAck with
  | nil => rfl
  | cons fr frs ih =>
    simp only [loopFrames, frameLoop, Prog.bind_assoc]
    congr 1
    funext ack
    exact ih _

theorem handshakeFrames_eq (app : App) (hd : PktHd) (frs : List Frame) (loop : Bool × Bool) :
    loopFrames (handshakeFrame app hd) frs loop = handshakeFrames app hd frs loop := by
  induction frs generalizing loop with
  | nil => rfl
  | cons fr frs ih =>
    simp only [loopFrames, handshakeFrames]
    congr 1
    funext loop'
    exact ih loop'

end Loops

namespace FrameLoop

variable (app : App) (hd : PktHd)

/-- What a loop does with a frame. The state of a loop is `require_ack` and `handshake_failed`. -/
def handle : FrameLoop → Frame → Bool × Bool → ConnM (Bool × Bool)
  | .recvPkt, fr, loop => do
    let ack ← protectedFrame app hd fr
    pure (loop.1 || ack, loop.2)
  | .recvHandshakePkt, fr, loop => handshakeFrame app hd fr loop
  | .recvDelayedHandshakePkt, fr, loop => do
    let ack ← delayedHandshakeFrame app hd fr
    pure (loop.1 || ack, loop.2)

def run (loop : FrameLoop) (fuel : Nat) (payload : List UInt8) : ConnM (Option (Bool × Bool)) :=
  payloadLoop (loop.handle app hd) fuel payload (false, false)

def frames : FrameLoop → List Frame → ConnM (Bool × Bool)
  | .recvPkt, frs => do
    let requireAck ← frameLoop (protectedFrame app hd) frs false
    pure (requireAck, false)
  | .recvHandshakePkt, frs => handshakeFrames app hd frs (false, false)
  | .recvDelayedHandshakePkt, frs => do
    let requireAck ← frameLoop (delayedHandshakeFrame app hd) frs false
    pure (requireAck, false)

/-- A loop over the bytes of a payload handles the frames that can be decoded, and then fails if something is left. -/
theorem run_decodes (loop : FrameLoop) (payload : List UInt8) :
    loop.run app hd payload.length payload = (do
      let st ← loop.frames app hd ((decodeFrames payload).1.map WireFrame.fr)
      endOfFrames (decodeFrames payload).2
      pure (some st)) := by
  unfold run
  rw [payloadLoop_eq _ (Nat.le_refl _)]
  cases loop with
  | recvHandshakePkt =>
    unfold handle
    rw [handshakeFrames_eq]
    rfl
  | recvPkt =>
    unfold handle
    rw [frameLoop_eq]
    rfl
  | recvDelayedHandshakePkt =>
    unfold handle
    rw [frameLoop_eq]
    rfl

end FrameLoop

/-- Every payload that is not empty is refused or begins with a frame that lies inside of it, and so the frame
loops end. -/
theorem decodeFrame_total (type : UInt8) (rest : List UInt8) (loop : FrameLoop) (app : App) (hd : PktHd) (s : Conn)
    (extra : Nat) :
    (ngtcp2PktDecodeFrame (type :: rest) = .error .FRAME_FORMAT ∨
      ∃ w nread, ngtcp2PktDecodeFrame (type :: rest) = .ok (some (w, nread)) ∧
        1 ≤ nread ∧ nread ≤ (type :: rest).length ∧
        ∀ data, w.fr.data? = some data → ∃ p, p + data.length ≤ nread ∧
          ((type :: rest).drop p).take data.length = data) ∧
    (loop.run app hd ((type :: rest).length + extra) (type :: rest) s).1 ≠ .ok none := by
  refine ⟨?_, payloadLoop_ends _ (Nat.le_add_right _ _) _ s⟩
  rcases decodeFrame_found type rest with refused | ⟨w, after, accepted, found⟩
  · exact .inl refused
  · have shorter := (found.drop type).2
    refine .inr ⟨w, _, accepted, by simp; omega, Nat.sub_le _ _, fun data here => ?_⟩
    -- the data ends where the next frame begins
    obtain ⟨front, whole⟩ := (found.data data here).trans (List.suffix_cons type rest)
    refine ⟨front.length, ?_, by simp [← whole]⟩
    rw [← whole]
    simp
    omega

section Blocks

def Frame.numBlks : Frame → Nat
  | .ack fr => fr.blks.length
  | _ => 0

/-- The indices of `dest->blks` that decoding a frame writes to. -/
def blkWrites (payload : List UInt8) : List Nat :=
  match ngtcp2PktDecodeFrame payload with
  | .ok (some (w, _)) => List.range w.fr.numBlks
  | _ => []

def announcedBlks : List UInt8 → Nat
  | [] => 0
  | type :: rest =>
    match codeBody type rest with
    | none => 0
    | some (w, _) => w.fr.numBlks

theorem blkWrites_eq (payload : List UInt8) : blkWrites payload = List.range (min maxAckBlks (announcedBlks payload)) := by
  cases payload with
  | nil => rfl
  | cons type rest =>
    unfold blkWrites
    rw [decodeFrame_spec]
    cases here : codeBody type rest with
    | none =>
      have none : announcedBlks (type :: rest) = 0 := by simp only [announcedBlks, here]
      rw [Grammar.map_none here, none]
      rfl
    | some pair =>
      obtain ⟨⟨fr, flags, token⟩, after⟩ := pair
      have some : announcedBlks (type :: rest) = fr.numBlks := by simp only [announcedBlks, here]
      rw [Grammar.map_some here, some]
      change List.range (WireFrame.stored ⟨fr, flags, token⟩).fr.numBlks = _
      cases fr <;> simp [WireFrame.stored, Frame.numBlks, List.length_take]

variable (app : App) (hd : PktHd)

def FrameLoop.calls (loop : FrameLoop) (payload : List UInt8) (s : Conn) : List (List UInt8) :=
  decodeCalls (loop.handle app hd) payload.length payload (false, false) s

/-- The blocks of received ACK frames fit the frame object exactly if no late handshake packet has an ACK frame
that announces more than one. -/
theorem ackBlks_fit_iff (loop : FrameLoop) (payload : List UInt8) (s : Conn) :
    (∀ part ∈ loop.calls app hd payload s, ∀ i ∈ blkWrites part, i < loop.maxBlks) ↔
    (loop = .recvDelayedHandshakePkt → ∀ part ∈ loop.calls app hd payload s, announcedBlks part ≤ 1) := by
  simp only [blkWrites_eq, List.mem_range]
  have room : maxAckBlks = 255 := rfl
  cases loop with
  | recvDelayedHandshakePkt =>
    simp only [FrameLoop.maxBlks, forall_const]
    refine forall₂_congr fun part _ => ⟨fun fits => ?_, fun few i bound => by omega⟩
    by_contra many
    have second := fits 1 (by omega)
    omega
  | recvPkt => simp +contextual [FrameLoop.maxBlks]
  | recvHandshakePkt => simp +contextual [FrameLoop.maxBlks]

/-- A late handshake packet with an ACK frame of two blocks is written beyond the frame object. -/
theorem delayed_ack_overruns :
    openServer.state = .POST_HANDSHAKE ∧
    ¬ ∀ part ∈ FrameLoop.recvDelayedHandshakePkt.calls .quiet
        { longForm := true, omitConnId := false, type := .HANDSHAKE, connId := 1, pktNum := 3, version := 1 }
        [0x0e, 0x05, 0x00, 0x02, 0x00, 0x00, 0x00, 0x00, 0x00] openServer,
      ∀ i ∈ blkWrites part, i < FrameLoop.recvDelayedHandshakePkt.maxBlks := by
  decide +kernel

end Blocks

end Ngtcp2
