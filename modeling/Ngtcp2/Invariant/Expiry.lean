import Ngtcp2.Invariant.AckPending
import Ngtcp2.Invariant.RtbSound

/-!
# The timer the application sleeps on

`ngtcp2_conn_earliest_expiry` has no value of its own for a packet that is due at once, and it does not look at
`immediate_ack`.
-/

namespace Ngtcp2

def Conn.AwaitsAck (c : Conn) : Prop := ∃ e ∈ c.acktr.ent, ∃ unprotected, (e.pktNum, unprotected) ∈ pendingAcks c.log

structure Conn.InTime (c : Conn) : Prop where
  idle : ngtcp2ConnEarliestExpiry c = 0 → c.rtb.head = [] ∧ ¬ c.AwaitsAck
  resend : ngtcp2ConnEarliestExpiry c ≠ 0 → ∀ ent ∈ c.rtb.head, ngtcp2ConnEarliestExpiry c ≤ ent.expiry
  ack : ngtcp2ConnEarliestExpiry c ≠ 0 → c.AwaitsAck →
    ∀ ts, connNextAckExpired c ts = true → ngtcp2ConnEarliestExpiry c ≤ ts

structure Conn.Timed (c : Conn) : Prop where
  positive : ∀ ent ∈ c.rtb.head, ent.expiry ≠ 0
  delayed : c.AwaitsAck → c.immediateAck = false
  armed : c.AwaitsAck → c.rtb.head = [] → c.nextAckExpiry ≠ 0

theorem ngtcp2ConnEarliestExpiry_empty {c : Conn} (top : ngtcp2RtbTop c.rtb = none) :
    ngtcp2ConnEarliestExpiry c = c.nextAckExpiry := by
  unfold ngtcp2ConnEarliestExpiry
  rw [top]

theorem ngtcp2ConnEarliestExpiry_top {c : Conn} {ent : RtbEntry} (top : ngtcp2RtbTop c.rtb = some ent) :
    ngtcp2ConnEarliestExpiry c ≤ ent.expiry ∧
      (c.nextAckExpiry ≠ 0 → ngtcp2ConnEarliestExpiry c ≤ c.nextAckExpiry) ∧
      (ent.expiry ≠ 0 → ngtcp2ConnEarliestExpiry c ≠ 0) := by
  unfold ngtcp2ConnEarliestExpiry
  rw [top]
  dsimp only
  split <;> omega

theorem Rtb.Consistent.top_none {rtb : Rtb} (ok : rtb.Consistent) : ngtcp2RtbTop rtb = none ↔ rtb.head = [] := by
  have same := ok.same.length_eq
  have first : ngtcp2RtbTop rtb = rtb.pq.q[0]? := rfl
  rw [first, Array.getElem?_eq_none_iff, ← List.length_eq_zero_iff, same, Array.length_toList]
  omega

theorem Conn.InTime.timed {c : Conn} (ok : c.rtb.Consistent) (inTime : c.InTime) : c.Timed := by
  refine ⟨fun ent member due => ?_, fun waits => ?_, fun waits empty unarmed => ?_⟩
  · cases top : ngtcp2RtbTop c.rtb with
    | none =>
      rw [ok.top_none.mp top] at member
      cases member
    | some first =>
      have least := (ok.top_least top).2 ent member
      have early := (ngtcp2ConnEarliestExpiry_top top).1
      rw [(inTime.idle (by omega)).1] at member
      cases member
  · rw [← Bool.not_eq_true]
    intro flagged
    have expired : connNextAckExpired c 0 = true := by simp [connNextAckExpired, flagged]
    by_cases none : ngtcp2ConnEarliestExpiry c = 0
    · exact (inTime.idle none).2 waits
    · exact none (Nat.le_zero.mp (inTime.ack none waits 0 expired))
  · exact (inTime.idle ((ngtcp2ConnEarliestExpiry_empty (ok.top_none.mpr empty)).trans unarmed)).2 waits

theorem Conn.Timed.inTime {c : Conn} (ok : c.rtb.Consistent) (timed : c.Timed) : c.InTime := by
  have nextAck (waits : c.AwaitsAck) (ts : Nat) (expired : connNextAckExpired c ts = true) :
      c.nextAckExpiry ≠ 0 ∧ c.nextAckExpiry ≤ ts := by
    simpa [connNextAckExpired, timed.delayed waits] using expired
  cases top : ngtcp2RtbTop c.rtb with
  | none =>
    have empty := ok.top_none.mp top
    have value := ngtcp2ConnEarliestExpiry_empty top
    refine ⟨fun none => ⟨empty, fun waits => timed.armed waits empty (value ▸ none)⟩, fun _ => ?_, fun _ waits ts expired => ?_⟩
    · simp [empty]
    · exact value ▸ (nextAck waits ts expired).2
  | some ent =>
    obtain ⟨held, least⟩ := ok.top_least top
    obtain ⟨early, ack, running⟩ := ngtcp2ConnEarliestExpiry_top top
    refine ⟨fun none => absurd none (running (timed.positive ent held)), fun _ e member => ?_, fun _ waits ts expired => ?_⟩
    · exact Nat.le_trans early (least e member)
    · obtain ⟨set, passed⟩ := nextAck waits ts expired
      exact Nat.le_trans (ack set) passed

def rejectedCalls : List (App × Call) :=
  [(.quiet, .tls (.updateEarlyKeys .plain)), (.quiet, .tls (.setHandshakeTxKeys .plain)),
   (.quiet, .tls (.setEarlyRemoteTransportParams
     { settings := .plain, negotiatedVersion := 1, supportedVersions := [1] })),
   (.quiet, .openBidiStream), (.hello, .writePkt 1200 1), (.quiet, .writeStream 1200 4 false [0] 1),
   (.quiet, .writeStream 1200 4 false [0] 1), (.quiet, .tls .earlyDataRejected)] ++
  (tlsCallsOf .ENCRYPTED_EXTENSIONS).drop 1 ++
  [(.finished, .recv (some (handshakePkt .HANDSHAKE 1 0)) 1), (.quiet, .writePkt 1200 1)]

def flaggedCalls : List (App × Call) :=
  tlsCallsOf .CLIENT_HELLO ++
  [(.quiet, .recv (some (handshakePkt .INITIAL 1 0)) 1),
   (.quiet, .frame (.stream { fin := false, streamId := 4, offset := 0, data := [0] })),
   (.quiet, .shutdownStreamWrite 4 7),
   (.quiet, .frame (.rstStream { streamId := 4, appErrorCode := 0, finalOffset := 1 }))]

end Ngtcp2
