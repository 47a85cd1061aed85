import Ngtcp2.Crypto
import Ngtcp2.Invariant.Entries

/-!
# Packet numbers

Every packet takes the number after the last one, so that numbers rise, except where the first
packet of a handshake starts over at a number that the application has chosen.
-/

namespace Ngtcp2

def Event.Rises : Event → Event → Prop
  | .encrypt _ m _, .encrypt _ n _ => m < n
  | _, _ => True

def Event.InitialAbove : Event → Event → Prop
  | .encrypt _ m _, .mark (.initialPktNum n) => m < n
  | _, _ => True

def Event.NonceApart : Event → Event → Prop
  | .encrypt ckm m _, .encrypt ckm' n _ =>
    ckm = ckm' → 8 ≤ ckm.iv.length →
      ngtcp2CryptoCreateNonce ckm.iv m ≠ ngtcp2CryptoCreateNonce ckm'.iv n
  | _, _ => True

instance : DecidableRel Event.InitialAbove := fun e e' => by
  unfold Event.InitialAbove
  split <;> infer_instance

theorem Event.rises_plain {first e : Event} (plain : e.isEncrypt = false) : first.Rises e := by
  unfold Event.Rises
  split
  · cases plain
  · trivial

def Used (log : List Event) (n : Nat) : Prop := ∃ ckm frames, .encrypt ckm n frames ∈ log

theorem Used.later {log log' : List Event} {n : Nat} (sent : Used log n) (later : log <+: log') :
    Used log' n :=
  let ⟨ckm, frames, member⟩ := sent
  ⟨ckm, frames, later.subset member⟩

theorem Used.initial {log : List Event} {m n : Nat} (sent : Used log m)
    (above : (log ++ [Event.mark (.initialPktNum n)]).Pairwise Event.InitialAbove) : m < n := by
  obtain ⟨ckm, frames, member⟩ := sent
  exact (List.pairwise_append.mp above).2.2 _ member _ List.mem_cons_self

theorem FreshInitial.unsent {log : List Event} (fresh : FreshInitial log)
    (above : log.Pairwise Event.InitialAbove) (n : Nat) : ¬ Used log n := by
  rintro ⟨ckm, frames, member⟩
  obtain ⟨pre, post, rfl, later⟩ := fresh
  rcases List.mem_append.mp member with member | member
  · have below := (List.pairwise_append.mp above).2.2 _ member _ List.mem_cons_self
    exact Nat.not_lt_zero _ below
  · rcases List.mem_cons.mp member with same | member
    · cases same
    · exact (later _ member).1 ckm n frames rfl

theorem View.Ready.above {v : View} (ready : v.Ready) (above : v.log.Pairwise Event.InitialAbove)
    (bound : v.lastTxPktNum < 18446744073709551616) {n : Nat} (sent : Used v.log n)
    (used : n ≤ v.lastTxPktNum) : n < v.next := by
  rcases ready with fresh | fresh
  · have small : v.lastTxPktNum + 1 < 18446744073709551616 := by
      unfold uint64Max at fresh
      omega
    rw [View.next, add64_eq small]
    omega
  · exact absurd sent (fresh.unsent above n)

structure View.Numbered (v : View) : Prop where
  rises : v.log.Pairwise Event.Rises
  used : ∀ n, Used v.log n → n ≤ v.lastTxPktNum
  bound : v.lastTxPktNum < 18446744073709551616

structure PktNumsOk (log : List Event) : Prop where
  above : log.Pairwise Event.InitialAbove
  noRetry : ∀ keyed early, .mark (.retry keyed early) ∉ log

theorem PktNumsOk.earlier {log log' : List Event} (earlier : log <+: log') (ok : PktNumsOk log') :
    PktNumsOk log where
  above := ok.above.sublist earlier.sublist
  noRetry keyed early member := ok.noRetry keyed early (earlier.subset member)

namespace View.Numbered

variable {v w : View}

theorem emit (numbered : v.Numbered) {e : Event} (plain : e.isEncrypt = false)
    (last : w.lastTxPktNum = v.lastTxPktNum) (log : w.log = v.log ++ [e]) : w.Numbered where
  rises := by
    rw [log]
    refine List.pairwise_append.mpr ⟨numbered.rises, List.pairwise_singleton _ _, fun first _ e' last => ?_⟩
    obtain rfl : e' = e := by simpa using last
    exact Event.rises_plain plain
  used := by
    rintro n ⟨ckm, frames, member⟩
    rw [log, List.mem_append] at member
    rw [last]
    rcases member with member | member
    · exact numbered.used n ⟨ckm, frames, member⟩
    · simp only [List.mem_singleton] at member
      subst member
      cases plain
  bound := last ▸ numbered.bound

theorem send (numbered : v.Numbered) {ckm : CryptoKm} {frames : List Frame} (ready : v.Ready)
    (above : v.log.Pairwise Event.InitialAbove) (last : w.lastTxPktNum = v.next)
    (log : w.log = v.log ++ [.encrypt ckm v.next frames]) : w.Numbered where
  rises := by
    rw [log]
    refine List.pairwise_append.mpr ⟨numbered.rises, List.pairwise_singleton _ _, fun first member e last => ?_⟩
    obtain rfl := List.mem_singleton.mp last
    cases first with
    | encrypt ckm' n frames' =>
      have sent : Used v.log n := ⟨ckm', frames', member⟩
      exact ready.above above numbered.bound sent (numbered.used n sent)
    | _ => trivial
  used := by
    rintro n ⟨ckm', frames', member⟩
    rw [log, List.mem_append] at member
    rw [last]
    rcases member with member | member
    · have sent : Used v.log n := ⟨ckm', frames', member⟩
      exact Nat.le_of_lt (ready.above above numbered.bound sent (numbered.used n sent))
    · simp only [List.mem_singleton, Event.encrypt.injEq] at member
      exact Nat.le_of_eq member.2.1
  bound := last ▸ add64_lt _ _

end View.Numbered

theorem Move.numbered {v w : View} (move : Move .any v w) (ok : PktNumsOk w.log)
    (numbered : v.Numbered) : w.Numbered := by
  have above := (ok.earlier move.log_extends).above
  cases move
  case initial n allowed bound =>
    have told : View.Numbered (v.emit (.mark (.initialPktNum n))) := numbered.emit rfl rfl rfl
    refine ⟨told.rises, fun m used => ?_, sub64_lt _ _⟩
    have below : m < n := by
      obtain ⟨ckm, frames, member⟩ := used
      have member : .encrypt ckm m frames ∈ v.log := by simpa [View.emit] using member
      exact Used.initial ⟨ckm, frames, member⟩ ok.above
    have back : sub64 n 1 = n - 1 := sub64_eq (by omega) bound
    change m ≤ sub64 n 1
    omega
  case send ckm frames ack allowed ready carried => exact numbered.send ready above rfl rfl
  case sendHandshake ckm frames ack ent queue nalloc allowed ready carried entry handshake pushed =>
    exact numbered.send ready above rfl rfl
  case sendQueued ckm frames ack ent queue nalloc frq allowed post ready carried entry short taken
      pushed => exact numbered.send ready above rfl rfl
  case sendStream ckm fr strm ent queue nalloc allowed ready keyed entry short carries pushed found
      offset bound strmFits connFits filled => exact numbered.send ready above rfl rfl
  case sendEarly ckm fr strm ent nalloc allowed ready entry short carries found offset bound strmFits
      connFits filled => exact numbered.send ready above rfl rfl
  case resend ckm frames ack ent ent' queue allowed ready carried held same renewed pktNum pushed =>
    exact numbered.send ready above rfl rfl
  case split ckm frames ack ent ent' nent queue nalloc allowed ready carried held same chain renewed
      pktNum fresh allocated pushed =>
    have sent : (v.send ckm frames ack).Numbered := numbered.send ready above rfl rfl
    exact sent.emit (e := .mark .splitEntry) rfl rfl rfl
  case retry allowed enters stays empty noted =>
    exact absurd (by simp [View.enter, View.emit, View.setStrm]) (ok.noRetry v.keyed (!v.earlyRtb.isEmpty))
  case handshakeOver state allowed =>
    have told : (v.emit (.mark (.handshakeOver v.state.closed))).Numbered := numbered.emit rfl rfl rfl
    exact told.emit (e := .mark (.state state)) rfl rfl rfl
  case close id code strm found closable =>
    let mark := Event.mark (closeMark strm v.frq)
    have told : (v.emit mark).Numbered := numbered.emit rfl rfl rfl
    refine told.emit (e := .streamClose strm.streamId code) rfl rfl ?_
    simp [View.closeStream, View.emit, mark]
  case ackFrame ent fr rest held chain acked silent =>
    rcases v.ackFrame_cases fr with ⟨_, _, _, _, same⟩ | ⟨_, same⟩ <;> rw [same] <;>
      exact ⟨numbered.rises, numbered.used, numbered.bound⟩
  all_goals first
    | exact ⟨numbered.rises, numbered.used, numbered.bound⟩
    | exact numbered.emit rfl rfl rfl

theorem Event.rises_kept (e e' : Event) (plain : e.kept = false ∨ e'.kept = false) : e.Rises e' := by
  unfold Event.Rises
  split
  · rcases plain with plain | plain <;> cases plain
  · trivial

theorem Event.Rises.nonceApart {e e' : Event} (rises : e.Rises e') (bound : ∀ n, Used [e, e'] n → n < 18446744073709551616) :
    e.NonceApart e' := by
  unfold Event.NonceApart
  split
  next ckm m frames ckm' n frames' =>
    rintro rfl long same
    have equal := ngtcp2CryptoCreateNonce_inj long (bound m ⟨ckm, frames, by simp⟩)
      (bound n ⟨ckm, frames', by simp⟩) same
    exact Nat.ne_of_lt rises equal
  next => trivial

def reusedCalls : List (App × Call) :=
  tlsCallsOf .CLIENT_HELLO ++
    [(.quiet, .recv (some (handshakePkt .INITIAL 1 0)) 0), (.quiet, .writeAckPkt 1200 25000),
     (.hello, .writePkt 1200 25000)]

def Event.nonce? : Event → Option (CryptoKm × Nat)
  | .encrypt ckm n _ => some (ckm, n)
  | _ => none

end Ngtcp2
