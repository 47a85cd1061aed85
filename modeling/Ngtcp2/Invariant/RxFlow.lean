import Ngtcp2.Invariant.StreamIds
import Ngtcp2.Lib.Ledger

/-!
# Flow control of the receiver

What counts against the connection is the sum of the highest offsets that the peer has claimed on its streams.
-/

namespace Ngtcp2

open List Range

-- the bytes of stream 0 do not count against the connection
def Event.claim? : Event → Option (Nat × Nat)
  | .mark (.claim id offset) => if id = 0 then none else some (id, offset)
  | _ => none

def claims (log : List Event) : List (Nat × Nat) := log.filterMap Event.claim?

def Mark.Accepted : Mark → Prop
  | .refused _ => False
  | _ => True

instance : DecidablePred Mark.Accepted := fun m => by
  apply m.casesOn (motive := fun m => Decidable m.Accepted) <;> intros <;> unfold Mark.Accepted <;> infer_instance

def Event.counted : Event → Bool
  | .mark (.claim _ _) | .mark (.credit _) => true
  | _ => false

def countedEvents (log : List Event) : List Event := log.filter Event.counted

theorem countedEvents_plain {log : List Event} {e : Event} (plain : e.counted = false) :
    countedEvents (log ++ [e]) = countedEvents log := by
  simp [countedEvents, plain]

theorem claims_counted (log : List Event) : claims (countedEvents log) = claims log := by
  unfold claims countedEvents
  rw [filterMap_filter]
  refine filterMap_congr fun e _ => ?_
  cases e with
  | mark m => cases m <;> simp [Event.counted, Event.claim?]
  | _ => rfl

theorem mem_countedEvents {log : List Event} {e : Event} (counted : e.counted = true) :
    e ∈ countedEvents log ↔ e ∈ log := by
  simp [countedEvents, counted]

theorem claims_claim {log : List Event} {id : Nat} (plain : id ≠ 0) (offset : Nat) :
    claims (log ++ [.mark (.claim id offset)]) = claims log ++ [(id, offset)] := by
  simp [claims, Event.claim?, plain]

theorem claims_zero (log : List Event) (offset : Nat) :
    claims (log ++ [.mark (.claim 0 offset)]) = claims log := by
  simp [claims, Event.claim?]

-- the first gap of the reorder buffer is where the prefix received so far ends
structure Strm.RxOk (strm : Strm) : Prop where
  chunk : strm.rob.chunk = robChunk
  ordered : Ordered 0 strm.rob.gap
  above : ∀ o, strm.lastRxOffset ≤ o → o < uint64Max → Covers strm.rob.gap o
  bound : strm.lastRxOffset < 2 * varintBound
  window : strm.lastRxOffset ≤ strm.maxRxOffset
  signalled : strm.maxRxOffset ≤ strm.unsentMaxRxOffset
  credited : strm.unsentMaxRxOffset ≤ maxVarint + ngtcp2StrmRxOffset strm

structure Strm.SameRx (strm strm' : Strm) : Prop where
  rob : strm'.rob = strm.rob
  lastRxOffset : strm'.lastRxOffset = strm.lastRxOffset
  maxRxOffset : strm'.maxRxOffset = strm.maxRxOffset
  unsentMaxRxOffset : strm'.unsentMaxRxOffset = strm.unsentMaxRxOffset
  shutRd : strm'.shutRd = strm.shutRd

namespace Strm.RxOk

variable {strm strm' : Strm}

theorem same (ok : strm.RxOk) (same : strm.SameRx strm') : strm'.RxOk := by
  obtain ⟨rob, last, max, unsent, -⟩ := same
  obtain ⟨chunk, ordered, above, bound, window, signalled, credited⟩ := ok
  unfold ngtcp2StrmRxOffset at credited
  constructor <;> simp only [ngtcp2StrmRxOffset, rob, last, max, unsent] <;> assumption

theorem last_covered (ok : strm.RxOk) : Covers strm.rob.gap strm.lastRxOffset := by
  have bound := ok.bound
  refine ok.above _ (Nat.le_refl _) ?_
  unfold varintBound at bound
  unfold uint64Max
  omega

theorem first_le (ok : strm.RxOk) : ngtcp2StrmRxOffset strm ≤ strm.lastRxOffset :=
  ok.ordered.first_le uint64Max ok.last_covered

theorem small_chunk (ok : strm.RxOk) : strm.rob.chunk ≤ maxVarint := by
  rw [ok.chunk]
  decide

theorem filled {rob : Rob} (ok : strm.RxOk) (filled : strm.rob.Filled rob strm.lastRxOffset) :
    Strm.RxOk { strm with rob := rob } := by
  have ordered := filled.ordered ok.ordered
  have above (o : Nat) (least : strm.lastRxOffset ≤ o) (small : o < uint64Max) : Covers rob.gap o :=
    filled.above ok.ordered o least (ok.above o least small)
  -- the first gap only moves up, since no gap is new
  have grows : ngtcp2RobFirstGapOffset strm.rob ≤ ngtcp2RobFirstGapOffset rob := by
    have last := filled.above ok.ordered _ (Nat.le_refl _) ok.last_covered
    have reached := ordered.first_covered uint64Max last
    exact ok.ordered.first_le uint64Max (filled.fewer ok.ordered _ reached)
  have credited := ok.credited
  unfold ngtcp2StrmRxOffset at credited
  refine ⟨filled.chunk.trans ok.chunk, ordered, above, ok.bound, ok.window, ok.signalled, ?_⟩
  change strm.unsentMaxRxOffset ≤ maxVarint + ngtcp2RobFirstGapOffset rob
  omega

theorem step {wrap : Prop} {v : View} {id : Nat} (ok : strm.RxOk) (exact_ : ¬ wrap)
    (step : v.RxStep wrap id strm strm') : strm'.RxOk := by
  have signalled := ok.signalled
  cases step with
  | rob rob filled => exact ok.filled filled
  | extend n grows noted =>
    have credited := ok.credited
    rcases grows ok.small_chunk with same | ⟨grows, small⟩ | wrap
    · subst same
      exact ok
    · have credited : n ≤ maxVarint + ngtcp2StrmRxOffset strm := by omega
      exact { ok with signalled := Nat.le_trans signalled grows, credited := credited }
    · exact absurd wrap exact_

theorem credit {v : View} {n : Nat} (ok : strm.RxOk) (plain : .mark (.credit false) ∉ v.log)
    (credits : v.Credits strm n) :
    Strm.RxOk { strm with unsentMaxRxOffset := add64 strm.unsentMaxRxOffset n } := by
  have first := ok.first_le
  have bound := ok.bound
  have signalled := ok.signalled
  have within := (credits.within.resolve_right plain) ok.small_chunk
  have fits : add64 strm.unsentMaxRxOffset n = strm.unsentMaxRxOffset + n := by
    refine add64_eq ?_
    unfold varintBound at bound
    unfold maxVarint at within
    omega
  refine { ok with signalled := ?_, credited := ?_ }
  · dsimp only
    omega
  · change add64 strm.unsentMaxRxOffset n ≤ maxVarint + ngtcp2StrmRxOffset strm
    omega

theorem claims {v : View} {id offset n : Nat} (ok : strm.RxOk) (same : strm.SameTx strm')
    (claims : v.Claims id strm strm' offset n) : strm'.RxOk := by
  have window := ok.window
  have claimed := claims.window
  have last : strm.lastRxOffset ≤ strm'.lastRxOffset ∧
      strm'.lastRxOffset ≤ max strm.lastRxOffset offset := by
    rcases claims.last with last | ⟨last, -⟩ <;> rw [last] <;> omega
  constructor
  case chunk => rw [claims.rob, ok.chunk]
  case ordered => rw [claims.rob]; exact ok.ordered
  case above =>
    intro o least
    rw [claims.rob]
    exact ok.above o (Nat.le_trans last.1 least)
  case bound => exact Nat.lt_of_le_of_lt last.2 (max_lt ok.bound claims.bound)
  case window => rw [same.maxRxOffset]; omega
  case signalled => rw [same.maxRxOffset, claims.unsent]; exact ok.signalled
  case credited =>
    unfold ngtcp2StrmRxOffset
    rw [claims.unsent, claims.rob]
    exact ok.credited

end Strm.RxOk

theorem ngtcp2StrmInit_rxOk (id : Nat) (shutRd shutWr : Bool) (maxRx : UInt32) (maxTx : Nat) :
    (ngtcp2StrmInit id shutRd shutWr maxRx.toNat maxTx).RxOk where
  chunk := rfl
  ordered := ⟨Nat.le_refl _, by decide, trivial⟩
  above o _ small := (covers_cons ..).mpr (.inl ⟨Nat.zero_le _, small⟩)
  bound := (by decide : 0 < 2 * varintBound)
  window := Nat.zero_le _
  signalled := Nat.le_refl _
  credited := by
    have small := maxRx.toNat_lt
    change maxRx.toNat ≤ maxVarint + 0
    unfold maxVarint
    omega

structure Strm.Charged (strm : Strm) (n : Nat) : Prop where
  within : strm.lastRxOffset ≤ n
  exact_ : strm.shutRd = false → strm.lastRxOffset = n

structure View.RxOk (v : View) : Prop where
  within : v.rxOffset ≤ v.maxRxOffset
  signalled : v.maxRxOffset ≤ v.unsentMaxRxOffset
  bound : v.unsentMaxRxOffset ≤ maxVarint
  total : v.rxOffset = Ledger.total (claims v.log)
  known : ∀ id ∈ Ledger.keys (claims v.log), v.book.Taken id
  credits : .mark (.credit false) ∉ v.log
  strms : v.Each fun _ => Strm.RxOk
  charged : v.Each fun id strm => id ≠ 0 → strm.Charged (Ledger.highest (claims v.log) id)

def View.SameRx (v w : View) : Prop :=
  ∀ id strm, w.strms id = some strm → ∃ old, v.strms id = some old ∧ old.SameRx strm

section

variable {sc : Scope} {v w : View}

theorem View.SameRx.same (strms : w.strms = v.strms) : v.SameRx w :=
  fun _ strm found => ⟨strm, strms ▸ found, ⟨rfl, rfl, rfl, rfl, rfl⟩⟩

theorem View.SameRx.set {i : Nat} {old new : Strm} (strms : w.strms = Function.update v.strms i (some new))
    (held : v.strms i = some old) (same : old.SameRx new) : v.SameRx w := by
  intro id strm found
  rw [strms] at found
  by_cases here : id = i
  · subst here
    obtain rfl : new = strm := by simpa using found
    exact ⟨old, held, same⟩
  · exact ⟨strm, by simpa [here] using found, ⟨rfl, rfl, rfl, rfl, rfl⟩⟩

theorem View.SameRx.unset {i : Nat} (strms : w.strms = Function.update v.strms i none) : v.SameRx w := by
  intro id strm found
  rw [strms] at found
  by_cases here : id = i
  · simp [here] at found
  · exact ⟨strm, by simpa [here] using found, ⟨rfl, rfl, rfl, rfl, rfl⟩⟩

namespace View.RxOk

theorem sub (ok : v.RxOk) : sub64 v.maxRxOffset v.rxOffset = v.maxRxOffset - v.rxOffset := by
  refine sub64_eq ok.within (Nat.lt_of_le_of_lt (Nat.le_trans ok.signalled ok.bound) (by decide))

theorem still (ok : v.RxOk) (conn : w.rxOffset = v.rxOffset ∧ w.maxRxOffset = v.maxRxOffset ∧
      w.unsentMaxRxOffset = v.unsentMaxRxOffset)
    (strms : v.SameRx w) (taken : ∀ id, v.book.Taken id → w.book.Taken id)
    (log : countedEvents w.log = countedEvents v.log) : w.RxOk := by
  have same : Ngtcp2.claims w.log = Ngtcp2.claims v.log := by
    rw [← claims_counted w.log, log, claims_counted]
  obtain ⟨rx, max, unsent⟩ := conn
  constructor
  case within => rw [rx, max]; exact ok.within
  case signalled => rw [max, unsent]; exact ok.signalled
  case bound => rw [unsent]; exact ok.bound
  case total => rw [rx, same]; exact ok.total
  case known =>
    intro id member
    exact taken id (ok.known id (same ▸ member))
  case credits =>
    intro member
    rw [← mem_countedEvents rfl, log, mem_countedEvents rfl] at member
    exact ok.credits member
  case strms =>
    intro id strm found
    obtain ⟨old, held, sameRx⟩ := strms id strm found
    exact (ok.strms id old held).same sameRx
  case charged =>
    intro id strm found plain
    obtain ⟨old, held, sameRx⟩ := strms id strm found
    have charged := ok.charged id old held plain
    rw [same]
    exact ⟨sameRx.lastRxOffset ▸ charged.within, by
      rw [sameRx.shutRd, sameRx.lastRxOffset]
      exact charged.exact_⟩

theorem set {id : Nat} {strm : Strm} (ok : v.RxOk) (conn : w.rxOffset = v.rxOffset ∧
      w.maxRxOffset = v.maxRxOffset ∧ w.unsentMaxRxOffset = v.unsentMaxRxOffset)
    (strms : w.strms = Function.update v.strms id (some strm))
    (taken : ∀ id, v.book.Taken id → w.book.Taken id) (log : countedEvents w.log = countedEvents v.log)
    (good : strm.RxOk) (charged : id ≠ 0 → strm.Charged (Ledger.highest (Ngtcp2.claims v.log) id)) :
    w.RxOk := by
  have same : Ngtcp2.claims w.log = Ngtcp2.claims v.log := by
    rw [← claims_counted w.log, log, claims_counted]
  have others := ok.still (w := { w with strms := v.strms }) conn (.same rfl) taken log
  refine { others with strms := ?_, charged := ?_ }
  · exact (ok.strms.set good).same strms
  · rw [same]
    exact (ok.charged.set charged).same strms

theorem fresh {id : Nat} {strm : Strm} (ok : v.RxOk) (free : ¬ v.book.Taken id)
    (conn : w.rxOffset = v.rxOffset ∧ w.maxRxOffset = v.maxRxOffset ∧
      w.unsentMaxRxOffset = v.unsentMaxRxOffset)
    (strms : w.strms = Function.update v.strms id (some strm))
    (taken : ∀ id, v.book.Taken id → w.book.Taken id) (log : countedEvents w.log = countedEvents v.log)
    (good : strm.RxOk) (start : strm.lastRxOffset = 0) : w.RxOk := by
  refine ok.set conn strms taken log good fun _ => ?_
  have nothing := Ledger.highest_absent fun member => free (ok.known id member)
  exact ⟨by omega, fun _ => by omega⟩

theorem claim {id offset n : Nat} {strm strm' : Strm} (ok : v.RxOk) (named : strm.streamId = id)
    (found : v.strms id = some strm) (taken : v.book.Taken id) (same : strm.SameTx strm')
    (claims : v.Claims id strm strm' offset n) :
    View.RxOk { (v.emit (.mark (.claim id offset))).setStrm id (some strm') with rxOffset := n } := by
  have good := (ok.strms id strm found).claims same claims
  have credits : .mark (.credit false) ∉ v.log ++ [.mark (.claim id offset)] := by
    simp [ok.credits]
  by_cases zero : id = 0
  · -- what is claimed on stream 0 is not counted
    subst zero
    have unchanged : n = v.rxOffset := by
      rcases claims.counted named with ⟨-, same⟩ | ⟨plain, -⟩
      · exact same
      · exact absurd rfl plain
    subst unchanged
    refine ⟨ok.within, ok.signalled, ok.bound, ?_, ?_, credits, View.Each.set ok.strms good, ?_⟩
    · exact ok.total.trans (congrArg Ledger.total (claims_zero v.log offset).symm)
    · change ∀ id ∈ Ledger.keys (Ngtcp2.claims (v.log ++ [_])), _
      rw [claims_zero]
      exact ok.known
    · change View.Each _ fun id strm => id ≠ 0 → strm.Charged (Ledger.highest (Ngtcp2.claims (v.log ++ [_])) id)
      rw [claims_zero]
      exact View.Each.set ok.charged fun plain => absurd rfl plain
  have before := ok.charged id strm found zero
  have shut := claims.shut zero
  have grows := Ledger.total_concat (Ngtcp2.claims v.log) id offset
  have total := ok.total
  have within := ok.within
  -- the bytes are counted as far as they go beyond what the stream is charged with
  have counted : n ≤ v.maxRxOffset ∧ n = Ledger.total (Ngtcp2.claims v.log ++ [(id, offset)]) := by
    rcases claims.counted named with ⟨old, rfl⟩ | ⟨-, least, fits, rfl⟩
    · have old : offset ≤ strm.lastRxOffset := old.resolve_left zero
      have charged := before.within
      exact ⟨within, by omega⟩
    · rw [ok.sub] at fits
      have exact_ : strm.shutRd = true ∧ offset ≤ strm.lastRxOffset ∨
          strm.lastRxOffset = Ledger.highest (Ngtcp2.claims v.log) id := by
        cases closed : strm.shutRd
        · exact .inr (before.exact_ closed)
        · exact .inl ⟨rfl, (shut closed).2⟩
      have small : v.rxOffset + (offset - strm.lastRxOffset) < 18446744073709551616 := by
        have bound := Nat.le_trans ok.signalled ok.bound
        unfold maxVarint at bound
        omega
      rw [add64_eq small]
      have charged := before.within
      exact ⟨by omega, by omega⟩
  have highest := Ledger.highest_concat (Ngtcp2.claims v.log) id offset
  have charged : strm'.Charged (max (Ledger.highest (Ngtcp2.claims v.log) id) offset) := by
    have charged := before.within
    refine ⟨?_, fun open_ => ?_⟩
    · rcases claims.last with last | ⟨last, -⟩ <;> omega
    · have before_ : strm.shutRd = false := by
        cases closed : strm.shutRd
        · rfl
        · simp [(shut closed).1] at open_
      rcases claims.last with last | ⟨-, closed⟩
      · rw [last, before.exact_ before_]
      · simp [closed] at open_
  refine ⟨counted.1, ok.signalled, ok.bound, ?_, ?_, credits, View.Each.set ok.strms good, ?_⟩
  · exact counted.2.trans (congrArg Ledger.total (claims_claim zero offset).symm)
  · change ∀ id ∈ Ledger.keys (Ngtcp2.claims (v.log ++ [_])), _
    rw [claims_claim zero, Ledger.keys_concat]
    intro i member
    rcases Finset.mem_insert.mp member with rfl | member
    · exact taken
    · exact ok.known i member
  · change View.Each _ fun id strm => id ≠ 0 → strm.Charged (Ledger.highest (Ngtcp2.claims (v.log ++ [_])) id)
    rw [claims_claim zero, highest]
    intro i new found plain
    by_cases here : i = id
    · subst here
      obtain rfl : strm' = new := by simpa [View.setStrm] using found
      simpa using charged
    · rw [Function.update_of_ne here]
      exact ok.charged i new (by simpa [View.setStrm, View.emit, here] using found) plain

theorem claimUnseen {id offset : Nat} (ok : v.RxOk) (conn : w.rxOffset = add64 v.rxOffset offset ∧
      w.maxRxOffset = v.maxRxOffset ∧ w.unsentMaxRxOffset = v.unsentMaxRxOffset)
    (plain : id ≠ 0) (free : ¬ v.book.Taken id) (absent : v.strms id = none)
    (fits : offset ≤ sub64 v.maxRxOffset v.rxOffset) (strms : w.strms = v.strms)
    (log : w.log = v.log ++ [.mark (.claim id offset)])
    (taken : ∀ id, v.book.Taken id → w.book.Taken id) (now : w.book.Taken id) : w.RxOk := by
  obtain ⟨rx, max, unsent⟩ := conn
  rw [ok.sub] at fits
  have within := ok.within
  have total := ok.total
  have small : v.rxOffset + offset < 18446744073709551616 := by
    have bound := Nat.le_trans ok.signalled ok.bound
    unfold maxVarint at bound
    omega
  have nothing := Ledger.highest_absent fun member => free (ok.known id member)
  have grows := Ledger.total_concat (Ngtcp2.claims v.log) id offset
  have same : Ngtcp2.claims w.log = Ngtcp2.claims v.log ++ [(id, offset)] := by
    rw [log, claims_claim plain]
  rw [add64_eq small] at rx
  constructor
  case within => omega
  case signalled => rw [max, unsent]; exact ok.signalled
  case bound => rw [unsent]; exact ok.bound
  case total => rw [same]; omega
  case known =>
    intro i member
    rw [same, Ledger.keys_concat] at member
    rcases Finset.mem_insert.mp member with rfl | member
    · exact now
    · exact taken i (ok.known i member)
  case credits =>
    rw [log]
    simp [ok.credits]
  case strms => exact ok.strms.same strms
  case charged =>
    intro i strm found nonzero
    rw [strms] at found
    have other : i ≠ id := by
      rintro rfl
      simp [absent] at found
    rw [same, Ledger.highest_concat, Function.update_of_ne other]
    exact ok.charged i strm found nonzero

end View.RxOk

theorem Move.taken (move : Move sc v w) (ids : v.Ids) {i : Nat} (taken : v.book.Taken i) :
    w.book.Taken i := by
  cases move
  case openId id idtr allowed bound remote opened =>
    obtain ⟨-, -, -, later⟩ := ids.book.setIdtr bound remote opened
    exact later i taken
  case newRemote id idtr strm bound remote opened absent maxTx init =>
    obtain ⟨-, -, -, later⟩ := ids.book.setIdtr bound remote opened
    exact later i taken
  case claimUnseen id offset idtr allowed shut bound remote opened fits =>
    rcases opened with opened | ⟨broken, -⟩
    · obtain ⟨-, -, -, later⟩ := ids.book.setIdtr bound remote opened
      exact later i taken
    · exact absurd (ids.book.idtr id).1 broken
  case newBidi strm allowed absent maxTx init => exact (ids.book.openBidi allowed).2.2 i taken
  case newUni strm allowed absent maxTx init => exact (ids.book.openUni allowed).2.2 i taken
  case ackFrame ent fr rest held chain acked silent =>
    rcases v.ackFrame_cases fr with ⟨_, _, _, _, same⟩ | ⟨_, same⟩ <;> rw [same] <;> exact taken
  case initial n allowed bound =>
    refine taken.later ?_ ?_ (Nat.le_of_eq ?_) <;> simp only [View.book, View.emit, Book.next]
  all_goals exact taken.later rfl rfl (Nat.le_refl _)

theorem Move.rxOk (move : Move sc v w) (ids : v.Ids) (exact_ : ¬ sc.wrap)
    (accepted : Marked Mark.Accepted w.log) (ok : v.RxOk) : w.RxOk := by
  have taken (i : Nat) : v.book.Taken i → w.book.Taken i := move.taken ids
  cases move
  -- streams come and go
  case newRemote id idtr strm bound remote opened absent maxTx init =>
    obtain ⟨-, free, -, -⟩ := ids.book.setIdtr bound remote opened
    subst init
    exact ok.fresh free ⟨rfl, rfl, rfl⟩ rfl taken (countedEvents_plain rfl) (ngtcp2StrmInit_rxOk ..) rfl
  case newBidi strm allowed absent maxTx init =>
    subst init
    exact ok.fresh ids.book.next_free.1 ⟨rfl, rfl, rfl⟩ rfl taken (countedEvents_plain rfl)
      (ngtcp2StrmInit_rxOk ..) rfl
  case newUni strm allowed absent maxTx init =>
    subst init
    exact ok.fresh ids.book.next_free.2 ⟨rfl, rfl, rfl⟩ rfl taken (countedEvents_plain rfl)
      (ngtcp2StrmInit_rxOk ..) rfl
  case close id code strm found closable =>
    refine ok.still ⟨rfl, rfl, rfl⟩ (.unset rfl) taken ?_
    simp [countedEvents, View.closeStream, closeMark, Event.counted]
  case retry allowed enters stays empty noted =>
    refine ok.set ⟨rfl, rfl, rfl⟩ rfl taken ?_ (ngtcp2StrmInit_rxOk ..) fun plain => absurd rfl plain
    exact (countedEvents_plain rfl).trans (countedEvents_plain rfl)
  -- the receiver
  case rx id strm strm' allowed found step =>
    refine ok.set ⟨rfl, rfl, rfl⟩ rfl taken rfl ((ok.strms id strm found).step exact_ step)
      fun plain => ?_
    have charged := ok.charged id strm found plain
    exact ⟨by rw [step.last]; exact charged.within, by rw [step.last, step.same.2]; exact charged.exact_⟩
  case credit n strm allowed found credits =>
    exact ok.set ⟨rfl, rfl, rfl⟩ rfl taken rfl ((ok.strms 0 strm found).credit ok.credits credits)
      fun plain => absurd rfl plain
  case claim id offset n strm strm' allowed found same zero claims =>
    exact ok.claim (ids.name found) found (ids.taken found) same claims
  case claimUnseen id offset idtr allowed shut bound remote opened fits =>
    rcases opened with opened | ⟨broken, -⟩
    · obtain ⟨-, free, now, -⟩ := ids.book.setIdtr bound remote opened
      have absent : v.strms id = none := by
        cases found : v.strms id with
        | none => rfl
        | some strm => exact absurd (ids.taken found) free
      have plain : id ≠ 0 := by
        rintro rfl
        have zero := ids.zero
        simp [View.key, absent] at zero
      exact ok.claimUnseen ⟨rfl, rfl, rfl⟩ plain free absent fits rfl rfl taken now
    · exact absurd (ids.book.idtr id).1 broken
  case refuse id n last strm allowed found reach =>
    exact (accepted (.refused id) (by simp [View.emit, View.setStrm])).elim
  case markCredit strm found =>
    have credited : strm.credited = true := decide_eq_true (ok.strms 0 strm found).credited
    have same : claims (v.log ++ [.mark (.credit strm.credited)]) = claims v.log := by
      simp [claims, Event.claim?]
    refine { ok with total := ?_, known := ?_, credits := ?_, charged := ?_ }
    · exact ok.total.trans (congrArg Ledger.total same.symm)
    · change ∀ id ∈ Ledger.keys (claims (v.log ++ [_])), _
      rw [same]
      exact ok.known
    · simp [View.emit, credited, ok.credits]
    · change View.Each _ fun id strm => id ≠ 0 → strm.Charged (Ledger.highest (claims (v.log ++ [_])) id)
      rw [same]
      exact ok.charged
  case advertise queued => exact { ok with within := Nat.le_trans ok.within ok.signalled, signalled := Nat.le_refl _ }
  case extend n grows =>
    obtain ⟨more, small⟩ := grows ok.bound
    exact { ok with signalled := Nat.le_trans ok.signalled more, bound := small }
  case advertiseStrm waiting id strm first listed found queued =>
    have good := ok.strms id strm found
    exact ok.set ⟨rfl, rfl, rfl⟩ rfl taken rfl
      { good with window := Nat.le_trans good.window good.signalled, signalled := Nat.le_refl _ }
      fun plain => ⟨(ok.charged id strm found plain).within, (ok.charged id strm found plain).exact_⟩
  case fcLink id strm found unlisted receives =>
    exact ok.still ⟨rfl, rfl, rfl⟩ (.set rfl found ⟨rfl, rfl, rfl, rfl, rfl⟩) taken rfl
  case fcUnlink id strm found listed =>
    exact ok.still ⟨rfl, rfl, rfl⟩ (.set rfl found ⟨rfl, rfl, rfl, rfl, rfl⟩) taken rfl
  -- the sender
  case maxStreamData id n strm found bound =>
    exact ok.still ⟨rfl, rfl, rfl⟩ (.set rfl found ⟨rfl, rfl, rfl, rfl, rfl⟩) taken rfl
  case strm0Limit limit strm found bound =>
    exact ok.still ⟨rfl, rfl, rfl⟩ (.set rfl found ⟨rfl, rfl, rfl, rfl, rfl⟩) taken (countedEvents_plain rfl)
  case handshakeBytes n strm found bound =>
    exact ok.still ⟨rfl, rfl, rfl⟩ (.set rfl found ⟨rfl, rfl, rfl, rfl, rfl⟩) taken (countedEvents_plain rfl)
  case reset id strm fr found named queued =>
    exact ok.still ⟨rfl, rfl, rfl⟩ (.set rfl found ⟨rfl, rfl, rfl, rfl, rfl⟩) taken rfl
  case stop id strm allowed found unlisted plain =>
    exact ok.still ⟨rfl, rfl, rfl⟩ (.set rfl found ⟨rfl, rfl, rfl, rfl, rfl⟩) taken rfl
  case sendStream ckm fr strm ent queue nalloc allowed ready keyed entry short carries pushed found
      offset small strmFits connFits filled =>
    exact ok.still ⟨rfl, rfl, rfl⟩ (.set rfl found ⟨rfl, rfl, rfl, rfl, rfl⟩) taken (countedEvents_plain rfl)
  case sendEarly ckm fr strm ent nalloc allowed ready entry short carries found offset small strmFits
      connFits filled =>
    exact ok.still ⟨rfl, rfl, rfl⟩ (.set rfl found ⟨rfl, rfl, rfl, rfl, rfl⟩) taken (countedEvents_plain rfl)
  case ackFrame ent fr rest held chain acked silent =>
    rcases v.ackFrame_cases fr with ⟨sent, strm, _, found, same⟩ | ⟨_, same⟩ <;> rw [same] at taken ⊢
    · exact ok.still ⟨rfl, rfl, rfl⟩ (.set rfl found ⟨rfl, rfl, rfl, rfl, rfl⟩) taken rfl
    · exact ok.still ⟨rfl, rfl, rfl⟩ (.same rfl) taken rfl
  case ackReport ent fr rest strm held chain acked found told =>
    exact ok.still ⟨rfl, rfl, rfl⟩ (.set rfl found ⟨rfl, rfl, rfl, rfl, rfl⟩) taken (countedEvents_plain rfl)
  case split ckm frames ack ent ent' nent queue nalloc allowed ready carried held same chain renewed
      pktNum fresh allocated pushed =>
    exact ok.still ⟨rfl, rfl, rfl⟩ (.same rfl) taken
      ((countedEvents_plain rfl).trans (countedEvents_plain rfl))
  case handshakeOver state allowed =>
    exact ok.still ⟨rfl, rfl, rfl⟩ (.same rfl) taken
      ((countedEvents_plain rfl).trans (countedEvents_plain rfl))
  case initial n allowed bound =>
    refine ok.still ⟨?_, ?_, ?_⟩ (.same ?_) taken (countedEvents_plain rfl) <;> simp only [View.emit]
  all_goals first
    | exact ok.still ⟨rfl, rfl, rfl⟩ (.same rfl) taken rfl
    | exact ok.still ⟨rfl, rfl, rfl⟩ (.same rfl) taken (countedEvents_plain rfl)

end

theorem Started.rxOk {c : Conn} (first : Started c) : c.view.RxOk := by
  have strms := first.each (P := fun _ => Strm.RxOk) fun maxRx => ngtcp2StrmInit_rxOk 0 false false maxRx _
  have charged := first.each (P := fun id strm => id ≠ 0 → strm.Charged 0) fun _ plain => absurd rfl plain
  have bound (n : UInt32) : n.toNat ≤ maxVarint := by
    have small := n.toNat_lt
    unfold maxVarint
    omega
  cases first <;>
    exact ⟨Nat.zero_le _, Nat.le_refl _, bound _, rfl, nofun, nofun, strms, charged⟩

theorem Runs.rxOk {acts : List Act} {c : Conn} (run : Runs acts c) (exact_ : ∀ act ∈ acts, ¬ act.call.wraps)
    (accepted : Marked Mark.Accepted c.view.log) : c.view.Ids ∧ c.view.RxOk := by
  induction run with
  | start first => exact ⟨first.ids, first.rxOk⟩
  | @next acts s t act before step ih =>
    have reaches := step.reaches_scope (Runs.role before)
    have earlier := ih (fun act member => exact_ act (mem_append_left _ member))
      (Marked.earlier reaches.log_extends accepted)
    have now := exact_ act (mem_append_right _ (mem_singleton_self act))
    exact reaches.invariant (C := Marked Mark.Accepted) Marked.earlier (P := fun v => v.Ids ∧ v.RxOk)
      (fun _ _ move accepted holds => ⟨move.ids holds.1, move.rxOk holds.1 now accepted holds.2⟩) accepted
      earlier

theorem Conn.claims_view (c : Conn) : claims c.view.log = claims c.log := by
  unfold claims Conn.view
  rw [filterMap_filter]
  refine filterMap_congr fun e _ => ?_
  cases e <;> simp [Event.kept, Event.claim?]

instance (call : Call) : Decidable call.wraps := by
  apply call.casesOn (motive := fun call => Decidable call.wraps) <;> intros <;> unfold Call.wraps <;> infer_instance

-- the client sends the bytes from 2 to 5 of stream 4, and resets stream 8, which it has not used
def claimedCalls : List (App × Call) :=
  [(.quiet, .frame (.stream { fin := false, streamId := 4, offset := 2, data := [1, 2, 3] })),
   (.quiet, .frame (.rstStream { streamId := 8, appErrorCode := 0, finalOffset := 7 }))]

def wrappedCalls : List (App × Call) :=
  [(.quiet, .openBidiStream), (.quiet, .extendMaxStreamOffset 1 18446744073709551615)]

end Ngtcp2
