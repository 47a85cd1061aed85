import Ngtcp2.Invariant.RxFlow

/-!
# The receive side of a stream

One case analysis of the moves says what can happen to what a receiver knows of a stream.
-/

namespace Ngtcp2

open List Range

structure RxSide where
  rob : Rob
  lastRxOffset : Nat
  shutRd : Bool
  recvRst : Bool
  stopSending : Bool

def Strm.rxSide (strm : Strm) : RxSide where
  rob := strm.rob
  lastRxOffset := strm.lastRxOffset
  shutRd := strm.shutRd
  recvRst := strm.recvRst
  stopSending := strm.stopSending

def RxSide.new (shutRd : Bool) : RxSide where
  rob := ngtcp2RobInit robChunk
  lastRxOffset := 0
  shutRd := shutRd
  recvRst := false
  stopSending := false

def View.rxSide (v : View) (id : Nat) : Option RxSide := (v.strms id).map Strm.rxSide

def Conn.rxSide (c : Conn) (id : Nat) : Option RxSide := (c.strms id).map Strm.rxSide

theorem Conn.view_rxSide (c : Conn) (id : Nat) : c.view.rxSide id = c.rxSide id := by
  cases found : c.strms id <;> simp [View.rxSide, Conn.rxSide, Conn.view, found, Strm.rxSide, Strm.view]

def RxSide.settled (side : RxSide) : Bool :=
  side.shutRd && (side.recvRst || ngtcp2RobFirstGapOffset side.rob == side.lastRxOffset)

theorem Strm.closable_settled {strm : Strm} (closable : strm.closable = true) :
    strm.rxSide.settled = true := by
  unfold Strm.closable at closable
  simp only [Bool.and_eq_true] at closable
  simp [RxSide.settled, Strm.rxSide, closable.1.1.1, closable.1.2]

inductive RxEffect (sc : Scope) (v w : View) (id : Nat) : Prop
  | kept (side : w.rxSide id = v.rxSide id)
  | opened (absent : v.rxSide id = none) (free : ¬ v.book.Taken id) (shutRd : Bool)
    (ours : shutRd = true → v.localStream id = true ∧ bidiStream id = false)
    (found : w.rxSide id = some (.new shutRd))
  | closed (side : RxSide) (held : v.rxSide id = some side) (settled : side.settled = true)
    (gone : w.rxSide id = none)
  | restarted (zero : id = 0) (found : w.rxSide id = some (.new false))
  | stopped (plain : id ≠ 0) (allowed : sc.shut id) (side : RxSide) (held : v.rxSide id = some side)
    (found : w.rxSide id = some { side with stopSending := true })
  | filled (allowed : sc.rx id) (side : RxSide) (rob : Rob) (held : v.rxSide id = some side)
    (filled : side.rob.Filled rob side.lastRxOffset) (found : w.rxSide id = some { side with rob := rob })
  | reached (allowed : sc.rx id) (side : RxSide) (last : Nat) (shutRd recvRst : Bool)
    (held : v.rxSide id = some side)
    (reach : last = side.lastRxOffset ∨ side.lastRxOffset ≤ last ∧ last < 2 * varintBound)
    (zero : id = 0 → shutRd = side.shutRd)
    (found : w.rxSide id = some
      { side with lastRxOffset := last, shutRd := shutRd, recvRst := recvRst })

section

variable {sc : Scope} {v w : View} {id : Nat}

theorem View.rxSide_same (strms : w.strms = v.strms) : w.rxSide id = v.rxSide id := by
  unfold View.rxSide
  rw [strms]

theorem View.rxSide_other {i : Nat} {x : Option Strm} (strms : w.strms = Function.update v.strms i x)
    (other : id ≠ i) : w.rxSide id = v.rxSide id := by
  unfold View.rxSide
  rw [strms, Function.update_of_ne other]

theorem View.rxSide_own {x : Option Strm} (strms : w.strms = Function.update v.strms id x) :
    w.rxSide id = x.map Strm.rxSide := by
  unfold View.rxSide
  rw [strms, Function.update_self]

theorem View.rxSide_set {i : Nat} {strm strm' : Strm} (found : v.strms i = some strm)
    (strms : w.strms = Function.update v.strms i (some strm')) (same : strm'.rxSide = strm.rxSide) :
    w.rxSide id = v.rxSide id := by
  by_cases here : id = i
  · subst here
    rw [View.rxSide_own strms]
    simp [View.rxSide, found, same]
  · exact View.rxSide_other strms here

theorem RxEffect.created {i : Nat} {strm : Strm} {shutRd : Bool} (ids : v.Ids) (free : ¬ v.book.Taken i)
    (strms : w.strms = Function.update v.strms i (some strm)) (new : strm.rxSide = .new shutRd)
    (ours : shutRd = true → v.localStream i = true ∧ bidiStream i = false) : RxEffect sc v w id := by
  by_cases here : id = i
  · subst here
    refine .opened ?_ free shutRd ours (by rw [View.rxSide_own strms]; simp [new])
    cases found : v.strms id with
    | none => simp [View.rxSide, found]
    | some strm => exact absurd (ids.taken found) free
  · exact .kept (View.rxSide_other strms here)

theorem RxEffect.here {i : Nat} {strm strm' : Strm} (found : v.strms i = some strm)
    (strms : w.strms = Function.update v.strms i (some strm'))
    (effect : id = i → v.rxSide id = some strm.rxSide → w.rxSide id = some strm'.rxSide → RxEffect sc v w id) :
    RxEffect sc v w id := by
  by_cases same : id = i
  · subst same
    exact effect rfl (by simp [View.rxSide, found]) (View.rxSide_own strms)
  · exact .kept (View.rxSide_other strms same)

theorem Move.rxEffect (move : Move sc v w) (ids : v.Ids) (id : Nat) : RxEffect sc v w id := by
  cases move
  case newRemote i idtr strm bound remote opened absent maxTx init =>
    obtain ⟨-, free, -, -⟩ := ids.book.setIdtr bound remote opened
    exact .created ids free rfl (init ▸ rfl : strm.rxSide = .new false) nofun
  case newBidi strm allowed absent maxTx init =>
    exact .created ids ids.book.next_free.1 rfl (init ▸ rfl : strm.rxSide = .new false) nofun
  case newUni strm allowed absent maxTx init =>
    exact .created ids ids.book.next_free.2 rfl (init ▸ rfl : strm.rxSide = .new true) fun _ =>
      ids.book.nextUni_kind
  case close i code strm found closable =>
    have named := ids.name found
    subst named
    by_cases here : id = strm.streamId
    · subst here
      exact .closed strm.rxSide (by simp [View.rxSide, found]) (Strm.closable_settled closable)
        (View.rxSide_own (x := none) rfl)
    · exact .kept (View.rxSide_other (x := none) rfl here)
  case retry allowed enters stays empty noted =>
    by_cases zero : id = 0
    · subst zero
      exact .restarted rfl (by simp [View.rxSide, View.enter, View.setStrm, Strm.rxSide, RxSide.new, ngtcp2StrmInit])
    · exact .kept (View.rxSide_other rfl zero)
  case stop i strm allowed found unlisted plain =>
    refine .here found rfl fun here held now => ?_
    subst here
    exact .stopped plain allowed strm.rxSide held now
  case rx i strm strm' allowed found step =>
    refine .here found rfl fun here held now => ?_
    subst here
    cases step with
    | rob rob filled => exact .filled allowed strm.rxSide rob held filled now
    | extend n grows noted => exact .kept (now.trans held.symm)
  case credit n strm allowed found credits =>
    exact .here found rfl fun here held now => .kept (now.trans held.symm)
  case claim i offset n strm strm' allowed found same zero claims =>
    refine .here found rfl fun here held now => ?_
    subst here
    have reach : strm'.lastRxOffset = strm.lastRxOffset ∨
        strm.lastRxOffset ≤ strm'.lastRxOffset ∧ strm'.lastRxOffset < 2 * varintBound := by
      have bound := claims.bound
      rcases claims.last with last | ⟨last, -⟩
      · rw [last]
        omega
      · exact .inl last
    refine .reached allowed strm.rxSide strm'.lastRxOffset strm'.shutRd strm'.recvRst held reach zero ?_
    rw [now]
    simp [Strm.rxSide, claims.rob, same.stopSending]
  case refuse i n last strm allowed found reach =>
    refine .here found rfl fun here held now => ?_
    subst here
    exact .reached allowed strm.rxSide last strm.shutRd strm.recvRst held reach (fun _ => rfl) now
  case maxStreamData i n strm found bound => exact .kept (View.rxSide_set found rfl rfl)
  case strm0Limit limit strm found bound => exact .kept (View.rxSide_set found rfl rfl)
  case handshakeBytes n strm found bound => exact .kept (View.rxSide_set found rfl rfl)
  case reset i strm fr found named queued => exact .kept (View.rxSide_set found rfl rfl)
  case fcLink i strm found unlisted receives => exact .kept (View.rxSide_set found rfl rfl)
  case fcUnlink i strm found listed => exact .kept (View.rxSide_set found rfl rfl)
  case advertiseStrm waiting i strm first listed found queued => exact .kept (View.rxSide_set found rfl rfl)
  case ackReport ent fr rest strm held chain acked found told => exact .kept (View.rxSide_set found rfl rfl)
  case sendStream ckm fr strm ent queue nalloc allowed ready keyed entry short carries pushed found
      offset small strmFits connFits filled =>
    exact .kept (View.rxSide_set found rfl rfl)
  case sendEarly ckm fr strm ent nalloc allowed ready entry short carries found offset small strmFits
      connFits filled =>
    exact .kept (View.rxSide_set found rfl rfl)
  case ackFrame ent fr rest held chain acked silent =>
    rcases v.ackFrame_cases fr with ⟨sent, strm, _, found, same⟩ | ⟨_, same⟩ <;> rw [same]
    · exact .kept (View.rxSide_set found rfl rfl)
    · exact .kept (View.rxSide_same rfl)
  all_goals exact .kept (View.rxSide_same rfl)

namespace Book

variable {b : Book} {i : Nat}

theorem Ok.openBidi_only (ok : b.Ok) (allowed : b.nextBidi ≤ b.maxBidi)
    (now : ({ b with nextBidi := add64 b.nextBidi 4 } : Book).Taken i) : b.Taken i ∨ i = b.nextBidi := by
  have next := add64_next allowed ok.maxBidi
  have kind := ok.nextBidi
  unfold Taken at now ⊢
  change if b.localStream i then _ else (b.idtr i).Opened i at now
  by_cases ours : b.localStream i = true
  · rw [if_pos ours] at now ⊢
    unfold Book.next at now ⊢
    unfold Book.localStream at ours
    by_cases bidi : bidiStream i = true
    · simp only [bidi, ↓reduceIte, next] at now ⊢
      unfold bidiStream at bidi
      cases server : b.server <;> simp [server] at ours kind bidi <;> omega
    · simp only [bidi, Bool.false_eq_true, ↓reduceIte] at now ⊢
      exact .inl now
  · rw [if_neg ours] at now ⊢
    exact .inl now

theorem Ok.openUni_only (ok : b.Ok) (allowed : b.nextUni ≤ b.maxUni)
    (now : ({ b with nextUni := add64 b.nextUni 4 } : Book).Taken i) : b.Taken i ∨ i = b.nextUni := by
  have next := add64_next allowed ok.maxUni
  have kind := ok.nextUni
  unfold Taken at now ⊢
  change if b.localStream i then _ else (b.idtr i).Opened i at now
  by_cases ours : b.localStream i = true
  · rw [if_pos ours] at now ⊢
    unfold Book.next at now ⊢
    unfold Book.localStream at ours
    by_cases bidi : bidiStream i = true
    · simp only [bidi, ↓reduceIte] at now ⊢
      exact .inl now
    · simp only [bidi, Bool.false_eq_true, ↓reduceIte, next] at now ⊢
      unfold bidiStream at bidi
      cases server : b.server <;> simp [server] at ours kind bidi <;> omega
  · rw [if_neg ours] at now ⊢
    exact .inl now

end Book

theorem Move.newly_taken (move : Move sc v w) (ids : v.Ids) (now : w.book.Taken id) :
    v.book.Taken id ∨ (w.rxSide id).isSome = true ∨ sc.shut id := by
  have recorded {i : Nat} {idtr : Idtr} (bound : i < varintBound) (theirs : v.localStream i = false)
      (opened : ngtcp2IdtrOpen (v.idtr i) i = .ok idtr) (other : id ≠ i)
      (now : (v.book.setIdtr i idtr).Taken id) : v.book.Taken id := by
    obtain ⟨good, -⟩ := ids.book.idtr i
    obtain ⟨-, -, -, opens⟩ := ngtcp2IdtrOpen_ok good bound opened
    unfold Book.Taken at now ⊢
    change if v.book.localStream id then id < v.book.next id else _ at now
    split at now
    next ours => rwa [if_pos ours]
    next remote =>
      rw [if_neg remote]
      rw [Book.idtr_setIdtr] at now
      split at now
      next kind =>
        have same : v.book.idtr id = v.book.idtr i := by
          unfold Book.idtr
          rw [kind]
        rw [same]
        refine ((opens id).mp now).resolve_right fun index => other ?_
        unfold Book.localStream at remote
        unfold View.localStream at theirs
        unfold bidiStream at kind
        unfold idFromStreamId at index
        change ¬ (if v.server = true then id % 2 != 0 else id % 2 == 0) = true at remote
        cases server : v.server <;> simp [server] at remote theirs <;>
          cases first : (id / 2 % 2 == 0) <;> simp_all <;> omega
      next => exact now
  cases move
  case openId i idtr allowed bound remote opened =>
    by_cases here : id = i
    · exact .inr (.inr (here ▸ allowed))
    · exact .inl (recorded bound remote opened here now)
  case claimUnseen i offset idtr allowed shut bound remote opened fits =>
    by_cases here : id = i
    · exact .inr (.inr (here ▸ shut))
    · rcases opened with opened | ⟨broken, -⟩
      · exact .inl (recorded bound remote opened here now)
      · exact absurd (ids.book.idtr i).1 broken
  case newRemote i idtr strm bound remote opened absent maxTx init =>
    by_cases here : id = i
    · subst here
      refine .inr (.inl ?_)
      rw [View.rxSide_own (x := some strm) rfl]
      rfl
    · exact .inl (recorded bound remote opened here now)
  case newBidi strm allowed absent maxTx init =>
    by_cases here : id = v.nextLocalStreamIdBidi
    · subst here
      refine .inr (.inl ?_)
      rw [View.rxSide_own (x := some strm) rfl]
      rfl
    · exact .inl ((ids.book.openBidi_only allowed now).resolve_right here)
  case newUni strm allowed absent maxTx init =>
    by_cases here : id = v.nextLocalStreamIdUni
    · subst here
      refine .inr (.inl ?_)
      rw [View.rxSide_own (x := some strm) rfl]
      rfl
    · exact .inl ((ids.book.openUni_only allowed now).resolve_right here)
  case ackFrame ent fr rest held chain acked silent =>
    rcases v.ackFrame_cases fr with ⟨_, _, _, _, same⟩ | ⟨_, same⟩ <;> rw [same] at now <;> exact .inl now
  case initial n allowed bound =>
    refine .inl (now.later ?_ ?_ (Nat.le_of_eq ?_)) <;> simp only [View.book, View.emit, Book.next]
  all_goals exact .inl now

def Event.delivery? (id : Nat) : Event → Option (Bool × List UInt8)
  | .recvStreamData i fin data => if i = id then some (fin, data) else none
  | _ => none

def deliveries (id : Nat) (log : List Event) : List (Bool × List UInt8) := log.filterMap (Event.delivery? id)

theorem deliveries_append (id : Nat) (log more : List Event) :
    deliveries id (log ++ more) = deliveries id log ++ deliveries id more :=
  filterMap_append

theorem deliveries_plain {log : List Event} {e : Event} (plain : e.delivery? id = none) :
    deliveries id (log ++ [e]) = deliveries id log := by
  simp [deliveries, plain]

theorem Conn.deliveries_view (c : Conn) (id : Nat) : deliveries id c.view.log = deliveries id c.log := by
  unfold deliveries Conn.view
  rw [filterMap_filter]
  refine filterMap_congr fun e _ => ?_
  cases e <;> simp [Event.kept, Event.delivery?]

theorem Move.deliveries (move : Move sc v w) (quiet : ¬ sc.rx id) :
    deliveries id w.log = deliveries id v.log := by
  cases move
  case deliver i fin data allowed opened =>
    have other : i ≠ id := fun same => quiet (same ▸ allowed)
    exact deliveries_plain (by simp [Event.delivery?, other])
  case close i code strm found closable =>
    simp [Ngtcp2.deliveries, View.closeStream, closeMark, Event.delivery?]
  case ackFrame ent fr rest held chain acked silent =>
    rcases v.ackFrame_cases fr with ⟨_, _, _, _, same⟩ | ⟨_, same⟩ <;> rw [same] <;> rfl
  case split ckm frames ack ent ent' nent queue nalloc allowed ready carried held same chain renewed
      pktNum fresh allocated pushed =>
    exact (deliveries_plain rfl).trans (deliveries_plain rfl)
  case handshakeOver state allowed => exact (deliveries_plain rfl).trans (deliveries_plain rfl)
  case retry allowed enters stays empty noted => exact (deliveries_plain rfl).trans (deliveries_plain rfl)
  case initial n allowed bound => exact deliveries_plain rfl
  all_goals first
    | exact rfl
    | exact deliveries_plain rfl

end

end Ngtcp2
