import Ngtcp2.Invariant.StreamIds

/-!
# The credit of stream 0

After the handshake, bytes in order are not credited, and those out of the reorder buffer twice.
-/

namespace Ngtcp2

open List

section Log

def Event.consumes (n : Nat) : Event → Nat
  | .recvStream0Data data => n + data.length
  | .mark (.retry _ _) => 0
  | _ => n

def consumed (log : List Event) : Nat := log.foldl Event.consumes 0

theorem consumed_append (log more : List Event) :
    consumed (log ++ more) = more.foldl Event.consumes (consumed log) :=
  foldl_append ..

theorem consumed_plain {log : List Event} {e : Event} (plain : ∀ n, e.consumes n = n) :
    consumed (log ++ [e]) = consumed log :=
  (consumed_append log [e]).trans (plain _)

theorem consumed_kept (log : List Event) : consumed (log.filter Event.kept) = consumed log := by
  unfold consumed
  rw [foldl_filter]
  congr
  funext n e
  -- an event that the machine does not see hands nothing on
  cases e <;> simp [Event.kept, Event.consumes]

end Log

def Mark.Credits : Mark → Prop
  | .uncredited | .extendStream0 => False
  | _ => True

instance : DecidablePred Mark.Credits := fun m => by
  apply m.casesOn (motive := fun m => Decidable m.Credits) <;> intros <;> unfold Mark.Credits <;> infer_instance

def View.window0 (v : View) : Option Nat := (v.strms 0).map Strm.unsentMaxRxOffset

def View.Balanced (v : View) : Prop :=
  ∀ window, v.window0 = some window →
    v.localSettings.maxStreamData.toNat + consumed v.log < varintBound →
    window + v.owed = v.localSettings.maxStreamData.toNat + consumed v.log

section

variable {sc : Scope} {v w : View}

theorem View.window0_other {id : Nat} {strm : Option Strm} (plain : id ≠ 0)
    (strms : w.strms = Function.update v.strms id strm) : w.window0 = v.window0 := by
  simp [View.window0, strms, plain.symm]

theorem View.window0_set {id : Nat} {strm strm' : Strm} (found : v.strms id = some strm)
    (strms : w.strms = Function.update v.strms id (some strm'))
    (same : strm'.unsentMaxRxOffset = strm.unsentMaxRxOffset) : w.window0 = v.window0 := by
  by_cases zero : id = 0
  · subst zero
    simp [View.window0, strms, found, same]
  · exact View.window0_other zero strms

theorem View.Ids.absent_other {id : Nat} (ids : v.Ids) (absent : v.strms id = none) : id ≠ 0 := by
  intro zero
  subst zero
  have present := ids.zero
  simp [View.key, absent] at present

theorem View.Balanced.same (ok : v.Balanced) (window : w.window0 = v.window0)
    (settings : w.localSettings = v.localSettings) (owed : w.owed = v.owed)
    (log : consumed w.log = consumed v.log) : w.Balanced := by
  intro n found small
  rw [settings, log] at small ⊢
  rw [owed]
  exact ok n (window ▸ found) small

theorem Move.balanced (move : Move sc v w) (ids : v.Ids) (credits : Marked Mark.Credits w.log)
    (ok : v.Balanced) : w.Balanced := by
  have earlier := Marked.earlier move.log_extends credits
  cases move
  -- bytes of stream 0 are handed on, and credited afterwards
  case handOn data allowed settled =>
    intro window found small
    have more : consumed (v.log ++ [.recvStream0Data data]) = consumed v.log + data.length := consumed_append ..
    change v.localSettings.maxStreamData.toNat + consumed (v.log ++ [.recvStream0Data data]) < _ at small
    change window + data.length = v.localSettings.maxStreamData.toNat + consumed (v.log ++ [.recvStream0Data data])
    rw [more] at small ⊢
    have balance := ok window found (by omega)
    omega
  case credit n strm allowed found due =>
    intro window held small
    have balance := ok strm.unsentMaxRxOffset (by simp [View.window0, found]) small
    have exact_ : n = v.owed := due.due.resolve_right fun marked => earlier _ marked
    obtain rfl : add64 strm.unsentMaxRxOffset n = window := by
      simpa [View.window0, View.setStrm] using held
    have fits : add64 strm.unsentMaxRxOffset n = strm.unsentMaxRxOffset + n := by
      refine add64_eq ?_
      change v.localSettings.maxStreamData.toNat + consumed v.log < varintBound at small
      unfold varintBound at small
      omega
    rw [fits, exact_]
    exact balance
  case uncredit => exact (credits .uncredited (by simp [View.emit])).elim
  case retry settled allowed enters stays empty noted =>
    intro window found small
    obtain rfl : v.localSettings.maxStreamData.toNat = window := by
      simpa [View.window0, View.enter, View.setStrm, ngtcp2StrmInit] using found
    simp [View.enter, View.setStrm, View.emit, consumed_append, Event.consumes, settled]
  case rx id strm strm' allowed found step =>
    cases step with
    | rob rob filled => exact ok.same (View.window0_set found rfl rfl) rfl rfl rfl
    | extend n grows noted =>
      have plain : id ≠ 0 := fun zero => earlier _ (noted zero)
      exact ok.same (View.window0_other plain rfl) rfl rfl rfl
  -- the other streams come and go
  case newRemote id idtr strm bound remote opened absent maxTx init =>
    exact ok.same (View.window0_other (ids.absent_other absent) rfl) rfl rfl (consumed_plain fun _ => rfl)
  case newBidi strm allowed absent maxTx init =>
    exact ok.same (View.window0_other (ids.absent_other absent) rfl) rfl rfl (consumed_plain fun _ => rfl)
  case newUni strm allowed absent maxTx init =>
    exact ok.same (View.window0_other (ids.absent_other absent) rfl) rfl rfl (consumed_plain fun _ => rfl)
  case close id code strm found closable =>
    have log : consumed (v.closeStream strm code).log = consumed v.log := by
      simp [View.closeStream, closeMark, consumed_append, Event.consumes]
    by_cases zero : strm.streamId = 0
    · intro window open_
      simp [View.window0, View.closeStream, View.setStrm, zero] at open_
    · exact ok.same (View.window0_other zero rfl) rfl rfl log
  -- what is written to a stream leaves its window alone
  case maxStreamData id n strm found bound => exact ok.same (View.window0_set found rfl rfl) rfl rfl rfl
  case strm0Limit limit strm found bound =>
    exact ok.same (View.window0_set found rfl rfl) rfl rfl (consumed_plain fun _ => rfl)
  case handshakeBytes n strm found bound =>
    exact ok.same (View.window0_set found rfl rfl) rfl rfl (consumed_plain fun _ => rfl)
  case reset id strm fr found named queued => exact ok.same (View.window0_set found rfl rfl) rfl rfl rfl
  case stop id strm allowed found unlisted plain => exact ok.same (View.window0_set found rfl rfl) rfl rfl rfl
  case claim id offset n strm strm' allowed found same zero claims =>
    exact ok.same (View.window0_set found rfl claims.unsent) rfl rfl (consumed_plain fun _ => rfl)
  case refuse id n last strm allowed found reach =>
    exact ok.same (View.window0_set found rfl rfl) rfl rfl (consumed_plain fun _ => rfl)
  case fcLink id strm found unlisted receives => exact ok.same (View.window0_set found rfl rfl) rfl rfl rfl
  case fcUnlink id strm found listed => exact ok.same (View.window0_set found rfl rfl) rfl rfl rfl
  case advertiseStrm rest id strm first listed found queued =>
    exact ok.same (View.window0_set found rfl rfl) rfl rfl rfl
  case sendStream ckm fr strm ent queue nalloc allowed ready keyed entry short carries pushed found offset
      bound strmFits connFits filled =>
    exact ok.same (View.window0_set found rfl rfl) rfl rfl (consumed_plain fun _ => rfl)
  case sendEarly ckm fr strm ent nalloc allowed ready entry short carries found offset bound strmFits
      connFits filled =>
    exact ok.same (View.window0_set found rfl rfl) rfl rfl (consumed_plain fun _ => rfl)
  case ackFrame ent fr rest held chain acked silent =>
    rcases v.ackFrame_cases fr with ⟨sent, strm, _, found, same⟩ | ⟨_, same⟩ <;> rw [same]
    · exact ok.same (View.window0_set found rfl rfl) rfl rfl rfl
    · exact ok.same rfl rfl rfl rfl
  case ackReport ent fr rest strm held chain acked found told =>
    exact ok.same (View.window0_set found rfl rfl) rfl rfl (consumed_plain fun _ => rfl)
  -- two events
  case handshakeOver state allowed =>
    exact ok.same rfl rfl rfl (by simp [View.enter, View.emit, consumed_append, Event.consumes])
  case split resting ckm frames ack ent ent' nent queue nalloc allowed ready carried held same chain renewed
      pktNum fresh allocated pushed =>
    exact ok.same rfl rfl rfl (by simp [View.send, View.emit, consumed_append, Event.consumes])
  case initial n allowed bound =>
    refine ok.same ?_ ?_ ?_ ?_ <;> simp only [View.emit, View.window0, consumed_append, foldl_cons, foldl_nil, Event.consumes]
  all_goals first
    | exact ok.same rfl rfl rfl rfl
    | exact ok.same rfl rfl rfl (consumed_plain fun _ => rfl)

end

theorem Started.balanced {c : Conn} (first : Started c) : c.view.Balanced := by
  intro window found small
  cases first <;>
    simp [View.window0, Conn.view, ngtcp2ConnClientNew, ngtcp2ConnServerNew, connNew, ngtcp2StrmInit, Strm.view,
      consumed] at found ⊢ <;>
    exact found.symm

/-- The window of stream 0 has grown by the bytes that the TLS stack was given, unless some were handed on after
the handshake or refused, or the application has extended it. -/
theorem strm0_credit {acts : List Act} {c : Conn} (run : Runs acts c) (credits : Marked Mark.Credits c.log)
    (small : c.localSettings.maxStreamData.toNat + consumed c.log < varintBound) :
    ∃ strm, c.strms 0 = some strm ∧
      strm.unsentMaxRxOffset = c.localSettings.maxStreamData.toNat + consumed c.log := by
  obtain ⟨ids, balanced⟩ : c.view.Ids ∧ c.view.Balanced :=
    run.invariant_marked (P := fun v => v.Ids ∧ v.Balanced) (fun c first => ⟨first.ids, first.balanced⟩)
      (fun v w move marked both => ⟨move.ids both.1, move.balanced both.1 marked both.2⟩) credits
  have same : consumed c.view.log = consumed c.log := consumed_kept c.log
  cases found : c.strms 0 with
  | none =>
    have present := ids.zero
    simp [View.key, Conn.view, found] at present
  | some strm =>
    have balance := balanced strm.unsentMaxRxOffset (by simp [View.window0, Conn.view, found, Strm.view]) (same ▸ small)
    exact ⟨strm, rfl, same ▸ balance⟩

-- the two bytes of the handshake are credited
theorem strm0_credit_openServer :
    consumed openServer.log = 2 ∧ ∃ strm, openServer.strms 0 = some strm ∧
      strm.unsentMaxRxOffset = openServer.localSettings.maxStreamData.toNat + consumed openServer.log :=
  ⟨by decide, strm0_credit openServer_runs (by decide) (by decide)⟩

-- after the handshake three bytes of stream 0 arrive, the last one first
def reorderedZero : List (App × Call) :=
  [(.quiet, .frame (.stream { fin := false, streamId := 0, offset := 4, data := [3] })),
   (.quiet, .frame (.stream { fin := false, streamId := 0, offset := 2, data := [1, 2] }))]

theorem strm0_credit_astray :
    ∃ acts c strm, Runs acts c ∧ c.strms 0 = some strm ∧
      c.localSettings.maxStreamData.toNat + consumed c.log < varintBound ∧
      strm.unsentMaxRxOffset ≠ c.localSettings.maxStreamData.toNat + consumed c.log :=
  ⟨_, _, _, Runs.play openServer_runs reorderedZero (by decide), rfl, by decide, by decide⟩

end Ngtcp2
