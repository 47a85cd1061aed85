import Ngtcp2.Receive.Stream

/-!
# A stream along a run

What is done elsewhere leaves the receiver of a stream where it is, and each frame on the stream takes it one
step.
-/

namespace Ngtcp2

open Prog

inductive View.Follows (v : View) (id : Nat) : Receiver → Prop
  | unseen (absent : v.rxSide id = none) (free : ¬ v.book.Taken id) : Follows v id .new
  | held {r : Receiver} (side : RxSide) (now : v.rxSide id = some side) (represents : side.Represents r) :
    Follows v id r
  | gone {r : Receiver} (absent : v.rxSide id = none) (taken : v.book.Taken id) (settled : r.settled = true) :
    Follows v id r

def View.Gone (v : View) (id : Nat) : Prop := v.rxSide id = none ∧ v.book.Taken id

section Moves

variable {sc : Scope} {v w : View} {id : Nat} {r : Receiver}

theorem Move.gone (move : Move sc v w) (ids : v.Ids) (plain : id ≠ 0) (gone : v.Gone id) : w.Gone id := by
  obtain ⟨absent, taken⟩ := gone
  refine ⟨?_, move.taken ids taken⟩
  cases move.rxEffect ids id with
  | kept same => exact same.trans absent
  | opened _ free => exact absurd taken free
  | restarted zero => exact absurd zero plain
  | closed _ _ _ now => exact now
  | stopped _ _ _ held => simp [absent] at held
  | filled _ _ _ held => simp [absent] at held
  | reached _ _ _ _ _ held => simp [absent] at held

def View.Receives (v : View) (id : Nat) : Prop := v.localStream id = true → bidiStream id = true

theorem Move.receives (move : Move sc v w) (receives : v.Receives id) : w.Receives id := by
  have same : w.localStream id = v.localStream id := by
    unfold View.localStream
    rw [move.server]
  intro ours
  exact receives (same ▸ ours)

theorem Move.follows (move : Move sc v w) (ids : v.Ids) (receives : v.Receives id) (plain : id ≠ 0)
    (quiet : ¬ sc.rx id) (open_ : ¬ sc.shut id) (follows : v.Follows id r) : w.Follows id r := by
  have taken : v.book.Taken id → w.book.Taken id := move.taken ids
  cases move.rxEffect ids id with
  | kept same =>
    cases follows with
    | unseen absent free =>
      refine .unseen (same.trans absent) fun now => ?_
      rcases move.newly_taken ids now with before | present | shut
      · exact free before
      · simp [same.trans absent] at present
      · exact open_ shut
    | held side now represents => exact .held side (same.trans now) represents
    | gone absent before settled => exact .gone (same.trans absent) (taken before) settled
  | opened absent free shutRd ours found =>
    cases follows with
    | unseen =>
      have running : shutRd = false := by
        cases shut : shutRd with
        | false => rfl
        | true =>
          obtain ⟨local_, uni⟩ := ours shut
          simp [receives local_] at uni
      subst running
      exact .held _ found RxSide.represents_new
    | held side now represents => simp [absent] at now
    | gone _ before => exact absurd before free
  | closed side held settled gone =>
    cases follows with
    | unseen absent => simp [absent] at held
    | held side' now represents =>
      obtain rfl := Option.some.inj (held.symm.trans now)
      have present : (v.strms id).isSome = true := by
        unfold View.rxSide at held
        cases found : v.strms id with
        | none => simp [found] at held
        | some strm => rfl
      obtain ⟨strm, found⟩ := Option.isSome_iff_exists.mp present
      exact .gone gone (taken (ids.taken found)) (represents.settled.symm.trans settled)
    | gone absent => simp [absent] at held
  | restarted zero => exact absurd zero plain
  | stopped _ allowed => exact absurd allowed open_
  | filled allowed => exact absurd allowed quiet
  | reached allowed => exact absurd allowed quiet

end Moves

section Frames

variable (app : App) {s t : Conn} {id : Nat} {r r' : Receiver}

def Conn.limit (c : Conn) (id : Nat) : Nat := (c.window id).getD c.localSettings.maxStreamData.toNat

structure Advance (s t : Conn) (id : Nat) (r r' : Receiver) : Prop where
  follows : t.view.Follows id r'
  told : Reports (deliveries id s.log) r → Reports (deliveries id t.log) r'
  limit : t.limit id = s.limit id ∨ r'.settled = true
  server : t.server = s.server
  localSettings : t.localSettings = s.localSettings
  maxRxOffset : t.maxRxOffset = s.maxRxOffset
  maxRemoteStreamIdBidi : t.maxRemoteStreamIdBidi = s.maxRemoteStreamIdBidi
  maxRemoteStreamIdUni : t.maxRemoteStreamIdUni = s.maxRemoteStreamIdUni

structure Opens (s u : Conn) (id : Nat) (strm : Strm) (r : Receiver) : Prop where
  here : ¬ s.view.Gone id
  holds : u.Holds id strm r
  taken : u.view.book.Taken id
  told : deliveries id u.log = deliveries id s.log
  limit : strm.maxRxOffset = s.limit id
  rxOffset : u.rxOffset = s.rxOffset
  server : u.server = s.server
  localSettings : u.localSettings = s.localSettings
  maxRxOffset : u.maxRxOffset = s.maxRxOffset
  maxRemoteStreamIdBidi : u.maxRemoteStreamIdBidi = s.maxRemoteStreamIdBidi
  maxRemoteStreamIdUni : u.maxRemoteStreamIdUni = s.maxRemoteStreamIdUni

section Opens

variable {u : Conn} {strm : Strm} {n : Nat}

theorem Opens.advance (opens : Opens s u id strm r) (progress : Progress { u with rxOffset := n } t id r r') :
    Advance s t id r r' where
  follows := by
    rcases progress.side with ⟨side, now, represents⟩ | ⟨absent, settled⟩
    · exact .held side ((t.view_rxSide id).trans now) represents
    · exact .gone ((t.view_rxSide id).trans absent) (progress.steady.book ▸ opens.taken) settled
  told reports := progress.told (opens.told ▸ reports)
  limit := by
    cases now : t.window id with
    | none =>
      have absent : t.rxSide id = none := by
        unfold Conn.window at now
        simpa [Conn.rxSide] using now
      rcases progress.side with ⟨side, held, -⟩ | ⟨-, settled⟩
      · simp [absent] at held
      · exact .inr settled
    | some m =>
      left
      have before : u.window id = some strm.maxRxOffset := by simp [Conn.window, opens.holds.found]
      have same : u.window id = some m := progress.window m now
      rw [← opens.limit, Conn.limit, now]
      exact Option.some.inj (same.symm.trans before)
  server := (congrArg Book.server progress.steady.book).trans opens.server
  localSettings := progress.steady.localSettings.trans opens.localSettings
  maxRxOffset := progress.steady.maxRxOffset.trans opens.maxRxOffset
  maxRemoteStreamIdBidi := progress.steady.maxRemoteStreamIdBidi.trans opens.maxRemoteStreamIdBidi
  maxRemoteStreamIdUni := progress.steady.maxRemoteStreamIdUni.trans opens.maxRemoteStreamIdUni

structure Outcome (s t : Conn) (fr : StreamFrame) (r r' : Receiver) (verdict : Verdict) (n : Nat) : Prop where
  here : ¬ s.view.Gone fr.streamId
  judged : r.verdict (s.limit fr.streamId) s fr = verdict
  advance : Advance s t fr.streamId r r'
  rxOffset : t.rxOffset = n

theorem Outcome.agreed {fr : StreamFrame} (outcome : Outcome s t fr r r' .accepted n) : r.refuses fr = false := by
  have judged := outcome.judged
  unfold Receiver.verdict at judged
  split at judged
  · cases judged
  · split at judged
    · cases judged
    next agreed => simpa using agreed

theorem Conn.counted_eq (c : Conn) (r : Receiver) (fr : StreamFrame) :
    c.counted r fr = { c with rxOffset := (c.counted r fr).rxOffset } := by
  unfold Conn.counted
  split <;> rfl

theorem Opens.refused (opens : Opens s u id strm r) (n : Nat) (es : List Event) (quiet : deliveries id es = []) :
    Advance s { u with rxOffset := n, log := u.log ++ es } id r r where
  follows := .held strm.rxSide ((Conn.view_rxSide _ id).trans (Conn.rxSide_of opens.holds.found)) opens.holds.represents
  told reports := by
    rw [show deliveries id (u.log ++ es) = _ from deliveries_append .., quiet, List.append_nil, opens.told]
    exact reports
  limit := by
    left
    rw [← opens.limit]
    simp [Conn.limit, Conn.window, opens.holds.found]
  server := opens.server
  localSettings := opens.localSettings
  maxRxOffset := opens.maxRxOffset
  maxRemoteStreamIdBidi := opens.maxRemoteStreamIdBidi
  maxRemoteStreamIdUni := opens.maxRemoteStreamIdUni

theorem connRecvStreamOn_opens {fr : StreamFrame} (opens : Opens s u fr.streamId strm r) (plain : fr.streamId ≠ 0)
    (bound : fr.endOffset ≤ 2 * varintBound) :
    wp (connRecvStreamOn app fr)
      (fun _ t => Outcome s t fr r (r.take fr) .accepted (s.counted r fr).rxOffset)
      (fun e t => e.outside = true ∨ (e = .FLOW_CONTROL ∧ Outcome s t fr r r .flow s.rxOffset) ∨
        e = .FINAL_OFFSET ∧ Outcome s t fr r r .final (s.counted r fr).rxOffset) u := by
  have judged : r.verdict strm.maxRxOffset u fr = r.verdict (s.limit fr.streamId) s fr := by
    unfold Receiver.verdict connMaxDataViolated
    rw [opens.limit, opens.rxOffset, opens.maxRxOffset]
  have counted : (u.counted r fr).rxOffset = (s.counted r fr).rxOffset := by
    unfold Conn.counted
    split
    · simp only [opens.rxOffset]
    · exact opens.rxOffset
  have same := Conn.counted_eq u r fr
  refine wp_mono (connRecvStreamOn_spec app plain opens.holds bound) ?_ ?_
  · rintro _ t ⟨accepted, progress⟩
    rw [same] at progress
    exact ⟨opens.here, judged ▸ accepted, opens.advance progress, progress.steady.rxOffset.trans counted⟩
  · rintro e t (outside | ⟨rfl, flow, rfl⟩ | ⟨rfl, final, rfl⟩)
    · exact .inl outside
    · refine .inr (.inl ⟨rfl, opens.here, judged ▸ flow, ?_, opens.rxOffset⟩)
      have unchanged := opens.refused t.rxOffset [] rfl
      rwa [List.append_nil] at unchanged
    · refine .inr (.inr ⟨rfl, opens.here, judged ▸ final, ?_, counted⟩)
      rw [same]
      exact opens.refused _ [.mark (.refused fr.streamId)] rfl

end Opens

theorem Book.Ok.asserted {b : Book} (ok : b.Ok) (remote : b.localStream id = false) :
    idtrAssert (b.idtr id) id = true := by
  obtain ⟨-, server⟩ := ok.idtr id
  unfold idtrAssert
  rw [server]
  unfold Book.localStream at remote
  cases kind : b.server <;> simp [kind] at remote ⊢ <;> simp [remote]

theorem Book.Ok.isOpen {b : Book} (ok : b.Ok) (remote : b.localStream id = false) :
    ngtcp2IdtrIsOpen (b.idtr id) id = .ok (idtrIsOpenGap (idFromStreamId id) (b.idtr id).gap) := by
  simp [ngtcp2IdtrIsOpen, ok.asserted remote]

theorem ngtcp2IdtrOpen_error {idtr : Idtr} {e : Err} (asserted : idtrAssert idtr id = true)
    (failed : ngtcp2IdtrOpen idtr id = .error e) : e = .STREAM_IN_USE := by
  unfold ngtcp2IdtrOpen at failed
  rw [asserted] at failed
  split at failed
  · contradiction
  · split at failed
    · cases failed
    · cases failed
      rfl

theorem Opens.refl {strm : Strm} (ids : s.view.Ids) (found : s.strms id = some strm)
    (represents : strm.rxSide.Represents r) : Opens s s id strm r where
  here gone := by simp [View.Gone, View.rxSide, Conn.view, found] at gone
  holds := ⟨found, (ids.name (Conn.view_strms found) : strm.view.streamId = id), represents⟩
  taken := ids.taken (Conn.view_strms found)
  told := rfl
  limit := by simp [Conn.limit, Conn.window, found]
  rxOffset := rfl
  server := rfl
  localSettings := rfl
  maxRxOffset := rfl
  maxRemoteStreamIdBidi := rfl
  maxRemoteStreamIdUni := rfl

theorem Opens.new {idtr : Idtr} (ids : s.view.Ids) (bound : id < varintBound) (absent : s.strms id = none)
    (remote : connLocalStream s id = false) (opened : ngtcp2IdtrOpen (connIdtr s id) id = .ok idtr) :
    Opens s (s.openRemote id idtr) id
      (ngtcp2StrmInit id false (!bidiStream id) s.localSettings.maxStreamData.toNat
        s.remoteSettings.maxStreamData.toNat) .new where
  here gone := (ids.book.setIdtr bound remote opened).2.1 gone.2
  holds := ⟨Conn.setStrm_strms .., rfl, RxSide.represents_new⟩
  taken := (ids.book.setIdtr bound remote opened).2.2.1
  told := deliveries_plain rfl
  limit := by simp [Conn.limit, Conn.window, absent, ngtcp2StrmInit]
  rxOffset := rfl
  server := rfl
  localSettings := rfl
  maxRxOffset := rfl
  maxRemoteStreamIdBidi := rfl
  maxRemoteStreamIdUni := rfl

theorem Book.taken_remote {b : Book} (remote : b.localStream id = false) (opened : (b.idtr id).Opened id) :
    b.Taken id := by
  simp [Book.Taken, remote, opened]

theorem streamIdError_taken (passed : streamIdError s id = none) (ours : connLocalStream s id = true) :
    s.view.book.Taken id := by
  have mine : s.view.book.localStream id = true := ours
  unfold Book.Taken
  rw [if_pos mine]
  unfold streamIdError at passed
  unfold Book.next
  cases bidi : bidiStream id with
  | true =>
    simp [bidi, ours] at passed ⊢
    exact passed
  | false =>
    simp [bidi, ours] at passed ⊢
    exact passed

theorem recvStreamError_id {fr : StreamFrame} (passed : recvStreamError s fr = none) :
    streamIdError s fr.streamId = none := by
  unfold recvStreamError at passed
  split at passed
  · cases passed
  split at passed
  · cases passed
  split at passed
  · cases passed
  next valid => exact valid

namespace View.Follows

theorem finished (follows : s.view.Follows id r) (absent : s.strms id = none) (taken : s.view.book.Taken id) :
    s.view.Gone id ∧ r.settled = true := by
  have missing : s.view.rxSide id = none := by simp [View.rxSide, Conn.view, absent]
  refine ⟨⟨missing, taken⟩, ?_⟩
  cases follows with
  | unseen _ free => exact absurd taken free
  | held side now => simp [missing] at now
  | gone _ _ settled => exact settled

theorem fresh (follows : s.view.Follows id r) (absent : s.strms id = none) (free : ¬ s.view.book.Taken id) :
    r = .new := by
  have missing : s.view.rxSide id = none := by simp [View.rxSide, Conn.view, absent]
  cases follows with
  | unseen => rfl
  | held side now => simp [missing] at now
  | gone _ taken => exact absurd taken free

theorem represents {strm : Strm} (follows : s.view.Follows id r) (found : s.strms id = some strm) :
    strm.rxSide.Represents r := by
  have present : s.view.rxSide id = some strm.rxSide := (s.view_rxSide id).trans (Conn.rxSide_of found)
  cases follows with
  | unseen absent => simp [absent] at present
  | gone absent => simp [absent] at present
  | held side now represents =>
    obtain rfl := Option.some.inj (now.symm.trans present)
    exact represents

end View.Follows

theorem connRecvStream_spec {fr : StreamFrame} (ids : s.view.Ids) (plain : fr.streamId ≠ 0) (wire : fr.WireOk)
    (follows : s.view.Follows fr.streamId r) :
    wp (connRecvStream app fr)
      (fun _ t => recvStreamError s fr = none ∧
        (t = s ∧ s.view.Gone fr.streamId ∧ r.settled = true ∨
          Outcome s t fr r (r.take fr) .accepted (s.counted r fr).rxOffset))
      (fun e t => e.outside = true ∨ recvStreamError s fr = some e ∧ t = s ∨
        recvStreamError s fr = none ∧ ((e = .FLOW_CONTROL ∧ Outcome s t fr r r .flow s.rxOffset) ∨
          e = .FINAL_OFFSET ∧ Outcome s t fr r r .final (s.counted r fr).rxOffset)) s := by
  unfold connRecvStream
  rw [wp_bind, wp_get]
  split
  next e failed => exact .inr (.inl ⟨failed, rfl⟩)
  next passed =>
  split
  next strm found =>
    refine wp_mono (connRecvStreamOn_opens app (Opens.refl ids found (follows.represents found)) plain
      (Nat.le_of_lt wire.endOffset)) (fun _ t outcome => ⟨passed, .inr outcome⟩) fun e t err => ?_
    exact err.imp_right fun known => .inr ⟨passed, known⟩
  next absent =>
    have finished := follows.finished absent
    split
    next ours =>
      refine ⟨passed, .inl ⟨rfl, finished (streamIdError_taken ?_ ours)⟩⟩
      exact recvStreamError_id passed
    next theirs =>
      have remote : connLocalStream s fr.streamId = false := Bool.eq_false_of_not_eq_true theirs
      split
      next used =>
        refine ⟨passed, .inl ⟨rfl, finished ?_⟩⟩
        exact Book.taken_remote remote (ngtcp2IdtrOpen_inUse (ids.book.idtr _).1 used)
      next e other failed => exact absurd (ngtcp2IdtrOpen_error (ids.book.asserted remote) failed) other
      next idtr opened =>
        have new := Opens.new ids wire.1 absent remote opened
        obtain rfl := follows.fresh absent (ids.book.setIdtr wire.1 remote opened).2.1
        rw [wp_bind]
        rcases connNewRemoteStream_run app absent with run | ⟨t, run⟩
        · rw [wp_run_ok run]
          refine wp_mono (connRecvStreamOn_opens app new plain (Nat.le_of_lt wire.endOffset))
            (fun _ t outcome => ⟨passed, .inr outcome⟩) fun e t err => ?_
          exact err.imp_right fun known => .inr ⟨passed, known⟩
        · refine wp_intro (fun _ u ok => ?_) fun e u failed => ?_
          · cases run.symm.trans ok
          · cases run.symm.trans failed
            exact .inl rfl

structure ResetOutcome (s t : Conn) (fr : RstStream) (r : Receiver) : Prop where
  agreed : r.refusesReset fr.finalOffset = false
  advance : Advance s t fr.streamId r r.resetBy
  rxOffset : t.rxOffset = add64 s.rxOffset (fr.finalOffset - r.last)

def Receiver.resetExceeds (r : Receiver) (s : Conn) (fr : RstStream) : Prop :=
  s.limit fr.streamId < fr.finalOffset ∨ connMaxDataViolated s (fr.finalOffset - r.last) = true

theorem Receiver.settled_resetBy (r : Receiver) : r.resetBy.settled = true := by
  simp [settled, resetBy]

theorem Conn.resetUnseen_advance {idtr : Idtr} (ids : s.view.Ids) (bound : id < varintBound)
    (absent : s.strms id = none) (remote : connLocalStream s id = false)
    (opened : ngtcp2IdtrOpen (connIdtr s id) id = .ok idtr) (n m : Nat) :
    Advance s { (s.emit (.mark (.claim id n))).setIdtr id idtr with rxOffset := m } id .new Receiver.new.resetBy where
  follows := by
    refine .gone ?_ (ids.book.setIdtr bound remote opened).2.2.1 (Receiver.settled_resetBy _)
    simp [View.rxSide, Conn.view, Conn.setIdtr, Conn.emit, absent]
  told reports := by
    have same : deliveries id (s.log ++ [.mark (.claim id n)]) = deliveries id s.log := deliveries_plain rfl
    exact Eq.mpr (congrArg (Reports · _) same) (reports.same rfl rfl)
  limit := .inr (Receiver.settled_resetBy _)
  server := rfl
  localSettings := rfl
  maxRxOffset := rfl
  maxRemoteStreamIdBidi := rfl
  maxRemoteStreamIdUni := rfl

theorem connRecvRstStream_spec {fr : RstStream} (ids : s.view.Ids) (plain : fr.streamId ≠ 0)
    (wire : (Frame.rstStream fr).WireOk) (receives : s.view.Receives fr.streamId)
    (follows : s.view.Follows fr.streamId r) :
    wp (connRecvRstStream app fr)
      (fun _ t => t = s ∧ s.view.Gone fr.streamId ∧ r.settled = true ∨ ResetOutcome s t fr r)
      (fun e _ => e.outside = true ∨ streamIdError s fr.streamId = some e ∨
        ¬ s.view.Gone fr.streamId ∧ ((e = .FINAL_OFFSET ∧ r.refusesReset fr.finalOffset = true) ∨
          e = .FLOW_CONTROL ∧ r.resetExceeds s fr)) s := by
  unfold connRecvRstStream
  rw [wp_bind, wp_get, if_neg plain]
  split
  next e failed => exact .inr (.inl failed)
  next passed =>
  split
  next absent =>
    have finished := follows.finished absent
    unfold connRecvRstStreamGone
    rw [wp_bind, wp_get]
    split
    next ours =>
      rw [if_neg fun uni => uni.1 (receives ours)]
      exact .inl ⟨rfl, finished (streamIdError_taken passed ours)⟩
    next theirs =>
      have remote : connLocalStream s fr.streamId = false := Bool.eq_false_of_not_eq_true theirs
      have good := (ids.book.idtr fr.streamId).1
      have run : ngtcp2IdtrIsOpen (connIdtr s fr.streamId) fr.streamId = .ok _ := ids.book.isOpen remote
      rw [run, wp_bind, wp_ofExcept_ok]
      split
      next used =>
        exact .inl ⟨rfl, finished (Book.taken_remote remote ((ngtcp2IdtrIsOpen_iff good wire.1 run).mp used))⟩
      next unused =>
        rw [Bool.eq_false_of_not_eq_true unused] at run
        obtain ⟨idtr, opened⟩ := ngtcp2IdtrOpen_of_closed good wire.1 run
        have free := (ids.book.setIdtr wire.1 remote opened).2.1
        obtain rfl := follows.fresh absent free
        have limit : s.limit fr.streamId = s.localSettings.maxStreamData.toNat := by
          simp [Conn.limit, Conn.window, absent]
        split
        next exceeds =>
          refine .inr (.inr ⟨fun gone => free gone.2, .inr ⟨rfl, ?_⟩⟩)
          rw [Receiver.resetExceeds, limit]
          exact exceeds
        next fits =>
          rw [show ngtcp2IdtrOpen (connIdtr s fr.streamId) fr.streamId = .ok idtr from opened]
          refine .inr ⟨by simp [Receiver.refusesReset, Receiver.new], ?_, rfl⟩
          exact Conn.resetUnseen_advance ids wire.1 absent remote opened fr.finalOffset _
  next strm found =>
    have opens := Opens.refl ids found (follows.represents found)
    refine wp_mono (connRecvRstStreamOn_spec app opens.holds) ?_ ?_
    · rintro _ t ⟨agreed, progress⟩
      exact .inr ⟨agreed, opens.advance progress, progress.steady.rxOffset⟩
    · rintro e t (outside | ⟨rfl, refused, -⟩ | ⟨rfl, exceeds, -⟩)
      · exact .inl outside
      · exact .inr (.inr ⟨opens.here, .inl ⟨rfl, refused⟩⟩)
      · refine .inr (.inr ⟨opens.here, .inr ⟨rfl, ?_⟩⟩)
        unfold Receiver.resetExceeds
        rwa [← opens.limit]

theorem connRecvStopSending_spec {fr : StopSending} (ids : s.view.Ids) (plain : fr.streamId ≠ 0)
    (wire : fr.streamId < varintBound) (follows : s.view.Follows fr.streamId r)
    (known : s.view.book.Taken fr.streamId) :
    wp (connRecvStopSending app fr)
      (fun _ t => t = s ∨ Advance s t fr.streamId r r ∧ t.rxOffset = s.rxOffset)
      (fun e t => e.outside = true ∨ streamIdError s fr.streamId = some e ∧ t = s) s := by
  cases passed : streamIdError s fr.streamId with
  | some e =>
    unfold connRecvStopSending
    rw [wp_bind, wp_get, if_neg plain, passed]
    exact .inr ⟨rfl, rfl⟩
  | none =>
    cases found : s.strms fr.streamId with
    | some strm =>
      have opens := Opens.refl ids found (follows.represents found)
      refine wp_mono (connRecvStopSending_open app opens.holds passed) (fun _ t progress => .inr ?_)
        fun e t err => .inl (err.resolve_right plain)
      exact ⟨opens.advance progress, progress.steady.rxOffset⟩
    | none =>
      unfold connRecvStopSending
      rw [wp_bind, wp_get, if_neg plain, passed, found]
      dsimp only
      split
      next => exact .inl rfl
      next theirs =>
        have remote : connLocalStream s fr.streamId = false := Bool.eq_false_of_not_eq_true theirs
        have opened : (s.view.book.idtr fr.streamId).Opened fr.streamId := by
          have mine : s.view.book.localStream fr.streamId = false := remote
          simpa [Book.Taken, mine] using known
        have run : ngtcp2IdtrIsOpen (connIdtr s fr.streamId) fr.streamId = .ok _ := ids.book.isOpen remote
        have used := (ngtcp2IdtrIsOpen_iff (ids.book.idtr _).1 wire run).mpr opened
        rw [run, used, wp_bind, wp_ofExcept_ok]
        exact .inl rfl

end Frames

section Steps

variable {s t : Conn} {id : Nat} {r : Receiver} {act : Act}

def Call.Touches (call : Call) (id : Nat) : Prop := call.rx id ∨ call.shut id

theorem Step.follows (step : Step s act t) (role : s.Role) (ids : s.view.Ids) (plain : id ≠ 0)
    (apart : ¬ act.call.Touches id) (receives : s.view.Receives id) (follows : s.view.Follows id r) :
    t.view.Follows id r ∧ deliveries id t.log = deliveries id s.log := by
  have reaches := step.reaches_scope role
  have kept : t.view.Ids ∧ t.view.Receives id ∧ t.view.Follows id r :=
    reaches.invariant (C := fun _ => True) (P := fun v => v.Ids ∧ v.Receives id ∧ v.Follows id r)
      (fun _ _ => trivial)
      (fun v w move _ holds => ⟨move.ids holds.1, move.receives holds.2.1,
        move.follows holds.1 holds.2.1 plain (fun rx => apart (.inl rx)) (fun shut => apart (.inr shut)) holds.2.2⟩)
      trivial ⟨ids, receives, follows⟩
  have told : deliveries id t.view.log = deliveries id s.view.log :=
    reaches.invariant (C := fun _ => True) (P := fun v => deliveries id v.log = deliveries id s.view.log)
      (fun _ _ => trivial) (fun v w move _ same => (move.deliveries fun rx => apart (.inl rx)).trans same) trivial rfl
  rw [t.deliveries_view, s.deliveries_view] at told
  exact ⟨kept.2.2, told⟩

theorem Step.gone (step : Step s act t) (role : s.Role) (ids : s.view.Ids) (plain : id ≠ 0) (gone : s.view.Gone id) :
    t.view.Gone id := by
  have kept : t.view.Ids ∧ t.view.Gone id :=
    (step.reaches_scope role).invariant (C := fun _ => True) (P := fun v => v.Ids ∧ v.Gone id) (fun _ _ => trivial)
      (fun v w move _ holds => ⟨move.ids holds.1, move.gone holds.1 plain holds.2⟩) trivial ⟨ids, gone⟩
  exact kept.2

structure Unmoved (id : Nat) (s t : Conn) : Prop where
  side : t.rxSide id = s.rxSide id
  book : t.view.book = s.view.book
  told : deliveries id t.log = deliveries id s.log

instance : Path (Unmoved id) (fun _ : Err => Unmoved id) where
  refl _ := ⟨rfl, rfl, rfl⟩
  trans first second := ⟨second.side.trans first.side, second.book.trans first.book, second.told.trans first.told⟩
  stop same := same
  after first second := ⟨second.side.trans first.side, second.book.trans first.book, second.told.trans first.told⟩

theorem modifyStrm_unmoved {f : Strm → Strm} (same : ∀ strm, (f strm).rxSide = strm.rxSide) (s : Conn) :
    Goes (Unmoved id) (fun _ => Unmoved id) (modifyStrm id f) s := by
  refine .modified ⟨?_, rfl, rfl⟩
  cases found : s.strms id <;> simp [Conn.rxSide, found, same]

theorem Unmoved.follows (unmoved : Unmoved id s t) (follows : s.view.Follows id r) : t.view.Follows id r := by
  have side : t.view.rxSide id = s.view.rxSide id := by
    rw [t.view_rxSide, s.view_rxSide, unmoved.side]
  cases follows with
  | unseen absent free => exact .unseen (side.trans absent) (unmoved.book ▸ free)
  | held old now represents => exact .held old (side.trans now) represents
  | gone absent taken settled => exact .gone (side.trans absent) (unmoved.book ▸ taken) settled

theorem ngtcp2ConnExtendMaxStreamOffset_unmoved (n : Nat) (s : Conn) :
    Goes (Unmoved id) (fun _ => Unmoved id) (ngtcp2ConnExtendMaxStreamOffset id n) s := by
  have getStrm_unmoved (s : Conn) : Goes (Unmoved id) (fun _ => Unmoved id) (getStrm id) s :=
    wp_intro (fun _ _ run => (getStrm_ok run).1 ▸ ⟨rfl, rfl, rfl⟩)
      fun _ _ run => getStrm_error_same run ▸ ⟨rfl, rfl, rfl⟩
  have mark_unmoved (s : Conn) : Goes (Unmoved id) (fun _ => Unmoved id) (markExtendStream0 id) s := by
    unfold markExtendStream0
    split
    · exact .modified ⟨rfl, rfl, deliveries_plain rfl⟩
    · exact .done _
  have extended (s : Conn) : Goes (Unmoved id) (fun _ => Unmoved id) (connExtendMaxStreamOffset id n) s := by
    refine .seq (mark_unmoved s) fun _ t _ => .seq (modifyStrm_unmoved (fun strm => ?_) t)
      fun _ u _ => .got (.seq (getStrm_unmoved u) fun _ w _ => ?_)
    · split <;> rfl
    · split
      · exact .seq (.modified ⟨rfl, rfl, rfl⟩) fun _ x _ => modifyStrm_unmoved (by exact fun _ => rfl) x
      · exact .done _
  unfold ngtcp2ConnExtendMaxStreamOffset
  refine .got ?_
  split
  · exact .failed _
  · exact extended s

theorem Step.frame {fr : Frame} {Q : Conn → Prop} {E : Err → Conn → Prop} (step : Step s act t)
    (called : act.call = .frame fr) (spec : wp (recvFrame act.app fr) (fun _ => Q) E s) :
    (∃ n, act.result = .ok n ∧ Q t) ∨ ∃ e, act.result = .error e ∧ e.fatal = false ∧ E e t := by
  have run := step.exec
  have whole : wp (act.call.exec act.app) (fun _ => Q) E s := by
    rw [called]
    change wp (returns0 (recvFrame act.app fr)) _ _ s
    unfold returns0
    rwa [wp_bind]
  cases result : act.result with
  | ok n =>
    rw [result] at run
    exact .inl ⟨n, rfl, wp_ok whole run⟩
  | error e =>
    rw [result] at run
    exact .inr ⟨e, rfl, step.alive e result, wp_error whole run⟩

theorem Step.extends_unmoved {n : UInt64} (step : Step s act t) (called : act.call = .extendMaxStreamOffset id n) :
    Unmoved id s t := by
  have goes : Goes (Unmoved id) (fun _ => Unmoved id) (act.call.exec act.app) s := by
    rw [called]
    exact .seq (ngtcp2ConnExtendMaxStreamOffset_unmoved n.toNat s) fun _ _ _ => .done _
  have run := step.exec
  cases result : act.result with
  | ok m => exact goes.reached (result ▸ run)
  | error e => exact goes.stopped (result ▸ run)

inductive Streamed (s t : Conn) (act : Act) (fr : StreamFrame) (r : Receiver) : Prop
  | invalid (e : Err) (failed : act.result = .error e) (bad : recvStreamError s fr = some e) (same : t = s)
  | ignored (taken : ∃ n, act.result = .ok n) (valid : recvStreamError s fr = none) (same : t = s)
    (gone : s.view.Gone fr.streamId) (settled : r.settled = true)
  | flow (failed : act.result = .error .FLOW_CONTROL) (valid : recvStreamError s fr = none)
    (outcome : Outcome s t fr r r .flow s.rxOffset)
  | final (failed : act.result = .error .FINAL_OFFSET) (valid : recvStreamError s fr = none)
    (outcome : Outcome s t fr r r .final (s.counted r fr).rxOffset)
  | accepted (taken : ∃ n, act.result = .ok n) (valid : recvStreamError s fr = none)
    (outcome : Outcome s t fr r (r.take fr) .accepted (s.counted r fr).rxOffset)

structure Conn.Tracks (c : Conn) (id : Nat) (r : Receiver) : Prop where
  role : c.Role
  ids : c.view.Ids
  receives : c.view.Receives id
  follows : c.view.Follows id r
  told : Reports (deliveries id c.log) r

namespace Conn.Tracks

theorem next {r' : Receiver} (tracks : s.Tracks id r) (step : Step s act t) (follows : t.view.Follows id r')
    (told : Reports (deliveries id t.log) r') : t.Tracks id r' := by
  have reaches := step.reaches_scope tracks.role
  have kept : t.view.Ids ∧ t.view.Receives id :=
    reaches.invariant (C := fun _ => True) (P := fun v => v.Ids ∧ v.Receives id) (fun _ _ => trivial)
      (fun v w move _ holds => ⟨move.ids holds.1, move.receives holds.2⟩) trivial ⟨tracks.ids, tracks.receives⟩
  exact ⟨step.role tracks.role, kept.1, kept.2, follows, told⟩

theorem apart (tracks : s.Tracks id r) (step : Step s act t) (plain : id ≠ 0) (apart : ¬ act.call.Touches id) :
    t.Tracks id r := by
  obtain ⟨follows, told⟩ := step.follows tracks.role tracks.ids plain apart tracks.receives tracks.follows
  exact tracks.next step follows (told ▸ tracks.told)

theorem extend {n : UInt64} (tracks : s.Tracks id r) (step : Step s act t)
    (called : act.call = .extendMaxStreamOffset id n) : t.Tracks id r := by
  have unmoved := step.extends_unmoved called
  exact tracks.next step (unmoved.follows tracks.follows) (unmoved.told ▸ tracks.told)

theorem streamed {fr : StreamFrame} (tracks : s.Tracks id r) (step : Step s act t) (plain : id ≠ 0)
    (called : act.call = .frame (.stream fr)) (named : fr.streamId = id) : Streamed s t act fr r := by
  subst named
  have wire : fr.WireOk := by
    have wire := step.wire
    rwa [called] at wire
  have spec := connRecvStream_spec act.app tracks.ids plain wire tracks.follows
  rcases step.frame called spec with ⟨m, ok, valid, done⟩ | ⟨e, failed, alive, err⟩
  · rcases done with ⟨same, gone, settled⟩ | outcome
    · exact .ignored ⟨m, ok⟩ valid same gone settled
    · exact .accepted ⟨m, ok⟩ valid outcome
  · rcases err with outside | ⟨bad, same⟩ | ⟨valid, ⟨rfl, outcome⟩ | ⟨rfl, outcome⟩⟩
    · simp [Err.outside_fatal outside] at alive
    · exact .invalid e failed bad same
    · exact .flow failed valid outcome
    · exact .final failed valid outcome

theorem stream {fr : StreamFrame} {n : Nat} (tracks : s.Tracks id r) (step : Step s act t) (plain : id ≠ 0)
    (called : act.call = .frame (.stream fr)) (named : fr.streamId = id) (taken : act.result = .ok n) :
    t = s ∧ s.view.Gone id ∧ r.settled = true ∨
      t.Tracks id (r.take fr) ∧ Outcome s t fr r (r.take fr) .accepted (s.counted r fr).rxOffset := by
  cases tracks.streamed step plain called named with
  | ignored _ _ same gone settled => exact .inl ⟨same, named ▸ gone, settled⟩
  | accepted _ _ outcome =>
    refine .inr ⟨?_, outcome⟩
    rw [← named] at tracks ⊢
    exact tracks.next step outcome.advance.follows (outcome.advance.told tracks.told)
  | invalid e failed => cases taken.symm.trans failed
  | flow failed => cases taken.symm.trans failed
  | final failed => cases taken.symm.trans failed

theorem reset {fr : RstStream} {n : Nat} (tracks : s.Tracks id r) (step : Step s act t) (plain : id ≠ 0)
    (called : act.call = .frame (.rstStream fr)) (named : fr.streamId = id) (taken : act.result = .ok n) :
    t = s ∧ s.view.Gone id ∧ r.settled = true ∨ t.Tracks id r.resetBy ∧ ResetOutcome s t fr r := by
  subst named
  have wire : (Frame.rstStream fr).WireOk := by
    have wire := step.wire
    rwa [called] at wire
  have spec := connRecvRstStream_spec act.app tracks.ids plain wire tracks.receives tracks.follows
  rcases step.frame called spec with ⟨m, -, done⟩ | ⟨e, failed, -⟩
  · refine done.imp id fun outcome => ⟨?_, outcome⟩
    exact tracks.next step outcome.advance.follows (outcome.advance.told tracks.told)
  · cases taken.symm.trans failed

end Conn.Tracks

end Steps

end Ngtcp2
