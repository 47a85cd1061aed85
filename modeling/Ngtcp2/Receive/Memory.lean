import Ngtcp2.Invariant.RxFlow
import Ngtcp2.Receive.Follow
import Ngtcp2.Receive.Zero

/-!
# The memory of the reorder buffers

Between two frames a buffer holds only chunks that reach beyond its first gap and begin before the last offset
received.
-/

namespace Ngtcp2

open Range Prog

def RxSide.Fed (side : RxSide) : Prop :=
  ∃ a : Assembly UInt8, side.rob.Keeps a ∧ ∀ o, side.lastRxOffset ≤ o → a.cell o = none

def View.Fed (v : View) (id : Nat) : Prop := ∀ side, v.rxSide id = some side → side.Fed

theorem RxSide.fed_new (shutRd : Bool) : (RxSide.new shutRd).Fed := ⟨.empty, ngtcp2RobInit_keeps, fun _ _ => rfl⟩

def RxSide.Drained (side : RxSide) : Prop :=
  ∃ n, n ≤ side.lastRxOffset ∧ n ≤ 2 * varintBound ∧
    side.rob = { gap := [{ begin := n, stop := uint64Max }], data := [], chunk := robChunk }

def Conn.Drained (c : Conn) : Prop := ∀ id strm, c.strms id = some strm → strm.rxSide.Drained

theorem RxSide.Drained.fed {side : RxSide} (drained : side.Drained) : side.Fed := by
  obtain ⟨n, last, bound, rob⟩ := drained
  let a : Assembly UInt8 := ⟨fun o => if o < n then some 0 else none, n, fun o beyond => if_neg (by omega)⟩
  have cell (o : Nat) : (a.cell o).isSome = true ↔ o < n := by simp [a]
  have front : a.front = n := Assembly.front_eq (by simp [a]) fun o below => (cell o).mpr below
  refine ⟨a, ⟨?_, by rw [rob]⟩, fun o beyond => by simp [a]; omega⟩
  rw [rob, front]
  have top : 2 * varintBound < uint64Max := by decide
  refine ⟨(by decide : 0 < robChunk), ?_, fun o => ?_, fun o got => ?_, bound, trivial, by simp, by simp,
    fun o from_ got => ?_⟩
  · simp [Ordered]
    omega
  · simp [cell, Has]
    omega
  · have below := (cell o).mp got
    omega
  · have below := (cell o).mp got
    omega

theorem View.Follows.fed {v : View} {id : Nat} {r : Receiver} (follows : v.Follows id r) : v.Fed id := by
  intro side found
  cases follows with
  | unseen absent => cases absent.symm.trans found
  | held side' now represents =>
    obtain rfl := Option.some.inj (now.symm.trans found)
    refine ⟨r.data, represents.keeps, ?_⟩
    rw [represents.last]
    exact r.within
  | gone absent => cases absent.symm.trans found

def RxSide.receiver (side : RxSide) (a : Assembly UInt8) (within : ∀ o, side.lastRxOffset ≤ o → a.cell o = none) :
    Receiver where
  data := a
  last := side.lastRxOffset
  shut := side.shutRd
  reset := side.recvRst
  stopped := side.stopSending
  done := false
  within := within
  ended done := by cases done

section Steps

variable {sc : Scope} {v w : View} {s t : Conn} {act : Act} {id : Nat}

theorem Move.fed (move : Move sc v w) (ids : v.Ids) (quiet : ¬ sc.rx id) (fed : v.Fed id) : w.Fed id := by
  intro side found
  cases move.rxEffect ids id with
  | kept same => exact fed side (same ▸ found)
  | opened _ _ shutRd _ now =>
    obtain rfl := Option.some.inj (now.symm.trans found)
    exact RxSide.fed_new shutRd
  | closed _ _ _ gone => cases gone.symm.trans found
  | restarted _ now =>
    obtain rfl := Option.some.inj (now.symm.trans found)
    exact RxSide.fed_new false
  | stopped _ _ side' held now =>
    obtain rfl := Option.some.inj (now.symm.trans found)
    exact fed side' held
  | filled allowed => exact absurd allowed quiet
  | reached allowed => exact absurd allowed quiet

theorem Step.fed_apart (step : Step s act t) (role : s.Role) (ids : s.view.Ids) (quiet : ¬ act.call.rx id)
    (fed : s.view.Fed id) : t.view.Fed id := by
  have kept : t.view.Ids ∧ t.view.Fed id :=
    (step.reaches_scope role).invariant (C := fun _ => True) (P := fun v => v.Ids ∧ v.Fed id) (fun _ _ => trivial)
      (fun v w move _ holds => ⟨move.ids holds.1, move.fed holds.1 quiet holds.2⟩) trivial ⟨ids, fed⟩
  exact kept.2

theorem Step.fed_gone (step : Step s act t) (role : s.Role) (ids : s.view.Ids) (plain : id ≠ 0)
    (gone : s.view.Gone id) : t.view.Fed id := by
  have kept : t.view.Ids ∧ t.view.Gone id :=
    (step.reaches_scope role).invariant (C := fun _ => True) (P := fun v => v.Ids ∧ v.Gone id) (fun _ _ => trivial)
      (fun v w move _ holds => ⟨move.ids holds.1, move.gone holds.1 plain holds.2⟩) trivial ⟨ids, gone⟩
  intro side found
  cases kept.2.1.symm.trans found

theorem Step.fed_stream {fr : StreamFrame} {n : Nat} (step : Step s act t) (role : s.Role) (ids : s.view.Ids)
    (plain : fr.streamId ≠ 0) (called : act.call = .frame (.stream fr)) (taken : act.result = .ok n)
    (fed : s.view.Fed fr.streamId) : t.view.Fed fr.streamId := by
  have wire : fr.WireOk := by
    have wire := step.wire
    rwa [called] at wire
  have follow {r : Receiver} (follows : s.view.Follows fr.streamId r) : t.view.Fed fr.streamId := by
    rcases step.frame called (connRecvStream_spec act.app ids plain wire follows) with ⟨m, -, -, done⟩ | ⟨e, failed, -⟩
    · rcases done with ⟨rfl, -⟩ | outcome
      · exact fed
      · exact outcome.advance.follows.fed
    · cases taken.symm.trans failed
  cases now : s.view.rxSide fr.streamId with
  | none =>
    by_cases used : s.view.book.Taken fr.streamId
    · exact step.fed_gone role ids plain ⟨now, used⟩
    · exact follow (.unseen now used)
  | some side =>
    obtain ⟨a, keeps, within⟩ := fed side now
    exact follow (.held (r := side.receiver a within) side now ⟨keeps, rfl, rfl, rfl, rfl⟩)

theorem Step.fed_zero {fr : StreamFrame} {n : Nat} {side : RxSide} (step : Step s act t) (zero : fr.streamId = 0)
    (held : s.rxSide 0 = some side) (ok : side.ZeroOk) (called : act.call = .frame (.stream fr))
    (taken : act.result = .ok n) (fed : s.view.Fed 0) : t.view.Fed 0 := by
  have wire : fr.WireOk := by
    have wire := step.wire
    rwa [called] at wire
  rcases step.frame called (connRecvStream_zero act.app zero held ok) with ⟨m, -, took⟩ | ⟨e, failed, -⟩
  · obtain ⟨chunks, side', accepted, now, -⟩ := took
    obtain ⟨a, keeps, within⟩ := fed side (s.view_rxSide 0 ▸ held)
    obtain ⟨chunks', rob, accepted', keeps', -⟩ := side.accept_keeps fr keeps (Nat.le_of_lt wire.endOffset)
    obtain ⟨-, rfl⟩ : chunks' = chunks ∧ _ = side' := by simpa using accepted'.symm.trans accepted
    intro side'' found
    rw [t.view_rxSide, now] at found
    obtain rfl := Option.some.inj found
    refine ⟨_, keeps', fun o beyond => Assembly.put_cell_none.mpr ?_⟩
    dsimp only at beyond
    refine ⟨within o (by omega), ?_⟩
    unfold StreamFrame.endOffset StreamFrame.datalen at beyond
    omega
  · cases taken.symm.trans failed

theorem connRecvRstStream_fed (app : App) {fr : RstStream} (ids : s.view.Ids) (fed : s.view.Fed fr.streamId) :
    wp (connRecvRstStream app fr) (fun _ t => t.view.Fed fr.streamId) (fun _ _ => True) s := by
  unfold connRecvRstStream
  rw [wp_bind, wp_get]
  split
  · trivial
  split
  · trivial
  split
  next absent =>
    unfold connRecvRstStreamGone
    rw [wp_bind, wp_get]
    split
    · split
      · trivial
      · exact fed
    · cases ngtcp2IdtrIsOpen (connIdtr s fr.streamId) fr.streamId with
      | error e => trivial
      | ok opened =>
        rw [wp_bind, wp_ofExcept_ok]
        split
        · exact fed
        split
        · trivial
        · change View.Fed (Conn.view { (s.emit (.mark (.claim _ fr.finalOffset))).setIdtr fr.streamId _ with rxOffset := _ }) _
          intro side found
          simp [View.rxSide, Conn.view, Conn.setIdtr, Conn.emit, absent] at found
  next strm found =>
    have held : s.view.rxSide fr.streamId = some strm.rxSide := (s.view_rxSide _).trans (Conn.rxSide_of found)
    obtain ⟨a, keeps, within⟩ := fed strm.rxSide held
    have opens := Opens.refl (r := strm.rxSide.receiver a within) ids found ⟨keeps, rfl, rfl, rfl, rfl⟩
    refine wp_mono (connRecvRstStreamOn_spec app opens.holds) (fun _ t done => ?_) fun _ _ _ => trivial
    exact (opens.advance done.2).follows.fed

theorem Step.fed_reset {fr : RstStream} {n : Nat} (step : Step s act t) (ids : s.view.Ids)
    (called : act.call = .frame (.rstStream fr)) (taken : act.result = .ok n) (fed : s.view.Fed fr.streamId) :
    t.view.Fed fr.streamId := by
  rcases step.frame called (connRecvRstStream_fed act.app ids fed) with ⟨m, -, done⟩ | ⟨e, failed, -⟩
  · exact done
  · cases taken.symm.trans failed

theorem Step.fed_extend {n : UInt64} (step : Step s act t) (called : act.call = .extendMaxStreamOffset id n)
    (fed : s.view.Fed id) : t.view.Fed id := by
  intro side found
  rw [t.view_rxSide, (step.extends_unmoved called).side, ← s.view_rxSide] at found
  exact fed side found

end Steps

inductive Act.Feeds (act : Act) : Prop
  | frame (fr : Frame) (n : Nat) (called : act.call = .frame fr) (taken : act.result = .ok n)
  | extend (id : Nat) (n : UInt64) (called : act.call = .extendMaxStreamOffset id n)
  | other (apart : ∀ id, ¬ act.call.rx id)

theorem Step.fed {before : List Act} {s t : Conn} {act : Act} (reached : Runs before s) (step : Step s act t)
    (feeds : act.Feeds) (id : Nat) (fed : s.view.Fed id) : t.view.Fed id := by
  by_cases rx : act.call.rx id
  case neg => exact step.fed_apart reached.role reached.ids rx fed
  cases feeds with
  | frame fr n called taken =>
    rw [called] at rx
    cases fr with
    | stream fr =>
      obtain rfl : id = fr.streamId := rx
      by_cases zero : fr.streamId = 0
      · obtain ⟨side, held, ok⟩ := reached.zeroOk
        rw [zero] at fed ⊢
        exact step.fed_zero zero held ok called taken fed
      · exact step.fed_stream reached.role reached.ids zero called taken fed
    | rstStream fr =>
      obtain rfl : id = fr.streamId := rx
      exact step.fed_reset reached.ids called taken fed
    | _ => exact rx.elim
  | extend id' n called =>
    rw [called] at rx
    obtain rfl : id = id' := rx
    exact step.fed_extend called fed
  | other quiet => exact absurd rx (quiet id)

theorem Runs.fed {before acts : List Act} {s c : Conn} (reached : Runs before s) (drained : s.Drained)
    (run : Run Step (fun c => c = s) acts c) (feeds : ∀ act ∈ acts, act.Feeds) :
    Runs (before ++ acts) c ∧ ∀ id, c.view.Fed id := by
  induction run with
  | start same =>
    subst same
    refine ⟨by rwa [List.append_nil], fun id side found => ?_⟩
    obtain ⟨strm, held, rfl⟩ := Option.map_eq_some_iff.mp ((Conn.view_rxSide _ id).symm.trans found)
    exact (drained id strm held).fed
  | @next acts s t act _ step ih =>
    obtain ⟨reached, fed⟩ := ih fun act member => feeds act (List.mem_append_left _ member)
    refine ⟨by simpa using reached.next step, fun id => ?_⟩
    exact step.fed reached (feeds act (by simp)) id (fed id)

theorem Chunked.length_le {chunk lo hi : Nat} {ds : List RobData} (chunked : Chunked chunk lo ds)
    (below : ∀ d ∈ ds, d.offset < hi) : ds = [] ∨ lo + (ds.length - 1) * chunk < hi := by
  induction ds generalizing lo with
  | nil => exact .inl rfl
  | cons d rest ih =>
    right
    have first := below d List.mem_cons_self
    have start := chunked.1
    rcases ih chunked.2.2 fun e member => below e (List.mem_cons_of_mem _ member) with rfl | later
    · simp
      omega
    · cases rest with
      | nil =>
        simp
        omega
      | cons e rest =>
        simp only [List.length_cons, Nat.add_sub_cancel, Nat.succ_mul] at later ⊢
        omega

theorem RxSide.Fed.bounded {side : RxSide} (fed : side.Fed) :
    side.rob.data.length ≤ (side.lastRxOffset - ngtcp2RobFirstGapOffset side.rob) / 8192 + 2 ∧
      side.rob.gap.length ≤ (side.lastRxOffset - ngtcp2RobFirstGapOffset side.rob) / 2 + 1 := by
  obtain ⟨a, keeps, within⟩ := fed
  have front : a.front ≤ side.lastRxOffset := Assembly.front_le (within _ (Nat.le_refl _))
  have size : side.rob.chunk = 8192 := keeps.size
  rw [keeps.firstGap]
  constructor
  · have used (d : RobData) (member : d ∈ side.rob.data) : d.offset < side.lastRxOffset := by
      obtain ⟨o, has, above⟩ := keeps.used d member
      by_contra beyond
      simp [within o (by omega)] at has
    have chunked := keeps.chunked
    have live := keeps.live
    cases chunks : side.rob.data with
    | nil => simp
    | cons d rest =>
      rw [chunks] at used chunked live
      have here := live d List.mem_cons_self
      have own : Chunked side.rob.chunk d.offset (d :: rest) := ⟨Nat.le_refl _, chunked.2⟩
      rcases own.length_le used with none | total
      · cases none
      · rw [size] at total here
        simp only [List.length_cons] at total ⊢
        omega
  · have below (g : Range) (member : g ∈ side.rob.gap) : g.begin ≤ side.lastRxOffset := by
      by_contra beyond
      have top := ((keeps.gaps _).mp ⟨g, member, Nat.le_refl _, (keeps.ordered.bounds member).2⟩).2.1
      refine keeps.ordered.before_begin member (by omega) ((keeps.gaps _).mpr ⟨by omega, by omega, ?_⟩)
      simp [within (g.begin - 1) (by omega)]
    rcases keeps.ordered.length_le below with none | total
    · simp [none]
    · omega

/-- As long as the frames of a stream are taken, its reorder buffer holds no more chunks and gaps than the
offsets between the first gap and the last offset received call for. -/
theorem reorder_memory_bounded {before acts : List Act} {s c : Conn} (reached : Runs before s) (drained : s.Drained)
    (run : Run Step (fun c => c = s) acts c) (feeds : ∀ act ∈ acts, act.Feeds) {id : Nat} {strm : Strm}
    (found : c.strms id = some strm) :
    strm.rob.data.length ≤ (strm.lastRxOffset - ngtcp2StrmRxOffset strm) / 8192 + 2 ∧
      strm.rob.gap.length ≤ (strm.lastRxOffset - ngtcp2StrmRxOffset strm) / 2 + 1 ∧
      ((∀ act ∈ before ++ acts, ¬ act.call.wraps) → Marked Mark.Accepted c.log →
        strm.lastRxOffset ≤ strm.maxRxOffset) := by
  have side : c.view.rxSide id = some strm.rxSide := (c.view_rxSide id).trans (Conn.rxSide_of found)
  obtain ⟨whole, fed⟩ := reached.fed drained run feeds
  obtain ⟨chunks, gaps⟩ := (fed id strm.rxSide side).bounded
  refine ⟨chunks, gaps, fun exact_ accepted => ?_⟩
  have ok := (whole.rxOk exact_ fun m member => accepted m ((Conn.mem_log rfl).mp member)).2
  exact (ok.strms.conn found).window

theorem Started.drained {c : Conn} (first : Started c) : c.Drained := by
  have each := first.each (P := fun _ strm => strm.rxSide = .new false) fun _ => rfl
  intro id strm found
  rw [show strm.rxSide = _ from each.conn found]
  exact ⟨0, Nat.le_refl _, Nat.zero_le _, rfl⟩

-- the bytes from 2 to 5 of stream 4 wait in one chunk for those before them
theorem reorder_memory_bounded_claimedCalls :
    ∃ strm, ((ngtcp2ConnServerNew 1 1 .plain true).play claimedCalls).strms 4 = some strm ∧
      strm.rob.data.length = 1 ∧ strm.rob.gap.length = 2 ∧ strm.lastRxOffset = 5 ∧
      strm.rob.gap.length ≤ (strm.lastRxOffset - ngtcp2StrmRxOffset strm) / 2 + 1 := by
  have first := Started.server 1 1 .plain true
  have run := Conn.played (ngtcp2ConnServerNew 1 1 .plain true) claimedCalls (by decide)
  have found : ((ngtcp2ConnServerNew 1 1 .plain true).play claimedCalls).strms 4 = some _ := rfl
  refine ⟨_, found, by decide, by decide, by decide, ?_⟩
  refine (reorder_memory_bounded (.start first) first.drained run (fun act member => ?_) found).2.1
  simp only [claimedCalls, Conn.acts, List.mem_cons, List.not_mem_nil, or_false] at member
  rcases member with rfl | rfl <;> exact .frame _ 0 rfl rfl

end Ngtcp2
