import Ngtcp2.Machine.Ack
import Ngtcp2.Recovery.AckRanges

/-!
# What an ACK frame reports

`conn_create_ack_frame` closes a block at every gap and forgets the packets behind the last block.
-/

namespace Ngtcp2

open Prog

def AcktrEntry.reported (unprotected : Bool) (ent : AcktrEntry) : Bool := !(unprotected && !ent.unprotected)

def reportedNums (unprotected : Bool) (ents : List AcktrEntry) : List Nat :=
  (ents.filter fun ent => ent.reported unprotected).map AcktrEntry.pktNum

theorem reportedNums_cons (unprotected : Bool) (ent : AcktrEntry) (rest : List AcktrEntry) :
    reportedNums unprotected (ent :: rest) = if ent.reported unprotected then ent.pktNum :: reportedNums unprotected rest
      else reportedNums unprotected rest := by
  unfold reportedNums
  rw [List.filter_cons]
  split <;> rfl

def AckScan.closed (largestAck : Nat) (scan : AckScan) : Ack :=
  { largestAck := largestAck, ackDelay := 0, firstAckBlklen := scan.firstAckBlklen, blks := scan.blks }

structure AckScan.Exact (scan : AckScan) (largestAck : Nat) (seen : Nat → Prop) : Prop where
  run : scan.lastPktNum ≤ scan.firstPktNum
  bound : scan.firstPktNum ≤ largestAck
  first : scan.initial = true → scan.firstPktNum = largestAck ∧ scan.blks = []
  joined : scan.initial = false →
    blkFloor ((largestAck : Int) - scan.firstAckBlklen) scan.blks = scan.firstPktNum + scan.gap + 2
  seen_iff : ∀ n, seen n ↔ (scan.lastPktNum ≤ n ∧ n ≤ scan.firstPktNum) ∨
    scan.initial = false ∧ (scan.closed largestAck).Denotes n

namespace AckScan

theorem start_exact (largestAck : Nat) : (start largestAck).Exact largestAck (· = largestAck) where
  run := Nat.le_refl _
  bound := Nat.le_refl _
  first _ := ⟨rfl, rfl⟩
  joined := by simp [start]
  seen_iff n := by
    simp only [start]
    constructor
    · rintro rfl
      exact .inl ⟨Nat.le_refl _, Nat.le_refl _⟩
    · rintro (inside | ⟨closed, -⟩)
      · omega
      · cases closed

variable {scan : AckScan} {largestAck : Nat} {seen seen' : Nat → Prop}

theorem Exact.congr (exact : scan.Exact largestAck seen) (same : ∀ n, seen n ↔ seen' n) :
    scan.Exact largestAck seen' :=
  { exact with seen_iff := fun n => (same n).symm.trans (exact.seen_iff n) }

theorem endRun_of_initial (initial : scan.initial = true) :
    scan.endRun = { scan with initial := false, firstAckBlklen := sub64 scan.firstPktNum scan.lastPktNum } := by
  simp [endRun, initial]

theorem endRun_of_closed (closed : scan.initial = false) :
    scan.endRun = { scan with blks := scan.blks ++ [⟨scan.gap, sub64 scan.firstPktNum scan.lastPktNum⟩] } := by
  simp [endRun, closed]

theorem Exact.endRun (exact : scan.Exact largestAck seen) (top : largestAck < 18446744073709551616) :
    scan.endRun.initial = false ∧ scan.endRun.lastPktNum = scan.lastPktNum ∧
    blkFloor ((largestAck : Int) - scan.endRun.firstAckBlklen) scan.endRun.blks = scan.lastPktNum ∧
    ∀ n, (scan.endRun.closed largestAck).Denotes n ↔ seen n := by
  have run := exact.run
  have bound := exact.bound
  have length : sub64 scan.firstPktNum scan.lastPktNum = scan.firstPktNum - scan.lastPktNum :=
    sub64_eq run (by omega)
  cases initial : scan.initial with
  | true =>
    obtain ⟨first, empty⟩ := exact.first initial
    have floor : (largestAck : Int) - ((scan.firstPktNum - scan.lastPktNum : Nat) : Int) = scan.lastPktNum := by omega
    rw [endRun_of_initial initial, length]
    refine ⟨rfl, rfl, ?_, fun n => ?_⟩
    · simp only [empty, blkFloor, floor]
    · rw [exact.seen_iff, initial]
      simp only [AckScan.closed, Ack.Denotes, Ack.ranges, empty, blkRanges, floor, List.mem_singleton, exists_eq_left,
        Bool.true_eq_false, false_and, or_false]
      omega
  | false =>
    have joined := exact.joined initial
    have floor : blkFloor ((largestAck : Int) - scan.firstAckBlklen) scan.blks - scan.gap - 2 = scan.firstPktNum := by
      omega
    rw [endRun_of_closed initial, length]
    refine ⟨initial, rfl, ?_, fun n => ?_⟩
    · simp only [blkFloor_concat]
      omega
    · rw [exact.seen_iff]
      simp only [AckScan.closed, Ack.Denotes, Ack.ranges, blkRanges_concat, floor, initial, true_and]
      constructor
      · rintro ⟨r, member, inside⟩
        rw [← List.cons_append, List.mem_append, List.mem_singleton] at member
        rcases member with member | rfl
        · exact .inr ⟨r, member, inside⟩
        · refine .inl ?_
          dsimp only at inside
          omega
      · rintro (inside | ⟨r, member, inside⟩)
        · refine ⟨_, List.mem_cons_of_mem _ (List.mem_append_right _ (List.mem_singleton_self _)), ?_⟩
          dsimp only
          omega
        · exact ⟨r, by rw [← List.cons_append]; exact List.mem_append_left _ member, inside⟩

theorem Exact.extend (exact : scan.Exact largestAck seen) {n : Nat} (next : n + 1 = scan.lastPktNum) :
    Exact { scan with lastPktNum := n } largestAck fun m => seen m ∨ m = n where
  run := by
    have run := exact.run
    dsimp only
    omega
  bound := exact.bound
  first := exact.first
  joined := exact.joined
  seen_iff m := by
    have run := exact.run
    rw [exact.seen_iff]
    change _ ↔ (n ≤ m ∧ m ≤ scan.firstPktNum) ∨ scan.initial = false ∧ (scan.closed largestAck).Denotes m
    by_cases closed : scan.initial = false ∧ (scan.closed largestAck).Denotes m
    · simp [closed]
    · simp only [closed, or_false]
      omega

def skip (scan : AckScan) (n : Nat) : AckScan :=
  { scan.endRun with gap := sub64 scan.endRun.lastPktNum (add64 n 2), firstPktNum := n, lastPktNum := n }

theorem Exact.skip (exact : scan.Exact largestAck seen) (top : largestAck < 18446744073709551616) {n : Nat}
    (gap : n + 2 ≤ scan.lastPktNum) : (scan.skip n).Exact largestAck fun m => seen m ∨ m = n := by
  have run := exact.run
  have bound := exact.bound
  obtain ⟨closed, last, floor, denotes⟩ := exact.endRun top
  have width : sub64 scan.endRun.lastPktNum (add64 n 2) = scan.lastPktNum - (n + 2) := by
    rw [last, add64_eq (by omega), sub64_eq gap (by omega)]
  refine ⟨Nat.le_refl n, by dsimp only [AckScan.skip]; omega, fun initial => ?_, fun _ => ?_, fun m => ?_⟩
  · simp [AckScan.skip, closed] at initial
  · simp only [AckScan.skip, width]
    omega
  · have same : ((scan.skip n).closed largestAck).Denotes m ↔ seen m := denotes m
    rw [same]
    simp only [AckScan.skip, closed, true_and]
    rw [or_comm]
    exact or_congr_left (by omega)

end AckScan

def ackScanSubs (unprotected : Bool) : List AcktrEntry → AckScan → List (Nat × Nat)
  | [], scan => [(scan.firstPktNum, scan.lastPktNum)]
  | e :: rest, scan =>
    if unprotected && !e.unprotected then ackScanSubs unprotected rest scan
    else if add64 e.pktNum 1 = scan.lastPktNum then
      ackScanSubs unprotected rest { scan with lastPktNum := e.pktNum }
    else
      (scan.firstPktNum, scan.lastPktNum) :: (scan.lastPktNum, e.pktNum) :: (sub64 scan.lastPktNum e.pktNum, 2) ::
        if (scan.skip e.pktNum).blks.length = maxAckBlks then [(e.pktNum, e.pktNum)]
        else ackScanSubs unprotected rest (scan.skip e.pktNum)

def newRuns : Nat → List Nat → Nat
  | _, [] => 0
  | last, n :: rest => (if n + 1 = last then 0 else 1) + newRuns n rest

def AckScan.closedRuns (scan : AckScan) : Nat := if scan.initial then 0 else scan.blks.length + 1

theorem AckScan.skip_closedRuns {scan : AckScan} (empty : scan.initial = true → scan.blks = []) (n : Nat) :
    (scan.skip n).closedRuns = scan.closedRuns + 1 ∧ (scan.skip n).closedRuns = (scan.skip n).blks.length + 1 := by
  cases initial : scan.initial with
  | true => simp [AckScan.skip, AckScan.endRun, AckScan.closedRuns, initial, empty initial]
  | false => simp [AckScan.skip, AckScan.endRun, AckScan.closedRuns, initial]

structure Scanned (unprotected : Bool) (ents : List AcktrEntry) (scan : AckScan) (largestAck : Nat)
    (seen : Nat → Prop) : Prop where
  reports : ∃ passed, passed ⊆ reportedNums unprotected ents ∧
    ((ackScan unprotected ents scan).2 = [] → passed = reportedNums unprotected ents) ∧
    (ackScan unprotected ents scan).1.Exact largestAck fun n => seen n ∨ n ∈ passed
  few : scan.closedRuns + newRuns scan.lastPktNum (reportedNums unprotected ents) ≤ maxAckBlks →
    (ackScan unprotected ents scan).2 = [] ∧ (ackScan unprotected ents scan).1.closedRuns =
      scan.closedRuns + newRuns scan.lastPktNum (reportedNums unprotected ents)
  many : maxAckBlks < scan.closedRuns + newRuns scan.lastPktNum (reportedNums unprotected ents) →
    (ackScan unprotected ents scan).1.closedRuns = maxAckBlks + 1
  noWrap : NoWrap (ackScanSubs unprotected ents scan)

theorem ackScan_scanned (unprotected : Bool) {ents : List AcktrEntry} {scan : AckScan} {largestAck : Nat}
    {seen : Nat → Prop} (exact : scan.Exact largestAck seen) (top : largestAck < 18446744073709551616)
    (falling : Falling AcktrEntry.pktNum ents) (below : ∀ e ∈ ents, e.pktNum < scan.lastPktNum)
    (room : scan.closedRuns ≤ maxAckBlks) : Scanned unprotected ents scan largestAck seen := by
  induction ents generalizing scan seen with
  | nil =>
    refine ⟨⟨[], by simp, fun _ => rfl, exact.congr (by simp)⟩, fun _ => ⟨rfl, rfl⟩, fun many => ?_, ?_⟩
    · change maxAckBlks < scan.closedRuns + 0 at many
      omega
    · simpa [ackScanSubs, NoWrap] using exact.run
  | cons e rest ih =>
    have lower := below e (by simp)
    have run := exact.run
    have bound := exact.bound
    have sum : add64 e.pktNum 1 = e.pktNum + 1 := add64_eq (by omega)
    cases shut : (unprotected && !e.unprotected) with
    | true =>
      have nums : reportedNums unprotected (e :: rest) = reportedNums unprotected rest := by
        rw [reportedNums_cons, if_neg (by simp [AcktrEntry.reported, shut])]
      have scanned := ih exact falling.tail (fun e member => below e (by simp [member])) room
      constructor <;> simp only [ackScan, ackScanSubs, shut, if_true, nums]
      · exact scanned.reports
      · exact scanned.few
      · exact scanned.many
      · exact scanned.noWrap
    | false =>
      have nums : reportedNums unprotected (e :: rest) = e.pktNum :: reportedNums unprotected rest := by
        rw [reportedNums_cons, if_pos (by simp [AcktrEntry.reported, shut])]
      by_cases next : e.pktNum + 1 = scan.lastPktNum
      · have scanned := ih (exact.extend next) falling.tail falling.head room
        constructor <;> simp only [ackScan, ackScanSubs, shut, sum, next, nums, newRuns, if_true, Bool.false_eq_true, if_false,
          Nat.zero_add]
        · obtain ⟨passed, fewer, whole, exact'⟩ := scanned.reports
          exact ⟨e.pktNum :: passed, by simpa using List.Subset.trans fewer (by simp), fun empty => by rw [whole empty],
            exact'.congr fun n => by simp [or_assoc]⟩
        · exact scanned.few
        · exact scanned.many
        · exact scanned.noWrap
      · obtain ⟨more, blks⟩ := AckScan.skip_closedRuns (fun initial => (exact.first initial).2) e.pktNum
        have skipped := exact.skip top (n := e.pktNum) (by omega)
        have gap : sub64 scan.lastPktNum e.pktNum = scan.lastPktNum - e.pktNum := sub64_eq (by omega) (by omega)
        have apart : ∀ subs, NoWrap subs → NoWrap ((scan.firstPktNum, scan.lastPktNum) :: (scan.lastPktNum, e.pktNum) ::
            (sub64 scan.lastPktNum e.pktNum, 2) :: subs) := by
          intro subs noWrap
          simp only [NoWrap, gap, List.forall_mem_cons]
          exact ⟨run, by omega, by omega, noWrap⟩
        have step : ackScan unprotected (e :: rest) scan =
            if (scan.skip e.pktNum).blks.length = maxAckBlks then (scan.skip e.pktNum, e :: rest)
            else ackScan unprotected rest (scan.skip e.pktNum) := by
          simp only [ackScan, shut, sum, next, Bool.false_eq_true, if_false]
          rfl
        by_cases full : (scan.skip e.pktNum).blks.length = maxAckBlks
        · rw [if_pos full] at step
          constructor <;> simp only [step, ackScanSubs, shut, sum, next, full, nums, newRuns, Bool.false_eq_true, if_true,
            if_false]
          · exact ⟨[e.pktNum], by simp, fun empty => by simp at empty, skipped.congr (by simp)⟩
          · omega
          · omega
          · exact apart _ (by simp [NoWrap])
        · rw [if_neg full] at step
          have scanned := ih skipped falling.tail falling.head (by omega)
          constructor <;> simp only [step, ackScanSubs, shut, sum, next, full, nums, newRuns, Bool.false_eq_true, if_false]
          · obtain ⟨passed, fewer, whole, exact'⟩ := scanned.reports
            exact ⟨e.pktNum :: passed, by simpa using List.Subset.trans fewer (by simp), fun empty => by rw [whole empty],
              exact'.congr fun n => by simp [or_assoc]⟩
          · intro few
            obtain ⟨left, runs⟩ := scanned.few (by change _ + newRuns e.pktNum _ ≤ _; omega)
            refine ⟨left, runs.trans ?_⟩
            change _ + newRuns e.pktNum _ = _
            omega
          · intro many
            exact scanned.many (by change _ < _ + newRuns e.pktNum _; omega)
          · exact apart _ scanned.noWrap

section Build

variable {app : App} {ts : Nat} {unprotected : Bool} {s t : Conn} {ack : Ack}

def Conn.ackSource (c : Conn) : Acktr × Settings := (c.acktr, c.localSettings)

theorem markUnprotectedAck_keeps (unprotected : Bool) (s : Conn) :
    Keeps Conn.ackSource (markUnprotectedAck unprotected) s := by
  refine .got ?_
  split
  · exact .run (connMark_run _ _) rfl
  · exact .pure _

theorem mallocs_keeps (memory : ∀ n, app.malloc n = true) (n : Nat) (s : Conn) :
    Keeps Conn.ackSource (mallocs app n) s := by
  induction n generalizing s with
  | zero => exact .pure _
  | succ n ih => exact .bind (.run (malloc_succeeds (memory _)) rfl) fun _ t _ => ih t

theorem connForgetAck_run (left : List AcktrEntry) (s : Conn) :
    ∃ t, connForgetAck left s = (.ok (), t) ∧
      t.acktr.ent = s.acktr.ent.take (s.acktr.ent.length - left.length) := by
  unfold connForgetAck
  split
  next empty => exact ⟨s, rfl, by simp [empty]⟩
  next => exact ⟨_, rfl, rfl⟩

structure Built (ts : Nat) (unprotected : Bool) (s : Conn) (ack : Ack) (t : Conn) (e : AcktrEntry)
    (rest : List AcktrEntry) : Prop where
  found : (s.acktr.ent.dropWhile fun e => unprotected && !e.unprotected) = e :: rest
  frame : ack = ackOfScan e.pktNum (sub64 ts e.tstamp / 2 ^ s.localSettings.ackDelayExponent)
    (ackScan unprotected rest (AckScan.start e.pktNum)).1
  kept : t.acktr.ent = s.acktr.ent.take
    (s.acktr.ent.length - (ackScan unprotected rest (AckScan.start e.pktNum)).2.length)

theorem connCollectAck_eq {e : AcktrEntry} {rest : List AcktrEntry}
    (found : (s.acktr.ent.dropWhile fun e => unprotected && !e.unprotected) = e :: rest) :
    connCollectAck app ts unprotected s = (do
      let ack := ackOfScan e.pktNum (sub64 ts e.tstamp / 2 ^ s.localSettings.ackDelayExponent)
        (ackScan unprotected rest (AckScan.start e.pktNum)).1
      mallocs app (1 + ackBlksReallocs ack.blks.length)
      connForgetAck (ackScan unprotected rest (AckScan.start e.pktNum)).2
      pure (some ack) : ConnM (Option Ack)) s := by
  unfold connCollectAck
  rw [Prog.get_bind, found]

theorem connCreateAckFrame_built (run : connCreateAckFrame app ts unprotected s = (.ok (some ack), t)) :
    ∃ e rest, Built ts unprotected s ack t e rest := by
  change (if !s.acktr.activeAck then _ else _ : ConnM (Option Ack)) s = _ at run
  split at run
  · cases run
  · obtain ⟨_, u, marked, same⟩ := markUnprotectedAck_keeps unprotected s
    obtain ⟨tracked, settings⟩ : u.acktr = s.acktr ∧ u.localSettings = s.localSettings := Prod.mk.inj same
    rw [bind_ok marked] at run
    cases found : u.acktr.ent.dropWhile fun e => unprotected && !e.unprotected with
    | nil =>
      unfold connCollectAck at run
      rw [Prog.get_bind, found] at run
      cases run
    | cons e rest =>
      rw [connCollectAck_eq found] at run
      obtain ⟨_, v, alloc, run⟩ := bind_eq_ok run
      obtain ⟨n, es, -, -, rfl⟩ := wp_ok (mallocs_plain app _ u) alloc
      obtain ⟨w, forgot, kept⟩ := connForgetAck_run (ackScan unprotected rest (AckScan.start e.pktNum)).2
        { u with nalloc := n, log := u.log ++ es }
      rw [bind_ok forgot] at run
      cases run
      exact ⟨e, rest, tracked ▸ found, by rw [settings], by rw [kept, ← tracked]⟩

theorem connCreateAckFrame_succeeds (app : App) (ts : Nat) (unprotected : Bool) (s : Conn) (memory : ∀ n, app.malloc n = true) (active : s.acktr.activeAck = true)
    (some_ : reportedNums unprotected s.acktr.ent ≠ []) :
    ∃ ack t, connCreateAckFrame app ts unprotected s = (.ok (some ack), t) := by
  obtain ⟨_, u, marked, same⟩ := markUnprotectedAck_keeps unprotected s
  obtain ⟨tracked, -⟩ : u.acktr = s.acktr ∧ u.localSettings = s.localSettings := Prod.mk.inj same
  change ∃ ack t, (if !s.acktr.activeAck then _ else _ : ConnM (Option Ack)) s = _
  rw [active, if_neg (by simp), bind_ok marked]
  cases found : u.acktr.ent.dropWhile fun e => unprotected && !e.unprotected with
  | nil =>
    rw [tracked, List.dropWhile_eq_nil_iff] at found
    refine absurd ?_ some_
    unfold reportedNums
    rw [List.map_eq_nil_iff, List.filter_eq_nil_iff]
    intro e member
    simp [AcktrEntry.reported, found e member]
  | cons e rest =>
    rw [connCollectAck_eq found]
    obtain ⟨_, v, alloc, -⟩ := mallocs_keeps memory _ u
    obtain ⟨w, forgot, -⟩ := connForgetAck_run (ackScan unprotected rest (AckScan.start e.pktNum)).2 v
    exact ⟨_, w, (bind_ok alloc).trans (bind_ok forgot)⟩

end Build

def ackRuns (nums : List Nat) : Nat := (nums.filter fun n => decide (n + 1 ∉ nums)).length

section Runs

variable {nums : List Nat} {last : Nat}

theorem newRuns_eq (falling : Falling id nums) (below : ∀ n ∈ nums, n < last) :
    newRuns last nums = (nums.filter fun n => decide (n + 1 ∉ last :: nums)).length := by
  induction nums generalizing last with
  | nil => rfl
  | cons n rest ih =>
    have lower : ∀ m ∈ rest, m < n := falling.head
    have first : n + 1 ∉ last :: n :: rest ↔ n + 1 ≠ last := by
      have others : n + 1 ∉ rest := fun member => by
        have less := lower (n + 1) member
        omega
      simp [others]
    have later : (rest.filter fun m => decide (m + 1 ∉ last :: n :: rest)) =
        rest.filter fun m => decide (m + 1 ∉ n :: rest) := by
      refine List.filter_congr fun m member => ?_
      have less : m < n := lower m member
      have top := below n (by simp)
      have other : m + 1 ≠ last := by omega
      simp [other]
    rw [newRuns, ih falling.tail lower, List.filter_cons, later]
    by_cases next : n + 1 = last
    · have joins : ¬ decide (n + 1 ∉ last :: n :: rest) = true := by
        rw [decide_eq_true_iff, first]
        exact not_not_intro next
      rw [if_pos next, if_neg joins, Nat.zero_add]
    · have starts : decide (n + 1 ∉ last :: n :: rest) = true := decide_eq_true (first.mpr next)
      rw [if_neg next, if_pos starts, List.length_cons, Nat.add_comm]

theorem ackRuns_cons (falling : Falling id (last :: nums)) : ackRuns (last :: nums) = newRuns last nums + 1 := by
  have lower : ∀ n ∈ nums, n < last := falling.head
  have top : last + 1 ∉ last :: nums := by
    have others : last + 1 ∉ nums := fun member => by
      have less := lower (last + 1) member
      omega
    simp [others]
  rw [newRuns_eq falling.tail lower, ackRuns, List.filter_cons, if_pos (by simpa using top), List.length_cons]

end Runs

def ackNumSubs (unprotected : Bool) (ents : List AcktrEntry) : List (Nat × Nat) :=
  match ents.dropWhile fun e => unprotected && !e.unprotected with
  | [] => []
  | e :: rest => ackScanSubs unprotected rest (AckScan.start e.pktNum)

def ackDelaySubs (ts : Nat) (unprotected : Bool) (ents : List AcktrEntry) : List (Nat × Nat) :=
  match ents.dropWhile fun e => unprotected && !e.unprotected with
  | [] => []
  | e :: _ => [(ts, e.tstamp)]

section Frame

variable {unprotected : Bool} {ents rest : List AcktrEntry} {e : AcktrEntry}

theorem reportedNums_found (found : (ents.dropWhile fun e => unprotected && !e.unprotected) = e :: rest) :
    reportedNums unprotected ents = e.pktNum :: reportedNums unprotected rest := by
  induction ents with
  | nil => simp at found
  | cons first later ih =>
    rw [List.dropWhile_cons] at found
    rw [reportedNums_cons]
    cases shut : (unprotected && !first.unprotected) with
    | true =>
      rw [if_pos shut] at found
      rw [if_neg (by simp [AcktrEntry.reported, shut]), ih found]
    | false =>
      rw [if_neg (by simp [shut])] at found
      cases found
      rw [if_pos (by simp [AcktrEntry.reported, shut])]

theorem reportedNums_falling (falling : Falling AcktrEntry.pktNum ents) : Falling id (reportedNums unprotected ents) :=
  List.pairwise_map.mpr (falling.filter _)

theorem ackScan_found (falling : Falling AcktrEntry.pktNum ents) (bound : ∀ e ∈ ents, e.pktNum < 18446744073709551616)
    (found : (ents.dropWhile fun e => unprotected && !e.unprotected) = e :: rest) :
    e.pktNum < 18446744073709551616 ∧
      Scanned unprotected rest (AckScan.start e.pktNum) e.pktNum (· = e.pktNum) := by
  have suffix : e :: rest <:+ ents := found ▸ List.dropWhile_suffix _
  have rests : Falling AcktrEntry.pktNum (e :: rest) := falling.sublist suffix.sublist
  have top := bound e (suffix.subset (by simp))
  exact ⟨top, ackScan_scanned unprotected (AckScan.start_exact e.pktNum) top rests.tail rests.head (Nat.zero_le _)⟩

variable {app : App} {ts : Nat} {s t : Conn} {ack : Ack}

theorem Built.reports (built : Built ts unprotected s ack t e rest)
    (falling : Falling AcktrEntry.pktNum s.acktr.ent) (bound : ∀ e ∈ s.acktr.ent, e.pktNum < 18446744073709551616) :
    ack.Valid ∧ (∀ n, ack.Denotes n → n ∈ reportedNums unprotected s.acktr.ent) ∧
    (ackRuns (reportedNums unprotected s.acktr.ent) ≤ maxAckBlks + 1 →
      (∀ n ∈ reportedNums unprotected s.acktr.ent, ack.Denotes n) ∧ t.acktr.ent = s.acktr.ent ∧
        ack.blks.length ≤ maxAckBlks) ∧
    (maxAckBlks + 1 < ackRuns (reportedNums unprotected s.acktr.ent) → ack.blks.length = maxAckBlks + 1) := by
  obtain ⟨top, scanned⟩ := ackScan_found falling bound built.found
  obtain ⟨passed, fewer, whole, exact⟩ := scanned.reports
  obtain ⟨-, -, floor, denotes⟩ := exact.endRun top
  have nums := reportedNums_found built.found
  have runs : ackRuns (reportedNums unprotected s.acktr.ent) =
      newRuns e.pktNum (reportedNums unprotected rest) + 1 := by
    rw [nums]
    exact ackRuns_cons (nums ▸ reportedNums_falling falling)
  have blks : ack.blks.length = (ackScan unprotected rest (AckScan.start e.pktNum)).1.closedRuns := by
    rw [built.frame]
    generalize (ackScan unprotected rest (AckScan.start e.pktNum)).1 = scan at exact
    cases initial : scan.initial with
    | true => simp [ackOfScan, AckScan.endRun_of_initial initial, AckScan.closedRuns, initial, (exact.first initial).2]
    | false => simp [ackOfScan, AckScan.endRun_of_closed initial, AckScan.closedRuns, initial]
  have same (n : Nat) : ack.Denotes n ↔ n = e.pktNum ∨ n ∈ passed := by
    rw [built.frame]
    exact denotes n
  refine ⟨?_, fun n denoted => ?_, fun few => ?_, fun many => ?_⟩
  · rw [built.frame]
    refine Ack.valid_of_floor top ?_
    change 0 ≤ blkFloor ((e.pktNum : Int) - (AckScan.endRun _).firstAckBlklen) (AckScan.endRun _).blks
    rw [floor]
    omega
  · rw [nums]
    rcases (same n).mp denoted with rfl | member
    · exact List.mem_cons_self
    · exact List.mem_cons_of_mem _ (fewer member)
  · obtain ⟨left, count⟩ := scanned.few (by change 0 + newRuns e.pktNum _ ≤ _; omega)
    refine ⟨fun n member => ?_, ?_, ?_⟩
    · rw [nums, ← whole left] at member
      exact (same n).mpr (List.mem_cons.mp member)
    · rw [built.kept, left]
      simp
    · rw [blks, count]
      change 0 + newRuns e.pktNum _ ≤ _
      omega
  · rw [blks]
    exact scanned.many (by change _ < 0 + newRuns e.pktNum _; omega)

end Frame

/-- The frame is valid and reports packets that are tracked, and all of them if they are few enough. -/
theorem ackFrame_reports (app : App) (ts : Nat) (unprotected : Bool) (s : Conn)
    (falling : Falling AcktrEntry.pktNum s.acktr.ent) (bound : ∀ e ∈ s.acktr.ent, e.pktNum < 18446744073709551616) :
    (∀ ack t, connCreateAckFrame app ts unprotected s = (.ok (some ack), t) →
      ngtcp2PktValidateAck ack = true ∧
      (∀ n, ack.Denotes n → ∃ e ∈ s.acktr.ent, e.pktNum = n ∧ (unprotected = true → e.unprotected = true)) ∧
      (ackRuns (reportedNums unprotected s.acktr.ent) ≤ 256 →
        ∀ e ∈ s.acktr.ent, (unprotected = true → e.unprotected = true) → ack.Denotes e.pktNum) ∧
      NoWrap (ackNumSubs unprotected s.acktr.ent) ∧
      ((∀ e ∈ s.acktr.ent, e.tstamp ≤ ts) → NoWrap (ackDelaySubs ts unprotected s.acktr.ent))) ∧
    ((∀ n, app.malloc n = true) → s.acktr.activeAck = true →
      (∃ e ∈ s.acktr.ent, unprotected = true → e.unprotected = true) →
      ∃ ack t, connCreateAckFrame app ts unprotected s = (.ok (some ack), t)) := by
  have reported (n : Nat) : n ∈ reportedNums unprotected s.acktr.ent ↔
      ∃ e ∈ s.acktr.ent, e.pktNum = n ∧ (unprotected = true → e.unprotected = true) := by
    simp only [reportedNums, List.mem_map, List.mem_filter, AcktrEntry.reported]
    constructor
    · rintro ⟨e, ⟨member, taken⟩, rfl⟩
      exact ⟨e, member, rfl, by cases unprotected <;> simp_all⟩
    · rintro ⟨e, member, rfl, taken⟩
      exact ⟨e, ⟨member, by cases unprotected <;> simp_all⟩, rfl⟩
  refine ⟨fun ack t run => ?_, fun memory active ⟨e, member, taken⟩ => ?_⟩
  · obtain ⟨e, rest, built⟩ := connCreateAckFrame_built run
    obtain ⟨valid, fewer, all, -⟩ := built.reports falling bound
    refine ⟨valid.validated, fun n denoted => (reported n).mp (fewer n denoted), fun few e member taken => ?_, ?_, ?_⟩
    · exact (all few).1 _ ((reported _).mpr ⟨e, member, rfl, taken⟩)
    · simp only [ackNumSubs, built.found]
      exact (ackScan_found falling bound built.found).2.noWrap
    · intro clock
      have member : e ∈ s.acktr.ent := by
        have suffix : e :: rest <:+ s.acktr.ent := built.found ▸ List.dropWhile_suffix _
        exact suffix.subset List.mem_cons_self
      simpa [ackDelaySubs, built.found, NoWrap] using clock e member
  · exact connCreateAckFrame_succeeds app ts unprotected s memory active
      (List.ne_nil_of_mem ((reported e.pktNum).mpr ⟨e, member, rfl, taken⟩))

def trackingConn (ents : List AcktrEntry) : Conn :=
  { connNew 1 1 ⟨0, 0, 0, 0, false, [], 0⟩ false true with
    acktr := { acks := [], ent := ents, nack := ents.length, activeAck := true } }

theorem ackFrame_reports_three :
    ∃ ack t, connCreateAckFrame App.quiet 9 true (trackingConn [⟨7, 5, true⟩, ⟨6, 4, false⟩, ⟨4, 2, true⟩]) =
        (.ok (some ack), t) ∧
      ngtcp2PktValidateAck ack = true ∧ ack.Denotes 7 ∧ ¬ ack.Denotes 6 ∧ ack.Denotes 4 := by
  obtain ⟨reports, built⟩ := ackFrame_reports App.quiet 9 true
    (trackingConn [⟨7, 5, true⟩, ⟨6, 4, false⟩, ⟨4, 2, true⟩]) (by decide) (by decide)
  obtain ⟨ack, t, run⟩ := built (fun _ => rfl) rfl ⟨⟨7, 5, true⟩, by decide, fun _ => rfl⟩
  obtain ⟨valid, only, all, -⟩ := reports ack t run
  refine ⟨ack, t, run, valid, ?_, fun denoted => ?_, ?_⟩
  · exact all (by decide) ⟨7, 5, true⟩ (by decide) fun _ => rfl
  · have tracked := only 6 denoted
    revert tracked
    decide
  · exact all (by decide) ⟨4, 2, true⟩ (by decide) fun _ => rfl

/-- The block limit is kept, and no packet that was reported is forgotten, unless there are more runs than a frame has
room for. -/
theorem ackFrame_fits_iff (app : App) (ts : Nat) (unprotected : Bool) (s : Conn)
    (falling : Falling AcktrEntry.pktNum s.acktr.ent) (bound : ∀ e ∈ s.acktr.ent, e.pktNum < 18446744073709551616)
    (ack : Ack) (t : Conn) (run : connCreateAckFrame app ts unprotected s = (.ok (some ack), t)) :
    (ack.blks.length ≤ maxAckBlks ∧ ack.blks.take maxAckBlks = ack.blks ∧
      ∀ e ∈ s.acktr.ent, e ∉ t.acktr.ent ↔ e.reported unprotected = true ∧ ¬ ack.Denotes e.pktNum) ↔
    ackRuns (reportedNums unprotected s.acktr.ent) ≤ 256 := by
  obtain ⟨first, rest, built⟩ := connCreateAckFrame_built run
  obtain ⟨-, -, few, many⟩ := built.reports falling bound
  constructor
  · rintro ⟨limit, -⟩
    by_contra more
    have exceeds := many (Nat.lt_of_not_le more)
    omega
  · intro fits
    obtain ⟨all, kept, limit⟩ := few fits
    refine ⟨limit, List.take_of_length_le limit, fun e member => ?_⟩
    have denoted (taken : e.reported unprotected = true) : ack.Denotes e.pktNum :=
      all _ (List.mem_map_of_mem (List.mem_filter.mpr ⟨member, taken⟩))
    rw [kept]
    exact ⟨fun gone => absurd member gone, fun missing => absurd (denoted missing.1) missing.2⟩

theorem ackFrame_fits_iff_three :
    ∃ ack t, connCreateAckFrame App.quiet 9 false (trackingConn [⟨7, 5, true⟩, ⟨6, 4, false⟩, ⟨4, 2, true⟩]) =
        (.ok (some ack), t) ∧
      ack.blks.length ≤ maxAckBlks ∧ ack.blks.take maxAckBlks = ack.blks ∧
      ∀ e ∈ [⟨7, 5, true⟩, ⟨6, 4, false⟩, ⟨4, 2, true⟩], e ∉ t.acktr.ent ↔ e.reported false = true ∧ ¬ ack.Denotes e.pktNum :=
  ⟨_, _, rfl, (ackFrame_fits_iff App.quiet 9 false (trackingConn [⟨7, 5, true⟩, ⟨6, 4, false⟩, ⟨4, 2, true⟩])
    (by decide) (by decide) _ _ rfl).mpr (by decide)⟩

def evenPackets : Conn := trackingConn ((List.range 257).map fun i => ⟨2 * (256 - i), 0, false⟩)

/-- Packet 0 is reported in one block too many and forgotten. -/
theorem ackFrame_overflows :
    ∃ ack t, connCreateAckFrame App.quiet 0 false evenPackets = (.ok (some ack), t) ∧
      ack.blks.length = 256 ∧ ack.Denotes 0 ∧ ∀ e ∈ t.acktr.ent, e.pktNum ≠ 0 := by
  obtain ⟨ack, t, run⟩ := connCreateAckFrame_succeeds App.quiet 0 false evenPackets
    (fun _ => rfl) rfl (by decide +kernel)
  have frame : ((connCreateAckFrame App.quiet 0 false evenPackets).1.toOption.join.any fun ack =>
      ack.blks.length == 256 && decide (ack.Denotes 0)) = true := by decide +kernel
  have left : ((connCreateAckFrame App.quiet 0 false evenPackets).2.acktr.ent.all fun e => e.pktNum != 0) = true := by
    decide +kernel
  rw [run] at frame left
  simp only [Except.toOption, Option.join_some, Option.any_some, Bool.and_eq_true, beq_iff_eq, decide_eq_true_iff] at frame
  simp only [List.all_eq_true, bne_iff_ne] at left
  exact ⟨ack, t, run, frame.1, frame.2, left⟩

end Ngtcp2
