import Mathlib.Data.List.Induction
import Ngtcp2.Stream.Rob

/-!
# Runs of a reorder buffer

A byte counts from when it is first pushed until the prefix that it lies in is removed.
-/

namespace Ngtcp2

open Range

-- `emit` is a round of the loop in `conn_emit_pending_stream_data`
inductive RobOp where
  | push (offset : Nat) (data : List UInt8)
  | removePrefix (offset : Nat)
  | emit

structure RobReader where
  rob : Rob
  rxOffset : Nat

def RobReader.take (r : RobReader) : RobOp → Except Err RobReader
  | .push offset data => .ok { r with rob := ngtcp2RobPush r.rob offset data }
  | .removePrefix offset => .ok ⟨ngtcp2RobRemovePrefix r.rob offset, max r.rxOffset offset⟩
  | .emit => do
    let data ← ngtcp2RobDataAt r.rob r.rxOffset
    if data = [] then .ok r
    else do
      let rob ← ngtcp2RobPop r.rob r.rxOffset data.length
      .ok ⟨rob, r.rxOffset + data.length⟩

def robRun (chunk : Nat) (ops : List RobOp) : Except Err RobReader :=
  ops.foldlM RobReader.take ⟨ngtcp2RobInit chunk, 0⟩

def firstPush (o : Nat) : List RobOp → Option UInt8
  | [] => none
  | .push offset data :: rest =>
    if offset ≤ o ∧ o < offset + data.length then data[o - offset]? else firstPush o rest
  | _ :: rest => firstPush o rest

def removedTo : List RobOp → Nat
  | [] => 0
  | .removePrefix offset :: rest => max offset (removedTo rest)
  | _ :: rest => removedTo rest

def RobOp.Fits : RobOp → Prop
  | .push offset data => offset + data.length < varintBound
  | .removePrefix offset => offset < uint64Max
  | .emit => True

theorem firstPush_append (o : Nat) (ops later : List RobOp) :
    firstPush o (ops ++ later) = (firstPush o ops).or (firstPush o later) := by
  induction ops with
  | nil => rfl
  | cons op rest ih =>
    cases op with
    | push offset data =>
      simp only [List.cons_append, firstPush, ih]
      split
      · rw [List.getElem?_eq_getElem (by omega), Option.some_or]
      · rfl
    | removePrefix offset => exact ih
    | emit => exact ih

theorem firstPush_fits {ops : List RobOp} (fits : ∀ op ∈ ops, op.Fits) {o : Nat} (far : varintBound ≤ o) :
    firstPush o ops = none := by
  induction ops with
  | nil => rfl
  | cons op rest ih =>
    have later := ih fun op member => fits op (List.mem_cons_of_mem _ member)
    cases op with
    | push offset data =>
      have bound : offset + data.length < varintBound := fits _ List.mem_cons_self
      rw [firstPush, if_neg (by omega), later]
    | removePrefix offset => exact later
    | emit => exact later

theorem removedTo_append (ops later : List RobOp) : removedTo (ops ++ later) = max (removedTo ops) (removedTo later) := by
  induction ops with
  | nil => simp [removedTo]
  | cons op rest ih =>
    cases op with
    | removePrefix offset => simp only [List.cons_append, removedTo, ih, Nat.max_assoc]
    | push offset data => exact ih
    | emit => exact ih

section Holds

variable {rob : Rob} {got : Nat → Prop} {content : Nat → UInt8} {rd : Nat}

theorem Rob.Holds.removePrefix_behind (holds : rob.Holds got content rd) {offset : Nat} (behind : offset ≤ rd) :
    ngtcp2RobRemovePrefix rob offset = rob := by
  obtain ⟨gap, data, chunk⟩ := rob
  have gaps : removeGaps offset gap = gap := by
    cases gap with
    | nil => rfl
    | cons g rest => exact if_pos (Nat.le_trans behind holds.ordered.1)
  have chunks : removeChunks chunk offset data = data := by
    cases data with
    | nil => rfl
    | cons d rest =>
      have live := holds.live d List.mem_cons_self
      unfold removeChunks
      split_ifs with before inside
      · rfl
      · rfl
      · exact absurd (Nat.lt_of_le_of_lt behind live) inside
  unfold ngtcp2RobRemovePrefix
  rw [gaps, chunks]

theorem chunkEnd_eq {chunk start o : Nat} (aligned : chunk ∣ start) (lower : start ≤ o) (upper : o < start + chunk) :
    start + chunk = (o / chunk + 1) * chunk := by
  obtain ⟨k, rfl⟩ := aligned
  have quotient : o / chunk = k := by
    refine Nat.div_eq_of_lt_le (by rw [Nat.mul_comm]; exact lower) ?_
    rw [Nat.succ_mul, Nat.mul_comm k]
    exact upper
  rw [quotient, Nat.succ_mul, Nat.mul_comm]

theorem Rob.Holds.dataAt_length (holds : rob.Holds got content rd) {run : List UInt8}
    (found : ngtcp2RobDataAt rob rd = .ok run) :
    rd + run.length = min (ngtcp2RobFirstGapOffset rob) ((rd / rob.chunk + 1) * rob.chunk) := by
  have lower := holds.firstGap.1
  have inside := (chunkStart_bounds holds.positive rd).2
  rw [← Nat.add_one_mul] at inside
  unfold ngtcp2RobFirstGapOffset at lower ⊢
  unfold ngtcp2RobDataAt at found
  split at found
  · cases found
  next g rest gaps =>
    rw [gaps, Range.first] at lower ⊢
    split at found
    · cases found
      rw [List.length_nil]
      omega
    · split at found
      · cases found
      next d later chunks =>
        have aligned : rob.chunk ∣ d.offset := by
          have chunked := holds.chunked
          rw [chunks] at chunked
          exact chunked.2.1
        split at found
        · cases found
        · split at found
          · cases found
          · cases found
            rw [List.length_map, List.length_range, ← chunkEnd_eq aligned (by omega) (by omega)]
            omega

end Holds

structure RobReader.Beyond (r : RobReader) : Prop where
  above : 2 * varintBound < r.rxOffset
  below : r.rxOffset < uint64Max
  data : r.rob.data = []
  gap : r.rob.gap = [⟨r.rxOffset, uint64Max⟩]

structure RobReader.Reads (chunk : Nat) (ops : List RobOp) (r : RobReader) : Prop where
  size : r.rob.chunk = chunk
  removed : removedTo ops ≤ r.rxOffset
  read : ∀ o, removedTo ops ≤ o → o < r.rxOffset → (firstPush o ops).isSome = true
  holds : r.rob.Holds (fun o => (firstPush o ops).isSome = true) (fun o => (firstPush o ops).getD 0) r.rxOffset ∨
    r.Beyond

namespace RobReader

variable {chunk : Nat} {ops : List RobOp} {r : RobReader}

theorem Reads.push (reads : r.Reads chunk ops) {offset : Nat} {data : List UInt8}
    (fits : offset + data.length < varintBound) :
    Reads chunk (ops ++ [.push offset data]) { r with rob := ngtcp2RobPush r.rob offset data } := by
  have bound : offset + data.length ≤ 2 * varintBound := by omega
  have first (o : Nat) : firstPush o (ops ++ [.push offset data]) =
      (firstPush o ops).or (if offset ≤ o ∧ o < offset + data.length then data[o - offset]? else none) :=
    firstPush_append o ops _
  have removedSame : removedTo (ops ++ [.push offset data]) = removedTo ops := by simp [removedTo_append, removedTo]
  refine ⟨?_, removedSame ▸ reads.removed, fun o from_ below => ?_, ?_⟩
  · rw [ngtcp2RobPush_eq _ bound]
    exact reads.size
  · rw [first, Option.isSome_or, reads.read o (removedSame ▸ from_) below]
    rfl
  rcases reads.holds with holds | beyond
  · left
    have pushed := @Rob.Holds.push _ _ _ _ holds _ _ bound (fun o => (firstPush o (ops ++ [.push offset data])).getD 0)
      (fun o _ got => ?_) fun i inside _ missing => ?_
    · have same (o : Nat) : (firstPush o (ops ++ [.push offset data])).isSome = true ↔
          (firstPush o ops).isSome = true ∨ offset ≤ o ∧ o < offset + data.length := by
        rw [first, Option.isSome_or, Bool.or_eq_true]
        refine or_congr_right ?_
        split
        next inside =>
          rw [List.getElem?_eq_getElem (by omega)]
          simp [inside]
        next outside => simp [outside]
      exact pushed.skip (fun o _ => same o) (fun o => (same o).mpr) fun o got => pushed.bounded o ((same o).mp got)
    · obtain ⟨b, held⟩ := Option.isSome_iff_exists.mp got
      simp [first, held]
    · have none : firstPush (offset + i) ops = none := by simpa using missing
      simp [first, none, inside]
  · -- nothing is pushed so far out
    right
    have far : 2 * varintBound < r.rxOffset := beyond.above
    have apart : rangeIntersect ⟨offset, offset + data.length⟩ ⟨r.rxOffset, uint64Max⟩ = ⟨0, 0⟩ := by
      unfold rangeIntersect
      rw [if_neg]
      simp only
      omega
    refine ⟨far, beyond.below, ?_, ?_⟩ <;> simp only [ngtcp2RobPush_eq _ bound, beyond.gap, beyond.data]
    · simp [closedParts, apart, rangeLen]
    · simp [pushGaps, apart, rangeLen]

theorem Reads.removePrefix (reads : r.Reads chunk ops) (small : chunk < varintBound)
    (bounded : ∀ o, varintBound ≤ o → firstPush o ops = none) {offset : Nat} (fits : offset < uint64Max) :
    Reads chunk (ops ++ [.removePrefix offset]) ⟨ngtcp2RobRemovePrefix r.rob offset, max r.rxOffset offset⟩ := by
  have first (o : Nat) : firstPush o (ops ++ [.removePrefix offset]) = firstPush o ops := by
    simp [firstPush_append, firstPush]
  have removed : removedTo (ops ++ [.removePrefix offset]) = max (removedTo ops) offset := by
    simp [removedTo_append, removedTo]
  have before := reads.removed
  refine ⟨reads.size, ?_, fun o from_ below => ?_, ?_⟩
  · change _ ≤ max r.rxOffset offset
    omega
  · rw [first]
    refine reads.read o (by omega) ?_
    change o < max r.rxOffset offset at below
    omega
  simp only [first]
  rcases reads.holds with holds | beyond
  · rcases Nat.le_total offset r.rxOffset with behind | ahead
    · rw [holds.removePrefix_behind behind, Nat.max_eq_left behind]
      exact .inl holds
    · rw [Nat.max_eq_right ahead]
      rcases Nat.lt_or_ge (2 * varintBound) offset with far | near
      · right
        have data : removeChunks r.rob.chunk offset r.rob.data = [] := by
          refine List.eq_nil_iff_forall_not_mem.mpr fun d member => ?_
          have live := removeChunks_live holds.positive holds.chunked d member
          obtain ⟨o, got, start⟩ := holds.used d (removeChunks_subset _ _ _ member)
          have near : o < varintBound := by
            by_contra above
            simp [bounded o (by omega)] at got
          rw [reads.size] at live
          omega
        refine ⟨far, fits, data, ?_⟩
        refine (removeGaps_ordered holds.ordered).ext ⟨Nat.le_refl _, fits, trivial⟩ fun o => ?_
        rw [removeGaps_covers holds.ordered, holds.gaps, covers_cons]
        have reach := holds.bounded o
        simp only [Has, covers_nil, or_false]
        constructor
        · rintro ⟨⟨_, top, _⟩, above⟩
          exact ⟨above, top⟩
        · rintro ⟨above, top⟩
          exact ⟨⟨Nat.le_trans ahead above, top, fun got => by have := reach got; omega⟩, above⟩
      · exact .inl (holds.removePrefix ahead near)
  · right
    have above := beyond.above
    have below := beyond.below
    refine ⟨by simp only; omega, by simp only; omega, by simp [ngtcp2RobRemovePrefix, beyond.data, removeChunks], ?_⟩
    simp only [ngtcp2RobRemovePrefix, beyond.gap, removeGaps, if_pos fits]
    split
    next behind => rw [Nat.max_eq_left behind]
    next ahead => rw [Nat.max_eq_right (by omega)]

theorem Reads.emit (reads : r.Reads chunk ops) :
    ∃ r', r.take .emit = .ok r' ∧ Reads chunk (ops ++ [.emit]) r' := by
  have first (o : Nat) : firstPush o (ops ++ [.emit]) = firstPush o ops := by simp [firstPush_append, firstPush]
  have removed : removedTo (ops ++ [.emit]) = removedTo ops := by simp [removedTo_append, removedTo]
  have still : Reads chunk (ops ++ [.emit]) r := by
    refine ⟨reads.size, removed ▸ reads.removed, fun o from_ below => ?_, ?_⟩
    · rw [first]
      exact reads.read o (removed ▸ from_) below
    · simp only [first]
      exact reads.holds
  rcases reads.holds with holds | beyond
  · rcases holds.dataAt with ⟨_, none⟩ | ⟨n, rob, some, limit, found, popped, later, gap, _⟩
    · exact ⟨r, by simp [take, none, bind, Except.bind], still⟩
    · have length : ((List.range n).map fun i => (firstPush (r.rxOffset + i) ops).getD 0).length = n := by simp
      have filled : ((List.range n).map fun i => (firstPush (r.rxOffset + i) ops).getD 0) ≠ [] := by
        intro empty
        rw [empty] at length
        simp at length
        omega
      have size := ngtcp2RobPop_chunk popped
      refine ⟨⟨rob, r.rxOffset + n⟩, ?_, size.trans reads.size, ?_, fun o from_ below => ?_, ?_⟩
      · simp only [take, found, bind, Except.bind, if_neg filled, length, popped]
      · have := reads.removed
        simp only [removed]
        omega
      · rw [first]
        rcases Nat.lt_or_ge o r.rxOffset with before | after
        · exact reads.read o (removed ▸ from_) before
        · refine holds.firstGap.2.2.2 o after ?_
          simp only at below
          omega
      · simp only [first]
        exact .inl later
  · refine ⟨r, ?_, still⟩
    simp [take, ngtcp2RobDataAt, beyond.gap, bind, Except.bind]

theorem Reads.step (reads : r.Reads chunk ops) (small : chunk < varintBound) (before : ∀ op ∈ ops, op.Fits)
    {op : RobOp} (fits : op.Fits) : ∃ r', r.take op = .ok r' ∧ Reads chunk (ops ++ [op]) r' := by
  cases op with
  | push offset data => exact ⟨_, rfl, reads.push fits⟩
  | removePrefix offset => exact ⟨_, rfl, reads.removePrefix small (fun _ => firstPush_fits before) fits⟩
  | emit => exact reads.emit

theorem robRun_reads (positive : 0 < chunk) (small : chunk < varintBound) (fits : ∀ op ∈ ops, op.Fits) :
    ∃ r, robRun chunk ops = .ok r ∧ Reads chunk ops r := by
  induction ops using List.reverseRecOn with
  | nil =>
    refine ⟨_, rfl, rfl, Nat.zero_le _, fun o _ below => by simp at below, .inl ?_⟩
    exact (ngtcp2RobInit_holds positive _).skip (by simp [firstPush]) (by simp) (by simp [firstPush])
  | append_singleton ops op ih =>
    have before (op : RobOp) (member : op ∈ ops) : op.Fits := fits op (List.mem_append_left _ member)
    obtain ⟨r, run, reads⟩ := ih before
    obtain ⟨r', step, reads'⟩ := reads.step small before (fits op (by simp))
    refine ⟨r', ?_, reads'⟩
    unfold robRun at run ⊢
    rw [List.foldlM_append, run]
    simp only [List.foldlM_cons, List.foldlM_nil, bind, Except.bind, step]
    rfl

end RobReader

/-- The gaps are the offsets that were neither pushed nor removed, and the bytes are those of the first pushes. -/
theorem rob_reorders {chunk : Nat} (positive : 0 < chunk) (small : chunk < varintBound) (ops : List RobOp)
    (fits : ∀ op ∈ ops, op.Fits) :
    ∃ r, robRun chunk ops = .ok r ∧
      Ordered 0 r.rob.gap ∧
      (∀ o, Covers r.rob.gap o ↔ o < uint64Max ∧ firstPush o ops = none ∧ removedTo ops ≤ o) ∧
      Chunked chunk 0 r.rob.data ∧
      (∀ o b, r.rxOffset ≤ o → firstPush o ops = some b → byteAt chunk r.rob.data o = some b) ∧
      ∃ run, ngtcp2RobDataAt r.rob r.rxOffset = .ok run ∧
        r.rxOffset + run.length = min (ngtcp2RobFirstGapOffset r.rob) ((r.rxOffset / chunk + 1) * chunk) ∧
        ∀ i, (inside : i < run.length) → firstPush (r.rxOffset + i) ops = some run[i] := by
  obtain ⟨r, run, reads⟩ := RobReader.robRun_reads positive small fits
  have removed := reads.removed
  have size := reads.size
  refine ⟨r, run, ?_⟩
  rcases reads.holds with holds | beyond
  · refine ⟨holds.ordered.weaken (Nat.zero_le _), fun o => ?_, size ▸ holds.chunked, fun o b from_ pushed => ?_, ?_⟩
    · have read := reads.read o
      rw [holds.gaps, Bool.not_eq_true, Option.isSome_eq_false_iff, Option.isNone_iff_eq_none]
      constructor
      · rintro ⟨from_, top, missing⟩
        exact ⟨top, missing, Nat.le_trans removed from_⟩
      · rintro ⟨top, missing, from_⟩
        refine ⟨?_, top, missing⟩
        by_contra before
        simp [missing] at read
        omega
    · have stored := holds.stored o from_ (by simp [pushed])
      simpa [size, pushed] using stored
    · have length := @holds.dataAt_length
      rw [size] at length
      rcases holds.dataAt with ⟨_, found⟩ | ⟨n, rob, some, limit, found, popped, later, gap, _⟩
      · exact ⟨[], found, length found, by simp⟩
      · refine ⟨_, found, length found, fun i inside => ?_⟩
        rw [List.length_map, List.length_range] at inside
        have pushed := holds.firstGap.2.2.2 (r.rxOffset + i) (Nat.le_add_right _ _) (by omega)
        obtain ⟨b, held⟩ := Option.isSome_iff_exists.mp pushed
        simp [held]
  · have above := beyond.above
    have none (o : Nat) (from_ : r.rxOffset ≤ o) : firstPush o ops = none := firstPush_fits fits (by omega)
    rw [beyond.gap, beyond.data]
    refine ⟨⟨Nat.zero_le _, beyond.below, trivial⟩, fun o => ?_, trivial, fun o b from_ pushed => ?_, [], ?_, ?_, ?_⟩
    · have read := reads.read o
      simp only [covers_cons, Has, covers_nil, or_false]
      constructor
      · rintro ⟨from_, top⟩
        exact ⟨top, none o from_, Nat.le_trans removed from_⟩
      · rintro ⟨top, missing, from_⟩
        refine ⟨?_, top⟩
        by_contra before
        simp [missing] at read
        omega
    · simp [none o from_] at pushed
    · simp [ngtcp2RobDataAt, beyond.gap]
    · have inside := (chunkStart_bounds positive r.rxOffset).2
      rw [← Nat.add_one_mul] at inside
      simp only [ngtcp2RobFirstGapOffset, beyond.gap, Range.first, List.length_nil]
      omega
    · simp

-- a byte of the first chunk is pushed twice, and a byte of the second is read after a prefix is removed
def reorderedOps : List RobOp := [.push 2 [7, 8, 9], .push 1 [5, 6], .removePrefix 2, .emit]

theorem rob_reorders_twice :
    (∀ op ∈ reorderedOps, op.Fits) ∧ ∃ r, robRun 4 reorderedOps = .ok r ∧ r.rxOffset = 4 ∧
      Covers r.rob.gap 5 ∧ ngtcp2RobDataAt r.rob r.rxOffset = .ok [9] := by
  have fits : ∀ op ∈ reorderedOps, op.Fits := by
    simp [reorderedOps, RobOp.Fits, varintBound, uint64Max]
  obtain ⟨r, run, -, gaps, -⟩ := @rob_reorders 4 (by decide) (by decide) reorderedOps fits
  have covered := (gaps 5).mpr ⟨by decide, by decide, by decide⟩
  refine ⟨fits, r, run, ?_, covered, ?_⟩ <;> cases run <;> rfl

/-- At the largest offset there is no gap left to look at. -/
theorem robRun_largest : robRun 4 [.removePrefix uint64Max, .emit] = .error .ABORT := rfl

end Ngtcp2
