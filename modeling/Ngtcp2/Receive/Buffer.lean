import Ngtcp2.Lib.Reassembly
import Ngtcp2.Stream.Strm

/-!
# The reorder buffer puts a stream together

What the buffer holds and what has been handed on before are the cells of an `Assembly`.
-/

namespace Ngtcp2

open Range

def robDrain : Nat → Nat → Rob → Except Err (List (List UInt8) × Rob)
  | 0, _, rob => .ok ([], rob)
  | rounds + 1, rxOffset, rob =>
    match ngtcp2RobDataAt rob rxOffset with
    | .error e => .error e
    | .ok data =>
      if data = [] then if rxOffset = ngtcp2RobFirstGapOffset rob then .ok ([], rob) else .error .ABORT
      else
        match ngtcp2RobPop rob rxOffset data.length with
        | .error e => .error e
        | .ok rob =>
          match robDrain rounds (rxOffset + data.length) rob with
          | .error e => .error e
          | .ok (chunks, rob) => .ok (data :: chunks, rob)

section Drain

variable {rounds rxOffset : Nat} {rob : Rob}

theorem ngtcp2RobDataAt_error {e : Err} (read : ngtcp2RobDataAt rob rxOffset = .error e) : e = .ABORT := by
  unfold ngtcp2RobDataAt at read
  split at read
  · cases read
    rfl
  · split at read
    · cases read
    · split at read
      · cases read
        rfl
      · split_ifs at read <;> cases read <;> rfl

theorem ngtcp2RobPop_error {len : Nat} {e : Err} (popped : ngtcp2RobPop rob rxOffset len = .error e) :
    e = .ABORT := by
  unfold ngtcp2RobPop at popped
  split at popped
  · cases popped
    rfl
  · split_ifs at popped

theorem robDrain_stop (read : ngtcp2RobDataAt rob rxOffset = .ok [])
    (gap : rxOffset = ngtcp2RobFirstGapOffset rob) : robDrain (rounds + 1) rxOffset rob = .ok ([], rob) := by
  simp only [robDrain, read]
  simp [gap]

theorem robDrain_next {data : List UInt8} {rob' rob'' : Rob} {chunks : List (List UInt8)}
    (read : ngtcp2RobDataAt rob rxOffset = .ok data) (some : data ≠ [])
    (popped : ngtcp2RobPop rob rxOffset data.length = .ok rob')
    (drained : robDrain rounds (rxOffset + data.length) rob' = .ok (chunks, rob'')) :
    robDrain (rounds + 1) rxOffset rob = .ok (data :: chunks, rob'') := by
  simp [robDrain, read, some, popped, drained]

end Drain

section Holds

variable {rob : Rob} {got : Nat → Prop} {content content' : Nat → UInt8} {rd : Nat}

theorem Rob.Holds.congr (holds : rob.Holds got content rd)
    (same : ∀ o, rd ≤ o → got o → content' o = content o) : rob.Holds got content' rd :=
  { holds with stored := fun o from_ has => by rw [holds.stored o from_ has, same o from_ has] }

theorem Rob.Holds.firstGap_eq (holds : rob.Holds got content rd) {n : Nat} (reached : rd ≤ n)
    (missing : ¬ got n) (before : ∀ o, rd ≤ o → o < n → got o) : ngtcp2RobFirstGapOffset rob = n := by
  obtain ⟨lower, -, absent, below⟩ := holds.firstGap
  rcases Nat.lt_trichotomy (ngtcp2RobFirstGapOffset rob) n with less | same | more
  · exact absurd (before _ lower less) absent
  · exact same
  · exact absurd (below _ reached more) missing

theorem robDrain_holds (rounds : Nat) (holds : rob.Holds got content rd)
    (enough : rob.data.length + 2 ≤ rounds ∨ ngtcp2RobFirstGapOffset rob = rd ∧ 1 ≤ rounds) :
    ∃ chunks rob', robDrain rounds rd rob = .ok (chunks, rob') ∧
      rob'.Holds got content (ngtcp2RobFirstGapOffset rob) ∧ rob'.chunk = rob.chunk ∧
      chunks.flatten = (List.range (ngtcp2RobFirstGapOffset rob - rd)).map (fun i => content (rd + i)) ∧
      ∀ chunk ∈ chunks, chunk ≠ [] := by
  induction rounds generalizing rob rd with
  | zero => omega
  | succ rounds ih =>
    rcases holds.dataAt with ⟨gap, read⟩ | ⟨n, rob', some, limit, read, popped, holds', gap, shorter⟩
    · exact ⟨[], rob, robDrain_stop read gap.symm, gap ▸ holds, rfl, by simp [gap], by simp⟩
    · have same : ngtcp2RobFirstGapOffset rob' = ngtcp2RobFirstGapOffset rob := by
        unfold ngtcp2RobFirstGapOffset
        rw [gap]
      have later : rob'.data.length + 2 ≤ rounds ∨ ngtcp2RobFirstGapOffset rob' = rd + n ∧ 1 ≤ rounds := by
        rcases enough with enough | ⟨here, -⟩
        · rcases shorter with shorter | reached
          · exact .inl (by omega)
          · exact .inr ⟨by omega, by omega⟩
        · omega
      obtain ⟨chunks, rest, drained, kept, size, bytes, filled⟩ := ih holds' later
      let data := (List.range n).map fun i => content (rd + i)
      have len : data.length = n := by simp [data]
      have some_data : data ≠ [] := by
        intro none
        rw [none] at len
        simp only [List.length_nil] at len
        omega
      refine ⟨data :: chunks, rest, ?_, same ▸ kept, size.trans (ngtcp2RobPop_chunk popped), ?_, ?_⟩
      · exact robDrain_next read some_data (by rw [len]; exact popped) (by rw [len]; exact drained)
      · rw [List.flatten_cons, bytes, same]
        have split : ngtcp2RobFirstGapOffset rob - rd = n + (ngtcp2RobFirstGapOffset rob - (rd + n)) := by omega
        rw [split, List.range_add, List.map_append, List.map_map]
        congr 1
        refine List.map_congr_left fun i _ => ?_
        simp [Nat.add_assoc]
      · intro chunk member
        rcases List.mem_cons.mp member with rfl | later
        · exact some_data
        · exact filled chunk later

end Holds

theorem removeChunks_length (chunk offset : Nat) (ds : List RobData) :
    (removeChunks chunk offset ds).length ≤ ds.length := by
  induction ds with
  | nil => exact Nat.le_refl _
  | cons d rest ih =>
    simp only [removeChunks]
    split_ifs
    · exact Nat.le_refl _
    · exact Nat.le_refl _
    · exact Nat.le_succ_of_le ih

structure Rob.Keeps (rob : Rob) (a : Assembly UInt8) : Prop extends
    rob.Holds (fun o => (a.cell o).isSome = true) (fun o => (a.cell o).getD 0) a.front where
  size : rob.chunk = robChunk

theorem ngtcp2RobInit_keeps : (ngtcp2RobInit robChunk).Keeps .empty := by
  have holds := ngtcp2RobInit_holds (by decide : 0 < robChunk) fun _ => 0
  refine ⟨?_, rfl⟩
  rw [Assembly.empty_front]
  exact (holds.skip (by simp [Assembly.empty]) (by simp) (by simp [Assembly.empty])).congr (by simp [Assembly.empty])

namespace Rob.Keeps

variable {rob : Rob} {a : Assembly UInt8} {offset : Nat} {data : List UInt8}

theorem firstGap (keeps : rob.Keeps a) : ngtcp2RobFirstGapOffset rob = a.front :=
  keeps.toHolds.firstGap_eq (Nat.le_refl _) (by simp [a.cell_front]) fun _ from_ below => by omega

theorem bounded_put (keeps : rob.Keeps a) (bound : offset + data.length ≤ 2 * varintBound) (o : Nat)
    (has : ((a.put offset data).cell o).isSome = true) : o < 2 * varintBound := by
  rcases (Assembly.put_cell_isSome o).mp has with old | ⟨_, below⟩
  · exact keeps.bounded o old
  · omega

theorem push (keeps : rob.Keeps a) (bound : offset + data.length ≤ 2 * varintBound)
    (behind : a.front < offset) : (ngtcp2RobPush rob offset data).Keeps (a.put offset data) := by
  have cells (o : Nat) : (a.put offset data).cell o = (a.cell o).or (Assembly.slot offset data o) := by
    unfold Assembly.put
    exact if_neg (by omega)
  have pushed : (ngtcp2RobPush rob offset data).Holds
      (fun o => (a.cell o).isSome = true ∨ offset ≤ o ∧ o < offset + data.length)
      (fun o => ((a.put offset data).cell o).getD 0) a.front := keeps.toHolds.push bound
    (fun o _ has => by
      obtain ⟨b, held⟩ := Option.isSome_iff_exists.mp has
      simp [cells, held])
    (fun i less _ missing => by
      have none : a.cell (offset + i) = none := by simpa using missing
      simp [cells, none, Assembly.slot, List.getElem?_eq_getElem less])
  have size : (ngtcp2RobPush rob offset data).chunk = robChunk := by
    rw [ngtcp2RobPush_eq rob bound]
    exact keeps.size
  refine ⟨?_, size⟩
  rw [Assembly.put_front_behind behind]
  exact pushed.skip (fun o _ => Assembly.put_cell_isSome o) (fun o => (Assembly.put_cell_isSome o).mpr)
    (keeps.bounded_put bound)

theorem take (keeps : rob.Keeps a) (bound : offset + data.length ≤ 2 * varintBound)
    (reached : offset ≤ a.front) (new : a.front < offset + data.length) {rounds : Nat}
    (enough : rob.data.length + 2 ≤ rounds) :
    ∃ chunks rob',
      robDrain rounds (offset + data.length) (ngtcp2RobRemovePrefix rob (offset + data.length)) =
        .ok (chunks, rob') ∧
      rob'.Keeps (a.put offset data) ∧
      (a.put offset data).text = a.text ++ (data.drop (a.front - offset) ++ chunks.flatten) ∧
      ∀ chunk ∈ chunks, chunk ≠ [] := by
  have cells (o : Nat) (from_ : offset + data.length ≤ o) : (a.put offset data).cell o = a.cell o := by
    have nothing := Assembly.slot_none (by omega : ¬ (offset ≤ o ∧ o < offset + data.length))
    unfold Assembly.put
    simp [nothing]
  have removed := keeps.toHolds.removePrefix (Nat.le_of_lt new) bound
  have holds : (ngtcp2RobRemovePrefix rob (offset + data.length)).Holds
      (fun o => ((a.put offset data).cell o).isSome = true) (fun o => ((a.put offset data).cell o).getD 0)
      (offset + data.length) := by
    refine (removed.skip (fun o from_ => by rw [cells o from_])
      (fun o has => (Assembly.put_cell_isSome o).mpr (.inl has)) (keeps.bounded_put bound)).congr ?_
    intro o from_ _
    rw [cells o from_]
  have further : offset + data.length ≤ (a.put offset data).front := by
    refine Assembly.le_front fun o below => (Assembly.put_cell_isSome o).mpr ?_
    by_cases known : o < a.front
    · exact .inl (Assembly.cell_below known)
    · exact .inr (by omega)
  have gap := holds.firstGap_eq further (by simp [Assembly.cell_front]) fun o _ below => Assembly.cell_below below
  have shorter := removeChunks_length rob.chunk (offset + data.length) rob.data
  obtain ⟨chunks, rob', drained, kept, size, bytes, filled⟩ :=
    robDrain_holds rounds holds (.inl (by simp only [ngtcp2RobRemovePrefix]; omega))
  rw [gap] at kept bytes
  refine ⟨chunks, rob', drained, ⟨kept, size.trans keeps.size⟩, ?_, filled⟩
  rw [Assembly.put_text_reached reached (Nat.le_of_lt new), bytes]
  have waiting := a.slice_map (offset + data.length) ((a.put offset data).front - (offset + data.length))
    (fun o => ((a.put offset data).cell o).getD 0) fun i less => by
      obtain ⟨b, held⟩ := Option.isSome_iff_exists.mp
        ((a.put offset data).cell_below (o := offset + data.length + i) (by omega))
      rw [held, ← cells _ (by omega), held]
      rfl
  rw [show offset + data.length + ((a.put offset data).front - (offset + data.length)) =
    (a.put offset data).front by omega] at waiting
  rw [waiting]

end Rob.Keeps

end Ngtcp2
