import Ngtcp2.Stream.Idtr
import Mathlib.Data.Finset.Sort

/-!
# What the trackers denote

An id that is cut off the end of a gap leaves an empty gap behind, which stays.
-/

namespace Ngtcp2

open Range

section Offsets

def gaptrAfter (pushes : List (Nat × Nat)) : Gaptr :=
  pushes.foldl (fun gaptr p => ngtcp2GaptrPush gaptr p.1 p.2) ngtcp2GaptrInit

def Pushed (pushes : List (Nat × Nat)) (o : Nat) : Prop := ∃ p ∈ pushes, p.1 ≤ o ∧ o < p.1 + p.2

theorem gaptrAfter_concat (pushes : List (Nat × Nat)) (p : Nat × Nat) :
    gaptrAfter (pushes ++ [p]) = ngtcp2GaptrPush (gaptrAfter pushes) p.1 p.2 := by
  unfold gaptrAfter
  rw [List.foldl_append]
  rfl

theorem pushed_concat (pushes : List (Nat × Nat)) (p : Nat × Nat) (o : Nat) :
    Pushed (pushes ++ [p]) o ↔ Pushed pushes o ∨ p.1 ≤ o ∧ o < p.1 + p.2 := by
  simp [Pushed, or_and_right, exists_or]

theorem gaptrAfter_ordered (pushes : List (Nat × Nat)) : Ordered 0 (gaptrAfter pushes).gap := by
  induction pushes using List.reverseRecOn with
  | nil => simp [gaptrAfter, ngtcp2GaptrInit, Ordered, uint64Max]
  | append_singleton pushes p ih =>
    rw [gaptrAfter_concat]
    exact pushGaps_ordered _ _ ih _

theorem gaptrAfter_covers {pushes : List (Nat × Nat)} (fits : ∀ p ∈ pushes, p.1 + p.2 ≤ uint64Max) (o : Nat) :
    Covers (gaptrAfter pushes).gap o ↔ o < uint64Max ∧ ¬ Pushed pushes o := by
  induction pushes using List.reverseRecOn with
  | nil => simp [gaptrAfter, ngtcp2GaptrInit, Pushed, Has]
  | append_singleton pushes p ih =>
    have before := ih fun p member => fits p (List.mem_append_left _ member)
    have small : p.1 + p.2 ≤ uint64Max := fits p (List.mem_append_right _ (List.mem_singleton_self p))
    have stop : add64 p.1 p.2 = p.1 + p.2 := add64_eq (by unfold uint64Max at small; omega)
    rw [gaptrAfter_concat, pushed_concat]
    unfold ngtcp2GaptrPush
    rw [pushGaps_covers _ _ (gaptrAfter_ordered pushes), before, stop]
    unfold Has
    tauto

/-- The tracker denotes what was never pushed, by the one ordered list that does. -/
theorem gaptr_denotes (pushes : List (Nat × Nat)) (fits : ∀ p ∈ pushes, p.1 + p.2 < 2 ^ 64) :
    Ordered 0 (gaptrAfter pushes).gap ∧
    (∀ o, Covers (gaptrAfter pushes).gap o ↔ o < uint64Max ∧ ¬ Pushed pushes o) ∧
    (∀ pushes' : List (Nat × Nat), (∀ p, p ∈ pushes' ↔ p ∈ pushes) → gaptrAfter pushes' = gaptrAfter pushes) ∧
    IsLeast {o | ¬ Pushed pushes o} (ngtcp2GaptrFirstGapOffset (gaptrAfter pushes)) := by
  have fits (p : Nat × Nat) (member : p ∈ pushes) : p.1 + p.2 ≤ uint64Max := by
    have := fits p member
    unfold uint64Max
    omega
  have ordered := gaptrAfter_ordered pushes
  have covers := gaptrAfter_covers fits
  refine ⟨ordered, covers, fun pushes' same => ?_, ?_⟩
  · have pushed (o : Nat) : Pushed pushes' o ↔ Pushed pushes o := by simp [Pushed, same]
    have fits' : ∀ p ∈ pushes', p.1 + p.2 ≤ uint64Max := fun p member => fits p ((same p).mp member)
    have gaps : (gaptrAfter pushes').gap = (gaptrAfter pushes).gap := by
      apply Ordered.ext (gaptrAfter_ordered pushes') ordered
      intro o
      rw [gaptrAfter_covers fits', covers, pushed]
    exact congrArg Gaptr.mk gaps
  · have last : ¬ Pushed pushes uint64Max := by
      rintro ⟨p, member, _, inside⟩
      exact Nat.not_lt.mpr (fits p member) inside
    exact Ordered.first_least ordered covers last

theorem gaptr_denotes_duplicated :
    gaptrAfter [(0, 2), (4, 1), (0, 2)] = gaptrAfter [(4, 1), (0, 2)] ∧
      ngtcp2GaptrFirstGapOffset (gaptrAfter [(4, 1), (0, 2)]) = 2 ∧
      IsLeast {o | ¬ Pushed [(4, 1), (0, 2)] o} (ngtcp2GaptrFirstGapOffset (gaptrAfter [(4, 1), (0, 2)])) := by
  obtain ⟨_, _, same, least⟩ := gaptr_denotes [(4, 1), (0, 2)] (by decide)
  refine ⟨same _ fun p => ?_, by decide, least⟩
  simp only [List.mem_cons, List.not_mem_nil, or_false]
  tauto

end Offsets

section Ids

def idtrOpenNext (idtr : Idtr) (streamId : Nat) : Idtr :=
  match ngtcp2IdtrOpen idtr streamId with
  | .ok idtr => idtr
  | .error _ => idtr

def idtrAfter (server : Bool) (ids : List Nat) : Idtr := ids.foldl idtrOpenNext (ngtcp2IdtrInit server)

structure OneKind (server : Bool) (kind : Nat) (ids : List Nat) : Prop where
  tracked : server = false → kind % 2 = 0
  alike : ∀ id ∈ ids, id % 4 = kind
  small : ∀ id ∈ ids, id < varintBound

def Seamless (ids : List Nat) : Prop :=
  ∀ before id after, ids = before ++ id :: after → id ∉ before → id + 4 ∈ before → id < 4 ∨ id - 4 ∈ before

variable {server : Bool} {kind : Nat} {ids : List Nat}

theorem idtrAfter_concat (server : Bool) (ids : List Nat) (id : Nat) :
    idtrAfter server (ids ++ [id]) = idtrOpenNext (idtrAfter server ids) id := by
  unfold idtrAfter
  rw [List.foldl_append]
  rfl

theorem OneKind.before {later : List Nat} (one : OneKind server kind (ids ++ later)) : OneKind server kind ids where
  tracked := one.tracked
  alike id member := one.alike id (List.mem_append_left _ member)
  small id member := one.small id (List.mem_append_left _ member)

theorem OneKind.last {id : Nat} (one : OneKind server kind (ids ++ [id])) : id % 4 = kind ∧ id < varintBound := by
  have member : id ∈ ids ++ [id] := List.mem_append_right _ (List.mem_singleton_self id)
  exact ⟨one.alike id member, one.small id member⟩

-- the ids of a kind and their indices correspond
theorem idFromStreamId_inj {id id' : Nat} (alike : id % 4 = kind) (alike' : id' % 4 = kind) :
    idFromStreamId id = idFromStreamId id' ↔ id = id' := by
  unfold idFromStreamId
  omega

theorem idtrAssert_of_kind {idtr : Idtr} {id : Nat} (tracked : idtr.server = false → kind % 2 = 0)
    (alike : id % 4 = kind) : idtrAssert idtr id = true := by
  unfold idtrAssert
  cases server : idtr.server with
  | true => simp
  | false =>
    have even := tracked server
    have : id % 2 = 0 := by omega
    simp [this]

structure IdsTracked (idtr : Idtr) (server : Bool) (ids : List Nat) : Prop where
  ok : idtr.Ok
  server : idtr.server = server
  covers : ∀ n, Covers idtr.gap n ↔ n < uint64Max ∧ ∀ id ∈ ids, idFromStreamId id ≠ n

theorem IdsTracked.covers_iff {idtr : Idtr} {id : Nat} (tracks : IdsTracked idtr server ids)
    (one : OneKind server kind ids) (alike : id % 4 = kind) (small : id ≤ varintBound + 4) :
    Covers idtr.gap (idFromStreamId id) ↔ id ∉ ids := by
  have below : idFromStreamId id < uint64Max := by
    unfold idFromStreamId varintBound uint64Max at *
    omega
  rw [tracks.covers]
  constructor
  · rintro ⟨_, others⟩ member
    exact others id member rfl
  · intro missing
    refine ⟨below, fun id' member same => missing ?_⟩
    rwa [← (idFromStreamId_inj (one.alike id' member) alike).mp same]

theorem IdsTracked.open_cases {idtr : Idtr} {id : Nat} (tracks : IdsTracked idtr server ids)
    (one : OneKind server kind (ids ++ [id])) :
    (id ∉ ids ∧ ∃ gap, idtrOpenGap (idFromStreamId id) idtr.gap = some gap ∧
        ngtcp2IdtrOpen idtr id = .ok { idtr with gap := gap }) ∨
      (id ∈ ids ∧ ngtcp2IdtrOpen idtr id = .error .STREAM_IN_USE) := by
  obtain ⟨alike, small⟩ := one.last
  have covers := tracks.covers_iff one.before alike (by omega)
  have asserted : idtrAssert idtr id = true := idtrAssert_of_kind (tracks.server ▸ one.tracked) alike
  cases opens : idtrOpenGap (idFromStreamId id) idtr.gap with
  | none =>
    right
    have closed : ¬ Covers idtr.gap (idFromStreamId id) := by
      rw [← idtrOpenGap_isSome tracks.ok.spaced, opens]
      nofun
    exact ⟨not_not.mp (covers.not.mp closed), by simp [ngtcp2IdtrOpen, asserted, opens]⟩
  | some gap =>
    left
    have free : Covers idtr.gap (idFromStreamId id) := by
      rw [← idtrOpenGap_isSome tracks.ok.spaced, opens]
      rfl
    exact ⟨covers.mp free, gap, rfl, by simp [ngtcp2IdtrOpen, asserted, opens]⟩

theorem idtrAfter_tracks (one : OneKind server kind ids) : IdsTracked (idtrAfter server ids) server ids := by
  induction ids using List.reverseRecOn with
  | nil =>
    refine ⟨ngtcp2IdtrInit_ok server, rfl, fun n => ?_⟩
    simp [idtrAfter, ngtcp2IdtrInit, Has]
  | append_singleton ids id ih =>
    have tracks := ih one.before
    rw [idtrAfter_concat]
    unfold idtrOpenNext
    rcases tracks.open_cases one with ⟨_, gap, opens, run⟩ | ⟨member, run⟩
    · have covers := idtrOpenGap_covers tracks.ok.spaced opens
      have ok := (ngtcp2IdtrOpen_ok tracks.ok one.last.2 run).1
      rw [run]
      refine ⟨ok, tracks.server, fun n => ?_⟩
      rw [covers, tracks.covers]
      simp only [List.mem_append, List.mem_singleton, or_imp, forall_and, forall_eq, and_assoc, ne_comm]
    · rw [run]
      refine ⟨tracks.ok, tracks.server, fun n => ?_⟩
      rw [tracks.covers]
      simp only [List.mem_append, List.mem_singleton, or_imp, forall_and, forall_eq]
      constructor
      · rintro ⟨below, others⟩
        exact ⟨below, others, others id member⟩
      · rintro ⟨below, others, _⟩
        exact ⟨below, others⟩

-- the order of the gaps

theorem idtrOpenGap_ordered {q lo : Nat} {gaps gaps' : List Range} (ordered : Ordered lo gaps)
    (opened : idtrOpenGap q gaps = some gaps') :
    Ordered lo gaps' ↔ ¬ (0 < q ∧ Covers gaps (q - 1) ∧ ¬ Covers gaps (q + 1)) := by
  induction gaps generalizing lo gaps' with
  | nil => cases opened
  | cons g rest ih =>
    obtain ⟨lower, nonempty, tail⟩ := ordered
    have later (o : Nat) : Covers rest o → g.stop + 1 ≤ o := tail.lower
    simp only [idtrOpenGap] at opened
    simp only [covers_cons, Has]
    split_ifs at opened with below above at_ one
    · obtain ⟨gaps'', inner, rfl⟩ := Option.map_eq_some_iff.mp opened
      have found : Covers rest q := (idtrOpenGap_isSome tail.spaced).mp (by rw [inner]; rfl)
      have := later q found
      have same : Ordered lo (g :: gaps'') ↔ Ordered (g.stop + 1) gaps'' :=
        ⟨fun whole => whole.2.2, fun inner => ⟨lower, nonempty, inner⟩⟩
      rw [same, ih tail inner]
      have before : ¬ (g.begin ≤ q - 1 ∧ q - 1 < g.stop) := by omega
      have after : ¬ (g.begin ≤ q + 1 ∧ q + 1 < g.stop) := by omega
      simp only [before, after, false_or]
    · cases opened
      have whole : Ordered lo rest := tail.weaken (by omega)
      have before : ¬ Covers rest (q - 1) := fun covered => by have := later _ covered; omega
      simp only [whole, true_iff]
      rintro ⟨positive, here | covered, _⟩
      · omega
      · exact before covered
    · cases opened
      have whole : Ordered lo ({ g with begin := g.begin + 1 } :: rest) := by
        refine ⟨?_, ?_, tail⟩ <;> simp only [rangeLen] at * <;> omega
      have before : ¬ Covers rest (q - 1) := fun covered => by have := later _ covered; omega
      simp only [whole, true_iff]
      rintro ⟨positive, here | covered, _⟩
      · omega
      · exact before covered
    · cases opened
      have after : ¬ Covers rest (q + 1) := fun covered => by have := later _ covered; omega
      have split : Ordered lo ({ begin := g.begin, stop := q } :: { g with begin := q + 1 } :: rest) ↔ q + 1 < g.stop := by
        constructor
        · exact fun whole => whole.2.2.2.1
        · intro inside
          exact ⟨lower, by simp only []; omega, Nat.le_refl _, inside, tail⟩
      rw [split]
      constructor
      · rintro inside ⟨_, _, missing⟩
        exact missing (.inl (by omega))
      · intro kept
        by_contra short
        refine kept ⟨by omega, .inl (by omega), ?_⟩
        rintro (here | covered)
        · omega
        · exact after covered

theorem idtrOpenGap_keeps_empty {q : Nat} {gaps gaps' : List Range} (opened : idtrOpenGap q gaps = some gaps')
    {g : Range} (member : g ∈ gaps) (empty : g.begin = g.stop) : g ∈ gaps' := by
  induction gaps generalizing gaps' with
  | nil => cases member
  | cons g' rest ih =>
    simp only [idtrOpenGap] at opened
    split_ifs at opened with below above at_ one
    · obtain ⟨gaps'', inner, rfl⟩ := Option.map_eq_some_iff.mp opened
      rcases List.mem_cons.mp member with rfl | later
      · exact List.mem_cons_self
      · exact List.mem_cons_of_mem _ (ih inner later)
    all_goals
      cases opened
      have other : g ≠ g' := by
        rintro rfl
        omega
      have later : g ∈ rest := (List.mem_cons.mp member).resolve_left other
      simp [later]

theorem ordered_of_opened {q lo : Nat} {gaps gaps' : List Range} (spaced : Spaced lo gaps)
    (opened : idtrOpenGap q gaps = some gaps') (ordered : Ordered lo gaps') : Ordered lo gaps :=
  spaced.ordered fun _ member empty => ordered.nonempty (idtrOpenGap_keeps_empty opened member empty) empty

theorem seamless_concat (ids : List Nat) (id : Nat) :
    Seamless (ids ++ [id]) ↔ Seamless ids ∧ (id ∉ ids → id + 4 ∈ ids → id < 4 ∨ id - 4 ∈ ids) := by
  constructor
  · intro seamless
    refine ⟨fun before id' after split => ?_, seamless ids id [] rfl⟩
    exact seamless before id' (after ++ [id]) (by rw [split]; simp)
  · rintro ⟨earlier, last⟩ before id' after split
    rcases List.eq_nil_or_concat after with rfl | ⟨after, final, rfl⟩
    · obtain ⟨rfl, same⟩ := List.append_inj' split rfl
      obtain rfl : id = id' := by simpa using same
      exact last
    · apply earlier before id' after
      have both : ids ++ [id] = (before ++ id' :: after) ++ [final] := by
        rw [split]
        simp
      exact (List.append_inj' both rfl).1

theorem idtrAfter_ordered_iff (one : OneKind server kind ids) : Ordered 0 (idtrAfter server ids).gap ↔ Seamless ids := by
  induction ids using List.reverseRecOn with
  | nil =>
    have start : Ordered 0 (idtrAfter server []).gap := by simp [idtrAfter, ngtcp2IdtrInit, Ordered, uint64Max]
    simp only [start, true_iff]
    intro before id after split
    simp at split
  | append_singleton ids id ih =>
    have tracks := idtrAfter_tracks one.before
    rw [seamless_concat, ← ih one.before, idtrAfter_concat]
    unfold idtrOpenNext
    rcases tracks.open_cases one with ⟨missing, gap, opens, run⟩ | ⟨member, run⟩
    · rw [run]
      obtain ⟨alike, small⟩ := one.last
      -- the neighbours of the id are covered unless they have been opened
      have next : Covers (idtrAfter server ids).gap (idFromStreamId id + 1) ↔ id + 4 ∉ ids := by
        have same : idFromStreamId id + 1 = idFromStreamId (id + 4) := by
          unfold idFromStreamId
          omega
        rw [same]
        exact tracks.covers_iff one.before (by omega) (by omega)
      have previous (large : 4 ≤ id) : Covers (idtrAfter server ids).gap (idFromStreamId id - 1) ↔ id - 4 ∉ ids := by
        have same : idFromStreamId id - 1 = idFromStreamId (id - 4) := by
          unfold idFromStreamId
          omega
        rw [same]
        exact tracks.covers_iff one.before (by omega) (by omega)
      have positive : 0 < idFromStreamId id ↔ 4 ≤ id := by
        unfold idFromStreamId
        omega
      constructor
      · intro after
        have before := ordered_of_opened tracks.ok.spaced opens after
        have kept := (idtrOpenGap_ordered before opens).mp after
        refine ⟨before, fun _ opened => ?_⟩
        by_contra neither
        obtain ⟨large, gone⟩ := not_or.mp neither
        have large := Nat.le_of_not_lt large
        exact kept ⟨positive.mpr large, (previous large).mpr gone, fun covered => next.mp covered opened⟩
      · rintro ⟨before, step⟩
        apply (idtrOpenGap_ordered before opens).mpr
        rintro ⟨above, covered, cut⟩
        have large := positive.mp above
        rcases step missing (not_not.mp (next.not.mp cut)) with low | opened
        · omega
        · exact (previous large).mp covered opened
    · rw [run]
      simp [member]

def increasing (ids : List Nat) : List Nat := ids.toFinset.sort (· ≤ ·)

theorem mem_increasing {id : Nat} : id ∈ increasing ids ↔ id ∈ ids := by
  unfold increasing
  rw [Finset.mem_sort, List.mem_toFinset]

theorem increasing_seamless (ids : List Nat) : Seamless (increasing ids) := by
  intro before id after split _ opened
  have sorted : (increasing ids).Pairwise (· ≤ ·) := Finset.pairwise_sort _ _
  rw [split, List.pairwise_append] at sorted
  have := sorted.2.2 (id + 4) opened id List.mem_cons_self
  omega

/-- An id is accepted once. The list of gaps is the one of the set of opened ids exactly if they have been
opened seamlessly. -/
theorem idtr_refines_iff (server : Bool) (kind : Nat) (ids : List Nat) (one : OneKind server kind ids) :
    (∀ before id after, ids = before ++ id :: after →
      if id ∈ before then
        ngtcp2IdtrOpen (idtrAfter server before) id = .error .STREAM_IN_USE ∧
          idtrAfter server (before ++ [id]) = idtrAfter server before
      else ∃ idtr, ngtcp2IdtrOpen (idtrAfter server before) id = .ok idtr) ∧
    (∀ id, id % 4 = kind → id < varintBound → ngtcp2IdtrIsOpen (idtrAfter server ids) id = .ok (decide (id ∈ ids))) ∧
    (IsLeast {n | 4 * n + kind ∉ ids} (ngtcp2IdtrFirstGap (idtrAfter server ids)) ∧
        idtrAfter server ids = idtrAfter server (increasing ids) ↔ Seamless ids) := by
  refine ⟨fun before id after split => ?_, fun id alike small => ?_, ?_⟩
  · have one : OneKind server kind (before ++ [id]) := by
      have whole : OneKind server kind ((before ++ [id]) ++ after) := by
        rw [List.append_assoc]
        exact split ▸ one
      exact whole.before
    rw [idtrAfter_concat]
    unfold idtrOpenNext
    rcases (idtrAfter_tracks one.before).open_cases one with ⟨missing, gap, _, run⟩ | ⟨member, run⟩
    · rw [if_neg missing, run]
      exact ⟨_, rfl⟩
    · rw [if_pos member, run]
      exact ⟨rfl, rfl⟩
  · have tracks := idtrAfter_tracks one
    have asserted : idtrAssert (idtrAfter server ids) id = true :=
      idtrAssert_of_kind (fun client => one.tracked (tracks.server ▸ client)) alike
    have run : ngtcp2IdtrIsOpen (idtrAfter server ids) id =
        .ok (idtrIsOpenGap (idFromStreamId id) (idtrAfter server ids).gap) := by
      simp [ngtcp2IdtrIsOpen, asserted]
    have known := ngtcp2IdtrIsOpen_iff tracks.ok small run
    have opened : (idtrAfter server ids).Opened id ↔ id ∈ ids :=
      (tracks.covers_iff one alike (by omega)).not.trans not_not
    rw [run]
    congr 1
    rw [Bool.eq_iff_iff, known, opened, decide_eq_true_iff]
  · have sorted : OneKind server kind (increasing ids) :=
      ⟨one.tracked, fun id member => one.alike id (mem_increasing.mp member),
        fun id member => one.small id (mem_increasing.mp member)⟩
    have tracks := idtrAfter_tracks one
    have tracks' := idtrAfter_tracks sorted
    have canonical := (idtrAfter_ordered_iff sorted).mpr (increasing_seamless ids)
    constructor
    · rintro ⟨_, same⟩
      rwa [← idtrAfter_ordered_iff one, same]
    · intro seamless
      have ordered := (idtrAfter_ordered_iff one).mpr seamless
      refine ⟨Ordered.first_least ordered (fun n => ?_) ?_, ?_⟩
      · rw [tracks.covers]
        simp only [and_congr_right_iff]
        intro _
        constructor
        · intro others member
          have alike := one.alike _ member
          apply others _ member
          unfold idFromStreamId
          omega
        · rintro missing id member rfl
          apply missing
          have alike := one.alike id member
          unfold idFromStreamId
          rwa [show 4 * (id / 4) + kind = id by omega]
      · intro member
        have small := one.small _ member
        unfold uint64Max varintBound at small
        omega
      · have gaps : (idtrAfter server ids).gap = (idtrAfter server (increasing ids)).gap := by
          apply Ordered.ext ordered canonical
          intro n
          rw [tracks.covers, tracks'.covers]
          simp only [mem_increasing]
        have kinds : (idtrAfter server ids).server = (idtrAfter server (increasing ids)).server := by
          rw [tracks.server, tracks'.server]
        exact congrArg₂ Idtr.mk gaps kinds

theorem idtr_refines_iff_upwards :
    OneKind false 0 [0, 8, 4] ∧ Seamless [0, 8, 4] ∧ idtrAfter false [0, 8, 4] = idtrAfter false (increasing [0, 8, 4]) := by
  have one : OneKind false 0 [0, 8, 4] := ⟨by decide, by decide, by decide⟩
  have seamless : Seamless [0, 8, 4] := by
    have start : Seamless [] := fun before id after split => by simp at split
    have first := (seamless_concat [] 0).mpr ⟨start, by decide⟩
    have second := (seamless_concat [0] 8).mpr ⟨first, by decide⟩
    exact (seamless_concat [0, 8] 4).mpr ⟨second, by decide⟩
  exact ⟨one, seamless, ((idtr_refines_iff false 0 [0, 8, 4] one).2.2.mpr seamless).2⟩

/-- The ids 8, 4 and 0 are opened in this order. The tracker then says that the id 8 is the first one to come. -/
theorem idtr_downwards :
    OneKind false 0 [8, 4, 0] ∧ 4 * ngtcp2IdtrFirstGap (idtrAfter false [8, 4, 0]) ∈ [8, 4, 0] ∧
      idtrAfter false [8, 4, 0] ≠ idtrAfter false [0, 4, 8] :=
  ⟨⟨by decide, by decide, by decide⟩, by decide, by decide⟩

end Ids

end Ngtcp2
