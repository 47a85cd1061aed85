import Ngtcp2.Stream.Gaptr

namespace Ngtcp2

open Range

/-- `ngtcp2_idtr`: the indices of the peer's streams that have not been opened. -/
structure Idtr where
  gap : List Range
  server : Bool
  deriving DecidableEq, Repr

def ngtcp2IdtrInit (server : Bool) : Idtr :=
  { gap := [{ begin := 0, stop := uint64Max }], server := server }

def idFromStreamId (streamId : Nat) : Nat := streamId / 4

/-- The assertion of `ngtcp2_idtr_open`, with the precedence the source gives it. -/
def idtrAssert (idtr : Idtr) (streamId : Nat) : Bool :=
  (idtr.server && streamId % 2 != 0) || (!idtr.server && streamId % 2 != 0) == false

def idtrOpenGap (q : Nat) : List Range → Option (List Range)
  | [] => none
  | g :: rest =>
    if q < g.begin then none
    else if g.stop ≤ q then (idtrOpenGap q rest).map (g :: ·)
    else if q = g.begin then
      if rangeLen g = 1 then some rest
      else some ({ g with begin := g.begin + 1 } :: rest)
    else some ({ begin := g.begin, stop := q } :: { g with begin := q + 1 } :: rest)

def ngtcp2IdtrOpen (idtr : Idtr) (streamId : Nat) : Except Err Idtr :=
  if !idtrAssert idtr streamId then .error .ABORT
  else
    match idtrOpenGap (idFromStreamId streamId) idtr.gap with
    | some gap => .ok { idtr with gap := gap }
    | none => .error .STREAM_IN_USE

def idtrIsOpenGap (q : Nat) : List Range → Bool
  | [] => false
  | g :: rest =>
    if q < g.begin then true
    else if g.stop ≤ q then idtrIsOpenGap q rest
    else false

def ngtcp2IdtrIsOpen (idtr : Idtr) (streamId : Nat) : Except Err Bool :=
  if !idtrAssert idtr streamId then .error .ABORT
  else .ok (idtrIsOpenGap (idFromStreamId streamId) idtr.gap)

def ngtcp2IdtrFirstGap (idtr : Idtr) : Nat := first uint64Max idtr.gap

theorem idtrOpenGap_isSome {q lo : Nat} {gaps : List Range} (spaced : Spaced lo gaps) :
    (idtrOpenGap q gaps).isSome ↔ Covers gaps q := by
  induction gaps generalizing lo with
  | nil => simp [idtrOpenGap]
  | cons g rest ih =>
    have tail := ih spaced.2.2
    have later := fun covered => spaced.2.2.lower (o := q) covered
    have nonempty := spaced.2.1
    simp only [idtrOpenGap, covers_cons, Has]
    split_ifs with below above at_ one
    · simp only [Option.isSome_none, Bool.false_eq_true, false_iff]
      rintro (here | covered)
      · omega
      · have := later covered
        omega
    · rw [Option.isSome_map, tail]
      constructor
      · exact Or.inr
      · rintro (here | covered)
        · omega
        · exact covered
    · simp only [Option.isSome_some, true_iff]
      omega
    · simp only [Option.isSome_some, true_iff]
      omega
    · simp only [Option.isSome_some, true_iff]
      omega

theorem idtrOpenGap_spaced {q lo : Nat} {gaps gaps' : List Range} (spaced : Spaced lo gaps)
    (opened : idtrOpenGap q gaps = some gaps') : Spaced lo gaps' := by
  induction gaps generalizing lo gaps' with
  | nil => simp [idtrOpenGap] at opened
  | cons g rest ih =>
    obtain ⟨lower, nonempty, tail⟩ := spaced
    simp only [idtrOpenGap] at opened
    split_ifs at opened with below above at_ one
    · obtain ⟨gaps'', inner, rfl⟩ := Option.map_eq_some_iff.mp opened
      exact ⟨lower, nonempty, ih tail inner⟩
    · cases opened
      exact tail.weaken (by omega)
    · cases opened
      refine ⟨?_, ?_, tail⟩ <;> simp only [rangeLen] at * <;> omega
    · cases opened
      refine ⟨lower, ?_, ?_, ?_, tail⟩ <;> simp only [] <;> omega

theorem idtrOpenGap_covers {q lo : Nat} {gaps gaps' : List Range} (spaced : Spaced lo gaps)
    (opened : idtrOpenGap q gaps = some gaps') (o : Nat) :
    Covers gaps' o ↔ Covers gaps o ∧ o ≠ q := by
  induction gaps generalizing lo gaps' with
  | nil => simp [idtrOpenGap] at opened
  | cons g rest ih =>
    obtain ⟨lower, nonempty, tail⟩ := spaced
    have later := fun covered => tail.lower (o := o) covered
    simp only [idtrOpenGap] at opened
    split_ifs at opened with below above at_ one
    · obtain ⟨gaps'', inner, rfl⟩ := Option.map_eq_some_iff.mp opened
      rw [covers_cons, covers_cons, ih tail inner]
      unfold Has
      constructor
      · rintro (here | ⟨covered, differ⟩)
        · exact ⟨Or.inl here, by omega⟩
        · exact ⟨Or.inr covered, differ⟩
      · rintro ⟨here | covered, differ⟩
        · exact Or.inl here
        · exact Or.inr ⟨covered, differ⟩
    · cases opened
      unfold rangeLen at one
      rw [covers_cons]
      unfold Has
      constructor
      · intro covered
        have := later covered
        exact ⟨Or.inr covered, by omega⟩
      · rintro ⟨here | covered, differ⟩
        · omega
        · exact covered
    all_goals
      cases opened
      simp only [covers_cons, Has]
      constructor
    · rintro (here | covered)
      · exact ⟨Or.inl (by omega), by omega⟩
      · have := later covered
        exact ⟨Or.inr covered, by omega⟩
    · rintro ⟨here | covered, differ⟩
      · exact Or.inl (by omega)
      · exact Or.inr covered
    · rintro (here | here | covered)
      · exact ⟨Or.inl (by omega), by omega⟩
      · exact ⟨Or.inl (by omega), by omega⟩
      · have := later covered
        exact ⟨Or.inr covered, by omega⟩
    · rintro ⟨here | covered, differ⟩
      · by_cases side : o < q
        · exact Or.inl (by omega)
        · exact Or.inr (Or.inl (by omega))
      · exact Or.inr (Or.inr covered)

theorem idtrIsOpenGap_iff {q lo top : Nat} {gaps : List Range} (spaced : Spaced lo gaps)
    (above : Covers gaps top) (below : q ≤ top) :
    idtrIsOpenGap q gaps ↔ ¬ Covers gaps q := by
  induction gaps generalizing lo with
  | nil => exact absurd above (covers_nil top)
  | cons g rest ih =>
    obtain ⟨lower, nonempty, tail⟩ := spaced
    have later := fun covered => tail.lower (o := q) covered
    simp only [idtrIsOpenGap, covers_cons, Has]
    split_ifs with before after
    · simp only [true_iff]
      rintro (here | covered)
      · omega
      · have := later covered
        omega
    · have rest_above : Covers rest top := by
        rcases (covers_cons g rest top).mp above with here | covered
        · unfold Has at here
          omega
        · exact covered
      rw [ih tail rest_above, not_iff_not]
      constructor
      · exact Or.inr
      · rintro (here | covered)
        · omega
        · exact covered
    · simp only [false_iff, not_not]
      omega

def Idtr.Opened (idtr : Idtr) (streamId : Nat) : Prop :=
  ¬ Covers idtr.gap (idFromStreamId streamId)

structure Idtr.Ok (idtr : Idtr) : Prop where
  spaced : Spaced 0 idtr.gap
  above : Covers idtr.gap varintBound

theorem ngtcp2IdtrInit_ok (server : Bool) : (ngtcp2IdtrInit server).Ok := by
  refine ⟨?_, ?_⟩
  · simp [ngtcp2IdtrInit, Spaced]
  · simp [ngtcp2IdtrInit, Has, varintBound, uint64Max]

theorem idFromStreamId_lt {streamId : Nat} (bound : streamId < varintBound) :
    idFromStreamId streamId < varintBound := by
  unfold idFromStreamId
  omega

theorem ngtcp2IdtrOpen_ok {idtr idtr' : Idtr} {streamId : Nat} (ok : idtr.Ok)
    (bound : streamId < varintBound) (run : ngtcp2IdtrOpen idtr streamId = .ok idtr') :
    idtr'.Ok ∧ idtr'.server = idtr.server ∧ ¬ idtr.Opened streamId ∧
      ∀ id, idtr'.Opened id ↔ idtr.Opened id ∨ idFromStreamId id = idFromStreamId streamId := by
  unfold ngtcp2IdtrOpen at run
  split_ifs at run
  cases opened : idtrOpenGap (idFromStreamId streamId) idtr.gap with
  | none => simp [opened] at run
  | some gap =>
    simp only [opened, Except.ok.injEq] at run
    subst run
    have fresh := (idtrOpenGap_isSome ok.spaced).mp (by rw [opened]; rfl)
    have covers := idtrOpenGap_covers ok.spaced opened
    have differ : varintBound ≠ idFromStreamId streamId := Nat.ne_of_gt (idFromStreamId_lt bound)
    refine ⟨⟨idtrOpenGap_spaced ok.spaced opened, (covers _).mpr ⟨ok.above, differ⟩⟩, rfl,
      not_not.mpr fresh, fun id => ?_⟩
    unfold Idtr.Opened
    rw [covers, not_and_or, not_not]

theorem ngtcp2IdtrOpen_inUse {idtr : Idtr} {streamId : Nat} (ok : idtr.Ok)
    (run : ngtcp2IdtrOpen idtr streamId = .error .STREAM_IN_USE) : idtr.Opened streamId := by
  unfold ngtcp2IdtrOpen at run
  split_ifs at run
  · simp at run
  intro covered
  have found := (idtrOpenGap_isSome ok.spaced).mpr covered
  obtain ⟨gap, opened⟩ := Option.isSome_iff_exists.mp found
  simp [opened] at run

theorem ngtcp2IdtrIsOpen_iff {idtr : Idtr} {streamId : Nat} {b : Bool} (ok : idtr.Ok)
    (bound : streamId < varintBound) (run : ngtcp2IdtrIsOpen idtr streamId = .ok b) :
    b = true ↔ idtr.Opened streamId := by
  unfold ngtcp2IdtrIsOpen at run
  split_ifs at run
  cases run
  exact idtrIsOpenGap_iff ok.spaced ok.above (Nat.le_of_lt (idFromStreamId_lt bound))

theorem ngtcp2IdtrOpen_of_closed {idtr : Idtr} {streamId : Nat} (ok : idtr.Ok)
    (bound : streamId < varintBound) (run : ngtcp2IdtrIsOpen idtr streamId = .ok false) :
    ∃ idtr', ngtcp2IdtrOpen idtr streamId = .ok idtr' := by
  have closed : ¬ idtr.Opened streamId := fun opened =>
    Bool.false_ne_true ((ngtcp2IdtrIsOpen_iff ok bound run).mpr opened)
  obtain ⟨gap, opens⟩ := Option.isSome_iff_exists.mp
    ((idtrOpenGap_isSome ok.spaced).mpr (not_not.mp closed))
  unfold ngtcp2IdtrIsOpen at run
  unfold ngtcp2IdtrOpen
  split_ifs at run ⊢ with asserted
  exact ⟨_, by rw [opens]⟩

end Ngtcp2
