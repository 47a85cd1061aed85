import Ngtcp2.Stream.Gaptr

namespace Ngtcp2

open Range

/-- `ngtcp2_rob_data`: one chunk of buffered bytes. A byte of fresh memory counts as zero. -/
structure RobData where
  offset : Nat
  bytes : Nat → UInt8

structure Rob where
  gap : List Range
  data : List RobData
  chunk : Nat

def ngtcp2RobInit (chunk : Nat) : Rob :=
  { gap := [{ begin := 0, stop := uint64Max }], data := [], chunk := chunk }

def robDataNew (chunk offset : Nat) : RobData :=
  { offset := offset / chunk * chunk, bytes := fun _ => 0 }

def copyBytes (bytes : Nat → UInt8) (start : Nat) (src : List UInt8) : Nat → UInt8 := fun i =>
  if start ≤ i ∧ i < start + src.length then src.getD (i - start) 0 else bytes i

/-- A chunk has to be inserted before the first of `ds` to hold `offset`. -/
def robInsert (chunk offset : Nat) : List RobData → List RobData
  | [] => [robDataNew chunk offset]
  | d :: rest => if offset < d.offset then robDataNew chunk offset :: d :: rest else d :: rest

/-- Every round of the loop passes a chunk or stores a byte, so that the number of chunks and
bytes bounds the rounds. -/
def robWriteData (chunk : Nat) : Nat → List RobData → Nat → List UInt8 → List RobData
  | 0, ds, _, _ => ds
  | rounds + 1, ds, offset, data =>
    match robInsert chunk offset ds with
    | [] => []
    | d :: rest =>
      if d.offset + chunk < offset then d :: robWriteData chunk rounds rest offset data
      else
        let n := min data.length (d.offset + chunk - offset)
        let d := { d with bytes := copyBytes d.bytes (offset - d.offset) (data.take n) }
        if data.length - n = 0 then d :: rest
        else d :: robWriteData chunk rounds rest (offset + n) (data.drop n)

/-- The part `m` of the data at `offset`. -/
def robWritePart (chunk offset : Nat) (data : List UInt8) (m : Range) (ds : List RobData) :
    List RobData :=
  robWriteData chunk (ds.length + rangeLen m) ds m.begin
    ((data.drop (m.begin - offset)).take (rangeLen m))

def ngtcp2RobPush (rob : Rob) (offset : Nat) (data : List UInt8) : Rob :=
  let q : Range := { begin := offset, stop := add64 offset data.length }
  let (gap, ds) := pushGaps (robWritePart rob.chunk offset data) q rob.gap rob.data
  { rob with gap := gap, data := ds }

def removeGaps (offset : Nat) : List Range → List Range
  | [] => []
  | g :: rest =>
    if offset ≤ g.begin then g :: rest
    else if offset < g.stop then { g with begin := offset } :: rest
    else removeGaps offset rest

def removeChunks (chunk offset : Nat) : List RobData → List RobData
  | [] => []
  | d :: rest =>
    if offset ≤ d.offset then d :: rest
    else if offset < d.offset + chunk then d :: rest
    else removeChunks chunk offset rest

def ngtcp2RobRemovePrefix (rob : Rob) (offset : Nat) : Rob :=
  { rob with gap := removeGaps offset rob.gap, data := removeChunks rob.chunk offset rob.data }

def ngtcp2RobDataAt (rob : Rob) (offset : Nat) : Except Err (List UInt8) :=
  match rob.gap with
  | [] => .error .ABORT
  | g :: _ =>
    if g.begin ≤ offset then .ok []
    else
      match rob.data with
      | [] => .error .ABORT
      | d :: _ =>
        if ¬ d.offset ≤ offset then .error .ABORT
        else if ¬ offset < d.offset + rob.chunk then .error .ABORT
        else
          let len := min g.begin (d.offset + rob.chunk) - offset
          .ok ((List.range len).map fun i => d.bytes (offset - d.offset + i))

def ngtcp2RobPop (rob : Rob) (offset len : Nat) : Except Err Rob :=
  match rob.data with
  | [] => .error .ABORT
  | d :: rest =>
    if offset + len < d.offset + rob.chunk then .ok rob
    else .ok { rob with data := rest }

def ngtcp2RobFirstGapOffset (rob : Rob) : Nat := first uint64Max rob.gap

def byteAt (chunk : Nat) : List RobData → Nat → Option UInt8
  | [], _ => none
  | d :: rest, o =>
    if d.offset ≤ o ∧ o < d.offset + chunk then some (d.bytes (o - d.offset))
    else byteAt chunk rest o

/-- Chunks start at multiples of the chunk size, in increasing order from `lo` on. -/
def Chunked (chunk : Nat) : Nat → List RobData → Prop
  | _, [] => True
  | lo, d :: rest => lo ≤ d.offset ∧ chunk ∣ d.offset ∧ Chunked chunk (d.offset + chunk) rest

theorem Chunked.weaken {chunk lo lo' : Nat} {ds : List RobData} (h : Chunked chunk lo ds)
    (le : lo' ≤ lo) : Chunked chunk lo' ds := by
  cases ds with
  | nil => trivial
  | cons d rest => exact ⟨Nat.le_trans le h.1, h.2⟩

theorem Chunked.lower {chunk lo : Nat} {ds : List RobData} (h : Chunked chunk lo ds) {d : RobData}
    (member : d ∈ ds) : lo ≤ d.offset := by
  induction ds generalizing lo with
  | nil => exact absurd member List.not_mem_nil
  | cons head rest ih =>
    rcases List.mem_cons.mp member with rfl | later
    · exact h.1
    · have tail := ih h.2.2 later
      have := h.1
      omega

theorem Chunked.byteAt_lower {chunk lo o : Nat} {ds : List RobData} (h : Chunked chunk lo ds)
    (below : o < lo) : byteAt chunk ds o = none := by
  induction ds generalizing lo with
  | nil => rfl
  | cons d rest ih =>
    have first := h.1
    simp only [byteAt]
    rw [if_neg (by omega)]
    exact ih h.2.2 (by omega)

theorem chunkStart_bounds {chunk : Nat} (positive : 0 < chunk) (offset : Nat) :
    offset / chunk * chunk ≤ offset ∧ offset < offset / chunk * chunk + chunk := by
  have split := Nat.div_add_mod offset chunk
  have below := Nat.mod_lt offset positive
  rw [Nat.mul_comm] at split
  omega

theorem chunkStart_lower {chunk lo offset : Nat} (aligned : chunk ∣ lo) (le : lo ≤ offset) :
    lo ≤ offset / chunk * chunk := by
  obtain ⟨k, rfl⟩ := aligned
  rcases Nat.eq_zero_or_pos chunk with rfl | positive
  · simp
  · rw [Nat.mul_comm chunk k] at *
    exact Nat.mul_le_mul_right chunk ((Nat.le_div_iff_mul_le positive).mpr le)

theorem chunkStart_upper {chunk hi offset : Nat} (positive : 0 < chunk) (aligned : chunk ∣ hi)
    (lt : offset < hi) : offset / chunk * chunk + chunk ≤ hi := by
  obtain ⟨k, rfl⟩ := aligned
  have less : offset / chunk < k := (Nat.div_lt_iff_lt_mul positive).mpr (Nat.mul_comm chunk k ▸ lt)
  have := Nat.mul_le_mul_right chunk less
  rw [Nat.succ_mul] at this
  rw [Nat.mul_comm chunk k]
  exact this

theorem robInsert_cases {chunk lo offset : Nat} {ds : List RobData} (positive : 0 < chunk)
    (chunked : Chunked chunk lo ds) (aligned : chunk ∣ lo) (lower : lo ≤ offset) :
    ∃ d rest, robInsert chunk offset ds = d :: rest ∧ Chunked chunk lo (d :: rest) ∧
      d.offset ≤ offset ∧
      (ds = d :: rest ∨ d = robDataNew chunk offset ∧ rest = ds) := by
  have bounds := chunkStart_bounds positive offset
  have from_lo : lo ≤ (robDataNew chunk offset).offset := chunkStart_lower aligned lower
  have multiple : chunk ∣ (robDataNew chunk offset).offset := Nat.dvd_mul_left _ _
  cases ds with
  | nil => exact ⟨_, [], rfl, ⟨from_lo, multiple, trivial⟩, bounds.1, Or.inr ⟨rfl, rfl⟩⟩
  | cons d rest =>
    simp only [robInsert]
    split_ifs with before
    · have gap := chunkStart_upper positive chunked.2.1 before
      exact ⟨_, _, rfl, ⟨from_lo, multiple, gap, chunked.2⟩, bounds.1, Or.inr ⟨rfl, rfl⟩⟩
    · exact ⟨_, _, rfl, chunked, Nat.le_of_not_lt before, Or.inl rfl⟩

theorem byteAt_copy {chunk : Nat} (d : RobData) (rest : List RobData) (start : Nat)
    (src : List UInt8) (o : Nat) :
    byteAt chunk ({ d with bytes := copyBytes d.bytes start src } :: rest) o =
      if d.offset + start ≤ o ∧ o < d.offset + start + src.length ∧ o < d.offset + chunk then
        src[o - (d.offset + start)]?
      else byteAt chunk (d :: rest) o := by
  simp only [byteAt, copyBytes]
  split_ifs <;> first | rfl | omega | skip
  rw [List.getD_eq_getElem?_getD, Nat.sub_sub, List.getElem?_eq_getElem (by omega)]
  rfl

theorem robInsert_keeps {chunk lo : Nat} {ds : List RobData} {d : RobData} {rest : List RobData}
    (chunked : Chunked chunk lo (d :: rest)) (inserted : ds = d :: rest ∨ rest = ds) {o : Nat}
    {b : UInt8} (held : byteAt chunk ds o = some b) : byteAt chunk (d :: rest) o = some b := by
  rcases inserted with rfl | rfl
  · exact held
  · simp only [byteAt]
    split_ifs with inside
    · rw [chunked.2.2.byteAt_lower inside.2] at held
      cases held
    · exact held

structure Written (chunk lo : Nat) (ds : List RobData) (offset : Nat) (data : List UInt8)
    (ds' : List RobData) : Prop where
  chunked : Chunked chunk lo ds'
  stored : ∀ o, offset ≤ o → o < offset + data.length →
    byteAt chunk ds' o = data[o - offset]?
  kept : ∀ o b, ¬ (offset ≤ o ∧ o < offset + data.length) → byteAt chunk ds o = some b →
    byteAt chunk ds' o = some b
  origin : ∀ d ∈ ds', (∃ d₀ ∈ ds, d₀.offset = d.offset) ∨
    offset < d.offset + chunk ∧ d.offset < offset + data.length

theorem Written.of_insert {chunk lo offset : Nat} {ds rest ds' : List RobData} {d : RobData}
    {data : List UInt8} (positive : 0 < chunk) (some : 0 < data.length) (sorted : Chunked chunk lo (d :: rest))
    (inserted : ds = d :: rest ∨ d = robDataNew chunk offset ∧ rest = ds)
    (written : Written chunk lo (d :: rest) offset data ds') :
    Written chunk lo ds offset data ds' := by
  refine ⟨written.chunked, written.stored, fun o b outside held => ?_, fun e member => ?_⟩
  · exact written.kept o b outside (robInsert_keeps sorted (inserted.imp_right And.right) held)
  · rcases written.origin e member with ⟨d₀, member₀, same⟩ | beyond
    · rcases inserted with rfl | ⟨rfl, rfl⟩
      · exact Or.inl ⟨d₀, member₀, same⟩
      · rcases List.mem_cons.mp member₀ with rfl | later
        · have bounds := chunkStart_bounds positive offset
          refine Or.inr (same ▸ ⟨bounds.2, ?_⟩)
          change offset / chunk * chunk < _
          omega
        · exact Or.inl ⟨d₀, later, same⟩
    · exact Or.inr beyond

theorem Written.pass {chunk lo offset : Nat} {rest ds' : List RobData} {d : RobData}
    {data : List UInt8} (sorted : Chunked chunk lo (d :: rest)) (before : d.offset + chunk < offset)
    (inner : Written chunk (d.offset + chunk) rest offset data ds') :
    Written chunk lo (d :: rest) offset data (d :: ds') := by
  refine ⟨⟨sorted.1, sorted.2.1, inner.chunked⟩, fun o lower upper => ?_, fun o b outside held => ?_,
    fun e member => ?_⟩
  · simp only [byteAt]
    rw [if_neg (by omega)]
    exact inner.stored o lower upper
  · simp only [byteAt] at held ⊢
    split_ifs at held ⊢
    · exact held
    · exact inner.kept o b outside held
  · rcases List.mem_cons.mp member with rfl | later
    · exact Or.inl ⟨e, List.mem_cons_self, rfl⟩
    · rcases inner.origin e later with ⟨d₀, member₀, same⟩ | beyond
      · exact Or.inl ⟨d₀, List.mem_cons_of_mem _ member₀, same⟩
      · exact Or.inr beyond

theorem Written.copy {chunk lo offset n : Nat} {rest ds' : List RobData} {d : RobData}
    {data : List UInt8} (sorted : Chunked chunk lo (d :: rest)) (before : d.offset ≤ offset)
    (amount : n ≤ data.length) (fits : offset + n ≤ d.offset + chunk)
    (full : data.length = n ∨ offset + n = d.offset + chunk)
    (chunked : Chunked chunk (d.offset + chunk) ds')
    (stored : ∀ o, offset + n ≤ o → o < offset + data.length →
      byteAt chunk ds' o = data[o - offset]?)
    (kept : ∀ o b, ¬ (offset + n ≤ o ∧ o < offset + data.length) → byteAt chunk rest o = some b →
      byteAt chunk ds' o = some b)
    (origin : ∀ e ∈ ds', (∃ d₀ ∈ rest, d₀.offset = e.offset) ∨
      offset + n < e.offset + chunk ∧ e.offset < offset + data.length) :
    Written chunk lo (d :: rest) offset data
      ({ d with bytes := copyBytes d.bytes (offset - d.offset) (data.take n) } :: ds') := by
  have start : d.offset + (offset - d.offset) = offset := by omega
  have len : (data.take n).length = n := by simp [amount]
  refine ⟨⟨sorted.1, sorted.2.1, chunked⟩, fun o lower upper => ?_, fun o b outside held => ?_,
    fun e member => ?_⟩
  · rw [byteAt_copy, start, len]
    split_ifs with inside
    · rw [List.getElem?_take_of_lt (by omega)]
    · simp only [byteAt]
      rw [if_neg (by omega)]
      exact stored o (by omega) upper
  · rw [byteAt_copy, start, len, if_neg (by omega)]
    simp only [byteAt] at held ⊢
    split_ifs at held ⊢
    · exact held
    · exact kept o b (by omega) held
  · rcases List.mem_cons.mp member with rfl | later
    · exact Or.inl ⟨d, List.mem_cons_self, rfl⟩
    · rcases origin e later with ⟨d₀, member₀, same⟩ | beyond
      · exact Or.inl ⟨d₀, List.mem_cons_of_mem _ member₀, same⟩
      · exact Or.inr (by omega)

theorem robWriteData_written {chunk : Nat} (positive : 0 < chunk) (rounds : Nat) {lo : Nat}
    {ds : List RobData} {offset : Nat} {data : List UInt8} (chunked : Chunked chunk lo ds)
    (aligned : chunk ∣ lo) (lower : lo ≤ offset) (nonempty : data ≠ [])
    (enough : ds.length + data.length ≤ rounds) :
    Written chunk lo ds offset data (robWriteData chunk rounds ds offset data) := by
  induction rounds generalizing lo ds offset data with
  | zero =>
    have := List.length_pos_of_ne_nil nonempty
    omega
  | succ rounds ih =>
    have positive_data := List.length_pos_of_ne_nil nonempty
    obtain ⟨d, rest, found, sorted, before, inserted⟩ :=
      robInsert_cases positive chunked aligned lower
    refine Written.of_insert positive positive_data sorted inserted ?_
    have inside := (chunkStart_bounds positive offset).2
    have next_aligned : chunk ∣ d.offset + chunk := Nat.dvd_add sorted.2.1 (Nat.dvd_refl chunk)
    -- a round that stores nothing has passed a chunk of the list
    have fewer (stored : Nat) (some_round : ds = d :: rest ∨ 0 < stored)
        (le : stored ≤ data.length) : rest.length + (data.length - stored) ≤ rounds := by
      rcases inserted with rfl | ⟨_, rfl⟩
      · simp only [List.length_cons] at enough
        omega
      · rcases some_round with same | some_byte
        · have := congrArg List.length same
          simp at this
        · omega
    simp only [robWriteData, found]
    split_ifs with behind done
    · have listed : ds = d :: rest := by
        rcases inserted with listed | ⟨rfl, _⟩
        · exact listed
        · simp only [robDataNew] at behind
          omega
      exact Written.pass sorted behind
        (ih sorted.2.2 next_aligned (Nat.le_of_lt behind) nonempty (fewer 0 (Or.inl listed) (by omega)))
    · exact Written.copy sorted before (by omega) (by omega) (by omega) sorted.2.2
        (fun o _ _ => by omega) (fun o b _ held => held)
        (fun e member => Or.inl ⟨e, member, rfl⟩)
    · have short : min data.length (d.offset + chunk - offset) = d.offset + chunk - offset := by
        omega
      have progress : ds = d :: rest ∨ 0 < d.offset + chunk - offset := by
        rcases inserted with listed | ⟨rfl, _⟩
        · exact Or.inl listed
        · right
          simp only [robDataNew]
          omega
      have remaining : (data.drop (d.offset + chunk - offset)).length =
          data.length - (d.offset + chunk - offset) := List.length_drop
      have more : data.drop (d.offset + chunk - offset) ≠ [] := by
        intro none_left
        rw [none_left] at remaining
        simp only [List.length_nil] at remaining
        omega
      have inner : Written chunk (d.offset + chunk) rest (offset + (d.offset + chunk - offset))
          (data.drop (d.offset + chunk - offset)) _ :=
        ih sorted.2.2 next_aligned (by omega) more (by rw [remaining]; exact fewer _ progress (by omega))
      rw [short] at done ⊢
      refine Written.copy sorted before (by omega) (by omega) (by omega) inner.chunked
        (fun o from_ upto => ?_) (fun o b outside held => ?_)
        fun e member => (inner.origin e member).imp_right fun near => ⟨near.1, by omega⟩
      · rw [inner.stored o from_ (by omega), List.getElem?_drop]
        congr 1
        omega
      · exact inner.kept o b (by omega) held

theorem robWritePart_written {chunk offset : Nat} {data : List UInt8} {m : Range}
    {ds : List RobData} (positive : 0 < chunk) (chunked : Chunked chunk 0 ds)
    (nonempty : m.begin < m.stop) (lower : offset ≤ m.begin)
    (upper : m.stop ≤ offset + data.length) :
    Written chunk 0 ds m.begin ((data.drop (m.begin - offset)).take (rangeLen m))
      (robWritePart chunk offset data m ds) := by
  have len : ((data.drop (m.begin - offset)).take (rangeLen m)).length = rangeLen m := by
    simp only [List.length_take, List.length_drop, rangeLen]
    omega
  refine robWriteData_written positive _ chunked (Nat.dvd_zero chunk) (Nat.zero_le _) ?_
    (by rw [len])
  intro empty
  rw [empty] at len
  simp only [List.length_nil, rangeLen] at len
  omega

theorem writeParts_spec {chunk : Nat} (positive : 0 < chunk) (offset : Nat) (data : List UInt8)
    (parts : List Range) {ds : List RobData} (chunked : Chunked chunk 0 ds)
    (within : ∀ m ∈ parts, m.begin < m.stop ∧ offset ≤ m.begin ∧ m.stop ≤ offset + data.length) :
    Chunked chunk 0 (parts.foldl (fun ds m => robWritePart chunk offset data m ds) ds) ∧
    (∀ o, Covers parts o →
      byteAt chunk (parts.foldl (fun ds m => robWritePart chunk offset data m ds) ds) o =
        data[o - offset]?) ∧
    (∀ o b, ¬ Covers parts o → byteAt chunk ds o = some b →
      byteAt chunk (parts.foldl (fun ds m => robWritePart chunk offset data m ds) ds) o = some b) ∧
    (∀ d ∈ parts.foldl (fun ds m => robWritePart chunk offset data m ds) ds,
      (∃ d₀ ∈ ds, d₀.offset = d.offset) ∨
        ∃ m ∈ parts, m.begin < d.offset + chunk ∧ d.offset < offset + data.length) := by
  induction parts generalizing ds with
  | nil =>
    refine ⟨chunked, fun o covered => absurd covered (covers_nil o), fun o b _ held => held, ?_⟩
    exact fun d member => Or.inl ⟨d, member, rfl⟩
  | cons m parts ih =>
    obtain ⟨nonempty, lower, upper⟩ := within m List.mem_cons_self
    have first := robWritePart_written positive chunked nonempty lower upper
    obtain ⟨sorted, stored, kept, origin⟩ :=
      ih first.chunked fun m' member => within m' (List.mem_cons_of_mem _ member)
    have here (o : Nat) (has : m.Has o) :
        byteAt chunk (robWritePart chunk offset data m ds) o = data[o - offset]? := by
      unfold Has at has
      rw [first.stored o has.1
        (by simp only [List.length_take, List.length_drop, rangeLen]; omega),
        List.getElem?_take_of_lt (by unfold rangeLen; omega), List.getElem?_drop]
      congr 1
      omega
    refine ⟨sorted, fun o covered => ?_, fun o b outside held => ?_, fun d member => ?_⟩
    · by_cases later : Covers parts o
      · exact stored o later
      · have has : m.Has o := ((covers_cons m parts o).mp covered).resolve_right later
        have inside : o - offset < data.length := by
          unfold Has at has
          omega
        rw [List.getElem?_eq_getElem inside]
        refine kept o _ later ?_
        rw [here o has, List.getElem?_eq_getElem inside]
    · rw [covers_cons, not_or] at outside
      refine kept o b outside.2 (first.kept o b ?_ held)
      have not_here := outside.1
      unfold Has at not_here
      simp only [List.length_take, List.length_drop, rangeLen]
      omega
    · rcases origin d member with ⟨d₀, member₀, same⟩ | ⟨m', member', before⟩
      · rcases first.origin d₀ member₀ with ⟨d₁, member₁, same₁⟩ | beyond
        · exact Or.inl ⟨d₁, member₁, same₁.trans same⟩
        · refine Or.inr ⟨m, List.mem_cons_self, same ▸ beyond.1, ?_⟩
          have near := beyond.2
          simp only [List.length_take, List.length_drop, rangeLen] at near
          omega
      · exact Or.inr ⟨m', List.mem_cons_of_mem _ member', before⟩

/-- The purpose of the buffer: it holds the bytes `content` of the offsets `got` that lie at or
after the read position `rd`. -/
structure Rob.Holds (rob : Rob) (got : Nat → Prop) (content : Nat → UInt8) (rd : Nat) : Prop where
  positive : 0 < rob.chunk
  ordered : Ordered rd rob.gap
  gaps : ∀ o, Covers rob.gap o ↔ rd ≤ o ∧ o < uint64Max ∧ ¬ got o
  bounded : ∀ o, got o → o < 2 * varintBound
  reach : rd ≤ 2 * varintBound
  chunked : Chunked rob.chunk 0 rob.data
  live : ∀ d ∈ rob.data, rd < d.offset + rob.chunk
  used : ∀ d ∈ rob.data, ∃ o, got o ∧ d.offset ≤ o
  stored : ∀ o, rd ≤ o → got o → byteAt rob.chunk rob.data o = some (content o)

theorem ngtcp2RobInit_holds {chunk : Nat} (positive : 0 < chunk) (content : Nat → UInt8) :
    (ngtcp2RobInit chunk).Holds (fun _ => False) content 0 where
  positive := positive
  ordered := by simp [ngtcp2RobInit, Ordered, uint64Max]
  gaps := by simp [ngtcp2RobInit, Has]
  bounded := by simp
  reach := Nat.zero_le _
  chunked := trivial
  live := by simp [ngtcp2RobInit]
  used := by simp [ngtcp2RobInit]
  stored := by simp

section Holds

variable {rob : Rob} {got : Nat → Prop} {content : Nat → UInt8} {rd : Nat}

theorem Rob.Holds.top_covered (holds : rob.Holds got content rd) :
    Covers rob.gap (2 * varintBound) :=
  (holds.gaps _).mpr ⟨holds.reach, by decide, fun has => by
    have := holds.bounded _ has
    omega⟩

theorem Rob.Holds.firstGap (holds : rob.Holds got content rd) :
    rd ≤ ngtcp2RobFirstGapOffset rob ∧ ngtcp2RobFirstGapOffset rob ≤ 2 * varintBound ∧
      ¬ got (ngtcp2RobFirstGapOffset rob) ∧
      ∀ o, rd ≤ o → o < ngtcp2RobFirstGapOffset rob → got o := by
  have top := holds.top_covered
  obtain ⟨lower, _, missing⟩ := (holds.gaps _).mp (holds.ordered.first_covered uint64Max top)
  have upper := holds.ordered.first_le uint64Max top
  refine ⟨lower, upper, missing, fun o from_ below => ?_⟩
  by_contra absent
  have covered := (holds.gaps o).mpr ⟨from_, by
    unfold ngtcp2RobFirstGapOffset at below
    unfold varintBound at upper
    unfold uint64Max at *
    omega, absent⟩
  have := holds.ordered.first_le uint64Max covered
  unfold ngtcp2RobFirstGapOffset at below
  omega

theorem ngtcp2RobPush_eq (rob : Rob) {offset : Nat} {data : List UInt8}
    (bound : offset + data.length ≤ 2 * varintBound) :
    ngtcp2RobPush rob offset data =
      { gap := (pushGaps (robWritePart rob.chunk offset data) ⟨offset, offset + data.length⟩ rob.gap rob.data).1
        data := (closedParts ⟨offset, offset + data.length⟩ rob.gap).foldl
          (fun ds m => robWritePart rob.chunk offset data m ds) rob.data
        chunk := rob.chunk } := by
  have no_wrap : add64 offset data.length = offset + data.length :=
    add64_eq (by unfold varintBound at bound; omega)
  rw [← pushGaps_snd]
  simp only [ngtcp2RobPush, no_wrap]

theorem Rob.Holds.parts_inside (holds : rob.Holds got content rd) {q m : Range}
    (member : m ∈ closedParts q rob.gap) : m.begin < m.stop ∧ q.begin ≤ m.begin ∧ m.stop ≤ q.stop := by
  have nonempty := closedParts_nonempty q rob.gap member
  have has (o : Nat) (h : m.Has o) := ((closedParts_covers q holds.ordered o).mp ⟨m, member, h⟩).2
  have first := has m.begin ⟨Nat.le_refl _, nonempty⟩
  have last := has (m.stop - 1) ⟨by omega, by omega⟩
  unfold Has at first last
  omega

theorem Rob.Holds.push (holds : rob.Holds got content rd) {offset : Nat} {data : List UInt8}
    (bound : offset + data.length ≤ 2 * varintBound) {content' : Nat → UInt8}
    (old : ∀ o, rd ≤ o → got o → content' o = content o)
    (new : ∀ i, (h : i < data.length) → rd ≤ offset + i → ¬ got (offset + i) →
      content' (offset + i) = data[i]) :
    (ngtcp2RobPush rob offset data).Holds
      (fun o => got o ∨ offset ≤ o ∧ o < offset + data.length) content' rd := by
  rw [ngtcp2RobPush_eq rob bound]
  set q : Range := { begin := offset, stop := offset + data.length } with hq
  have parts := closedParts_covers q holds.ordered
  obtain ⟨sorted, stored, kept, origin⟩ := writeParts_spec holds.positive offset data
    (closedParts q rob.gap) holds.chunked fun m member => holds.parts_inside member
  refine ⟨holds.positive, pushGaps_ordered _ _ holds.ordered _, fun o => ?_, ?_, holds.reach, sorted,
    fun d member => ?_, fun d member => ?_, fun o from_ has => ?_⟩
  · rw [pushGaps_covers _ _ holds.ordered, holds.gaps]
    simp only [Has, hq]
    tauto
  · rintro o (has | has)
    · exact holds.bounded o has
    · omega
  · rcases origin d member with ⟨d₀, member₀, same⟩ | ⟨m, member', before⟩
    · exact same ▸ holds.live d₀ member₀
    · have nonempty := closedParts_nonempty q rob.gap member'
      have covered := ((parts m.begin).mp ⟨m, member', Nat.le_refl _, nonempty⟩).1
      have := holds.ordered.lower covered
      simp only
      omega
  · rcases origin d member with ⟨d₀, member₀, same⟩ | ⟨m, member', before⟩
    · obtain ⟨o, has, above⟩ := holds.used d₀ member₀
      exact ⟨o, .inl has, same ▸ above⟩
    · have part : _ ∧ offset ≤ m.begin ∧ m.stop ≤ offset + data.length := holds.parts_inside member'
      exact ⟨offset + data.length - 1, .inr (by omega), by omega⟩
  · by_cases known : got o
    · have outside : ¬ Covers (closedParts q rob.gap) o := by
        rw [parts, holds.gaps]
        tauto
      rw [kept o _ outside (holds.stored o from_ known), old o from_ known]
    · have inside := has.resolve_left known
      have covered : Covers (closedParts q rob.gap) o := by
        rw [parts, holds.gaps]
        exact ⟨⟨from_, by unfold varintBound at bound; unfold uint64Max; omega, known⟩, inside⟩
      have index : o - offset < data.length := by omega
      have value := new (o - offset) index (by omega)
      rw [show offset + (o - offset) = o by omega] at value
      rw [stored o covered, List.getElem?_eq_getElem index, value known]

theorem removeGaps_ordered {lo offset : Nat} {gaps : List Range} (ordered : Ordered lo gaps) :
    Ordered offset (removeGaps offset gaps) := by
  induction gaps generalizing lo with
  | nil => trivial
  | cons g rest ih =>
    obtain ⟨_, nonempty, tail⟩ := ordered
    simp only [removeGaps]
    split_ifs with before inside
    · exact ⟨before, nonempty, tail⟩
    · exact ⟨Nat.le_refl _, inside, tail⟩
    · exact ih tail

theorem removeGaps_covers {lo offset : Nat} {gaps : List Range} (ordered : Ordered lo gaps)
    (o : Nat) : Covers (removeGaps offset gaps) o ↔ Covers gaps o ∧ offset ≤ o := by
  induction gaps generalizing lo with
  | nil => simp [removeGaps]
  | cons g rest ih =>
    obtain ⟨_, nonempty, tail⟩ := ordered
    have later := fun covered => tail.lower (o := o) covered
    simp only [removeGaps]
    split_ifs with before inside
    · have own : Ordered g.begin (g :: rest) := ⟨Nat.le_refl _, nonempty, tail⟩
      constructor
      · intro covered
        have := own.lower covered
        exact ⟨covered, by omega⟩
      · exact And.left
    · simp only [covers_cons, Has]
      constructor
      · rintro (here | covered)
        · exact ⟨Or.inl (by omega), by omega⟩
        · have := later covered
          exact ⟨Or.inr covered, by omega⟩
      · rintro ⟨here | covered, above⟩
        · exact Or.inl (by omega)
        · exact Or.inr covered
    · rw [ih tail, covers_cons]
      unfold Has
      constructor
      · exact fun ⟨covered, above⟩ => ⟨Or.inr covered, above⟩
      · rintro ⟨here | covered, above⟩
        · omega
        · exact ⟨covered, above⟩

theorem removeChunks_chunked {chunk lo offset : Nat} {ds : List RobData}
    (chunked : Chunked chunk lo ds) : Chunked chunk lo (removeChunks chunk offset ds) := by
  induction ds generalizing lo with
  | nil => trivial
  | cons d rest ih =>
    simp only [removeChunks]
    split_ifs
    · exact chunked
    · exact chunked
    · exact (ih chunked.2.2).weaken (by have := chunked.1; omega)

theorem removeChunks_live {chunk lo offset : Nat} {ds : List RobData} (positive : 0 < chunk)
    (chunked : Chunked chunk lo ds) :
    ∀ d ∈ removeChunks chunk offset ds, offset < d.offset + chunk := by
  induction ds generalizing lo with
  | nil => simp [removeChunks]
  | cons d rest ih =>
    have later : ∀ e ∈ d :: rest, d.offset ≤ e.offset := by
      have own : Chunked chunk d.offset (d :: rest) := ⟨Nat.le_refl _, chunked.2⟩
      exact fun e member => own.lower member
    simp only [removeChunks]
    split_ifs
    · intro e member
      have := later e member
      omega
    · intro e member
      have := later e member
      omega
    · exact ih chunked.2.2

theorem removeChunks_byteAt {chunk offset o : Nat} (ds : List RobData) (above : offset ≤ o) :
    byteAt chunk (removeChunks chunk offset ds) o = byteAt chunk ds o := by
  induction ds with
  | nil => rfl
  | cons d rest ih =>
    simp only [removeChunks]
    split_ifs
    · rfl
    · rfl
    · rw [ih]
      simp only [byteAt]
      rw [if_neg (by omega)]

theorem removeChunks_subset (chunk offset : Nat) (ds : List RobData) : removeChunks chunk offset ds ⊆ ds := by
  induction ds with
  | nil => exact List.Subset.refl _
  | cons d rest ih =>
    unfold removeChunks
    split_ifs
    · exact List.Subset.refl _
    · exact List.Subset.refl _
    · exact List.Subset.trans ih (List.subset_cons_self d rest)

theorem Rob.Holds.removePrefix (holds : rob.Holds got content rd) {offset : Nat}
    (forward : rd ≤ offset) (reach : offset ≤ 2 * varintBound) :
    (ngtcp2RobRemovePrefix rob offset).Holds got content offset where
  positive := holds.positive
  ordered := removeGaps_ordered holds.ordered
  gaps o := by
    simp only [ngtcp2RobRemovePrefix]
    rw [removeGaps_covers holds.ordered, holds.gaps]
    constructor
    · rintro ⟨⟨_, below, missing⟩, above⟩
      exact ⟨above, below, missing⟩
    · rintro ⟨above, below, missing⟩
      exact ⟨⟨by omega, below, missing⟩, above⟩
  bounded := holds.bounded
  reach := reach
  chunked := removeChunks_chunked holds.chunked
  live := removeChunks_live holds.positive holds.chunked
  used d member := holds.used d (removeChunks_subset _ _ _ member)
  stored o from_ has := by
    simp only [ngtcp2RobRemovePrefix]
    rw [removeChunks_byteAt rob.data from_]
    exact holds.stored o (Nat.le_trans forward from_) has

theorem Rob.Holds.skip (holds : rob.Holds got content rd) {got' : Nat → Prop}
    (same : ∀ o, rd ≤ o → (got' o ↔ got o)) (more : ∀ o, got o → got' o)
    (bounded : ∀ o, got' o → o < 2 * varintBound) : rob.Holds got' content rd where
  positive := holds.positive
  ordered := holds.ordered
  gaps o := by
    rw [holds.gaps]
    by_cases from_ : rd ≤ o
    · rw [same o from_]
    · simp [from_]
  bounded := bounded
  reach := holds.reach
  chunked := holds.chunked
  live := holds.live
  used d member := by
    obtain ⟨o, has, above⟩ := holds.used d member
    exact ⟨o, more o has, above⟩
  stored o from_ has := holds.stored o from_ ((same o from_).mp has)

theorem Rob.Holds.advance (holds : rob.Holds got content rd) {rd' : Nat} {ds : List RobData}
    (forward : rd ≤ rd') (limit : rd' ≤ ngtcp2RobFirstGapOffset rob)
    (chunked : Chunked rob.chunk 0 ds) (live : ∀ d ∈ ds, rd' < d.offset + rob.chunk) (subset : ds ⊆ rob.data)
    (bytes : ∀ o, rd' ≤ o → byteAt rob.chunk ds o = byteAt rob.chunk rob.data o) :
    ({ rob with data := ds } : Rob).Holds got content rd' where
  positive := holds.positive
  ordered := by
    have ordered := holds.ordered
    have top := holds.top_covered
    unfold ngtcp2RobFirstGapOffset at limit
    cases gaps : rob.gap with
    | nil => trivial
    | cons g rest =>
      rw [gaps] at ordered limit
      exact ⟨limit, ordered.2⟩
  gaps o := by
    obtain ⟨_, _, _, below⟩ := holds.firstGap
    rw [holds.gaps]
    constructor
    · rintro ⟨from_, top, missing⟩
      refine ⟨?_, top, missing⟩
      by_contra behind
      exact missing (below o from_ (by omega))
    · rintro ⟨from_, top, missing⟩
      exact ⟨by omega, top, missing⟩
  bounded := holds.bounded
  reach := Nat.le_trans limit holds.firstGap.2.1
  chunked := chunked
  live := live
  used d member := holds.used d (subset member)
  stored o from_ has := by
    rw [bytes o from_]
    exact holds.stored o (Nat.le_trans forward from_) has

theorem Rob.Holds.pop (holds : rob.Holds got content rd) {d : RobData} {ds : List RobData} {n : Nat}
    (chunks : rob.data = d :: ds) (limit : rd + n ≤ ngtcp2RobFirstGapOffset rob)
    (inside : rd + n ≤ d.offset + rob.chunk) :
    ∃ rob', ngtcp2RobPop rob rd n = .ok rob' ∧ rob'.Holds got content (rd + n) ∧
      rob'.gap = rob.gap ∧ rob'.chunk = rob.chunk ∧
      (rob'.data = rob.data ∧ rd + n < d.offset + rob.chunk ∨
        rob'.data = ds ∧ rd + n = d.offset + rob.chunk) := by
  have chunked := holds.chunked
  rw [chunks] at chunked
  have own : Chunked rob.chunk d.offset (d :: ds) := ⟨Nat.le_refl _, chunked.2⟩
  simp only [ngtcp2RobPop, chunks]
  split_ifs with keep
  · refine ⟨rob, rfl, ?_, rfl, rfl, Or.inl ⟨chunks, keep⟩⟩
    refine holds.advance (by omega) limit holds.chunked (fun e member => ?_) (List.Subset.refl _) fun _ _ => rfl
    have := own.lower (chunks ▸ member)
    omega
  · refine ⟨_, rfl, ?_, rfl, rfl, Or.inr ⟨rfl, by omega⟩⟩
    refine holds.advance (by omega) limit (chunked.2.2.weaken (Nat.zero_le _))
      (fun e member => ?_) (chunks ▸ List.subset_cons_self d ds) fun o from_ => ?_
    · have := chunked.2.2.lower member
      have := holds.positive
      omega
    · rw [chunks]
      simp only [byteAt]
      rw [if_neg (by omega)]

theorem ngtcp2RobPop_chunk {offset len : Nat} {rob' : Rob} (popped : ngtcp2RobPop rob offset len = .ok rob') :
    rob'.chunk = rob.chunk := by
  unfold ngtcp2RobPop at popped
  split at popped
  · cases popped
  · split at popped <;> cases popped <;> rfl

theorem Rob.Holds.dataAt (holds : rob.Holds got content rd) :
    (ngtcp2RobFirstGapOffset rob = rd ∧ ngtcp2RobDataAt rob rd = .ok []) ∨
    ∃ n rob', 0 < n ∧ rd + n ≤ ngtcp2RobFirstGapOffset rob ∧
      ngtcp2RobDataAt rob rd = .ok ((List.range n).map fun i => content (rd + i)) ∧
      ngtcp2RobPop rob rd n = .ok rob' ∧ rob'.Holds got content (rd + n) ∧
      rob'.gap = rob.gap ∧
      (rob'.data.length < rob.data.length ∨ rd + n = ngtcp2RobFirstGapOffset rob) := by
  obtain ⟨lower, upper, missing, below⟩ := holds.firstGap
  have top := holds.top_covered
  cases gaps : rob.gap with
  | nil =>
    rw [gaps] at top
    exact absurd top (covers_nil _)
  | cons g rest =>
    have first : ngtcp2RobFirstGapOffset rob = g.begin := by
      rw [ngtcp2RobFirstGapOffset, gaps, Range.first]
    rw [first] at lower below
    by_cases at_gap : g.begin ≤ rd
    · left
      exact ⟨by omega, by simp only [ngtcp2RobDataAt, gaps, if_pos at_gap]⟩
    · right
      have has : got rd := below rd (Nat.le_refl _) (by omega)
      have held := holds.stored rd (Nat.le_refl _) has
      cases chunks : rob.data with
      | nil => simp [chunks, byteAt] at held
      | cons d ds =>
        have chunked := holds.chunked
        rw [chunks] at held chunked
        have here : d.offset ≤ rd ∧ rd < d.offset + rob.chunk := by
          refine ⟨?_, holds.live d (by simp [chunks])⟩
          by_contra later
          have own : Chunked rob.chunk d.offset (d :: ds) := ⟨Nat.le_refl _, chunked.2⟩
          rw [own.byteAt_lower (by omega)] at held
          cases held
        have byte (o : Nat) (from_ : rd ≤ o) (inside : o < min g.begin (d.offset + rob.chunk)) :
            d.bytes (o - d.offset) = content o := by
          have value := holds.stored o from_ (below o from_ (by omega))
          rw [chunks] at value
          simp only [byteAt] at value
          rw [if_pos (by omega)] at value
          exact Option.some.inj value
        obtain ⟨rob', popped, holds', gap, _, length⟩ :=
          holds.pop (n := min g.begin (d.offset + rob.chunk) - rd) chunks (by omega) (by omega)
        refine ⟨_, rob', by omega, by omega, ?_, popped, holds', gap.trans gaps, ?_⟩
        · simp only [ngtcp2RobDataAt, gaps, chunks]
          rw [if_neg at_gap, if_neg (not_not.mpr here.1), if_neg (not_not.mpr here.2)]
          refine congrArg Except.ok (List.map_congr_left fun i member => ?_)
          have := List.mem_range.mp member
          rw [← byte (rd + i) (by omega) (by omega)]
          congr 1
          omega
        · rcases length with ⟨_, short⟩ | ⟨same, _⟩
          · right
            omega
          · left
            simp [same]

end Holds

end Ngtcp2
