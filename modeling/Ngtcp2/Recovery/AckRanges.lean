import Ngtcp2.Conn.Recv
import Ngtcp2.Lib.Descent

/-!
# The packet numbers of an ACK frame over the integers

For a frame that `ngtcp2_pkt_validate_ack` accepts, none of the 64-bit subtractions wraps.
-/

namespace Ngtcp2

def blkRanges : Int → List AckBlk → List (Int × Int)
  | _, [] => []
  | minAck, blk :: rest =>
    let largestAck := minAck - blk.gap - 2
    (largestAck - blk.blklen, largestAck) :: blkRanges (largestAck - blk.blklen) rest

def Ack.ranges (fr : Ack) : List (Int × Int) :=
  ((fr.largestAck : Int) - fr.firstAckBlklen, (fr.largestAck : Int)) ::
    blkRanges ((fr.largestAck : Int) - fr.firstAckBlklen) fr.blks

def Ack.Denotes (fr : Ack) (n : Nat) : Prop := ∃ r ∈ fr.ranges, r.1 ≤ n ∧ n ≤ r.2

instance (fr : Ack) (n : Nat) : Decidable (fr.Denotes n) :=
  inferInstanceAs (Decidable (∃ r ∈ fr.ranges, r.1 ≤ n ∧ n ≤ r.2))

def blkSpans : Nat → List AckBlk → List Span
  | _, [] => []
  | minAck, blk :: rest =>
    let largestAck := sub64 minAck (add64 blk.gap 2)
    ⟨sub64 largestAck blk.blklen, largestAck⟩ :: blkSpans (sub64 largestAck blk.blklen) rest

def Ack.spans (fr : Ack) : List Span :=
  ⟨sub64 fr.largestAck fr.firstAckBlklen, fr.largestAck⟩ :: blkSpans (sub64 fr.largestAck fr.firstAckBlklen) fr.blks

def blkSubs : Nat → List AckBlk → List (Nat × Nat)
  | _, [] => []
  | minAck, blk :: rest =>
    let largestAck := sub64 (sub64 minAck blk.gap) 2
    (minAck, blk.gap) :: (sub64 minAck blk.gap, 2) :: (largestAck, blk.blklen) ::
      blkSubs (sub64 largestAck blk.blklen) rest

def Ack.subs (fr : Ack) : List (Nat × Nat) :=
  (fr.largestAck, fr.firstAckBlklen) :: blkSubs (sub64 fr.largestAck fr.firstAckBlklen) fr.blks

def NoWrap (subs : List (Nat × Nat)) : Prop := ∀ p ∈ subs, p.2 ≤ p.1

def Ack.Fits (fr : Ack) : Prop :=
  fr.largestAck < 18446744073709551616 ∧ ∀ blk ∈ fr.blks, blk.gap + 2 < 18446744073709551616

instance (fr : Ack) : Decidable fr.Fits := inferInstanceAs (Decidable (_ ∧ _))

theorem Ack.WireOk.fits {fr : Ack} (ok : fr.WireOk) : fr.Fits := by
  obtain ⟨largest, -, blks⟩ := ok
  unfold varintBound at *
  refine ⟨by omega, fun blk member => ?_⟩
  have gap := (blks blk member).1
  omega

/-- What `ngtcp2_pkt_validate_ack` finds out about the blocks below `minAck`. -/
def BlksFit : Nat → List AckBlk → Prop
  | _, [] => True
  | minAck, blk :: rest =>
    blk.gap + 2 ≤ minAck ∧ blk.blklen ≤ minAck - (blk.gap + 2) ∧ BlksFit (minAck - (blk.gap + 2) - blk.blklen) rest

theorem validateAckBlks_iff (minAck : Nat) {blks : List AckBlk}
    (fits : ∀ blk ∈ blks, blk.gap + 2 < 18446744073709551616) :
    validateAckBlks minAck blks = true ↔ BlksFit minAck blks := by
  induction blks generalizing minAck with
  | nil => simp [validateAckBlks, BlksFit]
  | cons blk rest ih =>
    have sum : add64 blk.gap 2 = blk.gap + 2 := add64_eq (fits blk (by simp))
    have later := ih (minAck - (blk.gap + 2) - blk.blklen) fun blk member => fits blk (by simp [member])
    simp only [validateAckBlks, BlksFit, sum]
    by_cases gap : minAck < blk.gap + 2
    · simp only [gap, if_true, Bool.false_eq_true, false_iff]
      rintro ⟨inside, -⟩
      omega
    · by_cases length : minAck - (blk.gap + 2) < blk.blklen
      · simp only [gap, length, if_true, if_false, Bool.false_eq_true, false_iff]
        rintro ⟨-, inside, -⟩
        omega
      · simp only [gap, length, if_false, later]
        exact ⟨fun fit => ⟨by omega, by omega, fit⟩, fun fit => fit.2.2⟩

theorem ngtcp2PktValidateAck_iff {fr : Ack} (fits : fr.Fits) :
    ngtcp2PktValidateAck fr = true ↔
      fr.firstAckBlklen ≤ fr.largestAck ∧ BlksFit (fr.largestAck - fr.firstAckBlklen) fr.blks := by
  unfold ngtcp2PktValidateAck
  by_cases first : fr.largestAck < fr.firstAckBlklen
  · simp only [first, if_true, Bool.false_eq_true, false_iff]
    rintro ⟨inside, -⟩
    omega
  · simp only [first, if_false, validateAckBlks_iff _ fits.2]
    exact ⟨fun fit => ⟨by omega, fit⟩, fun fit => fit.2⟩

section Blks

variable {minAck : Nat} {blks : List AckBlk}

theorem BlksFit.first {blk : AckBlk} {rest : List AckBlk} (fit : BlksFit minAck (blk :: rest))
    (bound : minAck < 18446744073709551616) :
    sub64 minAck (add64 blk.gap 2) = minAck - (blk.gap + 2) ∧
      sub64 (minAck - (blk.gap + 2)) blk.blklen = minAck - (blk.gap + 2) - blk.blklen := by
  obtain ⟨gap, length, -⟩ := fit
  rw [add64_eq (by omega), sub64_eq gap bound, sub64_eq length (by omega)]
  exact ⟨rfl, rfl⟩

theorem BlksFit.fall (fit : BlksFit minAck blks) (bound : minAck < 18446744073709551616) :
    Span.Fall minAck (blkSpans minAck blks) := by
  induction blks generalizing minAck with
  | nil => trivial
  | cons blk rest ih =>
    obtain ⟨hi, lo⟩ := fit.first bound
    obtain ⟨gap, length, later⟩ := fit
    simp only [blkSpans, hi, lo, Span.Fall]
    refine ⟨by omega, by omega, ih later (by omega)⟩

theorem BlksFit.noWrap (fit : BlksFit minAck blks) (bound : minAck < 18446744073709551616) :
    NoWrap (blkSubs minAck blks) := by
  induction blks generalizing minAck with
  | nil => simp [NoWrap, blkSubs]
  | cons blk rest ih =>
    obtain ⟨gap, length, later⟩ := fit
    have first : sub64 minAck blk.gap = minAck - blk.gap := sub64_eq (by omega) bound
    have second : sub64 (minAck - blk.gap) 2 = minAck - (blk.gap + 2) := by
      rw [sub64_eq (by omega) (by omega)]
      omega
    have third : sub64 (minAck - (blk.gap + 2)) blk.blklen = minAck - (blk.gap + 2) - blk.blklen :=
      sub64_eq length (by omega)
    have rest := ih later (by omega)
    simp only [blkSubs, NoWrap, first, second, third, List.forall_mem_cons]
    exact ⟨by omega, by omega, length, rest⟩

theorem BlksFit.ranges_iff (fit : BlksFit minAck blks) (bound : minAck < 18446744073709551616) (n : Nat) :
    (∃ r ∈ blkRanges minAck blks, r.1 ≤ n ∧ n ≤ r.2) ↔ Span.Covers (blkSpans minAck blks) n := by
  induction blks generalizing minAck with
  | nil => simp [blkRanges, blkSpans]
  | cons blk rest ih =>
    obtain ⟨hi, lo⟩ := fit.first bound
    obtain ⟨gap, length, later⟩ := fit
    have top : (minAck : Int) - blk.gap - 2 = ((minAck - (blk.gap + 2) : Nat) : Int) := by omega
    have bottom : ((minAck - (blk.gap + 2) : Nat) : Int) - blk.blklen =
        ((minAck - (blk.gap + 2) - blk.blklen : Nat) : Int) := by omega
    simp only [blkRanges, blkSpans, hi, lo, top, bottom, List.exists_mem_cons_iff, Span.covers_cons, Span.Has,
      ih later (by omega)]
    simp only [Int.ofNat_le]

end Blks

/-- A frame that has passed the check of `ngtcp2_pkt_validate_ack`, with all numbers in their range. -/
structure Ack.Valid (fr : Ack) : Prop where
  validated : ngtcp2PktValidateAck fr = true
  fits : fr.Fits

namespace Ack.Valid

variable {fr : Ack}

theorem first (valid : fr.Valid) :
    sub64 fr.largestAck fr.firstAckBlklen = fr.largestAck - fr.firstAckBlklen :=
  sub64_eq ((ngtcp2PktValidateAck_iff valid.fits).mp valid.validated).1 valid.fits.1

theorem blks (valid : fr.Valid) : BlksFit (fr.largestAck - fr.firstAckBlklen) fr.blks :=
  ((ngtcp2PktValidateAck_iff valid.fits).mp valid.validated).2

theorem bound (valid : fr.Valid) : fr.largestAck - fr.firstAckBlklen < 18446744073709551616 :=
  Nat.lt_of_le_of_lt (Nat.sub_le _ _) valid.fits.1

theorem fall (valid : fr.Valid) : Span.Fall (fr.largestAck + 1) fr.spans := by
  unfold Ack.spans
  rw [valid.first]
  exact ⟨Nat.lt_succ_self _, Nat.sub_le _ _, valid.blks.fall valid.bound⟩

theorem noWrap (valid : fr.Valid) : NoWrap fr.subs := by
  have length := ((ngtcp2PktValidateAck_iff valid.fits).mp valid.validated).1
  unfold Ack.subs NoWrap
  rw [valid.first, List.forall_mem_cons]
  exact ⟨length, valid.blks.noWrap valid.bound⟩

theorem denotes_iff (valid : fr.Valid) (n : Nat) : fr.Denotes n ↔ Span.Covers fr.spans n := by
  have length := ((ngtcp2PktValidateAck_iff valid.fits).mp valid.validated).1
  have bottom : (fr.largestAck : Int) - fr.firstAckBlklen = ((fr.largestAck - fr.firstAckBlklen : Nat) : Int) := by
    omega
  unfold Ack.Denotes Ack.ranges Ack.spans
  rw [valid.first, bottom]
  simp only [List.exists_mem_cons_iff, Span.covers_cons, Span.Has, valid.blks.ranges_iff valid.bound, Int.ofNat_le]

end Ack.Valid

section Floor

def blkFloor : Int → List AckBlk → Int
  | minAck, [] => minAck
  | minAck, blk :: rest => blkFloor (minAck - blk.gap - 2 - blk.blklen) rest

theorem blkFloor_le (minAck : Int) (blks : List AckBlk) : blkFloor minAck blks ≤ minAck := by
  induction blks generalizing minAck with
  | nil => exact Int.le_refl _
  | cons blk rest ih =>
    have lower := ih (minAck - blk.gap - 2 - blk.blklen)
    simp only [blkFloor]
    omega

theorem blkFloor_concat (minAck : Int) (blks : List AckBlk) (blk : AckBlk) :
    blkFloor minAck (blks ++ [blk]) = blkFloor minAck blks - blk.gap - 2 - blk.blklen := by
  induction blks generalizing minAck with
  | nil => rfl
  | cons first rest ih => exact ih _

theorem blkRanges_concat (minAck : Int) (blks : List AckBlk) (blk : AckBlk) :
    blkRanges minAck (blks ++ [blk]) = blkRanges minAck blks ++
      [(blkFloor minAck blks - blk.gap - 2 - blk.blklen, blkFloor minAck blks - blk.gap - 2)] := by
  induction blks generalizing minAck with
  | nil => rfl
  | cons first rest ih => simp [blkRanges, blkFloor, ih]

theorem blksFit_of_floor {minAck : Nat} {blks : List AckBlk} (floor : 0 ≤ blkFloor minAck blks) :
    BlksFit minAck blks := by
  induction blks generalizing minAck with
  | nil => trivial
  | cons blk rest ih =>
    simp only [blkFloor] at floor
    have lower := blkFloor_le ((minAck : Int) - blk.gap - 2 - blk.blklen) rest
    have exact : ((minAck - (blk.gap + 2) - blk.blklen : Nat) : Int) = minAck - blk.gap - 2 - blk.blklen := by omega
    refine ⟨by omega, by omega, ih ?_⟩
    rwa [exact]

theorem BlksFit.gap_lt {minAck : Nat} {blks : List AckBlk} (fit : BlksFit minAck blks)
    (bound : minAck < 18446744073709551616) : ∀ blk ∈ blks, blk.gap + 2 < 18446744073709551616 := by
  induction blks generalizing minAck with
  | nil => simp
  | cons first rest ih =>
    obtain ⟨gap, length, later⟩ := fit
    rw [List.forall_mem_cons]
    exact ⟨by omega, ih later (by omega)⟩

theorem Ack.valid_of_floor {fr : Ack} (bound : fr.largestAck < 18446744073709551616)
    (floor : 0 ≤ blkFloor ((fr.largestAck : Int) - fr.firstAckBlklen) fr.blks) : fr.Valid := by
  have lower := blkFloor_le ((fr.largestAck : Int) - fr.firstAckBlklen) fr.blks
  have exact : ((fr.largestAck - fr.firstAckBlklen : Nat) : Int) = fr.largestAck - fr.firstAckBlklen := by omega
  have fit : BlksFit (fr.largestAck - fr.firstAckBlklen) fr.blks := blksFit_of_floor (by rwa [exact])
  have fits : fr.Fits := ⟨bound, fit.gap_lt (by omega)⟩
  exact ⟨(ngtcp2PktValidateAck_iff fits).mpr ⟨by omega, fit⟩, fits⟩

end Floor

end Ngtcp2
