import Ngtcp2.Conn.Ppe
import Ngtcp2.Lib.Grammar

/-!
# Variable-length integers

The two most significant bits of the first byte give the number of bytes, and the other bits the
value.
-/

namespace Ngtcp2

def varintlenDef (b : UInt8) : Nat :=
  match (b >>> 6).toNat with
  | 0 => 1
  | 1 => 2
  | 2 => 4
  | _ => 8

/-- `none` is a read outside of the buffer. -/
def ngtcp2GetVarintLen (buf : List UInt8) (p : Nat) : Option Nat := buf[p]?.map varintlenDef

def ngtcp2GetVarint : Reader Nat := fun buf p =>
  match ngtcp2GetVarintLen buf p with
  | none => none
  | some n =>
    match Reader.bytes n buf p with
    | some (b :: tail, p) => some (if n = 1 then b.toNat else ofBeBytes ((b &&& 0x3f) :: tail), p)
    | _ => none

def ngtcp2PutVarint (n : Nat) : Except Err (List UInt8) :=
  -- the length goes into the byte that has been written first
  let tagged (tag : UInt8) : List UInt8 → List UInt8
    | [] => []
    | b :: rest => (b ||| tag) :: rest
  if n < 64 then .ok [UInt8.ofNat n]
  else if n < 16384 then .ok (tagged 0x40 (beBytes 2 n))
  else if n < 1073741824 then .ok (tagged 0x80 (beBytes 4 n))
  else if n < varintBound then .ok (tagged 0xc0 (beBytes 8 n))
  else .error .ABORT

def varint : Grammar Nat := do
  let b ← Grammar.byte
  let tail ← Grammar.bytes (varintlenDef b - 1)
  pure (ofBeBytes ((b &&& 0x3f) :: tail))

theorem varintlenDef_cases (b : UInt8) :
    varintlenDef b = 1 ∨ varintlenDef b = 2 ∨ varintlenDef b = 4 ∨ varintlenDef b = 8 := by
  unfold varintlenDef
  split <;> simp

theorem varintlenDef_pos (b : UInt8) : 1 ≤ varintlenDef b := by
  rcases varintlenDef_cases b with h | h | h | h <;> omega

theorem varint_local : varint.Local :=
  .bind .byte fun _ => .bind (.bytes _) fun _ => .pure _

theorem varint_nil : varint [] = none := rfl

theorem varint_cons (b : UInt8) (rest : List UInt8) :
    varint (b :: rest) =
      if rest.length < varintlenDef b - 1 then none
      else some (ofBeBytes ((b &&& 0x3f) :: rest.take (varintlenDef b - 1)), rest.drop (varintlenDef b - 1)) := by
  unfold varint
  rw [Grammar.bind_some (g := Grammar.byte) rfl]
  by_cases short : rest.length < varintlenDef b - 1
  · rw [if_pos short, Grammar.bind_none (by simp [Grammar.bytes, short])]
  · have here : Grammar.bytes (varintlenDef b - 1) rest =
        some (rest.take (varintlenDef b - 1), rest.drop (varintlenDef b - 1)) := if_neg short
    rw [if_neg short, Grammar.bind_some here, Grammar.pure_run]

theorem varint_lt {s rest : List UInt8} {n : Nat} (found : varint s = some (n, rest)) : n < varintBound := by
  cases s with
  | nil => cases found
  | cons b s =>
    rw [varint_cons] at found
    split at found
    · cases found
    · rename_i long
      obtain ⟨rfl, rfl⟩ := Option.some.inj found
      have top : (b &&& 0x3f).toNat ≤ 63 := by
        rw [UInt8.toNat_and]
        exact Nat.and_le_right
      have low := ofBeBytes_lt (s.take (varintlenDef b - 1))
      have length : (s.take (varintlenDef b - 1)).length = varintlenDef b - 1 := by
        rw [List.length_take]
        omega
      unfold ofBeBytes varintBound
      rw [length] at low ⊢
      generalize (b &&& 0x3f).toNat = x at top ⊢
      rcases varintlenDef_cases b with w | w | w | w <;> rw [w] at low ⊢ <;> norm_num at low ⊢ <;> omega

theorem varintlenDef_tagged (k : Fin 64) :
    (varintlenDef (UInt8.ofNat k) = 1 ∧ UInt8.ofNat k &&& 0x3f = UInt8.ofNat k) ∧
    (varintlenDef (UInt8.ofNat k ||| 0x40) = 2 ∧ (UInt8.ofNat k ||| 0x40) &&& 0x3f = UInt8.ofNat k) ∧
    (varintlenDef (UInt8.ofNat k ||| 0x80) = 4 ∧ (UInt8.ofNat k ||| 0x80) &&& 0x3f = UInt8.ofNat k) ∧
    varintlenDef (UInt8.ofNat k ||| 0xc0) = 8 ∧ (UInt8.ofNat k ||| 0xc0) &&& 0x3f = UInt8.ofNat k := by
  revert k
  decide

theorem varint_single {b : UInt8} (single : varintlenDef b = 1) : b &&& 0x3f = b := by
  have small : b.toNat < 64 := by
    by_contra large
    have quarter : (b >>> 6).toNat = b.toNat / 64 := by simp [Nat.shiftRight_eq_div_pow]
    unfold varintlenDef at single
    rw [quarter] at single
    split at single <;> omega
  have tags := (varintlenDef_tagged ⟨b.toNat, small⟩).1.2
  rwa [UInt8.ofNat_toNat] at tags

theorem ngtcp2GetVarint_refines : Reader.Refines ngtcp2GetVarint varint where
  run buf p n rest inside found := by
    cases here : buf.drop p with
    | nil => simp [here, varint_nil] at found
    | cons b tail =>
      obtain ⟨at_, length⟩ := Reader.getElem?_of_drop here
      rw [here, varint_cons] at found
      split at found
      · cases found
      · obtain ⟨rfl, rfl⟩ := Option.some.inj found
        have pos := varintlenDef_pos b
        obtain ⟨k, width⟩ : ∃ k, varintlenDef b = k + 1 := ⟨varintlenDef b - 1, by omega⟩
        have read : Reader.bytes (k + 1) buf p = some (b :: tail.take k, p + (k + 1)) := by
          unfold Reader.bytes
          rw [if_neg (by omega), here, List.take_succ_cons]
        have value : (if k + 1 = 1 then b.toNat else ofBeBytes ((b &&& 0x3f) :: tail.take k)) =
            ofBeBytes ((b &&& 0x3f) :: tail.take k) := by
          split
          · rename_i single
            obtain rfl : k = 0 := by omega
            rw [varint_single width]
            simp [ofBeBytes]
          · rfl
        unfold ngtcp2GetVarint ngtcp2GetVarintLen
        simp only [at_, Option.map_some, width, read, value, Nat.add_sub_cancel, List.length_drop]
        congr 2
        omega
  keeps := varint_local

theorem varint_tagged {b first : UInt8} {w n : Nat} (width : varintlenDef b = w + 1)
    (value : b &&& 0x3f = first) (bytes : beBytes (w + 1) n = first :: beBytes w n)
    (bound : n < 256 ^ (w + 1)) (rest : List UInt8) :
    varint ((b :: beBytes w n) ++ rest) = some (n, rest) := by
  rw [List.cons_append, varint_cons, width, Nat.add_sub_cancel, if_neg (by simp), value]
  simp only [List.take_append_of_le_length (length_beBytes w n).ge, List.take_of_length_le (length_beBytes w n).le,
    List.drop_append_of_le_length (length_beBytes w n).ge, List.drop_of_length_le (length_beBytes w n).le,
    List.nil_append]
  rw [← bytes, ofBeBytes_beBytes, Nat.mod_eq_of_lt bound]

theorem ngtcp2PutVarint_spec {n : Nat} (bound : n < varintBound) :
    ∃ bytes, ngtcp2PutVarint n = .ok bytes ∧ ngtcp2PutVarintLen n = .ok bytes.length ∧
      ∀ rest, varint (bytes ++ rest) = some (n, rest) := by
  unfold ngtcp2PutVarint ngtcp2PutVarintLen
  unfold varintBound at *
  by_cases one : n < 64
  · have tags := (varintlenDef_tagged ⟨n, one⟩).1
    rw [if_pos one, if_pos one]
    refine ⟨_, rfl, rfl, fun rest => ?_⟩
    have bytes : beBytes 1 n = UInt8.ofNat n :: beBytes 0 n := by simp [beBytes]
    exact varint_tagged (w := 0) tags.1 tags.2 bytes (by omega) rest
  by_cases two : n < 16384
  · have tags := (varintlenDef_tagged ⟨n / 256, by omega⟩).2.1
    rw [if_neg one, if_neg one, if_pos two, if_pos two]
    refine ⟨_, rfl, rfl, fun rest => ?_⟩
    have bytes : beBytes 2 n = UInt8.ofNat (n / 256) :: beBytes 1 n := by simp [beBytes]
    exact varint_tagged (w := 1) tags.1 tags.2 bytes (by omega) rest
  by_cases four : n < 1073741824
  · have tags := (varintlenDef_tagged ⟨n / 16777216, by omega⟩).2.2.1
    rw [if_neg one, if_neg one, if_neg two, if_neg two, if_pos four, if_pos four]
    refine ⟨_, rfl, rfl, fun rest => ?_⟩
    have bytes : beBytes 4 n = UInt8.ofNat (n / 16777216) :: beBytes 3 n := by simp [beBytes]
    exact varint_tagged (w := 3) tags.1 tags.2 bytes (by omega) rest
  · have tags := (varintlenDef_tagged ⟨n / 72057594037927936, by omega⟩).2.2.2
    rw [if_neg one, if_neg one, if_neg two, if_neg two, if_neg four, if_neg four, if_pos bound, if_pos bound]
    refine ⟨_, rfl, rfl, fun rest => ?_⟩
    have bytes : beBytes 8 n = UInt8.ofNat (n / 72057594037927936) :: beBytes 7 n := by simp [beBytes]
    exact varint_tagged (w := 7) tags.1 tags.2 bytes (by omega) rest

end Ngtcp2
