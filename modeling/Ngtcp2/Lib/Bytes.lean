import Mathlib.Algebra.Order.Ring.Nat
import Mathlib.Tactic.Ring

/-!
# Numbers in network byte order

A number is written as a given count of bytes, the most significant one first, and read back from
any list of bytes.
-/

def beBytes : Nat → Nat → List UInt8
  | 0, _ => []
  | w + 1, n => UInt8.ofNat (n / 256 ^ w) :: beBytes w n

def ofBeBytes : List UInt8 → Nat
  | [] => 0
  | b :: rest => b.toNat * 256 ^ rest.length + ofBeBytes rest

@[simp] theorem length_beBytes (w n : Nat) : (beBytes w n).length = w := by
  induction w with
  | zero => rfl
  | succ w ih => simp [beBytes, ih]

theorem ofBeBytes_lt (bytes : List UInt8) : ofBeBytes bytes < 256 ^ bytes.length := by
  induction bytes with
  | nil => simp [ofBeBytes]
  | cons b rest ih =>
    have top : b.toNat ≤ 255 := by
      have lt := b.toNat_lt
      omega
    calc b.toNat * 256 ^ rest.length + ofBeBytes rest
        < b.toNat * 256 ^ rest.length + 256 ^ rest.length := by omega
      _ ≤ 255 * 256 ^ rest.length + 256 ^ rest.length := by gcongr
      _ = 256 ^ (rest.length + 1) := by ring

theorem ofBeBytes_beBytes (w n : Nat) : ofBeBytes (beBytes w n) = n % 256 ^ w := by
  induction w with
  | zero => simp [beBytes, ofBeBytes, Nat.mod_one]
  | succ w ih =>
    have top : (UInt8.ofNat (n / 256 ^ w)).toNat = n / 256 ^ w % 256 := by simp
    rw [beBytes, ofBeBytes, length_beBytes, top, ih, Nat.pow_succ, Nat.mod_mul]
    ring

theorem beBytes_ofBeBytes (bytes : List UInt8) : beBytes bytes.length (ofBeBytes bytes) = bytes := by
  -- the bytes behind the first one do not see what is above them
  have high (w a n : Nat) : beBytes w (a * 256 ^ w + n) = beBytes w n := by
    induction w generalizing a with
    | zero => rfl
    | succ w ih =>
      have top : UInt8.ofNat ((a * 256 ^ (w + 1) + n) / 256 ^ w) = UInt8.ofNat (n / 256 ^ w) := by
        apply UInt8.toNat_inj.mp
        rw [Nat.pow_succ, show a * (256 ^ w * 256) + n = n + 256 ^ w * (a * 256) by ring,
          Nat.add_mul_div_left _ _ (Nat.pow_pos (by decide))]
        simp
      rw [beBytes, beBytes, top, Nat.pow_succ, show a * (256 ^ w * 256) = a * 256 * 256 ^ w by ring, ih]
  induction bytes with
  | nil => rfl
  | cons b rest ih =>
    have first : (b.toNat * 256 ^ rest.length + ofBeBytes rest) / 256 ^ rest.length = b.toNat := by
      rw [Nat.add_comm, Nat.mul_comm, Nat.add_mul_div_left _ _ (Nat.pow_pos (by decide)), Nat.div_eq_of_lt (ofBeBytes_lt rest),
        Nat.zero_add]
    rw [ofBeBytes, List.length_cons, beBytes, first, high, ih, UInt8.ofNat_toNat]

theorem beBytes_inj {w m n : Nat} (hm : m < 256 ^ w) (hn : n < 256 ^ w)
    (same : beBytes w m = beBytes w n) : m = n := by
  have read := congrArg ofBeBytes same
  rwa [ofBeBytes_beBytes, ofBeBytes_beBytes, Nat.mod_eq_of_lt hm, Nat.mod_eq_of_lt hn] at read
