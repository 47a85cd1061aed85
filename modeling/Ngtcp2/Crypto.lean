import Ngtcp2.Lib.Bytes

namespace Ngtcp2

/-- The last 8 bytes of the initialisation vector, which has at least that many, are mixed with the
packet number. -/
def ngtcp2CryptoCreateNonce (iv : List UInt8) (pktNum : Nat) : List UInt8 :=
  iv.take (iv.length - 8) ++
    List.zipWith (fun a b => a ^^^ b) (iv.drop (iv.length - 8)) (beBytes 8 pktNum)

theorem zipWith_xor_inj {mask xs ys : List UInt8} (hx : xs.length = mask.length)
    (hy : ys.length = mask.length)
    (same : List.zipWith (fun a b => a ^^^ b) mask xs = List.zipWith (fun a b => a ^^^ b) mask ys) :
    xs = ys := by
  induction mask generalizing xs ys with
  | nil => rw [List.length_eq_zero_iff.mp hx, List.length_eq_zero_iff.mp hy]
  | cons m mask ih =>
    match xs, ys, hx, hy with
    | x :: xs, y :: ys, hx, hy =>
      simp only [List.zipWith_cons_cons, List.cons.injEq] at same
      have first : x = y := by simpa using same.1
      have rest := ih (Nat.succ.inj hx) (Nat.succ.inj hy) same.2
      rw [first, rest]

theorem ngtcp2CryptoCreateNonce_inj {iv : List UInt8} (long : 8 ≤ iv.length) {m n : Nat}
    (hm : m < 18446744073709551616) (hn : n < 18446744073709551616)
    (same : ngtcp2CryptoCreateNonce iv m = ngtcp2CryptoCreateNonce iv n) : m = n := by
  have mixed := List.append_cancel_left same
  have length : (iv.drop (iv.length - 8)).length = 8 := by
    rw [List.length_drop]
    omega
  have bytes := zipWith_xor_inj (by rw [length_beBytes, length]) (by rw [length_beBytes, length]) mixed
  exact beBytes_inj (by simpa using hm) (by simpa using hn) bytes

end Ngtcp2
