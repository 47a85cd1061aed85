import Mathlib.Data.Nat.Dist
import Ngtcp2.Lib.Bytes
import Ngtcp2.System

/-!
# Packet headers

The codec of packet headers, and how the number of a packet is recovered from the bits of it that a
header carries.
-/

namespace Ngtcp2

/-- `ngtcp2_pkt_hd`, with the flag that no connection looks at. -/
structure WireHd where
  hd : PktHd
  keyPhase : Bool
  deriving DecidableEq, Repr

def PktType.code : PktType → UInt8
  | .VERSION_NEGOTIATION => 0x00
  | .INITIAL => 0x7f
  | .RETRY => 0x7e
  | .HANDSHAKE => 0x7d
  | .ZERO_RTT_PROTECTED => 0x7c
  | .PKT_01 => 0x1f
  | .PKT_02 => 0x1e
  | .PKT_03 => 0x1d

def PktType.pktNumLen : PktType → Option Nat
  | .PKT_01 => some 1
  | .PKT_02 => some 2
  | .PKT_03 => some 4
  | _ => none

def shortType (type : UInt8) : Option PktType :=
  [PktType.PKT_01, .PKT_02, .PKT_03].find? (·.code == type)

def longType (type : UInt8) : Option PktType :=
  [PktType.INITIAL, .RETRY, .HANDSHAKE, .ZERO_RTT_PROTECTED].find? (·.code == type)

def headerFormBit (b : UInt8) : Bool := b &&& 0x80 != 0
def omitConnIdBit (b : UInt8) : Bool := b &&& 0x40 != 0
def keyPhaseBit (b : UInt8) : Bool := b &&& 0x20 != 0

section Codec

def getUint (pkt : List UInt8) (p len : Nat) : Nat := ofBeBytes ((pkt.drop p).take len)

def ngtcp2PktDecodeHdLong (pkt : List UInt8) : Except Err (WireHd × Nat) :=
  match pkt with
  | [] => .error .INVALID_ARGUMENT
  | first :: _ =>
    if pkt.length < longHeaderlen then .error .INVALID_ARGUMENT
    else if !headerFormBit first then .error .INVALID_ARGUMENT
    else
      let version := getUint pkt 9 4
      let header (type : PktType) : WireHd :=
        { hd :=
            { longForm := true, omitConnId := false, type := type, connId := getUint pkt 1 8,
              pktNum := getUint pkt 13 4, version := version }
          keyPhase := false }
      match longType (first &&& 0x7f) with
      | some type => .ok (header type, longHeaderlen)
      | none =>
        if version = 0 then .ok (header .VERSION_NEGOTIATION, longHeaderlen) else .error .UNKNOWN_PKT_TYPE

def ngtcp2PktDecodeHdShort (pkt : List UInt8) : Except Err (WireHd × Nat) :=
  match pkt with
  | [] => .error .ABORT
  | first :: _ =>
    if headerFormBit first then .error .INVALID_ARGUMENT
    else
      let idLen := if omitConnIdBit first then 0 else 8
      match shortType (first &&& 0x1f) with
      | none => .error .UNKNOWN_PKT_TYPE
      | some type =>
        let len := 1 + idLen + type.pktNumLen.getD 0
        if pkt.length < len then .error .INVALID_ARGUMENT
        else
          .ok
            ({ hd :=
                { longForm := false, omitConnId := omitConnIdBit first, type := type,
                  connId := if omitConnIdBit first then 0 else getUint pkt 1 8,
                  pktNum := getUint pkt (1 + idLen) (type.pktNumLen.getD 0), version := 0 }
               keyPhase := keyPhaseBit first }, len)

def ngtcp2PktDecodeHd (pkt : List UInt8) : Except Err (WireHd × Nat) :=
  match pkt with
  | [] => .error .INVALID_ARGUMENT
  | first :: _ => if headerFormBit first then ngtcp2PktDecodeHdLong pkt else ngtcp2PktDecodeHdShort pkt

def ngtcp2PktEncodeHdLong (outlen : Nat) (w : WireHd) : Except Err (List UInt8) :=
  if outlen < longHeaderlen then .error .NOBUF
  else .ok ((0x80 ||| w.hd.type.code) :: (beBytes 8 w.hd.connId ++ beBytes 4 w.hd.version ++ beBytes 4 w.hd.pktNum))

def ngtcp2PktEncodeHdShort (outlen : Nat) (w : WireHd) : Except Err (List UInt8) :=
  match w.hd.type.pktNumLen with
  | none => .error .INVALID_ARGUMENT
  | some width =>
    let len := 1 + (if w.hd.omitConnId then 0 else 8) + width
    if outlen < len then .error .NOBUF
    else
      let first :=
        w.hd.type.code ||| (if w.hd.omitConnId then 0x40 else 0) ||| (if w.keyPhase then 0x20 else 0)
      let bytes := first :: ((if w.hd.omitConnId then [] else beBytes 8 w.hd.connId) ++ beBytes width w.hd.pktNum)
      -- `assert((size_t)(p - out) == len)`
      if bytes.length = len then .ok bytes else .error .ABORT

end Codec

section Short

variable {type : PktType} {width : Nat}

theorem shortBits (omitted keyPhase : Bool) (short : type.pktNumLen = some width) :
    headerFormBit (type.code ||| (if omitted then 0x40 else 0) ||| (if keyPhase then 0x20 else 0)) = false ∧
    omitConnIdBit (type.code ||| (if omitted then 0x40 else 0) ||| (if keyPhase then 0x20 else 0)) = omitted ∧
    keyPhaseBit (type.code ||| (if omitted then 0x40 else 0) ||| (if keyPhase then 0x20 else 0)) = keyPhase ∧
    shortType ((type.code ||| (if omitted then 0x40 else 0) ||| (if keyPhase then 0x20 else 0)) &&& 0x1f) = some type := by
  cases type <;> cases short <;> cases omitted <;> cases keyPhase <;> decide

theorem getUint_append (before : List UInt8) (len n : Nat) (rest : List UInt8) {p : Nat} (position : before.length = p) :
    getUint (before ++ (beBytes len n ++ rest)) p len = n % 256 ^ len := by
  subst position
  unfold getUint
  rw [List.drop_left, List.take_append_of_le_length (length_beBytes len n).ge,
    List.take_of_length_le (length_beBytes len n).le, ofBeBytes_beBytes]

end Short

section PktNum

theorem or_of_aligned {n u p : Nat} (aligned : u % 2 ^ n = 0) (small : p < 2 ^ n) : u ||| p = u + p := by
  obtain ⟨q, rfl⟩ := Nat.dvd_of_mod_eq_zero aligned
  exact (Nat.two_pow_add_eq_or_of_lt small q).symm

theorem ngtcp2PktAdjustPktNum_eq {m pktNum n : Nat} (width : n = 8 ∨ n = 16 ∨ n = 32) (later : m < pktNum)
    (near : 2 * (pktNum - m) < 2 ^ n) (bound : pktNum < 18446744073709551616) :
    ngtcp2PktAdjustPktNum m (pktNum % 2 ^ n) n = pktNum := by
  have small : pktNum % 2 ^ n < 2 ^ n := Nat.mod_lt _ (Nat.two_pow_pos n)
  have notMax : m ≠ 18446744073709551615 := by omega
  simp only [ngtcp2PktAdjustPktNum, uint64Max, add64, notMax, if_false]
  have aligned : (m + 1 - (m + 1) % 2 ^ n) % 18446744073709551616 % 2 ^ n = 0 := by
    rcases width with rfl | rfl | rfl <;> omega
  have aligned' : ((m + 1 - (m + 1) % 2 ^ n) % 18446744073709551616 + 2 ^ n) % 18446744073709551616 % 2 ^ n = 0 := by
    rcases width with rfl | rfl | rfl <;> omega
  simp only [or_of_aligned aligned small, or_of_aligned aligned' small]
  rcases width with rfl | rfl | rfl <;> (split <;> split <;> split <;> omega)

theorem ngtcp2PktAdjustPktNum_window {m pktNum n : Nat} (width : n = 8 ∨ n = 16 ∨ n = 32) (small : pktNum < 2 ^ n)
    (high : m + 1 + 2 ^ n < 18446744073709551616) :
    ngtcp2PktAdjustPktNum m pktNum n =
      if 2 * ((m + 1) % 2 ^ n) < 2 ^ n + 2 * pktNum then m + 1 - (m + 1) % 2 ^ n + pktNum
      else m + 1 - (m + 1) % 2 ^ n + 2 ^ n + pktNum := by
  have notMax : m ≠ 18446744073709551615 := by omega
  have below : (m + 1) % 2 ^ n ≤ m + 1 := Nat.mod_le _ _
  have rest : (m + 1) % 2 ^ n < 2 ^ n := Nat.mod_lt _ (Nat.two_pow_pos n)
  have window : (m + 1 - (m + 1) % 2 ^ n) % 18446744073709551616 = m + 1 - (m + 1) % 2 ^ n := Nat.mod_eq_of_lt (by omega)
  have next : (m + 1 - (m + 1) % 2 ^ n + 2 ^ n) % 18446744073709551616 = m + 1 - (m + 1) % 2 ^ n + 2 ^ n :=
    Nat.mod_eq_of_lt (by omega)
  have aligned : (m + 1 - (m + 1) % 2 ^ n) % 2 ^ n = 0 := Nat.sub_mod_eq_zero_of_mod_eq (by simp)
  have aligned' : (m + 1 - (m + 1) % 2 ^ n + 2 ^ n) % 2 ^ n = 0 := by rw [Nat.add_mod_right, aligned]
  simp only [ngtcp2PktAdjustPktNum, uint64Max, add64, notMax, if_false, window, next, or_of_aligned aligned small,
    or_of_aligned aligned' small]
  split <;> split <;> split <;> split <;> omega

/-- A packet number whose last `n` bits are those received and that is as close to the expected one as any. -/
structure ClosestPktNum (expected pktNum n found : Nat) : Prop where
  bits : found % 2 ^ n = pktNum
  least : ∀ v, v % 2 ^ n = pktNum → Nat.dist expected found ≤ Nat.dist expected v

theorem window_apart {v w p k : Nat} (hv : v % k = p) (hw : w % k = p) (less : v < w) : v + k ≤ w := by
  have hv := Nat.mod_add_div v k
  have hw := Nat.mod_add_div w k
  have blocks : v / k < w / k := by
    by_contra not
    have := Nat.mul_le_mul_left k (Nat.not_lt.mp not)
    omega
  have := Nat.mul_le_mul_left k blocks
  rw [Nat.mul_succ] at this
  omega

theorem closestPktNum_of_near {k p n v : Nat} (bits : v % 2 ^ n = p) (near : 2 * Nat.dist k v ≤ 2 ^ n) :
    ClosestPktNum k p n v ∧ ∀ w, w % 2 ^ n = p → 2 * Nat.dist k w < 2 ^ n → v = w := by
  simp only [Nat.dist] at near
  refine ⟨⟨bits, fun w same => ?_⟩, fun w same close => ?_⟩
  · rcases Nat.lt_trichotomy w v with less | rfl | more
    · have apart := window_apart same bits less
      simp only [Nat.dist]
      omega
    · exact Nat.le_refl _
    · have apart := window_apart bits same more
      simp only [Nat.dist]
      omega
  · simp only [Nat.dist] at close
    rcases Nat.lt_trichotomy w v with less | same | more
    · have apart := window_apart same bits less
      omega
    · exact same.symm
    · have apart := window_apart bits same more
      omega

/-- The number is recovered unless the closest one lies in the window before that of the expected number. -/
theorem ngtcp2PktAdjustPktNum_closest {m pktNum n : Nat} (width : n = 8 ∨ n = 16 ∨ n = 32) (small : pktNum < 2 ^ n)
    (low : 2 ^ n ≤ m + 1) (high : m + 1 + 2 ^ n < 18446744073709551616) :
    (ClosestPktNum (m + 1) pktNum n (ngtcp2PktAdjustPktNum m pktNum n) ∧
      ∀ v, v % 2 ^ n = pktNum → Nat.dist (m + 1) v < 2 ^ (n - 1) → ngtcp2PktAdjustPktNum m pktNum n = v) ↔
    pktNum ≤ (m + 1) % 2 ^ n + 2 ^ (n - 1) := by
  have rest : (m + 1) % 2 ^ n < 2 ^ n := Nat.mod_lt _ (Nat.two_pow_pos n)
  have below : (m + 1) % 2 ^ n ≤ m + 1 := Nat.mod_le _ _
  have half : 2 ^ n = 2 * 2 ^ (n - 1) := by rcases width with rfl | rfl | rfl <;> rfl
  have aligned : (m + 1 - (m + 1) % 2 ^ n) % 2 ^ n = 0 := Nat.sub_mod_eq_zero_of_mod_eq (by simp)
  have bits (k : Nat) : (m + 1 - (m + 1) % 2 ^ n + k * 2 ^ n + pktNum) % 2 ^ n = pktNum := by
    rw [Nat.add_mod, Nat.add_mul_mod_self_right, aligned, Nat.zero_add, Nat.mod_mod, Nat.mod_eq_of_lt small]
  rw [ngtcp2PktAdjustPktNum_window width small high]
  constructor
  · rintro ⟨closest, -⟩
    by_contra far
    -- the number of the window before is closer
    have before : (m + 1 - (m + 1) % 2 ^ n - 2 ^ n + pktNum) % 2 ^ n = pktNum := by
      have multiple : 2 ^ n ≤ m + 1 - (m + 1) % 2 ^ n := Nat.le_of_dvd (by omega) (Nat.dvd_of_mod_eq_zero aligned)
      rw [← Nat.add_mod_right, show m + 1 - (m + 1) % 2 ^ n - 2 ^ n + pktNum + 2 ^ n =
        m + 1 - (m + 1) % 2 ^ n + pktNum by omega]
      simpa using bits 0
    have closer := closest.least _ before
    rw [if_pos (by omega)] at closer
    simp only [Nat.dist] at closer
    omega
  · intro near
    split
    next =>
      have own := bits 0
      rw [Nat.zero_mul, Nat.add_zero] at own
      obtain ⟨closest, only⟩ := closestPktNum_of_near (k := m + 1) own (by simp only [Nat.dist]; omega)
      exact ⟨closest, fun v same close => only v same (by omega)⟩
    next =>
      have own := bits 1
      rw [Nat.one_mul] at own
      obtain ⟨closest, only⟩ := closestPktNum_of_near (k := m + 1) own (by simp only [Nat.dist]; omega)
      exact ⟨closest, fun v same close => only v same (by omega)⟩

theorem ngtcp2PktAdjustPktNum_closest_515 :
    (ClosestPktNum 513 3 8 (ngtcp2PktAdjustPktNum 512 3 8) ∧
      ∀ v, v % 2 ^ 8 = 3 → Nat.dist 513 v < 2 ^ 7 → ngtcp2PktAdjustPktNum 512 3 8 = v) ↔ 3 ≤ 513 % 2 ^ 8 + 2 ^ 7 :=
  ngtcp2PktAdjustPktNum_closest (m := 512) (n := 8) (by decide) (by decide) (by decide) (by decide)

/-- Packet 511, of which one byte is sent, comes after packet 512. -/
theorem ngtcp2PktAdjustPktNum_late :
    ngtcp2PktAdjustPktNum 512 (511 % 2 ^ 8) 8 = 767 ∧ ¬ ClosestPktNum 513 (511 % 2 ^ 8) 8 767 := by
  refine ⟨by decide, fun closest => ?_⟩
  have closer := closest.least 511 rfl
  simp [Nat.dist] at closer

theorem connSelectPktType_fits (c : Conn) {pktNum : Nat} (later : c.rtb.largestAcked < pktNum)
    (near : pktNum - c.rtb.largestAcked < 2147483648) (bound : pktNum < 18446744073709551616) :
    ∃ width, (connSelectPktType c pktNum).pktNumLen = some width ∧ (8 * width = 8 ∨ 8 * width = 16 ∨ 8 * width = 32) ∧
      2 * (pktNum - c.rtb.largestAcked) < 2 ^ (8 * width) := by
  have distance : sub64 pktNum c.rtb.largestAcked = pktNum - c.rtb.largestAcked := sub64_eq (by omega) bound
  unfold connSelectPktType uint64Max
  simp only [distance, add64]
  split
  · exact ⟨4, rfl, by omega, by omega⟩
  · split
    · exact ⟨4, rfl, by omega, by omega⟩
    · split
      · exact ⟨2, rfl, by omega, by omega⟩
      · exact ⟨1, rfl, by omega, by omega⟩

theorem pktNumBits_eq {hd : PktHd} {width : Nat} (short : hd.longForm = false) (len : hd.type.pktNumLen = some width) :
    pktNumBits hd = 8 * width := by
  obtain ⟨longForm, omitConnId, type, connId, pktNum, version⟩ := hd
  subst short
  cases type <;> cases len <;> rfl

end PktNum

section Roundtrip

variable {w : WireHd} {width : Nat}

def WireHd.short (w : WireHd) (width : Nat) : WireHd :=
  { w with
    hd :=
      { w.hd with
        longForm := false
        connId := if w.hd.omitConnId then 0 else w.hd.connId
        pktNum := w.hd.pktNum % 2 ^ (8 * width)
        version := 0 } }

theorem decodeHdShort_encoded (len : w.hd.type.pktNumLen = some width) (id : w.hd.connId < 18446744073709551616) :
    ∃ bytes : List UInt8,
      (∀ outlen, ngtcp2PktEncodeHdShort outlen w = if outlen < bytes.length then .error .NOBUF else .ok bytes) ∧
      ∀ rest, ngtcp2PktDecodeHdShort (bytes ++ rest) = .ok (w.short width, bytes.length) := by
  obtain ⟨⟨longForm, omitted, type, connId, pktNum, version⟩, keyPhase⟩ := w
  obtain ⟨form, noId, phase, read⟩ := shortBits omitted keyPhase len
  generalize firstByte : type.code ||| (if omitted then 0x40 else 0) ||| (if keyPhase then 0x20 else 0) = first at *
  refine ⟨first :: ((if omitted then [] else beBytes 8 connId) ++ beBytes width pktNum), fun outlen => ?_, fun rest => ?_⟩
  · unfold ngtcp2PktEncodeHdShort
    simp only [len, firstByte]
    cases omitted <;> simp [Nat.add_comm, Nat.add_left_comm]
  · have bits : 256 ^ width = 2 ^ (8 * width) := by rw [Nat.pow_mul]
    cases omitted with
    | true =>
      have number := getUint_append [first] width pktNum rest rfl
      rw [bits] at number
      simp only [List.singleton_append, List.length_singleton] at number
      simp [ngtcp2PktDecodeHdShort, WireHd.short, form, noId, phase, read, len, number, Nat.add_comm]
    | false =>
      have number := getUint_append (first :: beBytes 8 connId) width pktNum rest (p := 9) (by simp)
      have connection := getUint_append [first] 8 connId (beBytes width pktNum ++ rest) rfl
      rw [bits] at number
      rw [Nat.mod_eq_of_lt (by simpa using id)] at connection
      simp only [List.cons_append, List.nil_append, List.length_singleton] at number connection
      simp [ngtcp2PktDecodeHdShort, WireHd.short, form, noId, phase, read, len, number, connection, Nat.add_comm,
        Nat.add_left_comm]

/-- A header is read back, and so is the number of the packet where the peer has received packets up to one
between the largest acknowledged and this one. -/
theorem pktNum_recovered (c : Conn) (connId pktNum version m : Nat) (omitConnId keyPhase : Bool)
    (id : connId < 18446744073709551616) (bound : pktNum < 18446744073709551616)
    (later : c.rtb.largestAcked < pktNum) (near : pktNum - c.rtb.largestAcked < 2147483648)
    (received : c.rtb.largestAcked ≤ m) (newer : m < pktNum) :
    ∃ bytes : List UInt8,
      (∀ outlen, ngtcp2PktEncodeHdShort outlen
        ⟨⟨false, omitConnId, connSelectPktType c pktNum, connId, pktNum, version⟩, keyPhase⟩ =
          if outlen < bytes.length then .error .NOBUF else .ok bytes) ∧
      ∀ rest, ∃ hd : PktHd, ngtcp2PktDecodeHdShort (bytes ++ rest) = .ok (⟨hd, keyPhase⟩, bytes.length) ∧
        hd.longForm = false ∧ hd.omitConnId = omitConnId ∧ hd.type = connSelectPktType c pktNum ∧
        hd.connId = (if omitConnId then 0 else connId) ∧
        ngtcp2PktAdjustPktNum m hd.pktNum (pktNumBits hd) = pktNum := by
  obtain ⟨width, len, bits, fits⟩ := connSelectPktType_fits c later near bound
  obtain ⟨bytes, encoded, decoded⟩ := decodeHdShort_encoded
    (w := ⟨⟨false, omitConnId, connSelectPktType c pktNum, connId, pktNum, version⟩, keyPhase⟩) len id
  refine ⟨bytes, encoded, fun rest => ⟨_, decoded rest, rfl, rfl, rfl, rfl, ?_⟩⟩
  have near' : 2 * (pktNum - m) < 2 ^ (8 * width) := by omega
  rw [pktNumBits_eq rfl len]
  exact ngtcp2PktAdjustPktNum_eq bits newer near' bound

theorem pktNum_recovered_openServer :
    ∃ bytes : List UInt8,
      (∀ outlen, ngtcp2PktEncodeHdShort outlen ⟨⟨false, false, connSelectPktType openServer 3, 7, 3, 1⟩, false⟩ =
          if outlen < bytes.length then .error .NOBUF else .ok bytes) ∧
      ∀ rest, ∃ hd : PktHd, ngtcp2PktDecodeHdShort (bytes ++ rest) = .ok (⟨hd, false⟩, bytes.length) ∧
        hd.longForm = false ∧ hd.omitConnId = false ∧ hd.type = connSelectPktType openServer 3 ∧
        hd.connId = 7 ∧ ngtcp2PktAdjustPktNum 2 hd.pktNum (pktNumBits hd) = 3 :=
  pktNum_recovered openServer 7 3 1 2 false false (by decide) (by decide) (by decide +kernel) (by decide +kernel)
    (by decide +kernel) (by decide)

end Roundtrip

end Ngtcp2
