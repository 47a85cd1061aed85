import Ngtcp2.Wire.Params

/-!
# The format of the transport parameters

A version prefix, the length of what follows, and records of a type, a length and a value each.
-/

namespace Ngtcp2

structure ParamRecord where
  type : Nat
  value : List UInt8
  typeBound : type < 65536
  lengthBound : value.length < 65536

def ParamRecord.bytes (r : ParamRecord) : List UInt8 := put16 r.type ++ put16 r.value.length ++ r.value

def recordsBytes (recs : List ParamRecord) : List UInt8 := recs.flatMap ParamRecord.bytes

@[simp] theorem recordsBytes_nil : recordsBytes [] = [] := rfl

@[simp] theorem recordsBytes_cons (r : ParamRecord) (recs : List ParamRecord) :
    recordsBytes (r :: recs) = r.bytes ++ recordsBytes recs := rfl

@[simp] theorem length_put16 (n : Nat) : (put16 n).length = 2 := length_beBytes 2 n

@[simp] theorem length_put32 (n : UInt32) : (put32 n).length = 4 := length_beBytes 4 n.toNat

theorem ParamRecord.length_bytes (r : ParamRecord) : r.bytes.length = 4 + r.value.length := by
  simp [ParamRecord.bytes]
  omega

def versionsFormat (exttype : TransportParamsType) (version : UInt32) (supported : List UInt32) : List UInt8 :=
  match exttype with
  | .CLIENT_HELLO => put32 version
  | .ENCRYPTED_EXTENSIONS => put32 version ++ [UInt8.ofNat (supported.length * 4)] ++ supported.flatMap put32
  | .NEW_SESSION_TICKET => []

def validValue (exttype : TransportParamsType) (id : ParamId) (value : List UInt8) : Bool :=
  match id with
  | .INITIAL_MAX_STREAM_ID_BIDI => validStreamIdBidi (get32 value) exttype
  | .INITIAL_MAX_STREAM_ID_UNI => validStreamIdUni (get32 value) exttype
  | .STATELESS_RESET_TOKEN => hasToken exttype
  | .ACK_DELAY_EXPONENT => value.getD 0 0 ≤ 20
  | _ => true

def acceptsParam (exttype : TransportParamsType) (type : Nat) (value : List UInt8) : Bool :=
  match ParamId.ofCode type with
  | none => true
  | some id => value.length == id.size && validValue exttype id value

structure ParamsFormat (exttype : TransportParamsType) (version : UInt32) (supported : List UInt32)
    (recs : List ParamRecord) (data : List UInt8) : Prop where
  versions : supported.length ≤ maxSupportedVersions
  data : data = versionsFormat exttype version supported ++ (put16 (recordsBytes recs).length ++ recordsBytes recs)
  length : (recordsBytes recs).length < 65536
  accepted : ∀ r ∈ recs, acceptsParam exttype r.type r.value = true
  required : ∀ id ∈ requiredParams exttype, ∃ r ∈ recs, r.type = id.code

theorem ParamId.ofCode_code (id : ParamId) : ParamId.ofCode id.code = some id := by
  cases id <;> decide

theorem ParamId.ofCode_some {n : Nat} {id : ParamId} (found : ParamId.ofCode n = some id) : n = id.code := by
  have same := List.find?_some found
  simpa using (beq_iff_eq.mp same).symm

theorem ParamId.ofCode_iff {n : Nat} {id : ParamId} : ParamId.ofCode n = some id ↔ n = id.code :=
  ⟨ofCode_some, fun same => same ▸ ofCode_code id⟩

section Read

variable {data rest : List UInt8} {p : Nat}

theorem bytes_at {bs : List UInt8} (here : data.drop p = bs ++ rest) (inside : p ≤ data.length) :
    Reader.bytes bs.length data p = some (bs, p + bs.length) ∧ data.drop (p + bs.length) = rest ∧
      data.length = p + bs.length + rest.length := by
  have length := congrArg List.length here
  simp only [List.length_drop, List.length_append] at length
  refine ⟨?_, ?_, by omega⟩
  · unfold Reader.bytes
    rw [if_neg (by omega), here, List.take_left]
  · rw [← List.drop_drop, here, List.drop_left]

theorem number_at {k n : Nat} (here : data.drop p = beBytes k n ++ rest) (bound : n < 256 ^ k)
    (inside : p ≤ data.length) :
    Reader.number k data p = some (n, p + k) ∧ data.drop (p + k) = rest ∧ data.length = p + k + rest.length := by
  have found := bytes_at here inside
  rw [length_beBytes] at found
  refine ⟨?_, found.2⟩
  refine (Reader.bind_some found.1).trans ?_
  change some (ofBeBytes (beBytes k n), p + k) = _
  rw [ofBeBytes_beBytes, Nat.mod_eq_of_lt bound]

theorem split_number {s : List UInt8} (k : Nat) (long : k ≤ s.length) :
    ∃ n rest, s = beBytes k n ++ rest ∧ n < 256 ^ k := by
  have taken : (s.take k).length = k := by
    rw [List.length_take]
    omega
  refine ⟨ofBeBytes (s.take k), s.drop k, ?_, ?_⟩
  · have back := beBytes_ofBeBytes (s.take k)
    rw [taken] at back
    rw [back, List.take_append_drop]
  · have bound := ofBeBytes_lt (s.take k)
    rwa [taken] at bound

end Read

section Step

variable {exttype : TransportParamsType} {data rest : List UInt8} {p : Nat}

def assignParam (id : ParamId) (value : List UInt8) (params : WireParams) : WireParams :=
  match id with
  | .INITIAL_MAX_STREAM_DATA => { params with initialMaxStreamData := get32 value }
  | .INITIAL_MAX_DATA => { params with initialMaxData := get32 value }
  | .INITIAL_MAX_STREAM_ID_BIDI => { params with initialMaxStreamIdBidi := get32 value }
  | .INITIAL_MAX_STREAM_ID_UNI => { params with initialMaxStreamIdUni := get32 value }
  | .IDLE_TIMEOUT => { params with idleTimeout := get16 value }
  | .OMIT_CONNECTION_ID => { params with omitConnectionId := 1 }
  | .MAX_PACKET_SIZE => { params with maxPacketSize := get16 value }
  | .STATELESS_RESET_TOKEN => { params with statelessResetToken := fun i => value.getD i 0 }
  | .SERVER_UNICAST_IP => { params with serverUnicastIp := fun i => get32 ((value.drop (4 * i)).take 4) }
  | .ACK_DELAY_EXPONENT => { params with ackDelayExponent := value.getD 0 0 }

def ParamsScan.store (scan : ParamsScan) (type : Nat) (value : List UInt8) : ParamsScan :=
  match ParamId.ofCode type with
  | none => scan
  | some id => { params := assignParam id value scan.params, flags := id :: scan.flags }

theorem checkParam_bind {α : Type} (ok : Bool) (a : α) :
    (checkParam ok >>= fun _ => .ok a : Except Err α) = if ok then .ok a else .error .MALFORMED_TRANSPORT_PARAM := by
  cases ok <;> rfl

theorem setParam_eq (id : ParamId) (value : List UInt8) (params : WireParams)
    (allowed : (id != .STATELESS_RESET_TOKEN || hasToken exttype) = true) :
    setParam exttype id value params =
      if validValue exttype id value then .ok (assignParam id value params) else .error .MALFORMED_TRANSPORT_PARAM := by
  cases id with
  | INITIAL_MAX_STREAM_ID_BIDI => exact checkParam_bind _ _
  | INITIAL_MAX_STREAM_ID_UNI => exact checkParam_bind _ _
  | ACK_DELAY_EXPONENT => exact checkParam_bind _ _
  | STATELESS_RESET_TOKEN =>
    have has : hasToken exttype = true := by simpa using allowed
    simp only [setParam, validValue, assignParam, has, if_true]
  | _ => rfl

theorem decodeParam_eq (exttype : TransportParamsType) {type len : Nat} (here : data.drop p = put16 type ++ (put16 len ++ rest)) (inside : p ≤ data.length)
    (typeBound : type < 65536) (lenBound : len < 65536) (scan : ParamsScan) :
    decodeParam exttype data p scan =
      if len ≤ rest.length ∧ acceptsParam exttype type (rest.take len) = true then
        .ok (scan.store type (rest.take len), p + 4 + len)
      else .error .MALFORMED_TRANSPORT_PARAM := by
  obtain ⟨first, next, length⟩ := number_at here (by omega) inside
  obtain ⟨second, behind, length'⟩ := number_at next (by omega) (by omega)
  have left : data.length - (p + 2 + 2) = rest.length := by omega
  unfold decodeParam acceptsParam ParamsScan.store
  simp only [first, ofRead, bind, Except.bind]
  rcases known : ParamId.ofCode type with _ | id
  · simp only [second, needParam, left]
    by_cases short : rest.length < len
    · rw [if_pos short, if_neg (by omega)]
    · rw [if_neg short, if_pos ⟨by omega, trivial⟩]
  · dsimp only
    cases allowed : (id != .STATELESS_RESET_TOKEN || hasToken exttype) with
    | false =>
      have refused : validValue exttype id (rest.take len) = false := by
        simp only [Bool.or_eq_false_iff, bne_eq_false_iff_eq] at allowed
        simp [allowed.1, validValue, allowed.2]
      simp [checkParam, refused]
    | true =>
      simp only [checkParam, if_true, readValue, second, ofRead, bind, Except.bind]
      by_cases size : len = id.size
      · subst size
        simp only [beq_self_eq_true, if_true, needParam, left]
        by_cases short : rest.length < id.size
        · rw [if_pos short, if_neg (by omega)]
        · have split : data.drop (p + 2 + 2) = rest.take id.size ++ rest.drop id.size := by
            rw [behind, List.take_append_drop]
          obtain ⟨value, -, -⟩ := bytes_at split (by omega)
          have taken : (rest.take id.size).length = id.size := by
            rw [List.length_take]
            omega
          rw [taken] at value
          rw [if_neg short]
          simp only [value, setParam_eq id _ _ allowed, taken, beq_self_eq_true, Bool.true_and]
          by_cases valid : validValue exttype id (rest.take id.size) = true
          · rw [if_pos valid, if_pos ⟨by omega, valid⟩]
          · rw [if_neg valid, if_neg (fun both => valid both.2)]
      · have other : (len == id.size) = false := by simpa using size
        have differs : len ≤ rest.length → (rest.take len).length ≠ id.size := by
          intro long
          rw [List.length_take]
          omega
        rw [other, if_neg (by simp), if_neg]
        rintro ⟨long, accepted⟩
        simp only [Bool.and_eq_true, beq_iff_eq] at accepted
        exact differs long accepted.1

end Step

section Loop

variable {exttype : TransportParamsType} {data : List UInt8} {p : Nat}

def storeAll (recs : List ParamRecord) (scan : ParamsScan) : ParamsScan :=
  recs.foldl (fun scan r => scan.store r.type r.value) scan

theorem decodeParam_record {r : ParamRecord} {rest : List UInt8} (here : data.drop p = r.bytes ++ rest)
    (inside : p ≤ data.length) (accepted : acceptsParam exttype r.type r.value = true) (scan : ParamsScan) :
    decodeParam exttype data p scan = .ok (scan.store r.type r.value, p + r.bytes.length) ∧
      data.drop (p + r.bytes.length) = rest ∧ p + r.bytes.length ≤ data.length := by
  have next := bytes_at here inside
  simp only [ParamRecord.bytes, List.append_assoc] at here
  have step := decodeParam_eq exttype here inside r.typeBound r.lengthBound scan
  rw [List.take_left, if_pos ⟨by simp, accepted⟩] at step
  refine ⟨?_, next.2.1, by omega⟩
  rw [step, r.length_bytes, Nat.add_assoc]

theorem decodeParams_records {recs : List ParamRecord} (here : data.drop p = recordsBytes recs) (inside : p ≤ data.length)
    (accepted : ∀ r ∈ recs, acceptsParam exttype r.type r.value = true) (rounds : Nat) (enough : data.length - p < rounds)
    (scan : ParamsScan) :
    decodeParams exttype data rounds p scan = some (.ok (storeAll recs scan, data.length)) := by
  induction recs generalizing p rounds scan with
  | nil =>
    obtain ⟨rounds, rfl⟩ : ∃ n, rounds = n + 1 := ⟨rounds - 1, by omega⟩
    have ended : p = data.length := Nat.le_antisymm inside (List.drop_eq_nil_iff.mp here)
    simp [decodeParams, ended, storeAll]
  | cons r recs ih =>
    obtain ⟨rounds, rfl⟩ : ∃ n, rounds = n + 1 := ⟨rounds - 1, by omega⟩
    have length := r.length_bytes
    obtain ⟨step, next, more⟩ := decodeParam_record here inside (accepted r (by simp)) scan
    rw [decodeParams, if_neg (by omega), step]
    exact ih next more (fun r member => accepted r (by simp [member])) rounds (by omega) _

theorem decodeParams_total (exttype : TransportParamsType) (inside : p ≤ data.length) (rounds : Nat)
    (enough : data.length - p < rounds) (scan : ParamsScan) :
    decodeParams exttype data rounds p scan = some (.error .MALFORMED_TRANSPORT_PARAM) ∨
    ∃ recs rest, decodeParams exttype data rounds p scan = some (.ok (storeAll recs scan, data.length - rest.length)) ∧
      data.drop p = recordsBytes recs ++ rest ∧ ∀ r ∈ recs, acceptsParam exttype r.type r.value = true := by
  induction rounds generalizing p scan with
  | zero => omega
  | succ rounds ih =>
    rw [decodeParams]
    by_cases short : data.length - p < 4
    · refine .inr ⟨[], data.drop p, ?_, rfl, by simp⟩
      have position : data.length - (data.drop p).length = p := by
        rw [List.length_drop]
        omega
      rw [if_pos short, position]
      rfl
    · obtain ⟨type, rest, front, typeBound⟩ := split_number (s := data.drop p) 2 (by rw [List.length_drop]; omega)
      have length := congrArg List.length front
      simp only [List.length_drop, List.length_append, length_beBytes] at length
      obtain ⟨len, rest, rfl, lenBound⟩ := split_number (s := rest) 2 (by omega)
      simp only [List.length_append, length_beBytes] at length
      rw [if_neg short, decodeParam_eq exttype front inside typeBound lenBound]
      by_cases taken : len ≤ rest.length ∧ acceptsParam exttype type (rest.take len) = true
      · rw [if_pos taken]
        have value : (rest.take len).length = len := by
          rw [List.length_take]
          omega
        have position : data.drop (p + 4 + len) = rest.drop len := by
          obtain ⟨-, next, -⟩ := number_at front typeBound inside
          obtain ⟨-, behind, -⟩ := number_at next lenBound (by omega)
          rw [← List.drop_drop, show p + 4 = p + 2 + 2 from rfl, behind]
        rcases ih (p := p + 4 + len) (by omega) (by omega) (scan.store type (rest.take len)) with
          failed | ⟨recs, last, run, bytes, accepted⟩
        · exact .inl failed
        · refine .inr ⟨⟨type, rest.take len, typeBound, value.symm ▸ lenBound⟩ :: recs, last, run, ?_, ?_⟩
          · rw [front, recordsBytes_cons, List.append_assoc, ← bytes, position]
            simp only [ParamRecord.bytes, put16, value, List.append_assoc, List.take_append_drop]
          · intro r member
            rcases List.mem_cons.mp member with rfl | member
            · exact taken.2
            · exact accepted r member
      · rw [if_neg taken]
        exact .inl rfl

end Loop

section Versions

variable {exttype : TransportParamsType} {data rest : List UInt8} {version : UInt32} {supported : List UInt32}

def WireParams.setVersions (params : WireParams) (exttype : TransportParamsType) (version : UInt32)
    (supported : List UInt32) : WireParams :=
  match exttype with
  | .CLIENT_HELLO => { params with version := version }
  | .ENCRYPTED_EXTENSIONS => { params with version := version, supportedVersions := supported }
  | .NEW_SESSION_TICKET => params

theorem number_put32 {p : Nat} {n : UInt32} (here : data.drop p = put32 n ++ rest) (inside : p ≤ data.length) :
    Reader.number 4 data p = some (n.toNat, p + 4) ∧ data.drop (p + 4) = rest ∧ data.length = p + 4 + rest.length :=
  number_at here n.toNat_lt inside

theorem many_put32 {p : Nat} (here : data.drop p = supported.flatMap put32 ++ rest) (inside : p ≤ data.length) :
    Reader.many (Reader.number 4) supported.length data p =
      some (supported.map UInt32.toNat, p + supported.length * 4) := by
  induction supported generalizing p with
  | nil => rfl
  | cons n supported ih =>
    rw [List.flatMap_cons, List.append_assoc] at here
    obtain ⟨first, next, length⟩ := number_put32 here inside
    have later := ih next (by omega)
    refine (Reader.bind_some first).trans ((Reader.bind_some later).trans ?_)
    change some (n.toNat :: supported.map UInt32.toNat, p + 4 + supported.length * 4) = _
    rw [List.length_cons, Nat.succ_mul, Nat.add_assoc, Nat.add_comm 4]
    rfl

theorem length_flatMap_put32 (supported : List UInt32) : (supported.flatMap put32).length = supported.length * 4 := by
  induction supported with
  | nil => rfl
  | cons n supported ih => simp [ih, Nat.succ_mul, Nat.add_comm]

theorem decodeVersions_format (count : supported.length ≤ maxSupportedVersions) (params : WireParams)
    (here : data = versionsFormat exttype version supported ++ rest) :
    decodeVersions exttype data params =
      .ok (params.setVersions exttype version supported, (versionsFormat exttype version supported).length) := by
  have length := congrArg List.length here
  cases exttype with
  | CLIENT_HELLO =>
    obtain ⟨first, -, long⟩ := number_put32 (p := 0) here (Nat.zero_le _)
    simp only [decodeVersions, needParam, Nat.sub_zero, if_neg (show ¬ data.length < 4 by omega), first, ofRead, bind,
      Except.bind, UInt32.ofNat_toNat, WireParams.setVersions, versionsFormat, length_put32]
  | ENCRYPTED_EXTENSIONS =>
    simp only [versionsFormat, List.append_assoc] at here
    obtain ⟨first, next, long⟩ := number_put32 (p := 0) here (Nat.zero_le _)
    rw [Nat.zero_add] at first next long
    unfold maxSupportedVersions at count
    have small : (UInt8.ofNat (supported.length * 4)).toNat = supported.length * 4 := by
      rw [UInt8.toNat_ofNat', Nat.mod_eq_of_lt (by omega)]
    have size : data.length = 4 + (1 + (supported.length * 4 + rest.length)) := by
      rw [long, List.length_append, List.length_append, length_flatMap_put32]
      rfl
    obtain ⟨byte, -⟩ := Reader.getElem?_of_drop next
    have behind : data.drop (4 + 1) = supported.flatMap put32 ++ rest := by
      rw [← List.drop_drop, next]
      rfl
    have versions := many_put32 behind (by omega)
    have back : (supported.map UInt32.toNat).map UInt32.ofNat = supported := by
      rw [List.map_map]
      exact List.map_id'' (fun n => UInt32.ofNat_toNat) supported
    simp only [decodeVersions, needParam, Nat.sub_zero, if_neg (show ¬ data.length < 5 by omega), first, ofRead, bind,
      Except.bind, Reader.byte, byte, small, if_neg (show ¬ data.length - (4 + 1) < supported.length * 4 by omega), checkParam,
      Nat.mul_mod_left, beq_self_eq_true, if_true, Nat.mul_div_cancel _ (show 0 < 4 by decide), versions, List.length_map,
      if_neg (show ¬ maxSupportedVersions < supported.length by unfold maxSupportedVersions; omega), back,
      UInt32.ofNat_toNat, WireParams.setVersions, versionsFormat, List.length_append, length_put32, length_flatMap_put32,
      List.length_singleton]
  | NEW_SESSION_TICKET => rfl

theorem split_put32 {s : List UInt8} (n : Nat) (long : n * 4 ≤ s.length) :
    ∃ (supported : List UInt32) (rest : List UInt8), s = supported.flatMap put32 ++ rest ∧ supported.length = n := by
  induction n generalizing s with
  | zero => exact ⟨[], s, rfl, rfl⟩
  | succ n ih =>
    obtain ⟨v, rest, rfl, bound⟩ := split_number (s := s) 4 (by omega)
    rw [List.length_append, length_beBytes] at long
    obtain ⟨supported, rest, rfl, length⟩ := ih (s := rest) (by omega)
    refine ⟨UInt32.ofNat v :: supported, rest, ?_, by simp [length]⟩
    have back : (UInt32.ofNat v).toNat = v := UInt32.toNat_ofNat_of_lt' bound
    rw [List.flatMap_cons, put32, back, List.append_assoc]

theorem decodeVersions_encrypted {data : List UInt8} {version p : Nat} {b : UInt8} (params : WireParams)
    (long : ¬ data.length < 5) (read : Reader.number 4 data 0 = some (version, p)) (byte : data[p]? = some b) :
    decodeVersions .ENCRYPTED_EXTENSIONS data params = (do
      needParam data (p + 1) b.toNat
      checkParam (b.toNat % 4 == 0)
      let (versions, p) ← ofRead (Reader.many (Reader.number 4) (b.toNat / 4) data (p + 1))
      if maxSupportedVersions < versions.length then .error .ABORT
      else .ok ({ params with version := UInt32.ofNat version, supportedVersions := versions.map UInt32.ofNat }, p)) := by
  simp only [decodeVersions, needParam, Nat.sub_zero, if_neg long, read, ofRead, bind, Except.bind, Reader.byte, byte]

theorem decodeVersions_total (exttype : TransportParamsType) (data : List UInt8) (params : WireParams) :
    decodeVersions exttype data params = .error .MALFORMED_TRANSPORT_PARAM ∨
      ∃ (version : UInt32) (supported : List UInt32) (rest : List UInt8), supported.length ≤ maxSupportedVersions ∧
        data = versionsFormat exttype version supported ++ rest := by
  cases exttype with
  | CLIENT_HELLO =>
    by_cases short : data.length < 4
    · left
      simp [decodeVersions, needParam, short, bind, Except.bind]
    · obtain ⟨supported, rest, split, length⟩ := split_put32 (s := data) 1 (by omega)
      obtain ⟨version, rfl⟩ := List.length_eq_one_iff.mp length
      exact .inr ⟨version, [], rest, by simp, by simpa [versionsFormat] using split⟩
  | ENCRYPTED_EXTENSIONS =>
    by_cases short : data.length < 5
    · left
      simp [decodeVersions, needParam, short, bind, Except.bind]
    · obtain ⟨first, rest, split, length⟩ := split_put32 (s := data) 1 (by omega)
      obtain ⟨version, rfl⟩ := List.length_eq_one_iff.mp length
      rw [List.flatMap_singleton] at split
      have size := congrArg List.length split
      rw [List.length_append, length_put32] at size
      obtain ⟨b, rest, rfl⟩ := List.exists_cons_of_length_pos (l := rest) (by omega)
      rw [List.length_cons] at size
      obtain ⟨read, next, -⟩ := number_put32 (p := 0) split (Nat.zero_le _)
      rw [Nat.zero_add] at read next
      obtain ⟨byte, -⟩ := Reader.getElem?_of_drop next
      have left : data.length - (4 + 1) = rest.length := by omega
      have run := decodeVersions_encrypted params short read byte
      by_cases few : rest.length < b.toNat
      · left
        simp [run, needParam, left, few, bind, Except.bind]
      · by_cases odd : b.toNat % 4 = 0
        · obtain ⟨supported, rest, rfl, count⟩ := split_put32 (s := rest) (b.toNat / 4) (by omega)
          have top := b.toNat_lt
          refine .inr ⟨version, supported, rest, by unfold maxSupportedVersions; omega, ?_⟩
          have exact : UInt8.ofNat (supported.length * 4) = b := by
            rw [count, Nat.div_mul_cancel (Nat.dvd_of_mod_eq_zero odd), UInt8.ofNat_toNat]
          rw [split]
          simp [versionsFormat, exact]
        · left
          simp [run, needParam, left, few, checkParam, odd, bind, Except.bind]
  | NEW_SESSION_TICKET => exact .inr ⟨0, [], data, by simp, rfl⟩

end Versions

section Decoder

variable {exttype : TransportParamsType} {data : List UInt8} {version : UInt32} {supported : List UInt32}
  {recs : List ParamRecord}

theorem mem_flags (id : ParamId) (scan : ParamsScan) :
    id ∈ (storeAll recs scan).flags ↔ id ∈ scan.flags ∨ ∃ r ∈ recs, r.type = id.code := by
  induction recs generalizing scan with
  | nil => simp [storeAll]
  | cons r recs ih =>
    have first : id ∈ (scan.store r.type r.value).flags ↔ id ∈ scan.flags ∨ r.type = id.code := by
      unfold ParamsScan.store
      cases known : ParamId.ofCode r.type with
      | none =>
        have other : r.type ≠ id.code := fun same => by simp [ParamId.ofCode_iff.mpr same] at known
        simp [other]
      | some id' =>
        have same : r.type = id.code ↔ id = id' := by
          rw [← ParamId.ofCode_iff, known, Option.some_inj, eq_comm]
        simp [same, or_comm]
    change id ∈ (storeAll recs (scan.store r.type r.value)).flags ↔ _
    rw [ih, first, or_assoc]
    simp

theorem requiredSeen_iff (params : WireParams) :
    ((requiredParams exttype).all fun id => id ∈ (storeAll recs { params := params, flags := [] }).flags) = true ↔
      ∀ id ∈ requiredParams exttype, ∃ r ∈ recs, r.type = id.code := by
  simp [List.all_eq_true, mem_flags]

def paramsRead (params : WireParams) (exttype : TransportParamsType) (version : UInt32) (supported : List UInt32)
    (recs : List ParamRecord) : WireParams :=
  defaultParams (storeAll recs { params := params.setVersions exttype version supported, flags := [] })

theorem decodeFront_format {len : Nat} {rest : List UInt8} (count : supported.length ≤ maxSupportedVersions)
    (bound : len < 65536) (here : data = versionsFormat exttype version supported ++ (put16 len ++ rest))
    (params : WireParams) :
    decodeFront exttype data params =
        (if len = rest.length then
          .ok (params.setVersions exttype version supported, (versionsFormat exttype version supported).length + 2)
        else .error .MALFORMED_TRANSPORT_PARAM) ∧
      data.drop ((versionsFormat exttype version supported).length + 2) = rest ∧
      data.length = (versionsFormat exttype version supported).length + 2 + rest.length := by
  have position : data.drop (versionsFormat exttype version supported).length = put16 len ++ rest := by
    rw [here, List.drop_left]
  obtain ⟨read, next, length⟩ := number_at position bound (by rw [here, List.length_append]; omega)
  refine ⟨?_, next, length⟩
  simp only [decodeFront, decodeVersions_format count params here, bind, Except.bind, needParam]
  rw [if_neg (by omega)]
  simp only [read, ofRead, checkParam]
  by_cases same : len = rest.length
  · rw [if_pos same, length, same]
    simp
  · have differ : ((versionsFormat exttype version supported).length + 2 + len == data.length) = false := by
      rw [length]
      simpa using same
    rw [if_neg same, differ]
    rfl

theorem ParamsFormat.decoded (format : ParamsFormat exttype version supported recs data) (params : WireParams) :
    ngtcp2DecodeTransportParams params exttype data =
      some (.ok (paramsRead params exttype version supported recs)) := by
  obtain ⟨front, here, length⟩ := decodeFront_format format.versions format.length format.data params
  rw [if_pos rfl] at front
  have loop := decodeParams_records here (by omega) format.accepted (data.length + 1) (by omega)
    { params := params.setVersions exttype version supported, flags := [] }
  simp only [ngtcp2DecodeTransportParams, front, loop, finishParams, Nat.sub_self, ne_eq, not_true_eq_false, if_false]
  rw [if_pos ((requiredSeen_iff _).mpr format.required)]
  rfl

theorem ngtcp2DecodeTransportParams_total (params : WireParams) (exttype : TransportParamsType) (data : List UInt8) :
    ngtcp2DecodeTransportParams params exttype data = some (.error .MALFORMED_TRANSPORT_PARAM) ∨
    ngtcp2DecodeTransportParams params exttype data = some (.error .REQUIRED_TRANSPORT_PARAM) ∨
    ∃ version supported recs, ParamsFormat exttype version supported recs data := by
  rcases decodeVersions_total exttype data params with
    failed | ⟨version, supported, rest, count, here⟩
  · left
    simp [ngtcp2DecodeTransportParams, decodeFront, failed, bind, Except.bind]
  have size := congrArg List.length here
  rw [List.length_append] at size
  by_cases short : rest.length < 2
  · left
    have less : data.length - (versionsFormat exttype version supported).length < 2 := by omega
    simp only [ngtcp2DecodeTransportParams, decodeFront, decodeVersions_format count params here, bind, Except.bind,
      needParam, if_pos less]
  obtain ⟨len, rest, rfl, bound⟩ := split_number (s := rest) 2 (by omega)
  obtain ⟨front, position, length⟩ := decodeFront_format count bound here params
  by_cases whole : len = rest.length
  swap
  · left
    rw [if_neg whole] at front
    simp only [ngtcp2DecodeTransportParams, front]
  rw [if_pos whole] at front
  have inside : (versionsFormat exttype version supported).length + 2 ≤ data.length := by omega
  rcases decodeParams_total exttype inside (data.length + 1) (by omega)
      { params := params.setVersions exttype version supported, flags := [] } with
    failed | ⟨recs, last, run, bytes, accepted⟩
  · left
    simp only [ngtcp2DecodeTransportParams, front, failed]
  rw [position] at bytes
  have tail := congrArg List.length bytes
  rw [List.length_append] at tail
  by_cases empty : last.length = 0
  swap
  · left
    have more : data.length - (data.length - last.length) ≠ 0 := by omega
    simp only [ngtcp2DecodeTransportParams, front, run, finishParams, if_pos more]
  by_cases required : ∀ id ∈ requiredParams exttype, ∃ r ∈ recs, r.type = id.code
  · right; right
    rw [List.length_eq_zero_iff.mp empty, List.append_nil] at bytes
    refine ⟨version, supported, recs, count, ?_, by omega, accepted, required⟩
    rw [here, ← bytes, ← whole]
    rfl
  · right; left
    have missing := mt (requiredSeen_iff (params.setVersions exttype version supported)).mp required
    have ended : ¬ data.length - (data.length - last.length) ≠ 0 := by omega
    simp only [ngtcp2DecodeTransportParams, front, run, finishParams, if_neg ended, if_neg missing]

end Decoder

end Ngtcp2
