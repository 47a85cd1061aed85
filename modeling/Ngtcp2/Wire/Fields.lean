import Ngtcp2.Wire.Varint

/-!
# Fields of frames

The decoders go over a payload twice: the first pass adds up the length of the frame, the second reads the
fields.
-/

namespace Ngtcp2

inductive Field where
  | varint
  | fixed (len : Nat)
  /-- Data behind a variable-length integer that gives its length. -/
  | data
  /-- Data behind a byte that gives its length. -/
  | shortData
  deriving DecidableEq, Repr

def Field.minLen : Field → Nat
  | .varint => 1
  | .fixed len => len
  | .data => 1
  | .shortData => 1

def minLen (fields : List Field) : Nat := (fields.map Field.minLen).sum

/-- `if (payloadlen < len) return NGTCP2_ERR_FRAME_FORMAT`. -/
def need (payload : List UInt8) (len : Nat) : Except Err Unit :=
  if payload.length < len then .error .FRAME_FORMAT else .ok ()

def ofRead {α : Type} : Option α → Except Err α
  | none => .error .ABORT
  | some a => .ok a

def scanField (payload : List UInt8) (p len : Nat) : Field → Except Err (Nat × Nat)
  | .varint => do
    let n ← ofRead (ngtcp2GetVarintLen payload p)
    let len := len + (n - 1)
    need payload len
    pure (p + n, len)
  | .fixed k => pure (p + k, len)
  | .data => do
    let n ← ofRead (ngtcp2GetVarintLen payload p)
    let len := len + (n - 1)
    need payload len
    let (datalen, _) ← ofRead (ngtcp2GetVarint payload p)
    let len := len + datalen
    need payload len
    pure (p + n + datalen, len)
  | .shortData => do
    let (datalen, _) ← ofRead (Reader.byte payload p)
    let len := len + datalen.toNat
    need payload len
    pure (p + 1 + datalen.toNat, len)

def scan (payload : List UInt8) : List Field → Nat → Nat → Except Err (Nat × Nat)
  | [], p, len => pure (p, len)
  | field :: fields, p, len => do
    let (p, len) ← scanField payload p len field
    scan payload fields p len

def scanFrom (payload : List UInt8) (fields : List Field) (p len : Nat) : Except Err (Nat × Nat) := do
  let len := len + minLen fields
  need payload len
  scan payload fields p len

/-- `assert((size_t)(p - payload) == len)` and the end of a decoder. -/
def decoded {α : Type} (read : α × Nat) (len : Nat) : Except Err (α × Nat) :=
  if read.2 = len then .ok (read.1, len) else .error .ABORT

def decodeFields {α : Type} (fields : List Field) (read : Reader α) (payload : List UInt8) :
    Except Err (α × Nat) := do
  let (_, len) ← scanFrom payload fields 1 1
  let result ← ofRead (read payload 1)
  decoded result len

def readData : Reader (List UInt8) := do
  let n ← ngtcp2GetVarint
  Reader.bytes n

def readShortData : Reader (List UInt8) := do
  let n ← Reader.byte
  Reader.bytes n.toNat

def sizedData : Grammar (List UInt8) := do
  let n ← varint
  Grammar.bytes n

def shortData : Grammar (List UInt8) := do
  let n ← Grammar.byte
  Grammar.bytes n.toNat

theorem readData_refines : Reader.Refines readData sizedData := ngtcp2GetVarint_refines.bind fun n => .bytes n

theorem readShortData_refines : Reader.Refines readShortData shortData :=
  Reader.Refines.byte.bind fun n => .bytes n.toNat

def Field.skip : Field → Grammar Unit
  | .varint => do
    let _ ← Ngtcp2.varint
    pure ()
  | .fixed len => do
    let _ ← Grammar.bytes len
    pure ()
  | .data => do
    let _ ← sizedData
    pure ()
  | .shortData => do
    let _ ← Ngtcp2.shortData
    pure ()

def skipAll : List Field → Grammar Unit
  | [] => pure ()
  | field :: fields => do
    field.skip
    skipAll fields

theorem Field.skip_local (field : Field) : field.skip.Local := by
  cases field with
  | varint => exact varint_local.bind fun _ => .pure ()
  | fixed len => exact (Grammar.Local.bytes len).bind fun _ => .pure ()
  | data => exact readData_refines.keeps.bind fun _ => .pure ()
  | shortData => exact readShortData_refines.keeps.bind fun _ => .pure ()

theorem skipAll_local (fields : List Field) : (skipAll fields).Local := by
  induction fields with
  | nil => exact .pure ()
  | cons field fields ih => exact field.skip_local.bind fun _ => ih

def outcome {α : Type} (payload : List UInt8) : Option (α × List UInt8) → Except Err (α × Nat)
  | none => .error .FRAME_FORMAT
  | some (a, rest) => .ok (a, payload.length - rest.length)

def scanned (payload : List UInt8) (reserve : Nat) : Option (Unit × List UInt8) → Except Err (Nat × Nat)
  | none => .error .FRAME_FORMAT
  | some (_, rest) =>
    if rest.length < reserve then .error .FRAME_FORMAT
    else .ok (payload.length - rest.length, payload.length - rest.length + reserve)

section Scan

variable {payload : List UInt8}

theorem need_short {len : Nat} (short : payload.length < len) : need payload len = .error .FRAME_FORMAT :=
  if_pos short

theorem need_ok {len : Nat} (long : len ≤ payload.length) : need payload len = .ok () :=
  if_neg (Nat.not_lt_of_le long)

theorem sizedData_cons (b : UInt8) (tail : List UInt8) :
    sizedData (b :: tail) = match varint (b :: tail) with
      | none => none
      | some (n, rest) => if rest.length < n then none else some (rest.take n, rest.drop n) := by
  cases here : varint (b :: tail) with
  | none => exact Grammar.bind_none here
  | some pair => exact Grammar.bind_some here

theorem getVarintLen_of_drop {p : Nat} {b : UInt8} {tail : List UInt8} (here : payload.drop p = b :: tail) :
    ofRead (ngtcp2GetVarintLen payload p) = .ok (varintlenDef b) ∧ payload.length = p + 1 + tail.length := by
  obtain ⟨at_, length⟩ := Reader.getElem?_of_drop here
  exact ⟨by simp [ngtcp2GetVarintLen, at_, ofRead], length⟩

theorem drop_cons {p len : Nat} (room : p + 1 + len ≤ payload.length) : ∃ b tail, payload.drop p = b :: tail := by
  cases here : payload.drop p with
  | nil =>
    have out := List.drop_eq_nil_iff.mp here
    omega
  | cons b tail => exact ⟨b, tail, rfl⟩

theorem scanField_fixed (k p reserve : Nat) (room : p + k + reserve ≤ payload.length) :
    scanField payload p (p + k + reserve) (.fixed k) =
      scanned payload reserve (Field.skip (.fixed k) (payload.drop p)) := by
  have found : (Field.fixed k).skip (payload.drop p) = some ((), payload.drop (p + k)) := by
    have here : Grammar.bytes k (payload.drop p) = some ((payload.drop p).take k, payload.drop (p + k)) := by
      unfold Grammar.bytes
      rw [if_neg (by rw [List.length_drop]; omega), List.drop_drop]
    exact Grammar.bind_some here
  simp only [found, scanned, scanField, List.length_drop, pure, Except.pure]
  rw [if_neg (by omega)]
  congr 2 <;> omega

theorem scanField_varint (p reserve : Nat) (room : p + 1 + reserve ≤ payload.length) :
    scanField payload p (p + 1 + reserve) .varint = scanned payload reserve (Field.skip .varint (payload.drop p)) := by
  obtain ⟨b, tail, here⟩ := drop_cons room
  obtain ⟨first, length⟩ := getVarintLen_of_drop here
  have pos := varintlenDef_pos b
  rw [here]
  simp only [scanField, first, Except.bind, bind]
  by_cases short : tail.length < varintlenDef b - 1
  · have none : Field.varint.skip (b :: tail) = none :=
      Grammar.bind_none (by rw [varint_cons, if_pos short])
    rw [none, need_short (by omega)]
    rfl
  · have found : Field.varint.skip (b :: tail) = some ((), tail.drop (varintlenDef b - 1)) :=
      Grammar.bind_some (by rw [varint_cons, if_neg short])
    rw [found, scanned, List.length_drop]
    by_cases fits : payload.length < p + 1 + reserve + (varintlenDef b - 1)
    · rw [need_short fits, if_pos (by omega)]
    · rw [need_ok (by omega), if_neg (by omega)]
      simp only [pure, Except.pure]
      congr 2 <;> omega

theorem scanField_data (p reserve : Nat) (room : p + 1 + reserve ≤ payload.length) :
    scanField payload p (p + 1 + reserve) .data = scanned payload reserve (Field.skip .data (payload.drop p)) := by
  obtain ⟨b, tail, here⟩ := drop_cons room
  obtain ⟨first, length⟩ := getVarintLen_of_drop here
  have pos := varintlenDef_pos b
  rw [here]
  simp only [scanField, first, Except.bind, bind]
  by_cases short : tail.length < varintlenDef b - 1
  · have none : Field.data.skip (b :: tail) = none :=
      Grammar.bind_none (Grammar.bind_none (by rw [varint_cons, if_pos short]))
    rw [none, need_short (by omega)]
    rfl
  · have number := varint_cons b tail
    rw [if_neg short] at number
    generalize ofBeBytes ((b &&& 0x3f) :: tail.take (varintlenDef b - 1)) = datalen at number
    have read : ofRead (ngtcp2GetVarint payload p) =
        .ok (datalen, payload.length - (tail.drop (varintlenDef b - 1)).length) := by
      rw [ngtcp2GetVarint_refines.run payload p datalen _ (by omega) (by rw [here, number])]
      rfl
    by_cases fits : payload.length < p + 1 + reserve + (varintlenDef b - 1)
    · -- the reserve does not fit behind the number, and even less behind the data
      rw [need_short fits]
      have skipped : Field.data.skip (b :: tail) = none ∨ ∃ rest, rest.length < reserve ∧
          Field.data.skip (b :: tail) = some ((), rest) := by
        by_cases missing : (tail.drop (varintlenDef b - 1)).length < datalen
        · left
          exact Grammar.bind_none (by rw [sizedData_cons, number]; exact if_pos missing)
        · refine .inr ⟨(tail.drop (varintlenDef b - 1)).drop datalen, ?_, ?_⟩
          · simp only [List.length_drop]
            omega
          · exact Grammar.bind_some (by rw [sizedData_cons, number]; exact if_neg missing)
      rcases skipped with none | ⟨rest, less, found⟩
      · rw [none]
        rfl
      · rw [found, scanned, if_pos less]
    · rw [need_ok (by omega)]
      simp only [read]
      by_cases missing : (tail.drop (varintlenDef b - 1)).length < datalen
      · have none : Field.data.skip (b :: tail) = none :=
          Grammar.bind_none (by rw [sizedData_cons, number]; exact if_pos missing)
        rw [List.length_drop] at missing
        rw [none, need_short (by omega)]
        rfl
      · have found : Field.data.skip (b :: tail) =
            some ((), (tail.drop (varintlenDef b - 1)).drop datalen) :=
          Grammar.bind_some (by rw [sizedData_cons, number]; exact if_neg missing)
        rw [List.length_drop] at missing
        rw [found, scanned]
        simp only [List.length_drop]
        by_cases room : payload.length < p + 1 + reserve + (varintlenDef b - 1) + datalen
        · rw [need_short room, if_pos (by omega)]
        · rw [need_ok (by omega), if_neg (by omega)]
          simp only [pure, Except.pure]
          congr 2 <;> omega

theorem scanField_shortData (p reserve : Nat) (room : p + 1 + reserve ≤ payload.length) :
    scanField payload p (p + 1 + reserve) .shortData = scanned payload reserve (Field.skip .shortData (payload.drop p)) := by
  obtain ⟨b, tail, here⟩ := drop_cons room
  obtain ⟨at_, length⟩ := Reader.getElem?_of_drop here
  have first : ofRead (Reader.byte payload p) = .ok (b, p + 1) := by simp [Reader.byte, at_, ofRead]
  rw [here]
  simp only [scanField, first, Except.bind, bind]
  by_cases missing : tail.length < b.toNat
  · have none : Field.shortData.skip (b :: tail) = none :=
      Grammar.bind_none (Grammar.bind_some (g := Grammar.byte) rfl |>.trans (if_pos missing))
    rw [none, need_short (by omega)]
    rfl
  · have found : Field.shortData.skip (b :: tail) = some ((), tail.drop b.toNat) :=
      Grammar.bind_some (Grammar.bind_some (g := Grammar.byte) rfl |>.trans (if_neg missing))
    rw [found, scanned, List.length_drop]
    by_cases room : payload.length < p + 1 + reserve + b.toNat
    · rw [need_short room, if_pos (by omega)]
    · rw [need_ok (by omega), if_neg (by omega)]
      simp only [pure, Except.pure]
      congr 2 <;> omega

theorem scanField_spec (field : Field) (p reserve : Nat) (room : p + field.minLen + reserve ≤ payload.length) :
    scanField payload p (p + field.minLen + reserve) field =
      scanned payload reserve (field.skip (payload.drop p)) := by
  cases field with
  | varint => exact scanField_varint p reserve room
  | fixed k => exact scanField_fixed k p reserve room
  | data => exact scanField_data p reserve room
  | shortData => exact scanField_shortData p reserve room

theorem Field.skip_minLen (field : Field) {s r : List UInt8} (found : field.skip s = some ((), r)) :
    field.minLen + r.length ≤ s.length := by
  have bytes {k : Nat} {s bs rest : List UInt8} (found : Grammar.bytes k s = some (bs, rest)) :
      k + rest.length ≤ s.length := by
    unfold Grammar.bytes at found
    split at found
    · cases found
    · obtain ⟨rfl, rfl⟩ := Option.some.inj found
      rw [List.length_drop]
      omega
  have number {s rest : List UInt8} {n : Nat} (found : Ngtcp2.varint s = some (n, rest)) :
      1 + rest.length ≤ s.length := by
    cases s with
    | nil => cases found
    | cons b tail =>
      rw [varint_cons] at found
      split at found
      · cases found
      · obtain ⟨rfl, rfl⟩ := Option.some.inj found
        simp only [List.length_drop, List.length_cons]
        omega
  cases field with
  | varint =>
    obtain ⟨n, mid, here, ⟨⟩⟩ := Grammar.bind_eq_some found
    exact number here
  | fixed k =>
    obtain ⟨bs, mid, here, ⟨⟩⟩ := Grammar.bind_eq_some found
    exact bytes here
  | data =>
    obtain ⟨bs, mid, here, ⟨⟩⟩ := Grammar.bind_eq_some found
    obtain ⟨n, mid, first, second⟩ := Grammar.bind_eq_some here
    have := number first
    have := bytes second
    simp only [Field.minLen]
    omega
  | shortData =>
    obtain ⟨bs, mid, here, ⟨⟩⟩ := Grammar.bind_eq_some found
    obtain ⟨n, mid, first, second⟩ := Grammar.bind_eq_some here
    have := bytes second
    cases s with
    | nil => cases first
    | cons b tail =>
      obtain ⟨rfl, rfl⟩ := Option.some.inj first
      simp only [Field.minLen, List.length_cons]
      omega

theorem skipAll_minLen {fields : List Field} {s r : List UInt8} (found : skipAll fields s = some ((), r)) :
    minLen fields + r.length ≤ s.length := by
  induction fields generalizing s with
  | nil =>
    obtain ⟨-, rfl⟩ := Option.some.inj found
    simp [minLen]
  | cons field fields ih =>
    obtain ⟨_, mid, first, second⟩ := Grammar.bind_eq_some found
    have here := field.skip_minLen first
    have there := ih second
    simp only [minLen, List.map_cons, List.sum_cons] at there ⊢
    omega

theorem scan_spec (fields : List Field) (p reserve : Nat) (room : p + minLen fields + reserve ≤ payload.length) :
    scan payload fields p (p + minLen fields + reserve) =
      scanned payload reserve (skipAll fields (payload.drop p)) := by
  induction fields generalizing p with
  | nil =>
    simp only [minLen, List.map_nil, List.sum_nil, Nat.add_zero] at room ⊢
    change Except.ok (p, p + reserve) = scanned payload reserve (some ((), payload.drop p))
    rw [scanned, List.length_drop, if_neg (by omega)]
    congr 2 <;> omega
  | cons field fields ih =>
    have total : minLen (field :: fields) = field.minLen + minLen fields := by simp [minLen]
    have step : scanField payload p _ field = _ := scanField_spec field p (minLen fields + reserve) (by omega)
    rw [total, show p + (field.minLen + minLen fields) + reserve = p + field.minLen + (minLen fields + reserve) by
      omega, scan, step]
    cases here : field.skip (payload.drop p) with
    | none =>
      rw [skipAll, Grammar.bind_none here]
      rfl
    | some pair =>
      obtain ⟨_, rest⟩ := pair
      rw [skipAll, Grammar.bind_some here, scanned]
      by_cases short : rest.length < minLen fields + reserve
      · -- the other fields are not all there, or what has to follow them is not
        rw [if_pos short]
        cases there : skipAll fields rest with
        | none => rfl
        | some pair =>
          obtain ⟨_, last⟩ := pair
          have least := skipAll_minLen there
          change _ = scanned payload reserve (some ((), last))
          rw [scanned, if_pos (by omega)]
          rfl
      · obtain ⟨next, within⟩ := Reader.rest_eq field.skip_local payload p here
        rw [if_neg short]
        have later := ih (payload.length - rest.length) (by
          have := (field.skip_local _ _ _ here).length_le
          rw [List.length_drop] at this
          omega)
        rw [next, Nat.add_assoc] at later
        exact later

theorem scanFrom_spec (fields : List Field) {p : Nat} (inside : p ≤ payload.length) :
    scanFrom payload fields p p = scanned payload 0 (skipAll fields (payload.drop p)) := by
  simp only [scanFrom]
  by_cases short : payload.length < p + minLen fields
  · rw [need_short short]
    cases here : skipAll fields (payload.drop p) with
    | none => rfl
    | some pair =>
      have least := skipAll_minLen (r := pair.2) here
      rw [List.length_drop] at least
      omega
  · rw [need_ok (by omega)]
    exact scan_spec fields p 0 (by omega)

end Scan

def Shaped {α : Type} (g : Grammar α) (fields : List Field) : Prop :=
  ∀ s, (g s).map Prod.snd = (skipAll fields s).map Prod.snd

namespace Shaped

variable {α β : Type} {fields : List Field}

theorem pure (a : α) : Shaped (pure a : Grammar α) [] := fun _ => rfl

theorem bind {g : Grammar α} {f : α → Grammar β} {field : Field}
    (first : ∀ s, (g s).map Prod.snd = (field.skip s).map Prod.snd) (second : ∀ a, Shaped (f a) fields) :
    Shaped (g >>= f) (field :: fields) := by
  intro s
  have same := first s
  cases here : g s with
  | none =>
    have none : field.skip s = none := by simpa [here] using same.symm
    rw [Grammar.bind_none here, skipAll, Grammar.bind_none none]
    rfl
  | some pair =>
    obtain ⟨_, found, rest⟩ : ∃ u, field.skip s = some u ∧ u.2 = pair.2 := by
      simpa [here, eq_comm] using same.symm
    rw [Grammar.bind_some (r := pair.2) (a := pair.1) here, skipAll, Grammar.bind_some found, rest]
    exact second pair.1 pair.2

theorem skip_snd {g : Grammar α} (s : List UInt8) :
    (g s).map Prod.snd = ((g >>= fun _ => Pure.pure () : Grammar Unit) s).map Prod.snd := by
  cases here : g s with
  | none =>
    rw [Grammar.bind_none here]
    rfl
  | some pair =>
    rw [Grammar.bind_some (r := pair.2) (a := pair.1) here]
    rfl

theorem varint {f : Nat → Grammar β} (second : ∀ n, Shaped (f n) fields) :
    Shaped (Ngtcp2.varint >>= f) (.varint :: fields) :=
  bind skip_snd second

theorem bytes {k : Nat} {f : List UInt8 → Grammar β} (second : ∀ bs, Shaped (f bs) fields) :
    Shaped (Grammar.bytes k >>= f) (.fixed k :: fields) :=
  bind skip_snd second

theorem number {k : Nat} {f : Nat → Grammar β} (second : ∀ n, Shaped (f n) fields) :
    Shaped (Grammar.number k >>= f) (.fixed k :: fields) := by
  refine bind (fun s => ?_) second
  change ((Grammar.bytes k >>= fun bs => Pure.pure (ofBeBytes bs) : Grammar Nat) s).map Prod.snd =
    ((Grammar.bytes k >>= fun _ => Pure.pure () : Grammar Unit) s).map Prod.snd
  rw [← skip_snd]
  cases here : Grammar.bytes k s with
  | none =>
    rw [Grammar.bind_none here]
    rfl
  | some pair =>
    rw [Grammar.bind_some (r := pair.2) (a := pair.1) here]
    rfl

theorem data {f : List UInt8 → Grammar β} (second : ∀ bs, Shaped (f bs) fields) :
    Shaped (sizedData >>= f) (.data :: fields) :=
  bind skip_snd second

theorem shortData {f : List UInt8 → Grammar β} (second : ∀ bs, Shaped (f bs) fields) :
    Shaped (Ngtcp2.shortData >>= f) (.shortData :: fields) :=
  bind skip_snd second

end Shaped

theorem decodeFields_spec {α : Type} {fields : List Field} {read : Reader α} {g : Grammar α}
    (refines : Reader.Refines read g) (shaped : Shaped g fields) (type : UInt8) (rest : List UInt8) :
    decodeFields fields read (type :: rest) = outcome (type :: rest) (g rest) := by
  have first : scanFrom (type :: rest) fields 1 1 = _ := scanFrom_spec fields (by simp)
  have same := shaped rest
  simp only [List.drop_succ_cons, List.drop_zero] at first
  unfold decodeFields
  rw [first]
  cases here : g rest with
  | none =>
    have none : skipAll fields rest = none := by simpa [here] using same.symm
    rw [none]
    rfl
  | some pair =>
    obtain ⟨a, left⟩ := pair
    obtain ⟨_, found⟩ : ∃ u, skipAll fields rest = some (u, left) := by simpa [here] using same.symm
    have value := refines.run (type :: rest) 1 a left (by simp) here
    simp only [found, scanned, Nat.not_lt_zero, if_false, value, ofRead, decoded, outcome, bind, Except.bind,
      Nat.add_zero, if_true]

end Ngtcp2
