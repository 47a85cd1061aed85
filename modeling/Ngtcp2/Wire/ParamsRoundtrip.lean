import Mathlib.Tactic.FinCases
import Ngtcp2.Wire.ParamsFormat

/-!
# What is read of the transport parameters

A parameter has the value of its last record.
-/

namespace Ngtcp2

def lastValue (id : ParamId) : List ParamRecord → Option (List UInt8)
  | [] => none
  | r :: recs => (lastValue id recs).or (if r.type = id.code then some r.value else none)

section Last

variable {recs : List ParamRecord} {id : ParamId}

theorem lastValue_append (recs later : List ParamRecord) :
    lastValue id (recs ++ later) = (lastValue id later).or (lastValue id recs) := by
  induction recs with
  | nil => simp [lastValue]
  | cons r recs ih => simp [lastValue, ih, Option.or_assoc]

theorem lastValue_isSome : (lastValue id recs).isSome = true ↔ ∃ r ∈ recs, r.type = id.code := by
  induction recs with
  | nil => simp [lastValue]
  | cons r recs ih =>
    by_cases same : r.type = id.code
    · simp [lastValue, same]
    · simp [lastValue, same, ih]

theorem lastValue_mem {value : List UInt8} (found : lastValue id recs = some value) :
    ∃ r ∈ recs, r.type = id.code ∧ r.value = value := by
  induction recs with
  | nil => cases found
  | cons r recs ih =>
    rcases Option.or_eq_some_iff.mp found with later | ⟨-, here⟩
    · obtain ⟨r', member, same⟩ := ih later
      exact ⟨r', List.mem_cons_of_mem _ member, same⟩
    · split at here
      next type => exact ⟨r, List.mem_cons_self, type, Option.some.inj here⟩
      next => cases here

theorem storeAll_field {τ : Type} (recs : List ParamRecord) {field : WireParams → τ} {read : List UInt8 → τ}
    (assigned : ∀ id' value params, field (assignParam id' value params) = if id' = id then read value else field params)
    (scan : ParamsScan) :
    field (storeAll recs scan).params = ((lastValue id recs).map read).getD (field scan.params) := by
  induction recs generalizing scan with
  | nil => rfl
  | cons r recs ih =>
    have first : field (scan.store r.type r.value).params =
        if r.type = id.code then read r.value else field scan.params := by
      unfold ParamsScan.store
      cases known : ParamId.ofCode r.type with
      | none =>
        have other : r.type ≠ id.code := fun same => by simp [ParamId.ofCode_iff.mpr same] at known
        rw [if_neg other]
      | some id' =>
        have same : id' = id ↔ r.type = id.code := by
          rw [← ParamId.ofCode_iff, known, Option.some_inj]
        simp only [assigned, same]
    change field (storeAll recs (scan.store r.type r.value)).params = _
    rw [ih, first, lastValue]
    cases lastValue id recs with
    | some value => simp
    | none => by_cases same : r.type = id.code <;> simp [same]

end Last

section Fields

variable (params : WireParams) (exttype : TransportParamsType) (version : UInt32) (supported : List UInt32)
  (recs : List ParamRecord)

theorem storeAll_versions (scan : ParamsScan) :
    (storeAll recs scan).params.version = scan.params.version ∧
      (storeAll recs scan).params.supportedVersions = scan.params.supportedVersions := by
  induction recs generalizing scan with
  | nil => exact ⟨rfl, rfl⟩
  | cons r recs ih =>
    have first : (scan.store r.type r.value).params.version = scan.params.version ∧
        (scan.store r.type r.value).params.supportedVersions = scan.params.supportedVersions := by
      unfold ParamsScan.store
      cases ParamId.ofCode r.type with
      | none => exact ⟨rfl, rfl⟩
      | some id => cases id <;> exact ⟨rfl, rfl⟩
    obtain ⟨version, supported⟩ := ih (scan.store r.type r.value)
    exact ⟨version.trans first.1, supported.trans first.2⟩

theorem seen_getD {τ : Type} {id : ParamId} {read : List UInt8 → τ} {old default : τ} :
    (if id ∈ (storeAll recs { params := params, flags := [] }).flags then ((lastValue id recs).map read).getD old
      else default) = ((lastValue id recs).map read).getD default := by
  have seen : id ∈ (storeAll recs { params := params, flags := [] }).flags ↔ (lastValue id recs).isSome = true := by
    rw [mem_flags, lastValue_isSome]
    simp
  simp only [seen]
  cases lastValue id recs <;> simp

theorem paramsRead_eq :
    paramsRead params exttype version supported recs =
      { version := (params.setVersions exttype version supported).version
        supportedVersions := (params.setVersions exttype version supported).supportedVersions
        initialMaxStreamData :=
          ((lastValue .INITIAL_MAX_STREAM_DATA recs).map get32).getD params.initialMaxStreamData
        initialMaxData := ((lastValue .INITIAL_MAX_DATA recs).map get32).getD params.initialMaxData
        initialMaxStreamIdBidi := ((lastValue .INITIAL_MAX_STREAM_ID_BIDI recs).map get32).getD 0
        initialMaxStreamIdUni := ((lastValue .INITIAL_MAX_STREAM_ID_UNI recs).map get32).getD 0
        idleTimeout := ((lastValue .IDLE_TIMEOUT recs).map get16).getD params.idleTimeout
        omitConnectionId := ((lastValue .OMIT_CONNECTION_ID recs).map fun _ => 1).getD 0
        maxPacketSize := ((lastValue .MAX_PACKET_SIZE recs).map get16).getD maxPktSize
        statelessResetToken :=
          ((lastValue .STATELESS_RESET_TOKEN recs).map fun value (i : Fin 16) => value.getD i 0).getD params.statelessResetToken
        serverUnicastIp :=
          ((lastValue .SERVER_UNICAST_IP recs).map fun value (i : Fin 4) => get32 ((value.drop (4 * i)).take 4)).getD
            params.serverUnicastIp
        ackDelayExponent :=
          ((lastValue .ACK_DELAY_EXPONENT recs).map fun value => value.getD 0 0).getD defaultAckDelayExponent } := by
  unfold paramsRead defaultParams
  dsimp only
  have field {τ : Type} (id : ParamId) (field : WireParams → τ) (read : List UInt8 → τ)
      (assigned : ∀ id' value params, field (assignParam id' value params) = if id' = id then read value else field params) :=
    storeAll_field recs assigned { params := params.setVersions exttype version supported, flags := [] }
  rw [(storeAll_versions recs _).1, (storeAll_versions recs _).2,
    field .INITIAL_MAX_STREAM_DATA WireParams.initialMaxStreamData get32 (by rintro ⟨⟩ _ _ <;> rfl),
    field .INITIAL_MAX_DATA WireParams.initialMaxData get32 (by rintro ⟨⟩ _ _ <;> rfl),
    field .INITIAL_MAX_STREAM_ID_BIDI WireParams.initialMaxStreamIdBidi get32 (by rintro ⟨⟩ _ _ <;> rfl),
    field .INITIAL_MAX_STREAM_ID_UNI WireParams.initialMaxStreamIdUni get32 (by rintro ⟨⟩ _ _ <;> rfl),
    field .IDLE_TIMEOUT WireParams.idleTimeout get16 (by rintro ⟨⟩ _ _ <;> rfl),
    field .OMIT_CONNECTION_ID WireParams.omitConnectionId (fun _ => 1) (by rintro ⟨⟩ _ _ <;> rfl),
    field .MAX_PACKET_SIZE WireParams.maxPacketSize get16 (by rintro ⟨⟩ _ _ <;> rfl),
    field .STATELESS_RESET_TOKEN WireParams.statelessResetToken (fun value (i : Fin 16) => value.getD i 0)
      (by rintro ⟨⟩ _ _ <;> rfl),
    field .SERVER_UNICAST_IP WireParams.serverUnicastIp (fun value (i : Fin 4) => get32 ((value.drop (4 * i)).take 4))
      (by rintro ⟨⟩ _ _ <;> rfl),
    field .ACK_DELAY_EXPONENT WireParams.ackDelayExponent (fun value => value.getD 0 0) (by rintro ⟨⟩ _ _ <;> rfl),
    seen_getD, seen_getD, seen_getD, seen_getD, seen_getD]
  cases exttype <;> rfl

end Fields

/-- The decoder reads inside the data, stores no more versions than there is room for, returns, and takes
exactly what has the format. -/
theorem transportParams_safe (params : WireParams) (exttype : TransportParamsType) (data : List UInt8) :
    ∃ r, ngtcp2DecodeTransportParams params exttype data = some r ∧ r ≠ .error .ABORT ∧
      (∀ out, r = .ok out → exttype = .ENCRYPTED_EXTENSIONS → out.supportedVersions.length ≤ 63) ∧
      ((∃ out, r = .ok out) ↔ ∃ version supported recs, ParamsFormat exttype version supported recs data) := by
  by_cases formatted : ∃ version supported recs, ParamsFormat exttype version supported recs data
  · obtain ⟨version, supported, recs, format⟩ := formatted
    refine ⟨_, format.decoded params, nofun, ?_, fun _ => ⟨version, supported, recs, format⟩, fun _ => ⟨_, rfl⟩⟩
    rintro out ⟨⟩ rfl
    rw [paramsRead_eq]
    exact format.versions
  · rcases ngtcp2DecodeTransportParams_total params exttype data with failed | failed | format
    · exact ⟨_, failed, nofun, nofun, nofun, fun format => absurd format formatted⟩
    · exact ⟨_, failed, nofun, nofun, nofun, fun format => absurd format formatted⟩
    · exact absurd format formatted

section Determined

def WireParams.fields (exttype : TransportParamsType) (params : WireParams) : WireParams :=
  { params with
    version := if exttype = .NEW_SESSION_TICKET then 0 else params.version
    supportedVersions := if exttype = .ENCRYPTED_EXTENSIONS then params.supportedVersions else [] }

def WireParams.carried (exttype : TransportParamsType) (params : WireParams) : WireParams :=
  { params.fields exttype with
    statelessResetToken := if hasToken exttype then params.statelessResetToken else fun _ => 0 }

def Absent (id : ParamId) (recs : List ParamRecord) : Prop := ∀ r ∈ recs, r.type ≠ id.code

theorem lastValue_absent {id : ParamId} {recs : List ParamRecord} (absent : Absent id recs) : lastValue id recs = none := by
  cases found : lastValue id recs with
  | none => rfl
  | some value =>
    obtain ⟨r, member, same, -⟩ := lastValue_mem found
    exact absurd same (absent r member)

structure TakesDefaults (recs : List ParamRecord) (out : WireParams) : Prop where
  bidi : Absent .INITIAL_MAX_STREAM_ID_BIDI recs → out.initialMaxStreamIdBidi = 0
  uni : Absent .INITIAL_MAX_STREAM_ID_UNI recs → out.initialMaxStreamIdUni = 0
  omitted : Absent .OMIT_CONNECTION_ID recs → out.omitConnectionId = 0
  size : Absent .MAX_PACKET_SIZE recs → out.maxPacketSize = maxPktSize
  exponent : Absent .ACK_DELAY_EXPONENT recs → out.ackDelayExponent = defaultAckDelayExponent
  ip : Absent .SERVER_UNICAST_IP recs → out.serverUnicastIp = fun _ => 0

structure Determined (fields : WireParams → WireParams) (exttype : TransportParamsType) (data : List UInt8) : Prop where
  same : ∀ p q p' q', ngtcp2DecodeTransportParams p exttype data = some (.ok p') →
    ngtcp2DecodeTransportParams q exttype data = some (.ok q') → fields p' = fields q'
  defaults : ∀ p p' version supported recs, ParamsFormat exttype version supported recs data →
    ngtcp2DecodeTransportParams p exttype data = some (.ok p') → TakesDefaults recs p'

variable {exttype : TransportParamsType} {data : List UInt8} {version : UInt32} {supported : List UInt32}
  {recs : List ParamRecord}

theorem ParamsFormat.of_ok {p out : WireParams} (run : ngtcp2DecodeTransportParams p exttype data = some (.ok out)) :
    ∃ version supported recs, ParamsFormat exttype version supported recs data := by
  rcases ngtcp2DecodeTransportParams_total p exttype data with failed | failed | format
  · simp [run] at failed
  · simp [run] at failed
  · exact format

theorem ParamsFormat.eq_read {p out : WireParams} (format : ParamsFormat exttype version supported recs data)
    (run : ngtcp2DecodeTransportParams p exttype data = some (.ok out)) :
    out = paramsRead p exttype version supported recs := by
  simpa [format.decoded p] using run.symm

theorem getD_of_present {τ : Type} {id : ParamId} {read : List UInt8 → τ} (present : ∃ r ∈ recs, r.type = id.code) (a b : τ) :
    ((lastValue id recs).map read).getD a = ((lastValue id recs).map read).getD b := by
  obtain ⟨value, found⟩ := Option.isSome_iff_exists.mp (lastValue_isSome.mpr present)
  simp [found]

theorem takesDefaults (ip : ∃ r ∈ recs, r.type = ParamId.SERVER_UNICAST_IP.code) (p : WireParams) :
    TakesDefaults recs (paramsRead p exttype version supported recs) := by
  rw [paramsRead_eq]
  constructor
  · intro absent; simp [lastValue_absent absent]
  · intro absent; simp [lastValue_absent absent]
  · intro absent; simp [lastValue_absent absent]
  · intro absent; simp [lastValue_absent absent]
  · intro absent; simp [lastValue_absent absent]
  · intro absent
    obtain ⟨r, member, same⟩ := ip
    exact absurd same (absent r member)

theorem ParamsFormat.same_carried (format : ParamsFormat exttype version supported recs data)
    (ip : ∃ r ∈ recs, r.type = ParamId.SERVER_UNICAST_IP.code) (p q : WireParams) :
    (paramsRead p exttype version supported recs).carried exttype =
      (paramsRead q exttype version supported recs).carried exttype := by
  have streamData := format.required .INITIAL_MAX_STREAM_DATA (by simp [requiredParams])
  have data := format.required .INITIAL_MAX_DATA (by simp [requiredParams])
  have timeout := format.required .IDLE_TIMEOUT (by simp [requiredParams])
  rw [paramsRead_eq, paramsRead_eq]
  unfold WireParams.carried WireParams.fields
  dsimp only
  rw [getD_of_present streamData _ q.initialMaxStreamData, getD_of_present data _ q.initialMaxData,
    getD_of_present timeout _ q.idleTimeout, getD_of_present ip _ q.serverUnicastIp]
  -- the union and the token are what the message types differ in
  cases exttype with
  | CLIENT_HELLO => simp [hasToken, WireParams.setVersions]
  | ENCRYPTED_EXTENSIONS =>
    have token := format.required .STATELESS_RESET_TOKEN (by simp [requiredParams, hasToken])
    rw [getD_of_present token _ q.statelessResetToken]
    simp [WireParams.setVersions]
  | NEW_SESSION_TICKET =>
    have token := format.required .STATELESS_RESET_TOKEN (by simp [requiredParams, hasToken])
    rw [getD_of_present token _ q.statelessResetToken]
    simp

def stale (token : Fin 16 → UInt8) (ip : Fin 4 → UInt32) : WireParams :=
  { version := 0, supportedVersions := [], initialMaxStreamData := 0, initialMaxData := 0, initialMaxStreamIdBidi := 0,
    initialMaxStreamIdUni := 0, idleTimeout := 0, omitConnectionId := 0, maxPacketSize := 0, statelessResetToken := token,
    serverUnicastIp := ip, ackDelayExponent := 0 }

theorem ParamsFormat.ip_determined (format : ParamsFormat exttype version supported recs data)
    (view : WireParams → WireParams) (keeps : ∀ p, (view p).serverUnicastIp = p.serverUnicastIp)
    (determined : Determined view exttype data) : ∃ r ∈ recs, r.type = ParamId.SERVER_UNICAST_IP.code := by
  by_contra missing
  have absent : lastValue .SERVER_UNICAST_IP recs = none :=
    lastValue_absent fun r member same => missing ⟨r, member, same⟩
  have same := determined.same (stale (fun _ => 0) fun _ => 0) (stale (fun _ => 0) fun _ => 1) _ _
    (format.decoded _) (format.decoded _)
  have ip := congrArg (fun p => p.serverUnicastIp 0) same
  simp only [keeps, paramsRead_eq, absent] at ip
  cases ip

theorem ParamsFormat.token_determined (format : ParamsFormat exttype version supported recs data)
    (determined : Determined (WireParams.fields exttype) exttype data) : hasToken exttype = true := by
  by_contra none
  have absent : lastValue .STATELESS_RESET_TOKEN recs = .none := by
    refine lastValue_absent fun r member same => none ?_
    have accepted := format.accepted r member
    rw [acceptsParam, ParamId.ofCode_iff.mpr same, Bool.and_eq_true] at accepted
    exact accepted.2
  have same := determined.same (stale (fun _ => 0) fun _ => 0) (stale (fun _ => 1) fun _ => 0) _ _
    (format.decoded _) (format.decoded _)
  have token := congrArg (fun p => p.statelessResetToken 0) same
  simp only [WireParams.fields, paramsRead_eq, absent] at token
  cases token

theorem determined_of_ip {view : WireParams → WireParams}
    (ip : ∀ version supported recs, ParamsFormat exttype version supported recs data →
      ∃ r ∈ recs, r.type = ParamId.SERVER_UNICAST_IP.code)
    (same : ∀ version supported recs p q, ParamsFormat exttype version supported recs data →
      view (paramsRead p exttype version supported recs) = view (paramsRead q exttype version supported recs)) :
    Determined view exttype data := by
  constructor
  · intro p q p' q' run run'
    obtain ⟨version, supported, recs, format⟩ := ParamsFormat.of_ok run
    rw [format.eq_read run, format.eq_read run']
    exact same version supported recs p q format
  · intro p p' version supported recs format run
    rw [format.eq_read run]
    exact takesDefaults (ip version supported recs format) p

/-- The fields that a message carries are determined by its bytes exactly if it has the address of the server,
which is not reset if its parameter is missing. -/
theorem transportParams_determined (exttype : TransportParamsType) (data : List UInt8) :
    (Determined (WireParams.carried exttype) exttype data ↔
      ∀ version supported recs, ParamsFormat exttype version supported recs data →
        ∃ r ∈ recs, r.type = ParamId.SERVER_UNICAST_IP.code) ∧
    (Determined (WireParams.fields exttype) exttype data ↔
      ∀ version supported recs, ParamsFormat exttype version supported recs data →
        hasToken exttype = true ∧ ∃ r ∈ recs, r.type = ParamId.SERVER_UNICAST_IP.code) := by
  constructor
  · constructor
    · intro determined version supported recs format
      exact format.ip_determined (WireParams.carried exttype) (fun _ => rfl) determined
    · intro ip
      exact determined_of_ip ip fun version supported recs p q format => format.same_carried (ip _ _ _ format) p q
  · constructor
    · intro determined version supported recs format
      exact ⟨format.token_determined determined, format.ip_determined (WireParams.fields exttype) (fun _ => rfl) determined⟩
    · intro both
      refine determined_of_ip (fun _ _ _ format => (both _ _ _ format).2) fun version supported recs p q format => ?_
      have same := format.same_carried (both _ _ _ format).2 p q
      have carried (p : WireParams) : p.carried exttype = p.fields exttype := by
        simp [WireParams.carried, (both _ _ _ format).1, WireParams.fields]
      rwa [carried, carried] at same

def helloBytes : List UInt8 :=
  [0, 0, 0, 1, 0, 22, 0, 0, 0, 4, 0, 0, 4, 0, 0, 1, 0, 4, 0, 0, 8, 0, 0, 3, 0, 2, 0, 30]

def helloParams (ip : Fin 4 → UInt32) : WireParams :=
  { stale (fun _ => 0) ip with
    version := 1, initialMaxStreamData := 1024, initialMaxData := 2048, idleTimeout := 30, maxPacketSize := maxPktSize,
    ackDelayExponent := defaultAckDelayExponent }

theorem transportParams_stale :
    ngtcp2DecodeTransportParams (stale (fun _ => 0) fun _ => 0) .CLIENT_HELLO helloBytes =
        some (.ok (helloParams fun _ => 0)) ∧
      ngtcp2DecodeTransportParams (stale (fun _ => 0) fun _ => 7) .CLIENT_HELLO helloBytes =
        some (.ok (helloParams fun _ => 7)) ∧
      (helloParams fun _ => 0).serverUnicastIp ≠ (helloParams fun _ => 7).serverUnicastIp := by
  decide +kernel

end Determined

section Encode

abbrev ParamId.Value (id : ParamId) : Type := { value : List UInt8 // value.length = id.size }

def ParamId.record (id : ParamId) (value : id.Value) : ParamRecord where
  type := id.code
  value := value.val
  typeBound := by cases id <;> decide
  lengthBound := by rw [value.property]; cases id <;> decide

def optionalRecord (present : Bool) (r : ParamRecord) : List ParamRecord := if present then [r] else []

def paramsRecords (exttype : TransportParamsType) (params : WireParams) : List ParamRecord :=
  [ParamId.INITIAL_MAX_STREAM_DATA.record ⟨put32 params.initialMaxStreamData, length_put32 _⟩] ++
  [ParamId.INITIAL_MAX_DATA.record ⟨put32 params.initialMaxData, length_put32 _⟩] ++
  [ParamId.IDLE_TIMEOUT.record ⟨put16 params.idleTimeout.toNat, length_put16 _⟩] ++
  optionalRecord (hasToken exttype)
    (ParamId.STATELESS_RESET_TOKEN.record ⟨List.ofFn params.statelessResetToken, List.length_ofFn⟩) ++
  optionalRecord (params.initialMaxStreamIdBidi != 0)
    (ParamId.INITIAL_MAX_STREAM_ID_BIDI.record ⟨put32 params.initialMaxStreamIdBidi, length_put32 _⟩) ++
  optionalRecord (params.initialMaxStreamIdUni != 0)
    (ParamId.INITIAL_MAX_STREAM_ID_UNI.record ⟨put32 params.initialMaxStreamIdUni, length_put32 _⟩) ++
  optionalRecord (params.omitConnectionId != 0) (ParamId.OMIT_CONNECTION_ID.record ⟨[], rfl⟩) ++
  optionalRecord (params.maxPacketSize != maxPktSize)
    (ParamId.MAX_PACKET_SIZE.record ⟨put16 params.maxPacketSize.toNat, length_put16 _⟩) ++
  optionalRecord (hasUnicastIp params)
    (ParamId.SERVER_UNICAST_IP.record ⟨unicastIp params, by simp [ParamId.size, unicastIp]⟩) ++
  optionalRecord (params.ackDelayExponent != defaultAckDelayExponent)
    (ParamId.ACK_DELAY_EXPONENT.record ⟨[params.ackDelayExponent], rfl⟩)

theorem recordsBytes_append (recs later : List ParamRecord) :
    recordsBytes (recs ++ later) = recordsBytes recs ++ recordsBytes later :=
  List.flatMap_append

theorem recordsBytes_record (id : ParamId) (value : id.Value) :
    recordsBytes [id.record value] = putParam id id.size value.val := by
  simp [ParamId.record, ParamRecord.bytes, putParam, value.property]

theorem recordsBytes_optional (present : Bool) (id : ParamId) (value : id.Value) :
    recordsBytes (optionalRecord present (id.record value)) = putOptional present (putParam id id.size value.val) := by
  cases present with
  | false => rfl
  | true => exact recordsBytes_record id value

theorem length_putParam (id : ParamId) (len : Nat) (value : List UInt8) :
    (putParam id len value).length = 4 + value.length := by
  simp [putParam]
  omega

theorem length_putOptional (present : Bool) (bytes : List UInt8) :
    (putOptional present bytes).length = if present then bytes.length else 0 := by
  cases present <;> rfl

theorem length_versionsFormat (exttype : TransportParamsType) (params : WireParams) :
    (versionsFormat exttype params.version params.supportedVersions).length = paramsVlen exttype params := by
  cases exttype with
  | CLIENT_HELLO => exact length_put32 _
  | ENCRYPTED_EXTENSIONS =>
    simp only [versionsFormat, paramsVlen, List.length_append, length_put32, length_flatMap_put32, List.length_singleton]
  | NEW_SESSION_TICKET => rfl

variable (exttype : TransportParamsType) (params : WireParams)

theorem recordsBytes_params :
    recordsBytes (paramsRecords exttype params) =
      putParam .INITIAL_MAX_STREAM_DATA 4 (put32 params.initialMaxStreamData) ++
      putParam .INITIAL_MAX_DATA 4 (put32 params.initialMaxData) ++
      putParam .IDLE_TIMEOUT 2 (put16 params.idleTimeout.toNat) ++
      putOptional (hasToken exttype)
        (putParam .STATELESS_RESET_TOKEN 16 (List.ofFn params.statelessResetToken)) ++
      putOptional (params.initialMaxStreamIdBidi != 0)
        (putParam .INITIAL_MAX_STREAM_ID_BIDI 4 (put32 params.initialMaxStreamIdBidi)) ++
      putOptional (params.initialMaxStreamIdUni != 0)
        (putParam .INITIAL_MAX_STREAM_ID_UNI 4 (put32 params.initialMaxStreamIdUni)) ++
      putOptional (params.omitConnectionId != 0) (putParam .OMIT_CONNECTION_ID 0 []) ++
      putOptional (params.maxPacketSize != maxPktSize)
        (putParam .MAX_PACKET_SIZE 2 (put16 params.maxPacketSize.toNat)) ++
      putOptional (hasUnicastIp params)
        (putParam .SERVER_UNICAST_IP 16 (unicastIp params)) ++
      putOptional (params.ackDelayExponent != defaultAckDelayExponent)
        (putParam .ACK_DELAY_EXPONENT 1 [params.ackDelayExponent]) := by
  rw [paramsRecords]
  simp only [recordsBytes_append, recordsBytes_record, recordsBytes_optional]
  rfl

theorem paramsLen_eq :
    paramsLen exttype params =
      paramsVlen exttype params + 2 + (recordsBytes (paramsRecords exttype params)).length := by
  simp only [recordsBytes_params, List.length_append, length_putParam, length_putOptional, length_put32, length_put16, unicastIp,
    List.length_ofFn, List.length_nil, List.length_singleton, paramsLen, Nat.reduceAdd, Nat.add_zero]
  omega

def paramsBytes : List UInt8 :=
  versionsFormat exttype params.version params.supportedVersions ++
    (put16 (recordsBytes (paramsRecords exttype params)).length ++ recordsBytes (paramsRecords exttype params))

theorem length_paramsBytes : (paramsBytes exttype params).length = paramsLen exttype params := by
  rw [paramsBytes, List.length_append, List.length_append, length_versionsFormat, length_put16, paramsLen_eq]
  omega

theorem ngtcp2EncodeTransportParams_eq (destlen : Nat) :
    ngtcp2EncodeTransportParams destlen exttype params =
      if destlen < (paramsBytes exttype params).length then .error .NOBUF else .ok (paramsBytes exttype params) := by
  have count : paramsLen exttype params - paramsVlen exttype params - 2 =
      (recordsBytes (paramsRecords exttype params)).length := by
    rw [paramsLen_eq]
    omega
  have written : putVersions exttype params = versionsFormat exttype params.version params.supportedVersions := by
    cases exttype <;> rfl
  rw [length_paramsBytes]
  unfold ngtcp2EncodeTransportParams
  dsimp only
  rw [count, written]
  have bytes := length_paramsBytes exttype params
  rw [paramsBytes, recordsBytes_params] at bytes ⊢
  simp only [List.append_assoc] at bytes ⊢
  rw [if_pos bytes]

theorem length_records : (recordsBytes (paramsRecords exttype params)).length < 65536 := by
  have total := paramsLen_eq exttype params
  have parts : paramsLen exttype params ≤ 2 + 8 + 8 + 6 + 20 + paramsVlen exttype params + 8 + 8 + 4 + 6 + 5 + 20 := by
    unfold paramsLen
    split_ifs <;> omega
  omega

theorem lastValue_record (id : ParamId) (value : ParamId.Value id) (id' : ParamId) :
    lastValue id' [id.record value] = if id = id' then some value.val else none := by
  have same : id.code = id'.code ↔ id = id' := by cases id <;> cases id' <;> decide
  simp only [lastValue, ParamId.record, same, Option.none_or]

theorem lastValue_optional (present : Bool) (id : ParamId) (value : ParamId.Value id) (id' : ParamId) :
    lastValue id' (optionalRecord present (id.record value)) = if id = id' ∧ present then some value.val else none := by
  cases present with
  | false => simp [optionalRecord, lastValue]
  | true =>
    rw [optionalRecord, if_pos rfl, lastValue_record]
    simp

theorem get32_put32 (n : UInt32) : get32 (put32 n) = n := by
  have bound : n.toNat < 256 ^ 4 := n.toNat_lt
  rw [get32, put32, ofBeBytes_beBytes, Nat.mod_eq_of_lt bound]
  exact UInt32.ofNat_toNat

theorem get16_put16 (n : UInt16) : get16 (put16 n.toNat) = n := by
  have bound : n.toNat < 256 ^ 2 := n.toNat_lt
  rw [get16, put16, ofBeBytes_beBytes, Nat.mod_eq_of_lt bound]
  exact UInt16.ofNat_toNat

theorem lastValue_params (id : ParamId) :
    lastValue id (paramsRecords exttype params) =
      match id with
      | .INITIAL_MAX_STREAM_DATA => some (put32 params.initialMaxStreamData)
      | .INITIAL_MAX_DATA => some (put32 params.initialMaxData)
      | .IDLE_TIMEOUT => some (put16 params.idleTimeout.toNat)
      | .STATELESS_RESET_TOKEN => if hasToken exttype then some (List.ofFn params.statelessResetToken) else none
      | .INITIAL_MAX_STREAM_ID_BIDI =>
        if params.initialMaxStreamIdBidi != 0 then some (put32 params.initialMaxStreamIdBidi) else none
      | .INITIAL_MAX_STREAM_ID_UNI =>
        if params.initialMaxStreamIdUni != 0 then some (put32 params.initialMaxStreamIdUni) else none
      | .OMIT_CONNECTION_ID => if params.omitConnectionId != 0 then some [] else none
      | .MAX_PACKET_SIZE => if params.maxPacketSize != maxPktSize then some (put16 params.maxPacketSize.toNat) else none
      | .SERVER_UNICAST_IP =>
        if hasUnicastIp params then
          some (unicastIp params)
        else none
      | .ACK_DELAY_EXPONENT =>
        if params.ackDelayExponent != defaultAckDelayExponent then some [params.ackDelayExponent] else none := by
  rw [paramsRecords]
  simp only [lastValue_append, lastValue_record, lastValue_optional]
  cases id <;> simp

theorem acceptsParam_record (id : ParamId) (value : ParamId.Value id) :
    acceptsParam exttype (id.record value).type (id.record value).value = validValue exttype id value.val := by
  simp [ParamId.record, acceptsParam, ParamId.ofCode_code, value.property]

theorem mem_optionalRecord (present : Bool) (r r' : ParamRecord) :
    r ∈ optionalRecord present r' ↔ present = true ∧ r = r' := by
  cases present <;> simp [optionalRecord]

/-- The parameters that the decoder takes: stream IDs of the kinds that the message type allows, and an exponent in
range. -/
structure WireParams.Valid (exttype : TransportParamsType) (params : WireParams) : Prop where
  versions : params.supportedVersions.length ≤ maxSupportedVersions
  bidi : params.initialMaxStreamIdBidi = 0 ∨ validStreamIdBidi params.initialMaxStreamIdBidi exttype = true
  uni : params.initialMaxStreamIdUni = 0 ∨ validStreamIdUni params.initialMaxStreamIdUni exttype = true
  omitted : params.omitConnectionId = 0 ∨ params.omitConnectionId = 1
  exponent : params.ackDelayExponent ≤ 20

variable {exttype params}

theorem WireParams.Valid.format (valid : params.Valid exttype) :
    ParamsFormat exttype params.version params.supportedVersions (paramsRecords exttype params)
      (paramsBytes exttype params) where
  versions := valid.versions
  data := rfl
  length := length_records exttype params
  accepted := by
    intro r member
    simp only [paramsRecords, List.mem_append, List.mem_singleton, mem_optionalRecord] at member
    rcases member with ((((((((rfl | rfl) | rfl) | ⟨token, rfl⟩) | ⟨bidi, rfl⟩) | ⟨uni, rfl⟩) | ⟨-, rfl⟩) | ⟨-, rfl⟩) |
      ⟨-, rfl⟩) | ⟨-, rfl⟩ <;> rw [acceptsParam_record]
    · rfl
    · rfl
    · rfl
    · exact token
    · rw [validValue, get32_put32]
      exact valid.bidi.resolve_left (by simpa using bidi)
    · rw [validValue, get32_put32]
      exact valid.uni.resolve_left (by simpa using uni)
    · rfl
    · rfl
    · rfl
    · simpa [validValue] using valid.exponent
  required := by
    intro id needed
    rw [← lastValue_isSome, lastValue_params]
    cases exttype <;> simp only [requiredParams, hasToken] at needed <;>
      fin_cases needed <;> rfl

theorem get32_unicastIp (ip : Fin 4 → UInt32) :
    (fun i : Fin 4 => get32 (((put32 (ip 0) ++ put32 (ip 1) ++ put32 (ip 2) ++ put32 (ip 3)).drop (4 * i)).take 4)) = ip := by
  have skip (n : UInt32) (k : Nat) (rest : List UInt8) : (put32 n ++ rest).drop (k + 4) = rest.drop k := by
    rw [Nat.add_comm, ← List.drop_drop, List.drop_left' (length_put32 n)]
  have first (n : UInt32) (rest : List UInt8) : (put32 n ++ rest).take 4 = put32 n := List.take_left' (length_put32 n)
  funext i
  simp only [List.append_assoc]
  match i with
  | 0 => exact (congrArg get32 (first _ _)).trans (get32_put32 _)
  | 1 =>
    change get32 ((List.drop (0 + 4) _).take 4) = _
    rw [skip, List.drop_zero, first, get32_put32]
  | 2 =>
    change get32 ((List.drop (0 + 4 + 4) _).take 4) = _
    rw [skip, skip, List.drop_zero, first, get32_put32]
  | 3 =>
    change get32 ((List.drop (0 + 4 + 4 + 4) _).take 4) = _
    rw [skip, skip, skip, List.drop_zero, List.take_of_length_le (length_put32 _).le, get32_put32]

theorem unicastIp_zero (absent : hasUnicastIp params = false) : params.serverUnicastIp = fun _ => 0 := by
  simp only [hasUnicastIp, Bool.or_eq_false_iff, bne_eq_false_iff_eq] at absent
  obtain ⟨⟨⟨zero, one⟩, two⟩, three⟩ := absent
  funext i
  fin_cases i
  · exact zero
  · exact one
  · exact two
  · exact three

theorem read_optional {τ : Type} [DecidableEq τ] (field default : τ) {value : List UInt8} {read : List UInt8 → τ}
    (written : field ≠ default → read value = field) :
    ((if (field != default) = true then some value else none).map read).getD default = field := by
  by_cases same : field = default
  · simp [same]
  · simp [same, written same]

theorem WireParams.Valid.read_back (valid : params.Valid exttype) {prior : WireParams}
    (clear : prior.serverUnicastIp = fun _ => 0) :
    (paramsRead prior exttype params.version params.supportedVersions (paramsRecords exttype params)).carried exttype =
      params.carried exttype := by
  have ip : ((if hasUnicastIp params = true then some (unicastIp params) else none).map
        fun value (i : Fin 4) => get32 ((value.drop (4 * i)).take 4)).getD prior.serverUnicastIp = params.serverUnicastIp := by
    cases present : hasUnicastIp params with
    | true => exact get32_unicastIp params.serverUnicastIp
    | false => exact clear.trans (unicastIp_zero present).symm
  have token : (fun i : Fin 16 => (List.ofFn params.statelessResetToken).getD i 0) = params.statelessResetToken := by
    funext i
    have inside : i.val < (List.ofFn params.statelessResetToken).length := List.length_ofFn.symm ▸ i.isLt
    rw [← List.getElem_eq_getD (h := inside) 0, List.getElem_ofFn]
  rw [paramsRead_eq]
  simp only [lastValue_params, Option.map_some, Option.getD_some, get32_put32, get16_put16, ip]
  rw [read_optional params.initialMaxStreamIdBidi 0 fun _ => get32_put32 _,
    read_optional params.initialMaxStreamIdUni 0 fun _ => get32_put32 _,
    read_optional params.omitConnectionId 0 fun sent => (valid.omitted.resolve_left sent).symm,
    read_optional params.maxPacketSize maxPktSize fun _ => get16_put16 _,
    read_optional params.ackDelayExponent defaultAckDelayExponent fun _ => rfl]
  cases exttype with
  | CLIENT_HELLO => rfl
  | ENCRYPTED_EXTENSIONS =>
    simp only [hasToken, if_pos, Option.map_some, Option.getD_some, token]
    rfl
  | NEW_SESSION_TICKET =>
    simp only [hasToken, if_pos, Option.map_some, Option.getD_some, token]
    rfl

end Encode

section Whole

variable {exttype : TransportParamsType} {data shorter : List UInt8} {version version' : UInt32}
  {supported supported' : List UInt32} {recs recs' : List ParamRecord}

theorem append_inside {α : Type} {a b c d : List α} (inside : a ++ b <+: c ++ d) (length : a.length = c.length) :
    a = c ∧ b <+: d := by
  obtain ⟨rest, same⟩ := inside
  rw [List.append_assoc] at same
  obtain ⟨front, back⟩ := List.append_inj same length
  exact ⟨front, rest, back⟩

theorem put16_inj {m n : Nat} (same : put16 m = put16 n) (small : m < 256 ^ 2) (small' : n < 256 ^ 2) : m = n := by
  have back := congrArg ofBeBytes same
  rwa [put16, put16, ofBeBytes_beBytes, ofBeBytes_beBytes, Nat.mod_eq_of_lt small, Nat.mod_eq_of_lt small'] at back

theorem versionsFormat_inside {b d : List UInt8}
    (inside : versionsFormat exttype version supported ++ b <+: versionsFormat exttype version' supported' ++ d)
    (count : supported.length ≤ maxSupportedVersions) (count' : supported'.length ≤ maxSupportedVersions) :
    versionsFormat exttype version supported = versionsFormat exttype version' supported' ∧ b <+: d := by
  cases exttype with
  | CLIENT_HELLO => exact append_inside inside (by simp [versionsFormat])
  | ENCRYPTED_EXTENSIONS =>
    have heads := inside
    simp only [versionsFormat, List.append_assoc] at heads
    obtain ⟨-, rest⟩ := append_inside heads (by simp)
    obtain ⟨byte, -⟩ := append_inside rest rfl
    have same : supported.length = supported'.length := by
      have number := congrArg UInt8.toNat (List.singleton_inj.mp byte)
      simp only [maxSupportedVersions] at count count'
      rw [UInt8.toNat_ofNat', UInt8.toNat_ofNat', Nat.mod_eq_of_lt (by omega), Nat.mod_eq_of_lt (by omega)] at number
      omega
    refine append_inside inside ?_
    simp only [versionsFormat, List.length_append, length_put32, length_flatMap_put32, List.length_singleton, same]
  | NEW_SESSION_TICKET => exact append_inside inside rfl

theorem ParamsFormat.whole (format : ParamsFormat exttype version supported recs shorter)
    (format' : ParamsFormat exttype version' supported' recs' data) (inside : shorter <+: data) :
    shorter.length = data.length := by
  rw [format.data, format'.data] at inside
  obtain ⟨versions, rest⟩ := versionsFormat_inside inside format.versions format'.versions
  obtain ⟨length, -⟩ := append_inside rest (by simp)
  have records := put16_inj length format.length format'.length
  rw [format.data, format'.data, versions]
  simp only [List.length_append, length_put16, records]

end Whole

/-- What is written for valid parameters is read back as they are, and nothing shorter is taken. -/
theorem transportParams_roundtrip (exttype : TransportParamsType) (params prior : WireParams)
    (valid : params.Valid exttype) (clear : prior.serverUnicastIp = fun _ => 0) :
    ∃ bytes,
      (∀ destlen, ngtcp2EncodeTransportParams destlen exttype params =
        if destlen < bytes.length then .error .NOBUF else .ok bytes) ∧
      (∃ out, ngtcp2DecodeTransportParams prior exttype bytes = some (.ok out) ∧
        out.carried exttype = params.carried exttype) ∧
      ∀ other k, k < bytes.length → ∃ e, ngtcp2DecodeTransportParams other exttype (bytes.take k) = some (.error e) := by
  refine ⟨paramsBytes exttype params, ngtcp2EncodeTransportParams_eq exttype params,
    ⟨_, valid.format.decoded prior, valid.read_back clear⟩, ?_⟩
  intro other k short
  rcases ngtcp2DecodeTransportParams_total other exttype ((paramsBytes exttype params).take k) with
    failed | failed | ⟨version, supported, recs, format⟩
  · exact ⟨_, failed⟩
  · exact ⟨_, failed⟩
  · have whole := format.whole valid.format (List.take_prefix _ _)
    rw [List.length_take] at whole
    omega

def fullParams : WireParams :=
  { version := 0xff00000b, supportedVersions := [0xff00000b, 1], initialMaxStreamData := 1024, initialMaxData := 4096,
    initialMaxStreamIdBidi := 40, initialMaxStreamIdUni := 42, idleTimeout := 30, omitConnectionId := 1,
    maxPacketSize := 1280, statelessResetToken := fun i => UInt8.ofNat i, serverUnicastIp := fun i => UInt32.ofNat (i + 1),
    ackDelayExponent := 10 }

theorem transportParams_roundtrip_full :
    ∃ bytes out, ngtcp2EncodeTransportParams 200 .ENCRYPTED_EXTENSIONS fullParams = .ok bytes ∧
      ngtcp2DecodeTransportParams (stale (fun _ => 1) fun _ => 0) .ENCRYPTED_EXTENSIONS bytes = some (.ok out) ∧
      out.carried .ENCRYPTED_EXTENSIONS = fullParams.carried .ENCRYPTED_EXTENSIONS := by
  obtain ⟨bytes, encoded, ⟨out, decoded, same⟩, -⟩ :=
    transportParams_roundtrip .ENCRYPTED_EXTENSIONS fullParams (stale (fun _ => 1) fun _ => 0)
      ⟨by decide, by decide, by decide, by decide, by decide⟩ rfl
  have fits : ngtcp2EncodeTransportParams 200 .ENCRYPTED_EXTENSIONS fullParams ≠ .error .NOBUF := by decide +kernel
  have result := encoded 200
  split at result
  next => exact absurd result fits
  next => exact ⟨bytes, out, result, decoded, same⟩

end Ngtcp2
