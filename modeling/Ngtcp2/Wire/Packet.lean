import Ngtcp2.Wire.Header
import Ngtcp2.Wire.Loop

/-!
# Packets from bytes

The packets that a connection receives are what the decoders make of the bytes of a datagram.
-/

namespace Ngtcp2

inductive Opened where
  | plaintext (bytes : List UInt8) (short : bytes.length < varintBound)
  | tlsDecrypt
  | failure

def Opened.decrypted : Opened → Decrypted
  | .plaintext bytes _ => .frames ((decodeFrames bytes).1.map WireFrame.fr) (decodeFrames bytes).2
  | .tlsDecrypt => .tlsDecrypt
  | .failure => .failure

theorem decodeFramesFrom_wire {fuel : Nat} {payload : List UInt8} (short : payload.length < varintBound) :
    ∀ w ∈ (decodeFramesFrom fuel payload).1, w.fr.WireOk := by
  induction fuel generalizing payload with
  | zero => cases payload <;> simp [decodeFramesFrom]
  | succ fuel ih =>
    cases payload with
    | nil => simp [decodeFramesFrom]
    | cons type rest =>
      unfold decodeFramesFrom
      rcases decodeFrame_found type rest with refused | ⟨w, after, accepted, found⟩
      · simp [refused]
      · obtain ⟨left, shorter⟩ := found.drop type
        rw [List.length_cons] at short
        simp only [accepted, left, List.mem_cons]
        rintro w' (rfl | member)
        · exact found.wire (by omega)
        · exact ih (by omega) w' member

theorem Opened.decrypted_wire {opened : Opened} {frs : List Frame} {malformed : Bool}
    (here : opened.decrypted = .frames frs malformed) : ∀ fr ∈ frs, fr.WireOk := by
  cases opened with
  | plaintext bytes short =>
    obtain ⟨rfl, rfl⟩ := Decrypted.frames.inj here
    simp only [List.mem_map]
    rintro _ ⟨w, member, rfl⟩
    exact decodeFramesFrom_wire short w member
  | tlsDecrypt => cases here
  | failure => cases here

def ngtcp2PktDecodeStatelessReset (payload : List UInt8) : Option (List UInt8) :=
  if payload.length < 16 then none else some (payload.drop (payload.length - 16))

def ngtcp2PktDecodeVersionNegotiation : List UInt8 → List Nat
  | a :: b :: c :: d :: rest => ofBeBytes [a, b, c, d] :: ngtcp2PktDecodeVersionNegotiation rest
  | _ => []

def versionNegotiationHeaderlen : Nat := longHeaderlen - 4

section OfBytes

theorem ofBeBytes_take_lt (bytes : List UInt8) {len : Nat} (short : len ≤ 4) :
    ofBeBytes (bytes.take len) < 4294967296 := by
  have bound := ofBeBytes_lt (bytes.take len)
  have shorter : (bytes.take len).length ≤ 4 := by
    rw [List.length_take]
    omega
  calc ofBeBytes (bytes.take len) < 256 ^ (bytes.take len).length := bound
    _ ≤ 256 ^ 4 := Nat.pow_le_pow_right (by decide) shorter

theorem PktType.pktNumLen_le (type : PktType) : type.pktNumLen.getD 0 ≤ 4 := by
  cases type <;> decide

theorem decodeHd_pktNum {pkt : List UInt8} {w : WireHd} {n : Nat} (found : ngtcp2PktDecodeHd pkt = .ok (w, n)) :
    w.hd.pktNum < 4294967296 := by
  cases pkt with
  | nil => cases found
  | cons first rest =>
    unfold ngtcp2PktDecodeHd at found
    simp only at found
    split at found
    · unfold ngtcp2PktDecodeHdLong at found
      simp only at found
      repeat' split at found
      all_goals cases found
      all_goals exact ofBeBytes_take_lt _ (by decide)
    · unfold ngtcp2PktDecodeHdShort at found
      simp only at found
      repeat' split at found
      all_goals cases found
      all_goals exact ofBeBytes_take_lt _ (PktType.pktNumLen_le _)

/-- The packet that a datagram holds. `opened` stands for the decrypt callbacks: under a key and a
packet number they are given the header and the payload. -/
def Pkt.ofBytes (opened : CryptoKm → Nat → List UInt8 → List UInt8 → Opened) (pkt : List UInt8) : Pkt where
  hd := (ngtcp2PktDecodeHd pkt).map fun r => r.1.hd
  longForm := pkt.head?.any headerFormBit
  payload ckm pktNum :=
    match ngtcp2PktDecodeHd pkt with
    | .ok (_, n) => (opened ckm pktNum (pkt.take n) (pkt.drop n)).decrypted
    | .error _ => .failure
  resetToken :=
    match ngtcp2PktDecodeHd pkt with
    | .ok (_, n) => ngtcp2PktDecodeStatelessReset (pkt.drop n)
    | .error _ => none
  versions :=
    let payload := pkt.drop versionNegotiationHeaderlen
    if payload.length % 4 ≠ 0 then none else some (ngtcp2PktDecodeVersionNegotiation payload)
  pktNumOk := by
    intro h found
    cases here : ngtcp2PktDecodeHd pkt with
    | error e => simp [here, Except.map] at found
    | ok r =>
      obtain rfl : r.1.hd = h := by simpa [here, Except.map] using found
      exact decodeHd_pktNum here
  framesOk := by
    intro ckm pktNum frs malformed found
    split at found
    · exact Opened.decrypted_wire found
    · cases found

end OfBytes

section VersionNegotiation

def ngtcp2PktWriteVersionNegotiation (destlen : Nat) (unusedRandom : UInt8) (connId : UInt64) (sv : List UInt32) :
    Except Err (List UInt8) :=
  let len := 1 + 8 + 4 + sv.length * 4
  if destlen < len then .error .NOBUF
  else
    let bytes :=
      (0x80 ||| unusedRandom) ::
        (beBytes 8 connId.toNat ++ (beBytes 4 0 ++ sv.flatMap fun version => beBytes 4 version.toNat))
    -- `assert((size_t)(p - dest) == len)`
    if bytes.length = len then .ok bytes else .error .ABORT

variable {unusedRandom : UInt8} {connId : UInt64} {sv : List UInt32}

theorem decodeVersionNegotiation_append (n : Nat) (rest : List UInt8) :
    ngtcp2PktDecodeVersionNegotiation (beBytes 4 n ++ rest) =
      ofBeBytes (beBytes 4 n) :: ngtcp2PktDecodeVersionNegotiation rest := rfl

theorem decodeVersionNegotiation_versions (sv : List UInt32) :
    ngtcp2PktDecodeVersionNegotiation (sv.flatMap fun version => beBytes 4 version.toNat) = sv.map UInt32.toNat := by
  induction sv with
  | nil => rfl
  | cons version sv ih =>
    have read : ofBeBytes (beBytes 4 version.toNat) = version.toNat := by
      have bound : version.toNat < 256 ^ 4 := version.toNat_lt
      rw [ofBeBytes_beBytes, Nat.mod_eq_of_lt bound]
    rw [List.flatMap_cons, decodeVersionNegotiation_append, ih, read, List.map_cons]

theorem length_versions (sv : List UInt32) : (sv.flatMap fun version => beBytes 4 version.toNat).length = sv.length * 4 := by
  induction sv with
  | nil => rfl
  | cons version sv ih =>
    rw [List.flatMap_cons, List.length_append, ih, length_beBytes, List.length_cons]
    omega

theorem headerFormBit_set (unusedRandom : UInt8) : headerFormBit (0x80 ||| unusedRandom) = true := by
  have each : ∀ k : Fin 256, headerFormBit (0x80 ||| UInt8.ofNat k) = true := by decide +kernel
  simpa using each ⟨unusedRandom.toNat, unusedRandom.toNat_lt⟩

def versionNegotiationBytes (unusedRandom : UInt8) (connId : UInt64) (sv : List UInt32) : List UInt8 :=
  (0x80 ||| unusedRandom) ::
    (beBytes 8 connId.toNat ++ (beBytes 4 0 ++ sv.flatMap fun version => beBytes 4 version.toNat))

theorem length_versionNegotiationBytes (unusedRandom : UInt8) (connId : UInt64) (sv : List UInt32) :
    (versionNegotiationBytes unusedRandom connId sv).length = 1 + 8 + 4 + sv.length * 4 := by
  simp only [versionNegotiationBytes, List.length_cons, List.length_append, length_beBytes, length_versions]
  omega

theorem ngtcp2PktWriteVersionNegotiation_eq {destlen : Nat} {bytes : List UInt8}
    (wrote : ngtcp2PktWriteVersionNegotiation destlen unusedRandom connId sv = .ok bytes) :
    bytes = versionNegotiationBytes unusedRandom connId sv := by
  unfold ngtcp2PktWriteVersionNegotiation at wrote
  simp only at wrote
  repeat' split at wrote
  all_goals cases wrote
  rfl

theorem decodeHd_versionNegotiation (unusedRandom : UInt8) (connId : UInt64) (some : sv ≠ []) :
    ∃ type pktNum, ngtcp2PktDecodeHd (versionNegotiationBytes unusedRandom connId sv) =
      .ok (⟨⟨true, false, type, connId.toNat, pktNum, 0⟩, false⟩, longHeaderlen) := by
  have form := headerFormBit_set unusedRandom
  have count := List.length_pos_iff.mpr some
  have length := length_versionNegotiationBytes unusedRandom connId sv
  have enough : ¬ (versionNegotiationBytes unusedRandom connId sv).length < longHeaderlen := by
    rw [length]
    unfold longHeaderlen
    omega
  have version : getUint (versionNegotiationBytes unusedRandom connId sv) 9 4 = 0 :=
    getUint_append ((0x80 ||| unusedRandom) :: beBytes 8 connId.toNat) 4 0 _ (by simp)
  have connection : getUint (versionNegotiationBytes unusedRandom connId sv) 1 8 = connId.toNat := by
    have bound : connId.toNat < 256 ^ 8 := connId.toNat_lt
    have read := getUint_append [0x80 ||| unusedRandom] 8 connId.toNat
      (beBytes 4 0 ++ sv.flatMap fun version => beBytes 4 version.toNat) rfl
    rwa [Nat.mod_eq_of_lt bound] at read
  generalize whole : versionNegotiationBytes unusedRandom connId sv = pkt at *
  cases pkt with
  | nil => cases whole
  | cons first rest =>
    obtain ⟨rfl, -⟩ := List.cons.inj whole
    unfold ngtcp2PktDecodeHd
    simp only [form, if_true]
    unfold ngtcp2PktDecodeHdLong
    simp only [form, enough, version, connection, if_false, if_true, Bool.not_true, Bool.false_eq_true]
    cases longType ((0x80 ||| unusedRandom) &&& 0x7f) with
    | none => exact ⟨_, _, rfl⟩
    | some type => exact ⟨type, _, rfl⟩

theorem versions_versionNegotiation (opened : CryptoKm → Nat → List UInt8 → List UInt8 → Opened)
    (unusedRandom : UInt8) (connId : UInt64) (sv : List UInt32) :
    (Pkt.ofBytes opened (versionNegotiationBytes unusedRandom connId sv)).versions = some (sv.map UInt32.toNat) := by
  have payload : (versionNegotiationBytes unusedRandom connId sv).drop versionNegotiationHeaderlen =
      sv.flatMap fun version => beBytes 4 version.toNat := rfl
  simp only [Pkt.ofBytes, payload, length_versions, decodeVersionNegotiation_versions]
  simp

variable (app : App) (ts : Nat) (s : Conn)

def Event.versions? : Event → Option (List Nat)
  | .recvVersionNegotiation _ sv _ => sv
  | _ => none

def VersionsReach (pkt : Pkt) (versions : List Nat) : Prop :=
  ∃ hd t, ngtcp2ConnRecv app (some pkt) ts s = (.error .VERSION_NEGOTIATION, t) ∧
    t.log = s.log ++ [.recvPkt hd, .recvVersionNegotiation hd (some versions) versions.length]

variable {app ts s} {pkt : Pkt} {hd : PktHd} {versions : List Nat}

theorem connOnVersionNegotiation_few (ok : ∀ log e, app.ok log e = true) (read : pkt.versions = some versions)
    (few : versions.length ≤ 16) :
    connOnVersionNegotiation app pkt hd s =
      (.ok (), s.emit (.recvVersionNegotiation hd (some versions) versions.length)) := by
  unfold connOnVersionNegotiation
  simp only [read]
  rw [if_neg (by omega), connCall_succeeds (ok _ _)]

theorem connOnVersionNegotiation_many (ok : ∀ log e, app.ok log e = true) (read : pkt.versions = some versions)
    (many : 16 < versions.length) :
    ∃ r t, connOnVersionNegotiation app pkt hd s = (r, t) ∧ r ≠ .error .TLS_HANDSHAKE ∧
      (t.log = s.log ∨ t.log = s.log ++ [.recvVersionNegotiation hd none versions.length]) := by
  unfold connOnVersionNegotiation
  simp only [read]
  rw [if_pos many]
  by_cases memory : app.malloc s.nalloc = true
  · rw [Prog.bind_ok (malloc_succeeds memory), connCall_succeeds (ok _ _)]
    exact ⟨_, _, rfl, nofun, .inr rfl⟩
  · rw [Prog.bind_error (malloc_fails memory)]
    exact ⟨_, _, rfl, nofun, .inl rfl⟩

def negotiated : Except Err Unit → Except Err Unit
  | .ok () => .error .VERSION_NEGOTIATION
  | .error e => .error e

variable {r : Except Err Unit} {t : Conn}

theorem handshakePkt_versionNegotiation (ok : ∀ log e, app.ok log e = true) (client : s.server = false)
    (type : hd.type = .VERSION_NEGOTIATION) (ours : s.clientConnId = hd.connId)
    (run : connOnVersionNegotiation app pkt hd (s.emit (.recvPkt hd)) = (r, t)) :
    connRecvHandshakePktHd app pkt hd ts s = (negotiated r, t) := by
  have accept : handshakePktAccept app pkt hd (s.emit (.recvPkt hd)) =
      (match r with
        | .ok () => .error .VERSION_NEGOTIATION
        | .error e => .error e, t) := by
    change (if (s.emit _).server then _ else _ : ConnM Bool) _ = _
    rw [if_neg (by simp [Conn.emit, client]), type]
    change (if (s.emit _).clientConnId ≠ hd.connId then _ else _ : ConnM Bool) _ = _
    rw [if_neg (by simp [Conn.emit, ours])]
    cases r with
    | ok a => rw [Prog.bind_ok run]; rfl
    | error e => rw [Prog.bind_error run]
  unfold connRecvHandshakePktHd
  rw [Prog.bind_ok (connCall_succeeds (ok _ _))]
  cases r with
  | ok a => rw [Prog.bind_error accept]; rfl
  | error e => rw [Prog.bind_error accept]; rfl

theorem connRecv_versionNegotiation (ok : ∀ log e, app.ok log e = true) (client : s.server = false)
    (waiting : s.state = .CLIENT_WAIT_HANDSHAKE) (form : pkt.longForm = true) (read : pkt.decodeHd = .ok hd)
    (version : hd.version = 0) (ours : s.clientConnId = hd.connId) (plain : r ≠ .error .TLS_HANDSHAKE)
    (run : connOnVersionNegotiation app pkt { hd with type := .VERSION_NEGOTIATION, pktNum := 0 }
      (s.emit (.recvPkt { hd with type := .VERSION_NEGOTIATION, pktNum := 0 })) = (r, t)) :
    ngtcp2ConnRecv app (some pkt) ts s = (negotiated r, t) := by
  have packet : connRecvHandshakePkt app pkt ts s = (negotiated r, t) := by
    change (if !pkt.longForm then _ else _ : ConnM Unit) s = _
    rw [if_neg (by simp [form]), read]
    change (if (s.server && _ && _ && _) = true then _ else _ : ConnM Unit) s = _
    rw [if_neg (by simp [client]), if_pos version]
    exact handshakePkt_versionNegotiation ok client rfl ours run
  have handshake : connRecvInHandshake app pkt .CLIENT_TLS_HANDSHAKE_FAILED ts s =
      ((negotiated r).map fun _ => true, t) := by
    have attempt : Prog.attempt (connRecvHandshakePkt app pkt ts) s = (.ok (negotiated r), t) := by
      unfold Prog.attempt
      rw [packet]
    unfold connRecvInHandshake
    rw [Prog.bind_ok attempt]
    rcases r with e | _
    · cases e <;> first | rfl | exact absurd rfl plain
    · rfl
  have wait : ngtcp2ConnRecv app (some pkt) ts s = connRecvClientWaitHandshake app pkt ts s := by
    unfold ngtcp2ConnRecv
    dsimp only
    rw [Prog.get_bind, waiting]
  rw [wait, connRecvClientWaitHandshake]
  rcases r with e | _
  · exact Prog.bind_error handshake
  · exact Prog.bind_error handshake

/-- Version Negotiation packets reach the application as they were written exactly if they have at most
16 versions. -/
theorem versionsReach_iff (opened : CryptoKm → Nat → List UInt8 → List UInt8 → Opened) (unusedRandom : UInt8)
    (connId : UInt64) (sv : List UInt32) (destlen : Nat) {bytes : List UInt8} (some : sv ≠ [])
    (wrote : ngtcp2PktWriteVersionNegotiation destlen unusedRandom connId sv = .ok bytes)
    (client : s.server = false) (waiting : s.state = .CLIENT_WAIT_HANDSHAKE) (ours : s.clientConnId = connId.toNat)
    (ok : ∀ log e, app.ok log e = true) :
    VersionsReach app ts s (Pkt.ofBytes opened bytes) (sv.map UInt32.toNat) ↔ sv.length ≤ 16 := by
  obtain rfl := ngtcp2PktWriteVersionNegotiation_eq wrote
  obtain ⟨type, pktNum, header⟩ := decodeHd_versionNegotiation unusedRandom connId some
  have versions := versions_versionNegotiation opened unusedRandom connId sv
  have form : (Pkt.ofBytes opened (versionNegotiationBytes unusedRandom connId sv)).longForm = true :=
    headerFormBit_set unusedRandom
  have read : (Pkt.ofBytes opened (versionNegotiationBytes unusedRandom connId sv)).decodeHd =
      .ok ⟨true, false, type, connId.toNat, pktNum, 0⟩ := by
    unfold Pkt.decodeHd
    rw [form]
    simp only [Pkt.ofBytes, header]
    rfl
  generalize Pkt.ofBytes opened (versionNegotiationBytes unusedRandom connId sv) = pkt at *
  constructor
  · rintro ⟨hd, t, run, log⟩
    by_contra many
    obtain ⟨r, u, handed, plain, logged⟩ := connOnVersionNegotiation_many ok versions (by simpa using many)
    rw [connRecv_versionNegotiation ok client waiting form read rfl ours plain handed] at run
    obtain ⟨-, rfl⟩ := Prod.mk.inj run
    rcases logged with logged | logged <;> rw [logged] at log <;> simp [Conn.emit] at log
  · intro few
    refine ⟨⟨true, false, .VERSION_NEGOTIATION, connId.toNat, 0, 0⟩, _,
      connRecv_versionNegotiation (r := .ok ()) ok client waiting form read rfl ours (fun same => by cases same)
      (connOnVersionNegotiation_few ok versions (by simpa using few)), ?_⟩
    simp [Conn.emit]

def waitingClient : Conn :=
  (ngtcp2ConnClientNew 1 1 .plain true).play
    [(.quiet, .tls (.setHandshakeTxKeys .plain)), (.hello, .writePkt 1200 0)]

theorem versionsReach_iff_waitingClient :
    VersionsReach .quiet 0 waitingClient
      (Pkt.ofBytes (fun _ _ _ _ => .failure) (versionNegotiationBytes 0x7f 1 [2, 3])) [2, 3] ↔ 2 ≤ 16 :=
  versionsReach_iff (fun _ _ _ _ => .failure) 0x7f 1 [2, 3] 100 (by decide) (by decide +kernel)
    (by decide +kernel) (by decide +kernel) (by decide +kernel) fun _ _ => rfl

/-- Of 17 versions the callback is only given the number. -/
theorem versions_lost :
    waitingClient.state = .CLIENT_WAIT_HANDSHAKE ∧ waitingClient.clientConnId = 1 ∧
    ngtcp2PktWriteVersionNegotiation 100 0x7f 1 (List.replicate 17 2) =
      .ok (versionNegotiationBytes 0x7f 1 (List.replicate 17 2)) ∧
    ¬ VersionsReach .quiet 0 waitingClient
      (Pkt.ofBytes (fun _ _ _ _ => .failure) (versionNegotiationBytes 0x7f 1 (List.replicate 17 2)))
      (List.replicate 17 2) := by
  refine ⟨by decide +kernel, by decide +kernel, by decide +kernel, ?_⟩
  rintro ⟨hd, t, run, log⟩
  have handed : ∀ e ∈ (ngtcp2ConnRecv .quiet (some (Pkt.ofBytes (fun _ _ _ _ => .failure)
      (versionNegotiationBytes 0x7f 1 (List.replicate 17 2)))) 0 waitingClient).2.log,
      e.versions? ≠ some (List.replicate 17 2) := by
    decide +kernel
  rw [run, log] at handed
  exact handed _ (List.mem_append_right _ (List.mem_cons_of_mem _ (List.mem_singleton_self _))) rfl

end VersionNegotiation

end Ngtcp2
