import Ngtcp2.Machine.Streams

namespace Ngtcp2

open Prog Relation

variable {sc : Scope} (app : App)

theorem uint32_lt_varintBound (n : UInt32) : n.toNat < varintBound :=
  Nat.lt_trans n.toNat_lt (by decide)

theorem installKey_still {current : Conn → Option CryptoKm} {install : Conn → Conn}
    (same : ∀ c, (install c).view = c.view) : Still (installKey current install) := by
  refine .get fun c => ?_
  split
  · exact .throw _
  · exact .modify same

theorem ngtcp2ConnUpdateTxKeys_always (ckm : CryptoKm) : Always sc (ngtcp2ConnUpdateTxKeys ckm) := by
  intro s
  refine .got ?_
  split
  · exact .failed _
  · exact .modified (.of_move fun _ => .key _)

theorem connSetRemoteSettings_always (settings : Settings) :
    Always sc (connSetRemoteSettings settings) := by
  intro s
  -- the mark and the assignment are one move
  refine .jump (pure ())
    { s.emit (.mark (.maxTxOffset settings.maxData.toNat s.txOffset)) with
      remoteSettings := settings
      maxLocalStreamIdBidi := settings.maxStreamIdBidi.toNat
      maxLocalStreamIdUni := settings.maxStreamIdUni.toNat
      maxTxOffset := settings.maxData.toNat } rfl (.of_move fun owed => ?_) (.done _)
  change Move sc _ { Conn.view (s.emit _) with
    owed := _, maxLocalStreamIdBidi := _, maxLocalStreamIdUni := _, maxTxOffset := _ }
  rw [Conn.view_emit _ rfl]
  exact .limits { s.view with owed := owed } _ _ _ (uint32_lt_varintBound _) (uint32_lt_varintBound _) (uint32_lt_varintBound _)

theorem ngtcp2ConnSetRemoteTransportParams_always (exttype : TransportParamsType)
    (params : TransportParams) : Always sc (ngtcp2ConnSetRemoteTransportParams exttype params) := by
  intro s
  refine .got (.seq (.result _) fun _ u _ => .seq (connSetRemoteSettings_always _ _) fun _ t _ =>
    .seq ((getStrm_still 0).always _) fun strm0 t' run => ?_)
  obtain ⟨rfl, found⟩ := getStrm_ok run
  let marked := t'.emit
    (.mark (.strm0MaxTxOffset params.settings.maxStreamData.toNat strm0.txOffset))
  refine .jump (modify fun c => { c with transportParamRecved := true })
    (marked.setStrm 0 (some { strm0 with maxTxOffset := params.settings.maxStreamData.toNat }))
    ?_ (.of_move fun owed => ?_) ?_
  · rw [bind_ok (connMark_run _ _), bind_ok (modifyStrm_run (c := marked) _ found)]
  · rw [Conn.view_setStrm, Conn.view_emit _ rfl]
    exact .strm0Limit { t'.view with owed := owed } _ strm0.view (Conn.view_strms found) (uint32_lt_varintBound _)
  · exact .modified (.of_same rfl)

theorem ngtcp2ConnSetEarlyRemoteTransportParams_always (params : TransportParams) :
    Always sc (ngtcp2ConnSetEarlyRemoteTransportParams params) := by
  intro s
  refine .got ?_
  split
  · exact .failed _
  · exact connSetRemoteSettings_always _ _

theorem tlsCall_always (call : TlsCall) : Always sc (tlsCall call) := by
  cases call with
  | updateTxKeys ckm => exact ngtcp2ConnUpdateTxKeys_always ckm
  | setRemoteTransportParams exttype params =>
    exact ngtcp2ConnSetRemoteTransportParams_always exttype params
  | setEarlyRemoteTransportParams params =>
    exact ngtcp2ConnSetEarlyRemoteTransportParams_always params
  | handshakeCompleted => exact Still.always (.modify fun _ => rfl)
  | setAeadOverhead aeadOverhead => exact Still.always (.modify fun _ => rfl)
  | earlyDataRejected => exact Still.always (.modify fun _ => rfl)
  | setHandshakeTxKeys ckm => exact Still.always (installKey_still fun _ => rfl)
  | setHandshakeRxKeys ckm => exact Still.always (installKey_still fun _ => rfl)
  | updateEarlyKeys ckm => exact Still.always (installKey_still fun _ => rfl)
  | updateRxKeys ckm => exact Still.always (installKey_still fun _ => rfl)

theorem tlsCalls_run (calls : List TlsCall) (s : Conn) : ∃ t, tlsCalls calls s = (.ok (), t) ∧ ∀ sc, Passes sc s t := by
  induction calls generalizing s with
  | nil => exact ⟨s, rfl, fun _ _ => .refl⟩
  | cons call rest ih =>
    have attempted : Prog.attempt (tlsCall call) s = (.ok (tlsCall call s).1, (tlsCall call s).2) := rfl
    obtain ⟨t, run, passes⟩ := ih (tlsCall call s).2
    refine ⟨t, (bind_ok attempted).trans run, fun sc owed => .trans ?_ (passes sc owed)⟩
    cases result : tlsCall call s with
    | mk r u =>
      cases r with
      | ok a => exact (tlsCall_always call s).reached result owed
      | error e => exact (tlsCall_always call s).stopped result owed

theorem tlsCalls_does (calls : List TlsCall) : Does sc (tlsCalls calls) := by
  intro s
  obtain ⟨t, run, passes⟩ := tlsCalls_run calls s
  exact Eq.mpr (wp_run_ok run) (passes sc).reaches

theorem connCallTls_does {e : Event} (plain : e.kept = false) : Does sc (connCallTls app e) :=
  .get fun _ => .bind (emitEvent_still plain).does fun _ => tlsCalls_does _

theorem connCallRecvClientInitial_does : Does sc (connCallRecvClientInitial app) := by
  refine .get fun c => .bind (connCallTls_does app rfl) fun _ => ?_
  split
  · exact .pure _
  · exact .throw _

theorem connCallHandshakeCompleted_does : Does sc (connCallHandshakeCompleted app) := by
  refine .get fun c => .bind (connCallTls_does app rfl) fun _ => ?_
  split
  · exact .pure _
  · exact .throw _

def SameStrms (s t : Conn) : Prop :=
  ∀ id, (t.strms id).map (fun strm => { strm with maxTxOffset := 0 }) =
    (s.strms id).map fun strm => { strm with maxTxOffset := 0 }

instance : Path SameStrms (fun _ : Err => SameStrms) where
  refl _ _ := rfl
  trans first second id := (second id).trans (first id)
  stop same := same
  after first second id := (second id).trans (first id)

theorem SameStrms.found {s t : Conn} {id : Nat} {strm : Strm} (same : SameStrms s t)
    (found : s.strms id = some strm) :
    ∃ maxTxOffset, t.strms id = some { strm with maxTxOffset := maxTxOffset } := by
  have alike := same id
  rw [found] at alike
  obtain ⟨strm', found', eq⟩ := Option.map_eq_some_iff.mp alike
  refine ⟨strm'.maxTxOffset, found'.trans (congrArg some ?_)⟩
  cases strm'
  cases strm
  simp_all

theorem tlsCall_sameStrms (call : TlsCall) (s : Conn) :
    Goes SameStrms (fun _ => SameStrms) (tlsCall call) s := by
  have key (current : Conn → Option CryptoKm) {install : Conn → Conn} (same : ∀ c, (install c).strms = c.strms)
      (s : Conn) : Goes SameStrms (fun _ => SameStrms) (installKey current install) s := by
    refine .got ?_
    split
    · exact .failed _
    · exact .modified fun id => by rw [same]
  have settings (settings : Settings) (s : Conn) :
      Goes SameStrms (fun _ => SameStrms) (connSetRemoteSettings settings) s :=
    .got (.seq (.modified fun _ => rfl) fun _ _ _ => .modified fun _ => rfl)
  cases call with
  | setRemoteTransportParams exttype params =>
    refine .got (.seq (.result _) fun _ _ _ => .seq (settings _ _) fun _ t _ => ?_)
    refine .seq (wp_intro (fun strm0 u run => (getStrm_ok run).1 ▸ fun _ => rfl) fun e u run => ?_)
      fun strm0 u _ => .seq (.modified fun _ => rfl) fun _ w _ => .seq (.modified fun id => ?_) fun _ _ _ =>
      .modified fun _ => rfl
    · rw [getStrm_error_same run]
      exact fun _ => rfl
    · by_cases zero : id = 0
      · subst zero
        cases w.strms 0 <;> simp
      · simp [zero]
  | setEarlyRemoteTransportParams params =>
    refine .got ?_
    split
    · exact .failed _
    · exact settings _ _
  | handshakeCompleted => exact .modified fun _ => rfl
  | setAeadOverhead aeadOverhead => exact .modified fun _ => rfl
  | earlyDataRejected => exact .modified fun _ => rfl
  | setHandshakeTxKeys ckm => exact key _ (by exact fun _ => rfl) s
  | setHandshakeRxKeys ckm => exact key _ (by exact fun _ => rfl) s
  | updateEarlyKeys ckm => exact key _ (by exact fun _ => rfl) s
  | updateTxKeys ckm => exact key _ (by exact fun _ => rfl) s
  | updateRxKeys ckm => exact key _ (by exact fun _ => rfl) s

theorem tlsCalls_sameStrms (calls : List TlsCall) (s : Conn) :
    Goes SameStrms (fun _ => SameStrms) (tlsCalls calls) s := by
  induction calls generalizing s with
  | nil => exact .done _
  | cons call rest ih =>
    exact .attempted (tlsCall_sameStrms call s) (fun _ t _ => ih t) fun _ t _ same => (ih t).after same

theorem connCallRecvStream0Data_sameStrms (data : List UInt8) (s : Conn) :
    Goes SameStrms (fun _ => SameStrms) (connCallRecvStream0Data app data) s := by
  refine .got (.seq (.got (.seq (.modified fun _ => rfl) fun _ t _ => tlsCalls_sameStrms _ t))
    fun _ t _ => .seq ?_ fun _ u _ => ?_)
  · unfold markRefusedStream0
    split
    · exact .modified fun _ => rfl
    · exact .done _
  · split
    · exact .done _
    all_goals exact .failed _

def HandsOn (sc : Scope) (n : Nat) (s t : Conn) : Prop := ReflTransGen (Move sc) s.view { t.view with owed := n }

theorem HandsOn.uncredit {n : Nat} {s t : Conn} (hands : HandsOn sc n s t) :
    Reaches sc s (t.emit (.mark .uncredited)) := by
  refine hands.tail ?_
  rw [Conn.view_emit _ rfl]
  exact .uncredit { t.view with owed := n }

theorem connCallRecvStream0Data_spec (allowed : sc.rx 0) (data : List UInt8) (s : Conn) :
    wp (connCallRecvStream0Data app data) (fun _ t => HandsOn sc data.length s t)
      (fun _ t => Reaches sc s t ∧ .mark .uncredited ∈ t.view.log) s := by
  have handed : ReflTransGen (Move sc) s.view { (s.emit (.recvStream0Data data)).view with owed := data.length } := by
    rw [Conn.view_emit _ rfl]
    exact .single (.handOn s.view data allowed rfl)
  obtain ⟨t, run, passes⟩ := tlsCalls_run (app.tls s.log (.recvStream0Data data)) (s.emit (.recvStream0Data data))
  have hands : HandsOn sc data.length s t := handed.trans (passes sc data.length)
  have called : connCallTls app (.recvStream0Data data) s = (.ok (), t) := run
  unfold connCallRecvStream0Data
  rw [wp_bind, wp_get, wp_bind, wp_run_ok called, wp_bind]
  cases answer : app.recvStream0Data s.log with
  | none => exact hands
  | some e =>
    have marked : .mark .uncredited ∈ (t.emit (.mark .uncredited)).view.log := by
      rw [Conn.view_emit _ rfl]
      exact List.mem_concat_self
    cases e <;> exact ⟨hands.uncredit, marked⟩

theorem connCallRecvStream0Data_handsOn (allowed : sc.rx 0) {data : List UInt8} {s t : Conn}
    (run : connCallRecvStream0Data app data s = (.ok (), t)) : HandsOn sc data.length s t :=
  wp_ok (Q := fun _ t => HandsOn sc data.length s t) (connCallRecvStream0Data_spec app allowed data s) run

theorem connCallHandshakeData_does {e : Event} (plain : e.kept = false) :
    Does sc (connCallHandshakeData app e) := by
  refine .get fun c => .bind (connCallTls_does app plain) fun _ => ?_
  split
  · exact .throw _
  · exact .pure _

end Ngtcp2
