import Ngtcp2.Lib.Run
import Ngtcp2.Machine.Recv
import Ngtcp2.Machine.WriteApi

/-!
# Runs of a connection

A run starts with a new connection of either role and goes on with calls of the application, each with its own
answers of the callbacks and the allocator. A fatal error ends the connection.
-/

namespace Ngtcp2

open Prog Relation

inductive Call where
  | recv (pkt : Option Pkt) (ts : Nat)
  | frame (fr : Frame)
  | writePkt (destlen ts : Nat)
  | writeAckPkt (destlen ts : Nat)
  | writeStream (destlen streamId : Nat) (fin : Bool) (data : List UInt8) (ts : Nat)
  | writeConnectionClose (destlen errorCode : Nat)
  | writeApplicationClose (destlen appErrorCode : Nat)
  | openBidiStream
  | openUniStream
  | shutdownStream (streamId appErrorCode : Nat)
  | shutdownStreamWrite (streamId appErrorCode : Nat)
  | shutdownStreamRead (streamId appErrorCode : Nat)
  | extendMaxStreamOffset (streamId : Nat) (datalen : UInt64)
  | extendMaxOffset (datalen : UInt64)
  | tls (call : TlsCall)

def returns0 (m : ConnM Unit) : ConnM Nat := do
  m
  pure 0

namespace Call

/-- The result is the length of the packet written, or 0. -/
def exec (app : App) : Call → ConnM Nat
  | .recv pkt ts => returns0 (ngtcp2ConnRecv app pkt ts)
  | .frame fr => returns0 (recvFrame app fr)
  | .writePkt destlen ts => ngtcp2ConnWritePkt app destlen ts
  | .writeAckPkt destlen ts => ngtcp2ConnWriteAckPkt app destlen ts
  | .writeStream destlen streamId fin data ts => do
    let (nwrite, _) ← ngtcp2ConnWriteStream app destlen streamId fin data ts
    pure nwrite
  | .writeConnectionClose destlen errorCode => ngtcp2ConnWriteConnectionClose app destlen errorCode
  | .writeApplicationClose destlen appErrorCode =>
    ngtcp2ConnWriteApplicationClose app destlen appErrorCode
  | .openBidiStream => do
    let _ ← ngtcp2ConnOpenBidiStream app
    pure 0
  | .openUniStream => do
    let _ ← ngtcp2ConnOpenUniStream app
    pure 0
  | .shutdownStream id code => returns0 (ngtcp2ConnShutdownStream app id code)
  | .shutdownStreamWrite id code => returns0 (ngtcp2ConnShutdownStreamWrite app id code)
  | .shutdownStreamRead id code => returns0 (ngtcp2ConnShutdownStreamRead app id code)
  | .extendMaxStreamOffset id datalen => returns0 (ngtcp2ConnExtendMaxStreamOffset id datalen.toNat)
  | .extendMaxOffset datalen => returns0 (ngtcp2ConnExtendMaxOffset datalen.toNat)
  | .tls call => returns0 (tlsCall call)

def Wire : Call → Prop
  | .frame fr => fr.WireOk
  | _ => True

instance (call : Call) : Decidable call.Wire := by
  apply call.casesOn (motive := fun call => Decidable call.Wire) <;> intros <;> unfold Wire <;> infer_instance

def rx : Call → Nat → Prop
  | .recv _ _, _ => True
  | .frame fr, id => fr.rx id
  | .extendMaxStreamOffset streamId _, id => id = streamId
  | _, _ => False

/-- The streams on which a call may turn away what is still to come. -/
def shut : Call → Nat → Prop
  | .recv _ _, _ => True
  | .frame fr, id => fr.shut id
  | .shutdownStream streamId _, id => id = streamId
  | .shutdownStreamRead streamId _, id => id = streamId
  | _, _ => False

def enters : Call → ConnState → ConnState → Prop
  | .recv _ _, state, next => next ∈ recvEnters state
  | .frame fr, _, next => fr.enters next
  | .writePkt _ _, state, next => next ∈ writePktEnters state
  | .writeConnectionClose _ _, state, next => state = .POST_HANDSHAKE ∧ next = .CLOSING
  | .writeApplicationClose _ _, state, next => state = .POST_HANDSHAKE ∧ next = .CLOSING
  | _, _, _ => False

theorem enters_early {call : Call} {state next : ConnState} (entered : call.enters state next)
    (early : next = .SERVER_INITIAL ∨ next = .SERVER_WAIT_HANDSHAKE) : state = .SERVER_INITIAL := by
  cases call with
  | recv pkt ts =>
    have late : ∀ next ∈ recvEnters state, ¬ (next = .SERVER_INITIAL ∨ next = .SERVER_WAIT_HANDSHAKE) := by
      cases state <;> decide
    exact absurd early (late next entered)
  | frame fr =>
    have late : next = .DRAINING := by
      cases fr <;> first | exact entered | exact entered.elim
    simp [late] at early
  | writePkt destlen ts =>
    have first : ∀ next ∈ writePktEnters state,
        next = .SERVER_INITIAL ∨ next = .SERVER_WAIT_HANDSHAKE → state = .SERVER_INITIAL := by
      cases state <;> decide
    exact first next entered early
  | writeConnectionClose destlen errorCode => simp [entered.2] at early
  | writeApplicationClose destlen appErrorCode => simp [entered.2] at early
  | _ => exact entered.elim

def posts : Call → ConnState → Prop
  | .writePkt _ _, state => state = .POST_HANDSHAKE
  | _, _ => False

def empty : Call → Prop
  | .writeStream _ _ _ data _ => data = []
  | _ => False

/-- A call that extends the window of a stream by more than a variable-length integer can hold. -/
def wraps : Call → Prop
  | .extendMaxStreamOffset _ datalen => maxVarint < datalen.toNat
  | _ => False

/-- A scope allows what a call in a given state does, apart from losing packets. -/
structure Within (call : Call) (state : ConnState) (sc : Scope) : Prop where
  rx : ∀ id, call.rx id → sc.rx id
  shut : ∀ id, call.shut id → sc.shut id
  send : sc.send
  post : call.posts state → sc.post
  empty : call.empty → sc.empty
  wrap : call.wraps → sc.wrap
  enters : ∀ next, call.enters state next → sc.become next

end Call

section

variable {sc : Scope} (app : App) {s : Conn}

theorem Goes.ends {α : Type} {m : ConnM α} (goes : Goes (Reaches sc) (Fails sc) m s) :
    wp (m >>= fun _ => Pure.pure 0) (Ends sc s) (fun e t => Loses sc e s t) s := by
  rw [wp_bind]
  exact wp_mono goes (fun _ _ reached => .zero reached) fun _ _ => Fails.loses

theorem Call.exec_spec {call : Call} (wire : call.Wire) (role : s.Role) (within : call.Within s.state sc) :
    wp (call.exec app) (Ends sc s) (fun e t => Loses sc e s t) s := by
  obtain ⟨rx, shut, send, post, empty, wrap, enters⟩ := within
  cases call with
  | recv pkt ts =>
    exact Goes.ends
      (ngtcp2ConnRecv_goes app (fun id => ⟨rx id trivial, shut id trivial⟩) send pkt ts role enters)
  | frame fr => exact Goes.ends (recvFrame_does app wire rx shut enters s)
  | writePkt destlen ts => exact ngtcp2ConnWritePkt_spec app send s post enters
  | writeAckPkt destlen ts => exact ngtcp2ConnWriteAckPkt_spec app send s
  | writeStream destlen streamId fin data ts =>
    unfold Call.exec
    rw [wp_bind]
    exact wp_mono (ngtcp2ConnWriteStream_spec app streamId fin data send empty s) (fun _ _ => Sends.ends)
      fun _ _ err => err
  | writeConnectionClose destlen errorCode =>
    exact ngtcp2ConnWriteConnectionClose_spec app errorCode send s fun state => enters _ ⟨state, rfl⟩
  | writeApplicationClose destlen appErrorCode =>
    exact ngtcp2ConnWriteApplicationClose_spec app appErrorCode send s fun state => enters _ ⟨state, rfl⟩
  | openBidiStream => exact Goes.ends (ngtcp2ConnOpenBidiStream_does app s)
  | openUniStream => exact Goes.ends (ngtcp2ConnOpenUniStream_does app s)
  | shutdownStream id code => exact Goes.ends (ngtcp2ConnShutdownStream_does app code (shut id rfl) s)
  | shutdownStreamWrite id code =>
    exact Goes.ends (shutdownChecked_does (fun _ => connShutdownStreamWrite_does app id code) s)
  | shutdownStreamRead id code =>
    exact Goes.ends (shutdownChecked_does (connShutdownStreamRead_does app code (shut id rfl)) s)
  | extendMaxStreamOffset id datalen =>
    have fits : datalen.toNat ≤ maxVarint ∨ sc.wrap := (Nat.lt_or_ge _ _).symm.imp_right wrap
    exact Goes.ends (ngtcp2ConnExtendMaxStreamOffset_does datalen.toNat (rx id rfl) fits s)
  | extendMaxOffset datalen => exact Goes.ends (ngtcp2ConnExtendMaxOffset_does datalen.toNat s)
  | tls call => exact Goes.ends ((tlsCall_always call).does s)

end

/-- A call, what the callbacks and the allocator answer during it, and what it returns. -/
structure Act where
  app : App
  call : Call
  result : Except Err Nat

structure Step (s : Conn) (act : Act) (t : Conn) : Prop where
  exec : act.call.exec act.app s = (act.result, t)
  alive : ∀ e, act.result = .error e → e.fatal = false
  wire : act.call.Wire

inductive Started : Conn → Prop
  | client (connId version : Nat) (settings : Settings) (acked : Bool) :
    Started (ngtcp2ConnClientNew connId version settings acked)
  | server (connId version : Nat) (settings : Settings) (acked : Bool) :
    Started (ngtcp2ConnServerNew connId version settings acked)

abbrev Runs : List Act → Conn → Prop := Run Step Started

def positive : Except Err Nat → Bool
  | .ok len => decide (0 < len)
  | .error _ => false

def Act.scope (act : Act) (state : ConnState) : Scope where
  rx := act.call.rx
  wrap := act.call.wraps
  shut := act.call.shut
  send := True
  lose := act.result = .error .PKT_TIMEOUT
  post := act.call.posts state
  empty := act.call.empty
  become := act.call.enters state

theorem Act.within (act : Act) (state : ConnState) : act.call.Within state (act.scope state) :=
  ⟨fun _ => id, fun _ => id, trivial, id, id, id, fun _ => id⟩

section

variable {sc : Scope} {s t : Conn} {act : Act}

theorem Step.ends (step : Step s act t) (role : s.Role) (within : act.call.Within s.state sc) {len : Nat}
    (ok : act.result = .ok len) : Ends sc s len t :=
  wp_ok (act.call.exec_spec act.app step.wire role within) (ok ▸ step.exec)

theorem Step.reaches (step : Step s act t) (role : s.Role) (within : act.call.Within s.state sc)
    (lose : act.result = .error .PKT_TIMEOUT → sc.lose) : Reaches sc s t := by
  cases result : act.result with
  | ok len => exact (step.ends role within result).reached
  | error e =>
    have stopped := wp_error (act.call.exec_spec act.app step.wire role within) (result ▸ step.exec)
    rcases stopped with fatal | reached
    · simp [step.alive e result] at fatal
    · exact reached fun timeout => lose (timeout ▸ result)

def Scope.any : Scope where
  rx _ := True
  wrap := True
  shut _ := True
  send := True
  lose := True
  post := True
  empty := True
  become _ := True

theorem Call.within_any (call : Call) (state : ConnState) : call.Within state .any :=
  ⟨fun _ _ => trivial, fun _ _ => trivial, trivial, fun _ => trivial, fun _ => trivial,
    fun _ => trivial, fun _ _ => trivial⟩

theorem Step.reaches_any (step : Step s act t) (role : s.Role) : Reaches .any s t :=
  step.reaches role (act.call.within_any s.state) fun _ => trivial

theorem Step.reaches_scope (step : Step s act t) (role : s.Role) : Reaches (act.scope s.state) s t :=
  step.reaches role (act.within s.state) id

theorem Step.state (step : Step s act t) (role : s.Role) :
    t.state = s.state ∨ act.call.enters s.state t.state :=
  (step.reaches_scope role).entered

theorem Step.packet (step : Step s act t) (role : s.Role) (sent : positive act.result = true) :
    s.view.packets < t.view.packets := by
  cases result : act.result with
  | ok len =>
    rw [result] at sent
    exact (step.ends role (act.within s.state) result).packet (of_decide_eq_true sent)
  | error e => simp [result, positive] at sent

theorem Step.role (step : Step s act t) (role : s.Role) : t.Role := by
  have server : t.server = s.server := (step.reaches_any role).server
  intro early
  rw [server]
  rcases step.state role with same | entered
  · exact role (same ▸ early)
  · exact role (.inl (Call.enters_early entered early))

end

theorem Runs.role {acts : List Act} {c : Conn} (run : Runs acts c) : c.Role := by
  refine Run.invariant run (P := fun _ c => c.Role) (fun c first => ?_) fun _ _ _ _ role step => step.role role
  cases first with
  | client connId version settings acked =>
    intro early
    rcases early with early | early <;> cases early
  | server connId version settings acked => exact fun _ => rfl

def Conn.play : Conn → List (App × Call) → Conn
  | c, [] => c
  | c, (app, call) :: rest => (call.exec app c).2.play rest

def Conn.acts : Conn → List (App × Call) → List Act
  | _, [] => []
  | c, (app, call) :: rest =>
    { app := app, call := call, result := (call.exec app c).1 } :: (call.exec app c).2.acts rest

def alive : Except Err Nat → Bool
  | .ok _ => true
  | .error e => !e.fatal

def Conn.plays : Conn → List (App × Call) → Bool
  | _, [] => true
  | c, (app, call) :: rest =>
    decide call.Wire && alive (call.exec app c).1 && (call.exec app c).2.plays rest

theorem Run.play {init : Conn → Prop} {acts : List Act} {c : Conn} (run : Run Step init acts c)
    (calls : List (App × Call)) (plays : c.plays calls = true) :
    Run Step init (acts ++ c.acts calls) (c.play calls) := by
  induction calls generalizing acts c with
  | nil => simpa [Conn.acts, Conn.play] using run
  | cons first rest ih =>
    obtain ⟨app, call⟩ := first
    simp only [Conn.plays, Bool.and_eq_true, decide_eq_true_eq] at plays
    obtain ⟨⟨wire, living⟩, later⟩ := plays
    have step : Step c ⟨app, call, (call.exec app c).1⟩ (call.exec app c).2 := by
      refine ⟨rfl, fun e failed => ?_, wire⟩
      dsimp only at failed
      rw [failed] at living
      simpa [alive] using living
    have played := ih (run.next step) later
    simpa [Conn.acts, Conn.play] using played

theorem Conn.played (c : Conn) (calls : List (App × Call)) (plays : c.plays calls = true) :
    Run Step (fun d => d = c) (c.acts calls) (c.play calls) := by
  have start : Run Step (fun d => d = c) [] c := .start rfl
  exact Run.play start calls plays

theorem Runs.play {acts : List Act} {c : Conn} (run : Runs acts c) (calls : List (App × Call))
    (plays : c.plays calls = true) : Runs (acts ++ c.acts calls) (c.play calls) :=
  Run.play run calls plays

theorem Reaches.log_extends {sc : Scope} {s t : Conn} (reaches : Reaches sc s t) :
    s.view.log <+: t.view.log :=
  Move.log_run reaches

/-- What every move keeps, as long as the log meets a condition, is kept by every sequence of moves. -/
theorem Reaches.invariant {sc : Scope} {s t : Conn} (reaches : Reaches sc s t) {C : List Event → Prop}
    {P : View → Prop} (earlier : ∀ {log log' : List Event}, log <+: log' → C log' → C log)
    (next : ∀ v w, Move sc v w → C w.log → P v → P w) (met : C t.view.log) (holds : P s.view) :
    P t.view := by
  have reached : ∀ {v w : View}, ReflTransGen (Move sc) v w → C w.log → P v → P w := by
    intro v w moves
    induction moves with
    | refl => exact fun _ holds => holds
    | tail _ move ih =>
      exact fun met holds => next _ _ move met (ih (earlier move.log_extends met) holds)
  exact reached reaches met holds

/-- What holds of a new connection and is kept by every move, as long as the log meets a condition,
holds in every run. -/
theorem Runs.invariant {acts : List Act} {c : Conn} (run : Runs acts c) {C : List Event → Prop}
    {P : View → Prop} (earlier : ∀ {log log' : List Event}, log <+: log' → C log' → C log)
    (start : ∀ c, Started c → P c.view)
    (next : ∀ v w, Move .any v w → C w.log → P v → P w) (met : C c.view.log) : P c.view := by
  induction run with
  | start first => exact start _ first
  | next before taken ih =>
    have moves := taken.reaches_any (Runs.role before)
    exact moves.invariant earlier next met (ih (earlier moves.log_extends met))

theorem Conn.mem_log {c : Conn} {e : Event} (kept : e.kept = true) : e ∈ c.view.log ↔ e ∈ c.log := by
  simp [Conn.view, kept]

theorem Conn.packets_log (c : Conn) : c.view.packets = c.log.countP Event.isEncrypt := by
  unfold View.packets Conn.view
  rw [List.countP_filter]
  refine List.countP_congr fun e _ => ?_
  cases e <;> simp [Event.isEncrypt, Event.kept]

theorem Conn.pairwise_log {c : Conn} {R : Event → Event → Prop}
    (plain : ∀ e e', e.kept = false ∨ e'.kept = false → R e e') (pairwise : c.view.log.Pairwise R) :
    c.log.Pairwise R := by
  refine (List.pairwise_filter.mp pairwise).imp fun {e e'} related => ?_
  cases first : e.kept
  · exact plain e e' (.inl first)
  · cases second : e'.kept
    · exact plain e e' (.inr second)
    · exact related first second

theorem Runs.packets {acts : List Act} {c : Conn} (run : Runs acts c) :
    acts.countP (fun act => positive act.result) ≤ c.view.packets := by
  induction run with
  | start => exact Nat.zero_le _
  | @next acts s t act before step ih =>
    have role := Runs.role before
    rw [List.countP_append, List.countP_singleton]
    split
    next sent =>
      have grows := step.packet role sent
      omega
    next =>
      have grows := View.packets_run (step.reaches_any role)
      omega

def Marked (ok : Mark → Prop) (log : List Event) : Prop := ∀ m, .mark m ∈ log → ok m

def Event.mark? : Event → Option Mark
  | .mark m => some m
  | _ => none

instance (ok : Mark → Prop) [DecidablePred ok] (log : List Event) : Decidable (Marked ok log) :=
  decidable_of_iff (∀ m ∈ log.filterMap Event.mark?, ok m) (by
    refine forall_congr' fun m => imp_congr_left ?_
    rw [List.mem_filterMap]
    constructor
    · rintro ⟨e, member, same⟩
      cases e <;> cases same
      exact member
    · exact fun member => ⟨_, member, rfl⟩)

theorem Marked.earlier {ok : Mark → Prop} {log log' : List Event} (earlier : log <+: log')
    (marked : Marked ok log') : Marked ok log :=
  fun m member => marked m (earlier.subset member)

theorem Runs.invariant_marked {acts : List Act} {c : Conn} (run : Runs acts c) {ok : Mark → Prop}
    {P : View → Prop} (start : ∀ c, Started c → P c.view)
    (next : ∀ v w, Move .any v w → Marked ok w.log → P v → P w) (marked : Marked ok c.log) :
    P c.view := by
  have met : Marked ok c.view.log := fun m member => marked m ((Conn.mem_log rfl).mp member)
  exact run.invariant (C := Marked ok) Marked.earlier start next met

def View.Each (v : View) (P : Nat → Strm → Prop) : Prop := ∀ id strm, v.strms id = some strm → P id strm

section Each

variable {v : View} {P : Nat → Strm → Prop} {id : Nat}

theorem View.Each.set {strm : Strm} (each : v.Each P) (holds : P id strm) :
    (v.setStrm id (some strm)).Each P := by
  intro i strm' found
  by_cases same : i = id
  · subst same
    obtain rfl : strm = strm' := by simpa [View.setStrm] using found
    exact holds
  · exact each i strm' (by simpa [View.setStrm, same] using found)

theorem View.Each.same {w : View} (each : v.Each P) (same : w.strms = v.strms) : w.Each P :=
  fun i strm found => each i strm (same ▸ found)

theorem View.Each.unset (each : v.Each P) : (v.setStrm id none).Each P := by
  intro i strm' found
  by_cases same : i = id
  · subst same
    simp [View.setStrm] at found
  · exact each i strm' (by simpa [View.setStrm, same] using found)

theorem View.Each.conn {c : Conn} {strm : Strm} (each : c.view.Each P) (found : c.strms id = some strm) :
    P id strm.view :=
  each id strm.view (by simp [Conn.view, found])

theorem Started.each {c : Conn} (first : Started c)
    (zero : ∀ maxRx : UInt32, P 0 (ngtcp2StrmInit 0 false false maxRx.toNat strm0MaxStreamData)) :
    c.view.Each P := by
  intro i strm found
  by_cases same : i = 0
  · subst same
    cases first <;> cases found <;> exact zero _
  · cases first <;> simp [Conn.view, ngtcp2ConnClientNew, ngtcp2ConnServerNew, connNew, same] at found

end Each

section Open

/-- A packet that has the given frames under every key. -/
def Pkt.of (longForm : Bool) (type : PktType) (pktNum : UInt32) (frs : List Frame)
    (ok : ∀ fr ∈ frs, fr.WireOk) : Pkt where
  hd := .ok
    { longForm := longForm, omitConnId := false, type := type, connId := 1, pktNum := pktNum.toNat,
      version := 1 }
  longForm := longForm
  payload _ _ := .frames frs false
  resetToken := none
  versions := none
  pktNumOk := by
    rintro h ⟨rfl⟩
    exact pktNum.toNat_lt
  framesOk := by
    rintro ckm n frs malformed ⟨rfl, rfl⟩
    exact ok

def Settings.plain : Settings where
  maxStreamData := 1000
  maxData := 1000
  maxStreamIdBidi := 40
  maxStreamIdUni := 42
  omitConnectionId := false
  statelessResetToken := []
  ackDelayExponent := 0

def CryptoKm.plain : CryptoKm := { key := [], iv := List.replicate 12 0 }

/-- A TLS stack with a message to send. -/
def App.hello : App := { App.quiet with handshakeData := fun _ _ => some (1, [0]) }

def App.finished : App := { App.quiet with tls := fun _ _ => [.handshakeCompleted] }

def tlsCallsOf (exttype : TransportParamsType) : List (App × Call) :=
  [TlsCall.setHandshakeTxKeys .plain, .setHandshakeRxKeys .plain, .updateTxKeys .plain,
   .updateRxKeys .plain,
   .setRemoteTransportParams exttype
     { settings := .plain, negotiatedVersion := 1, supportedVersions := [1] }].map
    fun call => (.quiet, .tls call)

def handshakePkt (type : PktType) (pktNum : UInt32) (offset : UInt32) : Pkt :=
  .of true type pktNum
    [.stream { fin := false, streamId := 0, offset := offset.toNat, data := [0] }] (by
      have bound : offset.toNat < 4294967296 := offset.toNat_lt
      simp only [List.mem_singleton, forall_eq, Frame.WireOk, StreamFrame.WireOk, StreamFrame.datalen,
        varintBound, List.length_singleton]
      omega)

def serverCalls : List (App × Call) :=
  tlsCallsOf .CLIENT_HELLO ++
    [(.quiet, .recv (some (handshakePkt .INITIAL 1 0)) 0), (.hello, .writePkt 1200 0),
     (.finished, .recv (some (handshakePkt .HANDSHAKE 2 1)) 0)]

/-- A server that has completed the handshake. -/
def openServer : Conn := (ngtcp2ConnServerNew 1 1 .plain true).play serverCalls

theorem openServer_runs : Runs ((ngtcp2ConnServerNew 1 1 .plain true).acts serverCalls) openServer :=
  Runs.play (.start (.server 1 1 .plain true)) serverCalls (by decide)

def clientCalls : List (App × Call) :=
  tlsCallsOf .ENCRYPTED_EXTENSIONS ++
    [(.hello, .writePkt 1200 0), (.finished, .recv (some (handshakePkt .HANDSHAKE 1 0)) 0),
     (.quiet, .writePkt 1200 0)]

/-- A client that has completed the handshake. -/
def openClient : Conn := (ngtcp2ConnClientNew 1 1 .plain true).play clientCalls

theorem openClient_runs : Runs ((ngtcp2ConnClientNew 1 1 .plain true).acts clientCalls) openClient :=
  Runs.play (.start (.client 1 1 .plain true)) clientCalls (by decide)

end Open

end Ngtcp2
