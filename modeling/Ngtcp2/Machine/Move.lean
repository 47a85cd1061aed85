import Mathlib.Data.List.Perm.Basic
import Mathlib.Logic.Relation
import Ngtcp2.Conn.Recv

/-!
# The connection as an abstract machine

A `View` is what the statements about whole runs see of a connection. A `Move` is one thing that can happen to
it: a packet is sent, a stream is opened, an entry is acknowledged. That every function is a sequence of moves
is shown once; each invariant then looks at the moves only.
-/

namespace Ngtcp2

def Event.kept : Event → Bool
  | .encrypt _ _ _ | .recvStreamData _ _ _ | .recvStream0Data _ | .streamClose _ _
  | .ackedStreamDataOffset _ _ _ | .schedAck _ _ _ _ | .mark _ => true
  | _ => false

def Event.isEncrypt : Event → Bool
  | .encrypt _ _ _ => true
  | _ => false

def Strm.view (strm : Strm) : Strm :=
  { strm with nbuffered := 0, txBuf := [], appErrorCode := 0 }

structure View where
  localSettings : Settings
  state : ConnState
  strms : Nat → Option Strm
  server : Bool
  remoteBidiIdtr : Idtr
  remoteUniIdtr : Idtr
  maxLocalStreamIdBidi : Nat
  nextLocalStreamIdBidi : Nat
  maxLocalStreamIdUni : Nat
  nextLocalStreamIdUni : Nat
  unsentMaxRemoteStreamIdBidi : Nat
  maxRemoteStreamIdBidi : Nat
  unsentMaxRemoteStreamIdUni : Nat
  maxRemoteStreamIdUni : Nat
  remoteStreamIdBidiWindowStart : Nat
  remoteStreamIdUniWindowStart : Nat
  fcStrms : List Nat
  rxOffset : Nat
  maxRxOffset : Nat
  unsentMaxRxOffset : Nat
  txOffset : Nat
  maxTxOffset : Nat
  lastTxPktNum : Nat
  /-- The items of the queue and the list of the retransmission buffer. -/
  queue : Queue
  head : List RtbEntry
  earlyRtb : List RtbEntry
  /-- The entry that has left the retransmission buffer and has not been settled yet. -/
  hand : Option RtbEntry
  acking : Bool
  /-- The bytes of stream 0 that have been handed on and not been settled yet. -/
  owed : Nat
  frq : List Frame
  tracked : List AcktrEntry
  activeAck : Bool
  armed : Bool
  keyed : Bool
  ackedStreamDataOffset : Bool
  nalloc : Nat
  log : List Event

def Conn.view (c : Conn) : View where
  localSettings := c.localSettings
  state := c.state
  strms := fun id => (c.strms id).map Strm.view
  server := c.server
  remoteBidiIdtr := c.remoteBidiIdtr
  remoteUniIdtr := c.remoteUniIdtr
  maxLocalStreamIdBidi := c.maxLocalStreamIdBidi
  nextLocalStreamIdBidi := c.nextLocalStreamIdBidi
  maxLocalStreamIdUni := c.maxLocalStreamIdUni
  nextLocalStreamIdUni := c.nextLocalStreamIdUni
  unsentMaxRemoteStreamIdBidi := c.unsentMaxRemoteStreamIdBidi
  maxRemoteStreamIdBidi := c.maxRemoteStreamIdBidi
  unsentMaxRemoteStreamIdUni := c.unsentMaxRemoteStreamIdUni
  maxRemoteStreamIdUni := c.maxRemoteStreamIdUni
  remoteStreamIdBidiWindowStart := c.remoteStreamIdBidiWindowStart
  remoteStreamIdUniWindowStart := c.remoteStreamIdUniWindowStart
  fcStrms := c.fcStrms
  rxOffset := c.rxOffset
  maxRxOffset := c.maxRxOffset
  unsentMaxRxOffset := c.unsentMaxRxOffset
  txOffset := c.txOffset
  maxTxOffset := c.maxTxOffset
  lastTxPktNum := c.lastTxPktNum
  queue := c.rtb.queue
  head := c.rtb.head
  earlyRtb := c.earlyRtb
  hand := none
  acking := false
  owed := 0
  frq := c.frq
  tracked := c.acktr.ent
  activeAck := c.acktr.activeAck
  armed := c.immediateAck || c.nextAckExpiry != 0
  keyed := c.txCkm.isSome
  ackedStreamDataOffset := c.ackedStreamDataOffset
  nalloc := c.nalloc
  log := c.log.filter Event.kept

namespace View

variable (v : View)

def next : Nat := add64 v.lastTxPktNum 1

def packets : Nat := v.log.countP Event.isEncrypt

def headPktNum : Option Nat := v.head.head?.map fun ent => ent.hd.pktNum

def setStrm (id : Nat) (strm : Option Strm) : View :=
  { v with strms := Function.update v.strms id strm }

def emit (e : Event) : View := { v with log := v.log ++ [e] }

def enter (state : ConnState) : View :=
  { v with state := state, log := v.log ++ [.mark (.state state)] }

def add (ent : RtbEntry) (queue : Queue) : View :=
  { v with head := ent :: v.head, queue := queue }

def unsentMaxRemoteStreamId (bidi : Bool) : Nat :=
  if bidi then v.unsentMaxRemoteStreamIdBidi else v.unsentMaxRemoteStreamIdUni

def maxRemoteStreamId (bidi : Bool) : Nat :=
  if bidi then v.maxRemoteStreamIdBidi else v.maxRemoteStreamIdUni

def Acked (fr : Frame) : Prop := ∃ n frames, .mark (.ackedEntry n frames) ∈ v.log ∧ fr ∈ frames

def localStream (id : Nat) : Bool :=
  if v.server then id % 2 != 0 else id % 2 == 0

def idtr (id : Nat) : Idtr :=
  if bidiStream id then v.remoteBidiIdtr else v.remoteUniIdtr

def setIdtr (id : Nat) (idtr : Idtr) : View :=
  { v with
    remoteBidiIdtr := if bidiStream id then idtr else v.remoteBidiIdtr
    remoteUniIdtr := if bidiStream id then v.remoteUniIdtr else idtr }

end View

def FreshInitial (log : List Event) : Prop :=
  ∃ pre post, log = pre ++ .mark (.initialPktNum 0) :: post ∧
    ∀ e ∈ post, (∀ ckm n frames, e ≠ .encrypt ckm n frames) ∧ ∀ n, e ≠ .mark (.initialPktNum n)

def View.Ready (v : View) : Prop := v.lastTxPktNum ≠ uint64Max ∨ FreshInitial v.log

def Vouched (log : List Event) : Prop :=
  ∃ pre tracked post, log = pre ++ .mark (.unprotectedAck tracked) :: post ∧
    ∀ e ∈ post, ∀ n active unprotected ts, e ≠ .schedAck n active unprotected ts

def Created (unprotected : Bool) (kept : List AcktrEntry) (ack : Ack) : Prop :=
  ∃ left e rest scan delay,
    (kept ++ left).dropWhile (fun e => unprotected && !e.unprotected) = e :: rest ∧
    ackScan unprotected rest (AckScan.start e.pktNum) = (scan, left) ∧
    ack = ackOfScan e.pktNum delay scan

def AckCarried (v : View) (frames : List Frame) : Option (Ack × Bool) → Prop
  | none => True
  | some (ack, unprotected) =>
    .ack ack ∈ frames ∧ Created unprotected v.tracked ack ∧ (unprotected = true → Vouched v.log)

def View.send (v : View) (ckm : CryptoKm) (frames : List Frame) (ack : Option (Ack × Bool)) : View :=
  { v with
    lastTxPktNum := v.next
    activeAck := v.activeAck && ack.isNone
    armed := v.armed && ack.isNone
    log := v.log ++ [.encrypt ckm v.next frames] }

def PktHd.shortType (hd : PktHd) : Prop := hd.type = .PKT_01 ∨ hd.type = .PKT_02 ∨ hd.type = .PKT_03

def PktHd.Tracked (hd : PktHd) : Prop :=
  if hd.longForm then hd.type = .INITIAL ∨ hd.type = .HANDSHAKE else hd.shortType

def PktHd.Renewed (hd hd' : PktHd) : Prop :=
  hd'.longForm = hd.longForm ∧ if hd.longForm then hd'.type = hd.type else hd'.shortType

def Frame.appStream : Frame → Bool
  | .stream fr => fr.streamId != 0
  | _ => false

def Frame.handshake : Frame → Bool
  | .stream fr => fr.streamId == 0
  | .connectionClose _ _ => true
  | _ => false

def Frame.Handshake (fr : Frame) : Prop :=
  fr.handshake = true ∧ ∀ sent, fr = .stream sent → sent.endOffset < 18446744073709551616

structure View.NewEntry (v : View) (ent : RtbEntry) (nalloc : Nat) : Prop where
  pktNum : ent.hd.pktNum = v.next
  tracked : ent.hd.Tracked
  fresh : v.nalloc ≤ ent.addr
  allocated : ent.addr < nalloc

def View.ackFrame (v : View) : Frame → View
  | .stream fr =>
    match v.strms fr.streamId with
    | none => v
    | some strm =>
      v.setStrm fr.streamId
        (some { strm with ackedTxOffset := ngtcp2GaptrPush strm.ackedTxOffset fr.offset fr.datalen })
  | _ => v

def Event.ackedFrames? : Event → Option (List Frame)
  | .mark (.ackedEntry _ frames) => some frames
  | _ => none

def lastAcked (log : List Event) : List Frame := (log.reverse.findSome? Event.ackedFrames?).getD []

def Strm.ackedGain (strm : Strm) (fr : StreamFrame) : Nat :=
  sub64 (ngtcp2GaptrFirstGapOffset (ngtcp2GaptrPush strm.ackedTxOffset fr.offset fr.datalen))
    (ngtcp2GaptrFirstGapOffset strm.ackedTxOffset)

def View.Obsolete (v : View) : Frame → Prop
  | .stream fr => ∀ strm, v.strms fr.streamId = some strm → strm.sentRst = true
  | .stopSending _ => True
  | .maxStreamId n => n < v.maxRemoteStreamId (bidiStream n)
  | .maxStreamData fr => ∀ strm, v.strms fr.streamId = some strm → fr.maxStreamData < strm.maxRxOffset
  | .maxData n => n < v.maxRxOffset
  | _ => False

def View.Dropped (v : View) : Frame → Prop
  | .rstStream fr => v.strms fr.streamId = none ∧ fr.appErrorCode ≠ ngtcp2Stopping
  | .stopSending _ => True
  | _ => False

def View.Queues (v : View) : Frame → Prop
  | .stream _ => False
  | .rstStream fr => ∃ id strm, v.strms id = some strm ∧ fr.streamId = strm.streamId
  | .maxData n => n = v.unsentMaxRxOffset
  | .maxStreamData fr => ∃ strm, v.strms fr.streamId = some strm ∧ fr.maxStreamData = strm.unsentMaxRxOffset
  | .maxStreamId _ => False
  | _ => True

def View.closeStream (v : View) (strm : Strm) (code : Nat) : View :=
  { v.setStrm strm.streamId none with
    fcStrms := if strm.fcPprev then v.fcStrms.erase strm.streamId else v.fcStrms
    log := v.log ++ [.mark (closeMark strm v.frq), .streamClose strm.streamId code] }

def IdExtended (old new : Nat) : Prop := new = old ∨ new = old + 4 ∧ new ≤ maxVarint

structure Strm.SameTx (strm strm' : Strm) : Prop where
  streamId : strm'.streamId = strm.streamId
  txOffset : strm'.txOffset = strm.txOffset
  maxTxOffset : strm'.maxTxOffset = strm.maxTxOffset
  ackedTxOffset : strm'.ackedTxOffset = strm.ackedTxOffset
  sentRst : strm'.sentRst = strm.sentRst
  maxRxOffset : strm'.maxRxOffset = strm.maxRxOffset
  stopSending : strm'.stopSending = strm.stopSending
  fcPprev : strm'.fcPprev = strm.fcPprev
  shutWr : strm'.shutWr = strm.shutWr

structure View.Claims (v : View) (id : Nat) (strm strm' : Strm) (offset n : Nat) : Prop where
  bound : offset < 2 * varintBound
  window : offset ≤ strm.maxRxOffset
  rob : strm'.rob = strm.rob
  unsent : strm'.unsentMaxRxOffset = strm.unsentMaxRxOffset
  shut : id ≠ 0 → strm.shutRd = true → strm'.shutRd = true ∧ offset ≤ strm.lastRxOffset
  last : strm'.lastRxOffset = max strm.lastRxOffset offset ∨
    strm'.lastRxOffset = strm.lastRxOffset ∧ strm'.shutRd = true
  listed : strm.fcPprev = true →
    strm'.shutRd = strm.shutRd ∨ strm.stopSending = true ∨ .mark (.rstListed true) ∈ v.log
  counted : strm.streamId = id →
    (id = 0 ∨ offset ≤ strm.lastRxOffset) ∧ n = v.rxOffset ∨
    id ≠ 0 ∧ strm.lastRxOffset ≤ offset ∧ offset - strm.lastRxOffset ≤ sub64 v.maxRxOffset v.rxOffset ∧
      n = add64 v.rxOffset (offset - strm.lastRxOffset)

structure Rob.Filled (rob rob' : Rob) (last : Nat) : Prop where
  chunk : rob'.chunk = rob.chunk
  ordered : Range.Ordered 0 rob.gap → Range.Ordered 0 rob'.gap
  fewer : Range.Ordered 0 rob.gap → ∀ o, Range.Covers rob'.gap o → Range.Covers rob.gap o
  above : Range.Ordered 0 rob.gap → ∀ o, last ≤ o → Range.Covers rob.gap o → Range.Covers rob'.gap o

inductive View.RxStep (wrap : Prop) (v : View) (id : Nat) (strm : Strm) : Strm → Prop
  | rob (rob' : Rob) (filled : strm.rob.Filled rob' strm.lastRxOffset) :
    RxStep wrap v id strm { strm with rob := rob' }
  | extend (n : Nat)
    (grows : strm.rob.chunk ≤ maxVarint → n = strm.unsentMaxRxOffset ∨
      strm.unsentMaxRxOffset ≤ n ∧ n ≤ maxVarint ∨ wrap)
    (noted : id = 0 → .mark .extendStream0 ∈ v.log) :
    RxStep wrap v id strm { strm with unsentMaxRxOffset := n }

structure View.Credits (v : View) (strm : Strm) (n : Nat) : Prop where
  noted : .mark (.creditFits (decide (strm.unsentMaxRxOffset + n ≤ maxVarint))) ∈ v.log
  within : (strm.rob.chunk ≤ maxVarint →
    strm.unsentMaxRxOffset + n ≤ maxVarint + ngtcp2StrmRxOffset strm) ∨ .mark (.credit false) ∈ v.log
  due : n = v.owed ∨ .mark .uncredited ∈ v.log

theorem View.RxStep.last {wrap : Prop} {v : View} {id : Nat} {strm strm' : Strm}
    (step : v.RxStep wrap id strm strm') : strm'.lastRxOffset = strm.lastRxOffset := by
  cases step <;> rfl

theorem View.RxStep.same {wrap : Prop} {v : View} {id : Nat} {strm strm' : Strm}
    (step : v.RxStep wrap id strm strm') : strm.SameTx strm' ∧ strm'.shutRd = strm.shutRd := by
  cases step <;> exact ⟨⟨rfl, rfl, rfl, rfl, rfl, rfl, rfl, rfl, rfl⟩, rfl⟩

/-- What the functions of the library are allowed to do, and the states that they may enter. -/
structure Scope where
  rx : Nat → Prop
  wrap : Prop
  shut : Nat → Prop
  send : Prop
  lose : Prop
  post : Prop
  empty : Prop
  become : ConnState → Prop

def Scope.none : Scope where
  rx := fun _ => False
  wrap := False
  shut := fun _ => False
  send := False
  lose := False
  post := False
  empty := False
  become := fun _ => False

inductive Move (sc : Scope) : View → View → Prop
  | alloc (v : View) (n : Nat) (grows : v.nalloc ≤ n) : Move sc v { v with nalloc := n }
  | key (v : View) : Move sc v { v with keyed := true }
  | enter (v : View) (state : ConnState) (allowed : sc.become state)
    (stays : v.state.closed = true → state.closed = true) : Move sc v (v.enter state)
  | handshakeOver (v : View) (state : ConnState) (allowed : sc.become state) :
    Move sc v ((v.emit (.mark (.handshakeOver v.state.closed))).enter state)
  -- the queue of frames
  | push (v : View) (fr : Frame) (due : v.Queues fr) : Move sc v { v with frq := fr :: v.frq }
  | sift (v : View) (frq : List Frame) (kept : frq.Sublist v.frq)
    (dropped : ∀ fr, frq.count fr < v.frq.count fr → v.Dropped fr) : Move sc v { v with frq := frq }
  -- limits of the peer
  | limits (v : View) (bidi uni limit : Nat) (bidiOk : bidi < varintBound) (uniOk : uni < varintBound)
    (limitOk : limit < varintBound) :
    Move sc v
      { v.emit (.mark (.maxTxOffset limit v.txOffset)) with
        maxLocalStreamIdBidi := bidi, maxLocalStreamIdUni := uni, maxTxOffset := limit }
  | maxStreamId (v : View) (bidi uni : Nat)
    (bidiOk : v.maxLocalStreamIdBidi < varintBound → bidi < varintBound)
    (uniOk : v.maxLocalStreamIdUni < varintBound → uni < varintBound) :
    Move sc v { v with maxLocalStreamIdBidi := bidi, maxLocalStreamIdUni := uni }
  | maxData (v : View) (n : Nat) (bound : n < varintBound) :
    Move sc v { v with maxTxOffset := max v.maxTxOffset n }
  | maxStreamData (v : View) (id n : Nat) (strm : Strm) (found : v.strms id = some strm)
    (bound : n < varintBound) :
    Move sc v (v.setStrm id (some { strm with maxTxOffset := max strm.maxTxOffset n }))
  | strm0Limit (v : View) (limit : Nat) (strm : Strm) (found : v.strms 0 = some strm)
    (bound : limit < varintBound) :
    Move sc v
      ((v.emit (.mark (.strm0MaxTxOffset limit strm.txOffset))).setStrm 0
        (some { strm with maxTxOffset := limit }))
  | handshakeBytes (v : View) (n : Nat) (strm : Strm) (found : v.strms 0 = some strm)
    (bound : strm.txOffset + n < 18446744073709551616) :
    Move sc v
      ((v.emit (.mark (.handshakeBytes (strm.txOffset + n) strm.maxTxOffset))).setStrm 0
        (some { strm with txOffset := strm.txOffset + n }))
  -- streams come and go
  | openId (v : View) (id : Nat) (idtr : Idtr) (allowed : sc.shut id) (bound : id < varintBound)
    (remote : v.localStream id = false) (opened : ngtcp2IdtrOpen (v.idtr id) id = .ok idtr) :
    Move sc v (v.setIdtr id idtr)
  | newRemote (v : View) (id : Nat) (idtr : Idtr) (strm : Strm) (bound : id < varintBound)
    (remote : v.localStream id = false) (opened : ngtcp2IdtrOpen (v.idtr id) id = .ok idtr)
    (absent : v.strms id = none) (maxTx : UInt32)
    (init : strm = ngtcp2StrmInit id false (!bidiStream id) v.localSettings.maxStreamData.toNat
      maxTx.toNat) :
    Move sc v (((v.emit (.mark (.mapInsert id false))).setIdtr id idtr).setStrm id (some strm))
  | newBidi (v : View) (strm : Strm) (allowed : v.nextLocalStreamIdBidi ≤ v.maxLocalStreamIdBidi)
    (absent : v.strms v.nextLocalStreamIdBidi = none) (maxTx : UInt32)
    (init : strm = ngtcp2StrmInit v.nextLocalStreamIdBidi false false
      v.localSettings.maxStreamData.toNat maxTx.toNat) :
    Move sc v
      { (v.emit (.mark (.mapInsert v.nextLocalStreamIdBidi false))).setStrm v.nextLocalStreamIdBidi
          (some strm) with
        nextLocalStreamIdBidi := add64 v.nextLocalStreamIdBidi 4 }
  | newUni (v : View) (strm : Strm) (allowed : v.nextLocalStreamIdUni ≤ v.maxLocalStreamIdUni)
    (absent : v.strms v.nextLocalStreamIdUni = none) (maxTx : UInt32)
    (init : strm = ngtcp2StrmInit v.nextLocalStreamIdUni true false
      v.localSettings.maxStreamData.toNat maxTx.toNat) :
    Move sc v
      { (v.emit (.mark (.mapInsert v.nextLocalStreamIdUni false))).setStrm v.nextLocalStreamIdUni
          (some strm) with
        nextLocalStreamIdUni := add64 v.nextLocalStreamIdUni 4 }
  | clash (v : View) (id : Nat) (found : (v.strms id).isSome = true)
    (next : id = v.nextLocalStreamIdBidi ∧ id ≤ v.maxLocalStreamIdBidi ∨
      id = v.nextLocalStreamIdUni ∧ id ≤ v.maxLocalStreamIdUni) :
    Move sc v (v.emit (.mark (.mapInsert id true)))
  | close (v : View) (id code : Nat) (strm : Strm) (found : v.strms id = some strm)
    (closable : strm.closable = true) :
    Move sc v (v.closeStream strm code)
  | reset (v : View) (id : Nat) (strm : Strm) (fr : RstStream) (found : v.strms id = some strm)
    (named : fr.streamId = strm.streamId) (queued : .rstStream fr ∈ v.frq) :
    Move sc v (v.setStrm id (some { strm with shutWr := true, sentRst := true }))
  | stop (v : View) (id : Nat) (strm : Strm) (allowed : sc.shut id) (found : v.strms id = some strm)
    (unlisted : strm.fcPprev = false) (plain : id ≠ 0) :
    Move sc v (v.setStrm id (some { strm with stopSending := true }))
  -- the receiver side
  | rx (v : View) (id : Nat) (strm strm' : Strm) (allowed : sc.rx id)
    (found : v.strms id = some strm) (step : v.RxStep sc.wrap id strm strm') :
    Move sc v (v.setStrm id (some strm'))
  | claim (v : View) (id offset n : Nat) (strm strm' : Strm) (allowed : sc.rx id)
    (found : v.strms id = some strm) (same : strm.SameTx strm')
    (zero : id = 0 → strm'.shutRd = strm.shutRd) (claims : v.Claims id strm strm' offset n) :
    Move sc v { (v.emit (.mark (.claim id offset))).setStrm id (some strm') with rxOffset := n }
  | claimUnseen (v : View) (id offset : Nat) (idtr : Idtr) (allowed : sc.rx id) (shut : sc.shut id)
    (bound : id < varintBound) (remote : v.localStream id = false)
    (opened : ngtcp2IdtrOpen (v.idtr id) id = .ok idtr ∨ ¬ (v.idtr id).Ok ∧ idtr = v.idtr id)
    (fits : offset ≤ sub64 v.maxRxOffset v.rxOffset) :
    Move sc v
      { (v.emit (.mark (.claim id offset))).setIdtr id idtr with rxOffset := add64 v.rxOffset offset }
  | refuse (v : View) (id n last : Nat) (strm : Strm) (allowed : sc.rx id) (found : v.strms id = some strm)
    (reach : last = strm.lastRxOffset ∨ strm.lastRxOffset ≤ last ∧ last < 2 * varintBound) :
    Move sc v
      { (v.emit (.mark (.refused id))).setStrm id (some { strm with lastRxOffset := last }) with rxOffset := n }
  | markCredit (v : View) (strm : Strm) (found : v.strms 0 = some strm) :
    Move sc v (v.emit (.mark (.credit strm.credited)))
  | noteCredit (v : View) (fits : Bool) : Move sc v (v.emit (.mark (.creditFits fits)))
  | noteExtend (v : View) : Move sc v (v.emit (.mark .extendStream0))
  | handOn (v : View) (data : List UInt8) (allowed : sc.rx 0) (settled : v.owed = 0) :
    Move sc v { v.emit (.recvStream0Data data) with owed := data.length }
  | credit (v : View) (n : Nat) (strm : Strm) (allowed : sc.rx 0) (found : v.strms 0 = some strm)
    (credits : v.Credits strm n) :
    Move sc v
      { v.setStrm 0 (some { strm with unsentMaxRxOffset := add64 strm.unsentMaxRxOffset n }) with owed := 0 }
  | uncredit (v : View) : Move sc v { v.emit (.mark .uncredited) with owed := 0 }
  | noteRst (v : View) (listed : Bool) : Move sc v (v.emit (.mark (.rstListed listed)))
  | deliver (v : View) (id : Nat) (fin : Bool) (data : List UInt8) (allowed : sc.rx id)
    (opened : (v.strms id).isSome = true) : Move sc v (v.emit (.recvStreamData id fin data))
  | advertise (v : View) (queued : .maxData v.unsentMaxRxOffset ∈ v.frq) :
    Move sc v { v with maxRxOffset := v.unsentMaxRxOffset }
  | fcLink (v : View) (id : Nat) (strm : Strm) (found : v.strms id = some strm)
    (unlisted : strm.fcPprev = false) (receives : strm.shutRd = false ∧ strm.stopSending = false) :
    Move sc v { v.setStrm id (some { strm with fcPprev := true }) with fcStrms := id :: v.fcStrms }
  | fcUnlink (v : View) (id : Nat) (strm : Strm) (found : v.strms id = some strm)
    (listed : strm.fcPprev = true) :
    Move sc v
      { v.setStrm id (some { strm with fcPprev := false }) with fcStrms := v.fcStrms.erase id }
  | advertiseStrm (v : View) (rest : List Nat) (id : Nat) (strm : Strm) (first : v.fcStrms = id :: rest)
    (listed : strm.fcPprev = true) (found : v.strms id = some strm)
    (queued : .maxStreamData { streamId := id, maxStreamData := strm.unsentMaxRxOffset } ∈ v.frq) :
    Move sc v
      { v.setStrm id (some { strm with
          maxRxOffset := strm.unsentMaxRxOffset, fcPprev := false }) with fcStrms := rest }
  | advertiseId (v : View) (bidi : Bool) (n : Nat) (limit : n = v.unsentMaxRemoteStreamId bidi) :
    Move sc v
      { v with
        frq := v.frq ++ [.maxStreamId n]
        maxRemoteStreamIdBidi := if bidi then n else v.maxRemoteStreamIdBidi
        maxRemoteStreamIdUni := if bidi then v.maxRemoteStreamIdUni else n }
  | extendId (v : View) (bidi uni : Nat)
    (bidiOk : IdExtended v.unsentMaxRemoteStreamIdBidi bidi)
    (uniOk : IdExtended v.unsentMaxRemoteStreamIdUni uni)
    (noted : bidi = v.unsentMaxRemoteStreamIdBidi ∧ uni = v.unsentMaxRemoteStreamIdUni ∨
      .mark (.idWindow true) ∈ v.log) :
    Move sc v { v with unsentMaxRemoteStreamIdBidi := bidi, unsentMaxRemoteStreamIdUni := uni }
  | noteWindow (v : View) (behind : Bool) : Move sc v (v.emit (.mark (.idWindow behind)))
  | extend (v : View) (n : Nat)
    (grows : v.unsentMaxRxOffset ≤ maxVarint → v.unsentMaxRxOffset ≤ n ∧ n ≤ maxVarint) :
    Move sc v { v with unsentMaxRxOffset := n }
  -- acknowledgements of received packets
  | sched (v : View) (ent : AcktrEntry) (ents : List AcktrEntry) (active : Bool)
    (bound : ent.pktNum < 18446744073709551616)
    (inserted : acktrInsert ent v.tracked = some ents) :
    Move sc v
      { v.emit (.schedAck ent.pktNum active ent.unprotected ent.tstamp) with
        tracked := ents
        activeAck := v.activeAck || active
        armed := v.armed || ((v.activeAck || active) && add64 ent.tstamp delayedAckTimeout != 0) }
  | forget (v : View) (ents : List AcktrEntry) (kept : ents.Sublist v.tracked) :
    Move sc v { v with tracked := ents }
  | disarm (v : View) (idle : v.activeAck = false ∨ v.tracked = []) :
    Move sc v { v with armed := false }
  | arm (v : View) : Move sc v { v with armed := true }
  | askUnprotected (v : View) :
    Move sc v (v.emit (.mark (.unprotectedAck (v.tracked.map AcktrEntry.pktNum))))
  | disarmUnprotected (v : View) (none : ∀ e ∈ v.tracked, e.unprotected = false)
    (vouched : Vouched v.log) : Move sc v { v with armed := false }
  | abandon (v : View) :
    Move sc v { v.emit (.mark .abandonedPkt) with activeAck := false, armed := false }
  -- packets
  | initial (v : View) (n : Nat) (allowed : sc.send) (bound : n < 18446744073709551616) :
    Move sc v { v.emit (.mark (.initialPktNum n)) with lastTxPktNum := sub64 n 1 }
  | send (v : View) (ckm : CryptoKm) (frames : List Frame) (ack : Option (Ack × Bool))
    (allowed : sc.send) (ready : v.Ready) (carried : AckCarried v frames ack) :
    Move sc v (v.send ckm frames ack)
  | sendHandshake (v : View) (ckm : CryptoKm) (frames : List Frame) (ack : Option (Ack × Bool))
    (ent : RtbEntry) (queue : Queue) (nalloc : Nat) (allowed : sc.send) (ready : v.Ready)
    (carried : AckCarried v frames ack) (entry : v.NewEntry ent nalloc)
    (handshake : ∀ fr ∈ ent.frc, fr.Handshake) (pushed : v.queue.Pushed ent queue) :
    Move sc v { (v.send ckm frames ack).add ent queue with nalloc := nalloc }
  | sendQueued (v : View) (ckm : CryptoKm) (frames : List Frame) (ack : Option (Ack × Bool))
    (ent : RtbEntry) (queue : Queue) (nalloc : Nat) (frq : List Frame) (allowed : sc.send)
    (post : sc.post) (ready : v.Ready) (carried : AckCarried v frames ack)
    (entry : v.NewEntry ent nalloc) (short : ent.hd.longForm = false) (taken : v.frq = ent.frc ++ frq)
    (pushed : v.queue.Pushed ent queue) :
    Move sc v { (v.send ckm frames ack).add ent queue with nalloc := nalloc, frq := frq }
  | sendStream (v : View) (ckm : CryptoKm) (fr : StreamFrame) (strm : Strm) (ent : RtbEntry)
    (queue : Queue) (nalloc : Nat) (allowed : sc.send) (ready : v.Ready) (keyed : v.keyed = true)
    (entry : v.NewEntry ent nalloc) (short : ent.hd.longForm = false)
    (carries : ent.frc = [.stream fr]) (pushed : v.queue.Pushed ent queue)
    (found : v.strms fr.streamId = some strm) (offset : fr.offset = strm.txOffset)
    (bound : strm.txOffset + fr.datalen < 18446744073709551616)
    (strmFits : fr.datalen ≤ sub64 strm.maxTxOffset strm.txOffset)
    (connFits : fr.datalen ≤ sub64 v.maxTxOffset v.txOffset) (filled : fr.data = [] → sc.empty) :
    Move sc v
      { (((v.send ckm [.stream fr] none).add ent queue).setStrm fr.streamId
          (some { strm with
            txOffset := strm.txOffset + fr.datalen, shutWr := strm.shutWr || fr.fin })) with
        nalloc := nalloc
        txOffset := if fr.streamId ≠ 0 then add64 v.txOffset fr.datalen else v.txOffset }
  | sendEarly (v : View) (ckm : CryptoKm) (fr : StreamFrame) (strm : Strm) (ent : RtbEntry)
    (nalloc : Nat) (allowed : sc.send) (ready : v.Ready)
    (entry : v.NewEntry ent nalloc) (short : ent.hd.longForm = false)
    (carries : ent.frc = [.stream fr])
    (found : v.strms fr.streamId = some strm) (offset : fr.offset = strm.txOffset)
    (bound : strm.txOffset + fr.datalen < 18446744073709551616)
    (strmFits : fr.datalen ≤ sub64 strm.maxTxOffset strm.txOffset)
    (connFits : fr.datalen ≤ sub64 v.maxTxOffset v.txOffset) (filled : fr.data = [] → sc.empty) :
    Move sc v
      { ((v.send ckm [.stream fr] none).setStrm fr.streamId
          (some { strm with
            txOffset := strm.txOffset + fr.datalen, shutWr := strm.shutWr || fr.fin })) with
        earlyRtb := v.earlyRtb ++ [ent]
        nalloc := nalloc
        txOffset := if fr.streamId ≠ 0 then add64 v.txOffset fr.datalen else v.txOffset }
  | earlyEntry (v : View) (ent ent' : RtbEntry) (rest : List RtbEntry) (queue : Queue)
    (waiting : v.earlyRtb = ent :: rest)
    (same : ent'.addr = ent.addr ∧ ent'.hd = ent.hd ∧ ent'.frc = ent.frc)
    (pushed : v.queue.Pushed ent' queue) :
    Move sc v
      { (v.emit (.mark (.earlyEntry ent.hd.pktNum v.headPktNum v.keyed))).add ent' queue with
        earlyRtb := rest }
  -- the entry in hand
  | pop (v : View) (ent : RtbEntry) (queue : Queue) (empty : v.hand = none)
    (popped : v.queue.Popped ent queue) :
    Move sc v { v with queue := queue, head := unlink ent.addr v.head, hand := some ent }
  | discard (v : View) (idle : v.acking = false) (ent : RtbEntry) (frc : List Frame) (held : v.hand = some ent)
    (kept : frc.Sublist ent.frc) (obsolete : ∀ fr, frc.count fr < ent.frc.count fr → v.Obsolete fr) :
    Move sc v { v with hand := some { ent with frc := frc } }
  | drop (v : View) (idle : v.acking = false ∨ v.ackedStreamDataOffset = false ∨
      ∀ ent, v.hand = some ent → ent.frc = []) (ent : RtbEntry) (held : v.hand = some ent)
    (settled : ent.frc = [] ∨ ent.hd.longForm = true ∨ ¬ ent.hd.Tracked ∨
      (v.ackedStreamDataOffset = false ∧ ∀ fr ∈ ent.frc, v.Acked fr) ∨ sc.lose) :
    Move sc v { v with hand := none, acking := false }
  | resend (v : View) (idle : v.acking = false) (ckm : CryptoKm) (frames : List Frame) (ack : Option (Ack × Bool))
    (ent ent' : RtbEntry) (queue : Queue) (allowed : sc.send) (ready : v.Ready)
    (carried : AckCarried v frames ack) (held : v.hand = some ent)
    (same : ent'.addr = ent.addr ∧ ent'.frc = ent.frc) (renewed : ent.hd.Renewed ent'.hd)
    (pktNum : ent'.hd.pktNum = v.next) (pushed : v.queue.Pushed ent' queue) :
    Move sc v { (v.send ckm frames ack).add ent' queue with hand := none }
  | split (v : View) (idle : v.acking = false) (ckm : CryptoKm) (frames : List Frame) (ack : Option (Ack × Bool))
    (ent ent' nent : RtbEntry) (queue : Queue) (nalloc : Nat) (allowed : sc.send)
    (ready : v.Ready) (carried : AckCarried v frames ack) (held : v.hand = some ent)
    (same : ent'.addr = ent.addr ∧ ent'.hd = ent.hd) (chain : ent.frc = nent.frc ++ ent'.frc)
    (renewed : ent.hd.Renewed nent.hd) (pktNum : nent.hd.pktNum = v.next)
    (fresh : v.nalloc ≤ nent.addr) (allocated : nent.addr < nalloc)
    (pushed : ∃ mid, v.queue.Pushed nent mid ∧ mid.Pushed ent' queue) :
    Move sc v
      { ((v.send ckm frames ack).emit (.mark .splitEntry)) with
        head := ent' :: nent :: v.head
        queue := queue
        nalloc := nalloc
        hand := none }
  | putBack (v : View) (idle : v.acking = false) (ent : RtbEntry) (queue : Queue) (held : v.hand = some ent)
    (pushed : v.queue.Pushed ent queue) :
    Move sc v
      { (v.emit (.mark (.readdEntry ent.hd.pktNum v.headPktNum))).add ent queue with hand := none }
  -- acknowledged packets
  | take (v : View) (ent held : RtbEntry) (queue : Queue) (empty : v.hand = none)
    (member : ent ∈ v.head) (slot : held.addr = ent.addr) (removed : v.queue.Removed ent queue held) :
    Move sc v
      { v.emit (.mark (.ackedEntry ent.hd.pktNum ent.frc)) with
        queue := queue, head := unlink ent.addr v.head, hand := some ent, acking := true }
  | ackFrame (v : View) (acking : v.acking = true) (ent : RtbEntry) (fr : Frame) (rest : List Frame)
    (held : v.hand = some ent) (chain : ent.frc = fr :: rest) (acked : v.Acked fr)
    (silent : ∀ sent strm, fr = .stream sent → v.strms sent.streamId = some strm →
      strm.ackedGain sent = 0 ∧ sent.fin = false) :
    Move sc v { v.ackFrame fr with hand := some { ent with frc := rest } }
  | ackReport (v : View) (acking : v.acking = true)
    (latest : ∀ ent, v.hand = some ent → ∀ fr ∈ ent.frc, fr ∈ lastAcked v.log) (ent : RtbEntry) (fr : StreamFrame) (rest : List Frame) (strm : Strm)
    (held : v.hand = some ent) (chain : ent.frc = .stream fr :: rest) (acked : v.Acked (.stream fr))
    (found : v.strms fr.streamId = some strm) (told : strm.ackedGain fr ≠ 0 ∨ fr.fin = true) :
    Move sc v
      { (v.setStrm fr.streamId (some { strm with
          ackedTxOffset := ngtcp2GaptrPush strm.ackedTxOffset fr.offset fr.datalen })).emit
          (.ackedStreamDataOffset fr.streamId (ngtcp2GaptrFirstGapOffset strm.ackedTxOffset)
            (strm.ackedGain fr)) with
        hand := some { ent with frc := rest } }
  | noteRetry (v : View) (listed : Bool) : Move sc v (v.emit (.mark (.retryListed listed)))
  | retry (v : View) (settled : v.owed = 0) (allowed : sc.send) (enters : sc.become .CLIENT_INITIAL)
    (stays : v.state.closed = false) (empty : v.hand = none)
    (noted : .mark (.retryListed (decide (0 ∈ v.fcStrms))) ∈ v.log) :
    Move sc v
      (View.enter
        { (v.emit (.mark (.retry v.keyed (!v.earlyRtb.isEmpty)))).setStrm 0
            (some (ngtcp2StrmInit 0 false false v.localSettings.maxStreamData.toNat
              strm0MaxStreamData)) with
          lastTxPktNum := 0, queue := ngtcp2RtbInit.queue, head := [], tracked := [], activeAck := false }
        .CLIENT_INITIAL)

section Silent

variable {sc : Scope}

def Event.numbers : Event → Bool
  | .encrypt _ _ _ | .mark (.initialPktNum _) => true
  | _ => false

theorem View.Ready.emit {v w : View} {e : Event} (plain : e.numbers = false) (ready : v.Ready)
    (last : w.lastTxPktNum = v.lastTxPktNum) (log : w.log = v.log ++ [e]) : w.Ready := by
  rcases ready with used | ⟨pre, post, split, later⟩
  · left
    rwa [last]
  · refine .inr ⟨pre, post ++ [e], by simp [log, split], fun e' member => ?_⟩
    rcases List.mem_append.mp member with member | member
    · exact later e' member
    · obtain rfl : e' = e := by simpa using member
      constructor
      · rintro ckm n frames rfl
        cases plain
      · rintro n rfl
        cases plain

theorem View.ackFrame_cases (v : View) (fr : Frame) :
    (∃ sent strm, fr = .stream sent ∧ v.strms sent.streamId = some strm ∧
      v.ackFrame fr = v.setStrm sent.streamId (some { strm with
        ackedTxOffset := ngtcp2GaptrPush strm.ackedTxOffset sent.offset sent.datalen })) ∨
    (∀ sent, fr = .stream sent → v.strms sent.streamId = none) ∧ v.ackFrame fr = v := by
  cases fr with
  | stream sent =>
    cases found : v.strms sent.streamId with
    | none =>
      refine .inr ⟨fun _ same => ?_, by simp [View.ackFrame, found]⟩
      cases same
      exact found
    | some strm => exact .inl ⟨sent, strm, rfl, found, by simp [View.ackFrame, found]⟩
  | _ => exact .inr ⟨fun _ other => (nomatch other), rfl⟩

theorem Move.silent {v w : View} (move : Move sc v w) (silent : ¬ sc.send) :
    w.lastTxPktNum = v.lastTxPktNum ∧ (v.Ready → w.Ready) := by
  cases move
  case ackFrame ent fr rest held chain acked silent =>
    rcases v.ackFrame_cases fr with ⟨_, _, _, _, same⟩ | ⟨_, same⟩ <;> rw [same] <;> exact ⟨rfl, id⟩
  case close id code strm found closable =>
    refine ⟨rfl, fun ready => ?_⟩
    refine View.Ready.emit (v := v.emit (.mark (closeMark strm v.frq)))
      (e := .streamClose strm.streamId code) rfl (ready.emit rfl rfl rfl) rfl ?_
    simp [View.closeStream, View.emit]
  case handshakeOver state allowed =>
    let noted := v.emit (.mark (.handshakeOver v.state.closed))
    refine ⟨rfl, fun ready => ?_⟩
    exact View.Ready.emit (v := noted) (e := .mark (.state state)) rfl (ready.emit rfl rfl rfl) rfl rfl
  all_goals first
    | exact absurd (by assumption) silent
    | exact ⟨rfl, id⟩
    | exact ⟨rfl, fun ready => ready.emit rfl rfl rfl⟩

theorem Move.silent_run {v w : View} (moves : Relation.ReflTransGen (Move sc) v w)
    (silent : ¬ sc.send) : w.lastTxPktNum = v.lastTxPktNum ∧ (v.Ready → w.Ready) := by
  induction moves with
  | refl => exact ⟨rfl, id⟩
  | tail _ move ih =>
    have last := move.silent silent
    exact ⟨last.1.trans ih.1, last.2 ∘ ih.2⟩

theorem Move.entered {v w : View} (move : Move sc v w) : w.state = v.state ∨ sc.become w.state := by
  cases move
  case ackFrame ent fr rest held chain acked silent =>
    rcases v.ackFrame_cases fr with ⟨_, _, _, _, same⟩ | ⟨_, same⟩ <;> rw [same] <;> exact .inl rfl
  all_goals first
    | exact .inl rfl
    | exact .inr (by assumption)

theorem Move.entered_run {v w : View} (moves : Relation.ReflTransGen (Move sc) v w) :
    w.state = v.state ∨ sc.become w.state := by
  induction moves with
  | refl => exact .inl rfl
  | tail _ move ih =>
    rcases move.entered with same | entered
    · rw [same]
      exact ih
    · exact .inr entered

theorem Move.server {v w : View} (move : Move sc v w) : w.server = v.server := by
  cases move
  case ackFrame ent fr rest held chain acked silent =>
    rcases v.ackFrame_cases fr with ⟨_, _, _, _, same⟩ | ⟨_, same⟩
    · rw [same]
      rfl
    · rw [same]
  all_goals rfl

theorem Move.server_run {v w : View} (moves : Relation.ReflTransGen (Move sc) v w) :
    w.server = v.server := by
  induction moves with
  | refl => rfl
  | tail _ move ih => exact move.server.trans ih

theorem Move.log_extends {v w : View} (move : Move sc v w) : v.log <+: w.log := by
  cases move
  case ackFrame ent fr rest held chain acked silent =>
    rcases v.ackFrame_cases fr with ⟨_, _, _, _, same⟩ | ⟨_, same⟩ <;> rw [same] <;>
      exact List.prefix_refl _
  case split | handshakeOver | retry => exact (List.prefix_append _ _).trans (List.prefix_append _ _)
  all_goals first
    | exact List.prefix_refl _
    | exact List.prefix_append _ _

theorem Move.log_run {v w : View} (moves : Relation.ReflTransGen (Move sc) v w) : v.log <+: w.log := by
  induction moves with
  | refl => exact List.prefix_refl _
  | tail _ move ih => exact ih.trans move.log_extends

end Silent

end Ngtcp2
