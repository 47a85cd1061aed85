import Ngtcp2.Machine.Retransmit

namespace Ngtcp2

open Prog Relation

variable {sc : Scope} (app : App)

theorem Vouched.emit {log : List Event} {e : Event} (vouched : Vouched log)
    (plain : ∀ n active unprotected ts, e ≠ .schedAck n active unprotected ts) :
    Vouched (log ++ [e]) := by
  obtain ⟨pre, tracked, post, split, later⟩ := vouched
  refine ⟨pre, tracked, post ++ [e], by simp [split], fun e' member => ?_⟩
  rcases List.mem_append.mp member with member | member
  · exact later e' member
  · obtain rfl : e' = e := by simpa using member
    exact plain

theorem AckCarried.mono {v w : View} {frames frames' : List Frame} {ackfr : Option (Ack × Bool)}
    (carried : AckCarried v frames ackfr) (tracked : w.tracked = v.tracked)
    (log : Vouched v.log → Vouched w.log) (more : frames ⊆ frames') : AckCarried w frames' ackfr := by
  cases ackfr with
  | none => trivial
  | some ackfr =>
    obtain ⟨inside, created, vouched⟩ := carried
    refine ⟨more inside, ?_, log ∘ vouched⟩
    rwa [tracked]

section Prepare

variable {s t u : Conn} {ckm : Option CryptoKm} {ackfr : Option (Ack × Bool)} {frames : List Frame}
  {ppe ppe' : Ppe} {v w : View}

structure Prepared (s : Conn) (ckm : Option CryptoKm) (ackfr : Option (Ack × Bool))
    (frames : List Frame) (ppe : Ppe) (v : View) (t : Conn) : Prop where
  reached : ∀ sc, ReflTransGen (Move sc) s.view v
  committed : t.view = v.commit ackfr
  ready : v.Ready
  number : v.next = s.view.next
  carried : AckCarried v frames ackfr
  built : ppe.At v.next ckm frames

namespace Prepared

theorem start {destlen overhead : Nat} {hd : PktHd} (ready : s.view.Ready)
    (number : hd.pktNum = s.view.next)
    (encoded : ngtcp2PpeEncodeHd (ngtcp2PpeInit destlen overhead ckm) hd = .ok ppe) :
    Prepared s ckm none [] ppe s.view s :=
  ⟨fun _ => .refl, s.view.commit_none.symm, ready, rfl, trivial, number ▸ ngtcp2PpeEncodeHd_at encoded⟩

theorem move (prepared : Prepared s ckm ackfr frames ppe v t) (move : ∀ sc, Move sc v w)
    (committed : u.view = w.commit ackfr) (last : w.lastTxPktNum = v.lastTxPktNum)
    (ready : v.Ready → w.Ready) (tracked : w.tracked = v.tracked)
    (log : Vouched v.log → Vouched w.log) : Prepared s ckm ackfr frames ppe w u := by
  have number : w.next = v.next := congrArg (add64 · 1) last
  exact ⟨fun sc => (prepared.reached sc).tail (move sc), committed, ready prepared.ready, number.trans prepared.number,
    prepared.carried.mono tracked log (List.Subset.refl _), number ▸ prepared.built⟩

theorem plain (prepared : Prepared s ckm ackfr frames ppe v t) (plain : Plain t u) :
    Prepared s ckm ackfr frames ppe { v with nalloc := u.nalloc } u := by
  obtain ⟨grows, view⟩ := plain.view
  have nalloc : t.nalloc = v.nalloc := congrArg View.nalloc prepared.committed
  refine prepared.move (fun _ => .alloc v _ (nalloc ▸ grows)) ?_ rfl id rfl id
  rw [view, prepared.committed]
  rfl

theorem write {fr : Frame} (prepared : Prepared s ckm ackfr frames ppe v t)
    (encoded : ngtcp2PpeEncodeFrame ppe fr = .ok ppe') :
    Prepared s ckm ackfr (frames ++ [fr]) ppe' v t :=
  { prepared with
    carried := prepared.carried.mono rfl id (List.subset_append_left _ _)
    built := (ngtcp2PpeEncodeFrame_ok encoded).2 prepared.built }

theorem here (prepared : Prepared s ckm none frames ppe v t) : t.view = v :=
  prepared.committed.trans v.commit_none

theorem reaches (prepared : Prepared s ckm none frames ppe v t) : Reaches sc s t := by
  unfold Reaches
  rw [prepared.here]
  exact prepared.reached sc

theorem aside (prepared : Prepared s ckm none frames ppe v t) (aside : Aside t u) :
    Prepared s ckm none frames ppe u.view u := by
  have silent := aside.silent
  obtain rfl := prepared.here
  exact ⟨fun sc => (prepared.reached sc).trans aside.reaches, u.view.commit_none.symm, silent.2 prepared.ready,
    silent.1.trans prepared.number, trivial, silent.1.symm ▸ prepared.built⟩

theorem sent {len : Nat} (prepared : Prepared s ckm ackfr frames ppe v t) (send : sc.send)
    (positive : 0 < len) (km : CryptoKm) : Sent sc s len (t.sent km frames) := by
  have view := t.view_sent km frames
  rw [prepared.committed, View.commit_send] at view
  refine ⟨positive, (prepared.reached sc).tail ?_, ?_⟩
  · rw [view]
    exact .send v km frames ackfr send prepared.ready prepared.carried
  · rw [view, View.send_packets]
    exact Nat.lt_succ_of_le (View.packets_run (prepared.reached sc))

end Prepared

def GivenUp (s : Conn) (ackfr : Option (Ack × Bool)) (e : Err) (t : Conn) : Prop :=
  e.fatal = true ∨ ∃ v, (∀ sc, ReflTransGen (Move sc) s.view v) ∧ t.view = v.commit ackfr

theorem Prepared.givenUp {e : Err} (prepared : Prepared s ckm ackfr frames ppe v t) :
    GivenUp s ackfr e t := .inr ⟨v, prepared.reached, prepared.committed⟩

theorem GivenUp.fails {e : Err} (givenUp : GivenUp s none e t) : Fails sc e s t := by
  refine givenUp.imp_right ?_
  rintro ⟨v, reached, view⟩
  rw [View.commit_none] at view
  unfold Reaches
  rw [view]
  exact reached sc

theorem Prepared.encode {e : Event} {fr : Frame} {β : Type} {f : Ppe → ConnM β} {Q : β → Conn → Prop}
    (hidden : e.kept = false) (prepared : Prepared s ckm ackfr frames ppe v t)
    (next : ∀ ppe' u w, (∃ n, ngtcp2PktEncodeFrameLen fr = .ok n) →
      w = { v with nalloc := u.nalloc } → Plain t u → Prepared s ckm ackfr (frames ++ [fr]) ppe' w u →
      wp (f ppe') Q (GivenUp s ackfr) u) :
    wp (do
        let ppe ← Prog.ofExcept (ngtcp2PpeEncodeFrame ppe fr)
        connCall app e
        f ppe) Q (GivenUp s ackfr) t := by
  rw [wp_bind]
  cases encoded : ngtcp2PpeEncodeFrame ppe fr with
  | error err => exact prepared.givenUp
  | ok ppe' =>
    rw [wp_ofExcept_ok, wp_bind]
    refine wp_mono (connCall_plain app hidden) (fun _ u plain => ?_) fun _ _ fatal => .inl fatal
    exact next ppe' u _ (ngtcp2PpeEncodeFrame_ok encoded).1 rfl plain ((prepared.write encoded).plain plain)

def Conn.sentTracked (c : Conn) (km : CryptoKm) (frames : List Frame) (ent : RtbEntry) (n : Nat)
    (frq : List Frame) : Conn :=
  { c.emit (.encrypt km c.view.next frames) with
    nalloc := n, rtb := ngtcp2RtbAdd c.rtb ent, lastTxPktNum := c.view.next, frq := frq }

theorem Conn.view_sentTracked (c : Conn) (km : CryptoKm) (frames : List Frame) (ent : RtbEntry)
    (n : Nat) (frq : List Frame) :
    (c.sentTracked km frames ent n frq).view =
      { (c.view.send km frames none).add ent (ngtcp2RtbAdd c.rtb ent).queue with
        nalloc := n, frq := frq } := by
  simp [Conn.sentTracked, Conn.emit, Conn.view, View.send, View.add, View.next, Event.kept, ngtcp2RtbAdd]

inductive EntrySource (sc : Scope) (ent : RtbEntry) (frq frq' : List Frame) : Prop
  | handshake (frames : ∀ fr ∈ ent.frc, fr.Handshake) (same : frq' = frq)
  | queued (post : sc.post) (short : ent.hd.longForm = false) (taken : frq = ent.frc ++ frq')

theorem Prepared.tracked {km : CryptoKm} {ent : RtbEntry} {n len : Nat} {frq : List Frame}
    (prepared : Prepared s ckm ackfr frames ppe v t) (send : sc.send) (positive : 0 < len)
    (pktNum : ent.hd.pktNum = s.view.next) (type : ent.hd.Tracked) (addr : ent.addr = t.nalloc)
    (allocated : ent.addr < n) (source : EntrySource sc ent t.frq frq) :
    Sent sc s len (t.sentTracked km frames ent n frq) := by
  have joins : t.view.queue.Pushed ent (ngtcp2RtbAdd t.rtb ent).queue := ngtcp2RtbAdd_pushed t.rtb ent
  have nalloc : t.nalloc = v.nalloc := congrArg View.nalloc prepared.committed
  have queue : t.frq = v.frq := congrArg View.frq prepared.committed
  have view := t.view_sentTracked km frames ent n frq
  rw [prepared.committed, View.commit_send] at view
  rw [prepared.committed] at joins
  have entry : v.NewEntry ent n :=
    ⟨pktNum.trans prepared.number.symm, type, Nat.le_of_eq (nalloc.symm.trans addr.symm), allocated⟩
  refine ⟨positive, (prepared.reached sc).tail ?_, ?_⟩
  · rw [view]
    cases source with
    | handshake frames' same =>
      have move : Move sc v _ := .sendHandshake v km frames ackfr ent _ n send prepared.ready
        prepared.carried entry frames' joins
      rw [same, queue]
      exact move
    | queued post short taken =>
      exact .sendQueued v km frames ackfr ent _ n frq send post prepared.ready prepared.carried entry
        short (queue.symm.trans taken) joins
  · rw [view]
    change _ < (v.send km frames ackfr).packets
    rw [View.send_packets]
    exact Nat.lt_succ_of_le (View.packets_run (prepared.reached sc))

end Prepare

section Handshake

variable {s t : Conn} {ckm : Option CryptoKm} {ackfr : Option (Ack × Bool)} {frames : List Frame}
  {ppe : Ppe} {v : View} {hd : PktHd} {destlen ts : Nat}

theorem sendNow_spec (prepared : Prepared s ckm ackfr frames ppe v t) (send : sc.send) :
    wp (do
        incLastTxPktNum
        ngtcp2PpeFinal app ppe)
      (Sent sc s) (fun e _ => e.fatal = true) t := by
  have number : t.view.next = v.next := by rw [prepared.committed]; rfl
  change wp (ngtcp2PpeFinal app ppe) _ _ { t with lastTxPktNum := t.view.next }
  refine wp_mono (ngtcp2PpeFinal_spec app _ prepared.built) ?_ fun _ _ fatal => fatal
  rintro len u ⟨positive, km, rfl⟩
  rw [← number]
  exact prepared.sent send positive km

theorem handshakeFinish_spec {frc : List Frame} (prepared : Prepared s ckm ackfr frames ppe v t)
    (send : sc.send) (pktNum : hd.pktNum = s.view.next) (type : hd.Tracked)
    (control : ∀ fr ∈ frc, fr.Handshake) :
    wp (do
        let spktlen ← ngtcp2PpeFinal app ppe
        handshakePktTrack app hd frc ts spktlen
        incLastTxPktNum
        pure spktlen)
      (Sent sc s) (fun e _ => e.fatal = true) t := by
  have number : t.view.next = v.next := by rw [prepared.committed]; rfl
  rw [wp_bind]
  refine wp_mono (ngtcp2PpeFinal_spec app t prepared.built) ?_ fun _ _ fatal => fatal
  rintro len u ⟨positive, km, rfl⟩
  rw [← number, wp_bind]
  unfold handshakePktTrack
  split
  next =>
    rw [wp_bind]
    refine wp_mono (connRtbEntryNew_spec app _ _ _ _ _ _ _) ?_ fun _ _ fatal => fatal
    rintro ent u ⟨rfl, rfl⟩
    refine wp_mono (connRtbAdd_spec app _ _) ?_ fun _ _ fatal => fatal
    rintro _ u ⟨n, grows, rfl⟩
    exact prepared.tracked (n := n) send positive pktNum type rfl grows (.handshake control rfl)
  next => exact prepared.sent send positive km

theorem handshakePktStream_spec {nwrite : Nat} (prepared : Prepared s ckm ackfr frames ppe v t)
    (fits : ∀ strm, t.strms 0 = some strm → nwrite ≤ strm.txBuf.length) :
    wp (handshakePktStream app hd ppe nwrite)
      (fun r u => (∃ frames w, Prepared s ckm ackfr frames r.2 w u) ∧
        ∀ fr ∈ r.1, fr.Handshake)
      (GivenUp s ackfr) t := by
  unfold handshakePktStream
  split
  next =>
    rw [wp_bind]
    refine wp_mono (malloc_plain app t) ?_ fun _ _ fatal => .inl fatal
    rintro addr t' ⟨-, rfl⟩
    rw [wp_bind]
    refine wp_intro (fun strm t' run => ?_) fun e _ run => .inl (getStrm_error run)
    obtain ⟨rfl, found⟩ := getStrm_ok run
    have found : t.strms 0 = some strm := found
    have len : (strm.txBuf.take nwrite).length = nwrite :=
      List.length_take_of_le (fits strm found)
    refine (prepared.plain (.alloc t)).encode app rfl fun ppe' u w encoded _ plain prepared => ?_
    have bound : strm.txOffset + nwrite < 18446744073709551616 := by
      obtain ⟨n, encoded⟩ := encoded
      have bound := streamFrame_bound encoded
      rwa [StreamFrame.datalen, len] at bound
    have found : u.strms 0 = some strm := by
      obtain ⟨n, es, -, -, rfl⟩ := plain
      exact found
    let mark : Mark := .handshakeBytes (strm.txOffset + nwrite) strm.maxTxOffset
    rw [wp_bind, wp_connMark, wp_bind, wp_modifyStrm (c := u.emit (.mark mark)) _ found]
    refine ⟨⟨_, _, prepared.move (fun _ => .handshakeBytes w nwrite strm.view ?_ bound) ?_ rfl ?_ rfl ?_⟩, ?_⟩
    · have seen := Conn.view_strms found
      rwa [prepared.committed] at seen
    · rw [Conn.view_setStrm, Conn.view_emit _ rfl, prepared.committed]
      simp only [Option.map_some, add64_eq bound]
      rfl
    · exact fun ready => ready.emit rfl rfl rfl
    · exact fun vouched => vouched.emit (by simp)
    · intro fr member
      obtain rfl := List.mem_singleton.mp member
      refine ⟨rfl, ?_⟩
      rintro _ ⟨rfl⟩
      rwa [StreamFrame.endOffset, StreamFrame.datalen, len]
  next => exact ⟨⟨frames, v, prepared⟩, by simp⟩

theorem handshakePktTail_spec (prepared : Prepared s ckm ackfr frames ppe v t) :
    wp (handshakePktTail app hd ppe)
      (fun r u => (∃ frames w, Prepared s ckm ackfr frames r.2 w u) ∧
        ∀ fr ∈ r.1, fr.Handshake)
      (GivenUp s ackfr) t := by
  unfold handshakePktTail
  rw [wp_bind, wp_get]
  split
  next =>
    rw [wp_bind]
    refine wp_mono (ngtcp2PpePadding_spec t prepared.built) ?_ fun _ _ fatal => .inl fatal
    rintro ⟨len, ppe'⟩ t' ⟨rfl, built⟩
    have padded : Prepared s ckm ackfr (frames ++ [.padding len]) ppe' v t' :=
      { prepared with
        carried := prepared.carried.mono rfl id (List.subset_append_left _ _)
        built := built }
    dsimp only
    rw [wp_bind]
    unfold callPadding
    split
    next =>
      refine wp_mono (connCall_plain app rfl) (fun _ u plain => ?_) fun _ _ fatal => .inl fatal
      exact ⟨⟨_, _, padded.plain plain⟩, by simp⟩
    next => exact ⟨⟨_, _, padded⟩, by simp⟩
  next =>
  split
  next =>
    rw [wp_bind]
    refine wp_mono (malloc_plain app t) ?_ fun _ _ fatal => .inl fatal
    rintro addr t' ⟨-, rfl⟩
    refine (prepared.plain (.alloc t)).encode app rfl fun ppe' u w _ _ _ prepared => ?_
    exact ⟨⟨_, w, prepared⟩, by simp [Frame.Handshake, Frame.handshake]⟩
  next => exact ⟨⟨frames, v, prepared⟩, by simp⟩

theorem handshakePktRest_spec (prepared : Prepared s ckm ackfr frames ppe v t) (send : sc.send)
    (pktNum : hd.pktNum = s.view.next) (type : hd.Tracked) :
    wp (handshakePktRest app hd ppe ts) (Sent sc s)
      (GivenUp s ackfr) t := by
  unfold handshakePktRest
  rw [wp_bind]
  refine wp_intro (fun strm t' run => ?_) fun e _ run => .inl (getStrm_error run)
  obtain ⟨rfl, found⟩ := getStrm_ok run
  dsimp only
  split
  next => exact prepared.givenUp
  next =>
  rw [wp_bind]
  refine wp_mono (handshakePktStream_spec app prepared fun strm' found' => ?_) ?_ fun _ _ up => up
  · obtain rfl : strm = strm' := Option.some.inj (found.symm.trans found')
    exact Nat.min_le_left _ _
  rintro ⟨frc, ppe⟩ t' ⟨⟨frames, v, prepared⟩, control⟩
  dsimp only at prepared control ⊢
  rw [wp_bind]
  refine wp_mono (handshakePktTail_spec app prepared) ?_ fun _ _ up => up
  rintro ⟨frc', ppe⟩ t' ⟨⟨frames, v, prepared⟩, control'⟩
  refine wp_mono (handshakeFinish_spec app prepared send pktNum type fun fr member => ?_)
    (fun _ _ sent => sent) fun _ _ fatal => .inl fatal
  rcases List.mem_append.mp member with member | member
  · exact control fr member
  · exact control' fr member

theorem Prepared.commit {u t' : Conn} {ack : Ack} {unprotected : Bool}
    (prepared : Prepared s ckm none frames ppe v u) (inside : .ack ack ∈ frames)
    (made : AckMade unprotected t ack) (plain : Plain t u)
    (committed : t'.view = u.view.commit (some (ack, unprotected))) :
    Prepared s ckm (some (ack, unprotected)) frames ppe v t' := by
  have same := plain.view.2
  obtain rfl := prepared.here
  refine { prepared with committed := committed, carried := ⟨inside, ?_, ?_⟩ }
  · rw [same]
    exact made.1
  · rw [same]
    exact made.2

theorem handshakePktAck_spec (prepared : Prepared s ckm none frames ppe v t) :
    wp (handshakePktAck app hd ppe ts)
      (fun r u => ∃ ackfr frames w, r.1 = ackfr.isSome ∧ Prepared s ckm ackfr frames r.2 w u)
      (fun e u => Fails sc e s u) t := by
  unfold handshakePktAck
  rw [wp_bind]
  refine wp_mono (connCreateAckFrame_spec app ts true t) ?_ fun _ _ fatal => .inl fatal
  rintro (_ | ack) u ⟨aside, made⟩
  · exact ⟨none, frames, _, rfl, prepared.aside aside⟩
  · have after := prepared.aside aside
    refine wp_mono (Q := fun r w => ∃ ackfr frames v, r.1 = ackfr.isSome ∧
      Prepared s ckm ackfr frames r.2 v w) (E := GivenUp s none) ?_ (fun _ _ done => done) fun _ _ up => up.fails
    refine after.encode app rfl fun ppe' w v _ _ plain written => ?_
    rw [wp_commitAck]
    exact ⟨some (ack, true), _, v, rfl,
      written.commit (by simp) (made ack rfl) plain (w.view_commitAck _ _ _)⟩

theorem abandoned_spec {ack : Ack} {unprotected : Bool} {m : ConnM Nat}
    (attempt : wp m (Sent sc s)
      (GivenUp s (some (ack, unprotected))) t) :
    wp (markFailure .abandonedPkt m) (Sent sc s)
      (fun e u => Fails sc e s u) t := by
  unfold markFailure
  rw [wp_bind, wp_attempt]
  refine wp_mono attempt (fun len u sent => sent) fun e u givenUp => ?_
  change Fails sc e s (u.emit (.mark .abandonedPkt))
  rcases givenUp with fatal | ⟨v, reached, view⟩
  · exact .inl fatal
  · refine .inr ((reached sc).tail ?_)
    rw [Conn.view_emit _ rfl, view]
    have move : Move sc _ _ := .abandon v
    simpa [View.commit, View.emit] using move

theorem connWriteHandshakePkt_spec (type : PktType) (send : sc.send) (ready : s.view.Ready)
    (known : type = .INITIAL ∨ type = .HANDSHAKE) :
    wp (connWriteHandshakePkt app destlen type ts) (Sent sc s)
      (fun e u => Fails sc e s u) s := by
  have tracked : (connLongHd s type).Tracked := by simpa [PktHd.Tracked, connLongHd] using known
  unfold connWriteHandshakePkt
  rw [wp_bind, wp_get]
  dsimp only
  rw [wp_bind]
  cases encoded : ngtcp2PpeEncodeHd (ngtcp2PpeInit destlen handshakeAeadOverhead s.hsTxCkm)
      (connLongHd s type) with
  | error e => exact .inr .refl
  | ok ppe =>
  have prepared : Prepared s s.hsTxCkm none [] ppe s.view s := .start ready rfl encoded
  rw [wp_ofExcept_ok, wp_bind]
  refine wp_mono (connCall_plain app rfl) (fun _ t plain => ?_) fun _ _ fatal => .inl fatal
  have prepared := prepared.plain plain
  split
  next =>
    rw [wp_bind]
    refine wp_mono (handshakePktAck_spec app prepared) ?_ fun _ _ stopped => stopped
    rintro ⟨acked, ppe⟩ u ⟨ackfr, frames, v, asked, prepared⟩
    dsimp only at asked prepared ⊢
    have rest : wp (handshakePktRest app _ ppe ts) (Sent sc s) (GivenUp s ackfr) u :=
      handshakePktRest_spec app prepared send rfl tracked
    split
    next =>
      exact wp_mono (sendNow_spec app prepared send) (fun _ _ sent => sent) fun _ _ fatal => .inl fatal
    next =>
    cases ackfr with
    | none =>
      rw [if_neg (by simp [asked])]
      exact wp_mono rest (fun _ _ sent => sent) fun _ _ up => up.fails
    | some ackfr =>
      rw [if_pos (by simp [asked])]
      exact abandoned_spec rest
  next =>
    exact wp_mono (handshakePktRest_spec app prepared send rfl tracked) (fun _ _ sent => sent)
      fun _ _ up => up.fails

theorem connWriteHandshakeAckPkt_spec (type : PktType) (send : sc.send) (ready : s.view.Ready) :
    wp (connWriteHandshakeAckPkt app destlen type ts) (Sends sc s) (fun e u => Fails sc e s u) s := by
  unfold connWriteHandshakeAckPkt
  rw [wp_bind, wp_get]
  split
  next => exact .nothing fun _ => .refl
  next =>
  rw [wp_bind]
  refine wp_mono (connCreateAckFrame_spec app ts true s) ?_ fun _ _ fatal => .inl fatal
  rintro (_ | ack) t ⟨aside, made⟩
  · exact .nothing fun _ => aside.reaches
  dsimp only
  rw [wp_bind, wp_get]
  rw [wp_bind]
  cases encoded : ngtcp2PpeEncodeHd (ngtcp2PpeInit destlen handshakeAeadOverhead t.hsTxCkm)
      (connLongHd t type) with
  | error e => exact .inr aside.reaches
  | ok ppe =>
  have silent := aside.silent
  have reached : Reaches sc s t := aside.reaches
  have prepared : Prepared t t.hsTxCkm none [] ppe t.view t :=
    .start (silent.2 ready) rfl encoded
  rw [wp_ofExcept_ok, wp_bind]
  refine wp_mono (connCall_plain app rfl) (fun _ u plain => ?_) fun _ _ fatal => .inl fatal
  have prepared := prepared.plain plain
  refine wp_mono (Q := Sent sc t) (E := GivenUp t none) ?_
    (fun len w sent => .packet (.after reached sent)) fun _ _ up => Path.after reached up.fails
  · refine prepared.encode app rfl fun ppe' w v _ _ plain' written => ?_
    rw [wp_commitAck]
    have committed := written.commit (by simp) (made ack rfl) (plain.trans plain')
      (w.view_commitAck (connLongHd t type).pktNum _ _)
    exact wp_mono (sendNow_spec app committed send) (fun _ _ sent => sent) fun _ _ fatal => .inl fatal

end Handshake

end Ngtcp2
