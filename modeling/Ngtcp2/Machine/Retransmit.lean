import Ngtcp2.Machine.Packet

namespace Ngtcp2

open Prog Relation

variable {sc : Scope} (app : App)

namespace View

def hold (v : View) (ent : RtbEntry) : View := { v with hand := some ent }

def commit (v : View) (ack : Option (Ack × Bool)) : View :=
  { v with activeAck := v.activeAck && ack.isNone, armed := v.armed && ack.isNone }

def sentSplit (v : View) (ckm : CryptoKm) (frames : List Frame) (ackfr : Option (Ack × Bool))
    (nent : RtbEntry) (queue : Queue) (n : Nat) : View :=
  { ((v.send ckm frames ackfr).emit (.mark .splitEntry)) with
    head := nent :: v.head, queue := queue, nalloc := n }

theorem send_packets (v : View) (ckm : CryptoKm) (frames : List Frame) (ackfr : Option (Ack × Bool)) :
    (v.send ckm frames ackfr).packets = v.packets + 1 := by
  simp [View.send, packets, Event.isEncrypt]

theorem sentSplit_packets (v : View) (ckm : CryptoKm) (frames : List Frame)
    (ackfr : Option (Ack × Bool)) (nent : RtbEntry) (queue : Queue) (n : Nat) :
    (v.sentSplit ckm frames ackfr nent queue n).packets = v.packets + 1 := by
  simp [sentSplit, View.send, View.emit, packets, List.countP_cons, Event.isEncrypt]

theorem packets_run {v w : View} (moves : ReflTransGen (Move sc) v w) : v.packets ≤ w.packets :=
  (Move.log_run moves).sublist.countP_le

theorem commit_none (v : View) : v.commit none = v := by
  simp [commit]

theorem commit_send (v : View) (ackfr : Option (Ack × Bool)) (ckm : CryptoKm) (frames : List Frame) :
    (v.commit ackfr).send ckm frames none = v.send ckm frames ackfr := by
  simp [commit, View.send, next]

theorem commit_sentSplit (v : View) (ackfr : Option (Ack × Bool)) (ckm : CryptoKm)
    (frames : List Frame) (nent : RtbEntry) (queue : Queue) (n : Nat) :
    (v.commit ackfr).sentSplit ckm frames none nent queue n =
      v.sentSplit ckm frames ackfr nent queue n := by
  unfold sentSplit
  rw [commit_send]
  rfl

end View

theorem ackCarried_none (v : View) (frames : List Frame) : AckCarried v frames none := trivial

def Conn.sent (c : Conn) (ckm : CryptoKm) (frames : List Frame) : Conn :=
  { c.emit (.encrypt ckm c.view.next frames) with lastTxPktNum := c.view.next }

theorem Conn.view_sent (c : Conn) (ckm : CryptoKm) (frames : List Frame) :
    (c.sent ckm frames).view = c.view.send ckm frames none := by
  simp [Conn.sent, Conn.emit, Conn.view, View.send, View.next, Event.kept]

def Conn.sentSplit (c : Conn) (ckm : CryptoKm) (frames : List Frame) (nent : RtbEntry) (n : Nat) : Conn :=
  { (c.emit (.encrypt ckm c.view.next frames)).emit (.mark .splitEntry) with
    nalloc := n, rtb := ngtcp2RtbAdd c.rtb nent, lastTxPktNum := c.view.next }

theorem Conn.view_sentSplit (c : Conn) (ckm : CryptoKm) (frames : List Frame) (nent : RtbEntry)
    (n : Nat) :
    (c.sentSplit ckm frames nent n).view =
      c.view.sentSplit ckm frames none nent (ngtcp2RtbAdd c.rtb nent).queue n := by
  simp [Conn.sentSplit, View.sentSplit, Conn.emit, Conn.view, View.send, View.emit, View.next,
    Event.kept, ngtcp2RtbAdd]

def Conn.commitAck (c : Conn) (pktNum : Nat) (ack : Ack) (unprotected : Bool) : Conn :=
  { c with
    nextAckExpiry := 0
    immediateAck := false
    acktr := ngtcp2AcktrAddAck { c.acktr with activeAck := false } pktNum ack unprotected }

theorem Conn.view_commitAck (c : Conn) (pktNum : Nat) (ack : Ack) (unprotected : Bool) :
    (c.commitAck pktNum ack unprotected).view = c.view.commit (some (ack, unprotected)) := by
  simp [Conn.commitAck, View.commit, Conn.view, ngtcp2AcktrAddAck]

theorem wp_commitAck {β : Type} (pktNum : Nat) (ack : Ack) (unprotected : Bool) (f : Unit → ConnM β)
    {Q : β → Conn → Prop} {E : Err → Conn → Prop} (c : Conn) :
    wp (connCommitTxAck >>= fun _ => connAddAck pktNum ack unprotected >>= f) Q E c =
      wp (f ()) Q E (c.commitAck pktNum ack unprotected) := rfl

theorem connRtbEntryNew_spec (hd : PktHd) (frc : List Frame) (ts deadline pktlen : Nat)
    (unprotected : Bool) (s : Conn) :
    wp (connRtbEntryNew app hd frc ts deadline pktlen unprotected)
      (fun ent t => ent = ngtcp2RtbEntryNew s.nalloc hd frc ts deadline pktlen unprotected ∧
        t = { s with nalloc := s.nalloc + 1 })
      (fun e _ => e.fatal = true) s := by
  unfold connRtbEntryNew
  rw [wp_bind]
  refine wp_mono (malloc_plain app s) ?_ fun _ _ fatal => fatal
  rintro addr t ⟨rfl, rfl⟩
  exact ⟨rfl, rfl⟩

theorem connRtbAdd_spec (ent : RtbEntry) (s : Conn) :
    wp (connRtbAdd app ent)
      (fun _ t => ∃ n, s.nalloc ≤ n ∧ t = { s with nalloc := n, rtb := ngtcp2RtbAdd s.rtb ent })
      (fun e _ => e.fatal = true) s := by
  unfold connRtbAdd
  change wp (if pqFull s.rtb.pq then _ else _ : ConnM Unit) _ _ s
  split
  next =>
    rw [wp_bind]
    refine wp_mono (malloc_plain app s) ?_ fun _ _ fatal => fatal
    rintro addr t ⟨rfl, rfl⟩
    exact ⟨s.nalloc + 1, Nat.le_succ _, rfl⟩
  next => exact ⟨s.nalloc, Nat.le_refl _, rfl⟩

theorem connSplitEntry_spec (ent : RtbEntry) (hd : PktHd) (written left : List Frame)
    (nwrite ts : Nat) (unprotected : Bool) (s : Conn) :
    wp (connSplitEntry app ent hd written left nwrite ts unprotected)
      (fun ent' t => ent' = { ent with frc := left } ∧
        ∃ nent n, nent.addr = s.nalloc ∧ nent.addr < n ∧ nent.hd = hd ∧ nent.frc = written ∧
          t = { s.emit (.mark .splitEntry) with nalloc := n, rtb := ngtcp2RtbAdd s.rtb nent })
      (fun e _ => e.fatal = true) s := by
  unfold connSplitEntry
  change wp (connRtbEntryNew _ _ _ _ _ _ _ >>= fun _ => _) _ _ (s.emit (.mark .splitEntry))
  rw [wp_bind]
  refine wp_mono (connRtbEntryNew_spec app _ _ _ _ _ _ _) ?_ fun _ _ fatal => fatal
  rintro nent t ⟨rfl, rfl⟩
  dsimp only
  rw [wp_bind]
  refine wp_mono (connRtbAdd_spec app _ _) ?_ fun _ _ fatal => fatal
  rintro _ t ⟨n, grows, rfl⟩
  refine ⟨rfl, _, n, ?_, ?_, ?_, ?_, rfl⟩
  · rfl
  · exact grows
  · rfl
  · rfl

section Again

variable {s t : Conn} {ckm : CryptoKm} {frames : List Frame} {ackfr : Option (Ack × Bool)}
  {ent ent' : RtbEntry}

theorem resend_move (send : sc.send) (ready : s.view.Ready) (carried : AckCarried s.view frames ackfr)
    (sent : t.view = s.view.send ckm frames ackfr)
    (same : ent'.addr = ent.addr ∧ ent'.frc = ent.frc) (renewed : ent.hd.Renewed ent'.hd)
    (pktNum : ent'.hd.pktNum = s.view.next) (queue : Queue)
    (pushed : t.view.queue.Pushed ent' queue) :
    Move sc (s.view.hold ent) (t.view.add ent' queue) := by
  rw [sent] at pushed ⊢
  exact .resend (s.view.hold ent) rfl ckm frames ackfr ent ent' queue send ready carried rfl same renewed
    pktNum pushed

theorem split_move {nent : RtbEntry} {n : Nat} {queue' : Queue} (send : sc.send)
    (ready : s.view.Ready) (carried : AckCarried s.view frames ackfr)
    (sent : t.view = s.view.sentSplit ckm frames ackfr nent queue' n)
    (pushed' : s.view.queue.Pushed nent queue')
    (same : ent'.addr = ent.addr ∧ ent'.hd = ent.hd) (chain : ent.frc = nent.frc ++ ent'.frc)
    (renewed : ent.hd.Renewed nent.hd) (pktNum : nent.hd.pktNum = s.view.next)
    (fresh : nent.addr = s.view.nalloc) (allocated : nent.addr < n) (queue : Queue)
    (pushed : t.view.queue.Pushed ent' queue) :
    Move sc (s.view.hold ent) (t.view.add ent' queue) := by
  rw [sent] at pushed ⊢
  exact .split (s.view.hold ent) rfl ckm frames ackfr ent ent' nent queue n send ready carried rfl same chain
    renewed pktNum (Nat.le_of_eq fresh.symm) allocated
    ⟨queue', pushed', pushed⟩

end Again

inductive Retried (sc : Scope) (s : Conn) (ent : RtbEntry) : Option Nat × RtbEntry → Conn → Prop
  | kept {ent' : RtbEntry} {t : Conn}
    (moves : ∀ sc, ReflTransGen (Move sc) (s.view.hold ent) (t.view.hold ent')) :
    Retried sc s ent (none, ent') t
  | dropped {ent' : RtbEntry} {t : Conn}
    (moves : ∀ sc, ReflTransGen (Move sc) (s.view.hold ent) t.view) : Retried sc s ent (some 0, ent') t
  | sent {len : Nat} {ent' : RtbEntry} {t : Conn} (positive : 0 < len) (more : ent'.frc ≠ [])
    (packet : s.view.packets < t.view.packets)
    (moves : ∀ pktlen queue, t.view.queue.Pushed { ent' with pktlen := pktlen } queue →
      ReflTransGen (Move sc) (s.view.hold ent) (t.view.add { ent' with pktlen := pktlen } queue)) :
    Retried sc s ent (some len, ent') t

theorem Plain.hold {s t : Conn} (plain : Plain s t) (ent : RtbEntry) :
    ReflTransGen (Move sc) (s.view.hold ent) (t.view.hold ent) := plain.aside sc (some ent)

section Attempt

variable {destlen ts : Nat} {ent : RtbEntry} {s : Conn}

theorem sendSplit_spec {u t : Conn} {held : RtbEntry} {hd : PktHd} {written left frames : List Frame}
    {ckm : Option CryptoKm} {ackfr : Option (Ack × Bool)} {ppe : Ppe} (unprotected : Bool)
    (send : sc.send) (ready : u.view.Ready) (carried : AckCarried u.view frames ackfr)
    (committed : t.view = u.view.commit ackfr) (built : ppe.At u.view.next ckm frames)
    (same : held.addr = ent.addr ∧ held.hd = ent.hd) (chain : held.frc = written ++ left)
    (renewed : ent.hd.Renewed hd) (pktNum : hd.pktNum = u.view.next) (more : left ≠ [])
    (before : ReflTransGen (Move sc) (s.view.hold ent) (u.view.hold held)) :
    wp (do
        let nwrite ← ngtcp2PpeFinal app ppe
        let ent ← connSplitEntry app ent hd written left nwrite ts unprotected
        incLastTxPktNum
        pure (some nwrite, ent))
      (Retried sc s ent) (fun e _ => e.fatal = true) t := by
  have number : t.view.next = u.view.next := by rw [committed]; rfl
  have queued : t.view.queue = u.view.queue := by rw [committed]; rfl
  have nalloc : t.view.nalloc = u.view.nalloc := by rw [committed]; rfl
  rw [wp_bind]
  refine wp_mono (ngtcp2PpeFinal_spec app t built) ?_ fun _ _ fatal => fatal
  rintro len t' ⟨positive, km, rfl⟩
  rw [wp_bind]
  refine wp_mono (connSplitEntry_spec app _ _ _ _ _ _ _ _) ?_ fun _ _ fatal => fatal
  rintro ent' t' ⟨rfl, nent, n, addr, allocated, rfl, rfl, rfl⟩
  have view := t.view_sentSplit km frames nent n
  rw [committed, View.commit_sentSplit] at view
  have joins : t.view.queue.Pushed nent (ngtcp2RtbAdd t.rtb nent).queue := ngtcp2RtbAdd_pushed t.rtb nent
  rw [queued] at joins
  rw [← number] at built pktNum ⊢
  change Retried sc s ent (some len, _) (t.sentSplit km frames nent n)
  have packet : s.view.packets < (t.sentSplit km frames nent n).view.packets := by
    rw [view, View.sentSplit_packets]
    have grows := View.packets_run before
    exact Nat.lt_succ_of_le grows
  refine .sent positive more packet fun pktlen queue pushed => before.tail ?_
  refine split_move send ready carried view joins ?_ ?_ ?_ ?_ ?_ ?_ queue pushed
  · exact ⟨same.1.symm, same.2.symm⟩
  · exact chain
  · exact same.2 ▸ renewed
  · exact pktNum.trans number
  · exact addr.trans nalloc
  · exact allocated

theorem sendWhole {u t : Conn} {held ent' : RtbEntry} {frames : List Frame} {len : Nat}
    {km : CryptoKm} {ackfr : Option (Ack × Bool)}
    (send : sc.send) (ready : u.view.Ready) (carried : AckCarried u.view frames ackfr)
    (sent : t.view = u.view.send km frames ackfr) (positive : 0 < len)
    (same : ent'.addr = held.addr ∧ ent'.frc = held.frc) (some : held.frc ≠ [])
    (renewed : held.hd.Renewed ent'.hd) (pktNum : ent'.hd.pktNum = u.view.next)
    (before : ReflTransGen (Move sc) (s.view.hold ent) (u.view.hold held)) :
    Retried sc s ent (.some len, ent') t := by
  have packet : s.view.packets < t.view.packets := by
    rw [sent, View.send_packets]
    have grows := View.packets_run before
    exact Nat.lt_succ_of_le grows
  refine .sent positive (same.2 ▸ some) packet fun pktlen queue pushed => before.tail ?_
  refine resend_move send ready carried sent ?_ ?_ ?_ queue pushed
  · exact same
  · exact renewed
  · exact pktNum

theorem connRetransmitUnprotected_spec (send : sc.send) (ready : s.view.Ready)
    (long : ent.hd.longForm = true) :
    wp (connRetransmitUnprotected app destlen ent ts) (Retried sc s ent)
      (fun e _ => e.fatal = true) s := by
  unfold connRetransmitUnprotected
  rw [wp_bind, wp_get]
  dsimp only
  split
  next => exact .kept fun _ => .refl
  next e noSpace failed =>
    exact absurd (ngtcp2PpeEncodeHd_error (.inl (by exact long)) failed) noSpace
  next ppe encoded =>
  rw [wp_bind]
  refine wp_mono (writeFrames_spec app _ ent.frc false s (ngtcp2PpeEncodeHd_at encoded)) ?_
    fun _ _ fatal => fatal
  rintro ⟨written, left, ppe⟩ t ⟨plain, built, chain⟩
  dsimp only at built chain ⊢
  have renewed : ent.hd.Renewed { ent.hd with
      version := s.version, connId := s.connId, pktNum := add64 s.lastTxPktNum 1 } := by
    simp [PktHd.Renewed, long]
  split
  next none =>
    split
    next =>
      -- the entry has no frames at all
      refine .dropped fun sc => (plain.hold ent).tail ?_
      exact .drop (t.view.hold ent) (.inl rfl) ent rfl (.inr (.inl long))
    next => exact .kept fun _ => plain.hold ent
  next wrote =>
  split
  next whole =>
    rw [wp_bind]
    refine wp_mono (retransmitPadding_spec app _ t built) ?_ fun _ _ fatal => fatal
    rintro ppe' u ⟨padded, frames, built⟩
    have plain := plain.trans padded
    have silent := plain.aside.silent
    have built : ppe'.At u.view.next s.hsTxCkm frames := by
      rw [silent.1]
      exact built
    have some : ent.frc ≠ [] := by
      rw [chain, whole]
      simpa using wrote
    change wp (ngtcp2PpeFinal app ppe' >>= fun nwrite => pure (Option.some nwrite, _)) _ _
      { u with lastTxPktNum := u.view.next }
    rw [wp_bind]
    refine wp_mono (ngtcp2PpeFinal_spec app _ built) ?_ fun _ _ fatal => fatal
    rintro len t' ⟨positive, km, rfl⟩
    refine sendWhole send (silent.2 ready) (ackCarried_none _ frames) (u.view_sent km frames) positive
      ?_ some ?_ ?_ (plain.hold ent)
    · exact ⟨rfl, rfl⟩
    · exact renewed
    · exact silent.1.symm
  next more =>
    have silent := plain.aside.silent
    have built : ppe.At t.view.next s.hsTxCkm written := by
      rw [silent.1]
      exact built
    exact sendSplit_spec app true send (silent.2 ready) (ackCarried_none _ written)
      t.view.commit_none.symm built ⟨rfl, rfl⟩ chain renewed silent.1.symm more (plain.hold ent)

theorem retransmitAck_spec {n : Nat} {ckm : Option CryptoKm} {frames : List Frame} {ppe : Ppe}
    (expired : Bool) (hd : PktHd) (before : ppe.At n ckm frames) :
    wp (retransmitAck app expired hd ppe ts)
      (fun ppe' t => ∃ u ackfr frames', Aside s u ∧ t.view = u.view.commit ackfr ∧
        AckCarried u.view frames' ackfr ∧ ppe'.At n ckm frames')
      (fun e _ => e.fatal = true) s := by
  unfold retransmitAck
  split
  next =>
    rw [wp_bind]
    refine wp_mono (connCreateAckFrame_spec app ts false s) ?_ fun _ _ fatal => fatal
    rintro (_ | ack) t ⟨aside, made⟩
    · exact ⟨t, none, frames, aside, t.view.commit_none.symm, trivial, before⟩
    · dsimp only
      rw [wp_bind, wp_attempt]
      refine wp_mono (connPpeWriteFrame_spec app true hd (.ack ack) t before) ?_ ?_
      · rintro ppe' u ⟨plain, built⟩
        have tracked : u.view.tracked = t.view.tracked := by
          rw [plain.view.2]
        dsimp only
        rw [wp_commitAck]
        refine ⟨u, some (ack, false), _, aside.trans plain.aside, u.view_commitAck _ _ _,
          ⟨by simp, ?_, by simp⟩, built⟩
        rw [tracked]
        exact (made ack rfl).1
      · rintro e u (fatal | ⟨rfl, rfl⟩)
        · cases e <;> first | exact fatal | cases fatal
        · exact ⟨u, none, frames, aside, u.view.commit_none.symm, trivial, before⟩
  next => exact ⟨s, none, frames, .refl s, s.view.commit_none.symm, trivial, before⟩

theorem obsoleteFrame_view {fr : Frame} (obsolete : obsoleteFrame s fr = true) :
    s.view.Obsolete fr := by
  cases fr with
  | stream fr =>
    intro strm found
    cases raw : s.strms fr.streamId with
    | none => simp [Conn.view, raw] at found
    | some strm' =>
      simp only [Conn.view_strms raw, Option.some.injEq] at found
      simpa [obsoleteFrame, raw, ← found, Strm.view] using obsolete
  | maxStreamData fr =>
    intro strm found
    cases raw : s.strms fr.streamId with
    | none => simp [Conn.view, raw] at found
    | some strm' =>
      simp only [Conn.view_strms raw, Option.some.injEq] at found
      simpa [obsoleteFrame, raw, ← found, Strm.view] using obsolete
  | maxData n => simpa [obsoleteFrame, View.Obsolete, Conn.view] using obsolete
  | maxStreamId n =>
    simp only [obsoleteFrame] at obsolete
    simp only [View.Obsolete, View.maxRemoteStreamId]
    split at obsolete
    all_goals simp_all [Conn.view]
  | stopSending fr => trivial
  | _ => cases obsolete

theorem discard_move {t : Conn} {written left : List Frame} (plain : Plain s t)
    (sifted : Sifted (obsoleteFrame s) ent.frc written left) :
    ReflTransGen (Move sc) (s.view.hold ent) (t.view.hold { ent with frc := written ++ left }) := by
  refine (plain.hold ent).tail (.discard (t.view.hold ent) rfl ent _ rfl sifted.1 fun fr fewer => ?_)
  exact obsoleteFrame_view ((congrFun (obsoleteFrame_plain plain) fr).trans (sifted.2 fr fewer))

theorem connSelectPktType_short (c : Conn) (pktNum : Nat) :
    connSelectPktType c pktNum = .PKT_01 ∨ connSelectPktType c pktNum = .PKT_02 ∨
      connSelectPktType c pktNum = .PKT_03 := by
  unfold connSelectPktType
  dsimp only
  split_ifs <;> simp

theorem connRetransmitProtected_spec (send : sc.send) (ready : s.view.Ready)
    (short : ent.hd.longForm = false) :
    wp (connRetransmitProtected app destlen ent ts) (Retried sc s ent)
      (fun e _ => e.fatal = true) s := by
  unfold connRetransmitProtected
  rw [wp_bind, wp_get]
  dsimp only
  split
  next => exact .kept fun _ => .refl
  next e noSpace failed =>
    refine absurd (ngtcp2PpeEncodeHd_error (.inr ?_) failed) noSpace
    exact connSelectPktType_short s _
  next ppe encoded =>
  rw [wp_bind]
  refine wp_mono (retransmitFrames_spec app _ false ent.frc false s (ngtcp2PpeEncodeHd_at encoded)) ?_
    fun _ _ fatal => fatal
  rintro ⟨written, left, ppe⟩ t ⟨plain, built, sifted⟩
  dsimp only at built sifted ⊢
  have renewed : ent.hd.Renewed { ent.hd with
      version := s.version, connId := s.connId, pktNum := add64 s.lastTxPktNum 1
      type := connSelectPktType s (add64 s.lastTxPktNum 1) } := by
    simpa [PktHd.Renewed, PktHd.shortType, short] using connSelectPktType_short s _
  split
  next none =>
    subst none
    split
    next whole =>
      subst whole
      refine .dropped fun sc => (discard_move plain sifted).tail ?_
      exact .drop (t.view.hold { ent with frc := [] }) (.inl rfl) _ rfl (.inl rfl)
    next => exact .kept fun _ => discard_move plain sifted
  next wrote =>
  rw [wp_bind]
  refine wp_mono (retransmitAck_spec app _ _ built) ?_ fun _ _ fatal => fatal
  rintro ppe' t' ⟨u, ackfr, frames, aside, committed, carried, built⟩
  have before : ReflTransGen (Move sc) (s.view.hold ent)
      (u.view.hold { ent with frc := written ++ left }) :=
    (discard_move plain sifted).trans (aside sc (some _))
  have silent := (plain.aside.trans aside).silent
  have built : ppe'.At u.view.next s.txCkm frames := by
    rw [silent.1]
    exact built
  by_cases whole : left = []
  next =>
    subst whole
    simp only [if_true]
    rw [wp_bind]
    refine wp_mono (ngtcp2PpeFinal_spec app t' built) ?_ fun _ _ fatal => fatal
    rintro len t'' ⟨positive, km, rfl⟩
    have view := t'.view_sent km frames
    have number : t'.view.next = u.view.next := by rw [committed]; rfl
    rw [committed, View.commit_send] at view
    rw [← number]
    change Retried sc s ent _ (t'.sent km frames)
    refine sendWhole send (silent.2 ready) carried view positive ?_ ?_ ?_ ?_ before
    · exact ⟨rfl, (List.append_nil written).symm⟩
    · simpa using wrote
    · exact renewed
    · exact silent.1.symm
  next =>
    simp only [if_neg whole]
    refine sendSplit_spec app false send (silent.2 ready) carried committed built ?_ ?_ renewed
      silent.1.symm whole before
    · exact ⟨rfl, rfl⟩
    · rfl

theorem connRetransmitEntry_spec (send : sc.send) (ready : s.view.Ready) :
    wp (connRetransmitEntry app destlen ent ts) (Retried sc s ent)
      (fun e t => e.fatal = true ∨ ∀ sc, ReflTransGen (Move sc) (s.view.hold ent) t.view) s := by
  have never : ¬ ent.hd.Tracked → ∀ sc, ReflTransGen (Move sc) (s.view.hold ent) s.view :=
    fun unknown sc => .single (.drop (s.view.hold ent) (.inl rfl) ent rfl (.inr (.inr (.inl unknown))))
  unfold connRetransmitEntry
  rw [wp_bind, wp_get]
  split
  next long =>
    have again : wp (if s.recvProtectedPkt then pure (some 0, ent)
          else connRetransmitUnprotected app destlen ent ts) (Retried sc s ent)
        (fun e t => e.fatal = true ∨ ∀ sc, ReflTransGen (Move sc) (s.view.hold ent) t.view) s := by
      split
      next =>
        exact .dropped fun sc => .single (.drop (s.view.hold ent) (.inl rfl) ent rfl (.inr (.inl long)))
      next =>
        exact wp_mono (connRetransmitUnprotected_spec app send ready long) (fun _ _ ok => ok)
          fun _ _ fatal => .inl fatal
    split
    next => exact again
    next => exact again
    next initial handshake =>
      refine .inr (never ?_)
      simpa [PktHd.Tracked, long] using ⟨initial, handshake⟩
  next short =>
    have short : ent.hd.longForm = false := by simpa using short
    have again : wp (connRetransmitProtected app destlen ent ts) (Retried sc s ent)
        (fun e t => e.fatal = true ∨ ∀ sc, ReflTransGen (Move sc) (s.view.hold ent) t.view) s :=
      wp_mono (connRetransmitProtected_spec app send ready short) (fun _ _ ok => ok)
        fun _ _ fatal => .inl fatal
    split
    next => exact again
    next => exact again
    next => exact again
    next one two three =>
      refine .inr (never ?_)
      simpa [PktHd.Tracked, PktHd.shortType, short] using ⟨one, two, three⟩

end Attempt

def Loses (sc : Scope) (e : Err) (s t : Conn) : Prop :=
  e.fatal = true ∨ ((e = .PKT_TIMEOUT → sc.lose) → Reaches sc s t)

instance : Path (Reaches sc) (Loses sc) where
  refl _ := .refl
  trans := ReflTransGen.trans
  stop reached := .inr fun _ => reached
  after reached := Or.imp_right fun next allowed => ReflTransGen.trans reached (next allowed)

structure Sent (sc : Scope) (s : Conn) (len : Nat) (t : Conn) : Prop where
  positive : 0 < len
  reached : Reaches sc s t
  packet : s.view.packets < t.view.packets

theorem Sent.after {s t u : Conn} {len : Nat} (reached : Reaches sc s t) (sent : Sent sc t len u) :
    Sent sc s len u :=
  ⟨sent.positive, ReflTransGen.trans reached sent.reached,
    Nat.lt_of_le_of_lt (View.packets_run reached) sent.packet⟩

inductive Sends (sc : Scope) (s : Conn) : Nat → Conn → Prop
  | nothing {t : Conn} (reached : ∀ sc, Reaches sc s t) : Sends sc s 0 t
  | packet {len : Nat} {t : Conn} (sent : Sent sc s len t) : Sends sc s len t

theorem Sends.reached {s t : Conn} {len : Nat} (sends : Sends sc s len t) : Reaches sc s t := by
  cases sends with
  | nothing reached => exact reached sc
  | packet sent => exact sent.reached

theorem Sends.after {s t u : Conn} {len : Nat} (reached : ∀ sc, Reaches sc s t)
    (sends : Sends sc t len u) : Sends sc s len u := by
  cases sends with
  | nothing next => exact .nothing fun sc => ReflTransGen.trans (reached sc) (next sc)
  | packet sent => exact .packet (.after (reached sc) sent)

theorem ready_after {s t : Conn} (reached : ∀ sc, Reaches sc s t) (ready : s.view.Ready) :
    t.view.Ready :=
  (Move.silent_run (reached .none) id).2 ready

theorem state_after {s t : Conn} (reached : ∀ sc, Reaches sc s t) : t.state = s.state :=
  (reached .none).steady fun _ => id

theorem connRtbReadd_spec (ent : RtbEntry) (s : Conn) :
    wp (connRtbReadd app ent)
      (fun _ t => ∃ n queue, s.nalloc ≤ n ∧ s.view.queue.Pushed ent queue ∧
        t.view = { s.view.add ent queue with nalloc := n })
      (fun e _ => e.fatal = true) s := by
  unfold connRtbReadd
  rw [wp_bind, wp_attempt]
  refine wp_mono (connRtbAdd_spec app ent s) ?_ ?_
  · rintro _ t ⟨n, grows, rfl⟩
    exact ⟨n, _, grows, ngtcp2RtbAdd_pushed s.rtb ent, rfl⟩
  · intro e t fatal
    dsimp only
    split
    · exact fatal
    · exact rfl

theorem connRetransmitLoop_spec (destlen ts rounds : Nat) {s : Conn} (send : sc.send)
    (ready : s.view.Ready) :
    wp (connRetransmitLoop app destlen ts rounds) (Sends sc s) (fun e t => Loses sc e s t) s := by
  induction rounds generalizing s with
  | zero => exact .nothing fun _ => .refl
  | succ rounds ih =>
    unfold connRetransmitLoop
    rw [wp_bind, wp_get]
    split
    next => exact .nothing fun _ => .refl
    next ent top =>
    split
    next => exact .nothing fun _ => .refl
    next =>
    rw [wp_bind]
    rcases ngtcp2RtbPop_top top with ⟨abort, -⟩ | ⟨rtb, popped, head, gone⟩
    · rw [abort]
      exact .inl rfl
    rw [popped, wp_ofExcept_ok]
    let u : Conn := { s with rtb := rtb }
    have pop : ∀ sc, Move sc s.view (u.view.hold ent) := by
      intro sc
      have move : Move sc _ _ := .pop s.view ent rtb.queue rfl gone
      rw [show unlink ent.addr s.view.head = rtb.head from head.symm] at move
      exact move
    change wp (if ent.deadline ≤ ts then _ else _ : ConnM Nat) _ _ u
    split
    next =>
      refine .inr fun lose => .head (pop sc) (.single ?_)
      exact .drop (u.view.hold ent) (.inl rfl) ent rfl (.inr (.inr (.inr (.inr (lose rfl)))))
    next =>
    rw [wp_bind]
    refine wp_mono (connRetransmitEntry_spec app send (s := u) ready) ?_ ?_
    · intro r t retried
      cases retried with
      | @kept ent' t moves =>
        -- the entry goes back as it is, and the caller learns that the buffer is too small
        change wp (connRtbReadd app ent' >>= fun _ => throw .NOBUF) _ _
          (t.emit (.mark (.readdEntry ent'.hd.pktNum t.view.headPktNum)))
        rw [wp_bind]
        refine wp_mono (connRtbReadd_spec app ent' _) ?_ fun _ _ fatal => .inl fatal
        rintro _ w ⟨n, queue, grows, pushed, view⟩
        rw [Conn.view_emit _ rfl] at view pushed
        refine .inr fun _ => .head (pop sc) (.trans (moves sc) ?_)
        refine .head (.putBack (t.view.hold ent') rfl ent' queue rfl pushed) (.single ?_)
        rw [view]
        exact .alloc _ n grows
      | @dropped _ t moves =>
        have reached : ∀ sc, Reaches sc s t := fun sc => .head (pop sc) (moves sc)
        exact wp_mono (ih (ready_after reached ready)) (fun _ _ sends => .after reached sends)
          fun _ _ loses => Path.after (reached sc) loses
      | @sent len ent' t positive more packet moves =>
        have some : len ≠ 0 := Nat.pos_iff_ne_zero.mp positive
        change wp (if len = 0 then _ else if ent'.frc = [] then _ else _ : ConnM Nat) _ _ t
        rw [if_neg some, if_neg more, wp_bind]
        refine wp_mono (connRtbReadd_spec app _ t) ?_ fun _ _ fatal => .inl fatal
        rintro _ w ⟨n, queue, grows, pushed, view⟩
        refine .packet ⟨positive, .head (pop sc) (.tail (moves len queue pushed) ?_), ?_⟩
        · rw [view]
          exact .alloc _ n grows
        · rw [view]
          exact packet
    · rintro e t (fatal | moves)
      · exact .inl fatal
      · exact .inr fun _ => .head (pop sc) (moves sc)

theorem connRetransmit_spec (destlen ts : Nat) {s : Conn} (send : sc.send) (ready : s.view.Ready) :
    wp (connRetransmit app destlen ts) (Sends sc s) (fun e t => Loses sc e s t) s :=
  connRetransmitLoop_spec app destlen ts _ send ready

end Ngtcp2
