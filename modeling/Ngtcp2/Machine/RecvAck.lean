import Ngtcp2.Machine.Ack

namespace Ngtcp2

open Prog Relation

variable {sc : Scope} (app : App)

inductive Acks (v : View) : Frame → View → Prop
  | silent (fr : Frame) (silent : ∀ sent strm, fr = .stream sent → v.strms sent.streamId = some strm →
      strm.ackedGain sent = 0 ∧ sent.fin = false) : Acks v fr (v.ackFrame fr)
  | told (fr : StreamFrame) (strm : Strm) (w : View) (found : v.strms fr.streamId = some strm)
    (told : strm.ackedGain fr ≠ 0 ∨ fr.fin = true)
    (closes : Closes fr.streamId ((v.ackFrame (.stream fr)).emit
      (.ackedStreamDataOffset fr.streamId (ngtcp2GaptrFirstGapOffset strm.ackedTxOffset)
        (strm.ackedGain fr))) w) : Acks v (.stream fr) w

theorem Acks.other {fr : Frame} (plain : fr.stream? = none) (v : View) : Acks v fr v := by
  have same : v.ackFrame fr = v := by cases fr <;> first | rfl | cases plain
  have acks := Acks.silent (v := v) fr fun sent _ eq _ => by cases eq; cases plain
  rwa [same] at acks

theorem ackStreamFrame_spec (fr : StreamFrame) (s : Conn) :
    wp (ackStreamFrame app fr) (fun _ t => Acks s.view (.stream fr) t.view)
      (fun e _ => e.fatal = true) s := by
  unfold ackStreamFrame
  rw [wp_bind, wp_findStream]
  cases found : s.strms fr.streamId with
  | none =>
    have absent : s.view.strms fr.streamId = none := by simp [Conn.view, found]
    have same : s.view.ackFrame (.stream fr) = s.view := by simp [View.ackFrame, absent]
    have acks := Acks.silent (v := s.view) (.stream fr) fun sent strm eq seen => by
      cases eq
      cases absent.symm.trans seen
    rwa [same] at acks
  | some strm =>
    let acked := ngtcp2GaptrPush strm.ackedTxOffset fr.offset fr.datalen
    let recorded := s.setStrm fr.streamId (some { strm with ackedTxOffset := acked })
    have view : recorded.view = s.view.ackFrame (.stream fr) := by
      rw [Conn.view_setStrm]
      simp only [View.ackFrame, Conn.view_strms found]
      rfl
    dsimp only
    rw [wp_bind, wp_modifyStrm _ found]
    split
    next quiet =>
      change Acks s.view (.stream fr) recorded.view
      rw [view]
      refine .silent _ fun sent strm' eq seen => ?_
      cases eq
      cases (Conn.view_strms found).symm.trans seen
      exact ⟨quiet.1, by simpa using quiet.2⟩
    next loud =>
      have told : strm.view.ackedGain fr ≠ 0 ∨ fr.fin = true := by
        by_cases gains : strm.view.ackedGain fr = 0
        · exact .inr (by by_contra unfinished; exact loud ⟨gains, unfinished⟩)
        · exact .inl gains
      rw [wp_bind]
      refine wp_intro (fun _ u run => ?_) fun e u run => connCall_error app run
      cases connCall_ok app run
      refine wp_mono (ngtcp2ConnCloseStreamIfShutRdwr_spec app _ _ _) (fun _ t closes => ?_)
        fun _ _ fatal => fatal
      change Closes fr.streamId (recorded.emit _).view t.view at closes
      rw [Conn.view_emit _ rfl, view] at closes
      exact .told fr strm.view t.view (Conn.view_strms found) told closes

def AcksAll : List Frame → View → View → Prop
  | [], v, w => w = v
  | fr :: rest, v, w => ∃ u, Acks v fr u ∧ AcksAll rest u w

theorem callAckedStreamOffset_spec (frc : List Frame) (s : Conn) :
    wp (callAckedStreamOffset app frc) (fun _ t => AcksAll frc s.view t.view)
      (fun e _ => e.fatal = true) s := by
  induction frc generalizing s with
  | nil => exact rfl
  | cons fr rest ih =>
    have other : fr.stream? = none →
        wp (callAckedStreamOffset app rest) (fun _ t => AcksAll (fr :: rest) s.view t.view)
          (fun e _ => e.fatal = true) s := by
      intro plain
      exact wp_mono (ih s) (fun _ _ acks => ⟨s.view, .other plain s.view, acks⟩) fun _ _ fatal => fatal
    cases fr with
    | stream fr =>
      unfold callAckedStreamOffset
      rw [wp_bind]
      refine wp_mono (ackStreamFrame_spec app fr s) (fun _ u acks => ?_) fun _ _ fatal => fatal
      exact wp_mono (ih u) (fun _ _ rest => ⟨u.view, acks, rest⟩) fun _ _ fatal => fatal
    | _ => exact other rfl

def View.holding (v : View) (queue : Queue) (head : List RtbEntry) (ent : RtbEntry) : View :=
  { v with queue := queue, head := head, hand := some ent, acking := true }

theorem View.ackFrame_holding (v : View) (fr : Frame) (queue : Queue) (head : List RtbEntry)
    (ent ent' : RtbEntry) :
    { (v.holding queue head ent).ackFrame fr with hand := some ent' } =
      (v.ackFrame fr).holding queue head ent' := by
  cases fr with
  | stream fr =>
    simp only [View.ackFrame, View.holding]
    split <;> rfl
  | _ => rfl

theorem View.ackFrame_same (v : View) (fr : Frame) :
    (v.ackFrame fr).head = v.head ∧ (v.ackFrame fr).queue = v.queue ∧ (v.ackFrame fr).hand = v.hand := by
  rcases v.ackFrame_cases fr with ⟨_, _, _, _, same⟩ | ⟨_, same⟩ <;> rw [same] <;> exact ⟨rfl, rfl, rfl⟩

theorem Closes.holding {id : Nat} {v w : View} (closes : Closes id v w) (queue : Queue)
    (head : List RtbEntry) (ent : RtbEntry) :
    Closes id (v.holding queue head ent) (w.holding queue head ent) := by
  rcases closes with rfl | ⟨strm, found, closable, code, u, moved, rfl⟩
  · exact .inl rfl
  · refine .inr ⟨strm, found, closable, code, u.holding queue head ent, ?_, rfl⟩
    cases moved with
    | ours => exact .ours
    | theirs behind bidi uni bidiOk uniOk level => exact .theirs behind bidi uni bidiOk uniOk level

theorem Closes.same {id : Nat} {v w : View} (closes : Closes id v w) :
    w.head = v.head ∧ w.queue = v.queue ∧ w.hand = v.hand := by
  rcases closes with rfl | ⟨strm, found, closable, code, u, moved, rfl⟩
  · exact ⟨rfl, rfl, rfl⟩
  · cases moved <;> exact ⟨rfl, rfl, rfl⟩

theorem lastAcked_plain {log : List Event} {e : Event} (plain : e.ackedFrames? = none) :
    lastAcked (log ++ [e]) = lastAcked log := by
  simp [lastAcked, plain]

theorem Closes.latest {id : Nat} {v w : View} (closes : Closes id v w) :
    lastAcked w.log = lastAcked v.log := by
  rcases closes with rfl | ⟨strm, found, closable, code, u, moved, rfl⟩
  · rfl
  · have closed : lastAcked (v.closeStream strm code).log = lastAcked v.log := by
      simp [lastAcked, View.closeStream, closeMark, List.findSome?, Event.ackedFrames?]
    cases moved with
    | ours => exact closed
    | theirs => exact (lastAcked_plain rfl).trans closed

theorem Acks.latest {fr : Frame} {v w : View} (acks : Acks v fr w) : lastAcked w.log = lastAcked v.log := by
  have recorded (fr : Frame) : (v.ackFrame fr).log = v.log := by
    rcases v.ackFrame_cases fr with ⟨_, _, _, _, same⟩ | ⟨_, same⟩ <;> rw [same]
    rfl
  cases acks with
  | silent => rw [recorded]
  | told fr strm _ found told closes =>
    rw [closes.latest]
    exact (lastAcked_plain rfl).trans (congrArg _ (recorded _))

theorem View.Acked.mono {v w : View} {fr : Frame} (acked : v.Acked fr) (longer : v.log <+: w.log) :
    w.Acked fr := by
  obtain ⟨n, frames, logged, member⟩ := acked
  exact ⟨n, frames, longer.subset logged, member⟩

theorem Acks.moves {fr : Frame} {rest : List Frame} {v w : View} {queue : Queue} {head : List RtbEntry}
    {ent : RtbEntry} (acks : Acks v fr w) (chain : ent.frc = fr :: rest) (acked : v.Acked fr)
    (latest : ∀ fr ∈ ent.frc, fr ∈ lastAcked v.log) :
    ReflTransGen (Move sc) (v.holding queue head ent)
      (w.holding queue head { ent with frc := rest }) := by
  cases acks with
  | silent _ silent =>
    refine .single ?_
    rw [← View.ackFrame_holding v fr queue head ent]
    exact .ackFrame (v.holding queue head ent) rfl ent fr rest rfl chain acked silent
  | told fr strm _ found told closes =>
    refine .head ?_ (closes.holding queue head { ent with frc := rest }).moves
    have recorded : v.ackFrame (.stream fr) = v.setStrm fr.streamId (some { strm with
        ackedTxOffset := ngtcp2GaptrPush strm.ackedTxOffset fr.offset fr.datalen }) := by
      simp only [View.ackFrame, found]
    rw [recorded]
    refine .ackReport (v.holding queue head ent) rfl ?_ ent fr rest strm rfl chain acked found told
    rintro _ ⟨rfl⟩
    exact latest

theorem AcksAll.moves {frc : List Frame} {v w : View} {queue : Queue} {head : List RtbEntry}
    {ent : RtbEntry} (acks : AcksAll frc v w) (chain : ent.frc = frc) (acked : ∀ fr ∈ frc, v.Acked fr)
    (latest : ∀ fr ∈ frc, fr ∈ lastAcked v.log) :
    ReflTransGen (Move sc) (v.holding queue head ent)
      (w.holding queue head { ent with frc := [] }) := by
  induction frc generalizing v ent with
  | nil =>
    cases acks
    cases ent
    cases chain
    exact .refl
  | cons fr rest ih =>
    obtain ⟨u, first, acks⟩ := acks
    have here : ReflTransGen (Move sc) (v.holding queue head ent)
        (u.holding queue head { ent with frc := rest }) :=
      first.moves chain (acked fr List.mem_cons_self) (chain ▸ latest)
    have longer : (v.holding queue head ent).log <+:
        (u.holding queue head { ent with frc := rest }).log := Move.log_run here
    refine here.trans (@ih u { ent with frc := rest } acks rfl (fun fr' member => ?_) fun fr' member => ?_)
    · exact (acked fr' (List.mem_cons_of_mem _ member)).mono longer
    · rw [first.latest]
      exact latest fr' (List.mem_cons_of_mem _ member)

theorem Acks.same {fr : Frame} {v w : View} (acks : Acks v fr w) :
    w.head = v.head ∧ w.queue = v.queue ∧ w.hand = v.hand := by
  cases acks with
  | silent => exact v.ackFrame_same fr
  | told fr strm _ found told closes =>
    obtain ⟨head, queue, hand⟩ := closes.same
    obtain ⟨head', queue', hand'⟩ := v.ackFrame_same (.stream fr)
    exact ⟨head.trans head', queue.trans queue', hand.trans hand'⟩

theorem AcksAll.same {frc : List Frame} {v w : View} (acks : AcksAll frc v w) :
    w.head = v.head ∧ w.queue = v.queue ∧ w.hand = v.hand := by
  induction frc generalizing v with
  | nil =>
    cases acks
    exact ⟨rfl, rfl, rfl⟩
  | cons fr rest ih =>
    obtain ⟨u, first, acks⟩ := acks
    obtain ⟨head, queue, hand⟩ := ih acks
    obtain ⟨head', queue', hand'⟩ := first.same
    exact ⟨head.trans head', queue.trans queue', hand.trans hand'⟩

theorem rtbAckFrames_spec (sc : Scope) {ent : RtbEntry} {s : Conn}
    (acked : ∀ fr ∈ ent.frc, s.view.Acked fr) (latest : ∀ fr ∈ ent.frc, fr ∈ lastAcked s.view.log) :
    wp (rtbAckFrames app ent.frc)
      (fun _ t => t.view.head = s.view.head ∧ t.view.queue = s.view.queue ∧
        ∀ queue head, ReflTransGen (Move sc) (s.view.holding queue head ent)
          { t.view with queue := queue, head := head })
      (fun e _ => e.fatal = true) s := by
  change wp (if s.ackedStreamDataOffset then callAckedStreamOffset app ent.frc else pure () : ConnM Unit)
    _ _ s
  split
  case isTrue =>
    refine wp_mono (callAckedStreamOffset_spec app ent.frc s) (fun _ t acks => ?_)
      fun _ _ fatal => fatal
    obtain ⟨head, queue, hand⟩ := acks.same
    refine ⟨head, queue, fun queue head => .trans (acks.moves rfl acked latest) (.single ?_)⟩
    refine .drop (t.view.holding queue head { ent with frc := [] }) (.inr (.inr ?_)) _ rfl (.inl rfl)
    rintro _ ⟨rfl⟩
    rfl
  case isFalse unwanted =>
    have off : s.view.ackedStreamDataOffset = false := by simpa [Conn.view] using unwanted
    refine ⟨rfl, rfl, fun queue head => .single ?_⟩
    exact .drop (s.view.holding queue head ent) (.inr (.inl off)) ent rfl (.inr (.inr (.inr (.inl ⟨off, acked⟩))))

theorem rtbAckEntry_spec (sc : Scope) {ent : RtbEntry} {s : Conn} (member : ent ∈ s.rtb.head) :
    wp (rtbAckEntry app ent)
      (fun _ t => Reaches sc s t ∧ t.rtb.head = unlink ent.addr s.rtb.head)
      (fun e _ => e.fatal = true) s := by
  unfold rtbAckEntry
  let marked := s.emit (.mark (.ackedEntry ent.hd.pktNum ent.frc))
  have view : marked.view = s.view.emit (.mark (.ackedEntry ent.hd.pktNum ent.frc)) :=
    Conn.view_emit _ rfl
  have acked : ∀ fr ∈ ent.frc, marked.view.Acked fr := fun fr inside =>
    ⟨ent.hd.pktNum, ent.frc, by simp [view, View.emit], inside⟩
  rw [wp_bind, wp_connMark, wp_bind]
  have latest : lastAcked marked.view.log = ent.frc := by
    simp [view, View.emit, lastAcked, List.findSome?, Event.ackedFrames?]
  refine wp_mono (rtbAckFrames_spec app sc acked fun _ member => latest.symm ▸ member) (fun _ u settled => ?_) fun _ _ fatal => fatal
  obtain ⟨head, queue, moves⟩ := settled
  change wp (ofExcept (rtbRemove _ ent) >>= fun rtb => modify fun c => { c with rtb := rtb }) _ _ u
  cases removed : rtbRemove { u.rtb with
      largestAcked := max u.rtb.largestAcked ent.hd.pktNum } ent with
  | error e =>
    cases rtbRemove_error removed
    exact rfl
  | ok rtb =>
    obtain ⟨shorter, held, slot, gone⟩ := rtbRemove_ok removed
    have shorter' : rtb.head = unlink ent.addr s.view.head := head ▸ shorter
    -- `largest_acked` is no part of the queue
    have gone : u.view.queue.Removed ent rtb.queue held :=
      ⟨gone.perm, fun own sound => gone.sound own ⟨sound.pq, sound.bytes⟩⟩
    refine ⟨.head (.take s.view ent held rtb.queue rfl member slot (queue ▸ gone)) ?_, shorter'⟩
    rw [← shorter']
    have settle := moves rtb.queue rtb.head
    rwa [view] at settle

variable (largestAck minAck : Nat) (unprotected : Bool)

theorem rtbAckEntry_goes {ent : RtbEntry} {rest : List RtbEntry} {s : Conn} {β : Type}
    {f : Unit → ConnM β} {Q : β → Conn → Prop} (suffix : ent :: rest <:+ s.rtb.head)
    (next : ∀ t, rest <:+ t.rtb.head →
      wp (f ()) (fun b u => Reaches sc t u ∧ Q b u) (fun e u => Fails sc e t u) t) :
    wp (rtbAckEntry app ent >>= f) (fun b u => Reaches sc s u ∧ Q b u) (fun e u => Fails sc e s u) s := by
  rw [wp_bind]
  refine wp_mono (rtbAckEntry_spec app sc (suffix.subset List.mem_cons_self)) (fun _ t taken => ?_)
    fun _ _ fatal => .inl fatal
  obtain ⟨reached, shorter⟩ := taken
  have stays : rest <:+ t.rtb.head := shorter ▸ unlink_suffix suffix
  exact wp_mono (next t stays) (fun _ _ after => ⟨ReflTransGen.trans reached after.1, after.2⟩)
    fun _ _ after => Path.after reached after

theorem rtbAckFirst_spec {ents : List RtbEntry} {s : Conn} (suffix : ents <:+ s.rtb.head) :
    wp (rtbAckFirst app largestAck minAck unprotected ents)
      (fun left t => Reaches sc s t ∧ left <:+ t.rtb.head) (fun e t => Fails sc e s t) s := by
  induction ents generalizing s with
  | nil => exact ⟨.refl, List.nil_suffix⟩
  | cons ent rest ih =>
    have skip : rest <:+ s.rtb.head := (List.suffix_cons ent rest).trans suffix
    unfold rtbAckFirst
    split
    · split
      · exact ih skip
      · exact rtbAckEntry_goes app suffix fun t stays => ih stays
    · exact ⟨.refl, suffix⟩

theorem rtbAckBlk_spec {ents : List RtbEntry} {s : Conn} (suffix : ents <:+ s.rtb.head) :
    wp (rtbAckBlk app largestAck minAck unprotected ents)
      (fun left t => Reaches sc s t ∧ left <:+ t.rtb.head) (fun e t => Fails sc e s t) s := by
  induction ents generalizing s with
  | nil => exact ⟨.refl, List.nil_suffix⟩
  | cons ent rest ih =>
    have skip : rest <:+ s.rtb.head := (List.suffix_cons ent rest).trans suffix
    unfold rtbAckBlk
    split
    · exact ih skip
    split
    · exact ⟨.refl, suffix⟩
    split
    · exact ih skip
    · exact rtbAckEntry_goes app suffix fun t stays => ih stays

theorem rtbAckBlks_goes (blks : List AckBlk) {ents : List RtbEntry} {s : Conn}
    (suffix : ents <:+ s.rtb.head) :
    Goes (Reaches sc) (Fails sc) (rtbAckBlks app minAck unprotected blks ents) s := by
  induction blks generalizing minAck ents s with
  | nil => exact .done _
  | cons blk rest ih =>
    unfold rtbAckBlks
    split
    · exact .done _
    · exact .seqWith (rtbAckBlk_spec app _ _ unprotected suffix) fun left t stays => ih _ stays

theorem ngtcp2RtbRecvAck_does (fr : Ack) : Does sc (ngtcp2RtbRecvAck app fr unprotected) := by
  intro s
  refine .got ?_
  dsimp only
  split
  · exact .done _
  · exact .seqWith (rtbAckFirst_spec app _ _ unprotected (List.dropWhile_suffix _))
      fun left t stays => rtbAckBlks_goes app _ unprotected fr.blks stays

end Ngtcp2
