import Ngtcp2.Lib.Packing
import Ngtcp2.Machine.Retransmit
import Ngtcp2.Recovery.AckFrame

/-!
# Retransmission of protected packets

`conn_retransmit_protected` writes the frames of a lost packet that are still wanted into a new one, as far as they fit.
-/

namespace Ngtcp2

open Prog

def lenOf : Except Err Nat → Nat
  | .ok n => n
  | .error _ => 0

def frameLen (fr : Frame) : Nat := lenOf (ngtcp2PktEncodeFrameLen fr)

def Frame.Sendable (fr : Frame) : Prop := ∃ n, ngtcp2PktEncodeFrameLen fr = .ok n

def Frame.isAck : Frame → Bool
  | .ack _ => true
  | _ => false

def Ppe.filled (ppe : Ppe) (frames : List Frame) : Ppe :=
  { ppe with len := ppe.len + total frameLen frames, frames := ppe.frames ++ frames }

theorem Ppe.filled_nil (ppe : Ppe) : ppe.filled [] = ppe := by
  simp [Ppe.filled]

theorem Ppe.filled_cons (ppe : Ppe) (fr : Frame) (frames : List Frame) :
    (ppe.filled [fr]).filled frames = ppe.filled (fr :: frames) := by
  simp [Ppe.filled, Nat.add_assoc]

def Ppe.used (ppe : Ppe) : Nat := ppe.len + ppe.aeadOverhead

theorem Ppe.used_filled (ppe : Ppe) (frames : List Frame) :
    (ppe.filled frames).used = ppe.used + total frameLen frames := by
  simp only [Ppe.used, Ppe.filled]
  omega

def Event.packet? : Event → Option (Nat × List Frame)
  | .encrypt _ pktNum frames => some (pktNum, frames)
  | _ => none

def packets (log : List Event) : List (Nat × List Frame) := log.filterMap Event.packet?

def Conn.outgoing (c : Conn) : Rtb × List (Nat × List Frame) := (c.rtb, packets c.log)

theorem Plain.outgoing {s t : Conn} (plain : Plain s t) : t.outgoing = s.outgoing := by
  obtain ⟨n, es, -, hidden, rfl⟩ := plain
  have none : es.filterMap Event.packet? = [] := by
    refine List.filterMap_eq_nil_iff.mpr fun e member => ?_
    have unseen := hidden e member
    cases e <;> first | rfl | cases unseen
  simp [Conn.outgoing, packets, none]

/-- The loop of `conn_retransmit_protected`: the frames that are written and those that are left, or nothing if it runs
over the end of the chain. -/
def resendFrames (dead : Frame → Bool) (space : Nat) (unchecked : Bool) (used : Nat) :
    List Frame → Option (List Frame × List Frame)
  | [] => if unchecked then none else some ([], [])
  | fr :: rest =>
    if !unchecked && dead fr then resendFrames dead space fr.isStopSending used rest
    else if used + frameLen fr ≤ space then
      (resendFrames dead space false (used + frameLen fr) rest).map fun (written, left) => (fr :: written, left)
    else some ([], fr :: rest)

section Loop

variable (app : App) {ppe : Ppe} {fr : Frame}

theorem connPpeWriteFrame_fits (callbacks : ∀ log e, app.ok log e = true) (sendable : fr.Sendable)
    (fits : ppe.used + frameLen fr ≤ ppe.outlen) (called : Bool) (hd : PktHd) (s : Conn) :
    ∃ t, connPpeWriteFrame app ppe called hd fr s = (.ok (ppe.filled [fr]), t) ∧ Plain s t := by
  obtain ⟨n, len⟩ := sendable
  have encoded : ngtcp2PpeEncodeFrame ppe fr = .ok (ppe.filled [fr]) := by
    simp only [Ppe.used, frameLen, len, lenOf] at fits
    unfold ngtcp2PpeEncodeFrame Ppe.bufLeft
    rw [if_neg (by omega), len]
    dsimp only
    rw [if_neg (by omega)]
    simp [Ppe.filled, frameLen, len, lenOf]
  have last (u : Conn) : (do connCall app (.sendFrame hd fr); pure (ppe.filled [fr]) : ConnM Ppe) u =
      (.ok (ppe.filled [fr]), u.emit (.sendFrame hd fr)) := bind_ok (connCall_succeeds (callbacks _ _))
  unfold connPpeWriteFrame
  rw [encoded]
  cases called with
  | true => exact ⟨_, last s, .emit s rfl⟩
  | false =>
    refine ⟨(s.emit (.sendPkt hd)).emit (.sendFrame hd fr), ?_, (Plain.emit s rfl).trans (.emit _ rfl)⟩
    exact (bind_ok (connCall_succeeds (callbacks _ _))).trans (last _)

theorem connPpeWriteFrame_full (sendable : fr.Sendable) (room : ppe.used ≤ ppe.outlen) (full : ppe.outlen < ppe.used + frameLen fr)
    (called : Bool) (hd : PktHd) (s : Conn) : connPpeWriteFrame app ppe called hd fr s = (.error .NOBUF, s) := by
  obtain ⟨n, len⟩ := sendable
  have refused : ngtcp2PpeEncodeFrame ppe fr = .error .NOBUF := by
    simp only [Ppe.used, frameLen, len, lenOf] at room full
    unfold ngtcp2PpeEncodeFrame Ppe.bufLeft
    split
    · rfl
    · rw [len]
      dsimp only
      rw [if_pos (by omega)]
  unfold connPpeWriteFrame
  rw [refused]
  rfl

theorem retransmitFrames_cons (hd : PktHd) (unchecked : Bool) (fr : Frame) (rest : List Frame) (called : Bool)
    (s : Conn) :
    retransmitFrames app hd unchecked (fr :: rest) ppe called s =
      (if !unchecked && obsoleteFrame s fr then retransmitFrames app hd fr.isStopSending rest ppe called
      else do
        match ← Prog.attempt (connPpeWriteFrame app ppe called hd fr) with
        | .ok ppe => do
          let (written, left, ppe) ← retransmitFrames app hd false rest ppe true
          pure (fr :: written, left, ppe)
        | .error .NOBUF => pure ([], fr :: rest, ppe)
        | .error e => throw e : ConnM (List Frame × List Frame × Ppe)) s := rfl

theorem retransmitFrames_run (callbacks : ∀ log e, app.ok log e = true) (hd : PktHd) {frc : List Frame}
    (sendable : ∀ fr ∈ frc, fr.Sendable) (room : ppe.used ≤ ppe.outlen) (unchecked called : Bool) (s : Conn) :
    match resendFrames (obsoleteFrame s) ppe.outlen unchecked ppe.used frc with
    | none => ∃ t, retransmitFrames app hd unchecked frc ppe called s = (.error .ABORT, t)
    | some (written, left) => ∃ t,
      retransmitFrames app hd unchecked frc ppe called s = (.ok (written, left, ppe.filled written), t) ∧ Plain s t := by
  induction frc generalizing ppe unchecked called s with
  | nil =>
    unfold resendFrames retransmitFrames
    cases unchecked with
    | true => exact ⟨s, rfl⟩
    | false => exact ⟨s, by rw [ppe.filled_nil]; rfl, .refl s⟩
  | cons fr rest ih =>
    have sendableRest := fun fr member => sendable fr (List.mem_cons_of_mem _ member)
    rw [retransmitFrames_cons, resendFrames]
    by_cases skipped : (!unchecked && obsoleteFrame s fr) = true
    · rw [if_pos skipped, if_pos skipped]
      exact ih sendableRest room fr.isStopSending called s
    · rw [if_neg skipped, if_neg skipped]
      have sendableFrame := sendable fr List.mem_cons_self
      by_cases fits : ppe.used + frameLen fr ≤ ppe.outlen
      · obtain ⟨t, wrote, plain⟩ := connPpeWriteFrame_fits app callbacks sendableFrame fits called hd s
        have attempted : Prog.attempt (connPpeWriteFrame app ppe called hd fr) s = (.ok (.ok (ppe.filled [fr])), t) := by
          simp only [Prog.attempt, wrote]
        have taken : (ppe.filled [fr]).used = ppe.used + frameLen fr := ppe.used_filled [fr]
        have later := @ih (ppe.filled [fr]) sendableRest (taken.le.trans fits) false true t
        have outlen : (ppe.filled [fr]).outlen = ppe.outlen := rfl
        rw [obsoleteFrame_plain plain, taken, outlen] at later
        rw [if_pos fits, bind_ok attempted]
        cases resent : resendFrames (obsoleteFrame s) ppe.outlen false (ppe.used + frameLen fr) rest with
        | none =>
          rw [resent] at later
          obtain ⟨u, run⟩ := later
          exact ⟨u, bind_error run⟩
        | some result =>
          rw [resent] at later
          obtain ⟨u, run, more⟩ := later
          rw [ppe.filled_cons] at run
          exact ⟨u, bind_ok run, plain.trans more⟩
      · have refused := connPpeWriteFrame_full app sendableFrame room (Nat.lt_of_not_le fits) called hd s
        have attempted : Prog.attempt (connPpeWriteFrame app ppe called hd fr) s = (.ok (.error .NOBUF), s) := by
          simp only [Prog.attempt, refused]
        rw [if_neg fits, bind_ok attempted]
        exact ⟨s, by rw [ppe.filled_nil]; rfl, .refl s⟩

end Loop

section Chain

variable (dead : Frame → Bool) (space : Nat)

/-- No obsolete STOP_SENDING frame that the loop comes to is the last one of the chain or stands in front of another
obsolete frame. The latter does no harm only if neither that frame nor the next one that is wanted fits. -/
def NoStray : Nat → List Frame → Prop
  | _, [] => True
  | used, fr :: rest =>
    if dead fr then
      if fr.isStopSending then
        match rest with
        | [] => False
        | next :: later =>
          if dead next then
            space < used + frameLen next ∧ ∀ y more, living dead later = y :: more → space < used + frameLen y
          else NoStray used rest
      else NoStray used rest
    else if used + frameLen fr ≤ space then NoStray (used + frameLen fr) rest
    else True

variable {dead space}

theorem resendFrames_live {fr : Frame} (live : dead fr = false) (unchecked : Bool) (used : Nat) (rest : List Frame) :
    resendFrames dead space unchecked used (fr :: rest) =
      if used + frameLen fr ≤ space then
        (resendFrames dead space false (used + frameLen fr) rest).map fun (written, left) => (fr :: written, left)
      else some ([], fr :: rest) := by
  rw [resendFrames, live, Bool.and_false]
  rfl

theorem resendFrames_dead {fr : Frame} (isDead : dead fr = true) (used : Nat) (rest : List Frame) :
    resendFrames dead space false used (fr :: rest) = resendFrames dead space fr.isStopSending used rest := by
  rw [resendFrames, isDead]
  rfl

theorem resendFrames_unchecked {fr : Frame} (used : Nat) (rest : List Frame) :
    resendFrames dead space true used (fr :: rest) =
      if used + frameLen fr ≤ space then
        (resendFrames dead space false (used + frameLen fr) rest).map fun (written, left) => (fr :: written, left)
      else some ([], fr :: rest) := rfl

theorem resendFrames_packs (used : Nat) (frc : List Frame) :
    (∃ written left, resendFrames dead space false used frc = some (written, left) ∧
      Packs frameLen dead used space frc written left) ↔ NoStray dead space used frc := by
  induction frc generalizing used with
  | nil => exact ⟨fun _ => trivial, fun _ => ⟨[], [], rfl, .nil⟩⟩
  | cons fr rest ih =>
    rw [NoStray.eq_def]
    dsimp only
    cases isDead : dead fr with
    | true =>
      rw [if_pos rfl]
      simp only [resendFrames_dead isDead, Packs.skip_iff isDead]
      cases stop : fr.isStopSending with
      | false => exact ih used
      | true =>
        rw [if_pos rfl]
        cases rest with
        | nil => simp [resendFrames]
        | cons next later =>
          dsimp only
          cases nextDead : dead next with
          | false =>
            rw [if_neg (by simp), ← ih used]
            simp only [resendFrames_live nextDead]
          | true =>
            rw [if_pos rfl]
            simp only [resendFrames_unchecked]
            by_cases fits : used + frameLen next ≤ space
            · -- the obsolete frame is written
              have wrong : ¬ space < used + frameLen next := Nat.not_lt.mpr fits
              simp only [if_pos fits, wrong, false_and, iff_false, not_exists, not_and]
              intro written left run
              obtain ⟨⟨written', left'⟩, -, same⟩ := Option.map_eq_some_iff.mp run
              cases same
              exact Packs.not_dead nextDead
            · simp only [if_neg fits, Nat.lt_of_not_le fits, true_and, Option.some_inj, Prod.mk.injEq]
              rw [← living_dead dead nextDead, ← Packs.stop_iff]
              constructor
              · rintro ⟨_, _, ⟨rfl, rfl⟩, packs⟩
                exact packs
              · exact fun packs => ⟨_, _, ⟨rfl, rfl⟩, packs⟩
    | false =>
      rw [if_neg (by simp)]
      simp only [resendFrames_live isDead]
      by_cases fits : used + frameLen fr ≤ space
      · rw [if_pos fits, if_pos fits, ← ih]
        constructor
        · rintro ⟨_, _, run, packs⟩
          obtain ⟨⟨written, left⟩, found, same⟩ := Option.map_eq_some_iff.mp run
          cases same
          exact ⟨written, left, found, (Packs.cons_iff isDead fits).mp packs⟩
        · rintro ⟨written, left, found, packs⟩
          exact ⟨fr :: written, left, by rw [found]; rfl, (Packs.cons_iff isDead fits).mpr packs⟩
      · rw [if_neg fits, if_neg fits]
        refine ⟨fun _ => trivial, fun _ => ⟨[], fr :: rest, rfl, Packs.stop_iff.mpr fun y more first => ?_⟩⟩
        rw [living_live dead isDead] at first
        cases first
        exact Nat.lt_of_not_le fits

theorem resendFrames_fits {used : Nat} {frc written left : List Frame} {unchecked : Bool} (room : used ≤ space)
    (run : resendFrames dead space unchecked used frc = some (written, left)) :
    used + total frameLen written ≤ space := by
  induction frc generalizing used written unchecked with
  | nil =>
    rw [resendFrames] at run
    split at run <;> cases run
    exact room
  | cons fr rest ih =>
    rw [resendFrames] at run
    split_ifs at run with skipped fits
    · exact ih room run
    · obtain ⟨⟨written', left'⟩, found, same⟩ := Option.map_eq_some_iff.mp run
      cases same
      rw [total_cons, ← Nat.add_assoc]
      exact ih fits found
    · cases run
      exact room

end Chain

section Tail

variable {app : App} {s : Conn}

structure Obliging (app : App) : Prop where
  callbacks : ∀ log e, app.ok log e = true
  encrypt : ∀ log n, (app.encrypt log n).isSome = true
  memory : ∀ n, app.malloc n = true

def Conn.AckSendable (c : Conn) (ts : Nat) : Prop :=
  ∀ e rest, c.acktr.ent = e :: rest →
    (Frame.ack (ackOfScan e.pktNum (sub64 ts e.tstamp / 2 ^ c.localSettings.ackDelayExponent)
      (ackScan false rest (AckScan.start e.pktNum)).1)).Sendable

theorem mallocs_outgoing (obliging : Obliging app) (n : Nat) (s : Conn) : Keeps Conn.outgoing (mallocs app n) s := by
  induction n generalizing s with
  | zero => exact .pure _
  | succ n ih => exact .bind (.run (malloc_succeeds (obliging.memory _)) rfl) fun _ t _ => ih t

theorem connCreateAckFrame_outgoing (obliging : Obliging app) (ts : Nat) (s : Conn) :
    Keeps Conn.outgoing (connCreateAckFrame app ts false) s := by
  refine .got ?_
  split
  · exact .bind (.modify rfl) fun _ _ _ => .pure _
  · refine .bind (.pure _) fun _ t _ => .got ?_
    split
    · exact .bind (.modify rfl) fun _ _ _ => .pure _
    · refine .bind (mallocs_outgoing obliging _ _) fun _ u _ => .bind ?_ fun _ _ _ => .pure _
      unfold connForgetAck
      split
      · exact .pure _
      · exact .modify rfl

theorem connCreateAckFrame_sendable {ts : Nat} {ack : Ack} {t : Conn} (sendable : s.AckSendable ts)
    (run : connCreateAckFrame app ts false s = (.ok (some ack), t)) : (Frame.ack ack).Sendable := by
  obtain ⟨e, rest, built⟩ := connCreateAckFrame_built run
  have found : s.acktr.ent = e :: rest := by
    have dropped := built.found
    simp only [Bool.false_and] at dropped
    cases ents : s.acktr.ent with
    | nil => simp [ents] at dropped
    | cons e' rest' => simpa [ents] using dropped
  rw [built.frame]
  exact sendable e rest found

theorem retransmitAck_run (obliging : Obliging app) {ts : Nat} (sendable : s.AckSendable ts) {ppe : Ppe}
    (room : ppe.used ≤ ppe.outlen) (expired : Bool) (hd : PktHd) :
    ∃ acks t, retransmitAck app expired hd ppe ts s = (.ok (ppe.filled acks), t) ∧ (∀ fr ∈ acks, fr.isAck = true) ∧
      t.outgoing = s.outgoing := by
  cases expired with
  | false => exact ⟨[], s, by rw [ppe.filled_nil]; rfl, by simp, rfl⟩
  | true =>
    obtain ⟨made, t, run, same⟩ := connCreateAckFrame_outgoing obliging ts s
    cases made with
    | none =>
      refine ⟨[], t, ?_, by simp, same⟩
      rw [ppe.filled_nil]
      exact bind_ok run
    | some ack =>
      have ackSendable := connCreateAckFrame_sendable sendable run
      by_cases fits : ppe.used + frameLen (.ack ack) ≤ ppe.outlen
      · obtain ⟨u, wrote, plain⟩ := connPpeWriteFrame_fits app obliging.callbacks ackSendable fits true hd t
        have attempted : Prog.attempt (connPpeWriteFrame app ppe true hd (.ack ack)) t =
            (.ok (.ok (ppe.filled [.ack ack])), u) := by
          simp only [Prog.attempt, wrote]
        refine ⟨[.ack ack], _, (bind_ok run).trans (bind_ok attempted), by simp [Frame.isAck], ?_⟩
        exact plain.outgoing.trans same
      · have refused := connPpeWriteFrame_full app ackSendable room (Nat.lt_of_not_le fits) true hd t
        have attempted : Prog.attempt (connPpeWriteFrame app ppe true hd (.ack ack)) t = (.ok (.error .NOBUF), t) := by
          simp only [Prog.attempt, refused]
        refine ⟨[], t, ?_, by simp, same⟩
        rw [ppe.filled_nil]
        exact (bind_ok run).trans (bind_ok attempted)

theorem ngtcp2PpeFinal_run (obliging : Obliging app) (ppe : Ppe) {ckm : CryptoKm} (key : ppe.ckm = some ckm)
    (header : 0 < ppe.hdlen) (s : Conn) :
    ∃ n t, ngtcp2PpeFinal app ppe s = (.ok n, t) ∧ 0 < n ∧ t.rtb = s.rtb ∧
      packets t.log = packets s.log ++ [(ppe.pktNum, ppe.frames)] := by
  obtain ⟨len, encrypted⟩ := Option.isSome_iff_exists.mp (obliging.encrypt s.log (ppe.len - ppe.hdlen))
  refine ⟨ppe.hdlen + len, s.emit (.encrypt ckm ppe.pktNum ppe.frames), ?_, by omega, rfl, ?_⟩
  · unfold ngtcp2PpeFinal
    rw [key]
    dsimp only
    rw [Prog.get_bind, encrypted]
    rfl
  · simp [packets, Conn.emit, Event.packet?]

theorem connRtbAdd_run (obliging : Obliging app) (ent : RtbEntry) (s : Conn) :
    ∃ t, connRtbAdd app ent s = (.ok (), t) ∧ t.rtb = ngtcp2RtbAdd s.rtb ent ∧ t.log = s.log := by
  change ∃ t, (if pqFull s.rtb.pq then _ else _ : ConnM Unit) s = _ ∧ _
  split
  · exact ⟨_, bind_ok (malloc_succeeds (obliging.memory _)), rfl, rfl⟩
  · exact ⟨_, rfl, rfl, rfl⟩

theorem connSplitEntry_run (obliging : Obliging app) (ent : RtbEntry) (hd : PktHd) (written left : List Frame)
    (nwrite ts : Nat) (s : Conn) :
    ∃ nent t, connSplitEntry app ent hd written left nwrite ts false s = (.ok { ent with frc := left }, t) ∧
      nent.hd = hd ∧ nent.frc = written ∧ t.rtb = ngtcp2RtbAdd s.rtb nent ∧ packets t.log = packets s.log := by
  let start := s.emit (.mark .splitEntry)
  have made : connRtbEntryNew app hd [] ts ent.deadline nwrite false start =
      (.ok (ngtcp2RtbEntryNew start.nalloc hd [] ts ent.deadline nwrite false),
        { start with nalloc := start.nalloc + 1 }) :=
    bind_ok (malloc_succeeds (obliging.memory _))
  let nent : RtbEntry :=
    { ngtcp2RtbEntryExtendExpiry
        { ngtcp2RtbEntryNew start.nalloc hd [] ts ent.deadline nwrite false with count := ent.count } ts with
      frc := written }
  obtain ⟨t, added, tracked, log⟩ := connRtbAdd_run obliging nent { start with nalloc := start.nalloc + 1 }
  refine ⟨nent, t, (bind_ok (connMark_run _ _)).trans ((bind_ok made).trans (bind_ok added)), rfl, rfl, tracked, ?_⟩
  rw [log]
  simp [start, packets, Conn.emit, Event.packet?]

end Tail

section Whole

variable (app : App) (destlen ts : Nat) (ent : RtbEntry) (s : Conn)

def resendHd : PktHd :=
  { ent.hd with
    version := s.version
    connId := s.connId
    pktNum := add64 s.lastTxPktNum 1
    type := connSelectPktType s (add64 s.lastTxPktNum 1) }

def resendUsed : Nat := lenOf (ngtcp2PktEncodeHdLen (resendHd ent s)) + s.aeadOverhead

/-- Where the frames of the entry are after they have been written or left: `result` is what the caller is told, and
`ent'` is the entry that it goes on with. -/
structure Tracks (written left : List Frame) (result : Option Nat) (ent' : RtbEntry) (t : Conn) : Prop where
  idle : written = [] → (result = none ∨ result = some 0 ∧ left = []) ∧ ent' = { ent with frc := left } ∧
    t.outgoing = s.outgoing
  sent : written ≠ [] → (∃ n, result = some n ∧ 0 < n) ∧
    ∃ acks, (∀ fr ∈ acks, fr.isAck = true) ∧
      packets t.log = packets s.log ++ [((resendHd ent s).pktNum, written ++ acks)]
  whole : written ≠ [] → left = [] → ent'.hd = resendHd ent s ∧ ent'.frc = written ∧ t.rtb = s.rtb
  parted : written ≠ [] → left ≠ [] → ent' = { ent with frc := left } ∧
    ∃ nent, nent.hd = resendHd ent s ∧ nent.frc = written ∧ t.rtb = ngtcp2RtbAdd s.rtb nent

def Resends : Prop :=
  ∃ written left result ent' t, connRetransmitProtected app destlen ent ts s = (.ok (result, ent'), t) ∧
    Packs frameLen (obsoleteFrame s) (resendUsed ent s) destlen ent.frc written left ∧
    Tracks ent s written left result ent' t

variable {app destlen ts ent s}

theorem Tracks.unique {written left written' left' : List Frame} {result : Option Nat} {ent' : RtbEntry} {t : Conn}
    (tracks : Tracks ent s written left result ent' t) (tracks' : Tracks ent s written' left' result ent' t) :
    written = written' ∧ left = left' := by
  have grows (nent : RtbEntry) : ngtcp2RtbAdd s.rtb nent ≠ s.rtb := fun same => by
    have length := congrArg (fun rtb => rtb.head.length) same
    simp [ngtcp2RtbAdd] at length
  by_cases empty : written = []
  · obtain ⟨told, kept, -⟩ := tracks.idle empty
    by_cases empty' : written' = []
    · obtain ⟨-, kept', -⟩ := tracks'.idle empty'
      exact ⟨empty.trans empty'.symm, congrArg RtbEntry.frc (kept.symm.trans kept')⟩
    · obtain ⟨⟨n, told', positive⟩, -⟩ := tracks'.sent empty'
      rcases told with told | ⟨told, -⟩ <;> rw [told'] at told <;> cases told
      cases positive
  · obtain ⟨⟨n, told, positive⟩, -⟩ := tracks.sent empty
    have empty' : written' ≠ [] := by
      intro empty'
      obtain ⟨told' | ⟨told', -⟩, -⟩ := tracks'.idle empty' <;> rw [told] at told' <;> cases told'
      cases positive
    by_cases all : left = []
    · obtain ⟨-, frames, kept⟩ := tracks.whole empty all
      by_cases all' : left' = []
      · obtain ⟨-, frames', -⟩ := tracks'.whole empty' all'
        exact ⟨frames.symm.trans frames', all.trans all'.symm⟩
      · obtain ⟨-, nent, -, -, added⟩ := tracks'.parted empty' all'
        exact absurd (added.symm.trans kept) (grows nent)
    · obtain ⟨entry, nent, -, frames, added⟩ := tracks.parted empty all
      by_cases all' : left' = []
      · obtain ⟨-, -, kept⟩ := tracks'.whole empty' all'
        exact absurd (added.symm.trans kept) (grows nent)
      · obtain ⟨entry', nent', -, frames', added'⟩ := tracks'.parted empty' all'
        have same : nent = nent' := (List.cons.inj (congrArg Rtb.head (added.symm.trans added'))).1
        exact ⟨frames.symm.trans (same ▸ frames'), congrArg RtbEntry.frc (entry.symm.trans entry')⟩

theorem resendHd_len (ent : RtbEntry) (s : Conn) : ∃ n, ngtcp2PktEncodeHdLen (resendHd ent s) = .ok n ∧ 0 < n := by
  unfold ngtcp2PktEncodeHdLen
  split
  · exact ⟨_, rfl, by decide⟩
  · rcases connSelectPktType_short s (add64 s.lastTxPktNum 1) with type | type | type <;>
      simp [resendHd, type]

def resendRest (app : App) (ts : Nat) (ent : RtbEntry) (s : Conn) (r : List Frame × List Frame × Ppe) :
    ConnM (Option Nat × RtbEntry) :=
  if r.1 = [] then
    if r.2.1 = [] then pure (some 0, { ent with frc := [] })
    else pure (none, { ent with frc := r.2.1 })
  else do
    let ppe ← retransmitAck app (connNextAckExpired s ts) (resendHd ent s) r.2.2 ts
    let nwrite ← ngtcp2PpeFinal app ppe
    if r.2.1 = [] then do
      incLastTxPktNum
      pure (some nwrite, ngtcp2RtbEntryExtendExpiry { ent with hd := resendHd ent s, frc := r.1 } ts)
    else do
      let ent ← connSplitEntry app ent (resendHd ent s) r.1 r.2.1 nwrite ts false
      incLastTxPktNum
      pure (some nwrite, ent)

theorem connRetransmitProtected_start :
    connRetransmitProtected app destlen ent ts s =
      (match ngtcp2PpeEncodeHd (ngtcp2PpeInit destlen s.aeadOverhead s.txCkm) (resendHd ent s) with
      | .error .NOBUF => pure (none, ent)
      | .error e => throw e
      | .ok ppe => retransmitFrames app (resendHd ent s) false ent.frc ppe false >>= resendRest app ts ent s :
        ConnM (Option Nat × RtbEntry)) s := rfl

theorem connRetransmitProtected_full (full : destlen < resendUsed ent s) :
    connRetransmitProtected app destlen ent ts s = (.ok (none, ent), s) := by
  obtain ⟨n, len, -⟩ := resendHd_len ent s
  have refused : ngtcp2PpeEncodeHd (ngtcp2PpeInit destlen s.aeadOverhead s.txCkm) (resendHd ent s) = .error .NOBUF := by
    simp only [resendUsed, len, lenOf] at full
    unfold ngtcp2PpeEncodeHd Ppe.bufLeft ngtcp2PpeInit
    dsimp only
    split
    · rfl
    · rw [len]
      dsimp only
      rw [if_pos (by omega)]
  rw [connRetransmitProtected_start, refused]
  rfl

def resendPpe (destlen : Nat) (ent : RtbEntry) (s : Conn) : Ppe :=
  { ngtcp2PpeInit destlen s.aeadOverhead s.txCkm with
    len := lenOf (ngtcp2PktEncodeHdLen (resendHd ent s))
    hdlen := lenOf (ngtcp2PktEncodeHdLen (resendHd ent s))
    pktNum := (resendHd ent s).pktNum }

theorem connRetransmitProtected_eq (room : resendUsed ent s ≤ destlen) :
    connRetransmitProtected app destlen ent ts s =
      (retransmitFrames app (resendHd ent s) false ent.frc (resendPpe destlen ent s) false >>= resendRest app ts ent s) s := by
  obtain ⟨n, len, positive⟩ := resendHd_len ent s
  have encoded : ngtcp2PpeEncodeHd (ngtcp2PpeInit destlen s.aeadOverhead s.txCkm) (resendHd ent s) =
      .ok (resendPpe destlen ent s) := by
    simp only [resendUsed, len, lenOf] at room
    unfold ngtcp2PpeEncodeHd Ppe.bufLeft resendPpe ngtcp2PpeInit
    dsimp only
    rw [if_neg (by omega), len]
    dsimp only [lenOf]
    rw [if_neg (by omega), Nat.zero_add]
  rw [connRetransmitProtected_start, encoded]

theorem resendRest_tracks (obliging : Obliging app) {ckm : CryptoKm} (key : s.txCkm = some ckm)
    (sendable : s.AckSendable ts) {written left : List Frame} {t : Conn} (plain : Plain s t)
    (room : ((resendPpe destlen ent s).filled written).used ≤ destlen) :
    ∃ result ent' u,
      resendRest app ts ent s (written, left, (resendPpe destlen ent s).filled written) t = (.ok (result, ent'), u) ∧
      Tracks ent s written left result ent' u := by
  by_cases empty : written = []
  · unfold resendRest
    rw [if_pos empty]
    by_cases all : left = []
    · rw [if_pos all]
      refine ⟨_, _, t, rfl, ⟨fun _ => ⟨.inr ⟨rfl, all⟩, by rw [all], plain.outgoing⟩, ?_, ?_, ?_⟩⟩
      · exact fun some_ => absurd empty some_
      · exact fun some_ => absurd empty some_
      · exact fun some_ => absurd empty some_
    · rw [if_neg all]
      refine ⟨_, _, t, rfl, ⟨fun _ => ⟨.inl rfl, rfl, plain.outgoing⟩, ?_, ?_, ?_⟩⟩
      · exact fun some_ => absurd empty some_
      · exact fun some_ => absurd empty some_
      · exact fun some_ => absurd empty some_
  · have ackSendable : t.AckSendable ts := by
      obtain ⟨n, es, -, -, rfl⟩ := plain
      exact sendable
    obtain ⟨acks, u, acked, areAcks, same⟩ := retransmitAck_run obliging ackSendable room
      (connNextAckExpired s ts) (resendHd ent s)
    obtain ⟨hdlen, len, positive⟩ := resendHd_len ent s
    have header : 0 < (((resendPpe destlen ent s).filled written).filled acks).hdlen := by
      change 0 < lenOf (ngtcp2PktEncodeHdLen (resendHd ent s))
      rwa [len]
    obtain ⟨n, v, final, positive, tracked, sent⟩ := ngtcp2PpeFinal_run obliging
      (((resendPpe destlen ent s).filled written).filled acks) key header u
    obtain ⟨untracked, unsent⟩ : u.rtb = s.rtb ∧ packets u.log = packets s.log :=
      Prod.mk.inj (same.trans plain.outgoing)
    have frames : packets v.log = packets s.log ++ [((resendHd ent s).pktNum, written ++ acks)] := by
      rw [sent, unsent]
      rfl
    unfold resendRest
    rw [if_neg empty, bind_ok acked, bind_ok final]
    by_cases all : left = []
    · rw [if_pos all]
      refine ⟨_, _, _, rfl, ?_, ?_, ?_, ?_⟩
      · exact fun none => absurd none empty
      · exact fun _ => ⟨⟨n, rfl, positive⟩, acks, areAcks, frames⟩
      · exact fun _ _ => ⟨rfl, rfl, tracked.trans untracked⟩
      · exact fun _ some_ => absurd all some_
    · obtain ⟨nent, w, splits, hd, frc, added, quiet⟩ :=
        connSplitEntry_run obliging ent (resendHd ent s) written left n ts v
      rw [if_neg all, bind_ok splits]
      refine ⟨_, _, _, rfl, ?_, ?_, ?_, ?_⟩
      · exact fun none => absurd none empty
      · exact fun _ => ⟨⟨n, rfl, positive⟩, acks, areAcks, quiet.trans frames⟩
      · exact fun _ none => absurd none all
      · exact fun _ _ => ⟨rfl, nent, hd, frc, by rw [← untracked, ← tracked]; exact added⟩

theorem connRetransmitProtected_runs (obliging : Obliging app) {ckm : CryptoKm} (key : s.txCkm = some ckm)
    (sendable : s.AckSendable ts) (frames : ∀ fr ∈ ent.frc, fr.Sendable) (room : resendUsed ent s ≤ destlen) :
    match resendFrames (obsoleteFrame s) destlen false (resendUsed ent s) ent.frc with
    | none => ∃ t, connRetransmitProtected app destlen ent ts s = (.error .ABORT, t)
    | some (written, left) => ∃ result ent' t,
      connRetransmitProtected app destlen ent ts s = (.ok (result, ent'), t) ∧ Tracks ent s written left result ent' t := by
  have loop := @retransmitFrames_run app (resendPpe destlen ent s) obliging.callbacks (resendHd ent s) ent.frc frames
    room false false s
  rw [connRetransmitProtected_eq room]
  change match resendFrames (obsoleteFrame s) destlen false (resendUsed ent s) ent.frc with
    | none => _ | some (written, left) => _ at loop
  cases resent : resendFrames (obsoleteFrame s) destlen false (resendUsed ent s) ent.frc with
  | none =>
    rw [resent] at loop
    obtain ⟨t, run⟩ := loop
    exact ⟨t, bind_error run⟩
  | some r =>
    rw [resent] at loop
    obtain ⟨t, run, plain⟩ := loop
    have fits := resendFrames_fits room resent
    rw [bind_ok run]
    exact resendRest_tracks obliging key sendable plain ((Ppe.used_filled _ _).le.trans fits)

theorem resends_iff (obliging : Obliging app) {ckm : CryptoKm} (key : s.txCkm = some ckm)
    (sendable : s.AckSendable ts) (frames : ∀ fr ∈ ent.frc, fr.Sendable) :
    Resends app destlen ts ent s ↔
      (resendUsed ent s ≤ destlen → NoStray (obsoleteFrame s) destlen (resendUsed ent s) ent.frc) := by
  by_cases room : resendUsed ent s ≤ destlen
  · have outcome := connRetransmitProtected_runs obliging key sendable frames room
    rw [← resendFrames_packs]
    cases resent : resendFrames (obsoleteFrame s) destlen false (resendUsed ent s) ent.frc with
    | none =>
      rw [resent] at outcome
      obtain ⟨t, aborted⟩ := outcome
      constructor
      · rintro ⟨written, left, result, ent', u, run, -⟩
        rw [aborted] at run
        cases run
      · intro packed
        obtain ⟨_, _, impossible, -⟩ := packed room
        cases impossible
    | some r =>
      rw [resent] at outcome
      obtain ⟨result, ent', t, run, tracks⟩ := outcome
      constructor
      · rintro ⟨written, left, _, _, _, run', packs, tracks'⟩ -
        rw [run] at run'
        cases run'
        obtain ⟨rfl, rfl⟩ := tracks.unique tracks'
        exact ⟨_, _, rfl, packs⟩
      · intro packed
        obtain ⟨written, left, same, packs⟩ := packed room
        cases same
        exact ⟨_, _, result, ent', t, run, packs, tracks⟩
  · have full := Nat.lt_of_not_le room
    refine ⟨fun _ fits => absurd fits room, fun _ => ⟨[], ent.frc, none, ent, s, connRetransmitProtected_full full, ?_, ?_⟩⟩
    · exact Packs.stop_iff.mpr fun y more _ => Nat.lt_of_lt_of_le full (Nat.le_add_right _ _)
    · refine ⟨fun _ => ⟨.inl rfl, rfl, rfl⟩, ?_, ?_, ?_⟩
      · exact fun some_ => absurd rfl some_
      · exact fun some_ => absurd rfl some_
      · exact fun some_ => absurd rfl some_

structure Due (s₀ : Conn) (ent : RtbEntry) (ts : Nat) (s : Conn) : Prop where
  top : ngtcp2RtbTop s₀.rtb = some ent
  expired : ent.expiry ≤ ts
  alive : ts < ent.deadline
  short : ent.hd.longForm = false ∧ (ent.hd.type = .PKT_01 ∨ ent.hd.type = .PKT_02 ∨ ent.hd.type = .PKT_03)
  popped : ∃ rtb, ngtcp2RtbPop s₀.rtb = .ok rtb ∧ s = { s₀ with rtb := rtb }

def resendRound (app : App) (destlen ts rounds : Nat) : Option Nat × RtbEntry → ConnM Nat
  | (none, ent) => do
    connMarkEntry (.readdEntry ent.hd.pktNum)
    connRtbReadd app ent
    throw .NOBUF
  | (some nwrite, ent) =>
    if nwrite = 0 then connRetransmitLoop app destlen ts rounds
    else if ent.frc = [] then pure nwrite
    else do
      connRtbReadd app { ent with pktlen := nwrite }
      pure nwrite

theorem connRetransmitLoop_succ (s₀ : Conn) (rounds : Nat) :
    connRetransmitLoop app destlen ts (rounds + 1) s₀ = (match ngtcp2RtbTop s₀.rtb with
    | none => pure 0
    | some ent =>
      if ent.expiry > ts then pure 0
      else do
        let rtb ← Prog.ofExcept (ngtcp2RtbPop s₀.rtb)
        modify fun c => { c with rtb := rtb }
        if ent.deadline ≤ ts then throw .PKT_TIMEOUT
        else connRetransmitEntry app destlen ent ts >>= resendRound app destlen ts rounds : ConnM Nat) s₀ := rfl

theorem Due.round {s₀ : Conn} (due : Due s₀ ent ts s) (rounds : Nat) :
    connRetransmitLoop app destlen ts (rounds + 1) s₀ =
      (connRetransmitProtected app destlen ent ts >>= resendRound app destlen ts rounds) s := by
  obtain ⟨rtb, popped, rfl⟩ := due.popped
  rw [connRetransmitLoop_succ, due.top]
  dsimp only
  rw [if_neg (Nat.not_lt.mpr due.expired), popped]
  change (if ent.deadline ≤ ts then throw .PKT_TIMEOUT
    else connRetransmitEntry app destlen ent ts >>= resendRound app destlen ts rounds : ConnM Nat)
      { s₀ with rtb := rtb } = _
  rw [if_neg (Nat.not_le.mpr due.alive)]
  have entry : connRetransmitEntry app destlen ent ts { s₀ with rtb := rtb } =
      connRetransmitProtected app destlen ent ts { s₀ with rtb := rtb } := by
    change (if ent.hd.longForm then _ else _ : ConnM (Option Nat × RtbEntry)) _ = _
    rw [due.short.1]
    rcases due.short.2 with type | type | type <;> rw [type] <;> rfl
  change Prog.bind _ _ _ = Prog.bind _ _ _
  simp only [Prog.bind, entry]

theorem connRtbReadd_run (obliging : Obliging app) (ent : RtbEntry) (s : Conn) :
    ∃ t, connRtbReadd app ent s = (.ok (), t) ∧ t.rtb = ngtcp2RtbAdd s.rtb ent := by
  obtain ⟨t, added, tracked, -⟩ := connRtbAdd_run obliging ent s
  have attempted : Prog.attempt (connRtbAdd app ent) s = (.ok (.ok ()), t) := by
    simp only [Prog.attempt, added]
  exact ⟨t, bind_ok attempted, tracked⟩

theorem Due.requeued {s₀ : Conn} (due : Due s₀ ent ts s) (obliging : Obliging app) {result : Option Nat} {ent' : RtbEntry}
    {t : Conn} (run : connRetransmitProtected app destlen ent ts s = (.ok (result, ent'), t)) (went : result ≠ some 0)
    (holds : ent'.frc ≠ []) (rounds : Nat) :
    ∃ r u e, connRetransmitLoop app destlen ts (rounds + 1) s₀ = (r, u) ∧ e.hd = ent'.hd ∧ e.frc = ent'.frc ∧
      u.rtb = ngtcp2RtbAdd t.rtb e := by
  rw [due.round, bind_ok run]
  cases result with
  | none =>
    obtain ⟨u, added, tracked⟩ := connRtbReadd_run obliging ent'
      (t.emit (.mark (.readdEntry ent'.hd.pktNum (t.rtb.head.head?.map fun ent => ent.hd.pktNum))))
    exact ⟨_, u, ent', (bind_ok rfl).trans (bind_ok added), rfl, rfl, tracked⟩
  | some n =>
    have positive : n ≠ 0 := fun zero => went (by rw [zero])
    obtain ⟨u, added, tracked⟩ := connRtbReadd_run obliging { ent' with pktlen := n } t
    refine ⟨.ok n, u, { ent' with pktlen := n }, ?_, rfl, rfl, tracked⟩
    change (if n = 0 then _ else if ent'.frc = [] then _ else _ : ConnM Nat) t = _
    rw [if_neg positive, if_neg holds]
    exact bind_ok added

end Whole

/-- The live frames and only those are sent again exactly if no obsolete STOP_SENDING frame leads the loop
astray. -/
theorem retransmission_iff (app : App) (destlen ts : Nat) (ent : RtbEntry) (s : Conn) (obliging : Obliging app)
    (ckm : CryptoKm) (key : s.txCkm = some ckm) (sendable : s.AckSendable ts) (frames : ∀ fr ∈ ent.frc, fr.Sendable) :
    (Resends app destlen ts ent s ↔
      (resendUsed ent s ≤ destlen → NoStray (obsoleteFrame s) destlen (resendUsed ent s) ent.frc)) ∧
    ∀ s₀ result ent' t rounds, Due s₀ ent ts s →
      connRetransmitProtected app destlen ent ts s = (.ok (result, ent'), t) → result ≠ some 0 → ent'.frc ≠ [] →
      ∃ r u e, connRetransmitLoop app destlen ts (rounds + 1) s₀ = (r, u) ∧ e.hd = ent'.hd ∧ e.frc = ent'.frc ∧
        u.rtb = ngtcp2RtbAdd t.rtb e := by
  refine ⟨resends_iff obliging key sendable frames, ?_⟩
  intro s₀ result ent' t rounds due run went holds
  exact due.requeued obliging run went holds rounds

def keyedConn : Conn := { trackingConn [] with txCkm := some ⟨[1], [2]⟩ }

def lostEntry (frc : List Frame) : RtbEntry :=
  ngtcp2RtbEntryNew 0 { connShortHd keyedConn with pktNum := 3 } frc 0 100 60 false

theorem quiet_obliging : Obliging App.quiet := ⟨fun _ _ => rfl, fun _ _ => rfl, fun _ => rfl⟩

theorem retransmission_iff_wanted :
    Resends App.quiet 1200 1 (lostEntry [.maxData 7, .stopSending ⟨4, 0⟩, .ping []]) keyedConn := by
  refine (retransmission_iff App.quiet 1200 1 _ keyedConn quiet_obliging _ rfl ?_ ?_).1.mpr fun _ => trivial
  · exact fun e rest none => by cases none
  · intro fr member
    simp only [lostEntry, ngtcp2RtbEntryNew, List.mem_cons, List.not_mem_nil, or_false] at member
    rcases member with rfl | rfl | rfl
    · exact ⟨_, rfl⟩
    · exact ⟨_, rfl⟩
    · exact ⟨_, rfl⟩

/-- A STOP_SENDING frame for a stream that has been closed, at the end of a chain and in front of an obsolete frame. -/
theorem retransmission_astray :
    (connRetransmitProtected App.quiet 1200 (lostEntry [.stopSending ⟨4, 0⟩]) 1 keyedConn).1 = .error .ABORT ∧
      obsoleteFrame keyedConn (.maxStreamData ⟨8, 5⟩) = true ∧
      packets (connRetransmitProtected App.quiet 1200 (lostEntry [.stopSending ⟨4, 0⟩, .maxStreamData ⟨8, 5⟩]) 1
        keyedConn).2.log = [(1, [.maxStreamData ⟨8, 5⟩])] := by
  decide +kernel

end Ngtcp2
