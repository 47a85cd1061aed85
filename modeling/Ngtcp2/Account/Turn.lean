import Ngtcp2.Account.Course
import Ngtcp2.Account.Writes
import Ngtcp2.System

/-!
# What a call does to an outline
-/

namespace Ngtcp2

open Prog Relation

def Call.frame? : Call → Option Frame
  | .frame fr => some fr
  | _ => none

def Call.shuts : Call → Option (Nat × Nat)
  | .shutdownStream id code | .shutdownStreamWrite id code | .shutdownStreamRead id code => some (id, code)
  | _ => none

def Doing.frame? : Doing → Option Frame
  | .frame fr => some fr
  | _ => none

inductive Turn (call : Call) (s : Conn) (p : Outline) : Prop
  | deeds (d : Doing) (frame : d.frame? = call.frame?) (deeds : ReflTransGen (Deed d) s.outline p)
  | raised (n : Nat) (frame : call.frame? = some (.maxStreamId n)) (raised : p = s.outline.raise n)
  | course (frame : call.frame? = none) (course : ReflTransGen (Course s.state.Completes) s.outline p)

section

variable (app : App) {s : Conn} {call : Call}

theorem Takes.turn {m : ConnM Nat} {d : Doing} (takes : Takes d m) (frame : d.frame? = call.frame?) (s : Conn) :
    wp m (fun _ t => Turn call s t.outline) (fun _ t => Turn call s t.outline) s :=
  wp_mono (takes s) (fun _ _ deeds => .deeds d frame deeds) fun _ _ deeds => .deeds d frame deeds

theorem Frame.Handled.turn {fr : Frame} {p : Outline} (handled : fr.Handled s.outline p) : Turn (.frame fr) s p := by
  cases fr with
  | maxStreamId n => exact .raised n rfl handled
  | _ => exact .deeds (.frame _) rfl handled

theorem Call.exec_turn (plain : call.shuts = none) (s : Conn) :
    wp (call.exec app) (fun _ t => Turn call s t.outline) (fun _ t => Turn call s t.outline) s := by
  cases call with
  | recv pkt ts =>
    change wp (ngtcp2ConnRecv app pkt ts >>= fun _ => pure 0) _ _ s
    rw [wp_bind]
    exact wp_mono (ngtcp2ConnRecv_course app pkt ts s) (fun _ _ course => .course rfl course) fun _ _ course =>
      .course rfl course
  | frame fr =>
    change wp (recvFrame app fr >>= fun _ => pure 0) _ _ s
    rw [wp_bind]
    exact wp_mono (recvFrame_handles app fr s) (fun _ _ handled => handled.turn) fun _ _ handled => handled.turn
  | writePkt destlen ts => exact (ngtcp2ConnWritePkt_deeds app destlen ts).turn rfl s
  | writeAckPkt destlen ts => exact (ngtcp2ConnWriteAckPkt_deeds app destlen ts).turn rfl s
  | writeStream destlen id fin data ts =>
    have takes : Takes .write ((Call.writeStream destlen id fin data ts).exec app) :=
      .bind (ngtcp2ConnWriteStream_deeds app destlen id fin data ts) fun _ => .pure _
    exact takes.turn rfl s
  | writeConnectionClose destlen code => exact (ngtcp2ConnWriteConnectionClose_deeds app destlen code).turn rfl s
  | writeApplicationClose destlen code => exact (ngtcp2ConnWriteApplicationClose_deeds app destlen code).turn rfl s
  | openBidiStream =>
    have takes : Takes .opening (Call.openBidiStream.exec app) :=
      .bind (ngtcp2ConnOpenBidiStream_deeds app) fun _ => .pure _
    exact takes.turn rfl s
  | openUniStream =>
    have takes : Takes .opening (Call.openUniStream.exec app) :=
      .bind (ngtcp2ConnOpenUniStream_deeds app) fun _ => .pure _
    exact takes.turn rfl s
  | shutdownStream | shutdownStreamWrite | shutdownStreamRead => cases plain
  | extendMaxStreamOffset id datalen =>
    have extended : Takes .idle (ngtcp2ConnExtendMaxStreamOffset id datalen.toNat) := by
      refine .bind (ngtcp2ConnFindStream_deeds id) fun found => ?_
      split
      · exact .throw _
      · exact connExtendMaxStreamOffset_deeds id _
    have takes : Takes .idle ((Call.extendMaxStreamOffset id datalen).exec app) := .bind extended fun _ => .pure _
    exact takes.turn rfl s
  | extendMaxOffset datalen =>
    have extended : Takes .idle (ngtcp2ConnExtendMaxOffset datalen.toNat) := by
      refine .still fun c => ?_
      split <;> rfl
    have takes : Takes .idle ((Call.extendMaxOffset datalen).exec app) := .bind extended fun _ => .pure _
    exact takes.turn rfl s
  | tls call =>
    have takes : Takes .idle ((Call.tls call).exec app) := .bind (tlsCall_deeds call) fun _ => .pure _
    exact takes.turn rfl s

end

end Ngtcp2
