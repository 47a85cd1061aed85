import Ngtcp2.Machine.Retransmit

/-!
# What a failed write leaves behind

Callbacks and allocations leave traces in the log and in the count of allocations only.
-/

namespace Ngtcp2

open Prog

def Noted (s t : Conn) : Prop := ∃ n log, t = { s with nalloc := n, log := log }

namespace Noted

variable {s t u : Conn}

theorem refl (s : Conn) : Noted s s := ⟨s.nalloc, s.log, rfl⟩

theorem trans (first : Noted s t) (second : Noted t u) : Noted s u := by
  obtain ⟨n, log, rfl⟩ := first
  obtain ⟨m, log', rfl⟩ := second
  exact ⟨m, log', rfl⟩

theorem emit (s : Conn) (e : Event) : Noted s (s.emit e) := ⟨s.nalloc, s.log ++ [e], rfl⟩

theorem alloc (s : Conn) (n : Nat) : Noted s { s with nalloc := n } := ⟨n, s.log, rfl⟩

end Noted

instance : Path Noted (fun _ : Err => Noted) where
  refl := Noted.refl
  trans := Noted.trans
  stop := id
  after := Noted.trans

def Notes {α : Type} (m : ConnM α) : Prop := ∀ s, Goes Noted (fun _ => Noted) m s

section

variable (app : App)

theorem connCall_notes (e : Event) : Notes (connCall app e) := by
  intro s
  change wp (if app.ok s.log e then pure () else throw .CALLBACK_FAILURE : ConnM Unit) _ _ (s.emit e)
  split <;> exact .emit s e

theorem malloc_notes : Notes (malloc app) := by
  intro s
  change wp (if app.malloc s.nalloc then pure s.nalloc else throw .NOMEM : ConnM Nat) _ _
    { s with nalloc := s.nalloc + 1 }
  split <;> exact .alloc s _

theorem ngtcp2PpeFinal_notes (ppe : Ppe) : Notes (ngtcp2PpeFinal app ppe) := by
  intro s
  unfold ngtcp2PpeFinal
  cases ppe.ckm with
  | none => exact Noted.refl s
  | some ckm =>
    dsimp only
    rw [Prog.Goes, wp_bind, wp_get, wp_bind, emitEvent, wp_modify]
    split <;> exact .emit s _

theorem connRtbEntryNew_notes (hd : PktHd) (frc : List Frame) (ts deadline pktlen : Nat) (unprotected : Bool)
    (s : Conn) :
    wp (connRtbEntryNew app hd frc ts deadline pktlen unprotected)
      (fun ent t => ent = ngtcp2RtbEntryNew s.nalloc hd frc ts deadline pktlen unprotected ∧ Noted s t)
      (fun _ t => Noted s t) s := by
  unfold connRtbEntryNew
  rw [wp_bind]
  refine wp_intro (fun _ t run => ?_) fun _ _ run => (malloc_notes app s).stopped run
  obtain ⟨rfl, rfl⟩ := malloc_ok app run
  exact ⟨rfl, .alloc s _⟩

theorem connRtbAdd_notes (ent : RtbEntry) (s : Conn) :
    wp (connRtbAdd app ent) (fun _ t => ∃ n, t = { s with nalloc := n, rtb := ngtcp2RtbAdd s.rtb ent })
      (fun _ t => Noted s t) s := by
  unfold connRtbAdd
  change wp (if pqFull s.rtb.pq then _ else _ : ConnM Unit) _ _ s
  split
  · rw [wp_bind]
    refine wp_intro (fun _ t run => ?_) fun _ _ run => (malloc_notes app s).stopped run
    obtain ⟨-, rfl⟩ := malloc_ok app run
    exact ⟨_, rfl⟩
  · exact ⟨s.nalloc, rfl⟩

end

end Ngtcp2
