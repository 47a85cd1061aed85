import Ngtcp2.System

/-!
# What happens to a stream

One case analysis of the moves says what can happen to the fields that the sender and the limits use.
-/

namespace Ngtcp2

structure Strm.Alike (old strm : Strm) : Prop where
  streamId : strm.streamId = old.streamId
  txOffset : strm.txOffset = old.txOffset
  ackedTxOffset : strm.ackedTxOffset = old.ackedTxOffset
  sentRst : strm.sentRst = old.sentRst
  maxRxOffset : strm.maxRxOffset = old.maxRxOffset

theorem Strm.Alike.refl (strm : Strm) : strm.Alike strm := ⟨rfl, rfl, rfl, rfl, rfl⟩

inductive View.StrmStep (v w : View) (id : Nat) (strm : Strm) : Prop
  | kept (old : Strm) (held : v.strms id = some old) (alike : old.Alike strm)
  | handshake (old : Strm) (zero : id = 0) (held : v.strms id = some old)
    (alike : { old with txOffset := strm.txOffset }.Alike strm)
  | restarted (shutRd shutWr : Bool) (maxTx : Nat) (zero : id = 0)
    (init : strm = ngtcp2StrmInit id shutRd shutWr v.localSettings.maxStreamData.toNat maxTx)
  | fresh (shutRd shutWr : Bool) (maxTx : Nat) (inserted : w.log = v.log ++ [.mark (.mapInsert id false)])
    (init : strm = ngtcp2StrmInit id shutRd shutWr v.localSettings.maxStreamData.toNat maxTx)
  | reset (old : Strm) (rst : RstStream) (held : v.strms id = some old)
    (named : rst.streamId = old.streamId) (queued : .rstStream rst ∈ w.frq)
    (alike : { old with sentRst := true }.Alike strm)
  | advertised (old : Strm) (held : v.strms id = some old)
    (queued : .maxStreamData { streamId := id, maxStreamData := strm.maxRxOffset } ∈ w.frq)
    (alike : { old with maxRxOffset := strm.maxRxOffset }.Alike strm)

def View.Still (v w : View) : Prop := ∀ id strm, w.strms id = some strm → v.StrmStep w id strm

section

variable {v w : View} {i : Nat} {new : Strm}

theorem View.Still.same (strms : w.strms = v.strms) : v.Still w :=
  fun _ strm found => .kept strm (strms ▸ found) (.refl strm)

theorem View.Still.set (strms : w.strms = Function.update v.strms i (some new)) (step : v.StrmStep w i new) :
    v.Still w := by
  intro id strm found
  rw [strms] at found
  by_cases here : id = i
  · subst here
    obtain rfl : new = strm := by simpa using found
    exact step
  · exact .kept strm (by simpa [here] using found) (.refl strm)

theorem View.Still.unset (strms : w.strms = Function.update v.strms i none) : v.Still w := by
  intro id strm found
  rw [strms] at found
  by_cases here : id = i
  · simp [here] at found
  · exact .kept strm (by simpa [here] using found) (.refl strm)

end

end Ngtcp2
