import Ngtcp2.System

/-!
# Flow control of the sender

A handshake packet does not look at the limit of stream 0.
-/

namespace Ngtcp2

def Mark.LimitKept : Mark → Prop
  | .maxTxOffset limit txOffset => txOffset ≤ limit
  | .strm0MaxTxOffset limit txOffset => txOffset ≤ limit
  | .handshakeBytes endOffset limit => endOffset ≤ limit
  | _ => True

instance : DecidablePred Mark.LimitKept := fun m => by
  apply m.casesOn (motive := fun m => Decidable m.LimitKept) <;> intros <;> unfold Mark.LimitKept <;> infer_instance

structure Strm.TxOk (strm : Strm) : Prop where
  within : strm.txOffset ≤ strm.maxTxOffset
  bound : strm.maxTxOffset < varintBound

structure View.TxOk (v : View) : Prop where
  within : v.txOffset ≤ v.maxTxOffset
  bound : v.maxTxOffset < varintBound
  strms : v.Each fun _ => Strm.TxOk

theorem Strm.TxOk.sub {strm : Strm} (ok : strm.TxOk) :
    sub64 strm.maxTxOffset strm.txOffset = strm.maxTxOffset - strm.txOffset :=
  sub64_eq ok.within (Nat.lt_trans ok.bound (by decide))

theorem View.TxOk.sub {v : View} (ok : v.TxOk) :
    sub64 v.maxTxOffset v.txOffset = v.maxTxOffset - v.txOffset :=
  sub64_eq ok.within (Nat.lt_trans ok.bound (by decide))

theorem Strm.TxOk.same {strm strm' : Strm} (ok : strm.TxOk) (same : strm.SameTx strm') : strm'.TxOk where
  within := same.txOffset ▸ same.maxTxOffset ▸ ok.within
  bound := same.maxTxOffset ▸ ok.bound

theorem ngtcp2StrmInit_txOk (id : Nat) (shutRd shutWr : Bool) (maxRx : Nat) (maxTx : UInt32) :
    (ngtcp2StrmInit id shutRd shutWr maxRx maxTx.toNat).TxOk where
  within := Nat.zero_le _
  bound := Nat.lt_trans maxTx.toNat_lt (by decide)

theorem Strm.TxOk.write {strm : Strm} (ok : strm.TxOk) {datalen : Nat} (shutWr : Bool)
    (fits : datalen ≤ sub64 strm.maxTxOffset strm.txOffset) :
    Strm.TxOk { strm with txOffset := strm.txOffset + datalen, shutWr := shutWr } where
  within := by
    have within := ok.within
    rw [ok.sub] at fits
    dsimp only
    omega
  bound := ok.bound

theorem View.TxOk.write {v : View} (ok : v.TxOk) {datalen id : Nat}
    (fits : datalen ≤ sub64 v.maxTxOffset v.txOffset) :
    (if id ≠ 0 then add64 v.txOffset datalen else v.txOffset) ≤ v.maxTxOffset := by
  have within := ok.within
  have bound := ok.bound
  rw [ok.sub] at fits
  unfold varintBound at bound
  split
  · rw [add64_eq (by omega)]
    omega
  · exact within

theorem Move.txOk {v w : View} (move : Move .any v w) (kept : Marked Mark.LimitKept w.log)
    (ok : v.TxOk) : w.TxOk := by
  obtain ⟨within, bound, strms⟩ := ok
  cases move
  case limits bidi uni limit bidiOk uniOk limitOk =>
    have limited : v.txOffset ≤ limit := kept (.maxTxOffset limit v.txOffset) (by simp [View.emit])
    exact ⟨limited, limitOk, strms⟩
  case maxData n small => exact ⟨Nat.le_trans within (Nat.le_max_left _ _), max_lt bound small, strms⟩
  case maxStreamData id n strm found small =>
    have ok := strms id strm found
    exact ⟨within, bound, strms.set ⟨Nat.le_trans ok.within (Nat.le_max_left _ _), max_lt ok.bound small⟩⟩
  case strm0Limit limit strm found small =>
    have limited : strm.txOffset ≤ limit :=
      kept (.strm0MaxTxOffset limit strm.txOffset) (by simp [View.emit, View.setStrm])
    exact ⟨within, bound, View.Each.set strms ⟨limited, small⟩⟩
  case handshakeBytes n strm found small =>
    have limited : strm.txOffset + n ≤ strm.maxTxOffset :=
      kept (.handshakeBytes (strm.txOffset + n) strm.maxTxOffset) (by simp [View.emit, View.setStrm])
    exact ⟨within, bound, View.Each.set strms ⟨limited, (strms 0 strm found).bound⟩⟩
  case newRemote id idtr strm small remote opened absent maxTx init =>
    exact ⟨within, bound, View.Each.set strms (init ▸ ngtcp2StrmInit_txOk ..)⟩
  case newBidi strm allowed absent maxTx init =>
    exact ⟨within, bound, View.Each.set strms (init ▸ ngtcp2StrmInit_txOk ..)⟩
  case newUni strm allowed absent maxTx init =>
    exact ⟨within, bound, View.Each.set strms (init ▸ ngtcp2StrmInit_txOk ..)⟩
  case close id code strm found closable => exact ⟨within, bound, View.Each.unset strms⟩
  case reset id strm fr found named queued =>
    have ok := strms id strm found
    exact ⟨within, bound, strms.set ⟨ok.within, ok.bound⟩⟩
  case stop id strm allowed found unlisted plain =>
    have ok := strms id strm found
    exact ⟨within, bound, strms.set ⟨ok.within, ok.bound⟩⟩
  case rx id strm strm' allowed found step =>
    exact ⟨within, bound, strms.set ((strms id strm found).same step.same.1)⟩
  case credit n strm allowed found credits =>
    have ok := strms 0 strm found
    exact ⟨within, bound, View.Each.set strms ⟨ok.within, ok.bound⟩⟩
  case claim id offset n strm strm' allowed found same zero claims =>
    exact ⟨within, bound, View.Each.set strms ((strms id strm found).same same)⟩
  case refuse id n last strm allowed found reach =>
    have ok := strms id strm found
    exact ⟨within, bound, View.Each.set strms ⟨ok.within, ok.bound⟩⟩
  case advertiseStrm waiting id strm first listed found queued =>
    have ok := strms id strm found
    exact ⟨within, bound, strms.set ⟨ok.within, ok.bound⟩⟩
  case fcLink id strm found unlisted receives =>
    have ok := strms id strm found
    exact ⟨within, bound, View.Each.set strms ⟨ok.within, ok.bound⟩⟩
  case fcUnlink id strm found listed =>
    have ok := strms id strm found
    exact ⟨within, bound, View.Each.set strms ⟨ok.within, ok.bound⟩⟩
  case ackReport ent fr rest strm held chain acked found told =>
    have ok := strms fr.streamId strm found
    exact ⟨within, bound, View.Each.set strms ⟨ok.within, ok.bound⟩⟩
  case sendStream ckm fr strm ent queue nalloc allowed ready keyed entry short carries pushed found
      offset small strmFits connFits filled =>
    have written := (strms fr.streamId strm found).write (strm.shutWr || fr.fin) strmFits
    exact ⟨View.TxOk.write ⟨within, bound, strms⟩ connFits, bound, View.Each.set strms written⟩
  case sendEarly ckm fr strm ent nalloc allowed ready entry short carries found offset small strmFits
      connFits filled =>
    have written := (strms fr.streamId strm found).write (strm.shutWr || fr.fin) strmFits
    exact ⟨View.TxOk.write ⟨within, bound, strms⟩ connFits, bound, View.Each.set strms written⟩
  case ackFrame ent fr rest held chain acked silent =>
    rcases v.ackFrame_cases fr with ⟨sent, strm, -, found, same⟩ | ⟨-, same⟩ <;> rw [same]
    · have ok := strms sent.streamId strm found
      exact ⟨within, bound, View.Each.set strms ⟨ok.within, ok.bound⟩⟩
    · exact ⟨within, bound, strms⟩
  case retry allowed enters stays empty noted =>
    have small : strm0MaxStreamData < varintBound := by decide
    exact ⟨within, bound, View.Each.set strms ⟨Nat.zero_le _, small⟩⟩
  all_goals exact ⟨within, bound, strms.same rfl⟩

def TransportParams.plain (maxData : UInt32) : TransportParams where
  settings := { Settings.plain with maxData := maxData }
  negotiatedVersion := 1
  supportedVersions := [1]

def loweredCalls : List (App × Call) :=
  [(.quiet, .tls (.updateEarlyKeys .plain)),
   (.quiet, .tls (.setEarlyRemoteTransportParams (.plain 1000))), (.quiet, .openBidiStream),
   (.quiet, .writeStream 1200 4 false (List.replicate 20 0) 0),
   (.quiet, .tls (.setRemoteTransportParams .ENCRYPTED_EXTENSIONS (.plain 10)))]

end Ngtcp2
