import Ngtcp2.Lib.Along
import Ngtcp2.Machine.Basic

/-!
# What the application is told

The codes with which streams are closed and the limits on stream ids that are reported depend on little
of a connection. An `Outline` shows this much, and a `Deed` is one thing that happens to it.
-/

namespace Ngtcp2

open Prog Relation

structure Tag where
  streamId : Nat
  appErrorCode : Nat
  stopSending : Bool

def Strm.tag (strm : Strm) : Tag where
  streamId := strm.streamId
  appErrorCode := strm.appErrorCode
  stopSending := strm.stopSending

def Event.told : Event → Bool
  | .recvFrame _ _ | .streamClose _ _ | .extendMaxStreamId _ | .mark (.maxTxOffset _ _) => true
  | _ => false

structure Outline where
  tags : Nat → Option Tag
  maxLocalStreamIdBidi : Nat
  maxLocalStreamIdUni : Nat
  entries : List RtbEntry
  earlyRtb : List RtbEntry
  log : List Event

def Conn.outline (c : Conn) : Outline where
  tags := fun id => (c.strms id).map Strm.tag
  maxLocalStreamIdBidi := c.maxLocalStreamIdBidi
  maxLocalStreamIdUni := c.maxLocalStreamIdUni
  entries := c.rtb.head
  earlyRtb := c.earlyRtb
  log := c.log.filter Event.told

def Conn.tags (c : Conn) : Nat → Option Tag := c.outline.tags

namespace Outline

def setTag (o : Outline) (id : Nat) (tag : Option Tag) : Outline := { o with tags := Function.update o.tags id tag }

def tell (o : Outline) (e : Event) : Outline := { o with log := o.log ++ [e] }

def raise (o : Outline) (n : Nat) : Outline :=
  { o.tell (.extendMaxStreamId n) with
    maxLocalStreamIdBidi := if bidiStream n then max o.maxLocalStreamIdBidi n else o.maxLocalStreamIdBidi
    maxLocalStreamIdUni := if bidiStream n then o.maxLocalStreamIdUni else max o.maxLocalStreamIdUni n }

end Outline

inductive Doing where
  | idle
  | opening
  | write
  | frame (fr : Frame)

namespace Doing

def Opens : Doing → Nat → Prop
  | .opening, _ => True
  | .frame (.stream fr), id => id = fr.streamId
  | .frame (.maxStreamData fr), id => id = fr.streamId
  | _, _ => False

def cause : Doing → Tag → Option Nat
  | .frame (.rstStream fr), _ => some fr.appErrorCode
  | .frame (.stopSending fr), _ => some fr.appErrorCode
  | .frame (.stream _), tag => some (if tag.stopSending then tag.appErrorCode else ngtcp2NoError)
  | .frame (.ack _), _ => some ngtcp2NoError
  | _, _ => none

end Doing

inductive Deed (d : Doing) : Outline → Outline → Prop
  | limits (o : Outline) (limit sent bidi uni : Nat) :
    Deed d o { o.tell (.mark (.maxTxOffset limit sent)) with maxLocalStreamIdBidi := bidi, maxLocalStreamIdUni := uni }
  | fewer (o : Outline) (entries : List RtbEntry) (fewer : entries ⊆ o.entries) : Deed d o { o with entries := entries }
  | sends (o : Outline) (entries earlyRtb : List RtbEntry) (writing : d = .write) :
    Deed d o { o with entries := entries, earlyRtb := earlyRtb }
  | opens (o : Outline) (id : Nat) (absent : o.tags id = none) (allowed : d.Opens id) :
    Deed d o (o.setTag id (some { streamId := id, appErrorCode := 0, stopSending := false }))
  | closes (o : Outline) (key code : Nat) (tag : Tag) (found : o.tags key = some tag) (due : d.cause tag = some code) :
    Deed d o ((o.setTag tag.streamId none).tell
      (.streamClose tag.streamId (if tag.appErrorCode = 0 then tag.appErrorCode else code)))

abbrev Deeds (d : Doing) : Conn → Conn → Prop := Steps Conn.outline (Deed d)

abbrev Takes {α : Type} (d : Doing) (m : ConnM α) : Prop := Along Conn.outline (Deed d) m

namespace Deed

variable {d : Doing} {o p : Outline}

theorem of_idle (deed : Deed .idle o p) : Deed d o p := by
  cases deed with
  | limits limit sent bidi uni => exact .limits o limit sent bidi uni
  | fewer entries fewer => exact .fewer o entries fewer
  | sends entries earlyRtb writing => cases writing
  | opens id absent allowed => exact allowed.elim
  | closes key code tag found due => cases due

theorem idle_tags (deed : Deed .idle o p) : p.tags = o.tags := by
  cases deed with
  | limits | fewer | sends => rfl
  | opens id absent allowed => exact allowed.elim
  | closes key code tag found due => cases due

theorem idle_tags_run (deeds : ReflTransGen (Deed .idle) o p) : p.tags = o.tags := by
  induction deeds with
  | refl => rfl
  | tail _ deed ih => rw [idle_tags deed, ih]

end Deed

theorem Takes.idle {α : Type} {d : Doing} {m : ConnM α} (takes : Takes .idle m) : Takes d m :=
  Along.mono takes fun _ _ => Deed.of_idle

theorem Takes.idle_then {α β : Type} {d : Doing} {m : ConnM α} {f : α → ConnM β} {s : Conn} (first : Takes .idle m)
    (second : ∀ a t, t.tags = s.tags → Goes (Deeds d) (fun _ => Deeds d) (f a) t) :
    Goes (Deeds d) (fun _ => Deeds d) (m >>= f) s := by
  refine .seq (first.idle s) fun a t run => second a t ?_
  have deeds : Deeds .idle s t := (first s).reached run
  exact Deed.idle_tags_run deeds

section

variable {s : Conn}

theorem Conn.outline_emit {e : Event} (silent : e.told = false) : (s.emit e).outline = s.outline := by
  change { s.outline with log := (s.log ++ [e]).filter Event.told } = s.outline
  simp [silent, Conn.outline]

theorem Conn.outline_tell {e : Event} (told : e.told = true) : (s.emit e).outline = s.outline.tell e := by
  change { s.outline with log := (s.log ++ [e]).filter Event.told } = _
  simp [told, Conn.outline, Outline.tell]

theorem Conn.tags_modified {f : Strm → Strm} (same : ∀ strm, (f strm).tag = strm.tag) (id : Nat) :
    Conn.tags { s with strms := Function.update s.strms id ((s.strms id).map f) } = s.tags := by
  funext key
  unfold Conn.tags Conn.outline
  by_cases here : key = id
  · subst here
    cases found : s.strms key <;> simp [same, found]
  · simp [here]

theorem Conn.outline_setStrm (id : Nat) (strm : Option Strm) :
    Conn.outline { s with strms := Function.update s.strms id strm } = s.outline.setTag id (strm.map Strm.tag) := by
  have tags : Conn.tags { s with strms := Function.update s.strms id strm } =
      Function.update s.tags id (strm.map Strm.tag) := by
    funext key
    unfold Conn.tags Conn.outline
    by_cases here : key = id
    · subst here
      simp
    · simp [here]
  change { s.outline with tags := Conn.tags { s with strms := Function.update s.strms id strm } } = _
  rw [tags]
  rfl

end

end Ngtcp2
