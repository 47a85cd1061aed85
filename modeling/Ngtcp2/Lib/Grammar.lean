import Mathlib.Data.List.Infix
import Ngtcp2.Lib.Bytes

/-!
# Grammars of byte strings

A grammar says what stands at the front of a list of bytes. A reader looks for it in a buffer, by position, and
fails when it reads outside of the buffer.
-/

/-- The value at the front of a list of bytes, and the bytes behind it. -/
def Grammar (α : Type) : Type := List UInt8 → Option (α × List UInt8)

namespace Grammar

variable {α β : Type}

instance : Monad Grammar where
  pure a := fun s => some (a, s)
  bind g f := fun s =>
    match g s with
    | none => none
    | some (a, rest) => f a rest

def fail : Grammar α := fun _ => none

def byte : Grammar UInt8
  | [] => none
  | b :: rest => some (b, rest)

def bytes (k : Nat) : Grammar (List UInt8) := fun s =>
  if s.length < k then none else some (s.take k, s.drop k)

def number (k : Nat) : Grammar Nat := do
  let bs ← bytes k
  pure (ofBeBytes bs)

def remainder : Grammar (List UInt8) := fun s => some (s, [])

def many (g : Grammar α) : Nat → Grammar (List α)
  | 0 => pure []
  | n + 1 => do
    let a ← g
    let rest ← many g n
    pure (a :: rest)

theorem pure_run (a : α) (s : List UInt8) : (pure a : Grammar α) s = some (a, s) := rfl

theorem fail_run (s : List UInt8) : (fail : Grammar α) s = none := rfl

theorem bind_some {g : Grammar α} {f : α → Grammar β} {s r : List UInt8} {a : α}
    (here : g s = some (a, r)) : (g >>= f) s = f a r := by
  change (match g s with | none => none | some (a, rest) => f a rest) = _
  rw [here]

theorem bind_none {g : Grammar α} {f : α → Grammar β} {s : List UInt8} (here : g s = none) :
    (g >>= f) s = none := by
  change (match g s with | none => none | some (a, rest) => f a rest) = _
  rw [here]

theorem bind_eq_some {g : Grammar α} {f : α → Grammar β} {s rest : List UInt8} {b : β}
    (found : (g >>= f) s = some (b, rest)) : ∃ a mid, g s = some (a, mid) ∧ f a mid = some (b, rest) := by
  cases here : g s with
  | none => simp [bind_none here] at found
  | some pair =>
    obtain ⟨a, mid⟩ := pair
    exact ⟨a, mid, rfl, (bind_some here).symm.trans found⟩

theorem pure_bind (a : α) (f : α → Grammar β) : (pure a >>= f) = f a := rfl

theorem bind_assoc {γ : Type} (g : Grammar α) (f : α → Grammar β) (h : β → Grammar γ) :
    (g >>= f) >>= h = g >>= fun a => f a >>= h := by
  funext s
  cases here : g s with
  | none => rw [bind_none here, bind_none (bind_none here)]
  | some pair =>
    rw [bind_some (r := pair.2) (a := pair.1) here]
    cases there : f pair.1 pair.2 with
    | none =>
      rw [bind_none there, bind_none]
      rw [bind_some (r := pair.2) (a := pair.1) here, there]
    | some next =>
      rw [bind_some (r := next.2) (a := next.1) there, bind_some (r := next.2) (a := next.1)]
      rw [bind_some (r := pair.2) (a := pair.1) here, there]

theorem bytes_append {k : Nat} {bs : List UInt8} (length : bs.length = k) (rest : List UInt8) :
    bytes k (bs ++ rest) = some (bs, rest) := by
  subst length
  simp [bytes]

theorem number_append {k n : Nat} (bound : n < 256 ^ k) (rest : List UInt8) :
    number k (beBytes k n ++ rest) = some (n, rest) := by
  unfold number
  rw [bind_some (bytes_append (length_beBytes k n) rest), pure_run, ofBeBytes_beBytes, Nat.mod_eq_of_lt bound]

theorem many_append {g : Grammar α} {put : α → List UInt8} (as : List α)
    (each : ∀ a ∈ as, ∀ rest, g (put a ++ rest) = some (a, rest)) (rest : List UInt8) :
    many g as.length (as.flatMap put ++ rest) = some (as, rest) := by
  induction as with
  | nil => rfl
  | cons a as ih =>
    rw [List.flatMap_cons, List.append_assoc, List.length_cons, many, bind_some (each a (by simp) _),
      bind_some (ih fun a member => each a (by simp [member])), pure_run]

def map (f : α → β) (g : Grammar α) : Grammar β := fun s => (g s).map fun x => (f x.1, x.2)

theorem map_some {f : α → β} {g : Grammar α} {s r : List UInt8} {a : α} (here : g s = some (a, r)) :
    map f g s = some (f a, r) := by
  simp [map, here]

theorem map_none {f : α → β} {g : Grammar α} {s : List UInt8} (here : g s = none) : map f g s = none := by
  simp [map, here]

theorem map_pure (f : α → β) (a : α) : map f (pure a) = pure (f a) := rfl

theorem map_bind {γ : Type} (f : β → γ) (g : Grammar α) (k : α → Grammar β) :
    map f (g >>= k) = g >>= fun a => map f (k a) := by
  funext s
  cases here : g s with
  | none => rw [bind_none here, map_none (bind_none here)]
  | some pair =>
    rw [bind_some (r := pair.2) (a := pair.1) here]
    unfold map
    rw [bind_some (r := pair.2) (a := pair.1) here]

theorem many_map (f : α → β) (g : Grammar α) (n : Nat) : many (map f g) n = map (List.map f) (many g n) := by
  induction n with
  | zero => rfl
  | succ n ih =>
    funext s
    rw [many, many, ih]
    cases here : g s with
    | none => rw [bind_none (map_none here), map_none (bind_none here)]
    | some pair =>
      obtain ⟨a, r⟩ := pair
      rw [bind_some (map_some here)]
      cases there : many g n r with
      | none =>
        rw [bind_none (map_none there), map_none]
        rw [bind_some here, bind_none there]
      | some pair =>
        obtain ⟨as, last⟩ := pair
        rw [bind_some (map_some there)]
        refine (map_some (f := List.map f) (a := a :: as) (r := last) ?_).symm
        rw [bind_some here, bind_some there, pure_run]

theorem many_length {g : Grammar α} {n : Nat} {s r : List UInt8} {as : List α}
    (found : many g n s = some (as, r)) : as.length = n := by
  induction n generalizing s as with
  | zero =>
    obtain ⟨rfl, -⟩ := Prod.mk.inj (Option.some.inj found)
    rfl
  | succ n ih =>
    obtain ⟨a, _, -, rest⟩ := bind_eq_some found
    obtain ⟨as', _, second, ⟨⟩⟩ := bind_eq_some rest
    rw [List.length_cons, ih second]

theorem many_add {g : Grammar α} {m n : Nat} {s r : List UInt8} {as : List α}
    (found : many g (m + n) s = some (as, r)) :
    ∃ mid, many g m s = some (as.take m, mid) ∧ many g n mid = some (as.drop m, r) := by
  induction m generalizing s as with
  | zero =>
    rw [Nat.zero_add] at found
    exact ⟨s, rfl, by simpa using found⟩
  | succ m ih =>
    rw [Nat.add_right_comm, many] at found
    obtain ⟨a, next, first, rest⟩ := bind_eq_some found
    obtain ⟨as', last, second, ⟨⟩⟩ := bind_eq_some rest
    obtain ⟨mid, front, back⟩ := ih second
    refine ⟨mid, ?_, by simpa using back⟩
    rw [many, bind_some first, bind_some front]
    rfl

/-- The grammar leaves an end of what it is given. -/
def Local (g : Grammar α) : Prop := ∀ s a rest, g s = some (a, rest) → rest <:+ s

theorem Local.pure (a : α) : (pure a : Grammar α).Local := by
  rintro s _ _ ⟨rfl, rfl⟩
  exact List.suffix_refl s

theorem Local.bind {g : Grammar α} {f : α → Grammar β} (first : g.Local) (second : ∀ a, (f a).Local) :
    (g >>= f).Local := by
  intro s b rest found
  obtain ⟨a, mid, here, there⟩ := bind_eq_some found
  exact (second a mid b rest there).trans (first s a mid here)

theorem Local.byte : Grammar.byte.Local := by
  intro s b rest found
  cases s with
  | nil => cases found
  | cons b' s' =>
    obtain ⟨rfl, rfl⟩ := Option.some.inj found
    exact List.suffix_cons _ _

theorem Local.bytes (k : Nat) : (Grammar.bytes k).Local := by
  intro s bs rest found
  unfold Grammar.bytes at found
  split at found
  · cases found
  · obtain ⟨rfl, rfl⟩ := Option.some.inj found
    exact List.drop_suffix k s

theorem Local.map {f : α → β} {g : Grammar α} (keeps : g.Local) : (g.map f).Local := by
  intro s b rest found
  cases here : g s with
  | none => simp [map_none here] at found
  | some pair =>
    rw [map_some (a := pair.1) (r := pair.2) here] at found
    obtain ⟨-, rfl⟩ := Prod.mk.inj (Option.some.inj found)
    exact keeps s pair.1 pair.2 here

/-- What holds of every value that the grammar finds at the front of `s`, and of what is left behind it. -/
def wlp (g : Grammar α) (Q : α → List UInt8 → Prop) (s : List UInt8) : Prop :=
  ∀ a rest, g s = some (a, rest) → Q a rest

variable {s : List UInt8}

theorem wlp_pure {a : α} {Q : α → List UInt8 → Prop} (here : Q a s) : wlp (pure a) Q s := by
  rintro _ _ ⟨rfl, rfl⟩
  exact here

theorem wlp_bind {g : Grammar α} {f : α → Grammar β} {Q : β → List UInt8 → Prop}
    (first : wlp g (fun a mid => wlp (f a) Q mid) s) : wlp (g >>= f) Q s := by
  intro b rest found
  obtain ⟨a, mid, here, there⟩ := bind_eq_some found
  exact first a mid here b rest there

theorem wlp_fail {Q : α → List UInt8 → Prop} : wlp fail Q s := by
  intro a rest found
  cases found

theorem wlp_bytes {k : Nat} {Q : List UInt8 → List UInt8 → Prop}
    (each : ∀ bs rest, bs ++ rest = s → bs.length = k → Q bs rest) : wlp (bytes k) Q s := by
  intro bs rest found
  unfold bytes at found
  split at found
  · cases found
  · obtain ⟨rfl, rfl⟩ := Option.some.inj found
    exact each _ _ (List.take_append_drop k s) (by simp; omega)

theorem wlp_number {k : Nat} {Q : Nat → List UInt8 → Prop} (each : ∀ n rest, rest <:+ s → Q n rest) :
    wlp (number k) Q s :=
  wlp_bind <| wlp_bytes fun bs _ split _ => wlp_pure (each _ _ ⟨bs, split⟩)

theorem wlp_many {g : Grammar α} {P : α → Prop} (each : ∀ s, wlp g (fun a rest => P a ∧ rest <:+ s) s)
    (n : Nat) : wlp (many g n) (fun as rest => (∀ a ∈ as, P a) ∧ rest <:+ s) s := by
  induction n generalizing s with
  | zero => exact wlp_pure ⟨by simp, List.suffix_refl s⟩
  | succ n ih =>
    refine wlp_bind fun a mid here => wlp_bind fun as rest there => wlp_pure ?_
    obtain ⟨head, first⟩ := each s a mid here
    obtain ⟨tail, second⟩ := ih as rest there
    exact ⟨by simpa using ⟨head, tail⟩, second.trans first⟩

end Grammar

/-- A program that reads a buffer from a position on and moves the position. -/
def Reader (α : Type) : Type := List UInt8 → Nat → Option (α × Nat)

namespace Reader

variable {α β : Type}

instance : Monad Reader where
  pure a := fun _ p => some (a, p)
  bind r f := fun buf p =>
    match r buf p with
    | none => none
    | some (a, p) => f a buf p

def byte : Reader UInt8 := fun buf p =>
  match buf[p]? with
  | none => none
  | some b => some (b, p + 1)

def bytes (k : Nat) : Reader (List UInt8) := fun buf p =>
  if buf.length < p + k then none else some ((buf.drop p).take k, p + k)

def number (k : Nat) : Reader Nat := do
  let bs ← bytes k
  pure (ofBeBytes bs)

def remainder : Reader (List UInt8) := fun buf p => some (buf.drop p, buf.length)

def many (r : Reader α) : Nat → Reader (List α)
  | 0 => pure []
  | n + 1 => do
    let a ← r
    let rest ← many r n
    pure (a :: rest)

/-- Where the grammar finds a value, so does the reader. -/
structure Refines (r : Reader α) (g : Grammar α) : Prop where
  run : ∀ buf p a rest, p ≤ buf.length → g (buf.drop p) = some (a, rest) →
    r buf p = some (a, buf.length - rest.length)
  keeps : g.Local

theorem bind_some {r : Reader α} {f : α → Reader β} {buf : List UInt8} {p q : Nat} {a : α}
    (here : r buf p = some (a, q)) : (r >>= f) buf p = f a buf q := by
  change (match r buf p with | none => none | some (a, p) => f a buf p) = _
  rw [here]

theorem rest_eq {g : Grammar α} (keeps : g.Local) (buf : List UInt8) (p : Nat) {rest : List UInt8} {a : α}
    (found : g (buf.drop p) = some (a, rest)) :
    buf.drop (buf.length - rest.length) = rest ∧ rest.length ≤ buf.length - p := by
  have tail := keeps _ a rest found
  have inside := tail.trans (List.drop_suffix p buf)
  refine ⟨(List.suffix_iff_eq_drop.mp inside).symm, ?_⟩
  have short := tail.length_le
  rwa [List.length_drop] at short

theorem getElem?_of_drop {buf rest : List UInt8} {p : Nat} {b : UInt8} (here : buf.drop p = b :: rest) :
    buf[p]? = some b ∧ buf.length = p + 1 + rest.length := by
  have length := congrArg List.length here
  simp only [List.length_drop, List.length_cons] at length
  refine ⟨?_, by omega⟩
  rw [← Nat.add_zero p, ← List.getElem?_drop, here]
  rfl

namespace Refines

variable {r : Reader α} {g : Grammar α}

theorem pure (a : α) : Refines (pure a) (pure a) where
  run := by
    rintro buf p _ _ inside ⟨rfl, rfl⟩
    change some (a, p) = some (a, buf.length - (buf.drop p).length)
    rw [List.length_drop]
    congr 2
    omega
  keeps := .pure a

theorem bind {f : α → Reader β} {f' : α → Grammar β} (first : Refines r g)
    (second : ∀ a, Refines (f a) (f' a)) : Refines (r >>= f) (g >>= f') where
  run buf p b rest inside found := by
    obtain ⟨a, mid, here, there⟩ := Grammar.bind_eq_some found
    rw [bind_some (first.run buf p a mid inside here)]
    refine (second a).run buf _ b rest (by omega) ?_
    rw [(rest_eq first.keeps buf p here).1, there]
  keeps := first.keeps.bind fun a => (second a).keeps

theorem byte : Refines Reader.byte Grammar.byte where
  run buf p b rest inside found := by
    cases here : buf.drop p with
    | nil => simp [here, Grammar.byte] at found
    | cons b' rest' =>
      rw [here] at found
      obtain ⟨rfl, rfl⟩ := Option.some.inj found
      obtain ⟨at_, length⟩ := getElem?_of_drop here
      simp only [Reader.byte, at_]
      congr 2
      omega
  keeps := .byte

theorem bytes (k : Nat) : Refines (Reader.bytes k) (Grammar.bytes k) where
  run buf p bs rest inside found := by
    unfold Grammar.bytes at found
    rw [List.length_drop] at found
    split at found
    · cases found
    · obtain ⟨rfl, rfl⟩ := Option.some.inj found
      unfold Reader.bytes
      rw [if_neg (by omega), List.drop_drop, List.length_drop]
      congr 2
      omega
  keeps := .bytes k

theorem number (k : Nat) : Refines (Reader.number k) (Grammar.number k) :=
  (bytes k).bind fun _ => .pure _

theorem remainder : Refines Reader.remainder Grammar.remainder where
  run := by
    rintro buf p _ _ inside ⟨rfl, rfl⟩
    rfl
  keeps := by
    rintro s _ _ ⟨rfl, rfl⟩
    exact List.nil_suffix

theorem many (refines : Refines r g) (n : Nat) : Refines (Reader.many r n) (Grammar.many g n) := by
  induction n with
  | zero => exact .pure []
  | succ n ih => exact refines.bind fun a => ih.bind fun rest => .pure (a :: rest)

end Refines

end Reader
