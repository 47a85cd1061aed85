import Mathlib.Logic.Basic
import Mathlib.Tactic.Basic

/-!
# State-passing programs with error codes

A program reads and writes a state and ends with a value or an error. The state
it has reached is kept in both cases, as it is when a C function returns an
error code after it has already updated the object it works on.
-/

def Prog (σ ε α : Type) : Type := σ → Except ε α × σ

namespace Prog

variable {σ ε α β : Type}

def bind (m : Prog σ ε α) (f : α → Prog σ ε β) : Prog σ ε β := fun s =>
  match m s with
  | (.ok a, t) => f a t
  | (.error e, t) => (.error e, t)

instance : Monad (Prog σ ε) where
  pure a := fun s => (.ok a, s)
  bind := bind

instance : MonadStateOf σ (Prog σ ε) where
  get := fun s => (.ok s, s)
  set t := fun _ => (.ok (), t)
  modifyGet f := fun s => (.ok (f s).1, (f s).2)

instance : MonadExceptOf ε (Prog σ ε) where
  throw e := fun s => (.error e, s)
  tryCatch m handler := fun s =>
    match m s with
    | (.ok a, t) => (.ok a, t)
    | (.error e, t) => handler e t

/-- Run a program and hand its error code to the caller as a value. -/
def attempt (m : Prog σ ε α) : Prog σ ε (Except ε α) := fun s => (.ok (m s).1, (m s).2)

/-- End with a result computed elsewhere. -/
def ofExcept (r : Except ε α) : Prog σ ε α := fun s => (r, s)

theorem bind_ok {m : Prog σ ε α} {f : α → Prog σ ε β} {s t : σ} {a : α} (run : m s = (.ok a, t)) :
    (m >>= f) s = f a t := by
  change bind m f s = _
  unfold bind
  rw [run]

theorem bind_error {m : Prog σ ε α} {f : α → Prog σ ε β} {s t : σ} {e : ε}
    (run : m s = (.error e, t)) : (m >>= f) s = (.error e, t) := by
  change bind m f s = _
  unfold bind
  rw [run]

theorem get_bind (f : σ → Prog σ ε α) (s : σ) : (get >>= f) s = f s s := rfl

theorem bind_eq_ok {m : Prog σ ε α} {f : α → Prog σ ε β} {s t : σ} {b : β}
    (run : (m >>= f) s = (.ok b, t)) : ∃ a u, m s = (.ok a, u) ∧ f a u = (.ok b, t) := by
  cases first : m s with
  | mk r u =>
    cases r with
    | ok a => exact ⟨a, u, rfl, (bind_ok first).symm.trans run⟩
    | error e => cases (bind_error (f := f) first).symm.trans run

theorem bind_assoc {γ : Type} (m : Prog σ ε α) (f : α → Prog σ ε β) (g : β → Prog σ ε γ) :
    m >>= f >>= g = m >>= fun a => f a >>= g := by
  funext s
  cases run : m s with
  | mk r t =>
    cases r with
    | ok a =>
      rw [bind_ok run]
      change bind (m >>= f) g s = bind (f a) g t
      unfold bind
      rw [bind_ok run]
    | error e => rw [bind_error run, bind_error (bind_error run)]

/-- From `s` the program ends in a state allowed by `Q` when it succeeds and by `E` when it fails. -/
def wp (m : Prog σ ε α) (Q : α → σ → Prop) (E : ε → σ → Prop) (s : σ) : Prop :=
  match m s with
  | (.ok a, t) => Q a t
  | (.error e, t) => E e t

variable {Q Q' : α → σ → Prop} {E E' : ε → σ → Prop} {s : σ}

@[simp] theorem wp_pure (a : α) : wp (pure a : Prog σ ε α) Q E s = Q a s := rfl

@[simp] theorem wp_bind (m : Prog σ ε α) (f : α → Prog σ ε β) {R : β → σ → Prop} :
    wp (m >>= f) R E s = wp m (fun a t => wp (f a) R E t) E s := by
  change wp (bind m f) R E s = _
  unfold wp bind
  cases h : m s with
  | mk r t => cases r <;> rfl

@[simp] theorem wp_map (m : Prog σ ε α) (f : α → β) {R : β → σ → Prop} :
    wp (f <$> m) R E s = wp m (fun a t => R (f a) t) E s := by
  change wp (m >>= fun a => pure (f a)) R E s = _
  simp

@[simp] theorem wp_get {R : σ → σ → Prop} : wp (get : Prog σ ε σ) R E s = R s s := rfl

@[simp] theorem wp_set (t : σ) {R : PUnit → σ → Prop} :
    wp (set t : Prog σ ε PUnit) R E s = R ⟨⟩ t := rfl

@[simp] theorem wp_modify (f : σ → σ) {R : PUnit → σ → Prop} :
    wp (modify f : Prog σ ε PUnit) R E s = R ⟨⟩ (f s) := rfl

@[simp] theorem wp_throw (e : ε) : wp (throw e : Prog σ ε α) Q E s = E e s := rfl

@[simp] theorem wp_ofExcept_ok (a : α) : wp (ofExcept (.ok a) : Prog σ ε α) Q E s = Q a s := rfl

@[simp] theorem wp_ofExcept_error (e : ε) :
    wp (ofExcept (.error e) : Prog σ ε α) Q E s = E e s := rfl

@[simp] theorem wp_attempt (m : Prog σ ε α) {R : Except ε α → σ → Prop} :
    wp (attempt m) R E s = wp m (fun a t => R (.ok a) t) (fun e t => R (.error e) t) s := by
  unfold wp attempt
  cases h : m s with
  | mk r t => cases r <;> rfl

@[simp] theorem wp_ite (c : Prop) [Decidable c] (m n : Prog σ ε α) :
    wp (if c then m else n) Q E s = if c then wp m Q E s else wp n Q E s := by
  split <;> rfl

theorem wp_mono {m : Prog σ ε α} (h : wp m Q E s) (ok : ∀ a t, Q a t → Q' a t)
    (err : ∀ e t, E e t → E' e t) : wp m Q' E' s := by
  unfold wp at *
  cases r : m s with
  | mk x t =>
    rw [r] at h
    cases x with
    | ok a => exact ok a t h
    | error e => exact err e t h

theorem wp_and {m : Prog σ ε α} (h : wp m Q E s) (h' : wp m Q' E' s) :
    wp m (fun a t => Q a t ∧ Q' a t) (fun e t => E e t ∧ E' e t) s := by
  unfold wp at *
  cases r : m s with
  | mk x t =>
    rw [r] at h h'
    cases x with
    | ok a => exact ⟨h, h'⟩
    | error e => exact ⟨h, h'⟩

theorem wp_ok {m : Prog σ ε α} {a : α} {t : σ} (h : wp m Q E s) (run : m s = (.ok a, t)) :
    Q a t := by
  unfold wp at h
  rwa [run] at h

theorem wp_run_ok {m : Prog σ ε α} {a : α} {t : σ} (run : m s = (.ok a, t)) : wp m Q E s = Q a t := by
  unfold wp
  rw [run]

theorem wp_error {m : Prog σ ε α} {e : ε} {t : σ} (h : wp m Q E s) (run : m s = (.error e, t)) :
    E e t := by
  unfold wp at h
  rwa [run] at h

theorem wp_intro {m : Prog σ ε α} (ok : ∀ a t, m s = (.ok a, t) → Q a t)
    (err : ∀ e t, m s = (.error e, t) → E e t) : wp m Q E s := by
  unfold wp
  cases r : m s with
  | mk x t =>
    cases x with
    | ok a => exact ok a t r
    | error e => exact err e t r

theorem wp_run {m : Prog σ ε α} (h : wp m Q E s) (ok : ∀ a t, m s = (.ok a, t) → Q' a t) :
    wp m (fun a t => Q a t ∧ Q' a t) E s :=
  wp_intro (fun a t run => ⟨wp_ok h run, ok a t run⟩) fun _ _ run => wp_error h run

/-- The program succeeds and leaves what `f` looks at as it is. -/
def Keeps {τ : Type} (f : σ → τ) (m : Prog σ ε α) (s : σ) : Prop := ∃ a t, m s = (.ok a, t) ∧ f t = f s

namespace Keeps

variable {τ : Type} {f : σ → τ}

theorem pure (a : α) : Keeps f (pure a : Prog σ ε α) s := ⟨a, s, rfl, rfl⟩

theorem modify {g : σ → σ} (same : f (g s) = f s) : Keeps f (modify g : Prog σ ε PUnit) s := ⟨⟨⟩, g s, rfl, same⟩

theorem run {m : Prog σ ε α} {a : α} {t : σ} (run : m s = (.ok a, t)) (same : f t = f s) : Keeps f m s :=
  ⟨a, t, run, same⟩

theorem got {k : σ → Prog σ ε α} (rest : Keeps f (k s) s) : Keeps f (get >>= k) s := rest

theorem bind {m : Prog σ ε α} {k : α → Prog σ ε β} (first : Keeps f m s)
    (second : ∀ a t, m s = (.ok a, t) → Keeps f (k a) t) : Keeps f (m >>= k) s := by
  obtain ⟨a, t, run, same⟩ := first
  obtain ⟨b, u, next, later⟩ := second a t run
  exact ⟨b, u, (bind_ok run).trans next, later.trans same⟩

end Keeps

/-- Along `R` a program may go on, and along `F e` it may stop with the error `e`. -/
class Path (R : σ → σ → Prop) (F : ε → σ → σ → Prop) : Prop where
  refl : ∀ s, R s s
  trans : ∀ {s t u}, R s t → R t u → R s u
  stop : ∀ {e s t}, R s t → F e s t
  after : ∀ {e s t u}, R s t → F e t u → F e s u

variable {R : σ → σ → Prop} {F F' : ε → σ → σ → Prop}

/-- From `s` the program stays on the path. -/
def Goes (R : σ → σ → Prop) (F : ε → σ → σ → Prop) (m : Prog σ ε α) (s : σ) : Prop :=
  wp m (fun _ t => R s t) (fun e t => F e s t) s

namespace Goes

theorem reached {m : Prog σ ε α} {a : α} {t : σ} (h : Goes R F m s) (run : m s = (.ok a, t)) :
    R s t :=
  wp_ok (Q := fun _ t => R s t) h run

theorem stopped {m : Prog σ ε α} {e : ε} {t : σ} (h : Goes R F m s) (run : m s = (.error e, t)) :
    F e s t :=
  wp_error (E := fun e t => F e s t) h run

theorem got {f : σ → Prog σ ε α} (rest : Goes R F (f s) s) : Goes R F (get >>= f) s := rest

theorem modified {f : σ → σ} (step : R s (f s)) : Goes R F (modify f : Prog σ ε PUnit) s := step

section

variable [Path R F]

theorem done (a : α) : Goes R F (pure a : Prog σ ε α) s := Path.refl (R := R) (F := F) s

theorem failed (e : ε) : Goes R F (throw e : Prog σ ε α) s :=
  Path.stop (R := R) (F := F) (Path.refl (R := R) (F := F) s)

theorem after {m : Prog σ ε α} {t : σ} (goes : Goes R F m t) (step : R s t) :
    wp m (fun _ u => R s u) (fun e u => F e s u) t :=
  wp_mono goes (fun _ _ next => Path.trans (F := F) step next) fun _ _ next => Path.after step next

theorem seq {m : Prog σ ε α} {f : α → Prog σ ε β} (first : Goes R F m s)
    (second : ∀ a t, m s = (.ok a, t) → Goes R F (f a) t) : Goes R F (m >>= f) s := by
  change wp (m >>= f) _ _ s
  rw [wp_bind]
  exact wp_intro (fun a t run => (second a t run).after (first.reached run))
    fun e t run => first.stopped run

theorem seqWith {m : Prog σ ε α} {f : α → Prog σ ε β} {P : α → σ → Prop}
    (first : wp m (fun a t => R s t ∧ P a t) (fun e t => F e s t) s)
    (second : ∀ a t, P a t → Goes R F (f a) t) : Goes R F (m >>= f) s := by
  change wp (m >>= f) _ _ s
  rw [wp_bind]
  exact wp_mono first (fun a t reached => (second a t reached.2).after reached.1)
    fun _ _ stopped => stopped

theorem jump {m : Prog σ ε α} (rest : Prog σ ε α) (t : σ) (same : m s = rest t) (step : R s t)
    (goes : Goes R F rest t) : Goes R F m s := by
  have moved : wp rest (fun _ u => R s u) (fun e u => F e s u) t := goes.after step
  unfold Goes wp at *
  rwa [same]

theorem result (r : Except ε α) : Goes R F (ofExcept r : Prog σ ε α) s := by
  cases r with
  | ok a => exact done a
  | error e => exact failed e

theorem attempted {m : Prog σ ε α} {f : Except ε α → Prog σ ε β} (first : Goes R F' m s)
    (ok : ∀ a t, m s = (.ok a, t) → Goes R F (f (.ok a)) t)
    (err : ∀ e t, m s = (.error e, t) → F' e s t →
      wp (f (.error e)) (fun _ u => R s u) (fun e' u => F e' s u) t) :
    Goes R F (attempt m >>= f) s := by
  change wp (attempt m >>= f) _ _ s
  rw [wp_bind, wp_attempt]
  exact wp_intro (fun a t run => (ok a t run).after (first.reached run))
    fun e t run => err e t run (first.stopped run)

end

end Goes

end Prog
