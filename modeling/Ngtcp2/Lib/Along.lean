import Mathlib.Logic.Relation
import Ngtcp2.Lib.Prog

/-!
# Programs that take given steps only

What a program does to its state, from whatever state it starts and whether it succeeds or fails. The
steps may be seen on a part of the state.
-/

namespace Prog

open Relation

variable {σ ε τ α β : Type}

section Stays

variable {R : σ → σ → Prop} {F : ε → σ → σ → Prop}

/-- From every state the program stays on the path. -/
def Stays (R : σ → σ → Prop) (F : ε → σ → σ → Prop) (m : Prog σ ε α) : Prop := ∀ s, Goes R F m s

namespace Stays

theorem modified {f : σ → σ} (step : ∀ s, R s (f s)) : Stays R F (modify f : Prog σ ε PUnit) :=
  fun s => .modified (step s)

theorem got {f : σ → Prog σ ε α} (rest : ∀ c, Stays R F (f c)) : Stays R F (get >>= f) :=
  fun s => .got (rest s s)

variable {m : Prog σ ε α}

theorem ite {p : Prop} [Decidable p] {n : Prog σ ε α} (yes : Stays R F m) (no : Stays R F n) :
    Stays R F (if p then m else n) := by
  split
  · exact yes
  · exact no

variable [Path R F]

theorem pure (a : α) : Stays R F (pure a : Prog σ ε α) := fun _ => .done a

theorem throw (e : ε) : Stays R F (throw e : Prog σ ε α) := fun _ => .failed e

theorem ofExcept (r : Except ε α) : Stays R F (ofExcept r : Prog σ ε α) := fun _ => .result r

theorem bind {f : α → Prog σ ε β} (first : Stays R F m) (second : ∀ a, Stays R F (f a)) : Stays R F (m >>= f) :=
  fun s => .seq (first s) fun a t _ => second a t

end Stays

end Stays

variable {view : σ → τ} {A B : τ → τ → Prop}

/-- What `view` shows of the states is connected by steps of `A`. -/
def Steps (view : σ → τ) (A : τ → τ → Prop) (s t : σ) : Prop := ReflTransGen A (view s) (view t)

instance : Path (Steps view A) (fun _ : ε => Steps view A) where
  refl _ := .refl
  trans := ReflTransGen.trans
  stop := id
  after := ReflTransGen.trans

theorem Steps.of_eq {s t : σ} (same : view t = view s) : Steps view A s t := by
  unfold Steps
  rw [same]

/-- Every run of the program is a sequence of steps of `A`. -/
abbrev Along (view : σ → τ) (A : τ → τ → Prop) (m : Prog σ ε α) : Prop :=
  Stays (Steps view A) (fun _ => Steps view A) m

variable {m : Prog σ ε α}

theorem Stays.still {f : σ → σ} (same : ∀ s, view (f s) = view s) : Along view A (modify f : Prog σ ε PUnit) :=
  .modified fun s => .of_eq (same s)

theorem Stays.step {f : σ → σ} (step : ∀ s, A (view s) (view (f s))) : Along view A (modify f : Prog σ ε PUnit) :=
  .modified fun s => .single (step s)

theorem Stays.attempt (along : Along view A m) : Along view A (attempt m) := by
  intro s
  change wp (Prog.attempt m) _ _ s
  rw [wp_attempt]
  exact along s

namespace Along

theorem map {ρ : Type} {g : τ → ρ} {C : ρ → ρ → Prop} (along : Along view A m)
    (kept : ∀ a b, A a b → C (g a) (g b)) : Along (fun s => g (view s)) C m := by
  have lift : ∀ s t, Steps view A s t → Steps (fun s => g (view s)) C s t := fun s t steps => steps.lift g kept
  exact fun s => wp_mono (along s) (fun _ t => lift s t) fun _ t => lift s t

theorem mono (along : Along view A m) (wider : ∀ a b, A a b → B a b) : Along view B m :=
  map (g := id) along wider

end Along

end Prog
