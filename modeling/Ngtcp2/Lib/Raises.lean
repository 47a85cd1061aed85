import Ngtcp2.Lib.Prog

/-!
# The errors a program can end with

Rules to bound the errors of a program from those of its parts, from whatever state it starts.
-/

namespace Prog

variable {σ ε α β : Type}

/-- Every error that the program ends with meets `P`. -/
def Raises (P : ε → Prop) (m : Prog σ ε α) : Prop := ∀ s, wp m (fun _ _ => True) (fun e _ => P e) s

namespace Raises

variable {P Q : ε → Prop} {m : Prog σ ε α}

theorem pure (a : α) : Raises P (pure a : Prog σ ε α) := fun _ => trivial

theorem modify (f : σ → σ) : Raises P (modify f : Prog σ ε PUnit) := fun _ => trivial

theorem throw {e : ε} (meets : P e) : Raises P (throw e : Prog σ ε α) := fun _ => meets

theorem ofExcept {r : Except ε α} (meets : ∀ e, r = .error e → P e) : Raises P (ofExcept r : Prog σ ε α) := by
  intro s
  cases r with
  | ok a => trivial
  | error e => exact meets e rfl

theorem attempt : Raises P (attempt m) := by
  intro s
  rw [wp_attempt]
  exact wp_intro (fun _ _ _ => trivial) fun _ _ _ => trivial

theorem bind {f : α → Prog σ ε β} (first : Raises P m) (second : ∀ a, Raises P (f a)) : Raises P (m >>= f) := by
  intro s
  rw [wp_bind]
  exact wp_mono (first s) (fun a t _ => second a t) fun _ _ meets => meets

theorem got {f : σ → Prog σ ε α} (rest : ∀ s, Raises P (f s)) : Raises P (get >>= f) := fun s => rest s s

end Raises

end Prog
