import Mathlib.Data.List.Basic
import Mathlib.Tactic.Basic

/-!
# Runs of a labelled transition system

A run carries the labels of its steps in the order in which they were taken, so that a statement
about a state can refer to what has happened before it.
-/

variable {σ α : Type}

inductive Run (step : σ → α → σ → Prop) (init : σ → Prop) : List α → σ → Prop
  | start {s : σ} : init s → Run step init [] s
  | next {labels : List α} {s t : σ} {a : α} :
    Run step init labels s → step s a t → Run step init (labels ++ [a]) t

/-- Every label meets a condition that may look at the labels before it. -/
def Each (C : List α → α → Prop) (labels : List α) : Prop :=
  ∀ before a after, labels = before ++ a :: after → C before a

theorem Each.nil {C : List α → α → Prop} : Each C [] := by
  intro before a after split
  simp at split

theorem Each.concat {C : List α → α → Prop} {labels : List α} {a : α} :
    Each C (labels ++ [a]) ↔ Each C labels ∧ C labels a := by
  constructor
  · intro each
    exact ⟨fun before b after split => each before b (after ++ [a]) (by simp [split]),
      each labels a [] rfl⟩
  · rintro ⟨each, last⟩ before b after split
    rcases List.eq_nil_or_concat after with rfl | ⟨rest, c, rfl⟩
    · obtain ⟨rfl, rfl⟩ : labels = before ∧ a = b := by simpa using split
      exact last
    · refine each before b rest ?_
      have parts : labels ++ [a] = (before ++ b :: rest) ++ [c] := by simpa using split
      exact (List.append_inj' parts rfl).1

namespace Run

variable {step : σ → α → σ → Prop} {init : σ → Prop} {labels : List α} {s t : σ} {a : α}

theorem of_nil (run : Run step init [] s) : init s := by
  generalize same : [] = labels at run
  cases run with
  | start first => exact first
  | next => simp at same

theorem of_concat (run : Run step init (labels ++ [a]) t) : ∃ s, Run step init labels s ∧ step s a t := by
  generalize same : labels ++ [a] = all at run
  cases run with
  | start => simp at same
  | next before taken =>
    obtain ⟨rfl, rfl⟩ : labels = _ ∧ a = _ := by simpa using same
    exact ⟨_, before, taken⟩

theorem invariant {P : List α → σ → Prop} (run : Run step init labels s)
    (start : ∀ s, init s → P [] s)
    (next : ∀ labels s a t, P labels s → step s a t → P (labels ++ [a]) t) : P labels s := by
  induction run with
  | start first => exact start _ first
  | next _ taken ih => exact next _ _ _ _ ih taken

theorem invariant_each {C : List α → α → Prop} {P : List α → σ → Prop}
    (run : Run step init labels s) (each : Each C labels) (start : ∀ s, init s → P [] s)
    (next : ∀ labels s a t, P labels s → C labels a → step s a t → P (labels ++ [a]) t) :
    P labels s := by
  induction run with
  | start first => exact start _ first
  | next _ taken ih =>
    obtain ⟨earlier, last⟩ := Each.concat.mp each
    exact next _ _ _ _ (ih earlier) last taken

end Run
