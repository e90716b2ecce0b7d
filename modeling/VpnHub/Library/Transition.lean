import Mathlib.Logic.Basic
import Mathlib.Data.List.Basic

/-! # Guarded transition systems

Runs of a deterministic step function under a guard on its actions, and the rule that
carries an invariant from one step to every run. -/

namespace VpnHub.Transition

universe u v

variable {σ : Type u} {α : Type v}

/-- `Run step guard s as t`: the actions `as` lead from `s` to `t`, each of them enabled
and allowed by the guard in the state it is taken in. -/
inductive Run (step : σ → α → Option σ) (guard : σ → α → Prop) : σ → List α → σ → Prop where
  | nil (s : σ) : Run step guard s [] s
  | cons {s t u : σ} {a : α} {as : List α} (allowed : guard s a) (taken : step s a = some t)
      (rest : Run step guard t as u) : Run step guard s (a :: as) u

variable {step : σ → α → Option σ} {guard : σ → α → Prop}

/-- An invariant of every guarded step is an invariant of every guarded run. -/
theorem Run.invariant {I : σ → Prop}
    (preserved : ∀ s a t, guard s a → step s a = some t → I s → I t)
    {s t : σ} {as : List α} (run : Run step guard s as t) (h : I s) : I t := by
  induction run with
  | nil => exact h
  | cons allowed taken _ ih => exact ih (preserved _ _ _ allowed taken h)

theorem Run.snoc {s t u : σ} {as : List α} {a : α} (run : Run step guard s as t)
    (allowed : guard t a) (taken : step t a = some u) : Run step guard s (as ++ [a]) u := by
  induction run with
  | nil => exact .cons allowed taken (.nil _)
  | cons h hs _ ih => exact .cons h hs (ih allowed taken)

theorem Run.append {s t u : σ} {as bs : List α} (first : Run step guard s as t)
    (second : Run step guard t bs u) : Run step guard s (as ++ bs) u := by
  induction first with
  | nil => exact second
  | cons h hs _ ih => exact .cons h hs (ih second)

theorem Run.mono {guard' : σ → α → Prop} (weaker : ∀ s a, guard s a → guard' s a)
    {s t : σ} {as : List α} (run : Run step guard s as t) : Run step guard' s as t := by
  induction run with
  | nil => exact .nil _
  | cons h hs _ ih => exact .cons (weaker _ _ h) hs ih

/-- When a step keeps a property exactly if the guard allows it, the runs that keep the property
are the guarded ones. -/
theorem Run.keeps_iff {I P : σ → Prop} (preserved : ∀ s a t, step s a = some t → I s → I t)
    (exact : ∀ s a t, step s a = some t → I s → (P t ↔ P s ∧ guard s a)) {s t : σ} {as : List α}
    (run : Run step (fun _ _ => True) s as t) (h : I s) : P t ↔ P s ∧ Run step guard s as t := by
  induction run with
  | nil s => exact ⟨fun hp => ⟨hp, .nil s⟩, fun hp => hp.1⟩
  | @cons s t u a as _ taken _ ih =>
      rw [ih (preserved _ _ _ taken h), exact _ _ _ taken h, and_assoc]
      refine and_congr_right fun _ => ⟨fun ⟨allowed, rest⟩ => .cons allowed taken rest, ?_⟩
      intro run
      cases run with
      | cons allowed taken' rest =>
          obtain rfl := Option.some.inj (taken.symm.trans taken')
          exact ⟨allowed, rest⟩

/-- A property of the last state holds all along, or it begins with a step and holds from then
on. -/
theorem Run.exists_entry {P : σ → Prop} {s t : σ} {as : List α} (run : Run step guard s as t)
    (h : P t) :
    (P s ∧ Run step (fun u a => ∀ v, step u a = some v → P v) s as t) ∨
      ∃ before a after u v, as = before ++ a :: after ∧ Run step guard s before u ∧
        step u a = some v ∧ ¬ P u ∧ P v ∧
        Run step (fun u a => ∀ v, step u a = some v → P v) v after t := by
  induction run with
  | nil s => exact .inl ⟨h, .nil s⟩
  | @cons s u t a as allowed taken _ ih =>
      obtain ⟨hu, rest⟩ | ⟨before, b, after, x, y, rfl, run, hstep, hx, hy, rest⟩ := ih h
      · by_cases hs : P s
        · exact .inl ⟨hs, .cons (fun v hv => Option.some.inj (taken.symm.trans hv) ▸ hu) taken rest⟩
        · exact .inr ⟨[], a, as, s, u, rfl, .nil s, taken, hs, hu, rest⟩
      · exact .inr ⟨a :: before, b, after, x, y, rfl, .cons allowed taken run, hstep, hx, hy, rest⟩

/-! ## Observations -/

section Observe

variable {β : Type*} (observes : σ → α → List β)

/-- What the actions show, one after another. -/
def observed (step : σ → α → Option σ) (observes : σ → α → List β) : σ → List α → List β
  | _, [] => []
  | s, a :: as => observes s a ++ ((step s a).map fun t => observed step observes t as).getD []

theorem observed_cons {s t : σ} {a : α} (as : List α) (taken : step s a = some t) :
    observed step observes s (a :: as) = observes s a ++ observed step observes t as := by
  rw [observed, taken]
  rfl

/-- A relation to what has been observed, kept by every step. -/
theorem Run.keeps_observed {β : Type*} {observes : σ → α → List β} {R : List β → σ → Prop}
    (preserved : ∀ s a t l, guard s a → step s a = some t → R l s → R (l ++ observes s a) t)
    {s t : σ} {as : List α} {l : List β} (run : Run step guard s as t) (h : R l s) :
    R (l ++ observed step observes s as) t := by
  induction run generalizing l with
  | nil s => rwa [observed, List.append_nil]
  | cons allowed taken _ ih =>
      rw [observed_cons observes _ taken, ← List.append_assoc]
      exact ih (preserved _ _ _ _ allowed taken h)

end Observe

/-! ## Every state along a run -/

/-- `P` holds in every state that the actions lead through. -/
def Holds (step : σ → α → Option σ) (P : σ → Prop) : σ → List α → Prop
  | s, [] => P s
  | s, a :: as => P s ∧ ∀ t, step s a = some t → Holds step P t as

/-- Every action is allowed in the state it is taken in. -/
def Meets (step : σ → α → Option σ) (guard : σ → α → Prop) : σ → List α → Prop
  | _, [] => True
  | s, a :: as => ∀ t, step s a = some t → guard s a ∧ Meets step guard t as

theorem Holds.head {P : σ → Prop} {s : σ} {as : List α} (h : Holds step P s as) : P s := by
  cases as with
  | nil => exact h
  | cons a as => exact h.1

theorem Holds.last {P : σ → Prop} {s t : σ} {as : List α} (h : Holds step P s as)
    (run : Run step guard s as t) : P t := by
  induction run with
  | nil => exact h
  | cons _ taken _ ih => exact ih (h.2 _ taken)

/-- When the guard tells exactly which steps keep a property, it tells so for whole runs. -/
theorem holds_iff_meets {I P : σ → Prop} (preserved : ∀ s a t, step s a = some t → I s → I t)
    (exact : ∀ s a t, step s a = some t → I s → P s → (P t ↔ guard s a)) {s : σ} {as : List α}
    (hI : I s) (hP : P s) : Holds step P s as ↔ Meets step guard s as := by
  induction as generalizing s with
  | nil => exact iff_of_true hP trivial
  | cons a as ih =>
      refine (and_iff_right hP).trans (forall_congr' fun t => forall_congr' fun taken => ?_)
      have hguard := exact s a t taken hI hP
      by_cases hPt : P t
      · rw [ih (preserved s a t taken hI) hPt, and_iff_right (hguard.mp hPt)]
      · exact iff_of_false (fun h => hPt h.head) fun h => hPt (hguard.mpr h.1)

/-! ## Execution -/

/-- Executes a list of actions, stopping with `none` at one that is not enabled or not
allowed. -/
def runList (step : σ → α → Option σ) (guard : σ → α → Prop)
    [∀ s a, Decidable (guard s a)] (s : σ) : List α → Option σ
  | [] => some s
  | a :: as =>
    if guard s a then (step s a).bind fun t => runList step guard t as else none

theorem run_of_runList [∀ s a, Decidable (guard s a)] {s t : σ} {as : List α}
    (h : runList step guard s as = some t) : Run step guard s as t := by
  induction as generalizing s with
  | nil =>
      obtain rfl : s = t := by simpa [runList] using h
      exact .nil s
  | cons a as ih =>
      simp only [runList] at h
      split at h
      · rename_i hg
        obtain ⟨u, hu, hrest⟩ := Option.bind_eq_some_iff.mp h
        exact .cons hg hu (ih hrest)
      · cases h

/-- A check of the state a list of actions ends in exhibits a run to such a state. -/
theorem exists_run_of_any [∀ s a, Decidable (guard s a)] {s : σ} {as : List α} {p : σ → Bool}
    (h : (runList step guard s as).any p = true) : ∃ t, Run step guard s as t ∧ p t = true := by
  cases hrun : runList step guard s as with
  | none => simp [hrun] at h
  | some t => exact ⟨t, run_of_runList hrun, by simpa [hrun] using h⟩

end VpnHub.Transition
