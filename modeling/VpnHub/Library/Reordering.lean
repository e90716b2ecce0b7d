import Mathlib.Data.List.Perm.Basic

/-! # Reorderings by key

A reordering moves elements past others with another key. What a fold reads off through elements
of one key only is the same for every reordering of the list. -/

namespace VpnHub

variable {α κ σ β : Type*} [DecidableEq κ] {key : α → κ} {l l' : List α}

/-- The same elements, and those with one key in the same order. -/
structure Reordered (key : α → κ) (l l' : List α) : Prop where
  perm : l.Perm l'
  filter_eq : ∀ k, l.filter (key · = k) = l'.filter (key · = k)

namespace Reordered

private theorem filter_not_eq {k j : κ} (h : j ≠ k) (l : List α) :
    (l.filter fun a => ¬ key a = k).filter (key · = j) = l.filter (key · = j) := by
  rw [List.filter_filter]
  refine List.filter_congr fun a _ => ?_
  by_cases ha : key a = j
  · simp [ha, h]
  · simp [ha]

private theorem filter_eq_nil {k j : κ} (h : j ≠ k) (l : List α) :
    (l.filter (key · = k)).filter (key · = j) = [] := by
  rw [List.filter_eq_nil_iff]
  intro a ha
  have hk : key a = k := by simpa using (List.mem_filter.mp ha).2
  simp [hk, h.symm]

/-- Two neighbours with different keys change places. -/
theorem swap {a b : α} (h : key a ≠ key b) (l : List α) :
    Reordered key (a :: b :: l) (b :: a :: l) := by
  refine ⟨.swap b a l, fun k => ?_⟩
  by_cases ha : key a = k
  · have hb : key b ≠ k := fun hb => h (ha.trans hb.symm)
    simp [ha, hb]
  · simp [ha, List.filter_cons]

/-- The elements with one key at the end. -/
theorem moveLast (key : α → κ) (k : κ) (l : List α) :
    Reordered key l ((l.filter fun a => ¬ key a = k) ++ l.filter (key · = k)) := by
  refine ⟨?_, fun j => ?_⟩
  · have h := (List.filter_append_perm (fun a => key a = k) l).symm
    simpa using h.trans List.perm_append_comm
  · rw [List.filter_append]
    by_cases hj : j = k
    · subst hj
      simp [List.filter_filter]
    · rw [filter_not_eq hj, filter_eq_nil hj, List.append_nil]

/-- The elements with one key at the front. -/
theorem moveFirst (key : α → κ) (k : κ) (l : List α) :
    Reordered key l (l.filter (key · = k) ++ l.filter fun a => ¬ key a = k) := by
  refine ⟨?_, fun j => ?_⟩
  · simpa using (List.filter_append_perm (fun a => key a = k) l).symm
  · rw [List.filter_append]
    by_cases hj : j = k
    · subst hj
      simp [List.filter_filter]
    · rw [filter_not_eq hj, filter_eq_nil hj, List.nil_append]

end Reordered

/-! ## Folds -/

section Fold

variable {step : σ → α → σ} {read : σ → β} {own : α → Bool}

/-- What only some of the elements change is read off the fold over these. -/
theorem read_foldl_filter (hframe : ∀ s a, own a = false → read (step s a) = read s)
    (halone : ∀ s t a, read s = read t → read (step s a) = read (step t a)) (l : List α) {s t : σ}
    (h : read s = read t) : read (l.foldl step s) = read ((l.filter own).foldl step t) := by
  induction l generalizing s t with
  | nil => exact h
  | cons a l ih =>
      cases hown : own a with
      | true =>
          rw [List.filter_cons_of_pos hown]
          exact ih (halone s t a h)
      | false =>
          rw [List.filter_cons_of_neg (by simp [hown])]
          exact ih ((hframe s a hown).trans h)

theorem Reordered.read_foldl_eq (h : Reordered key l l') {k : κ}
    (hframe : ∀ s a, key a ≠ k → read (step s a) = read s)
    (halone : ∀ s t a, read s = read t → read (step s a) = read (step t a)) (s : σ) :
    read (l.foldl step s) = read (l'.foldl step s) := by
  have hframe : ∀ s a, decide (key a = k) = false → read (step s a) = read s :=
    fun s a ha => hframe s a (of_decide_eq_false ha)
  rw [read_foldl_filter hframe halone l rfl, h.filter_eq, ← read_foldl_filter hframe halone l' rfl]

theorem read_foldl_of_forall (hframe : ∀ s, ∀ a ∈ l, read (step s a) = read s) (s : σ) :
    read (l.foldl step s) = read s := by
  induction l generalizing s with
  | nil => rfl
  | cons a l ih =>
      rw [List.foldl_cons, ih fun s b hb => hframe s b (List.mem_cons_of_mem _ hb),
        hframe s a (by simp)]

end Fold

end VpnHub
