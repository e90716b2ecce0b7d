import Mathlib.Data.Nat.Basic
import Mathlib.Logic.Relation

/-! # Loops

A loop takes turns until one of them returns. Where every turn decreases a measure or leaves the
state as it is, the loop can fail to end in one way only: it spins. -/

namespace VpnHub.Loop

universe u v

variable {σ : Type u} {ρ : Type v}

/-- Takes up to `n` turns, each leading to a new state or returning. -/
def iterate (turn : σ → σ ⊕ ρ) : ℕ → σ → Option ρ
  | 0, _ => none
  | n + 1, s =>
    match turn s with
    | .inl t => iterate turn n t
    | .inr r => some r

/-- Turns lead from one state to another. -/
def Leads (turn : σ → σ ⊕ ρ) : σ → σ → Prop :=
  Relation.ReflTransGen fun s t => turn s = .inl t

def Ends (turn : σ → σ ⊕ ρ) (s : σ) : Prop := ∃ n r, iterate turn n s = some r

variable {turn : σ → σ ⊕ ρ} {s t : σ} {r : ρ} {n : ℕ}

theorem iterate_of_inl (h : turn s = .inl t) : iterate turn (n + 1) s = iterate turn n t := by
  simp [iterate, h]

theorem iterate_of_inr (h : turn s = .inr r) : iterate turn (n + 1) s = some r := by
  simp [iterate, h]

theorem Leads.head (h : turn s = .inl t) {u : σ} (rest : Leads turn t u) : Leads turn s u :=
  Relation.ReflTransGen.head h rest

theorem Ends.of_turn (h : Ends turn t) (hturn : turn s = .inl t) : Ends turn s := by
  obtain ⟨n, r, hiterate⟩ := h
  exact ⟨n + 1, r, by rw [iterate_of_inl hturn, hiterate]⟩

/-- What a loop returns does not change on the way. -/
theorem iterate_of_leads (h : iterate turn n s = some r) (leads : Leads turn s t) :
    ∃ m, iterate turn m t = some r := by
  induction leads with
  | refl => exact ⟨n, h⟩
  | tail _ hturn ih =>
      obtain ⟨m, hiterate⟩ := ih
      cases m with
      | zero => cases hiterate
      | succ m =>
          rw [iterate_of_inl hturn] at hiterate
          exact ⟨m, hiterate⟩

/-- A loop that ends does so from every state it gets to. -/
theorem Ends.of_leads (h : Ends turn s) (leads : Leads turn s t) : Ends turn t := by
  obtain ⟨n, r, hiterate⟩ := h
  obtain ⟨m, hiterate⟩ := iterate_of_leads hiterate leads
  exact ⟨m, r, hiterate⟩

/-- A loop that gets to a state where it returns ends. -/
theorem Leads.ends (leads : Leads turn s t) (hturn : turn t = .inr r) : Ends turn s := by
  induction leads using Relation.ReflTransGen.head_induction_on with
  | refl => exact ⟨1, r, iterate_of_inr hturn⟩
  | head hhead _ ih => exact ih.of_turn hhead

/-- A state that a turn leaves as it is stays for ever. -/
theorem not_ends_of_spins (h : turn s = .inl s) : ¬ Ends turn s := by
  rintro ⟨n, r, hiterate⟩
  induction n with
  | zero => cases hiterate
  | succ n ih =>
      rw [iterate_of_inl h] at hiterate
      exact ih hiterate

/-- With enough turns for the measure, a loop that does not spin has ended. -/
theorem exists_iterate (measure : σ → ℕ)
    (progress : ∀ t u, Leads turn s t → turn t = .inl u → measure u < measure t)
    (hn : measure s < n) : ∃ r, iterate turn n s = some r := by
  induction n generalizing s with
  | zero => omega
  | succ n ih =>
      cases hturn : turn s with
      | inl t =>
          have hlt := progress s t .refl hturn
          rw [iterate_of_inl hturn]
          exact ih (fun u v leads => progress u v (leads.head hturn)) (by omega)
      | inr r => exact ⟨r, iterate_of_inr hturn⟩

/-- A loop that can only decrease a measure or stay where it is ends exactly when it gets to no
state where it stays. -/
theorem ends_iff (measure : σ → ℕ)
    (progress : ∀ t u, Leads turn s t → turn t = .inl u → u = t ∨ measure u < measure t) :
    Ends turn s ↔ ∀ t, Leads turn s t → turn t ≠ .inl t := by
  constructor
  · intro h t leads hspins
    exact not_ends_of_spins hspins (h.of_leads leads)
  · intro hnot
    obtain ⟨r, h⟩ := exists_iterate measure (n := measure s + 1) (fun t u leads hturn => by
      obtain rfl | hlt := progress t u leads hturn
      · exact absurd hturn (hnot _ leads)
      · exact hlt) (Nat.lt_succ_self _)
    exact ⟨_, r, h⟩

end VpnHub.Loop
