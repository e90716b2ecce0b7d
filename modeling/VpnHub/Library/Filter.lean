import Mathlib.Data.List.Basic

/-! # First-match filters

Chains of rules as packet filters evaluate them: the first rule that applies to a packet
decides, and the policy of the chain decides where none does. -/

namespace VpnHub.Filter

universe u v

variable {ρ : Type u} {π : Type v}

inductive Verdict where
  | accept
  | drop
  deriving DecidableEq, Repr

structure Chain (ρ : Type u) where
  policy : Verdict
  rules : List ρ
  deriving DecidableEq, Repr

/-- What the first rule that applies says; `meaning` gives the verdict of a rule on the
packets it applies to. -/
def firstMatch (meaning : ρ → π → Option Verdict) (rules : List ρ) (p : π) : Option Verdict :=
  rules.findSome? fun r => meaning r p

def Chain.verdict (meaning : ρ → π → Option Verdict) (chain : Chain ρ) (p : π) : Verdict :=
  (firstMatch meaning chain.rules p).getD chain.policy

variable {meaning : ρ → π → Option Verdict} {rules : List ρ} {p : π}

theorem firstMatch_append (first second : List ρ) :
    firstMatch meaning (first ++ second) p =
      (firstMatch meaning first p).or (firstMatch meaning second p) := by
  simp [firstMatch, List.findSome?_append]

theorem firstMatch_ne {v : Verdict} (h : ∀ r ∈ rules, meaning r p ≠ some v) :
    firstMatch meaning rules p ≠ some v := by
  intro hv
  obtain ⟨r, hr, hm⟩ := List.exists_of_findSome?_eq_some hv
  exact h r hr hm

/-- A packet that some rule accepts and none drops is accepted. -/
theorem firstMatch_eq_accept {r : ρ} (hr : r ∈ rules) (haccept : meaning r p = some .accept)
    (h : ∀ r ∈ rules, meaning r p ≠ some .drop) : firstMatch meaning rules p = some .accept := by
  have hne := firstMatch_ne h
  cases hm : firstMatch meaning rules p with
  | none =>
      have hnone := List.findSome?_eq_none_iff.mp hm r hr
      rw [haccept] at hnone
      cases hnone
  | some v =>
      cases v with
      | accept => rfl
      | drop => exact absurd hm hne

/-- The policy decides where no rule says otherwise. -/
theorem Chain.verdict_eq_policy {chain : Chain ρ}
    (h : ∀ r ∈ chain.rules, ∀ v, meaning r p = some v → v = chain.policy) :
    chain.verdict meaning p = chain.policy := by
  rw [Chain.verdict]
  cases hm : firstMatch meaning chain.rules p with
  | none => rfl
  | some v =>
      obtain ⟨r, hr, hv⟩ := List.exists_of_findSome?_eq_some hm
      exact h r hr v hv

/-- Rules put before those of a chain decide where they apply. -/
theorem Chain.verdict_append (policy : Verdict) (first second : List ρ) :
    Chain.verdict meaning ⟨policy, first ++ second⟩ p =
      (firstMatch meaning first p).getD (Chain.verdict meaning ⟨policy, second⟩ p) := by
  rw [Chain.verdict, firstMatch_append]
  cases firstMatch meaning first p <;> rfl

end VpnHub.Filter
