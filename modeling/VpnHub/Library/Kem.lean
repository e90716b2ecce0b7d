import Mathlib.Logic.Basic

/-! # Key encapsulation

Mechanisms with their randomness as an argument, and two of them side by side: what both parts
agree on is agreed on by the whole. -/

namespace VpnHub

universe u

/-- The public key of a secret one, a ciphertext with a shared key for it, and the shared key of a
ciphertext. -/
structure Kem (P S R C K E : Type u) where
  publicKey : S → P
  encapsulate : P → R → Except E (C × K)
  decapsulate : S → C → Except E K

namespace Kem

variable {P P' S S' R R' C C' K K' L E : Type u}

/-- Both sides have the same key. -/
def Agrees (kem : Kem P S R C K E) (secret : S) (random : R) : Prop :=
  ∃ c k, kem.encapsulate (kem.publicKey secret) random = .ok (c, k) ∧
    kem.decapsulate secret c = .ok k

/-- An exchange of public keys: the ciphertext is the other public key. -/
def ofExchange (E : Type u) (publicKey : S → P) (exchange : S → P → K) : Kem P S S P K E where
  publicKey
  encapsulate peer ephemeral := .ok (publicKey ephemeral, exchange ephemeral peer)
  decapsulate secret peer := .ok (exchange secret peer)

theorem agrees_ofExchange {publicKey : S → P} {exchange : S → P → K}
    (h : ∀ s t, exchange s (publicKey t) = exchange t (publicKey s)) (s t : S) :
    (ofExchange E publicKey exchange).Agrees s t :=
  ⟨publicKey t, exchange t (publicKey s), rfl, congrArg Except.ok (h s t)⟩

/-- Two mechanisms side by side. Their keys are combined in the end. -/
def combine (first : Kem P S R C K E) (second : Kem P' S' R' C' K' E)
    (combiner : K → K' → Except E L) : Kem (P × P') (S × S') (R × R') (C × C') L E where
  publicKey secret := (first.publicKey secret.1, second.publicKey secret.2)
  encapsulate peer random := do
    let (c, k) ← first.encapsulate peer.1 random.1
    let (c', k') ← second.encapsulate peer.2 random.2
    let l ← combiner k k'
    return ((c, c'), l)
  decapsulate secret cipher := do
    let k ← first.decapsulate secret.1 cipher.1
    let k' ← second.decapsulate secret.2 cipher.2
    combiner k k'

variable {first : Kem P S R C K E} {second : Kem P' S' R' C' K' E} {combiner : K → K' → Except E L}
  {secret : S × S'}

theorem Agrees.combine {random : R × R'} (h : first.Agrees secret.1 random.1)
    (h' : second.Agrees secret.2 random.2) (hcombiner : ∀ k k', ∃ l, combiner k k' = .ok l) :
    (first.combine second combiner).Agrees secret random := by
  obtain ⟨c, k, hencapsulate, hdecapsulate⟩ := h
  obtain ⟨c', k', hencapsulate', hdecapsulate'⟩ := h'
  obtain ⟨l, hl⟩ := hcombiner k k'
  refine ⟨(c, c'), l, ?_, ?_⟩
  · simp only [Kem.combine, hencapsulate, hencapsulate']
    exact congrArg (Except.map _) hl
  · simp only [Kem.combine, hdecapsulate, hdecapsulate']
    exact hl

end Kem

end VpnHub
