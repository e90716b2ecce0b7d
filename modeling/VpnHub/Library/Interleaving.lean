import VpnHub.Library.Transition

/-! # Interleaved calls

Several calls are at work on one shared state. A call is a sequence of sections that nothing
interrupts; between two of its sections the other calls may go on in any order. -/

namespace VpnHub.Interleaving

universe u v w

variable {σ : Type u} {κ : Type v} {ρ : Type w}

/-- The shared state and all the calls so far. A call that has returned keeps its place. -/
structure Pool (σ : Type u) (κ : Type v) where
  shared : σ
  calls : List κ
  deriving DecidableEq

inductive Action (κ : Type v) where
  | start (c : κ)
  | resume (i : ℕ)

/-- A call is started, or goes on by one section. A call that has returned does not go on. -/
def Pool.step (advance : σ → κ → Option (σ × κ)) (p : Pool σ κ) : Action κ → Option (Pool σ κ)
  | .start c => some { p with calls := p.calls ++ [c] }
  | .resume i => p.calls[i]?.bind fun c =>
      (advance p.shared c).map fun out => { shared := out.1, calls := p.calls.set i out.2 }

/-- At most `n` sections of a call that nothing interrupts. -/
def alone (advance : σ → κ → Option (σ × κ)) : ℕ → σ → κ → σ × κ
  | 0, s, c => (s, c)
  | n + 1, s, c => match advance s c with
    | none => (s, c)
    | some (t, d) => alone advance n t d

variable {advance : σ → κ → Option (σ × κ)}

theorem step_cases {p q : Pool σ κ} {a : Action κ} (h : p.step advance a = some q) :
    (∃ c, a = .start c ∧ q = ⟨p.shared, p.calls ++ [c]⟩) ∨
      ∃ before c after t d, a = .resume before.length ∧ p.calls = before ++ c :: after ∧
        advance p.shared c = some (t, d) ∧ q = ⟨t, before ++ d :: after⟩ := by
  cases a with
  | start c => exact .inl ⟨c, rfl, (Option.some.inj h).symm⟩
  | resume i =>
      obtain ⟨c, hc, hstep⟩ := Option.bind_eq_some_iff.mp h
      obtain ⟨⟨t, d⟩, hadvance, rfl⟩ := Option.map_eq_some_iff.mp hstep
      obtain ⟨hi, rfl⟩ := List.getElem?_eq_some_iff.mp hc
      refine .inr ⟨p.calls.take i, p.calls[i], p.calls.drop (i + 1), t, d, ?_, ?_, hadvance, ?_⟩
      · rw [List.length_take_of_le (Nat.le_of_lt hi)]
      · rw [List.getElem_cons_drop, List.take_append_drop]
      · rw [List.set_eq_take_append_cons_drop, if_pos hi]

/-- The other calls are where they were. -/
theorem getElem?_middle {before after : List κ} {i : ℕ} (h : i ≠ before.length) (c d : κ) :
    (before ++ d :: after)[i]? = (before ++ c :: after)[i]? := by
  rw [List.getElem?_append, List.getElem?_append]
  split
  · rfl
  · obtain ⟨k, hk⟩ : ∃ k, i - before.length = k + 1 := ⟨i - before.length - 1, by omega⟩
    simp [hk]

/-- A call is where it was, or it has gone on by a section. -/
theorem call_of_step {p q : Pool σ κ} {a : Action κ} (h : p.step advance a = some q) {i : ℕ} {c : κ}
    (hc : p.calls[i]? = some c) : q.calls[i]? = some c ∨
      ∃ d, a = .resume i ∧ advance p.shared c = some (q.shared, d) ∧ q.calls[i]? = some d := by
  obtain ⟨new, rfl, rfl⟩ | ⟨before, e, after, t, d, rfl, hcalls, hadvance, rfl⟩ := step_cases h
  · obtain ⟨hi, -⟩ := List.getElem?_eq_some_iff.mp hc
    exact .inl (by rw [List.getElem?_append_left hi, hc])
  · rw [hcalls] at hc
    by_cases hi : i = before.length
    · subst hi
      obtain rfl : e = c := Option.some.inj (by simpa using hc)
      exact .inr ⟨d, rfl, hadvance, by simp⟩
    · exact .inl ((getElem?_middle hi e d).trans hc)

theorem step_resume {s t : σ} {c d : κ} (before after : List κ) (h : advance s c = some (t, d)) :
    Pool.step advance ⟨s, before ++ c :: after⟩ (.resume before.length) =
      some ⟨t, before ++ d :: after⟩ := by
  simp [Pool.step, h]

/-- Some sections of one call after another are a part of a run. -/
theorem run_alone {guard : Pool σ κ → Action κ → Prop} (hguard : ∀ p i, guard p (.resume i)) (n : ℕ)
    (s : σ) (c : κ) (before after : List κ) :
    ∃ as, Transition.Run (Pool.step advance) guard ⟨s, before ++ c :: after⟩ as
      ⟨(alone advance n s c).1, before ++ (alone advance n s c).2 :: after⟩ := by
  induction n generalizing s c with
  | zero => exact ⟨[], .nil _⟩
  | succ n ih =>
      rw [alone]
      cases hadvance : advance s c with
      | none => exact ⟨[], .nil _⟩
      | some out =>
          obtain ⟨as, run⟩ := ih out.1 out.2
          exact ⟨_, .cons (hguard _ _) (step_resume before after hadvance) run⟩

/-! ## What a call keeps and where it gets to -/

/-- What holds of the calls when they start and is kept by their sections holds of all calls. -/
theorem forall_calls {Q : κ → Prop} {guard : Pool σ κ → Action κ → Prop}
    (hstart : ∀ p c, guard p (.start c) → Q c)
    (hkeeps : ∀ s c t d, advance s c = some (t, d) → Q c → Q d) {p q : Pool σ κ}
    {as : List (Action κ)} (run : Transition.Run (Pool.step advance) guard p as q)
    (h : ∀ c ∈ p.calls, Q c) : ∀ c ∈ q.calls, Q c := by
  refine run.invariant (I := fun p => ∀ c ∈ p.calls, Q c) (fun p a q hguard hstep h => ?_) h
  obtain ⟨c, rfl, rfl⟩ | ⟨before, c, after, t, d, rfl, hcalls, hadvance, rfl⟩ := step_cases hstep
  · exact List.forall_mem_append.mpr ⟨h, List.forall_mem_singleton.mpr (hstart p c hguard)⟩
  · rw [hcalls, List.forall_mem_append, List.forall_mem_cons] at h
    exact List.forall_mem_append.mpr ⟨h.1, List.forall_mem_cons.mpr
      ⟨hkeeps _ c t d hadvance h.2.1, h.2.2⟩⟩

/-- A call keeps its place, and its sections lead it up an order as long as the state allows it. -/
theorem exists_later {I : σ → Prop} {R : κ → κ → Prop} (hrefl : ∀ c, R c c)
    (htrans : ∀ c d e, R c d → R d e → R c e) {guard : Pool σ κ → Action κ → Prop}
    (hsection : ∀ p i c t d, guard p (.resume i) → p.calls[i]? = some c → I p.shared →
      advance p.shared c = some (t, d) → I t ∧ R c d)
    {p q : Pool σ κ} {as : List (Action κ)}
    (run : Transition.Run (Pool.step advance) guard p as q) (hI : I p.shared) {i : ℕ} {c : κ}
    (hc : p.calls[i]? = some c) : I q.shared ∧ ∃ d, q.calls[i]? = some d ∧ R c d := by
  refine run.invariant (I := fun q => I q.shared ∧ ∃ d, q.calls[i]? = some d ∧ R c d)
    (fun q a r hguard hstep ⟨hI, d, hd, hR⟩ => ?_) ⟨hI, c, hc, hrefl c⟩
  have hallowed : I r.shared := by
    obtain ⟨e, -, rfl⟩ | ⟨before, e, after, t, f, rfl, hcalls, hadvance, rfl⟩ := step_cases hstep
    · exact hI
    · exact (hsection q _ e t f hguard (by simp [hcalls]) hI hadvance).1
  obtain hd' | ⟨f, rfl, hadvance, hf⟩ := call_of_step hstep hd
  · exact ⟨hallowed, d, hd', hR⟩
  · exact ⟨hallowed, f, hf, htrans _ _ _ hR (hsection q i d _ f hguard hd hI hadvance).2⟩

/-! ## Calls that have a resource to themselves -/

section Owner

variable (holds : κ → Option ρ) (starts : κ → Prop) (goes : σ → κ → Prop)

/-- The two calls do not hold the same resource. -/
def Apart (c d : κ) : Prop := ∀ r, holds c = some r → holds d ≠ some r

def Exclusive (calls : List κ) : Prop := calls.Pairwise (Apart holds)

/-- Only calls that may start are started, none on a resource that another call holds, and only
sections that may go on do. -/
def Free (p : Pool σ κ) : Action κ → Prop
  | .start c => starts c ∧ ∀ d ∈ p.calls, Apart holds d c
  | .resume i => ∀ c, p.calls[i]? = some c → goes p.shared c

/-- The call that holds the resource. -/
def owner [DecidableEq ρ] (r : ρ) (calls : List κ) : Option κ :=
  calls.find? fun c => decide (holds c = some r)

/-- What it takes to keep a property of each resource and the call that holds it: the call may
break it and restore it, and the other calls do not touch the resource. -/
structure OwnerRule (advance : σ → κ → Option (σ × κ)) (P : ρ → σ → Option κ → Prop) : Prop where
  start : ∀ r s c, starts c → holds c = some r → P r s none → P r s (some c)
  goesOn : ∀ r s c t d, goes s c → advance s c = some (t, d) → holds c = some r →
    holds d = some r → P r s (some c) → P r t (some d)
  returns : ∀ r s c t d, goes s c → advance s c = some (t, d) → holds c = some r →
    holds d ≠ some r → P r s (some c) → P r t none
  frame : ∀ r s c t d o, advance s c = some (t, d) → holds c ≠ some r → P r s o → P r t o
  takes : ∀ r s c t d, advance s c = some (t, d) → holds d = some r → holds c = some r

variable {holds starts goes}

theorem Apart.symm {c d : κ} (h : Apart holds c d) : Apart holds d c :=
  fun r hd hc => h r hc hd

theorem exclusive_middle {before after : List κ} {c : κ} :
    Exclusive holds (before ++ c :: after) ↔
      Exclusive holds (before ++ after) ∧ ∀ d ∈ before ++ after, Apart holds c d := by
  rw [Exclusive, List.pairwise_middle fun h => h.symm, List.pairwise_cons, and_comm]
  rfl

variable [DecidableEq ρ]

theorem owner_middle {before after : List κ} {c : κ} {r : ρ}
    (h : Exclusive holds (before ++ c :: after)) : owner holds r (before ++ c :: after) =
      if holds c = some r then some c else owner holds r (before ++ after) := by
  have hbefore (hc : holds c = some r) : owner holds r before = none := by
    refine List.find?_eq_none.mpr fun d hd => ?_
    simpa using (exclusive_middle.mp h).2 d (List.mem_append_left _ hd) r hc
  by_cases hc : holds c = some r
  · rw [owner] at hbefore
    rw [owner, List.find?_append, hbefore hc, if_pos hc, Option.none_or,
      List.find?_cons_of_pos (by simpa using hc)]
  · rw [owner, List.find?_append, List.find?_cons_of_neg (by simpa using hc), if_neg hc, owner,
      List.find?_append]

theorem owner_snoc {calls : List κ} {c : κ} {r : ρ} (h : ∀ d ∈ calls, Apart holds d c) :
    owner holds r (calls ++ [c]) = if holds c = some r then some c else owner holds r calls := by
  rw [owner, List.find?_append]
  by_cases hc : holds c = some r
  · have hnone : calls.find? (fun d => decide (holds d = some r)) = none :=
      List.find?_eq_none.mpr fun d hd => by simpa using fun hr => h d hd r hr hc
    rw [hnone, if_pos hc, Option.none_or, List.find?_cons_of_pos (by simpa using hc)]
  · rw [List.find?_cons_of_neg (by simpa using hc), List.find?_nil, Option.or_none, if_neg hc,
      owner]

variable {P : ρ → σ → Option κ → Prop}

/-- The property of each resource and its owner holds along every run in which no call is started
on a resource that another one holds. -/
theorem OwnerRule.invariant (rule : OwnerRule holds starts goes advance P) {p q : Pool σ κ}
    {as : List (Action κ)}
    (run : Transition.Run (Pool.step advance) (Free holds starts goes) p as q)
    (hexclusive : Exclusive holds p.calls) (hP : ∀ r, P r p.shared (owner holds r p.calls)) :
    Exclusive holds q.calls ∧ ∀ r, P r q.shared (owner holds r q.calls) := by
  refine run.invariant
    (I := fun p => Exclusive holds p.calls ∧ ∀ r, P r p.shared (owner holds r p.calls))
    (fun p a q hfree hstep ⟨hexclusive, hP⟩ => ?_) ⟨hexclusive, hP⟩
  obtain ⟨c, rfl, rfl⟩ | ⟨before, c, after, t, d, rfl, hcalls, hadvance, rfl⟩ := step_cases hstep
  · refine ⟨List.pairwise_append.mpr ⟨hexclusive, List.pairwise_singleton _ _, ?_⟩, fun r => ?_⟩
    · intro d hd e he
      obtain rfl := List.mem_singleton.mp he
      exact hfree.2 d hd
    · rw [owner_snoc hfree.2]
      split
      · rename_i hc
        have hnone : owner holds r p.calls = none :=
          List.find?_eq_none.mpr fun d hd => by simpa using fun hr => hfree.2 d hd r hr hc
        exact rule.start r _ c hfree.1 hc (hnone ▸ hP r)
      · exact hP r
  · have hgoes : goes p.shared c := hfree c (by simp [hcalls])
    rw [hcalls] at hexclusive hP
    have hrest := exclusive_middle.mp hexclusive
    have hnext : Exclusive holds (before ++ d :: after) :=
      exclusive_middle.mpr ⟨hrest.1, fun e he r hd =>
        hrest.2 e he r (rule.takes r _ c t d hadvance hd)⟩
    refine ⟨hnext, fun r => ?_⟩
    have hr := hP r
    rw [owner_middle hexclusive] at hr
    rw [owner_middle hnext]
    by_cases hc : holds c = some r
    · rw [if_pos hc] at hr
      split
      · rename_i hd
        exact rule.goesOn r _ c t d hgoes hadvance hc hd hr
      · rename_i hd
        have hnone : owner holds r (before ++ after) = none :=
          List.find?_eq_none.mpr fun e he => by simpa using hrest.2 e he r hc
        rw [hnone]
        exact rule.returns r _ c t d hgoes hadvance hc hd hr
    · rw [if_neg hc] at hr
      rw [if_neg fun hd => hc (rule.takes r _ c t d hadvance hd)]
      exact rule.frame r _ c t d _ hadvance hc hr

end Owner

end VpnHub.Interleaving
