import Mathlib.Data.List.Basic
import Mathlib.Data.List.Pairwise
import Mathlib.Order.Nat
import Mathlib.Tactic.Push

/-! # Tables of ranked entries

A table holds entries for destinations, at most one of each rank, and keeps the entries of a
destination in the order of their ranks. An entry takes the place of one with its destination
and rank. A deletion names some entries of one destination and takes the first of them in the
table, which is the one of the least rank.

The last part is about undoing: when deletions bring back the table from before entries were
put into it. -/

namespace VpnHub

structure Ranking (α δ : Type) where
  dest : α → δ
  rank : α → ℕ

namespace Ranking

variable {α β δ : Type} (R : Ranking α δ)

def SameKey (a b : α) : Prop := R.dest a = R.dest b ∧ R.rank a = R.rank b

/-- The entries of a destination stand in the order of their ranks. -/
def Ordered (t : List α) : Prop := t.Pairwise fun a b => R.dest a = R.dest b → R.rank a < R.rank b

variable {R} {a b e : α} {s t base : List α}

theorem SameKey.symm (h : R.SameKey a b) : R.SameKey b a := ⟨h.1.symm, h.2.symm⟩

theorem SameKey.trans {c : α} (h : R.SameKey a b) (h' : R.SameKey b c) : R.SameKey a c :=
  ⟨h.1.trans h'.1, h.2.trans h'.2⟩

theorem Ordered.nil : R.Ordered [] := List.Pairwise.nil

theorem Ordered.eraseP (h : R.Ordered t) (names : α → Bool) : R.Ordered (t.eraseP names) :=
  h.sublist List.eraseP_sublist

/-- A destination and a rank belong to one entry. -/
theorem Ordered.eq_of_sameKey (h : R.Ordered t) (ha : a ∈ t) (hb : b ∈ t)
    (hkey : R.SameKey a b) : a = b := by
  induction t with
  | nil => cases ha
  | cons c t ih =>
      obtain ⟨hc, ht⟩ := List.pairwise_cons.mp h
      rcases List.mem_cons.mp ha with rfl | hat
      · rcases List.mem_cons.mp hb with rfl | hbt
        · rfl
        · exact absurd hkey.2 (hc b hbt hkey.1).ne
      · rcases List.mem_cons.mp hb with rfl | hbt
        · exact absurd hkey.2.symm (hc a hat hkey.1.symm).ne
        · exact ih ht hat hbt

/-! ## Deleting entries -/

variable (R) in
/-- What is named belongs to one destination. -/
def OneDest (names : α → Bool) : Prop :=
  ∀ a b, names a = true → names b = true → R.dest a = R.dest b

/-- A deletion takes the entry of the least rank among those that it names. -/
theorem Ordered.mem_eraseP_iff (h : R.Ordered t) {names : α → Bool} (hone : R.OneDest names) :
    a ∈ t.eraseP names ↔
      a ∈ t ∧ (names a = true → ∃ b ∈ t, names b = true ∧ R.rank b < R.rank a) := by
  induction t with
  | nil => simp
  | cons c t ih =>
      obtain ⟨hc, ht⟩ := List.pairwise_cons.mp h
      by_cases hnamed : names c = true
      · rw [List.eraseP_cons_of_pos hnamed]
        constructor
        · intro ha
          exact ⟨List.mem_cons_of_mem c ha, fun hn =>
            ⟨c, List.mem_cons_self, hnamed, hc a ha (hone c a hnamed hn)⟩⟩
        · rintro ⟨ha, hless⟩
          rcases List.mem_cons.mp ha with rfl | ha
          · obtain ⟨b, hb, hbn, hlt⟩ := hless hnamed
            rcases List.mem_cons.mp hb with rfl | hb
            · exact absurd hlt (lt_irrefl _)
            · exact absurd hlt (hc b hb (hone a b hnamed hbn)).asymm
          · exact ha
      · rw [List.eraseP_cons_of_neg hnamed, List.mem_cons, List.mem_cons, ih ht]
        constructor
        · rintro (rfl | ⟨ha, hless⟩)
          · exact ⟨.inl rfl, (absurd · hnamed)⟩
          · refine ⟨.inr ha, fun hn => ?_⟩
            obtain ⟨b, hb, hrest⟩ := hless hn
            exact ⟨b, List.mem_cons_of_mem c hb, hrest⟩
        · rintro ⟨rfl | ha, hless⟩
          · exact .inl rfl
          · refine .inr ⟨ha, fun hn => ?_⟩
            obtain ⟨b, hb, hbn, hlt⟩ := hless hn
            rcases List.mem_cons.mp hb with rfl | hb
            · exact absurd hbn hnamed
            · exact ⟨b, hb, hbn, hlt⟩

/-- Deletions one after the other. -/
def deleteAll (names : β → α → Bool) (deletions : List β) (t : List α) : List α :=
  deletions.foldl (fun t d => t.eraseP (names d)) t

theorem deleteAll_subset (names : β → α → Bool) (deletions : List β) (t : List α) :
    deleteAll names deletions t ⊆ t := by
  induction deletions generalizing t with
  | nil => exact List.Subset.refl t
  | cons d ds ih => exact List.Subset.trans (ih _) List.eraseP_subset

/-! ## Undoing -/

variable (R) in
/-- The deletions take the added entries, all of them, and each comes before every initial
entry that the deletion also names. -/
def Undoes (names : β → α → Bool) (initial : List α) : List α → List β → Prop
  | added, [] => added = []
  | added, d :: ds =>
    (∀ a ∈ initial, names d a = true → ∃ b ∈ added, names d b = true ∧ R.rank b < R.rank a) ∧
      Undoes names initial (added.eraseP (names d)) ds

variable {initial added : List α}

/-- If no added entry that is named comes first, an initial one is taken. -/
theorem exists_taken {names : α → Bool} (ht : R.Ordered t) (hone : R.OneDest names)
    (hmem : ∀ a, a ∈ t ↔ a ∈ initial ∨ a ∈ added) (ha : a ∈ initial) (hnamed : names a = true)
    (hfirst : ∀ b ∈ added, names b = true → ¬ R.rank b < R.rank a) :
    ∃ c ∈ initial, c ∉ t.eraseP names := by
  induction hrank : R.rank a using Nat.strong_induction_on generalizing a with
  | _ n ih =>
      by_cases hin : a ∈ t.eraseP names
      · -- another initial entry comes first
        obtain ⟨b, hb, hbn, hlt⟩ := ((ht.mem_eraseP_iff hone).mp hin).2 hnamed
        rcases (hmem b).mp hb with hb | hb
        · refine ih (R.rank b) (hrank ▸ hlt) hb hbn (fun c hc hcn hlt' => ?_) rfl
          exact hfirst c hc hcn (hlt'.trans hlt)
        · exact absurd hlt (hfirst b hb hbn)
      · exact ⟨a, ha, hin⟩

/-- Deletions bring back the initial entries, and no others, iff they undo the additions. -/
theorem deleteAll_iff_undoes {names : β → α → Bool} (hone : ∀ d, R.OneDest (names d))
    {deletions : List β} (ht : R.Ordered t) (hadded : R.Ordered added)
    (hmem : ∀ a, a ∈ t ↔ a ∈ initial ∨ a ∈ added) (hdisjoint : ∀ a ∈ added, a ∉ initial) :
    (∀ a, a ∈ deleteAll names deletions t ↔ a ∈ initial) ↔
      R.Undoes names initial added deletions := by
  induction deletions generalizing t added with
  | nil =>
      simp only [deleteAll, List.foldl_nil, Undoes, hmem, or_iff_left_iff_imp,
        List.eq_nil_iff_forall_not_mem]
      exact ⟨fun h a ha => hdisjoint a ha (h a ha), fun h a ha => absurd ha (h a)⟩
  | cons d ds ih =>
      have hstep : (∀ a ∈ initial, names d a = true →
            ∃ b ∈ added, names d b = true ∧ R.rank b < R.rank a) →
          ∀ a, a ∈ t.eraseP (names d) ↔ a ∈ initial ∨ a ∈ added.eraseP (names d) := by
        intro hfirst a
        rw [ht.mem_eraseP_iff (hone d), hadded.mem_eraseP_iff (hone d), hmem]
        constructor
        · rintro ⟨ha | ha, hless⟩
          · exact .inl ha
          · refine .inr ⟨ha, fun hn => ?_⟩
            obtain ⟨b, hb, hbn, hlt⟩ := hless hn
            rcases (hmem b).mp hb with hb | hb
            · obtain ⟨c, hc, hcn, hlt'⟩ := hfirst b hb hbn
              exact ⟨c, hc, hcn, hlt'.trans hlt⟩
            · exact ⟨b, hb, hbn, hlt⟩
        · rintro (ha | ⟨ha, hless⟩)
          · refine ⟨.inl ha, fun hn => ?_⟩
            obtain ⟨b, hb, hrest⟩ := hfirst a ha hn
            exact ⟨b, (hmem b).mpr (.inr hb), hrest⟩
          · refine ⟨.inr ha, fun hn => ?_⟩
            obtain ⟨b, hb, hrest⟩ := hless hn
            exact ⟨b, (hmem b).mpr (.inr hb), hrest⟩
      have hrest (hfirst) := ih (ht.eraseP (names d)) (hadded.eraseP (names d)) (hstep hfirst)
        fun a ha => hdisjoint a (List.mem_of_mem_eraseP ha)
      constructor
      · intro h
        have hfirst : ∀ a ∈ initial, names d a = true →
            ∃ b ∈ added, names d b = true ∧ R.rank b < R.rank a := by
          by_contra hnone
          push Not at hnone
          obtain ⟨a, ha, hnamed, hlate⟩ := hnone
          obtain ⟨c, hc, hgone⟩ := exists_taken ht (hone d) hmem ha hnamed
            fun b hb hbn => not_lt.mpr (hlate b hb hbn)
          exact hgone (deleteAll_subset names ds _ ((h c).mpr hc))
        exact ⟨hfirst, (hrest hfirst).mp h⟩
      · rintro ⟨hfirst, h⟩
        exact (hrest hfirst).mpr h

/-! ## Entries over a table -/

variable (R) in
/-- The table `t` is `base` with the entries of `s` in place of those of the same keys. -/
structure Over (base s t : List α) : Prop where
  mem_iff : ∀ a, a ∈ t ↔ a ∈ s ∨ a ∈ base ∧ ∀ b ∈ s, ¬ R.SameKey a b
  top : R.Ordered s
  whole : R.Ordered t

theorem Over.nil (h : R.Ordered base) : R.Over base [] base where
  mem_iff a := by simp
  top := .nil
  whole := h

/-! ## Putting an entry -/

section Put

variable [DecidableEq δ]

variable (R) in
def put (e : α) : List α → List α
  | [] => [e]
  | a :: t =>
    if R.dest a = R.dest e ∧ R.rank a = R.rank e then e :: t
    else if R.dest a = R.dest e ∧ R.rank e < R.rank a then e :: a :: t
    else a :: put e t

theorem mem_put_self (e : α) (t : List α) : e ∈ R.put e t := by
  induction t with
  | nil => exact List.mem_singleton_self e
  | cons a t ih =>
      simp only [put]
      split
      · exact List.mem_cons_self
      · split
        · exact List.mem_cons_self
        · exact List.mem_cons_of_mem a ih

theorem mem_or_sameKey_of_mem (e : α) (h : a ∈ t) : a ∈ R.put e t ∨ R.SameKey a e := by
  induction t with
  | nil => cases h
  | cons b t ih =>
      simp only [put]
      split
      · rename_i hkey
        rcases List.mem_cons.mp h with rfl | h
        · exact .inr hkey
        · exact .inl (List.mem_cons_of_mem e h)
      · split
        · exact .inl (List.mem_cons_of_mem e h)
        · rcases List.mem_cons.mp h with rfl | h
          · exact .inl List.mem_cons_self
          · exact (ih h).imp (List.mem_cons_of_mem b) id

theorem mem_of_mem_put (h : a ∈ R.put e t) : a = e ∨ a ∈ t := by
  induction t with
  | nil => exact .inl (List.mem_singleton.mp h)
  | cons b t ih =>
      simp only [put] at h
      split at h
      · exact (List.mem_cons.mp h).imp id (List.mem_cons_of_mem b)
      · split at h
        · exact List.mem_cons.mp h
        · rcases List.mem_cons.mp h with rfl | h
          · exact .inr List.mem_cons_self
          · exact (ih h).imp id (List.mem_cons_of_mem b)

theorem Ordered.put (h : R.Ordered t) (e : α) : R.Ordered (R.put e t) := by
  induction t with
  | nil => exact List.pairwise_singleton _ e
  | cons a t ih =>
      obtain ⟨ha, ht⟩ := List.pairwise_cons.mp h
      simp only [Ranking.put]
      split
      · rename_i hkey
        refine List.pairwise_cons.mpr ⟨fun b hb hdest => ?_, ht⟩
        rw [← hkey.2]
        exact ha b hb (hkey.1.trans hdest)
      · rename_i hkey
        split
        · rename_i hlt
          refine List.pairwise_cons.mpr ⟨fun b hb hdest => ?_, h⟩
          rcases List.mem_cons.mp hb with rfl | hb
          · exact hlt.2
          · exact hlt.2.trans (ha b hb (hlt.1.trans hdest))
        · rename_i hlt
          refine List.pairwise_cons.mpr ⟨fun b hb hdest => ?_, ih ht⟩
          rcases mem_of_mem_put hb with rfl | hb
          · have hne : R.rank a ≠ R.rank b := fun heq => hkey ⟨hdest, heq⟩
            have hle : ¬ R.rank b < R.rank a := fun hlt' => hlt ⟨hdest, hlt'⟩
            omega
          · exact ha b hb hdest

theorem Ordered.mem_put_iff (h : R.Ordered t) :
    a ∈ R.put e t ↔ a = e ∨ a ∈ t ∧ ¬ R.SameKey a e := by
  constructor
  · intro ha
    by_cases hae : a = e
    · exact .inl hae
    · refine .inr ⟨(mem_of_mem_put ha).resolve_left hae, fun hkey => hae ?_⟩
      exact (h.put e).eq_of_sameKey ha (mem_put_self e t) hkey
  · rintro (rfl | ⟨ha, hkey⟩)
    · exact mem_put_self a t
    · exact (mem_or_sameKey_of_mem e ha).resolve_right hkey

theorem Over.put (h : R.Over base s t) (e : α) : R.Over base (R.put e s) (R.put e t) where
  mem_iff a := by
    rw [h.whole.mem_put_iff, h.mem_iff, h.top.mem_put_iff]
    have hrest : (∀ b ∈ R.put e s, ¬ R.SameKey a b) ↔
        ¬ R.SameKey a e ∧ ∀ b ∈ s, ¬ R.SameKey a b := by
      constructor
      · refine fun hall => ⟨hall e (mem_put_self e s), fun b hb hab => ?_⟩
        rcases mem_or_sameKey_of_mem (R := R) e hb with hb | hbe
        · exact hall b hb hab
        · exact hall e (mem_put_self e s) (hab.trans hbe)
      · rintro ⟨he, hall⟩ b hb
        rcases mem_of_mem_put hb with rfl | hb
        · exact he
        · exact hall b hb
    rw [hrest]
    tauto
  top := h.top.put e
  whole := h.whole.put e

end Put

/-! ## Undoing what was put -/

variable [DecidableEq α]

instance instDecidableUndoes (names : β → α → Bool) (initial : List α) :
    ∀ added deletions, Decidable (R.Undoes names initial added deletions)
  | added, [] => inferInstanceAs (Decidable (added = []))
  | added, d :: ds =>
    have : Decidable (R.Undoes names initial (added.eraseP (names d)) ds) :=
      instDecidableUndoes names initial _ ds
    inferInstanceAs (Decidable (_ ∧ _))

instance [DecidableEq δ] (a b : α) : Decidable (R.SameKey a b) :=
  inferInstanceAs (Decidable (_ ∧ _))

/-- Entries put over a table are undone by deletions iff they overwrite no other entry and the
deletions undo what they add. -/
theorem Over.deleteAll_iff {names : β → α → Bool} (hone : ∀ d, R.OneDest (names d))
    {deletions : List β} (h : R.Over initial s t) :
    (∀ a, a ∈ deleteAll names deletions t ↔ a ∈ initial) ↔
      (∀ e ∈ s, ∀ a ∈ initial, R.SameKey a e → a = e) ∧
        R.Undoes names initial (s.filter (· ∉ initial)) deletions := by
  have hmem (hsame : ∀ e ∈ s, ∀ a ∈ initial, R.SameKey a e → a = e) (a : α) :
      a ∈ t ↔ a ∈ initial ∨ a ∈ s.filter (· ∉ initial) := by
    rw [h.mem_iff, List.mem_filter, decide_eq_true_iff]
    constructor
    · rintro (ha | ⟨ha, -⟩)
      · by_cases hin : a ∈ initial
        · exact .inl hin
        · exact .inr ⟨ha, hin⟩
      · exact .inl ha
    · rintro (ha | ⟨ha, -⟩)
      · by_cases hset : ∃ e ∈ s, R.SameKey a e
        · obtain ⟨e, he, hkey⟩ := hset
          exact .inl (hsame e he a ha hkey ▸ he)
        · push Not at hset
          exact .inr ⟨ha, hset⟩
      · exact .inl ha
  have hundoes (hsame : ∀ e ∈ s, ∀ a ∈ initial, R.SameKey a e → a = e) :
      (∀ a, a ∈ deleteAll names deletions t ↔ a ∈ initial) ↔
        R.Undoes names initial (s.filter (· ∉ initial)) deletions :=
    deleteAll_iff_undoes hone h.whole (h.top.filter (· ∉ initial)) (hmem hsame)
      fun a ha => of_decide_eq_true (List.mem_filter.mp ha).2
  constructor
  · intro hback
    have hsame : ∀ e ∈ s, ∀ a ∈ initial, R.SameKey a e → a = e := by
      intro e he a ha hkey
      -- an overwritten entry does not come back
      have hkept := deleteAll_subset names deletions t ((hback a).mpr ha)
      rcases (h.mem_iff a).mp hkept with hset | ⟨-, hnone⟩
      · exact h.top.eq_of_sameKey hset he hkey
      · exact absurd hkey (hnone e he)
    exact ⟨hsame, (hundoes hsame).mp hback⟩
  · rintro ⟨hsame, hundo⟩
    exact (hundoes hsame).mpr hundo

end Ranking

end VpnHub
