import VpnHub.Verification.AntiReplay.Words

/-! # The anti-replay window refines its set specification -/

namespace VpnHub.Crypto.AntiReplayWindow

open SlidingWindow

/-- A window that has accepted nothing, or one whose maximum and bitmap represent the
accepted numbers. -/
inductive Refines (w : AntiReplayWindow) : Finset ℕ → Prop where
  | empty (hinit : w.initialized = false) (hmask : w.mask = 0) : Refines w ∅
  | live {admitted : Finset ℕ} (hinit : w.initialized = true)
      (hrep : Represents 128 w.maxSeq.toNat w.mask admitted) : Refines w admitted

theorem refines_new : new.Refines ∅ :=
  .empty rfl (by decide)

/-! ## One call -/

theorem windowSize_toNat : windowSize.toNat = 128 := rfl

theorem toNat_sub_of_not_gt {w : AntiReplayWindow} {seq : UInt64} (h : ¬ seq > w.maxSeq) :
    (w.maxSeq - seq).toNat = w.maxSeq.toNat - seq.toNat :=
  UInt64.toNat_sub_of_le _ _ (by simpa using h)

/-- Accepting a number above the maximum. -/
theorem refines_advance {w : AntiReplayWindow} {seq : UInt64} {admitted : Finset ℕ}
    (hinit : w.initialized = true)
    (hrep : Represents 128 w.maxSeq.toNat w.mask admitted) (h : seq > w.maxSeq) (count : UInt64) :
    Refines { w.advance (seq - w.maxSeq) with maxSeq := seq, acceptedCount := count }
      (insert seq.toNat admitted) := by
  have hlt : w.maxSeq.toNat < seq.toNat := UInt64.lt_iff_toNat_lt.mp h
  have hsub : (seq - w.maxSeq).toNat = seq.toNat - w.maxSeq.toNat :=
    UInt64.toNat_sub_of_le _ _ (UInt64.le_of_lt h)
  have hmask := w.mask_advance (show 0 < (seq - w.maxSeq).toNat by omega)
  refine .live ?_ ?_
  · simp only [advance]
    split
    · exact hinit
    · split <;> exact hinit
  · have hslide := hrep.slide hlt
    rw [← hsub, ← hmask] at hslide
    exact hslide

/-- Accepting a number inside the window. -/
theorem refines_orWord {w : AntiReplayWindow} {seq : UInt64} {admitted : Finset ℕ}
    (hinit : w.initialized = true)
    (hrep : Represents 128 w.maxSeq.toNat w.mask admitted) (h : ¬ seq > w.maxSeq)
    (hd : (w.maxSeq - seq).toNat < 128) (count : UInt64) :
    Refines { w.orWord ((w.maxSeq - seq) / 64) (1 <<< ((w.maxSeq - seq) % 64)) with
        acceptedCount := count } (insert seq.toNat admitted) := by
  have hle : seq.toNat ≤ w.maxSeq.toNat := by simpa [UInt64.lt_iff_toNat_lt] using h
  have hmask := w.mask_orWord hd
  have hmark := hrep.mark hle
  rw [← toNat_sub_of_not_gt h, ← hmask] at hmark
  refine .live ?_ ?_
  · simp only [orWord]
    split <;> exact hinit
  · have hmax : (w.orWord ((w.maxSeq - seq) / 64) (1 <<< ((w.maxSeq - seq) % 64))).maxSeq =
        w.maxSeq := by
      simp only [orWord]
      split <;> rfl
    simp only [hmax]
    exact hmark

/-- A call returns `Ok` exactly on fresh numbers and then records the number; otherwise it
only counts the rejection. -/
theorem checkAndUpdate_spec {w : AntiReplayWindow} {admitted : Finset ℕ}
    (h : w.Refines admitted) (seq : UInt64) :
    (Fresh 128 admitted seq.toNat ∧ (w.checkAndUpdate seq).1 = .ok () ∧
      (w.checkAndUpdate seq).2.Refines (insert seq.toNat admitted)) ∨
    (¬ Fresh 128 admitted seq.toNat ∧
      w.checkAndUpdate seq = (.error (.antiReplayRejection seq w.windowBase),
        { w with rejectedCount := w.rejectedCount + 1 })) := by
  cases h with
  | empty hinit hmask =>
      refine .inl ⟨fresh_empty _ _, by simp [checkAndUpdate, hinit], ?_⟩
      have hrep := represents_singleton 128 seq.toNat
      simp only [checkAndUpdate, hinit, Bool.not_false, if_true]
      refine .live rfl ?_
      simpa [mask, join] using hrep
  | live hinit hrep =>
      simp only [checkAndUpdate, hinit, Bool.not_true, Bool.false_eq_true, if_false]
      rw [hrep.fresh_iff]
      by_cases hgt : seq > w.maxSeq
      · simp only [if_pos hgt]
        exact .inl ⟨.inl (UInt64.lt_iff_toNat_lt.mp hgt), trivial,
          refines_advance hinit hrep hgt _⟩
      · have hle : ¬ w.maxSeq.toNat < seq.toNat := by
          simpa [UInt64.lt_iff_toNat_lt] using hgt
        have hsub := toNat_sub_of_not_gt hgt
        simp only [if_neg hgt, hle, false_or, ← hsub]
        by_cases hold : w.maxSeq - seq ≥ windowSize
        · simp only [if_pos hold]
          have hold' : 128 ≤ (w.maxSeq - seq).toNat := by
            simpa [UInt64.le_iff_toNat_le, windowSize_toNat] using hold
          exact .inr ⟨by omega, trivial⟩
        · have hnew : (w.maxSeq - seq).toNat < 128 := by
            simpa [UInt64.le_iff_toNat_le, windowSize_toNat] using hold
          have htest := w.word_test hnew
          simp only [if_neg hold]
          by_cases hseen : w.word ((w.maxSeq - seq) / 64) &&&
              (1 <<< ((w.maxSeq - seq) % 64)) ≠ 0
          · simp only [if_pos hseen]
            exact .inr ⟨by simp [htest.mp hseen], trivial⟩
          · simp only [if_neg hseen]
            have hclear := (not_congr htest).mp hseen
            exact .inl ⟨⟨hnew, by simpa using hclear⟩, trivial,
              refines_orWord hinit hrep hgt hnew _⟩

/-- The read-only check predicts the outcome of the update in every state. -/
theorem checkOnly_eq (w : AntiReplayWindow) (seq : UInt64) :
    w.checkOnly seq = (w.checkAndUpdate seq).1 := by
  unfold checkOnly checkAndUpdate
  split
  · rfl
  · split
    · rfl
    · dsimp only
      split
      · rfl
      · split <;> rfl

theorem checkAndUpdate_ok_iff {w : AntiReplayWindow} {admitted : Finset ℕ}
    (h : w.Refines admitted) (seq : UInt64) :
    (w.checkAndUpdate seq).1 = .ok () ↔ Fresh 128 admitted seq.toNat := by
  rcases checkAndUpdate_spec h seq with ⟨hf, hok, -⟩ | ⟨hf, he⟩
  · simp [hf, hok]
  · simp [hf, he]

/-- The abstract call: whatever the outcome, the window goes on to refine `record`. -/
theorem checkAndUpdate_refines {w : AntiReplayWindow} {admitted : Finset ℕ}
    (h : w.Refines admitted) (seq : UInt64) :
    (w.checkAndUpdate seq).2.Refines (record 128 admitted seq.toNat) := by
  rcases checkAndUpdate_spec h seq with ⟨hf, -, hr⟩ | ⟨hf, he⟩
  · rwa [record, if_pos hf]
  · rw [record, if_neg hf, he]
    cases h with
    | empty hinit hmask => exact .empty hinit hmask
    | live hinit hrep => exact .live hinit hrep

/-! ## Whole histories -/

/-- The numbers accepted along a history, as naturals. -/
def acceptedSet (w : AntiReplayWindow) (seqs : List UInt64) : Finset ℕ :=
  ((w.accepted seqs).map UInt64.toNat).toFinset

theorem mem_acceptedSet (w : AntiReplayWindow) (seqs : List UInt64) (seq : UInt64) :
    seq.toNat ∈ w.acceptedSet seqs ↔ seq ∈ w.accepted seqs := by
  simp [acceptedSet, UInt64.toNat_inj]

theorem accepted_cons (w : AntiReplayWindow) (seq : UInt64) (seqs : List UInt64) :
    w.accepted (seq :: seqs) =
      (if (w.checkAndUpdate seq).1 = .ok () then [seq] else []) ++
        (w.checkAndUpdate seq).2.accepted seqs := by
  simp only [accepted]
  cases (w.checkAndUpdate seq).1 with
  | ok u => simp
  | error e => simp

/-- By induction on the history, each call extending the admitted set by what it accepts. -/
theorem feed_refines (seqs : List UInt64) :
    ∀ {w : AntiReplayWindow} {admitted : Finset ℕ}, w.Refines admitted →
      (w.feed seqs).Refines (admitted ∪ w.acceptedSet seqs) := by
  induction seqs with
  | nil =>
      intro w admitted h
      simpa [feed, acceptedSet, accepted] using h
  | cons seq seqs ih =>
      intro w admitted h
      have hnext := ih (checkAndUpdate_refines h seq)
      have hset : record 128 admitted seq.toNat ∪ (w.checkAndUpdate seq).2.acceptedSet seqs =
          admitted ∪ w.acceptedSet (seq :: seqs) := by
        have hok := checkAndUpdate_ok_iff h seq
        rw [acceptedSet, acceptedSet, accepted_cons, record]
        by_cases hf : Fresh 128 admitted seq.toNat
        · rw [if_pos hf, if_pos (hok.mpr hf)]
          simp [Finset.insert_union, Finset.union_insert]
        · rw [if_neg hf, if_neg (mt hok.mp hf)]
          simp
      rwa [hset] at hnext

theorem feed_new_refines (seqs : List UInt64) :
    (new.feed seqs).Refines (new.acceptedSet seqs) := by
  simpa using feed_refines seqs refines_new

/-- In every state reached from the empty window, a call returns `Ok` exactly on numbers
not accepted before and less than 128 below the maximum accepted one; the stored maximum
and bitmap describe the accepted numbers; the read-only check agrees with the update; and
a rejection leaves maximum and bitmap alone. -/
theorem antiReplayWindow_refines_set (history : List UInt64) (seq : UInt64) :
    let w : AntiReplayWindow := new.feed history
    let accepted := new.accepted history
    ((w.checkAndUpdate seq).1 = .ok () ↔
      seq ∉ accepted ∧
        (accepted = [] ∨
          ∃ m ∈ accepted, (∀ n ∈ accepted, n ≤ m) ∧ seq.toNat + 128 > m.toNat)) ∧
    (accepted ≠ [] → w.maxSeq ∈ accepted ∧ ∀ n ∈ accepted, n ≤ w.maxSeq) ∧
    (∀ k < 128, k ≤ w.maxSeq.toNat →
      ((w.bitmap1.toNat <<< 64 ||| w.bitmap0.toNat).testBit k = true ↔
        ∃ n ∈ accepted, n.toNat = w.maxSeq.toNat - k)) ∧
    (w.checkOnly seq = .ok () ↔ (w.checkAndUpdate seq).1 = .ok ()) ∧
    ((w.checkAndUpdate seq).1 ≠ .ok () →
      (w.checkAndUpdate seq).2.maxSeq = w.maxSeq ∧
      (w.checkAndUpdate seq).2.bitmap0 = w.bitmap0 ∧
      (w.checkAndUpdate seq).2.bitmap1 = w.bitmap1) := by
  intro w accepted
  have hw : w.Refines (new.acceptedSet history) := feed_new_refines history
  have hmem (n : ℕ) : n ∈ new.acceptedSet history ↔ ∃ m ∈ accepted, m.toNat = n := by
    simp [acceptedSet, accepted]
  have hmax : accepted ≠ [] → w.maxSeq ∈ accepted ∧ ∀ n ∈ accepted, n ≤ w.maxSeq := by
    intro hne
    generalize hA : new.acceptedSet history = A at hw hmem
    cases hw with
    | empty hinit hmask =>
        obtain ⟨m, hm⟩ := List.exists_mem_of_ne_nil _ hne
        exact absurd ((hmem m.toNat).mpr ⟨m, hm, rfl⟩) (by simp)
    | live hinit hrep =>
        obtain ⟨m, hm, hmw⟩ := (hmem _).mp (Finset.mem_coe.mp hrep.greatest.1)
        rw [UInt64.toNat_inj] at hmw
        refine ⟨hmw ▸ hm, fun n hn => ?_⟩
        exact UInt64.le_iff_toNat_le.mpr (hrep.greatest.2 ((hmem _).mpr ⟨n, hn, rfl⟩))
  refine ⟨?_, hmax, ?_, by rw [checkOnly_eq], ?_⟩
  · rw [checkAndUpdate_ok_iff hw, Fresh, mem_acceptedSet]
    refine and_congr_right fun _ => ⟨fun hold => ?_, ?_⟩
    · by_cases hne : accepted = []
      · exact .inl hne
      · obtain ⟨hin, hle⟩ := hmax hne
        exact .inr ⟨w.maxSeq, hin, hle, hold _ ((hmem _).mpr ⟨_, hin, rfl⟩)⟩
    · rintro (hnil | ⟨m, hm, hle, hlt⟩) n hn
      · obtain ⟨m, hm, -⟩ := (hmem n).mp hn
        simp [hnil] at hm
      · obtain ⟨n', hn', rfl⟩ := (hmem n).mp hn
        exact (UInt64.le_iff_toNat_le.mp (hle n' hn')).trans_lt hlt
  · intro k hk hle
    rw [← hmem]
    change w.mask.testBit k = true ↔ _
    generalize new.acceptedSet history = A at hw
    cases hw with
    | empty hinit hmask => simp [hmask]
    | live hinit hrep => simp [hrep.bits k hk, hle]
  · intro hrej
    rcases checkAndUpdate_spec hw seq with ⟨-, hok, -⟩ | ⟨-, he⟩
    · exact absurd hok hrej
    · rw [he]
      exact ⟨rfl, rfl, rfl⟩

end VpnHub.Crypto.AntiReplayWindow
