import Mathlib.Data.List.Infix
import VpnHub.Library.Text

/-! # Occurrences of a pattern

Searching and splitting commute with concatenation where no occurrence of the pattern can lie
across the seam: at a character that the pattern does not have, or at the beginning of an
occurrence of a pattern that does not overlap itself. -/

namespace VpnHub.Text

variable {s t pattern : List Char}

theorem join_cons_cons (part next : List Char) (parts : List (List Char)) (c : Char) :
    join (part :: next :: parts) [c] = part ++ c :: join (next :: parts) [c] := by
  simp [join, List.intercalate]

/-! ## Searching -/

theorem contains_iff_occurs : contains s pattern = true ↔ pattern <:+: s := by
  simp only [contains, List.any_eq_true, List.mem_tails, List.isPrefixOf_iff_prefix]
  constructor
  · rintro ⟨tail, hsuffix, hstart⟩
    exact hstart.isInfix.trans hsuffix.isInfix
  · rintro ⟨before, after, rfl⟩
    exact ⟨pattern ++ after, ⟨before, by simp⟩, List.prefix_append _ _⟩

theorem contains_of_occurs (h : s <:+: t) (hs : contains s pattern = true) :
    contains t pattern = true :=
  contains_iff_occurs.mpr ((contains_iff_occurs.mp hs).trans h)

theorem contains_append_left (h : contains s pattern = true) (t : List Char) :
    contains (s ++ t) pattern = true :=
  contains_of_occurs (List.prefix_append s t).isInfix h

theorem contains_append_right (h : contains t pattern = true) (s : List Char) :
    contains (s ++ t) pattern = true :=
  contains_of_occurs (List.suffix_append s t).isInfix h

/-- Prefixes of a concatenation lie in the first part or take all of it. -/
theorem prefix_append_cases {p : List Char} (h : p <+: s ++ t) :
    p <+: s ∨ ∃ q, p = s ++ q ∧ q <+: t := by
  rcases List.prefix_or_prefix_of_prefix h (List.prefix_append s t) with hp | ⟨q, rfl⟩
  · exact .inl hp
  · exact .inr ⟨q, rfl, by simpa using h⟩

/-- No occurrence goes past a character that the pattern does not have. -/
theorem contains_append_cons {c : Char} (hc : c ∉ pattern) :
    contains (s ++ c :: t) pattern = (contains s pattern || contains t pattern) := by
  rw [Bool.eq_iff_iff, Bool.or_eq_true]
  constructor
  · intro h
    induction s with
    | nil =>
        refine .inr ?_
        obtain ⟨before, after, heq⟩ := contains_iff_occurs.mp h
        cases before with
        | nil =>
            cases hp : pattern with
            | nil => exact contains_iff_occurs.mpr List.nil_infix
            | cons d rest =>
                obtain ⟨rfl, -⟩ : d = c ∧ _ := by simpa [hp] using heq
                exact absurd (by simp [hp]) hc
        | cons d before =>
            obtain ⟨-, rfl⟩ : d = c ∧ before ++ pattern ++ after = t := by simpa using heq
            exact contains_iff_occurs.mpr ⟨before, after, rfl⟩
    | cons d s ih =>
        rcases List.infix_cons_iff.mp (contains_iff_occurs.mp h) with hstart | hwithin
        · refine .inl (contains_iff_occurs.mpr ?_)
          have hstart : pattern <+: (d :: s) ++ c :: t := hstart
          rcases prefix_append_cases hstart with hstart | ⟨q, hq, hqt⟩
          · exact hstart.isInfix
          · cases q with
            | nil => exact ⟨[], [], by simpa using hq⟩
            | cons b q =>
                obtain ⟨rfl, -⟩ : b = c ∧ _ := List.cons_prefix_cons.mp hqt
                exact absurd (by simp [hq]) hc
        · refine (ih (contains_iff_occurs.mpr hwithin)).imp_left fun hs => ?_
          exact contains_append_right hs [d]
  · rintro (hs | ht)
    · exact contains_append_left hs _
    · simpa using contains_append_right ht (s ++ [c])

theorem contains_join {c : Char} (hc : c ∉ pattern) (hne : pattern ≠ []) (parts : List (List Char)) :
    contains (join parts [c]) pattern = parts.any (contains · pattern) := by
  induction parts with
  | nil =>
      cases pattern with
      | nil => contradiction
      | cons d rest => rfl
  | cons part parts ih =>
      cases parts with
      | nil => simp [join]
      | cons next parts =>
          rw [join_cons_cons, contains_append_cons hc, ih]
          rfl

theorem stripPrefix_append (front s : List Char) : stripPrefix (front ++ s) front = some s := by
  have hstart : front.isPrefixOf (front ++ s) = true :=
    List.isPrefixOf_iff_prefix.mpr (List.prefix_append front s)
  simp [stripPrefix, hstart]

theorem stripPrefix_eq_some_iff {front rest : List Char} :
    stripPrefix s front = some rest ↔ s = front ++ rest := by
  constructor
  · intro h
    rw [stripPrefix] at h
    split at h
    · rename_i hprefix
      obtain ⟨back, rfl⟩ := List.isPrefixOf_iff_prefix.mp hprefix
      obtain rfl : back = rest := by simpa using h
      rfl
    · cases h
  · rintro rfl
    exact stripPrefix_append front rest

/-! ## Splitting -/

/-- No proper end of the pattern is also a beginning of it. -/
def Unbordered (pattern : List Char) : Prop :=
  ∀ n, n < pattern.length → 0 < n → (pattern.drop n).isPrefixOf pattern = false

instance (pattern : List Char) : Decidable (Unbordered pattern) :=
  inferInstanceAs (Decidable (∀ n, n < pattern.length → 0 < n → _))

theorem Unbordered.not_across (h : Unbordered pattern) {c : Char}
    (hstart : pattern <+: c :: s ++ (pattern ++ t)) : pattern <+: c :: s := by
  rcases prefix_append_cases hstart with hs | ⟨q, hq, hqt⟩
  · exact hs
  · rcases prefix_append_cases hqt with hqp | ⟨r, hr, -⟩
    · by_cases hnil : q = []
      · exact ⟨[], by simp [hq, hnil]⟩
      · have hdrop : pattern.drop (c :: s).length = q := by rw [hq]; simp
        have hlen : pattern.length = (c :: s).length + q.length := by
          rw [← List.length_append, ← hq]
        have hpos : 0 < q.length := List.length_pos_iff.mpr hnil
        have hborder := h (c :: s).length (by omega) (by simp)
        rw [hdrop] at hborder
        simp [ List.isPrefixOf_iff_prefix.mpr hqp] at hborder
    · have hlen := congrArg List.length hq
      rw [hr] at hlen
      simp only [List.length_append, List.length_cons] at hlen
      omega

@[simp] theorem split_nil (pattern : List Char) : split [] pattern = [[]] := rfl

theorem splitAux_skip (pattern acc : List Char) (s t : List Char) :
    splitAux pattern s.length acc (s ++ t) = splitAux pattern 0 acc t := by
  induction s with
  | nil => rfl
  | cons c s ih => simpa [splitAux] using ih

theorem splitAux_append (h : Unbordered pattern) (hne : pattern ≠ []) (t : List Char)
    (s : List Char) (skip : ℕ) (acc : List Char) (hskip : skip ≤ s.length) :
    splitAux pattern skip acc (s ++ (pattern ++ t)) =
      splitAux pattern skip acc s ++ split t pattern := by
  induction s generalizing skip acc with
  | nil =>
      obtain rfl : skip = 0 := by simpa using hskip
      obtain ⟨c, rest, rfl⟩ := List.exists_cons_of_ne_nil hne
      have hfirst : (c :: rest).isPrefixOf (c :: (rest ++ t)) = true := by
        simp [ List.isPrefixOf_iff_prefix]
      simp only [List.nil_append, List.cons_append, splitAux, hfirst, if_true]
      simp [splitAux_skip, split]
  | cons c s ih =>
      cases skip with
      | succ skip =>
          simp only [List.cons_append, splitAux]
          exact ih skip acc (by simpa using hskip)
      | zero =>
          have hfirst : pattern.isPrefixOf (c :: (s ++ (pattern ++ t))) =
              pattern.isPrefixOf (c :: s) := by
            rw [Bool.eq_iff_iff, List.isPrefixOf_iff_prefix, List.isPrefixOf_iff_prefix]
            constructor
            · exact h.not_across
            · intro hp
              exact hp.trans (List.prefix_append (c :: s) (pattern ++ t))
          simp only [List.cons_append, splitAux, hfirst]
          split
          · rename_i hp
            have hlen := ( List.isPrefixOf_iff_prefix.mp hp).length_le
            rw [ih _ _ (by simp only [List.length_cons] at hlen; omega), List.cons_append]
          · exact ih 0 _ (Nat.zero_le _)

/-- An occurrence splits the text around it. -/
theorem split_append_pattern (h : Unbordered pattern) (hne : pattern ≠ []) (s t : List Char) :
    split (s ++ (pattern ++ t)) pattern = split s pattern ++ split t pattern :=
  splitAux_append h hne t s 0 [] (Nat.zero_le _)

/-- A character that the pattern does not have joins the last part. -/
theorem splitAux_concat {c : Char} (hc : c ∉ pattern) (hne : pattern ≠ []) (s : List Char)
    (skip : ℕ) (acc : List Char) (hskip : skip ≤ s.length) :
    ∃ parts last, splitAux pattern skip acc s = parts ++ [last] ∧
      splitAux pattern skip acc (s ++ [c]) = parts ++ [last ++ [c]] := by
  induction s generalizing skip acc with
  | nil =>
      obtain rfl : skip = 0 := by simpa using hskip
      refine ⟨[], acc.reverse, rfl, ?_⟩
      have hfirst : pattern.isPrefixOf [c] = false := by
        obtain ⟨d, rest, rfl⟩ := List.exists_cons_of_ne_nil hne
        have hd : d ≠ c := fun h => hc (by simp [h])
        simp [List.isPrefixOf, hd]
      simp [splitAux, hfirst]
  | cons d s ih =>
      cases skip with
      | succ skip => exact ih skip acc (by simpa using hskip)
      | zero =>
          have hfirst : pattern.isPrefixOf (d :: (s ++ [c])) = pattern.isPrefixOf (d :: s) := by
            rw [Bool.eq_iff_iff, List.isPrefixOf_iff_prefix, List.isPrefixOf_iff_prefix]
            constructor
            · intro hp
              have hp : pattern <+: (d :: s) ++ [c] := hp
              rcases prefix_append_cases hp with hp | ⟨q, hq, hqc⟩
              · exact hp
              · cases q with
                | nil => exact ⟨[], by simpa using hq⟩
                | cons b q =>
                    obtain ⟨rfl, -⟩ : b = c ∧ _ := List.cons_prefix_cons.mp hqc
                    exact absurd (by simp [hq]) hc
            · intro hp
              exact hp.trans (List.prefix_append (d :: s) [c])
          simp only [List.cons_append, splitAux, hfirst]
          split
          · rename_i hp
            have hlen := ( List.isPrefixOf_iff_prefix.mp hp).length_le
            obtain ⟨parts, last, hparts, hparts'⟩ := ih (pattern.length - 1) []
              (by simp only [List.length_cons] at hlen; omega)
            exact ⟨acc.reverse :: parts, last, by rw [hparts]; rfl, by rw [hparts']; rfl⟩
          · exact ih 0 _ (Nat.zero_le _)

theorem split_concat {c : Char} (hc : c ∉ pattern) (hne : pattern ≠ []) (s : List Char) :
    ∃ parts last, split s pattern = parts ++ [last] ∧
      split (s ++ [c]) pattern = parts ++ [last ++ [c]] :=
  splitAux_concat hc hne s 0 [] (Nat.zero_le _)

theorem splitAux_of_not_contains (acc : List Char) (h : contains s pattern = false) :
    splitAux pattern 0 acc s = [acc.reverse ++ s] := by
  induction s generalizing acc with
  | nil => simp [splitAux]
  | cons c s ih =>
      have hfirst : pattern.isPrefixOf (c :: s) = false := by
        by_contra hp
        have hp : pattern <+: c :: s :=
          List.isPrefixOf_iff_prefix.mp (Bool.eq_true_of_not_eq_false hp)
        rw [contains_iff_occurs.mpr hp.isInfix] at h
        cases h
      have hrest : contains s pattern = false := by
        by_contra hs
        have hs := contains_append_right (Bool.eq_true_of_not_eq_false hs) [c]
        rw [List.singleton_append, h] at hs
        cases hs
      simp [splitAux, hfirst, ih _ hrest]

theorem split_of_not_contains (h : contains s pattern = false) : split s pattern = [s] :=
  splitAux_of_not_contains [] h

theorem splitCharAux_of_notMem {sep : Char} {s : List Char} (h : sep ∉ s) (acc : List Char) :
    splitCharAux sep acc s = [acc.reverse ++ s] := by
  induction s generalizing acc with
  | nil => simp [splitCharAux]
  | cons c s ih =>
      rw [List.mem_cons, not_or] at h
      rw [splitCharAux, if_neg (Ne.symm h.1), ih h.2]
      simp

theorem splitChar_of_notMem {sep : Char} {s : List Char} (h : sep ∉ s) : splitChar s sep = [s] :=
  splitCharAux_of_notMem h []

end VpnHub.Text
