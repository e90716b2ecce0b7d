import Mathlib.Data.List.DropRight
import VpnHub.Library.Text

/-! # Trimming

What trimming takes off a text, and where it takes nothing off. -/

namespace VpnHub.Text

variable {p : Char → Bool} {s t : List Char} {c : Char}

theorem exists_trimStartMatches (p : Char → Bool) (s : List Char) :
    ∃ front, s = front ++ trimStartMatches p s ∧ ∀ c ∈ front, p c = true :=
  ⟨s.takeWhile p, (List.takeWhile_append_dropWhile).symm, fun _ hc => List.mem_takeWhile_imp hc⟩

theorem exists_trimEndMatches (p : Char → Bool) (s : List Char) :
    ∃ back, s = trimEndMatches p s ++ back ∧ ∀ c ∈ back, p c = true := by
  refine ⟨(s.reverse.takeWhile p).reverse, ?_, ?_⟩
  · rw [trimEndMatches, ← List.reverse_append, List.takeWhile_append_dropWhile,
      List.reverse_reverse]
  · intro c hc
    exact List.mem_takeWhile_imp (List.mem_reverse.mp hc)

theorem trimEndMatches_concat_of_neg (h : p c = false) :
    trimEndMatches p (s ++ [c]) = s ++ [c] := by
  simp [trimEndMatches, h]

theorem trimEndMatches_concat_of_pos (h : p c = true) :
    trimEndMatches p (s ++ [c]) = trimEndMatches p s := by
  simp [trimEndMatches, h]

theorem not_of_trimEndMatches_eq_concat (h : trimEndMatches p t = s ++ [c]) : p c = false := by
  have hreverse : t.reverse.dropWhile p = c :: s.reverse := by
    rw [trimEndMatches] at h
    simpa using congrArg List.reverse h
  have hhead := List.head?_dropWhile_not p t.reverse
  rw [hreverse] at hhead
  simpa using hhead

theorem trimStartMatches_cons_of_neg (h : p c = false) :
    trimStartMatches p (c :: s) = c :: s := by
  simp [trimStartMatches, h]

theorem trimStartMatches_cons_of_pos (h : p c = true) :
    trimStartMatches p (c :: s) = trimStartMatches p s := by
  simp [trimStartMatches, h]

/-- A character that stays keeps everything before it. -/
theorem trimEndMatches_append_cons (h : p c = false) (s t : List Char) :
    trimEndMatches p (s ++ c :: t) = s ++ c :: trimEndMatches p t := by
  induction t using List.reverseRecOn with
  | nil => exact trimEndMatches_concat_of_neg h
  | append_singleton t d ih =>
      rw [← List.cons_append, ← List.append_assoc]
      by_cases hd : p d = true
      · rw [trimEndMatches_concat_of_pos hd, trimEndMatches_concat_of_pos hd, ih]
      · have hd : p d = false := by simpa using hd
        rw [trimEndMatches_concat_of_neg hd, trimEndMatches_concat_of_neg hd]
        simp

theorem trimStartMatches_append_cons (h : p c = false) (s t : List Char) :
    trimStartMatches p (s ++ c :: t) = trimStartMatches p s ++ c :: t := by
  induction s with
  | nil => simp [trimStartMatches, h]
  | cons d s ih =>
      by_cases hd : p d = true
      · simpa [trimStartMatches, hd] using ih
      · simp [trimStartMatches, hd]

theorem trimEndMatches_cons_of_pos (h : p c = true) : trimEndMatches p (c :: s) =
    if trimEndMatches p s = [] then [] else c :: trimEndMatches p s := by
  simp only [trimEndMatches, List.reverse_cons, List.dropWhile_append, List.reverse_eq_nil_iff]
  by_cases hs : s.reverse.dropWhile p = []
  · simp [hs, h]
  · simp [hs]

/-- Both ends are trimmed in any order. -/
theorem trimEndMatches_trimStartMatches (p : Char → Bool) (s : List Char) :
    trimEndMatches p (trimStartMatches p s) = trimStartMatches p (trimEndMatches p s) := by
  induction s with
  | nil => rfl
  | cons c s ih =>
      by_cases hc : p c = true
      · rw [trimStartMatches_cons_of_pos hc, trimEndMatches_cons_of_pos hc, ih]
        split
        · rename_i hs
          rw [hs]
        · rw [trimStartMatches_cons_of_pos hc]
      · have hc : p c = false := by simpa using hc
        have hcons : trimEndMatches p (c :: s) = c :: trimEndMatches p s :=
          trimEndMatches_append_cons hc [] s
        rw [trimStartMatches_cons_of_neg hc, hcons, trimStartMatches_cons_of_neg hc]

theorem trim_trim (s : List Char) : trim (trim s) = trim s := by
  have hstart : trimStartMatches isWhitespace (trim s) = trim s := by
    rw [trim, trimMatches, trimEndMatches_trimStartMatches]
    exact List.dropWhile_idempotent _ _
  have hend : trimEndMatches isWhitespace (trim s) = trim s := by
    rw [trim, trimMatches, trimEndMatches, trimEndMatches, List.reverse_reverse,
      List.dropWhile_idempotent]
  rw [trim, trimMatches, hstart, hend]

theorem not_of_trim_eq_cons (h : trim t = c :: s) : isWhitespace c = false := by
  have hhead := List.head?_dropWhile_not isWhitespace (trimEndMatches isWhitespace t)
  rw [trim, trimMatches, trimEndMatches_trimStartMatches, trimStartMatches] at h
  rw [h] at hhead
  simpa using hhead

theorem trim_subset (s : List Char) : trim s ⊆ s := by
  intro c hc
  obtain ⟨back, hback, -⟩ := exists_trimEndMatches isWhitespace (trimStartMatches isWhitespace s)
  refine List.dropWhile_subset isWhitespace (?_ : c ∈ trimStartMatches isWhitespace s)
  rw [hback]
  exact List.mem_append_left back hc

theorem trim_cons_of_pos (h : isWhitespace c = true) : trim (c :: s) = trim s := by
  simp only [trim, trimMatches, trimStartMatches_cons_of_pos h]

theorem trim_concat_of_pos (h : isWhitespace c = true) : trim (s ++ [c]) = trim s := by
  induction s with
  | nil => simp [trim, trimMatches, trimStartMatches, h]
  | cons d s ih =>
      by_cases hd : isWhitespace d = true
      · rw [List.cons_append, trim_cons_of_pos hd, trim_cons_of_pos hd, ih]
      · have hd : isWhitespace d = false := by simpa using hd
        simp only [trim, trimMatches, List.cons_append, trimStartMatches_cons_of_neg hd]
        rw [← List.cons_append, trimEndMatches_concat_of_pos h]

/-- A character that is not white space stays at the end. -/
theorem trim_concat_of_neg (h : isWhitespace c = false) :
    trim (s ++ [c]) = trimStartMatches isWhitespace s ++ [c] := by
  rw [trim, trimMatches, trimStartMatches_append_cons h, trimEndMatches_concat_of_neg h]

theorem trim_append_of_all (h : ∀ c ∈ s, isWhitespace c = true) (t : List Char) :
    trim (s ++ t) = trim t := by
  induction s with
  | nil => rfl
  | cons c s ih =>
      rw [List.cons_append, trim_cons_of_pos (h c (by simp))]
      exact ih fun d hd => h d (List.mem_cons_of_mem _ hd)

theorem trim_append_right_of_all (h : ∀ c ∈ t, isWhitespace c = true) (s : List Char) :
    trim (s ++ t) = trim s := by
  induction t using List.reverseRecOn with
  | nil => rw [List.append_nil]
  | append_singleton t c ih =>
      rw [← List.append_assoc, trim_concat_of_pos (h c (by simp))]
      exact ih fun d hd => h d (List.mem_append_left _ hd)

/-- Nothing is taken off a text that neither begins nor ends with white space. -/
theorem trim_eq_self (hfirst : ∀ c ∈ s.head?, isWhitespace c = false)
    (hlast : ∀ c ∈ s.getLast?, isWhitespace c = false) : trim s = s := by
  have hstart : trimStartMatches isWhitespace s = s := by
    cases s with
    | nil => rfl
    | cons c s => exact trimStartMatches_cons_of_neg (hfirst c rfl)
  rw [trim, trimMatches, hstart]
  rcases List.eq_nil_or_concat s with rfl | ⟨front, c, rfl⟩
  · rfl
  · rw [List.concat_eq_append] at hlast ⊢
    exact trimEndMatches_concat_of_neg (hlast c (by simp))

theorem trim_eq_self_iff : trim s = s ↔
    (∀ c ∈ s.head?, isWhitespace c = false) ∧ ∀ c ∈ s.getLast?, isWhitespace c = false := by
  refine ⟨fun h => ⟨fun c hc => ?_, fun c hc => ?_⟩, fun h => trim_eq_self h.1 h.2⟩
  · obtain ⟨s, rfl⟩ := List.head?_eq_some_iff.mp hc
    exact not_of_trim_eq_cons h
  · obtain ⟨s, rfl⟩ := List.getLast?_eq_some_iff.mp hc
    exact not_of_trimEndMatches_eq_concat h

/-! ## Words -/

theorem splitWhitespaceAux_concat_of_pos (h : isWhitespace c = true) (acc s : List Char) :
    splitWhitespaceAux acc (s ++ [c]) = splitWhitespaceAux acc s ++ [[]] := by
  induction s generalizing acc with
  | nil => simp [splitWhitespaceAux, h]
  | cons d s ih =>
      simp only [List.cons_append, splitWhitespaceAux]
      split
      · rw [ih, List.cons_append]
      · exact ih _

/-- A character that is not white space joins the last word, or is a word of its own after
white space. -/
theorem splitWhitespaceAux_concat_of_neg (h : isWhitespace c = false) (acc s : List Char) :
    ∃ parts last, splitWhitespaceAux acc s = parts ++ [last] ∧
      splitWhitespaceAux acc (s ++ [c]) = parts ++ [last ++ [c]] := by
  induction s generalizing acc with
  | nil => exact ⟨[], acc.reverse, rfl, by simp [splitWhitespaceAux, h]⟩
  | cons d s ih =>
      simp only [List.cons_append, splitWhitespaceAux]
      split
      · obtain ⟨parts, last, hparts, hparts'⟩ := ih []
        exact ⟨acc.reverse :: parts, last, by rw [hparts]; rfl, by rw [hparts']; rfl⟩
      · exact ih _

theorem splitWhitespace_cons_of_pos (h : isWhitespace c = true) :
    splitWhitespace (c :: s) = splitWhitespace s := by
  simp [splitWhitespace, splitWhitespaceAux, h]

theorem splitWhitespace_concat_of_pos (h : isWhitespace c = true) :
    splitWhitespace (s ++ [c]) = splitWhitespace s := by
  simp [splitWhitespace, splitWhitespaceAux_concat_of_pos h]

/-- The words before, and the last one with the character that follows it. -/
theorem splitWhitespace_concat_of_neg (h : isWhitespace c = false) (s : List Char) :
    ∃ words last, splitWhitespace (s ++ [c]) = words ++ [last ++ [c]] ∧
      (splitWhitespace s = words ∨ splitWhitespace s = words ++ [last]) := by
  obtain ⟨parts, last, hparts, hparts'⟩ := splitWhitespaceAux_concat_of_neg h [] s
  refine ⟨parts.filter (· ≠ []), last, ?_, ?_⟩
  · simp [splitWhitespace, hparts']
  · by_cases hlast : last = []
    · exact .inl (by simp [splitWhitespace, hparts, hlast])
    · exact .inr (by simp [splitWhitespace, hparts, hlast])

theorem splitWhitespace_trimStart (s : List Char) :
    splitWhitespace (trimStartMatches isWhitespace s) = splitWhitespace s := by
  induction s with
  | nil => rfl
  | cons c s ih =>
      by_cases hc : isWhitespace c = true
      · rw [trimStartMatches_cons_of_pos hc, ih, splitWhitespace_cons_of_pos hc]
      · rw [trimStartMatches_cons_of_neg (by simpa using hc)]

theorem splitWhitespace_trimEnd (s : List Char) :
    splitWhitespace (trimEndMatches isWhitespace s) = splitWhitespace s := by
  induction s using List.reverseRecOn with
  | nil => rfl
  | append_singleton s c ih =>
      by_cases hc : isWhitespace c = true
      · rw [trimEndMatches_concat_of_pos hc, ih, splitWhitespace_concat_of_pos hc]
      · rw [trimEndMatches_concat_of_neg (by simpa using hc)]

theorem splitWhitespace_trim (s : List Char) : splitWhitespace (trim s) = splitWhitespace s :=
  (splitWhitespace_trimEnd _).trans (splitWhitespace_trimStart s)

theorem filter_splitWhitespaceAux (acc s : List Char) :
    (splitWhitespaceAux acc s).filter (· ≠ []) =
      [acc.reverse ++ s.takeWhile (!isWhitespace ·)].filter (· ≠ []) ++
        splitWhitespace (s.dropWhile (!isWhitespace ·)) := by
  induction s generalizing acc with
  | nil => simp [splitWhitespace, splitWhitespaceAux]
  | cons c s ih =>
      by_cases hc : isWhitespace c = true
      · have hword : [acc.reverse].filter (· ≠ []) ++ splitWhitespace s =
            (acc.reverse :: splitWhitespaceAux [] s).filter (· ≠ []) :=
          (List.filter_append [acc.reverse] (splitWhitespaceAux [] s)).symm
        simp only [splitWhitespaceAux, hc, if_true, List.takeWhile_cons, List.dropWhile_cons,
          Bool.not_true, Bool.false_eq_true, if_false, List.append_nil]
        rw [splitWhitespace_cons_of_pos hc, hword]
      · have hc : isWhitespace c = false := by simpa using hc
        simp only [splitWhitespaceAux, hc, Bool.false_eq_true, if_false, List.takeWhile_cons,
          List.dropWhile_cons, Bool.not_false, if_true, ih]
        simp

/-- The first word, and the words of what follows it. -/
theorem splitWhitespace_cons_of_neg (h : isWhitespace c = false) (s : List Char) :
    splitWhitespace (c :: s) = (c :: s.takeWhile (!isWhitespace ·)) ::
      splitWhitespace (s.dropWhile (!isWhitespace ·)) := by
  have haux := filter_splitWhitespaceAux [c] s
  rw [List.filter_singleton] at haux
  rw [splitWhitespace, splitWhitespaceAux, if_neg (by simp [h]), haux]
  simp

/-- A word at the front of a text, when the text ends there or goes on with white space. -/
theorem splitWhitespace_append (hne : s ≠ []) (hword : ∀ c ∈ s, isWhitespace c = false)
    (hrest : ∀ c ∈ t.head?, isWhitespace c = true) :
    splitWhitespace (s ++ t) = s :: splitWhitespace t := by
  obtain ⟨c, s, rfl⟩ := List.exists_cons_of_ne_nil hne
  have htake : (s ++ t).takeWhile (!isWhitespace ·) = s ∧
      (s ++ t).dropWhile (!isWhitespace ·) = t := by
    have hs : ∀ d ∈ s, (!isWhitespace d) = true := fun d hd => by
      simp [hword d (List.mem_cons_of_mem _ hd)]
    rw [List.takeWhile_append_of_pos hs, List.dropWhile_append_of_pos hs]
    cases t with
    | nil => simp
    | cons d t => simp [hrest d rfl]
  rw [List.cons_append, splitWhitespace_cons_of_neg (hword c (by simp)), htake.1, htake.2]

theorem splitWhitespace_word (hne : s ≠ []) (hword : ∀ c ∈ s, isWhitespace c = false) :
    splitWhitespace s = [s] := by
  have hsplit := splitWhitespace_append (t := []) hne hword (by simp)
  rwa [List.append_nil] at hsplit

end VpnHub.Text
