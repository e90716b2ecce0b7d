import VpnHub.Library.Trim

/-! # Lines

The lines of a text cut at the end of a line, and of a text that is ended by a line feed. -/

namespace VpnHub.Text

variable {s t line : List Char} {c : Char}

/-- The line whose characters have been read, the last one first. -/
def lineOf : List Char → List Char
  | '\r' :: acc => acc.reverse
  | acc => acc.reverse

theorem lineOf_cons (h : c ≠ '\r') (acc : List Char) : lineOf (c :: acc) = acc.reverse ++ [c] := by
  simp [lineOf, h]

theorem lineOf_subset (acc : List Char) : lineOf acc ⊆ acc := by
  intro c hc
  unfold lineOf at hc
  split at hc
  · exact List.mem_cons_of_mem _ (List.mem_reverse.mp hc)
  · exact List.mem_reverse.mp hc

theorem linesAux_feed (acc s : List Char) :
    linesAux acc ('\n' :: s) = lineOf acc :: linesAux [] s := by
  cases acc with
  | nil => rfl
  | cons c acc =>
      by_cases hc : c = '\r'
      · subst hc
        rfl
      · simp [linesAux, lineOf, hc]

theorem linesAux_cons (h : c ≠ '\n') (acc s : List Char) :
    linesAux acc (c :: s) = linesAux (c :: acc) s := by
  cases acc with
  | nil => exact if_neg h
  | cons d acc => exact if_neg h

/-- Text that ends where a line ends. -/
def EndsLine (s : List Char) : Prop := s = [] ∨ ∃ front, s = front ++ ['\n']

theorem linesAux_append_feed (acc s t : List Char) :
    linesAux acc (s ++ '\n' :: t) = linesAux acc (s ++ ['\n']) ++ lines t := by
  induction s generalizing acc with
  | nil => rw [List.nil_append, List.nil_append, linesAux_feed, linesAux_feed]; rfl
  | cons c s ih =>
      rw [List.cons_append, List.cons_append]
      by_cases hc : c = '\n'
      · subst hc
        rw [linesAux_feed, linesAux_feed, ih, List.cons_append]
      · rw [linesAux_cons hc, linesAux_cons hc, ih]

theorem EndsLine.lines_append (h : EndsLine s) (t : List Char) :
    lines (s ++ t) = lines s ++ lines t := by
  rcases h with rfl | ⟨front, rfl⟩
  · rfl
  · rw [List.append_assoc]
    exact linesAux_append_feed [] front t

theorem linesAux_of_notMem (h : '\n' ∉ s) (acc t : List Char) :
    linesAux acc (s ++ t) = linesAux (s.reverse ++ acc) t := by
  induction s generalizing acc with
  | nil => rfl
  | cons c s ih =>
      rw [List.mem_cons, not_or] at h
      rw [List.cons_append, linesAux_cons (Ne.symm h.1), ih h.2]
      simp

/-- A line that does not end in a carriage return. -/
theorem lines_concat_feed (h : '\n' ∉ s ++ [c]) (hreturn : c ≠ '\r') (t : List Char) :
    lines (s ++ [c] ++ '\n' :: t) = (s ++ [c]) :: lines t := by
  rw [lines, linesAux_of_notMem h, List.append_nil, List.reverse_concat, linesAux_feed,
    lineOf_cons hreturn, List.reverse_reverse]
  rfl

/-! ## A last line feed

It ends the last line where none does yet, and takes a carriage return along; otherwise it makes
an empty line. Nothing that is not white space comes or goes. -/

theorem linesAux_eq_nil {acc : List Char} (h : linesAux acc s = []) : acc = [] ∧ s = [] := by
  induction s generalizing acc with
  | nil =>
      cases acc with
      | nil => exact ⟨rfl, rfl⟩
      | cons c acc => cases h
  | cons c s ih =>
      by_cases hc : c = '\n'
      · subst hc
        rw [linesAux_feed] at h
        cases h
      · rw [linesAux_cons hc] at h
        cases (ih h).1

/-- The text of a list of lines, each ended by a line feed. -/
def unlines (lines : List (List Char)) : List Char := lines.flatMap (· ++ ['\n'])

theorem unlines_cons (line : List Char) (lines : List (List Char)) :
    unlines (line :: lines) = line ++ ['\n'] ++ unlines lines := rfl

/-- Lines that do not end in a carriage return, each ended by a line feed, are read back. -/
theorem lines_unlines {parts : List (List Char)}
    (h : ∀ line ∈ parts, '\n' ∉ line ∧ line.getLast? ≠ some '\r') :
    lines (unlines parts) = parts := by
  induction parts with
  | nil => rfl
  | cons line parts ih =>
      obtain ⟨hfeed, hreturn⟩ := h line List.mem_cons_self
      have hrest : lines (unlines parts) = parts :=
        ih fun line hline => h line (List.mem_cons_of_mem _ hline)
      rw [unlines_cons]
      rcases List.eq_nil_or_concat line with rfl | ⟨front, c, rfl⟩
      · rw [List.nil_append, List.singleton_append, lines, linesAux_feed, ← lines, hrest]
        rfl
      · rw [List.concat_eq_append] at hfeed hreturn ⊢
        have hc : c ≠ '\r' := by simpa using hreturn
        have hline := lines_concat_feed hfeed hc (unlines parts)
        rw [hrest] at hline
        simpa using hline

/-- No line has a line feed in it. -/
theorem notMem_of_mem_linesAux {acc : List Char} (hacc : '\n' ∉ acc)
    (h : line ∈ linesAux acc s) : '\n' ∉ line := by
  induction s generalizing acc with
  | nil =>
      cases acc with
      | nil => cases h
      | cons c acc =>
          obtain rfl := List.mem_singleton.mp h
          rwa [List.mem_reverse]
  | cons c s ih =>
      by_cases hc : c = '\n'
      · subst hc
        rw [linesAux_feed] at h
        obtain rfl | h := List.mem_cons.mp h
        · exact fun hfeed => hacc (lineOf_subset acc hfeed)
        · exact ih List.not_mem_nil h
      · rw [linesAux_cons hc] at h
        refine ih ?_ h
        simpa [Ne.symm hc] using hacc

theorem notMem_of_mem_lines (h : line ∈ lines s) : '\n' ∉ line :=
  notMem_of_mem_linesAux List.not_mem_nil h

theorem join_cons_of_ne {lines : List (List Char)} (h : lines ≠ []) (line : List Char) :
    join (line :: lines) ['\n'] = line ++ ['\n'] ++ join lines ['\n'] := by
  cases lines with
  | nil => exact absurd rfl h
  | cons next lines => simp [join, List.intercalate]

theorem trimEnd_append_congr (h : trimEndMatches isWhitespace s = trimEndMatches isWhitespace t)
    (front : List Char) : trimEndMatches isWhitespace (front ++ s) =
      trimEndMatches isWhitespace (front ++ t) := by
  have h : s.reverse.dropWhile isWhitespace = t.reverse.dropWhile isWhitespace :=
    List.reverse_injective h
  simp only [trimEndMatches, List.reverse_append, List.dropWhile_append, h]

theorem trimEnd_lineOf (acc : List Char) :
    trimEndMatches isWhitespace (lineOf acc) = trimEndMatches isWhitespace acc.reverse := by
  cases acc with
  | nil => rfl
  | cons c acc =>
      by_cases hc : c = '\r'
      · subst hc
        have hreturn : isWhitespace '\r' = true := by decide
        rw [List.reverse_cons, trimEndMatches_concat_of_pos hreturn]
        rfl
      · rw [lineOf_cons hc, List.reverse_cons]

theorem trimEnd_unlines_linesAux (acc s : List Char) :
    trimEndMatches isWhitespace (unlines (linesAux acc (s ++ ['\n']))) =
      trimEndMatches isWhitespace (join (linesAux acc s) ['\n']) := by
  have hfeed : isWhitespace '\n' = true := by decide
  induction s generalizing acc with
  | nil =>
      have hlast : join (linesAux acc []) ['\n'] = acc.reverse := by
        cases acc with
        | nil => rfl
        | cons c acc => simp [linesAux, join]
      have hline : unlines (linesAux acc ([] ++ ['\n'])) = lineOf acc ++ ['\n'] := by
        rw [List.nil_append, linesAux_feed]
        simp [unlines, linesAux]
      rw [hlast, hline, trimEndMatches_concat_of_pos hfeed, trimEnd_lineOf]
  | cons c s ih =>
      rw [List.cons_append]
      by_cases hc : c = '\n'
      · subst hc
        rw [linesAux_feed, linesAux_feed, unlines_cons]
        by_cases hrest : linesAux [] s = []
        · obtain ⟨-, rfl⟩ := linesAux_eq_nil hrest
          have hempty : unlines (linesAux [] ([] ++ ['\n'])) = ['\n'] := rfl
          have hjoin : join (lineOf acc :: linesAux [] []) ['\n'] = lineOf acc := by
            simp [linesAux, join]
          rw [hempty, hjoin, trimEndMatches_concat_of_pos hfeed, trimEndMatches_concat_of_pos hfeed]
        · rw [join_cons_of_ne hrest]
          exact trimEnd_append_congr (ih []) (lineOf acc ++ ['\n'])
      · rw [linesAux_cons hc, linesAux_cons hc]
        exact ih _

theorem trim_eq_trim_of_trimEnd
    (h : trimEndMatches isWhitespace s = trimEndMatches isWhitespace t) : trim s = trim t := by
  rw [trim, trim, trimMatches, trimMatches, trimEndMatches_trimStartMatches,
    trimEndMatches_trimStartMatches, h]

theorem trim_unlines_lines (s : List Char) :
    trim (unlines (lines (s ++ ['\n']))) = trim (join (lines s) ['\n']) :=
  trim_eq_trim_of_trimEnd (trimEnd_unlines_linesAux [] s)

theorem mem_linesAux_concat {acc : List Char} (h : line ∈ linesAux acc (s ++ ['\n'])) :
    line = [] ∨ ∃ other ∈ linesAux acc s, trim line = trim other := by
  induction s generalizing acc with
  | nil =>
      rw [List.nil_append, linesAux_feed] at h
      obtain rfl : line = lineOf acc := by simpa [linesAux] using h
      cases acc with
      | nil => exact .inl rfl
      | cons c acc =>
          exact .inr ⟨_, List.mem_singleton_self _, trim_eq_trim_of_trimEnd (trimEnd_lineOf _)⟩
  | cons c s ih =>
      rw [List.cons_append] at h
      by_cases hc : c = '\n'
      · subst hc
        rw [linesAux_feed] at h ⊢
        rcases List.mem_cons.mp h with rfl | h
        · exact .inr ⟨_, List.mem_cons_self, rfl⟩
        · refine (ih h).imp_right ?_
          rintro ⟨other, hother, htrim⟩
          exact ⟨other, List.mem_cons_of_mem _ hother, htrim⟩
      · rw [linesAux_cons hc] at h ⊢
        exact ih h

/-- Up to white space, no line is new but an empty one. -/
theorem mem_lines_concat (h : line ∈ lines (s ++ ['\n'])) :
    line = [] ∨ ∃ other ∈ lines s, trim line = trim other :=
  mem_linesAux_concat h

end VpnHub.Text
