import VpnHub.Model.Writers
import VpnHub.Verification.Parser.Termination

/-! # Arguments of a directive

What the loop over the arguments takes from a line, turn by turn, and that it gives back arguments
written between double quotes. -/

namespace VpnHub.Config

variable {input rest arg chars written line tail : Text} {args acc : List Text} {c : Char}

/-- The loop returns the arguments it has taken when only a comment is left. -/
theorem parseArguments_of_leads
    (leads : Loop.Leads argumentsTurn (Text.trimStart input, []) (rest, args)) (hend : AtEnd rest) :
    parseArguments input = some args := by
  have hturn : argumentsTurn (rest, args) = .inr args := argumentsTurn_of_atEnd hend
  have hbalanced := (ends_iff_balanced (trimStart_trimStart input)).mp (leads.ends hturn)
  obtain ⟨result, h⟩ := (parseArguments_returns_iff input).mpr hbalanced
  rw [h]
  rw [parseArguments, parseArgumentsLoop_eq] at h
  obtain ⟨turns, hiterate⟩ := Loop.iterate_of_leads h leads
  cases turns with
  | zero => cases hiterate
  | succ turns =>
      rw [Loop.iterate_of_inr hturn] at hiterate
      exact hiterate.symm

/-! ## Double quotes -/

/-- By induction on the written characters: the reader takes them one by one. -/
theorem escapedLoop_of_writes (h : WritesChars arg chars) (acc rest : Text) :
    escapedLoop acc (chars ++ '"' :: rest) = some (acc.reverse ++ arg, '"' :: rest) := by
  induction h generalizing acc with
  | nil => simp [escapedLoop]
  | @cons c arg first chars hchar _ ih =>
      have hfirst : escapedLoop acc (first ++ (chars ++ '"' :: rest)) =
          escapedLoop (c :: acc) (chars ++ '"' :: rest) := by
        cases hchar with
        | plain hbackslash _ => simp [escapedLoop, hbackslash]
        | backslash => rfl
        | quote => rfl
        | lineFeed => rfl
        | carriageReturn => rfl
        | tab => rfl
      rw [List.append_assoc, hfirst, ih]
      simp

theorem head?_of_writes (h : WritesChars arg chars) (hne : arg ≠ []) (rest : Text) :
    (chars ++ rest).head? ≠ some '"' := by
  cases h with
  | nil => exact absurd rfl hne
  | cons hchar _ =>
      cases hchar with
      | plain _ hquote => simpa using hquote
      | _ => exact fun h => by cases h

theorem parseDoubleQuoted_of_writes (h : WritesArgument arg written) (hne : arg ≠ []) (rest : Text) :
    parseDoubleQuoted (written ++ rest) = some (arg, rest) := by
  obtain ⟨chars, hchars, rfl⟩ := h
  refine parseDoubleQuoted_eq_some.mpr ⟨chars ++ '"' :: rest, by simp, ?_⟩
  rw [escapedTransform, if_neg (head?_of_writes hchars hne _), escapedLoop_of_writes hchars]
  rfl

theorem WritesArgument.exists_cons (h : WritesArgument arg written) :
    ∃ inner, written = '"' :: inner := by
  obtain ⟨chars, -, rfl⟩ := h
  exact ⟨_, rfl⟩

/-- A written argument is taken in one turn. -/
theorem argumentsTurn_of_writes (h : WritesArgument arg written) (hne : arg ≠ []) (rest : Text)
    (acc : List Text) : argumentsTurn (written ++ rest, acc) =
      .inl (Text.trimStart rest, acc ++ [arg]) := by
  have hend : ¬ AtEnd (written ++ rest) := by
    obtain ⟨inner, rfl⟩ := h.exists_cons
    exact Bool.false_ne_true
  rw [argumentsTurn_of_not acc hend,
    parseArgument_of_double (parseDoubleQuoted_of_writes h hne rest)]
  simp [hne]

theorem trimStart_of_writes (h : WritesArgument arg written) (rest : Text) :
    Text.trimStart (written ++ rest) = written ++ rest := by
  obtain ⟨inner, rfl⟩ := h.exists_cons
  rfl

/-! ## Lines -/

theorem atEnd_of_isComment (h : IsComment tail) : AtEnd (Text.trimStart tail) := by
  rcases h with rfl | ⟨text, rfl⟩
  · rfl
  · rfl

theorem trimStart_spaces (h : ∀ c ∈ line, c = ' ') (rest : Text) :
    Text.trimStart (line ++ rest) = Text.trimStart rest := by
  induction line with
  | nil => rfl
  | cons c line ih =>
      obtain rfl := h c (by simp)
      exact ih fun d hd => h d (by simp [hd])

/-- By induction on the line, with the arguments taken so far. -/
theorem leads_of_writes (h : WritesArguments args line) (hne : ∀ arg ∈ args, arg ≠ [])
    (htail : IsComment tail) (acc : List Text) :
    ∃ rest, Loop.Leads argumentsTurn (Text.trimStart (line ++ tail), acc) (rest, acc ++ args) ∧
      AtEnd rest := by
  induction h generalizing acc with
  | nil =>
      rw [List.append_nil]
      exact ⟨_, .refl, atEnd_of_isComment htail⟩
  | @single arg written hargument =>
      rw [trimStart_of_writes hargument]
      exact ⟨_, .single (argumentsTurn_of_writes hargument (hne arg (by simp)) tail acc),
        atEnd_of_isComment htail⟩
  | @cons arg written spaces next line args hargument _ hspaces _ ih =>
      obtain ⟨rest, leads, hend⟩ := ih (fun arg harg => hne arg (by simp [harg])) (acc ++ [arg])
      have hturn := argumentsTurn_of_writes hargument (hne arg (by simp)) (spaces ++ (line ++ tail))
        acc
      rw [trimStart_spaces hspaces] at hturn
      refine ⟨rest, ?_, hend⟩
      rw [List.append_assoc, List.append_assoc, trimStart_of_writes hargument]
      rw [List.append_assoc, List.singleton_append] at leads
      exact leads.head hturn

/-- `parse_arguments` gives back the arguments that were written. -/
theorem parseArguments_of_written (args : List Text) (line tail : Text)
    (hne : ∀ arg ∈ args, arg ≠ []) (h : WritesArguments args line) (htail : IsComment tail) :
    parseArguments (line ++ tail) = some args := by
  obtain ⟨rest, leads, hend⟩ := leads_of_writes h hne htail []
  exact parseArguments_of_leads leads hend

/-- The arguments `a "b` and `#`, and a comment. -/
theorem parseArguments_of_written_two :
    parseArguments ("\"a \\\"b\"  \"#\"".toList ++ " # \"".toList) = some ["a \"b".toList, ['#']] := by
  have plain {c : Char} (hbackslash : c ≠ '\\') (hquote : c ≠ '"') {arg rest : Text}
      (more : WritesChars arg rest) : WritesChars (c :: arg) (c :: rest) :=
    .cons (.plain hbackslash hquote) more
  have hfirst : WritesArgument "a \"b".toList "\"a \\\"b\"".toList :=
    ⟨"a \\\"b".toList, plain (by decide) (by decide) (plain (by decide) (by decide)
      (.cons .quote (plain (by decide) (by decide) .nil))), by decide⟩
  have hsecond : WritesArgument ['#'] "\"#\"".toList :=
    ⟨['#'], plain (by decide) (by decide) .nil, by decide⟩
  have hspaces : ∀ c ∈ "  ".toList, c = ' ' := by simp
  exact parseArguments_of_written _ ("\"a \\\"b\"".toList ++ ("  ".toList ++ "\"#\"".toList)) _
    (by decide) (.cons hfirst (by decide) hspaces (.single hsecond)) (.inr ⟨['"'], by decide⟩)

end VpnHub.Config
