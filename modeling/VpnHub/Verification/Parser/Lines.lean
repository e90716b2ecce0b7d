import VpnHub.Verification.Parser.Arguments

/-! # Profiles in parts

What a line adds to a profile depends on the inline block it stands in, and not on the lines before
it. A profile can therefore be cut wherever no block is open, and its parts be parsed alone. -/

namespace VpnHub.Config

variable {env : ParserEnv} {before after : List Text} {line : Text} {front back : ParsedOvpnFile}

/-! ## Line numbers -/

def Directive.shift (k : ℕ) (dir : Directive) : Directive :=
  { dir with lineNumber := dir.lineNumber + k }

def InlineBlock.shift (k : ℕ) (block : InlineBlock) : InlineBlock :=
  { block with lineNumber := block.lineNumber + k }

/-- What is parsed when `k` lines come before that give `front`. -/
def ParsedOvpnFile.behind (front : ParsedOvpnFile) (k : ℕ) (back : ParsedOvpnFile) :
    ParsedOvpnFile where
  directives := front.directives ++ back.directives.map (.shift k)
  inlineBlocks := front.inlineBlocks ++ back.inlineBlocks.map (.shift k)

def AstState.behind (front : ParsedOvpnFile) (k : ℕ) (st : AstState) : AstState where
  result := front.behind k st.result
  block := st.block.map (.shift k)

theorem behind_empty (front : ParsedOvpnFile) (k : ℕ) : AstState.behind front k {} =
    { result := front } := by
  simp [AstState.behind, ParsedOvpnFile.behind]

theorem astLine_behind (front : ParsedOvpnFile) (k : ℕ) (st : AstState) (n : ℕ) (line : Text) :
    astLine env (st.behind front k) (n + k) line =
      (astLine env st n line).map (.behind front k) := by
  rcases st with ⟨result, block⟩
  cases block with
  | some block =>
      by_cases hclose : parseInlineCloseTag line block.tag = true
      · simp [astLine, AstState.behind, ParsedOvpnFile.behind, InlineBlock.shift, hclose]
      · simp [astLine, AstState.behind, InlineBlock.shift, hclose]
  | none =>
      simp only [astLine, AstState.behind, Option.map_none]
      split
      · rfl
      · cases parseInlineOpenTag env (Text.trim line) with
        | some tag => rfl
        | none =>
            rcases parseArguments (Text.trim line) with _ | _ | ⟨name, args⟩
            · rfl
            · rfl
            · simp [AstState.behind, ParsedOvpnFile.behind, Directive.shift]

theorem astLines_behind (front : ParsedOvpnFile) (k : ℕ) (st : AstState) (n : ℕ)
    (lines : List Text) :
    astLines env (n + k) (st.behind front k) lines =
      (astLines env n st lines).map (.behind front k) := by
  induction lines generalizing n st with
  | nil => rfl
  | cons line lines ih =>
      rw [astLines, astLines, astLine_behind]
      cases astLine env st n line with
      | none => rfl
      | some next =>
          have hnext := ih next (n + 1)
          rw [Nat.add_right_comm] at hnext
          exact hnext

theorem astLines_append (env : ParserEnv) (n : ℕ) (st : AstState) (before after : List Text) :
    astLines env n st (before ++ after) =
      (astLines env n st before).bind fun st => astLines env (n + before.length) st after := by
  induction before generalizing n st with
  | nil => rfl
  | cons line before ih =>
      rw [List.cons_append, astLines, astLines]
      cases astLine env st n line with
      | none => rfl
      | some next =>
          simpa only [List.length_cons, Nat.add_assoc, Nat.add_comm 1] using ih (n + 1) next

/-- The lines give `front`, and leave no inline block open. -/
def Reads (env : ParserEnv) (lines : List Text) (front : ParsedOvpnFile) : Prop :=
  astLines env 1 {} lines = some { result := front }

theorem Reads.append (h : Reads env before front) (after : List Text) :
    astLines env 1 {} (before ++ after) =
      (astLines env 1 {} after).map (.behind front before.length) := by
  rw [astLines_append, h, Option.bind_some, ← astLines_behind, behind_empty]

theorem Reads.concat {dir : Directive} (h : Reads env before front)
    (hline : Reads env [line] { directives := [dir] }) :
    Reads env (before ++ [line])
      { front with directives := front.directives ++ [dir.shift before.length] } := by
  rw [Reads, h.append, hline, Option.map_some]
  simp [AstState.behind, ParsedOvpnFile.behind]

theorem Reads.of_append (h : Reads env before front) {file : ParsedOvpnFile}
    (hfile : Reads env (before ++ after) file) :
    ∃ back, Reads env after back ∧ file = front.behind before.length back := by
  rw [Reads, h.append, Option.map_eq_some_iff] at hfile
  obtain ⟨⟨back, block⟩, hback, hbehind⟩ := hfile
  simp only [AstState.behind, AstState.mk.injEq, Option.map_eq_none_iff] at hbehind
  obtain ⟨rfl, rfl⟩ := hbehind
  exact ⟨back, hback, rfl⟩

theorem Reads.behind (h : Reads env before front) (hback : Reads env after back) :
    Reads env (before ++ after) (front.behind before.length back) := by
  rw [Reads, h.append, hback]
  rfl

/-! ## Plain lines -/

/-- Without quotes, backslashes, commas, comment characters and line breaks. -/
def IsPlain (text : Text) : Prop :=
  ∀ c ∈ text, c ∉ ['"', '\'', '\\', ',', '#', ';', '\n', '\r']

instance (text : Text) : Decidable (IsPlain text) := List.decidableBAll _ text

namespace IsPlain

variable {text : Text} {c : Char}

theorem tail (h : IsPlain (c :: text)) : IsPlain text := fun d hd => h d (List.mem_cons_of_mem _ hd)

theorem of_subset {rest : Text} (h : IsPlain text) (hrest : rest ⊆ text) : IsPlain rest :=
  fun c hc => h c (hrest hc)

theorem isUnquoted_eq (h : IsPlain text) (hc : c ∈ text) :
    isUnquoted c = !Text.isWhitespace c := by
  have hchar := h c hc
  simp only [List.mem_cons, List.not_mem_nil, or_false, not_or] at hchar
  simp [isUnquoted, hchar]

theorem takeWhile_isUnquoted (h : IsPlain text) :
    text.takeWhile isUnquoted = text.takeWhile (!Text.isWhitespace ·) := by
  induction text with
  | nil => rfl
  | cons c text ih =>
      rw [List.takeWhile_cons, List.takeWhile_cons, h.isUnquoted_eq (by simp), ih h.tail]

theorem dropWhile_isUnquoted (h : IsPlain text) :
    text.dropWhile isUnquoted = text.dropWhile (!Text.isWhitespace ·) := by
  induction text with
  | nil => rfl
  | cons c text ih =>
      rw [List.dropWhile_cons, List.dropWhile_cons, h.isUnquoted_eq (by simp), ih h.tail]

theorem not_atEnd (h : IsPlain (c :: text)) : ¬ AtEnd (c :: text) := by
  have hchar := h c (by simp)
  simp only [List.mem_cons, List.not_mem_nil, or_false, not_or] at hchar
  simp [AtEnd, Text.startsWith, Ne.symm hchar.2.2.2.2.1, Ne.symm hchar.2.2.2.2.2.1]

/-- By induction on the length: a turn takes the first word. -/
theorem leads (h : IsPlain text) (args : List Text) :
    Loop.Leads argumentsTurn (Text.trimStart text, args)
      ([], args ++ Text.splitWhitespace text) := by
  induction hlength : text.length using Nat.strong_induction_on generalizing text args with
  | _ n ih =>
      have hwords : Text.splitWhitespace (Text.trimStart text) = Text.splitWhitespace text :=
        Text.splitWhitespace_trimStart text
      have htrim : IsPlain (Text.trimStart text) := h.of_subset (List.dropWhile_subset _)
      have hle := length_trimStart text
      cases hstart : Text.trimStart text with
      | nil =>
          have hnil : Text.splitWhitespace [] = [] := rfl
          rw [← hwords, hstart, hnil, List.append_nil]
          exact .refl
      | cons c rest =>
          rw [hstart] at htrim hle
          have hspace : Text.isWhitespace c = false := by
            have hhead := List.head?_dropWhile_not Text.isWhitespace text
            rw [show text.dropWhile Text.isWhitespace = c :: rest from hstart] at hhead
            simpa using hhead
          have hunquoted : isUnquoted c = true := by
            rw [htrim.isUnquoted_eq (by simp), hspace]
            rfl
          have hturn := argumentsTurn_of_not args htrim.not_atEnd
          rw [parseArgument_of_unquoted hunquoted, htrim.tail.takeWhile_isUnquoted,
            htrim.tail.dropWhile_isUnquoted] at hturn
          have hshort := (List.dropWhile_sublist (l := rest) (!Text.isWhitespace ·)).length_le
          have hnext := ih _ (by rw [List.length_cons] at hle; omega)
            (htrim.tail.of_subset (List.dropWhile_subset (!Text.isWhitespace ·)))
            (args ++ [c :: rest.takeWhile (!Text.isWhitespace ·)]) rfl
          rw [List.append_assoc, List.singleton_append,
            ← Text.splitWhitespace_cons_of_neg hspace, ← hstart, hwords] at hnext
          exact hnext.head hturn

theorem parseArguments_eq (h : IsPlain text) :
    parseArguments text = some (Text.splitWhitespace text) :=
  parseArguments_of_leads (h.leads []) rfl

/-- A plain line of words is a directive, unless it looks like the start of an inline block. -/
theorem reads {word : Text} {args : List Text} (h : IsPlain line)
    (hwords : Text.splitWhitespace line = word :: args) (hopen : word.head? ≠ some '<') :
    Reads env [line]
      { directives := [{ name := Text.toAsciiLowercase word, args, lineNumber := 1 }] } := by
  have htrim : IsPlain (Text.trim line) := h.of_subset (Text.trim_subset line)
  rw [← Text.splitWhitespace_trim] at hwords
  have hargs := htrim.parseArguments_eq
  cases hline : Text.trim line with
  | nil =>
      rw [hline] at hwords
      cases hwords
  | cons c rest =>
      rw [hline] at htrim hwords hargs
      have hspace := Text.not_of_trim_eq_cons hline
      have hword := hwords
      rw [Text.splitWhitespace_cons_of_neg hspace, List.cons.injEq] at hword
      obtain ⟨rfl, -⟩ := hword
      have htag : parseInlineOpenTag env (c :: rest) = none := by
        have hstart : Text.startsWith (Text.trim (c :: rest)) ['<'] = false := by
          have hne : '<' ≠ c := by
            rintro rfl
            exact hopen rfl
          rw [← hline, Text.trim_trim, hline]
          simp [Text.startsWith, List.isPrefixOf, hne]
        simp only [parseInlineOpenTag, hstart]
        rfl
      have hend : ¬ ((c :: rest).isEmpty || Text.startsWith (c :: rest) ['#'] ||
          Text.startsWith (c :: rest) [';']) = true := htrim.not_atEnd
      rw [Reads, astLines, astLine]
      simp only [hline, htag, hargs, hwords]
      rw [if_neg hend]
      rfl

end IsPlain

/-! ## Profiles -/

theorem parseOvpnAst_eq_ok {content : Text} {file : ParsedOvpnFile} :
    parseOvpnAst env content = some (.ok file) ↔ Reads env (Text.lines content) file := by
  unfold parseOvpnAst Reads
  cases astLines env 1 {} (Text.lines content) with
  | none => simp
  | some st =>
      obtain ⟨result, block⟩ := st
      cases block with
      | none => simp
      | some block => simp

theorem parseOvpnConfig_eq_ok {content : Text} {base : OpenVpnConfig} :
    parseOvpnConfig env content = some (.ok base) ↔
      ∃ file config, Reads env (Text.lines content) file ∧
        OpenVpnConfig.applyBlocks env {} file.inlineBlocks = some (.ok config) ∧
        base = file.directives.foldl OpenVpnConfig.applyDirective config := by
  simp only [← parseOvpnAst_eq_ok]
  unfold parseOvpnConfig
  generalize ({} : OpenVpnConfig) = initial
  rcases parseOvpnAst env content with _ | err | file
  · simp
  · simp
  · rcases hblocks : OpenVpnConfig.applyBlocks env initial file.inlineBlocks with _ | err | config
    · simp [hblocks]
    · simp [hblocks]
    · simp [hblocks, eq_comm]

namespace OpenVpnConfig

variable {config : OpenVpnConfig}

theorem applyBlocks_shift (config : OpenVpnConfig) (k : ℕ) (blocks : List InlineBlock) :
    applyBlocks env config (blocks.map (.shift k)) = applyBlocks env config blocks := by
  induction blocks generalizing config with
  | nil => rfl
  | cons block blocks ih =>
      have hblock : config.applyBlock env (block.shift k) = config.applyBlock env block := rfl
      rw [List.map_cons, applyBlocks, applyBlocks, hblock]
      rcases config.applyBlock env block with _ | err | next
      · rfl
      · rfl
      · exact ih next

theorem applyBlocks_append_shift (config : OpenVpnConfig) (front : List InlineBlock) (k : ℕ)
    (blocks : List InlineBlock) :
    applyBlocks env config (front ++ blocks.map (.shift k)) =
      applyBlocks env config (front ++ blocks) := by
  induction front generalizing config with
  | nil => exact applyBlocks_shift config k blocks
  | cons block front ih =>
      rw [List.cons_append, List.cons_append, applyBlocks, applyBlocks]
      rcases config.applyBlock env block with _ | err | next
      · rfl
      · rfl
      · exact ih next

theorem foldl_behind (config : OpenVpnConfig) (front : ParsedOvpnFile) (k : ℕ)
    (back : ParsedOvpnFile) :
    (front.behind k back).directives.foldl applyDirective config =
      back.directives.foldl applyDirective (front.directives.foldl applyDirective config) := by
  rw [ParsedOvpnFile.behind, List.foldl_append, List.foldl_map]
  rfl

end OpenVpnConfig

/-- A directive put into a profile is applied between the directives around it. -/
theorem parseOvpnConfig_insert {profile rest : Text} {dir : Directive} {base : OpenVpnConfig}
    (hbefore : Reads env before front) (hline : Reads env [line] { directives := [dir] })
    (hprofile : Text.lines profile = before ++ line :: after)
    (hrest : Text.lines rest = before ++ after)
    (hbase : parseOvpnConfig env rest = some (.ok base)) :
    ∃ config back, Reads env after back ∧
      base = back.directives.foldl OpenVpnConfig.applyDirective config ∧
      parseOvpnConfig env profile =
        some (.ok (back.directives.foldl OpenVpnConfig.applyDirective
          (config.applyDirective dir))) := by
  obtain ⟨file, blocks, hfile, hblocks, rfl⟩ := parseOvpnConfig_eq_ok.mp hbase
  rw [hrest] at hfile
  obtain ⟨back, hback, rfl⟩ := hbefore.of_append hfile
  have hwith := (hbefore.concat hline).behind hback
  rw [List.append_assoc, List.singleton_append, ← hprofile] at hwith
  refine ⟨front.directives.foldl OpenVpnConfig.applyDirective blocks, back, hback,
    OpenVpnConfig.foldl_behind _ _ _ _, ?_⟩
  refine parseOvpnConfig_eq_ok.mpr ⟨_, blocks, hwith, ?_, ?_⟩
  · exact (OpenVpnConfig.applyBlocks_append_shift _ _ _ _).trans
      ((OpenVpnConfig.applyBlocks_append_shift _ _ _ _).symm.trans hblocks)
  · rw [OpenVpnConfig.foldl_behind, List.foldl_concat]
    rfl

end VpnHub.Config
