import VpnHub.Library.Trim
import VpnHub.Model.Quoting

/-! # Termination of the profile parser

A turn of the loop over the arguments takes a whole argument, or it takes nothing and the loop
spins. The parser returns exactly when no line that it parses has an unclosed quotation. -/

namespace VpnHub.Config

variable {env : ParserEnv} {s arg rest : Text} {args : List Text} {c : Char}

/-! ## Arguments -/

theorem readChar_eq_some : readChar c s = some ((), rest) ↔ s = c :: rest := by
  cases s with
  | nil => simp [readChar]
  | cons d s =>
      by_cases hd : d = c
      · simp [readChar, hd]
      · simp [readChar, hd]

theorem length_escapedLoop {acc : Text} (h : escapedLoop acc s = some (arg, rest)) :
    rest.length ≤ s.length := by
  induction acc, s using escapedLoop.induct generalizing arg rest with
  | case1 acc =>
      simp only [escapedLoop, Option.some.injEq, Prod.mk.injEq] at h
      rw [← h.2]
  | case2 acc s =>
      simp only [escapedLoop, Option.some.injEq, Prod.mk.injEq] at h
      rw [← h.2]
  | case3 acc => simp [escapedLoop] at h
  | case4 acc c s d hd ih =>
      simp only [escapedLoop, hd] at h
      have := ih h
      simp only [List.length_cons]
      omega
  | case5 acc c s hd => simp [escapedLoop, hd] at h
  | case6 acc c s hquote hlone hescape ih =>
      have := ih (by simpa [escapedLoop, hquote, hlone, hescape] using h)
      simp only [List.length_cons]
      omega

theorem parseDoubleQuoted_eq_some : parseDoubleQuoted s = some (arg, rest) ↔
    ∃ inner, s = '"' :: inner ∧ escapedTransform inner = some (arg, '"' :: rest) := by
  constructor
  · intro h
    simp only [parseDoubleQuoted, Option.bind_eq_bind, Option.bind_eq_some_iff] at h
    obtain ⟨⟨⟨⟩, inner⟩, hopen, ⟨arg', more⟩, hinner, ⟨⟨⟩, rest'⟩, hclose, hresult⟩ := h
    obtain ⟨rfl, rfl⟩ := Prod.mk.inj (Option.some.inj hresult)
    rw [readChar_eq_some] at hopen hclose
    exact ⟨inner, hopen, hinner.trans (congrArg (fun more => some (arg', more)) hclose)⟩
  · rintro ⟨inner, rfl, hinner⟩
    simp [parseDoubleQuoted, readChar, hinner]

theorem parseSingleQuoted_eq_some : parseSingleQuoted s = some (arg, rest) ↔
    ∃ inner, s = '\'' :: inner ∧ inner.dropWhile (· ≠ '\'') = '\'' :: rest ∧
      arg = inner.takeWhile (· ≠ '\'') := by
  constructor
  · intro h
    simp only [parseSingleQuoted, Option.bind_eq_bind, Option.bind_eq_some_iff] at h
    obtain ⟨⟨⟨⟩, inner⟩, hopen, ⟨⟨⟩, rest'⟩, hclose, hresult⟩ := h
    obtain ⟨rfl, rfl⟩ := Prod.mk.inj (Option.some.inj hresult)
    rw [readChar_eq_some] at hopen hclose
    exact ⟨inner, hopen, hclose, rfl⟩
  · rintro ⟨inner, rfl, hinner, rfl⟩
    have hopen : readChar '\'' ('\'' :: inner) = some ((), inner) := readChar_eq_some.mpr rfl
    have hclose := readChar_eq_some.mpr hinner
    simp only [parseSingleQuoted, hopen, hclose, Option.bind_eq_bind, Option.bind_some]
    rfl

theorem length_parseDoubleQuoted (h : parseDoubleQuoted s = some (arg, rest)) :
    rest.length < s.length := by
  obtain ⟨inner, rfl, hinner⟩ := parseDoubleQuoted_eq_some.mp h
  rw [escapedTransform] at hinner
  split at hinner
  · cases hinner
  · have := length_escapedLoop hinner
    simp only [List.length_cons] at this ⊢
    omega

theorem length_parseSingleQuoted (h : parseSingleQuoted s = some (arg, rest)) :
    rest.length < s.length := by
  obtain ⟨inner, rfl, hinner, -⟩ := parseSingleQuoted_eq_some.mp h
  have := (List.dropWhile_sublist (l := inner) (· ≠ '\'')).length_le
  rw [hinner] at this
  simp only [List.length_cons] at this ⊢
  omega

theorem length_trimStart (s : Text) : (Text.trimStart s).length ≤ s.length :=
  (List.dropWhile_sublist _).length_le

/-- The three alternatives, in their order. -/
theorem parseArgument_cases (s : Text) :
    (∃ result, parseDoubleQuoted s = some result ∧ parseArgument s = result) ∨
      (∃ result, parseSingleQuoted s = some result ∧ parseArgument s = result) ∨
      (parseDoubleQuoted s = none ∧ parseSingleQuoted s = none ∧
        parseArgument s = parseUnquoted s) := by
  cases hdouble : parseDoubleQuoted s with
  | some result => exact .inl ⟨result, rfl, by simp [parseArgument, hdouble]⟩
  | none =>
      cases hsingle : parseSingleQuoted s with
      | some result => exact .inr (.inl ⟨result, rfl, by simp [parseArgument, hdouble, hsingle]⟩)
      | none => exact .inr (.inr ⟨rfl, rfl, by simp [parseArgument, hdouble, hsingle]⟩)

theorem parseArgument_of_double (h : parseDoubleQuoted s = some (arg, rest)) :
    parseArgument s = (arg, rest) := by
  simp [parseArgument, h]

theorem parseArgument_of_single (h : parseSingleQuoted s = some (arg, rest)) :
    parseArgument s = (arg, rest) := by
  obtain ⟨inner, rfl, -⟩ := parseSingleQuoted_eq_some.mp h
  have hdouble : parseDoubleQuoted ('\'' :: inner) = none := by
    simp [parseDoubleQuoted, readChar]
  simp [parseArgument, hdouble, h]

theorem parseArgument_of_unquoted (h : isUnquoted c = true) :
    parseArgument (c :: s) = (c :: s.takeWhile isUnquoted, s.dropWhile isUnquoted) := by
  have hdouble : parseDoubleQuoted (c :: s) = none := by
    have hc : c ≠ '"' := by
      rintro rfl
      cases h
    simp [parseDoubleQuoted, readChar, hc]
  have hsingle : parseSingleQuoted (c :: s) = none := by
    have hc : c ≠ '\'' := by
      rintro rfl
      cases h
    simp [parseSingleQuoted, readChar, hc]
  simp [parseArgument, hdouble, hsingle, parseUnquoted, h]

/-! ## Turns -/

theorem argumentsTurn_of_atEnd (h : AtEnd s) : argumentsTurn (s, args) = .inr args := if_pos h

theorem argumentsTurn_of_not (args : List Text) (h : ¬ AtEnd s) : argumentsTurn (s, args) =
    .inl (Text.trimStart (parseArgument s).2,
      if (parseArgument s).1.isEmpty then args else args ++ [(parseArgument s).1]) := if_neg h

theorem parseArgumentsLoop_eq (turns : ℕ) (curr : Text) (args : List Text) :
    parseArgumentsLoop turns curr args = Loop.iterate argumentsTurn turns (curr, args) := by
  induction turns generalizing curr args with
  | zero => rfl
  | succ turns ih =>
      by_cases hend : AtEnd curr
      · rw [Loop.iterate_of_inr (argumentsTurn_of_atEnd hend)]
        exact if_pos hend
      · rw [Loop.iterate_of_inl (argumentsTurn_of_not args hend), ← ih]
        exact if_neg hend

/-- A turn takes something, or the next state is the same one. -/
theorem argumentsTurn_progress {next : Text × List Text}
    (h : argumentsTurn (s, args) = .inl next) :
    next = (s, args) ∨ next.1.length < s.length := by
  by_cases hend : AtEnd s
  · rw [argumentsTurn_of_atEnd hend] at h
    cases h
  rw [argumentsTurn_of_not args hend] at h
  obtain rfl := Sum.inl.inj h
  obtain ⟨⟨arg, rest⟩, hdouble, hargument⟩ | ⟨⟨arg, rest⟩, hsingle, hargument⟩ |
    ⟨-, -, hargument⟩ := parseArgument_cases s
  · right
    rw [hargument]
    exact (length_trimStart rest).trans_lt (length_parseDoubleQuoted hdouble)
  · right
    rw [hargument]
    exact (length_trimStart rest).trans_lt (length_parseSingleQuoted hsingle)
  · rw [hargument, parseUnquoted]
    cases s with
    | nil => exact absurd rfl hend
    | cons c s =>
        by_cases hc : isUnquoted c = true
        · right
          have hle := (List.dropWhile_sublist (l := s) isUnquoted).length_le
          have htrim := length_trimStart (s.dropWhile isUnquoted)
          simp only [List.dropWhile_cons_of_pos hc, List.length_cons]
          omega
        · rw [List.dropWhile_cons_of_neg hc, List.takeWhile_cons_of_neg hc]
          by_cases hspace : Text.isWhitespace c = true
          · right
            have htrim := length_trimStart s
            rw [Text.trimStart, Text.trimStartMatches_cons_of_pos hspace, List.length_cons]
            exact Nat.lt_succ_of_le htrim
          · left
            have hspace : Text.isWhitespace c = false := by simpa using hspace
            rw [Text.trimStart, Text.trimStartMatches_cons_of_neg hspace]
            rfl

/-- An argument that starts with a quote and is no quotation is left as it is. -/
theorem argumentsTurn_of_unclosed (args : List Text) (hend : ¬ AtEnd (c :: s))
    (hspace : Text.isWhitespace c = false) (hc : isUnquoted c = false)
    (hdouble : parseDoubleQuoted (c :: s) = none) (hsingle : parseSingleQuoted (c :: s) = none) :
    argumentsTurn (c :: s, args) = .inl (c :: s, args) := by
  have hargument : parseArgument (c :: s) = ([], c :: s) := by
    simp [parseArgument, hdouble, hsingle, parseUnquoted, hc]
  rw [argumentsTurn_of_not args hend, hargument, Text.trimStart,
    Text.trimStartMatches_cons_of_neg hspace]
  rfl

theorem trimStart_trimStart (s : Text) : Text.trimStart (Text.trimStart s) = Text.trimStart s :=
  List.dropWhile_idempotent _ s

/-! ## The loop -/

theorem Balanced.ends (h : Balanced s) (args : List Text) :
    Loop.Ends argumentsTurn (s, args) := by
  induction h generalizing args with
  | done hend => exact ⟨1, args, Loop.iterate_of_inr (argumentsTurn_of_atEnd hend)⟩
  | @doubleQuoted s arg rest hargument _ ih =>
      have hend : ¬ AtEnd s := by
        obtain ⟨inner, rfl, -⟩ := parseDoubleQuoted_eq_some.mp hargument
        exact Bool.false_ne_true
      have hturn := argumentsTurn_of_not args hend
      rw [parseArgument_of_double hargument] at hturn
      exact (ih _).of_turn hturn
  | @singleQuoted s arg rest hargument _ ih =>
      have hend : ¬ AtEnd s := by
        obtain ⟨inner, rfl, -⟩ := parseSingleQuoted_eq_some.mp hargument
        exact Bool.false_ne_true
      have hturn := argumentsTurn_of_not args hend
      rw [parseArgument_of_single hargument] at hturn
      exact (ih _).of_turn hturn
  | @unquoted c s hc _ ih =>
      by_cases hend : AtEnd (c :: s)
      · exact ⟨1, args, Loop.iterate_of_inr (argumentsTurn_of_atEnd hend)⟩
      · have hturn := argumentsTurn_of_not args hend
        rw [parseArgument_of_unquoted hc] at hturn
        exact (ih _).of_turn hturn

/-- By induction on the turns: each of them has taken a whole argument. -/
theorem balanced_of_iterate {turns : ℕ} {result : List Text} (htrim : Text.trimStart s = s)
    (h : Loop.iterate argumentsTurn turns (s, args) = some result) : Balanced s := by
  induction turns generalizing s args with
  | zero => cases h
  | succ turns ih =>
      by_cases hend : AtEnd s
      · exact .done hend
      have hturn := argumentsTurn_of_not args hend
      obtain ⟨⟨arg, rest⟩, hdouble, hargument⟩ | ⟨⟨arg, rest⟩, hsingle, hargument⟩ |
        ⟨hdouble, hsingle, -⟩ := parseArgument_cases s
      · rw [Loop.iterate_of_inl hturn, hargument] at h
        exact .doubleQuoted hdouble (ih (trimStart_trimStart rest) h)
      · rw [Loop.iterate_of_inl hturn, hargument] at h
        exact .singleQuoted hsingle (ih (trimStart_trimStart rest) h)
      · cases s with
        | nil => exact absurd rfl hend
        | cons c s =>
            by_cases hc : isUnquoted c = true
            · rw [Loop.iterate_of_inl hturn, parseArgument_of_unquoted hc] at h
              exact .unquoted hc (ih (trimStart_trimStart _) h)
            · have hc : isUnquoted c = false := by simpa using hc
              have hspace : Text.isWhitespace c = false := by
                by_contra hspace
                have hle := length_trimStart s
                rw [Text.trimStart, Text.trimStartMatches_cons_of_pos (by simpa using hspace)]
                  at htrim
                have hlen := congrArg List.length htrim
                rw [List.length_cons] at hlen
                change (Text.trimStart s).length = _ at hlen
                omega
              have hspins := argumentsTurn_of_unclosed args hend hspace hc hdouble hsingle
              exact absurd ⟨_, _, h⟩ (Loop.not_ends_of_spins hspins)

theorem ends_iff_balanced (htrim : Text.trimStart s = s) :
    Loop.Ends argumentsTurn (s, args) ↔ Balanced s := by
  constructor
  · rintro ⟨turns, result, h⟩
    exact balanced_of_iterate htrim h
  · intro h
    exact h.ends args

theorem parseArguments_returns_iff (input : Text) :
    (∃ args, parseArguments input = some args) ↔ Balanced (Text.trimStart input) := by
  rw [← ends_iff_balanced (trimStart_trimStart input)]
  simp only [parseArguments, parseArgumentsLoop_eq]
  constructor
  · rintro ⟨args, h⟩
    exact ⟨_, args, h⟩
  · intro hends
    have hnot := (Loop.ends_iff (fun state => state.1.length) fun t u _ hturn =>
      argumentsTurn_progress hturn).mp hends
    have hle := length_trimStart input
    refine Loop.exists_iterate (fun state => state.1.length) (fun t u leads hturn => ?_)
      (Nat.lt_succ_of_le hle)
    obtain rfl | hlt := argumentsTurn_progress hturn
    · exact absurd hturn (hnot _ leads)
    · exact hlt

theorem progresses_iff (input : Text) : Progresses input ↔ Balanced (Text.trimStart input) := by
  rw [← ends_iff_balanced (trimStart_trimStart input), Loop.ends_iff
    (fun state : Text × List Text => state.1.length) fun t u _ hturn => argumentsTurn_progress hturn]
  constructor
  · intro h t leads hturn
    exact lt_irrefl _ (h t t leads hturn)
  · intro h t u leads hturn
    obtain rfl | hlt := argumentsTurn_progress hturn
    · exact absurd hturn (h _ leads)
    · exact hlt

/-! ## Lines -/

/-- A directive stops the parser only with its arguments. -/
theorem astLine_directive {st : AstState} {line : Text} (lineNum : ℕ) (hblock : st.block = none)
    (hend : ¬ AtEnd (Text.trim line)) (hopen : parseInlineOpenTag env (Text.trim line) = none) :
    ∃ next : List Text → AstState, (∀ args, (next args).block = none) ∧
      astLine env st lineNum line = (parseArguments (Text.trim line)).map next := by
  refine ⟨fun args => args.casesOn st fun name args => { st with result := { st.result with
    directives := st.result.directives ++
      [{ name := Text.toAsciiLowercase name, args, lineNumber := lineNum }] } }, ?_, ?_⟩
  · intro args
    cases args <;> exact hblock
  · simp only [astLine, hblock, hopen]
    refine (if_neg hend).trans ?_
    cases parseArguments (Text.trim line) with
    | none => rfl
    | some args => cases args <;> rfl

/-- Where `parse_ovpn_ast` gets stuck is decided by the lines that it takes for directives. -/
theorem astLines_returns_iff (env : ParserEnv) (lineNum : ℕ) (st : AstState) (lines : List Text) :
    (∃ st', astLines env lineNum st lines = some st') ↔
      ∀ line ∈ directiveLines env (st.block.map (·.tag)) lines, Balanced (Text.trimStart line) := by
  induction lines generalizing lineNum st with
  | nil => simp [astLines, directiveLines]
  | cons line rest ih =>
      cases hblock : st.block with
      | some block =>
          simp only [astLines, astLine, hblock, Option.map_some, directiveLines]
          by_cases hclose : parseInlineCloseTag line block.tag = true
          · rw [if_pos hclose, if_pos hclose]
            exact ih (lineNum + 1) { result := _ }
          · rw [if_neg hclose, if_neg hclose]
            exact ih (lineNum + 1) { st with block := some _ }
      | none =>
          simp only [astLines, Option.map_none, directiveLines]
          by_cases hend : AtEnd (Text.trim line)
          · have hline : astLine env st lineNum line = some st := by
              simp only [astLine, hblock]
              exact if_pos hend
            rw [if_pos hend, hline]
            simpa [hblock] using ih (lineNum + 1) st
          rw [if_neg hend]
          cases hopen : parseInlineOpenTag env (Text.trim line) with
          | some opened =>
              obtain ⟨tag, attr⟩ := opened
              have hline : astLine env st lineNum line = some { st with
                  block := some { tag, content := [], attr, lineNumber := lineNum } } := by
                simp only [astLine, hblock, hopen]
                exact if_neg hend
              rw [hline]
              exact ih _ _
          | none =>
              obtain ⟨next, hnext, hline⟩ := astLine_directive lineNum hblock hend hopen
              rw [hline, List.forall_mem_cons, ← parseArguments_returns_iff]
              cases hargs : parseArguments (Text.trim line) with
              | none => simp
              | some args => simpa [hnext args] using ih (lineNum + 1) (next args)

theorem parseOvpnAst_returns_iff (env : ParserEnv) (content : Text) :
    (∃ result, parseOvpnAst env content = some result) ↔ LinesBalanced env content := by
  rw [LinesBalanced]
  have h := astLines_returns_iff env 1 {} (Text.lines content)
  rw [show (({} : AstState).block.map (·.tag)) = none from rfl] at h
  rw [← h, parseOvpnAst]
  cases hlines : astLines env 1 {} (Text.lines content) with
  | none => simp
  | some st =>
      refine iff_of_true ?_ ⟨st, rfl⟩
      cases hblock : st.block <;> simp [hblock]

/-! ## Profiles -/

theorem applyBlock_of_connection {block : InlineBlock} (config : OpenVpnConfig)
    (h : block.tag = "connection".toList) : OpenVpnConfig.applyBlock env config block =
      (parseOvpnAst env block.content).map fun result => result.map config.applyConnectionBlock := by
  rw [OpenVpnConfig.applyBlock, h, if_neg (by decide), if_neg (by decide), if_neg (by decide),
    if_neg (by decide), if_neg (by decide), if_neg (by decide), if_neg (by decide),
    if_neg (by decide), if_pos rfl]
  cases parseOvpnAst env block.content with
  | none => rfl
  | some result => cases result <;> rfl

theorem exists_ok_ite {c : Prop} [Decidable c] {α ε : Type} {a : α}
    {b : Option (Except ε α)} (h : ¬ c → ∃ x, b = some (.ok x)) :
    ∃ x, (if c then some (.ok a) else b) = some (.ok x) := by
  by_cases hc : c
  · exact ⟨a, if_pos hc⟩
  · rw [if_neg hc]
    exact h hc

/-- Any other block than a key store or a connection is taken. -/
theorem applyBlock_of_ne (env : ParserEnv) {block : InlineBlock} (config : OpenVpnConfig)
    (hpkcs12 : block.tag ≠ "pkcs12".toList) (hconnection : block.tag ≠ "connection".toList) :
    ∃ config', OpenVpnConfig.applyBlock env config block = some (.ok config') := by
  unfold OpenVpnConfig.applyBlock
  iterate 7 refine exists_ok_ite fun _ => ?_
  rw [if_neg hpkcs12, if_neg hconnection]
  exact ⟨config, rfl⟩

/-- A key store is taken when it is valid base64. -/
theorem applyBlock_of_pkcs12 {block : InlineBlock} (config : OpenVpnConfig)
    (h : block.tag = "pkcs12".toList) :
    (∃ result, OpenVpnConfig.applyBlock env config block = some result) ∧
      ((∃ config', OpenVpnConfig.applyBlock env config block = some (.ok config')) ↔
        ∃ raw, env.base64Decode (Text.utf8Encode
          (block.content.filter fun c => c ≠ '\n' ∧ c ≠ '\r' ∧ c ≠ ' ')) = .ok raw) := by
  rw [OpenVpnConfig.applyBlock, h, if_neg (by decide), if_neg (by decide), if_neg (by decide),
    if_neg (by decide), if_neg (by decide), if_neg (by decide), if_neg (by decide), if_pos rfl]
  dsimp only
  cases env.base64Decode (Text.utf8Encode
    (block.content.filter fun c => c ≠ '\n' ∧ c ≠ '\r' ∧ c ≠ ' ')) with
  | error e =>
      refine ⟨⟨_, rfl⟩, ?_⟩
      simp
  | ok raw =>
      refine ⟨⟨_, rfl⟩, iff_of_true ⟨_, rfl⟩ ⟨raw, rfl⟩⟩

theorem applyBlock_returns_iff (config : OpenVpnConfig) (block : InlineBlock) :
    (∃ result, OpenVpnConfig.applyBlock env config block = some result) ↔
      (block.tag = "connection".toList → LinesBalanced env block.content) := by
  by_cases hconnection : block.tag = "connection".toList
  · rw [applyBlock_of_connection config hconnection, ← parseOvpnAst_returns_iff]
    cases parseOvpnAst env block.content <;> simp [hconnection]
  · refine iff_of_true ?_ fun h => absurd h hconnection
    by_cases hpkcs12 : block.tag = "pkcs12".toList
    · exact (applyBlock_of_pkcs12 config hpkcs12).1
    · obtain ⟨config', happly⟩ := applyBlock_of_ne env config hpkcs12 hconnection
      exact ⟨_, happly⟩

/-- Whether a block is taken does not depend on the profile so far. -/
theorem accepted_iff (config : OpenVpnConfig) (block : InlineBlock) :
    Accepted env block ↔
      ∃ config', OpenVpnConfig.applyBlock env config block = some (.ok config') := by
  by_cases hconnection : block.tag = "connection".toList
  · rw [Accepted, applyBlock_of_connection _ hconnection, applyBlock_of_connection _ hconnection]
    cases parseOvpnAst env block.content with
    | none => simp
    | some result => cases result <;> simp [Except.map]
  by_cases hpkcs12 : block.tag = "pkcs12".toList
  · rw [Accepted, (applyBlock_of_pkcs12 _ hpkcs12).2, (applyBlock_of_pkcs12 _ hpkcs12).2]
  · exact iff_of_true (applyBlock_of_ne _ _ hpkcs12 hconnection)
      (applyBlock_of_ne _ _ hpkcs12 hconnection)

theorem applyBlocks_returns_iff (config : OpenVpnConfig) (blocks : List InlineBlock) :
    (∃ result, OpenVpnConfig.applyBlocks env config blocks = some result) ↔
      ConnectionsBalanced env blocks := by
  induction blocks generalizing config with
  | nil => simp [OpenVpnConfig.applyBlocks, ConnectionsBalanced]
  | cons block rest ih =>
      rw [ConnectionsBalanced, ← applyBlock_returns_iff config, accepted_iff config,
        OpenVpnConfig.applyBlocks]
      cases happly : OpenVpnConfig.applyBlock env config block with
      | none => simp
      | some result =>
          cases result with
          | error e => simp
          | ok config' => simpa using ih config'

theorem parseOvpnConfig_returns_iff (env : ParserEnv) (content : Text) :
    (∃ result, parseOvpnConfig env content = some result) ↔ ProfileBalanced env content := by
  rw [ProfileBalanced, ← parseOvpnAst_returns_iff, parseOvpnConfig]
  cases hast : parseOvpnAst env content with
  | none => simp
  | some result =>
      cases result with
      | error e => simp
      | ok ast =>
          simp only [Option.some.injEq, exists_eq', Except.ok.injEq, forall_eq', true_and]
          rw [← applyBlocks_returns_iff {} ast.inlineBlocks]
          cases OpenVpnConfig.applyBlocks env {} ast.inlineBlocks with
          | none => simp
          | some result => cases result <;> simp

/-- The loop over the arguments makes progress, and the parser returns, exactly where the
quotations are closed. -/
theorem parser_terminates_iff (env : ParserEnv) (input content : Text) :
    ((Progresses input ↔ Balanced (Text.trimStart input)) ∧
      ((∃ args, parseArguments input = some args) ↔ Balanced (Text.trimStart input))) ∧
    ((∃ result, parseOvpnAst env content = some result) ↔ LinesBalanced env content) ∧
    ((∃ result, parseOvpnConfig env content = some result) ↔ ProfileBalanced env content) :=
  ⟨⟨progresses_iff input, parseArguments_returns_iff input⟩, parseOvpnAst_returns_iff env content,
    parseOvpnConfig_returns_iff env content⟩

/-- An empty quoted string is left as it is for ever. -/
theorem parser_not_terminating :
    ¬ ((∀ input, Progresses input ∧ ∃ args, parseArguments input = some args) ∧
      (∀ env content, ∃ result, parseOvpnAst env content = some result) ∧
      ∀ env content, ∃ result, parseOvpnConfig env content = some result) := by
  rintro ⟨-, -, hconfig⟩
  have hhangs : parseOvpnConfig
      { toLowercase := Text.toAsciiLowercase, base64Decode := fun _ => .error [] }
      "client\nauth-user-pass \"\"\nremote vpn.example.com 1194\n".toList = none := by
    decide +kernel
  obtain ⟨result, h⟩ := hconfig _ _
  rw [hhangs] at h
  cases h

end VpnHub.Config
