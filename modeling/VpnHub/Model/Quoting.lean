import VpnHub.Library.Loop
import VpnHub.Program.Parser

/-! Profile texts in which every quotation is closed, and the turns of the loop over the
arguments of a line. -/

namespace VpnHub.Config

/-- Nothing is left but a comment. -/
def AtEnd (s : Text) : Prop :=
  (s.isEmpty || Text.startsWith s ['#'] || Text.startsWith s [';']) = true

instance (s : Text) : Decidable (AtEnd s) := inferInstanceAs (Decidable (_ = true))

/-- A sequence of arguments: an argument that starts with a quote is a whole quotation, in double
quotes one of at least one character and with known escapes only. -/
inductive Balanced : Text → Prop where
  | done {s : Text} (atEnd : AtEnd s) : Balanced s
  | doubleQuoted {s arg rest : Text} (argument : parseDoubleQuoted s = some (arg, rest))
      (more : Balanced (Text.trimStart rest)) : Balanced s
  | singleQuoted {s arg rest : Text} (argument : parseSingleQuoted s = some (arg, rest))
      (more : Balanced (Text.trimStart rest)) : Balanced s
  | unquoted {c : Char} {s : Text} (argument : isUnquoted c = true)
      (more : Balanced (Text.trimStart (s.dropWhile isUnquoted))) : Balanced (c :: s)

/-- One turn of the loop of `parse_arguments`. -/
def argumentsTurn : Text × List Text → (Text × List Text) ⊕ List Text
  | (curr, args) =>
    if AtEnd curr then .inr args
    else
      let (arg, next) := parseArgument curr
      .inl (Text.trimStart next, if arg.isEmpty then args else args ++ [arg])

/-- Every turn of the loop that does not end it leaves less of the text. -/
def Progresses (input : Text) : Prop :=
  ∀ state next, Loop.Leads argumentsTurn (Text.trimStart input, []) state →
    argumentsTurn state = .inl next → next.1.length < state.1.length

/-! ## Lines -/

/-- The lines that are parsed as directives: those outside the inline blocks, but for blank
lines, comments and opening tags. -/
def directiveLines (env : ParserEnv) : Option Text → List Text → List Text
  | _, [] => []
  | some tag, line :: rest =>
    directiveLines env (if parseInlineCloseTag line tag then none else some tag) rest
  | none, line :: rest =>
    let trimmed := Text.trim line
    if AtEnd trimmed then directiveLines env none rest
    else
      match parseInlineOpenTag env trimmed with
      | some (tag, _) => directiveLines env (some tag) rest
      | none => trimmed :: directiveLines env none rest

def LinesBalanced (env : ParserEnv) (content : Text) : Prop :=
  ∀ line ∈ directiveLines env none (Text.lines content), Balanced (Text.trimStart line)

/-! ## Profiles -/

/-- A block that is not refused: a key store is valid base64, and a connection block has all its
inner blocks closed. -/
def Accepted (env : ParserEnv) (block : InlineBlock) : Prop :=
  ∃ config, OpenVpnConfig.applyBlock env {} block = some (.ok config)

/-- The connection blocks are balanced, up to the first block that is refused. -/
def ConnectionsBalanced (env : ParserEnv) : List InlineBlock → Prop
  | [] => True
  | block :: rest =>
    (block.tag = "connection".toList → LinesBalanced env block.content) ∧
      (Accepted env block → ConnectionsBalanced env rest)

def ProfileBalanced (env : ParserEnv) (content : Text) : Prop :=
  LinesBalanced env content ∧
    ∀ ast, parseOvpnAst env content = some (.ok ast) → ConnectionsBalanced env ast.inlineBlocks

end VpnHub.Config
