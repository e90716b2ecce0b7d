import VpnHub.Program.Parser
import VpnHub.Program.Push

/-! Writers for the items of a `PUSH_REPLY` and for the arguments of a directive, which the readers
are to undo. -/

namespace VpnHub.Config

/-- A backslash before each of the special characters. -/
def escape (special : List Char) (text : Text) : Text :=
  text.flatMap fun c => if c ∈ special then ['\\', c] else [c]

/-! ## Items -/

structure IsItem (item : Text) : Prop where
  nonempty : item ≠ []
  trimmed : Text.trim item = item

def escapeItem (item : Text) : Text := escape ['\\', '"', '\'', ',', '\r', '\n'] item

def quoteItem (item : Text) : Text := '"' :: escape ['\\', '"'] item ++ ['"']

/-- Both ways to write an item. -/
inductive WritesItem (item : Text) : Text → Prop where
  | escaped : WritesItem item (escapeItem item)
  | quoted : WritesItem item (quoteItem item)

def replyOf (written : List Text) : Text := "PUSH_REPLY,".toList ++ Text.join written [',']

/-! ## Arguments -/

/-- A character of an argument between double quotes. -/
inductive WritesChar : Char → Text → Prop where
  | plain {c : Char} (backslash : c ≠ '\\') (quote : c ≠ '"') : WritesChar c [c]
  | backslash : WritesChar '\\' ['\\', '\\']
  | quote : WritesChar '"' ['\\', '"']
  | lineFeed : WritesChar '\n' ['\\', 'n']
  | carriageReturn : WritesChar '\r' ['\\', 'r']
  | tab : WritesChar '\t' ['\\', 't']

inductive WritesChars : Text → Text → Prop where
  | nil : WritesChars [] []
  | cons {c : Char} {arg first rest : Text} (char : WritesChar c first)
      (more : WritesChars arg rest) : WritesChars (c :: arg) (first ++ rest)

/-- The argument between double quotes. -/
def WritesArgument (arg written : Text) : Prop :=
  ∃ chars, WritesChars arg chars ∧ written = '"' :: (chars ++ ['"'])

/-- The arguments with one or more spaces between them. -/
inductive WritesArguments : List Text → Text → Prop where
  | nil : WritesArguments [] []
  | single {arg written : Text} (argument : WritesArgument arg written) :
      WritesArguments [arg] written
  | cons {arg written spaces next line : Text} {args : List Text}
      (argument : WritesArgument arg written) (nonempty : spaces ≠ [])
      (spaces_only : ∀ c ∈ spaces, c = ' ') (more : WritesArguments (next :: args) line) :
      WritesArguments (arg :: next :: args) (written ++ (spaces ++ line))

/-- Nothing, or a comment after a space. -/
def IsComment (tail : Text) : Prop := tail = [] ∨ ∃ text, tail = " # ".toList ++ text

end VpnHub.Config
