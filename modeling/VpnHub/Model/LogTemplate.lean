import VpnHub.Library.Text
import VpnHub.Program.Daemon.RingBuffer

/-! Log lines with credentials left open, and when their redaction hides the credentials. -/

namespace VpnHub.Daemon

open Redaction

/-- A credential that is left open. Two of the same name are the same. -/
inductive Slot where
  | privateKey (name : ℕ)
  | password (name : ℕ)
  deriving DecidableEq, Repr

/-- A part of a template: fixed text, or a slot with the words that announce it. -/
inductive Piece where
  | text (text : Text)
  | privateKey (name : ℕ)
  | password (name : ℕ) (space : Bool)
  deriving DecidableEq, Repr

/-- A text in which slots stand for credentials. -/
abbrev Marked := List (Char ⊕ Slot)

def keyWords : Text := "PrivateKey = ".toList
def passwordWords : Text := "password:".toList
def redactedKey : Text := "[REDACTED_PRIVATE_KEY]".toList
def redactedPassword : Text := " [REDACTED]".toList

def Piece.marks : Piece → Marked
  | text t => letters t
  | privateKey name => letters keyWords ++ [.inr (.privateKey name)]
  | password name space =>
    letters passwordWords ++ letters (if space then [' '] else []) ++ [.inr (.password name)]

abbrev Template := List Piece

def Template.marks (template : Template) : Marked := List.flatMap Piece.marks template

/-- Credentials for all slots: a private key ends with its line, and a password has no white
space. -/
structure Secrets where
  secret : Slot → Text
  privateKey_line : ∀ name, '\n' ∉ secret (.privateKey name)
  password_word : ∀ name, ∀ c ∈ secret (.password name), Text.isWhitespace c = false

/-- The log line with these credentials. -/
def Template.line (template : Template) (secrets : Secrets) : Text :=
  fill secrets.secret template.marks

/-- What is stored of a line does not depend on the credentials in it. -/
def Template.Hidden (template : Template) : Prop :=
  ∀ secrets secrets' : Secrets, ∀ rb : LogRingBuffer,
    rb.push (template.line secrets) = rb.push (template.line secrets')

/-! ## Redaction of templates -/

def redactKey (m : Marked) : Marked :=
  redact (letters keyWords) (.inl '\n') (letters redactedKey) m

def redactPassword (m : Marked) : Marked :=
  redact (letters passwordWords) (.inl ' ') (letters redactedPassword) m

/-- Each slot is on the line of the first words for a key, behind them, or else no blank stands
between it and the first words for a password, the key being redacted. -/
def Covered (m : Marked) : Prop :=
  ∀ before x after, m = before ++ .inr x :: after →
    Replaced (letters keyWords) (.inl '\n') before ∨
      Replaced (letters passwordWords) (.inl ' ') (redactKey before)

/-- No password can complete the words that announce a private key: where a slot, before these
words occur, is followed by an end of them, the rest of the line reads as if it were redacted
already. -/
def Untrapped (m : Marked) : Prop :=
  ∀ before name n after, 1 ≤ n → n ≤ 10 →
    m = before ++ .inr (.password name) :: (letters (keyWords.drop n) ++ after) →
      ¬ letters keyWords <:+: before →
        letters redactedKey ++ after.dropWhile (· ≠ .inl '\n') = redactKey after

end VpnHub.Daemon
