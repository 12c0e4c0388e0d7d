/-
**Flaws of patterns.**

A pattern that is not well formed is refused with a flaw and the piece of the pattern that shows it.
Patterns are read as raw text: an octet that belongs to no character is a flaw where it is read.

* `Flaw`: what can be wrong.
* `GrammarError`: a flaw and the piece of the pattern that shows it.
* `nextChar`: the next character of a pattern.
-/

import DisplayFilter.RawText
import DisplayFilter.Pattern.Builder

namespace DisplayFilter.Pattern

/-- What can be wrong with a pattern. -/
inductive Flaw where
  | missingParen
  | unexpectedParen
  | missingBracket
  | nestedRepetition
  | missingArgument
  | repeatCount
  | namedCapture
  | groupFlags
  | escape
  | classRange
  | trailingBackslash
  | encoding
  | exceeds (limit : Excess)
deriving DecidableEq, Repr

/-- The wording of a flaw. -/
def Flaw.message : Flaw → String
  | .missingParen => "missing closing )"
  | .unexpectedParen => "unexpected )"
  | .missingBracket => "missing closing ]"
  | .nestedRepetition => "invalid nested repetition operator"
  | .missingArgument => "missing argument to repetition operator"
  | .repeatCount => "invalid repeat count"
  | .namedCapture => "invalid named capture"
  | .groupFlags => "invalid or unsupported Perl syntax"
  | .escape => "invalid escape sequence"
  | .classRange => "invalid character class range"
  | .trailingBackslash => "trailing backslash at end of expression"
  | .encoding => "invalid UTF-8"
  | .exceeds .size => "expression too large"
  | .exceeds .height => "expression nests too deeply"

/-- What is left of a pattern to read. -/
abbrev Source := List Text.Glyph

/-- A flaw and the piece of the pattern that shows it. -/
structure GrammarError where
  flaw : Flaw
  fragment : Source
deriving DecidableEq, Repr

/-- The wording of a grammar error. -/
def GrammarError.message (error : GrammarError) : String :=
  "error parsing regexp: " ++ error.flaw.message ++ ": `" ++ RawText.shown ⟨error.fragment⟩ ++ "`"

/-- The text from one place up to a later one, each given by what follows it. -/
def upTo (text rest : Source) : Source :=
  text.take (text.length - rest.length)

/-- Fails with the text between two places. -/
def failAt {α : Type} (flaw : Flaw) (text rest : Source) : Except GrammarError α :=
  .error ⟨flaw, upTo text rest⟩

/-! ### Characters -/

/-- The next character, if there is any, and what follows it. -/
def nextChar : Source → Except GrammarError (Option Char × Source)
  | [] => .ok (none, [])
  | .character value :: rest => .ok (some value, rest)
  | text => .error ⟨.encoding, text⟩

/-- All characters of a part of a pattern. -/
def allChars : Source → Except GrammarError (List Char)
  | [] => .ok []
  | .character value :: rest => (allChars rest).map (value :: ·)
  | text => .error ⟨.encoding, text⟩

/-- The text before the first of a given character, and what follows that character. -/
def before? (mark : Char) (text : Source) : Option (Source × Source) :=
  let inner := text.takeWhile (· ≠ .character mark)
  match text.drop inner.length with
  | [] => none
  | _ :: rest => some (inner, rest)

/-- Whether a character is an ASCII letter or digit. -/
def isWordChar (character : Char) : Bool :=
  ('a' ≤ character && character ≤ 'z') || ('A' ≤ character && character ≤ 'Z') ||
    ('0' ≤ character && character ≤ '9')

end DisplayFilter.Pattern
