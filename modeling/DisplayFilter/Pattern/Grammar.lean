/-
**The grammar of patterns.**

A pattern is a regular expression that a machine can match in time linear in its input: there are no
look-arounds and no back references. Only the form of a pattern matters here. It is read once from
the front, while its tree is put together, because the tree has to keep limits.

* `check`: whether a text is a pattern.
-/

import DisplayFilter.Pattern.Bracket

namespace DisplayFilter.Pattern

/-- Where the reading of a pattern stands: the tree so far, and the text from the repetition just
read on. -/
structure Reader where
  builder : Builder
  lastRepeat : Source

/-- Nothing read so far. -/
def Reader.start : Reader := ⟨.start, []⟩

/-- Goes on with the tree of the pattern `whole`. -/
def Reader.build {α : Type} (reader : Reader) (whole : Source) (step : Building α) :
    Except GrammarError (α × Reader) :=
  match step.run reader.builder with
  | .ok (value, builder) => .ok (value, ⟨builder, []⟩)
  | .error excess => .error ⟨.exceeds excess, whole⟩

/-- Goes on with the tree of the pattern `whole` and with the text after a piece. -/
def Reader.add (reader : Reader) (whole rest : Source) (step : Building Unit) :
    Except GrammarError (Reader × Source) :=
  (reader.build whole step).map fun (_, reader) => (reader, rest)

/-! ### Groups -/

/-- How a group that starts with a question mark goes on. -/
inductive GroupStart where
  | named (rest : Source)
  | plain (flags : Flags) (rest : Source)
  | flagsOnly (flags : Flags) (rest : Source)

/-- The flags after one more letter, which sets or clears one of them. -/
def Flags.change? (flags : Flags) (negated : Bool) : Char → Option Flags
  | 'i' => some { flags with folded := !negated }
  | 'm' => some flags
  | 's' => some { flags with dotAll := !negated }
  | 'U' => some { flags with greedy := negated }
  | _ => none

/-- The flags of a group that began at `whole`. -/
def groupFlags (whole : Source) (flags : Flags) (negated sawFlag : Bool) :
    Source → Except GrammarError GroupStart
  | [] => .error ⟨.groupFlags, whole⟩
  | .character character :: rest =>
    match flags.change? negated character with
    | some flags => groupFlags whole flags negated true rest
    | none =>
      if character = '-' && !negated then groupFlags whole flags true false rest
      else if character = ':' && !(negated && !sawFlag) then .ok (.plain flags rest)
      else if character = ')' && !(negated && !sawFlag) then .ok (.flagsOnly flags rest)
      else failAt .groupFlags whole rest
  | text => .error ⟨.encoding, text⟩

/-- A named group, after its angle bracket. -/
def namedGroup (whole inner : Source) : Except GrammarError GroupStart := do
  match before? '>' inner with
  | none =>
    let _ ← allChars whole
    throw ⟨.namedCapture, whole⟩
  | some (name, rest) =>
    let name ← allChars name
    if name ≠ [] && name.all fun character => character = '_' || isWordChar character then
      return .named rest
    else failAt .namedCapture whole rest

/-- A group that starts with a question mark. -/
def questionGroup (flags : Flags) (text : Source) : Except GrammarError GroupStart :=
  match text.drop 2 with
  | .character 'P' :: .character '<' :: first :: inner => namedGroup text (first :: inner)
  | .character '<' :: first :: inner => namedGroup text (first :: inner)
  | inner => groupFlags text flags false false inner

/-- Opens a group that starts with a question mark, or changes the flags. -/
def Reader.question (reader : Reader) (whole text : Source) :
    Except GrammarError (Reader × Source) := do
  match ← questionGroup reader.builder.flags text with
  | .named rest => reader.add whole rest (Builder.openGroup true)
  | .plain flags rest =>
    reader.add whole rest do
      Builder.openGroup false
      modify fun builder => { builder with flags }
  | .flagsOnly flags rest =>
    reader.add whole rest (modify fun builder => { builder with flags })

/-- Closes a group. -/
def Reader.closing (reader : Reader) (whole rest : Source) :
    Except GrammarError (Reader × Source) := do
  let (closed, reader) ← reader.build whole Builder.closeGroup
  if closed then return (reader, rest) else throw ⟨.unexpectedParen, whole⟩

/-! ### Repetition -/

/-- A count of a repetition, written without needless zeros in front, and what follows it. -/
def readCount? (text : Source) : Option (Nat × Source) :=
  let digit? : Text.Glyph → Option Nat
    | .character digit => if '0' ≤ digit && digit ≤ '9' then some (digit.toNat - 48) else none
    | .stray _ => none
  let digits := (text.takeWhile fun glyph => (digit? glyph).isSome).filterMap digit?
  match digits with
  | [] => none
  | 0 :: _ :: _ => none
  | digits =>
    some (digits.foldl (fun value digit => value * 10 + digit) 0, text.drop digits.length)

/-- Reads counted bounds between braces, and what follows them. -/
def readBounds? (text : Source) : Option (Bounds × Source) := do
  let (low, rest) ← readCount? (text.drop 1)
  match rest with
  | .character '\x7d' :: rest => return (⟨low, some low⟩, rest)
  | .character ',' :: .character '\x7d' :: rest => return (⟨low, none⟩, rest)
  | .character ',' :: rest =>
    let (high, rest) ← readCount? rest
    match rest with
    | .character '\x7d' :: rest => return (⟨low, some high⟩, rest)
    | _ => none
  | _ => none

/-- Repeats the last piece; `before` and `after` are the texts from the operator on and after
it. -/
def Reader.repeat (reader : Reader) (whole before after : Source) (joint : Bool → Joint) :
    Except GrammarError (Reader × Source) := do
  let greedy := reader.builder.flags.greedy
  let (greedy, after) := match after with
    | .character '?' :: rest => (!greedy, rest)
    | _ => (greedy, after)
  let joint := joint greedy
  if reader.lastRepeat ≠ [] then failAt .nestedRepetition reader.lastRepeat after
  else
    match ← reader.build whole (Builder.repeatTop joint) with
    | (none, _) => failAt .missingArgument before after
    | (some weight, reader) =>
      let counts := match joint with
        | .counted bounds _ => 2 ≤ bounds.count
        | _ => false
      if counts && 1000 < weight then failAt .repeatCount before after
      else return ({ reader with lastRepeat := before }, after)

/-! ### Pieces -/

/-- The text between a quoting escape and its end, and what follows. -/
def quotedLiteral : Source → Source × Source
  | [] => ([], [])
  | .character '\\' :: .character 'E' :: rest => ([], rest)
  | first :: rest =>
    let (literal, rest) := quotedLiteral rest
    (first :: literal, rest)

/-- Adds the characters of a literal. -/
def Reader.literal (reader : Reader) (whole rest : Source) :
    Source → Except GrammarError (Reader × Source)
  | [] => .ok (⟨reader.builder, []⟩, rest)
  | .character character :: more => do
    let (_, reader) ← reader.build whole (Builder.pushChar character.toNat)
    reader.literal whole rest more
  | text => .error ⟨.encoding, text⟩

/-- Adds the piece that a backslash begins. -/
def Reader.escaped (reader : Reader) (whole text : Source) :
    Except GrammarError (Reader × Source) := do
  let assertion (rest : Source) := reader.add whole rest (Builder.pushLeaf .assertion)
  match text with
  | .character '\\' :: .character 'A' :: rest => assertion rest
  | .character '\\' :: .character 'b' :: rest => assertion rest
  | .character '\\' :: .character 'B' :: rest => assertion rest
  | .character '\\' :: .character 'z' :: rest => assertion rest
  | .character '\\' :: .character 'C' :: rest => failAt .escape text rest
  | .character '\\' :: .character 'Q' :: rest =>
    let (literal, rest) := quotedLiteral rest
    reader.literal whole rest literal
  | text =>
    match ← escapedClass? reader.builder.flags.folded text with
    | some (set, rest) => reader.add whole rest (Builder.pushLeaf (.charClass set))
    | none =>
      let (code, rest) ← escape text
      reader.add whole rest do
        Builder.take
        Builder.release 1
        Builder.pushChar code

/-- Reads one piece or operator of the pattern `whole`. -/
def Reader.step (reader : Reader) (whole text : Source) :
    Except GrammarError (Reader × Source) :=
  match text with
  | [] => .ok (reader, [])
  | .stray _ :: _ => .error ⟨.encoding, text⟩
  | .character character :: rest =>
    match character, rest with
    | '(', .character '?' :: _ => reader.question whole text
    | '(', _ => reader.add whole rest (Builder.openGroup true)
    | ')', _ => reader.closing whole rest
    | '|', _ => reader.add whole rest Builder.addBar
    | '^', _ => reader.add whole rest (Builder.pushLeaf .assertion)
    | '$', _ => reader.add whole rest (Builder.pushLeaf .assertion)
    | '.', _ => reader.add whole rest Builder.pushDot
    | '[', _ => do
      let (set, rest) ← bracketClass reader.builder.flags.folded text
      reader.add whole rest (Builder.pushLeaf (.charClass set))
    | '*', _ => reader.repeat whole text rest .star
    | '+', _ => reader.repeat whole text rest .plus
    | '?', _ => reader.repeat whole text rest .optional
    | '\x7b', _ =>
      match readBounds? text with
      | none => reader.add whole rest (Builder.pushChar character.toNat)
      | some (bounds, after) =>
        if bounds.valid then reader.repeat whole text after (.counted bounds)
        else failAt .repeatCount text after
    | '\\', _ => reader.escaped whole text
    | _, _ => reader.add whole rest (Builder.pushChar character.toNat)

/-- Reads the rest of the pattern `whole`. -/
def Reader.run (whole : Source) : (fuel : Nat) → Reader → Source → Except GrammarError Reader
  | 0, reader, _ => .ok reader
  | _, reader, [] => .ok reader
  | fuel + 1, reader, text =>
    (reader.step whole text).bind fun (reader, rest) => reader.run whole fuel rest

/-- Whether a text is a pattern: every piece is well formed, every group is closed, and the limits
are kept. -/
def check (text : RawText) : Except GrammarError Unit := do
  let whole := text.glyphs
  let reader ← Reader.run whole whole.length .start whole
  let (closed, _) ← reader.build whole Builder.finish
  if closed then return () else throw ⟨.missingParen, whole⟩

end DisplayFilter.Pattern
