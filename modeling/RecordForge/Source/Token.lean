import RecordForge.Source.NumberToken
import RecordForge.Text.Identifier
import RecordForge.Text.Printable

/-!
# Tokens of a source

The text of a source falls into tokens: names, numbers, strings, signs, ends of lines and changes of
the indentation. Inside brackets lines do not end, and lines without a token do not count. The
tokens stop where no token can be read, with the fault that stands there.
-/

namespace RecordForge

/-- The kinds of tokens. -/
inductive TokenKind where
  | name
  | number
  | string
  /-- An operator, a bracket or another mark. -/
  | sign
  | lineEnd
  | indent
  | dedent
  /-- The end of a text that can be read to its end. -/
  | endMark
deriving DecidableEq, Repr, Inhabited

/-- A token, with the line on which it begins and the number of brackets that are open behind
it. -/
structure Token where
  kind : TokenKind
  text : String
  line : Nat
  depth : Nat := 0
deriving DecidableEq, Repr, Inhabited

/-- Whether the token is this reserved word or this sign. -/
def Token.isMark (t : Token) (mark : String) : Bool :=
  (t.kind == .name || t.kind == .sign) && t.text == mark

/-- Whether the token is a name that is not reserved. -/
def Token.isName (t : Token) : Bool :=
  t.kind == .name && !Text.isKeyword t.text

/-- An opening bracket, with its line. -/
structure Bracket where
  mark : Char
  line : Nat
deriving DecidableEq, Repr, Inhabited

/-- Why no token can be read. -/
inductive TokenFault where
  | number (fault : NumberFault)
  /-- A string does not end on its line; `last` is that line. -/
  | openString (last : Nat)
  /-- A string between threefold quotes does not end. -/
  | openTextBlock (last : Nat)
  | foreignChar (c : Char)
  | unprintable (c : Char)
  /-- A closing bracket closes nothing. -/
  | unmatched (closing : Char)
  /-- A closing bracket closes another one; its line is given if it is another. -/
  | mismatched (closing opening : Char) (line : Option Nat)
  | tooManyBrackets
  /-- A line goes on after its continuation mark. -/
  | afterContinuation
  /-- The order of two indentations depends on the width of tabs. -/
  | unclearIndent
  /-- A line is indented less than the one before, and like none before that. -/
  | unknownIndent
deriving DecidableEq, Repr

namespace TokenFault

/-- Whether the fault counts also where the text has another fault before it. -/
def prevails : TokenFault → Bool
  | .afterContinuation => false
  | .unclearIndent => false
  | .unknownIndent => false
  | _ => true

/-- A code point in capital hexadecimal digits, at least four of them. -/
def codePoint (c : Char) : String :=
  let digits := (Nat.toDigits 16 c.toNat).map Char.toUpper
  "U+" ++ String.ofList (List.replicate (4 - digits.length) '0' ++ digits)

/-- A character between quotes, written as it is. -/
def plainQuoted (c : Char) : String :=
  String.ofList [Text.singleQuote, c, Text.singleQuote]

/-- The wording of the fault. -/
def message : TokenFault → String
  | .number fault => fault.message
  | .openString last => "unterminated string literal (detected at line " ++ toString last ++ ")"
  | .openTextBlock last =>
    "unterminated triple-quoted string literal (detected at line " ++ toString last ++ ")"
  | .foreignChar c => "invalid character " ++ plainQuoted c ++ " (" ++ codePoint c ++ ")"
  | .unprintable c => "invalid non-printable character " ++ codePoint c
  | .unmatched closing => "unmatched " ++ plainQuoted closing
  | .mismatched closing opening line =>
    "closing parenthesis " ++ plainQuoted closing ++ " does not match opening parenthesis "
      ++ plainQuoted opening ++ match line with
        | some n => " on line " ++ toString n
        | none => ""
  | .tooManyBrackets => "too many nested parentheses"
  | .afterContinuation => "unexpected character after line continuation character"
  | .unclearIndent => "inconsistent use of tabs and spaces in indentation"
  | .unknownIndent => "unindent does not match any outer indentation level"

end TokenFault

/-- How the tokens of a text end: at a fault, with its line, or at the end of the text; and which
bracket was open last. -/
structure TokenEnd where
  fault : Option (TokenFault × Nat) := none
  bracket : Option Bracket := none
deriving Repr, Inhabited

/-! ## Strings -/

/-- The length of the mark at the start of a text that says how a string is to be read. -/
def stringMarkLength (cs : List Char) : Nat :=
  let quote (c : Char) : Bool := c = Text.singleQuote || c = Text.doubleQuote
  match cs with
  | a :: b :: c :: _ =>
    if quote b && a.toLower ∈ ['b', 'f', 'r', 'u'] then 1
    else if quote c && (a.toLower, b.toLower) ∈ [('b', 'r'), ('r', 'b'), ('f', 'r'), ('r', 'f')]
    then 2
    else 0
  | [a, b] => if quote b && a.toLower ∈ ['b', 'f', 'r', 'u'] then 1 else 0
  | _ => 0

/-- The rest of a text after the closing quotes of a string, with the line there; if the string does
not close, the last line that was looked at. `seen` counts the quotes just before. -/
def closeString (quote : Char) (width : Nat) :
    (seen line : Nat) → List Char → Except Nat (List Char × Nat)
  | _, line, [] => .error (line - 1)
  | _, line, '\\' :: c :: rest =>
    closeString quote width 0 (if c = '\n' then line + 1 else line) rest
  | seen, line, c :: rest =>
    if c = quote then
      if seen + 1 = width then .ok (rest, line) else closeString quote width (seen + 1) line rest
    else if c = '\n' then
      if width = 1 then .error line else closeString quote width 0 (line + 1) rest
    else closeString quote width 0 line rest

/-- The rest of a text after the string whose opening quote is given, with the line there. -/
def stringRest (quote : Char) (line : Nat) (cs : List Char) :
    Except TokenFault (List Char × Nat) :=
  match cs with
  | a :: b :: rest =>
    if a = quote ∧ b = quote then (closeString quote 3 0 line rest).mapError .openTextBlock
    else (closeString quote 1 0 line cs).mapError .openString
  | _ => (closeString quote 1 0 line cs).mapError .openString

/-! ## Signs -/

/-- The signs of more than one character, longer ones first. -/
def longSigns : List (List Char) :=
  ["**=", "...", "//=", "<<=", ">>=", "!=", "%=", "&=", "**", "*=", "+=", "-=", "->", "//", "/=",
    ":=", "<<", "<=", "<>", "==", ">=", ">>", "@=", "^=", "|="].map String.toList

/-- The bracket that closes another. -/
def closingOf : Char → Option Char
  | '(' => some ')'
  | '[' => some ']'
  | '\x7b' => some '\x7d'
  | _ => none

/-- Whether the character is a closing bracket. -/
def isClosing (c : Char) : Bool :=
  c = ')' || c = ']' || c = '\x7d'

/-- The brackets that are open after a character. -/
def bracketsAfter (open_ : List Bracket) (c : Char) (line : Nat) :
    Except TokenFault (List Bracket) :=
  if (closingOf c).isSome then
    if 200 ≤ open_.length then .error .tooManyBrackets else .ok (⟨c, line⟩ :: open_)
  else if isClosing c then
    match open_ with
    | [] => .error (.unmatched c)
    | b :: rest =>
      if closingOf b.mark = some c then .ok rest
      else .error (.mismatched c b.mark (if b.line = line then none else some b.line))
  else .ok open_

/-! ## Indentation -/

/-- An indentation: its width with tabs that reach to the next multiple of eight, and its width with
tabs as wide as a blank. -/
structure Indentation where
  wide : Nat := 0
  narrow : Nat := 0
deriving DecidableEq, Repr, Inhabited

/-- What stands in front of a line: its indentation, the line with that, and the rest. -/
structure Margin where
  indentation : Indentation
  line : Nat
  rest : List Char
deriving Repr, Inhabited

/-- The margin of a line. A line that goes on before anything stands on it keeps its indentation,
unless it has none; the fault of a continuation mark comes with its line. -/
def Indentation.read (i : Indentation) (kept line : Nat) : List Char → Except Nat Margin
  | ' ' :: rest => Indentation.read ⟨i.wide + 1, i.narrow + 1⟩ kept line rest
  | '\t' :: rest => Indentation.read ⟨(i.wide / 8 + 1) * 8, i.narrow + 1⟩ kept line rest
  | '\x0c' :: rest => Indentation.read {} kept line rest
  | '\\' :: '\n' :: rest =>
    Indentation.read i (if kept = 0 then i.wide else kept) (line + 1) rest
  | '\\' :: _ => .error line
  | rest => .ok ⟨if kept = 0 then i else ⟨kept, kept⟩, line, rest⟩

/-- The outer indentations after a line with the given one, and how many levels it leaves. -/
def Indentation.leave (i : Indentation) :
    (levels : Nat) → List Indentation → Except TokenFault (Nat × List Indentation)
  | levels, [] => if i = {} then .ok (levels, []) else .error .unknownIndent
  | levels, j :: outer =>
    if i.wide < j.wide then i.leave (levels + 1) outer
    else if i.wide ≠ j.wide then .error .unknownIndent
    else if i.narrow ≠ j.narrow then .error .unclearIndent
    else .ok (levels, j :: outer)

/-! ## Scanning -/

/-- What is left of a text, and where in it the scanner stands. -/
structure Scanner where
  rest : List Char
  line : Nat := 1
  /-- Whether the scanner stands at the start of a line. -/
  atStart : Bool := true
  brackets : List Bracket := []
  /-- The indentations of the lines around, the innermost first. -/
  outer : List Indentation := []
deriving Repr, Inhabited

namespace Scanner

/-- What a step of the scanner comes to. -/
inductive Step where
  | tokens (found : List Token) (next : Scanner)
  | stop (last : TokenEnd)

/-- The end at a fault. -/
def fail (s : Scanner) (fault : TokenFault) (line : Nat) : Step :=
  .stop ⟨some (fault, line), s.brackets.head?⟩

/-- Goes on behind a token. -/
def found (s : Scanner) (kind : TokenKind) (text : List Char) (rest : List Char)
    (line : Nat) : Step :=
  .tokens [⟨kind, String.ofList text, s.line, s.brackets.length⟩]
    { s with rest, line, atStart := false }

/-- What stands before the rest of a text. -/
def textBefore (cs rest : List Char) : List Char :=
  cs.take (cs.length - rest.length)

/-- Enters a line: the tokens of a changed indentation, unless the line has no token or a bracket is
open. -/
def enterLine (s : Scanner) : Step :=
  match Indentation.read {} 0 s.line s.rest with
  | .error line => s.fail .afterContinuation line
  | .ok margin =>
    let s := { s with rest := margin.rest, line := margin.line, atStart := false }
    let i := margin.indentation
    match margin.rest with
    | [] => .tokens [] s
    | c :: _ =>
      if c = '#' ∨ c = '\n' then
        match margin.rest.dropWhile (· ≠ '\n') with
        | _ :: rest => .tokens [] { s with rest, line := s.line + 1, atStart := true }
        | [] => .tokens [] { s with rest := [] }
      else if !s.brackets.isEmpty then .tokens [] s
      else
        let current := s.outer.headD {}
        if current.wide < i.wide then
          if i.narrow ≤ current.narrow then s.fail .unclearIndent s.line
          else .tokens [⟨.indent, "", s.line, 0⟩] { s with outer := i :: s.outer }
        else
          match i.leave 0 s.outer with
          | .ok (levels, outer) =>
            .tokens (List.replicate levels ⟨.dedent, "", s.line, 0⟩) { s with outer }
          | .error fault => s.fail fault s.line

/-- Reads a name. -/
def readName (s : Scanner) : Step :=
  let name := s.rest.takeWhile NumberToken.isNameChar
  match Text.foreignChar? name with
  | none => s.found .name name (s.rest.drop name.length) s.line
  | some c => s.fail (if Text.isPrintable c then .foreignChar c else .unprintable c) s.line

/-- Reads a sign. -/
def readSign (s : Scanner) (c : Char) (more : List Char) : Step :=
  match longSigns.find? (·.isPrefixOf s.rest) with
  | some sign => s.found .sign sign (s.rest.drop sign.length) s.line
  | none =>
    match bracketsAfter s.brackets c s.line with
    | .ok brackets =>
      if Text.isPrintable c then { s with brackets }.found .sign [c] more s.line
      else s.fail (.unprintable c) s.line
    | .error fault => s.fail fault s.line

/-- One step: over a blank, a comment or a token. -/
def step (s : Scanner) : Step :=
  if s.atStart then s.enterLine
  else
    match s.rest with
    | [] => .stop ⟨none, s.brackets.head?⟩
    | c :: more =>
      if c = ' ' ∨ c = '\t' ∨ c = '\x0c' then .tokens [] { s with rest := more }
      else if c = '#' then .tokens [] { s with rest := more.dropWhile (· ≠ '\n') }
      else if c = '\n' then
        .tokens (if s.brackets.isEmpty then [⟨.lineEnd, "", s.line, 0⟩] else [])
          { s with rest := more, line := s.line + 1, atStart := true }
      else if c = '\\' then
        match more with
        | '\n' :: rest => .tokens [] { s with rest, line := s.line + 1 }
        | _ => s.fail .afterContinuation s.line
      else
        let mark := stringMarkLength s.rest
        match s.rest.drop mark with
        | [] => .stop ⟨none, s.brackets.head?⟩
        | q :: body =>
          if q = Text.singleQuote ∨ q = Text.doubleQuote then
            match stringRest q s.line body with
            | .ok (rest, line) => s.found .string (textBefore s.rest rest) rest line
            | .error fault => s.fail fault s.line
          else if c.isDigit then
            match NumberToken.rest c more with
            | .ok rest => s.found .number (textBefore s.rest rest) rest s.line
            | .error fault => s.fail (.number fault) s.line
          else if NumberToken.isNameChar c then s.readName
          else
            match c, more with
            | '.', d :: after =>
              if d.isDigit then
                match NumberToken.fraction more with
                | .ok rest => s.found .number (textBefore s.rest rest) rest s.line
                | .error fault => s.fail (.number fault) s.line
              else s.readSign c (d :: after)
            | _, _ => s.readSign c more

/-- The tokens of at most the given number of steps, after those found so far, the last one
first. -/
def run : Nat → List Token → Scanner → List Token × TokenEnd
  | 0, before, s => (before.reverse, ⟨none, s.brackets.head?⟩)
  | steps + 1, before, s =>
    match s.step with
    | .stop last => (before.reverse, last)
    | .tokens found next => run steps (found.reverse ++ before) next

end Scanner

/-- A text in which every line ends in a line feed, the last one as well. -/
def unifyLineEnds : List Char → List Char
  | '\r' :: '\n' :: rest => '\n' :: unifyLineEnds rest
  | [c] => if c = '\n' || c = '\r' then ['\n'] else [c, '\n']
  | c :: rest => (if c = '\r' then '\n' else c) :: unifyLineEnds rest
  | [] => []

/-- The levels of indentation that tokens leave open. -/
def openLevels (tokens : List Token) : Nat :=
  tokens.countP (·.kind = .indent) - tokens.countP (·.kind = .dedent)

/-- The tokens of a text whose first line has the given number. A text that can be read to its end
goes back to the outermost level there. Every step but the one that enters a line takes up a
character, so twice as many steps as characters are enough. -/
def tokensFrom (line : Nat) (text : List Char) : List Token × TokenEnd :=
  let cs := unifyLineEnds text
  let (tokens, last) := Scanner.run (2 * cs.length + 2) [] { rest := cs, line }
  if last.fault.isSome || last.bracket.isSome then (tokens, last)
  else
    let line := line - 1 + cs.countP (· = '\n')
    (tokens ++ List.replicate (openLevels tokens) ⟨.dedent, "", line, 0⟩
      ++ [⟨.endMark, "", line, 0⟩], last)

end RecordForge
