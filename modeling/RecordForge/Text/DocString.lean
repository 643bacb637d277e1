import RecordForge.Text.Quoted

/-!
# Documentation strings

Text between triple quotes, which may run over several lines. Line feeds and tabs stay as they are;
backslashes and all other unprintable characters are escaped. Of the two triple quotes one that does
not occur in the escaped text is used, preferably one that does not begin with the text's last
character. If both occur, the body of the quoted form is used instead, inside the triple quote made
of that form's own quote.
-/

namespace RecordForge.Text

/-- How a character is written in a documentation string. -/
def docChar (c : Char) : List Char :=
  if c = '\n' ∨ c = '\t' then [c]
  else if c = backslash then [backslash, backslash]
  else if c = '\r' then [backslash, 'r']
  else if isPrintable c then [c]
  else codeEscape c

/-- Whether `pattern` occurs in the text. -/
def occursIn (pattern : List Char) : List Char → Bool
  | [] => pattern.isEmpty
  | c :: rest => pattern.isPrefixOf (c :: rest) || occursIn pattern rest

/-- The triple quote made of one quote character. -/
def tripled (q : Char) : List Char := [q, q, q]

/-- Encloses a body in the triple quote made of `q`. -/
def tripleQuoted (q : Char) (body : List Char) : List Char :=
  tripled q ++ body ++ tripled q

/-- Escapes the last character if it is `q`, so that it cannot join the closing quotes. -/
def guardEnd (q : Char) (body : List Char) : List Char :=
  if body.getLast? = some q then body.dropLast ++ [backslash, q] else body

/-- The documentation string of a text. -/
def docStringChars (cs : List Char) : List Char :=
  let body := cs.flatMap docChar
  let free := [doubleQuote, singleQuote].filter fun q => !occursIn (tripled q) body
  match free.find? (fun q => body.getLast? ≠ some q), free with
  | some q, _ => tripleQuoted q body
  | none, q :: _ => tripleQuoted q (guardEnd q body)
  | none, [] => tripleQuoted (quoteFor cs) (quotedBody cs)

/-- The documentation string of a string. -/
def docString (s : String) : String :=
  String.ofList (docStringChars s.toList)

end RecordForge.Text
