import RecordForge.Text.Printable

/-!
# Quoted text

Text between quotes on one line. Single quotes are used unless the text holds a single quote and no
double quote. The quote in use and the backslash are escaped, line feed, carriage return and tab
have short escapes, and every other unprintable character is written as two, four or eight
hexadecimal digits of its code point.
-/

namespace RecordForge.Text

def singleQuote : Char := '\x27'

def doubleQuote : Char := '\x22'

def backslash : Char := '\\'

/-- The hexadecimal digit of a number below sixteen. -/
def hexDigit (n : Nat) : Char :=
  Nat.digitChar (n % 16)

/-- The last `width` hexadecimal digits of a number. -/
def hexDigits : (width : Nat) → Nat → List Char
  | 0, _ => []
  | w + 1, n => hexDigits w (n / 16) ++ [hexDigit n]

/-- The escape of a character by its code point. -/
def codeEscape (c : Char) : List Char :=
  let n := c.toNat
  if n < 0x100 then backslash :: 'x' :: hexDigits 2 n
  else if n < 0x10000 then backslash :: 'u' :: hexDigits 4 n
  else backslash :: 'U' :: hexDigits 8 n

/-- How a character is written between the quotes `q`. -/
def quotedChar (q c : Char) : List Char :=
  if c = q ∨ c = backslash then [backslash, c]
  else if c = '\n' then [backslash, 'n']
  else if c = '\r' then [backslash, 'r']
  else if c = '\t' then [backslash, 't']
  else if isPrintable c then [c]
  else codeEscape c

/-- The quote that a text is written in. -/
def quoteFor (cs : List Char) : Char :=
  if singleQuote ∈ cs ∧ doubleQuote ∉ cs then doubleQuote else singleQuote

/-- What stands between the quotes. -/
def quotedBody (cs : List Char) : List Char :=
  cs.flatMap (quotedChar (quoteFor cs))

/-- The quoted form of a text. -/
def quotedChars (cs : List Char) : List Char :=
  quoteFor cs :: (quotedBody cs ++ [quoteFor cs])

/-- The quoted form of a string. -/
def quoted (s : String) : String :=
  String.ofList (quotedChars s.toList)

end RecordForge.Text
