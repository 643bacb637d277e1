import RecordForge.Text.IdentifierTables

/-!
# Identifiers and keywords

What the emitted language accepts as a name: an identifier that is not one of its keywords.
-/

namespace RecordForge.Text

/-- Whether the text is an identifier: non-empty, with legal first and following characters. -/
def isIdentifier : List Char → Bool
  | [] => false
  | c :: rest => identifierStart.contains c && rest.all identifierContinue.contains

/-- The first character that keeps a text from being an identifier. -/
def foreignChar? : List Char → Option Char
  | [] => none
  | c :: rest =>
    if identifierStart.contains c then rest.find? (!identifierContinue.contains ·) else some c

/-- The reserved words. -/
def keywords : List String := [
  "False", "None", "True", "and", "as", "assert", "async", "await", "break", "class", "continue",
  "def", "del", "elif", "else", "except", "finally", "for", "from", "global", "if", "import", "in",
  "is", "lambda", "nonlocal", "not", "or", "pass", "raise", "return", "try", "while", "with",
  "yield"]

/-- Whether the text is a reserved word. -/
def isKeyword (s : String) : Bool :=
  keywords.contains s

end RecordForge.Text
