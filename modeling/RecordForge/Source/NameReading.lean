import RecordForge.Source.NumberToken
import RecordForge.Text.Cut
import RecordForge.Text.NormalForm

/-!
# Names as they are read

A name that is written into a source is read without the blanks around it and in its normal form.
A name that begins with two underscores is private to its class.
-/

namespace RecordForge.Text

/-- Whether the character keeps names apart and means nothing else. -/
def isGap (c : Char) : Bool :=
  c = ' ' || c = '\t' || c = '\x0c' || c = '\\' || c = '\n' || c = '\r'

/-- The name as it is read from a text. -/
def readName (s : String) : String :=
  normalForm (String.ofList ((s.toList.dropWhile isGap).takeWhile NumberToken.isNameChar))

/-- No part of a name is a gap. -/
theorem isGap_of_isNameChar {c : Char} (h : NumberToken.isNameChar c = true) : isGap c = false := by
  cases hg : isGap c with
  | false => rfl
  | true =>
    simp only [isGap, Bool.or_eq_true, decide_eq_true_eq] at hg
    rcases hg with (((((rfl | rfl) | rfl) | rfl) | rfl) | rfl) <;> exact absurd h (by decide)

/-- A name of ASCII characters is read as it is written. -/
theorem readName_eq_self {s : String} (name : ∀ c ∈ s.toList, NumberToken.isNameChar c = true)
    (ascii : isAscii s.toList = true) : readName s = s := by
  have gaps : s.toList.dropWhile isGap = s.toList := by
    cases h : s.toList with
    | nil => rfl
    | cons c rest =>
      exact List.dropWhile_cons_of_neg (by simp [isGap_of_isNameChar (name c (by simp [h]))])
  have chars : s.toList.takeWhile NumberToken.isNameChar = s.toList := by
    have whole : (s.toList ++ []).takeWhile NumberToken.isNameChar
        = s.toList ++ [].takeWhile NumberToken.isNameChar := List.takeWhile_append_of_pos name
    simpa using whole
  unfold readName
  rw [gaps, chars, String.ofList_toList, normalForm_of_isAscii ascii]

/-- The names as they are read from a text that has marks between them. -/
def readNames (mark : Char) (s : String) : List String :=
  (parts mark s).map readName

/-- Whether the name is private to the class in which it stands. -/
def isPrivateName (name : String) : Bool :=
  "__".toList.isPrefixOf name.toList && !"__".toList.isSuffixOf name.toList

/-- What a name inside a class stands for: a private name takes the name of the class in front, less
its underscores. -/
def nameWithin (className name : String) : String :=
  match className.toList.dropWhile (· = '_') with
  | [] => name
  | cs => if isPrivateName name then "_" ++ String.ofList cs ++ name else name

end RecordForge.Text
