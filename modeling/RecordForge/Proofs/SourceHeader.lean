import Mathlib.Data.Bool.AllAny
import Mathlib.Data.List.TakeWhile
import RecordForge.Proofs.ClassModel
import RecordForge.Proofs.EmittedLiterals

/-!
# The header of a source

A source begins with a comment that names the type it was generated from, and goes on with the
import. The comment is one line exactly if no line ends within the name (`opensWith_text_iff`): then
the scanner passes over it as a whole and stands in front of the import. Otherwise it passes over the
first line of the name only, and what follows there is read as code.
-/

namespace RecordForge

/-- Whether a line of a source ends at the character. -/
def endsLine (c : Char) : Bool :=
  c = '\n' || c = '\r'

/-- The source begins with the comment, on a line of its own, and the statement stands on the next
one. The scanner finds no token before the statement. -/
structure OpensWith (source comment statement : String) : Prop where
  marked : comment.toList.head? = some '#'
  firstLine : source.toList.takeWhile (!endsLine ·) = comment.toList
  passed : ∃ below, source.toList = comment.toList ++ '\n' :: (statement.toList ++ '\n' :: below)
    ∧ Scanner.step { rest := unifyLineEnds source.toList }
      = .tokens [] { rest := unifyLineEnds (statement.toList ++ '\n' :: below), line := 2 }

variable {comment rest : List Char}

/-! ## Scanning a comment -/

theorem unifyLineEnds_lineFeed (rest : List Char) :
    unifyLineEnds ('\n' :: rest) = '\n' :: unifyLineEnds rest := by
  cases rest with
  | nil => rfl
  | cons c rest =>
    rw [unifyLineEnds]
    · rfl
    · intro more hmark
      exact absurd hmark (by decide)
    · exact List.cons_ne_nil _ _

/-- A comment at the beginning is passed over with its line. -/
theorem step_comment (hmark : comment.head? = some '#') (hline : '\n' ∉ comment)
    (rest : List Char) :
    Scanner.step { rest := comment ++ '\n' :: rest } = .tokens [] { rest, line := 2 } := by
  obtain ⟨body, rfl⟩ := List.head?_eq_some_iff.mp hmark
  have hmargin : Indentation.read {} 0 1 ('#' :: (body ++ '\n' :: rest))
      = .ok ⟨{}, 1, '#' :: (body ++ '\n' :: rest)⟩ := rfl
  have hend : ('#' :: (body ++ '\n' :: rest)).dropWhile (· ≠ '\n') = '\n' :: rest := by
    rw [← List.cons_append, List.dropWhile_append_of_pos, List.dropWhile_cons_of_neg (by decide)]
    intro c hc
    simpa using fun heq : c = '\n' => hline (heq ▸ hc)
  rw [Scanner.step, if_pos rfl, Scanner.enterLine]
  simp only [List.cons_append, hmargin]
  rw [if_pos (Or.inl trivial), hend]

/-! ## The comment of a class -/

theorem takeWhile_line_iff {line : List Char} :
    (line ++ '\n' :: rest).takeWhile (!endsLine ·) = line ↔ ∀ c ∈ line, endsLine c = false := by
  constructor
  · intro h c hc
    rw [← h] at hc
    simpa using List.mem_takeWhile_imp hc
  · intro h
    rw [List.takeWhile_append_of_pos (by simpa using h), List.takeWhile_cons_of_neg (by decide),
      List.append_nil]

namespace ClassModel

/-- A line ends within the name of a type and its package exactly if one ends within either. -/
theorem forall_origin_iff (m : ClassModel) :
    (∀ c ∈ m.origin.toList, endsLine c = false)
      ↔ ∀ c ∈ m.package.toList ++ m.typeName.toList, endsLine c = false := by
  have hpoint : ∀ c ∈ ".".toList, endsLine c = false :=
    List.all_iff_forall_prop.mp (by decide)
  rw [origin, qualify]
  split
  next hempty => rw [hempty, String.toList_empty, List.nil_append]
  next =>
    simp only [String.toList_append, List.forall_mem_append]
    exact ⟨fun h => ⟨h.1.1, h.2⟩, fun h => ⟨⟨h.1, hpoint⟩, h.2⟩⟩

/-- The comment that a source begins with. -/
def headComment (m : ClassModel) : String :=
  "# Generated by dbobjgen from " ++ m.origin ++ ". Do not edit."

/-- The import of a source. -/
def importStatement (m : ClassModel) : String :=
  "from " ++ m.runtimeModule ++ " import " ++ ", ".intercalate (ClassSource.importsOf m)

theorem exists_text (m : ClassModel) : ∃ below,
    m.text.toList
      = m.headComment.toList ++ '\n' :: (m.importStatement.toList ++ '\n' :: below) := by
  refine ⟨(String.join ((["", (ClassSource.ofModel m).classLine]
    ++ (ClassSource.ofModel m).bodyLines).map (· ++ "\n"))).toList, ?_⟩
  have hlines : (ClassSource.ofModel m).lines = m.headComment :: m.importStatement
      :: (["", (ClassSource.ofModel m).classLine] ++ (ClassSource.ofModel m).bodyLines) := rfl
  rw [text, ClassSource.text, hlines]
  simp

theorem head?_headComment (m : ClassModel) : m.headComment.toList.head? = some '#' := by
  unfold headComment
  rw [String.toList_append, String.toList_append]
  rfl

/-- A line ends within the comment exactly if one ends within the name of the type or its package. -/
theorem forall_headComment_iff (m : ClassModel) :
    (∀ c ∈ m.headComment.toList, endsLine c = false)
      ↔ ∀ c ∈ m.package.toList ++ m.typeName.toList, endsLine c = false := by
  have hopening : ∀ c ∈ "# Generated by dbobjgen from ".toList, endsLine c = false :=
    List.all_iff_forall_prop.mp (by decide)
  have hclosing : ∀ c ∈ ". Do not edit.".toList, endsLine c = false :=
    List.all_iff_forall_prop.mp (by decide)
  unfold headComment
  rw [← forall_origin_iff]
  simp only [String.toList_append, List.forall_mem_append]
  exact ⟨fun h => h.1.2, fun h => ⟨⟨hopening, h⟩, hclosing⟩⟩

/-- **When the header is one comment**: exactly if no line ends within the names of the package and
of the type. Then the first line of the source is the comment, up to its last word, and the import
follows on the next line. -/
theorem opensWith_text_iff (m : ClassModel) :
    OpensWith m.text ("# Generated by dbobjgen from " ++ m.origin ++ ". Do not edit.")
        ("from " ++ m.runtimeModule ++ " import " ++ ", ".intercalate (ClassSource.importsOf m))
      ↔ ∀ c ∈ m.package.toList ++ m.typeName.toList, endsLine c = false := by
  change OpensWith m.text m.headComment m.importStatement ↔ _
  rw [← forall_headComment_iff]
  obtain ⟨below, hsource⟩ := m.exists_text
  constructor
  · intro h
    have hfirst := h.firstLine
    rw [hsource] at hfirst
    exact takeWhile_line_iff.mp hfirst
  · intro h
    have hkept : '\n' ∉ m.headComment.toList ∧ '\r' ∉ m.headComment.toList :=
      ⟨fun hin => absurd (h _ hin) (by decide), fun hin => absurd (h _ hin) (by decide)⟩
    refine ⟨m.head?_headComment, by rw [hsource, takeWhile_line_iff.mpr h], below, hsource, ?_⟩
    rw [hsource, unifyLineEnds_append hkept.2, unifyLineEnds_lineFeed]
    exact step_comment m.head?_headComment hkept.1 _

/-- A type in a package whose name has several lines. -/
def scattered : TypeDeclaration where
  package := "app\nimport os\n#"
  name := "User"
  fields := [⟨some "mName", some "str", {}⟩]

/-- The second line of the package stands in the source as a statement of its own, between the
comment and the import. -/
theorem text_scattered :
    ∃ m, (build {} scattered).result = .ok (some m) ∧ Text.isIdentifier m.className.toList = true
      ∧ "# Generated by dbobjgen from app\nimport os\n".toList <+: m.text.toList
      ∧ ¬ OpensWith m.text ("# Generated by dbobjgen from " ++ m.origin ++ ". Do not edit.")
        ("from " ++ m.runtimeModule ++ " import " ++ ", ".intercalate (ClassSource.importsOf m)) := by
  obtain ⟨m, hbuild⟩ : ∃ m, (build {} scattered).result = .ok (some m) :=
    ⟨_, build_eq_some_iff.mpr ⟨by decide, by decide, rfl⟩⟩
  obtain ⟨hname, hcomment⟩ : m.className = "UserDBObject"
      ∧ m.headComment = "# Generated by dbobjgen from app\nimport os\n#.User. Do not edit." := by
    obtain ⟨-, -, rfl⟩ := build_eq_some_iff.mp hbuild
    exact ⟨rfl, rfl⟩
  obtain ⟨below, hsource⟩ := m.exists_text
  rw [hcomment] at hsource
  refine ⟨m, hbuild, ?_, ?_, fun h => ?_⟩
  · rw [hname]
    decide +kernel
  · rw [hsource]
    exact List.IsPrefix.trans (by decide) (List.prefix_append _ _)
  · have hfirst := h.firstLine
    rw [hsource, show (_ ++ m.origin ++ _) = _ from hcomment] at hfirst
    exact absurd (takeWhile_line_iff.mp hfirst '\n' (by decide)) (by decide)

end ClassModel

end RecordForge
