import RecordForge.Source.Grammar
import RecordForge.Source.Placement
import RecordForge.Source.Scope

/-!
# Reading a source

A source is read in three steps: its statements are recognised, its names are looked up, and its
statements are checked in their places. The first fault of the first step that finds one is why the
source is refused.
-/

namespace RecordForge.Source

/-- The statements of a text, or why it is refused. Nothing in a text is nested more deeply than it
is long. -/
def read (text : String) : Except SourceError (List Stmt) := do
  let statements ← statementsOf text
  let depth := text.length + 1
  let features ← checkFeatures statements
  checkNames depth statements
  checkPlacement depth features statements
  return statements

end RecordForge.Source
