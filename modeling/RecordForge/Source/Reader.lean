import RecordForge.Source.Fault
import RecordForge.Source.Rule
import Std.Data.DHashMap

/-!
# Reading by rules

A reader takes tokens from a place on, or fails and leaves them to the next one. Reading is done
twice if it fails: the second time, readers that know what is wrong say so. The furthest token that
was looked at shows where a text cannot go on.
-/

namespace RecordForge.Source

/-- What rules have read so far, by place: the result and the place behind it. -/
abbrev Memory :=
  Std.DHashMap (Rule × Nat) fun key => Option key.1.Result × Nat

/-- The state of a reader. -/
structure Reading where
  tokens : Array Token
  last : TokenEnd
  position : Nat := 0
  /-- The number of tokens that have been looked at. -/
  looked : Nat := 0
  /-- Whether faults are to be explained. -/
  explaining : Bool := false
  memory : Memory := {}

/-- A fault that ends reading. A fault of the grammar gives way to faults of tokens further on; it
has the line of the furthest token that was looked at. -/
structure Stop where
  error : SourceError
  reached : Option Nat := none

/-- What takes tokens, fails, or stops at a fault. -/
abbrev Reader := OptionT (StateT Reading (Except Stop))

/-- How rules refer to each other. -/
abbrev Call := (rule : Rule) → Reader rule.Result

namespace TokenEnd

/-- The error of looking for a token behind the last one. -/
def stop (last : TokenEnd) : SourceError :=
  match last.fault, last.bracket with
  | some (fault, line), _ => ⟨.token fault, line⟩
  | none, some b => ⟨.neverClosed b.mark, b.line⟩
  | none, none => ⟨.grammar .invalid, 0⟩

/-- The error that takes the place of one of the grammar, if any: a fault of a token anywhere, or a
bracket that was left open on a line before the given one. -/
def overrides? (last : TokenEnd) (reached : Nat) : Option SourceError :=
  match last.fault.filter (·.1.prevails) with
  | some (fault, line) => some ⟨.token fault, line⟩
  | none => last.bracket.bind fun b =>
    if b.line < reached then some ⟨.neverClosed b.mark, b.line⟩ else none

end TokenEnd

/-- The error of a stop in a text that ends as given. -/
def Stop.settle (last : TokenEnd) (s : Stop) : SourceError :=
  match s.reached with
  | some line => (TokenEnd.overrides? last line).getD s.error
  | none => s.error

namespace Reader

variable {α β : Type}

/-- The line of the furthest token that was looked at. -/
def reachedLine (s : Reading) : Nat :=
  match s.tokens[s.looked - 1]? with
  | some t => t.line
  | none => 1

/-- Stops. -/
def halt (s : Stop) : Reader α :=
  fun _ => .error s

/-- Stops at a fault on a line. -/
def stopAt (fault : SourceFault) (line : Nat) : Reader α := do
  let s ← get
  halt ⟨⟨fault, line⟩, some (reachedLine s)⟩

/-- Stops at a fault of the grammar on a line. -/
def refuse (fault : GrammarFault) (line : Nat) : Reader α :=
  stopAt (.grammar fault) line

/-- Stops at a fault on the line of the furthest token. -/
def stopHere (fault : SourceFault) : Reader α := do
  stopAt fault (reachedLine (← get))

/-- Stops at a fault of the grammar on the line of the furthest token. -/
def refuseHere (fault : GrammarFault) : Reader α :=
  stopHere (.grammar fault)

/-- Looks at the next token. -/
def peek : Reader Token := do
  let s ← get
  match s.tokens[s.position]? with
  | some t =>
    set { s with looked := max s.looked (s.position + 1) }
    return t
  | none => halt ⟨TokenEnd.stop s.last, none⟩

/-- The line of the next token. -/
def line : Reader Nat :=
  return (← peek).line

/-- How many brackets are open behind the token before. -/
def depth : Reader Nat := do
  let s ← get
  return ((s.tokens[s.position - 1]?).map (·.depth)).getD 0

/-- Takes the next token if it is acceptable. -/
def tokenIf (accepts : Token → Bool) : Reader Token := do
  let t ← peek
  if accepts t then
    modify fun s => { s with position := s.position + 1 }
    return t
  else failure

/-- Takes a reserved word or a sign. -/
def mark (m : String) : Reader Token :=
  tokenIf (·.isMark m)

/-- Passes a reserved word or a sign. -/
def pass (m : String) : Reader Unit := do
  let _ ← mark m

/-- Takes one of several reserved words or signs. -/
def markOf (ms : List String) : Reader Token :=
  tokenIf fun t => ms.any t.isMark

/-- Takes a word that is reserved only here. -/
def word (w : String) : Reader Token :=
  tokenIf fun t => t.kind == .name && t.text == w

/-- Takes a name. -/
def name : Reader Token :=
  tokenIf Token.isName

/-- Takes a token of a kind. -/
def kind (k : TokenKind) : Reader Token :=
  tokenIf (·.kind == k)

/-- Passes a sign that has to stand here. -/
def expect (m : String) : Reader Unit := do
  let t ← peek
  if t.isMark m then pass m else refuse (.expected m) t.line

/-- What a reader takes, if it does; if it fails, nothing is taken. -/
def attempt (r : Reader α) : Reader (Option α) := do
  let start := (← get).position
  let result ← OptionT.lift r.run
  if result.isNone then
    modify fun s => { s with position := start }
  return result

/-- Passes what a reader takes, if it does. -/
def passAny (r : Reader α) : Reader Unit := do
  let _ ← attempt r

/-- The first reader that does not fail. -/
def firstOf : List (Reader α) → Reader α
  | [] => failure
  | r :: rest => do
    match ← attempt r with
    | some a => return a
    | none => firstOf rest

/-- At most so many of what a reader takes. -/
def upTo (r : Reader α) : Nat → Reader (List α)
  | 0 => return []
  | n + 1 => do
    match ← attempt r with
    | some a => return a :: (← upTo r n)
    | none => return []

/-- As many as there are of what a reader takes. -/
def many (r : Reader α) : Reader (List α) := do
  upTo r ((← get).tokens.size + 1)

/-- One or more of what a reader takes. -/
def oneOrMore (r : Reader α) : Reader (List α) :=
  return (← r) :: (← many r)

/-- One or more of what a reader takes, with a sign between each two. -/
def separated (m : String) (r : Reader α) : Reader (List α) :=
  return (← r) :: (← many (do pass m; r))

/-- Whether a reader would take something. -/
def isAhead (r : Reader α) : Reader Bool := do
  let start := (← get).position
  let result ← OptionT.lift r.run
  modify fun s => { s with position := start }
  return result.isSome

/-- Fails unless a reader would take something. -/
def ahead (r : Reader α) : Reader Unit := do
  if !(← isAhead r) then failure

/-- Fails if a reader would take something. -/
def notAhead (r : Reader α) : Reader Unit := do
  if ← isAhead r then failure

/-- Lets a reader say what is wrong, if faults are to be explained. -/
def tell (r : Reader Unit) : Reader Unit := do
  if (← get).explaining then
    passAny r

/-- Lets a reader say what is wrong, and fails if it does not. -/
def explain (r : Reader Unit) : Reader α := do
  tell r
  failure

/-- Reads without explaining faults. -/
def silently (r : Reader α) : Reader α := do
  let explaining := (← get).explaining
  modify fun s => { s with explaining := false }
  let result ← OptionT.lift r.run
  modify fun s => { s with explaining }
  match result with
  | some a => return a
  | none => failure

/-! ## Rules -/

/-- Keeps what a rule has read at a place. -/
def remember (rule : Rule) (start : Nat) (result : Option rule.Result) (reach : Nat) :
    Reader Unit :=
  modify fun s => { s with memory := s.memory.insert (rule, start) (result, reach) }

/-- What a rule has read here before, or what a reader does about it. -/
def recalled (rule : Rule) (r : Reader rule.Result) : Reader rule.Result := do
  let _ ← peek
  let s ← get
  match s.memory.get? (rule, s.position) with
  | some (some a, reach) =>
    set { s with position := reach }
    return a
  | some (none, _) => failure
  | none => r

/-- Reads by a rule once at each place. -/
def remembered (rule : Rule) (r : Reader rule.Result) : Reader rule.Result :=
  recalled rule do
    let start := (← get).position
    let result ← OptionT.lift r.run
    remember rule start result (← get).position
    match result with
    | some a => return a
    | none => failure

/-- Reads by a rule that begins with itself: what it has read is read again as its beginning, as
long as more is taken, and at most so many times. -/
def growFrom (rule : Rule) (r : Reader rule.Result) (start : Nat) :
    Nat → Option rule.Result → (reach : Nat) → Reader rule.Result
  | 0, best, reach => finish best reach
  | n + 1, best, reach => do
    remember rule start best reach
    modify fun s => { s with position := start }
    let result ← OptionT.lift r.run
    let position := (← get).position
    if result.isNone || position ≤ reach then finish best reach
    else growFrom rule r start n result position
where
  /-- Goes on behind the longest result. -/
  finish (best : Option rule.Result) (reach : Nat) : Reader rule.Result := do
    modify fun s => { s with position := reach }
    match best with
    | some a => return a
    | none => failure

/-- Reads by a rule that begins with itself. -/
def grown (rule : Rule) (r : Reader rule.Result) : Reader rule.Result :=
  recalled rule do
    let s ← get
    growFrom rule r s.position (s.tokens.size + 1) none s.position

/-- The rules of a table, nested as deeply as the number says. -/
def rules (table : Call → Call) : Nat → Call
  | 0, _ => stopHere .tooDeep
  | n + 1, rule =>
    let r := table (rules table n) rule
    if rule.isLeftRecursive then grown rule r
    else if rule.isRemembered then remembered rule r
    else r

/-! ## Texts -/

/-- The error of tokens that no rule fits: it is put down to the furthest token of the first
reading. -/
def unexplained (first second : Reading) : SourceError :=
  match first.tokens[first.looked - 1]? with
  | none => ⟨.grammar .invalid, 1⟩
  | some t =>
    match t.kind with
    | .indent => ⟨.grammar .unexpectedIndent, t.line⟩
    | .dedent => ⟨.grammar .unexpectedDedent, t.line⟩
    | _ => (TokenEnd.overrides? first.last (reachedLine second)).getD ⟨.grammar .invalid, t.line⟩

/-- Reads tokens from the first one on, and again with explanations if that fails. -/
def readAll (r : Reader α) (tokens : List Token) (last : TokenEnd) : Except SourceError α := do
  let settled {γ : Type} (result : Except Stop γ) : Except SourceError γ :=
    result.mapError (Stop.settle last)
  let (result, first) ← settled (r.run { tokens := tokens.toArray, last })
  match result with
  | some a => return a
  | none =>
    let again := { first with position := 0, explaining := true, memory := {} }
    let (_, second) ← settled (r.run again)
    throw (unexplained first second)

end Reader

end RecordForge.Source
