import RecordForge.Source.Token

/-!
# Why a source is refused

A source can fail to fall into tokens, to follow the grammar, to spell its literals, to use its
names consistently, or to have its statements where they belong.
-/

namespace RecordForge.Source

/-- What is wrong with a literal. -/
inductive LiteralFault where
  /-- Bytes are written with a character that is no byte. -/
  | wideBytes
  /-- Texts and bytes stand side by side. -/
  | mixedBytes
  /-- An escape cannot be read; its place is the first and the last position that it takes up. -/
  | badEscape (first last : Nat) (reason : String)
  | badByteEscape (position : Nat)
  /-- A number is written with too many digits. -/
  | manyDigits (given : Nat)
  /-- A value within a text has no expression before a mark, or none at all. -/
  | noExpression (mark : Option Char)
  | loneBrace
  | unclosedValue
  | endsEarly
  | nestedTooDeeply
  | escapeInValue
  | commentInValue
  | bracketsTooDeep
  | openTextInValue
  | unmatchedInValue (bracket : Char)
  | mismatchedInValue (closing opening : Char)
  | badConversion
deriving DecidableEq, Repr

namespace LiteralFault

/-- The largest number of digits of a number. -/
def maxDigits : Nat := 4300

/-- The place of an escape. -/
def placeText (first last : Nat) : String :=
  if first = last then "byte 0x5c in position " ++ toString first
  else "bytes in position " ++ toString first ++ "-" ++ toString last

/-- The wording of the fault. -/
def message : LiteralFault → String
  | .wideBytes => "bytes can only contain ASCII literal characters"
  | .mixedBytes => "cannot mix bytes and nonbytes literals"
  | .badEscape first last reason =>
    "(unicode error) 'unicodeescape' codec can't decode " ++ placeText first last ++ ": " ++ reason
  | .badByteEscape position =>
    "(value error) invalid \\x escape at position " ++ toString position
  | .manyDigits given =>
    "Exceeds the limit (" ++ toString maxDigits ++ " digits) for integer string conversion: "
      ++ "value has " ++ toString given ++ " digits; use sys.set_int_max_str_digits() to increase "
      ++ "the limit - Consider hexadecimal for huge integer literals to avoid decimal conversion "
      ++ "limits."
  | .noExpression (some mark) =>
    "f-string: expression required before " ++ TokenFault.plainQuoted mark
  | .noExpression none => "f-string: empty expression not allowed"
  | .loneBrace => "f-string: single " ++ TokenFault.plainQuoted '\x7d' ++ " is not allowed"
  | .unclosedValue => "f-string: expecting " ++ TokenFault.plainQuoted '\x7d'
  | .endsEarly => "f-string: unexpected end of string"
  | .nestedTooDeeply => "f-string: expressions nested too deeply"
  | .escapeInValue => "f-string expression part cannot include a backslash"
  | .commentInValue => "f-string expression part cannot include '#'"
  | .bracketsTooDeep => "f-string: too many nested parenthesis"
  | .openTextInValue => "f-string: unterminated string"
  | .unmatchedInValue bracket => "f-string: unmatched " ++ TokenFault.plainQuoted bracket
  | .mismatchedInValue closing opening =>
    "f-string: closing parenthesis " ++ TokenFault.plainQuoted closing
      ++ " does not match opening parenthesis " ++ TokenFault.plainQuoted opening
  | .badConversion =>
    "f-string: invalid conversion character: expected 's', 'r', or 'a'"

end LiteralFault

/-- Where a source leaves the grammar, as far as it can be told. -/
inductive GrammarFault where
  | invalid
  /-- Another sign has to stand here. -/
  | expected (sign : String)
  | unexpectedIndent
  | unexpectedDedent
  /-- A block has to stand behind what opened one on a line. -/
  | expectedBlock (opener : Option (String × Nat))
  | trailingComma
  | forgottenComma
  | missingElse
  /-- A statement of old that is a function now. -/
  | missingParentheses (function : String)
  | notAssignable (what : String)
  /-- A value is assigned to something that it can only be compared with. -/
  | notAssignableHere (what : String)
  | notDeletable (what : String)
  | notNameable (what : String)
  | notAugmentable (what : String)
  /-- A type is declared for something else than one target. -/
  | notDeclarable (what : String)
  | illegalDeclaration
  | yieldAsTarget
  | equalsForTest
  | assignmentForTest
  | spreadInComprehension
  | bareComprehensionTarget
  | dictSpreadInComprehension
  | bareGenerator
  | spreadAfterKeywords
  | positionalAfterKeyword
  | positionalAfterSpread
  | starredHere
  | doubleStarredHere
  | starredValue
  | valueExpected
  | colonExpected
  | nothingBeforeSlash
  | secondSlash
  | noDefaultAfterDefault
  | bracketedParameters
  | bracketedLambdaParameters
  | slashAfterStar
  | commaBetweenSlashAndStar
  | defaultExpected
  | bareStar
  | restWithDefault
  | secondStar
  | othersWithDefault
  | parameterAfterOthers
  | noHandler
  | mixedHandlers
  | bareTypes
  | typesExpected
  | wildcardTarget
  | badPatternTarget
  | positionalPatternAfterNamed
  | realExpected
  | imaginaryExpected
deriving DecidableEq, Repr

namespace GrammarFault

/-- The wording of the fault. -/
def message : GrammarFault → String
  | .invalid => "invalid syntax"
  | .expected sign => "expected " ++ Text.quoted sign
  | .unexpectedIndent => "unexpected indent"
  | .unexpectedDedent => "unexpected unindent"
  | .expectedBlock none => "expected an indented block"
  | .expectedBlock (some (opener, line)) =>
    "expected an indented block after " ++ opener ++ " on line " ++ toString line
  | .trailingComma => "trailing comma not allowed without surrounding parentheses"
  | .forgottenComma => "invalid syntax. Perhaps you forgot a comma?"
  | .missingElse => "expected 'else' after 'if' expression"
  | .missingParentheses function =>
    "Missing parentheses in call to '" ++ function ++ "'. Did you mean " ++ function ++ "(...)?"
  | .notAssignable what => "cannot assign to " ++ what
  | .notAssignableHere what =>
    "cannot assign to " ++ what ++ " here. Maybe you meant '==' instead of '='?"
  | .notDeletable what => "cannot delete " ++ what
  | .notNameable what => "cannot use assignment expressions with " ++ what
  | .notAugmentable what => "'" ++ what ++ "' is an illegal expression for augmented assignment"
  | .notDeclarable what => "only single target (not " ++ what ++ ") can be annotated"
  | .illegalDeclaration => "illegal target for annotation"
  | .yieldAsTarget => "assignment to yield expression not possible"
  | .equalsForTest => "invalid syntax. Maybe you meant '==' or ':=' instead of '='?"
  | .assignmentForTest =>
    "expression cannot contain assignment, perhaps you meant \"==\"?"
  | .spreadInComprehension => "iterable unpacking cannot be used in comprehension"
  | .bareComprehensionTarget => "did you forget parentheses around the comprehension target?"
  | .dictSpreadInComprehension => "dict unpacking cannot be used in dict comprehension"
  | .bareGenerator => "Generator expression must be parenthesized"
  | .spreadAfterKeywords =>
    "iterable argument unpacking follows keyword argument unpacking"
  | .positionalAfterKeyword => "positional argument follows keyword argument"
  | .positionalAfterSpread => "positional argument follows keyword argument unpacking"
  | .starredHere => "cannot use starred expression here"
  | .doubleStarredHere => "cannot use double starred expression here"
  | .starredValue => "cannot use a starred expression in a dictionary value"
  | .valueExpected => "expression expected after dictionary key and ':'"
  | .colonExpected => "':' expected after dictionary key"
  | .nothingBeforeSlash => "at least one argument must precede /"
  | .secondSlash => "/ may appear only once"
  | .noDefaultAfterDefault => "non-default argument follows default argument"
  | .bracketedParameters => "Function parameters cannot be parenthesized"
  | .bracketedLambdaParameters => "Lambda expression parameters cannot be parenthesized"
  | .slashAfterStar => "/ must be ahead of *"
  | .commaBetweenSlashAndStar => "expected comma between / and *"
  | .defaultExpected => "expected default value expression"
  | .bareStar => "named arguments must follow bare *"
  | .restWithDefault => "var-positional argument cannot have default value"
  | .secondStar => "* argument may appear only once"
  | .othersWithDefault => "var-keyword argument cannot have default value"
  | .parameterAfterOthers => "arguments cannot follow var-keyword argument"
  | .noHandler => "expected 'except' or 'finally' block"
  | .mixedHandlers => "cannot have both 'except' and 'except*' on the same 'try'"
  | .bareTypes => "multiple exception types must be parenthesized"
  | .typesExpected => "expected one or more exception types"
  | .wildcardTarget => "cannot use '_' as a target"
  | .badPatternTarget => "invalid pattern target"
  | .positionalPatternAfterNamed => "positional patterns follow keyword patterns"
  | .realExpected => "real number required in complex literal"
  | .imaginaryExpected => "imaginary number required in complex literal"

end GrammarFault

/-- The declarations that a name belongs to a scope around. -/
inductive OuterKind where
  | global
  | nonlocal
deriving DecidableEq, Repr

/-- The word for a declaration. -/
def OuterKind.word : OuterKind → String
  | .global => "global"
  | .nonlocal => "nonlocal"

/-- How a name is used inconsistently. -/
inductive NameFault where
  | assignedBefore (name : String) (kind : OuterKind)
  | usedBefore (name : String) (kind : OuterKind)
  | declaredBefore (name : String) (kind : OuterKind)
  | parameterAnd (name : String) (kind : OuterKind)
  | nonlocalAndGlobal (name : String)
  | noBinding (name : String)
  | nonlocalAtTop
  | duplicateParameter (name : String)
  | starImport
  | namedInClass
  | namedInSource
  | namedRebinds (name : String)
  | loopRebinds (name : String)
  /-- A comprehension of this kind gives out values. -/
  | yieldInside (kind : String)
deriving DecidableEq, Repr

/-- The wording of the fault. -/
def NameFault.message : NameFault → String
  | .assignedBefore name kind =>
    "name '" ++ name ++ "' is assigned to before " ++ kind.word ++ " declaration"
  | .usedBefore name kind =>
    "name '" ++ name ++ "' is used prior to " ++ kind.word ++ " declaration"
  | .declaredBefore name kind => "annotated name '" ++ name ++ "' can't be " ++ kind.word
  | .parameterAnd name kind => "name '" ++ name ++ "' is parameter and " ++ kind.word
  | .nonlocalAndGlobal name => "name '" ++ name ++ "' is nonlocal and global"
  | .noBinding name => "no binding for nonlocal '" ++ name ++ "' found"
  | .nonlocalAtTop => "nonlocal declaration not allowed at module level"
  | .duplicateParameter name => "duplicate argument '" ++ name ++ "' in function definition"
  | .starImport => "import * only allowed at module level"
  | .namedInClass =>
    "assignment expression within a comprehension cannot be used in a class body"
  | .namedInSource => "assignment expression cannot be used in a comprehension iterable expression"
  | .namedRebinds name =>
    "assignment expression cannot rebind comprehension iteration variable '" ++ name ++ "'"
  | .loopRebinds name =>
    "comprehension inner loop cannot rebind assignment expression target '" ++ name ++ "'"
  | .yieldInside kind => "'yield' inside " ++ kind

/-- What stands where it does not belong. -/
inductive PlacementFault where
  | resultOutside
  | resultInGenerator
  | yieldOutside
  | yieldFromInAsync
  | awaitOutside
  | awaitOutsideAsync
  | asyncOutside (what : String)
  | asyncComprehension
  | leaveOutside
  | nextOutside
  | leavesGroupHandler
  | defaultHandlerFirst
  | constantBound (name : String)
  | constantDeleted (name : String)
  | loneStarTarget
  | manyStarTargets
  | manyTargets
  | starred
  | repeatedKeyword (name : String)
  | lateFeatures
  /-- The language has no feature of this name. -/
  | unknownFeature (name : String)
  | braces
  | manyBlocks
  | manyRests
  | unreachableAfterWildcard
  | unreachableAfterName (name : String)
  | differentNames
  | repeatedName (name : String)
  | repeatedAttribute (name : String)
  | repeatedKey (key : String)
deriving DecidableEq, Repr

/-- The wording of the fault. -/
def PlacementFault.message : PlacementFault → String
  | .resultOutside => "'return' outside function"
  | .resultInGenerator => "'return' with value in async generator"
  | .yieldOutside => "'yield' outside function"
  | .yieldFromInAsync => "'yield from' inside async function"
  | .awaitOutside => "'await' outside function"
  | .awaitOutsideAsync => "'await' outside async function"
  | .asyncOutside what => "'async " ++ what ++ "' outside async function"
  | .asyncComprehension => "asynchronous comprehension outside of an asynchronous function"
  | .leaveOutside => "'break' outside loop"
  | .nextOutside => "'continue' not properly in loop"
  | .leavesGroupHandler =>
    "'break', 'continue' and 'return' cannot appear in an except* block"
  | .defaultHandlerFirst => "default 'except:' must be last"
  | .constantBound name => "cannot assign to " ++ name
  | .constantDeleted name => "cannot delete " ++ name
  | .loneStarTarget => "starred assignment target must be in a list or tuple"
  | .manyStarTargets => "multiple starred expressions in assignment"
  | .manyTargets => "too many expressions in star-unpacking assignment"
  | .starred => "can't use starred expression here"
  | .repeatedKeyword name => "keyword argument repeated: " ++ name
  | .lateFeatures => "from __future__ imports must occur at the beginning of the file"
  | .unknownFeature name => "future feature " ++ name ++ " is not defined"
  | .braces => "not a chance"
  | .manyBlocks => "too many statically nested blocks"
  | .manyRests => "multiple starred names in sequence pattern"
  | .unreachableAfterWildcard => "wildcard makes remaining patterns unreachable"
  | .unreachableAfterName name =>
    "name capture " ++ Text.quoted name ++ " makes remaining patterns unreachable"
  | .differentNames => "alternative patterns bind different names"
  | .repeatedName name => "multiple assignments to name " ++ Text.quoted name ++ " in pattern"
  | .repeatedAttribute name => "attribute name repeated in class pattern: " ++ name
  | .repeatedKey key => "mapping pattern checks duplicate key (" ++ key ++ ")"

/-- Why a source is refused. -/
inductive SourceFault where
  /-- The text holds a null character. -/
  | nullCharacter
  /-- The text is nested too deeply. -/
  | tooDeep
  | token (fault : TokenFault)
  | neverClosed (bracket : Char)
  | literal (fault : LiteralFault)
  | grammar (fault : GrammarFault)
  | name (fault : NameFault)
  | placement (fault : PlacementFault)
  /-- The fault is that of an expression within a text. -/
  | inText (fault : SourceFault)
deriving DecidableEq, Repr

/-- The wording of the fault. -/
def SourceFault.message : SourceFault → String
  | .nullCharacter => "source code string cannot contain null bytes"
  | .tooDeep => ""
  | .token fault => fault.message
  | .neverClosed bracket => TokenFault.plainQuoted bracket ++ " was never closed"
  | .literal fault => fault.message
  | .grammar fault => fault.message
  | .name fault => fault.message
  | .placement fault => fault.message
  | .inText fault => "f-string: " ++ fault.message

/-- A fault, with its line. -/
structure SourceError where
  fault : SourceFault
  line : Nat
deriving DecidableEq, Repr

/-- The wording of the error for a text of the given name. A text that is refused as a whole has no
line. -/
def SourceError.messageIn (file : String) (e : SourceError) : String :=
  match e.fault with
  | .nullCharacter | .tooDeep => e.fault.message
  | fault => fault.message ++ " (<" ++ file ++ ">, line " ++ toString e.line ++ ")"

/-- The wording of the error. -/
def SourceError.message (e : SourceError) : String :=
  e.messageIn "generated"

/-- The name of the kind of the error. -/
def SourceError.kind (e : SourceError) : String :=
  match e.fault with
  | .nullCharacter => "ValueError"
  | .tooDeep => "MemoryError"
  | .token .unclearIndent => "TabError"
  | .token .unknownIndent => "IndentationError"
  | .grammar .unexpectedIndent | .grammar .unexpectedDedent | .grammar (.expectedBlock _) =>
    "IndentationError"
  | _ => "SyntaxError"

end RecordForge.Source
