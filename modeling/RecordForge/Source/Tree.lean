import RecordForge.Number.Binary64

/-!
# What a source says

The statements and expressions of a source, each with the line on which it begins.
-/

namespace RecordForge.Source

/-- A value that is written out. -/
inductive Constant where
  | none
  | bool (b : Bool)
  | ellipsis
  | int (n : Nat)
  | float (x : Binary64)
  | imaginary (x : Binary64)
  | text (s : String)
  | bytes (codes : List UInt8)
deriving Repr, Inhabited

inductive UnaryOp where
  | plus
  | minus
  | invert
  | not
deriving DecidableEq, Repr

inductive BinaryOp where
  | add
  | subtract
  | multiply
  | matrixMultiply
  | divide
  | floorDivide
  | modulo
  | power
  | shiftLeft
  | shiftRight
  | bitAnd
  | bitOr
  | bitXor
deriving DecidableEq, Repr

inductive CompareOp where
  | equal
  | notEqual
  | less
  | lessEqual
  | greater
  | greaterEqual
  | isSame
  | isNotSame
  | isIn
  | isNotIn
deriving DecidableEq, Repr

/-- What a comprehension makes. -/
inductive ComprehensionKind where
  | list
  | set
  | dict
  | generator
deriving DecidableEq, Repr

mutual

/-- An expression, with its line. -/
inductive Expr where
  | mk (line : Nat) (form : ExprForm)

/-- The forms of expressions. -/
inductive ExprForm where
  | name (id : String)
  | constant (value : Constant)
  /-- A text with values in it. -/
  | joined (parts : List Expr)
  /-- A value within a text, with the conversion and the layout of its text. -/
  | formatted (value : Expr) (conversion : Option Char) (layout : Option Expr)
  | tuple (items : List Expr)
  | list (items : List Expr)
  | set (items : List Expr)
  | dict (items : List DictItem)
  | attribute (value : Expr) (name : String)
  | subscript (value index : Expr)
  | slice (first last step : Option Expr)
  | call (function : Expr) (arguments : List Expr) (keywords : List Keyword)
  | unary (op : UnaryOp) (operand : Expr)
  | binary (op : BinaryOp) (left right : Expr)
  | conjunction (operands : List Expr)
  | disjunction (operands : List Expr)
  | compare (left : Expr) (rest : List Comparison)
  | conditional (test whenTrue whenFalse : Expr)
  | lambda (parameters : Parameters) (body : Expr)
  /-- Only a dictionary has a value beside the element. -/
  | comprehension (kind : ComprehensionKind) (element : Expr) (value : Option Expr)
      (clauses : List Clause)
  | await (value : Expr)
  | yield (value : Option Expr)
  | yieldFrom (source : Expr)
  | starred (value : Expr)
  /-- A value that is bound to a name as well. -/
  | named (target value : Expr)

/-- An item of a dictionary; one without a key is a dictionary whose items are taken over. -/
inductive DictItem where
  | mk (key : Option Expr) (value : Expr)

/-- An operator of a comparison and its right side. -/
inductive Comparison where
  | mk (op : CompareOp) (right : Expr)

/-- An argument with a name; one without a name is a dictionary of arguments. -/
inductive Keyword where
  | mk (line : Nat) (name : Option String) (value : Expr)

/-- A loop of a comprehension, with its conditions. -/
inductive Clause where
  | mk (waits : Bool) (target source : Expr) (conditions : List Expr)

/-- A parameter and what is declared for it. -/
inductive Param where
  | mk (line : Nat) (name : String) (declared : Option Expr)

/-- A parameter with a default value. -/
inductive ParamDefault where
  | mk (param : Param) (value : Option Expr)

/-- The parameters of a function: those that are given by position only, by position or name, as
many as there are, by name only, and as many named ones as there are. -/
inductive Parameters where
  | mk (positional plain : List ParamDefault) (rest : Option Param) (named : List ParamDefault)
      (others : Option Param)

end

instance : Inhabited Expr := ⟨.mk 0 (.constant .none)⟩

instance : Inhabited Parameters := ⟨.mk [] [] none [] none⟩

/-- The line of an expression. -/
def Expr.line : Expr → Nat
  | .mk line _ => line

/-- The form of an expression. -/
def Expr.form : Expr → ExprForm
  | .mk _ form => form

/-- The line of a parameter. -/
def Param.line : Param → Nat
  | .mk line _ _ => line

/-- The name of a parameter. -/
def Param.name : Param → String
  | .mk _ name _ => name

/-- The parameter that may have a default value. -/
def ParamDefault.param : ParamDefault → Param
  | .mk param _ => param

/-- The default value. -/
def ParamDefault.value : ParamDefault → Option Expr
  | .mk _ value => value

/-- A name of an import, and the name that it is bound to, if that is another one. -/
structure Imported where
  name : String
  target : Option String := none
deriving DecidableEq, Repr, Inhabited

/-- A pattern that a value is matched with. -/
inductive Pattern where
  | value (e : Expr)
  | constant (value : Constant)
  /-- Matches anything that the pattern, if there is one, matches, and binds it to a name. -/
  | capture (line : Nat) (pattern : Option Pattern) (name : Option String)
  | sequence (line : Nat) (patterns : List Pattern)
  /-- The rest of a sequence. -/
  | rest (line : Nat) (name : Option String)
  | mapping (line : Nat) (keys : List Expr) (patterns : List Pattern) (rest : Option String)
  | ofClass (line : Nat) (type : Expr) (patterns : List Pattern) (names : List String)
      (named : List Pattern)
  | anyOf (line : Nat) (patterns : List Pattern)

mutual

/-- A statement, with its line. -/
inductive Stmt where
  | mk (line : Nat) (form : StmtForm)

/-- The forms of statements. -/
inductive StmtForm where
  | expr (value : Expr)
  | assign (targets : List Expr) (value : Expr)
  | augment (target : Expr) (op : BinaryOp) (value : Expr)
  /-- Declares a type; `plain` tells a name without brackets. -/
  | declare (target declared : Expr) (value : Option Expr) (plain : Bool)
  | delete (targets : List Expr)
  | pass
  | leave
  | next
  | result (value : Option Expr)
  | raise (error cause : Option Expr)
  | global (names : List String)
  | nonlocal (names : List String)
  | assert (test : Expr) (message : Option Expr)
  | importModules (names : List Imported)
  /-- Imports from the module of the path, as many levels up as there are points. -/
  | importFrom (path : Option String) (names : List Imported) (points : Nat)
  | branch (test : Expr) (body otherwise : List Stmt)
  | loop (test : Expr) (body otherwise : List Stmt)
  | each (waits : Bool) (target source : Expr) (body otherwise : List Stmt)
  | within (waits : Bool) (items : List (Expr × Option Expr)) (body : List Stmt)
  /-- `grouped` tells handlers for groups of errors. -/
  | attempt (body : List Stmt) (handlers : List Handler) (otherwise final : List Stmt)
      (grouped : Bool)
  | select (subject : Expr) (cases : List Case)
  | function (waits : Bool) (name : String) (parameters : Parameters) (returns : Option Expr)
      (decorators : List Expr) (body : List Stmt)
  | typeDef (name : String) (bases : List Expr) (keywords : List Keyword) (decorators : List Expr)
      (body : List Stmt)

/-- What is done about errors of a type. -/
inductive Handler where
  | mk (line : Nat) (type : Option Expr) (name : Option String) (body : List Stmt)

/-- What is done about values that match a pattern. -/
inductive Case where
  | mk (pattern : Pattern) (guard : Option Expr) (body : List Stmt)

end

instance : Inhabited Stmt := ⟨.mk 0 .pass⟩

/-- The line of a statement. -/
def Stmt.line : Stmt → Nat
  | .mk line _ => line

/-- The form of a statement. -/
def Stmt.form : Stmt → StmtForm
  | .mk _ form => form

end RecordForge.Source
