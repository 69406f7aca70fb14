import TreeSmith.Decimal.Layout
import TreeSmith.Text.Quoted

/-!
# Tokens and literal values

The leaves of syntax trees: literal values and the tokens that a scanner makes.

## Main definitions

* `Literal`, `Literal.written`, `Literal.inspect`, `Literal.same` — literal values.
* `TokenKind`, `TokenKind.name`, `TokenKind.ofName?` — the kinds of tokens.
* `Token`, `Token.written`, `Token.inspect`, `Token.same` — tokens.
* `inspectRecord` — a record with its fields, for inspection.
-/

namespace TreeSmith.Tree

/-- A record with its fields, for inspection. -/
def inspectRecord (name : String) (fields : List (String × String)) : String :=
  name ++ " \x7b " ++ String.intercalate ", " (fields.map fun f => f.1 ++ ": " ++ f.2) ++ " \x7d"

/-- A list of inspected items. -/
def inspectList (items : List String) : String :=
  "[" ++ String.intercalate ", " items ++ "]"

/-- A literal value. -/
inductive Literal
  /-- No value. -/
  | nil
  /-- A truth value. -/
  | bool (b : Bool)
  /-- A number, by the bits of its binary representation. -/
  | number (bits : UInt64)
  /-- A text. -/
  | text (s : String)
  deriving DecidableEq, Repr

/-- A truth value as it is written. -/
def boolText (b : Bool) : String := if b then "true" else "false"

/-- The literal as a program prints it. -/
def Literal.written : Literal → String
  | .nil => "nil"
  | .bool b => boolText b
  | .number bits => NumberStyle.display.text (.ofBits bits)
  | .text s => s

/-- The literal for inspection. -/
def Literal.inspect : Literal → String
  | .nil => "Nil"
  | .bool b => "Bool(" ++ boolText b ++ ")"
  | .number bits => "Number(" ++ NumberStyle.debug.text (.ofBits bits) ++ ")"
  | .text s => "Str(" ++ Text.quoted s ++ ")"

/-- The literals are equal; numbers are compared by value, and none is equal to what
is not a number. -/
def Literal.same : Literal → Literal → Bool
  | .nil, .nil => true
  | .bool a, .bool b => a == b
  | .number a, .number b => Float.ofBits a == Float.ofBits b
  | .text a, .text b => a == b
  | _, _ => false

/-- The kinds of tokens. -/
inductive TokenKind
  /-- An opening parenthesis. -/
  | leftParen
  /-- A closing parenthesis. -/
  | rightParen
  /-- An opening brace. -/
  | leftBrace
  /-- A closing brace. -/
  | rightBrace
  /-- A comma. -/
  | comma
  /-- A dot. -/
  | dot
  /-- A minus sign. -/
  | minus
  /-- A plus sign. -/
  | plus
  /-- A semicolon. -/
  | semicolon
  /-- A slash. -/
  | slash
  /-- A star. -/
  | star
  /-- A question mark. -/
  | question
  /-- A colon. -/
  | colon
  /-- An exclamation mark. -/
  | bang
  /-- The sign of inequality. -/
  | bangEqual
  /-- The sign of assignment. -/
  | equal
  /-- The sign of equality. -/
  | equalEqual
  /-- The sign for greater. -/
  | greater
  /-- The sign for greater or equal. -/
  | greaterEqual
  /-- The sign for less. -/
  | less
  /-- The sign for less or equal. -/
  | lessEqual
  /-- A name. -/
  | identifier
  /-- A text literal. -/
  | string
  /-- A number literal. -/
  | number
  /-- The keyword of conjunction. -/
  | andWord
  /-- The keyword that leaves a loop. -/
  | breakWord
  /-- The keyword of classes. -/
  | classWord
  /-- The keyword of the other branch. -/
  | elseWord
  /-- The literal for false. -/
  | falseWord
  /-- The keyword of functions. -/
  | funWord
  /-- The keyword of counting loops. -/
  | forWord
  /-- The keyword of branches. -/
  | ifWord
  /-- The literal for no value. -/
  | nilWord
  /-- The keyword of disjunction. -/
  | orWord
  /-- The keyword that prints. -/
  | printWord
  /-- The keyword that returns. -/
  | returnWord
  /-- The keyword for the class above. -/
  | superWord
  /-- The keyword for the object itself. -/
  | thisWord
  /-- The literal for true. -/
  | trueWord
  /-- The keyword of variables. -/
  | varWord
  /-- The keyword of loops. -/
  | whileWord
  /-- The end of the text. -/
  | endOfText
  deriving DecidableEq, Repr

namespace TokenKind

/-- The name of a kind. -/
def name : TokenKind → String
  | .leftParen => "LeftParen"
  | .rightParen => "RightParen"
  | .leftBrace => "LeftBrace"
  | .rightBrace => "RightBrace"
  | .comma => "Comma"
  | .dot => "Dot"
  | .minus => "Minus"
  | .plus => "Plus"
  | .semicolon => "Semicolon"
  | .slash => "Slash"
  | .star => "Star"
  | .question => "Question"
  | .colon => "Colon"
  | .bang => "Bang"
  | .bangEqual => "BangEqual"
  | .equal => "Equal"
  | .equalEqual => "EqualEqual"
  | .greater => "Greater"
  | .greaterEqual => "GreaterEqual"
  | .less => "Less"
  | .lessEqual => "LessEqual"
  | .identifier => "Identifier"
  | .string => "String"
  | .number => "Number"
  | .andWord => "And"
  | .breakWord => "Break"
  | .classWord => "Class"
  | .elseWord => "Else"
  | .falseWord => "False"
  | .funWord => "Fun"
  | .forWord => "For"
  | .ifWord => "If"
  | .nilWord => "Nil"
  | .orWord => "Or"
  | .printWord => "Print"
  | .returnWord => "Return"
  | .superWord => "Super"
  | .thisWord => "This"
  | .trueWord => "True"
  | .varWord => "Var"
  | .whileWord => "While"
  | .endOfText => "Eof"

/-- All kinds. -/
def all : List TokenKind :=
  [.leftParen, .rightParen, .leftBrace, .rightBrace, .comma, .dot, .minus, .plus, .semicolon,
    .slash, .star, .question, .colon, .bang, .bangEqual, .equal, .equalEqual, .greater,
    .greaterEqual, .less, .lessEqual, .identifier, .string, .number, .andWord, .breakWord,
    .classWord, .elseWord, .falseWord, .funWord, .forWord, .ifWord, .nilWord, .orWord,
    .printWord, .returnWord, .superWord, .thisWord, .trueWord, .varWord, .whileWord, .endOfText]

/-- The kind of a name. -/
def ofName? (s : String) : Option TokenKind :=
  all.find? (·.name == s)

end TokenKind

/-- A token of a program. -/
structure Token where
  /-- What kind of token it is. -/
  kind : TokenKind
  /-- The text that it was scanned from. -/
  lexeme : String
  /-- The value that it stands for, if it is a literal. -/
  literal : Option Literal
  /-- The line that it stands on. -/
  line : Nat
  deriving DecidableEq, Repr

namespace Token

/-- The token as a program prints it. -/
def written (t : Token) : String :=
  t.kind.name ++ " " ++ t.lexeme ++
    match t.literal with
    | some v => " " ++ v.written
    | none => ""

/-- The token for inspection. -/
def inspect (t : Token) : String :=
  inspectRecord "Token" [("kind", t.kind.name), ("lexeme", Text.quoted t.lexeme),
    ("literal",
      match t.literal with
      | some v => "Some(" ++ v.inspect ++ ")"
      | none => "None"),
    ("line", toString t.line)]

/-- The literals of two tokens are equal or both absent. -/
def sameLiteral : Option Literal → Option Literal → Bool
  | none, none => true
  | some v, some w => v.same w
  | _, _ => false

/-- The tokens are equal. -/
def same (t u : Token) : Bool :=
  t.kind == u.kind && t.lexeme == u.lexeme && sameLiteral t.literal u.literal && t.line == u.line

end Token

end TreeSmith.Tree
