import TreeSmith.Template.Token

/-!
# Template expressions

Expressions and their reading from tokens.  From the loosest to the tightest bind:
the choice `a if c else b`, `or`, `and`, `not`, comparisons, sums, the join `~`,
products, powers, and then signs, members, filters and tests.

## Main definitions

* `Expr` — expressions.
* `BinaryOp`, `operatorAt?` — operators, and the level at which each binds.
* `Comparison`, `comparison?` — comparisons, which may be chained.
* `maxDepth` — how deep expressions and tags may be nested.
* `readExpr`, `wholeExpr?` — an expression at the front of some tokens, or of all.
-/

namespace TreeSmith.Template

/-- An operator between two expressions. -/
inductive BinaryOp
  | either | both
  | add | subtract | join | multiply | divide | floorDivide | remainder | power
  deriving DecidableEq, Repr

/-- A comparison of two values. -/
inductive Comparison
  | equal | notEqual | less | lessEqual | greater | greaterEqual | isIn | isNotIn
  deriving DecidableEq, Repr

/-- How an argument is given. -/
inductive ArgKind
  /-- By its place. -/
  | placed
  /-- By its name. -/
  | named (name : String)
  /-- As one of the items of a list. -/
  | spread
  /-- As one of the entries of a map. -/
  | spreadNamed
  deriving DecidableEq, Repr

/-- An expression. -/
inductive Expr
  /-- A name. -/
  | name (s : String)
  /-- A text. -/
  | text (s : String)
  /-- An integer. -/
  | int (n : Nat)
  /-- The decimal `digits · 10 ^ exponent`. -/
  | decimal (digits : Nat) (exponent : Int)
  /-- A truth value. -/
  | bool (b : Bool)
  /-- The absence of a value. -/
  | none
  /-- A list. -/
  | list (items : List Expr)
  /-- A map from keys to values. -/
  | map (entries : List (Expr × Expr))
  /-- A named part. -/
  | member (e : Expr) (name : String)
  /-- A part at an index or key. -/
  | item (e index : Expr)
  /-- The parts from a start to a stop in steps. -/
  | slice (e : Expr) (start stop step : Option Expr)
  /-- A call of a function. -/
  | call (e : Expr) (args : List (ArgKind × Expr))
  /-- A filter with its arguments. -/
  | filter (e : Expr) (name : String) (args : List (ArgKind × Expr))
  /-- A test with its arguments. -/
  | test (e : Expr) (name : String) (args : List (ArgKind × Expr))
  /-- A denial. -/
  | not (e : Expr)
  /-- A change of sign. -/
  | negate (e : Expr)
  /-- An operator between two expressions. -/
  | binary (op : BinaryOp) (left right : Expr)
  /-- Comparisons, each of one expression with the next. -/
  | compare (first : Expr) (rest : List (Comparison × Expr))
  /-- A choice; without an alternative it may stand for nothing. -/
  | choose (condition yes : Expr) (no : Option Expr)
  deriving Repr

/-- How deep expressions in brackets and tags may be nested. -/
def maxDepth : Nat := 150

/-- The level of `not`, below that of the comparisons. -/
def notLevel : Nat := 2

/-- The level of comparisons. -/
def compareLevel : Nat := 3

/-- The level of signs, members, filters and tests. -/
def unaryLevel : Nat := 8

/-- The operator at the front that binds at a level, and the tokens after it. -/
def operatorAt? (level : Nat) : List Token → Option (BinaryOp × List Token)
  | .word w :: ts =>
    if level = 0 && w = "or" then some (.either, ts)
    else if level = 1 && w = "and" then some (.both, ts)
    else none
  | .mark m :: ts =>
    match level, m with
    | 4, .plus => some (.add, ts)
    | 4, .minus => some (.subtract, ts)
    | 5, .tilde => some (.join, ts)
    | 6, .star => some (.multiply, ts)
    | 6, .slash => some (.divide, ts)
    | 6, .doubleSlash => some (.floorDivide, ts)
    | 6, .percent => some (.remainder, ts)
    | 7, .doubleStar => some (.power, ts)
    | _, _ => none
  | _ => none

/-- The comparison at the front, and the tokens after it. -/
def comparison? : List Token → Option (Comparison × List Token)
  | .mark .equal :: ts => some (.equal, ts)
  | .mark .notEqual :: ts => some (.notEqual, ts)
  | .mark .less :: ts => some (.less, ts)
  | .mark .lessEqual :: ts => some (.lessEqual, ts)
  | .mark .greater :: ts => some (.greater, ts)
  | .mark .greaterEqual :: ts => some (.greaterEqual, ts)
  | .word "in" :: ts => some (.isIn, ts)
  | .word "not" :: .word "in" :: ts => some (.isNotIn, ts)
  | _ => none

/-- The expression that a word alone stands for. -/
def wordExpr (w : String) : Expr :=
  if w = "true" || w = "True" then .bool true
  else if w = "false" || w = "False" then .bool false
  else if w = "none" || w = "None" then .none
  else .name w

/-- The token may start an argument of a test without parentheses. -/
def startsTestArg : Token → Bool
  | .word w => !(w = "and" || w = "or" || w = "else" || w = "is")
  | .text _ => true
  | .int _ => true
  | .decimal _ _ => true
  | .mark m => m = .plus || m = .minus || m = .openBracket || m = .openBrace

/-- The tokens after a given mark, if it is at the front. -/
def skipMark? (m : Mark) : List Token → Option (List Token)
  | .mark n :: ts => if n = m then some ts else none
  | _ => none

mutual

/-- An expression at the front, and the tokens after it. -/
def readExpr : Nat → Nat → List Token → Option (Expr × List Token)
  | 0, _, _ => none
  | fuel + 1, depth, ts => if maxDepth ≤ depth then none else readOpen fuel (depth + 1) ts

/-- An expression with the choices that continue it. -/
def readOpen : Nat → Nat → List Token → Option (Expr × List Token)
  | 0, _, _ => none
  | fuel + 1, depth, ts => do
    let (e, ts) ← readLevel fuel depth 0 ts
    readChoice fuel depth e ts

/-- The choice that continues an expression, if any. -/
def readChoice : Nat → Nat → Expr → List Token → Option (Expr × List Token)
  | 0, _, _, _ => none
  | fuel + 1, depth, yes, ts =>
    match ts with
    | .word "if" :: ts => do
      let (condition, ts) ← readLevel fuel depth 0 ts
      match ts with
      | .word "else" :: ts =>
        let (no, ts) ← readOpen fuel depth ts
        readChoice fuel depth (.choose condition yes (some no)) ts
      | ts => readChoice fuel depth (.choose condition yes none) ts
    | ts => some (yes, ts)

/-- An expression of operators that bind at a level or tighter. -/
def readLevel : Nat → Nat → Nat → List Token → Option (Expr × List Token)
  | 0, _, _, _ => none
  | fuel + 1, depth, level, ts =>
    if level = notLevel then
      match ts with
      | .word "not" :: ts => do
        let (e, ts) ← readLevel fuel depth notLevel ts
        return (.not e, ts)
      | ts => readLevel fuel depth (level + 1) ts
    else if level = compareLevel then do
      let (first, ts) ← readLevel fuel depth (level + 1) ts
      let (rest, ts) ← readComparisons fuel depth ts
      return (if rest.isEmpty then first else .compare first rest, ts)
    else if level = unaryLevel then do
      let (e, ts) ← readSigned fuel depth ts
      let (e, ts) ← readParts fuel depth e ts
      readFilters fuel depth e ts
    else do
      let (e, ts) ← readLevel fuel depth (level + 1) ts
      readOperators fuel depth level e ts

/-- The comparisons that continue an expression. -/
def readComparisons : Nat → Nat → List Token → Option (List (Comparison × Expr) × List Token)
  | 0, _, _ => none
  | fuel + 1, depth, ts =>
    match comparison? ts with
    | none => some ([], ts)
    | some (op, ts) => do
      let (e, ts) ← readLevel fuel depth (compareLevel + 1) ts
      let (rest, ts) ← readComparisons fuel depth ts
      return ((op, e) :: rest, ts)

/-- The operators of a level that continue an expression, from left to right. -/
def readOperators : Nat → Nat → Nat → Expr → List Token → Option (Expr × List Token)
  | 0, _, _, _, _ => none
  | fuel + 1, depth, level, left, ts =>
    match operatorAt? level ts with
    | none => some (left, ts)
    | some (op, ts) => do
      let (right, ts) ← readLevel fuel depth (level + 1) ts
      readOperators fuel depth level (.binary op left right) ts

/-- A primary expression with its signs. -/
def readSigned : Nat → Nat → List Token → Option (Expr × List Token)
  | 0, _, _ => none
  | fuel + 1, depth, ts =>
    match ts with
    | .mark .minus :: ts => do
      let (e, ts) ← readSigned fuel depth ts
      return (.negate e, ts)
    | ts => if maxDepth ≤ depth then none else readPrimary fuel (depth + 1) ts

/-- A name, literal, list, map or expression in parentheses. -/
def readPrimary : Nat → Nat → List Token → Option (Expr × List Token)
  | 0, _, _ => none
  | fuel + 1, depth, ts =>
    match ts with
    | .word w :: ts => some (wordExpr w, ts)
    | .text s :: ts => some (.text s, ts)
    | .int n :: ts => some (.int n, ts)
    | .decimal digits exponent :: ts => some (.decimal digits exponent, ts)
    | .mark .openParen :: .mark .closeParen :: ts => some (.list [], ts)
    | .mark .openParen :: ts => do
      let (e, ts) ← readExpr fuel depth ts
      match ts with
      | .mark .closeParen :: ts => return (e, ts)
      | .mark .comma :: ts =>
        let (items, ts) ← readList fuel depth .closeParen ts
        return (.list (e :: items), ts)
      | _ => none
    | .mark .openBracket :: ts => do
      let (items, ts) ← readList fuel depth .closeBracket ts
      return (.list items, ts)
    | .mark .openBrace :: ts => do
      let (entries, ts) ← readEntries fuel depth ts
      return (.map entries, ts)
    | _ => none

/-- The parts and calls that follow an expression. -/
def readParts : Nat → Nat → Expr → List Token → Option (Expr × List Token)
  | 0, _, _, _ => none
  | fuel + 1, depth, e, ts =>
    match ts with
    | .mark .dot :: .word name :: ts => readParts fuel depth (.member e name) ts
    | .mark .dot :: .int n :: ts => readParts fuel depth (.item e (.int n)) ts
    | .mark .dot :: _ => none
    | .mark .openBracket :: ts => do
      let (e, ts) ← readSubscript fuel depth e ts
      readParts fuel depth e ts
    | .mark .openParen :: ts => do
      let (args, ts) ← readArgs fuel depth false ts
      readParts fuel depth (.call e args) ts
    | ts => some (e, ts)

/-- An index or a slice, after its opening bracket. -/
def readSubscript : Nat → Nat → Expr → List Token → Option (Expr × List Token)
  | 0, _, _, _ => none
  | fuel + 1, depth, e, ts => do
    let (start, ts) ← readBound fuel depth ts
    match ts with
    | .mark .closeBracket :: ts => return (.item e (← start), ts)
    | .mark .colon :: ts =>
      let (stop, ts) ← readBound fuel depth ts
      match ts with
      | .mark .closeBracket :: ts => return (.slice e start stop none, ts)
      | .mark .colon :: ts =>
        let (step, ts) ← readBound fuel depth ts
        let ts ← skipMark? .closeBracket ts
        return (.slice e start stop step, ts)
      | _ => none
    | _ => none

/-- A bound of a slice, which may be left out. -/
def readBound : Nat → Nat → List Token → Option (Option Expr × List Token)
  | 0, _, _ => none
  | fuel + 1, depth, ts =>
    match ts with
    | .mark .colon :: _ => some (none, ts)
    | .mark .closeBracket :: _ => some (none, ts)
    | _ => (readExpr fuel depth ts).map fun (e, ts) => (some e, ts)

/-- The filters and tests that follow an expression. -/
def readFilters : Nat → Nat → Expr → List Token → Option (Expr × List Token)
  | 0, _, _, _ => none
  | fuel + 1, depth, e, ts =>
    match ts with
    | .mark .bar :: .word name :: ts => do
      let (args, ts) ← readOptionalArgs fuel depth ts
      readFilters fuel depth (.filter e name args) ts
    | .mark .bar :: _ => none
    | .word "is" :: .word "not" :: .word name :: ts => do
      let (args, ts) ← readTestArgs fuel depth ts
      readFilters fuel depth (.not (.test e name args)) ts
    | .word "is" :: .word name :: ts => do
      let (args, ts) ← readTestArgs fuel depth ts
      readFilters fuel depth (.test e name args) ts
    | .word "is" :: _ => none
    | ts => some (e, ts)

/-- Arguments in parentheses, or none without them. -/
def readOptionalArgs : Nat → Nat → List Token → Option (List (ArgKind × Expr) × List Token)
  | 0, _, _ => none
  | fuel + 1, depth, ts =>
    match ts with
    | .mark .openParen :: ts => readArgs fuel depth false ts
    | ts => some ([], ts)

/-- The arguments of a test: in parentheses, or a single one without them. -/
def readTestArgs : Nat → Nat → List Token → Option (List (ArgKind × Expr) × List Token)
  | 0, _, _ => none
  | fuel + 1, depth, ts =>
    match ts with
    | .mark .openParen :: ts => readArgs fuel depth false ts
    | t :: rest =>
      if startsTestArg t then do
        let (e, ts) ← readSigned fuel depth (t :: rest)
        let (e, ts) ← readParts fuel depth e ts
        return ([(.placed, e)], ts)
      else some ([], t :: rest)
    | [] => some ([], [])

/-- Arguments separated by commas up to a closing parenthesis; a comma may end them.
After one by name there is none by its place. -/
def readArgs : Nat → Nat → Bool → List Token → Option (List (ArgKind × Expr) × List Token)
  | 0, _, _, _ => none
  | fuel + 1, depth, named, ts =>
    match ts with
    | .mark .closeParen :: ts => some ([], ts)
    | .mark .doubleStar :: ts => do
      let (e, ts) ← readExpr fuel depth ts
      readMoreArgs fuel depth true (.spreadNamed, e) ts
    | .mark .star :: ts => do
      let (e, ts) ← readExpr fuel depth ts
      readMoreArgs fuel depth named (.spread, e) ts
    | ts => do
      let (e, ts) ← readExpr fuel depth ts
      match e, ts with
      | .name name, .mark .assign :: ts =>
        let (e, ts) ← readLevel fuel depth 0 ts
        readMoreArgs fuel depth true (.named name, e) ts
      | _, _ => if named then none else readMoreArgs fuel depth false (.placed, e) ts

/-- The arguments after one of them. -/
def readMoreArgs : Nat → Nat → Bool → ArgKind × Expr → List Token →
    Option (List (ArgKind × Expr) × List Token)
  | 0, _, _, _, _ => none
  | fuel + 1, depth, named, arg, ts =>
    match ts with
    | .mark .closeParen :: ts => some ([arg], ts)
    | .mark .comma :: ts => do
      let (args, ts) ← readArgs fuel depth named ts
      return (arg :: args, ts)
    | _ => none

/-- Expressions separated by commas up to a closing mark; a comma may end them. -/
def readList : Nat → Nat → Mark → List Token → Option (List Expr × List Token)
  | 0, _, _, _ => none
  | fuel + 1, depth, closing, ts =>
    match skipMark? closing ts with
    | some ts => some ([], ts)
    | none => do
      let (e, ts) ← readExpr fuel depth ts
      match skipMark? closing ts with
      | some ts => return ([e], ts)
      | none =>
        let ts ← skipMark? .comma ts
        let (es, ts) ← readList fuel depth closing ts
        return (e :: es, ts)

/-- Keys with values separated by commas up to a closing brace; a comma may end
them. -/
def readEntries : Nat → Nat → List Token → Option (List (Expr × Expr) × List Token)
  | 0, _, _ => none
  | fuel + 1, depth, ts =>
    match skipMark? .closeBrace ts with
    | some ts => some ([], ts)
    | none => do
      let (key, ts) ← readExpr fuel depth ts
      let ts ← skipMark? .colon ts
      let (value, ts) ← readExpr fuel depth ts
      match skipMark? .closeBrace ts with
      | some ts => return ([(key, value)], ts)
      | none =>
        let ts ← skipMark? .comma ts
        let (entries, ts) ← readEntries fuel depth ts
        return ((key, value) :: entries, ts)

end

/-- Fuel for reading expressions from some tokens: no token is passed without
taking it through more than the levels and the steps around them. -/
def exprFuel (ts : List Token) : Nat := 20 * (ts.length + 2)

/-- An expression at a depth that takes up all the tokens. -/
def wholeExpr? (depth : Nat) (ts : List Token) : Option Expr :=
  match readExpr (exprFuel ts) depth ts with
  | some (e, []) => some e
  | _ => none

/-- An expression that is no choice and takes up all the tokens. -/
def wholePlainExpr? (depth : Nat) (ts : List Token) : Option Expr :=
  match readLevel (exprFuel ts) depth 0 ts with
  | some (e, []) => some e
  | _ => none

end TreeSmith.Template
