import TreeSmith.Template.Expr

/-!
# Template nodes

The pieces of a template put together: loops and choices hold the nodes between
their tags.

## Main definitions

* `Target` — the names that a value, or the parts of it, are given.
* `Node` — text, output, loops, choices and assignments.
* `readNodes` — the nodes up to a tag that ends or divides them.
* `parse?` — the nodes of a whole template.
-/

namespace TreeSmith.Template

/-- What a value is bound to. -/
inductive Target
  /-- A name for the value. -/
  | name (s : String)
  /-- Targets for the items of the value. -/
  | items (targets : List Target)
  deriving Repr

/-- A filter with its arguments. -/
abbrev FilterCall := String × List (ArgKind × Expr)

/-- A part of a template. -/
inductive Node
  /-- Text as it is. -/
  | text (s : String)
  /-- The value of an expression. -/
  | output (e : Expr)
  /-- The body once for each item, or the alternative if there is none. -/
  | loop (target : Target) (source : Expr) (condition : Option Expr) (body otherwise : List Node)
  /-- One of two bodies. -/
  | branch (condition : Expr) (yes no : List Node)
  /-- A name for a value. -/
  | assign (target : Target) (e : Expr)
  /-- A name for the text of a body, passed through filters. -/
  | capture (name : String) (filters : List FilterCall) (body : List Node)
  deriving Repr

/-- The words of tags that end or divide a body. -/
def isDivider (w : String) : Bool :=
  w = "elif" || w = "else" || w = "endif" || w = "endfor" || w = "endset"

/-- The words that cannot be given a new value. -/
def isReserved (w : String) : Bool :=
  ["true", "True", "false", "False", "none", "None", "loop", "self"].contains w

/-- The token ends a list of targets after a comma. -/
def endsTargets : List Token → Bool
  | [] => true
  | .word "in" :: _ => true
  | .mark .closeParen :: _ => true
  | _ => false

mutual

/-- A target at the front: a name, or several between commas. -/
def readTarget : Nat → List Token → Option (Target × List Token)
  | 0, _ => none
  | fuel + 1, ts => do
    let (targets, several, ts) ← readTargets fuel ts
    match targets, several with
    | [target], false => return (target, ts)
    | _, _ => return (.items targets, ts)

/-- The targets at the front, and whether there is a comma after one of them. -/
def readTargets : Nat → List Token → Option (List Target × Bool × List Token)
  | 0, _ => none
  | fuel + 1, ts =>
    if endsTargets ts then some ([], false, ts)
    else do
      let (target, ts) ← readSingleTarget fuel ts
      match ts with
      | .mark .comma :: ts =>
        let (targets, _, ts) ← readTargets fuel ts
        return (target :: targets, true, ts)
      | ts => return ([target], false, ts)

/-- A name, or targets in parentheses. -/
def readSingleTarget : Nat → List Token → Option (Target × List Token)
  | 0, _ => none
  | fuel + 1, ts =>
    match ts with
    | .word w :: ts => if isReserved w then none else some (.name w, ts)
    | .mark .openParen :: ts => do
      let (target, ts) ← readTarget fuel ts
      let ts ← skipMark? .closeParen ts
      return (target, ts)
    | _ => none

end

/-- The target, source and condition of a loop. -/
def readLoopHead (depth : Nat) (ts : List Token) : Option (Target × Expr × Option Expr) := do
  let (target, ts) ← readTarget (3 * ts.length + 3) ts
  match ts with
  | .word "in" :: ts =>
    -- a condition is no choice, so the source stops short of it
    let (source, ts) ← readLevel (exprFuel ts) depth 0 ts
    match ts with
    | [] => return (target, source, none)
    | .word "if" :: ts => return (target, source, some (← wholeExpr? depth ts))
    | _ => none
  | _ => none

/-- Filters that follow one another and take up all the tokens. -/
def readFilterCalls (depth : Nat) : Nat → List Token → Option (List FilterCall)
  | 0, _ => none
  | fuel + 1, ts =>
    match ts with
    | .word name :: ts => do
      let (args, ts) ← readOptionalArgs (exprFuel ts) depth ts
      match ts with
      | [] => return [(name, args)]
      | .mark .bar :: ts => return (name, args) :: (← readFilterCalls depth fuel ts)
      | _ => none
    | _ => none

mutual

/-- The nodes up to a tag that ends or divides a body: the nodes, that tag if there
is one, and the pieces after it. -/
def readNodes : Nat → Nat → List Piece →
    Option (List Node × Option (String × List Token) × List Piece)
  | 0, _, _ => none
  | fuel + 1, depth, pieces =>
    match pieces with
    | [] => some ([], none, [])
    | .text s :: more => do
      let (nodes, stop, rest) ← readNodes fuel depth more
      return (.text s :: nodes, stop, rest)
    | .output tokens :: more => do
      let e ← wholeExpr? depth tokens
      let (nodes, stop, rest) ← readNodes fuel depth more
      return (.output e :: nodes, stop, rest)
    | .tag (.word w :: tokens) :: more =>
      if isDivider w then some ([], some (w, tokens), more)
      else if maxDepth ≤ depth then none
      else do
        let (node, rest) ← readTag fuel (depth + 1) w tokens more
        let (nodes, stop, rest) ← readNodes fuel depth rest
        return (node :: nodes, stop, rest)
    | .tag _ :: _ => none

/-- A node that starts with a tag, and the pieces after it. -/
def readTag : Nat → Nat → String → List Token → List Piece → Option (Node × List Piece)
  | 0, _, _, _, _ => none
  | fuel + 1, depth, w, tokens, pieces =>
    if w = "for" then do
      let (target, source, condition) ← readLoopHead depth tokens
      let (body, stop, rest) ← readNodes fuel depth pieces
      match stop with
      | some ("endfor", []) => return (.loop target source condition body [], rest)
      | some ("else", []) =>
        let (otherwise, stop, rest) ← readNodes fuel depth rest
        match stop with
        | some ("endfor", []) => return (.loop target source condition body otherwise, rest)
        | _ => none
      | _ => none
    else if w = "if" then readBranch fuel depth tokens pieces
    else if w = "set" then
      match tokens with
      | [.word name] => readCapture fuel depth name [] pieces
      | .word name :: .mark .bar :: tokens => do
        let filters ← readFilterCalls depth (tokens.length + 1) tokens
        readCapture fuel depth name filters pieces
      | tokens => do
        let (target, tokens) ← readSingleTarget (3 * tokens.length + 3) tokens
        let tokens ← skipMark? .assign tokens
        let e ← wholeExpr? depth tokens
        return (.assign target e, pieces)
    else none

/-- The body whose text is given a name, and the pieces after it. -/
def readCapture : Nat → Nat → String → List FilterCall → List Piece → Option (Node × List Piece)
  | 0, _, _, _, _ => none
  | fuel + 1, depth, name, filters, pieces => do
    let (body, stop, rest) ← readNodes fuel depth pieces
    match stop with
    | some ("endset", []) =>
      if isReserved name then none else return (.capture name filters body, rest)
    | _ => none

/-- A choice after its condition, with the further conditions and the alternative
that belong to it. -/
def readBranch : Nat → Nat → List Token → List Piece → Option (Node × List Piece)
  | 0, _, _, _ => none
  | fuel + 1, depth, tokens, pieces => do
    let condition ← wholePlainExpr? depth tokens
    let (yes, stop, rest) ← readNodes fuel depth pieces
    match stop with
    | some ("endif", []) => return (.branch condition yes [], rest)
    | some ("else", []) =>
      let (no, stop, rest) ← readNodes fuel depth rest
      match stop with
      | some ("endif", []) => return (.branch condition yes no, rest)
      | _ => none
    | some ("elif", tokens) =>
      let (no, rest) ← readBranch fuel depth tokens rest
      return (.branch condition yes [no], rest)
    | _ => none

end

/-- The nodes of a template, unless it is malformed. -/
def parse? (source : String) : Option (List Node) := do
  let pieces ← pieces? source
  match readNodes (4 * pieces.length + 4) 0 pieces with
  | some (nodes, none, _) => return nodes
  | _ => none

end TreeSmith.Template
