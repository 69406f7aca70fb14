import TreeSmith.Pattern.CharSet

/-!
# Patterns

Regular patterns for names.  A pattern is tried at a place of a text and yields the
places at which it can end; it is found in a text if it can end anywhere when tried
at some place.

## Main definitions

* `Pattern` — the patterns.
* `Place` — a place of a text.
* `Pattern.ends` — the places at which a pattern can end.
* `Pattern.isFoundIn` — the search.
-/

namespace TreeSmith

/-- A regular pattern. -/
inductive Pattern
  /-- Nothing. -/
  | empty
  /-- One character of a set; `fold` ignores letter case. -/
  | oneOf (fold : Bool) (set : Pattern.CharSet)
  /-- The start of the text, or with `lines` of a line. -/
  | start (lines : Bool)
  /-- The end of the text, or with `lines` of a line. -/
  | finish (lines : Bool)
  /-- A place where words start or end. -/
  | wordEdge
  /-- A place where no word starts or ends. -/
  | noWordEdge
  /-- A place where a word starts. -/
  | wordStart
  /-- A place where a word ends. -/
  | wordEnd
  /-- A pattern in parentheses whose place is kept. -/
  | group (a : Pattern)
  /-- One pattern after another. -/
  | seq (a b : Pattern)
  /-- One of two patterns. -/
  | either (a b : Pattern)
  /-- A pattern from `least` to `most` times, or any number of times from `least`. -/
  | times (least : Nat) (most : Option Nat) (a : Pattern)
  deriving DecidableEq, Repr

namespace Pattern

/-- A place of a text: the character before it and all characters after it. -/
structure Place where
  /-- The character before, if there is one. -/
  before : Option Char
  /-- The characters after. -/
  after : List Char
  deriving DecidableEq, Repr

/-- The start of a text. -/
def Place.ofText (s : String) : Place := ⟨none, s.toList⟩

/-- The character before the place belongs to a word. -/
def Place.afterWord (p : Place) : Bool := p.before.any Text.isWord

/-- The character after the place belongs to a word. -/
def Place.beforeWord (p : Place) : Bool := p.after.head?.any Text.isWord

/-- All places from one on. -/
def placesFrom (before : Option Char) : List Char → List Place
  | [] => [⟨before, []⟩]
  | c :: cs => ⟨before, c :: cs⟩ :: placesFrom (some c) cs

/-- The place itself where a condition holds. -/
def Place.only (p : Place) (condition : Bool) : List Place :=
  if condition then [p] else []

/-- The places of a list, each once; places of one text differ in what is after
them. -/
def onePlaceEach (places : List Place) : List Place :=
  places.foldr (fun p kept => if kept.any (·.after.length == p.after.length) then kept
    else p :: kept) []

/-- The places after `n` steps. -/
def afterSteps (step : Place → List Place) : Nat → List Place → List Place
  | 0, places => places
  | n + 1, places => afterSteps step n (onePlaceEach (places.flatMap step))

/-- The places after at most `n` steps. -/
def withinSteps (step : Place → List Place) : Nat → List Place → List Place
  | 0, places => places
  | n + 1, places => withinSteps step n (onePlaceEach (places ++ places.flatMap step))

/-- The places at which a pattern can end when it is tried at a place.  A pattern
that is repeated without limit needs no more steps than there are characters. -/
def ends : Pattern → Place → List Place
  | .empty, p => [p]
  | .oneOf fold set, p =>
    match p.after with
    | [] => []
    | c :: cs => if set.has fold c then [⟨some c, cs⟩] else []
  | .start lines, p => p.only (p.before.all fun c => lines && c == '\n')
  | .finish lines, p => p.only (p.after.head?.all fun c => lines && c == '\n')
  | .wordEdge, p => p.only (p.afterWord != p.beforeWord)
  | .noWordEdge, p => p.only (p.afterWord == p.beforeWord)
  | .wordStart, p => p.only (!p.afterWord && p.beforeWord)
  | .wordEnd, p => p.only (p.afterWord && !p.beforeWord)
  | .group a, p => a.ends p
  | .seq a b, p => onePlaceEach ((a.ends p).flatMap b.ends)
  | .either a b, p => onePlaceEach (a.ends p ++ b.ends p)
  | .times least most a, p =>
    let more :=
      match most with
      | some n => min (n - least) p.after.length
      | none => p.after.length
    withinSteps a.ends more (afterSteps a.ends least [p])

/-- The pattern is found somewhere in a text. -/
def isFoundIn (a : Pattern) (s : String) : Bool :=
  (placesFrom none s.toList).any fun p => !(a.ends p).isEmpty

end Pattern

end TreeSmith
