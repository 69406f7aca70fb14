/-!
# Names in the generated code

Which names a schema may use, and the names that are derived from them: visitor
methods, module files and visitor parameters.  Only ASCII letters have a case
here, since every valid name is ASCII.

## Main definitions

* `isIdentifier`, `isReserved`, `isBuiltinType`, `isGeneratedMember`,
  `isReservedFamily` — the checks.
* `snakeCase` — the lower-case form with underscores between words.
* `visitMethod`, `artifactFile` — the names derived from it.
-/

namespace TreeSmith.Name

/-- The words of the target language that name nothing. -/
def reservedWords : List String :=
  ["as", "async", "await", "break", "const", "continue", "crate", "dyn", "else", "enum",
   "extern", "false", "fn", "for", "if", "impl", "in", "let", "loop", "match", "mod", "move",
   "mut", "pub", "ref", "return", "self", "Self", "static", "struct", "super", "trait", "true",
   "type", "unsafe", "use", "where", "while", "abstract", "become", "box", "do", "final",
   "macro", "override", "priv", "try", "typeof", "unsized", "virtual", "yield"]

/-- The members that every generated node type has besides its accessors. -/
def generatedMembers : List String :=
  ["new", "accept"]

/-- The types that a generated module uses without declaring them. -/
def builtinTypes : List String :=
  ["Box", "Rc", "Vec", "Option", "Result", "NullChildError"]

/-- The character may start an identifier. -/
def isStart (c : Char) : Bool :=
  c.isAlpha || c = '_'

/-- The character may stand inside an identifier. -/
def isPart (c : Char) : Bool :=
  c.isAlphanum || c = '_'

/-- A letter or underscore followed by letters, digits and underscores, and not
the underscore alone. -/
def isIdentifierChars : List Char → Bool
  | [] => false
  | c :: cs => isStart c && cs.all isPart && !(c = '_' && cs.isEmpty)

/-- The name is an identifier of the target language, reserved or not. -/
def isIdentifier (name : String) : Bool :=
  isIdentifierChars name.toList

theorem isPart_of_isStart {c : Char} (h : isStart c = true) : isPart c = true := by
  unfold isStart at h
  unfold isPart Char.isAlphanum
  rw [Bool.or_eq_true] at h ⊢
  rcases h with halpha | hscore
  · left
    rw [halpha, Bool.true_or]
  · right
    exact hscore

theorem toList_ne_nil_of_isIdentifier {name : String} (h : isIdentifier name = true) :
    name.toList ≠ [] := by
  intro hname
  unfold isIdentifier at h
  rw [hname] at h
  cases h

theorem isPart_of_isIdentifier {name : String} (h : isIdentifier name = true) :
    ∀ c ∈ name.toList, isPart c = true := by
  unfold isIdentifier at h
  cases hname : name.toList with
  | nil => simp
  | cons c cs =>
    rw [hname, isIdentifierChars, Bool.and_eq_true, Bool.and_eq_true, List.all_eq_true] at h
    obtain ⟨⟨hstart, hparts⟩, -⟩ := h
    intro d hd
    rcases List.mem_cons.mp hd with rfl | hd
    · exact isPart_of_isStart hstart
    · exact hparts d hd

/-- The name is a reserved word. -/
def isReserved (name : String) : Bool :=
  reservedWords.contains name

/-- A field of this name would clash with a member of the node type. -/
def isGeneratedMember (name : String) : Bool :=
  generatedMembers.contains name

/-- The name hides a type that the generated module uses. -/
def isBuiltinType (name : String) : Bool :=
  builtinTypes.contains name

/-- Snake case from left to right: a capital letter becomes small, with an
underscore in front of it when `small` says that a small letter or digit came
before; a hyphen or space becomes an underscore. -/
def snakeFrom (small : Bool) : List Char → List Char
  | [] => []
  | c :: cs =>
    if c.isUpper then
      if small then '_' :: c.toLower :: snakeFrom false cs else c.toLower :: snakeFrom false cs
    else if c = '-' || c = ' ' then '_' :: snakeFrom false cs
    else c :: snakeFrom (c.isLower || c.isDigit) cs

/-- A name in small letters, with underscores between its words. -/
def snakeCase (name : String) : String :=
  String.ofList (snakeFrom false name.toList)

/-- The module or the visitor parameter of a family of this name would be a
reserved word. -/
def isReservedFamily (name : String) : Bool :=
  isReserved name || isReserved (snakeCase name)

/-- The visitor method for a node type of a family. -/
def visitMethod (nodeType base : String) : String :=
  "visit_" ++ snakeCase nodeType ++ "_" ++ snakeCase base

/-- The file that holds the module of a family. -/
def artifactFile (family : String) : String :=
  snakeCase family ++ ".rs"

end TreeSmith.Name
