import TreeSmith.Definition.Bindings

/-!
# The built-in template

The template that writes a family's module when no other one is set: the lines that
import, the visitor, the base type, and for each node type its structure, its
constructor, its accessors and its part of the base type.

## Main definitions

* `moduleTemplate` — the template.
-/

namespace TreeSmith

/-- A place in a template where a value is written. -/
def Template.slot (expr : String) : String :=
  "\x7b\x7b " ++ expr ++ " \x7d\x7d"

/-- A block tag in a template. -/
def Template.tag (words : String) : String :=
  "\x7b% " ++ words ++ " %\x7d"

open Template (slot tag)

/-- What a module starts with: its comment, the imports, the visitor and the base
type. -/
def moduleHead : List String :=
  [ "// " ++ slot "base_name" ++ " syntax tree nodes.",
    "//",
    "// Generated by generate-ast. Do not edit; change the schema definitions and",
    "// regenerate instead.",
    "",
    tag "for line in imports",
    "use " ++ slot "line" ++ ";",
    tag "endfor",
    tag "for line in includes",
    "use " ++ slot "line" ++ ";",
    tag "endfor",
    "",
    "/// Visitor over every `" ++ slot "base_name" ++ "` node type.",
    "pub trait " ++ slot "visitor_name" ++ " \x7b",
    tag "for def in type_definitions",
    "    fn " ++ slot "def.visit_method" ++ "(&mut self, " ++ slot "visitor_param" ++ ": &" ++
      slot "def.name" ++ ");",
    tag "endfor",
    "\x7d",
    "",
    "/// Base type of the `" ++ slot "base_name" ++ "` family.",
    "pub trait " ++ slot "base_name" ++ ": std::fmt::Debug \x7b",
    "    fn accept(&self, visitor: &mut dyn " ++ slot "visitor_name" ++ ");",
    "\x7d" ]

/-- What a module has for each node type. -/
def moduleTypes : List String :=
  [ tag "for def in type_definitions",
    "",
    "#[derive(Debug)]",
    "pub struct " ++ slot "def.name" ++ " \x7b",
    tag "for slot in def.storage",
    "    " ++ slot "slot.name" ++ ": " ++ slot "slot.ty" ++ ",",
    tag "endfor",
    "\x7d",
    "",
    "impl " ++ slot "def.name" ++ " \x7b",
    "    pub fn new(" ++ tag "for param in def.params" ++ slot "param.name" ++ ": " ++
      slot "param.ty" ++ tag "if not loop.last" ++ ", " ++ tag "endif" ++ tag "endfor" ++
      ") -> Self \x7b",
    "        Self \x7b " ++ slot "def.initializers | join(\", \")" ++ " \x7d",
    "    \x7d",
    tag "for accessor in def.accessors",
    "",
    "    pub fn " ++ slot "accessor.name" ++ "(&self) -> " ++ slot "accessor.return_type" ++
      " \x7b",
    "        " ++ slot "accessor.body",
    "    \x7d",
    tag "endfor",
    "\x7d",
    "",
    "impl " ++ slot "base_name" ++ " for " ++ slot "def.name" ++ " \x7b",
    "    fn accept(&self, visitor: &mut dyn " ++ slot "visitor_name" ++ ") \x7b",
    "        visitor." ++ slot "def.visit_method" ++ "(self);",
    "    \x7d",
    "\x7d",
    tag "endfor" ]

/-- The template of a family's module. -/
def moduleTemplate : String :=
  String.join ((moduleHead ++ moduleTypes).map (· ++ "\n"))

end TreeSmith
