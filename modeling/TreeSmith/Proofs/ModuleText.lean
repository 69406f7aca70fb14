import TreeSmith.Proofs.Imports
import TreeSmith.Proofs.TemplateLayout

/-!
# The text of a module

What the built-in template writes, line by line.  A module is printed directly from the
texts in its bindings, whatever these are: the comment, the imports, the visitor, the
base type, and for each node type its structure, constructor and accessors.  Rendering
the template never fails and gives exactly that text.

The template is read through its layout (`moduleLayout`), and a layout is rendered part
by part.

## Main definitions

* `ModuleText`, `Bindings.texts` — the texts in the bindings of a module.
* `ModuleText.print` — the direct printer.
* `moduleLayout` — the layout of the built-in template.

## Main results

* `parse?_moduleTemplate` — the nodes of the template are those of its layout.
* `join_mapIdx_separated` — the inline loop over parameters puts commas between them.
* `ModuleText.render_eq` — the template is rendered as the direct printer prints.
* `ModuleText.render_moduleTemplate` — **the text of every module.**
-/

namespace TreeSmith

/-! ### Texts -/

/-- A slot or parameter in texts. -/
structure SlotText where
  /-- Its name. -/
  name : String
  /-- Its type. -/
  type : String
  deriving DecidableEq, Repr

/-- An accessor in texts. -/
structure AccessorText where
  /-- Its name. -/
  name : String
  /-- What it returns. -/
  returnType : String
  /-- Its body. -/
  body : String
  /-- It may fail. -/
  checked : Bool
  deriving DecidableEq, Repr

/-- The definition of a node type in texts. -/
structure TypeText where
  /-- Its name. -/
  name : String
  /-- The base type of its family. -/
  baseName : String
  /-- Its method of the visitor. -/
  visitMethod : String
  /-- The parameters of its constructor. -/
  params : List SlotText
  /-- What its constructor fills the slots with. -/
  initializers : List String
  /-- Its slots. -/
  storage : List SlotText
  /-- Its accessors. -/
  accessors : List AccessorText
  deriving DecidableEq, Repr

/-- The bindings of a module in texts, which may be any texts. -/
structure ModuleText where
  /-- The base type of the family. -/
  baseName : String
  /-- The visitor of the family. -/
  visitorName : String
  /-- The name of the parameter of visitor methods. -/
  visitorParam : String
  /-- The imports for its fields. -/
  imports : List String
  /-- The imports of types from included families. -/
  includes : List String
  /-- The definitions of its node types. -/
  types : List TypeText
  deriving DecidableEq, Repr

/-- A slot in a template. -/
def SlotText.value (s : SlotText) : Template.Value :=
  .record [("name", .text s.name), ("ty", .text s.type)]

/-- An accessor in a template. -/
def AccessorText.value (a : AccessorText) : Template.Value :=
  .record [("name", .text a.name), ("return_type", .text a.returnType), ("body", .text a.body),
    ("checked", .bool a.checked)]

/-- The definition of a node type in a template. -/
def TypeText.value (t : TypeText) : Template.Value :=
  .record [("name", .text t.name), ("base_name", .text t.baseName),
    ("visit_method", .text t.visitMethod), ("params", .list (t.params.map (·.value))),
    ("initializers", .texts t.initializers), ("storage", .list (t.storage.map (·.value))),
    ("accessors", .list (t.accessors.map (·.value)))]

/-- The names that a template may use. -/
def ModuleText.frame (m : ModuleText) : Template.Frame :=
  [("base_name", .text m.baseName), ("visitor_name", .text m.visitorName),
    ("visitor_param", .text m.visitorParam), ("imports", .texts m.imports),
    ("includes", .texts m.includes), ("type_definitions", .list (m.types.map (·.value)))]

/-- A slot with its type written out. -/
def Slot.texts (s : Slot) : SlotText :=
  ⟨s.name, s.type.text⟩

/-- An accessor with its types and body written out. -/
def Accessor.texts (a : Accessor) : AccessorText :=
  ⟨a.name, a.returnType.text, a.body.text, a.checked⟩

/-- A definition with all parts written out. -/
def TypeDefinition.texts (d : TypeDefinition) : TypeText :=
  ⟨d.name, d.baseName, d.visitMethod, d.params.map (·.texts), d.initializers,
    d.storage.map (·.texts), d.accessors.map (·.texts)⟩

/-- Bindings with all parts written out. -/
def Bindings.texts (b : Bindings) : ModuleText :=
  ⟨b.baseName, b.visitorName, b.visitorParam, b.imports, b.includes, b.types.map (·.texts)⟩

theorem TypeDefinition.value_texts (d : TypeDefinition) : d.texts.value = d.value := by
  simp only [TypeText.value, TypeDefinition.texts, TypeDefinition.value, List.map_map]
  rfl

/-- Bindings give a template the same names as their texts. -/
theorem Bindings.frame_texts (b : Bindings) : b.texts.frame = b.frame := by
  have htypes : (b.types.map (·.texts)).map (·.value) = b.types.map (·.value) := by
    rw [List.map_map]
    exact List.map_congr_left fun d _ => d.value_texts
  simp only [ModuleText.frame, Bindings.texts, Bindings.frame, htypes]

/-! ### The direct printer -/

/-- Lines, each with a line feed after it. -/
def unlines (lines : List String) : String :=
  String.join (lines.map (· ++ "\n"))

@[simp] theorem unlines_nil : unlines [] = "" := rfl

theorem unlines_cons (line : String) (lines : List String) :
    unlines (line :: lines) = line ++ ("\n" ++ unlines lines) := by
  rw [unlines, List.map_cons, String.join_cons, String.append_assoc, unlines]

theorem unlines_append (lines more : List String) :
    unlines (lines ++ more) = unlines lines ++ unlines more := by
  rw [unlines, List.map_append, String.join_append, unlines, unlines]

theorem unlines_map {α : Type} (f : α → String) (items : List α) :
    unlines (items.map f) = String.join (items.map fun a => unlines [f a]) := by
  induction items with
  | nil => rfl
  | cons a items ih =>
    rw [List.map_cons, ← List.singleton_append, unlines_append, ih, List.map_cons,
      String.join_cons]

theorem unlines_flatMap {α : Type} (f : α → List String) (items : List α) :
    unlines (items.flatMap f) = String.join (items.map fun a => unlines (f a)) := by
  induction items with
  | nil => rfl
  | cons a items ih =>
    rw [List.flatMap_cons, unlines_append, ih, List.map_cons, String.join_cons]

/-- A slot of a structure. -/
def SlotText.line (s : SlotText) : String :=
  "    " ++ s.name ++ ": " ++ s.type ++ ","

/-- A parameter of a constructor. -/
def SlotText.param (s : SlotText) : String :=
  s.name ++ ": " ++ s.type

/-- An accessor, with an empty line before it. -/
def AccessorText.lines (a : AccessorText) : List String :=
  [ "",
    "    pub fn " ++ a.name ++ "(&self) -> " ++ a.returnType ++ " \x7b",
    "        " ++ a.body,
    "    \x7d" ]

/-- The method of the visitor for a node type. -/
def TypeText.method (t : TypeText) (visitorParam : String) : String :=
  "    fn " ++ t.visitMethod ++ "(&mut self, " ++ visitorParam ++ ": &" ++ t.name ++ ");"

/-- The structure of a node type, its constructor and accessors, and its part of the
base type. -/
def TypeText.lines (t : TypeText) (baseName visitorName : String) : List String :=
  [ "",
    "#[derive(Debug)]",
    "pub struct " ++ t.name ++ " \x7b" ] ++
  t.storage.map (·.line) ++
  [ "\x7d",
    "",
    "impl " ++ t.name ++ " \x7b",
    "    pub fn new(" ++ ", ".intercalate (t.params.map (·.param)) ++ ") -> Self \x7b",
    "        Self \x7b " ++ ", ".intercalate t.initializers ++ " \x7d",
    "    \x7d" ] ++
  t.accessors.flatMap (·.lines) ++
  [ "\x7d",
    "",
    "impl " ++ baseName ++ " for " ++ t.name ++ " \x7b",
    "    fn accept(&self, visitor: &mut dyn " ++ visitorName ++ ") \x7b",
    "        visitor." ++ t.visitMethod ++ "(self);",
    "    \x7d",
    "\x7d" ]

/-- The lines of a module. -/
def ModuleText.lines (m : ModuleText) : List String :=
  [ "// " ++ m.baseName ++ " syntax tree nodes.",
    "//",
    "// Generated by generate-ast. Do not edit; change the schema definitions and",
    "// regenerate instead.",
    "" ] ++
  m.imports.map (fun line => "use " ++ line ++ ";") ++
  m.includes.map (fun line => "use " ++ line ++ ";") ++
  [ "",
    "/// Visitor over every `" ++ m.baseName ++ "` node type.",
    "pub trait " ++ m.visitorName ++ " \x7b" ] ++
  m.types.map (·.method m.visitorParam) ++
  [ "\x7d",
    "",
    "/// Base type of the `" ++ m.baseName ++ "` family.",
    "pub trait " ++ m.baseName ++ ": std::fmt::Debug \x7b",
    "    fn accept(&self, visitor: &mut dyn " ++ m.visitorName ++ ");",
    "\x7d" ] ++
  m.types.flatMap (·.lines m.baseName m.visitorName)

/-- The text of a module. -/
def ModuleText.print (m : ModuleText) : String :=
  unlines m.lines

namespace Template

/-! ### Rendering layouts -/

/-- In a scope, the nodes of a layout are written as this text and set no name. -/
def Layout.Renders (l : Layout) (scope : Scope) (text : String) : Prop :=
  renderNodes scope l.nodes = .ok (scope, text)

theorem renderNodes_textNode (scope : Scope) (text : String) (more : List Node) :
    renderNodes scope (Layout.textNode text ++ more) = (do
      let (scope, rest) ← renderNodes scope more
      return (scope, text ++ rest)) := by
  by_cases htext : text = ""
  · simp only [htext, Layout.textNode, if_true, List.nil_append, String.empty_append]
    cases renderNodes scope more <;> rfl
  · simp only [Layout.textNode, htext, if_false, List.singleton_append, renderNodes, renderNode]
    rfl

/-- A loop writes its body once for each item in order. -/
theorem repeatBody_map {α : Type} {body : Scope → Except Fault (Scope × String)} {x : String}
    {outer : Scope} {count : Option Nat} (f : α → Value) (g : Nat → α → String) (items : List α)
    (index : Nat) (previous : Value)
    (h : ∀ (k : Nat) (a : α) (before after : Value), items[k]? = some a →
      ∃ inner, body ([(x, f a), ("loop", .place (index + k) count before after)] :: outer) =
        .ok (inner, g k a)) :
    repeatBody body (.name x) outer count index previous (items.map f) =
      .ok (String.join (items.mapIdx g)) := by
  -- the items before the current one only show in the index and in what was last
  induction items generalizing index previous g with
  | nil => rfl
  | cons a items ih =>
    obtain ⟨inner, hfirst⟩ := h 0 a previous ((items.map f).headD .undefined) rfl
    rw [Nat.add_zero] at hfirst
    have hrest := ih (fun k => g (k + 1)) (index + 1) (f a) (fun k b before after hb => by
      have hbody := h (k + 1) b before after (by simpa using hb)
      rwa [show index + (k + 1) = index + 1 + k by omega] at hbody)
    simp only [List.map_cons, repeatBody, Target.bind, ok_bind, List.mapIdx_cons,
      String.join_cons, List.singleton_append, hfirst, hrest]
    rfl

namespace Layout.Renders

variable {scope : Scope} {text u v : String} {rest body : Layout} {p : Phrase}

theorem of_eq {l : Layout} (h : l.Renders scope u) (htext : u = v) : l.Renders scope v :=
  htext ▸ h

theorem stop (scope : Scope) (text : String) : (Layout.stop text).Renders scope text := by
  have htext := renderNodes_textNode scope text []
  rw [List.append_nil] at htext
  rw [Layout.Renders, Layout.nodes, htext, renderNodes, ok_bind]
  simp only [String.append_empty]
  rfl

/-- A text and a node that sets no name, and what is written after them. -/
theorem of_node {node : Node} {more : List Node} (hnode : renderNode scope node = .ok (scope, v))
    (hmore : renderNodes scope more = .ok (scope, u)) :
    renderNodes scope (Layout.textNode text ++ node :: more) = .ok (scope, text ++ (v ++ u)) := by
  rw [renderNodes_textNode, renderNodes, hnode, ok_bind]
  dsimp only
  rw [hmore]
  rfl

/-- A text, and the text that an expression stands for. -/
theorem output (hp : p.expr.eval scope = .ok (.text v)) (hrest : rest.Renders scope u) :
    (Layout.output text p rest).Renders scope (text ++ (v ++ u)) := by
  refine of_node ?_ hrest
  rw [renderNode, hp]
  rfl

/-- A text, and a body for each item of a list. -/
theorem loop {α : Type} {x : String} {hx : isVariable x = true} {opened closed : TagEnd}
    {items : List α} {f : α → Value} {g : Nat → α → String}
    (hp : p.expr.eval scope = .ok (.list (items.map f)))
    (hbody : ∀ (k : Nat) (a : α) (before after : Value), items[k]? = some a →
      body.Renders ([(x, f a), ("loop", .place k (some items.length) before after)] :: scope)
        (g k a))
    (hrest : rest.Renders scope u) :
    (Layout.block text (.loop x p hx) opened body closed rest).Renders scope
      (text ++ (String.join (items.mapIdx g) ++ u)) := by
  have hrepeat : repeatBody (fun inner => renderNodes inner body.nodes) (.name x) scope
      (some items.length) 0 .undefined (items.map f) = .ok (String.join (items.mapIdx g)) := by
    apply repeatBody_map f g
    intro k a before after hk
    rw [Nat.zero_add]
    exact ⟨_, hbody k a before after hk⟩
  have hitems : loopItems scope (.name x) p.expr none =
      .ok ⟨items.map f, some items.length⟩ := by
    simp [loopItems, hp, LoopItems.of, Value.items?]
  refine of_node ?_ hrest
  show renderNode scope (.loop (.name x) p.expr none body.nodes []) = _
  rw [renderNode, hitems, ok_bind]
  -- without items the other body is written, and there is none
  cases items with
  | nil => rfl
  | cons a items =>
    simp only [List.map_cons, List.isEmpty_cons] at hrepeat ⊢
    rw [hrepeat]
    rfl

/-- A text, and a body for each item that does not ask for its place. -/
theorem each {α : Type} {x : String} {hx : isVariable x = true} {opened closed : TagEnd}
    {items : List α} {f : α → Value} {g : α → String}
    (hp : p.expr.eval scope = .ok (.list (items.map f)))
    (hbody : ∀ (a : α) (place : Value), body.Renders ([(x, f a), ("loop", place)] :: scope) (g a))
    (hrest : rest.Renders scope u) :
    (Layout.block text (.loop x p hx) opened body closed rest).Renders scope
      (text ++ (String.join (items.map g) ++ u)) := by
  have hmap : items.mapIdx (fun _ => g) = items.map g := by
    apply List.ext_getElem?
    intro k
    simp
  rw [← hmap]
  exact loop hp (fun k a before after _ => hbody a _) hrest

/-- A text, and a body under a condition. -/
theorem branch {opened closed : TagEnd} {b : Bool} (hp : p.expr.eval scope = .ok (.bool b))
    (hbody : body.Renders scope v) (hrest : rest.Renders scope u) :
    (Layout.block text (.branch p) opened body closed rest).Renders scope
      (text ++ ((if b then v else "") ++ u)) := by
  refine of_node ?_ hrest
  show renderNode scope (.branch p.expr body.nodes []) = _
  rw [renderNode, hp, ok_bind]
  cases b with
  | false => rfl
  | true => exact hbody

end Layout.Renders

/-! ### The layout of the built-in template -/

/-- A line that imports. -/
def useLayout : Layout :=
  .output "use " (.name "line") <|
  .stop (unlines [";"])

/-- A method of the visitor. -/
def methodLayout : Layout :=
  .output "    fn " (.member "def" "visit_method") <|
  .output "(&mut self, " (.name "visitor_param") <|
  .output ": &" (.member "def" "name") <|
  .stop (unlines [");"])

/-- A slot of a structure. -/
def slotLayout : Layout :=
  .output "    " (.member "slot" "name") <|
  .output ": " (.member "slot" "ty") <|
  .stop (unlines [","])

/-- A parameter, with a comma after it unless it is the last one. -/
def paramLayout : Layout :=
  .output "" (.member "param" "name") <|
  .output ": " (.member "param" "ty") <|
  .block "" (.branch (.notMember "loop" "last")) .within (.stop ", ") .within <|
  .stop ""

/-- An accessor. -/
def accessorLayout : Layout :=
  .output (unlines [""] ++ "    pub fn ") (.member "accessor" "name") <|
  .output "(&self) -> " (.member "accessor" "return_type") <|
  .output (unlines [" \x7b"] ++ "        ") (.member "accessor" "body") <|
  .stop (unlines ["", "    \x7d"])

/-- What a module has for each node type. -/
def typeLayout : Layout :=
  .output (unlines ["", "#[derive(Debug)]"] ++ "pub struct ") (.member "def" "name") <|
  .block (unlines [" \x7b"]) (.loop "slot" (.member "def" "storage")) .line slotLayout .line <|
  .output (unlines ["\x7d", ""] ++ "impl ") (.member "def" "name") <|
  .block (unlines [" \x7b"] ++ "    pub fn new(") (.loop "param" (.member "def" "params")) .within
    paramLayout .within <|
  .output (unlines [") -> Self \x7b"] ++ "        Self \x7b ") (.joined "def" "initializers") <|
  .block (unlines [" \x7d", "    \x7d"]) (.loop "accessor" (.member "def" "accessors")) .line
    accessorLayout .line <|
  .output (unlines ["\x7d", ""] ++ "impl ") (.name "base_name") <|
  .output " for " (.member "def" "name") <|
  .output (unlines [" \x7b"] ++ "    fn accept(&self, visitor: &mut dyn ") (.name "visitor_name") <|
  .output (unlines [") \x7b"] ++ "        visitor.") (.member "def" "visit_method") <|
  .stop (unlines ["(self);", "    \x7d", "\x7d"])

/-- A module. -/
def moduleLayout : Layout :=
  .output "// " (.name "base_name") <|
  .block (unlines [" syntax tree nodes.", "//",
      "// Generated by generate-ast. Do not edit; change the schema definitions and",
      "// regenerate instead.", ""])
    (.loop "line" (.name "imports")) .line useLayout .line <|
  .block "" (.loop "line" (.name "includes")) .line useLayout .line <|
  .output (unlines [""] ++ "/// Visitor over every `") (.name "base_name") <|
  .output (unlines ["` node type."] ++ "pub trait ") (.name "visitor_name") <|
  .block (unlines [" \x7b"]) (.loop "def" (.name "type_definitions")) .line methodLayout .line <|
  .output (unlines ["\x7d", ""] ++ "/// Base type of the `") (.name "base_name") <|
  .output (unlines ["` family."] ++ "pub trait ") (.name "base_name") <|
  .output (unlines [": std::fmt::Debug \x7b"] ++ "    fn accept(&self, visitor: &mut dyn ")
    (.name "visitor_name") <|
  .block (unlines [");", "\x7d"]) (.loop "def" (.name "type_definitions")) .line typeLayout
    .within <|
  .stop ""

-- the two texts are compared as lists of characters, which are nested as deep as they are long
set_option maxRecDepth 20000 in
theorem moduleTemplate_eq_source : moduleTemplate = moduleLayout.source ++ "\n" := by
  apply String.toList_inj.1
  simp only [moduleTemplate, moduleHead, moduleTypes, moduleLayout, typeLayout, accessorLayout,
    paramLayout, slotLayout, methodLayout, useLayout, Layout.source, unlines, slot, tag,
    List.map_cons, List.map_nil, List.cons_append, List.nil_append, String.join_cons,
    String.join_nil, String.toList_append, Phrase.name, Phrase.member, Phrase.joined,
    Phrase.notMember, Head.loop, Head.branch, TagEnd.text]
  repeat rw [String.toList_ofList]
  rfl

set_option maxRecDepth 4000 in
theorem valid_moduleLayout : moduleLayout.Valid := by
  simp only [moduleLayout, typeLayout, accessorLayout, paramLayout, slotLayout, methodLayout,
    useLayout, Layout.Valid, Layout.start, unlines, List.map_cons, List.map_nil,
    String.join_cons, String.join_nil, String.toList_append]
  repeat rw [String.toList_ofList]
  and_intros <;> decide

/-- The nodes of the built-in template are those of its layout. -/
theorem parse?_moduleTemplate : parse? moduleTemplate = some moduleLayout.nodes := by
  rw [moduleTemplate_eq_source]
  exact moduleLayout.parse?_source valid_moduleLayout (by decide) (by decide)

/-! ### Separators -/

/-- A separator after each text but the last one puts them between the texts. -/
theorem join_mapIdx_separated {α : Type} (separator : String) (f : α → String) (items : List α) :
    String.join (items.mapIdx fun k a =>
      f a ++ if !(some items.length == some (k + 1)) then separator else "") =
      separator.intercalate (items.map f) := by
  induction items with
  | nil => rfl
  | cons a items ih =>
    have hrest : (items.mapIdx fun k b =>
        f b ++ if !(some (a :: items).length == some (k + 1 + 1)) then separator else "") =
        items.mapIdx fun k b =>
          f b ++ if !(some items.length == some (k + 1)) then separator else "" := by
      simp
    rw [List.mapIdx_cons, String.join_cons, hrest, ih]
    cases items with
    | nil => simp
    | cons next items =>
      simp only [List.map_cons, String.intercalate_cons_cons]
      simp

/-! ### Rendering the layout -/

/-- The names in sight of the built-in template. -/
def moduleScope (m : ModuleText) : Scope :=
  [[], m.frame]

theorem renders_useLayout (line : String) (place : Value) (scope : Scope) :
    useLayout.Renders ([("line", .text line), ("loop", place)] :: scope)
      (unlines ["use " ++ line ++ ";"]) := by
  apply Layout.Renders.of_eq (.output rfl (.stop _ _))
  simp only [unlines_cons, String.append_assoc]

theorem renders_methodLayout (m : ModuleText) (t : TypeText) (place : Value) :
    methodLayout.Renders ([("def", t.value), ("loop", place)] :: moduleScope m)
      (unlines [t.method m.visitorParam]) := by
  apply Layout.Renders.of_eq (.output rfl (.output rfl (.output rfl (.stop _ _))))
  simp only [TypeText.method, unlines_cons, String.append_assoc]

theorem renders_slotLayout (s : SlotText) (place : Value) (scope : Scope) :
    slotLayout.Renders ([("slot", s.value), ("loop", place)] :: scope) (unlines [s.line]) := by
  apply Layout.Renders.of_eq (.output rfl (.output rfl (.stop _ _)))
  simp only [SlotText.line, unlines_cons, String.append_assoc]

theorem renders_accessorLayout (a : AccessorText) (place : Value) (scope : Scope) :
    accessorLayout.Renders ([("accessor", a.value), ("loop", place)] :: scope)
      (unlines a.lines) := by
  apply Layout.Renders.of_eq (.output rfl (.output rfl (.output rfl (.stop _ _))))
  simp only [AccessorText.lines, unlines_cons, unlines_nil, String.append_assoc,
    String.empty_append]

theorem renders_paramLayout (s : SlotText) (k n : Nat) (before after : Value) (scope : Scope) :
    paramLayout.Renders ([("param", s.value), ("loop", .place k (some n) before after)] :: scope)
      (s.param ++ if !(some n == some (k + 1)) then ", " else "") := by
  have hlast : (Phrase.notMember "loop" "last").expr.eval
      ([("param", s.value), ("loop", .place k (some n) before after)] :: scope) =
        .ok (.bool !(some n == some (k + 1))) := rfl
  apply Layout.Renders.of_eq (.output rfl (.output rfl (.branch hlast (.stop _ _) (.stop _ _))))
  simp only [SlotText.param, String.append_assoc, String.empty_append, String.append_empty]

theorem eval_joined (t : TypeText) (place : Value) (scope : Scope) :
    (Phrase.joined "def" "initializers").expr.eval
      ([("def", t.value), ("loop", place)] :: scope) =
        .ok (.text (", ".intercalate t.initializers)) := by
  have hwritten : (t.initializers.map Value.text).map Value.written = t.initializers := by
    rw [List.map_map]
    exact List.map_id _
  have hjoin : (Phrase.joined "def" "initializers").expr.eval
      ([("def", t.value), ("loop", place)] :: scope) =
        .ok (.text (", ".intercalate ((t.initializers.map Value.text).map Value.written))) := rfl
  rw [hjoin, hwritten]

theorem renders_typeLayout (m : ModuleText) (t : TypeText) (place : Value) :
    typeLayout.Renders ([("def", t.value), ("loop", place)] :: moduleScope m)
      (unlines (t.lines m.baseName m.visitorName)) := by
  have hparams := join_mapIdx_separated ", " SlotText.param t.params
  -- part by part along the layout; the texts of the parts are then those of the lines
  apply Layout.Renders.of_eq
  · apply Layout.Renders.output rfl
    apply Layout.Renders.each rfl (fun s place => renders_slotLayout s place _)
    apply Layout.Renders.output rfl
    apply Layout.Renders.loop rfl
      (fun k s before after _ => renders_paramLayout s k _ before after _)
    apply Layout.Renders.output (eval_joined t place _)
    apply Layout.Renders.each rfl (fun a place => renders_accessorLayout a place _)
    exact .output rfl (.output rfl (.output rfl (.output rfl (.stop _ _))))
  · simp only [TypeText.lines, unlines_append, unlines_map, unlines_flatMap,
      unlines_cons, unlines_nil, String.append_assoc, String.empty_append, hparams]

theorem renders_moduleLayout (m : ModuleText) :
    moduleLayout.Renders (moduleScope m) m.print := by
  apply Layout.Renders.of_eq
  · apply Layout.Renders.output rfl
    apply Layout.Renders.each rfl (fun line place => renders_useLayout line place _)
    apply Layout.Renders.each rfl (fun line place => renders_useLayout line place _)
    apply Layout.Renders.output rfl
    apply Layout.Renders.output rfl
    apply Layout.Renders.each rfl (fun t place => renders_methodLayout m t place)
    apply Layout.Renders.output rfl
    apply Layout.Renders.output rfl
    apply Layout.Renders.output rfl
    exact .each rfl (fun t place => renders_typeLayout m t place) (.stop _ _)
  · simp only [ModuleText.print, ModuleText.lines, unlines_append, unlines_map,
      unlines_flatMap, unlines_cons, unlines_nil, String.append_assoc,
      String.empty_append, String.append_empty]

end Template

namespace ModuleText

/-- The built-in template is rendered as the direct printer prints. -/
theorem render_eq (m : ModuleText) :
    Template.render moduleTemplate m.frame = .ok m.print := by
  have hnodes : Template.renderNodes [[], m.frame] Template.moduleLayout.nodes = _ :=
    Template.renders_moduleLayout m
  rw [Template.render, Template.parse?_moduleTemplate]
  dsimp only
  rw [hnodes]
  rfl

/-- **The text of every module.**  Whatever texts it is given, the built-in template never
fails and writes what the direct printer prints; so do bindings, with their types and
bodies written out. -/
theorem render_moduleTemplate :
    (∀ m : ModuleText, Template.render moduleTemplate m.frame = .ok m.print) ∧
    ∀ b : Bindings, Template.render moduleTemplate b.frame = .ok b.texts.print := by
  refine ⟨render_eq, fun b => ?_⟩
  rw [← b.frame_texts]
  exact b.texts.render_eq

end ModuleText

end TreeSmith
