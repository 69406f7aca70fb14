import TreeSmith.Artifact
import TreeSmith.Definition.Template
import TreeSmith.Schema.Json

/-!
# Generating modules

One pass over a registry writes the text of each family's module, in order of
registration.  The first fault stops the pass, and nothing is put into a folder
unless every family has its text.

## Main definitions

* `GeneratorFault`, `GeneratorFault.message` — why a pass fails.
* `Renderer`, `RenderBinding` — a way to fill templates, and one with its template.
* `Generator`, `Generator.ofSettings` — a registry with settings and a template.
* `Generator.define`, `Generator.artifact`, `Generator.generate` — from families to
  artifacts.
* `Generator.write`, `Generator.check` — artifacts and a folder.
* `Registry.load` — a registry from a document in a file.
-/

namespace TreeSmith

/-- Why a pass of the generator fails. -/
inductive GeneratorFault
  /-- The schema is at fault. -/
  | schema (fault : SchemaFault)
  /-- The template cannot be rendered. -/
  | template (fault : Template.Fault)
  /-- A file cannot be read or written. -/
  | file (fault : FileFault)
  /-- A document is not well formed. -/
  | document
  deriving DecidableEq, Repr

/-- The first words of the message, and all of it for a fault of the schema. -/
def GeneratorFault.message : GeneratorFault → String
  | .schema fault => fault.message
  | .template _ => "Template error"
  | .file _ => "IO error"
  | .document => "JSON error"

/-- A way to fill the text of a template with the values for a family. -/
abbrev Renderer := (template : String) → Bindings → Except GeneratorFault String

/-- A renderer with the text of its template. -/
structure RenderBinding where
  /-- The renderer. -/
  render : Renderer
  /-- The text of the template. -/
  template : String

/-- The template filled with the values for a family. -/
def RenderBinding.filled (binding : RenderBinding) (b : Bindings) : Except GeneratorFault String :=
  binding.render binding.template b

/-- The renderer of this program: templates in the language of `Template`. -/
def templateRenderer : Renderer := fun template b =>
  (Template.render template b.frame).mapError .template

/-- A template in the language of `Template`. -/
def RenderBinding.ofTemplate (template : String) : RenderBinding :=
  ⟨templateRenderer, template⟩

theorem RenderBinding.filled_ofTemplate (template : String) (b : Bindings) :
    (ofTemplate template).filled b = templateRenderer template b :=
  rfl

/-- A registry with the settings and the template of a pass. -/
structure Generator where
  /-- The families and value types. -/
  registry : Registry
  /-- The settings. -/
  settings : Settings
  /-- The template and how it is filled. -/
  binding : RenderBinding

namespace Generator

/-- The text of the template that settings ask for. -/
def readTemplate (t : FileTree) (settings : Settings) : Except GeneratorFault String :=
  match settings.generator.template with
  | none => .ok moduleTemplate
  | some path => (t.readAt path).mapError .file

/-- The generator for a registry, with the template that the settings ask for. -/
def ofSettings (t : FileTree) (r : Registry) (settings : Settings) :
    Except GeneratorFault Generator := do
  let template ← readTemplate t settings
  return ⟨r, settings, .ofTemplate template⟩

/-- The definition of a family. -/
def define (g : Generator) (family : Family) : Except GeneratorFault FamilyDefinition :=
  (g.registry.defineFamily g.settings family).mapError .schema

/-- The artifact of a family. -/
def artifact (g : Generator) (family : Family) : Except GeneratorFault Artifact := do
  let definition ← g.define family
  let contents ← g.binding.filled definition.bindings
  return ⟨family.name, contents⟩

/-- The artifacts of some families, in order. -/
def artifacts (g : Generator) : List Family → Except GeneratorFault (List Artifact)
  | [] => .ok []
  | family :: more => do
    let first ← g.artifact family
    let rest ← artifacts g more
    return first :: rest

/-- The artifacts of all families, in order of registration. -/
def generate (g : Generator) : Except GeneratorFault (List Artifact) :=
  g.artifacts g.registry.families

/-- Generates all artifacts and puts them into a folder. -/
def write (g : Generator) (t : FileTree) (folder : String) :
    FileTree × Except GeneratorFault (List Artifact) :=
  match g.generate with
  | .error fault => (t, .error fault)
  | .ok artifacts =>
    let (t, written) := persist t folder artifacts
    (t, (written.mapError .file).map fun _ => artifacts)

/-- Generates all artifacts and compares them with a folder. -/
def check (g : Generator) (t : FileTree) (folder : String) :
    Except GeneratorFault (List Drift) :=
  match g.generate with
  | .error fault => .error fault
  | .ok artifacts => (TreeSmith.check t folder artifacts).mapError .file

end Generator

/-- The registry of the document in a file. -/
def Registry.load (t : FileTree) (path : String) : Except GeneratorFault Registry := do
  let text ← (t.readAt path).mapError .file
  match Document.parse? text with
  | none => .error .document
  | some document => (Registry.ofDocument document).mapError .schema

end TreeSmith
