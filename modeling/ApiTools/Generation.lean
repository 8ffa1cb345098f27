import ApiTools.Catalog.Source
import ApiTools.Json.Reader

/-!
# Generating the compiled module

From the file of an API description to the source of the module, with what there is to say about it.
-/

namespace ApiTools

/-- The module that is made from a description. -/
structure Generation where
  source : String
  toolCount : Nat
  warnings : List Warning

namespace Generation

/-- Compiles the operations that the server offers from the text of a description, which is absent
where there is no file. -/
def ofText (text : Option String) : Except Fault Generation :=
  match text with
  | none => .error .fileNotFound
  | some text => do
    let description ← Json.read text.toList
    let catalog ← Catalog.compile description standardWhitelist
    return ⟨← catalog.source, catalog.tools.length, catalog.warnings⟩

/-- The line that says what was written where. -/
def summary (generation : Generation) (output : String) : String :=
  s!"Generated {output} ({generation.toolCount} tools)"

end Generation

end ApiTools
