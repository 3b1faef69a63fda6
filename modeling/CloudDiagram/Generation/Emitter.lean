import CloudDiagram.Diagram.Basic
import CloudDiagram.Generation.Config
import CloudDiagram.Generation.Timestamp

/-!
# Emitters

* `Emitter`: how the components of a diagram become a text of one format;
* `EmitContext`: what it reads beside the components;
* `lines`: lines of text, joined.
-/

namespace CloudDiagram

/-- What an emitter reads beside the components. -/
structure EmitContext where
  config : GeneratorConfig
  generatedAt : Instant

/-- **An emitter**: the text for an empty canvas, and the text for components, which may fail. -/
structure Emitter where
  name : String
  skeleton : EmitContext → String
  emit : EmitContext → List Node → Noted (Option String)

/-- Lines with line feeds between them. -/
def lines (ls : List String) : String := String.intercalate "\n" ls

/-- Each component with its number, from one on. -/
def numbered {α : Type} (items : List α) : List (α × Nat) := items.zipIdx 1

/-- The texts of numbered components, in order. -/
def renderAll (render : Node → Nat → Noted String) : List (Node × Nat) → Noted (List String)
  | [] => pure []
  | (n, i) :: rest => do
    let text ← render n i
    let others ← renderAll render rest
    return text :: others

end CloudDiagram
