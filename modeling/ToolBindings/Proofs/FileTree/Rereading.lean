import ToolBindings.Proofs.FileTree.Writing

/-!
# Written files read again

Whatever links there are, a path that reads a file leads through the directory that the names before
its last one lead to. So nothing else can be read at a path than what was written there last
(`Written.eq_of_read`).
-/

namespace ToolBindings.FileTree

/-- What is read at a path is what was written there. -/
theorem Written.eq_of_read {t : FileTree} {p : Path} {text : String} {octets : List UInt8}
    (h : t.Written p text) (hread : t.read p = .ok octets) : octets = Text.Utf8.encode text := by
  obtain ⟨l, hlocate, hl⟩ := read_eq_ok.1 hread
  have hwalk := walks_of_locate hlocate
  rw [names_eq_append h.1.named] at hwalk
  obtain ⟨-, directory, hleads, hdirectory, hends⟩ := hwalk.parent h.1.notUp
  have hfile := h.at? hleads hdirectory
  rcases hends with rfl | ⟨-, target, hlink⟩
  · rw [hl] at hfile
    cases hfile
    rfl
  · rw [hfile] at hlink
    cases hlink

end ToolBindings.FileTree
