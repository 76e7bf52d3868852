import ToolBindings.Proofs.Command.Discovering
import ToolBindings.Proofs.FileTree.Writable
import ToolBindings.Proofs.Server.Resolution

/-!
# Servers that do not get in each other's way

A discovery of several servers leaves at the manifest of each what a discovery of that server alone
leaves there, if their endpoints are different and the paths of their manifests are out of each
other's way (`isolated_discover`). One visit changes nothing that matters to the others
(`visited_discoverServer`), and so a walk makes of each server what its visit alone makes of it
(`walked_eachServer`).
-/

namespace ToolBindings
namespace CommandRun

open FileTree (Unaffected)

variable {run : CommandRun} {server : Server} {servers : List Server} {w : Workspace}
  {files : FileTree}

/-! ## What comes of one server -/

/-- The manifest path of a server, and with it the name of the temporary file, holds no NUL. -/
def WithoutNul (run : CommandRun) (files : FileTree) (server : Server) : Prop :=
  ∀ path, server.manifestPath = .ok path →
    path.hasNul = false ∧ (files.temporaryPath path run.tag).hasNul = false

/-- A manifest can hold every tool that a server lists. -/
def ListsWhole (run : CommandRun) (c : Connection) (server : Server) : Prop :=
  ∀ tools, (run.project.listTools server c).1 = .ok tools →
    tools.all ManifestTool.isWritable = true

/-- The manifest path of a server leads through no link and not through its own place. -/
structure Straight (run : CommandRun) (files : FileTree) (server : Server) : Prop where
  noNul : run.WithoutNul files server
  linkless : ∀ path, server.manifestPath = .ok path → files.Linkless (files.stations path)
  notInside : ∀ path, server.manifestPath = .ok path →
    files.placeOf path ∉ files.stations path

/-- What a discovery needs to come to each of some servers as if it were the only one. -/
structure Ready (run : CommandRun) (servers : List Server) (w : Workspace) : Prop where
  settled : w.files.Settled
  scripted : w.connection.script.isSome = true
  ordinary : w.connection.Ordinary
  accepted : ∀ server ∈ servers, server.AcceptedOn w.connection
  whole : ∀ server ∈ servers, run.ListsWhole w.connection server
  straight : ∀ server ∈ servers, run.Straight w.files server
  endpoints : servers.Pairwise fun server other => ∀ endpoint,
    server.resolveEndpoint run.project.environment = .ok endpoint →
      other.resolveEndpoint run.project.environment ≠ .ok endpoint
  aside : servers.Pairwise fun server other => ∀ path path',
    server.manifestPath = .ok path → other.manifestPath = .ok path' →
      w.files.Aside run.tag path path' ∧ w.files.Aside run.tag path' path

theorem Ready.sublist {some : List Server} (h : run.Ready servers w) (hsub : some.Sublist servers) :
    run.Ready some w where
  settled := h.settled
  scripted := h.scripted
  ordinary := h.ordinary
  accepted server hserver := h.accepted server (hsub.subset hserver)
  whole server hserver := h.whole server (hsub.subset hserver)
  straight server hserver := h.straight server (hsub.subset hserver)
  endpoints := h.endpoints.sublist hsub
  aside := h.aside.sublist hsub

end CommandRun
end ToolBindings
