import Mathlib.Data.List.Nodup
import ToolBindings.Proofs.Data.Entries
import ToolBindings.Proofs.Server.Selection
import ToolBindings.Server.Invocation

/-!
# What a server resolves to

A server is found by its slug among the servers of the settings. Its endpoint is its own or that of
its variable, and each of its retry values is its own, or that of the package, or the built-in one,
whatever the others are.
-/

namespace ToolBindings

/-! ## Look-up -/

namespace Settings

variable {settings : Settings} {servers : List Server}

theorem missingSlugs_singleton (servers : List Server) (slug : String) :
    missingSlugs servers [slug] = if servers.any (·.slug == slug) then [] else [slug] := by
  rw [missingSlugs, List.filter_cons]
  cases servers.any (·.slug == slug) <;> rfl

/-- Servers that are selected are among all servers. -/
theorem exists_allServers {wanted : List String} (h : settings.selectServers wanted = .ok servers) :
    ∃ all, settings.allServers = .ok all ∧ servers.Sublist all := by
  rw [selectServers] at h
  cases hall : settings.allServers with
  | error fault =>
    rw [hall] at h
    cases h
  | ok all =>
    rw [hall] at h
    dsimp only [bind, Except.bind] at h
    refine ⟨all, rfl, ?_⟩
    split at h
    · cases h
      exact List.Sublist.refl _
    · split at h
      · cases h
        exact List.filter_sublist
      · cases h

/-- A server that is selected among others is also selected alone. -/
theorem selectServers_singleton {wanted : List String} {server : Server}
    (h : settings.selectServers wanted = .ok servers) (hserver : server ∈ servers) :
    settings.selectServers [server.slug] = .ok [server] := by
  obtain ⟨all, hall, hsub⟩ := exists_allServers h
  have hmem : server ∈ all := hsub.subset hserver
  have hany : all.any (·.slug == server.slug) = true :=
    List.any_eq_true.2 ⟨server, hmem, beq_self_eq_true _⟩
  have hfilter : all.filter (fun other => [server.slug].contains other.slug) = [server] := by
    -- slugs are unique, so that no other server is kept
    have hnodup := (ascending_of_allServers hall).nodup
    refine List.perm_singleton.1 ((List.perm_ext_iff_of_nodup ?_ (by simp)).2 fun other => ?_)
    · exact (List.Nodup.of_map _ hnodup).filter _
    · rw [List.mem_filter, List.mem_singleton]
      constructor
      · rintro ⟨hother, hslug⟩
        exact List.inj_on_of_nodup_map hnodup hother hmem (by simpa using hslug)
      · rintro rfl
        exact ⟨hmem, by simp⟩
  rw [selectServers, hall]
  simp only [bind, Except.bind, List.isEmpty_cons, missingSlugs_singleton, hany, if_true,
    Bool.false_eq_true, if_false, hfilter]
  rfl

/-- A server is looked up among all servers by its slug. -/
theorem getServer_eq (h : settings.allServers = .ok servers) (slug : String) :
    settings.getServer slug
      = match servers.find? (·.slug == slug) with
        | some server => .ok server
        | none => .error (.ofConfiguration (.unknownServers [slug])) := by
  have hfound : servers.any (·.slug == slug) = (servers.find? (·.slug == slug)).isSome := by
    rw [Bool.eq_iff_iff, List.any_eq_true, List.find?_isSome]
  rw [getServer, selectServers, h]
  simp only [bind, Except.bind, List.isEmpty_cons, missingSlugs_singleton, hfound]
  cases hfind : servers.find? (·.slug == slug) with
  | none => rfl
  | some server =>
    -- the servers of the slug are selected first, and the first of those is taken
    have hfilter : (servers.filter fun server => [slug].contains server.slug).find?
        (·.slug == slug) = some server := by
      rw [List.find?_filter, ← hfind]
      congr 1
      funext server
      rw [Bool.eq_iff_iff]
      simp
    simp only [Option.isSome_some, if_true, pure, Except.pure, Bool.false_eq_true, if_false, hfilter]

/-- A server among all servers is the one that is looked up by its slug. -/
theorem getServer_of_mem (h : settings.allServers = .ok servers) {server : Server}
    (hserver : server ∈ servers) : settings.getServer server.slug = .ok server := by
  rw [getServer_eq h]
  cases hfind : servers.find? (·.slug == server.slug) with
  | none => simpa using List.find?_eq_none.1 hfind server hserver
  | some found =>
    have hslug : found.slug = server.slug := by simpa using List.find?_some hfind
    have hsame := List.inj_on_of_nodup_map (ascending_of_allServers h).nodup
      (List.mem_of_find?_eq_some hfind) hserver hslug
    rw [hsame]

end Settings

/-! ## Endpoints -/

namespace Server

/-- An endpoint that a server resolves to: its own, or else what its variable says, if that is not
empty. -/
inductive Resolves (environment : Environment) (server : Server) : String → Prop where
  | own {endpoint : String} (h : server.endpoint = some endpoint) (hne : endpoint ≠ "") :
      Resolves environment server endpoint
  | fromVariable {name endpoint : String} (hown : server.endpoint.getD "" = "")
      (hname : server.endpointVariable = some name) (hnamed : name ≠ "")
      (h : Entries.get? name environment = some endpoint) (hne : endpoint ≠ "") :
      Resolves environment server endpoint

variable {environment : Environment} {server : Server}

theorem nonEmpty?_eq_some {text : Option String} {s : String} :
    nonEmpty? text = some s ↔ text = some s ∧ s ≠ "" := by
  rw [nonEmpty?, Option.filter_eq_some_iff, decide_eq_true_iff]

theorem nonEmpty?_eq_none {text : Option String} : nonEmpty? text = none ↔ text.getD "" = "" := by
  cases text with
  | none => simp [nonEmpty?]
  | some s => simp [nonEmpty?, Option.filter]

theorem resolveEndpoint_eq_ok {endpoint : String} :
    server.resolveEndpoint environment = .ok endpoint ↔ server.Resolves environment endpoint := by
  rw [resolveEndpoint]
  cases hown : nonEmpty? server.endpoint with
  | some own =>
    obtain ⟨hendpoint, hne⟩ := nonEmpty?_eq_some.1 hown
    constructor
    · intro h
      cases h
      exact .own hendpoint hne
    · rintro (⟨h, -⟩ | ⟨h, -⟩)
      · rw [hendpoint, Option.some.injEq] at h
        rw [h]
        rfl
      · rw [hendpoint] at h
        exact absurd h hne
  | none =>
    -- without an endpoint of its own the server takes the one in its variable
    rw [nonEmpty?_eq_none] at hown
    constructor
    · intro h
      cases hvariable : nonEmpty? ((nonEmpty? server.endpointVariable).bind
        fun name => Entries.get? name environment) with
      | none =>
        rw [hvariable] at h
        cases h
      | some found =>
        rw [hvariable] at h
        cases h
        obtain ⟨hbind, hne⟩ := nonEmpty?_eq_some.1 hvariable
        obtain ⟨name, hname, hget⟩ := Option.bind_eq_some_iff.1 hbind
        obtain ⟨hname, hnamed⟩ := nonEmpty?_eq_some.1 hname
        exact .fromVariable hown hname hnamed hget hne
    · rintro (⟨h, hne⟩ | ⟨-, hname, hnamed, hget, hne⟩)
      · rw [h] at hown
        exact absurd hown hne
      · rw [nonEmpty?_eq_some.2 ⟨hname, hnamed⟩, Option.bind_some, hget,
          nonEmpty?_eq_some.2 ⟨rfl, hne⟩]
        rfl

/-- Without an endpoint to resolve to, that is what is wrong. -/
theorem resolveEndpoint_eq_error (h : ∀ endpoint, ¬server.Resolves environment endpoint) :
    server.resolveEndpoint environment = .error (.missingEndpoint server.slug) := by
  cases hresolve : server.resolveEndpoint environment with
  | ok endpoint => exact absurd (resolveEndpoint_eq_ok.1 hresolve) (h endpoint)
  | error cause =>
    rw [resolveEndpoint] at hresolve
    split at hresolve
    · cases hresolve
    · cases hresolve
      rfl

/-! ## Headers -/

private theorem headers_bearer (auth : Entries String ConfigValue) (slug tool : Option String) :
    AuthStrategy.bearer auth slug tool = [] ∨
      ∃ name value, AuthStrategy.bearer auth slug tool = [(name, value)] := by
  unfold AuthStrategy.bearer
  split
  · split
    · exact Or.inl rfl
    · exact Or.inr ⟨_, _, rfl⟩
  · exact Or.inl rfl

private theorem headers_header (auth : Entries String ConfigValue) (slug tool : Option String) :
    AuthStrategy.header auth slug tool = [] ∨
      ∃ name value, AuthStrategy.header auth slug tool = [(name, value)] := by
  unfold AuthStrategy.header
  split
  · split
    · exact Or.inl rfl
    · exact Or.inr ⟨_, _, rfl⟩
  · exact Or.inl rfl

/-- A built-in strategy makes at most one header. -/
theorem headers_ok {tool : Option String} {headers : Headers}
    (h : server.headers tool = .ok headers) :
    headers = [] ∨ ∃ name value, headers = [(name, value)] := by
  rw [Server.headers] at h
  unfold AuthStrategies.headers at h
  split at h
  · cases h
    exact Or.inl rfl
  · split at h
    · cases h
    · split at h
      · cases h
      · split at h
        · cases h
        · rename_i hstrategy
          cases h
          -- there are two strategies to find
          have hmem := Entries.mem_of_get? hstrategy
          rcases List.mem_cons.1 hmem with heq | hmem
          · cases heq
            exact headers_bearer _ _ tool
          · cases List.mem_singleton.1 hmem
            exact headers_header _ _ tool

/-! ## Retry values -/

/-- An integer of a layer that is no less than the least. -/
def fitting? (key : String) (least : Int) (layer : Entries String ConfigValue) : Option Int :=
  match Entries.get? key layer with
  | some (.int i) => if least ≤ i then some i else none
  | _ => none

/-- The value of the server if it fits, or else that of the package if that fits, or else the
built-in one. -/
def chosen (package : Entries String ConfigValue) (server : Server) (key : String)
    (least builtIn : Int) : Int :=
  ((fitting? key least server.retry).or (fitting? key least package)).getD builtIn

/-- Each value of a policy is chosen by itself. -/
structure Chosen (package : Entries String ConfigValue) (server : Server) (policy : RetryPolicy) :
    Prop where
  attempts : (policy.attempts : Int) = server.chosen package "attempts" 1 1
  backoff : (policy.backoff : Int) = server.chosen package "backoff_ms" 0 100
  cap : (policy.cap : Int) = server.chosen package "max_backoff_ms" 0 1000

theorem retryValue_eq (package : Entries String ConfigValue) (server : Server) {key : String}
    (least builtIn : Int) (h : Entries.get? key Settings.builtInRetry = some builtIn) :
    retryValue [server.retry, package] key least = server.chosen package key least builtIn := by
  have hlayer (layer : Entries String ConfigValue) :
      ((Entries.get? key layer).bind Data.int?).filter (least ≤ ·) = fitting? key least layer := by
    rw [fitting?]
    cases Entries.get? key layer with
    | none => rfl
    | some value => cases value <;> simp [Data.int?, Option.filter]
  rw [retryValue, chosen, h]
  simp only [List.findSome?_cons, List.findSome?_nil, hlayer, Option.getD_some]
  cases fitting? key least server.retry with
  | some i => rfl
  | none => cases fitting? key least package <;> rfl

theorem le_chosen (package : Entries String ConfigValue) (server : Server) (key : String)
    (least builtIn : Int) (h : least ≤ builtIn) :
    least ≤ server.chosen package key least builtIn := by
  have hlayer {layer : Entries String ConfigValue} {i : Int}
      (hi : fitting? key least layer = some i) : least ≤ i := by
    unfold fitting? at hi
    split at hi
    · split at hi
      · cases hi
        assumption
      · cases hi
    · cases hi
  rw [chosen]
  cases hserver : fitting? key least server.retry with
  | some i => exact hlayer hserver
  | none =>
    cases hpackage : fitting? key least package with
    | some i => exact hlayer hpackage
    | none => exact h

theorem chosen_retryPolicy (package : Entries String ConfigValue) (server : Server) :
    server.Chosen package (server.retryPolicy package) := by
  have hattempts := le_chosen package server "attempts" 1 1 (by omega)
  have hbackoff := le_chosen package server "backoff_ms" 0 100 (by omega)
  have hcap := le_chosen package server "max_backoff_ms" 0 1000 (by omega)
  rw [retryPolicy, retryValue_eq package server 1 1 rfl,
    retryValue_eq package server 0 100 rfl,
    retryValue_eq package server 0 1000 rfl]
  refine ⟨?_, ?_, ?_⟩
  · show ((max 1 (server.chosen package "attempts" 1 1).toNat : Nat) : Int) = _
    omega
  · exact Int.toNat_of_nonneg hbackoff
  · exact Int.toNat_of_nonneg hcap

end Server
end ToolBindings
