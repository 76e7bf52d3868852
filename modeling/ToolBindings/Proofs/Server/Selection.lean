import ToolBindings.Proofs.Data.Sorted
import ToolBindings.Server.Basic

/-!
# Selected servers

However servers are configured and whichever are wanted, the selected ones come in strictly
ascending order of their slugs: no server is selected twice.
-/

namespace ToolBindings

/-- A walk through a list fails at the first element that fails. -/
theorem filterMapM_eq_error {α β ε : Type} {f : α → Except ε (Option β)} {e : ε} {xs : List α} :
    xs.filterMapM f = .error e ↔ ∃ front x back, xs = front ++ x :: back ∧
      (∀ y ∈ front, ∃ b, f y = .ok b) ∧ f x = .error e := by
  induction xs with
  | nil =>
    constructor
    · intro h
      cases h
    · rintro ⟨front, x, back, h, -⟩
      cases front <;> cases h
  | cons first rest ih =>
    rw [List.filterMapM_cons]
    cases hfirst : f first with
    | error e' =>
      constructor
      · intro h
        cases h
        exact ⟨[], first, rest, rfl, List.forall_mem_nil _, hfirst⟩
      · rintro ⟨front, x, back, heq, hfront, hx⟩
        cases front with
        | nil =>
          cases heq
          rw [hfirst] at hx
          cases hx
          rfl
        | cons y front =>
          cases heq
          obtain ⟨b, hb⟩ := hfront first List.mem_cons_self
          rw [hfirst] at hb
          cases hb
    | ok found =>
      -- the walk goes on, and what it has found does not matter
      have hrest : (match found with
          | none => rest.filterMapM f
          | some b => do return b :: (← rest.filterMapM f)) = .error e
            ↔ rest.filterMapM f = .error e := by
        cases found with
        | none => exact Iff.rfl
        | some b => cases rest.filterMapM f <;> simp [bind, Except.bind, pure, Except.pure]
      refine hrest.trans (ih.trans ?_)
      constructor
      · rintro ⟨front, x, back, rfl, hfront, hx⟩
        exact ⟨first :: front, x, back, rfl, List.forall_mem_cons.2 ⟨⟨found, hfirst⟩, hfront⟩, hx⟩
      · rintro ⟨front, x, back, heq, hfront, hx⟩
        cases front with
        | nil =>
          cases heq
          rw [hfirst] at hx
          cases hx
        | cons y front =>
          cases heq
          exact ⟨front, x, back, rfl, (List.forall_mem_cons.1 hfront).2, hx⟩

namespace Settings

/-- The slugs of servers ascend strictly. -/
def Ascending (servers : List Server) : Prop := servers.Pairwise fun s t => s.slug < t.slug

theorem Ascending.nodup {servers : List Server} (h : Ascending servers) :
    (servers.map Server.slug).Nodup := by
  rw [List.nodup_iff_pairwise_ne, List.pairwise_map]
  exact h.imp String.ne_of_lt

private theorem slug_of_serverOf? {slug : String} {entry : ConfigValue} {server : Server}
    (h : serverOf? slug entry = .ok (some server)) : server.slug = slug := by
  unfold serverOf? at h
  split at h
  · split at h
    · split at h
      · rename_i hserver
        cases h
        rw [Server.ofFields] at hserver
        split at hserver
        · cases hserver
          rfl
        · cases hserver
      · cases h
    · cases h
  · cases h

/-- The servers of entries have slugs among the keys, in the order of the keys. -/
private theorem sublist_slugs : ∀ {entries : Entries String ConfigValue} {servers : List Server},
    (entries.filterMapM fun (slug, entry) => serverOf? slug entry) = .ok servers →
      (servers.map Server.slug).Sublist (Entries.keys entries)
  | [], servers, h => by
    cases h
    exact List.Sublist.refl _
  | (slug, entry) :: entries, servers, h => by
    rw [List.filterMapM_cons] at h
    dsimp only at h
    cases hfirst : serverOf? slug entry with
    | error fault =>
      rw [hfirst] at h
      cases h
    | ok found =>
      cases hrest : entries.filterMapM fun (slug, entry) => serverOf? slug entry with
      | error fault =>
        rw [hfirst, hrest] at h
        cases found <;> cases h
      | ok more =>
        have hsub := sublist_slugs hrest
        rw [hfirst, hrest] at h
        cases found with
        | none =>
          cases h
          exact hsub.cons slug
        | some server =>
          cases h
          rw [List.map_cons, slug_of_serverOf? hfirst]
          exact hsub.cons_cons slug

theorem ascending_of_allServers {settings : Settings} {servers : List Server}
    (h : settings.allServers = .ok servers) : Ascending servers := by
  have hsub := sublist_slugs h
  have hsorted : (Entries.keys (Text.sortedBy (·.1) settings.servers)).Pairwise (· ≤ ·) :=
    List.pairwise_map.2 (Text.pairwise_sortedBy (·.1) settings.servers)
  have hkeys : (Entries.keys (Text.sortedBy (·.1) settings.servers)).Nodup := by
    have hperm := (Text.perm_sortedBy (·.1) settings.servers).map (·.1)
    exact hperm.nodup_iff.2 settings.nodup
  have hstrict : (Entries.keys (Text.sortedBy (·.1) settings.servers)).Pairwise (· < ·) := by
    rw [List.nodup_iff_pairwise_ne] at hkeys
    exact (hsorted.and hkeys).imp fun h => Std.lt_of_le_of_ne h.1 h.2
  exact List.pairwise_map.1 (hstrict.sublist hsub)

/-- Selected servers ascend strictly by slug. -/
theorem ascending_of_selectServers {settings : Settings} {wanted : List String}
    {servers : List Server} (h : settings.selectServers wanted = .ok servers) :
    Ascending servers := by
  rw [selectServers] at h
  cases hall : settings.allServers with
  | error fault =>
    rw [hall] at h
    cases h
  | ok all =>
    have hascending := ascending_of_allServers hall
    rw [hall] at h
    dsimp only [bind, Except.bind] at h
    split at h
    · cases h
      exact hascending
    · split at h
      · cases h
        exact hascending.filter _
      · cases h

end Settings
end ToolBindings
