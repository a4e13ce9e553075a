import ApiLowering.Proofs.Document.References
import Mathlib.Data.List.Perm.Subperm

/-!
# Where references to schemas lead

Following the reference entries among the schemas is a partial function on paths: it comes to the
path of an inline schema, or to a path where nothing is found. The search for a schema answers
accordingly, after as many entries at most as there are components.

## Main definitions

* `Components.Follows` — some number of reference entries lead from one path to another.
* `Components.DeadEnd` — the paths where nothing is found: those outside the schemas, those of
  missing components, and those that lead back to themselves.

## Main results

* `Components.Follows.leads` — the steps along reference entries are those of a chain.
* `Components.exists_deadEnd_of_follow` — a search that fails has come to a dead end.
* `Components.schema_of_follows` — a reference gives the schema that it leads to, and is not
  resolved exactly if it leads to a dead end.
-/

namespace ApiLowering

namespace Components

open Reference

/-! ## Steps along reference entries -/

/-- Reference entries lead from one path to another one, in some number of steps. -/
inductive Follows (c : Components) : ℕ → String → String → Prop
  | here (path : String) : Follows c 0 path path
  | step {key next last : String} {n : ℕ} : c.schemas.find? key = some (.ref next) →
    Follows c n next last → Follows c (n + 1) (toSchema key) last

/-- Nothing is found at a path: it is no path of a schema, or that of a missing one, or it leads
back to itself. -/
inductive DeadEnd (c : Components) : String → Prop
  | elsewhere {path : String} : (∀ key, path ≠ toSchema key) → DeadEnd c path
  | missing {key : String} : c.schemas.find? key = none → DeadEnd c (toSchema key)
  | cycle {path : String} {n : ℕ} : c.Follows (n + 1) path path → DeadEnd c path

variable {c : Components} {path next last key : String} {n : ℕ} {s : Schema}

namespace Follows

/-- One more step. -/
lemma concat (h : c.Follows n path (toSchema key))
    (hfind : c.schemas.find? key = some (.ref next)) : c.Follows (n + 1) path next := by
  generalize hend : toSchema key = last at h
  induction h with
  | here => exact hend ▸ .step hfind (.here next)
  | step hfirst _ ih => exact .step hfirst (ih hend)

/-- Where a path leads to a schema, so do those that follow from it, in fewer steps. -/
lemma leads {keys : List String} {schema : Schema} (h : c.Follows n path next)
    (hleads : Leads "schemas" c.schemas path keys last schema) : ∃ rest,
      Leads "schemas" c.schemas next rest last schema ∧ keys.length = n + rest.length := by
  induction h generalizing keys with
  | here => exact ⟨keys, hleads, (Nat.zero_add _).symm⟩
  | step hfind _ ih =>
    cases hleads with
    | here hkey hinline =>
      obtain rfl := Except.ok.inj ((keyIn_toSchema _).symm.trans hkey)
      rw [hfind] at hinline
      cases hinline
    | step hkey hnext hrest =>
      obtain rfl := Except.ok.inj ((keyIn_toSchema _).symm.trans hkey)
      rw [hfind] at hnext
      cases hnext
      obtain ⟨rest, hrest, hlength⟩ := ih hrest
      exact ⟨rest, hrest, by rw [List.length_cons, hlength]; omega⟩

end Follows

lemma exists_leads_iff : (∃ keys, Leads "schemas" c.schemas path keys key s) ↔
    ∃ n, c.Follows n path (toSchema key) ∧ c.schemas.find? key = some (.inline s) := by
  constructor
  · rintro ⟨keys, h⟩
    induction h with
    | here hkey hfind => exact ⟨0, keyIn_schemas_eq_ok_iff.1 hkey ▸ .here _, hfind⟩
    | step hkey hfind _ ih =>
      obtain ⟨n, hfollows, hinline⟩ := ih
      exact ⟨n + 1, keyIn_schemas_eq_ok_iff.1 hkey ▸ .step hfind hfollows, hinline⟩
  · rintro ⟨n, hfollows, hinline⟩
    generalize hend : toSchema key = last at hfollows
    induction hfollows with
    | here => exact ⟨[key], .here (hend ▸ keyIn_toSchema key) hinline⟩
    | step hfind _ ih =>
      obtain ⟨keys, hkeys⟩ := ih hend
      exact ⟨_, .step (keyIn_toSchema _) hfind hkeys⟩

/-- A path leads to no schema if it leads to where nothing is found. -/
lemma DeadEnd.not_leads {keys : List String} (h : c.DeadEnd path) :
    ¬ Leads "schemas" c.schemas path keys key s := by
  intro hleads
  cases h with
  | elsewhere hpath =>
    cases hleads with
    | here hkey => exact hpath _ (keyIn_schemas_eq_ok_iff.1 hkey)
    | step hkey => exact hpath _ (keyIn_schemas_eq_ok_iff.1 hkey)
  | missing hnone =>
    cases hleads with
    | here hkey hfind =>
      obtain rfl := Except.ok.inj ((keyIn_toSchema _).symm.trans hkey)
      simp [hnone] at hfind
    | step hkey hfind =>
      obtain rfl := Except.ok.inj ((keyIn_toSchema _).symm.trans hkey)
      simp [hnone] at hfind
  | cycle hcycle =>
    -- the way round the cycle would make the chain longer than it is
    obtain ⟨rest, hrest, hlength⟩ := hcycle.leads hleads
    obtain ⟨rfl, -, -⟩ := hrest.unique hleads
    omega

/-! ## The search -/

/-- The search for a schema fails where nothing is found, after as many steps at most as there are
components to visit. What has been visited leads to where the search is. -/
lemma exists_deadEnd_of_follow {unvisited : List String} {fault : Fault}
    (h : follow "schemas" c.schemas circularSchema unvisited path = .error fault)
    (hvisited : ∀ key ∈ c.schemas.keys, key ∉ unvisited →
      ∃ n, c.Follows (n + 1) (toSchema key) path) :
    (∃ what, fault = .unresolved what) ∧
      ∃ n ≤ unvisited.length, ∃ last, c.Follows n path last ∧ c.DeadEnd last := by
  induction unvisited, path using follow.induct "schemas" c.schemas with
  | case1 unvisited path fault' hkey =>
    rw [follow, hkey] at h
    obtain rfl := Except.error.inj h
    refine ⟨exists_unresolved_of_keyIn hkey, 0, Nat.zero_le _, path, .here path, .elsewhere ?_⟩
    rintro key rfl
    rw [keyIn_toSchema] at hkey
    cases hkey
  | case2 unvisited path key hkey hnone =>
    rw [follow, hkey] at h
    simp only [hnone] at h
    obtain rfl := keyIn_schemas_eq_ok_iff.1 hkey
    exact ⟨⟨_, (Except.error.inj h).symm⟩, 0, Nat.zero_le _, _, .here _, .missing hnone⟩
  | case3 unvisited path key hkey hmem schema hfind =>
    rw [follow_inline hkey hfind hmem] at h
    cases h
  | case4 unvisited path key hkey hmem next hfind ih =>
    rw [follow_ref hkey hfind hmem] at h
    obtain rfl := keyIn_schemas_eq_ok_iff.1 hkey
    obtain ⟨hfault, n, hn, last, hfollows, hend⟩ := ih h fun k hk hnot => by
      by_cases heq : k = key
      · exact ⟨0, heq ▸ .step hfind (.here next)⟩
      · obtain ⟨n, hn⟩ := hvisited k hk fun hin => hnot ((List.mem_erase_of_ne heq).2 hin)
        exact ⟨n + 1, hn.concat hfind⟩
    have hlength := List.length_erase_of_mem hmem
    have hpos := List.length_pos_of_mem hmem
    exact ⟨hfault, n + 1, by omega, last, .step hfind hfollows, hend⟩
  | case5 unvisited path key hkey target hfind hmem =>
    rw [follow, hkey] at h
    simp only [hfind, hmem, if_false] at h
    obtain rfl := keyIn_schemas_eq_ok_iff.1 hkey
    obtain ⟨n, hcycle⟩ := hvisited key (Table.mem_keys_of_find? hfind) hmem
    exact ⟨⟨_, (Except.error.inj h).symm⟩, 0, Nat.zero_le _, _, .here _, .cycle hcycle⟩

/-- A reference gives the schema that reference entries lead to. -/
lemma schema_eq_ok_iff : c.schema path = .ok (key, s) ↔
    ∃ n, c.Follows n path (toSchema key) ∧ c.schemas.find? key = some (.inline s) :=
  follow_eq_ok_iff.trans exists_leads_iff

/-- No reference entries lead both to a schema and to where nothing is found. -/
lemma DeadEnd.schema_ne_ok (h : c.DeadEnd last) (hfollows : c.Follows n path last) :
    c.schema path ≠ .ok (key, s) := by
  intro hok
  obtain ⟨keys, hleads⟩ := follow_eq_ok_iff.1 hok
  obtain ⟨rest, hrest, -⟩ := hfollows.leads hleads
  exact h.not_leads hrest

/-- A chain to a schema has fewer references than there are components. -/
lemma Follows.lt_size (h : c.Follows n path (toSchema key))
    (hfind : c.schemas.find? key = some (.inline s)) : n < c.schemas.size := by
  obtain ⟨keys, hleads⟩ := exists_leads_iff.2 ⟨n, h, hfind⟩
  obtain ⟨rest, hrest, hlength⟩ := h.leads hleads
  obtain ⟨rfl, -, -⟩ := hrest.unique (.here (keyIn_toSchema key) hfind)
  have hle := (List.subperm_of_subset hleads.nodup hleads.keys_subset).length_le
  rw [← Table.size_eq_length_keys, hlength, List.length_singleton] at hle
  exact hle

/-- **A reference gives a schema exactly if reference entries lead from it to that schema**, and an
unresolved reference exactly if they lead to where nothing is found: to a path outside the schemas,
to a missing component, or into a cycle. One of the two is settled after as many entries at most as
there are components. -/
theorem schema_of_follows (c : Components) (path : String) :
    (∀ key s, c.schema path = .ok (key, s) ↔
      ∃ n, c.Follows n path (toSchema key) ∧ c.schemas.find? key = some (.inline s)) ∧
    ((∃ what, c.schema path = .error (.unresolved what)) ↔
      ∃ n last, c.Follows n path last ∧ c.DeadEnd last) ∧
    ∃ n ≤ c.schemas.size, ∃ last, c.Follows n path last ∧
      ((∃ key s, last = toSchema key ∧ c.schemas.find? key = some (.inline s) ∧
          c.schema path = .ok (key, s)) ∨
        c.DeadEnd last ∧ ∃ what, c.schema path = .error (.unresolved what)) := by
  have hfault {fault : Fault} (h : c.schema path = .error fault) :
      (∃ what, fault = .unresolved what) ∧
        ∃ n ≤ c.schemas.size, ∃ last, c.Follows n path last ∧ c.DeadEnd last := by
    rw [Table.size_eq_length_keys]
    exact exists_deadEnd_of_follow h fun key hkey hnot => absurd hkey hnot
  refine ⟨fun key s => schema_eq_ok_iff, ⟨?_, ?_⟩, ?_⟩
  · rintro ⟨what, h⟩
    obtain ⟨-, n, -, last, hfollows, hend⟩ := hfault h
    exact ⟨n, last, hfollows, hend⟩
  · rintro ⟨n, last, hfollows, hend⟩
    cases h : c.schema path with
    | ok found => exact absurd h (hend.schema_ne_ok hfollows)
    | error fault =>
      obtain ⟨⟨what, rfl⟩, -⟩ := hfault h
      exact ⟨what, rfl⟩
  · cases h : c.schema path with
    | ok found =>
      obtain ⟨n, hfollows, hfind⟩ := schema_eq_ok_iff.1 h
      exact ⟨n, (hfollows.lt_size hfind).le, _, hfollows, .inl ⟨_, _, rfl, hfind, rfl⟩⟩
    | error fault =>
      obtain ⟨⟨what, rfl⟩, n, hn, last, hfollows, hend⟩ := hfault h
      exact ⟨n, hn, last, hfollows, .inr ⟨hend, what, rfl⟩⟩

end Components

end ApiLowering
