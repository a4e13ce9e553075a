import ApiLowering.Document.Lookup
import ApiLowering.Proofs.Tables
import Mathlib.Data.List.Nodup

/-!
# Chains of references

Following references within a section succeeds exactly if a chain of references leads to a thing.
Such a chain meets no component twice, so the components that were visited need not be remembered.

## Main definitions

* `Reference.Leads` — a reference leads along some keys to the thing under the last one.
* `Reference.Resolves` — a reference leads to some thing.

## Main results

* `Reference.keyIn_toSchema` — the key of a schema reference is read back.
* `Reference.keyIn_schemas_eq_ok_iff` — only schema references have a key among the schemas.
* `Reference.Leads.nodup` — no key occurs twice along a chain.
* `Reference.follow_eq_ok_iff` — following succeeds exactly along a chain.
* `Reference.follow_map` — chains do not depend on what the things are.
* `Components.schema_toSchema` — the schema at the end of a chain is that of its component.
* `Reference.resolves_of_copies` — putting copies in the place of references that lead to a thing
  lets no other reference lead anywhere.
-/

namespace ApiLowering

/-! ## References and things -/

namespace Referable

variable {α : Type} {a : Referable α}

lemma eq_ref {path : String} (h : a.path? = some path) :
    a = .ref path := by
  cases a <;> simp_all [path?]

lemma eq_inline {value : α} (h : a.inline? = some value) :
    a = .inline value := by
  cases a <;> simp_all [inline?]

end Referable

namespace Reference

/-! ## Keys -/

lemma dropStart?_append (start rest : List Char) :
    Text.dropStart? start (start ++ rest) = some rest := by
  induction start with
  | nil => rfl
  | cons c cs ih =>
    rw [List.cons_append, Text.dropStart?, if_pos rfl]
    exact ih

lemma eq_append_of_dropStart? {start cs rest : List Char}
    (h : Text.dropStart? start cs = some rest) : cs = start ++ rest := by
  induction start generalizing cs with
  | nil => exact Option.some.inj h
  | cons c start ih =>
    cases cs with
    | nil => cases h
    | cons d cs =>
      rw [Text.dropStart?, Option.ite_none_right_eq_some] at h
      obtain ⟨rfl, h⟩ := h
      rw [ih h, List.cons_append]

/-- The key of a schema reference is read back. -/
theorem keyIn_toSchema (key : String) : keyIn "schemas" (toSchema key) = .ok key := by
  have hpath : (toSchema key).toList =
      componentsPath.toList ++ (['s', 'c', 'h', 'e', 'm', 'a', 's', '/'] ++ key.toList) := by
    rw [toSchema, String.toList_append, ← List.append_assoc]
    exact congrArg (· ++ key.toList) (by decide +kernel)
  have hsection : String.ofList ['s', 'c', 'h', 'e', 'm', 'a', 's'] = "schemas" := by
    decide +kernel
  rw [keyIn, Text.stripStart?, hpath, dropStart?_append]
  simp [Text.splitOnce?, hsection]

lemma eq_of_splitOnce? {sep : Char} {s front rest : String}
    (h : Text.splitOnce? sep s = some (front, rest)) :
    s.toList = front.toList ++ sep :: rest.toList := by
  have hsplit := List.takeWhile_append_dropWhile (p := (· != sep)) (l := s.toList)
  rw [Text.splitOnce?] at h
  split at h
  · cases h
  · rename_i c cs hdrop
    obtain ⟨rfl, rfl⟩ := Prod.mk.inj (Option.some.inj h)
    have hc : c = sep := by
      have hhead := List.head?_dropWhile_not (· != sep) s.toList
      rw [hdrop] at hhead
      simpa using hhead
    rw [hdrop, hc] at hsplit
    rw [String.toList_ofList, String.toList_ofList, hsplit]

/-- The references that have a key in the section of the schemas are those to its components. -/
theorem keyIn_schemas_eq_ok_iff {path key : String} :
    keyIn "schemas" path = .ok key ↔ path = toSchema key := by
  refine ⟨fun h => ?_, fun h => h ▸ keyIn_toSchema key⟩
  rw [keyIn] at h
  split at h
  · cases h
  · rename_i found key' hsplit
    split at h
    · rename_i hfound
      obtain rfl := Except.ok.inj h
      obtain ⟨rest, hrest, hkey⟩ := Option.bind_eq_some_iff.1 hsplit
      obtain ⟨cs, hcs, rfl⟩ := Option.map_eq_some_iff.1 hrest
      have hpath := eq_append_of_dropStart? hcs
      have hsection := eq_of_splitOnce? hkey
      rw [String.toList_ofList, hfound] at hsection
      have hstart : schemasPath.toList = componentsPath.toList ++ "schemas".toList ++ ['/'] := by
        decide +kernel
      rw [← String.toList_inj, hpath, hsection, toSchema, String.toList_append, hstart]
      simp
    · cases h

lemma exists_unresolved_of_keyIn {wanted path : String} {fault : Fault}
    (h : keyIn wanted path = .error fault) : ∃ what, fault = .unresolved what := by
  rw [keyIn] at h
  split at h
  · exact ⟨_, (Except.error.inj h).symm⟩
  · split at h
    · cases h
    · exact ⟨_, (Except.error.inj h).symm⟩

variable {α β : Type} {wanted : String} {entries : Table (Referable α)}

/-! ## Chains -/

/-- A reference leads along some keys to the thing under the last one. -/
inductive Leads (wanted : String) (entries : Table (Referable α)) :
    String → List String → String → α → Prop
  | here {path key : String} {value : α} : keyIn wanted path = .ok key →
    entries.find? key = some (.inline value) → Leads wanted entries path [key] key value
  | step {path key next last : String} {keys : List String} {value : α} :
    keyIn wanted path = .ok key → entries.find? key = some (.ref next) →
    Leads wanted entries next keys last value → Leads wanted entries path (key :: keys) last value

/-- A reference leads to some thing. -/
def Resolves (wanted : String) (entries : Table (Referable α)) (path : String) : Prop :=
  ∃ keys last value, Leads wanted entries path keys last value

namespace Leads

variable {path last last' : String} {keys keys' : List String} {value value' : α}

/-- A reference leads to one thing only. -/
lemma unique (h : Leads wanted entries path keys last value) :
    ∀ {keys' last' value'}, Leads wanted entries path keys' last' value' →
      keys = keys' ∧ last = last' ∧ value = value' := by
  induction h with
  | here hkey hfind =>
    intro keys' last' value' h'
    cases h' with
    | here hkey' hfind' => simp_all
    | step hkey' hfind' _ => simp_all
  | step hkey hfind _ ih =>
    intro keys' last' value' h'
    cases h' with
    | here hkey' hfind' => simp_all
    | step hkey' hfind' hnext =>
      rw [hkey, Except.ok.injEq] at hkey'
      subst hkey'
      rw [hfind, Option.some.injEq, Referable.ref.injEq] at hfind'
      subst hfind'
      obtain ⟨rfl, rfl, rfl⟩ := ih hnext
      exact ⟨rfl, rfl, rfl⟩

/-- Chains are found by what a table answers. -/
lemma of_find?_eq {entries' : Table (Referable α)} (h : Leads wanted entries path keys last value)
    (heq : ∀ key, entries'.find? key = entries.find? key) :
    Leads wanted entries' path keys last value := by
  induction h with
  | here hkey hfind => exact .here hkey ((heq _).trans hfind)
  | step hkey hfind _ ih => exact .step hkey ((heq _).trans hfind) ih

/-- References to one key lead to the same thing. -/
lemma of_keyIn_eq {path' : String} (h : Leads wanted entries path keys last value)
    (heq : keyIn wanted path' = keyIn wanted path) :
    Leads wanted entries path' keys last value := by
  cases h with
  | here hkey hfind => exact .here (heq.trans hkey) hfind
  | step hkey hfind hnext => exact .step (heq.trans hkey) hfind hnext

/-- Every key along a chain begins a chain that is no longer. -/
lemma exists_of_mem (h : Leads wanted entries path keys last value) {key : String}
    (hmem : key ∈ keys) : ∃ path' keys', keyIn wanted path' = .ok key ∧
      Leads wanted entries path' keys' last value ∧ keys'.length ≤ keys.length := by
  induction h with
  | here hkey hfind =>
    obtain rfl := List.mem_singleton.1 hmem
    exact ⟨_, _, hkey, .here hkey hfind, Nat.le_refl _⟩
  | step hkey hfind hnext ih =>
    rcases List.mem_cons.1 hmem with rfl | hmem
    · exact ⟨_, _, hkey, .step hkey hfind hnext, Nat.le_refl _⟩
    · obtain ⟨path', keys', hkey', hchain, hle⟩ := ih hmem
      exact ⟨path', keys', hkey', hchain, Nat.le_succ_of_le hle⟩

/-- No key occurs twice along a chain. -/
theorem nodup (h : Leads wanted entries path keys last value) : keys.Nodup := by
  induction h with
  | here => exact List.nodup_singleton _
  | step hkey hfind hnext ih =>
    refine List.nodup_cons.2 ⟨fun hmem => ?_, ih⟩
    -- a second occurrence would begin the whole chain again, in fewer steps
    obtain ⟨path', keys', hkey', hchain, hle⟩ := hnext.exists_of_mem hmem
    obtain ⟨rfl, -, -⟩ := hchain.unique ((Leads.step hkey hfind hnext).of_keyIn_eq
      (hkey'.trans hkey.symm))
    simp only [List.length_cons] at hle
    omega

lemma keys_subset (h : Leads wanted entries path keys last value) : keys ⊆ entries.keys := by
  induction h with
  | here _ hfind => simpa using Table.mem_keys_of_find? hfind
  | step _ hfind _ ih => exact List.cons_subset.2 ⟨Table.mem_keys_of_find? hfind, ih⟩

/-- At the end of a chain there is the thing. -/
lemma find?_last (h : Leads wanted entries path keys last value) :
    entries.find? last = some (.inline value) := by
  induction h with
  | here _ hfind => exact hfind
  | step _ _ _ ih => exact ih

end Leads

/-! ## Following -/

variable {circular : String → Fault}

lemma exists_leads_of_follow {unvisited : List String} {path last : String} {value : α}
    (h : follow wanted entries circular unvisited path = .ok (last, value)) :
    ∃ keys, Leads wanted entries path keys last value := by
  induction unvisited, path using follow.induct wanted entries with
  | case1 unvisited path f hkey =>
    rw [follow, hkey] at h
    cases h
  | case2 unvisited path key hkey hfind =>
    rw [follow, hkey] at h
    simp only [hfind] at h
    cases h
  | case3 unvisited path key hkey hmem value hfind =>
    rw [follow_inline hkey hfind hmem] at h
    obtain ⟨rfl, rfl⟩ := Prod.mk.inj (Except.ok.inj h)
    exact ⟨_, .here hkey hfind⟩
  | case4 unvisited path key hkey hmem next hfind ih =>
    rw [follow_ref hkey hfind hmem] at h
    obtain ⟨keys, hkeys⟩ := ih h
    exact ⟨_, .step hkey hfind hkeys⟩
  | case5 unvisited path key hkey target hfind hmem =>
    rw [follow, hkey] at h
    simp only [hfind, hmem, if_false] at h
    cases h

/-- Following a reference gives one of the things that are there. -/
lemma mem_values_of_follow {unvisited : List String} {path : String} {value : α}
    (h : (follow wanted entries circular unvisited path).map (·.2) = .ok value) :
    .inline value ∈ entries.values := by
  cases hfollow : follow wanted entries circular unvisited path with
  | error fault =>
    rw [hfollow] at h
    cases h
  | ok found =>
    rw [hfollow] at h
    cases h
    obtain ⟨keys, hleads⟩ := exists_leads_of_follow hfollow
    exact Table.mem_values_of_find? hleads.find?_last

lemma follow_of_leads {path last : String} {keys : List String} {value : α}
    (h : Leads wanted entries path keys last value) :
    ∀ {unvisited}, keys ⊆ unvisited →
      follow wanted entries circular unvisited path = .ok (last, value) := by
  induction h with
  | here hkey hfind =>
    intro unvisited hsubset
    exact follow_inline hkey hfind (hsubset (List.mem_singleton_self _))
  | step hkey hfind hnext ih =>
    intro unvisited hsubset
    obtain ⟨hmem, hrest⟩ := List.cons_subset.1 hsubset
    rw [follow_ref hkey hfind hmem]
    refine ih fun k hk => ?_
    have hne := (List.nodup_cons.1 (Leads.step hkey hfind hnext).nodup).1
    exact (List.mem_erase_of_ne (by rintro rfl; exact hne hk)).2 (hrest hk)

/-- **Following succeeds exactly along a chain**: the memory of visited components only cuts off
references that lead nowhere. -/
theorem follow_eq_ok_iff {path last : String} {value : α} :
    follow wanted entries circular entries.keys path = .ok (last, value) ↔
      ∃ keys, Leads wanted entries path keys last value :=
  ⟨exists_leads_of_follow, fun ⟨_, h⟩ => follow_of_leads h h.keys_subset⟩

lemma exists_follow_eq_ok_iff {path : String} :
    (∃ found, follow wanted entries circular entries.keys path = .ok found) ↔
      Resolves wanted entries path := by
  constructor
  · rintro ⟨⟨last, value⟩, h⟩
    obtain ⟨keys, hkeys⟩ := follow_eq_ok_iff.1 h
    exact ⟨keys, last, value, hkeys⟩
  · rintro ⟨keys, last, value, h⟩
    exact ⟨_, follow_eq_ok_iff.2 ⟨keys, h⟩⟩

/-- Chains do not depend on what the things are. -/
theorem follow_map (f : α → β) (unvisited : List String) (path : String) :
    follow wanted (entries.map (Referable.mapInline f)) circular unvisited path =
      (follow wanted entries circular unvisited path).map fun found => (found.1, f found.2) := by
  have hfind {key : String} {target : Option (Referable α)} (h : entries.find? key = target) :
      (entries.map (Referable.mapInline f)).find? key = target.map (Referable.mapInline f) := by
    rw [Table.find?_map, h]
  induction unvisited, path using follow.induct wanted entries with
  | case1 unvisited path fault hkey =>
    rw [follow, follow, hkey]
    rfl
  | case2 unvisited path key hkey hnone =>
    rw [follow, follow, hkey]
    simp only [hfind hnone, hnone]
    rfl
  | case3 unvisited path key hkey hmem value hinline =>
    rw [follow_inline hkey hinline hmem, follow_inline hkey (hfind hinline) hmem]
    rfl
  | case4 unvisited path key hkey hmem next hnext ih =>
    rw [follow_ref hkey hnext hmem, follow_ref hkey (hfind hnext) hmem, ih]
  | case5 unvisited path key hkey target htarget hmem =>
    rw [follow, follow, hkey]
    simp only [hfind htarget, htarget, hmem, if_false]
    rfl

/-! ## Copies -/

/-- **Copies make no reference lead anywhere**: where things stand only for things and for
references that lead to a thing, and references only for such that lead nowhere, these still lead
nowhere.

**Proof sketch.** A chain goes on only at a reference that led nowhere before; but the rest of the
chain tells that it did. So the chain has a single key. -/
theorem resolves_of_copies {copies : Table (Referable β)}
    (href : ∀ key next, copies.find? key = some (.ref next) → ¬ Resolves wanted entries next)
    (hinline : ∀ key result, copies.find? key = some (.inline result) →
      (∃ value, entries.find? key = some (.inline value)) ∨
        ∃ next, entries.find? key = some (.ref next) ∧ Resolves wanted entries next)
    {path : String} (h : Resolves wanted copies path) : Resolves wanted entries path := by
  obtain ⟨keys, last, result, h⟩ := h
  induction h with
  | here hkey hfind =>
    rcases hinline _ _ hfind with ⟨value, hvalue⟩ | ⟨next, hnext, keys, last, value, hchain⟩
    · exact ⟨_, _, _, .here hkey hvalue⟩
    · exact ⟨_, _, _, .step hkey hnext hchain⟩
  | step _ hfind _ ih => exact absurd ih (href _ _ hfind)

end Reference

/-- The schema at the end of a reference is that of its component. -/
theorem Components.schema_toSchema {c : Components} {path key : String} {s : Schema}
    (h : c.schema path = .ok (key, s)) : c.schema (Reference.toSchema key) = .ok (key, s) := by
  obtain ⟨keys, hleads⟩ := Reference.follow_eq_ok_iff.1 h
  exact Reference.follow_eq_ok_iff.2
    ⟨[key], .here (Reference.keyIn_toSchema key) hleads.find?_last⟩

end ApiLowering
