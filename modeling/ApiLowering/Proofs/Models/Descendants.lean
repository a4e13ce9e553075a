import ApiLowering.Proofs.Models.Drafting
import Mathlib.Data.List.Induction
import Mathlib.Data.List.Perm.Subperm
import Mathlib.Logic.Relation

/-!
# Descendants

The search for the schemas that have another one as a part finds exactly those from which that one
is reached, each once, whether or not there are cycles among them. Parts are taken by the keys that
are written: a component that is a reference itself has no parts, and is not looked through.

The search counts its visits, but the count is never what ends it: it is the same as a traversal
that goes on until nothing is left to visit.

## Main definitions

* `Components.HasPart` — a component refers to another one as a part.
* `Components.Search` — what has been found, and what is still to be visited.
* `Components.Traverses` — visiting until nothing is left, child by child.

## Main results

* `Components.hasPart_iff` — parts are references in the lists of components themselves.
* `Components.Search.visit` — one visit.
* `Components.traverses_descend` — enough visits are a traversal.
* `Components.mem_descendants_iff`, `Components.nodup_descendants` — what it finds.
* `Components.traverses_iff_descendants` — the traversal ends with the descendants, each once.
-/

namespace ApiLowering

namespace Components

open Relation

variable {c : Components} {root key child parent current : String} {found stack : List String}

/-! ## Parts -/

/-- A component refers to another one as a part. -/
def HasPart (c : Components) (child parent : String) : Prop :=
  ∃ r, (child, r) ∈ c.schemas.entries ∧ parent ∈ partKeys r

lemma mem_partKeys_inline_iff {s : Schema} : parent ∈ partKeys (.inline s) ↔
    ∃ path ∈ Resolver.partPaths s, Reference.keyIn "schemas" path = .ok parent := by
  have hkey (path : String) : (Reference.keyIn "schemas" path).toOption = some parent ↔
      Reference.keyIn "schemas" path = .ok parent := by
    cases Reference.keyIn "schemas" path <;> simp [Except.toOption]
  simp only [partKeys, Resolver.partPaths, List.mem_filterMap, Option.bind_eq_some_iff, hkey]
  constructor
  · rintro ⟨r, hr, path, hpath, hok⟩
    exact ⟨path, ⟨r, hr, hpath⟩, hok⟩
  · rintro ⟨path, ⟨r, hr, hpath⟩, hok⟩
    exact ⟨r, hr, path, hpath, hok⟩

/-- The children of a schema are the components that have it as a part. -/
lemma mem_children_iff : child ∈ c.children parent ↔ c.HasPart child parent := by
  simp only [children, List.mem_flatMap, List.mem_filterMap, Option.ite_none_right_eq_some,
    Option.some.injEq]
  constructor
  · rintro ⟨⟨key, r⟩, he, part, hpart, rfl, rfl⟩
    exact ⟨r, he, hpart⟩
  · rintro ⟨r, he, hpart⟩
    exact ⟨(child, r), he, parent, hpart, rfl, rfl⟩

/-- The parts of a component are the schemas that its own list of parts refers to. -/
theorem hasPart_iff : c.HasPart child parent ↔ ∃ s : Schema,
    (child, .inline s) ∈ c.schemas.entries ∧ .ref (Reference.toSchema parent) ∈ s.allOf := by
  constructor
  · rintro ⟨r, hr, hpart⟩
    cases r with
    | ref path => exact absurd hpart List.not_mem_nil
    | inline s =>
      obtain ⟨path, hpath, hkey⟩ := mem_partKeys_inline_iff.1 hpart
      rw [Reference.keyIn_schemas_eq_ok_iff.1 hkey, Resolver.mem_partPaths_iff] at hpath
      exact ⟨s, hr, hpath⟩
  · rintro ⟨s, hr, hmem⟩
    exact ⟨_, hr, mem_partKeys_inline_iff.2
      ⟨_, Resolver.mem_partPaths_iff.2 hmem, Reference.keyIn_toSchema parent⟩⟩

lemma HasPart.mem_keys (h : c.HasPart child parent) : child ∈ c.schemas.keys := by
  obtain ⟨r, he, -⟩ := h
  exact List.mem_map_of_mem he

/-! ## The search for descendants -/

/-- A state of the search: what has been found descends from the root, and the children of all that
is not on the stack any more have been found. -/
structure Search (c : Components) (root : String) (found stack : List String) : Prop where
  nodup : found.Nodup
  descends : ∀ k ∈ found, k ≠ root ∧ TransGen c.HasPart k root
  pending : ∀ k ∈ stack, k = root ∨ k ∈ found
  closed : ∀ k, k = root ∨ k ∈ found → k ∉ stack →
    ∀ child, c.HasPart child k → child = root ∨ child ∈ found

/-- The children of a visited schema that have not been found. -/
def fresh (c : Components) (root : String) (found : List String) (current : String) :
    List String :=
  (distinctBy id (c.children current)).filter fun child => child != root && !found.contains child

lemma mem_fresh_iff : child ∈ c.fresh root found current ↔
    c.HasPart child current ∧ child ≠ root ∧ child ∉ found := by
  simp [fresh, mem_distinctBy_id, mem_children_iff]

namespace Search

lemma start (c : Components) (root : String) : Search c root [] [root] where
  nodup := List.nodup_nil
  descends _ hk := (List.not_mem_nil hk).elim
  pending k hk := .inl (List.mem_singleton.1 hk)
  closed k hk hpending := by
    rcases hk with rfl | hk
    · exact absurd (List.mem_singleton_self k) hpending
    · exact absurd hk List.not_mem_nil

/-- **One visit**: the children of the visited schema are found, and put on the stack. -/
theorem visit (h : Search c root found (current :: stack)) :
    Search c root (found ++ c.fresh root found current)
      ((c.fresh root found current).reverse ++ stack) where
  nodup := by
    have hfresh : (c.fresh root found current).Nodup := by
      have hnodup := map_distinctBy_nodup id (c.children current)
      rw [List.map_id] at hnodup
      exact hnodup.filter _
    exact h.nodup.append hfresh fun k hk hk' => (mem_fresh_iff.1 hk').2.2 hk
  descends k hk := by
    rcases List.mem_append.1 hk with hk | hk
    · exact h.descends k hk
    · obtain ⟨hpart, hne, -⟩ := mem_fresh_iff.1 hk
      refine ⟨hne, ?_⟩
      rcases h.pending current List.mem_cons_self with rfl | hcurrent
      · exact .single hpart
      · exact .head hpart (h.descends current hcurrent).2
  pending k hk := by
    rw [List.mem_append, List.mem_reverse] at hk
    rcases hk with hk | hk
    · exact .inr (List.mem_append_right _ hk)
    · exact (h.pending k (List.mem_cons_of_mem _ hk)).imp_right (List.mem_append_left _)
  closed k hk hpending child hpart := by
    rw [List.mem_append, List.mem_reverse, not_or] at hpending
    by_cases hcurrent : k = current
    · -- what the visited schema has as a child is the root, or was found before, or is now
      subst hcurrent
      by_cases hroot : child = root
      · exact .inl hroot
      · by_cases hchild : child ∈ found
        · exact .inr (List.mem_append_left _ hchild)
        · exact .inr (List.mem_append_right _ (mem_fresh_iff.2 ⟨hpart, hroot, hchild⟩))
    · have hold : k = root ∨ k ∈ found := by
        rcases hk with hk | hk
        · exact .inl hk
        · exact .inr ((List.mem_append.1 hk).resolve_right hpending.1)
      have hstack : k ∉ current :: stack := by
        rw [List.mem_cons, not_or]
        exact ⟨hcurrent, hpending.2⟩
      exact (h.closed k hold hstack child hpart).imp_right (List.mem_append_left _)

/-- What has been found are keys, so there are no more of it. -/
lemma length_le (h : Search c root found stack) : found.length ≤ c.schemas.size := by
  rw [Table.size_eq_length_keys]
  refine (List.subperm_of_subset h.nodup fun k hk => ?_).length_le
  obtain ⟨parent, hpart, -⟩ := TransGen.head'_iff.1 (h.descends k hk).2
  exact hpart.mem_keys

/-- When nothing is left to visit, everything has been found from which the root is reached. -/
lemma mem_of_transGen (h : Search c root found []) (hreach : TransGen c.HasPart key root)
    (hne : key ≠ root) : key ∈ found := by
  have hfound : key = root ∨ key ∈ found := by
    refine hreach.to_reflTransGen.head_induction_on (motive := fun k _ => k = root ∨ k ∈ found)
      (.inl rfl) fun {k next} hpart _ hnext => ?_
    exact h.closed next hnext List.not_mem_nil k hpart
  exact hfound.resolve_left hne

end Search

/-! ## Visiting until nothing is left -/

/-- Meets a child of the visited schema: unless it is the root or has been found, it is found, and
put on the stack. -/
def meet (root : String) (state : List String × List String) (child : String) :
    List String × List String :=
  if child ≠ root ∧ child ∉ state.1 then (state.1 ++ [child], child :: state.2) else state

/-- Visiting the keys of a stack, the top first, until nothing is left. -/
inductive Traverses (c : Components) (root : String) :
    List String × List String → List String → Prop
  | done (found : List String) : Traverses c root (found, []) found
  | visit {current : String} {found stack result : List String} :
    Traverses c root ((c.children current).foldl (meet root) (found, stack)) result →
    Traverses c root (found, current :: stack) result

/-- To meet the children of a schema is to find those that are new, all at once. -/
lemma foldl_meet (c : Components) (root current : String) (found stack : List String) :
    (c.children current).foldl (meet root) (found, stack) =
      (found ++ c.fresh root found current, (c.fresh root found current).reverse ++ stack) := by
  rw [fresh]
  induction c.children current using List.reverseRecOn with
  | nil => simp [distinctBy, distinctWith, distinctFrom]
  | append_singleton children child ih =>
    rw [List.foldl_append, ih, List.foldl_cons, List.foldl_nil, distinctBy_concat, List.map_id,
      id_eq, meet]
    by_cases hagain : child ∈ children
    · -- a child that is met again has been found, or is the root
      rw [if_pos hagain, if_neg]
      rintro ⟨hroot, hfound⟩
      rw [List.mem_append, not_or] at hfound
      exact hfound.2 (by simp [mem_distinctBy_id, hagain, hroot, hfound.1])
    · rw [if_neg hagain, List.filter_append]
      by_cases hnew : child ≠ root ∧ child ∉ found
      · rw [if_pos (by simp [mem_distinctBy_id, hagain, hnew]),
          List.filter_cons_of_pos (by simpa using hnew)]
        simp
      · rw [if_neg fun h => hnew ⟨h.1, fun hfound => h.2 (List.mem_append_left _ hfound)⟩,
          List.filter_cons_of_neg (by simpa using hnew)]
        simp

/-- A traversal has one result only. -/
lemma Traverses.unique {state : List String × List String} {result result' : List String}
    (h : c.Traverses root state result) (h' : c.Traverses root state result') :
    result = result' := by
  induction h with
  | done => cases h'; rfl
  | visit _ ih =>
    cases h' with
    | visit h' => exact ih h'

/-- With as many visits as there are keys to find and to visit, the search is a traversal. -/
lemma traverses_descend (n : ℕ) (h : Search c root found stack)
    (hn : c.schemas.size + stack.length ≤ n + found.length) :
    c.Traverses root (found, stack) (c.descend root n found stack) := by
  induction n generalizing found stack with
  | zero =>
    have hlength := h.length_le
    obtain rfl := List.length_eq_zero_iff.1 (show stack.length = 0 by omega)
    exact .done found
  | succ n ih =>
    cases stack with
    | nil => exact .done found
    | cons current stack =>
      refine .visit ?_
      rw [foldl_meet]
      refine ih h.visit ?_
      rw [List.length_append, List.length_append, List.length_reverse]
      rw [List.length_cons] at hn
      omega

/-- A traversal goes on with the search until nothing is left to visit. -/
lemma Search.traverses {state : List String × List String} {result : List String}
    (h : Search c root state.1 state.2) (ht : c.Traverses root state result) :
    Search c root result [] := by
  induction ht with
  | done => exact h
  | visit _ ih =>
    refine ih ?_
    rw [foldl_meet]
    exact h.visit

/-! ## Descendants -/

/-- The search for descendants is a traversal that begins with the schema. -/
lemma traverses_descendants (c : Components) (key : String) :
    c.Traverses key ([], [key]) (c.descendants key) :=
  traverses_descend _ (.start c key) (by simp)

/-- The search for descendants ends with nothing left to visit. -/
theorem search_descendants (c : Components) (key : String) :
    Search c key (c.descendants key) [] :=
  Search.traverses (.start c key) (c.traverses_descendants key)

/-- **The descendants of a schema** are the other components from which it is reached. -/
theorem mem_descendants_iff :
    child ∈ c.descendants key ↔ child ≠ key ∧ TransGen c.HasPart child key := by
  have hsearch := c.search_descendants key
  constructor
  · exact hsearch.descends child
  · rintro ⟨hne, hreach⟩
    exact hsearch.mem_of_transGen hreach hne

lemma nodup_descendants (c : Components) (key : String) : (c.descendants key).Nodup :=
  (c.search_descendants key).nodup

/-- **The traversal ends with the descendants, each once**: these are the other components from
which the schema is reached by references in the lists of components themselves. -/
theorem traverses_iff_descendants (c : Components) (key : String) :
    (∀ found, c.Traverses key ([], [key]) found ↔ found = c.descendants key) ∧
      (c.descendants key).Nodup ∧
      ∀ descendant, descendant ∈ c.descendants key ↔
        descendant ≠ key ∧ TransGen (fun child parent => ∃ s : Schema,
          (child, .inline s) ∈ c.schemas.entries ∧ .ref (Reference.toSchema parent) ∈ s.allOf)
          descendant key := by
  have hends := c.traverses_descendants key
  refine ⟨fun _ => ⟨fun h => h.unique hends, fun h => h ▸ hends⟩, c.nodup_descendants key,
    fun descendant => mem_descendants_iff.trans ?_⟩
  have hpart : c.HasPart = _ := funext₂ fun child parent => propext hasPart_iff
  rw [hpart]

end Components

end ApiLowering
