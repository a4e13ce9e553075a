import ApiLowering.Models.Inheritance
import ApiLowering.Proofs.Lists
import ApiLowering.Proofs.Run.Steps
import ApiLowering.Proofs.Tables
import Mathlib.Logic.Relation

/-!
# Lines of ancestors

Every draft has one line of ancestors, unless it runs into a cycle. The chain of ancestors is that
line. A parent has a shorter line than its children, so drafts in the order of the lengths of their
lines have their parents before them.

## Main definitions

* `Drafts.Links` — a draft has another one as its parent.
* `Drafts.Lineage` — the line of the ancestors of a draft.

## Main results

* `Drafts.ancestors_spec` — the chain of ancestors is the line, or there is a cycle.
* `Drafts.parentsFirst_spec` — an order with parents first holds all keys, and no parent after a
  child.
* `Drafts.parentsFirst_eq_error`, `Drafts.not_transGen_of_parentsFirst` — there is such an order
  exactly where there is no cycle.
-/

namespace ApiLowering

namespace Drafts

open Relation

/-- The message at a cycle. -/
def cycleFault (classname : String) : Fault :=
  .inconsistent s!"inheritance cycle through '{classname}'"

/-- A draft has another one as its parent. -/
def Links (ds : Drafts) (key parent : String) : Prop :=
  ∃ d, ds.find? key = some d ∧ d.parentKey = some parent

/-- The line of the ancestors of a draft. -/
inductive Lineage (ds : Drafts) : String → List String → Prop
  | missing {key : String} : ds.find? key = none → Lineage ds key []
  | root {key : String} {d : Draft} : ds.find? key = some d → d.parentKey = none →
    Lineage ds key []
  | step {key parent : String} {d : Draft} {keys : List String} : ds.find? key = some d →
    d.parentKey = some parent → Lineage ds parent keys → Lineage ds key (parent :: keys)

variable {ds : Drafts} {key parent : String} {keys unvisited : List String} {d : Draft}

lemma Links.unique {parent' : String} (h : Links ds key parent) (h' : Links ds key parent') :
    parent = parent' := by
  obtain ⟨d, hd, hparent⟩ := h
  obtain ⟨d', hd', hparent'⟩ := h'
  rw [hd, Option.some.injEq] at hd'
  subst hd'
  exact Option.some.inj (hparent.symm.trans hparent')

/-! ## Lines -/

namespace Lineage

/-- There is one line. -/
lemma unique (h : Lineage ds key keys) : ∀ {keys'}, Lineage ds key keys' → keys = keys' := by
  induction h with
  | missing hnone => intro keys' h'; cases h' <;> simp_all
  | root hd hroot => intro keys' h'; cases h' <;> simp_all
  | step hd hparent hline ih =>
    intro keys' h'
    cases h' with
    | missing hnone => simp_all
    | root hd' hroot => simp_all
    | step hd' hparent' hline' =>
      rw [hd, Option.some.injEq] at hd'
      subst hd'
      rw [hparent, Option.some.injEq] at hparent'
      subst hparent'
      rw [ih hline']

/-- The line of a draft goes on with the line of its parent. -/
lemma exists_of_links (h : Lineage ds key keys) (hlinks : Links ds key parent) :
    ∃ rest, keys = parent :: rest ∧ Lineage ds parent rest := by
  obtain ⟨d, hd, hparent⟩ := hlinks
  cases h with
  | missing hnone => simp_all
  | root hd' hroot => simp_all
  | step hd' hparent' hline =>
    rw [hd, Option.some.injEq] at hd'
    subst hd'
    rw [hparent, Option.some.injEq] at hparent'
    subst hparent'
    exact ⟨_, rfl, hline⟩

/-- Every ancestor has a line that is shorter. -/
lemma exists_of_mem (h : Lineage ds key keys) {ancestor : String} (hmem : ancestor ∈ keys) :
    ∃ rest, Lineage ds ancestor rest ∧ rest.length < keys.length := by
  induction h with
  | missing => cases hmem
  | root => cases hmem
  | step _ _ hline ih =>
    rcases List.mem_cons.1 hmem with rfl | hmem
    · exact ⟨_, hline, Nat.lt_succ_self _⟩
    · obtain ⟨rest, hrest, hlt⟩ := ih hmem
      exact ⟨rest, hrest, Nat.lt_succ_of_lt hlt⟩

/-- No draft is an ancestor of its own. -/
lemma not_mem (h : Lineage ds key keys) : key ∉ keys := by
  intro hmem
  obtain ⟨rest, hrest, hlt⟩ := h.exists_of_mem hmem
  rw [hrest.unique h] at hlt
  exact Nat.lt_irrefl _ hlt

/-- Everything that is reached from parent to parent is on the line. -/
lemma mem_of_transGen {ancestor : String} (hreach : TransGen (Links ds) key ancestor) :
    ∀ {keys}, Lineage ds key keys → ancestor ∈ keys := by
  induction hreach using TransGen.head_induction_on with
  | single hlinks =>
    intro keys h
    obtain ⟨rest, rfl, -⟩ := h.exists_of_links hlinks
    exact List.mem_cons_self
  | head hlinks _ ih =>
    intro keys h
    obtain ⟨rest, rfl, hline⟩ := h.exists_of_links hlinks
    exact List.mem_cons_of_mem _ (ih hline)

end Lineage

/-! ## Chains -/

lemma chain_missing (h : ds.find? key = none) : ds.chain unvisited key = .ok [] := by
  rw [chain, h]

lemma chain_root (hd : ds.find? key = some d) (hmem : key ∈ unvisited)
    (hroot : d.parentKey = none) : ds.chain unvisited key = .ok [] := by
  rw [chain, hd]
  simp only [if_pos hmem, hroot]

lemma chain_step (hd : ds.find? key = some d) (hmem : key ∈ unvisited)
    (hparent : d.parentKey = some parent) :
    ds.chain unvisited key = (ds.chain (unvisited.erase key) parent).map (parent :: ·) := by
  rw [chain, hd]
  simp only [if_pos hmem, hparent]

lemma chain_visited (hd : ds.find? key = some d) (hmem : key ∉ unvisited) :
    ds.chain unvisited key = .error (cycleFault d.model.classname) := by
  rw [chain, hd]
  simp only [if_neg hmem]
  rfl

/-- A chain is a line, or ends with the message at a cycle: everything visited leads to the key
where it ends. -/
lemma chain_spec (unvisited : List String) (key : String)
    (hvisited : ∀ k ∈ ds.keys, k ∉ unvisited → TransGen (Links ds) k key) :
    (∃ keys, ds.chain unvisited key = .ok keys ∧ Lineage ds key keys) ∨
      ∃ classname k, ds.chain unvisited key = .error (cycleFault classname) ∧
        TransGen (Links ds) k k := by
  cases hd : ds.find? key with
  | none => exact .inl ⟨[], chain_missing hd, .missing hd⟩
  | some d =>
    by_cases hmem : key ∈ unvisited
    · cases hparent : d.parentKey with
      | none => exact .inl ⟨[], chain_root hd hmem hparent, .root hd hparent⟩
      | some parent =>
        have hlinks : Links ds key parent := ⟨d, hd, hparent⟩
        have hrest := chain_spec (unvisited.erase key) parent fun k hk hvisited' => by
          by_cases hkey : k = key
          · exact hkey ▸ .single hlinks
          · refine (hvisited k hk fun h => hvisited' ?_).tail hlinks
            exact (List.mem_erase_of_ne hkey).2 h
        rw [chain_step hd hmem hparent]
        rcases hrest with ⟨keys, hchain, hline⟩ | ⟨classname, k, hchain, hcycle⟩
        · rw [hchain]
          exact .inl ⟨_, rfl, .step hd hparent hline⟩
        · rw [hchain]
          exact .inr ⟨classname, k, rfl, hcycle⟩
    · exact .inr ⟨_, key, chain_visited hd hmem,
        hvisited key (Table.mem_keys_of_find? hd) hmem⟩
termination_by unvisited.length
decreasing_by
  have := List.length_erase_of_mem hmem
  have := List.length_pos_of_mem hmem
  omega

/-- A draft has a line of ancestors, or there is a cycle. -/
theorem ancestors_spec (ds : Drafts) (key : String) :
    (∃ keys, ds.ancestors key = .ok keys ∧ Lineage ds key keys) ∨
      ∃ classname k, ds.ancestors key = .error (cycleFault classname) ∧
        TransGen (Links ds) k k :=
  chain_spec ds.keys key fun _ hk hnot => absurd hk hnot

/-! ## Parents first -/

/-- The keys with the lengths of their lines. -/
def depths (ds : Drafts) : Except Fault (List (String × Nat)) :=
  ds.keys.mapM fun key => return (key, (← ds.ancestors key).length)

lemma parentsFirst_eq (ds : Drafts) : ds.parentsFirst =
    ds.depths.map fun depths => (sortBy (fun a b => decide (a.2 ≤ b.2)) depths).map Prod.fst := by
  rw [parentsFirst, ← depths]
  cases ds.depths <;> rfl

lemma map_eq_ok_iff {α β : Type} {f : α → β} {x : Except Fault α} {b : β} :
    x.map f = .ok b ↔ ∃ a, x = .ok a ∧ f a = b := by
  cases x <;> simp [Except.map]

/-- In an order with parents first there are the keys, each with a line, and no parent after a
child. -/
theorem parentsFirst_spec {order : List String} (h : ds.parentsFirst = .ok order) :
    order.Perm ds.keys ∧ order.Pairwise (fun key later => ¬ Links ds key later) ∧
      ∀ key ∈ ds.keys, ∃ keys, Lineage ds key keys := by
  rw [parentsFirst_eq, map_eq_ok_iff] at h
  obtain ⟨depths, hdepths, rfl⟩ := h
  have hlines : List.Forall₂ (fun key e => e.1 = key ∧ ∃ keys, Lineage ds key keys ∧
      keys.length = e.2) ds.keys depths := by
    refine (forall₂_of_mapM_eq_ok hdepths).imp fun key e he => ?_
    rcases ds.ancestors_spec key with ⟨keys, hkeys, hline⟩ | ⟨classname, k, hfault, -⟩
    · rw [hkeys] at he
      obtain rfl := Except.ok.inj he
      exact ⟨rfl, keys, hline, rfl⟩
    · rw [hfault] at he
      cases he
  have hkeys : depths.map Prod.fst = ds.keys := by
    have hall : List.Forall₂ Eq (depths.map Prod.fst) ds.keys :=
      List.forall₂_map_left_iff.2 (hlines.flip.imp fun _ _ h => h.1)
    rwa [List.forall₂_eq_eq_eq] at hall
  have hdepth {e : String × Nat} (he : e ∈ depths) :
      ∃ keys, Lineage ds e.1 keys ∧ keys.length = e.2 := by
    obtain ⟨key, -, rfl, hline⟩ := exists_mem_right_of_forall₂ hlines he
    exact hline
  refine ⟨?_, ?_, fun key hkey => ?_⟩
  · rw [← hkeys]
    exact (sortBy_perm _ _).map Prod.fst
  · have hsorted : (sortBy (fun a b : String × Nat => decide (a.2 ≤ b.2)) depths).Pairwise
        fun a b => decide (a.2 ≤ b.2) = true :=
      pairwise_sortBy (by simpa using fun a b c => Nat.le_trans) (by simpa using Nat.le_total) _
    refine List.pairwise_map.2 (hsorted.imp_of_mem fun {a b} ha hb hle hlinks => ?_)
    -- the line of a child is longer by one than that of its parent
    obtain ⟨keys, hline, hlength⟩ := hdepth ((sortBy_perm _ _).mem_iff.1 ha)
    obtain ⟨keys', hline', hlength'⟩ := hdepth ((sortBy_perm _ _).mem_iff.1 hb)
    obtain ⟨rest, rfl, hrest⟩ := hline.exists_of_links hlinks
    rw [hrest.unique hline', List.length_cons] at hlength
    have hle := of_decide_eq_true hle
    omega
  · obtain ⟨e, -, -, keys, hline, -⟩ := exists_mem_left_of_forall₂ hlines hkey
    exact ⟨keys, hline⟩

/-- Where there is an order there is no cycle. -/
lemma not_transGen_of_parentsFirst {order : List String} (h : ds.parentsFirst = .ok order)
    (key : String) : ¬ TransGen (Links ds) key key := by
  intro hcycle
  obtain ⟨next, ⟨d, hd, -⟩, -⟩ := TransGen.head'_iff.1 hcycle
  have hkey : key ∈ ds.keys := Table.mem_keys_of_find? hd
  obtain ⟨keys, hline⟩ := (parentsFirst_spec h).2.2 key hkey
  exact hline.not_mem (Lineage.mem_of_transGen hcycle hline)

end Drafts

end ApiLowering
