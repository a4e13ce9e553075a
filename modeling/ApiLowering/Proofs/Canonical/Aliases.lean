import ApiLowering.Lowered
import ApiLowering.Proofs.Canonical.Outside
import ApiLowering.Proofs.Canonical.Steps
import ApiLowering.Proofs.Document.Schemas
import ApiLowering.Proofs.Document.Samples
import ApiLowering.Proofs.Hoisting.Traces
import ApiLowering.Proofs.Schema.Sameness

/-!
# Other names

A schema that says nothing but to have one component as its part, maybe several times, and maybe a
type, is another name for that component. A document may use other names wherever it refers to a
schema: its canonical form is the same, and so is the program.

## Main definitions

* `Schema.Wrapped` — some references of a schema have become other names.

## Main results

* `Schema.canonicalNode_alias` — the canonical form of another name is the reference.
* `Schema.canonicalRef_wrapped` — schemas with other names have the same canonical form.
* `Document.aliases_invisible` — documents with other names have the same canonical form and lower
  to the same program.
-/

namespace ApiLowering

open Canonical

/-! ## Other names -/

namespace HasSchemas

instance {α : Type} [HasSchemas α] [Extensional α] : Extensional (Additional α) where
  ext {a a'} hshape hschemas := by
    cases a with
    | allowed b =>
      cases a' with
      | allowed b' => exact hshape
      | values y => cases hshape
    | values x =>
      cases a' with
      | allowed b' => cases hshape
      | values y =>
        exact congrArg Additional.values
          (Extensional.ext (Additional.values.inj hshape) hschemas)

end HasSchemas

namespace Schema

/-- Some references have become schemas that have them as their only parts and may say a type
besides. Nothing else has changed. -/
inductive Wrapped : SchemaRef → SchemaRef → Prop
  /-- A reference stays. -/
  | ref (path : String) : Wrapped (.ref path) (.ref path)
  /-- A reference becomes the part of a schema, once or several times. The parts may themselves be
  other names. -/
  | wrap {path : String} {types : Option TypeSet} {parts : List SchemaRef} : parts ≠ [] →
    (∀ r ∈ parts, Wrapped (.ref path) r) →
    Wrapped (.ref path) (.inline { keywords := { types }, allOf := parts })
  /-- A schema stays but for what is below it. -/
  | node {s t : Schema} : s.SameNode t →
    (∀ x ∈ (schemas s.fields).zip (schemas t.fields), Wrapped x.1 x.2) →
    Wrapped (.inline s) (.inline t)

/-- Several copies of a reference are another name for it. -/
lemma Wrapped.copies (path : String) (types : Option TypeSet) (n : Nat) :
    Wrapped (.ref path)
      (.inline { keywords := { types }, allOf := List.replicate (n + 1) (.ref path) }) := by
  refine .wrap (by simp) fun r hr => ?_
  rw [List.eq_of_mem_replicate hr]
  exact .ref path

/-- Nothing needs to change. -/
lemma Wrapped.refl (r : SchemaRef) : Wrapped r r := by
  induction r using ref_induction with
  | ref path => exact .ref path
  | inline s ih =>
    refine .node ⟨rfl, rfl⟩ fun x hx => ?_
    have hself : x.1 = x.2 := by
      obtain ⟨i, hi, rfl⟩ := List.getElem_of_mem hx
      rw [List.getElem_zip]
    rw [← hself]
    exact ih x.1 (mem_schemas_fields.1 (List.of_mem_zip hx).1)

/-! ## Canonical forms -/

variable (sw : Switches)

/-- Copies of one reference come down to the first of them. -/
lemma distinctWith_replicate (path : String) (n : Nat) :
    distinctWith sameRef (List.replicate (n + 1) (.ref path)) = [.ref path] := by
  have hfrom (n : Nat) :
      distinctFrom sameRef [.ref path] (List.replicate n (.ref path)) = [] := by
    induction n with
    | zero => rfl
    | succ n ih =>
      have hsame : [Referable.ref path].any (sameRef · (.ref path)) = true := by
        simpa using sameRef_iff.2 (Eq.refl (gist (.ref path)))
      rw [List.replicate_succ, distinctFrom, if_pos hsame, ih]
  rw [List.replicate_succ, distinctWith, distinctFrom]
  exact congrArg (_ :: ·) (hfrom n)

/-- **The canonical form of another name is the reference**: the copies come down to one, which is
no inline schema, so that nothing is lifted; and a type alone is nothing that the schema adds. -/
lemma canonicalNode_alias (path : String) (types : Option TypeSet) (n : Nat) :
    canonicalNode sw { keywords := { types }, allOf := List.replicate (n + 1) (.ref path) } =
      .ref path := by
  obtain ⟨name, hname, hdistinct⟩ : ∃ name : Schema,
      (∃ types, name = { keywords := { types }, allOf := [.ref path] }) ∧
      distinctParts { keywords := { types }, allOf := List.replicate (n + 1) (.ref path) } =
        name := by
    rw [distinctParts, distinctWith_replicate]
    exact ⟨_, ⟨_, rfl⟩, rfl⟩
  have hkept : ((name.dropAlternatives sw).dropNulls sw).unifyParts = name := by
    obtain ⟨_, rfl⟩ := hname
    simp [dropAlternatives, dropNulls, unifyParts, Table.isEmpty]
  have hlift : name.lift.withType = name := by
    obtain ⟨types, rfl⟩ := hname
    have hself : ({ keywords := { types }, allOf := [.ref path] } : Schema).lift =
        { keywords := { types }, allOf := [.ref path] } := rfl
    simp [hself, withType, isEmpty]
  have halias : name.alias? = some path := by
    obtain ⟨_, rfl⟩ := hname
    have hempty : ({} : Schema).isEmpty = true := by decide
    exact alias?_eq_some_iff.2 ⟨rfl, hempty⟩
  rw [canonicalNode, hdistinct, hkept, hlift, collapse, halias]

/-- Schemas whose keywords are the same and whose children become the same become the same. -/
lemma SameNode.mapChildren_eq {s t : Schema} {f : SchemaRef → SchemaRef} (h : s.SameNode t)
    (hf : mapSchemas f t.fields = mapSchemas f s.fields) : t.mapChildren f = s.mapChildren f := by
  simp only [mapSchemas, Prod.mk.injEq] at hf
  obtain ⟨hproperties, hallOf, honeOf, hanyOf, hitems, hadditional, hnegated⟩ := hf
  simp only [mapChildren, mk.injEq]
  exact ⟨h.keywords, hproperties, hitems, hadditional, hnegated, hallOf, honeOf, hanyOf⟩

/-- **Schemas with other names have the same canonical form.** -/
theorem canonicalRef_wrapped {r r' : SchemaRef} (h : Wrapped r r') :
    canonicalRef sw r' = canonicalRef sw r := by
  induction h with
  | ref path => rfl
  | @wrap path types parts hne _ ih =>
    have hparts : parts.map (canonicalRef sw) =
        List.replicate (parts.length - 1 + 1) (.ref path) := by
      rw [Nat.sub_add_cancel (List.length_pos_iff.2 hne)]
      refine List.eq_replicate_iff.2 ⟨List.length_map _, fun q hq => ?_⟩
      obtain ⟨r, hr, rfl⟩ := List.mem_map.1 hq
      rw [ih r hr, canonicalRef_ref]
    rw [canonicalRef_inline, canonicalRef_ref, ← canonicalNode_alias sw path types, ← hparts]
    rfl
  | @node s t hnode _ ih =>
    have hfields : Alike (fun r r' => canonicalRef sw r' = canonicalRef sw r) s.fields t.fields :=
      ⟨hnode.fields, List.forall₂_iff_zip.2 ⟨hnode.fields.length_eq, fun hx => ih _ hx⟩⟩
    rw [canonicalRef_inline, canonicalRef_inline,
      hnode.mapChildren_eq (hfields.mapSchemas_eq fun _ _ h => h)]

end Schema

/-! ## Documents -/

namespace Document

open Schema

variable {d d' : Document}

/-- The canonical form depends on the canonical forms of the schemas only. -/
lemma canonical_eq_of_mapSchemas_eq (sw : Switches)
    (h : mapSchemas (canonicalRef sw) d' = mapSchemas (canonicalRef sw) d) :
    d'.canonical sw = d.canonical sw := by
  rw [canonical_eq, canonical_eq, h]

lemma danglingReferences_eq_of_sameShape (h : SameShape d d') :
    d'.danglingReferences = d.danglingReferences := by
  rw [← danglingReferences_mapSchemas (fun _ => .ref "") d',
    ← danglingReferences_mapSchemas (fun _ => .ref "") d, h]

lemma alike_ownedPets {r r' : SchemaRef} (h : Wrapped r r') :
    Alike Wrapped (ownedPets r) (ownedPets r') where
  shape := rfl
  related := .cons (.refl _) (.cons h (.cons (.node ⟨rfl, rfl⟩ fun _ hx =>
    List.mem_singleton.1 hx ▸ h) (.cons h (.cons h .nil))))

/-- **Other names are invisible.** A document in which references have become other names, wherever
schemas are, has the same canonical form, with the same warnings. So it lowers to the same program,
or fails with the same fault. -/
theorem aliases_invisible (h : Alike Wrapped d d') :
    (∀ sw, d'.canonical sw = d.canonical sw) ∧
      (∀ setup : Setup, setup.canonicalDocument d' = setup.canonicalDocument d) ∧
      ∀ o, d'.lowered o = d.lowered o := by
  have hcanonical (sw : Switches) : d'.canonical sw = d.canonical sw :=
    canonical_eq_of_mapSchemas_eq sw (h.mapSchemas_eq fun _ _ => canonicalRef_wrapped sw)
  have hsetup (setup : Setup) : setup.canonicalDocument d' = setup.canonicalDocument d := by
    rw [Setup.canonicalDocument, Setup.canonicalDocument, hcanonical,
      danglingReferences_eq_of_sameShape h.shape]
  refine ⟨hcanonical, hsetup, fun o => ?_⟩
  simp only [lowered, Setup.lower, Setup.prepare, hsetup]

/-- Another name for a component. Its only part is yet another one, a text that has the component as
its part twice. -/
def aliasOf (key : String) : SchemaRef :=
  .inline {
    allOf := [.inline {
      keywords := { types := some (.one .string) }
      allOf := List.replicate 2 (.ref (Reference.toSchema key)) }] }

/-- Owners of pets go by another name wherever they are used. -/
theorem aliases_invisible_ownedPets :
    Alike Wrapped (ownedPets (.ref (Reference.toSchema "Owner"))) (ownedPets (aliasOf "Owner")) ∧
    ∃ program warnings, (ownedPets (aliasOf "Owner")).lowered {} = .ok (program, warnings) ∧
      (ownedPets (.ref (Reference.toSchema "Owner"))).lowered {} = .ok (program, warnings) ∧
      program.models.map (·.classname) = ["Pet"] := by
  have hwrapped : Wrapped (.ref (Reference.toSchema "Owner")) (aliasOf "Owner") :=
    .wrap (by simp) fun _ hr => List.mem_singleton.1 hr ▸ .copies _ _ 1
  have h := alike_ownedPets hwrapped
  obtain ⟨program, warnings, hlowered, hmodels⟩ :=
    exists_lowered (d := ownedPets (.ref (Reference.toSchema "Owner"))) (o := {})
      (P := fun program => program.models.map (·.classname) = ["Pet"]) (by decide +kernel)
  exact ⟨h, program, warnings, ((aliases_invisible h).2.2 {}).trans hlowered, hlowered, hmodels⟩

end Document

end ApiLowering
