import ApiLowering.Proofs.Document.Reading
import ApiLowering.Proofs.Document.Samples
import ApiLowering.Proofs.Hoisting.Effects

/-!
# What hoisting keeps

Hoisting loses nothing exactly as long as it gives no name to two schemas. A name is chosen before
what is below a schema is hoisted, and comes into use after that; so a schema below may take it, and
its component is replaced. Otherwise the references to the new components can be replaced by these
components, again and again, until the document is as it was.

## Main definitions

* `Document.hoisting` — what hoisting leaves of a document, and the components that it adds.
* `Document.withSchemas` — a document with more component schemas.
* `Schema.Restored` — what is left of a schema expands to the schema.

## Main results

* `Document.hoisted_eq` — the hoisted document is what is left, with the new components.
* `Document.hoisted_restores_iff` — what is left expands to the document exactly if nothing was
  lost.
* `Document.hoisted_loses_schema` — a document of which hoisting loses a schema.
-/

namespace ApiLowering

open Hoisting Schema

/-- What is left of a schema expands to the schema, up to the order of keys. -/
def Schema.Restored (added : Table SchemaRef) (before after : SchemaRef) : Prop :=
  ∃ whole, Expands added after whole ∧ sameRef whole before = true

namespace Document

variable (d : Document) (rules : Rules)

/-- The pool before anything is hoisted: the names of the components are in use. -/
def declaredPool : Pool := { used := d.parts.schemas.keys }

/-- What hoisting leaves of a document, and the pool of the components that it adds. -/
def hoisting : Document × Pool := walkDocument rules d d.declaredPool

/-- The document with more component schemas. -/
def withSchemas (added : Table SchemaRef) : Document :=
  if added.isEmpty then d
  else { d with
    components := some { d.parts with schemas := d.parts.schemas.insertAll added.entries } }

/-- The hoisted document is what is left of the document, with the new components. -/
lemma hoisted_eq :
    d.hoisted rules = (d.hoisting rules).1.withSchemas (d.hoisting rules).2.components := by
  have hempty : (d.hoisting rules).2.components.isEmpty = (d.hoisting rules).2.added.isEmpty :=
    Table.isEmpty_map _ _
  rw [withSchemas, hempty]
  rfl

/-- What depends neither on schemas nor on what is added to the components is the same in the
hoisted document. -/
lemma hoisted_induction {P : Document → Prop} (hP : ∀ f d, P (mapSchemas f d) ↔ P d)
    (hadded : ∀ d added, P d → P (withSchemas d added)) (h : P d) : P (d.hoisted rules) := by
  have hshape : SameShape d (d.hoisting rules).1 := (tracks_walkDocument rules d d.declaredPool).1
  rw [hoisted_eq]
  exact hadded _ _ ((hshape.iff hP).1 h)

variable {d}

lemma sound_declaredPool : Sound d.parts.schemas.keys d.declaredPool where
  covers := List.Subset.refl _
  used _ hname := .inl hname
  added _ hname := by cases hname
  nodup := List.nodup_nil
  lawful _ hs := by cases hs

/-- What hoisting does to a lawful document that refers to its own components only. -/
lemma effect_hoisting (hlawful : EverySchema (Every Lawful) d)
    (hdeclares : EverySchema (Declares d.parts.schemas.keys) d) :
    Effect d.parts.schemas.keys d.declaredPool ((schemas d).zip (schemas (d.hoisting rules).1))
      (d.hoisting rules).2 := by
  refine (tracks_walkDocument rules d d.declaredPool).2.effect sound_declaredPool fun x hx => ?_
  have hmem := (List.of_mem_zip hx).1
  exact ⟨hlawful _ hmem, hdeclares _ hmem⟩

/-- What is left of a document expands to the document if nothing was lost. -/
lemma restored_of_nothingLost (hlawful : EverySchema (Every Lawful) d)
    (hdeclares : EverySchema (Declares d.parts.schemas.keys) d)
    (h : NothingLost d.declaredPool (d.hoisting rules).2) :
    Alike (Restored (d.hoisting rules).2.components) d (d.hoisting rules).1 := by
  have hshape : SameShape d (d.hoisting rules).1 := (tracks_walkDocument rules d d.declaredPool).1
  have hwhole := (effect_hoisting rules hlawful hdeclares).outcome.resolve_right
    fun hbroken => hbroken.lost h
  refine ⟨hshape, List.forall₂_iff_zip.2 ⟨hshape.length_eq, fun hx => ?_⟩⟩
  obtain ⟨whole, hexpands, hgist, -⟩ := hwhole.restores _ hx
  exact ⟨whole, hexpands, sameRef_iff.2 hgist⟩

/-- If something was lost, what is left of some schema has no expansion: a chain of references from
it goes on forever. -/
lemma nothingLost_of_restored (hlawful : EverySchema (Every Lawful) d)
    (hdeclares : EverySchema (Declares d.parts.schemas.keys) d)
    (h : Alike (Restored (d.hoisting rules).2.components) d (d.hoisting rules).1) :
    NothingLost d.declaredPool (d.hoisting rules).2 := by
  refine (effect_hoisting rules hlawful hdeclares).outcome.elim Whole.nothingLost fun hbroken => ?_
  obtain ⟨x, hx, first, hfirst, hendless⟩ := hbroken.endless
  obtain ⟨whole, hexpands, -⟩ := (List.forall₂_iff_zip.1 h.related).2 hx
  exact absurd (hexpands.grounded hfirst) hendless

end Document

/-! ## Documents of objects -/

namespace Schema

lemma children_ofProperties (es : List (String × SchemaRef)) :
    ({ properties := ⟨es⟩ } : Schema).children = es.map Prod.snd := by
  simp [children, Table.values]

lemma every_lawful_ofProperties {es : List (String × SchemaRef)} (hkeys : (es.map Prod.fst).Nodup)
    (h : ∀ e ∈ es, Every Lawful e.2) : Every Lawful (ofProperties es) := by
  refine .inline ⟨by rintro e ⟨⟩, hkeys⟩ fun r hr => ?_
  rw [children_ofProperties] at hr
  obtain ⟨e, he, rfl⟩ := List.mem_map.1 hr
  exact h e he

lemma declares_ofProperties {declared : List String} {es : List (String × SchemaRef)}
    (h : ∀ e ∈ es, Declares declared e.2) : Declares declared (ofProperties es) := by
  intro name hname
  obtain ⟨r, hr, hrefers⟩ := refers_inline_iff.1 hname
  rw [children_ofProperties] at hr
  obtain ⟨e, he, rfl⟩ := List.mem_map.1 hr
  exact h e he name hrefers

lemma declares_toSchema {declared : List String} {key : String} (h : key ∈ declared) :
    Declares declared (.ref (Reference.toSchema key)) := by
  intro name hname
  rw [refers_ref_iff, Reference.keyIn_toSchema, Except.ok.injEq] at hname
  exact hname ▸ h

lemma every_lawful_text : Every Lawful text :=
  .inline ⟨by rintro e ⟨⟩, List.nodup_nil⟩ (by rintro r ⟨⟩)

lemma declares_text {declared : List String} : Declares declared text := by
  rintro name hname
  obtain ⟨r, ⟨⟩, -⟩ := refers_inline_iff.1 hname

end Schema

namespace Document

lemma every_ofSchemas {P : SchemaRef → Prop} {es : List (String × SchemaRef)}
    (h : ∀ e ∈ es, P e.2) : EverySchema P (ofSchemas es) := by
  have hschemas : EverySchema P (⟨es⟩ : Table SchemaRef) := by
    refine EverySchema.table_iff.2 fun r hr => EverySchema.ref_iff.2 ?_
    obtain ⟨e, he, rfl⟩ := List.mem_map.1 hr
    exact h e he
  refine EverySchema.document_iff.2 ⟨EverySchema.option_iff.2 fun c hc => ?_, ?_, ?_⟩
  · obtain rfl := Option.some.inj hc
    refine EverySchema.components_iff.2 ⟨hschemas, ?_, ?_, ?_, ?_⟩ <;> rintro r ⟨⟩
  · rintro r ⟨⟩
  · rintro r ⟨⟩

end Document

/-! ## The hoisted document -/

namespace Document

variable {d : Document} (rules : Rules)

/-- **What hoisting keeps.** The hoisted document is what is left of the document and the new
components, none of which takes the place of a declared one. Replacing the references to the new
components by these, again and again, comes to an end and gives back the document, exactly if every
name that was given out made a component of its own. -/
theorem hoisted_restores_iff (hlawful : EverySchema (Every Lawful) d)
    (hdeclares : EverySchema (Declares d.parts.schemas.keys) d) :
    let added := (d.hoisting rules).2.components
    d.hoisted rules = (d.hoisting rules).1.withSchemas added ∧
      (∀ key ∈ added.keys, key ∉ d.parts.schemas.keys) ∧
      (Alike (Restored added) d (d.hoisting rules).1 ↔
        NothingLost d.declaredPool (d.hoisting rules).2) := by
  intro added
  refine ⟨hoisted_eq d rules, fun key hkey => ?_, nothingLost_of_restored rules hlawful hdeclares,
    restored_of_nothingLost rules hlawful hdeclares⟩
  have hadded : key ∈ (d.hoisting rules).2.added.keys := by
    rwa [← Table.keys_map Referable.inline (d.hoisting rules).2.added]
  exact ((effect_hoisting rules hlawful hdeclares).sound.added key hadded).2


/-- An owner of a pet or a store. -/
def owner : SchemaRef := ofProperties [("name", text), ("address", ofProperties [("city", text)])]

/-- Pets and stores with owners, and pets with friends. -/
def owners : Document :=
  ofSchemas [
    ("Pet", ofProperties [("owner", owner), ("friend", .ref (Reference.toSchema "Pet"))]),
    ("Store", ofProperties [("owner", owner)])]

theorem hoisted_restores_iff_owners :
    (owners.hoisting {}).2.added.keys = ["PetOwnerAddress", "PetOwner"] ∧
      Alike (Restored (owners.hoisting {}).2.components) owners (owners.hoisting {}).1 := by
  have hlawful : Every Lawful owner := by
    refine every_lawful_ofProperties (by decide)
      (List.forall_mem_cons.2 ⟨every_lawful_text, List.forall_mem_singleton.2 ?_⟩)
    exact every_lawful_ofProperties (by decide) (List.forall_mem_singleton.2 every_lawful_text)
  have hdeclares : Declares ["Pet", "Store"] owner := by
    refine declares_ofProperties
      (List.forall_mem_cons.2 ⟨declares_text, List.forall_mem_singleton.2 ?_⟩)
    exact declares_ofProperties (List.forall_mem_singleton.2 declares_text)
  refine ⟨by decide +kernel, ((hoisted_restores_iff {} ?_ ?_).2.2).2 (by decide +kernel)⟩
  · refine every_ofSchemas (List.forall_mem_cons.2 ⟨?_, List.forall_mem_singleton.2 ?_⟩)
    · exact every_lawful_ofProperties (by decide)
        (List.forall_mem_cons.2 ⟨hlawful, List.forall_mem_singleton.2 (.ref _)⟩)
    · exact every_lawful_ofProperties (by decide) (List.forall_mem_singleton.2 hlawful)
  · refine every_ofSchemas (List.forall_mem_cons.2 ⟨?_, List.forall_mem_singleton.2 ?_⟩)
    · exact declares_ofProperties (List.forall_mem_cons.2
        ⟨hdeclares, List.forall_mem_singleton.2 (declares_toSchema (by decide))⟩)
    · exact declares_ofProperties (List.forall_mem_singleton.2 hdeclares)

/-- A pet whose owner has a property that is no word. -/
def underscored : Document :=
  ofSchemas [("Pet", ofProperties [("owner", ofProperties [("_", ofProperties [("name", text)])])])]

/-- **Hoisting can lose a schema.** The owner and what is below the underscore are to have the same
name; the owner is given it first, but what is below comes into the pool under it first, and the
component of the owner takes its place. -/
theorem hoisted_loses_schema :
    EverySchema (Every Lawful) underscored ∧
      EverySchema (Declares underscored.parts.schemas.keys) underscored ∧
      (underscored.hoisting {}).2.added.keys = ["PetOwner"] ∧
      ¬ Alike (Restored (underscored.hoisting {}).2.components) underscored
        (underscored.hoisting {}).1 := by
  have hlawful : EverySchema (Every Lawful) underscored := by
    refine every_ofSchemas (List.forall_mem_singleton.2 ?_)
    iterate 3 refine every_lawful_ofProperties (by decide) (List.forall_mem_singleton.2 ?_)
    exact every_lawful_text
  have hdeclares : EverySchema (Declares underscored.parts.schemas.keys) underscored := by
    refine every_ofSchemas (List.forall_mem_singleton.2 ?_)
    iterate 3 refine declares_ofProperties (List.forall_mem_singleton.2 ?_)
    exact declares_text
  refine ⟨hlawful, hdeclares, by decide +kernel, fun h => ?_⟩
  have hlost : ¬ NothingLost underscored.declaredPool (underscored.hoisting {}).2 := by
    decide +kernel
  exact hlost (nothingLost_of_restored {} hlawful hdeclares h)

end Document

end ApiLowering
