import ApiLowering.Proofs.Document.Samples
import ApiLowering.Proofs.Models.Built

/-!
# Discriminators of interfaces

The property that an interface goes by is marked in the models that the interface maps to, as far as
they declare it. What a model has from an interface that it extends is copied after that, as it is.

## Main definitions

* `Property.CopyOf` — a property is that of an interface.

## Main results

* `Document.discriminates_of_lowered` — declared properties are marked, and others are copies.
* `Document.copied_discriminator_is_optional` — a copy that is not marked.
-/

namespace ApiLowering

open Schema

/-- A property is that of an interface, as far as discriminators go. -/
structure Property.CopyOf (v w : Property) : Prop where
  name : v.name = w.name
  baseName : v.baseName = w.baseName
  required : v.required = w.required
  isNullable : v.isNullable = w.isNullable
  isReadOnly : v.isReadOnly = w.isReadOnly
  isDiscriminator : w.isDiscriminator = true → v.isDiscriminator = true

lemma Property.CopyOf.discriminates {v w : Property} (h : v.CopyOf w) (hw : w.Discriminates) :
    v.Discriminates :=
  ⟨h.isDiscriminator hw.1, h.required.trans hw.2.1, h.isNullable.trans hw.2.2.1,
    h.isReadOnly.trans hw.2.2.2⟩

lemma Property.copyOf_fromInterface (w : Property) (d : Option ModelDiscriminator) :
    (w.fromInterface d).CopyOf w := by
  rw [fromInterface]
  split
  · exact ⟨rfl, rfl, rfl, rfl, rfl, fun _ => rfl⟩
  · exact ⟨rfl, rfl, rfl, rfl, rfl, id⟩

/-- Finished copies are copies of finished properties. -/
lemma Property.CopyOf.finished {g : Property → Property} (hg : ∀ p, FinishedFrom p (g p))
    {v w : Property} (h : v.CopyOf w) : (g v).CopyOf (g w) := by
  obtain ⟨_, _, _, _, hv⟩ := hg v
  obtain ⟨_, _, _, _, hw⟩ := hg w
  rw [hv, hw]
  exact ⟨h.name, h.baseName, h.required, h.isNullable, h.isReadOnly, h.isDiscriminator⟩

namespace Resolver.Builds

variable {r : Resolver} {ds folded : Drafts} {g : Property → Property} {models : List Model}
  {key : String} {d alone last : Draft} {m : Model}

/-- The properties of a model are those of its draft, as interfaces mark them, and then copies of
those of the interface that its schema extends. -/
lemma exists_vars_eq (h : Builds r ds folded g models) (hway : Way r ds folded key d alone last)
    (hm : last.model.FinishedFrom g m) : ∃ copies,
      m.vars = (r.setup.linked (Setup.interfaceLinks ds) d.model).vars.map g ++ copies ∧
      ∀ v ∈ copies, ∃ i ∈ models, i.isOneOfInterface = true ∧
        (∃ s t, r.SchemaAt key s ∧ r.HasParent s i.name t) ∧ ∃ w ∈ i.vars, v.CopyOf w := by
  rw [hway.vars_eq hm]
  rcases h.lift_cases hway with
    ⟨halone, -⟩ | ⟨i, hi, hinterface, hparent, added, halone, hadded⟩
  · refine ⟨[], ?_, fun v hv => ?_⟩
    · rw [halone, List.append_nil]
    · cases hv
  · refine ⟨added.map g, ?_, fun v hv => ?_⟩
    · rw [halone, Model.vars_withInterface, List.map_append]
    · obtain ⟨copy, hcopy, rfl⟩ := List.mem_map.1 hv
      obtain ⟨w, hw, rfl⟩ := hadded copy hcopy
      obtain ⟨s, classname, hs, hof⟩ := h.exists_draftOf hway.draft
      obtain ⟨t, ht⟩ := hof.hasParent hparent
      exact ⟨i, hi, hinterface, ⟨s, t, hs, ht⟩, g w, hw,
        (Property.copyOf_fromInterface w _).finished h.finishing⟩

/-- An interface has its link. -/
lemma exists_link (h : Builds r ds folded g models) {i : Model} (hi : i ∈ models)
    (hinterface : i.isOneOfInterface = true) {discriminator : ModelDiscriminator}
    (hdiscriminator : i.discriminator = some discriminator) :
    ∃ link ∈ Setup.interfaceLinks ds, link.classname = i.classname ∧
      link.discriminator = some discriminator ∧
      discriminator.mappedModels.map (·.modelName) ⊆ link.members := by
  obtain ⟨key, d, alone, last, hway, hfinished⟩ := h.exists_way_of_mem hi
  obtain ⟨hclass, hflag, hdiscriminator'⟩ := hway.kept hfinished
  rw [hflag] at hinterface
  rw [hdiscriminator'] at hdiscriminator
  refine ⟨⟨d.model.classname, addNew d.model.oneOf (discriminator.mappedModels.map (·.modelName)),
    d.model.discriminator⟩, ?_, hclass.symm, hdiscriminator, ?_⟩
  · refine List.mem_filterMap.2 ⟨d, Table.mem_values_of_find? hway.draft, ?_⟩
    rw [Model.interfaceLink?, if_pos hinterface, hdiscriminator]
    rfl
  · exact fun name hname => mem_addNew_of_mem hname

end Resolver.Builds

/-- **Discriminators.** In a model that an interface maps to, the property that the interface goes
by is marked wherever the model declares it. Other properties are copies of those of an interface
that the schema of the model extends. -/
theorem Document.discriminates_of_lowered {d : Document} {o : Options} {program : Program}
    {warnings : List String} (h : d.lowered o = .ok (program, warnings)) {i m : Model}
    {discriminator : ModelDiscriminator} (hi : i ∈ program.models)
    (hinterface : i.isOneOfInterface = true) (hdiscriminator : i.discriminator = some discriminator)
    (hm : m ∈ program.models) (hmapped : m.classname ∈ discriminator.mappedModels.map (·.modelName))
    (hne : m.classname ≠ i.classname) :
    ∃ r declared copies, d.resolver o = .ok r ∧ m.vars = declared ++ copies ∧
      (∀ v ∈ declared, v.baseName = discriminator.propertyBaseName → v.Discriminates) ∧
      ∀ v ∈ copies, ∃ j ∈ program.models, j.isOneOfInterface = true ∧
        (∃ s t, r.SchemaAt m.name s ∧ r.HasParent s j.name t) ∧ ∃ w ∈ j.vars, v.CopyOf w := by
  obtain ⟨r, ds, folded, g, hr, hbuilds⟩ := builds_of_lowered h
  obtain ⟨key, draft, alone, last, hway, hfinished⟩ := hbuilds.exists_way_of_mem hm
  obtain ⟨copies, hvars, hcopies⟩ := hbuilds.exists_vars_eq hway hfinished
  obtain ⟨link, hlink, hclass, hlinkDiscriminator, hmembers⟩ :=
    hbuilds.exists_link hi hinterface hdiscriminator
  have hkey : m.name = key := hfinished.name.trans hway.name
  refine ⟨r, _, copies, hr, hvars, ?_, hkey ▸ hcopies⟩
  intro v hv hname
  have hdraft : m.classname = draft.model.classname := (hway.kept hfinished).1
  obtain ⟨w, hw, rfl⟩ := List.mem_map.1 hv
  rw [(hbuilds.finishing w).baseName] at hname
  have hmarked := r.setup.discriminates_of_mem_linked hlink (hclass ▸ hdraft ▸ hne)
    (hdraft ▸ hmembers hmapped) hlinkDiscriminator w hw hname
  obtain ⟨_, _, _, _, hg⟩ := hbuilds.finishing w
  rw [hg]
  exact hmarked

/-- A cat that declares its kind. -/
theorem Document.discriminates_of_lowered_cat : ∃ program warnings i m discriminator,
    (ofInterface "Cat" (ofProperties [("kind", text)])).lowered {} = .ok (program, warnings) ∧
    (i ∈ program.models ∧ i.isOneOfInterface = true ∧ i.discriminator = some discriminator) ∧
    (m ∈ program.models ∧ m.classname ∈ discriminator.mappedModels.map (·.modelName) ∧
      m.classname ≠ i.classname) ∧
    ∃ r declared copies,
      (ofInterface "Cat" (ofProperties [("kind", text)])).resolver {} = .ok r ∧
      m.vars = declared ++ copies ∧
      (∀ v ∈ declared, v.baseName = discriminator.propertyBaseName → v.Discriminates) ∧
      ∀ v ∈ copies, ∃ j ∈ program.models, j.isOneOfInterface = true ∧
        (∃ s t, r.SchemaAt m.name s ∧ r.HasParent s j.name t) ∧ ∃ w ∈ j.vars, v.CopyOf w := by
  obtain ⟨program, warnings, h, i, hi, hinterface, discriminator, hdiscriminator, m, hm, hmapped,
      hne⟩ :=
    exists_lowered (d := ofInterface "Cat" (ofProperties [("kind", text)])) (o := {})
      (P := fun program => ∃ i ∈ program.models, i.isOneOfInterface = true ∧
        ∃ discriminator ∈ i.discriminator, ∃ m ∈ program.models,
          m.classname ∈ discriminator.mappedModels.map (·.modelName) ∧ m.classname ≠ i.classname)
      (by decide +kernel)
  exact ⟨program, warnings, i, m, discriminator, h, ⟨hi, hinterface, hdiscriminator⟩,
    ⟨hm, hmapped, hne⟩,
    discriminates_of_lowered h hi hinterface hdiscriminator hm hmapped hne⟩

/-- **A copy may be unmarked.** A cat that extends the interface has its kind from there, where it
is not required. -/
theorem Document.copied_discriminator_is_optional : ∃ program warnings,
    (ofInterface "Cat" (extending ["Pet"] [("name", text)] [])).lowered {} =
      .ok (program, warnings) ∧
    ∃ i ∈ program.models, i.isOneOfInterface = true ∧
      ∃ discriminator ∈ i.discriminator, ∃ m ∈ program.models,
        m.classname ∈ discriminator.mappedModels.map (·.modelName) ∧ m.classname ≠ i.classname ∧
        ∃ v ∈ m.vars, v.baseName = discriminator.propertyBaseName ∧ v.required = false :=
  exists_lowered (by decide +kernel)

end ApiLowering
