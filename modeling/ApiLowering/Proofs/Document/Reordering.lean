import ApiLowering.Proofs.Document.Samples
import ApiLowering.Proofs.Tables

/-!
# The order of tables does not matter

A run looks at the paths, at the components and at most tables of the options only after it put them
in the order of their keys. Before that it checks the options, and the check looks at no table. So
two documents and two sets of options that differ in the order of these tables give one program,
with one list of warnings, or fail with one fault. Orders, hoisted names, numbers behind names and
serial numbers are all parts of the program.

The order of operations, parameters, properties and members is not free in this way.

## Main definitions

* `Table.Reorders` — two tables without repeated keys have the same entries.
* `Components.Reorders`, `Document.Reorders`, `Options.Reorders` — nothing but the order of some
  tables differs.

## Main results

* `Table.Reorders.sortByKey_eq` — tables with the same entries are one table in order.
* `Options.Reorders.setup_eq` — reordered options give one setup, or one fault.
* `Setup.canonicalDocument_eq` — reordered documents have one canonical form, and the same warnings.
* `Document.lowered_eq_of_reorders` — reordered documents and options give one program, or one
  fault.
-/

namespace ApiLowering

/-! ## Tables -/

/-- Two tables that hold no key twice have the same entries. -/
structure Table.Reorders {α : Type} (s t : Table α) : Prop where
  nodup : s.keys.Nodup
  perm : s.entries.Perm t.entries

namespace Table.Reorders

variable {α : Type} {s t : Table α}

lemma refl (h : t.keys.Nodup) : t.Reorders t := ⟨h, .refl _⟩

lemma nodup_right (h : s.Reorders t) : t.keys.Nodup :=
  (h.perm.map Prod.fst).nodup_iff.1 h.nodup

/-- Keys in order increase strictly, so that the entries can follow each other in one way only. -/
theorem sortByKey_eq (h : s.Reorders t) : s.sortByKey = t.sortByKey := by
  have hs : s.sortByKey.entries.Pairwise fun a b => a.1 < b.1 :=
    List.pairwise_map.1 (pairwise_keys_sortByKey h.nodup)
  have ht : t.sortByKey.entries.Pairwise fun a b => a.1 < b.1 :=
    List.pairwise_map.1 (pairwise_keys_sortByKey h.nodup_right)
  have hperm : s.sortByKey.entries.Perm t.sortByKey.entries :=
    s.entries_sortByKey_perm.trans (h.perm.trans t.entries_sortByKey_perm.symm)
  have hentries : s.sortByKey.entries = t.sortByKey.entries := by
    refine List.Perm.eq_of_pairwise (fun a b _ _ hab hba => ?_) hs ht hperm
    exact absurd hab (lt_asymm hba)
  exact congrArg Table.mk hentries

end Table.Reorders

/-! ## Options -/

/-- The options differ in nothing but the order of the tables whose order has no meaning. -/
structure Options.Reorders (o o' : Options) : Prop where
  schemaMapping : o.schemaMapping.Reorders o'.schemaMapping
  nameMapping : o.nameMapping.Reorders o'.nameMapping
  parameterNameMapping : o.parameterNameMapping.Reorders o'.parameterNameMapping
  enumNameMapping : o.enumNameMapping.Reorders o'.enumNameMapping
  modelNameMapping : o.modelNameMapping.Reorders o'.modelNameMapping
  inlineSchemaNameMapping : o.inlineSchemaNameMapping.Reorders o'.inlineSchemaNameMapping
  inlineSchemaOption : o.inlineSchemaOption.Reorders o'.inlineSchemaOption
  openapiNormalizer : o.openapiNormalizer.Reorders o'.openapiNormalizer
  rest : { o with
    schemaMapping := o'.schemaMapping
    nameMapping := o'.nameMapping
    parameterNameMapping := o'.parameterNameMapping
    enumNameMapping := o'.enumNameMapping
    modelNameMapping := o'.modelNameMapping
    inlineSchemaNameMapping := o'.inlineSchemaNameMapping
    inlineSchemaOption := o'.inlineSchemaOption
    openapiNormalizer := o'.openapiNormalizer } = o'

namespace Options.Reorders

variable {o o' : Options}

/-- The check looks at no table. -/
lemma validate_eq (h : o.Reorders o') : o.validate = o'.validate := by
  conv_rhs => rw [← h.rest]
  rfl

lemma canonical_eq (h : o.Reorders o') : o.canonical = o'.canonical := by
  conv_rhs => rw [← h.rest]
  simp only [canonical, h.schemaMapping.sortByKey_eq, h.nameMapping.sortByKey_eq,
    h.parameterNameMapping.sortByKey_eq, h.enumNameMapping.sortByKey_eq,
    h.modelNameMapping.sortByKey_eq, h.inlineSchemaNameMapping.sortByKey_eq,
    h.inlineSchemaOption.sortByKey_eq, h.openapiNormalizer.sortByKey_eq]

/-- Reordered options give one setup, or one fault. -/
theorem setup_eq (h : o.Reorders o') : Setup.ofOptions o = Setup.ofOptions o' := by
  rw [Setup.ofOptions, Setup.ofOptions, h.validate_eq, h.canonical_eq]

end Options.Reorders

/-! ## Documents -/

/-- The components differ in nothing but the order of their tables. -/
structure Components.Reorders (c c' : Components) : Prop where
  schemas : c.schemas.Reorders c'.schemas
  responses : c.responses.Reorders c'.responses
  parameters : c.parameters.Reorders c'.parameters
  samples : c.samples.Reorders c'.samples
  requestBodies : c.requestBodies.Reorders c'.requestBodies
  headers : c.headers.Reorders c'.headers
  securitySchemes : c.securitySchemes.Reorders c'.securitySchemes
  links : c.links.Reorders c'.links
  callbacks : c.callbacks.Reorders c'.callbacks

namespace Components.Reorders

lemma sorted_eq {c c' : Components} (h : c.Reorders c') : c.sorted = c'.sorted := by
  simp only [sorted, h.schemas.sortByKey_eq, h.responses.sortByKey_eq, h.parameters.sortByKey_eq,
    h.samples.sortByKey_eq, h.requestBodies.sortByKey_eq, h.headers.sortByKey_eq,
    h.securitySchemes.sortByKey_eq, h.links.sortByKey_eq, h.callbacks.sortByKey_eq]

lemma map_sorted_eq {c c' : Option Components} (h : Option.Rel Components.Reorders c c') :
    c.map sorted = c'.map sorted := by
  cases h with
  | none => rfl
  | some hc => exact congrArg some hc.sorted_eq

end Components.Reorders

/-- The documents differ in nothing but the order of the paths, of the webhooks and of the
components. -/
structure Document.Reorders (d d' : Document) : Prop where
  paths : d.paths.Reorders d'.paths
  webhooks : d.webhooks.Reorders d'.webhooks
  components : Option.Rel Components.Reorders d.components d'.components
  rest : { d with
    paths := d'.paths
    webhooks := d'.webhooks
    components := d'.components } = d'

/-- What is arranged knows nothing of the order any more. -/
lemma Document.Reorders.arranged_eq {d d' : Document} (h : d.Reorders d') :
    d.arranged = d'.arranged := by
  conv_rhs => rw [← h.rest]
  simp only [arranged, h.paths.sortByKey_eq, h.webhooks.sortByKey_eq,
    Components.Reorders.map_sorted_eq h.components]

/-- Reordered documents have one canonical form, and the same warnings on the way. -/
theorem Setup.canonicalDocument_eq {d d' : Document} (h : d.Reorders d') (setup : Setup) :
    setup.canonicalDocument d = setup.canonicalDocument d' := by
  have hwarnings : d.danglingReferences = d'.danglingReferences := by
    rw [Document.danglingReferences, Document.danglingReferences, h.arranged_eq]
  have hcanonical : d.canonical = d'.canonical := by
    funext sw
    rw [Document.canonical, Document.canonical, h.arranged_eq]
  rw [canonicalDocument, canonicalDocument, hwarnings, hcanonical]

namespace Document

/-- **Reordered input.** Two documents that differ in the order of their paths, webhooks and
components, and two sets of options that differ in the order of their tables, give the same program
with the same warnings, or the same fault. -/
theorem lowered_eq_of_reorders {d d' : Document} {o o' : Options} (hd : d.Reorders d')
    (ho : o.Reorders o') : d.lowered o = d'.lowered o' := by
  rw [lowered, lowered, ho.setup_eq]
  refine bind_congr fun setup => ?_
  rw [Setup.lower, Setup.lower, Setup.prepare, Setup.prepare, Setup.canonicalDocument_eq hd]

/-- Pets and their owners are declared in two orders, and so are the names of two models. -/
theorem lowered_eq_of_reordered_ownedPets :
    (ownedPets (Schema.ofProperties [("name", Schema.text)])).lowered
        { modelNameMapping := ⟨[("Pet", "Animal"), ("Owner", "Person")]⟩ } =
      ({ ownedPets (Schema.ofProperties [("name", Schema.text)]) with
        components := some { schemas := ⟨[
          ("Pet", Schema.ofProperties [
            ("owner", Schema.ofProperties [("name", Schema.text)])]),
          ("Keeper", Schema.ofProperties [("name", Schema.text)]),
          ("Owner", Schema.text)]⟩ } } : Document).lowered
        { modelNameMapping := ⟨[("Owner", "Person"), ("Pet", "Animal")]⟩ } := by
  have hempty {α : Type} : ({} : Table α).Reorders {} := .refl .nil
  refine lowered_eq_of_reorders ?_ ?_
  · exact {
      paths := .refl (List.nodup_singleton _)
      webhooks := hempty
      components := .some {
        schemas := ⟨by decide, (List.reverse_perm _).symm⟩
        responses := hempty
        parameters := hempty
        samples := hempty
        requestBodies := hempty
        headers := hempty
        securitySchemes := hempty
        links := hempty
        callbacks := hempty }
      rest := rfl }
  · exact {
      schemaMapping := hempty
      nameMapping := hempty
      parameterNameMapping := hempty
      enumNameMapping := hempty
      modelNameMapping := ⟨by decide, .swap _ _ _⟩
      inlineSchemaNameMapping := hempty
      inlineSchemaOption := .refl (List.nodup_singleton _)
      openapiNormalizer := hempty
      rest := rfl }

end Document

end ApiLowering
