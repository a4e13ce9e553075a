import ApiLowering.Proofs.Endpoints.Forms
import ApiLowering.Proofs.Models.Gathering

/-!
# The names of fields

The fields of a form are the properties that its schema declares itself. Models are given more: what
their schemas gather from inline parts and from the parts that they refer to. So a form whose schema
has parts may have fewer fields than the model of the same schema has properties.

## Main definitions

* `Endpoint.formNames` — the base names of fields and parts.
* `Resolver.ListsOwn` — the names of the fields of a form and those of its schema.

## Main results

* `Resolver.AnswersForm.listsOwn` — the fields of a form and what its schema gathers.
* `Document.formNames_of_lowered` — the names of the fields of forms in programs.
-/

namespace ApiLowering

namespace Endpoint

/-- The base names of the fields of a form, and of the bodies, which may be parts of one. -/
def formNames (e : Endpoint) : List String := (e.formParams ++ e.bodyParams).map (·.baseName)

variable {e : Endpoint} {as : List Argument}

lemma map_baseName_of_map_input {bs : List Argument}
    (h : as.map Argument.input = bs.map Argument.input) :
    as.map (·.baseName) = bs.map (·.baseName) := by
  have hnames := congrArg (List.map RequestInput.baseName) h
  rwa [List.map_map, List.map_map] at hnames

lemma TakesFields.formNames (h : e.TakesFields as) : e.formNames = as.map (·.baseName) := by
  rw [Endpoint.formNames, h.bodyParams, List.append_nil]
  exact map_baseName_of_map_input h.formParams

lemma TakesParts.formNames (h : e.TakesParts as) : e.formNames = as.map (·.baseName) := by
  rw [Endpoint.formNames, h.formParams, List.nil_append]
  exact map_baseName_of_map_input h.bodyParams

lemma baseName_asSent (mediaType : Option String) (a : Argument) :
    (asSent mediaType a).baseName = a.baseName := by
  rw [asSent]
  split
  · rw [asFormField]
    split <;> rfl
  · split
    · rw [asPart]
      split <;> rfl
    · rfl

end Endpoint

/-- **The fields of a form go by the names of its properties**, but for those that a mapping is for.
-/
lemma Setup.SendsForm.formNames {setup : Setup} {mediaType : String} {raw e : Endpoint}
    (h : setup.SendsForm mediaType raw e) (hnone : ∀ a ∈ raw.fields, a.isBody = false) :
    e.formNames = ((raw.fields.map (Endpoint.asSent (some mediaType))).filter
      setup.options.leaves).map (·.baseName) := by
  by_cases hcanonical : mediaType = Content.multipart
  · have hparts : Endpoint.asSent (some mediaType) = Endpoint.asPart := by
      rw [hcanonical]
      rfl
    rw [hparts]
    exact (h.multipart hcanonical).formNames
  · rw [Endpoint.map_asSent_of_ne (by simpa using hcanonical) hnone]
    rcases h.encoding with hspells | hspells
    · exact (h.urlEncoded hspells).formNames
    · exact (h.respelled hspells hcanonical).formNames

namespace Resolver

/-- The names of the fields of a form, and what its schema gathers. The schema has as many fields as
it declares properties itself, and an endpoint loses those that a mapping is for. No field is made
up. A property that the schema gathers from its parts, and does not declare itself, is no field; so
all of them are fields if the schema has no parts. -/
structure ListsOwn (r : Resolver) (s : Schema) (mediaType : String) (raw e : Endpoint) : Prop where
  declared : (raw.fields.map (·.baseName)).Perm s.properties.keys
  names : e.formNames = ((raw.fields.map (Endpoint.asSent (some mediaType))).filter
    r.setup.options.leaves).map (·.baseName)
  unmapped : r.setup.options.parameterMappings = [] → e.formNames.Perm s.properties.keys
  gathered : ∀ name ∈ e.formNames, r.components.Gathers s name
  dropped : ∀ name, r.components.Gathers s name → name ∉ s.properties.keys → name ∉ e.formNames
  plain : s.allOf = [] → ∀ name,
    r.components.Gathers s name ↔ name ∈ raw.fields.map (·.baseName)

variable {r : Resolver} {d : Document} {site : Site} {body : RequestBody} {v : BodyVariant}
  {raw e : Endpoint} {ref : SchemaRef} {inputs : List RequestInput}

/-- The inputs of a form are the properties that its schema declares itself. -/
lemma exists_schema_of_contentInputs {op : Operation} (hform : Content.isForm v.mediaType = true)
    (hschema : v.content.schema = some ref) (h : r.contentInputs op body v = .ok inputs) :
    ∃ key s, r.components.resolveSchema ref = .ok (key, s) ∧
      inputs.map (·.baseName) = s.properties.keys := by
  rw [contentInputs, if_pos hform, hschema] at h
  cases hs : r.components.resolveSchema ref with
  | error f =>
    simp only [hs] at h
    cases h
  | ok target =>
    simp only [hs] at h
    obtain rfl := Except.ok.inj h
    refine ⟨target.1, target.2, rfl, ?_⟩
    rw [List.map_map]
    exact List.map_id _

/-- **The fields of a form and what its schema gathers.** -/
theorem AnswersForm.listsOwn (h : r.AnswersForm d site body v e)
    (hform : Content.isForm v.mediaType = true) (hschema : v.content.schema = some ref) :
    ∃ key s raw, r.components.resolveSchema ref = .ok (key, s) ∧
      { r with binaryAsFile := true }.MakesEndpoint d site (some (body, v)) raw ∧
      r.setup.Finishes raw e ∧ r.ListsOwn s v.mediaType raw e := by
  obtain ⟨raw, inputs, hmade, hfinish, hinputs, hperm, hsends⟩ := h
  obtain ⟨key, s, hs, hkeys⟩ := exists_schema_of_contentInputs hform hschema hinputs
  obtain ⟨-, -, -, hnone, -⟩ := hmade.fields hform
  have hdeclared : (raw.fields.map (·.baseName)).Perm s.properties.keys := by
    have hnames := hperm.map RequestInput.baseName
    rwa [List.map_map, hkeys] at hnames
  have hnames := hsends.formNames fun a ha => hnone a (List.mem_of_mem_filter ha)
  have hsent : (raw.fields.map (Endpoint.asSent (some v.mediaType))).map (·.baseName) =
      raw.fields.map (·.baseName) := by
    rw [List.map_map]
    exact List.map_congr_left fun a _ => Endpoint.baseName_asSent _ a
  have hown : ∀ name ∈ e.formNames, name ∈ s.properties.keys := by
    intro name hname
    rw [hnames] at hname
    refine hdeclared.subset ?_
    rw [← hsent]
    exact (List.filter_sublist.map _).subset hname
  refine ⟨key, s, raw, hs, hmade, hfinish, hdeclared, hnames, fun hmappings => ?_,
    fun name hname => .own (.property (hown name hname)),
    fun name _ hname hmem => hname (hown name hmem), fun hparts name => ?_⟩
  · have hall : ∀ a ∈ raw.fields.map (Endpoint.asSent (some v.mediaType)),
        r.setup.options.leaves a = true := fun a _ => by rw [Options.leaves, hmappings]; rfl
    rw [hnames, List.filter_eq_self.2 hall, hsent]
    exact hdeclared
  · rw [Components.gathers_iff_of_nil hparts]
    exact hdeclared.mem_iff.symm

/-- Without a schema the form has no fields. -/
lemma AnswersForm.formNames_of_none (h : r.AnswersForm d site body v e)
    (hform : Content.isForm v.mediaType = true) (hschema : v.content.schema = none) :
    e.formNames = [] := by
  obtain ⟨raw, inputs, hmade, -, hinputs, hperm, hsends⟩ := h
  obtain ⟨-, -, -, hnone, -⟩ := hmade.fields hform
  rw [contentInputs, if_pos hform, hschema] at hinputs
  obtain rfl := Except.ok.inj hinputs
  have hfields : raw.fields = [] := List.map_eq_nil_iff.1 hperm.eq_nil
  rw [hsends.formNames fun a ha => hnone a (List.mem_of_mem_filter ha), hfields]
  rfl

/-- The endpoints of an operation take the fields that the schemas of its forms declare themselves.
-/
def ListsForms (r : Resolver) (d : Document) (site : Site) (es : List Endpoint) : Prop :=
  ∃ body, r.bodyOf site.operation = .ok body ∧
    List.Forall₂ (fun request e => ∀ b v, request = some (b, v) →
      Content.isForm v.mediaType = true →
        (v.content.schema = none → e.formNames = []) ∧
        ∀ ref, v.content.schema = some ref → ∃ key s raw,
          r.components.resolveSchema ref = .ok (key, s) ∧
          { r with binaryAsFile := true }.MakesEndpoint d site (some (b, v)) raw ∧
          r.setup.Finishes raw e ∧ r.ListsOwn s v.mediaType raw e) (r.setup.requests body) es

end Resolver

namespace Document

/-- **The names of the fields of forms in programs.** For every request whose media type is a form,
the schema of the form is there, and the endpoint takes the properties that it declares itself, and
no others: what the schema gathers from its parts, inline or by a reference, is not among the
fields. A form without a schema has no fields. -/
theorem formNames_of_lowered {d : Document} {o : Options} {program : Program}
    {warnings : List String} (h : d.lowered o = .ok (program, warnings)) :
    ∃ r chunks, d.resolver o = .ok r ∧ r.setup = .ofCanonical o.canonical ∧
      r.components = (d.prepared o).parts ∧ program.endpoints = chunks.flatten ∧
      List.Forall₂ (r.ListsForms (d.prepared o)) (d.prepared o).sites chunks := by
  obtain ⟨r, chunks, hr, hsetup, hcomponents, hchunks, hall⟩ := made_endpoints_of_lowered h
  refine ⟨r, chunks, hr, hsetup, hcomponents, hchunks, hall.imp ?_⟩
  rintro site es ⟨body, hbody, hes⟩
  refine ⟨body, hbody, hes.imp ?_⟩
  rintro request e ⟨raw, hmade, hfinish⟩ b v rfl hform
  have hanswers := Resolver.answersForm hmade hfinish hform
  exact ⟨hanswers.formNames_of_none hform, fun ref => hanswers.listsOwn hform⟩

open Schema in
/-- A form for pets that declares the name again. -/
def namedPetForm : Document :=
  petForm Content.urlEncoded (extending ["Pet"] [("name", text), ("note", text)] [])

/-- A form that declares what its part declares has all fields. -/
theorem formNames_of_lowered_namedPetForm : ∃ program warnings,
    namedPetForm.lowered {} = .ok (program, warnings) ∧
    program.endpoints.map Endpoint.formNames = [["name", "note"]] ∧
    ∃ (r : Resolver) (chunks : List (List Endpoint)), program.endpoints = chunks.flatten ∧
      List.Forall₂ (r.ListsForms (namedPetForm.prepared {})) (namedPetForm.prepared {}).sites
        chunks := by
  obtain ⟨program, warnings, h, hnames⟩ := exists_lowered (d := namedPetForm) (o := {})
    (P := fun program => program.endpoints.map Endpoint.formNames = [["name", "note"]])
    (by decide +kernel)
  obtain ⟨r, chunks, -, -, -, hchunks, hall⟩ := formNames_of_lowered h
  exact ⟨program, warnings, h, hnames, r, chunks, hchunks, hall⟩

open Schema in
/-- A form for pets with a note. -/
def notedPet : Schema :=
  { allOf := [.ref (Reference.toSchema "Pet")], properties := ⟨[("note", text)]⟩ }

/-- **A form loses what it has from its parts.** Pets have names, and the form has a pet as a part;
its only field is the note. -/
theorem composed_form_loses_name : ∃ program warnings,
    (petForm Content.urlEncoded (.inline notedPet)).lowered {} = .ok (program, warnings) ∧
    program.endpoints.map Endpoint.formNames = [["note"]] ∧
    (petForm Content.urlEncoded (.inline notedPet)).parts.Gathers notedPet "name" := by
  obtain ⟨program, warnings, h, hnames⟩ := exists_lowered
    (d := petForm Content.urlEncoded (.inline notedPet)) (o := {})
    (P := fun program => program.endpoints.map Endpoint.formNames = [["note"]]) (by decide +kernel)
  have hpart : Schema.Says (.inline notedPet) (.target (Reference.toSchema "Pet")) :=
    .part List.mem_cons_self (.ref _)
  have hpet : (petForm Content.urlEncoded (.inline notedPet)).parts.schema
      (Reference.toSchema "Pet") = .ok ("Pet", { properties := ⟨[("name", Schema.text)]⟩ }) :=
    Reference.follow_inline (Reference.keyIn_toSchema "Pet") rfl List.mem_cons_self
  exact ⟨program, warnings, h, hnames, .target hpart hpet (.own (.property List.mem_cons_self))⟩

end Document

end ApiLowering
