import ApiLowering.Proofs.Endpoints.Parts
import ApiLowering.Proofs.Types.Declared

/-!
# Declared types in programs

Properties of models and headers of responses have their types declared when they are made, the
arguments of an endpoint and what it returns in one of its last stages. Until then the stages put
arguments away, introduce others, and put wrappers around what is returned; none of this comes
between a container and its items.

## Main definitions

* `Setup.DeclaresPlainly` — declared types are data types exactly if a property is regular.
* `Setup.DeclaresEndpoint` — so are those of an endpoint.
* `Setup.Carries` — the arguments, the headers and the returned type of an endpoint are spelled over
  their items.

## Main results

* `Setup.Finishes.carries` — what the stages keep.
* `Document.declared_of_lowered` — declared types in Java without validation.
-/

namespace ApiLowering

/-- What an argument is of, as a property. -/
def Argument.typed (a : Argument) : Property := { type := a.type, items := a.items }

namespace Setup

variable {setup : Setup} {p i : Property} {e e' : Endpoint} {s s' : Session}

/-! ## Properties -/

/-- A property is spelled over its items, and these are known if it is a container. -/
def Whole (setup : Setup) (p : Property) : Prop :=
  setup.Formed p ∧ (p.items = none → p.type.isContainer = false)

/-- The types of a property are declared as they are spelled over its items. -/
structure Annotates (setup : Setup) (p : Property) (declared declaredWithEnum : String) : Prop where
  whole : setup.Whole p
  plain : declared = setup.annotator.declaredType p.type p.items false
  withEnum : declaredWithEnum = setup.annotator.declaredType p.type p.items true

/-- The declared types of a property are its data types exactly if it is regular. -/
def DeclaresPlainly (setup : Setup) (p : Property) (declared declaredWithEnum : String) : Prop :=
  declared = p.type.dataType ∧ declaredWithEnum = p.type.datatypeWithEnum ↔ setup.Regular p

lemma Annotates.declaresPlainly {declared declaredWithEnum : String} (h : setup.DeclaresBare)
    (hp : setup.Annotates p declared declaredWithEnum) :
    setup.DeclaresPlainly p declared declaredWithEnum := by
  obtain ⟨⟨hformed, hknown⟩, rfl, rfl⟩ := hp
  rw [DeclaresPlainly, declaredType_eq h hformed hknown, declaredType_eq h hformed hknown]
  exact hformed.argument_eq_iff h

/-- The headers of a response, and the properties of models, have their types declared. -/
def AnnotatesProperty (setup : Setup) (p : Property) : Prop :=
  setup.Annotates p p.facets.annotatedType p.facets.annotatedTypeWithEnum

lemma annotatesProperty_of_made {r : Resolver} (hjava : r.setup.dialect.language = .java)
    (h : r.Made p) : r.setup.AnnotatesProperty p := by
  obtain ⟨ref, site, target, t, hof⟩ := h
  exact ⟨hof.formed, hof.annotatedType, hof.annotatedTypeWithEnum hjava⟩

lemma whole_asFile (p : Property) (file : String) : setup.Whole (p.asFile file) :=
  ⟨.plain rfl rfl, fun _ => rfl⟩

/-! ## Endpoints -/

/-- The arguments, the headers and the returned type of an endpoint are spelled over their items.
The types of headers are declared already. -/
structure Carries (setup : Setup) (e : Endpoint) : Prop where
  allParams : ∀ a ∈ e.allParams, setup.Whole a.typed
  implicitHeadersParams : ∀ a ∈ e.implicitHeadersParams, setup.Whole a.typed
  returned : ∀ p ∈ e.returnProperty, setup.Whole p
  outcomes : ∀ out ∈ e.responses, ∀ p ∈ out.headers, setup.AnnotatesProperty p
  responseHeaders : ∀ p ∈ e.responseHeaders, setup.AnnotatesProperty p

/-- Declared endpoints are so. -/
lemma carries_of_furnishes {r : Resolver} (hjava : r.setup.dialect.language = .java)
    (h : r.Furnishes e) : r.setup.Carries e where
  allParams a ha := by
    obtain ⟨p, ⟨_, _, _, _, hof⟩, htype, hitems⟩ := h.allParams a ha
    obtain ⟨hformed, hknown⟩ := hof.formed
    exact ⟨hformed.congr htype hitems, fun hnone => by
      rw [Argument.typed, htype]
      exact hknown (hitems.symm.trans hnone)⟩
  implicitHeadersParams a ha := by
    rw [h.implicitHeadersParams] at ha
    cases ha
  returned p hp := by
    rcases h.returned p hp with ⟨_, _, _, _, hof⟩ | ⟨q, file, rfl⟩
    · exact hof.formed
    · exact whole_asFile q file
  outcomes out hout p hp := annotatesProperty_of_made hjava (h.outcomes out hout p hp)
  responseHeaders p hp := annotatesProperty_of_made hjava (h.responseHeaders p hp)

/-! ## Stages before the declarations -/

/-- Views of the arguments are made of the same ones. -/
lemma Carries.projected (h : setup.Carries e) : setup.Carries e.projected where
  allParams := List.forall_mem_map.2 fun a ha => h.allParams a ha
  implicitHeadersParams := h.implicitHeadersParams
  returned := h.returned
  outcomes := h.outcomes
  responseHeaders := h.responseHeaders

lemma Carries.normalized (h : setup.Carries e) (hstage : setup.normalizeEndpoint e = .ok e') :
    setup.Carries e' := by
  obtain rfl := normalizeEndpoint_eq_ok hstage
  obtain ⟨f, hf, -, hforms⟩ := Endpoint.exists_withFormArguments_eq
    (Endpoint.tidied { e with stage := .normalized })
  have hall : ∀ a ∈ e.allParams.map f, setup.Whole a.typed := by
    refine List.forall_mem_map.2 fun a ha => ?_
    obtain ⟨_, _, _, hreformed⟩ := hf a
    rw [hreformed]
    exact h.allParams a ha
  rw [hforms]
  refine Carries.projected ⟨fun a ha => hall a (List.mem_of_mem_filter ha),
    fun a ha => hall a (List.mem_of_mem_filter ha), h.returned, h.outcomes, h.responseHeaders⟩

/-- What a mapping introduces is no container. -/
lemma whole_mappedArgument {m : ParameterMapping} {mappedType : String} {imports : NameSet}
    {out : Argument × NameSet}
    (h : setup.mappedArgument m mappedType imports s = .ok (out, s')) :
    setup.Whole out.1.typed := by
  obtain ⟨paramName, _, -, -, hout⟩ := mappedArgument_eq_ok h
  rw [hout]
  exact ⟨.plain rfl rfl, fun _ => rfl⟩

lemma Carries.mapArgument {m : ParameterMapping} (h : setup.Carries e)
    (hstep : setup.mapArgument e m s = .ok (e', s')) : setup.Carries e' := by
  have hkept : ∀ a ∈ e.allParams.filter (!m.claims ·), setup.Whole a.typed :=
    fun a ha => h.allParams a (List.mem_of_mem_filter ha)
  obtain ⟨-, rfl⟩ | ⟨mappedType, out, -, -, hout, rfl⟩ := mapArgument_cases hstep
  · exact ⟨hkept, h.implicitHeadersParams, h.returned, h.outcomes, h.responseHeaders⟩
  · refine ⟨List.forall_mem_append.2 ⟨hkept, ?_⟩, h.implicitHeadersParams, h.returned, h.outcomes,
      h.responseHeaders⟩
    exact List.forall_mem_singleton.2 (whole_mappedArgument hout)

lemma Carries.mapArguments (h : setup.Carries e)
    (hstage : setup.mapArguments e s = .ok (e', s')) : setup.Carries e' := by
  obtain ⟨mapped, hfold, rfl⟩ := exists_foldlM_of_mapArguments hstage
  have hmapped : setup.Carries mapped :=
    Lowering.foldlM_induction (P := fun _ x => setup.Carries x) hfold
      ⟨h.allParams, h.implicitHeadersParams, h.returned, h.outcomes, h.responseHeaders⟩
      fun _ _ _ _ _ _ _ hdone hstep => hdone.mapArgument hstep
  refine Carries.projected ⟨?_, hmapped.implicitHeadersParams, hmapped.returned, hmapped.outcomes,
    hmapped.responseHeaders⟩
  dsimp only
  split
  · refine List.forall_mem_map.2 fun a ha => ?_
    rw [Argument.pluralized]
    split
    · exact hmapped.allParams a ha
    · exact hmapped.allParams a ha
  · exact hmapped.allParams

/-- A wrapper is spelled over what it is put around. -/
lemma whole_inWrapper (hi : setup.Formed i) (wrapper : String) :
    setup.Whole (i.inWrapper wrapper) :=
  ⟨.container rfl rfl (.spelled rfl rfl rfl) hi, fun hnone => nomatch hnone⟩

lemma formed_wrapped (h : ∀ p ∈ e.returnProperty, setup.Whole p) (ofItems : Bool) :
    setup.Formed (setup.wrapped e ofItems) := by
  rw [wrapped]
  cases hp : e.returnProperty with
  | none => exact .plain rfl rfl
  | some p =>
    have hformed := (h p hp).1
    dsimp only
    split
    · cases hitems : p.items with
      | none => exact hformed
      | some i => exact hformed.of_items hitems
    · exact hformed

/-- An envelope is spelled over what it is put around. -/
lemma keptByReturn_carries (setup : Setup) : setup.KeptByReturn setup.Carries where
  envelop := by
    intro e e' wrapper ofItems s s' _ hstep h
    rw [Setup.envelop] at hstep
    obtain ⟨_, _, -, hstep⟩ := Lowering.bind_eq_ok_iff.1 hstep
    obtain ⟨rfl, -⟩ := Lowering.pure_eq_ok_iff.1 hstep
    refine ⟨h.allParams, h.implicitHeadersParams, fun p hp => ?_, h.outcomes, h.responseHeaders⟩
    obtain rfl := Option.some.inj hp
    exact whole_inWrapper (formed_wrapped h.returned ofItems) _
  headers left hleft h :=
    ⟨h.allParams, h.implicitHeadersParams, h.returned, h.outcomes,
      fun p hp => h.responseHeaders p (hleft hp)⟩
  valid := by
    intro e h
    refine ⟨h.allParams, h.implicitHeadersParams, fun p hp => ?_, h.outcomes, h.responseHeaders⟩
    obtain ⟨q, hq, rfl⟩ := Option.map_eq_some_iff.1 hp
    obtain ⟨hformed, hknown⟩ := h.returned q hq
    exact ⟨hformed.congr rfl rfl, hknown⟩
  bare _ h := ⟨h.allParams, h.implicitHeadersParams, h.returned, h.outcomes, h.responseHeaders⟩
  flux h := ⟨h.allParams, h.implicitHeadersParams, h.returned, h.outcomes, h.responseHeaders⟩
  stage _ h := ⟨h.allParams, h.implicitHeadersParams, h.returned, h.outcomes, h.responseHeaders⟩

lemma Carries.mapReturn (h : setup.Carries e) (hstage : setup.mapReturn e s = .ok (e', s')) :
    setup.Carries e' :=
  (setup.keptByReturn_carries.mapReturn hstage).2 h

lemma Carries.wrapped (h : setup.Carries e) (hstage : setup.wrapEndpoint e s = .ok (e', s')) :
    setup.Carries e' :=
  (setup.keptByReturn_carries.wrapEndpoint hstage).2 h

/-! ## The stage of the declarations and the last one -/

/-- All types of an endpoint are declared as they are spelled over their items. -/
structure AnnotatesEndpoint (setup : Setup) (e : Endpoint) : Prop where
  allParams : ∀ a ∈ e.allParams,
    setup.Annotates a.typed a.facets.annotatedType a.facets.annotatedTypeWithEnum
  implicitHeadersParams : ∀ a ∈ e.implicitHeadersParams,
    setup.Annotates a.typed a.facets.annotatedType a.facets.annotatedTypeWithEnum
  returned : ∀ p ∈ e.returnProperty, setup.AnnotatesProperty p
  outcomes : ∀ out ∈ e.responses, ∀ p ∈ out.headers, setup.AnnotatesProperty p
  responseHeaders : ∀ p ∈ e.responseHeaders, setup.AnnotatesProperty p

lemma AnnotatesEndpoint.projected (h : setup.AnnotatesEndpoint e) :
    setup.AnnotatesEndpoint e.projected where
  allParams := List.forall_mem_map.2 fun a ha =>
    let ⟨hwhole, hplain, henum⟩ := h.allParams a ha
    ⟨hwhole, hplain, henum⟩
  implicitHeadersParams := h.implicitHeadersParams
  returned := h.returned
  outcomes := h.outcomes
  responseHeaders := h.responseHeaders

lemma annotates_annotateArgument {a : Argument} (h : setup.Whole a.typed)
    (deprecated : List String) :
    setup.Annotates (setup.annotateArgument deprecated a).typed
      (setup.annotateArgument deprecated a).facets.annotatedType
      (setup.annotateArgument deprecated a).facets.annotatedTypeWithEnum := by
  rw [annotateArgument, Argument.withFormat]
  split
  · exact ⟨h, rfl, rfl⟩
  · exact ⟨h, rfl, rfl⟩

/-- **One stage declares all types.** -/
lemma Carries.annotated {deprecated : List String} (h : setup.Carries e)
    (hstage : setup.annotateEndpoint deprecated e s = .ok (e', s')) :
    setup.AnnotatesEndpoint e' := by
  obtain ⟨_, _, rfl⟩ := annotateEndpoint_eq_ok hstage
  refine AnnotatesEndpoint.projected ⟨List.forall_mem_map.2 fun a ha => ?_,
    List.forall_mem_map.2 fun a ha => ?_, fun p hp => ?_, h.outcomes, h.responseHeaders⟩
  · exact annotates_annotateArgument (h.allParams a ha) deprecated
  · exact annotates_annotateArgument (h.implicitHeadersParams a ha) deprecated
  · obtain ⟨q, hq, rfl⟩ := Option.map_eq_some_iff.1 hp
    obtain ⟨hformed, hknown⟩ := h.returned q hq
    exact ⟨⟨hformed.congr rfl rfl, hknown⟩, rfl, rfl⟩

lemma AnnotatesEndpoint.exemplifyReturn {models : List Model} {examples : Examples}
    (h : setup.AnnotatesEndpoint e) :
    setup.AnnotatesEndpoint (setup.exemplifyReturn models examples e) := by
  obtain ⟨_, _, heq⟩ := setup.exists_exemplifyReturn_eq models examples e
  rw [heq]
  exact ⟨h.allParams, h.implicitHeadersParams, h.returned, h.outcomes, h.responseHeaders⟩

lemma AnnotatesEndpoint.frozen {models : List Model} (h : setup.AnnotatesEndpoint e)
    (hstage : setup.freezeEndpoint models e s = .ok (e', s')) : setup.AnnotatesEndpoint e' := by
  obtain ⟨examples, _, -, rfl⟩ := freezeEndpoint_eq_ok hstage
  have hkept {a : Argument} (ha : setup.Annotates a.typed a.facets.annotatedType
      a.facets.annotatedTypeWithEnum) : setup.Annotates (exemplify examples a).typed
        (exemplify examples a).facets.annotatedType
        (exemplify examples a).facets.annotatedTypeWithEnum := ha
  refine AnnotatesEndpoint.projected (AnnotatesEndpoint.exemplifyReturn
    ⟨List.forall_mem_map.2 fun a ha => ?_, List.forall_mem_map.2 fun a ha => ?_, h.returned,
      h.outcomes, h.responseHeaders⟩)
  · exact hkept (h.allParams a ha)
  · exact hkept (h.implicitHeadersParams a ha)

/-- **The stages declare all types of an endpoint.** -/
theorem Finishes.annotatesEndpoint (h : setup.Finishes e e') (he : setup.Carries e) :
    setup.AnnotatesEndpoint e' := by
  obtain ⟨models, s, s', h⟩ := h
  obtain ⟨normalized, mapped, returned, wrapped, annotated, _, _, _, _, hnormalized, hmapped,
    hreturned, hwrapped, hannotated, hfrozen⟩ := finishEndpoint_eq_ok h
  have hcarries := (((he.normalized hnormalized).mapArguments hmapped).mapReturn hreturned).wrapped
    hwrapped
  exact (hcarries.annotated hannotated).frozen hfrozen

/-! ## Declared types -/

/-- The declared types of an endpoint are data types exactly where they are regular: those of its
arguments, wherever they are listed, of the headers of its responses, and of what it returns. -/
structure DeclaresEndpoint (setup : Setup) (e : Endpoint) : Prop where
  arguments : ∀ l ∈ e.argumentLists, ∀ a ∈ l.2,
    setup.DeclaresPlainly a.typed a.facets.annotatedType a.facets.annotatedTypeWithEnum
  bodyParam : ∀ a ∈ e.bodyParam,
    setup.DeclaresPlainly a.typed a.facets.annotatedType a.facets.annotatedTypeWithEnum
  outcomes : ∀ out ∈ e.responses, ∀ p ∈ out.headers,
    setup.DeclaresPlainly p p.facets.annotatedType p.facets.annotatedTypeWithEnum
  responseHeaders : ∀ p ∈ e.responseHeaders,
    setup.DeclaresPlainly p p.facets.annotatedType p.facets.annotatedTypeWithEnum
  returned : ∀ p ∈ e.returnProperty,
    setup.DeclaresPlainly p p.facets.annotatedType p.facets.annotatedTypeWithEnum

end Setup

/-- Every listed argument is one of the arguments or an implicit header. -/
lemma Endpoint.ShowsArguments.mem_of_mem_argumentLists {e : Endpoint} (h : e.ShowsArguments)
    {l : String × List Argument} (hl : l ∈ e.argumentLists) {a : Argument} (ha : a ∈ l.2) :
    a ∈ e.allParams ∨ a ∈ e.implicitHeadersParams := by
  have hplace (place : MappedLocation) (ha : a ∈ e.argumentsAt place) : a ∈ e.allParams := by
    rw [h.places] at ha
    exact List.mem_of_mem_filter ha
  simp only [argumentLists, List.mem_cons, List.not_mem_nil, or_false] at hl
  rcases hl with rfl | rfl | rfl | rfl | rfl | rfl | rfl | rfl | rfl | rfl
  · exact .inl ha
  · rw [h.swaggerParams] at ha
    exact .inl (List.mem_of_mem_filter ha)
  · rw [h.givenParams] at ha
    exact .inl ha
  · exact .inr ha
  · exact .inl (hplace .body ha)
  · exact .inl (hplace .form ha)
  · exact .inl (hplace .header ha)
  · exact .inl (hplace .path ha)
  · exact .inl (hplace .query ha)
  · exact .inl (hplace .cookie ha)

namespace Setup

variable {setup : Setup} {e : Endpoint}

lemma AnnotatesEndpoint.declaresEndpoint (h : setup.AnnotatesEndpoint e)
    (hbare : setup.DeclaresBare) (hshows : e.ShowsArguments) : setup.DeclaresEndpoint e where
  arguments l hl a ha :=
    ((hshows.mem_of_mem_argumentLists hl ha).elim (h.allParams a)
      (h.implicitHeadersParams a)).declaresPlainly hbare
  bodyParam a ha := by
    rw [hshows.bodyParam] at ha
    have hbody : a ∈ e.argumentsAt .body := List.mem_of_mem_head? ha
    rw [hshows.places] at hbody
    exact (h.allParams a (List.mem_of_mem_filter hbody)).declaresPlainly hbare
  outcomes out hout p hp := (h.outcomes out hout p hp).declaresPlainly hbare
  responseHeaders p hp := (h.responseHeaders p hp).declaresPlainly hbare
  returned p hp := (h.returned p hp).declaresPlainly hbare

end Setup

namespace Document

open Schema

/-- **Declared types without annotations.** In Java without validation, the types of the properties
of models are declared by their data types, with and without the names of enumerations, exactly if
the properties are regular: the keys of their maps are texts, no scalar is in the place of a
container, and containers of items that are not known have no names of enumerations. So are the
types of arguments, of the headers of responses, and of what endpoints return. -/
theorem declared_of_lowered {d : Document} {o : Options} {program : Program}
    {warnings : List String} (h : d.lowered o = .ok (program, warnings))
    (hjava : o.language = .java) (hplain : o.beanValidation = false) :
    (∀ m ∈ program.models, ∀ ps ∈ m.propertyLists, ∀ p ∈ ps.2,
      (Setup.ofCanonical o.canonical).DeclaresPlainly p p.facets.annotatedType
        p.facets.annotatedTypeWithEnum) ∧
      ∀ e ∈ program.endpoints, (Setup.ofCanonical o.canonical).DeclaresEndpoint e := by
  have hlanguage : o.canonical.language = .java := hjava
  have hdialect : (Setup.ofCanonical o.canonical).dialect = .java := by
    rw [Setup.ofCanonical, hlanguage]
    rfl
  have hbare : (Setup.ofCanonical o.canonical).DeclaresBare := ⟨hdialect, hplain⟩
  have hsame : (Setup.ofCanonical o.canonical).dialect.language = .java := by
    rw [hdialect]
    rfl
  refine ⟨fun m hm ps hps p hp => ?_, fun e he => ?_⟩
  · obtain ⟨r, ds, folded, g, hr, hbuilds⟩ := builds_of_lowered h
    obtain ⟨hsetup, -⟩ := exists_build_of_resolver hr
    obtain ⟨ref, hmakes⟩ := hbuilds.sources hm ps hps p hp
    obtain ⟨target, t, hof⟩ := hmakes.exists_madeOf
    rw [← hsetup] at hbare hsame ⊢
    exact (Setup.annotatesProperty_of_made hsame ⟨_, _, _, _, hof⟩).declaresPlainly hbare
  · obtain ⟨r, site, nickname, request, raw, s, s', hr, -, hraw, hfinish⟩ :=
      exists_finishes_of_lowered h he
    obtain ⟨hsetup, -⟩ := exists_build_of_resolver hr
    rw [← hsetup] at hbare hsame ⊢
    have hcarries := Setup.carries_of_furnishes (r := { r with binaryAsFile := true }) hsame
      (Resolver.furnishes_rawEndpoint hraw)
    exact (hfinish.annotatesEndpoint hcarries).declaresEndpoint hbare
      (passed_of_lowered h he).showsArguments

/-- The names of pets by their colors: a map of lists, as a property, a parameter and a response. -/
def petsByColor : Document :=
  let names := .inline { ofType .object with additional := some (.values (listOf text)) }
  ofPath {
    get := some {
      parameters := [.inline { name := "names", location := .query, schema := some names }]
      responses := ⟨[("200", .inline {
        content := ⟨[(Content.json, { schema := some names })]⟩ })]⟩ } }
    [("Pet", ofProperties [("names", names)])]

/-- Where texts are texts, the names of pets by their colors are declared as they are. -/
theorem declared_of_lowered_petsByColor : ∃ program warnings,
    petsByColor.lowered { beanValidation := false } = .ok (program, warnings) ∧
    (program.models.flatMap fun m => m.vars.map (·.facets.annotatedType)) =
      ["Map<String, List<String>>"] ∧
    (program.endpoints.map fun e => (e.allParams.map (·.facets.annotatedType),
      e.returnProperty.map (·.facets.annotatedType))) =
        [(["Map<String, List<String>>"], some "Mono<Map<String, List<String>>>")] ∧
    (∀ m ∈ program.models, ∀ ps ∈ m.propertyLists, ∀ p ∈ ps.2,
      (Setup.ofCanonical (Options.canonical { beanValidation := false })).DeclaresPlainly p
        p.facets.annotatedType p.facets.annotatedTypeWithEnum) ∧
    ∀ e ∈ program.endpoints,
      (Setup.ofCanonical (Options.canonical { beanValidation := false })).DeclaresEndpoint e := by
  obtain ⟨program, warnings, h, hmodels, hendpoints⟩ := exists_lowered (d := petsByColor)
    (o := { beanValidation := false })
    (P := fun program => (program.models.flatMap fun m => m.vars.map (·.facets.annotatedType)) =
        ["Map<String, List<String>>"] ∧
      (program.endpoints.map fun e => (e.allParams.map (·.facets.annotatedType),
        e.returnProperty.map (·.facets.annotatedType))) =
          [(["Map<String, List<String>>"], some "Mono<Map<String, List<String>>>")])
    (by decide +kernel)
  exact ⟨program, warnings, h, hmodels, hendpoints, declared_of_lowered h rfl rfl⟩

/-- **Keys that are declared as texts.** Where texts stand for another type, so do the keys of maps.
Declarations still take them for texts. -/
theorem keys_declared_as_texts : ∃ program warnings,
    petsByColor.lowered {
      beanValidation := false
      typeMapping := ⟨[("string", "CharSequence")]⟩ } = .ok (program, warnings) ∧
    (program.models.flatMap fun m => m.vars.map fun p =>
      (p.type.dataType, p.facets.annotatedType)) =
        [("Map<CharSequence, List<CharSequence>>", "Map<String, List<CharSequence>>")] ∧
    (program.endpoints.flatMap fun e => e.allParams.map fun a =>
      (a.type.datatypeWithEnum, a.facets.annotatedTypeWithEnum)) =
        [("Map<CharSequence, List<CharSequence>>", "Map<String, List<CharSequence>>")] :=
  exists_lowered (d := petsByColor)
    (o := {
      beanValidation := false
      typeMapping := ⟨[("string", "CharSequence")]⟩ })
    (P := fun program =>
      (program.models.flatMap fun m => m.vars.map fun p =>
        (p.type.dataType, p.facets.annotatedType)) =
          [("Map<CharSequence, List<CharSequence>>", "Map<String, List<CharSequence>>")] ∧
      (program.endpoints.flatMap fun e => e.allParams.map fun a =>
        (a.type.datatypeWithEnum, a.facets.annotatedTypeWithEnum)) =
          [("Map<CharSequence, List<CharSequence>>", "Map<String, List<CharSequence>>")])
    (by decide +kernel)

end Document

end ApiLowering
