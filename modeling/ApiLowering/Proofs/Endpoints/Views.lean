import ApiLowering.Proofs.Endpoints.Inputs
import Mathlib.Logic.Relation

/-!
# Views of the arguments

An endpoint keeps one list of arguments, and shows it in many ways: by the places where arguments
travel, without bodies and forms, as counts. The stages work on the list, and after each of them the
views are those of the list. And each argument travels at one place and is listed there alone, but
those that a mapping introduced, which are listed nowhere.

Four of the six stages make the views anew. The two in between, which work on the returned type,
leave the arguments and their views alone.

## Main definitions

* `Endpoint.argumentsAt` — the arguments that an endpoint lists for a place.
* `Endpoint.ShowsArguments` — the views of an endpoint are those of its arguments.
* `Setup.Passes` — one stage of an endpoint.
* `Document.Passed` — an endpoint that was declared by a document and has passed some stages.

## Main results

* `Endpoint.showsArguments_projected` — views that are made anew.
* `Setup.Passes.showsArguments` — what one stage keeps.
* `Document.arguments_of_passes` — the views of endpoints after every stage, and in programs.
-/

namespace ApiLowering

/-! ## Views -/

namespace Endpoint

/-- The arguments that an endpoint lists for a place. -/
def argumentsAt (e : Endpoint) : MappedLocation → List Argument
  | .query => e.queryParams
  | .header => e.headerParams
  | .path => e.pathParams
  | .cookie => e.cookieParams
  | .body => e.bodyParams
  | .form => e.formParams

/-- The lists and counts of an endpoint are those of its arguments: a list for each place, the
arguments that are neither a body nor fields of a form, and all of them. A declared argument is
listed for one place, and a mapped one for none. -/
structure ShowsArguments (e : Endpoint) : Prop where
  places : ∀ l, e.argumentsAt l = e.allParams.filter (·.travels l)
  swaggerParams : e.swaggerParams = e.allParams.filter (·.isPlain)
  givenParams : e.givenParams = e.allParams
  bodyParam : e.bodyParam = e.bodyParams.head?
  hasParams : e.hasParams = true ↔ e.allParams ≠ []
  hasNotBodyParam : e.facets.hasNotBodyParam = true ↔ e.swaggerParams ≠ []
  hasMultipleParams : e.facets.hasMultipleParams = true ↔ 1 < e.swaggerParams.length
  counted : ∀ a ∈ e.allParams, a.facets.hasNotBodyParam = e.facets.hasNotBodyParam ∧
    a.facets.hasMultipleParams = e.facets.hasMultipleParams
  declared : ∀ a ∈ e.allParams, a.facets.mapped = false → ∃! l, a ∈ e.argumentsAt l
  mapped : ∀ a ∈ e.allParams, a.facets.mapped = true → ∀ l, a ∉ e.argumentsAt l

lemma length_swaggerParams_projected (e : Endpoint) :
    e.projected.swaggerParams.length = e.plainCount := by
  change ((e.allParams.map (·.counted e.plainCount)).filter (·.isPlain)).length = _
  rw [List.filter_map, List.length_map]
  rfl

/-- **Views that are made anew** are those of the arguments, if these are in their places. -/
theorem showsArguments_projected {e : Endpoint} (h : ∀ a ∈ e.allParams, a.Placed) :
    e.projected.ShowsArguments := by
  have hplaces (l : MappedLocation) :
      e.projected.argumentsAt l = e.projected.allParams.filter (·.travels l) := by
    cases l <;> rfl
  have hplaced : ∀ a ∈ e.projected.allParams, a.Placed :=
    List.forall_mem_map.2 fun a ha => (h a ha).of_eq rfl rfl
  have hlength := e.length_swaggerParams_projected
  refine {
    places := hplaces
    swaggerParams := rfl
    givenParams := rfl
    bodyParam := rfl
    hasParams := ?_
    hasNotBodyParam := ?_
    hasMultipleParams := ?_
    counted := List.forall_mem_map.2 fun a _ => ⟨rfl, rfl⟩
    declared := fun a ha hmapped => ?_
    mapped := fun a ha hmapped l hl => ?_ }
  · change (!e.projected.allParams.isEmpty) = true ↔ _
    rw [Bool.not_eq_true', ← Bool.not_eq_true, List.isEmpty_iff]
  · change decide (e.plainCount > 0) = true ↔ _
    rw [decide_eq_true_iff, ← hlength, gt_iff_lt, List.length_pos_iff]
  · change decide (e.plainCount > 1) = true ↔ _
    rw [decide_eq_true_iff, ← hlength]
  · obtain ⟨place, hplace, hall⟩ := hplaced a ha
    rw [hmapped, Option.isNone_eq_false_iff, Option.isSome_iff_exists] at hplace
    obtain ⟨l, rfl⟩ := hplace
    refine ⟨l, ?_, fun l' hl' => ?_⟩
    · change a ∈ e.projected.argumentsAt l
      rw [hplaces, List.mem_filter, hall, beq_self_eq_true]
      exact ⟨ha, rfl⟩
    · change a ∈ e.projected.argumentsAt l' at hl'
      rw [hplaces, List.mem_filter, hall, beq_iff_eq] at hl'
      exact (Option.some.inj hl'.2).symm
  · obtain ⟨place, hplace, hall⟩ := hplaced a ha
    rw [hmapped, Option.isNone_iff_eq_none] at hplace
    rw [hplaces, List.mem_filter, hall, hplace, beq_iff_eq] at hl
    cases hl.2

/-- The views do not depend on the returned type. -/
lemma ShowsArguments.of_besideReturn {e e' : Endpoint} (h : e.ShowsArguments)
    (hbeside : e'.besideReturn = e.besideReturn) : e'.ShowsArguments := by
  have hviews : e'.besideReturn.ShowsArguments := hbeside ▸ {
    places := h.places
    swaggerParams := h.swaggerParams
    givenParams := h.givenParams
    bodyParam := h.bodyParam
    hasParams := h.hasParams
    hasNotBodyParam := h.hasNotBodyParam
    hasMultipleParams := h.hasMultipleParams
    counted := h.counted
    declared := h.declared
    mapped := h.mapped }
  exact {
    places := hviews.places
    swaggerParams := hviews.swaggerParams
    givenParams := hviews.givenParams
    bodyParam := hviews.bodyParam
    hasParams := hviews.hasParams
    hasNotBodyParam := hviews.hasNotBodyParam
    hasMultipleParams := hviews.hasMultipleParams
    counted := hviews.counted
    declared := hviews.declared
    mapped := hviews.mapped }

end Endpoint

/-! ## Arguments that keep their places -/

namespace Argument

lemma Placed.pluralized {a : Argument} (h : a.Placed) : a.pluralized.Placed := by
  rw [Argument.pluralized]
  split
  · exact h.of_eq rfl rfl
  · exact h

lemma Placed.withFormat {a : Argument} (h : a.Placed) : a.withFormat.Placed := by
  rw [Argument.withFormat]
  split
  · exact h.of_eq rfl rfl
  · exact h

end Argument

/-- Arguments that are arranged are as they were declared, but for their names. -/
lemma Options.forall_arrange {P : Argument → Prop}
    (hP : ∀ (a : Argument) name, P a → P { a with paramName := name }) {o : Options}
    {declared contents : List Argument} (hdeclared : ∀ a ∈ declared, P a)
    (hcontents : ∀ a ∈ contents, P a) : ∀ a ∈ o.arrange declared contents, P a := by
  have hall : ∀ a ∈ (if o.prependFormOrBodyParameters then contents ++ declared
      else declared ++ contents), P a := by
    split
    · exact List.forall_mem_append.2 ⟨hcontents, hdeclared⟩
    · exact List.forall_mem_append.2 ⟨hdeclared, hcontents⟩
  have hunique : ∀ a ∈ (if o.ensureUniqueParams then Argument.unique
      (if o.prependFormOrBodyParameters then contents ++ declared else declared ++ contents)
      else if o.prependFormOrBodyParameters then contents ++ declared else declared ++ contents),
      P a := by
    split
    · exact Argument.forall_uniqueFrom hP hall
    · exact hall
  rw [arrange]
  split
  · exact List.forall_mem_append.2 ⟨fun a ha => hunique a (List.mem_of_mem_filter ha),
      fun a ha => hunique a (List.mem_of_mem_filter ha)⟩
  · exact hunique

/-- Declared arguments are in their places. -/
lemma Resolver.DeclaredFor.placed {r : Resolver} {site : Site}
    {request : Option (RequestBody × BodyVariant)} {raw : Endpoint}
    (h : r.DeclaredFor site request raw) : ∀ a ∈ raw.allParams, a.Placed := by
  obtain ⟨ps, contents, as, bs, -, -, has, hbs, hall⟩ := h.allParams
  rw [hall]
  refine Options.forall_arrange (fun _ _ h => h) (fun a ha => ?_) fun a ha => ?_
  · obtain ⟨_, _, hstands⟩ := exists_mem_left_of_forall₂ has ha
    exact hstands.placed
  · obtain ⟨_, _, hstands⟩ := exists_mem_left_of_forall₂ hbs ha
    exact hstands.placed

/-! ## Stages -/

/-- One stage of an endpoint. -/
inductive Setup.Passes (setup : Setup) (e e' : Endpoint) : Prop
  | normalize : setup.normalizeEndpoint e = .ok e' → Passes setup e e'
  | mapArguments {s s'} : setup.mapArguments e s = .ok (e', s') → Passes setup e e'
  | mapReturn {s s'} : setup.mapReturn e s = .ok (e', s') → Passes setup e e'
  | wrap {s s'} : setup.wrapEndpoint e s = .ok (e', s') → Passes setup e e'
  | annotate {deprecated s s'} : setup.annotateEndpoint deprecated e s = .ok (e', s') →
    Passes setup e e'
  | freeze {models s s'} : setup.freezeEndpoint models e s = .ok (e', s') → Passes setup e e'

/-- The arguments of an endpoint are in their places, and since the first stage it shows them. -/
structure Endpoint.Arranged (e : Endpoint) : Prop where
  placed : ∀ a ∈ e.allParams, a.Placed
  shows : e.stage ≠ .raw → e.ShowsArguments

namespace Setup

variable {setup : Setup} {e e' : Endpoint} {s s' : Session}

/-- Places are kept where the views are made anew. -/
lemma placed_projected (h : ∀ a ∈ e.allParams, a.Placed) : ∀ a ∈ e.projected.allParams, a.Placed :=
  List.forall_mem_map.2 fun a ha => (h a ha).of_eq rfl rfl

lemma placed_normalizeEndpoint (h : setup.normalizeEndpoint e = .ok e')
    (he : ∀ a ∈ e.allParams, a.Placed) :
    ∃ x : Endpoint, (∀ a ∈ x.allParams, a.Placed) ∧ e' = x.projected := by
  obtain rfl := normalizeEndpoint_eq_ok h
  obtain ⟨f, -, hplaced, hforms⟩ := Endpoint.exists_withFormArguments_eq
    (Endpoint.tidied { e with stage := .normalized })
  refine ⟨_, fun a ha => ?_, rfl⟩
  rw [hforms] at ha
  have hmem : a ∈ e.allParams.map f := List.mem_of_mem_filter ha
  obtain ⟨b, hb, rfl⟩ := List.mem_map.1 hmem
  exact hplaced b (he b hb)

lemma placed_mapArguments (h : setup.mapArguments e s = .ok (e', s'))
    (he : ∀ a ∈ e.allParams, a.Placed) :
    ∃ x : Endpoint, (∀ a ∈ x.allParams, a.Placed) ∧ e' = x.projected := by
  obtain ⟨mapped, hmapped, rfl⟩ := mapArguments_spec h
  obtain ⟨kept, added, hall, hkept, hadded, -⟩ := hmapped.allParams
  have hplaced : ∀ a ∈ mapped.allParams, a.Placed := by
    rw [hall]
    exact List.forall_mem_append.2
      ⟨fun a ha => he a (hkept.subset ha), fun a ha => (hadded a ha).2.1⟩
  refine ⟨_, ?_, rfl⟩
  dsimp only
  split
  · exact List.forall_mem_map.2 fun a ha => (hplaced a ha).pluralized
  · exact hplaced

/-- **One stage keeps the places of the arguments, and shows them.** -/
theorem Passes.showsArguments (h : setup.Passes e e') (he : e.Arranged) :
    (∀ a ∈ e'.allParams, a.Placed) ∧ e'.ShowsArguments := by
  have hanew : ∀ x : Endpoint, (∀ a ∈ x.allParams, a.Placed) →
      (∀ a ∈ x.projected.allParams, a.Placed) ∧ x.projected.ShowsArguments :=
    fun x hx => ⟨placed_projected hx, Endpoint.showsArguments_projected hx⟩
  have hkept : e.stage ≠ .raw → e'.besideReturn = e.besideReturn →
      (∀ a ∈ e'.allParams, a.Placed) ∧ e'.ShowsArguments := by
    intro hstage hbeside
    have hall : e'.besideReturn.allParams = e.besideReturn.allParams := by rw [hbeside]
    have hplaced : ∀ a ∈ e'.besideReturn.allParams, a.Placed := hall ▸ he.placed
    exact ⟨hplaced, (he.shows hstage).of_besideReturn hbeside⟩
  cases h with
  | normalize h =>
    obtain ⟨x, hx, rfl⟩ := placed_normalizeEndpoint h he.placed
    exact hanew x hx
  | mapArguments h =>
    obtain ⟨x, hx, rfl⟩ := placed_mapArguments h he.placed
    exact hanew x hx
  | mapReturn h =>
    obtain ⟨hstage, hbeside⟩ := mapReturn_spec h
    exact hkept (by simp [hstage]) hbeside
  | wrap h =>
    obtain ⟨hstage, hbeside⟩ := wrapEndpoint_spec h
    exact hkept (by simp [hstage]) hbeside
  | annotate h =>
    obtain ⟨x, -, hx, rfl⟩ := annotateEndpoint_spec h
    refine hanew x (hx ▸ List.forall_mem_map.2 fun a ha => ?_)
    have hannotated : (a.annotated setup.annotator).Placed := (he.placed a ha).of_eq rfl rfl
    exact hannotated.withFormat.of_eq rfl rfl
  | freeze h =>
    obtain ⟨x, examples, -, hx, rfl⟩ := freezeEndpoint_spec h
    exact hanew x (hx ▸ List.forall_mem_map.2 fun a ha => (he.placed a ha).of_eq rfl rfl)

/-- What some stages make of declared arguments shows them. -/
theorem showsArguments_of_passes {raw : Endpoint} (h : Relation.TransGen setup.Passes raw e)
    (hstage : raw.stage = .raw) (hraw : ∀ a ∈ raw.allParams, a.Placed) :
    (∀ a ∈ e.allParams, a.Placed) ∧ e.ShowsArguments := by
  induction h with
  | single h => exact h.showsArguments ⟨hraw, fun hne => absurd hstage hne⟩
  | tail _ h ih => exact h.showsArguments ⟨ih.1, fun _ => ih.2⟩

/-- A finished endpoint has passed all stages. -/
lemma Finishes.passes {raw : Endpoint} (h : setup.Finishes raw e) :
    Relation.TransGen setup.Passes raw e := by
  obtain ⟨models, s, s', h⟩ := h
  obtain ⟨normalized, mapped, returned, wrapped, annotated, _, _, _, _, hnormalized, hmapped,
    hreturned, hwrapped, hannotated, hfrozen⟩ := finishEndpoint_eq_ok h
  exact .tail (.tail (.tail (.tail (.tail (.single (.normalize hnormalized))
    (.mapArguments hmapped)) (.mapReturn hreturned)) (.wrap hwrapped)) (.annotate hannotated))
    (.freeze hfrozen)

end Setup

/-! ## Programs -/

namespace Resolver

/-- Every endpoint of an operation is the one of some variant of its body. -/
lemma exists_rawEndpoint {r : Resolver} {d : Document} {site : Site} {es : List Endpoint}
    {s s' : Session} (h : r.endpointsOf d site s = .ok (es, s')) {e : Endpoint} (he : e ∈ es) :
    ∃ nickname request t t', r.rawEndpoint d site nickname request t = .ok (e, t') := by
  obtain ⟨body, -, hall⟩ := endpointsOf_eq_ok h
  obtain ⟨request, -, nickname, t, t', hraw⟩ := exists_mem_right_of_forall₂ hall he
  exact ⟨nickname, request, t, t', hraw⟩

end Resolver

namespace Document

/-- An endpoint was declared for an operation of a document, and has passed some stages since, one
at least. In endpoints, other than in models, binary texts are files. -/
def Passed (d : Document) (o : Options) (e : Endpoint) : Prop :=
  ∃ r site nickname request raw s s', d.resolver o = .ok r ∧ site ∈ (d.prepared o).sites ∧
    { r with binaryAsFile := true }.rawEndpoint (d.prepared o) site nickname request s =
      .ok (raw, s') ∧
    Relation.TransGen r.setup.Passes raw e

/-- The endpoints of a program are those of its operations, finished. -/
lemma exists_finishEndpoint_of_lowered {d : Document} {o : Options} {program : Program}
    {warnings : List String} (h : d.lowered o = .ok (program, warnings)) {e : Endpoint}
    (he : e ∈ program.endpoints) :
    ∃ r site nickname request raw s s' t t', d.resolver o = .ok r ∧ site ∈ (d.prepared o).sites ∧
      { r with binaryAsFile := true }.rawEndpoint (d.prepared o) site nickname request s =
        .ok (raw, s') ∧
      r.setup.finishEndpoint program.models raw t = .ok (e, t') := by
  obtain ⟨r, chunks, hr, -, -, hchunks, hall⟩ := declared_endpoints_of_lowered h
  rw [hchunks] at he
  obtain ⟨es, hes, he⟩ := List.mem_flatten.1 he
  obtain ⟨site, hsite, raws, s, s', hraws, hfinish⟩ := exists_mem_right_of_forall₂ hall hes
  obtain ⟨raw, hraw, t, t', hfinish⟩ := exists_mem_right_of_forall₂ hfinish he
  obtain ⟨nickname, request, u, u', hdeclared⟩ := Resolver.exists_rawEndpoint hraws hraw
  exact ⟨r, site, nickname, request, raw, u, u', t, t', hr, hsite, hdeclared, hfinish⟩

lemma exists_finishes_of_lowered {d : Document} {o : Options} {program : Program}
    {warnings : List String} (h : d.lowered o = .ok (program, warnings)) {e : Endpoint}
    (he : e ∈ program.endpoints) :
    ∃ r site nickname request raw s s', d.resolver o = .ok r ∧ site ∈ (d.prepared o).sites ∧
      { r with binaryAsFile := true }.rawEndpoint (d.prepared o) site nickname request s =
        .ok (raw, s') ∧
      r.setup.Finishes raw e := by
  obtain ⟨r, site, nickname, request, raw, s, s', t, t', hr, hsite, hraw, hfinish⟩ :=
    exists_finishEndpoint_of_lowered h he
  exact ⟨r, site, nickname, request, raw, s, s', hr, hsite, hraw, _, t, t', hfinish⟩

/-- So they have passed all stages. -/
lemma passed_of_lowered {d : Document} {o : Options} {program : Program} {warnings : List String}
    (h : d.lowered o = .ok (program, warnings)) {e : Endpoint} (he : e ∈ program.endpoints) :
    d.Passed o e := by
  obtain ⟨r, site, nickname, request, raw, s, s', hr, hsite, hraw, hfinish⟩ :=
    exists_finishes_of_lowered h he
  exact ⟨r, site, nickname, request, raw, s, s', hr, hsite, hraw, hfinish.passes⟩

lemma Passed.showsArguments {d : Document} {o : Options} {e : Endpoint} (h : d.Passed o e) :
    e.ShowsArguments := by
  obtain ⟨r, site, nickname, request, raw, s, s', -, -, hraw, hpasses⟩ := h
  have hdeclared := Resolver.rawEndpoint_spec hraw
  exact (Setup.showsArguments_of_passes hpasses hdeclared.stage hdeclared.placed).2

/-- **After every stage the views of an endpoint are those of its arguments**, whatever the options
are: the lists by place, the plain arguments, the given ones, and the counts. So they are in all
programs. -/
theorem arguments_of_passes (d : Document) (o : Options) :
    (∀ e, d.Passed o e → e.ShowsArguments) ∧
      ∀ program warnings, d.lowered o = .ok (program, warnings) →
        ∀ e ∈ program.endpoints, e.ShowsArguments :=
  ⟨fun _ h => h.showsArguments, fun _ _ h _ he => (passed_of_lowered h he).showsArguments⟩

/-- A form that names a pet, with a mapping in the place of a parameter: the mapped argument is with
the plain ones, but for no place. -/
theorem arguments_of_passes_namingForm : ∃ program warnings,
    namingForm.lowered { parameterMappings := [
      { name := some "notify", mappedType := some "org.pets.Notice" }] } =
        .ok (program, warnings) ∧
    ∃ e ∈ program.endpoints, e.ShowsArguments ∧
      e.swaggerParams.map (·.baseName) = ["number", "X-Asked-By", "notice"] ∧
      e.queryParams.map (·.baseName) = ["number"] := by
  obtain ⟨program, warnings, h, e, he, hargs⟩ := exists_lowered (d := namingForm)
    (o := { parameterMappings := [
      { name := some "notify", mappedType := some "org.pets.Notice" }] })
    (P := fun program => ∃ e ∈ program.endpoints,
      e.swaggerParams.map (·.baseName) = ["number", "X-Asked-By", "notice"] ∧
      e.queryParams.map (·.baseName) = ["number"])
    (by decide +kernel)
  exact ⟨program, warnings, h, e, he, (arguments_of_passes _ _).2 program warnings h e he, hargs⟩

end Document

end ApiLowering
