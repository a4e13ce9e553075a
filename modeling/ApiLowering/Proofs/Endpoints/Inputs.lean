import ApiLowering.Proofs.Document.Parameters
import ApiLowering.Proofs.Document.Samples
import ApiLowering.Proofs.Endpoints.Arguments
import ApiLowering.Proofs.Endpoints.Stages
import ApiLowering.Proofs.Models.Built

/-!
# The inputs of a program

Every endpoint of a program stands for one request of an operation. Its arguments are the inputs of
the request, in their order: none is lost, and none is there twice. Implicit headers are kept apart
from the others.

## Main definitions

* `Setup.hides` — whether an input is an implicit header.
* `Resolver.Answers` — an endpoint takes the inputs of a request.

## Main results

* `Document.made_endpoints_of_lowered`, `Document.endpoints_of_lowered` — the endpoints of a program
  and the requests of its operations.
* `Document.inputs_of_lowered` — endpoints take the inputs of their requests.
-/

namespace ApiLowering

/-! ## The endpoints of a run -/

/-- An endpoint is what the stages make of another one. -/
def Setup.Finishes (setup : Setup) (raw e : Endpoint) : Prop :=
  ∃ models s s', setup.finishEndpoint models raw s = .ok (e, s')

/-- The endpoints of a program are those of its operations, which declare them first. Each is then
finished with the models of the program. In endpoints, other than in models, binary texts are
files. -/
lemma Document.declared_endpoints_of_lowered {d : Document} {o : Options} {program : Program}
    {warnings : List String} (h : d.lowered o = .ok (program, warnings)) :
    ∃ r chunks, d.resolver o = .ok r ∧ r.setup = .ofCanonical o.canonical ∧
      r.components = (d.prepared o).parts ∧ program.endpoints = chunks.flatten ∧
      List.Forall₂ (fun site es => ∃ raws s s',
        { r with binaryAsFile := true }.endpointsOf (d.prepared o) site s = .ok (raws, s') ∧
          List.Forall₂ (fun raw e => ∃ t t',
            r.setup.finishEndpoint program.models raw t = .ok (e, t')) raws es)
        (d.prepared o).sites chunks := by
  obtain ⟨r, hstages⟩ := exists_stages_of_lowered h
  obtain ⟨hsetup, hcomponents, -⟩ := exists_build_of_resolver hstages.resolver
  obtain ⟨raw, s, s', t, t', hraw, hendpoints⟩ := hstages.endpoints
  rw [Resolver.rawEndpoints] at hraw
  obtain ⟨raws, s₁, hraws, hraw⟩ := Lowering.bind_eq_ok_iff.1 hraw
  obtain ⟨rfl, -⟩ := Lowering.pure_eq_ok_iff.1 hraw
  obtain ⟨chunks, hchunks, hfinish⟩ :=
    exists_flatten_of_forall₂ (Lowering.forall₂_of_mapM hendpoints)
  refine ⟨r, chunks, hstages.resolver, hsetup, hcomponents, hchunks, ?_⟩
  refine (forall₂_comp (Lowering.forall₂_of_mapM hraws) hfinish).imp ?_
  rintro site es ⟨raws, ⟨u, u', hes⟩, hall⟩
  exact ⟨raws, u, u', hes, hall⟩

/-- Every endpoint of a program is made for a request of an operation, and finished. -/
theorem Document.made_endpoints_of_lowered {d : Document} {o : Options} {program : Program}
    {warnings : List String} (h : d.lowered o = .ok (program, warnings)) :
    ∃ r chunks, d.resolver o = .ok r ∧ r.setup = .ofCanonical o.canonical ∧
      r.components = (d.prepared o).parts ∧ program.endpoints = chunks.flatten ∧
      List.Forall₂ (fun site es => ∃ body, r.bodyOf site.operation = .ok body ∧
        List.Forall₂ (fun request e => ∃ raw,
          { r with binaryAsFile := true }.MakesEndpoint (d.prepared o) site request raw ∧
            r.setup.Finishes raw e) (r.setup.requests body) es) (d.prepared o).sites chunks := by
  obtain ⟨r, chunks, hr, hsetup, hcomponents, hchunks, hall⟩ := declared_endpoints_of_lowered h
  refine ⟨r, chunks, hr, hsetup, hcomponents, hchunks, hall.imp ?_⟩
  rintro site es ⟨raws, _, _, hes, hfinish⟩
  obtain ⟨body, hbody, hmade⟩ := Resolver.endpointsOf_eq_ok hes
  refine ⟨body, hbody, (forall₂_comp hmade hfinish).imp ?_⟩
  rintro request e ⟨raw, hraw, u, u', he⟩
  exact ⟨raw, hraw, program.models, u, u', he⟩

/-- **The endpoints of a program** are those of the requests of its operations. -/
theorem Document.endpoints_of_lowered {d : Document} {o : Options} {program : Program}
    {warnings : List String} (h : d.lowered o = .ok (program, warnings)) :
    ∃ r chunks, d.resolver o = .ok r ∧ r.setup = .ofCanonical o.canonical ∧
      r.components = (d.prepared o).parts ∧ program.endpoints = chunks.flatten ∧
      List.Forall₂ (fun site es => ∃ body, r.bodyOf site.operation = .ok body ∧
        List.Forall₂ (fun request e => ∃ raw, r.DeclaredFor site request raw ∧
          r.setup.Finishes raw e) (r.setup.requests body) es) (d.prepared o).sites chunks := by
  obtain ⟨r, chunks, hr, hsetup, hcomponents, hchunks, hall⟩ := made_endpoints_of_lowered h
  refine ⟨r, chunks, hr, hsetup, hcomponents, hchunks, hall.imp ?_⟩
  rintro site es ⟨body, hbody, hes⟩
  refine ⟨body, hbody, hes.imp ?_⟩
  rintro request e ⟨raw, ⟨_, _, _, hmade⟩, hfinish⟩
  have hraw := Resolver.rawEndpoint_spec hmade
  exact ⟨raw, ⟨hraw.path, hraw.httpMethod, hraw.tags, hraw.stage, hraw.allParams⟩, hfinish⟩

/-! ## Inputs through the stages -/

namespace Argument

lemma map_input_of_map_outline {as bs : List Argument} (h : as.map outline = bs.map outline) :
    as.map input = bs.map input := by
  have hinputs := congrArg (List.map input) h
  rwa [List.map_map, List.map_map] at hinputs

lemma ReformedFrom.input_eq {a a' : Argument} (h : a.ReformedFrom a') : a'.input = a.input := by
  obtain ⟨_, _, _, rfl⟩ := h
  rfl

lemma input_pluralized (a : Argument) : a.pluralized.input = a.input := by
  rw [pluralized]
  split <;> rfl

/-- A change that keeps inputs keeps those of a list. -/
lemma map_input_map {f : Argument → Argument} (hf : ∀ a, (f a).input = a.input)
    (as : List Argument) : (as.map f).map input = as.map input := by
  rw [List.map_map]
  exact List.map_congr_left fun a _ => hf a

end Argument

namespace Setup

variable (setup : Setup)

/-- Whether an input is an implicit header: one of those that are matched, or any. -/
def hides (i : RequestInput) : Bool :=
  i.isHeader && (setup.options.implicitHeaders || setup.isImplicitHeader i.baseName)

lemma map_input_filter (p : RequestInput → Bool) (as : List Argument) :
    (as.filter fun a => p a.input).map Argument.input = (as.map Argument.input).filter p :=
  List.filter_map.symm

variable {setup} {raw e : Endpoint}

/-- **Without mappings of arguments the stages keep the inputs**, and tell implicit headers apart
from the others. -/
theorem Finishes.inputs (h : setup.Finishes raw e)
    (hmappings : setup.options.parameterMappings = []) :
    e.path = raw.path ∧ e.httpMethod = raw.httpMethod ∧
      e.allParams.map Argument.input =
        (raw.allParams.map Argument.input).filter (!setup.hides ·) ∧
      e.implicitHeadersParams.map Argument.input =
        (raw.allParams.map Argument.input).filter setup.hides := by
  obtain ⟨models, s, s', h⟩ := h
  obtain ⟨normalized, named, t, hnormalized, hnamed, hlast⟩ := finishEndpoint_spec h
  obtain ⟨hpath, hmethod, -, f, hf, hall, himplicit⟩ := normalizeEndpoint_spec hnormalized
  obtain ⟨mapped, hmapped, rfl⟩ := mapArguments_spec hnamed
  have hplural := Endpoint.continues_projected { mapped with
    allParams := if setup.options.plural then mapped.allParams.map Argument.pluralized
      else mapped.allParams }
  have hreformed (a : Argument) : (f a).input = a.input := (hf a).input_eq
  rw [hmappings] at hmapped
  refine ⟨?_, ?_, ?_, ?_⟩
  · rw [hlast.path, hplural.path, hmapped.path, hpath]
  · rw [hlast.httpMethod, hplural.httpMethod, hmapped.httpMethod, hmethod]
  · have hnames : (if setup.options.plural then mapped.allParams.map Argument.pluralized
        else mapped.allParams).map Argument.input = mapped.allParams.map Argument.input := by
      split
      · exact Argument.map_input_map Argument.input_pluralized _
      · rfl
    rw [Argument.map_input_of_map_outline hlast.allParams,
      Argument.map_input_of_map_outline hplural.allParams, hnames,
      hmapped.eq_of_nil, Argument.map_input_of_map_outline hall, Argument.map_input_map hreformed]
    exact map_input_filter (!setup.hides ·) raw.allParams
  · rw [Argument.map_input_of_map_outline hlast.implicitHeadersParams,
      Argument.map_input_of_map_outline hplural.implicitHeadersParams,
      hmapped.implicitHeadersParams, himplicit, Argument.map_input_map hreformed]
    exact map_input_filter setup.hides raw.allParams

end Setup

/-! ## Programs -/

namespace Resolver

variable {r : Resolver}

/-- An endpoint takes the inputs of a request, in their order: the parameters that the operation
declares, each once, and the inputs of the body. Implicit headers are kept apart. -/
structure Answers (r : Resolver) (site : Site) (request : Option (RequestBody × BodyVariant))
    (e : Endpoint) : Prop where
  path : e.path = site.path
  httpMethod : e.httpMethod = site.method.text
  inputs : ∃ declared contents,
    site.operation.parameters.mapM r.components.parameter = .ok declared ∧
    declared.Pairwise (fun p q => p.isNamesake q = false) ∧
    r.bodyInputs site.operation request = .ok contents ∧
    e.allParams.map Argument.input =
      (r.setup.options.arrangeInputs (declared.map Parameter.input) contents).filter
        (!r.setup.hides ·) ∧
    e.implicitHeadersParams.map Argument.input =
      (r.setup.options.arrangeInputs (declared.map Parameter.input) contents).filter r.setup.hides

lemma map_input_of_standsFor {as : List Argument} {inputs : List RequestInput}
    (h : List.Forall₂ StandsFor as inputs) : as.map Argument.input = inputs := by
  rw [← List.forall₂_eq_eq_eq, List.forall₂_map_left_iff]
  exact h.imp fun _ _ h => h.input

/-- A finished endpoint takes the inputs of the request that it was declared for, if the operation
declares all of its parameters itself. -/
lemma DeclaredFor.answers {site : Site} {request : Option (RequestBody × BodyVariant)}
    {raw e : Endpoint} (h : r.DeclaredFor site request raw) (hfinish : r.setup.Finishes raw e)
    (hmappings : r.setup.options.parameterMappings = []) (hitem : site.item.parameters = [])
    (hkeys : (site.operation.parameters.map r.components.parameterKey).Nodup) :
    r.Answers site request e := by
  obtain ⟨ps, contents, as, bs, hps, hcontents, has, hbs, hall⟩ := h.allParams
  obtain ⟨hdeclared, hdifferent⟩ := Components.declaredParameters_eq hitem hkeys hps
  obtain ⟨hpath, hmethod, hargs, himplicit⟩ := hfinish.inputs hmappings
  have hraw : raw.allParams.map Argument.input =
      r.setup.options.arrangeInputs (ps.map Parameter.input) contents := by
    rw [hall, Options.map_input_arrange, map_input_of_standsFor has, map_input_of_standsFor hbs]
  exact ⟨hpath.trans h.path, hmethod.trans h.httpMethod, ps, contents, hdeclared, hdifferent,
    hcontents, hraw ▸ hargs, hraw ▸ himplicit⟩

end Resolver

lemma HasSchemas.sameShape_paths_hoisted (d : Document) (rules : Hoisting.Rules) :
    SameShape d.paths (d.hoisted rules).paths := by
  have hpaths : (d.hoisted rules).paths = (d.hoisting rules).1.paths := by
    rw [Document.hoisted_eq, Document.withSchemas]
    split <;> rfl
  rw [hpaths]
  exact congrArg Document.paths (Hoisting.tracks_walkDocument rules d d.declaredPool).1

/-- **No input is lost, there twice or out of place.** Without mappings of arguments, every endpoint
of a program answers a request of an operation of the prepared document, and takes what the
operation declares, together with the body or the fields that the schema of a form declares itself.
The prepared document differs from the canonical form in its schemas only, and its operations
declare the parameters of their paths themselves. -/
theorem Document.inputs_of_lowered {d : Document} {o : Options} {program : Program}
    {warnings : List String} (h : d.lowered o = .ok (program, warnings))
    (hmappings : o.parameterMappings = []) :
    ∃ r chunks, d.resolver o = .ok r ∧ r.setup = .ofCanonical o.canonical ∧
      r.components = (d.prepared o).parts ∧
      SameShape (d.canonical (.ofTable o.canonical.openapiNormalizer)).paths
        (d.prepared o).paths ∧
      program.endpoints = chunks.flatten ∧
      List.Forall₂ (fun site es => site.item.parameters = [] ∧
        ∃ body, r.bodyOf site.operation = .ok body ∧
          List.Forall₂ (r.Answers site) (r.setup.requests body) es)
        (d.prepared o).sites chunks := by
  obtain ⟨r, chunks, hr, hsetup, hcomponents, hchunks, hall⟩ := endpoints_of_lowered h
  refine ⟨r, chunks, hr, hsetup, hcomponents, HasSchemas.sameShape_paths_hoisted _ _, hchunks, ?_⟩
  have honce : (d.prepared o).DeclaresOnce := declaresOnce_hoisted_canonical d _ _
  have hnone : r.setup.options.parameterMappings = [] := by
    rw [hsetup]
    exact hmappings
  rw [DeclaresOnce, ← hcomponents] at honce
  refine ((List.forall₂_and_left _ _).2 ⟨honce, hall⟩).imp ?_
  rintro site es ⟨⟨hitem, hkeys⟩, body, hbody, hes⟩
  refine ⟨hitem, body, hbody, hes.imp ?_⟩
  rintro request e ⟨raw, hraw, hfinish⟩
  exact hraw.answers hfinish hnone hitem hkeys

/-- A form that names a pet: its fields follow the parameters, the required ones go first, and the
header is apart. -/
theorem Document.inputs_of_lowered_namingForm : ∃ program warnings,
    namingForm.lowered { implicitHeaders := true } = .ok (program, warnings) ∧
    (program.endpoints.map fun e =>
      (e.allParams.map (·.baseName), e.implicitHeadersParams.map (·.baseName))) =
        [(["number", "name", "notify", "age"], ["X-Asked-By"])] ∧
    ∃ r chunks, namingForm.resolver { implicitHeaders := true } = .ok r ∧
      program.endpoints = chunks.flatten ∧
      List.Forall₂ (fun site es => site.item.parameters = [] ∧
        ∃ body, r.bodyOf site.operation = .ok body ∧
          List.Forall₂ (r.Answers site) (r.setup.requests body) es)
        (namingForm.prepared { implicitHeaders := true }).sites chunks := by
  obtain ⟨program, warnings, h, hargs⟩ := exists_lowered (d := namingForm)
    (o := { implicitHeaders := true })
    (P := fun program => (program.endpoints.map fun e =>
      (e.allParams.map (·.baseName), e.implicitHeadersParams.map (·.baseName))) =
        [(["number", "name", "notify", "age"], ["X-Asked-By"])])
    (by decide +kernel)
  obtain ⟨r, chunks, hr, -, -, -, hchunks, hall⟩ := inputs_of_lowered h rfl
  exact ⟨program, warnings, h, hargs, r, chunks, hr, hchunks, hall⟩

end ApiLowering
