import ApiLowering.Lowered
import ApiLowering.Proofs.Run.Steps

/-!
# Stages of endpoints

An endpoint gets its arguments in the first three stages: it is declared, normalized, and has its
arguments mapped. The stages after them describe the arguments, and change none of what tells them
apart.

## Main definitions

* `Argument.outline` — an argument without what the later stages say of it.
* `Argument.travels`, `Argument.Placed` — where an argument travels: at one place, or nowhere.
* `Endpoint.Continues` — an endpoint has the place and the arguments of an earlier one.
* `Endpoint.besideReturn` — an endpoint without what the stages of its returned type change.
* `Setup.KeptByReturn` — what these two stages keep.
* `Argument.ReformedFrom` — an argument differs in being a body or a field of a form alone.
* `Endpoint.asSent` — an argument as the media type of the request has it.
* `Argument.ofMapping` — the argument that a mapping introduces.
* `Setup.MapsTo` — what some mappings make of the arguments of an endpoint.
* `Endpoint.label` — the name of an endpoint and its own examples.
* `Endpoint.heading` — these with the media types that it accepts and the ways to authenticate.

## Main results

* `Setup.finishEndpoint_spec` — the stages after the third keep the outlines of all arguments.
* `Setup.normalizeEndpoint_spec` — what the second stage does to the arguments.
* `Setup.mapArgument_cases` — what one mapping does.
* `Setup.mapArguments_spec` — what the third stage does to them.
* `Setup.exists_freezeEndpoint_of_finishEndpoint` — the name and the examples before the last stage.
* `Setup.finishEndpoint_keeps` — what all stages keep.
-/

namespace ApiLowering

/-! ## Places of arguments -/

namespace Argument

/-- Whether an argument travels at a place. -/
def travels (a : Argument) : MappedLocation → Bool
  | .query => a.isQuery
  | .header => a.isHeader
  | .path => a.isPath
  | .cookie => a.isCookie
  | .body => a.isBody
  | .form => a.isForm

/-- An argument travels at one place, or nowhere if a mapping introduced it. -/
def Placed (a : Argument) : Prop :=
  ∃ place : Option MappedLocation, place.isNone = a.facets.mapped ∧
    ∀ l, a.travels l = (place == some l)

/-- What changes neither where an argument travels nor where it is from, keeps its place. -/
lemma Placed.of_eq {a a' : Argument} (h : a.Placed) (htravels : a'.travels = a.travels)
    (hmapped : a'.facets.mapped = a.facets.mapped) : a'.Placed := by
  obtain ⟨place, hplace, hall⟩ := h
  exact ⟨place, hplace.trans hmapped.symm, fun l => (congrFun htravels l).trans (hall l)⟩

/-- An argument that travels somewhere, and nowhere else, may be sent to another place. -/
lemma Placed.moved {a a' : Argument} (h : a.Placed) (source target : MappedLocation)
    (hsource : a.travels source = true) (hmapped : a'.facets.mapped = a.facets.mapped)
    (htarget : ∀ l, a'.travels l = (l == target || (l != source && a.travels l))) :
    a'.Placed := by
  obtain ⟨place, hplace, hall⟩ := h
  have hsome : place = some source := by simpa [hall] using hsource
  subst hsome
  refine ⟨some target, hplace.trans hmapped.symm, fun l => ?_⟩
  rw [htarget, hall]
  cases l <;> cases source <;> cases target <;> rfl

end Argument

/-! ## Arguments that stay -/

namespace Argument

/-- The argument without what the later stages say of it: what is left is what it is called, whether
it is required, and what decides whether its name takes the plural. -/
def outline (a : Argument) : Argument where
  paramName := a.paramName
  baseName := a.baseName
  required := a.required
  isHeader := a.isHeader
  isBody := a.isBody
  type := { isArray := a.type.isArray }
  refName := a.refName
  facets := { mapped := a.facets.mapped }

lemma outline_counted (n : Nat) (a : Argument) : (a.counted n).outline = a.outline := rfl

lemma outline_withFormat (a : Argument) : a.withFormat.outline = a.outline := by
  rw [withFormat]
  split <;> rfl

end Argument

lemma Setup.outline_annotateArgument (setup : Setup) (deprecated : List String) (a : Argument) :
    (setup.annotateArgument deprecated a).outline = a.outline :=
  (a.annotated setup.annotator).outline_withFormat

lemma Setup.outline_exemplify (examples : Examples) (a : Argument) :
    (exemplify examples a).outline = a.outline := rfl

/-- A change that keeps outlines keeps those of a list. -/
lemma Argument.map_outline_map {f : Argument → Argument} (hf : ∀ a, (f a).outline = a.outline)
    (as : List Argument) : (as.map f).map outline = as.map outline := by
  rw [List.map_map]
  exact List.map_congr_left fun a _ => hf a

namespace Endpoint

/-- An endpoint has the place and the tags of an earlier one, and arguments of the same outlines. -/
structure Continues (e e' : Endpoint) : Prop where
  path : e'.path = e.path
  httpMethod : e'.httpMethod = e.httpMethod
  tags : e'.tags = e.tags
  allParams : e'.allParams.map Argument.outline = e.allParams.map Argument.outline
  implicitHeadersParams :
    e'.implicitHeadersParams.map Argument.outline = e.implicitHeadersParams.map Argument.outline

namespace Continues

variable {e e' e'' : Endpoint}

lemma refl (e : Endpoint) : e.Continues e := ⟨rfl, rfl, rfl, rfl, rfl⟩

lemma trans (h : e.Continues e') (h' : e'.Continues e'') : e.Continues e'' where
  path := h'.path.trans h.path
  httpMethod := h'.httpMethod.trans h.httpMethod
  tags := h'.tags.trans h.tags
  allParams := h'.allParams.trans h.allParams
  implicitHeadersParams := h'.implicitHeadersParams.trans h.implicitHeadersParams

end Continues

/-- A stage follows the expected one. -/
lemma advance_eq_ok {e e' : Endpoint} {expected next : Stage}
    (h : e.advance expected next = .ok e') : e.stage = expected ∧ e' = { e with stage := next } := by
  rw [advance] at h
  split at h
  · rename_i hstage
    exact ⟨hstage, (Except.ok.inj h).symm⟩
  · cases h

/-- What comes after a stage goes on with the endpoint in that stage. -/
lemma bind_advance_eq_ok {α : Type} {e : Endpoint} {expected next : Stage}
    {f : Endpoint → Lowering α} {s s' : Session} {a : α}
    (h : ((liftM (e.advance expected next) : Lowering Endpoint) >>= f) s = .ok (a, s')) :
    e.stage = expected ∧ f { e with stage := next } s = .ok (a, s') := by
  obtain ⟨e', _, hlift, h⟩ := Lowering.bind_eq_ok_iff.1 h
  obtain ⟨hnext, rfl⟩ := Lowering.lift_eq_ok_iff.1 hlift
  obtain ⟨hstage, rfl⟩ := advance_eq_ok hnext
  exact ⟨hstage, h⟩

lemma continues_projected (e : Endpoint) : e.Continues e.projected :=
  ⟨rfl, rfl, rfl, Argument.map_outline_map (Argument.outline_counted e.plainCount) e.allParams, rfl⟩

end Endpoint

/-! ## Stages that keep the arguments -/

/-- An endpoint without what the stages of its returned type change. -/
def Endpoint.besideReturn (e : Endpoint) : Endpoint :=
  { e with
    responseHeaders := []
    returnType := none
    returnProperty := none
    returnContainer := none
    isArray := false
    isMap := false
    imports := {}
    facets.isReturnFlux := false
    facets.bareReturnType := none
    stage := .raw }

lemma Endpoint.Continues.of_besideReturn {e e' : Endpoint}
    (h : e'.besideReturn = e.besideReturn) : e.Continues e' := by
  have hbeside : e.besideReturn.Continues e'.besideReturn := h ▸ .refl _
  obtain ⟨hpath, hmethod, htags, hall, himplicit⟩ := hbeside
  exact ⟨hpath, hmethod, htags, hall, himplicit⟩

namespace Setup

variable {setup : Setup} {e e' : Endpoint} {s s' : Session}

/-- What the two stages of the returned type keep: it is kept by an envelope that they may put it
in, and by each of the small changes beside. -/
structure KeptByReturn (setup : Setup) (P : Endpoint → Prop) : Prop where
  envelop : ∀ {e e' : Endpoint} {wrapper : String} {ofItems : Bool} {s s' : Session},
    wrapper ∈ setup.options.responseBodyMappings.filterMap (·.mappedBodyType) ∨
      wrapper ∈ [Dialect.httpResponse, Dialect.mono, Dialect.flux] →
    setup.envelop e wrapper ofItems s = .ok (e', s') → P e → P e'
  headers : ∀ {e : Endpoint} (left : List Property), left ⊆ e.responseHeaders → P e →
    P { e with responseHeaders := left }
  valid : ∀ {e : Endpoint}, P e →
    P { e with returnProperty := e.returnProperty.map fun p => { p with facets.withValid := true } }
  bare : ∀ {e : Endpoint} (bareReturnType : Option String), P e →
    P { e with facets.bareReturnType := bareReturnType }
  flux : ∀ {e : Endpoint}, P e → P { e with facets.isReturnFlux := true }
  stage : ∀ {e : Endpoint} (stage : Stage), P e → P { e with stage }

namespace KeptByReturn

variable {P : Endpoint → Prop}

lemma mapReturnBy (hP : setup.KeptByReturn P) {m : ResponseBodyMapping}
    (hm : m ∈ setup.options.responseBodyMappings) (h : setup.mapReturnBy e m s = .ok (e', s'))
    (he : P e) : P e' := by
  rw [Setup.mapReturnBy] at h
  split at h
  · have hleft := hP.headers (e.responseHeaders.eraseP fun p => m.fits p.baseName e.isArray)
      List.eraseP_subset he
    cases hbody : m.mappedBodyType with
    | none =>
      simp only [hbody] at h
      obtain ⟨rfl, -⟩ := Lowering.pure_eq_ok_iff.1 h
      exact hleft
    | some bodyType =>
      simp only [hbody] at h
      obtain ⟨enveloped, _, henveloped, h⟩ := Lowering.bind_eq_ok_iff.1 h
      have hasked : bodyType ∈ setup.options.responseBodyMappings.filterMap (·.mappedBodyType) :=
        List.mem_filterMap.2 ⟨m, hm, hbody⟩
      have hnext := hP.envelop (.inl hasked) henveloped hleft
      split at h <;> obtain ⟨rfl, -⟩ := Lowering.pure_eq_ok_iff.1 h
      · exact hP.valid hnext
      · exact hnext
  · obtain ⟨rfl, -⟩ := Lowering.pure_eq_ok_iff.1 h
    exact he

/-- The fourth stage follows the third. -/
lemma mapReturn (hP : setup.KeptByReturn P) (h : setup.mapReturn e s = .ok (e', s')) :
    e.stage = .paramsMapped ∧ (P e → P e') := by
  rw [Setup.mapReturn] at h
  obtain ⟨hstage, h⟩ := Endpoint.bind_advance_eq_ok h
  refine ⟨hstage, fun he => ?_⟩
  exact Lowering.foldlM_induction (P := fun _ x => P x) h
    (hP.bare e.returnType (hP.stage .bodyMapped he))
    fun _ _ hm _ _ _ _ hdone hstep => hP.mapReturnBy hm hstep hdone

lemma inResponse (hP : setup.KeptByReturn P) (h : setup.inResponse e s = .ok (e', s'))
    (he : P e) : P e' := by
  rw [Setup.inResponse] at h
  split at h
  · exact hP.envelop (.inr (by simp)) h he
  · obtain ⟨rfl, -⟩ := Lowering.pure_eq_ok_iff.1 h
    exact he

lemma inPublisher (hP : setup.KeptByReturn P) (h : setup.inPublisher e s = .ok (e', s'))
    (he : P e) : P e' := by
  rw [Setup.inPublisher] at h
  split at h
  · split at h
    · obtain ⟨enveloped, _, henveloped, h⟩ := Lowering.bind_eq_ok_iff.1 h
      obtain ⟨rfl, -⟩ := Lowering.pure_eq_ok_iff.1 h
      exact hP.flux (hP.envelop (.inr (by simp)) henveloped he)
    · exact hP.envelop (.inr (by simp)) h he
  · obtain ⟨rfl, -⟩ := Lowering.pure_eq_ok_iff.1 h
    exact he

/-- The fifth stage follows the fourth. -/
lemma wrapEndpoint (hP : setup.KeptByReturn P) (h : setup.wrapEndpoint e s = .ok (e', s')) :
    e.stage = .bodyMapped ∧ (P e → P e') := by
  rw [Setup.wrapEndpoint] at h
  obtain ⟨hstage, h⟩ := Endpoint.bind_advance_eq_ok h
  obtain ⟨answered, _, hanswered, h⟩ := Lowering.bind_eq_ok_iff.1 h
  exact ⟨hstage, fun he => hP.inPublisher h (hP.inResponse hanswered (hP.stage .wrapped he))⟩

end KeptByReturn

/-- The returned type has no part in the rest of an endpoint. -/
lemma keptByReturn_besideReturn (setup : Setup) (e₀ : Endpoint) :
    setup.KeptByReturn fun e => e.besideReturn = e₀.besideReturn where
  envelop _ h he := by
    rw [Setup.envelop] at h
    obtain ⟨_, _, -, h⟩ := Lowering.bind_eq_ok_iff.1 h
    obtain ⟨rfl, -⟩ := Lowering.pure_eq_ok_iff.1 h
    exact he
  headers _ _ he := he
  valid he := he
  bare _ he := he
  flux he := he
  stage _ he := he

/-- The fourth stage keeps the arguments. -/
lemma mapReturn_spec (h : setup.mapReturn e s = .ok (e', s')) :
    e.stage = .paramsMapped ∧ e'.besideReturn = e.besideReturn := by
  obtain ⟨hstage, hkept⟩ := (setup.keptByReturn_besideReturn e).mapReturn h
  exact ⟨hstage, hkept rfl⟩

/-- So does the fifth stage. -/
lemma wrapEndpoint_spec (h : setup.wrapEndpoint e s = .ok (e', s')) :
    e.stage = .bodyMapped ∧ e'.besideReturn = e.besideReturn := by
  obtain ⟨hstage, hkept⟩ := (setup.keptByReturn_besideReturn e).wrapEndpoint h
  exact ⟨hstage, hkept rfl⟩

/-- All that the sixth stage does. -/
lemma annotateEndpoint_eq_ok {deprecated : List String}
    (h : setup.annotateEndpoint deprecated e s = .ok (e', s')) :
    ∃ onOperation vendorExtensions, e' = Endpoint.projected { e with
      stage := .annotationsApplied
      allParams := e.allParams.map (setup.annotateArgument deprecated)
      implicitHeadersParams := e.implicitHeadersParams.map (setup.annotateArgument deprecated)
      returnProperty := e.returnProperty.map (·.annotated setup.annotator)
      vendorExtensions
      facets.annotations.onOperation := onOperation
      facets.swagger := setup.swagger } := by
  rw [annotateEndpoint] at h
  obtain ⟨-, h⟩ := Endpoint.bind_advance_eq_ok h
  obtain ⟨⟨onOperation, vendorExtensions⟩, _, -, h⟩ := Lowering.bind_eq_ok_iff.1 h
  exact ⟨onOperation, vendorExtensions, (Lowering.pure_eq_ok_iff.1 h).1.symm⟩

/-- The sixth stage annotates the arguments one by one. -/
lemma annotateEndpoint_spec {deprecated : List String}
    (h : setup.annotateEndpoint deprecated e s = .ok (e', s')) :
    ∃ x : Endpoint, e.Continues x ∧
      x.allParams = e.allParams.map (setup.annotateArgument deprecated) ∧ e' = x.projected := by
  obtain ⟨_, _, rfl⟩ := annotateEndpoint_eq_ok h
  have houtline := setup.outline_annotateArgument deprecated
  refine ⟨_, ?_, rfl, rfl⟩
  exact ⟨rfl, rfl, rfl, Argument.map_outline_map houtline _, Argument.map_outline_map houtline _⟩

/-- An endpoint has examples of its own if it returns something and the options ask for them. -/
lemma exemplifyReturn_cases (models : List Model) (x : Examples) (e : Endpoint) :
    setup.exemplifyReturn models x e = e ∨ ∃ returned ∈ e.facets.bareReturnType,
      setup.exemplifyReturn models x e = { e with
        facets.sample := some (x.expression (returnSource models e returned) false)
        facets.groovyExample := some (x.expression (returnSource models e returned) true) } := by
  rw [exemplifyReturn]
  split
  · exact .inl rfl
  · rename_i returned hreturned
    split
    · exact .inl rfl
    · exact .inr ⟨returned, hreturned, rfl⟩

/-- They are all that changes. -/
lemma exists_exemplifyReturn_eq (models : List Model) (x : Examples) (e : Endpoint) :
    ∃ sample groovyExample, setup.exemplifyReturn models x e =
      { e with facets := { e.facets with sample, groovyExample } } := by
  obtain heq | ⟨_, -, heq⟩ := setup.exemplifyReturn_cases models x e
  · exact ⟨_, _, heq⟩
  · exact ⟨_, _, heq⟩

/-- All that the last stage does. -/
lemma freezeEndpoint_eq_ok {models : List Model}
    (h : setup.freezeEndpoint models e s = .ok (e', s')) :
    ∃ x t, setup.examples (constructorProperties models) s = .ok (x, t) ∧
      e' = (setup.exemplifyReturn models x { e with
        stage := .frozen
        allParams := e.allParams.map (exemplify x)
        implicitHeadersParams := e.implicitHeadersParams.map (exemplify x) }).projected := by
  rw [freezeEndpoint] at h
  obtain ⟨-, h⟩ := Endpoint.bind_advance_eq_ok h
  obtain ⟨x, t, hx, h⟩ := Lowering.bind_eq_ok_iff.1 h
  exact ⟨x, t, hx, (Lowering.pure_eq_ok_iff.1 h).1.symm⟩

/-- The last stage gives the arguments their examples one by one. -/
lemma freezeEndpoint_spec {models : List Model}
    (h : setup.freezeEndpoint models e s = .ok (e', s')) :
    ∃ (x : Endpoint) (examples : Examples), e.Continues x ∧
      x.allParams = e.allParams.map (exemplify examples) ∧ e' = x.projected := by
  obtain ⟨examples, _, -, rfl⟩ := freezeEndpoint_eq_ok h
  have houtline := outline_exemplify examples
  obtain ⟨_, _, heq⟩ := setup.exists_exemplifyReturn_eq models examples { e with
    stage := .frozen
    allParams := e.allParams.map (exemplify examples)
    implicitHeadersParams := e.implicitHeadersParams.map (exemplify examples) }
  rw [heq]
  refine ⟨_, examples, ?_, ?_, rfl⟩
  · exact ⟨rfl, rfl, rfl, Argument.map_outline_map houtline _, Argument.map_outline_map houtline _⟩
  · rfl

/-- The six stages of an endpoint one after the other. -/
lemma finishEndpoint_eq_ok {models : List Model}
    (h : setup.finishEndpoint models e s = .ok (e', s')) :
    ∃ normalized mapped returned wrapped annotated s₂ s₃ s₄ s₅,
      setup.normalizeEndpoint e = .ok normalized ∧
      setup.mapArguments normalized s = .ok (mapped, s₂) ∧
      setup.mapReturn mapped s₂ = .ok (returned, s₃) ∧
      setup.wrapEndpoint returned s₃ = .ok (wrapped, s₄) ∧
      setup.annotateEndpoint (deprecatedClasses models) wrapped s₄ = .ok (annotated, s₅) ∧
      setup.freezeEndpoint models annotated s₅ = .ok (e', s') := by
  rw [finishEndpoint] at h
  obtain ⟨normalized, s₁, hnext, h⟩ := Lowering.bind_eq_ok_iff.1 h
  obtain ⟨hnormalized, rfl⟩ := Lowering.lift_eq_ok_iff.1 hnext
  obtain ⟨mapped, s₂, hmapped, h⟩ := Lowering.bind_eq_ok_iff.1 h
  obtain ⟨returned, s₃, hreturned, h⟩ := Lowering.bind_eq_ok_iff.1 h
  obtain ⟨wrapped, s₄, hwrapped, h⟩ := Lowering.bind_eq_ok_iff.1 h
  obtain ⟨annotated, s₅, hannotated, h⟩ := Lowering.bind_eq_ok_iff.1 h
  exact ⟨normalized, mapped, returned, wrapped, annotated, s₂, s₃, s₄, s₅, hnormalized, hmapped,
    hreturned, hwrapped, hannotated, h⟩

/-- **The stages after the third keep the arguments**, but for what they say of them. -/
theorem finishEndpoint_spec {models : List Model}
    (h : setup.finishEndpoint models e s = .ok (e', s')) :
    ∃ normalized mapped t, setup.normalizeEndpoint e = .ok normalized ∧
      setup.mapArguments normalized s = .ok (mapped, t) ∧ mapped.Continues e' := by
  obtain ⟨normalized, mapped, returned, wrapped, annotated, s₂, s₃, s₄, s₅, hnormalized, hmapped,
    hreturned, hwrapped, hannotated, hfrozen⟩ := finishEndpoint_eq_ok h
  have hbeside : wrapped.besideReturn = mapped.besideReturn :=
    (wrapEndpoint_spec hwrapped).2.trans (mapReturn_spec hreturned).2
  obtain ⟨x, hx, -, rfl⟩ := annotateEndpoint_spec hannotated
  obtain ⟨y, examples, hy, -, rfl⟩ := freezeEndpoint_spec hfrozen
  refine ⟨normalized, mapped, s₂, hnormalized, hmapped, ?_⟩
  exact (Endpoint.Continues.of_besideReturn hbeside).trans (hx.trans
    (x.continues_projected.trans (hy.trans y.continues_projected)))

end Setup

/-! ## The second stage -/

/-- An argument differs from another one in being a body, or a field or a part of a form, alone. -/
def Argument.ReformedFrom (a a' : Argument) : Prop :=
  ∃ isBody isForm isPart, a' = { a with isBody, isForm, isPart }

namespace Endpoint

lemma reformedFrom_asFormField (a : Argument) : a.ReformedFrom (asFormField a) := by
  rw [asFormField]
  split
  · exact ⟨_, _, _, rfl⟩
  · exact ⟨a.isBody, a.isForm, a.isPart, rfl⟩

lemma reformedFrom_asPart (a : Argument) : a.ReformedFrom (asPart a) := by
  rw [asPart]
  split
  · exact ⟨_, _, _, rfl⟩
  · exact ⟨a.isBody, a.isForm, a.isPart, rfl⟩

lemma placed_asFormField {a : Argument} (h : a.Placed) : (asFormField a).Placed := by
  rw [asFormField]
  split
  · rename_i hbody
    exact h.moved .body .form hbody rfl fun l => by cases l <;> rfl
  · exact h

lemma placed_asPart {a : Argument} (h : a.Placed) : (asPart a).Placed := by
  rw [asPart]
  split
  · rename_i hform
    exact h.moved .form .body hform rfl fun l => by cases l <;> rfl
  · exact h

/-- An argument as the media type of the request has it. -/
def asSent (mediaType : Option String) : Argument → Argument :=
  if mediaType == some Content.urlEncoded then asFormField
  else if mediaType == some Content.multipart then asPart
  else id

lemma withFormArguments_eq (e : Endpoint) :
    e.withFormArguments =
      { e with allParams := e.allParams.map (asSent e.facets.contentType) } := by
  rw [withFormArguments, asSent]
  split
  · rfl
  · split
    · rfl
    · rw [List.map_id]

lemma reformedFrom_asSent (mediaType : Option String) (a : Argument) :
    a.ReformedFrom (asSent mediaType a) := by
  rw [asSent]
  split
  · exact reformedFrom_asFormField a
  · split
    · exact reformedFrom_asPart a
    · exact ⟨a.isBody, a.isForm, a.isPart, rfl⟩

lemma placed_asSent (mediaType : Option String) {a : Argument} (h : a.Placed) :
    (asSent mediaType a).Placed := by
  rw [asSent]
  split
  · exact placed_asFormField h
  · split
    · exact placed_asPart h
    · exact h

/-- Bodies and forms are told apart argument by argument, and every argument has a place again. -/
lemma exists_withFormArguments_eq (e : Endpoint) :
    ∃ f, (∀ a, Argument.ReformedFrom a (f a)) ∧ (∀ a : Argument, a.Placed → (f a).Placed) ∧
      e.withFormArguments = { e with allParams := e.allParams.map f } :=
  ⟨asSent e.facets.contentType, reformedFrom_asSent _, fun _ => placed_asSent _,
    e.withFormArguments_eq⟩

end Endpoint

namespace Setup

variable {setup : Setup} {e e' : Endpoint} {s s' : Session}

lemma hidesArgument_reformed {a a' : Argument} (h : a.ReformedFrom a') :
    setup.hidesArgument a' = setup.hidesArgument a := by
  obtain ⟨_, _, _, rfl⟩ := h
  rfl

lemma normalizeEndpoint_eq_ok (h : setup.normalizeEndpoint e = .ok e') :
    e' = (setup.withoutImplicitHeaders
      (Endpoint.tidied { e with stage := .normalized }).withFormArguments).projected := by
  rw [normalizeEndpoint] at h
  cases hnext : e.advance .raw .normalized with
  | error fault =>
    rw [hnext] at h
    cases h
  | ok next =>
    rw [hnext] at h
    obtain ⟨-, rfl⟩ := Endpoint.advance_eq_ok hnext
    exact (Except.ok.inj h).symm

/-- **The second stage takes the implicit headers out of the arguments**, and otherwise only tells
bodies and forms apart. -/
theorem normalizeEndpoint_spec (h : setup.normalizeEndpoint e = .ok e') :
    e'.path = e.path ∧ e'.httpMethod = e.httpMethod ∧ e'.tags = e.tags ∧
      ∃ f, (∀ a, Argument.ReformedFrom a (f a)) ∧
        e'.allParams.map Argument.outline =
          ((e.allParams.filter (!setup.hidesArgument ·)).map f).map Argument.outline ∧
        e'.implicitHeadersParams = (e.allParams.filter setup.hidesArgument).map f := by
  obtain rfl := normalizeEndpoint_eq_ok h
  obtain ⟨f, hf, -, hforms⟩ := Endpoint.exists_withFormArguments_eq
    (Endpoint.tidied { e with stage := .normalized })
  refine ⟨?_, ?_, ?_, f, hf, ?_, ?_⟩
  · rw [(Endpoint.continues_projected _).path, hforms]
    rfl
  · rw [(Endpoint.continues_projected _).httpMethod, hforms]
    rfl
  · rw [(Endpoint.continues_projected _).tags, hforms]
    rfl
  · rw [(Endpoint.continues_projected _).allParams, hforms]
    change ((e.allParams.map f).filter (!setup.hidesArgument ·)).map _ = _
    rw [List.filter_map]
    simp only [Function.comp_def, hidesArgument_reformed (hf _)]
  · rw [hforms]
    change (e.allParams.map f).filter setup.hidesArgument = _
    rw [List.filter_map]
    simp only [Function.comp_def, hidesArgument_reformed (hf _)]

/-- The arguments of a normalized endpoint. -/
lemma exists_normalizeEndpoint_eq (h : setup.normalizeEndpoint e = .ok e') :
    ∃ plain, e'.allParams = ((e.allParams.map (Endpoint.asSent
      (e.facets.contentType.map Endpoint.concrete))).filter (!setup.hidesArgument ·)).map
        (·.counted plain) := by
  obtain rfl := normalizeEndpoint_eq_ok h
  rw [Endpoint.withFormArguments_eq]
  exact ⟨_, rfl⟩

end Setup

/-! ## The third stage -/

/-- The argument of a mapped type. -/
def Argument.ofMapping (m : ParameterMapping) (dataType paramName : String) : Argument where
  paramName
  realName := paramName
  baseName := paramName
  required := true
  type := {
    dataType
    datatypeWithEnum := dataType
    baseType := dataType
    isModel := m.isValidated }
  facets := {
    mapped := true
    withValid := m.isValidated
    annotatedType := dataType
    annotatedTypeWithEnum := dataType }

namespace Setup

variable {setup : Setup} {e e' : Endpoint} {s s' : Session}

/-- The name of the argument that a mapping introduces: its own, or that of its type. -/
def mappedName (setup : Setup) (m : ParameterMapping) (dataType : String) : Except Fault String :=
  match m.mappedName with
  | some name => .ok name
  | none => setup.names.parameterName dataType

/-- The argument that a mapping introduces is that of its type and of its name. -/
lemma mappedArgument_eq_ok {m : ParameterMapping} {mappedType : String} {imports : NameSet}
    {out : Argument × NameSet}
    (h : setup.mappedArgument m mappedType imports s = .ok (out, s')) :
    ∃ paramName t,
      setup.importType mappedType imports s = .ok ((TypeName.simple mappedType, out.2), t) ∧
      setup.mappedName m (TypeName.simple mappedType) = .ok paramName ∧
      out.1 = .ofMapping m (TypeName.simple mappedType) paramName := by
  rw [mappedArgument] at h
  obtain ⟨⟨dataType, more⟩, t, himport, h⟩ := Lowering.bind_eq_ok_iff.1 h
  obtain rfl := eq_simple_of_importType himport
  cases hname : m.mappedName with
  | none =>
    simp only [hname] at h
    obtain ⟨paramName, _, hparam, h⟩ := Lowering.bind_eq_ok_iff.1 h
    obtain ⟨hparam, -⟩ := Lowering.lift_eq_ok_iff.1 hparam
    obtain ⟨rfl, -⟩ := Lowering.pure_eq_ok_iff.1 h
    exact ⟨paramName, t, himport, by rw [mappedName, hname, hparam], rfl⟩
  | some name =>
    simp only [hname] at h
    obtain ⟨rfl, -⟩ := Lowering.pure_eq_ok_iff.1 h
    exact ⟨name, t, himport, by rw [mappedName, hname], rfl⟩

/-- One mapping keeps the arguments that it is not for. If there are others and it has a type, then
it introduces an argument. -/
lemma mapArgument_cases {m : ParameterMapping} (h : setup.mapArgument e m s = .ok (e', s')) :
    ((m.mappedType.isSome && e.allParams.any m.claims) = false ∧
      e' = { e with allParams := e.allParams.filter (!m.claims ·) }) ∨
    ∃ mappedType out, m.mappedType = some mappedType ∧ e.allParams.any m.claims = true ∧
      setup.mappedArgument m mappedType e.imports s = .ok (out, s') ∧
      e' = { e with
        allParams := e.allParams.filter (!m.claims ·) ++ [out.1]
        imports := out.2 } := by
  rw [mapArgument] at h
  split at h
  · rename_i hany
    cases htype : m.mappedType with
    | none =>
      simp only [htype] at h
      obtain ⟨rfl, -⟩ := Lowering.pure_eq_ok_iff.1 h
      exact .inl ⟨rfl, rfl⟩
    | some mappedType =>
      simp only [htype] at h
      obtain ⟨out, _, hout, h⟩ := Lowering.bind_eq_ok_iff.1 h
      obtain ⟨rfl, rfl⟩ := Lowering.pure_eq_ok_iff.1 h
      exact .inr ⟨mappedType, out, rfl, hany, hout, rfl⟩
  · rename_i hnone
    obtain ⟨rfl, -⟩ := Lowering.pure_eq_ok_iff.1 h
    rw [Bool.not_eq_true] at hnone
    have hkept : e.allParams.filter (!m.claims ·) = e.allParams := by
      simpa using hnone
    exact .inl ⟨by rw [hnone, Bool.and_false], by rw [hkept]⟩

/-- The third stage follows the second. It applies the mappings, and puts names in the plural. -/
lemma exists_foldlM_of_mapArguments (h : setup.mapArguments e s = .ok (e', s')) :
    ∃ mapped, setup.options.parameterMappings.foldlM setup.mapArgument
        { e with stage := .paramsMapped } s = .ok (mapped, s') ∧
      e' = Endpoint.projected { mapped with
        allParams := if setup.options.plural then mapped.allParams.map Argument.pluralized
          else mapped.allParams } := by
  rw [mapArguments] at h
  obtain ⟨-, h⟩ := Endpoint.bind_advance_eq_ok h
  obtain ⟨mapped, _, hfold, h⟩ := Lowering.bind_eq_ok_iff.1 h
  obtain ⟨rfl, rfl⟩ := Lowering.pure_eq_ok_iff.1 h
  exact ⟨mapped, hfold, rfl⟩

/-- What a mapping introduces is marked so, and travels nowhere. -/
lemma mappedArgument_spec {m : ParameterMapping} {mappedType : String} {imports : NameSet}
    {out : Argument × NameSet}
    (h : setup.mappedArgument m mappedType imports s = .ok (out, s')) :
    out.1.facets.mapped = true ∧ out.1.Placed := by
  obtain ⟨paramName, _, -, -, hout⟩ := mappedArgument_eq_ok h
  rw [hout]
  exact ⟨rfl, none, rfl, fun l => by cases l <;> rfl⟩

/-- What some mappings make of the arguments of an endpoint: some are kept, and what is added is
marked so and travels nowhere. Without mappings all are kept. -/
structure MapsTo (e : Endpoint) (ms : List ParameterMapping) (e' : Endpoint) : Prop where
  path : e'.path = e.path
  httpMethod : e'.httpMethod = e.httpMethod
  tags : e'.tags = e.tags
  implicitHeadersParams : e'.implicitHeadersParams = e.implicitHeadersParams
  allParams : ∃ kept added, e'.allParams = kept ++ added ∧ kept.Sublist e.allParams ∧
    (∀ a ∈ added, a.facets.mapped = true ∧ a.Placed ∧ ∃ m ∈ ms, m.mappedType.isSome) ∧
    (ms = [] → kept = e.allParams)

lemma MapsTo.nil {stage : Stage} : MapsTo e [] { e with stage } :=
  ⟨rfl, rfl, rfl, rfl, e.allParams, [], (List.append_nil _).symm, .refl _, by simp, fun _ => rfl⟩

/-- A mapping keeps the arguments that it does not claim, and may add one of its own. -/
lemma mapsTo_mapArgument {m : ParameterMapping} (h : setup.mapArgument e m s = .ok (e', s')) :
    MapsTo e [m] e' := by
  obtain ⟨-, rfl⟩ | ⟨mappedType, out, htype, -, hout, rfl⟩ := mapArgument_cases h
  · exact ⟨rfl, rfl, rfl, rfl, _, [], (List.append_nil _).symm, List.filter_sublist, by simp,
      by simp⟩
  · obtain ⟨hmapped, hplaced⟩ := mappedArgument_spec hout
    refine ⟨rfl, rfl, rfl, rfl, _, [out.1], rfl, List.filter_sublist, ?_, by simp⟩
    simp [hmapped, hplaced, htype]

/-- One more mapping: it may take away arguments that were there, and others that were added. -/
lemma MapsTo.concat {ms : List ParameterMapping} {m : ParameterMapping} {next : Endpoint}
    (h : MapsTo e ms next) (hnext : MapsTo next [m] e') : MapsTo e (ms ++ [m]) e' := by
  obtain ⟨kept, added, hall, hkept, hadded, -⟩ := h.allParams
  obtain ⟨left, new, hall', hleft, hnew, -⟩ := hnext.allParams
  rw [hall] at hleft
  obtain ⟨old, others, rfl, hold, hothers⟩ := List.sublist_append_iff.1 hleft
  refine ⟨hnext.path.trans h.path, hnext.httpMethod.trans h.httpMethod, hnext.tags.trans h.tags,
    hnext.implicitHeadersParams.trans h.implicitHeadersParams, old, others ++ new,
    by rw [hall', List.append_assoc], hold.trans hkept, fun a ha => ?_, by simp⟩
  rcases List.mem_append.1 ha with ha | ha
  · obtain ⟨hmapped, hplaced, m', hm', htype⟩ := hadded a (hothers.subset ha)
    exact ⟨hmapped, hplaced, m', List.mem_append_left _ hm', htype⟩
  · obtain ⟨hmapped, hplaced, m', hm', htype⟩ := hnew a ha
    exact ⟨hmapped, hplaced, m', List.mem_append_right _ hm', htype⟩

/-- Mappings that introduce nothing only take arguments away. -/
lemma MapsTo.sublist {ms : List ParameterMapping} (h : MapsTo e ms e')
    (hnone : ∀ m ∈ ms, m.mappedType = none) : e'.allParams.Sublist e.allParams := by
  obtain ⟨kept, added, hall, hkept, hadded, -⟩ := h.allParams
  have hempty : added = [] := List.eq_nil_iff_forall_not_mem.2 fun a ha => by
    obtain ⟨-, -, m, hm, htype⟩ := hadded a ha
    simp [hnone m hm] at htype
  rwa [hall, hempty, List.append_nil]

/-- Without mappings the arguments stay. -/
lemma MapsTo.eq_of_nil (h : MapsTo e [] e') : e'.allParams = e.allParams := by
  refine (h.sublist (by simp)).eq_of_length_le ?_
  obtain ⟨kept, added, hall, -, -, hkept⟩ := h.allParams
  rw [hall, hkept rfl, List.length_append]
  exact Nat.le_add_right _ _

/-- **The third stage applies the mappings, and then puts names in the plural.** -/
theorem mapArguments_spec (h : setup.mapArguments e s = .ok (e', s')) :
    ∃ mapped, MapsTo e setup.options.parameterMappings mapped ∧
      e' = Endpoint.projected { mapped with
        allParams := if setup.options.plural then mapped.allParams.map Argument.pluralized
          else mapped.allParams } := by
  obtain ⟨mapped, hfold, rfl⟩ := exists_foldlM_of_mapArguments h
  refine ⟨mapped, ?_, rfl⟩
  exact Lowering.foldlM_induction (P := MapsTo e) hfold .nil
    fun _ _ _ _ _ _ _ hdone hstep => hdone.concat (mapsTo_mapArgument hstep)

end Setup

/-! ## What all stages keep -/

/-- The name of an endpoint and its own examples. -/
def Endpoint.label (e : Endpoint) : String × Option String × Option String :=
  (e.nickname, e.facets.sample, e.facets.groovyExample)

/-- The name of an endpoint and its own examples, the media types that it accepts, and the ways to
authenticate. -/
def Endpoint.heading (e : Endpoint) :
    (String × Option String × Option String) × List String × List AuthMethod :=
  (e.label, e.consumes, e.authMethods)

namespace Setup

variable {setup : Setup} {e e' : Endpoint} {s s' : Session}

lemma heading_mapArguments (h : setup.mapArguments e s = .ok (e', s')) :
    e'.heading = e.heading := by
  obtain ⟨mapped, hfold, rfl⟩ := exists_foldlM_of_mapArguments h
  refine Lowering.foldlM_induction (P := fun _ x => x.heading = e.heading) hfold rfl
    fun _ _ _ _ _ _ _ hdone hstep => ?_
  obtain ⟨-, rfl⟩ | ⟨_, _, -, -, -, rfl⟩ := mapArgument_cases hstep <;> exact hdone

lemma heading_annotateEndpoint {deprecated : List String}
    (h : setup.annotateEndpoint deprecated e s = .ok (e', s')) : e'.heading = e.heading := by
  obtain ⟨_, _, rfl⟩ := annotateEndpoint_eq_ok h
  rfl

/-- The stages before the last one change the heading of an endpoint no more than the second one
does. -/
lemma exists_heading_of_finishEndpoint {models : List Model}
    (h : setup.finishEndpoint models e s = .ok (e', s')) : ∃ annotated t,
      annotated.heading = e.tidied.heading ∧
      setup.freezeEndpoint models annotated t = .ok (e', s') := by
  obtain ⟨normalized, mapped, returned, wrapped, annotated, _, _, _, t, hnormalized, hmapped,
    hreturned, hwrapped, hannotated, hfrozen⟩ := finishEndpoint_eq_ok h
  have hbeside : wrapped.besideReturn = mapped.besideReturn :=
    (wrapEndpoint_spec hwrapped).2.trans (mapReturn_spec hreturned).2
  have hwrap : wrapped.besideReturn.heading = mapped.besideReturn.heading := by rw [hbeside]
  have hnormal : normalized.heading = e.tidied.heading := by
    rw [normalizeEndpoint_eq_ok hnormalized, Endpoint.withFormArguments_eq]
    rfl
  refine ⟨annotated, t, ?_, hfrozen⟩
  calc annotated.heading = wrapped.heading := heading_annotateEndpoint hannotated
    _ = mapped.heading := hwrap
    _ = normalized.heading := heading_mapArguments hmapped
    _ = e.tidied.heading := hnormal

/-- **The stages before the last one** keep the name of an endpoint, and give it no examples. -/
theorem exists_freezeEndpoint_of_finishEndpoint {models : List Model}
    (h : setup.finishEndpoint models e s = .ok (e', s')) : ∃ annotated t,
      annotated.label = e.label ∧ setup.freezeEndpoint models annotated t = .ok (e', s') := by
  obtain ⟨annotated, t, hheading, hfrozen⟩ := exists_heading_of_finishEndpoint h
  exact ⟨annotated, t, congrArg Prod.fst hheading, hfrozen⟩

/-- **All stages** keep the name of an endpoint, the ways to authenticate, and its media types but
for the one that means any. -/
theorem finishEndpoint_keeps {models : List Model}
    (h : setup.finishEndpoint models e s = .ok (e', s')) :
    e'.nickname = e.nickname ∧ e'.consumes = e.consumes.filter (· != Content.any) ∧
      e'.authMethods = e.authMethods := by
  obtain ⟨annotated, t, hheading, hfrozen⟩ := exists_heading_of_finishEndpoint h
  have hlabel : annotated.label = e.label := congrArg Prod.fst hheading
  obtain ⟨examples, _, -, rfl⟩ := freezeEndpoint_eq_ok hfrozen
  obtain ⟨_, _, heq⟩ := setup.exists_exemplifyReturn_eq models examples { annotated with
    stage := .frozen
    allParams := annotated.allParams.map (exemplify examples)
    implicitHeadersParams := annotated.implicitHeadersParams.map (exemplify examples) }
  have hlast := congrArg Prod.snd hheading
  rw [heq]
  exact ⟨congrArg Prod.fst hlabel, congrArg Prod.fst hlast, congrArg Prod.snd hlast⟩

end Setup

end ApiLowering
