import ApiLowering.Proofs.Endpoints.Mappings
import ApiLowering.Proofs.Endpoints.Parts
import ApiLowering.Proofs.Types.Declared

/-!
# Envelopes of returned types

What a method returns is put in envelopes, one in the other: first those of the mappings that find
a header for themselves, then a response, and at last a publisher. The first envelope may take the
items of an array in the place of the array. From then on nothing is an array any more, so that
mappings for arrays, and a publisher of items, come first or not at all.

## Main definitions

* `Envelope`, `Envelope.Encloses` — an envelope, and a property in it.
* `Envelope.Around` — a property in several envelopes, from the inside out.
* `ResponseBodyMapping.Take` — the headers and the envelopes of mappings, one after the other.
* `Options.stated`, `Options.published` — the envelopes that no mapping asks for.
* `Setup.Sends` — an endpoint returns in envelopes what another one returns without them.
* `Setup.Envelops` — these are the envelopes that are asked for.

## Main results

* `ResponseBodyMapping.Take.unique` — mappings ask for the same envelopes of the same headers.
* `Setup.exists_mapReturn_eq_ok`, `Setup.Sends.exists_wrapEndpoint_eq_ok` — both stages succeed, and
  what they do.
* `Resolver.MakesEndpoint.envelopes` — the envelopes of the operations of a document.
-/

namespace ApiLowering

/-! ## Envelopes -/

/-- What a property is put in: a type around it, or around its items if it is an array. -/
structure Envelope where
  typeName : String
  ofItems : Bool := false
  isValidated : Bool := false

namespace Envelope

/-- The name that the type of an envelope goes by. -/
def name (w : Envelope) : String := TypeName.simple w.typeName

/-- The envelope of a mapping. -/
def ofMapping (m : ResponseBodyMapping) (bodyType : String) : Envelope where
  typeName := bodyType
  ofItems := m.isListWrapper
  isValidated := m.isValidated

/-- A response. -/
def response : Envelope where
  typeName := Dialect.httpResponse

/-- A publisher of one value. -/
def mono : Envelope where
  typeName := Dialect.mono

/-- A publisher of many values. -/
def flux : Envelope where
  typeName := Dialect.flux
  ofItems := true

/-- The envelopes that no mapping asks for are known by these names. -/
lemma name_eq : response.name = "HttpResponse" ∧ mono.name = "Mono" ∧ flux.name = "Flux" := by
  decide +kernel

/-- A property is in an envelope: it is spelled around the other one, and is neither an array nor a
map. -/
structure Encloses (w : Envelope) (inner outer : Property) : Prop where
  items : outer.items = some inner
  name : outer.name = inner.name
  baseName : outer.baseName = inner.baseName
  dataType : outer.type.dataType = w.name ++ "<" ++ inner.type.dataType ++ ">"
  datatypeWithEnum :
    outer.type.datatypeWithEnum = w.name ++ "<" ++ inner.type.datatypeWithEnum ++ ">"
  baseType : outer.type.baseType = w.name
  containerType : outer.type.containerType = some w.name
  isContainer : outer.type.isContainer = true
  isArray : outer.type.isArray = false
  isMap : outer.type.isMap = false
  required : outer.required = true
  withValid : outer.facets.withValid = w.isValidated

/-- A property is in some envelopes, which are listed from the inside out. -/
inductive Around : List Envelope → Property → Property → Prop
  | core (p : Property) : Around [] p p
  | concat {ws : List Envelope} {w : Envelope} {core inner outer : Property} :
    Around ws core inner → w.Encloses inner outer → Around (ws ++ [w]) core outer

/-- What is in an envelope is no array. -/
lemma Around.isArray {ws : List Envelope} {core p : Property} (h : Around ws core p)
    (hne : ws ≠ []) : p.type.isArray = false := by
  cases h with
  | core => exact absurd rfl hne
  | concat _ hencloses => exact hencloses.isArray

end Envelope

/-! ## Headers that mappings take -/

namespace ResponseBodyMapping

/-- A mapping is for a header, in any letter case, and for arrays or for all else. -/
def IsFor (m : ResponseBodyMapping) (isArray : Bool) (header : Property) : Prop :=
  Text.equalsIgnoringCase m.headerName header.baseName = true ∧ m.isListWrapper = isArray

instance (m : ResponseBodyMapping) (isArray : Bool) : DecidablePred (m.IsFor isArray) :=
  fun _ => inferInstanceAs (Decidable (_ ∧ _))

lemma fits_eq (m : ResponseBodyMapping) (isArray : Bool) (header : Property) :
    m.fits header.baseName isArray = decide (m.IsFor isArray header) := by
  rw [Bool.eq_iff_iff, decide_eq_true_iff, fits, Bool.and_eq_true, beq_iff_eq]
  rfl

/-- Mappings take headers, one after the other: each takes the first one of those left that it is
for, and if it has a type, it asks for an envelope. What is in an envelope is no array. -/
inductive Take : (isArray : Bool) → (headers : List Property) → List ResponseBodyMapping →
    (asked : List Envelope) → (left : List Property) → Prop
  | done {isArray : Bool} {left : List Property} : Take isArray left [] [] left
  | none {isArray : Bool} {headers left : List Property} {m : ResponseBodyMapping}
      {ms : List ResponseBodyMapping} {asked : List Envelope} :
    (¬∃ header ∈ headers, m.IsFor isArray header) → Take isArray headers ms asked left →
    Take isArray headers (m :: ms) asked left
  | header {isArray : Bool} {headers left : List Property} {m : ResponseBodyMapping}
      {ms : List ResponseBodyMapping} {asked : List Envelope} :
    (∃ header ∈ headers, m.IsFor isArray header) → m.mappedBodyType = .none →
    Take isArray (headers.eraseP fun header => m.IsFor isArray header) ms asked left →
    Take isArray headers (m :: ms) asked left
  | envelope {isArray : Bool} {headers left : List Property} {bodyType : String}
      {m : ResponseBodyMapping} {ms : List ResponseBodyMapping} {asked : List Envelope} :
    (∃ header ∈ headers, m.IsFor isArray header) → m.mappedBodyType = some bodyType →
    Take false (headers.eraseP fun header => m.IsFor isArray header) ms asked left →
    Take isArray headers (m :: ms) (.ofMapping m bodyType :: asked) left

/-- Mappings ask for the same envelopes of the same headers. -/
theorem Take.unique {isArray : Bool} {headers left left' : List Property}
    {ms : List ResponseBodyMapping} {asked asked' : List Envelope}
    (h : Take isArray headers ms asked left) (h' : Take isArray headers ms asked' left') :
    asked = asked' ∧ left = left' := by
  induction h generalizing asked' left' with
  | done =>
    cases h'
    exact ⟨rfl, rfl⟩
  | none hnone _ ih =>
    cases h' with
    | none _ h' => exact ih h'
    | header hfor => exact absurd hfor hnone
    | envelope hfor => exact absurd hfor hnone
  | header hfor hbody _ ih =>
    cases h' with
    | none hnone => exact absurd hfor hnone
    | header _ _ h' => exact ih h'
    | envelope _ hbody' => cases hbody.symm.trans hbody'
  | envelope hfor hbody _ ih =>
    cases h' with
    | none hnone => exact absurd hfor hnone
    | header _ hbody' => cases hbody.symm.trans hbody'
    | envelope _ hbody' h' =>
      obtain rfl := Option.some.inj (hbody.symm.trans hbody')
      obtain ⟨rfl, rfl⟩ := ih h'
      exact ⟨rfl, rfl⟩

end ResponseBodyMapping

/-! ## Envelopes that are asked for -/

namespace Options

/-- The response around what is returned, where it has to be stated: always, or where there is
another success than the usual one or a header is left. -/
def stated (o : Options) (outcomes : List Outcome) (left : List Property) : List Envelope :=
  if o.generateHttpResponseAlways = true ∨ o.generateHttpResponseWhereRequired = true ∧
      ((∃ out ∈ outcomes, Outcome.isSuccessCode out.code = true ∧ out.code ≠ "200") ∨ left ≠ [])
  then [.response] else []

/-- The publisher of what is returned, if the program is reactive. -/
def published (o : Options) (isArray : Bool) : List Envelope :=
  if o.reactive then if o.fluxForArrays && isArray then [.flux] else [.mono] else []

end Options

namespace Setup

variable (setup : Setup)

/-- What an endpoint returns, or nothing. -/
def returned (e : Endpoint) : Property := e.returnProperty.getD setup.nothing

/-- What is in the envelopes: the first one may take the items of an array. -/
def core (e : Endpoint) (ws : List Envelope) : Property :=
  if (setup.returned e).type.isArray && ws.head?.any (·.ofItems) then
    (setup.returned e).items.getD (setup.returned e)
  else setup.returned e

/-- The core is what an endpoint returns, or its items. -/
lemma core_spec {e : Endpoint} (hitems : (setup.returned e).type.isArray = true →
      (setup.returned e).items.isSome = true) (ws : List Envelope) :
    if (setup.returned e).type.isArray = true ∧ ∃ w ∈ ws.head?, w.ofItems = true
      then (setup.returned e).items = some (setup.core e ws)
      else setup.core e ws = setup.returned e := by
  have hiff : ((setup.returned e).type.isArray && ws.head?.any (·.ofItems)) = true ↔
      (setup.returned e).type.isArray = true ∧ ∃ w ∈ ws.head?, w.ofItems = true := by
    simp only [Bool.and_eq_true, Option.any_eq_true, Option.mem_def]
  split
  · rename_i htakes
    obtain ⟨items, hsome⟩ := Option.isSome_iff_exists.1 (hitems htakes.1)
    rw [core, if_pos (hiff.2 htakes), hsome, Option.getD_some]
  · rename_i hkeeps
    rw [core, if_neg (mt hiff.1 hkeeps)]

/-- An endpoint returns in envelopes what another one returns without them. -/
structure Sends (e : Endpoint) (ws : List Envelope) (core : Property) (e' : Endpoint) : Prop where
  bare : ws = [] → e'.returnProperty = e.returnProperty ∧ e'.returnType = e.returnType ∧
    e'.returnContainer = e.returnContainer ∧ e'.isArray = e.isArray ∧ e'.isMap = e.isMap
  sealed : ∀ w ∈ ws.getLast?, ∃ p, e'.returnProperty = some p ∧ Envelope.Around ws core p ∧
    e'.returnType = some p.type.dataType ∧ e'.returnContainer = some w.name ∧
    e'.isArray = false ∧ e'.isMap = false
  imports : ∀ name, name ∈ e'.imports ↔
    name ∈ e.imports ∨ ∃ w ∈ ws, name ∈ setup.importsOf w.typeName

/-- An endpoint returns what another one does in the envelopes that its headers, its outcomes and
the options ask for. Those `inside` are `asked` for by mappings or state a response, and the
publisher is around them. The headers that are `left` are those that no mapping took. -/
structure Envelops (e : Endpoint) (asked : List Envelope) (left : List Property)
    (inside publisher : List Envelope) (core : Property) (e' : Endpoint) : Prop where
  take : ResponseBodyMapping.Take (setup.returned e).type.isArray e.responseHeaders
    setup.options.responseBodyMappings asked left
  inside_eq : inside = asked ++ setup.options.stated e.responses left
  publisher_eq : publisher =
    setup.options.published ((setup.returned e).type.isArray && inside.isEmpty)
  core_eq : if (setup.returned e).type.isArray = true ∧
      ∃ w ∈ (inside ++ publisher).head?, w.ofItems = true
    then (setup.returned e).items = some core else core = setup.returned e
  sends : setup.Sends e (inside ++ publisher) core e'
  responseHeaders : e'.responseHeaders = left
  facets : e'.facets = { e.facets with
    bareReturnType := e.returnType
    isReturnFlux := publisher.any (·.ofItems) }
  besideReturn : e'.besideReturn = e.besideReturn
  stage : e'.stage = .wrapped

/-! ## One more envelope -/

/-- An endpoint whose returned type is in one more envelope. -/
def sealed (e : Endpoint) (w : Envelope) (imports : NameSet) : Endpoint :=
  let p := { Property.inWrapper (setup.wrapped e w.ofItems) w.name with
    facets.withValid := w.isValidated }
  { e with
    imports
    returnType := some p.type.dataType
    returnContainer := some w.name
    isArray := false
    isMap := false
    returnProperty := some p }

variable {setup} {e e₀ e' : Endpoint} {w : Envelope} {ws : List Envelope} {imports : NameSet}
  {s s' : Session}

/-- A property can always be put in an envelope. -/
lemma exists_envelop_eq_ok (hw : w.isValidated = false) (e : Endpoint) (s : Session) :
    ∃ imports s', (∀ name, name ∈ imports ↔
        name ∈ e.imports ∨ name ∈ setup.importsOf w.typeName) ∧
      setup.envelop e w.typeName w.ofItems s = .ok (setup.sealed e w imports, s') := by
  obtain ⟨imports, s', himport⟩ := setup.exists_importType_eq_ok w.typeName e.imports s
  refine ⟨imports, s', fun name => mem_importType himport, ?_⟩
  rw [envelop, Lowering.bind_of_eq_ok himport, sealed, hw]
  rfl

/-- What comes into the next envelope is what is in the others, or the core. -/
lemma Sends.around (h : setup.Sends e₀ ws (setup.core e₀ ws) e) (w : Envelope) :
    Envelope.Around ws (setup.core e₀ (ws ++ [w])) (setup.wrapped e w.ofItems) := by
  rcases List.eq_nil_or_concat' ws with rfl | ⟨ws, last, rfl⟩
  · -- nothing is in an envelope yet, so that there may be an array
    have hcore : setup.wrapped e w.ofItems = setup.core e₀ [w] := by
      rw [wrapped, (h.bare rfl).1, core, returned]
      cases e₀.returnProperty with
      | none => rfl
      | some p => simp [Bool.and_comm]
    rw [List.nil_append, ← hcore]
    exact .core _
  · obtain ⟨p, hp, haround, -⟩ := h.sealed last (by simp)
    have harray : p.type.isArray = false := haround.isArray (by simp)
    have hcore : setup.core e₀ (ws ++ [last] ++ [w]) = setup.core e₀ (ws ++ [last]) := by
      rw [core, core, List.head?_append_of_ne_nil _ (by simp)]
    rw [wrapped, hp, hcore]
    simpa [harray] using haround

/-- One more envelope is the outermost one. -/
lemma Sends.seal (h : setup.Sends e₀ ws (setup.core e₀ ws) e) (w : Envelope)
    (himports : ∀ name, name ∈ imports ↔ name ∈ e.imports ∨ name ∈ setup.importsOf w.typeName) :
    setup.Sends e₀ (ws ++ [w]) (setup.core e₀ (ws ++ [w])) (setup.sealed e w imports) where
  bare hnone := absurd hnone (by simp)
  sealed last hlast := by
    obtain rfl : w = last := by simpa using hlast
    refine ⟨_, rfl, (h.around w).concat ?_, rfl, rfl, rfl, rfl⟩
    exact ⟨rfl, rfl, rfl, rfl, rfl, rfl, rfl, rfl, rfl, rfl, rfl, rfl⟩
  imports name := by
    change name ∈ imports ↔ _
    rw [himports, h.imports, or_assoc]
    simp

/-! ## Mappings -/

section Mapping

variable {m : ResponseBodyMapping} {bodyType : String}

/-- A mapping that is for no header leaves everything as it is. -/
lemma mapReturnBy_of_none (hnone : ¬∃ header ∈ e.responseHeaders, m.IsFor e.isArray header)
    (s : Session) : setup.mapReturnBy e m s = .ok (e, s) := by
  rw [mapReturnBy, if_neg]
  · rfl
  · simpa [ResponseBodyMapping.fits_eq] using hnone

/-- A mapping without a type takes a header and does nothing else. -/
lemma mapReturnBy_of_no_bodyType (hfor : ∃ header ∈ e.responseHeaders, m.IsFor e.isArray header)
    (hbody : m.mappedBodyType = none) (s : Session) :
    setup.mapReturnBy e m s = .ok ({ e with
      responseHeaders := e.responseHeaders.eraseP fun header => m.IsFor e.isArray header }, s) := by
  simp only [mapReturnBy, ResponseBodyMapping.fits_eq]
  rw [if_pos (by simpa using hfor), hbody]
  rfl

/-- A mapping with a type puts what is returned in one more envelope. -/
lemma exists_mapReturnBy_eq_ok (hfor : ∃ header ∈ e.responseHeaders, m.IsFor e.isArray header)
    (hbody : m.mappedBodyType = some bodyType) (s : Session) :
    ∃ imports s', (∀ name, name ∈ imports ↔
        name ∈ e.imports ∨ name ∈ setup.importsOf bodyType) ∧
      setup.mapReturnBy e m s = .ok ({ setup.sealed e (.ofMapping m bodyType) imports with
        responseHeaders := e.responseHeaders.eraseP fun header => m.IsFor e.isArray header },
        s') := by
  obtain ⟨imports, s', himports, henvelop⟩ := setup.exists_envelop_eq_ok
    (w := { typeName := bodyType, ofItems := m.isListWrapper }) rfl
    { e with
      responseHeaders := e.responseHeaders.eraseP fun header => m.IsFor e.isArray header } s
  refine ⟨imports, s', himports, ?_⟩
  simp only [mapReturnBy, ResponseBodyMapping.fits_eq]
  rw [if_pos (by simpa using hfor), hbody]
  dsimp only
  rw [Lowering.bind_of_eq_ok henvelop, sealed, sealed, Envelope.ofMapping]
  cases m.isValidated <;> rfl

end Mapping

/-- The mappings, one after the other. -/
lemma Sends.exists_foldlM_mapReturnBy (ms : List ResponseBodyMapping)
    (h : setup.Sends e₀ ws (setup.core e₀ ws) e) (s : Session) :
    ∃ e' s' asked, ms.foldlM setup.mapReturnBy e s = .ok (e', s') ∧
      ResponseBodyMapping.Take e.isArray e.responseHeaders ms asked e'.responseHeaders ∧
      setup.Sends e₀ (ws ++ asked) (setup.core e₀ (ws ++ asked)) e' ∧
      e'.facets = e.facets ∧ e'.stage = e.stage := by
  induction ms generalizing e ws s with
  | nil => exact ⟨e, s, [], rfl, .done, by rwa [List.append_nil], rfl, rfl⟩
  | cons m ms ih =>
    by_cases hfor : ∃ header ∈ e.responseHeaders, m.IsFor e.isArray header
    · cases hbody : m.mappedBodyType with
      | none =>
        have hnext : setup.Sends e₀ ws (setup.core e₀ ws) { e with
            responseHeaders := e.responseHeaders.eraseP fun header => m.IsFor e.isArray header } :=
          ⟨h.bare, h.sealed, h.imports⟩
        obtain ⟨e', s', asked, hrest, htake, hkept⟩ := ih hnext s
        refine ⟨e', s', asked, ?_, .header hfor hbody htake, hkept⟩
        rw [List.foldlM_cons, Lowering.bind_of_eq_ok (mapReturnBy_of_no_bodyType hfor hbody s),
          hrest]
      | some bodyType =>
        obtain ⟨imports, t, himports, hstep⟩ := exists_mapReturnBy_eq_ok hfor hbody s
        have hseal := h.seal (.ofMapping m bodyType) himports
        have hnext : setup.Sends e₀ (ws ++ [.ofMapping m bodyType])
            (setup.core e₀ (ws ++ [.ofMapping m bodyType]))
            { setup.sealed e (.ofMapping m bodyType) imports with
              responseHeaders :=
                e.responseHeaders.eraseP fun header => m.IsFor e.isArray header } :=
          ⟨hseal.bare, hseal.sealed, hseal.imports⟩
        obtain ⟨e', s', asked, hrest, htake, hsends, hkept⟩ := ih hnext t
        rw [List.append_assoc, List.singleton_append] at hsends
        refine ⟨e', s', _, ?_, .envelope hfor hbody htake, hsends, hkept⟩
        rw [List.foldlM_cons, Lowering.bind_of_eq_ok hstep, hrest]
    · obtain ⟨e', s', asked, hrest, htake, hkept⟩ := ih h s
      refine ⟨e', s', asked, ?_, .none hfor htake, hkept⟩
      rw [List.foldlM_cons, Lowering.bind_of_eq_ok (mapReturnBy_of_none hfor s), hrest]

/-- **The fourth stage succeeds**: the mappings take their headers, and what is returned is in the
envelopes that they ask for. -/
theorem exists_mapReturn_eq_ok (hstage : e.stage = .paramsMapped) (s : Session) :
    ∃ e' s' asked, setup.mapReturn e s = .ok (e', s') ∧
      ResponseBodyMapping.Take e.isArray e.responseHeaders setup.options.responseBodyMappings asked
        e'.responseHeaders ∧
      setup.Sends e asked (setup.core e asked) e' ∧
      e'.facets = { e.facets with bareReturnType := e.returnType } ∧ e'.stage = .bodyMapped := by
  have hstart : setup.Sends { e with facets.bareReturnType := e.returnType, stage := .bodyMapped }
      [] (setup.core e []) { e with facets.bareReturnType := e.returnType, stage := .bodyMapped } :=
    ⟨fun _ => ⟨rfl, rfl, rfl, rfl, rfl⟩, fun _ hlast => (Option.not_mem_none _ hlast).elim,
      fun _ => by simp⟩
  obtain ⟨e', s', asked, hfold, htake, hsends, hfacets, hnext⟩ :=
    hstart.exists_foldlM_mapReturnBy setup.options.responseBodyMappings s
  refine ⟨e', s', asked, ?_, htake, ⟨hsends.bare, hsends.sealed, hsends.imports⟩, hfacets, hnext⟩
  rw [mapReturn, Endpoint.advance, if_pos hstage]
  exact hfold

/-! ## Responses and publishers -/

/-- Whether there is still an array to publish. -/
lemma Sends.any_isArray {core : Property} (h : setup.Sends e₀ ws core e) :
    e.returnProperty.any (·.type.isArray) =
      ((setup.returned e₀).type.isArray && ws.isEmpty) := by
  rcases List.eq_nil_or_concat' ws with rfl | ⟨ws, last, rfl⟩
  · rw [(h.bare rfl).1, returned, List.isEmpty_nil, Bool.and_true]
    cases e₀.returnProperty <;> rfl
  · obtain ⟨p, hp, haround, -⟩ := h.sealed last (by simp)
    rw [hp, Option.any_some, haround.isArray (by simp)]
    simp

/-- An envelope that no mapping asks for. -/
lemma Sends.exists_envelop_eq_ok (h : setup.Sends e₀ ws (setup.core e₀ ws) e)
    (hw : w.isValidated = false) (s : Session) :
    ∃ e' s', setup.envelop e w.typeName w.ofItems s = .ok (e', s') ∧
      setup.Sends e₀ (ws ++ [w]) (setup.core e₀ (ws ++ [w])) e' ∧
      e'.responseHeaders = e.responseHeaders ∧ e'.facets = e.facets ∧ e'.stage = e.stage := by
  obtain ⟨imports, s', himports, henvelop⟩ := setup.exists_envelop_eq_ok hw e s
  exact ⟨_, s', henvelop, h.seal w himports, rfl, rfl, rfl⟩

/-- When a response is stated depends on the codes of the outcomes. -/
lemma statesResponse_eq
    (houtcomes : ∀ out ∈ e.responses, out.isSuccess = Outcome.isSuccessCode out.code) :
    (if setup.statesResponse e then [Envelope.response] else []) =
      setup.options.stated e.responses e.responseHeaders := by
  have hother : (∃ out ∈ e.responses, out.isOtherSuccess = true) ↔
      ∃ out ∈ e.responses, Outcome.isSuccessCode out.code = true ∧ out.code ≠ "200" := by
    refine exists_congr fun out => and_congr_right fun hout => ?_
    rw [Outcome.isOtherSuccess, houtcomes out hout, Bool.and_eq_true, bne_iff_ne]
  rw [Options.stated]
  refine if_congr ?_ rfl rfl
  rw [← hother]
  simp [statesResponse]

/-- What is returned is in a response, where it has to be stated. -/
lemma Sends.exists_inResponse_eq_ok (h : setup.Sends e₀ ws (setup.core e₀ ws) e)
    (houtcomes : ∀ out ∈ e.responses, out.isSuccess = Outcome.isSuccessCode out.code)
    (s : Session) :
    ∃ e' s' inside, setup.inResponse e s = .ok (e', s') ∧
      inside = ws ++ setup.options.stated e.responses e.responseHeaders ∧
      setup.Sends e₀ inside (setup.core e₀ inside) e' ∧
      e'.responseHeaders = e.responseHeaders ∧ e'.facets = e.facets ∧ e'.stage = e.stage := by
  rw [inResponse, ← statesResponse_eq houtcomes]
  split
  · obtain ⟨e', s', henvelop, hkept⟩ := h.exists_envelop_eq_ok (w := .response) rfl s
    exact ⟨e', s', _, henvelop, rfl, hkept⟩
  · exact ⟨e, s, ws, rfl, (List.append_nil ws).symm, h, rfl, rfl, rfl⟩

/-- What is returned is in a publisher, if the program is reactive. -/
lemma Sends.exists_inPublisher_eq_ok (h : setup.Sends e₀ ws (setup.core e₀ ws) e) (s : Session) :
    ∃ e' s' publisher, setup.inPublisher e s = .ok (e', s') ∧
      publisher = setup.options.published ((setup.returned e₀).type.isArray && ws.isEmpty) ∧
      setup.Sends e₀ (ws ++ publisher) (setup.core e₀ (ws ++ publisher)) e' ∧
      e'.responseHeaders = e.responseHeaders ∧
      e'.facets = { e.facets with
        isReturnFlux := e.facets.isReturnFlux || publisher.any (·.ofItems) } ∧
      e'.stage = e.stage := by
  rw [inPublisher, Options.published, streams, h.any_isArray]
  split
  · split
    · obtain ⟨e', s', henvelop, hsends, hheaders, hfacets, hstage⟩ :=
        h.exists_envelop_eq_ok (w := .flux) rfl s
      refine ⟨{ e' with facets.isReturnFlux := true }, s', _, ?_, rfl,
        ⟨hsends.bare, hsends.sealed, hsends.imports⟩, hheaders, ?_, hstage⟩
      · exact Lowering.bind_of_eq_ok henvelop
      · simp [hfacets, Envelope.flux]
    · obtain ⟨e', s', henvelop, hsends, hheaders, hfacets, hstage⟩ :=
        h.exists_envelop_eq_ok (w := .mono) rfl s
      refine ⟨e', s', _, henvelop, rfl, hsends, hheaders, ?_, hstage⟩
      simp [hfacets, Envelope.mono]
  · refine ⟨e, s, [], rfl, rfl, by rwa [List.append_nil], rfl, ?_, rfl⟩
    simp

/-- **The fifth stage succeeds**: what is returned is in a response where it has to be stated, and
in a publisher if the program is reactive. -/
theorem Sends.exists_wrapEndpoint_eq_ok (h : setup.Sends e₀ ws (setup.core e₀ ws) e)
    (houtcomes : ∀ out ∈ e.responses, out.isSuccess = Outcome.isSuccessCode out.code)
    (hstage : e.stage = .bodyMapped) (s : Session) :
    ∃ e' s' inside publisher, setup.wrapEndpoint e s = .ok (e', s') ∧
      inside = ws ++ setup.options.stated e.responses e.responseHeaders ∧
      publisher = setup.options.published ((setup.returned e₀).type.isArray && inside.isEmpty) ∧
      setup.Sends e₀ (inside ++ publisher) (setup.core e₀ (inside ++ publisher)) e' ∧
      e'.responseHeaders = e.responseHeaders ∧
      e'.facets = { e.facets with
        isReturnFlux := e.facets.isReturnFlux || publisher.any (·.ofItems) } ∧
      e'.stage = .wrapped := by
  have hstart : setup.Sends e₀ ws (setup.core e₀ ws) { e with stage := .wrapped } :=
    ⟨h.bare, h.sealed, h.imports⟩
  obtain ⟨answered, t, inside, hanswered, hinside, hsends, hheaders, hfacets, hnext⟩ :=
    hstart.exists_inResponse_eq_ok houtcomes s
  obtain ⟨e', s', publisher, hpublished, hpublisher, hsends, hheaders', hfacets', hnext'⟩ :=
    hsends.exists_inPublisher_eq_ok t
  refine ⟨e', s', inside, publisher, ?_, hinside, hpublisher, hsends, hheaders'.trans hheaders,
    ?_, hnext'.trans hnext⟩
  · rw [wrapEndpoint, Endpoint.advance, if_pos hstage]
    exact (Lowering.bind_of_eq_ok hanswered).trans hpublished
  · rw [hfacets', hfacets]

end Setup

/-! ## What operations answer -/

/-- An endpoint without anything but what it answers and its stage. -/
def Endpoint.answer (e : Endpoint) : Endpoint where
  responses := e.responses
  responseHeaders := e.responseHeaders
  returnType := e.returnType
  returnProperty := e.returnProperty
  returnContainer := e.returnContainer
  isArray := e.isArray
  isMap := e.isMap
  facets := { isReturnFlux := e.facets.isReturnFlux }
  stage := e.stage

namespace Setup

variable {setup : Setup} {e e' : Endpoint} {s s' : Session}

/-- The second stage is about arguments. -/
lemma answer_normalizeEndpoint (h : setup.normalizeEndpoint e = .ok e') :
    e'.answer = { e.answer with stage := .normalized } := by
  obtain rfl := normalizeEndpoint_eq_ok h
  rw [Endpoint.withFormArguments_eq]
  rfl

lemma answer_mapArgument {m : ParameterMapping} (h : setup.mapArgument e m s = .ok (e', s')) :
    e'.answer = e.answer := by
  obtain ⟨-, rfl⟩ | ⟨_, _, -, -, -, rfl⟩ := mapArgument_cases h
  · rfl
  · rfl

/-- So is the third stage. -/
lemma answer_mapArguments (h : setup.mapArguments e s = .ok (e', s')) :
    e'.answer = { e.answer with stage := .paramsMapped } := by
  obtain ⟨mapped, hfold, rfl⟩ := exists_foldlM_of_mapArguments h
  exact Lowering.foldlM_induction
    (P := fun _ x => x.answer = { e.answer with stage := .paramsMapped }) hfold rfl
    fun _ _ _ _ _ _ _ hdone hstep => (answer_mapArgument hstep).trans hdone

end Setup

/-- What is said of the answers of an endpoint fits together: its outcomes are successes by their
codes, it is marked as an array if it returns one, and what it returns has items then. -/
structure Endpoint.Coherent (e : Endpoint) : Prop where
  isSuccess : ∀ out ∈ e.responses, out.isSuccess = Outcome.isSuccessCode out.code
  isArray : e.isArray = e.returnProperty.any (·.type.isArray)
  items : ∀ p ∈ e.returnProperty, p.type.isArray = true → p.items.isSome = true
  isReturnFlux : e.facets.isReturnFlux = false

/-- It depends on what the endpoint answers alone. -/
lemma Endpoint.Coherent.of_answer {e e' : Endpoint} {stage : Stage} (h : e.Coherent)
    (hanswer : e'.answer = { e.answer with stage }) : e'.Coherent := by
  have hcoherent : Endpoint.Coherent { e.answer with stage } :=
    ⟨h.isSuccess, h.isArray, h.items, h.isReturnFlux⟩
  rw [← hanswer] at hcoherent
  exact ⟨hcoherent.isSuccess, hcoherent.isArray, hcoherent.items, hcoherent.isReturnFlux⟩

namespace Resolver

variable {r : Resolver} {d : Document} {site : Site} {request : Option (RequestBody × BodyVariant)}
  {raw normalized mapped : Endpoint} {s s' : Session}

/-- What an operation answers is coherent. -/
lemma MakesEndpoint.coherent (h : r.MakesEndpoint d site request raw) : raw.Coherent := by
  obtain ⟨nickname, s, s', h⟩ := h
  have hmade := (furnishes_rawEndpoint h).returned
  have hitems : ∀ p ∈ raw.returnProperty, p.type.isArray = true → p.items.isSome = true := by
    intro p hp harray
    rcases hmade p hp with ⟨_, _, _, _, hof⟩ | ⟨q, file, rfl⟩
    · exact hof.isSome_items harray
    · exact absurd harray Bool.false_ne_true
  obtain ⟨_, _, _, responses, returned, _, _, _, -, -, -, hresponses, -, rfl⟩ := rawEndpoint_eq_ok h
  have hsuccess : ∀ out ∈ responses.map (·.outcome),
      out.isSuccess = Outcome.isSuccessCode out.code := by
    refine List.forall_mem_map.2 fun res hres => ?_
    obtain ⟨_, _, hout⟩ := exists_outcome_of_loweredResponses hresponses res hres
    obtain ⟨_, _, _, _, _, -, -, hout, -⟩ := exists_outcome_eq hout
    rw [hout]
    rfl
  cases returned with
  | none => exact ⟨hsuccess, rfl, hitems, rfl⟩
  | some ret => exact ⟨hsuccess, rfl, hitems, rfl⟩

/-- It still is after its arguments are mapped. -/
lemma MakesEndpoint.coherent_mapped (h : r.MakesEndpoint d site request raw)
    (hnormalized : r.setup.normalizeEndpoint raw = .ok normalized)
    (hmapped : r.setup.mapArguments normalized s = .ok (mapped, s')) : mapped.Coherent :=
  (h.coherent.of_answer (Setup.answer_normalizeEndpoint hnormalized)).of_answer
    (Setup.answer_mapArguments hmapped)

/-- **What an operation returns is put in envelopes**, in two stages that succeed. From the inside
out they are those of the mappings that find a header, a response where it has to be stated, and a
publisher if the program is reactive. -/
theorem MakesEndpoint.envelopes (h : r.MakesEndpoint d site request raw)
    (hnormalized : r.setup.normalizeEndpoint raw = .ok normalized)
    (hmapped : r.setup.mapArguments normalized s = .ok (mapped, s')) (t : Session) :
    ∃ returned wrapped t' t'' asked left inside publisher core,
      r.setup.mapReturn mapped t = .ok (returned, t') ∧
      r.setup.wrapEndpoint returned t' = .ok (wrapped, t'') ∧
      r.setup.Envelops mapped asked left inside publisher core wrapped := by
  have hcoherent := h.coherent_mapped hnormalized hmapped
  have hstage : mapped.stage = .paramsMapped :=
    congrArg Endpoint.stage (Setup.answer_mapArguments hmapped)
  have harray : (r.setup.returned mapped).type.isArray = mapped.isArray := by
    rw [hcoherent.isArray, Setup.returned]
    cases mapped.returnProperty <;> rfl
  have hitems : (r.setup.returned mapped).type.isArray = true →
      (r.setup.returned mapped).items.isSome = true := by
    rw [Setup.returned]
    cases hreturned : mapped.returnProperty with
    | none => exact fun hnone => absurd hnone Bool.false_ne_true
    | some p => exact hcoherent.items p hreturned
  obtain ⟨returned, t', asked, hreturned, htake, hsends, hfacets, hnext⟩ :=
    r.setup.exists_mapReturn_eq_ok hstage t
  have hbeside := (Setup.mapReturn_spec hreturned).2
  have hresponses : returned.responses = mapped.responses := by
    simpa only [Endpoint.besideReturn] using congrArg Endpoint.responses hbeside
  obtain ⟨wrapped, t'', inside, publisher, hwrapped, hinside, hpublisher, hsends, hheaders,
    hfacets', hlast⟩ := hsends.exists_wrapEndpoint_eq_ok (hresponses ▸ hcoherent.isSuccess) hnext t'
  have henvelops : r.setup.Envelops mapped asked returned.responseHeaders inside publisher
      (r.setup.core mapped (inside ++ publisher)) wrapped := {
    take := harray ▸ htake
    inside_eq := hresponses ▸ hinside
    publisher_eq := hpublisher
    core_eq := r.setup.core_spec hitems _
    sends := hsends
    responseHeaders := hheaders
    facets := by rw [hfacets', hfacets, hcoherent.isReturnFlux, Bool.false_or]
    besideReturn := (Setup.wrapEndpoint_spec hwrapped).2.trans hbeside
    stage := hlast }
  exact ⟨returned, wrapped, t', t'', asked, _, inside, publisher, _, hreturned, hwrapped, henvelops⟩

/-! ## Pages of names -/

/-- The names of all pets are listed, with their number in a header. Another header says how long
they stay the same. -/
def naming : Site where
  path := "/names"
  item := {}
  method := .get
  operation := {
    responses := ⟨[("200", .inline {
      content := ⟨[("application/json", {
        schema := some (.inline { Schema.ofType .array with
          items := some (.inline (.ofType .string)) }) })]⟩
      headers := ⟨[("X-Total-Count", .inline { schema := some (.inline (.ofType .integer)) }),
        ("Cache-Control", .inline {})]⟩ })]⟩ }

/-- A list with its number is a page, and the rest is in a response that is published. -/
def paged : Resolver where
  setup := .ofCanonical ({
    reactive := true
    fluxForArrays := true
    generateHttpResponseWhereRequired := true
    responseBodyMappings := [{
      headerName := "x-total-count"
      mappedBodyType := some "org.pets.Page"
      isListWrapper := true }] } : Options).canonical
  components := {}
  models := {}

/-- A list of names is a page of them, in a response, in a publisher. -/
theorem envelopes_paged : ∃ raw normalized mapped t t',
    paged.MakesEndpoint (.ofSchemas []) naming none raw ∧
    paged.setup.normalizeEndpoint raw = .ok normalized ∧
    paged.setup.mapArguments normalized t = .ok (mapped, t') ∧
    ∃ returned wrapped u u' asked left inside publisher core,
      paged.setup.mapReturn mapped t' = .ok (returned, u) ∧
      paged.setup.wrapEndpoint returned u = .ok (wrapped, u') ∧
      paged.setup.Envelops mapped asked left inside publisher core wrapped ∧
      wrapped.facets.bareReturnType = some "List<String>" ∧
      wrapped.returnType = some "Mono<HttpResponse<Page<String>>>" ∧
      wrapped.responseHeaders.map (·.baseName) = ["Cache-Control"] := by
  obtain ⟨raw, normalized, mapped, last, t, t', t'', hmade, hnormalized, hmapped, hlast, htypes⟩ :=
    paged.exists_mappedEndpoint (.ofSchemas []) naming "names" none (.start paged.setup)
      (fun e => paged.setup.mapReturn e >>= paged.setup.wrapEndpoint)
      (P := fun e => e.facets.bareReturnType = some "List<String>" ∧
        e.returnType = some "Mono<HttpResponse<Page<String>>>" ∧
        e.responseHeaders.map (·.baseName) = ["Cache-Control"]) (by decide +kernel)
  obtain ⟨returned, wrapped, u, u', asked, left, inside, publisher, core, hreturned, hwrapped,
    henvelops⟩ := hmade.envelopes hnormalized hmapped t'
  have hrun := (Lowering.bind_of_eq_ok hreturned).trans hwrapped
  obtain ⟨rfl, -⟩ := Prod.mk.inj (Except.ok.inj (hlast.symm.trans hrun))
  exact ⟨raw, normalized, mapped, t, t', hmade, hnormalized, hmapped, returned, last, u, u', asked,
    left, inside, publisher, core, hreturned, hwrapped, henvelops, htypes⟩

end Resolver

end ApiLowering
