import ApiLowering.Proofs.Document.Parameters
import ApiLowering.Proofs.Document.Samples
import ApiLowering.Proofs.Hoisting.Visits
import ApiLowering.Proofs.Models.Built
import ApiLowering.Proofs.Types.Spelling

/-!
# The schemas that lowering resolves

Lowering resolves schemas to types in more places than hoisting visits. It looks at all of the
places in which hoisting leaves references and plain schemas, but it also follows references to
component parameters and looks at the headers of responses. Hoisting does neither.

## Main definitions

* `Schema.HasProperty` — a property of a schema or of its inline parts.
* `Document.HasCopies` — references to responses lead nowhere.
* `Document.Resolved` — the schemas that are resolved to types when a document is lowered.
* `Document.Overlooked` — those of them that hoisting does not come by.

## Main results

* `Resolver.schemaType_of_not_isPlain` — the type of what is not plain.
* `Document.hasCopies_hoisted_canonical` — the documents that are lowered have their copies.
* `Document.Still.visited_or_overlooked` — what is resolved was visited or overlooked.
* `Document.complete_or_overlooked` — what is resolved is a reference or plain, or was overlooked.
* `Document.owner_overlooked` — an object without a class.
-/

namespace ApiLowering

open Hoisting Canonical Schema

/-! ## Schemas without a class -/

/-- **What is not plain is resolved to the plain type of objects**, whatever its properties and
parts are. This is why it has to be a component, whose references are resolved to its class. -/
lemma Resolver.schemaType_of_not_isPlain (r : Resolver) (lookup : String → Lowering ResolvedType)
    {s : Schema} (h : ¬ s.IsPlain) (hobject : s.isComposed = false →
      s.isArray = false ∧ (s.primaryType = none ∨ s.primaryType = some .object)) :
    ∃ word isOneOf, (word = "AnyType" ∨ word = "object") ∧ r.schemaType lookup s =
      r.wordType word "object" >>= fun t => r.overridden s { t with isOneOf } := by
  have hsole : soleReference? s = none := by
    by_contra hsome
    exact h (.inr (Option.isSome_iff_ne_none.2 hsome))
  have hword (key : String) : (r.wordType key "object" >>= fun t => r.overridden s t) =
      r.wordType key "object" >>= fun t => r.overridden s { t with isOneOf := false } := by
    simp only [wordType, bind_assoc, pure_bind]
    rfl
  rw [schemaType_eq, hsole]
  by_cases halternatives : (!s.oneOf.isEmpty || !s.anyOf.isEmpty) = true
  · simp only [halternatives, if_true, bind_assoc, pure_bind]
    exact ⟨"AnyType", !s.oneOf.isEmpty, .inl rfl, rfl⟩
  · simp only [halternatives]
    refine ⟨"object", false, .inr rfl, ?_⟩
    rw [← hword]
    cases hcomposed : s.isComposed with
    | true => rfl
    | false =>
      obtain ⟨harray, htype⟩ := hobject hcomposed
      have hproperties : s.properties.isEmpty = false := by
        rw [← Bool.not_eq_true]
        exact fun hempty => h (.inl ⟨hempty, hcomposed⟩)
      have hplain : r.plainType s = r.wordType "object" "object" := by
        rw [plainType]
        rcases htype with htype | htype <;> rw [htype]
        simp [hproperties]
      simp [harray, Schema.isMap, hproperties, hplain]

/-! ## Properties of shapes -/

/-- A property of a schema or of one of its inline parts, at any depth. -/
inductive Schema.HasProperty (e : String × SchemaRef) : Schema → Prop
  | own {s : Schema} : e ∈ s.properties.entries → HasProperty e s
  | part {s part : Schema} : .inline part ∈ s.allOf → HasProperty e part → HasProperty e s

namespace Shape

open Schema

variable {e : String × SchemaRef} {shape : Shape}

lemma mem_entries_addOwn {s : Schema} (h : e ∈ (shape.addOwn s).properties.entries) :
    e ∈ shape.properties.entries ∨ e ∈ s.properties.entries := by
  rw [addOwn] at h
  generalize shape.properties = t at h ⊢
  generalize s.properties.entries = es at h ⊢
  induction es generalizing t with
  | nil => exact .inl h
  | cons f es ih =>
    rcases ih _ h with h | h
    · rcases Table.mem_of_mem_insertNew h with rfl | h
      · exact .inr List.mem_cons_self
      · exact .inl h
    · exact .inr (List.mem_cons_of_mem _ h)

/-- A shape gains properties of what is added. -/
lemma mem_entries_addPart (r : SchemaRef) : ∀ {shape : Shape},
    e ∈ (shape.addPart r).properties.entries →
      e ∈ shape.properties.entries ∨ ∃ s, r = .inline s ∧ HasProperty e s := by
  induction r using ref_induction with
  | ref path =>
    intro shape h
    rw [addPart] at h
    exact .inl h
  | inline s ih =>
    have hparts (rs : List SchemaRef) (hrs : rs ⊆ s.allOf) {shape : Shape}
        (h : e ∈ (shape.addParts rs).properties.entries) :
        e ∈ shape.properties.entries ∨ ∃ part, .inline part ∈ s.allOf ∧ HasProperty e part := by
      induction rs generalizing shape with
      | nil =>
        rw [addParts] at h
        exact .inl h
      | cons r rs ihrs =>
        obtain ⟨hr, hrs⟩ := List.cons_subset.1 hrs
        rw [addParts] at h
        rcases ihrs hrs h with h | hpart
        · rcases ih r (mem_children_of_mem_allOf hr) h with h | ⟨part, rfl, hpart⟩
          · exact .inl h
          · exact .inr ⟨part, hr, hpart⟩
        · exact .inr hpart
    intro shape h
    have hadd : shape.addPart (.inline s) = (shape.addOwn s).addParts s.allOf := by
      obtain ⟨keywords, properties, items, additional, negated, allOf, oneOf, anyOf⟩ := s
      rw [addPart, add]
    rw [hadd] at h
    rcases hparts s.allOf (List.Subset.refl _) h with h | ⟨part, hpart, he⟩
    · exact (mem_entries_addOwn h).imp_right fun he => ⟨s, rfl, .own he⟩
    · exact .inr ⟨s, rfl, .part hpart he⟩

lemma mem_entries_add {s : Schema} (h : e ∈ (shape.add s).properties.entries) :
    e ∈ shape.properties.entries ∨ HasProperty e s := by
  have hpart : e ∈ (shape.addPart (.inline s)).properties.entries := by rwa [addPart]
  refine (mem_entries_addPart _ hpart).imp_right ?_
  rintro ⟨t, heq, he⟩
  exact Referable.inline.inj heq ▸ he

end Shape

/-- The properties that a model declares itself are those of its schema or of its parts. -/
lemma Resolver.mem_entries_shapeBeside {s : Schema} {targets : List (String × Schema)}
    {parent : Option String} {e : String × SchemaRef}
    (h : e ∈ (shapeBeside s targets parent).properties.entries) :
    s.HasProperty e ∨ ∃ t ∈ targets, t.2.HasProperty e := by
  have hfold (ts : List (String × Schema)) (shape : Shape)
      (h : e ∈ (ts.foldl (fun shape t => shape.add t.2) shape).properties.entries) :
      e ∈ shape.properties.entries ∨ ∃ t ∈ ts, t.2.HasProperty e := by
    induction ts generalizing shape with
    | nil => exact .inl h
    | cons t ts ih =>
      rcases ih _ h with h | ⟨u, hu, he⟩
      · exact (Shape.mem_entries_add h).imp_right fun he => ⟨t, List.mem_cons_self, he⟩
      · exact .inr ⟨u, List.mem_cons_of_mem _ hu, he⟩
  rcases hfold _ _ h with h | ⟨t, ht, he⟩
  · exact .inl ((Shape.mem_entries_add h).resolve_left List.not_mem_nil)
  · exact .inr ⟨t, (List.mem_filter.1 ht).1, he⟩

/-- The properties of a model and of its inline parts are visited. -/
lemma Hoisting.Stays.hasProperty {rules : Rules} {e : String × SchemaRef} {s : Schema}
    (he : s.HasProperty e) :
    ∀ {name}, Stays (walkModel rules name) s → Visited rules .property e.2 := by
  induction he with
  | own he => exact fun h => h.property he
  | part hpart _ ih => exact fun h => ih (h.part hpart)

/-! ## Copies of responses -/

lemma ResponseRef.target_mapSchemas (f : SchemaRef → SchemaRef) (ref : ResponseRef) :
    (mapSchemas f ref).target = ref.target.mapInline (mapSchemas f) := by
  cases ref <;> rfl

namespace Document

variable {d : Document}

/-- References to responses lead nowhere: where they led somewhere there are copies. -/
def HasCopies (d : Document) : Prop :=
  ∀ s ∈ d.sites, ∀ ref ∈ s.operation.responses.values, ∀ path, ref.target = .ref path →
    ¬ ∃ res, d.parts.response path = .ok res

/-- Schemas make no difference to where references lead. -/
lemma hasCopies_mapSchemas_iff (f : SchemaRef → SchemaRef) :
    (mapSchemas f d).HasCopies ↔ d.HasCopies := by
  have hleads (path : String) : (∃ res, (mapSchemas f d).parts.response path = .ok res) ↔
      ∃ res, d.parts.response path = .ok res := by
    rw [parts_mapSchemas, Components.response_mapSchemas]
    cases d.parts.response path <;> simp [Except.map]
  have htarget (ref : ResponseRef) (path : String) :
      (mapSchemas f ref).target = .ref path ↔ ref.target = .ref path := by
    rw [ResponseRef.target_mapSchemas]
    cases ref.target <;> simp [Referable.mapInline]
  have hvalues (s : ApiLowering.Site) : (s.mapSchemas f).operation.responses.values =
      s.operation.responses.values.map (mapSchemas f) := Table.values_map _ _
  rw [HasCopies, sites_mapSchemas, List.forall_mem_map]
  simp only [hvalues, List.forall_mem_map, htarget, hleads]
  rfl

variable (d) (sw : Switches) (rules : Rules)

/-- **The canonical form has its copies.** -/
theorem hasCopies_canonical : (d.canonical sw).HasCopies := by
  intro s hs ref href path hpath hleads
  obtain ⟨-, shared, op, hop⟩ := exists_of_mem_sites_canonical d sw hs
  rw [hop] at href
  obtain ⟨ref', -, rfl⟩ := List.mem_map.1
    (show ref ∈ op.responses.values.map _ from Table.values_map _ op.responses ▸ href)
  rw [ResponseRef.canonical_eq, ResponseRef.target_mapSchemas] at hpath
  cases htarget : (d.arranged.withCopies.parts.copyResponse ref').target with
  | inline res =>
    rw [htarget] at hpath
    cases hpath
  | ref path' =>
    rw [htarget] at hpath
    obtain rfl := Referable.ref.inj hpath
    obtain ⟨res, hres⟩ := hleads
    rw [parts_canonical, ← parts_arranged_withCopies] at hres
    exact Components.target_copyResponse_eq_ref htarget
      (Components.responsesKept_canonical sw _ _ _ hres)

/-- **So has the canonical form when its schemas are hoisted.** -/
theorem hasCopies_hoisted_canonical : ((d.canonical sw).hoisted rules).HasCopies := by
  have hshape := (tracks_walkDocument rules (d.canonical sw) (d.canonical sw).declaredPool).1
  have h := (hshape.iff fun f _ => hasCopies_mapSchemas_iff f).1 (hasCopies_canonical d sw)
  rw [hoisted_eq, withSchemas]
  split
  · exact h
  · exact h

/-! ## What is resolved -/

/-- The schemas that are resolved to types when a document is lowered, with the kind of place that
they stand in. -/
inductive Resolved (d : Document) : Hoisting.Site → SchemaRef → Prop
  /-- The properties of a model, of its inline parts and of the parts that it does not extend. -/
  | property {path key : String} {s : Schema} {targets : List (String × Schema)}
      {parent : Option String} {e : String × SchemaRef} :
    d.parts.schema path = .ok (key, s) →
    (Resolver.partPaths s).mapM d.parts.schema = .ok targets →
    e ∈ (Resolver.shapeBeside s targets parent).properties.entries → Resolved d .property e.2
  /-- The alternatives of a model. -/
  | alternative {path key : String} {s : Schema} {r : SchemaRef} :
    d.parts.schema path = .ok (key, s) → r ∈ s.oneOf ++ s.anyOf → Resolved d .nested r
  /-- The items and the values of a component. -/
  | content {path key : String} {s : Schema} {r : SchemaRef} :
    d.parts.schema path = .ok (key, s) → Resolver.itemsSchema? s = some r → Resolved d .nested r
  /-- The parameters of an operation, by a reference or not. -/
  | parameter {s : ApiLowering.Site} {ps : List Parameter} {p : Parameter} : s ∈ d.sites →
    d.parts.declaredParameters s.item s.operation = .ok ps → p ∈ ps →
    Resolved d .nested p.schemaRef
  /-- The body of an operation. -/
  | body {s : ApiLowering.Site} {ref : RequestBodyRef} {b : RequestBody} {mediaType : String}
      {m : MediaType} : s ∈ d.sites → s.operation.requestBody = some ref →
    d.parts.requestBody ref = .ok b → (mediaType, m) ∈ b.content.entries →
    Content.isForm mediaType = false → Resolved d .nested (m.schema.getD (.inline {}))
  /-- The fields of the form of an operation. -/
  | field {s : ApiLowering.Site} {ref : RequestBodyRef} {b : RequestBody} {mediaType : String}
      {m : MediaType} {r : SchemaRef} {key? : Option String} {t : Schema}
      {e : String × SchemaRef} : s ∈ d.sites → s.operation.requestBody = some ref →
    d.parts.requestBody ref = .ok b → (mediaType, m) ∈ b.content.entries →
    Content.isForm mediaType = true → m.schema = some r →
    d.parts.resolveSchema r = .ok (key?, t) → e ∈ t.properties.entries → Resolved d .property e.2
  /-- The bodies of the responses of an operation. -/
  | response {s : ApiLowering.Site} {ref : ResponseRef} {res : Response} {r : SchemaRef} :
    s ∈ d.sites → ref ∈ s.operation.responses.values → d.parts.describedResponse ref = .ok res →
    res.schemaRef? = some r → Resolved d .nested r
  /-- The headers of the responses of an operation. -/
  | header {s : ApiLowering.Site} {ref : ResponseRef} {res : Response} {headerRef : HeaderRef}
      {h : Header} : s ∈ d.sites → ref ∈ s.operation.responses.values →
    d.parts.describedResponse ref = .ok res → headerRef ∈ res.headers.values →
    d.parts.resolveHeader headerRef = .ok h →
    Resolved d .property (h.schema.getD Schema.plainText)
  /-- The items and the values of what is resolved. -/
  | inside {site : Hoisting.Site} {s : Schema} {r : SchemaRef} : Resolved d site (.inline s) →
    Resolver.itemsSchema? s = some r → Resolved d .nested r

/-- The schemas that are resolved but not visited: those of parameters that an operation refers to,
those of headers, and what is below them. -/
inductive Overlooked (d : Document) : Hoisting.Site → SchemaRef → Prop
  | parameter {s : ApiLowering.Site} {path : String} {p : Parameter} : s ∈ d.sites →
    .ref path ∈ s.operation.parameters → d.parts.parameter (.ref path) = .ok p →
    Overlooked d .nested p.schemaRef
  | header {s : ApiLowering.Site} {ref : ResponseRef} {res : Response} {headerRef : HeaderRef}
      {h : Header} : s ∈ d.sites → ref ∈ s.operation.responses.values →
    d.parts.describedResponse ref = .ok res → headerRef ∈ res.headers.values →
    d.parts.resolveHeader headerRef = .ok h →
    Overlooked d .property (h.schema.getD Schema.plainText)
  | inside {site : Hoisting.Site} {s : Schema} {r : SchemaRef} : Overlooked d site (.inline s) →
    Resolver.itemsSchema? s = some r → Overlooked d .nested r

section Still

variable {d rules} (hstill : d.Still rules)

include hstill

/-- A component schema was walked. -/
lemma Still.schema {path key : String} {s : Schema} (h : d.parts.schema path = .ok (key, s)) :
    ∃ name, Stays (walkModel rules name) s := by
  have hmem : .inline s ∈ d.parts.schemas.values :=
    Reference.mem_values_of_follow (congrArg (Except.map (·.2)) h)
  obtain ⟨⟨name, r⟩, he, heq⟩ := List.mem_map.1 hmem
  obtain rfl : r = .inline s := heq
  have hpart : Stays (walkPart rules name) (.inline s) := hstill.schemas.stays.of_forValues _ he
  obtain ⟨p, hp⟩ := hpart
  rw [walkPart] at hp
  exact ⟨name, p, Referable.inline.inj hp⟩

/-- An operation was walked. -/
lemma Still.operation {s : ApiLowering.Site} (hs : s ∈ d.sites) :
    ∃ name, Stays (walkOperationParts rules name) (Operation.lens.get s.operation) := by
  obtain ⟨⟨path, item⟩, hpath, hs⟩ := List.mem_flatMap.1 hs
  obtain ⟨⟨m, op⟩, hop, rfl⟩ := List.mem_map.1 hs
  exact ⟨_, (hstill.paths.stays.of_forValues _ hpath).operation hop⟩

/-- The body of an operation was walked, here or as a component. -/
lemma Still.requestBody {s : ApiLowering.Site} {ref : RequestBodyRef} {b : RequestBody}
    (hs : s ∈ d.sites) (href : s.operation.requestBody = some ref)
    (hb : d.parts.requestBody ref = .ok b) : ∃ place, Stays (walkBody rules place) b := by
  cases ref with
  | ref path =>
    have hmem : .inline b ∈ d.parts.requestBodies.values := Reference.mem_values_of_follow hb
    obtain ⟨⟨key, r⟩, he, rfl⟩ := List.mem_map.1 hmem
    exact ⟨_, (hstill.bodies.stays.of_forValues _ he).of_forInline⟩
  | inline b' =>
    obtain rfl : b' = b := Except.ok.inj hb
    obtain ⟨name, hname⟩ := hstill.operation hs
    have hbody : Stays (forSome (forInline (walkBody rules (name ++ "_Request"))))
      s.operation.requestBody := hname.of_both.2.of_both.1
    rw [href] at hbody
    exact ⟨_, hbody.of_forSome.of_forInline⟩

lemma Still.property {path key : String} {s : Schema} {e : String × SchemaRef}
    (hs : d.parts.schema path = .ok (key, s)) (he : s.HasProperty e) :
    Visited rules .property e.2 := by
  obtain ⟨name, hname⟩ := hstill.schema hs
  exact Stays.hasProperty he hname

/-- The schema of a parameter was visited if the operation declares it itself. -/
lemma Still.parameter (honce : d.DeclaresOnce) {s : ApiLowering.Site} {ps : List Parameter}
    {p : Parameter} (hs : s ∈ d.sites)
    (hps : d.parts.declaredParameters s.item s.operation = .ok ps) (hp : p ∈ ps) :
    Visited rules .nested p.schemaRef ∨ d.Overlooked .nested p.schemaRef := by
  obtain ⟨hitem, hkeys⟩ := honce s hs
  have hmapM := (Components.declaredParameters_eq hitem hkeys hps).1
  obtain ⟨ref, href, hparameter⟩ := exists_mem_right_of_forall₂ (forall₂_of_mapM_eq_ok hmapM) hp
  cases ref with
  | ref path => exact .inr (.parameter hs href hparameter)
  | inline p' =>
    obtain rfl : p' = p := Except.ok.inj hparameter
    obtain ⟨name, hname⟩ := hstill.operation hs
    have hall : Stays (List.mapM (forInline (walkParameter rules name)))
      s.operation.parameters := hname.of_both.1
    exact .inl (hall.of_mapM _ href).of_forInline.parameter

/-- The fields of a form were visited, here or as properties of a component. -/
lemma Still.field {place mediaType : String} {b : RequestBody} {m : MediaType} {r : SchemaRef}
    {key? : Option String} {t : Schema} {e : String × SchemaRef}
    (hb : Stays (walkBody rules place) b) (hm : (mediaType, m) ∈ b.content.entries)
    (hform : Content.isForm mediaType = true) (hr : m.schema = some r)
    (ht : d.parts.resolveSchema r = .ok (key?, t)) (he : e ∈ t.properties.entries) :
    Visited rules .property e.2 := by
  cases r with
  | inline t' =>
    obtain ⟨-, rfl⟩ := Prod.mk.inj (Except.ok.inj ht)
    exact hb.field hm hr hform he
  | ref path =>
    rw [Components.resolveSchema] at ht
    cases hpath : d.parts.schema path with
    | error f =>
      rw [hpath] at ht
      cases ht
    | ok found =>
      rw [hpath] at ht
      obtain ⟨-, rfl⟩ := Prod.mk.inj (Except.ok.inj ht)
      exact hstill.property hpath (.own he)

/-- The schema of a response was visited: the response is here. -/
lemma Still.response (hcopies : d.HasCopies) {s : ApiLowering.Site} {ref : ResponseRef}
    {res : Response} {r : SchemaRef} (hs : s ∈ d.sites)
    (href : ref ∈ s.operation.responses.values) (hres : d.parts.describedResponse ref = .ok res)
    (hr : res.schemaRef? = some r) : Visited rules .nested r := by
  cases ref with
  | ref path description =>
    refine absurd ?_ (hcopies s hs _ href path rfl)
    rw [Components.describedResponse] at hres
    cases hpath : d.parts.response path with
    | error f =>
      rw [hpath] at hres
      cases hres
    | ok res' => exact ⟨res', rfl⟩
  | inline res' =>
    obtain rfl : res' = res := Except.ok.inj hres
    obtain ⟨name, hname⟩ := hstill.operation hs
    have hall : Stays (forValues fun code r =>
      walkResponse rules (name ++ "_Response_" ++ code) r) s.operation.responses :=
      hname.of_both.2.of_both.2
    obtain ⟨e, he, heq⟩ := List.mem_map.1 href
    have hresponse := hall.of_forValues e he
    rw [heq] at hresponse
    exact hresponse.response hr

/-- **What is resolved was visited or overlooked**, in a document that declares all parameters with
its operations and has its copies.

**Proof sketch.** Each place that is resolved is one of a component schema, a body or an operation,
and these were walked. Only what an operation refers to as a parameter and the headers of a response
are not among their places. What is below a place was visited or overlooked with it. -/
theorem Still.visited_or_overlooked (honce : d.DeclaresOnce) (hcopies : d.HasCopies)
    {site : Hoisting.Site} {r : SchemaRef} (h : d.Resolved site r) :
    Visited rules site r ∨ d.Overlooked site r := by
  induction h with
  | property hs htargets he =>
    left
    rcases Resolver.mem_entries_shapeBeside he with he | ⟨t, ht, he⟩
    · exact hstill.property hs he
    · obtain ⟨path, -, hpath⟩ := exists_mem_right_of_forall₂ (forall₂_of_mapM_eq_ok htargets) ht
      exact hstill.property hpath he
  | alternative hs hr =>
    obtain ⟨name, hname⟩ := hstill.schema hs
    exact .inl (hname.alternative hr)
  | content hs hr =>
    obtain ⟨name, hname⟩ := hstill.schema hs
    exact .inl (hname.below hr)
  | parameter hs hps hp => exact hstill.parameter honce hs hps hp
  | @body s ref b mediaType m hs href hb hm hform =>
    left
    cases hschema : m.schema with
    | none => exact visited_empty
    | some r =>
      obtain ⟨place, hplace⟩ := hstill.requestBody hs href hb
      exact hplace.body hm hschema hform
  | field hs href hb hm hform hr ht he =>
    obtain ⟨place, hplace⟩ := hstill.requestBody hs href hb
    exact .inl (hstill.field hplace hm hform hr ht he)
  | response hs href hres hr => exact .inl (hstill.response hcopies hs href hres hr)
  | header hs href hres hheader hh => exact .inr (.header hs href hres hheader hh)
  | inside _ hr ih =>
    rcases ih with h | h
    · exact .inl (h.below hr)
    · exact .inr (.inside h hr)

end Still

/-- **What is resolved is a reference or plain, or was overlooked.** Properties of models and of
their parts, alternatives, the parameters that an operation declares itself, bodies, the fields of
forms and responses hold references and plain schemas only when a document is lowered, and so do
the items and values below them. Hoisting overlooks no more than the parameters that operations
refer to and the headers of responses. -/
theorem complete_or_overlooked (o : Options) {site : Hoisting.Site} {r : SchemaRef}
    (h : (d.prepared o).Resolved site r) :
    Complete (.ofOptions o.canonical) site r ∨ (d.prepared o).Overlooked site r :=
  ((still_hoisted _ _).visited_or_overlooked (declaresOnce_hoisted_canonical d _ _)
    (hasCopies_hoisted_canonical d _ _) h).imp_left Visited.complete

/-- Hoisting leaves the component parameters as they are, whatever schemas they have. -/
theorem parameters_hoisted : (d.hoisted rules).parts.parameters = d.parts.parameters := by
  have hleft : (d.hoisting rules).1.parts.parameters = d.parts.parameters := by
    rw [hoisting]
    generalize d.declaredPool = p
    obtain ⟨openapi, info, servers, paths, webhooks, components⟩ := d
    cases components with
    | none => rfl
    | some c => rfl
  rw [hoisted_eq, withSchemas]
  split
  · exact hleft
  · exact hleft

/-- What an operation resolves a parameter to is found by looking at all of them. -/
lemma exists_resolved {P : SchemaRef → Prop} [DecidablePred P] (h : (d.sites.any fun s =>
    (d.parts.declaredParameters s.item s.operation).toOption.any fun ps =>
      ps.any fun p => decide (P p.schemaRef)) = true) : ∃ r, d.Resolved .nested r ∧ P r := by
  obtain ⟨s, hs, hany⟩ := List.any_eq_true.1 h
  cases hps : d.parts.declaredParameters s.item s.operation with
  | error f =>
    rw [hps] at hany
    cases hany
  | ok ps =>
    rw [hps] at hany
    obtain ⟨p, hp, hP⟩ := List.any_eq_true.1 hany
    exact ⟨p.schemaRef, .parameter hs hps hp, of_decide_eq_true hP⟩

/-- Owners without a class of their own are hoisted out of a parameter that is declared where it is
used. -/
theorem complete_or_overlooked_owner : ∃ r,
    ((ownedPets (ofProperties [("name", text)])).prepared {}).Resolved .nested r ∧
      r.isRef = true ∧
      (Complete (.ofOptions ({} : Options).canonical) .nested r ∨
        ((ownedPets (ofProperties [("name", text)])).prepared {}).Overlooked .nested r) := by
  obtain ⟨r, hr, href⟩ := exists_resolved (P := fun r => r.isRef = true)
    (d := (ownedPets (ofProperties [("name", text)])).prepared {}) (by decide +kernel)
  exact ⟨r, hr, href, complete_or_overlooked _ _ hr⟩

/-- **An owner that is overlooked.** The owners of pets have a class, since they are hoisted out of
a property. Pets are listed by a component parameter with the same schema. It is not plain and would
be hoisted there too, but the argument of the program has the plain type of objects. -/
theorem owner_overlooked : (∃ r, (petsByOwner.prepared {}).Resolved .nested r ∧
      ∃ s ∈ r.inline?, isHoisted (.ofOptions ({} : Options).canonical) .nested s = true ∧
        ¬ s.IsPlain) ∧
    ∃ program warnings, petsByOwner.lowered {} = .ok (program, warnings) ∧
      program.models.map (fun m => (m.classname, m.vars.map fun p => (p.name, p.type.dataType))) =
        [("Pet", [("owner", "PetOwner")]), ("PetOwner", [("name", "String")])] ∧
      program.endpoints.map (fun e => e.allParams.map fun a => (a.baseName, a.type.dataType)) =
        [[("owner", "Object")]] := by
  refine ⟨?_, exists_lowered (by decide +kernel)⟩
  exact exists_resolved _ (by decide +kernel)

end Document

end ApiLowering
