import ApiLowering.Proofs.Document.References
import ApiLowering.Proofs.Document.Schemas
import ApiLowering.Proofs.Lists

/-!
# The canonical form of a canonical document

Outside of its schemas a canonical document is in its final form: it is in order, nothing is
declared twice, its operations have the parameters of their paths, and copies stand in the place of
all references that lead anywhere. So its canonical form is that of its schemas.

## Main results

* `Components.copyResponse_copied` — copies need not be made twice.
* `Document.canonical_canonical` — the canonical form of a canonical document is that of its
  schemas.
-/

namespace ApiLowering

open Canonical Schema

variable (sw : Switches)

/-! ## Schemas in their places -/

lemma MediaType.canonical_eq : MediaType.canonical sw = mapSchemas (canonicalRef sw) := rfl

lemma Parameter.canonical_eq : Parameter.canonical sw = mapSchemas (canonicalRef sw) := rfl

lemma RequestBody.canonical_eq : RequestBody.canonical sw = mapSchemas (canonicalRef sw) := rfl

lemma Header.canonical_eq : Header.canonical sw = mapSchemas (canonicalRef sw) := rfl

lemma Response.canonical_eq : Response.canonical sw = mapSchemas (canonicalRef sw) := rfl

lemma ResponseRef.canonical_eq : ResponseRef.canonical sw = mapSchemas (canonicalRef sw) := by
  funext r
  cases r <;> rfl

lemma Components.canonical_eq (c : Components) :
    c.canonical sw = mapSchemas (canonicalRef sw) c := by
  rw [Components.canonical, ResponseRef.canonical_eq]
  rfl

/-! ## Other schemas -/

section OtherSchemas

variable (f : SchemaRef → SchemaRef) (c : Components)

namespace Components

/-! References lead to the same things, with other schemas. -/

lemma parameter_mapSchemas (p : ParameterRef) :
    (mapSchemas f c).parameter (mapSchemas f p) = (c.parameter p).map (mapSchemas f) := by
  cases p with
  | inline p => rfl
  | ref path =>
    have hkeys : (mapSchemas f c).parameters.keys = c.parameters.keys := Table.keys_map _ _
    change (mapSchemas f c).parameter (.ref path) = _
    rw [parameter, hkeys, parameter]
    change (Reference.follow "parameters"
      (c.parameters.map (Referable.mapInline (mapSchemas f))) .unresolved
      c.parameters.keys path).map (·.2) = _
    rw [Reference.follow_map]
    cases Reference.follow "parameters" c.parameters .unresolved c.parameters.keys path <;> rfl

lemma header_mapSchemas (path : String) :
    (mapSchemas f c).header path = (c.header path).map (mapSchemas f) := by
  have hkeys : (mapSchemas f c).headers.keys = c.headers.keys := Table.keys_map _ _
  rw [header, hkeys, header]
  change (Reference.follow "headers" (c.headers.map (Referable.mapInline (mapSchemas f)))
    .unresolved c.headers.keys path).map (·.2) = _
  rw [Reference.follow_map]
  cases Reference.follow "headers" c.headers .unresolved c.headers.keys path <;> rfl

lemma response_mapSchemas (path : String) :
    (mapSchemas f c).response path = (c.response path).map (mapSchemas f) := by
  have hkeys : (mapSchemas f c).responses.keys = c.responses.keys := Table.keys_map _ _
  have htargets : (mapSchemas f c).responses.map ResponseRef.target =
      (c.responses.map ResponseRef.target).map (Referable.mapInline (mapSchemas f)) := by
    change (c.responses.map (mapSchemas f)).map _ = _
    rw [Table.map_map, Table.map_map]
    refine Table.map_inj_left.2 fun r _ => ?_
    cases r <;> rfl
  rw [response, hkeys, htargets, response, Reference.follow_map]
  cases Reference.follow "responses" (c.responses.map ResponseRef.target) .unresolved
    c.responses.keys path <;> rfl

/-- What tells parameters apart does not depend on their schemas. -/
lemma parameterKey_mapSchemas (p : ParameterRef) :
    (mapSchemas f c).parameterKey (mapSchemas f p) = c.parameterKey p := by
  unfold parameterKey
  rw [parameter_mapSchemas]
  cases p with
  | inline p => rfl
  | ref path => cases c.parameter (.ref path) <;> rfl

end Components

lemma PathItem.operation?_mapSchemas (p : PathItem) (m : HttpMethod) :
    (mapSchemas f p).operation? m = mapSchemas f (p.operation? m) := by
  cases m <;> rfl

lemma PathItem.operations_mapSchemas (p : PathItem) :
    (mapSchemas f p).operations = p.operations.map fun x => (x.1, mapSchemas f x.2) := by
  rw [operations, operations, List.map_filterMap]
  refine List.filterMap_congr fun m _ => ?_
  rw [operation?_mapSchemas]
  cases p.operation? m <;> rfl

lemma Document.parts_mapSchemas (d : Document) : (mapSchemas f d).parts = mapSchemas f d.parts := by
  obtain ⟨openapi, info, servers, paths, webhooks, components⟩ := d
  cases components <;> rfl

end OtherSchemas

/-! ## Copies -/

namespace Components

variable {c c' : Components}

/-- What is a reference to a header in one set of components and leads nowhere there, leads nowhere
in another. -/
def HeadersKept (c c' : Components) : Prop :=
  ∀ path h', c'.header path = .ok h' → ∃ h, c.header path = .ok h

/-- The same for responses. -/
def ResponsesKept (c c' : Components) : Prop :=
  ∀ path r', c'.response path = .ok r' → ∃ r, c.response path = .ok r

lemma copyHeader_copied (h : HeadersKept c c') (header : HeaderRef) :
    c'.copyHeader ((c.copyHeader header).mapInline (Header.canonical sw)) =
      (c.copyHeader header).mapInline (Header.canonical sw) := by
  cases header with
  | inline header => rfl
  | ref path =>
    rw [copyHeader]
    cases hpath : c.header path with
    | ok header => rfl
    | error f =>
      change c'.copyHeader (.ref path) = .ref path
      rw [copyHeader]
      cases hpath' : c'.header path with
      | ok header' =>
        obtain ⟨header, hheader⟩ := h path header' hpath'
        rw [hheader] at hpath
        cases hpath
      | error f' => rfl

lemma copyHeaders_copied (h : HeadersKept c c') (r : Response) :
    c'.copyHeaders ((c.copyHeaders r).canonical sw) = (c.copyHeaders r).canonical sw := by
  have hheaders : ((c.copyHeaders r).canonical sw).headers.map c'.copyHeader =
      ((c.copyHeaders r).canonical sw).headers := by
    simp only [copyHeaders, Response.canonical, Table.map_map]
    refine Table.map_inj_left.2 fun header _ => ?_
    exact copyHeader_copied sw h header
  rw [copyHeaders, hheaders]

/-- Copies need not be made twice. -/
theorem copyResponse_copied (hheaders : HeadersKept c c') (hresponses : ResponsesKept c c')
    (r : ResponseRef) :
    c'.copyResponse ((c.copyResponse r).canonical sw) = (c.copyResponse r).canonical sw := by
  cases r with
  | inline r => exact congrArg ResponseRef.inline (copyHeaders_copied sw hheaders r)
  | ref path description =>
    rw [copyResponse]
    cases hpath : c.response path with
    | ok r => exact congrArg ResponseRef.inline (copyHeaders_copied sw hheaders _)
    | error f =>
      change c'.copyResponse (.ref path description) = .ref path description
      rw [copyResponse]
      cases hpath' : c'.response path with
      | ok r' =>
        obtain ⟨r, hr⟩ := hresponses path r' hpath'
        rw [hr] at hpath
        cases hpath
      | error f' => rfl

lemma headersKept_canonical (c : Components) : HeadersKept c (c.canonical sw) := by
  intro path h' hpath
  rw [canonical_eq, header_mapSchemas] at hpath
  cases hheader : c.header path with
  | ok h => exact ⟨h, rfl⟩
  | error f => rw [hheader] at hpath; cases hpath

lemma responsesKept_canonical (c : Components) : ResponsesKept c (c.canonical sw) := by
  intro path r' hpath
  rw [canonical_eq, response_mapSchemas] at hpath
  cases hresponse : c.response path with
  | ok r => exact ⟨r, rfl⟩
  | error f => rw [hresponse] at hpath; cases hpath

lemma exists_response_iff {c : Components} {path : String} :
    (∃ r, c.response path = .ok r) ↔
      Reference.Resolves "responses" (c.responses.map ResponseRef.target) path := by
  have hkeys : c.responses.keys = (c.responses.map ResponseRef.target).keys :=
    (Table.keys_map _ _).symm
  have hfollow : (∃ found, Reference.follow "responses" (c.responses.map ResponseRef.target)
      .unresolved (c.responses.map ResponseRef.target).keys path = .ok found) ↔
      Reference.Resolves "responses" (c.responses.map ResponseRef.target) path :=
    Reference.exists_follow_eq_ok_iff
  rw [← hfollow, response, hkeys]
  cases Reference.follow "responses" (c.responses.map ResponseRef.target) .unresolved
    (c.responses.map ResponseRef.target).keys path <;> simp [Except.map]

lemma target_copyResponse_eq_ref {c : Components} {r : ResponseRef} {path : String}
    (h : (c.copyResponse r).target = .ref path) : ¬ ∃ r, c.response path = .ok r := by
  cases r with
  | inline r => cases h
  | ref path' description =>
    rw [copyResponse] at h
    cases hpath : c.response path' with
    | ok r =>
      rw [hpath] at h
      cases h
    | error f =>
      rw [hpath] at h
      obtain rfl := Referable.ref.inj h
      simp [hpath]

lemma target_copyResponse_eq_inline {c : Components} {r : ResponseRef} {result : Response}
    (h : (c.copyResponse r).target = .inline result) :
    (∃ value, r.target = .inline value) ∨
      ∃ path, r.target = .ref path ∧ ∃ r, c.response path = .ok r := by
  cases r with
  | inline r => exact .inl ⟨r, rfl⟩
  | ref path description =>
    rw [copyResponse] at h
    cases hpath : c.response path with
    | ok r => exact .inr ⟨path, rfl, r, hpath⟩
    | error f =>
      rw [hpath] at h
      cases h

/-- No response leads anywhere because others have become copies. -/
lemma responsesKept_withCopies (c : Components) : ResponsesKept c c.withCopies := by
  intro path r' hpath
  have hcopies {key : String} {target : Referable Response}
      (h : (c.withCopies.responses.map ResponseRef.target).find? key = some target) :
      ∃ r, c.responses.find? key = some r ∧ (c.copyResponse r).target = target := by
    rw [Table.find?_map, withCopies, Table.find?_map, Option.map_map] at h
    exact Option.map_eq_some_iff.1 h
  have htargets {key : String} {r : ResponseRef} (h : c.responses.find? key = some r) :
      (c.responses.map ResponseRef.target).find? key = some r.target := by
    rw [Table.find?_map, h]
    rfl
  refine exists_response_iff.2 (Reference.resolves_of_copies (fun key next hfind => ?_)
    (fun key result hfind => ?_) (exists_response_iff.1 ⟨r', hpath⟩))
  · obtain ⟨r, -, hr⟩ := hcopies hfind
    exact fun hnext => target_copyResponse_eq_ref hr (exists_response_iff.2 hnext)
  · obtain ⟨r, hkey, hr⟩ := hcopies hfind
    rcases target_copyResponse_eq_inline hr with ⟨value, hvalue⟩ | ⟨next, hnext, hleads⟩
    · exact .inl ⟨value, (htargets hkey).trans (congrArg some hvalue)⟩
    · exact .inr ⟨next, (htargets hkey).trans (congrArg some hnext),
        exists_response_iff.1 hleads⟩

/-! ## Operations -/

lemma parameterKey_canonical (c : Components) (p : ParameterRef) :
    (c.canonical sw).parameterKey (p.mapInline (Parameter.canonical sw)) = c.parameterKey p := by
  rw [canonical_eq]
  exact parameterKey_mapSchemas _ c p

/-- An operation that has the parameters of its path gets no more of them. -/
lemma allParameters_canonical (c : Components) (own shared : List ParameterRef) :
    (c.canonical sw).allParameters
        ((c.allParameters own shared).map (Referable.mapInline (Parameter.canonical sw))) [] =
      (c.allParameters own shared).map (Referable.mapInline (Parameter.canonical sw)) := by
  have hkeys : ((c.allParameters own shared).map (Referable.mapInline (Parameter.canonical sw))).map
      (c.canonical sw).parameterKey = (c.allParameters own shared).map c.parameterKey := by
    rw [List.map_map]
    exact List.map_congr_left fun p _ => parameterKey_canonical sw c p
  rw [allParameters, List.append_nil, distinctBy_eq_self_iff, hkeys]
  exact map_distinctBy_nodup _ _

/-- Outside of its schemas the canonical form of an operation is final. -/
lemma canonicalOperation_canonicalOperation (c : Components) (shared : List ParameterRef)
    (op : Operation) :
    (c.canonical sw).canonicalOperation sw [] (c.canonicalOperation sw shared op) =
      mapSchemas (canonicalRef sw) (c.canonicalOperation sw shared op) := by
  have hparameters : (c.canonical sw).allParameters (c.canonicalOperation sw shared op).parameters
      [] = (c.canonicalOperation sw shared op).parameters :=
    allParameters_canonical sw c op.parameters shared
  have hsecurity : (c.canonicalOperation sw shared op).security.map
      (distinctWith fun r s => r.toJson.same s.toJson) =
        (c.canonicalOperation sw shared op).security := by
    rw [canonicalOperation, Option.map_map]
    exact Option.map_congr fun rs _ => distinctWith_distinctWith _ rs
  have htags :
      ((c.canonical sw).canonicalOperation sw [] (c.canonicalOperation sw shared op)).tags =
        (c.canonicalOperation sw shared op).tags := by
    rw [canonicalOperation, canonicalOperation]
    cases sw.tag with
    | some tag => rfl
    | none => exact distinctWith_distinctWith _ _
  have hresponses : (c.canonicalOperation sw shared op).responses.map
      (fun r => ((c.canonical sw).copyResponse r).canonical sw) =
        mapSchemas (canonicalRef sw) (c.canonicalOperation sw shared op).responses := by
    change (op.responses.map fun r => (c.copyResponse r).canonical sw).map _ =
      (op.responses.map fun r => (c.copyResponse r).canonical sw).map (mapSchemas (canonicalRef sw))
    rw [Table.map_map, Table.map_map]
    refine Table.map_inj_left.2 fun r _ => ?_
    have hcopied := copyResponse_copied sw (headersKept_canonical sw c)
      (responsesKept_canonical sw c) r
    rw [Function.comp_apply, hcopied, ResponseRef.canonical_eq]
    rfl
  have hagain : (c.canonical sw).canonicalOperation sw [] (c.canonicalOperation sw shared op) =
      { c.canonicalOperation sw shared op with
        parameters := ((c.canonical sw).allParameters
          (c.canonicalOperation sw shared op).parameters []).map
            (Referable.mapInline (Parameter.canonical sw))
        security := (c.canonicalOperation sw shared op).security.map
          (distinctWith fun r s => r.toJson.same s.toJson)
        tags :=
          ((c.canonical sw).canonicalOperation sw [] (c.canonicalOperation sw shared op)).tags
        requestBody := (c.canonicalOperation sw shared op).requestBody.map
          (Referable.mapInline (RequestBody.canonical sw))
        responses := (c.canonicalOperation sw shared op).responses.map
          fun r => ((c.canonical sw).copyResponse r).canonical sw } := rfl
  rw [hagain, hparameters, hsecurity, htags, hresponses]
  rfl

lemma canonicalPath_eq (c : Components) (p : PathItem) :
    c.canonicalPath sw p = { p with
      parameters := []
      get := p.get.map (c.canonicalOperation sw p.parameters)
      put := p.put.map (c.canonicalOperation sw p.parameters)
      post := p.post.map (c.canonicalOperation sw p.parameters)
      delete := p.delete.map (c.canonicalOperation sw p.parameters)
      options := p.options.map (c.canonicalOperation sw p.parameters)
      head := p.head.map (c.canonicalOperation sw p.parameters)
      patch := p.patch.map (c.canonicalOperation sw p.parameters)
      trace := p.trace.map (c.canonicalOperation sw p.parameters) } := rfl

/-- The operations of a path have their canonical form, with its parameters. -/
lemma operation?_canonicalPath (c : Components) (p : PathItem) (m : HttpMethod) :
    (c.canonicalPath sw p).operation? m =
      (p.operation? m).map (c.canonicalOperation sw p.parameters) := by
  cases m <;> rfl

lemma operations_canonicalPath (c : Components) (p : PathItem) : (c.canonicalPath sw p).operations =
    p.operations.map fun e => (e.1, c.canonicalOperation sw p.parameters e.2) := by
  rw [PathItem.operations, PathItem.operations, List.map_filterMap]
  refine List.filterMap_congr fun m _ => ?_
  rw [operation?_canonicalPath, Option.map_map, Option.map_map]
  rfl

/-- Outside of its schemas the canonical form of a path is final. -/
lemma canonicalPath_canonicalPath (c : Components) (p : PathItem) :
    (c.canonical sw).canonicalPath sw (c.canonicalPath sw p) =
      mapSchemas (canonicalRef sw) (c.canonicalPath sw p) := by
  have hop (o : Option Operation) : (o.map (c.canonicalOperation sw p.parameters)).map
      ((c.canonical sw).canonicalOperation sw []) =
        mapSchemas (canonicalRef sw) (o.map (c.canonicalOperation sw p.parameters)) := by
    cases o with
    | none => rfl
    | some op => exact congrArg some (canonicalOperation_canonicalOperation sw c p.parameters op)
  rw [canonicalPath_eq, canonicalPath_eq]
  simp only [hop]
  rfl

/-! ## Components -/

/-- Copies in sorted components are made once and for all. -/
lemma withCopies_canonical_withCopies (c : Components) :
    (c.withCopies.canonical sw).withCopies = c.withCopies.canonical sw := by
  have hheaders : HeadersKept c (c.withCopies.canonical sw) := fun path h' hpath =>
    headersKept_canonical sw c.withCopies path h' hpath
  have hresponses : ResponsesKept c (c.withCopies.canonical sw) := fun path r' hpath =>
    have ⟨r, hr⟩ := responsesKept_canonical sw c.withCopies path r' hpath
    responsesKept_withCopies c path r hr
  have hcopied : (c.withCopies.canonical sw).responses.map
      (c.withCopies.canonical sw).copyResponse = (c.withCopies.canonical sw).responses := by
    change ((c.responses.map c.copyResponse).map (ResponseRef.canonical sw)).map _ =
      (c.responses.map c.copyResponse).map (ResponseRef.canonical sw)
    rw [Table.map_map, Table.map_map, Table.map_map]
    exact Table.map_inj_left.2 fun r _ => copyResponse_copied sw hheaders hresponses r
  rw [withCopies.eq_1 (c.withCopies.canonical sw), hcopied]

/-- Components in order stay in order. -/
lemma sorted_canonical_withCopies_sorted (c : Components) :
    (c.sorted.withCopies.canonical sw).sorted = c.sorted.withCopies.canonical sw := by
  have hmap {α β : Type} (t : Table α) (f : α → β) :
      (t.sortByKey.map f).sortByKey = t.sortByKey.map f :=
    Table.sortByKey_of_sorted ((Table.sorted_sortByKey t).map f)
  have hsorted {α : Type} (t : Table α) : t.sortByKey.sortByKey = t.sortByKey :=
    Table.sortByKey_of_sorted (Table.sorted_sortByKey t)
  simp only [sorted, withCopies, canonical, Table.map_map, hmap, hsorted]

lemma isEmpty_canonical (c : Components) : (c.canonical sw).isEmpty = c.isEmpty := by
  simp only [isEmpty, canonical, Table.isEmpty_map]

lemma eq_empty_of_isEmpty {c : Components} (h : c.isEmpty = true) : c = {} := by
  have hempty {α : Type} {t : Table α} (ht : t.isEmpty = true) : t = {} := by
    obtain ⟨es⟩ := t
    exact congrArg Table.mk (List.isEmpty_iff.1 ht)
  obtain ⟨schemas, responses, parameters, samples, requestBodies, headers, securitySchemes, links,
    callbacks⟩ := c
  simp only [isEmpty, Bool.and_eq_true] at h
  obtain ⟨⟨⟨⟨⟨⟨⟨⟨h1, h2⟩, h3⟩, h4⟩, h5⟩, h6⟩, h7⟩, h8⟩, h9⟩ := h
  rw [hempty h1, hempty h2, hempty h3, hempty h4, hempty h5, hempty h6, hempty h7, hempty h8,
    hempty h9]

lemma isEmpty_sorted_withCopies (c : Components) : c.sorted.withCopies.isEmpty = c.isEmpty := by
  simp only [isEmpty, sorted, withCopies, Table.isEmpty_map, Table.isEmpty_sortByKey]

end Components

/-! ## Documents -/

namespace Document

variable (d : Document)

lemma parts_arranged_withCopies : d.arranged.withCopies.parts = d.parts.sorted.withCopies := by
  rw [parts, parts, withCopies, arranged]
  cases d.components with
  | some c => rfl
  | none => exact (Components.eq_empty_of_isEmpty (Components.isEmpty_sorted_withCopies {})).symm

/-- The components of a canonical document. -/
lemma parts_canonical : (d.canonical sw).parts = d.parts.sorted.withCopies.canonical sw := by
  have hparts : (d.canonical sw).components =
      ((d.arranged.withCopies.components).map (·.canonical sw)).filter (!·.isEmpty) := rfl
  rw [← parts_arranged_withCopies, parts, hparts, parts]
  cases d.arranged.withCopies.components with
  | none => rfl
  | some c =>
    cases hempty : (c.canonical sw).isEmpty with
    | true =>
      rw [Option.map_some, Option.filter_some_neg (by simp [hempty])]
      exact (Components.eq_empty_of_isEmpty hempty).symm
    | false => rw [Option.map_some, Option.filter_some_pos (by simp [hempty])]; rfl

lemma components_canonical : (d.canonical sw).components =
    (d.components.map (·.sorted.withCopies.canonical sw)).filter (!·.isEmpty) := by
  change (((d.components.map Components.sorted).map Components.withCopies).map
    (·.canonical sw)).filter (!·.isEmpty) = _
  rw [Option.map_map, Option.map_map]
  rfl

lemma map_components_canonical {f : Components → Components}
    (h : ∀ c : Components,
      f (c.sorted.withCopies.canonical sw) = c.sorted.withCopies.canonical sw) :
    (d.canonical sw).components.map f = (d.canonical sw).components := by
  rw [components_canonical]
  refine (Option.map_congr fun c hc => ?_).trans Option.map_id'
  obtain ⟨c', -, rfl⟩ := Option.map_eq_some_iff.1 (Option.filter_eq_some_iff.1 hc).1
  exact h c'

/-- A canonical document is arranged. -/
lemma arranged_canonical : (d.canonical sw).arranged = d.canonical sw := by
  have hpaths : (d.canonical sw).paths.sortByKey = (d.canonical sw).paths :=
    Table.sortByKey_of_sorted ((Table.sorted_sortByKey d.paths).map _)
  have hwebhooks : (d.canonical sw).webhooks.sortByKey = (d.canonical sw).webhooks :=
    Table.sortByKey_of_sorted (((Table.sorted_sortByKey d.webhooks).map _).filter _)
  have hcomponents := map_components_canonical sw d
    (Components.sorted_canonical_withCopies_sorted sw)
  have htags : distinctBy (·.name) (d.canonical sw).tags = (d.canonical sw).tags :=
    distinctWith_distinctWith _ d.tags
  have hservers : distinctBy (·.url) (d.canonical sw).servers = (d.canonical sw).servers :=
    distinctWith_distinctWith _ d.servers
  have hsecurity : (d.canonical sw).security.map (distinctWith fun r s => r.toJson.same s.toJson) =
      (d.canonical sw).security := by
    change (d.security.map _).map _ = d.security.map _
    rw [Option.map_map]
    exact Option.map_congr fun rs _ => distinctWith_distinctWith _ rs
  rw [arranged, hpaths, hwebhooks, hcomponents, htags, hservers, hsecurity]

/-- A canonical document has its copies. -/
lemma withCopies_canonical : (d.canonical sw).withCopies = d.canonical sw := by
  rw [withCopies, map_components_canonical sw d fun c =>
    Components.withCopies_canonical_withCopies sw c.sorted]

/-- **The canonical form of a canonical document** is that of its schemas.

**Proof sketch.** The document is arranged and has its copies. Its paths and components are those of
the first pass, which the second one leaves alone but for their schemas. -/
theorem canonical_canonical :
    (d.canonical sw).canonical sw = mapSchemas (canonicalRef sw) (d.canonical sw) := by
  have hagain : (d.canonical sw).canonical sw = (d.canonical sw).canonicalParts sw := by
    rw [canonical.eq_1 (d.canonical sw), arranged_canonical, withCopies_canonical]
  have hpath (p : PathItem) : (d.canonical sw).parts.canonicalPath sw
      (d.arranged.withCopies.parts.canonicalPath sw p) =
        mapSchemas (canonicalRef sw) (d.arranged.withCopies.parts.canonicalPath sw p) := by
    rw [parts_canonical, ← parts_arranged_withCopies]
    exact Components.canonicalPath_canonicalPath sw _ p
  have hmap (t : Table PathItem) (ht : ∀ v ∈ t.values, ∃ p,
      v = d.arranged.withCopies.parts.canonicalPath sw p) :
      t.map ((d.canonical sw).parts.canonicalPath sw) = mapSchemas (canonicalRef sw) t := by
    refine Table.map_inj_left.2 fun v hv => ?_
    obtain ⟨p, rfl⟩ := ht v hv
    exact hpath p
  have hpaths := hmap (d.canonical sw).paths fun v hv => by
    obtain ⟨e, he, rfl⟩ := List.mem_map.1 hv
    obtain ⟨e', -, rfl⟩ := List.mem_map.1 he
    exact ⟨_, rfl⟩
  have hwebhooks := hmap (d.canonical sw).webhooks fun v hv => by
    obtain ⟨e, he, rfl⟩ := List.mem_map.1 hv
    obtain ⟨e', -, rfl⟩ := List.mem_map.1 (List.mem_filter.1 he).1
    exact ⟨_, rfl⟩
  have hkept : (mapSchemas (canonicalRef sw) (d.canonical sw).webhooks).filter
      (fun _ p => !p.operations.isEmpty) =
        mapSchemas (canonicalRef sw) (d.canonical sw).webhooks := by
    refine Table.filter_eq_self fun e he => ?_
    obtain ⟨e', he', rfl⟩ := List.mem_map.1 he
    rw [PathItem.operations_mapSchemas, List.isEmpty_map]
    exact (List.mem_filter.1 he').2
  have hcomponents : ((d.canonical sw).components.map (·.canonical sw)).filter (!·.isEmpty) =
      mapSchemas (canonicalRef sw) (d.canonical sw).components := by
    rw [components_canonical]
    cases d.components with
    | none => rfl
    | some c =>
      cases hempty : (c.sorted.withCopies.canonical sw).isEmpty with
      | true =>
        rw [Option.map_some, Option.filter_some_neg (by simp [hempty])]
        rfl
      | false =>
        rw [Option.map_some, Option.filter_some_pos (by simp [hempty]), Option.map_some,
          Option.filter_some_pos (by simp [Components.isEmpty_canonical, hempty]),
          Components.canonical_eq sw (c.sorted.withCopies.canonical sw)]
        rfl
  rw [hagain, canonicalParts]
  simp only [hpaths, hwebhooks, hkept, hcomponents]
  rfl

end Document

end ApiLowering
