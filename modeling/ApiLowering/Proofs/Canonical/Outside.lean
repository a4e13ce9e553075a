import ApiLowering.Proofs.Canonical.Document
import ApiLowering.Proofs.Lists

/-!
# Canonical documents outside of their schemas

A document takes its canonical form in two independent ways at once. Around its schemas everything
is put in order, and nothing of this depends on what the schemas are; and each schema takes its own
canonical form.

## Main definitions

* `Components.completeOperation`, `Components.completePath`, `Document.complete` — what the canonical
  form is around the schemas.

## Main results

* `Document.canonical_eq` — the canonical form of a document completes the document with canonical
  schemas.
* `Document.danglingReferences_mapSchemas` — the warnings do not depend on schemas.
-/

namespace ApiLowering

open Canonical Schema

/-! ## Definitions -/

namespace Components

/-- The operation with the parameters of its path, its copies and its tags. -/
def completeOperation (c : Components) (sw : Switches) (shared : List ParameterRef)
    (op : Operation) : Operation :=
  { op with
    parameters := c.allParameters op.parameters shared
    security := op.security.map (distinctWith fun r s => r.toJson.same s.toJson)
    tags := match sw.tag with
      | some tag => [tag]
      | none => distinctBy id op.tags
    responses := op.responses.map c.copyResponse }

/-- The path with complete operations. -/
def completePath (c : Components) (sw : Switches) (p : PathItem) : PathItem :=
  { p with
    parameters := []
    get := p.get.map (c.completeOperation sw p.parameters)
    put := p.put.map (c.completeOperation sw p.parameters)
    post := p.post.map (c.completeOperation sw p.parameters)
    delete := p.delete.map (c.completeOperation sw p.parameters)
    options := p.options.map (c.completeOperation sw p.parameters)
    head := p.head.map (c.completeOperation sw p.parameters)
    patch := p.patch.map (c.completeOperation sw p.parameters)
    trace := p.trace.map (c.completeOperation sw p.parameters) }

end Components

/-- The document with complete paths, in order, without webhooks and components that are empty. -/
def Document.complete (d : Document) (sw : Switches) : Document :=
  let copied := d.arranged.withCopies
  { copied with
    paths := copied.paths.map (copied.parts.completePath sw)
    webhooks :=
      (copied.webhooks.map (copied.parts.completePath sw)).filter fun _ p => !p.operations.isEmpty
    components := copied.components.filter (!·.isEmpty) }

/-! ## Around the schemas -/

section Around

variable (f : SchemaRef → SchemaRef) (sw : Switches)

namespace Components

variable (c : Components)

lemma copyHeader_mapSchemas (header : HeaderRef) :
    (mapSchemas f c).copyHeader (mapSchemas f header) = mapSchemas f (c.copyHeader header) := by
  cases header with
  | inline h => rfl
  | ref path =>
    change (mapSchemas f c).copyHeader (.ref path) = _
    rw [copyHeader, copyHeader, header_mapSchemas]
    cases c.header path <;> rfl

lemma copyHeaders_mapSchemas (r : Response) :
    (mapSchemas f c).copyHeaders (mapSchemas f r) = mapSchemas f (c.copyHeaders r) := by
  have hheaders : (mapSchemas f r.headers).map (mapSchemas f c).copyHeader =
      mapSchemas f (r.headers.map c.copyHeader) := by
    change (r.headers.map (mapSchemas f)).map _ = (r.headers.map c.copyHeader).map (mapSchemas f)
    rw [Table.map_map, Table.map_map]
    exact Table.map_inj_left.2 fun header _ => copyHeader_mapSchemas f c header
  exact congrArg (fun headers => { mapSchemas f r with headers := headers }) hheaders

lemma copyResponse_mapSchemas (r : ResponseRef) :
    (mapSchemas f c).copyResponse (mapSchemas f r) = mapSchemas f (c.copyResponse r) := by
  cases r with
  | inline r => exact congrArg ResponseRef.inline (copyHeaders_mapSchemas f c r)
  | ref path description =>
    change (mapSchemas f c).copyResponse (.ref path description) = _
    rw [copyResponse, copyResponse, response_mapSchemas]
    cases c.response path with
    | error fault => rfl
    | ok r =>
      exact congrArg ResponseRef.inline (copyHeaders_mapSchemas f c
        { r with description := description.getD r.description })

lemma map_copyResponse_mapSchemas (responses : Table ResponseRef) :
    (mapSchemas f responses).map (mapSchemas f c).copyResponse =
      mapSchemas f (responses.map c.copyResponse) := by
  change (responses.map (mapSchemas f)).map _ = (responses.map c.copyResponse).map (mapSchemas f)
  rw [Table.map_map, Table.map_map]
  exact Table.map_inj_left.2 fun r _ => copyResponse_mapSchemas f c r

lemma withCopies_mapSchemas : (mapSchemas f c).withCopies = mapSchemas f c.withCopies :=
  congrArg (fun responses => { mapSchemas f c with responses := responses })
    (map_copyResponse_mapSchemas f c c.responses)

lemma sorted_mapSchemas : (mapSchemas f c).sorted = mapSchemas f c.sorted := by
  have htable {α : Type} [HasSchemas α] (t : Table α) :
      (mapSchemas f t).sortByKey = mapSchemas f t.sortByKey := Table.sortByKey_map _ t
  change ({ c with
    schemas := mapSchemas f c.schemas
    responses := mapSchemas f c.responses
    parameters := mapSchemas f c.parameters
    requestBodies := mapSchemas f c.requestBodies
    headers := mapSchemas f c.headers } : Components).sorted = _
  simp only [sorted, htable]
  rfl

lemma isEmpty_mapSchemas : (mapSchemas f c).isEmpty = c.isEmpty := by
  have htable {α : Type} [HasSchemas α] (t : Table α) :
      (mapSchemas f t).isEmpty = t.isEmpty := Table.isEmpty_map _ t
  change ({ c with
    schemas := mapSchemas f c.schemas
    responses := mapSchemas f c.responses
    parameters := mapSchemas f c.parameters
    requestBodies := mapSchemas f c.requestBodies
    headers := mapSchemas f c.headers } : Components).isEmpty = _
  simp only [isEmpty, htable]

lemma completeOperation_mapSchemas (shared : List ParameterRef) (op : Operation) :
    (mapSchemas f c).completeOperation sw (mapSchemas f shared) (mapSchemas f op) =
      mapSchemas f (c.completeOperation sw shared op) := by
  have hparameters : (mapSchemas f c).allParameters (mapSchemas f op.parameters)
      (mapSchemas f shared) = mapSchemas f (c.allParameters op.parameters shared) := by
    rw [allParameters, allParameters]
    change distinctBy _ (op.parameters.map (mapSchemas f) ++ shared.map (mapSchemas f)) = _
    rw [← List.map_append]
    exact distinctBy_map (parameterKey_mapSchemas f c) _
  have hresponses := map_copyResponse_mapSchemas f c op.responses
  have hfields : (mapSchemas f c).completeOperation sw (mapSchemas f shared) (mapSchemas f op) =
      { c.completeOperation sw shared op with
        parameters :=
          (mapSchemas f c).allParameters (mapSchemas f op.parameters) (mapSchemas f shared)
        requestBody := mapSchemas f op.requestBody
        responses := (mapSchemas f op.responses).map (mapSchemas f c).copyResponse } := rfl
  rw [hfields, hparameters, hresponses]
  rfl

lemma completePath_mapSchemas (p : PathItem) :
    (mapSchemas f c).completePath sw (mapSchemas f p) = mapSchemas f (c.completePath sw p) := by
  have hop (o : Option Operation) :
      (mapSchemas f o).map ((mapSchemas f c).completeOperation sw (mapSchemas f p.parameters)) =
        mapSchemas f (o.map (c.completeOperation sw p.parameters)) := by
    cases o with
    | none => rfl
    | some op => exact congrArg some (completeOperation_mapSchemas f sw c p.parameters op)
  let complete := (mapSchemas f c).completeOperation sw (mapSchemas f p.parameters)
  have hfields : (mapSchemas f c).completePath sw (mapSchemas f p) =
      { c.completePath sw p with
        get := (mapSchemas f p.get).map complete
        put := (mapSchemas f p.put).map complete
        post := (mapSchemas f p.post).map complete
        delete := (mapSchemas f p.delete).map complete
        options := (mapSchemas f p.options).map complete
        head := (mapSchemas f p.head).map complete
        patch := (mapSchemas f p.patch).map complete
        trace := (mapSchemas f p.trace).map complete } := rfl
  rw [hfields]
  simp only [complete, hop]
  rfl

lemma map_completePath_mapSchemas (paths : Table PathItem) :
    (mapSchemas f paths).map ((mapSchemas f c).completePath sw) =
      mapSchemas f (paths.map (c.completePath sw)) := by
  change (paths.map (mapSchemas f)).map _ = (paths.map (c.completePath sw)).map (mapSchemas f)
  rw [Table.map_map, Table.map_map]
  exact Table.map_inj_left.2 fun p _ => completePath_mapSchemas f sw c p

end Components

namespace Document

variable (d : Document)

lemma arranged_mapSchemas : (mapSchemas f d).arranged = mapSchemas f d.arranged := by
  have htable {α : Type} [HasSchemas α] (t : Table α) :
      (mapSchemas f t).sortByKey = mapSchemas f t.sortByKey := Table.sortByKey_map _ t
  have hcomponents : (mapSchemas f d.components).map Components.sorted =
      mapSchemas f (d.components.map Components.sorted) := by
    cases d.components with
    | none => rfl
    | some c => exact congrArg some (Components.sorted_mapSchemas f c)
  change { mapSchemas f d with
    paths := (mapSchemas f d.paths).sortByKey
    webhooks := (mapSchemas f d.webhooks).sortByKey
    components := (mapSchemas f d.components).map Components.sorted
    tags := distinctBy (·.name) d.tags
    servers := distinctBy (·.url) d.servers
    security := d.security.map (distinctWith fun r s => r.toJson.same s.toJson) } = _
  rw [htable, htable, hcomponents]
  rfl

lemma withCopies_mapSchemas : (mapSchemas f d).withCopies = mapSchemas f d.withCopies := by
  have hcomponents : (mapSchemas f d.components).map Components.withCopies =
      mapSchemas f (d.components.map Components.withCopies) := by
    cases d.components with
    | none => rfl
    | some c => exact congrArg some (Components.withCopies_mapSchemas f c)
  exact congrArg (fun components => { mapSchemas f d with components := components }) hcomponents

lemma filter_webhooks_mapSchemas (webhooks : Table PathItem) :
    (mapSchemas f webhooks).filter (fun _ p => !p.operations.isEmpty) =
      mapSchemas f (webhooks.filter fun _ p => !p.operations.isEmpty) :=
  Table.filter_map (fun _ p => by rw [PathItem.operations_mapSchemas, List.isEmpty_map]) webhooks

lemma filter_components_mapSchemas (components : Option Components) :
    (mapSchemas f components).filter (!·.isEmpty) =
      mapSchemas f (components.filter (!·.isEmpty)) := by
  cases components with
  | none => rfl
  | some c =>
    change (some (mapSchemas f c)).filter _ = _
    rw [Option.filter, Option.filter, Components.isEmpty_mapSchemas]
    split <;> rfl

/-- **Around its schemas** a document is completed in the same way whatever the schemas are. -/
theorem complete_mapSchemas : (mapSchemas f d).complete sw = mapSchemas f (d.complete sw) := by
  have hcopied : (mapSchemas f d).arranged.withCopies = mapSchemas f d.arranged.withCopies := by
    rw [arranged_mapSchemas, withCopies_mapSchemas]
  rw [complete, complete, hcopied]
  generalize d.arranged.withCopies = copied
  change { mapSchemas f copied with
    paths := (mapSchemas f copied.paths).map ((mapSchemas f copied).parts.completePath sw)
    webhooks := ((mapSchemas f copied.webhooks).map
      ((mapSchemas f copied).parts.completePath sw)).filter fun _ p => !p.operations.isEmpty
    components := (mapSchemas f copied.components).filter (!·.isEmpty) } = _
  rw [parts_mapSchemas, Components.map_completePath_mapSchemas,
    Components.map_completePath_mapSchemas, filter_webhooks_mapSchemas,
    filter_components_mapSchemas]
  rfl

end Document

/-! ## Warnings -/

/-- The warning for a header that leads nowhere. -/
def Components.danglingHeader (c : Components) : HeaderRef → Option String
  | .inline _ => none
  | .ref path =>
    match c.header path with
    | .ok _ => none
    | .error fault => some ("keeping unresolved header reference: " ++ fault.message)

lemma Components.danglingHeader_mapSchemas (c : Components) (header : HeaderRef) :
    (mapSchemas f c).danglingHeader (mapSchemas f header) = c.danglingHeader header := by
  cases header with
  | inline h => rfl
  | ref path =>
    change (mapSchemas f c).danglingHeader (.ref path) = _
    rw [danglingHeader, danglingHeader, header_mapSchemas]
    cases c.header path <;> rfl

lemma Components.danglingHeaders_mapSchemas (c : Components) (r : Response) :
    (mapSchemas f c).danglingHeaders (mapSchemas f r) = c.danglingHeaders r := by
  change (r.headers.map (mapSchemas f)).values.filterMap (mapSchemas f c).danglingHeader =
    r.headers.values.filterMap c.danglingHeader
  rw [Table.values_map, List.filterMap_map]
  exact List.filterMap_congr fun header _ => c.danglingHeader_mapSchemas f header

lemma Components.danglingIn_mapSchemas (c : Components) (r : ResponseRef) :
    (mapSchemas f c).danglingIn (mapSchemas f r) = c.danglingIn r := by
  cases r with
  | inline r => exact danglingHeaders_mapSchemas f c r
  | ref path description =>
    change (mapSchemas f c).danglingIn (.ref path description) = _
    rw [danglingIn, danglingIn, response_mapSchemas]
    cases c.response path with
    | error fault => rfl
    | ok r => exact danglingHeaders_mapSchemas f c r

lemma Components.flatMap_danglingIn_mapSchemas (c : Components) (responses : Table ResponseRef) :
    (mapSchemas f responses).values.flatMap (mapSchemas f c).danglingIn =
      responses.values.flatMap c.danglingIn := by
  change (responses.map (mapSchemas f)).values.flatMap _ = _
  rw [Table.values_map, List.flatMap_map]
  exact List.flatMap_congr fun r _ => c.danglingIn_mapSchemas f r

lemma Document.allOperations_mapSchemas (d : Document) :
    (mapSchemas f d).allOperations = d.allOperations.map (mapSchemas f) := by
  change ((d.paths.map (mapSchemas f)).values ++ (d.webhooks.map (mapSchemas f)).values).flatMap _ =
    _
  rw [Table.values_map, Table.values_map, ← List.map_append, List.flatMap_map, allOperations,
    List.map_flatMap]
  refine List.flatMap_congr fun p _ => ?_
  rw [PathItem.operations_mapSchemas, List.map_map, List.map_map]
  rfl

/-- **Warnings do not depend on schemas.** -/
theorem Document.danglingReferences_mapSchemas (d : Document) :
    (mapSchemas f d).danglingReferences = d.danglingReferences := by
  rw [danglingReferences, danglingReferences, arranged_mapSchemas, withCopies_mapSchemas,
    parts_mapSchemas, parts_mapSchemas, allOperations_mapSchemas, List.flatMap_map]
  refine congrArg₂ (· ++ ·) ?_ (List.flatMap_congr fun op _ => ?_)
  · exact d.arranged.parts.flatMap_danglingIn_mapSchemas f d.arranged.parts.responses
  · exact d.arranged.withCopies.parts.flatMap_danglingIn_mapSchemas f op.responses

end Around

/-! ## Both ways -/

namespace Components

variable (c : Components) (sw : Switches)

lemma canonicalOperation_eq (shared : List ParameterRef) (op : Operation) :
    c.canonicalOperation sw shared op =
      mapSchemas (canonicalRef sw) (c.completeOperation sw shared op) := by
  have hresponses : op.responses.map (fun r => (c.copyResponse r).canonical sw) =
      mapSchemas (canonicalRef sw) (op.responses.map c.copyResponse) := by
    rw [ResponseRef.canonical_eq]
    exact (Table.map_map _ _ _).symm
  exact congrArg (fun responses => { c.canonicalOperation sw shared op with responses }) hresponses

lemma canonicalPath_eq_mapSchemas (p : PathItem) :
    c.canonicalPath sw p = mapSchemas (canonicalRef sw) (c.completePath sw p) := by
  have hop (o : Option Operation) : o.map (c.canonicalOperation sw p.parameters) =
      mapSchemas (canonicalRef sw) (o.map (c.completeOperation sw p.parameters)) := by
    cases o with
    | none => rfl
    | some op => exact congrArg some (c.canonicalOperation_eq sw p.parameters op)
  rw [canonicalPath_eq]
  simp only [hop]
  rfl

end Components

namespace Document

variable (d : Document) (sw : Switches)

/-- **The canonical form of a document completes the document with canonical schemas.** -/
theorem canonical_eq : d.canonical sw = (mapSchemas (canonicalRef sw) d).complete sw := by
  rw [complete_mapSchemas, canonical, complete]
  generalize d.arranged.withCopies = copied
  have hpath : copied.parts.canonicalPath sw =
      fun p => mapSchemas (canonicalRef sw) (copied.parts.completePath sw p) :=
    funext (copied.parts.canonicalPath_eq_mapSchemas sw)
  have hpaths (paths : Table PathItem) : paths.map (copied.parts.canonicalPath sw) =
      mapSchemas (canonicalRef sw) (paths.map (copied.parts.completePath sw)) := by
    rw [hpath]
    exact (Table.map_map _ _ _).symm
  have hcomponents : (copied.components.map (·.canonical sw)).filter (!·.isEmpty) =
      mapSchemas (canonicalRef sw) (copied.components.filter (!·.isEmpty)) := by
    rw [← filter_components_mapSchemas]
    exact congrArg (fun f => (copied.components.map f).filter (!·.isEmpty))
      (funext (Components.canonical_eq sw))
  rw [canonicalParts, hpaths, hpaths, filter_webhooks_mapSchemas, hcomponents]
  rfl

end Document

end ApiLowering
