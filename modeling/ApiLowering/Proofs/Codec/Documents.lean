import ApiLowering.Proofs.Codec.Parts

/-!
# The codec of documents

The codecs of operations, paths, components and whole documents, from those of their parts.

Whether a thing is sound depends on its schemas one by one, and on everything else whatever the
schemas are. So a thing stays sound if nothing but its schemas change, and these to sound ones.

## Main definitions

* `Document.ordered` — a document with its tables in order, and so all of its parts.
* `Codec.document` — the codec of documents; `Codec.components`, `Codec.pathItem`,
  `Codec.operation` — the codecs of their parts.
* `blank` — a thing with the same schema in all of its places.
* `Soundness.Separable` — what is asked of the schemas, and what of everything else.

## Main results

* `Soundness.Separable.of_sameShape` — a thing of the same shape is sound if its schemas are.
* `Codec.separable_document` — soundness of documents is separable.
-/

namespace ApiLowering

/-! ## Operations -/

/-- An operation with its tables in order. -/
def Operation.ordered (op : Operation) : Operation :=
  { op with
    parameters := op.parameters.map (Referable.mapInline Parameter.ordered)
    requestBody := op.requestBody.map (Referable.mapInline RequestBody.ordered)
    responses := (op.responses.map (ResponseRef.mapInline Response.ordered)).sortByKey
    security := op.security.map (List.map Table.sortByKey)
    callbacks := op.callbacks.sortByKey
    extensions := op.extensions.sortByKey }

@[simp] lemma Operation.ordered_ordered (op : Operation) : op.ordered.ordered = op.ordered := by
  simp [ordered, Function.comp_def]

/-- Operations. -/
@[simps -fullyApplied read write toLayout_inOrder]
def Operation.record : Record Operation where
  inOrder := Operation.ordered
  names := ["operationId", "summary", "description", "tags", "parameters", "requestBody",
    "responses",
    "deprecated", "security", "callbacks"]
  fields := [
    .optional "operationId" .text Operation.operationId,
    .optional "summary" .text Operation.summary,
    .optional "description" .text Operation.description, .list "tags" .text Operation.tags,
    .list "parameters" .parameterRef Operation.parameters,
    .optional "requestBody" .requestBodyRef Operation.requestBody,
    .table "responses" .responseRef Operation.responses,
    .optional "deprecated" .bool Operation.deprecated,
    .optional "security" (.list .securityRequirement) Operation.security,
    .table "callbacks" .value Operation.callbacks]
  extensions := Operation.extensions
  read := Operation.read?
  write := Operation.toJson
  distinct := by decide +kernel
  named := by decide +kernel
  inOrder_inOrder := Operation.ordered_ordered
  becomes := by simp [Operation.ordered, Table.map_id']
  extensions_inOrder _ := rfl
  read_iff t x := by
    cases x
    unfold Operation.read?
    simp [Layout.Reads, ↓andThen_eq_some_iff, and_assoc]
  write_eq x := by simp [Operation.toJson, Layout.members]

/-- Operations. -/
@[simps! -fullyApplied read write inOrder]
def Codec.operation : Codec Operation := .open Operation.record

lemma Operation.toJson_ne_null (op : Operation) : op.toJson ≠ .null := record.write_ne_null op

lemma Codec.sound_operation {k : Soundness} {op : Operation} : operation.Sound k op ↔
    (∀ p ∈ op.parameters, parameterRef.Sound k p) ∧
      (∀ b ∈ op.requestBody, requestBodyRef.Sound k b) ∧
      responseRef.table.Sound k op.responses ∧
      (∀ rs ∈ op.security, ∀ r ∈ rs, securityRequirement.Sound k r) ∧
      value.table.Sound k op.callbacks ∧
      (k = .tidy → Extensions.Tidy Operation.record.names op.extensions) := by
  simp [operation, Codec.open, Record.Sound, Layout.Sound, Operation.record,
    RequestBody.refJson_ne_null]
  tauto

/-- The operations of a path are written under the names of their methods. -/
lemma PathItem.map_operations (p : PathItem) :
    p.operations.map (fun (m, op) => (Text.asciiLower m.text, op.toJson)) =
      HttpMethod.all.flatMap fun m =>
        Json.member? (Text.asciiLower m.text) (p.operation? m) Operation.toJson := by
  rw [operations, List.map_filterMap, List.filterMap_eq_flatMap_toList]
  refine congrArg (HttpMethod.all.flatMap ·) (funext fun m => ?_)
  cases p.operation? m <;> rfl

/-- A path with its tables in order. -/
def PathItem.ordered (p : PathItem) : PathItem :=
  { p with
    parameters := p.parameters.map (Referable.mapInline Parameter.ordered)
    get := p.get.map Operation.ordered
    put := p.put.map Operation.ordered
    post := p.post.map Operation.ordered
    delete := p.delete.map Operation.ordered
    options := p.options.map Operation.ordered
    head := p.head.map Operation.ordered
    patch := p.patch.map Operation.ordered
    trace := p.trace.map Operation.ordered
    extensions := p.extensions.sortByKey }

@[simp] lemma PathItem.ordered_ordered (p : PathItem) : p.ordered.ordered = p.ordered := by
  simp [ordered, Function.comp_def]

/-- Paths. -/
@[simps -fullyApplied read write toLayout_inOrder]
def PathItem.record : Record PathItem where
  inOrder := PathItem.ordered
  names := ["summary", "description", "parameters", "get", "put", "post", "delete", "options",
    "head",
    "patch", "trace"]
  fields := [
    .optional "summary" .text PathItem.summary, .optional "description" .text PathItem.description,
    .list "parameters" .parameterRef PathItem.parameters, .optional "get" .operation PathItem.get,
    .optional "put" .operation PathItem.put, .optional "post" .operation PathItem.post,
    .optional "delete" .operation PathItem.delete, .optional "options" .operation PathItem.options,
    .optional "head" .operation PathItem.head, .optional "patch" .operation PathItem.patch,
    .optional "trace" .operation PathItem.trace]
  extensions := PathItem.extensions
  read := PathItem.read?
  write := PathItem.toJson
  distinct := by decide +kernel
  named := by decide +kernel
  inOrder_inOrder := PathItem.ordered_ordered
  becomes := by simp [PathItem.ordered]
  extensions_inOrder _ := rfl
  read_iff t x := by
    cases x
    unfold PathItem.read?
    simp [Layout.Reads, ↓andThen_eq_some_iff, and_assoc]
  write_eq x := by
    rw [PathItem.toJson, PathItem.map_operations]
    simp only [Layout.members, HttpMethod.all, List.flatMap_cons, List.flatMap_nil,
      List.append_nil, List.append_assoc, Field.members_optional, Field.members_list,
      Codec.text_write, Codec.write_parameterRef, Codec.operation_write]
    rfl

/-- Paths. -/
@[simps! -fullyApplied read write inOrder]
def Codec.pathItem : Codec PathItem := .open PathItem.record

/-! ## Components and documents -/

/-- Components with their tables in order. -/
def Components.ordered (c : Components) : Components where
  schemas := (c.schemas.map Schema.orderedRef).sortByKey
  responses := (c.responses.map (ResponseRef.mapInline Response.ordered)).sortByKey
  parameters := (c.parameters.map (Referable.mapInline Parameter.ordered)).sortByKey
  samples := c.samples.sortByKey
  requestBodies := (c.requestBodies.map (Referable.mapInline RequestBody.ordered)).sortByKey
  headers := (c.headers.map (Referable.mapInline Header.ordered)).sortByKey
  securitySchemes := (c.securitySchemes.map SecurityScheme.ordered).sortByKey
  links := c.links.sortByKey
  callbacks := c.callbacks.sortByKey

@[simp] lemma Components.ordered_ordered (c : Components) : c.ordered.ordered = c.ordered := by
  simp [ordered]

/-- Components. -/
@[simps! -fullyApplied read write inOrder]
def Codec.components : Codec Components :=
  .closed
    { inOrder := Components.ordered
      names := ["schemas", "responses", "parameters", "examples", "requestBodies", "headers",
        "securitySchemes", "links", "callbacks"]
      fields := [
        .table "schemas" .schema Components.schemas,
        .table "responses" .responseRef Components.responses,
        .table "parameters" .parameterRef Components.parameters,
        .table "examples" .value Components.samples,
        .table "requestBodies" .requestBodyRef Components.requestBodies,
        .table "headers" .headerRef Components.headers,
        .table "securitySchemes" .securityScheme Components.securitySchemes,
        .table "links" .value Components.links, .table "callbacks" .value Components.callbacks]
      distinct := by decide +kernel
      named := by decide +kernel
      inOrder_inOrder := Components.ordered_ordered
      becomes := by simp [Components.ordered, Table.map_id'] }
    Components.read? Components.toJson
    (fun t x => by
      cases x
      unfold Components.read?
      simp [Layout.Reads, ↓andThen_eq_some_iff])
    fun x => by simp [Components.toJson, Layout.members]

lemma Components.toJson_ne_null (c : Components) : c.toJson ≠ .null := nofun

lemma Codec.sound_components {k : Soundness} {c : Components} : components.Sound k c ↔
    schema.table.Sound k c.schemas ∧ responseRef.table.Sound k c.responses ∧
      parameterRef.table.Sound k c.parameters ∧ value.table.Sound k c.samples ∧
      requestBodyRef.table.Sound k c.requestBodies ∧ headerRef.table.Sound k c.headers ∧
      securityScheme.table.Sound k c.securitySchemes ∧ value.table.Sound k c.links ∧
      value.table.Sound k c.callbacks := by
  simp only [components, Codec.closed, Layout.Sound, List.forall_mem_cons, Field.sound_table,
    List.not_mem_nil, false_imp_iff, implies_true, and_true]

/-- A document with its tables in order. -/
def Document.ordered (d : Document) : Document :=
  { d with
    servers := d.servers.map Server.ordered
    paths := (d.paths.map PathItem.ordered).sortByKey
    webhooks := (d.webhooks.map PathItem.ordered).sortByKey
    components := d.components.map Components.ordered
    security := d.security.map (List.map Table.sortByKey)
    extensions := d.extensions.sortByKey }

@[simp] lemma Document.ordered_ordered (d : Document) : d.ordered.ordered = d.ordered := by
  simp [ordered, Function.comp_def]

/-- Documents. -/
@[simps -fullyApplied read write toLayout_inOrder]
def Document.record : Record Document where
  inOrder := Document.ordered
  names := ["openapi", "info", "servers", "paths", "webhooks", "components", "tags", "security",
    "externalDocs"]
  fields := [
    .required "openapi" .text Document.openapi, .required "info" .info Document.info,
    .list "servers" .server Document.servers, .table "paths" .pathItem Document.paths,
    .table "webhooks" .pathItem Document.webhooks,
    .optional "components" .components Document.components, .list "tags" .tag Document.tags,
    .optional "security" (.list .securityRequirement) Document.security,
    .optional "externalDocs" .value Document.externalDocs]
  extensions := Document.extensions
  read := Document.ofTree?
  write := Document.toJson
  distinct := by decide +kernel
  named := by decide +kernel
  inOrder_inOrder := Document.ordered_ordered
  becomes := by simp [Document.ordered]
  extensions_inOrder _ := rfl
  read_iff t x := by
    cases x
    unfold Document.ofTree?
    simp [Layout.Reads, ↓andThen_eq_some_iff, and_assoc]
  write_eq x := by simp [Document.toJson, Layout.members]

/-- Documents. -/
@[simps! -fullyApplied read write inOrder]
def Codec.document : Codec Document := .open Document.record

lemma Codec.sound_document {k : Soundness} {d : Document} : document.Sound k d ↔
    info.Sound k d.info ∧ (∀ s ∈ d.servers, server.Sound k s) ∧ pathItem.table.Sound k d.paths ∧
      pathItem.table.Sound k d.webhooks ∧ (∀ c ∈ d.components, components.Sound k c) ∧
      (∀ t ∈ d.tags, tag.Sound k t) ∧
      (∀ rs ∈ d.security, ∀ r ∈ rs, securityRequirement.Sound k r) ∧
      (∀ v ∈ d.externalDocs, value.Sound k v ∧ (k = .tidy → v ≠ .null)) ∧
      (k = .tidy → Extensions.Tidy Document.record.names d.extensions) := by
  simp [document, Codec.open, Record.Sound, Layout.Sound, Document.record,
    Components.toJson_ne_null]
  tauto

/-! ## Shapes of sound things -/

open Schema

variable {α β : Type}

/-- What is asked of a record is something about the parts that have schemas, and something that
does not depend on them. -/
def Lens.Splits (l : Lens β α) (S : Soundness → β → Prop) (parts : Soundness → α → Prop)
    (empty : α) : Prop :=
  ∀ k y, S k y ↔ parts k (l.get y) ∧ S k (l.set y empty)

variable [HasSchemas α] [HasSchemas β]

/-- A thing with the same schema in all of its places. -/
def blank (x : α) : α := mapSchemas (fun _ => .ref "") x

namespace Soundness

/-- What is asked of a thing that may be missing. -/
def option (S : Soundness → α → Prop) (k : Soundness) (o : Option α) : Prop := ∀ x ∈ o, S k x

/-- What is asked of two things. -/
def prod (S : Soundness → α → Prop) (T : Soundness → β → Prop) (k : Soundness) (x : α × β) : Prop :=
  S k x.1 ∧ T k x.2

/-- A kind of soundness asks of the schemas of a thing that all of them are sound, and does not
depend on them otherwise. -/
def Separable (S : Soundness → α → Prop) : Prop :=
  ∀ k x, S k x ↔ S k (blank x) ∧ EverySchema (Every (SoundNode k)) x

namespace Separable

variable {S : Soundness → α → Prop} {T : Soundness → β → Prop} {k : Soundness}

/-- **A thing of the same shape is sound** if all of its schemas are. -/
theorem of_sameShape (hS : Separable S) {x y : α} (h : SameShape x y) (hx : S k x)
    (hy : EverySchema (Every (SoundNode k)) y) : S k y := by
  have hblank : blank x = blank y := h
  exact (hS k y).2 ⟨hblank ▸ ((hS k x).1 hx).1, hy⟩

lemma everySchema (hS : Separable S) {x : α} (hx : S k x) :
    EverySchema (Every (SoundNode k)) x :=
  ((hS k x).1 hx).2

/-- A thing stays sound if other sound schemas take the places of its schemas. -/
lemma mapSchemas (hS : Separable S) {f : SchemaRef → SchemaRef} {x : α} (hx : S k x)
    (hf : ∀ r ∈ schemas x, Every (SoundNode k) (f r)) : S k (mapSchemas f x) := by
  refine hS.of_sameShape (mapSchemas_mapSchemas f (fun _ => .ref "") x).symm hx fun r hr => ?_
  rw [schemas_mapSchemas] at hr
  obtain ⟨q, hq, rfl⟩ := List.mem_map.1 hr
  exact hf q hq

/-! ## Collections -/

lemma ref : Separable fun k (r : SchemaRef) => Every (SoundNode k) r :=
  fun _ _ => ⟨fun h => ⟨.ref "", EverySchema.ref_iff.2 h⟩, fun h => EverySchema.ref_iff.1 h.2⟩

lemma option (hS : Separable S) : Separable (option S) := by
  intro k o
  rw [EverySchema.option_iff]
  cases o with
  | none => simp [Soundness.option, blank, HasSchemas.mapSchemas]
  | some x =>
    simp only [Soundness.option, Option.mem_some, forall_eq']
    exact (hS k x).trans (and_congr_left' (by simp [blank, HasSchemas.mapSchemas]))

lemma list (hS : Separable S) : Separable fun k (xs : List α) => ∀ x ∈ xs, S k x := by
  intro k xs
  beta_reduce
  have hmap : (∀ x ∈ blank xs, S k x) ↔ ∀ x ∈ xs, S k (blank x) := List.forall_mem_map
  rw [EverySchema.list_iff, hmap, ← forall₂_and]
  exact forall₂_congr fun x _ => hS k x

lemma table (hS : Separable S) :
    Separable fun k (t : Table α) => (k = .tidy → t.keys.Nodup) ∧ ∀ v ∈ t.values, S k v := by
  intro k t
  beta_reduce
  have hkeys : (blank t).keys = t.keys := Table.keys_map _ t
  have hvalues : (blank t).values = blank t.values := Table.values_map _ t
  rw [hkeys, hvalues, and_assoc]
  exact and_congr_right' (hS.list k t.values)

lemma prod (hS : Separable S) (hT : Separable T) : Separable (prod S T) := by
  intro k x
  rw [EverySchema.prod_iff, Soundness.prod, hS k x.1, hT k x.2]
  exact and_and_and_comm

lemma referable (hS : Separable S) :
    Separable fun k (r : Referable α) => Soundness.option S k r.inline? := by
  intro k r
  beta_reduce
  rw [EverySchema.referable_iff, hS.option k r.inline?, EverySchema.option_iff]
  cases r <;> rfl

lemma responseRef {S : Soundness → Response → Prop} (hS : Separable S) :
    Separable fun k (r : ResponseRef) => Soundness.option S k r.target.inline? := by
  intro k r
  beta_reduce
  rw [EverySchema.responseRef_iff, hS.option k r.target.inline?, EverySchema.option_iff]
  cases r <;> rfl

/-! ## Records -/

omit [HasSchemas β] in
lemma along {l : Lens β α} {T : Soundness → β → Prop} {empty : α} (h : l.Splits T S empty)
    (hS : Separable S) : @Separable β (.along l) T := by
  let : HasSchemas β := .along l
  intro k y
  have hset : l.set (blank y) empty = l.set y empty := l.set_set y _ empty
  have hget : l.get (blank y) = blank (l.get y) := l.get_set y _
  rw [h k y, h k (blank y), hset, hget, hS k (l.get y), and_right_comm]
  rfl

end Separable

end Soundness

/-! ## Shapes of parts -/

open Soundness

namespace Codec

lemma splits_mediaType :
    MediaType.lens.Splits mediaType.Sound (option schema.Sound) none := by
  intro k x
  simp [Soundness.option, mediaType, Codec.open, Record.Sound, Layout.Sound, MediaType.record,
    MediaType.lens, refJson_ne_null]
  tauto

lemma separable_mediaType : Separable mediaType.Sound := .along splits_mediaType (.option .ref)

lemma splits_parameter : Parameter.lens.Splits Parameter.record.SoundInline
    (prod (option schema.Sound) mediaType.table.Sound) (none, {}) := by
  intro k x
  simp [Soundness.option, Soundness.prod, Record.SoundInline, Record.Sound, Layout.Sound,
    Parameter.record, Parameter.lens, refJson_ne_null]
  tauto

lemma separable_parameterRef : Separable parameterRef.Sound :=
  .referable (.along splits_parameter (.prod (.option .ref) (.table separable_mediaType)))

lemma splits_requestBody : RequestBody.lens.Splits RequestBody.record.SoundInline
    mediaType.table.Sound {} := by
  intro k x
  simp [Record.SoundInline, Record.Sound, Layout.Sound, RequestBody.record, RequestBody.lens]
  tauto

lemma separable_requestBodyRef : Separable requestBodyRef.Sound :=
  .referable (.along splits_requestBody (.table separable_mediaType))

lemma splits_header : Header.lens.Splits Header.record.SoundInline (option schema.Sound) none := by
  intro k x
  simp [Soundness.option, Record.SoundInline, Record.Sound, Layout.Sound, Header.record,
    Header.lens, refJson_ne_null]
  tauto

lemma separable_headerRef : Separable headerRef.Sound :=
  .referable (.along splits_header (.option .ref))

lemma splits_response : Response.lens.Splits Response.record.SoundInline
    (prod mediaType.table.Sound headerRef.table.Sound) ({}, {}) := by
  intro k x
  simp [Soundness.prod, Record.SoundInline, Record.Sound, Layout.Sound, Response.record,
    Response.lens]
  tauto

lemma separable_responseRef : Separable responseRef.Sound :=
  .responseRef
    (.along splits_response (.prod (.table separable_mediaType) (.table separable_headerRef)))

/-! ## Shapes of documents -/

lemma splits_operation : Operation.lens.Splits operation.Sound
    (prod parameterRef.list.Sound (prod (option requestBodyRef.Sound) responseRef.table.Sound))
      ([], none, {}) := by
  intro k x
  simp [Soundness.option, Soundness.prod, operation, Codec.open, Record.Sound, Layout.Sound,
    Operation.record, Operation.lens, RequestBody.refJson_ne_null]
  tauto

lemma separable_operation : Separable operation.Sound :=
  .along splits_operation (.prod (.list separable_parameterRef)
    (.prod (.option separable_requestBodyRef) (.table separable_responseRef)))

lemma splits_pathItem :
    let op := option operation.Sound
    PathItem.lens.Splits pathItem.Sound (prod parameterRef.list.Sound
      (prod op (prod op (prod op (prod op (prod op (prod op (prod op op))))))))
        ([], none, none, none, none, none, none, none, none) := by
  intro op k x
  simp [op, Soundness.option, Soundness.prod, pathItem, Codec.open, Record.Sound, Layout.Sound,
    PathItem.record, PathItem.lens, Operation.toJson_ne_null]

lemma separable_pathItem : Separable pathItem.Sound := by
  have hop : Separable (option operation.Sound) := .option separable_operation
  exact .along splits_pathItem (.prod (.list separable_parameterRef)
    (hop.prod (hop.prod (hop.prod (hop.prod (hop.prod (hop.prod (hop.prod hop))))))))

lemma splits_components : Components.lens.Splits components.Sound
    (prod schema.table.Sound (prod responseRef.table.Sound (prod parameterRef.table.Sound
      (prod requestBodyRef.table.Sound headerRef.table.Sound)))) ({}, {}, {}, {}, {}) := by
  intro k x
  simp only [Soundness.prod, components, Codec.closed, Layout.Sound, Components.lens,
    List.forall_mem_cons, Field.sound_table, Field.sound_empty, true_and]
  tauto

lemma separable_components : Separable components.Sound :=
  .along splits_components (.prod (.table .ref) (.prod (.table separable_responseRef)
    (.prod (.table separable_parameterRef) (.prod (.table separable_requestBodyRef)
      (.table separable_headerRef)))))

lemma splits_document : Document.lens.Splits document.Sound
    (prod (option components.Sound) (prod pathItem.table.Sound pathItem.table.Sound))
      (none, {}, {}) := by
  intro k x
  simp [Soundness.option, Soundness.prod, document, Codec.open, Record.Sound, Layout.Sound,
    Document.record, Document.lens, Components.toJson_ne_null]
  tauto

/-- **Soundness of documents is separable.** -/
theorem separable_document : Separable document.Sound :=
  .along splits_document (.prod (.option separable_components)
    (.prod (.table separable_pathItem) (.table separable_pathItem)))

end Codec

end ApiLowering
