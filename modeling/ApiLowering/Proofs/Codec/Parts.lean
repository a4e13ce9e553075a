import ApiLowering.Document.Reader
import ApiLowering.Document.Writer
import ApiLowering.Proofs.Codec.Schemas
import ApiLowering.Proofs.Document.Schemas

/-!
# The codecs of the parts of a document

The codecs of what a document is made of: information about the API, contents, parameters, bodies,
responses and security schemes. Each of them is a layout: the fields in the order in which they are
read, and what the part is with its tables in order.

A response is different from other things that may be references: a description beside a textual
`$ref` is not one of its unknown fields, but a description of the reference.

## Main definitions

* `Codec.info`, `Codec.server`, `Codec.tag` — what stands at the beginning of a document.
* `Codec.mediaType`, `Codec.parameterRef`, `Codec.requestBodyRef`, `Codec.headerRef`,
  `Codec.responseRef` — what operations take and answer.
* `Codec.securityScheme`, `Codec.securityRequirement` — security.
-/

namespace ApiLowering

/-! ## Information -/

/-- Contact information. -/
@[simps! -fullyApplied read write inOrder]
def Codec.contact : Codec Contact :=
  .closed
    { inOrder := fun x => x
      names := ["name", "url", "email"]
      fields := [
        .optional "name" .text Contact.name, .optional "url" .text Contact.url,
        .optional "email" .text Contact.email]
      distinct := by decide +kernel
      named := by decide +kernel
      inOrder_inOrder _ := rfl
      becomes := by simp }
    Contact.read? Contact.toJson
    (fun t x => by
      cases x
      simp [Contact.read?, Layout.Reads, Option.bind_eq_some_iff])
    fun x => by simp [Contact.toJson, Layout.members]

/-- Licences. -/
@[simps! -fullyApplied read write inOrder]
def Codec.license : Codec License :=
  .closed
    { inOrder := fun x => x
      names := ["name", "url"]
      fields := [
        .required "name" .text License.name, .optional "url" .text License.url]
      distinct := by decide +kernel
      named := by decide +kernel
      inOrder_inOrder _ := rfl
      becomes := by simp }
    License.read? License.toJson
    (fun t x => by
      cases x
      simp [License.read?, Layout.Reads, Option.bind_eq_some_iff])
    fun x => by simp [License.toJson, Layout.members]

/-- What an API is. -/
@[simps! -fullyApplied read write inOrder]
def Codec.info : Codec Info :=
  .closed
    { inOrder := fun x => x
      names := ["title", "description", "version", "termsOfService", "contact", "license"]
      fields := [
        .required "title" .text Info.title, .required "version" .text Info.version,
        .optional "description" .text Info.description,
        .optional "termsOfService" .text Info.termsOfService,
        .optional "contact" .contact Info.contact, .optional "license" .license Info.license]
      distinct := by decide +kernel
      named := by decide +kernel
      inOrder_inOrder _ := rfl
      becomes := by simp }
    Info.read? Info.toJson
    (fun t x => by
      cases x
      simp [Info.read?, Layout.Reads, Option.bind_eq_some_iff]
      exact exists_congr fun f => by tauto)
    fun x => by simp [Info.toJson, Layout.members]

/-- Variables of servers. -/
@[simps! -fullyApplied read write inOrder]
def Codec.serverVariable : Codec ServerVariable :=
  .closed
    { inOrder := fun x => x
      names := ["default", "description", "enum"]
      fields := [
        .required "default" .text ServerVariable.fallback,
        .optional "description" .text ServerVariable.description,
        .list "enum" .text ServerVariable.choices]
      distinct := by decide +kernel
      named := by decide +kernel
      inOrder_inOrder _ := rfl
      becomes := by simp }
    ServerVariable.read? ServerVariable.toJson
    (fun t x => by
      cases x
      simp [ServerVariable.read?, Layout.Reads, Option.bind_eq_some_iff])
    fun x => by simp [ServerVariable.toJson, Layout.members]

/-- A server with its variables in order. -/
def Server.ordered (s : Server) : Server :=
  { s with addressVariables := s.addressVariables.sortByKey }

@[simp] lemma Server.ordered_ordered (s : Server) : s.ordered.ordered = s.ordered := by
  simp [ordered]

/-- Servers. -/
@[simps! -fullyApplied read write inOrder]
def Codec.server : Codec Server :=
  .closed
    { inOrder := Server.ordered
      names := ["url", "description", "variables"]
      fields := [
        .required "url" .text Server.url, .optional "description" .text Server.description,
        .table "variables" .serverVariable Server.addressVariables]
      distinct := by decide +kernel
      named := by decide +kernel
      inOrder_inOrder := Server.ordered_ordered
      becomes := by simp [Server.ordered, Table.map_id'] }
    Server.read? Server.toJson
    (fun t x => by
      cases x
      simp [Server.read?, Layout.Reads, Option.bind_eq_some_iff])
    fun x => by simp [Server.toJson, Layout.members]

/-- Tags. -/
@[simps! -fullyApplied read write inOrder]
def Codec.tag : Codec Tag :=
  .closed
    { inOrder := fun x => x
      names := ["name", "description"]
      fields := [
        .required "name" .text Tag.name, .optional "description" .text Tag.description]
      distinct := by decide +kernel
      named := by decide +kernel
      inOrder_inOrder _ := rfl
      becomes := by simp }
    Tag.read? Tag.toJson
    (fun t x => by
      cases x
      simp [Tag.read?, Layout.Reads, Option.bind_eq_some_iff])
    fun x => by simp [Tag.toJson, Layout.members]

/-! ## Contents -/

/-- An encoding with its headers in order. -/
def Encoding.ordered (e : Encoding) : Encoding := { e with headers := e.headers.sortByKey }

@[simp] lemma Encoding.ordered_ordered (e : Encoding) : e.ordered.ordered = e.ordered := by
  simp [ordered]

/-- Encodings. -/
@[simps! -fullyApplied read write inOrder]
def Codec.encoding : Codec Encoding :=
  .closed
    { inOrder := Encoding.ordered
      names := ["contentType", "headers", "style", "explode"]
      fields := [
        .optional "contentType" .text Encoding.contentType,
        .table "headers" .value Encoding.headers, .optional "style" .text Encoding.style,
        .optional "explode" .bool Encoding.explode]
      distinct := by decide +kernel
      named := by decide +kernel
      inOrder_inOrder := Encoding.ordered_ordered
      becomes := by simp [Encoding.ordered, Table.map_id'] }
    Encoding.read? Encoding.toJson
    (fun t x => by
      cases x
      simp [Encoding.read?, Layout.Reads, Option.bind_eq_some_iff])
    fun x => by simp [Encoding.toJson, Layout.members]

/-- A media type with its tables in order. -/
def MediaType.ordered (m : MediaType) : MediaType :=
  { m with
    schema := m.schema.map Schema.orderedRef
    encoding := (m.encoding.map Encoding.ordered).sortByKey
    samples := m.samples.sortByKey
    extensions := m.extensions.sortByKey }

@[simp] lemma MediaType.ordered_ordered (m : MediaType) : m.ordered.ordered = m.ordered := by
  simp [ordered, Function.comp_def]

/-- Media types. -/
@[simps -fullyApplied read write toLayout_inOrder]
def MediaType.record : Record MediaType where
  inOrder := MediaType.ordered
  names := ["schema", "encoding", "example", "examples"]
  fields := [
    .optional "schema" .schema MediaType.schema, .table "encoding" .encoding MediaType.encoding,
    .optional "example" .value MediaType.sample, .table "examples" .value MediaType.samples]
  extensions := MediaType.extensions
  read := MediaType.read?
  write := MediaType.toJson
  distinct := by decide +kernel
  named := by decide +kernel
  inOrder_inOrder := MediaType.ordered_ordered
  becomes := by simp [MediaType.ordered, Table.map_id']
  extensions_inOrder _ := rfl
  read_iff t x := by
    cases x
    unfold MediaType.read?
    simp [Layout.Reads, ↓andThen_eq_some_iff, and_assoc]
  write_eq x := by simp [MediaType.toJson, Layout.members]

/-- Media types. -/
@[simps! -fullyApplied read write inOrder]
def Codec.mediaType : Codec MediaType := .open MediaType.record

/-! ## Parameters and bodies -/

lemma ParameterLocation.ofText?_text (l : ParameterLocation) :
    ParameterLocation.ofText? l.text = some l := by
  cases l <;> rfl

/-- Locations of parameters. -/
@[simps! -fullyApplied read write inOrder]
def Codec.parameterLocation : Codec ParameterLocation :=
  .choice ParameterLocation.ofText? ParameterLocation.all ParameterLocation.text
    ParameterLocation.ofText?_text

@[simp] lemma Codec.sound_parameterLocation {k : Soundness} {l : ParameterLocation} :
    parameterLocation.Sound k l := trivial

/-- A parameter with its tables in order. -/
def Parameter.ordered (p : Parameter) : Parameter :=
  { p with
    schema := p.schema.map Schema.orderedRef
    content := (p.content.map MediaType.ordered).sortByKey
    samples := p.samples.sortByKey
    extensions := p.extensions.sortByKey }

@[simp] lemma Parameter.ordered_ordered (p : Parameter) : p.ordered.ordered = p.ordered := by
  simp [ordered, Function.comp_def]

/-- Parameters. -/
def Parameter.record : Record Parameter where
  inOrder := Parameter.ordered
  names := ["name", "in", "description", "required", "deprecated", "schema", "content", "style",
    "explode",
    "example", "examples"]
  fields := [
    .required "name" .text Parameter.name, .required "in" .parameterLocation Parameter.location,
    .always "required" .bool Parameter.required false fun _ => Codec.sound_bool,
    .optional "description" .text Parameter.description,
    .optional "deprecated" .bool Parameter.deprecated, .optional "schema" .schema Parameter.schema,
    .table "content" .mediaType Parameter.content, .optional "style" .text Parameter.style,
    .optional "explode" .bool Parameter.explode, .optional "example" .value Parameter.sample,
    .table "examples" .value Parameter.samples]
  extensions := Parameter.extensions
  read := Parameter.read?
  write := Parameter.toJson
  distinct := by decide +kernel
  named := by decide +kernel
  inOrder_inOrder := Parameter.ordered_ordered
  becomes := by simp [Parameter.ordered, Table.map_id']
  extensions_inOrder _ := rfl
  read_iff t x := by
    cases x
    unfold Parameter.read?
    simp [Layout.Reads, ↓andThen_eq_some_iff, -Bool.exists_bool]
    exact exists_congr fun f => by tauto
  write_eq x := by simp [Parameter.toJson, Layout.members]

/-- Parameters or references to them. -/
def Codec.parameterRef : Codec ParameterRef := .referable Parameter.record (by decide +kernel)

@[simp] lemma Codec.read_parameterRef : parameterRef.read = Parameter.readRef? := rfl

@[simp] lemma Codec.write_parameterRef : parameterRef.write = Parameter.refJson := rfl

@[simp] lemma Codec.inOrder_parameterRef :
    parameterRef.inOrder = Referable.mapInline Parameter.ordered := rfl

/-- A request body with its tables in order. -/
def RequestBody.ordered (b : RequestBody) : RequestBody :=
  { b with
    content := (b.content.map MediaType.ordered).sortByKey
    extensions := b.extensions.sortByKey }

@[simp] lemma RequestBody.ordered_ordered (b : RequestBody) : b.ordered.ordered = b.ordered := by
  simp [ordered]

/-- Request bodies. -/
def RequestBody.record : Record RequestBody where
  inOrder := RequestBody.ordered
  names := ["description", "content", "required"]
  fields := [
    .always "content" (.table .mediaType) RequestBody.content {} (Field.sound_empty _),
    .always "required" .bool RequestBody.required false fun _ => Codec.sound_bool,
    .optional "description" .text RequestBody.description]
  extensions := RequestBody.extensions
  read := RequestBody.read?
  write := RequestBody.toJson
  distinct := by decide +kernel
  named := by decide +kernel
  inOrder_inOrder := RequestBody.ordered_ordered
  becomes := by simp [RequestBody.ordered]
  extensions_inOrder _ := rfl
  read_iff t x := by
    cases x
    simp [RequestBody.read?, Layout.Reads, Option.bind_eq_some_iff, -Bool.exists_bool]
    exact exists_congr fun f => by tauto
  write_eq x := by simp [RequestBody.toJson, Layout.members]

/-- Request bodies or references to them. -/
def Codec.requestBodyRef : Codec RequestBodyRef := .referable RequestBody.record (by decide +kernel)

@[simp] lemma Codec.read_requestBodyRef : requestBodyRef.read = RequestBody.readRef? := rfl

@[simp] lemma Codec.write_requestBodyRef : requestBodyRef.write = RequestBody.refJson := rfl

@[simp] lemma Codec.inOrder_requestBodyRef :
    requestBodyRef.inOrder = Referable.mapInline RequestBody.ordered := rfl

lemma RequestBody.refJson_ne_null (b : RequestBodyRef) : refJson b ≠ .null :=
  record.toJson_ne_null b

/-! ## Responses -/

/-- A header with its tables in order. -/
def Header.ordered (h : Header) : Header :=
  { h with
    schema := h.schema.map Schema.orderedRef
    extensions := h.extensions.sortByKey }

@[simp] lemma Header.ordered_ordered (h : Header) : h.ordered.ordered = h.ordered := by
  simp [ordered, Function.comp_def]

/-- Headers. -/
def Header.record : Record Header where
  inOrder := Header.ordered
  names := ["description", "required", "deprecated", "schema", "example"]
  fields := [
    .always "required" .bool Header.required false fun _ => Codec.sound_bool,
    .optional "description" .text Header.description,
    .optional "deprecated" .bool Header.deprecated, .optional "schema" .schema Header.schema,
    .optional "example" .value Header.sample]
  extensions := Header.extensions
  read := Header.read?
  write := Header.toJson
  distinct := by decide +kernel
  named := by decide +kernel
  inOrder_inOrder := Header.ordered_ordered
  becomes := by simp [Header.ordered]
  extensions_inOrder _ := rfl
  read_iff t x := by
    cases x
    unfold Header.read?
    simp [Layout.Reads, ↓andThen_eq_some_iff, -Bool.exists_bool]
    exact exists_congr fun f => by tauto
  write_eq x := by simp [Header.toJson, Layout.members]

/-- Headers or references to them. -/
def Codec.headerRef : Codec HeaderRef := .referable Header.record (by decide +kernel)

@[simp] lemma Codec.read_headerRef : headerRef.read = Header.readRef? := rfl

@[simp] lemma Codec.write_headerRef : headerRef.write = Header.refJson := rfl

@[simp] lemma Codec.inOrder_headerRef :
    headerRef.inOrder = Referable.mapInline Header.ordered := rfl

/-- A response with its tables in order. -/
def Response.ordered (r : Response) : Response :=
  { r with
    content := (r.content.map MediaType.ordered).sortByKey
    headers := (r.headers.map (Referable.mapInline Header.ordered)).sortByKey
    links := r.links.sortByKey
    extensions := r.extensions.sortByKey }

@[simp] lemma Response.ordered_ordered (r : Response) : r.ordered.ordered = r.ordered := by
  simp [ordered]

/-- Responses. -/
def Response.record : Record Response where
  inOrder := Response.ordered
  names := ["description", "content", "headers", "links"]
  fields := [
    .always "description" .text Response.description "" fun _ => Codec.sound_text,
    .table "content" .mediaType Response.content, .table "headers" .headerRef Response.headers,
    .table "links" .value Response.links]
  extensions := Response.extensions
  read := Response.read?
  write := Response.toJson
  distinct := by decide +kernel
  named := by decide +kernel
  inOrder_inOrder := Response.ordered_ordered
  becomes := by simp [Response.ordered, Table.map_id']
  extensions_inOrder _ := rfl
  read_iff t x := by
    cases x
    unfold Response.read?
    simp [Layout.Reads, ↓andThen_eq_some_iff, and_assoc]
  write_eq x := by simp [Response.toJson, Layout.members]

namespace Response

lemma exists_of_reference? {es : List (Leaf × Tree)} {r : ResponseRef}
    (h : reference? es = some r) :
    ∃ path description, r = .ref path description := by
  simp only [reference?, Option.bind_eq_bind, Option.bind_eq_some_iff, Option.pure_def,
    Option.some.injEq] at h
  obtain ⟨f, -, path, -, description, -, rfl⟩ := h
  exact ⟨path, description, rfl⟩

/-- A written response is no reference exactly if none of its unknown fields is a textual one: a
description it has in any case. -/
lemma exists_members_reference? {r : Response} (h : record.Sound .tidy r) :
    ∃ es, r.toJson = .members es ∧
      (reference? (Tree.ofMembers es) = none ↔ Extensions.Straight r.extensions) := by
  obtain ⟨es, hes, hnodup, hknown, href⟩ := Record.exists_members (by decide +kernel) h
  have hdescription : Json.lookup "description" es = some (.string r.description) :=
    hknown _ (by decide +kernel)
  have hstraight : Extensions.Straight r.extensions ↔ _ :=
    Extensions.straight_iff (h.2 rfl).distinct
  have hfields := Fields.ofEntries?_ofMembers ["$ref", "description"] es
  rw [if_pos (hnodup.sublist (List.filter_sublist.map _))] at hfields
  refine ⟨es, hes, ?_⟩
  rw [hstraight, reference?, Fields.ofRecord?_ofMembers, hfields, Option.bind_eq_bind,
    Option.bind_some, Fields.required?, Fields.optional?,
    Fields.get?_ofMembers hfields (by decide), Fields.get?_ofMembers hfields (by decide),
    hdescription, href]
  change (((Json.lookup "$ref" r.extensions.entries).map Tree.ofJson).bind _).bind _ = none ↔ _
  cases Json.lookup "$ref" r.extensions.entries with
  | none => exact iff_of_true rfl rfl
  | some v =>
    cases v with
    | string path => exact iff_of_false (Option.some_ne_none _) (Option.some_ne_none _)
    | _ => exact iff_of_true rfl rfl

/-- What is read as a response where a reference may stand is no reference. -/
lemma soundInline_of_read {k : Soundness} {es : List (Leaf × Tree)} {r : Response}
    (ht : (Tree.record es).Sound k) (hreference : reference? es = none)
    (hr : read? (.record es) = some r) : record.SoundInline k r := by
  refine ⟨Record.sound_of_read ht hr, ?_⟩
  rintro rfl path hmem
  obtain ⟨f, hf, hreads, hextensions⟩ := (record.read_iff _ r).1 hr
  obtain ⟨ps, rfl, hnodup, hpath⟩ := Fields.exists_named_of_stray ht hf hextensions hmem
  obtain ⟨g, hg, hpositional, hget⟩ :=
    Fields.exists_ofEntries?_named hnodup ["$ref", "description"]
  have hdescription : ∃ d, g.optional? "description" Tree.text? = some d := by
    rw [Fields.optional?]
    cases hu : g.get? "description" with
    | none => exact ⟨none, if_neg (by rw [hpositional]; decide)⟩
    | some u =>
      -- the response was read with the same description
      obtain ⟨fields, hfields, -, hanswer⟩ := Fields.exists_ofEntries?_named hnodup record.names
      obtain rfl : fields = f := Option.some.inj (hfields.symm.trans hf)
      have hknown := (hanswer "description" (by decide +kernel) u).1 ((hget _ (by decide) u).2 hu)
      have hread : fields.defaulted? "description" Tree.text? "" = some r.description :=
        hreads _ List.mem_cons_self
      rw [Fields.defaulted?, hknown] at hread
      have hread : u.text? = some r.description := hread
      refine ⟨some r.description, ?_⟩
      simp only [(Fields.sound_of_ofEntries? ht hf hknown).isNull?_of_text? hread,
        Option.bind_eq_bind, Option.bind_some, hread]
      rfl
  obtain ⟨d, hd⟩ := hdescription
  rw [reference?, Fields.ofRecord?_named, hg, Option.bind_eq_bind, Option.bind_some,
    Fields.required?, (hget _ List.mem_cons_self _).1 hpath, hd] at hreference
  cases hreference

end Response

@[simp] lemma ResponseRef.mapInline_mapInline {f : Response → Response} (hf : ∀ r, f (f r) = f r)
    (r : ResponseRef) : (r.mapInline f).mapInline f = r.mapInline f := by
  cases r with
  | ref path description => rfl
  | inline r => exact congrArg ResponseRef.inline (hf r)

/-- Responses or references to them. -/
@[simps! -fullyApplied read write inOrder]
def Codec.responseRef : Codec ResponseRef where
  read := Response.readRef?
  write := Response.refJson
  inOrder := ResponseRef.mapInline Response.ordered
  Sound k r := ∀ x ∈ r.target.inline?, Response.record.SoundInline k x
  reads_iff {r} h := by
    cases r with
    | ref path description =>
      refine iff_of_true ?_ fun y hy => (Option.not_mem_none y hy).elim
      cases description with
      | none => rfl
      | some d =>
        have hentered : Json.entered [("$ref", .string path), ("description", .string d)] =
            [("$ref", .string path), ("description", .string d)] := by
          refine Json.entered_of_increasing
            (.cons (List.forall_mem_singleton.2 ?_) (List.pairwise_singleton _ _))
          change "$ref" < "description"
          decide
        rw [Response.refJson, Json.object_eq, Json.member?, List.singleton_append, hentered]
        rfl
    | inline y =>
      have hy := h y rfl
      obtain ⟨es, hes, hreference⟩ := Response.exists_members_reference? hy.1
      have hread := Record.reads_iff hy.1
      change Response.read? (.ofJson y.toJson) = some y.ordered ↔ _ at hread
      rw [hes, Tree.ofJson] at hread
      rw [Response.refJson, hes, Response.readRef?, Tree.settle?_ofJson, Tree.ofJson]
      dsimp only
      cases hp : Response.reference? (Tree.ofMembers es) with
      | some r =>
        obtain ⟨path, description, rfl⟩ := Response.exists_of_reference? hp
        refine iff_of_false nofun fun hstraight => ?_
        cases hp.symm.trans (hreference.2 ((hstraight y rfl).2 rfl))
      | none =>
        have hinline : (∀ z ∈ (ResponseRef.inline y).target.inline?,
            Response.record.SoundInline .straight z) ↔ Response.record.Sound .straight y :=
          ⟨fun h => (h y rfl).1,
            fun h z hz => Option.some.inj hz ▸ ⟨h, fun _ => hreference.1 hp⟩⟩
        rw [hinline, ← hread, Option.map_eq_some_iff]
        exact ⟨fun ⟨z, hz, heq⟩ => ResponseRef.inline.inj heq ▸ hz, fun hz => ⟨_, hz, rfl⟩⟩
  sound_of_read {k t r} ht hr x hx := by
    rw [Response.readRef?] at hr
    split at hr
    · rename_i es hes
      split at hr
      · rename_i q hq
        obtain ⟨path, description, rfl⟩ := Response.exists_of_reference? hq
        cases hr
        cases hx
      · rename_i hreference
        obtain ⟨z, hz, rfl⟩ := Option.map_eq_some_iff.1 hr
        cases hx
        exact Response.soundInline_of_read (ht.settle? hes) hreference hz
    · cases hr
  inOrder_inOrder := ResponseRef.mapInline_mapInline Response.ordered_ordered
  straight_inOrder {r} := by
    cases r with
    | ref path description => exact .rfl
    | inline y =>
      have hy : Response.record.SoundInline .straight y.ordered ↔ _ := Record.soundInline_inOrder
      simp [ResponseRef.mapInline, ResponseRef.target, Referable.inline?, hy]
  tidy_write {r} h := by
    cases r with
    | ref path description =>
      refine Json.tidy_object (List.forall_mem_append.2 ⟨?_, ?_⟩)
      · exact List.forall_mem_singleton.2 (.string path)
      · exact Json.tidy_member? fun d _ => .string d
    | inline x => exact Record.tidy_write (h x rfl).1
  isNull_of_write {k t r} _ _ hnull := by
    cases r with
    | ref path description => cases hnull
    | inline x => exact absurd hnull (Response.record.write_ne_null x)

/-- Any description of a response will do. -/
lemma Response.soundInline_description {k : Soundness} {r : Response} {description : String} :
    record.SoundInline k { r with description } ↔ record.SoundInline k r := by
  simp [Record.SoundInline, Record.Sound, Layout.Sound, record]

/-! ## Security -/

lemma SecurityKind.ofText?_text (x : SecurityKind) : SecurityKind.ofText? x.text = some x := by
  cases x <;> rfl

/-- Kinds of security schemes. -/
@[simps! -fullyApplied read write inOrder]
def Codec.securityKind : Codec SecurityKind :=
  .choice SecurityKind.ofText? SecurityKind.all SecurityKind.text SecurityKind.ofText?_text

lemma KeyLocation.ofText?_text (x : KeyLocation) : KeyLocation.ofText? x.text = some x := by
  cases x <;> rfl

/-- Locations of keys. -/
@[simps! -fullyApplied read write inOrder]
def Codec.keyLocation : Codec KeyLocation :=
  .choice KeyLocation.ofText? KeyLocation.all KeyLocation.text KeyLocation.ofText?_text

/-- A way to get a token with its scopes in order. -/
def OAuthFlow.ordered (f : OAuthFlow) : OAuthFlow := { f with scopes := f.scopes.sortByKey }

@[simp] lemma OAuthFlow.ordered_ordered (f : OAuthFlow) : f.ordered.ordered = f.ordered := by
  simp [ordered]

/-- Ways to get a token. -/
@[simps! -fullyApplied read write inOrder]
def Codec.oauthFlow : Codec OAuthFlow :=
  .closed
    { inOrder := OAuthFlow.ordered
      names := ["authorizationUrl", "tokenUrl", "refreshUrl", "scopes"]
      fields := [
        .always "scopes" (.table .text) OAuthFlow.scopes {} (Field.sound_empty _),
        .optional "authorizationUrl" .text OAuthFlow.authorizationUrl,
        .optional "tokenUrl" .text OAuthFlow.tokenUrl,
        .optional "refreshUrl" .text OAuthFlow.refreshUrl]
      distinct := by decide +kernel
      named := by decide +kernel
      inOrder_inOrder := OAuthFlow.ordered_ordered
      becomes := by simp [OAuthFlow.ordered, Table.map_id'] }
    OAuthFlow.read? OAuthFlow.toJson
    (fun t x => by
      cases x
      simp [OAuthFlow.read?, Layout.Reads, Option.bind_eq_some_iff]
      exact exists_congr fun f => by tauto)
    fun x => by simp [OAuthFlow.toJson, Layout.members]

/-- The ways to get a token with their scopes in order. -/
def OAuthFlows.ordered (f : OAuthFlows) : OAuthFlows where
  implicit := f.implicit.map OAuthFlow.ordered
  password := f.password.map OAuthFlow.ordered
  clientCredentials := f.clientCredentials.map OAuthFlow.ordered
  authorizationCode := f.authorizationCode.map OAuthFlow.ordered

@[simp] lemma OAuthFlows.ordered_ordered (f : OAuthFlows) : f.ordered.ordered = f.ordered := by
  simp [ordered, Function.comp_def]

/-- The ways to get a token. -/
@[simps! -fullyApplied read write inOrder]
def Codec.oauthFlows : Codec OAuthFlows :=
  .closed
    { inOrder := OAuthFlows.ordered
      names := ["implicit", "password", "clientCredentials", "authorizationCode"]
      fields := [
        .optional "implicit" .oauthFlow OAuthFlows.implicit,
        .optional "password" .oauthFlow OAuthFlows.password,
        .optional "clientCredentials" .oauthFlow OAuthFlows.clientCredentials,
        .optional "authorizationCode" .oauthFlow OAuthFlows.authorizationCode]
      distinct := by decide +kernel
      named := by decide +kernel
      inOrder_inOrder := OAuthFlows.ordered_ordered
      becomes := by simp [OAuthFlows.ordered] }
    OAuthFlows.read? OAuthFlows.toJson
    (fun t x => by
      cases x
      simp [OAuthFlows.read?, Layout.Reads, Option.bind_eq_some_iff])
    fun x => by simp [OAuthFlows.toJson, OAuthFlows.named, Layout.members]

/-- A security scheme with its tables in order. -/
def SecurityScheme.ordered (s : SecurityScheme) : SecurityScheme :=
  { s with flows := s.flows.map OAuthFlows.ordered }

@[simp] lemma SecurityScheme.ordered_ordered (s : SecurityScheme) :
    s.ordered.ordered = s.ordered := by
  simp [ordered, Function.comp_def]

/-- Security schemes. -/
@[simps! -fullyApplied read write inOrder]
def Codec.securityScheme : Codec SecurityScheme :=
  .closed
    { inOrder := SecurityScheme.ordered
      names := ["type", "description", "name", "in", "scheme", "bearerFormat", "flows",
        "openIdConnectUrl"]
      fields := [
        .required "type" .securityKind SecurityScheme.kind,
        .optional "description" .text SecurityScheme.description,
        .optional "name" .text SecurityScheme.name,
        .optional "in" .keyLocation SecurityScheme.location,
        .optional "scheme" .text SecurityScheme.scheme,
        .optional "bearerFormat" .text SecurityScheme.bearerFormat,
        .optional "flows" .oauthFlows SecurityScheme.flows,
        .optional "openIdConnectUrl" .text SecurityScheme.openIdConnectUrl]
      distinct := by decide +kernel
      named := by decide +kernel
      inOrder_inOrder := SecurityScheme.ordered_ordered
      becomes := by simp [SecurityScheme.ordered] }
    SecurityScheme.read? SecurityScheme.toJson
    (fun t x => by
      cases x
      simp [SecurityScheme.read?, Layout.Reads, Option.bind_eq_some_iff])
    fun x => by simp [SecurityScheme.toJson, Layout.members]

/-- Security requirements. -/
def Codec.securityRequirement : Codec SecurityRequirement := .table (.list .text)

@[simp] lemma Codec.read_securityRequirement : securityRequirement.read =
    SecurityRequirement.read? :=
  rfl

@[simp] lemma Codec.write_securityRequirement :
    securityRequirement.write = SecurityRequirement.toJson := rfl

@[simp] lemma Codec.inOrder_securityRequirement :
    securityRequirement.inOrder = Table.sortByKey := by
  funext r
  change (r.map (List.map fun x => x)).sortByKey = r.sortByKey
  rw [List.map_id_fun']
  exact congrArg Table.sortByKey (Table.map_id' r)

end ApiLowering
