import ApiLowering.Lowered
import ApiLowering.Proofs.Run.Steps
import ApiLowering.Proofs.Types.Spelling

/-!
# Passes that add to the session

Every pass is put together from steps that only add to the session, and so it does the same. What a
run knows at its start, it knows at its end: in particular the packages of types.

## Main results

* `Resolver.grows_resolve`, `Resolver.grows_property` — types and properties.
* `Resolver.grows_lowerModels`, `Resolver.grows_rawEndpoints` — models and declared endpoints.
* `Setup.grows_lower` — the whole run.
-/

namespace ApiLowering

open Lowering

namespace Setup

variable (setup : Setup)

/-! ## Preparation -/

@[simp] lemma grows_prepare (d : Document) : Grows (setup.prepare d) := by
  rw [prepare, canonicalDocument]
  refine grows_bind (grows_bind (by simp) fun _ => grows_bind (by simp) fun _ => ?_) fun _ => ?_
  · exact grows_pure _
  · exact grows_pure _

@[simp] lemma grows_build (c : Components) : Grows (ModelTable.build setup c) := by
  rw [ModelTable.build]
  refine grows_foldlM ?_ _ _
  rintro models ⟨key, r⟩
  cases r with
  | ref path => simp
  | inline s =>
    dsimp only
    split <;> simp

end Setup

/-! ## Types -/

namespace Resolver

variable (r : Resolver)

@[simp] lemma grows_wordType (key openApiType : String) : Grows (r.wordType key openApiType) := by
  simp [wordType]

@[simp] lemma grows_textType (format : String) : Grows (r.textType format) := by
  simp [textType]

@[simp] lemma grows_plainType (s : Schema) : Grows (r.plainType s) := by
  rw [plainType]
  split <;> simp

@[simp] lemma grows_arrayType (s : Schema) (items : ResolvedType) :
    Grows (r.arrayType s items) := by
  simp [arrayType]

@[simp] lemma grows_mapType (values : ResolvedType) : Grows (r.mapType values) := by
  simp [mapType]

@[simp] lemma grows_overridden (s : Schema) (t : ResolvedType) : Grows (r.overridden s t) := by
  rw [overridden]
  split <;> simp

section

variable {r} {lookup : String → Lowering ResolvedType} (hlookup : ∀ path, Grows (lookup path))
include hlookup

/-- The type of a schema, if resolving its children adds to the session. -/
lemma grows_schemaType {s : Schema} (hchildren : ∀ ref ∈ s.children, Grows (r.typeOf lookup ref)) :
    Grows (r.schemaType lookup s) := by
  rw [schemaType_eq]
  refine grows_bind ?_ (r.grows_overridden s)
  split
  · exact hlookup _
  · split_ifs
    · simp
    · simp
    · refine grows_bind ?_ fun items => r.grows_arrayType s items
      cases hitems : s.items with
      | none => simp [itemsType]
      | some ref =>
        rw [itemsType]
        exact hchildren ref (Schema.mem_children.2 (.inr (.inl hitems)))
    · rcases hadditional : s.additional with - | ⟨- | -⟩ | ⟨ref⟩ <;> simp only [valuesType]
      · simp
      · simp
      · simp
      · refine grows_bind (hchildren ref ?_) fun values => r.grows_mapType values
        exact Schema.mem_children.2 (.inr (.inr (.inl hadditional)))
    · simp

lemma grows_typeOf (ref : SchemaRef) : Grows (r.typeOf lookup ref) := by
  induction ref using Schema.ref_induction with
  | ref path =>
    rw [typeOf]
    exact hlookup path
  | inline schema ih =>
    rw [typeOf]
    exact grows_schemaType hlookup ih

end

lemma grows_pathType (depth : Nat) : ∀ path, Grows (r.pathType depth path) := by
  induction depth with
  | zero => exact fun path => grows_throw _
  | succ depth ih =>
    intro path
    rw [pathType]
    refine grows_bind (grows_lift _) fun key => ?_
    split
    · exact grows_pure _
    · refine grows_bind (grows_lift _) ?_
      rintro ⟨last, target⟩
      dsimp only
      split
      · exact grows_pure _
      · exact grows_schemaType ih fun ref _ => grows_typeOf ih ref

@[simp] lemma grows_resolve (ref : SchemaRef) : Grows (r.resolve ref) :=
  grows_typeOf (r.grows_pathType r.depth) ref

@[simp] lemma grows_resolveSchema (s : Schema) : Grows (r.resolveSchema s) :=
  grows_schemaType (r.grows_pathType r.depth)
    fun ref _ => grows_typeOf (r.grows_pathType r.depth) ref

end Resolver

/-! ## Properties -/

namespace Setup

variable (setup : Setup)

@[simp] lemma grows_scalarDefault (t : ResolvedType) (value : Json) :
    Grows (setup.scalarDefault t value) := by
  have hunreadable (raw kind : String) : Grows (unreadableDefault raw kind) := by
    simp [unreadableDefault]
  rw [scalarDefault]
  dsimp only
  repeat' split
  all_goals simp [hunreadable]

@[simp] lemma grows_defaultValue (c : Components) (ref : SchemaRef) (t : ResolvedType)
    (nullable : Bool) (site : DefaultSite) : Grows (setup.defaultValue c ref t nullable site) := by
  rw [defaultValue]
  refine grows_bind (grows_lift _) ?_
  rintro ⟨_, s⟩
  dsimp only
  repeat' split
  all_goals simp

@[simp] lemma grows_enumConstants (s : Schema) (valueType : String) :
    Grows (setup.enumConstants s valueType) := by
  rw [enumConstants]
  refine grows_bind (grows_filterMapM (fun v => ?_) _) fun _ => grows_pure _
  dsimp only
  split <;> simp

end Setup

namespace Resolver

variable (r : Resolver)

@[simp] lemma grows_describedItems (p : Property) (s : Schema) (t : ResolvedType) :
    Grows (r.describedItems p s t) := by
  rw [describedItems]
  split
  · exact grows_pure _
  · dsimp only
    split <;> simp

lemma grows_itemsProperty (name baseName : String) (t : ResolvedType) :
    ∀ container, Grows (r.itemsProperty name baseName container t) := by
  have hbelow (t : ResolvedType)
      (hitems : ∀ container, Grows (r.itemsOf name baseName container t.items))
      (container : Schema) : Grows (r.itemsProperty name baseName container t) := by
    cases t
    rw [itemsProperty]
    dsimp only
    split
    · exact grows_pure _
    · refine grows_bind (grows_lift _) ?_
      rintro ⟨_, s⟩
      simp [hitems]
  induction t using ResolvedType.items_induction with
  | innermost t hnone => exact hbelow t fun container => by simp [hnone, itemsOf]
  | container t inner hsome ih => exact hbelow t fun container => by simp [hsome, itemsOf, ih]

@[simp] lemma grows_itemsOf (name baseName : String) (container : Schema)
    (items : Option ResolvedType) : Grows (r.itemsOf name baseName container items) := by
  cases items with
  | none => simp [itemsOf]
  | some t => simp [itemsOf, r.grows_itemsProperty name baseName t container]

@[simp] lemma grows_propertyType (name : String) (ref : SchemaRef) :
    Grows (r.propertyType name ref) := by
  simp [propertyType]

@[simp] lemma grows_propertyConstants (p : Property) (target : Schema) (t : ResolvedType) :
    Grows (r.propertyConstants p target t) := by
  rw [propertyConstants]
  split
  · split <;> simp
  · simp

@[simp] lemma grows_property (baseName : String) (ref : SchemaRef) (required : Bool)
    (site : DefaultSite) : Grows (r.property baseName ref required site) := by
  rw [property]
  refine grows_bind (grows_lift _) fun name => ?_
  refine grows_bind (r.grows_propertyType name ref) fun t => ?_
  refine grows_bind (grows_lift _) ?_
  rintro ⟨_, target⟩
  refine grows_bind (r.grows_itemsOf _ _ _ _) fun items => ?_
  refine grows_bind (r.grows_propertyConstants _ _ _) fun constants => ?_
  simp

/-! ## Models -/

@[simp] lemma grows_mapExplicit (key : String) (m : MappedTargets) (value target : String) :
    Grows (r.mapExplicit key m value target) := by
  rw [mapExplicit]
  split <;> simp

@[simp] lemma grows_mapImplicit (key : String) (m : MappedTargets) (target : String) :
    Grows (r.mapImplicit key m target) := by
  rw [mapImplicit]
  split <;> simp

@[simp] lemma grows_firstPropertyType? (property : String) (keys : List String) :
    Grows (r.firstPropertyType? property keys) := by
  induction keys with
  | nil => exact grows_pure _
  | cons key rest ih =>
    rw [firstPropertyType?]
    refine grows_bind (grows_lift _) ?_
    rintro ⟨_, target⟩
    dsimp only
    split <;> simp [ih]

@[simp] lemma grows_discriminatorType (s : Schema) (property : String) (keys : List String) :
    Grows (r.discriminatorType s property keys) := by
  rw [discriminatorType]
  refine grows_bind (r.grows_firstPropertyType? property keys) fun found => ?_
  split
  · simp
  · split <;> simp

@[simp] lemma grows_discriminator (key : String) (s : Schema) (d : Discriminator) :
    Grows (r.discriminator key s d) := by
  rw [discriminator]
  refine grows_bind (grows_lift _) fun name => ?_
  refine grows_bind (by simp) fun explicit => grows_bind (by simp) fun m => ?_
  simp

@[simp] lemma grows_enumModel (bare : Model) (s : Schema) : Grows (r.enumModel bare s) := by
  simp [enumModel]

@[simp] lemma grows_classModel (key : String) (bare : Model) (s : Schema) (shape : Shape) :
    Grows (r.classModel key bare s shape) := by
  have hparts : ∀ refs, Grows (r.memberTypes refs) := by simp [memberTypes]
  have hproperties : Grows (r.properties shape) := by simp [properties]
  rw [classModel]
  refine grows_bind (hparts _) fun oneOf => grows_bind (hparts _) fun anyOf => ?_
  refine grows_bind hproperties ?_
  rintro ⟨vars, imports⟩
  dsimp only
  split <;> simp

@[simp] lemma grows_draft (key classname : String) (s : Schema) :
    Grows (r.draft key classname s) := by
  rw [draft]
  dsimp only
  split
  · simp
  · exact grows_bind (grows_lift _) fun targets => by simp

@[simp] lemma grows_drafts : Grows r.drafts := by
  rw [drafts]
  refine grows_foldlM ?_ _ _
  rintro ds ⟨key, entry⟩
  refine grows_bind (grows_lift _) ?_
  rintro ⟨_, s⟩
  simp

end Resolver

namespace Setup

variable (setup : Setup)

@[simp] lemma grows_foldAt (ds : Drafts) (key : String) : Grows (setup.foldAt ds key) := by
  rw [foldAt]
  split <;> simp

@[simp] lemma grows_foldInheritance (ds : Drafts) : Grows (setup.foldInheritance ds) := by
  simp [foldInheritance]

@[simp] lemma grows_finishProperty (deprecated : List String) (examples : Examples)
    (p : Property) : Grows (setup.finishProperty deprecated examples p) := by
  rw [finishProperty]
  refine grows_bind (by simp) ?_
  rintro ⟨onField, extensions⟩
  refine grows_bind (by simp) ?_
  rintro ⟨onSetter, rest⟩
  dsimp only
  split <;> simp

@[simp] lemma grows_finishModel (deprecated : List String) (examples : Examples) (m : Model) :
    Grows (setup.finishModel deprecated examples m) := by
  have hlist (ps : List Property) :
      Grows (ps.mapM (setup.finishProperty deprecated examples)) := by simp
  rw [finishModel]
  refine grows_bind grows_takeSerial fun serialId => grows_bind (by simp) ?_
  rintro ⟨onClass, _⟩
  dsimp only [Model.mapProperties]
  iterate 11 refine grows_bind (hlist _) fun _ => ?_
  exact grows_pure _

@[simp] lemma grows_examples (constructors : Table (List Property)) :
    Grows (setup.examples constructors) := by
  simp [examples]

@[simp] lemma grows_finishModels (models : List Model) : Grows (setup.finishModels models) := by
  simp [finishModels]

end Setup

@[simp] lemma Resolver.grows_lowerModels (r : Resolver) : Grows r.lowerModels := by
  simp [lowerModels]

/-! ## Declared endpoints -/

namespace Resolver

variable (r : Resolver)

@[simp] lemma grows_argument (name : String) (ref : SchemaRef) (required : Bool) :
    Grows (r.argument name ref required) := by
  simp [argument]

@[simp] lemma grows_declaredArgument (nickname : String) (p : Parameter) :
    Grows (r.declaredArgument nickname p) := by
  rw [declaredArgument]
  dsimp only
  split <;> simp

@[simp] lemma grows_contentArguments (op : Operation) (body : RequestBody) (v : BodyVariant) :
    Grows (r.contentArguments op body v) := by
  rw [contentArguments]
  split
  · rw [formArguments]
    split
    · exact grows_pure _
    · refine grows_bind (grows_lift _) ?_
      rintro ⟨_, s⟩
      exact grows_mapM (fun _ => by simp) _
  · simp [bodyArgument]

@[simp] lemma grows_header (name : String) (ref : HeaderRef) : Grows (r.header name ref) := by
  simp [header]

@[simp] lemma grows_outcome (code : String) (res : Response) : Grows (r.outcome code res) := by
  rw [outcome]
  dsimp only
  split
  · simp
  · exact grows_bind (r.grows_resolve _) fun t => by simp

@[simp] lemma grows_loweredResponses (op : Operation) : Grows (r.loweredResponses op) :=
  grows_mapM (fun _ => grows_bind (grows_lift _) fun _ => by simp) _

@[simp] lemma grows_returned (res : Response) : Grows (r.returned res) := by
  rw [returned]
  split
  · exact grows_pure _
  · refine grows_bind (r.grows_property _ _ _ _) ?_
    rintro ⟨p, imports⟩
    dsimp only
    split <;> simp

@[simp] lemma grows_rawEndpoint (d : Document) (site : Site) (nickname : String)
    (body : Option (RequestBody × BodyVariant)) : Grows (r.rawEndpoint d site nickname body) := by
  have hauthentication : Grows (d.authentication site.operation) :=
    grows_bind (grows_forM (fun _ => grows_warnOnce _ _) _) fun _ => grows_pure _
  rw [rawEndpoint]
  refine grows_bind (grows_lift _) fun parameters => ?_
  refine grows_bind (grows_mapM (r.grows_declaredArgument nickname) _) fun declared => ?_
  -- what is left to do once the arguments of the body are there
  extract_lets _ _ rest
  have hrest (contents : List (Argument × NameSet)) : Grows (rest contents) := by
    refine grows_bind (r.grows_loweredResponses _) fun responses => ?_
    refine grows_bind hauthentication fun authMethods => ?_
    dsimp only
    split
    · exact grows_pure _
    · refine grows_bind (r.grows_returned _) fun ret => ?_
      split <;> exact grows_pure _
  split
  · exact grows_bind (r.grows_contentArguments _ _ _) hrest
  · exact hrest []

@[simp] lemma grows_endpointsOf (d : Document) (site : Site) : Grows (r.endpointsOf d site) := by
  have hname : Grows (r.setup.nickname site.path site.method site.operation) := by
    refine grows_bind ?_ fun raw => ?_
    · rw [Setup.rawName]
      split <;> simp
    · dsimp only
      split <;> simp
  have hvariants (nickname : String) (body : RequestBody) :
      Grows (r.setup.bodyVariants nickname body) := by
    rw [Setup.bodyVariants]
    dsimp only
    split
    · exact grows_pure _
    · split
      · exact grows_bind (grows_forM (fun _ => grows_warnOnce _ _) _) fun _ => grows_pure _
      · exact grows_pure _
  rw [endpointsOf]
  refine grows_bind hname fun nickname => grows_bind (grows_lift _) fun body => ?_
  split
  · simp
  · exact grows_bind (hvariants _ _) fun variants => by simp

@[simp] lemma grows_rawEndpoints (d : Document) : Grows (r.rawEndpoints d) := by
  simp [rawEndpoints]

end Resolver

/-! ## Stages of endpoints -/

namespace Setup

variable (setup : Setup)

@[simp] lemma grows_mapArgument (e : Endpoint) (m : ParameterMapping) :
    Grows (setup.mapArgument e m) := by
  have hmapped (mappedType : String) (imports : NameSet) :
      Grows (setup.mappedArgument m mappedType imports) := by
    rw [mappedArgument]
    refine grows_bind (setup.grows_importType _ _) ?_
    rintro ⟨dataType, imports⟩
    dsimp only
    split <;> simp
  rw [mapArgument]
  split
  · dsimp only
    split
    · exact grows_pure _
    · simp [hmapped]
  · exact grows_pure _

@[simp] lemma grows_mapArguments (e : Endpoint) : Grows (setup.mapArguments e) :=
  grows_bind (grows_lift _) fun _ => by simp

@[simp] lemma grows_envelop (e : Endpoint) (wrapper : String) (ofItems : Bool) :
    Grows (setup.envelop e wrapper ofItems) := by
  simp [envelop]

@[simp] lemma grows_mapReturnBy (e : Endpoint) (m : ResponseBodyMapping) :
    Grows (setup.mapReturnBy e m) := by
  rw [mapReturnBy]
  dsimp only
  split
  · split
    · exact grows_pure _
    · exact grows_bind (setup.grows_envelop _ _ _) fun _ => by simp
  · exact grows_pure _

@[simp] lemma grows_mapReturn (e : Endpoint) : Grows (setup.mapReturn e) := by
  simp [mapReturn]

@[simp] lemma grows_wrapEndpoint (e : Endpoint) : Grows (setup.wrapEndpoint e) := by
  have hresponse (e : Endpoint) : Grows (setup.inResponse e) := by simp [inResponse]
  have hpublisher (e : Endpoint) : Grows (setup.inPublisher e) := by
    rw [inPublisher]
    repeat' split
    all_goals simp
  simp [wrapEndpoint, hresponse, hpublisher]

@[simp] lemma grows_annotateEndpoint (deprecated : List String) (e : Endpoint) :
    Grows (setup.annotateEndpoint deprecated e) := by
  simp [annotateEndpoint]

@[simp] lemma grows_freezeEndpoint (models : List Model) (e : Endpoint) :
    Grows (setup.freezeEndpoint models e) := by
  simp [freezeEndpoint]

@[simp] lemma grows_finishEndpoints (models : List Model) (es : List Endpoint) :
    Grows (setup.finishEndpoints models es) := by
  refine grows_mapM (fun e => ?_) es
  rw [finishEndpoint]
  refine grows_bind (grows_lift _) fun _ => grows_bind (setup.grows_mapArguments _) fun _ => ?_
  refine grows_bind (setup.grows_mapReturn _) fun _ => ?_
  refine grows_bind (setup.grows_wrapEndpoint _) fun _ => ?_
  exact grows_bind (setup.grows_annotateEndpoint _ _) fun _ => setup.grows_freezeEndpoint _ _

@[simp] lemma grows_group (es : List Endpoint) : Grows (setup.group es) := by
  have henter (gs : Table EndpointGroup) (position : Nat) (tag : String) :
      Grows (setup.enterTag gs position tag) := by
    rw [enterTag]
    dsimp only
    split <;> simp
  simp [group, henter]

/-! ## The whole run -/

/-- **A run only adds to its session.** -/
theorem grows_lower (d : Document) : Grows (setup.lower d) := by
  rw [lower]
  refine grows_bind (setup.grows_prepare d) fun d => ?_
  refine grows_bind (setup.grows_build _) fun models => ?_
  refine grows_bind (Resolver.grows_lowerModels _) fun drafts => ?_
  refine grows_bind (Resolver.grows_rawEndpoints _ _) fun raw => ?_
  refine grows_bind (setup.grows_finishModels _) fun finished => ?_
  refine grows_bind (setup.grows_finishEndpoints _ _) fun endpoints => ?_
  refine grows_bind (setup.grows_group _) fun groups => ?_
  exact grows_bind grows_get fun _ => grows_pure _

end Setup

end ApiLowering
