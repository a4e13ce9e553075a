import ApiLowering.Document.Reader
import ApiLowering.Proofs.Document.Schemas
import ApiLowering.Proofs.Schema.ReadBack

/-!
# What was read

Every schema of a document that was read comes from the one reader of schemas, so whatever holds of
all that this reader returns holds of all schemas of the document.

## Main definitions

* `Yields` — a reader returns only things all of whose schemas have some property.

## Main results

* `Document.every_lawful_of_ofTree?` — in a document that was read the unknown keywords of a schema
  have names of their own.
-/

namespace ApiLowering

/-! ## What readers return -/

/-- A reader returns only things that have some property. -/
def Returns {α : Type} (Q : α → Prop) (read : Tree → Option α) : Prop :=
  ∀ t x, read t = some x → Q x

namespace Returns

variable {α : Type} {Q : α → Prop} {read : Tree → Option α}

lemma listOf? (h : Returns Q read) : Returns (fun xs => ∀ x ∈ xs, Q x) (Tree.listOf? read) := by
  intro t xs hxs x hx
  obtain ⟨ts, -, hread⟩ := Option.bind_eq_some_iff.1 hxs
  obtain ⟨t', -, hx⟩ := exists_mem_right_of_forall₂ (forall₂_of_mapM_eq_some hread) hx
  exact h t' x hx

lemma table? (h : Returns Q read) :
    Returns (fun table => ∀ v ∈ table.values, Q v) (Tree.table? read) := by
  intro t table htable v hv
  simp only [Tree.table?, Option.bind_eq_bind, Option.bind_eq_some_iff] at htable
  obtain ⟨es, -, pairs, hpairs, htable⟩ := htable
  obtain rfl := Option.some.inj htable
  obtain ⟨e, he, rfl⟩ := List.mem_map.1 hv
  obtain ⟨f, -, hstep⟩ := exists_mem_right_of_forall₂ (forall₂_of_mapM_eq_some hpairs)
    (Table.mem_of_mem_ofList he)
  simp only [Option.bind_eq_some_iff, Option.pure_def, Option.some.injEq] at hstep
  obtain ⟨key, -, value, hvalue, rfl⟩ := hstep
  exact h f.2 value hvalue

variable {f : Fields} {name : String}

lemma optional? (h : Returns Q read) {o : Option α} (ho : f.optional? name read = some o) :
    ∀ x ∈ o, Q x := by
  intro x hx
  rw [Fields.optional?] at ho
  split at ho
  · split at ho <;> cases ho
    cases hx
  · simp only [Option.bind_eq_bind, Option.bind_eq_some_iff] at ho
    obtain ⟨null, -, ho⟩ := ho
    split at ho
    · obtain rfl := Option.some.inj ho
      cases hx
    · obtain ⟨y, hy, ho⟩ := Option.bind_eq_some_iff.1 ho
      obtain rfl := Option.some.inj ho
      obtain rfl := Option.some.inj hx
      exact h _ _ hy

lemma defaulted? (h : Returns Q read) {x fallback : α} (hfallback : Q fallback)
    (hx : f.defaulted? name read fallback = some x) : Q x := by
  rw [Fields.defaulted?] at hx
  split at hx
  · exact Option.some.inj hx ▸ hfallback
  · exact h _ _ hx

end Returns

/-- A reader returns only things all of whose schemas have some property. -/
def Yields {α : Type} [HasSchemas α] (P : SchemaRef → Prop) (read : Tree → Option α) : Prop :=
  Returns (EverySchema P) read

namespace Yields

variable {α : Type} [HasSchemas α] {P : SchemaRef → Prop} {read : Tree → Option α}

/-! ## Collections and fields -/

lemma listOf? (h : Yields P read) : Yields P (Tree.listOf? read) := fun t xs hxs =>
  EverySchema.list_iff.2 (Returns.listOf? h t xs hxs)

lemma table? (h : Yields P read) : Yields P (Tree.table? read) := fun t table htable =>
  EverySchema.table_iff.2 (Returns.table? h t table htable)

lemma referable (h : Yields P read) : Yields P (Referable.read? read) := by
  intro t r hr
  refine EverySchema.referable_iff.2 fun x hx => ?_
  rw [Referable.read?] at hr
  split at hr
  · split at hr
    · obtain rfl := Option.some.inj hr
      cases hx
    · obtain ⟨y, hy, rfl⟩ := Option.map_eq_some_iff.1 hr
      obtain rfl := Option.some.inj hx
      exact h _ _ hy
  · cases hr

variable {f : Fields} {name : String}

lemma optional? (h : Yields P read) {o : Option α} (ho : f.optional? name read = some o) :
    EverySchema P o := EverySchema.option_iff.2 (Returns.optional? h ho)

lemma defaulted? (h : Yields P read) {x fallback : α} (hfallback : EverySchema P fallback)
    (hx : f.defaulted? name read fallback = some x) : EverySchema P x :=
  Returns.defaulted? h hfallback hx

/-- The table under a field that may be missing. -/
lemma tableField (h : Yields P read) {t : Table α}
    (ht : f.defaulted? name (Tree.table? read) {} = some t) : EverySchema P t :=
  h.table?.defaulted? (fun _ hr => by cases hr) ht

/-- The list under a field that may be missing. -/
lemma listField (h : Yields P read) {xs : List α}
    (hxs : f.defaulted? name (Tree.listOf? read) [] = some xs) : EverySchema P xs :=
  h.listOf?.defaulted? (fun _ hr => by cases hr) hxs

end Yields

/-! ## Parts of documents -/

/-- Whatever holds of all operations that are read holds of those of a path that is read. -/
lemma PathItem.returns_operations {Q : Operation → Prop} (h : Returns Q Operation.read?) :
    Returns (fun p => ∀ m, ∀ op ∈ p.operation? m, Q op) PathItem.read? := by
  intro t p hp m
  iterate 4 obtain ⟨_, -, hp⟩ := Option.bind_eq_some_iff.1 hp
  obtain ⟨get, hget, hp⟩ := Option.bind_eq_some_iff.1 hp
  obtain ⟨put, hput, hp⟩ := Option.bind_eq_some_iff.1 hp
  obtain ⟨post, hpost, hp⟩ := Option.bind_eq_some_iff.1 hp
  obtain ⟨delete, hdelete, hp⟩ := Option.bind_eq_some_iff.1 hp
  obtain ⟨options, hoptions, hp⟩ := Option.bind_eq_some_iff.1 hp
  obtain ⟨head, hhead, hp⟩ := Option.bind_eq_some_iff.1 hp
  obtain ⟨patch, hpatch, hp⟩ := Option.bind_eq_some_iff.1 hp
  obtain ⟨trace, htrace, hp⟩ := Option.bind_eq_some_iff.1 hp
  obtain ⟨_, -, hp⟩ := Option.bind_eq_some_iff.1 hp
  obtain rfl := Option.some.inj hp
  cases m with
  | get => exact h.optional? hget
  | put => exact h.optional? hput
  | post => exact h.optional? hpost
  | delete => exact h.optional? hdelete
  | options => exact h.optional? hoptions
  | head => exact h.optional? hhead
  | patch => exact h.optional? hpatch
  | trace => exact h.optional? htrace

section Parts

variable {P : SchemaRef → Prop} (h : Yields P Schema.readRef?)

include h

lemma yields_mediaType : Yields P MediaType.read? := by
  intro t m hm
  obtain ⟨_, -, hm⟩ := Option.bind_eq_some_iff.1 hm
  obtain ⟨schema, hschema, hm⟩ := Option.bind_eq_some_iff.1 hm
  iterate 4 obtain ⟨_, -, hm⟩ := Option.bind_eq_some_iff.1 hm
  obtain rfl := Option.some.inj hm
  exact h.optional? hschema

lemma yields_parameter : Yields P Parameter.readRef? := by
  refine Yields.referable fun t p hp => ?_
  iterate 6 obtain ⟨_, -, hp⟩ := Option.bind_eq_some_iff.1 hp
  obtain ⟨schema, hschema, hp⟩ := Option.bind_eq_some_iff.1 hp
  obtain ⟨content, hcontent, hp⟩ := Option.bind_eq_some_iff.1 hp
  iterate 5 obtain ⟨_, -, hp⟩ := Option.bind_eq_some_iff.1 hp
  obtain rfl := Option.some.inj hp
  exact EverySchema.parameter_iff.2
    ⟨h.optional? hschema, (yields_mediaType h).tableField hcontent⟩

lemma yields_requestBody : Yields P RequestBody.readRef? := by
  refine Yields.referable fun t b hb => ?_
  iterate 2 obtain ⟨_, -, hb⟩ := Option.bind_eq_some_iff.1 hb
  obtain ⟨content, hcontent, hb⟩ := Option.bind_eq_some_iff.1 hb
  iterate 2 obtain ⟨_, -, hb⟩ := Option.bind_eq_some_iff.1 hb
  obtain rfl := Option.some.inj hb
  exact (yields_mediaType h).tableField hcontent

lemma yields_header : Yields P Header.readRef? := by
  refine Yields.referable fun t header hheader => ?_
  iterate 4 obtain ⟨_, -, hheader⟩ := Option.bind_eq_some_iff.1 hheader
  obtain ⟨schema, hschema, hheader⟩ := Option.bind_eq_some_iff.1 hheader
  iterate 2 obtain ⟨_, -, hheader⟩ := Option.bind_eq_some_iff.1 hheader
  obtain rfl := Option.some.inj hheader
  exact h.optional? hschema

lemma yields_response : Yields P Response.readRef? := by
  intro t r hr
  refine EverySchema.responseRef_iff.2 fun x hx => ?_
  rw [Response.readRef?] at hr
  split at hr
  · split at hr
    · rename_i hreference
      obtain rfl := Option.some.inj hr
      iterate 3 obtain ⟨_, -, hreference⟩ := Option.bind_eq_some_iff.1 hreference
      obtain rfl := Option.some.inj hreference
      cases hx
    · obtain ⟨y, hy, rfl⟩ := Option.map_eq_some_iff.1 hr
      obtain rfl := Option.some.inj hx
      iterate 2 obtain ⟨_, -, hy⟩ := Option.bind_eq_some_iff.1 hy
      obtain ⟨content, hcontent, hy⟩ := Option.bind_eq_some_iff.1 hy
      obtain ⟨headers, hheaders, hy⟩ := Option.bind_eq_some_iff.1 hy
      iterate 2 obtain ⟨_, -, hy⟩ := Option.bind_eq_some_iff.1 hy
      obtain rfl := Option.some.inj hy
      exact EverySchema.response_iff.2
        ⟨(yields_mediaType h).tableField hcontent, (yields_header h).tableField hheaders⟩
  · cases hr

lemma yields_operation : Yields P Operation.read? := by
  intro t op hop
  iterate 5 obtain ⟨_, -, hop⟩ := Option.bind_eq_some_iff.1 hop
  obtain ⟨parameters, hparameters, hop⟩ := Option.bind_eq_some_iff.1 hop
  obtain ⟨requestBody, hrequestBody, hop⟩ := Option.bind_eq_some_iff.1 hop
  obtain ⟨responses, hresponses, hop⟩ := Option.bind_eq_some_iff.1 hop
  iterate 4 obtain ⟨_, -, hop⟩ := Option.bind_eq_some_iff.1 hop
  obtain rfl := Option.some.inj hop
  exact EverySchema.operation_iff.2 ⟨(yields_parameter h).listField hparameters,
    (yields_requestBody h).optional? hrequestBody, (yields_response h).tableField hresponses⟩

lemma yields_pathItem : Yields P PathItem.read? := by
  intro t p hp
  have hoperations := PathItem.returns_operations (yields_operation h) t p hp
  iterate 3 obtain ⟨_, -, hp⟩ := Option.bind_eq_some_iff.1 hp
  obtain ⟨parameters, hparameters, hp⟩ := Option.bind_eq_some_iff.1 hp
  iterate 9 obtain ⟨_, -, hp⟩ := Option.bind_eq_some_iff.1 hp
  obtain rfl := Option.some.inj hp
  exact EverySchema.pathItem_iff.2 ⟨(yields_parameter h).listField hparameters, fun m =>
    EverySchema.option_iff.2 (hoperations m)⟩

lemma yields_components : Yields P Components.read? := by
  intro t c hc
  obtain ⟨_, -, hc⟩ := Option.bind_eq_some_iff.1 hc
  obtain ⟨schemas, hschemas, hc⟩ := Option.bind_eq_some_iff.1 hc
  obtain ⟨responses, hresponses, hc⟩ := Option.bind_eq_some_iff.1 hc
  obtain ⟨parameters, hparameters, hc⟩ := Option.bind_eq_some_iff.1 hc
  obtain ⟨_, -, hc⟩ := Option.bind_eq_some_iff.1 hc
  obtain ⟨requestBodies, hrequestBodies, hc⟩ := Option.bind_eq_some_iff.1 hc
  obtain ⟨headers, hheaders, hc⟩ := Option.bind_eq_some_iff.1 hc
  iterate 3 obtain ⟨_, -, hc⟩ := Option.bind_eq_some_iff.1 hc
  obtain rfl := Option.some.inj hc
  exact EverySchema.components_iff.2 ⟨h.tableField hschemas,
    (yields_response h).tableField hresponses, (yields_parameter h).tableField hparameters,
    (yields_requestBody h).tableField hrequestBodies, (yields_header h).tableField hheaders⟩

/-- Whatever holds of all schemas that are read holds of all schemas of a document that is read. -/
theorem yields_document : Yields P Document.ofTree? := by
  intro t d hd
  iterate 4 obtain ⟨_, -, hd⟩ := Option.bind_eq_some_iff.1 hd
  obtain ⟨paths, hpaths, hd⟩ := Option.bind_eq_some_iff.1 hd
  obtain ⟨webhooks, hwebhooks, hd⟩ := Option.bind_eq_some_iff.1 hd
  obtain ⟨components, hcomponents, hd⟩ := Option.bind_eq_some_iff.1 hd
  iterate 4 obtain ⟨_, -, hd⟩ := Option.bind_eq_some_iff.1 hd
  obtain rfl := Option.some.inj hd
  exact EverySchema.document_iff.2 ⟨(yields_components h).optional? hcomponents,
    (yields_pathItem h).tableField hpaths, (yields_pathItem h).tableField hwebhooks⟩

end Parts

/-! ## Fresh keywords -/

/-- In a schema that was read the unknown keywords have names of their own. -/
lemma Schema.yields_every_lawful : Yields (Every Lawful) Schema.readRef? := by
  intro t r hr
  obtain ⟨t', -, hr⟩ := Option.bind_eq_some_iff.1 hr
  exact EverySchema.ref_iff.2 (every_lawful_of_readNode? hr)

/-- **In a document that was read** the unknown keywords of every schema have names of their own. -/
theorem Document.every_lawful_of_ofTree? {t : Tree} {d : Document} (h : ofTree? t = some d) :
    EverySchema (Schema.Every Schema.Lawful) d :=
  yields_document Schema.yields_every_lawful t d h

end ApiLowering
