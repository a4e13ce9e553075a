import ApiLowering.Canonical.Document
import ApiLowering.Proofs.Tables

/-!
# The schemas of a document

A document holds schemas in many places: as components, and in the bodies, parameters, responses and
headers of its operations and components. A pass that treats all of them alike is a map over these
places, whatever lies around them.

A thing is determined by its shape and its schemas. So two things that differ in their schemas only
become the same as soon as a map over their schemas makes these the same, one by one.

## Main definitions

* `HasSchemas` — a thing with places for schemas.
* `SameShape`, `Alike` — two things differ in their schemas only, and these are related.
* `Lens` — the parts of a record that have schemas.
* `EverySchema` — all schemas of a thing have some property.
* `HasSchemas.Extensional` — the shape and the schemas determine a thing.

## Main results

* `HasSchemas.mapSchemas_eq_self_iff` — a thing stays as it is exactly if all of its schemas do.
* `Alike.mapSchemas_eq` — a map that levels related schemas levels things that are alike.
-/

namespace ApiLowering

/-- A thing with places for schemas. -/
class HasSchemas (α : Type) where
  /-- The schemas of a thing. -/
  schemas : α → List SchemaRef
  /-- The thing with other schemas in their places. -/
  mapSchemas : (SchemaRef → SchemaRef) → α → α
  /-- The schemas in the places are the other ones. -/
  schemas_mapSchemas (f : SchemaRef → SchemaRef) (x : α) :
    schemas (mapSchemas f x) = (schemas x).map f
  mapSchemas_id (x : α) : mapSchemas (fun r => r) x = x
  mapSchemas_mapSchemas (f g : SchemaRef → SchemaRef) (x : α) :
    mapSchemas g (mapSchemas f x) = mapSchemas (fun r => g (f r)) x
  /-- There is nothing else in the places. -/
  mapSchemas_inj_left {f g : SchemaRef → SchemaRef} {x : α} :
    mapSchemas f x = mapSchemas g x ↔ ∀ r ∈ schemas x, f r = g r

export HasSchemas (schemas mapSchemas schemas_mapSchemas mapSchemas_id mapSchemas_mapSchemas
  mapSchemas_inj_left)

namespace HasSchemas

variable {α : Type} [HasSchemas α]

/-- A thing stays as it is exactly if all of its schemas do. -/
theorem mapSchemas_eq_self_iff {f : SchemaRef → SchemaRef} {x : α} :
    mapSchemas f x = x ↔ ∀ r ∈ schemas x, f r = r := by
  have h := mapSchemas_inj_left (f := f) (g := fun r => r) (x := x)
  rwa [mapSchemas_id] at h

lemma funext_mapSchemas_id : mapSchemas (fun r => r) = fun x : α => x := funext mapSchemas_id

/-! ## Collections -/

instance : HasSchemas SchemaRef where
  schemas r := [r]
  mapSchemas f r := f r
  schemas_mapSchemas _ _ := rfl
  mapSchemas_id _ := rfl
  mapSchemas_mapSchemas _ _ _ := rfl
  mapSchemas_inj_left := by simp

instance : HasSchemas (Option α) where
  schemas o := o.elim [] schemas
  mapSchemas f o := o.map (mapSchemas f)
  schemas_mapSchemas f o := by
    cases o with
    | none => rfl
    | some x => exact schemas_mapSchemas f x
  mapSchemas_id o := by
    cases o with
    | none => rfl
    | some x => exact congrArg some (mapSchemas_id x)
  mapSchemas_mapSchemas f g o := by
    cases o with
    | none => rfl
    | some x => exact congrArg some (mapSchemas_mapSchemas f g x)
  mapSchemas_inj_left {f g o} := by
    cases o with
    | none => simp
    | some x => simpa using mapSchemas_inj_left

instance : HasSchemas (List α) where
  schemas xs := xs.flatMap schemas
  mapSchemas f xs := xs.map (mapSchemas f)
  schemas_mapSchemas f xs := by
    simp [List.flatMap_map, List.map_flatMap, schemas_mapSchemas]
  mapSchemas_id xs := by
    rw [funext_mapSchemas_id]
    exact List.map_id' xs
  mapSchemas_mapSchemas f g xs := by
    rw [List.map_map]
    exact List.map_congr_left fun x _ => mapSchemas_mapSchemas f g x
  mapSchemas_inj_left {f g xs} := by
    simp only [List.map_inj_left, mapSchemas_inj_left, List.mem_flatMap]
    exact ⟨fun h r ⟨x, hx, hr⟩ => h x hx r hr, fun h x hx r hr => h r ⟨x, hx, hr⟩⟩

instance : HasSchemas (Table α) where
  schemas t := schemas t.values
  mapSchemas f t := t.map (mapSchemas f)
  schemas_mapSchemas f t := by
    rw [Table.values_map]
    exact schemas_mapSchemas f t.values
  mapSchemas_id t := by
    rw [funext_mapSchemas_id]
    exact Table.map_id' t
  mapSchemas_mapSchemas f g t := by
    rw [Table.map_map]
    exact Table.map_inj_left.2 fun x _ => mapSchemas_mapSchemas f g x
  mapSchemas_inj_left {f g t} := by
    rw [Table.map_inj_left, ← List.map_inj_left]
    exact mapSchemas_inj_left (x := t.values)

instance {β : Type} [HasSchemas β] : HasSchemas (α × β) where
  schemas x := schemas x.1 ++ schemas x.2
  mapSchemas f x := (mapSchemas f x.1, mapSchemas f x.2)
  schemas_mapSchemas f x := by
    rw [List.map_append, schemas_mapSchemas, schemas_mapSchemas]
  mapSchemas_id x := by
    rw [mapSchemas_id, mapSchemas_id]
  mapSchemas_mapSchemas f g x := by
    rw [mapSchemas_mapSchemas, mapSchemas_mapSchemas]
  mapSchemas_inj_left {f g x} := by
    rw [Prod.mk.injEq, mapSchemas_inj_left, mapSchemas_inj_left, List.forall_mem_append]

end HasSchemas

/-! ## Records -/

/-- The parts of a record that have schemas, as one thing. -/
structure Lens (β α : Type) where
  /-- The parts. -/
  get : β → α
  /-- The record with other parts. -/
  set : β → α → β
  get_set (y : β) (x : α) : get (set y x) = x := by intros; rfl
  set_get (y : β) : set y (get y) = y := by intros; rfl
  set_set (y : β) (x x' : α) : set (set y x) x' = set y x' := by intros; rfl

/-- A record has the schemas of its parts. -/
@[reducible] def HasSchemas.along {α β : Type} [HasSchemas α] (l : Lens β α) : HasSchemas β where
  schemas y := schemas (l.get y)
  mapSchemas f y := l.set y (mapSchemas f (l.get y))
  schemas_mapSchemas f y := by
    rw [l.get_set, schemas_mapSchemas]
  mapSchemas_id y := by
    rw [mapSchemas_id, l.set_get]
  mapSchemas_mapSchemas f g y := by
    rw [l.get_set, l.set_set, mapSchemas_mapSchemas]
  mapSchemas_inj_left {f g y} := by
    rw [← mapSchemas_inj_left (x := l.get y)]
    constructor
    · intro h
      simpa only [l.get_set] using congrArg l.get h
    · exact congrArg (l.set y)

/-! ## Parts of operations -/

/-- The schema of a media type. -/
def MediaType.lens : Lens MediaType (Option SchemaRef) where
  get m := m.schema
  set m schema := { m with schema }

instance : HasSchemas MediaType := .along MediaType.lens

/-- The schema and the content of a parameter. -/
def Parameter.lens : Lens Parameter (Option SchemaRef × Table MediaType) where
  get p := (p.schema, p.content)
  set p := fun (schema, content) => { p with schema, content }

instance : HasSchemas Parameter := .along Parameter.lens

/-- The content of a request body. -/
def RequestBody.lens : Lens RequestBody (Table MediaType) where
  get b := b.content
  set b content := { b with content }

instance : HasSchemas RequestBody := .along RequestBody.lens

/-- The schema of a header. -/
def Header.lens : Lens Header (Option SchemaRef) where
  get h := h.schema
  set h schema := { h with schema }

instance : HasSchemas Header := .along Header.lens

instance {α : Type} [HasSchemas α] : HasSchemas (Referable α) where
  schemas
    | .ref _ => []
    | .inline x => schemas x
  mapSchemas f r := r.mapInline (mapSchemas f)
  schemas_mapSchemas f r := by
    cases r with
    | ref path => rfl
    | inline x => exact schemas_mapSchemas f x
  mapSchemas_id r := by
    cases r with
    | ref path => rfl
    | inline x => exact congrArg Referable.inline (mapSchemas_id x)
  mapSchemas_mapSchemas f g r := by
    cases r with
    | ref path => rfl
    | inline x => exact congrArg Referable.inline (mapSchemas_mapSchemas f g x)
  mapSchemas_inj_left {f g r} := by
    cases r with
    | ref path => simp [Referable.mapInline]
    | inline x => simpa [Referable.mapInline] using mapSchemas_inj_left

/-- The content and the headers of a response. -/
def Response.lens : Lens Response (Table MediaType × Table HeaderRef) where
  get r := (r.content, r.headers)
  set r := fun (content, headers) => { r with content, headers }

instance : HasSchemas Response := .along Response.lens

/-- Applies a function to a response that is here, and to no reference. -/
def ResponseRef.mapInline (f : Response → Response) : ResponseRef → ResponseRef
  | .ref path description => .ref path description
  | .inline r => .inline (f r)

instance : HasSchemas ResponseRef where
  schemas
    | .ref _ _ => []
    | .inline r => schemas r
  mapSchemas f r := r.mapInline (mapSchemas f)
  schemas_mapSchemas f r := by
    cases r with
    | ref path description => rfl
    | inline x => exact schemas_mapSchemas f x
  mapSchemas_id r := by
    cases r with
    | ref path description => rfl
    | inline x => exact congrArg ResponseRef.inline (mapSchemas_id x)
  mapSchemas_mapSchemas f g r := by
    cases r with
    | ref path description => rfl
    | inline x => exact congrArg ResponseRef.inline (mapSchemas_mapSchemas f g x)
  mapSchemas_inj_left {f g r} := by
    cases r with
    | ref path description => simp [ResponseRef.mapInline]
    | inline x => simpa [ResponseRef.mapInline] using mapSchemas_inj_left

/-! ## Operations, components and documents -/

/-- What an operation takes and what it answers. -/
def Operation.lens :
    Lens Operation (List ParameterRef × Option RequestBodyRef × Table ResponseRef) where
  get op := (op.parameters, op.requestBody, op.responses)
  set op := fun (parameters, requestBody, responses) =>
    { op with parameters, requestBody, responses }

instance : HasSchemas Operation := .along Operation.lens

/-- The parameters and the operations of a path. -/
def PathItem.lens : Lens PathItem (List ParameterRef × Option Operation × Option Operation ×
    Option Operation × Option Operation × Option Operation × Option Operation ×
    Option Operation × Option Operation) where
  get p := (p.parameters, p.get, p.put, p.post, p.delete, p.options, p.head, p.patch, p.trace)
  set p := fun (parameters, get, put, post, delete, options, head, patch, trace) =>
    { p with parameters, get, put, post, delete, options, head, patch, trace }

instance : HasSchemas PathItem := .along PathItem.lens

/-- The components that have schemas. -/
def Components.lens : Lens Components (Table SchemaRef × Table ResponseRef × Table ParameterRef ×
    Table RequestBodyRef × Table HeaderRef) where
  get c := (c.schemas, c.responses, c.parameters, c.requestBodies, c.headers)
  set c := fun (schemas, responses, parameters, requestBodies, headers) =>
    { c with schemas, responses, parameters, requestBodies, headers }

instance : HasSchemas Components := .along Components.lens

/-- The components and the operations of a document. -/
def Document.lens : Lens Document (Option Components × Table PathItem × Table PathItem) where
  get d := (d.components, d.paths, d.webhooks)
  set d := fun (components, paths, webhooks) => { d with components, paths, webhooks }

instance : HasSchemas Document := .along Document.lens

/-! ## Likeness -/

section Likeness

variable {α β : Type} [HasSchemas α] [HasSchemas β] {R S : SchemaRef → SchemaRef → Prop}

/-- The things differ in their schemas only. -/
def SameShape (x y : α) : Prop :=
  mapSchemas (fun _ => .ref "") x = mapSchemas (fun _ => .ref "") y

/-- The things differ in their schemas only, and these are related one by one. -/
structure Alike (R : SchemaRef → SchemaRef → Prop) (x y : α) : Prop where
  shape : SameShape x y
  related : List.Forall₂ R (schemas x) (schemas y)

/-- What does not depend on schemas holds of both of two things that differ in their schemas only, or
of none. -/
lemma SameShape.iff {P : α → Prop} (hP : ∀ f x, P (mapSchemas f x) ↔ P x) {x y : α}
    (h : SameShape x y) : P x ↔ P y := by
  have hblank : mapSchemas (fun _ => .ref "") x = mapSchemas (fun _ => .ref "") y := h
  rw [← hP (fun _ => .ref "") x, hblank, hP]

lemma SameShape.length_eq {x y : α} (h : SameShape x y) :
    (schemas x).length = (schemas y).length := by
  have hmap := congrArg (fun z => (schemas z).length) h
  simpa [schemas_mapSchemas] using hmap

/-- Every schema of the one thing stands in the place of a schema of the other. -/
lemma SameShape.exists_mem_zip {x y : α} (h : SameShape x y) {r : SchemaRef} (hr : r ∈ schemas y) :
    ∃ q, (q, r) ∈ (schemas x).zip (schemas y) := by
  have hmem : r ∈ ((schemas x).zip (schemas y)).map Prod.snd := by
    rwa [List.map_snd_zip h.length_eq.ge]
  obtain ⟨e, he, rfl⟩ := List.mem_map.1 hmem
  exact ⟨e.1, he⟩

end Likeness

/-! ## What holds of all schemas -/

/-- All schemas of a thing have some property. -/
def EverySchema {α : Type} [HasSchemas α] (P : SchemaRef → Prop) (x : α) : Prop :=
  ∀ r ∈ schemas x, P r

namespace EverySchema

variable {α β : Type} [HasSchemas α] [HasSchemas β] {P Q : SchemaRef → Prop}

lemma ref_iff {r : SchemaRef} : EverySchema P r ↔ P r := List.forall_mem_singleton

lemma option_iff {o : Option α} : EverySchema P o ↔ ∀ x ∈ o, EverySchema P x := by
  cases o with
  | none => exact ⟨fun _ x hx => (Option.not_mem_none x hx).elim, fun _ r hr => by cases hr⟩
  | some x => exact ⟨fun h y hy => Option.mem_some.1 hy ▸ h, fun h => h x rfl⟩

lemma list_iff {xs : List α} : EverySchema P xs ↔ ∀ x ∈ xs, EverySchema P x := by
  refine ⟨fun h x hx r hr => h r (List.mem_flatMap.2 ⟨x, hx, hr⟩), fun h r hr => ?_⟩
  obtain ⟨x, hx, hr⟩ := List.mem_flatMap.1 hr
  exact h x hx r hr

lemma table_iff {t : Table α} : EverySchema P t ↔ ∀ v ∈ t.values, EverySchema P v := list_iff

lemma prod_iff {x : α × β} : EverySchema P x ↔ EverySchema P x.1 ∧ EverySchema P x.2 :=
  List.forall_mem_append

lemma referable_iff {r : Referable α} : EverySchema P r ↔ ∀ x ∈ r.inline?, EverySchema P x := by
  cases r with
  | ref path => exact ⟨fun _ x hx => (Option.not_mem_none x hx).elim, fun _ r hr => by cases hr⟩
  | inline x => exact ⟨fun h y hy => Option.mem_some.1 hy ▸ h, fun h => h x rfl⟩

lemma responseRef_iff {r : ResponseRef} :
    EverySchema P r ↔ ∀ x ∈ r.target.inline?, EverySchema P x := by
  cases r with
  | ref path description =>
    exact ⟨fun _ x hx => (Option.not_mem_none x hx).elim, fun _ r hr => by cases hr⟩
  | inline x => exact ⟨fun h y hy => Option.mem_some.1 hy ▸ h, fun h => h x rfl⟩

lemma parameter_iff {p : Parameter} :
    EverySchema P p ↔ EverySchema P p.schema ∧ EverySchema P p.content := prod_iff

lemma response_iff {r : Response} :
    EverySchema P r ↔ EverySchema P r.content ∧ EverySchema P r.headers := prod_iff

lemma operation_iff {op : Operation} :
    EverySchema P op ↔ EverySchema P op.parameters ∧ EverySchema P op.requestBody ∧
      EverySchema P op.responses :=
  prod_iff.trans (and_congr_right' prod_iff)

lemma pathItem_iff {p : PathItem} :
    EverySchema P p ↔ EverySchema P p.parameters ∧ ∀ m, EverySchema P (p.operation? m) := by
  have hfields : EverySchema P p ↔ EverySchema P p.parameters ∧ EverySchema P p.get ∧
      EverySchema P p.put ∧ EverySchema P p.post ∧ EverySchema P p.delete ∧
      EverySchema P p.options ∧ EverySchema P p.head ∧ EverySchema P p.patch ∧
      EverySchema P p.trace := by
    iterate 7 refine prod_iff.trans (and_congr_right' ?_)
    exact prod_iff
  rw [hfields]
  refine and_congr_right' ⟨?_, fun h => ⟨h .get, h .put, h .post, h .delete, h .options, h .head,
    h .patch, h .trace⟩⟩
  rintro ⟨hget, hput, hpost, hdelete, hoptions, hhead, hpatch, htrace⟩ m
  cases m <;> assumption

lemma components_iff {c : Components} :
    EverySchema P c ↔ EverySchema P c.schemas ∧ EverySchema P c.responses ∧
      EverySchema P c.parameters ∧ EverySchema P c.requestBodies ∧ EverySchema P c.headers := by
  iterate 3 refine prod_iff.trans (and_congr_right' ?_)
  exact prod_iff

lemma document_iff {d : Document} :
    EverySchema P d ↔ EverySchema P d.components ∧ EverySchema P d.paths ∧
      EverySchema P d.webhooks :=
  prod_iff.trans (and_congr_right' prod_iff)

lemma mapSchemas {f : SchemaRef → SchemaRef} (hf : ∀ r, P r → Q (f r)) {x : α}
    (h : EverySchema P x) : EverySchema Q (mapSchemas f x) := by
  intro r hr
  rw [schemas_mapSchemas] at hr
  obtain ⟨q, hq, rfl⟩ := List.mem_map.1 hr
  exact hf q (h q hq)

end EverySchema

/-! ## Things that are determined by their schemas -/

namespace HasSchemas

/-- The shape and the schemas determine a thing. -/
class Extensional (α : Type) [HasSchemas α] : Prop where
  ext {x y : α} : SameShape x y → schemas x = schemas y → x = y

variable {α β : Type} [HasSchemas α] [HasSchemas β] [Extensional α] [Extensional β]

instance : Extensional SchemaRef where
  ext _ h := List.singleton_inj.1 h

instance : Extensional (Option α) where
  ext {o o'} hshape hschemas := by
    cases o with
    | none =>
      cases o' with
      | none => rfl
      | some y => cases hshape
    | some x =>
      cases o' with
      | none => cases hshape
      | some y => exact congrArg some (Extensional.ext (Option.some.inj hshape) hschemas)

instance : Extensional (α × β) where
  ext {x y} hshape hschemas := by
    obtain ⟨hfst, hsnd⟩ := Prod.mk.inj hshape
    obtain ⟨hschemas, hschemas'⟩ := List.append_inj hschemas (SameShape.length_eq hfst)
    exact Prod.ext (Extensional.ext hfst hschemas) (Extensional.ext hsnd hschemas')

instance : Extensional (List α) where
  ext {xs ys} hshape hschemas := by
    induction xs generalizing ys with
    | nil => exact (List.map_eq_nil_iff.1 hshape.symm).symm
    | cons x xs ih =>
      obtain ⟨y, ys, rfl, hy, hys⟩ := List.map_eq_cons_iff.1 hshape.symm
      have hhead : SameShape x y := hy.symm
      obtain ⟨hschemas, hschemas'⟩ := List.append_inj hschemas hhead.length_eq
      rw [Extensional.ext hhead hschemas, ih hys.symm hschemas']

instance : Extensional (Table α) where
  ext {t t'} hshape hschemas := by
    have hkeys : t.keys = t'.keys := by
      have hkeys := congrArg Table.keys hshape
      simpa only [mapSchemas, Table.keys_map] using hkeys
    have hvalues : t.values = t'.values := by
      refine Extensional.ext ?_ hschemas
      have hvalues := congrArg Table.values hshape
      simp only [mapSchemas, Table.values_map] at hvalues
      exact hvalues
    exact congrArg Table.mk
      ((List.zip_of_prod hkeys hvalues).trans (List.zip_of_prod rfl rfl).symm)

instance : Extensional (Referable α) where
  ext {r r'} hshape hschemas := by
    cases r with
    | ref path =>
      cases r' with
      | ref path' => exact hshape
      | inline y => cases hshape
    | inline x =>
      cases r' with
      | ref path' => cases hshape
      | inline y =>
        exact congrArg Referable.inline (Extensional.ext (Referable.inline.inj hshape) hschemas)

omit [HasSchemas β] [Extensional β] in
/-- The parts of a record and what lies around them determine it. -/
lemma Extensional.along (l : Lens β α) : @Extensional β (.along l) := by
  let _ : HasSchemas β := .along l
  refine ⟨fun {x y} hshape hschemas => ?_⟩
  have hset : l.set x (mapSchemas (fun _ => .ref "") (l.get x)) =
      l.set y (mapSchemas (fun _ => .ref "") (l.get y)) := hshape
  have hget : l.get x = l.get y := by
    refine Extensional.ext ?_ hschemas
    have hget := congrArg l.get hset
    rwa [l.get_set, l.get_set] at hget
  have hreset := congrArg (fun z => l.set z (l.get x)) hset
  simp only [l.set_set, l.set_get] at hreset
  rw [hreset, hget, l.set_get]

instance : Extensional MediaType := Extensional.along MediaType.lens

instance : Extensional Parameter := Extensional.along Parameter.lens

instance : Extensional RequestBody := Extensional.along RequestBody.lens

instance : Extensional Header := Extensional.along Header.lens

instance : Extensional Response := Extensional.along Response.lens

instance : Extensional ResponseRef where
  ext {r r'} hshape hschemas := by
    cases r with
    | ref path description =>
      cases r' with
      | ref path' description' => exact hshape
      | inline y => cases hshape
    | inline x =>
      cases r' with
      | ref path' description' => cases hshape
      | inline y =>
        exact congrArg ResponseRef.inline
          (Extensional.ext (ResponseRef.inline.inj hshape) hschemas)

instance : Extensional Operation := Extensional.along Operation.lens

instance : Extensional PathItem := Extensional.along PathItem.lens

instance : Extensional Components := Extensional.along Components.lens

instance : Extensional Document := Extensional.along Document.lens

end HasSchemas

variable {α : Type} [HasSchemas α] {R : SchemaRef → SchemaRef → Prop} {x y : α}

lemma SameShape.mapSchemas {f g : SchemaRef → SchemaRef} (h : SameShape x y) :
    SameShape (mapSchemas f x) (mapSchemas g y) := by
  rw [SameShape, mapSchemas_mapSchemas, mapSchemas_mapSchemas]
  exact h

/-- **A map that levels related schemas levels things that are alike.** -/
theorem Alike.mapSchemas_eq [HasSchemas.Extensional α] {f : SchemaRef → SchemaRef}
    (hf : ∀ r r', R r r' → f r' = f r) (h : Alike R x y) : mapSchemas f y = mapSchemas f x := by
  refine (HasSchemas.Extensional.ext h.shape.mapSchemas ?_).symm
  rw [schemas_mapSchemas, schemas_mapSchemas]
  exact List.forall₂_eq_eq_eq ▸ List.forall₂_map_left_iff.2
    (List.forall₂_map_right_iff.2 (h.related.imp fun r r' hr => (hf r r' hr).symm))

end ApiLowering
