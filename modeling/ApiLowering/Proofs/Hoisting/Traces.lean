import ApiLowering.Hoisting
import ApiLowering.Proofs.Document.Schemas
import ApiLowering.Proofs.Schema.Basic
import Mathlib.Data.List.Perm.Subperm

/-!
# Traces of hoisting

What hoisting does to the schemas of a document is a sequence of a few kinds of steps: a schema
stays as it is, what is below it is hoisted, or it becomes a component and leaves a reference. A
trace records these steps with what each schema has become, and forgets from where names are
derived: a name is any that was not in use when it was chosen, before what is below was hoisted.

## Main definitions

* `Schema.SameNode` — two schemas differ in their children only.
* `Hoisting.Trace` — the steps from one pool to another, with each schema before and after.
* `Hoisting.Tracks` — a step of hoisting has a trace.

## Main results

* `Hoisting.freshName_not_mem` — a name that is chosen is not in use.
* `Hoisting.tracks_visit` — hoisting at a place has a trace.
* `Hoisting.tracks_walkDocument` — hoisting the schemas of a document has a trace.
-/

namespace ApiLowering

namespace Hoisting

/-! ## Names -/

lemma numbered_injective (name : String) : Function.Injective (numbered name) := by
  intro i j h
  have hdigits : Nat.toDigits 10 (i + 1) = Nat.toDigits 10 (j + 1) := by
    have htexts := congrArg String.toList ((String.append_right_inj name).1 h)
    simpa only [Nat.toString_eq_repr, Nat.toList_repr] using htexts
  have hvalues := congrArg (Nat.ofDigitChars 10 · 0) hdigits
  simp only [Nat.ofDigitChars_ten_toDigits] at hvalues
  exact Nat.succ.inj hvalues

/-- **A name that is chosen is not in use**: among more numbers than there are names in use one
makes a new name. -/
theorem freshName_not_mem (used : List String) (wanted : String) :
    freshName used wanted ∉ used := by
  rw [freshName]
  split
  · cases hfind : ((List.range (used.length + 1)).map (numbered wanted)).find?
        (!used.contains ·) with
    | some name => simpa using List.find?_some hfind
    | none =>
      -- otherwise all of these names would be in use, and they are one too many
      have hsubset : (List.range (used.length + 1)).map (numbered wanted) ⊆ used :=
        fun name hname => by simpa using List.find?_eq_none.1 hfind name hname
      have hnodup : ((List.range (used.length + 1)).map (numbered wanted)).Nodup :=
        List.nodup_range.map (numbered_injective wanted)
      have hlength := (List.subperm_of_subset hnodup hsubset).length_le
      simp only [List.length_map, List.length_range] at hlength
      omega
  · rename_i h
    simpa using h

lemma candidate_not_mem (rules : Rules) (used : List String) (place : String) :
    candidate rules used place ∉ used :=
  freshName_not_mem used _

end Hoisting

/-! ## Schemas and their children -/

instance {α : Type} [HasSchemas α] : HasSchemas (Additional α) where
  schemas
    | .allowed _ => []
    | .values x => schemas x
  mapSchemas f a := a.map (mapSchemas f)
  schemas_mapSchemas f a := by
    cases a with
    | allowed b => rfl
    | values x => exact schemas_mapSchemas f x
  mapSchemas_id a := by
    cases a with
    | allowed b => rfl
    | values x => exact congrArg Additional.values (mapSchemas_id x)
  mapSchemas_mapSchemas f g a := by
    cases a with
    | allowed b => rfl
    | values x => exact congrArg Additional.values (mapSchemas_mapSchemas f g x)
  mapSchemas_inj_left {f g a} := by
    cases a with
    | allowed b => simp
    | values x => simpa using mapSchemas_inj_left

namespace Schema

/-- The children of a schema, in the order in which they are hoisted. -/
abbrev Fields : Type :=
  Table SchemaRef × List SchemaRef × List SchemaRef × List SchemaRef × Option SchemaRef ×
    Option (Additional SchemaRef) × Option SchemaRef

/-- The children of a schema. -/
def fields (s : Schema) : Fields :=
  (s.properties, s.allOf, s.oneOf, s.anyOf, s.items, s.additional, s.negated)

lemma schemas_list (rs : List SchemaRef) : schemas rs = rs := List.flatMap_singleton' rs

lemma schemas_table (t : Table SchemaRef) : schemas t = t.values := schemas_list t.values

lemma schemas_fields (s : Schema) :
    schemas s.fields = s.properties.values ++ (s.allOf ++ (s.oneOf ++
    (s.anyOf ++ (s.items.toList ++ ((s.additional.bind Additional.values?).toList ++
      s.negated.toList))))) := by
  have hoption (o : Option SchemaRef) : schemas o = o.toList := by
    cases o <;> rfl
  have hadditional (o : Option (Additional SchemaRef)) :
      schemas o = (o.bind Additional.values?).toList := by
    rcases o with - | ⟨b⟩ | ⟨r⟩ <;> rfl
  rw [← schemas_table, ← schemas_list s.allOf, ← schemas_list s.oneOf, ← schemas_list s.anyOf,
    ← hoption, ← hadditional, ← hoption]
  rfl

lemma mem_schemas_fields {s : Schema} {r : SchemaRef} : r ∈ schemas s.fields ↔ r ∈ s.children := by
  simp only [schemas_fields, children, List.mem_append]
  tauto

/-- The schemas differ in their children only. -/
structure SameNode (s t : Schema) : Prop where
  keywords : t.keywords = s.keywords
  fields : SameShape s.fields t.fields

end Schema

namespace Hoisting

/-! ## Traces -/

/-- The steps from one pool to another, with each schema before and after. -/
inductive Trace : Pool → List (SchemaRef × SchemaRef) → Pool → Prop
  | nil {p : Pool} : Trace p [] p
  | append {p q r : Pool} {xs ys : List (SchemaRef × SchemaRef)} : Trace p xs q → Trace q ys r →
    Trace p (xs ++ ys) r
  /-- A schema stays as it is. -/
  | stay {p : Pool} {r : SchemaRef} : Trace p [(r, r)] p
  /-- What is below a schema is hoisted. -/
  | walk {p q : Pool} {s t : Schema} : s.SameNode t →
    Trace p ((schemas s.fields).zip (schemas t.fields)) q → Trace p [(.inline s, .inline t)] q
  /-- A schema becomes a component, under a name that was free before what is below was hoisted. -/
  | add {p q : Pool} {s t : Schema} {name : String} : name ∉ p.used → s.SameNode t →
    Trace p ((schemas s.fields).zip (schemas t.fields)) q →
    Trace p [(.inline s, .ref (Reference.toSchema name))]
      { used := name :: q.used, added := q.added.insert name t }
  /-- A schema shares a component with one that is the same. -/
  | share {p q : Pool} {s t u : Schema} {name : String} : s.SameNode t →
    Trace p ((schemas s.fields).zip (schemas t.fields)) q → (name, u) ∈ q.added.entries →
    u.same t = true → Trace p [(.inline s, .ref (Reference.toSchema name))] q

variable {α β : Type} [HasSchemas α]

/-- A step of hoisting has a trace: it changes nothing but schemas, and these as the trace says. -/
def Tracks (x : α) (step : Step α) : Prop :=
  ∀ p, SameShape x (step p).1 ∧ Trace p ((schemas x).zip (schemas (step p).1)) (step p).2

lemma trace_stay (p : Pool) (rs : List SchemaRef) : Trace p (rs.zip rs) p := by
  induction rs with
  | nil => exact .nil
  | cons r rs ih => exact .append .stay ih

lemma tracks_pure (x : α) : Tracks x (pure x) := fun p => ⟨rfl, trace_stay p _⟩

/-- One thing after the other. -/
lemma tracks_pair [HasSchemas β] {x : α} {y : β} {stepx : Step α} {stepy : Step β}
    (hx : Tracks x stepx) (hy : Tracks y stepy) :
    Tracks (x, y) (do
      let x ← stepx
      let y ← stepy
      return (x, y)) := by
  intro p
  obtain ⟨hshape, htrace⟩ := hx p
  obtain ⟨hshape', htrace'⟩ := hy (stepx p).2
  refine ⟨Prod.ext hshape hshape', ?_⟩
  change Trace p ((schemas x ++ schemas y).zip (schemas (stepx p).1 ++
    schemas (stepy (stepx p).2).1)) _
  rw [List.zip_append hshape.length_eq]
  exact htrace.append htrace'

/-- The parts of a record. -/
lemma tracks_along (l : Lens β α) (y : β) {step : Step α} (h : Tracks (l.get y) step) :
    @Tracks β (.along l) y (do
      let x ← step
      return l.set y x) := by
  intro p
  obtain ⟨hshape, htrace⟩ := h p
  refine ⟨?_, ?_⟩
  · change l.set y _ = l.set (l.set y (step p).1) (mapSchemas _ (l.get (l.set y (step p).1)))
    rw [l.get_set, l.set_set]
    exact congrArg (l.set y) hshape
  · change Trace p ((schemas (l.get y)).zip (schemas (l.get (l.set y (step p).1)))) _
    rw [l.get_set]
    exact htrace

lemma tracks_some {x : α} {step : Step α} (h : Tracks x step) :
    Tracks (some x) (some <$> step) := by
  intro p
  obtain ⟨hshape, htrace⟩ := h p
  exact ⟨congrArg some hshape, htrace⟩

lemma tracks_mapM {step : α → Step α} {xs : List α} (h : ∀ x ∈ xs, Tracks x (step x)) :
    Tracks xs (xs.mapM step) := by
  induction xs with
  | nil => exact tracks_pure []
  | cons x xs ih =>
    have hpair := tracks_pair (h x (by simp)) (ih fun y hy => h y (List.mem_cons_of_mem _ hy))
    rw [List.mapM_cons]
    intro p
    obtain ⟨hshape, htrace⟩ := hpair p
    obtain ⟨hx, hxs⟩ := Prod.ext_iff.1 hshape
    exact ⟨congrArg₂ List.cons hx hxs, htrace⟩

lemma tracks_forValues {step : String → α → Step α} {t : Table α}
    (h : ∀ e ∈ t.entries, Tracks e.2 (step e.1 e.2)) : Tracks t (forValues step t) := by
  obtain ⟨es⟩ := t
  induction es with
  | nil => exact tracks_pure (⟨[]⟩ : Table α)
  | cons e es ih =>
    have hpair := tracks_pair (h e (by simp)) (ih fun f hf => h f (List.mem_cons_of_mem _ hf))
    rw [forValues, List.mapM_cons]
    intro p
    obtain ⟨hshape, htrace⟩ := hpair p
    obtain ⟨hx, hxs⟩ := Prod.ext_iff.1 hshape
    refine ⟨?_, htrace⟩
    exact congrArg Table.mk (congrArg₂ List.cons (congrArg (Prod.mk e.1) hx)
      (congrArg Table.entries hxs))

/-! ## Walks -/

section Walks

variable (rules : Rules)

lemma walkProperties_eq (name : String) (t : Table SchemaRef) :
    walkProperties rules name t =
      forValues (fun key r => visit rules (name ++ "_" ++ key) .property r) t := by
  obtain ⟨es⟩ := t
  have hentries : walkEntries rules name es = es.mapM fun e => do
      return (e.1, ← visit rules (name ++ "_" ++ e.1) .property e.2) := by
    induction es with
    | nil => rw [walkEntries, List.mapM_nil]
    | cons e es ih =>
      rw [walkEntries, List.mapM_cons, ih]
      obtain ⟨key, r⟩ := e
      rw [walkEntry]
  rw [walkProperties, hentries]
  rfl

lemma walkParts_eq (name : String) (rs : List SchemaRef) :
    walkParts rules name rs = rs.mapM (walkPart rules name) := by
  induction rs with
  | nil => rw [walkParts, List.mapM_nil]
  | cons r rs ih => rw [walkParts, List.mapM_cons, ih]

lemma visitAll_eq (place : String) (rs : List SchemaRef) :
    visitAll rules place rs = rs.mapM (visit rules place .nested) := by
  induction rs with
  | nil => rw [visitAll, List.mapM_nil]
  | cons r rs ih => rw [visitAll, List.mapM_cons, ih]

lemma tracks_visitItems {place : String} {isArray : Bool} {o : Option SchemaRef}
    (h : ∀ r ∈ o, Tracks r (visit rules place .nested r)) :
    Tracks o (visitItems rules place isArray o) := by
  cases o with
  | none =>
    rw [visitItems]
    exact tracks_pure none
  | some r =>
    rw [visitItems]
    cases isArray with
    | false => exact tracks_pure (some r)
    | true => exact tracks_some (h r rfl)

lemma tracks_visitAdditional {place : String} {isMap : Bool} {o : Option (Additional SchemaRef)}
    (h : ∀ r, o = some (.values r) → Tracks r (visit rules place .nested r)) :
    Tracks o (visitAdditional rules place isMap o) := by
  rcases o with - | ⟨b⟩ | ⟨r⟩ <;> rw [visitAdditional]
  · exact tracks_pure none
  · cases isMap with
    | false => exact tracks_pure _
    | true =>
      rw [visitValues]
      exact tracks_pure (some (Additional.allowed (σ := SchemaRef) b))
  · cases isMap with
    | false => exact tracks_pure _
    | true =>
      rw [visitValues]
      intro p
      obtain ⟨hshape, htrace⟩ := h r rfl p
      exact ⟨congrArg (some ∘ Additional.values) hshape, htrace⟩

/-- A step of hoisting below a schema has a trace. -/
def TracksNode (s : Schema) (step : Step Schema) : Prop :=
  ∀ p, s.SameNode (step p).1 ∧
    Trace p ((schemas s.fields).zip (schemas (step p).1.fields)) (step p).2

lemma tracksNode_walkModel {s : Schema}
    (hvisit : ∀ r ∈ s.children, ∀ place site, Tracks r (visit rules place site r))
    (hpart : ∀ r ∈ s.children, ∀ name, Tracks r (walkPart rules name r)) (name : String) :
    TracksNode s (walkModel rules name s) := by
  obtain ⟨keywords, properties, items, additional, negated, allOf, oneOf, anyOf⟩ := s
  simp only [Schema.mem_children] at hvisit hpart
  have hproperties : Tracks properties (walkProperties rules name properties) := by
    rw [walkProperties_eq]
    exact tracks_forValues fun e he => hvisit e.2 (.inl (List.mem_map_of_mem he)) _ _
  have hallOf : Tracks allOf (walkParts rules name allOf) := by
    rw [walkParts_eq]
    exact tracks_mapM fun r hr => hpart r (by simp [hr]) name
  have honeOf : Tracks oneOf (visitAll rules (name ++ "_OneOf") oneOf) := by
    rw [visitAll_eq]
    exact tracks_mapM fun r hr => hvisit r (by simp [hr]) _ _
  have hanyOf : Tracks anyOf (visitAll rules (name ++ "_AnyOf") anyOf) := by
    rw [visitAll_eq]
    exact tracks_mapM fun r hr => hvisit r (by simp [hr]) _ _
  have hitems (isArray : Bool) : Tracks items (visitItems rules (name ++ "_Inner") isArray items) :=
    tracks_visitItems rules fun r hr => hvisit r (by simp_all) _ _
  have hadditional (isMap : Bool) :
      Tracks additional (visitAdditional rules (name ++ "_Value") isMap additional) :=
    tracks_visitAdditional rules fun r hr => hvisit r (by simp_all) _ _
  intro p
  rw [walkModel]
  obtain ⟨hshape, htrace⟩ := tracks_pair hproperties (tracks_pair hallOf (tracks_pair honeOf
    (tracks_pair hanyOf (tracks_pair (hitems _) (tracks_pair (hadditional _)
      (tracks_pure negated)))))) p
  exact ⟨⟨rfl, hshape⟩, htrace⟩

lemma tracksNode_walkContainer {s : Schema}
    (hvisit : ∀ r ∈ s.children, ∀ place site, Tracks r (visit rules place site r))
    (place : String) : TracksNode s (walkContainer rules place s) := by
  obtain ⟨keywords, properties, items, additional, negated, allOf, oneOf, anyOf⟩ := s
  simp only [Schema.mem_children] at hvisit
  have hitems (isArray : Bool) :
      Tracks items (visitItems rules (place ++ "_Inner") isArray items) :=
    tracks_visitItems rules fun r hr => hvisit r (by simp_all) _ _
  have hadditional (isMap : Bool) :
      Tracks additional (visitAdditional rules (place ++ "_Value") isMap additional) :=
    tracks_visitAdditional rules fun r hr => hvisit r (by simp_all) _ _
  intro p
  rw [walkContainer]
  obtain ⟨hshape, htrace⟩ := tracks_pair (tracks_pure properties) (tracks_pair (tracks_pure allOf)
    (tracks_pair (tracks_pure oneOf) (tracks_pair (tracks_pure anyOf) (tracks_pair (hitems _)
      (tracks_pair (hadditional _) (tracks_pure negated)))))) p
  exact ⟨⟨rfl, hshape⟩, htrace⟩

/-- A schema that is registered becomes a component, or shares one. -/
lemma trace_register {p q : Pool} {s t : Schema} {name : String} (hname : name ∉ p.used)
    (hnode : s.SameNode t) (h : Trace p ((schemas s.fields).zip (schemas t.fields)) q) :
    Trace p [(.inline s, .ref (Reference.toSchema (register rules name t q).1))]
      (register rules name t q).2 := by
  rw [register]
  cases hfind : (if rules.reuse then q.added.entries.find? fun e => e.2.same t else none) with
  | none => exact .add hname hnode h
  | some found =>
    obtain ⟨existing, u⟩ := found
    split at hfind
    · exact .share hnode h (List.mem_of_find?_eq_some hfind) (by simpa using List.find?_some hfind)
    · cases hfind

/-- **Hoisting has a trace**: at a place, and below a part of a model.

**Proof sketch.** Induction from the leaves to the root. The name of a schema is chosen before the
walk below it, so it is free in the pool that the walk starts from. -/
theorem tracks_visit_walkPart (r : SchemaRef) :
    (∀ place site, Tracks r (visit rules place site r)) ∧
      ∀ name, Tracks r (walkPart rules name r) := by
  induction r using Schema.ref_induction with
  | ref path =>
    constructor
    · intro place site
      rw [visit]
      exact tracks_pure _
    · intro name
      rw [walkPart]
      exact tracks_pure _
  | inline s ih =>
    have hvisit := fun r hr => (ih r hr).1
    have hmodel := tracksNode_walkModel rules hvisit fun r hr => (ih r hr).2
    constructor
    · intro place site p
      rw [visit]
      split
      · obtain ⟨hnode, htrace⟩ := hmodel (candidate rules p.used place) p
        exact ⟨rfl, trace_register rules (candidate_not_mem rules p.used place) hnode htrace⟩
      · obtain ⟨hnode, htrace⟩ := tracksNode_walkContainer rules hvisit place p
        exact ⟨rfl, .walk hnode htrace⟩
    · intro name p
      rw [walkPart]
      obtain ⟨hnode, htrace⟩ := hmodel name p
      exact ⟨rfl, .walk hnode htrace⟩

/-! ## Contents and operations -/

lemma tracks_visit (place : String) (site : Site) (r : SchemaRef) :
    Tracks r (visit rules place site r) :=
  (tracks_visit_walkPart rules r).1 place site

lemma tracks_walkPart (name : String) (r : SchemaRef) : Tracks r (walkPart rules name r) :=
  (tracks_visit_walkPart rules r).2 name

omit rules in
lemma tracks_forSchema {step : SchemaRef → Step SchemaRef} (h : ∀ r, Tracks r (step r))
    (m : MediaType) : Tracks m (forSchema step m) := by
  obtain ⟨schema, encoding, sample, samples, extensions⟩ := m
  cases schema with
  | none => exact tracks_pure _
  | some r =>
    exact tracks_along MediaType.lens ⟨some r, encoding, sample, samples, extensions⟩
      (tracks_some (h r))

lemma tracks_walkContent (place : String) (content : Table MediaType) :
    Tracks content (walkContent rules place content) := by
  refine tracks_forValues fun e _ => tracks_forSchema (fun r => ?_) e.2
  split
  · exact tracks_walkPart rules place r
  · exact tracks_visit rules place .nested r

/-- The schemas of a table of media types at one place. -/
lemma tracks_visitContent (place : String) (content : Table MediaType) :
    Tracks content (forValues (fun _ m => forSchema (visit rules place .nested) m) content) :=
  tracks_forValues fun e _ => tracks_forSchema (tracks_visit rules place .nested) e.2

lemma tracks_walkParameter (operation : String) (p : Parameter) :
    Tracks p (walkParameter rules operation p) := by
  have hcontent := tracks_visitContent rules (operation ++ "_" ++ p.name ++ "_Parameter") p.content
  rw [walkParameter]
  cases hschema : p.schema with
  | none =>
    have hpure : Tracks p.schema (pure none) := hschema ▸ tracks_pure none
    exact tracks_along Parameter.lens p (tracks_pair hpure hcontent)
  | some r =>
    have hvisit : Tracks p.schema
        (some <$> visit rules (operation ++ "_" ++ p.name ++ "_Parameter") .nested r) :=
      hschema ▸ tracks_some (tracks_visit rules _ .nested r)
    exact tracks_along Parameter.lens p (tracks_pair hvisit hcontent)

lemma tracks_walkResponse (place : String) (r : ResponseRef) :
    Tracks r (walkResponse rules place r) := by
  cases r with
  | ref path description => exact tracks_pure _
  | inline r =>
    have hresponse : Tracks r (do
        let content ← forValues (fun _ m => forSchema (visit rules place .nested) m) r.content
        return { r with content }) :=
      tracks_along Response.lens r
        (tracks_pair (tracks_visitContent rules place r.content) (tracks_pure r.headers))
    intro p
    obtain ⟨hshape, htrace⟩ := hresponse p
    exact ⟨congrArg ResponseRef.inline hshape, htrace⟩

omit rules in
lemma tracks_forInline {step : α → Step α} (h : ∀ x, Tracks x (step x)) (r : Referable α) :
    Tracks r (forInline step r) := by
  cases r with
  | ref path => exact tracks_pure _
  | inline x =>
    intro p
    obtain ⟨hshape, htrace⟩ := h x p
    exact ⟨congrArg Referable.inline hshape, htrace⟩

lemma tracks_walkBody (place : String) (b : RequestBody) :
    Tracks b (walkBody rules place b) :=
  tracks_along RequestBody.lens b (tracks_walkContent rules place b.content)

lemma tracks_walkOperation (name : String) (op : Operation) :
    Tracks op (walkOperation rules name op) := by
  have hparameters : Tracks op.parameters
      (op.parameters.mapM (forInline (walkParameter rules name))) :=
    tracks_mapM fun p _ => tracks_forInline (tracks_walkParameter rules name) p
  have hresponses : Tracks op.responses (forValues
      (fun code r => walkResponse rules (name ++ "_Response_" ++ code) r) op.responses) :=
    tracks_forValues fun e _ => tracks_walkResponse rules _ e.2
  rw [walkOperation]
  cases hbody : op.requestBody with
  | none =>
    have hpure : Tracks op.requestBody (pure none) := hbody ▸ tracks_pure none
    exact tracks_along Operation.lens op (tracks_pair hparameters (tracks_pair hpure hresponses))
  | some b =>
    have hwalk : Tracks op.requestBody
        (some <$> forInline (walkBody rules (name ++ "_Request")) b) :=
      hbody ▸ tracks_some (tracks_forInline (tracks_walkBody rules _) b)
    exact tracks_along Operation.lens op (tracks_pair hparameters (tracks_pair hwalk hresponses))

/-! ## Paths, components and documents -/

/-- Hoisting the schemas of an operation, if there is one. -/
def walkMethod (name : Operation → String) : Option Operation → Step (Option Operation)
  | some op => some <$> walkOperation rules (name op) op
  | none => pure none

lemma tracks_walkMethod (name : Operation → String) (o : Option Operation) :
    Tracks o (walkMethod rules name o) := by
  cases o with
  | none => exact tracks_pure none
  | some op => exact tracks_some (tracks_walkOperation rules (name op) op)

lemma walkPath_eq (path : String) (p : PathItem) :
    walkPath rules path p = HttpMethod.all.foldlM (fun p m => do
      let op ← walkMethod rules (·.operationId.getD (Names.operationId path m.text))
        (p.operation? m)
      return p.setOperation m op) p := by
  rw [walkPath]
  congr 1
  funext p m
  cases hop : p.operation? m with
  | none =>
    have hself : p.setOperation m none = p := by
      rw [← hop]
      cases m <;> rfl
    rw [walkMethod, pure_bind, hself]
  | some op => rfl

lemma tracks_walkPath (path : String) (p : PathItem) : Tracks p (walkPath rules path p) := by
  have hop (m : HttpMethod) (o : Option Operation) := tracks_walkMethod rules
    (·.operationId.getD (Names.operationId path m.text)) o
  rw [walkPath_eq]
  exact tracks_along PathItem.lens p (tracks_pair (tracks_pure p.parameters)
    (tracks_pair (hop .get p.get) (tracks_pair (hop .put p.put) (tracks_pair (hop .post p.post)
      (tracks_pair (hop .delete p.delete) (tracks_pair (hop .options p.options)
        (tracks_pair (hop .head p.head) (tracks_pair (hop .patch p.patch)
          (hop .trace p.trace)))))))))

lemma tracks_walkComponents (c : Components) : Tracks c (walkComponents rules c) := by
  have hschemas : Tracks c.schemas (forValues (fun key r => walkPart rules key r) c.schemas) :=
    tracks_forValues fun e _ => tracks_walkPart rules e.1 e.2
  have hbodies : Tracks c.requestBodies (forValues
      (fun key b => forInline (walkBody rules (key ++ "_request")) b) c.requestBodies) :=
    tracks_forValues fun e _ => tracks_forInline (tracks_walkBody rules _) e.2
  exact tracks_along Components.lens c (tracks_pair hschemas (tracks_pair (tracks_pure c.responses)
    (tracks_pair (tracks_pure c.parameters) (tracks_pair hbodies (tracks_pure c.headers)))))

/-- **Hoisting the schemas of a document has a trace.** -/
theorem tracks_walkDocument (d : Document) : Tracks d (walkDocument rules d) := by
  have hpaths : Tracks d.paths (forValues (walkPath rules) d.paths) :=
    tracks_forValues fun e _ => tracks_walkPath rules e.1 e.2
  have hrest := tracks_pair hpaths (tracks_pure d.webhooks)
  rw [walkDocument]
  cases hcomponents : d.components with
  | none =>
    have hpure : Tracks d.components (pure none) := hcomponents ▸ tracks_pure none
    exact tracks_along Document.lens d (tracks_pair hpure hrest)
  | some c =>
    have hwalk : Tracks d.components (some <$> walkComponents rules c) :=
      hcomponents ▸ tracks_some (tracks_walkComponents rules c)
    exact tracks_along Document.lens d (tracks_pair hwalk hrest)

end Walks

end Hoisting

end ApiLowering
