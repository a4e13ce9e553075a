import ApiLowering.Proofs.Hoisting.Restoration

/-!
# Hoisting comes to rest

What hoisting leaves of a document is a document at which hoisting changes nothing, the components
that it adds included. The decision to hoist a schema looks at its own keywords and at which kinds
of children it has; neither changes when children become references. So whatever stays in its place
would stay there again, and what became a component is walked again just as it was walked before.

## Main definitions

* `Hoisting.AtRest` — a walk changes nothing at a thing.
* `Hoisting.Orderly` — a pool whose components are at rest, and different in name and content.
* `Hoisting.Settles` — what a walk leaves of a thing is at rest, and the pool stays orderly.

## Main results

* `Hoisting.settles_visit_walkPart` — hoisting at a place settles.
* `Hoisting.settles_walkSchemas`, `Hoisting.settles_walkBodies`, `Hoisting.settles_walkPaths` — so
  does hoisting in the parts of a document.
-/

namespace ApiLowering

namespace Hoisting

open Schema

variable {α β : Type}

/-! ## Walks of parts -/

/-- Walks over two things, one after the other. -/
def both (f : α → Step α) (g : β → Step β) (z : α × β) : Step (α × β) := do
  let x ← f z.1
  let y ← g z.2
  return (x, y)

/-- A walk over the parts of a record, which may look at the record. -/
def along (l : Lens β α) (walk : β → α → Step α) (y : β) : Step β := do
  let x ← walk y (l.get y)
  return l.set y x

/-- A walk over a thing, if there is one. -/
def forSome (walk : α → Step α) : Option α → Step (Option α)
  | some x => some <$> walk x
  | none => pure none

/-! ## Rest -/

/-- A walk changes nothing at a thing. -/
def AtRest (walk : α → Step α) (x : α) : Prop := ∀ p, walk x p = (x, p)

/-- A pool of components that have names of their own, are different if equal ones are shared, and
below which nothing is left to hoist. -/
structure Orderly (rules : Rules) (declared : List String) (p : Pool) : Prop where
  covers : declared ⊆ p.used
  fresh : ∀ key ∈ p.added.keys, key ∉ declared
  nodup : p.added.keys.Nodup
  different : rules.reuse = true → p.added.values.Pairwise fun s t => s.same t = false
  atRest : ∀ e ∈ p.added.entries, AtRest (walkModel rules e.1) e.2

variable {rules : Rules} {declared : List String}

variable (rules declared) in
/-- What a walk leaves of a thing is at rest, and the pool stays orderly. -/
def Settles (walk : α → Step α) (x : α) : Prop :=
  ∀ p, Orderly rules declared p →
    AtRest walk (walk x p).1 ∧ Orderly rules declared (walk x p).2

lemma orderly_declared (declared : List String) : Orderly rules declared { used := declared } where
  covers := List.Subset.refl _
  fresh := by rintro key ⟨⟩
  nodup := List.nodup_nil
  different _ := .nil
  atRest := by rintro e ⟨⟩

lemma same_comm (s t : Schema) : s.same t = t.same s := by
  have hiff (s t : Schema) : s.same t = true ↔ gist (.inline s) = gist (.inline t) := sameRef_iff
  rw [Bool.eq_iff_iff, hiff, hiff, eq_comm]

/-- A schema at rest may be registered under a name that was not declared. -/
lemma Orderly.register {p : Pool} {name : String} {s : Schema} (hp : Orderly rules declared p)
    (hname : name ∉ declared) (hs : AtRest (walkModel rules name) s) :
    Orderly rules declared (register rules name s p).2 := by
  rw [Hoisting.register]
  cases hequal : (if rules.reuse then p.added.entries.find? fun e => e.2.same s else none) with
  | some e => exact hp
  | none =>
    refine ⟨fun key hkey => List.mem_cons_of_mem _ (hp.covers hkey), fun key hkey => ?_,
      Table.nodup_keys_insert hp.nodup, fun hreuse => ?_, fun e he => ?_⟩
    · rcases Table.mem_keys_insert.1 hkey with rfl | hkey
      · exact hname
      · exact hp.fresh key hkey
    · rw [hreuse, if_pos rfl, List.find?_eq_none] at hequal
      refine Table.pairwise_values_insert (fun s t h => same_comm s t ▸ h) (hp.different hreuse)
        fun t ht => ?_
      obtain ⟨e, he, rfl⟩ := List.mem_map.1 ht
      simpa using hequal e he
    · rcases Table.mem_of_mem_put he with rfl | he
      · exact hs
      · exact hp.atRest e he

/-! ## Walks that settle -/

lemma settles_pure (x : α) : Settles rules declared pure x := fun _ hp => ⟨fun _ => rfl, hp⟩

lemma AtRest.both {f : α → Step α} {g : β → Step β} {x : α} {y : β} (hx : AtRest f x)
    (hy : AtRest g y) : AtRest (both f g) (x, y) := by
  intro q
  have hstep : Hoisting.both f g (x, y) q =
      (((f x q).1, (g y (f x q).2).1), (g y (f x q).2).2) := rfl
  rw [hstep, hx q, hy q]

lemma settles_both {f : α → Step α} {g : β → Step β} {x : α} {y : β}
    (hf : Settles rules declared f x) (hg : Settles rules declared g y) :
    Settles rules declared (both f g) (x, y) := by
  intro p hp
  obtain ⟨hx, hp⟩ := hf p hp
  obtain ⟨hy, hp⟩ := hg _ hp
  exact ⟨hx.both hy, hp⟩

/-- The walk over the parts has to be the same one for what is left of the record. -/
lemma settles_along {l : Lens β α} {walk : β → α → Step α} {y : β}
    (hwalk : ∀ p, walk (l.set y (walk y (l.get y) p).1) = walk y)
    (h : Settles rules declared (walk y) (l.get y)) :
    Settles rules declared (along l walk) y := by
  intro p hp
  obtain ⟨hx, hp'⟩ := h p hp
  refine ⟨fun q => ?_, hp'⟩
  change along l walk (l.set y (walk y (l.get y) p).1) q = (l.set y (walk y (l.get y) p).1, q)
  have hstep : along l walk (l.set y (walk y (l.get y) p).1) q =
      (l.set (l.set y (walk y (l.get y) p).1) (walk y (walk y (l.get y) p).1 q).1,
        (walk y (walk y (l.get y) p).1 q).2) := by
    rw [along, hwalk, l.get_set]
    rfl
  rw [hstep, hx q, l.set_set]

lemma settles_forSome {walk : α → Step α} {o : Option α}
    (h : ∀ x ∈ o, Settles rules declared walk x) : Settles rules declared (forSome walk) o := by
  cases o with
  | none => exact fun p hp => ⟨fun _ => rfl, hp⟩
  | some x =>
    intro p hp
    obtain ⟨hx, hp'⟩ := h x rfl p hp
    refine ⟨fun q => ?_, hp'⟩
    change (some (walk _ q).1, (walk _ q).2) = _
    rw [hx q]
    rfl

lemma AtRest.cons {walk : α → Step α} {x : α} {xs : List α} (hx : AtRest walk x)
    (hxs : AtRest (List.mapM walk) xs) : AtRest (List.mapM walk) (x :: xs) := by
  intro q
  have hstep : List.mapM walk (x :: xs) q =
      ((walk x q).1 :: (List.mapM walk xs (walk x q).2).1,
        (List.mapM walk xs (walk x q).2).2) := by
    rw [List.mapM_cons]
    rfl
  rw [hstep, hx q, hxs q]

lemma settles_mapM {walk : α → Step α} {xs : List α}
    (h : ∀ x ∈ xs, Settles rules declared walk x) :
    Settles rules declared (List.mapM walk) xs := by
  induction xs with
  | nil => exact settles_pure []
  | cons x xs ih =>
    intro p hp
    obtain ⟨hx, hp⟩ := h x (by simp) p hp
    obtain ⟨hxs, hp⟩ := ih (fun y hy => h y (List.mem_cons_of_mem _ hy)) _ hp
    rw [List.mapM_cons]
    exact ⟨hx.cons hxs, hp⟩

/-- A walk over the value of an entry. -/
def atValue (walk : String → α → Step α) (e : String × α) : Step (String × α) := do
  let x ← walk e.1 e.2
  return (e.1, x)

lemma settles_atValue {walk : String → α → Step α} {e : String × α}
    (h : Settles rules declared (walk e.1) e.2) : Settles rules declared (atValue walk) e := by
  intro p hp
  obtain ⟨hx, hp'⟩ := h p hp
  exact ⟨fun q => congrArg (fun z : α × Pool => ((e.1, z.1), z.2)) (hx q), hp'⟩

lemma settles_forValues {walk : String → α → Step α} {t : Table α}
    (h : ∀ e ∈ t.entries, Settles rules declared (walk e.1) e.2) :
    Settles rules declared (forValues walk) t := by
  intro p hp
  obtain ⟨hes, hp'⟩ := settles_mapM (fun e he => settles_atValue (h e he)) p hp
  exact ⟨fun q => congrArg (fun z : List (String × α) × Pool => (Table.mk z.1, z.2)) (hes q), hp'⟩

lemma settles_forInline {walk : α → Step α} {r : Referable α}
    (h : ∀ x, Settles rules declared walk x) : Settles rules declared (forInline walk) r := by
  cases r with
  | ref path => exact fun p hp => ⟨fun _ => rfl, hp⟩
  | inline x =>
    intro p hp
    obtain ⟨hx, hp'⟩ := h x p hp
    refine ⟨fun q => ?_, hp'⟩
    exact congrArg (fun z => (Referable.inline z.1, z.2)) (hx q)

/-! ## Schemas -/

/-- The children of a schema, as one thing. -/
def fieldsLens : Lens Schema Schema.Fields where
  get s := s.fields
  set s := fun (properties, allOf, oneOf, anyOf, items, additional, negated) =>
    { s with properties, allOf, oneOf, anyOf, items, additional, negated }
  set_get s := by
    cases s
    rfl

variable (rules)

/-- The walk over the items of an array, or over the values of a map. -/
def walkItems (place : String) (isArray : Bool) : Option SchemaRef → Step (Option SchemaRef) :=
  if isArray then forSome (visit rules place .nested) else pure

/-- The walk over further properties. -/
def walkFurther (place : String) (isMap : Bool) :
    Option (Additional SchemaRef) → Step (Option (Additional SchemaRef)) :=
  if isMap then forSome (visitValues rules place) else pure

lemma visitItems_eq (place : String) (isArray : Bool) :
    visitItems rules place isArray = walkItems rules place isArray := by
  funext o
  rw [walkItems]
  cases o <;> cases isArray <;> rw [visitItems] <;> rfl

lemma visitAdditional_eq (place : String) (isMap : Bool) :
    visitAdditional rules place isMap = walkFurther rules place isMap := by
  funext o
  rw [walkFurther]
  cases o <;> cases isMap <;> rw [visitAdditional] <;> rfl

/-- The walk over the children of a model. -/
def walkFields (name : String) (isArray : Bool) : Schema.Fields → Step Schema.Fields :=
  both (walkProperties rules name) (both (walkParts rules name)
    (both (visitAll rules (name ++ "_OneOf")) (both (visitAll rules (name ++ "_AnyOf"))
      (both (visitItems rules (name ++ "_Inner") isArray)
        (both (visitAdditional rules (name ++ "_Value") !isArray) pure)))))

/-- The walk over the children of an array or a map. -/
def walkContents (place : String) (isArray : Bool) : Schema.Fields → Step Schema.Fields :=
  both pure (both pure (both pure (both pure
    (both (visitItems rules (place ++ "_Inner") isArray)
      (both (visitAdditional rules (place ++ "_Value") !isArray) pure)))))

lemma walkModel_eq (name : String) :
    walkModel rules name = along fieldsLens fun s => walkFields rules name s.isArray := by
  funext s
  obtain ⟨keywords, properties, items, additional, negated, allOf, oneOf, anyOf⟩ := s
  rw [walkModel]
  rfl

lemma walkContainer_eq (place : String) :
    walkContainer rules place = along fieldsLens fun s => walkContents rules place s.isArray := by
  funext s
  obtain ⟨keywords, properties, items, additional, negated, allOf, oneOf, anyOf⟩ := s
  rw [walkContainer]
  rfl

variable {rules}

lemma settles_visitItems {place : String} {isArray : Bool} {o : Option SchemaRef}
    (h : ∀ r ∈ o, Settles rules declared (visit rules place .nested) r) :
    Settles rules declared (visitItems rules place isArray) o := by
  rw [visitItems_eq, walkItems]
  cases isArray with
  | false => exact settles_pure o
  | true => exact settles_forSome h

lemma settles_visitAdditional {place : String} {isMap : Bool} {o : Option (Additional SchemaRef)}
    (h : ∀ r, o = some (.values r) → Settles rules declared (visit rules place .nested) r) :
    Settles rules declared (visitAdditional rules place isMap) o := by
  rw [visitAdditional_eq, walkFurther]
  cases isMap with
  | false => exact settles_pure o
  | true =>
    refine settles_forSome fun a ha p hp => ?_
    cases a with
    | allowed b =>
      have hrest : AtRest (visitValues rules place) (.allowed b) := fun q => by
        rw [visitValues]
        rfl
      rw [hrest p]
      exact ⟨hrest, hp⟩
    | values r =>
      obtain ⟨hr, hp'⟩ := h r ha p hp
      rw [visitValues]
      refine ⟨fun q => ?_, hp'⟩
      change visitValues rules place (.values _) q = _
      rw [visitValues]
      exact congrArg (fun z : SchemaRef × Pool => (Additional.values z.1, z.2)) (hr q)

/-- Hoisting settles at a reference or schema, wherever it stands. -/
def SettlesThere (rules : Rules) (declared : List String) (r : SchemaRef) : Prop :=
  (∀ place site, Settles rules declared (visit rules place site) r) ∧
    ∀ name, Settles rules declared (walkPart rules name) r

lemma settles_walkProperties {t : Table SchemaRef}
    (h : ∀ r ∈ t.values, SettlesThere rules declared r) (name : String) :
    Settles rules declared (walkProperties rules name) t := by
  rw [funext (walkProperties_eq rules name)]
  exact settles_forValues fun e he => (h e.2 (List.mem_map_of_mem he)).1 _ _

lemma settles_walkParts {rs : List SchemaRef} (h : ∀ r ∈ rs, SettlesThere rules declared r)
    (name : String) : Settles rules declared (walkParts rules name) rs := by
  rw [funext (walkParts_eq rules name)]
  exact settles_mapM fun r hr => (h r hr).2 name

lemma settles_visitAll {rs : List SchemaRef} (h : ∀ r ∈ rs, SettlesThere rules declared r)
    (place : String) : Settles rules declared (visitAll rules place) rs := by
  rw [funext (visitAll_eq rules place)]
  exact settles_mapM fun r hr => (h r hr).1 place .nested

section Children

variable {s : Schema} (h : ∀ r ∈ s.children, SettlesThere rules declared r)

include h

lemma settles_walkModel (name : String) : Settles rules declared (walkModel rules name) s := by
  have hnode := tracksNode_walkModel rules (fun r _ => (tracks_visit_walkPart rules r).1)
    (fun r _ => (tracks_visit_walkPart rules r).2) name (s := s)
  rw [walkModel_eq] at hnode ⊢
  refine settles_along (fun p => congrArg (walkFields rules name) (hnode p).1.isArray_eq) ?_
  simp only [Schema.mem_children] at h
  refine settles_both ?_ (settles_both ?_ (settles_both ?_ (settles_both ?_
    (settles_both ?_ (settles_both ?_ (settles_pure _))))))
  · exact settles_walkProperties (fun r hr => h r (.inl hr)) name
  · exact settles_walkParts (fun r hr => h r (by tauto)) name
  · exact settles_visitAll (fun r hr => h r (by tauto)) _
  · exact settles_visitAll (fun r hr => h r (by tauto)) _
  · exact settles_visitItems fun r hr => (h r (by tauto)).1 _ _
  · exact settles_visitAdditional fun r hr => (h r (by tauto)).1 _ _

lemma settles_walkContainer (place : String) :
    Settles rules declared (walkContainer rules place) s := by
  have hnode := tracksNode_walkContainer rules (fun r _ => (tracks_visit_walkPart rules r).1) place
    (s := s)
  rw [walkContainer_eq] at hnode ⊢
  refine settles_along (fun p => congrArg (walkContents rules place) (hnode p).1.isArray_eq) ?_
  simp only [Schema.mem_children] at h
  refine settles_both (settles_pure _) (settles_both (settles_pure _) (settles_both (settles_pure _)
    (settles_both (settles_pure _) (settles_both ?_ (settles_both ?_ (settles_pure _))))))
  · exact settles_visitItems fun r hr => (h r (by tauto)).1 _ _
  · exact settles_visitAdditional fun r hr => (h r (by tauto)).1 _ _

end Children

/-- What stays where it is after hoisting is not hoisted: its parts were not touched, and otherwise
only its keywords and the kinds of its children count. -/
lemma isHoisted_walkContainer (place : String) (site : Site) (s : Schema) (p : Pool) :
    isHoisted rules site (walkContainer rules place s p).1 = isHoisted rules site s := by
  have hnode := (tracksNode_walkContainer rules (fun r _ => (tracks_visit_walkPart rules r).1) place
    p (s := s)).1
  have hallOf : (walkContainer rules place s p).1.allOf = s.allOf := by
    rw [walkContainer_eq]
    rfl
  rw [isHoisted, isHoisted, hnode.isMap_eq, hnode.isObjectLike_eq, hnode.isArray_eq, isEnum, isEnum,
    hnode.keywords, isAlias, isAlias, hallOf, hnode.isEmpty_eq.1, hnode.isEmpty_eq.2.1,
    hnode.isEmpty_eq.2.2]

lemma visit_of_isHoisted {site : Site} {s : Schema} (place : String) (p : Pool)
    (h : isHoisted rules site s = true) :
    let name := candidate rules p.used place
    let walked := walkModel rules name s p
    let registered := register rules name walked.1 walked.2
    visit rules place site (.inline s) p =
      (.ref (Reference.toSchema registered.1), registered.2) := by
  intro name walked registered
  rw [visit, if_pos h]
  rfl

/-- **Hoisting settles**, at a place and below a part of a model.

**Proof sketch.** Induction from the leaves to the root. A schema that became a component is walked
under its name from then on, and that walk has just settled; a schema that stays is again one that
stays. -/
theorem settles_visit_walkPart (r : SchemaRef) : SettlesThere rules declared r := by
  induction r using Schema.ref_induction with
  | ref path =>
    have hvisit (place : String) (site : Site) : AtRest (visit rules place site) (.ref path) := by
      intro q
      rw [visit]
      rfl
    have hpart (name : String) : AtRest (walkPart rules name) (.ref path) := by
      intro q
      rw [walkPart]
      rfl
    constructor
    · intro place site p hp
      rw [hvisit place site p]
      exact ⟨hvisit place site, hp⟩
    · intro name p hp
      rw [hpart name p]
      exact ⟨hpart name, hp⟩
  | inline s ih =>
    constructor
    · intro place site p hp
      by_cases hhoisted : isHoisted rules site s = true
      · have hstep := visit_of_isHoisted place p hhoisted
        obtain ⟨hmodel, hp'⟩ := settles_walkModel ih (candidate rules p.used place) p hp
        have hname : candidate rules p.used place ∉ declared :=
          fun h => candidate_not_mem rules p.used place (hp.covers h)
        rw [hstep]
        refine ⟨fun q => ?_, hp'.register hname hmodel⟩
        rw [visit]
        rfl
      · have hstep (s : Schema) (hs : isHoisted rules site s = false) (q : Pool) :
            visit rules place site (.inline s) q = (.inline (walkContainer rules place s q).1,
              (walkContainer rules place s q).2) := by
          rw [visit, hs]
          rfl
        rw [Bool.not_eq_true] at hhoisted
        obtain ⟨hbelow, hp'⟩ := settles_walkContainer ih place p hp
        rw [hstep s hhoisted]
        refine ⟨fun q => ?_, hp'⟩
        rw [hstep _ (by rw [isHoisted_walkContainer, hhoisted]), hbelow q]
    · intro name p hp
      have hstep (s : Schema) (q : Pool) : walkPart rules name (.inline s) q =
          (.inline (walkModel rules name s q).1, (walkModel rules name s q).2) := by
        rw [walkPart]
        rfl
      obtain ⟨hmodel, hp'⟩ := settles_walkModel ih name p hp
      rw [hstep]
      refine ⟨fun q => ?_, hp'⟩
      rw [hstep, hmodel q]

/-! ## Contents and operations -/

lemma settles_visit (place : String) (site : Site) (r : SchemaRef) :
    Settles rules declared (visit rules place site) r :=
  (settles_visit_walkPart r).1 place site

lemma settles_walkPart (name : String) (r : SchemaRef) :
    Settles rules declared (walkPart rules name) r :=
  (settles_visit_walkPart r).2 name

lemma forSchema_eq (walk : SchemaRef → Step SchemaRef) :
    forSchema walk = along MediaType.lens fun _ => forSome walk := by
  funext m
  obtain ⟨schema, encoding, sample, samples, extensions⟩ := m
  cases schema <;> rfl

lemma settles_forSchema {walk : SchemaRef → Step SchemaRef}
    (h : ∀ r, Settles rules declared walk r) (m : MediaType) :
    Settles rules declared (forSchema walk) m := by
  rw [forSchema_eq]
  exact settles_along (fun _ => rfl) (settles_forSome fun r _ => h r)

lemma settles_walkContent (place : String) (content : Table MediaType) :
    Settles rules declared (walkContent rules place) content := by
  refine settles_forValues fun e _ => settles_forSchema (fun r => ?_) e.2
  cases Content.isForm e.1 with
  | true => exact settles_walkPart place r
  | false => exact settles_visit place .nested r

variable (rules) in
/-- The walk over the schemas of a table of media types at one place. -/
def visitContent (place : String) : Table MediaType → Step (Table MediaType) :=
  forValues fun _ m => forSchema (visit rules place .nested) m

lemma settles_visitContent (place : String) (content : Table MediaType) :
    Settles rules declared (visitContent rules place) content :=
  settles_forValues fun e _ => settles_forSchema (settles_visit place .nested) e.2

variable (rules) in
lemma walkParameter_eq (operation : String) :
    walkParameter rules operation = along Parameter.lens fun p =>
      both (forSome (visit rules (operation ++ "_" ++ p.name ++ "_Parameter") .nested))
        (visitContent rules (operation ++ "_" ++ p.name ++ "_Parameter")) := by
  funext p
  rw [walkParameter, along]
  cases hschema : p.schema <;> simp [Parameter.lens, both, forSome, visitContent, hschema]

lemma settles_walkParameter (operation : String) (p : Parameter) :
    Settles rules declared (walkParameter rules operation) p := by
  rw [walkParameter_eq]
  exact settles_along (fun _ => rfl)
    (settles_both (settles_forSome fun r _ => settles_visit _ _ r) (settles_visitContent _ _))

variable (rules) in
/-- The walk over the schemas of a response that is here. -/
def visitResponse (place : String) : Response → Step Response :=
  along Response.lens fun _ => both (visitContent rules place) pure

lemma settles_walkResponse (place : String) (r : ResponseRef) :
    Settles rules declared (walkResponse rules place) r := by
  cases r with
  | ref path description => exact fun p hp => ⟨fun _ => rfl, hp⟩
  | inline r =>
    intro p hp
    have hresponse : Settles rules declared (visitResponse rules place) r :=
      settles_along (fun _ => rfl) (settles_both (settles_visitContent place _) (settles_pure _))
    obtain ⟨hr, hp'⟩ := hresponse p hp
    exact ⟨fun q => congrArg (fun z : Response × Pool => (ResponseRef.inline z.1, z.2)) (hr q), hp'⟩

variable (rules) in
lemma walkBody_eq (place : String) :
    walkBody rules place = along RequestBody.lens fun _ => walkContent rules place := rfl

lemma settles_walkBody (place : String) (b : RequestBody) :
    Settles rules declared (walkBody rules place) b := by
  rw [walkBody_eq]
  exact settles_along (fun _ => rfl) (settles_walkContent place b.content)

variable (rules) in
/-- The walk over what an operation takes and answers. -/
def walkOperationParts (name : String) :
    List ParameterRef × Option RequestBodyRef × Table ResponseRef →
      Step (List ParameterRef × Option RequestBodyRef × Table ResponseRef) :=
  both (List.mapM (forInline (walkParameter rules name)))
    (both (forSome (forInline (walkBody rules (name ++ "_Request"))))
      (forValues fun code r => walkResponse rules (name ++ "_Response_" ++ code) r))

variable (rules) in
lemma walkOperation_eq (name : Operation → String) :
    (fun op => walkOperation rules (name op) op) =
      along Operation.lens fun op => walkOperationParts rules (name op) := by
  funext op
  rw [walkOperation, along, walkOperationParts]
  cases hbody : op.requestBody <;> simp [Operation.lens, both, forSome, hbody]

/-- The name of an operation is its own, and otherwise the same one. -/
lemma settles_walkOperation (name : String) (op : Operation) :
    Settles rules declared (fun op => walkOperation rules (op.operationId.getD name) op) op := by
  rw [walkOperation_eq rules (·.operationId.getD name)]
  refine settles_along (fun _ => rfl) (settles_both ?_ (settles_both ?_ ?_))
  · exact settles_mapM fun p _ => settles_forInline (settles_walkParameter _)
  · exact settles_forSome fun b _ => settles_forInline (settles_walkBody _)
  · exact settles_forValues fun e _ => settles_walkResponse _ e.2

/-! ## Paths and components -/

variable (rules) in
lemma walkMethod_eq (name : Operation → String) :
    walkMethod rules name = forSome fun op => walkOperation rules (name op) op := by
  funext o
  cases o <;> rfl

lemma settles_walkMethod (name : String) (o : Option Operation) :
    Settles rules declared (walkMethod rules (·.operationId.getD name)) o := by
  rw [walkMethod_eq]
  exact settles_forSome fun op _ => settles_walkOperation name op

/-- The name of an operation of a path. -/
def operationName (path : String) (m : HttpMethod) (op : Operation) : String :=
  op.operationId.getD (Names.operationId path m.text)

variable (rules) in
lemma walkPath_eq_along (path : String) :
    let walk (m : HttpMethod) := walkMethod rules (operationName path m)
    walkPath rules path = along PathItem.lens fun _ => both pure (both (walk .get)
      (both (walk .put) (both (walk .post) (both (walk .delete) (both (walk .options)
        (both (walk .head) (both (walk .patch) (walk .trace)))))))) := by
  intro walk
  funext p
  rw [walkPath_eq]
  rfl

lemma settles_walkPath (path : String) (p : PathItem) :
    Settles rules declared (walkPath rules path) p := by
  rw [walkPath_eq_along]
  have hwalk (m : HttpMethod) (o : Option Operation) :
      Settles rules declared (walkMethod rules (operationName path m)) o :=
    settles_walkMethod _ o
  exact settles_along (fun _ => rfl) (settles_both (settles_pure _) (settles_both (hwalk _ _)
    (settles_both (hwalk _ _) (settles_both (hwalk _ _) (settles_both (hwalk _ _)
      (settles_both (hwalk _ _) (settles_both (hwalk _ _) (settles_both (hwalk _ _)
        (hwalk _ _)))))))))

variable (rules) in
/-- The walk over the component schemas. -/
def walkSchemas : Table SchemaRef → Step (Table SchemaRef) :=
  forValues fun key r => walkPart rules key r

variable (rules) in
/-- The walk over the component bodies. -/
def walkBodies : Table RequestBodyRef → Step (Table RequestBodyRef) :=
  forValues fun key b => forInline (walkBody rules (key ++ "_request")) b

lemma settles_walkSchemas (t : Table SchemaRef) :
    Settles rules declared (walkSchemas rules) t :=
  settles_forValues fun e _ => settles_walkPart e.1 e.2

lemma settles_walkBodies (t : Table RequestBodyRef) :
    Settles rules declared (walkBodies rules) t :=
  settles_forValues fun _ _ => settles_forInline (settles_walkBody _)

lemma settles_walkPaths (t : Table PathItem) :
    Settles rules declared (forValues (walkPath rules)) t :=
  settles_forValues fun e _ => settles_walkPath e.1 e.2

end Hoisting

end ApiLowering
