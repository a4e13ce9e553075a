import ApiLowering.Endpoints.Outcomes
import ApiLowering.Models.Draft
import ApiLowering.Proofs.Hoisting.Conservation

/-!
# The places that hoisting visits

What hoisting leaves as it is was visited: all schemas in the places that a walk comes by are
references or schemas that are not hoisted. The places are those below a visited schema, the
properties, the parts and the alternatives of a model, and the schemas of parameters, bodies and
responses that are declared where they are used.

## Main definitions

* `Hoisting.Stays` — a walk leaves a thing as it is.
* `Hoisting.Visited` — a schema in a place that was visited.
* `Schema.IsPlain` — a schema that needs no class of its own.
* `Hoisting.Complete` — a reference, or a plain schema that is not hoisted.

## Main results

* `Hoisting.Visited.complete` — schemas in visited places are complete.
* `Hoisting.Stays.property`, `Hoisting.Stays.alternative`, `Hoisting.Stays.below` — what is right
  below a model is visited.
* `Hoisting.Stays.parameter`, `Hoisting.Stays.body`, `Hoisting.Stays.field`,
  `Hoisting.Stays.response` — so are the schemas of what an operation takes and answers.
-/

namespace ApiLowering

/-- A schema that needs no class of its own: it has neither properties nor parts nor alternatives,
or it is another name for a component. -/
def Schema.IsPlain (s : Schema) : Prop :=
  (s.properties.isEmpty = true ∧ s.isComposed = false) ∨
    (Resolver.soleReference? s).isSome = true

instance : DecidablePred Schema.IsPlain := fun _ => inferInstanceAs (Decidable (_ ∨ _))

namespace Hoisting

open Schema Resolver

variable {α β : Type} {rules : Rules}

/-- A walk leaves a thing as it is. -/
def Stays (walk : α → Step α) (x : α) : Prop := ∃ p, (walk x p).1 = x

variable (rules) in
/-- A schema in a place that was visited. -/
def Visited (site : Site) (r : SchemaRef) : Prop := ∃ place, Stays (visit rules place site) r

variable (rules) in
/-- What a place holds is a reference, or a plain schema that is not hoisted. -/
def Complete (site : Site) (r : SchemaRef) : Prop :=
  ∀ s, r = .inline s → isHoisted rules site s = false ∧ s.IsPlain

/-! ## Parts of what stays -/

lemma AtRest.stays {walk : α → Step α} {x : α} (h : AtRest walk x) : Stays walk x :=
  ⟨{ used := [] }, congrArg Prod.fst (h _)⟩

namespace Stays

lemma of_both {f : α → Step α} {g : β → Step β} {x : α} {y : β} (h : Stays (both f g) (x, y)) :
    Stays f x ∧ Stays g y := by
  obtain ⟨p, hp⟩ := h
  exact ⟨⟨p, congrArg Prod.fst hp⟩, ⟨_, congrArg Prod.snd hp⟩⟩

lemma of_along {l : Lens β α} {walk : β → α → Step α} {y : β} (h : Stays (along l walk) y) :
    Stays (walk y) (l.get y) := by
  obtain ⟨p, hp⟩ := h
  refine ⟨p, ?_⟩
  have hset : l.set y (walk y (l.get y) p).1 = y := hp
  rw [← l.get_set y (walk y (l.get y) p).1, hset]

lemma of_forSome {walk : α → Step α} {x : α} (h : Stays (forSome walk) (some x)) :
    Stays walk x := by
  obtain ⟨p, hp⟩ := h
  exact ⟨p, Option.some.inj hp⟩

lemma of_mapM {walk : α → Step α} {xs : List α} (h : Stays (List.mapM walk) xs) :
    ∀ x ∈ xs, Stays walk x := by
  induction xs with
  | nil => exact List.forall_mem_nil _
  | cons x xs ih =>
    obtain ⟨p, hp⟩ := h
    have hstep : (List.mapM walk (x :: xs) p).1 =
        (walk x p).1 :: (List.mapM walk xs (walk x p).2).1 := by
      rw [List.mapM_cons]
      rfl
    obtain ⟨hx, hxs⟩ := List.cons.inj (hstep.symm.trans hp)
    exact List.forall_mem_cons.2 ⟨⟨p, hx⟩, ih ⟨_, hxs⟩⟩

lemma of_forValues {walk : String → α → Step α} {t : Table α} (h : Stays (forValues walk) t) :
    ∀ e ∈ t.entries, Stays (walk e.1) e.2 := by
  obtain ⟨p, hp⟩ := h
  have hentries : Stays (List.mapM (atValue walk)) t.entries :=
    ⟨p, congrArg Table.entries hp⟩
  intro e he
  obtain ⟨q, hq⟩ := hentries.of_mapM e he
  exact ⟨q, congrArg Prod.snd hq⟩

lemma of_forInline {walk : α → Step α} {x : α} (h : Stays (forInline walk) (.inline x)) :
    Stays walk x := by
  obtain ⟨p, hp⟩ := h
  exact ⟨p, Referable.inline.inj hp⟩

end Stays

/-! ## Schemas -/

/-- The items of an array and the values of a map are visited. -/
lemma Stays.items {place : String} {s : Schema} {r : SchemaRef}
    (hitems : Stays (visitItems rules (place ++ "_Inner") s.isArray) s.items)
    (hvalues : Stays (visitAdditional rules (place ++ "_Value") !s.isArray) s.additional)
    (hr : itemsSchema? s = some r) : Visited rules .nested r := by
  rw [visitItems_eq, walkItems] at hitems
  rw [visitAdditional_eq, walkFurther] at hvalues
  rw [itemsSchema?] at hr
  cases harray : s.isArray with
  | true =>
    rw [harray, if_pos rfl] at hitems hr
    rw [hr] at hitems
    exact ⟨_, hitems.of_forSome⟩
  | false =>
    rw [harray, if_neg Bool.false_ne_true] at hr
    rw [harray, if_pos (by rfl)] at hvalues
    cases hadditional : s.additional with
    | none =>
      rw [hadditional] at hr
      cases hr
    | some further =>
      cases further with
      | allowed b =>
        rw [hadditional] at hr
        cases hr
      | values q =>
        rw [hadditional] at hr hvalues
        obtain rfl : q = r := Option.some.inj hr
        obtain ⟨p, hp⟩ := hvalues.of_forSome
        rw [visitValues] at hp
        exact ⟨_, p, Additional.values.inj hp⟩

section Model

variable {name : String} {s : Schema} (h : Stays (walkModel rules name) s)

include h

lemma Stays.model : Stays (walkFields rules name s.isArray) s.fields := by
  rw [walkModel_eq] at h
  exact h.of_along

lemma Stays.property {e : String × SchemaRef} (he : e ∈ s.properties.entries) :
    Visited rules .property e.2 := by
  have hproperties := h.model.of_both.1
  rw [funext (walkProperties_eq rules name)] at hproperties
  exact ⟨_, hproperties.of_forValues e he⟩

lemma Stays.part {part : Schema} (hpart : .inline part ∈ s.allOf) :
    Stays (walkModel rules name) part := by
  have hparts := h.model.of_both.2.of_both.1
  rw [funext (walkParts_eq rules name)] at hparts
  obtain ⟨p, hp⟩ := hparts.of_mapM _ hpart
  rw [walkPart] at hp
  exact ⟨p, Referable.inline.inj hp⟩

lemma Stays.alternative {r : SchemaRef} (hr : r ∈ s.oneOf ++ s.anyOf) :
    Visited rules .nested r := by
  have hall {place : String} {rs : List SchemaRef} (hrs : Stays (visitAll rules place) rs)
      (hmem : r ∈ rs) : Visited rules .nested r := by
    rw [funext (visitAll_eq rules place)] at hrs
    exact ⟨place, hrs.of_mapM r hmem⟩
  obtain ⟨honeOf, hrest⟩ := h.model.of_both.2.of_both.2.of_both
  rcases List.mem_append.1 hr with hr | hr
  · exact hall honeOf hr
  · exact hall hrest.of_both.1 hr

lemma Stays.below {r : SchemaRef} (hr : itemsSchema? s = some r) : Visited rules .nested r := by
  obtain ⟨hitems, hvalues⟩ := h.model.of_both.2.of_both.2.of_both.2.of_both.2.of_both
  exact Stays.items hitems hvalues.of_both.1 hr

end Model

namespace Visited

variable {site : Site} {s : Schema} {r : SchemaRef}

/-- What was visited and is still here is not hoisted, and what is below it was visited. -/
lemma of_inline (h : Visited rules site (.inline s)) : isHoisted rules site s = false ∧
    ∀ r, itemsSchema? s = some r → Visited rules .nested r := by
  obtain ⟨place, p, hp⟩ := h
  rw [visit] at hp
  cases hhoisted : isHoisted rules site s with
  | true =>
    rw [hhoisted, if_pos rfl] at hp
    cases hp
  | false =>
    rw [hhoisted, if_neg Bool.false_ne_true] at hp
    have hcontainer : Stays (walkContainer rules place) s := ⟨p, Referable.inline.inj hp⟩
    rw [walkContainer_eq] at hcontainer
    obtain ⟨hitems, hvalues⟩ :=
      hcontainer.of_along.of_both.2.of_both.2.of_both.2.of_both.2.of_both
    exact ⟨rfl, fun r hr => Stays.items hitems hvalues.of_both.1 hr⟩

lemma below (h : Visited rules site (.inline s)) (hr : itemsSchema? s = some r) :
    Visited rules .nested r :=
  h.of_inline.2 r hr

end Visited

/-- What is not hoisted needs no class. -/
lemma isPlain_of_isHoisted {site : Site} {s : Schema} (h : isHoisted rules site s = false) :
    s.IsPlain := by
  rw [isHoisted, Bool.and_eq_false_iff, Bool.not_eq_false', Bool.or_eq_false_iff] at h
  rcases h with hmap | ⟨hobject, -⟩
  · rw [isMap, Bool.and_eq_true, Bool.and_eq_true, Bool.not_eq_true'] at hmap
    exact .inl hmap.1
  · rw [Bool.and_eq_false_iff, Bool.not_eq_false'] at hobject
    rcases hobject with hobject | halias
    · rw [isObjectLike, Bool.or_eq_false_iff, Bool.or_eq_false_iff, Bool.not_eq_false'] at hobject
      exact .inl hobject.1
    · rw [isAlias, Bool.and_eq_true, Bool.and_eq_true, Bool.and_eq_true] at halias
      obtain ⟨⟨⟨hpart, hproperties⟩, -⟩, -⟩ := halias
      refine .inr ?_
      rw [soleReference?]
      split at hpart
      · rename_i r hparts
        cases r with
        | ref path =>
          rw [hparts, hproperties]
          rfl
        | inline part => cases hpart
      · cases hpart

/-- **Schemas in visited places are complete.** -/
theorem Visited.complete {site : Site} {r : SchemaRef} (h : Visited rules site r) :
    Complete rules site r := by
  rintro s rfl
  have hhoisted := h.of_inline.1
  exact ⟨hhoisted, isPlain_of_isHoisted hhoisted⟩

/-- A place without a schema stands for anything, or for texts; neither is hoisted. -/
lemma visited_empty : Visited rules .nested (.inline {}) := ⟨"", { used := [] }, rfl⟩

lemma visited_plainText : Visited rules .nested plainText := ⟨"", { used := [] }, rfl⟩

/-! ## What operations take and answer -/

lemma Stays.mediaType {walk : SchemaRef → Step SchemaRef} {m : MediaType} {r : SchemaRef}
    (h : Stays (forSchema walk) m) (hr : m.schema = some r) : Stays walk r := by
  rw [forSchema_eq] at h
  have hschema : Stays (forSome walk) m.schema := h.of_along
  rw [hr] at hschema
  exact hschema.of_forSome

lemma Stays.visitContent {place : String} {content : Table MediaType} {m : MediaType}
    {r : SchemaRef} (h : Stays (visitContent rules place) content) (hm : m ∈ content.values)
    (hr : m.schema = some r) : Visited rules .nested r := by
  obtain ⟨e, he, rfl⟩ := List.mem_map.1 hm
  exact ⟨place, (h.of_forValues e he).mediaType hr⟩

/-- **The schema of a parameter** that is declared where it is used is visited. -/
lemma Stays.parameter {operation : String} {p : Parameter}
    (h : Stays (walkParameter rules operation) p) : Visited rules .nested p.schemaRef := by
  rw [walkParameter_eq] at h
  have hparts := h.of_along.of_both
  rw [Parameter.schemaRef]
  cases hschema : p.schema with
  | some r =>
    have hvisit : Stays (forSome _) p.schema := hparts.1
    rw [hschema] at hvisit
    exact ⟨_, hvisit.of_forSome⟩
  | none =>
    cases hvalues : p.content.values with
    | nil => exact visited_plainText
    | cons m ms =>
      cases hm : m.schema with
      | none => simpa [hm] using visited_plainText
      | some r =>
        have hvisit := hparts.2.visitContent (m := m) (r := r) (by simp [hvalues]) hm
        simpa [hm] using hvisit

/-- **The schema of a response** that is declared where it is used is visited. -/
lemma Stays.response {place : String} {res : Response} {r : SchemaRef}
    (h : Stays (walkResponse rules place) (.inline res)) (hr : res.schemaRef? = some r) :
    Visited rules .nested r := by
  obtain ⟨p, hp⟩ := h
  have hresponse : Stays (visitResponse rules place) res := ⟨p, ResponseRef.inline.inj hp⟩
  obtain ⟨m, hm, hr⟩ := List.exists_of_findSome?_eq_some hr
  exact hresponse.of_along.of_both.1.visitContent hm hr

section Body

variable {place mediaType : String} {b : RequestBody} {m : MediaType} {r : SchemaRef}

lemma Stays.content (h : Stays (walkBody rules place) b)
    (hm : (mediaType, m) ∈ b.content.entries) (hr : m.schema = some r) :
    ∃ p, ((if Content.isForm mediaType then walkPart rules place r
      else visit rules place .nested r) p).1 = r := by
  rw [walkBody_eq] at h
  have hcontent : Stays (forValues fun mediaType m => forSchema (fun r =>
      if Content.isForm mediaType then walkPart rules place r else visit rules place .nested r) m)
      b.content := h.of_along
  exact (hcontent.of_forValues (mediaType, m) hm).mediaType hr

/-- **The schema of a body** is visited. -/
lemma Stays.body (h : Stays (walkBody rules place) b)
    (hm : (mediaType, m) ∈ b.content.entries) (hr : m.schema = some r)
    (hform : Content.isForm mediaType = false) : Visited rules .nested r := by
  obtain ⟨p, hp⟩ := h.content hm hr
  rw [hform, if_neg Bool.false_ne_true] at hp
  exact ⟨place, p, hp⟩

/-- **The fields of a form** are visited. -/
lemma Stays.field {s : Schema} {e : String × SchemaRef} (h : Stays (walkBody rules place) b)
    (hm : (mediaType, m) ∈ b.content.entries) (hs : m.schema = some (.inline s))
    (hform : Content.isForm mediaType = true) (he : e ∈ s.properties.entries) :
    Visited rules .property e.2 := by
  obtain ⟨p, hp⟩ := h.content hm hs
  rw [hform, if_pos rfl, walkPart] at hp
  exact Stays.property ⟨p, Referable.inline.inj hp⟩ he

end Body

/-! ## Operations -/

lemma Stays.method {path : String} {item : PathItem} (h : Stays (walkPath rules path) item)
    (m : HttpMethod) : Stays (walkMethod rules (operationName path m)) (item.operation? m) := by
  rw [walkPath_eq_along] at h
  obtain ⟨hget, h⟩ := h.of_along.of_both.2.of_both
  obtain ⟨hput, h⟩ := h.of_both
  obtain ⟨hpost, h⟩ := h.of_both
  obtain ⟨hdelete, h⟩ := h.of_both
  obtain ⟨hoptions, h⟩ := h.of_both
  obtain ⟨hhead, h⟩ := h.of_both
  obtain ⟨hpatch, htrace⟩ := h.of_both
  cases m with
  | get => exact hget
  | put => exact hput
  | post => exact hpost
  | delete => exact hdelete
  | options => exact hoptions
  | head => exact hhead
  | patch => exact hpatch
  | trace => exact htrace

/-- An operation of a path is visited in its parts. -/
lemma Stays.operation {path : String} {item : PathItem} {m : HttpMethod} {op : Operation}
    (h : Stays (walkPath rules path) item) (hop : (m, op) ∈ item.operations) :
    Stays (walkOperationParts rules (operationName path m op)) (Operation.lens.get op) := by
  obtain ⟨n, -, hn⟩ := List.mem_filterMap.1 hop
  obtain ⟨op', hmethod, heq⟩ := Option.map_eq_some_iff.1 hn
  obtain ⟨rfl, rfl⟩ := Prod.mk.inj heq
  have hmethod' := h.method n
  rw [walkMethod_eq, hmethod] at hmethod'
  have hoperation := hmethod'.of_forSome
  rw [walkOperation_eq rules (operationName path n)] at hoperation
  exact hoperation.of_along

end Hoisting

end ApiLowering
