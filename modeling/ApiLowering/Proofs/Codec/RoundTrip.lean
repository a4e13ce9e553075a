import ApiLowering.Proofs.Codec.Passes
import ApiLowering.Proofs.Hoisting.Conservation
import Mathlib.Tactic.MkIffOfInductiveProp

/-!
# What is written is read back

A document that was read from a text, and possibly changed by the passes, comes back as an equal one
when it is written and read again, exactly if nothing that is inline in it has a textual `$ref`
among its unknown fields. Such a thing is taken for a reference when it is read again. It can come
from a text whose objects repeat keys, and only from such a text.

Two documents are equal if they are up to the order of their tables, so if they are with all of
their tables in order.

## Main definitions

* `Schema.StraightRef`, `Document.Straight` — nothing inline has a textual `$ref` among its unknown
  fields.
* `Schema.ComesBack`, `Document.ComesBack` — what is written and read again is equal.
* `Document.Obtained` — the documents that are read from a text, and what passes make of them.

## Main results

* `Codec.comesBack_iff` — a tidy thing comes back exactly if it is straight.
* `Document.Obtained.sound` — whatever passes make of a sound document is sound.
* `Document.comesBack_iff_of_obtained` — a document that was read from a text comes back exactly if
  it is straight, and it is if no object of the text repeats a key.
-/

namespace ApiLowering

open Schema

/-! ## Straight documents -/

/-- No schema at or below a place has a textual `$ref` among its unknown keywords. -/
def Schema.StraightRef (r : SchemaRef) : Prop := Every (fun s => s.keywords.Straight) r

/-- Nothing inline in a content has a textual `$ref` among its unknown fields. -/
def MediaType.Straight (m : MediaType) : Prop := ∀ r ∈ m.schema, StraightRef r

/-- A parameter has no textual `$ref` among its unknown fields, and nor has anything inline in
it. -/
@[mk_iff] structure Parameter.Straight (p : Parameter) : Prop where
  schema : ∀ r ∈ p.schema, StraightRef r
  content : ∀ m ∈ p.content.values, m.Straight
  extensions : Extensions.Straight p.extensions

/-- A request body has no textual `$ref` among its unknown fields, and nor has anything inline in
it. -/
@[mk_iff] structure RequestBody.Straight (b : RequestBody) : Prop where
  content : ∀ m ∈ b.content.values, m.Straight
  extensions : Extensions.Straight b.extensions

/-- A header has no textual `$ref` among its unknown fields, and nor has anything inline in it. -/
@[mk_iff] structure Header.Straight (h : Header) : Prop where
  schema : ∀ r ∈ h.schema, StraightRef r
  extensions : Extensions.Straight h.extensions

/-- A response has no textual `$ref` among its unknown fields, and nor has anything inline in
it. -/
@[mk_iff] structure Response.Straight (r : Response) : Prop where
  content : ∀ m ∈ r.content.values, m.Straight
  headers : ∀ h ∈ r.headers.values, ∀ x ∈ h.inline?, x.Straight
  extensions : Extensions.Straight r.extensions

/-- Nothing inline in an operation has a textual `$ref` among its unknown fields. -/
@[mk_iff] structure Operation.Straight (op : Operation) : Prop where
  parameters : ∀ p ∈ op.parameters, ∀ x ∈ p.inline?, x.Straight
  requestBody : ∀ b ∈ op.requestBody, ∀ x ∈ b.inline?, x.Straight
  responses : ∀ r ∈ op.responses.values, ∀ x ∈ r.target.inline?, x.Straight

/-- Nothing inline in a path has a textual `$ref` among its unknown fields. -/
@[mk_iff] structure PathItem.Straight (p : PathItem) : Prop where
  parameters : ∀ q ∈ p.parameters, ∀ x ∈ q.inline?, x.Straight
  operations : ∀ m, ∀ op ∈ p.operation? m, op.Straight

/-- Nothing inline in components has a textual `$ref` among its unknown fields. -/
@[mk_iff] structure Components.Straight (c : Components) : Prop where
  schemas : ∀ r ∈ c.schemas.values, StraightRef r
  responses : ∀ r ∈ c.responses.values, ∀ x ∈ r.target.inline?, x.Straight
  parameters : ∀ p ∈ c.parameters.values, ∀ x ∈ p.inline?, x.Straight
  requestBodies : ∀ b ∈ c.requestBodies.values, ∀ x ∈ b.inline?, x.Straight
  headers : ∀ h ∈ c.headers.values, ∀ x ∈ h.inline?, x.Straight

/-- Nothing inline in a document has a textual `$ref` among its unknown fields. -/
@[mk_iff] structure Document.Straight (d : Document) : Prop where
  paths : ∀ p ∈ d.paths.values, p.Straight
  webhooks : ∀ p ∈ d.webhooks.values, p.Straight
  components : ∀ c ∈ d.components, c.Straight

namespace Codec

/-! What the codecs ask of straight things is that they are straight. -/

lemma straightRef_iff {r : SchemaRef} : Every (SoundNode .straight) r ↔ StraightRef r := .rfl

lemma sound_straight_mediaType {m : MediaType} : mediaType.Sound .straight m ↔ m.Straight := by
  simp [mediaType, Codec.open, Record.Sound, Layout.Sound, MediaType.record, encoding, closed,
    MediaType.Straight, straightRef_iff]

lemma sound_straight_parameterRef {p : ParameterRef} :
    parameterRef.Sound .straight p ↔ ∀ x ∈ p.inline?, x.Straight := by
  refine forall₂_congr fun x _ => ?_
  simp [Record.SoundInline, Record.Sound, Layout.Sound, Parameter.record,
    sound_straight_mediaType, straightRef_iff, Parameter.straight_iff, and_assoc]

lemma sound_straight_requestBodyRef {b : RequestBodyRef} :
    requestBodyRef.Sound .straight b ↔ ∀ x ∈ b.inline?, x.Straight := by
  refine forall₂_congr fun x _ => ?_
  simp [Record.SoundInline, Record.Sound, Layout.Sound, RequestBody.record,
    sound_straight_mediaType, RequestBody.straight_iff]

lemma sound_straight_headerRef {h : HeaderRef} :
    headerRef.Sound .straight h ↔ ∀ x ∈ h.inline?, x.Straight := by
  refine forall₂_congr fun x _ => ?_
  simp [Record.SoundInline, Record.Sound, Layout.Sound, Header.record, straightRef_iff,
    Header.straight_iff]

lemma sound_straight_responseRef {r : ResponseRef} :
    responseRef.Sound .straight r ↔ ∀ x ∈ r.target.inline?, x.Straight := by
  refine forall₂_congr fun x _ => ?_
  simp [Record.SoundInline, Record.Sound, Layout.Sound, Response.record,
    sound_straight_mediaType, sound_straight_headerRef, Response.straight_iff, and_assoc]

lemma sound_straight_operation {op : Operation} :
    operation.Sound .straight op ↔ op.Straight := by
  simp [sound_operation, sound_straight_parameterRef, sound_straight_requestBodyRef,
    sound_straight_responseRef, securityRequirement, Operation.straight_iff]

lemma sound_straight_pathItem {p : PathItem} : pathItem.Sound .straight p ↔ p.Straight := by
  have hoperations : (∀ m, ∀ op ∈ p.operation? m, op.Straight) ↔
      ∀ m ∈ HttpMethod.all, ∀ op ∈ p.operation? m, op.Straight :=
    ⟨fun h m _ => h m, fun h m => h m (by cases m <;> decide)⟩
  rw [PathItem.straight_iff, hoperations]
  simp [pathItem, Codec.open, Record.Sound, Layout.Sound, PathItem.record,
    sound_straight_parameterRef, sound_straight_operation, HttpMethod.all, PathItem.operation?]

lemma sound_straight_components {c : Components} :
    components.Sound .straight c ↔ c.Straight := by
  have hscheme (x : SecurityScheme) : securityScheme.Sound .straight x := by
    simp [securityScheme, closed, Layout.Sound, securityKind, keyLocation, oauthFlows, oauthFlow]
  simp [sound_components, sound_straight_parameterRef, sound_straight_requestBodyRef,
    sound_straight_headerRef, sound_straight_responseRef, straightRef_iff, hscheme,
    Components.straight_iff]

lemma sound_straight_document {d : Document} : document.Sound .straight d ↔ d.Straight := by
  simp [sound_document, sound_straight_pathItem, sound_straight_components, info, contact, license,
    server, serverVariable, tag, closed, Layout.Sound, securityRequirement, Document.straight_iff]

/-! ## Coming back -/

/-- **A tidy thing comes back as an equal one exactly if it is straight.** -/
theorem comesBack_iff {α : Type} (c : Codec α) {x : α} (h : c.Sound .tidy x) :
    (∃ y, c.read (.ofJson (c.write x)) = some y ∧ c.inOrder y = c.inOrder x) ↔
      c.Sound .straight x := by
  constructor
  · rintro ⟨y, hy, horder⟩
    -- what is read from a written thing is straight
    have hstraight : c.Sound .straight y :=
      c.sound_of_read (Tree.sound_ofJson (c.tidy_write h)) hy
    rw [← c.straight_inOrder, horder] at hstraight
    exact c.straight_inOrder.1 hstraight
  · exact fun hstraight => ⟨c.inOrder x, (c.reads_iff h).2 hstraight, c.inOrder_inOrder x⟩

end Codec

/-- A schema that is written and read again is equal to what it was: up to the order of tables it is
the same. -/
def Schema.ComesBack (r : SchemaRef) : Prop :=
  ∃ q, readRef? (.ofJson (refJson r)) = some q ∧ orderedRef q = orderedRef r

namespace Document

/-- A document that is written and read again is equal to what it was: up to the order of tables it
is the same. -/
def ComesBack (d : Document) : Prop :=
  ∃ e, ofTree? (.ofJson d.toJson) = some e ∧ e.ordered = d.ordered

/-- A document that was read from a text, and possibly changed by passes. -/
inductive Obtained (text : String) : Document → Prop
  | read {d : Document} : ofJsonText text = .ok d → Obtained text d
  | canonical {d : Document} (sw : Canonical.Switches) :
    Obtained text d → Obtained text (d.canonical sw)
  | hoisted {d : Document} (rules : Hoisting.Rules) :
    Obtained text d → Obtained text (d.hoisted rules)

variable {text : String} {d : Document}

lemma exists_readTree?_of_ofJsonText (h : ofJsonText text = .ok d) :
    ∃ t, Json.readTree? text = some t ∧ ofTree? t = some d := by
  rw [ofJsonText] at h
  split at h
  · rename_i e he
    rw [checkVersion] at h
    split at h <;> cases h
    exact Option.bind_eq_some_iff.1 he
  · cases h

/-- A document that was read from a text is tidy, and straight if what was read is. -/
lemma Obtained.sound (h : d.Obtained text) :
    Codec.document.Sound .tidy d ∧
      ((∀ t ∈ Json.readTree? text, t.Sound .straight) → Codec.document.Sound .straight d) := by
  induction h with
  | read h =>
    obtain ⟨t, ht, hd⟩ := exists_readTree?_of_ofJsonText h
    exact ⟨Codec.document.sound_of_read (Json.sound_of_readTree? ht) hd,
      fun hstraight => Codec.document.sound_of_read (hstraight t ht) hd⟩
  | canonical sw _ ih =>
    exact ⟨sound_canonical sw ih.1 ih.1, fun h => sound_canonical sw ih.1 (ih.2 h)⟩
  | hoisted rules _ ih =>
    exact ⟨sound_hoisted rules ih.1 ih.1, fun h => sound_hoisted rules ih.1 (ih.2 h)⟩

end Document

lemma Schema.Every.within {P : Schema → Prop} {r q : SchemaRef} (hq : Every P q)
    (h : Within r q) : Every P r := by
  induction h with
  | self => exact hq
  | child hmem _ ih => exact ih (hq.children _ hmem)

namespace Document

variable {text : String} {d : Document}

/-- **What was read from a text comes back** when it is written and read again, and so does every
schema in it, exactly if it is straight; after any passes. If no object of the text repeats a key,
everything comes back. -/
theorem comesBack_iff_of_obtained (h : d.Obtained text) :
    (d.ComesBack ↔ d.Straight) ∧
      (∀ q ∈ schemas d, ∀ r, Within r q → (Schema.ComesBack r ↔ StraightRef r)) ∧
      ∀ t, Json.readTree? text = some t → t.distinct = true →
        d.ComesBack ∧ ∀ q ∈ schemas d, ∀ r, Within r q → Schema.ComesBack r := by
  obtain ⟨htidy, hstraight⟩ := h.sound
  have hdocument : d.ComesBack ↔ Codec.document.Sound .straight d :=
    Codec.document.comesBack_iff htidy
  have hschema : ∀ q ∈ schemas d, ∀ r, Within r q → (Schema.ComesBack r ↔ StraightRef r) :=
    fun q hq r hr => Codec.schema.comesBack_iff
      ((Codec.separable_document.everySchema htidy q hq).within hr)
  refine ⟨hdocument.trans Codec.sound_straight_document, hschema, fun t ht hdistinct => ?_⟩
  have hsound : Codec.document.Sound .straight d := by
    refine hstraight fun t' ht' => ?_
    obtain rfl := Option.some.inj (ht.symm.trans ht')
    exact (Json.sound_of_readTree? ht).straight_of_distinct hdistinct
  refine ⟨hdocument.2 hsound, fun q hq r hr => (hschema q hq r hr).2 ?_⟩
  exact (Codec.separable_document.everySchema hsound q hq).within hr

/-- The text of a document with one component, a composition of some parts. -/
def textOfParts (parts : List Json) : String :=
  let schema : Json := .members [("allOf", .array parts)]
  (Json.members [
    ("openapi", .string "3.0.3"),
    ("info", .members [("title", .string "T"), ("version", .string "1")]),
    ("paths", .members []),
    ("components", .members [("schemas", .members [("S", schema)])])]).render

/-- No key is repeated, so the document comes back after both passes: the parts were merged, and a
property was hoisted. -/
theorem comesBack_merged_and_hoisted :
    let owner : Json := .members [("properties", .members [("name", .members [])])]
    let text := textOfParts [
      .members [("properties", .members [("owner", owner)])],
      .members [("title", .string "T"), ("x-$ref", .string "a")]]
    ∃ d, ofJsonText text = .ok d ∧ ((d.canonical {}).hoisted {}).ComesBack := by
  intro owner text
  have hread : (ofJsonText text).isOk = true := by decide +kernel
  have hkeys : (Json.readTree? text).any Tree.distinct = true := by decide +kernel
  obtain ⟨t, ht, hdistinct⟩ := (Option.any_eq_true _ _).1 hkeys
  cases hd : ofJsonText text with
  | error fault =>
    rw [hd] at hread
    cases hread
  | ok d =>
    have hobtained : ((d.canonical {}).hoisted {}).Obtained text :=
      .hoisted {} (.canonical {} (.read hd))
    exact ⟨d, rfl, ((comesBack_iff_of_obtained hobtained).2.2 t ht hdistinct).1⟩

/-- A part whose `$ref` is repeated is read as a schema, but when it was written it is read as a
reference: the document does not come back. -/
theorem not_comesBack_of_repeated_reference :
    let text := textOfParts [
      .members [("$ref", .string "a"), ("$ref", .string "b"), ("description", .string "D")],
      .members [("title", .string "T")]]
    let paths (d : Document) := (schemas d).flatMap fun r =>
      r.inline?.toList.flatMap fun s => s.allOf.map Referable.path?
    ∃ d e, ofJsonText text = .ok d ∧ ofTree? (.ofJson d.toJson) = some e ∧
      paths d = [none, none] ∧ paths e = [some "b", none] ∧ ¬ d.ComesBack := by
  intro text paths
  have hrun : (ofJsonText text).toOption.bind (fun d => (ofTree? (.ofJson d.toJson)).map fun e =>
      ((paths d, paths e), paths d.ordered, paths e.ordered)) =
      some (([none, none], [some "b", none]), [none, none], [some "b", none]) := by
    decide +kernel
  obtain ⟨d, hd, he⟩ := Option.bind_eq_some_iff.1 hrun
  obtain ⟨e, he, hpaths⟩ := Option.map_eq_some_iff.1 he
  simp only [Prod.mk.injEq] at hpaths
  obtain ⟨⟨hbefore, hafter⟩, hbefore', hafter'⟩ := hpaths
  have hread : ofJsonText text = .ok d := by
    cases h : ofJsonText text <;> rw [h] at hd <;> cases hd
    rfl
  refine ⟨d, e, hread, he, hbefore, hafter, ?_⟩
  rintro ⟨e', he', horder⟩
  obtain rfl := Option.some.inj (he.symm.trans he')
  rw [horder, hbefore'] at hafter'
  cases hafter'

end Document

end ApiLowering
