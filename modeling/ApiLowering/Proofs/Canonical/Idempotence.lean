import ApiLowering.Proofs.Canonical.Document
import ApiLowering.Proofs.Canonical.Fixpoints
import ApiLowering.Proofs.Document.Reading

/-!
# Canonical forms of canonical documents

Every schema of a canonical document is the canonical form of one of the document, and what holds of
all such forms holds of all its schemas. So the canonical form of a document that was read is its
own canonical form exactly if its schemas are in normal form.

## Main results

* `Document.every_canonical` — what holds of canonical forms holds in the canonical document.
* `Document.canonical_canonical_eq_iff` — when a canonical document is its own canonical form.
* `Document.canonical_not_idempotent` — a document whose canonical form is not.
-/

namespace ApiLowering

open Canonical Schema

variable {P : SchemaRef → Prop}

/-! ## Copies -/

lemma EverySchema.sortByKey {α : Type} [HasSchemas α] {t : Table α} (h : EverySchema P t) :
    EverySchema P t.sortByKey := by
  refine table_iff.2 fun v hv => table_iff.1 h v ?_
  exact ((sortBy_perm _ _).map Prod.snd).mem_iff.1 hv

namespace Components

variable {c : Components}

lemma every_header (h : EverySchema P c) {path : String} {header : Header}
    (hpath : c.header path = .ok header) : EverySchema P header := by
  obtain ⟨-, -, -, -, hheaders⟩ := EverySchema.components_iff.1 h
  have hvalue := Reference.mem_values_of_follow hpath
  exact EverySchema.referable_iff.1 (EverySchema.table_iff.1 hheaders _ hvalue) _ rfl

lemma every_response (h : EverySchema P c) {path : String} {response : Response}
    (hpath : c.response path = .ok response) : EverySchema P response := by
  obtain ⟨-, hresponses, -, -, -⟩ := EverySchema.components_iff.1 h
  obtain ⟨r, hr, htarget⟩ := List.mem_map.1
    (Table.values_map _ c.responses ▸ Reference.mem_values_of_follow hpath)
  refine EverySchema.responseRef_iff.1 (EverySchema.table_iff.1 hresponses r hr) _ ?_
  rw [htarget]
  rfl

lemma every_copyHeader (h : EverySchema P c) {header : HeaderRef} (hheader : EverySchema P header) :
    EverySchema P (c.copyHeader header) := by
  cases header with
  | inline header => exact hheader
  | ref path =>
    rw [copyHeader]
    split
    · rename_i header hpath
      exact every_header h hpath
    · exact hheader

lemma every_copyHeaders (h : EverySchema P c) {r : Response} (hr : EverySchema P r) :
    EverySchema P (c.copyHeaders r) := by
  obtain ⟨hcontent, hheaders⟩ := EverySchema.response_iff.1 hr
  refine EverySchema.response_iff.2 ⟨hcontent, EverySchema.table_iff.2 fun v hv => ?_⟩
  rw [copyHeaders, Table.values_map] at hv
  obtain ⟨header, hheader, rfl⟩ := List.mem_map.1 hv
  exact every_copyHeader h (EverySchema.table_iff.1 hheaders header hheader)

lemma every_copyResponse (h : EverySchema P c) {r : ResponseRef} (hr : EverySchema P r) :
    EverySchema P (c.copyResponse r) := by
  cases r with
  | inline r => exact every_copyHeaders h hr
  | ref path description =>
    rw [copyResponse]
    split
    · rename_i r hpath
      have hr : EverySchema P r := every_response h hpath
      exact every_copyHeaders h
        (show EverySchema P { r with description := description.getD r.description } from hr)
    · exact hr

lemma every_sorted (h : EverySchema P c) : EverySchema P c.sorted := by
  obtain ⟨hschemas, hresponses, hparameters, hbodies, hheaders⟩ := EverySchema.components_iff.1 h
  exact EverySchema.components_iff.2 ⟨hschemas.sortByKey, hresponses.sortByKey,
    hparameters.sortByKey, hbodies.sortByKey, hheaders.sortByKey⟩

lemma every_withCopies (h : EverySchema P c) : EverySchema P c.withCopies := by
  obtain ⟨hschemas, hresponses, hrest⟩ := EverySchema.components_iff.1 h
  refine EverySchema.components_iff.2 ⟨hschemas, EverySchema.table_iff.2 fun v hv => ?_, hrest⟩
  rw [withCopies, Table.values_map] at hv
  obtain ⟨r, hr, rfl⟩ := List.mem_map.1 hv
  exact every_copyResponse h (EverySchema.table_iff.1 hresponses r hr)

/-! ## Operations -/

variable {Q : SchemaRef → Prop} {sw : Switches}
  (hcanonical : ∀ r, P r → Q (canonicalRef sw r))

include hcanonical

lemma every_canonicalOperation (h : EverySchema P c) {shared : List ParameterRef}
    (hshared : EverySchema P shared) {op : Operation} (hop : EverySchema P op) :
    EverySchema Q (c.canonicalOperation sw shared op) := by
  obtain ⟨hparameters, hbody, hresponses⟩ := EverySchema.operation_iff.1 hop
  refine EverySchema.operation_iff.2 ⟨?_, hbody.mapSchemas hcanonical, ?_⟩
  · have hall : EverySchema P (c.allParameters op.parameters shared) :=
      EverySchema.list_iff.2 fun p hp => by
        rcases List.mem_append.1 (mem_of_mem_distinctWith hp) with hp | hp
        · exact EverySchema.list_iff.1 hparameters p hp
        · exact EverySchema.list_iff.1 hshared p hp
    exact hall.mapSchemas hcanonical
  · refine EverySchema.table_iff.2 fun v hv => ?_
    rw [canonicalOperation, Table.values_map] at hv
    obtain ⟨r, hr, rfl⟩ := List.mem_map.1 hv
    have hcopy := every_copyResponse h (EverySchema.table_iff.1 hresponses r hr)
    rw [ResponseRef.canonical_eq]
    exact hcopy.mapSchemas hcanonical

lemma every_canonicalPath (h : EverySchema P c) {p : PathItem} (hp : EverySchema P p) :
    EverySchema Q (c.canonicalPath sw p) := by
  obtain ⟨hshared, hops⟩ := EverySchema.pathItem_iff.1 hp
  refine EverySchema.pathItem_iff.2 ⟨fun _ => nofun, fun m => ?_⟩
  rw [operation?_canonicalPath]
  refine EverySchema.option_iff.2 fun op' hop' => ?_
  obtain ⟨op, hop, rfl⟩ := Option.map_eq_some_iff.1 hop'
  exact every_canonicalOperation hcanonical h hshared (EverySchema.option_iff.1 (hops m) op hop)

end Components

/-! ## Documents -/

namespace Document

variable {d : Document} {sw : Switches}

lemma every_parts (h : EverySchema P d) : EverySchema P d.parts := by
  obtain ⟨hcomponents, -, -⟩ := EverySchema.document_iff.1 h
  rw [parts]
  cases hc : d.components with
  | none => exact fun r hr => by cases hr
  | some c =>
    rw [hc] at hcomponents
    exact hcomponents

/-- **What holds of the canonical forms** of all schemas of a kind holds of all schemas of a
canonical document if those of the document are of that kind. -/
theorem every_canonical {Q : SchemaRef → Prop} (hcanonical : ∀ r, P r → Q (canonicalRef sw r))
    (h : EverySchema P d) : EverySchema Q (d.canonical sw) := by
  obtain ⟨hcomponents, hpaths, hwebhooks⟩ := EverySchema.document_iff.1 h
  have hparts : EverySchema P d.arranged.withCopies.parts := by
    rw [parts_arranged_withCopies]
    exact Components.every_withCopies (Components.every_sorted (every_parts h))
  have hmap {t : Table PathItem} (ht : EverySchema P t) :
      EverySchema Q (t.map (d.arranged.withCopies.parts.canonicalPath sw)) := by
    refine EverySchema.table_iff.2 fun v hv => ?_
    rw [Table.values_map] at hv
    obtain ⟨p, hp, rfl⟩ := List.mem_map.1 hv
    exact Components.every_canonicalPath hcanonical hparts (EverySchema.table_iff.1 ht p hp)
  refine EverySchema.document_iff.2 ⟨?_, hmap hpaths.sortByKey, ?_⟩
  · rw [components_canonical]
    refine EverySchema.option_iff.2 fun c' hc' => ?_
    obtain ⟨c, hc, rfl⟩ := Option.map_eq_some_iff.1 (Option.filter_eq_some_iff.1 hc').1
    rw [Components.canonical_eq]
    have hcopies := Components.every_withCopies
      (Components.every_sorted (EverySchema.option_iff.1 hcomponents c hc))
    exact hcopies.mapSchemas hcanonical
  · refine EverySchema.table_iff.2 fun v hv => ?_
    obtain ⟨e, he, rfl⟩ := List.mem_map.1 hv
    exact EverySchema.table_iff.1 (hmap hwebhooks.sortByKey) _
      (List.mem_map_of_mem (List.mem_filter.1 he).1)

/-- **A canonical document is its own canonical form** exactly if all of its schemas are in normal
form. -/
theorem canonical_canonical_eq_iff {t : Tree} (h : ofTree? t = some d) (sw : Switches) :
    (d.canonical sw).canonical sw = d.canonical sw ↔
      EverySchema (NormalForm sw) (d.canonical sw) := by
  have hfresh : EverySchema (Every Lawful) (d.canonical sw) :=
    every_canonical (fun r hr => hereditary_lawful.every_canonicalRef hr sw)
      (every_lawful_of_ofTree? h)
  rw [canonical_canonical, HasSchemas.mapSchemas_eq_self_iff]
  exact forall₂_congr fun r hr => canonicalRef_eq_self_iff (hfresh r hr)

/-- A document with one component schema: two titles and two properties, the inner ones in a part of
the only part. -/
def nestedParts : Tree := .ofJson (.object [
  ("openapi", .string "3.0.0"),
  ("info", .object [("title", .string "Nested"), ("version", .string "1")]),
  ("components", .object [("schemas", .object [("S", .object [("allOf", .array [.object [
    ("title", .string "A"),
    ("properties", .object [("p", .object [("type", .string "string")])]),
    ("allOf", .array [.object [
      ("title", .string "B"),
      ("properties", .object [("q", .object [("type", .string "string")])])]])]])])])])])

theorem canonical_canonical_eq_iff_nested : ∃ d, ofTree? nestedParts = some d ∧
    ((d.canonical {}).canonical {} = d.canonical {} ↔
      EverySchema (NormalForm {}) (d.canonical {})) :=
  have h : (ofTree? nestedParts).isSome = true := by decide +kernel
  ⟨_, (Option.some_get h).symm, canonical_canonical_eq_iff (Option.some_get h).symm {}⟩

/-- **The canonical form is not idempotent**, not even up to the order of keys: when the title of the
part goes up to the whole, the part of the part becomes one that can be merged. -/
theorem canonical_not_idempotent : ∃ d, ofTree? nestedParts = some d ∧
    ((d.canonical {}).canonical {}).same (d.canonical {}) = false := by
  have h : ((ofTree? nestedParts).any fun d =>
      !((d.canonical {}).canonical {}).same (d.canonical {})) = true := by
    decide +kernel
  obtain ⟨hsome, hne⟩ := (Option.any_eq_true_iff_get _ _).1 h
  exact ⟨_, (Option.some_get hsome).symm, by simpa using hne⟩

end Document

end ApiLowering
