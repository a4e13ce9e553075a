import ApiLowering.Proofs.Canonical.Steps
import ApiLowering.Proofs.Schema.Content

/-!
# The canonical form keeps the content

Without switches the canonical form of a schema has the properties, the required names and the
referenced parts of the schema: parts are dropped only where an equal one stays, merged parts say
what all of them said, and what the whole takes from its only inline part is gone from there. A
schema that becomes a bare reference said no more than that reference.

## Main definitions

* `Schema.Keeps` — a schema says what another one says, and its parts are proper again.

## Main results

* `Schema.keeps_distinctParts`, `Schema.keeps_unifyParts`, `Schema.keeps_lift`,
  `Schema.keeps_withType` — the single steps.
* `Schema.canonicalRef_spec` — the canonical form says what the schema says.
-/

namespace ApiLowering

namespace Schema

/-- The second schema says what the first one says, and its parts are proper. -/
structure Keeps (s t : Schema) : Prop where
  parts : ∀ r ∈ t.allOf, Each Keywords.Proper r
  own : s.keywords.Proper → t.keywords.Proper
  content : ∀ f, Says (.inline t) f ↔ Says (.inline s) f

lemma Keeps.trans {s t u : Schema} (h : Keeps s t) (h' : Keeps t u) : Keeps s u where
  parts := h'.parts
  own := h'.own ∘ h.own
  content f := (h'.content f).trans (h.content f)

/-- Schemas with the same properties and required names, whose parts say the same, say the same. -/
lemma says_congr {s t : Schema} (hproperties : t.properties = s.properties)
    (hrequired : ∀ n, n ∈ t.keywords.required ↔ n ∈ s.keywords.required)
    (hparts : ∀ f, (∃ r ∈ t.allOf, Says r f) ↔ ∃ r ∈ s.allOf, Says r f) (f : Facet) :
    Says (.inline t) f ↔ Says (.inline s) f := by
  rw [says_inline_iff, says_inline_iff, hparts, hproperties]
  simp only [hrequired]

/-! ## References and inline parts -/

/-- What parts say: what the references say and what the inline parts say. -/
lemma says_parts_iff (rs : List SchemaRef) {f : Facet} :
    (∃ r ∈ rs, Says r f) ↔
      (∃ r ∈ references rs, Says r f) ∨ ∃ p ∈ inlines rs, Says (.inline p) f := by
  constructor
  · rintro ⟨r, hr, hf⟩
    cases r with
    | ref path => exact .inl ⟨_, mem_references.2 ⟨hr, path, rfl⟩, hf⟩
    | inline p => exact .inr ⟨p, mem_inlines.2 hr, hf⟩
  · rintro (⟨r, hr, hf⟩ | ⟨p, hp, hf⟩)
    · exact ⟨r, (mem_references.1 hr).1, hf⟩
    · exact ⟨_, mem_inlines.1 hp, hf⟩

/-! ## Single steps -/

/-- Of equal parts one stays. -/
lemma keeps_distinctParts {s : Schema} (hs : ∀ r ∈ s.allOf, Each Keywords.Proper r) :
    Keeps s s.distinctParts where
  parts r hr := hs r (mem_of_mem_distinctWith hr)
  own h := ⟨h.fresh, h.straight⟩
  content := by
    refine says_congr rfl (fun n => mem_distinctBy_id) fun f => ?_
    constructor
    · rintro ⟨r, hr, hf⟩
      exact ⟨r, mem_of_mem_distinctWith hr, hf⟩
    · rintro ⟨r, hr, hf⟩
      obtain ⟨q, hq, hqr⟩ : ∃ q ∈ distinctWith sameRef s.allOf, sameRef q r = true :=
        exists_same_mem_distinctWith sameRef_refl hr
      have hfresh {r : SchemaRef} (hr : r ∈ s.allOf) : Each Keywords.Fresh r :=
        (hs r hr).mono fun _ hk => hk.fresh
      exact ⟨q, hq, (says_of_sameRef (hfresh (mem_of_mem_distinctWith hq)) (hfresh hr) hqr).2 hf⟩

lemma says_withoutRepeated (s p : Schema) (f : Facet) :
    Says (.inline (s.withoutRepeated p)) f ↔ Says (.inline p) f :=
  says_congr (s := p) (t := s.withoutRepeated p) rfl (fun _ => Iff.rfl) (fun _ => Iff.rfl) f

/-- Parts keep what they say when they are put in order. -/
lemma keeps_orderParts {s : Schema} (hs : ∀ r ∈ s.allOf, Each Keywords.Proper r) :
    Keeps s s.orderParts where
  parts r hr := by
    rcases List.mem_append.1 hr with hr | hr
    · exact hs r (mem_references.1 hr).1
    · obtain ⟨p, hp, rfl⟩ := List.mem_map.1 hr
      have h := hs _ (mem_inlines.1 hp)
      exact .inline ⟨h.keywords.fresh, h.keywords.straight⟩ h.parts
  own h := h
  content := by
    refine says_congr rfl (fun _ => Iff.rfl) fun f => ?_
    rw [says_parts_iff s.orderParts.allOf, says_parts_iff s.allOf,
      references_orderParts, inlines_orderParts]
    simp only [List.mem_map, exists_exists_and_eq_and, says_withoutRepeated]

/-- Merged parts say what all of them said. -/
lemma keeps_mergeParts {s : Schema} (hs : ∀ r ∈ s.allOf, Each Keywords.Proper r) :
    Keeps s s.mergeParts := by
  have hrefl : Keeps s s := ⟨hs, id, fun _ => Iff.rfl⟩
  rw [mergeParts]
  split
  · rename_i a b rest hinlines
    split
    · rename_i merged hmerged
      obtain ⟨-, hproper, hcontent⟩ := mergeAll_spec
        (fun p hp => hs _ (mem_inlines.1 (hinlines ▸ hp))) hmerged
      refine ⟨fun r hr => ?_, id, says_congr rfl (fun _ => Iff.rfl) fun f => ?_⟩
      · rcases List.mem_append.1 hr with hr | hr
        · exact hs r (mem_references.1 hr).1
        · exact List.mem_singleton.1 hr ▸ hproper
      · rw [says_parts_iff s.allOf, hinlines, ← hcontent]
        simp only [List.mem_append, List.mem_singleton, or_and_right, exists_or, exists_eq_left]
    · exact hrefl
  · exact hrefl

lemma keeps_unifyParts {s : Schema} (hs : ∀ r ∈ s.allOf, Each Keywords.Proper r) :
    Keeps s s.unifyParts := by
  rw [unifyParts]
  split
  · have h := keeps_orderParts hs
    exact h.trans (keeps_mergeParts h.parts)
  · exact ⟨hs, id, fun _ => Iff.rfl⟩

lemma mem_takenList_or_leftOverList {α : Type} {outer inner : List α} {x : α} :
    x ∈ takenList outer inner ∨ x ∈ leftOverList outer inner ↔ x ∈ outer ∨ x ∈ inner := by
  rw [takenList, leftOverList]
  cases outer <;> simp

/-- An empty schema says nothing. -/
lemma not_says_of_isEmpty {s : Schema} (h : s.isEmpty = true) (f : Facet) :
    ¬ Says (.inline s) f := by
  simp only [isEmpty, Bool.and_eq_true, List.isEmpty_iff, Table.isEmpty] at h
  obtain ⟨⟨⟨⟨⟨⟨⟨hmembers, hproperties⟩, -⟩, -⟩, -⟩, hallOf⟩, -⟩, -⟩ := h
  have hrequired : s.keywords.required = [] := by
    have hmember : Json.listMember "required" s.keywords.required Json.string = [] := by
      unfold Keywords.members at hmembers
      simp only [List.append_eq_nil_iff] at hmembers
      tauto
    cases hr : s.keywords.required with
    | nil => rfl
    | cons n ns => simp [Json.listMember, Json.arrayMember, hr] at hmember
  rw [says_inline_iff]
  simp [Table.keys, hproperties, hallOf, hrequired]

/-- A part in the place of the only inline one: the references stay. -/
lemma says_replaceInline {rs : List SchemaRef} {inner part : Schema} (h : inlines rs = [inner])
    {f : Facet} : (∃ r ∈ replaceInline part rs, Says r f) ↔
      (∃ r ∈ references rs, Says r f) ∨ Says (.inline part) f := by
  rw [replaceInline]
  split
  · rename_i hempty
    simp [not_says_of_isEmpty hempty f]
  · have hinner : .inline inner ∈ rs := mem_inlines.1 (h ▸ List.mem_singleton_self inner)
    constructor
    · rintro ⟨r, hr, hf⟩
      obtain ⟨q, hq, rfl⟩ := List.mem_map.1 hr
      cases q with
      | ref path => exact .inl ⟨_, mem_references.2 ⟨hq, path, rfl⟩, hf⟩
      | inline p => exact .inr hf
    · rintro (⟨r, hr, hf⟩ | hf)
      · obtain ⟨hr, path, rfl⟩ := mem_references.1 hr
        exact ⟨_, List.mem_map.2 ⟨_, hr, rfl⟩, hf⟩
      · exact ⟨_, List.mem_map.2 ⟨_, hinner, rfl⟩, hf⟩

/-- The whole and its part say together what they said before. -/
lemma or_exchange {own taken left required required' refs own' parts : Prop}
    (h : taken ∨ left ↔ required ∨ required') :
    own ∨ taken ∨ refs ∨ own' ∨ left ∨ parts ↔ own ∨ required ∨ refs ∨ own' ∨ required' ∨ parts := by
  tauto

lemma each_replaceInline {P : Keywords → Prop} {part : Schema} {rs : List SchemaRef}
    (hrs : ∀ r ∈ rs, Each P r) (hpart : Each P (.inline part)) :
    ∀ r ∈ replaceInline part rs, Each P r := by
  intro r hr
  rw [replaceInline] at hr
  split at hr
  · exact hrs r (mem_references.1 hr).1
  · obtain ⟨q, hq, rfl⟩ := List.mem_map.1 hr
    cases q with
    | ref path => exact .ref path
    | inline p => exact hpart

/-- What the whole takes from its only inline part is gone from there. -/
lemma says_lift {s inner : Schema} (h : inlines s.allOf = [inner]) (f : Facet) :
    Says (.inline s.lift) f ↔ Says (.inline s) f := by
  have hremainder : Says (.inline (s.remainder inner)) f ↔
      (∃ n ∈ inner.properties.keys, f = .property n) ∨
        (∃ n ∈ leftOverList s.keywords.required inner.keywords.required, f = .required n) ∨
          ∃ r ∈ inner.allOf, Says r f := says_inline_iff
  have hrequired : (∃ n ∈ takenList s.keywords.required inner.keywords.required,
        f = .required n) ∨
      (∃ n ∈ leftOverList s.keywords.required inner.keywords.required, f = .required n) ↔
      (∃ n ∈ s.keywords.required, f = .required n) ∨
        ∃ n ∈ inner.keywords.required, f = .required n := by
    simp only [← exists_or, ← or_and_right, mem_takenList_or_leftOverList]
  have hparts : (∃ r ∈ s.allOf, Says r f) ↔
      (∃ r ∈ references s.allOf, Says r f) ∨ Says (.inline inner) f := by
    rw [says_parts_iff, h]
    simp only [List.mem_singleton, exists_eq_left]
  rw [says_inline_iff, lift_properties, lift_required h, lift_allOf h, says_replaceInline h,
    hremainder, says_inline_iff (s := s), hparts, says_inline_iff (s := inner)]
  exact or_exchange hrequired

lemma keeps_lift {s : Schema} (hs : ∀ r ∈ s.allOf, Each Keywords.Proper r) : Keeps s s.lift := by
  by_cases h : ∃ inner, inlines s.allOf = [inner]
  · obtain ⟨inner, hinner⟩ := h
    have hproper := hs _ (mem_inlines.1 (hinner ▸ List.mem_singleton_self inner))
    have hremainder : Each Keywords.Proper (.inline (s.remainder inner)) :=
      .inline ⟨hproper.keywords.fresh, hproper.keywords.straight⟩ hproper.parts
    refine ⟨?_, fun hk => ⟨?_, ?_⟩, says_lift hinner⟩
    · rw [lift_allOf hinner]
      exact each_replaceInline hs hremainder
    · rw [Keywords.Fresh, lift_extensions]
      exact hk.fresh
    · rw [Keywords.Straight, lift_extensions]
      exact hk.straight
  · rw [lift_eq_self fun inner hinner => h ⟨inner, hinner⟩]
    exact ⟨hs, id, fun _ => Iff.rfl⟩

/-- An empty schema says as little as one of objects. -/
lemma keeps_withType {s : Schema} (hs : ∀ r ∈ s.allOf, Each Keywords.Proper r) :
    Keeps s s.withType := by
  rw [withType]
  split
  · rename_i hempty
    refine ⟨by simp [ofType], fun _ => ⟨by rintro e ⟨⟩, by rintro path ⟨⟩⟩, fun f => ?_⟩
    simp only [not_says_of_isEmpty hempty f, iff_false]
    rw [says_inline_iff]
    simp [ofType, Table.keys]
  · exact ⟨hs, id, fun _ => Iff.rfl⟩

/-- A schema that is only another name for a reference says just that. -/
lemma says_of_alias? {s : Schema} {path : String} (h : s.alias? = some path) (f : Facet) :
    Says (.inline s) f ↔ f = .target path := by
  obtain ⟨hallOf, hempty⟩ := alias?_eq_some_iff.1 h
  have hproperty : ¬ ∃ n ∈ s.properties.keys, f = .property n := fun hf =>
    not_says_of_isEmpty hempty f (says_inline_iff.2 (.inl hf))
  have hrequired : ¬ ∃ n ∈ s.keywords.required, f = .required n := fun hf =>
    not_says_of_isEmpty hempty f (says_inline_iff.2 (.inr (.inl hf)))
  rw [says_inline_iff, hallOf]
  simp only [hproperty, hrequired, List.mem_singleton, exists_eq_left, says_ref_iff, false_or]

/-- Coming down to a reference changes nothing of what is said. -/
lemma says_collapse (s : Schema) (f : Facet) : Says (collapse {} s) f ↔ Says (.inline s) f := by
  rw [collapse]
  split
  · rename_i path hpath
    rw [says_ref_iff, says_of_alias? hpath]
  · rfl

lemma canonicalNode_eq (s : Schema) :
    canonicalNode {} s = collapse {} s.distinctParts.unifyParts.lift.withType := rfl

/-! ## The canonical form -/

/-- A node with proper parts keeps what it says. -/
theorem canonicalNode_spec {s : Schema} (hs : ∀ r ∈ s.allOf, Each Keywords.Proper r) :
    (s.keywords.Proper → Each Keywords.Proper (canonicalNode {} s)) ∧
      ∀ f, Says (canonicalNode {} s) f ↔ Says (.inline s) f := by
  have hdistinct := keeps_distinctParts hs
  have hunify := hdistinct.trans (keeps_unifyParts hdistinct.parts)
  have hlift := hunify.trans (keeps_lift hunify.parts)
  have htype := hlift.trans (keeps_withType hlift.parts)
  rw [canonicalNode_eq]
  refine ⟨fun h => ?_, fun f => by rw [says_collapse, htype.content]⟩
  rw [collapse]
  split
  · exact .ref _
  · exact .inline (htype.own h) htype.parts

/-- A schema whose parts keep what they say keeps what it says. -/
lemma says_mapChildren {g : SchemaRef → SchemaRef} {s : Schema}
    (h : ∀ r ∈ s.allOf, ∀ f, Says (g r) f ↔ Says r f) (f : Facet) :
    Says (.inline (s.mapChildren g)) f ↔ Says (.inline s) f := by
  rw [says_inline_iff, says_inline_iff]
  have hkeys : (s.mapChildren g).properties.keys = s.properties.keys := Table.keys_map g _
  have hparts : (∃ r ∈ (s.mapChildren g).allOf, Says r f) ↔ ∃ r ∈ s.allOf, Says r f := by
    constructor
    · rintro ⟨_, hmem, hf⟩
      obtain ⟨r, hr, rfl⟩ := List.mem_map.1 hmem
      exact ⟨r, hr, (h r hr f).1 hf⟩
    · rintro ⟨r, hr, hf⟩
      exact ⟨g r, List.mem_map_of_mem hr, (h r hr f).2 hf⟩
  rw [hkeys, hparts]
  rfl

/-- **The canonical form keeps the content**: that of a proper schema or reference is proper and
says what the schema or reference says.

**Proof sketch.** Induction over the parts. Below a node the parts keep what they say, and the node
keeps what is below it. -/
theorem canonicalRef_spec {r : SchemaRef} (hr : Each Keywords.Proper r) :
    Each Keywords.Proper (canonicalRef {} r) ∧ ∀ f, Says (canonicalRef {} r) f ↔ Says r f := by
  induction hr with
  | ref path =>
    rw [canonicalRef_ref]
    exact ⟨.ref path, fun _ => Iff.rfl⟩
  | @inline s hs hparts ih =>
    have hproper : ∀ r ∈ (s.mapChildren (canonicalRef {})).allOf, Each Keywords.Proper r := by
      intro _ hmem
      obtain ⟨r, hr, rfl⟩ := List.mem_map.1 hmem
      exact (ih r hr).1
    obtain ⟨hnode, hcontent⟩ := canonicalNode_spec hproper
    rw [canonicalRef_inline]
    refine ⟨hnode hs, fun f => ?_⟩
    rw [hcontent, says_mapChildren fun r hr => (ih r hr).2]

/-! ## Stray references -/

/-- Where the last of several inline parts has a textual `$ref` among its unknown keywords, that
reference takes the place of all inline parts. -/
theorem says_canonicalNode_of_stray {s p : Schema} {ps : List Schema} {path : String}
    (hps : ps ≠ []) (hinlines : inlines s.distinctParts.allOf = ps ++ [p])
    (hkeys : p.keywords.extensions.keys.Nodup)
    (hstray : ("$ref", .string path) ∈ p.keywords.extensions.entries) (f : Facet) :
    Says (canonicalNode {} s) f ↔
      (∃ n ∈ s.properties.keys, f = .property n) ∨ (∃ n ∈ s.keywords.required, f = .required n) ∨
        (∃ r ∈ references s.distinctParts.allOf, Says r f) ∨ f = .target path := by
  have hlength : s.distinctParts.allOf.length > 1 := by
    have hle : (inlines s.distinctParts.allOf).length ≤ s.distinctParts.allOf.length :=
      List.length_filterMap_le _ _
    have hpos := List.length_pos_iff.2 hps
    rw [hinlines, List.length_append, List.length_singleton] at hle
    omega
  have hordered : inlines s.distinctParts.orderParts.allOf =
      ps.map s.distinctParts.withoutRepeated ++ [s.distinctParts.withoutRepeated p] := by
    rw [inlines_orderParts, hinlines, List.map_append, List.map_singleton]
  have hmerged := mergeAll_of_stray (ps.map s.distinctParts.withoutRepeated)
    (s := s.distinctParts.withoutRepeated p) hkeys hstray
  have hseveral : 1 < (inlines s.distinctParts.orderParts.allOf).length := by
    have hpos := List.length_pos_iff.2 hps
    rw [hordered, List.length_append, List.length_map, List.length_singleton]
    omega
  have hunified := mergeParts_of_merged hseveral (hordered ▸ hmerged)
  have hrefs : ∀ r ∈ s.distinctParts.orderParts.mergeParts.allOf, ∃ q, r = .ref q := by
    rw [hunified]
    intro r hr
    rcases List.mem_append.1 hr with hr | hr
    · exact (mem_references.1 hr).2
    · exact ⟨path, List.mem_singleton.1 hr⟩
  have hlift : s.distinctParts.orderParts.mergeParts.lift =
      s.distinctParts.orderParts.mergeParts := by
    refine lift_eq_self fun inner hinner => ?_
    obtain ⟨q, hq⟩ := hrefs _ (mem_inlines.1 (hinner ▸ List.mem_singleton_self inner))
    cases hq
  have htype := keeps_withType (s := s.distinctParts.orderParts.mergeParts) fun r hr => by
    obtain ⟨q, rfl⟩ := hrefs r hr
    exact .ref q
  rw [canonicalNode_eq, says_collapse, unifyParts, if_pos hlength, hlift, htype.content, hunified,
    references_orderParts, says_inline_iff]
  simp only [List.mem_append, List.mem_singleton, or_and_right, exists_or, exists_eq_left,
    says_ref_iff]
  have hrequired : ∀ n, n ∈ s.distinctParts.keywords.required ↔ n ∈ s.keywords.required :=
    fun _ => mem_distinctBy_id
  exact or_congr Iff.rfl (or_congr (exists_congr fun n => and_congr (hrequired n) Iff.rfl) Iff.rfl)

/-- A schema or reference has the content of a schema: the same properties, required names and
referenced parts. A bare reference has it if that reference is all there is to the schema. -/
def SameContent (s : Schema) : SchemaRef → Prop
  | .inline t =>
    (∀ n, n ∈ (Shape.ofSchema t).properties.keys ↔ n ∈ (Shape.ofSchema s).properties.keys) ∧
      (∀ n, n ∈ (Shape.ofSchema t).required ↔ n ∈ (Shape.ofSchema s).required) ∧
        ∀ path, Says (.inline t) (.target path) ↔ Says (.inline s) (.target path)
  | .ref path =>
    (Shape.ofSchema s).properties.keys = [] ∧ (Shape.ofSchema s).required = [] ∧
      ∀ p, Says (.inline s) (.target p) ↔ p = path

lemma sameContent_of_says {s : Schema} {r : SchemaRef}
    (h : ∀ f, Says r f ↔ Says (.inline s) f) : SameContent s r := by
  cases r with
  | inline t =>
    refine ⟨fun n => ?_, fun n => ?_, fun path => h _⟩
    · rw [mem_keys_ofSchema, mem_keys_ofSchema, h]
    · rw [mem_required_ofSchema, mem_required_ofSchema, h]
  | ref path =>
    refine ⟨?_, ?_, fun p => ?_⟩
    · refine List.eq_nil_iff_forall_not_mem.2 fun n hn => ?_
      rw [mem_keys_ofSchema, ← h, says_ref_iff] at hn
      cases hn
    · refine List.eq_nil_iff_forall_not_mem.2 fun n hn => ?_
      rw [mem_required_ofSchema, ← h, says_ref_iff] at hn
      cases hn
    · rw [← h, says_ref_iff, Facet.target.injEq]

/-- **The content of the canonical form**: without switches the canonical form of a schema has the
properties, required names and referenced parts of the schema, unless a part has a textual `$ref`
among its unknown keywords. Where such a part is the last of several inline ones, only the reference
is left of them.

**Proof sketch.** The canonical form of a proper part says what the part says, and so does that of
the node above. For the other half, the merged value is read back as the stray reference. -/
theorem canonical_content (s : Schema) (hfresh : ∀ r ∈ s.allOf, Each Keywords.Fresh r) :
    ((∀ r ∈ s.allOf, Each Keywords.Straight r) →
      SameContent s (canonicalRef {} (.inline s))) ∧
    ∀ (ps : List Schema) (p : Schema) (path : String), ps ≠ [] →
      inlines (s.mapChildren (canonicalRef {})).distinctParts.allOf = ps ++ [p] →
      p.keywords.extensions.keys.Nodup →
      ("$ref", .string path) ∈ p.keywords.extensions.entries →
      ∀ f, Says (canonicalRef {} (.inline s)) f ↔
        (∃ n ∈ s.properties.keys, f = .property n) ∨
          (∃ n ∈ s.keywords.required, f = .required n) ∨
          (∃ r ∈ references (s.mapChildren (canonicalRef {})).distinctParts.allOf, Says r f) ∨
            f = .target path := by
  constructor
  · intro hstraight
    have hparts : ∀ r ∈ s.allOf, Each Keywords.Proper r :=
      fun r hr => (hfresh r hr).proper (hstraight r hr)
    have hproper : ∀ r ∈ (s.mapChildren (canonicalRef {})).allOf, Each Keywords.Proper r := by
      intro _ hmem
      obtain ⟨r, hr, rfl⟩ := List.mem_map.1 hmem
      exact (canonicalRef_spec (hparts r hr)).1
    refine sameContent_of_says fun f => ?_
    rw [canonicalRef_inline, (canonicalNode_spec hproper).2,
      says_mapChildren fun r hr => (canonicalRef_spec (hparts r hr)).2]
  · intro ps p path hps hinlines hkeys hstray f
    rw [canonicalRef_inline, says_canonicalNode_of_stray hps hinlines hkeys hstray]
    have hnames : (s.mapChildren (canonicalRef {})).properties.keys = s.properties.keys :=
      Table.keys_map _ _
    rw [hnames]
    rfl

/-- Two inline parts and a reference: every hypothesis holds. -/
theorem canonical_content_two_parts :
    let s : Schema := { allOf := [
      .inline { properties := ⟨[("name", .inline {})]⟩, keywords.required := ["name"] },
      .ref "#/components/schemas/Base",
      .inline { properties := ⟨[("age", .inline {})]⟩ }] }
    (∀ r ∈ s.allOf, Each Keywords.Fresh r) ∧ (∀ r ∈ s.allOf, Each Keywords.Straight r) ∧
      SameContent s (canonicalRef {} (.inline s)) := by
  intro s
  have hfresh : ∀ r ∈ s.allOf, Each Keywords.Fresh r := by
    intro r hr
    simp only [s, List.mem_cons, List.not_mem_nil, or_false] at hr
    rcases hr with rfl | rfl | rfl
    · exact .inline (by rintro e ⟨⟩) (by simp)
    · exact .ref _
    · exact .inline (by rintro e ⟨⟩) (by simp)
  have hstraight : ∀ r ∈ s.allOf, Each Keywords.Straight r := by
    intro r hr
    simp only [s, List.mem_cons, List.not_mem_nil, or_false] at hr
    rcases hr with rfl | rfl | rfl
    · exact .inline (by rintro path ⟨⟩) (by simp)
    · exact .ref _
    · exact .inline (by rintro path ⟨⟩) (by simp)
  exact ⟨hfresh, hstraight, (canonical_content s hfresh).1 hstraight⟩

/-- A part whose `$ref` is repeated is read as a schema, but after merging it counts as a reference:
the composition comes down to it, and both properties are lost. -/
theorem canonical_loses_content_at_stray_reference :
    ∃ (t : Tree) (s : Schema), readRef? t = some (.inline s) ∧
      (Shape.ofSchema s).properties.keys = ["x", "y"] ∧
      canonicalRef {} (.inline s) = .ref "b" ∧ ¬ SameContent s (canonicalRef {} (.inline s)) := by
  let t : Tree := .record [(.ofText "allOf", .list [
    .record [(.ofText "$ref", .leaf (.ofText "a")), (.ofText "$ref", .leaf (.ofText "b")),
      (.ofText "properties", .record [(.ofText "x", .record [])])],
    .record [(.ofText "properties", .record [(.ofText "y", .record [])])]] true)]
  have hrun : ((readRef? t).bind Referable.inline?).map (fun s =>
      ((Shape.ofSchema s).properties.keys, (canonicalRef {} (.inline s)).path?)) =
      some (["x", "y"], some "b") := by decide +kernel
  obtain ⟨s, hs, hresult⟩ := Option.map_eq_some_iff.1 hrun
  obtain ⟨r, hread, hr⟩ := Option.bind_eq_some_iff.1 hs
  obtain ⟨hkeys, hpath⟩ := Prod.mk.inj hresult
  have hcanonical : canonicalRef {} (.inline s) = .ref "b" := by
    cases h : canonicalRef {} (.inline s) <;> simp_all [Referable.path?]
  have hinline : r = .inline s := by
    cases r <;> simp_all [Referable.inline?]
  refine ⟨t, s, hinline ▸ hread, hkeys, hcanonical, ?_⟩
  rw [hcanonical]
  rintro ⟨hnone, -, -⟩
  simp [hkeys] at hnone

end Schema

end ApiLowering
