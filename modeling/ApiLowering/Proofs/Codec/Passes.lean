import ApiLowering.Proofs.Canonical.Outside
import ApiLowering.Proofs.Canonical.Steps
import ApiLowering.Proofs.Codec.Documents
import ApiLowering.Proofs.Hoisting.Restoration

/-!
# Passes keep documents sound

The canonical form of a sound document is sound, and so is the document with its anonymous schemas
hoisted. A schema in canonical form has its keywords from what was there: from the schema itself,
or from a part that was lifted; and what was merged was read from a value. Hoisting moves schemas,
and puts references in their places. Around its schemas a document is completed with copies of what
it has.

## Main results

* `Schema.hereditary_sound` — soundness passes to what the steps of the canonical form leave.
* `Hoisting.Trace.every` — hoisting leaves and adds no schema of another kind.
* `Document.sound_canonical`, `Document.sound_hoisted` — the passes keep documents sound.
-/

namespace ApiLowering

open Schema

/-! ## Schemas -/

lemma Keywords.tidy_iff {k : Keywords} : layout.Sound .tidy k ↔
    (∀ d ∈ k.discriminator, d.mapping.keys.Nodup) ∧ (∀ v ∈ k.enumValues, v.Tidy) ∧
      ∀ v ∈ k.freeForm, v.Tidy ∧ v ≠ .null := by
  have htypes (t : TypeSet) : t.toJson ≠ .null := by
    intro h
    cases t <;> cases h
  have hdiscriminator (d : Discriminator) : d.toJson ≠ .null := by
    intro h
    cases h
  have hnat (n : Nat) : Json.ofNat n ≠ .null := by
    intro h
    cases h
  simp only [Layout.Sound, layout, List.forall_mem_cons, mem_freeForm, or_imp, forall_and]
  simp [htypes, hdiscriminator, hnat, forall_and]
  tauto

namespace Schema

/-- What is merged from tidy schemas is sound: it was read from a value. -/
lemma every_of_mergeAll {k : Soundness} {ps : List Schema} {r : SchemaRef}
    (hps : ∀ p ∈ ps, Every Tidy (.inline p)) (hr : mergeAll ps = some r) :
    Every (SoundNode k) r := by
  have hmerged : ∀ (ps : List Schema) (v : Json), v.Tidy → (∀ p ∈ ps, Every Tidy (.inline p)) →
      (ps.foldl (fun acc p => acc.merge p.toJson) v).Tidy := by
    intro ps
    induction ps with
    | nil => exact fun _ hv _ => hv
    | cons p ps ih =>
      intro v hv hps
      have hp : p.toJson.Tidy := by
        have htidy := tidy_refJson (hps p List.mem_cons_self)
        rwa [refJson, writeRef_inline] at htidy
      exact ih _ (hv.merge hp) fun q hq => hps q (List.mem_cons_of_mem _ hq)
  have htidy := hmerged ps (.members []) (.members List.Pairwise.nil (List.forall_mem_nil _)) hps
  exact Codec.schema.sound_of_read (Tree.sound_ofJson htidy) hr

/-- Tidy schemas become tidy ones, and straight ones straight ones. -/
lemma hereditary_sound (k : Soundness) : Hereditary fun s => s.Tidy ∧ SoundNode k s where
  node := by
    rintro s p t ⟨hs, hsk⟩ ⟨hp, -⟩ hkeys hkeywords
    obtain ⟨hdiscriminator, henum, hfree⟩ := Keywords.tidy_iff.1 hs.keywords
    obtain ⟨-, -, hfree'⟩ := Keywords.tidy_iff.1 hp.keywords
    have htidy : t.Tidy := by
      refine ⟨Keywords.tidy_iff.2 ⟨?_, ?_, fun v hv => ?_⟩, ?_, hkeys ▸ hs.distinct⟩
      · rwa [hkeywords.discriminator]
      · rwa [hkeywords.enumValues]
      · exact (hkeywords.freeForm v hv).elim (hfree v) (hfree' v)
      · rw [hkeywords.extensions]
        exact hs.extensions
    refine ⟨htidy, ?_⟩
    cases k with
    | tidy => exact htidy
    | straight =>
      rw [SoundNode, Keywords.Straight, hkeywords.extensions]
      exact hsk
  object := by
    have htidy : (ofType .object).Tidy := by
      refine ⟨Keywords.tidy_iff.2 ⟨nofun, List.forall_mem_nil _, List.forall_mem_nil _⟩,
        ⟨List.nodup_nil, List.forall_mem_nil _, List.forall_mem_nil _⟩, List.nodup_nil⟩
    cases k with
    | tidy => exact ⟨htidy, htidy⟩
    | straight => exact ⟨htidy, fun path => List.not_mem_nil⟩
  merged hps hr :=
    (every_of_mergeAll (k := .tidy) (fun p hp => (hps p hp).mono fun _ => And.left) hr).and
      (every_of_mergeAll (fun p hp => (hps p hp).mono fun _ => And.left) hr)

end Schema

/-- The canonical form of a tidy schema is as sound as the schema. -/
lemma Schema.every_soundNode_canonicalRef {k : Soundness} {r : SchemaRef} (sw : Canonical.Switches)
    (htidy : Every Tidy r) (h : Every (SoundNode k) r) :
    Every (SoundNode k) (canonicalRef sw r) :=
  ((hereditary_sound k).every_canonicalRef (htidy.and h) sw).mono fun _ => And.right

/-! ## Hoisted schemas -/

namespace Hoisting

variable {P : Schema → Prop}

/-- A schema with the keywords of another one is of the same kind if the schemas below it are. -/
lemma every_of_sameNode (hP : Hereditary P) {s t : Schema} (h : s.SameNode t)
    (hs : Every P (.inline s))
    (hchildren : ∀ x ∈ (schemas s.fields).zip (schemas t.fields), Every P x.2) :
    Every P (.inline t) := by
  have hfrom : t.keywords.From s.keywords s.keywords := h.keywords ▸ .refl _
  refine .inline (hP.node hs.node hs.node h.keys_eq hfrom) fun r hr => ?_
  obtain ⟨q, hq⟩ := h.exists_mem_zip hr
  exact hchildren _ hq

/-- **Hoisting leaves and adds no schema of another kind.** -/
theorem Trace.every (hP : Hereditary P) {p q : Pool} {xs : List (SchemaRef × SchemaRef)}
    (h : Trace p xs q) (hxs : ∀ x ∈ xs, Every P x.1)
    (hp : ∀ t ∈ p.added.values, Every P (.inline t)) :
    (∀ x ∈ xs, Every P x.2) ∧ ∀ t ∈ q.added.values, Every P (.inline t) := by
  have hbelow {s t : Schema} (hs : Every P (.inline s)) :
      ∀ x ∈ (schemas s.fields).zip (schemas t.fields), Every P x.1 :=
    fun x hx => hs.children _ (SameNode.mem_children_of_mem_zip hx).1
  induction h with
  | nil => exact ⟨List.forall_mem_nil _, hp⟩
  | append _ _ ih ih' =>
    obtain ⟨hxs, hys⟩ := List.forall_mem_append.1 hxs
    obtain ⟨hxs, hq⟩ := ih hxs hp
    obtain ⟨hys, hr⟩ := ih' hys hq
    exact ⟨List.forall_mem_append.2 ⟨hxs, hys⟩, hr⟩
  | stay =>
    exact ⟨List.forall_mem_singleton.2 (hxs _ (List.mem_singleton_self _)), hp⟩
  | walk hnode _ ih =>
    have hs := hxs _ (List.mem_singleton_self _)
    obtain ⟨hchildren, hq⟩ := ih (hbelow hs) hp
    exact ⟨List.forall_mem_singleton.2 (every_of_sameNode hP hnode hs hchildren), hq⟩
  | add _ hnode _ ih =>
    have hs := hxs _ (List.mem_singleton_self _)
    obtain ⟨hchildren, hq⟩ := ih (hbelow hs) hp
    refine ⟨List.forall_mem_singleton.2 (.ref _), fun u hu => ?_⟩
    rcases Table.mem_values_insert hu with rfl | hu
    · exact every_of_sameNode hP hnode hs hchildren
    · exact hq u hu
  | share _ _ _ _ ih =>
    have hs := hxs _ (List.mem_singleton_self _)
    exact ⟨List.forall_mem_singleton.2 (.ref _), (ih (hbelow hs) hp).2⟩

end Hoisting

/-! ## Copies -/

namespace Components

variable {k : Soundness} {c : Components} (hc : Codec.components.Sound k c)

include hc

lemma sound_copyHeader {h : HeaderRef} (hh : Codec.headerRef.Sound k h) :
    Codec.headerRef.Sound k (c.copyHeader h) := by
  cases h with
  | inline h => exact hh
  | ref path =>
    rw [copyHeader]
    cases hpath : c.header path with
    | error fault => exact hh
    | ok h =>
      obtain ⟨-, -, -, -, -, hheaders, -⟩ := Codec.sound_components.1 hc
      exact hheaders.2 _ (Reference.mem_values_of_follow hpath)

lemma soundInline_copyHeaders {r : Response} (hr : Response.record.SoundInline k r) :
    Response.record.SoundInline k (c.copyHeaders r) := by
  obtain ⟨⟨hcontent, hheaders⟩, hrest⟩ := (Codec.splits_response k r).1 hr
  refine (Codec.splits_response k _).2 ⟨⟨hcontent, ?_⟩, hrest⟩
  exact hheaders.map fun h hh => sound_copyHeader hc hh

lemma sound_copyResponse {r : ResponseRef} (hr : Codec.responseRef.Sound k r) :
    Codec.responseRef.Sound k (c.copyResponse r) := by
  cases r with
  | inline r =>
    rintro x hx
    obtain rfl := Option.mem_some.1 hx
    exact soundInline_copyHeaders hc (hr r rfl)
  | ref path description =>
    rw [copyResponse]
    cases hpath : c.response path with
    | error fault => exact hr
    | ok r =>
      rintro x hx
      obtain rfl := Option.mem_some.1 hx
      obtain ⟨-, hresponses, -⟩ := Codec.sound_components.1 hc
      have hmem := Reference.mem_values_of_follow hpath
      rw [Table.values_map] at hmem
      obtain ⟨q, hq, htarget⟩ := List.mem_map.1 hmem
      have hr : Response.record.SoundInline k r := hresponses.2 q hq r (by rw [htarget]; rfl)
      exact soundInline_copyHeaders hc (Response.soundInline_description.2 hr)

/-! ## Completion -/

lemma sound_completeOperation {shared : List ParameterRef} {op : Operation}
    (hshared : ∀ p ∈ shared, Codec.parameterRef.Sound k p) (sw : Canonical.Switches)
    (hop : Codec.operation.Sound k op) :
    Codec.operation.Sound k (c.completeOperation sw shared op) := by
  obtain ⟨hparameters, hbody, hresponses, hsecurity, hcallbacks, hextensions⟩ :=
    Codec.sound_operation.1 hop
  refine Codec.sound_operation.2 ⟨fun p hp => ?_, hbody,
    hresponses.map fun r hr => sound_copyResponse hc hr, fun rs hrs r hr => ?_, hcallbacks,
    hextensions⟩
  · have hmem := (distinctWith_sublist _ (op.parameters ++ shared)).subset hp
    exact (List.mem_append.1 hmem).elim (hparameters p) (hshared p)
  · obtain ⟨qs, hqs, rfl⟩ := Option.map_eq_some_iff.1 hrs
    exact hsecurity qs hqs r ((distinctWith_sublist _ qs).subset hr)

lemma sound_completePath (sw : Canonical.Switches) {p : PathItem}
    (hp : Codec.pathItem.Sound k p) : Codec.pathItem.Sound k (c.completePath sw p) := by
  obtain ⟨⟨hshared, hget, hput, hpost, hdelete, hoptions, hhead, hpatch, htrace⟩, hrest⟩ :=
    (Codec.splits_pathItem k p).1 hp
  have hop {o : Option Operation} (ho : ∀ op ∈ o, Codec.operation.Sound k op) :
      ∀ op ∈ o.map (c.completeOperation sw p.parameters), Codec.operation.Sound k op := by
    intro op' hop'
    obtain ⟨op, hop, rfl⟩ := Option.map_eq_some_iff.1 hop'
    exact sound_completeOperation hc hshared sw (ho op hop)
  exact (Codec.splits_pathItem k _).2 ⟨⟨List.forall_mem_nil _, hop hget, hop hput, hop hpost,
    hop hdelete, hop hoptions, hop hhead, hop hpatch, hop htrace⟩, hrest⟩

lemma sound_sorted : Codec.components.Sound k c.sorted := by
  obtain ⟨h1, h2, h3, h4, h5, h6, h7, h8, h9⟩ := Codec.sound_components.1 hc
  exact Codec.sound_components.2 ⟨h1.sortByKey, h2.sortByKey, h3.sortByKey, h4.sortByKey,
    h5.sortByKey, h6.sortByKey, h7.sortByKey, h8.sortByKey, h9.sortByKey⟩

lemma sound_withCopies : Codec.components.Sound k c.withCopies := by
  obtain ⟨hschemas, hresponses, hrest⟩ := Codec.sound_components.1 hc
  exact Codec.sound_components.2
    ⟨hschemas, hresponses.map fun r hr => sound_copyResponse hc hr, hrest⟩

end Components

namespace Document

variable {k : Soundness} {d : Document}

lemma sound_parts (h : Codec.document.Sound k d) : Codec.components.Sound k d.parts := by
  obtain ⟨-, -, -, -, hcomponents, -⟩ := Codec.sound_document.1 h
  rw [parts]
  cases hd : d.components with
  | none =>
    exact Codec.sound_components.2 ⟨Field.sound_empty _ k, Field.sound_empty _ k,
      Field.sound_empty _ k, Field.sound_empty _ k, Field.sound_empty _ k, Field.sound_empty _ k,
      Field.sound_empty _ k, Field.sound_empty _ k, Field.sound_empty _ k⟩
  | some c => exact hcomponents c hd

lemma sound_arranged (h : Codec.document.Sound k d) : Codec.document.Sound k d.arranged := by
  obtain ⟨hinfo, hservers, hpaths, hwebhooks, hcomponents, htags, hsecurity, hrest⟩ :=
    Codec.sound_document.1 h
  refine Codec.sound_document.2 ⟨hinfo, fun s hs => ?_, hpaths.sortByKey, hwebhooks.sortByKey,
    fun c' hc' => ?_, fun t ht => ?_, fun rs hrs r hr => ?_, hrest⟩
  · exact hservers s ((distinctWith_sublist _ d.servers).subset hs)
  · obtain ⟨c, hc, rfl⟩ := Option.map_eq_some_iff.1 hc'
    exact Components.sound_sorted (hcomponents c hc)
  · exact htags t ((distinctWith_sublist _ d.tags).subset ht)
  · obtain ⟨qs, hqs, rfl⟩ := Option.map_eq_some_iff.1 hrs
    exact hsecurity qs hqs r ((distinctWith_sublist _ qs).subset hr)

lemma sound_withCopies (h : Codec.document.Sound k d) : Codec.document.Sound k d.withCopies := by
  obtain ⟨hinfo, hservers, hpaths, hwebhooks, hcomponents, hrest⟩ := Codec.sound_document.1 h
  refine Codec.sound_document.2 ⟨hinfo, hservers, hpaths, hwebhooks, fun c' hc' => ?_, hrest⟩
  obtain ⟨c, hc, rfl⟩ := Option.map_eq_some_iff.1 hc'
  exact Components.sound_withCopies (hcomponents c hc)

/-- Around its schemas a sound document is completed to a sound one. -/
lemma sound_complete (sw : Canonical.Switches) (h : Codec.document.Sound k d) :
    Codec.document.Sound k (d.complete sw) := by
  have hcopied := sound_withCopies (sound_arranged h)
  obtain ⟨hinfo, hservers, hpaths, hwebhooks, hcomponents, hrest⟩ :=
    Codec.sound_document.1 hcopied
  have hpath (p : PathItem) (hp : Codec.pathItem.Sound k p) :=
    Components.sound_completePath (sound_parts hcopied) sw hp
  refine Codec.sound_document.2 ⟨hinfo, hservers, hpaths.map hpath,
    (hwebhooks.map hpath).filter _, fun c hc => ?_, hrest⟩
  exact hcomponents c (Option.filter_eq_some_iff.1 hc).1

/-- **The canonical form of a tidy document is as sound as the document.** -/
theorem sound_canonical (sw : Canonical.Switches) (htidy : Codec.document.Sound .tidy d)
    (h : Codec.document.Sound k d) : Codec.document.Sound k (d.canonical sw) := by
  rw [canonical_eq]
  refine sound_complete sw (Codec.separable_document.mapSchemas h fun r hr => ?_)
  exact every_soundNode_canonicalRef sw (Codec.separable_document.everySchema htidy r hr)
    (Codec.separable_document.everySchema h r hr)

lemma sound_withSchemas {added : Table SchemaRef} (h : Codec.document.Sound k d)
    (hadded : ∀ r ∈ added.values, Codec.schema.Sound k r) :
    Codec.document.Sound k (d.withSchemas added) := by
  rw [withSchemas]
  split
  · exact h
  · obtain ⟨hinfo, hservers, hpaths, hwebhooks, -, hrest⟩ := Codec.sound_document.1 h
    refine Codec.sound_document.2 ⟨hinfo, hservers, hpaths, hwebhooks, fun c hc => ?_, hrest⟩
    obtain rfl := Option.mem_some.1 hc
    obtain ⟨hschemas, hothers⟩ := Codec.sound_components.1 (sound_parts h)
    refine Codec.sound_components.2
      ⟨⟨fun hk => Table.nodup_keys_insertAll (hschemas.1 hk), fun r hr => ?_⟩, hothers⟩
    obtain ⟨e, he, rfl⟩ := List.mem_map.1 hr
    rcases Table.mem_of_mem_insertAll he with he | he
    · exact hschemas.2 _ (List.mem_map_of_mem he)
    · exact hadded _ (List.mem_map_of_mem he)

/-- **A tidy document with its anonymous schemas hoisted is as sound as the document.** -/
theorem sound_hoisted (rules : Hoisting.Rules) (htidy : Codec.document.Sound .tidy d)
    (h : Codec.document.Sound k d) : Codec.document.Sound k (d.hoisted rules) := by
  have hshape : SameShape d (d.hoisting rules).1 :=
    (Hoisting.tracks_walkDocument rules d d.declaredPool).1
  have htrace := (Hoisting.tracks_walkDocument rules d d.declaredPool).2
  have hbefore : ∀ x ∈ (schemas d).zip (schemas (d.hoisting rules).1),
      Every (fun s => s.Tidy ∧ SoundNode k s) x.1 := fun x hx =>
    have hmem := (List.of_mem_zip hx).1
    (Codec.separable_document.everySchema htidy _ hmem).and
      (Codec.separable_document.everySchema h _ hmem)
  obtain ⟨hafter, hadded⟩ :=
    htrace.every (hereditary_sound k) hbefore (List.forall_mem_nil _)
  have hleft : Codec.document.Sound k (d.hoisting rules).1 := by
    refine Codec.separable_document.of_sameShape hshape h fun r hr => ?_
    obtain ⟨q, hq⟩ := hshape.exists_mem_zip hr
    exact (hafter _ hq).mono fun _ => And.right
  rw [hoisted_eq]
  refine sound_withSchemas hleft fun r hr => ?_
  rw [Hoisting.Pool.components, Table.values_map] at hr
  obtain ⟨t, ht, rfl⟩ := List.mem_map.1 hr
  exact (hadded t ht).mono fun _ => And.right

end Document

end ApiLowering
