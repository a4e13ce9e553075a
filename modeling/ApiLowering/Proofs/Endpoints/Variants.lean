import ApiLowering.Proofs.Endpoints.Nicknames
import ApiLowering.Proofs.Schema.Sameness

/-!
# Bodies and their variants

The variants of a body divide its media types. Each media type is compared with the first one of
each variant alone, and as equality of schemas is an equivalence, this puts it beside all that have
its schema. So the endpoints of an operation divide the media types of its body, and only the media
type that means any is dropped later.

## Main definitions

* `BodyVariant.alike` — the media types whose contents belong together with some content.
* `BodyVariant.Partition` — variants divide the media types of a body, in their order.
* `BodyVariant.BySchema` — media types share a variant exactly if they have equal schemas.

## Main results

* `BodyVariant.mediaTypes_of_mem_ofContent` — what a variant gathers.
* `BodyVariant.partition_ofContent`, `BodyVariant.bySchema_ofContent` — the variants of a body.
* `Setup.Finishes.consumes` — what the stages do to the media types of an endpoint.
* `Resolver.consumes_partition` — the endpoints of an operation divide the media types of its body.
-/

namespace ApiLowering

/-! ## Equal schemas -/

namespace MediaType

/-- Contents have equal schemas exactly if these have one gist, or there is none. -/
lemma sameSchema_iff {m n : MediaType} : m.sameSchema n = true ↔
    m.schema.map Schema.gist = n.schema.map Schema.gist := by
  rw [sameSchema]
  cases m.schema <;> cases n.schema <;> simp [Schema.sameRef_iff]

lemma equivalence_sameSchema : Equivalence fun m n : MediaType => m.sameSchema n = true := by
  simp only [sameSchema_iff]
  exact ⟨fun _ => rfl, Eq.symm, Eq.trans⟩

end MediaType

/-! ## What a variant gathers -/

namespace BodyVariant

variable {together : MediaType → MediaType → Bool} {content : Table MediaType}
  {vs : List BodyVariant} {v : BodyVariant}

/-- The media types whose contents belong together with a content. -/
def alike (together : MediaType → MediaType → Bool) (m : MediaType)
    (es : List (String × MediaType)) : List String :=
  (es.filter fun e => together m e.2).map Prod.fst

lemma alike_concat (m : MediaType) (es : List (String × MediaType)) (e : String × MediaType) :
    alike together m (es ++ [e]) =
      alike together m es ++ if together m e.2 then [e.1] else [] := by
  rw [alike, List.filter_append, List.map_append]
  cases h : together m e.2 <;> simp [alike, h]

lemma exists_mem_of_mem_distinctWith {e : String × MediaType}
    (h : e ∈ distinctWith (fun e e' => together e.2 e'.2) content.entries) :
    ∃ v ∈ ofContent together content, v.leading = e := by
  rw [← map_leading_ofContent] at h
  exact List.mem_map.1 h

/-- The contents that variants are led by belong together with none before them. -/
lemma pairwise_ofContent : (ofContent together content).Pairwise
    fun v w => together v.content w.content = false := by
  have hpairwise := distinctWith_pairwise (fun e e' => together e.2 e'.2) content.entries
  rw [← map_leading_ofContent] at hpairwise
  exact List.pairwise_map.1 hpairwise

section Equivalent

variable (htogether : Equivalence fun m n => together m n = true)
include htogether

/-- Every media type belongs together with the first one of some variant. -/
lemma exists_together {e : String × MediaType} (he : e ∈ content.entries) :
    ∃ v ∈ ofContent together content, together v.content e.2 = true := by
  obtain ⟨y, hy, hye⟩ : ∃ y ∈ distinctWith (fun e e' => together e.2 e'.2) content.entries,
      together y.2 e.2 = true :=
    exists_same_mem_distinctWith (fun e => htogether.refl e.2) he
  obtain ⟨v, hv, rfl⟩ := exists_mem_of_mem_distinctWith hy
  exact ⟨v, hv, hye⟩

/-- A variant after a media type has entered: one that does not take it, the one that does, or a new
one. -/
lemma mem_enter (hvs : vs.Pairwise fun v w => together v.content w.content = false)
    {mediaType : String} {m : MediaType} (h : v ∈ enter together mediaType m vs) :
    (v ∈ vs ∧ together v.content m = false) ∨
    (∃ w ∈ vs, together w.content m = true ∧ v = { w with others := w.others ++ [mediaType] }) ∨
    (v = { mediaType, content := m } ∧ ∀ w ∈ vs, together w.content m = false) := by
  induction vs with
  | nil => exact .inr (.inr ⟨List.mem_singleton.1 h, by simp⟩)
  | cons w rest ih =>
    obtain ⟨hw, hrest⟩ := List.pairwise_cons.1 hvs
    rw [enter] at h
    split at h
    · rename_i hwm
      rcases List.mem_cons.1 h with rfl | hv
      · exact .inr (.inl ⟨w, List.mem_cons_self, hwm, rfl⟩)
      · refine .inl ⟨List.mem_cons_of_mem _ hv, Bool.eq_false_iff.2 fun hvm => ?_⟩
        -- the first variant would belong together with a later one
        have hwv := htogether.trans hwm (htogether.symm hvm)
        exact Bool.false_ne_true ((hw v hv).symm.trans hwv)
    · rename_i hwm
      have hwm := Bool.eq_false_iff.2 hwm
      rcases List.mem_cons.1 h with rfl | h
      · exact .inl ⟨List.mem_cons_self, hwm⟩
      rcases ih hrest h with ⟨hv, hvm⟩ | ⟨x, hx, hxm, rfl⟩ | ⟨rfl, hnone⟩
      · exact .inl ⟨List.mem_cons_of_mem _ hv, hvm⟩
      · exact .inr (.inl ⟨x, List.mem_cons_of_mem _ hx, hxm, rfl⟩)
      · exact .inr (.inr ⟨rfl, List.forall_mem_cons.2 ⟨hwm, hnone⟩⟩)

/-- **A variant gathers the media types whose contents belong together with its own**, in their
order.

**Proof sketch.** By induction on the media types that have entered. Of the variants at most one
takes the next media type, as no two of them belong together. If none does, no media type that has
entered belongs together with it, as each of them belongs together with the first of its variant. -/
theorem mediaTypes_of_mem_ofContent (h : v ∈ ofContent together content) :
    v.mediaTypes = alike together v.content content.entries := by
  obtain ⟨es⟩ := content
  induction es using List.reverseRecOn generalizing v with
  | nil => cases h
  | append_singleton es e ih =>
    have hstep : ofContent together ⟨es ++ [e]⟩ =
        enter together e.1 e.2 (ofContent together ⟨es⟩) := List.foldl_concat ..
    rw [hstep] at h
    rw [alike_concat]
    rcases mem_enter htogether pairwise_ofContent h with
      ⟨hv, hve⟩ | ⟨w, hw, hwe, rfl⟩ | ⟨rfl, hnone⟩
    · rw [if_neg (Bool.eq_false_iff.1 hve), List.append_nil]
      exact ih hv
    · rw [if_pos hwe]
      exact congrArg (· ++ [e.1]) (ih hw)
    · have hnew : alike together e.2 es = [] := by
        rw [alike, List.map_eq_nil_iff, List.filter_eq_nil_iff]
        intro e' he' hee'
        have hentered : e' ∈ (⟨es⟩ : Table MediaType).entries := he'
        obtain ⟨w, hw, hwe'⟩ := exists_together htogether hentered
        have hwe := htogether.trans hwe' (htogether.symm hee')
        exact Bool.false_ne_true ((hnone w hw).symm.trans hwe)
      rw [hnew, if_pos (htogether.refl e.2)]
      rfl

/-- A variant has a media type exactly if its content belongs together with that of the variant. -/
lemma mem_mediaTypes_iff (hkeys : content.keys.Nodup) (hv : v ∈ ofContent together content)
    {e : String × MediaType} (he : e ∈ content.entries) :
    e.1 ∈ v.mediaTypes ↔ together v.content e.2 = true := by
  rw [mediaTypes_of_mem_ofContent htogether hv, alike, List.mem_map]
  constructor
  · rintro ⟨e', he', hname⟩
    obtain ⟨he', hve'⟩ := List.mem_filter.1 he'
    rwa [← List.inj_on_of_nodup_map hkeys he' he hname]
  · exact fun hve => ⟨e, List.mem_filter.2 ⟨he, hve⟩, rfl⟩

end Equivalent

/-! ## The variants of a body -/

/-- Variants divide the media types of a body: every one is in exactly one of them. Each variant
keeps the order of the body, and the variants are in the order of their first media types, whose
contents they have. -/
structure Partition (content : Table MediaType) (vs : List BodyVariant) : Prop where
  perm : (vs.flatMap mediaTypes).Perm content.keys
  unique : ∀ mediaType ∈ content.keys, ∃! v, v ∈ vs ∧ mediaType ∈ v.mediaTypes
  ordered : ∀ v ∈ vs, v.mediaTypes.Sublist content.keys
  leading : (vs.map leading).Sublist content.entries

/-- Media types share a variant exactly if they have equal schemas, and the schema of a variant is
that of each of its media types. -/
structure BySchema (content : Table MediaType) (vs : List BodyVariant) : Prop where
  shared_iff : ∀ e ∈ content.entries, ∀ e' ∈ content.entries,
    (∃ v ∈ vs, e.1 ∈ v.mediaTypes ∧ e'.1 ∈ v.mediaTypes) ↔ e.2.sameSchema e'.2 = true
  schema : ∀ v ∈ vs, ∀ e ∈ content.entries, e.1 ∈ v.mediaTypes →
    v.content.sameSchema e.2 = true

/-- **The variants of a body divide its media types**, whichever equivalence they are made for. -/
theorem partition_ofContent (htogether : Equivalence fun m n => together m n = true)
    (hkeys : content.keys.Nodup) : Partition content (ofContent together content) := by
  have hperm := flatMap_mediaTypes_perm together content
  have hdisjoint := (List.nodup_flatMap.1 (hperm.nodup_iff.2 hkeys)).2
  refine ⟨hperm, fun mediaType hmem => ?_, fun v hv => ?_, ?_⟩
  · obtain ⟨v, hv, hmem⟩ := List.mem_flatMap.1 (hperm.mem_iff.2 hmem)
    refine ⟨v, ⟨hv, hmem⟩, ?_⟩
    rintro w ⟨hw, hmem'⟩
    by_contra hne
    have : Std.Symm (Function.onFun List.Disjoint mediaTypes) := ⟨fun _ _ h => h.symm⟩
    exact hdisjoint.forall hw hv hne hmem' hmem
  · rw [mediaTypes_of_mem_ofContent htogether hv]
    exact List.filter_sublist.map Prod.fst
  · rw [map_leading_ofContent]
    exact distinctWith_sublist _ _

/-- **The variants that are made for equality of schemas** tell exactly by the schemas. -/
theorem bySchema_ofContent (hkeys : content.keys.Nodup) :
    BySchema content (ofContent MediaType.sameSchema content) := by
  have hsame := MediaType.equivalence_sameSchema
  refine ⟨fun e he e' he' => ⟨?_, fun hee' => ?_⟩, fun v hv e he hmem => ?_⟩
  · rintro ⟨v, hv, hmem, hmem'⟩
    exact hsame.trans (hsame.symm ((mem_mediaTypes_iff hsame hkeys hv he).1 hmem))
      ((mem_mediaTypes_iff hsame hkeys hv he').1 hmem')
  · obtain ⟨v, hv, hve⟩ := exists_together hsame he
    exact ⟨v, hv, (mem_mediaTypes_iff hsame hkeys hv he).2 hve,
      (mem_mediaTypes_iff hsame hkeys hv he').2 (hsame.trans hve hee')⟩
  · exact (mem_mediaTypes_iff hsame hkeys hv he).1 hmem

/-- If all contents belong together, there is one variant. -/
theorem ofContent_eq_singleton (hsome : content.isEmpty = false) :
    ∃ v, ofContent (fun _ _ => true) content = [v] ∧ v.mediaTypes = content.keys := by
  have hall : Equivalence fun _ _ : MediaType => true = true :=
    ⟨fun _ => rfl, fun _ => rfl, fun _ _ => rfl⟩
  obtain ⟨e, he⟩ := List.exists_mem_of_ne_nil content.entries (by simpa [Table.isEmpty] using hsome)
  obtain ⟨v, hv, -⟩ := exists_together hall he
  have hgathered := mediaTypes_of_mem_ofContent hall hv
  rw [alike, List.filter_true] at hgathered
  refine ⟨v, ?_, hgathered⟩
  have hpairwise := @pairwise_ofContent (fun _ _ => true) content
  cases hvs : ofContent (fun _ _ => true) content with
  | nil => simp [hvs] at hv
  | cons w rest =>
    rw [hvs] at hv hpairwise
    cases rest with
    | nil => rw [List.mem_singleton.1 hv]
    | cons x rest => cases (List.pairwise_cons.1 hpairwise).1 x List.mem_cons_self

end BodyVariant

namespace Setup

variable {setup : Setup} {raw e : Endpoint}

lemma equivalence_together (setup : Setup) :
    Equivalence fun m n => setup.together m n = true := by
  rw [together]
  split
  · exact MediaType.equivalence_sameSchema
  · exact ⟨fun _ => rfl, fun _ => rfl, fun _ _ => rfl⟩

/-! ## Media types through the stages -/

/-- **The stages keep the media types of an endpoint**, but for the one that means any. -/
theorem Finishes.consumes (h : setup.Finishes raw e) :
    e.consumes = raw.consumes.filter (· != Content.any) := by
  obtain ⟨models, s, s', h⟩ := h
  exact (finishEndpoint_keeps h).2.1

end Setup

/-! ## The endpoints of an operation -/

namespace Resolver

variable {r : Resolver} {s s' : Session}

/-- The endpoints of an operation with a body consume what the variants of the body have. -/
lemma map_consumes_of_endpointsOf {d : Document} {site : Site} {b : RequestBody}
    {es : List Endpoint} (hbody : r.bodyOf site.operation = .ok (some b))
    (h : r.endpointsOf d site s = .ok (es, s')) : es.map (·.consumes) =
      (BodyVariant.ofContent r.setup.together b.content).map BodyVariant.mediaTypes := by
  obtain ⟨body, hbody', hmade⟩ := endpointsOf_eq_ok h
  obtain rfl : some b = body := Except.ok.inj (hbody.symm.trans hbody')
  change List.Forall₂ _ ((BodyVariant.ofContent r.setup.together b.content).map _) es at hmade
  rw [List.forall₂_map_left_iff] at hmade
  rw [← List.forall₂_eq_eq_eq, List.forall₂_map_left_iff, List.forall₂_map_right_iff]
  refine (hmade.imp ?_).flip
  rintro v e ⟨_, _, _, he⟩
  exact consumes_rawEndpoint he

/-- **The endpoints of an operation divide the media types of its body.** A body with media types
always has variants, which divide them: one variant has all of them, or, if operations are divided,
media types share one exactly if they have equal schemas. The endpoints of the operation consume
what its variants have, in the end without the media type that means any. -/
theorem consumes_partition (r : Resolver) {b : RequestBody} (hkeys : b.content.keys.Nodup)
    (hsome : b.content.isEmpty = false) :
    ∃ vs, (∀ nickname s, ∃ s', r.setup.bodyVariants nickname b s = .ok (vs, s')) ∧
      BodyVariant.Partition b.content vs ∧
      (r.setup.settings.divideOperationsByContentType = false →
        ∃ v, vs = [v] ∧ v.mediaTypes = b.content.keys) ∧
      (r.setup.settings.divideOperationsByContentType = true →
        BodyVariant.BySchema b.content vs) ∧
      ∀ d site s es s', r.bodyOf site.operation = .ok (some b) →
        r.endpointsOf d site s = .ok (es, s') →
        es.map (·.consumes) = vs.map BodyVariant.mediaTypes ∧
        (es.flatMap (·.consumes)).Perm b.content.keys ∧
        ∀ finished, List.Forall₂ r.setup.Finishes es finished →
          finished.map (·.consumes) = es.map (·.consumes.filter (· != Content.any)) := by
  have hpartition := BodyVariant.partition_ofContent r.setup.equivalence_together hkeys
  refine ⟨BodyVariant.ofContent r.setup.together b.content, fun nickname s =>
    r.setup.exists_bodyVariants_eq_ok nickname b s, hpartition, fun hwhole => ?_,
    fun hdivide => ?_, fun d site s es s' hbody h => ?_⟩
  · rw [Setup.together, hwhole]
    exact BodyVariant.ofContent_eq_singleton hsome
  · rw [Setup.together, hdivide]
    exact BodyVariant.bySchema_ofContent hkeys
  · have hconsumes := map_consumes_of_endpointsOf hbody h
    refine ⟨hconsumes, ?_, fun finished hfinish => ?_⟩
    · rw [List.flatMap_def, hconsumes, ← List.flatMap_def]
      exact hpartition.perm
    · rw [← List.forall₂_eq_eq_eq, List.forall₂_map_left_iff, List.forall₂_map_right_iff]
      exact (hfinish.imp fun _ _ he => he.consumes).flip

/-- A picture of a pet is sent, or a text that stands for any other contents, or a name. -/
def picturing : RequestBody where
  content := ⟨[("text/plain", { schema := some Schema.text }),
    ("application/json", { schema := some (Schema.ofProperties [("name", Schema.text)]) }),
    (Content.any, { schema := some Schema.text })]⟩

/-- Where a picture is sent. -/
def picturingSite : Site :=
  let operation : Operation := { requestBody := some (.inline picturing) }
  { path := "/pets", item := { post := some operation }, method := .post, operation }

/-- The first and the last media type have one schema, and so they share an endpoint. -/
theorem consumes_partition_picturing : ∃ (r : Resolver) (vs : List BodyVariant)
    (es : List Endpoint) (s s' : Session),
    BodyVariant.Partition picturing.content vs ∧ BodyVariant.BySchema picturing.content vs ∧
    r.endpointsOf (.ofPath picturingSite.item []) picturingSite s = .ok (es, s') ∧
    es.map (·.consumes) = [["text/plain", Content.any], ["application/json"]] ∧
    vs.map BodyVariant.mediaTypes = es.map (·.consumes) := by
  let r : Resolver := {
    setup := .ofCanonical Document.dividing.canonical, components := {}, models := ⟨[]⟩ }
  obtain ⟨vs, -, hpartition, -, hby, hruns⟩ :=
    consumes_partition r (b := picturing) (by decide +kernel) rfl
  have hrun : (r.endpointsOf (.ofPath picturingSite.item []) picturingSite
      { importMapping := {} }).toOption.map (fun out => out.1.map (·.consumes)) =
        some [["text/plain", Content.any], ["application/json"]] := by
    decide +kernel
  obtain ⟨⟨es, s'⟩, hes, hconsumes⟩ := Option.map_eq_some_iff.1 hrun
  have hes := eq_ok_of_mem_toOption hes
  obtain ⟨hvs, -⟩ := hruns (.ofPath picturingSite.item []) picturingSite _ es s' rfl hes
  exact ⟨r, vs, es, _, s', hpartition, hby (by decide +kernel), hes, hconsumes, hvs.symm⟩

end Resolver

end ApiLowering
