import ApiLowering.Models.Shape
import ApiLowering.Proofs.Json.Merging
import ApiLowering.Proofs.Schema.ReadBack

/-!
# The content of compositions

A composition says which properties there are, which of them are required, and which references are
its parts: those of the schema itself and of its inline parts, at any depth. Values have a content in
the same sense, so that it can be followed through writing, merging and reading back.

## Main definitions

* `Facet` — a single statement: a property, a required name, or a reference among the parts.
* `Schema.Says`, `Json.Says` — a schema, a value makes a statement.
* `Schema.Each` — every inline part has keywords of some kind.
* `Keywords.Straight`, `Keywords.Proper` — no unknown keyword is a reference, and each has a name of
  its own.

## Main results

* `Schema.says_writeRef` — writing keeps the content.
* `Json.says_mergeMembers` — merging unites the contents.
* `Schema.says_of_readNode?` — reading back keeps the content.
* `Schema.says_of_sameRef` — equal schemas say the same.
* `Schema.mem_keys_ofSchema`, `Schema.mem_required_ofSchema` — shapes are contents.
-/

namespace ApiLowering

/-- A single statement of a composition. -/
inductive Facet where
  /-- There is a property of that name. -/
  | property (name : String)
  /-- That name is required. -/
  | required (name : String)
  /-- The reference to that path is a part. -/
  | target (path : String)
deriving Repr, DecidableEq

/-! ## Schemas -/

/-- None of the unknown keywords is a textual `$ref`. -/
def Keywords.Straight (k : Keywords) : Prop :=
  ∀ path, ("$ref", .string path) ∉ k.extensions.entries

/-- The unknown keywords have names of their own, and none of them is a textual `$ref`. -/
structure Keywords.Proper (k : Keywords) : Prop where
  fresh : k.Fresh
  straight : k.Straight

namespace Schema

/-- What a schema says: what it says itself and what its parts say. -/
inductive Says : SchemaRef → Facet → Prop
  | ref (path : String) : Says (.ref path) (.target path)
  | property {s : Schema} {n : String} : n ∈ s.properties.keys → Says (.inline s) (.property n)
  | required {s : Schema} {n : String} :
    n ∈ s.keywords.required → Says (.inline s) (.required n)
  | part {s : Schema} {r : SchemaRef} {f : Facet} : r ∈ s.allOf → Says r f → Says (.inline s) f

/-- The schema and its inline parts, at any depth, have keywords of some kind. -/
inductive Each (P : Keywords → Prop) : SchemaRef → Prop
  | ref (path : String) : Each P (.ref path)
  | inline {s : Schema} : P s.keywords → (∀ r ∈ s.allOf, Each P r) → Each P (.inline s)

lemma Each.keywords {P : Keywords → Prop} {s : Schema} (h : Each P (.inline s)) :
    P s.keywords := by
  cases h
  assumption

lemma Each.parts {P : Keywords → Prop} {s : Schema} (h : Each P (.inline s)) :
    ∀ r ∈ s.allOf, Each P r := by
  cases h
  assumption

lemma Each.mono {P Q : Keywords → Prop} (hPQ : ∀ k, P k → Q k) {r : SchemaRef} (h : Each P r) :
    Each Q r := by
  induction h with
  | ref path => exact .ref path
  | inline hs _ ih => exact .inline (hPQ _ hs) ih

/-- What is fresh and straight everywhere is proper everywhere. -/
lemma Each.proper {r : SchemaRef} (h : Each Keywords.Fresh r) (h' : Each Keywords.Straight r) :
    Each Keywords.Proper r := by
  induction h with
  | ref path => exact .ref path
  | inline hs _ ih => exact .inline ⟨hs, h'.keywords⟩ fun r hr => ih r hr (h'.parts r hr)

/-- What a schema says, part by part. -/
lemma says_inline_iff {s : Schema} {f : Facet} :
    Says (.inline s) f ↔ (∃ n ∈ s.properties.keys, f = .property n) ∨
      (∃ n ∈ s.keywords.required, f = .required n) ∨ ∃ r ∈ s.allOf, Says r f := by
  constructor
  · intro h
    cases h with
    | property hn => exact .inl ⟨_, hn, rfl⟩
    | required hn => exact .inr (.inl ⟨_, hn, rfl⟩)
    | part hr hf => exact .inr (.inr ⟨_, hr, hf⟩)
  · rintro (⟨n, hn, rfl⟩ | ⟨n, hn, rfl⟩ | ⟨r, hr, hf⟩)
    · exact .property hn
    · exact .required hn
    · exact .part hr hf

@[simp] lemma says_ref_iff {path : String} {f : Facet} :
    Says (.ref path) f ↔ f = .target path := by
  constructor
  · rintro ⟨⟩
    rfl
  · rintro rfl
    exact .ref path

end Schema

/-! ## Values -/

namespace Json

/-- What a value says, for a way to tell references: a reference says its path, any other value what
it has under the names of the keywords. -/
inductive Says (pathOf : Json → Option String) : Json → Facet → Prop
  | ref {v : Json} {path : String} : pathOf v = some path → Says pathOf v (.target path)
  | property {v : Json} {n : String} :
    pathOf v = none → n ∈ v.keysAt "properties" → Says pathOf v (.property n)
  | required {v : Json} {n : String} :
    pathOf v = none → .string n ∈ v.itemsAt "required" → Says pathOf v (.required n)
  | part {v x : Json} {f : Facet} :
    pathOf v = none → x ∈ v.itemsAt "allOf" → Says pathOf x f → Says pathOf v f

/-- Equal values say the same. -/
lemma Says.of_essence_eq {pathOf : Json → Option String}
    (hpath : ∀ v : Json, pathOf v.essence = pathOf v) {v w : Json} {f : Facet}
    (h : Says pathOf v f) (hvw : v.essence = w.essence) : Says pathOf w f := by
  have hpathOf {v w : Json} (hvw : v.essence = w.essence) : pathOf w = pathOf v := by
    rw [← hpath w, ← hvw, hpath]
  have hitems {v w : Json} (hvw : v.essence = w.essence) {key : String} {x : Json}
      (hx : x ∈ v.itemsAt key) : ∃ y ∈ w.itemsAt key, x.essence = y.essence := by
    have hmem : x.essence ∈ v.essence.itemsAt key := by
      rw [essence_itemsAt]
      exact List.mem_map_of_mem hx
    rw [hvw, essence_itemsAt, List.mem_map] at hmem
    obtain ⟨y, hy, hyx⟩ := hmem
    exact ⟨y, hy, hyx.symm⟩
  induction h generalizing w with
  | ref hp => exact .ref (by rw [hpathOf hvw, hp])
  | property hp hn =>
    refine .property (by rw [hpathOf hvw, hp]) ?_
    rwa [← essence_keysAt, ← hvw, essence_keysAt]
  | required hp hn =>
    obtain ⟨y, hy, hny⟩ := hitems hvw hn
    refine .required (by rw [hpathOf hvw, hp]) ?_
    cases y <;> simp_all [essence]
  | part hp hx _ ih =>
    obtain ⟨y, hy, hxy⟩ := hitems hvw hx
    exact .part (by rw [hpathOf hvw, hp]) hy (ih hxy)

/-- What a value says that is no reference, part by part. -/
lemma says_iff {pathOf : Json → Option String} {v : Json} (hv : pathOf v = none) {f : Facet} :
    Says pathOf v f ↔ (∃ n ∈ v.keysAt "properties", f = .property n) ∨
      (∃ n, .string n ∈ v.itemsAt "required" ∧ f = .required n) ∨
        ∃ x ∈ v.itemsAt "allOf", Says pathOf x f := by
  constructor
  · intro h
    cases h with
    | ref hp => simp [hv] at hp
    | property _ hn => exact .inl ⟨_, hn, rfl⟩
    | required _ hn => exact .inr (.inl ⟨_, hn, rfl⟩)
    | part _ hx hf => exact .inr (.inr ⟨_, hx, hf⟩)
  · rintro (⟨n, hn, rfl⟩ | ⟨n, hn, rfl⟩ | ⟨x, hx, hf⟩)
    · exact .property hv hn
    · exact .required hv hn
    · exact .part hv hx hf

lemma string?_essence (v : Json) : v.essence.string? = v.string? := by
  cases v <;> rfl

lemma path?_essence (v : Json) : v.essence.path? = v.path? := by
  cases v with
  | members es =>
    have hfilter : (es.map fun e => (e.1, e.2.essence)).filter (fun e => e.1 == "$ref") =
        (es.filter fun e => e.1 == "$ref").map fun e => (e.1, e.2.essence) := by
      rw [List.filter_map]
      rfl
    rw [essence, essenceMembers_eq_map, path?, hfilter, path?]
    generalize es.filter (fun e => e.1 == "$ref") = found
    rcases found with - | ⟨⟨_, v⟩, - | ⟨_, _⟩⟩
    · rfl
    · cases v <;> rfl
    · cases v <;> rfl
  | _ => rfl

end Json

/-! ## Writing -/

namespace Schema

/-- Writing keeps the content, if it tells references from schemas.

**Proof sketch.** Either direction is an induction on the statement: below a written schema there
are exactly the written properties, required names and parts. -/
theorem says_writeRef {pathOf : Json → Option String} {reference : String → Json}
    {P : Keywords → Prop} (href : ∀ path, pathOf (reference path) = some path)
    (hfresh : ∀ k, P k → k.Fresh)
    (hinline : ∀ s : Schema, P s.keywords → pathOf (s.write reference) = none)
    {r : SchemaRef} (hr : Each P r) {f : Facet} :
    Json.Says pathOf (writeRef reference r) f ↔ Says r f := by
  constructor
  · intro h
    generalize hv : writeRef reference r = v at h
    induction h generalizing r with
    | ref hp =>
      subst hv
      cases hr with
      | ref path =>
        rw [writeRef_ref, href, Option.some.injEq] at hp
        exact hp ▸ .ref path
      | inline hs _ => simp [hinline _ hs] at hp
    | property hp hn =>
      subst hv
      cases hr with
      | ref path => simp [href] at hp
      | inline hs _ =>
        rw [writeRef_inline] at hn
        exact .property ((mem_keysAt_write_properties reference (hfresh _ hs)).1 hn)
    | required hp hn =>
      subst hv
      cases hr with
      | ref path => simp [href] at hp
      | inline hs _ =>
        rw [writeRef_inline, itemsAt_write_required reference (hfresh _ hs)] at hn
        exact .required (by simpa using hn)
    | part hp hx _ ih =>
      subst hv
      cases hr with
      | ref path => simp [href] at hp
      | inline hs hparts =>
        rw [writeRef_inline, itemsAt_write_allOf reference (hfresh _ hs), List.mem_map] at hx
        obtain ⟨q, hq, hqx⟩ := hx
        exact .part hq (ih (hparts q hq) hqx)
  · intro h
    induction h with
    | ref path => exact .ref (by rw [writeRef_ref, href])
    | property hn =>
      have hs := hr.keywords
      refine .property (by rw [writeRef_inline, hinline _ hs]) ?_
      rw [writeRef_inline]
      exact (mem_keysAt_write_properties reference (hfresh _ hs)).2 hn
    | required hn =>
      have hs := hr.keywords
      refine .required (by rw [writeRef_inline, hinline _ hs]) ?_
      rw [writeRef_inline, itemsAt_write_required reference (hfresh _ hs)]
      exact List.mem_map_of_mem hn
    | part hq _ ih =>
      have hs := hr.keywords
      refine .part (by rw [writeRef_inline, hinline _ hs]) ?_ (ih (hr.parts _ hq))
      rw [writeRef_inline, itemsAt_write_allOf reference (hfresh _ hs)]
      exact List.mem_map_of_mem hq

/-- What the form of a schema says. -/
lemma says_form {r : SchemaRef} (hr : Each Keywords.Fresh r) {f : Facet} :
    Json.Says Json.string? (form r) f ↔ Says r f :=
  says_writeRef (fun _ => rfl) (fun _ h => h) (fun s _ => by rw [write_eq]; rfl) hr

/-- A written schema is not taken for a reference. -/
lemma path?_write {reference : String → Json} {s : Schema} (hs : s.keywords.Proper) :
    (s.write reference).path? = none := by
  obtain ⟨es, hes, hincreasing⟩ := exists_increasing_write reference s
  have hlookup : Json.lookup "$ref" es =
      Json.lookup "$ref" s.keywords.extensions.entries.reverse := by
    rw [← get?_write_of_unknown reference (by decide), hes]
    rfl
  rw [hes, Json.path?_of_nodup hincreasing.nodup, hlookup, Option.bind_eq_none_iff]
  intro v hv
  have hmem := Json.mem_of_lookup_eq_some hv
  rw [List.mem_reverse] at hmem
  cases v with
  | string path => exact absurd hmem (hs.straight path)
  | _ => rfl

/-- What a written schema says. -/
lemma says_refJson {r : SchemaRef} (hr : Each Keywords.Proper r) {f : Facet} :
    Json.Says Json.path? (refJson r) f ↔ Says r f :=
  says_writeRef (fun _ => rfl) (fun _ h => h.fresh) (fun _ hs => path?_write hs) hr

/-- Every schema equals itself. -/
lemma sameRef_refl (r : SchemaRef) : sameRef r r = true := Json.same_refl (form r)

/-- Equal schemas say the same. -/
theorem says_of_sameRef {r s : SchemaRef} (hr : Each Keywords.Fresh r)
    (hs : Each Keywords.Fresh s) (h : sameRef r s = true) {f : Facet} : Says r f ↔ Says s f := by
  have hessence : (form r).essence = (form s).essence := (Json.same_iff _ _).1 h
  rw [← says_form hr, ← says_form hs]
  exact ⟨fun hf => hf.of_essence_eq Json.string?_essence hessence,
    fun hf => hf.of_essence_eq Json.string?_essence hessence.symm⟩

end Schema

/-! ## Merging -/

namespace Json

/-- The keys of a value, and of the values among its parts, are in order. -/
inductive Ordered : Json → Prop
  | intro {v : Json} : (∀ es, v = .members es → Increasing es) →
    (∀ x ∈ v.itemsAt "allOf", Ordered x) → Ordered v

/-- The members of a written schema, or of several merged ones. -/
structure Mergeable (es : List (String × Json)) : Prop where
  increasing : Increasing es
  straight : (members es).path? = none
  properties : ObjectAt "properties" (.members es)
  required : ArrayAt "required" (.members es)
  parts : ArrayAt "allOf" (.members es)
  ordered : ∀ x ∈ (members es).itemsAt "allOf", Ordered x

lemma Mergeable.nodup {es : List (String × Json)} (h : Mergeable es) :
    (es.map Prod.fst).Nodup :=
  h.increasing.nodup

lemma mergeable_nil : Mergeable [] where
  increasing := List.Pairwise.nil
  straight := rfl
  properties := .inl rfl
  required := .inl rfl
  parts := .inl rfl
  ordered := by simp [itemsAt, get?, lookup]

/-- Merged members are those of several written schemas again. -/
lemma Mergeable.merge {es fs : List (String × Json)} (hes : Mergeable es) (hfs : Mergeable fs) :
    Mergeable (mergeMembers es fs) where
  increasing := increasing_mergeMembers hes.increasing
  straight := by
    have h := hes.straight
    have h' := hfs.straight
    rw [path?_of_nodup hes.nodup] at h
    rw [path?_of_nodup hfs.nodup] at h'
    rw [path?_of_nodup (increasing_mergeMembers hes.increasing).nodup,
      lookup_mergeMembers _ hfs.nodup]
    cases hv : lookup "$ref" es <;> cases hw : lookup "$ref" fs <;>
      simp_all [mergeOption, string?_merge]
  properties := objectAt_mergeMembers hfs.nodup hes.properties hfs.properties
  required := arrayAt_mergeMembers hfs.nodup hes.required hfs.required
  parts := arrayAt_mergeMembers hfs.nodup hes.parts hfs.parts
  ordered x hx := by
    rcases mem_itemsAt_mergeMembers hfs.nodup hes.parts hfs.parts hx with hx | hx
    · exact hes.ordered x hx
    · exact hfs.ordered x hx

/-- Merging unites the contents. -/
theorem says_mergeMembers {es fs : List (String × Json)} (hes : Mergeable es)
    (hfs : Mergeable fs) {f : Facet} :
    Says path? (.members (mergeMembers es fs)) f ↔
      Says path? (.members es) f ∨ Says path? (.members fs) f := by
  rw [says_iff (hes.merge hfs).straight, says_iff hes.straight, says_iff hfs.straight]
  have hproperties {n : String} :=
    mem_keysAt_mergeMembers (n := n) hfs.nodup hes.properties hfs.properties
  have hrequired {n : String} : .string n ∈ (members (mergeMembers es fs)).itemsAt "required" ↔
      .string n ∈ (members es).itemsAt "required" ∨
        .string n ∈ (members fs).itemsAt "required" := by
    constructor
    · exact mem_itemsAt_mergeMembers hfs.nodup hes.required hfs.required
    · intro h
      obtain ⟨y, hy, hyn⟩ :=
        exists_same_mem_itemsAt_mergeMembers hfs.nodup hes.required hfs.required h
      cases y <;> simp_all [same]
  have hparts : (∃ x ∈ (members (mergeMembers es fs)).itemsAt "allOf", Says path? x f) ↔
      (∃ x ∈ (members es).itemsAt "allOf", Says path? x f) ∨
        ∃ x ∈ (members fs).itemsAt "allOf", Says path? x f := by
    constructor
    · rintro ⟨x, hx, hf⟩
      exact (mem_itemsAt_mergeMembers hfs.nodup hes.parts hfs.parts hx).imp
        (fun hx => ⟨x, hx, hf⟩) fun hx => ⟨x, hx, hf⟩
    · intro h
      obtain ⟨x, hx, hf⟩ : ∃ x, (x ∈ (members es).itemsAt "allOf" ∨
          x ∈ (members fs).itemsAt "allOf") ∧ Says path? x f := by
        rcases h with ⟨x, hx, hf⟩ | ⟨x, hx, hf⟩
        · exact ⟨x, .inl hx, hf⟩
        · exact ⟨x, .inr hx, hf⟩
      obtain ⟨y, hy, hyx⟩ :=
        exists_same_mem_itemsAt_mergeMembers hfs.nodup hes.parts hfs.parts hx
      exact ⟨y, hy, hf.of_essence_eq path?_essence ((same_iff y x).1 hyx).symm⟩
  simp only [hproperties, hrequired, hparts, or_and_right, exists_or]
  refine Iff.of_eq ?_
  ac_rfl

end Json

namespace Schema

/-- What is written is in order. -/
lemma ordered_refJson {r : SchemaRef} (hr : Each Keywords.Proper r) : (refJson r).Ordered := by
  induction hr with
  | ref path =>
    rw [refJson, writeRef_ref, Reference.toJson, Json.object_eq]
    refine .intro (fun es hes => ?_) (fun x hx => ?_)
    · rw [← Json.members.inj hes]
      exact Json.increasing_entered _
    · simp [Json.itemsAt, Json.get?, Json.entered, Json.enter, Json.lookup] at hx
  | @inline s hs _ ih =>
    rw [refJson, writeRef_inline]
    refine .intro (fun es hes => ?_) (fun x hx => ?_)
    · obtain ⟨fs, hfs, hincreasing⟩ := exists_increasing_write Reference.toJson s
      rw [hfs] at hes
      exact Json.members.inj hes ▸ hincreasing
    · rw [itemsAt_write_allOf _ hs.fresh, List.mem_map] at hx
      obtain ⟨q, hq, rfl⟩ := hx
      exact ih q hq

/-- A written schema can be merged. -/
lemma mergeable_toJson {s : Schema} (hs : Each Keywords.Proper (.inline s)) :
    ∃ es, s.toJson = .members es ∧ Json.Mergeable es := by
  have hk := hs.keywords
  obtain ⟨es, hes, hincreasing⟩ := exists_increasing_write Reference.toJson s
  refine ⟨es, hes, hincreasing, ?_, ?_, ?_, ?_, ?_⟩
  · rw [← hes]
    exact path?_write hk
  · rw [← hes, Json.ObjectAt, get?_write_properties _ hk.fresh]
    split_ifs
    · exact .inl rfl
    · exact .inr ⟨_, rfl⟩
  · rw [← hes, Json.ArrayAt, get?_write_required _ hk.fresh]
    split_ifs
    · exact .inl rfl
    · exact .inr ⟨_, rfl⟩
  · rw [← hes]
    exact arrayAt_write_listed _ hk.fresh (by decide)
  · rw [← hes, itemsAt_write_allOf _ hk.fresh]
    intro x hx
    obtain ⟨q, hq, rfl⟩ := List.mem_map.1 hx
    exact ordered_refJson (hs.parts q hq)

/-- Merging schemas unites their contents. -/
lemma exists_mergeable_foldl {ss : List Schema} {es : List (String × Json)}
    (hes : Json.Mergeable es) (hss : ∀ s ∈ ss, Each Keywords.Proper (.inline s)) :
    ∃ fs, ss.foldl (fun acc s => Json.merge acc s.toJson) (.members es) = .members fs ∧
      Json.Mergeable fs ∧
      ∀ f, Json.Says Json.path? (.members fs) f ↔
        Json.Says Json.path? (.members es) f ∨ ∃ s ∈ ss, Says (.inline s) f := by
  induction ss generalizing es with
  | nil => exact ⟨es, rfl, hes, by simp⟩
  | cons s ss ih =>
    have hs := hss s (by simp)
    obtain ⟨ms, hms, hmergeable⟩ := mergeable_toJson hs
    obtain ⟨fs, hfold, hfs, hcontent⟩ :=
      ih (hes.merge hmergeable) fun t ht => hss t (List.mem_cons_of_mem _ ht)
    refine ⟨fs, ?_, hfs, fun f => ?_⟩
    · rw [List.foldl_cons, hms, Json.merge_members]
      exact hfold
    · have hwritten : Json.Says Json.path? (.members ms) f ↔ Says (.inline s) f := by
        rw [← says_refJson hs, refJson, writeRef_inline, ← hms]
        rfl
      rw [hcontent, Json.says_mergeMembers hes hmergeable, hwritten]
      simp only [List.mem_cons, exists_eq_or_imp]
      tauto

/-! ## Reading back -/

/-- Reading back keeps the content. -/
theorem says_of_readNode? {v : Json} {r : SchemaRef} (h : readNode? (Tree.ofJson v) = some r)
    {f : Facet} : Json.Says Json.path? v f ↔ Says r f := by
  constructor
  · intro hf
    induction hf generalizing r with
    | ref hp =>
      rcases readNode?_ofJson h with ⟨path, hpath, rfl⟩ | ⟨hpath, -⟩
      · rw [hp, Option.some.injEq] at hpath
        exact hpath ▸ .ref path
      · simp [hp] at hpath
    | property hp hn =>
      rcases readNode?_ofJson h with ⟨path, hpath, -⟩ | ⟨-, s, rfl, hs⟩
      · simp [hp] at hpath
      · exact .property ((hs.properties _).2 hn)
    | required hp hn =>
      rcases readNode?_ofJson h with ⟨path, hpath, -⟩ | ⟨-, s, rfl, hs⟩
      · simp [hp] at hpath
      · exact .required ((hs.required _).2 hn)
    | part hp hx _ ih =>
      rcases readNode?_ofJson h with ⟨path, hpath, -⟩ | ⟨-, s, rfl, hs⟩
      · simp [hp] at hpath
      · obtain ⟨q, hq, hread⟩ := exists_mem_left_of_forall₂ hs.parts hx
        exact .part hq (ih hread)
  · intro hf
    induction hf generalizing v with
    | ref path =>
      rcases readNode?_ofJson h with ⟨_, hpath, heq⟩ | ⟨-, s, heq, -⟩
      · obtain rfl := Referable.ref.inj heq
        exact .ref hpath
      · cases heq
    | property hn =>
      rcases readNode?_ofJson h with ⟨_, -, heq⟩ | ⟨hpath, s, heq, hs⟩
      · cases heq
      · obtain rfl := Referable.inline.inj heq
        exact .property hpath ((hs.properties _).1 hn)
    | required hn =>
      rcases readNode?_ofJson h with ⟨_, -, heq⟩ | ⟨hpath, s, heq, hs⟩
      · cases heq
      · obtain rfl := Referable.inline.inj heq
        exact .required hpath ((hs.required _).1 hn)
    | part hq _ ih =>
      rcases readNode?_ofJson h with ⟨_, -, heq⟩ | ⟨hpath, s, heq, hs⟩
      · cases heq
      · obtain rfl := Referable.inline.inj heq
        obtain ⟨x, hx, hread⟩ := exists_mem_right_of_forall₂ hs.parts hq
        exact .part hpath hx (ih hread)

/-- What is read back has unknown keywords with names of their own and no stray reference. -/
lemma each_proper_of_readNode? {v : Json} (hv : v.Ordered) {r : SchemaRef}
    (h : readNode? (Tree.ofJson v) = some r) : Each Keywords.Proper r := by
  induction hv generalizing r with
  | intro hkeys _ ih =>
    rcases readNode?_ofJson h with ⟨path, -, rfl⟩ | ⟨hpath, s, rfl, hs⟩
    · exact .ref path
    · refine .inline ⟨hs.fresh, fun path hstray => ?_⟩ fun q hq => ?_
      · obtain ⟨es, rfl, hmem⟩ := hs.stray path hstray
        have hnodup := (hkeys es rfl).nodup
        rw [Json.path?_of_nodup hnodup, Json.lookup_eq_some_of_mem hnodup hmem] at hpath
        simp [Json.string?] at hpath
      · obtain ⟨x, hx, hread⟩ := exists_mem_right_of_forall₂ hs.parts hq
        exact ih x hx hread

/-- **What merged schemas say**: merging schemas whose unknown keywords are proper gives a schema
that says what all of them say.

**Proof sketch.** The written schemas are united member by member, and none of them is taken for a
reference, so that the merged value is read back as a schema. -/
theorem mergeAll_spec {ss : List Schema} (hss : ∀ s ∈ ss, Each Keywords.Proper (.inline s))
    {r : SchemaRef} (h : mergeAll ss = some r) :
    (∃ s, r = .inline s) ∧ Each Keywords.Proper r ∧
      ∀ f, Says r f ↔ ∃ s ∈ ss, Says (.inline s) f := by
  obtain ⟨fs, hfold, hfs, hcontent⟩ := exists_mergeable_foldl Json.mergeable_nil hss
  rw [mergeAll, readRef?, hfold, Tree.settle?_ofJson, Option.bind_some] at h
  have hordered : (Json.members fs).Ordered := by
    refine .intro (fun es hes => ?_) hfs.ordered
    rw [← Json.members.inj hes]
    exact hfs.increasing
  refine ⟨?_, each_proper_of_readNode? hordered h, fun f => ?_⟩
  · rcases readNode?_ofJson h with ⟨path, hpath, -⟩ | ⟨-, s, hs, -⟩
    · simp [hfs.straight] at hpath
    · exact ⟨s, hs⟩
  · rw [← says_of_readNode? h, hcontent]
    have hnone : ¬ Json.Says Json.path? (.members []) f := by
      rw [Json.says_iff rfl]
      simp [Json.keysAt, Json.itemsAt, Json.get?, Json.lookup]
    simp [hnone]

lemma exists_increasing_foldl (ss : List Schema) (es : List (String × Json))
    (hes : Json.Increasing es) :
    ∃ fs, ss.foldl (fun acc s => Json.merge acc s.toJson) (.members es) = .members fs ∧
      Json.Increasing fs := by
  induction ss generalizing es with
  | nil => exact ⟨es, rfl, hes⟩
  | cons s ss ih =>
    obtain ⟨ms, hms, -⟩ := exists_increasing_write Reference.toJson s
    rw [List.foldl_cons, toJson, hms, Json.merge_members]
    exact ih _ (Json.increasing_mergeMembers hes)

/-- A textual `$ref` among the unknown keywords of the last of several merged schemas makes the
whole that reference. -/
theorem mergeAll_of_stray (ss : List Schema) {s : Schema} {path : String}
    (hkeys : s.keywords.extensions.keys.Nodup)
    (hstray : ("$ref", .string path) ∈ s.keywords.extensions.entries) :
    mergeAll (ss ++ [s]) = some (.ref path) := by
  obtain ⟨es, hfold, hes⟩ := exists_increasing_foldl ss [] List.Pairwise.nil
  obtain ⟨fs, hwrite, hfs⟩ := exists_increasing_write Reference.toJson s
  have hanswer : Json.lookup "$ref" fs = some (.string path) := by
    have hget : (s.write Reference.toJson).get? "$ref" =
        Json.lookup "$ref" s.keywords.extensions.entries.reverse :=
      get?_write_of_unknown Reference.toJson (by decide)
    rw [hwrite] at hget
    refine hget.trans (Json.lookup_eq_some_of_mem ?_ (List.mem_reverse.2 hstray))
    rw [List.map_reverse]
    exact List.pairwise_reverse.2 (hkeys.imp Ne.symm)
  have hmerged : (Json.members (Json.mergeMembers es fs)).path? = some path := by
    rw [Json.path?_of_nodup (Json.increasing_mergeMembers hes).nodup,
      Json.lookup_mergeMembers _ hfs.nodup, hanswer]
    cases Json.lookup "$ref" es with
    | none => rfl
    | some v => cases v <;> rfl
  have hstep : (ss ++ [s]).foldl (fun acc s => Json.merge acc s.toJson) (.members []) =
      .members (Json.mergeMembers es fs) := by
    rw [List.foldl_append, hfold, List.foldl_cons, List.foldl_nil, toJson, hwrite,
      Json.merge_members]
  rw [mergeAll, readRef?, hstep, Tree.settle?_ofJson, Option.bind_some, Tree.ofJson, readNode?,
    Reference.path?_ofMembers, hmerged]

/-! ## Shapes -/

lemma mem_keys_addOwn {shape : Shape} {s : Schema} {n : String} :
    n ∈ (shape.addOwn s).properties.keys ↔ n ∈ shape.properties.keys ∨ n ∈ s.properties.keys := by
  rw [Shape.addOwn]
  generalize shape.properties = t
  rw [Table.keys.eq_1 s.properties]
  generalize s.properties.entries = es
  induction es generalizing t with
  | nil => simp
  | cons e es ih =>
    rw [List.foldl_cons, ih, Table.mem_keys_insertNew, List.map_cons, List.mem_cons]
    tauto

/-- A shape gains what the parts say. -/
lemma addPart_spec (r : SchemaRef) : ∀ (shape : Shape) (n : String),
    (n ∈ (shape.addPart r).properties.keys ↔
      n ∈ shape.properties.keys ∨ Says r (.property n)) ∧
    (n ∈ (shape.addPart r).required ↔ n ∈ shape.required ∨ Says r (.required n)) := by
  induction r using ref_induction with
  | ref path => simp [Shape.addPart]
  | inline s ih =>
    have hparts (rs : List SchemaRef) (hrs : ∀ r ∈ rs, r ∈ s.children) (shape : Shape)
        (n : String) :
        (n ∈ (shape.addParts rs).properties.keys ↔
          n ∈ shape.properties.keys ∨ ∃ r ∈ rs, Says r (.property n)) ∧
        (n ∈ (shape.addParts rs).required ↔
          n ∈ shape.required ∨ ∃ r ∈ rs, Says r (.required n)) := by
      induction rs generalizing shape with
      | nil => simp [Shape.addParts]
      | cons r rs ihrs =>
        obtain ⟨hproperties, hrequired⟩ := ih r (hrs r (by simp)) shape n
        obtain ⟨hproperties', hrequired'⟩ :=
          ihrs (fun q hq => hrs q (List.mem_cons_of_mem _ hq)) (shape.addPart r)
        rw [Shape.addParts, hproperties', hrequired', hproperties, hrequired]
        simp only [List.mem_cons, exists_eq_or_imp, or_assoc, and_self]
    intro shape n
    have hadd : shape.addPart (.inline s) = (shape.addOwn s).addParts s.allOf := by
      obtain ⟨keywords, properties, items, additional, negated, allOf, oneOf, anyOf⟩ := s
      rw [Shape.addPart, Shape.add]
    obtain ⟨hproperties, hrequired⟩ :=
      hparts s.allOf (fun r hr => mem_children_of_mem_allOf hr) (shape.addOwn s) n
    rw [hadd, hproperties, hrequired, mem_keys_addOwn, Shape.addOwn, List.mem_append]
    simp [says_inline_iff, or_assoc]

/-- The properties of a shape are those that the schema says. -/
theorem mem_keys_ofSchema {s : Schema} {n : String} :
    n ∈ (Shape.ofSchema s).properties.keys ↔ Says (.inline s) (.property n) := by
  have h := (addPart_spec (.inline s) {} n).1
  rw [Shape.addPart] at h
  rw [Shape.ofSchema, h]
  simp [Table.keys, EmptyCollection.emptyCollection, Table.empty]

/-- The required names of a shape are those that the schema says. -/
theorem mem_required_ofSchema {s : Schema} {n : String} :
    n ∈ (Shape.ofSchema s).required ↔ Says (.inline s) (.required n) := by
  have h := (addPart_spec (.inline s) {} n).2
  rw [Shape.addPart] at h
  rw [Shape.ofSchema, h]
  simp

end Schema

end ApiLowering
