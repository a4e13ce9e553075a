import ApiLowering.Proofs.Document.Samples
import ApiLowering.Proofs.Endpoints.Inputs

/-!
# Interfaces

Every declared operation has an endpoint, and every endpoint is in the interfaces of its tags.
Interfaces are told apart by the names that are made of tags, so that tags may share an interface.

## Main definitions

* `Document.Declares` — a method of a path has an operation.
* `HttpMethod.Before` — places go by their paths, and by their methods on one path.
* `Setup.mentioned` — the positions that are mentioned under the name of an interface.
* `Setup.SharesOut` — interfaces have the endpoints of their tags.

## Main results

* `Setup.groups_spec` — an interface holds what is mentioned under its name.
* `Setup.sharesOut_group` — interfaces share out all endpoints.
* `Document.places_prepared` — the places of the operations that are lowered.
* `Document.interfaces_of_lowered` — endpoints and interfaces of all programs.
-/

namespace ApiLowering

/-! ## Sorted positions -/

/-- Adding each of several things makes a list without repetitions, in the same order. -/
lemma addNew_nil_spec {xs : List Nat} (h : xs.Pairwise (· ≤ ·)) :
    (addNew [] xs).Pairwise (· < ·) ∧ ∀ x, x ∈ addNew [] xs ↔ x ∈ xs := by
  have hnodup : (addNew [] xs).Nodup := nodup_addNew List.nodup_nil
  have hsub : (addNew [] xs).Sublist xs := addNewBy_sublist _ [] xs
  refine ⟨?_, fun x => ⟨fun hx => hsub.subset hx, mem_addNew_of_mem⟩⟩
  exact ((h.sublist hsub).and hnodup).imp fun hab => by omega

/-! ## Groups -/

namespace Setup

variable (setup : Setup)

/-- The positions that are mentioned under the name of an interface. -/
def mentioned (mentions : List (Nat × String)) (classname : String) : List Nat :=
  (mentions.filter fun m => setup.names.interfaceName m.2 == classname).map Prod.fst

/-- The positions and tags under which endpoints are grouped. -/
def mentions (es : List Endpoint) : List (Nat × String) :=
  es.zipIdx.flatMap fun (e, position) => (setup.groupTags e).map fun tag => (position, tag)

lemma mentioned_concat (mentions : List (Nat × String)) (m : Nat × String) (classname : String) :
    setup.mentioned (mentions ++ [m]) classname =
      if setup.names.interfaceName m.2 = classname
      then setup.mentioned mentions classname ++ [m.1]
      else setup.mentioned mentions classname := by
  rw [mentioned, List.filter_append, List.map_append]
  by_cases h : setup.names.interfaceName m.2 = classname
  · rw [if_pos h, List.filter_cons_of_pos (by simpa using h)]
    rfl
  · rw [if_neg h, List.filter_cons_of_neg (by simpa using h)]
    exact List.append_nil _

variable {setup} {s s' : Session}

lemma enterTag_eq {groups groups' : Table EndpointGroup} {position : Nat} {tag : String}
    (h : setup.enterTag groups position tag s = .ok (groups', s')) :
    groups' = groups.insert (setup.names.interfaceName tag)
      (((groups.find? (setup.names.interfaceName tag)).getD (setup.emptyGroup tag)).add
        position) := by
  rw [enterTag] at h
  split at h
  · obtain ⟨_, _, -, h⟩ := Lowering.bind_eq_ok_iff.1 h
    exact (Lowering.pure_eq_ok_iff.1 h).1.symm
  · exact (Lowering.pure_eq_ok_iff.1 h).1.symm

/-- The groups hold what has been mentioned under their names. -/
structure Holds (setup : Setup) (mentions : List (Nat × String)) (groups : Table EndpointGroup) :
    Prop where
  nodup : groups.keys.Nodup
  find? : ∀ classname, (groups.find? classname).map (fun g => (g.classname, g.members)) =
    if setup.mentioned mentions classname = [] then none
    else some (classname, addNew [] (setup.mentioned mentions classname))

/-- Entering a tag keeps what the groups hold, and adds the position under one name. -/
lemma Holds.enterTag {mentions : List (Nat × String)} {m : Nat × String}
    {groups groups' : Table EndpointGroup} (h : setup.Holds mentions groups)
    (hstep : setup.enterTag groups m.1 m.2 s = .ok (groups', s')) :
    setup.Holds (mentions ++ [m]) groups' := by
  obtain rfl := enterTag_eq hstep
  refine ⟨Table.nodup_keys_insert h.nodup, fun classname => ?_⟩
  have hfound := h.find? classname
  rw [mentioned_concat]
  by_cases hname : setup.names.interfaceName m.2 = classname
  · subst hname
    have hadd : addNew [] (setup.mentioned mentions (setup.names.interfaceName m.2) ++ [m.1]) =
        addNew (addNew [] (setup.mentioned mentions (setup.names.interfaceName m.2))) [m.1] :=
      List.foldl_append
    rw [Table.find?_insert_self, Option.map_some, if_pos rfl, if_neg (by simp), hadd]
    cases hg : groups.find? (setup.names.interfaceName m.2) with
    | none =>
      rw [hg, Option.map_none] at hfound
      split at hfound
      · rename_i hnone
        rw [hnone]
        rfl
      · cases hfound
    | some g =>
      rw [hg, Option.map_some] at hfound
      split at hfound
      · cases hfound
      · obtain ⟨hclass, hmembers⟩ := Prod.mk.inj (Option.some.inj hfound)
        rw [Option.getD_some, ← hmembers]
        exact congrArg some (Prod.ext hclass rfl)
  · rw [if_neg hname, Table.find?_insert_of_ne _ _ (Ne.symm hname), hfound]

/-- **An interface holds what is mentioned under its name.** -/
theorem groups_spec {mentions : List (Nat × String)} {groups : Table EndpointGroup}
    (h : mentions.foldlM (fun gs m => setup.enterTag gs m.1 m.2) {} s = .ok (groups, s')) :
    setup.Holds mentions groups := by
  refine Lowering.foldlM_induction (P := setup.Holds) h ⟨List.nodup_nil, fun _ => rfl⟩ ?_
  intro done m _ gs t gs' t' hdone hstep
  exact hdone.enterTag hstep

/-! ## Sharing out -/

/-- Interfaces have names that increase, and hold positions of endpoints that increase. An endpoint
is in the interface of a name exactly if its first tag gives that name, or, unless only first tags
count, any of its tags. -/
structure SharesOut (setup : Setup) (es : List Endpoint) (gs : List EndpointGroup) : Prop where
  classnames : (gs.map (·.classname)).Pairwise (· < ·)
  members : ∀ g ∈ gs, g.members.Pairwise (· < ·) ∧ ∀ i ∈ g.members, i < es.length
  first : setup.options.operationOnlyForFirstTag = true → ∀ i e, es[i]? = some e → ∀ classname,
    (∃ g ∈ gs, g.classname = classname ∧ i ∈ g.members) ↔
      e.tags.head?.map setup.names.interfaceName = some classname
  every : setup.options.operationOnlyForFirstTag = false → ∀ i e, es[i]? = some e → ∀ classname,
    (∃ g ∈ gs, g.classname = classname ∧ i ∈ g.members) ↔
      ∃ tag ∈ e.tags, setup.names.interfaceName tag = classname

lemma mem_mentioned_mentions {es : List Endpoint} {classname : String} {i : Nat} :
    i ∈ setup.mentioned (setup.mentions es) classname ↔
      ∃ e, es[i]? = some e ∧ ∃ tag ∈ setup.groupTags e, setup.names.interfaceName tag = classname := by
  simp only [mentioned, mentions, List.mem_map, List.mem_filter, List.mem_flatMap, beq_iff_eq,
    Prod.exists, List.mem_zipIdx_iff_getElem?]
  constructor
  · rintro ⟨_, _, ⟨⟨e, j, he, tag, htag, heq⟩, hname⟩, rfl⟩
    obtain ⟨rfl, rfl⟩ := Prod.mk.inj heq
    exact ⟨e, he, tag, htag, hname⟩
  · rintro ⟨e, he, tag, htag, hname⟩
    exact ⟨i, tag, ⟨⟨e, i, he, tag, htag, rfl⟩, hname⟩, rfl⟩

/-- Endpoints are gone through in order. -/
lemma pairwise_mentioned_mentions (es : List Endpoint) (classname : String) :
    (setup.mentioned (setup.mentions es) classname).Pairwise (· ≤ ·) := by
  refine List.pairwise_map.2 (List.Pairwise.filter _ (List.pairwise_flatMap.2 ⟨?_, ?_⟩))
  · rintro ⟨e, i⟩ -
    exact List.pairwise_map.2 (List.pairwise_of_forall fun _ _ => le_refl i)
  · have hpositions : (es.zipIdx.map Prod.snd).Pairwise (· < ·) := by
      rw [List.zipIdx_map_snd]
      exact List.pairwise_lt_range'
    refine (List.pairwise_map.1 hpositions).imp fun {a b} hab x hx y hy => ?_
    obtain ⟨_, -, rfl⟩ := List.mem_map.1 hx
    obtain ⟨_, -, rfl⟩ := List.mem_map.1 hy
    exact hab.le

/-- What groups hold, read off their list: each holds what is mentioned under its name, and there is
one for each name that is mentioned. -/
lemma Holds.mem_values {mentions : List (Nat × String)} {groups : Table EndpointGroup}
    (h : setup.Holds mentions groups) :
    (∀ e ∈ groups.entries, e.2.classname = e.1 ∧
      e.2.members = addNew [] (setup.mentioned mentions e.1)) ∧
    ∀ classname, setup.mentioned mentions classname ≠ [] →
      ∃ g ∈ groups.values, g.classname = classname := by
  constructor
  · rintro ⟨key, g⟩ he
    have hfound := h.find? key
    rw [Table.find?_eq_some_of_mem h.nodup he, Option.map_some] at hfound
    split at hfound
    · cases hfound
    · exact Prod.mk.inj (Option.some.inj hfound)
  · intro classname hmentioned
    have hfound := h.find? classname
    rw [if_neg hmentioned] at hfound
    obtain ⟨g, hg, heq⟩ := Option.map_eq_some_iff.1 hfound
    exact ⟨g, Table.mem_values_of_find? hg, congrArg Prod.fst heq⟩

/-- **Interfaces share out all endpoints.** -/
theorem sharesOut_group {es : List Endpoint} {gs : List EndpointGroup}
    (h : setup.group es s = .ok (gs, s')) : setup.SharesOut es gs := by
  rw [group] at h
  obtain ⟨groups, _, hgroups, h⟩ := Lowering.bind_eq_ok_iff.1 h
  obtain ⟨rfl, -⟩ := Lowering.pure_eq_ok_iff.1 h
  have hholds : setup.Holds (setup.mentions es) groups := groups_spec hgroups
  obtain ⟨hentries, hnames⟩ := hholds.mem_values
  have hperm := groups.entries_sortByKey_perm
  have hmem {g : EndpointGroup} (hg : g ∈ groups.sortByKey.values) :
      g.members = addNew [] (setup.mentioned (setup.mentions es) g.classname) := by
    obtain ⟨e, he, rfl⟩ := List.mem_map.1 hg
    obtain ⟨hclass, hmembers⟩ := hentries e (hperm.mem_iff.1 he)
    rw [hmembers, hclass]
  have hiff (i : Nat) (e : Endpoint) (he : es[i]? = some e) (classname : String) :
      (∃ g ∈ groups.sortByKey.values, g.classname = classname ∧ i ∈ g.members) ↔
        ∃ tag ∈ setup.groupTags e, setup.names.interfaceName tag = classname := by
    have hspec := addNew_nil_spec (setup.pairwise_mentioned_mentions es classname)
    have hmentioned := @mem_mentioned_mentions setup es classname i
    simp only [he, Option.some.injEq, exists_eq_left'] at hmentioned
    rw [← hmentioned, ← hspec.2]
    constructor
    · rintro ⟨g, hg, rfl, hi⟩
      exact hmem hg ▸ hi
    · intro hi
      obtain ⟨g, hg, rfl⟩ := hnames classname (List.ne_nil_of_mem ((hspec.2 i).1 hi))
      have hg : g ∈ groups.sortByKey.values := (hperm.map Prod.snd).mem_iff.2 hg
      exact ⟨g, hg, rfl, hmem hg ▸ hi⟩
  refine ⟨?_, fun g hg => ?_, fun hfirst i e he classname => ?_, fun hevery i e he classname => ?_⟩
  · have hclasses : groups.sortByKey.values.map (·.classname) = groups.sortByKey.keys := by
      rw [Table.values, List.map_map]
      exact List.map_congr_left fun e he => (hentries e (hperm.mem_iff.1 he)).1
    rw [hclasses]
    exact Table.pairwise_keys_sortByKey hholds.nodup
  · have hspec := addNew_nil_spec (setup.pairwise_mentioned_mentions es g.classname)
    rw [← hmem hg] at hspec
    refine ⟨hspec.1, fun i hi => ?_⟩
    obtain ⟨e, he, -⟩ := mem_mentioned_mentions.1 ((hspec.2 i).1 hi)
    exact (List.getElem?_eq_some_iff.1 he).1
  · rw [hiff i e he, groupTags, if_pos hfirst]
    cases e.tags <;> simp
  · rw [hiff i e he, groupTags, if_neg (by simp [hevery])]

end Setup

/-! ## Places -/

/-- Places are methods of paths. They go by their paths, and by their methods on one path. -/
def HttpMethod.Before (p q : String × HttpMethod) : Prop :=
  p.1 < q.1 ∨ p.1 = q.1 ∧ HttpMethod.all.idxOf p.2 < HttpMethod.all.idxOf q.2

namespace PathItem

/-- The methods of a path that have an operation. -/
def methods (p : PathItem) : List HttpMethod := HttpMethod.all.filter fun m => (p.operation? m).isSome

lemma map_fst_operations (p : PathItem) : p.operations.map Prod.fst = p.methods := by
  rw [operations, methods]
  induction HttpMethod.all with
  | nil => rfl
  | cons m ms ih =>
    cases hop : p.operation? m with
    | none => simp [hop, ih]
    | some op => simp [hop, ih]

/-- Paths with the same operations have the same methods. -/
lemma methods_eq {p q : PathItem}
    (h : ∀ m, (q.operation? m).isSome = (p.operation? m).isSome) : q.methods = p.methods :=
  List.filter_congr fun m _ => h m

lemma mem_methods {p : PathItem} {m : HttpMethod} : m ∈ p.methods ↔ (p.operation? m).isSome := by
  rw [methods, List.mem_filter]
  exact and_iff_right (by cases m <;> decide)

end PathItem

namespace Document

/-- A method of a path has an operation. -/
def Declares (d : Document) (path : String) (m : HttpMethod) : Prop :=
  ∃ item, d.paths.find? path = some item ∧ (item.operation? m).isSome

/-- The places of the operations of some paths, in order. -/
def places (paths : Table PathItem) : List (String × HttpMethod) :=
  paths.entries.flatMap fun e => e.2.methods.map fun m => (e.1, m)

lemma map_sites (d : Document) : d.sites.map (fun s => (s.path, s.method)) = places d.paths := by
  rw [sites, places, List.map_flatMap]
  refine List.flatMap_congr fun e _ => ?_
  rw [← e.2.map_fst_operations, List.map_map, List.map_map]
  rfl

/-- A change of paths that keeps their methods keeps all places. -/
lemma places_map {f : PathItem → PathItem} (hf : ∀ p, (f p).methods = p.methods)
    (paths : Table PathItem) : places (paths.map f) = places paths := by
  rw [places, places, Table.map, List.flatMap_map]
  exact List.flatMap_congr fun e _ => by rw [hf]

/-- Schemas make no difference to places. -/
lemma places_of_sameShape {paths paths' : Table PathItem} (h : SameShape paths paths') :
    places paths = places paths' := by
  have hsame (paths : Table PathItem) :
      places (HasSchemas.mapSchemas (fun _ => .ref "") paths) = places paths := by
    refine places_map (fun p => PathItem.methods_eq fun m => ?_) paths
    cases m <;> exact Option.isSome_map
  rw [← hsame paths, ← hsame paths', h]

/-- **The places of the operations that are lowered** are those of the document, in the order of its
paths. -/
theorem places_prepared (d : Document) (o : Options) :
    places (d.prepared o).paths = places d.paths.sortByKey := by
  rw [prepared, ← places_of_sameShape (HasSchemas.sameShape_paths_hoisted _ _)]
  refine places_map (fun p => PathItem.methods_eq fun m => ?_) d.paths.sortByKey
  cases m <;> exact Option.isSome_map

/-- Places are in order where paths are. -/
lemma pairwise_places {paths : Table PathItem} (h : paths.keys.Pairwise (· < ·)) :
    (places paths).Pairwise HttpMethod.Before := by
  have hmethods (p : PathItem) : p.methods.Pairwise fun m n =>
      HttpMethod.all.idxOf m < HttpMethod.all.idxOf n :=
    List.Pairwise.filter _ (by decide)
  refine List.pairwise_flatMap.2 ⟨fun e _ => List.pairwise_map.2 ((hmethods e.2).imp fun h => ?_),
    (List.pairwise_map.1 h).imp fun {a b} hab x hx y hy => ?_⟩
  · exact .inr ⟨rfl, h⟩
  · obtain ⟨_, -, rfl⟩ := List.mem_map.1 hx
    obtain ⟨_, -, rfl⟩ := List.mem_map.1 hy
    exact .inl hab

/-- The places of paths in order are where operations are declared. -/
lemma mem_places_sortByKey {d : Document} (h : d.paths.keys.Nodup) {path : String}
    {m : HttpMethod} : (path, m) ∈ places d.paths.sortByKey ↔ d.Declares path m := by
  simp only [places, List.mem_flatMap, List.mem_map, (d.paths.entries_sortByKey_perm).mem_iff]
  constructor
  · rintro ⟨⟨key, item⟩, he, n, hn, heq⟩
    obtain ⟨rfl, rfl⟩ := Prod.mk.inj heq
    exact ⟨item, Table.find?_eq_some_of_mem h he, PathItem.mem_methods.1 hn⟩
  · rintro ⟨item, hitem, hm⟩
    exact ⟨(path, item), Table.mem_of_find?_eq_some hitem, m, PathItem.mem_methods.2 hm, rfl⟩

end Document

/-! ## One endpoint for each operation -/

/-- A body is one variant if all of its media types go together. -/
lemma BodyVariant.exists_ofContent_eq_singleton {content : Table MediaType}
    (h : content.isEmpty = false) : ∃ v, ofContent (fun _ _ => true) content = [v] := by
  obtain ⟨es⟩ := content
  cases es with
  | nil => cases h
  | cons e es =>
    have hfold (es : List (String × MediaType)) (v : BodyVariant) : ∃ w,
        es.foldl (fun vs e => enter (fun _ _ => true) e.1 e.2 vs) [v] = [w] := by
      induction es generalizing v with
      | nil => exact ⟨v, rfl⟩
      | cons e es ih => exact ih _
    exact hfold es _

/-- An operation answers one request unless operations are divided. -/
lemma Resolver.exists_requests_eq_singleton {r : Resolver} {op : Operation}
    {body : Option RequestBody} (hbody : r.bodyOf op = .ok body)
    (h : r.setup.settings.divideOperationsByContentType = false) :
    ∃ request, r.setup.requests body = [request] := by
  cases body with
  | none => exact ⟨none, rfl⟩
  | some body =>
    obtain ⟨v, hv⟩ := BodyVariant.exists_ofContent_eq_singleton (isEmpty_of_bodyOf hbody body rfl)
    refine ⟨some (body, v), ?_⟩
    rw [Setup.requests, h]
    exact congrArg (List.map _) hv

/-- The stages keep the place and the tags of an endpoint. -/
lemma Setup.Finishes.place {setup : Setup} {raw e : Endpoint} (h : setup.Finishes raw e) :
    e.path = raw.path ∧ e.httpMethod = raw.httpMethod ∧ e.tags = raw.tags := by
  obtain ⟨models, s, s', h⟩ := h
  obtain ⟨normalized, named, t, hnormalized, hnamed, hlast⟩ := finishEndpoint_spec h
  obtain ⟨hpath, hmethod, htags, -⟩ := normalizeEndpoint_spec hnormalized
  obtain ⟨mapped, hmapped, rfl⟩ := mapArguments_spec hnamed
  have hplural := Endpoint.continues_projected { mapped with
    allParams := if setup.options.plural then mapped.allParams.map Argument.pluralized
      else mapped.allParams }
  exact ⟨hlast.path.trans (hplural.path.trans (hmapped.path.trans hpath)),
    hlast.httpMethod.trans (hplural.httpMethod.trans (hmapped.httpMethod.trans hmethod)),
    hlast.tags.trans (hplural.tags.trans (hmapped.tags.trans htags))⟩

/-- Lists of one thing each are as long as the list that they correspond to. -/
lemma map_flatten_of_forall₂ {α β γ : Type} {f : α → γ} {g : β → γ} {xs : List α}
    {yss : List (List β)} (h : List.Forall₂ (fun x ys => ∃ y, ys = [y] ∧ g y = f x) xs yss) :
    yss.flatten.map g = xs.map f := by
  induction h with
  | nil => rfl
  | cons hx _ ih =>
    obtain ⟨y, rfl, hy⟩ := hx
    rw [List.flatten_cons, List.singleton_append, List.map_cons, List.map_cons, hy, ih]

/-! ## Programs -/

namespace Document

/-- The interfaces of a program group its endpoints. -/
lemma exists_group_of_lowered {d : Document} {o : Options} {program : Program}
    {warnings : List String} (h : d.lowered o = .ok (program, warnings)) :
    ∃ s s', (Setup.ofCanonical o.canonical).group program.endpoints s =
      .ok (program.groups, s') := by
  obtain ⟨r, hstages⟩ := exists_stages_of_lowered h
  exact (exists_build_of_resolver hstages.resolver).1 ▸ hstages.groups

/-- Every endpoint has a tag. -/
lemma tags_ne_nil_of_lowered {d : Document} {o : Options} {program : Program}
    {warnings : List String} (h : d.lowered o = .ok (program, warnings)) :
    ∀ e ∈ program.endpoints, e.tags ≠ [] := by
  obtain ⟨r, chunks, -, -, -, hchunks, hall⟩ := endpoints_of_lowered h
  intro e he
  rw [hchunks, List.mem_flatten] at he
  obtain ⟨es, hes, he⟩ := he
  obtain ⟨site, -, body, -, hrequests⟩ := exists_mem_right_of_forall₂ hall hes
  obtain ⟨request, -, raw, hraw, hfinish⟩ := exists_mem_right_of_forall₂ hrequests he
  rw [hfinish.place.2.2, hraw.tags]
  split
  · simp
  · rename_i htags
    simpa using htags

/-- Unless operations are divided, the places of the endpoints are those of the operations. -/
lemma map_endpoints_of_lowered {d : Document} {o : Options} {program : Program}
    {warnings : List String} (h : d.lowered o = .ok (program, warnings))
    (hdivide : (Setup.ofCanonical o.canonical).settings.divideOperationsByContentType = false) :
    program.endpoints.map (fun e => (e.path, e.httpMethod)) =
      (places d.paths.sortByKey).map fun p => (p.1, p.2.text) := by
  obtain ⟨r, chunks, -, hsetup, -, hchunks, hall⟩ := endpoints_of_lowered h
  have hsites : chunks.flatten.map (fun e => (e.path, e.httpMethod)) =
      (d.prepared o).sites.map fun s => (s.path, s.method.text) := by
    refine map_flatten_of_forall₂ (hall.imp fun site es ⟨body, hbody, hrequests⟩ => ?_)
    rw [← hsetup] at hdivide
    obtain ⟨request, hrequest⟩ := Resolver.exists_requests_eq_singleton hbody hdivide
    rw [hrequest] at hrequests
    obtain ⟨e, rest, ⟨raw, hraw, hfinish⟩, hnil, rfl⟩ := List.forall₂_cons_left_iff.1 hrequests
    obtain rfl := List.forall₂_nil_left_iff.1 hnil
    obtain ⟨hpath, hmethod, -⟩ := hfinish.place
    refine ⟨e, rfl, ?_⟩
    rw [hpath, hmethod, hraw.path, hraw.httpMethod]
  rw [hchunks, hsites, ← places_prepared, ← map_sites, List.map_map]
  rfl

/-- **Every operation reaches the interfaces.** Unless operations are divided by the contents of
their bodies, there is one endpoint for each method of a path that declares an operation, in the
order of the paths and of the methods on one path. In any case interfaces share out all endpoints by
the names that are made of their tags; if only first tags count, every endpoint is in exactly one
interface. -/
theorem interfaces_of_lowered {d : Document} {o : Options} {program : Program}
    {warnings : List String} (h : d.lowered o = .ok (program, warnings))
    (hpaths : d.paths.keys.Nodup) :
    ((Setup.ofCanonical o.canonical).settings.divideOperationsByContentType = false →
      ∃ places : List (String × HttpMethod),
        program.endpoints.map (fun e => (e.path, e.httpMethod)) =
          places.map (fun p => (p.1, p.2.text)) ∧
        places.Pairwise HttpMethod.Before ∧ ∀ path m, (path, m) ∈ places ↔ d.Declares path m) ∧
    (Setup.ofCanonical o.canonical).SharesOut program.endpoints program.groups ∧
    (o.canonical.operationOnlyForFirstTag = true → ∀ i < program.endpoints.length,
      ∃! g, g ∈ program.groups ∧ i ∈ g.members) := by
  obtain ⟨s, s', hgroup⟩ := exists_group_of_lowered h
  have hshares := Setup.sharesOut_group hgroup
  refine ⟨fun hdivide => ?_, hshares, fun hfirst i hi => ?_⟩
  · exact ⟨_, map_endpoints_of_lowered h hdivide,
      pairwise_places (Table.pairwise_keys_sortByKey hpaths), fun _ _ => mem_places_sortByKey hpaths⟩
  · have he := List.getElem?_eq_getElem hi
    have htags := tags_ne_nil_of_lowered h _ (List.getElem_mem hi)
    obtain ⟨tag, rest, htag⟩ := List.exists_cons_of_ne_nil htags
    have hfirst := hshares.first hfirst i _ he
    simp only [htag, List.head?_cons, Option.map_some, Option.some.injEq] at hfirst
    obtain ⟨g, hg, -, hmember⟩ := (hfirst _).2 rfl
    refine ⟨g, ⟨hg, hmember⟩, fun g' ⟨hg', hmember'⟩ => ?_⟩
    have hnames : (program.groups.map (·.classname)).Nodup := hshares.classnames.imp fun h => h.ne
    refine List.inj_on_of_nodup_map hnames hg' hg ?_
    rw [← (hfirst _).1 ⟨g, hg, rfl, hmember⟩, ← (hfirst _).1 ⟨g', hg', rfl, hmember'⟩]

/-- Two tags share an interface, and an operation without tags is in the interface of the default
one. Its path goes first. -/
theorem interfaces_of_lowered_petStore : petStore.paths.keys.Nodup ∧ ∃ program warnings,
    petStore.lowered {} = .ok (program, warnings) ∧
    program.endpoints.map (fun e => (e.path, e.httpMethod, e.tags)) =
      [("/keepers", "DELETE", ["default"]), ("/pets", "GET", ["pet store"]),
        ("/pets", "POST", ["pet-store", "keepers"])] ∧
    program.groups.map (fun g => (g.classname, g.members)) =
      [("DefaultApi", [0]), ("PetStoreApi", [1, 2])] ∧
    (Setup.ofCanonical (Options.canonical {})).SharesOut program.endpoints program.groups := by
  have hpaths : petStore.paths.keys.Nodup := by decide
  obtain ⟨program, warnings, h, hendpoints, hgroups⟩ := exists_lowered (d := petStore) (o := {})
    (P := fun program => program.endpoints.map (fun e => (e.path, e.httpMethod, e.tags)) =
        [("/keepers", "DELETE", ["default"]), ("/pets", "GET", ["pet store"]),
          ("/pets", "POST", ["pet-store", "keepers"])] ∧
      program.groups.map (fun g => (g.classname, g.members)) =
        [("DefaultApi", [0]), ("PetStoreApi", [1, 2])])
    (by decide +kernel)
  exact ⟨hpaths, program, warnings, h, hendpoints, hgroups, (interfaces_of_lowered h hpaths).2.1⟩

end Document

end ApiLowering
