import ApiLowering.Proofs.Codec.Basic
import ApiLowering.Proofs.Document.Parameters
import ApiLowering.Proofs.Document.Reading
import ApiLowering.Proofs.Document.Samples
import ApiLowering.Proofs.Endpoints.Groups
import ApiLowering.Proofs.Endpoints.Nicknames
import ApiLowering.Proofs.Json.Merging

/-!
# Authentication

What an operation asks of its callers is a list of requirements, each of which names schemes with
scopes. An endpoint has one way to authenticate for each scheme that is named and defined, however
often it is named, with the scopes of all the places where it is.

A document is lowered in its canonical form, in which a requirement that equals an earlier one as a
value is left out. Such requirements have the same entries in another order, so that nothing that is
mentioned gets lost, and what is mentioned first stays first.

## Main definitions

* `SecurityRequirement.mentions` — the schemes that requirements mention with their scopes.
* `AuthMethod.Gathers` — ways to authenticate gather what is mentioned.
* `Document.demands` — operations with their places and their own requirements.
* `Document.InForce` — the requirements that an operation is held to.
* `Document.RequiresOnce` — no requirement names a scheme twice.
* `Document.Guards` — an endpoint has the ways to authenticate of its operation.

## Main results

* `AuthMethod.Gathers.require` — one more mention is gathered with the others.
* `AuthMethod.gathers_authMethods` — an operation gathers what its requirements mention.
* `Document.demands_prepared` — the document that is lowered asks for the same.
* `Document.requiresOnce_of_ofTree?` — documents that are read name schemes once.
* `Document.authMethods_of_lowered` — the ways to authenticate of all endpoints.
-/

namespace ApiLowering

/-! ## Requirements that are equal as values -/

/-- Texts are read off the value of their list. -/
lemma Json.ofStrings_injective :
    Function.Injective fun texts : List String => (Json.ofStrings texts).essence := by
  have hstrings : Function.Injective fun text : String => (Json.string text).essence := by
    intro text text' h
    simpa [essence] using h
  intro texts texts' h
  simp only [ofStrings, essence, essenceItems_eq_map, List.map_map, Json.array.injEq] at h
  exact List.map_injective_iff.2 hstrings h

namespace SecurityRequirement

variable {r r' : SecurityRequirement} {rs : List SecurityRequirement}

/-- Requirements that are equal as values name the same schemes with the same scopes. -/
lemma entries_perm_of_same (hr : r.keys.Nodup) (hr' : r'.keys.Nodup)
    (h : r.toJson.same r'.toJson = true) : r.entries.Perm r'.entries := by
  have hinj : Function.Injective fun e : String × List String =>
      (e.1, (Json.ofStrings e.2).essence) :=
    Function.injective_id.prodMap Json.ofStrings_injective
  rw [Json.same_iff, toJson, toJson, Json.ofTable_eq _ hr, Json.ofTable_eq _ hr'] at h
  simp only [Json.essence, Json.members.injEq, Json.essenceMembers_eq_map, Table.map,
    List.map_map] at h
  have hsorted : r.sortByKey.entries = r'.sortByKey.entries := List.map_injective_iff.2 hinj h
  exact r.entries_sortByKey_perm.symm.trans (hsorted ▸ r'.entries_sortByKey_perm)

/-- The requirements of a list without those that equal an earlier one as values. -/
def distinct (rs : List SecurityRequirement) : List SecurityRequirement :=
  distinctWith (fun r s => r.toJson.same s.toJson) rs

/-- The schemes that requirements mention with their scopes, in order. -/
def mentions (rs : List SecurityRequirement) : List (String × List String) :=
  rs.flatMap (·.entries)

/-- Nothing that is mentioned is lost with requirements that are there twice. -/
lemma mem_mentions_distinct (hrs : ∀ r ∈ rs, r.keys.Nodup) {mention : String × List String} :
    mention ∈ mentions (distinct rs) ↔ mention ∈ mentions rs := by
  rw [mentions, mentions, List.mem_flatMap, List.mem_flatMap]
  constructor
  · rintro ⟨r, hr, hmention⟩
    exact ⟨r, mem_of_mem_distinctWith hr, hmention⟩
  · rintro ⟨r, hr, hmention⟩
    obtain ⟨r', hr', hsame⟩ : ∃ r' ∈ distinct rs, r'.toJson.same r.toJson = true :=
      exists_same_mem_distinctWith (fun r => Json.same_refl r.toJson) hr
    have hperm := entries_perm_of_same (hrs r' (mem_of_mem_distinctWith hr')) (hrs r hr) hsame
    exact ⟨r', hr', hperm.mem_iff.2 hmention⟩

/-- Nor does the order change in which schemes are mentioned first. -/
lemma firstMentions_distinct (hrs : ∀ r ∈ rs, r.keys.Nodup) (p : String → Bool) :
    distinctBy id (((mentions (distinct rs)).map Prod.fst).filter p) =
      distinctBy id (((mentions rs).map Prod.fst).filter p) := by
  rw [mentions, mentions, List.map_flatMap, List.map_flatMap, List.filter_flatMap,
    List.filter_flatMap]
  refine distinctBy_flatMap_distinctWith fun r hr r' hr' hsame name hname => ?_
  have hperm := (entries_perm_of_same (hrs r hr) (hrs r' hr') hsame).map Prod.fst
  rw [List.mem_filter] at hname ⊢
  exact ⟨hperm.mem_iff.2 hname.1, hname.2⟩

end SecurityRequirement

/-! ## The ways to authenticate for some requirements -/

namespace AuthMethod

variable {a : AuthMethod} {methods : List AuthMethod} {schemes : Table SecurityScheme}
  {mentions : List (String × List String)}

/-- Ways to authenticate gather mentions of schemes: there is one for each scheme that is mentioned
and defined, in the order of the first mentions, with the scopes of all its mentions. -/
structure Gathers (schemes : Table SecurityScheme) (mentions : List (String × List String))
    (methods : List AuthMethod) : Prop where
  names : methods.map (·.name) =
    distinctBy id ((mentions.map Prod.fst).filter (schemes.contains ·))
  described : ∀ a ∈ methods, ∃ s, schemes.find? a.name = some s ∧ a = ofScheme a.name s a.scopes
  scopes : ∀ a ∈ methods, ∀ scope,
    scope ∈ a.scopes ↔ ∃ scopes, (a.name, scopes) ∈ mentions ∧ scope ∈ scopes

/-- One more mention adds its scopes to those of its scheme. -/
lemma exists_scopes_concat_iff {name key scope : String} {scopes : List String} :
    (∃ given, (key, given) ∈ mentions ++ [(name, scopes)] ∧ scope ∈ given) ↔
      (∃ given, (key, given) ∈ mentions ∧ scope ∈ given) ∨ key = name ∧ scope ∈ scopes := by
  simp only [List.mem_append, List.mem_singleton, Prod.mk.injEq, or_and_right, exists_or]
  refine or_congr_right ⟨?_, fun ⟨hkey, hscope⟩ => ⟨scopes, ⟨hkey, rfl⟩, hscope⟩⟩
  rintro ⟨_, ⟨hkey, rfl⟩, hscope⟩
  exact ⟨hkey, hscope⟩

/-- A way to authenticate with the scopes of another one of its name. -/
def joined (a b : AuthMethod) : AuthMethod :=
  if b.name = a.name then { b with scopes := addNew b.scopes a.scopes } else b

lemma name_joined (a b : AuthMethod) : (a.joined b).name = b.name := by
  rw [joined]
  split <;> rfl

/-- A way of a new name goes to the end. -/
lemma require_of_not_mem (h : a.name ∉ methods.map (·.name)) :
    a.require methods = methods ++ [a] := by
  induction methods with
  | nil => rfl
  | cons b rest ih =>
    rw [List.map_cons, List.mem_cons, not_or] at h
    rw [require, if_neg (by simpa using Ne.symm h.1), ih h.2, List.cons_append]

/-- A way of a known name only adds its scopes. -/
lemma require_of_mem (hnodup : (methods.map (·.name)).Nodup)
    (h : a.name ∈ methods.map (·.name)) : a.require methods = methods.map a.joined := by
  induction methods with
  | nil => cases h
  | cons b rest ih =>
    rw [List.map_cons, List.nodup_cons] at hnodup
    by_cases hb : b.name = a.name
    · have hrest : rest.map a.joined = rest := by
        refine (List.map_congr_left fun c hc => if_neg fun hname => ?_).trans (List.map_id _)
        exact hnodup.1 (List.mem_map.2 ⟨c, hc, hname.trans hb.symm⟩)
      rw [require, if_pos (by simpa using hb), List.map_cons, hrest, joined, if_pos hb]
    · have hmem := (List.mem_cons.1 h).resolve_left (Ne.symm hb)
      rw [require, if_neg (by simpa using hb), List.map_cons, ih hnodup.2 hmem, joined, if_neg hb]

namespace Gathers

lemma nodup (h : Gathers schemes mentions methods) : (methods.map (·.name)).Nodup := by
  have hnodup := map_distinctBy_nodup id ((mentions.map Prod.fst).filter (schemes.contains ·))
  rwa [List.map_id, ← h.names] at hnodup

lemma mem_names (h : Gathers schemes mentions methods) {name : String} :
    name ∈ methods.map (·.name) ↔ name ∈ mentions.map Prod.fst ∧ schemes.contains name = true := by
  rw [h.names, mem_distinctBy_id, List.mem_filter]

/-- A mention of a scheme that is not defined adds nothing. -/
lemma skip (h : Gathers schemes mentions methods) {name : String} (scopes : List String)
    (hname : schemes.find? name = none) :
    Gathers schemes (mentions ++ [(name, scopes)]) methods where
  names := by
    have hundefined : schemes.contains name = false := by simp [Table.contains, hname]
    rw [List.map_append, List.filter_append, List.map_singleton,
      List.filter_cons_of_neg (by simp [hundefined]), List.filter_nil, List.append_nil, h.names]
  described := h.described
  scopes a ha scope := by
    obtain ⟨s, hs, -⟩ := h.described a ha
    have hne : a.name ≠ name := fun heq => by simp [← heq, hs] at hname
    rw [exists_scopes_concat_iff, h.scopes a ha, or_iff_left fun hlast => hne hlast.1]

/-- The names once another defined scheme is mentioned. -/
lemma names_concat (h : Gathers schemes mentions methods) {name : String} (scopes : List String)
    (hname : schemes.contains name = true) :
    distinctBy id (((mentions ++ [(name, scopes)]).map Prod.fst).filter (schemes.contains ·)) =
      if name ∈ methods.map (·.name) then methods.map (·.name)
      else methods.map (·.name) ++ [name] := by
  rw [List.map_append, List.filter_append, List.map_singleton, List.filter_cons_of_pos hname,
    List.filter_nil, distinctBy_concat, List.map_id, ← h.names]
  refine if_congr ?_ rfl rfl
  rw [h.mem_names, id_eq, List.mem_filter]

variable {name : String} {s : SecurityScheme}

/-- Another mention of a scheme adds its scopes. -/
lemma join (h : Gathers schemes mentions methods) (scopes : List String)
    (hname : schemes.find? name = some s) (hknown : name ∈ methods.map (·.name)) :
    Gathers schemes (mentions ++ [(name, scopes)])
      (methods.map (ofScheme name s scopes).joined) where
  names := by
    rw [h.names_concat scopes (by simp [Table.contains, hname]), if_pos hknown, List.map_map]
    exact List.map_congr_left fun b _ => name_joined _ b
  described := by
    refine List.forall_mem_map.2 fun b hb => ?_
    obtain ⟨t, ht, heq⟩ := h.described b hb
    rw [name_joined, joined]
    refine ⟨t, ht, ?_⟩
    split
    · exact congrArg (fun c : AuthMethod => { c with scopes := addNew b.scopes scopes }) heq
    · exact heq
  scopes := by
    refine List.forall_mem_map.2 fun b hb scope => ?_
    rw [name_joined, exists_scopes_concat_iff, ← h.scopes b hb, joined]
    split
    · rename_i hb
      rw [mem_addNew]
      exact or_congr_right (and_iff_right hb).symm
    · rename_i hb
      exact (or_iff_left fun hlast => hb hlast.1).symm

/-- The first mention of a scheme adds a way to authenticate. -/
lemma add (h : Gathers schemes mentions methods) (scopes : List String)
    (hname : schemes.find? name = some s) (hnew : name ∉ methods.map (·.name)) :
    Gathers schemes (mentions ++ [(name, scopes)]) (methods ++ [ofScheme name s scopes]) where
  names := by
    rw [h.names_concat scopes (by simp [Table.contains, hname]), if_neg hnew, List.map_append]
    rfl
  described := List.forall_mem_append.2 ⟨h.described, by simpa using ⟨s, hname, rfl⟩⟩
  scopes := by
    refine List.forall_mem_append.2 ⟨fun b hb scope => ?_, ?_⟩
    · have hne : b.name ≠ name := fun heq => hnew (heq ▸ List.mem_map_of_mem hb)
      rw [exists_scopes_concat_iff, h.scopes b hb, or_iff_left fun hlast => hne hlast.1]
    · -- there is no earlier mention, for the scheme is defined
      have hfirst (given : List String) : (name, given) ∉ mentions := fun hmention =>
        hnew (h.mem_names.2 ⟨List.mem_map_of_mem hmention, by simp [Table.contains, hname]⟩)
      simp only [List.mem_singleton, forall_eq, exists_scopes_concat_iff]
      intro scope
      simp [ofScheme, hfirst]

/-- **One more mention of a defined scheme** is gathered with the others. -/
theorem require (h : Gathers schemes mentions methods) (scopes : List String)
    (hname : schemes.find? name = some s) :
    Gathers schemes (mentions ++ [(name, scopes)]) ((ofScheme name s scopes).require methods) := by
  by_cases hknown : name ∈ methods.map (·.name)
  · rw [require_of_mem h.nodup hknown]
    exact h.join scopes hname hknown
  · rw [require_of_not_mem hknown]
    exact h.add scopes hname hknown

end Gathers

/-- **The ways to authenticate for an operation gather what its requirements mention.** -/
theorem gathers_authMethods (d : Document) (op : Operation) :
    Gathers d.parts.securitySchemes (d.schemeMentions op) (d.authMethods op) := by
  rw [Document.authMethods]
  induction d.schemeMentions op using List.reverseRecOn with
  | nil => exact ⟨rfl, List.forall_mem_nil _, List.forall_mem_nil _⟩
  | append_singleton mentions mention ih =>
    obtain ⟨name, scopes⟩ := mention
    rw [List.foldl_append, List.foldl_cons, List.foldl_nil]
    dsimp only
    cases hname : (d.components.getD {}).securitySchemes.find? name with
    | none => exact ih.skip scopes hname
    | some s => exact ih.require scopes hname

/-- Requirements that are there twice make no difference. -/
lemma Gathers.of_distinct {schemes' : Table SecurityScheme} {rs : List SecurityRequirement}
    (h : Gathers schemes' (SecurityRequirement.mentions (SecurityRequirement.distinct rs)) methods)
    (hrs : ∀ r ∈ rs, r.keys.Nodup) (hschemes : ∀ key, schemes'.find? key = schemes.find? key) :
    Gathers schemes (SecurityRequirement.mentions rs) methods where
  names := by
    have hcontains : schemes'.contains = schemes.contains :=
      funext fun key => congrArg Option.isSome (hschemes key)
    rw [h.names, hcontains]
    exact SecurityRequirement.firstMentions_distinct hrs _
  described a ha := by
    obtain ⟨s, hs, heq⟩ := h.described a ha
    exact ⟨s, (hschemes a.name).symm.trans hs, heq⟩
  scopes a ha scope := by
    simp only [h.scopes a ha, SecurityRequirement.mem_mentions_distinct hrs]

end AuthMethod

/-! ## What operations ask for -/

open Canonical HasSchemas Hoisting

/-- An operation with its place and its own requirements. -/
def Site.demand (s : Site) : String × HttpMethod × Option (List SecurityRequirement) :=
  (s.path, s.method, s.operation.security)

namespace Document

variable (d : Document) (sw : Switches) (rules : Rules) (o : Options)

/-- The operations of a document with their places and their own requirements, in order. -/
def demands : List (String × HttpMethod × Option (List SecurityRequirement)) :=
  d.sites.map Site.demand

/-- Schemas make no difference to what operations ask for. -/
lemma demands_mapSchemas (f : SchemaRef → SchemaRef) : (mapSchemas f d).demands = d.demands := by
  rw [demands, sites_mapSchemas, List.map_map]
  rfl

/-- In the canonical form operations ask for the same, each requirement once. -/
lemma demands_canonical : (d.canonical sw).demands =
    d.arranged.demands.map fun x => (x.1, x.2.1, x.2.2.map SecurityRequirement.distinct) := by
  have hpaths : (d.canonical sw).paths = d.arranged.paths.map
      (d.arranged.withCopies.parts.canonicalPath sw) := rfl
  rw [demands, demands, sites, sites, hpaths, Table.map, List.flatMap_map, List.map_flatMap,
    List.map_flatMap, List.map_flatMap]
  refine List.flatMap_congr fun e _ => ?_
  dsimp only
  rw [Components.operations_canonicalPath, List.map_map, List.map_map, List.map_map, List.map_map]
  rfl

lemma demands_prepared : (d.prepared o).demands =
    d.arranged.demands.map fun x => (x.1, x.2.1, x.2.2.map SecurityRequirement.distinct) := by
  rw [← demands_canonical]
  refine hoisted_induction _ _ (P := fun e => e.demands = _) (fun f e => ?_)
    (fun e added h => ?_) rfl
  · rw [demands_mapSchemas]
  · rw [← h, withSchemas]
    split <;> rfl

/-- The requirements of the document are those of the document that is lowered, each once. -/
lemma security_prepared :
    (d.prepared o).security = d.security.map SecurityRequirement.distinct := by
  refine hoisted_induction _ _ (P := fun e => e.security = _) (fun f e => .rfl)
    (fun e added h => ?_) rfl
  rw [← h, withSchemas]
  split <;> rfl

/-- The same security schemes are defined. -/
lemma find?_securitySchemes_prepared (key : String) :
    (d.prepared o).parts.securitySchemes.find? key = d.parts.securitySchemes.find? key := by
  refine hoisted_induction _ _ (P := fun e => e.parts.securitySchemes.find? key = _)
    (fun f e => ?_) (fun e added h => ?_) ?_
  · rw [parts_mapSchemas]
    rfl
  · rw [← h, withSchemas]
    split <;> rfl
  · rw [parts_canonical]
    exact Table.find?_sortByKey _ key

/-- The requirements in force are the same, each once. -/
lemma requirements_prepared (op : Operation) : (d.prepared o).requirements
    { security := op.security.map SecurityRequirement.distinct } =
      SecurityRequirement.distinct (d.requirements op) := by
  rw [requirements, security_prepared, requirements]
  cases op.security <;> cases d.security <;> rfl

end Document

/-! ## Programs -/

/-- An operation answers some request. -/
lemma Resolver.requests_ne_nil {r : Resolver} {op : Operation} {body : Option RequestBody}
    (hbody : r.bodyOf op = .ok body) : r.setup.requests body ≠ [] := by
  cases body with
  | none => exact List.cons_ne_nil _ _
  | some body =>
    rw [Setup.requests, Ne, List.map_eq_nil_iff]
    exact BodyVariant.ofContent_ne_nil _ (isEmpty_of_bodyOf hbody body rfl)

namespace Document

open SecurityRequirement

variable {d : Document} {o : Options} {program : Program} {warnings : List String}

/-- The requirements in force for an operation: its own if it has a list of them, even an empty one,
and those of the document if it has none. -/
inductive InForce (d : Document) (op : Operation) : List SecurityRequirement → Prop
  | own {rs : List SecurityRequirement} : op.security = some rs → InForce d op rs
  | shared : op.security = none → InForce d op (d.security.getD [])

lemma inForce_requirements (d : Document) (op : Operation) : d.InForce op (d.requirements op) := by
  rw [requirements]
  cases h : op.security with
  | none => exact .shared h
  | some rs => exact .own h

/-- No requirement in force names a scheme twice. -/
def RequiresOnce (d : Document) : Prop :=
  ∀ s ∈ d.sites, ∀ r ∈ d.requirements s.operation, r.keys.Nodup

instance (d : Document) : Decidable d.RequiresOnce :=
  inferInstanceAs (Decidable (∀ s ∈ d.sites, ∀ r ∈ d.requirements s.operation, r.keys.Nodup))

/-- Requirements that were read name no scheme twice. -/
lemma returns_keys_nodup : Returns (fun rs => ∀ r ∈ rs, r.keys.Nodup)
    (Tree.listOf? SecurityRequirement.read?) :=
  Returns.listOf? fun _ _ h => Tree.nodup_keys_of_table? h

/-- Nor do those of an operation that was read. -/
lemma returns_security_operation :
    Returns (fun op => ∀ rs ∈ op.security, ∀ r ∈ rs, r.keys.Nodup) Operation.read? := by
  intro t op hop
  iterate 9 obtain ⟨_, -, hop⟩ := Option.bind_eq_some_iff.1 hop
  obtain ⟨security, hsecurity, hop⟩ := Option.bind_eq_some_iff.1 hop
  iterate 2 obtain ⟨_, -, hop⟩ := Option.bind_eq_some_iff.1 hop
  obtain rfl := Option.some.inj hop
  exact returns_keys_nodup.optional? hsecurity

/-- **In a document that was read** no requirement names a scheme twice. -/
theorem requiresOnce_of_ofTree? {t : Tree} {d : Document} (h : ofTree? t = some d) :
    d.RequiresOnce := by
  iterate 4 obtain ⟨_, -, h⟩ := Option.bind_eq_some_iff.1 h
  obtain ⟨paths, hpaths, h⟩ := Option.bind_eq_some_iff.1 h
  iterate 3 obtain ⟨_, -, h⟩ := Option.bind_eq_some_iff.1 h
  obtain ⟨security, hsecurity, h⟩ := Option.bind_eq_some_iff.1 h
  iterate 2 obtain ⟨_, -, h⟩ := Option.bind_eq_some_iff.1 h
  obtain rfl := Option.some.inj h
  intro s hs r hr
  obtain ⟨⟨path, item⟩, hpath, hs⟩ := List.mem_flatMap.1 hs
  obtain ⟨⟨m, op⟩, hop, rfl⟩ := List.mem_map.1 hs
  obtain ⟨m', -, hop⟩ := List.mem_filterMap.1 hop
  obtain ⟨op', hget, heq⟩ := Option.map_eq_some_iff.1 hop
  obtain ⟨rfl, rfl⟩ := Prod.mk.inj heq
  have hitem := (PathItem.returns_operations returns_security_operation).table?.defaulted?
    (fun _ hitem => by cases hitem) hpaths item (List.mem_map_of_mem hpath)
  cases hown : op'.security with
  | some rs =>
    rw [requirements, hown] at hr
    exact hitem m' op' hget rs hown r hr
  | none =>
    rw [requirements, hown] at hr
    cases security with
    | some rs => exact returns_keys_nodup.optional? hsecurity rs rfl r hr
    | none => cases hr

/-- An endpoint stands for an operation, and has the ways to authenticate that the requirements in
force mention. -/
structure Guards (d : Document) (s : Site) (e : Endpoint) : Prop where
  path : e.path = s.path
  httpMethod : e.httpMethod = s.method.text
  authMethods : ∃ rs, d.InForce s.operation rs ∧
    AuthMethod.Gathers d.parts.securitySchemes (mentions rs) e.authMethods

/-- The endpoints of a program have the ways to authenticate that the document that is lowered asks
for. -/
lemma made_authMethods_of_lowered (h : d.lowered o = .ok (program, warnings)) :
    ∃ chunks, program.endpoints = chunks.flatten ∧
      List.Forall₂ (fun s es => es ≠ [] ∧ ∀ e ∈ es, e.path = s.path ∧
        e.httpMethod = s.method.text ∧ e.authMethods = (d.prepared o).authMethods s.operation)
        (d.prepared o).sites chunks := by
  obtain ⟨r, chunks, -, -, -, hchunks, hall⟩ := made_endpoints_of_lowered h
  refine ⟨chunks, hchunks, hall.imp ?_⟩
  rintro s es ⟨body, hbody, hes⟩
  refine ⟨?_, fun e he => ?_⟩
  · rintro rfl
    exact Resolver.requests_ne_nil hbody (List.forall₂_nil_right_iff.1 hes)
  · obtain ⟨request, -, raw, ⟨nickname, t, t', hraw⟩, hfinish⟩ :=
      exists_mem_right_of_forall₂ hes he
    obtain ⟨hpath, hmethod, -⟩ := hfinish.place
    have hspec := Resolver.rawEndpoint_spec hraw
    obtain ⟨models, u, u', hstages⟩ := hfinish
    have hmethods : raw.authMethods = _ := congrArg (·.2.2) (Resolver.heading_rawEndpoint hraw)
    exact ⟨hpath.trans hspec.path, hmethod.trans hspec.httpMethod,
      (Setup.finishEndpoint_keeps hstages).2.2.trans hmethods⟩

lemma sites_arranged_perm (d : Document) : d.arranged.sites.Perm d.sites :=
  d.paths.entries_sortByKey_perm.flatMap_right _

/-- **Every endpoint has the ways to authenticate that its operation asks for.** The endpoints come
in chunks, one for each operation and none of them empty. Each of them has one way to authenticate
for every scheme that the requirements in force mention and the components define, in the order of
the first mentions, and its scopes are those of all mentions.

The methods of an endpoint are gathered from the document that is lowered. It has the same
operations with the same requirements, each once, and the same schemes; leaving out requirements
that are there twice changes neither what is mentioned nor the order. -/
theorem authMethods_of_lowered (h : d.lowered o = .ok (program, warnings))
    (honce : d.RequiresOnce) :
    ∃ sites chunks, sites.Perm d.sites ∧ program.endpoints = chunks.flatten ∧
      List.Forall₂ (fun s es => es ≠ [] ∧ ∀ e ∈ es, d.Guards s e) sites chunks := by
  obtain ⟨chunks, hchunks, hmade⟩ := made_authMethods_of_lowered h
  have hdemands : List.Forall₂ (fun x es => es ≠ [] ∧ ∀ e ∈ es, e.path = x.1 ∧
      e.httpMethod = x.2.1.text ∧ e.authMethods = (d.prepared o).authMethods { security := x.2.2 })
      (d.prepared o).demands chunks := List.forall₂_map_left_iff.2 hmade
  rw [demands_prepared, demands, List.forall₂_map_left_iff, List.forall₂_map_left_iff] at hdemands
  have hkeys : ∀ s ∈ d.arranged.sites, ∀ r ∈ d.requirements s.operation, r.keys.Nodup :=
    fun s hs => honce s (d.sites_arranged_perm.subset hs)
  refine ⟨d.arranged.sites, chunks, d.sites_arranged_perm, hchunks,
    ((List.forall₂_and_left _ _).2 ⟨hkeys, hdemands⟩).imp ?_⟩
  rintro s es ⟨hkeys, hne, hes⟩
  refine ⟨hne, fun e he => ?_⟩
  obtain ⟨hpath, hmethod, hmethods⟩ := hes e he
  refine ⟨hpath, hmethod, _, d.inForce_requirements s.operation, ?_⟩
  rw [hmethods]
  have hgathers := AuthMethod.gathers_authMethods (d.prepared o)
    { security := s.operation.security.map distinct }
  rw [schemeMentions, requirements_prepared] at hgathers
  exact hgathers.of_distinct hkeys (d.find?_securitySchemes_prepared o)

/-- Pets are listed with what the document asks for, named with what their own requirements ask for,
and counted with nothing. -/
theorem authMethods_of_lowered_guardedPets : ∃ program warnings,
    guardedPets.lowered {} = .ok (program, warnings) ∧
    (program.endpoints.map fun e => (e.httpMethod, e.authMethods.map fun a => (a.name, a.scopes))) =
      [("GET", [("key", []), ("token", ["read"])]),
        ("POST", [("token", ["write", "read"]), ("key", [])]), ("HEAD", [])] ∧
    guardedPets.RequiresOnce ∧
    ∃ sites chunks, sites.Perm guardedPets.sites ∧ program.endpoints = chunks.flatten ∧
      List.Forall₂ (fun s es => es ≠ [] ∧ ∀ e ∈ es, guardedPets.Guards s e) sites chunks := by
  have honce : guardedPets.RequiresOnce := by decide +kernel
  obtain ⟨program, warnings, h, hmethods⟩ := exists_lowered (d := guardedPets) (o := {})
    (P := fun program => (program.endpoints.map fun e =>
      (e.httpMethod, e.authMethods.map fun a => (a.name, a.scopes))) =
        [("GET", [("key", []), ("token", ["read"])]),
          ("POST", [("token", ["write", "read"]), ("key", [])]), ("HEAD", [])])
    (by decide +kernel)
  exact ⟨program, warnings, h, hmethods, honce, authMethods_of_lowered h honce⟩

end Document

end ApiLowering
