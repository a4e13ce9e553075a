import ApiLowering.Endpoints.Raw
import ApiLowering.Proofs.Canonical.Document
import ApiLowering.Proofs.Document.Samples
import ApiLowering.Proofs.Hoisting.Restoration
import ApiLowering.Proofs.Run.Steps

/-!
# The parameters of operations

In its canonical form a document declares the parameters of a path with each of its operations, one
for each name and location. Hoisting changes schemas only, and so leaves them as they are.

What a path declares for all of its operations is the same as what each of them declares after its
own parameters. The canonical form makes no difference between the two: it moves the parameters of a
path to its operations, where the first declaration of each one counts.

## Main definitions

* `Document.DeclaresOnce` — operations declare all of their parameters, and each of them once.
* `Document.withSharedParameters` — the document whose operations declare the parameters of their
  paths themselves.
* `FirstsOf` — the parameters that are declared first, with canonical schemas.
* `Document.MergesParameters` — whether a document has them instead of those of another one.

## Main results

* `Document.declaresOnce_hoisted_canonical` — operations declare once in a canonical document that
  is hoisted.
* `Components.declaredParameters_eq` — the parameters of an operation that declares each once.
* `Setup.canonicalDocument_withSharedParameters` — the canonical form of a document is that of the
  one without shared parameters, and each of its operations has the first declarations.
-/

namespace ApiLowering

open Hoisting Canonical

/-! ## Other schemas -/

section OtherSchemas

variable (f : SchemaRef → SchemaRef)

/-- The operation at its place, with other schemas. -/
def Site.mapSchemas (s : Site) : Site :=
  { s with
    item := HasSchemas.mapSchemas f s.item
    operation := HasSchemas.mapSchemas f s.operation }

lemma Document.sites_mapSchemas (d : Document) :
    (mapSchemas f d).sites = d.sites.map (Site.mapSchemas f) := by
  change (d.paths.map (mapSchemas f)).entries.flatMap _ = (d.paths.entries.flatMap _).map _
  rw [List.map_flatMap, Table.map, List.flatMap_map]
  refine List.flatMap_congr fun x _ => ?_
  change ((mapSchemas f x.2).operations).map _ = _
  rw [PathItem.operations_mapSchemas, List.map_map, List.map_map]
  rfl

end OtherSchemas

/-! ## Documents that declare once -/

namespace Document

variable (d : Document)

/-- Operations declare all of their parameters themselves, and each of them once. -/
def DeclaresOnce : Prop :=
  ∀ s ∈ d.sites, s.item.parameters = [] ∧
    (s.operation.parameters.map d.parts.parameterKey).Nodup

variable {d}

/-- Schemas make no difference to what operations declare. -/
lemma declaresOnce_mapSchemas_iff (f : SchemaRef → SchemaRef) :
    (mapSchemas f d).DeclaresOnce ↔ d.DeclaresOnce := by
  have hsite (s : Site) : ((s.mapSchemas f).item.parameters = [] ∧
      ((s.mapSchemas f).operation.parameters.map (mapSchemas f d.parts).parameterKey).Nodup) ↔
        (s.item.parameters = [] ∧ (s.operation.parameters.map d.parts.parameterKey).Nodup) := by
    refine and_congr List.map_eq_nil_iff ?_
    change ((s.operation.parameters.map (mapSchemas f)).map _).Nodup ↔ _
    rw [List.map_map]
    simp only [Function.comp_def, Components.parameterKey_mapSchemas]
  rw [DeclaresOnce, sites_mapSchemas, List.forall_mem_map, parts_mapSchemas]
  exact forall₂_congr fun s _ => hsite s

variable (d) (sw : Switches) (rules : Rules)

lemma exists_canonicalOperation {c : Components} {item : PathItem} {m : HttpMethod} {op : Operation}
    (h : (m, op) ∈ (c.canonicalPath sw item).operations) :
    ∃ op', op = c.canonicalOperation sw item.parameters op' := by
  rw [Components.operations_canonicalPath] at h
  obtain ⟨e, -, heq⟩ := List.mem_map.1 h
  exact ⟨e.2, (congrArg Prod.snd heq).symm⟩

/-- The operations of a canonical document are canonical themselves, and have the parameters of
their paths. -/
lemma exists_of_mem_sites_canonical {s : Site} (hs : s ∈ (d.canonical sw).sites) :
    s.item.parameters = [] ∧ ∃ shared op,
      s.operation = d.arranged.withCopies.parts.canonicalOperation sw shared op := by
  obtain ⟨⟨path, item⟩, hpath, hs⟩ := List.mem_flatMap.1 hs
  obtain ⟨⟨m, op⟩, hop, rfl⟩ := List.mem_map.1 hs
  obtain ⟨⟨path', item'⟩, -, heq⟩ := List.mem_map.1
    (show (path, item) ∈ (d.arranged.withCopies.paths.map
      (d.arranged.withCopies.parts.canonicalPath sw)).entries from hpath)
  obtain ⟨rfl, rfl⟩ := Prod.mk.inj heq
  obtain ⟨op', rfl⟩ := exists_canonicalOperation sw hop
  exact ⟨rfl, item'.parameters, op', rfl⟩

/-- **The canonical form declares every parameter once.** -/
theorem declaresOnce_canonical : (d.canonical sw).DeclaresOnce := by
  have hparts : (d.canonical sw).parts = d.arranged.withCopies.parts.canonical sw := by
    rw [parts_canonical, parts_arranged_withCopies]
  rintro s hs
  obtain ⟨hitem, shared, op, hop⟩ := exists_of_mem_sites_canonical d sw hs
  refine ⟨hitem, ?_⟩
  rw [hparts, hop]
  change (((Components.allParameters _ _ _).map _).map _).Nodup
  rw [List.map_map]
  simp only [Function.comp_def, Components.parameterKey_canonical]
  exact map_distinctBy_nodup _ _

/-- **So does the canonical form when its schemas are hoisted.** -/
theorem declaresOnce_hoisted_canonical : ((d.canonical sw).hoisted rules).DeclaresOnce := by
  refine hoisted_induction _ rules (fun f _ => declaresOnce_mapSchemas_iff f) (fun e added h => ?_)
    (declaresOnce_canonical d sw)
  rw [withSchemas]
  split <;> exact h

end Document

/-! ## Parameters that are declared once -/

/-- A new element goes to the end. -/
lemma putBy_of_forall {α : Type} {same : α → α → Bool} {x : α} {xs : List α}
    (h : ∀ y ∈ xs, same y x = false) : putBy same x xs = xs ++ [x] := by
  induction xs with
  | nil => rfl
  | cons y rest ih =>
    rw [putBy, if_neg (by simp [h y]), ih fun z hz => h z (List.mem_cons_of_mem _ hz)]
    rfl

/-- Elements of which no two are equal go to the end, in order. -/
lemma foldl_putBy {α : Type} {same : α → α → Bool} {xs start : List α}
    (h : (start ++ xs).Pairwise fun x y => same x y = false) :
    xs.foldl (fun ys x => putBy same x ys) start = start ++ xs := by
  induction xs generalizing start with
  | nil => exact (List.append_nil _).symm
  | cons x xs ih =>
    have hx : ∀ y ∈ start, same y x = false := fun y hy =>
      (List.pairwise_append.1 h).2.2 y hy x List.mem_cons_self
    rw [List.foldl_cons, putBy_of_forall hx, ih (by rwa [List.append_assoc]), List.append_assoc]
    rfl

namespace Components

variable {c : Components}

lemma parameterKey_of_eq_ok {r : ParameterRef} {p : Parameter} (h : c.parameter r = .ok p) :
    c.parameterKey r = (p.name, some p.location) := by
  unfold parameterKey
  rw [h]

/-- The parameters of an operation, each in the place of its namesake if there is one. -/
lemma exists_mapM_of_foldlM {rs : List ParameterRef} {start ps : List Parameter}
    (h : rs.foldlM (fun ps r => return putBy Parameter.isNamesake (← c.parameter r) ps) start =
      .ok ps) :
    ∃ qs, rs.mapM c.parameter = .ok qs ∧
      ps = qs.foldl (fun ps q => putBy Parameter.isNamesake q ps) start := by
  induction rs generalizing start with
  | nil =>
    rw [List.foldlM_nil] at h
    exact ⟨[], rfl, (Except.ok.inj h).symm⟩
  | cons r rs ih =>
    rw [List.foldlM_cons] at h
    cases hr : c.parameter r with
    | error f =>
      rw [hr] at h
      cases h
    | ok q =>
      rw [hr] at h
      obtain ⟨qs, hqs, rfl⟩ := ih h
      refine ⟨q :: qs, ?_, rfl⟩
      rw [List.mapM_cons, hr, hqs]
      rfl

/-- **The parameters of an operation that declares each once** are those that it declares. -/
theorem declaredParameters_eq {item : PathItem} {op : Operation} {ps : List Parameter}
    (hitem : item.parameters = []) (hkeys : (op.parameters.map c.parameterKey).Nodup)
    (h : c.declaredParameters item op = .ok ps) :
    op.parameters.mapM c.parameter = .ok ps ∧ ps.Pairwise fun p q => p.isNamesake q = false := by
  rw [declaredParameters, hitem, List.nil_append] at h
  obtain ⟨qs, hqs, rfl⟩ := exists_mapM_of_foldlM h
  have hmap : op.parameters.map c.parameterKey = qs.map fun q => (q.name, some q.location) := by
    rw [← List.forall₂_eq_eq_eq, List.forall₂_map_left_iff, List.forall₂_map_right_iff]
    exact (forall₂_of_mapM_eq_ok hqs).imp fun r q => parameterKey_of_eq_ok
  have hdifferent : qs.Pairwise fun p q => p.isNamesake q = false := by
    rw [hmap, List.Nodup, List.pairwise_map] at hkeys
    refine hkeys.imp fun {p q} hpq => ?_
    rw [Parameter.isNamesake, Bool.eq_false_iff]
    rintro hsame
    obtain ⟨hname, hlocation⟩ := Bool.and_eq_true_iff.1 hsame
    exact hpq (by rw [eq_of_beq hname, eq_of_beq hlocation])
  rw [foldl_putBy (by simpa using hdifferent), List.nil_append]
  exact ⟨hqs, hdifferent⟩

end Components

/-! ## Handing parameters down -/

/-- An operation that declares more parameters, after its own. -/
def Operation.withParameters (shared : List ParameterRef) (op : Operation) : Operation :=
  { op with parameters := op.parameters ++ shared }

/-- A path whose operations declare its parameters themselves. -/
def PathItem.withSharedParameters (p : PathItem) : PathItem :=
  HttpMethod.all.foldl
    (fun q m => q.setOperation m ((q.operation? m).map (Operation.withParameters p.parameters)))
    { p with parameters := [] }

/-- A document whose operations declare the parameters of their paths themselves. -/
def Document.withSharedParameters (d : Document) : Document :=
  { d with
    paths := d.paths.map PathItem.withSharedParameters
    webhooks := d.webhooks.map PathItem.withSharedParameters }

namespace PathItem

lemma operation?_withSharedParameters (p : PathItem) (m : HttpMethod) :
    p.withSharedParameters.operation? m =
      (p.operation? m).map (Operation.withParameters p.parameters) := by
  cases m <;> rfl

lemma operations_withSharedParameters (p : PathItem) :
    p.withSharedParameters.operations =
      p.operations.map fun e => (e.1, e.2.withParameters p.parameters) := by
  rw [operations, operations, List.map_filterMap]
  refine List.filterMap_congr fun m _ => ?_
  rw [operation?_withSharedParameters, Option.map_map, Option.map_map]
  rfl

end PathItem

/-! ## The canonical form -/

namespace Components

variable (c : Components) (sw : Switches)

lemma canonicalOperation_withParameters (shared : List ParameterRef) (op : Operation) :
    c.canonicalOperation sw [] (op.withParameters shared) = c.canonicalOperation sw shared op := by
  rw [canonicalOperation, canonicalOperation, allParameters, allParameters, List.append_nil]
  rfl

lemma canonicalPath_withSharedParameters (p : PathItem) :
    c.canonicalPath sw p.withSharedParameters = c.canonicalPath sw p := by
  have hmap (op : Option Operation) :
      (op.map (Operation.withParameters p.parameters)).map (c.canonicalOperation sw []) =
        op.map (c.canonicalOperation sw p.parameters) := by
    rw [Option.map_map]
    exact congrArg (op.map ·) (funext (c.canonicalOperation_withParameters sw p.parameters))
  rw [canonicalPath_eq, canonicalPath_eq, ← hmap p.get, ← hmap p.put, ← hmap p.post,
    ← hmap p.delete, ← hmap p.options, ← hmap p.head, ← hmap p.patch, ← hmap p.trace]
  rfl

end Components

namespace Document

variable (d : Document) (sw : Switches)

lemma arranged_withSharedParameters :
    d.withSharedParameters.arranged = d.arranged.withSharedParameters := by
  simp only [arranged, withSharedParameters, Table.sortByKey_map]

lemma canonicalParts_withSharedParameters :
    d.withSharedParameters.canonicalParts sw = d.canonicalParts sw := by
  have hmap (t : Table PathItem) :
      (t.map PathItem.withSharedParameters).map (d.parts.canonicalPath sw) =
        t.map (d.parts.canonicalPath sw) := by
    rw [Table.map_map]
    exact congrArg t.map (funext (d.parts.canonicalPath_withSharedParameters sw))
  rw [canonicalParts, canonicalParts, ← hmap d.paths, ← hmap d.webhooks]
  rfl

/-- Who declares a parameter makes no difference to the canonical form. -/
lemma canonical_withSharedParameters : d.withSharedParameters.canonical sw = d.canonical sw := by
  rw [canonical, canonical, arranged_withSharedParameters]
  exact canonicalParts_withSharedParameters d.arranged.withCopies sw

/-- Nor does it to the warnings. -/
lemma danglingReferences_withSharedParameters :
    d.withSharedParameters.danglingReferences = d.danglingReferences := by
  have hresponses (items : List PathItem) (f : Operation → List String)
      (hf : ∀ shared op, f (op.withParameters shared) = f op) :
      ((items.map PathItem.withSharedParameters).flatMap fun p =>
        p.operations.map Prod.snd).flatMap f =
      (items.flatMap fun p => p.operations.map Prod.snd).flatMap f := by
    rw [List.flatMap_map, List.flatMap_assoc, List.flatMap_assoc]
    refine List.flatMap_congr fun p _ => ?_
    rw [PathItem.operations_withSharedParameters, List.map_map, List.flatMap_map, List.flatMap_map]
    exact List.flatMap_congr fun e _ => hf p.parameters e.2
  rw [danglingReferences, danglingReferences, arranged_withSharedParameters]
  refine congrArg (_ ++ ·) ?_
  rw [allOperations, allOperations]
  have hvalues : d.arranged.withSharedParameters.withCopies.paths.values ++
      d.arranged.withSharedParameters.withCopies.webhooks.values =
        (d.arranged.withCopies.paths.values ++ d.arranged.withCopies.webhooks.values).map
          PathItem.withSharedParameters := by
    rw [List.map_append, ← Table.values_map, ← Table.values_map]
    rfl
  rw [hvalues]
  exact hresponses _ _ fun _ _ => rfl

end Document

/-! ## What parameters are told apart by -/

namespace Components

variable {c c' : Components}

/-- What references to parameters lead to depends on what the table of parameters answers. -/
lemma parameter_eq_ok_iff (h : ∀ key, c'.parameters.find? key = c.parameters.find? key)
    (r : ParameterRef) (p : Parameter) : c'.parameter r = .ok p ↔ c.parameter r = .ok p := by
  cases r with
  | inline => rfl
  | ref path =>
    have hfollow (e : Components) : e.parameter (.ref path) = .ok p ↔
        ∃ keys last, Reference.Leads "parameters" e.parameters path keys last p := by
      constructor
      · intro hp
        cases hfound : Reference.follow "parameters" e.parameters .unresolved e.parameters.keys
            path with
        | error f => rw [parameter, hfound] at hp; cases hp
        | ok found =>
          rw [parameter, hfound] at hp
          cases hp
          obtain ⟨keys, hleads⟩ := Reference.follow_eq_ok_iff.1 hfound
          exact ⟨keys, found.1, hleads⟩
      · rintro ⟨keys, last, hleads⟩
        rw [parameter, Reference.follow_eq_ok_iff.2 ⟨keys, hleads⟩]
        rfl
    rw [hfollow, hfollow]
    exact exists₂_congr fun keys last => ⟨fun hl => hl.of_find?_eq fun key => (h key).symm,
      fun hl => hl.of_find?_eq h⟩

/-- So does what they are told apart by. -/
lemma parameterKey_eq (h : ∀ key, c'.parameters.find? key = c.parameters.find? key)
    (r : ParameterRef) : c'.parameterKey r = c.parameterKey r := by
  cases hr : c.parameter r with
  | ok p =>
    rw [parameterKey_of_eq_ok hr, parameterKey_of_eq_ok ((parameter_eq_ok_iff h r p).2 hr)]
  | error f =>
    cases hr' : c'.parameter r with
    | ok p => rw [(parameter_eq_ok_iff h r p).1 hr'] at hr; cases hr
    | error f' =>
      unfold parameterKey
      rw [hr, hr']
      cases r <;> rfl

end Components

/-- Parameters are told apart in the canonical form as they are in the document. -/
lemma Document.parameterKey_canonical (d : Document) (sw : Switches) (p : ParameterRef) :
    (d.canonical sw).parts.parameterKey (p.mapInline (Parameter.canonical sw)) =
      d.parts.parameterKey p := by
  rw [Document.parts_canonical, Components.parameterKey_canonical]
  exact Components.parameterKey_eq (fun key => Table.find?_sortByKey _ key) p

/-! ## First declarations -/

/-- The parameters of a list that are declared first, with canonical schemas. Those of the list are
told apart in one document, the others in another one. -/
structure FirstsOf (sw : Switches) (c c' : Components) (all firsts : List ParameterRef) : Prop where
  /-- Nothing is declared twice. -/
  nodup : (firsts.map c'.parameterKey).Nodup
  /-- Of several declarations the first one stays. -/
  find? : ∀ k, firsts.find? (c'.parameterKey · == k) =
    (all.find? (c.parameterKey · == k)).map (Referable.mapInline (Parameter.canonical sw))
  /-- They stay in order. -/
  sublist : firsts.Sublist (all.map (Referable.mapInline (Parameter.canonical sw)))

/-- Whether a path is another one with the parameters of the path merged into its operations, which
declare their own ones first. -/
structure PathItem.Merges (sw : Switches) (c c' : Components) (p q : PathItem) : Prop where
  parameters : q.parameters = []
  operations : ∀ m, Option.Rel
    (fun op op' => FirstsOf sw c c' (op.parameters ++ p.parameters) op'.parameters)
    (p.operation? m) (q.operation? m)

/-- Whether a document has the paths of another one, and its webhooks with operations, in the order
of their names and with the parameters of paths merged into the operations. -/
structure Document.MergesParameters (sw : Switches) (d d' : Document) : Prop where
  paths : List.Forall₂ (fun e e' => e.1 = e'.1 ∧ e.2.Merges sw d.parts d'.parts e'.2)
    d.paths.sortByKey.entries d'.paths.entries
  webhooks : List.Forall₂ (fun e e' => e.1 = e'.1 ∧ e.2.Merges sw d.parts d'.parts e'.2)
    (d.webhooks.sortByKey.filter fun _ p => !p.operations.isEmpty).entries d'.webhooks.entries

/-- The first declarations of a list are first declarations in canonical form, too. -/
lemma firstsOf_allParameters {sw : Switches} {c e c' : Components}
    (he : ∀ p, e.parameterKey p = c.parameterKey p)
    (hc' : ∀ p, c'.parameterKey (p.mapInline (Parameter.canonical sw)) = c.parameterKey p)
    (own shared : List ParameterRef) :
    FirstsOf sw c c' (own ++ shared)
      ((e.allParameters own shared).map (Referable.mapInline (Parameter.canonical sw))) := by
  have hkey : e.parameterKey = c.parameterKey := funext he
  have hkey' : c'.parameterKey ∘ Referable.mapInline (Parameter.canonical sw) = c.parameterKey :=
    funext hc'
  rw [Components.allParameters, hkey]
  refine ⟨?_, fun k => ?_, (distinctWith_sublist _ _).map _⟩
  · rw [List.map_map, hkey']
    exact map_distinctBy_nodup _ _
  · rw [List.find?_map, ← find?_distinctBy, ← hkey']
    rfl

namespace Document

variable (d : Document) (sw : Switches)

/-- A path of the canonical form has its parameters merged into its operations. -/
lemma merges_canonicalPath (p : PathItem) : p.Merges sw d.parts (d.canonical sw).parts
    (d.arranged.withCopies.parts.canonicalPath sw p) := by
  have hkeys (r : ParameterRef) :
      d.arranged.withCopies.parts.parameterKey r = d.parts.parameterKey r := by
    rw [parts_arranged_withCopies]
    exact Components.parameterKey_eq (fun key => Table.find?_sortByKey _ key) r
  refine ⟨rfl, fun m => ?_⟩
  rw [Components.operation?_canonicalPath]
  cases p.operation? m with
  | none => exact .none
  | some op => exact .some (firstsOf_allParameters hkeys (d.parameterKey_canonical sw) _ _)

lemma operations_canonicalPath_isEmpty (c : Components) (p : PathItem) :
    (c.canonicalPath sw p).operations.isEmpty = p.operations.isEmpty := by
  rw [Components.operations_canonicalPath, List.isEmpty_map]

/-- The canonical form has the parameters of paths merged into the operations. -/
lemma mergesParameters_canonical : d.MergesParameters sw (d.canonical sw) := by
  have hentries (es : List (String × PathItem)) :
      List.Forall₂ (fun e e' => e.1 = e'.1 ∧ e.2.Merges sw d.parts (d.canonical sw).parts e'.2) es
        (es.map fun e => (e.1, d.arranged.withCopies.parts.canonicalPath sw e.2)) := by
    rw [List.forall₂_map_right_iff]
    exact List.forall₂_same.2 fun e _ => ⟨rfl, d.merges_canonicalPath sw e.2⟩
  refine ⟨hentries _, ?_⟩
  have hwebhooks : (d.canonical sw).webhooks.entries =
      (d.webhooks.sortByKey.filter fun _ p => !p.operations.isEmpty).entries.map fun e =>
        (e.1, d.arranged.withCopies.parts.canonicalPath sw e.2) := by
    change (List.map _ d.webhooks.sortByKey.entries).filter _ = List.map _ (List.filter _ _)
    rw [List.filter_map]
    simp only [Function.comp_def, operations_canonicalPath_isEmpty]
  rw [hwebhooks]
  exact hentries _

end Document

namespace Setup

/-- Every document comes into canonical form. -/
lemma exists_canonicalDocument_eq_ok (setup : Setup) (d : Document) (s : Session) :
    ∃ s', setup.canonicalDocument d s =
      .ok (d.canonical (.ofTable setup.options.openapiNormalizer), s') := by
  rw [canonicalDocument]
  obtain ⟨t, hknown⟩ := Lowering.exists_forIn_eq_ok
    (fun key t => ⟨_, rfl⟩) (unknownSwitches setup.options.openapiNormalizer) s
  obtain ⟨t', hdangling⟩ := Lowering.exists_forIn_eq_ok (fun message t => ⟨_, rfl⟩)
    d.danglingReferences t
  exact ⟨t', Lowering.bind_eq_ok_iff.2 ⟨_, t, hknown,
    Lowering.bind_eq_ok_iff.2 ⟨_, t', hdangling, rfl⟩⟩⟩

/-- **Shared parameters are first declarations at each operation.** A document whose operations
declare the parameters of their paths themselves, after their own, has the same canonical form and
gives the same warnings. In that form no path has parameters of its own; an operation declares
nothing twice, and of all that it and its path declare it has the first declarations. -/
theorem canonicalDocument_withSharedParameters (setup : Setup) (d : Document) :
    setup.canonicalDocument d.withSharedParameters = setup.canonicalDocument d ∧
      ∀ s, ∃ result s', setup.canonicalDocument d s = .ok (result, s') ∧
        d.MergesParameters (.ofTable setup.options.openapiNormalizer) result := by
  constructor
  · rw [canonicalDocument, canonicalDocument, d.danglingReferences_withSharedParameters,
      d.canonical_withSharedParameters]
  · intro s
    obtain ⟨s', h⟩ := setup.exists_canonicalDocument_eq_ok d s
    exact ⟨_, s', h, d.mergesParameters_canonical _⟩

end Setup

end ApiLowering
