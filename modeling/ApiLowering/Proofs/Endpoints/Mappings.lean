import ApiLowering.Proofs.Document.Samples
import ApiLowering.Proofs.Endpoints.Views
import ApiLowering.Proofs.Run.Steps

/-!
# Mappings of arguments

A mapping takes the arguments away that it is for, and puts one of its own after the others. The
mappings of a program are applied one after the other to the same list. Still their effect is said
of the arguments that were there before: what one mapping introduces travels nowhere, so no other
one is for it, and an argument that several mappings are for belongs to the first of them.

## Main definitions

* `ParameterMapping.Matches` — an argument has all that a mapping asks for.
* `ParameterMapping.introducing` — the mappings that introduce an argument.
* `Setup.Introduces` — an argument is the one that a mapping introduces.
* `Argument.Located` — mappings see an argument at the place where it travels.

## Main results

* `Setup.mapArguments_eq_ok` — the arguments after all mappings.
* `Resolver.MakesEndpoint.located` — every argument of an operation travels at one place, and is
  seen there by mappings.
* `Resolver.MakesEndpoint.mappedArguments` — the arguments of an operation after all mappings.
-/

namespace ApiLowering

/-! ## What mappings are for -/

namespace MappedLocation

/-- All locations. -/
def all : List MappedLocation := [query, header, path, cookie, body, form]

lemma mem_all (l : MappedLocation) : l ∈ all := by
  cases l <;> decide

end MappedLocation

namespace ParameterMapping

/-- A mapping matches an argument: it travels somewhere, and has the base name, the location and the
type that the mapping asks for. -/
structure Matches (m : ParameterMapping) (a : Argument) : Prop where
  baseName : ∀ name ∈ m.name, name = a.baseName
  location : ∃ place, a.travels place = true ∧ ∀ l ∈ m.location, l = place
  dataType : ∀ t ∈ m.dataType, t = a.type.dataType

lemma fits_iff {m : ParameterMapping} {baseName dataType : String} {place : MappedLocation} :
    m.fits baseName place dataType = true ↔ (∀ name ∈ m.name, name = baseName) ∧
      (∀ l ∈ m.location, l = place) ∧ ∀ t ∈ m.dataType, t = dataType := by
  simp [fits, Option.all_eq_true, and_assoc]

lemma matches_iff {m : ParameterMapping} {a : Argument} : m.Matches a ↔
    MappedLocation.all.any (fun place =>
      a.travels place && m.fits a.baseName place a.type.dataType) = true := by
  simp only [List.any_eq_true, Bool.and_eq_true, fits_iff, MappedLocation.mem_all, true_and]
  constructor
  · rintro ⟨hname, ⟨place, htravels, hplace⟩, htype⟩
    exact ⟨place, htravels, hname, hplace, htype⟩
  · rintro ⟨place, htravels, hname, hplace, htype⟩
    exact ⟨hname, ⟨place, htravels, hplace⟩, htype⟩

instance (m : ParameterMapping) (a : Argument) : Decidable (m.Matches a) :=
  decidable_of_iff _ matches_iff.symm

/-- The mappings with a type that are for an argument which no earlier one is for. -/
def introducing (isFor : ParameterMapping → Argument → Bool) (ms : List ParameterMapping)
    (as : List Argument) : List ParameterMapping :=
  (ms.zipIdx.filter fun e => e.1.mappedType.isSome &&
    as.any fun a => isFor e.1 a && (ms.take e.2).all (!isFor · a)).map Prod.fst

variable {isFor isFor' : ParameterMapping → Argument → Bool} {ms : List ParameterMapping}
  {as : List Argument}

/-- The last mapping introduces an argument if it is for one that is left. -/
lemma introducing_concat (m : ParameterMapping) :
    introducing isFor (ms ++ [m]) as = introducing isFor ms as ++
      if m.mappedType.isSome && (as.filter fun a => ms.all (!isFor · a)).any (isFor m) then [m]
      else [] := by
  have hbefore : ms.zipIdx.filter (fun e => e.1.mappedType.isSome &&
        as.any fun a => isFor e.1 a && ((ms ++ [m]).take e.2).all (!isFor · a)) =
      ms.zipIdx.filter fun e => e.1.mappedType.isSome &&
        as.any fun a => isFor e.1 a && (ms.take e.2).all (!isFor · a) := by
    refine List.filter_congr fun e hmem => ?_
    rw [List.take_append_of_le_length (List.snd_lt_of_mem_zipIdx hmem).le]
  rw [introducing, List.zipIdx_append, List.filter_append, hbefore, List.map_append]
  refine congrArg _ ?_
  rw [List.any_filter, List.zipIdx_singleton, List.filter_singleton, Nat.zero_add, List.take_left]
  simp only [Bool.and_comm, Bool.cond_eq_ite]
  split <;> rfl

lemma introducing_congr (h : ∀ a ∈ as, ∀ m, isFor m a = isFor' m a) :
    introducing isFor ms as = introducing isFor' ms as := by
  rw [introducing, introducing]
  refine congrArg _ (List.filter_congr fun e _ => congrArg _ ?_)
  rw [Bool.eq_iff_iff, List.any_eq_true, List.any_eq_true]
  refine exists_congr fun a => and_congr_right fun ha => ?_
  simp only [h a ha]

end ParameterMapping

/-- The arguments of views that are made anew say how many plain ones there are. -/
lemma Endpoint.allParams_projected (e : Endpoint) :
    e.projected.allParams = e.allParams.map (·.counted e.projected.plainCount) := by
  have hcount : e.projected.plainCount = e.plainCount := e.length_swaggerParams_projected
  rw [hcount]
  rfl

/-! ## What mappings introduce -/

/-- No mapping of arguments is for an argument. -/
def Options.leaves (o : Options) (a : Argument) : Bool := o.parameterMappings.all (!·.claims a)

namespace Setup

/-- An argument is the one that a mapping introduces. -/
def Introduces (setup : Setup) (m : ParameterMapping) (a : Argument) : Prop :=
  ∃ mappedType paramName, m.mappedType = some mappedType ∧
    setup.mappedName m (TypeName.simple mappedType) = .ok paramName ∧
    a = .ofMapping m (TypeName.simple mappedType) paramName

/-- An argument under the name that it has after all mappings: in the plural if the options say so,
and the name takes it. -/
def named (setup : Setup) (a : Argument) : Argument :=
  if setup.options.plural && a.takesPlural then { a with paramName := Text.plural a.paramName }
  else a

lemma map_named (setup : Setup) (as : List Argument) :
    as.map setup.named = if setup.options.plural then as.map (·.pluralized) else as := by
  unfold named
  cases setup.options.plural with
  | true => rfl
  | false => exact List.map_id as

variable {setup : Setup} {e e' : Endpoint} {s s' : Session} {m : ParameterMapping} {a : Argument}

lemma introduces_mappedArgument {mappedType : String} {imports : NameSet}
    {out : Argument × NameSet} (htype : m.mappedType = some mappedType)
    (h : setup.mappedArgument m mappedType imports s = .ok (out, s')) :
    setup.Introduces m out.1 := by
  obtain ⟨paramName, _, -, hparam, hout⟩ := mappedArgument_eq_ok h
  exact ⟨mappedType, paramName, htype, hparam, hout⟩

namespace Introduces

/-- What a mapping introduces travels nowhere. -/
lemma travels (h : setup.Introduces m a) (l : MappedLocation) : a.travels l = false := by
  obtain ⟨_, _, -, -, rfl⟩ := h
  cases l <;> rfl

/-- So it is for no other mapping. -/
lemma claims (h : setup.Introduces m a) (other : ParameterMapping) : other.claims a = false := by
  obtain ⟨_, _, -, -, rfl⟩ := h
  rfl

lemma not_matches (h : setup.Introduces m a) (other : ParameterMapping) : ¬other.Matches a := by
  rintro ⟨-, ⟨place, hplace, -⟩, -⟩
  rw [h.travels] at hplace
  cases hplace

lemma named (h : setup.Introduces m a) : setup.named a = a := by
  obtain ⟨_, _, -, -, rfl⟩ := h
  exact if_neg (by rw [Bool.and_eq_true]; exact fun hplural => Bool.false_ne_true hplural.2)

end Introduces

/-- Mappings are not for what others introduce. -/
lemma filter_claims_of_forall₂ {ms : List ParameterMapping} {added : List Argument}
    (h : List.Forall₂ setup.Introduces ms added) (m : ParameterMapping) :
    added.filter m.claims = [] := by
  refine List.filter_eq_nil_iff.2 fun a ha => ?_
  obtain ⟨_, -, hintroduces⟩ := exists_mem_right_of_forall₂ h ha
  rw [hintroduces.claims m]
  exact Bool.false_ne_true

/-! ## One mapping after the other -/

/-- One mapping keeps exactly the arguments that it is not for, and introduces one if there are
others. -/
lemma exists_mapArgument_eq (h : setup.mapArgument e m s = .ok (e', s')) :
    ∃ added, e'.allParams = e.allParams.filter (!m.claims ·) ++ added ∧
      List.Forall₂ setup.Introduces
        (if m.mappedType.isSome && e.allParams.any m.claims then [m] else []) added := by
  obtain ⟨hnone, rfl⟩ | ⟨mappedType, out, htype, hany, hout, rfl⟩ := mapArgument_cases h
  · rw [hnone]
    exact ⟨[], (List.append_nil _).symm, .nil⟩
  · rw [htype, hany]
    exact ⟨[out.1], rfl, .cons (introduces_mappedArgument htype hout) .nil⟩

/-- **The third stage keeps exactly the arguments that no mapping is for.** What it adds is one
argument for each mapping that introduces one. -/
theorem mapArguments_eq_ok (h : setup.mapArguments e s = .ok (e', s')) :
    ∃ added, List.Forall₂ setup.Introduces
        (ParameterMapping.introducing ParameterMapping.claims setup.options.parameterMappings
          e.allParams) added ∧
      e'.allParams = ((e.allParams.filter setup.options.leaves).map setup.named ++ added).map
        (·.counted e'.plainCount) := by
  obtain ⟨mapped, hfold, rfl⟩ := exists_foldlM_of_mapArguments h
  have hmapped : ∃ added, List.Forall₂ setup.Introduces
      (ParameterMapping.introducing ParameterMapping.claims setup.options.parameterMappings
        e.allParams) added ∧
      mapped.allParams = e.allParams.filter setup.options.leaves ++ added := by
    refine Lowering.foldlM_induction (P := fun ms x => ∃ added, List.Forall₂ setup.Introduces
      (ParameterMapping.introducing ParameterMapping.claims ms e.allParams) added ∧
      x.allParams = e.allParams.filter (fun a => ms.all (!·.claims a)) ++ added) hfold
      ⟨[], .nil, by simp⟩ ?_
    rintro ms m - x t x' t' ⟨added, hadded, hall⟩ hstep
    obtain ⟨new, hall', hnew⟩ := exists_mapArgument_eq hstep
    have hnone := filter_claims_of_forall₂ hadded m
    have hkept : added.filter (!m.claims ·) = added := by
      refine List.filter_eq_self.2 fun a ha => ?_
      simpa using List.filter_eq_nil_iff.1 hnone a ha
    refine ⟨added ++ new, ?_, ?_⟩
    · rw [ParameterMapping.introducing_concat]
      have hany : added.any m.claims = false := by
        rw [List.any_eq_false]
        exact fun a ha => List.filter_eq_nil_iff.1 hnone a ha
      rw [hall, List.any_append, hany, Bool.or_false] at hnew
      exact List.rel_append hadded hnew
    · rw [hall', hall, List.filter_append, hkept, List.filter_filter, List.append_assoc]
      congr 2
      funext a
      rw [List.all_append, List.all_cons, List.all_nil, Bool.and_true, Bool.and_comm]
  obtain ⟨added, hadded, hall⟩ := hmapped
  have hnamed : added.map setup.named = added := by
    refine (List.map_congr_left fun a ha => ?_).trans (List.map_id _)
    obtain ⟨_, -, hintroduces⟩ := exists_mem_right_of_forall₂ hadded ha
    exact hintroduces.named
  refine ⟨added, hadded, ?_⟩
  rw [Endpoint.allParams_projected, ← hnamed, ← List.map_append, ← hall]
  exact congrArg _ (setup.map_named mapped.allParams).symm

end Setup

/-! ## Where mappings see arguments -/

namespace Argument

variable {a a' : Argument}

/-- An argument travels at one place, and mappings see it there. -/
def Located (a : Argument) : Prop :=
  ∃ place, a.mappedLocation? = some place ∧ ∀ l, a.travels l = (place == l)

/-- A mapping is for the arguments that it matches. -/
lemma Located.claims_iff (h : a.Located) (m : ParameterMapping) :
    m.claims a = true ↔ m.Matches a := by
  obtain ⟨place, hplace, hall⟩ := h
  rw [ParameterMapping.claims, hplace, Option.any_some, ParameterMapping.fits_iff]
  constructor
  · rintro ⟨hname, hlocation, htype⟩
    exact ⟨hname, ⟨place, by rw [hall, beq_self_eq_true], hlocation⟩, htype⟩
  · rintro ⟨hname, ⟨l, hl, hlocation⟩, htype⟩
    obtain rfl : place = l := eq_of_beq ((hall l).symm.trans hl)
    exact ⟨hname, hlocation, htype⟩

/-- An argument that is no body and no field of a form says where it travels. -/
def NamesPlace (a : Argument) : Prop :=
  ∀ l : ParameterLocation, a.travels (.ofParameter l) = true → a.location = some l.text

lemma ReformedFrom.mapped (h : a.ReformedFrom a') : a'.facets.mapped = a.facets.mapped := by
  obtain ⟨_, _, _, rfl⟩ := h
  rfl

lemma NamesPlace.of_reformedFrom (h : a.NamesPlace) (hfrom : a.ReformedFrom a') :
    a'.NamesPlace := by
  obtain ⟨_, _, _, rfl⟩ := hfrom
  intro l hl
  refine h l (Eq.trans ?_ hl)
  cases l <;> rfl

/-- What an operation declares is located, if it says where it travels. -/
lemma Placed.located (h : a.Placed) (hmapped : a.facets.mapped = false) (hnames : a.NamesPlace) :
    a.Located := by
  obtain ⟨place, hplace, hall⟩ := h
  rw [hmapped] at hplace
  obtain ⟨l, rfl⟩ := Option.isSome_iff_exists.1 (Option.isNone_eq_false_iff.1 hplace)
  have htravels (l' : MappedLocation) : a.travels l' = (l == l') := hall l'
  have hbody : a.isBody = (l == .body) := htravels .body
  have hform : a.isForm = (l == .form) := htravels .form
  refine ⟨l, ?_, htravels⟩
  have hplain (p : ParameterLocation) (hl : l = .ofParameter p) :
      (a.location.bind ParameterLocation.ofText?).map MappedLocation.ofParameter = some l := by
    have hlocation := hnames p (by rw [htravels, hl, beq_self_eq_true])
    rw [hlocation, hl]
    cases p <;> rfl
  rw [mappedLocation?, hbody, hform]
  cases l with
  | body => rfl
  | form => rfl
  | query => exact hplain .query rfl
  | header => exact hplain .header rfl
  | path => exact hplain .path rfl
  | cookie => exact hplain .cookie rfl

end Argument

namespace Resolver

variable {r : Resolver} {s s' : Session}

lemma namesPlace_declaredArgument {nickname : String} {p : Parameter} {out : Argument × NameSet}
    (h : r.declaredArgument nickname p s = .ok (out, s')) : out.1.NamesPlace := by
  obtain ⟨a, t, -, rfl⟩ := exists_declaredArgument_eq h
  intro l hl
  obtain rfl : p.location = l := by
    cases l <;> exact eq_of_beq hl
  rfl

lemma namesPlace_requestArguments {op : Operation} {request : Option (RequestBody × BodyVariant)}
    {outs : List (Argument × NameSet)} (h : r.requestArguments op request s = .ok (outs, s')) :
    ∀ out ∈ outs, out.1.NamesPlace := by
  rintro ⟨_, _⟩ hout l hl
  obtain ⟨_, _, _, a, _, _, ha, ⟨_, _, _, _, _, _, rfl⟩, -⟩ :=
    exists_of_mem_requestArguments h hout
  -- a body or a field of a form travels at no plain place
  obtain ⟨-, -, hplaces, -⟩ := argument_spec ha
  have hnowhere := hplaces (.ofParameter l)
  cases l <;> exact absurd (hnowhere.symm.trans hl) Bool.false_ne_true

variable {d : Document} {site : Site} {request : Option (RequestBody × BodyVariant)}
  {raw normalized mapped : Endpoint}

/-- What an operation declares is located. -/
lemma MakesEndpoint.located (h : r.MakesEndpoint d site request raw) :
    ∀ a ∈ raw.allParams, a.Placed ∧ a.facets.mapped = false ∧ a.NamesPlace := by
  obtain ⟨nickname, s, s', h⟩ := h
  obtain ⟨ps, declared, contents, t, t', -, hdeclared, hcontents, hall, -⟩ :=
    arguments_of_rawEndpoint h
  obtain ⟨inputs, -, hstand⟩ := requestArguments_spec hcontents
  rw [hall]
  refine Options.forall_arrange (P := fun a => a.Placed ∧ a.facets.mapped = false ∧ a.NamesPlace)
    (fun a name ha => ha) ?_ ?_
  · refine List.forall_mem_map.2 fun out hout => ?_
    obtain ⟨p, -, _, _, hp⟩ := exists_mem_right_of_forall₂ (Lowering.forall₂_of_mapM hdeclared) hout
    have hstands := declaredArgument_spec hp
    exact ⟨hstands.placed, hstands.mapped, namesPlace_declaredArgument hp⟩
  · refine List.forall_mem_map.2 fun out hout => ?_
    obtain ⟨i, -, hstands⟩ := exists_mem_left_of_forall₂ hstand (List.mem_map_of_mem hout)
    exact ⟨hstands.placed, hstands.mapped, namesPlace_requestArguments hcontents out hout⟩

/-- What is left of it after normalization is so, too. -/
lemma MakesEndpoint.located_normalized (h : r.MakesEndpoint d site request raw)
    (hnormalized : r.setup.normalizeEndpoint raw = .ok normalized) :
    ∀ a ∈ normalized.allParams, a.Located := by
  obtain ⟨plain, hall⟩ := Setup.exists_normalizeEndpoint_eq hnormalized
  rw [hall]
  refine List.forall_mem_map.2 fun a ha => ?_
  obtain ⟨b, hb, rfl⟩ := List.mem_map.1 (List.mem_of_mem_filter ha)
  obtain ⟨hplaced, hmapped, hnames⟩ := h.located b hb
  have hreformed := Endpoint.reformedFrom_asSent (raw.facets.contentType.map Endpoint.concrete) b
  have hplaced := Endpoint.placed_asSent (raw.facets.contentType.map Endpoint.concrete) hplaced
  have hsent := hplaced.located (hreformed.mapped.trans hmapped) (hnames.of_reformedFrom hreformed)
  exact hsent

/-- **The arguments of an operation after all mappings.** An argument is gone exactly if a mapping
matches it. The others stay, in order and as they are, but for names in the plural and the count of
plain arguments. After them each mapping that has a type, and matches an argument which no earlier
one matches, has the argument that it introduces; and no mapping at all matches one of these. -/
theorem MakesEndpoint.mappedArguments (h : r.MakesEndpoint d site request raw)
    (hnormalized : r.setup.normalizeEndpoint raw = .ok normalized)
    (hmapped : r.setup.mapArguments normalized s = .ok (mapped, s')) :
    (∀ a ∈ normalized.allParams, a.Located) ∧ ∃ added,
      mapped.allParams = ((normalized.allParams.filter fun a =>
          ∀ m ∈ r.setup.options.parameterMappings, ¬m.Matches a).map r.setup.named ++ added).map
        (·.counted mapped.plainCount) ∧
      List.Forall₂ r.setup.Introduces
        (ParameterMapping.introducing (fun m a => m.Matches a) r.setup.options.parameterMappings
          normalized.allParams) added ∧
      ∀ a ∈ added, ∀ m : ParameterMapping, ¬m.Matches a := by
  have hlocated := h.located_normalized hnormalized
  obtain ⟨added, hadded, hall⟩ := Setup.mapArguments_eq_ok hmapped
  have hclaims : ∀ a ∈ normalized.allParams, ∀ m : ParameterMapping,
      m.claims a = decide (m.Matches a) := fun a ha m => by
    rw [Bool.eq_iff_iff, (hlocated a ha).claims_iff m, decide_eq_true_iff]
  refine ⟨hlocated, added, ?_, ?_, fun a ha m => ?_⟩
  · rw [hall]
    congr 3
    refine List.filter_congr fun a ha => ?_
    rw [Options.leaves, Bool.eq_iff_iff, List.all_eq_true, decide_eq_true_iff]
    simp only [hclaims a ha, Bool.not_eq_true', decide_eq_false_iff_not]
  · rwa [← ParameterMapping.introducing_congr hclaims]
  · obtain ⟨_, -, hintroduces⟩ := exists_mem_right_of_forall₂ hadded ha
    exact hintroduces.not_matches m

/-! ## Pages -/

/-- The endpoint of a request with its arguments mapped. -/
def mappedEndpoint (r : Resolver) (d : Document) (site : Site) (nickname : String)
    (request : Option (RequestBody × BodyVariant)) : Lowering Endpoint := do
  let raw ← r.rawEndpoint d site nickname request
  r.setup.mapArguments (← r.setup.normalizeEndpoint raw)

/-- What becomes of an endpoint with its arguments mapped, where it is found to succeed. -/
lemma exists_mappedEndpoint (r : Resolver) (d : Document) (site : Site) (nickname : String)
    (request : Option (RequestBody × BodyVariant)) (s : Session)
    (next : Endpoint → Lowering Endpoint) {P : Endpoint → Prop} [DecidablePred P]
    (h : (((r.mappedEndpoint d site nickname request >>= next) s).toOption.any
      fun out => decide (P out.1)) = true) :
    ∃ raw normalized mapped last t t' t'', r.MakesEndpoint d site request raw ∧
      r.setup.normalizeEndpoint raw = .ok normalized ∧
      r.setup.mapArguments normalized t = .ok (mapped, t') ∧
      next mapped t' = .ok (last, t'') ∧ P last := by
  cases hrun : (r.mappedEndpoint d site nickname request >>= next) s with
  | error f =>
    rw [hrun] at h
    cases h
  | ok out =>
    rw [hrun] at h
    obtain ⟨last, t''⟩ := out
    obtain ⟨mapped, t', hfirst, hnext⟩ := Lowering.bind_eq_ok_iff.1 hrun
    obtain ⟨raw, t, hraw, hrest⟩ := Lowering.bind_eq_ok_iff.1 hfirst
    obtain ⟨normalized, _, hlift, hmapped⟩ := Lowering.bind_eq_ok_iff.1 hrest
    obtain ⟨hnormalized, rfl⟩ := Lowering.lift_eq_ok_iff.1 hlift
    exact ⟨raw, normalized, mapped, last, t, t', t'', ⟨nickname, s, t, hraw⟩, hnormalized, hmapped,
      hnext, of_decide_eq_true h⟩

/-- Pets are looked for with a limit and an offset. A header says who asks. -/
def searching : Site where
  path := "/pets"
  item := {}
  method := .get
  operation := {
    parameters := [.inline { name := "limit", location := .query },
      .inline { name := "X-Asked-By", location := .header },
      .inline { name := "offset", location := .query }] }

/-- A page stands for all of a query. Another mapping, for offsets, comes too late. -/
def paging : Resolver where
  setup := .ofCanonical ({ parameterMappings := [
    { location := some .query, mappedType := some "org.pets.Page" },
    { name := some "offset", mappedType := some "Offset" }] } : Options).canonical
  components := {}
  models := {}

/-- A limit and an offset become one page. -/
theorem mappedArguments_paging : ∃ raw normalized mapped t t',
    paging.MakesEndpoint (.ofSchemas []) searching none raw ∧
    paging.setup.normalizeEndpoint raw = .ok normalized ∧
    paging.setup.mapArguments normalized t = .ok (mapped, t') ∧
    mapped.allParams.map (·.baseName) = ["X-Asked-By", "page"] ∧ ∃ added,
      mapped.allParams = ((normalized.allParams.filter fun a =>
          ∀ m ∈ paging.setup.options.parameterMappings, ¬m.Matches a).map paging.setup.named ++
        added).map (·.counted mapped.plainCount) := by
  obtain ⟨raw, normalized, mapped, _, t, t', _, hmade, hnormalized, hmapped, hlast, hnames⟩ :=
    paging.exists_mappedEndpoint (.ofSchemas []) searching "search" none (.start paging.setup) pure
      (P := fun e => e.allParams.map (·.baseName) = ["X-Asked-By", "page"]) (by decide +kernel)
  obtain ⟨rfl, -⟩ := Lowering.pure_eq_ok_iff.1 hlast
  obtain ⟨-, added, hall, -⟩ := hmade.mappedArguments hnormalized hmapped
  exact ⟨raw, normalized, mapped, t, t', hmade, hnormalized, hmapped, hnames, added, hall⟩

end Resolver

end ApiLowering
