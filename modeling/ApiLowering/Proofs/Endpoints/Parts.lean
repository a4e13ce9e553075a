import ApiLowering.Proofs.Endpoints.Views
import ApiLowering.Proofs.Models.Enumerations

/-!
# Parts of endpoints

An endpoint, as it is declared, is put together from what schemas become: its arguments, the headers
of its responses, and what its method returns. It imports what their types import.

## Main definitions

* `Resolver.Made` — a property is made of a schema.
* `Resolver.Imports` — a name is imported by a type that resolution gives.
* `Resolver.Furnishes` — the parts of an endpoint are made of schemas.

## Main results

* `Resolver.furnishes_rawEndpoint` — so are those of declared endpoints.
-/

namespace ApiLowering

/-- The members of several sets. -/
lemma NameSet.mem_foldl_union {name : String} {sets : List NameSet} {s : NameSet} :
    name ∈ sets.foldl union s ↔ name ∈ s ∨ ∃ t ∈ sets, name ∈ t := by
  induction sets generalizing s with
  | nil => simp
  | cons t sets ih =>
    rw [List.foldl_cons, ih, mem_union, List.exists_mem_cons_iff, or_assoc]

/-- What holds of the members of several sets holds of those of their union. -/
lemma NameSet.forall_mem_foldl_union {P : String → Prop} {sets : List NameSet} {s : NameSet}
    (hs : ∀ name ∈ s, P name) (hsets : ∀ t ∈ sets, ∀ name ∈ t, P name) :
    ∀ name ∈ sets.foldl union s, P name := by
  intro name hname
  rcases mem_foldl_union.1 hname with hname | ⟨t, ht, hname⟩
  · exact hs name hname
  · exact hsets t ht name hname

/-- The response that a method returns is one of them. -/
lemma LoweredResponse.mem_of_method? {rs : List LoweredResponse} {res : LoweredResponse}
    (h : method? rs = some res) : res ∈ rs := by
  rw [method?] at h
  cases hsuccess : rs.find? fun res => Outcome.isSuccessCode res.code with
  | some res =>
    rw [hsuccess] at h
    obtain rfl := Option.some.inj h
    exact List.mem_of_find?_eq_some hsuccess
  | none =>
    rw [hsuccess] at h
    exact List.mem_of_find?_eq_some h

namespace Resolver

variable {r : Resolver} {s s' : Session} {p : Property} {t : ResolvedType} {imports : NameSet}
  {name : String}

/-! ## Properties and imports -/

/-- A property is made of a schema. -/
def Made (r : Resolver) (p : Property) : Prop := ∃ ref site target t, r.MadeOf ref site target t p

/-- A name is imported by a type that resolution gives. -/
def Imports (r : Resolver) (name : String) : Prop := ∃ t, r.Resolved t ∧ name ∈ t.imports

lemma imports_of_propertyType {ref : SchemaRef} (h : r.propertyType name ref s = .ok (t, s')) :
    ∀ name ∈ t.imports, r.Imports name := by
  obtain ⟨own, hown, ⟨-, rfl⟩ | ⟨-, rfl⟩⟩ := propertyType_cases h
  · rw [ResolvedType.imports_setEnumName]
    exact fun name hname => ⟨own, resolved_resolve hown, hname⟩
  · exact fun name hname => ⟨t, resolved_resolve hown, hname⟩

/-- What a schema becomes under a name, and what it imports. -/
lemma made_of_property {ref : SchemaRef} {required : Bool} {site : DefaultSite}
    (h : r.property name ref required site s = .ok ((p, imports), s')) :
    r.Made p ∧ ∀ name ∈ imports, r.Imports name := by
  obtain ⟨target, t, hof, rfl⟩ := exists_madeOf_of_property h
  obtain ⟨own, _, _, ht⟩ := hof.resolves
  exact ⟨⟨_, _, _, _, hof⟩, imports_of_propertyType ht⟩

/-- A mapped word imports its type. -/
lemma imports_importsOf {key mapped : String} (h : r.setup.mappedType key = .ok mapped) :
    ∀ name ∈ r.setup.importsOf mapped, r.Imports name :=
  fun _ hname => ⟨.ofWord r.setup mapped "" {} false, .word h, hname⟩

/-! ## Arguments -/

/-- An argument has its type from what a schema becomes. -/
def Argues (r : Resolver) (a : Argument) : Prop :=
  ∃ p, r.Made p ∧ a.type = p.type ∧ a.items = p.items

/-- An argument that comes with its imports. -/
def Supplies (r : Resolver) (out : Argument × NameSet) : Prop :=
  r.Argues out.1 ∧ ∀ name ∈ out.2, r.Imports name

lemma supplies_argument {ref : SchemaRef} {required : Bool} {out : Argument × NameSet}
    (h : r.argument name ref required s = .ok (out, s')) : r.Supplies out := by
  rw [argument] at h
  obtain ⟨⟨p, imports⟩, _, hp, h⟩ := Lowering.bind_eq_ok_iff.1 h
  obtain ⟨paramName, _, -, h⟩ := Lowering.bind_eq_ok_iff.1 h
  obtain ⟨rfl, -⟩ := Lowering.pure_eq_ok_iff.1 h
  obtain ⟨hmade, himports⟩ := made_of_property hp
  exact ⟨⟨p, hmade, rfl, rfl⟩, himports⟩

lemma supplies_declaredArgument {nickname : String} {p : Parameter} {out : Argument × NameSet}
    (h : r.declaredArgument nickname p s = .ok (out, s')) : r.Supplies out := by
  obtain ⟨a, t, ha, rfl⟩ := exists_declaredArgument_eq h
  have hout := supplies_argument ha
  exact hout

/-- So are the arguments of a body. -/
lemma supplies_requestArguments {op : Operation} {request : Option (RequestBody × BodyVariant)}
    {outs : List (Argument × NameSet)} (h : r.requestArguments op request s = .ok (outs, s')) :
    ∀ out ∈ outs, r.Supplies out := by
  rintro ⟨_, _⟩ hout
  obtain ⟨_, _, _, a, _, _, ha, ⟨_, _, _, _, _, _, rfl⟩, rfl⟩ :=
    exists_of_mem_requestArguments h hout
  have hout := supplies_argument ha
  exact hout

/-! ## Outcomes -/

lemma made_of_header {ref : HeaderRef} (h : r.header name ref s = .ok ((p, imports), s')) :
    r.Made p ∧ ∀ name ∈ imports, r.Imports name := by
  rw [header] at h
  obtain ⟨declared, _, -, h⟩ := Lowering.bind_eq_ok_iff.1 h
  obtain ⟨⟨q, more⟩, _, hq, h⟩ := Lowering.bind_eq_ok_iff.1 h
  obtain ⟨hout, -⟩ := Lowering.pure_eq_ok_iff.1 h
  obtain ⟨rfl, rfl⟩ := Prod.mk.inj hout
  obtain ⟨⟨ref, site, target, t, hof⟩, himports⟩ := made_of_property hq
  exact ⟨⟨ref, site, target, t, hof.copy ⟨rfl, rfl, rfl, rfl, rfl, rfl, rfl, fun _ => rfl⟩⟩,
    himports⟩

/-- An outcome is that of its code with a type and with headers, and has their imports. -/
lemma exists_outcome_eq {code : String} {res : Response} {out : Outcome}
    (h : r.outcome code res s = .ok ((out, imports), s')) :
    ∃ type schema own headers t, (∀ name ∈ own, r.Imports name) ∧
      res.headers.entries.mapM (fun e => r.header e.1 e.2) t = .ok (headers, s') ∧
      out = { bareOutcome code res with type, schema, headers := headers.map Prod.fst } ∧
      imports = (headers.map Prod.snd).foldl NameSet.union own := by
  rw [outcome] at h
  have hrest : ∃ (type : Option TypeFacts) (schema : Option Json) (own : NameSet) (t : Session),
      (∀ name ∈ own, r.Imports name) ∧
      (do
        let headers ← res.headers.entries.mapM fun e => r.header e.1 e.2
        pure ({ bareOutcome code res with type, schema, headers := headers.map Prod.fst },
          (headers.map Prod.snd).foldl NameSet.union own) : Lowering (Outcome × NameSet)) t =
        .ok ((out, imports), s') := by
    cases hschema : res.schemaRef? with
    | none =>
      simp only [hschema] at h
      exact ⟨_, _, _, _, fun _ hname => (List.not_mem_nil hname).elim, h⟩
    | some ref =>
      simp only [hschema] at h
      obtain ⟨t, _, ht, h⟩ := Lowering.bind_eq_ok_iff.1 h
      exact ⟨_, _, _, _, fun _ hname => ⟨t, resolved_resolve ht, hname⟩, h⟩
  obtain ⟨type, schema, own, t, hown, h⟩ := hrest
  obtain ⟨headers, _, hheaders, h⟩ := Lowering.bind_eq_ok_iff.1 h
  obtain ⟨hout, rfl⟩ := Lowering.pure_eq_ok_iff.1 h
  obtain ⟨rfl, rfl⟩ := Prod.mk.inj hout
  exact ⟨type, schema, own, headers, t, hown, hheaders, rfl, rfl⟩

/-- The headers of an outcome are made of schemas, and so are its imports. -/
lemma made_of_outcome {code : String} {res : Response} {out : Outcome}
    (h : r.outcome code res s = .ok ((out, imports), s')) :
    (∀ p ∈ out.headers, r.Made p) ∧ ∀ name ∈ imports, r.Imports name := by
  obtain ⟨_, _, own, headers, _, hown, hheaders, rfl, rfl⟩ := exists_outcome_eq h
  have hall : ∀ header ∈ headers, r.Made header.1 ∧ ∀ name ∈ header.2, r.Imports name := by
    intro header hheader
    obtain ⟨_, -, _, _, hheader⟩ :=
      exists_mem_right_of_forall₂ (Lowering.forall₂_of_mapM hheaders) hheader
    exact made_of_header hheader
  exact ⟨List.forall_mem_map.2 fun header hheader => (hall header hheader).1,
    NameSet.forall_mem_foldl_union hown
      (List.forall_mem_map.2 fun header hheader => (hall header hheader).2)⟩

/-- What a method returns is made of a schema, or a file in its place. -/
lemma made_of_returned {res : Response} {ret : Returned}
    (h : r.returned res s = .ok (some ret, s')) :
    (r.Made ret.property ∨ ∃ p file, ret.property = Property.asFile p file) ∧
      ∀ name ∈ ret.imports, r.Imports name := by
  rw [returned] at h
  cases hschema : res.schemaRef? with
  | none =>
    simp only [hschema] at h
    cases (Lowering.pure_eq_ok_iff.1 h).1
  | some ref =>
    simp only [hschema] at h
    obtain ⟨⟨p, imports⟩, _, hp, h⟩ := Lowering.bind_eq_ok_iff.1 h
    obtain ⟨hmade, himports⟩ := made_of_property hp
    split at h
    · obtain ⟨mapped, _, hmapped, h⟩ := Lowering.bind_eq_ok_iff.1 h
      obtain ⟨hmapped, -⟩ := Lowering.lift_eq_ok_iff.1 hmapped
      obtain ⟨⟨file, imports'⟩, _, himport, h⟩ := Lowering.bind_eq_ok_iff.1 h
      obtain ⟨hret, -⟩ := Lowering.pure_eq_ok_iff.1 h
      obtain rfl := Option.some.inj hret
      refine ⟨.inr ⟨p, file, rfl⟩, fun name hname => ?_⟩
      rcases (Setup.mem_importType himport).1 hname with hname | hname
      · exact himports name hname
      · exact imports_importsOf hmapped name hname
    · obtain ⟨hret, -⟩ := Lowering.pure_eq_ok_iff.1 h
      obtain rfl := Option.some.inj hret
      exact ⟨.inl hmade, himports⟩

/-! ## Endpoints -/

/-- The parts of an endpoint are made of schemas, and so are its imports. -/
structure Furnishes (r : Resolver) (e : Endpoint) : Prop where
  allParams : ∀ a ∈ e.allParams, r.Argues a
  implicitHeadersParams : e.implicitHeadersParams = []
  outcomes : ∀ out ∈ e.responses, ∀ p ∈ out.headers, r.Made p
  responseHeaders : ∀ p ∈ e.responseHeaders, r.Made p
  returned : ∀ p ∈ e.returnProperty, r.Made p ∨ ∃ q file, p = Property.asFile q file
  imports : ∀ name ∈ e.imports, r.Imports name

/-- The outcome of every response of an operation. -/
lemma exists_outcome_of_loweredResponses {op : Operation} {responses : List LoweredResponse}
    (h : r.loweredResponses op s = .ok (responses, s')) : ∀ res ∈ responses, ∃ t t',
      r.outcome res.code res.response t = .ok ((res.outcome, res.imports), t') := by
  intro res hres
  obtain ⟨⟨code, ref⟩, -, _, _, hres⟩ :=
    exists_mem_right_of_forall₂ (Lowering.forall₂_of_mapM h) hres
  obtain ⟨response, _, -, hres⟩ := Lowering.bind_eq_ok_iff.1 hres
  obtain ⟨⟨out, imports⟩, t, hout, hres⟩ := Lowering.bind_eq_ok_iff.1 hres
  obtain ⟨rfl, -⟩ := Lowering.pure_eq_ok_iff.1 hres
  exact ⟨_, _, hout⟩

lemma made_of_loweredResponses {op : Operation} {responses : List LoweredResponse}
    (h : r.loweredResponses op s = .ok (responses, s')) : ∀ res ∈ responses,
      (∀ p ∈ res.outcome.headers, r.Made p) ∧ ∀ name ∈ res.imports, r.Imports name := by
  intro res hres
  obtain ⟨_, _, hout⟩ := exists_outcome_of_loweredResponses h res hres
  exact made_of_outcome hout

/-- **The parts of declared endpoints are made of schemas.** -/
theorem furnishes_rawEndpoint {d : Document} {site : Site} {nickname : String}
    {request : Option (RequestBody × BodyVariant)} {e : Endpoint}
    (h : r.rawEndpoint d site nickname request s = .ok (e, s')) : r.Furnishes e := by
  obtain ⟨ps, declared, contents, responses, returned, t, t', t'', -, hdeclared, hcontents,
    hresponses, hreturned, rfl⟩ := rawEndpoint_eq_ok h
  have hdeclared : ∀ out ∈ declared, r.Supplies out := by
    intro out hout
    obtain ⟨_, _, _, _, hout⟩ :=
      exists_mem_right_of_forall₂ (Lowering.forall₂_of_mapM hdeclared) hout
    exact supplies_declaredArgument hout
  have hcontents := supplies_requestArguments hcontents
  have hresponses := made_of_loweredResponses hresponses
  have hargs := Options.forall_arrange (o := r.setup.options) (P := r.Argues) (fun _ _ ha => ha)
    (List.forall_mem_map.2 fun out hout => (hdeclared out hout).1)
    (List.forall_mem_map.2 fun out hout => (hcontents out hout).1)
  have houts : ∀ out ∈ responses.map (·.outcome), ∀ p ∈ out.headers, r.Made p :=
    List.forall_mem_map.2 fun res hres => (hresponses res hres).1
  have hheaders : ∀ p ∈ ((LoweredResponse.method? responses).map (·.outcome.headers)).getD [],
      r.Made p := by
    cases hmethod : LoweredResponse.method? responses with
    | none => exact fun _ hp => (List.not_mem_nil hp).elim
    | some res => exact (hresponses res (LoweredResponse.mem_of_method? hmethod)).1
  have himports : ∀ name ∈ ((declared ++ contents).map Prod.snd ++
      responses.map (·.imports)).foldl NameSet.union {}, r.Imports name :=
    NameSet.forall_mem_foldl_union (fun _ hname => (List.not_mem_nil hname).elim)
      (List.forall_mem_append.2
        ⟨List.forall_mem_map.2 fun out hout =>
          (List.forall_mem_append.2 ⟨hdeclared, hcontents⟩ out hout).2,
        List.forall_mem_map.2 fun res hres => (hresponses res hres).2⟩)
  cases returned with
  | none => exact ⟨hargs, rfl, houts, hheaders, fun p hp => (Option.not_mem_none p hp).elim, himports⟩
  | some ret =>
    obtain ⟨-, hnone⟩ | ⟨res, -, u, u', hreturned⟩ := hreturned
    · cases hnone
    · obtain ⟨hreturned, hmore⟩ := made_of_returned hreturned
      refine ⟨hargs, rfl, houts, hheaders, fun p hp => ?_, fun name hname => ?_⟩
      · obtain rfl := Option.some.inj hp
        exact hreturned
      · exact (NameSet.mem_union.1 hname).elim (himports name) (hmore name)

end Resolver

end ApiLowering
