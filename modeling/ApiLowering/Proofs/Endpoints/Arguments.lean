import ApiLowering.Proofs.Endpoints.Stages
import ApiLowering.Proofs.Models.Drafting

/-!
# Declared arguments

The arguments of an endpoint, as they are declared, stand for the inputs of a request: the
parameters of the operation, and its body or the fields of its form.

## Main definitions

* `RequestInput` — what a request takes under a name.
* `Resolver.contentInputs` — the inputs of a body: the body itself, or the fields of its form.
* `Options.arrangeInputs` — the inputs of a request in their order.
* `Resolver.FieldOf` — what a field of a form becomes.
* `Setup.requests` — the requests that an operation answers, each by an endpoint of its own.
* `Resolver.endpointWith` — an endpoint from what was found on the way to it.
* `Resolver.MakesEndpoint` — an endpoint is what becomes of a request at first.

## Main results

* `mergeSort_eq_filter_append` — a stable sort by a test is a partition.
* `Options.map_input_arrange` — arguments are arranged as the inputs that they stand for.
* `Resolver.rawEndpoint_eq_ok` — all that an endpoint is made from.
* `Resolver.rawEndpoint_spec` — the arguments of an endpoint and the inputs of its request.
* `Resolver.endpointsOf_eq_ok` — the endpoints of an operation and its requests.
-/

namespace ApiLowering

/-! ## Inputs -/

/-- What a request takes under a name: a parameter, a body, or a field of a form. -/
@[ext] structure RequestInput where
  baseName : String
  required : Bool
  isHeader : Bool := false
deriving Repr, DecidableEq, Inhabited

/-- The input that a parameter declares. -/
def Parameter.input (p : Parameter) : RequestInput where
  baseName := p.name
  required := p.isRequired
  isHeader := p.location == .header

/-- The input that an argument stands for. -/
def Argument.input (a : Argument) : RequestInput where
  baseName := a.baseName
  required := a.required
  isHeader := a.isHeader

namespace Resolver

variable (r : Resolver)

/-- The inputs of a variant of a body: one for each property that the schema of a form declares
itself, or the body. -/
def contentInputs (op : Operation) (body : RequestBody) (v : BodyVariant) :
    Except Fault (List RequestInput) :=
  if Content.isForm v.mediaType then
    match v.content.schema with
    | none => .ok []
    | some ref => (r.components.resolveSchema ref).map fun (_, s) =>
      s.properties.keys.map fun name =>
        { baseName := name, required := s.keywords.required.contains name }
  else
    let ref := v.content.schema.getD (.inline {})
    .ok [{ baseName := r.bodyName op body ref, required := body.required }]

/-- The inputs that a request has besides its parameters. -/
def bodyInputs (op : Operation) :
    Option (RequestBody × BodyVariant) → Except Fault (List RequestInput)
  | none => .ok []
  | some (body, v) => r.contentInputs op body v

end Resolver

/-- The requests that an operation answers, each by an endpoint of its own: one without a body, or
one for each variant of the body. -/
def Setup.requests (setup : Setup) :
    Option RequestBody → List (Option (RequestBody × BodyVariant))
  | none => [none]
  | some body =>
    let together :=
      if setup.settings.divideOperationsByContentType then MediaType.sameSchema
      else fun _ _ => true
    (BodyVariant.ofContent together body.content).map fun v => some (body, v)

/-! ## Order -/

/-- The inputs of a request in their order: those of the body after the declared ones or before
them. Required ones go first if the options say so, and otherwise the order stays. -/
def Options.arrangeInputs (o : Options) (declared contents : List RequestInput) :
    List RequestInput :=
  let all := if o.prependFormOrBodyParameters then contents ++ declared else declared ++ contents
  if o.sortParamsByRequiredFlag then all.mergeSort (fun x y => x.required || !y.required) else all

/-- In a list in order the elements that pass the test go first. -/
lemma eq_filter_append_of_pairwise {α : Type} {p : α → Bool} {xs : List α}
    (h : xs.Pairwise fun x y => (p x || !p y) = true) : xs = xs.filter p ++ xs.filter (!p ·) := by
  induction h with
  | nil => rfl
  | @cons x xs hx _ ih =>
    cases hp : p x with
    | true =>
      rw [List.filter_cons_of_pos hp, List.filter_cons_of_neg (by simp [hp]), List.cons_append]
      exact congrArg _ ih
    | false =>
      have hnone : ∀ y ∈ xs, p y = false := fun y hy => by simpa [hp] using hx y hy
      rw [List.filter_cons_of_neg (by simp [hp]), List.filter_cons_of_pos (by simp [hp]),
        List.filter_eq_nil_iff.2 (by simpa using hnone),
        List.filter_eq_self.2 (by simpa using hnone)]
      rfl

/-- **A stable sort by a test is a partition.** -/
theorem mergeSort_eq_filter_append {α : Type} (p : α → Bool) (xs : List α) :
    xs.mergeSort (fun x y => p x || !p y) = xs.filter p ++ xs.filter (!p ·) := by
  have htrans (x y z : α) : (p x || !p y) = true → (p y || !p z) = true →
      (p x || !p z) = true := by
    cases p x <;> cases p y <;> cases p z <;> simp
  have htotal (x y : α) : (p x || !p y || (p y || !p x)) = true := by
    cases p x <;> cases p y <;> rfl
  have hperm := List.mergeSort_perm xs fun x y => p x || !p y
  -- elements of one kind are in order already, and so keep their order
  have hkept (q : α → Bool) (hq : (xs.filter q).Pairwise fun x y => (p x || !p y) = true) :
      (xs.mergeSort fun x y => p x || !p y).filter q = xs.filter q := by
    have hsub := (List.sublist_mergeSort htrans htotal hq List.filter_sublist).filter q
    rw [List.filter_filter] at hsub
    simp only [Bool.and_self] at hsub
    exact (hsub.eq_of_length ((hperm.filter q).length_eq.symm)).symm
  rw [eq_filter_append_of_pairwise (List.pairwise_mergeSort htrans htotal xs)]
  refine congrArg₂ (· ++ ·) (hkept p ?_) (hkept (!p ·) ?_)
  · exact List.pairwise_of_forall_mem_list fun x hx y hy => by simp [List.of_mem_filter hx]
  · exact List.pairwise_of_forall_mem_list fun x hx y hy =>
      Bool.or_eq_true_iff.2 (.inr (List.mem_filter.1 hy).2)

namespace Argument

/-- What holds under any name holds of arguments with new names. -/
lemma forall_uniqueFrom {P : Argument → Prop} (hP : ∀ a name, P a → P { a with paramName := name })
    {taken : List String} {args : List Argument} (h : ∀ a ∈ args, P a) :
    ∀ a ∈ uniqueFrom taken args, P a := by
  induction args generalizing taken with
  | nil => exact fun _ ha => (List.not_mem_nil ha).elim
  | cons a rest ih =>
    obtain ⟨ha, hrest⟩ := List.forall_mem_cons.1 h
    exact List.forall_mem_cons.2 ⟨hP a _ ha, ih hrest⟩

lemma map_uniqueFrom {β : Type} {g : Argument → β}
    (hg : ∀ (a : Argument) name, g { a with paramName := name } = g a) (taken : List String)
    (args : List Argument) : (uniqueFrom taken args).map g = args.map g := by
  induction args generalizing taken with
  | nil => rfl
  | cons a rest ih => exact congrArg₂ List.cons (hg a _) (ih _)

/-- New names leave alone what does not look at names, whether they are given or not. -/
lemma map_unique {β : Type} {g : Argument → β}
    (hg : ∀ (a : Argument) name, g { a with paramName := name } = g a) (ensured : Bool)
    (args : List Argument) : (if ensured then unique args else args).map g = args.map g := by
  split
  · exact map_uniqueFrom hg [] args
  · rfl

end Argument

lemma Argument.map_input_requiredFirst (args : List Argument) :
    (args.filter (·.required) ++ args.filter (!·.required)).map input =
      (args.map input).mergeSort fun x y => x.required || !y.required := by
  rw [mergeSort_eq_filter_append, List.filter_map, List.filter_map, List.map_append]
  rfl

/-- **Arguments are arranged as the inputs that they stand for.** -/
theorem Options.map_input_arrange (o : Options) (declared contents : List Argument) :
    (o.arrange declared contents).map Argument.input =
      o.arrangeInputs (declared.map Argument.input) (contents.map Argument.input) := by
  have hunique := Argument.map_unique (g := Argument.input) (fun _ _ => rfl) o.ensureUniqueParams
  have hall : (if o.prependFormOrBodyParameters then contents ++ declared
      else declared ++ contents).map Argument.input =
        if o.prependFormOrBodyParameters then
          contents.map Argument.input ++ declared.map Argument.input
        else declared.map Argument.input ++ contents.map Argument.input := by
    split <;> exact List.map_append
  simp only [arrange, arrangeInputs, ← hall]
  split
  · rw [Argument.map_input_requiredFirst, hunique]
  · exact hunique _

/-! ## Places of arguments -/

namespace Argument

/-- What travels nowhere is given a place. -/
lemma placed_of_update {a a' : Argument} (ha : ∀ l, a.travels l = false) (place : MappedLocation)
    (hmapped : a'.facets.mapped = false) (hplace : a'.travels place = true)
    (hothers : ∀ l, l ≠ place → a'.travels l = a.travels l) : a'.Placed := by
  refine ⟨some place, hmapped.symm, fun l => ?_⟩
  by_cases hl : l = place
  · rw [hl, hplace, beq_self_eq_true]
  · rw [hothers l hl, ha l]
    exact (beq_false_of_ne fun h => hl (Option.some.inj h).symm).symm

/-- The declaration of a parameter gives an argument its place. -/
lemma placed_declared {a : Argument} (ha : ∀ l, a.travels l = false)
    (hmapped : a.facets.mapped = false) (p : Parameter) : (a.declared p).Placed := by
  have hbody : a.isBody = false := ha .body
  have hform : a.isForm = false := ha .form
  refine ⟨some (.ofParameter p.location), hmapped.symm, fun l => ?_⟩
  cases l <;> simp only [travels, declared, hbody, hform] <;> cases p.location <;> rfl

end Argument

/-- An argument is another one that is sent as a body, or as a field of a form. -/
def Argument.SentFrom (a a' : Argument) : Prop :=
  ∃ isBody isForm description contentType refName vendorExtensions, a' = { a with
    isBody, isForm, description, contentType, refName, vendorExtensions }

/-! ## Arguments of inputs -/

namespace Resolver

variable {r : Resolver} {s s' : Session}

/-- An argument stands for an input of a request: it has a place, and no mapping introduced it. -/
structure StandsFor (a : Argument) (i : RequestInput) : Prop where
  input : a.input = i
  mapped : a.facets.mapped = false
  placed : a.Placed

lemma argument_spec {name : String} {ref : SchemaRef} {required : Bool}
    {out : Argument × NameSet} (h : r.argument name ref required s = .ok (out, s')) :
    out.1.baseName = name ∧ out.1.required = required ∧ (∀ l, out.1.travels l = false) ∧
      out.1.facets.mapped = false := by
  rw [argument] at h
  obtain ⟨⟨p, imports⟩, _, hp, h⟩ := Lowering.bind_eq_ok_iff.1 h
  obtain ⟨paramName, _, -, h⟩ := Lowering.bind_eq_ok_iff.1 h
  obtain ⟨rfl, -⟩ := Lowering.pure_eq_ok_iff.1 h
  have hof := property_spec hp
  exact ⟨hof.baseName, hof.required, fun l => by cases l <;> rfl, rfl⟩

/-- The argument of a parameter is that of its schema, with what the declaration says beside it. -/
lemma exists_declaredArgument_eq {nickname : String} {p : Parameter} {out : Argument × NameSet}
    (h : r.declaredArgument nickname p s = .ok (out, s')) :
    ∃ a t, r.argument p.name p.schemaRef p.isRequired t = .ok (a, s') ∧
      out = (a.1.declared p, a.2) := by
  rw [declaredArgument] at h
  have hrest : ∃ t, (r.argument p.name p.schemaRef p.isRequired >>=
      fun a => pure (a.1.declared p, a.2)) t = .ok (out, s') := by
    split at h
    · obtain ⟨_, t, -, h⟩ := Lowering.bind_eq_ok_iff.1 h
      exact ⟨t, h⟩
    · exact ⟨s, h⟩
  obtain ⟨t, h⟩ := hrest
  obtain ⟨a, _, ha, h⟩ := Lowering.bind_eq_ok_iff.1 h
  obtain ⟨rfl, rfl⟩ := Lowering.pure_eq_ok_iff.1 h
  exact ⟨a, t, ha, rfl⟩

lemma declaredArgument_spec {nickname : String} {p : Parameter} {out : Argument × NameSet}
    (h : r.declaredArgument nickname p s = .ok (out, s')) : StandsFor out.1 p.input := by
  obtain ⟨a, t, ha, rfl⟩ := exists_declaredArgument_eq h
  obtain ⟨hname, hrequired, hplaces, hmapped⟩ := argument_spec ha
  exact ⟨RequestInput.ext hname hrequired rfl, hmapped,
    Argument.placed_declared hplaces hmapped p⟩

lemma bodyArgument_spec {op : Operation} {body : RequestBody} {v : BodyVariant}
    {out : Argument × NameSet} (h : r.bodyArgument op body v s = .ok (out, s')) :
    StandsFor out.1 {
      baseName := r.bodyName op body (v.content.schema.getD (.inline {}))
      required := body.required } := by
  rw [bodyArgument] at h
  obtain ⟨⟨a, imports⟩, _, ha, h⟩ := Lowering.bind_eq_ok_iff.1 h
  obtain ⟨rfl, -⟩ := Lowering.pure_eq_ok_iff.1 h
  obtain ⟨hname, hrequired, hplaces, hmapped⟩ := argument_spec ha
  refine ⟨RequestInput.ext hname hrequired (hplaces .header), hmapped,
    Argument.placed_of_update hplaces .body hmapped rfl fun l hl => ?_⟩
  cases l <;> first | rfl | exact absurd rfl hl

/-- What a field of a form becomes: an argument that is marked, with the media type that is encoded
for it. -/
def FieldOf (r : Resolver) (v : BodyVariant) (target : Schema) (field : String × SchemaRef)
    (out : Argument × NameSet) : Prop :=
  ∃ a t t',
    r.argument field.1 field.2 (target.keywords.required.contains field.1) t = .ok (a, t') ∧
      out = ({ a.1 with
        isForm := true
        contentType := (v.content.encoding.find? field.1).bind (·.contentType) }, a.2)

/-- All that a form is made from: a field for each property that its schema declares itself. -/
lemma formArguments_cases {v : BodyVariant} {outs : List (Argument × NameSet)}
    (h : r.formArguments v s = .ok (outs, s')) :
    v.content.schema = none ∧ outs = [] ∨ ∃ ref key target, v.content.schema = some ref ∧
      r.components.resolveSchema ref = .ok (key, target) ∧
      List.Forall₂ (r.FieldOf v target) target.properties.entries outs := by
  rw [formArguments] at h
  cases hschema : v.content.schema with
  | none =>
    simp only [hschema] at h
    exact .inl ⟨rfl, (Lowering.pure_eq_ok_iff.1 h).1.symm⟩
  | some ref =>
    simp only [hschema] at h
    obtain ⟨⟨key, target⟩, _, htarget, h⟩ := Lowering.bind_eq_ok_iff.1 h
    obtain ⟨htarget, -⟩ := Lowering.lift_eq_ok_iff.1 htarget
    refine .inr ⟨ref, key, target, rfl, htarget, (Lowering.forall₂_of_mapM h).imp ?_⟩
    rintro field out ⟨t, t', hfield⟩
    obtain ⟨a, u, ha, hfield⟩ := Lowering.bind_eq_ok_iff.1 hfield
    exact ⟨a, t, u, ha, (Lowering.pure_eq_ok_iff.1 hfield).1.symm⟩

/-- Fields of forms are no arguments of a body. -/
lemma FieldOf.travels {v : BodyVariant} {target : Schema} {field : String × SchemaRef}
    {out : Argument × NameSet} (h : r.FieldOf v target field out) :
    out.1.isBody = false ∧ out.1.isForm = true := by
  obtain ⟨a, t, t', ha, rfl⟩ := h
  obtain ⟨-, -, hplaces, -⟩ := argument_spec ha
  exact ⟨hplaces .body, rfl⟩

lemma FieldOf.standsFor {v : BodyVariant} {target : Schema} {field : String × SchemaRef}
    {out : Argument × NameSet} (h : r.FieldOf v target field out) : StandsFor out.1 {
      baseName := field.1
      required := target.keywords.required.contains field.1 } := by
  obtain ⟨a, t, t', ha, rfl⟩ := h
  obtain ⟨hname, hrequired, hplaces, hmapped⟩ := argument_spec ha
  refine ⟨RequestInput.ext hname hrequired (hplaces .header), hmapped,
    Argument.placed_of_update hplaces .form hmapped rfl fun l hl => ?_⟩
  cases l <;> first | rfl | exact absurd rfl hl

/-- The arguments of a body stand for its inputs. -/
lemma contentArguments_spec {op : Operation} {body : RequestBody} {v : BodyVariant}
    {outs : List (Argument × NameSet)} (h : r.contentArguments op body v s = .ok (outs, s')) :
    ∃ inputs, r.contentInputs op body v = .ok inputs ∧
      List.Forall₂ StandsFor (outs.map Prod.fst) inputs := by
  rw [contentArguments] at h
  rw [contentInputs]
  split at h
  · rename_i hform
    rw [if_pos hform]
    obtain ⟨hschema, rfl⟩ | ⟨ref, key, target, hschema, htarget, hfields⟩ := formArguments_cases h
    · rw [hschema]
      exact ⟨[], rfl, .nil⟩
    · rw [hschema]
      refine ⟨_, congrArg (Except.map _) htarget, ?_⟩
      change List.Forall₂ StandsFor _ ((target.properties.entries.map Prod.fst).map _)
      rw [List.forall₂_map_left_iff, List.forall₂_map_right_iff, List.forall₂_map_right_iff]
      exact (hfields.imp fun _ _ hfield => hfield.standsFor).flip
  · rename_i hform
    rw [if_neg hform]
    obtain ⟨out, _, hout, h⟩ := Lowering.bind_eq_ok_iff.1 h
    obtain ⟨rfl, -⟩ := Lowering.pure_eq_ok_iff.1 h
    exact ⟨_, rfl, .cons (bodyArgument_spec hout) .nil⟩

/-- The arguments of a request's body, if it has one. -/
def requestArguments (r : Resolver) (op : Operation) :
    Option (RequestBody × BodyVariant) → Lowering (List (Argument × NameSet))
  | none => pure []
  | some (body, v) => r.contentArguments op body v

/-- What follows the arguments of a request's body follows these. -/
lemma bind_requestArguments {op : Operation} {request : Option (RequestBody × BodyVariant)}
    {β : Type} {next : List (Argument × NameSet) → Lowering β} {answer : β}
    (h : (match request with
      | some (b, v) => r.contentArguments op b v >>= next
      | none => pure [] >>= next) s = .ok (answer, s')) :
    ∃ contents t, r.requestArguments op request s = .ok (contents, t) ∧
      next contents t = .ok (answer, s') := by
  cases request with
  | none => exact ⟨[], s, rfl, h⟩
  | some request => exact Lowering.bind_eq_ok_iff.1 h

lemma requestArguments_spec {op : Operation} {request : Option (RequestBody × BodyVariant)}
    {outs : List (Argument × NameSet)} (h : r.requestArguments op request s = .ok (outs, s')) :
    ∃ inputs, r.bodyInputs op request = .ok inputs ∧
      List.Forall₂ StandsFor (outs.map Prod.fst) inputs := by
  cases request with
  | none =>
    obtain ⟨rfl, -⟩ := Lowering.pure_eq_ok_iff.1 h
    exact ⟨[], rfl, .nil⟩
  | some request => exact contentArguments_spec h

/-- Every argument of a request's body is that of a schema, sent as a body or as a field of a form.
-/
lemma exists_of_mem_requestArguments {op : Operation}
    {request : Option (RequestBody × BodyVariant)} {outs : List (Argument × NameSet)}
    (h : r.requestArguments op request s = .ok (outs, s')) {out : Argument × NameSet}
    (hout : out ∈ outs) :
    ∃ name ref required a t t', r.argument name ref required t = .ok (a, t') ∧
      a.1.SentFrom out.1 ∧ out.2 = a.2 := by
  cases request with
  | none =>
    obtain ⟨rfl, -⟩ := Lowering.pure_eq_ok_iff.1 h
    exact (List.not_mem_nil hout).elim
  | some request =>
    obtain ⟨body, v⟩ := request
    change r.contentArguments op body v s = .ok (outs, s') at h
    rw [contentArguments] at h
    split at h
    · obtain ⟨-, rfl⟩ | ⟨_, _, _, -, -, hfields⟩ := formArguments_cases h
      · exact (List.not_mem_nil hout).elim
      · obtain ⟨field, -, a, t, t', ha, rfl⟩ := exists_mem_right_of_forall₂ hfields hout
        exact ⟨_, _, _, a, t, t', ha, ⟨_, _, _, _, _, _, rfl⟩, rfl⟩
    · obtain ⟨sent, _, hsent, h⟩ := Lowering.bind_eq_ok_iff.1 h
      obtain ⟨rfl, -⟩ := Lowering.pure_eq_ok_iff.1 h
      obtain rfl := List.mem_singleton.1 hout
      rw [bodyArgument] at hsent
      obtain ⟨a, _, ha, hsent⟩ := Lowering.bind_eq_ok_iff.1 hsent
      obtain ⟨rfl, -⟩ := Lowering.pure_eq_ok_iff.1 hsent
      exact ⟨_, _, _, a, _, _, ha, ⟨_, _, _, _, _, _, rfl⟩, rfl⟩

/-! ## Endpoints -/

/-- An endpoint is that of a request of an operation, as the operation declares it: it has the tags
of the operation, and its arguments are arranged, stand for the inputs of the request, and none is
from a mapping. -/
structure DeclaredFor (r : Resolver) (site : Site) (request : Option (RequestBody × BodyVariant))
    (e : Endpoint) : Prop where
  path : e.path = site.path
  httpMethod : e.httpMethod = site.method.text
  tags : e.tags =
    if site.operation.tags.isEmpty then [Endpoint.defaultTag] else site.operation.tags
  stage : e.stage = .raw
  allParams : ∃ ps inputs declared contents,
    r.components.declaredParameters site.item site.operation = .ok ps ∧
    r.bodyInputs site.operation request = .ok inputs ∧
    List.Forall₂ StandsFor declared (ps.map Parameter.input) ∧
    List.Forall₂ StandsFor contents inputs ∧
    e.allParams = r.setup.options.arrange declared contents

/-- Schemes that are not defined are left out of the ways to authenticate. -/
lemma authentication_eq_ok {d : Document} {op : Operation} {methods : List AuthMethod}
    (h : d.authentication op s = .ok (methods, s')) : methods = d.authMethods op := by
  rw [Document.authentication] at h
  obtain ⟨_, _, -, h⟩ := Lowering.bind_eq_ok_iff.1 h
  exact (Lowering.pure_eq_ok_iff.1 h).1.symm

/-- The endpoint of a request, from what was found of its arguments, of the responses, and of what
its method returns. -/
def endpointWith (r : Resolver) (d : Document) (site : Site) (nickname : String)
    (request : Option (RequestBody × BodyVariant)) (declared contents : List (Argument × NameSet))
    (responses : List LoweredResponse) (returned : Option Returned) : Endpoint :=
  let consumes := (request.map (·.2.mediaTypes)).getD []
  let produces := LoweredResponse.mediaTypes responses
  let e : Endpoint := { site.bareEndpoint nickname with
    consumes, produces
    authMethods := d.authMethods site.operation
    imports := ((declared ++ contents).map Prod.snd ++ responses.map (·.imports)).foldl
      NameSet.union {}
    allParams := r.setup.options.arrange (declared.map Prod.fst) (contents.map Prod.fst)
    responses := responses.map (·.outcome)
    responseHeaders := ((LoweredResponse.method? responses).map (·.outcome.headers)).getD []
    facets := { contentType := consumes.head?, accepts := some (Endpoint.accepted produces) } }
  match returned with
  | none => e.sortArguments
  | some ret => ({ e with imports := e.imports.union ret.imports }.returning ret).sortArguments

/-- **All that an endpoint is made from.** -/
theorem rawEndpoint_eq_ok {d : Document} {site : Site} {nickname : String}
    {request : Option (RequestBody × BodyVariant)} {e : Endpoint}
    (h : r.rawEndpoint d site nickname request s = .ok (e, s')) :
    ∃ ps declared contents responses returned t t' t'',
      r.components.declaredParameters site.item site.operation = .ok ps ∧
      ps.mapM (r.declaredArgument nickname) s = .ok (declared, t) ∧
      r.requestArguments site.operation request t = .ok (contents, t') ∧
      r.loweredResponses site.operation t' = .ok (responses, t'') ∧
      (LoweredResponse.method? responses = none ∧ returned = none ∨
        ∃ res, LoweredResponse.method? responses = some res ∧
          ∃ u u', r.returned res.response u = .ok (returned, u')) ∧
      e = r.endpointWith d site nickname request declared contents responses returned := by
  rw [rawEndpoint] at h
  obtain ⟨ps, _, hlift, h⟩ := Lowering.bind_eq_ok_iff.1 h
  obtain ⟨hps, rfl⟩ := Lowering.lift_eq_ok_iff.1 hlift
  obtain ⟨declared, t, hdeclared, h⟩ := Lowering.bind_eq_ok_iff.1 h
  obtain ⟨contents, t', hcontents, h⟩ := bind_requestArguments h
  obtain ⟨responses, t'', hresponses, h⟩ := Lowering.bind_eq_ok_iff.1 h
  obtain ⟨authMethods, _, hmethods, h⟩ := Lowering.bind_eq_ok_iff.1 h
  obtain rfl := authentication_eq_ok hmethods
  cases hmethod : LoweredResponse.method? responses with
  | none =>
    simp only [hmethod] at h
    obtain ⟨rfl, -⟩ := Lowering.pure_eq_ok_iff.1 h
    refine ⟨ps, declared, contents, responses, none, t, t', t'', hps, hdeclared, hcontents,
      hresponses, .inl ⟨hmethod, rfl⟩, ?_⟩
    rw [endpointWith, hmethod]
    rfl
  | some res =>
    simp only [hmethod] at h
    obtain ⟨returned, u, hreturned, h⟩ := Lowering.bind_eq_ok_iff.1 h
    refine ⟨ps, declared, contents, responses, returned, t, t', t'', hps, hdeclared, hcontents,
      hresponses, .inr ⟨res, hmethod, _, u, hreturned⟩, ?_⟩
    cases returned with
    | none =>
      rw [endpointWith, hmethod]
      exact (Lowering.pure_eq_ok_iff.1 h).1.symm
    | some ret =>
      rw [endpointWith, hmethod]
      exact (Lowering.pure_eq_ok_iff.1 h).1.symm

/-- An endpoint has the arguments of its parameters and of its body. -/
lemma arguments_of_rawEndpoint {d : Document} {site : Site} {nickname : String}
    {request : Option (RequestBody × BodyVariant)} {e : Endpoint}
    (h : r.rawEndpoint d site nickname request s = .ok (e, s')) :
    ∃ ps declared contents t t',
      r.components.declaredParameters site.item site.operation = .ok ps ∧
      ps.mapM (r.declaredArgument nickname) s = .ok (declared, t) ∧
      r.requestArguments site.operation request t = .ok (contents, t') ∧
      e.allParams =
        r.setup.options.arrange (declared.map Prod.fst) (contents.map Prod.fst) ∧
      e.facets.contentType = ((request.map (·.2.mediaTypes)).getD []).head? ∧
      e.path = site.path ∧ e.httpMethod = site.method.text ∧ e.stage = .raw ∧ e.tags =
        if site.operation.tags.isEmpty then [Endpoint.defaultTag] else site.operation.tags := by
  obtain ⟨ps, declared, contents, responses, returned, t, t', -, hps, hdeclared, hcontents, -, -,
    rfl⟩ := rawEndpoint_eq_ok h
  refine ⟨ps, declared, contents, t, t', hps, hdeclared, hcontents, ?_⟩
  cases returned <;> exact ⟨rfl, rfl, rfl, rfl, rfl, rfl⟩

/-- An endpoint has the name that it is given, no examples of its own, the media types of its
request, and the ways to authenticate of the operation. -/
lemma heading_rawEndpoint {d : Document} {site : Site} {nickname : String}
    {request : Option (RequestBody × BodyVariant)} {e : Endpoint}
    (h : r.rawEndpoint d site nickname request s = .ok (e, s')) :
    e.heading = ((nickname, none, none), (request.map (·.2.mediaTypes)).getD [],
      d.authMethods site.operation) := by
  obtain ⟨_, _, _, _, returned, _, _, _, -, -, -, -, -, rfl⟩ := rawEndpoint_eq_ok h
  cases returned <;> rfl

/-- An endpoint has the name that it is given, and no examples of its own. -/
lemma label_rawEndpoint {d : Document} {site : Site} {nickname : String}
    {request : Option (RequestBody × BodyVariant)} {e : Endpoint}
    (h : r.rawEndpoint d site nickname request s = .ok (e, s')) :
    e.label = (nickname, none, none) := congrArg Prod.fst (heading_rawEndpoint h)

/-- An endpoint consumes the media types of its request. -/
lemma consumes_rawEndpoint {d : Document} {site : Site} {nickname : String}
    {request : Option (RequestBody × BodyVariant)} {e : Endpoint}
    (h : r.rawEndpoint d site nickname request s = .ok (e, s')) :
    e.consumes = (request.map (·.2.mediaTypes)).getD [] :=
  congrArg (·.2.1) (heading_rawEndpoint h)

/-- **The arguments of an endpoint stand for the inputs of its request.** -/
theorem rawEndpoint_spec {d : Document} {site : Site} {nickname : String}
    {request : Option (RequestBody × BodyVariant)} {e : Endpoint}
    (h : r.rawEndpoint d site nickname request s = .ok (e, s')) : DeclaredFor r site request e := by
  obtain ⟨ps, declared, contents, t, t', hps, hdeclared, hcontents, hall, -, hpath, hmethod, hstage,
    htags⟩ := arguments_of_rawEndpoint h
  have hstand : List.Forall₂ StandsFor (declared.map Prod.fst) (ps.map Parameter.input) := by
    rw [List.forall₂_map_left_iff, List.forall₂_map_right_iff]
    exact ((Lowering.forall₂_of_mapM hdeclared).imp fun p out ⟨_, _, hout⟩ =>
      declaredArgument_spec hout).flip
  obtain ⟨inputs, hinputs, hcontents⟩ := requestArguments_spec hcontents
  exact ⟨hpath, hmethod, htags, hstage, ps, inputs, _, _, hps, hinputs, hstand, hcontents, hall⟩

/-- Every variant of a body has a name. -/
lemma map_snd_variantNames (nickname : String) (vs : List BodyVariant) :
    (variantNames nickname vs).map Prod.snd = vs := by
  cases vs with
  | nil => rfl
  | cons first rest =>
    rw [variantNames, List.map_cons, List.map_map]
    exact congrArg (first :: ·) (List.map_id _)

/-- A body that an operation has is not empty. -/
lemma isEmpty_of_bodyOf {op : Operation} {body : Option RequestBody}
    (h : r.bodyOf op = .ok body) : ∀ b ∈ body, b.content.isEmpty = false := by
  rw [bodyOf] at h
  cases hop : op.requestBody with
  | none =>
    simp only [hop] at h
    obtain rfl := Except.ok.inj h
    exact fun b hb => nomatch hb
  | some ref =>
    simp only [hop] at h
    cases href : r.components.requestBody ref with
    | error f =>
      rw [href] at h
      cases h
    | ok b =>
      rw [href] at h
      obtain rfl := Except.ok.inj h
      intro b' hb'
      split at hb'
      · cases hb'
      · rename_i hempty
        obtain rfl := Option.some.inj hb'
        exact Bool.eq_false_iff.2 hempty

/-- The variants of a body are those of its requests. -/
lemma bodyVariants_spec {setup : Setup} {nickname : String} {body : RequestBody}
    {vs : List BodyVariant} (h : setup.bodyVariants nickname body s = .ok (vs, s')) :
    setup.requests (some body) = vs.map fun v => some (body, v) := by
  rw [Setup.bodyVariants] at h
  rw [Setup.requests]
  split at h
  · rename_i hdivided
    obtain ⟨rfl, -⟩ := Lowering.pure_eq_ok_iff.1 h
    rw [if_pos hdivided]
  · rename_i hdivided
    rw [if_neg hdivided]
    split at h
    · obtain ⟨_, _, -, h⟩ := Lowering.bind_eq_ok_iff.1 h
      obtain ⟨rfl, -⟩ := Lowering.pure_eq_ok_iff.1 h
      rfl
    · obtain ⟨rfl, -⟩ := Lowering.pure_eq_ok_iff.1 h
      rfl

/-- An endpoint is what becomes of a request of an operation at first. -/
def MakesEndpoint (r : Resolver) (d : Document) (site : Site)
    (request : Option (RequestBody × BodyVariant)) (e : Endpoint) : Prop :=
  ∃ nickname s s', r.rawEndpoint d site nickname request s = .ok (e, s')

/-- **An operation has one endpoint for each of its requests.** -/
theorem endpointsOf_eq_ok {d : Document} {site : Site} {es : List Endpoint}
    (h : r.endpointsOf d site s = .ok (es, s')) :
    ∃ body, r.bodyOf site.operation = .ok body ∧
      List.Forall₂ (r.MakesEndpoint d site) (r.setup.requests body) es := by
  rw [endpointsOf] at h
  obtain ⟨nickname, _, -, h⟩ := Lowering.bind_eq_ok_iff.1 h
  obtain ⟨body, _, hbody, h⟩ := Lowering.bind_eq_ok_iff.1 h
  obtain ⟨hbody, -⟩ := Lowering.lift_eq_ok_iff.1 hbody
  refine ⟨body, hbody, ?_⟩
  cases body with
  | none =>
    obtain ⟨e, _, he, h⟩ := Lowering.bind_eq_ok_iff.1 h
    obtain ⟨rfl, -⟩ := Lowering.pure_eq_ok_iff.1 h
    exact .cons ⟨_, _, _, he⟩ .nil
  | some body =>
    obtain ⟨vs, _, hvs, h⟩ := Lowering.bind_eq_ok_iff.1 h
    rw [bodyVariants_spec hvs, ← map_snd_variantNames nickname vs, List.map_map,
      List.forall₂_map_left_iff]
    exact (Lowering.forall₂_of_mapM h).imp fun _ e ⟨_, _, he⟩ => ⟨_, _, _, he⟩

end Resolver

end ApiLowering
