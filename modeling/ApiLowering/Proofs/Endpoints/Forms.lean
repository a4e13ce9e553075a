import ApiLowering.Proofs.Endpoints.Mappings

/-!
# Fields and parts of forms

A request whose media type is a form has an argument for each field. Which argument it is, a field
of a form or a part of a body, is decided twice: when the endpoint is declared, where neither the
letter case of the media type nor its parameters count, and when it is normalized, where both do.

## Main definitions

* `Content.Spells` — a media type is one of the form encodings, in some spelling.
* `Argument.role` — an argument without all but its input and where it travels.
* `Endpoint.TakesFields`, `Endpoint.TakesParts` — the fields of a form, and the parts of a body.

## Main results

* `Setup.Finishes.argumentsAt` — what an endpoint lists for a place in the end.
* `Resolver.MakesEndpoint.fields` — the fields of a form when the endpoint is declared.
* `Document.forms_of_lowered` — the fields of forms in programs, for every spelling.
-/

namespace ApiLowering

/-! ## Spellings -/

namespace Content

/-- A media type is one of the form encodings, in any letter case and with any parameters. -/
def Spells (mediaType encoding : String) : Prop :=
  Text.equalsIgnoringCase (withoutParameters mediaType) encoding = true

instance (mediaType encoding : String) : Decidable (Spells mediaType encoding) :=
  decEq (Text.equalsIgnoringCase (withoutParameters mediaType) encoding) true

variable {mediaType : String}

lemma isForm_iff :
    isForm mediaType = true ↔ Spells mediaType urlEncoded ∨ Spells mediaType multipart := by
  rw [isForm, Bool.or_eq_true_iff, Spells, Spells]

/-- No media type is both encodings. -/
lemma Spells.ne_multipart (h : Spells mediaType urlEncoded) : mediaType ≠ multipart := by
  rintro rfl
  revert h
  decide +kernel

/-- A form is no media type that stands for another one. -/
lemma concrete_of_isForm (h : isForm mediaType = true) :
    Endpoint.concrete mediaType = mediaType := by
  rw [Endpoint.concrete, if_neg]
  intro hany
  rw [eq_of_beq hany] at h
  revert h
  decide +kernel

end Content

/-! ## Roles of arguments -/

namespace Argument

/-- The argument without all but its input, where it travels, and whether it is a part. -/
def role (a : Argument) : Argument where
  baseName := a.baseName
  required := a.required
  isBody := a.isBody
  isForm := a.isForm
  isPart := a.isPart
  isHeader := a.isHeader
  isPath := a.isPath
  isQuery := a.isQuery
  isCookie := a.isCookie

lemma travels_role (a : Argument) : a.role.travels = a.travels := by
  funext l
  cases l <;> rfl

lemma role_withFormat (a : Argument) : a.withFormat.role = a.role := by
  rw [withFormat]
  split <;> rfl

/-- A change that keeps roles keeps those of a list. -/
lemma map_role_map {f : Argument → Argument} (hf : ∀ a, (f a).role = a.role)
    (as : List Argument) : (as.map f).map role = as.map role := by
  rw [List.map_map]
  exact List.map_congr_left fun a _ => hf a

/-- The roles at a place are those of the arguments there. -/
lemma map_role_filter (l : MappedLocation) (as : List Argument) :
    (as.filter (·.travels l)).map role = (as.map role).filter (·.travels l) := by
  rw [List.filter_map]
  simp only [Function.comp_def, travels_role]

end Argument

lemma Setup.role_annotateArgument (setup : Setup) (deprecated : List String) (a : Argument) :
    (setup.annotateArgument deprecated a).role = a.role :=
  (a.annotated setup.annotator).role_withFormat

lemma Setup.role_exemplify (examples : Examples) (a : Argument) :
    (exemplify examples a).role = a.role := rfl

lemma Endpoint.map_role_projected (e : Endpoint) :
    e.projected.allParams.map Argument.role = e.allParams.map Argument.role :=
  Argument.map_role_map (f := (·.counted e.plainCount)) (fun _ => rfl) e.allParams

/-! ## Roles through the stages -/

namespace Setup

variable {setup : Setup} {raw e e' : Endpoint} {s s' : Session}

/-- The stages after the third keep the roles. -/
lemma Finishes.exists_mapped (h : setup.Finishes raw e) :
    ∃ normalized mapped t t', setup.normalizeEndpoint raw = .ok normalized ∧
      setup.mapArguments normalized t = .ok (mapped, t') ∧
      e.allParams.map Argument.role = mapped.allParams.map Argument.role := by
  obtain ⟨models, t, t', h⟩ := h
  obtain ⟨normalized, mapped, returned, wrapped, annotated, _, _, _, _, hnormalized, hmapped,
    hreturned, hwrapped, hannotated, hfrozen⟩ := finishEndpoint_eq_ok h
  have hbeside : wrapped.besideReturn = mapped.besideReturn :=
    (wrapEndpoint_spec hwrapped).2.trans (mapReturn_spec hreturned).2
  have hkept : wrapped.besideReturn.allParams = mapped.besideReturn.allParams := by rw [hbeside]
  obtain ⟨x, -, hx, rfl⟩ := annotateEndpoint_spec hannotated
  obtain ⟨y, examples, -, hy, rfl⟩ := freezeEndpoint_spec hfrozen
  refine ⟨normalized, mapped, _, _, hnormalized, hmapped, ?_⟩
  calc y.projected.allParams.map Argument.role
      = y.allParams.map Argument.role := y.map_role_projected
    _ = x.projected.allParams.map Argument.role := by
        rw [hy, Argument.map_role_map (role_exemplify examples)]
    _ = x.allParams.map Argument.role := x.map_role_projected
    _ = wrapped.allParams.map Argument.role := by
        rw [hx, Argument.map_role_map (setup.role_annotateArgument _)]
    _ = mapped.allParams.map Argument.role := congrArg (List.map Argument.role) hkept

/-- **The third stage keeps exactly the arguments that no mapping is for.** What it adds travels
nowhere. -/
theorem exists_mapArguments_eq (h : setup.mapArguments e s = .ok (e', s')) :
    ∃ added, e'.allParams.map Argument.role =
        (e.allParams.filter setup.options.leaves ++ added).map Argument.role ∧
      ∀ a ∈ added, ∀ l, a.travels l = false := by
  obtain ⟨added, hadded, hall⟩ := mapArguments_eq_ok h
  refine ⟨added, ?_, fun a ha => ?_⟩
  · have hnamed (a : Argument) : (setup.named a).role = a.role := by
      rw [named]
      split <;> rfl
    rw [hall, Argument.map_role_map (f := (·.counted e'.plainCount)) (fun _ => rfl),
      List.map_append, List.map_append, Argument.map_role_map hnamed]
  · obtain ⟨_, -, hintroduces⟩ := exists_mem_right_of_forall₂ hadded ha
    exact hintroduces.travels

end Setup

/-! ## Arguments as they are sent -/

namespace Setup

variable {setup : Setup} {raw e : Endpoint}

/-- An argument that travels elsewhere is no header. -/
lemma hidesArgument_of_travels {l : MappedLocation} {a : Argument} (h : a.Placed)
    (hl : l ≠ .header) (ha : a.travels l = true) : setup.hidesArgument a = false := by
  obtain ⟨place, -, hall⟩ := h
  have hplace : place = some l := by simpa [hall] using ha
  have hheader : a.isHeader = false := by
    change a.travels .header = false
    rw [hall, hplace]
    exact beq_false_of_ne fun heq => hl (Option.some.inj heq)
  rw [hidesArgument, hheader, Bool.false_and]

/-- **What an endpoint lists for a place in the end**, other than for headers: the arguments that it
declares there, as the media type of the request has them, without those that a mapping is for. -/
theorem Finishes.argumentsAt (h : setup.Finishes raw e) (hshows : e.ShowsArguments)
    (hraw : ∀ a ∈ raw.allParams, a.Placed) {l : MappedLocation} (hl : l ≠ .header) :
    (e.argumentsAt l).map Argument.role =
      (((raw.allParams.map (Endpoint.asSent (raw.facets.contentType.map Endpoint.concrete))).filter
        (·.travels l)).filter setup.options.leaves).map Argument.role := by
  obtain ⟨normalized, mapped, t, t', hnormalized, hmapped, hroles⟩ := h.exists_mapped
  obtain ⟨added, hall, hadded⟩ := exists_mapArguments_eq hmapped
  obtain ⟨plain, hsent⟩ := exists_normalizeEndpoint_eq hnormalized
  set sent := raw.allParams.map (Endpoint.asSent (raw.facets.contentType.map Endpoint.concrete))
  have hplaced : ∀ a ∈ sent, a.Placed :=
    List.forall_mem_map.2 fun a ha => Endpoint.placed_asSent _ (hraw a ha)
  have hnone : added.filter (·.travels l) = [] :=
    List.filter_eq_nil_iff.2 fun a ha => by simp [hadded a ha l]
  have hvisible : (sent.filter (!setup.hidesArgument ·)).filter (·.travels l) =
      sent.filter (·.travels l) := by
    rw [List.filter_filter]
    refine List.filter_congr fun a ha => ?_
    cases htravels : a.travels l with
    | false => rfl
    | true => rw [hidesArgument_of_travels (hplaced a ha) hl htravels]; rfl
  have hleft : (normalized.allParams.filter setup.options.leaves).map Argument.role =
      ((sent.filter (!setup.hidesArgument ·)).filter setup.options.leaves).map Argument.role := by
    rw [hsent, List.filter_map]
    exact Argument.map_role_map (f := (·.counted plain)) (fun _ => rfl) _
  rw [hshows.places, Argument.map_role_filter, hroles, hall, ← Argument.map_role_filter,
    List.filter_append, hnone, List.append_nil, Argument.map_role_filter, hleft,
    ← Argument.map_role_filter, List.filter_comm, hvisible]

end Setup

/-! ## Declared fields -/

/-- Arguments that are arranged are those that were declared, but for their names. -/
lemma Options.perm_map_arrange {β : Type} {g : Argument → β}
    (hg : ∀ (a : Argument) name, g { a with paramName := name } = g a) (o : Options)
    (declared contents : List Argument) :
    ((o.arrange declared contents).map g).Perm (declared.map g ++ contents.map g) := by
  have hall : ((if o.prependFormOrBodyParameters then contents ++ declared
      else declared ++ contents).map g).Perm (declared.map g ++ contents.map g) := by
    split
    · rw [List.map_append]
      exact List.perm_append_comm
    · rw [List.map_append]
  have hunique := Argument.map_unique hg o.ensureUniqueParams
  rw [arrange]
  split
  · refine ((List.filter_append_perm _ _).map g).trans ?_
    rw [hunique]
    exact hall
  · rw [hunique]
    exact hall

/-- The fields of a form among the arguments of an endpoint. -/
def Endpoint.fields (e : Endpoint) : List Argument := e.allParams.filter (·.isForm)

namespace Resolver

variable {r : Resolver} {s s' : Session}

lemma travels_declaredArgument {nickname : String} {p : Parameter} {out : Argument × NameSet}
    (h : r.declaredArgument nickname p s = .ok (out, s')) :
    out.1.isBody = false ∧ out.1.isForm = false := by
  obtain ⟨a, t, ha, rfl⟩ := exists_declaredArgument_eq h
  obtain ⟨-, -, hplaces, -⟩ := argument_spec ha
  exact ⟨hplaces .body, hplaces .form⟩

lemma travels_formArguments {v : BodyVariant} {outs : List (Argument × NameSet)}
    (h : r.formArguments v s = .ok (outs, s')) :
    ∀ out ∈ outs, out.1.isBody = false ∧ out.1.isForm = true := by
  obtain ⟨-, rfl⟩ | ⟨_, _, _, -, -, hfields⟩ := formArguments_cases h
  · exact fun _ hout => (List.not_mem_nil hout).elim
  · intro out hout
    obtain ⟨field, -, hfield⟩ := exists_mem_right_of_forall₂ hfields hout
    exact hfield.travels

/-- **The fields of a form when the endpoint is declared** are the inputs of the form. There is no
body beside them. -/
theorem MakesEndpoint.fields {d : Document} {site : Site} {body : RequestBody} {v : BodyVariant}
    {raw : Endpoint} (h : r.MakesEndpoint d site (some (body, v)) raw)
    (hform : Content.isForm v.mediaType = true) :
    ∃ inputs, r.contentInputs site.operation body v = .ok inputs ∧
      (raw.fields.map Argument.input).Perm inputs ∧
      (∀ a ∈ raw.allParams, a.isBody = false) ∧
      raw.facets.contentType = some v.mediaType := by
  obtain ⟨nickname, s, s', h⟩ := h
  obtain ⟨ps, declared, contents, t, t', -, hdeclared, hcontents, hall, htype, -⟩ :=
    arguments_of_rawEndpoint h
  obtain ⟨inputs, hinputs, hstand⟩ := requestArguments_spec hcontents
  change r.contentArguments site.operation body v t = .ok (contents, t') at hcontents
  rw [contentArguments, if_pos hform] at hcontents
  have hothers : ∀ a ∈ declared.map Prod.fst, a.isBody = false ∧ a.isForm = false := by
    refine List.forall_mem_map.2 fun out hout => ?_
    obtain ⟨p, -, _, _, hp⟩ := exists_mem_right_of_forall₂ (Lowering.forall₂_of_mapM hdeclared) hout
    exact travels_declaredArgument hp
  have hfields : ∀ a ∈ contents.map Prod.fst, a.isBody = false ∧ a.isForm = true :=
    List.forall_mem_map.2 (travels_formArguments hcontents)
  refine ⟨inputs, hinputs, ?_, ?_, htype⟩
  · -- The fields are found among the arranged arguments by their mark, so pair it with the inputs.
    have hpairs := (Options.perm_map_arrange (g := fun a => (a.isForm, a.input)) (fun _ _ => rfl)
      r.setup.options (declared.map Prod.fst) (contents.map Prod.fst)).filter (·.1)
    have hnone : ((declared.map Prod.fst).map fun a => (a.isForm, a.input)).filter (·.1) = [] :=
      List.filter_eq_nil_iff.2 (List.forall_mem_map.2 fun a ha => by simp [(hothers a ha).2])
    have hsome : ((contents.map Prod.fst).map fun a => (a.isForm, a.input)).filter (·.1) =
        (contents.map Prod.fst).map fun a => (a.isForm, a.input) :=
      List.filter_eq_self.2 (List.forall_mem_map.2 fun a ha => by simp [(hfields a ha).2])
    rw [List.filter_append, hnone, hsome, List.nil_append, List.filter_map, ← hall] at hpairs
    have hinput := hpairs.map Prod.snd
    rw [List.map_map, List.map_map] at hinput
    rw [← map_input_of_standsFor hstand]
    exact hinput
  · rw [hall]
    exact Options.forall_arrange (P := fun a => a.isBody = false) (fun _ _ ha => ha)
      (fun a ha => (hothers a ha).1) fun a ha => (hfields a ha).1

end Resolver

/-! ## Fields and parts -/

namespace Endpoint

/-- An endpoint takes some fields of a form, and no body. -/
structure TakesFields (e : Endpoint) (fields : List Argument) : Prop where
  bodyParams : e.bodyParams = []
  formParams : e.formParams.map Argument.input = fields.map Argument.input

/-- An endpoint takes some parts of a body, and no fields. -/
structure TakesParts (e : Endpoint) (parts : List Argument) : Prop where
  formParams : e.formParams = []
  isPart : ∀ a ∈ e.bodyParams, a.isPart = true
  bodyParams : e.bodyParams.map Argument.input = parts.map Argument.input

variable {e raw : Endpoint} {as : List Argument}

lemma map_input_of_map_role {bs : List Argument} (h : as.map Argument.role = bs.map Argument.role) :
    as.map Argument.input = bs.map Argument.input := by
  have hinputs := congrArg (List.map Argument.input) h
  rwa [List.map_map, List.map_map] at hinputs

/-- Other than in parts, arguments without a body are sent as they are. -/
lemma map_asSent_of_ne {mediaType : Option String} (hmultipart : mediaType ≠ some Content.multipart)
    (has : ∀ a ∈ as, a.isBody = false) : as.map (asSent mediaType) = as := by
  rw [List.map_congr_left (g := id), List.map_id]
  intro a ha
  rw [asSent]
  split
  · exact if_neg (by simp [has a ha])
  · rw [if_neg (by simpa using hmultipart)]

/-- In parts, fields are parts of a body. -/
lemma filter_isBody_map_asPart (has : ∀ a ∈ as, a.isBody = false) :
    (as.map asPart).filter (·.isBody) = (as.filter (·.isForm)).map asPart := by
  rw [List.filter_map]
  congr 1
  refine List.filter_congr fun a ha => ?_
  rw [Function.comp_apply, asPart]
  cases hform : a.isForm with
  | true => rfl
  | false => exact has a ha

lemma filter_isForm_map_asPart (as : List Argument) : (as.map asPart).filter (·.isForm) = [] := by
  refine List.filter_eq_nil_iff.2 (List.forall_mem_map.2 fun a _ => ?_)
  rw [asPart]
  split
  · simp
  · assumption

lemma isPart_of_mem_parts {a : Argument} (ha : a ∈ raw.fields.map asPart) : a.isPart = true := by
  obtain ⟨b, hb, rfl⟩ := List.mem_map.1 ha
  rw [asPart, if_pos (List.mem_filter.1 hb).2]

end Endpoint

namespace Setup

variable {setup : Setup} {raw e : Endpoint} {mediaType : String}

/-- What becomes of the fields of a form, by the spelling of its media type. Fields that a mapping
is for are gone. -/
structure SendsForm (setup : Setup) (mediaType : String) (raw e : Endpoint) : Prop where
  encoding :
    Content.Spells mediaType Content.urlEncoded ∨ Content.Spells mediaType Content.multipart
  urlEncoded : Content.Spells mediaType Content.urlEncoded →
    e.TakesFields (raw.fields.filter setup.options.leaves)
  multipart : mediaType = Content.multipart →
    e.TakesParts ((raw.fields.map Endpoint.asPart).filter setup.options.leaves)
  respelled : Content.Spells mediaType Content.multipart → mediaType ≠ Content.multipart →
    e.TakesFields (raw.fields.filter setup.options.leaves)

/-- **Fields are fields unless the media type is `multipart/form-data` to the letter.** -/
theorem Finishes.sendsForm (h : setup.Finishes raw e) (hshows : e.ShowsArguments)
    (hraw : ∀ a ∈ raw.allParams, a.Placed) (hnone : ∀ a ∈ raw.allParams, a.isBody = false)
    (htype : raw.facets.contentType = some mediaType) (hform : Content.isForm mediaType = true) :
    setup.SendsForm mediaType raw e := by
  have hfields := h.argumentsAt hshows hraw (l := .form) (by decide)
  have hbodies := h.argumentsAt hshows hraw (l := .body) (by decide)
  rw [htype, Option.map_some, Content.concrete_of_isForm hform] at hfields hbodies
  have htakes (hne : mediaType ≠ Content.multipart) :
      e.TakesFields (raw.fields.filter setup.options.leaves) := by
    rw [Endpoint.map_asSent_of_ne (by simpa using hne) hnone] at hfields hbodies
    refine ⟨?_, Endpoint.map_input_of_map_role hfields⟩
    have hempty : raw.allParams.filter (·.travels .body) = [] :=
      List.filter_eq_nil_iff.2 fun a ha => by simp [Argument.travels, hnone a ha]
    rw [hempty] at hbodies
    exact List.map_eq_nil_iff.1 hbodies
  refine ⟨Content.isForm_iff.1 hform, fun hspells => htakes hspells.ne_multipart,
    fun hcanonical => ?_, fun _ => htakes⟩
  have hparts : Endpoint.asSent (some mediaType) = Endpoint.asPart := by
    rw [hcanonical]
    rfl
  rw [hparts] at hfields hbodies
  have hbodies : e.bodyParams.map Argument.role =
      ((raw.fields.map Endpoint.asPart).filter setup.options.leaves).map Argument.role := by
    rw [Endpoint.fields, ← Endpoint.filter_isBody_map_asPart hnone]
    exact hbodies
  refine ⟨?_, fun a ha => ?_, Endpoint.map_input_of_map_role hbodies⟩
  · have hempty : (raw.allParams.map Endpoint.asPart).filter (·.travels .form) = [] :=
      Endpoint.filter_isForm_map_asPart raw.allParams
    rw [hempty] at hfields
    exact List.map_eq_nil_iff.1 hfields
  · have hrole := List.mem_map_of_mem (f := Argument.role) ha
    rw [hbodies] at hrole
    obtain ⟨b, hb, hrole⟩ := List.mem_map.1 hrole
    have hpart : b.isPart = true := Endpoint.isPart_of_mem_parts (List.mem_of_mem_filter hb)
    change b.role.isPart = true at hpart
    rw [hrole] at hpart
    exact hpart

/-- The first request of a body is for the media type that it lists first. -/
lemma exists_requests_eq_cons {body : RequestBody} {content : MediaType}
    {others : List (String × MediaType)}
    (h : body.content.entries = (mediaType, content) :: others) :
    ∃ v rest, setup.requests (some body) = some (body, v) :: rest ∧ v.mediaType = mediaType ∧
      v.content = content := by
  have hkept (together : MediaType → MediaType → Bool) (es : List (String × MediaType))
      (first : BodyVariant) (vs : List BodyVariant) : ∃ v rest,
      es.foldl (fun vs e => BodyVariant.enter together e.1 e.2 vs) (first :: vs) = v :: rest ∧
        v.mediaType = first.mediaType ∧ v.content = first.content := by
    induction es generalizing first vs with
    | nil => exact ⟨first, vs, rfl, rfl, rfl⟩
    | cons e es ih =>
      rw [List.foldl_cons]
      dsimp only [BodyVariant.enter]
      split
      · exact ih { first with others := first.others ++ [e.1] } vs
      · exact ih first _
  obtain ⟨v, rest, hvs, htype, hcontent⟩ := hkept
    (if setup.settings.divideOperationsByContentType then MediaType.sameSchema
      else fun _ _ => true) others { mediaType, content } []
  refine ⟨v, rest.map fun v => some (body, v), ?_, htype, hcontent⟩
  rw [requests, BodyVariant.ofContent, h]
  exact congrArg (List.map fun v => some (body, v)) hvs

end Setup

/-! ## Programs -/

namespace Resolver

/-- An endpoint is made for a form: what it declares are the fields of the form, and these become
what the spelling of the media type has it. -/
def AnswersForm (r : Resolver) (d : Document) (site : Site) (body : RequestBody) (v : BodyVariant)
    (e : Endpoint) : Prop :=
  ∃ raw inputs, { r with binaryAsFile := true }.MakesEndpoint d site (some (body, v)) raw ∧
    r.setup.Finishes raw e ∧ r.contentInputs site.operation body v = .ok inputs ∧
    (raw.fields.map Argument.input).Perm inputs ∧ r.setup.SendsForm v.mediaType raw e

/-- The endpoints of an operation answer its requests, and those for forms, in any letter case and
with any parameters, as forms. The first request of a body is for the media type that it lists
first. -/
def AnswersForms (r : Resolver) (d : Document) (site : Site) (es : List Endpoint) : Prop :=
  ∃ body, r.bodyOf site.operation = .ok body ∧
    List.Forall₂ (fun request e => ∀ b v, request = some (b, v) →
      Content.isForm v.mediaType = true → r.AnswersForm d site b v e) (r.setup.requests body) es ∧
    ∀ b mediaType content others, body = some b →
      b.content.entries = (mediaType, content) :: others →
      ∃ v rest, r.setup.requests body = some (b, v) :: rest ∧ v.mediaType = mediaType ∧
        v.content = content

variable {r : Resolver} {d : Document} {site : Site} {body : RequestBody} {v : BodyVariant}
  {raw e : Endpoint}

lemma answersForm
    (hmade : { r with binaryAsFile := true }.MakesEndpoint d site (some (body, v)) raw)
    (hfinish : r.setup.Finishes raw e) (hform : Content.isForm v.mediaType = true) :
    r.AnswersForm d site body v e := by
  obtain ⟨inputs, hinputs, hfields, hnone, htype⟩ := hmade.fields hform
  obtain ⟨nickname, s, s', hraw⟩ := hmade
  have hdeclared := rawEndpoint_spec hraw
  have hshows := (Setup.showsArguments_of_passes hfinish.passes hdeclared.stage hdeclared.placed).2
  exact ⟨raw, inputs, ⟨nickname, s, s', hraw⟩, hfinish, hinputs, hfields,
    hfinish.sendsForm hshows hdeclared.placed hnone htype hform⟩

end Resolver

namespace Document

/-- **The fields of forms in programs.** For every request whose media type is a form, in any letter
case and with any parameters, the endpoint has an argument for each field, but for those that a
mapping is for. With key-value pairs they are fields of a form, and there is no body. In several
parts they are parts of a body, and there are no fields, if the media type is spelled to the letter;
if it is not, they are fields as with key-value pairs. -/
theorem forms_of_lowered {d : Document} {o : Options} {program : Program} {warnings : List String}
    (h : d.lowered o = .ok (program, warnings)) :
    ∃ r chunks, d.resolver o = .ok r ∧ r.setup = .ofCanonical o.canonical ∧
      r.components = (d.prepared o).parts ∧ program.endpoints = chunks.flatten ∧
      List.Forall₂ (r.AnswersForms (d.prepared o)) (d.prepared o).sites chunks := by
  obtain ⟨r, chunks, hr, hsetup, hcomponents, hchunks, hall⟩ := made_endpoints_of_lowered h
  refine ⟨r, chunks, hr, hsetup, hcomponents, hchunks, hall.imp ?_⟩
  rintro site es ⟨body, hbody, hes⟩
  refine ⟨body, hbody, hes.imp ?_, ?_⟩
  · rintro request e ⟨raw, hmade, hfinish⟩ b v rfl hform
    exact Resolver.answersForm hmade hfinish hform
  · rintro b mediaType content others rfl hentries
    exact Setup.exists_requests_eq_cons hentries

/-- Pets are named by a form of some media type. -/
def petForm (mediaType : String) (form : SchemaRef) : Document :=
  ofPath {
    post := some {
      requestBody := some (.inline { content := ⟨[(mediaType, { schema := some form })]⟩ }) } }
    [("Pet", Schema.ofProperties [("name", Schema.text)])]

/-- The base names of the fields of each endpoint, and of its bodies, which may be parts. -/
def formNames (program : Program) : List (List String × List (String × Bool)) :=
  program.endpoints.map fun e =>
    (e.formParams.map (·.baseName), e.bodyParams.map fun a => (a.baseName, a.isPart))

/-- A form in two parts. -/
def petParts : Document :=
  petForm Content.multipart (Schema.ofProperties [("name", Schema.text), ("age", Schema.text)])

/-- A form in parts, with a mapping that is for one of them. -/
theorem forms_of_lowered_petParts : ∃ program warnings,
    petParts.lowered { parameterMappings := [{ name := some "age" }] } = .ok (program, warnings) ∧
    formNames program = [([], [("name", true)])] ∧
    ∃ (r : Resolver) (chunks : List (List Endpoint)), program.endpoints = chunks.flatten ∧
      List.Forall₂
        (r.AnswersForms (petParts.prepared { parameterMappings := [{ name := some "age" }] }))
        (petParts.prepared { parameterMappings := [{ name := some "age" }] }).sites chunks := by
  obtain ⟨program, warnings, h, hnames⟩ := exists_lowered (d := petParts)
    (o := { parameterMappings := [{ name := some "age" }] })
    (P := fun program => formNames program = [([], [("name", true)])]) (by decide +kernel)
  obtain ⟨r, chunks, -, -, -, hchunks, hall⟩ := forms_of_lowered h
  exact ⟨program, warnings, h, hnames, r, chunks, hchunks, hall⟩

/-- **A form in parts whose media type has a parameter has no parts**: its fields are fields, as if
they were sent as key-value pairs. -/
theorem respelled_multipart_has_no_parts :
    Content.isForm "multipart/form-data; boundary=x" = true ∧
    Content.Spells "multipart/form-data; boundary=x" Content.multipart ∧
    ∃ program warnings, (petForm "multipart/form-data; boundary=x"
      (Schema.ofProperties [("name", Schema.text)])).lowered {} = .ok (program, warnings) ∧
      formNames program = [(["name"], [])] :=
  ⟨by decide +kernel, by decide +kernel, exists_lowered (by decide +kernel)⟩

end Document

end ApiLowering
