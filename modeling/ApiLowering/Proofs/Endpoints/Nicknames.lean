import ApiLowering.Proofs.Endpoints.Inputs
import ApiLowering.Proofs.Lists
import ApiLowering.Proofs.Names.CamelCase

/-!
# The names of methods

An operation that is divided has a method for each schema of its body. The first method has the name
of the operation, and every other one adds what is left of the first media type of its schema: the
words of the subtype, joined. So two methods have one name if these words are the same, and if there
are none.

## Main definitions

* `Content.joinedWords` — the letters and digits of a subtype, each word with a capital.
* `RequestBody.leadingTypes` — the media types of a body that are the first of their schemas.
* `RequestBody.methodNames` — the names of the methods of a divided operation.
* `RequestBody.TellsApart` — the media types of a body give names that differ.
* `Setup.together` — whether two media types share a method.
* `Setup.methodNames` — the names of the methods of an operation.

## Main results

* `Content.toList_nameSuffix` — what a media type adds to the name of a method.
* `BodyVariant.map_leading_ofContent` — the variants of a body are led by the first of each schema.
* `Setup.Finishes.nickname` — the stages keep the name of a method.
* `Document.nicknames_of_divided` — when the methods of a divided operation have different names.
-/

namespace ApiLowering

/-! ## What media types add to names -/

/-- Characters may be changed before a text is split, if none between the separators is. -/
lemma Text.splitWhere_map {p q : Char → Bool} {f : Char → Char} (hsep : ∀ c, p (f c) = q c)
    (hkept : ∀ c, q c = false → f c = c) (cs : List Char) :
    splitWhere p (cs.map f) = splitWhere q cs := by
  induction cs with
  | nil => rfl
  | cons c cs ih =>
    rw [List.map_cons, splitWhere, splitWhere, hsep, ih]
    cases hc : q c with
    | true => rfl
    | false => rw [hkept c hc]

/-- Nothing is left between the separators exactly if there is nothing else. -/
lemma Text.flatMap_capitalized_eq_nil_iff {p : Char → Bool} {cs : List Char} :
    (splitWhere p cs).flatMap capitalized = [] ↔ ∀ c ∈ cs, p c = true := by
  have hpart (part : List Char) : capitalized part = [] ↔ part = [] := by
    cases part <;> simp [capitalized]
  have hwords : (splitWhere p cs).flatten = [] ↔ ∀ c ∈ cs, p c = true := by
    rw [flatten_splitWhere, List.filter_eq_nil_iff]
    simp
  rw [← hwords, List.flatMap_eq_nil_iff, List.flatten_eq_nil_iff]
  simp only [hpart]

/-- A word is made of letters, digits and underscores. -/
lemma Names.parts_asciiWord (s : String) :
    ∀ c ∈ s.toList.map (fun c => if c.isAlphanum then c else '_'),
      Text.isIdentifierPart c = true := by
  intro c hc
  obtain ⟨c, -, rfl⟩ := List.mem_map.1 hc
  cases hc : c.isAlphanum with
  | true => simp [Text.isIdentifierPart, hc]
  | false => rfl

namespace Content

open Text

/-- A media type without its main type and its parameters: `vnd.api+json` for
`application/vnd.api+json`. -/
def subtype (mediaType : String) : String :=
  afterLast '/' (String.ofList (mediaType.toList.takeWhile (· != ';')))

/-- The letters and digits of the subtype, each word with a capital. -/
def joinedWords (mediaType : String) : List Char :=
  (splitWhere (!·.isAlphanum) (subtype mediaType).toList).flatMap capitalized

/-- **A media type adds the words of its subtype to the name of a method**: nothing is left of its
main type, of its parameters and of what stands between the words. -/
theorem toList_nameSuffix (mediaType : String) :
    (nameSuffix mediaType).toList = joinedWords mediaType := by
  have hsep (c : Char) : isSeparator (if c.isAlphanum then c else '_') = !c.isAlphanum := by
    cases hc : c.isAlphanum with
    | true =>
      have hpart : isIdentifierPart c = true := by rw [isIdentifierPart, hc, Bool.true_or]
      rw [if_pos rfl, isSeparator_of_isIdentifierPart hpart, hc]
    | false => rfl
  have hkept (c : Char) (hc : (!c.isAlphanum) = false) :
      (if c.isAlphanum then c else '_') = c := if_pos (by simpa using hc)
  rw [nameSuffix, Names.asciiWord, toList_camelCase (Names.parts_asciiWord _),
    splitWhere_map hsep hkept]
  rfl

/-- Nothing is left of a subtype without letters and digits. -/
lemma joinedWords_eq_nil_iff (mediaType : String) :
    joinedWords mediaType = [] ↔ ∀ c ∈ (subtype mediaType).toList, c.isAlphanum = false := by
  rw [joinedWords, flatMap_capitalized_eq_nil_iff]
  simp only [Bool.not_eq_true']

end Content

/-! ## The first media types of schemas -/

namespace BodyVariant

/-- The media type that stands for a variant, with its content. -/
def leading (v : BodyVariant) : String × MediaType := (v.mediaType, v.content)

lemma map_leading_enter (together : MediaType → MediaType → Bool) (mediaType : String)
    (content : MediaType) (vs : List BodyVariant) :
    (enter together mediaType content vs).map leading = vs.map leading ++
      if (vs.map leading).any (fun e => together e.2 content) then []
      else [(mediaType, content)] := by
  induction vs with
  | nil => rfl
  | cons v rest ih =>
    rw [enter, List.map_cons, List.any_cons]
    change _ = v.leading :: rest.map leading ++ if together v.content content || _ then _ else _
    cases together v.content content with
    | true =>
      rw [Bool.true_or, if_pos rfl, if_pos rfl, List.append_nil]
      rfl
    | false =>
      rw [Bool.false_or, if_neg Bool.false_ne_true, List.map_cons, ih, List.cons_append]

/-- **The variants of a body are led by the media types that are together with none before them.**
-/
theorem map_leading_ofContent (together : MediaType → MediaType → Bool)
    (content : Table MediaType) : (ofContent together content).map leading =
      distinctWith (fun e e' => together e.2 e'.2) content.entries := by
  rw [ofContent]
  induction content.entries using List.reverseRecOn with
  | nil => rfl
  | append_singleton es e ih =>
    rw [List.foldl_concat, map_leading_enter, ih]
    exact (distinctFrom_concat _ [] es e).symm

/-- A body with contents has a variant. -/
lemma ofContent_ne_nil (together : MediaType → MediaType → Bool) {content : Table MediaType}
    (h : content.isEmpty = false) : ofContent together content ≠ [] := by
  intro hnil
  have hlead := map_leading_ofContent together content
  rw [hnil, List.map_nil] at hlead
  obtain ⟨es⟩ := content
  cases es with
  | nil => cases h
  | cons e es => cases hlead

end BodyVariant

namespace RequestBody

variable (b : RequestBody)

/-- The media types of a body that are the first of their schemas. -/
def leadingTypes : List String :=
  (distinctWith (fun e e' => e.2.sameSchema e'.2) b.content.entries).map Prod.fst

/-- The names of the methods of a divided operation: its own name, and one for each other schema of
the body. -/
def methodNames (nickname : String) : List String :=
  match b.leadingTypes with
  | [] => []
  | _ :: others => nickname :: others.map fun mediaType => nickname ++ Content.nameSuffix mediaType

/-- The media types of a body give names that differ: all but the first have words, and no two of
them the same. -/
structure TellsApart : Prop where
  hasWords : ∀ mediaType ∈ b.leadingTypes.tail,
    ∃ c ∈ (Content.subtype mediaType).toList, c.isAlphanum = true
  nodup : (b.leadingTypes.tail.map Content.joinedWords).Nodup

/-- The names of methods are different exactly if the media types tell them apart. -/
lemma nodup_methodNames_iff (nickname : String) :
    (b.methodNames nickname).Nodup ↔ b.TellsApart := by
  have hsuffix (mediaType mediaType' : String) :
      nickname ++ Content.nameSuffix mediaType = nickname ++ Content.nameSuffix mediaType' ↔
        Content.joinedWords mediaType = Content.joinedWords mediaType' := by
    rw [← String.toList_inj, String.toList_append, String.toList_append, List.append_cancel_left_eq,
      Content.toList_nameSuffix, Content.toList_nameSuffix]
  have hempty (mediaType : String) : nickname ++ Content.nameSuffix mediaType ≠ nickname ↔
      ∃ c ∈ (Content.subtype mediaType).toList, c.isAlphanum = true := by
    rw [Ne, ← String.toList_inj, String.toList_append, List.append_right_eq_self,
      Content.toList_nameSuffix, Content.joinedWords_eq_nil_iff]
    simp
  have htell : b.TellsApart ↔ (∀ mediaType ∈ b.leadingTypes.tail,
      ∃ c ∈ (Content.subtype mediaType).toList, c.isAlphanum = true) ∧
        (b.leadingTypes.tail.map Content.joinedWords).Nodup :=
    ⟨fun h => ⟨h.hasWords, h.nodup⟩, fun h => ⟨h.1, h.2⟩⟩
  rw [htell, methodNames]
  cases b.leadingTypes with
  | nil => simp
  | cons first others =>
    simp only [List.nodup_cons, List.tail_cons, List.mem_map, not_exists, not_and, hempty]
    refine and_congr Iff.rfl ?_
    rw [List.Nodup, List.pairwise_map, List.Nodup, List.pairwise_map]
    simp only [Ne, hsuffix]

end RequestBody

/-! ## Names through the stages -/

namespace Setup

variable {setup : Setup} {raw e : Endpoint}

/-- **The stages keep the name of a method.** -/
theorem Finishes.nickname (h : setup.Finishes raw e) : e.nickname = raw.nickname := by
  obtain ⟨models, s, s', h⟩ := h
  exact (finishEndpoint_keeps h).1

end Setup

/-! ## The variants of a body -/

namespace Setup

/-- Whether the media types of two contents share a method. -/
def together (setup : Setup) : MediaType → MediaType → Bool :=
  if setup.settings.divideOperationsByContentType then MediaType.sameSchema else fun _ _ => true

/-- The names of the methods of an operation: its own, if it has no body, or those of the variants
of its body. -/
def methodNames (setup : Setup) (nickname : String) : Option RequestBody → List String
  | none => [nickname]
  | some b => (Resolver.variantNames nickname
      (BodyVariant.ofContent setup.together b.content)).map Prod.fst

/-- A body always has its variants. -/
lemma exists_bodyVariants_eq_ok (setup : Setup) (nickname : String) (b : RequestBody)
    (s : Session) : ∃ s', setup.bodyVariants nickname b s =
      .ok (BodyVariant.ofContent setup.together b.content, s') := by
  rw [bodyVariants, together]
  split
  · exact ⟨s, rfl⟩
  · dsimp only
    split
    · obtain ⟨s', hwarned⟩ : ∃ s', (BodyVariant.ofContent (fun _ _ => true) b.content).forM
          (fun v => Lowering.warnOnce ("request-body:" ++ nickname) (v.warning nickname)) s =
            .ok ((), s') := by
        induction BodyVariant.ofContent (fun _ _ => true) b.content generalizing s with
        | nil => exact ⟨s, rfl⟩
        | cons v rest ih => exact ih _
      exact ⟨s', Lowering.bind_of_eq_ok hwarned⟩
    · exact ⟨s, rfl⟩

end Setup

/-! ## Divided operations -/

namespace Resolver

variable {r : Resolver} {s s' : Session}

/-- The first of the variants takes the name as it is. -/
lemma map_fst_variantNames (nickname : String) (b : RequestBody) :
    (variantNames nickname (BodyVariant.ofContent MediaType.sameSchema b.content)).map Prod.fst =
      b.methodNames nickname := by
  have hlead : (BodyVariant.ofContent MediaType.sameSchema b.content).map (·.mediaType) =
      b.leadingTypes := by
    rw [RequestBody.leadingTypes, ← BodyVariant.map_leading_ofContent, List.map_map]
    rfl
  rw [RequestBody.methodNames, ← hlead]
  cases BodyVariant.ofContent MediaType.sameSchema b.content with
  | nil => rfl
  | cons first rest =>
    simp only [variantNames, List.map_cons, List.map_map, Function.comp_def]

/-- The names of the methods of an operation that is divided: its own, if it has no body. -/
def dividedNames (nickname : String) : Option RequestBody → List String
  | none => [nickname]
  | some b => b.methodNames nickname

/-- The endpoints of an operation have the names of the variants of its body, or its own. -/
lemma map_nickname_eq_methodNames {d : Document} {site : Site} {es : List Endpoint}
    (h : r.endpointsOf d site s = .ok (es, s')) :
    ∃ nickname body, (∃ t, r.setup.nickname site.path site.method site.operation s =
        .ok (nickname, t)) ∧ r.bodyOf site.operation = .ok body ∧
      es.map (·.nickname) = r.setup.methodNames nickname body := by
  rw [endpointsOf] at h
  obtain ⟨nickname, t, hnickname, h⟩ := Lowering.bind_eq_ok_iff.1 h
  obtain ⟨body, u, hbody, h⟩ := Lowering.bind_eq_ok_iff.1 h
  obtain ⟨hbody, -⟩ := Lowering.lift_eq_ok_iff.1 hbody
  refine ⟨nickname, body, ⟨t, hnickname⟩, hbody, ?_⟩
  cases body with
  | none =>
    obtain ⟨e, _, he, h⟩ := Lowering.bind_eq_ok_iff.1 h
    obtain ⟨rfl, -⟩ := Lowering.pure_eq_ok_iff.1 h
    have hname : e.nickname = nickname := congrArg Prod.fst (label_rawEndpoint he)
    rw [List.map_singleton, hname, Setup.methodNames]
  | some b =>
    obtain ⟨vs, _, hvs, h⟩ := Lowering.bind_eq_ok_iff.1 h
    obtain ⟨_, hvariants⟩ := r.setup.exists_bodyVariants_eq_ok nickname b u
    obtain ⟨rfl, -⟩ := Prod.mk.inj (Except.ok.inj (hvariants.symm.trans hvs))
    rw [Setup.methodNames, ← List.forall₂_eq_eq_eq, List.forall₂_map_left_iff,
      List.forall₂_map_right_iff]
    refine ((Lowering.forall₂_of_mapM h).imp ?_).flip
    rintro v e ⟨_, _, he⟩
    exact congrArg Prod.fst (label_rawEndpoint he)

/-- The endpoints of an operation that is divided have the names that its media types give. -/
lemma map_nickname_of_endpointsOf {d : Document} {site : Site} {es : List Endpoint}
    (hdivide : r.setup.settings.divideOperationsByContentType = true)
    (h : r.endpointsOf d site s = .ok (es, s')) :
    ∃ nickname body, (∃ t, r.setup.nickname site.path site.method site.operation s =
        .ok (nickname, t)) ∧ r.bodyOf site.operation = .ok body ∧
      es.map (·.nickname) = dividedNames nickname body := by
  obtain ⟨nickname, body, hnickname, hbody, hnames⟩ := map_nickname_eq_methodNames h
  refine ⟨nickname, body, hnickname, hbody, hnames.trans ?_⟩
  cases body with
  | none => rfl
  | some b => rw [dividedNames, Setup.methodNames, Setup.together, if_pos hdivide,
      map_fst_variantNames]

end Resolver

/-! ## Programs -/

namespace Document

open Schema

/-- **Dividing an operation gives its methods different names exactly if its media types tell them
apart.** Every media type that is the first of its schema, but for the first of all, has a letter or
a digit in its subtype, and the words of no two of these subtypes are the same. -/
theorem nicknames_of_divided {d : Document} {o : Options} {program : Program}
    {warnings : List String} (h : d.lowered o = .ok (program, warnings))
    (hdivide : (Setup.ofCanonical o.canonical).settings.divideOperationsByContentType = true) :
    ∃ r chunks, d.resolver o = .ok r ∧ r.components = (d.prepared o).parts ∧
      program.endpoints = chunks.flatten ∧
      List.Forall₂ (fun site es => ∃ nickname body,
        (∃ s s', r.setup.nickname site.path site.method site.operation s = .ok (nickname, s')) ∧
        r.bodyOf site.operation = .ok body ∧
        es.map (·.nickname) = Resolver.dividedNames nickname body ∧
        ((es.map (·.nickname)).Nodup ↔ ∀ b ∈ body, b.TellsApart)) (d.prepared o).sites chunks := by
  obtain ⟨r, hstages⟩ := exists_stages_of_lowered h
  obtain ⟨hsetup, hcomponents, -⟩ := exists_build_of_resolver hstages.resolver
  obtain ⟨raw, s, s', t, t', hraw, hendpoints⟩ := hstages.endpoints
  rw [Resolver.rawEndpoints] at hraw
  obtain ⟨raws, s₁, hraws, hraw⟩ := Lowering.bind_eq_ok_iff.1 hraw
  obtain ⟨rfl, -⟩ := Lowering.pure_eq_ok_iff.1 hraw
  obtain ⟨chunks, hchunks, hfinish⟩ :=
    exists_flatten_of_forall₂ (Lowering.forall₂_of_mapM hendpoints)
  refine ⟨r, chunks, hstages.resolver, hcomponents, hchunks, ?_⟩
  refine (forall₂_comp (Lowering.forall₂_of_mapM hraws) hfinish).imp ?_
  rintro site es ⟨raw, ⟨u, _, hes⟩, hall⟩
  obtain ⟨nickname, body, ⟨u', hnickname⟩, hbody, hnames⟩ :=
    Resolver.map_nickname_of_endpointsOf (hsetup ▸ hdivide) hes
  have hkept : es.map (·.nickname) = raw.map (·.nickname) := by
    rw [← List.forall₂_eq_eq_eq, List.forall₂_map_left_iff, List.forall₂_map_right_iff]
    refine (hall.imp ?_).flip
    rintro e e' ⟨v, v', he⟩
    exact Setup.Finishes.nickname ⟨program.models, v, v', he⟩
  refine ⟨nickname, body, ⟨u, u', hnickname⟩, hbody, hkept.trans hnames, ?_⟩
  rw [hkept, hnames]
  cases body with
  | none => simp [Resolver.dividedNames]
  | some b =>
    rw [Resolver.dividedNames, b.nodup_methodNames_iff]
    simp

/-- A pet is added as a text of any of some media types. Their schemas have titles of their own. -/
def addedPet (mediaTypes : List String) : Document :=
  let titled (mediaType : String) : SchemaRef :=
    .inline { ofType .string with keywords.title := some mediaType }
  ofPath {
    post := some {
      operationId := some "addPet"
      requestBody := some (.inline {
        content := ⟨mediaTypes.map fun m => (m, { schema := some (titled m) })⟩ }) } } []

/-- Operations are divided by the contents of their bodies. -/
def dividing : Options := {
  openapiNormalizer := ⟨[("DIVIDE_OPERATIONS_BY_CONTENT_TYPE", "true")]⟩ }

/-- The subtypes of three media types are told apart by their words. -/
theorem nicknames_of_divided_addedPet : ∃ program warnings,
    (addedPet ["text/plain", "application/json", "application/vnd.api+json"]).lowered dividing =
      .ok (program, warnings) ∧
    program.endpoints.map (·.nickname) = ["addPet", "addPetJson", "addPetVndApiJson"] ∧
    ∃ chunks : List (List Endpoint), program.endpoints = chunks.flatten ∧
      ∀ es ∈ chunks, ∃ nickname body,
        es.map (·.nickname) = Resolver.dividedNames nickname body ∧
        ((es.map (·.nickname)).Nodup ↔ ∀ b ∈ body, b.TellsApart) := by
  obtain ⟨program, warnings, h, hnames⟩ := exists_lowered
    (d := addedPet ["text/plain", "application/json", "application/vnd.api+json"]) (o := dividing)
    (P := fun program => program.endpoints.map (·.nickname) =
      ["addPet", "addPetJson", "addPetVndApiJson"]) (by decide +kernel)
  obtain ⟨r, chunks, -, -, hchunks, hall⟩ := nicknames_of_divided h (by decide +kernel)
  refine ⟨program, warnings, h, hnames, chunks, hchunks, fun es hes => ?_⟩
  obtain ⟨site, -, nickname, body, -, -, hes⟩ := exists_mem_right_of_forall₂ hall hes
  exact ⟨nickname, body, hes⟩

/-- **Main types do not tell methods apart.** Two media types of XML give two methods one name. -/
theorem main_types_give_one_nickname : ∃ program warnings,
    (addedPet ["application/json", "application/xml", "text/xml"]).lowered dividing =
      .ok (program, warnings) ∧
    program.endpoints.map (·.nickname) = ["addPet", "addPetXml", "addPetXml"] ∧
    ¬(program.endpoints.map (·.nickname)).Nodup := by
  obtain ⟨program, warnings, h, hnames⟩ := exists_lowered
    (d := addedPet ["application/json", "application/xml", "text/xml"]) (o := dividing)
    (P := fun program => program.endpoints.map (·.nickname) =
      ["addPet", "addPetXml", "addPetXml"]) (by decide +kernel)
  exact ⟨program, warnings, h, hnames, by rw [hnames]; decide⟩

end Document

end ApiLowering
