import ApiLowering.Proofs.Endpoints.Variants

/-!
# Legal names of methods

A method is named for what is left of the name of its operation, or for its path and its HTTP
method. The name is legal and not reserved exactly if something is left of it, a letter or a digit:
no error is reported for a name that is not there. The methods of further variants add to this name
what is left of a media type, and nothing looks at the result again. So it may be reserved, and if
there is no name, it may start with a digit.

## Main definitions

* `Text.IsMethodName` — a letter, then letters and digits.
* `Text.HasWord` — a text has a letter or a digit.
* `Names.Callable` — legal names that are not reserved.

## Main results

* `Names.callable_methodName_iff` — when a method has a legal name.
* `Names.hasWord_operationId` — names that are made up always have something left.
* `Document.callable_of_lowered` — the names of all methods of a program.
-/

namespace ApiLowering

namespace Text

variable {s t : String} {cs : List Char}

/-! ## Texts as names -/

/-- A legal name of a method: a letter, then letters and digits. -/
def IsMethodName (s : String) : Prop :=
  ∃ c cs, s.toList = c :: cs ∧ c.isAlpha = true ∧ ∀ d ∈ cs, d.isAlphanum = true

/-- A text has a letter or a digit of ASCII. -/
def HasWord (s : String) : Prop := ∃ c ∈ s.toList, c.isAlphanum = true

/-- Letters and digits are a legal name unless there are none or a digit is the first of them. -/
lemma isMethodName_iff (h : ∀ c ∈ s.toList, c.isAlphanum = true) :
    IsMethodName s ↔ s ≠ "" ∧ Names.startsWithDigit s = false := by
  rw [IsMethodName, Names.startsWithDigit, Ne, ← String.toList_eq_nil_iff]
  cases hs : s.toList with
  | nil => simp
  | cons c cs =>
    rw [hs, List.forall_mem_cons] at h
    obtain ⟨hc, hcs⟩ := h
    constructor
    · rintro ⟨c, cs, heq, hletter, -⟩
      obtain ⟨rfl, rfl⟩ := List.cons.inj heq
      refine ⟨List.cons_ne_nil _ _, Bool.eq_false_iff.2 fun hdigit => ?_⟩
      rw [isAlpha_eq_false_of_isDigit hdigit] at hletter
      cases hletter
    · rintro ⟨-, hdigit⟩
      refine ⟨c, cs, rfl, ?_, hcs⟩
      change c.isDigit = false at hdigit
      rwa [Char.isAlphanum, hdigit, Bool.or_false] at hc

/-- A legal name goes on with letters and digits. -/
lemma IsMethodName.append (h : IsMethodName s) (ht : ∀ c ∈ t.toList, c.isAlphanum = true) :
    IsMethodName (s ++ t) := by
  obtain ⟨c, cs, hs, hc, hcs⟩ := h
  refine ⟨c, cs ++ t.toList, ?_, hc, List.forall_mem_append.2 ⟨hcs, ht⟩⟩
  rw [String.toList_append, hs, List.cons_append]

lemma not_isMethodName_empty : ¬ IsMethodName "" := by
  rintro ⟨c, cs, hs, -⟩
  cases hs

/-! ## Camel case -/

/-- Camel case with a small start holds letters and digits alone. -/
lemma isAlphanum_of_mem_lowerCamelCase (h : ∀ c ∈ cs, isIdentifierPart c = true) :
    ∀ c ∈ (lowerCamelCase (String.ofList cs)).toList, c.isAlphanum = true := by
  have halphanum := isAlphanum_of_mem_camelCase h
  rw [lowerCamelCase]
  cases hcamel : (camelCase (String.ofList cs)).toList with
  | nil =>
    rw [lowerFirst, hcamel]
    exact List.forall_mem_nil _
  | cons c rest =>
    rw [hcamel, List.forall_mem_cons] at halphanum
    rw [toList_lowerFirst hcamel halphanum.1]
    exact List.forall_mem_cons.2 ⟨isAlphanum_toLower halphanum.1, halphanum.2⟩

/-- Nothing is left of an identifier exactly if it has neither letters nor digits. -/
lemma lowerCamelCase_eq_empty_iff (h : ∀ c ∈ cs, isIdentifierPart c = true) :
    lowerCamelCase (String.ofList cs) = "" ↔ ∀ c ∈ cs, c.isAlphanum = false := by
  have hseparator : (∀ c ∈ cs, isSeparator c = true) ↔ ∀ c ∈ cs, c.isAlphanum = false := by
    refine forall₂_congr fun c hc => ?_
    rw [isSeparator_of_isIdentifierPart (h c hc), Bool.not_eq_true']
  have hcamel : (camelCase (String.ofList cs)).toList = [] ↔
      ∀ c ∈ cs, c.isAlphanum = false := by
    rw [toList_camelCase h, flatMap_capitalized_eq_nil_iff, hseparator]
  rw [← hcamel, lowerCamelCase]
  cases hparts : (camelCase (String.ofList cs)).toList with
  | nil =>
    rw [lowerFirst, hparts]
    exact iff_of_true rfl rfl
  | cons c rest =>
    have hc := isAlphanum_of_mem_camelCase h c (hparts ▸ List.mem_cons_self)
    rw [← String.toList_eq_nil_iff, toList_lowerFirst hparts hc]
    simp

/-- The start of a name that cannot be used as it is. -/
def callStart : List Char := ['c', 'a', 'l', 'l']

/-- A name with another start. -/
lemma toList_lowerCamelCase_call (h : ∀ c ∈ s.toList, c.isAlphanum = true) :
    (lowerCamelCase ("call_" ++ s)).toList = callStart ++ capitalized s.toList := by
  have hs : "call_" ++ s = String.ofList (callStart ++ '_' :: s.toList) := by
    rw [← String.toList_inj, String.toList_append]
    simp only [String.toList_ofList]
    rfl
  have hidentifier : ∀ c ∈ s.toList, isIdentifierPart c = true := fun c hc => by
    rw [isIdentifierPart, h c hc, Bool.true_or]
  have hall : ∀ c ∈ callStart ++ '_' :: s.toList, isIdentifierPart c = true :=
    List.forall_mem_append.2
      ⟨List.all_eq_true.1 rfl, List.forall_mem_cons.2 ⟨rfl, hidentifier⟩⟩
  have hone : splitWhere isSeparator s.toList = [s.toList] :=
    splitWhere_of_forall fun c hc => by
      rw [isSeparator_of_isIdentifierPart (hidentifier c hc), h c hc]
      rfl
  have hsplit : splitWhere isSeparator (callStart ++ '_' :: s.toList) =
      [callStart, s.toList] := by
    simp [callStart, splitWhere, isSeparator, hone]
  have hcamel : (camelCase (String.ofList (callStart ++ '_' :: s.toList))).toList =
      'C' :: 'a' :: 'l' :: 'l' :: capitalized s.toList := by
    rw [toList_camelCase hall, hsplit, List.flatMap_cons, List.flatMap_singleton]
    rfl
  rw [hs, lowerCamelCase, toList_lowerFirst hcamel (by decide)]
  rfl

end Text

/-! ## Names that can be called -/

namespace Names

open Text

variable {n : Names} {l : Language} {name raw : String}

/-- A name of a method that is legal and not reserved. -/
structure Callable (n : Names) (name : String) : Prop where
  legal : IsMethodName name
  free : n.isReserved name = false

/-- No reserved word looks like a method that is called differently. -/
lemma not_call_of_mem_reservedWords (l : Language) :
    ∀ word ∈ l.dialect.reservedWords, ¬ callStart <+: word.toList := by
  cases l <;> decide +kernel

/-- There is no reserved word without letters. -/
lemma isReserved_empty (hn : n.reserved = l.dialect.reservedWords) : n.isReserved "" = false := by
  rw [isReserved, hn]
  cases l <;> decide +kernel

/-- A name with another start is legal and not reserved. -/
lemma callable_call (hn : n.reserved = l.dialect.reservedWords)
    (h : ∀ c ∈ name.toList, c.isAlphanum = true) :
    n.Callable (lowerCamelCase ("call_" ++ name)) := by
  have hcall := toList_lowerCamelCase_call h
  refine ⟨⟨'c', ['a', 'l', 'l'] ++ capitalized name.toList, hcall, by decide, ?_⟩,
    Bool.eq_false_iff.2 fun hreserved => ?_⟩
  · exact List.forall_mem_append.2 ⟨List.all_eq_true.1 rfl, isAlphanum_of_mem_capitalized h⟩
  · rw [isReserved, hn, List.contains_iff_mem] at hreserved
    refine not_call_of_mem_reservedWords l _ hreserved ?_
    rw [hcall]
    exact List.prefix_append callStart _

/-- A method has no name exactly if nothing is left of what it is made from. Otherwise the name can
be called. -/
lemma methodName_cases (hn : n.reserved = l.dialect.reservedWords) (raw : String) :
    (n.Callable (n.methodName raw).1 ∧ HasWord raw) ∨
      ((n.methodName raw).1 = "" ∧ ¬ HasWord raw) := by
  have hparts := parts_asciiWord raw
  have halphanum := isAlphanum_of_mem_lowerCamelCase hparts
  have hempty : lowerCamelCase (asciiWord raw) = "" ↔ ¬ HasWord raw := by
    rw [asciiWord, lowerCamelCase_eq_empty_iff hparts, HasWord]
    simp only [List.forall_mem_map, not_exists, not_and, Bool.not_eq_true]
    refine forall₂_congr fun c _ => ?_
    cases hc : c.isAlphanum with
    | true => simp [hc]
    | false => exact iff_of_true rfl rfl
  change ∀ c ∈ (lowerCamelCase (asciiWord raw)).toList, c.isAlphanum = true at halphanum
  unfold methodName
  generalize lowerCamelCase (asciiWord raw) = name at halphanum hempty
  by_cases hname : name = ""
  · subst hname
    dsimp only
    rw [isReserved_empty hn]
    exact .inr ⟨rfl, hempty.1 rfl⟩
  · refine .inl ⟨?_, not_not.1 fun hraw => hname (hempty.2 hraw)⟩
    dsimp only
    split
    · exact callable_call hn halphanum
    · rename_i hgood
      obtain ⟨hfree, hdigit⟩ := Bool.or_eq_false_iff.1 (Bool.eq_false_iff.2 hgood)
      exact ⟨(isMethodName_iff halphanum).2 ⟨hname, hdigit⟩, hfree⟩

/-- **A method has a legal name that is not reserved** exactly if a letter or a digit is left of
what it is named for. -/
theorem callable_methodName_iff (hn : n.reserved = l.dialect.reservedWords) (raw : String) :
    n.Callable (n.methodName raw).1 ↔ HasWord raw := by
  rcases methodName_cases hn raw with ⟨hname, hraw⟩ | ⟨hname, hraw⟩
  · exact iff_of_true hname hraw
  · rw [hname]
    exact iff_of_false (fun h => not_isMethodName_empty h.legal) hraw

/-- **A name with an addition is legal** exactly if the name is, or there is no name and the
addition is. -/
theorem isMethodName_methodName_append_iff (hn : n.reserved = l.dialect.reservedWords)
    (raw : String) {suffix : String} (hsuffix : ∀ c ∈ suffix.toList, c.isAlphanum = true) :
    IsMethodName ((n.methodName raw).1 ++ suffix) ↔ HasWord raw ∨ IsMethodName suffix := by
  rcases methodName_cases hn raw with ⟨hname, hraw⟩ | ⟨hname, hraw⟩
  · exact iff_of_true (hname.legal.append hsuffix) (.inl hraw)
  · rw [hname, String.empty_append, or_iff_right hraw]

lemma mem_join {separator : String} {ss : List String} {s : String} (hs : s ∈ ss) {c : Char}
    (hc : c ∈ s.toList) : c ∈ (Text.join separator ss).toList := by
  rw [Text.join, String.toList_intercalate]
  induction ss with
  | nil => cases hs
  | cons t rest ih =>
    cases rest with
    | nil =>
      rw [List.mem_singleton.1 hs] at hc
      simpa using hc
    | cons t' rest =>
      rw [List.map_cons, List.map_cons, List.intercalate_cons_cons, List.append_assoc]
      rcases List.mem_cons.1 hs with rfl | hs
      · exact List.mem_append_left _ hc
      · exact List.mem_append_right _ (List.mem_append_right _ (ih hs))

/-- **Names that are made up always have something left**: the HTTP method. -/
theorem hasWord_operationId (path : String) (method : HttpMethod) :
    HasWord (operationId path method.text) := by
  obtain ⟨verb, hverb, hletter⟩ : ∃ c ∈ (asciiLower method.text).toList, c.isAlphanum = true := by
    rw [asciiLower, String.toList_ofList, ← List.any_eq_true]
    cases method <;> rfl
  unfold operationId
  dsimp only
  generalize hjoined : Text.join "_" _ = joined
  have hmem : verb ∈ joined.toList := by
    rw [← hjoined]
    exact mem_join (List.mem_append_right _ List.mem_cons_self) hverb
  have hparts := parts_asciiWord joined
  have hname : lowerCamelCase (String.ofList (joined.toList.map
      fun c => if c.isAlphanum then c else '_')) ≠ "" := fun hempty => by
    have hnone := (lowerCamelCase_eq_empty_iff hparts).1 hempty _ (List.mem_map_of_mem hmem)
    rw [if_pos hletter, hletter] at hnone
    cases hnone
  obtain ⟨c, hc⟩ := List.exists_mem_of_ne_nil _ (mt String.toList_eq_nil_iff.1 hname)
  exact ⟨c, hc, isAlphanum_of_mem_lowerCamelCase hparts c hc⟩

end Names

/-- What a media type adds to a name are letters and digits. -/
lemma Content.isAlphanum_of_mem_nameSuffix (mediaType : String) :
    ∀ c ∈ (nameSuffix mediaType).toList, c.isAlphanum = true :=
  Text.isAlphanum_of_mem_camelCase (Names.parts_asciiWord _)

/-! ## The methods of an operation -/

namespace Setup

variable {setup : Setup} {s s' : Session}

/-- A method is named for its operation, or for its path. -/
lemma exists_rawName_of_nickname {path nickname : String} {method : HttpMethod} {op : Operation}
    (h : setup.nickname path method op s = .ok (nickname, s')) :
    ∃ raw t, setup.rawName path method op s = .ok (raw, t) ∧
      nickname = (setup.names.methodName raw).1 := by
  rw [Setup.nickname] at h
  obtain ⟨raw, t, hraw, h⟩ := Lowering.bind_eq_ok_iff.1 h
  refine ⟨raw, t, hraw, ?_⟩
  cases hwarning : (setup.names.methodName raw).2 with
  | none =>
    simp only [hwarning] at h
    obtain ⟨hname, -⟩ := Lowering.pure_eq_ok_iff.1 h
    exact hname.symm
  | some message =>
    simp only [hwarning] at h
    obtain ⟨_, _, -, h⟩ := Lowering.bind_eq_ok_iff.1 h
    obtain ⟨hname, -⟩ := Lowering.pure_eq_ok_iff.1 h
    exact hname.symm

/-- Something is left of the name of an operation that has none of its own. -/
lemma hasWord_of_rawName {path raw : String} {method : HttpMethod} {op : Operation}
    (hop : op.ownName? = none) (h : setup.rawName path method op s = .ok (raw, s')) :
    Text.HasWord raw := by
  rw [rawName] at h
  simp only [hop] at h
  obtain ⟨_, _, -, h⟩ := Lowering.bind_eq_ok_iff.1 h
  obtain ⟨rfl, -⟩ := Lowering.pure_eq_ok_iff.1 h
  exact Names.hasWord_operationId path method

/-- The first method of an operation has its name, and the others add what is left of a media type.
There are others only if operations are divided. -/
lemma exists_methodNames_eq_cons (setup : Setup) (nickname : String) {body : Option RequestBody}
    (hbody : ∀ b ∈ body, b.content.isEmpty = false) :
    ∃ mediaTypes : List String,
      setup.methodNames nickname body =
        nickname :: mediaTypes.map (fun mediaType => nickname ++ Content.nameSuffix mediaType) ∧
      (∀ mediaType ∈ mediaTypes, ∃ b ∈ body, mediaType ∈ b.content.keys) ∧
      (setup.settings.divideOperationsByContentType = false → mediaTypes = []) := by
  cases body with
  | none => exact ⟨[], rfl, by simp, fun _ => rfl⟩
  | some b =>
    have hperm := BodyVariant.flatMap_mediaTypes_perm setup.together b.content
    cases hvs : BodyVariant.ofContent setup.together b.content with
    | nil => exact absurd hvs (BodyVariant.ofContent_ne_nil _ (hbody b rfl))
    | cons v rest =>
      rw [hvs] at hperm
      refine ⟨rest.map (·.mediaType), ?_, ?_, fun hwhole => ?_⟩
      · rw [methodNames, hvs, Resolver.variantNames, List.map_cons, List.map_map, List.map_map]
        rfl
      · intro mediaType hmem
        obtain ⟨w, hw, rfl⟩ := List.mem_map.1 hmem
        refine ⟨b, rfl, hperm.mem_iff.1 (List.mem_flatMap.2 ⟨w, List.mem_cons_of_mem _ hw, ?_⟩)⟩
        exact List.mem_cons_self
      · rw [together, hwhole] at hvs
        obtain ⟨w, hw, -⟩ := BodyVariant.ofContent_eq_singleton (hbody b rfl)
        obtain ⟨-, rfl⟩ := List.cons.inj (hw.symm.trans hvs)
        rfl

end Setup

/-! ## Programs -/

namespace Document

open Text

variable {d : Document} {o : Options} {program : Program} {warnings : List String}

/-- The names of the methods of a program are those of its operations. -/
lemma map_nickname_of_lowered (h : d.lowered o = .ok (program, warnings)) :
    ∃ r chunks, d.resolver o = .ok r ∧ r.setup = .ofCanonical o.canonical ∧
      r.components = (d.prepared o).parts ∧ program.endpoints = chunks.flatten ∧
      List.Forall₂ (fun site es => ∃ nickname body,
        (∃ s s', r.setup.nickname site.path site.method site.operation s = .ok (nickname, s')) ∧
        r.bodyOf site.operation = .ok body ∧
        es.map (·.nickname) = r.setup.methodNames nickname body) (d.prepared o).sites chunks := by
  obtain ⟨r, chunks, hr, hsetup, hcomponents, hchunks, hall⟩ := declared_endpoints_of_lowered h
  refine ⟨r, chunks, hr, hsetup, hcomponents, hchunks, hall.imp ?_⟩
  rintro site es ⟨raws, u, _, hes, hfinish⟩
  obtain ⟨nickname, body, ⟨u', hnickname⟩, hbody, hnames⟩ :=
    Resolver.map_nickname_eq_methodNames hes
  refine ⟨nickname, body, ⟨u, u', hnickname⟩, hbody, Eq.trans ?_ hnames⟩
  rw [← List.forall₂_eq_eq_eq, List.forall₂_map_left_iff, List.forall₂_map_right_iff]
  refine (hfinish.imp ?_).flip
  rintro e e' ⟨v, v', he⟩
  exact Setup.Finishes.nickname ⟨program.models, v, v', he⟩

/-- **When the methods of a program have legal names that are not reserved.** The first method of an
operation has one exactly if a letter or a digit of ASCII is left of what it is named for, so always
if the operation has no name of its own. If operations are divided, each other method adds what is
left of a media type: the name stays legal, but may become reserved, and if nothing was left before,
it is legal exactly if the addition is.

**Proof sketch.** What is left is put in camel case, so it holds letters and digits alone. If it is
reserved or starts with a digit it takes another start that no reserved word has, and otherwise it
is legal unless it is empty. The stages keep the names. -/
theorem callable_of_lowered (h : d.lowered o = .ok (program, warnings))
    (hwords : o.reservedWordsAugment = []) :
    ∃ r chunks, d.resolver o = .ok r ∧ r.components = (d.prepared o).parts ∧
      program.endpoints = chunks.flatten ∧
      List.Forall₂ (fun site es => ∃ raw first others,
        (∃ s s', r.setup.rawName site.path site.method site.operation s = .ok (raw, s')) ∧
        (site.operation.ownName? = none → HasWord raw) ∧ es = first :: others ∧
        (r.setup.names.Callable first.nickname ↔ HasWord raw) ∧
        (r.setup.settings.divideOperationsByContentType = false → others = []) ∧
        ∀ e ∈ others, ∃ b mediaType, r.bodyOf site.operation = .ok (some b) ∧
          mediaType ∈ b.content.keys ∧
          e.nickname = first.nickname ++ Content.nameSuffix mediaType ∧
          (r.setup.names.Callable e.nickname ↔
            (HasWord raw ∨ IsMethodName (Content.nameSuffix mediaType)) ∧
              r.setup.names.isReserved e.nickname = false)) (d.prepared o).sites chunks := by
  obtain ⟨r, chunks, hr, hsetup, hcomponents, hchunks, hall⟩ := map_nickname_of_lowered h
  have hreserved : r.setup.names.reserved = o.language.dialect.reservedWords := by
    rw [hsetup]
    change _ ++ distinctBy id o.reservedWordsAugment = _
    rw [hwords]
    exact List.append_nil _
  refine ⟨r, chunks, hr, hcomponents, hchunks, hall.imp ?_⟩
  rintro site es ⟨nickname, body, ⟨s, s', hnickname⟩, hbody, hnames⟩
  obtain ⟨raw, t, hraw, rfl⟩ := Setup.exists_rawName_of_nickname hnickname
  obtain ⟨mediaTypes, hmethods, hdeclared, hwhole⟩ :=
    r.setup.exists_methodNames_eq_cons (r.setup.names.methodName raw).1
      (Resolver.isEmpty_of_bodyOf hbody)
  rw [hmethods] at hnames
  obtain ⟨first, others, rfl, hfirst, hothers⟩ := List.map_eq_cons_iff.1 hnames
  refine ⟨raw, first, others, ⟨s, t, hraw⟩, fun hop => Setup.hasWord_of_rawName hop hraw, rfl, ?_,
    fun hdivide => ?_, fun e he => ?_⟩
  · rw [hfirst]
    exact Names.callable_methodName_iff hreserved raw
  · rw [hwhole hdivide] at hothers
    exact List.map_eq_nil_iff.1 hothers
  · have hmem : e.nickname ∈ others.map (·.nickname) := List.mem_map_of_mem he
    rw [hothers] at hmem
    obtain ⟨mediaType, hmediaType, hname⟩ := List.mem_map.1 hmem
    obtain ⟨b, hb, hkey⟩ := hdeclared mediaType hmediaType
    have hlegal := Names.isMethodName_methodName_append_iff hreserved raw
      (Content.isAlphanum_of_mem_nameSuffix mediaType)
    refine ⟨b, mediaType, hb ▸ hbody, hkey, hfirst ▸ hname.symm, ?_⟩
    rw [← hname, ← hlegal]
    exact ⟨fun hcall => ⟨hcall.legal, hcall.free⟩, fun hcall => ⟨hcall.1, hcall.2⟩⟩

/-- An addition may make a name reserved. -/
example : (Names.ofOptions {}).isReserved ("localVar" ++ Content.nameSuffix "application/path") =
    true := by decide +kernel

/-- Three media types make three names from that of the operation. -/
theorem callable_of_lowered_addedPet : ∃ program warnings,
    (addedPet ["text/plain", "application/json", "application/vnd.api+json"]).lowered dividing =
      .ok (program, warnings) ∧
    program.endpoints.map (·.nickname) = ["addPet", "addPetJson", "addPetVndApiJson"] ∧
    ∃ (r : Resolver) (chunks : List (List Endpoint)), program.endpoints = chunks.flatten ∧
      ∀ es ∈ chunks, ∃ raw first others, es = first :: others ∧
        (r.setup.names.Callable first.nickname ↔ HasWord raw) ∧
        ∀ e ∈ others, ∃ mediaType,
          e.nickname = first.nickname ++ Content.nameSuffix mediaType ∧
          (r.setup.names.Callable e.nickname ↔
            (HasWord raw ∨ IsMethodName (Content.nameSuffix mediaType)) ∧
              r.setup.names.isReserved e.nickname = false) := by
  obtain ⟨program, warnings, h, hnames⟩ := exists_lowered
    (d := addedPet ["text/plain", "application/json", "application/vnd.api+json"]) (o := dividing)
    (P := fun program => program.endpoints.map (·.nickname) =
      ["addPet", "addPetJson", "addPetVndApiJson"]) (by decide +kernel)
  obtain ⟨r, chunks, -, -, hchunks, hall⟩ := callable_of_lowered h rfl
  refine ⟨program, warnings, h, hnames, r, chunks, hchunks, fun es hes => ?_⟩
  obtain ⟨site, -, raw, first, others, -, -, heq, hfirst, -, hothers⟩ :=
    exists_mem_right_of_forall₂ hall hes
  refine ⟨raw, first, others, heq, hfirst, fun e he => ?_⟩
  obtain ⟨b, mediaType, -, -, hname, hcall⟩ := hothers e he
  exact ⟨mediaType, hname, hcall⟩

/-- Pets are listed by an operation of some name. -/
def listingPets (operationId : String) : Document :=
  ofPath { get := some { operationId := some operationId } } []

/-- **A method may have no name.** Nothing is left of the name of its operation. -/
theorem no_name_is_left : ∃ program warnings,
    (listingPets "_").lowered {} = .ok (program, warnings) ∧
    program.endpoints.map (·.nickname) = [""] ∧
    ¬ ∀ e ∈ program.endpoints, (Names.ofOptions {}).Callable e.nickname := by
  obtain ⟨program, warnings, h, hnames⟩ := exists_lowered (d := listingPets "_") (o := {})
    (P := fun program => program.endpoints.map (·.nickname) = [""]) (by decide +kernel)
  refine ⟨program, warnings, h, hnames, fun hall => ?_⟩
  obtain ⟨e, hendpoints, hname⟩ := List.map_eq_singleton_iff.1 hnames
  have hcall := hall e (by rw [hendpoints]; exact List.mem_singleton_self e)
  rw [hname] at hcall
  exact not_isMethodName_empty hcall.legal

end Document

end ApiLowering
