import ApiLowering.Proofs.Document.Samples
import ApiLowering.Proofs.Endpoints.Parts
import ApiLowering.Proofs.Models.MappedModels
import ApiLowering.Proofs.Run.Passes
import ApiLowering.Proofs.Types.Packages

/-!
# Packages of imports

What a program imports can be told apart: it is a class of the program, or it has a package. Models
and endpoints import what types import. Besides, a model imports the class that it extends, an
enumeration imports functions, and an endpoint imports what its returned type is wrapped in. A run
never forgets a package, so it is enough that these names have one at the start. Where the caller
maps nothing they do in Java. In Kotlin, containers and functions have none.

## Main definitions

* `Setup.wrapperTypes` — the types that endpoints may be changed to after they are declared.
* `Program.Qualifies` — a name is that of a class of the program, or has a package.

## Main results

* `Resolver.Builds.imports` — what models import.
* `Setup.Finishes.imports` — what endpoints import after they are declared.
* `Document.find?_importMapping_of_lowered` — programs know the packages that runs start with.
* `Document.qualified_of_lowered` — the imports of all programs.
* `Document.containers_without_package` — imports that nothing qualifies.
-/

namespace ApiLowering

/-! ## Models -/

/-- The name that enumerations import. -/
def Model.functionType : String := "Function"

namespace Resolver

variable {r : Resolver} {s s' : Session} {schema : Schema} {key classname : String}

lemma imports_properties {shape : Shape} {ps : List Property} {imports : NameSet}
    (h : r.properties shape s = .ok ((ps, imports), s')) : ∀ name ∈ imports, r.Imports name := by
  intro name hname
  obtain ⟨_, _, _, _, more, _, _, hmade, hname⟩ := exists_property_of_mem_imports h hname
  exact (made_of_property hmade).2 name hname

/-- A draft imports what types import: a class what its properties import, but for some names. An
enumeration imports functions alone. -/
lemma imports_draft {d : Draft} (h : r.draft key classname schema s = .ok (d, s')) :
    ∀ name ∈ d.model.imports, r.Imports name ∨
      d.model.isEnum = true ∧ name = Model.functionType := by
  intro name hname
  cases drafted_of_draft h with
  | enum =>
    rcases NameSet.mem_insert.1 hname with rfl | hname
    · exact .inr ⟨rfl, rfl⟩
    · exact (List.not_mem_nil hname).elim
  | «class» _ _ _ _ hvars =>
    obtain ⟨_, _, hvars⟩ := hvars
    simp only [classWith, neverImported, List.foldl_cons, List.foldl_nil,
      NameSet.mem_erase] at hname
    exact .inl (imports_properties hvars name hname.1.1.1)

/-- **What models import**: what types import, functions for enumerations, and the class that is
extended. -/
theorem Builds.imports {ds folded : Drafts} {g : Property → Property} {models : List Model}
    (h : Builds r ds folded g models) {m : Model} (hm : m ∈ models) :
    ∀ name ∈ m.imports, r.Imports name ∨ (m.isEnum = true ∧ name = Model.functionType) ∨
      ∃ p ∈ models, p.classname = name := by
  obtain ⟨key, d, alone, last, hway, hfinished⟩ := h.exists_way_of_mem hm
  obtain ⟨t, t', hdrafts⟩ := h.drafts
  obtain ⟨e, -, -, schema, -, t₁, t₂, hdraft⟩ :=
    (exists_draft_of_drafts hdrafts).2.2 key d hway.draft
  have hlinked := r.setup.linkedFrom_linked (Setup.interfaceLinks ds) d.model
  have himports : alone.model.imports = d.model.imports :=
    hway.liftedFrom.imports_eq.trans hlinked.imports
  have henum : alone.model.isEnum = d.model.isEnum :=
    hway.liftedFrom.isEnum_eq.trans hlinked.isEnum
  have hown : ∀ name ∈ alone.model.imports, r.Imports name ∨
      alone.model.isEnum = true ∧ name = Model.functionType := by
    rw [himports, henum]
    exact imports_draft hdraft
  have hlast : m.imports = last.model.imports ∧ m.isEnum = last.model.isEnum := by
    obtain ⟨_, _, _, rfl⟩ := hfinished
    exact ⟨rfl, rfl⟩
  rw [hlast.1, hlast.2, hway.eq_fold]
  cases hparent : folded.parent? alone with
  | none => exact fun name hname => (hown name hname).imp_right .inl
  | some parent =>
    intro name hname
    rcases NameSet.mem_insert.1 hname with rfl | hname
    · obtain ⟨p, hinherits, -, hp⟩ := h.exists_inheritsFrom hway hfinished hparent
      refine .inr (.inr ⟨p, hinherits.extends_.1, ?_⟩)
      obtain ⟨_, _, _, rfl⟩ := hp
      rfl
    · exact (hown name hname).imp_right .inl

end Resolver

/-! ## Endpoints -/

/-- The types that returned types are wrapped in. -/
def Dialect.wrappers : List String := [httpResponse, mono, flux]

/-- They have packages. -/
lemma Language.qualifies_wrapper (l : Language) : ∀ typeName ∈ Dialect.wrappers,
    ∃ parts, TypeName.split? typeName = some parts ∧ parts.1 ∈ l.dialect.importMapping.keys := by
  have hall : ∀ typeName ∈ Dialect.wrappers, ∃ parts ∈ TypeName.split? typeName,
      parts.1 ∈ l.dialect.importMapping.keys := by
    cases l <;> decide +kernel
  exact hall

namespace Setup

variable {setup : Setup} {e e' e'' : Endpoint} {s s' : Session}

/-- The types that endpoints may be changed to after they are declared: those that the caller puts
in the place of others, and those that returned types are wrapped in. -/
def wrapperTypes (setup : Setup) : List String :=
  setup.options.parameterMappings.filterMap (·.mappedType) ++
    setup.options.responseBodyMappings.filterMap (·.mappedBodyType) ++
      Dialect.wrappers

/-- An endpoint imports what another one does, and such types. -/
def Wraps (setup : Setup) (e e' : Endpoint) : Prop :=
  ∀ name ∈ e'.imports, name ∈ e.imports ∨
    ∃ typeName ∈ setup.wrapperTypes, name ∈ setup.importsOf typeName

lemma Wraps.of_eq (h : e'.imports = e.imports) : setup.Wraps e e' :=
  fun _ hname => .inl (h ▸ hname)

lemma Wraps.trans (h : setup.Wraps e e') (h' : setup.Wraps e' e'') : setup.Wraps e e'' :=
  fun name hname => (h' name hname).elim (h name) .inr

lemma wraps_normalizeEndpoint (h : setup.normalizeEndpoint e = .ok e') : setup.Wraps e e' := by
  obtain rfl := normalizeEndpoint_eq_ok h
  obtain ⟨f, -, -, hforms⟩ := Endpoint.exists_withFormArguments_eq
    (Endpoint.tidied { e with stage := .normalized })
  refine .of_eq ?_
  rw [hforms]
  rfl

/-- A mapped argument imports its type. -/
lemma mem_mappedArgument {m : ParameterMapping} {mappedType name : String} {imports : NameSet}
    {out : Argument × NameSet} (h : setup.mappedArgument m mappedType imports s = .ok (out, s')) :
    name ∈ out.2 ↔ name ∈ imports ∨ name ∈ setup.importsOf mappedType := by
  obtain ⟨paramName, _, himport, -⟩ := mappedArgument_eq_ok h
  exact mem_importType himport

lemma wraps_mapArgument {m : ParameterMapping} (hm : m ∈ setup.options.parameterMappings)
    (h : setup.mapArgument e m s = .ok (e', s')) : setup.Wraps e e' := by
  obtain ⟨-, rfl⟩ | ⟨mapped, out, hmapped, -, hout, rfl⟩ := mapArgument_cases h
  · exact .of_eq rfl
  · refine fun name hname => ((mem_mappedArgument hout).1 hname).imp_right fun hname =>
      ⟨mapped, ?_, hname⟩
    exact List.mem_append_left _ (List.mem_append_left _ (List.mem_filterMap.2 ⟨m, hm, hmapped⟩))

lemma wraps_mapArguments (h : setup.mapArguments e s = .ok (e', s')) : setup.Wraps e e' := by
  obtain ⟨mapped, hfold, rfl⟩ := exists_foldlM_of_mapArguments h
  have hmapped : setup.Wraps e mapped :=
    Lowering.foldlM_induction (P := fun _ x => setup.Wraps e x) hfold (.of_eq rfl)
      fun _ m hm _ _ _ _ hdone hstep => hdone.trans (wraps_mapArgument hm hstep)
  exact hmapped.trans (.of_eq rfl)

/-- An endpoint imports what its returned type is put in. -/
lemma keptByReturn_wraps (setup : Setup) (e : Endpoint) : setup.KeptByReturn (setup.Wraps e) where
  envelop := by
    intro e' e'' wrapper ofItems s s' hasked h he
    have hwrapper : wrapper ∈ setup.wrapperTypes := by
      refine List.mem_append.2 (hasked.imp_left fun hmapped => ?_)
      exact List.mem_append_right _ hmapped
    rw [envelop] at h
    obtain ⟨⟨simple, imports⟩, _, himport, h⟩ := Lowering.bind_eq_ok_iff.1 h
    obtain ⟨rfl, -⟩ := Lowering.pure_eq_ok_iff.1 h
    exact he.trans fun name hname => ((mem_importType himport).1 hname).imp_right fun hname =>
      ⟨wrapper, hwrapper, hname⟩
  headers _ _ he := he
  valid he := he
  bare _ he := he
  flux he := he
  stage _ he := he

lemma wraps_mapReturn (h : setup.mapReturn e s = .ok (e', s')) : setup.Wraps e e' :=
  ((setup.keptByReturn_wraps e).mapReturn h).2 (.of_eq rfl)

lemma wraps_wrapEndpoint (h : setup.wrapEndpoint e s = .ok (e', s')) : setup.Wraps e e' :=
  ((setup.keptByReturn_wraps e).wrapEndpoint h).2 (.of_eq rfl)

lemma wraps_annotateEndpoint {deprecated : List String}
    (h : setup.annotateEndpoint deprecated e s = .ok (e', s')) : setup.Wraps e e' := by
  obtain ⟨_, _, rfl⟩ := annotateEndpoint_eq_ok h
  exact .of_eq rfl

lemma wraps_freezeEndpoint {models : List Model}
    (h : setup.freezeEndpoint models e s = .ok (e', s')) : setup.Wraps e e' := by
  obtain ⟨examples, _, -, rfl⟩ := freezeEndpoint_eq_ok h
  obtain ⟨_, _, heq⟩ := setup.exists_exemplifyReturn_eq models examples { e with
    stage := .frozen
    allParams := e.allParams.map (exemplify examples)
    implicitHeadersParams := e.implicitHeadersParams.map (exemplify examples) }
  rw [heq]
  exact .of_eq rfl

/-- **What endpoints import after they are declared**: types that the caller puts in the place of
others, and wrappers. -/
theorem Finishes.imports {raw : Endpoint} (h : setup.Finishes raw e) : setup.Wraps raw e := by
  obtain ⟨models, s, s', h⟩ := h
  obtain ⟨normalized, mapped, returned, wrapped, annotated, _, _, _, _, hnormalized, hmapped,
    hreturned, hwrapped, hannotated, hfrozen⟩ := finishEndpoint_eq_ok h
  exact (wraps_normalizeEndpoint hnormalized).trans ((wraps_mapArguments hmapped).trans
    ((wraps_mapReturn hreturned).trans ((wraps_wrapEndpoint hwrapped).trans
      ((wraps_annotateEndpoint hannotated).trans (wraps_freezeEndpoint hfrozen)))))

end Setup

/-! ## Programs -/

/-- A name is that of a class of the program, or has a package. -/
def Program.Qualifies (program : Program) (name : String) : Prop :=
  name ∈ program.importMapping.keys ∨ ∃ m ∈ program.models, m.classname = name

instance (program : Program) (name : String) : Decidable (program.Qualifies name) :=
  inferInstanceAs (Decidable (_ ∨ _))

/-- A type has a package at the start of every run of its language. -/
lemma Setup.mem_keys_initialImports {o : Options} {name : String}
    (h : name ∈ o.language.dialect.importMapping.keys) : name ∈ (initialImports o).keys := by
  have hmapped : name ∈
      (o.language.dialect.importMapping.insertAll o.importMapping.entries).keys :=
    Table.mem_keys_insertAll.2 (.inl h)
  rw [initialImports]
  generalize o.language.dialect.importMapping.insertAll o.importMapping.entries = imports at *
  induction o.schemaMapping.values generalizing imports with
  | nil => exact hmapped
  | cons qualified rest ih =>
    refine ih _ ?_
    dsimp only
    split
    · exact Table.mem_keys_insertNew.2 (.inr hmapped)
    · exact hmapped

namespace Document

variable {d : Document} {o : Options} {program : Program} {warnings : List String}

/-- **A program knows the packages that its run starts with.** -/
theorem find?_importMapping_of_lowered (h : d.lowered o = .ok (program, warnings)) {name : String}
    {qualified : String} (hname : (Setup.initialImports o.canonical).find? name = some qualified) :
    program.importMapping.find? name = some qualified := by
  obtain ⟨setup, s, hsetup, hlower⟩ := exists_lower_of_lowered h
  obtain rfl := Setup.eq_of_ofOptions hsetup
  have hgrows := Setup.grows_lower _ d _ _ _ hlower
  have htable : program.importMapping = s.importMapping := by
    rw [Setup.lower] at hlower
    iterate 7 obtain ⟨_, _, -, hlower⟩ := Lowering.bind_eq_ok_iff.1 hlower
    obtain ⟨session, _, hget, hlower⟩ := Lowering.bind_eq_ok_iff.1 hlower
    obtain ⟨rfl, rfl⟩ := Prod.mk.inj (Except.ok.inj hget)
    obtain ⟨rfl, rfl⟩ := Lowering.pure_eq_ok_iff.1 hlower
    rfl
  rw [htable]
  exact hgrows.importMapping name qualified hname

/-- So every type that has a package from the start has one in the program. -/
lemma mem_keys_importMapping_of_lowered (h : d.lowered o = .ok (program, warnings)) {name : String}
    (hname : name ∈ o.language.dialect.importMapping.keys) : name ∈ program.importMapping.keys := by
  have hstart : name ∈ (Setup.initialImports o.canonical).keys :=
    Setup.mem_keys_initialImports (o := o.canonical) hname
  obtain ⟨qualified, hqualified⟩ := Option.isSome_iff_exists.1 (Table.contains_iff.2 hstart)
  exact Table.mem_keys_of_find? (find?_importMapping_of_lowered h hqualified)

/-- What types import is qualified, or lacking. -/
lemma qualifies_of_imports (h : d.lowered o = .ok (program, warnings)) (ho : o.Unmapped)
    {r : Resolver} {ds folded : Drafts} {g : Property → Property} (hr : d.resolver o = .ok r)
    (hbuilds : Resolver.Builds r ds folded g program.models) {binaryAsFile : Bool} {name : String}
    (hname : { r with binaryAsFile }.Imports name) :
    program.Qualifies name ∨ o.language.Lacks name := by
  obtain ⟨hsetup, -, -, s, s', -, hbuild⟩ := exists_build_of_resolver hr
  obtain ⟨t, ht, hname⟩ := hname
  rcases (ht.importable name hname).qualified hsetup ho with
    ⟨key, entry, hentry, rfl⟩ | hpackage | hlacks
  · obtain ⟨m, hm, -, hclass⟩ :=
      hbuilds.exists_model_of_entry (Resolver.nodup_keys_of_build hbuild).1 hentry
    exact .inl (.inr ⟨m, hm, hclass⟩)
  · exact .inl (.inl (mem_keys_importMapping_of_lowered h hpackage))
  · exact .inr hlacks

/-- **Imports are qualified.** Where the caller maps no types, every name that a model or an
endpoint imports is that of a class of the program, or it has a package. There are two exceptions,
both of them in Kotlin alone: containers, and the functions of enumerations.

**Proof sketch.** What types import has a package at the start of the run, or is the class of a
model, or a container. What is imported besides is a parent, which is a model, or has a package at
the start too. A run only adds to the packages. -/
theorem qualified_of_lowered (h : d.lowered o = .ok (program, warnings)) (ho : o.Unmapped) :
    (∀ m ∈ program.models, ∀ name ∈ m.imports, program.Qualifies name ∨ o.language.Lacks name ∨
      o.language = .kotlin ∧ m.isEnum = true ∧ name = Model.functionType) ∧
    ∀ e ∈ program.endpoints, ∀ name ∈ e.imports,
      program.Qualifies name ∨ o.language.Lacks name := by
  obtain ⟨r, ds, folded, g, hr, hbuilds⟩ := builds_of_lowered h
  refine ⟨fun m hm name hname => ?_, fun e he name hname => ?_⟩
  · rcases hbuilds.imports hm name hname with himports | ⟨henum, rfl⟩ | hclass
    · exact (qualifies_of_imports h ho hr hbuilds himports).imp_right .inl
    · cases hl : o.language with
      | java =>
        exact .inl (.inl (mem_keys_importMapping_of_lowered h (hl ▸ by decide)))
      | kotlin => exact .inr (.inr ⟨rfl, henum, rfl⟩)
    · exact .inl (.inr hclass)
  · obtain ⟨r', site, nickname, request, raw, s, s', hr', -, hraw, hfinish⟩ :=
      exists_finishes_of_lowered h he
    obtain rfl := Except.ok.inj (hr.symm.trans hr')
    rcases hfinish.imports name hname with himports | ⟨typeName, htype, hname⟩
    · exact qualifies_of_imports h ho hr hbuilds
        ((Resolver.furnishes_rawEndpoint hraw).imports name himports)
    · rw [Setup.wrapperTypes, (exists_build_of_resolver hr).1] at htype
      change typeName ∈ o.parameterMappings.filterMap _ ++
        o.responseBodyMappings.filterMap _ ++ Dialect.wrappers at htype
      rw [ho.parameterMappings, ho.responseBodyMappings] at htype
      obtain ⟨parts, hsplit, hpackage⟩ := o.language.qualifies_wrapper typeName htype
      rw [Setup.importsOf, hsplit] at hname
      obtain rfl := List.mem_singleton.1 (NameSet.mem_ofList.1 hname)
      exact .inl (.inl (mem_keys_importMapping_of_lowered h hpackage))

open Schema in
/-- Pets of some kinds, with tags, are listed. -/
def listedPets : Document :=
  let pet := Reference.toSchema "Pet"
  ofPath {
    get := some {
      responses := ⟨[("200", .inline {
        content := ⟨[(Content.json, { schema := some (listOf (.ref pet)) })]⟩ })]⟩ } }
    [("Kind", .inline { ofType .string with
        keywords.enumValues := [.string "cat", .string "dog"] }),
      ("Pet", ofProperties [("kind", .ref (Reference.toSchema "Kind")), ("tags", listOf text)])]

/-- In Java everything that is imported has a package or is a class. -/
theorem qualified_of_lowered_listedPets : ∃ program warnings,
    listedPets.lowered {} = .ok (program, warnings) ∧
    (program.models.map fun m => (m.classname, m.imports.names)) =
      [("Kind", ["Function"]), ("Pet", ["Kind", "List"])] ∧
    (program.endpoints.map fun e => e.imports.names) = [["List", "Mono", "Pet"]] ∧
    (∀ m ∈ program.models, ∀ name ∈ m.imports, program.Qualifies name) ∧
    ∀ e ∈ program.endpoints, ∀ name ∈ e.imports, program.Qualifies name := by
  obtain ⟨program, warnings, h, hmodels, hendpoints⟩ := exists_lowered (d := listedPets) (o := {})
    (P := fun program => (program.models.map fun m => (m.classname, m.imports.names)) =
        [("Kind", ["Function"]), ("Pet", ["Kind", "List"])] ∧
      (program.endpoints.map fun e => e.imports.names) = [["List", "Mono", "Pet"]])
    (by decide +kernel)
  obtain ⟨himports, hreturns⟩ := qualified_of_lowered h ⟨rfl, rfl, rfl, rfl⟩
  refine ⟨program, warnings, h, hmodels, hendpoints, fun m hm name hname => ?_,
    fun e he name hname => ?_⟩
  · rcases himports m hm name hname with hqualifies | ⟨hl, -⟩ | ⟨hl, -⟩
    · exact hqualifies
    · cases hl
    · cases hl
  · rcases hreturns e he name hname with hqualifies | ⟨hl, -⟩
    · exact hqualifies
    · cases hl

/-- **Imports without a package.** In Kotlin nothing qualifies the lists that pets and their
endpoint import, nor the functions of their kinds. -/
theorem containers_without_package : ∃ program warnings,
    listedPets.lowered .kotlinServer = .ok (program, warnings) ∧ Options.kotlinServer.Unmapped ∧
    Options.kotlinServer.importMapping = {} ∧
    (∃ m ∈ program.models, "List" ∈ m.imports.names) ∧
    (∃ m ∈ program.models, Model.functionType ∈ m.imports.names) ∧
    (∃ e ∈ program.endpoints, "List" ∈ e.imports.names) ∧
    ¬ program.Qualifies "List" ∧ ¬ program.Qualifies Model.functionType := by
  obtain ⟨program, warnings, h, hfound⟩ := exists_lowered (d := listedPets) (o := .kotlinServer)
    (P := fun program => (∃ m ∈ program.models, "List" ∈ m.imports.names) ∧
      (∃ m ∈ program.models, Model.functionType ∈ m.imports.names) ∧
      (∃ e ∈ program.endpoints, "List" ∈ e.imports.names) ∧
      ¬ program.Qualifies "List" ∧ ¬ program.Qualifies Model.functionType)
    (by decide +kernel)
  exact ⟨program, warnings, h, ⟨rfl, rfl, rfl, rfl⟩, rfl, hfound⟩

end Document

end ApiLowering
