import ApiLowering.Proofs.Tables
import ApiLowering.Proofs.Types.Resolution

/-!
# Packages of imported types

A type imports the classes of models, what the caller maps schemas to, containers, and what words
are mapped to. Where the caller maps nothing, the words stand for types that either need no import
or have a package from the start. The containers of Kotlin have none.

## Main definitions

* `Resolver.Importable` — what types may import.
* `Options.Unmapped` — the caller puts no types of his own in the place of others.
* `Language.Lacks` — a container has no package.

## Main results

* `Resolver.Resolved.importable` — types import nothing else.
* `Resolver.Importable.qualified` — what types import has a package, unless it is lacking.
-/

namespace ApiLowering

/-! ## What types import -/

/-- The words that stand for containers. -/
def Dialect.containerWords : List String := ["array", "set", "map"]

namespace Resolver

variable {r : Resolver} {t : ResolvedType} {name : String}

/-- What types may import. -/
inductive Importable (r : Resolver) : String → Prop
  | model {key : String} {entry : ModelEntry} : r.models.find? key = some entry →
    Importable r entry.classname
  | schema {key mapped : String} : r.setup.options.schemaMapping.find? key = some mapped →
    Importable r (TypeName.simple mapped)
  | container {word container : String} : word ∈ Dialect.containerWords →
    r.setup.mappedType word = .ok container → Importable r container
  | word {word mapped name : String} : r.setup.mappedType word = .ok mapped →
    name ∈ r.setup.importsOf mapped → Importable r name

/-- Types import nothing else. -/
theorem Resolved.importable (h : r.Resolved t) : ∀ name ∈ t.imports, r.Importable name := by
  have honly {only name : String} (hname : name ∈ NameSet.ofList [only]) : name = only :=
    List.mem_singleton.1 (NameSet.mem_ofList.1 hname)
  induction h with
  | named hnamed =>
    intro name hname
    obtain ⟨_, hmapped, rfl⟩ | ⟨_, hentry, rfl⟩ := Resolver.namedType?_cases hnamed
    · exact honly hname ▸ .schema hmapped
    · exact honly hname ▸ .model hentry
  | word hmapped => exact fun name hname => .word hmapped hname
  | @array container unique items hmapped _ ih =>
    intro name hname
    rw [ResolvedType.imports_rewrap] at hname
    rcases NameSet.mem_union.1 hname with hname | hname
    · refine honly hname ▸ .container ?_ hmapped
      cases unique <;> simp [Dialect.containerWords]
    · exact ih name hname
  | map hmapped _ _ ih =>
    intro name hname
    rw [ResolvedType.imports_rewrap] at hname
    rcases NameSet.mem_union.1 hname with hname | hname
    · exact honly hname ▸ .container (by simp [Dialect.containerWords]) hmapped
    · exact ih name hname
  | replaced => exact fun name hname => (List.not_mem_nil hname).elim
  | enumerating _ _ ih => exact ih

end Resolver

/-! ## Packages from the start -/

/-- The containers of generated programs. -/
def Dialect.containers : List String := ["List", "Set", "Map"]

/-- A container has no package, since the language needs none for its own. -/
def Language.Lacks (l : Language) (name : String) : Prop :=
  l = .kotlin ∧ name ∈ Dialect.containers

/-- The caller puts no types of his own in the place of words, schemas, arguments and returned
types. -/
structure Options.Unmapped (o : Options) : Prop where
  typeMapping : o.typeMapping = {}
  schemaMapping : o.schemaMapping = {}
  parameterMappings : o.parameterMappings = []
  responseBodyMappings : o.responseBodyMappings = []

/-- A container has a package, unless it is lacking. -/
lemma Language.qualifies_container (l : Language) : ∀ name ∈ Dialect.containers,
    name ∈ l.dialect.importMapping.keys ∨ l.Lacks name := by
  cases l
  · exact fun name hname => .inl ((by decide : ∀ name ∈ Dialect.containers,
      name ∈ Dialect.java.importMapping.keys) name hname)
  · exact fun name hname => .inr ⟨rfl, hname⟩

/-- Words stand for simple types. Each needs no import, or has a package, or is a container. -/
lemma Language.qualifies_word (l : Language) (o : Options) :
    ∀ e ∈ (l.dialect.typeMapping o).entries, TypeName.split? e.2 = none ∧
      (l.dialect.isBuiltin e.2 = true ∨ e.2 ∈ l.dialect.importMapping.keys ∨
        e.2 ∈ Dialect.containers) ∧
      (e.1 ∈ Dialect.containerWords → e.2 ∈ Dialect.containers) := by
  rw [Dialect.typeMapping, Dialect.fileTypes]
  generalize o.isServer = server
  generalize o.dateTimeFormat = format
  cases l <;> cases server <;> cases format <;> decide +kernel

/-- Where the caller maps no words, they stand for what the language has them stand for. -/
lemma Options.Unmapped.mem_typeMapping {o : Options} (ho : o.Unmapped) {word mapped : String}
    (h : (Setup.ofCanonical o.canonical).mappedType word = .ok mapped) :
    (word, mapped) ∈ (o.language.dialect.typeMapping o.canonical).entries := by
  have hdefault : (Setup.ofCanonical o.canonical).typeMapping =
      o.language.dialect.typeMapping o.canonical := by
    change Table.insertAll _ o.typeMapping.entries = _
    rw [ho.typeMapping]
    rfl
  rw [Setup.mappedType, hdefault] at h
  split at h
  · rename_i found hfound
    obtain rfl := Except.ok.inj h
    exact Table.mem_of_find?_eq_some hfound
  · cases h

/-- Where the caller maps nothing, **what types import has a package from the start**, unless it is
the class of a model or lacking. -/
theorem Resolver.Importable.qualified {r : Resolver} {o : Options} {name : String}
    (h : r.Importable name) (hsetup : r.setup = .ofCanonical o.canonical) (ho : o.Unmapped) :
    (∃ key entry, r.models.find? key = some entry ∧ entry.classname = name) ∨
      name ∈ o.language.dialect.importMapping.keys ∨ o.language.Lacks name := by
  have hwords := o.language.qualifies_word o.canonical
  cases h with
  | model hfound => exact .inl ⟨_, _, hfound, rfl⟩
  | schema hmapped =>
    rw [hsetup] at hmapped
    change o.schemaMapping.sortByKey.find? _ = _ at hmapped
    rw [ho.schemaMapping] at hmapped
    cases hmapped
  | container hword hmapped =>
    have hcontainer := (hwords _ (ho.mem_typeMapping (hsetup ▸ hmapped))).2.2 hword
    exact .inr (o.language.qualifies_container _ hcontainer)
  | word hmapped hname =>
    obtain ⟨hsplit, hknown, -⟩ := hwords _ (ho.mem_typeMapping (hsetup ▸ hmapped))
    simp only [Setup.importsOf, hsplit] at hname
    split at hname
    · rename_i hneeds
      obtain rfl := List.mem_singleton.1 (NameSet.mem_ofList.1 hname)
      rcases hknown with hbuiltin | hpackage | hcontainer
      · rw [hsetup, Setup.needsImport, Bool.and_eq_true, Bool.not_eq_true'] at hneeds
        exact (Bool.eq_false_iff.1 hneeds.2 hbuiltin).elim
      · exact .inr (.inl hpackage)
      · exact .inr (o.language.qualifies_container _ hcontainer)
    · exact (List.not_mem_nil hname).elim

end ApiLowering
