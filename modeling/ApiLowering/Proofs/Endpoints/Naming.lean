import ApiLowering.Proofs.Endpoints.Inputs
import ApiLowering.Proofs.Endpoints.UniqueNames

/-!
# The names of arguments

Arguments get names of their own when they are declared. Later stages put names in the plural, and
mappings bring arguments with names of their own choice; these names are not compared with the
others any more.

## Main definitions

* `Options.renames` — whether an argument has its name from a later stage.

## Main results

* `Resolver.DeclaredFor.paramNames` — declared arguments have names of their own.
* `Document.paramNames_of_lowered` — the names of the arguments in all programs.
* `Document.plural_name_is_taken` — a plural that another argument is named.
-/

namespace ApiLowering

/-! ## Declared arguments -/

/-- **Declared arguments have names of their own**, and none is from a mapping. -/
theorem Resolver.DeclaredFor.paramNames {r : Resolver} {site : Site}
    {request : Option (RequestBody × BodyVariant)} {raw : Endpoint}
    (h : r.DeclaredFor site request raw) (hunique : r.setup.options.ensureUniqueParams = true) :
    (raw.allParams.map (·.paramName)).Nodup ∧ ∀ a ∈ raw.allParams, a.facets.mapped = false := by
  obtain ⟨ps, contents, as, bs, -, -, has, hbs, hall⟩ := h.allParams
  obtain ⟨args, hargs, hperm⟩ : ∃ args, (∀ a ∈ args, a.facets.mapped = false) ∧
      raw.allParams.Perm (Argument.unique args) := by
    have hdeclared : ∀ a ∈ as, a.facets.mapped = false := fun a ha => by
      obtain ⟨_, _, h⟩ := exists_mem_left_of_forall₂ has ha
      exact h.mapped
    have hcontents : ∀ a ∈ bs, a.facets.mapped = false := fun a ha => by
      obtain ⟨_, _, h⟩ := exists_mem_left_of_forall₂ hbs ha
      exact h.mapped
    refine ⟨if r.setup.options.prependFormOrBodyParameters then bs ++ as else as ++ bs, ?_, ?_⟩
    · split
      · exact List.forall_mem_append.2 ⟨hcontents, hdeclared⟩
      · exact List.forall_mem_append.2 ⟨hdeclared, hcontents⟩
    · rw [hall]
      simp only [Options.arrange, hunique, if_true]
      split
      · exact List.filter_append_perm _ _
      · exact .refl _
  refine ⟨(hperm.map _).nodup_iff.2 (Argument.nodup_paramNames_unique args), fun a ha => ?_⟩
  exact Argument.forall_uniqueFrom (fun _ _ h => h) hargs a (hperm.subset ha)

/-! ## Names from later stages -/

lemma append_ne_defaultBodyName (s : String) {ending : String}
    (h : ending.toList.getLast? = some 's') : s ++ ending ≠ Resolver.defaultBodyName := by
  intro heq
  have hlast := congrArg (fun t => t.toList.getLast?) heq
  simp only [String.toList_append, List.getLast?_append, h, Option.some_or] at hlast
  exact absurd hlast (by decide)

/-- A plural is never the name of any body: it ends in an `s`. -/
lemma plural_ne_defaultBodyName (s : String) : Text.plural s ≠ Resolver.defaultBodyName := by
  intro h
  rw [Text.plural] at h
  split at h
  · exact absurd h (by decide)
  · rename_i last before hreverse
    split at h
    · rename_i hplural
      subst h
      have hbody : (Text.asciiLower Resolver.defaultBodyName).toList.reverse =
          ['y', 'd', 'o', 'b'] := by decide
      obtain ⟨rfl, -⟩ := List.cons.inj (hreverse.symm.trans hbody)
      exact absurd hplural (by simp)
    · split at h
      · exact append_ne_defaultBodyName _ (by decide) h
      · split at h
        · exact append_ne_defaultBodyName _ (by decide) h
        · exact append_ne_defaultBodyName _ (by decide) h

/-- Whether an argument has its name from a stage that compares it with no other name: a mapping
introduced it, or the name took the plural. -/
def Options.renames (o : Options) (a : Argument) : Bool :=
  a.facets.mapped || (o.plural && a.takesPlural)

namespace Options

variable {o : Options} {a : Argument}

/-- An argument that a plural has not renamed is as it was. -/
lemma pluralized_eq_of_not_renames (hplural : o.plural = true)
    (h : o.renames a.pluralized = false) : a.pluralized = a := by
  by_cases htakes : a.takesPlural = true
  · have hagain : a.pluralized.takesPlural = true := by
      rw [Argument.pluralized, if_pos htakes]
      simp only [Argument.takesPlural, Bool.and_eq_true] at htakes ⊢
      exact ⟨htakes.1, by simpa using plural_ne_defaultBodyName a.paramName⟩
    rw [renames, hplural, hagain, Bool.and_true, Bool.or_true] at h
    cases h
  · rw [Argument.pluralized, if_neg htakes]

lemma mapped_of_not_renames (h : o.renames a = false) : a.facets.mapped = false :=
  (Bool.or_eq_false_iff.1 h).1

/-- Arguments that have kept their names are told apart by them. -/
def Apart (o : Options) (a b : Argument) : Prop :=
  o.renames a = false → o.renames b = false → a.paramName ≠ b.paramName

/-- Outlines say whether arguments are told apart. -/
lemma pairwise_apart_of_map_outline {as bs : List Argument}
    (h : as.map Argument.outline = bs.map Argument.outline) (hbs : bs.Pairwise o.Apart) :
    as.Pairwise o.Apart := by
  have hmap : (bs.map Argument.outline).Pairwise o.Apart := List.pairwise_map.2 hbs
  rw [← h, List.pairwise_map] at hmap
  exact hmap

/-- Plurals keep names apart that were so. -/
lemma pairwise_apart_pluralized {as : List Argument} (h : as.Pairwise fun a b =>
      a.facets.mapped = false → b.facets.mapped = false → a.paramName ≠ b.paramName) :
    (if o.plural then as.map Argument.pluralized else as).Pairwise o.Apart := by
  split
  · rename_i hplural
    refine List.pairwise_map.2 (h.imp fun {a b} hab ha hb => ?_)
    have hmapped (c : Argument) (hc : o.renames c.pluralized = false) :
        c.facets.mapped = false := by
      have hkept := mapped_of_not_renames hc
      rwa [pluralized_eq_of_not_renames hplural hc] at hkept
    rw [pluralized_eq_of_not_renames hplural ha, pluralized_eq_of_not_renames hplural hb]
    exact hab (hmapped a ha) (hmapped b hb)
  · exact h.imp fun hab ha hb => hab (mapped_of_not_renames ha) (mapped_of_not_renames hb)

end Options

namespace Setup

variable {setup : Setup} {raw e : Endpoint}

/-- The second stage leaves names as they are. -/
lemma paramNames_normalizeEndpoint (h : setup.normalizeEndpoint raw = .ok e)
    (hnames : (raw.allParams.map (·.paramName)).Nodup)
    (hraw : ∀ a ∈ raw.allParams, a.facets.mapped = false) :
    (e.allParams.map (·.paramName)).Nodup ∧ ∀ a ∈ e.allParams, a.facets.mapped = false := by
  obtain ⟨-, -, -, f, hf, hall, -⟩ := normalizeEndpoint_spec h
  have hkept (a : Argument) :
      (f a).paramName = a.paramName ∧ (f a).facets.mapped = a.facets.mapped := by
    obtain ⟨_, _, _, hfa⟩ := hf a
    rw [hfa]
    exact ⟨rfl, rfl⟩
  have hsame : e.allParams.map (fun a => (a.paramName, a.facets.mapped)) =
      (raw.allParams.filter (!setup.hidesArgument ·)).map
        fun a => (a.paramName, a.facets.mapped) := by
    have houtlines := congrArg (List.map fun a => (a.paramName, a.facets.mapped)) hall
    rw [List.map_map, List.map_map, List.map_map] at houtlines
    refine houtlines.trans (List.map_congr_left fun a _ => ?_)
    exact Prod.ext (hkept a).1 (hkept a).2
  constructor
  · have hnodup := congrArg (List.map Prod.fst) hsame
    rw [List.map_map, List.map_map] at hnodup
    change e.allParams.map (·.paramName) = List.map (fun a : Argument => a.paramName) _ at hnodup
    rw [hnodup]
    exact hnames.sublist (List.filter_sublist.map _)
  · intro a ha
    have hmem := List.mem_map_of_mem (f := fun a => (a.paramName, a.facets.mapped)) ha
    rw [hsame] at hmem
    obtain ⟨b, hb, heq⟩ := List.mem_map.1 hmem
    rw [← (Prod.mk.inj heq).2]
    exact hraw b (List.mem_of_mem_filter hb)

/-- **The stages keep names apart**, but for those that they choose. And without a mapping to a type
no argument is from a mapping. -/
theorem Finishes.apart (h : setup.Finishes raw e)
    (hnames : (raw.allParams.map (·.paramName)).Nodup)
    (hraw : ∀ a ∈ raw.allParams, a.facets.mapped = false) :
    e.allParams.Pairwise setup.options.Apart ∧
      ((∀ m ∈ setup.options.parameterMappings, m.mappedType = none) →
        ∀ a ∈ e.allParams, a.facets.mapped = false) := by
  obtain ⟨models, s, s', h⟩ := h
  obtain ⟨normalized, named, t, hnormalized, hnamed, hlast⟩ := finishEndpoint_spec h
  obtain ⟨hnodup, hdeclared⟩ := paramNames_normalizeEndpoint hnormalized hnames hraw
  obtain ⟨mapped, hmapped, rfl⟩ := mapArguments_spec hnamed
  have hplural := Endpoint.continues_projected { mapped with
    allParams := if setup.options.plural then mapped.allParams.map Argument.pluralized
      else mapped.allParams }
  obtain ⟨kept, added, hargs, hkept, hadded, -⟩ := hmapped.allParams
  constructor
  · refine Options.pairwise_apart_of_map_outline (hlast.allParams.trans hplural.allParams)
      (Options.pairwise_apart_pluralized ?_)
    rw [hargs]
    refine List.pairwise_append.2 ⟨?_, ?_, fun a _ b hb _ hnot => ?_⟩
    · exact (List.pairwise_map.1 (hnodup.sublist (hkept.map _))).imp fun hne _ _ => hne
    · exact List.pairwise_of_forall_mem_list fun a ha b _ hnot => by simp [(hadded a ha).1] at hnot
    · simp [(hadded b hb).1] at hnot
  · intro hnone a ha
    have hmem := List.mem_map_of_mem (f := Argument.outline) ha
    rw [hlast.allParams, hplural.allParams] at hmem
    obtain ⟨b, hb, heq⟩ := List.mem_map.1 hmem
    have hstay (c : Argument) : c.pluralized.facets.mapped = c.facets.mapped := by
      rw [Argument.pluralized]
      split <;> rfl
    have hb' : ∃ c ∈ mapped.allParams, c.facets.mapped = b.facets.mapped := by
      split at hb
      · obtain ⟨c, hc, rfl⟩ := List.mem_map.1 hb
        exact ⟨c, hc, (hstay c).symm⟩
      · exact ⟨b, hb, rfl⟩
    obtain ⟨c, hc, hcb⟩ := hb'
    have hsame : b.facets.mapped = a.facets.mapped := congrArg (·.facets.mapped) heq
    rw [← hsame, ← hcb]
    exact hdeclared c ((hmapped.sublist hnone).subset hc)

end Setup

/-! ## Programs -/

/-- **The names of arguments are all different exactly if those of later stages are new.** If names
are made unique then two arguments of one name have it from a later stage, one of them at least. So
without plurals and without mappings to types the names are all different. -/
theorem Document.paramNames_of_lowered {d : Document} {o : Options} {program : Program}
    {warnings : List String} (h : d.lowered o = .ok (program, warnings))
    (hunique : o.ensureUniqueParams = true) {e : Endpoint} (he : e ∈ program.endpoints) :
    ((e.allParams.map (·.paramName)).Nodup ↔ e.allParams.Pairwise fun a b =>
        o.renames a = true ∨ o.renames b = true → a.paramName ≠ b.paramName) ∧
      (o.plural = false → (∀ m ∈ o.parameterMappings, m.mappedType = none) →
        (e.allParams.map (·.paramName)).Nodup) := by
  obtain ⟨r, chunks, -, hsetup, -, hchunks, hall⟩ := endpoints_of_lowered h
  rw [hchunks] at he
  obtain ⟨es, hes, he⟩ := List.mem_flatten.1 he
  obtain ⟨site, -, body, -, hes⟩ := exists_mem_right_of_forall₂ hall hes
  obtain ⟨request, -, raw, hraw, hfinish⟩ := exists_mem_right_of_forall₂ hes he
  obtain ⟨hnames, hdeclared⟩ := hraw.paramNames (by rw [hsetup]; exact hunique)
  obtain ⟨hapart, hnone⟩ := hfinish.apart hnames hdeclared
  rw [hsetup] at hapart hnone
  have hapart : e.allParams.Pairwise o.Apart := hapart
  have hiff : (e.allParams.map (·.paramName)).Nodup ↔ e.allParams.Pairwise fun a b =>
      o.renames a = true ∨ o.renames b = true → a.paramName ≠ b.paramName := by
    rw [List.Nodup, List.pairwise_map]
    refine ⟨fun hne => hne.imp fun {a b} hab => fun _ => hab, fun hrenamed => ?_⟩
    refine (hapart.and hrenamed).imp fun {a b} ⟨hkept, hrenamed⟩ => ?_
    by_cases hab : o.renames a = true ∨ o.renames b = true
    · exact hrenamed hab
    · simp only [not_or, Bool.not_eq_true] at hab
      exact hkept hab.1 hab.2
  refine ⟨hiff, fun hplural hmappings => hiff.2 (List.pairwise_of_forall_mem_list ?_)⟩
  intro a ha b hb hrenamed
  have hkept : ∀ c ∈ e.allParams, o.renames c = false := fun c hc => by
    rw [Options.renames, hplural, hnone hmappings c hc]
    rfl
  simp [hkept a ha, hkept b hb] at hrenamed

/-- The list of pets takes the plural, and has a name of its own beside that of the shelf. -/
theorem Document.paramNames_of_lowered_listing : ∃ program warnings,
    (listing "shelf").lowered {} = .ok (program, warnings) ∧
    ∃ e ∈ program.endpoints, e.allParams.map (·.paramName) = ["shelf", "pets"] ∧
      ((e.allParams.map (·.paramName)).Nodup ↔ e.allParams.Pairwise fun a b =>
        Options.renames {} a = true ∨ Options.renames {} b = true →
          a.paramName ≠ b.paramName) := by
  obtain ⟨program, warnings, h, e, he, hargs⟩ := exists_lowered (d := listing "shelf") (o := {})
    (P := fun program => ∃ e ∈ program.endpoints,
      e.allParams.map (·.paramName) = ["shelf", "pets"])
    (by decide +kernel)
  exact ⟨program, warnings, h, e, he, hargs, (paramNames_of_lowered h rfl he).1⟩

/-- **A plural may be taken.** A list of pets beside a parameter of the name `pets` gets this name
as well. -/
theorem Document.plural_name_is_taken : ∃ program warnings,
    (listing "pets").lowered {} = .ok (program, warnings) ∧
    Options.ensureUniqueParams {} = true ∧
    ∃ e ∈ program.endpoints, e.allParams.map (·.paramName) = ["pets", "pets"] ∧
      ¬(e.allParams.map (·.paramName)).Nodup := by
  obtain ⟨program, warnings, h, e, he, hargs⟩ := exists_lowered (d := listing "pets") (o := {})
    (P := fun program => ∃ e ∈ program.endpoints,
      e.allParams.map (·.paramName) = ["pets", "pets"])
    (by decide +kernel)
  exact ⟨program, warnings, h, rfl, e, he, hargs, by rw [hargs]; decide⟩

end ApiLowering
