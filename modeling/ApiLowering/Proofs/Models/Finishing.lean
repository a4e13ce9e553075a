import ApiLowering.Models.Finished
import ApiLowering.Proofs.Run.Steps

/-!
# Finished models

Models are finished without regard to what was finished before: the warnings are all that the
session gets from it. One function of properties finishes all copies of a property alike, and
touches none of what decides which list a property is in.

## Main definitions

* `Setup.finishedProperty` — what every copy of a property becomes.
* `Model.mapped` — a model with one change of properties in every list.
* `Property.FinishedFrom` — a property differs in annotations, deprecation and example alone.

## Main results

* `Setup.finishedFrom_finishedProperty` — what finishing keeps of a property.
* `Setup.finishModels_spec` — what finishing makes of all models.
-/

namespace ApiLowering

/-! ## Properties -/

/-- The annotations under a key, and the extensions without it. -/
def ExtraAnnotations.under (key : String) (extensions : Table Json) : List String × Table Json :=
  match extensions.find? key with
  | none => ([], extensions)
  | some j => ((ofJson? j).getD [], extensions.erase key)

/-- A property differs from another one in annotations, deprecation and example alone. -/
def Property.FinishedFrom (p p' : Property) : Prop :=
  ∃ vendorExtensions deprecated annotations groovyExample, p' =
    { p with
      vendorExtensions := vendorExtensions
      deprecated := deprecated
      facets := { p.facets with annotations := annotations, groovyExample := groovyExample } }

namespace Property.FinishedFrom

variable {p p' : Property}

lemma name (h : p.FinishedFrom p') : p'.name = p.name := by
  obtain ⟨_, _, _, _, rfl⟩ := h
  rfl

lemma baseName (h : p.FinishedFrom p') : p'.baseName = p.baseName := by
  obtain ⟨_, _, _, _, rfl⟩ := h
  rfl

lemma type (h : p.FinishedFrom p') : p'.type = p.type := by
  obtain ⟨_, _, _, _, rfl⟩ := h
  rfl

lemma required (h : p.FinishedFrom p') : p'.required = p.required := by
  obtain ⟨_, _, _, _, rfl⟩ := h
  rfl

lemma isReadOnly (h : p.FinishedFrom p') : p'.isReadOnly = p.isReadOnly := by
  obtain ⟨_, _, _, _, rfl⟩ := h
  rfl

lemma isDiscriminator (h : p.FinishedFrom p') : p'.isDiscriminator = p.isDiscriminator := by
  obtain ⟨_, _, _, _, rfl⟩ := h
  rfl

lemma implemented (h : p.FinishedFrom p') : p'.facets.implemented = p.facets.implemented := by
  obtain ⟨_, _, _, _, rfl⟩ := h
  rfl

lemma inRequiredArgsConstructor (h : p.FinishedFrom p') :
    p'.facets.inRequiredArgsConstructor = p.facets.inRequiredArgsConstructor := by
  obtain ⟨_, _, _, _, rfl⟩ := h
  rfl

end Property.FinishedFrom

lemma Lowering.takeAnnotations_eq {key : String} {extensions : Table Json} {s s' : Session}
    {found : List String × Table Json}
    (h : Lowering.takeAnnotations key extensions s = .ok (found, s')) :
    found = ExtraAnnotations.under key extensions := by
  rw [takeAnnotations] at h
  rw [ExtraAnnotations.under]
  cases hfind : extensions.find? key with
  | none =>
    rw [hfind] at h
    exact (Lowering.pure_eq_ok_iff.1 h).1.symm
  | some j =>
    rw [hfind] at h
    cases hj : ExtraAnnotations.ofJson? j with
    | none =>
      simp only [hj, Lowering.bind_eq_ok_iff, Lowering.pure_eq_ok_iff] at h
      obtain ⟨_, _, -, rfl, -⟩ := h
      simp only [hj, Option.getD_none]
    | some annotations =>
      simp only [hj, Lowering.pure_eq_ok_iff] at h
      obtain ⟨rfl, -⟩ := h
      simp only [hj, Option.getD_some]

namespace Setup

variable (setup : Setup) (deprecated : List String) (examples : Examples)

/-- The property with its annotations, its deprecation and its example, without warnings. -/
def finishedProperty (p : Property) : Property :=
  let onField := ExtraAnnotations.under ExtraAnnotations.fieldKey p.vendorExtensions
  let onSetter := ExtraAnnotations.under ExtraAnnotations.setterKey onField.2
  let p := { p with
    vendorExtensions := onSetter.2
    deprecated := p.deprecated || p.refersToAny deprecated
    facets.annotations.onField := onField.1
    facets.annotations.onSetter := onSetter.1 }
  if setup.testsAreScripts then
    { p with facets.groovyExample := some (examples.expression (.ofProperty p) true) }
  else p

variable {setup deprecated examples} {s s' : Session}

/-- What a property becomes does not depend on the session. -/
lemma finishProperty_eq {p p' : Property}
    (h : setup.finishProperty deprecated examples p s = .ok (p', s')) :
    p' = setup.finishedProperty deprecated examples p := by
  rw [finishProperty] at h
  obtain ⟨onField, s₁, honField, h⟩ := Lowering.bind_eq_ok_iff.1 h
  obtain ⟨onSetter, s₂, honSetter, h⟩ := Lowering.bind_eq_ok_iff.1 h
  obtain rfl := Lowering.takeAnnotations_eq honField
  obtain rfl := Lowering.takeAnnotations_eq honSetter
  rw [finishedProperty]
  cases hscripts : setup.testsAreScripts with
  | false =>
    simp only [hscripts, Bool.false_eq_true, if_false, Lowering.pure_eq_ok_iff] at h
    exact h.1.symm
  | true =>
    simp only [hscripts, if_true, Lowering.pure_eq_ok_iff] at h
    exact h.1.symm

/-- What finishing keeps of a property. -/
lemma finishedFrom_finishedProperty (p : Property) :
    p.FinishedFrom (setup.finishedProperty deprecated examples p) := by
  rw [finishedProperty]
  split <;> exact ⟨_, _, _, _, rfl⟩

end Setup

/-! ## Models -/

/-- The model with the same change of the properties in every list. -/
def Model.mapped (g : Property → Property) (m : Model) : Model :=
  { m with
    vars := m.vars.map g
    allVars := m.allVars.map g
    parentVars := m.parentVars.map g
    requiredVars := m.requiredVars.map g
    optionalVars := m.optionalVars.map g
    readOnlyVars := m.readOnlyVars.map g
    readWriteVars := m.readWriteVars.map g
    requiredVarsWithoutDiscriminator := m.requiredVarsWithoutDiscriminator.map g
    requiredParentVarsWithoutDiscriminator := m.requiredParentVarsWithoutDiscriminator.map g
    requiredArgs := m.requiredArgs.map g
    parentRequiredArgs := m.parentRequiredArgs.map g }

lemma Model.mapProperties_eq {f : Property → Lowering Property} {g : Property → Property}
    {m m' : Model} {s s' : Session} (hf : ∀ p q t t', f p t = .ok (q, t') → q = g p)
    (h : m.mapProperties f s = .ok (m', s')) : m' = m.mapped g := by
  rw [mapProperties] at h
  simp only [Lowering.bind_eq_ok_iff, Lowering.pure_eq_ok_iff] at h
  obtain ⟨_, _, h₁, _, _, h₂, _, _, h₃, _, _, h₄, _, _, h₅, _, _, h₆, _, _, h₇, _, _, h₈, _, _, h₉,
    _, _, h₁₀, _, _, h₁₁, rfl, -⟩ := h
  rw [Lowering.eq_map_of_mapM h₁ hf, Lowering.eq_map_of_mapM h₂ hf, Lowering.eq_map_of_mapM h₃ hf,
    Lowering.eq_map_of_mapM h₄ hf, Lowering.eq_map_of_mapM h₅ hf, Lowering.eq_map_of_mapM h₆ hf,
    Lowering.eq_map_of_mapM h₇ hf, Lowering.eq_map_of_mapM h₈ hf, Lowering.eq_map_of_mapM h₉ hf,
    Lowering.eq_map_of_mapM h₁₀ hf, Lowering.eq_map_of_mapM h₁₁ hf]
  rfl

/-- A model is another one with finished properties, a serial number and annotations. -/
def Model.FinishedFrom (g : Property → Property) (m m' : Model) : Prop :=
  ∃ vendorExtensions serialId annotations, m' =
    { m.mapped g with
      vendorExtensions := vendorExtensions
      facets := { m.facets with serialId := serialId, annotations := annotations } }

lemma Model.FinishedFrom.name {g : Property → Property} {m m' : Model} (h : m.FinishedFrom g m') :
    m'.name = m.name := by
  obtain ⟨_, _, _, rfl⟩ := h
  rfl

namespace Setup

variable {setup : Setup} {deprecated : List String} {examples : Examples} {s s' : Session}

/-- Finishing a model finishes its properties, and takes its annotations out of its extensions. -/
lemma finishModel_spec {m m' : Model}
    (h : setup.finishModel deprecated examples m s = .ok (m', s')) :
    m.FinishedFrom (setup.finishedProperty deprecated examples) m' ∧ m'.vendorExtensions =
      (ExtraAnnotations.under ExtraAnnotations.classKey m.vendorExtensions).2 := by
  rw [finishModel] at h
  obtain ⟨serialId, s₁, -, h⟩ := Lowering.bind_eq_ok_iff.1 h
  obtain ⟨⟨onClass, vendorExtensions⟩, s₂, hclass, h⟩ := Lowering.bind_eq_ok_iff.1 h
  have hextensions := congrArg Prod.snd (Lowering.takeAnnotations_eq hclass)
  obtain rfl := Model.mapProperties_eq (g := setup.finishedProperty deprecated examples)
    (fun p q t t' => finishProperty_eq) h
  exact ⟨⟨_, _, _, rfl⟩, hextensions⟩

/-- **What finishing makes of all models**: one function finishes all copies of their properties. -/
theorem finishModels_spec {models finished : List Model}
    (h : setup.finishModels models s = .ok (finished, s')) :
    ∃ g : Property → Property, (∀ p, Property.FinishedFrom p (g p)) ∧
      List.Forall₂ (fun m m' => m.FinishedFrom g m' ∧ m'.vendorExtensions =
        (ExtraAnnotations.under ExtraAnnotations.classKey m.vendorExtensions).2) models finished := by
  rw [finishModels] at h
  obtain ⟨examples, s₁, -, h⟩ := Lowering.bind_eq_ok_iff.1 h
  refine ⟨setup.finishedProperty (deprecatedClasses models) examples,
    finishedFrom_finishedProperty, (Lowering.forall₂_of_mapM h).imp ?_⟩
  rintro m m' ⟨t, t', hm⟩
  exact finishModel_spec hm

end Setup

end ApiLowering
