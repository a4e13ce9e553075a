import ApiLowering.Models.Interfaces
import ApiLowering.Proofs.Tables
import Mathlib.Tactic.Lemma

/-!
# Linking models to interfaces

Drafts are linked to interfaces one by one: each model is changed on its own, and stays what it is
apart from the interfaces it implements and from the marks of its properties. A property that an
interface goes by is marked in every model that the interface maps to.

## Main definitions

* `Property.Discriminates` — a property is marked as the one that an interface goes by.
* `Model.LinkedFrom` — a model differs from another one in interfaces and marks alone.
* `Setup.linked` — a model with all its interfaces.

## Main results

* `Setup.linkInterfaces_eq` — drafts are linked one by one.
* `Setup.linkedFrom_linked` — what linking keeps.
* `Setup.discriminates_of_mem_linked` — what linking marks.
-/

namespace ApiLowering

/-! ## Models that differ in interfaces and marks -/

/-- A property is marked as the one that an interface goes by: it is a discriminator, required,
neither nullable nor read-only. -/
def Property.Discriminates (p : Property) : Prop :=
  p.isDiscriminator = true ∧ p.required = true ∧ p.isNullable = false ∧ p.isReadOnly = false

instance (p : Property) : Decidable p.Discriminates :=
  inferInstanceAs (Decidable (_ ∧ _ ∧ _ ∧ _))

/-- A property is another one that may have been marked since. -/
structure Property.MarkedFrom (p p' : Property) : Prop where
  name : p'.name = p.name
  baseName : p'.baseName = p.baseName
  type : p'.type = p.type
  discriminates : p.Discriminates → p'.Discriminates

/-- A model differs from another one in interfaces and marks alone. -/
structure Model.LinkedFrom (m m' : Model) : Prop where
  name : m'.name = m.name
  classname : m'.classname = m.classname
  isEnum : m'.isEnum = m.isEnum
  isOneOfInterface : m'.isOneOfInterface = m.isOneOfInterface
  discriminator : m'.discriminator = m.discriminator
  oneOf : m'.oneOf = m.oneOf
  imports : m'.imports = m.imports
  vars : ∃ f : Property → Property, (∀ p, Property.MarkedFrom p (f p)) ∧ m'.vars = m.vars.map f

lemma Property.MarkedFrom.refl (p : Property) : p.MarkedFrom p := ⟨rfl, rfl, rfl, id⟩

lemma Property.MarkedFrom.trans {p p' p'' : Property} (h : p.MarkedFrom p')
    (h' : p'.MarkedFrom p'') : p.MarkedFrom p'' :=
  ⟨h'.name.trans h.name, h'.baseName.trans h.baseName, h'.type.trans h.type,
    fun hp => h'.discriminates (h.discriminates hp)⟩

namespace Model.LinkedFrom

variable {m m' m'' : Model}

lemma refl (m : Model) : m.LinkedFrom m :=
  ⟨rfl, rfl, rfl, rfl, rfl, rfl, rfl, ⟨id, .refl, (List.map_id _).symm⟩⟩

lemma trans (h : m.LinkedFrom m') (h' : m'.LinkedFrom m'') : m.LinkedFrom m'' where
  name := h'.name.trans h.name
  classname := h'.classname.trans h.classname
  isEnum := h'.isEnum.trans h.isEnum
  isOneOfInterface := h'.isOneOfInterface.trans h.isOneOfInterface
  discriminator := h'.discriminator.trans h.discriminator
  oneOf := h'.oneOf.trans h.oneOf
  imports := h'.imports.trans h.imports
  vars := by
    obtain ⟨f, hf, hvars⟩ := h.vars
    obtain ⟨g, hg, hvars'⟩ := h'.vars
    exact ⟨g ∘ f, fun p => (hf p).trans (hg (f p)), by rw [hvars', hvars, List.map_map]⟩

/-- Marks stay. -/
lemma discriminates_of_mem {name : String} (h : m.LinkedFrom m')
    (hm : ∀ v ∈ m.vars, v.baseName = name → v.Discriminates) :
    ∀ v ∈ m'.vars, v.baseName = name → v.Discriminates := by
  obtain ⟨f, hf, hvars⟩ := h.vars
  rw [hvars]
  intro v hv hname
  obtain ⟨w, hw, rfl⟩ := List.mem_map.1 hv
  exact (hf w).discriminates (hm w hw ((hf w).baseName ▸ hname))

end Model.LinkedFrom

/-- One more interface. -/
lemma Model.linkedFrom_withInterface (m : Model) (interface : String) :
    m.LinkedFrom (m.withInterface interface) := by
  rw [withInterface]
  split
  · exact .refl m
  · exact ⟨rfl, rfl, rfl, rfl, rfl, rfl, rfl, ⟨id, .refl, (List.map_id _).symm⟩⟩

/-- The interfaces are known to the templates. -/
lemma Model.linkedFrom_announceInterfaces (m : Model) : m.LinkedFrom m.announceInterfaces := by
  rw [announceInterfaces]
  split
  · exact .refl m
  · refine ⟨rfl, rfl, rfl, rfl, rfl, rfl, rfl, ⟨_, fun p => ?_, rfl⟩⟩
    exact ⟨rfl, rfl, rfl, id⟩

namespace Setup

variable (setup : Setup)

/-! ## One interface -/

lemma discriminates_discriminating (d : ModelDiscriminator) (p : Property) :
    (setup.discriminating d p).Discriminates := by
  rw [discriminating]
  split <;> exact ⟨rfl, rfl, rfl, rfl⟩

lemma markedFrom_discriminating (d : ModelDiscriminator) (p : Property) :
    p.MarkedFrom (setup.discriminating d p) := by
  refine ⟨?_, ?_, ?_, fun _ => setup.discriminates_discriminating d p⟩ <;>
  · rw [discriminating]
    split <;> rfl

lemma linkedFrom_implement (link : InterfaceLink) (m : Model) :
    m.LinkedFrom (setup.implement link m) := by
  rw [implement]
  split
  · exact .refl m
  · cases link.discriminator with
    | none => exact m.linkedFrom_withInterface link.classname
    | some d =>
      refine (m.linkedFrom_withInterface link.classname).trans ⟨rfl, rfl, rfl, rfl, rfl, rfl, rfl, ?_⟩
      refine ⟨_, fun p => ?_, rfl⟩
      split
      · exact setup.markedFrom_discriminating d p
      · exact .refl p

/-- An interface marks the properties that it goes by in the models that implement it. -/
lemma discriminates_of_mem_implement {link : InterfaceLink} {d : ModelDiscriminator} {m : Model}
    (hne : m.classname ≠ link.classname) (hmember : m.classname ∈ link.members)
    (hd : link.discriminator = some d) :
    ∀ v ∈ (setup.implement link m).vars, v.baseName = d.propertyBaseName → v.Discriminates := by
  have hcond : ¬ (m.classname == link.classname || !link.members.contains m.classname) = true := by
    simp [hne, hmember]
  rw [implement, if_neg hcond, hd]
  intro v hv hname
  obtain ⟨p, -, rfl⟩ := List.mem_map.1 hv
  split at hname
  · rename_i heq
    rw [if_pos heq]
    exact setup.discriminates_discriminating d p
  · rename_i heq
    exact absurd (beq_iff_eq.2 hname) heq

/-! ## All interfaces -/

/-- A model with the interfaces of some links. -/
def implementAll (links : List InterfaceLink) (m : Model) : Model :=
  links.foldl (fun m link => setup.implement link m) m

/-- A model with all its interfaces. -/
def linked (links : List InterfaceLink) (m : Model) : Model :=
  (setup.implementAll links m).announceInterfaces

lemma linkedFrom_implementAll (links : List InterfaceLink) (m : Model) :
    m.LinkedFrom (setup.implementAll links m) := by
  induction links generalizing m with
  | nil => exact .refl m
  | cons link links ih => exact (setup.linkedFrom_implement link m).trans (ih _)

/-- **What linking keeps.** -/
theorem linkedFrom_linked (links : List InterfaceLink) (m : Model) :
    m.LinkedFrom (setup.linked links m) :=
  (setup.linkedFrom_implementAll links m).trans (Model.linkedFrom_announceInterfaces _)

/-- **What linking marks**: the property that an interface goes by, in every model that implements
it. -/
theorem discriminates_of_mem_linked {links : List InterfaceLink} {link : InterfaceLink}
    {d : ModelDiscriminator} {m : Model} (hlink : link ∈ links) (hne : m.classname ≠ link.classname)
    (hmember : m.classname ∈ link.members) (hd : link.discriminator = some d) :
    ∀ v ∈ (setup.linked links m).vars, v.baseName = d.propertyBaseName → v.Discriminates := by
  obtain ⟨before, after, rfl⟩ := List.append_of_mem hlink
  have hclass := (setup.linkedFrom_implementAll before m).classname
  have hmarked := setup.discriminates_of_mem_implement (hclass ▸ hne) (hclass ▸ hmember) hd
  -- the links that follow take no mark away
  have hrest := (setup.linkedFrom_implementAll after _).discriminates_of_mem hmarked
  have heq : setup.implementAll (before ++ link :: after) m =
      setup.implementAll after (setup.implement link (setup.implementAll before m)) := by
    rw [implementAll, List.foldl_append, List.foldl_cons]
    rfl
  rw [linked, heq]
  exact (Model.linkedFrom_announceInterfaces _).discriminates_of_mem hrest

/-! ## Drafts -/

/-- The links of all drafts that are interfaces. -/
def interfaceLinks (ds : Drafts) : List InterfaceLink :=
  ds.values.filterMap (·.model.interfaceLink?)

/-- Drafts are linked one by one. -/
lemma linkInterfaces_eq (ds : Drafts) :
    setup.linkInterfaces ds = ds.map (onModel (setup.linked (interfaceLinks ds))) := by
  have hfold (links : List InterfaceLink) (ds : Drafts) :
      links.foldl (fun ds link => ds.map (onModel (setup.implement link))) ds =
        ds.map (onModel (setup.implementAll links)) := by
    induction links generalizing ds with
    | nil => exact (Table.map_id' ds).symm
    | cons link links ih => exact (ih _).trans (Table.map_map _ _ _)
  rw [linkInterfaces, hfold, Table.map_map]
  rfl

lemma keys_linkInterfaces (ds : Drafts) : (setup.linkInterfaces ds).keys = ds.keys := by
  rw [linkInterfaces_eq, Table.keys_map]

/-- Every draft is linked on its own. -/
lemma find?_linkInterfaces (ds : Drafts) (key : String) :
    (setup.linkInterfaces ds).find? key =
      (ds.find? key).map (onModel (setup.linked (interfaceLinks ds))) := by
  rw [linkInterfaces_eq, Table.find?_map]

end Setup

end ApiLowering
