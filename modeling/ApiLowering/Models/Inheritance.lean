import ApiLowering.Models.Interfaces

/-!
# Inheritance

A model inherits the properties and the constructor arguments of the model that it extends. Parents
are folded before their children. A parent that is an interface is no parent any more: its
properties are copied to the model that implements it.

## Main definitions

* `Draft.liftInterface` — a draft with the properties of its interface.
* `Drafts.ancestors` — the chain of the parents of a draft, or the cycle it runs into.
* `Drafts.parentsFirst` — the keys of the drafts, parents first.
* `Setup.fold` — a draft with what it inherits.
* `Setup.foldInheritance` — all drafts with what they inherit.
-/

namespace ApiLowering

/-! ## Interfaces as parents -/

/-- Whether two properties have one name. -/
def Property.isNamesake (p q : Property) : Bool := p.name == q.name

/-- The property of an interface as a property of a model that implements it. -/
def Property.fromInterface (p : Property) (d : Option ModelDiscriminator) : Property :=
  if d.any (·.propertyName == p.name) then { p with isDiscriminator := true, isOverridden := true }
  else p

/-- The draft with the properties of the interface that it has as its parent. -/
def Draft.liftInterface (d : Draft) (interface : Model) : Draft :=
  let lifted := interface.vars.map (·.fromInterface interface.discriminator)
  let vars := addNewBy Property.isNamesake d.model.vars lifted
  { d with
    model := { d.model with vars : Model }.withInterface interface.classname
    parentKey := none
    fromInterface := true }

namespace Drafts

/-- The draft of the parent. -/
def parent? (ds : Drafts) (d : Draft) : Option Draft := d.parentKey.bind ds.find?

/-- The drafts with the properties of interfaces in the place of parents. -/
def liftInterfaces (ds : Drafts) : Drafts :=
  ds.keys.foldl (fun ds key =>
    match ds.find? key with
    | none => ds
    | some d =>
      match parent? ds d with
      | some p => if p.model.isOneOfInterface then ds.insert key (d.liftInterface p.model) else ds
      | none => ds) ds

/-! ## Order -/

/-- The keys of the ancestors of a draft, the parent first. The list holds the keys that have not
been visited. -/
def chain (ds : Drafts) (unvisited : List String) (key : String) :
    Except Fault (List String) :=
  match ds.find? key with
  | none => .ok []
  | some d =>
    if key ∈ unvisited then
      match d.parentKey with
      | none => .ok []
      | some parent => (chain ds (unvisited.erase key) parent).map (parent :: ·)
    else
      let classname := d.model.classname
      .error (.inconsistent s!"inheritance cycle through '{classname}'")
termination_by unvisited.length
decreasing_by
  rename_i h
  have := List.length_erase_of_mem h
  have := List.length_pos_of_mem h
  omega

/-- The ancestors of a draft, or the cycle it runs into. -/
def ancestors (ds : Drafts) (key : String) : Except Fault (List String) :=
  chain ds ds.keys key

/-- The keys of the drafts: those with fewer ancestors first, and otherwise in order. -/
def parentsFirst (ds : Drafts) : Except Fault (List String) := do
  let depths ← ds.keys.mapM fun key => return (key, (← ds.ancestors key).length)
  return (sortBy (fun a b => decide (a.2 ≤ b.2)) depths).map Prod.fst

end Drafts

/-! ## Folding -/

/-- The properties of a parent with those of a child in their places or behind them. -/
def overrideAll (inherited own : List Property) : List Property :=
  own.foldl (fun acc p => putBy Property.isNamesake p acc) inherited

/-- The first properties, then those of the second list whose names are new. -/
def appendNew (ps more : List Property) : List Property := addNewBy Property.isNamesake ps more

namespace Setup

variable (setup : Setup)

/-- Whether a parent has a required discriminator of the name of a property. -/
def inheritsDiscriminator (inherited : List Property) (p : Property) : Bool :=
  inherited.any fun q => q.required && q.name == p.name && q.isDiscriminator

/-- The required properties that a constructor of a model may take itself: discriminators are set by
the parent, unless the parent was an interface. -/
def ownRequired (d : Draft) (inherited : List Property) : List Property :=
  d.model.vars.filter fun p =>
    p.required && (d.fromInterface || !(p.isDiscriminator || inheritsDiscriminator inherited p))

/-- The inherited property as templates see it. -/
def inheritedProperty (p : Property) : Property :=
  { p with facets.isServerOrNotReadOnly := some (!p.isReadOnly || setup.isServer) }

/-- The draft with what it inherits from a parent that has been folded. -/
def fold (d : Draft) (parent : Option Draft) : Draft :=
  let m := d.model
  let p : Model := (parent.map (·.model)).getD {}
  let inheritedArgs := (parent.map (·.inheritedArgs)).getD []
  let own := ownRequired d p.allVars
  let ownArgs := own.filter (·.facets.inRequiredArgsConstructor)
  let withoutDiscriminator := appendNew own p.requiredVarsWithoutDiscriminator
  let requiredVars := m.vars.filter (·.required)
  let readOnlyVars := m.vars.filter (·.isReadOnly)
  { d with
    inheritedArgs := appendNew inheritedArgs ownArgs
    model := { m with
      allVars := overrideAll p.allVars m.vars
      parentVars := p.allVars
      requiredVars
      optionalVars := m.vars.filter (!·.required)
      readOnlyVars
      readWriteVars := m.vars.filter (!·.isReadOnly)
      requiredVarsWithoutDiscriminator := withoutDiscriminator
      requiredParentVarsWithoutDiscriminator :=
        p.requiredVarsWithoutDiscriminator.map setup.inheritedProperty
      requiredArgs := appendNew ownArgs inheritedArgs
      parentRequiredArgs := p.requiredArgs
      parent := parent.map (·.model.classname)
      parentSchema := parent.map (·.model.name)
      imports := match parent with
        | some d => m.imports.insert d.model.classname
        | none => m.imports
      hasVars := !withoutDiscriminator.isEmpty || !m.vars.isEmpty
      facets := { m.facets with
        hasOwnVars := !m.vars.isEmpty
        withMultipleVars := m.vars.length > 1
        withRequiredVars := !requiredVars.isEmpty
        areRequiredVarsAndReadOnlyVars :=
          !withoutDiscriminator.isEmpty && !readOnlyVars.isEmpty } } }

/-- Folds the draft under a key, and keeps the arguments of its constructor. -/
def foldAt (ds : Drafts) (key : String) : Lowering Drafts := do
  match ds.find? key with
  | none => return ds
  | some d =>
    let folded := setup.fold d (ds.parent? d)
    Lowering.recordConstructor folded.model.classname (folded.model.requiredArgs.map (·.name))
    return ds.insert key folded

/-- All drafts with what they inherit. -/
def foldInheritance (ds : Drafts) : Lowering Drafts := do
  let ds := ds.liftInterfaces
  let order ← ds.parentsFirst
  order.foldlM setup.foldAt ds

end Setup

/-- The models of all component schemas that become one, linked to each other. -/
def Resolver.lowerModels (r : Resolver) : Lowering (List Model) := do
  let drafts ← r.drafts
  let folded ← r.setup.foldInheritance (r.setup.linkInterfaces drafts)
  return folded.values.map (·.model)

end ApiLowering
