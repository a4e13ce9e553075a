import ApiLowering.Models.Draft

/-!
# Interfaces

A model that is an alternative of an interface implements it. If the interface has a discriminator,
the property of that name is a required one of every such model.

## Main definitions

* `InterfaceLink` — an interface with the models that implement it.
* `Setup.implement` — a model that implements an interface.
* `Setup.linkInterfaces` — all drafts with their interfaces.
-/

namespace ApiLowering

/-- An interface with the class names of the models that implement it. -/
structure InterfaceLink where
  classname : String
  members : List String
  discriminator : Option ModelDiscriminator
deriving Inhabited

/-- The link of an interface: its alternatives, then the models that its discriminator maps to. -/
def Model.interfaceLink? (m : Model) : Option InterfaceLink :=
  if m.isOneOfInterface then
    let mapped := (m.discriminator.map fun d => d.mappedModels.map (·.modelName)).getD []
    some ⟨m.classname, addNew m.oneOf mapped, m.discriminator⟩
  else none

/-- The model with one more interface. -/
def Model.withInterface (m : Model) (interface : String) : Model :=
  if m.facets.implemented.contains interface then m
  else { m with
    interfaces := m.interfaces ++ [interface]
    facets.implemented := m.facets.implemented ++ [interface] }

/-- The model whose interfaces are known everywhere: to its templates and to its properties. -/
def Model.announceInterfaces (m : Model) : Model :=
  let implemented := m.facets.implemented
  if implemented.isEmpty then m
  else { m with
    vendorExtensions := m.vendorExtensions.insert "x-implements" (.ofStrings implemented)
    vars := m.vars.map fun p => { p with facets.implemented := implemented } }

namespace Setup

variable (setup : Setup)

/-- The property that a discriminator goes by. -/
def discriminating (d : ModelDiscriminator) (p : Property) : Property :=
  let p := { p with
    isDiscriminator := true
    isOverridden := true
    required := true
    isNullable := false
    isReadOnly := false
    facets.inRequiredArgsConstructor := true }
  match setup.dialect.language, d.propertyType with
  | .kotlin, some t => { p with facets.annotatedTypeWithEnum := t }
  | _, _ => p

/-- The model with an interface, if it is one of those that implement it. -/
def implement (link : InterfaceLink) (m : Model) : Model :=
  if m.classname == link.classname || !link.members.contains m.classname then m
  else
    let m := m.withInterface link.classname
    match link.discriminator with
    | none => m
    | some d => { m with vars := m.vars.map fun p =>
        if p.baseName == d.propertyBaseName then setup.discriminating d p else p }

/-- Changes the model of a draft. -/
def onModel (f : Model → Model) (d : Draft) : Draft := { d with model := f d.model }

/-- All drafts with their interfaces. -/
def linkInterfaces (ds : Drafts) : Drafts :=
  let links := ds.values.filterMap (·.model.interfaceLink?)
  let linked := links.foldl (fun ds link => ds.map (onModel (setup.implement link))) ds
  linked.map (onModel Model.announceInterfaces)

end Setup

end ApiLowering
