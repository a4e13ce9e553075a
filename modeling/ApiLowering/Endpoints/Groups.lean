import ApiLowering.Distinct
import ApiLowering.Program.Basic
import ApiLowering.Run.Session

/-!
# Groups of endpoints

The endpoints of a tag make up one interface. Tags whose interfaces have one name share it.

## Main definitions

* `Setup.groupTags` — the tags that an endpoint is grouped by.
* `EndpointGroup.enter` — enters an endpoint under a tag.
* `Setup.group` — the groups of endpoints, by the names of their interfaces.
-/

namespace ApiLowering

namespace EndpointGroup

/-- Adds a position, unless it is there. -/
def add (g : EndpointGroup) (position : Nat) : EndpointGroup :=
  { g with members := addNew g.members [position] }

/-- The warning that two tags share an interface. -/
def warning (g : EndpointGroup) (tag : String) : String :=
  s!"tags '{g.tag}' and '{tag}' both map to {g.classname}"

end EndpointGroup

namespace Setup

variable (setup : Setup)

/-- The tags that an endpoint is grouped by. -/
def groupTags (e : Endpoint) : List String :=
  if setup.options.operationOnlyForFirstTag then e.tags.take 1 else e.tags

/-- The group of a tag before it has members. -/
def emptyGroup (tag : String) : EndpointGroup where
  tag
  classname := setup.names.interfaceName tag
  classVarName := setup.names.interfaceVariable tag
  members := []

/-- Enters a position under a tag. A tag that shares the interface of another gives a warning. -/
def enterTag (groups : Table EndpointGroup) (position : Nat) (tag : String) :
    Lowering (Table EndpointGroup) := do
  let classname := setup.names.interfaceName tag
  let g := (groups.find? classname).getD (setup.emptyGroup tag)
  if g.tag != tag then
    Lowering.warnOnce ("tag:" ++ classname) (g.warning tag)
  return groups.insert classname (g.add position)

/-- The groups of endpoints, in the order of the names of their interfaces. -/
def group (es : List Endpoint) : Lowering (List EndpointGroup) := do
  let mentions := es.zipIdx.flatMap fun (e, position) =>
    (setup.groupTags e).map fun tag => (position, tag)
  let groups ← mentions.foldlM (fun gs (position, tag) => setup.enterTag gs position tag) {}
  return groups.sortByKey.values

end Setup

end ApiLowering
