import ApiLowering.Lowered
import Mathlib.Tactic.Lemma

/-!
# Small documents

Documents that are nothing but some component schemas, or one path, to try things on.

## Main definitions

* `Schema.text`, `Schema.ofProperties`, `Schema.extending` — texts and objects, with parents or not.
* `Schema.listOf` — lists.
* `Schema.declaredTwice` — an object with a property that two of its parts declare.
* `Document.ofSchemas` — the document of some component schemas.
* `Document.ofInterface` — an interface and a class.
* `Document.family`, `Document.ducks` — animals that extend one or two others.
* `Document.petsByKind` — pets that are told apart by their kind.
* `Document.petOwners` — pets whose owners have no component.
* `Document.taggedPets` — cats and kittens whose tags are those of an interface.
* `Document.namedPets` — an interface that lists one class, and is extended by another.
* `Document.taggedTwice` — pets with two properties that get one name.
* `Document.ofPath` — the document of one path.
* `Document.namingForm`, `Document.listing` — a form that names a pet, and a list of pets.
* `Document.petStore` — two paths, and two tags that give one name.
* `Document.ownedPets` — a component that is used in different places.
* `Document.guardedPets` — pets that are guarded by a key and a token.

## Main results

* `Document.exists_lowered` — what a program is found to be by lowering a document.
-/

namespace ApiLowering

namespace Schema

/-- An object with some properties. -/
def ofProperties (es : List (String × SchemaRef)) : SchemaRef := .inline { properties := ⟨es⟩ }

/-- A text. -/
def text : SchemaRef := .inline (ofType .string)

/-- A list. -/
def listOf (items : SchemaRef) : SchemaRef := .inline { ofType .array with items := some items }

/-- An object that has the parts of some other components, with some properties, of which some are
required. -/
def extending (keys : List String) (es : List (String × SchemaRef)) (required : List String) :
    SchemaRef :=
  .inline {
    allOf := keys.map fun key => .ref (Reference.toSchema key)
    properties := ⟨es⟩
    keywords := { required } }

/-- An object with a property that two of its parts declare. -/
def declaredTwice (name : String) (first last : SchemaRef) : Schema :=
  { allOf := [ofProperties [(name, first)], ofProperties [(name, last)]] }

end Schema

namespace Document

open Schema

/-- A document with some component schemas, and nothing else. -/
def ofSchemas (es : List (String × SchemaRef)) : Document :=
  { openapi := "3.0.3"
    info := {
      title := "Pets"
      version := "1"
      description := none
      termsOfService := none
      contact := none
      license := none }
    components := some { schemas := ⟨es⟩ } }

/-- An interface that goes by the kind, and one class that it may be. -/
def ofInterface (name : String) (s : SchemaRef) : Document :=
  ofSchemas [
    ("Pet", .inline {
      oneOf := [.ref (Reference.toSchema name)]
      properties := ⟨[("kind", text)]⟩
      keywords := { discriminator := some { propertyName := "kind", mapping := {} } } }),
    (name, s)]

/-- Animals with names, dogs that bark, and puppies that have other names. -/
def family : Document :=
  ofSchemas [
    ("Animal", extending [] [("name", text)] ["name"]),
    ("Dog", extending ["Animal"] [("bark", text)] ["bark"]),
    ("Puppy", extending ["Dog"] [("age", text), ("name", text)] ["age"])]

/-- Animals with names, birds with wings, and ducks, which are birds that swim. -/
def ducks : Document :=
  ofSchemas [
    ("Animal", extending [] [("name", text)] []),
    ("Bird", extending ["Animal"] [("wings", text)] []),
    ("Swimmer", extending [] [("speed", text)] []),
    ("Duck", extending ["Bird", "Swimmer"] [] [])]

/-- Pets are told apart by their kind. Animals are another name for pets. Cats have pets as a part,
by one name or the other, and kittens have cats. -/
def petsByKind (part : String) : Document :=
  ofSchemas [
    ("Pet", .inline {
      properties := ⟨[("kind", text)]⟩
      keywords := { discriminator := some { propertyName := "kind", mapping := {} } } }),
    ("Animal", .ref (Reference.toSchema "Pet")),
    ("Cat", extending [part] [("name", text)] []),
    ("Kitten", extending ["Cat"] [("age", text)] [])]

/-- Pets whose owners have no component, and another component. -/
def petOwners (key : String) : Document :=
  ofSchemas [
    ("Pet", ofProperties [("owner", ofProperties [("name", text)])]),
    (key, ofProperties [("age", text)])]

/-- Pets with tags are an interface. Cats extend it, and kittens extend cats. -/
def taggedPets : Document :=
  ofSchemas [
    ("Pet", .inline {
      oneOf := [.ref (Reference.toSchema "Cat")]
      properties := ⟨[("tags", listOf text)]⟩
      keywords := { required := ["tags"] } }),
    ("Cat", extending ["Pet"] [("name", text)] []),
    ("Kitten", extending ["Cat"] [("age", text)] [])]

/-- Pets with names are an interface that lists cats, and dogs extend it. -/
def namedPets : Document :=
  ofSchemas [
    ("Pet", .inline {
      oneOf := [.ref (Reference.toSchema "Cat")]
      properties := ⟨[("name", text)]⟩ }),
    ("Cat", ofProperties [("claws", text)]),
    ("Dog", extending ["Pet"] [("bark", text)] [])]

/-- Animals with tags, and pets that declare them twice, in two spellings. -/
def taggedTwice : Document :=
  ofSchemas [
    ("Animal", extending [] [("tagName", text), ("name", text)] ["name"]),
    ("Pet", extending ["Animal"] [("tag-name", text), ("age", text),
      ("tag_name", .inline { ofType .string with keywords.readOnly := some true })] ["tag_name"])]

/-- A document with one path, and some component schemas. -/
def ofPath (item : PathItem) (es : List (String × SchemaRef)) : Document :=
  { ofSchemas es with paths := ⟨[("/pets", item)]⟩ }

/-- A pet is named by a form. Its number belongs to the path, and a header says who asked. -/
def namingForm : Document :=
  ofPath {
    parameters := [.inline { name := "number", location := .query, required := true }]
    post := some {
      parameters := [.inline { name := "X-Asked-By", location := .header },
        .inline { name := "notify", location := .query }]
      requestBody := some (.inline { content := ⟨[(Content.urlEncoded, {
        schema := some (extending [] [("age", text), ("name", text)] ["name"]) })]⟩ }) } } []

/-- Pets are listed, with a parameter beside the list. -/
def listing (parameter : String) : Document :=
  ofPath {
    post := some {
      parameters := [.inline { name := parameter, location := .query }]
      requestBody := some (.inline { content := ⟨[(Content.json, {
        schema := some (listOf (.ref (Reference.toSchema "Pet"))) })]⟩ }) } }
    [("Pet", ofProperties [("name", text)])]

/-- Pets have owners, and are listed by their owner. The parameter is a component, and its schema is
that of the owners of pets. -/
def petsByOwner : Document :=
  let owner := ofProperties [("name", text)]
  { ofPath { get := some { parameters := [.ref "#/components/parameters/Owner"] } } [] with
    components := some {
      schemas := ⟨[("Pet", ofProperties [("owner", owner)])]⟩
      parameters := ⟨[("Owner",
        .inline { name := "owner", location := .query, schema := some owner })]⟩ } }

/-- A store of pets, with a path for its keepers that has no tag. -/
def petStore : Document :=
  { ofSchemas [] with paths := ⟨[
    ("/pets", {
      post := some { tags := ["pet-store", "keepers"] }
      get := some { tags := ["pet store"] } }),
    ("/keepers", { delete := some {} })]⟩ }

/-- Pets with owners, keepers who are owners, and a path that asks for an owner and answers with one.
-/
def ownedPets (owner : SchemaRef) : Document :=
  ofPath {
    get := some {
      parameters := [.inline { name := "owner", location := .query, schema := some owner }]
      responses := ⟨[("200", .inline {
        content := ⟨[(Content.json, { schema := some owner })]⟩ })]⟩ } }
    [("Owner", text), ("Keeper", owner), ("Pet", ofProperties [("owner", owner)])]

/-- Pets are listed by those who have a key and may read, and are named by those who may write. The
scopes of names are asked for twice, and a scheme that is missing is asked for too. Counting pets is
up to anyone. -/
def guardedPets : Document :=
  let scheme (kind : SecurityKind) : SecurityScheme :=
    { kind
      description := none
      name := none
      location := none
      scheme := none
      bearerFormat := none
      flows := none
      openIdConnectUrl := none }
  { ofPath {
      get := some {}
      post := some { security := some [⟨[("token", ["write"])]⟩, ⟨[("missing", []), ("key", [])]⟩,
        ⟨[("token", ["write"])]⟩, ⟨[("token", ["read", "write"])]⟩] }
      head := some { security := some [] } } [] with
    security := some [⟨[("key", [])]⟩, ⟨[("token", ["read"]), ("key", [])]⟩]
    components := some {
      securitySchemes := ⟨[("token", scheme .oauth2), ("key", scheme .apiKey)]⟩ } }

/-- What a program is found to be by lowering a document. -/
lemma exists_lowered {d : Document} {o : Options} {P : Program → Prop} [DecidablePred P]
    (h : ((d.lowered o).toOption.any fun out => decide (P out.1)) = true) :
    ∃ program warnings, d.lowered o = .ok (program, warnings) ∧ P program := by
  cases hlowered : d.lowered o with
  | error f =>
    rw [hlowered] at h
    cases h
  | ok out =>
    rw [hlowered] at h
    exact ⟨out.1, out.2, rfl, of_decide_eq_true h⟩

end Document

end ApiLowering
