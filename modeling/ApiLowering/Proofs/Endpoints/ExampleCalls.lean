import ApiLowering.Proofs.Endpoints.Declarations
import ApiLowering.Proofs.Models.PropertyLists

/-!
# Constructor calls in the examples of endpoints

The last stage of an endpoint makes the examples of its arguments and of what it returns, in the
language of the program and in that of scripts. Every call in them is that of a model of the
program, and has an example for each property that the model requires itself. If the constructor
takes just these properties then the call fits it. It does not fit if the parent of the model has
required properties too.

## Main definitions

* `Endpoint.ShowsExamples` — the arguments of an endpoint and the endpoint have their examples.

## Main results

* `Setup.showsExamples_of_frozen` — the last stage makes the examples.
* `Document.example_calls_of_lowered` — the calls in the examples of programs.
-/

namespace ApiLowering

/-! ## Examples of endpoints -/

/-- An argument has the examples of its type, made with the sample that it had before. -/
def Argument.Exemplified (x : Examples) (a : Argument) : Prop :=
  ∃ sample, a.sample = some (x.expression (.ofArgument { a with sample }) false) ∧
    a.facets.groovyExample = some (x.expression (.ofArgument { a with sample }) true)

/-- Every argument of an endpoint has examples, and the endpoint has those of what it returns, if it
has examples at all. -/
structure Endpoint.ShowsExamples (models : List Model) (x : Examples) (e : Endpoint) : Prop where
  arguments : ∀ l ∈ e.argumentLists, ∀ a ∈ l.2, a.Exemplified x
  sample : ∀ text ∈ e.facets.sample, ∃ returned ∈ e.facets.bareReturnType,
    text = x.expression (Setup.returnSource models e returned) false
  script : ∀ text ∈ e.facets.groovyExample, ∃ returned ∈ e.facets.bareReturnType,
    text = x.expression (Setup.returnSource models e returned) true

lemma Argument.Exemplified.counted {x : Examples} {a : Argument} (h : a.Exemplified x) (n : Nat) :
    (a.counted n).Exemplified x := h

namespace Setup

variable {setup : Setup} {e e' : Endpoint} {s s' : Session}

lemma exemplified_exemplify (x : Examples) (a : Argument) : (exemplify x a).Exemplified x :=
  ⟨a.sample, rfl, rfl⟩

/-- An endpoint that is ready but for its own examples. -/
lemma showsExamples_exemplifyReturn {models : List Model} {x : Examples}
    (hall : ∀ a ∈ e.allParams, a.Exemplified x)
    (himplicit : ∀ a ∈ e.implicitHeadersParams, a.Exemplified x)
    (hsample : e.facets.sample = none) (hscript : e.facets.groovyExample = none)
    (hshows : (setup.exemplifyReturn models x e).projected.ShowsArguments) :
    (setup.exemplifyReturn models x e).projected.ShowsExamples models x := by
  obtain heq | ⟨returned, hreturned, heq⟩ := setup.exemplifyReturn_cases models x e
  all_goals
    rw [heq] at hshows ⊢
    refine ⟨fun l hl a ha => ?_, fun text htext => ?_, fun text htext => ?_⟩
  · obtain ha | ha := hshows.mem_of_mem_argumentLists hl ha
    · obtain ⟨b, hb, rfl⟩ := List.mem_map.1 ha
      exact (hall b hb).counted _
    · exact himplicit a ha
  · exact absurd (hsample.symm.trans htext) nofun
  · exact absurd (hscript.symm.trans htext) nofun
  · obtain ha | ha := hshows.mem_of_mem_argumentLists hl ha
    · obtain ⟨b, hb, rfl⟩ := List.mem_map.1 ha
      exact (hall b hb).counted _
    · exact himplicit a ha
  · exact ⟨returned, hreturned, (Option.some.inj htext).symm⟩
  · exact ⟨returned, hreturned, (Option.some.inj htext).symm⟩

/-- **The last stage makes the examples.** -/
theorem showsExamples_of_frozen {models : List Model} {nickname : String}
    (h : setup.freezeEndpoint models e s = .ok (e', s')) (he : e.label = (nickname, none, none))
    (hshows : e'.ShowsArguments) : ∃ x : Examples, x.dialect = setup.dialect ∧
      x.constructors = constructorProperties models ∧ e'.ShowsExamples models x := by
  obtain ⟨x, _, hx, rfl⟩ := freezeEndpoint_eq_ok h
  rw [examples] at hx
  obtain ⟨session, _, -, hx⟩ := Lowering.bind_eq_ok_iff.1 hx
  obtain ⟨hx, -⟩ := Lowering.pure_eq_ok_iff.1 hx
  obtain ⟨-, hsample, hscript⟩ : e.nickname = nickname ∧ e.facets.sample = none ∧
      e.facets.groovyExample = none := by simpa [Endpoint.label] using he
  exact ⟨x, hx ▸ rfl, hx ▸ rfl, showsExamples_exemplifyReturn
    (List.forall_mem_map.2 fun a _ => exemplified_exemplify x a)
    (List.forall_mem_map.2 fun a _ => exemplified_exemplify x a) hsample hscript hshows⟩

end Setup

/-! ## Programs -/

namespace Document

open Schema

/-- **Constructor calls in examples.** The examples of an endpoint and of its arguments are made with
the models of the program. Every call in them, at any depth, is that of a model, and has just one
argument for each property that the model itself requires, in order: the example of that property.
These are the arguments that the constructor takes, if it takes just these properties. -/
theorem example_calls_of_lowered {d : Document} {o : Options} {program : Program}
    {warnings : List String} (h : d.lowered o = .ok (program, warnings)) :
    ∀ e ∈ program.endpoints, ∃ x : Examples, x.dialect = o.language.dialect ∧
      e.ShowsExamples program.models x ∧
      ∀ script source depth c ps, x.Calls script Examples.maxDepth source depth c ps →
        ∃ m, Model.lastOf program.models c.dataType = some m ∧
          x.nested script (depth + 1) c = x.dialect.instantiate (x.typeReference c)
            (Text.join ", " (x.arguments script depth ps)) ∧
          ps = m.requiredVars ∧ (m.TakesRequired → ps = m.requiredArgs) := by
  intro e he
  obtain ⟨r, site, nickname, request, raw, s, s', t, t', hr, -, hraw, hfinish⟩ :=
    exists_finishEndpoint_of_lowered h he
  obtain ⟨annotated, u, hlabel, hfrozen⟩ := Setup.exists_freezeEndpoint_of_finishEndpoint hfinish
  obtain ⟨x, hdialect, hconstructors, hshows⟩ := Setup.showsExamples_of_frozen hfrozen
    (hlabel.trans (Resolver.label_rawEndpoint hraw)) (passed_of_lowered h he).showsArguments
  obtain ⟨hsetup, -⟩ := exists_build_of_resolver hr
  refine ⟨x, by rw [hdialect, hsetup]; rfl, hshows, fun script source depth c ps hcall => ?_⟩
  obtain ⟨m, hm, rfl⟩ := hcall.exists_model hconstructors
  refine ⟨m, hm, hcall.isCall.nested_eq depth, rfl, fun htakes => ?_⟩
  obtain ⟨r', ds, folded, g, -, hbuilds⟩ := builds_of_lowered h
  have hmem : m ∈ program.models := List.mem_reverse.1 (List.mem_of_find?_eq_some hm)
  exact (hbuilds.requiredArgs_eq hmem htakes).symm

/-- Something is sent that is one of some components. -/
def sending (key : String) (es : List (String × SchemaRef)) : Document :=
  ofPath {
    post := some {
      requestBody := some (.inline { content := ⟨[(Content.json, {
        schema := some (.ref (Reference.toSchema key)) })]⟩ }) } } es

/-- Pets have owners, both of them with names. The calls of both constructors fit. -/
theorem example_calls_of_lowered_ownedPet : ∃ program warnings,
    (sending "Pet" [("Owner", extending [] [("name", text)] ["name"]),
      ("Pet", extending [] [("name", text), ("owner", .ref (Reference.toSchema "Owner"))]
        ["name", "owner"])]).lowered {} = .ok (program, warnings) ∧
    (program.endpoints.map fun e => e.allParams.map (·.sample)) =
      [[some "new Pet(\"example\", new org.openapitools.model.Owner(\"example\"))"]] ∧
    ∀ e ∈ program.endpoints, ∃ x : Examples, e.ShowsExamples program.models x ∧
      ∀ script source depth c ps, x.Calls script Examples.maxDepth source depth c ps →
        ∃ m, Model.lastOf program.models c.dataType = some m ∧ ps = m.requiredArgs := by
  obtain ⟨program, warnings, h, htakes, hsamples⟩ := exists_lowered (o := {})
    (d := sending "Pet" [("Owner", extending [] [("name", text)] ["name"]),
      ("Pet", extending [] [("name", text), ("owner", .ref (Reference.toSchema "Owner"))]
        ["name", "owner"])])
    (P := fun program => (∀ m ∈ program.models, m.TakesRequired) ∧
      (program.endpoints.map fun e => e.allParams.map (·.sample)) =
        [[some "new Pet(\"example\", new org.openapitools.model.Owner(\"example\"))"]])
    (by decide +kernel)
  refine ⟨program, warnings, h, hsamples, fun e he => ?_⟩
  obtain ⟨x, -, hshows, hcalls⟩ := example_calls_of_lowered h e he
  refine ⟨x, hshows, fun script source depth c ps hcall => ?_⟩
  obtain ⟨m, hm, -, -, hargs⟩ := hcalls script source depth c ps hcall
  have hmem : m ∈ program.models := List.mem_reverse.1 (List.mem_of_find?_eq_some hm)
  exact ⟨m, hm, hargs (htakes m hmem)⟩

/-- **Inherited arguments are missing.** A dog needs a name because animals do, and the call of its
constructor has none. -/
theorem inherited_argument_is_missing : ∃ program warnings,
    (sending "Dog" [("Animal", extending [] [("name", text)] ["name"]),
      ("Dog", extending ["Animal"] [("bark", text)] ["bark"])]).lowered {} =
        .ok (program, warnings) ∧
    Options.requiredPropertiesInConstructor {} = true ∧
    (program.models.map fun m => (m.classname, m.requiredArgs.map (·.name))) =
      [("Animal", ["name"]), ("Dog", ["bark", "name"])] ∧
    (program.endpoints.map fun e => e.allParams.map (·.sample)) =
      [[some "new Dog(\"example\")"]] := by
  obtain ⟨program, warnings, h, hargs, hsamples⟩ := exists_lowered (o := {})
    (d := sending "Dog" [("Animal", extending [] [("name", text)] ["name"]),
      ("Dog", extending ["Animal"] [("bark", text)] ["bark"])])
    (P := fun program => (program.models.map fun m =>
        (m.classname, m.requiredArgs.map (·.name))) =
          [("Animal", ["name"]), ("Dog", ["bark", "name"])] ∧
      (program.endpoints.map fun e => e.allParams.map (·.sample)) =
        [[some "new Dog(\"example\")"]]) (by decide +kernel)
  exact ⟨program, warnings, h, rfl, hargs, hsamples⟩

end Document

end ApiLowering
