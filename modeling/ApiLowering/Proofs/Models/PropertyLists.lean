import ApiLowering.Proofs.Document.Samples
import ApiLowering.Proofs.Models.Inheritance

/-!
# Lists of properties, and the calls that are made from them

A model lists its properties several times: those that are required and those that are not, those
that are only read and the others, and all of them with the inherited ones. The lists hold copies.
They are made before the properties are finished, and finishing treats all copies alike, so that
each list still is the part of the declared properties that it stands for.

The example of a model calls its constructor, with an example for each property that the table of
constructors has under the name of its class. The arguments may have calls of their own, down to a
limited depth. The table has the required properties that models declare, while the constructors
themselves take inherited arguments too, and leave out discriminators and what is only read.

## Main definitions

* `Model.Divides` — the lists of a model are parts of what it declares.
* `Examples.IsCall` — the example of a source calls a constructor with the examples of properties.
* `Examples.Calls` — a call somewhere in an example.
* `Model.TakesRequired` — a constructor takes the required properties that its model declares.

## Main results

* `Resolver.Builds.divides` — the lists of every model that is built are such parts.
* `Document.lists_of_lowered` — those of all models of all programs.
* `Examples.isCall_or_eq_text` — an example is a call, or a text that has none.
* `Examples.IsCall.nested_eq`, `Examples.Calls.exists_model` — what calls are written as.
* `Resolver.Builds.requiredArgs_eq` — when a constructor takes the required properties.
-/

namespace ApiLowering

/-! ## Parts of lists -/

namespace Property

variable {ps before after : List Property} {p : Property}

/-- The last property of a name is the one behind which no other has that name. -/
lemma last?_eq_some_of_append (hps : ps = before ++ p :: after)
    (hlast : ∀ q ∈ after, q.name ≠ p.name) : last? ps p.name = some p := by
  have hnone : after.reverse.find? (fun q => q.name == p.name) = none := by
    simpa [List.find?_eq_none] using hlast
  rw [last?, hps, List.reverse_append, List.reverse_cons, List.append_assoc, List.find?_append,
    hnone, Option.none_or]
  exact List.find?_cons_of_pos (by simp)

/-- Where no name is there twice, the property that is found is the only one of its name. -/
lemma eq_of_find?_name {q : Property} (hnodup : (ps.map (·.name)).Nodup)
    (hfind : ps.find? (·.name == p.name) = some p) (hq : q ∈ ps) (hname : q.name = p.name) :
    q = p :=
  List.inj_on_of_nodup_map hnodup hq (List.mem_of_find?_eq_some hfind) hname

end Property

/-- The lists of a model are parts of the properties that it declares, in order, and a declared
property is the only one of its name among all properties, unless the model declares the name again
later. -/
structure Model.Divides (m : Model) : Prop where
  requiredVars : m.requiredVars = m.vars.filter (·.required)
  optionalVars : m.optionalVars = m.vars.filter (!·.required)
  readOnlyVars : m.readOnlyVars = m.vars.filter (·.isReadOnly)
  readWriteVars : m.readWriteVars = m.vars.filter (!·.isReadOnly)
  allVars : ∀ before p after, m.vars = before ++ p :: after → (∀ q ∈ after, q.name ≠ p.name) →
    p ∈ m.allVars ∧ ∀ q ∈ m.allVars, q.name = p.name → q = p

/-! ## Lists of models -/

namespace Resolver.Builds

variable {r : Resolver} {ds folded : Drafts} {g : Property → Property} {models : List Model}
  {key : String} {d alone last : Draft} {m : Model}

/-- A part of the declared properties that finishing cannot see is a part of the finished ones. -/
lemma map_filter (h : Builds r ds folded g models) (test : Property → Bool)
    (htest : ∀ {p p' : Property}, p.FinishedFrom p' → test p' = test p) (ps : List Property) :
    (ps.filter test).map g = (ps.map g).filter test := by
  rw [List.filter_map]
  congr 1
  exact List.filter_congr fun p _ => (htest (h.finishing p)).symm

/-- Under the name of a property that a model declares last, there is that property. -/
lemma find?_allVars (h : Builds r ds folded g models) (hway : Way r ds folded key d alone last)
    (hm : last.model.FinishedFrom g m) {before after : List Property} {p : Property}
    (hvars : m.vars = before ++ p :: after) (hlast : ∀ q ∈ after, q.name ≠ p.name) :
    m.allVars.find? (·.name == p.name) = some p := by
  have hall := h.map_allVars hway
  obtain ⟨_, _, _, rfl⟩ := hm
  have hown : Property.last? (last.model.vars.map g) p.name = some p :=
    Property.last?_eq_some_of_append hvars hlast
  change (last.model.allVars.map g).find? _ = _
  rw [hall, Property.find?_overridden, hown]
  rfl

/-- **The lists of a model are parts of what it declares.** -/
theorem divides (h : Builds r ds folded g models) (hm : m ∈ models) : m.Divides := by
  obtain ⟨key, d, alone, last, hway, hfinished⟩ := h.exists_way_of_mem hm
  have hfind {before after : List Property} {p : Property} (hvars : m.vars = before ++ p :: after)
      (hlast : ∀ q ∈ after, q.name ≠ p.name) := h.find?_allVars hway hfinished hvars hlast
  have hnodup : (last.model.allVars.map (·.name)).Nodup := h.nodup_names_allVars hway.fold
  have hnames := h.names_map last.model.allVars
  obtain ⟨_, _, _, rfl⟩ := hfinished
  have hrequired := h.map_filter (·.required) (·.required) alone.model.vars
  have hoptional := h.map_filter (!·.required) (congrArg (!·) ·.required) alone.model.vars
  have hreadOnly := h.map_filter (·.isReadOnly) (·.isReadOnly) alone.model.vars
  have hreadWrite :=
    h.map_filter (!·.isReadOnly) (congrArg (!·) ·.isReadOnly) alone.model.vars
  refine ⟨?_, ?_, ?_, ?_, fun before p after hvars hlast => ?_⟩
  · rw [hway.eq_fold]
    exact hrequired
  · rw [hway.eq_fold]
    exact hoptional
  · rw [hway.eq_fold]
    exact hreadOnly
  · rw [hway.eq_fold]
    exact hreadWrite
  · have hp := hfind hvars hlast
    exact ⟨List.mem_of_find?_eq_some hp, fun q hq =>
      Property.eq_of_find?_name (hnames ▸ hnodup) hp hq⟩

end Resolver.Builds

/-! ## Lists in programs -/

/-- **Lists of properties.** In every model of a program the required and the other properties, and
likewise those that are only read and the others, are exactly the declared ones of that kind, in
order and in all their fields. A declared property is what all properties have under its name,
unless the model declares the name again later. -/
theorem Document.lists_of_lowered {d : Document} {o : Options} {program : Program}
    {warnings : List String} (h : d.lowered o = .ok (program, warnings)) :
    ∀ m ∈ program.models, m.Divides := by
  obtain ⟨r, ds, folded, g, -, hbuilds⟩ := builds_of_lowered h
  exact fun m hm => hbuilds.divides hm

/-- Pets declare their tag twice. The second declaration is the one that counts, and it is required
and only read. -/
theorem Document.lists_of_lowered_taggedTwice : ∃ program warnings,
    taggedTwice.lowered {} = .ok (program, warnings) ∧
    (program.models.map fun m => [m.vars, m.requiredVars, m.optionalVars, m.readOnlyVars,
        m.readWriteVars, m.allVars].map fun ps => ps.map (·.baseName)) =
      [[["tagName", "name"], ["name"], ["tagName"], [], ["tagName", "name"], ["tagName", "name"]],
        [["tag-name", "age", "tag_name"], ["tag_name"], ["tag-name", "age"], ["tag_name"],
          ["tag-name", "age"], ["tag_name", "name", "age"]]] ∧
    ∀ m ∈ program.models, m.Divides := by
  obtain ⟨program, warnings, h, hlists⟩ := exists_lowered (d := taggedTwice) (o := {})
    (P := fun program => (program.models.map fun m => [m.vars, m.requiredVars, m.optionalVars,
        m.readOnlyVars, m.readWriteVars, m.allVars].map fun ps => ps.map (·.baseName)) =
      [[["tagName", "name"], ["name"], ["tagName"], [], ["tagName", "name"], ["tagName", "name"]],
        [["tag-name", "age", "tag_name"], ["tag_name"], ["tag-name", "age"], ["tag_name"],
          ["tag-name", "age"], ["tag_name", "name", "age"]]])
    (by decide +kernel)
  exact ⟨program, warnings, h, hlists, lists_of_lowered h⟩

/-! ## Calls in examples -/

namespace Examples

variable {x : Examples} {script : Bool} {e c : ExampleSource} {ps qs : List Property}
  {depth left : Nat}

/-- The example of a source calls the constructor of its class with the examples of some properties,
however calls are written. -/
def IsCall (x : Examples) (script : Bool) (e : ExampleSource) (ps : List Property) : Prop :=
  ∀ construct, x.exampleWith construct script e = construct e ps

/-- A call somewhere in the example of a source that has calls nested to some depth: its source, its
properties, and the depth that is left for its arguments. -/
inductive Calls (x : Examples) (script : Bool) :
    Nat → ExampleSource → Nat → ExampleSource → List Property → Prop
  | here {depth : Nat} {e : ExampleSource} {ps : List Property} :
    x.IsCall script e ps → Calls x script (depth + 1) e depth e ps
  | inside {depth left : Nat} {e c : ExampleSource} {ps qs : List Property} {p : Property} :
    x.IsCall script e ps → p ∈ ps → Calls x script depth (.ofProperty p) left c qs →
      Calls x script (depth + 1) e left c qs

/-- The arguments of a call: the examples of some properties. -/
def arguments (x : Examples) (script : Bool) (depth : Nat) (ps : List Property) : List String :=
  ps.map fun p => x.nested script depth (.ofProperty p)

/-- The example of a class is a call or a text. -/
lemma classExample?_cases (x : Examples) (e : ExampleSource) :
    (x.withArguments = true ∧ ∃ ps, x.constructors.find? e.dataType = some ps ∧
      ∀ construct, x.classExample? construct e = some (construct ps)) ∨
    ∃ text?, ∀ construct, x.classExample? construct e = text? := by
  simp only [classExample?]
  cases e.allowableValues with
  | cons first rest => exact .inr ⟨_, fun _ => rfl⟩
  | nil =>
    simp only
    split
    · cases x.constructors.find? e.dataType with
      | none => exact .inr ⟨_, fun _ => rfl⟩
      | some ps =>
        simp only
        split
        · rename_i hwith
          exact .inl ⟨hwith, ps, rfl, fun _ => rfl⟩
        · exact .inr ⟨_, fun _ => rfl⟩
    · exact .inr ⟨_, fun _ => rfl⟩

/-- What is no container has the example of its class or a text. -/
lemma simpleExample?_cases (x : Examples) (e : ExampleSource) (script : Bool) :
    (∀ construct, x.simpleExample? construct e script = x.classExample? construct e) ∨
      ∃ text?, ∀ construct, x.simpleExample? construct e script = text? := by
  refine or_iff_not_imp_right.2 fun hnone construct => ?_
  have hsame (h : ∀ construct', x.simpleExample? construct' e script =
      x.simpleExample? construct e script) : False := hnone ⟨_, h⟩
  rw [simpleExample?]
  split
  case h_11 =>
    split
    · rename_i hfixed
      exact (hsame fun construct' => by
        rw [simpleExample?, simpleExample?]; simp only [hfixed]).elim
    · rfl
  all_goals
    rename_i hdata
    exact (hsame fun construct' => by rw [simpleExample?, simpleExample?]; simp only [hdata]).elim

/-- **An example is a call or a text that has none.** The properties of a call are those that the
table has under the name of the class. -/
theorem isCall_or_eq_text (x : Examples) (script : Bool) (e : ExampleSource) :
    (x.withArguments = true ∧ ∃ ps, x.constructors.find? e.dataType = some ps ∧
      x.IsCall script e ps) ∨
    ∃ text, ∀ construct, x.exampleWith construct script e = text := by
  cases hcontainer : x.containerExample? e script with
  | some text => exact .inr ⟨text, fun construct => by rw [exampleWith, hcontainer]⟩
  | none =>
    have hsimple (construct : ExampleSource → List Property → String) :
        x.exampleWith construct script e = (x.simpleExample? (construct e) e script).getD "null" := by
      rw [exampleWith, hcontainer]
      cases x.simpleExample? (construct e) e script <;> rfl
    simp only [IsCall, hsimple]
    obtain hclass | ⟨text?, htext⟩ := x.simpleExample?_cases e script
    · simp only [hclass]
      obtain ⟨hwith, ps, hps, hcall⟩ | ⟨text?, htext⟩ := x.classExample?_cases e
      · exact .inl ⟨hwith, ps, hps, fun construct => by rw [hcall]; rfl⟩
      · exact .inr ⟨text?.getD "null", fun construct => by rw [htext]⟩
    · exact .inr ⟨text?.getD "null", fun construct => by rw [htext]⟩

/-- A call has the properties of its class, and takes arguments. -/
lemma IsCall.find?_constructors (h : x.IsCall script e ps) :
    x.withArguments = true ∧ x.constructors.find? e.dataType = some ps := by
  classical
  obtain ⟨hwith, qs, hqs, hcall⟩ | ⟨text, htext⟩ := x.isCall_or_eq_text script e
  · -- A way of writing calls that tells these properties from all others.
    have hsame := (hcall fun _ rs => if rs = ps then "" else "other").symm.trans (h _)
    rw [if_pos rfl] at hsame
    split at hsame
    · rename_i heq
      exact ⟨hwith, heq ▸ hqs⟩
    · exact absurd hsame (by decide)
  · have hsame := ((h fun _ _ => "").symm.trans (htext _)).trans
      ((htext _).symm.trans (h fun _ _ => "other"))
    exact absurd hsame (by decide)

/-- **How a call is written.** -/
theorem IsCall.nested_eq (h : x.IsCall script e ps) (depth : Nat) :
    x.nested script (depth + 1) e = x.dialect.instantiate (x.typeReference e)
      (Text.join ", " (x.arguments script depth ps)) := by
  rw [nested]
  exact h _

/-- Every call in an example is the call of a source. -/
lemma Calls.isCall (h : x.Calls script depth e left c ps) : x.IsCall script c ps := by
  induction h with
  | here h => exact h
  | inside _ _ _ ih => exact ih

end Examples

/-! ## Constructors that are called -/

/-- The last model of a class. -/
def Model.lastOf (models : List Model) (classname : String) : Option Model :=
  models.reverse.find? (·.classname == classname)

lemma find?_constructorProperties (models : List Model) (classname : String) :
    (constructorProperties models).find? classname =
      (Model.lastOf models classname).map (·.requiredVars) := by
  rw [constructorProperties, Table.find?_ofList, ← List.map_reverse, List.find?_map,
    Option.map_map, Model.lastOf]
  rfl

/-- The calls of an example are those of models, with the properties that these require. -/
lemma Examples.Calls.exists_model {x : Examples} {script : Bool} {depth left : Nat}
    {e c : ExampleSource} {ps : List Property} {models : List Model}
    (h : x.Calls script depth e left c ps) (hx : x.constructors = constructorProperties models) :
    ∃ m, Model.lastOf models c.dataType = some m ∧ ps = m.requiredVars := by
  have hfind := h.isCall.find?_constructors.2
  rw [hx, find?_constructorProperties, Option.map_eq_some_iff] at hfind
  obtain ⟨m, hm, hps⟩ := hfind
  exact ⟨m, hm, hps.symm⟩

/-- The constructor of a model takes just the required properties that the model declares: none of
them is a discriminator or left out for being only read, and the parent takes nothing else. -/
structure Model.TakesRequired (m : Model) : Prop where
  taken : ∀ v ∈ m.requiredVars, v.facets.inRequiredArgsConstructor = true ∧
    v.isDiscriminator = false ∧ Setup.inheritsDiscriminator m.parentVars v = false
  inherited : m.parentRequiredArgs.map (·.name) ⊆ m.requiredVars.map (·.name)

instance (m : Model) : Decidable m.TakesRequired :=
  decidable_of_iff ((∀ v ∈ m.requiredVars, v.facets.inRequiredArgsConstructor = true ∧
      v.isDiscriminator = false ∧ Setup.inheritsDiscriminator m.parentVars v = false) ∧
    m.parentRequiredArgs.map (·.name) ⊆ m.requiredVars.map (·.name))
    ⟨fun h => ⟨h.1, h.2⟩, fun h => ⟨h.taken, h.inherited⟩⟩

/-- A folded draft that keeps all its required properties takes just these if its parent hands it no
others. -/
lemma Setup.requiredArgs_fold {setup : Setup} {d : Draft} {parent : Option Draft}
    (htaken : ∀ v ∈ d.model.vars, v.required = true →
      v.facets.inRequiredArgsConstructor = true ∧ v.isDiscriminator = false ∧
        inheritsDiscriminator ((parent.map Draft.model).getD {}).allVars v = false)
    (hinherited : ∀ p, parent = some p → p.inheritedArgs.map (·.name) ⊆
      (d.model.vars.filter (·.required)).map (·.name)) :
    (setup.fold d parent).model.requiredArgs = d.model.vars.filter (·.required) := by
  have hown : (ownRequired d ((parent.map Draft.model).getD {}).allVars).filter
      (·.facets.inRequiredArgsConstructor) = d.model.vars.filter (·.required) := by
    rw [ownRequired, List.filter_filter]
    refine List.filter_congr fun v hv => ?_
    cases hrequired : v.required with
    | false => simp
    | true =>
      obtain ⟨harg, hdiscriminator, hinherits⟩ := htaken v hv hrequired
      simp [harg, hdiscriminator, hinherits]
  have hargs : (setup.fold d parent).model.requiredArgs =
      appendNew (d.model.vars.filter (·.required)) ((parent.map (·.inheritedArgs)).getD []) := by
    rw [← hown]
    rfl
  rw [hargs]
  refine addNewBy_eq_self fun q hq => ?_
  cases parent with
  | none => cases hq
  | some p =>
    obtain ⟨v, hv, hname⟩ := List.mem_map.1 (hinherited p rfl (List.mem_map_of_mem hq))
    exact ⟨v, hv, beq_iff_eq.2 hname⟩

namespace Resolver.Builds

variable {r : Resolver} {ds folded : Drafts} {g : Property → Property} {models : List Model}
  {m : Model}

/-- **When a constructor takes the required properties.** -/
theorem requiredArgs_eq (h : Builds r ds folded g models) (hm : m ∈ models)
    (htakes : m.TakesRequired) : m.requiredArgs = m.requiredVars := by
  obtain ⟨key, d, alone, last, hway, hfinished⟩ := h.exists_way_of_mem hm
  have hhanded : ∀ p, folded.parent? alone = some p →
      p.inheritedArgs.map (·.name) ⊆ m.requiredVars.map (·.name) := by
    intro p hp
    obtain ⟨q, -, hargs, hq⟩ := h.exists_inheritsFrom hway hfinished hp
    obtain ⟨k, -, hk⟩ := Option.bind_eq_some_iff.1 hp
    obtain ⟨d', alone', hway'⟩ := h.exists_way_of_find? hk
    refine List.Subset.trans (fun name hname => ?_) (hargs ▸ htakes.inherited)
    obtain ⟨_, _, _, rfl⟩ := hq
    change name ∈ (p.model.requiredArgs.map g).map (·.name)
    rw [hway'.eq_fold] at hname ⊢
    rw [h.names_map]
    exact r.setup.mem_names_requiredArgs_fold_iff.2 hname
  obtain ⟨htaken, -⟩ := htakes
  obtain ⟨_, _, _, rfl⟩ := hfinished
  rw [hway.eq_fold] at htaken hhanded ⊢
  change ∀ p, _ → _ ⊆ ((alone.model.vars.filter (·.required)).map g).map (·.name) at hhanded
  rw [h.names_map] at hhanded
  change (r.setup.fold alone _).model.requiredArgs.map g = (alone.model.vars.filter _).map g
  rw [Setup.requiredArgs_fold (fun v hv hrequired => ?_) hhanded]
  obtain ⟨harg, hdiscriminator, hinherits⟩ := htaken (g v)
    (List.mem_map_of_mem (List.mem_filter.2 ⟨hv, hrequired⟩))
  exact ⟨(h.finishing v).inRequiredArgsConstructor.symm.trans harg,
    (h.finishing v).isDiscriminator.symm.trans hdiscriminator,
    (h.inheritsDiscriminator_map _ v).symm.trans hinherits⟩

end Resolver.Builds

end ApiLowering
