import ApiLowering.Proofs.Document.Samples
import ApiLowering.Proofs.Models.Built

/-!
# Class names

The name of a class is the key of its component in camel case, between the prefix and the suffix of
all models. Names that are reserved, or that start with a digit, get another start. Keys are
different, and the keys of hoisted schemas are chosen to be so; their camel case is not compared.

## Main definitions

* `Names.camelKey`, `Names.classStem` — a key in camel case, and between prefix and suffix.
* `Names.restarts` — whether a class name gets another start.
* `Names.Clash` — two keys lead to one class name.

## Main results

* `Text.camelCase_append_separator` — camel case is made part by part.
* `Names.className_eq_iff_clash` — when two keys have one class name.
* `Document.className_of_resolver` — the class names of a run are those of the keys.
* `Document.classnames_of_lowered` — the class names of all programs.
* `Document.hoisted_class_is_declared` — a hoisted class of the name of a declared one.
-/

namespace ApiLowering

/-! ## Camel case -/

namespace Text

/-- The parts on both sides of a separator. -/
lemma splitWhere_append_cons {p : Char → Bool} {c : Char} (h : p c = true) (xs ys : List Char) :
    splitWhere p (xs ++ c :: ys) = splitWhere p xs ++ splitWhere p ys := by
  induction xs with
  | nil =>
    change splitWhere p (c :: ys) = [] :: splitWhere p ys
    rw [splitWhere, if_pos h]
  | cons x xs ih =>
    rw [List.cons_append, splitWhere, splitWhere, ih]
    split
    · rfl
    · cases hparts : splitWhere p xs with
      | nil => exact absurd hparts (splitWhere_ne_nil p xs)
      | cons part parts => rfl

/-- **Camel case is made part by part.** -/
theorem camelCase_append_separator (s t : String) :
    camelCase (s ++ "_" ++ t) = camelCase s ++ camelCase t := by
  have hchars : (s ++ "_" ++ t).toList = s.toList ++ '_' :: t.toList := by
    rw [String.toList_append, String.toList_append, List.append_assoc]
    rfl
  rw [camelCase, hchars, splitWhere_append_cons (by decide), List.map_append, String.join_append]
  rfl

lemma camelCase_empty : camelCase "" = "" := by decide

end Text

namespace Names

variable (n : Names)

/-- The key of a component in camel case. -/
def camelKey (key : String) : String :=
  Text.camelCase (n.sanitize (Text.replaceChar (n.unescape key) '.' "_"))

/-- The key in camel case, between the prefix and the suffix of all models. -/
def classStem (key : String) : String :=
  Text.camelCase n.modelNamePrefix ++ n.camelKey key ++ Text.camelCase n.modelNameSuffix

/-- Whether a class name gets another start: it is reserved, or starts with a digit. -/
def restarts (stem : String) : Bool := n.isReserved stem || startsWithDigit stem

/-- The class name of a component. -/
def classNameOf (key : String) : String :=
  if n.restarts (n.classStem key) then "Model" ++ n.classStem key else n.classStem key

/-- A class name that gets another start becomes the class name of another component. -/
def RestartsInto (j k : String) : Prop :=
  n.restarts (n.classStem j) = true ∧ n.restarts (n.classStem k) = false ∧
    "Model" ++ n.classStem j = n.classStem k

/-- Two keys lead to one class name: they have one camel case, or one class name gets another start
and so becomes the other. -/
def Clash (j k : String) : Prop :=
  n.camelKey j = n.camelKey k ∨ n.RestartsInto j k ∨ n.RestartsInto k j

variable {n} {j k : String}

lemma classStem_inj : n.classStem j = n.classStem k ↔ n.camelKey j = n.camelKey k := by
  rw [classStem, classStem, String.append_left_inj, String.append_right_inj]

/-- **Two keys have one class name exactly if they clash.** -/
theorem className_eq_iff_clash : n.classNameOf j = n.classNameOf k ↔ n.Clash j k := by
  rw [Clash, ← classStem_inj, RestartsInto, RestartsInto, classNameOf, classNameOf]
  cases hj : n.restarts (n.classStem j) with
  | false =>
    cases hk : n.restarts (n.classStem k) with
    | false => simp
    | true =>
      have hne : n.classStem j ≠ n.classStem k := fun heq => by
        rw [heq, hk] at hj
        cases hj
      simp [hne, eq_comm]
  | true =>
    cases hk : n.restarts (n.classStem k) with
    | false =>
      have hne : n.classStem j ≠ n.classStem k := fun heq => by
        rw [heq, hk] at hj
        cases hj
      simp [hne]
    | true => simp

/-- Prefix and suffix are put before and after the camel case. -/
lemma camelCase_decorated (name : String) : Text.camelCase
    (if n.modelNameSuffix == "" then
      (if n.modelNamePrefix == "" then name else n.modelNamePrefix ++ "_" ++ name)
    else (if n.modelNamePrefix == "" then name else n.modelNamePrefix ++ "_" ++ name) ++ "_" ++
      n.modelNameSuffix) =
    Text.camelCase n.modelNamePrefix ++ Text.camelCase name ++
      Text.camelCase n.modelNameSuffix := by
  have hstart : Text.camelCase
      (if n.modelNamePrefix == "" then name else n.modelNamePrefix ++ "_" ++ name) =
        Text.camelCase n.modelNamePrefix ++ Text.camelCase name := by
    split
    · rename_i hempty
      rw [eq_of_beq hempty, Text.camelCase_empty, String.empty_append]
    · exact Text.camelCase_append_separator _ _
  split
  · rename_i hempty
    rw [hstart, eq_of_beq hempty, Text.camelCase_empty, String.append_empty]
  · rw [Text.camelCase_append_separator, hstart]

/-- The class name of a key without a mapping. -/
lemma eq_classNameOf {name : String} {warning : Option String}
    (hmapping : n.modelNameMapping.find? k = none) (h : n.className k = .ok (name, warning)) :
    name = n.classNameOf k := by
  have hstem : Text.camelCase n.modelNamePrefix ++
      Text.camelCase (n.sanitize (Text.replaceChar (n.unescape k) '.' "_")) ++
        Text.camelCase n.modelNameSuffix = n.classStem k := rfl
  simp only [className, hmapping, camelCase_decorated, hstem] at h
  rw [classNameOf, restarts]
  split at h
  · cases h
  · split at h
    · rename_i hreserved
      rw [hreserved, Bool.true_or, if_pos rfl, (Prod.mk.inj (Except.ok.inj h)).1]
    · rename_i hreserved
      split at h
      · rename_i hdigit
        rw [hdigit, Bool.or_true, if_pos rfl, (Prod.mk.inj (Except.ok.inj h)).1]
      · rename_i hdigit
        rw [if_neg (by simp [hreserved, hdigit]), (Prod.mk.inj (Except.ok.inj h)).1]

end Names

/-! ## Class names in a run -/

namespace Lowering

variable {s s' : Session}

lemma classNames_warn {message : String} {u : Unit} (h : warn message s = .ok (u, s')) :
    s'.classNames = s.classNames := by
  obtain ⟨-, rfl⟩ := Prod.mk.inj (Except.ok.inj h)
  rfl

lemma classNames_warnOnce {subject message : String} {u : Unit}
    (h : warnOnce subject message s = .ok (u, s')) : s'.classNames = s.classNames := by
  obtain ⟨-, rfl⟩ := Prod.mk.inj (Except.ok.inj h)
  change (s.warnOnce subject message).classNames = s.classNames
  unfold Session.warnOnce
  split <;> rfl

end Lowering

namespace Setup

variable {setup : Setup} {s s' : Session}

/-- Preparing a document chooses no class names. -/
lemma classNames_prepare {d prepared : Document} (h : setup.prepare d s = .ok (prepared, s')) :
    s'.classNames = s.classNames := by
  rw [prepare] at h
  obtain ⟨canonical, t, hcanonical, h⟩ := Lowering.bind_eq_ok_iff.1 h
  obtain ⟨-, rfl⟩ := Lowering.pure_eq_ok_iff.1 h
  rw [canonicalDocument] at hcanonical
  obtain ⟨_, s₁, hunknown, hcanonical⟩ := Lowering.bind_eq_ok_iff.1 hcanonical
  obtain ⟨_, s₂, hdangling, hcanonical⟩ := Lowering.bind_eq_ok_iff.1 hcanonical
  obtain ⟨-, rfl⟩ := Lowering.pure_eq_ok_iff.1 hcanonical
  have hfirst : s₁.classNames = s.classNames := by
    refine Lowering.forIn_invariant (P := fun t => t.classNames = s.classNames) hunknown rfl ?_
    rintro x b t step t' ht hturn
    obtain ⟨_, t₁, hwarn, hturn⟩ := Lowering.bind_eq_ok_iff.1 hturn
    obtain ⟨-, rfl⟩ := Lowering.pure_eq_ok_iff.1 hturn
    rw [← ht]
    exact Lowering.classNames_warnOnce hwarn
  refine Lowering.forIn_invariant (P := fun t => t.classNames = s.classNames) hdangling hfirst ?_
  rintro x b t step t' ht hturn
  obtain ⟨_, t₁, hwarn, hturn⟩ := Lowering.bind_eq_ok_iff.1 hturn
  obtain ⟨-, rfl⟩ := Lowering.pure_eq_ok_iff.1 hturn
  rw [← ht]
  exact Lowering.classNames_warn hwarn

/-- The class names that a session has chosen are those of their keys. -/
def ClassNamesSound (setup : Setup) (s : Session) : Prop :=
  ∀ key name, s.classNames.find? key = some name →
    ∃ warning, setup.names.className key = .ok (name, warning)

/-- The class name that is chosen for a key is the one of the key. -/
lemma className_spec {key name : String} (h : setup.className key s = .ok (name, s'))
    (hs : setup.ClassNamesSound s) :
    (∃ warning, setup.names.className key = .ok (name, warning)) ∧ setup.ClassNamesSound s' := by
  rw [className] at h
  obtain ⟨s₁, s₂, hget, h⟩ := Lowering.bind_eq_ok_iff.1 h
  obtain ⟨rfl, rfl⟩ := Prod.mk.inj (Except.ok.inj hget)
  cases hfind : s.classNames.find? key with
  | some known =>
    simp only [hfind] at h
    obtain ⟨rfl, rfl⟩ := Lowering.pure_eq_ok_iff.1 h
    exact ⟨hs key known hfind, hs⟩
  | none =>
    simp only [hfind] at h
    obtain ⟨⟨chosen, warning⟩, s₁, hchosen, h⟩ := Lowering.bind_eq_ok_iff.1 h
    obtain ⟨hok, rfl⟩ := Lowering.lift_eq_ok_iff.1 hchosen
    have hend : name = chosen ∧ s'.classNames = s.classNames.insert key chosen := by
      cases warning with
      | none =>
        obtain ⟨_, t, hmodify, h⟩ := Lowering.bind_eq_ok_iff.1 h
        obtain ⟨rfl, rfl⟩ := Lowering.pure_eq_ok_iff.1 h
        obtain ⟨-, rfl⟩ := Prod.mk.inj (Except.ok.inj hmodify)
        exact ⟨rfl, rfl⟩
      | some message =>
        obtain ⟨_, t, hwarn, h⟩ := Lowering.bind_eq_ok_iff.1 h
        obtain ⟨_, t', hmodify, h⟩ := Lowering.bind_eq_ok_iff.1 h
        obtain ⟨rfl, rfl⟩ := Lowering.pure_eq_ok_iff.1 h
        obtain ⟨-, rfl⟩ := Prod.mk.inj (Except.ok.inj hmodify)
        exact ⟨rfl, congrArg (·.insert key chosen) (Lowering.classNames_warn hwarn)⟩
    obtain ⟨rfl, hnames⟩ := hend
    refine ⟨⟨warning, hok⟩, fun k known hk => ?_⟩
    rw [hnames] at hk
    by_cases heq : k = key
    · subst heq
      rw [Table.find?_insert_self] at hk
      obtain rfl := Option.some.inj hk
      exact ⟨warning, hok⟩
    · rw [Table.find?_insert_of_ne _ _ heq] at hk
      exact hs k known hk

/-- **Every entry of a table of models has the class name of its key.** -/
theorem classname_of_build {c : Components} {table : ModelTable}
    (h : ModelTable.build setup c s = .ok (table, s')) (hs : setup.ClassNamesSound s) :
    ∀ e ∈ table.entries, ∃ warning, setup.names.className e.1 = .ok (e.2.classname, warning) := by
  refine (ModelTable.build_induction (P := fun _ table t => (∀ e ∈ table.entries,
    ∃ warning, setup.names.className e.1 = .ok (e.2.classname, warning)) ∧
      setup.ClassNamesSound t) h ⟨fun e he => (List.not_mem_nil he).elim, hs⟩
    (fun _ _ _ _ _ hkept _ => hkept) ?_).1
  rintro - key schema table t classname t' ⟨htable, ht⟩ - - hclass
  obtain ⟨hname, ht'⟩ := className_spec hclass ht
  refine ⟨fun e he => ?_, ht'⟩
  rcases Table.mem_of_mem_put he with rfl | he
  · exact hname
  · exact htable e he

end Setup

namespace Document

variable {d : Document} {o : Options}

/-- **The class names of a run are those of the keys.** -/
theorem className_of_resolver {r : Resolver} (h : d.resolver o = .ok r) :
    ∀ e ∈ r.models.entries, ∃ warning,
      r.setup.names.className e.1 = .ok (e.2.classname, warning) := by
  obtain ⟨-, -, -, s, s', hprepare, hbuild⟩ := exists_build_of_resolver h
  refine Setup.classname_of_build hbuild fun key name hname => ?_
  rw [Setup.classNames_prepare hprepare] at hname
  cases hname

end Document

/-! ## Programs -/

lemma Resolver.DraftOf.classname_eq {r : Resolver} {key classname : String} {schema : Schema}
    {d : Draft} (h : DraftOf r key classname schema d) : d.model.classname = classname := by
  cases h with
  | enum _ _ hclassname => exact hclassname
  | «class» _ _ _ hclass => exact hclass.classname

/-- A model has the class name that the table of models has for its component. -/
lemma Resolver.Builds.exists_entry {r : Resolver} {ds folded : Drafts} {g : Property → Property}
    {models : List Model} (h : Builds r ds folded g models) {m : Model} (hm : m ∈ models) :
    ∃ e ∈ r.models.entries, e.1 = m.name ∧ m.classname = e.2.classname := by
  obtain ⟨key, d, alone, last, hway, hfinished⟩ := h.exists_way_of_mem hm
  obtain ⟨s, s', hdrafts⟩ := h.drafts
  obtain ⟨e, he, hkey, schema, -, hdraft⟩ := (drafts_spec hdrafts).2.2 key d hway.draft
  refine ⟨e, he, ?_, (hway.kept hfinished).1.trans hdraft.classname_eq⟩
  rw [hkey, hfinished.name, hway.name]

/-- **Class names are all different exactly if no two keys clash.** Without mappings of names the
models of a program go by different keys, and have the class names of these. If all keys are in
camel case and no class name gets another start then they do not clash. -/
theorem Document.classnames_of_lowered {d : Document} {o : Options} {program : Program}
    {warnings : List String} (h : d.lowered o = .ok (program, warnings))
    (hmappings : o.modelNameMapping = {}) :
    ((program.models.map (·.name)).Nodup ∧ ∀ m ∈ program.models,
        m.classname = (Names.ofOptions o.canonical).classNameOf m.name) ∧
      ((program.models.map (·.classname)).Nodup ↔
        program.models.Pairwise fun m n => ¬(Names.ofOptions o.canonical).Clash m.name n.name) ∧
      ((∀ m ∈ program.models, (Names.ofOptions o.canonical).camelKey m.name = m.name ∧
          (Names.ofOptions o.canonical).restarts
            ((Names.ofOptions o.canonical).classStem m.name) = false) →
        (program.models.map (·.classname)).Nodup) := by
  obtain ⟨r, ds, folded, g, hr, hbuilds⟩ := builds_of_lowered h
  have hnames : r.setup.names = Names.ofOptions o.canonical := by
    rw [(exists_build_of_resolver hr).1]
    rfl
  have hkeys : (program.models.map (·.name)).Nodup := hbuilds.names_eq ▸ hbuilds.nodup_keys
  have hclass : ∀ m ∈ program.models,
      m.classname = (Names.ofOptions o.canonical).classNameOf m.name := by
    intro m hm
    obtain ⟨e, he, hname, hclassname⟩ := hbuilds.exists_entry hm
    obtain ⟨warning, hwarning⟩ := className_of_resolver hr e he
    rw [hname, hnames] at hwarning
    refine hclassname.trans (Names.eq_classNameOf ?_ hwarning)
    change o.modelNameMapping.sortByKey.find? m.name = none
    rw [hmappings]
    rfl
  have hiff : (program.models.map (·.classname)).Nodup ↔
      program.models.Pairwise fun m n =>
        ¬(Names.ofOptions o.canonical).Clash m.name n.name := by
    rw [List.Nodup, List.pairwise_map]
    refine List.Pairwise.iff_of_mem fun {m n} hm hn => ?_
    rw [hclass m hm, hclass n hn, Ne, Names.className_eq_iff_clash]
  refine ⟨⟨hkeys, hclass⟩, hiff, fun hcamel => hiff.2 ?_⟩
  rw [List.Nodup, List.pairwise_map] at hkeys
  refine hkeys.imp_of_mem fun {m n} hm hn hne hclash => ?_
  rcases hclash with heq | hstart | hstart
  · rw [(hcamel m hm).1, (hcamel n hn).1] at heq
    exact hne heq
  · exact absurd hstart.1 (by simp [(hcamel m hm).2])
  · exact absurd hstart.1 (by simp [(hcamel n hn).2])

/-- Owners get a component of their own, beside the one of keepers. -/
theorem Document.classnames_of_lowered_keepers : ∃ program warnings,
    (petOwners "Keeper").lowered {} = .ok (program, warnings) ∧
    (program.models.map fun m => (m.name, m.classname)) =
      [("Keeper", "Keeper"), ("Pet", "Pet"), ("PetOwner", "PetOwner")] ∧
    ((program.models.map (·.classname)).Nodup ↔ program.models.Pairwise fun m n =>
      ¬(Names.ofOptions (Options.canonical {})).Clash m.name n.name) := by
  obtain ⟨program, warnings, h, hnames⟩ := exists_lowered (d := petOwners "Keeper") (o := {})
    (P := fun program => (program.models.map fun m => (m.name, m.classname)) =
      [("Keeper", "Keeper"), ("Pet", "Pet"), ("PetOwner", "PetOwner")])
    (by decide +kernel)
  exact ⟨program, warnings, h, hnames, (classnames_of_lowered h rfl).2.1⟩

/-- **A hoisted class may have the name of a declared one.** The component `PetOwner` that owners
get has a key of its own beside `pet_owner`, and the same class name. -/
theorem Document.hoisted_class_is_declared : ∃ program warnings,
    (petOwners "pet_owner").lowered {} = .ok (program, warnings) ∧
    Options.modelNameMapping {} = {} ∧
    (program.models.map fun m => (m.name, m.classname)) =
      [("Pet", "Pet"), ("pet_owner", "PetOwner"), ("PetOwner", "PetOwner")] ∧
    ¬(program.models.map (·.classname)).Nodup := by
  obtain ⟨program, warnings, h, hnames⟩ := exists_lowered (d := petOwners "pet_owner") (o := {})
    (P := fun program => (program.models.map fun m => (m.name, m.classname)) =
      [("Pet", "Pet"), ("pet_owner", "PetOwner"), ("PetOwner", "PetOwner")])
    (by decide +kernel)
  have hclass := congrArg (List.map Prod.snd) hnames
  rw [List.map_map] at hclass
  exact ⟨program, warnings, h, rfl, hnames, by
    change ¬(program.models.map fun m => m.classname).Nodup
    rw [show (program.models.map fun m => m.classname) = _ from hclass]
    decide⟩

end ApiLowering
