import ApiLowering.Models.Property
import ApiLowering.Proofs.Lists
import ApiLowering.Proofs.Run.Steps

/-!
# Constants of enumerations

An enumeration has one constant for each name that its values have. Many texts have one name, since
only words are left of them in capitals, and then the constant is that of the first value: it holds
the text of this value, and the texts of the others are lost.

## Main definitions

* `Setup.constantText?` — the text that the constant of a name stands for.

## Main results

* `mem_distinctBy_iff` — the first elements of each key are those that a search for it finds.
* `Setup.exists_enumConstants_eq` — the constants are the first of the named values.
* `Setup.exists_constant_iff` — the constants by their names and texts.
* `Setup.constants_of_values` — which values have a constant of their own.
-/

namespace ApiLowering

/-! ## The first of each key -/

section Distinct

variable {α β : Type} [BEq β] [LawfulBEq β] {key : α → β} {kept xs : List α} {x : α}

lemma mem_distinctFrom_iff : x ∈ distinctFrom (fun a b => key a == key b) kept xs ↔
    (∀ y ∈ kept, key y ≠ key x) ∧ xs.find? (key · == key x) = some x := by
  induction xs generalizing kept with
  | nil => simp [distinctFrom]
  | cons z rest ih =>
    rw [distinctFrom]
    by_cases hz : kept.any (key · == key z) = true
    · obtain ⟨y, hy, hyz⟩ := List.any_eq_true.1 hz
      rw [if_pos hz, ih]
      refine and_congr_right fun hx => ?_
      have hne : (key z == key x) = false :=
        beq_false_of_ne fun h => hx y hy ((eq_of_beq hyz).trans h)
      simp only [List.find?_cons, hne]
    · have hnew : ∀ y ∈ kept, key y ≠ key z := fun y hy heq =>
        hz (List.any_eq_true.2 ⟨y, hy, beq_iff_eq.2 heq⟩)
      rw [if_neg hz, List.mem_cons, ih]
      by_cases hx : key z = key x
      · simp only [List.find?_cons, beq_iff_eq.2 hx, Option.some_inj]
        constructor
        · rintro (rfl | ⟨hnone, -⟩)
          · exact ⟨hnew, rfl⟩
          · exact (hnone z (by simp) hx).elim
        · exact fun h => .inl h.2.symm
      · simp only [List.find?_cons, beq_false_of_ne hx, List.forall_mem_append,
          List.forall_mem_singleton]
        constructor
        · rintro (rfl | ⟨⟨h, -⟩, hfind⟩)
          · exact (hx rfl).elim
          · exact ⟨h, hfind⟩
        · exact fun h => .inr ⟨⟨h.1, hx⟩, h.2⟩

/-- The first elements of each key are those that a search for their key finds. -/
theorem mem_distinctBy_iff : x ∈ distinctBy key xs ↔ xs.find? (key · == key x) = some x := by
  rw [distinctBy, distinctWith, mem_distinctFrom_iff]
  simp

end Distinct

/-- A step that never fails and answers by the item alone picks from a list. -/
lemma Lowering.exists_filterMapM_eq {α β : Type} {f : α → Lowering (Option β)} {g : α → Option β}
    (h : ∀ x s, ∃ s', f x s = .ok (g x, s')) (xs : List α) (s : Session) :
    ∃ s', xs.filterMapM f s = .ok (xs.filterMap g, s') := by
  induction xs generalizing s with
  | nil => exact ⟨s, rfl⟩
  | cons x xs ih =>
    obtain ⟨t, hx⟩ := h x s
    obtain ⟨s', hxs⟩ := ih t
    refine ⟨s', ?_⟩
    rw [List.filterMapM_cons, bind_of_eq_ok hx, List.filterMap_cons]
    cases hg : g x with
    | none => exact hxs
    | some y => exact bind_of_eq_ok hxs

/-! ## Constants -/

namespace Setup

variable (setup : Setup) {s : Schema} {valueType name text : String} {cs : List EnumConstant}
  {σ σ' : Session}

/-- The values of an enumeration that have a name, as their names and texts. -/
def namedValues (s : Schema) (valueType : String) : List (String × String) :=
  (s.keywords.enumValues.filter (!·.isNull)).filterMap fun v =>
    (setup.names.constantName? (some v.plainText) valueType).map (·, v.plainText)

lemma namedValues_sublist (s : Schema) (valueType : String) :
    ((setup.namedValues s valueType).map fun e => (some e.1, e.2)).Sublist
      ((s.keywords.enumValues.filter (!·.isNull)).map fun v =>
        (setup.names.constantName? (some v.plainText) valueType, v.plainText)) := by
  have hfilter : ((setup.namedValues s valueType).map fun e => (some e.1, e.2)) =
      ((s.keywords.enumValues.filter (!·.isNull)).map fun v =>
        (setup.names.constantName? (some v.plainText) valueType, v.plainText)).filter
          (·.1.isSome) := by
    rw [namedValues]
    generalize s.keywords.enumValues.filter (!·.isNull) = values
    rw [List.map_filterMap, ← List.filterMap_eq_filter, List.filterMap_map]
    congr 1
    funext v
    cases hname : setup.names.constantName? (some v.plainText) valueType <;>
      simp [Option.guard, hname]
  rw [hfilter]
  exact List.filter_sublist

/-- The text that the constant of a name stands for: that of the first value with this name. -/
def constantText? (s : Schema) (valueType name : String) : Option String :=
  ((s.keywords.enumValues.filter (!·.isNull)).find? fun v =>
    setup.names.constantName? (some v.plainText) valueType == some name).map Json.plainText

/-- A value is named, or left out with a warning. -/
lemma exists_namedValue_eq (valueType : String) (v : Json) (σ : Session) : ∃ σ', (do
    let raw := v.plainText
    match setup.names.constantName? (some raw) valueType with
    | some name => return some (name, raw)
    | none =>
      Lowering.warnOnce ("enum-var:" ++ raw)
        s!"enum value '{raw}' has no constant name, skipping it"
      return none : Lowering (Option (String × String))) σ =
    .ok ((setup.names.constantName? (some v.plainText) valueType).map (·, v.plainText), σ') := by
  cases hname : setup.names.constantName? (some v.plainText) valueType with
  | some name => exact ⟨σ, by simp only [hname]; rfl⟩
  | none => exact ⟨_, by simp only [hname]; rfl⟩

/-- **The constants of an enumeration** are the first of the named values of each name, and there
are always some. -/
theorem exists_enumConstants_eq (s : Schema) (valueType : String) (σ : Session) :
    ∃ cs σ', setup.enumConstants s valueType σ = .ok (cs, σ') ∧
      cs.map (fun c => (c.name, c.rawValue)) =
        distinctBy Prod.fst (setup.namedValues s valueType) := by
  obtain ⟨σ', hnamed⟩ := Lowering.exists_filterMapM_eq (setup.exists_namedValue_eq valueType)
    (s.keywords.enumValues.filter (!·.isNull)) σ
  refine ⟨_, σ', Lowering.bind_of_eq_ok hnamed, ?_⟩
  rw [List.map_map]
  exact List.map_id _

lemma map_enumConstants (h : setup.enumConstants s valueType σ = .ok (cs, σ')) :
    cs.map (fun c => (c.name, c.rawValue)) =
      distinctBy Prod.fst (setup.namedValues s valueType) := by
  obtain ⟨cs', σ'', hcs, hmap⟩ := setup.exists_enumConstants_eq s valueType σ
  obtain ⟨rfl, -⟩ := Prod.mk.inj (Except.ok.inj (h.symm.trans hcs))
  exact hmap

/-- A search among the named values finds the first value with the name. -/
lemma find?_namedValues : (setup.namedValues s valueType).find? (·.1 == name) =
    (setup.constantText? s valueType name).map (name, ·) := by
  rw [namedValues, constantText?, List.find?_filterMap, Option.map_map]
  have htest : (fun v : Json => ((setup.names.constantName? (some v.plainText) valueType).map
        (·, v.plainText)).any fun e => e.1 == name) =
      fun v => setup.names.constantName? (some v.plainText) valueType == some name := by
    funext v
    cases setup.names.constantName? (some v.plainText) valueType <;> rfl
  rw [htest]
  cases hv : (s.keywords.enumValues.filter (!·.isNull)).find? fun v =>
      setup.names.constantName? (some v.plainText) valueType == some name with
  | none => rfl
  | some v =>
    have hname := List.find?_some hv
    rw [beq_iff_eq] at hname
    rw [Option.bind_some, hname]
    rfl

/-- **The constants of an enumeration, by name and text.** A constant stands for the first value
that has its name. -/
theorem exists_constant_iff (h : setup.enumConstants s valueType σ = .ok (cs, σ')) :
    (∃ c ∈ cs, c.name = name ∧ c.rawValue = text) ↔
      setup.constantText? s valueType name = some text := by
  have hmem : (∃ c ∈ cs, c.name = name ∧ c.rawValue = text) ↔
      (name, text) ∈ cs.map fun c => (c.name, c.rawValue) := by
    simp only [List.mem_map, Prod.mk.injEq]
  rw [hmem, setup.map_enumConstants h, mem_distinctBy_iff, find?_namedValues]
  simp

/-- The text of a constant has the name of the constant. -/
lemma constantName?_of_constantText? (h : setup.constantText? s valueType name = some text) :
    setup.names.constantName? (some text) valueType = some name := by
  obtain ⟨v, hv, rfl⟩ := Option.map_eq_some_iff.1 h
  have hname := List.find?_some hv
  rwa [beq_iff_eq] at hname

/-- Every name of a value is that of a constant. -/
lemma exists_constantText? {v : Json} (hv : v ∈ s.keywords.enumValues) (hnull : v.isNull = false)
    (hname : setup.names.constantName? (some v.plainText) valueType = some name) :
    ∃ text, setup.constantText? s valueType name = some text := by
  rw [← Option.isSome_iff_exists, constantText?, Option.isSome_map, List.find?_isSome]
  exact ⟨v, List.mem_filter.2 ⟨hv, by rw [hnull]; rfl⟩, beq_iff_eq.2 hname⟩

/-- If only one text among the values of an enumeration has a name, then the constant of this name
holds it. -/
lemma constantText?_of_alone
    (hname : setup.names.constantName? (some text) valueType = some name)
    (hlisted : ∃ v ∈ s.keywords.enumValues, v.isNull = false ∧ v.plainText = text)
    (halone : ∀ v ∈ s.keywords.enumValues,
      setup.names.constantName? (some v.plainText) valueType = some name → v.plainText = text) :
    setup.constantText? s valueType name = some text := by
  obtain ⟨v, hv, hnull, rfl⟩ := hlisted
  obtain ⟨first, hfirst⟩ := setup.exists_constantText? hv hnull hname
  obtain ⟨w, hw, rfl⟩ := Option.map_eq_some_iff.1 hfirst
  rw [hfirst, halone w (List.mem_of_mem_filter (List.mem_of_find?_eq_some hw))]
  exact setup.constantName?_of_constantText? hfirst

/-- **Constants of enumerations.** Whatever values a schema enumerates, its constants have distinct
names and stand in the order of the values that they are made from. Every value with a name has a
constant of this name. The constant holds the text of the value exactly if no value before it has
the name with another text: the first value of a name keeps the constant, and only then is there a
constant with the text of the value. -/
theorem constants_of_values (setup : Setup) (s : Schema) (valueType : String) (σ : Session) :
    ∃ cs σ', setup.enumConstants s valueType σ = .ok (cs, σ') ∧
      (cs.map (·.name)).Nodup ∧
      (cs.map fun c => (some c.name, c.rawValue)).Sublist
        ((s.keywords.enumValues.filter (!·.isNull)).map fun v =>
          (setup.names.constantName? (some v.plainText) valueType, v.plainText)) ∧
      ∀ v ∈ s.keywords.enumValues, v.isNull = false → ∀ name,
        setup.names.constantName? (some v.plainText) valueType = some name →
        (∃ c ∈ cs, c.name = name ∧ setup.constantText? s valueType name = some c.rawValue) ∧
        ((∃ c ∈ cs, c.rawValue = v.plainText) ↔
          setup.constantText? s valueType name = some v.plainText) := by
  obtain ⟨cs, σ', hcs, hmap⟩ := setup.exists_enumConstants_eq s valueType σ
  have hiff {name text : String} : (∃ c ∈ cs, c.name = name ∧ c.rawValue = text) ↔
      setup.constantText? s valueType name = some text := setup.exists_constant_iff hcs
  refine ⟨cs, σ', hcs, ?_, ?_, fun v hv hnull name hname => ⟨?_, ?_, ?_⟩⟩
  · have hnames : cs.map (·.name) = (cs.map fun c => (c.name, c.rawValue)).map Prod.fst := by
      rw [List.map_map]
      rfl
    rw [hnames, hmap]
    exact map_distinctBy_nodup _ _
  · have hpairs : (cs.map fun c => (some c.name, c.rawValue)) =
        (distinctBy Prod.fst (setup.namedValues s valueType)).map fun e => (some e.1, e.2) := by
      rw [← hmap, List.map_map]
      rfl
    rw [hpairs]
    exact ((distinctWith_sublist _ _).map _).trans (setup.namedValues_sublist s valueType)
  · obtain ⟨text, htext⟩ := setup.exists_constantText? hv hnull hname
    obtain ⟨c, hc, hcname, rfl⟩ := hiff.2 htext
    exact ⟨c, hc, hcname, htext⟩
  · rintro ⟨c, hc, hraw⟩
    have hself := hiff.1 ⟨c, hc, rfl, hraw⟩
    have hown := setup.constantName?_of_constantText? hself
    rw [hname] at hown
    rwa [Option.some.inj hown]
  · intro htext
    obtain ⟨c, hc, -, hraw⟩ := hiff.2 htext
    exact ⟨c, hc, hraw⟩

/-- **Two grades with one constant.** The grades `a` and `A` are both named `A`, and without a
mapping of their names nothing tells them apart: the only constant is that of `a`. -/
theorem grade_without_constant : ∃ cs σ',
    (ofCanonical {}).names.enumNameMapping = {} ∧
    (ofCanonical {}).names.constantName? (some "A") "String" = some "A" ∧
    (ofCanonical {}).enumConstants { keywords := { enumValues := [.string "a", .string "A"] } }
      "String" (.start (ofCanonical {})) = .ok (cs, σ') ∧
    cs.map (fun c => (c.name, c.rawValue)) = [("A", "a")] := by
  obtain ⟨cs, σ', hcs, hmap⟩ := (ofCanonical {}).exists_enumConstants_eq
    { keywords := { enumValues := [.string "a", .string "A"] } } "String" (.start (ofCanonical {}))
  refine ⟨cs, σ', rfl, by decide +kernel, hcs, hmap.trans ?_⟩
  decide +kernel

end Setup

end ApiLowering
