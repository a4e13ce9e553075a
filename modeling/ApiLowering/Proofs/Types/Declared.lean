import ApiLowering.Dialect.Java
import ApiLowering.Proofs.Models.Enumerations
import ApiLowering.Proofs.Types.Resolution

/-!
# Declared types

The type of a property is spelled twice: when it is resolved, from the types of its items, and when
it is declared, from the properties that its items are. Declarations take the keys of all maps for
texts, know nothing of scalars in the place of containers, and where the items of a container are
not known they leave out the name of an enumeration. In Java without validation they differ from
the data types in nothing else.

The lengths of both spellings and the brackets that they end with tell which of this is the case.
No scalar ends with a bracket, so that a scalar in the place of a container has too few of them; and
if there is none, the keys of all maps make one spelling shorter than the other one.

## Main definitions

* `Setup.Formed` — how properties are spelled over their items.
* `Setup.Regular` — nothing is there that declarations spell in another way.

## Main results

* `Setup.Formed.argument_eq_iff` — a declared type is the data type exactly if it is regular.
* `Resolver.MadeOf.formed` — properties are spelled over their items as their types are.
-/

namespace ApiLowering

/-! ## Brackets at the end -/

namespace Text

/-- The number of closing brackets at the end of a text. -/
def closings (s : String) : Nat := (s.toList.reverse.takeWhile (· == '>')).length

lemma closings_append_close (s : String) : closings (s ++ ">") = closings s + 1 := by
  rw [closings, String.toList_append, List.reverse_append]
  rfl

/-- What ends with another character does not count in front of a text. -/
lemma closings_append {start rest : String}
    (hstart : start.toList.reverse.takeWhile (· == '>') = []) :
    closings (start ++ rest) = closings rest := by
  simp only [closings, String.toList_append, List.reverse_append, List.takeWhile_append, hstart,
    List.append_nil]
  split
  · rename_i hall
    rw [hall]
  · rfl

end Text

/-! ## Spelled containers -/

namespace ResolvedType

variable {facts : TypeFacts} {keyType container x y : String}

/-- What a container is spelled with in front of its items. -/
def opening (facts : TypeFacts) (keyType container : String) : String :=
  container ++ "<" ++ if facts.isMap then keyType ++ ", " else ""

lemma spell_eq : spell facts keyType container x = opening facts keyType container ++ x ++ ">" := by
  rw [spell, opening, Option.getD_some]
  split <;> simp only [String.append_assoc, String.empty_append]

/-- The brackets at its end are those of its items, and one more. -/
lemma closings_spell :
    Text.closings (spell facts keyType container x) = Text.closings x + 1 := by
  rw [spell_eq, Text.closings_append_close, Text.closings_append]
  rw [opening]
  split <;> simp [String.toList_append]

lemma length_opening : (opening facts keyType container).length =
    container.length + 1 + if facts.isMap then keyType.length + 2 else 0 := by
  rw [opening]
  split <;> simp only [String.length_append] <;> rfl

lemma length_spell : (spell facts keyType container x).length =
    (opening facts keyType container).length + x.length + 1 := by
  rw [spell_eq, String.length_append, String.length_append]
  rfl

/-- With the same keys a container is spelled in one way from its items. -/
lemma spell_inj : spell facts keyType container x = spell facts keyType container y ↔ x = y := by
  rw [spell_eq, spell_eq, ← String.toList_inj, ← String.toList_inj]
  simp only [String.toList_append, List.append_left_inj, List.append_right_inj]

/-- Keys of the same length are the same in two spellings of one map. -/
lemma eq_of_spell_eq {keyType' : String} (hmap : facts.isMap = true)
    (hlength : keyType.length = keyType'.length)
    (h : spell facts keyType container x = spell facts keyType' container y) :
    keyType = keyType' := by
  rw [spell_eq, spell_eq, opening, opening, if_pos hmap, if_pos hmap, ← String.toList_inj] at h
  simp only [String.toList_append, List.append_assoc, List.append_cancel_left_eq] at h
  rw [← String.toList_inj]
  exact (List.append_inj h hlength).1

end ResolvedType

/-- A declared container is spelled with texts for its keys. -/
lemma Annotator.wrap_eq (facts : TypeFacts) (argument container : String) :
    wrap facts argument container = ResolvedType.spell facts "String" container argument := by
  rw [wrap, ResolvedType.spell, Option.getD_some]
  split
  · simp only [String.append_assoc]
    rfl
  · rfl

namespace Setup

variable {setup : Setup} {p i : Property} {withEnum : Bool}

/-! ## Properties and their items -/

/-- How properties are spelled over their items. What has no items is no container, or a container
of items that are not known. -/
inductive Formed (setup : Setup) : Property → Prop
  | plain {p : Property} : p.items = none → p.type.isContainer = false → Formed setup p
  | bare {p : Property} : p.items = none → p.type.isContainer = true → Formed setup p
  | container {p i : Property} : p.items = some i → p.type.isContainer = true →
    setup.Encloses p.type i.type → Formed setup i → Formed setup p

/-- This depends on the type and the items alone. -/
lemma Formed.congr {q : Property} (h : setup.Formed p) (htype : q.type = p.type)
    (hitems : q.items = p.items) : setup.Formed q := by
  cases h with
  | plain hnone hflag => exact .plain (hitems.trans hnone) (htype ▸ hflag)
  | bare hnone hflag => exact .bare (hitems.trans hnone) (htype ▸ hflag)
  | container hsome hflag hencloses hi =>
    exact .container (hitems.trans hsome) (htype ▸ hflag) (htype ▸ hencloses) hi

lemma Formed.of_items (h : setup.Formed p) (hitems : p.items = some i) : setup.Formed i := by
  cases h with
  | plain hnone => exact absurd (hitems.symm.trans hnone) (by simp)
  | bare hnone => exact absurd (hitems.symm.trans hnone) (by simp)
  | container hsome _ _ hi =>
    obtain rfl := Option.some.inj (hitems.symm.trans hsome)
    exact hi

/-- Nothing is there that declarations spell in another way: the keys of all maps are texts, no
scalar is in the place of a container, and containers of items that are not known have no names of
enumerations. -/
inductive Regular (setup : Setup) : Property → Prop
  | innermost {p : Property} : p.items = none →
    (p.type.isContainer = true → p.type.datatypeWithEnum = p.type.dataType) → Regular setup p
  | container {p i : Property} : p.items = some i →
    (p.type.isMap = true → setup.keyType = "String") →
    (∀ scalar, p.type.dataType ≠ (setup.dialect.scalar scalar).boxed) → Regular setup i →
    Regular setup p

lemma Regular.of_no_items (h : setup.Regular p) (hitems : p.items = none) :
    p.type.isContainer = true → p.type.datatypeWithEnum = p.type.dataType := by
  cases h with
  | innermost _ hsame => exact hsame
  | container hitems' =>
    rw [hitems] at hitems'
    cases hitems'

lemma Regular.of_items (h : setup.Regular p) (hitems : p.items = some i) :
    (p.type.isMap = true → setup.keyType = "String") ∧
      (∀ scalar, p.type.dataType ≠ (setup.dialect.scalar scalar).boxed) ∧ setup.Regular i := by
  cases h with
  | innermost hnone =>
    rw [hitems] at hnone
    cases hnone
  | container hitems' hkey hscalar hregular =>
    obtain rfl := Option.some.inj (hitems.symm.trans hitems')
    exact ⟨hkey, hscalar, hregular⟩

/-! ## Declared types -/

section Declared

/-- Types are declared in Java, without annotations. -/
structure DeclaresBare (setup : Setup) : Prop where
  dialect : setup.dialect = .java
  beanValidation : setup.options.beanValidation = false

lemma decorate_annotator (h : setup.DeclaresBare) (p : Property) (inner : String) :
    setup.annotator.decorate p inner = inner := by
  have hmark : setup.annotator.dialect.nullableMarker = "" := by
    rw [annotator, h.dialect]
    rfl
  have hnone : setup.annotator.beanValidation = false := h.beanValidation
  simp [Annotator.decorate, hmark, hnone]

lemma argument_of_no_items (h : setup.DeclaresBare) (hitems : p.items = none) :
    setup.annotator.argument withEnum p =
      if p.type.isContainer then p.type.dataType else Annotator.plain p.type withEnum := by
  cases p
  cases hitems
  rw [Annotator.argument, decorate_annotator h, Annotator.argumentOf]
  dsimp only
  split
  · split
    · rename_i hnone
      cases hnone
    · rfl
  · rfl

lemma argument_of_items {container : String} (h : setup.DeclaresBare) (hitems : p.items = some i)
    (hflag : p.type.isContainer = true) (hcontainer : p.type.containerType = some container) :
    setup.annotator.argument withEnum p = ResolvedType.spell p.type "String" container
      (setup.annotator.argument withEnum i) := by
  cases p
  cases hitems
  rw [Annotator.argument, decorate_annotator h, Annotator.argumentOf]
  dsimp only at hflag hcontainer ⊢
  rw [if_pos hflag, hcontainer]
  exact Annotator.wrap_eq _ _ _

/-- A type is declared as the argument of a container is, unless its items are not known. -/
lemma declaredType_eq (h : setup.DeclaresBare) (hp : setup.Formed p)
    (hknown : p.items = none → p.type.isContainer = false) :
    setup.annotator.declaredType p.type p.items withEnum =
      setup.annotator.argument withEnum p := by
  cases hp with
  | plain hitems hflag =>
    rw [argument_of_no_items h hitems, hflag, Annotator.declaredType, hitems, Annotator.argumentOf]
    cases p.type.containerType <;> rfl
  | bare hitems hflag =>
    rw [hknown hitems] at hflag
    cases hflag
  | container hitems hflag hencloses =>
    obtain ⟨container, hcontainer⟩ := hencloses.exists_containerType
    rw [argument_of_items h hitems hflag hcontainer, Annotator.declaredType, hitems,
      Annotator.argumentOf, hcontainer]
    exact Annotator.wrap_eq _ _ _

lemma closings_scalar (h : setup.DeclaresBare) (scalar : Primitive) :
    Text.closings (setup.dialect.scalar scalar).boxed = 0 := by
  rw [h.dialect]
  cases scalar <;> decide

/-- The lengths of both spellings, if they end with as many brackets: the keys of maps make the
difference. -/
lemma Formed.length_le (h : setup.DeclaresBare) (hp : setup.Formed p)
    (hclosings : Text.closings p.type.dataType =
      Text.closings (setup.annotator.argument false p)) :
    (setup.keyType.length ≤ "String".length →
      p.type.dataType.length ≤ (setup.annotator.argument false p).length) ∧
    ("String".length ≤ setup.keyType.length →
      (setup.annotator.argument false p).length ≤ p.type.dataType.length) := by
  induction hp with
  | plain hitems hflag =>
    rw [argument_of_no_items h hitems, hflag]
    exact ⟨fun _ => le_rfl, fun _ => le_rfl⟩
  | bare hitems hflag =>
    rw [argument_of_no_items h hitems, hflag]
    exact ⟨fun _ => le_rfl, fun _ => le_rfl⟩
  | container hitems hflag hencloses _ ih =>
    cases hencloses with
    | spelled hcontainer hspelled =>
      rw [argument_of_items h hitems hflag hcontainer, hspelled] at hclosings ⊢
      rw [ResolvedType.closings_spell, ResolvedType.closings_spell, Nat.add_right_cancel_iff]
        at hclosings
      obtain ⟨hle, hge⟩ := ih hclosings
      simp only [ResolvedType.length_spell, ResolvedType.length_opening]
      constructor <;> intro hkey
      · have := hle hkey
        split <;> omega
      · have := hge hkey
        split <;> omega
    | replaced hcontainer hscalar =>
      rw [argument_of_items h hitems hflag hcontainer, hscalar, closings_scalar h,
        ResolvedType.closings_spell] at hclosings
      cases hclosings

/-- Keys are texts, if a map is declared as its data type. -/
lemma keyType_eq_of_spell_eq {container : String} (h : setup.DeclaresBare) (hi : setup.Formed i)
    {facts : TypeFacts} (hmap : facts.isMap = true)
    (heq : ResolvedType.spell facts "String" container (setup.annotator.argument false i) =
      ResolvedType.spell facts setup.keyType container i.type.dataType) :
    setup.keyType = "String" := by
  have hclosings := congrArg Text.closings heq
  rw [ResolvedType.closings_spell, ResolvedType.closings_spell, Nat.add_right_cancel_iff]
    at hclosings
  obtain ⟨hle, hge⟩ := hi.length_le h hclosings.symm
  have hlength := congrArg String.length heq
  simp only [ResolvedType.length_spell, ResolvedType.length_opening, hmap, if_true] at hlength
  refine (ResolvedType.eq_of_spell_eq hmap ?_ heq).symm
  omega

/-- **A declared type is the data type exactly if it is regular.** -/
theorem Formed.argument_eq_iff (h : setup.DeclaresBare) (hp : setup.Formed p) :
    setup.annotator.argument false p = p.type.dataType ∧
      setup.annotator.argument true p = p.type.datatypeWithEnum ↔ setup.Regular p := by
  induction hp with
  | plain hitems hflag =>
    rw [argument_of_no_items h hitems, argument_of_no_items h hitems, hflag]
    exact ⟨fun _ => .innermost hitems fun hcontainer => absurd hcontainer (by simp [hflag]),
      fun _ => ⟨rfl, rfl⟩⟩
  | bare hitems hflag =>
    rw [argument_of_no_items h hitems, argument_of_no_items h hitems, if_pos hflag, if_pos hflag]
    refine ⟨fun heq => .innermost hitems fun _ => heq.2.symm, fun hregular => ⟨rfl, ?_⟩⟩
    exact ((hregular.of_no_items hitems) hflag).symm
  | @container p i hitems hflag hencloses hi ih =>
    cases hencloses with
    | @spelled container hcontainer hdata henum =>
      rw [argument_of_items h hitems hflag hcontainer, argument_of_items h hitems hflag hcontainer,
        hdata, henum]
      have hinner (hkey : p.type.isMap = true → setup.keyType = "String") :
          setup.Regular i ↔
            ResolvedType.spell p.type "String" container (setup.annotator.argument false i) =
              ResolvedType.spell p.type setup.keyType container i.type.dataType ∧
            ResolvedType.spell p.type "String" container (setup.annotator.argument true i) =
              ResolvedType.spell p.type setup.keyType container i.type.datatypeWithEnum := by
        have hkeys (x : String) : ResolvedType.spell p.type setup.keyType container x =
            ResolvedType.spell p.type "String" container x :=
          ResolvedType.spell_congr fun hmap => congrArg some (hkey hmap)
        rw [hkeys, hkeys, ResolvedType.spell_inj, ResolvedType.spell_inj, ih]
      constructor
      · intro heq
        have hkey : p.type.isMap = true → setup.keyType = "String" :=
          fun hmap => keyType_eq_of_spell_eq h hi hmap heq.1
        refine .container hitems hkey (fun scalar hscalar => ?_) ((hinner hkey).2 heq)
        have hclosings := closings_scalar h scalar
        rw [← hscalar, hdata, ResolvedType.closings_spell] at hclosings
        cases hclosings
      · intro hregular
        obtain ⟨hkey, -, hregular⟩ := hregular.of_items hitems
        exact (hinner hkey).1 hregular
    | @replaced container scalar hcontainer hdata =>
      refine ⟨fun heq => ?_, fun hregular => ?_⟩
      · have hclosings := closings_scalar h scalar
        rw [← hdata, ← heq.1, argument_of_items h hitems hflag hcontainer,
          ResolvedType.closings_spell] at hclosings
        cases hclosings
      · exact absurd hdata ((hregular.of_items hitems).2.1 scalar)

end Declared

end Setup

/-! ## Properties of schemas -/

namespace Resolver

variable {r : Resolver} {s s' : Session} {t : ResolvedType} {p i : Property} {target : Schema}
  {name baseName : String}

/-- Items have the items of their type, unless nothing is known of their schema. -/
lemma itemsOf_of_itemsProperty (h : r.itemsProperty name baseName target t s = .ok (i, s')) :
    i.items = none ∨ ∃ schema u u', r.itemsOf name baseName schema t.items u = .ok (i.items, u') := by
  obtain ⟨-, rfl⟩ | ⟨_, _, schema, _, _, u, u', -, -, -, hbelow, rfl⟩ := itemsProperty_cases h
  · exact .inl rfl
  · exact .inr ⟨schema, u, u', hbelow⟩

lemma exists_itemsProperty_of_itemsOf {inner : ResolvedType} {items : Option Property}
    (h : r.itemsOf name baseName target (some inner) s = .ok (items, s')) :
    ∃ i t, items = some i ∧ r.itemsProperty name baseName target inner s = .ok (i, t) := by
  rw [itemsOf] at h
  obtain ⟨i, t, hi, h⟩ := Lowering.bind_eq_ok_iff.1 h
  exact ⟨i, t, (Lowering.pure_eq_ok_iff.1 h).1.symm, hi⟩

/-- Items are spelled over their items as their types are. -/
lemma formed_itemsProperty (ht : r.setup.Shaped t) :
    ∀ {target s s' i}, r.itemsProperty name baseName target t s = .ok (i, s') →
      r.setup.Formed i := by
  induction ht with
  | @plain t hflag hitems =>
    intro target s s' i h
    rw [← (itemsProperty_spec h).1] at hflag
    obtain hnone | ⟨schema, u, u', hbelow⟩ := itemsOf_of_itemsProperty h
    · exact .plain hnone hflag
    · rw [hitems, itemsOf] at hbelow
      exact .plain (Lowering.pure_eq_ok_iff.1 hbelow).1.symm hflag
  | @container t inner hitems hflag _ hencloses _ ih =>
    intro target s s' i h
    rw [← (itemsProperty_spec h).1] at hflag hencloses
    obtain hnone | ⟨schema, u, u', hbelow⟩ := itemsOf_of_itemsProperty h
    · exact .bare hnone hflag
    · rw [hitems] at hbelow
      obtain ⟨below, v, hi, hbelow⟩ := exists_itemsProperty_of_itemsOf hbelow
      rw [← (itemsProperty_spec hbelow).1] at hencloses
      exact .container hi hflag hencloses (ih hbelow)

/-- **Properties are spelled over their items as their types are**, and the items of a property that
is a container are known. -/
theorem MadeOf.formed {ref : SchemaRef} {site : DefaultSite} (h : r.MadeOf ref site target t p) :
    r.setup.Formed p ∧ (p.items = none → p.type.isContainer = false) := by
  obtain ⟨name, s, s', ht⟩ := h.resolves
  obtain ⟨own, base, u, u', hitems⟩ := h.items
  cases shaped_propertyType ht with
  | plain hflag hnone =>
    rw [← h.type] at hflag
    exact ⟨.plain (h.items_eq_none hnone) hflag, fun _ => hflag⟩
  | container hinner hflag _ hencloses hshaped =>
    rw [hinner] at hitems
    obtain ⟨i, v, hi, hitem⟩ := exists_itemsProperty_of_itemsOf hitems
    rw [← h.type] at hflag hencloses
    rw [← (itemsProperty_spec hitem).1] at hencloses
    exact ⟨.container hi hflag hencloses (formed_itemsProperty hshaped hitem),
      fun hnone => absurd (hi.symm.trans hnone) (by simp)⟩

/-- A property that is an array has items. -/
lemma MadeOf.isSome_items {ref : SchemaRef} {site : DefaultSite}
    (h : r.MadeOf ref site target t p) (harray : p.type.isArray = true) :
    p.items.isSome = true := by
  obtain ⟨name, s, s', ht⟩ := h.resolves
  have hcontainer : p.type.isContainer = true := by
    rw [h.type] at harray ⊢
    exact isContainer_of_propertyType ht harray
  rw [Option.isSome_iff_ne_none]
  intro hnone
  rw [h.formed.2 hnone] at hcontainer
  cases hcontainer

end Resolver

end ApiLowering
