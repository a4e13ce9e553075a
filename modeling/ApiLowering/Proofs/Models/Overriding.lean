import ApiLowering.Models.Inheritance
import ApiLowering.Proofs.Lists
import ApiLowering.Proofs.Tables
import Mathlib.Data.List.Induction

/-!
# Overriding

The properties that a class inherits, overridden by its own: an own property takes the place of the
inherited one of its name, and properties with new names follow. Of several own properties with one
name the last one counts, in the place of the first one.

## Main definitions

* `Property.last?` — the last of some properties with a name.
* `Property.overridden` — inherited properties with own ones in their places and behind them.

## Main results

* `Property.overrideAll_eq` — overriding one property after the other gives that list.
* `Property.nodup_names_overrideAll` — which has no name twice.
* `Property.find?_overridden` — under each name there is the own property, or else the inherited
  one.
-/

namespace ApiLowering

namespace Property

/-- The last of some properties with a name. -/
def last? (ps : List Property) (name : String) : Option Property :=
  ps.reverse.find? (·.name == name)

/-- A property, or the last own one of its name. -/
def orOwn (own : List Property) (p : Property) : Property := (last? own p.name).getD p

/-- The first own properties of each name that is not inherited. -/
def added (inherited own : List Property) : List Property :=
  (distinctBy (·.name) own).filter fun p => !inherited.any (·.isNamesake p)

/-- Inherited properties with own ones in their places and behind them. -/
def overridden (inherited own : List Property) : List Property :=
  inherited.map (orOwn own) ++ (added inherited own).map (orOwn own)

variable {inherited own ps : List Property} {p q : Property} {name : String}

/-! ## The last property of a name -/

lemma name_of_last? (h : last? ps name = some p) : p.name = name := by
  simpa using List.find?_some h

lemma mem_of_last? (h : last? ps name = some p) : p ∈ ps :=
  List.mem_reverse.1 (List.mem_of_find?_eq_some h)

lemma last?_eq_none_iff : last? ps name = none ↔ name ∉ ps.map (·.name) := by
  simp [last?, List.find?_eq_none]

lemma last?_concat (ps : List Property) (p : Property) (name : String) :
    last? (ps ++ [p]) name = if p.name = name then some p else last? ps name := by
  rw [last?, List.reverse_concat, List.find?_cons]
  by_cases h : p.name = name
  · rw [if_pos h, beq_iff_eq.2 h]
  · rw [if_neg h, beq_eq_false_iff_ne.2 h]
    rfl

@[simp] lemma name_orOwn (own : List Property) (p : Property) : (orOwn own p).name = p.name := by
  rw [orOwn]
  cases h : last? own p.name with
  | none => rfl
  | some q => exact name_of_last? h

lemma isNamesake_iff : p.isNamesake q = true ↔ p.name = q.name := beq_iff_eq

lemma any_isNamesake_iff : (ps.any (·.isNamesake p)) = true ↔ p.name ∈ ps.map (·.name) := by
  simp only [List.any_eq_true, isNamesake_iff, List.mem_map]

/-- Every addition has a namesake in the list. -/
lemma exists_namesake_mem_addNewBy {more : List Property} (h : p ∈ more) :
    ∃ q ∈ addNewBy isNamesake ps more, q.name = p.name := by
  have hrefl (q : Property) : q.isNamesake q = true := isNamesake_iff.2 rfl
  obtain ⟨q, hq, hname⟩ := exists_same_mem_addNewBy hrefl h
  exact ⟨q, hq, isNamesake_iff.1 hname⟩

/-! ## Names -/

lemma names_overridden : (overridden inherited own).map (·.name) =
    inherited.map (·.name) ++ (added inherited own).map (·.name) := by
  have hname : (fun p : Property => p.name) ∘ orOwn own = (·.name) := funext (name_orOwn own)
  rw [overridden, List.map_append, List.map_map, List.map_map, hname]

lemma mem_names_added : name ∈ (added inherited own).map (·.name) ↔
    name ∈ own.map (·.name) ∧ name ∉ inherited.map (·.name) := by
  constructor
  · intro h
    obtain ⟨p, hp, rfl⟩ := List.mem_map.1 h
    obtain ⟨hp, hnew⟩ := List.mem_filter.1 hp
    rw [Bool.not_eq_true', ← Bool.not_eq_true, any_isNamesake_iff] at hnew
    exact ⟨List.mem_map_of_mem (mem_of_mem_distinctWith hp), hnew⟩
  · rintro ⟨hown, hnew⟩
    obtain ⟨p, hp, rfl⟩ := List.mem_map.1 ((mem_map_distinctBy (·.name) own name).2 hown)
    refine List.mem_map_of_mem (List.mem_filter.2 ⟨hp, ?_⟩)
    rwa [Bool.not_eq_true', ← Bool.not_eq_true, any_isNamesake_iff]

/-- The names are those of both lists. -/
lemma mem_names_overridden : name ∈ (overridden inherited own).map (·.name) ↔
    name ∈ inherited.map (·.name) ∨ name ∈ own.map (·.name) := by
  rw [names_overridden, List.mem_append, mem_names_added]
  tauto

/-- No name is there twice. -/
lemma nodup_names_overridden (h : (inherited.map (·.name)).Nodup) :
    ((overridden inherited own).map (·.name)).Nodup := by
  rw [names_overridden]
  have hadded : ((added inherited own).map (·.name)).Nodup :=
    (map_distinctBy_nodup (·.name) own).sublist (List.filter_sublist.map _)
  exact List.Nodup.append h hadded fun name hold hnew => (mem_names_added.1 hnew).2 hold

/-! ## One property after the other -/

/-- The property in the place of its namesakes. -/
def instead (p q : Property) : Property := if q.name = p.name then p else q

lemma map_instead_of_not_mem (h : p.name ∉ ps.map (·.name)) : ps.map (instead p) = ps := by
  refine (List.map_congr_left fun q hq => ?_).trans (List.map_id' ps)
  exact if_neg fun hname : q.name = p.name => h (hname ▸ List.mem_map_of_mem hq)

/-- Among properties of different names, a property takes the place of its namesake or is added. -/
lemma putBy_isNamesake (h : (ps.map (·.name)).Nodup) : putBy isNamesake p ps =
    if p.name ∈ ps.map (·.name) then ps.map (instead p) else ps ++ [p] := by
  induction ps with
  | nil => rfl
  | cons q ps ih =>
    rw [List.map_cons, List.nodup_cons] at h
    rw [putBy, List.map_cons]
    by_cases hq : q.name = p.name
    · have hrest : ps.map (instead p) = ps := map_instead_of_not_mem (hq ▸ h.1)
      rw [if_pos (isNamesake_iff.2 hq), if_pos (by simp [hq]), List.map_cons, hrest, instead,
        if_pos hq]
    · have hmem : p.name ∈ q.name :: ps.map (·.name) ↔ p.name ∈ ps.map (·.name) := by
        simp [Ne.symm hq]
      rw [if_neg (mt isNamesake_iff.1 hq), ih h.2]
      simp only [hmem]
      split
      · rw [List.map_cons, instead, if_neg hq]
      · rfl

lemma orOwn_concat (own : List Property) (p q : Property) :
    orOwn (own ++ [p]) q = instead p (orOwn own q) := by
  rw [instead, name_orOwn, orOwn, last?_concat]
  by_cases h : p.name = q.name
  · rw [if_pos h, if_pos h.symm]
    rfl
  · rw [if_neg h, if_neg (Ne.symm h)]
    rfl

lemma added_concat (inherited own : List Property) (p : Property) :
    added inherited (own ++ [p]) =
      if p.name ∈ inherited.map (·.name) ∨ p.name ∈ own.map (·.name) then added inherited own
      else added inherited own ++ [p] := by
  rw [added, added, distinctBy_concat]
  by_cases hown : p.name ∈ own.map (·.name)
  · rw [if_pos hown, if_pos (.inr hown)]
  · rw [if_neg hown, List.filter_append]
    by_cases hold : p.name ∈ inherited.map (·.name)
    · rw [if_pos (.inl hold)]
      simp [any_isNamesake_iff.2 hold]
    · rw [if_neg (not_or.2 ⟨hold, hown⟩)]
      have hnew : inherited.any (·.isNamesake p) = false := by
        rwa [← Bool.not_eq_true, any_isNamesake_iff]
      simp [hnew]

/-- Under each name there is the last own property, or else the inherited one. -/
lemma find?_overridden (inherited own : List Property) (name : String) :
    (overridden inherited own).find? (·.name == name) =
      (last? own name).or (inherited.find? (·.name == name)) := by
  have hmap (ps : List Property) : (ps.map (orOwn own)).find? (·.name == name) =
      (ps.find? (·.name == name)).map (orOwn own) := by
    rw [List.find?_map]
    congr 2
    exact funext fun p => congrArg (· == name) (name_orOwn own p)
  have hfound {ps : List Property} {p : Property} (h : ps.find? (·.name == name) = some p) :
      orOwn own p = (last? own name).getD p := by
    have hname : p.name = name := by simpa using List.find?_some h
    rw [orOwn, hname]
  rw [overridden, List.find?_append, hmap, hmap]
  cases hold : inherited.find? (·.name == name) with
  | some p =>
    rw [Option.map_some, Option.some_or, hfound hold]
    cases last? own name <;> rfl
  | none =>
    have hnew : name ∉ inherited.map (·.name) := by
      simpa [List.find?_eq_none] using hold
    rw [Option.map_none, Option.none_or, Option.or_none]
    cases hlast : last? own name with
    | none =>
      have hnone : (added inherited own).find? (·.name == name) = none := by
        rw [List.find?_eq_none]
        intro p hp hname
        have hmem : name ∈ (added inherited own).map (·.name) :=
          List.mem_map.2 ⟨p, hp, by simpa using hname⟩
        exact last?_eq_none_iff.1 hlast (mem_names_added.1 hmem).1
      rw [hnone]
      rfl
    | some r =>
      have hmem : name ∈ (added inherited own).map (·.name) :=
        mem_names_added.2 ⟨name_of_last? hlast ▸ List.mem_map_of_mem (mem_of_last? hlast), hnew⟩
      obtain ⟨p, hp, hname⟩ := List.mem_map.1 hmem
      have hsome : ((added inherited own).find? (·.name == name)).isSome := by
        rw [List.find?_isSome]
        exact ⟨p, hp, beq_iff_eq.2 hname⟩
      obtain ⟨q, hq⟩ := Option.isSome_iff_exists.1 hsome
      rw [hq, Option.map_some, hfound hq, hlast]
      rfl

/-- **Overriding one property after the other** puts own properties in the places of inherited ones
and adds those with new names.

**Proof sketch.** Induction on the own properties from the first to the last. The last one replaces
what stands under its name so far, which may be an earlier own property. -/
theorem overrideAll_eq (h : (inherited.map (·.name)).Nodup) :
    overrideAll inherited own = overridden inherited own := by
  induction own using List.reverseRecOn with
  | nil =>
    have hid : inherited.map (orOwn []) = inherited := List.map_id' inherited
    rw [overridden, hid]
    exact (List.append_nil _).symm
  | append_singleton own p ih =>
    have hstep : overrideAll inherited (own ++ [p]) =
        putBy isNamesake p (overrideAll inherited own) := List.foldl_append
    have hinstead : orOwn (own ++ [p]) = instead p ∘ orOwn own := funext (orOwn_concat own p)
    have hright : overridden inherited (own ++ [p]) = inherited.map (instead p ∘ orOwn own) ++
        (if p.name ∈ inherited.map (·.name) ∨ p.name ∈ own.map (·.name) then added inherited own
          else added inherited own ++ [p]).map (instead p ∘ orOwn own) := by
      rw [overridden, added_concat, hinstead]
    rw [hstep, ih, putBy_isNamesake (nodup_names_overridden h), hright]
    simp only [mem_names_overridden]
    split
    · rw [overridden, List.map_append, List.map_map, List.map_map]
    · rename_i hnew
      have hp : instead p (orOwn own p) = p := if_pos (name_orOwn own p)
      have hsame : (overridden inherited own).map (instead p) = overridden inherited own :=
        map_instead_of_not_mem fun h => hnew (mem_names_overridden.1 h)
      rw [overridden, List.map_append, List.map_map, List.map_map] at hsame
      rw [overridden, List.map_append, List.map_singleton, Function.comp_apply, hp,
        ← List.append_assoc, hsame]

/-- Overriding sees nothing of properties but their names. -/
lemma map_overridden {f : Property → Property} (hf : ∀ p, (f p).name = p.name)
    (inherited own : List Property) :
    (overridden inherited own).map f = overridden (inherited.map f) (own.map f) := by
  have hlast (name : String) : last? (own.map f) name = (last? own name).map f := by
    rw [last?, last?, ← List.map_reverse, List.find?_map]
    congr 2
    exact funext fun p => congrArg (· == name) (hf p)
  have horOwn (p : Property) : f (orOwn own p) = orOwn (own.map f) (f p) := by
    rw [orOwn, orOwn, hf, hlast]
    cases last? own p.name <;> rfl
  have hany (p : Property) :
      (inherited.map f).any (·.isNamesake (f p)) = inherited.any (·.isNamesake p) := by
    rw [List.any_map]
    congr 1
    exact funext fun q => by simp [isNamesake, hf]
  have hadded : added (inherited.map f) (own.map f) = (added inherited own).map f := by
    rw [added, added, distinctBy_map hf, List.filter_map]
    congr 2
    exact funext fun p => congrArg (!·) (hany p)
  rw [overridden, overridden, hadded, List.map_append, List.map_map, List.map_map, List.map_map,
    List.map_map]
  congr 1 <;> exact List.map_congr_left fun p _ => horOwn p

lemma mem_putBy (h : q ∈ putBy isNamesake p ps) : q = p ∨ q ∈ ps := by
  induction ps with
  | nil => exact .inl (List.mem_singleton.1 h)
  | cons p' ps ih =>
    rw [putBy] at h
    split at h <;> rcases List.mem_cons.1 h with rfl | h
    · exact .inl rfl
    · exact .inr (List.mem_cons_of_mem _ h)
    · exact .inr List.mem_cons_self
    · exact (ih h).imp id (List.mem_cons_of_mem _)

/-- Nothing comes in that is neither inherited nor own. -/
lemma mem_overrideAll (h : p ∈ overrideAll inherited own) : p ∈ inherited ∨ p ∈ own := by
  induction own generalizing inherited with
  | nil => exact .inl h
  | cons q own ih =>
    rcases ih h with h | h
    · rcases mem_putBy h with rfl | h
      · exact .inr List.mem_cons_self
      · exact .inl h
    · exact .inr (List.mem_cons_of_mem _ h)

lemma nodup_names_overrideAll (h : (inherited.map (·.name)).Nodup) :
    ((overrideAll inherited own).map (·.name)).Nodup := by
  rw [overrideAll_eq h]
  exact nodup_names_overridden h

end Property

end ApiLowering
