import ApiLowering.Proofs.Tables
import ApiLowering.Run.ExtraAnnotations
import ApiLowering.Run.Session
import Mathlib.Data.List.Forall2
import Mathlib.Tactic.Lemma

/-!
# The steps of a run

A step of a run that succeeds is made of steps that succeed, one after the other.

A session only grows. The package of a type, once it is known, stays the same; so does the name of a
class, once it is chosen; and no warning is taken back. This holds of each of the few steps that
touch the session, and so of whatever is put together from them.

## Main definitions

* `Session.Before` — one session has all that the other one has.
* `Lowering.Grows` — a step adds to the session, if it succeeds.

## Main results

* `forall₂_of_mapM_eq_ok`, `exists_mem_of_mapM_eq_error` — what is answered for the items of a list.
* `Lowering.bind_eq_ok_iff`, `Lowering.lift_eq_ok_iff` — when a sequence, or a step that leaves the
  session alone, succeeds.
* `Lowering.forall₂_of_mapM` — what a step answers for the items of a list.
* `Lowering.foldlM_history` — what every step of a fold keeps holds at its end.
* `Lowering.forIn_invariant` — the same of sessions and loops.
* `Lowering.grows_bind`, `Lowering.grows_mapM`, `Lowering.grows_foldlM` — steps one after the other.
* `Setup.grows_importType`, `Setup.grows_className` — the steps that touch the session.
-/

namespace ApiLowering

/-! ## Steps without a session -/

section Sequences

variable {α β : Type}

section Except

variable {ε : Type} {f : α → Except ε β} {xs : List α}

/-- What is answered for the items of a list. -/
lemma forall₂_of_mapM_eq_ok {ys : List β} (h : xs.mapM f = .ok ys) :
    List.Forall₂ (fun x y => f x = .ok y) xs ys := by
  induction xs generalizing ys with
  | nil =>
    rw [List.mapM_nil] at h
    obtain rfl := Except.ok.inj h
    exact .nil
  | cons x xs ih =>
    rw [List.mapM_cons] at h
    cases hx : f x with
    | error e =>
      rw [hx] at h
      cases h
    | ok y =>
      cases hxs : xs.mapM f with
      | error e =>
        rw [hx, hxs] at h
        cases h
      | ok ys' =>
        rw [hx, hxs] at h
        obtain rfl := Except.ok.inj h
        exact .cons hx (ih hxs)

/-- An answer that is there is the answer. -/
lemma eq_ok_of_mem_toOption {x : Except ε α} {a : α} (h : a ∈ x.toOption) :
    x = .ok a := by
  cases x <;> simp_all [Except.toOption]

end Except

namespace Lowering

variable {s s' : Session}

/-! ## Steps of a run -/

/-- Two steps succeed, one after the other, exactly if both do. -/
@[simp] lemma bind_eq_ok_iff {x : Lowering α} {f : α → Lowering β} {b : β} :
    (x >>= f) s = .ok (b, s') ↔ ∃ a t, x s = .ok (a, t) ∧ f a t = .ok (b, s') := by
  change (x s >>= fun y => f y.1 y.2) = .ok (b, s') ↔ _
  cases hx : x s with
  | error e => simp [bind, Except.bind]
  | ok y =>
    constructor
    · exact fun h => ⟨y.1, y.2, rfl, h⟩
    · rintro ⟨a, t, hy, h⟩
      obtain rfl := Except.ok.inj hy
      exact h

/-- A step goes on after one that succeeds. -/
lemma bind_of_eq_ok {x : Lowering α} {f : α → Lowering β} {a : α} (h : x s = .ok (a, s')) :
    (x >>= f) s = f a s' := by
  change (x s >>= fun y => f y.1 y.2) = _
  rw [h]
  rfl

@[simp] lemma pure_eq_ok_iff {a b : α} :
    (pure a : Lowering α) s = .ok (b, s') ↔ a = b ∧ s = s' := by
  change Except.ok (a, s) = .ok (b, s') ↔ _
  rw [Except.ok.injEq, Prod.mk.injEq]

@[simp] lemma map_eq_ok_iff {f : α → β} {x : Lowering α} {b : β} :
    (f <$> x) s = .ok (b, s') ↔ ∃ a, x s = .ok (a, s') ∧ f a = b := by
  rw [map_eq_pure_bind, bind_eq_ok_iff]
  simp only [pure_eq_ok_iff]
  exact ⟨fun ⟨a, t, hx, hb, ht⟩ => ⟨a, ht ▸ hx, hb⟩, fun ⟨a, hx, hb⟩ => ⟨a, s', hx, hb, rfl⟩⟩

/-- A step without a session leaves it alone. -/
@[simp] lemma lift_eq_ok_iff {x : Except Fault α} {a : α} :
    (liftM x : Lowering α) s = .ok (a, s') ↔ x = .ok a ∧ s = s' := by
  cases x with
  | error e =>
    change Except.error e = .ok (a, s') ↔ _
    simp
  | ok b =>
    change Except.ok (b, s) = .ok (a, s') ↔ _
    simp

/-- What a step answers for the items of a list. -/
theorem forall₂_of_mapM {f : α → Lowering β} {xs : List α} {ys : List β}
    (h : xs.mapM f s = .ok (ys, s')) :
    List.Forall₂ (fun x y => ∃ t t', f x t = .ok (y, t')) xs ys := by
  induction xs generalizing s ys with
  | nil =>
    rw [List.mapM_nil, pure_eq_ok_iff] at h
    obtain ⟨rfl, -⟩ := h
    exact .nil
  | cons x xs ih =>
    rw [List.mapM_cons] at h
    simp only [bind_eq_ok_iff, pure_eq_ok_iff] at h
    obtain ⟨y, t, hy, ys', t', hys, rfl, rfl⟩ := h
    exact .cons ⟨s, t, hy⟩ (ih hys)

/-- A step whose answer is determined answers for a list item by item. -/
lemma eq_map_of_mapM {f : α → Lowering β} {g : α → β} {xs : List α} {ys : List β}
    (h : xs.mapM f s = .ok (ys, s')) (hg : ∀ x y t t', f x t = .ok (y, t') → y = g x) :
    ys = xs.map g := by
  have hall : List.Forall₂ Eq ys (xs.map g) := by
    refine List.forall₂_map_right_iff.2 ((forall₂_of_mapM h).flip.imp ?_)
    rintro y x ⟨t, t', hx⟩
    exact hg x y t t' hx
  rwa [List.forall₂_eq_eq_eq] at hall

/-- What every step of a fold keeps, of what it has gone through, of the result and of the session,
holds at its end. -/
theorem foldlM_history {P : List α → β → Session → Prop} {f : β → α → Lowering β} {xs : List α}
    {b b' : β} (h : xs.foldlM f b s = .ok (b', s')) (hstart : P [] b s)
    (hstep : ∀ done, ∀ x ∈ xs, ∀ b t b' t', P done b t → f b x t = .ok (b', t') →
      P (done ++ [x]) b' t') : P xs b' s' := by
  have hrest : ∀ done rest b s, rest ⊆ xs → P done b s → rest.foldlM f b s = .ok (b', s') →
      P (done ++ rest) b' s' := by
    intro done rest
    induction rest generalizing done with
    | nil =>
      intro b s _ hb h
      rw [List.foldlM_nil, Lowering.pure_eq_ok_iff] at h
      obtain ⟨rfl, rfl⟩ := h
      rwa [List.append_nil]
    | cons x rest ih =>
      intro b s hsub hb h
      rw [List.foldlM_cons, Lowering.bind_eq_ok_iff] at h
      obtain ⟨c, t, hc, h⟩ := h
      have hx : x ∈ xs := hsub List.mem_cons_self
      have hmore := ih (done ++ [x]) c t (List.subset_of_cons_subset hsub)
        (hstep done x hx b s c t hb hc) h
      rwa [List.append_assoc, List.singleton_append] at hmore
  exact hrest [] xs b s (List.Subset.refl xs) hstart h

/-- The same of what it has gone through and of the result. -/
theorem foldlM_induction {P : List α → β → Prop} {f : β → α → Lowering β} {xs : List α} {b b' : β}
    (h : xs.foldlM f b s = .ok (b', s')) (hstart : P [] b)
    (hstep : ∀ done, ∀ x ∈ xs, ∀ b t b' t', P done b → f b x t = .ok (b', t') →
      P (done ++ [x]) b') : P xs b' :=
  foldlM_history (P := fun done b _ => P done b) h hstart hstep

/-- A loop comes to its end if every turn does. -/
lemma exists_forIn_eq_ok {f : α → Lowering Unit} (hf : ∀ x t, ∃ t', f x t = .ok ((), t'))
    (xs : List α) (s : Session) :
    ∃ s', (forIn xs PUnit.unit fun x _ => do f x; pure (ForInStep.yield PUnit.unit)) s =
      .ok (PUnit.unit, s') := by
  induction xs generalizing s with
  | nil => exact ⟨s, rfl⟩
  | cons x xs ih =>
    obtain ⟨t, hturn⟩ := hf x s
    obtain ⟨s', hrest⟩ := ih t
    refine ⟨s', ?_⟩
    rw [List.forIn_cons]
    exact bind_eq_ok_iff.2 ⟨.yield PUnit.unit, t, bind_eq_ok_iff.2 ⟨(), t, hturn, rfl⟩, hrest⟩

/-- What every turn of a loop keeps of the session. -/
lemma forIn_invariant {P : Session → Prop} {f : α → β → Lowering (ForInStep β)} {xs : List α}
    {b b' : β} (h : forIn xs b f s = .ok (b', s')) (hstart : P s)
    (hstep : ∀ x b t step t', P t → f x b t = .ok (step, t') → P t') : P s' := by
  induction xs generalizing b s with
  | nil =>
    rw [List.forIn_nil] at h
    obtain ⟨-, rfl⟩ := pure_eq_ok_iff.1 h
    exact hstart
  | cons x xs ih =>
    rw [List.forIn_cons] at h
    obtain ⟨step, t, hturn, h⟩ := bind_eq_ok_iff.1 h
    have ht := hstep x b s step t hstart hturn
    cases step with
    | done c =>
      obtain ⟨-, rfl⟩ := pure_eq_ok_iff.1 h
      exact ht
    | yield c => exact ih h ht

end Lowering

end Sequences

/-! ## Sessions that grow -/

/-- A session has all that another one has: the packages, the names of classes, and the warnings. -/
structure Session.Before (s s' : Session) : Prop where
  importMapping : ∀ name qualified, s.importMapping.find? name = some qualified →
    s'.importMapping.find? name = some qualified
  classNames : ∀ key name, s.classNames.find? key = some name →
    s'.classNames.find? key = some name
  warned : s.warned <:+ s'.warned
  warningLog : s.warningLog <:+ s'.warningLog

namespace Session

variable {s s' s'' : Session}

lemma Before.refl (s : Session) : s.Before s :=
  ⟨fun _ _ h => h, fun _ _ h => h, List.suffix_refl _, List.suffix_refl _⟩

lemma Before.trans (h : s.Before s') (h' : s'.Before s'') : s.Before s'' where
  importMapping name qualified hs := h'.importMapping _ _ (h.importMapping name qualified hs)
  classNames key name hs := h'.classNames _ _ (h.classNames key name hs)
  warned := h.warned.trans h'.warned
  warningLog := h.warningLog.trans h'.warningLog

lemma before_warn (s : Session) (message : String) : s.Before (s.warn message) :=
  ⟨fun _ _ h => h, fun _ _ h => h, List.suffix_refl _, List.suffix_cons _ _⟩

lemma before_warnOnce (s : Session) (subject message : String) :
    s.Before (s.warnOnce subject message) := by
  rw [warnOnce]
  split
  · exact .refl s
  · exact ⟨fun _ _ h => h, fun _ _ h => h, List.suffix_cons _ _, List.suffix_cons _ _⟩

end Session

/-- What is found in a table is found after an insertion under a new key. -/
lemma Table.find?_insert_of_find? {α : Type} {t : Table α} {key other : String} {v w : α}
    (hnew : t.find? key = none) (h : t.find? other = some v) :
    (t.insert key w).find? other = some v := by
  have hne : other ≠ key := by
    rintro rfl
    rw [hnew] at h
    cases h
  rwa [find?_insert_of_ne _ _ hne]

lemma Table.find?_insertNew_of_find? {α : Type} {t : Table α} {key other : String} {v w : α}
    (h : t.find? other = some v) : (t.insertNew key w).find? other = some v := by
  rw [insertNew]
  split
  · exact h
  · rename_i hnew
    rw [contains, Option.not_isSome_iff_eq_none] at hnew
    exact find?_insert_of_find? hnew h

/-! ## Steps that add to the session -/

namespace Lowering

variable {α β : Type}

/-- A step adds to the session, if it succeeds. -/
def Grows (x : Lowering α) : Prop := ∀ s a s', x s = .ok (a, s') → s.Before s'

@[simp] lemma grows_pure (a : α) : Grows (pure a) := by
  intro s b s' h
  obtain ⟨-, rfl⟩ := pure_eq_ok_iff.1 h
  exact .refl s

@[simp] lemma grows_lift (x : Except Fault α) : Grows (liftM x) := by
  intro s b s' h
  obtain ⟨-, rfl⟩ := lift_eq_ok_iff.1 h
  exact .refl s

@[simp] lemma grows_throw (f : Fault) : Grows (throw f : Lowering α) := by
  intro s b s' h
  cases h

@[simp] lemma grows_get : Grows (get : Lowering Session) := by
  intro s b s' h
  obtain ⟨-, rfl⟩ := Prod.mk.inj (Except.ok.inj h)
  exact .refl s

lemma grows_modify {f : Session → Session} (hf : ∀ s : Session, s.Before (f s)) :
    Grows (modify f : Lowering Unit) := by
  intro s b s' h
  obtain ⟨-, rfl⟩ := Prod.mk.inj (Except.ok.inj h)
  exact hf s

/-- Steps one after the other add to the session. -/
@[simp] lemma grows_bind {x : Lowering α} {f : α → Lowering β} (hx : Grows x)
    (hf : ∀ a, Grows (f a)) : Grows (x >>= f) := by
  intro s b s' h
  obtain ⟨a, t, ha, hb⟩ := bind_eq_ok_iff.1 h
  exact (hx s a t ha).trans (hf a t b s' hb)

@[simp] lemma grows_map {f : α → β} {x : Lowering α} (hx : Grows x) : Grows (f <$> x) := by
  intro s b s' h
  obtain ⟨a, ha, -⟩ := map_eq_ok_iff.1 h
  exact hx s a s' ha

@[simp] lemma grows_ite {c : Prop} [Decidable c] {x y : Lowering α} (hx : Grows x)
    (hy : Grows y) : Grows (if c then x else y) := by
  split
  · exact hx
  · exact hy

@[simp] lemma grows_mapM {f : α → Lowering β} (hf : ∀ x, Grows (f x)) (xs : List α) :
    Grows (xs.mapM f) := by
  induction xs with
  | nil => simp
  | cons x xs ih => simp [List.mapM_cons, hf, ih]

@[simp] lemma grows_foldlM {f : β → α → Lowering β} (hf : ∀ b x, Grows (f b x)) (xs : List α)
    (b : β) : Grows (xs.foldlM f b) := by
  induction xs generalizing b with
  | nil => simp
  | cons x xs ih => simp [List.foldlM_cons, hf, ih]

@[simp] lemma grows_filterMapM {f : α → Lowering (Option β)} (hf : ∀ x, Grows (f x))
    (xs : List α) : Grows (xs.filterMapM f) := by
  induction xs with
  | nil => simp
  | cons x xs ih =>
    rw [List.filterMapM_cons]
    refine grows_bind (hf x) fun found => ?_
    cases found <;> simp [ih]

@[simp] lemma grows_forM {f : α → Lowering PUnit} (hf : ∀ x, Grows (f x)) (xs : List α) :
    Grows (xs.forM f) := by
  induction xs with
  | nil => exact grows_pure _
  | cons x xs ih => exact grows_bind (hf x) fun _ => ih

/-! ## Steps that touch the session -/

@[simp] lemma grows_warn (message : String) : Grows (warn message) :=
  grows_modify fun s => s.before_warn message

@[simp] lemma grows_warnOnce (subject message : String) : Grows (warnOnce subject message) :=
  grows_modify fun s => s.before_warnOnce subject message

@[simp] lemma grows_takeSerial : Grows takeSerial :=
  grows_bind grows_get fun _ => grows_bind
    (grows_modify fun _ => ⟨fun _ _ h => h, fun _ _ h => h, List.suffix_refl _, List.suffix_refl _⟩)
    fun _ => grows_pure _

@[simp] lemma grows_recordConstructor (classname : String) (args : List String) :
    Grows (recordConstructor classname args) :=
  grows_modify fun _ =>
    ⟨fun _ _ h => h, fun _ _ h => h, List.suffix_refl _, List.suffix_refl _⟩

@[simp] lemma grows_takeAnnotations (key : String) (extensions : Table Json) :
    Grows (takeAnnotations key extensions) := by
  rw [takeAnnotations]
  split
  · simp
  · dsimp only
    split <;> simp

end Lowering

open Lowering

namespace Setup

variable (setup : Setup)

/-- The package of a type is kept, unless one is known already. -/
@[simp] lemma grows_importType (typeName : String) (imports : NameSet) :
    Grows (setup.importType typeName imports) := by
  rw [importType]
  split
  · refine grows_bind (grows_modify fun s => ?_) fun _ => grows_pure _
    exact ⟨fun _ _ h => Table.find?_insertNew_of_find? h, fun _ _ h => h, List.suffix_refl _,
      List.suffix_refl _⟩
  · simp

/-- A type can always be imported, and goes by its simple name. -/
lemma exists_importType_eq_ok (typeName : String) (imports : NameSet) (s : Session) :
    ∃ imports' s', setup.importType typeName imports s =
      .ok ((TypeName.simple typeName, imports'), s') := by
  rw [importType, TypeName.simple]
  cases TypeName.split? typeName with
  | some parts => exact ⟨_, _, rfl⟩
  | none =>
    cases setup.needsImport typeName with
    | true => exact ⟨_, _, rfl⟩
    | false => exact ⟨_, _, rfl⟩

lemma eq_simple_of_importType {setup : Setup} {typeName simple : String}
    {imports imports' : NameSet} {s s' : Session}
    (h : setup.importType typeName imports s = .ok ((simple, imports'), s')) :
    simple = TypeName.simple typeName := by
  obtain ⟨_, _, himport⟩ := setup.exists_importType_eq_ok typeName imports s
  rw [himport] at h
  cases h
  rfl

/-- The name of a class is chosen once. -/
@[simp] lemma grows_className (key : String) : Grows (setup.className key) := by
  intro s name s' h
  rw [className] at h
  obtain ⟨_, _, hget, h⟩ := bind_eq_ok_iff.1 h
  obtain ⟨rfl, rfl⟩ := Prod.mk.inj (Except.ok.inj hget)
  cases hfind : s.classNames.find? key with
  | some known =>
    simp only [hfind] at h
    exact grows_pure _ _ _ _ h
  | none =>
    simp only [hfind] at h
    obtain ⟨⟨chosen, warning⟩, t, hchosen, h⟩ := bind_eq_ok_iff.1 h
    obtain ⟨-, rfl⟩ := lift_eq_ok_iff.1 hchosen
    have hinsert (t : Session) (ht : t.classNames = s.classNames) :
        t.Before { t with classNames := t.classNames.insert key chosen } :=
      ⟨fun _ _ h => h, fun _ _ h => Table.find?_insert_of_find? (ht ▸ hfind) h,
        List.suffix_refl _, List.suffix_refl _⟩
    cases warning with
    | none =>
      obtain ⟨_, t, hmodify, h⟩ := bind_eq_ok_iff.1 h
      obtain ⟨-, rfl⟩ := Prod.mk.inj (Except.ok.inj hmodify)
      obtain ⟨-, rfl⟩ := pure_eq_ok_iff.1 h
      exact hinsert s rfl
    | some message =>
      obtain ⟨_, t, hwarn, h⟩ := bind_eq_ok_iff.1 h
      obtain ⟨_, u, hmodify, h⟩ := bind_eq_ok_iff.1 h
      obtain ⟨-, rfl⟩ := Prod.mk.inj (Except.ok.inj hwarn)
      obtain ⟨-, rfl⟩ := Prod.mk.inj (Except.ok.inj hmodify)
      obtain ⟨-, rfl⟩ := pure_eq_ok_iff.1 h
      exact (s.before_warn message).trans (hinsert (s.warn message) rfl)

end Setup

end ApiLowering
