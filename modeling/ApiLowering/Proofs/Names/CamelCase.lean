import ApiLowering.Names
import Mathlib

/-!
# Camel case of ASCII texts

On letters, digits and underscores of ASCII, the tables of letter case are not consulted: camel case
takes the underscores away and changes single letters. The camel case of properties begins with no
capital, and changes nothing when it is made again.

## Main definitions

* `Text.IsIdentifier` — identifiers.
* `Text.IsCamel` — letters and digits as camel case leaves them.
* `Names.propertyCase` — the camel case of the names of properties.

## Main results

* `Text.toList_camelCase` — the parts of an identifier, each with a capital.
* `Names.isCamel_propertyCase`, `Names.propertyCase_of_isCamel` — camel case is reached and stays.
-/

namespace ApiLowering

namespace Text

/-! ## Characters -/

/-- Whether a character may stand in an identifier. -/
def isIdentifierPart (c : Char) : Bool := c.isAlphanum || c == '_'

/-- Whether a text begins with a letter. -/
def StartsWithLetter (s : String) : Prop := ∃ c ∈ s.toList.head?, isAlphabetic c = true

instance (s : String) : Decidable (StartsWithLetter s) :=
  match h : s.toList.head? with
  | none => isFalse fun ⟨_, hc, _⟩ => by simp [h] at hc
  | some c => decidable_of_iff (isAlphabetic c = true) (by simp [StartsWithLetter, h])

/-- An identifier: a letter or an underscore, then letters, digits and underscores. -/
def IsIdentifier (s : String) : Prop :=
  ∃ c cs, s.toList = c :: cs ∧ (c.isAlpha = true ∨ c = '_') ∧ ∀ d ∈ cs, isIdentifierPart d = true

variable {c : Char} {cs : List Char} {s : String}

lemma IsIdentifier.parts (h : IsIdentifier s) : ∀ c ∈ s.toList, isIdentifierPart c = true := by
  obtain ⟨first, rest, hs, hfirst, hrest⟩ := h
  rw [hs]
  refine List.forall_mem_cons.2 ⟨?_, hrest⟩
  rcases hfirst with hletter | rfl
  · simp [isIdentifierPart, Char.isAlphanum, hletter]
  · rfl

lemma toNat_lt_of_isAlphanum (h : c.isAlphanum = true) : c.toNat < 128 := by
  simp only [Char.isAlphanum, Char.isAlpha, Char.isUpper, Char.isLower, Char.isDigit,
    Bool.or_eq_true, Bool.and_eq_true, decide_eq_true_eq, UInt32.le_iff_toNat_le] at h
  change ((65 ≤ c.toNat ∧ c.toNat ≤ 90) ∨ (97 ≤ c.toNat ∧ c.toNat ≤ 122)) ∨
    (48 ≤ c.toNat ∧ c.toNat ≤ 57) at h
  omega

lemma uppercase_of_isAlphanum (h : c.isAlphanum = true) : uppercase c = [c.toUpper] := by
  rw [uppercase, if_pos (toNat_lt_of_isAlphanum h)]

lemma lowercase_of_isAlphanum (h : c.isAlphanum = true) : lowercase c = [c.toLower] := by
  rw [lowercase, if_pos (toNat_lt_of_isAlphanum h)]

lemma isUppercase_of_isAlphanum (h : c.isAlphanum = true) : isUppercase c = c.isUpper := by
  rw [isUppercase, if_pos (toNat_lt_of_isAlphanum h)]

lemma isLowercase_of_isAlphanum (h : c.isAlphanum = true) : isLowercase c = c.isLower := by
  rw [isLowercase, if_pos (toNat_lt_of_isAlphanum h)]

lemma isAlpha_eq_false_of_isDigit (h : c.isDigit = true) : c.isAlpha = false := by
  grind [Char.isDigit, Char.isUpper, Char.isAlpha, Char.isLower]

lemma isAlphanum_toUpper (h : c.isAlphanum = true) : c.toUpper.isAlphanum = true := by
  rcases Bool.or_eq_true_iff.1 h with halpha | hdigit
  · rw [Char.isAlphanum, Char.isAlpha_toUpper_eq_isAlpha, halpha, Bool.true_or]
  · have hnot : ¬ c.isLower = true := fun hlower => by
      have := isAlpha_eq_false_of_isDigit hdigit
      rw [Char.isAlpha, hlower, Bool.or_true] at this
      cases this
    rw [Char.toUpper_eq_of_not_isLower hnot, h]

lemma isAlphanum_toLower (h : c.isAlphanum = true) : c.toLower.isAlphanum = true := by
  rcases Bool.or_eq_true_iff.1 h with halpha | hdigit
  · rw [Char.isAlphanum, Char.isAlpha_toLower_eq_isAlpha, halpha, Bool.true_or]
  · have hnot : ¬ c.isUpper = true := fun hupper => by
      have := isAlpha_eq_false_of_isDigit hdigit
      rw [Char.isAlpha, hupper, Bool.true_or] at this
      cases this
    rw [Char.toLower_eq_of_not_isUpper hnot, h]

lemma isSeparator_of_isIdentifierPart (h : isIdentifierPart c = true) :
    isSeparator c = !c.isAlphanum := by
  cases halphanum : c.isAlphanum with
  | false =>
    rw [isIdentifierPart, halphanum, Bool.false_or] at h
    rw [isSeparator, h]
    rfl
  | true =>
    -- None of the separators is a letter or a digit.
    refine Bool.eq_false_iff.2 fun hseparator => ?_
    simp only [isSeparator, Bool.or_eq_true, beq_iff_eq] at hseparator
    rcases hseparator with ((rfl | rfl) | rfl) | rfl <;> revert halphanum <;> decide

/-! ## Camel case of ASCII texts -/

lemma splitWhere_of_forall {p : Char → Bool} (h : ∀ c ∈ cs, p c = false) :
    splitWhere p cs = [cs] := by
  induction cs with
  | nil => rfl
  | cons c cs ih =>
    rw [splitWhere, h c List.mem_cons_self, ih fun d hd => h d (List.mem_cons_of_mem _ hd)]
    rfl

/-- The pieces between separators hold the characters that are none, in order. -/
lemma flatten_splitWhere (p : Char → Bool) (cs : List Char) :
    (splitWhere p cs).flatten = cs.filter (!p ·) := by
  induction cs with
  | nil => rfl
  | cons c cs ih =>
    rw [splitWhere]
    cases hc : p c with
    | true => simpa [hc] using ih
    | false =>
      cases hparts : splitWhere p cs with
      | nil => exact absurd hparts (splitWhere_ne_nil p cs)
      | cons part parts =>
        rw [hparts] at ih
        simpa [hc] using ih

/-- The first character in upper case. -/
def capitalized : List Char → List Char
  | [] => []
  | c :: rest => c.toUpper :: rest

lemma toList_upperFirst (h : ∀ c ∈ cs, c.isAlphanum = true) :
    (upperFirst (String.ofList cs)).toList = capitalized cs := by
  rw [upperFirst, String.toList_ofList]
  cases cs with
  | nil => rfl
  | cons c rest =>
    change (String.ofList (uppercase c ++ rest)).toList = _
    rw [uppercase_of_isAlphanum (h c List.mem_cons_self), String.toList_ofList]
    rfl

lemma toList_lowerFirst {rest : List Char} (hs : s.toList = c :: rest)
    (h : c.isAlphanum = true) : (lowerFirst s).toList = c.toLower :: rest := by
  rw [lowerFirst, hs]
  change (String.ofList (lowercase c ++ rest)).toList = _
  rw [lowercase_of_isAlphanum h, String.toList_ofList]
  rfl

/-- The parts of an identifier hold letters and digits alone. -/
lemma isAlphanum_of_mem_splitWhere (h : ∀ c ∈ cs, isIdentifierPart c = true) {part : List Char}
    (hpart : part ∈ splitWhere isSeparator cs) (hc : c ∈ part) : c.isAlphanum = true := by
  have hmem : c ∈ cs.filter (!isSeparator ·) := by
    rw [← flatten_splitWhere]
    exact List.mem_flatten_of_mem hpart hc
  obtain ⟨hmem, hkept⟩ := List.mem_filter.1 hmem
  rwa [isSeparator_of_isIdentifierPart (h c hmem), Bool.not_not] at hkept

lemma toList_camelCase (h : ∀ c ∈ cs, isIdentifierPart c = true) :
    (camelCase (String.ofList cs)).toList = (splitWhere isSeparator cs).flatMap capitalized := by
  rw [camelCase, String.toList_ofList, String.toList_join, List.flatMap_map]
  refine List.flatMap_congr fun part hpart => ?_
  exact toList_upperFirst fun c hc => isAlphanum_of_mem_splitWhere h hpart hc

lemma isAlphanum_of_mem_capitalized (h : ∀ c ∈ cs, c.isAlphanum = true) :
    ∀ c ∈ capitalized cs, c.isAlphanum = true := by
  cases cs with
  | nil => exact fun c hc => nomatch hc
  | cons d rest =>
    intro c hc
    rcases List.mem_cons.1 hc with rfl | hc
    · exact isAlphanum_toUpper (h d List.mem_cons_self)
    · exact h c (List.mem_cons_of_mem _ hc)

/-- Camel case of an identifier holds letters and digits alone. -/
lemma isAlphanum_of_mem_camelCase (h : ∀ c ∈ cs, isIdentifierPart c = true) :
    ∀ c ∈ (camelCase (String.ofList cs)).toList, c.isAlphanum = true := by
  intro c hc
  rw [toList_camelCase h] at hc
  obtain ⟨part, hpart, hc⟩ := List.mem_flatMap.1 hc
  exact isAlphanum_of_mem_capitalized
    (fun d hd => isAlphanum_of_mem_splitWhere h hpart hd) c hc

/-- Camel case keeps something of an identifier that has a letter or a digit. -/
lemma camelCase_ne_nil (h : ∀ c ∈ cs, isIdentifierPart c = true) (hc : c ∈ cs)
    (hkept : c.isAlphanum = true) : (camelCase (String.ofList cs)).toList ≠ [] := by
  have hmem : c ∈ (splitWhere isSeparator cs).flatten := by
    rw [flatten_splitWhere, List.mem_filter, isSeparator_of_isIdentifierPart (h c hc), hkept]
    exact ⟨hc, rfl⟩
  obtain ⟨part, hpart, hc⟩ := List.mem_flatten.1 hmem
  intro hnil
  rw [toList_camelCase h] at hnil
  have hempty := List.flatMap_eq_nil_iff.1 hnil part hpart
  cases part with
  | nil => cases hc
  | cons d rest => cases hempty

/-- Letters and digits are one part. -/
lemma toList_camelCase_of_isAlphanum (h : ∀ c ∈ cs, c.isAlphanum = true) :
    (camelCase (String.ofList cs)).toList = capitalized cs := by
  have hparts : ∀ c ∈ cs, isIdentifierPart c = true := fun c hc => by
    rw [isIdentifierPart, h c hc, Bool.true_or]
  have hone : splitWhere isSeparator cs = [cs] := splitWhere_of_forall fun c hc => by
    rw [isSeparator_of_isIdentifierPart (hparts c hc), h c hc]
    rfl
  rw [toList_camelCase hparts, hone, List.flatMap_singleton]

/-! ## The form of camel case -/

/-- Letters and digits as camel case leaves them: no capital comes first, nor second after a small
letter. -/
structure IsCamel (cs : List Char) : Prop where
  alphanum : ∀ c ∈ cs, c.isAlphanum = true
  head : ∃ c rest, cs = c :: rest ∧ c.isUpper = false ∧
    (c.isLower = true → ∀ d ∈ rest.head?, d.isUpper = false)

lemma IsCamel.head_ne_mark (h : IsCamel cs) : ∀ c ∈ cs.head?, c ≠ '_' := by
  rintro c hc rfl
  have := h.alphanum _ (List.mem_of_mem_head? hc)
  revert this
  decide

end Text

namespace Names

open Text

variable {c : Char} {cs : List Char} {s : String}

/-- The camel case of the names of properties. -/
def propertyCase (s : String) : String := lowerSecond (lowerCamelCase s)

lemma lowerSecond_of_small {rest : List Char} (hs : s.toList = c :: rest)
    (h : c.isAlphanum = true) (hrest : ∀ d ∈ rest, d.isAlphanum = true)
    (hsmall : c.isLower = true → ∀ d ∈ rest.head?, d.isUpper = false) : lowerSecond s = s := by
  unfold lowerSecond
  rw [hs]
  cases rest with
  | nil => rfl
  | cons d rest =>
    refine if_neg fun hcapital => ?_
    obtain ⟨hlower, hupper⟩ := Bool.and_eq_true_iff.1 hcapital
    rw [isLowercase_of_isAlphanum h] at hlower
    rw [isUppercase_of_isAlphanum (hrest d List.mem_cons_self), hsmall hlower d rfl] at hupper
    cases hupper

/-- The second character is no capital after a small letter. -/
lemma isCamel_lowerSecond {rest : List Char} (hs : s.toList = c :: rest)
    (h : ∀ d ∈ c :: rest, d.isAlphanum = true) (hupper : c.isUpper = false) :
    IsCamel (lowerSecond s).toList := by
  have hc := h c List.mem_cons_self
  cases rest with
  | nil =>
    have hstays : lowerSecond s = s := by
      unfold lowerSecond
      rw [hs]
    rw [hstays, hs]
    exact ⟨h, c, [], rfl, hupper, fun _ d hd => nomatch hd⟩
  | cons d rest =>
    have hd := h d (List.mem_cons_of_mem _ List.mem_cons_self)
    have hsecond : (lowerSecond s).toList =
        if c.isLower && d.isUpper then c :: d.toLower :: rest else c :: d :: rest := by
      unfold lowerSecond
      rw [hs]
      change (if isLowercase c && isUppercase d then _ else s).toList = _
      rw [isLowercase_of_isAlphanum hc, isUppercase_of_isAlphanum hd,
        lowercase_of_isAlphanum hd]
      split
      · exact String.toList_ofList
      · exact hs
    rw [hsecond]
    split
    · refine ⟨?_, c, d.toLower :: rest, rfl, hupper, ?_⟩
      · simp only [List.forall_mem_cons] at h ⊢
        exact ⟨h.1, isAlphanum_toLower h.2.1, h.2.2⟩
      · rintro - _ ⟨⟩
        exact Char.isUpper_toLower_eq_false d
    · rename_i hcapital
      refine ⟨h, c, d :: rest, rfl, hupper, ?_⟩
      rintro hlower _ ⟨⟩
      rw [hlower, Bool.true_and] at hcapital
      exact Bool.eq_false_iff.2 hcapital

/-- An identifier with a letter or a digit has a camel case. -/
lemma isCamel_propertyCase (h : ∀ c ∈ cs, isIdentifierPart c = true) (hc : c ∈ cs)
    (hkept : c.isAlphanum = true) : IsCamel (propertyCase (String.ofList cs)).toList := by
  have halphanum := isAlphanum_of_mem_camelCase h
  obtain ⟨first, rest, hfirst⟩ := List.exists_cons_of_ne_nil (camelCase_ne_nil h hc hkept)
  rw [hfirst, List.forall_mem_cons] at halphanum
  refine isCamel_lowerSecond (toList_lowerFirst hfirst halphanum.1) ?_
    (Char.isUpper_toLower_eq_false first)
  exact List.forall_mem_cons.2 ⟨isAlphanum_toLower halphanum.1, halphanum.2⟩

/-- Camel case stays. -/
lemma propertyCase_of_isCamel (h : IsCamel cs) :
    propertyCase (String.ofList cs) = String.ofList cs := by
  obtain ⟨halphanum, c, rest, rfl, hupper, hsmall⟩ := h
  have hc := halphanum c List.mem_cons_self
  have hcamel := toList_camelCase_of_isAlphanum halphanum
  have hfirst : lowerCamelCase (String.ofList (c :: rest)) = String.ofList (c :: rest) := by
    rw [← String.toList_inj, String.toList_ofList, lowerCamelCase,
      toList_lowerFirst hcamel (isAlphanum_toUpper hc), Char.toLower_toUpper_eq_toLower,
      Char.toLower_eq_of_not_isUpper (Bool.eq_false_iff.1 hupper)]
  rw [propertyCase, hfirst]
  exact lowerSecond_of_small String.toList_ofList hc
    (fun d hd => halphanum d (List.mem_cons_of_mem _ hd)) hsmall

end Names

end ApiLowering
