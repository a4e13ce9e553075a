import ApiLowering.Dialect.Kotlin
import ApiLowering.Proofs.Decimal.Reading
import ApiLowering.Proofs.Json.Literals

/-!
# Literals of double-precision numbers

A literal has a sign or none, digits, a fraction or none and an exponent or none, and then the
suffix of the language or none. The text of every number has this form. With the suffix of the one
language it is a literal for the number. The other language puts a fraction behind a text without
one, which is no literal if the text has an exponent.

## Main definitions

* `DoubleLiteral` — what a literal says.
* `Language.readDouble?` — reads a literal.
* `DoubleLiteral.Denotes` — a literal stands for a number.
* `Number.layout` — a text by its parts.

## Main results

* `Language.readDouble?_layout` — texts by their parts are literals.
* `Number.exists_isLayout_text` — the text of a number by its parts.
* `Number.readDouble?_numberLiteral_iff` — which literals stand for their numbers.
-/

namespace ApiLowering

/-! ## Reading literals -/

/-- What a literal says: `± digits * 10 ^ power`. -/
structure DoubleLiteral where
  negative : Bool
  digits : Nat
  power : Int

/-- What follows a double-precision number to tell it from the other numbers. -/
def Language.doubleSuffix : Language → List Char
  | .java => ['D']
  | .kotlin => []

/-- Reads a sign or none. -/
def Number.readSign : List Char → Bool × List Char
  | '-' :: rest => (true, rest)
  | rest => (false, rest)

/-- Reads the digits of a fraction, or none without a point. -/
def Number.readFraction? : List Char → Option (List Char × List Char)
  | '.' :: rest =>
    let (fs, rest) := takeDigits rest
    if fs.isEmpty then none else some (fs, rest)
  | rest => some ([], rest)

/-- Reads a literal. -/
def Language.readDouble? (l : Language) (cs : List Char) : Option DoubleLiteral := do
  let (negative, cs) := Number.readSign cs
  let (ds, rest) := Number.takeDigits cs
  if ds.isEmpty then none
  else
    let (fs, rest) ← Number.readFraction? rest
    let (e, rest) ← Number.readExponent? rest
    if rest = [] ∨ rest = l.doubleSuffix then
      some ⟨negative, Number.digitsValue (ds ++ fs), e - fs.length⟩
    else none

namespace DoubleLiteral

/-- The value of a literal. -/
def value (d : DoubleLiteral) : ℚ := (if d.negative then -1 else 1) * (d.digits * 10 ^ d.power)

/-- A literal stands for a number: a whole number is its value, and a double-precision number is the
one that is nearest to it. -/
def Denotes (d : DoubleLiteral) : Number → Prop
  | .whole n => d.value = n
  | .double x => Binary64.ofDecimal? d.negative d.digits d.power = some x

end DoubleLiteral

namespace Number

/-! ## Texts by their parts -/

/-- The text of an exponent, if there is one. -/
def exponentText : Option Int → List Char
  | none => []
  | some e => 'e' :: (if 0 ≤ e then '+' else '-') :: (toString e.natAbs).toList

/-- The text of a fraction, if it has digits. -/
def fractionText (fs : List Char) : List Char := if fs = [] then [] else '.' :: fs

/-- A text by its parts. -/
def layout (negative : Bool) (ds fs : List Char) (e : Option Int) : List Char :=
  (if negative then ['-'] else []) ++ ds ++ fractionText fs ++ exponentText e

/-- Digits alone. -/
def AllDigits (ds : List Char) : Prop := ∀ c ∈ ds, c.isDigit = true

/-- A text does not go on with a digit. -/
def EndsDigits (rest : List Char) : Prop := ∀ c ∈ rest.head?, c.isDigit = false

variable {ds fs rest : List Char}

lemma takeDigits_append (hds : AllDigits ds) (hrest : EndsDigits rest) :
    takeDigits (ds ++ rest) = (ds, rest) := by
  have hnone : rest.takeWhile Char.isDigit = [] ∧ rest.dropWhile Char.isDigit = rest := by
    cases rest with
    | nil => exact ⟨rfl, rfl⟩
    | cons c rest =>
      have hc : ¬c.isDigit = true := by simp [hrest c rfl]
      exact ⟨List.takeWhile_cons_of_neg hc, List.dropWhile_cons_of_neg hc⟩
  rw [takeDigits, List.takeWhile_append_of_pos hds, List.dropWhile_append_of_pos hds, hnone.1,
    hnone.2, List.append_nil]

lemma readSign_append (negative : Bool) (hds : AllDigits ds) (hne : ds ≠ []) :
    readSign ((if negative then ['-'] else []) ++ (ds ++ rest)) = (negative, ds ++ rest) := by
  cases negative with
  | true => rfl
  | false =>
    obtain ⟨d, ds, rfl⟩ := List.exists_cons_of_ne_nil hne
    have hd : d ≠ '-' := by
      rintro rfl
      exact absurd (hds '-' List.mem_cons_self) (by decide)
    change readSign (d :: (ds ++ rest)) = _
    rw [readSign]
    · rfl
    · rintro rest' heq
      exact hd (List.cons.inj heq).1

lemma readFraction?_append (hfs : AllDigits fs) (hrest : EndsDigits rest)
    (hpoint : rest.head? ≠ some '.') :
    readFraction? (fractionText fs ++ rest) = some (fs, rest) := by
  rw [fractionText]
  split
  · rename_i hnil
    subst hnil
    rw [List.nil_append, readFraction?]
    rintro rest' rfl
    exact hpoint rfl
  · rename_i hne
    rw [List.cons_append, readFraction?, takeDigits_append hfs hrest]
    simp [hne]

lemma readExponent?_append (e : Option Int) (hrest : EndsDigits rest)
    (he : e = none → rest.head? ≠ some 'e' ∧ rest.head? ≠ some 'E') :
    readExponent? (exponentText e ++ rest) = some (e.getD 0, rest) := by
  cases e with
  | none =>
    cases rest with
    | nil => rfl
    | cons c rest =>
      have hc : ¬(c = 'e' ∨ c = 'E') := by simpa using he rfl
      exact if_neg hc
  | some e =>
    have hdigits : AllDigits (toString e.natAbs).toList := fun c => isDigit_of_mem_toString
    have hne := toString_ne_nil e.natAbs
    have hvalue := digitsValue_toString e.natAbs
    rw [exponentText]
    generalize (toString e.natAbs).toList = ks at hdigits hne hvalue ⊢
    by_cases hsign : 0 ≤ e
    · have habs : ((e.natAbs : Nat) : Int) = e := Int.natAbs_of_nonneg hsign
      rw [if_pos hsign, List.cons_append, List.cons_append, readExponent?]
      simp [takeDigits_append hdigits hrest, hne, hvalue, habs]
    · have habs : -((e.natAbs : Nat) : Int) = e := by omega
      rw [if_neg hsign, List.cons_append, List.cons_append, readExponent?]
      simpa [takeDigits_append hdigits hrest, hne, hvalue] using habs

end Number

namespace Language

open Number

variable {l : Language} {ds fs rest : List Char}

/-- A text by its parts is a literal, and nothing may follow but the suffix. -/
theorem readDouble?_layout (l : Language) (negative : Bool) (hds : AllDigits ds) (hne : ds ≠ [])
    (hfs : AllDigits fs) (e : Option Int) (hrest : EndsDigits rest)
    (hmarks : e = none → rest.head? ≠ some '.' ∧ rest.head? ≠ some 'e' ∧ rest.head? ≠ some 'E') :
    l.readDouble? (layout negative ds fs e ++ rest) =
      if rest = [] ∨ rest = l.doubleSuffix then
        some ⟨negative, digitsValue (ds ++ fs), e.getD 0 - fs.length⟩
      else none := by
  have hexp : EndsDigits (exponentText e ++ rest) ∧ (exponentText e ++ rest).head? ≠ some '.' := by
    cases e with
    | none => exact ⟨hrest, (hmarks rfl).1⟩
    | some e => exact ⟨fun c hc => by obtain rfl := Option.some.inj hc; rfl, by simp [exponentText]⟩
  have hfraction : EndsDigits (fractionText fs ++ (exponentText e ++ rest)) := by
    rw [fractionText]
    split
    · exact hexp.1
    · exact fun c hc => by obtain rfl := Option.some.inj hc; rfl
  rw [readDouble?, layout, List.append_assoc, List.append_assoc, List.append_assoc,
    readSign_append negative hds hne]
  simp only [takeDigits_append hds hfraction]
  rw [if_neg (by simpa using hne), readFraction?_append hfs hexp.1 hexp.2]
  simp only [Option.bind_eq_bind, Option.bind_some,
    readExponent?_append e hrest fun he => (hmarks he).2]

end Language

/-! ## Texts of numbers -/

namespace Number

variable {ds : List Char}

lemma digitsValue_append (ds es : List Char) :
    digitsValue (ds ++ es) = digitsValue ds * 10 ^ es.length + digitsValue es := by
  have hfrom (m : Nat) : es.foldl (fun n d => 10 * n + digitValue d) m =
      m * 10 ^ es.length + digitsValue es := by
    induction es generalizing m with
    | nil => simp [digitsValue]
    | cons e es ih =>
      rw [digitsValue, List.foldl_cons, List.foldl_cons, ih, ih (10 * 0 + digitValue e),
        List.length_cons]
      ring
  rw [digitsValue, List.foldl_append]
  exact hfrom _

lemma digitsValue_zeros (k : Nat) : digitsValue (List.replicate k '0') = 0 := by
  induction k with
  | zero => rfl
  | succ k ih =>
    rw [List.replicate_succ, ← List.singleton_append, digitsValue_append, ih, Nat.add_zero]
    exact Nat.zero_mul _

lemma allDigits_toString (n : Nat) : AllDigits (toString n).toList := fun _ =>
  isDigit_of_mem_toString

lemma allDigits_zeros (k : Nat) : AllDigits (List.replicate k '0') := fun c hc => by
  rw [List.eq_of_mem_replicate hc]
  rfl

lemma AllDigits.append {es : List Char} (hds : AllDigits ds) (hes : AllDigits es) :
    AllDigits (ds ++ es) := List.forall_mem_append.2 ⟨hds, hes⟩

/-- A text by its parts is that of `± digits * 10 ^ power`. -/
structure IsLayout (text : List Char) (negative : Bool) (digits : Nat) (power : Int)
    (ds fs : List Char) (e : Option Int) : Prop where
  text : text = layout negative ds fs e
  whole : AllDigits ds
  fraction : AllDigits fs
  ne_nil : ds ≠ []
  value : (digitsValue (ds ++ fs) : ℚ) * 10 ^ (e.getD 0 - fs.length) = digits * 10 ^ power

lemma toList_signText (x : Binary64) :
    x.signText.toList = if x.negative then ['-'] else [] := by
  rw [Binary64.signText]
  split <;> rfl

/-- Digits with a point have a fraction. -/
lemma isLayout_positional (x : Binary64) (digits : Nat) (power : Int) :
    ∃ ds fs, fs ≠ [] ∧ IsLayout (x.signText ++ Binary64.positional digits power ".0").toList
      x.negative digits power ds fs none := by
  have htext := digitsValue_toString digits
  have hall := allDigits_toString digits
  have hne := toString_ne_nil digits
  rw [String.toList_append, toList_signText, Binary64.positional]
  simp only
  generalize (toString digits).toList = ks at htext hall hne ⊢
  by_cases hpower : 0 ≤ power
  · rw [if_pos hpower]
    obtain ⟨k, rfl⟩ := Int.eq_ofNat_of_zero_le hpower
    refine ⟨ks ++ List.replicate k '0', ['0'], by simp, ?_, hall.append (allDigits_zeros k),
      allDigits_zeros 1, by simp [hne], ?_⟩
    · simp [layout, fractionText, exponentText]
    · rw [digitsValue_append, digitsValue_append, digitsValue_zeros, htext, List.length_replicate]
      have hzero : digitsValue ['0'] = 0 := rfl
      simp only [hzero, add_zero, List.length_singleton, pow_one, Option.getD_none, zero_sub,
        Nat.cast_mul, Nat.cast_pow, Nat.cast_ofNat, Nat.cast_one, zpow_neg, zpow_one, zpow_natCast]
      rw [mul_assoc, mul_inv_cancel₀ (by norm_num), mul_one]
  · rw [if_neg hpower]
    obtain ⟨k, hk⟩ := Int.eq_ofNat_of_zero_le (Int.neg_nonneg_of_nonpos (not_le.1 hpower).le)
    have hpos : 0 < k := by omega
    rw [hk, Int.toNat_natCast]
    generalize hpadded : List.replicate (k + 1 - ks.length) '0' ++ ks = padded
    have hlength : k + 1 ≤ padded.length := by
      rw [← hpadded, List.length_append, List.length_replicate]
      omega
    have hdigits : AllDigits padded := hpadded ▸ (allDigits_zeros _).append hall
    have hvalue : digitsValue padded = digits := by
      rw [← hpadded, digitsValue_append, digitsValue_zeros, htext, Nat.zero_mul, Nat.zero_add]
    have hwhole : (padded.take (padded.length - k)).length = padded.length - k :=
      List.length_take_of_le (Nat.sub_le _ _)
    have hfraction : (padded.drop (padded.length - k)).length = k := by
      rw [List.length_drop]
      omega
    rw [← List.take_append_drop (padded.length - k) padded] at hvalue hdigits
    generalize padded.take (padded.length - k) = ds at hwhole hvalue hdigits ⊢
    generalize padded.drop (padded.length - k) = fs at hfraction hvalue hdigits ⊢
    have hsome : fs ≠ [] := List.ne_nil_of_length_pos (by omega)
    refine ⟨ds, fs, hsome, ?_, ?_, ?_, List.ne_nil_of_length_pos (by omega), ?_⟩
    · simp [layout, fractionText, exponentText, hsome]
    · exact fun c hc => hdigits c (List.mem_append_left fs hc)
    · exact fun c hc => hdigits c (List.mem_append_right ds hc)
    · rw [hvalue, hfraction, Option.getD_none, zero_sub, ← hk, neg_neg]

/-- A whole number has its digits alone. -/
lemma isLayout_whole (n : Int) :
    IsLayout (toString n).toList (n < 0) n.natAbs 0 (toString n.natAbs).toList [] none := by
  refine ⟨?_, allDigits_toString _, fun c hc => (List.not_mem_nil hc).elim, toString_ne_nil _, ?_⟩
  · rw [layout, fractionText, if_pos rfl, exponentText, List.append_nil, List.append_nil]
    cases n with
    | ofNat n => rw [if_neg (by simp)]; rfl
    | negSucc n => rw [if_pos (by simp)]; exact String.toList_append
  · rw [List.append_nil, digitsValue_toString]
    simp

/-- With an exponent one digit stands before the point, and the point only before other digits. -/
lemma isLayout_scientificText (x : Binary64) :
    (∃ ds fs, fs ≠ [] ∧
      IsLayout x.scientificText.toList x.negative x.shortest.1 x.shortest.2 ds fs none) ∨
    ∃ ds fs e,
      IsLayout x.scientificText.toList x.negative x.shortest.1 x.shortest.2 ds fs (some e) := by
  have hall := allDigits_toString x.shortest.1
  have hvalue := digitsValue_toString x.shortest.1
  have hne := toString_ne_nil x.shortest.1
  rw [Binary64.scientificText]
  simp only
  split
  · exact .inl (isLayout_positional x x.shortest.1 x.shortest.2)
  · generalize (toString x.shortest.1).toList = ks at hall hvalue hne ⊢
    refine .inr ⟨ks.take 1, ks.drop 1, x.shortest.2 + ks.length - 1, ?_, ?_, ?_, ?_, ?_⟩
    · have htail : (if (ks.drop 1).isEmpty then "" else ".").toList ++ ks.drop 1 =
          fractionText (ks.drop 1) := by
        cases ks.drop 1 with
        | nil => rfl
        | cons c cs =>
          rw [fractionText, if_neg (List.cons_ne_nil c cs), if_neg (by simp)]
          rfl
      have hmark : "e".toList ++ (if 0 ≤ x.shortest.2 + ks.length - 1 then "+" else "-").toList ++
          (toString (x.shortest.2 + ks.length - 1).natAbs).toList =
            exponentText (some (x.shortest.2 + ks.length - 1)) := by
        rw [exponentText]
        split <;> rfl
      simp only [String.toList_append, String.toList_ofList, toList_signText, List.append_assoc,
        layout, ← htail, ← hmark]
    · exact fun c hc => hall c (List.mem_of_mem_take hc)
    · exact fun c hc => hall c (List.mem_of_mem_drop hc)
    · exact List.ne_nil_of_length_pos (by
        rw [List.length_take]
        have := List.length_pos_of_ne_nil hne
        omega)
    · have hpower : x.shortest.2 + ks.length - 1 - (ks.drop 1).length = x.shortest.2 := by
        have := List.length_pos_of_ne_nil hne
        rw [List.length_drop]
        omega
      rw [List.take_append_drop, hvalue, Option.getD_some, hpower]

/-- The digits of a number: all of a whole number, and the shortest of the others. -/
def decimal : Number → DoubleLiteral
  | whole n => ⟨n < 0, n.natAbs, 0⟩
  | double x => ⟨x.negative, x.shortest.1, x.shortest.2⟩

/-- **The text of a number by its parts.** -/
theorem exists_isLayout_text (n : Number) : ∃ ds fs e,
    IsLayout n.text.toList n.decimal.negative n.decimal.digits n.decimal.power ds fs e := by
  cases n with
  | whole n => exact ⟨_, _, _, isLayout_whole n⟩
  | double x =>
    obtain ⟨ds, fs, -, h⟩ | ⟨ds, fs, e, h⟩ := isLayout_scientificText x
    · exact ⟨ds, fs, none, h⟩
    · exact ⟨ds, fs, some e, h⟩

/-! ## Literals of numbers -/

/-- What has the sign and the value of a number's digits stands for the number. -/
lemma denotes_of_value {n : Number} (hn : n.Proper) {d : DoubleLiteral}
    (hsign : d.negative = n.decimal.negative) (hvalue : (d.digits : ℚ) * 10 ^ d.power =
      n.decimal.digits * 10 ^ n.decimal.power) : d.Denotes n := by
  cases n with
  | whole n =>
    change d.value = n
    rw [DoubleLiteral.value, hvalue, hsign, decimal]
    simp only [decide_eq_true_eq, zpow_zero, mul_one]
    split
    · rename_i hneg
      rw [Nat.cast_natAbs, abs_of_neg hneg]
      push_cast
      ring
    · rename_i hpos
      rw [Nat.cast_natAbs, abs_of_nonneg (not_lt.1 hpos), one_mul]
  | double x =>
    change Binary64.ofDecimal? d.negative d.digits d.power = some x
    rw [hsign]
    exact Binary64.ofDecimal?_eq_some hn hvalue

/-- The text of a number has an exponent and no point. -/
def HasBareExponent (n : Number) : Prop := 'e' ∈ n.text.toList ∧ '.' ∉ n.text.toList

instance (n : Number) : Decidable n.HasBareExponent := instDecidableAnd

lemma AllDigits.not_mem {c : Char} (hds : AllDigits ds) (hc : c.isDigit = false) : c ∉ ds :=
  fun hmem => by simp [hds c hmem] at hc

lemma not_mem_exponentText {c : Char} (hc : c.isDigit = false) (hmarks : c ∉ ['e', '+', '-'])
    (e : Option Int) : c ∉ exponentText e := by
  cases e with
  | none => exact List.not_mem_nil
  | some e =>
    have hdigits := (allDigits_toString e.natAbs).not_mem hc
    simp only [List.mem_cons, List.not_mem_nil, or_false, not_or] at hmarks
    rw [exponentText, List.mem_cons, List.mem_cons, not_or, not_or]
    refine ⟨hmarks.1, ?_, hdigits⟩
    split
    · exact hmarks.2.1
    · exact hmarks.2.2

/-- A text has a point exactly if it has a fraction, and an `e` exactly if it has an exponent. -/
lemma IsLayout.mem_iff {text fs : List Char} {negative : Bool} {digits : Nat} {power : Int}
    {e : Option Int} (h : IsLayout text negative digits power ds fs e) :
    ('.' ∈ text ↔ fs ≠ []) ∧ ('e' ∈ text ↔ e ≠ none) := by
  have hsign (c : Char) (hc : c ≠ '-') : c ∉ if negative then ['-'] else [] := by
    cases negative <;> simp [hc]
  have hpoint := not_mem_exponentText (c := '.') rfl (by decide) e
  have hwhole (c : Char) (hc : c.isDigit = false) := h.whole.not_mem hc
  have hfraction := h.fraction.not_mem (c := 'e') rfl
  rw [h.text, layout, fractionText]
  simp only [List.mem_append, hsign '.' (by decide), hsign 'e' (by decide), hwhole '.' rfl,
    hwhole 'e' rfl, hpoint, false_or, or_false]
  constructor
  · split <;> simp_all
  · cases e with
    | none => split <;> simp_all [exponentText]
    | some e => simp [exponentText]

/-- A fraction of a zero adds nothing to a whole number. -/
lemma IsLayout.append_zero {text : List Char} {negative : Bool} {digits : Nat} {power : Int}
    (h : IsLayout text negative digits power ds [] none) :
    IsLayout (text ++ ".0".toList) negative digits power ds ['0'] none where
  text := by simp [h.text, layout, fractionText, exponentText]
  whole := h.whole
  fraction := allDigits_zeros 1
  ne_nil := h.ne_nil
  value := by
    have hzero : digitsValue ['0'] = 0 := rfl
    rw [← h.value, digitsValue_append, List.append_nil, hzero]
    simp only [List.length_singleton, pow_one, add_zero, Option.getD_none, Nat.cast_mul,
      Nat.cast_ofNat, Nat.cast_one, zero_sub, zpow_neg, zpow_one, List.length_nil, Nat.cast_zero,
      neg_zero, zpow_zero, mul_one]
    rw [mul_assoc, mul_inv_cancel₀ (by norm_num), mul_one]

/-- The text of a number is a literal for it, with the suffix or without. -/
lemma IsLayout.exists_readDouble? {n : Number} (hn : n.Proper) {text fs suffix : List Char}
    {e : Option Int}
    (h : IsLayout text n.decimal.negative n.decimal.digits n.decimal.power ds fs e)
    {l : Language} (hsuffix : suffix = [] ∨ suffix = l.doubleSuffix) :
    ∃ d, l.readDouble? (text ++ suffix) = some d ∧ d.Denotes n := by
  have hends : EndsDigits suffix ∧ suffix.head? ∉ [some '.', some 'e', some 'E'] := by
    rcases hsuffix with rfl | rfl
    · exact ⟨by simp [EndsDigits], by simp⟩
    · cases l <;> exact ⟨by simp [EndsDigits, Language.doubleSuffix], by decide⟩
  refine ⟨⟨n.decimal.negative, digitsValue (ds ++ fs), e.getD 0 - fs.length⟩, ?_,
    denotes_of_value hn rfl h.value⟩
  rw [h.text, l.readDouble?_layout n.decimal.negative h.whole h.ne_nil h.fraction e hends.1,
    if_pos hsuffix]
  simpa using fun _ => hends.2

/-- **The literals of numbers.** The literal of a number of a document stands for it, except that
the language without a suffix puts a fraction behind an exponent. -/
theorem readDouble?_numberLiteral_iff (l : Language) {n : Number} (hn : n.Proper) :
    (∃ d, l.readDouble? (l.dialect.numberLiteral n.text .double).toList = some d ∧ d.Denotes n) ↔
      ¬(l = .kotlin ∧ n.HasBareExponent) := by
  obtain ⟨ds, fs, e, h⟩ := n.exists_isLayout_text
  obtain ⟨hpoint, hmark⟩ := h.mem_iff
  cases l with
  | java =>
    refine iff_of_true ?_ (by simp)
    have htext : (Language.java.dialect.numberLiteral n.text .double).toList =
        n.text.toList ++ ['D'] := String.toList_append
    rw [htext]
    exact h.exists_readDouble? hn (.inr rfl)
  | kotlin =>
    have htext : (Language.kotlin.dialect.numberLiteral n.text .double).toList =
        if fs ≠ [] then n.text.toList else n.text.toList ++ ".0".toList := by
      have hcontains : Text.containsChar n.text '.' = true ↔ fs ≠ [] := by
        rw [← hpoint, Text.containsChar, List.contains_iff_mem]
      change (if Text.containsChar n.text '.' then n.text else n.text ++ ".0").toList = _
      rw [apply_ite String.toList, String.toList_append]
      simp only [hcontains]
    have hbare : n.HasBareExponent ↔ e ≠ none ∧ fs = [] := by
      rw [HasBareExponent, hmark, hpoint, not_not]
    rw [htext, hbare]
    cases e with
    | none =>
      refine iff_of_true ?_ (by simp)
      split
      · simpa using h.exists_readDouble? hn (l := .kotlin) (.inl rfl)
      · rename_i hfs
        obtain rfl := not_not.1 hfs
        simpa using h.append_zero.exists_readDouble? hn (l := .kotlin) (.inl rfl)
    | some e =>
      by_cases hfs : fs = []
      · subst hfs
        refine iff_of_false ?_ (by simp)
        rw [if_neg (by simp), h.text, Language.readDouble?_layout .kotlin _ h.whole h.ne_nil
          h.fraction (some e) (by simp [EndsDigits]) (by simp), if_neg (by decide)]
        simp
      · refine iff_of_true ?_ (by simp [hfs])
        rw [if_pos hfs]
        simpa using h.exists_readDouble? hn (l := .kotlin) (.inl rfl)

end Number

end ApiLowering
