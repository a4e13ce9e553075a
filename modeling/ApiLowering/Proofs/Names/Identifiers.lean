import ApiLowering.Proofs.Document.References
import ApiLowering.Proofs.Names.CamelCase

/-!
# The names of properties are identifiers

A name is unescaped, made of letters, digits and underscores alone, put in camel case, and escaped
again if it is reserved. The result is an identifier, and each of these steps leaves it as it is.

## Main definitions

* `Names.plain` — the name of a property before reserved words are escaped.
* `Names.Settled` — names in capitals, and camel case after underscores.
* `Language.IsName` — the names of a language.

## Main results

* `Names.settled_plain`, `Names.Settled.plain_eq` — plain names are the settled ones, and settled
  names stay.
* `Names.sanitize_unescape_escape` — what is left of an escaped name is a settled one.
* `Names.identifier_of_propertyName` — the contract of the names of properties.
-/

namespace ApiLowering

namespace Names

open Text

variable {c : Char} {cs : List Char} {s : String}

/-! ## Plain names -/

/-- Whether a character is one of a name in capitals. -/
def isCapitalPart (c : Char) : Bool := c.isUpper || c.isDigit || c == '_'

/-- The name of a property before reserved words are escaped, from letters, digits and
underscores. -/
def plain (s : String) : String :=
  if !startsWithDigit s && s.toList.all isCapitalPart then s
  else
    let start := s.toList.takeWhile (· == '_')
    let body := propertyCase (String.ofList (s.toList.dropWhile (· == '_')))
    let body := if start.isEmpty && startsWithDigit body then "_" ++ body else body
    String.ofList start ++ body

/-- The names that stay as they are: names in capitals, and camel case after underscores. -/
inductive Settled : String → Prop
  | capitals {s : String} (hdigit : startsWithDigit s = false)
      (hall : s.toList.all isCapitalPart = true) {c : Char} (hc : c ∈ s.toList)
      (hmark : c ≠ '_') : Settled s
  | camel (k : Nat) {cs : List Char} (hcs : IsCamel cs)
      (hdigit : k = 0 → startsWithDigit (String.ofList cs) = false) :
      Settled (String.ofList (List.replicate k '_' ++ cs))

lemma isAlphanum_of_isIdentifierPart (h : isIdentifierPart c = true) (hmark : c ≠ '_') :
    c.isAlphanum = true := by
  rcases Bool.or_eq_true_iff.1 h with h | h
  · exact h
  · exact absurd (beq_iff_eq.1 h) hmark

/-- The underscores at the start of a text. -/
lemma takeWhile_mark (cs : List Char) :
    cs.takeWhile (· == '_') = List.replicate (cs.takeWhile (· == '_')).length '_' :=
  List.eq_replicate_of_mem fun _ hc => beq_iff_eq.1 (List.mem_takeWhile_imp (p := (· == '_')) hc)

/-- **Plain names are settled**, if they have a letter or a digit. -/
theorem settled_plain (h : ∀ c ∈ s.toList, isIdentifierPart c = true) (hc : c ∈ s.toList)
    (hmark : c ≠ '_') : Settled (plain s) := by
  unfold plain
  split
  · rename_i hcapitals
    obtain ⟨hdigit, hall⟩ := Bool.and_eq_true_iff.1 hcapitals
    exact .capitals (by simpa using hdigit) hall hc hmark
  · -- The character stands after the underscores at the start, so camel case keeps something.
    have hmem : c ∈ s.toList.dropWhile (· == '_') := by
      have happend := List.takeWhile_append_dropWhile (p := (· == '_')) (l := s.toList)
      rw [← happend] at hc
      rcases List.mem_append.1 hc with hstart | hmem
      · exact absurd (beq_iff_eq.1 (List.mem_takeWhile_imp (p := (· == '_')) hstart)) hmark
      · exact hmem
    have hparts : ∀ d ∈ s.toList.dropWhile (· == '_'), isIdentifierPart d = true := fun d hd =>
      h d ((List.dropWhile_sublist _).subset hd)
    have hbody := isCamel_propertyCase hparts hmem
      (isAlphanum_of_isIdentifierPart (hparts c hmem) hmark)
    generalize propertyCase (String.ofList (s.toList.dropWhile (· == '_'))) = body at hbody
    rw [takeWhile_mark]
    generalize (s.toList.takeWhile (· == '_')).length = k
    dsimp only
    split
    · rename_i hprefix
      obtain ⟨hempty, -⟩ := Bool.and_eq_true_iff.1 hprefix
      obtain rfl : k = 0 := by simpa using hempty
      have hname : String.ofList (List.replicate 0 '_') ++ ("_" ++ body) =
          String.ofList (List.replicate 1 '_' ++ body.toList) := by
        simp
      rw [hname]
      exact .camel 1 hbody fun hzero => nomatch hzero
    · rename_i hprefix
      have hname : String.ofList (List.replicate k '_') ++ body =
          String.ofList (List.replicate k '_' ++ body.toList) := by
        simp
      rw [hname]
      refine .camel k hbody fun hzero => ?_
      subst hzero
      simpa using hprefix

lemma takeWhile_mark_append (k : Nat) (h : ∀ c ∈ cs.head?, c ≠ '_') :
    (List.replicate k '_' ++ cs).takeWhile (· == '_') = List.replicate k '_' := by
  rw [List.takeWhile_append_of_pos (by simp)]
  cases cs with
  | nil => simp
  | cons c rest => simp [h c rfl]

lemma dropWhile_mark_append (k : Nat) (h : ∀ c ∈ cs.head?, c ≠ '_') :
    (List.replicate k '_' ++ cs).dropWhile (· == '_') = cs := by
  rw [List.dropWhile_append_of_pos (by simp)]
  cases cs with
  | nil => simp
  | cons c rest => simp [h c rfl]

/-- **Settled names stay.** -/
theorem Settled.plain_eq (h : Settled s) : plain s = s := by
  cases h with
  | capitals hdigit hall hc hmark => rw [plain, hdigit, hall]; rfl
  | @camel k cs hcs hdigit =>
    unfold plain
    split
    · rfl
    · dsimp only
      rw [String.toList_ofList, takeWhile_mark_append k hcs.head_ne_mark,
        dropWhile_mark_append k hcs.head_ne_mark, propertyCase_of_isCamel hcs, if_neg,
        String.ofList_append]
      intro hprefix
      obtain ⟨hempty, hstarts⟩ := Bool.and_eq_true_iff.1 hprefix
      rw [hdigit (by simpa using hempty)] at hstarts
      cases hstarts

/-- **Settled names are identifiers.** -/
theorem Settled.isIdentifier (h : Settled s) : IsIdentifier s := by
  cases h with
  | capitals hdigit hall hc hmark =>
    cases hs : s.toList with
    | nil =>
      rw [hs] at hc
      cases hc
    | cons first rest =>
      rw [hs, List.all_cons, Bool.and_eq_true] at hall
      rw [startsWithDigit, hs] at hdigit
      have hparts : ∀ d ∈ rest, isIdentifierPart d = true := fun d hd => by
        have := List.all_eq_true.1 hall.2 d hd
        grind [isCapitalPart, isIdentifierPart, Char.isAlphanum, Char.isAlpha]
      refine ⟨first, rest, hs, ?_, hparts⟩
      grind [isCapitalPart, Char.isAlpha]
  | camel k hcs hdigit =>
    obtain ⟨halphanum, first, rest, rfl, -, -⟩ := hcs
    have hparts : ∀ d ∈ first :: rest, isIdentifierPart d = true := fun d hd => by
      rw [isIdentifierPart, halphanum d hd, Bool.true_or]
    cases k with
    | zero =>
      refine ⟨first, rest, String.toList_ofList, .inl ?_, (List.forall_mem_cons.1 hparts).2⟩
      have hfirst := halphanum first List.mem_cons_self
      have hnumber : first.isDigit = false := by simpa [startsWithDigit] using hdigit rfl
      rwa [Char.isAlphanum, hnumber, Bool.or_false] at hfirst
    | succ k =>
      refine ⟨'_', List.replicate k '_' ++ first :: rest, String.toList_ofList, .inr rfl, ?_⟩
      intro d hd
      rcases List.mem_append.1 hd with hmark | hd
      · rw [List.eq_of_mem_replicate hmark]
        rfl
      · exact hparts d hd

/-- Settled names are not made of underscores alone. -/
lemma Settled.exists_ne_mark (h : Settled s) : ∃ c ∈ s.toList, c ≠ '_' := by
  cases h with
  | capitals _ _ hc hmark => exact ⟨_, hc, hmark⟩
  | camel k hcs =>
    obtain ⟨c, rest, rfl, -⟩ := hcs.head
    refine ⟨c, ?_, hcs.head_ne_mark c rfl⟩
    rw [String.toList_ofList]
    exact List.mem_append_right _ List.mem_cons_self

/-- A letter is no digit. -/
lemma not_isDigit_of_isAlphabetic (h : isAlphabetic c = true) : c.isDigit = false := by
  refine Bool.eq_false_iff.2 fun hdigit => ?_
  have halphanum : c.isAlphanum = true := by rw [Char.isAlphanum, hdigit, Bool.or_true]
  rw [isAlphabetic, if_pos (toNat_lt_of_isAlphanum halphanum),
    isAlpha_eq_false_of_isDigit hdigit] at h
  cases h

/-- A settled name may lose an underscore before a letter. -/
lemma Settled.of_mark_append (h : Settled ("_" ++ s)) (hs : StartsWithLetter s) : Settled s := by
  obtain ⟨first, hfirst, hletter⟩ := hs
  have hdigit : startsWithDigit s = false := by
    rw [startsWithDigit, Option.mem_def.1 hfirst]
    exact not_isDigit_of_isAlphabetic hletter
  have hmark : first ≠ '_' := by
    rintro rfl
    revert hletter
    decide
  generalize hname : "_" ++ s = name at h
  have hchars : name.toList = '_' :: s.toList := by
    rw [← hname, String.toList_append]
    rfl
  cases h with
  | capitals _ hall =>
    rw [hchars, List.all_cons, Bool.and_eq_true] at hall
    exact .capitals hdigit hall.2 (List.mem_of_mem_head? hfirst) hmark
  | @camel k cs hcs =>
    rw [String.toList_ofList] at hchars
    cases k with
    | zero =>
      rw [List.replicate_zero, List.nil_append] at hchars
      exact absurd rfl (hcs.head_ne_mark '_' (by rw [hchars]; rfl))
    | succ k =>
      rw [List.replicate_succ, List.cons_append, List.cons.injEq] at hchars
      have hs : s = String.ofList (List.replicate k '_' ++ cs) := by
        rw [hchars.2, String.ofList_toList]
      rw [hs]
      refine .camel k hcs fun hzero => ?_
      subst hzero
      rw [hs] at hdigit
      exact hdigit

/-! ## Escaping -/

lemma stripMark_append (s : String) : stripStart? "_" ("_" ++ s) = some s := by
  rw [stripStart?, String.toList_append, Reference.dropStart?_append, Option.map_some,
    String.ofList_toList]

lemma eq_of_stripMark {rest : String} (h : stripStart? "_" s = some rest) : s = "_" ++ rest := by
  obtain ⟨cs, hcs, rfl⟩ := Option.map_eq_some_iff.1 h
  rw [← String.toList_inj, Reference.eq_append_of_dropStart? hcs, String.toList_append]
  exact congrArg _ String.toList_ofList.symm

variable {n : Names}

lemma sanitizeChar_eq (hunicode : n.allowUnicode = false) (c : Char) :
    n.sanitizeChar c = if isIdentifierPart c then c else '_' := by
  rw [sanitizeChar, hunicode, Bool.false_and, Bool.or_false]
  rfl

lemma isIdentifierPart_of_mem_sanitize (hunicode : n.allowUnicode = false) (s : String) :
    ∀ c ∈ (n.sanitize s).toList, isIdentifierPart c = true := by
  intro c hc
  rw [sanitize, String.toList_ofList] at hc
  obtain ⟨d, -, rfl⟩ := List.mem_map.1 hc
  rw [sanitizeChar_eq hunicode]
  split
  · assumption
  · rfl

/-- An identifier holds no other characters. -/
lemma sanitize_of_isIdentifier (hunicode : n.allowUnicode = false) (hs : IsIdentifier s) :
    n.sanitize s = s := by
  rw [sanitize, ← String.toList_inj, String.toList_ofList]
  have hkept : ∀ c ∈ s.toList, n.sanitizeChar c = id c := fun c hc => by
    rw [sanitizeChar_eq hunicode, if_pos (hs.parts c hc), id]
  rw [List.map_congr_left hkept, List.map_id]

lemma unescape_java (hdialect : n.dialect = Dialect.java) (s : String) :
    n.unescape s = (match stripStart? "_" s with
      | some rest => if n.isReserved rest then rest else s
      | none => s) := by
  rw [unescape, hdialect]
  rfl

lemma unescape_kotlin (hdialect : n.dialect = Dialect.kotlin) (s : String) :
    n.unescape s = String.ofList (s.toList.filter (· != Dialect.Kotlin.wordMark)) := by
  rw [unescape, hdialect]
  change replaceChar s Dialect.Kotlin.wordMark "" = _
  rw [replaceChar]
  congr 1
  induction s.toList with
  | nil => rfl
  | cons c cs ih =>
    rw [List.flatMap_cons, ih, List.filter_cons]
    by_cases hmark : c = Dialect.Kotlin.wordMark
    · simp [hmark]
    · simp [hmark]

/-- An identifier has no marks. -/
lemma filter_wordMark (hs : IsIdentifier s) :
    s.toList.filter (· != Dialect.Kotlin.wordMark) = s.toList := by
  refine List.filter_eq_self.2 fun c hc => bne_iff_ne.2 fun hmark => ?_
  have hpart := hs.parts c hc
  rw [hmark] at hpart
  revert hpart
  decide

/-- The marks around a word are taken off. -/
lemma unescape_escapeWord_kotlin (hdialect : n.dialect = Dialect.kotlin) (hs : IsIdentifier s) :
    n.unescape (Dialect.kotlin.escapeWord s) = s := by
  have hword : (Dialect.kotlin.escapeWord s).toList =
      Dialect.Kotlin.wordMark :: s.toList ++ [Dialect.Kotlin.wordMark] := by
    change (String.singleton _ ++ s ++ String.singleton _).toList = _
    rw [String.toList_append, String.toList_append, String.toList_singleton]
    rfl
  rw [unescape_kotlin hdialect, hword, List.filter_append, List.filter_cons_of_neg (by simp),
    filter_wordMark hs]
  simp

lemma unescape_kotlin_of_isIdentifier (hdialect : n.dialect = Dialect.kotlin)
    (hs : IsIdentifier s) : n.unescape s = s := by
  rw [unescape_kotlin hdialect, filter_wordMark hs, String.ofList_toList]

end Names

/-- The names of a language: identifiers, and in Kotlin also identifiers between marks. -/
def Language.IsName : Language → String → Prop
  | .java, s => Text.IsIdentifier s
  | .kotlin, s => Text.IsIdentifier s ∨
      ∃ word, Text.IsIdentifier word ∧ s = Dialect.kotlin.escapeWord word

namespace Names

open Text

variable {n : Names} {l : Language} {s : String}

/-- **What is left of an escaped name** is a settled name again, and is escaped to the same. -/
theorem sanitize_unescape_escape (hdialect : n.dialect = l.dialect)
    (hunicode : n.allowUnicode = false)
    (hwords : ∀ word, n.isReserved word = true → StartsWithLetter word) (hs : Settled s) :
    Settled (n.sanitize (n.unescape (n.escapeIfReserved s))) ∧
      n.escapeIfReserved (n.sanitize (n.unescape (n.escapeIfReserved s))) =
        n.escapeIfReserved s := by
  have hstays := sanitize_of_isIdentifier hunicode hs.isIdentifier
  cases l with
  | kotlin =>
    have hback : n.unescape (n.escapeIfReserved s) = s := by
      rw [escapeIfReserved]
      split
      · rw [hdialect]
        exact unescape_escapeWord_kotlin hdialect hs.isIdentifier
      · exact unescape_kotlin_of_isIdentifier hdialect hs.isIdentifier
    rw [hback, hstays]
    exact ⟨hs, rfl⟩
  | java =>
    cases hreserved : n.isReserved s with
    | true =>
      have hback : n.unescape (n.escapeIfReserved s) = s := by
        rw [escapeIfReserved, if_pos hreserved, hdialect, unescape_java hdialect]
        change (match stripStart? "_" ("_" ++ s) with
          | some rest => if n.isReserved rest then rest else "_" ++ s
          | none => "_" ++ s) = s
        rw [stripMark_append]
        exact if_pos hreserved
      rw [hback, hstays]
      exact ⟨hs, rfl⟩
    | false =>
      have hplain : n.escapeIfReserved s = s := by
        rw [escapeIfReserved, if_neg (by simp [hreserved])]
      rw [hplain, unescape_java hdialect]
      -- An unreserved name may be an escaped one: an underscore and a reserved word.
      cases hstrip : stripStart? "_" s with
      | none =>
        change Settled (n.sanitize s) ∧ n.escapeIfReserved (n.sanitize s) = s
        rw [hstays]
        exact ⟨hs, hplain⟩
      | some rest =>
        change Settled (n.sanitize (if n.isReserved rest then rest else s)) ∧
          n.escapeIfReserved (n.sanitize (if n.isReserved rest then rest else s)) = s
        cases hrest : n.isReserved rest with
        | false =>
          rw [if_neg Bool.false_ne_true, hstays]
          exact ⟨hs, hplain⟩
        | true =>
          have hname := eq_of_stripMark hstrip
          have hsettled : Settled rest := (hname ▸ hs).of_mark_append (hwords rest hrest)
          rw [if_pos rfl, sanitize_of_isIdentifier hunicode hsettled.isIdentifier,
            escapeIfReserved, if_pos hrest, hdialect]
          exact ⟨hsettled, hname.symm⟩

/-- Escaped names are not reserved. -/
lemma isReserved_escapeIfReserved (hdialect : n.dialect = l.dialect)
    (hwords : ∀ word, n.isReserved word = true → StartsWithLetter word) (s : String) :
    n.isReserved (n.escapeIfReserved s) = false := by
  rw [escapeIfReserved]
  split
  · refine Bool.eq_false_iff.2 fun hreserved => ?_
    obtain ⟨first, hfirst, hletter⟩ := hwords _ hreserved
    rw [hdialect] at hfirst
    cases l with
    | java =>
      change first ∈ ("_" ++ s).toList.head? at hfirst
      rw [String.toList_append] at hfirst
      cases hfirst
      revert hletter
      decide
    | kotlin =>
      change first ∈ (String.singleton _ ++ s ++ String.singleton _).toList.head? at hfirst
      rw [String.toList_append, String.toList_append, String.toList_singleton] at hfirst
      cases hfirst
      revert hletter
      decide
  · rename_i hplain
    exact Bool.eq_false_iff.2 hplain

/-- Escaped names are names of the language. -/
lemma isName_escapeIfReserved (hdialect : n.dialect = l.dialect) (hs : IsIdentifier s) :
    l.IsName (n.escapeIfReserved s) := by
  rw [escapeIfReserved]
  split
  · rw [hdialect]
    cases l with
    | java =>
      refine ⟨'_', s.toList, ?_, .inr rfl, hs.parts⟩
      change ("_" ++ s).toList = _
      rw [String.toList_append]
      rfl
    | kotlin => exact .inr ⟨s, hs, rfl⟩
  · cases l with
    | java => exact hs
    | kotlin => exact .inl hs

/-! ## The names of properties -/

/-- Without a mapping, a name fails if nothing but underscores is left of it; otherwise it becomes a
plain name, escaped if it is reserved. -/
lemma propertyName_eq (hmapping : n.nameMapping = {}) (name : String) :
    n.propertyName name =
      if (n.sanitize (n.unescape name)).toList.all (· == '_') then .error (.unnameable name)
      else .ok (n.escapeIfReserved (plain (n.sanitize (n.unescape name)))) := by
  unfold propertyName plain
  rw [hmapping]
  change (if _ then _ else _) = _
  split
  · rfl
  · symm
    change Except.ok (n.escapeIfReserved (if _ then _ else _)) = ite _ _ _
    rw [apply_ite n.escapeIfReserved, apply_ite Except.ok]
    rfl

/-- All words that a language reserves begin with a letter. -/
lemma startsWithLetter_of_mem_reservedWords (l : Language) :
    ∀ word ∈ l.dialect.reservedWords, StartsWithLetter word := by
  cases l <;> decide +kernel

variable {o : Options}

/-- **The contract of the names of properties.** Without other letters than those of ASCII and
without mappings, a name fails exactly if nothing but underscores is left of it when it is unescaped
and sanitized. Otherwise it becomes a name of the language that is not reserved and stays as it is.
The options may reserve more words, if these begin with a letter. -/
theorem identifier_of_propertyName (hunicode : o.allowUnicodeIdentifiers = false)
    (hmapping : o.nameMapping = {})
    (haugment : ∀ word ∈ o.reservedWordsAugment, StartsWithLetter word) (name : String) :
    ((ofOptions o).propertyName name = .error (.unnameable name) ↔
      ∀ c ∈ ((ofOptions o).sanitize ((ofOptions o).unescape name)).toList, c = '_') ∧
    ((∃ c ∈ ((ofOptions o).sanitize ((ofOptions o).unescape name)).toList, c ≠ '_') →
      ∃ r, (ofOptions o).propertyName name = .ok r ∧ o.language.IsName r ∧
        (ofOptions o).isReserved r = false ∧ (ofOptions o).propertyName r = .ok r) := by
  have hdialect : (ofOptions o).dialect = o.language.dialect := rfl
  have hwords : ∀ word, (ofOptions o).isReserved word = true → StartsWithLetter word := by
    intro word hreserved
    rcases List.mem_append.1 (List.contains_iff_mem.1 hreserved) with hword | hword
    · exact startsWithLetter_of_mem_reservedWords o.language word hword
    · exact haugment word hword
  have hname := propertyName_eq (n := ofOptions o) hmapping
  have hparts := isIdentifierPart_of_mem_sanitize (n := ofOptions o) hunicode
    ((ofOptions o).unescape name)
  constructor
  · rw [hname]
    split
    · rename_i hall
      simpa using hall
    · rename_i hall
      simpa using hall
  · rintro ⟨c, hc, hmark⟩
    have hsettled := settled_plain hparts hc hmark
    obtain ⟨hagain, hescape⟩ := sanitize_unescape_escape hdialect hunicode hwords hsettled
    refine ⟨_, ?_, isName_escapeIfReserved hdialect hsettled.isIdentifier,
      isReserved_escapeIfReserved hdialect hwords _, ?_⟩
    · rw [hname, if_neg]
      intro hall
      exact hmark (beq_iff_eq.1 (List.all_eq_true.1 hall c hc))
    · obtain ⟨d, hd, hkept⟩ := hagain.exists_ne_mark
      rw [hname, if_neg, hagain.plain_eq, hescape]
      intro hall
      exact hkept (beq_iff_eq.1 (List.all_eq_true.1 hall d hd))

/-- Kotlin with one more reserved word. -/
def reservingPetId : Options where
  language := .kotlin
  reservedWordsAugment := ["petId"]

theorem identifier_of_propertyName_petId :
    (reservingPetId.allowUnicodeIdentifiers = false ∧ reservingPetId.nameMapping = {} ∧
      ∀ word ∈ reservingPetId.reservedWordsAugment, StartsWithLetter word) ∧
    (ofOptions reservingPetId).propertyName "pet_id" = .ok "\x60petId\x60" ∧
    (∃ r, (ofOptions reservingPetId).propertyName "pet_id" = .ok r ∧ Language.kotlin.IsName r ∧
      (ofOptions reservingPetId).isReserved r = false ∧
      (ofOptions reservingPetId).propertyName r = .ok r) ∧
    (ofOptions reservingPetId).propertyName "-_-" = .error (.unnameable "-_-") := by
  have hwords : ∀ word ∈ reservingPetId.reservedWordsAugment, StartsWithLetter word := by decide
  have hpet : (ofOptions reservingPetId).sanitize ((ofOptions reservingPetId).unescape "pet_id") =
      "pet_id" := by decide +kernel
  have hmarks : (ofOptions reservingPetId).sanitize ((ofOptions reservingPetId).unescape "-_-") =
      "___" := by decide +kernel
  refine ⟨⟨rfl, rfl, hwords⟩, by decide +kernel, ?_, ?_⟩
  · refine (identifier_of_propertyName rfl rfl hwords "pet_id").2 ⟨'p', ?_, by decide⟩
    rw [hpet]
    decide
  · refine (identifier_of_propertyName rfl rfl hwords "-_-").1.2 ?_
    rw [hmarks]
    simp

end Names

end ApiLowering
