import ApiLowering.Dialect.Kotlin
import ApiLowering.Proofs.Decimal.Literals
import ApiLowering.Proofs.Document.Samples
import ApiLowering.Proofs.Models.Defaults
import Mathlib.Data.List.TakeWhile
import Mathlib.Tactic.Lemma

/-!
# Literals

A literal of a text ends at the first double quote that no backslash precedes. It has no line break,
and a backslash stands before five characters alone. In one of the languages a dollar sign begins a
template if a name or a brace follows; a literal with a template is not a text that is known.

An escaped text is read back unless it has a template, which escaping does not look at. A text that
is put between the quotes as it stands is read back only if nothing in it has a meaning of its own.

The default of a scalar is written as an expression with one literal. A text, the address of a
resource and an identifier are written in quotes, and a double-precision number by its digits. Read
by the rules of the language, the literal is the default again, with three exceptions: a text may
begin a template in the language that has them, an identifier is not escaped, and the language
without a suffix for double-precision numbers puts a fraction behind an exponent.

Defaults of other kinds are left out: those of enumerated values, of collections, of days and
moments, and the numbers with other literals.

## Main definitions

* `Language.readText?` — reads a literal after its opening quote.
* `Language.soleText?` — the text of the only literal of an expression.
* `Text.HasTemplate` — a template begins in a text.
* `Text.IsPlain` — a text without quotes, backslashes and line breaks.
* `LiteralKind`, `TypeFacts.literalKind?` — the scalars whose defaults have such literals.
* `Language.Reads` — a literal is the default again.
* `Language.Keeps` — nothing in a default is changed by its literal.
* `Setup.HasDefault` — a schema gives a default by its type alone.

## Main results

* `Language.soleText?_escape` — an escaped text is read back unless it has a template.
* `Language.soleText?_eq_some_iff` — when a text that is not escaped is read back.
* `Setup.reads_defaultValue_iff` — which defaults are read back.
-/

namespace ApiLowering

/-! ## Reading literals -/

namespace Text

/-- Whether a dollar sign before a text begins a template. -/
def startsTemplate : List Char → Bool
  | [] => false
  | c :: _ => isAlphabetic c || c == '_' || c == '{'

/-- A template begins in a text. -/
def HasTemplate : List Char → Prop
  | [] => False
  | c :: rest => (c = '$' ∧ startsTemplate rest = true) ∨ HasTemplate rest

instance decidableHasTemplate : (cs : List Char) → Decidable (HasTemplate cs)
  | [] => .isFalse id
  | c :: rest =>
    have := decidableHasTemplate rest
    inferInstanceAs (Decidable ((c = '$' ∧ startsTemplate rest = true) ∨ HasTemplate rest))

lemma hasTemplate_cons {c : Char} {rest : List Char} :
    HasTemplate (c :: rest) ↔ (c = '$' ∧ startsTemplate rest = true) ∨ HasTemplate rest :=
  Iff.rfl

/-- The character that stands after a backslash for another one. -/
def unescapeChar? : Char → Option Char
  | '\\' => some '\\'
  | '"' => some '"'
  | 'n' => some '\n'
  | 'r' => some '\r'
  | 't' => some '\t'
  | _ => none

/-- A text without quotes, backslashes and line breaks. -/
def IsPlain (cs : List Char) : Prop := ∀ c ∈ cs, c ∉ ['"', '\\', '\n', '\r']

instance (cs : List Char) : Decidable (IsPlain cs) := List.decidableBAll _ cs

end Text

namespace Language

open Text

/-- Whether texts may have templates. -/
def hasTemplates : Language → Bool
  | .java => false
  | .kotlin => true

/-- Reads a literal after its opening quote: its text, and what follows the closing quote. There is
none if the literal has no end or a template. -/
def readText? (l : Language) : List Char → Option (List Char × List Char)
  | [] => none
  | '"' :: rest => some ([], rest)
  | ['\\'] => none
  | '\\' :: c :: rest => do
    let d ← unescapeChar? c
    let (text, rest) ← l.readText? rest
    some (d :: text, rest)
  | c :: rest =>
    if c = '\n' ∨ c = '\r' ∨ (l.hasTemplates ∧ c = '$' ∧ startsTemplate rest) then none
    else do
      let (text, rest) ← l.readText? rest
      some (c :: text, rest)

/-- The text of the literal of an expression, if there is just one. -/
def soleText? (l : Language) (expression : String) : Option String :=
  match expression.toList.dropWhile (· != '"') with
  | [] => none
  | _ :: rest =>
    match l.readText? rest with
    | some (text, after) => if '"' ∈ after then none else some (String.ofList text)
    | none => none

variable {l : Language} {cs rest : List Char} {c : Char}

/-- A character without a meaning of its own stands for itself. -/
lemma readText?_cons (h : c ∉ ['"', '\\', '\n', '\r']) :
    l.readText? (c :: rest) =
      if l.hasTemplates ∧ c = '$' ∧ startsTemplate rest then none
      else (l.readText? rest).map fun r => (c :: r.1, r.2) := by
  simp only [List.mem_cons, List.not_mem_nil, or_false, not_or] at h
  obtain ⟨hquote, hbackslash, hnewline, hreturn⟩ := h
  rw [readText?]
  · simp only [hnewline, hreturn, false_or]
    split
    · rfl
    · cases l.readText? rest <;> rfl
  all_goals simp_all

/-! ## Escaped texts -/

/-- A character is escaped if it has a meaning of its own or is a tab; none of those comes after the
dollar sign of a template. -/
lemma escapeChar_cases (c : Char) : (escapeChar c = [c] ∧ c ∉ ['"', '\\', '\n', '\r']) ∨
    ∃ d, escapeChar c = ['\\', d] ∧ unescapeChar? d = some c ∧ c ≠ '$' ∧
      ∀ cs, startsTemplate (c :: cs) = false := by
  by_cases hspecial : c ∈ ['\\', '"', '\n', '\r', '\t']
  · simp only [List.mem_cons, List.not_mem_nil, or_false] at hspecial
    right
    rcases hspecial with rfl | rfl | rfl | rfl | rfl
    all_goals exact ⟨_, rfl, rfl, by decide, fun _ => rfl⟩
  · simp only [List.mem_cons, List.not_mem_nil, or_false, not_or] at hspecial
    obtain ⟨hbackslash, hquote, hnewline, hreturn, htab⟩ := hspecial
    left
    rw [escapeChar, if_neg hbackslash, if_neg hquote, if_neg hnewline, if_neg hreturn, if_neg htab]
    simp [hbackslash, hquote, hnewline, hreturn]

/-- A closing quote does not begin a template. -/
lemma startsTemplate_append_quote (cs rest : List Char) :
    startsTemplate (cs ++ '"' :: rest) = startsTemplate cs := by
  cases cs <;> rfl

/-- Escaping keeps what comes after a dollar sign, as far as templates go. -/
lemma startsTemplate_escape (cs rest : List Char) :
    startsTemplate (cs.flatMap escapeChar ++ '"' :: rest) = startsTemplate cs := by
  cases cs with
  | nil => rfl
  | cons c cs =>
    rw [List.flatMap_cons]
    obtain ⟨hkept, -⟩ | ⟨d, hescaped, -, -, hnone⟩ := escapeChar_cases c
    · rw [hkept]
      rfl
    · rw [hescaped, hnone cs]
      rfl

/-- An escaped text is read back unless it has a template. -/
lemma readText?_escape (l : Language) (cs rest : List Char) :
    l.readText? (cs.flatMap escapeChar ++ '"' :: rest) =
      if l.hasTemplates ∧ HasTemplate cs then none else some (cs, rest) := by
  induction cs with
  | nil => simp [readText?, HasTemplate]
  | cons c cs ih =>
    rw [List.flatMap_cons, List.append_assoc]
    simp only [hasTemplate_cons]
    obtain ⟨hkept, hplain⟩ | ⟨d, hescaped, hback, hdollar, -⟩ := escapeChar_cases c
    · rw [hkept, List.singleton_append, readText?_cons hplain, startsTemplate_escape, ih]
      simp only [and_or_left]
      by_cases hstart : l.hasTemplates = true ∧ c = '$' ∧ startsTemplate cs = true
      · simp [hstart]
      · simp only [hstart, if_false, false_or]
        split <;> rfl
    · rw [hescaped]
      change l.readText? ('\\' :: d :: (cs.flatMap escapeChar ++ '"' :: rest)) = _
      rw [readText?, hback, ih]
      simp only [hdollar, false_and, false_or]
      split <;> rfl

/-- The literal of an expression is read from its opening quote on. -/
lemma soleText?_eq (l : Language) {expression before rest : List Char}
    (h : expression = before ++ '"' :: rest) (hbefore : '"' ∉ before) :
    l.soleText? (String.ofList expression) = (l.readText? rest).bind fun r =>
      if '"' ∈ r.2 then none else some (String.ofList r.1) := by
  have hdrop : expression.dropWhile (· != '"') = '"' :: rest := by
    rw [h, List.dropWhile_append_of_pos fun c hc => by
      simpa using fun heq : c = '"' => hbefore (heq ▸ hc)]
    rfl
  rw [soleText?, String.toList_ofList, hdrop]
  simp only
  cases l.readText? rest <;> rfl

/-- **An escaped text is read back unless it has a template.** -/
theorem soleText?_escape (l : Language) {before after : List Char} (hbefore : '"' ∉ before)
    (hafter : '"' ∉ after) (text : String) :
    l.soleText? (String.ofList (before ++ '"' :: ((escape text).toList ++ '"' :: after))) =
      some text ↔ ¬(l.hasTemplates ∧ HasTemplate text.toList) := by
  rw [l.soleText?_eq rfl hbefore, escape, String.toList_ofList, readText?_escape]
  split
  · simp_all
  · simp_all

/-! ## Texts as they stand -/

/-- What stands before the last quote of a text. -/
lemma eq_of_append_quote {cs ds after after' : List Char} (hafter : '"' ∉ after)
    (hafter' : '"' ∉ after') (h : cs ++ '"' :: after = ds ++ '"' :: after') : cs = ds := by
  obtain ⟨between, hcs, hds⟩ | ⟨between, hcs, hds⟩ := List.append_eq_append_iff.1 h
  all_goals
    cases between with
    | nil => simp_all
    | cons => simp_all

/-- A text in which nothing has a meaning of its own is read as it stands. -/
lemma readText?_of_isPlain (h : IsPlain cs) (hnone : ¬(l.hasTemplates ∧ HasTemplate cs)) :
    l.readText? (cs ++ '"' :: rest) = some (cs, rest) := by
  induction cs with
  | nil => rfl
  | cons c cs ih =>
    rw [hasTemplate_cons, and_or_left, not_or] at hnone
    rw [List.cons_append, readText?_cons (h c List.mem_cons_self), startsTemplate_append_quote,
      if_neg hnone.1, ih (fun d hd => h d (List.mem_cons_of_mem _ hd)) hnone.2]
    rfl

/-- What is read has no more characters than stand there; if it has as many, then they stand for
themselves. -/
lemma readText?_spec {text after : List Char} (h : l.readText? cs = some (text, after)) :
    ∃ body, cs = body ++ '"' :: after ∧ text.length ≤ body.length ∧
      (text.length = body.length → text = body ∧ IsPlain body ∧
        ¬(l.hasTemplates ∧ HasTemplate body)) := by
  fun_induction readText? l cs generalizing text after with
  | case1 | case3 | case5 => cases h
  | case2 rest =>
    obtain ⟨rfl, rfl⟩ : [] = text ∧ rest = after := by simpa using h
    exact ⟨[], rfl, le_rfl, fun _ => ⟨rfl, nofun, fun h => h.2⟩⟩
  | case4 c rest ih =>
    -- Two characters stand for one.
    obtain ⟨d, -, ⟨tail, after'⟩, hrest, heq⟩ := by
      simpa only [Option.bind_eq_bind, Option.bind_eq_some_iff] using h
    obtain ⟨rfl, rfl⟩ : d :: tail = text ∧ after' = after := by simpa using heq
    obtain ⟨body, rfl, hle, -⟩ := ih hrest
    exact ⟨'\\' :: c :: body, rfl, by simp; omega, fun hlength => by simp at hlength; omega⟩
  | case6 c rest hquote hlone hescape hplain ih =>
    obtain ⟨⟨tail, after'⟩, hrest, heq⟩ := by
      simpa only [Option.bind_eq_bind, Option.bind_eq_some_iff] using h
    obtain ⟨rfl, rfl⟩ : c :: tail = text ∧ after' = after := by simpa using heq
    obtain ⟨body, rfl, hle, hsame⟩ := ih hrest
    refine ⟨c :: body, rfl, by simpa using hle, fun hlength => ?_⟩
    obtain ⟨rfl, hbody, hnone⟩ := hsame (by simpa using hlength)
    have hbackslash : c ≠ '\\' := fun hc => by
      cases tail with
      | nil => exact hescape _ _ hc rfl
      | cons => exact hescape _ _ hc rfl
    rw [startsTemplate_append_quote] at hplain
    simp only [not_or] at hplain
    refine ⟨rfl, fun e he => ?_, fun htemplate => ?_⟩
    · obtain rfl | he := List.mem_cons.1 he
      · simp [hbackslash, hplain.1, hplain.2.1, show e ≠ '"' from hquote]
      · exact hbody e he
    · obtain hstart | hlater := hasTemplate_cons.1 htemplate.2
      · exact hplain.2.2 ⟨htemplate.1, hstart⟩
      · exact hnone ⟨htemplate.1, hlater⟩

/-- **A text that stands between the quotes as it is is read back just if nothing in it has a
meaning of its own.** -/
theorem soleText?_eq_some_iff (l : Language) {before after : List Char} (hbefore : '"' ∉ before)
    (hafter : '"' ∉ after) (text : String) :
    l.soleText? (String.ofList (before ++ '"' :: (text.toList ++ '"' :: after))) = some text ↔
      IsPlain text.toList ∧ ¬(l.hasTemplates ∧ HasTemplate text.toList) := by
  rw [l.soleText?_eq rfl hbefore]
  constructor
  · intro h
    obtain ⟨⟨read, rest⟩, hread, hrest⟩ := Option.bind_eq_some_iff.1 h
    obtain ⟨hquote, rfl⟩ : '"' ∉ rest ∧ String.ofList read = text := by
      simpa using hrest
    obtain ⟨body, hbody, -, hsame⟩ := readText?_spec hread
    -- The closing quote is the last quote there is.
    obtain rfl := eq_of_append_quote hafter hquote hbody
    exact (hsame (by simp)).2
  · rintro ⟨hplain, hnone⟩
    rw [readText?_of_isPlain hplain hnone]
    simp [hafter]

end Language

open Text

/-! ## Kinds of literals -/

/-- The scalars whose defaults are written with one literal. -/
inductive LiteralKind where
  | string
  | uri
  | uuid
  | double
deriving DecidableEq

/-- The kind of the literals of a type. The spelling of a number goes first, then the flags. -/
def TypeFacts.literalKind? (f : TypeFacts) : Option LiteralKind :=
  match NumberKind.ofType? f.dataType with
  | some .double => some .double
  | some _ => none
  | none =>
    if f.flags.isUri then some .uri
    else if f.flags.isUuid then some .uuid
    else if f.flags.isDate || f.flags.isDateTime then none
    else if f.flags.isString || f.dataType == "String" then some .string
    else none

namespace Language

/-- The literal of an expression is the default. A text has to be that of the default, and a number
its value if the default is a number. -/
def Reads (l : Language) (kind : LiteralKind) (init : String) (v : Json) : Prop :=
  match kind with
  | .string | .uri | .uuid => l.soleText? init = some v.plainText
  | .double => ∀ n, v = .number n → ∃ d, l.readDouble? init.toList = some d ∧ d.Denotes n

/-- Nothing in a default is changed by its literal. -/
def Keeps (l : Language) (kind : LiteralKind) (v : Json) : Prop :=
  match kind with
  | .string | .uri => ¬(l.hasTemplates ∧ HasTemplate v.plainText.toList)
  | .uuid => IsPlain v.plainText.toList ∧ ¬(l.hasTemplates ∧ HasTemplate v.plainText.toList)
  | .double => ∀ n, v = .number n → ¬(l = .kotlin ∧ n.HasBareExponent)

/-- The expression of a default. -/
def defaultLiteral (l : Language) (kind : LiteralKind) (text : String) : String :=
  match kind with
  | .string => Dialect.stringLiteral text
  | .uri => l.dialect.uriLiteral text
  | .uuid => l.dialect.uuidLiteral text
  | .double => l.dialect.numberLiteral text .double

variable {l : Language} {kind : LiteralKind} {v : Json}

/-- The default stands in quotes, escaped if it is not an identifier, and no other quote is there. -/
lemma exists_defaultLiteral_eq (l : Language) (hkind : kind ≠ .double) (text : String) :
    ∃ before after : List Char, '"' ∉ before ∧ '"' ∉ after ∧
      l.defaultLiteral kind text = String.ofList (before ++
        '"' :: ((if kind = .uuid then text else escape text).toList ++ '"' :: after)) := by
  cases kind with
  | double => exact absurd rfl hkind
  | string => exact ⟨[], [], by decide, by decide, String.toList_injective (by
      simp [defaultLiteral, Dialect.stringLiteral])⟩
  | uri =>
    cases l with
    | java => exact ⟨"URI.create(".toList, [')'], by decide, by decide, String.toList_injective (by
        simp [defaultLiteral, Language.dialect, Dialect.java])⟩
    | kotlin =>
      exact ⟨"java.net.URI.create(".toList, [')'], by decide, by decide, String.toList_injective (by
        simp [defaultLiteral, Language.dialect, Dialect.kotlin])⟩
  | uuid =>
    refine ⟨"UUID.fromString(".toList, [')'], by decide, by decide, String.toList_injective ?_⟩
    cases l <;> simp [defaultLiteral, Language.dialect, Dialect.java, Dialect.kotlin]

/-- **The literal of a default is the default exactly if nothing in it is changed.** -/
theorem reads_defaultLiteral_iff (l : Language) (kind : LiteralKind) {v : Json}
    (hv : ∀ n, v = .number n → n.Proper) :
    l.Reads kind (l.defaultLiteral kind v.plainText) v ↔ l.Keeps kind v := by
  by_cases hkind : kind = .double
  · subst hkind
    refine forall_congr' fun n => forall_congr' fun hn => ?_
    subst hn
    exact n.readDouble?_numberLiteral_iff l (hv n rfl)
  · obtain ⟨before, after, hbefore, hafter, htext⟩ := l.exists_defaultLiteral_eq hkind v.plainText
    cases kind with
    | double => exact absurd rfl hkind
    | string | uri => rw [Reads, htext, Keeps]; exact l.soleText?_escape hbefore hafter _
    | uuid => rw [Reads, htext, Keeps]; exact l.soleText?_eq_some_iff hbefore hafter _

end Language

/-! ## Defaults -/

namespace Setup

variable {setup : Setup} {c : Components} {ref : SchemaRef} {t : ResolvedType} {v : Json}

/-- A schema gives a default that is written by its type alone: it is neither a collection nor an
enumeration, nor a character or a truth value. -/
structure HasDefault (c : Components) (ref : SchemaRef) (t : ResolvedType) (v : Json) : Prop where
  leads : ∃ key target, c.resolveSchema ref = .ok (key, target) ∧
    target.keywords.defaultValue = some v ∧ target.isEnum = false
  isArray : t.facts.isArray = false
  isMap : t.facts.isMap = false
  isEnumRef : t.facts.isEnumRef = false
  isChar : t.facts.flags.isChar = false
  isBoolean : t.facts.flags.isBoolean = false

/-- The default of a scalar is written with one literal. -/
lemma exists_scalarDefault_eq {l : Language} (hl : setup.dialect = l.dialect)
    (hchar : t.facts.flags.isChar = false) (hboolean : t.facts.flags.isBoolean = false)
    {kind : LiteralKind} (hkind : t.facts.literalKind? = some kind) :
    ∃ plain, setup.scalarDefault t v =
      pure ⟨some (l.defaultLiteral kind v.plainText), some plain⟩ := by
  rw [scalarDefault]
  simp only [hchar, hboolean, hl]
  rw [TypeFacts.literalKind?] at hkind
  cases hnumber : NumberKind.ofType? t.facts.dataType with
  | some number =>
    rw [hnumber] at hkind
    cases number <;> cases hkind
    exact ⟨_, rfl⟩
  | none =>
    rw [hnumber] at hkind
    by_cases huri : t.facts.flags.isUri
    · obtain rfl : .uri = kind := by simpa [huri] using hkind
      exact ⟨v.plainText, by simp [huri, Language.defaultLiteral]⟩
    · by_cases huuid : t.facts.flags.isUuid
      · obtain rfl : .uuid = kind := by simpa [huri, huuid] using hkind
        exact ⟨v.plainText, by simp [huri, huuid, Language.defaultLiteral]⟩
      · by_cases hday : t.facts.flags.isDate || t.facts.flags.isDateTime
        · simp [huri, huuid, hday] at hkind
        · by_cases hstring : t.facts.flags.isString || t.facts.dataType == "String"
          · obtain rfl : .string = kind := by simpa [huri, huuid, hday, hstring] using hkind
            exact ⟨escape v.plainText, by
              simp [huri, huuid, hday, hstring, Language.defaultLiteral]⟩
          · simp [huri, huuid, hday, hstring] at hkind

/-- **Which defaults are read back.** A scalar with a default of one of these kinds is initialized by
an expression with one literal, and this is the default exactly if nothing in it is changed. -/
theorem reads_defaultValue_iff {l : Language} (hl : setup.dialect = l.dialect)
    (hv : ∀ n, v = .number n → n.Proper) (h : HasDefault c ref t v) {kind : LiteralKind}
    (hkind : t.facts.literalKind? = some kind) (nullable : Bool) (site : DefaultSite) :
    ∃ init plain, (∀ s, setup.defaultValue c ref t nullable site s =
      .ok (⟨some init, some plain⟩, s)) ∧ (l.Reads kind init v ↔ l.Keeps kind v) := by
  obtain ⟨key, target, hleads, hdefault, henum⟩ := h.leads
  obtain ⟨plain, hscalar⟩ := exists_scalarDefault_eq hl h.isChar h.isBoolean (v := v) hkind
  refine ⟨l.defaultLiteral kind v.plainText, plain, fun s => ?_, l.reads_defaultLiteral_iff kind hv⟩
  rw [defaultValue_eq hleads, h.isArray, h.isMap, h.isEnumRef, henum, hdefault]
  simp only [Bool.false_eq_true, if_false, Bool.or_self, hscalar]
  rfl

end Setup

/-! ## Examples -/

namespace Schema

/-- A text of some format with a default. -/
def textWithDefault (format : Option String) (v : Json) : SchemaRef :=
  .inline { keywords := { types := some (.one .string), format, defaultValue := some v } }

/-- A double-precision number with a default. -/
def doubleWithDefault (n : Number) : SchemaRef :=
  .inline { keywords := {
    types := some (.one .number), format := some "double", defaultValue := some (.number n) } }

end Schema

open Schema

/-- A text with a quote, a backslash and an amount in dollars is escaped and read back. -/
theorem Setup.reads_defaultValue_iff_amount : ∃ init plain,
    (∀ s, (Setup.ofCanonical { language := .kotlin }).defaultValue {}
      (textWithDefault none (.string "\"\\\" is $5")) { facts.flags.isString := true } false
        .parameter s = .ok (⟨some init, some plain⟩, s)) ∧
    Language.kotlin.soleText? init = some "\"\\\" is $5" := by
  have hl : (Setup.ofCanonical { language := .kotlin }).dialect = Language.kotlin.dialect := rfl
  have hdefault : Setup.HasDefault {} (textWithDefault none (.string "\"\\\" is $5"))
      { facts.flags.isString := true } (.string "\"\\\" is $5") :=
    ⟨⟨_, _, rfl, rfl, rfl⟩, rfl, rfl, rfl, rfl, rfl⟩
  have hkind : ({ flags.isString := true } : TypeFacts).literalKind? = some .string := rfl
  have hnumber : ∀ n, Json.string "\"\\\" is $5" = .number n → n.Proper := nofun
  obtain ⟨init, plain, heq, hreads⟩ :=
    Setup.reads_defaultValue_iff hl hnumber hdefault hkind false .parameter
  have hplain : ¬HasTemplate "\"\\\" is $5".toList := by decide
  exact ⟨init, plain, heq, hreads.2 fun h => hplain h.2⟩

/-- Pets with a label, a chip and a weight, which have defaults. -/
def Document.labelledPets : Document :=
  ofSchemas [("Pet", ofProperties [
    ("label", textWithDefault none (.string "$name")),
    ("chip", textWithDefault (some "uuid") (.string "a\"b")),
    ("weight", doubleWithDefault (.double (.ofNat false (10 ^ 16))))])]

/-- **Defaults that are lost**: a template in a text, a quote in an identifier, and a number whose
text has an exponent and no point. -/
theorem Document.labelledPets_lost : ∃ program warnings,
    labelledPets.lowered { language := .kotlin } = .ok (program, warnings) ∧
    (program.models.map fun m => m.vars.map (·.initializer)) =
      [[some "\"$name\"", some "UUID.fromString(\"a\"b\")", some "1e+16.0"]] ∧
    Language.kotlin.soleText? "\"$name\"" = none ∧
    Language.kotlin.soleText? "UUID.fromString(\"a\"b\")" = none ∧
    (Language.kotlin.readDouble? "1e+16.0".toList).isNone := by
  obtain ⟨program, warnings, h, hvars⟩ := exists_lowered (d := labelledPets)
    (o := { language := .kotlin })
    (P := fun program => (program.models.map fun m => m.vars.map (·.initializer)) =
      [[some "\"$name\"", some "UUID.fromString(\"a\"b\")", some "1e+16.0"]]) (by decide +kernel)
  exact ⟨program, warnings, h, hvars, by decide +kernel, by decide +kernel, by decide +kernel⟩

end ApiLowering
