import ApiLowering.Proofs.Json.Objects
import ApiLowering.Proofs.Lists
import ApiLowering.Proofs.Schema.Basic
import Mathlib.Data.List.Forall2
import Mathlib.Data.List.Nodup

/-!
# Reading values back

A free-form value can be read as a schema. What comes out is governed by what the value answers: a
textual `$ref` makes it a reference, and otherwise each keyword is read from the answer to its name.

## Main definitions

* `Json.path?` — the path of a value that is read as a reference.
* `Schema.ReadFrom` — how the content of a schema comes from the members it was read from.

## Main results

* `Schema.readNode?_ofJson` — a value is read as the reference under its path, or as a schema
  whose content comes from its members.
* `Schema.every_lawful_of_readNode?` — what is read has unknown keywords with names of their own.
-/

namespace ApiLowering

/-! ## Values as trees -/

namespace Tree

lemma ofItems_eq_map (xs : List Json) : ofItems xs = xs.map ofJson := by
  induction xs with
  | nil => rw [ofItems, List.map_nil]
  | cons x xs ih => rw [ofItems, ih, List.map_cons]

lemma ofMembers_eq_map (es : List (String × Json)) :
    ofMembers es = es.map fun e => (.ofText e.1, ofJson e.2) := by
  induction es with
  | nil => rw [ofMembers, List.map_nil]
  | cons e es ih =>
    obtain ⟨k, v⟩ := e
    rw [ofMembers, ofMember, ih, List.map_cons]

/-- Entries whose keys are texts. -/
def named (ps : List (String × Tree)) : List (Leaf × Tree) := ps.map fun p => (.ofText p.1, p.2)

lemma ofMembers_eq_named (es : List (String × Json)) :
    ofMembers es = named (es.map fun e => (e.1, ofJson e.2)) := by
  rw [ofMembers_eq_map, named, List.map_map]
  rfl

mutual

/-- The tree of a value has no spellings to give up. -/
theorem settle?_ofJson : ∀ v : Json, settle? (ofJson v) = some (ofJson v)
  | .null => rfl
  | .bool _ => rfl
  | .number _ => rfl
  | .string _ => rfl
  | .array xs => by rw [ofJson, settle?, settleItems?_ofItems xs]; rfl
  | .members es => by rw [ofJson, settle?, settleEntries?_ofMembers es]; rfl

theorem settleItems?_ofItems : ∀ xs : List Json, settleItems? (ofItems xs) = some (ofItems xs)
  | [] => by rw [ofItems, settleItems?]
  | x :: xs => by rw [ofItems, settleItems?, settle?_ofJson x, settleItems?_ofItems xs]; rfl

theorem settleEntries?_ofMembers :
    ∀ es : List (String × Json), settleEntries? (ofMembers es) = some (ofMembers es)
  | [] => by rw [ofMembers, settleEntries?]
  | e :: es => by
    rw [ofMembers, settleEntries?, settleEntry?_ofMember e, settleEntries?_ofMembers es]; rfl

theorem settleEntry?_ofMember : ∀ e : String × Json, settleEntry? (ofMember e) = some (ofMember e)
  | (k, v) => by rw [ofMember, settleEntry?, settle?_ofJson v]; rfl

end

lemma text?_ofJson_eq_some {v : Json} {s : String} :
    (ofJson v).text? = some s ↔ v = .string s := by
  cases v <;> simp [ofJson, text?, Leaf.text?, Leaf.ofScalar, Leaf.ofText]

lemma items?_ofJson_eq_some {v : Json} {ts : List Tree} :
    (ofJson v).items? = some ts ↔ ∃ xs, v = .array xs ∧ ts = xs.map ofJson := by
  cases v <;> simp [ofJson, items?, Leaf.isBlank, Leaf.ofScalar, Leaf.ofText, ofItems_eq_map,
    eq_comm]

/-- The texts of a value are those among the items of an array of texts. -/
lemma mem_of_texts?_ofJson {v : Json} {ss : List String} (h : (ofJson v).texts? = some ss) :
    ∃ xs, v = .array xs ∧ ∀ s, s ∈ ss ↔ .string s ∈ xs := by
  rw [texts?, listOf?, Option.bind_eq_some_iff] at h
  obtain ⟨ts, hts, hss⟩ := h
  obtain ⟨xs, rfl, rfl⟩ := items?_ofJson_eq_some.1 hts
  refine ⟨xs, rfl, fun s => ?_⟩
  have hread := forall₂_of_mapM_eq_some hss
  rw [List.forall₂_map_left_iff] at hread
  constructor
  · intro hs
    obtain ⟨x, hx, hxs⟩ := exists_mem_right_of_forall₂ hread hs
    rwa [← text?_ofJson_eq_some.1 hxs]
  · intro hx
    obtain ⟨t, ht, hxt⟩ := exists_mem_left_of_forall₂ hread hx
    rwa [Json.string.inj (text?_ofJson_eq_some.1 hxt)]

/-- A value that comes out as a text was one. -/
lemma eq_string_of_toJson?_ofJson {v : Json} {s : String}
    (h : (ofJson v).toJson? = some (.string s)) : v = .string s := by
  cases v with
  | null => simp [ofJson, toJson?, scalarJson?, Leaf.ofScalar] at h
  | bool b => simp [ofJson, toJson?, scalarJson?, Leaf.ofScalar] at h
  | number n => simp [ofJson, toJson?, scalarJson?, Leaf.ofScalar] at h
  | string t => simpa [ofJson, toJson?, scalarJson?, Leaf.ofText] using h
  | array xs => simp [ofJson, toJson?] at h
  | members es => simp [ofJson, toJson?, Json.object] at h

end Tree

/-! ## Fields of an object -/

namespace Fields

/-- The fields of a record whose keys are texts: the known ones are told apart if none is repeated.
-/
lemma ofEntries?_named (names : List String) (ps : List (String × Tree)) :
    ofEntries? names (Tree.named ps) =
      if ((ps.filter fun p => names.contains p.1).map Prod.fst).Nodup then
        some {
          known := ps.filter fun p => names.contains p.1
          other := Tree.named (ps.filter fun p => !names.contains p.1) }
      else none := by
  induction ps with
  | nil => rfl
  | cons p ps ih =>
    obtain ⟨key, t⟩ := p
    rw [Tree.named, List.map_cons, ofEntries?, ← Tree.named, ih]
    by_cases hkey : names.contains key = true
    · simp only [List.filter_cons, hkey, if_true, Bool.not_true, Bool.false_eq_true, if_false,
        List.map_cons, List.nodup_cons, Leaf.text?_ofText]
      by_cases hnodup : ((ps.filter fun p => names.contains p.1).map Prod.fst).Nodup
      · have hany : (ps.filter fun p => names.contains p.1).any (·.1 == key) = true ↔
            key ∈ (ps.filter fun p => names.contains p.1).map Prod.fst := by
          simp only [List.any_eq_true, beq_iff_eq, List.mem_map]
        rw [if_pos hnodup]
        by_cases hmem : key ∈ (ps.filter fun p => names.contains p.1).map Prod.fst
        · rw [if_neg fun h => h.1 hmem]
          simp only [Option.bind_eq_bind, Option.bind_some, hany.2 hmem, if_true]
        · rw [if_pos ⟨hmem, hnodup⟩]
          simp only [Option.bind_eq_bind, Option.bind_some, mt hany.1 hmem]
          rfl
      · rw [if_neg hnodup, if_neg fun h => hnodup h.2]
        rfl
    · have hkey' : names.contains key = false := by simpa using hkey
      simp only [List.filter_cons, hkey', Bool.false_eq_true, if_false, Bool.not_false, if_true,
        Leaf.text?_ofText]
      split <;> rfl

/-- The fields of an object: the known ones are told apart if none is repeated. -/
lemma ofEntries?_ofMembers (names : List String) (es : List (String × Json)) :
    ofEntries? names (Tree.ofMembers es) =
      if ((es.filter fun e => names.contains e.1).map Prod.fst).Nodup then
        some {
          known := (es.filter fun e => names.contains e.1).map fun e => (e.1, Tree.ofJson e.2)
          other := Tree.ofMembers (es.filter fun e => !names.contains e.1) }
      else none := by
  rw [Tree.ofMembers_eq_named, ofEntries?_named, Tree.ofMembers_eq_named, List.filter_map,
    List.filter_map, List.map_map]
  rfl

/-- The fields with other names come from entries with other names. -/
lemma mem_of_mem_other {names : List String} {es : List (Leaf × Tree)} {f : Fields}
    (h : ofEntries? names es = some f) {e : Leaf × Tree} (he : e ∈ f.other) :
    e ∈ es ∧ ∀ key, e.1.text? = some key → key ∉ names := by
  induction es generalizing f with
  | nil =>
    obtain rfl := Option.some.inj h
    simp at he
  | cons d es ih =>
    obtain ⟨k, v⟩ := d
    simp only [ofEntries?, Option.bind_eq_bind, Option.bind_eq_some_iff] at h
    obtain ⟨rest, hrest, h⟩ := h
    cases hk : k.text? with
    | none =>
      rw [hk] at h
      obtain rfl := Option.some.inj h
      rcases List.mem_cons.1 he with rfl | he
      · exact ⟨by simp, by simp [hk]⟩
      · exact ⟨List.mem_cons_of_mem _ (ih hrest he).1, (ih hrest he).2⟩
    | some key =>
      simp only [hk] at h
      split at h
      · split at h
        · cases h
        · obtain rfl := Option.some.inj h
          exact ⟨List.mem_cons_of_mem _ (ih hrest he).1, (ih hrest he).2⟩
      · rename_i hkey
        obtain rfl := Option.some.inj h
        rcases List.mem_cons.1 he with rfl | he
        · refine ⟨by simp, ?_⟩
          rintro _ hkey'
          rw [hk, Option.some.injEq] at hkey'
          subst hkey'
          simpa using hkey
        · exact ⟨List.mem_cons_of_mem _ (ih hrest he).1, (ih hrest he).2⟩

/-- Each unknown field that is kept comes from an entry with another name. -/
lemma exists_other_of_mem_extensions {names : List String} {es : List (Leaf × Tree)} {f : Fields}
    {extensions : Table Json} (hf : ofEntries? names es = some f)
    (h : f.extensions? = some extensions) {e : String × Json} (he : e ∈ extensions.entries) :
    ∃ d ∈ es, d.1.text? = some e.1 ∧ e.1 ∉ names ∧ d.2.settle?.bind Tree.toJson? = some e.2 := by
  simp only [extensions?, Option.bind_eq_bind, Option.bind_eq_some_iff] at h
  obtain ⟨pairs, hpairs, h⟩ := h
  rw [← Option.some.inj h] at he
  obtain ⟨d, hd, hstep⟩ := exists_mem_right_of_forall₂ (forall₂_of_mapM_eq_some hpairs)
    (Table.mem_of_mem_ofList he)
  simp only [Option.bind_eq_some_iff, Option.pure_def, Option.some.injEq] at hstep
  obtain ⟨key, hkey, t, ht, value, hvalue, rfl⟩ := hstep
  obtain ⟨hmem, hother⟩ := mem_of_mem_other hf hd
  exact ⟨d, hmem, hkey, hother key hkey, by rw [ht]; exact hvalue⟩

/-- Keys that are texts are the names of fields. -/
lemma ofRecord?_named (names : List String) (ps : List (String × Tree)) :
    ofRecord? names (.record (Tree.named ps)) = ofEntries? names (Tree.named ps) := by
  rw [ofRecord?, Tree.entries?, Option.bind_eq_bind, Option.bind_some, mapM_eq_some_self]
  · rfl
  · intro e he
    obtain ⟨p, -, rfl⟩ := List.mem_map.1 he
    rfl

/-- The keys of an object are the names of its fields. -/
lemma ofRecord?_ofMembers (names : List String) (es : List (String × Json)) :
    ofRecord? names (.record (Tree.ofMembers es)) = ofEntries? names (Tree.ofMembers es) := by
  rw [Tree.ofMembers_eq_named, ofRecord?_named]

lemma lookup_known (names : List String) (es : List (String × Json)) {name : String}
    (h : name ∈ names) :
    ((es.filter fun e => names.contains e.1).map fun e => (e.1, Tree.ofJson e.2)).lookup name =
      (Json.lookup name es).map Tree.ofJson := by
  induction es with
  | nil => rfl
  | cons e es ih =>
    obtain ⟨k, v⟩ := e
    rw [Json.lookup]
    by_cases hk : k = name
    · subst hk
      simp [h]
    · rw [if_neg hk, ← ih, List.filter_cons]
      split
      · rw [List.map_cons, List.lookup_cons]
        have : (name == k) = false := by simpa using Ne.symm hk
        rw [this]
      · rfl

/-- Each known field of an object is the answer to its name. -/
lemma get?_ofMembers {names : List String} {es : List (String × Json)} {f : Fields}
    (hf : ofEntries? names (Tree.ofMembers es) = some f) {name : String} (h : name ∈ names) :
    f.get? name = (Json.lookup name es).map Tree.ofJson := by
  rw [ofEntries?_ofMembers] at hf
  split at hf
  · obtain rfl := Option.some.inj hf
    exact lookup_known names es h
  · cases hf

end Fields

/-! ## References -/

namespace Json

/-- The path of a value that is read as a reference: the text under `$ref`, which occurs once. -/
def path? : Json → Option String
  | .members es =>
    match es.filter fun e => e.1 == "$ref" with
    | [(_, .string path)] => some path
    | _ => none
  | _ => none

lemma filter_eq_toList_lookup {es : List (String × Json)} (h : (es.map Prod.fst).Nodup)
    (key : String) :
    es.filter (fun e => e.1 == key) = (lookup key es).toList.map fun v => (key, v) := by
  induction es with
  | nil => rfl
  | cons e es ih =>
    obtain ⟨k, v⟩ := e
    rw [List.map_cons, List.nodup_cons] at h
    rw [List.filter_cons, lookup, ih h.2]
    by_cases hk : k = key
    · subst hk
      rw [lookup_eq_none_iff.2 h.1]
      simp
    · simp [hk]

/-- Where no key is repeated, the path is the textual answer to `$ref`. -/
lemma path?_of_nodup {es : List (String × Json)} (h : (es.map Prod.fst).Nodup) :
    (members es).path? = (lookup "$ref" es).bind string? := by
  rw [path?, filter_eq_toList_lookup h]
  rcases lookup "$ref" es with - | v
  · rfl
  · cases v <;> rfl

end Json

/-- The path of an object of values is that of its members. -/
lemma Reference.path?_ofMembers (es : List (String × Json)) :
    Reference.path? (Tree.ofMembers es) = (Json.members es).path? := by
  have hcontains : (fun e : String × Json => ["$ref"].contains e.1) = fun e => e.1 == "$ref" := by
    funext e
    rw [List.contains_cons, List.contains_nil, Bool.or_false]
  rw [Reference.path?, Fields.ofRecord?_ofMembers, Fields.ofEntries?_ofMembers, hcontains,
    Json.path?]
  have hmem : ∀ e ∈ es.filter fun e => e.1 == "$ref", e.1 = "$ref" :=
    fun e he => by simpa using (List.mem_filter.1 he).2
  generalize es.filter (fun e => e.1 == "$ref") = found at hmem ⊢
  match found, hmem with
  | [], _ => rfl
  | [(k, v)], hmem =>
    have hk : k = "$ref" := hmem (k, v) (by simp)
    subst hk
    cases v <;> rfl
  | e :: f :: rest, hmem =>
    simp [hmem e (by simp), hmem f (by simp)]

/-! ## Keywords -/

namespace Keywords

/-- The required names and the unknown keywords, as they are read from fields. -/
lemma read?_eq_some {es : List (Leaf × Tree)} {k : Keywords} (h : read? es = some k) :
    ∃ f, Fields.ofEntries? (names ++ childNames) es = some f ∧
      f.defaulted? "required" Tree.texts? [] = some k.required ∧
      f.extensions? = some k.extensions := by
  obtain ⟨f, hf, h⟩ := Option.bind_eq_some_iff.1 h
  -- seven keywords before the required names, eighteen after them
  iterate 7 obtain ⟨_, -, h⟩ := Option.bind_eq_some_iff.1 h
  obtain ⟨required, hrequired, h⟩ := Option.bind_eq_some_iff.1 h
  iterate 18 obtain ⟨_, -, h⟩ := Option.bind_eq_some_iff.1 h
  obtain ⟨extensions, hextensions, h⟩ := Option.bind_eq_some_iff.1 h
  obtain rfl := Option.some.inj h
  exact ⟨f, hf, hrequired, hextensions⟩

/-- Each unknown keyword comes from an entry with a name of its own. -/
lemma exists_entry_of_mem_extensions {es : List (Leaf × Tree)} {k : Keywords}
    (h : read? es = some k) {e : String × Json} (he : e ∈ k.extensions.entries) :
    ∃ f ∈ es, f.1.text? = some e.1 ∧ e.1 ∉ names ++ childNames ∧
      (f.2.settle?.bind Tree.toJson?) = some e.2 := by
  obtain ⟨fields, hfields, -, hextensions⟩ := read?_eq_some h
  exact Fields.exists_other_of_mem_extensions hfields hextensions he

/-- What is read has unknown keywords with names of their own. -/
lemma fresh_of_read? {es : List (Leaf × Tree)} {k : Keywords} (h : read? es = some k) :
    k.Fresh := by
  intro e he
  obtain ⟨f, -, -, hnames, -⟩ := exists_entry_of_mem_extensions h he
  exact hnames

end Keywords

/-! ## Schemas -/

namespace Schema

/-- The children of an object are read from the answers to their names. -/
lemma readChildren?_ofMembers {es : List (String × Json)} {s : Schema}
    (h : readChildren? (Tree.ofMembers es) = some s) :
    (Json.lookup "properties" es).elim (some ⟨[]⟩) (fun v => readTable? (Tree.ofJson v)) =
        some s.properties ∧
      (Json.lookup "allOf" es).elim (some []) (fun v => readList? (Tree.ofJson v)) =
        some s.allOf ∧
      (Json.lookup "oneOf" es).elim (some []) (fun v => readList? (Tree.ofJson v)) =
        some s.oneOf ∧
      (Json.lookup "anyOf" es).elim (some []) (fun v => readList? (Tree.ofJson v)) =
        some s.anyOf ∧
      (Json.lookup "items" es).elim (some none)
          (fun v => optional? (Tree.ofJson v) (readNode? (Tree.ofJson v))) = some s.items ∧
      (Json.lookup "not" es).elim (some none)
          (fun v => optional? (Tree.ofJson v) (readNode? (Tree.ofJson v))) = some s.negated ∧
      (Json.lookup "additionalProperties" es).elim (some none)
          (fun v => additional? (Tree.ofJson v) (readNode? (Tree.ofJson v))) =
        some s.additional := by
  induction es generalizing s with
  | nil =>
    rw [Tree.ofMembers, readChildren?] at h
    obtain rfl := Option.some.inj h
    exact ⟨rfl, rfl, rfl, rfl, rfl, rfl, rfl⟩
  | cons e es ih =>
    obtain ⟨k, v⟩ := e
    rw [Tree.ofMembers, Tree.ofMember, readChildren?, Option.bind_eq_bind,
      Option.bind_eq_some_iff] at h
    obtain ⟨rest, hrest, h⟩ := h
    obtain ⟨hproperties, hallOf, honeOf, hanyOf, hitems, hnot, hadditional⟩ := ih hrest
    rw [readChild?] at h
    split at h
    case h_1 hk | h_2 hk | h_3 hk | h_4 hk | h_5 hk | h_6 hk | h_7 hk =>
      simp only [Leaf.text?_ofText, Option.some.injEq] at hk
      obtain ⟨child, hchild, rfl⟩ := Option.map_eq_some_iff.1 h
      simp_all [Json.lookup]
    case h_8 hp hi hn hv ha ho hy =>
      obtain rfl := Option.some.inj h
      have hskip {name : String} (hname : (Leaf.ofText k).text? = some name → False) :
          Json.lookup name ((k, v) :: es) = Json.lookup name es := by
        rw [Json.lookup, if_neg fun hk => hname (by rw [hk, Leaf.text?_ofText])]
      rw [hskip hp, hskip hi, hskip hn, hskip hv, hskip ha, hskip ho, hskip hy]
      exact ⟨hproperties, hallOf, honeOf, hanyOf, hitems, hnot, hadditional⟩

/-- The entries of a table are read from the members of the object. -/
lemma forall₂_of_readEntries?_ofMembers {ps : List (String × Json)}
    {es : List (String × SchemaRef)} (h : readEntries? (Tree.ofMembers ps) = some es) :
    List.Forall₂ (fun p e => p.1 = e.1 ∧ readNode? (Tree.ofJson p.2) = some e.2) ps es := by
  induction ps generalizing es with
  | nil =>
    rw [Tree.ofMembers, readEntries?] at h
    obtain rfl := Option.some.inj h
    exact .nil
  | cons p ps ih =>
    obtain ⟨k, v⟩ := p
    rw [Tree.ofMembers, Tree.ofMember, readEntries?] at h
    simp only [Leaf.text?_ofText, readEntry?, Option.bind_eq_bind, Option.bind_some,
      Option.bind_eq_some_iff, Option.pure_def, Option.some.injEq] at h
    obtain ⟨_, ⟨r, hr, rfl⟩, rest, hrest, rfl⟩ := h
    exact .cons ⟨rfl, hr⟩ (ih hrest)

/-- The keys of a table are those of the object it was read from. -/
lemma mem_keys_of_readTable?_ofJson {v : Json} {t : Table SchemaRef}
    (h : readTable? (Tree.ofJson v) = some t) :
    ∃ ps, v = .members ps ∧ ∀ n, n ∈ t.keys ↔ n ∈ ps.map Prod.fst := by
  cases v <;> simp only [Tree.ofJson, readTable?, reduceCtorEq] at h
  case members ps =>
    obtain ⟨es, hes, rfl⟩ := Option.map_eq_some_iff.1 h
    refine ⟨ps, rfl, fun n => ?_⟩
    have hkeys : List.Forall₂ Eq (ps.map Prod.fst) (es.map Prod.fst) := by
      rw [List.forall₂_map_left_iff, List.forall₂_map_right_iff]
      exact (forall₂_of_readEntries?_ofMembers hes).imp fun _ _ h => h.1
    rw [List.forall₂_eq_eq_eq] at hkeys
    rw [Table.mem_keys_ofList, hkeys]

/-- The items of a list are read from those of the array. -/
lemma forall₂_of_readList?_ofJson {v : Json} {rs : List SchemaRef}
    (h : readList? (Tree.ofJson v) = some rs) :
    ∃ xs, v = .array xs ∧
      List.Forall₂ (fun x r => readNode? (Tree.ofJson x) = some r) xs rs := by
  cases v <;> simp only [Tree.ofJson, readList?, reduceCtorEq] at h
  case array xs =>
    refine ⟨xs, rfl, ?_⟩
    induction xs generalizing rs with
    | nil =>
      rw [Tree.ofItems, readItems?] at h
      obtain rfl := Option.some.inj h
      exact .nil
    | cons x xs ih =>
      simp only [Tree.ofItems, readItems?, Option.bind_eq_bind, Option.bind_eq_some_iff,
        Option.pure_def, Option.some.injEq] at h
      obtain ⟨r, hr, rest, hrest, rfl⟩ := h
      exact .cons hr (ih hrest)

/-- How the content of a schema comes from the value it was read from. -/
structure ReadFrom (v : Json) (s : Schema) : Prop where
  properties : ∀ n, n ∈ s.properties.keys ↔ n ∈ v.keysAt "properties"
  required : ∀ n, n ∈ s.keywords.required ↔ .string n ∈ v.itemsAt "required"
  parts : List.Forall₂ (fun x r => readNode? (Tree.ofJson x) = some r) (v.itemsAt "allOf") s.allOf
  oneOf : List.Forall₂ (fun x r => readNode? (Tree.ofJson x) = some r) (v.itemsAt "oneOf") s.oneOf
  anyOf : List.Forall₂ (fun x r => readNode? (Tree.ofJson x) = some r) (v.itemsAt "anyOf") s.anyOf
  fresh : s.keywords.Fresh
  /-- A textual `$ref` among the unknown keywords was one of the members. -/
  stray : ∀ path, ("$ref", .string path) ∈ s.keywords.extensions.entries →
    ∃ es, v = .members es ∧ ("$ref", .string path) ∈ es

lemma forall₂_of_lookup {es : List (String × Json)} {key : String} {rs : List SchemaRef}
    (h : (Json.lookup key es).elim (some []) (fun v => readList? (Tree.ofJson v)) = some rs) :
    List.Forall₂ (fun x r => readNode? (Tree.ofJson x) = some r)
      ((Json.members es).itemsAt key) rs := by
  rw [Json.itemsAt, Json.get?]
  cases hv : Json.lookup key es with
  | none =>
    simp only [hv, Option.elim_none, Option.some.injEq] at h
    rw [← h]
    exact .nil
  | some v =>
    simp only [hv, Option.elim_some] at h
    obtain ⟨xs, rfl, hxs⟩ := forall₂_of_readList?_ofJson h
    exact hxs

lemma readFrom_of_read {es : List (String × Json)} {k : Keywords} {s : Schema}
    (hk : Keywords.read? (Tree.ofMembers es) = some k)
    (hs : readChildren? (Tree.ofMembers es) = some s) :
    ReadFrom (.members es) { s with keywords := k } where
  properties n := by
    obtain ⟨h, -⟩ := readChildren?_ofMembers hs
    rw [Json.keysAt, Json.get?]
    cases hv : Json.lookup "properties" es with
    | none =>
      simp only [hv, Option.elim_none, Option.some.injEq] at h
      simp [← h, Table.keys]
    | some v =>
      simp only [hv, Option.elim_some] at h
      obtain ⟨ps, rfl, hps⟩ := mem_keys_of_readTable?_ofJson h
      exact hps n
  required n := by
    obtain ⟨f, hf, hrequired, -⟩ := Keywords.read?_eq_some hk
    rw [Fields.defaulted?, Fields.get?_ofMembers hf (by decide)] at hrequired
    rw [Json.itemsAt, Json.get?]
    cases hv : Json.lookup "required" es with
    | none =>
      simp only [hv, Option.map_none, Option.some.injEq] at hrequired
      simp [← hrequired]
    | some v =>
      simp only [hv, Option.map_some] at hrequired
      obtain ⟨xs, rfl, hxs⟩ := Tree.mem_of_texts?_ofJson hrequired
      exact hxs n
  parts := forall₂_of_lookup (readChildren?_ofMembers hs).2.1
  oneOf := forall₂_of_lookup (readChildren?_ofMembers hs).2.2.1
  anyOf := forall₂_of_lookup (readChildren?_ofMembers hs).2.2.2.1
  fresh := Keywords.fresh_of_read? hk
  stray path hpath := by
    obtain ⟨f, hf, hkey, -, hvalue⟩ := Keywords.exists_entry_of_mem_extensions hk hpath
    rw [Tree.ofMembers_eq_map, List.mem_map] at hf
    obtain ⟨⟨key, v⟩, hmem, rfl⟩ := hf
    rw [Tree.settle?_ofJson, Option.bind_some] at hvalue
    rw [Leaf.text?_ofText, Option.some.injEq] at hkey
    obtain rfl := hkey
    obtain rfl := Tree.eq_string_of_toJson?_ofJson hvalue
    exact ⟨es, rfl, hmem⟩

/-- A value is read as the reference under its path, or else as a schema whose content comes from
the value. -/
theorem readNode?_ofJson {v : Json} {r : SchemaRef} (h : readNode? (Tree.ofJson v) = some r) :
    (∃ path, v.path? = some path ∧ r = .ref path) ∨
      (v.path? = none ∧ ∃ s, r = .inline s ∧ ReadFrom v s) := by
  cases v <;> simp only [Tree.ofJson, readNode?, reduceCtorEq] at h
  case members es =>
    rw [Reference.path?_ofMembers] at h
    cases hpath : (Json.members es).path? with
    | some path =>
      simp only [hpath, Option.some.injEq] at h
      exact .inl ⟨path, rfl, h.symm⟩
    | none =>
      simp only [hpath, Option.bind_eq_bind, Option.bind_eq_some_iff] at h
      obtain ⟨k, hk, s, hs, h⟩ := h
      obtain rfl := Option.some.inj h
      exact .inr ⟨rfl, _, rfl, readFrom_of_read hk hs⟩

/-! ## Any tree -/

lemma mem_of_readItems? {ts : List Tree} {rs : List SchemaRef} (h : readItems? ts = some rs)
    {r : SchemaRef} (hr : r ∈ rs) : ∃ t, readNode? t = some r := by
  induction ts generalizing rs with
  | nil =>
    rw [readItems?] at h
    obtain rfl := Option.some.inj h
    simp at hr
  | cons t ts ih =>
    simp only [readItems?, Option.bind_eq_bind, Option.bind_eq_some_iff, Option.pure_def,
      Option.some.injEq] at h
    obtain ⟨q, hq, rest, hrest, rfl⟩ := h
    rcases List.mem_cons.1 hr with rfl | hr
    · exact ⟨t, hq⟩
    · exact ih hrest hr

lemma mem_of_readList? {t : Tree} {rs : List SchemaRef} (h : readList? t = some rs)
    {r : SchemaRef} (hr : r ∈ rs) : ∃ t, readNode? t = some r := by
  cases t with
  | list ts positional =>
    rw [readList?] at h
    exact mem_of_readItems? h hr
  | _ => simp [readList?] at h

lemma mem_of_readEntries? {es : List (Leaf × Tree)} {ps : List (String × SchemaRef)}
    (h : readEntries? es = some ps) {p : String × SchemaRef} (hp : p ∈ ps) :
    ∃ t, readNode? t = some p.2 := by
  induction es generalizing ps with
  | nil =>
    rw [readEntries?] at h
    obtain rfl := Option.some.inj h
    simp at hp
  | cons e es ih =>
    obtain ⟨k, t⟩ := e
    simp only [readEntries?, readEntry?, Option.bind_eq_bind, Option.bind_eq_some_iff,
      Option.pure_def, Option.some.injEq] at h
    obtain ⟨_, ⟨key, hkey, q, hq, rfl⟩, rest, hrest, rfl⟩ := h
    rcases List.mem_cons.1 hp with rfl | hp
    · exact ⟨t, hq⟩
    · exact ih hrest hp

lemma mem_of_readTable? {t : Tree} {ps : Table SchemaRef} (h : readTable? t = some ps)
    {r : SchemaRef} (hr : r ∈ ps.values) : ∃ t, readNode? t = some r := by
  cases t with
  | record es =>
    rw [readTable?, Option.map_eq_some_iff] at h
    obtain ⟨entries, hentries, rfl⟩ := h
    obtain ⟨p, hp, rfl⟩ := List.mem_map.1 hr
    exact mem_of_readEntries? hentries (Table.mem_of_mem_ofList hp)
  | _ => simp [readTable?] at h

lemma of_optional? {t : Tree} {node : Option SchemaRef} {r : SchemaRef}
    (h : optional? t node = some (some r)) : node = some r := by
  unfold optional? at h
  split at h <;> simp_all

lemma of_additional? {t : Tree} {node : Option SchemaRef} {r : SchemaRef}
    (h : additional? t node = some (some (.values r))) : node = some r := by
  unfold additional? at h
  split at h <;> simp_all

/-- The children of a schema that was read were read, too. -/
lemma exists_readNode?_of_mem_children {es : List (Leaf × Tree)} {s : Schema}
    (h : readChildren? es = some s) {r : SchemaRef} (hr : r ∈ s.children) :
    ∃ t, readNode? t = some r := by
  induction es generalizing s r with
  | nil =>
    rw [readChildren?] at h
    obtain rfl := Option.some.inj h
    simp [children, Table.values] at hr
  | cons e es ih =>
    obtain ⟨k, t⟩ := e
    rw [readChildren?, Option.bind_eq_bind, Option.bind_eq_some_iff] at h
    obtain ⟨rest, hrest, h⟩ := h
    have hrest' : ∀ q ∈ rest.children, ∃ t, readNode? t = some q := fun q hq => ih hrest hq
    simp only [mem_children] at hr hrest'
    rw [readChild?] at h
    -- the one keyword that was read holds a new child, all others are those of the rest
    split at h
    case h_1 =>
      obtain ⟨ps, hps, rfl⟩ := Option.map_eq_some_iff.1 h
      rcases hr with hr | hr
      · exact mem_of_readTable? hps hr
      · exact hrest' r (.inr hr)
    case h_2 =>
      obtain ⟨o, ho, rfl⟩ := Option.map_eq_some_iff.1 h
      rcases hr with hr | rfl | hr
      · exact hrest' r (.inl hr)
      · exact ⟨t, of_optional? ho⟩
      · exact hrest' r (.inr (.inr hr))
    case h_3 =>
      obtain ⟨o, ho, rfl⟩ := Option.map_eq_some_iff.1 h
      rcases hr with hr | hr | hr | rfl | hr
      · exact hrest' r (.inl hr)
      · exact hrest' r (.inr (.inl hr))
      · exact hrest' r (.inr (.inr (.inl hr)))
      · exact ⟨t, of_optional? ho⟩
      · exact hrest' r (.inr (.inr (.inr (.inr hr))))
    case h_4 =>
      obtain ⟨o, ho, rfl⟩ := Option.map_eq_some_iff.1 h
      rcases hr with hr | hr | rfl | hr
      · exact hrest' r (.inl hr)
      · exact hrest' r (.inr (.inl hr))
      · exact ⟨t, of_additional? ho⟩
      · exact hrest' r (.inr (.inr (.inr hr)))
    case h_5 | h_6 | h_7 =>
      obtain ⟨rs, hrs, rfl⟩ := Option.map_eq_some_iff.1 h
      by_cases hmem : r ∈ rs
      · exact mem_of_readList? hrs hmem
      · refine hrest' r ?_
        simp only [hmem, false_or, or_false] at hr
        tauto
    case h_8 =>
      obtain rfl := Option.some.inj h
      exact hrest' r hr

lemma nodup_keys_of_readTable? {t : Tree} {ps : Table SchemaRef} (h : readTable? t = some ps) :
    ps.keys.Nodup := by
  cases t with
  | record es =>
    rw [readTable?, Option.map_eq_some_iff] at h
    obtain ⟨pairs, -, rfl⟩ := h
    exact Table.nodup_keys_ofList pairs
  | _ => simp [readTable?] at h

/-- No property of a schema that was read is declared twice. -/
lemma nodup_keys_of_readChildren? {es : List (Leaf × Tree)} {s : Schema}
    (h : readChildren? es = some s) : s.properties.keys.Nodup := by
  induction es generalizing s with
  | nil =>
    rw [readChildren?] at h
    obtain rfl := Option.some.inj h
    exact List.nodup_nil
  | cons e es ih =>
    obtain ⟨k, t⟩ := e
    rw [readChildren?, Option.bind_eq_bind, Option.bind_eq_some_iff] at h
    obtain ⟨rest, hrest, h⟩ := h
    have hnodup : rest.properties.keys.Nodup := ih hrest
    rw [readChild?] at h
    split at h
    case h_1 =>
      obtain ⟨ps, hps, rfl⟩ := Option.map_eq_some_iff.1 h
      exact nodup_keys_of_readTable? hps
    case h_8 =>
      obtain rfl := Option.some.inj h
      exact hnodup
    all_goals
      obtain ⟨_, -, rfl⟩ := Option.map_eq_some_iff.1 h
      exact hnodup

/-- A schema that was read is lawful, and so are all schemas below it. -/
theorem every_lawful_of_readNode? {r : SchemaRef} :
    ∀ {t : Tree}, readNode? t = some r → Every Lawful r := by
  induction r using ref_induction with
  | ref path => exact fun _ => .ref path
  | inline s ih =>
    intro t h
    cases t with
    | record es =>
      rw [readNode?] at h
      split at h
      · cases h
      · simp only [Option.bind_eq_bind, Option.bind_eq_some_iff] at h
        obtain ⟨k, hk, s', hs', h⟩ := h
        obtain rfl := Referable.inline.inj (Option.some.inj h)
        have hnodup := nodup_keys_of_readChildren? hs'
        refine .inline ⟨Keywords.fresh_of_read? hk, hnodup⟩ fun r hr => ?_
        obtain ⟨t, ht⟩ := exists_readNode?_of_mem_children hs' hr
        exact ih r hr ht
    | _ => simp [readNode?] at h

end Schema

end ApiLowering
