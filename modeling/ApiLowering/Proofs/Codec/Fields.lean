import ApiLowering.Proofs.Codec.Basic

/-!
# Fields that are written and read

What becomes of the fields of a record on their way. A written record is read with the same known
fields, and with its unknown ones in order. The other way around, the fields of a sound tree are
sound, and its unknown fields are such as they can be written; and if no key is repeated, a textual
`$ref` among them would have made the whole a reference.

## Main definitions

* `Extensions.Tidy`, `Extensions.Straight` — the unknown fields of a record are as readers return
  them, and none of them is a textual reference.

## Main results

* `Fields.exists_written` — the fields of a written record.
* `Fields.sound_of_open?`, `Fields.sound_of_closed?` — the fields of a sound tree are sound.
* `Fields.tidy_extensions` — the unknown fields of a sound tree.
* `Reference.path?_of_stray` — a textual reference among them.
-/

namespace ApiLowering

/-- The unknown fields of a record, as readers return them. -/
structure Extensions.Tidy (names : List String) (extensions : Table Json) : Prop where
  distinct : extensions.keys.Nodup
  fresh : ∀ e ∈ extensions.entries, e.1 ∉ names
  tidy : ∀ e ∈ extensions.entries, e.2.Tidy

/-- No unknown field of a record is a textual reference. -/
def Extensions.Straight (extensions : Table Json) : Prop :=
  ∀ path, ("$ref", .string path) ∉ extensions.entries

lemma Extensions.straight_sortByKey {extensions : Table Json} :
    Extensions.Straight extensions.sortByKey ↔ Extensions.Straight extensions := by
  simp only [Extensions.Straight, extensions.entries_sortByKey_perm.mem_iff]

lemma Extensions.straight_iff {extensions : Table Json} (h : extensions.keys.Nodup) :
    Extensions.Straight extensions ↔
      (Json.lookup "$ref" extensions.entries).bind Json.string? = none := by
  rw [Extensions.Straight, Option.bind_eq_none_iff]
  constructor
  · intro hstraight v hv
    cases v with
    | string path => exact absurd (Json.mem_of_lookup_eq_some hv) (hstraight path)
    | _ => rfl
  · intro hnone path hmem
    cases hnone _ (Json.lookup_eq_some_of_mem h hmem)

namespace Fields

variable {names : List String}

/-! ## Single fields -/

section Single

variable {α β : Type} {read : Tree → Option α} {f g : Fields} {name : String} {t : Tree}

lemma optional?_of_get? (h : f.get? name = some t) : f.optional? name read =
    (do if ← t.isNull? then return none else return some (← read t)) := by
  rw [optional?, h]

lemma defaulted?_of_get? {fallback : α} (h : f.get? name = some t) :
    f.defaulted? name read fallback = read t := by
  rw [defaulted?, h]

lemma optional?_of_missing (h : f.get? name = none) (hf : f.positional = false) :
    f.optional? name read = some none := by
  rw [optional?, h]
  exact if_neg (Bool.eq_false_iff.1 hf)

lemma defaulted?_of_missing {fallback : α} (h : f.get? name = none) :
    f.defaulted? name read fallback = some fallback := by
  rw [defaulted?, h]

lemma optional?_congr (h : f.get? name = g.get? name) (hf : f.positional = g.positional) :
    f.optional? name read = g.optional? name read := by
  rw [optional?, optional?, h, hf]

lemma defaulted?_congr {fallback : α} (h : f.get? name = g.get? name) :
    f.defaulted? name read fallback = g.defaulted? name read fallback := by
  rw [defaulted?, defaulted?, h]

/-- A field that may be missing has a value of its own, or the value for a missing one. -/
lemma exists_of_defaulted? {x fallback : α} (h : f.defaulted? name read fallback = some x) :
    x = fallback ∨ ∃ t, f.get? name = some t ∧ read t = some x := by
  rw [defaulted?] at h
  cases hget : f.get? name with
  | none =>
    rw [hget] at h
    exact .inl (Option.some.inj h).symm
  | some t =>
    rw [hget] at h
    exact .inr ⟨t, rfl, h⟩

/-- A field that is left out if there is no value is read back if the value is. -/
lemma optional?_iff {write : β → Json} {g : β → α} {x : Option β} (hf : f.positional = false)
    (hget : f.get? name = (x.map write).map Tree.ofJson) (hnull : ∀ v ∈ x, write v ≠ .null) :
    f.optional? name read = some (x.map g) ↔ ∀ v ∈ x, read (.ofJson (write v)) = some (g v) := by
  rw [optional?, hget]
  cases x with
  | none => simp [hf]
  | some v =>
    have hisNull : (Tree.ofJson (write v)).isNull? = some false := by
      have hv := hnull v rfl
      cases hwrite : write v <;> first | rfl | exact absurd hwrite hv
    simp only [Option.map_some, hisNull, Option.bind_eq_bind, Option.bind_some,
      Bool.false_eq_true, if_false, Option.mem_some_iff, forall_eq']
    cases read (.ofJson (write v)) <;> simp

/-- A list that is left out if it is empty is read back if its items are. -/
lemma defaulted?_list_iff {write : β → Json} {g : β → α} {xs : List β}
    (hget : f.get? name = (Json.lookup name (Json.listMember name xs write)).map Tree.ofJson) :
    f.defaulted? name (Tree.listOf? read) [] = some (xs.map g) ↔
      ∀ x ∈ xs, read (.ofJson (write x)) = some (g x) := by
  rw [defaulted?, hget, Json.lookup_listMember]
  by_cases hxs : xs = []
  · subst hxs
    rw [if_neg fun h => h.2 rfl]
    exact iff_of_true rfl (List.forall_mem_nil _)
  · rw [if_pos ⟨rfl, hxs⟩]
    exact Tree.listOf?_ofJson_iff

/-- The same for a table, whose keys come back in order. -/
lemma defaulted?_table_iff {write : β → Json} {g : β → α} {x : Table β} (h : x.keys.Nodup)
    (hget : f.get? name = (Json.lookup name (Json.tableMember name x write)).map Tree.ofJson) :
    f.defaulted? name (Tree.table? read) {} = some (x.map g).sortByKey ↔
      ∀ v ∈ x.values, read (.ofJson (write v)) = some (g v) := by
  rw [defaulted?, hget, Json.lookup_tableMember]
  cases hx : x.isEmpty with
  | true =>
    obtain rfl : x = {} := congrArg Table.mk (List.isEmpty_iff.1 hx)
    rw [if_neg (by simp)]
    exact iff_of_true rfl (List.forall_mem_nil _)
  | false =>
    rw [if_pos ⟨rfl, rfl⟩]
    exact Tree.table?_ofTable_iff h

/-- The value of a field that may be missing was read from a part of the tree, which is not null. -/
lemma exists_of_optional? {x : Option α} (h : f.optional? name read = some x) {v : α}
    (hv : v ∈ x) : ∃ t, f.get? name = some t ∧ read t = some v ∧ t.isNull? = some false := by
  obtain rfl := Option.mem_def.1 hv
  rw [optional?] at h
  cases hget : f.get? name with
  | none =>
    rw [hget] at h
    dsimp only at h
    split at h <;> cases h
  | some t =>
    rw [hget] at h
    obtain ⟨missing, hmissing, h⟩ := Option.bind_eq_some_iff.1 h
    cases missing with
    | true => cases h
    | false =>
      obtain ⟨w, hw, h⟩ := Option.bind_eq_some_iff.1 h
      cases h
      exact ⟨t, rfl, hw, hmissing⟩

end Single

/-! ## Written records -/

section Written

variable {es : List (String × Json)} {extensions : Table Json}
  (hnodup : (es.map Prod.fst).Nodup) (hknown : ∀ e ∈ es, e.1 ∈ names)
  (hextensions : Extensions.Tidy names extensions)

include hnodup hknown hextensions

lemma nodup_append : ((es ++ extensions.entries).map Prod.fst).Nodup := by
  rw [List.map_append]
  refine List.nodup_append'.2 ⟨hnodup, hextensions.distinct, fun key hes hext => ?_⟩
  obtain ⟨e, he, rfl⟩ := List.mem_map.1 hes
  obtain ⟨d, hd, heq⟩ := List.mem_map.1 hext
  exact hextensions.fresh d hd (heq ▸ hknown e he)

/-- A written record answers with its known fields, and with its unknown ones for other names. -/
lemma lookup_object (key : String) : Json.lookup key (Json.entered (es ++ extensions.entries)) =
    (Json.lookup key es).or (Json.lookup key extensions.entries) := by
  rw [Json.lookup_entered_of_nodup key (nodup_append hnodup hknown hextensions),
    Json.lookup_append]

/-- The unknown fields of a written record are in order. -/
lemma filter_object : (Json.entered (es ++ extensions.entries)).filter
    (fun e => !names.contains e.1) = extensions.sortByKey.entries := by
  have hall : (Table.mk (es ++ extensions.entries)).keys.Nodup :=
    nodup_append hnodup hknown hextensions
  have hother : (es ++ extensions.entries).filter (fun e => !names.contains e.1) =
      extensions.entries := by
    rw [List.filter_append, List.filter_eq_nil_iff.2 fun e he => by simpa using hknown e he,
      List.nil_append, List.filter_eq_self]
    exact fun e he => by simpa using hextensions.fresh e he
  rw [Json.entered_eq_sortByKey hall]
  refine List.Perm.eq_of_pairwise (fun a b _ _ hab hba => absurd hba hab.asymm)
    ((List.pairwise_map.1 (Table.pairwise_keys_sortByKey hall)).filter _)
    (List.pairwise_map.1 (Table.pairwise_keys_sortByKey hextensions.distinct)) ?_
  refine ((Table.entries_sortByKey_perm _).filter _).trans ?_
  rw [hother]
  exact extensions.entries_sortByKey_perm.symm

omit hnodup hknown hextensions in
/-- Tidy values are kept as they are. -/
lemma extensions?_ofMembers (h : (es.map Prod.fst).Nodup) (htidy : ∀ e ∈ es, e.2.Tidy)
    (known : List (String × Tree)) (positional : Bool) :
    extensions? ⟨known, Tree.ofMembers es, positional⟩ = some ⟨es⟩ := by
  have hread : (Tree.ofMembers es).mapM (fun e : Leaf × Tree => do
      return (← e.1.text?, ← (← e.2.settle?).toJson?)) = some es := by
    rw [Tree.ofMembers_eq_map, List.mapM_map]
    refine mapM_eq_some_self fun e he => ?_
    change (Tree.settle? (.ofJson e.2)).bind _ = _
    rw [Tree.settle?_ofJson, Option.bind_some, Tree.toJson?_ofJson (htidy e he)]
    rfl
  rw [extensions?, hread, Option.bind_eq_bind, Option.bind_some, Table.ofList_of_nodup h]
  rfl

/-- **The fields of a written record**: every known field is there, and the unknown ones follow in
order. -/
theorem exists_written : ∃ f, ofEntries? names (Tree.ofMembers
      (Json.entered (es ++ extensions.entries))) = some f ∧ f.positional = false ∧
    (∀ name ∈ names, f.get? name = (Json.lookup name es).map Tree.ofJson) ∧
      f.extensions? = some extensions.sortByKey := by
  have hentered : ((Json.entered (es ++ extensions.entries)).map Prod.fst).Nodup :=
    (Json.increasing_entered _).nodup
  have hfields := ofEntries?_ofMembers names (Json.entered (es ++ extensions.entries))
  rw [if_pos (hentered.sublist (List.filter_sublist.map _)),
    filter_object hnodup hknown hextensions] at hfields
  refine ⟨_, hfields, rfl, fun name hname => ?_, ?_⟩
  · have hnone : Json.lookup name extensions.entries = none := by
      refine Json.lookup_eq_none_iff.2 fun hmem => ?_
      obtain ⟨e, he, rfl⟩ := List.mem_map.1 hmem
      exact hextensions.fresh e he hname
    rw [get?_ofMembers hfields hname, lookup_object hnodup hknown hextensions, hnone,
      Option.or_none]
  · have hperm := extensions.entries_sortByKey_perm
    refine extensions?_ofMembers ((hperm.map Prod.fst).nodup_iff.2 hextensions.distinct)
      (fun e he => hextensions.tidy e (hperm.mem_iff.1 he)) _ _

/-- A written record is no reference exactly if none of its unknown fields is a textual one. -/
theorem path?_object_iff (hname : "$ref" ∉ names) :
    Reference.path? (Tree.ofMembers (Json.entered (es ++ extensions.entries))) = none ↔
      Extensions.Straight extensions := by
  have hnone : Json.lookup "$ref" es = none := by
    refine Json.lookup_eq_none_iff.2 fun hmem => ?_
    obtain ⟨e, he, heq⟩ := List.mem_map.1 hmem
    exact hname (heq ▸ hknown e he)
  rw [Reference.path?_ofMembers, Json.path?_of_nodup (Json.increasing_entered _).nodup,
    lookup_object hnodup hknown hextensions, hnone, Option.none_or]
  exact (Extensions.straight_iff hextensions.distinct).symm

end Written

/-! ## Read records -/

section Read

variable {k : Soundness} {t : Tree} {f : Fields} {name : String} {u : Tree}

lemma mem_of_get? (h : f.get? name = some u) : (name, u) ∈ f.known := by
  obtain ⟨l₁, l₂, heq, -⟩ := List.lookup_eq_some_iff.1 h
  exact heq ▸ List.mem_append_right _ List.mem_cons_self

lemma positional_of_ofEntries? {es : List (Leaf × Tree)} (h : ofEntries? names es = some f) :
    f.positional = false := by
  induction es generalizing f with
  | nil =>
    obtain rfl := Option.some.inj h
    rfl
  | cons e es ih =>
    obtain ⟨key, v⟩ := e
    simp only [ofEntries?, Option.bind_eq_bind, Option.bind_eq_some_iff] at h
    obtain ⟨rest, hrest, h⟩ := h
    have hpositional : rest.positional = false := ih hrest
    split at h
    · split at h
      · split at h
        · cases h
        · exact Option.some.inj h ▸ hpositional
      · exact Option.some.inj h ▸ hpositional
    · exact Option.some.inj h ▸ hpositional

/-- What an entry adds to the known fields: its own name, which is not repeated, or nothing. -/
lemma get?_cons {key : Leaf} {es : List (Leaf × Tree)} {rest : Fields}
    (hrest : ofEntries? names es = some rest) (h : ofEntries? names ((key, u) :: es) = some f) :
    (∃ own ∈ names, key.text? = some own ∧ rest.get? own = none ∧
      ∀ other, f.get? other = if other = own then some u else rest.get? other) ∨
    (∀ own, key.text? = some own → own ∉ names) ∧ ∀ other, f.get? other = rest.get? other := by
  simp only [ofEntries?, Option.bind_eq_bind, hrest, Option.bind_some] at h
  cases hkey : key.text? with
  | none =>
    rw [hkey] at h
    obtain rfl := Option.some.inj h
    exact .inr ⟨fun own hown => (Option.some_ne_none own hown.symm).elim, fun _ => rfl⟩
  | some own =>
    simp only [hkey] at h
    split at h
    · rename_i hown
      split at h
      · cases h
      · rename_i hnew
        obtain rfl := Option.some.inj h
        refine .inl ⟨own, List.contains_iff_mem.1 hown, rfl, ?_, fun other => ?_⟩
        · refine List.lookup_eq_none_iff.2 fun p hp => bne_iff_ne.2 fun heq => hnew ?_
          exact List.any_eq_true.2 ⟨p, hp, beq_iff_eq.2 heq.symm⟩
        · rw [get?, List.lookup_cons]
          by_cases hother : other = own
          · rw [if_pos hother, beq_iff_eq.2 hother]
          · rw [if_neg hother, beq_false_of_ne hother]
            rfl
    · rename_i hown
      obtain rfl := Option.some.inj h
      refine .inr ⟨fun _ heq => ?_, fun _ => rfl⟩
      rw [← Option.some.inj heq]
      exact fun hmem => hown (List.contains_iff_mem.2 hmem)

/-- A known field is one of the entries. -/
lemma exists_mem_of_mem_known {es : List (Leaf × Tree)} (h : ofEntries? names es = some f)
    {p : String × Tree} (hp : p ∈ f.known) : ∃ e ∈ es, e.2 = p.2 := by
  induction es generalizing f with
  | nil =>
    obtain rfl := Option.some.inj h
    cases hp
  | cons e es ih =>
    obtain ⟨key, v⟩ := e
    simp only [ofEntries?, Option.bind_eq_bind, Option.bind_eq_some_iff] at h
    obtain ⟨rest, hrest, h⟩ := h
    have hlater (hp : p ∈ rest.known) : ∃ e ∈ (key, v) :: es, e.2 = p.2 := by
      obtain ⟨e, he, hep⟩ := ih hrest hp
      exact ⟨e, List.mem_cons_of_mem _ he, hep⟩
    cases hkey : key.text? with
    | none =>
      rw [hkey] at h
      obtain rfl := Option.some.inj h
      exact hlater hp
    | some name =>
      simp only [hkey] at h
      split at h
      · split at h
        · cases h
        · obtain rfl := Option.some.inj h
          rcases List.mem_cons.1 hp with rfl | hp
          · exact ⟨_, List.mem_cons_self, rfl⟩
          · exact hlater hp
      · obtain rfl := Option.some.inj h
        exact hlater hp

/-- The fields of a sound record are sound. -/
lemma sound_of_ofEntries? {es : List (Leaf × Tree)} (ht : (Tree.record es).Sound k)
    (hf : ofEntries? names es = some f) (hu : f.get? name = some u) : u.Sound k := by
  obtain ⟨e, he, rfl⟩ := exists_mem_of_mem_known hf (mem_of_get? hu)
  cases ht with
  | record _ hparts => exact hparts e he

lemma sound_of_open? (ht : t.Sound k) (hf : open? names t = some f) (hu : f.get? name = some u) :
    u.Sound k := by
  obtain ⟨es, hes, hf⟩ := Option.bind_eq_some_iff.1 hf
  obtain rfl := ht.eq_record hes
  exact sound_of_ofEntries? ht hf hu

lemma sound_of_ofRecord? (ht : t.Sound k) (hf : ofRecord? names t = some f)
    (hu : f.get? name = some u) : u.Sound k := by
  simp only [ofRecord?, Option.bind_eq_bind, Option.bind_eq_some_iff] at hf
  obtain ⟨ds, hds, es, hnamed, hf⟩ := hf
  obtain rfl := ht.eq_record hds
  obtain ⟨e, he, rfl⟩ := exists_mem_of_mem_known hf (mem_of_get? hu)
  obtain ⟨d, hd, hstep⟩ := exists_mem_right_of_forall₂ (forall₂_of_mapM_eq_some hnamed) he
  simp only [Option.bind_eq_some_iff, Option.pure_def, Option.some.injEq] at hstep
  obtain ⟨_, -, rfl⟩ := hstep
  cases ht with
  | record _ hparts => exact hparts d hd

/-- The same for a list in the place of a record. -/
lemma sound_of_closed? (ht : t.Sound k) (hf : closed? names t = some f)
    (hu : f.get? name = some u) : u.Sound k := by
  rw [closed?.eq_def] at hf
  split at hf
  · rename_i xs
    rw [ofPositions?] at hf
    split at hf <;> cases hf
    cases ht with
    | list hparts => exact hparts u (List.of_mem_zip (mem_of_get? hu)).2
  · exact sound_of_ofRecord? ht hf hu

variable {es : List (Leaf × Tree)} {extensions : Table Json}

/-- **The unknown fields of a record** are such as they can be written. -/
theorem tidy_extensions (hf : ofEntries? names es = some f)
    (hextensions : f.extensions? = some extensions) : Extensions.Tidy names extensions where
  distinct := by
    obtain ⟨pairs, -, h⟩ := Option.bind_eq_some_iff.1 hextensions
    exact Option.some.inj h ▸ Table.nodup_keys_ofList pairs
  fresh e he := by
    obtain ⟨-, -, -, hfresh, -⟩ := exists_other_of_mem_extensions hf hextensions he
    exact hfresh
  tidy e he := by
    obtain ⟨d, -, -, -, hvalue⟩ := exists_other_of_mem_extensions hf hextensions he
    obtain ⟨t, -, ht⟩ := Option.bind_eq_some_iff.1 hvalue
    exact Tree.tidy_of_toJson? ht

/-- The fields with other names are the entries with other keys. -/
lemma mem_other (hf : ofEntries? names es = some f) {e : Leaf × Tree} (he : e ∈ es) :
    (∃ key ∈ names, e.1.text? = some key) ∨ e ∈ f.other := by
  induction es generalizing f with
  | nil => cases he
  | cons d es ih =>
    obtain ⟨key, v⟩ := d
    simp only [ofEntries?, Option.bind_eq_bind, Option.bind_eq_some_iff] at hf
    obtain ⟨rest, hrest, hf⟩ := hf
    have ih := ih hrest
    cases hkey : key.text? with
    | none =>
      rw [hkey] at hf
      obtain rfl := Option.some.inj hf
      exact (List.mem_cons.1 he).elim (fun h => .inr (h ▸ List.mem_cons_self))
        fun h => (ih h).imp_right (List.mem_cons_of_mem _)
    | some name =>
      simp only [hkey] at hf
      split at hf
      · rename_i hname
        split at hf
        · cases hf
        · obtain rfl := Option.some.inj hf
          exact (List.mem_cons.1 he).elim
            (fun h => .inl ⟨name, List.contains_iff_mem.1 hname, h ▸ hkey⟩) ih
      · obtain rfl := Option.some.inj hf
        exact (List.mem_cons.1 he).elim (fun h => .inr (h ▸ List.mem_cons_self))
          fun h => (ih h).imp_right (List.mem_cons_of_mem _)

/-- All keys of a record whose unknown fields are kept are texts. -/
lemma exists_named (hplain : ∀ e ∈ es, e.1.Plain) (hf : ofEntries? names es = some f)
    (hextensions : f.extensions? = some extensions) : ∃ ps, Tree.named ps = es := by
  have htext : ∀ e ∈ es, ∃ key, e.1 = .ofText key := by
    intro e he
    have hkey : ∃ key, e.1.text? = some key := by
      rcases mem_other hf he with ⟨key, -, hkey⟩ | hother
      · exact ⟨key, hkey⟩
      · obtain ⟨pairs, hpairs, -⟩ := Option.bind_eq_some_iff.1 hextensions
        obtain ⟨p, -, hp⟩ := exists_mem_left_of_forall₂ (forall₂_of_mapM_eq_some hpairs) hother
        obtain ⟨key, hkey, -⟩ := Option.bind_eq_some_iff.1 hp
        exact ⟨key, hkey⟩
    obtain ⟨key, hkey⟩ := hkey
    obtain ⟨s, -, hs⟩ := hplain e he
    rw [hs] at hkey ⊢
    cases s with
    | text _ => exact ⟨_, rfl⟩
    | _ => cases hkey
  clear hf hplain
  induction es with
  | nil => exact ⟨[], rfl⟩
  | cons e es ih =>
    obtain ⟨ps, rfl⟩ := ih fun d hd => htext d (List.mem_cons_of_mem _ hd)
    obtain ⟨key, hkey⟩ := htext e List.mem_cons_self
    exact ⟨(key, e.2) :: ps, by rw [Tree.named, List.map_cons, ← hkey, Tree.named]⟩

/-- The fields of a record whose keys are texts, none of which is repeated. -/
lemma exists_ofEntries?_named {ps : List (String × Tree)} (hnodup : (ps.map Prod.fst).Nodup)
    (names : List String) : ∃ f, ofEntries? names (Tree.named ps) = some f ∧
      f.positional = false ∧
      ∀ name ∈ names, ∀ u, (name, u) ∈ ps ↔ f.get? name = some u := by
  have hfields := ofEntries?_named names ps
  rw [if_pos (hnodup.sublist (List.filter_sublist.map _))] at hfields
  refine ⟨_, hfields, rfl, fun name hname u => ⟨fun hmem => ?_, fun hget => ?_⟩⟩
  · obtain ⟨l₁, l₂, rfl⟩ := List.append_of_mem hmem
    rw [List.map_append, List.map_cons] at hnodup
    refine List.lookup_eq_some_iff.2 ⟨l₁.filter fun p => names.contains p.1,
      l₂.filter fun p => names.contains p.1, ?_, fun p hp => bne_iff_ne.2 fun heq => ?_⟩
    · rw [List.filter_append, List.filter_cons, if_pos (List.contains_iff_mem.2 hname)]
    · subst heq
      exact (List.nodup_append'.1 hnodup).2.2 (List.mem_map_of_mem (List.mem_of_mem_filter hp))
        List.mem_cons_self
  · exact List.mem_of_mem_filter (mem_of_get? hget)

/-- A textual reference among the unknown fields of a record that repeats no key is one of its
entries. -/
lemma exists_named_of_stray (ht : (Tree.record es).Sound .straight)
    (hf : ofEntries? names es = some f) (hextensions : f.extensions? = some extensions)
    {path : String} (hpath : ("$ref", .string path) ∈ extensions.entries) :
    ∃ ps, Tree.named ps = es ∧ (ps.map Prod.fst).Nodup ∧
      ("$ref", .leaf (.ofText path)) ∈ ps := by
  cases ht with
  | record hplain hparts hdistinct =>
  obtain ⟨d, hd, hkey, -, hvalue⟩ := exists_other_of_mem_extensions hf hextensions hpath
  obtain ⟨ps, rfl⟩ := exists_named hplain hf hextensions
  obtain ⟨p, hp, rfl⟩ := List.mem_map.1 hd
  obtain ⟨name, u⟩ := p
  obtain rfl : name = "$ref" := Option.some.inj ((Leaf.text?_ofText _).symm.trans hkey)
  obtain rfl : u = .leaf (.ofText path) := (hparts _ hd).eq_leaf hvalue
  have hkeys : Tree.keys (Tree.named ps) = ps.map Prod.fst := by
    rw [Tree.keys, Tree.named, List.filterMap_map]
    exact congrFun List.filterMap_eq_map' ps
  exact ⟨ps, rfl, hkeys ▸ hdistinct rfl, hp⟩

/-- **A textual reference among the unknown fields** of a record that repeats no key is its only
one: such a record is read as a reference. -/
theorem path?_of_stray (ht : (Tree.record es).Sound .straight)
    (hf : ofEntries? names es = some f) (hextensions : f.extensions? = some extensions)
    {path : String} (hpath : ("$ref", .string path) ∈ extensions.entries) :
    Reference.path? es = some path := by
  obtain ⟨ps, rfl, hnodup, hmem⟩ := exists_named_of_stray ht hf hextensions hpath
  obtain ⟨g, hg, -, hget⟩ := exists_ofEntries?_named hnodup ["$ref"]
  rw [Reference.path?, ofRecord?_named, hg, Option.bind_eq_bind, Option.bind_some, required?,
    (hget _ List.mem_cons_self _).1 hmem]
  rfl

end Read

end Fields

end ApiLowering
