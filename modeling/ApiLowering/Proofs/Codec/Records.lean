import ApiLowering.Proofs.Codec.Fields

/-!
# Records

The codec of a record is put together from its fields. A field says what is written for it and what
reading it back gives; a list of fields with different names makes a layout. The records that keep
their unknown fields write these behind the known ones.

In a place that may hold a reference, a record is taken for one as soon as it has a textual `$ref`
among its unknown fields. Such a record is not straight, and this is the only way in which
something that was read can come back as something else.

## Main definitions

* `Field` — a field of a record, with its laws; `Field.required`, `Field.optional`,
  `Field.defaulted`.
* `Layout` — the fields of a record; `Codec.closed` — the codec of a record without other fields.
* `Record` — a record that keeps its unknown fields; `Codec.open`, `Codec.referable` — such a
  record, and a place that holds one or a reference.
-/

namespace ApiLowering

/-! ## Fields -/

/-- A field of a record, with what becomes of it. -/
structure Field (α : Type) where
  name : String
  /-- What is written for it: one member or none. -/
  members : α → List (String × Json)
  /-- What the fields that were told apart say of it. -/
  Reads : Fields → α → Prop
  /-- It comes back in order from one record to another. -/
  Becomes : α → α → Prop
  Sound : Soundness → α → Prop
  keys_sublist (x : α) : ((members x).map Prod.fst).Sublist [name]
  reads_iff {f : Fields} {x y : α} : f.positional = false →
    f.get? name = (Json.lookup name (members x)).map Tree.ofJson → Sound .tidy x → Becomes x y →
      (Reads f y ↔ Sound .straight x)
  sound_of_reads {k : Soundness} {f : Fields} {x : α} :
    (∀ t, f.get? name = some t → t.Sound k) → Reads f x → Sound k x
  straight_becomes {x y : α} : Becomes x y → (Sound .straight y ↔ Sound .straight x)
  tidy_members {x : α} : Sound .tidy x → ∀ e ∈ members x, e.2.Tidy

namespace Field

variable {α β : Type} (name : String) (c : Codec β)

/-- A field that is always there. -/
def required (get : α → β) : Field α where
  name := name
  members x := [(name, c.write (get x))]
  Reads f x := f.required? name c.read = some (get x)
  Becomes x y := get y = c.inOrder (get x)
  Sound k x := c.Sound k (get x)
  keys_sublist _ := .refl _
  reads_iff {f x y} _ hget hsound hy := by
    rw [hy, Fields.required?, hget, Json.lookup, if_pos rfl]
    exact c.reads_iff hsound
  sound_of_reads ht hread := by
    obtain ⟨t, hget, ht'⟩ := Option.bind_eq_some_iff.1 hread
    exact c.sound_of_read (ht t hget) ht'
  straight_becomes h := by
    rw [h]
    exact c.straight_inOrder
  tidy_members hsound := List.forall_mem_singleton.2 (c.tidy_write hsound)

/-- A field that is left out if there is no value. -/
def optional (get : α → Option β) : Field α where
  name := name
  members x := Json.member? name (get x) c.write
  Reads f x := f.optional? name c.read = some (get x)
  Becomes x y := get y = (get x).map c.inOrder
  Sound k x := ∀ v ∈ get x, c.Sound k v ∧ (k = .tidy → c.write v ≠ .null)
  keys_sublist x := by
    cases get x with
    | none => exact List.nil_sublist _
    | some v => exact .refl _
  reads_iff {f x y} hf hget hsound hy := by
    have hmembers : Json.lookup name (Json.member? name (get x) c.write) =
        (get x).map c.write := by
      cases get x with
      | none => rfl
      | some v => exact if_pos rfl
    rw [hmembers] at hget
    rw [hy, Fields.optional?_iff hf hget fun v hv => (hsound v hv).2 rfl]
    refine forall₂_congr fun v hv => ?_
    rw [c.reads_iff (hsound v hv).1]
    exact (and_iff_left nofun).symm
  sound_of_reads {k f x} ht hread v hv := by
    obtain ⟨t, hget, hvalue, hnull⟩ := Fields.exists_of_optional? hread hv
    refine ⟨c.sound_of_read (ht t hget) hvalue, fun _ hwrite => ?_⟩
    rw [c.isNull_of_write (ht t hget) hvalue hwrite] at hnull
    cases hnull
  straight_becomes {x y} h := by
    rw [h]
    cases get x with
    | none => exact iff_of_true nofun nofun
    | some v => simp [c.straight_inOrder]
  tidy_members hsound := Json.tidy_member? fun v hv => c.tidy_write (hsound v hv).1

/-- A field that stands for some value if it is left out. -/
def defaulted (get : α → β) (fallback : β) (blank : β → Bool)
    (hblank : ∀ v, blank v = true → c.inOrder v = fallback ∧ ∀ k, c.Sound k v)
    (hfallback : ∀ k, c.Sound k fallback) : Field α where
  name := name
  members x := if blank (get x) then [] else [(name, c.write (get x))]
  Reads f x := f.defaulted? name c.read fallback = some (get x)
  Becomes x y := get y = c.inOrder (get x)
  Sound k x := c.Sound k (get x)
  keys_sublist x := by
    split
    · exact List.nil_sublist _
    · exact .refl _
  reads_iff {f x y} _ hget hsound hy := by
    rw [hy, Fields.defaulted?, hget]
    by_cases hx : blank (get x) = true
    · obtain ⟨horder, hblank⟩ := hblank _ hx
      rw [if_pos hx]
      exact iff_of_true (congrArg some horder.symm) (hblank _)
    · rw [if_neg hx, Json.lookup, if_pos rfl]
      exact c.reads_iff hsound
  sound_of_reads {k f x} ht hread := by
    rcases Fields.exists_of_defaulted? hread with hx | ⟨t, hget, hread⟩
    · rw [hx]
      exact hfallback k
    · exact c.sound_of_read (ht t hget) hread
  straight_becomes h := by
    rw [h]
    exact c.straight_inOrder
  tidy_members {x} hsound e he := by
    split at he
    · cases he
    · obtain rfl := List.mem_singleton.1 he
      exact c.tidy_write hsound

/-- A field that stands for some value if it is left out, but always is written. -/
def always (get : α → β) (fallback : β) (hfallback : ∀ k, c.Sound k fallback) : Field α :=
  defaulted name c get fallback (fun _ => false) nofun hfallback

/-- A list that is left out if it is empty. -/
def list (get : α → List β) : Field α :=
  defaulted name c.list get [] List.isEmpty
    (fun v hv => by
      obtain rfl := List.isEmpty_iff.1 hv
      exact ⟨rfl, fun _ => List.forall_mem_nil _⟩)
    fun _ => List.forall_mem_nil _

lemma sound_empty (k : Soundness) : c.table.Sound k {} :=
  ⟨fun _ => List.nodup_nil, List.forall_mem_nil _⟩

/-- A table that is left out if it is empty. -/
def table (get : α → Table β) : Field α :=
  defaulted name c.table get {} Table.isEmpty
    (fun v hv => by
      obtain rfl : v = {} := congrArg Table.mk (List.isEmpty_iff.1 hv)
      exact ⟨rfl, sound_empty c⟩)
    (sound_empty c)

section Values

variable {name : String} {c : Codec β} {f : Fields} {x y : α}

@[simp] lemma reads_required {get : α → β} : (required name c get).Reads f x ↔
    f.required? name c.read = some (get x) := .rfl

@[simp] lemma reads_optional {get : α → Option β} : (optional name c get).Reads f x ↔
    f.optional? name c.read = some (get x) := .rfl

@[simp] lemma reads_always {get : α → β} {fallback : β} {h} :
    (always name c get fallback h).Reads f x ↔
      f.defaulted? name c.read fallback = some (get x) := .rfl

@[simp] lemma reads_list {get : α → List β} : (list name c get).Reads f x ↔
    f.defaulted? name (Tree.listOf? c.read) [] = some (get x) := .rfl

@[simp] lemma reads_table {get : α → Table β} : (table name c get).Reads f x ↔
    f.defaulted? name (Tree.table? c.read) {} = some (get x) := .rfl

@[simp] lemma becomes_required {get : α → β} : (required name c get).Becomes x y ↔
    get y = c.inOrder (get x) := .rfl

@[simp] lemma becomes_optional {get : α → Option β} : (optional name c get).Becomes x y ↔
    get y = (get x).map c.inOrder := .rfl

@[simp] lemma becomes_always {get : α → β} {fallback : β} {h} :
    (always name c get fallback h).Becomes x y ↔
      get y = c.inOrder (get x) := .rfl

@[simp] lemma becomes_list {get : α → List β} : (list name c get).Becomes x y ↔
    get y = (get x).map c.inOrder := .rfl

@[simp] lemma becomes_table {get : α → Table β} : (table name c get).Becomes x y ↔
    get y = ((get x).map c.inOrder).sortByKey := .rfl

@[simp] lemma sound_required {k : Soundness} {get : α → β} : (required name c get).Sound k x ↔
    c.Sound k (get x) := .rfl

@[simp] lemma sound_optional {k : Soundness} {get : α → Option β} :
    (optional name c get).Sound k x ↔
      ∀ v ∈ get x, c.Sound k v ∧ (k = .tidy → c.write v ≠ .null) := .rfl

@[simp] lemma sound_always {k : Soundness} {get : α → β} {fallback : β} {h} :
    (always name c get fallback h).Sound k x ↔ c.Sound k (get x) := .rfl

@[simp] lemma sound_list {k : Soundness} {get : α → List β} : (list name c get).Sound k x ↔
    c.list.Sound k (get x) := .rfl

@[simp] lemma sound_table {k : Soundness} {get : α → Table β} : (table name c get).Sound k x ↔
    c.table.Sound k (get x) := .rfl

@[simp] lemma members_required {get : α → β} : (required name c get).members x =
    [(name, c.write (get x))] := rfl

@[simp] lemma members_optional {get : α → Option β} : (optional name c get).members x =
    Json.member? name (get x) c.write := rfl

@[simp] lemma members_always {get : α → β} {fallback : β} {h} :
    (always name c get fallback h).members x =
      [(name, c.write (get x))] := rfl

@[simp] lemma members_list {get : α → List β} : (list name c get).members x =
    Json.listMember name (get x) c.write := by
  rw [Json.listMember, Json.arrayMember, List.isEmpty_map]
  rfl

@[simp] lemma members_table {get : α → Table β} : (table name c get).members x =
    Json.tableMember name (get x) c.write := rfl

end Values

end Field

/-! ## Layouts -/

/-- How one reader goes on after another. Simplification takes it on the way down (`↓`): on the way
up it would look again at all that is read later, once for each field before it. -/
lemma andThen_eq_some_iff {α β : Type} {o : Option α} {next : α → Option β} {y : β} :
    (o >>= next) = some y ↔ ∃ x, o = some x ∧ next x = some y :=
  Option.bind_eq_some_iff

/-- The fields of a record. -/
structure Layout (α : Type) where
  /-- The record with its tables in order. -/
  inOrder : α → α
  /-- The names of all known fields. -/
  names : List String
  fields : List (Field α)
  distinct : (fields.map Field.name).Nodup
  named : fields.map Field.name ⊆ names
  inOrder_inOrder (x : α) : inOrder (inOrder x) = inOrder x
  becomes : ∀ F ∈ fields, ∀ x, F.Becomes x (inOrder x)

namespace Layout

variable {α : Type} (l : Layout α) {k : Soundness} {f : Fields} {x : α}

/-- What is written for the known fields. -/
def members (x : α) : List (String × Json) := l.fields.flatMap (·.members x)

/-- What the fields that were told apart say of the record. -/
def Reads (f : Fields) (x : α) : Prop := ∀ F ∈ l.fields, F.Reads f x

/-- All fields of the record are sound. -/
def Sound (k : Soundness) (x : α) : Prop := ∀ F ∈ l.fields, F.Sound k x

lemma keys_sublist (x : α) : ((l.members x).map Prod.fst).Sublist (l.fields.map Field.name) := by
  rw [members, List.map_flatMap, List.map_eq_flatMap]
  induction l.fields with
  | nil => exact .refl _
  | cons F Fs ih =>
    rw [List.flatMap_cons, List.flatMap_cons]
    exact (F.keys_sublist x).append ih

lemma nodup_members (x : α) : ((l.members x).map Prod.fst).Nodup :=
  l.distinct.sublist (l.keys_sublist x)

lemma known_members (x : α) : ∀ e ∈ l.members x, e.1 ∈ l.names :=
  fun _ he => l.named ((l.keys_sublist x).subset (List.mem_map_of_mem he))

lemma lookup_flatMap {Fs : List (Field α)} (h : (Fs.map Field.name).Nodup)
    {F : Field α} (hF : F ∈ Fs) (x : α) :
    Json.lookup F.name (Fs.flatMap (·.members x)) = Json.lookup F.name (F.members x) := by
  have hnone {G : Field α} (hne : G.name ≠ F.name) :
      Json.lookup F.name (G.members x) = none :=
    Json.lookup_eq_none_iff.2 fun hmem =>
      hne (List.mem_singleton.1 ((G.keys_sublist x).subset hmem)).symm
  induction Fs with
  | nil => cases hF
  | cons G Gs ih =>
    rw [List.map_cons, List.nodup_cons] at h
    rw [List.flatMap_cons, Json.lookup_append]
    rcases List.mem_cons.1 hF with rfl | hF
    · have hrest : Json.lookup F.name (Gs.flatMap (·.members x)) = none := by
        refine Json.lookup_eq_none_iff.2 fun hmem => h.1 ?_
        obtain ⟨e, he, heq⟩ := List.mem_map.1 hmem
        obtain ⟨G, hG, he⟩ := List.mem_flatMap.1 he
        have hname := (G.keys_sublist x).subset (List.mem_map_of_mem he)
        rw [heq, List.mem_singleton] at hname
        exact hname ▸ List.mem_map_of_mem hG
      rw [hrest, Option.or_none]
    · rw [hnone fun heq => h.1 (heq ▸ List.mem_map_of_mem hF), Option.none_or, ih h.2 hF]

lemma tidy_members (h : l.Sound .tidy x) : ∀ e ∈ l.members x, e.2.Tidy := by
  intro e he
  obtain ⟨F, hF, he⟩ := List.mem_flatMap.1 he
  exact F.tidy_members (h F hF) e he

/-- The fields of a written record give the record in order exactly if all of them are straight. -/
lemma reads_iff (hf : f.positional = false)
    (hget : ∀ name ∈ l.names, f.get? name = (Json.lookup name (l.members x)).map Tree.ofJson)
    (h : l.Sound .tidy x) : l.Reads f (l.inOrder x) ↔ l.Sound .straight x := by
  refine forall₂_congr fun F hF => F.reads_iff hf ?_ (h F hF) (l.becomes F hF x)
  rw [hget F.name (l.named (List.mem_map_of_mem hF)), members, lookup_flatMap l.distinct hF]

lemma sound_of_reads (h : ∀ name t, f.get? name = some t → t.Sound k) (hx : l.Reads f x) :
    l.Sound k x :=
  fun F hF => F.sound_of_reads (h F.name) (hx F hF)

/-- The order of tables does not matter for what is taken for a reference. -/
lemma straight_inOrder : l.Sound .straight (l.inOrder x) ↔ l.Sound .straight x :=
  forall₂_congr fun F hF => F.straight_becomes (l.becomes F hF x)

end Layout

/-- The codec of a record without other fields. -/
def Codec.closed {α : Type} (l : Layout α) (read : Tree → Option α) (write : α → Json)
    (hread : ∀ t x, read t = some x ↔ ∃ f, Fields.closed? l.names t = some f ∧ l.Reads f x)
    (hwrite : ∀ x, write x = .object (l.members x)) : Codec α where
  read := read
  write := write
  inOrder := l.inOrder
  Sound := l.Sound
  reads_iff {x} h := by
    have hnone : Extensions.Tidy l.names {} :=
      ⟨List.nodup_nil, List.forall_mem_nil _, List.forall_mem_nil _⟩
    obtain ⟨f, hf, hpositional, hget, -⟩ :=
      Fields.exists_written (l.nodup_members x) (l.known_members x) hnone
    have hclosed : Fields.closed? l.names (.ofJson (write x)) = some f := by
      rw [hwrite, Json.object_eq, Tree.ofJson, Fields.closed?, Fields.ofRecord?_ofMembers,
        ← List.append_nil (l.members x)]
      · exact hf
      · exact nofun
    simp only [hread, hclosed, Option.some.injEq, exists_eq_left']
    exact l.reads_iff hpositional hget h
  sound_of_read {k t x} ht hx := by
    obtain ⟨f, hf, hx⟩ := (hread t x).1 hx
    exact l.sound_of_reads (fun name u hu => Fields.sound_of_closed? ht hf hu) hx
  inOrder_inOrder := l.inOrder_inOrder
  straight_inOrder := l.straight_inOrder
  tidy_write {x} h := by
    rw [hwrite]
    exact Json.tidy_object (l.tidy_members h)
  isNull_of_write {k t x} _ _ hnull := by
    rw [hwrite] at hnull
    cases hnull

/-! ## Records with other fields -/

/-- A record that keeps its unknown fields. -/
structure Record (α : Type) extends Layout α where
  /-- The unknown fields. -/
  extensions : α → Table Json
  read : Tree → Option α
  write : α → Json
  extensions_inOrder (x : α) : extensions (inOrder x) = (extensions x).sortByKey
  read_iff (t : Tree) (x : α) : read t = some x ↔ ∃ f, Fields.open? names t = some f ∧
    toLayout.Reads f x ∧ f.extensions? = some (extensions x)
  write_eq (x : α) : write x = .object (toLayout.members x ++ (extensions x).entries)

namespace Record

variable {α : Type} (r : Record α) {k : Soundness} {x : α}

/-- All fields of the record are sound, and its unknown ones are as readers return them. -/
def Sound (k : Soundness) (x : α) : Prop :=
  r.toLayout.Sound k x ∧ (k = .tidy → Extensions.Tidy r.names (r.extensions x))

variable {r}

lemma reads_iff (h : r.Sound .tidy x) :
    r.read (.ofJson (r.write x)) = some (r.inOrder x) ↔ r.Sound .straight x := by
  obtain ⟨f, hf, hpositional, hget, hextensions⟩ :=
    Fields.exists_written (r.nodup_members x) (r.known_members x) (h.2 rfl)
  have hopen : Fields.open? r.names (.ofJson (r.write x)) = some f := by
    rw [r.write_eq, Json.object_eq, Tree.ofJson, Fields.open?]
    exact hf
  simp only [r.read_iff, hopen, Option.some.injEq, exists_eq_left', r.extensions_inOrder,
    hextensions, and_true]
  rw [r.toLayout.reads_iff hpositional hget h.1]
  exact (and_iff_left fun h => Soundness.noConfusion h).symm

lemma sound_of_read {t : Tree} (ht : t.Sound k) (hx : r.read t = some x) : r.Sound k x := by
  obtain ⟨f, hf, hx, hextensions⟩ := (r.read_iff t x).1 hx
  obtain ⟨es, -, hes⟩ := Option.bind_eq_some_iff.1 hf
  exact ⟨r.sound_of_reads (fun name u hu => Fields.sound_of_open? ht hf hu) hx,
    fun _ => Fields.tidy_extensions hes hextensions⟩

lemma straight_inOrder : r.Sound .straight (r.inOrder x) ↔ r.Sound .straight x :=
  and_congr r.toLayout.straight_inOrder
    (iff_of_true (fun h => Soundness.noConfusion h) fun h => Soundness.noConfusion h)

lemma tidy_write (h : r.Sound .tidy x) : (r.write x).Tidy := by
  rw [r.write_eq]
  exact Json.tidy_object
    (List.forall_mem_append.2 ⟨r.tidy_members h.1, (h.2 rfl).tidy⟩)

lemma write_ne_null (x : α) : r.write x ≠ .null := by
  rw [r.write_eq]
  nofun

/-- What is written answers to the known names with the known fields, and to `$ref` as its unknown
fields do. -/
lemma exists_members (hname : "$ref" ∉ r.names) (h : r.Sound .tidy x) :
    ∃ es, r.write x = .members es ∧ (es.map Prod.fst).Nodup ∧
      (∀ name ∈ r.names, Json.lookup name es = Json.lookup name (r.members x)) ∧
      Json.lookup "$ref" es = Json.lookup "$ref" (r.extensions x).entries := by
  have hknown := r.known_members x
  have hlookup (key : String) := Fields.lookup_object (r.nodup_members x) hknown (h.2 rfl) key
  refine ⟨Json.entered (r.members x ++ (r.extensions x).entries), r.write_eq x,
    (Json.increasing_entered _).nodup, fun name hmem => ?_, ?_⟩
  · have hnone : Json.lookup name (r.extensions x).entries = none := by
      refine Json.lookup_eq_none_iff.2 fun hext => ?_
      obtain ⟨e, he, rfl⟩ := List.mem_map.1 hext
      exact (h.2 rfl).fresh e he hmem
    rw [hlookup, hnone, Option.or_none]
  · have hnone : Json.lookup "$ref" (r.members x) = none := by
      refine Json.lookup_eq_none_iff.2 fun hmem => ?_
      obtain ⟨e, he, heq⟩ := List.mem_map.1 hmem
      exact hname (heq ▸ hknown e he)
    rw [hlookup, hnone, Option.none_or]

end Record

/-- The codec of a record that keeps its unknown fields. -/
def Codec.open {α : Type} (r : Record α) : Codec α where
  read := r.read
  write := r.write
  inOrder := r.inOrder
  Sound := r.Sound
  reads_iff := Record.reads_iff
  sound_of_read := Record.sound_of_read
  inOrder_inOrder := r.inOrder_inOrder
  straight_inOrder := Record.straight_inOrder
  tidy_write := Record.tidy_write
  isNull_of_write _ _ h := absurd h (Record.write_ne_null _)

/-! ## Records that may be references -/

namespace Record

variable {α : Type} (r : Record α) {k : Soundness}

/-- A record that stands where a reference may: none of its unknown fields is a textual `$ref`. -/
def SoundInline (k : Soundness) (x : α) : Prop :=
  r.Sound k x ∧ (k = .straight → Extensions.Straight (r.extensions x))

variable {r} {x : α}

/-- Such a record is written as an object that is no reference exactly if it is straight. -/
lemma exists_members_path? (hname : "$ref" ∉ r.names) (h : r.Sound .tidy x) :
    ∃ es, r.write x = .members es ∧
      (Reference.path? (Tree.ofMembers es) = none ↔ Extensions.Straight (r.extensions x)) :=
  ⟨_, r.write_eq x,
    Fields.path?_object_iff (r.nodup_members x) (r.known_members x) (h.2 rfl) hname⟩

lemma soundInline_inOrder : r.SoundInline .straight (r.inOrder x) ↔ r.SoundInline .straight x := by
  refine and_congr straight_inOrder (imp_congr_right fun _ => ?_)
  rw [r.extensions_inOrder]
  exact Extensions.straight_sortByKey

/-- What is read as a record where a reference may stand is no reference. -/
lemma soundInline_of_read {es : List (Leaf × Tree)} (ht : (Tree.record es).Sound k)
    (hpath : Reference.path? es = none) (hx : r.read (.record es) = some x) :
    r.SoundInline k x := by
  refine ⟨sound_of_read ht hx, ?_⟩
  rintro rfl path hmem
  obtain ⟨f, hf, -, hextensions⟩ := (r.read_iff _ x).1 hx
  rw [Fields.path?_of_stray ht hf hextensions hmem] at hpath
  cases hpath

end Record

lemma Record.toJson_ne_null {α : Type} (r : Record α) (x : Referable α) :
    x.toJson r.write ≠ .null := by
  cases x with
  | ref path => nofun
  | inline y => exact r.write_ne_null y

@[simp] lemma Referable.mapInline_mapInline {α : Type} {f : α → α} (hf : ∀ y, f (f y) = f y)
    (x : Referable α) : (x.mapInline f).mapInline f = x.mapInline f := by
  cases x with
  | ref path => rfl
  | inline y => exact congrArg Referable.inline (hf y)

/-- The codec of a place that holds a record or a reference to one. -/
def Codec.referable {α : Type} (r : Record α) (hname : "$ref" ∉ r.names) :
    Codec (Referable α) where
  read := Referable.read? r.read
  write x := x.toJson r.write
  inOrder x := x.mapInline r.inOrder
  Sound k x := ∀ y ∈ x.inline?, r.SoundInline k y
  reads_iff {x} h := by
    cases x with
    | ref path => exact iff_of_true rfl fun y hy => (Option.not_mem_none y hy).elim
    | inline y =>
      have hy := h y rfl
      obtain ⟨es, hes, hpath⟩ := Record.exists_members_path? hname hy.1
      have hread := Record.reads_iff hy.1
      rw [hes, Tree.ofJson] at hread
      rw [Referable.toJson, hes, Referable.read?, Tree.settle?_ofJson, Tree.ofJson]
      dsimp only
      cases hp : Reference.path? (Tree.ofMembers es) with
      | some path =>
        refine iff_of_false nofun fun hstraight => ?_
        cases hp.symm.trans (hpath.2 ((hstraight y rfl).2 rfl))
      | none =>
        have hinline : (∀ z ∈ (Referable.inline y).inline?, r.SoundInline .straight z) ↔
            r.Sound .straight y :=
          ⟨fun h => (h y rfl).1, fun h z hz => Option.some.inj hz ▸ ⟨h, fun _ => hpath.1 hp⟩⟩
        rw [hinline, ← hread, Option.map_eq_some_iff]
        exact ⟨fun ⟨z, hz, heq⟩ => Referable.inline.inj heq ▸ hz, fun hz => ⟨_, hz, rfl⟩⟩
  sound_of_read {k t x} ht hx y hy := by
    rw [Referable.read?] at hx
    split at hx
    · rename_i es hes
      split at hx
      · cases hx
        cases hy
      · rename_i hpath
        obtain ⟨z, hz, rfl⟩ := Option.map_eq_some_iff.1 hx
        cases hy
        exact Record.soundInline_of_read (ht.settle? hes) hpath hz
    · cases hx
  inOrder_inOrder := Referable.mapInline_mapInline r.inOrder_inOrder
  straight_inOrder {x} := by
    cases x with
    | ref path => exact .rfl
    | inline y => simp [Referable.mapInline, Referable.inline?, Record.soundInline_inOrder]
  tidy_write {x} h := by
    cases x with
    | ref path => exact Json.tidy_object (List.forall_mem_singleton.2 (.string path))
    | inline y => exact Record.tidy_write (h y rfl).1
  isNull_of_write _ _ h := absurd h (r.toJson_ne_null _)

end ApiLowering
