import ApiLowering.Endpoints.Naming

/-!
# Variants of a body

The media types of a body share one method, or one method for each schema if operations are divided
by the contents of their bodies.

## Main definitions

* `BodyVariant` — the media types that share a method.
* `BodyVariant.ofContent` — the variants of a body.
* `Setup.bodyVariants` — the variants that the settings ask for.

## Main results

* `BodyVariant.flatMap_mediaTypes_perm` — every media type is in exactly one variant.
-/

namespace ApiLowering

/-- The media types of a body that share a method. -/
structure BodyVariant where
  /-- The first media type, which stands for the others. -/
  mediaType : String
  content : MediaType
  /-- The other media types. -/
  others : List String := []
deriving Inhabited

/-- Whether two contents have equal schemas, or none. -/
def MediaType.sameSchema (m n : MediaType) : Bool :=
  match m.schema, n.schema with
  | some r, some s => Schema.sameRef r s
  | none, none => true
  | _, _ => false

namespace BodyVariant

/-- All media types of a variant. -/
def mediaTypes (v : BodyVariant) : List String := v.mediaType :: v.others

/-- Puts a media type into the first variant that it belongs to, or into a new one. -/
def enter (together : MediaType → MediaType → Bool) (mediaType : String) (content : MediaType) :
    List BodyVariant → List BodyVariant
  | [] => [{ mediaType, content }]
  | v :: rest =>
    if together v.content content then { v with others := v.others ++ [mediaType] } :: rest
    else v :: enter together mediaType content rest

/-- The variants of a body, in the order of their first media types. -/
def ofContent (together : MediaType → MediaType → Bool) (content : Table MediaType) :
    List BodyVariant :=
  content.entries.foldl (fun vs (mediaType, m) => enter together mediaType m vs) []

theorem flatMap_mediaTypes_enter (together : MediaType → MediaType → Bool) (mediaType : String)
    (content : MediaType) (vs : List BodyVariant) :
    ((enter together mediaType content vs).flatMap mediaTypes).Perm
      (vs.flatMap mediaTypes ++ [mediaType]) := by
  induction vs with
  | nil => simp [enter, mediaTypes]
  | cons v rest ih =>
    simp only [enter]
    split
    · simp only [List.flatMap_cons, mediaTypes, List.cons_append, List.append_assoc,
        List.nil_append]
      refine .cons _ ((List.perm_append_left_iff v.others).2 ?_)
      exact (List.perm_append_singleton mediaType _).symm
    · simp only [List.flatMap_cons, List.append_assoc]
      exact (List.perm_append_left_iff _).2 ih

/-- Every media type is in exactly one variant. -/
theorem flatMap_mediaTypes_perm (together : MediaType → MediaType → Bool)
    (content : Table MediaType) :
    ((ofContent together content).flatMap mediaTypes).Perm content.keys := by
  suffices h : ∀ (es : List (String × MediaType)) (vs : List BodyVariant),
      ((es.foldl (fun vs (mediaType, m) => enter together mediaType m vs) vs).flatMap
        mediaTypes).Perm (vs.flatMap mediaTypes ++ es.map Prod.fst) by
    simpa [ofContent, Table.keys] using h content.entries []
  intro es
  induction es with
  | nil => simp
  | cons e rest ih =>
    intro vs
    refine (ih _).trans ?_
    rw [List.map_cons, List.append_cons]
    exact (flatMap_mediaTypes_enter together e.1 e.2 vs).append_right _

end BodyVariant

/-- Whether the media types of a body have more than one schema. -/
def RequestBody.hasSeveralSchemas (b : RequestBody) : Bool :=
  match b.content.values with
  | [] => false
  | first :: rest => rest.any fun m => !first.sameSchema m

/-- The warning that a body has more schemas than the one that is used. -/
def BodyVariant.warning (v : BodyVariant) (nickname : String) : String :=
  let first := v.mediaType
  s!"request body of '{nickname}' has different schemas per media type, using the one of {first}"

/-- The variants of a body. Without division there is one, and all its media types take the schema
of the first. -/
def Setup.bodyVariants (setup : Setup) (nickname : String) (b : RequestBody) :
    Lowering (List BodyVariant) := do
  if setup.settings.divideOperationsByContentType then
    return BodyVariant.ofContent MediaType.sameSchema b.content
  else
    let variants := BodyVariant.ofContent (fun _ _ => true) b.content
    if b.hasSeveralSchemas then
      variants.forM fun v =>
        Lowering.warnOnce ("request-body:" ++ nickname) (v.warning nickname)
    return variants

end ApiLowering
