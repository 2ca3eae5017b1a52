import Nodewright.Image.Overrides
import Nodewright.Proofs.Json.RoundTrip

/-!
# Configurations that are read

A configuration is written as an object that holds images by their keys. However it is laid out, the
overrides that are read from it have the images of its entries, and if a key comes more than once,
its last image.

## Key results

- `Image.Overrides.readMap_write`: images are read by their keys
- `Image.Overrides.readEntry_write`, `Image.Overrides.ofText_write`: so is a configuration
- `Image.Overrides.exists_ofText_write`: what a key has that stands in a configuration
-/

namespace Nodewright.Image.Overrides

/-- Images by their keys, as JSON. A key may come more than once. -/
def entriesJson (entries : List (String × String)) : Json :=
  .object (entries.map fun e => (e.1, .string e.2))

/-- The overrides behind one more entry, if that is a text. -/
private def takeImage (o : Overrides) (e : String × Json) : Option Overrides :=
  match e.2 with
  | .string image => some (o.set e.1 image)
  | _ => .none

/-- Entries that are all texts are taken one after the other. -/
private theorem foldlM_takeImage (o : Overrides) (entries : List (String × String)) :
    (entries.map fun e => (e.1, Json.string e.2)).foldlM takeImage o =
      some ⟨o.images.insertAll entries⟩ := by
  -- each entry adds an image to those before it
  induction entries generalizing o with
  | nil => rfl
  | cons e entries ih =>
    have hstep : takeImage o (e.1, Json.string e.2) = some (o.set e.1 e.2) := rfl
    rw [List.map_cons, List.foldlM_cons, hstep, Option.bind_eq_bind, Option.bind_some, ih]
    rfl

/-- The images of a configuration, if there are none yet. -/
private def takeImages (images : Overrides) (done : Option Overrides) (_ : String × Json) :
    Option (Option Overrides) :=
  if done = .none then some (some images) else .none

variable {layout : Json.Layout}

/-- An image is read under its key. -/
theorem readImage_write (hlayout : layout.Blank) (level : Nat) (o : Overrides)
    (key image : String) (rest : List Char) :
    readImage o key
        (':' :: (layout.afterColon ++ ((Json.string image).write layout level ++ rest))) =
      .ok (o.set key image, rest) := by
  have hplain : (Json.string image).Plain 0 := .string image
  have hcolon := Json.colon_write (ε := DecodeError) hlayout hplain level rest
  rw [readImage, hcolon, Json.Reading.andThen, Json.write, Json.outlineAt_stringText]
  rfl

/-- Images are read by their keys, the last one of each key. -/
theorem readMap_write (hlayout : layout.Blank) (level : Nat) (entries : List (String × String))
    (rest : List Char) :
    readMap ((entriesJson entries).write layout level ++ rest) =
      .ok (⟨Keyed.ofEntries entries⟩, rest) := by
  -- the reader of an entry takes the step that `takeImage` says, and all entries are taken
  have hstep : ∀ o o' : Overrides, ∀ e ∈ entries.map fun e => (e.1, Json.string e.2),
      ∀ src, Json.EndsNumber src → takeImage o e = some o' →
        readImage o e.1 (':' :: (layout.afterColon ++ (e.2.write layout (level + 1) ++ src))) =
          .ok (o', src) := by
    rintro o o' _ he src - htake
    obtain ⟨e, -, rfl⟩ := List.mem_map.1 he
    obtain rfl := Option.some.inj htake
    exact readImage_write hlayout (level + 1) o e.1 e.2 src
  have hfold := Json.foldEntries_write hlayout takeImage _ hstep none _
    (foldlM_takeImage none entries) rest
  have htext : (entriesJson entries).write layout level =
      '{' :: ((entriesJson entries).write layout level).tail := by
    cases entries <;> simp [entriesJson, Json.write]
  rw [htext, List.cons_append, readMap, entriesJson, hfold]
  rfl

/-- The images of a configuration are read when none have been read before. -/
theorem readEntry_write (hlayout : layout.Blank) (level : Nat) (entries : List (String × String))
    (rest : List Char) :
    readEntry .none "images"
        (':' :: (layout.afterColon ++ ((entriesJson entries).write layout level ++ rest))) =
      .ok (some ⟨Keyed.ofEntries entries⟩, rest) := by
  have hplain : (entriesJson entries).Plain 1 := by
    refine .object fun e he => ?_
    obtain ⟨entry, -, rfl⟩ := List.mem_map.1 he
    exact .string entry.2
  rw [readEntry, if_pos rfl]
  simp only [Json.colon_write hlayout hplain, Json.Reading.andThen,
    readMap_write hlayout level entries rest]
  rfl

/-- A configuration is read as the images of its entries, the last one of each key. -/
theorem ofText_write (hlayout : layout.Blank) (entries : List (String × String)) :
    ofText (String.ofList ((Json.object [("images", entriesJson entries)]).write layout 0)) =
      .ok ⟨Keyed.ofEntries entries⟩ := by
  let images : Overrides := ⟨Keyed.ofEntries entries⟩
  -- there is one entry, and before it no images have been read
  have hstep : ∀ done done' : Option Overrides, ∀ e ∈ [("images", entriesJson entries)],
      ∀ src, Json.EndsNumber src → takeImages images done e = some done' →
        readEntry done e.1 (':' :: (layout.afterColon ++ (e.2.write layout 1 ++ src))) =
          .ok (done', src) := by
    intro done done' e he src _ htake
    obtain rfl := List.mem_singleton.1 he
    by_cases hdone : done = .none
    · subst hdone
      obtain rfl := Option.some.inj htake
      exact readEntry_write hlayout 1 entries src
    · rw [takeImages, if_neg hdone] at htake
      cases htake
  have hfold := Json.foldEntries_write hlayout (takeImages images) _ hstep .none (some images) rfl
    []
  have htext : (Json.object [("images", entriesJson entries)]).write layout 0 =
      '{' :: ((Json.object [("images", entriesJson entries)]).write layout 0).tail := by
    simp [Json.write]
  rw [List.append_nil] at hfold
  rw [ofText, String.toList_ofList, htext, Json.skipBlanks_cons (by decide), read, hfold]
  rfl

/-- What a configuration has under a key is its last entry of that key. -/
theorem exists_ofText_write (hlayout : layout.Blank) (entries : List (String × String))
    (key : String) :
    ∃ o, ofText (String.ofList
        ((Json.object [("images", entriesJson entries)]).write layout 0)) = .ok o ∧
      o.get? key = lookupEntry key entries.reverse := by
  refine ⟨_, ofText_write hlayout entries, ?_⟩
  rw [get?, Keyed.ofEntries, Keyed.get?_insertAll, Keyed.get?_empty, Option.or_none]

end Nodewright.Image.Overrides
