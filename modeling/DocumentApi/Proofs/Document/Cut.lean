import DocumentApi.Document.Cut
import DocumentApi.Proofs.Document.Writing

/-!
# What is left of a document

A projection copies what stands at the ends of its paths to a new document, one path after another,
and finds there what earlier paths left. None of this shows in what is read from the new document:

* `Bson.valueAt?_cutTo`, `Document.valueAt?_cut` — behind a way stands what stood there before, cut
  down to what the paths still ask for behind this way (`restsBehind`);
* `Document.resolve_cut` — so a named field reaches what it reached before, unless it meets an array
  that is not returned as a whole; then it reaches nothing.

A value is cut down (`Bson.cutTo`) to a list of paths without regard to their order: it is left as
it is if one of the paths ends on it, and of a document the fields are left that paths start with.
The one step that has to be shown is that copying along one path more does this for one path more
(`Bson.cutTo_append_singleton`). Names are looked up in a copy by `Document.get?_copied`.
-/

namespace DocumentApi

open Criteria (Overlaps overlaps_nil_left overlaps_cons_cons)

/-! ### What paths ask for behind a way -/

/-- What a path asks for behind a way: everything if it ends on the way, and the rest of the path if
it goes on from the end. A path that leaves the way asks for nothing there. -/
def restBehind? : List String → List String → Option (List String)
  | [], path => some path
  | _ :: _, [] => some []
  | name :: way, first :: path => if name = first then restBehind? way path else none

theorem restBehind?_eq_some_nil_iff {way path : List String} :
    restBehind? way path = some [] ↔ path <+: way := by
  -- The way and the path go on together as long as their names agree.
  induction way generalizing path with
  | nil => rw [restBehind?, Option.some.injEq, List.prefix_nil]
  | cons name way ih =>
    cases path with
    | nil => exact iff_of_true rfl List.nil_prefix
    | cons first path =>
      rw [restBehind?, List.cons_prefix_cons]
      by_cases hname : name = first
      · rw [if_pos hname, ih, eq_comm, and_iff_right hname]
      · rw [if_neg hname]
        exact iff_of_false (Option.some_ne_none _).symm fun h => hname h.1.symm

theorem restBehind?_eq_none_iff {way path : List String} :
    restBehind? way path = none ↔ ¬ Overlaps path way := by
  induction way generalizing path with
  | nil => exact iff_of_false (Option.some_ne_none _) (not_not_intro (overlaps_nil_left path).symm)
  | cons name way ih =>
    cases path with
    | nil => exact iff_of_false (Option.some_ne_none _) (not_not_intro (overlaps_nil_left _))
    | cons first path =>
      rw [restBehind?, overlaps_cons_cons]
      by_cases hname : name = first
      · rw [if_pos hname, ih, and_iff_right hname.symm]
      · rw [if_neg hname]
        exact iff_of_true rfl fun h => hname h.1.symm

/-- What paths ask for behind a way. -/
def restsBehind (way : List String) (paths : List (List String)) : List (List String) :=
  paths.filterMap (restBehind? way)

section Rests

variable {way : List String} {paths : List (List String)}

@[simp] theorem restsBehind_nil_left (paths : List (List String)) :
    restsBehind [] paths = paths :=
  List.filterMap_some

theorem restsBehind_cons (name : String) (way : List String) (paths : List (List String)) :
    restsBehind (name :: way) paths = restsBehind way (restsBehind [name] paths) := by
  unfold restsBehind
  rw [List.filterMap_filterMap]
  refine List.filterMap_congr fun path _ => ?_
  -- An empty path asks for everything behind every name.
  cases path with
  | nil => cases way <;> rfl
  | cons first path =>
    rw [restBehind?, restBehind?]
    by_cases hname : name = first
    · rw [if_pos hname, if_pos hname]
      rfl
    · rw [if_neg hname, if_neg hname]
      rfl

/-- **Everything** is asked for behind a way if some path ends on it. -/
theorem nil_mem_restsBehind : [] ∈ restsBehind way paths ↔ ∃ path ∈ paths, path <+: way := by
  unfold restsBehind
  rw [List.mem_filterMap]
  refine exists_congr fun path => and_congr_right fun _ => ?_
  exact restBehind?_eq_some_nil_iff

/-- **Nothing** is asked for behind a way if no path leads there or ends on it. -/
theorem restsBehind_eq_nil : restsBehind way paths = [] ↔ ∀ path ∈ paths, ¬ Overlaps path way := by
  unfold restsBehind
  rw [List.filterMap_eq_nil_iff]
  refine forall₂_congr fun path _ => ?_
  exact restBehind?_eq_none_iff

/-- If none of the paths is empty, then those behind a name are the rests of those that start with
it. -/
theorem mem_restsBehind_singleton (hpaths : [] ∉ paths) {name : String} {rest : List String} :
    rest ∈ restsBehind [name] paths ↔ name :: rest ∈ paths := by
  unfold restsBehind
  rw [List.mem_filterMap]
  constructor
  · rintro ⟨path, hmem, hrest⟩
    -- A path goes on below the name exactly if it starts with it.
    cases path with
    | nil => exact absurd hmem hpaths
    | cons first path =>
      rw [restBehind?] at hrest
      split at hrest
      · next hname =>
        rw [restBehind?, Option.some.injEq] at hrest
        rwa [hname, ← hrest]
      · cases hrest
  · intro hmem
    exact ⟨name :: rest, hmem, if_pos rfl⟩

end Rests

/-! ### Copying along a path -/

namespace Bson

/-- What copying puts in the place of a value: what is behind the path, in the place of all that was
there, or a document, to whose fields this is added. -/
def copyInto (source target : Bson) : List String → Option Bson
  | [] => some source
  | name :: rest =>
    match source with
    | .document fields => some (.document (Document.copyAt fields target.innerFields (name :: rest)))
    | _ => none

end Bson

namespace Document

/-- What copying along a path puts under the first name of the path, if it finds anything there. -/
def copyUnder? (source target : Document) (name : String) (rest : List String) : Option Bson :=
  (Fields.get? source name).bind fun value =>
    value.copyInto ((Bson.document target).held name) rest

theorem copyAt_cons (source target : Document) (name : String) (rest : List String) :
    source.copyAt target (name :: rest)
      = (source.copyUnder? target name rest).elim target (Fields.insert target name) := by
  unfold copyUnder?
  -- The last name of a path is treated apart.
  cases rest with
  | nil =>
    rw [copyAt]
    cases Fields.get? source name <;> rfl
  | cons next rest =>
    rw [copyAt, ← Bson.innerFields_held]
    cases Fields.get? source name with
    | none => rfl
    | some value => cases value <;> rfl

theorem get?_copyAt_cons_self (source target : Document) (name : String) (rest : List String) :
    Fields.get? (source.copyAt target (name :: rest)) name
      = (source.copyUnder? target name rest).or (Fields.get? target name) := by
  rw [copyAt_cons]
  -- If nothing is found, then the target keeps what it has.
  cases source.copyUnder? target name rest with
  | none => rfl
  | some value => exact Fields.get?_insert_self target name value

theorem get?_copyAt_cons_of_ne {name other : String} (h : name ≠ other) (source target : Document)
    (rest : List String) :
    Fields.get? (source.copyAt target (name :: rest)) other = Fields.get? target other := by
  rw [copyAt_cons]
  cases source.copyUnder? target name rest with
  | none => rfl
  | some value => exact Fields.get?_insert_of_ne h target value

/-- Copying from a document to itself changes nothing. -/
theorem copyAt_self (document : Document) (path : List String) :
    document.copyAt document path = document := by
  induction path generalizing document with
  | nil => rfl
  | cons name rest ih =>
    -- By what stands under the first name.
    rw [copyAt_cons, copyUnder?, Bson.held_document]
    cases hvalue : Fields.get? document name with
    | none => rfl
    | some value =>
      -- If anything is put under the name, then it is what is there.
      have hinsert : Fields.insert document name value = document :=
        Fields.insert_of_get?_eq_some hvalue
      rw [Option.bind_some, Option.getD_some]
      cases rest with
      | nil => exact hinsert
      | cons next rest =>
        cases value with
        | document fields =>
          have hfields : copyAt fields fields (next :: rest) = fields := ih fields
          change Fields.insert document name (.document (copyAt fields fields (next :: rest)))
            = document
          rw [hfields]
          exact hinsert
        | _ => rfl

/-- What copying along paths, one after another, makes of no fields at all. -/
def copied (source : Document) (paths : List (List String)) : Document :=
  paths.foldl (copyAt source) []

theorem copied_append_singleton (source : Document) (paths : List (List String))
    (path : List String) :
    source.copied (paths ++ [path]) = source.copyAt (source.copied paths) path := by
  unfold copied
  rw [List.foldl_append, List.foldl_cons, List.foldl_nil]

end Document

/-! ### Cutting down a value -/

section Cutting

variable {paths : List (List String)}

namespace Bson

/-- Cuts a value down to what paths ask for, if they ask for something that is there. -/
def cutTo (paths : List (List String)) (value : Bson) : Option Bson :=
  if [] ∈ paths then some value
  else if paths = [] then none
  else match value with
    | .document fields => some (.document (Document.copied fields paths))
    | _ => none

/-- A value is left as it is if a path ends on it. -/
theorem cutTo_of_nil_mem (h : [] ∈ paths) (value : Bson) : value.cutTo paths = some value :=
  if_pos h

theorem cutTo_document (hpaths : [] ∉ paths) (hne : paths ≠ []) (fields : Document) :
    (Bson.document fields).cutTo paths = some (.document (fields.copied paths)) := by
  rw [cutTo, if_neg hpaths, if_neg hne]

/-- Of a value that is no document nothing is left, unless a path ends on it. -/
theorem cutTo_eq_none (hpaths : [] ∉ paths) {value : Bson}
    (h : ∀ fields, value ≠ .document fields) : value.cutTo paths = none := by
  unfold cutTo
  rw [if_neg hpaths]
  cases value with
  | document fields => exact absurd rfl (h fields)
  | _ => exact ite_self none

/-- What is left of a value is the value, or what copying left of its fields. -/
theorem cutTo_cases {value left : Bson} (h : value.cutTo paths = some left) :
    left = value ∨ ∃ fields, value = .document fields ∧
      left = .document (Document.copied fields paths) := by
  -- By whether a path ends on the value; if none does, then only a document can be cut.
  by_cases hpaths : [] ∈ paths
  · rw [cutTo_of_nil_mem hpaths, Option.some.injEq] at h
    exact Or.inl h.symm
  · have hne : paths ≠ [] := by
      rintro rfl
      cases h
    cases value with
    | document fields =>
      rw [cutTo_document hpaths hne, Option.some.injEq] at h
      exact Or.inr ⟨fields, rfl, h.symm⟩
    | _ =>
      rw [cutTo_eq_none hpaths (by simp)] at h
      cases h

/-- **Copying along one path more** cuts down to one path more. -/
theorem cutTo_append_singleton (value : Bson) (paths : List (List String)) (path : List String) :
    value.cutTo (paths ++ [path])
      = (value.copyInto ((value.cutTo paths).getD .null) path).or (value.cutTo paths) := by
  cases path with
  | nil => exact cutTo_of_nil_mem (List.mem_append_right _ List.mem_cons_self) value
  | cons name rest =>
    have hmem : [] ∈ paths ++ [name :: rest] ↔ [] ∈ paths := by
      rw [List.mem_append, List.mem_singleton, or_iff_left (List.cons_ne_nil name rest).symm]
    by_cases hpaths : [] ∈ paths
    · -- Everything is there already, and nothing is added to it.
      rw [cutTo_of_nil_mem (hmem.mpr hpaths), cutTo_of_nil_mem hpaths, Option.getD_some]
      cases value with
      | document fields =>
        have hself := Document.copyAt_self fields (name :: rest)
        exact (congrArg (some ∘ Bson.document) hself).symm
      | _ => rfl
    · have hne : paths ++ [name :: rest] ≠ [] := List.append_ne_nil_of_right_ne_nil _ (by simp)
      cases value with
      | document fields =>
        -- What earlier paths left is what the fields are added to, and no fields if there are none.
        have hearlier :
            (((Bson.document fields).cutTo paths).getD .null).innerFields
              = Document.copied fields paths := by
          by_cases hnil : paths = []
          · rw [hnil]
            rfl
          · rw [cutTo_document hpaths hnil]
            rfl
        rw [cutTo_document (hmem.not.mpr hpaths) hne, Document.copied_append_singleton, ← hearlier]
        rfl
      -- A value that is no document has nothing behind a name.
      | _ =>
        rw [cutTo_eq_none (hmem.not.mpr hpaths) (by simp), cutTo_eq_none hpaths (by simp)]
        rfl

end Bson

/-- **Under a name** of a copy stands what the source has there, cut down to the rests of the paths
that start with it. -/
theorem Document.get?_copied (hpaths : [] ∉ paths) (source : Document) (name : String) :
    Fields.get? (source.copied paths) name
      = (Fields.get? source name).bind (Bson.cutTo (restsBehind [name] paths)) := by
  -- Copying goes from the first path to the last, so the induction takes paths from the end.
  induction paths using List.reverseRecOn with
  | nil => cases Fields.get? source name <;> rfl
  | append_singleton paths path ih =>
    rw [List.mem_append, List.mem_singleton, not_or] at hpaths
    obtain ⟨first, rest, rfl⟩ := List.exists_cons_of_ne_nil (Ne.symm hpaths.2)
    have hrests : restsBehind [name] (paths ++ [first :: rest])
        = restsBehind [name] paths ++ restsBehind [name] [first :: rest] := List.filterMap_append
    rw [copied_append_singleton, hrests]
    -- The last path starts with the name, or does not concern it.
    by_cases hname : first = name
    · subst hname
      have hsingle : restsBehind [first] [first :: rest] = [rest] := by
        simp [restsBehind, restBehind?]
      rw [get?_copyAt_cons_self, copyUnder?, hsingle, Bson.held_document, ih hpaths.1]
      cases Fields.get? source first with
      | none => rfl
      | some value => exact (Bson.cutTo_append_singleton value _ rest).symm
    · have hsingle : restsBehind [name] [first :: rest] = [] := by
        simp [restsBehind, restBehind?, Ne.symm hname]
      rw [get?_copyAt_cons_of_ne hname, hsingle, List.append_nil]
      exact ih hpaths.1

/-- **Behind a way** through a value that was cut down stands what stood there before, cut down to
what the paths ask for there. -/
theorem Bson.valueAt?_cutTo (paths : List (List String)) (value : Bson) (way : List String) :
    ((value.cutTo paths).bind fun cut => cut.valueAt? way)
      = (value.valueAt? way).bind (Bson.cutTo (restsBehind way paths)) := by
  induction way generalizing paths value with
  | nil =>
    rw [restsBehind_nil_left]
    exact Option.bind_fun_some _
  | cons name way ih =>
    by_cases hpaths : [] ∈ paths
    · -- The value is left as it is, and everything behind the way is asked for.
      have hrests : [] ∈ restsBehind (name :: way) paths :=
        nil_mem_restsBehind.mpr ⟨[], hpaths, List.nil_prefix⟩
      have hcut : Bson.cutTo (restsBehind (name :: way) paths) = some :=
        funext (cutTo_of_nil_mem hrests)
      rw [cutTo_of_nil_mem hpaths, Option.bind_some, hcut, Option.bind_fun_some]
    · -- Only of a document something is left, and there the way goes one name on.
      cases value with
      | document fields =>
        by_cases hne : paths = []
        · subst hne
          cases (Bson.document fields).valueAt? (name :: way) <;> rfl
        · rw [cutTo_document hpaths hne, Option.bind_some, valueAt?_document_cons,
            valueAt?_document_cons, Document.get?_copied hpaths, restsBehind_cons name way,
            Option.bind_assoc, Option.bind_assoc]
          refine Option.bind_congr fun found _ => ?_
          exact ih _ found
      | _ =>
        rw [cutTo_eq_none hpaths (by simp)]
        rfl

end Cutting

/-! ### Projections -/

/-- The ways to what a projection returns: to the identifier, and to the named fields. -/
def Projection.paths (projection : Projection) : List (List String) :=
  [Schema.idField] :: projection.fields.map segments

theorem Projection.nil_notMem_paths (projection : Projection) : [] ∉ projection.paths := by
  unfold paths
  -- Neither the identifier nor a named field has an empty path.
  rw [List.mem_cons, List.mem_map, not_or]
  refine ⟨(List.cons_ne_nil _ _).symm, ?_⟩
  rintro ⟨field, -, hfield⟩
  exact segments_ne_nil field hfield

theorem Projection.segments_mem_paths {projection : Projection} {field : String}
    (h : field ∈ projection.fields) : segments field ∈ projection.paths :=
  List.mem_cons_of_mem _ (List.mem_map_of_mem h)

namespace Document

variable {projection : Projection}

/-- **A projection** copies along its paths. -/
theorem cut_eq_copied (h : projection.fields ≠ []) (document : Document) :
    cut projection document = document.copied projection.paths := by
  have hwhole : ¬ projection.isWhole = true := fun hwhole => h (List.isEmpty_iff.mp hwhole)
  -- The copy starts from the identifier alone, which is what the first path copies.
  have hid : document.identifierOnly = document.copyAt [] [Schema.idField] := rfl
  rw [cut, if_neg hwhole, hid, copied, Projection.paths, List.foldl_cons, List.foldl_map]

theorem cutTo_paths (h : projection.fields ≠ []) (document : Document) :
    (Bson.document document).cutTo projection.paths
      = some (.document (cut projection document)) := by
  have hpaths : projection.paths ≠ [] := List.cons_ne_nil _ _
  rw [Bson.cutTo_document projection.nil_notMem_paths hpaths, cut_eq_copied h]

/-- **Behind a way** through what is left stands what stood there before, cut down to what the paths
of the projection ask for there. -/
theorem valueAt?_cut (h : projection.fields ≠ []) (document : Document) (way : List String) :
    (Bson.document (cut projection document)).valueAt? way
      = ((Bson.document document).valueAt? way).bind
          (Bson.cutTo (restsBehind way projection.paths)) := by
  rw [← Bson.valueAt?_cutTo, cutTo_paths h, Option.bind_some]

/-- Whether a dotted path meets an array of a document that a projection leaves out: none of the
paths of the projection ends on the array or before it. -/
def StopsAtArray (document : Document) (projection : Projection) (path : String) : Prop :=
  ∃ way, way <+: segments path ∧ (Bson.document document).ArrayAt way ∧
    ∀ listed ∈ projection.paths, ¬ listed <+: way

/-- Of the arrays of a document those are left on which a path ends, or before which one does. -/
private theorem arrayAt_cut_iff (h : projection.fields ≠ []) (document : Document)
    (way : List String) (items : List Bson) :
    (Bson.document (cut projection document)).valueAt? way = some (.array items) ↔
      (Bson.document document).valueAt? way = some (.array items) ∧
        ∃ listed ∈ projection.paths, listed <+: way := by
  rw [valueAt?_cut h, ← nil_mem_restsBehind]
  by_cases hend : [] ∈ restsBehind way projection.paths
  · rw [funext (Bson.cutTo_of_nil_mem hend), Option.bind_fun_some, and_iff_left hend]
  · refine iff_of_false ?_ fun hboth => hend hboth.2
    intro hfound
    obtain ⟨value, -, hvalue⟩ := Option.bind_eq_some_iff.mp hfound
    -- A value on which no path ends is a document, if anything of it is left.
    cases value with
    | document fields =>
      rcases Bson.cutTo_cases hvalue with hsame | ⟨fields, -, hcopied⟩
      · cases hsame
      · cases hcopied
    | _ =>
      rw [Bson.cutTo_eq_none hend (by simp)] at hvalue
      cases hvalue

/-- **What a named field reaches** after a projection. If the field goes on from an array that is
not returned as a whole, then the array is left out, and nothing is reached. Otherwise the field
reaches what it reached in the document, also through arrays. -/
theorem resolve_cut {path : String} (h : path ∈ projection.fields) (document : Document) :
    (document.StopsAtArray projection path → (cut projection document).resolve path = []) ∧
      (¬ document.StopsAtArray projection path →
        (cut projection document).resolve path = document.resolve path) := by
  have hfields : projection.fields ≠ [] := List.ne_nil_of_mem h
  have hlisted : segments path ∈ projection.paths := Projection.segments_mem_paths h
  -- The field is named, so what stands at its end is left as it is.
  have hend : (Bson.document (cut projection document)).valueAt? (segments path)
      = (Bson.document document).valueAt? (segments path) := by
    have hrests : [] ∈ restsBehind (segments path) projection.paths :=
      nil_mem_restsBehind.mpr ⟨segments path, hlisted, List.prefix_refl _⟩
    rw [valueAt?_cut hfields, funext (Bson.cutTo_of_nil_mem hrests), Option.bind_fun_some]
  rw [resolve_eq_follow, resolve_eq_follow]
  constructor
  · rintro ⟨way, hway, harray, hbefore⟩
    have hne : way ≠ segments path := fun heq =>
      hbefore (segments path) hlisted (heq ▸ List.prefix_refl _)
    refine Bson.follow_eq_nil_of_array harray hway hne hend ?_ ?_
    · -- The arrays that are left are arrays of the document, and the one on the way is not left.
      rintro other - ⟨items, hitems⟩
      exact ⟨items, ((arrayAt_cut_iff hfields document other items).mp hitems).1⟩
    · rintro ⟨items, hitems⟩
      obtain ⟨-, listed, hmem, hon⟩ := (arrayAt_cut_iff hfields document way items).mp hitems
      exact hbefore listed hmem hon
  · -- Otherwise every array on the way is left, and nothing but these.
    intro hstops
    refine Bson.follow_congr hend fun way hway items => ?_
    rw [arrayAt_cut_iff hfields, and_iff_left_iff_imp]
    intro hitems
    by_contra hnone
    refine hstops ⟨way, hway, ⟨items, hitems⟩, fun listed hmem hon => ?_⟩
    exact hnone ⟨listed, hmem, hon⟩

/-- A kit of one part. -/
def oneKit : Document :=
  [("_id", .objectId (.ofNat 1)), ("parts", .array [.document [("code", .string "x")]])]

/-- The codes of the parts of a kit are not returned, unless the parts are. -/
theorem resolve_cut_codes :
    ("parts.code" ∈ ["parts.code"] ∧ oneKit.StopsAtArray ⟨["parts.code"]⟩ "parts.code" ∧
      (cut ⟨["parts.code"]⟩ oneKit).resolve "parts.code" = []) ∧
    ("parts.code" ∈ ["parts", "parts.code"] ∧
      ¬ oneKit.StopsAtArray ⟨["parts", "parts.code"]⟩ "parts.code" ∧
      (cut ⟨["parts", "parts.code"]⟩ oneKit).resolve "parts.code" = [.string "x"]) := by
  have hsegments : segments "parts.code" = ["parts", "code"] := by decide +kernel
  constructor
  · have hlisted : "parts.code" ∈ (⟨["parts.code"]⟩ : Projection).fields := List.mem_cons_self
    have hstops : oneKit.StopsAtArray ⟨["parts.code"]⟩ "parts.code" := by
      refine ⟨["parts"], ?_, ⟨_, rfl⟩, ?_⟩
      · rw [hsegments]
        decide
      · -- The identifier and the codes are listed, and neither of them ends on the parts.
        unfold Projection.paths
        rw [List.map_singleton, hsegments]
        decide
    exact ⟨hlisted, hstops, (resolve_cut hlisted oneKit).1 hstops⟩
  · have hlisted : "parts.code" ∈ (⟨["parts", "parts.code"]⟩ : Projection).fields := by decide
    have hparts : ["parts"] ∈ (⟨["parts", "parts.code"]⟩ : Projection).paths := by decide +kernel
    have hstops : ¬ oneKit.StopsAtArray ⟨["parts", "parts.code"]⟩ "parts.code" := by
      rintro ⟨way, hway, ⟨items, hitems⟩, hbefore⟩
      rw [hsegments] at hway
      cases way with
      | nil =>
        -- The whole document is no array.
        cases hitems
      | cons name rest =>
        -- Every way that begins with the parts has them listed on it.
        obtain ⟨rfl, -⟩ := List.cons_prefix_cons.mp hway
        exact hbefore ["parts"] hparts (List.cons_prefix_cons.mpr ⟨rfl, List.nil_prefix⟩)
    have hcodes : oneKit.resolve "parts.code" = [.string "x"] := by
      rw [resolve, hsegments]
      rfl
    exact ⟨hlisted, hstops, ((resolve_cut hlisted oneKit).2 hstops).trans hcodes⟩

/-- **Not every named field is returned.** A query reaches the codes of the parts of a kit, and the
projection to these codes leaves none of them. -/
theorem not_returnsNamed : ¬ ∀ (projection : Projection) (document : Document),
    ∀ path ∈ projection.fields,
      (cut projection document).resolve path = document.resolve path := by
  intro h
  have hresolve := h ⟨["parts.code"]⟩ oneKit "parts.code" List.mem_cons_self
  have hlength := congrArg List.length hresolve
  exact absurd hlength (by decide +kernel)

end Document

end DocumentApi
