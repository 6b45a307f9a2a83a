import DocumentApi.Proofs.Document.Cut

/-!
# The laws of projections

What a projection leaves of a document (`Document.CutLaws`) is determined by the places that are
named, and not by how and in which order they are named. Paths may lead through each other's ends,
so that one path copies a document as a whole and another one a part of it; in which order this
happens shows in the order of fields only.

* `Document.reordered_copied` — lists of paths that ask for the same behind every way
  (`AskAlike`) leave the same up to the order of fields. The induction is on a bound of the lengths
  of paths, since the paths behind a name are shorter.
* `Document.copied_copied` — copying from a copy is copying from the document: along each of the
  paths the copy is like the document.
-/

namespace DocumentApi

open Criteria (Overlaps)

/-! ### Paths that ask for the same -/

/-- Whether two lists of paths ask for everything behind the same ways, and for nothing behind the
same ways. -/
structure AskAlike (paths others : List (List String)) : Prop where
  everything : ∀ way, [] ∈ restsBehind way paths ↔ [] ∈ restsBehind way others
  nothing : ∀ way, restsBehind way paths = [] ↔ restsBehind way others = []

namespace AskAlike

variable {paths others : List (List String)}

/-- Behind every way they ask for the same again. -/
theorem restsBehind_singleton (h : AskAlike paths others) (name : String) :
    AskAlike (restsBehind [name] paths) (restsBehind [name] others) where
  everything way := by
    rw [← restsBehind_cons, ← restsBehind_cons]
    exact h.everything (name :: way)
  nothing way := by
    rw [← restsBehind_cons, ← restsBehind_cons]
    exact h.nothing (name :: way)

theorem nil_mem_iff (h : AskAlike paths others) : [] ∈ paths ↔ [] ∈ others := by
  have heverything := h.everything []
  rwa [restsBehind_nil_left, restsBehind_nil_left] at heverything

theorem eq_nil_iff (h : AskAlike paths others) : paths = [] ↔ others = [] := by
  have hnothing := h.nothing []
  rwa [restsBehind_nil_left, restsBehind_nil_left] at hnothing

/-- Paths in another order ask for the same. -/
theorem of_perm (h : paths.Perm others) : AskAlike paths others where
  everything way := (h.filterMap _).mem_iff
  nothing way := by
    rw [restsBehind_eq_nil, restsBehind_eq_nil]
    exact forall_congr' fun path => imp_congr_left h.mem_iff

/-- A path that goes on from the end of another one asks for nothing more. -/
theorem cons {listed added : List String} (hmem : listed ∈ paths) (hon : listed <+: added) :
    AskAlike (added :: paths) paths where
  everything way := by
    -- What is added ends on a way only where the path before it does.
    rw [nil_mem_restsBehind, nil_mem_restsBehind]
    constructor
    · rintro ⟨path, hpath, hway⟩
      rcases List.mem_cons.mp hpath with rfl | hpath
      · exact ⟨listed, hmem, hon.trans hway⟩
      · exact ⟨path, hpath, hway⟩
    · rintro ⟨path, hpath, hway⟩
      exact ⟨path, List.mem_cons_of_mem _ hpath, hway⟩
  nothing way := by
    -- The way and the added path both go on from the listed one, so one of them goes on from the
    -- other.
    rw [restsBehind_eq_nil, restsBehind_eq_nil, List.forall_mem_cons, and_iff_right_iff_imp]
    rintro hpaths (hadded | hway)
    · exact hpaths listed hmem (Or.inl (hon.trans hadded))
    · exact hpaths listed hmem (List.prefix_or_prefix_of_prefix hon hway)

theorem trans {last : List (List String)} (h : AskAlike paths others)
    (h' : AskAlike others last) : AskAlike paths last :=
  ⟨fun way => (h.everything way).trans (h'.everything way),
    fun way => (h.nothing way).trans (h'.nothing way)⟩

end AskAlike

variable {paths others : List (List String)}

/-! ### Other paths to the same places -/

/-- Nothing is left of a value on which no path ends if no path leads there, or none leads on since
the value is no document. -/
theorem Bson.cutTo_eq_none_iff {value : Bson} :
    value.cutTo paths = none ↔
      [] ∉ paths ∧ (paths = [] ∨ ∀ fields, value ≠ .document fields) := by
  -- By whether a path ends on the value, and then by whether there are paths at all.
  by_cases hpaths : [] ∈ paths
  · rw [cutTo_of_nil_mem hpaths]
    exact iff_of_false (Option.some_ne_none _) fun h => h.1 hpaths
  · rw [and_iff_right hpaths]
    by_cases hne : paths = []
    · subst hne
      exact iff_of_true rfl (Or.inl rfl)
    · rw [or_iff_right hne]
      refine ⟨fun hnone fields hvalue => ?_, cutTo_eq_none hpaths⟩
      rw [hvalue, cutTo_document hpaths hne] at hnone
      cases hnone

namespace Document

theorem nodup_keys_copyAt {target : Document} (h : (Fields.keys target).Nodup) (source : Document)
    (path : List String) : (Fields.keys (source.copyAt target path)).Nodup := by
  cases path with
  | nil => exact h
  | cons name rest =>
    rw [copyAt_cons]
    -- The copy has one name more, or none.
    cases source.copyUnder? target name rest with
    | none => exact h
    | some value => exact Fields.nodup_keys_insert h name value

/-- The names of a copy are distinct. -/
theorem nodup_keys_copied (source : Document) (paths : List (List String)) :
    (Fields.keys (source.copied paths)).Nodup := by
  induction paths using List.reverseRecOn with
  | nil => exact List.nodup_nil
  | append_singleton paths path ih =>
    rw [copied_append_singleton]
    exact nodup_keys_copyAt ih source path

/-- **The names of a copy** are the same for paths that ask for the same. -/
theorem keys_copied_perm (h : AskAlike paths others) (hpaths : [] ∉ paths) (source : Document) :
    (Fields.keys (source.copied paths)).Perm (Fields.keys (source.copied others)) := by
  have hothers : [] ∉ others := h.nil_mem_iff.not.mp hpaths
  rw [List.perm_ext_iff_of_nodup (nodup_keys_copied source paths) (nodup_keys_copied source others)]
  intro name
  -- A name is missing in both, if it is missing in one: the paths below it leave nothing in both.
  rw [← not_iff_not, ← Fields.get?_eq_none_iff, ← Fields.get?_eq_none_iff, get?_copied hpaths,
    get?_copied hothers]
  cases Fields.get? source name with
  | none => exact Iff.rfl
  | some value =>
    have hbelow := h.restsBehind_singleton name
    rw [Option.bind_some, Option.bind_some, Bson.cutTo_eq_none_iff, Bson.cutTo_eq_none_iff,
      hbelow.nil_mem_iff, hbelow.eq_nil_iff]

end Document

/-- **Paths that ask for the same** leave the same of a value, up to the order of fields. -/
theorem Bson.reordered_of_cutTo (h : AskAlike paths others) {value left left' : Bson}
    (hleft : value.cutTo paths = some left) (hleft' : value.cutTo others = some left') :
    Bson.Reordered left left' := by
  obtain ⟨bound, hbound⟩ := exists_forall_length_lt paths
  induction bound generalizing paths others value left left' with
  | zero =>
    -- There are no paths, and without them nothing is left.
    have hnil : paths = [] :=
      List.eq_nil_iff_forall_not_mem.mpr fun path hmem => Nat.not_lt_zero _ (hbound path hmem)
    rw [hnil] at hleft
    cases hleft
  | succ bound ih =>
    by_cases hpaths : [] ∈ paths
    · -- Both leave the value as it is.
      rw [cutTo_of_nil_mem hpaths] at hleft
      rw [cutTo_of_nil_mem (h.nil_mem_iff.mp hpaths)] at hleft'
      rw [Option.some.inj (hleft.symm.trans hleft')]
      exact .refl left'
    · -- Both leave a document, and under every name what the paths behind this name leave.
      have hothers : [] ∉ others := h.nil_mem_iff.not.mp hpaths
      have hne : paths ≠ [] := by
        rintro rfl
        cases hleft
      cases value with
      | document fields =>
        rw [cutTo_document hpaths hne, Option.some.injEq] at hleft
        rw [cutTo_document hothers (h.eq_nil_iff.not.mp hne), Option.some.injEq] at hleft'
        subst hleft hleft'
        refine .document (Document.keys_copied_perm h hpaths fields) ?_
        intro name found found' hfound hfound'
        rw [Document.get?_copied hpaths] at hfound
        rw [Document.get?_copied hothers] at hfound'
        obtain ⟨below, hbelow, hcut⟩ := Option.bind_eq_some_iff.mp hfound
        obtain ⟨below', hbelow', hcut'⟩ := Option.bind_eq_some_iff.mp hfound'
        obtain rfl : below = below' := Option.some.inj (hbelow.symm.trans hbelow')
        refine ih (h.restsBehind_singleton name) hcut hcut' fun rest hrest => ?_
        exact Nat.lt_of_succ_lt_succ (hbound _ ((mem_restsBehind_singleton hpaths).mp hrest))
      | _ =>
        rw [cutTo_eq_none hpaths (by simp)] at hleft
        cases hleft

namespace Document

variable {projection other : Projection}

/-- **Projections whose paths ask for the same** leave the same of a document, up to the order of
fields. -/
theorem reordered_cut (h : AskAlike other.paths projection.paths) (hother : other.fields ≠ [])
    (hfields : projection.fields ≠ []) (document : Document) :
    Reordered (cut other document) (cut projection document) :=
  Bson.reordered_of_cutTo h (cutTo_paths hother document) (cutTo_paths hfields document)

/-! ### Projecting again -/

/-- **Along one of its paths** a copy is like the document: the same is copied from it. -/
theorem copyAt_copied (hpaths : [] ∉ paths) {path : List String} (hmem : path ∈ paths)
    (source target : Document) :
    (source.copied paths).copyAt target path = source.copyAt target path := by
  induction path generalizing paths source target with
  | nil => exact absurd hmem hpaths
  | cons name rest ih =>
    have hrest : rest ∈ restsBehind [name] paths := (mem_restsBehind_singleton hpaths).mpr hmem
    -- What the copy has under the name is what the document has, cut down to the rests of the
    -- paths.
    rw [copyAt_cons, copyAt_cons, copyUnder?, copyUnder?, get?_copied hpaths, Option.bind_assoc]
    -- Both put the same under the name, whatever stands there in the document.
    refine congrArg (fun copy => Option.elim copy target (Fields.insert target name)) ?_
    refine Option.bind_congr fun value _ => ?_
    by_cases hwhole : [] ∈ restsBehind [name] paths
    · rw [Bson.cutTo_of_nil_mem hwhole, Option.bind_some]
    · -- The path goes on from here, and so it takes something only from a document.
      obtain ⟨next, rest, rfl⟩ := List.exists_cons_of_ne_nil (ne_of_mem_of_not_mem hrest hwhole)
      cases value with
      | document fields =>
        rw [Bson.cutTo_document hwhole (List.ne_nil_of_mem hrest), Option.bind_some]
        exact congrArg (some ∘ Bson.document) (ih hwhole hrest fields _)
      | _ =>
        rw [Bson.cutTo_eq_none hwhole (by simp)]
        rfl

/-- **A copy of a copy** along the same paths is the copy, with the order of its fields. -/
theorem copied_copied (hpaths : [] ∉ paths) (source : Document) :
    (source.copied paths).copied paths = source.copied paths :=
  -- Path by path, with whatever the earlier ones have copied.
  List.foldl_ext _ _ _ fun target _ hmem => copyAt_copied hpaths hmem source target

/-! ### The laws -/

/-- **The laws of projections**, of what a projection leaves of a document. -/
structure CutLaws (projection : Projection) (document : Document) : Prop where
  /-- There is an identifier if the document has one, and it is the same. -/
  identifier : Fields.get? (cut projection document) Schema.idField
    = Fields.get? document Schema.idField
  /-- Everything that is left stands in the same place in the document, and is the same there or a
  document, which was cut down to what the paths ask for in this place. -/
  present : ∀ way left, (Bson.document (cut projection document)).valueAt? way = some left →
    ∃ found, (Bson.document document).valueAt? way = some found ∧
      (left = found ∨ ∃ fields, found = .document fields ∧
        left = .document (copied fields (restsBehind way projection.paths)))
  /-- A field that is left lies on the way to the end of a path, or behind it. -/
  listed : ∀ way left, (Bson.document (cut projection document)).valueAt? way = some left →
    ∃ path ∈ projection.paths, Overlaps path way
  /-- Projecting again changes nothing, not even the order of fields. -/
  again : cut projection (cut projection document) = cut projection document
  /-- Names in another order leave the same up to the order of fields. -/
  reordered : ∀ other : Projection, other.fields.Perm projection.fields →
    Reordered (cut other document) (cut projection document)
  /-- So does a path more, anywhere among the others, if it goes on from the end of one of them. -/
  extended : ∀ field ∈ projection.fields, ∀ added, segments field <+: segments added →
    ∀ other : Projection, other.fields.Perm (added :: projection.fields) →
      Reordered (cut other document) (cut projection document)

/-- **A projection** to any fields keeps the laws, whatever the document is and however the paths
lead through each other's ends. -/
theorem cutLaws (h : projection.fields ≠ []) (document : Document) :
    CutLaws projection document where
  identifier := by
    -- The identifier is always listed, and what a path ends on is left as it is.
    have hwhole : [] ∈ restsBehind [Schema.idField] projection.paths :=
      nil_mem_restsBehind.mpr ⟨_, List.mem_cons_self, List.prefix_refl _⟩
    rw [cut_eq_copied h, get?_copied projection.nil_notMem_paths,
      funext (Bson.cutTo_of_nil_mem hwhole), Option.bind_fun_some]
  present := by
    intro way left hleft
    -- Behind every way stands what stood there, cut down.
    rw [valueAt?_cut h] at hleft
    obtain ⟨found, hfound, hcut⟩ := Option.bind_eq_some_iff.mp hleft
    exact ⟨found, hfound, Bson.cutTo_cases hcut⟩
  listed := by
    intro way left hleft
    rw [valueAt?_cut h] at hleft
    obtain ⟨found, -, hcut⟩ := Option.bind_eq_some_iff.mp hleft
    -- If no path were listed on the way or behind it, then nothing would be left there.
    by_contra hnone
    have hrests : restsBehind way projection.paths = [] :=
      restsBehind_eq_nil.mpr fun path hmem hpath => hnone ⟨path, hmem, hpath⟩
    rw [hrests] at hcut
    cases hcut
  again := by
    rw [cut_eq_copied h, cut_eq_copied h]
    exact copied_copied projection.nil_notMem_paths document
  reordered := by
    intro other hperm
    -- The paths are those of the fields in another order, behind that of the identifier.
    have halike : AskAlike other.paths projection.paths :=
      .of_perm ((hperm.map segments).cons [Schema.idField])
    exact reordered_cut halike (fun hnil => h (hnil ▸ hperm).nil_eq.symm) h document
  extended := by
    intro field hfield added hon other hperm
    -- The added path comes second, behind the identifier.
    have hpaths : other.paths.Perm (segments added :: projection.paths) :=
      ((hperm.map segments).cons [Schema.idField]).trans (.swap _ _ _)
    have halike : AskAlike other.paths projection.paths :=
      (AskAlike.of_perm hpaths).trans (.cons (Projection.segments_mem_paths hfield) hon)
    have hother : other.fields ≠ [] :=
      List.ne_nil_of_mem (hperm.symm.subset List.mem_cons_self)
    exact reordered_cut halike hother h document

/-- The laws hold of a projection that names a part of a document and then the document. -/
theorem cutLaws_nested : (["size.width", "size"] : List String) ≠ [] ∧
    CutLaws ⟨["size.width", "size"]⟩
      [("size", .document [("height", .int32 1), ("width", .int32 2)])] := by
  have hfields : (["size.width", "size"] : List String) ≠ [] := List.cons_ne_nil _ _
  exact ⟨hfields, cutLaws hfields _⟩

end Document

end DocumentApi
