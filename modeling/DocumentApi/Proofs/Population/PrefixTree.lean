import DocumentApi.Proofs.Population.Chains
import DocumentApi.Proofs.Text.Pieces

/-!
# Reading and writing prefix trees

A text lists chains of names, and reading it gives the prefix tree of these chains. The tree can be
written as the list of the paths to its leaves, with colons between names and commas between paths.

* `Population.insertChains_leafPaths` — inserting the paths to the leaves from left to right builds
  a tree again, if siblings have distinct names;
* `Population.parse_of_paths` — paths of plain names are read as the chains that they are;
* `Population.parse_prefixTree` — the tree of any text: its paths, its siblings and their order, and
  that it is read again from what is written of it.
-/

namespace DocumentApi.Population

/-! ### The paths to the leaves -/

mutual

/-- The paths that lead from the level of a node to a leaf. -/
def Node.leafPaths : Node → List (List String)
  | .mk name [] => [[name]]
  | .mk name (child :: more) => (leafPaths (child :: more)).map (name :: ·)

/-- The paths that lead from the root to a leaf, in the order of the tree. -/
def leafPaths : List Node → List (List String)
  | [] => []
  | node :: rest => node.leafPaths ++ leafPaths rest

end

/-- A tree as a text: the paths to its leaves. -/
def render (population : Population) : String :=
  ",".intercalate ((leafPaths population).map (":".intercalate ·))

mutual

theorem Node.leafPaths_subset (node : Node) : node.leafPaths ⊆ node.paths := by
  -- A leaf is at the end of its own path; otherwise the paths lead below the node.
  match node with
  | .mk name [] =>
    intro path hpath
    rw [Node.leafPaths, List.mem_singleton] at hpath
    rw [Node.paths, hpath]
    exact List.mem_cons_self
  | .mk name (child :: more) =>
    rw [Node.leafPaths, Node.paths]
    exact List.subset_cons_of_subset _ (List.map_subset _ (leafPaths_subset (child :: more)))

/-- A path to a leaf leads to a node. -/
theorem leafPaths_subset (nodes : List Node) : leafPaths nodes ⊆ paths nodes := by
  match nodes with
  | [] => exact List.Subset.refl _
  | node :: rest =>
    rw [leafPaths, paths]
    exact List.append_subset.mpr
      ⟨List.subset_append_of_subset_left _ node.leafPaths_subset,
        List.subset_append_of_subset_right _ (leafPaths_subset rest)⟩

end

theorem Node.leafPaths_ne_nil (node : Node) : node.leafPaths ≠ [] := by
  -- Below a node there is always a leaf.
  match node with
  | .mk name [] => exact List.cons_ne_nil [name] []
  | .mk name (child :: more) =>
    rw [Node.leafPaths, Ne, List.map_eq_nil_iff, Population.leafPaths,
      List.append_eq_nil_iff]
    exact fun hnone => child.leafPaths_ne_nil hnone.1

/-- Chains that all start with a name change what is below this name. -/
theorem insertChains_map_cons (key : String) {chains : List (List String)} (hne : chains ≠ [])
    (population : Population) :
    insertChains population (chains.map (key :: ·))
      = alter key (fun children => insertChains children chains) population := by
  induction chains generalizing population with
  | nil => exact absurd rfl hne
  | cons chain rest ih =>
    -- A single chain makes the change, and further ones go on from it.
    by_cases hrest : rest = []
    · subst hrest
      rfl
    · calc insertChains population ((chain :: rest).map (key :: ·))
          = insertChains (alter key (insert chain) population) (rest.map (key :: ·)) := rfl
        _ = alter key (fun children => insertChains children rest)
              (alter key (insert chain) population) := ih hrest _
        _ = alter key (fun children => insertChains children (chain :: rest)) population :=
              alter_alter

mutual

/-- One node is built again behind others, if none of them has its name. -/
theorem Node.insertChains_leafPaths (node : Node) (h : node.DistinctPaths) {population : Population}
    (hnew : node.path ∉ population.map Node.path) :
    insertChains population node.leafPaths = population ++ [node] := by
  match node with
  -- A leaf is added as a node without children.
  | .mk name [] => exact alter_of_notMem hnew
  | .mk name (child :: more) =>
    change name ∉ population.map Node.path at hnew
    have hfilled : Population.leafPaths (child :: more) ≠ [] :=
      fun hnone => child.leafPaths_ne_nil (List.append_eq_nil_iff.mp hnone).1
    have hbelow : insertChains [] (Population.leafPaths (child :: more)) = child :: more :=
      Population.insertChains_leafPaths (child :: more) h fun _ _ => List.not_mem_nil
    rw [Node.leafPaths, insertChains_map_cons name hfilled, alter_of_notMem hnew, hbelow]

/-- **Building a tree again** from the paths to its leaves, behind nodes of other names. -/
theorem insertChains_leafPaths (nodes : List Node) (h : DistinctPaths nodes)
    {population : Population}
    (hnew : ∀ name ∈ nodes.map Node.path, name ∉ population.map Node.path) :
    insertChains population (leafPaths nodes) = population ++ nodes := by
  match nodes with
  | [] => exact (List.append_nil population).symm
  | node :: rest =>
    obtain ⟨hfirst, hdistinct⟩ := List.nodup_cons.mp h.1
    obtain ⟨hnode, hothers⟩ := List.forall_mem_cons.mp hnew
    -- Neither the population nor the first node has a name of the rest.
    have hrest : ∀ name ∈ rest.map Node.path, name ∉ (population ++ [node]).map Node.path := by
      intro name hname hmem
      rw [List.map_append, List.mem_append] at hmem
      rcases hmem with hold | hsame
      · exact hothers name hname hold
      · obtain rfl : name = node.path := List.mem_singleton.mp hsame
        exact hfirst hname
    calc insertChains population (leafPaths (node :: rest))
        = insertChains (insertChains population node.leafPaths) (leafPaths rest) :=
          insertChains_append _ _ _
      _ = insertChains (population ++ [node]) (leafPaths rest) := by
          rw [Node.insertChains_leafPaths node h.2.1 hnode]
      _ = population ++ [node] ++ rest :=
          insertChains_leafPaths rest ⟨hdistinct, h.2.2⟩ hrest
      _ = population ++ node :: rest := List.append_cons population node rest ▸ rfl

end

/-! ### Chains in a text -/

/-- The chains that a text lists: what stands between commas, each as what stands between colons,
trimmed and without what is empty. -/
def writtenChains (raw : String) : List (List String) :=
  (raw.toList.splitOn ',').map fun item =>
    (((item.splitOn ':').map Text.trimChars).filter (· ≠ [])).map String.ofList

/-- A name that stands for itself in a list of chains. -/
structure IsPlain (name : String) : Prop where
  ne_empty : name ≠ ""
  trimmed : Text.trimChars name.toList = name.toList
  no_colon : ':' ∉ name.toList
  no_comma : ',' ∉ name.toList

theorem map_keysOf_pieces (raw : String) :
    (Text.pieces ',' raw.toList).map keysOf = writtenChains raw := by
  unfold writtenChains keysOf
  rw [Text.pieces_eq_splitOn]
  refine List.map_congr_left fun item _ => ?_
  rw [Text.pieces_eq_splitOn]
  -- The two ways of saying that a name is not empty agree.
  congr 2
  funext name
  cases name <;> rfl

/-- Reading a text inserts the chains that it lists. -/
theorem parse_eq (raw : String) : parse raw = insertChains [] (writtenChains raw) := by
  rw [← map_keysOf_pieces, insertChains, List.foldl_map]
  rfl

theorem isPlain_of_mem_writtenChains {raw : String} {chain : List String}
    (hchain : chain ∈ writtenChains raw) {name : String} (hname : name ∈ chain) : IsPlain name := by
  rw [← map_keysOf_pieces] at hchain
  obtain ⟨item, hitem, rfl⟩ := List.mem_map.mp hchain
  obtain ⟨trimmed, htrimmed, rfl⟩ := List.mem_map.mp hname
  obtain ⟨hcut, hfilled⟩ := List.mem_filter.mp htrimmed
  obtain ⟨piece, hpiece, rfl⟩ := List.mem_map.mp hcut
  have htext : (String.ofList (Text.trimChars piece)).toList = Text.trimChars piece :=
    String.toList_ofList
  -- The name is a trimmed piece that is not empty.
  refine ⟨?_, ?_, ?_, ?_⟩
  · intro hempty
    rw [← htext, hempty] at hfilled
    exact absurd hfilled (by decide)
  · rw [htext, Text.trimChars_trimChars]
  · rw [htext]
    -- Characters of the piece come from the item, and those of the item from the text.
    exact fun hmem => Text.notMem_of_mem_pieces hpiece (Text.mem_of_mem_trimChars hmem)
  · rw [htext]
    intro hmem
    have hcomma : ',' ∈ item := Text.mem_of_mem_pieces hpiece (Text.mem_of_mem_trimChars hmem)
    exact Text.notMem_of_mem_pieces hitem hcomma

/-- A path of plain names, with colons between them, is cut into these names. -/
theorem keysOf_intercalate {path : List String} (hne : path ≠ [])
    (hnames : ∀ name ∈ path, IsPlain name) : keysOf (":".intercalate path).toList = path := by
  -- Plain names are left by trimming, and none of them is dropped as empty.
  have htrimmed : (path.map String.toList).map Text.trimChars = path.map String.toList := by
    rw [List.map_map]
    exact List.map_congr_left fun name hname => (hnames name hname).trimmed
  have hfilled : (path.map String.toList).filter (!·.isEmpty) = path.map String.toList := by
    rw [List.filter_eq_self]
    intro text htext
    obtain ⟨name, hname, rfl⟩ := List.mem_map.mp htext
    have hempty : name.toList ≠ [] :=
      fun heq => (hnames name hname).ne_empty (String.toList_eq_nil_iff.mp heq)
    simpa using hempty
  unfold keysOf
  rw [Text.pieces_intercalate rfl hne fun name hname => (hnames name hname).no_colon, htrimmed,
    hfilled, List.map_map]
  exact List.map_id'' (fun name => String.ofList_toList) path

/-- **Reading what is written.** Paths of plain names are read as chains of these names. -/
theorem parse_of_paths {chains : List (List String)} (hne : ∀ chain ∈ chains, chain ≠ [])
    (hnames : ∀ chain ∈ chains, ∀ name ∈ chain, IsPlain name) :
    parse (",".intercalate (chains.map (":".intercalate ·))) = insertChains [] chains := by
  by_cases hnone : chains = []
  · -- A text without any path is one empty item.
    subst hnone
    rfl
  · -- The names hold no commas, so that the items are the paths.
    have hcommas : ∀ item ∈ chains.map (":".intercalate ·), ',' ∉ item.toList := by
      intro item hitem
      obtain ⟨chain, hchain, rfl⟩ := List.mem_map.mp hitem
      exact Text.notMem_intercalate (by decide) fun name hname =>
        (hnames chain hchain name hname).no_comma
    have hread : writtenChains (",".intercalate (chains.map (":".intercalate ·))) = chains := by
      rw [← map_keysOf_pieces, Text.pieces_intercalate rfl (by simpa using hnone) hcommas,
        List.map_map, List.map_map]
      refine (List.map_congr_left fun chain hchain => ?_).trans (List.map_id chains)
      exact keysOf_intercalate (hne chain hchain) (hnames chain hchain)
    rw [parse_eq, hread]

/-- **A population is a prefix tree.** The paths from the root to a node are the prefixes of the
chains that the text lists, apart from the empty one, and no two nodes have the same path: siblings
have distinct names. At every place of the tree they stand in the order in which the text first
leads there. And if the paths to the leaves are written in the order of the tree, then reading them
gives the same tree. -/
theorem parse_prefixTree (raw : String) :
    (∀ path, path ∈ paths (parse raw) ↔ path ≠ [] ∧ ∃ chain ∈ writtenChains raw, path <+: chain) ∧
      (paths (parse raw)).Nodup ∧ DistinctPaths (parse raw) ∧
      (∀ path, (below (parse raw) path).map Node.path
        = ((chainsBehind path (writtenChains raw)).filterMap List.head?).eraseDups) ∧
      parse (render (parse raw)) = parse raw := by
  have htree : parse raw = insertChains [] (writtenChains raw) := parse_eq raw
  have hdistinct : DistinctPaths (parse raw) := htree ▸ distinctPaths_insertChains _
  have hpaths : ∀ path, path ∈ paths (parse raw)
      ↔ path ≠ [] ∧ ∃ chain ∈ writtenChains raw, path <+: chain := by
    intro path
    rw [htree, mem_paths_insertChains]
  refine ⟨hpaths, nodup_paths _ hdistinct, hdistinct, fun path => ?_, ?_⟩
  · -- At every place the tree below is made of what is left of the chains.
    rw [htree, below_insertChains, map_path_insertChains]
  · -- The names of the tree come from the text, so that they are plain.
    have hleaf : ∀ path ∈ leafPaths (parse raw),
        path ≠ [] ∧ ∃ chain ∈ writtenChains raw, path <+: chain :=
      fun path hpath => (hpaths path).mp (leafPaths_subset _ hpath)
    calc parse (render (parse raw))
        = insertChains [] (leafPaths (parse raw)) := by
          refine parse_of_paths (fun path hpath => (hleaf path hpath).1) ?_
          intro path hpath name hname
          obtain ⟨-, chain, hchain, hstart⟩ := hleaf path hpath
          exact isPlain_of_mem_writtenChains hchain (hstart.subset hname)
      _ = parse raw := insertChains_leafPaths _ hdistinct fun _ _ => List.not_mem_nil

/-- Chains with shared names, blanks, an item without names, and one that leaves a name out. -/
example : parse "a:b:c, a : d,x,,a::b" = [.mk "a" [.mk "b" [.mk "c" []], .mk "d" []], .mk "x" []] ∧
    render (parse "a:b:c, a : d,x,,a::b") = "a:b:c,a:d,x" :=
  ⟨rfl, by decide +kernel⟩

end DocumentApi.Population
