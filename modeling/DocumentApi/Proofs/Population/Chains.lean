import DocumentApi.Proofs.Fields.Pairs
import DocumentApi.Proofs.Population.Meaning

/-!
# The tree of some chains

A population is built by inserting chains of names, each into what the chains before it have left.
What is at a place of the tree depends on the chains that lead there, and on nothing else:

* `Population.below_insertChains` — the nodes below a path are those of the tree of what is left of
  the chains that start with the path;
* `Population.map_path_insertChains` — the nodes of the first level are called like the first names
  of the chains, in order of first appearance;
* `Population.mem_paths_insertChains` — so the paths from the root to a node are the prefixes of the
  chains, apart from the empty one;
* `Population.nodup_paths` — each of them leads to one node, if siblings have distinct names, which
  `Population.distinctPaths_insertChains` says of the tree of any chains.
-/

namespace DocumentApi.Population

/-! ### Places in a tree -/

/-- The nodes below the node of the given name, which are none if there is no such node. -/
def level (key : String) : Population → Population
  | [] => []
  | node :: rest => if node.path = key then node.children else level key rest

/-- The nodes below the node at the end of a path. -/
def below (population : Population) : List String → Population
  | [] => population
  | key :: rest => below (level key population) rest

mutual

/-- The paths that lead from the level of a node to the node or to one below, parents first. -/
def Node.paths : Node → List (List String)
  | .mk name children => [name] :: (paths children).map (name :: ·)

/-- The paths that lead from the root to some node, parents first. -/
def paths : List Node → List (List String)
  | [] => []
  | node :: rest => node.paths ++ paths rest

end

/-- A population after chains have been inserted one after another. -/
def insertChains (population : Population) (chains : List (List String)) : Population :=
  chains.foldl (fun population chain => insert chain population) population

/-- What is left of the chains that start with a path. -/
def chainsBehind (path : List String) (chains : List (List String)) : List (List String) :=
  chains.filterMap (·.dropPrefix? path)

theorem insertChains_append (population : Population) (chains later : List (List String)) :
    insertChains population (chains ++ later)
      = insertChains (insertChains population chains) later :=
  List.foldl_append

/-! ### One node -/

section Alter

variable {key : String} {change : Population → Population} {population : Population}

theorem level_alter_self :
    level key (alter key change population) = change (level key population) := by
  induction population with
  | nil => exact if_pos rfl
  | cons node rest ih =>
    rw [alter, level]
    -- The first node has the name, or the node is looked for behind it.
    by_cases hname : node.path = key
    · rw [if_pos hname, if_pos hname]
      exact if_pos hname
    · rw [if_neg hname, if_neg hname, level, if_neg hname, ih]

theorem level_alter_of_ne {other : String} (h : other ≠ key) :
    level other (alter key change population) = level other population := by
  induction population with
  | nil => exact if_neg (Ne.symm h)
  | cons node rest ih =>
    rw [alter]
    by_cases hname : node.path = key
    · -- Only the node of the one name is changed, and this is another one.
      have hother : node.path ≠ other := fun heq => h (heq.symm.trans hname)
      rw [if_pos hname, level, level, if_neg hother]
      exact if_neg hother
    · rw [if_neg hname, level, level, ih]

/-- Changing a node keeps the names of the level, or adds its own at the end. -/
theorem map_path_alter :
    (alter key change population).map Node.path
      = if key ∈ population.map Node.path then population.map Node.path
        else population.map Node.path ++ [key] := by
  induction population with
  | nil => rfl
  | cons node rest ih =>
    rw [alter, List.map_cons]
    -- The name is that of the first node, or it is found or added behind it.
    by_cases hname : node.path = key
    · rw [if_pos hname, if_pos (hname ▸ List.mem_cons_self)]
      rfl
    · have hmem : key ∈ node.path :: rest.map Node.path ↔ key ∈ rest.map Node.path := by
        rw [List.mem_cons, or_iff_right (Ne.symm hname)]
      rw [if_neg hname, List.map_cons, ih]
      by_cases hrest : key ∈ rest.map Node.path
      · rw [if_pos hrest, if_pos (hmem.mpr hrest)]
      · rw [if_neg hrest, if_neg (fun hin => hrest (hmem.mp hin)), List.cons_append]

theorem alter_of_notMem (h : key ∉ population.map Node.path) :
    alter key change population = population ++ [.mk key (change [])] := by
  induction population with
  | nil => rfl
  | cons node rest ih =>
    -- The node is not there, so it is added at the end.
    rw [List.map_cons, List.mem_cons, not_or] at h
    rw [alter, if_neg (Ne.symm h.1), ih h.2, List.cons_append]

/-- Changing a node twice is one change. -/
theorem alter_alter {again : Population → Population} :
    alter key again (alter key change population)
      = alter key (fun children => again (change children)) population := by
  induction population with
  | nil => exact if_pos rfl
  | cons node rest ih =>
    rw [alter, alter]
    -- The node that was changed is found again under its name.
    by_cases hname : node.path = key
    · rw [if_pos hname, if_pos hname]
      exact if_pos hname
    · rw [if_neg hname, if_neg hname, alter, if_neg hname, ih]

end Alter

/-! ### Levels -/

theorem mem_chainsBehind {path left : List String} {chains : List (List String)} :
    left ∈ chainsBehind path chains ↔ path ++ left ∈ chains := by
  unfold chainsBehind
  rw [List.mem_filterMap]
  constructor
  · -- What is left behind a path is what stands there in the chain.
    rintro ⟨chain, hchain, hdrop⟩
    obtain ⟨front, rfl, hfront⟩ := List.dropPrefix?_eq_some_iff.mp hdrop
    rwa [beq_iff_eq.mp hfront] at hchain
  · intro hchain
    exact ⟨path ++ left, hchain,
      List.dropPrefix?_eq_some_iff.mpr ⟨path, rfl, beq_self_eq_true path⟩⟩

/-- A path is left behind name by name. -/
theorem dropPrefix?_cons (key : String) (rest chain : List String) :
    chain.dropPrefix? (key :: rest) = (chain.dropPrefix? [key]).bind (·.dropPrefix? rest) := by
  cases chain with
  | nil => rfl
  | cons name names =>
    -- The chain goes on, or leaves at its first name.
    rw [List.dropPrefix?, List.dropPrefix?]
    by_cases hname : name == key
    · rw [if_pos hname, if_pos hname, List.dropPrefix?_nil, Option.bind_some]
    · rw [if_neg hname, if_neg hname, Option.bind_none]

/-- Of all chains, those that start with a name make up the level below it. -/
theorem level_insertChains (key : String) (population : Population) (chains : List (List String)) :
    level key (insertChains population chains)
      = insertChains (level key population) (chainsBehind [key] chains) := by
  induction chains generalizing population with
  | nil => rfl
  | cons chain rest ih =>
    -- One chain: it goes on below the name, or it changes nothing there.
    have hstep : level key (insert chain population)
        = insertChains (level key population) (chain.dropPrefix? [key]).toList := by
      cases chain with
      | nil => rfl
      | cons name names =>
        rw [insert, List.dropPrefix?]
        by_cases hname : name = key
        · rw [if_pos (beq_iff_eq.mpr hname), List.dropPrefix?_nil, hname, level_alter_self]
          rfl
        · rw [if_neg (fun heq => hname (beq_iff_eq.mp heq)), level_alter_of_ne (Ne.symm hname)]
          rfl
    calc level key (insertChains population (chain :: rest))
        = level key (insertChains (insert chain population) rest) := rfl
      _ = insertChains (insertChains (level key population) (chain.dropPrefix? [key]).toList)
            (chainsBehind [key] rest) := by rw [ih, hstep]
      _ = insertChains (level key population)
            ((chain.dropPrefix? [key]).toList ++ chainsBehind [key] rest) :=
          (insertChains_append _ _ _).symm
      _ = insertChains (level key population) (chainsBehind [key] (chain :: rest)) := by
          congr 1
          unfold chainsBehind
          rw [List.filterMap_cons]
          cases chain.dropPrefix? [key] <;> rfl

/-- **What is below a path** is the tree of what is left of the chains that start with it. -/
theorem below_insertChains (path : List String) (chains : List (List String)) :
    below (insertChains [] chains) path = insertChains [] (chainsBehind path chains) := by
  induction path generalizing chains with
  | nil =>
    have hall : chainsBehind [] chains = chains := by
      unfold chainsBehind
      simp only [List.dropPrefix?_nil, List.filterMap_some]
    rw [hall]
    rfl
  -- Behind the first name, what is left of the chains leads on in the same way.
  | cons key rest ih =>
    have hbehind : chainsBehind rest (chainsBehind [key] chains)
        = chainsBehind (key :: rest) chains := by
      unfold chainsBehind
      rw [List.filterMap_filterMap]
      simp only [dropPrefix?_cons key rest]
    rw [below, level_insertChains, level, ih, hbehind]

/-- **The first level** has the first names of the chains, in order of first appearance. -/
theorem map_path_insertChains (chains : List (List String)) :
    (insertChains [] chains).map Node.path = (chains.filterMap List.head?).eraseDups := by
  -- The last chain comes to a level that the others have built.
  induction chains using List.reverseRecOn with
  | nil => rfl
  | append_singleton chains last ih =>
    rw [insertChains_append, List.filterMap_append]
    cases last with
    -- An empty chain adds nothing.
    | nil => exact ih.trans (congrArg List.eraseDups (List.append_nil _).symm)
    | cons name names =>
      have hname : [name :: names].filterMap List.head? = [name] := rfl
      change (alter name (insert names) (insertChains [] chains)).map Node.path = _
      rw [map_path_alter, ih, hname, Fields.eraseDups_append_singleton]

/-! ### Siblings -/

theorem DistinctPaths.alter {key : String} {change : Population → Population}
    (hchange : ∀ children, DistinctPaths children → DistinctPaths (change children))
    {population : Population} (h : DistinctPaths population) :
    DistinctPaths (population.alter key change) := by
  constructor
  · rw [map_path_alter]
    -- A new name comes last, and is none of the others.
    split_ifs with hkey
    · exact h.1
    · exact h.1.append (List.nodup_singleton key)
        (List.disjoint_singleton.mpr hkey)
  · have hbelow := h.2
    clear h
    induction population with
    | nil => exact ⟨hchange [] ⟨List.nodup_nil, trivial⟩, trivial⟩
    | cons node rest ih =>
      obtain ⟨name, children⟩ := node
      rw [Population.alter]
      -- The node of the name is changed, and the others stay as they are.
      split_ifs with hname
      · exact ⟨hchange children hbelow.1, hbelow.2⟩
      · exact ⟨hbelow.1, ih hbelow.2⟩

/-- One chain keeps siblings distinct, at every depth. -/
theorem DistinctPaths.insert (chain : List String) {population : Population}
    (h : DistinctPaths population) : DistinctPaths (population.insert chain) := by
  induction chain generalizing population with
  | nil => exact h
  -- One name leads down, where the rest of the chain is inserted.
  | cons key rest ih => exact h.alter fun _ hchildren => ih hchildren

/-- **Distinct siblings.** In the tree of any chains, siblings have distinct names. -/
theorem distinctPaths_insertChains (chains : List (List String)) :
    DistinctPaths (insertChains [] chains) := by
  induction chains using List.reverseRecOn with
  | nil => exact ⟨List.nodup_nil, trivial⟩
  | append_singleton chains last ih =>
    rw [insertChains_append]
    exact ih.insert last

/-! ### Paths -/

theorem Node.exists_cons_of_mem_paths {node : Node} {path : List String} (h : path ∈ node.paths) :
    ∃ rest, path = node.path :: rest := by
  obtain ⟨name, children⟩ := node
  rw [Node.paths, List.mem_cons, List.mem_map] at h
  rcases h with rfl | ⟨rest, -, rfl⟩
  · exact ⟨[], rfl⟩
  · exact ⟨rest, rfl⟩

theorem exists_cons_of_mem_paths {nodes : List Node} {path : List String} (h : path ∈ paths nodes) :
    ∃ name ∈ nodes.map Node.path, ∃ rest, path = name :: rest := by
  induction nodes with
  | nil => exact absurd h List.not_mem_nil
  | cons node more ih =>
    rw [paths, List.mem_append] at h
    -- The path starts at the first node or at a later one.
    rcases h with hfirst | hmore
    · obtain ⟨rest, hpath⟩ := Node.exists_cons_of_mem_paths hfirst
      exact ⟨node.path, List.mem_cons_self, rest, hpath⟩
    · obtain ⟨name, hname, hpath⟩ := ih hmore
      exact ⟨name, List.mem_cons_of_mem _ hname, hpath⟩

/-- One step down: a path leads to a node of the first level, or on below it. -/
theorem cons_mem_paths {nodes : List Node} (hnodup : (nodes.map Node.path).Nodup) {key : String}
    {rest : List String} :
    key :: rest ∈ paths nodes
      ↔ key ∈ nodes.map Node.path ∧ (rest = [] ∨ rest ∈ paths (level key nodes)) := by
  induction nodes with
  | nil => simp [paths]
  | cons node more ih =>
    obtain ⟨name, children⟩ := node
    obtain ⟨hnew, hmore⟩ := List.nodup_cons.mp hnodup
    change name ∉ more.map Node.path at hnew
    have hfirst : key :: rest ∈ (Node.mk name children).paths
        ↔ key = name ∧ (rest = [] ∨ rest ∈ paths children) := by
      rw [Node.paths, List.mem_cons, List.mem_map, List.cons.injEq]
      constructor
      · -- The path ends at the node, or goes on in what is below it.
        rintro (⟨hkey, hrest⟩ | ⟨other, hother, heq⟩)
        · exact ⟨hkey, Or.inl hrest⟩
        · obtain ⟨rfl, rfl⟩ := List.cons.inj heq
          exact ⟨rfl, Or.inr hother⟩
      · rintro ⟨rfl, hrest | hbelow⟩
        · exact Or.inl ⟨rfl, hrest⟩
        · exact Or.inr ⟨rest, hbelow, rfl⟩
    rw [paths, List.mem_append, hfirst, ih hmore, level, List.map_cons, List.mem_cons]
    change _ ↔ (key = name ∨ key ∈ more.map Node.path) ∧
      (rest = [] ∨ rest ∈ paths (if name = key then children else level key more))
    by_cases hname : name = key
    · -- No other node of the level has the name.
      rw [if_pos hname, ← hname]
      simp [hnew]
    · rw [if_neg hname]
      simp [Ne.symm hname]

mutual

theorem Node.nodup_paths (node : Node) (h : node.DistinctPaths) : node.paths.Nodup := by
  match node with
  | .mk name children =>
    rw [Node.paths, List.nodup_cons]
    constructor
    · -- Only the node itself is at the end of a path of one name.
      intro hmem
      obtain ⟨path, hpath, heq⟩ := List.mem_map.mp hmem
      obtain ⟨other, -, rest, rfl⟩ := exists_cons_of_mem_paths hpath
      exact absurd (List.cons.inj heq).2 (List.cons_ne_nil other rest)
    · exact (nodup_paths children h).map (List.cons_injective)

/-- **One node for a path.** Where siblings have distinct names, no two paths are the same. -/
theorem nodup_paths (nodes : List Node) (h : DistinctPaths nodes) : (paths nodes).Nodup := by
  match nodes with
  | [] => exact List.nodup_nil
  | node :: rest =>
    -- Paths from different siblings start with different names.
    obtain ⟨hnew, hrest⟩ := List.nodup_cons.mp h.1
    rw [paths]
    refine (node.nodup_paths h.2.1).append (nodup_paths rest ⟨hrest, h.2.2⟩) ?_
    intro path hfirst hlater
    obtain ⟨_, rfl⟩ := Node.exists_cons_of_mem_paths hfirst
    obtain ⟨name, hname, _, heq⟩ := exists_cons_of_mem_paths hlater
    exact hnew ((List.cons.inj heq).1 ▸ hname)

end

/-- **All paths.** The paths of the tree of some chains are the prefixes of the chains, apart from
the empty one. -/
theorem mem_paths_insertChains {path : List String} {chains : List (List String)} :
    path ∈ paths (insertChains [] chains) ↔ path ≠ [] ∧ ∃ chain ∈ chains, path <+: chain := by
  induction path generalizing chains with
  | nil =>
    -- No path is empty, as each starts with a name.
    refine iff_of_false (fun hmem => ?_) fun hne => hne.1 rfl
    obtain ⟨name, -, rest, heq⟩ := exists_cons_of_mem_paths hmem
    exact absurd heq.symm (List.cons_ne_nil name rest)
  | cons key rest ih =>
    rw [cons_mem_paths (distinctPaths_insertChains chains).1, map_path_insertChains,
      List.mem_eraseDups, List.mem_filterMap, level_insertChains, level, ih]
    -- The first name starts a chain, and the others start what is left of one.
    constructor
    · rintro ⟨⟨chain, hchain, hhead⟩, rfl | ⟨-, left, hbehind, hstart⟩⟩
      · obtain ⟨names, rfl⟩ := List.head?_eq_some_iff.mp hhead
        exact ⟨List.cons_ne_nil _ _, key :: names, hchain, names, rfl⟩
      · exact ⟨List.cons_ne_nil _ _, key :: left, mem_chainsBehind.mp hbehind,
          List.cons_prefix_cons.mpr ⟨rfl, hstart⟩⟩
    · rintro ⟨-, chain, hchain, names, rfl⟩
      refine ⟨⟨_, hchain, rfl⟩, ?_⟩
      by_cases hrest : rest = []
      · exact Or.inl hrest
      · exact Or.inr ⟨hrest, rest ++ names, mem_chainsBehind.mpr hchain, names, rfl⟩

end DocumentApi.Population
