/-!
# Splitting at a separator

* `pieces` cuts a text at every occurrence of a separator, so that n occurrences give n + 1 pieces
  and joining the pieces with the separator gives the text back (`join_pieces`);
* `cut?` cuts it at the first occurrence only;
* both are what the list operations make of the text (`pieces_eq_splitOn`, `cut?_eq`).
-/

namespace DocumentApi.Text

/-- Puts `c` in front of the first piece. -/
def consFirst (c : Char) : List (List Char) → List (List Char)
  | [] => [[c]]
  | piece :: more => (c :: piece) :: more

/-- The pieces between the occurrences of `separator`. -/
def pieces (separator : Char) : List Char → List (List Char)
  | [] => [[]]
  | c :: rest =>
    if c = separator then [] :: pieces separator rest else consFirst c (pieces separator rest)

/-- What stands before and after the first occurrence of `separator`, if there is one. -/
def cut? (separator : Char) : List Char → Option (List Char × List Char)
  | [] => none
  | c :: rest =>
    if c = separator then some ([], rest)
    else (cut? separator rest).map fun (before, after) => (c :: before, after)

/-- The pieces of a text between the occurrences of `separator`. -/
def split (separator : Char) (text : String) : List String :=
  (pieces separator text.toList).map String.ofList

/-- The pieces with `separator` between them. -/
def join (separator : Char) : List (List Char) → List Char
  | [] => []
  | [piece] => piece
  | piece :: next :: more => piece ++ separator :: join separator (next :: more)

theorem pieces_ne_nil (separator : Char) (cs : List Char) : pieces separator cs ≠ [] := by
  cases cs with
  | nil => simp [pieces]
  | cons c rest =>
    by_cases h : c = separator
    · simp [pieces, h]
    · cases hp : pieces separator rest <;> simp [pieces, h, hp, consFirst]

theorem join_pieces (separator : Char) (cs : List Char) :
    join separator (pieces separator cs) = cs := by
  induction cs with
  | nil => rfl
  | cons c rest ih =>
    by_cases h : c = separator
    · subst h
      cases hp : pieces c rest with
      | nil => exact absurd hp (pieces_ne_nil c rest)
      | cons piece more => rw [hp] at ih; simp [pieces, hp, join, ih]
    · cases hp : pieces separator rest with
      | nil => exact absurd hp (pieces_ne_nil separator rest)
      | cons piece more =>
        rw [hp] at ih
        cases more <;> simp_all [pieces, consFirst, join]

/-- No piece holds the separator. -/
theorem notMem_of_mem_pieces {separator : Char} {cs piece : List Char}
    (h : piece ∈ pieces separator cs) : separator ∉ piece := by
  induction cs generalizing piece with
  | nil => simp [pieces] at h; simp [h]
  | cons c rest ih =>
    by_cases hc : c = separator
    · simp only [pieces, hc, if_true, List.mem_cons] at h
      rcases h with rfl | h
      · simp
      · exact ih h
    · simp only [pieces, hc, if_false] at h
      cases hp : pieces separator rest with
      | nil => exact absurd hp (pieces_ne_nil separator rest)
      | cons first more =>
        simp only [hp, consFirst, List.mem_cons] at h
        rcases h with rfl | h
        · have hfirst : separator ∉ first := ih (by simp [hp])
          simp [hfirst, Ne.symm hc]
        · exact ih (by simp [hp, h])

theorem pieces_eq_splitOn (separator : Char) (cs : List Char) :
    pieces separator cs = cs.splitOn separator := by
  induction cs with
  | nil => rfl
  | cons c rest ih =>
    rw [pieces, ih, List.splitOn_cons_eq_if_modifyHead]
    by_cases h : c = separator
    · rw [if_pos h, if_pos (beq_iff_eq.mpr h)]
    · rw [if_neg h, if_neg (by simpa using h)]
      cases hp : rest.splitOn separator with
      | nil => exact absurd hp (List.splitOn_ne_nil separator rest)
      | cons piece more => rfl

/-- Cutting succeeds if the separator occurs; what stands before it does not hold it. -/
theorem cut?_eq (separator : Char) (cs : List Char) :
    cut? separator cs =
      if separator ∈ cs then
        some (cs.takeWhile (· != separator), (cs.dropWhile (· != separator)).tail)
      else none := by
  induction cs with
  | nil => rfl
  | cons c rest ih =>
    by_cases h : c = separator
    · subst h
      simp [cut?]
    · have hne : (c != separator) = true := by simpa using h
      have hmem : separator ∈ c :: rest ↔ separator ∈ rest := by
        rw [List.mem_cons, or_iff_right (Ne.symm h)]
      simp only [cut?, if_neg h, ih, List.takeWhile_cons, List.dropWhile_cons, hne, if_true, hmem]
      split <;> rfl

end DocumentApi.Text
