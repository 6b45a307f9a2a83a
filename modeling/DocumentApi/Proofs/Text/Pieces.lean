import DocumentApi.Text.Blank
import DocumentApi.Text.Split

/-!
# Texts in pieces

What the parts of a query string need to know of trimming, of cutting at a separator and of joining:

* `Text.noBlankEnds_trim`, `Text.trimChars_trimChars` — trimming leaves no blank at the ends, and so
  nothing more to trim;
* `Text.pieces_append_separator` — the pieces of two texts with a separator between them are the
  pieces of the one and those of the other;
* `Text.pieces_intercalate` — texts without a separator are the pieces of the text that joins them.
-/

namespace DocumentApi.Text

/-! ### Trimming -/

theorem isBlank_head?_dropWhile (cs : List Char) :
    ∀ c ∈ (cs.dropWhile isBlank).head?, isBlank c = false := by
  -- What the dropping stops at is not blank.
  intro c hc
  have hhead := List.head?_dropWhile_not isBlank cs
  rw [Option.mem_def.mp hc] at hhead
  simpa using hhead

/-- Trimming at the end leaves the front of the text as it is. -/
theorem isPrefix_trimChars (cs : List Char) : trimChars cs <+: cs.dropWhile isBlank := by
  unfold trimChars
  rw [← List.reverse_suffix, List.reverse_reverse]
  exact List.dropWhile_suffix isBlank

/-- Trimming leaves no blank at the ends. -/
theorem noBlankEnds_trimChars (cs : List Char) :
    (∀ c ∈ (trimChars cs).head?, isBlank c = false) ∧
      ∀ c ∈ (trimChars cs).getLast?, isBlank c = false := by
  constructor
  · intro c hc
    -- The first character is the first one of what trimming at the front left.
    obtain ⟨rest, hrest⟩ := isPrefix_trimChars cs
    refine isBlank_head?_dropWhile cs c ?_
    rw [← hrest, List.head?_append, Option.mem_def.mp hc]
    rfl
  · -- The last character is the first one of the reversed text, which was trimmed in the same way.
    intro c hc
    unfold trimChars at hc
    rw [List.getLast?_reverse] at hc
    exact isBlank_head?_dropWhile _ c hc

/-- Nothing is left to trim. -/
theorem trimChars_trimChars (cs : List Char) : trimChars (trimChars cs) = trimChars cs :=
  trimChars_of_noBlankEnds (noBlankEnds_trimChars cs).1 (noBlankEnds_trimChars cs).2

theorem trim_trim (text : String) : trim (trim text) = trim text := by
  unfold trim
  rw [String.toList_ofList, trimChars_trimChars]

theorem noBlankEnds_trim (text : String) :
    (∀ c ∈ (trim text).toList.head?, isBlank c = false) ∧
      ∀ c ∈ (trim text).toList.getLast?, isBlank c = false := by
  unfold trim
  rw [String.toList_ofList]
  exact noBlankEnds_trimChars text.toList

/-- A text without blanks has nothing to trim. -/
theorem trim_eq_self {text : String} (h : ∀ c ∈ text.toList, isBlank c = false) :
    trim text = text := by
  have hchars : trimChars text.toList = text.toList :=
    trimChars_of_noBlankEnds (fun c hc => h c (List.mem_of_head? hc))
      (fun c hc => h c (List.mem_of_getLast? hc))
  unfold trim
  rw [hchars, String.ofList_toList]

/-- What is left is a part of the text. -/
theorem isInfix_trimChars (cs : List Char) : trimChars cs <:+: cs :=
  (isPrefix_trimChars cs).isInfix.trans (List.dropWhile_suffix isBlank).isInfix

theorem mem_of_mem_trimChars {cs : List Char} {c : Char} (h : c ∈ trimChars cs) : c ∈ cs :=
  (isInfix_trimChars cs).subset h

/-! ### Cutting -/

variable {separator : Char}

/-- A piece is made of the characters of the text. -/
theorem mem_of_mem_pieces {cs piece : List Char} (h : piece ∈ pieces separator cs) {c : Char}
    (hc : c ∈ piece) : c ∈ cs := by
  induction cs generalizing piece with
  | nil =>
    obtain rfl := List.mem_singleton.mp h
    exact hc
  | cons d rest ih =>
    -- The separator ends an empty piece, and any other character goes to the first piece.
    by_cases hd : d = separator
    · rw [pieces, if_pos hd, List.mem_cons] at h
      rcases h with rfl | h
      · exact absurd hc List.not_mem_nil
      · exact List.mem_cons_of_mem _ (ih h hc)
    · rw [pieces, if_neg hd] at h
      obtain ⟨first, more, hpieces⟩ := List.exists_cons_of_ne_nil (pieces_ne_nil separator rest)
      rw [hpieces, consFirst, List.mem_cons] at h
      rw [hpieces] at ih
      rcases h with rfl | h
      · rcases List.mem_cons.mp hc with rfl | hc
        · exact List.mem_cons_self
        · exact List.mem_cons_of_mem _ (ih List.mem_cons_self hc)
      · exact List.mem_cons_of_mem _ (ih (List.mem_cons_of_mem _ h) hc)

/-- A text is cut at its first separator. -/
theorem cut?_append {before : List Char} (h : separator ∉ before) (after : List Char) :
    cut? separator (before ++ separator :: after) = some (before, after) := by
  induction before with
  | nil => exact if_pos rfl
  | cons c rest ih =>
    -- The first character is no separator, so the cut is behind it.
    rw [List.mem_cons, not_or] at h
    rw [List.cons_append, cut?, if_neg (Ne.symm h.1), ih h.2, Option.map_some]

/-- **Two texts with a separator between them** have the pieces of both. -/
theorem pieces_append_separator (before after : List Char) :
    pieces separator (before ++ separator :: after)
      = pieces separator before ++ pieces separator after := by
  induction before with
  | nil => exact if_pos rfl
  | cons c rest ih =>
    rw [List.cons_append, pieces, pieces, ih]
    by_cases hc : c = separator
    · rw [if_pos hc, if_pos hc, List.cons_append]
    · rw [if_neg hc, if_neg hc]
      -- A character goes to the first piece, and there is one before the separator.
      obtain ⟨first, more, hpieces⟩ := List.exists_cons_of_ne_nil (pieces_ne_nil separator rest)
      rw [hpieces]
      rfl

/-! ### Joining -/

variable {mark : String} {names : List String}

/-- Texts that are joined with something without a certain character do not get it from there. -/
theorem notMem_intercalate (hmark : separator ∉ mark.toList)
    (hnames : ∀ name ∈ names, separator ∉ name.toList) :
    separator ∉ (mark.intercalate names).toList := by
  induction names with
  | nil => exact List.not_mem_nil
  | cons name rest ih =>
    obtain ⟨hname, hrest⟩ := List.forall_mem_cons.mp hnames
    -- The name is the last one, or the mark follows it.
    cases rest with
    | nil => rwa [String.intercalate_singleton]
    | cons next rest =>
      rw [String.intercalate_cons_cons, String.toList_append, String.toList_append,
        List.mem_append, List.mem_append, not_or, not_or]
      exact ⟨⟨hname, hmark⟩, ih hrest⟩

/-- **Joined texts** are the pieces again. -/
theorem pieces_intercalate (hmark : mark.toList = [separator]) (hne : names ≠ [])
    (hnames : ∀ name ∈ names, separator ∉ name.toList) :
    pieces separator (mark.intercalate names).toList = names.map String.toList := by
  -- The marks are the separators at which the text is cut.
  rw [pieces_eq_splitOn, String.toList_intercalate, hmark]
  refine List.splitOn_intercalate separator ?_ (by simpa using hne)
  intro text htext
  obtain ⟨name, hname, rfl⟩ := List.mem_map.mp htext
  exact hnames name hname

end DocumentApi.Text
