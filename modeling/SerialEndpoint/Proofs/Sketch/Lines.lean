/-
Reading the lines of a source text back. A text is cut at its line ends,
which leaves the lines as they were printed (`splitLines_text`);
`sourceLines` also drops the indentation, and that leaves what the lines
say, one by one (`sourceLines_text`).

The statements need two things of every line: it holds no line end, and
it does not begin with a space that would be taken for indentation. Such
a line is `Neat`.
-/
import SerialEndpoint.Sketch.Layout

namespace SerialEndpoint.Sketch

-- ===================================================== cutting a text

/-- The lines of a text; the last one need not be ended. -/
def splitLines : List Char → List (List Char)
  | [] => []
  | c :: rest =>
    if c = '\n' then [] :: splitLines rest
    else match splitLines rest with
      | [] => [[c]]
      | line :: more => (c :: line) :: more

/-- Lines with their ends. -/
def unlines (lines : List (List Char)) : List Char := lines.flatMap (· ++ ['\n'])

/-- The lines of a source text without their indentation. -/
def sourceLines (text : String) : List (List Char) :=
  (splitLines text.toList).map fun line => line.dropWhile (· = ' ')

theorem splitLines_line {line : List Char} (hline : '\n' ∉ line)
    (rest : List Char) :
    splitLines (line ++ '\n' :: rest) = line :: splitLines rest := by
  induction line with
  | nil => rfl
  | cons c line ih =>
      rw [List.mem_cons, not_or] at hline
      rw [List.cons_append, splitLines, if_neg fun heq => hline.1 heq.symm,
        ih hline.2]

/-- Lines that hold no line end are cut where they end. -/
theorem splitLines_unlines {lines : List (List Char)} (h : ∀ line ∈ lines, '\n' ∉ line) :
    splitLines (unlines lines) = lines := by
  induction lines with
  | nil => rfl
  | cons line rest ih =>
      rw [List.forall_mem_cons] at h
      have hrest := ih h.2
      unfold unlines at hrest ⊢
      rw [List.flatMap_cons, List.append_assoc, List.singleton_append, splitLines_line h.1, hrest]

-- ========================================================= neat lines

/-- A line that holds no line end and does not begin with a space. -/
structure Line.Neat (line : Line) : Prop where
  unbroken : '\n' ∉ line.content.toList
  flush : line.content.toList.head? ≠ some ' '

theorem Line.Neat.printed_unbroken {line : Line} (h : line.Neat) (outer : Nat) :
    '\n' ∉ (line.printed outer).toList := by
  unfold Line.printed
  split
  · exact List.not_mem_nil
  · rw [String.toList_append, String.toList_ofList, List.mem_append, not_or]
    refine ⟨fun hmem => ?_, h.unbroken⟩
    have := List.eq_of_mem_replicate hmem
    revert this
    decide

/-- Without its indentation a printed neat line is what it says. -/
theorem Line.Neat.stripped_printed {line : Line} (h : line.Neat) (outer : Nat) :
    (line.printed outer).toList.dropWhile (· = ' ') = line.content.toList := by
  have hself : line.content.toList.dropWhile (· = ' ') = line.content.toList := by
    have hflush := h.flush
    cases hl : line.content.toList with
    | nil => rfl
    | cons c rest =>
        rw [hl] at hflush
        have hc : c ≠ ' ' := fun heq => hflush (congrArg some heq)
        rw [List.dropWhile_cons_of_neg (by simpa using hc)]
  unfold Line.printed
  split
  · rename_i hempty
    rw [hempty]
    rfl
  · rw [String.toList_append, String.toList_ofList,
      List.dropWhile_append_of_pos fun c hc => by
        simpa using List.eq_of_mem_replicate hc]
    exact hself

-- =================================================== printed and read

theorem toList_text (lines : List Line) :
    (text lines).toList = unlines ((printedLines 0 lines).map String.toList) := by
  unfold text unlines
  rw [String.toList_join, List.flatMap_map, List.flatMap_map]
  simp only [String.toList_append]
  rfl

theorem printedLines_unbroken {lines : List Line} (h : ∀ line ∈ lines, line.Neat) :
    ∀ outer : Nat, ∀ line ∈ (printedLines outer lines).map String.toList, '\n' ∉ line := by
  induction lines with
  | nil => exact fun outer line hline => absurd hline List.not_mem_nil
  | cons line rest ih =>
      intro outer
      rw [List.forall_mem_cons] at h
      rw [printedLines, List.map_cons, List.forall_mem_cons]
      exact ⟨h.1.printed_unbroken outer, ih h.2 _⟩

theorem stripped_printedLines {lines : List Line} (h : ∀ line ∈ lines, line.Neat) :
    ∀ outer : Nat, ((printedLines outer lines).map String.toList).map (List.dropWhile (· = ' '))
      = lines.map fun line => line.content.toList := by
  induction lines with
  | nil => exact fun _ => rfl
  | cons line rest ih =>
      intro outer
      rw [List.forall_mem_cons] at h
      rw [printedLines, List.map_cons, List.map_cons, List.map_cons, h.1.stripped_printed outer,
        ih h.2]

/-- The printed lines of a text of neat lines are cut out as they are. -/
theorem splitLines_text {lines : List Line} (h : ∀ line ∈ lines, line.Neat) :
    splitLines (text lines).toList = (printedLines 0 lines).map String.toList := by
  rw [toList_text, splitLines_unlines (printedLines_unbroken h 0)]

/-- The lines of a text of neat lines are what these lines say. -/
theorem sourceLines_text {lines : List Line} (h : ∀ line ∈ lines, line.Neat) :
    sourceLines (text lines) = lines.map fun line => line.content.toList := by
  unfold sourceLines
  rw [splitLines_text h]
  exact stripped_printedLines h 0

end SerialEndpoint.Sketch
