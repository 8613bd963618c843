/-
The braces of a source text, and how far its lines are indented. Braces count
where they stand outside string literals; what is in front of a place of the
text tells whether it is in one (`bracesFrom`).

# Counting with failure

Blocks are counted along the braces, and the count fails where one is closed
that is not open (`height?`). A count over two texts goes through if it goes
through the first and, from there, the second (`height?_append`). So a count
that goes through says of every front of the text that it closes no more than
it opens, and what comes out is the difference (`height?_eq_some`). This turns
the two statements about all fronts, `Balanced` and `Indented`, into one count
(`balanced_of_height`, `openBlocks_of_height`).

# The text and the layout

The layout has a depth of its own, which is carried from line to line. The two
go together as long as each line is `Braced` and no line ends a block where
none is open:

- no literal and no comment goes on over a line end, so the lines are read one
  by one, each from code on (`braces_unlines`);
- the spaces in front of a line have no brace, so a printed line has the
  braces of its content;
- from the depth in front of it, a braced line counts up to the depth behind
  it.

By induction the count along the printed lines is the depth
(`height?_printedLines`), for any depth to begin with.

# Indentation

A line of the text is a printed line of the layout, with the same lines in
front of it (`printedLines_eq_append`). It is indented by its depth, and that
is the depth in front of it, less one if it begins with the end of a block.
The blocks that the text has open there are the same number, by the count over
the lines in front (`indented_text`).
-/
import Mathlib.Data.List.Count
import SerialEndpoint.Proofs.Sketch.Blocks
import SerialEndpoint.Proofs.Sketch.Calls
import SerialEndpoint.Proofs.Sketch.Mentions

namespace SerialEndpoint

namespace Sketch

-- ============================================================== reading

/-- True between the quotes of a string literal. -/
def Mode.inString : Mode → Bool
  | quoted quote | escaped quote => quote = '"'
  | code | slash | number | word _ | remark => false

/-- Where a character of a whole text leads. Nothing goes on over a line
end. -/
def Mode.across (mode : Mode) (c : Char) : Mode := if c = '\n' then code else (mode.step c).2

/-- Where some text leads. -/
def Mode.behind (mode : Mode) (text : List Char) : Mode := text.foldl across mode

/-- True of a brace. -/
def isBrace (c : Char) : Bool := c = '\x7b' || c = '\x7d'

/-- The braces outside string literals, in order. -/
def bracesFrom : Mode → List Char → List Char
  | _, [] => []
  | mode, c :: text =>
    if isBrace c && !mode.inString then c :: bracesFrom (mode.across c) text
    else bracesFrom (mode.across c) text

/-- The braces of a text outside its string literals. -/
def braces (text : List Char) : List Char := bracesFrom .code text

/-- How many more blocks a text opens than it closes. -/
def openBlocks (text : List Char) : Int :=
  (braces text).count '\x7b' - (braces text).count '\x7d'

/-- A text that closes what it opens, and never more than that. -/
structure Balanced (text : List Char) : Prop where
  front : ∀ front, front <+: text → 0 ≤ openBlocks front
  whole : openBlocks text = 0

/-- How many spaces a line begins with. -/
def indentation (line : List Char) : Nat := (line.takeWhile (· = ' ')).length

/-- A text whose lines are indented by four spaces for each block that is
open there. A line that begins with the end of a block stands outside
it. -/
def Indented (text : List Char) : Prop :=
  ∀ before line after, splitLines text = before ++ line :: after → line ≠ [] →
    (indentation line : Int) = 4 * (openBlocks (unlines before)
      - if closesBlock (line.dropWhile (· = ' ')) then 1 else 0)

-- ============================================================= counting

/-- How many blocks are open behind some braces, if none of these closes a
block where none is open. -/
def height? : Nat → List Char → Option Nat
  | height, [] => some height
  | height, c :: rest =>
    if c = '\x7b' then height? (height + 1) rest
    else if c = '\x7d' then if height = 0 then none else height? (height - 1) rest
    else height? height rest

section Counting

variable {mode : Mode} {text more : List Char} {height after : Nat}

theorem height?_append :
    height? height (text ++ more) = (height? height text).bind (height? · more) := by
  induction text generalizing height with
  | nil => rfl
  | cons c text ih =>
      rw [List.cons_append, height?, height?]
      split
      · exact ih
      · split
        · split
          · rfl
          · exact ih
        · exact ih

/-- A count that goes through is the number of braces that open less the
number of those that close. -/
theorem height?_eq_some (h : height? height text = some after) :
    (after : Int) = height + (text.count '\x7b' - text.count '\x7d') := by
  induction text generalizing height with
  | nil =>
      cases h
      simp
  | cons c text ih =>
      rw [height?] at h
      split at h
      · rename_i hopens
        subst hopens
        rw [ih h, List.count_cons_self, List.count_cons_of_ne (by decide)]
        omega
      · rename_i hopens
        split at h
        · rename_i hcloses
          subst hcloses
          split at h
          · cases h
          · rw [ih h, List.count_cons_self, List.count_cons_of_ne (by decide)]
            omega
        · rename_i hcloses
          rw [ih h, List.count_cons_of_ne hopens, List.count_cons_of_ne hcloses]

theorem bracesFrom_append : bracesFrom mode (text ++ more)
    = bracesFrom mode text ++ bracesFrom (mode.behind text) more := by
  induction text generalizing mode with
  | nil => rfl
  | cons c text ih =>
      rw [List.cons_append, bracesFrom, bracesFrom, ih]
      split <;> rfl

/-- The blocks that are open behind a text that is counted through. -/
theorem openBlocks_of_height (h : height? 0 (braces text) = some after) :
    openBlocks text = after := by
  rw [height?_eq_some h]
  exact (zero_add _).symm

theorem balanced_of_height (h : height? 0 (braces text) = some 0) : Balanced text where
  front front hfront := by
    obtain ⟨rest, rfl⟩ := hfront
    unfold braces at h
    rw [bracesFrom_append, height?_append] at h
    obtain ⟨between, hbetween, -⟩ := Option.bind_eq_some_iff.1 h
    rw [openBlocks_of_height hbetween]
    exact Int.natCast_nonneg between
  whole := openBlocks_of_height h

-- ========================================================= passing over

theorem behind_append : mode.behind (text ++ more) = (mode.behind text).behind more :=
  List.foldl_append

theorem behind_cons (c : Char) : mode.behind (c :: text) = (mode.across c).behind text := rfl

theorem behind_lineEnd : mode.behind (text ++ ['\n']) = .code := by
  rw [behind_append, behind_cons, Mode.across, if_pos rfl]
  rfl

/-- Text without a brace. -/
def Braceless (text : String) : Prop := ∀ c ∈ text.toList, isBrace c = false

instance (text : String) : Decidable (Braceless text) := List.decidableBAll _ text.toList

theorem bracesFrom_braceless (h : ∀ c ∈ text, isBrace c = false) : bracesFrom mode text = [] := by
  induction text generalizing mode with
  | nil => rfl
  | cons c text ih =>
      rw [List.forall_mem_cons] at h
      rw [bracesFrom, h.1]
      exact ih h.2

/-- What can stand between quotes is passed over there. -/
theorem quoted_passed (h : ∀ c ∈ text, c ≠ '"' ∧ c ≠ '\x5c' ∧ c ≠ '\n') :
    bracesFrom (.quoted '"') text = [] ∧ (Mode.quoted '"').behind text = .quoted '"' := by
  induction text with
  | nil => exact ⟨rfl, rfl⟩
  | cons c text ih =>
      rw [List.forall_mem_cons] at h
      obtain ⟨⟨hquote, hescape, hend⟩, hrest⟩ := h
      have hacross : (Mode.quoted '"').across c = .quoted '"' := by
        have honward : (Mode.quoted '"').onward? c = some (.quoted '"') := by
          show some (ite _ _ _) = _
          rw [if_neg hquote, if_neg hescape]
        unfold Mode.across
        rw [if_neg hend, Mode.step_onward honward]
      rw [bracesFrom, behind_cons, hacross]
      simpa [Mode.inString] using ih hrest

/-- Without a quote no string literal begins. -/
theorem inString_across {c : Char} (hquote : c ≠ '"') (h : mode.inString = false) :
    (mode.across c).inString = false := by
  -- a literal begins with a quote or goes on from one
  have hstart : (Mode.start c).2.inString = false := by
    unfold Mode.start
    split_ifs <;> first | rfl | exact decide_eq_false hquote
  have honward : ∀ next, mode.onward? c = some next → next.inString = false := by
    intro next hnext
    cases mode with
    | code => cases hnext
    | slash | number | word =>
        simp only [Mode.onward?, Option.ite_none_right_eq_some, Option.some.injEq] at hnext
        rw [← hnext.2]
        rfl
    | quoted quote =>
        cases hnext
        split_ifs <;> first | rfl | exact h
    | escaped quote =>
        cases hnext
        exact h
    | remark =>
        cases hnext
        rfl
  unfold Mode.across Mode.step
  split
  · rfl
  · split
    · rename_i next hnext
      exact honward next hnext
    · exact hstart

theorem inString_behind (h : '"' ∉ text) (hmode : mode.inString = false) :
    (mode.behind text).inString = false := by
  induction text generalizing mode with
  | nil => exact hmode
  | cons c text ih =>
      rw [List.mem_cons, not_or] at h
      exact ih h.2 (inString_across (Ne.symm h.1) hmode)

/-- Spaces in front of code are passed over. -/
theorem spaces_passed (n : Nat) :
    bracesFrom .code (List.replicate n ' ' ++ text) = bracesFrom .code text := by
  induction n with
  | zero => rfl
  | succ n ih => exact ih

end Counting

-- ================================================================ lines

/-- Nothing goes on over a line end, so lines are read one by one. -/
theorem braces_unlines (lines : List (List Char)) :
    braces (unlines lines) = lines.flatMap braces := by
  induction lines with
  | nil => rfl
  | cons line rest ih =>
      have hend : bracesFrom (Mode.code.behind line) ['\n'] = [] :=
        bracesFrom_braceless (List.forall_mem_singleton.2 (by decide))
      unfold unlines braces at ih ⊢
      rw [List.flatMap_cons, List.flatMap_cons, bracesFrom_append, behind_lineEnd, ih,
        bracesFrom_append, hend, List.append_nil]

/-- A line whose braces outside string literals are those of its kind. -/
structure Line.Braced (line : Line) : Prop where
  closes : closesBlock line.content.toList = line.endsBlock
  counts : ∀ outer, (line.endsBlock = true → 0 < outer) →
    height? outer (braces line.content.toList) = some (line.inner outer)

theorem Line.Braced.printed {line : Line} (h : line.Braced) (outer : Nat)
    (hguard : line.endsBlock = true → 0 < outer) :
    height? outer (braces (line.printed outer).toList) = some (line.inner outer) := by
  have hcounts := h.counts outer hguard
  unfold Line.printed
  split
  · rename_i hempty
    rwa [hempty] at hcounts
  · unfold braces at hcounts ⊢
    rwa [String.toList_append, String.toList_ofList, spaces_passed]

/-- The blocks are counted along the printed lines as the depth is. -/
theorem height?_printedLines {lines : List Line} (hbraced : ∀ line ∈ lines, line.Braced) :
    ∀ outer, Guarded outer lines →
      height? outer (braces (unlines ((printedLines outer lines).map String.toList)))
        = some (depthAfter outer lines) := by
  induction lines with
  | nil => exact fun _ _ => rfl
  | cons line rest ih =>
      intro outer hguarded
      rw [List.forall_mem_cons] at hbraced
      have hrest := ih hbraced.2 (line.inner outer) hguarded.2
      rw [braces_unlines] at hrest ⊢
      rw [printedLines, List.map_cons, List.flatMap_cons, height?_append,
        hbraced.1.printed outer hguarded.1]
      exact hrest

/-- Printed lines are cut where the lines are. -/
theorem printedLines_eq_append {before after : List (List Char)} {printed : List Char} :
    ∀ {lines : List Line} {outer : Nat},
      (printedLines outer lines).map String.toList = before ++ printed :: after →
      ∃ front line back, lines = front ++ line :: back
        ∧ before = (printedLines outer front).map String.toList
        ∧ printed = (line.printed (depthAfter outer front)).toList := by
  induction before with
  | nil =>
      intro lines outer hsplit
      cases lines with
      | nil => cases hsplit
      | cons line rest =>
          cases hsplit
          exact ⟨[], line, rest, rfl, rfl, rfl⟩
  | cons first before ih =>
      intro lines outer hsplit
      cases lines with
      | nil => cases hsplit
      | cons line rest =>
          rw [printedLines, List.map_cons, List.cons_append] at hsplit
          obtain ⟨hfirst, hrest⟩ := List.cons.inj hsplit
          obtain ⟨front, inner, back, rfl, rfl, rfl⟩ := ih hrest
          refine ⟨line :: front, inner, back, rfl, ?_, rfl⟩
          rw [← hfirst]
          rfl

theorem Line.Neat.indentation_printed {line : Line} (h : line.Neat) (hne : line.content ≠ "")
    (outer : Nat) : indentation (line.printed outer).toList = 4 * line.depth outer := by
  have hspaces : ∀ c ∈ List.replicate (4 * line.depth outer) ' ', decide (c = ' ') = true :=
    fun c hc => decide_eq_true (List.eq_of_mem_replicate hc)
  have hcontent : line.content.toList.takeWhile (· = ' ') = [] := by
    have hflush := h.flush
    cases hlist : line.content.toList with
    | nil => rfl
    | cons c rest =>
        rw [hlist] at hflush
        exact List.takeWhile_cons_of_neg (by simpa using hflush)
  unfold indentation Line.printed
  rw [if_neg hne, String.toList_append, String.toList_ofList,
    List.takeWhile_append_of_pos hspaces, hcontent, List.append_nil, List.length_replicate]

/-- How deep a line stands is told by what is open and by whether it ends a
block. -/
theorem Line.depth_eq (line : Line) {outer : Nat} (hguard : line.endsBlock = true → 0 < outer) :
    (line.depth outer : Int) = outer - if line.endsBlock then 1 else 0 := by
  cases line with
  | plain | blank | opening => exact (sub_zero _).symm
  | closing | reopening =>
      have hopen := hguard rfl
      show ((outer - 1 : Nat) : Int) = outer - 1
      omega

variable {lines : List Line} (hneat : ∀ line ∈ lines, line.Neat)
  (hbraced : ∀ line ∈ lines, line.Braced) (hguarded : Guarded 0 lines)

include hbraced hguarded in
/-- A text that ends at the outermost level has its braces in balance. -/
theorem balanced_text (hlevel : depthAfter 0 lines = 0) : Balanced (text lines).toList := by
  have hheight := height?_printedLines hbraced 0 hguarded
  rw [hlevel] at hheight
  rw [toList_text]
  exact balanced_of_height hheight

include hneat hbraced hguarded in
/-- A line is indented by the blocks that the text in front of it has
open. -/
theorem indented_text : Indented (text lines).toList := by
  intro before printed after hsplit hne
  rw [splitLines_text hneat] at hsplit
  obtain ⟨front, line, back, rfl, rfl, rfl⟩ := printedLines_eq_append hsplit
  have hmem : line ∈ front ++ line :: back := List.mem_append_right _ (List.mem_cons_self ..)
  have hopen : openBlocks (unlines ((printedLines 0 front).map String.toList))
      = depthAfter 0 front :=
    openBlocks_of_height (height?_printedLines
      (fun other hother => hbraced other (List.mem_append_left _ hother)) 0
      (guarded_append.1 hguarded).1)
  have hcontent : line.content ≠ "" := by
    intro hempty
    unfold Line.printed at hne
    rw [if_pos hempty] at hne
    exact hne rfl
  rw [(hneat line hmem).indentation_printed hcontent, (hneat line hmem).stripped_printed,
    (hbraced line hmem).closes, hopen,
    ← line.depth_eq (guarded_iff.1 hguarded front line back rfl)]
  exact Nat.cast_mul ..

end Sketch

end SerialEndpoint
