/-
Forms of source lines: fixed text with gaps, such as a call with a number for
its argument. Reading a line with a form gives what stands in the gaps.

# Reading and filling

A gap is read as far as its characters go. This gives back what was filled in
as long as the text behind a gap begins with a character that the gap does not
admit, or the line ends there (`delimited`); whether it does can be computed
for each form. So a form reads what it was filled with (`Form.read?_fill`).
The converse needs no condition: what was read, filled in again, is the line
(`Form.fill_of_read?`). Together they say exactly which lines there are of a
form.

# Tables

A table of forms reads a line with whichever form fits. A form rejects a text
if the two differ before either one ends, or if the form has no gap and ends
before the text does; then no line that begins with the text is of the form.
Forms are apart if one of them rejects the front of the other, and then no
line fits both (`Form.read?_of_apart`). In a table of such forms what is read
is what the one form reads (`readLine?_of_read?`).
-/
import Mathlib.Data.List.Forall2
import SerialEndpoint.Agent

namespace SerialEndpoint.Sketch

-- ================================================================ gaps

/-- What may stand in a gap. -/
inductive Gap where
  | number
  | word
  /-- Anything between two quotes. -/
  | quoted
  /-- Anything up to the end of the line. -/
  | remark
deriving DecidableEq

namespace Gap

/-- The characters that may stand in a gap. -/
def admits : Gap → Char → Bool
  | number, c => c.isDigit
  | word, c => isNameChar c
  | quoted, c => c != '"'
  | remark, _ => true

/-- Whether a gap may be left empty. -/
def mayBeEmpty : Gap → Bool
  | number | word => false
  | quoted | remark => true

/-- What a gap can be filled with. -/
def Fits (gap : Gap) (value : List Char) : Prop :=
  value.all gap.admits = true ∧ (value = [] → gap.mayBeEmpty = true)

instance (gap : Gap) (value : List Char) : Decidable (gap.Fits value) :=
  inferInstanceAs (Decidable (_ ∧ _))

theorem fits_of_forall {gap : Gap} {value : List Char}
    (hadmits : ∀ c ∈ value, gap.admits c = true)
    (hempty : value = [] → gap.mayBeEmpty = true) : gap.Fits value :=
  ⟨List.all_eq_true.2 hadmits, hempty⟩

end Gap

-- =============================================================== forms

/-- A line with gaps, each gap followed by fixed text. -/
structure Form where
  lead : String
  parts : List (Gap × String) := []

/-- The text of some parts with their gaps filled. -/
def fillParts : List (Gap × String) → List String → List Char
  | (_, literal) :: parts, value :: values =>
    value.toList ++ (literal.toList ++ fillParts parts values)
  | _, _ => []

/-- The line of a form with its gaps filled. -/
def Form.fill (form : Form) (values : List String) : List Char :=
  form.lead.toList ++ fillParts form.parts values

/-- What stands in the gaps of some parts. A gap is filled as far as its
characters go. -/
def readParts? : List (Gap × String) → List Char → Option (List String)
  | [], text => if text = [] then some [] else none
  | (gap, literal) :: parts, text =>
    let value := text.takeWhile gap.admits
    if value = [] ∧ gap.mayBeEmpty = false then none
    else match (text.dropWhile gap.admits).dropPrefix? literal.toList with
      | none => none
      | some rest => (readParts? parts rest).map (String.ofList value :: ·)

/-- What stands in the gaps of a line, if it is of the form. -/
def Form.read? (form : Form) (text : List Char) : Option (List String) :=
  (text.dropPrefix? form.lead.toList).bind (readParts? form.parts)

-- ================================================= reading what is filled

/-- Every gap is followed by a character that cannot stand in it, or by
the end of the line. -/
def delimited : List (Gap × String) → Bool
  | [] => true
  | (gap, literal) :: parts =>
    (match literal.toList with
      | [] => parts.isEmpty
      | c :: _ => !gap.admits c) && delimited parts

theorem dropPrefix?_append_self (lead rest : List Char) :
    (lead ++ rest).dropPrefix? lead = some rest :=
  List.dropPrefix?_eq_some_iff.2 ⟨lead, rfl, beq_self_eq_true lead⟩

/-- A gap is read as far as it was filled. -/
theorem takeWhile_gap {gap : Gap} {value rest : List Char}
    (hvalue : gap.Fits value) (hrest : ∀ c, rest.head? = some c → gap.admits c = false) :
    (value ++ rest).takeWhile gap.admits = value
      ∧ (value ++ rest).dropWhile gap.admits = rest := by
  have hadmits := List.all_eq_true.1 hvalue.1
  rw [List.takeWhile_append_of_pos hadmits, List.dropWhile_append_of_pos hadmits]
  cases rest with
  | nil => exact ⟨List.append_nil value, rfl⟩
  | cons c rest =>
      have hc := hrest c rfl
      rw [List.takeWhile_cons_of_neg (by simp [hc]),
        List.dropWhile_cons_of_neg (by simp [hc])]
      exact ⟨List.append_nil value, rfl⟩

theorem readParts?_fillParts {parts : List (Gap × String)} {values : List String}
    (hfits : List.Forall₂ (fun part value => part.1.Fits value.toList) parts values)
    (hdelimited : delimited parts = true) :
    readParts? parts (fillParts parts values) = some values := by
  induction hfits with
  | nil => rfl
  | @cons part value parts values hfit hrest ih =>
      obtain ⟨gap, literal⟩ := part
      unfold delimited at hdelimited
      rw [Bool.and_eq_true] at hdelimited
      obtain ⟨hliteral, hdelimited⟩ := hdelimited
      have hstop : ∀ c, (literal.toList ++ fillParts parts values).head? = some c →
          gap.admits c = false := by
        intro c hc
        cases hl : literal.toList with
        | nil =>
            -- only the last literal is empty, and nothing follows it
            rw [hl] at hliteral hc
            cases hrest with
            | nil => cases hc
            | cons _ _ => cases hliteral
        | cons d ds =>
            rw [hl] at hliteral hc
            cases hc
            simpa using hliteral
      obtain ⟨htake, hdrop⟩ := takeWhile_gap hfit hstop
      unfold fillParts readParts?
      rw [htake, hdrop, if_neg, dropPrefix?_append_self]
      · simp only [ih hdelimited, Option.map_some, String.ofList_toList]
      · intro hempty
        have := hfit.2 hempty.1
        rw [hempty.2] at this
        cases this

/-- A line of a form is read with it. -/
theorem Form.read?_fill {form : Form} {values : List String}
    (hdelimited : delimited form.parts = true)
    (hfits : List.Forall₂ (fun part value => part.1.Fits value.toList)
      form.parts values) :
    form.read? (form.fill values) = some values := by
  unfold Form.read? Form.fill
  rw [dropPrefix?_append_self]
  exact readParts?_fillParts hfits hdelimited

-- ================================================= filling what is read

theorem fillParts_of_readParts? {parts : List (Gap × String)} :
    ∀ {text : List Char} {values : List String},
      readParts? parts text = some values → fillParts parts values = text := by
  induction parts with
  | nil =>
      intro text values h
      unfold readParts? at h
      split at h
      · rename_i hnil
        rw [hnil]
        rfl
      · cases h
  | cons part parts ih =>
      intro text values h
      obtain ⟨gap, literal⟩ := part
      unfold readParts? at h
      simp only at h
      split at h
      · cases h
      · split at h
        · cases h
        · rename_i rest hdrop
          obtain ⟨others, hothers, rfl⟩ := Option.map_eq_some_iff.1 h
          obtain ⟨lead, hlead, heq⟩ := List.dropPrefix?_eq_some_iff.1 hdrop
          rw [beq_iff_eq] at heq
          subst heq
          unfold fillParts
          rw [String.toList_ofList, ih hothers, ← hlead,
            List.takeWhile_append_dropWhile]

/-- A line read with a form is of that form. -/
theorem Form.fill_of_read? {form : Form} {text : List Char} {values : List String}
    (h : form.read? text = some values) : form.fill values = text := by
  unfold Form.read? at h
  obtain ⟨rest, hdrop, hparts⟩ := Option.bind_eq_some_iff.1 h
  obtain ⟨lead, hlead, heq⟩ := List.dropPrefix?_eq_some_iff.1 hdrop
  rw [beq_iff_eq] at heq
  subst heq
  unfold Form.fill
  rw [fillParts_of_readParts? hparts, hlead]

-- ========================================================= forms apart

/-- Whether no line that begins with a text is of the form. -/
def Form.rejects (form : Form) (head : String) : Bool :=
  !head.toList.isPrefixOf form.lead.toList &&
    (form.parts.isEmpty || !form.lead.toList.isPrefixOf head.toList)

/-- A line is not read with a form that rejects what it begins with. -/
theorem Form.read?_of_rejects {form : Form} {head : String} {text : List Char}
    (h : form.rejects head = true) (hhead : head.toList <+: text) :
    form.read? text = none := by
  cases hread : form.read? text with
  | none => rfl
  | some values =>
      exfalso
      have hfill := Form.fill_of_read? hread
      unfold Form.fill at hfill
      unfold Form.rejects at h
      rw [Bool.and_eq_true, Bool.not_eq_true', Bool.or_eq_true,
        Bool.not_eq_true', List.isEmpty_iff] at h
      obtain ⟨hnot, hnil | hnot'⟩ := h
      · -- without gaps the line is the form's text
        have hvalues : fillParts form.parts values = [] := by rw [hnil]; rfl
        rw [hvalues, List.append_nil] at hfill
        rw [← hfill, ← List.isPrefixOf_iff_prefix, hnot] at hhead
        cases hhead
      · have hlead : form.lead.toList <+: text := ⟨_, hfill⟩
        rcases List.prefix_or_prefix_of_prefix hhead hlead with hp | hp
        · rw [← List.isPrefixOf_iff_prefix, hnot] at hp
          cases hp
        · rw [← List.isPrefixOf_iff_prefix, hnot'] at hp
          cases hp

/-- Whether no line is of both forms. -/
def Form.apart (form other : Form) : Bool :=
  form.rejects other.lead || other.rejects form.lead

/-- A line read with one form is not read with one apart from it. -/
theorem Form.read?_of_apart {form other : Form} {text : List Char}
    {values : List String} (h : form.apart other = true)
    (hread : form.read? text = some values) : other.read? text = none := by
  have hlead : form.lead.toList <+: text := ⟨_, Form.fill_of_read? hread⟩
  unfold Form.apart at h
  rw [Bool.or_eq_true] at h
  rcases h with h | h
  · cases hother : other.read? text with
    | none => rfl
    | some others =>
        have hlead' : other.lead.toList <+: text := ⟨_, Form.fill_of_read? hother⟩
        rw [Form.read?_of_rejects h hlead'] at hread
        cases hread
  · exact Form.read?_of_rejects h hlead

theorem Form.apart_comm (form other : Form) : form.apart other = other.apart form := by
  unfold Form.apart
  rw [Bool.or_comm]

-- ============================================================== tables

/-- Forms, each with what a line of it means. -/
abbrev FormTable (α : Type) := List (Form × (List String → Option α))

/-- What a line means. -/
def readLine? {α : Type} (table : FormTable α) (text : List Char) : Option α :=
  table.findSome? fun entry => (entry.1.read? text).bind entry.2

theorem readLine?_eq_none {α : Type} {table : FormTable α} {text : List Char}
    (h : ∀ entry ∈ table, entry.1.read? text = none) :
    readLine? table text = none := by
  unfold readLine?
  rw [List.findSome?_eq_none_iff]
  intro entry hentry
  rw [h entry hentry]
  rfl

/-- Where the forms of a table are apart, a line means what the form that
reads it says. -/
theorem readLine?_of_read? {α : Type} {table : FormTable α} {text : List Char}
    (hapart : table.Pairwise fun e e' => e.1.apart e'.1 = true)
    {form : Form} {build : List String → Option α} (hmem : (form, build) ∈ table)
    {values : List String} (hread : form.read? text = some values) :
    readLine? table text = build values := by
  induction table with
  | nil => cases hmem
  | cons entry rest ih =>
      obtain ⟨hfirst, hrest⟩ := List.pairwise_cons.1 hapart
      rcases List.mem_cons.1 hmem with rfl | hmem
      · have hnone : readLine? rest text = none :=
          readLine?_eq_none fun e he => Form.read?_of_apart (hfirst e he) hread
        unfold readLine? at hnone ⊢
        rw [List.findSome?_cons, hread, Option.bind_some, hnone]
        show (match build values with | some a => some a | none => none) = _
        cases build values <;> rfl
      · have hnone : entry.1.read? text = none := by
          have happ := hfirst _ hmem
          rw [Form.apart_comm] at happ
          exact Form.read?_of_apart happ hread
        have hih := ih hrest hmem
        unfold readLine? at hih ⊢
        rw [List.findSome?_cons, hnone, Option.bind_none]
        exact hih

end SerialEndpoint.Sketch
