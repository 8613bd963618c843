/-
The code of a source text: what is left of its lines when comments, string
literals and character literals are taken away, cut into words and
punctuation. Numbers are left out as well, so that the code of a sketch does
not depend on the settings. Comments run to the end of their line; no sketch
has one of the other kind, and no literal goes on over a line end.

# One character

A line is read character by character. A character either goes on with what is
being read and gives nothing (`Mode.onward?`), or it ends that and begins
something of its own (`Mode.step`). Where the reading stands is all that what
comes later depends on, so two texts put together are read one after the other
(`Mode.read_append`).

# Lines with gaps

The fixed text of a line is read by running the reader. What fills a gap is
not known, only what can stand there (`Filling.Fits`): a word, a number, part
of a literal or part of a comment. Each of them gives the same in a gap
whatever it is, one token or none, and leads back to where the reading stood
(`Mode.read_filling`). Two conditions come with a gap, and both are about
fixed text and can be computed (`Met`):

- the reading stands in front of it where this filling begins, in code for a
  word and between quotes for part of a literal;
- the text behind it begins with a character that ends the filling.

So the tokens of a line are those of its fixed text, with one token for each
word that was filled in (`tokens_filled`).

# Numbers

A number printed with fixed places is a digit and then digits and a point
(`fixed_fits`), so the settings leave no trace in the code. A negative number
has a sign in front, which is a token, and an infinite one is a word; an
accepted setting is neither.
-/
import SerialEndpoint.Proofs.Sketch.Lines
import SerialEndpoint.Proofs.Device.Duty
import SerialEndpoint.Proofs.Replies

namespace SerialEndpoint.Sketch

-- =============================================================== reading

/-- A word, or a character of punctuation. -/
inductive Token where
  | word (text : String)
  | sign (c : Char)
deriving DecidableEq

/-- Where the reading of a line stands. -/
inductive Mode where
  | code
  /-- Behind a slash, which may begin a comment. -/
  | slash
  | number
  /-- In a word, of which this was read. -/
  | word (letters : List Char)
  /-- Between two quotes of this kind. -/
  | quoted (quote : Char)
  /-- Behind a backslash there. -/
  | escaped (quote : Char)
  | remark
deriving DecidableEq

namespace Mode

/-- What was read of the next token. -/
def held : Mode → List Token
  | slash => [.sign '/']
  | word letters => [.word (String.ofList letters)]
  | code | number | quoted _ | escaped _ | remark => []

/-- What a character begins. -/
def start (c : Char) : List Token × Mode :=
  if c.isDigit then ([], number)
  else if isNameChar c then ([], word [c])
  else if c = '"' ∨ c = '\x27' then ([], quoted c)
  else if c = '/' then ([], slash)
  else if c = ' ' then ([], code)
  else ([.sign c], code)

/-- Where a character leads that begins nothing. -/
def onward? : Mode → Char → Option Mode
  | code, _ => none
  | slash, c => if c = '/' then some remark else none
  | number, c => if isNameChar c || c = '.' then some number else none
  | word letters, c => if isNameChar c then some (word (letters ++ [c])) else none
  | quoted quote, c =>
    some (if c = quote then code else if c = '\x5c' then escaped quote else quoted quote)
  | escaped quote, _ => some (quoted quote)
  | remark, _ => some remark

/-- The tokens that a character ends, and where it leads. -/
def step (mode : Mode) (c : Char) : List Token × Mode :=
  match mode.onward? c with
  | some next => ([], next)
  | none => (mode.held ++ (start c).1, (start c).2)

/-- The tokens that some text ends, and where it leads. -/
def read (mode : Mode) : List Char → List Token × Mode
  | [] => ([], mode)
  | c :: text =>
    ((mode.step c).1 ++ ((mode.step c).2.read text).1, ((mode.step c).2.read text).2)

theorem read_append (xs ys : List Char) : ∀ mode : Mode, mode.read (xs ++ ys)
    = ((mode.read xs).1 ++ ((mode.read xs).2.read ys).1, ((mode.read xs).2.read ys).2) := by
  induction xs with
  | nil => exact fun _ => rfl
  | cons c xs ih =>
      intro mode
      rw [List.cons_append, read, ih, read, List.append_assoc]

end Mode

/-- The words and the punctuation of a line. -/
def tokens (line : List Char) : List Token :=
  (Mode.code.read line).1 ++ (Mode.code.read line).2.held

/-- The code of a source text, line by line. -/
def codeOf (text : String) : List (List Token) := (sourceLines text).map tokens

/-- The words and the punctuation of a line of a sketch. -/
def Line.tokens (line : Line) : List Token := Sketch.tokens line.content.toList

-- ================================================================== gaps

/-- What stands in a gap of a line. -/
inductive Filling where
  | word (text : String)
  | number (text : String)
  /-- Part of a string literal. -/
  | quoted (text : String)
  /-- Part of a comment. -/
  | remark (text : String)

namespace Filling

def text : Filling → String
  | word text | number text | quoted text | remark text => text

/-- Where the reading has to stand for it, and stands again behind it. -/
def mode : Filling → Mode
  | word _ | number _ => .code
  | quoted _ => .quoted '"'
  | remark _ => .remark

def tokens : Filling → List Token
  | word text => [.word text]
  | number _ | quoted _ | remark _ => []

/-- What can stand in such a gap. -/
def Fits : Filling → Prop
  | word text => isComponentName text = true
  | number text => ∃ first rest, text.toList = first :: rest ∧ first.isDigit = true
      ∧ ∀ c ∈ rest, isNameChar c = true ∨ c = '.'
  | quoted text => ∀ c ∈ text.toList, c ≠ '"' ∧ c ≠ '\x5c'
  | remark _ => True

/-- True of the text behind a gap if what stands in the gap ends with it. -/
def endsAt (filling : Filling) (behind : List Char) : Bool :=
  match filling, behind with
  | word _, c :: _ => !isNameChar c
  | number _, c :: _ => !isNameChar c && c != '.'
  | word _, [] | number _, [] => false
  | quoted _, _ | remark _, _ => true

end Filling

namespace Mode

variable {mode : Mode} {text behind : List Char}

theorem step_onward {next : Mode} {c : Char} (h : mode.onward? c = some next) :
    mode.step c = ([], next) := by
  unfold step
  rw [h]

/-- Characters that lead nowhere else are passed over. -/
theorem read_inside (h : ∀ c ∈ text, mode.onward? c = some mode) :
    mode.read text = ([], mode) := by
  induction text with
  | nil => rfl
  | cons c text ih =>
      rw [read, step_onward (h c (List.mem_cons_self ..)),
        ih fun d hd => h d (List.mem_cons_of_mem _ hd), List.append_nil]

/-- Name characters go on with a word. -/
theorem read_letters (h : ∀ c ∈ text, isNameChar c = true) :
    ∀ letters : List Char, (word letters).read text = ([], word (letters ++ text)) := by
  induction text with
  | nil =>
      intro letters
      rw [List.append_nil, read]
  | cons c text ih =>
      intro letters
      have honward : (word letters).onward? c = some (word (letters ++ [c])) :=
        if_pos (h c (List.mem_cons_self ..))
      rw [read, step_onward honward, ih fun d hd => h d (List.mem_cons_of_mem _ hd),
        List.append_assoc, List.singleton_append, List.append_nil]

/-- Where a character goes on with nothing, what was read so far ends. -/
theorem read_ended {c : Char} (h : mode.onward? c = none) :
    mode.read (c :: text)
      = (mode.held ++ (code.read (c :: text)).1, (code.read (c :: text)).2) := by
  have hstep : mode.step c = (mode.held ++ (code.step c).1, (code.step c).2) := by
    unfold step
    rw [h]
    rfl
  rw [read, hstep, List.append_assoc, read]

/-- A letter is no digit. -/
theorem isDigit_of_letter {c : Char} (h : IsLetter c) : c.isDigit = false := by
  unfold Char.isDigit
  rw [Bool.and_eq_false_iff]
  rcases h with ⟨h, -⟩ | ⟨h, -⟩ | rfl
  · exact .inr (decide_eq_false (UInt32.not_le.2 (UInt32.lt_of_lt_of_le (by decide) h)))
  · exact .inr (decide_eq_false (UInt32.not_le.2 (UInt32.lt_of_lt_of_le (by decide) h)))
  · exact .inr (by decide)

theorem read_word {name : String} (hn : isComponentName name = true) :
    code.read name.toList = ([], word name.toList) := by
  obtain ⟨first, rest, hname, hfirst, -⟩ := wellNamed_iff.1 hn
  have hchars := name_chars hn
  rw [hname] at hchars ⊢
  have hstart : code.step first = ([], word [first]) := by
    show ([] ++ (start first).1, (start first).2) = _
    unfold start
    rw [if_neg (ne_true_of_eq_false (isDigit_of_letter hfirst)),
      if_pos (hchars first (List.mem_cons_self ..))]
    rfl
  rw [read, hstart, read_letters fun c hc => hchars c (List.mem_cons_of_mem _ hc)]
  rfl

theorem read_number {first : Char} {rest : List Char} (hfirst : first.isDigit = true)
    (hrest : ∀ c ∈ rest, isNameChar c = true ∨ c = '.') :
    code.read (first :: rest) = ([], number) := by
  have hstart : code.step first = ([], number) := by
    show ([] ++ (start first).1, (start first).2) = _
    unfold start
    rw [if_pos hfirst]
    rfl
  have honward : ∀ c ∈ rest, number.onward? c = some number := by
    intro c hc
    refine if_pos ?_
    rw [Bool.or_eq_true, decide_eq_true_eq]
    exact hrest c hc
  rw [read, hstart, read_inside honward]
  rfl

/-- What fills a gap is read as one token or none, up to the text behind
it. -/
theorem read_filling {filling : Filling} (hfits : filling.Fits)
    (hends : filling.endsAt behind = true) :
    filling.mode.read (filling.text.toList ++ behind)
      = (filling.tokens ++ (filling.mode.read behind).1, (filling.mode.read behind).2) := by
  rw [read_append]
  unfold Filling.mode Filling.text Filling.tokens
  cases filling with
  | word text =>
      cases behind with
      | nil => cases hends
      | cons c behind =>
          -- the character behind the gap cannot go on with what fills it
          have hstop : (word text.toList).onward? c = none :=
            if_neg (by simpa [Filling.endsAt] using hends)
          dsimp only
          rw [read_word hfits, read_ended hstop, held, String.ofList_toList, List.nil_append]
  | number text =>
      obtain ⟨first, rest, htext, hfirst, hrest⟩ := hfits
      cases behind with
      | nil => cases hends
      | cons c behind =>
          have hstop : number.onward? c = none :=
            if_neg (by simpa [Filling.endsAt] using hends)
          dsimp only
          rw [htext, read_number hfirst hrest, read_ended hstop]
          rfl
  | quoted text =>
      have honward : ∀ c ∈ text.toList, (quoted '"').onward? c = some (quoted '"') := by
        intro c hc
        obtain ⟨hquote, hescape⟩ := hfits c hc
        show some (ite _ _ _) = _
        rw [if_neg hquote, if_neg hescape]
      dsimp only
      rw [read_inside honward]
  | remark text =>
      dsimp only
      rw [read_inside fun _ _ => rfl]

end Mode

-- =================================================== lines with gaps

/-- A line of fixed text with gaps, each gap followed by fixed text. -/
def filled (lead : String) (parts : List (Filling × String)) : String :=
  parts.foldl (fun line part => line ++ part.1.text ++ part.2) lead

/-- True if the reading stands at every gap where it has to stand for what
fills it, and what fills it ends with the gap. -/
def Met : Mode → List (Filling × String) → Prop
  | _, [] => True
  | mode, (filling, behind) :: parts => mode = filling.mode
    ∧ filling.endsAt behind.toList = true ∧ Met (filling.mode.read behind.toList).2 parts

/-- What is read of a line from a gap on. -/
def readParts : Mode → List (Filling × String) → List Token
  | mode, [] => mode.held
  | _, (filling, behind) :: parts => filling.tokens ++ ((filling.mode.read behind.toList).1
    ++ readParts (filling.mode.read behind.toList).2 parts)

/-- The tokens of a line with gaps are those of its fixed text, and between
them what fills the gaps. -/
theorem tokens_filled (parts : List (Filling × String)) :
    ∀ lead : String, (∀ part ∈ parts, part.1.Fits) → Met (Mode.code.read lead.toList).2 parts →
      tokens (filled lead parts).toList
        = (Mode.code.read lead.toList).1 ++ readParts (Mode.code.read lead.toList).2 parts := by
  induction parts with
  | nil => exact fun _ _ _ => rfl
  | cons part parts ih =>
      intro lead hfits hmet
      obtain ⟨filling, behind⟩ := part
      obtain ⟨hmode, hends, hmet⟩ := hmet
      have hread : Mode.code.read (lead ++ filling.text ++ behind).toList
          = ((Mode.code.read lead.toList).1
              ++ (filling.tokens ++ (filling.mode.read behind.toList).1),
            (filling.mode.read behind.toList).2) := by
        rw [String.toList_append, String.toList_append, List.append_assoc, Mode.read_append, hmode,
          Mode.read_filling (hfits _ (List.mem_cons_self ..)) hends]
      have hrest := ih (lead ++ filling.text ++ behind)
        (fun other hother => hfits other (List.mem_cons_of_mem _ hother))
        (by rw [hread]; exact hmet)
      rw [hread] at hrest
      refine hrest.trans ?_
      rw [readParts]
      simp only [List.append_assoc]

/-- A number that ends a line adds nothing to its tokens. -/
theorem tokens_number_end {lead number : String} (hfits : (Filling.number number).Fits)
    (hcode : (Mode.code.read lead.toList).2 = .code) :
    tokens (lead ++ number).toList = (Mode.code.read lead.toList).1 := by
  obtain ⟨first, rest, htext, hfirst, hrest⟩ := hfits
  unfold tokens
  rw [String.toList_append, Mode.read_append, hcode, htext, Mode.read_number hfirst hrest]
  exact (List.append_nil _).trans (List.append_nil _)

end SerialEndpoint.Sketch

-- =============================================================== numbers

namespace SerialEndpoint

open Sketch

theorem nat_fits (n : Nat) : (Filling.number (toString n)).Fits := by
  have hdigits := isDigit_nat n
  obtain ⟨first, rest, htext⟩ := List.exists_cons_of_ne_nil (digits_ne_nil n)
  rw [htext] at hdigits
  exact ⟨first, rest, htext, hdigits first (List.mem_cons_self ..),
    fun c hc => .inl (isNameChar_of_digit (hdigits c (List.mem_cons_of_mem _ hc)))⟩

/-- A row of digits with a point in it begins with a digit. -/
theorem pointBefore_cons (places : Nat) {digits : List Char}
    (h : ∀ c ∈ digits, c.isDigit = true) :
    ∃ first rest, pointBefore places digits = first :: rest ∧ first.isDigit = true := by
  have hpadded : ∀ c ∈ List.replicate (places + 1 - digits.length) '0' ++ digits,
      c.isDigit = true := by
    intro c hc
    rcases List.mem_append.1 hc with hc | hc
    · rw [List.eq_of_mem_replicate hc]
      decide
    · exact h c hc
  have hlength : places < (List.replicate (places + 1 - digits.length) '0' ++ digits).length := by
    rw [List.length_append, List.length_replicate]
    omega
  unfold pointBefore
  simp only
  generalize List.replicate (places + 1 - digits.length) '0' ++ digits = padded at hpadded hlength
  obtain ⟨first, rest, rfl⟩ : ∃ first rest, padded = first :: rest :=
    List.exists_cons_of_length_pos (by omega)
  obtain ⟨n, hn⟩ : ∃ n, (first :: rest).length - places = n + 1 :=
    ⟨(first :: rest).length - places - 1, by omega⟩
  have hfirst := hpadded first (List.mem_cons_self ..)
  rw [hn, List.take_succ_cons]
  split
  · exact ⟨first, _, rfl, hfirst⟩
  · exact ⟨first, _, rfl, hfirst⟩

/-- A number with fixed places is read as a number unless it is negative or
infinite. -/
theorem fixed_fits (places units : Nat) :
    (Filling.number ((Binary64.finite false units).fixed places)).Fits := by
  have hdigits : ∀ n, ∀ c ∈ Nat.toDigits 10 n, c.isDigit = true :=
    fun n c hc => Nat.isDigit_of_mem_toDigits (by decide) (by decide) hc
  have hchars : ∀ n, ∀ c ∈ pointBefore places (Nat.toDigits 10 n),
      isNameChar c = true ∨ c = '.' :=
    fun n => forall_pointBefore (fun c hc => .inl (isNameChar_of_digit (hdigits n c hc)))
      (.inl (by decide)) (.inr rfl)
  have htext : ((Binary64.finite false units).fixed places).toList
      = fixedMagnitude places units := String.toList_ofList
  unfold fixedMagnitude at htext
  generalize divHalfEven (units * Nat.pow 10 places) Binary64.unitsPerOne = n at htext
  obtain ⟨first, rest, hcons, hfirst⟩ := pointBefore_cons places (hdigits n)
  have hrest := hchars n
  rw [hcons] at htext hrest
  exact ⟨first, rest, htext, hfirst, fun c hc => hrest c (List.mem_cons_of_mem _ hc)⟩

end SerialEndpoint
