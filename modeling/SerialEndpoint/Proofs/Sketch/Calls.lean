/-
The calls in a source text. A call is a word with a parenthesis behind it; of
what stands in the parentheses the first argument is kept apart, up to the
first comma. The reading goes along the line (`calls`), so it finds calls
within calls.

# What is put into a line

Nothing that goes into the lines of a sketch where pins are used has a
parenthesis or a comma in it: it is made of words (`Bare`). Two things follow:

- text without a parenthesis adds no call and only goes on with a word, so the
  functions that are called are those of the fixed text (`functions_append`);
- an argument that was put in is read up to its end (`Invocation.of_eq`).

# Calls that take a pin

Four functions take a pin, and `pinCalls` are the calls of these in some
lines. They go along with putting lines together, so only single lines are
left, and there are two kinds of these:

- a line with a call on a pin (`calls_of_pin`, `calls_of_last_pin`). It is the
  only one of the line that takes a pin, though calls of other functions may
  stand in its arguments or around it (`calls_of_other`);
- a line without one. If all that was put in stands behind the last call, or
  in front of a point, this is decided on the fixed text (`pinCalls_of_lead`,
  `pinCalls_of_member`).
-/
import SerialEndpoint.Proofs.Sketch.Functions

namespace SerialEndpoint

namespace Sketch

-- ============================================================== reading

/-- A call: the function, its first argument, and the text of the others up
to the first parenthesis that closes. -/
structure Invocation where
  function : String
  first : String
  others : String
deriving DecidableEq

/-- The call of a function with what stands behind the parenthesis. -/
def Invocation.of (function : List Char) (behind : List Char) : Invocation :=
  let arguments := behind.takeWhile (· ≠ ')')
  { function := String.ofList function
    first := String.ofList (arguments.takeWhile (· ≠ ','))
    others := String.ofList (arguments.dropWhile (· ≠ ',')) }

/-- The word that a character goes on or ends. -/
def extend (word : List Char) (c : Char) : List Char :=
  if isNameChar c then word ++ [c] else []

/-- The calls in a line behind the beginning of a word. -/
def calls (word : List Char) : List Char → List Invocation
  | [] => []
  | c :: rest =>
    if c = '(' then Invocation.of word rest :: calls [] rest else calls (extend word c) rest

/-- The calls of some functions in a body. -/
def callsTo (functions : List String) (body : List (List Char)) : List Invocation :=
  (body.flatMap (calls [])).filter (·.function ∈ functions)

-- ===================================================== lines with gaps

/-- A text of words, without a parenthesis or a comma. -/
def Bare (text : String) : Prop := ∀ c ∈ text.toList, isNameChar c = true ∨ c = ' '

theorem Bare.not_mem {text : String} (h : Bare text) {c : Char}
    (hc : (isNameChar c || c == ' ') = false) : c ∉ text.toList := by
  rw [Bool.or_eq_false_iff, beq_eq_false_iff_ne] at hc
  intro hmem
  rcases h c hmem with hname | hspace
  · rw [hc.1] at hname
    cases hname
  · exact hc.2 hspace

theorem Bare.append {s t : String} (hs : Bare s) (ht : Bare t) : Bare (s ++ t) := by
  intro c hc
  rw [String.toList_append, List.mem_append] at hc
  exact hc.elim (hs c) (ht c)

theorem bare_name {name : String} (hn : isComponentName name = true) : Bare name :=
  fun c hc => .inl (name_chars hn c hc)

theorem bare_nat (n : Nat) : Bare (toString n) :=
  fun c hc => .inl (isNameChar_of_digit (isDigit_nat n c hc))

theorem bare_of_all {text : String}
    (h : text.toList.all (fun c => isNameChar c || c == ' ') = true) : Bare text := by
  intro c hc
  simpa using List.all_eq_true.1 h c hc

theorem bare_pin (pin : Pin) : Bare pin.name := by
  unfold Pin.name
  split
  · exact Bare.append (bare_of_all (by decide)) (bare_nat _)
  · exact bare_nat _
  · exact bare_nat _

theorem bare_role (role : Role) : Bare role.text := by
  cases role <;> exact bare_of_all (by decide)

theorem bare_line {command : Command} (hn : isComponentName command.component = true) :
    Bare command.line :=
  ((Bare.append fun c hc => .inl (word_chars _ c hc)) (bare_of_all (by decide))).append
    (bare_name hn)

/-- A text without a parenthesis that opens. -/
def Unopened (text : String) : Prop := '(' ∉ text.toList

instance (text : String) : Decidable (Unopened text) :=
  inferInstanceAs (Decidable ('(' ∉ text.toList))

theorem unopened_append {s t : String} : Unopened (s ++ t) ↔ Unopened s ∧ Unopened t := by
  unfold Unopened
  rw [String.toList_append, List.mem_append, not_or]

theorem Bare.unopened {text : String} (h : Bare text) : Unopened text :=
  h.not_mem (by decide)

-- =============================================================== calls

/-- Text without a parenthesis has no call and goes on with the word. -/
theorem calls_skip {text : List Char} (h : '(' ∉ text) :
    ∀ (word rest : List Char), calls word (text ++ rest) = calls (text.foldl extend word) rest := by
  induction text with
  | nil => exact fun _ _ => rfl
  | cons c text ih =>
      rw [List.mem_cons, not_or] at h
      intro word rest
      rw [List.cons_append, calls, if_neg (Ne.symm h.1), ih h.2, List.foldl_cons]

theorem calls_unopened {text : List Char} (h : '(' ∉ text) (word : List Char) :
    calls word text = [] := by
  have hskip := calls_skip h word []
  rwa [List.append_nil] at hskip

/-- Behind a character that is in no word the reading begins anew. -/
theorem calls_anew {text : List Char} (h : '(' ∉ text) {c : Char} (hname : isNameChar c = false)
    (hopen : c ≠ '(') (word rest : List Char) :
    calls word (text ++ c :: rest) = calls [] rest := by
  rw [calls_skip h, calls, if_neg hopen]
  unfold extend
  rw [hname, if_neg Bool.false_ne_true]

/-- The functions that are called do not depend on text without a
parenthesis behind them. -/
theorem functions_append {rest : List Char} (h : '(' ∉ rest) (lead : List Char) :
    ∀ word : List Char, (calls word (lead ++ rest)).map Invocation.function
      = (calls word lead).map Invocation.function := by
  induction lead with
  | nil =>
      intro word
      rw [List.nil_append, calls_unopened h]
      rfl
  | cons c lead ih =>
      intro word
      rw [List.cons_append, calls, calls]
      split
      · rw [List.map_cons, List.map_cons, ih]
        rfl
      · exact ih _

/-- An argument is read up to its end. -/
theorem Invocation.of_eq {function argument others behind : List Char}
    (hargument : ∀ c ∈ argument, c ≠ ',' ∧ c ≠ ')') (hothers : ')' ∉ others)
    (hcomma : others.head?.all (· = ',') = true) :
    Invocation.of function (argument ++ (others ++ ')' :: behind))
      = ⟨String.ofList function, String.ofList argument, String.ofList others⟩ := by
  have hopen : ∀ c ∈ argument ++ others, decide (c ≠ ')') = true := by
    intro c hc
    rw [decide_eq_true_eq]
    rcases List.mem_append.1 hc with hc | hc
    · exact (hargument c hc).2
    · exact fun heq => hothers (heq ▸ hc)
  have harguments : (argument ++ (others ++ ')' :: behind)).takeWhile (· ≠ ')')
      = argument ++ others := by
    rw [← List.append_assoc, List.takeWhile_append_of_pos hopen,
      List.takeWhile_cons_of_neg (by decide), List.append_nil]
  have hfirst : ∀ c ∈ argument, decide (c ≠ ',') = true :=
    fun c hc => decide_eq_true (hargument c hc).1
  unfold Invocation.of
  rw [harguments]
  dsimp only
  rw [List.takeWhile_append_of_pos hfirst, List.dropWhile_append_of_pos hfirst]
  cases others with
  | nil => simp
  | cons c others =>
      have hc : c = ',' := by simpa using hcomma
      subst hc
      simp

theorem foldl_extend {text : List Char} (h : ∀ c ∈ text, isNameChar c = true) :
    ∀ word : List Char, text.foldl extend word = word ++ text := by
  induction text with
  | nil => exact fun word => (List.append_nil word).symm
  | cons c text ih =>
      intro word
      rw [List.foldl_cons, ih fun d hd => h d (List.mem_cons_of_mem _ hd)]
      unfold extend
      rw [if_pos (h c (List.mem_cons_self ..)), List.append_assoc, List.singleton_append]

/-- A line that begins with a call. -/
theorem calls_call {function : List Char} (h : ∀ c ∈ function, isNameChar c = true)
    (behind : List Char) :
    calls [] (function ++ '(' :: behind) = Invocation.of function behind :: calls [] behind := by
  have hopen : '(' ∉ function := by
    intro hmem
    have := h _ hmem
    revert this
    decide
  rw [calls_skip hopen, foldl_extend h, calls, if_pos rfl, List.nil_append]

-- ========================================================= calls of pins

/-- The functions that take a pin. -/
def pinFunctions : List String := ["pinMode", "digitalWrite", "analogWrite", "readVoltage"]

/-- The calls of these functions in some lines. -/
def pinCalls (lines : List Line) : List Invocation :=
  callsTo pinFunctions (lines.map fun line => line.content.toList)

/-- The calls of some of these functions are among the calls of all. -/
theorem callsTo_eq {functions : List String} (h : functions ⊆ pinFunctions) (lines : List Line) :
    callsTo functions (lines.map fun line => line.content.toList)
      = (pinCalls lines).filter (·.function ∈ functions) := by
  unfold pinCalls callsTo
  rw [List.filter_filter]
  refine List.filter_congr fun call _ => ?_
  rw [Bool.eq_iff_iff, Bool.and_eq_true, decide_eq_true_eq, decide_eq_true_eq]
  exact ⟨fun hcall => ⟨hcall, h hcall⟩, fun hcall => hcall.1⟩

theorem pinCalls_append (xs ys : List Line) : pinCalls (xs ++ ys) = pinCalls xs ++ pinCalls ys := by
  unfold pinCalls callsTo
  rw [List.map_append, List.flatMap_append, List.filter_append]

theorem pinCalls_cons (line : Line) (rest : List Line) :
    pinCalls (line :: rest) = pinCalls [line] ++ pinCalls rest :=
  pinCalls_append [line] rest

theorem pinCalls_flatMap {α : Type} (xs : List α) (f : α → List Line) :
    pinCalls (xs.flatMap f) = xs.flatMap fun x => pinCalls (f x) := by
  induction xs with
  | nil => rfl
  | cons x xs ih => rw [List.flatMap_cons, pinCalls_append, ih, List.flatMap_cons]

theorem pinCalls_singleton (line : Line) :
    pinCalls [line] = (calls [] line.content.toList).filter (·.function ∈ pinFunctions) := by
  unfold pinCalls callsTo
  rw [List.map_singleton, List.flatMap_singleton]

theorem pinCalls_eq_nil {line : Line}
    (h : ∀ call ∈ calls [] line.content.toList, call.function ∉ pinFunctions) :
    pinCalls [line] = [] := by
  rw [pinCalls_singleton, List.filter_eq_nil_iff]
  intro call hcall
  simpa using h call hcall

/-- A line whose calls are in a fixed text, and none of them takes a
pin. -/
theorem pinCalls_of_lead (lead rest : String) {line : Line} (htext : line.content = lead ++ rest)
    (hrest : Unopened rest)
    (hlead : ((calls [] lead.toList).map Invocation.function).all (· ∉ pinFunctions) = true) :
    pinCalls [line] = [] := by
  refine pinCalls_eq_nil fun call hcall => ?_
  have hmem : call.function ∈ (calls [] line.content.toList).map Invocation.function :=
    List.mem_map_of_mem hcall
  rw [htext, String.toList_append, functions_append hrest] at hmem
  simpa using List.all_eq_true.1 hlead _ hmem

/-- The same of a member of an object with a name. -/
theorem pinCalls_of_member (name lead rest : String) {line : Line}
    (htext : line.content = name ++ ("." ++ (lead ++ rest))) (hname : Unopened name)
    (hrest : Unopened rest)
    (hlead : ((calls [] lead.toList).map Invocation.function).all (· ∉ pinFunctions) = true) :
    pinCalls [line] = [] := by
  have hcalls : calls [] line.content.toList = calls [] (lead.toList ++ rest.toList) := by
    rw [htext, String.toList_append, String.toList_append, String.toList_append]
    exact calls_anew hname (by decide) (by decide) [] _
  refine pinCalls_eq_nil fun call hcall => ?_
  have hmem : call.function ∈ (calls [] line.content.toList).map Invocation.function :=
    List.mem_map_of_mem hcall
  rw [hcalls, functions_append hrest] at hmem
  simpa using List.all_eq_true.1 hlead _ hmem

/-- Text that begins with the call of a function that takes a pin. -/
theorem calls_of_pin {function argument others : String} {behind : List Char}
    (hfunction : function ∈ pinFunctions) (hargument : Bare argument)
    (hothers : ')' ∉ others.toList) (hcomma : others.toList.head?.all (· = ',') = true)
    (hinner : (calls [] (argument.toList ++ (others.toList ++ ')' :: behind))).filter
      (·.function ∈ pinFunctions) = []) :
    (calls [] (function.toList ++ '(' ::
        (argument.toList ++ (others.toList ++ ')' :: behind)))).filter (·.function ∈ pinFunctions)
      = [⟨function, argument, others⟩] := by
  have hname : ∀ c ∈ function.toList, isNameChar c = true := by
    have hall : pinFunctions.all (fun f => f.toList.all isNameChar) = true := by decide
    exact List.all_eq_true.1 (List.all_eq_true.1 hall function hfunction)
  have hbare : ∀ c ∈ argument.toList, c ≠ ',' ∧ c ≠ ')' := by
    intro c hc
    refine ⟨?_, ?_⟩
    · rintro rfl
      exact hargument.not_mem (by decide) hc
    · rintro rfl
      exact hargument.not_mem (by decide) hc
  rw [calls_call hname, Invocation.of_eq hbare hothers hcomma]
  simp only [String.ofList_toList]
  rw [List.filter_cons_of_pos, hinner]
  exact decide_eq_true hfunction

/-- The same where no other call comes after it. -/
theorem calls_of_last_pin {function argument others behind : String}
    (hfunction : function ∈ pinFunctions) (hargument : Bare argument)
    (hothers : ')' ∉ others.toList) (hcomma : others.toList.head?.all (· = ',') = true)
    (hopen : Unopened others) (hbehind : Unopened behind) :
    (calls [] (function.toList ++ '(' :: (argument.toList ++
        (others.toList ++ ')' :: behind.toList)))).filter (·.function ∈ pinFunctions)
      = [⟨function, argument, others⟩] := by
  refine calls_of_pin hfunction hargument hothers hcomma ?_
  rw [calls_unopened, List.filter_nil]
  simp only [List.mem_append, List.mem_cons, not_or]
  exact ⟨hargument.unopened, hopen, by decide, hbehind⟩

/-- The call of another function is passed by. -/
theorem calls_of_other {function : String} (hname : function.toList.all isNameChar = true)
    (hfunction : function ∉ pinFunctions) (behind : List Char) :
    (calls [] (function.toList ++ '(' :: behind)).filter (·.function ∈ pinFunctions)
      = (calls [] behind).filter (·.function ∈ pinFunctions) := by
  rw [calls_call (List.all_eq_true.1 hname), List.filter_cons_of_neg]
  show ¬decide (String.ofList function.toList ∈ pinFunctions) = true
  rw [String.ofList_toList]
  exact mt of_decide_eq_true hfunction

theorem pinCalls_unopened {line : Line} (h : Unopened line.content) : pinCalls [line] = [] := by
  rw [pinCalls_singleton, calls_unopened h, List.filter_nil]

end Sketch

end SerialEndpoint
