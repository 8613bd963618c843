/-
What a sketch does with names: which libraries it includes, what it declares
and defines, and which names it uses, in the order of its text. All of this
is read from the code of the text alone (`mentionsIn`), so a name in a
comment or in a literal is not there.

# What is looked at

Code is full of names: types, parameters, functions of the runtime. Few of
them matter for the question whether a sketch declares what it uses, and
`Mention.matters` says which. It lets everything through that introduces a
name. Of the uses it keeps those of the motors' states and of the distance
sensors (`isVariable`), of the values of the enumeration and of the two
helpers, and of the methods the start of the bus. What is passed over is
passed over by its name alone, never by where it stands, so nothing can hide
behind the filter that bears one of these names.

# Lines

`Line.marks` is what is left of one line. Each form of line has one lemma,
and the fillings of its gaps are variables in it:

- a line that names a variable keeps it, whatever the variable is called.
  `Variable` is all that is needed of the name: it is an identifier, so the
  tokens are cut at its ends, and it begins like a variable, so it cannot be
  one of the words around it (`Variable.ne`) and `mentions` sees no
  declaration in it (`Variable.mentions_eq`);
- a line with a number, a pin or a text of the settings keeps nothing of it.
  Numbers and literals have no tokens at all, which is why the lists below
  do not depend on the settings;
- the name of an analog pin is a word like any other, but none that is
  looked at (`matters_analog`).

# Sections

`marks` goes over concatenations, so a section of the sketch is put together
from its lines, and the sketch from its sections. There are three lists, in
the order of the text: `headMarks` for the libraries and the enumeration,
`declarationMarks` for the variables and the helpers, and `bodyMarks` for
the functions. All three are functions of the assignments, and
`marks_sketchLines` says that they are what the sketch does. What has to be
said about the text of a sketch from here on is said about these lists.
-/
import SerialEndpoint.Proofs.Sketch.Reading
import SerialEndpoint.Proofs.Sketch.Tokens

namespace SerialEndpoint

namespace Sketch

-- ============================================================== mentions

/-- What a source text does with a name. -/
inductive Mention where
  | includes (library : String)
  /-- A variable of one of the types that are looked at. -/
  | declares (type name : String)
  /-- An enumeration, one of its values, or a function. -/
  | defines (name : String)
  | uses (name : String)
  | calls (function : String)
  | invokes (object method : String)
deriving DecidableEq

/-- What is done with the names in code that introduces none. -/
def occurrences : List Token → List Mention
  | [] => []
  | .sign _ :: rest => occurrences rest
  | .word name :: rest => .uses name :: ((match rest with
      | .sign '(' :: _ => [.calls name]
      | .sign '.' :: .word method :: .sign '(' :: _ => [.invokes name method]
      | _ => []) ++ occurrences rest)

/-- The names among the values of an enumeration. -/
def words (tokens : List Token) : List String :=
  tokens.filterMap fun token =>
    match token with
    | .word name => some name
    | .sign _ => none

/-- What is done with the names in a line of code. -/
def mentions : List Token → List Mention
  | [.sign '#', .word "include", .sign '<', .word library, .sign '.', .word "h", .sign '>'] =>
    [.includes library]
  | [.word "SpeedState", .word name, .sign '=', .word value, .sign ';'] =>
    [.declares "SpeedState" name, .uses value]
  | [.word "VL53L0X", .word name, .sign ';'] => [.declares "VL53L0X" name]
  | .word "enum" :: .word name :: .sign '\x7b' :: values =>
    .defines name :: (words values).map .defines
  | .word "static" :: .word type :: .word name :: .sign '(' :: parameters =>
    if parameters.getLast? = some (.sign '\x7b') then .defines name :: occurrences parameters
    else occurrences (.word type :: .word name :: .sign '(' :: parameters)
  | line => occurrences line

/-- What a source text does with names, in order. -/
def mentionsIn (text : String) : List Mention := (codeOf text).flatMap mentions

/-- True of the name of a motor's state or of a distance sensor. -/
def isVariable (name : String) : Bool :=
  ("speedState".toList.isPrefixOf name.toList && name ≠ "speedState")
    || ("sensor".toList.isPrefixOf name.toList && name ≠ "sensor")

/-- The other names that are looked at. -/
def lookedAt : List String := ["SPEED_IDLE", "SPEED_AWAITING_PARAM", "readVoltage", "dumpDistance"]

/-- True of a mention that is looked at. -/
def Mention.matters : Mention → Bool
  | includes _ | declares _ _ | defines _ => true
  | uses name | calls name => isVariable name || lookedAt.contains name
  | invokes object _ => object = "Wire"

/-- What a line does with the names that are looked at. -/
def Line.marks (line : Line) : List Mention := (mentions line.tokens).filter Mention.matters

/-- What some lines do with the names that are looked at. -/
def marks (lines : List Line) : List Mention := lines.flatMap Line.marks

theorem marks_append (lines more : List Line) : marks (lines ++ more) = marks lines ++ marks more :=
  List.flatMap_append

theorem marks_cons (line : Line) (lines : List Line) :
    marks (line :: lines) = line.marks ++ marks lines :=
  List.flatMap_cons

theorem marks_flatMap {α : Type} (f : α → List Line) (xs : List α) :
    marks (xs.flatMap f) = xs.flatMap fun x => marks (f x) :=
  List.flatMap_assoc

theorem marks_map {α : Type} (f : α → Line) (xs : List α) :
    marks (xs.map f) = xs.flatMap fun x => (f x).marks :=
  List.flatMap_map ..

/-- The name of a variable that is looked at. -/
structure Variable (name : String) : Prop where
  valid : isComponentName name = true
  looked : isVariable name = true

section

variable {name : String}

theorem isComponentName_append {front : String} (hfront : isComponentName front = true)
    (hn : ∀ c ∈ name.toList, isNameChar c = true) : isComponentName (front ++ name) = true := by
  obtain ⟨first, rest, htext, hfirst, hrest⟩ := wellNamed_iff.1 hfront
  refine wellNamed_iff.2 ⟨first, rest ++ name.toList, ?_, hfirst, fun c hc => ?_⟩
  · rw [String.toList_append, htext, List.cons_append]
  · rcases List.mem_append.1 hc with hc | hc
    · exact hrest c hc
    · exact isNameChar_iff.1 (hn c hc)

theorem isPrefixOf_append (front name : String) :
    front.toList.isPrefixOf (front ++ name).toList = true := by
  rw [String.toList_append, List.isPrefixOf_iff_prefix]
  exact List.prefix_append ..

theorem append_ne_front {front : String} (hne : name ≠ "") : front ++ name ≠ front := by
  intro h
  rw [String.append_eq_left_iff] at h
  exact hne h

theorem ne_empty_of_valid (hn : isComponentName name = true) : name ≠ "" := by
  rintro rfl
  cases hn

theorem isVariable_state (hne : name ≠ "") : isVariable ("speedState" ++ name) = true := by
  unfold isVariable
  rw [isPrefixOf_append, decide_eq_true (append_ne_front hne), Bool.true_and, Bool.true_or]

theorem isVariable_sensor (hne : name ≠ "") : isVariable ("sensor" ++ name) = true := by
  unfold isVariable
  rw [isPrefixOf_append, decide_eq_true (append_ne_front hne), Bool.true_and, Bool.or_true]

theorem variable_state (hn : isComponentName name = true) : Variable ("speedState" ++ name) :=
  ⟨isComponentName_append (by decide) (name_chars hn), isVariable_state (ne_empty_of_valid hn)⟩

theorem variable_sensor (hn : isComponentName name = true) : Variable ("sensor" ++ name) :=
  ⟨isComponentName_append (by decide) (name_chars hn), isVariable_sensor (ne_empty_of_valid hn)⟩

end

-- ================================================================= lines

section Lines

variable {x : String}

theorem ne_of_isVariable {word : String} (hx : isVariable x = true)
    (hword : isVariable word = false) : x ≠ word := by
  rintro rfl
  rw [hx] at hword
  cases hword

theorem Variable.ne (hx : Variable x) {word : String} (hword : isVariable word = false) :
    x ≠ word :=
  ne_of_isVariable hx.looked hword

/-- A line that begins with a variable introduces nothing. -/
theorem Variable.mentions_eq (hx : Variable x) (rest : List Token) :
    mentions (.word x :: rest) = occurrences (.word x :: rest) := by
  have hstate := hx.ne (show isVariable "SpeedState" = false by decide)
  have hsensor := hx.ne (show isVariable "VL53L0X" = false by decide)
  have henum := hx.ne (show isVariable "enum" = false by decide)
  have hstatic := hx.ne (show isVariable "static" = false by decide)
  unfold mentions
  split <;> simp_all

theorem matters_variable (hx : isVariable x = true) : (Mention.uses x).matters = true := by
  show (isVariable x || _) = true
  rw [hx, Bool.true_or]

theorem Variable.filter (hx : Variable x) (front rest : List Mention) :
    (front ++ .uses x :: rest).filter Mention.matters
      = front.filter Mention.matters ++ .uses x :: rest.filter Mention.matters := by
  rw [List.filter_append, List.filter_cons_of_pos (matters_variable hx.looked)]

/-- What a line does is told by its tokens. -/
theorem marks_plain {text : String} {code : List Token} (h : tokens text.toList = code) :
    (Line.plain text).marks = (mentions code).filter Mention.matters :=
  congrArg (fun code => (mentions code).filter Mention.matters) h

theorem marks_declareState (hx : Variable x) :
    (Line.plain ("SpeedState " ++ x ++ " = SPEED_IDLE;")).marks
      = [.declares "SpeedState" x, .uses "SPEED_IDLE"] := by
  have htokens : tokens ("SpeedState " ++ x ++ " = SPEED_IDLE;").toList
      = [.word "SpeedState", .word x, .sign '=', .word "SPEED_IDLE", .sign ';'] :=
    tokens_filled [(.word x, " = SPEED_IDLE;")] "SpeedState "
      (List.forall_mem_singleton.2 hx.valid) ⟨rfl, rfl, trivial⟩
  exact marks_plain htokens

theorem marks_declareSensor (hx : Variable x) :
    (Line.plain ("VL53L0X " ++ x ++ ";")).marks = [.declares "VL53L0X" x] := by
  have htokens : tokens ("VL53L0X " ++ x ++ ";").toList
      = [.word "VL53L0X", .word x, .sign ';'] :=
    tokens_filled [(.word x, ";")] "VL53L0X " (List.forall_mem_singleton.2 hx.valid)
      ⟨rfl, rfl, trivial⟩
  exact marks_plain htokens

theorem marks_idle (hx : Variable x) :
    (Line.plain (x ++ " = SPEED_IDLE;")).marks = [.uses x, .uses "SPEED_IDLE"] := by
  have htokens : tokens ("" ++ x ++ " = SPEED_IDLE;").toList
      = [.word x, .sign '=', .word "SPEED_IDLE", .sign ';'] :=
    tokens_filled [(.word x, " = SPEED_IDLE;")] "" (List.forall_mem_singleton.2 hx.valid)
      ⟨rfl, rfl, trivial⟩
  rw [String.empty_append] at htokens
  rw [marks_plain htokens, hx.mentions_eq]
  exact hx.filter [] _

theorem marks_awaiting (hx : Variable x) :
    (Line.plain (x ++ " = SPEED_AWAITING_PARAM;")).marks
      = [.uses x, .uses "SPEED_AWAITING_PARAM"] := by
  have htokens : tokens ("" ++ x ++ " = SPEED_AWAITING_PARAM;").toList
      = [.word x, .sign '=', .word "SPEED_AWAITING_PARAM", .sign ';'] :=
    tokens_filled [(.word x, " = SPEED_AWAITING_PARAM;")] ""
      (List.forall_mem_singleton.2 hx.valid) ⟨rfl, rfl, trivial⟩
  rw [String.empty_append] at htokens
  rw [marks_plain htokens, hx.mentions_eq]
  exact hx.filter [] _

/-- A method of a variable is not looked at. -/
theorem Variable.filter_method (hx : Variable x) (method : String) (rest : List Mention) :
    (.uses x :: .invokes x method :: rest).filter Mention.matters
      = .uses x :: rest.filter Mention.matters := by
  have hinvokes : (Mention.invokes x method).matters = false :=
    decide_eq_false (hx.ne (by decide))
  refine (hx.filter [] _).trans ?_
  rw [List.filter_cons_of_neg (ne_true_of_eq_false hinvokes)]
  rfl

theorem marks_setTimeout (hx : Variable x) (timeout : Nat) :
    (Line.plain (x ++ ".setTimeout(" ++ toString timeout ++ ");")).marks = [.uses x] := by
  have htokens : tokens ("" ++ x ++ ".setTimeout(" ++ toString timeout ++ ");").toList
      = [.word x, .sign '.', .word "setTimeout", .sign '(', .sign ')', .sign ';'] :=
    tokens_filled [(.word x, ".setTimeout("), (.number (toString timeout), ");")] ""
      (List.forall_mem_cons.2 ⟨hx.valid, List.forall_mem_singleton.2 (nat_fits timeout)⟩)
      ⟨rfl, rfl, rfl, rfl, trivial⟩
  rw [String.empty_append] at htokens
  rw [marks_plain htokens, hx.mentions_eq]
  exact hx.filter_method "setTimeout" _

theorem marks_init (hx : Variable x) : (Line.plain (x ++ ".init();")).marks = [.uses x] := by
  have htokens : tokens ("" ++ x ++ ".init();").toList
      = [.word x, .sign '.', .word "init", .sign '(', .sign ')', .sign ';'] :=
    tokens_filled [(.word x, ".init();")] "" (List.forall_mem_singleton.2 hx.valid)
      ⟨rfl, rfl, trivial⟩
  rw [String.empty_append] at htokens
  rw [marks_plain htokens, hx.mentions_eq]
  exact hx.filter_method "init" _

theorem marks_waits (hx : Variable x) :
    (Line.opening ("if (" ++ x ++ " == SPEED_AWAITING_PARAM)")).marks
      = [.uses x, .uses "SPEED_AWAITING_PARAM"] := by
  have htokens : tokens ("if (" ++ x ++ " == SPEED_AWAITING_PARAM) \x7b").toList
      = [.word "if", .sign '(', .word x, .sign '=', .sign '=', .word "SPEED_AWAITING_PARAM",
        .sign ')', .sign '\x7b'] :=
    tokens_filled [(.word x, " == SPEED_AWAITING_PARAM) \x7b")] "if ("
      (List.forall_mem_singleton.2 hx.valid) ⟨rfl, rfl, trivial⟩
  have hheader : "if (" ++ x ++ " == SPEED_AWAITING_PARAM)" ++ " \x7b"
      = "if (" ++ x ++ " == SPEED_AWAITING_PARAM) \x7b" := String.append_assoc ..
  rw [← hheader] at htokens
  exact (marks_plain htokens).trans (hx.filter [.uses "if", .calls "if"] _)

theorem marks_dumpDistance (hx : Variable x) :
    (Line.plain ("dumpDistance(" ++ x ++ ");")).marks
      = [.uses "dumpDistance", .calls "dumpDistance", .uses x] := by
  have htokens : tokens ("dumpDistance(" ++ x ++ ");").toList
      = [.word "dumpDistance", .sign '(', .word x, .sign ')', .sign ';'] :=
    tokens_filled [(.word x, ");")] "dumpDistance(" (List.forall_mem_singleton.2 hx.valid)
      ⟨rfl, rfl, trivial⟩
  exact (marks_plain htokens).trans (hx.filter [.uses "dumpDistance", .calls "dumpDistance"] _)

/-- A name with the letter A in front is not looked at. -/
theorem matters_analog (digits : String) : (Mention.uses ("A" ++ digits)).matters = false := by
  have hhead : ("A" ++ digits).toList = 'A' :: digits.toList := String.toList_append
  have hvariable : isVariable ("A" ++ digits) = false := by
    unfold isVariable
    rw [hhead]
    rfl
  have hother : lookedAt.contains ("A" ++ digits) = false := by
    have hheads : ∀ word ∈ lookedAt, word.toList.head? ≠ some 'A' := by decide
    rw [← Bool.not_eq_true, List.contains_iff_mem]
    exact fun hmem => hheads _ hmem (by rw [hhead]; rfl)
  show (isVariable _ || lookedAt.contains _) = false
  rw [hvariable, hother]
  rfl

theorem marks_formatVoltage (pin : UInt8) (places : Nat) :
    (Line.plain ("dtostrf(readVoltage(" ++ ("A" ++ toString pin.toNat) ++ "), 1, " ++
      toString places ++ ", reply);")).marks = [.uses "readVoltage", .calls "readVoltage"] := by
  have hpin : isComponentName ("A" ++ toString pin.toNat) = true :=
    isComponentName_append (by decide) fun c hc => isNameChar_of_digit (isDigit_nat _ c hc)
  have htokens : tokens ("dtostrf(readVoltage(" ++ ("A" ++ toString pin.toNat) ++ "), 1, " ++
        toString places ++ ", reply);").toList
      = [.word "dtostrf", .sign '(', .word "readVoltage", .sign '(',
        .word ("A" ++ toString pin.toNat), .sign ')', .sign ',', .sign ',', .sign ',',
        .word "reply", .sign ')', .sign ';'] :=
    tokens_filled [(.word ("A" ++ toString pin.toNat), "), 1, "),
        (.number (toString places), ", reply);")] "dtostrf(readVoltage("
      (List.forall_mem_cons.2 ⟨hpin, List.forall_mem_singleton.2 (nat_fits places)⟩)
      ⟨rfl, rfl, rfl, rfl, trivial⟩
  have hpassed : ([Mention.uses "dtostrf", .calls "dtostrf", .uses "readVoltage",
      .calls "readVoltage"] ++ Mention.uses ("A" ++ toString pin.toNat) :: [.uses "reply"]).filter
        Mention.matters = [.uses "readVoltage", .calls "readVoltage"] := by
    rw [List.filter_append, List.filter_cons_of_neg (ne_true_of_eq_false (matters_analog _))]
    rfl
  exact (marks_plain htokens).trans hpassed

-- The other lines do nothing that is looked at.

theorem marks_size (capacity : Nat) :
    (Line.plain ("#define ACCUMULATOR_SIZE " ++ toString capacity)).marks = [] := by
  have htokens : tokens ("#define ACCUMULATOR_SIZE " ++ toString capacity).toList
      = [.sign '#', .word "define", .word "ACCUMULATOR_SIZE"] :=
    tokens_number_end (nat_fits capacity) rfl
  exact marks_plain htokens

theorem marks_return {reference steps ratio : String} (hreference : (Filling.number reference).Fits)
    (hsteps : (Filling.number steps).Fits) (hratio : (Filling.number ratio).Fits) :
    (Line.plain ("return ((raw * " ++ reference ++ ") / " ++ steps ++ ") / " ++ ratio
      ++ ";")).marks = [] := by
  have htokens : tokens ("return ((raw * " ++ reference ++ ") / " ++ steps ++ ") / " ++ ratio
        ++ ";").toList
      = [.word "return", .sign '(', .sign '(', .word "raw", .sign '*', .sign ')', .sign '/',
        .sign ')', .sign '/', .sign ';'] :=
    tokens_filled [(.number reference, ") / "), (.number steps, ") / "), (.number ratio, ";")]
      "return ((raw * "
      (List.forall_mem_cons.2 ⟨hreference, List.forall_mem_cons.2 ⟨hsteps,
        List.forall_mem_singleton.2 hratio⟩⟩)
      ⟨rfl, rfl, rfl, rfl, rfl, rfl, trivial⟩
  exact marks_plain htokens

theorem marks_print {token : String} (htoken : (Filling.quoted token).Fits) :
    (Line.plain ("Serial.print(\"" ++ token ++ "\");")).marks = [] := by
  have htokens : tokens ("Serial.print(\"" ++ token ++ "\");").toList
      = [.word "Serial", .sign '.', .word "print", .sign '(', .sign ')', .sign ';'] :=
    tokens_filled [(.quoted token, "\");")] "Serial.print(\""
      (List.forall_mem_singleton.2 htoken) ⟨rfl, rfl, trivial⟩
  exact marks_plain htokens

theorem marks_begin (baud : Nat) :
    (Line.plain ("Serial.begin(" ++ toString baud ++ ");")).marks = [] := by
  have htokens : tokens ("Serial.begin(" ++ toString baud ++ ");").toList
      = [.word "Serial", .sign '.', .word "begin", .sign '(', .sign ')', .sign ';'] :=
    tokens_filled [(.number (toString baud), ");")] "Serial.begin("
      (List.forall_mem_singleton.2 (nat_fits baud)) ⟨rfl, rfl, trivial⟩
  exact marks_plain htokens

theorem marks_pinMode (pin : Nat) (name role : String) :
    (Line.plain ("pinMode(" ++ toString pin ++ ", OUTPUT); // " ++ name ++ " " ++ role)).marks
      = [] := by
  have htokens : tokens ("pinMode(" ++ toString pin ++ ", OUTPUT); // " ++ name ++ " " ++ role
        ++ "").toList
      = [.word "pinMode", .sign '(', .sign ',', .word "OUTPUT", .sign ')', .sign ';'] :=
    tokens_filled
      [(.number (toString pin), ", OUTPUT); // "), (.remark name, " "), (.remark role, "")]
      "pinMode(" (List.forall_mem_cons.2 ⟨nat_fits pin,
        List.forall_mem_cons.2 ⟨trivial, List.forall_mem_singleton.2 trivial⟩⟩)
      ⟨rfl, rfl, rfl, rfl, rfl, rfl, trivial⟩
  rw [String.append_empty] at htokens
  exact marks_plain htokens

theorem marks_analogWrite (pin : Nat) :
    (Line.plain ("analogWrite(" ++ toString pin
      ++ ", constrain(atoi(command), 0, 255));")).marks = [] := by
  have htokens : tokens ("analogWrite(" ++ toString pin
        ++ ", constrain(atoi(command), 0, 255));").toList
      = [.word "analogWrite", .sign '(', .sign ',', .word "constrain", .sign '(', .word "atoi",
        .sign '(', .word "command", .sign ')', .sign ',', .sign ',', .sign ')', .sign ')',
        .sign ';'] :=
    tokens_filled [(.number (toString pin), ", constrain(atoi(command), 0, 255));")]
      "analogWrite(" (List.forall_mem_singleton.2 (nat_fits pin)) ⟨rfl, rfl, trivial⟩
  exact marks_plain htokens

theorem marks_digitalWrite (pin : Nat) (level : Level) :
    (Line.plain ("digitalWrite(" ++ toString pin ++ ", " ++ level.text ++ ");")).marks = [] := by
  have hlevel : isComponentName level.text = true := by cases level <;> decide
  have htokens : tokens ("digitalWrite(" ++ toString pin ++ ", " ++ level.text ++ ");").toList
      = [.word "digitalWrite", .sign '(', .sign ',', .word level.text, .sign ')', .sign ';'] :=
    tokens_filled [(.number (toString pin), ", "), (.word level.text, ");")] "digitalWrite("
      (List.forall_mem_cons.2 ⟨nat_fits pin, List.forall_mem_singleton.2 hlevel⟩)
      ⟨rfl, rfl, rfl, rfl, trivial⟩
  refine (marks_plain htokens).trans ?_
  cases level <;> rfl

theorem marks_declareReply (size : Nat) :
    (Line.plain ("char reply[" ++ toString size ++ "];")).marks = [] := by
  have htokens : tokens ("char reply[" ++ toString size ++ "];").toList
      = [.word "char", .word "reply", .sign '[', .sign ']', .sign ';'] :=
    tokens_filled [(.number (toString size), "];")] "char reply["
      (List.forall_mem_singleton.2 (nat_fits size)) ⟨rfl, rfl, trivial⟩
  exact marks_plain htokens

theorem marks_placeholder (name : String) :
    (Line.plain ("// insert command logic for " ++ name ++ " here")).marks = [] := by
  have htokens : tokens ("// insert command logic for " ++ name ++ " here").toList = [] :=
    tokens_filled [(.remark name, " here")] "// insert command logic for "
      (List.forall_mem_singleton.2 trivial) ⟨rfl, rfl, trivial⟩
  exact marks_plain htokens

theorem marks_compare {line : String} (hline : (Filling.quoted line).Fits) :
    (Line.opening ("if (strcmp(command, \"" ++ line ++ "\") == 0)")).marks = [] := by
  have htokens : tokens ("if (strcmp(command, \"" ++ line ++ "\") == 0) \x7b").toList
      = [.word "if", .sign '(', .word "strcmp", .sign '(', .word "command", .sign ',', .sign ')',
        .sign '=', .sign '=', .sign ')', .sign '\x7b'] :=
    tokens_filled [(.quoted line, "\") == 0) \x7b")] "if (strcmp(command, \""
      (List.forall_mem_singleton.2 hline) ⟨rfl, rfl, trivial⟩
  have hheader : "if (strcmp(command, \"" ++ line ++ "\") == 0)" ++ " \x7b"
      = "if (strcmp(command, \"" ++ line ++ "\") == 0) \x7b" := String.append_assoc ..
  rw [← hheader] at htokens
  exact marks_plain htokens

end Lines

end Sketch

-- ================================================= what fills the gaps

open Sketch

/-- A number that can be divided by is read as a number. -/
theorem usable_fits {number : Binary64} (h : number.isUsable = true) (places : Nat) :
    (Filling.number (number.fixed places)).Fits := by
  obtain ⟨units, -, rfl⟩ := usable_iff.1 h
  exact fixed_fits places units

theorem steps_fit {steps : Nat} (h : steps ≤ 65536) (places : Nat) :
    (Filling.number ((Binary64.ofNat steps).fixed places)).Fits := by
  rw [Binary64.ofNat_eq (Nat.lt_of_le_of_lt h (by decide))]
  exact fixed_fits places _

theorem token_fits {token : String} (h : isTimeoutToken token = true) :
    (Filling.quoted token).Fits := by
  intro c hc
  unfold isTimeoutToken at h
  simp only [Bool.and_eq_true, List.all_eq_true, bne_iff_ne] at h
  obtain ⟨⟨-, hquote⟩, hescape⟩ := h.1.2 c hc
  exact ⟨hquote, hescape⟩

theorem line_fits {command : Command} (hn : isComponentName command.component = true) :
    (Filling.quoted command.line).Fits := by
  have hletter : ∀ c, isNameChar c = true → c ≠ '"' ∧ c ≠ '\x5c' := by
    intro c hc
    constructor <;>
    · rintro rfl
      cases hc
  intro c hc
  rw [line_toList] at hc
  rcases List.mem_append.1 hc with hc | hc
  · exact hletter c (word_chars _ c hc)
  · rcases List.mem_cons.1 hc with rfl | hc
    · decide
    · exact hletter c (name_chars hn c hc)

/-- An output is no analog pin. -/
theorem category_of_output {a : Assignment} (hf : Wiring.Fits a.kind a.wiring) :
    ∀ entry ∈ a.roles, entry.1 ≠ .collect → entry.2.category ≠ .analog := by
  unfold Assignment.roles
  generalize a.kind = kind at hf
  generalize a.wiring = wiring at hf
  cases hf with
  | motor pwm direction brake => cases pwm <;> cases direction <;> simp [Wiring.roles]
  | voltageSensor collect => simp [Wiring.roles]
  | switch control => simp [Wiring.roles]
  | distanceSensor => exact fun entry hentry => absurd hentry List.not_mem_nil
  | generic ignored => exact fun entry hentry => absurd hentry List.not_mem_nil

-- ============================================================== sections

namespace Assignment

/-- What the declaration of a motor's state does. -/
def stateMarks (a : Assignment) : List Mention :=
  [.declares "SpeedState" a.speedVariable, .uses "SPEED_IDLE"]

/-- What starting a distance sensor does. -/
def startMarks (a : Assignment) : List Mention :=
  [.uses a.sensorVariable, .uses a.sensorVariable]

/-- What taking a duty does. -/
def dutyMarks (a : Assignment) : List Mention :=
  if (a.pin? .pwm).isSome then
    [.uses a.speedVariable, .uses "SPEED_AWAITING_PARAM", .uses a.speedVariable,
      .uses "SPEED_IDLE"]
  else []

/-- What is done on a command. -/
def actionMarks (a : Assignment) : Action → List Mention
  | .write _ _ | .placeholder => []
  | .awaitSpeed _ => [.uses a.speedVariable, .uses "SPEED_AWAITING_PARAM"]
  | .readVoltage _ => [.uses "readVoltage", .calls "readVoltage"]
  | .readDistance => [.uses "dumpDistance", .calls "dumpDistance", .uses a.sensorVariable]

def commandMarks (a : Assignment) : List Mention :=
  a.commands.flatMap fun command => a.actionMarks command.action

end Assignment

/-- The libraries and the enumeration. -/
def headMarks (assignments : List Assignment) : List Mention :=
  .includes "Arduino" ::
  (if distanceSensors assignments ≠ [] then [.includes "Wire", .includes "VL53L0X"] else []) ++
  (if speedMotors assignments = [] then [] else
    [.defines "SpeedState", .defines "SPEED_IDLE", .defines "SPEED_AWAITING_PARAM"])

/-- The variables and the helpers. -/
def declarationMarks (assignments : List Assignment) : List Mention :=
  (speedMotors assignments).flatMap Assignment.stateMarks ++
  (distanceSensors assignments).map (fun a => .declares "VL53L0X" a.sensorVariable) ++
  (if hasVoltageSensor assignments then [.defines "readVoltage"] else []) ++
  (if distanceSensors assignments ≠ [] then [.defines "dumpDistance"] else [])

/-- The setup and the dispatching function. -/
def bodyMarks (assignments : List Assignment) : List Mention :=
  (if distanceSensors assignments = [] then [] else
    .invokes "Wire" "begin" :: (distanceSensors assignments).flatMap Assignment.startMarks) ++
  assignments.flatMap Assignment.dutyMarks ++ assignments.flatMap Assignment.commandMarks

section Sections

variable {firmware : Firmware} {a : Assignment} {assignments : List Assignment}

theorem marks_preamble (firmware : Firmware) (ranging : Bool) :
    marks (firmware.preamble ranging)
      = .includes "Arduino" :: if ranging then [.includes "Wire", .includes "VL53L0X"] else [] := by
  rw [Firmware.preamble_parts, marks_append, marks_cons, marks_size]
  cases ranging <;> decide +kernel

theorem marks_stateLines {motors : List Assignment}
    (hnamed : ∀ a ∈ motors, isComponentName a.name = true) :
    marks (Firmware.stateLines motors)
      = (if motors = [] then [] else
          [.defines "SpeedState", .defines "SPEED_IDLE", .defines "SPEED_AWAITING_PARAM"])
        ++ motors.flatMap Assignment.stateMarks := by
  have henum : marks [.blank, .plain "enum SpeedState \x7b SPEED_IDLE, SPEED_AWAITING_PARAM \x7d;"]
      = [.defines "SpeedState", .defines "SPEED_IDLE", .defines "SPEED_AWAITING_PARAM"] := by
    decide +kernel
  have hstates : motors.flatMap (fun a => (Line.plain ("SpeedState " ++ a.speedVariable
      ++ " = SPEED_IDLE;")).marks) = motors.flatMap Assignment.stateMarks :=
    List.flatMap_congr fun a ha => marks_declareState (variable_state (hnamed a ha))
  unfold Firmware.stateLines
  split
  · rename_i hnone
    rw [hnone]
    rfl
  · rw [marks_append, marks_map, henum, hstates]

theorem marks_sensorLines {sensors : List Assignment}
    (hnamed : ∀ a ∈ sensors, isComponentName a.name = true) :
    marks (Firmware.sensorLines sensors)
      = sensors.map fun a => .declares "VL53L0X" a.sensorVariable := by
  have hsensors : sensors.flatMap (fun a => (Line.plain ("VL53L0X " ++ a.sensorVariable
      ++ ";")).marks) = sensors.flatMap fun a => [.declares "VL53L0X" a.sensorVariable] :=
    List.flatMap_congr fun a ha => marks_declareSensor (variable_sensor (hnamed a ha))
  unfold Firmware.sensorLines
  split
  · rename_i hnone
    rw [hnone]
    rfl
  · rw [marks_cons, marks_map, hsensors, List.map_eq_flatMap]
    rfl

theorem marks_voltageHelper (h : firmware.refusal? = none) :
    marks firmware.voltageHelper = [.defines "readVoltage"] := by
  obtain ⟨-, hsteps, hratio, hreference⟩ := scale_of_accepted h
  unfold Firmware.voltageHelper
  simp only [marks_cons]
  rw [marks_return (usable_fits hreference 6) (steps_fit hsteps 6) (usable_fits hratio 6)]
  decide +kernel

theorem marks_distanceHelper (h : firmware.refusal? = none) :
    marks firmware.distanceHelper = [.defines "dumpDistance"] := by
  unfold Firmware.distanceHelper
  simp only [marks_cons]
  rw [marks_print (token_fits (token_of_accepted h))]
  decide +kernel

theorem marks_pinModes (hf : Wiring.Fits a.kind a.wiring) : marks (Firmware.pinModes a) = [] := by
  unfold Firmware.pinModes
  rw [marks_map, List.flatMap_eq_nil_iff]
  rintro ⟨role, pin⟩ hentry
  obtain ⟨hmem, hrole⟩ := List.mem_filter.1 hentry
  have hname := name_of_digital (category_of_output hf _ hmem (of_decide_eq_true hrole))
  dsimp only
  rw [hname]
  exact marks_pinMode _ _ _

theorem marks_sensorStart (hn : isComponentName a.name = true) :
    marks (firmware.sensorStart a) = a.startMarks := by
  have hx : Variable a.sensorVariable := variable_sensor hn
  unfold Firmware.sensorStart
  rw [marks_cons, marks_cons, marks_setTimeout hx, marks_init hx]
  rfl

theorem marks_setup (hs : Served assignments) :
    marks (firmware.setup assignments)
      = if distanceSensors assignments = [] then [] else
          .invokes "Wire" "begin" ::
            (distanceSensors assignments).flatMap Assignment.startMarks := by
  have hmodes : (assignments.flatMap fun a => marks (Firmware.pinModes a)) = [] :=
    List.flatMap_eq_nil_iff.2 fun a ha => marks_pinModes (hs.fits a ha)
  have hstarts : ((distanceSensors assignments).flatMap fun a => marks (firmware.sensorStart a))
      = (distanceSensors assignments).flatMap Assignment.startMarks :=
    List.flatMap_congr fun a ha => marks_sensorStart (hs.named a (List.mem_filter.1 ha).1)
  have hsetup : (Line.opening "void setup()").marks = [] := by decide +kernel
  have hwire : (Line.plain "Wire.begin();").marks = [.invokes "Wire" "begin"] := by
    decide +kernel
  have hclosing : marks [.closing, .blank] = [] := by decide +kernel
  unfold Firmware.setup
  simp only [marks_append, marks_flatMap, marks_cons, hmodes, hsetup, marks_begin, hclosing]
  split
  · rfl
  · rw [marks_cons, marks_flatMap, hwire, hstarts]
    exact List.append_nil _

theorem marks_dutyBranch (hn : isComponentName a.name = true)
    (hf : Wiring.Fits a.kind a.wiring) : marks (Firmware.dutyBranch a) = a.dutyMarks := by
  have hx : Variable a.speedVariable := variable_state hn
  have hend : marks [.plain "return;", .closing] = [] := by decide +kernel
  unfold Firmware.dutyBranch Assignment.dutyMarks
  cases hpin : a.pin? .pwm with
  | none => rfl
  | some pin =>
      have hpwm := category_of_pwm hf hpin
      have hname := name_of_digital (by rw [hpwm]; decide)
      dsimp only
      rw [marks_cons, marks_cons, marks_cons, marks_waits hx, hname, marks_analogWrite,
        marks_idle hx, hend]
      rfl

theorem marks_actionLines (firmware : Firmware) (hn : isComponentName a.name = true)
    {action : Action} (hw : action.Wired) :
    marks (firmware.actionLines a action) = a.actionMarks action := by
  unfold Firmware.actionLines Assignment.actionMarks
  cases action with
  | write pin level =>
      -- a digital pin is written as a number, which leaves nothing in the code
      have hdigital : pin.category = .digital := hw
      dsimp only
      rw [name_of_digital (by rw [hdigital]; decide), marks_cons, marks_digitalWrite]
      rfl
  | awaitSpeed pwm =>
      have hx : Variable a.speedVariable := variable_state hn
      dsimp only
      rw [marks_cons, marks_awaiting hx]
      rfl
  | readVoltage pin =>
      dsimp only
      -- the name of an analog pin is a word, and one that no declaration is for
      rw [name_of_analog hw, marks_cons, marks_cons, marks_declareReply, marks_formatVoltage]
      decide +kernel
  | readDistance =>
      have hx : Variable a.sensorVariable := variable_sensor hn
      dsimp only
      rw [marks_cons, marks_dumpDistance hx]
      rfl
  | placeholder =>
      dsimp only
      rw [marks_cons, marks_placeholder]
      rfl

theorem marks_componentBranches (hn : isComponentName a.name = true)
    (hf : Wiring.Fits a.kind a.wiring) :
    marks (firmware.componentBranches a) = a.commandMarks := by
  have hend : marks [.plain "return;", .closing] = [] := by decide +kernel
  unfold Firmware.componentBranches Assignment.commandMarks
  rw [marks_flatMap]
  refine List.flatMap_congr fun command hc => ?_
  unfold Firmware.commandBranch
  rw [marks_append, marks_append, marks_cons,
    marks_compare (line_fits (commands_component a command hc ▸ hn)),
    marks_actionLines firmware hn (commands_wired hf command hc), hend]
  exact List.append_nil _

theorem marks_dispatch (hs : Served assignments) :
    marks (firmware.dispatch assignments)
      = assignments.flatMap Assignment.dutyMarks ++
        assignments.flatMap Assignment.commandMarks := by
  have hduties : (assignments.flatMap fun a => marks (Firmware.dutyBranch a))
      = assignments.flatMap Assignment.dutyMarks :=
    List.flatMap_congr fun a ha => marks_dutyBranch (hs.named a ha) (hs.fits a ha)
  have hcommands : (assignments.flatMap fun a => marks (firmware.componentBranches a))
      = assignments.flatMap Assignment.commandMarks :=
    List.flatMap_congr fun a ha => marks_componentBranches (hs.named a ha) (hs.fits a ha)
  have hheader : marks [.opening "void dispatchCommand(const char *command)"] = [] := by
    decide +kernel
  have hend : marks [.plain "// unmatched lines are discarded", .closing, .blank] = [] := by
    decide +kernel
  unfold Firmware.dispatch
  simp only [marks_append, marks_flatMap, hheader, hduties, hcommands, hend]
  exact List.append_nil _

theorem marks_globals (hs : Served assignments) :
    marks (Firmware.globals assignments)
      = (if speedMotors assignments = [] then [] else
          [.defines "SpeedState", .defines "SPEED_IDLE", .defines "SPEED_AWAITING_PARAM"])
        ++ ((speedMotors assignments).flatMap Assignment.stateMarks
          ++ (distanceSensors assignments).map fun a => .declares "VL53L0X" a.sensorVariable) := by
  have hstates := marks_stateLines fun a (ha : a ∈ speedMotors assignments) =>
    hs.named a (List.mem_filter.1 ha).1
  have hsensors := marks_sensorLines fun a (ha : a ∈ distanceSensors assignments) =>
    hs.named a (List.mem_filter.1 ha).1
  have haccumulator : marks [.plain "char accumulator[ACCUMULATOR_SIZE + 1];",
      .plain "int accumulatorIndex = 0;"] = [] := by decide +kernel
  have hblank : marks [.blank] = [] := by decide +kernel
  rw [Firmware.globals_parts, marks_append, marks_append, marks_append, haccumulator, hstates,
    hsensors, hblank, List.nil_append, List.append_nil, List.append_assoc]

/-- What a sketch does with the names that are looked at. -/
theorem marks_sketchLines (haccepted : firmware.refusal? = none) (hs : Served assignments) :
    marks (firmware.sketchLines assignments)
      = headMarks assignments ++ (declarationMarks assignments ++ bodyMarks assignments) := by
  have hvoltage : marks (if hasVoltageSensor assignments then firmware.voltageHelper else [])
      = if hasVoltageSensor assignments then [.defines "readVoltage"] else [] := by
    split
    · exact marks_voltageHelper haccepted
    · rfl
  have hdistance : marks (if distanceSensors assignments ≠ [] then firmware.distanceHelper else [])
      = if distanceSensors assignments ≠ [] then [.defines "dumpDistance"] else [] := by
    split
    · exact marks_distanceHelper haccepted
    · rfl
  have hloop : marks Firmware.loop = [] := by decide +kernel
  rw [Firmware.sketchLines_sections]
  unfold Firmware.setupPart Firmware.helpers headMarks declarationMarks bodyMarks
  simp only [marks_append, marks_preamble, marks_globals hs, hvoltage, hdistance, marks_setup hs,
    marks_dispatch hs, hloop, decide_eq_true_eq, List.append_assoc, List.cons_append,
    List.append_nil]

end Sections

end SerialEndpoint
