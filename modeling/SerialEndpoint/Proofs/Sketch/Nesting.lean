/-
The blocks of a sketch, in its layout and in its text (`blocks_nested`).

# The layout

Every section is closed (`Firmware.closed_sketchLines`), whatever the settings
and the assignments are. So no line ends a block where none is open, and
behind the last one all are ended.

# The text

The text has the blocks of the layout if every line has the braces of its kind
and no others (`Line.Braced`). What goes into the lines of a sketch from
outside could bring some:

- names, numbers, pins, roles and levels have no brace (`Braceless`);
- the line of a command stands in a string literal, and has neither a brace
  nor a quote that would end the literal before its end
  (`braced_comparison`);
- the timeout token may have braces, but it has no quote and no backslash, so
  they all stand inside its literal and do not count (`braced_token`).

A line into which no literal is put is `Simple`: it is seen by its characters
that it is braced (`Line.Simple.braced`), and for fixed text that is decided.
A header must have no quote for that, or the brace at its end might stand in a
literal. One line of the layout opens and ends a block by itself, the
enumeration (`braced_enumeration`).

With neat and braced lines the text is in balance and indented
(`balanced_text`, `indented_text`). A rendered agent is asked for here, and not
in the first part, because a name or a token that was not checked could hold
anything.
-/
import SerialEndpoint.Proofs.Sketch.Braces

namespace SerialEndpoint

namespace Sketch

-- ====================================================== braceless texts

section Texts

variable {s t text : String}

theorem braceless_append : Braceless (s ++ t) ↔ Braceless s ∧ Braceless t := by
  unfold Braceless
  rw [String.toList_append, List.forall_mem_append]

theorem braceless_of_notMem (hopen : '\x7b' ∉ text.toList) (hclose : '\x7d' ∉ text.toList) :
    Braceless text := by
  intro c hc
  unfold isBrace
  rw [Bool.or_eq_false_iff, decide_eq_false_iff_not, decide_eq_false_iff_not]
  exact ⟨fun heq => hopen (heq ▸ hc), fun heq => hclose (heq ▸ hc)⟩

theorem Bare.braceless (h : Bare text) : Braceless text :=
  braceless_of_notMem (h.not_mem (by decide)) (h.not_mem (by decide))

theorem braceless_name {name : String} (hn : isComponentName name = true) : Braceless name :=
  (bare_name hn).braceless

theorem braceless_nat (n : Nat) : Braceless (toString n) := (bare_nat n).braceless

theorem braceless_pin (pin : Pin) : Braceless pin.name := (bare_pin pin).braceless

theorem braceless_role (role : Role) : Braceless role.text := (bare_role role).braceless

theorem braceless_level (level : Level) : Braceless level.text := by
  cases level <;> decide

theorem braceless_number (h : (Filling.number text).Fits) : Braceless text := by
  obtain ⟨first, rest, htext, hfirst, hrest⟩ := h
  have hchars : ∀ c ∈ text.toList, isNameChar c = true ∨ c = '.' := by
    rw [htext, List.forall_mem_cons]
    exact ⟨.inl (isNameChar_of_digit hfirst), hrest⟩
  refine braceless_of_notMem (fun hmem => ?_) fun hmem => ?_
  · exact absurd (hchars _ hmem) (by decide)
  · exact absurd (hchars _ hmem) (by decide)

end Texts

-- =============================================================== kinds

section Kinds

variable {text header : String}

theorem closesBlock_of_braceless (h : Braceless text) : closesBlock text.toList = false := by
  unfold closesBlock
  rw [decide_eq_false_iff_not]
  exact fun hhead => absurd (h _ (List.mem_of_head? hhead)) (by decide)

theorem braced_plain (h : Braceless text) : (Line.plain text).Braced where
  closes := closesBlock_of_braceless h
  counts outer _ := by
    unfold Line.content braces
    rw [bracesFrom_braceless h]
    rfl

/-- A header has one brace, behind it. -/
theorem bracesFrom_header (h : Braceless header)
    (hmode : (Mode.code.behind header.toList).inString = false) :
    bracesFrom .code (header ++ " \x7b").toList = ['\x7b'] := by
  have hspace := inString_across (c := ' ') (by decide) hmode
  rw [String.toList_append, bracesFrom_append, bracesFrom_braceless h]
  show bracesFrom _ [' ', '\x7b'] = _
  rw [bracesFrom, bracesFrom, hspace]
  rfl

theorem braced_opening (h : Braceless header)
    (hmode : (Mode.code.behind header.toList).inString = false) :
    (Line.opening header).Braced where
  closes := by
    unfold Line.content
    cases hlist : header.toList with
    | nil => rw [String.toList_append, hlist]; rfl
    | cons c rest =>
        have hclose := closesBlock_of_braceless h
        rw [hlist] at hclose
        rw [String.toList_append, hlist]
        exact hclose
  counts outer _ := by
    unfold Line.content braces
    rw [bracesFrom_header h hmode]
    rfl

theorem braced_reopening (h : Braceless header)
    (hmode : (Mode.code.behind header.toList).inString = false) :
    (Line.reopening header).Braced where
  closes := by
    unfold Line.content
    rw [String.toList_append, String.toList_append]
    rfl
  counts outer hguard := by
    have hbraces : braces (Line.reopening header).content.toList = ['\x7d', '\x7b'] := by
      show bracesFrom .code ("\x7d " ++ header ++ " \x7b").toList = _
      rw [String.append_assoc, String.toList_append, bracesFrom_append]
      exact congrArg ('\x7d' :: ·) (bracesFrom_header h hmode)
    rw [hbraces]
    exact if_neg (Nat.ne_of_gt (hguard rfl))

end Kinds

/-- A line without a brace but those of its kind. In a header there is no
quote either, so its own brace stands outside string literals. -/
def Line.Simple : Line → Prop
  | plain text => Braceless text
  | opening header | reopening header => Braceless header ∧ '"' ∉ header.toList
  | blank | closing => True

instance (line : Line) : Decidable line.Simple :=
  match line with
  | .plain text => inferInstanceAs (Decidable (Braceless text))
  | .opening header | .reopening header =>
    inferInstanceAs (Decidable (Braceless header ∧ '"' ∉ header.toList))
  | .blank | .closing => inferInstanceAs (Decidable True)

theorem Line.Simple.braced {line : Line} (h : line.Simple) : line.Braced := by
  cases line with
  | plain text => exact braced_plain h
  | blank => exact ⟨rfl, fun _ _ => rfl⟩
  | opening header => exact braced_opening h.1 (inString_behind h.2 rfl)
  | closing => exact ⟨rfl, fun _ hguard => if_neg (Nat.ne_of_gt (hguard rfl))⟩
  | reopening header => exact braced_reopening h.1 (inString_behind h.2 rfl)

-- The other three lines have a brace of their own, or a string literal in
-- which there may be some.

/-- The enumeration opens a block and closes it. -/
theorem braced_enumeration :
    (Line.plain "enum SpeedState \x7b SPEED_IDLE, SPEED_AWAITING_PARAM \x7d;").Braced where
  closes := by decide
  counts outer _ := by
    have hbraces : braces
        (Line.plain "enum SpeedState \x7b SPEED_IDLE, SPEED_AWAITING_PARAM \x7d;").content.toList
        = ['\x7b', '\x7d'] := by decide +kernel
    rw [hbraces]
    rfl

/-- Whatever braces the timeout token has, they stand in a string
literal. -/
theorem braced_token {token : String} (h : isTimeoutToken token = true) :
    (Line.plain ("Serial.print(\"" ++ token ++ "\");")).Braced where
  closes := closesBlock_of_front "Serial." (by decide) (prefix_append (prefix_append (by decide)))
  counts outer _ := by
    have hpassed := @quoted_passed token.toList fun c hc =>
      ⟨(token_fits h c hc).1, (token_fits h c hc).2, (isPlain_token h c hc).2.1⟩
    have hlead : Mode.code.behind "Serial.print(\"".toList = .quoted '"' := by decide +kernel
    have hbraces : braces (Line.plain ("Serial.print(\"" ++ token ++ "\");")).content.toList
        = [] := by
      unfold Line.content braces
      rw [String.toList_append, String.toList_append, bracesFrom_append, bracesFrom_append,
        behind_append, hlead, hpassed.1, hpassed.2]
      decide +kernel
    rw [hbraces]
    rfl

/-- The line of a command stands in a string literal that ends with it. -/
theorem braced_comparison {line : String} (h : Bare line) :
    (Line.opening ("if (strcmp(command, \"" ++ line ++ "\") == 0)")).Braced := by
  have hpassed := @quoted_passed line.toList fun c hc =>
    ⟨fun heq => h.not_mem (c := '"') (by decide) (heq ▸ hc),
      fun heq => h.not_mem (c := '\x5c') (by decide) (heq ▸ hc),
      fun heq => h.not_mem (c := '\n') (by decide) (heq ▸ hc)⟩
  have hlead : Mode.code.behind "if (strcmp(command, \"".toList = .quoted '"' := by decide +kernel
  refine braced_opening ?_ ?_
  · simp only [braceless_append, h.braceless]
    decide
  · rw [String.toList_append, String.toList_append, behind_append, behind_append, hlead, hpassed.2]
    decide +kernel

end Sketch

-- ============================================================= sections

open Sketch

namespace Firmware

variable {firmware : Firmware} {assignments : List Assignment} {a : Assignment}

theorem braceless_speedVariable (hn : isComponentName a.name = true) :
    Braceless a.speedVariable :=
  braceless_append.2 ⟨by decide, braceless_name hn⟩

theorem braceless_sensorVariable (hn : isComponentName a.name = true) :
    Braceless a.sensorVariable :=
  braceless_append.2 ⟨by decide, braceless_name hn⟩

theorem simple_preamble (firmware : Firmware) (ranging : Bool) :
    ∀ line ∈ firmware.preamble ranging, line.Simple := by
  rw [preamble_parts]
  simp only [List.forall_mem_append, List.forall_mem_cons]
  refine ⟨by cases ranging <;> decide +kernel, ?_, trivial, nofun⟩
  exact braceless_append.2 ⟨by decide, braceless_nat _⟩

theorem braced_stateLines (hnamed : ∀ a ∈ assignments, isComponentName a.name = true) :
    ∀ line ∈ stateLines (speedMotors assignments), line.Braced := by
  unfold stateLines
  split
  · exact nofun
  · simp only [List.forall_mem_append, List.forall_mem_cons, List.forall_mem_map]
    refine ⟨⟨Line.Simple.braced trivial, braced_enumeration, nofun⟩, fun a ha => braced_plain ?_⟩
    simp only [braceless_append, braceless_speedVariable (hnamed a (List.mem_filter.1 ha).1)]
    decide

theorem simple_sensorLines (hnamed : ∀ a ∈ assignments, isComponentName a.name = true) :
    ∀ line ∈ sensorLines (distanceSensors assignments), line.Simple := by
  unfold sensorLines
  split
  · exact nofun
  · simp only [List.forall_mem_cons, List.forall_mem_map]
    refine ⟨trivial, fun a ha => ?_⟩
    simp only [Line.Simple, braceless_append,
      braceless_sensorVariable (hnamed a (List.mem_filter.1 ha).1)]
    decide

theorem braced_globals (hnamed : ∀ a ∈ assignments, isComponentName a.name = true) :
    ∀ line ∈ globals assignments, line.Braced := by
  have hfixed : ∀ line ∈ ([.plain "char accumulator[ACCUMULATOR_SIZE + 1];",
      .plain "int accumulatorIndex = 0;"] : List Line), line.Simple := by decide +kernel
  rw [globals_parts]
  simp only [List.forall_mem_append, List.forall_mem_singleton]
  exact ⟨⟨⟨fun line hline => (hfixed line hline).braced, braced_stateLines hnamed⟩,
    fun line hline => (simple_sensorLines hnamed line hline).braced⟩, Line.Simple.braced trivial⟩

theorem simple_voltageHelper (haccepted : firmware.refusal? = none) :
    ∀ line ∈ firmware.voltageHelper, line.Simple := by
  obtain ⟨-, hsteps, hratio, hreference⟩ := scale_of_accepted haccepted
  unfold voltageHelper
  simp only [List.forall_mem_cons]
  refine ⟨by decide +kernel, by decide, ?_, by decide⟩
  simp only [Line.Simple, braceless_append, braceless_number (usable_fits hratio 6),
    braceless_number (usable_fits hreference 6), braceless_number (steps_fit hsteps 6)]
  decide

theorem braced_distanceHelper (haccepted : firmware.refusal? = none) :
    ∀ line ∈ firmware.distanceHelper, line.Braced := by
  have hfront : ∀ line ∈ ([.opening "static void dumpDistance(VL53L0X &sensor)",
      .plain "uint16_t range = sensor.readRangeSingleMillimeters();",
      .opening "if (sensor.timeoutOccurred())"] : List Line), line.Simple := by decide +kernel
  have hback : ∀ line ∈ ([.reopening "else", .plain "Serial.print(range);", .closing,
      .plain "Serial.write('\\n');", .closing, .blank] : List Line), line.Simple := by
    decide +kernel
  exact List.forall_mem_append.2 ⟨fun line hline => (hfront line hline).braced,
    List.forall_mem_cons.2 ⟨braced_token (token_of_accepted haccepted),
      fun line hline => (hback line hline).braced⟩⟩

theorem braced_helpers (haccepted : firmware.refusal? = none) (assignments : List Assignment) :
    ∀ line ∈ firmware.helpers assignments, line.Braced := by
  unfold helpers
  rw [List.forall_mem_append]
  constructor
  · split
    · exact fun line hline => (simple_voltageHelper haccepted line hline).braced
    · exact nofun
  · split
    · exact braced_distanceHelper haccepted
    · exact nofun

theorem simple_pinModes (hn : isComponentName a.name = true) :
    ∀ line ∈ pinModes a, line.Simple := by
  unfold pinModes
  rw [List.forall_mem_map]
  intro ⟨role, pin⟩ _
  simp only [Line.Simple, braceless_append, braceless_pin, braceless_role, braceless_name hn]
  decide

theorem simple_sensorStart (firmware : Firmware) (hn : isComponentName a.name = true) :
    ∀ line ∈ firmware.sensorStart a, line.Simple := by
  unfold sensorStart
  simp only [List.forall_mem_cons, Line.Simple, braceless_append, braceless_sensorVariable hn,
    braceless_nat]
  exact ⟨by decide, by decide, nofun⟩

theorem simple_setup (firmware : Firmware)
    (hnamed : ∀ a ∈ assignments, isComponentName a.name = true) :
    ∀ line ∈ firmware.setup assignments, line.Simple := by
  unfold setup
  simp only [List.forall_mem_append, List.forall_mem_cons, List.forall_mem_flatMap]
  refine ⟨⟨⟨⟨by decide, ?_, nofun⟩, fun a ha => simple_pinModes (hnamed a ha)⟩, ?_⟩, by decide⟩
  · exact braceless_append.2 ⟨braceless_append.2 ⟨by decide, braceless_nat _⟩, by decide⟩
  · split
    · exact nofun
    · rw [List.forall_mem_cons, List.forall_mem_flatMap]
      exact ⟨by decide,
        fun a ha => simple_sensorStart firmware (hnamed a (List.mem_filter.1 ha).1)⟩

theorem simple_dutyBranch (hn : isComponentName a.name = true) :
    ∀ line ∈ dutyBranch a, line.Simple := by
  have hvariable := braceless_speedVariable hn
  have hquote : '"' ∉ a.speedVariable.toList :=
    (Bare.append (bare_of_all (by decide)) (bare_name hn)).not_mem (by decide)
  unfold dutyBranch
  cases a.pin? .pwm with
  | none => exact nofun
  | some pin =>
      simp only [List.forall_mem_cons, Line.Simple, braceless_append, hvariable, braceless_pin,
        String.toList_append, List.mem_append, hquote]
      exact ⟨by decide +kernel, by decide, by decide, by decide, trivial, nofun⟩

theorem simple_actionLines (firmware : Firmware) (hn : isComponentName a.name = true)
    (action : Action) : ∀ line ∈ firmware.actionLines a action, line.Simple := by
  unfold actionLines
  cases action with
  | write pin level =>
      simp only [List.forall_mem_singleton, Line.Simple, braceless_append, braceless_pin,
        braceless_level]
      decide
  | awaitSpeed pwm =>
      simp only [List.forall_mem_singleton, Line.Simple, braceless_append,
        braceless_speedVariable hn]
      decide
  | readVoltage pin =>
      simp only [List.forall_mem_cons, Line.Simple, braceless_append, braceless_pin, braceless_nat]
      exact ⟨by decide, by decide, by decide, by decide, nofun⟩
  | readDistance =>
      simp only [List.forall_mem_singleton, Line.Simple, braceless_append,
        braceless_sensorVariable hn]
      decide
  | placeholder =>
      simp only [List.forall_mem_singleton, Line.Simple, braceless_append, braceless_name hn]
      decide

theorem braced_commandBranch (firmware : Firmware) (hn : isComponentName a.name = true)
    {command : Command} (hc : command ∈ a.commands) :
    ∀ line ∈ firmware.commandBranch a command, line.Braced := by
  have hline : Bare command.line := bare_line (commands_component a command hc ▸ hn)
  have hend : ∀ line ∈ ([.plain "return;", .closing] : List Line), line.Simple := by decide
  unfold commandBranch
  simp only [List.forall_mem_append, List.forall_mem_singleton]
  exact ⟨⟨braced_comparison hline,
      fun line hline => (simple_actionLines firmware hn command.action line hline).braced⟩,
    fun line hline => (hend line hline).braced⟩

theorem braced_dispatch (firmware : Firmware)
    (hnamed : ∀ a ∈ assignments, isComponentName a.name = true) :
    ∀ line ∈ firmware.dispatch assignments, line.Braced := by
  have hheader : (Line.opening "void dispatchCommand(const char *command)").Simple := by
    decide +kernel
  have hend : ∀ line ∈ ([.plain "// unmatched lines are discarded", .closing, .blank] : List Line),
      line.Simple := by decide
  unfold dispatch componentBranches
  simp only [List.forall_mem_append, List.forall_mem_singleton, List.forall_mem_flatMap]
  exact ⟨⟨⟨hheader.braced,
      fun a ha line hline => (simple_dutyBranch (hnamed a ha) line hline).braced⟩,
    fun a ha command hc => braced_commandBranch firmware (hnamed a ha) hc⟩,
    fun line hline => (hend line hline).braced⟩

theorem simple_loop : ∀ line ∈ loop, line.Simple := by
  decide +kernel

theorem braced_sketchLines (haccepted : firmware.refusal? = none)
    (hnamed : ∀ a ∈ assignments, isComponentName a.name = true) :
    ∀ line ∈ firmware.sketchLines assignments, line.Braced := by
  rw [sketchLines_sections]
  unfold setupPart
  simp only [List.forall_mem_append]
  exact ⟨fun line hline => (simple_preamble firmware _ line hline).braced, braced_globals hnamed,
    ⟨braced_helpers haccepted assignments,
      fun line hline => (simple_setup firmware hnamed line hline).braced⟩,
    braced_dispatch firmware hnamed, fun line hline => (simple_loop line hline).braced⟩

end Firmware

-- ========================================================== the theorem

/-- Whatever the settings and the assignments are, no line of the sketch ends
a block where none is open, and all are ended behind the last. The sketch of
a rendered agent has its braces in balance, those in string literals apart,
and its lines are indented by the blocks that are open. -/
theorem blocks_nested :
    (∀ (firmware : Firmware) (assignments : List Assignment),
      (∀ front line back, firmware.sketchLines assignments = front ++ line :: back →
        line.endsBlock = true → 0 < depthAfter 0 front)
      ∧ depthAfter 0 (firmware.sketchLines assignments) = 0)
    ∧ ∀ (generator : Generator) (agent : Agent) (artifacts : Artifacts),
        generator.render agent = .ok artifacts →
        Balanced artifacts.sketch.toList ∧ Indented artifacts.sketch.toList := by
  have hguarded : ∀ (firmware : Firmware) (assignments : List Assignment),
      Guarded 0 (firmware.sketchLines assignments) :=
    fun firmware assignments => (firmware.closed_sketchLines assignments).guarded 0
  have hlevel : ∀ (firmware : Firmware) (assignments : List Assignment),
      depthAfter 0 (firmware.sketchLines assignments) = 0 :=
    fun firmware assignments => (firmware.closed_sketchLines assignments).level 0
  refine ⟨fun firmware assignments => ⟨guarded_iff.1 (hguarded firmware assignments),
    hlevel firmware assignments⟩, fun generator agent artifacts hrender => ?_⟩
  have hrendered := rendered_of_render hrender
  have hnamed := hrendered.served.named
  have hbraced := Firmware.braced_sketchLines generator.accepted hnamed
  rw [hrendered.sketch_eq]
  exact ⟨balanced_text hbraced (hguarded _ _) (hlevel _ _),
    indented_text (Firmware.sketchLines_neat generator.accepted hnamed) hbraced (hguarded _ _)⟩

/-- The last line of the robot's sketch ends a block that is open there. -/
theorem blocks_nested_rover :
    (∃ generator, Generator.ofParts .uno {} = .ok generator
        ∧ generator.render rover = .ok (roverArtifacts {}))
      ∧ (∃ front, Firmware.sketchLines {} roverAssignments = front ++ [.closing]
          ∧ 0 < depthAfter 0 front)
      ∧ Balanced (roverArtifacts {}).sketch.toList
      ∧ Indented (roverArtifacts {}).sketch.toList := by
  have hrender : Generator.render ⟨.uno, {}, Firmware.default_accepted⟩ rover
      = .ok (roverArtifacts {}) := render_rover rfl
  have hsplit : ∃ front, Firmware.sketchLines {} roverAssignments = front ++ [.closing] :=
    ⟨_, (List.append_assoc _ Firmware.loop.dropLast [Line.closing]).symm⟩
  obtain ⟨front, hfront⟩ := hsplit
  exact ⟨⟨_, ofParts_accepted .uno Firmware.default_accepted, hrender⟩,
    ⟨front, hfront, (blocks_nested.1 {} roverAssignments).1 front .closing [] hfront rfl⟩,
    blocks_nested.2 _ _ _ hrender⟩

end SerialEndpoint
