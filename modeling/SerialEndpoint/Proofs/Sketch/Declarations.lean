/-
A sketch declares the names that it uses, each of them once and above its
uses, and no others (`sketch_declares`). Whether a name is needed is never
decided in one place: a state is declared with the variables, set in the
answers to commands and read in the dispatching function, and its enumeration
stands in a section of its own.

# The claim about a list

`Introduced` says it of one introduction and of the uses that it is there
for: it stands once if one of the uses is there and else not at all, and no
use is in front of it. `WellDeclared` says this of every name that is looked
at. Both are about a list of mentions, in order, and know nothing of how the
text came about.

# Two parts

By `marks_sketchLines` the list falls into a front, which holds all that is
introduced, and the functions, which introduce nothing
(`introductions_bodyMarks`). This makes an introduction right for three
reasons, one for each hypothesis of `Introduced.of_parts`:

- no name is introduced twice (`introductions_nodup`). The names of the
  components differ and are kept whole behind a fixed beginning, and the two
  beginnings differ in their second letter (`state_ne_sensor`);
- it is in the front exactly if one of its uses is in the functions;
- none of its uses is in the front. There is one exception: a state is
  declared with the idle value. For the enumeration and its values the cut
  is therefore made between the libraries with the enumeration and all the
  rest, where the uses are those among the declarations too
  (`enumeration_introduced`).

# Who needs a name

That a use is in the functions is said of the components instead: `Done` is
what is done for a motor, for a distance sensor or for a voltage sensor, and
by `mem_bodyMarks` the functions do that and nothing else. Of `Done` it is
seen at once which component a use is for (`Done.uses_iff`,
`Done.ranging_iff`, `Done.calls_readVoltage`), and the front has its
introductions for the same components.

# From the list to the text

What is passed over neither introduces a name nor is one of the uses, and
taking it away keeps the order of the rest. So a list is well declared if
what is left of it is (`WellDeclared.of_filter`), and for a rendered sketch
that is the list above (`mentionsIn_sketch`).
-/
import SerialEndpoint.Proofs.Sketch.Mentions

namespace SerialEndpoint

open Sketch (Mention isVariable isVariable_state isVariable_sensor ne_empty_of_valid
  ne_of_isVariable matters_variable mentionsIn)

-- ====================================================== introductions

/-- The name that a declaration or a definition introduces. -/
def Sketch.Mention.introduced? : Mention → Option String
  | .declares _ name | .defines name => some name
  | .includes _ | .uses _ | .calls _ | .invokes _ _ => none

/-- True of what is done with a name that stands already. -/
def Sketch.Mention.isUse : Mention → Bool
  | .uses _ | .calls _ | .invokes _ _ => true
  | .includes _ | .declares _ _ | .defines _ => false

/-- The names that are introduced, one for each time. -/
def introductions (events : List Mention) : List String :=
  events.filterMap Mention.introduced?

/-- A name is introduced once if it is used and else not at all, and its
introduction stands above its uses. -/
structure Introduced (events : List Mention) (introduction : Mention) (uses : List Mention) :
    Prop where
  once : events.count introduction = if ∃ use ∈ uses, use ∈ events then 1 else 0
  above : ∀ front, ∀ use ∈ uses, ∀ rest, events = front ++ use :: rest → introduction ∈ front

section Introductions

variable {events front rest : List Mention} {introduction : Mention} {name : String}
  {uses : List Mention}

theorem introductions_append (events more : List Mention) :
    introductions (events ++ more) = introductions events ++ introductions more :=
  List.filterMap_append

theorem introduced?_of_isUse (h : introduction.isUse = true) : introduction.introduced? = none := by
  cases introduction with
  | declares type name => cases h
  | defines name => cases h
  | includes library => rfl
  | uses name => rfl
  | calls function => rfl
  | invokes object method => rfl

/-- All introductions are looked at. -/
theorem matters_of_introduced (h : introduction.introduced? = some name) :
    introduction.matters = true := by
  cases introduction with
  | declares type name => rfl
  | defines name => rfl
  | includes library => cases h
  | uses name => cases h
  | calls function => cases h
  | invokes object method => cases h

theorem introductions_filter (events : List Mention) :
    introductions (events.filter Mention.matters) = introductions events := by
  unfold introductions
  rw [List.filterMap_filter]
  refine List.filterMap_congr fun event _ => ?_
  cases hname : event.introduced? with
  | none => exact ite_self none
  | some name => exact if_pos (matters_of_introduced hname)

/-- Where no name is introduced twice nothing is declared twice. -/
theorem count_le_one (hdistinct : (introductions events).Nodup)
    (hintroduced : introduction.introduced? = some name) : events.count introduction ≤ 1 := by
  refine Nat.le_of_not_lt fun htwice => ?_
  have hpair : [introduction, introduction].Sublist events := List.replicate_sublist_iff.2 htwice
  have hnames := hpair.filterMap Mention.introduced?
  rw [List.filterMap_cons_some hintroduced, List.filterMap_cons_some hintroduced] at hnames
  exact List.nodup_iff_sublist.1 hdistinct name hnames

/-- A name that is introduced in front of its first use, and only if there
is one. -/
theorem Introduced.of_parts (hdistinct : (introductions (front ++ rest)).Nodup)
    (hintroduced : introduction.introduced? = some name)
    (hneeded : introduction ∈ front ↔ ∃ use ∈ uses, use ∈ rest)
    (hfront : ∀ use ∈ uses, use ∉ front) (hrest : introduction ∉ rest) :
    Introduced (front ++ rest) introduction uses where
  once := by
    have hused : (∃ use ∈ uses, use ∈ front ++ rest) ↔ introduction ∈ front ++ rest := by
      rw [List.mem_append, or_iff_left hrest, hneeded]
      exact exists_congr fun use => and_congr_right fun huse => by
        rw [List.mem_append, or_iff_right (hfront use huse)]
    have hone := count_le_one hdistinct hintroduced
    split
    · rename_i h
      exact Nat.le_antisymm hone (List.one_le_count_iff.2 (hused.1 h))
    · rename_i h
      exact List.count_eq_zero_of_not_mem fun hmem => h (hused.2 hmem)
  above before use huse after hsplit := by
    have hmem : use ∈ front ++ rest := by
      rw [hsplit]
      exact List.mem_append_right _ (List.mem_cons_self ..)
    have hintroduction : introduction ∈ front :=
      hneeded.2 ⟨use, huse, (List.mem_append.1 hmem).resolve_left (hfront use huse)⟩
    -- the use is not in the front, so the front stands above it as a whole
    rcases List.append_eq_append_iff.1 hsplit with ⟨between, rfl, -⟩ | ⟨between, rfl, htail⟩
    · exact List.mem_append_left _ hintroduction
    · cases between with
      | nil =>
          rw [List.append_nil] at hintroduction
          exact hintroduction
      | cons event between =>
          cases htail
          exact absurd (List.mem_append_right _ (List.mem_cons_self ..)) (hfront use huse)

/-- What is passed over neither introduces nor uses a name that is looked
at. -/
theorem Introduced.of_filter (hintroduced : introduction.introduced? = some name)
    (huses : ∀ use ∈ uses, use.matters = true)
    (h : Introduced (events.filter Mention.matters) introduction uses) :
    Introduced events introduction uses where
  once := by
    have hsame : (∃ use ∈ uses, use ∈ events.filter Mention.matters)
        ↔ ∃ use ∈ uses, use ∈ events :=
      exists_congr fun use => and_congr_right fun huse => by
        rw [List.mem_filter, and_iff_left (huses use huse)]
    rw [← List.count_filter (matters_of_introduced hintroduced), h.once]
    exact if_congr hsame rfl rfl
  above front use huse rest hsplit := by
    refine (List.mem_filter.1 (h.above (front.filter Mention.matters) use huse
      (rest.filter Mention.matters) ?_)).1
    rw [hsplit, List.filter_append, List.filter_cons_of_pos (huses use huse)]

end Introductions

-- ======================================================= what is where

/-- The values of the enumeration. -/
def stateValues : List String := ["SPEED_IDLE", "SPEED_AWAITING_PARAM"]

/-- The enumeration and its values. -/
def stateNames : List String := "SpeedState" :: stateValues

/-- The variables that are declared. -/
def declaredVariables (assignments : List Assignment) : List String :=
  (speedMotors assignments).map Assignment.speedVariable ++
    (distanceSensors assignments).map Assignment.sensorVariable

/-- The helpers that are defined. -/
def definedHelpers (assignments : List Assignment) : List String :=
  (if hasVoltageSensor assignments then ["readVoltage"] else []) ++
    (if distanceSensors assignments ≠ [] then ["dumpDistance"] else [])

/-- What is done for a motor with a PWM pin. -/
def Assignment.motorMarks (a : Assignment) : List Mention :=
  [.uses a.speedVariable, .uses "SPEED_IDLE", .uses "SPEED_AWAITING_PARAM"]

/-- What is done for a distance sensor. -/
def Assignment.rangingMarks (a : Assignment) : List Mention :=
  [.invokes "Wire" "begin", .uses "dumpDistance", .calls "dumpDistance", .uses a.sensorVariable]

/-- What is done for a voltage sensor. -/
def voltageMarks : List Mention := [.uses "readVoltage", .calls "readVoltage"]

/-- What is done for one of the components. -/
inductive Done (assignments : List Assignment) (event : Mention) : Prop where
  | motor {a : Assignment} (ha : a ∈ speedMotors assignments) (h : event ∈ a.motorMarks)
  | ranging {a : Assignment} (ha : a ∈ distanceSensors assignments) (h : event ∈ a.rangingMarks)
  | voltage (hany : hasVoltageSensor assignments = true) (h : event ∈ voltageMarks)

section Parts

variable {assignments : List Assignment} {name x : String} {event : Mention} {a : Assignment}

/-- What the commands of a component do is told by its wiring and its
kind. -/
theorem commandMarks_eq (hf : Wiring.Fits a.kind a.wiring) :
    a.commandMarks
      = (if (a.pin? .pwm).isSome then [.uses a.speedVariable, .uses "SPEED_AWAITING_PARAM"] else [])
        ++ ((if a.kind = .voltageSensor then voltageMarks else [])
        ++ if a.kind = .distanceSensor then
            [.uses "dumpDistance", .calls "dumpDistance", .uses a.sensorVariable] else []) := by
  obtain ⟨⟨name, kind⟩, wiring⟩ := a
  change Wiring.Fits kind wiring at hf
  cases hf with
  | motor pwm direction brake => cases pwm <;> cases direction <;> rfl
  | voltageSensor collect => rfl
  | switch control => rfl
  | distanceSensor => rfl
  | generic ignored => cases ignored <;> rfl

theorem mem_speedMotors :
    a ∈ speedMotors assignments ↔ a ∈ assignments ∧ (a.pin? .pwm).isSome = true :=
  List.mem_filter

theorem mem_distanceSensors :
    a ∈ distanceSensors assignments ↔ a ∈ assignments ∧ a.kind = .distanceSensor := by
  unfold distanceSensors
  rw [List.mem_filter, decide_eq_true_eq]

theorem hasVoltageSensor_iff :
    hasVoltageSensor assignments = true ↔ ∃ a ∈ assignments, a.kind = .voltageSensor := by
  unfold hasVoltageSensor
  simp only [List.any_eq_true, decide_eq_true_eq]

/-- Taking a duty does all that is done for a motor. -/
theorem mem_dutyMarks :
    event ∈ a.dutyMarks ↔ (a.pin? .pwm).isSome = true ∧ event ∈ a.motorMarks := by
  unfold Assignment.dutyMarks Assignment.motorMarks
  simp only [List.mem_ite_nil_right, List.mem_cons, List.not_mem_nil, or_false]
  tauto

/-- Whatever the functions do, they do for one of the components. -/
theorem Done.of_mem (hs : Served assignments) (h : event ∈ bodyMarks assignments) :
    Done assignments event := by
  unfold bodyMarks at h
  rw [List.mem_append, List.mem_append, List.mem_flatMap, List.mem_flatMap] at h
  rcases h with (hsetup | ⟨a, ha, hduty⟩) | ⟨a, ha, hcommands⟩
  · rw [List.mem_ite_nil_left, List.mem_cons, List.mem_flatMap] at hsetup
    obtain ⟨hne, rfl | ⟨a, ha, hstart⟩⟩ := hsetup
    · obtain ⟨a, ha⟩ := List.exists_mem_of_ne_nil _ hne
      exact .ranging ha (List.mem_cons_self ..)
    · have hsub : a.startMarks ⊆ a.rangingMarks := by
        simp [Assignment.startMarks, Assignment.rangingMarks]
      exact .ranging ha (hsub hstart)
  · obtain ⟨hpwm, hevent⟩ := mem_dutyMarks.1 hduty
    exact .motor (mem_speedMotors.2 ⟨ha, hpwm⟩) hevent
  · rw [commandMarks_eq (hs.fits a ha), List.mem_append, List.mem_append, List.mem_ite_nil_right,
      List.mem_ite_nil_right, List.mem_ite_nil_right] at hcommands
    rcases hcommands with ⟨hpwm, hevent⟩ | ⟨hkind, hevent⟩ | ⟨hkind, hevent⟩
    · have hsub : [.uses a.speedVariable, .uses "SPEED_AWAITING_PARAM"] ⊆ a.motorMarks := by
        simp [Assignment.motorMarks]
      exact .motor (mem_speedMotors.2 ⟨ha, hpwm⟩) (hsub hevent)
    · exact .voltage (hasVoltageSensor_iff.2 ⟨a, ha, hkind⟩) hevent
    · exact .ranging (mem_distanceSensors.2 ⟨ha, hkind⟩) (List.mem_cons_of_mem _ hevent)

/-- Whatever is done for a component the functions do. -/
theorem Done.mem (hs : Served assignments) (h : Done assignments event) :
    event ∈ bodyMarks assignments := by
  unfold bodyMarks
  rw [List.mem_append, List.mem_append, List.mem_flatMap, List.mem_flatMap]
  cases h with
  | @motor a ha hevent =>
      obtain ⟨ha, hpwm⟩ := mem_speedMotors.1 ha
      exact .inl (.inr ⟨a, ha, mem_dutyMarks.2 ⟨hpwm, hevent⟩⟩)
  | @ranging a ha hevent =>
      obtain ⟨hmem, hkind⟩ := mem_distanceSensors.1 ha
      rw [if_neg (List.ne_nil_of_mem ha)]
      rcases List.mem_cons.1 hevent with rfl | hevent
      · exact .inl (.inl (List.mem_cons_self ..))
      · refine .inr ⟨a, hmem, ?_⟩
        rw [commandMarks_eq (hs.fits a hmem), if_pos hkind]
        exact List.mem_append_right _ (List.mem_append_right _ hevent)
  | voltage hany hevent =>
      obtain ⟨a, ha, hkind⟩ := hasVoltageSensor_iff.1 hany
      refine .inr ⟨a, ha, ?_⟩
      rw [commandMarks_eq (hs.fits a ha), if_pos hkind]
      exact List.mem_append_right _ (List.mem_append_left _ hevent)

/-- The libraries and the enumeration introduce the enumeration. -/
theorem introductions_headMarks : introductions (headMarks assignments)
    = if speedMotors assignments = [] then [] else stateNames := by
  unfold headMarks
  split_ifs <;> rfl

theorem introductions_declarationMarks : introductions (declarationMarks assignments)
    = declaredVariables assignments ++ definedHelpers assignments := by
  have hstates : introductions ((speedMotors assignments).flatMap Assignment.stateMarks)
      = (speedMotors assignments).map Assignment.speedVariable := by
    unfold introductions
    rw [List.filterMap_flatMap, List.map_eq_flatMap]
    rfl
  have hsensors : introductions ((distanceSensors assignments).map fun a =>
      .declares "VL53L0X" a.sensorVariable)
        = (distanceSensors assignments).map Assignment.sensorVariable := by
    unfold introductions
    rw [List.filterMap_map]
    exact congrFun (List.filterMap_eq_map (f := Assignment.sensorVariable)) _
  have hvoltage : introductions (if hasVoltageSensor assignments then [.defines "readVoltage"]
      else []) = if hasVoltageSensor assignments then ["readVoltage"] else [] := by
    split <;> rfl
  have hdistance : introductions (if distanceSensors assignments ≠ [] then
      [.defines "dumpDistance"] else [])
        = if distanceSensors assignments ≠ [] then ["dumpDistance"] else [] := by
    split <;> rfl
  unfold declarationMarks declaredVariables definedHelpers
  rw [introductions_append, introductions_append, introductions_append, hstates, hsensors,
    hvoltage, hdistance, List.append_assoc]

theorem Done.isUse (h : Done assignments event) : event.isUse = true := by
  cases h with
  | @motor a ha h =>
      have hall : ∀ event ∈ a.motorMarks, event.isUse = true := by
        simp [Assignment.motorMarks, Mention.isUse]
      exact hall event h
  | @ranging a ha h =>
      have hall : ∀ event ∈ a.rangingMarks, event.isUse = true := by
        simp [Assignment.rangingMarks, Mention.isUse]
      exact hall event h
  | voltage hany h =>
      have hall : ∀ event ∈ voltageMarks, event.isUse = true := by decide
      exact hall event h

/-- The functions introduce nothing. -/
theorem introductions_bodyMarks (hs : Served assignments) :
    introductions (bodyMarks assignments) = [] :=
  List.filterMap_eq_nil_iff.2 fun _ hevent => introduced?_of_isUse (Done.of_mem hs hevent).isUse

theorem mem_headMarks : event ∈ headMarks assignments ↔
    event = .includes "Arduino" ∨
    (distanceSensors assignments ≠ [] ∧ event ∈ [Mention.includes "Wire", .includes "VL53L0X"]) ∨
    (speedMotors assignments ≠ [] ∧ event ∈ stateNames.map Mention.defines) := by
  unfold headMarks
  rw [List.cons_append, List.mem_cons, List.mem_append, List.mem_ite_nil_right,
    List.mem_ite_nil_left]
  rfl

theorem mem_declarationMarks : event ∈ declarationMarks assignments ↔
    (∃ a ∈ speedMotors assignments, event ∈ a.stateMarks) ∨
    (∃ a ∈ distanceSensors assignments, event = .declares "VL53L0X" a.sensorVariable) ∨
    (hasVoltageSensor assignments = true ∧ event = .defines "readVoltage") ∨
    (distanceSensors assignments ≠ [] ∧ event = .defines "dumpDistance") := by
  unfold declarationMarks
  simp only [List.mem_append, List.mem_flatMap, List.mem_map, List.mem_ite_nil_right,
    List.mem_singleton, or_assoc, @eq_comm _ _ event]

theorem mem_declaredVariables : x ∈ declaredVariables assignments ↔
    (∃ a ∈ speedMotors assignments, x = a.speedVariable) ∨
    (∃ a ∈ distanceSensors assignments, x = a.sensorVariable) := by
  unfold declaredVariables
  simp only [List.mem_append, List.mem_map, @eq_comm _ _ x]

theorem isVariable_of_declared (hs : Served assignments)
    (hx : x ∈ declaredVariables assignments) : isVariable x = true := by
  rcases mem_declaredVariables.1 hx with ⟨a, ha, rfl⟩ | ⟨a, ha, rfl⟩
  · exact isVariable_state (ne_empty_of_valid (hs.named a (mem_speedMotors.1 ha).1))
  · exact isVariable_sensor (ne_empty_of_valid (hs.named a (mem_distanceSensors.1 ha).1))

/-- The functions use the variables that are declared, and no others. -/
theorem Done.uses_iff (hx : isVariable x = true) :
    Done assignments (.uses x) ↔ x ∈ declaredVariables assignments := by
  have hidle : x ≠ "SPEED_IDLE" := ne_of_isVariable hx (by decide)
  have hawaiting : x ≠ "SPEED_AWAITING_PARAM" := ne_of_isVariable hx (by decide)
  have hvoltage : x ≠ "readVoltage" := ne_of_isVariable hx (by decide)
  have hdistance : x ≠ "dumpDistance" := ne_of_isVariable hx (by decide)
  rw [mem_declaredVariables]
  constructor
  · intro h
    cases h with
    | @motor a ha h =>
        have hstate : x = a.speedVariable := by
          simpa [Assignment.motorMarks, hidle, hawaiting] using h
        exact .inl ⟨a, ha, hstate⟩
    | @ranging a ha h =>
        have hsensor : x = a.sensorVariable := by
          simpa [Assignment.rangingMarks, hdistance] using h
        exact .inr ⟨a, ha, hsensor⟩
    | voltage hany h => simp [voltageMarks, hvoltage] at h
  · rintro (⟨a, ha, rfl⟩ | ⟨a, ha, rfl⟩)
    · exact .motor ha (List.mem_cons_self ..)
    · exact .ranging ha (by simp [Assignment.rangingMarks])

/-- The helper for voltages is called for a voltage sensor. -/
theorem Done.calls_readVoltage :
    Done assignments (.calls "readVoltage") ↔ hasVoltageSensor assignments = true := by
  constructor
  · intro h
    cases h with
    | motor ha h => simp [Assignment.motorMarks] at h
    | ranging ha h => simp [Assignment.rangingMarks] at h
    | voltage hany h => exact hany
  · exact fun hany => .voltage hany (by decide)

/-- For distance sensors the bus is started and the helper is called. -/
theorem Done.ranging_iff
    (hevent : event ∈ [Mention.calls "dumpDistance", .invokes "Wire" "begin"]) :
    Done assignments event ↔ distanceSensors assignments ≠ [] := by
  constructor
  · intro h
    cases h with
    | motor ha h =>
        unfold Assignment.motorMarks at h
        simp only [List.mem_cons, List.not_mem_nil, or_false] at hevent h
        rcases hevent with rfl | rfl <;> simp at h
    | ranging ha h => exact List.ne_nil_of_mem ha
    | voltage hany h =>
        have hother : ∀ event ∈ [Mention.calls "dumpDistance", .invokes "Wire" "begin"],
            event ∉ voltageMarks := by decide
        exact absurd h (hother event hevent)
  · intro hne
    obtain ⟨a, ha⟩ := List.exists_mem_of_ne_nil _ hne
    have hsub : [Mention.calls "dumpDistance", .invokes "Wire" "begin"] ⊆ a.rangingMarks := by
      simp [Assignment.rangingMarks]
    exact .ranging ha (hsub hevent)

/-- The values of the enumeration are used for motors with a PWM pin. -/
theorem Done.uses_value_iff (hs : Served assignments) (hname : name ∈ stateValues) :
    Done assignments (.uses name) ↔ speedMotors assignments ≠ [] := by
  constructor
  · intro h
    cases h with
    | motor ha h => exact List.ne_nil_of_mem ha
    | @ranging a ha h =>
        have hvariable := isVariable_of_declared hs (mem_declaredVariables.2 (.inr ⟨a, ha, rfl⟩))
        have hvalue : ∀ name ∈ stateValues, isVariable name = false ∧ name ≠ "dumpDistance" := by
          decide
        obtain ⟨hfixed, hdistance⟩ := hvalue name hname
        have hne : name ≠ a.sensorVariable := (ne_of_isVariable hvariable hfixed).symm
        simp [Assignment.rangingMarks, hne, hdistance] at h
    | voltage hany h =>
        have hother : ∀ name ∈ stateValues, Mention.uses name ∉ voltageMarks := by decide
        exact absurd h (hother name hname)
  · intro hne
    obtain ⟨a, ha⟩ := List.exists_mem_of_ne_nil _ hne
    exact .motor ha (List.mem_cons_of_mem _ (List.mem_map_of_mem hname))

end Parts

-- ============================================================ the whole

/-- What a sketch does with the names that are looked at. -/
def sketchMarks (assignments : List Assignment) : List Mention :=
  headMarks assignments ++ (declarationMarks assignments ++ bodyMarks assignments)

section Whole

variable {assignments : List Assignment} {name x : String} {event : Mention}

theorem introductions_sketch (hs : Served assignments) : introductions (sketchMarks assignments)
    = (if speedMotors assignments = [] then [] else stateNames) ++
      (declaredVariables assignments ++ definedHelpers assignments) := by
  unfold sketchMarks
  rw [introductions_append, introductions_append, introductions_headMarks,
    introductions_declarationMarks, introductions_bodyMarks hs, List.append_nil]

/-- The name of no other variable begins like that of a sensor. -/
theorem state_ne_sensor (a b : String) : "speedState" ++ a ≠ "sensor" ++ b := by
  intro h
  have hsecond := congrArg (fun text => text.toList[1]?) h
  simp [String.toList_append] at hsecond

theorem declaredVariables_nodup (hs : Served assignments) :
    (declaredVariables assignments).Nodup := by
  have hvariables : ∀ (front : String) (p : Assignment → Bool),
      ((assignments.filter p).map fun a => front ++ a.name).Nodup := by
    intro front p
    have hnames : ((assignments.filter p).map Assignment.name).Nodup :=
      hs.distinct.sublist (List.filter_sublist.map _)
    have hinjective : Function.Injective (front ++ ·) := fun a b => String.append_right_inj _ |>.1
    have hall := hnames.map hinjective
    rw [List.map_map] at hall
    exact hall
  refine List.nodup_append.2 ⟨hvariables "speedState" _, hvariables "sensor" _, ?_⟩
  intro state hstate sensor hsensor
  obtain ⟨a, -, rfl⟩ := List.mem_map.1 hstate
  obtain ⟨b, -, rfl⟩ := List.mem_map.1 hsensor
  exact state_ne_sensor a.name b.name

/-- No name is introduced twice. -/
theorem introductions_nodup (hs : Served assignments) :
    (introductions (sketchMarks assignments)).Nodup := by
  have hstates : (if speedMotors assignments = [] then [] else stateNames).Nodup := by
    split <;> decide
  have hhelpers : (definedHelpers assignments).Nodup := by
    unfold definedHelpers
    split_ifs <;> decide
  have hfixed : ∀ name ∈ definedHelpers assignments,
      name ∉ stateNames ∧ isVariable name = false := by
    unfold definedHelpers
    split_ifs <;> decide
  rw [introductions_sketch hs]
  refine List.nodup_append.2 ⟨hstates, List.nodup_append.2
    ⟨declaredVariables_nodup hs, hhelpers, ?_⟩, ?_⟩
  · rintro x hx name hname
    exact ne_of_isVariable (isVariable_of_declared hs hx) (hfixed name hname).2
  · intro value hvalue name hname
    rw [List.mem_ite_nil_left] at hvalue
    rcases List.mem_append.1 hname with hx | hhelper
    · have hother : ∀ name ∈ stateNames, isVariable name = false := by decide
      exact (ne_of_isVariable (isVariable_of_declared hs hx) (hother value hvalue.2)).symm
    · rintro rfl
      exact (hfixed value hhelper).1 hvalue.2

/-- Of the names that are looked at only the idle state is used among the
declarations, and no function is called there. -/
theorem of_uses_declarations (h : .uses x ∈ headMarks assignments ++ declarationMarks assignments) :
    x = "SPEED_IDLE" := by
  rw [List.mem_append, mem_headMarks, mem_declarationMarks] at h
  have hidle : (∃ a, a ∈ speedMotors assignments) ∧ x = "SPEED_IDLE" := by
    simpa [stateNames, stateValues, Assignment.stateMarks] using h
  exact hidle.2

theorem not_calls_declarations :
    .calls x ∉ headMarks assignments ++ declarationMarks assignments := by
  rw [List.mem_append, mem_headMarks, mem_declarationMarks]
  simp [stateNames, stateValues, Assignment.stateMarks]

theorem not_introduces_body (hs : Served assignments) (h : event.introduced? = some name) :
    event ∉ bodyMarks assignments := by
  intro hmem
  rw [introduced?_of_isUse (Done.of_mem hs hmem).isUse] at h
  cases h

theorem mem_bodyMarks (hs : Served assignments) :
    event ∈ bodyMarks assignments ↔ Done assignments event :=
  ⟨Done.of_mem hs, Done.mem hs⟩

/-- What is used in the functions alone, and introduced in front of them if
it is used, is introduced as it should be. -/
theorem introduced_above_body (hs : Served assignments) {introduction use : Mention}
    (hintroduced : introduction.introduced? = some name)
    (hneeded : introduction ∈ headMarks assignments ++ declarationMarks assignments
      ↔ Done assignments use)
    (hfront : use ∉ headMarks assignments ++ declarationMarks assignments) :
    Introduced (sketchMarks assignments) introduction [use] := by
  have hdistinct := introductions_nodup hs
  unfold sketchMarks at hdistinct ⊢
  rw [← List.append_assoc] at hdistinct ⊢
  refine .of_parts hdistinct hintroduced ?_ (List.forall_mem_singleton.2 hfront)
    (not_introduces_body hs hintroduced)
  rw [hneeded, ← mem_bodyMarks hs]
  simp only [List.mem_singleton, exists_eq_left]

theorem variable_introduced (hs : Served assignments) (hx : isVariable x = true) {type : String}
    (hdeclared : .declares type x ∈ headMarks assignments ++ declarationMarks assignments
      ↔ x ∈ declaredVariables assignments) :
    Introduced (sketchMarks assignments) (.declares type x) [.uses x] :=
  introduced_above_body hs rfl (hdeclared.trans (Done.uses_iff hx).symm) fun hmem =>
    ne_of_isVariable hx (by decide) (of_uses_declarations hmem)

theorem state_introduced (hs : Served assignments) (hne : name ≠ "") :
    Introduced (sketchMarks assignments) (.declares "SpeedState" ("speedState" ++ name))
      [.uses ("speedState" ++ name)] := by
  have hother : ¬∃ a ∈ distanceSensors assignments, "speedState" ++ name = a.sensorVariable :=
    fun ⟨a, _, h⟩ => state_ne_sensor name a.name h
  refine variable_introduced hs (isVariable_state hne) ?_
  rw [mem_declaredVariables, or_iff_left hother, List.mem_append, mem_headMarks,
    mem_declarationMarks]
  simp [stateNames, stateValues, Assignment.stateMarks]

theorem sensor_introduced (hs : Served assignments) (hne : name ≠ "") :
    Introduced (sketchMarks assignments) (.declares "VL53L0X" ("sensor" ++ name))
      [.uses ("sensor" ++ name)] := by
  have hother : ¬∃ a ∈ speedMotors assignments, "sensor" ++ name = a.speedVariable :=
    fun ⟨a, _, h⟩ => state_ne_sensor a.name name h.symm
  refine variable_introduced hs (isVariable_sensor hne) ?_
  rw [mem_declaredVariables, or_iff_right hother, List.mem_append, mem_headMarks,
    mem_declarationMarks]
  simp [stateNames, stateValues, Assignment.stateMarks]

theorem readVoltage_introduced (hs : Served assignments) :
    Introduced (sketchMarks assignments) (.defines "readVoltage") [.calls "readVoltage"] := by
  refine introduced_above_body hs rfl ?_ not_calls_declarations
  rw [Done.calls_readVoltage, List.mem_append, mem_headMarks, mem_declarationMarks]
  simp [stateNames, stateValues, Assignment.stateMarks]

theorem dumpDistance_introduced (hs : Served assignments) :
    Introduced (sketchMarks assignments) (.defines "dumpDistance") [.calls "dumpDistance"] := by
  refine introduced_above_body hs rfl ?_ not_calls_declarations
  rw [Done.ranging_iff (by decide), List.mem_append, mem_headMarks, mem_declarationMarks]
  simp [stateNames, stateValues, Assignment.stateMarks]

theorem enumeration_introduced (hs : Served assignments) (hname : name ∈ stateNames) :
    Introduced (sketchMarks assignments) (.defines name) (stateValues.map .uses) := by
  have hdefined : .defines name ∈ headMarks assignments ↔ speedMotors assignments ≠ [] := by
    rw [mem_headMarks]
    simp [hname]
  -- the cut is above the declarations, since these use the idle value already
  have hused : (∃ use ∈ stateValues.map Mention.uses,
      use ∈ declarationMarks assignments ++ bodyMarks assignments)
        ↔ speedMotors assignments ≠ [] := by
    constructor
    · rintro ⟨use, huse, hmem⟩
      obtain ⟨value, hvalue, rfl⟩ := List.mem_map.1 huse
      rw [List.mem_append, mem_declarationMarks, mem_bodyMarks hs,
        Done.uses_value_iff hs hvalue] at hmem
      rcases hmem with (⟨a, ha, -⟩ | hother) | hmotors
      · exact List.ne_nil_of_mem ha
      · simp at hother
      · exact hmotors
    · intro hmotors
      refine ⟨.uses "SPEED_IDLE", by decide, List.mem_append_right _ ?_⟩
      exact Done.mem hs ((Done.uses_value_iff hs (by decide)).2 hmotors)
  refine .of_parts (introductions_nodup hs) rfl (hdefined.trans hused.symm) ?_ ?_
  · intro use huse hmem
    obtain ⟨value, hvalue, rfl⟩ := List.mem_map.1 huse
    rw [mem_headMarks] at hmem
    simp at hmem
  · have hother : ∀ name ∈ stateNames, name ≠ "readVoltage" ∧ name ≠ "dumpDistance" := by decide
    rw [List.mem_append, not_or, mem_declarationMarks]
    refine ⟨?_, not_introduces_body hs rfl⟩
    simp [Assignment.stateMarks, hother name hname]

theorem mem_sketchMarks (hs : Served assignments) : event ∈ sketchMarks assignments ↔
    event ∈ headMarks assignments ∨ event ∈ declarationMarks assignments
      ∨ Done assignments event := by
  unfold sketchMarks
  rw [List.mem_append, List.mem_append, mem_bodyMarks hs]

/-- A distance sensor is declared if there is one. -/
theorem declares_sensor_iff (hs : Served assignments) :
    (∃ x, .declares "VL53L0X" x ∈ sketchMarks assignments) ↔ distanceSensors assignments ≠ [] := by
  have hone : ∀ x, .declares "VL53L0X" x ∈ sketchMarks assignments
      ↔ ∃ a ∈ distanceSensors assignments, x = a.sensorVariable := by
    intro x
    have hbody : ¬Done assignments (.declares "VL53L0X" x) := fun h => nomatch h.isUse
    rw [mem_sketchMarks hs, mem_headMarks, mem_declarationMarks]
    simp [hbody, stateNames, stateValues, Assignment.stateMarks]
  simp only [hone]
  constructor
  · rintro ⟨x, a, ha, -⟩
    exact List.ne_nil_of_mem ha
  · intro hne
    obtain ⟨a, ha⟩ := List.exists_mem_of_ne_nil _ hne
    exact ⟨_, a, ha, rfl⟩

/-- The libraries and the start of the bus are there for the distance
sensors. -/
theorem libraries_iff (hs : Served assignments)
    (hevent : event ∈ [Mention.includes "Wire", .includes "VL53L0X", .invokes "Wire" "begin"]) :
    event ∈ sketchMarks assignments ↔ ∃ x, .declares "VL53L0X" x ∈ sketchMarks assignments := by
  rw [declares_sensor_iff hs, mem_sketchMarks hs, mem_headMarks, mem_declarationMarks]
  have hincludes : ∀ library, ¬Done assignments (.includes library) :=
    fun library h => nomatch h.isUse
  simp only [List.mem_cons, List.not_mem_nil, or_false] at hevent
  rcases hevent with rfl | rfl | rfl
  · simp [hincludes, Assignment.stateMarks, stateNames, stateValues]
  · simp [hincludes, Assignment.stateMarks, stateNames, stateValues]
  · rw [Done.ranging_iff (by decide)]
    simp [Assignment.stateMarks, stateNames, stateValues]

end Whole

-- ========================================================== the theorem

/-- A source text introduces the names that it uses, each once and above its
uses, and no others. -/
structure WellDeclared (events : List Mention) : Prop where
  /-- No name is declared or defined twice. -/
  distinct : (introductions events).Nodup
  states : ∀ name, name ≠ "" → Introduced events
    (.declares "SpeedState" ("speedState" ++ name)) [.uses ("speedState" ++ name)]
  sensors : ∀ name, name ≠ "" → Introduced events
    (.declares "VL53L0X" ("sensor" ++ name)) [.uses ("sensor" ++ name)]
  /-- The enumeration and its values are there for the sake of the values. -/
  enumeration : ∀ name ∈ stateNames, Introduced events (.defines name) (stateValues.map .uses)
  helpers : ∀ name ∈ ["readVoltage", "dumpDistance"],
    Introduced events (.defines name) [.calls name]
  /-- The libraries are included, and the bus is started, for the sake of the
  distance sensors. -/
  libraries : ∀ event ∈ [Mention.includes "Wire", .includes "VL53L0X", .invokes "Wire" "begin"],
    event ∈ events ↔ ∃ x, .declares "VL53L0X" x ∈ events

/-- The names that are looked at are all that is needed. -/
theorem WellDeclared.of_filter {events : List Mention}
    (h : WellDeclared (events.filter Mention.matters)) : WellDeclared events where
  distinct := by
    rw [← introductions_filter]
    exact h.distinct
  states name hne := .of_filter rfl
    (List.forall_mem_singleton.2 (matters_variable (isVariable_state hne))) (h.states name hne)
  sensors name hne := .of_filter rfl
    (List.forall_mem_singleton.2 (matters_variable (isVariable_sensor hne))) (h.sensors name hne)
  enumeration name hname := .of_filter rfl (by decide) (h.enumeration name hname)
  helpers name hname := by
    have hmatters : ∀ name ∈ ["readVoltage", "dumpDistance"],
        (Mention.calls name).matters = true := by decide
    exact .of_filter rfl (List.forall_mem_singleton.2 (hmatters name hname)) (h.helpers name hname)
  libraries event hevent := by
    have hmatters : ∀ event ∈ [Mention.includes "Wire", .includes "VL53L0X",
        .invokes "Wire" "begin"], event.matters = true := by decide
    have hfiltered := h.libraries event hevent
    simp only [List.mem_filter, hmatters event hevent, and_true] at hfiltered
    exact hfiltered.trans (exists_congr fun x => and_iff_left rfl)

theorem sketchMarks_wellDeclared {assignments : List Assignment} (hs : Served assignments) :
    WellDeclared (sketchMarks assignments) where
  distinct := introductions_nodup hs
  states _ hne := state_introduced hs hne
  sensors _ hne := sensor_introduced hs hne
  enumeration _ hname := enumeration_introduced hs hname
  helpers := by
    simp only [List.forall_mem_cons]
    exact ⟨readVoltage_introduced hs, dumpDistance_introduced hs, nofun⟩
  libraries _ hevent := libraries_iff hs hevent

/-- What is done in the code of a sketch with the names that are looked
at. -/
theorem mentionsIn_sketch {firmware : Firmware} {assignments : List Assignment}
    (haccepted : firmware.refusal? = none) (hs : Served assignments) :
    (mentionsIn (firmware.sketch assignments)).filter Mention.matters
      = sketchMarks assignments := by
  have hlines : (Sketch.codeOf (firmware.sketch assignments))
      = (firmware.sketchLines assignments).map Sketch.Line.tokens := by
    unfold Sketch.codeOf
    rw [Firmware.sourceLines_sketch haccepted hs.named, List.map_map]
    rfl
  unfold mentionsIn
  rw [hlines, List.filter_flatMap, List.flatMap_map]
  exact marks_sketchLines haccepted hs

/-- A rendered sketch, comments and literals left aside, declares what it
uses: each variable of a motor or of a distance sensor once and above its
first use, the enumeration and the helpers if they are used and above that,
and the libraries if a distance sensor is declared. -/
theorem sketch_declares {generator : Generator} {agent : Agent} {artifacts : Artifacts}
    (h : generator.render agent = .ok artifacts) : WellDeclared (mentionsIn artifacts.sketch) := by
  have hr := rendered_of_render h
  refine .of_filter ?_
  rw [hr.sketch_eq, mentionsIn_sketch generator.accepted hr.served]
  exact sketchMarks_wellDeclared hr.served

theorem sketch_declares_rover :
    Generator.render ⟨.uno, {}, Firmware.default_accepted⟩ rover = .ok (roverArtifacts {})
      ∧ WellDeclared (mentionsIn (roverArtifacts {}).sketch) := by
  have hrendered : Generator.render ⟨.uno, {}, Firmware.default_accepted⟩ rover
      = .ok (roverArtifacts {}) := render_rover rfl
  exact ⟨hrendered, sketch_declares hrendered⟩

/-- A sensor that is started but not declared. -/
example : ¬WellDeclared (mentionsIn "void setup() \x7b\n    sensorFront.init();\n\x7d\n") := by
  intro h
  have honce := (h.sensors "Front" (by decide)).once
  revert honce
  decide +kernel

end SerialEndpoint
