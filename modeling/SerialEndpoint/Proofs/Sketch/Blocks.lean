/-
The blocks of a layout. Printing carries a depth along that stays at the
outermost level when a block is ended there, so a layout with a block ended
too often has a text like any other. `Guarded` says of lines that none of them
ends a block where none is open.

# Closed lines

Lines whose blocks are ended within them are `Closed`, which is a grammar:
lines stand one after the other, a block holds closed lines, and its end may
be the header of the next one. By induction on it,

- the depth behind closed lines is the one in front of them (`Closed.level`);
- from any depth they are guarded (`Closed.guarded`). Inside a block the depth
  is at least one, so the end of the block finds it open.

# Sketches

Every section of a sketch is closed, whatever the settings and the assignments
say, and so is the sketch (`Firmware.closed_sketchLines`). For the bodies of
functions this is had from their being nested, which is the stricter notion:
it asks of a line how its text looks, and a block that goes on in another one
is not nested (`Nested.closed`).
-/
import SerialEndpoint.Proofs.Sketch.Functions

namespace SerialEndpoint

namespace Sketch

-- ============================================================== guarding

/-- True of a line that ends a block. -/
def Line.endsBlock : Line → Bool
  | closing | reopening _ => true
  | plain _ | blank | opening _ => false

/-- No line ends a block where none is open. -/
def Guarded : Nat → List Line → Prop
  | _, [] => True
  | outer, line :: rest => (line.endsBlock = true → 0 < outer) ∧ Guarded (line.inner outer) rest

variable {lines more : List Line} {outer : Nat}

theorem guarded_append :
    Guarded outer (lines ++ more)
      ↔ Guarded outer lines ∧ Guarded (depthAfter outer lines) more := by
  induction lines generalizing outer with
  | nil => exact (and_iff_right trivial).symm
  | cons line rest ih =>
      rw [List.cons_append, Guarded, Guarded, depthAfter, ih, and_assoc]

/-- Every line that ends a block finds one open. -/
theorem guarded_iff :
    Guarded outer lines ↔ ∀ front line back, lines = front ++ line :: back →
      line.endsBlock = true → 0 < depthAfter outer front := by
  induction lines generalizing outer with
  | nil => exact iff_of_true trivial fun front line back hsplit => by simp at hsplit
  | cons first rest ih =>
      rw [Guarded, ih]
      constructor
      · rintro ⟨hfirst, hrest⟩ front line back hsplit
        cases front with
        | nil =>
            cases hsplit
            exact hfirst
        | cons other front =>
            cases hsplit
            exact hrest front line back rfl
      · intro h
        refine ⟨h [] first rest rfl, fun front line back hsplit => ?_⟩
        exact h (first :: front) line back (congrArg (first :: ·) hsplit)

-- ========================================================= closed lines

/-- Lines whose blocks are all ended within them. -/
inductive Closed : List Line → Prop where
  | nil : Closed []
  | plain (text : String) : Closed [.plain text]
  | blank : Closed [.blank]
  | append {lines more : List Line} : Closed lines → Closed more → Closed (lines ++ more)
  | block {header : String} {body : List Line} :
      Closed body → Closed (.opening header :: (body ++ [.closing]))
  /-- A block whose end is the header of the next one. -/
  | goesOn {header other : String} {body rest : List Line} :
      Closed body → Closed (.opening other :: rest) →
        Closed (.opening header :: (body ++ .reopening other :: rest))

/-- Closed lines leave the depth as it was. -/
theorem Closed.level (h : Closed lines) : ∀ outer, depthAfter outer lines = outer := by
  induction h with
  | nil => exact fun _ => rfl
  | plain _ => exact fun _ => rfl
  | blank => exact fun _ => rfl
  | append _ _ ih ih' =>
      intro outer
      rw [depthAfter_append, ih, ih']
  | block _ ih =>
      intro outer
      rw [depthAfter, depthAfter_append, ih]
      rfl
  | goesOn _ _ ih ih' =>
      intro outer
      -- behind the header of the next block the depth is that behind the first
      rw [depthAfter, depthAfter_append, ih]
      exact ih' outer

/-- Closed lines end no block that was opened in front of them. -/
theorem Closed.guarded (h : Closed lines) : ∀ outer, Guarded outer lines := by
  induction h with
  | nil => exact fun _ => trivial
  | plain _ => exact fun _ => ⟨nofun, trivial⟩
  | blank => exact fun _ => ⟨nofun, trivial⟩
  | append hlines _ ih ih' =>
      intro outer
      rw [guarded_append, hlines.level]
      exact ⟨ih outer, ih' outer⟩
  | block hbody ih =>
      intro outer
      refine ⟨nofun, guarded_append.2 ⟨ih _, ?_⟩⟩
      rw [hbody.level]
      exact ⟨fun _ => Nat.succ_pos outer, trivial⟩
  | goesOn hbody _ ih ih' =>
      intro outer
      refine ⟨nofun, guarded_append.2 ⟨ih _, ?_⟩⟩
      rw [hbody.level]
      exact ⟨fun _ => Nat.succ_pos outer, (ih' outer).2⟩

theorem Closed.flatMap {α : Type} {xs : List α} {f : α → List Line}
    (h : ∀ x ∈ xs, Closed (f x)) : Closed (xs.flatMap f) := by
  induction xs with
  | nil => exact .nil
  | cons x xs ih =>
      rw [List.flatMap_cons]
      exact (h x (List.mem_cons_self ..)).append
        (ih fun y hy => h y (List.mem_cons_of_mem _ hy))

theorem Closed.plains {α : Type} (xs : List α) (f : α → String) :
    Closed (xs.map fun x => .plain (f x)) := by
  rw [List.map_eq_flatMap]
  exact .flatMap fun x _ => .plain (f x)

/-- A function with a blank line behind it. -/
theorem Closed.function {header : String} {body : List Line} (h : Closed body) :
    Closed (.opening header :: (body ++ [.closing, .blank])) := by
  have hfunction : Closed (.opening header :: (body ++ [.closing]) ++ [.blank]) :=
    (Closed.block h).append .blank
  rwa [List.cons_append, List.append_assoc] at hfunction

/-- Nested lines are closed, whatever their text looks like. -/
theorem Nested.closed (h : Nested lines) : Closed lines := by
  induction h with
  | nil => exact .nil
  | plain _ _ => exact .plain _
  | append _ _ ih ih' => exact ih.append ih'
  | block _ _ ih => exact .block ih

end Sketch

-- ============================================================== sketches

open Sketch

namespace Firmware

variable (firmware : Firmware) (assignments : List Assignment)

theorem closed_preamble (ranging : Bool) : Closed (firmware.preamble ranging) := by
  have hlibraries : Closed (if ranging then
      [.plain "#include <Wire.h>", .plain "#include <VL53L0X.h>"] else []) := by
    cases ranging with
    | false => exact .nil
    | true => exact .append (.plain _) (.plain _)
  have hfront : Closed [.plain "// KINETIC serial endpoint",
      .plain "// Generated file, regenerate from the agent definition instead of editing.",
      .blank, .plain "#include <Arduino.h>"] :=
    .append (.plain _) (.append (.plain _) (.append .blank (.plain _)))
  exact (hfront.append hlibraries).append (.append .blank (.append (.plain _) .blank))

theorem closed_globals : Closed (globals assignments) := by
  have hstates : Closed (stateLines (speedMotors assignments)) := by
    unfold stateLines
    split
    · exact .nil
    · exact .append (.append .blank (.plain _)) (.plains _ _)
  have hsensors : Closed (sensorLines (distanceSensors assignments)) := by
    unfold sensorLines
    split
    · exact .nil
    · exact .append .blank (.plains _ _)
  rw [globals_parts]
  exact (((Closed.plain _).append (.plain _)).append hstates).append hsensors |>.append .blank

theorem closed_distanceHelper : Closed firmware.distanceHelper := by
  have hreply : Closed [.opening "if (sensor.timeoutOccurred())",
      .plain ("Serial.print(\"" ++ firmware.ranging.timeoutToken ++ "\");"),
      .reopening "else", .plain "Serial.print(range);", .closing] :=
    .goesOn (.plain _) (.block (.plain _))
  exact .function (.append (.plain _) (hreply.append (.plain _)))

theorem closed_helpers : Closed (firmware.helpers assignments) := by
  unfold helpers
  refine .append ?_ ?_
  · split
    · rw [voltageHelper_eq]
      exact .function (nested_voltageBody firmware).closed
    · exact .nil
  · split
    · exact closed_distanceHelper firmware
    · exact .nil

theorem closed_setup : Closed (firmware.setup assignments) := by
  rw [setup_eq]
  exact .function (nested_setupBody firmware assignments).closed

theorem closed_dispatch : Closed (firmware.dispatch assignments) := by
  rw [dispatch_eq]
  exact .function (nested_dispatchBody firmware assignments).closed

theorem closed_loop : Closed loop := by
  have hended : Closed [.plain "accumulator[accumulatorIndex] = '\\0';",
      .plain "dispatchCommand(accumulator);", .plain "accumulatorIndex = 0;",
      .plain "memset(accumulator, 0, sizeof(accumulator));"] :=
    .append (.plain _) (.append (.plain _) (.append (.plain _) (.plain _)))
  have hkept : Closed [.plain "accumulator[accumulatorIndex] = (char) incoming;",
      .plain "accumulatorIndex += 1;"] :=
    .append (.plain _) (.plain _)
  exact .block (.block (.append (.plain _) (.goesOn hended (.block hkept))))

theorem closed_sketchLines : Closed (firmware.sketchLines assignments) := by
  rw [sketchLines_sections]
  exact (closed_preamble firmware _).append ((closed_globals assignments).append
    (((closed_helpers firmware assignments).append (closed_setup firmware assignments)).append
      ((closed_dispatch firmware assignments).append closed_loop)))

end Firmware

end SerialEndpoint
