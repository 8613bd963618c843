/-
The scale in a sketch (`scaling_of_sketch`). The function that reads a voltage
multiplies by one number and divides by two, and all three stand in its text
with six places. What they denote is read off the text, exactly.

# From the settings to the text

A setting is a double, and a double is a whole number of smallest units. With
six places it is printed as that number rounded to the nearest millionth, to
the even one where two are equally near. Reading the digits back gives the
same fraction (`scaling?_return`), so each number in the text is its setting
rounded to six places (`roundsTo_sixPlaces`). A whole number keeps its value
(`sixPlaces_whole`), and the number of steps is one.

# What becomes of small settings

The settings that are accepted are positive, but a positive number need not be
so with six places: half of the last place and less is rounded to zero
(`RoundsTo.pos_iff`). So the three numbers fare differently:

- the steps are at least one and never become zero;
- a divider of half a millionth or less makes the function divide by zero, at
  any reading (`volts?_ne_none_iff`);
- a reference of that size makes every voltage zero, and no other one does
  (`volts?_nonzero_iff`).

A divider that small is accepted (`small_divider_is_zero`).
-/
import SerialEndpoint.Proofs.Number.Printing
import SerialEndpoint.Proofs.Sketch.Functions

namespace SerialEndpoint

namespace Sketch

-- ============================================================== reading

/-- How a sketch turns a reading into a voltage. -/
structure Scaling where
  reference : ℚ
  steps : ℚ
  ratio : ℚ
deriving DecidableEq

/-- The line that returns the voltage. -/
def voltageForm : Form :=
  ⟨"return ((raw * ", [(.number, "."), (.number, ") / "), (.number, "."), (.number, ") / "),
    (.number, "."), (.number, ";")]⟩

/-- The scaling that a line says. -/
def scaling? (line : List Char) : Option Scaling :=
  match voltageForm.read? line with
  | some [whole, places, whole', places', whole'', places''] =>
    some ⟨decimalValue whole places, decimalValue whole' places', decimalValue whole'' places''⟩
  | _ => none

/-- The scalings in the function that reads a voltage. -/
def scalings (text : String) : List Scaling :=
  ((body? "static float readVoltage(uint8_t pin)" text).getD []).filterMap scaling?

/-- The voltage of a reading, unless the sketch divides by zero. -/
def Scaling.volts? (scaling : Scaling) (raw : Nat) : Option ℚ :=
  if scaling.steps = 0 ∨ scaling.ratio = 0 then none
  else some (raw * scaling.reference / scaling.steps / scaling.ratio)

-- =========================================================== what is read

/-- What a number of units denotes when it is printed with six places. -/
def sixPlaces (units : Nat) : ℚ :=
  divHalfEven (units * 10 ^ 6) Binary64.unitsPerOne / 10 ^ 6

theorem roundsTo_sixPlaces (units : Nat) :
    RoundsTo 6 (units / Binary64.unitsPerOne) (sixPlaces units) := by
  obtain ⟨whole, fraction, -, -, -, -, hvalue, hrounds⟩ := @roundsTo_fixed 6 (by decide) units
  rwa [hvalue] at hrounds

/-- Whole numbers keep their value. -/
theorem sixPlaces_whole (n : Nat) : sixPlaces (n * Binary64.unitsPerOne) = n := by
  unfold sixPlaces
  rw [Nat.mul_right_comm, divHalfEven_mul Binary64.unitsPerOne_pos]
  push_cast
  exact mul_div_cancel_right₀ _ (by norm_num)

theorem fits_digits {text : String} (hsome : text ≠ "")
    (hdigits : ∀ c ∈ text.toList, c.isDigit = true) : Gap.number.Fits text.toList := by
  refine Gap.fits_of_forall hdigits fun hempty => absurd ?_ hsome
  rwa [← String.toList_inj]

theorem scaling?_return (reference steps ratio : Nat) :
    scaling? ("return ((raw * " ++ (Binary64.finite false reference).fixed 6 ++ ") / " ++
        (Binary64.finite false steps).fixed 6 ++ ") / " ++
        (Binary64.finite false ratio).fixed 6 ++ ";").toList
      = some ⟨sixPlaces reference, sixPlaces steps, sixPlaces ratio⟩ := by
  have hnumber : ∀ units, ∃ whole fraction : String,
      (Binary64.finite false units).fixed 6 = whole ++ "." ++ fraction
        ∧ Gap.number.Fits whole.toList ∧ Gap.number.Fits fraction.toList
        ∧ decimalValue whole fraction = sixPlaces units := by
    intro units
    obtain ⟨whole, fraction, htext, hwhole, hfraction, hdigits, hvalue, -⟩ :=
      @roundsTo_fixed 6 (by decide) units
    exact ⟨whole, fraction, htext,
      fits_digits hwhole fun c hc => hdigits c (List.mem_append_left _ hc),
      fits_digits hfraction fun c hc => hdigits c (List.mem_append_right _ hc), hvalue⟩
  obtain ⟨w, p, htext, hw, hp, hvalue⟩ := hnumber reference
  obtain ⟨w', p', htext', hw', hp', hvalue'⟩ := hnumber steps
  obtain ⟨w'', p'', htext'', hw'', hp'', hvalue''⟩ := hnumber ratio
  have hread : voltageForm.read? (voltageForm.fill [w, p, w', p', w'', p''])
      = some [w, p, w', p', w'', p''] :=
    Form.read?_fill (by decide)
      (.cons hw (.cons hp (.cons hw' (.cons hp' (.cons hw'' (.cons hp'' .nil))))))
  have hfill : voltageForm.fill [w, p, w', p', w'', p'']
      = ("return ((raw * " ++ (w ++ "." ++ p) ++ ") / " ++ (w' ++ "." ++ p') ++ ") / " ++
          (w'' ++ "." ++ p'') ++ ";").toList := by
    simp [Form.fill, fillParts, voltageForm]
  rw [htext, htext', htext'', ← hfill]
  unfold scaling?
  rw [hread]
  simp only [hvalue, hvalue', hvalue'']

end Sketch

open Sketch

/-- The one scaling of a sketch that reads voltages. -/
theorem scalings_sketch {firmware : Firmware} {assignments : List Assignment}
    (haccepted : firmware.refusal? = none) (hs : Served assignments)
    (hsensor : hasVoltageSensor assignments = true) {reference ratio : Nat}
    (hreference : firmware.voltage.reference = .finite false reference)
    (hratio : firmware.voltage.ratio = .finite false ratio) :
    scalings (firmware.sketch assignments)
      = [⟨sixPlaces reference, firmware.voltage.steps, sixPlaces ratio⟩] := by
  have hsteps := (scale_of_accepted haccepted).2.1
  have hread := scaling?_return reference (firmware.voltage.steps * Binary64.unitsPerOne) ratio
  rw [sixPlaces_whole, ← Binary64.ofNat_eq (Nat.lt_of_le_of_lt hsteps (by decide)), ← hreference,
    ← hratio] at hread
  have hraw : scaling? "float raw = analogRead(pin);".toList = none := by decide
  have hbody := Firmware.body?_voltage haccepted hs hsensor
  unfold scalings
  rw [show "static float readVoltage(uint8_t pin)" = Firmware.voltageSignature from rfl, hbody]
  unfold Firmware.voltageBody
  simp only [Option.getD_some, List.map_cons, List.map_nil, Line.content]
  rw [List.filterMap_cons_none hraw, List.filterMap_cons_some hread, List.filterMap_nil]

-- ============================================================= the scale

theorem volts?_of_ratio_zero {scaling : Scaling} (h : scaling.ratio = 0) (raw : Nat) :
    scaling.volts? raw = none :=
  if_pos (.inr h)

theorem volts?_of_ratio_ne_zero {scaling : Scaling} (hsteps : 0 < scaling.steps)
    (h : scaling.ratio ≠ 0) (raw : Nat) :
    scaling.volts? raw = some (raw * scaling.reference / scaling.steps / scaling.ratio) :=
  if_neg (not_or.2 ⟨hsteps.ne', h⟩)

/-- A sketch divides by zero whatever it reads, or never. -/
theorem volts?_ne_none_iff {scaling : Scaling} (hsteps : 0 < scaling.steps) (raw : Nat) :
    scaling.volts? raw ≠ none ↔ scaling.ratio ≠ 0 := by
  constructor
  · exact fun hdefined hratio => hdefined (volts?_of_ratio_zero hratio raw)
  · intro hratio
    rw [volts?_of_ratio_ne_zero hsteps hratio]
    exact Option.some_ne_none _

/-- Some reading has a voltage that is not zero if no number is zero. -/
theorem volts?_nonzero_iff {scaling : Scaling} (hsteps : 0 < scaling.steps) :
    (∃ raw voltage, scaling.volts? raw = some voltage ∧ voltage ≠ 0)
      ↔ scaling.reference ≠ 0 ∧ scaling.ratio ≠ 0 := by
  constructor
  · rintro ⟨raw, voltage, hvolts, hvoltage⟩
    have hratio : scaling.ratio ≠ 0 :=
      (volts?_ne_none_iff hsteps raw).1 (by rw [hvolts]; exact Option.some_ne_none _)
    refine ⟨fun hreference => hvoltage ?_, hratio⟩
    rw [volts?_of_ratio_ne_zero hsteps hratio, hreference, mul_zero, zero_div, zero_div] at hvolts
    exact (Option.some_inj.1 hvolts).symm
  · rintro ⟨hreference, hratio⟩
    refine ⟨1, _, volts?_of_ratio_ne_zero hsteps hratio 1, ?_⟩
    rw [Nat.cast_one]
    exact div_ne_zero (div_ne_zero (mul_ne_zero one_ne_zero hreference) hsteps.ne') hratio

/-- The sketch of an endpoint with a voltage sensor has one scaling. Its
steps are those of the settings; its reference and its divider are those of
the settings to six places. They are not zero exactly if the settings
exceed half of a millionth, so the sketch never divides by zero exactly if
the divider does, and does not always find zero exactly if both do. -/
theorem scaling_of_sketch {generator : Generator} {agent : Agent} {artifacts : Artifacts}
    (hrender : generator.render agent = .ok artifacts)
    (hsensor : hasVoltageSensor artifacts.assignments = true) :
    let scale := generator.firmware.voltage
    let shown (x : ℚ) := 1 / 2 / 10 ^ 6 < x
    ∃ (scaling : Scaling) (reference ratio : ℚ),
      scalings artifacts.sketch = [scaling]
        ∧ scale.reference.value? = some reference ∧ scale.ratio.value? = some ratio
        ∧ scaling.steps = scale.steps ∧ 0 < scaling.steps
        ∧ RoundsTo 6 reference scaling.reference ∧ RoundsTo 6 ratio scaling.ratio
        ∧ (0 < scaling.reference ↔ shown reference) ∧ (0 < scaling.ratio ↔ shown ratio)
        ∧ ((∀ raw, scaling.volts? raw ≠ none) ↔ shown ratio)
        ∧ ((∃ raw voltage, scaling.volts? raw = some voltage ∧ voltage ≠ 0)
            ↔ shown reference ∧ shown ratio) := by
  intro scale shown
  have hr := rendered_of_render hrender
  obtain ⟨hsome, -, hratio, hreference⟩ := scale_of_accepted generator.accepted
  obtain ⟨reference, -, href⟩ := usable_iff.1 hreference
  obtain ⟨ratio, -, hrat⟩ := usable_iff.1 hratio
  have hsteps : (0 : ℚ) < scale.steps := Nat.cast_pos.2 (Nat.pos_of_ne_zero hsome)
  have hpositive : ∀ units, 0 < sixPlaces units ↔ shown (units / Binary64.unitsPerOne) :=
    fun units => (roundsTo_sixPlaces units).pos_iff
  have hnonzero : ∀ units, sixPlaces units ≠ 0 ↔ shown (units / Binary64.unitsPerOne) := by
    intro units
    rw [← hpositive, lt_iff_le_and_ne, ne_comm]
    exact ⟨fun hne => ⟨(roundsTo_sixPlaces units).nonneg, hne⟩, fun h => h.2⟩
  refine ⟨⟨sixPlaces reference, scale.steps, sixPlaces ratio⟩, _, _, ?_,
    (congrArg Binary64.value? href).trans (value?_finite reference),
    (congrArg Binary64.value? hrat).trans (value?_finite ratio), rfl, hsteps,
    roundsTo_sixPlaces reference, roundsTo_sixPlaces ratio, hpositive reference,
    hpositive ratio, ?_, ?_⟩
  · rw [hr.sketch_eq]
    exact scalings_sketch generator.accepted hr.served hsensor href hrat
  · rw [← hnonzero]
    exact ⟨fun h => (volts?_ne_none_iff hsteps 0).1 (h 0),
      fun h raw => (volts?_ne_none_iff hsteps raw).2 h⟩
  · rw [volts?_nonzero_iff hsteps, hnonzero, hnonzero]

theorem lt_of_value? {number : Binary64} {low x : ℚ} (h : number.value? = some x)
    (hlow : low < number.value?.getD 0) : low < x := by
  rwa [h] at hlow

/-- Five volts and a fifth of them. -/
theorem scaling_of_sketch_rover :
    (∃ generator, Generator.ofParts .uno {} = .ok generator
        ∧ generator.render rover = .ok (roverArtifacts {}))
      ∧ hasVoltageSensor roverAssignments = true
      ∧ ∃ scaling, scalings (roverArtifacts {}).sketch = [scaling] ∧ scaling.steps = 1024
        ∧ 0 < scaling.reference ∧ 0 < scaling.ratio ∧ ∀ raw, scaling.volts? raw ≠ none := by
  have hrender : Generator.render ⟨.uno, {}, Firmware.default_accepted⟩ rover
      = .ok (roverArtifacts {}) := render_rover rfl
  have hsensor : hasVoltageSensor roverAssignments = true := by decide
  obtain ⟨scaling, reference, ratio, hread, href, hrat, hsteps, -, -, -, hpositive, hpositive',
    hdefined, -⟩ := scaling_of_sketch hrender hsensor
  have hshown : 1 / 2 / 10 ^ 6 < reference := lt_of_value? href (by decide +kernel)
  have hshown' : 1 / 2 / 10 ^ 6 < ratio := lt_of_value? hrat (by decide +kernel)
  exact ⟨⟨_, ofParts_accepted .uno Firmware.default_accepted, hrender⟩, hsensor, scaling, hread,
    hsteps.trans (by norm_num), hpositive.2 hshown, hpositive'.2 hshown', hdefined.2 hshown'⟩

/-- A divider of a ten millionth is accepted, and the sketch divides by
zero. -/
theorem small_divider_is_zero :
    let firmware : Firmware :=
      { voltage := { ratio := (Binary64.ofText? "1e-7").getD .nan } }
    (∃ generator, Generator.ofParts .uno firmware = .ok generator
        ∧ generator.render rover = .ok (roverArtifacts firmware))
      ∧ hasVoltageSensor roverAssignments = true
      ∧ ∃ scaling, scalings (roverArtifacts firmware).sketch = [scaling]
        ∧ scaling.ratio = 0 ∧ ∀ raw, scaling.volts? raw = none := by
  intro firmware
  have haccepted : firmware.refusal? = none := by decide +kernel
  have hrender : Generator.render ⟨.uno, firmware, haccepted⟩ rover
      = .ok (roverArtifacts firmware) := render_rover rfl
  have hsensor : hasVoltageSensor roverAssignments = true := by decide
  have hfive : Binary64.ofNat 5 = .finite false (5 * Binary64.unitsPerOne) :=
    Binary64.ofNat_eq (by decide)
  have hreference : firmware.voltage.reference = .finite false (5 * Binary64.unitsPerOne) := by
    rw [← hfive]
  have hratio : firmware.voltage.ratio = .finite false (Binary64.roundedUnits 1 (10 ^ 7)) := by
    decide +kernel
  have hzero : sixPlaces (Binary64.roundedUnits 1 (10 ^ 7)) = 0 := by decide +kernel
  have hread := scalings_sketch haccepted (rendered_of_render hrender).served hsensor hreference
    hratio
  rw [hzero] at hread
  exact ⟨⟨_, ofParts_accepted .uno haccepted, hrender⟩, hsensor, _, hread, rfl,
    fun raw => volts?_of_ratio_zero rfl raw⟩

end SerialEndpoint
