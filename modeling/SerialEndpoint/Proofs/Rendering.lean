/-
What a successful rendering rests on. `Rendered` gathers, once, all that the
theorems about artifacts use of the way they came about: discovery left valid
and distinct names, allocation left wirings that fit, and the sketch and the
keymaps were made from these very assignments.

Pools matter beside this only through `Pools.Available`: whichever way pools
are had, no pin is in them twice, so no two components share one
(`Rendered.granted_nodup`).

The robot that stands for all agents in what follows has a component of every
kind (`rover`). Its pins are written out, and that rendering comes to just
these is shown once (`render_rover`).
-/
import SerialEndpoint.Generation
import SerialEndpoint.Proofs.Pools
import SerialEndpoint.Proofs.Discovery
import SerialEndpoint.Proofs.Allocation

namespace SerialEndpoint

-- =============================================================== pools

/-- Pools as they can be had: lists that were accepted, or the pins of a
known board. -/
inductive Pools.Available : Pools → Prop where
  | accepted {pwm digital analog : List UInt8} {pools : Pools}
      (h : Pools.ofLists pwm digital analog = .ok pools) : Available pools
  | own (target : Target) : Available target.pools

/-- However pools were had, they are apart. -/
theorem Pools.Available.apart {pools : Pools} (h : pools.Available) : pools.Apart := by
  cases h with
  | accepted h =>
      obtain ⟨rfl, hapart⟩ := ofLists_eq_ok_iff.1 h
      exact hapart
  | own target => exact own_apart target

/-- No pin is in a pool twice, however the pools were had. -/
theorem Pools.Available.nodup {pools : Pools} (h : pools.Available)
    (category : Category) : (pools.pool category).Nodup :=
  h.apart.nodup category

-- =========================================================== rendering

/-- Assignments that an endpoint can be made for: valid names, none twice,
and each wiring of its component's kind. -/
structure Served (assignments : List Assignment) : Prop where
  named : ∀ a ∈ assignments, isComponentName a.name = true
  distinct : (assignments.map Assignment.name).Nodup
  fits : ∀ a ∈ assignments, Wiring.Fits a.kind a.wiring

/-- Artifacts as a generator makes them. -/
structure Rendered (generator : Generator) (artifacts : Artifacts) : Prop where
  served : Served artifacts.assignments
  sketch_eq : artifacts.sketch = generator.firmware.sketch artifacts.assignments
  keymaps_eq : artifacts.keymaps = keymapFiles artifacts.assignments
  granted : ∀ category, ∃ n, (generator.pools.pool category).take n
    = artifacts.assignments.flatMap (Assignment.granted category)

/-- Rendering, where it succeeds, renders. -/
theorem rendered_of_render {generator : Generator} {agent : Agent}
    {artifacts : Artifacts} (h : generator.render agent = .ok artifacts) :
    Rendered generator artifacts := by
  unfold Generator.render at h
  split at h
  · cases h
  · rename_i registry hdiscover
    split at h
    · cases h
    · rename_i allocation hallocate
      cases h
      obtain ⟨-, hnames, hnodup⟩ := discover_names hdiscover
      obtain ⟨hcomponents, hfits, hgranted⟩ := allocate_granted hallocate
      have hmap : allocation.assignments.map Assignment.name
          = registry.components.map Component.name := by
        rw [← hcomponents, List.map_map]
        rfl
      have hdistinct : (allocation.assignments.map Assignment.name).Nodup := by
        rw [hmap]
        exact hnodup
      have hnamed : ∀ a ∈ allocation.assignments,
          isComponentName a.name = true := by
        intro a ha
        refine hnames a.component ?_
        rw [← hcomponents]
        exact List.mem_map_of_mem ha
      exact ⟨⟨hnamed, hdistinct, hfits⟩, by dsimp only, by dsimp only,
        fun category => ⟨_, (hgranted category).2⟩⟩

/-- No pin of a category is granted twice. -/
theorem Rendered.granted_nodup {generator : Generator} {artifacts : Artifacts}
    (hr : Rendered generator artifacts) (hp : generator.pools.Available)
    (category : Category) :
    (artifacts.assignments.flatMap (Assignment.granted category)).Nodup := by
  obtain ⟨n, hn⟩ := hr.granted category
  rw [← hn]
  exact (hp.nodup category).sublist (List.take_sublist ..)

/-- A generator holds the pools and settings it was made from, and these
settings were accepted. -/
theorem ofParts_ok {pools : Pools} {firmware : Firmware} {generator : Generator}
    (h : Generator.ofParts pools firmware = .ok generator) :
    generator.pools = pools ∧ generator.firmware = firmware
      ∧ firmware.refusal? = none := by
  unfold Generator.ofParts at h
  split at h
  · cases h
  · rename_i hnone
    cases h
    exact ⟨rfl, rfl, hnone⟩

theorem ofParts_accepted (pools : Pools) {firmware : Firmware}
    (h : firmware.refusal? = none) :
    Generator.ofParts pools firmware = .ok ⟨pools, firmware, h⟩ := by
  unfold Generator.ofParts
  split
  · rename_i refusal hrefused
    rw [h] at hrefused
    cases hrefused
  · rfl

/-- The settings that stand if nothing else is said are accepted. -/
theorem Firmware.default_accepted : ({} : Firmware).refusal? = none := by decide +kernel

-- ============================================================= a rover

/-- A robot with a component of every kind. The name of one of its
switches is the beginning of the other's. -/
def rover : Agent where
  name := "rover"
  entries := [.motor "Left" true true, .switch "S1", .switch "S12",
    .voltageSensor "Battery", .distanceSensor "Front",
    { name := "Lamp", tag := "generic", ignored := true }]

/-- The pins of the robot on the small board. -/
def roverAssignments : List Assignment :=
  [⟨⟨"Left", .motor true true⟩,
      .motor (some ⟨.pwm, 3⟩) (some ⟨.digital, 2⟩) ⟨.digital, 4⟩⟩,
   ⟨⟨"S1", .switch⟩, .switch ⟨.digital, 5⟩⟩,
   ⟨⟨"S12", .switch⟩, .switch ⟨.digital, 6⟩⟩,
   ⟨⟨"Battery", .voltageSensor⟩, .voltageSensor ⟨.analog, 0⟩⟩,
   ⟨⟨"Front", .distanceSensor⟩, .none⟩,
   ⟨⟨"Lamp", .generic true⟩, .none⟩]

/-- What is made for the robot with some settings. -/
def roverArtifacts (firmware : Firmware) : Artifacts where
  agent := "rover"
  assignments := roverAssignments
  sketch := firmware.sketch roverAssignments
  keymaps := keymapFiles roverAssignments

/-- Rendering makes just that. -/
theorem render_rover {generator : Generator} (h : generator.pools = .uno) :
    generator.render rover = .ok (roverArtifacts generator.firmware) := by
  have hdiscover : rover.discover
      = .ok ⟨"rover", roverAssignments.map Assignment.component⟩ := by decide
  have hallocate : ∃ cursors, Pools.uno.allocate
      (roverAssignments.map Assignment.component) = .ok ⟨roverAssignments, cursors⟩ :=
    ⟨_, rfl⟩
  obtain ⟨cursors, hallocate⟩ := hallocate
  unfold Generator.render
  rw [hdiscover]
  simp only [h, hallocate]
  rfl

end SerialEndpoint
