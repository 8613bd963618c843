/-
Edits of an agent that leave its wiring alone. Three kinds of edits are looked
at, at any place among the entries: of entries that are no components, of a
generic component without commands, and of entries behind all others
(`wiring_survives_edits`).

# Two runs

Each of them is a statement about two runs, and all three come down to how one
run falls into two:

- Discovery looks at the kind of an entry before anything else, so entries
  that are no components are as good as not there
  (`discoverEntries_recognised`). This holds with a fault as well.
- An allocation of components in a row is that of the first ones, and that of
  the others from where the cursors stand then (`assign_append`). So what
  comes later cannot reach back, and a component without pins moves nothing
  (`assign_generic`).
- A sketch goes through the assignments several times, once for each of its
  sections, and finds in each of them no line for a component that has neither
  pins nor commands (`sketchLines_bare`). There is no keymap for it either.

# When the other run is there

Rendering is known from the one run that serves the components
(`render_eq_ok_iff`), so what is given of one agent has to lead to the run of
the other:

- a component without commands is put into an agent that was rendered. It can
  be served among the others wherever it stands, since its name is allowed and
  new (`Servable.insert`), and no pool has less for it;
- of an agent with entries behind the others the run is given whole, and its
  front is the run without them.
-/
import SerialEndpoint.Proofs.Renderable

namespace SerialEndpoint

-- =========================================================== discovery

/-- True of an entry that declares a component. -/
def Entry.isRecognised (entry : Entry) : Bool := entry.component?.isSome

/-- Discovery passes over the entries that declare no component, whatever
their names. -/
theorem discoverEntries_recognised {entries : List Entry} :
    ∀ taken : List String, discoverEntries taken entries
      = discoverEntries taken (entries.filter Entry.isRecognised) := by
  induction entries with
  | nil => exact fun _ => rfl
  | cons entry rest ih =>
      intro taken
      rw [List.filter_cons]
      unfold Entry.isRecognised
      rw [component?_eq, discoverEntries]
      cases hkind : entry.kind? with
      | none => exact ih taken
      | some kind =>
          rw [Option.map_some, Option.isSome_some, if_pos rfl, discoverEntries, hkind]
          dsimp only
          rw [ih]
          rfl

theorem discover_congr {agent agent' : Agent} (hname : agent'.name = agent.name)
    (hsame : agent'.entries.filter Entry.isRecognised
      = agent.entries.filter Entry.isRecognised) :
    agent'.discover = agent.discover := by
  unfold Agent.discover
  rw [discoverEntries_recognised, hsame, ← discoverEntries_recognised, hname]

/-- Components that can be served together are discovered. -/
theorem discover_servable {agent : Agent} (hrecognised : agent.components ≠ [])
    (hserved : Servable agent.components) :
    agent.discover = .ok ⟨agent.name, agent.components⟩ := by
  have hdecided := discover_decides agent
  cases hdiscover : agent.discover with
  | ok registry =>
      rw [hdiscover] at hdecided
      rw [hdecided.1]
  | error fault =>
      rw [hdiscover] at hdecided
      rcases hdecided with hfirst | ⟨hnone, -⟩
      · exact absurd hserved hfirst.not_servable
      · exact absurd hnone hrecognised

/-- A component with a fresh name can be served among others, wherever it
stands. -/
theorem Servable.insert {front rest : List Component} {c : Component}
    (h : Servable (front ++ rest)) (hname : WellNamed c.name)
    (hfresh : c.name ∉ (front ++ rest).map Component.name) : Servable (front ++ c :: rest) where
  named b hb := by
    rcases List.mem_cons.1 (List.perm_middle.mem_iff.1 hb) with rfl | hb
    · exact hname
    · exact h.named b hb
  distinct := by
    rw [(List.perm_middle.map Component.name).nodup_iff, List.map_cons]
    exact List.nodup_cons.2 ⟨hfresh, h.distinct⟩

-- ========================================================== allocation

section Allocation

variable {pools : Pools} {front rest : List Component} {before after : Cursors}

/-- Serving components in a row is serving the first ones, and then the
others. -/
theorem assign_append {assignments : List Assignment} :
    (front ++ rest).mapM pools.assign before = .ok assignments after
      ↔ ∃ served between others, front.mapM pools.assign before = .ok served between
          ∧ rest.mapM pools.assign between = .ok others after
          ∧ assignments = served ++ others := by
  rw [List.mapM_append]
  constructor
  · intro h
    obtain ⟨served, between, hfront, h⟩ := granting_bind h
    obtain ⟨others, _, hrest, h⟩ := granting_bind h
    cases h
    exact ⟨served, between, others, hfront, hrest, rfl⟩
  · rintro ⟨served, between, others, hfront, hrest, rfl⟩
    show EStateM.bind _ _ before = _
    unfold EStateM.bind
    rw [hfront]
    show EStateM.bind _ _ between = _
    unfold EStateM.bind
    rw [hrest]
    rfl

/-- A generic component takes no pin, so those behind it get what they get
without it. -/
theorem assign_generic (name : String) (ignored : Bool) {others : List Assignment}
    (h : rest.mapM pools.assign before = .ok others after) :
    (⟨name, .generic ignored⟩ :: rest).mapM pools.assign before
      = .ok (⟨⟨name, .generic ignored⟩, .none⟩ :: others) after := by
  have hassign : pools.assign ⟨name, .generic ignored⟩ before
      = .ok ⟨⟨name, .generic ignored⟩, .none⟩ before := rfl
  rw [List.mapM_cons]
  show EStateM.bind _ _ before = _
  unfold EStateM.bind
  rw [hassign]
  show EStateM.bind _ _ before = _
  unfold EStateM.bind
  rw [h]
  rfl

end Allocation

-- ========================================================== the sketch

/-- A component without pins and commands. -/
def Assignment.ignored (name : String) : Assignment := ⟨⟨name, .generic true⟩, .none⟩

section Bare

variable {name : String} {served others : List Assignment}

theorem filter_bare {p : Assignment → Bool} (h : p (.ignored name) = false) :
    (served ++ .ignored name :: others).filter p = (served ++ others).filter p := by
  rw [List.filter_append, List.filter_append, List.filter_cons_of_neg (by rw [h]; decide)]

theorem flatMap_bare {α : Type} {f : Assignment → List α} (h : f (.ignored name) = []) :
    (served ++ .ignored name :: others).flatMap f = (served ++ others).flatMap f := by
  rw [List.flatMap_append, List.flatMap_append, List.flatMap_cons, h, List.nil_append]

/-- A sketch has no line for such a component. -/
theorem sketchLines_bare (firmware : Firmware) :
    firmware.sketchLines (served ++ .ignored name :: others)
      = firmware.sketchLines (served ++ others) := by
  have hmotors : speedMotors (served ++ .ignored name :: others)
      = speedMotors (served ++ others) := filter_bare rfl
  have hsensors : distanceSensors (served ++ .ignored name :: others)
      = distanceSensors (served ++ others) := filter_bare rfl
  have hvoltage : hasVoltageSensor (served ++ .ignored name :: others)
      = hasVoltageSensor (served ++ others) := by
    unfold hasVoltageSensor
    rw [List.any_append, List.any_append, List.any_cons]
    rfl
  unfold Firmware.sketchLines Firmware.globals Firmware.setup Firmware.dispatch
  rw [hmotors, hsensors, hvoltage, flatMap_bare rfl, flatMap_bare rfl, flatMap_bare rfl]

/-- And there is no keymap for it. -/
theorem keymapFiles_bare :
    keymapFiles (served ++ .ignored name :: others) = keymapFiles (served ++ others) := by
  unfold keymapFiles
  rw [List.filterMap_append, List.filterMap_append, List.filterMap_cons_none rfl]

end Bare

-- =========================================================== rendering

/-- What a generator makes from the assignments of an agent. -/
def Generator.made (generator : Generator) (agent : String) (assignments : List Assignment) :
    Artifacts where
  agent
  assignments
  sketch := generator.firmware.sketch assignments
  keymaps := keymapFiles assignments

/-- An agent is rendered from the one run that serves its components. -/
theorem render_eq_ok_iff {generator : Generator} {agent : Agent} {artifacts : Artifacts} :
    generator.render agent = .ok artifacts
      ↔ agent.components ≠ [] ∧ Servable agent.components
        ∧ ∃ assignments cursors,
            agent.components.mapM generator.pools.assign {} = .ok assignments cursors
            ∧ artifacts = generator.made agent.name assignments := by
  constructor
  · intro h
    have hdecided := render_decides generator agent
    rw [h] at hdecided
    obtain ⟨hrenderable, -⟩ := hdecided
    refine ⟨hrenderable.recognised, hrenderable.servable, ?_⟩
    unfold Generator.render Pools.allocate EStateM.run at h
    rw [discover_servable hrenderable.recognised hrenderable.servable] at h
    dsimp only at h
    cases hrun : agent.components.mapM generator.pools.assign {} with
    | error fault cursors =>
        rw [hrun] at h
        cases h
    | ok assignments cursors =>
        rw [hrun] at h
        cases h
        exact ⟨assignments, cursors, rfl, rfl⟩
  · rintro ⟨hrecognised, hserved, assignments, cursors, hrun, rfl⟩
    unfold Generator.render Pools.allocate EStateM.run
    rw [discover_servable hrecognised hserved]
    dsimp only
    rw [hrun]
    rfl

theorem components_append (name : String) (front rest : List Entry) :
    (⟨name, front ++ rest⟩ : Agent).components
      = (⟨name, front⟩ : Agent).components ++ (⟨name, rest⟩ : Agent).components :=
  List.filterMap_append

-- ========================================================= the theorem

/-- Edits that change no pin of the components that are there. Entries that
declare no component can come and go, whatever their names: rendering comes
to the same, fault or not. A generic component without commands and with a
name of its own can be put anywhere: sketch and keymaps stay as they are,
and so do all other assignments. And what is put behind the entries of an
agent leaves their assignments and keymaps in front. -/
theorem wiring_survives_edits (generator : Generator) (agent : Agent) :
    (∀ entries, entries.filter Entry.isRecognised = agent.entries.filter Entry.isRecognised →
        generator.render ⟨agent.name, entries⟩ = generator.render agent)
      ∧ (∀ artifacts front rest (entry : Entry), generator.render agent = .ok artifacts →
          agent.entries = front ++ rest →
          entry.component? = some ⟨entry.name, .generic true⟩ → WellNamed entry.name →
          entry.name ∉ agent.components.map Component.name →
          ∃ served others, artifacts.assignments = served ++ others
            ∧ served.map Assignment.component = front.filterMap Entry.component?
            ∧ generator.render ⟨agent.name, front ++ entry :: rest⟩
              = .ok { artifacts with
                  assignments := served ++ .ignored entry.name :: others })
      ∧ ∀ artifacts more,
          generator.render ⟨agent.name, agent.entries ++ more⟩ = .ok artifacts →
          agent.components ≠ [] →
          ∃ before, generator.render agent = .ok before
            ∧ before.assignments <+: artifacts.assignments
            ∧ before.keymaps <+: artifacts.keymaps := by
  refine ⟨fun entries hsame => ?_, fun artifacts front rest entry hrender hentries hentry hname
    hfresh => ?_, fun artifacts more hrender hrecognised => ?_⟩
  · have hdiscover : (⟨agent.name, entries⟩ : Agent).discover = agent.discover :=
      discover_congr rfl hsame
    unfold Generator.render
    rw [hdiscover]
  · obtain ⟨-, hserved, assignments, cursors, hrun, rfl⟩ := render_eq_ok_iff.1 hrender
    have hcomponents : agent.components = front.filterMap Entry.component?
        ++ rest.filterMap Entry.component? := by
      unfold Agent.components
      rw [hentries, List.filterMap_append]
    have hinserted : (⟨agent.name, front ++ entry :: rest⟩ : Agent).components
        = front.filterMap Entry.component?
          ++ ⟨entry.name, .generic true⟩ :: rest.filterMap Entry.component? := by
      unfold Agent.components
      rw [List.filterMap_append, List.filterMap_cons_some hentry]
    rw [hcomponents] at hserved hrun hfresh
    obtain ⟨served, between, others, hfront, hrest, rfl⟩ := assign_append.1 hrun
    refine ⟨served, others, rfl, (assign_run hfront).1, render_eq_ok_iff.2 ?_⟩
    rw [hinserted]
    refine ⟨by simp, hserved.insert hname hfresh, _, cursors,
      assign_append.2 ⟨served, between, _, hfront, assign_generic entry.name true hrest, rfl⟩, ?_⟩
    unfold Generator.made Firmware.sketch
    rw [← Assignment.ignored, sketchLines_bare, keymapFiles_bare]
  · obtain ⟨-, hserved, assignments, cursors, hrun, rfl⟩ := render_eq_ok_iff.1 hrender
    rw [components_append] at hserved hrun
    obtain ⟨served, between, others, hfront, -, rfl⟩ := assign_append.1 hrun
    refine ⟨generator.made agent.name served,
      render_eq_ok_iff.2 ⟨hrecognised, hserved.front, served, between, hfront, rfl⟩,
      List.prefix_append served others, ?_⟩
    unfold Generator.made keymapFiles
    rw [List.filterMap_append]
    exact List.prefix_append ..

/-- Three edits of the robot with a component of every kind: two cameras, one
of them with the name of a switch, a second lamp behind the motor, and the
robot as it was when it had a motor and a switch only. -/
theorem wiring_survives_edits_rover :
    let cameras : List Entry :=
      [{ name := "9 lives", tag := "camera" }, { name := "S1", tag := "camera" }]
    let lamp : Entry := { name := "Flash", tag := "Generic", ignored := true }
    let early : Agent := ⟨"rover", rover.entries.take 2⟩
    ∃ generator, Generator.ofParts .uno {} = .ok generator
      ∧ generator.render ⟨"rover", cameras ++ rover.entries⟩ = .ok (roverArtifacts {})
      ∧ (∃ artifacts,
          generator.render ⟨"rover", rover.entries.take 1 ++ lamp :: rover.entries.drop 1⟩
              = .ok artifacts
            ∧ artifacts.sketch = (roverArtifacts {}).sketch
            ∧ artifacts.keymaps = (roverArtifacts {}).keymaps)
      ∧ ∃ before, generator.render early = .ok before
          ∧ before.assignments <+: roverAssignments := by
  intro cameras lamp early
  have haccepted := Firmware.default_accepted
  let generator : Generator := ⟨.uno, {}, haccepted⟩
  have hrender : generator.render rover = .ok (roverArtifacts {}) := render_rover rfl
  obtain ⟨hunknown, hbare, -⟩ := wiring_survives_edits generator rover
  obtain ⟨-, -, hbehind⟩ := wiring_survives_edits generator early
  refine ⟨generator, ofParts_accepted .uno haccepted, ?_, ?_, ?_⟩
  · rw [← hrender]
    exact hunknown _ (by decide +kernel)
  · obtain ⟨served, others, -, -, hmade⟩ := hbare _ (rover.entries.take 1) (rover.entries.drop 1)
      lamp hrender (by decide) (by decide +kernel) (wellNamed_iff.1 (by decide))
      (by decide +kernel)
    exact ⟨_, hmade, rfl, rfl⟩
  · obtain ⟨before, hmade, hassignments, -⟩ := hbehind _ (rover.entries.drop 2) hrender
      (by decide +kernel)
    exact ⟨before, hmade, hassignments⟩

end SerialEndpoint
