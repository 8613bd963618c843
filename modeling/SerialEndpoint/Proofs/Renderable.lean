/-
When rendering succeeds (`render_exactly`).

# The rules

Settings that were accepted make a generator (`ofSettings_checked`), and what
a generator makes of an agent is decided by the agent's components and the
pools alone: it renders if the components can be served together and the pools
have the pins that they need (`Renderable`), and else there is one fault that
it reports (`Refused`). The first component that cannot be served comes before
a pool that runs out, wherever in the agent the two are.

# How they are shown

- Rendering is discovery and then allocation, and either is decided
  (`discover_decides`, `allocate_decides`). What the two come to is what the
  rules say (`render_decides`).
- There is one fault at most to report (`Refused.unique`), and none where
  rendering succeeds (`Refused.not_renderable`). A list of components is empty
  or not, can be served or not, and the place where the pools run out is one
  place only (`Pools.RunsOut.unique`).

So both statements hold in both directions, though the code is only followed
in one.
-/
import SerialEndpoint.Proofs.Discovery
import SerialEndpoint.Proofs.Demands
import SerialEndpoint.Proofs.Rendering

namespace SerialEndpoint

-- ============================================================ the rules

/-- An agent that can be rendered with some pools. -/
structure Renderable (pools : Pools) (agent : Agent) : Prop where
  recognised : agent.components ≠ []
  servable : Servable agent.components
  covered : ∀ category, needed agent.components category ≤ (pools.pool category).length

/-- Why an agent cannot be rendered with some pools. -/
inductive Refused (pools : Pools) (agent : Agent) : GenerationFault → Prop where
  | component {fault : AgentFault} (h : FirstFault agent.components fault) :
      Refused pools agent (.agent fault)
  | unrecognised (h : agent.components = []) :
      Refused pools agent (.agent (.noComponents agent.name))
  | exhausted {category : Category} (hserved : Servable agent.components)
      (h : pools.RunsOut {} (wantsOf agent.components) category) :
      Refused pools agent (.exhausted ⟨category⟩)

section Refused

variable {pools : Pools} {agent : Agent} {fault fault' : GenerationFault}

theorem Pools.RunsOut.unique {cursors : Cursors} {wants : List Category}
    {category category' : Category} (h : pools.RunsOut cursors wants category)
    (h' : pools.RunsOut cursors wants category') : category = category' := by
  obtain ⟨front, rest, rfl, hcovered, hshort⟩ := h
  obtain ⟨front', rest', heq, hcovered', hshort'⟩ := h'
  exact (break_unique (fun _ _ => Pools.Covers.front _ _) heq hcovered hshort hcovered' hshort').2

theorem FirstFault.not_nil {fault : AgentFault} (h : FirstFault agent.components fault) :
    agent.components ≠ [] := by
  obtain ⟨before, c, after, heq, -, -⟩ := h
  rw [heq]
  exact List.append_ne_nil_of_right_ne_nil before (List.cons_ne_nil c after)

theorem Pools.RunsOut.not_nil {category : Category}
    (h : pools.RunsOut {} (wantsOf agent.components) category) : agent.components ≠ [] := by
  intro hnil
  rw [hnil] at h
  obtain ⟨front, rest, heq, -, -⟩ := h
  exact List.append_ne_nil_of_right_ne_nil front (List.cons_ne_nil category rest) heq.symm

/-- There is one fault at most to report. -/
theorem Refused.unique (h : Refused pools agent fault) (h' : Refused pools agent fault') :
    fault = fault' := by
  cases h with
  | component h =>
      cases h' with
      | component h' => rw [h.unique h']
      | unrecognised h' => exact absurd h' h.not_nil
      | exhausted hserved h' => exact absurd hserved h.not_servable
  | unrecognised h =>
      cases h' with
      | component h' => exact absurd h h'.not_nil
      | unrecognised h' => rfl
      | exhausted hserved h' => exact absurd h h'.not_nil
  | exhausted hserved h =>
      cases h' with
      | component h' => exact absurd hserved h'.not_servable
      | unrecognised h' => exact absurd h' h.not_nil
      | exhausted hserved h' => rw [h.unique h']

/-- And there is none for an agent that can be rendered. -/
theorem Refused.not_renderable (h : Refused pools agent fault) : ¬ Renderable pools agent := by
  intro hr
  cases h with
  | component h => exact h.not_servable hr.servable
  | unrecognised h => exact hr.recognised h
  | exhausted hserved h => exact h.short hr.covered

end Refused

-- =========================================================== rendering

/-- What rendering comes to. -/
theorem render_decides (generator : Generator) (agent : Agent) :
    match generator.render agent with
    | .ok artifacts => Renderable generator.pools agent ∧ artifacts.agent = agent.name
        ∧ artifacts.assignments.map Assignment.component = agent.components
    | .error fault => Refused generator.pools agent fault := by
  have hdiscovered := discover_decides agent
  unfold Generator.render
  cases hdiscover : agent.discover with
  | error fault =>
      rw [hdiscover] at hdiscovered
      rcases hdiscovered with hfirst | ⟨hnone, rfl⟩
      · exact .component hfirst
      · exact .unrecognised hnone
  | ok registry =>
      rw [hdiscover] at hdiscovered
      obtain ⟨rfl, hrecognised, hserved⟩ := hdiscovered
      have hallocated := allocate_decides generator.pools agent.components
      dsimp only
      cases hallocate : generator.pools.allocate agent.components with
      | error fault =>
          rw [hallocate] at hallocated
          exact .exhausted hserved hallocated
      | ok allocation =>
          rw [hallocate] at hallocated
          exact ⟨⟨hrecognised, hserved, hallocated⟩, rfl, (allocate_granted hallocate).1⟩

/-- Settings that were accepted make a generator of their own parts. -/
theorem ofSettings_checked {settings : Settings} (h : settings.check = .ok ()) :
    ∃ generator, Generator.ofSettings settings = .ok generator
      ∧ settings.board.pools = .ok generator.pools
      ∧ generator.firmware = settings.firmware := by
  unfold Settings.check Settings.refusal? at h
  cases hfirmware : settings.firmware.refusal? with
  | some refusal =>
      rw [hfirmware] at h
      cases h
  | none =>
      rw [hfirmware] at h
      by_cases hbaud : settings.serial.baud = 0
      · rw [if_pos hbaud] at h
        cases h
      · rw [if_neg hbaud] at h
        cases hpools : settings.board.pools with
        | error fault =>
            rw [hpools] at h
            cases h
        | ok pools =>
            refine ⟨⟨pools, settings.firmware, hfirmware⟩, ?_, rfl, rfl⟩
            unfold Generator.ofSettings Generator.ofBoard
            rw [hpools]
            exact ofParts_accepted pools hfirmware

/-- Settings that were accepted make a generator, and it renders just the
agents that can be rendered with the pools of the board: it serves their
components in the order of declaration, as they were declared. For any
other agent it reports the one fault that there is to report. -/
theorem render_exactly {settings : Settings} (hchecked : settings.check = .ok ())
    (agent : Agent) :
    ∃ generator, Generator.ofSettings settings = .ok generator
      ∧ settings.board.pools = .ok generator.pools
      ∧ ((∃ artifacts, generator.render agent = .ok artifacts)
          ↔ Renderable generator.pools agent)
      ∧ (∀ artifacts, generator.render agent = .ok artifacts →
          artifacts.assignments.map Assignment.component = agent.components)
      ∧ ∀ fault, generator.render agent = .error fault
          ↔ Refused generator.pools agent fault := by
  obtain ⟨generator, hgenerator, hpools, -⟩ := ofSettings_checked hchecked
  have hdecided := render_decides generator agent
  refine ⟨generator, hgenerator, hpools, ?_⟩
  cases hrender : generator.render agent with
  | ok artifacts =>
      rw [hrender] at hdecided
      obtain ⟨hrenderable, -, hcomponents⟩ := hdecided
      refine ⟨⟨fun _ => hrenderable, fun _ => ⟨artifacts, rfl⟩⟩, ?_, fun fault => ⟨?_, fun h => ?_⟩⟩
      · rintro _ ⟨⟩
        exact hcomponents
      · rintro ⟨⟩
      · exact absurd hrenderable h.not_renderable
  | error fault =>
      rw [hrender] at hdecided
      refine ⟨⟨?_, fun h => absurd h hdecided.not_renderable⟩, ?_, fun other => ⟨?_, fun h => ?_⟩⟩
      · rintro ⟨_, ⟨⟩⟩
      · rintro _ ⟨⟩
      · rintro ⟨⟩
        exact hdecided
      · rw [hdecided.unique h]

/-- Five motors on the small board, which has four PWM pins. Where a switch
behind them has a name that no component may have, that is reported, though
the motors come first and another switch has the name of a motor. -/
theorem render_exactly_uno :
    let settings : Settings := { board := { target := .uno } }
    let motors : List Entry := ["A", "B", "C", "D", "E"].map fun name => .motor name true false
    let camera : Entry := { name := "9 lives", tag := "camera" }
    let misnamed : Agent := ⟨"rover", camera :: motors ++ [.switch "9lives", .switch "A"]⟩
    let greedy : Agent := ⟨"rover", camera :: motors⟩
    settings.check = .ok () ∧ ∃ generator, Generator.ofSettings settings = .ok generator
      ∧ (∃ artifacts, generator.render rover = .ok artifacts)
      ∧ generator.render misnamed = .error (.agent (.invalidName "9lives"))
      ∧ generator.render greedy = .error (.exhausted ⟨.pwm⟩) := by
  intro settings motors camera misnamed greedy
  have hchecked : settings.check = .ok () := by decide +kernel
  obtain ⟨generator, hgenerator, hpools, hrover, -⟩ := render_exactly hchecked rover
  obtain ⟨_, hsame, -, -, -, hmisnamed⟩ := render_exactly hchecked misnamed
  cases hgenerator.symm.trans hsame
  obtain ⟨_, hsame, -, -, -, hgreedy⟩ := render_exactly hchecked greedy
  cases hgenerator.symm.trans hsame
  have huno : generator.pools = .uno := (Except.ok.inj hpools).symm
  rw [huno] at hrover hmisnamed hgreedy
  let served : List Component :=
    ["A", "B", "C", "D", "E"].map fun name => ⟨name, .motor true false⟩
  have hservable : Servable served :=
    ⟨fun c hc => wellNamed_iff.1
      ((by decide : ∀ c ∈ served, isComponentName c.name = true) c hc), by decide⟩
  refine ⟨hchecked, generator, hgenerator, hrover.2 ⟨?_, ⟨?_, ?_⟩, ?_⟩, (hmisnamed _).2 ?_,
    (hgreedy _).2 ?_⟩
  · decide +kernel
  · intro c hc
    exact wellNamed_iff.1
      ((by decide +kernel : ∀ c ∈ rover.components, isComponentName c.name = true) c hc)
  · decide +kernel
  · intro category
    cases category <;> decide +kernel
  · have hsplit : misnamed.components
        = served ++ ⟨"9lives", .switch⟩ :: [⟨"A", .switch⟩] := by decide +kernel
    refine .component ⟨_, _, _, hsplit, hservable, .name fun hname => ?_⟩
    exact absurd (wellNamed_iff.2 hname) (by decide)
  · have hcomponents : greedy.components = served := by decide +kernel
    let front : List Category := ["A", "B", "C", "D"].flatMap fun _ => [.pwm, .digital]
    refine .exhausted (hcomponents ▸ hservable)
      ⟨front, [.digital], by decide +kernel, fun category => ?_, fun hcovered => ?_⟩
    · cases category <;> decide
    · exact absurd (hcovered .pwm) (by decide)

end SerialEndpoint
