/-
Steps on a state, run. A step that meets a fault leaves behind the state in
which it met it, so a run is told by one rule for each way that its first step
may end: it goes on from the state that the step left, or it ends there, or a
handler takes over from there.

The rules for generating are the same with its own steps in place: what cannot
be rendered is not written, and what was rendered ends as its writing does.
-/
import SerialEndpoint.Generation.Output

namespace SerialEndpoint

variable {σ α β : Type} {s s' : σ} {fault : Fault}

-- =============================================================== steps

section

variable {step : EStateM Fault σ α}

theorem run_bind_ok {next : α → EStateM Fault σ β} {a : α} (h : step.run s = .ok a s') :
    (step >>= next).run s = (next a).run s' := by
  change EStateM.bind step next s = _
  unfold EStateM.bind
  rw [show step s = .ok a s' from h]
  rfl

theorem run_bind_error {next : α → EStateM Fault σ β} (h : step.run s = .error fault s') :
    (step >>= next).run s = .error fault s' := by
  change EStateM.bind step next s = _
  unfold EStateM.bind
  rw [show step s = .error fault s' from h]

theorem run_catch_ok {handle : Fault → EStateM Fault σ α} {a : α} (h : step.run s = .ok a s') :
    (tryCatchThe Fault step handle).run s = .ok a s' := by
  change EStateM.tryCatch step handle s = _
  unfold EStateM.tryCatch
  rw [show step s = .ok a s' from h]

theorem run_catch_error {handle : Fault → EStateM Fault σ α}
    (h : step.run s = .error fault s') :
    (tryCatchThe Fault step handle).run s = (handle fault).run s' := by
  change EStateM.tryCatch step handle s = _
  unfold EStateM.tryCatch
  rw [show step s = .error fault s' from h]
  rfl

variable {ε : Type} (cause : Fault → ε)

theorem run_reporting_ok {a : α} (h : step.run s = .ok a s') :
    (Storage.reporting cause step).run.run s = .ok (.ok a) s' :=
  run_catch_ok (run_bind_ok h)

theorem run_reporting_error (h : step.run s = .error fault s') :
    (Storage.reporting cause step).run.run s = .ok (.error (cause fault)) s' :=
  run_catch_error (run_bind_error h)

end

-- ========================================================= directories

variable [Storage (EStateM Fault σ)]

/-- Nothing is made where there is a directory. -/
theorem makeDirectories_there {path : String} {fuel : Nat} (fault : Fault)
    (hmake : path ≠ "" →
      (Storage.makeDirectory path : EStateM Fault σ Unit).run s = .error fault s)
    (hthere : path ≠ "" → (Storage.isDirectory path : EStateM Fault σ Bool).run s = .ok true s) :
    (Storage.makeDirectories (fuel + 1) path : EStateM Fault σ Unit).run s = .ok () s := by
  unfold Storage.makeDirectories
  by_cases hempty : path = ""
  · rw [if_pos hempty]
    rfl
  · rw [if_neg hempty]
    have hensured : (Storage.ensureDirectory path : EStateM Fault σ Unit).run s = .ok () s :=
      (run_catch_error (hmake hempty)).trans (run_bind_ok (hthere hempty))
    exact run_catch_ok hensured

-- ========================================================== generation

namespace Generator

variable {generator : Generator} {agent : Agent} {artifacts : Artifacts} {dir : String}

/-- What cannot be rendered is not written. -/
theorem generate_unrendered {fault : GenerationFault}
    (hrender : generator.render agent = .error fault) :
    (generator.generate agent dir :
      ExceptT GenerationFault (EStateM Fault σ) Artifacts).run.run s = .ok (.error fault) s := by
  unfold generate
  rw [hrender]
  rfl

/-- What was rendered is written. -/
theorem generate_written {places : List String}
    (hrender : generator.render agent = .ok artifacts)
    (hwrite : (artifacts.writeTo dir : EStateM Fault σ (List String)).run s = .ok places s') :
    (generator.generate agent dir :
      ExceptT GenerationFault (EStateM Fault σ) Artifacts).run.run s = .ok (.ok artifacts) s' := by
  unfold generate
  rw [hrender]
  exact run_bind_ok (run_reporting_ok GenerationFault.file hwrite)

/-- A fault of writing is told as a fault of generating. -/
theorem generate_unwritten (hrender : generator.render agent = .ok artifacts)
    (hwrite : (artifacts.writeTo dir : EStateM Fault σ (List String)).run s = .error fault s') :
    (generator.generate agent dir :
      ExceptT GenerationFault (EStateM Fault σ) Artifacts).run.run s
      = .ok (.error (.file fault)) s' := by
  unfold generate
  rw [hrender]
  exact run_bind_ok (run_reporting_error GenerationFault.file hwrite)

end Generator

end SerialEndpoint
