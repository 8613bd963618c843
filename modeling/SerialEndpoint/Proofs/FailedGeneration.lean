/-
Generations that fail (`failed_generation`).

# What is left behind

Nothing is touched before everything is rendered and every file is staged, so
a fault up to there leaves the directory as it was. What may still fail
afterwards is a name that is too long for a file, and the listing of a
directory that was given by the empty name; by then the sketch is a new one.
This is said by `Torn`, which speaks only of what is there before the
generation begins: the settings and the agent, the entries, and the faults
that staging would meet. So it can be told beforehand which it will be.

# How a generation ends

Into a directory that is there, writing is replacing files in it
(`writeTo_there`), and a generation ends as that does (`generate_ok`,
`generate_error`). So there are these cases:

- the agent cannot be rendered: nothing is written;
- staging meets a fault: nothing is replaced (`untouched_of_unstaged`);
- a name is too long: the files before it are replaced
  (`replaced_up_to_long_name`). The sketch is the first of the files and its
  own name is not too long, so it is always one of them (`lookup_sketch`);
- the directory cannot be listed: all files are replaced. With no name too
  long this is the same set, so both cases have one statement (`torn_runs`);
- none of these: the generation does not fail (`done_of_staged`).

No temporary is left in any of them: a step that fails takes back what it
staged, and so does every step before it.

# The sketch that is lost

The name of a component has no bound, while the name of its keymap's file
does. A switch with a name long enough leaves a new sketch in the place of the
old one, and the generation fails (`long_name_replaces_sketch`).
-/
import SerialEndpoint.Proofs.Agreement
import SerialEndpoint.Proofs.Storage.Disk
import SerialEndpoint.Proofs.Utf8

namespace SerialEndpoint

open Folder (File)

-- ============================================================== writing

/-- The fault of a name that is too long for a file. -/
def tooLong? (name : String) : Option Fault :=
  if isTooLong name then some Fault.nameTooLong else none

/-- The directory at a path is there, with these entries. -/
structure FileTree.Found (tree : FileTree) (dir : String) (location : List String)
    (entries : Directory) : Prop where
  folder : tree.folder dir = .ok (location, entries)
  there : tree.find? location = some (.directory entries)

/-- The files for an agent, as they are written. -/
def Artifacts.output (artifacts : Artifacts) : List File :=
  artifacts.files.map fun file => (file.1, Utf8.encode file.2)

/-- What generating into a directory on a disk comes to. -/
def Generator.generateOn {refused : String → Option Fault} (generator : Generator)
    (agent : Agent) (dir : String) (disk : Disk refused FileTree) :
    EStateM.Result Fault (Disk refused FileTree) (Except GenerationFault Artifacts) :=
  (generator.generate agent dir :
    ExceptT GenerationFault (EStateM Fault (Disk refused FileTree)) Artifacts).run.run disk

section

variable {refused : String → Option Fault} {disk : Disk refused FileTree} {dir : String}
  {location : List String} {entries : Directory} {artifacts : Artifacts}

/-- Writing into a directory that is there is replacing files in it. -/
theorem writeTo_there (hfound : disk.place.Found dir location entries) :
    (artifacts.writeTo dir : EStateM Fault (Disk refused FileTree) (List String)).run disk
      = (Disk.replace dir artifacts.output artifacts.isStale).run disk := by
  refine run_bind_ok (makeDirectories_there .alreadyExists (fun hne => ?_) fun hne => ?_)
  · have htaken := FileTree.makeDirectory_taken
      (FileTree.resolve_of_folder hne hfound.folder)
    change Disk.makeDirectory dir disk = _
    unfold Disk.makeDirectory
    rw [htaken]
  · show EStateM.Result.ok (disk.place.isDirectory dir) disk = _
    unfold FileTree.isDirectory
    rw [FileTree.resolve_of_folder hne hfound.folder]
    rfl

variable {generator : Generator} {agent : Agent} {after : Disk refused Directory}

/-- A generation ends as the replacing of its files does. -/
theorem generate_ok {places : List String}
    (hrender : generator.render agent = .ok artifacts)
    (hfound : disk.place.Found dir location entries)
    (h : (Folder.replace (m := Disk.Step refused) dir artifacts.output artifacts.isStale).run
      ⟨entries, disk.drafts, disk.stagings⟩ = .ok places after) :
    generator.generateOn agent dir disk
      = .ok (.ok artifacts) (.within disk.place location after) :=
  Generator.generate_written hrender
    ((writeTo_there hfound).trans (Disk.replace_ok hfound.folder h))

theorem generate_error {fault : Fault}
    (hrender : generator.render agent = .ok artifacts)
    (hfound : disk.place.Found dir location entries)
    (h : (Folder.replace (m := Disk.Step refused) dir artifacts.output artifacts.isStale).run
      ⟨entries, disk.drafts, disk.stagings⟩ = .error fault after) :
    generator.generateOn agent dir disk
      = .ok (.error (.file fault)) (.within disk.place location after) :=
  Generator.generate_unwritten hrender
    ((writeTo_there hfound).trans (Disk.replace_error hfound.folder h))

end

-- ============================================================== failing

/-- A generation that stops between its files: everything is rendered and
staged, but a name is too long, or the directory was given by the empty name
and cannot be listed. -/
structure Torn (generator : Generator) (agent : Agent) (dir : String) (entries : Directory)
    (stagings : List (Option Fault)) (artifacts : Artifacts) : Prop where
  rendered : generator.render agent = .ok artifacts
  staged : Disk.stagingFault? dir entries artifacts.output stagings = none
  stuck : (∃ file ∈ artifacts.keymaps, isTooLong file.fileName = true) ∨ dir = ""

/-- The sketch has a name that no keymap has. -/
theorem keymapFileName_ne_sketch (a : Assignment) : a.keymapFileName ≠ sketchFileName := by
  intro h
  have hends : keymapFileEnd.toList.getLast? = sketchFileName.toList.getLast? := by
    rw [← h]
    unfold Assignment.keymapFileName
    rw [String.toList_append, List.getLast?_append]
    rfl
  exact absurd hends (by decide)

theorem fileName_ne_sketch {generator : Generator} {artifacts : Artifacts}
    (hr : Rendered generator artifacts) : ∀ file ∈ artifacts.keymaps,
      file.fileName ≠ sketchFileName := by
  intro file hfile
  rw [hr.keymaps_eq] at hfile
  obtain ⟨a, -, hmade⟩ := List.mem_filterMap.1 hfile
  unfold Assignment.keymapFile? at hmade
  split at hmade
  · cases hmade
  · cases hmade
    exact keymapFileName_ne_sketch a

theorem output_eq (artifacts : Artifacts) : artifacts.output
    = (sketchFileName, Utf8.encode artifacts.sketch)
      :: artifacts.keymaps.map fun file => (file.fileName, Utf8.encode file.keymap.json) := by
  unfold Artifacts.output Artifacts.files
  rw [List.map_cons, List.map_map]
  rfl

/-- If the name of a file is too long, it is that of a keymap. -/
theorem findSome?_tooLong (artifacts : Artifacts) :
    (artifacts.output.findSome? fun file => tooLong? file.1) = none
      ↔ ¬ ∃ file ∈ artifacts.keymaps, isTooLong file.fileName = true := by
  have hsketch : tooLong? sketchFileName = none := by decide
  have hnone : ∀ name, tooLong? name = none ↔ ¬ isTooLong name = true := by
    intro name
    unfold tooLong?
    split <;> simp_all
  rw [output_eq, List.findSome?_cons, hsketch]
  dsimp only
  rw [List.findSome?_map, List.findSome?_eq_none_iff, not_exists]
  refine forall_congr' fun file => ?_
  rw [not_and]
  exact imp_congr_right fun _ => hnone file.fileName

/-- After the files up to a name that is too long, the sketch is the new
one. -/
theorem lookup_sketch {generator : Generator} {artifacts : Artifacts}
    (hr : Rendered generator artifacts) (entries : Directory) :
    (entries.putAll (Disk.accepted tooLong? artifacts.output)).lookup sketchFileName
      = some (.file (Utf8.encode artifacts.sketch)) := by
  have hfirst : (tooLong? sketchFileName).isNone = true := by decide
  unfold Disk.accepted
  rw [output_eq, List.takeWhile_cons, if_pos hfirst, Directory.putAll_cons,
    Directory.lookup_putAll, Directory.lookup_put, if_pos rfl]
  intro file hfile
  obtain ⟨keymap, hkeymap, rfl⟩ := List.mem_map.1 ((List.takeWhile_prefix _).subset hfile)
  exact fileName_ne_sketch hr keymap hkeymap

section

variable {generator : Generator} {agent : Agent} {artifacts : Artifacts} {dir : String}
  {disk after : Disk tooLong? FileTree} {location : List String} {entries : Directory}
  {fault : GenerationFault}

/-- A generation does nothing before everything is staged. -/
theorem untouched_of_unstaged (hrender : generator.render agent = .ok artifacts)
    (hfound : disk.place.Found dir location entries) {met : Fault}
    (hstaging : Disk.stagingFault? dir entries artifacts.output disk.stagings = some met) :
    ∃ left, generator.generateOn agent dir disk
      = .ok (.error (.file met)) { disk with stagings := left } := by
  obtain ⟨left, -, hreplaced⟩ := Disk.replace_unstaged artifacts.isStale
    (⟨entries, disk.drafts, disk.stagings⟩ : Disk tooLong? Directory) hstaging
  refine ⟨left, (generate_error hrender hfound hreplaced).trans ?_⟩
  unfold Disk.within
  rw [FileTree.withFolder_self hfound.there]

/-- A name that is too long is met when the files before it are replaced. -/
theorem replaced_up_to_long_name (hrender : generator.render agent = .ok artifacts)
    (hfound : disk.place.Found dir location entries)
    (hstaged : Disk.stagingFault? dir entries artifacts.output disk.stagings = none) {met : Fault}
    (hname : (artifacts.output.findSome? fun file => tooLong? file.1) = some met) :
    ∃ left, generator.generateOn agent dir disk
      = .ok (.error (.file met)) ⟨disk.place.withFolder location
          (entries.putAll (Disk.accepted tooLong? artifacts.output)), disk.drafts, left⟩ :=
  ⟨_, generate_error hrender hfound (Disk.replace_refused artifacts.isStale
    (⟨entries, disk.drafts, disk.stagings⟩ : Disk tooLong? Directory) hstaged hname)⟩

/-- A generation that is torn fails, and leaves the files up to the first
name that is too long. -/
theorem torn_runs (hfound : disk.place.Found dir location entries)
    (htorn : Torn generator agent dir entries disk.stagings artifacts) :
    ∃ met left, generator.generateOn agent dir disk
      = .ok (.error (.file met)) ⟨disk.place.withFolder location
          (entries.putAll (Disk.accepted tooLong? artifacts.output)), disk.drafts, left⟩ := by
  cases hname : artifacts.output.findSome? fun file => tooLong? file.1 with
  | some met => exact ⟨met, replaced_up_to_long_name htorn.rendered hfound htorn.staged hname⟩
  | none =>
      have hempty : dir = "" :=
        htorn.stuck.resolve_left ((findSome?_tooLong artifacts).1 hname)
      have hreplaced := Disk.replace_runs artifacts.isStale
        (⟨entries, disk.drafts, disk.stagings⟩ : Disk tooLong? Directory) htorn.staged hname
      rw [if_pos hempty] at hreplaced
      refine ⟨Fault.notFound, disk.stagings.drop artifacts.output.length,
        (generate_error htorn.rendered hfound hreplaced).trans ?_⟩
      rw [Disk.accepted_all hname]
      rfl

/-- What is staged and not torn does not fail. -/
theorem done_of_staged (hrender : generator.render agent = .ok artifacts)
    (hfound : disk.place.Found dir location entries)
    (hstaged : Disk.stagingFault? dir entries artifacts.output disk.stagings = none)
    (hfree : ¬ Torn generator agent dir entries disk.stagings artifacts) :
    ∃ after, generator.generateOn agent dir disk
      = .ok (.ok artifacts) after := by
  have hshort : ¬ ∃ file ∈ artifacts.keymaps, isTooLong file.fileName = true :=
    fun hlong => hfree ⟨hrender, hstaged, .inl hlong⟩
  have hnamed : dir ≠ "" := fun hempty => hfree ⟨hrender, hstaged, .inr hempty⟩
  have hreplaced := Disk.replace_runs artifacts.isStale
    (⟨entries, disk.drafts, disk.stagings⟩ : Disk tooLong? Directory) hstaged
    ((findSome?_tooLong artifacts).2 hshort)
  rw [if_neg hnamed] at hreplaced
  exact ⟨_, generate_ok hrender hfound hreplaced⟩

/-- What is not torn fails before anything is replaced. -/
theorem untouched_of_not_torn (hfound : disk.place.Found dir location entries)
    (hnot : ¬ ∃ artifacts, Torn generator agent dir entries disk.stagings artifacts)
    (hfailed : generator.generateOn agent dir disk = .ok (.error fault) after) :
    ∃ left, after = { disk with stagings := left } := by
  cases hrender : generator.render agent with
  | error fault =>
      cases hfailed.symm.trans (Generator.generate_unrendered hrender)
      exact ⟨disk.stagings, rfl⟩
  | ok artifacts =>
      cases hstaging : Disk.stagingFault? dir entries artifacts.output disk.stagings with
      | some met =>
          obtain ⟨left, hruns⟩ := untouched_of_unstaged hrender hfound hstaging
          cases hfailed.symm.trans hruns
          exact ⟨left, rfl⟩
      | none =>
          obtain ⟨done, hruns⟩ := done_of_staged hrender hfound hstaging
            fun htorn => hnot ⟨artifacts, htorn⟩
          cases hfailed.symm.trans hruns

/-- A failed generation leaves no temporary, and unless it is torn it leaves
the directory as it was. If it is torn, the files up to the first name that
is too long are the new ones, and the sketch is one of them. -/
theorem failed_generation (hfound : disk.place.Found dir location entries)
    (hfailed : generator.generateOn agent dir disk = .ok (.error fault) after) :
    after.drafts = disk.drafts
      ∧ ((¬ ∃ artifacts, Torn generator agent dir entries disk.stagings artifacts) →
          after.place = disk.place)
      ∧ ∀ artifacts, Torn generator agent dir entries disk.stagings artifacts →
          after.place = disk.place.withFolder location
              (entries.putAll (Disk.accepted tooLong? artifacts.output))
            ∧ ∃ left, after.place.find? location = some (.directory left)
              ∧ left.lookup sketchFileName = some (.file (Utf8.encode artifacts.sketch)) := by
  by_cases htorn : ∃ artifacts, Torn generator agent dir entries disk.stagings artifacts
  · obtain ⟨artifacts, htorn⟩ := htorn
    obtain ⟨met, left, hruns⟩ := torn_runs hfound htorn
    cases hfailed.symm.trans hruns
    refine ⟨rfl, fun hnot => absurd ⟨artifacts, htorn⟩ hnot, fun other hother => ?_⟩
    cases htorn.rendered.symm.trans hother.rendered
    exact ⟨rfl, _, FileTree.find?_withFolder hfound.there _,
      lookup_sketch (rendered_of_render htorn.rendered) entries⟩
  · obtain ⟨left, rfl⟩ := untouched_of_not_torn hfound htorn hfailed
    exact ⟨rfl, fun _ => rfl, fun artifacts hother => absurd ⟨artifacts, hother⟩ htorn⟩

end

-- ============================================================= examples

/-- What a directory with nothing but an old sketch holds. -/
def oldEntries : Directory := [(sketchFileName, .file (Utf8.encode "old"))]

/-- A disk with nothing but that directory. -/
def oldDisk (stagings : List (Option Fault)) : Disk tooLong? FileTree :=
  ⟨{ root := [("out", .directory oldEntries)] }, 0, stagings⟩

theorem oldDisk_found (stagings : List (Option Fault)) :
    (oldDisk stagings).place.Found "out" ["out"] oldEntries :=
  ⟨rfl, rfl⟩

/-- A disk that is full when the first keymap is staged: the old sketch
stays, and the temporary for the new one is gone. -/
theorem failed_generation_full :
    let full : Fault := ⟨.other "StorageFull", "No space left on device (os error 28)"⟩
    ∃ generator after, Generator.ofParts .uno {} = .ok generator
      ∧ generator.generateOn rover "out" (oldDisk [none, some full])
          = .ok (.error (.file full)) after
      ∧ after.place = (oldDisk []).place ∧ after.drafts = 0 := by
  intro full
  have haccepted := Firmware.default_accepted
  have hrender : Generator.render ⟨.uno, {}, haccepted⟩ rover
      = .ok (roverArtifacts {}) := render_rover rfl
  have hfound := oldDisk_found [none, some full]
  have hstaging : Disk.stagingFault? "out" oldEntries
      (roverArtifacts {}).output [none, some full] = some full := by
    rw [output_eq]
    rfl
  obtain ⟨left, hfailed⟩ := untouched_of_unstaged hrender hfound hstaging
  obtain ⟨hdrafts, hplace, -⟩ := failed_generation hfound hfailed
  have hnot : ¬ ∃ artifacts, Torn ⟨.uno, {}, haccepted⟩ rover "out"
      oldEntries [none, some full] artifacts := by
    rintro ⟨artifacts, htorn⟩
    cases hrender.symm.trans htorn.rendered
    cases hstaging.symm.trans htorn.staged
  refine ⟨_, _, ofParts_accepted .uno haccepted, hfailed, ?_, ?_⟩
  · exact hplace hnot
  · exact hdrafts

/-- What is made on the small board for a robot with one switch. -/
def switchArtifacts (name : String) : Artifacts :=
  let assignments : List Assignment := [⟨⟨name, .switch⟩, .switch ⟨.digital, 2⟩⟩]
  { agent := "rover"
    assignments
    sketch := ({} : Firmware).sketch assignments
    keymaps := keymapFiles assignments }

theorem render_switch {generator : Generator} {name : String} (hpools : generator.pools = .uno)
    (hfirmware : generator.firmware = {}) (hname : isComponentName name = true) :
    generator.render ⟨"rover", [.switch name]⟩ = .ok (switchArtifacts name) := by
  have hdiscover : (⟨"rover", [.switch name]⟩ : Agent).discover
      = .ok ⟨"rover", [⟨name, .switch⟩]⟩ := by
    have hkind : (Entry.switch name).kind? = some .switch := by
      have htag : String.ofList ("switch".toList.map Char.toLower) = "switch" := by decide
      unfold Entry.kind? Entry.switch
      dsimp only
      rw [htag]
      decide
    unfold Agent.discover discoverEntries
    rw [hkind]
    dsimp only
    rw [show (Entry.switch name).name = name from rfl, hname]
    rfl
  obtain ⟨cursors, hallocate⟩ : ∃ cursors, Pools.uno.allocate [⟨name, .switch⟩]
      = .ok ⟨[⟨⟨name, .switch⟩, .switch ⟨.digital, 2⟩⟩], cursors⟩ := ⟨_, rfl⟩
  unfold Generator.render
  rw [hdiscover]
  dsimp only
  rw [hpools, hfirmware, hallocate]
  rfl

/-- A name that makes the name of its switch's keymap one byte too long. -/
def longName : String := String.ofList ('a' :: List.replicate 236 'a')

theorem longName_valid : isComponentName longName = true := by
  have hletter : IsLetter 'a' := .inr (.inl (by decide))
  refine wellNamed_iff.2 ⟨_, _, String.toList_ofList, hletter, fun c hc => .inl ?_⟩
  rw [List.eq_of_mem_replicate hc]
  exact hletter

theorem longName_met : ((switchArtifacts longName).output.findSome? fun file => tooLong? file.1)
    = some .nameTooLong := by
  have hsketch : tooLong? sketchFileName = none := by decide
  have hkeymap : tooLong? (Assignment.keymapFileName ⟨⟨longName, .switch⟩, .switch ⟨.digital, 2⟩⟩)
      = some .nameTooLong := by decide +kernel
  rw [output_eq, List.findSome?_cons, hsketch]
  dsimp only
  refine List.findSome?_cons.trans ?_
  dsimp only
  rw [hkeymap]

/-- No sketch with commands is the old one, in which there are none. -/
theorem sketch_ne_old {generator : Generator} {agent : Agent} {artifacts : Artifacts}
    (hrender : generator.render agent = .ok artifacts)
    (hcommands : commandTable artifacts.assignments ≠ []) :
    Utf8.encode artifacts.sketch ≠ Utf8.encode "old" := by
  intro h
  have hr := rendered_of_render hrender
  have htexts : commandTexts artifacts.sketch = commandTexts "old" :=
    congrArg commandTexts (Utf8.encode_injective h)
  have hold : commandTexts "old" = [] := by decide +kernel
  rw [hold, hr.sketch_eq, Firmware.commandTexts_sketch generator.accepted hr.served.named,
    List.map_eq_nil_iff] at htexts
  exact hcommands htexts

/-- The old sketch is gone when the generation for such a switch fails. -/
theorem long_name_replaces_sketch :
    ∃ generator after left, Generator.ofParts .uno {} = .ok generator
      ∧ generator.render ⟨"rover", [.switch longName]⟩ = .ok (switchArtifacts longName)
      ∧ generator.generateOn ⟨"rover", [.switch longName]⟩ "out" (oldDisk [])
          = .ok (.error (.file .nameTooLong)) after
      ∧ after.place.find? ["out"] = some (.directory left)
      ∧ left.lookup sketchFileName = some (.file (Utf8.encode (switchArtifacts longName).sketch))
      ∧ Utf8.encode (switchArtifacts longName).sketch ≠ Utf8.encode "old" := by
  have haccepted := Firmware.default_accepted
  have hmade := ofParts_accepted .uno haccepted
  have hrender : Generator.render ⟨.uno, {}, haccepted⟩ ⟨"rover", [.switch longName]⟩
      = .ok (switchArtifacts longName) := render_switch rfl rfl longName_valid
  have hcommands : commandTable (switchArtifacts longName).assignments ≠ [] :=
    List.cons_ne_nil _ _
  have hstaged : Disk.stagingFault? "out" oldEntries (switchArtifacts longName).output [] = none := by
    refine Disk.stagingFault?_eq_none_iff.2 fun file _ => ?_
    unfold oldEntries
    rw [List.lookup_cons]
    cases file.1 == sketchFileName <;> rfl
  have hfound := oldDisk_found []
  obtain ⟨left, hruns⟩ := replaced_up_to_long_name hrender hfound hstaged longName_met
  exact ⟨_, _, _, hmade, hrender, hruns, FileTree.find?_withFolder hfound.there _,
    lookup_sketch (rendered_of_render hrender) _, sketch_ne_old hrender hcommands⟩

end SerialEndpoint
