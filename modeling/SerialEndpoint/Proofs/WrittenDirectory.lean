/-
What writing leaves in a directory. On a disk where nothing fails but writing
over a directory, the files for an agent are written just if none of them has
the name of a directory, and else nothing is touched (`written_exactly`).

# What is there afterwards

The directory comes from three loops over two sets of names, the files that
are written and the files that are stale. `Written` says what has become of
each name, whatever the loops did: the new files are there, the old keymap
files are gone, the rest is kept and nothing was added. It is shown from two
descriptions of the same directory:

- as what a look-up of each name gives (`lookup_rewritten`,
  `lookup_rewritten_target`), for all parts of `Written` but the last;
- as a filter of what was put in (`rewritten_eq`), for the last one, that no
  name is taken twice, and for writing again.

The names of the two sets do not meet: the clean-up takes away no file that
was just written, since none of these is stale (`Artifacts.isStale_target`).
So what was put in is still there behind the clean-up, in whichever order the
files came.

# Writing again

Putting files that are there changes nothing, and what is left to the clean-up
was already cleared, so the second time the directory stays as it is
(`rewritten_again`). The path still leads to it, because no directory in it
was taken away.

# Where a name is a directory's

Staging looks at each name before anything is replaced, so a directory under
one of them is met while nothing is touched (`writeOn_taken`).
-/
import SerialEndpoint.Proofs.FailedGeneration

namespace SerialEndpoint

-- ============================================================= the names

namespace Artifacts

/-- The names of the files for an agent. -/
def targets (artifacts : Artifacts) : List String := artifacts.output.map Prod.fst

variable {artifacts : Artifacts} {name : String}

theorem targets_eq (artifacts : Artifacts) :
    artifacts.targets = sketchFileName :: artifacts.keymaps.map KeymapFile.fileName := by
  unfold targets
  rw [output_eq, List.map_cons, List.map_map]
  rfl

theorem sketch_mem_output (artifacts : Artifacts) :
    (sketchFileName, Utf8.encode artifacts.sketch) ∈ artifacts.output := by
  rw [output_eq]
  exact List.mem_cons_self ..

/-- No two of them are the same. -/
theorem targets_nodup {generator : Generator} (hr : Rendered generator artifacts) :
    artifacts.targets.Nodup := by
  rw [targets_eq]
  refine List.nodup_cons.2 ⟨fun hmem => ?_, ?_⟩
  · obtain ⟨file, hfile, heq⟩ := List.mem_map.1 hmem
    exact fileName_ne_sketch hr file hfile heq
  · rw [hr.keymaps_eq]
    exact fileNames_nodup hr.served.distinct

/-- None of them is stale. -/
theorem isStale_target (h : name ∈ artifacts.targets) : artifacts.isStale name = false := by
  rw [targets_eq] at h
  unfold isStale
  rcases List.mem_cons.1 h with rfl | h
  · rw [show keymapFileEnd.toList.isSuffixOf sketchFileName.toList = false by decide,
      Bool.false_and]
  · obtain ⟨file, hfile, heq⟩ := List.mem_map.1 h
    rw [List.any_eq_true.2 ⟨file, hfile, decide_eq_true heq⟩, Bool.not_true, Bool.and_false]

/-- Any other name is, if it is that of a keymap file. -/
theorem isStale_other (h : name ∉ artifacts.targets) :
    artifacts.isStale name = keymapFileEnd.toList.isSuffixOf name.toList := by
  have hnone : (artifacts.keymaps.any fun file => file.fileName = name) = false := by
    rw [List.any_eq_false]
    intro file hfile heq
    refine h ?_
    rw [targets_eq, ← of_decide_eq_true heq]
    exact List.mem_cons_of_mem _ (List.mem_map_of_mem hfile)
  unfold isStale
  rw [hnone, Bool.not_false, Bool.and_true]

end Artifacts

-- ========================================================= the directory

/-- A directory into which the files for an agent were written. -/
structure Written (artifacts : Artifacts) (before after : Directory) : Prop where
  /-- The new files are there. -/
  present : ∀ file ∈ artifacts.output, after.lookup file.1 = some (.file file.2)
  /-- What has none of their names stays, unless it is an old keymap file. -/
  kept : ∀ name node, name ∉ artifacts.targets → before.lookup name = some node →
    node.isDirectory = true ∨ ¬ keymapFileEnd.toList <:+ name.toList →
    after.lookup name = some node
  /-- Every other keymap file is gone. -/
  gone : ∀ name bytes, name ∉ artifacts.targets → before.lookup name = some (.file bytes) →
    keymapFileEnd.toList <:+ name.toList → after.lookup name = none
  /-- Nothing else is there. -/
  nothing_else : ∀ name node, after.lookup name = some node →
    name ∈ artifacts.targets ∨ before.lookup name = some node
  /-- No name is taken twice. -/
  distinct : after.Distinct

/-- The sketch is one of the new files. -/
theorem Written.sketch {artifacts : Artifacts} {before after : Directory}
    (h : Written artifacts before after) :
    after.lookup sketchFileName = some (.file (Utf8.encode artifacts.sketch)) :=
  h.present _ artifacts.sketch_mem_output

/-- A directory after the files for an agent were put into it and the stale
ones removed. -/
def Artifacts.rewritten (artifacts : Artifacts) (entries : Directory) : Directory :=
  Disk.cleared artifacts.isStale (entries.putAll artifacts.output)

section

variable {artifacts : Artifacts} {entries : Directory} {name : String}

theorem rewritten_eq (hdistinct : entries.Distinct) : artifacts.rewritten entries
    = (entries.putAll artifacts.output).filter fun entry =>
      entry.2.isDirectory || !artifacts.isStale entry.1 :=
  Disk.cleared_eq artifacts.isStale hdistinct.putAll

/-- What is found under a name that is not written. -/
theorem lookup_rewritten (hdistinct : entries.Distinct) (hname : name ∉ artifacts.targets) :
    (artifacts.rewritten entries).lookup name = (entries.lookup name).filter fun node =>
      node.isDirectory || !keymapFileEnd.toList.isSuffixOf name.toList := by
  have hothers : ∀ file ∈ artifacts.output, file.1 ≠ name := by
    intro file hfile heq
    exact hname (List.mem_map.2 ⟨file, hfile, heq⟩)
  rw [rewritten_eq hdistinct, hdistinct.putAll.lookup_filter, Directory.lookup_putAll hothers]
  dsimp only
  rw [Artifacts.isStale_other hname]

variable {generator : Generator}

theorem lookup_rewritten_target (hr : Rendered generator artifacts)
    (hdistinct : entries.Distinct) : ∀ file ∈ artifacts.output,
      (artifacts.rewritten entries).lookup file.1 = some (.file file.2) := by
  intro file hfile
  rw [rewritten_eq hdistinct, hdistinct.putAll.lookup_filter,
    Directory.lookup_putAll_of_mem (Artifacts.targets_nodup hr) hfile, Option.filter_some,
    Artifacts.isStale_target (List.mem_map_of_mem hfile), Bool.not_false, Bool.or_true, if_pos rfl]

theorem written_rewritten (hr : Rendered generator artifacts) (hdistinct : entries.Distinct) :
    Written artifacts entries (artifacts.rewritten entries) where
  present := lookup_rewritten_target hr hdistinct
  kept name node hname hbefore hstays := by
    rw [lookup_rewritten hdistinct hname, hbefore, Option.filter_some, if_pos]
    rw [Bool.or_eq_true, Bool.not_eq_true', ← Bool.not_eq_true, List.isSuffixOf_iff_suffix]
    exact hstays
  gone name bytes hname hbefore hkeymap := by
    rw [lookup_rewritten hdistinct hname, hbefore, Option.filter_some, if_neg]
    rw [show (Node.file bytes).isDirectory = false from rfl, Bool.false_or,
      List.isSuffixOf_iff_suffix.2 hkeymap]
    exact Bool.false_ne_true
  nothing_else name node hafter := by
    by_cases hname : name ∈ artifacts.targets
    · exact .inl hname
    · rw [lookup_rewritten hdistinct hname] at hafter
      exact .inr (Option.filter_eq_some_iff.1 hafter).1
  distinct := by
    rw [rewritten_eq hdistinct]
    exact hdistinct.putAll.filter _

/-- Writing the same files again changes nothing. -/
theorem rewritten_again (hr : Rendered generator artifacts) (hdistinct : entries.Distinct) :
    artifacts.rewritten (artifacts.rewritten entries) = artifacts.rewritten entries := by
  have hdistinct' := (written_rewritten hr hdistinct).distinct
  rw [rewritten_eq hdistinct',
    Directory.putAll_self (lookup_rewritten_target hr hdistinct), rewritten_eq hdistinct,
    List.filter_filter]
  simp only [Bool.and_self]

end

-- =============================================================== the disk

/-- A disk on which nothing fails by itself. -/
def Disk.sound (tree : FileTree) : Disk (fun _ => none) FileTree := ⟨tree, 0, []⟩

/-- What writing into a directory on such a disk comes to. -/
def Artifacts.writeOn (artifacts : Artifacts) (dir : String) (tree : FileTree) :
    EStateM.Result Fault (Disk (fun _ => none) FileTree) (List String) :=
  (artifacts.writeTo dir : EStateM Fault (Disk (fun _ => none) FileTree) (List String)).run
    (.sound tree)

section

variable {artifacts : Artifacts} {tree : FileTree} {dir : String} {location : List String}
  {entries : Directory}

theorem found_of_resolve (h : tree.resolve dir = .ok (location, .directory entries)) :
    tree.Found dir location entries :=
  ⟨FileTree.folder_of_resolve h, (FileTree.resolve_walks h).2.2⟩

/-- Where no name is taken by a directory, all files are written. -/
theorem writeOn_free (hthere : tree.resolve dir = .ok (location, .directory entries))
    (hfree : ∀ file ∈ artifacts.output, (entries.lookup file.1).any Node.isDirectory = false) :
    artifacts.writeOn dir tree = .ok (artifacts.targets.map (FilePath.join dir))
      (.sound (tree.withFolder location (artifacts.rewritten entries))) := by
  have hfound := found_of_resolve hthere
  have hstaged : Disk.stagingFault? dir entries artifacts.output [] = none :=
    Disk.stagingFault?_eq_none_iff.2 hfree
  have hreplaced := Disk.replace_runs artifacts.isStale
    (⟨entries, 0, []⟩ : Disk (fun _ => none) Directory) hstaged
    (List.findSome?_eq_none_iff.2 fun _ _ => rfl)
  rw [if_neg (FileTree.ne_empty_of_resolve hthere), List.drop_nil] at hreplaced
  have hdone : (Disk.replace dir artifacts.output artifacts.isStale).run (.sound tree)
      = .ok (artifacts.output.map fun file => FilePath.join dir file.1)
        (.within tree location ⟨artifacts.rewritten entries, 0, []⟩) :=
    Disk.replace_ok hfound.folder hreplaced
  unfold Artifacts.targets
  rw [List.map_map]
  exact (writeTo_there hfound).trans hdone

/-- Where one is, nothing is touched. -/
theorem writeOn_taken (hthere : tree.resolve dir = .ok (location, .directory entries))
    (htaken : ¬ ∀ file ∈ artifacts.output, (entries.lookup file.1).any Node.isDirectory = false) :
    ∃ fault, artifacts.writeOn dir tree = .error fault (.sound tree) := by
  have hfound := found_of_resolve hthere
  have hmet : Disk.stagingFault? dir entries artifacts.output [] ≠ none :=
    fun hstaged => htaken (Disk.stagingFault?_eq_none_iff.1 hstaged)
  obtain ⟨fault, hstaging⟩ := Option.ne_none_iff_exists'.1 hmet
  obtain ⟨left, hleft, hreplaced⟩ := Disk.replace_unstaged artifacts.isStale
    (⟨entries, 0, []⟩ : Disk (fun _ => none) Directory) hstaging
  rw [List.suffix_nil.1 hleft] at hreplaced
  have hstopped : (Disk.replace dir artifacts.output artifacts.isStale).run (.sound tree)
      = .error fault (.within tree location ⟨entries, 0, []⟩) :=
    Disk.replace_error hfound.folder hreplaced
  unfold Disk.within at hstopped
  rw [FileTree.withFolder_self hfound.there] at hstopped
  exact ⟨fault, (writeTo_there hfound).trans hstopped⟩

/-- The files for an agent are written into a directory just if none of
them has the name of a directory there. What the directory holds then is
told by `Written`, and nothing else in the tree changes; writing them again
gives the same places and leaves everything as it is. Else nothing changes
at all. -/
theorem written_exactly {generator : Generator} {agent : Agent}
    (hrender : generator.render agent = .ok artifacts)
    (hthere : tree.resolve dir = .ok (location, .directory entries))
    (hdistinct : entries.Distinct) :
    artifacts.targets.Nodup
      ∧ ((∃ places disk, artifacts.writeOn dir tree = .ok places disk)
        ↔ ∀ file ∈ artifacts.output, (entries.lookup file.1).any Node.isDirectory = false)
      ∧ (∀ fault disk, artifacts.writeOn dir tree = .error fault disk → disk = .sound tree)
      ∧ ∀ places disk, artifacts.writeOn dir tree = .ok places disk →
          places = artifacts.targets.map (FilePath.join dir)
          ∧ ∃ after, Written artifacts entries after
            ∧ disk = .sound (tree.withFolder location after)
            ∧ disk.place.resolve dir = .ok (location, .directory after)
            ∧ artifacts.writeOn dir disk.place = .ok places disk := by
  have hr := rendered_of_render hrender
  refine ⟨Artifacts.targets_nodup hr, ?_⟩
  by_cases hfree : ∀ file ∈ artifacts.output, (entries.lookup file.1).any Node.isDirectory = false
  · have hwritten := writeOn_free hthere hfree
    rw [hwritten]
    refine ⟨⟨fun _ => hfree, fun _ => ⟨_, _, rfl⟩⟩, ?_, ?_⟩
    · rintro fault disk ⟨⟩
    rintro places disk ⟨⟩
    have hrewritten := written_rewritten hr hdistinct
    have hkept : ∀ name next, entries.lookup name = some (.directory next) →
        (artifacts.rewritten entries).lookup name = some (.directory next) := by
      intro name next hnext
      refine hrewritten.kept name _ (fun hname => ?_) hnext (.inl rfl)
      obtain ⟨file, hfile, rfl⟩ := List.mem_map.1 hname
      have hnone := hfree file hfile
      rw [hnext] at hnone
      cases hnone
    have hthere' := FileTree.resolve_withFolder hthere hkept
    have hfree' : ∀ file ∈ artifacts.output,
        ((artifacts.rewritten entries).lookup file.1).any Node.isDirectory = false := by
      intro file hfile
      rw [hrewritten.present file hfile]
      rfl
    refine ⟨rfl, _, hrewritten, rfl, hthere', ?_⟩
    rw [show (Disk.sound (tree.withFolder location (artifacts.rewritten entries))).place
      = tree.withFolder location (artifacts.rewritten entries) from rfl,
      writeOn_free hthere' hfree', rewritten_again hr hdistinct,
      FileTree.withFolder_self (FileTree.resolve_walks hthere').2.2]
  · obtain ⟨fault, hfailed⟩ := writeOn_taken hthere hfree
    rw [hfailed]
    refine ⟨⟨?_, fun h => absurd h hfree⟩, ?_, ?_⟩
    · rintro ⟨places, disk, ⟨⟩⟩
    · rintro fault disk ⟨⟩
      rfl
    · rintro places disk ⟨⟩

end

/-- The directory of a robot that had another motor before. -/
def usedEntries : Directory :=
  [(sketchFileName, .file (Utf8.encode "old")), ("motor_Right_keymap.json", .file []),
    ("backup_keymap.json", .directory []), ("README.md", .file [])]

/-- In such a directory the robot with a component of every kind gets its
files; the keymap of the motor goes, while a directory with such a name
stays. If the name of its own motor's keymap is taken by a directory, nothing
is written. -/
theorem written_exactly_rover :
    let artifacts := roverArtifacts {}
    let tree : FileTree := { root := [("out", .directory usedEntries)] }
    let taken : FileTree :=
      { root := [("out", .directory (("motor_Left_keymap.json", .directory []) :: usedEntries))] }
    ∃ generator after fault, Generator.ofParts .uno {} = .ok generator
      ∧ generator.render rover = .ok artifacts
      ∧ artifacts.writeOn "out" tree = .ok (artifacts.targets.map (FilePath.join "out"))
          (.sound (tree.withFolder ["out"] after))
      ∧ after.lookup sketchFileName = some (.file (Utf8.encode artifacts.sketch))
      ∧ after.lookup "motor_Right_keymap.json" = none
      ∧ after.lookup "backup_keymap.json" = some (.directory [])
      ∧ after.lookup "README.md" = some (.file [])
      ∧ artifacts.writeOn "out" taken = .error fault (.sound taken) := by
  intro artifacts tree taken
  have hrender : Generator.render ⟨.uno, {}, Firmware.default_accepted⟩ rover = .ok artifacts :=
    render_rover rfl
  have htargets : artifacts.targets = [sketchFileName, "motor_Left_keymap.json",
      "switch_S1_keymap.json", "switch_S12_keymap.json", "voltage_sensor_Battery_keymap.json",
      "vl53l0x_Front_keymap.json"] := (Artifacts.targets_eq artifacts).trans rfl
  have hfree : ∀ file ∈ artifacts.output,
      (usedEntries.lookup file.1).any Node.isDirectory = false := by
    have hnames : ∀ name ∈ artifacts.targets,
        (usedEntries.lookup name).any Node.isDirectory = false := by
      rw [htargets]
      decide
    exact fun file hfile => hnames file.1 (List.mem_map_of_mem hfile)
  have htaken : ¬ ∀ file ∈ artifacts.output,
      ((("motor_Left_keymap.json", .directory []) :: usedEntries : Directory).lookup file.1).any
        Node.isDirectory = false := by
    intro h
    have hmotor : "motor_Left_keymap.json" ∈ artifacts.targets := by
      rw [htargets]
      decide
    obtain ⟨file, hfile, hname⟩ := List.mem_map.1 hmotor
    have hdirectory := h file hfile
    rw [hname] at hdirectory
    cases hdirectory
  have hthere : tree.resolve "out" = .ok (["out"], .directory usedEntries) := rfl
  have hthere' : taken.resolve "out"
      = .ok (["out"], .directory (("motor_Left_keymap.json", .directory []) :: usedEntries)) := rfl
  obtain ⟨-, hwritten, -, hdone⟩ := written_exactly hrender hthere (by decide)
  obtain ⟨-, hrefused, huntouched, -⟩ := written_exactly hrender hthere' (by decide)
  obtain ⟨places, disk, hruns⟩ := hwritten.2 hfree
  obtain ⟨rfl, after, hafter, rfl, -, -⟩ := hdone places disk hruns
  have hfailed : ∃ fault, artifacts.writeOn "out" taken = .error fault (.sound taken) := by
    cases hruns' : artifacts.writeOn "out" taken with
    | ok places disk => exact absurd (hrefused.1 ⟨places, disk, hruns'⟩) htaken
    | error fault disk => exact ⟨fault, by rw [huntouched fault disk hruns']⟩
  obtain ⟨fault, hfailed⟩ := hfailed
  refine ⟨_, after, fault, ofParts_accepted .uno Firmware.default_accepted, hrender, hruns,
    hafter.sketch, ?_, ?_, ?_, hfailed⟩
  · refine hafter.gone _ [] ?_ rfl (by decide)
    rw [htargets]
    decide
  · refine hafter.kept _ _ ?_ rfl (.inl rfl)
    rw [htargets]
    decide
  · refine hafter.kept _ _ ?_ rfl (.inr (by decide))
    rw [htargets]
    decide

end SerialEndpoint
