/-
Keymaps against the command table.

# One keymap

A component's operations are all different and so are their keys, so no entry
of a keymap overwrites another: a key that is not there yet goes in beside the
others (`insertByKey_perm`). Up to its order a keymap therefore lists exactly
the lines of its component (`ofCommands_lines_perm`), and every operation is
found there with the line of its command (`get?_ofCommands`), any other with
none.

# The keymaps of all components

What belongs to one component is picked out of what belongs to all by the name
it carries (`filter_addressed`). Since no two components have one name, what
was made for the others falls away and what was made for this one stays. The
lemma serves the table, where the name stands in the line, and the keymap
files, where it stands beside the keymap.

# Their files

No two of these files have one name (`fileNames_nodup`). A file name is a
label of the kind, the name and a fixed end; as no label is the beginning of
another, equal file names have the same label, and then the same name.
-/
import SerialEndpoint.Keymap.Export
import SerialEndpoint.Proofs.CommandLines

namespace SerialEndpoint

-- ============================================================ no clash

theorem key_injective {o o' : Operation} (h : o.key = o'.key) : o = o' := by
  cases o <;> cases o' <;> first | rfl | exact absurd h (by decide)

theorem commands_operation_nodup (a : Assignment) :
    (a.commands.map Command.operation).Nodup := by
  unfold Assignment.commands
  split
  · rename_i pwm direction brake _ _
    cases pwm <;> cases direction <;> simp
  all_goals simp

theorem commands_key_nodup (a : Assignment) :
    ((a.commands.map fun c => (c.operation.key, c.line)).map Prod.fst).Nodup := by
  rw [List.map_map]
  show (a.commands.map (Operation.key ∘ Command.operation)).Nodup
  rw [← List.map_map]
  exact (commands_operation_nodup a).map fun o o' => key_injective

-- =================================================== keymaps as lists

/-- A key that is not there yet goes in beside the others. -/
theorem insertByKey_perm {key value : String} {entries : List (String × String)}
    (hfresh : key ∉ entries.map Prod.fst) :
    (insertByKey key value entries).Perm ((key, value) :: entries) := by
  induction entries with
  | nil => exact .refl _
  | cons entry rest ih =>
      rw [List.map_cons, List.mem_cons, not_or] at hfresh
      unfold insertByKey
      split
      · exact .refl _
      · rw [if_neg hfresh.1]
        exact ((ih hfresh.2).cons entry).trans (.swap ..)

/-- Inserting entries with keys of their own loses none and overwrites
none. -/
theorem foldl_insert_perm {entries : List (String × String)} :
    ∀ keymap : Keymap,
      (keymap.entries ++ entries).map Prod.fst |>.Nodup →
      (entries.foldl (fun k e => k.insert e.1 e.2) keymap).entries.Perm
        (keymap.entries ++ entries) := by
  induction entries with
  | nil =>
      intro keymap _
      rw [List.append_nil]
      exact .refl _
  | cons entry rest ih =>
      intro keymap hnodup
      -- the entry moves from the front of the rest into the keymap
      have hmoved : (keymap.entries ++ entry :: rest).Perm
          (entry :: keymap.entries ++ rest) := List.perm_middle
      have hkeys : (entry.1 :: (keymap.entries ++ rest).map Prod.fst).Nodup :=
        (hmoved.map Prod.fst).nodup_iff.1 hnodup
      have hfresh : entry.1 ∉ keymap.entries.map Prod.fst := by
        intro hmem
        refine (List.nodup_cons.1 hkeys).1 ?_
        rw [List.map_append]
        exact List.mem_append_left _ hmem
      have hgrown : (keymap.insert entry.1 entry.2).entries.Perm
          (entry :: keymap.entries) := insertByKey_perm hfresh
      have hgrown' := hgrown.append_right rest
      have hnodup' := ((hgrown'.map Prod.fst).nodup_iff).2 hkeys
      exact ((ih _ hnodup').trans hgrown').trans hmoved.symm

/-- Up to its order, a component's keymap has one entry for each of its
commands. -/
theorem ofCommands_entries_perm (a : Assignment) :
    (Keymap.ofCommands a.commands).entries.Perm
      (a.commands.map fun c => (c.operation.key, c.line)) := by
  have hperm := foldl_insert_perm {}
    (by rw [List.nil_append]; exact commands_key_nodup a)
  rwa [List.nil_append] at hperm

/-- Up to its order, a component's keymap lists the lines of its
commands. -/
theorem ofCommands_lines_perm (a : Assignment) :
    (Keymap.ofCommands a.commands).lines.Perm (a.commands.map Command.line) := by
  have hlines := (ofCommands_entries_perm a).map Prod.snd
  rwa [List.map_map] at hlines

-- ============================================================ look-ups

/-- Among keys in order an entry is found by its key. -/
theorem Keymap.find?_of_mem {keymap : Keymap} {key line : String}
    (h : (key, line) ∈ keymap.entries) : keymap.find? key = some line := by
  obtain ⟨before, after, heq⟩ := List.append_of_mem h
  have hsorted := keymap.sorted
  rw [heq, List.pairwise_append] at hsorted
  refine List.lookup_eq_some_iff.2 ⟨before, after, heq, fun entry hentry => ?_⟩
  rw [bne_iff_ne]
  have hlt : entry.1 < key := hsorted.2.2 entry hentry (key, line) (List.mem_cons_self ..)
  exact fun hkey => String.lt_irrefl key (hkey ▸ hlt)

/-- A component's keymap has the line of each of its commands. -/
theorem get?_ofCommands {a : Assignment} {command : Command} (hc : command ∈ a.commands) :
    (Keymap.ofCommands a.commands).get? command.operation = some command.line :=
  Keymap.find?_of_mem
    ((ofCommands_entries_perm a).mem_iff.2 (List.mem_map_of_mem hc))

/-- It has no line for an operation without a command. -/
theorem get?_ofCommands_eq_none {a : Assignment} {operation : Operation}
    (h : ∀ command ∈ a.commands, command.operation ≠ operation) :
    (Keymap.ofCommands a.commands).get? operation = none := by
  refine List.lookup_eq_none_iff.2 fun entry hentry => ?_
  obtain ⟨command, hc, rfl⟩ :=
    List.mem_map.1 ((ofCommands_entries_perm a).mem_iff.1 hentry)
  rw [bne_iff_ne]
  exact fun hkey => h command hc (key_injective hkey.symm)

-- ==================================================== whose is it

/-- Of what is made for all components, what carries one component's name
is what was made for that one. -/
theorem filter_addressed {β : Type} {f : Assignment → List β} {whose : β → String}
    {assignments : List Assignment} {a : Assignment}
    (hto : ∀ b ∈ assignments, ∀ x ∈ f b, whose x = b.name)
    (hdistinct : (assignments.map Assignment.name).Nodup)
    (ha : a ∈ assignments) :
    (assignments.flatMap f).filter (fun x => whose x = a.name) = f a := by
  induction assignments with
  | nil => cases ha
  | cons b rest ih =>
      rw [List.map_cons, List.nodup_cons] at hdistinct
      rw [List.flatMap_cons, List.filter_append]
      have hrest : ∀ c ∈ rest, ∀ x ∈ f c, whose x = c.name :=
        fun c hc => hto c (List.mem_cons_of_mem _ hc)
      have hfront : ∀ x ∈ f b, whose x = b.name := hto b (List.mem_cons_self ..)
      rcases List.mem_cons.1 ha with rfl | ha
      · have hall : (f a).filter (fun x => whose x = a.name) = f a :=
          List.filter_eq_self.2 fun x hx => decide_eq_true (hfront x hx)
        have hnone : (rest.flatMap f).filter (fun x => whose x = a.name) = [] := by
          refine List.filter_eq_nil_iff.2 fun x hx => ?_
          obtain ⟨c, hc, hxc⟩ := List.mem_flatMap.1 hx
          rw [decide_eq_true_eq, hrest c hc x hxc]
          intro heq
          exact hdistinct.1 (heq ▸ List.mem_map_of_mem hc)
        rw [hall, hnone, List.append_nil]
      · have hnone : (f b).filter (fun x => whose x = a.name) = [] := by
          refine List.filter_eq_nil_iff.2 fun x hx => ?_
          rw [decide_eq_true_eq, hfront x hx]
          intro heq
          exact hdistinct.1 (heq ▸ List.mem_map_of_mem ha)
        rw [hnone, List.nil_append]
        exact ih hrest hdistinct.2 ha

/-- The lines of the table that carry a component's name are the lines of
that component. -/
theorem filter_addressee {assignments : List Assignment} (hs : Served assignments)
    {a : Assignment} (ha : a ∈ assignments) :
    ((commandTable assignments).map Command.line).filter
        (fun line => addressee line = a.name)
      = a.commands.map Command.line := by
  unfold commandTable
  rw [List.map_flatMap]
  refine filter_addressed (fun b hb line hline => ?_) hs.distinct ha
  obtain ⟨c, hc, rfl⟩ := List.mem_map.1 hline
  have hname := commands_component b c hc
  rw [addressee_line (hname ▸ hs.named b hb), hname]

/-- The keymaps of one component among those of all. -/
theorem filter_keymapFiles {assignments : List Assignment}
    (hs : Served assignments) {a : Assignment} (ha : a ∈ assignments) :
    (keymapFiles assignments).filter (fun file => file.component = a.name)
      = a.keymapFile?.toList := by
  unfold keymapFiles
  rw [List.filterMap_eq_flatMap_toList]
  refine filter_addressed (fun b _ file hfile => ?_) hs.distinct ha
  unfold Assignment.keymapFile? at hfile
  split at hfile
  · cases hfile
  · cases List.mem_singleton.1 hfile
    rfl

/-- Every keymap is that of a component with commands. -/
theorem mem_keymapFiles {assignments : List Assignment} {file : KeymapFile}
    (h : file ∈ keymapFiles assignments) :
    ∃ a ∈ assignments, a.commands ≠ [] ∧ file.component = a.name
      ∧ file.keymap = Keymap.ofCommands a.commands := by
  obtain ⟨a, ha, hfile⟩ := List.mem_filterMap.1 h
  unfold Assignment.keymapFile? at hfile
  split at hfile
  · cases hfile
  · rename_i hne
    cases hfile
    exact ⟨a, ha, hne, rfl, rfl⟩

-- ========================================================== file names

/-- What stands before the names of components in the names of their
keymap files. -/
def keymapFileHeads : List String :=
  ["motor_", "vl53l0x_", "voltage_sensor_", "switch_", "generic_"]

theorem keymapFileHead_mem (kind : Kind) : kind.label ++ "_" ∈ keymapFileHeads := by
  cases kind <;> simp [Kind.label, keymapFileHeads]

/-- None of these is the beginning of another. -/
theorem keymapFileHeads_apart : ∀ head ∈ keymapFileHeads, ∀ head' ∈ keymapFileHeads,
    head.toList <+: head'.toList → head = head' := by decide

/-- Keymap files of one name are those of components of one name. -/
theorem name_of_keymapFileName {a b : Assignment} (h : a.keymapFileName = b.keymapFileName) :
    a.name = b.name := by
  obtain ⟨ha, hb⟩ : a.kind.label ++ "_" ∈ keymapFileHeads ∧ b.kind.label ++ "_" ∈ keymapFileHeads :=
    ⟨keymapFileHead_mem a.kind, keymapFileHead_mem b.kind⟩
  unfold Assignment.keymapFileName at h
  generalize a.kind.label ++ "_" = head at h ha
  generalize b.kind.label ++ "_" = head' at h hb
  have hfront : head ++ a.name = head' ++ b.name :=
    (String.append_left_inj keymapFileEnd).1 h
  have hlists : head.toList ++ a.name.toList = head'.toList ++ b.name.toList := by
    rw [← String.toList_append, hfront, String.toList_append]
  have hheads : head = head' := by
    rcases List.prefix_or_prefix_of_prefix (List.prefix_append head.toList a.name.toList)
      (hlists ▸ List.prefix_append head'.toList b.name.toList) with hprefix | hprefix
    · exact keymapFileHeads_apart head ha head' hb hprefix
    · exact (keymapFileHeads_apart head' hb head ha hprefix).symm
  rw [hheads] at hfront
  exact (String.append_right_inj head').1 hfront

/-- No two keymap files have one name. -/
theorem fileNames_nodup {assignments : List Assignment}
    (hdistinct : (assignments.map Assignment.name).Nodup) :
    ((keymapFiles assignments).map KeymapFile.fileName).Nodup := by
  unfold keymapFiles
  refine List.pairwise_map.2 (List.pairwise_filterMap.2 ?_)
  refine (List.pairwise_map.1 hdistinct).imp fun hne file hfile file' hfile' heq => hne ?_
  unfold Assignment.keymapFile? at hfile hfile'
  split at hfile
  · cases hfile
  split at hfile'
  · cases hfile'
  cases hfile
  cases hfile'
  exact name_of_keymapFileName heq

end SerialEndpoint
