/-
Files on a disk. A staged file is a temporary until it has its name, so what a
call leaves behind can be seen; staging may fail at any time, and there may be
names that no file can be renamed to.

# The disk

A `Disk` is a place for files together with its temporaries and with what the
next stagings meet. Two temporaries may hold the same bytes, so they are a
multiset. What a staging meets is given from outside, one fault or none for
each, and the names that are refused are a parameter; a statement about all
disks is therefore one about every way in which staging may fail.

# One stage after the other

`Folder.replace` stages all files before it renames the first, and renames all
before it removes what is stale. Each loop has one lemma, by induction on the
files, for how it ends:

- Staging, with a fault (`stageAll_stops`). Whether there is one can be told
  beforehand, from the entries and the faults to come (`stagingFault?`).
  Staging changes no entry, so the entries are as they were; the step that
  fails has no temporary of its own, and each step before it drops the one
  that it made.
- Staging, without one (`stageAll_runs`). There is a temporary for every file,
  next to those that were there, and no file has the name of a directory.
- Renaming (`commitAll_runs`). Next to the other temporaries there is one for
  each file that is still to come, and a rename takes away one file and its
  temporary. A name that is refused comes too late for the files before it,
  which have their names by then; the temporaries of that file and of those
  after it are dropped.
- Removing (`removeStale_runs`) meets no fault. The names are listed before
  the first is taken away, and as no two are the same, what is left are the
  directories and the files that are not stale (`cleared_eq`).

Put together this tells all ends of a replacement: `replace_unstaged`,
`replace_refused` and `replace_runs`. In the last one the listing may still
fail, where the directory was given by the empty name.

# In a tree

A directory on a disk is changed by itself and then put back where it was, so
the same is said of a directory in a tree (`replace_ok`, `replace_error`).
-/
import Mathlib.Data.List.TakeWhile
import Mathlib.Data.Multiset.AddSub
import SerialEndpoint.Proofs.Storage.Steps
import SerialEndpoint.Proofs.Storage.Tree

namespace SerialEndpoint

open Folder (File)

-- ============================================================= the disk

/-- A place for files on a disk, with the temporaries in it, which are
known by their contents, and with what the next stagings meet; those after
them meet nothing. `refused` is the fault of a name that no file can be
renamed to. -/
structure Disk (refused : String → Option Fault) (Place : Type) where
  place : Place
  drafts : Multiset (List UInt8)
  stagings : List (Option Fault)

namespace Disk

variable {refused : String → Option Fault}

/-- Makes a temporary, unless the staging meets a fault. -/
def stage (bytes : List UInt8) : EStateM Fault (Disk refused Directory) (List UInt8) := fun disk =>
  match disk.stagings.head?.join with
  | some fault => .error fault { disk with stagings := disk.stagings.tail }
  | none => .ok bytes
      { disk with drafts := bytes ::ₘ disk.drafts, stagings := disk.stagings.tail }

/-- Drops a temporary. -/
def discard (bytes : List UInt8) : EStateM Fault (Disk refused Directory) Unit := fun disk =>
  .ok () { disk with drafts := disk.drafts.erase bytes }

/-- Renames a temporary. A directory is not replaced by a file. -/
def commit (bytes : List UInt8) (name : String) :
    EStateM Fault (Disk refused Directory) Unit := fun disk =>
  if bytes ∉ disk.drafts then .error Fault.notFound disk
  else match refused name with
    | some fault => .error fault disk
    | none =>
      if (disk.place.lookup name).any Node.isDirectory then .error Fault.isADirectory disk
      else .ok () { disk with
        place := disk.place.put name (.file bytes)
        drafts := disk.drafts.erase bytes }

instance : Folder (EStateM Fault (Disk refused Directory)) where
  Staged := List UInt8
  isDirectory name := do
    return ((← get).place.lookup name).any Node.isDirectory
  stage := stage
  commit := commit
  discard := discard
  list := do
    return (← get).place.map fun entry => (entry.1, !entry.2.isDirectory)
  remove name := modify fun disk => { disk with place := disk.place.erase name }

/-- A disk with the tree that is had by giving a directory new entries. -/
def within (tree : FileTree) (location : List String) (after : Disk refused Directory) :
    Disk refused FileTree :=
  ⟨tree.withFolder location after.place, after.drafts, after.stagings⟩

/-- Puts files into the directory at a path. -/
def replace (path : String) (files : List File) (isStale : String → Bool) :
    EStateM Fault (Disk refused FileTree) (List String) := fun disk =>
  match disk.place.folder path with
  | .error fault => .error fault disk
  | .ok (location, entries) =>
    match (Folder.replace path files isStale : EStateM Fault (Disk refused Directory) _)
        ⟨entries, disk.drafts, disk.stagings⟩ with
    | .ok places after => .ok places (within disk.place location after)
    | .error fault after => .error fault (within disk.place location after)

/-- The bytes of the file at a path. -/
def read (path : String) : EStateM Fault (Disk refused FileTree) (List UInt8) := fun disk =>
  match disk.place.read path with
  | .ok bytes => .ok bytes disk
  | .error fault => .error fault disk

/-- Makes a directory at a path. -/
def makeDirectory (path : String) : EStateM Fault (Disk refused FileTree) Unit := fun disk =>
  match disk.place.makeDirectory path with
  | .ok tree => .ok () { disk with place := tree }
  | .error fault => .error fault disk

instance : Storage (EStateM Fault (Disk refused FileTree)) where
  read := read
  makeDirectory := makeDirectory
  isDirectory path := fun disk => .ok (disk.place.isDirectory path) disk
  replace := replace
  openLine path := fun disk => .ok (disk.place.lineFault path) disk

-- ============================================================== staging

/-- The fault that the staging of some files meets. -/
def stagingFault? (dir : String) (entries : Directory) :
    List File → List (Option Fault) → Option Fault
  | [], _ => none
  | file :: files, stagings =>
    if (entries.lookup file.1).any Node.isDirectory then
      some (Folder.takenByDirectory dir file.1)
    else match stagings.head?.join with
      | some fault => some fault
      | none => stagingFault? dir entries files stagings.tail

/-- Steps in a directory on a disk. -/
abbrev Step (refused : String → Option Fault) := EStateM Fault (Disk refused Directory)

/-- The contents of some files as temporaries. -/
def contents (files : List File) : Multiset (List UInt8) := (files.map Prod.snd : List _)

theorem contents_nil : contents [] = 0 := rfl

theorem contents_cons (file : File) (files : List File) :
    contents (file :: files) = file.2 ::ₘ contents files := rfl

variable {dir : String} {entries : Directory}

theorem stage_meets {disk : Disk refused Directory} {fault : Fault} (bytes : List UInt8)
    (h : disk.stagings.head?.join = some fault) :
    (stage bytes).run disk = .error fault { disk with stagings := disk.stagings.tail } := by
  show stage bytes disk = _
  unfold stage
  rw [h]

theorem stage_runs {disk : Disk refused Directory} (bytes : List UInt8)
    (h : disk.stagings.head?.join = none) :
    (stage bytes).run disk
      = .ok bytes ⟨disk.place, bytes ::ₘ disk.drafts, disk.stagings.tail⟩ := by
  show stage bytes disk = _
  unfold stage
  rw [h]

/-- Staging some files: the first one, then the others. -/
theorem stageAll_cons (file : File) (files : List File) (disk : Disk refused Directory) :
    (Folder.stageAll (m := Step refused) dir (file :: files)).run disk
      = if (disk.place.lookup file.1).any Node.isDirectory then
          .error (Folder.takenByDirectory dir file.1) disk
        else match (stage file.2).run disk with
          | .error fault disk => .error fault disk
          | .ok bytes disk => match (Folder.stageAll (m := Step refused) dir files).run disk with
            | .ok others disk => .ok ((file.1, bytes) :: others) disk
            | .error fault disk => .error fault { disk with drafts := disk.drafts.erase bytes } := by
  have hasked : (Folder.isDirectory (m := Step refused) file.1).run disk
      = .ok ((disk.place.lookup file.1).any Node.isDirectory) disk := rfl
  rw [Folder.stageAll, run_bind_ok hasked]
  split
  · rfl
  · cases hstage : (stage file.2).run disk with
    | error fault disk => exact run_bind_error hstage
    | ok bytes disk =>
        refine (run_bind_ok hstage).trans ?_
        dsimp only
        cases hothers : (Folder.stageAll (m := Step refused) dir files).run disk with
        | ok others disk => exact run_catch_ok (run_bind_ok hothers)
        | error fault disk => exact run_catch_error (run_bind_error hothers)

/-- A fault of staging leaves the entries as they were and no temporary. -/
theorem stageAll_stops {fault : Fault} {files : List File} :
    ∀ (disk : Disk refused Directory),
      stagingFault? dir disk.place files disk.stagings = some fault →
      ∃ left, left <:+ disk.stagings
        ∧ (Folder.stageAll (m := Step refused) dir files).run disk
          = .error fault { disk with stagings := left } := by
  induction files with
  | nil =>
      intro _ h
      cases h
  | cons file files ih =>
      intro disk h
      unfold stagingFault? at h
      rw [stageAll_cons]
      by_cases htaken : (disk.place.lookup file.1).any Node.isDirectory = true
      · rw [if_pos htaken] at h ⊢
        cases h
        exact ⟨disk.stagings, List.suffix_rfl, rfl⟩
      · rw [if_neg htaken] at h ⊢
        cases hmet : disk.stagings.head?.join with
        | some met =>
            rw [hmet] at h
            cases h
            rw [stage_meets _ hmet]
            exact ⟨_, List.tail_suffix _, rfl⟩
        | none =>
            rw [hmet] at h
            -- the fault is met further on; on the way back the temporary made here is
            -- dropped, and it is the one that is there once more than before
            obtain ⟨left, hleft, hothers⟩ :=
              ih ⟨disk.place, file.2 ::ₘ disk.drafts, disk.stagings.tail⟩ h
            rw [stage_runs _ hmet]
            dsimp only
            rw [hothers]
            dsimp only
            rw [Multiset.erase_cons_head]
            exact ⟨left, hleft.trans (List.tail_suffix _), rfl⟩

/-- Where staging meets no fault, there is a temporary for every file. -/
theorem stageAll_runs {files : List File} :
    ∀ (disk : Disk refused Directory),
      stagingFault? dir disk.place files disk.stagings = none →
      (Folder.stageAll (m := Step refused) dir files).run disk
        = .ok files
          ⟨disk.place, disk.drafts + contents files, disk.stagings.drop files.length⟩ := by
  induction files with
  | nil =>
      intro disk _
      rw [contents_nil, Multiset.add_zero]
      rfl
  | cons file files ih =>
      intro disk h
      unfold stagingFault? at h
      rw [stageAll_cons]
      by_cases htaken : (disk.place.lookup file.1).any Node.isDirectory = true
      · rw [if_pos htaken] at h
        cases h
      · rw [if_neg htaken] at h ⊢
        cases hmet : disk.stagings.head?.join with
        | some met =>
            rw [hmet] at h
            cases h
        | none =>
            rw [hmet] at h
            rw [stage_runs _ hmet]
            dsimp only
            rw [ih ⟨disk.place, file.2 ::ₘ disk.drafts, disk.stagings.tail⟩ h]
            dsimp only
            rw [Multiset.cons_add, ← Multiset.add_cons, ← contents_cons, List.length_cons,
              List.drop_tail]
            rfl

/-- Where staging meets no fault, no file has the name of a directory. -/
theorem free_of_staged {files : List File} :
    ∀ {stagings : List (Option Fault)}, stagingFault? dir entries files stagings = none →
      ∀ file ∈ files, (entries.lookup file.1).any Node.isDirectory = false := by
  induction files with
  | nil => exact fun _ _ h => absurd h List.not_mem_nil
  | cons first files ih =>
      intro stagings h file hfile
      unfold stagingFault? at h
      split at h
      · cases h
      · rename_i hfree
        split at h
        · cases h
        · rcases List.mem_cons.1 hfile with rfl | hfile
          · exact Bool.not_eq_true _ ▸ hfree
          · exact ih h file hfile

/-- Where no staging fails, all files are staged unless one has the name of
a directory. -/
theorem stagingFault?_eq_none_iff {files : List File} :
    stagingFault? dir entries files [] = none
      ↔ ∀ file ∈ files, (entries.lookup file.1).any Node.isDirectory = false := by
  refine ⟨free_of_staged, fun h => ?_⟩
  induction files with
  | nil => rfl
  | cons file files ih =>
      unfold stagingFault?
      rw [if_neg (ne_true_of_eq_false (h file (List.mem_cons_self ..)))]
      exact ih fun other hother => h other (List.mem_cons_of_mem _ hother)

-- ============================================================= renaming

/-- The files before the first one whose name is refused. -/
def accepted (refused : String → Option Fault) (files : List File) : List File :=
  files.takeWhile fun file => (refused file.1).isNone

/-- Where no name is refused, these are all files. -/
theorem accepted_all {files : List File}
    (h : (files.findSome? fun file => refused file.1) = none) : accepted refused files = files :=
  List.takeWhile_eq_self_iff.2 fun file hfile => by
    rw [List.findSome?_eq_none_iff.1 h file hfile]
    rfl

theorem commit_refused {disk : Disk refused Directory} {bytes : List UInt8} {name : String}
    {fault : Fault} (hdraft : bytes ∈ disk.drafts) (h : refused name = some fault) :
    (commit bytes name).run disk = .error fault disk := by
  show commit bytes name disk = _
  unfold commit
  rw [if_neg (not_not_intro hdraft), h]

theorem commit_runs {disk : Disk refused Directory} {bytes : List UInt8} {name : String}
    (hdraft : bytes ∈ disk.drafts) (h : refused name = none)
    (hfree : (disk.place.lookup name).any Node.isDirectory = false) :
    (commit bytes name).run disk
      = .ok () ⟨disk.place.put name (.file bytes), disk.drafts.erase bytes, disk.stagings⟩ := by
  show commit bytes name disk = _
  unfold commit
  rw [if_neg (not_not_intro hdraft), h]
  dsimp only
  rw [hfree]
  rfl

theorem discard_runs (files : List File) :
    ∀ disk : Disk refused Directory,
      (files.forM fun file => discard file.2).run disk
        = .ok () { disk with drafts := disk.drafts - contents files } := by
  induction files with
  | nil =>
      intro disk
      rw [contents_nil, Multiset.sub_zero]
      rfl
  | cons file files ih =>
      intro disk
      rw [contents_cons, Multiset.sub_cons]
      exact (run_bind_ok rfl).trans (ih _)

/-- Giving files their names: the first one, then the others. -/
theorem commitAll_cons (file : File) (files : List File) (disk : Disk refused Directory) :
    (Folder.commitAll (m := Step refused) (file :: files)).run disk
      = match (commit file.2 file.1).run disk with
        | .ok _ disk => (Folder.commitAll (m := Step refused) files).run disk
        | .error fault disk =>
          .error fault { disk with drafts := disk.drafts.erase file.2 - contents files } := by
  obtain ⟨name, bytes⟩ := file
  rw [Folder.commitAll.eq_2]
  cases hcommit : (commit bytes name).run disk with
  | ok _ disk => exact run_bind_ok (run_catch_ok hcommit)
  | error fault disk =>
      refine run_bind_error ((run_catch_error hcommit).trans ?_)
      exact (run_bind_ok rfl).trans (run_bind_ok (discard_runs files _))

/-- The files before the first refused name get their names, and no
temporary is left. -/
theorem commitAll_runs {drafts : Multiset (List UInt8)} {files : List File} :
    ∀ (disk : Disk refused Directory), disk.drafts = drafts + contents files →
      (∀ file ∈ files, (disk.place.lookup file.1).any Node.isDirectory = false) →
      (Folder.commitAll (m := Step refused) files).run disk
        = match files.findSome? fun file => refused file.1 with
          | none => .ok () ⟨disk.place.putAll (accepted refused files), drafts, disk.stagings⟩
          | some fault =>
            .error fault ⟨disk.place.putAll (accepted refused files), drafts, disk.stagings⟩ := by
  induction files with
  | nil =>
      intro disk hdrafts _
      rw [contents_nil, Multiset.add_zero] at hdrafts
      rw [← hdrafts]
      rfl
  | cons file files ih =>
      intro disk hdrafts hfree
      have hdraft : file.2 ∈ disk.drafts := by
        rw [hdrafts, contents_cons, Multiset.add_cons]
        exact Multiset.mem_cons_self ..
      have hleft : disk.drafts.erase file.2 = drafts + contents files := by
        rw [hdrafts, contents_cons, Multiset.add_cons, Multiset.erase_cons_head]
      rw [commitAll_cons, List.findSome?_cons]
      unfold accepted
      cases hname : refused file.1 with
      | some fault =>
          -- this temporary is dropped, and so are those of the files to come
          rw [commit_refused hdraft hname,
            List.takeWhile_cons_of_neg (by rw [hname]; exact Bool.false_ne_true)]
          dsimp only
          rw [hleft, Multiset.add_sub_cancel_right]
          rfl
      | none =>
          rw [commit_runs hdraft hname (hfree file (List.mem_cons_self ..)),
            List.takeWhile_cons_of_pos (by rw [hname]; rfl)]
          dsimp only
          rw [Directory.putAll_cons]
          -- a file is no directory, so the names to come are as free as they were
          refine ih _ hleft fun other hother => ?_
          dsimp only
          rw [Directory.lookup_put]
          split
          · rfl
          · exact hfree other (List.mem_cons_of_mem _ hother)

-- ============================================================= removing

/-- What is left of some entries when those of some names that are files and
stale are taken away. -/
def swept (isStale : String → Bool) (names : List (String × Bool)) (entries : Directory) :
    Directory :=
  names.foldl (fun entries name =>
    if name.2 && isStale name.1 then entries.erase name.1 else entries) entries

/-- What is left of a directory when its stale files are removed. -/
def cleared (isStale : String → Bool) (entries : Directory) : Directory :=
  swept isStale (entries.map fun entry => (entry.1, !entry.2.isDirectory)) entries

theorem sweep_runs (isStale : String → Bool) (names : List (String × Bool)) :
    ∀ disk : Disk refused Directory,
      (forIn names PUnit.unit fun name _ => do
          if name.2 && isStale name.1 then Folder.remove name.1
          pure (ForInStep.yield PUnit.unit) : Step refused PUnit).run disk
        = .ok PUnit.unit { disk with place := swept isStale names disk.place } := by
  induction names with
  | nil => exact fun _ => rfl
  | cons name names ih =>
      intro disk
      rw [List.forIn_cons]
      unfold swept
      rw [List.foldl_cons]
      by_cases hstale : (name.2 && isStale name.1) = true
      · rw [if_pos hstale, if_pos hstale]
        exact (run_bind_ok (run_bind_ok rfl)).trans (ih _)
      · rw [if_neg hstale, if_neg hstale]
        exact (run_bind_ok rfl).trans (ih _)

/-- Removing what is stale meets no fault. -/
theorem removeStale_runs (isStale : String → Bool) (disk : Disk refused Directory) :
    (Folder.removeStale (m := Step refused) isStale).run disk
      = .ok () { disk with place := cleared isStale disk.place } := by
  have hlist : (Folder.list (m := Step refused)).run disk
      = .ok (disk.place.map fun entry => (entry.1, !entry.2.isDirectory)) disk := rfl
  unfold Folder.removeStale
  rw [run_bind_ok hlist]
  exact (run_bind_ok (sweep_runs isStale _ disk)).trans rfl

/-- Names are taken away one by one, and an entry goes with any of them that
is its own. -/
theorem swept_eq (isStale : String → Bool) (names : List (String × Bool)) :
    ∀ entries : Directory, swept isStale names entries = entries.filter fun entry =>
      !names.any fun name => name.2 && isStale name.1 && entry.1 == name.1 := by
  induction names with
  | nil => exact fun entries => (List.filter_eq_self.2 fun _ _ => rfl).symm
  | cons name names ih =>
      intro entries
      unfold swept
      rw [List.foldl_cons]
      refine (ih _).trans ?_
      split
      · rename_i hstale
        unfold Directory.erase
        rw [List.filter_filter]
        refine List.filter_congr fun entry _ => ?_
        rw [List.any_cons, hstale, Bool.true_and, Bool.not_or, Bool.and_comm, decide_not,
          ← beq_eq_decide]
      · rename_i hstale
        rw [Bool.not_eq_true] at hstale
        refine List.filter_congr fun entry _ => ?_
        rw [List.any_cons, hstale, Bool.false_and, Bool.false_or]

/-- What is left are the directories and the files that are not stale. -/
theorem cleared_eq (isStale : String → Bool) (h : entries.Distinct) :
    cleared isStale entries
      = entries.filter fun entry => entry.2.isDirectory || !isStale entry.1 := by
  unfold cleared
  rw [swept_eq]
  refine List.filter_congr fun entry hentry => ?_
  have hown : ((entries.map fun entry => (entry.1, !entry.2.isDirectory)).any
      fun name => name.2 && isStale name.1 && entry.1 == name.1)
        = (!entry.2.isDirectory && isStale entry.1) := by
    rw [Bool.eq_iff_iff, List.any_eq_true]
    constructor
    · rintro ⟨name, hname, hstale⟩
      obtain ⟨other, hother, rfl⟩ := List.mem_map.1 hname
      rw [Bool.and_eq_true, beq_iff_eq] at hstale
      obtain ⟨hstale, hnames⟩ := hstale
      rw [List.inj_on_of_nodup_map h hentry hother hnames]
      exact hstale
    · intro hstale
      refine ⟨_, List.mem_map_of_mem hentry, ?_⟩
      rw [Bool.and_eq_true]
      exact ⟨hstale, beq_self_eq_true _⟩
  rw [hown, Bool.not_and, Bool.not_not]

-- ============================================================ replacing

section

variable {files : List File} (isStale : String → Bool) (disk : Disk refused Directory)

/-- Where staging meets a fault, nothing is replaced. -/
theorem replace_unstaged {fault : Fault}
    (h : stagingFault? dir disk.place files disk.stagings = some fault) :
    ∃ left, left <:+ disk.stagings
      ∧ (Folder.replace (m := Step refused) dir files isStale).run disk
        = .error fault { disk with stagings := left } := by
  obtain ⟨left, hleft, hstaged⟩ := stageAll_stops disk h
  exact ⟨left, hleft, run_bind_error hstaged⟩

/-- Where a name is refused, the files before it are replaced. -/
theorem replace_refused {fault : Fault}
    (hstaged : stagingFault? dir disk.place files disk.stagings = none)
    (h : (files.findSome? fun file => refused file.1) = some fault) :
    (Folder.replace (m := Step refused) dir files isStale).run disk
      = .error fault ⟨disk.place.putAll (accepted refused files), disk.drafts,
          disk.stagings.drop files.length⟩ := by
  have hcommitted := commitAll_runs (⟨disk.place, disk.drafts + contents files,
    disk.stagings.drop files.length⟩ : Disk refused Directory) rfl (free_of_staged hstaged)
  rw [h] at hcommitted
  exact (run_bind_ok (stageAll_runs disk hstaged)).trans (run_bind_error hcommitted)

/-- Where no name is refused, all files are replaced, and only then it is
seen whether the directory can be listed. -/
theorem replace_runs
    (hstaged : stagingFault? dir disk.place files disk.stagings = none)
    (h : (files.findSome? fun file => refused file.1) = none) :
    (Folder.replace (m := Step refused) dir files isStale).run disk
      = if dir = "" then
          .error Fault.notFound ⟨disk.place.putAll files, disk.drafts,
            disk.stagings.drop files.length⟩
        else .ok (files.map fun file => FilePath.join dir file.1)
          ⟨cleared isStale (disk.place.putAll files), disk.drafts,
            disk.stagings.drop files.length⟩ := by
  have hcommitted := commitAll_runs (⟨disk.place, disk.drafts + contents files,
    disk.stagings.drop files.length⟩ : Disk refused Directory) rfl (free_of_staged hstaged)
  rw [h, accepted_all h] at hcommitted
  refine (run_bind_ok (stageAll_runs disk hstaged)).trans ((run_bind_ok hcommitted).trans ?_)
  split
  · exact run_bind_error rfl
  · exact (run_bind_ok (removeStale_runs isStale _)).trans rfl

end

-- =========================================================== in a tree

section

variable {files : List File} {isStale : String → Bool} {disk : Disk refused FileTree}
  {location : List String} {after : Disk refused Directory}

theorem replace_ok {places : List String}
    (hfolder : disk.place.folder dir = .ok (location, entries))
    (h : (Folder.replace (m := Step refused) dir files isStale).run
      ⟨entries, disk.drafts, disk.stagings⟩ = .ok places after) :
    (replace dir files isStale).run disk = .ok places (within disk.place location after) := by
  change replace dir files isStale disk = _
  unfold replace
  rw [hfolder]
  dsimp only
  rw [show Folder.replace (m := Step refused) dir files isStale _ = _ from h]

theorem replace_error {fault : Fault}
    (hfolder : disk.place.folder dir = .ok (location, entries))
    (h : (Folder.replace (m := Step refused) dir files isStale).run
      ⟨entries, disk.drafts, disk.stagings⟩ = .error fault after) :
    (replace dir files isStale).run disk = .error fault (within disk.place location after) := by
  change replace dir files isStale disk = _
  unfold replace
  rw [hfolder]
  dsimp only
  rw [show Folder.replace (m := Step refused) dir files isStale _ = _ from h]

end

end Disk

end SerialEndpoint
