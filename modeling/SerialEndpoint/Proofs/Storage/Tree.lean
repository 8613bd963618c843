/-
The tree of files in memory: what putting files into a directory does to the
names in it, what changing a directory does to the tree around it, and that a
directory is not made where there is one.

# In a directory

A directory is a list of names with what they stand for, and what matters of
it is what a look-up finds. Putting a node changes the look-up of its own name
and of no other (`Directory.lookup_put`). So files with names of their own are
all there once they are put (`Directory.lookup_putAll_of_mem`), and the rest
is as before (`Directory.lookup_putAll`). That no name is taken twice
(`Directory.Distinct`) is kept by everything that is done to a directory, and
it is what lets a part of one be looked up like the whole.

# Around a directory

A directory is changed at a location, by going down and putting each one on
the way back under its name. What is found at the location is the changed
one, and if it was changed to what it was, so is everything.

# Along a path

A path may lead through the very directory that is changed, down into it and
up again. It leads to the same place afterwards if no directory in it went
away (`FileTree.resolve_withFolder`), for three reasons:

- a walk to a directory goes through directories only, since it has to look
  something up in each (`FileTree.directory_of_walk`);
- where none goes away in the directory that is changed, none goes away
  anywhere (`Directory.find?_change_directory`). What one of them holds may
  change, but not that it is there;
- so each step of the walk can be done again (`FileTree.walk_again`).

# Making a directory

Where a path leads to something, its last name is taken, whether it is an
ordinary one or made of dots (`FileTree.taken_of_walk`), and no directory is
made there (`FileTree.makeDirectory_taken`).
-/
import Mathlib.Data.List.Nodup
import SerialEndpoint.Storage.Tree

namespace SerialEndpoint

-- ========================================================= directories

namespace Directory

variable {name : String} {node : Node} {entries : Directory}

/-- The node that was put under a name is there, and the others stay. -/
theorem lookup_put (key : String) :
    (entries.put name node).lookup key
      = if key = name then some node else entries.lookup key := by
  induction entries with
  | nil =>
      unfold put
      rw [List.lookup_cons, List.lookup_nil]
      split <;> simp_all
  | cons entry rest ih =>
      unfold put
      split
      · rename_i heq
        rw [List.lookup_cons, List.lookup_cons, heq]
        split <;> simp_all
      · rename_i hne
        rw [List.lookup_cons, List.lookup_cons, ih]
        split
        · rename_i hkey
          rw [if_neg]
          rintro rfl
          exact hne (beq_iff_eq.1 hkey).symm
        · rfl

/-- Putting what is there anyway changes nothing. -/
theorem put_self (h : entries.lookup name = some node) : entries.put name node = entries := by
  induction entries with
  | nil => cases h
  | cons entry rest ih =>
      unfold put
      rw [List.lookup_cons] at h
      split
      · rename_i heq
        rw [heq, beq_self_eq_true] at h
        cases h
        rw [← heq]
      · rename_i hne
        rw [beq_eq_false_iff_ne.2 (Ne.symm hne)] at h
        rw [ih h]

/-- True of a directory in which no name is taken twice. -/
def Distinct (entries : Directory) : Prop := (entries.map Prod.fst).Nodup

instance : Decidable entries.Distinct := inferInstanceAs (Decidable (List.Nodup _))

/-- Putting a node adds no name but its own. -/
theorem mem_names_put {key : String} (h : key ∈ (entries.put name node).map Prod.fst) :
    key = name ∨ key ∈ entries.map Prod.fst := by
  induction entries with
  | nil => exact .inl (List.mem_singleton.1 h)
  | cons entry rest ih =>
      unfold put at h
      split at h
      · exact (List.mem_cons.1 h).imp_right (List.mem_cons_of_mem _)
      · rw [List.map_cons, List.mem_cons] at h
        rcases h with rfl | h
        · exact .inr (List.mem_cons_self ..)
        · exact (ih h).imp_right (List.mem_cons_of_mem _)

theorem Distinct.put (h : entries.Distinct) : (entries.put name node).Distinct := by
  induction entries with
  | nil => exact List.nodup_singleton name
  | cons entry rest ih =>
      obtain ⟨hfresh, hrest⟩ := List.nodup_cons.1 h
      unfold Directory.put
      split
      · rename_i heq
        exact List.nodup_cons.2 ⟨heq ▸ hfresh, hrest⟩
      · rename_i hne
        exact List.nodup_cons.2 ⟨fun hmem => (mem_names_put hmem).elim hne hfresh, ih hrest⟩

theorem Distinct.filter (h : entries.Distinct) (p : String × Node → Bool) :
    Distinct (entries.filter p) :=
  h.sublist (List.filter_sublist.map Prod.fst)

/-- What is left of a directory is found as before. -/
theorem Distinct.lookup_filter (h : entries.Distinct) (p : String × Node → Bool) (key : String) :
    (entries.filter p).lookup key = (entries.lookup key).filter fun node => p (key, node) := by
  induction entries with
  | nil => rfl
  | cons entry rest ih =>
      obtain ⟨hfresh, hrest⟩ := List.nodup_cons.1 h
      rw [List.filter_cons, List.lookup_cons]
      by_cases hkey : key = entry.1
      · subst hkey
        have hgone : (rest.filter p).lookup entry.1 = none := by
          refine List.lookup_eq_none_iff.2 fun other hother => ?_
          rw [bne_iff_ne, ne_comm]
          exact fun heq => hfresh (heq ▸ List.mem_map_of_mem (List.mem_of_mem_filter hother))
        rw [beq_self_eq_true, Option.filter_some]
        split
        · rw [List.lookup_cons, beq_self_eq_true]
        · exact hgone
      · rw [beq_eq_false_iff_ne.2 hkey]
        dsimp only
        rw [← ih hrest]
        split
        · rw [List.lookup_cons, beq_eq_false_iff_ne.2 hkey]
        · rfl

/-- Puts files in order. -/
def putAll (files : List Folder.File) (entries : Directory) : Directory :=
  files.foldl (fun entries file => entries.put file.1 (.file file.2)) entries

theorem putAll_cons (file : Folder.File) (files : List Folder.File) (entries : Directory) :
    entries.putAll (file :: files) = (entries.put file.1 (.file file.2)).putAll files := rfl

/-- A name stays as it is where no file is put under it. -/
theorem lookup_putAll {files : List Folder.File} :
    ∀ {entries : Directory}, (∀ file ∈ files, file.1 ≠ name) →
      (entries.putAll files).lookup name = entries.lookup name := by
  induction files with
  | nil => exact fun _ => rfl
  | cons file files ih =>
      intro entries h
      rw [putAll_cons, ih fun other hother => h other (List.mem_cons_of_mem _ hother), lookup_put,
        if_neg (h file (List.mem_cons_self ..)).symm]

theorem Distinct.putAll {files : List Folder.File} :
    ∀ {entries : Directory}, entries.Distinct → (entries.putAll files).Distinct := by
  induction files with
  | nil => exact id
  | cons file files ih => exact fun h => ih h.put

/-- Files with names of their own are all there. -/
theorem lookup_putAll_of_mem {files : List Folder.File} {file : Folder.File} :
    ∀ {entries : Directory}, (files.map Prod.fst).Nodup → file ∈ files →
      (entries.putAll files).lookup file.1 = some (.file file.2) := by
  induction files with
  | nil => exact fun _ h => absurd h List.not_mem_nil
  | cons first files ih =>
      intro entries hnodup hmem
      obtain ⟨hfresh, hrest⟩ := List.nodup_cons.1 hnodup
      rw [putAll_cons]
      rcases List.mem_cons.1 hmem with rfl | hmem
      · have hothers : ∀ other ∈ files, other.1 ≠ file.1 := by
          intro other hother heq
          exact hfresh (List.mem_map.2 ⟨other, hother, heq⟩)
        rw [lookup_putAll hothers, lookup_put, if_pos rfl]
      · exact ih hrest hmem

/-- Putting files that are there anyway changes nothing. -/
theorem putAll_self {files : List Folder.File}
    (h : ∀ file ∈ files, entries.lookup file.1 = some (.file file.2)) :
    entries.putAll files = entries := by
  induction files with
  | nil => rfl
  | cons file files ih =>
      rw [putAll_cons, put_self (h file (List.mem_cons_self ..))]
      exact ih fun other hother => h other (List.mem_cons_of_mem _ hother)

theorem find?_cons {path : List String} {inner : Directory}
    (h : entries.lookup name = some (.directory inner)) :
    entries.find? (name :: path) = inner.find? path := by
  rw [find?, h]
  cases path <;> rfl

/-- What leads to a directory leads through one. -/
theorem lookup_of_find? {path : List String} {inner : Directory}
    (h : entries.find? (name :: path) = some (.directory inner)) :
    ∃ next : Directory, entries.lookup name = some (.directory next)
      ∧ next.find? path = some (.directory inner) := by
  rw [find?] at h
  split at h
  · cases h
  · rename_i found hfound
    split at h
    · cases h
      exact ⟨inner, hfound, rfl⟩
    · exact ⟨_, hfound, h⟩
    · cases h

theorem find?_change {f : Directory → Directory} {path : List String} :
    ∀ {entries inner : Directory}, entries.find? path = some (.directory inner) →
      (entries.change f path).find? path = some (.directory (f inner)) := by
  induction path with
  | nil =>
      intro entries inner h
      cases h
      rfl
  | cons name path ih =>
      intro entries inner h
      obtain ⟨next, hnext, hinner⟩ := lookup_of_find? h
      unfold change
      rw [hnext]
      dsimp only
      rw [find?_cons (by rw [lookup_put, if_pos rfl]), ih hinner]

theorem change_self {path : List String} :
    ∀ {entries inner : Directory}, entries.find? path = some (.directory inner) →
      entries.change (fun _ => inner) path = entries := by
  induction path with
  | nil =>
      intro entries inner h
      cases h
      rfl
  | cons name path ih =>
      intro entries inner h
      obtain ⟨next, hnext, hinner⟩ := lookup_of_find? h
      unfold change
      rw [hnext]
      dsimp only
      rw [ih hinner, put_self hnext]

theorem find?_concat {path : List String} {inner : Directory} :
    ∀ {entries : Directory}, entries.find? path = some (.directory inner) →
      entries.find? (path ++ [name]) = inner.lookup name := by
  induction path with
  | nil =>
      intro entries h
      cases h
      rw [List.nil_append, find?]
      cases inner.lookup name <;> rfl
  | cons first path ih =>
      intro entries h
      obtain ⟨next, hnext, hinner⟩ := lookup_of_find? h
      rw [List.cons_append, find?_cons hnext, ih hinner]

/-- Where a directory is changed and none in it goes away, none goes away
anywhere. -/
theorem find?_change_directory {f : Directory → Directory} {location : List String} :
    ∀ {entries inner : Directory}, entries.find? location = some (.directory inner) →
      (∀ name next, inner.lookup name = some (.directory next) →
        (f inner).lookup name = some (.directory next)) →
      ∀ {path : List String} {found : Directory}, entries.find? path = some (.directory found) →
        ∃ other, (entries.change f location).find? path = some (.directory other) := by
  induction location with
  | nil =>
      intro entries inner h hkept path found hfound
      cases h
      cases path with
      | nil => exact ⟨_, rfl⟩
      | cons name path =>
          -- behind its first name the path is in a part that did not change
          obtain ⟨next, hnext, hpath⟩ := lookup_of_find? hfound
          exact ⟨found, (find?_cons (hkept name next hnext)).trans hpath⟩
  | cons first location ih =>
      intro entries inner h hkept path found hfound
      obtain ⟨below, hbelow, hinner⟩ := lookup_of_find? h
      unfold change
      rw [hbelow]
      dsimp only
      cases path with
      | nil => exact ⟨_, rfl⟩
      | cons name path =>
          obtain ⟨next, hnext, hpath⟩ := lookup_of_find? hfound
          -- the path goes on towards the location, or leaves for an unchanged part
          by_cases hname : name = first
          · subst hname
            cases hbelow.symm.trans hnext
            obtain ⟨other, hother⟩ := ih hinner hkept hpath
            exact ⟨other, (find?_cons (by rw [lookup_put, if_pos rfl])).trans hother⟩
          · refine ⟨found, (find?_cons ?_).trans hpath⟩
            rw [lookup_put, if_neg hname, hnext]

end Directory

-- =============================================================== trees

namespace FileTree

variable {tree : FileTree} {location : List String} {entries : Directory}

/-- The directory at a location holds what it was given. -/
theorem find?_withFolder (h : tree.find? location = some (.directory entries))
    (after : Directory) :
    (tree.withFolder location after).find? location = some (.directory after) :=
  Directory.find?_change h

theorem withFolder_self (h : tree.find? location = some (.directory entries)) :
    tree.withFolder location entries = tree := by
  unfold withFolder
  rw [Directory.change_self h]

/-- A walk to the end of a path goes by what lies above. -/
theorem walk_append {segments more : List String} :
    ∀ {location : List String}, tree.walk location (segments ++ more)
      = (tree.walk location segments).bind fun above => tree.walk above more := by
  induction segments with
  | nil =>
      intro location
      rfl
  | cons segment segments ih =>
      intro location
      rw [List.cons_append, walk, walk]
      split
      · split
        · exact ih
        split
        · exact ih
        split
        · rfl
        split
        · rfl
        · exact ih
      · rfl

/-- What is at a path is where a walk along it ends. -/
theorem resolve_walks {path : String} {node : Node}
    (h : tree.resolve path = .ok (location, node)) :
    checkPath path = .ok ()
      ∧ tree.walk (tree.start path) (FilePath.segments path) = .ok location
      ∧ tree.find? location = some node := by
  unfold resolve at h
  cases hcheck : checkPath path with
  | error fault =>
      rw [hcheck] at h
      cases h
  | ok _ =>
      cases hwalk : tree.walk (tree.start path) (FilePath.segments path) with
      | error fault =>
          rw [hcheck, hwalk] at h
          cases h
      | ok there =>
          simp only [hcheck, hwalk, bind, Except.bind] at h
          split at h
          · cases h
          · rename_i found hfound
            split at h
            · cases h
            · cases h
              exact ⟨rfl, rfl, hfound⟩

/-- A path that can be resolved is not empty. -/
theorem ne_empty_of_resolve {path : String} {node : Node}
    (h : tree.resolve path = .ok (location, node)) : path ≠ "" := by
  rintro rfl
  cases (resolve_walks h).1

/-- A walk to a directory starts at one. -/
theorem directory_of_walk {segments there : List String}
    (h : tree.walk location segments = .ok there)
    (hthere : tree.find? there = some (.directory entries)) :
    ∃ inner, tree.find? location = some (.directory inner) := by
  cases segments with
  | nil =>
      cases h
      exact ⟨entries, hthere⟩
  | cons segment segments =>
      rw [walk] at h
      split at h
      · exact ⟨_, ‹_›⟩
      · cases h

/-- A walk to a directory goes through directories only, so it can be done
again where these are still there. -/
theorem walk_again {tree' : FileTree} {there : List String}
    (hkept : ∀ path found, tree.find? path = some (.directory found) →
      ∃ other, tree'.find? path = some (.directory other))
    (hthere : tree.find? there = some (.directory entries)) {segments : List String} :
    ∀ {location : List String}, tree.walk location segments = .ok there →
      tree'.walk location segments = .ok there := by
  induction segments with
  | nil => exact id
  | cons segment segments ih =>
      intro location h
      obtain ⟨inner, hinner⟩ := directory_of_walk h hthere
      obtain ⟨inner', hinner'⟩ := hkept _ _ hinner
      rw [walk, hinner] at h
      rw [walk, hinner']
      dsimp only at h ⊢
      split
      · rw [if_pos ‹_›] at h
        exact ih h
      rw [if_neg ‹_›] at h
      split
      · rw [if_pos ‹_›] at h
        exact ih h
      rw [if_neg ‹_›] at h
      split at h
      · cases h
      split at h
      · cases h
      rename_i hshort _
      rw [if_neg hshort]
      -- the walk goes on from this name, so the name is that of a directory
      obtain ⟨next, hnext⟩ := directory_of_walk h hthere
      obtain ⟨next', hnext'⟩ := hkept _ _ hnext
      have htaken : inner'.lookup segment = some (.directory next') :=
        (Directory.find?_concat hinner').symm.trans hnext'
      rw [htaken, Option.isNone_some, if_neg Bool.false_ne_true]
      exact ih h

/-- The directory at a path is at that path with new entries too, unless a
directory in it went away. -/
theorem resolve_withFolder {path : String} {after : Directory}
    (h : tree.resolve path = .ok (location, .directory entries))
    (hkept : ∀ name next, entries.lookup name = some (.directory next) →
      after.lookup name = some (.directory next)) :
    (tree.withFolder location after).resolve path = .ok (location, .directory after) := by
  obtain ⟨hcheck, hwalk, hthere⟩ := resolve_walks h
  have hdirectories : ∀ place found, tree.find? place = some (.directory found) →
      ∃ other, (tree.withFolder location after).find? place = some (.directory other) :=
    fun _ _ => Directory.find?_change_directory (f := fun _ => after) hthere hkept
  have hwalk' : (tree.withFolder location after).walk ((tree.withFolder location after).start path)
      (FilePath.segments path) = .ok location := walk_again hdirectories hthere hwalk
  unfold resolve
  simp only [hcheck, hwalk', bind, Except.bind]
  rw [find?_withFolder hthere]
  dsimp only
  rw [show (Node.directory after).isDirectory = true from rfl, Bool.not_true, Bool.and_false,
    if_neg Bool.false_ne_true]

theorem folder_of_resolve {path : String}
    (h : tree.resolve path = .ok (location, .directory entries)) :
    tree.folder path = .ok (location, entries) := by
  unfold folder
  rw [if_neg (ne_empty_of_resolve h), h]
  rfl

/-- A directory with a path of its own is what is at that path. -/
theorem resolve_of_folder {path : String} (hne : path ≠ "")
    (h : tree.folder path = .ok (location, entries)) :
    tree.resolve path = .ok (location, .directory entries) := by
  unfold folder at h
  rw [if_neg hne] at h
  cases hresolve : tree.resolve path with
  | error fault =>
      rw [hresolve] at h
      cases h
  | ok found =>
      rw [hresolve] at h
      obtain ⟨there, bytes | inner⟩ := found <;> cases h
      rfl

/-- A walk to a name ends at what has it. -/
theorem taken_of_walk {name : String} {above : List String}
    (h : tree.walk above [name] = .ok location) :
    ∃ inner, tree.find? above = some (.directory inner)
      ∧ (name = "." ∨ name = ".." ∨ isTooLong name = false ∧ (inner.lookup name).isSome) := by
  rw [walk] at h
  split at h
  · rename_i inner hinner
    refine ⟨inner, hinner, ?_⟩
    split at h
    · exact .inl ‹_›
    split at h
    · exact .inr (.inl ‹_›)
    split at h
    · cases h
    split at h
    · cases h
    · rename_i hshort htaken
      rw [Bool.not_eq_true] at hshort
      rw [Option.isNone_iff_eq_none, ← ne_eq, Option.ne_none_iff_isSome] at htaken
      exact .inr (.inr ⟨hshort, htaken⟩)
  · cases h

/-- No directory is made where something is. -/
theorem makeDirectory_taken {path : String} {node : Node}
    (h : tree.resolve path = .ok (location, node)) :
    tree.makeDirectory path = .error .alreadyExists := by
  obtain ⟨hcheck, hwalk, -⟩ := resolve_walks h
  unfold makeDirectory
  simp only [hcheck, bind, Except.bind]
  cases hlast : (FilePath.segments path).getLast? with
  | none => rfl
  | some name =>
      obtain ⟨front, hsegments⟩ := List.getLast?_eq_some_iff.1 hlast
      rw [hsegments, walk_append] at hwalk
      rw [hsegments, List.dropLast_concat]
      cases habove : tree.walk (tree.start path) front with
      | error fault =>
          rw [habove] at hwalk
          cases hwalk
      | ok above =>
          rw [habove] at hwalk
          obtain ⟨inner, hinner, hname⟩ := taken_of_walk hwalk
          simp only [hinner]
          rw [or_assoc.symm] at hname
          rcases hname with hdots | ⟨hshort, htaken⟩
          · rw [if_pos hdots]
          · by_cases hdots : name = "." ∨ name = ".."
            · rw [if_pos hdots]
            · rw [if_neg hdots, if_neg (ne_true_of_eq_false hshort), if_pos htaken]

end FileTree

end SerialEndpoint
