/-
Keymaps: for one component, the command line of every operation it has.

A keymap is kept in the order of its keys, by their bytes in UTF-8, which
is the order by code points; the order is part of the type, so equal
contents are equal keymaps.
-/
import SerialEndpoint.Command

namespace SerialEndpoint

/-- Puts a key into a list ordered by key, in place of an equal one. -/
def insertByKey (key value : String) : List (String × String) → List (String × String)
  | [] => [(key, value)]
  | entry :: rest =>
    if key < entry.1 then (key, value) :: entry :: rest
    else if key = entry.1 then (key, value) :: rest
    else entry :: insertByKey key value rest

/-- An entry of the grown list is the new one or an old one. -/
theorem mem_insertByKey {key value : String} {entries : List (String × String)}
    {e : String × String} (h : e ∈ insertByKey key value entries) :
    e = (key, value) ∨ e ∈ entries := by
  induction entries with
  | nil => simpa [insertByKey] using h
  | cons entry rest ih =>
    simp only [insertByKey] at h
    split at h
    · simpa using h
    · split at h
      · rcases List.mem_cons.1 h with h | h
        · exact .inl h
        · exact .inr (List.mem_cons_of_mem _ h)
      · rcases List.mem_cons.1 h with h | h
        · exact .inr (h ▸ List.mem_cons_self ..)
        · exact (ih h).imp_right (List.mem_cons_of_mem _)

/-- Growing a list keeps it in order. -/
theorem pairwise_insertByKey (key value : String) {entries : List (String × String)}
    (h : entries.Pairwise fun a b => a.1 < b.1) :
    (insertByKey key value entries).Pairwise fun a b => a.1 < b.1 := by
  induction entries with
  | nil => simp [insertByKey]
  | cons entry rest ih =>
    obtain ⟨hfirst, hrest⟩ := List.pairwise_cons.1 h
    simp only [insertByKey]
    split
    · rename_i hlt
      refine List.pairwise_cons.2 ⟨fun e he => ?_, h⟩
      rcases List.mem_cons.1 he with rfl | he
      · exact hlt
      · exact String.lt_trans hlt (hfirst e he)
    · split
      · rename_i heq
        exact List.pairwise_cons.2 ⟨fun e he => by simpa [heq] using hfirst e he, hrest⟩
      · rename_i hlt hne
        refine List.pairwise_cons.2 ⟨fun e he => ?_, ih hrest⟩
        rcases mem_insertByKey he with rfl | he
        · rcases Std.lt_trichotomy entry.1 key with hlt' | heq | hgt
          · exact hlt'
          · exact absurd heq.symm hne
          · exact absurd hgt hlt
        · exact hfirst e he

/-- The command lines of one component by key. -/
structure Keymap where
  entries : List (String × String) := []
  sorted : entries.Pairwise fun a b => a.1 < b.1 := by exact .nil

namespace Keymap

/-- Adds a key, or gives an old key a new line. -/
def insert (keymap : Keymap) (key line : String) : Keymap :=
  ⟨insertByKey key line keymap.entries, pairwise_insertByKey key line keymap.sorted⟩

/-- The keymap of some entries; of equal keys the last wins. -/
def ofEntries (entries : List (String × String)) : Keymap :=
  entries.foldl (fun keymap entry => keymap.insert entry.1 entry.2) {}

/-- The keymap of some commands. -/
def ofCommands (commands : List Command) : Keymap :=
  ofEntries (commands.map fun c => (c.operation.key, c.line))

/-- The line of a key. -/
def find? (keymap : Keymap) (key : String) : Option String :=
  keymap.entries.lookup key

/-- The line of an operation. -/
def get? (keymap : Keymap) (operation : Operation) : Option String :=
  keymap.find? operation.key

/-- The keys in order. -/
def keys (keymap : Keymap) : List String := keymap.entries.map Prod.fst

/-- The lines in the order of their keys. -/
def lines (keymap : Keymap) : List String := keymap.entries.map Prod.snd

/-- How many keys there are. -/
def size (keymap : Keymap) : Nat := keymap.entries.length

end Keymap

end SerialEndpoint
