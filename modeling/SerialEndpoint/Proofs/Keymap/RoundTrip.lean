/-
Keymaps read back from their JSON. Whatever its keys and lines are, a keymap
is what the reader makes of the text that the printer makes of it
(`ofJson?_json`).

# Characters

The printer writes each character by itself, in one of three ways (`Written`).
So the reader takes it up by itself, as one piece that stands for it
(`readPieces?_escape`): the character, or a code unit for a control. The
reader joins two code units where the first is half of a pair. A control is no
such half, so a piece never meets another one to be joined with
(`joinPieces?_stands`). This is the only place where what comes behind a
character could matter.

# From strings to keymaps

Each stage is stated with any text behind what it reads, so the next one can
go on there:

- a string is its pieces and the quote that ends them, which no piece holds
  unescaped (`readString?_quote`);
- a member is two strings, and the character behind it says whether there are
  others (`readMembers?_member`);
- the members are read with a bound on how many there are. A member is at
  least one character long, so the length of the text is bound enough
  (`length_le_intercalate`);
- the members of a keymap come in the order of their keys, so putting them in
  again puts each behind the others (`ofEntries_entries`).

# Files

A file in between changes nothing, as a text is read back from its own bytes
(`load_json`). So a component finds in its keymap file the commands that it
was rendered with, and no others (`keymaps_survive_files`). Of the file it is
only assumed that reading it gives the bytes that were written.
-/
import Mathlib.Data.List.DropRight
import SerialEndpoint.Proofs.Rendering
import SerialEndpoint.Proofs.Keymaps
import SerialEndpoint.Proofs.Storage.Steps
import SerialEndpoint.Proofs.Utf8
import SerialEndpoint.Keymap.Loading
import SerialEndpoint.Storage.Tree

namespace SerialEndpoint

namespace Keymap

-- ============================================================ characters

/-- A piece that stands for a character: the character itself, or the value
of a control. -/
inductive Stands : Piece → Char → Prop where
  | char (c : Char) : Stands (.char c) c
  | unit {c : Char} (h : c.toNat < 0x20) : Stands (.unit c.toNat) c

/-- How a character is written: with a letter for it, by its value, or as it
is. -/
inductive Written (c : Char) : List Char → Prop where
  | letter {letter : Char} (hunit : letter ≠ 'u') (h : letterEscape? letter = some c) :
      Written c ['\\', letter]
  | value (h : c.toNat < 0x20) :
      Written c ['\\', 'u', '0', '0', hexDigit (c.toNat / 16), hexDigit (c.toNat % 16)]
  | itself (hcontrol : ¬ c.toNat < 0x20) (hquote : c ≠ '"') (hslash : c ≠ '\\') : Written c [c]

theorem escape_written (c : Char) : Written c (escape c) := by
  unfold escape
  -- the quote, the backslash and five controls have letters
  iterate 7
    split
    · rename_i h
      exact .letter (by decide) (by rw [h]; rfl)
  split
  · rename_i h
    exact .value h
  · rename_i hquote hslash _ _ _ _ _ hcontrol
    exact .itself hcontrol hquote hslash

theorem hexValue?_hexDigit : ∀ n, n < 16 → hexValue? (hexDigit n) = some n := by
  decide

/-- The four digits of a control are its value. -/
theorem hexQuad?_control {n : Nat} (h : n < 0x20) :
    hexQuad? '0' '0' (hexDigit (n / 16)) (hexDigit (n % 16)) = some n := by
  have hzero : hexValue? '0' = some 0 := by decide
  have hvalue : ((0 * 16 + 0) * 16 + n / 16) * 16 + n % 16 = n := by omega
  unfold hexQuad?
  rw [hzero, hexValue?_hexDigit _ (by omega), hexValue?_hexDigit _ (by omega)]
  exact congrArg some hvalue

/-- What is written for a character is read as one piece that stands for
it. -/
theorem readPieces?_escape (c : Char) :
    ∃ piece, Stands piece c ∧ ∀ rest, readPieces? (escape c ++ rest)
      = (readPieces? rest).map fun read => (piece :: read.1, read.2) := by
  have hwritten := escape_written c
  generalize escape c = text at hwritten ⊢
  cases hwritten with
  | @letter letter hunit h =>
      refine ⟨.char c, .char c, fun rest => ?_⟩
      rw [List.cons_append, List.singleton_append, readPieces?, h]
      · cases readPieces? rest <;> rfl
      · exact fun _ _ _ _ _ heq _ => hunit heq
  | value h =>
      refine ⟨.unit c.toNat, .unit h, fun rest => ?_⟩
      show readPieces? ('\\' :: 'u' :: '0' :: '0' :: _ :: _ :: rest) = _
      rw [readPieces?, hexQuad?_control h]
      cases readPieces? rest <;> rfl
  | itself hcontrol hquote hslash =>
      refine ⟨.char c, .char c, fun rest => ?_⟩
      rw [List.singleton_append, readPieces?]
      · rw [if_neg (not_or.2 ⟨hcontrol, hslash⟩)]
        cases readPieces? rest <;> rfl
      · exact hquote
      · exact fun _ _ _ _ _ heq _ => hslash heq
      · exact fun _ _ heq _ => hslash heq

-- =============================================================== strings

/-- A written string is read as pieces that stand for its characters. -/
theorem readPieces?_quoted (chars rest : List Char) :
    ∃ pieces, List.Forall₂ Stands pieces chars
      ∧ readPieces? (chars.flatMap escape ++ '"' :: rest) = some (pieces, rest) := by
  induction chars with
  | nil => exact ⟨[], .nil, by rw [List.flatMap_nil, List.nil_append, readPieces?]⟩
  | cons c chars ih =>
      obtain ⟨piece, hstands, hread⟩ := readPieces?_escape c
      obtain ⟨pieces, hall, hrest⟩ := ih
      refine ⟨piece :: pieces, .cons hstands hall, ?_⟩
      rw [List.flatMap_cons, List.append_assoc, hread, hrest]
      rfl

/-- A code unit that is no half of a pair is a character, whatever comes
behind it. -/
theorem joinPieces?_unit {value : Nat} (h : value < 0xD800) (rest : List Piece) :
    joinPieces? (.unit value :: rest) = (joinPieces? rest).map (Char.ofNat value :: ·) := by
  have halone : ¬ (0xD800 ≤ value ∧ value < 0xE000) := by omega
  rcases rest with _ | ⟨c | low, rest⟩
  · rw [joinPieces?.eq_4 _ _ (by rintro _ _ ⟨⟩), if_neg halone]
    rfl
  · rw [joinPieces?.eq_4 _ _ (by rintro _ _ ⟨⟩), if_neg halone]
    rfl
  · rw [joinPieces?.eq_3, if_neg (by omega), if_neg (by omega)]
    rfl

/-- Pieces are joined to the characters that they stand for. -/
theorem joinPieces?_stands {pieces : List Piece} {chars : List Char}
    (h : List.Forall₂ Stands pieces chars) : joinPieces? pieces = some chars := by
  induction h with
  | nil => rw [joinPieces?]
  | cons hstands _ ih =>
      cases hstands with
      | char c =>
          rw [joinPieces?, ih]
          rfl
      | @unit c h =>
          rw [joinPieces?_unit (by omega), ih, Char.ofNat_toNat]
          rfl

/-- A string is read back from what is written for it. -/
theorem readString?_quote (text : String) (rest : List Char) :
    readString? (quote text ++ rest) = some (text, rest) := by
  obtain ⟨pieces, hstands, hread⟩ := readPieces?_quoted text.toList rest
  have hquote : quote text ++ rest = '"' :: (text.toList.flatMap escape ++ '"' :: rest) := by
    unfold quote
    rw [List.cons_append, List.cons_append, List.append_assoc, List.singleton_append]
  rw [hquote, readString?, hread, Option.bind_eq_bind, Option.bind_some]
  dsimp only
  rw [joinPieces?_stands hstands, Option.bind_eq_bind, Option.bind_some, String.ofList_toList]
  rfl

-- =============================================================== objects

theorem skipSpace_quote (text : String) (rest : List Char) :
    skipSpace (quote text ++ rest) = quote text ++ rest := by
  unfold skipSpace quote
  rfl

theorem skipSpace_member (entry : String × String) (rest : List Char) :
    skipSpace (member entry ++ rest)
      = quote entry.1 ++ ([':', ' '] ++ quote entry.2 ++ rest) := by
  unfold member
  rw [List.append_assoc, List.append_assoc, List.append_assoc]
  show skipSpace (quote entry.1 ++ _) = _
  rw [skipSpace_quote, List.append_assoc]

theorem skipSpace_skipSpace (text : List Char) : skipSpace (skipSpace text) = skipSpace text :=
  List.dropWhile_idempotent ..

/-- Spaces before the first member are passed over. -/
theorem readMembers?_skipSpace (fuel : Nat) (text : List Char) :
    readMembers? fuel (skipSpace text) = readMembers? fuel text := by
  cases fuel with
  | zero => rfl
  | succ fuel =>
      unfold readMembers?
      rw [skipSpace_skipSpace]

/-- A member is read from what is written for it, and what comes behind it
says whether there are others. -/
theorem readMembers?_member (fuel : Nat) (entry : String × String) (tail : List Char) :
    readMembers? (fuel + 1) (member entry ++ tail) = match skipSpace tail with
      | ',' :: rest => do
        let (members, rest) ← readMembers? fuel rest
        pure (entry :: members, rest)
      | '\x7d' :: rest => pure ([entry], rest)
      | _ => none := by
  have hline : readString? (skipSpace (quote entry.2 ++ tail)) = some (entry.2, tail) := by
    rw [skipSpace_quote, readString?_quote]
  rw [readMembers?, skipSpace_member, readString?_quote, Option.bind_eq_bind, Option.bind_some]
  show (readString? (skipSpace (quote entry.2 ++ tail)) >>= _) = _
  rw [hline]
  rfl

/-- The members of an object are read back from what is written for them. -/
theorem readMembers?_members (rest : List Char) (entries : List (String × String)) :
    ∀ {fuel : Nat}, entries ≠ [] → entries.length ≤ fuel →
      readMembers? fuel
          (List.intercalate [','] (entries.map member) ++ '\n' :: '\x7d' :: rest)
        = some (entries, rest) := by
  induction entries with
  | nil => exact fun hne => absurd rfl hne
  | cons entry entries ih =>
      intro fuel _ hfuel
      cases fuel with
      | zero => cases hfuel
      | succ fuel =>
          cases entries with
          | nil =>
              rw [List.map_singleton, List.intercalate_singleton, readMembers?_member]
              rfl
          | cons second entries =>
              have hothers := ih (List.cons_ne_nil second entries) (Nat.le_of_succ_le_succ hfuel)
              rw [List.map_cons] at hothers
              rw [List.map_cons, List.map_cons, List.intercalate_cons_cons, List.append_assoc,
                List.append_assoc, List.singleton_append, readMembers?_member]
              show (readMembers? fuel
                (List.intercalate [','] _ ++ '\n' :: '\x7d' :: rest) >>= _) = _
              rw [hothers]
              rfl

theorem length_le_intercalate (entries : List (String × String)) :
    entries.length ≤ (List.intercalate [','] (entries.map member)).length := by
  induction entries with
  | nil => exact Nat.zero_le _
  | cons entry entries ih =>
      have hsome : 1 ≤ (member entry).length := by
        unfold member
        rw [List.length_append, List.length_append, List.length_append]
        have hspace : "\n  ".toList.length = 3 := rfl
        omega
      cases entries with
      | nil =>
          rw [List.map_singleton, List.intercalate_singleton]
          exact hsome
      | cons second entries =>
          rw [List.map_cons] at ih
          rw [List.map_cons, List.map_cons, List.intercalate_cons_cons, List.length_append,
            List.length_append, List.length_cons]
          omega

/-- Members begin with the quote of the first key. -/
theorem head?_members {entries : List (String × String)} (hne : entries ≠ [])
    (rest : List Char) :
    (skipSpace (List.intercalate [','] (entries.map member) ++ rest)).head? = some '"' := by
  obtain ⟨entry, entries, rfl⟩ := List.exists_cons_of_ne_nil hne
  rw [List.map_cons]
  cases entries with
  | nil =>
      rw [List.map_nil, List.intercalate_singleton, skipSpace_member]
      rfl
  | cons second entries =>
      rw [List.map_cons, List.intercalate_cons_cons, List.append_assoc, List.append_assoc,
        skipSpace_member]
      rfl

/-- Behind its brace an object has ended, or its members follow. -/
theorem readObject?_open (text : List Char) :
    readObject? ('\x7b' :: text) = (match skipSpace text with
      | '\x7d' :: rest => if skipSpace rest = [] then some [] else none
      | rest => do
        let (members, rest) ← readMembers? (text.length + 1) rest
        if skipSpace rest = [] then some members else none) := rfl

/-- Members that do not end at once are read as members. -/
theorem readObject?_members {text : List Char} {entries : List (String × String)}
    (hquote : (skipSpace text).head? = some '"')
    (h : readMembers? (text.length + 1) text = some (entries, [])) :
    readObject? ('\x7b' :: text) = some entries := by
  obtain ⟨after, hafter⟩ := List.head?_eq_some_iff.1 hquote
  rw [← readMembers?_skipSpace, hafter] at h
  rw [readObject?_open, hafter]
  show (readMembers? (text.length + 1) ('"' :: after) >>= _) = _
  rw [h]
  rfl

/-- An object is read back from what is written for it. -/
theorem readObject?_json (keymap : Keymap) :
    readObject? keymap.json.toList = some keymap.entries := by
  unfold json
  rw [String.toList_ofList]
  by_cases hnil : keymap.entries = []
  · rw [if_pos hnil, hnil]
    rfl
  · rw [if_neg hnil, List.cons_append]
    have hfuel := length_le_intercalate keymap.entries
    refine readObject?_members ?_ (readMembers?_members [] keymap.entries hnil ?_)
    · exact head?_members hnil _
    · rw [List.length_append]
      omega

-- =============================================================== keymaps

/-- A key behind all others goes to the end. -/
theorem insertByKey_last {key line : String} {entries : List (String × String)}
    (h : ∀ entry ∈ entries, entry.1 < key) :
    insertByKey key line entries = entries ++ [(key, line)] := by
  induction entries with
  | nil => rfl
  | cons entry entries ih =>
      have hlt := h entry (List.mem_cons_self ..)
      have hkey : key ≠ entry.1 := fun heq => String.lt_irrefl key (heq ▸ hlt)
      rw [insertByKey, if_neg (String.lt_asymm hlt), if_neg hkey,
        ih fun e he => h e (List.mem_cons_of_mem _ he), List.cons_append]

/-- Entries in the order of their keys make up the keymap that has them. -/
theorem foldl_insert_sorted (entries : List (String × String)) :
    ∀ keymap : Keymap, (keymap.entries ++ entries).Pairwise (fun a b => a.1 < b.1) →
      (entries.foldl (fun keymap entry => keymap.insert entry.1 entry.2) keymap).entries
        = keymap.entries ++ entries := by
  induction entries with
  | nil =>
      intro keymap _
      exact (List.append_nil _).symm
  | cons entry entries ih =>
      intro keymap hsorted
      have hbefore : ∀ e ∈ keymap.entries, e.1 < entry.1 := fun e he =>
        (List.pairwise_append.1 hsorted).2.2 e he entry (List.mem_cons_self ..)
      have hinserted : (keymap.insert entry.1 entry.2).entries = keymap.entries ++ [entry] :=
        insertByKey_last hbefore
      rw [List.foldl_cons, ih, hinserted, List.append_assoc, List.singleton_append]
      rw [hinserted, List.append_assoc, List.singleton_append]
      exact hsorted

theorem ofEntries_entries (keymap : Keymap) : ofEntries keymap.entries = keymap := by
  have hentries := foldl_insert_sorted keymap.entries {} keymap.sorted
  have hext : ∀ {a b : Keymap}, a.entries = b.entries → a = b := by
    rintro ⟨_, _⟩ ⟨_, _⟩ rfl
    rfl
  exact hext hentries

/-- A keymap is read back from its JSON. -/
theorem ofJson?_json (keymap : Keymap) : ofJson? keymap.json = some keymap := by
  unfold ofJson?
  rw [readObject?_json, Option.map_some, ofEntries_entries]

/-- From a file that holds the JSON of a keymap that keymap is loaded. -/
theorem load_json {σ : Type} [Storage (EStateM Fault σ)] {s s' : σ} {path : String}
    {keymap : Keymap}
    (hread : (Storage.read path : EStateM Fault σ (List UInt8)).run s
      = .ok (Utf8.encode keymap.json) s') :
    (Keymap.load path : ExceptT KeymapFault (EStateM Fault σ) Keymap).run.run s
      = .ok (.ok keymap) s' := by
  have htext : (Storage.readText path : EStateM Fault σ String).run s = .ok keymap.json s' := by
    refine (run_bind_ok hread).trans ?_
    rw [Utf8.decode?_encode]
    rfl
  refine (run_bind_ok (run_reporting_ok KeymapFault.file htext)).trans ?_
  unfold ExceptT.bindCont
  dsimp only
  rw [ofJson?_json]
  rfl

end Keymap

-- ================================================================ files

/-- A keymap survives the file that it is written to, whatever its keys and
lines are and wherever files are kept. So what is loaded from the keymap
file of a rendered component has the operations in the component's part of
the command table, each with the line that stands there, and no others. -/
theorem keymaps_survive_files {σ : Type} [Storage (EStateM Fault σ)] :
    (∀ (keymap : Keymap) (path : String) (s s' : σ),
      (Storage.read path : EStateM Fault σ (List UInt8)).run s
          = .ok (Utf8.encode keymap.json) s' →
        (Keymap.load path : ExceptT KeymapFault (EStateM Fault σ) Keymap).run.run s
          = .ok (.ok keymap) s')
    ∧ ∀ (generator : Generator) (agent : Agent) (artifacts : Artifacts),
      generator.render agent = .ok artifacts → ∀ a ∈ artifacts.assignments, a.commands ≠ [] →
        ∃ file, artifacts.keymaps.filter (fun f => f.component = a.name) = [file]
          ∧ ∀ (path : String) (s s' : σ),
            (Storage.read path : EStateM Fault σ (List UInt8)).run s
                = .ok (Utf8.encode file.keymap.json) s' →
              ∃ loaded, (Keymap.load path :
                  ExceptT KeymapFault (EStateM Fault σ) Keymap).run.run s = .ok (.ok loaded) s'
                ∧ (∀ command ∈ a.commands, loaded.get? command.operation = some command.line)
                ∧ ∀ operation, (∀ command ∈ a.commands, command.operation ≠ operation) →
                  loaded.get? operation = none := by
  refine ⟨fun keymap path s s' => Keymap.load_json, ?_⟩
  intro generator agent artifacts hrender a ha hne
  have hr := rendered_of_render hrender
  refine ⟨⟨a.name, a.keymapFileName, Keymap.ofCommands a.commands⟩, ?_,
    fun path s s' hread => ?_⟩
  · rw [hr.keymaps_eq, filter_keymapFiles hr.served ha]
    unfold Assignment.keymapFile?
    rw [if_neg hne]
    rfl
  · exact ⟨_, Keymap.load_json hread, fun command hc => get?_ofCommands hc,
      fun operation hno => get?_ofCommands_eq_none hno⟩

/-- A keymap with an empty key, controls, quotes, backslashes and characters
of two to four bytes, and the keymap of a switch of the robot. -/
theorem keymaps_survive_files_rover :
    let awkward := Keymap.ofEntries
      [("", "\"\\\n"), ("\x00\x1f", "é€😀"), ("OPEN", ""), ("/", "\\u0041\x7f")]
    let relay := Keymap.ofCommands (Assignment.commands ⟨⟨"S1", .switch⟩, .switch ⟨.digital, 5⟩⟩)
    let tree : FileTree :=
      { root := [("awkward.json", .file (Utf8.encode awkward.json)),
          ("relay.json", .file (Utf8.encode relay.json))] }
    (Keymap.load "awkward.json" : ExceptT KeymapFault (EStateM Fault FileTree) Keymap).run.run tree
        = .ok (.ok awkward) tree
      ∧ ∃ loaded, (Keymap.load "relay.json" :
          ExceptT KeymapFault (EStateM Fault FileTree) Keymap).run.run tree = .ok (.ok loaded) tree
        ∧ loaded.get? .openContact = some "SWITCH_OPEN S1" ∧ loaded.get? .forwards = none := by
  intro awkward relay tree
  have haccepted := Firmware.default_accepted
  have hrender : Generator.render ⟨.uno, {}, haccepted⟩ rover
      = .ok (roverArtifacts {}) := render_rover rfl
  obtain ⟨hany, hrendered⟩ := keymaps_survive_files (σ := FileTree)
  obtain ⟨file, hfile, hloads⟩ := hrendered _ _ _ hrender
    ⟨⟨"S1", .switch⟩, .switch ⟨.digital, 5⟩⟩ (by decide) (by decide)
  have hkeymap : file.keymap = relay := by
    cases hfile
    rfl
  rw [hkeymap] at hloads
  obtain ⟨loaded, hloaded, hlines, hothers⟩ := hloads "relay.json" tree tree rfl
  refine ⟨hany awkward "awkward.json" tree tree rfl, loaded, hloaded, ?_, hothers _ (by decide)⟩
  exact hlines ⟨"S1", .openContact, .switchOpen, .write ⟨.digital, 5⟩ .low⟩ (by decide)

end SerialEndpoint
