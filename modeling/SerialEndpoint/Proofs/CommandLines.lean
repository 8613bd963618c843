/-
Command lines as texts. A line is an opcode's word, one space and a name.

# Two words

Neither the opcodes' words nor the names have a space in them, so a line is
read back into its two parts (`firstWord_line`, `addressee_line`). No two
commands of one table have the same line (`commandLines_nodup`): those of one
component differ in the opcode, and those of two components in the name that
they carry.

# Plain characters

Every character of a line is ASCII, and none is a line end, a quote or a zero
(`line_plain`). Three things that are done with a line rest on this:

- it survives framing as it is, with one byte for each character and none
  replaced (`encode_plain`, `frame_plain`);
- the frame ends nowhere in between, nor does a text that is read up to its
  first zero (`encode_plain_bytes`);
- it can stand between quotes in a sketch.

Digits are plain as well, so numbers can be put into texts in the same way.
-/
import Mathlib.Data.List.Nodup
import Mathlib.Data.List.TakeWhile
import SerialEndpoint.Link.Frame
import SerialEndpoint.Text.Utf8
import SerialEndpoint.Proofs.Rendering
import SerialEndpoint.Proofs.Utf8

namespace SerialEndpoint

-- ================================================== the words of a line

/-- The first word of a line. -/
def firstWord (line : String) : String :=
  String.ofList (line.toList.takeWhile (· ≠ ' '))

/-- The second word of a line: whom it is addressed to. -/
def addressee (line : String) : String :=
  String.ofList (((line.toList.dropWhile (· ≠ ' ')).drop 1).takeWhile (· ≠ ' '))

theorem word_chars (opcode : Opcode) : ∀ c ∈ opcode.word.toList, isNameChar c = true := by
  have hall : opcode.word.toList.all isNameChar = true := by
    cases opcode <;> decide
  exact List.all_eq_true.1 hall

theorem word_injective {o o' : Opcode} (h : o.word = o'.word) : o = o' := by
  cases o <;> cases o' <;> first | rfl | exact absurd h (by decide)

theorem ne_space {word : List Char} (hw : ' ' ∉ word) :
    ∀ c ∈ word, decide (c ≠ ' ') = true :=
  fun _ hc => decide_eq_true fun heq => hw (heq ▸ hc)

theorem takeWhile_before_space {word : List Char} (hw : ' ' ∉ word)
    (rest : List Char) :
    (word ++ ' ' :: rest).takeWhile (· ≠ ' ') = word := by
  rw [List.takeWhile_append_of_pos (ne_space hw)]
  simp

theorem dropWhile_before_space {word : List Char} (hw : ' ' ∉ word)
    (rest : List Char) :
    (word ++ ' ' :: rest).dropWhile (· ≠ ' ') = ' ' :: rest := by
  rw [List.dropWhile_append_of_pos (ne_space hw)]
  simp

private theorem space_notMem_word (opcode : Opcode) : ' ' ∉ opcode.word.toList := by
  intro h
  have := word_chars opcode ' ' h
  revert this
  decide

theorem line_toList (command : Command) :
    command.line.toList
      = command.opcode.word.toList ++ ' ' :: command.component.toList := by
  unfold Command.line
  simp

theorem firstWord_line (command : Command) :
    firstWord command.line = command.opcode.word := by
  unfold firstWord
  rw [line_toList, takeWhile_before_space (space_notMem_word _),
    String.ofList_toList]

theorem addressee_line {command : Command}
    (hn : isComponentName command.component = true) :
    addressee command.line = command.component := by
  have hspace : ' ' ∉ command.component.toList := notMem_name hn rfl
  have hwhole : command.component.toList.takeWhile (· ≠ ' ')
      = command.component.toList := by
    rw [List.takeWhile_eq_self_iff]
    exact ne_space hspace
  unfold addressee
  rw [line_toList, dropWhile_before_space (space_notMem_word _), List.drop_one,
    List.tail_cons, hwhole, String.ofList_toList]

-- ==================================================== plain characters

theorem nameChar_lt {c : Char} (hc : isNameChar c = true) : c.toNat < 128 := by
  unfold isNameChar Char.isAlphanum Char.isAlpha Char.isUpper Char.isLower
    Char.isDigit at hc
  simp only [Bool.or_eq_true, Bool.and_eq_true, decide_eq_true_eq, beq_iff_eq,
    ge_iff_le, UInt32.le_iff_toNat_le] at hc
  change c.val.toNat < 128
  rcases hc with ((⟨-, h⟩ | ⟨-, h⟩) | ⟨-, h⟩) | rfl
  · exact Nat.lt_of_le_of_lt h (by decide)
  · exact Nat.lt_of_le_of_lt h (by decide)
  · exact Nat.lt_of_le_of_lt h (by decide)
  · decide

/-- A text of ASCII characters, none of them a line end, a quote or a
zero. -/
def IsPlain (text : List Char) : Prop :=
  ∀ c ∈ text, c.toNat < 128 ∧ c ≠ '\n' ∧ c ≠ '"' ∧ c ≠ '\x00'

instance (text : List Char) : Decidable (IsPlain text) := List.decidableBAll _ text

theorem isPlain_of_nameChars {text : List Char}
    (h : ∀ c ∈ text, isNameChar c = true) : IsPlain text := by
  intro c hc
  have hname := h c hc
  refine ⟨nameChar_lt hname, ?_, ?_, ?_⟩
  all_goals
    intro heq
    subst heq
    revert hname
    decide

theorem isNameChar_of_digit {c : Char} (h : c.isDigit = true) : isNameChar c = true := by
  unfold isNameChar Char.isAlphanum
  rw [h, Bool.or_true, Bool.true_or]

/-- Digits are plain. -/
theorem isPlain_of_digits {text : List Char} (h : ∀ c ∈ text, c.isDigit = true) :
    IsPlain text :=
  isPlain_of_nameChars fun c hc => isNameChar_of_digit (h c hc)

theorem toList_digits (n : Nat) : (toString n).toList = Nat.toDigits 10 n := by
  rw [Nat.toString_eq_repr, Nat.toList_repr]

theorem isDigit_nat (n : Nat) : ∀ c ∈ (toString n).toList, c.isDigit = true := by
  intro c hc
  rw [toList_digits] at hc
  exact Nat.isDigit_of_mem_toDigits (by decide) (by decide) hc

theorem digits_ne_nil (n : Nat) : (toString n).toList ≠ [] := by
  rw [toList_digits]
  exact Nat.toDigits_ne_nil

theorem isPlain_digits (n : Nat) : IsPlain (toString n).toList :=
  isPlain_of_digits (isDigit_nat n)

/-- The line of a command to a named component is plain. -/
theorem line_plain {command : Command}
    (hn : isComponentName command.component = true) :
    IsPlain command.line.toList := by
  rw [line_toList]
  intro c hc
  rcases List.mem_append.1 hc with hc | hc
  · exact isPlain_of_nameChars (word_chars _) c hc
  · rcases List.mem_cons.1 hc with rfl | hc
    · decide
    · exact isPlain_of_nameChars (name_chars hn) c hc

/-- A plain text has one byte for each character, the character's
code. -/
theorem encode_plain {text : String} (h : IsPlain text.toList) :
    Utf8.encode text = text.toList.map fun c => UInt8.ofNat c.toNat :=
  Utf8.encode_ascii fun c hc => (h c hc).1

/-- The frame of a plain text is its bytes and the line end; nothing in
it is replaced. -/
theorem frame_plain {text : String} (h : IsPlain text.toList) :
    Frame.ofMessage text = ⟨Utf8.encode text ++ [lineEnd], 0⟩ := by
  have hsendable : ∀ c ∈ text.toList, isSendable c = true := by
    intro c hc
    obtain ⟨hlt, hne, -, -⟩ := h c hc
    unfold isSendable
    simp [hlt, hne]
  unfold Frame.ofMessage
  congr 1
  · rw [encode_plain h]
    congr 1
    refine List.map_congr_left fun c hc => ?_
    unfold sentByte
    rw [if_pos (hsendable c hc)]
  · rw [List.countP_eq_zero]
    intro c hc
    simp [hsendable c hc]

/-- No byte of a plain text is the line end or zero. -/
theorem encode_plain_bytes {text : String} (h : IsPlain text.toList) :
    ∀ b ∈ Utf8.encode text, b ≠ lineEnd ∧ b ≠ 0 := by
  intro b hb
  rw [encode_plain h] at hb
  obtain ⟨c, hc, rfl⟩ := List.mem_map.1 hb
  obtain ⟨hlt, hline, -, hzero⟩ := h c hc
  have hval : (UInt8.ofNat c.toNat).toNat = c.toNat := Utf8.toNat_byte (by omega)
  constructor
  · intro heq
    refine hline (Char.toNat_inj.1 ?_)
    rw [← hval, heq]
    rfl
  · intro heq
    refine hzero (Char.toNat_inj.1 ?_)
    rw [← hval, heq]
    rfl

-- ================================================== the table's lines

theorem commands_component (a : Assignment) :
    ∀ c ∈ a.commands, c.component = a.name := by
  intro c hc
  unfold Assignment.commands at hc
  split at hc
  · simp only [List.mem_append, List.mem_flatMap, List.mem_map, List.mem_cons,
      List.not_mem_nil, or_false] at hc
    rcases hc with (⟨pin, -, rfl | rfl⟩ | ⟨pin, -, rfl⟩) | rfl | rfl
    all_goals rfl
  · rw [List.mem_singleton.1 hc]
  · simp only [List.mem_cons, List.not_mem_nil, or_false] at hc
    rcases hc with rfl | rfl
    all_goals rfl
  · rw [List.mem_singleton.1 hc]
  · rw [List.mem_singleton.1 hc]
  · cases hc

theorem commands_opcode_nodup (a : Assignment) :
    (a.commands.map Command.opcode).Nodup := by
  unfold Assignment.commands
  split
  · rename_i pwm direction brake _ _
    cases pwm <;> cases direction <;> simp
  all_goals simp

theorem commands_line_nodup (a : Assignment) :
    (a.commands.map Command.line).Nodup := by
  refine List.Nodup.of_map firstWord ?_
  rw [List.map_map]
  have hword : firstWord ∘ Command.line = Opcode.word ∘ Command.opcode :=
    funext firstWord_line
  rw [hword, ← List.map_map]
  exact (commands_opcode_nodup a).map fun o o' => word_injective

/-- No two commands of the table of served components have one line. -/
theorem commandLines_nodup {assignments : List Assignment}
    (hs : Served assignments) :
    ((commandTable assignments).map Command.line).Nodup := by
  unfold commandTable
  rw [List.map_flatMap, List.nodup_flatMap]
  refine ⟨fun a _ => commands_line_nodup a, ?_⟩
  -- lines of two components differ in the name they carry
  refine (List.pairwise_map.1 hs.distinct).imp_of_mem fun {a b} ha hb hne => ?_
  intro line hline hline'
  obtain ⟨c, hc, rfl⟩ := List.mem_map.1 hline
  obtain ⟨c', hc', heq⟩ := List.mem_map.1 hline'
  have hname := commands_component a c hc
  have hname' := commands_component b c' hc'
  have haddr := congrArg addressee heq
  rw [addressee_line (hname' ▸ hs.named b hb),
    addressee_line (hname ▸ hs.named a ha), hname, hname'] at haddr
  exact hne haddr.symm

/-- The line of every command in the table is plain. -/
theorem table_plain {assignments : List Assignment} (hs : Served assignments)
    {command : Command} (hc : command ∈ commandTable assignments) :
    IsPlain command.line.toList := by
  obtain ⟨a, ha, hmem⟩ := List.mem_flatMap.1 hc
  exact line_plain (commands_component a command hmem ▸ hs.named a ha)

end SerialEndpoint
