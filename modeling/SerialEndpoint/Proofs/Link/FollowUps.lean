/-
The text form of a follow-up: the word for receiving alone, or the word for
sending, one space and the message. Words are compared up to the case of their
ASCII letters (`SameText`).

# The form and the reader

`FollowUp.Form` says what a text is by this form, and `FollowUp.ReadBy` that
it is read as that and as nothing else. What it takes to ask for receiving is
left open in the form, so that two such readings can be set against each
other.

The reader cuts a text at its first space and looks at the word in front of
it. There is one way only to cut a text like this (`spaced_inj`), so the word
of the form is the word that the reader finds. The words are compared in upper
case, and two texts are the same there exactly if they are the same up to case
(`upperCase_eq_iff`), as no two letters but the two cases of one become equal.

# Where the two part

What stands behind the word for receiving is passed over, so such a text is
taken for the word alone. Nothing else keeps the reader from the form: each
clause of the form is what the reader does if to begin with that word is to
ask for receiving (`Form.read`). And that is the same as the word alone
exactly if nothing stands behind it (`read_by_form_iff`).
-/
import Mathlib.Data.List.Forall2
import SerialEndpoint.Link.FollowUp
import SerialEndpoint.Proofs.CommandLines

namespace SerialEndpoint

-- ====================================================== case of letters

/-- An upper-case letter of ASCII and the same letter in lower case. -/
def CasePair (upper lower : Char) : Prop :=
  'A' ≤ upper ∧ upper ≤ 'Z' ∧ lower.toNat = upper.toNat + 32

/-- The same character up to the case of an ASCII letter. -/
def SameLetter (c d : Char) : Prop := c = d ∨ CasePair c d ∨ CasePair d c

/-- The same text up to the case of its ASCII letters. -/
def SameText (text other : String) : Prop :=
  List.Forall₂ SameLetter text.toList other.toList

theorem toNat_toUpper (c : Char) :
    c.toUpper.toNat = if 97 ≤ c.toNat ∧ c.toNat ≤ 122 then c.toNat - 32 else c.toNat := by
  unfold Char.toUpper
  split
  · rename_i hlower
    have hrange : 97 ≤ c.toNat ∧ c.toNat ≤ 122 := hlower
    rw [if_pos hrange]
    -- the difference of the cases is taken modulo 2 ^ 32
    show (c.val + ('A'.val - 'a'.val)).toNat = _
    rw [UInt32.toNat_add]
    change (c.toNat + 4294967264) % 4294967296 = _
    omega
  · rename_i hlower
    have hrange : ¬ (97 ≤ c.toNat ∧ c.toNat ≤ 122) := hlower
    rw [if_neg hrange]

theorem toUpper_eq_iff {c d : Char} : c.toUpper = d.toUpper ↔ SameLetter c d := by
  have hle : ∀ a b : Char, a ≤ b ↔ a.toNat ≤ b.toNat := fun a b => UInt32.le_iff_toNat_le
  unfold SameLetter CasePair
  rw [← Char.toNat_inj, ← Char.toNat_inj, toNat_toUpper, toNat_toUpper]
  simp only [hle, show 'A'.toNat = 65 from rfl, show 'Z'.toNat = 90 from rfl]
  split <;> split <;> omega

/-- Texts that are the same in upper case are the same up to case. -/
theorem upperCase_eq_iff {text other : String} :
    upperCase text = upperCase other ↔ SameText text other := by
  unfold upperCase SameText
  rw [String.ofList_inj, ← List.forall₂_eq_eq_eq, List.forall₂_map_left_iff,
    List.forall₂_map_right_iff]
  constructor
  · exact fun h => h.imp fun _ _ => toUpper_eq_iff.1
  · exact fun h => h.imp fun _ _ => toUpper_eq_iff.2

theorem upperCase_eq_send_iff {text : String} :
    upperCase text = "SEND" ↔ SameText text "SEND" :=
  @upperCase_eq_iff text "SEND"

theorem upperCase_eq_receive_iff {text : String} :
    upperCase text = "RECEIVE" ↔ SameText text "RECEIVE" :=
  @upperCase_eq_iff text "RECEIVE"

/-- No text is the same as two that differ in upper case. -/
theorem not_sameText {text other another : String} (hdiffer : upperCase other ≠ upperCase another)
    (h : SameText text other) : ¬ SameText text another :=
  fun h' => hdiffer ((upperCase_eq_iff.2 h).symm.trans (upperCase_eq_iff.2 h'))

/-- A space is the same as a space only. -/
theorem eq_space_of_same {c : Char} (h : SameLetter ' ' c) : c = ' ' := by
  rcases h with rfl | ⟨hupper, -, -⟩ | ⟨hupper, -, hcode⟩
  · rfl
  · exact absurd hupper (by decide)
  · have hlow : 'A'.toNat ≤ c.toNat := UInt32.le_iff_toNat_le.1 hupper
    change 65 ≤ c.toNat at hlow
    change 32 = c.toNat + 32 at hcode
    omega

theorem space_notMem_of_same {text other : String} (h : SameText text other)
    (hother : ' ' ∉ other.toList) : ' ' ∉ text.toList := by
  have hletters : text.toList.map Char.toUpper = other.toList.map Char.toUpper :=
    String.ofList_inj.1 (upperCase_eq_iff.2 h)
  intro hmem
  have hupper : ' '.toUpper ∈ text.toList.map Char.toUpper := List.mem_map_of_mem hmem
  rw [hletters, List.mem_map] at hupper
  obtain ⟨_, hc, hcase⟩ := hupper
  rw [eq_space_of_same (toUpper_eq_iff.1 hcase.symm)] at hc
  exact hother hc

-- ====================================================== the first space

/-- The text in front of the first space of a text, which is all of it if
there is no space. -/
def FirstWord (text word : String) : Prop :=
  ' ' ∉ word.toList ∧ (text = word ∨ ∃ rest, text = word ++ " " ++ rest)

section Spaces

variable {text word rest : String}

theorem toList_spaced (word rest : String) :
    (word ++ " " ++ rest).toList = word.toList ++ ' ' :: rest.toList := by
  rw [String.toList_append, String.toList_append, List.append_assoc]
  rfl

theorem splitAtSpace_word (h : ' ' ∉ word.toList) : splitAtSpace word = (word, none) := by
  have htake : word.toList.takeWhile (· ≠ ' ') = word.toList :=
    List.takeWhile_eq_self_iff.2 (ne_space h)
  have hdrop : word.toList.dropWhile (· ≠ ' ') = [] :=
    List.dropWhile_eq_nil_iff.2 (ne_space h)
  unfold splitAtSpace
  simp only
  rw [htake, hdrop, String.ofList_toList]

theorem splitAtSpace_spaced (h : ' ' ∉ word.toList) :
    splitAtSpace (word ++ " " ++ rest) = (word, some rest) := by
  unfold splitAtSpace
  simp only
  rw [toList_spaced, takeWhile_before_space h, dropWhile_before_space h, String.ofList_toList]
  simp only [String.ofList_toList]

/-- A text is one word, or a word, a space and the rest. -/
theorem word_or_spaced (text : String) :
    ' ' ∉ text.toList ∨ ∃ word rest, ' ' ∉ word.toList ∧ text = word ++ " " ++ rest := by
  by_cases hspace : ' ' ∈ text.toList
  · obtain ⟨word, rest, hsplit, hword⟩ := List.eq_append_cons_of_mem hspace
    refine .inr ⟨String.ofList word, String.ofList rest, ?_, ?_⟩
    · rwa [String.toList_ofList]
    · rw [← String.toList_inj, toList_spaced, String.toList_ofList, String.toList_ofList, hsplit]
  · exact .inl hspace

theorem exists_firstWord (text : String) : ∃ word, FirstWord text word := by
  rcases word_or_spaced text with hword | ⟨word, rest, hword, htext⟩
  · exact ⟨text, hword, .inl rfl⟩
  · exact ⟨word, hword, .inr ⟨rest, htext⟩⟩

/-- Where a text is cut does not depend on how it is had. -/
theorem spaced_inj {word' rest' : String} (h : ' ' ∉ word.toList) (h' : ' ' ∉ word'.toList)
    (hsame : word ++ " " ++ rest = word' ++ " " ++ rest') : word = word' ∧ rest = rest' := by
  have hsplit := congrArg splitAtSpace hsame
  rw [splitAtSpace_spaced h, splitAtSpace_spaced h', Prod.mk.injEq, Option.some.injEq] at hsplit
  exact hsplit

theorem ne_spaced (h : ' ' ∉ text.toList) : text ≠ word ++ " " ++ rest := by
  rintro rfl
  rw [toList_spaced] at h
  exact h (List.mem_append_right _ (List.mem_cons_self ..))

end Spaces

-- ============================================================ the form

namespace FollowUp

/-- What a text is: a follow-up that receives where it asks for that, one
that sends what stands behind the word for it and a space, that word with
nothing to send, and else a word that is not known. -/
inductive Form (receives : Prop) (text : String) : Except LinkFault FollowUp → Prop where
  | receive (h : receives) : Form receives text (.ok .receive)
  | send {word message : String} (hword : SameText word "SEND")
      (htext : text = word ++ " " ++ message) : Form receives text (.ok (.send message))
  | missing (h : SameText text "SEND") : Form receives text (.error .missingMessage)
  | unknown {name : String} (hreceive : ¬ receives)
      (hsend : ∀ word message, SameText word "SEND" → text ≠ word ++ " " ++ message)
      (hmissing : ¬ SameText text "SEND") (hname : FirstWord text name) :
      Form receives text (.error (.unknownFollowUp name))

/-- A text is read as what it is, and as nothing else. -/
def ReadBy (receives : Prop) (text : String) : Prop :=
  ∀ result, ofText text = result ↔ Form receives text result

/-- The text begins with the word for receiving. -/
def BeginsWithReceive (text : String) : Prop :=
  ∃ word, FirstWord text word ∧ SameText word "RECEIVE"

/-- Behind the word for receiving there is a space, and maybe more. -/
def ReceiveAndMore (text : String) : Prop :=
  ∃ word rest, SameText word "RECEIVE" ∧ text = word ++ " " ++ rest

section Reading

variable {receives : Prop} {text word rest : String} {result : Except LinkFault FollowUp}

/-- Every text is something. -/
theorem Form.total (receives : Prop) (text : String) : ∃ result, Form receives text result := by
  by_cases hreceive : receives
  · exact ⟨_, .receive hreceive⟩
  by_cases hsend : ∃ word message, SameText word "SEND" ∧ text = word ++ " " ++ message
  · obtain ⟨word, message, hword, htext⟩ := hsend
    exact ⟨_, .send hword htext⟩
  by_cases hmissing : SameText text "SEND"
  · exact ⟨_, .missing hmissing⟩
  obtain ⟨name, hname⟩ := exists_firstWord text
  exact ⟨_, .unknown hreceive (fun word message hword htext => hsend ⟨word, message, hword, htext⟩)
    hmissing hname⟩

theorem named_receive {message : Option String} (h : SameText word "RECEIVE") :
    named word message = .ok .receive := by
  unfold named
  rw [if_neg (mt upperCase_eq_send_iff.1 (not_sameText (by decide) h)),
    if_pos (upperCase_eq_receive_iff.2 h)]

theorem named_unknown {message : Option String} (hsend : ¬ SameText word "SEND")
    (hreceive : ¬ SameText word "RECEIVE") :
    named word message = .error (.unknownFollowUp word) := by
  unfold named
  rw [if_neg (mt upperCase_eq_send_iff.1 hsend), if_neg (mt upperCase_eq_receive_iff.1 hreceive)]

theorem ofText_word (h : ' ' ∉ word.toList) : ofText word = named word none := by
  unfold ofText
  rw [splitAtSpace_word h]

theorem ofText_spaced (h : ' ' ∉ word.toList) :
    ofText (word ++ " " ++ rest) = named word (some rest) := by
  unfold ofText
  rw [splitAtSpace_spaced h]

/-- Whatever stands behind the first word, the word decides. -/
theorem ofText_firstWord (h : FirstWord text word) :
    ∃ message, ofText text = named word message := by
  obtain ⟨hword, rfl | ⟨rest, rfl⟩⟩ := h
  · exact ⟨none, ofText_word hword⟩
  · exact ⟨some rest, ofText_spaced hword⟩

/-- A text is read as what it is if to begin with the word for receiving is
to ask for it. -/
theorem Form.read (h : Form (BeginsWithReceive text) text result) : ofText text = result := by
  cases h with
  | receive hreceive =>
      obtain ⟨word, hfirst, hword⟩ := hreceive
      obtain ⟨message, hread⟩ := ofText_firstWord hfirst
      rw [hread, named_receive hword]
  | send hword htext =>
      rw [htext, ofText_spaced (space_notMem_of_same hword (by decide))]
      unfold named
      rw [if_pos (upperCase_eq_send_iff.2 hword)]
  | missing hsend =>
      rw [ofText_word (space_notMem_of_same hsend (by decide))]
      unfold named
      rw [if_pos (upperCase_eq_send_iff.2 hsend)]
  | unknown hreceive hsend hmissing hname =>
      rename_i name
      obtain ⟨message, hread⟩ := ofText_firstWord hname
      rw [hread]
      refine named_unknown (fun hword => ?_) fun hword => hreceive ⟨name, hname, hword⟩
      obtain ⟨-, rfl | ⟨rest, htext⟩⟩ := hname
      · exact hmissing hword
      · exact hsend name rest hword htext

/-- What is read as what it is is read as nothing else. -/
theorem readBy_of_read (h : ∀ result, Form receives text result → ofText text = result) :
    ReadBy receives text := by
  intro result
  refine ⟨?_, h result⟩
  rintro rfl
  obtain ⟨found, hfound⟩ := Form.total receives text
  rwa [h found hfound]

theorem beginsWithReceive_iff :
    BeginsWithReceive text ↔ SameText text "RECEIVE" ∨ ReceiveAndMore text := by
  constructor
  · rintro ⟨word, ⟨-, rfl | ⟨rest, htext⟩⟩, hword⟩
    · exact .inl hword
    · exact .inr ⟨word, rest, hword, htext⟩
  · rintro (hword | ⟨word, rest, hword, htext⟩)
    · exact ⟨text, ⟨space_notMem_of_same hword (by decide), .inl rfl⟩, hword⟩
    · exact ⟨word, ⟨space_notMem_of_same hword (by decide), .inr ⟨rest, htext⟩⟩, hword⟩

theorem not_same_of_more {other : String} (hother : ' ' ∉ other.toList)
    (h : ReceiveAndMore text) : ¬ SameText text other := by
  obtain ⟨word, rest, -, htext⟩ := h
  exact fun hsame => ne_spaced (space_notMem_of_same hsame hother) htext

end Reading

end FollowUp

-- ========================================================== the theorem

/-- A text is read as a follow-up that receives if it begins with the word
for that, and otherwise by the form. So it is read by the form, in which
that word stands alone, exactly if nothing stands behind the word. -/
theorem read_by_form_iff (text : String) :
    FollowUp.ReadBy (FollowUp.BeginsWithReceive text) text
      ∧ (FollowUp.ReadBy (SameText text "RECEIVE") text ↔ ¬ FollowUp.ReceiveAndMore text) := by
  have hread : FollowUp.ReadBy (FollowUp.BeginsWithReceive text) text :=
    FollowUp.readBy_of_read fun _ => FollowUp.Form.read
  refine ⟨hread, fun hform hmore => ?_, fun hnone => ?_⟩
  · have hreceive : FollowUp.ofText text = .ok .receive :=
      (hread _).2 (.receive (FollowUp.beginsWithReceive_iff.2 (.inr hmore)))
    cases (hform _).1 hreceive with
    | receive hword => exact FollowUp.not_same_of_more (by decide) hmore hword
  · have hsame : FollowUp.BeginsWithReceive text = SameText text "RECEIVE" :=
      propext (FollowUp.beginsWithReceive_iff.trans (or_iff_left hnone))
    rwa [hsame] at hread

/-- Words behind the word for receiving are dropped, where by the form there
is no such follow-up. -/
theorem words_behind_receive_dropped :
    FollowUp.ofText "RECEIVE now" = .ok .receive
      ∧ FollowUp.Form (SameText "RECEIVE now" "RECEIVE") "RECEIVE now"
          (.error (.unknownFollowUp "RECEIVE"))
      ∧ ¬ FollowUp.ReadBy (SameText "RECEIVE now" "RECEIVE") "RECEIVE now" := by
  have hread : FollowUp.ofText "RECEIVE now" = .ok .receive := by decide
  have hspace : ∀ other : String, ' ' ∉ other.toList → ¬ SameText "RECEIVE now" other :=
    fun other hother hsame => space_notMem_of_same hsame hother (by decide)
  have hform : FollowUp.Form (SameText "RECEIVE now" "RECEIVE") "RECEIVE now"
      (.error (.unknownFollowUp "RECEIVE")) := by
    refine .unknown (hspace _ (by decide)) (fun word message hword htext => ?_)
      (hspace _ (by decide)) ⟨by decide, .inr ⟨"now", by decide⟩⟩
    have hsplit : "RECEIVE" ++ " " ++ "now" = word ++ " " ++ message := htext
    obtain ⟨rfl, -⟩ := spaced_inj (by decide) (space_notMem_of_same hword (by decide)) hsplit
    exact absurd (upperCase_eq_iff.2 hword) (by decide)
  refine ⟨hread, hform, fun hreads => ?_⟩
  cases hread.symm.trans ((hreads _).2 hform)

end SerialEndpoint
