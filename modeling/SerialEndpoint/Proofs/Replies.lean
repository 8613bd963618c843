/-
What a board replies. A reading is a number with fixed places, a distance is a
whole number, and no distance is the token of the settings; all of them are
plain (`act_reply`). So a reply has no line end within, and comes back over
the link as the line that was sent.

A number with fixed places is digits with a point among them, with a sign in
front if it is negative, or one of a few words if it is not finite
(`isPlain_fixed`). The token is plain because the settings were accepted
(`token_of_accepted`).
-/
import SerialEndpoint.Board
import SerialEndpoint.Proofs.CommandLines

namespace SerialEndpoint

-- ======================================================== plain replies

/-- A point among digits brings in nothing but the point and zeros. -/
theorem forall_pointBefore {P : Char → Prop} {places : Nat} {digits : List Char}
    (h : ∀ c ∈ digits, P c) (hzero : P '0') (hpoint : P '.') :
    ∀ c ∈ pointBefore places digits, P c := by
  have hpadded : ∀ c ∈ List.replicate (places + 1 - digits.length) '0' ++ digits, P c := by
    intro c hc
    rcases List.mem_append.1 hc with hc | hc
    · exact List.eq_of_mem_replicate hc ▸ hzero
    · exact h c hc
  unfold pointBefore
  simp only
  split
  · exact fun c hc => hpadded c (List.mem_of_mem_take hc)
  · intro c hc
    rcases List.mem_append.1 hc with hc | hc
    · exact hpadded c (List.mem_of_mem_take hc)
    · rcases List.mem_cons.1 hc with rfl | hc
      · exact hpoint
      · exact hpadded c (List.mem_of_mem_drop hc)

/-- A number with fixed places is plain. -/
theorem isPlain_fixed (places : Nat) (number : Binary64) :
    IsPlain (number.fixed places).toList := by
  cases number with
  | nan =>
      show IsPlain "NaN".toList
      decide
  | infinite negative =>
      cases negative
      · show IsPlain "inf".toList
        decide
      · show IsPlain "-inf".toList
        decide
  | finite negative units =>
      unfold Binary64.fixed fixedMagnitude
      rw [String.toList_ofList]
      have hmagnitude : ∀ n, IsPlain (pointBefore places (Nat.toDigits 10 n)) := by
        intro n
        refine forall_pointBefore (isPlain_of_digits fun c hc => ?_) ?_ ?_
        · exact Nat.isDigit_of_mem_toDigits (by decide) (by decide) hc
        · decide
        · decide
      intro c hc
      rcases List.mem_append.1 hc with hc | hc
      · have hsign : c = '-' := by
          cases negative with
          | false => cases hc
          | true => exact List.mem_singleton.1 hc
        rw [hsign]
        decide
      · exact hmagnitude _ c hc

/-- An accepted timeout token is plain. -/
theorem isPlain_token {token : String} (h : isTimeoutToken token = true) :
    IsPlain token.toList := by
  intro c hc
  unfold isTimeoutToken at h
  simp only [Bool.and_eq_true, List.all_eq_true, decide_eq_true_eq, bne_iff_ne] at h
  obtain ⟨⟨⟨hlow, hhigh⟩, hquote⟩, -⟩ := h.1.2 c hc
  have hcode : c.toNat ≤ '~'.toNat := hhigh
  refine ⟨Nat.lt_of_le_of_lt hcode (by decide), ?_, hquote, ?_⟩
  all_goals
    rintro rfl
    revert hlow
    decide

/-- The token of accepted settings can stand in a sketch. -/
theorem token_of_accepted {firmware : Firmware} (h : firmware.refusal? = none) :
    isTimeoutToken firmware.ranging.timeoutToken = true := by
  unfold Firmware.refusal? at h
  split_ifs at h with _ _ _ _ _ htoken
  simpa using htoken

/-- A number can be divided by if it is so many units, and some. -/
theorem usable_iff {number : Binary64} :
    number.isUsable = true ↔ ∃ units, units ≠ 0 ∧ number = .finite false units := by
  unfold Binary64.isUsable
  rw [Bool.and_eq_true]
  constructor
  · rintro ⟨hfinite, hpositive⟩
    cases number with
    | nan => cases hfinite
    | infinite negative => cases hfinite
    | finite negative units =>
        cases negative with
        | true => cases hpositive
        | false => exact ⟨units, by simpa [Binary64.isPositive] using hpositive, rfl⟩
  · rintro ⟨units, hunits, rfl⟩
    exact ⟨rfl, by simpa [Binary64.isPositive] using hunits⟩

/-- The scale of accepted settings can stand in a sketch. -/
theorem scale_of_accepted {firmware : Firmware} (h : firmware.refusal? = none) :
    firmware.voltage.steps ≠ 0 ∧ firmware.voltage.steps ≤ 65536
      ∧ firmware.voltage.ratio.isUsable = true
      ∧ firmware.voltage.reference.isUsable = true := by
  unfold Firmware.refusal? at h
  split_ifs at h with _ _ hsteps husable
  rw [Bool.not_eq_true, Bool.or_eq_false_iff, Bool.not_eq_false', Bool.not_eq_false'] at husable
  exact ⟨fun hnone => hsteps (.inl hnone), Nat.not_lt.1 fun hlarge => hsteps (.inr hlarge), husable⟩

/-- True of the commands that are replied to. -/
def Action.replies : Action → Bool
  | .readVoltage _ => true
  | .readDistance => true
  | _ => false

/-- A command that is replied to does nothing else, and its reply is
plain. -/
theorem act_reply {board : Board}
    (htoken : isTimeoutToken board.circuit.ranging.timeoutToken = true) {command : Command}
    (hreplies : command.action.replies = true) :
    ∃ text, IsPlain text.toList ∧ board.act command = board.reply text := by
  unfold Board.act
  cases haction : command.action with
  | readVoltage pin => exact ⟨_, isPlain_fixed _ _, rfl⟩
  | readDistance =>
      refine ⟨_, ?_, rfl⟩
      cases board.ranges command.component with
      | none => exact isPlain_token htoken
      | some distance => exact isPlain_digits _
  | _ =>
      rw [haction] at hreplies
      cases hreplies

end SerialEndpoint
