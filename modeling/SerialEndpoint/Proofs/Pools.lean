/-
Which lists of pins are pools. `Pools.Apart` says it of the lists alone: none
names a pin twice, and no pin is both a PWM and a digital pin. The lists are
accepted exactly if they are apart, and what is reported of others is the
first thing that keeps them from it (`accepted_iff_apart`).

# The pin that is repeated first

A list is looked through from front to back with the pins that were seen so
far. So what the look finds is said of the front of the list that it has
passed: the front repeats nothing, and the pin stands in it already
(`firstRepeat_eq_some_iff`, by induction on the list for any pins seen
before). `RepeatedFirst` says it without the look: the pin stands at some
place for the second time, and no pin does so at an earlier one. The two agree
(`repeatedFirst_iff`):

- in a front that repeats nothing no pin stands for the second time, and the
  pin behind it does;
- the other way round, a repetition in the front would come earlier.

# The fault that is reported

The lists are looked through in order, so the one that is reported is the
first that repeats a pin (`Pools.repeated?_eq_some_iff`). A pin in two lists is
looked for only if none does, along the PWM pins
(`Pools.shared?_eq_some_iff`).

# The pools of a board

A board that is given no list of its own takes the pins of its target without
a look. These are apart (`own_apart`), so the look would accept them, and one
rule holds for all boards (`board_pools_eq`).
-/
import Mathlib.Data.List.Nodup
import SerialEndpoint.Settings

namespace SerialEndpoint

-- ========================================================== repetitions

/-- At this place of a list a pin stands for the second time. -/
def SecondAt (pins : List UInt8) (pin : UInt8) (place : Nat) : Prop :=
  pins[place]? = some pin ∧ (pins.take place).count pin = 1

/-- No pin stands in a list for the second time before this one does. -/
def RepeatedFirst (pins : List UInt8) (pin : UInt8) : Prop :=
  ∃ place, SecondAt pins pin place
    ∧ ∀ other elsewhere, SecondAt pins other elsewhere → place ≤ elsewhere

theorem firstRepeat_eq_none_iff {pins : List UInt8} :
    ∀ {seen : List UInt8}, firstRepeat seen pins = none ↔
      pins.Nodup ∧ ∀ pin ∈ pins, pin ∉ seen := by
  induction pins with
  | nil => exact fun {seen} => iff_of_true rfl ⟨List.nodup_nil, by simp⟩
  | cons first rest ih =>
      intro seen
      unfold firstRepeat
      rw [List.nodup_cons, List.forall_mem_cons]
      by_cases hseen : first ∈ seen
      · rw [if_pos hseen]
        exact iff_of_false nofun fun h => h.2.1 hseen
      · rw [if_neg hseen, ih]
        constructor
        · rintro ⟨hnodup, hfresh⟩
          exact ⟨⟨fun hmem => hfresh first hmem (List.mem_cons_self ..), hnodup⟩, hseen,
            fun pin hpin hmem => hfresh pin hpin (List.mem_cons_of_mem _ hmem)⟩
        · rintro ⟨⟨hfirst, hnodup⟩, -, hfresh⟩
          refine ⟨hnodup, fun pin hpin hmem => ?_⟩
          rcases List.mem_cons.1 hmem with rfl | hmem
          · exact hfirst hpin
          · exact hfresh pin hpin hmem

/-- With nothing seen before, the look finds nothing exactly if nothing is
repeated. -/
theorem firstRepeat_eq_none_iff_nodup {pins : List UInt8} :
    firstRepeat [] pins = none ↔ pins.Nodup :=
  firstRepeat_eq_none_iff.trans (and_iff_left fun _ _ => List.not_mem_nil)

/-- The pin that is found stands behind a front without a repetition, and
was seen before that or in it. -/
theorem firstRepeat_eq_some_iff {pins : List UInt8} {pin : UInt8} :
    ∀ {seen : List UInt8}, firstRepeat seen pins = some pin ↔
      ∃ front back, pins = front ++ pin :: back ∧ firstRepeat seen front = none
        ∧ (pin ∈ seen ∨ pin ∈ front) := by
  induction pins with
  | nil => exact fun {seen} => iff_of_false nofun (by simp)
  | cons first rest ih =>
      intro seen
      rw [firstRepeat]
      by_cases hseen : first ∈ seen
      · rw [if_pos hseen]
        constructor
        · intro h
          cases h
          exact ⟨[], rest, rfl, rfl, .inl hseen⟩
        · rintro ⟨front, back, hsplit, hnone, -⟩
          cases front with
          | nil =>
              cases hsplit
              rfl
          | cons other front =>
              cases hsplit
              rw [firstRepeat, if_pos hseen] at hnone
              cases hnone
      · -- the first pin goes over from the front to what was seen
        have hmoved : ∀ front, pin ∈ first :: seen ∨ pin ∈ front
            ↔ pin ∈ seen ∨ pin ∈ first :: front := by
          intro front
          rw [List.mem_cons, List.mem_cons, or_left_comm, or_assoc]
        rw [if_neg hseen, ih]
        constructor
        · rintro ⟨front, back, rfl, hnone, hpin⟩
          refine ⟨first :: front, back, rfl, ?_, (hmoved front).1 hpin⟩
          rw [firstRepeat, if_neg hseen]
          exact hnone
        · rintro ⟨front, back, hsplit, hnone, hpin⟩
          cases front with
          | nil =>
              cases hsplit
              exact absurd (hpin.resolve_right List.not_mem_nil) hseen
          | cons other front =>
              cases hsplit
              rw [firstRepeat, if_neg hseen] at hnone
              exact ⟨front, back, rfl, hnone, (hmoved front).2 hpin⟩

/-- A pin behind a front that repeats nothing and that it stands in already
stands there for the second time. -/
theorem secondAt_of_front {front back : List UInt8} {pin : UInt8} (hnodup : front.Nodup)
    (hmem : pin ∈ front) : SecondAt (front ++ pin :: back) pin front.length := by
  refine ⟨?_, ?_⟩
  · rw [List.getElem?_append_right (Nat.le_refl _), Nat.sub_self]
    rfl
  · rw [List.take_left]
    exact List.count_eq_one_of_mem hnodup hmem

/-- In a front that repeats nothing no pin stands for the second time. -/
theorem not_secondAt_of_nodup {front back : List UInt8} {pin : UInt8} {place : Nat}
    (hnodup : front.Nodup) (hplace : place < front.length) :
    ¬ SecondAt (front ++ back) pin place := by
  rintro ⟨hpin, hcount⟩
  rw [List.getElem?_append_left hplace] at hpin
  rw [List.take_append_of_le_length (Nat.le_of_lt hplace)] at hcount
  have hbefore : pin ∈ front.take place := List.count_pos_iff.1 (by omega)
  have hbehind : pin ∈ front.drop place := by
    rw [List.drop_eq_getElem_cons hplace, ← (List.getElem?_eq_some_iff.1 hpin).2]
    exact List.mem_cons_self ..
  rw [← List.take_append_drop place front] at hnodup
  exact (List.nodup_append.1 hnodup).2.2 pin hbefore pin hbehind rfl

theorem repeatedFirst_iff {pins : List UInt8} {pin : UInt8} :
    RepeatedFirst pins pin
      ↔ ∃ front back, pins = front ++ pin :: back ∧ front.Nodup ∧ pin ∈ front := by
  constructor
  · rintro ⟨place, ⟨hpin, hcount⟩, hfirst⟩
    obtain ⟨hplace, hpin⟩ := List.getElem?_eq_some_iff.1 hpin
    have hsplit : pins = pins.take place ++ pin :: pins.drop (place + 1) := by
      rw [← hpin, ← List.drop_eq_getElem_cons hplace, List.take_append_drop]
    refine ⟨_, _, hsplit, ?_, List.count_pos_iff.1 (by omega)⟩
    -- a repetition in the front would come earlier
    cases hrepeat : firstRepeat [] (pins.take place) with
    | none => exact firstRepeat_eq_none_iff_nodup.1 hrepeat
    | some other =>
        exfalso
        obtain ⟨front, back, hfront, hnone, hmem⟩ := firstRepeat_eq_some_iff.1 hrepeat
        have hsecond := @secondAt_of_front front (back ++ pin :: pins.drop (place + 1)) other
          (firstRepeat_eq_none_iff_nodup.1 hnone) (hmem.resolve_left List.not_mem_nil)
        rw [← List.cons_append, ← List.append_assoc, ← hfront, ← hsplit] at hsecond
        have hearlier := hfirst other _ hsecond
        have hlength := congrArg List.length hfront
        rw [List.length_append, List.length_cons, List.length_take] at hlength
        omega
  · rintro ⟨front, back, rfl, hnodup, hmem⟩
    refine ⟨front.length, secondAt_of_front hnodup hmem, fun other elsewhere hsecond => ?_⟩
    exact Nat.le_of_not_lt fun hless => not_secondAt_of_nodup hnodup hless hsecond

/-- The look through a list finds the pin that is repeated first. -/
theorem firstRepeat_eq_some_iff_repeatedFirst {pins : List UInt8} {pin : UInt8} :
    firstRepeat [] pins = some pin ↔ RepeatedFirst pins pin := by
  rw [firstRepeat_eq_some_iff, repeatedFirst_iff]
  refine exists₂_congr fun front back => and_congr_right fun _ => ?_
  rw [firstRepeat_eq_none_iff_nodup, or_iff_right List.not_mem_nil]

-- ================================================================ pools

/-- Every category is among all. -/
theorem Category.mem_all (category : Category) : category ∈ Category.all := by
  cases category <;> decide

namespace Pools

/-- No list names a pin twice, and no pin is both a PWM and a digital
pin. Analog pins have a header of their own. -/
structure Apart (pools : Pools) : Prop where
  nodup : ∀ category, (pools.pool category).Nodup
  disjoint : ∀ pin ∈ pools.pwm, pin ∉ pools.digital

/-- The first of the PWM pins that is a digital pin too. -/
def SharedFirst (pools : Pools) (pin : UInt8) : Prop :=
  ∃ front back, pools.pwm = front ++ pin :: back ∧ pin ∈ pools.digital
    ∧ ∀ other ∈ front, other ∉ pools.digital

theorem repeated?_eq_none_iff {pools : Pools} :
    pools.repeated? = none ↔ ∀ category, (pools.pool category).Nodup := by
  unfold repeated?
  rw [List.findSome?_eq_none_iff]
  refine forall_congr' fun category => ?_
  rw [Option.map_eq_none_iff, firstRepeat_eq_none_iff_nodup]
  exact forall_prop_of_true category.mem_all

/-- The first list that repeats a pin is reported, with the pin that it
repeats first. -/
theorem repeated?_eq_some_iff {pools : Pools} {fault : PoolFault} :
    pools.repeated? = some fault ↔ ∃ category pin, fault = .duplicate category pin
      ∧ RepeatedFirst (pools.pool category) pin
      ∧ ∃ before after, Category.all = before ++ category :: after
        ∧ ∀ earlier ∈ before, (pools.pool earlier).Nodup := by
  have hnone : ∀ category, (firstRepeat [] (pools.pool category)).map (PoolFault.duplicate category)
      = none ↔ (pools.pool category).Nodup :=
    fun category => Option.map_eq_none_iff.trans firstRepeat_eq_none_iff_nodup
  unfold repeated?
  rw [List.findSome?_eq_some_iff]
  constructor
  · rintro ⟨before, category, after, hall, hfound, hbefore⟩
    obtain ⟨pin, hpin, rfl⟩ := Option.map_eq_some_iff.1 hfound
    exact ⟨category, pin, rfl, firstRepeat_eq_some_iff_repeatedFirst.1 hpin, before, after, hall,
      fun earlier hearlier => (hnone earlier).1 (hbefore earlier hearlier)⟩
  · rintro ⟨category, pin, rfl, hpin, before, after, hall, hbefore⟩
    refine ⟨before, category, after, hall, ?_, fun earlier hearlier => ?_⟩
    · rw [firstRepeat_eq_some_iff_repeatedFirst.2 hpin]
      rfl
    · exact (hnone earlier).2 (hbefore earlier hearlier)

theorem shared?_eq_none_iff {pools : Pools} :
    pools.shared? = none ↔ ∀ pin ∈ pools.pwm, pin ∉ pools.digital := by
  unfold shared?
  rw [Option.map_eq_none_iff, List.find?_eq_none]
  simp

theorem shared?_eq_some_iff {pools : Pools} {fault : PoolFault} :
    pools.shared? = some fault ↔ ∃ pin, fault = .overlapping pin ∧ pools.SharedFirst pin := by
  unfold shared? SharedFirst
  rw [Option.map_eq_some_iff]
  refine exists_congr fun pin => ?_
  rw [and_comm, eq_comm, List.find?_eq_some_iff_append]
  refine and_congr_right fun _ => ?_
  simp only [decide_eq_true_eq, Bool.not_eq_true', decide_eq_false_iff_not]
  constructor
  · rintro ⟨hpin, front, back, hsplit, hfront⟩
    exact ⟨front, back, hsplit, hpin, hfront⟩
  · rintro ⟨front, back, hsplit, hpin, hfront⟩
    exact ⟨hpin, front, back, hsplit, hfront⟩

end Pools

-- ============================================================ acceptance

section Lists

variable {pwm digital analog : List UInt8}

theorem ofLists_eq_ok_iff {pools : Pools} :
    Pools.ofLists pwm digital analog = .ok pools
      ↔ pools = ⟨pwm, digital, analog⟩ ∧ Pools.Apart ⟨pwm, digital, analog⟩ := by
  have hapart : (Pools.repeated? ⟨pwm, digital, analog⟩).or (Pools.shared? ⟨pwm, digital, analog⟩)
      = none ↔ Pools.Apart ⟨pwm, digital, analog⟩ := by
    rw [Option.or_eq_none_iff, Pools.repeated?_eq_none_iff, Pools.shared?_eq_none_iff]
    exact ⟨fun h => ⟨h.1, h.2⟩, fun h => ⟨h.nodup, h.disjoint⟩⟩
  unfold Pools.ofLists
  simp only [Option.orElse_eq_orElse, Option.orElse_eq_or]
  split
  · rename_i fault hfault
    refine iff_of_false nofun fun h => ?_
    rw [hapart.2 h.2] at hfault
    cases hfault
  · rename_i hnone
    rw [Except.ok.injEq, eq_comm]
    exact (and_iff_left (hapart.1 hnone)).symm

theorem ofLists_eq_error_iff {fault : PoolFault} :
    Pools.ofLists pwm digital analog = .error fault
      ↔ Pools.repeated? ⟨pwm, digital, analog⟩ = some fault
        ∨ Pools.repeated? ⟨pwm, digital, analog⟩ = none
          ∧ Pools.shared? ⟨pwm, digital, analog⟩ = some fault := by
  rw [← Option.or_eq_some_iff]
  unfold Pools.ofLists
  simp only [Option.orElse_eq_orElse, Option.orElse_eq_or]
  split
  · rename_i found hfound
    rw [hfound, Except.error.injEq, Option.some.injEq]
  · rename_i hnone
    rw [hnone]
    exact iff_of_false nofun nofun

end Lists

/-- The pins of a known board are apart. -/
theorem own_apart (target : Target) : target.pools.Apart where
  nodup category := by cases target <;> cases category <;> decide
  disjoint := by cases target <;> decide +kernel

/-- The lists in effect on a board: those that are given, and its own
where none is. -/
def BoardChoice.lists (choice : BoardChoice) : Pools where
  pwm := choice.pwm.getD choice.target.pools.pwm
  digital := choice.digital.getD choice.target.pools.digital
  analog := choice.analog.getD choice.target.pools.analog

/-- A board whose own pins are taken without a look is treated as any
other. -/
theorem board_pools_eq (choice : BoardChoice) :
    choice.pools
      = Pools.ofLists choice.lists.pwm choice.lists.digital choice.lists.analog := by
  unfold BoardChoice.pools
  simp only
  split
  · rename_i hpwm hdigital hanalog
    unfold BoardChoice.lists
    rw [hpwm, hdigital, hanalog]
    exact (ofLists_eq_ok_iff.2 ⟨rfl, own_apart choice.target⟩).symm
  · rfl

/-- Three lists are accepted, and kept as they are, exactly if they are
apart. Otherwise the first list that repeats a pin is reported with the pin
that it repeats first, or, where none does, the first PWM pin that is a
digital pin too. A board has pools exactly if the lists in effect on it
are apart. -/
theorem accepted_iff_apart :
    (∀ pwm digital analog : List UInt8,
      let lists : Pools := ⟨pwm, digital, analog⟩
      (∀ pools, Pools.ofLists pwm digital analog = .ok pools ↔ pools = lists ∧ lists.Apart)
      ∧ (∀ category pin,
          Pools.ofLists pwm digital analog = .error (.duplicate category pin)
            ↔ RepeatedFirst (lists.pool category) pin
              ∧ ∃ before after, Category.all = before ++ category :: after
                ∧ ∀ earlier ∈ before, (lists.pool earlier).Nodup)
      ∧ ∀ pin,
          Pools.ofLists pwm digital analog = .error (.overlapping pin)
            ↔ (∀ category, (lists.pool category).Nodup) ∧ lists.SharedFirst pin)
    ∧ ∀ (choice : BoardChoice) pools,
        choice.pools = .ok pools ↔ pools = choice.lists ∧ choice.lists.Apart := by
  refine ⟨fun pwm digital analog => ⟨fun pools => ofLists_eq_ok_iff, fun category pin => ?_,
    fun pin => ?_⟩, fun choice pools => ?_⟩
  · rw [ofLists_eq_error_iff, Pools.repeated?_eq_some_iff, Pools.shared?_eq_some_iff]
    constructor
    · rintro (⟨_, _, hfault, hfirst⟩ | ⟨-, _, hfault, -⟩)
      · cases hfault
        exact hfirst
      · cases hfault
    · exact fun hfirst => .inl ⟨category, pin, rfl, hfirst⟩
  · rw [ofLists_eq_error_iff, Pools.repeated?_eq_some_iff, Pools.shared?_eq_some_iff,
      Pools.repeated?_eq_none_iff]
    constructor
    · rintro (⟨_, _, hfault, -⟩ | ⟨hnodup, _, hfault, hshared⟩)
      · cases hfault
      · cases hfault
        exact ⟨hnodup, hshared⟩
    · exact fun h => .inr ⟨h.1, pin, rfl, h.2⟩
  · rw [board_pools_eq]
    exact ofLists_eq_ok_iff

end SerialEndpoint
