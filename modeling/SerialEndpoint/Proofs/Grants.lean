/-
An allocation asked again and again. Whoever holds the cursors may ask for
single pins and for whole components, in any order, and may go on after a
demand that failed; a component that fails half way keeps the cursors where
its last pin left them, so the pins it took are lost and not given a second
time.

# What every step does

Every step, failed or not, moves the cursors past a stretch of each pool
(`Forward`). A pin that is taken is a stretch of one, a pool that is exhausted
one of none, and steps in a row move past their stretches one behind the other
(`forward_bind`); if the first of them fails, its own stretch is all. What a
demand is granted is exactly its stretch (`grant_advanced`).

# A run

So the grants of a whole run lie, in order, in the stretch that the cursors
have passed (`serve_advanced`). They are not all of it: what is missing was
taken by demands that failed. From full pools on that stretch is the front of
a pool, so the grants of a category are pins of its pool, in the pool's own
order, and no pin twice (`serve_front`).

# No place twice

Within a category the numbers differ because the pools repeat none. Across
categories the number alone does not tell pins apart, but the place on the
headers does: analog pins have a header of their own, and no pin is both a PWM
and a digital pin (`Pools.Available.position_inj`).
-/
import SerialEndpoint.Proofs.Rendering

namespace SerialEndpoint

-- ============================================================= demands

/-- What an allocation can be asked for. -/
inductive Demand where
  | pin (category : Category)
  | component (component : Component)
deriving DecidableEq

/-- Grants what is demanded. -/
def Pools.grant (pools : Pools) : Demand → Granting (List Pin)
  | .pin category => List.singleton <$> pools.take category
  | .component component => (fun a => a.roles.map Prod.snd) <$> pools.assign component

/-- Serves some demands in order, each from where the one before it left
the cursors: the pins of the demands that were granted, and where the
cursors stand in the end. -/
def Pools.serve (pools : Pools) : List Demand → Cursors → List Pin × Cursors
  | [], cursors => ([], cursors)
  | demand :: rest, cursors =>
    match pools.grant demand cursors with
    | .ok pins after => (pins ++ (pools.serve rest after).1, (pools.serve rest after).2)
    | .error _ after => pools.serve rest after

theorem serve_append (pools : Pools) (demands more : List Demand) (cursors : Cursors) :
    (pools.serve (demands ++ more) cursors).2
      = (pools.serve more (pools.serve demands cursors).2).2 := by
  induction demands generalizing cursors with
  | nil => rfl
  | cons demand rest ih =>
      rw [List.cons_append, Pools.serve, Pools.serve]
      cases pools.grant demand cursors with
      | ok pins after => exact ih after
      | error fault after => exact ih after

-- =============================================================== steps

/-- Where a step leaves the cursors. -/
def cursorsAfter {α : Type} : EStateM.Result Exhausted Cursors α → Cursors
  | .ok _ after => after
  | .error _ after => after

/-- A step that moves the cursors past some stretch of each pool, whether
or not it succeeds. -/
def Forward {α : Type} (pools : Pools) (step : Granting α) : Prop :=
  ∀ before, ∃ stretch, Advanced pools before (cursorsAfter (step before)) stretch

section Steps

variable {α β : Type} {pools : Pools}

theorem forward_pure (a : α) : Forward pools (pure a) :=
  fun before => ⟨_, Advanced.refl pools before⟩

theorem forward_bind {x : Granting α} {f : α → Granting β} (hx : Forward pools x)
    (hf : ∀ a, Forward pools (f a)) : Forward pools (x >>= f) := by
  intro before
  obtain ⟨first, hfirst⟩ := hx before
  show ∃ stretch, Advanced pools before (cursorsAfter (EStateM.bind x f before)) stretch
  unfold EStateM.bind
  cases hrun : x before with
  | ok a between =>
      rw [hrun] at hfirst
      obtain ⟨second, hsecond⟩ := hf a between
      exact ⟨_, hfirst.trans hsecond⟩
  | error fault after =>
      rw [hrun] at hfirst
      exact ⟨first, hfirst⟩

theorem forward_map {x : Granting α} (f : α → β) (hx : Forward pools x) :
    Forward pools (f <$> x) := by
  intro before
  obtain ⟨stretch, hstretch⟩ := hx before
  show ∃ stretch, Advanced pools before (cursorsAfter (EStateM.map f x before)) stretch
  unfold EStateM.map
  cases hrun : x before with
  | ok a after =>
      rw [hrun] at hstretch
      exact ⟨stretch, hstretch⟩
  | error fault after =>
      rw [hrun] at hstretch
      exact ⟨stretch, hstretch⟩

/-- An exhausted pool leaves the cursors where they are. -/
theorem take_error {category : Category} {before after : Cursors} {fault : Exhausted}
    (h : pools.take category before = .error fault after) : after = before := by
  unfold Pools.take at h
  change EStateM.bind EStateM.get _ before = _ at h
  unfold EStateM.bind EStateM.get at h
  cases hpool : (pools.pool category)[before.given category]? with
  | none =>
      simp only [hpool] at h
      cases h
      rfl
  | some number =>
      simp only [hpool] at h
      cases h

theorem forward_take (category : Category) : Forward pools (pools.take category) := by
  intro before
  cases hrun : pools.take category before with
  | ok pin after =>
      obtain ⟨number, -, hadvanced⟩ := take_advanced hrun
      exact ⟨_, hadvanced⟩
  | error fault after =>
      rw [take_error hrun]
      exact ⟨_, Advanced.refl pools before⟩

theorem forward_takeIf (wanted : Bool) (category : Category) :
    Forward pools (pools.takeIf wanted category) := by
  unfold Pools.takeIf
  cases wanted with
  | false => exact forward_pure none
  | true => exact forward_map some (forward_take category)

theorem forward_wire (kind : Kind) : Forward pools (pools.wire kind) := by
  cases kind with
  | motor pwm direction =>
      refine forward_bind (forward_takeIf pwm .pwm) fun pwmPin => ?_
      refine forward_bind (forward_takeIf direction .digital) fun directionPin => ?_
      exact forward_bind (forward_take .digital) fun brake => forward_pure _
  | voltageSensor => exact forward_map _ (forward_take .analog)
  | switch => exact forward_map _ (forward_take .digital)
  | distanceSensor => exact forward_pure _
  | generic ignored => exact forward_pure _

theorem forward_grant (demand : Demand) : Forward pools (pools.grant demand) := by
  cases demand with
  | pin category => exact forward_map _ (forward_take category)
  | component component => exact forward_map _ (forward_map _ (forward_wire component.kind))

end Steps

-- ================================================================ runs

/-- The numbers of the pins of one category, in order. -/
def numbersOf (category : Category) (pins : List Pin) : List UInt8 :=
  (pins.filter fun pin => pin.category = category).map Pin.number

theorem numbersOf_append (category : Category) (pins more : List Pin) :
    numbersOf category (pins ++ more) = numbersOf category pins ++ numbersOf category more := by
  unfold numbersOf
  rw [List.filter_append, List.map_append]

theorem numbersOf_roles (category : Category) (wiring : Wiring) :
    numbersOf category (wiring.roles.map Prod.snd) = wiring.granted category := by
  unfold numbersOf Wiring.granted
  rw [List.filter_map, List.map_map]
  rfl

/-- The cursors pass exactly the pins that a demand is granted. -/
theorem grant_advanced {pools : Pools} {demand : Demand} {pins : List Pin}
    {before after : Cursors} (h : pools.grant demand before = .ok pins after) :
    Advanced pools before after fun category => numbersOf category pins := by
  cases demand with
  | pin category =>
      obtain ⟨pin, htake, rfl⟩ := granting_map h
      obtain ⟨number, rfl, hadvanced⟩ := take_advanced htake
      refine hadvanced.of_eq fun c => ?_
      cases category <;> cases c <;> rfl
  | component component =>
      obtain ⟨a, hassign, rfl⟩ := granting_map h
      obtain ⟨wiring, hwire, rfl⟩ := granting_map hassign
      exact (wire_advanced hwire).2.of_eq fun c => (numbersOf_roles c wiring).symm

/-- The grants of a run lie in order in the stretch of each pool that the
cursors have passed. What is missing of the stretch was taken by demands
that failed. -/
theorem serve_advanced (pools : Pools) (demands : List Demand) (before : Cursors) :
    ∃ stretch, Advanced pools before (pools.serve demands before).2 stretch
      ∧ ∀ category,
          (numbersOf category (pools.serve demands before).1).Sublist (stretch category) := by
  induction demands generalizing before with
  | nil => exact ⟨_, Advanced.refl pools before, fun _ => .slnil⟩
  | cons demand rest ih =>
      rw [Pools.serve]
      cases hgrant : pools.grant demand before with
      | ok pins between =>
          obtain ⟨stretch, hadvanced, hsublist⟩ := ih between
          refine ⟨_, (grant_advanced hgrant).trans hadvanced, fun category => ?_⟩
          rw [numbersOf_append]
          exact (List.Sublist.refl _).append (hsublist category)
      | error fault between =>
          obtain ⟨lost, hlost⟩ := forward_grant demand before
          rw [hgrant] at hlost
          obtain ⟨stretch, hadvanced, hsublist⟩ := ih between
          exact ⟨_, hlost.trans hadvanced, fun category =>
            (hsublist category).trans (List.sublist_append_right ..)⟩

/-- From full pools on, the cursors stay within the pools, and the grants of
a category are pins of its pool in the pool's own order. -/
theorem serve_front (pools : Pools) (demands : List Demand) (category : Category) :
    (pools.serve demands {}).2.given category ≤ (pools.pool category).length
      ∧ (numbersOf category (pools.serve demands {}).1).Sublist (pools.pool category) := by
  obtain ⟨stretch, hadvanced, hsublist⟩ := serve_advanced pools demands {}
  obtain ⟨hlength, htake⟩ := hadvanced category
  rw [given_start, Nat.zero_add] at hlength
  rw [given_start, List.take_zero, List.nil_append] at htake
  have hfront : (stretch category).Sublist (pools.pool category) :=
    htake ▸ List.take_sublist ..
  exact ⟨hlength ▸ hfront.length_le, (hsublist category).trans hfront⟩

theorem serve_mono (pools : Pools) (demands : List Demand) (before : Cursors)
    (category : Category) :
    before.given category ≤ (pools.serve demands before).2.given category := by
  obtain ⟨stretch, hadvanced, -⟩ := serve_advanced pools demands before
  rw [(hadvanced category).1]
  exact Nat.le_add_right ..

-- ============================================================ positions

/-- The pools of a board are pools as they can be had. -/
theorem available_of_board {board : BoardChoice} {pools : Pools}
    (h : board.pools = .ok pools) : pools.Available := by
  unfold BoardChoice.pools at h
  simp only at h
  split at h
  · cases h
    exact .own board.target
  · exact .accepted h

/-- No pin is both a PWM and a digital pin. -/
theorem Pools.Available.disjoint {pools : Pools} (h : pools.Available) {number : UInt8}
    (hpwm : number ∈ pools.pool .pwm) : number ∉ pools.pool .digital :=
  h.apart.disjoint number hpwm

/-- Pins of the pools in one place of the headers are one pin. -/
theorem Pools.Available.position_inj {pools : Pools} (h : pools.Available) {p q : Pin}
    (hp : p.number ∈ pools.pool p.category) (hq : q.number ∈ pools.pool q.category)
    (hplace : p.position = q.position) : p = q := by
  obtain ⟨pc, pn⟩ := p
  obtain ⟨qc, qn⟩ := q
  have hnumber : pn = qn := by
    cases pc <;> cases qc <;> simp [Pin.position] at hplace <;> exact hplace
  subst hnumber
  cases pc <;> cases qc
  case pwm.pwm | digital.digital | analog.analog => rfl
  case pwm.digital => exact absurd hq (h.disjoint hp)
  case digital.pwm => exact absurd hp (h.disjoint hq)
  all_goals simp [Pin.position] at hplace

/-- Pins are all different if in each category their numbers are. -/
theorem nodup_of_numbersOf {pins : List Pin}
    (h : ∀ category, (numbersOf category pins).Nodup) : pins.Nodup := by
  rw [List.nodup_iff_count_le_one]
  intro pin
  have hcount : pins.count pin
      = (pins.filter fun p => p.category = pin.category).count pin := by
    rw [List.count_filter (by simp)]
  calc pins.count pin
      = (pins.filter fun p => p.category = pin.category).count pin := hcount
    _ ≤ (numbersOf pin.category pins).count pin.number := List.count_le_count_map
    _ ≤ 1 := List.nodup_iff_count_le_one.1 (h pin.category) pin.number

-- =========================================================== the theorem

/-- Whatever is demanded of the pools of a board, and whether or not the
demands are granted: no two grants share a place on the headers, every
grant is from the pool of its category, and the cursors only move forward
and never past the end of a pool. -/
theorem grants_apart {board : BoardChoice} {pools : Pools} (h : board.pools = .ok pools)
    (demands : List Demand) :
    ((pools.serve demands {}).1.map Pin.position).Nodup
      ∧ (∀ pin ∈ (pools.serve demands {}).1, pin.number ∈ pools.pool pin.category)
      ∧ ∀ category,
          (pools.serve demands {}).2.given category ≤ (pools.pool category).length
          ∧ ∀ more, (pools.serve demands {}).2.given category
              ≤ (pools.serve (demands ++ more) {}).2.given category := by
  have havailable := available_of_board h
  have hmem : ∀ pin ∈ (pools.serve demands {}).1,
      pin.number ∈ pools.pool pin.category := by
    intro pin hpin
    refine (serve_front pools demands pin.category).2.subset ?_
    unfold numbersOf
    exact List.mem_map_of_mem (List.mem_filter.2 ⟨hpin, by simp⟩)
  refine ⟨?_, hmem, fun category => ⟨(serve_front pools demands category).1, fun more => ?_⟩⟩
  · have hnodup : (pools.serve demands {}).1.Nodup :=
      nodup_of_numbersOf fun category =>
        (havailable.nodup category).sublist (serve_front pools demands category).2
    exact hnodup.map_on fun p hp q hq hplace =>
      havailable.position_inj (hmem p hp) (hmem q hq) hplace
  · rw [serve_append]
    exact serve_mono pools more _ category

/-- A board with one digital pin: a motor fails at its brake, and the PWM
pin and the digital pin it took are not given again. -/
theorem grants_apart_after_failure :
    let board : BoardChoice := { target := .uno, digital := some [2] }
    let demands := [.component ⟨"Left", .motor true true⟩, .pin .pwm, .pin .digital,
      .component ⟨"Battery", .voltageSensor⟩]
    ∃ pools, board.pools = .ok pools
      ∧ pools.serve demands {} = ([⟨.pwm, 9⟩, ⟨.analog, 0⟩], ⟨2, 1, 1⟩)
      ∧ ((pools.serve demands {}).1.map Pin.position).Nodup := by
  intro board demands
  have hpools : board.pools = .ok ⟨[3, 9, 10, 11], [2], Pools.uno.analog⟩ := by rfl
  exact ⟨_, hpools, by rfl, (grants_apart hpools demands).1⟩

end SerialEndpoint
