/-
What an allocation grants (`allocate_granted`).

# What any part of it does

`Advanced` says that the cursors move past exactly the pins that a part of an
allocation grants: for each category the pool up to the new cursor is the pool
up to the old one and then these pins. The relation speaks of all categories
at once, so a pin of one of them is a list of one there and an empty list in
the others (`single`).

It composes along sequencing (`Advanced.trans`), with the pins one behind the
other, so there is one lemma for each step of an allocation: a pin
(`take_advanced`), a pin that may not be wanted (`takeIf_advanced`), the
wiring of a component (`wire_advanced`) and components in a row
(`assign_run`, by induction on them). The whole allocation is its run from the
first pin on, where the pool up to the cursor is empty; so what was granted is
the front of each pool.

# The shape

Beside the numbers stands the shape: a component's wiring fits its kind
(`Wiring.Fits`), with every pin drawn from the pool of its role. The case
splits on wirings that come later are made on this, so a switch with the pins
of a motor never has to be looked at.
-/
import SerialEndpoint.Pin.Allocation

namespace SerialEndpoint

-- ============================================================= wirings

/-- The wirings of a kind: each pin that the kind asks for, from the pool
that its role is served from, and no other. -/
inductive Wiring.Fits : Kind → Wiring → Prop where
  | motor (pwm direction : Option UInt8) (brake : UInt8) :
      Fits (.motor pwm.isSome direction.isSome)
        (.motor (pwm.map (Pin.mk .pwm)) (direction.map (Pin.mk .digital))
          ⟨.digital, brake⟩)
  | voltageSensor (collect : UInt8) :
      Fits .voltageSensor (.voltageSensor ⟨.analog, collect⟩)
  | switch (control : UInt8) : Fits .switch (.switch ⟨.digital, control⟩)
  | distanceSensor : Fits .distanceSensor .none
  | generic (ignored : Bool) : Fits (.generic ignored) .none

/-- The pins of a category in a wiring, in the order of granting. -/
def Wiring.granted (category : Category) (wiring : Wiring) : List UInt8 :=
  (wiring.roles.filter fun entry => entry.2.category = category).map fun entry =>
    entry.2.number

/-- The pins of a category that a component was granted. -/
def Assignment.granted (category : Category) (a : Assignment) : List UInt8 :=
  a.wiring.granted category

-- ============================================================= advances

/-- The cursors went from `before` to `after`, past the given pins of each
pool. -/
def Advanced (pools : Pools) (before after : Cursors)
    (pins : Category → List UInt8) : Prop :=
  ∀ category, after.given category = before.given category + (pins category).length
    ∧ (pools.pool category).take (after.given category)
      = (pools.pool category).take (before.given category) ++ pins category

theorem Advanced.refl (pools : Pools) (cursors : Cursors) :
    Advanced pools cursors cursors fun _ => [] :=
  fun _ => ⟨rfl, (List.append_nil _).symm⟩

theorem Advanced.trans {pools : Pools} {c₀ c₁ c₂ : Cursors}
    {pins pins' : Category → List UInt8} (h : Advanced pools c₀ c₁ pins)
    (h' : Advanced pools c₁ c₂ pins') :
    Advanced pools c₀ c₂ fun category => pins category ++ pins' category := by
  intro category
  obtain ⟨hlen, htake⟩ := h category
  obtain ⟨hlen', htake'⟩ := h' category
  constructor
  · rw [hlen', hlen, List.length_append]
    omega
  · rw [htake', htake, List.append_assoc]

theorem Advanced.of_eq {pools : Pools} {before after : Cursors}
    {pins pins' : Category → List UInt8} (h : Advanced pools before after pins)
    (heq : ∀ category, pins category = pins' category) :
    Advanced pools before after pins' :=
  (funext heq : pins = pins') ▸ h

-- ============================================================ the steps

theorem granting_bind {α β : Type} {x : Granting α} {f : α → Granting β}
    {b : β} {before after : Cursors} (h : (x >>= f) before = .ok b after) :
    ∃ a between, x before = .ok a between ∧ f a between = .ok b after := by
  change EStateM.bind x f before = _ at h
  unfold EStateM.bind at h
  cases hx : x before with
  | ok a between => exact ⟨a, between, rfl, by rw [hx] at h; exact h⟩
  | error fault between => rw [hx] at h; cases h

theorem granting_map {α β : Type} {f : α → β} {x : Granting α}
    {b : β} {before after : Cursors} (h : (f <$> x) before = .ok b after) :
    ∃ a, x before = .ok a after ∧ f a = b := by
  change EStateM.map f x before = _ at h
  unfold EStateM.map at h
  cases hx : x before with
  | ok a between =>
      rw [hx] at h
      injection h with hb hs
      exact ⟨a, by rw [hs], hb⟩
  | error fault between => rw [hx] at h; cases h

/-- The pins of one grant: a single one, of the category asked for. -/
def single (category : Category) (number : UInt8) : Category → List UInt8 :=
  fun c => if category = c then [number] else []

/-- A granted pin is of the category asked for, and the cursors pass it
and no other. -/
theorem take_advanced {pools : Pools} {category : Category} {pin : Pin}
    {before after : Cursors} (h : pools.take category before = .ok pin after) :
    ∃ number, pin = ⟨category, number⟩
      ∧ Advanced pools before after (single category number) := by
  obtain ⟨cursors, s, hget, h⟩ := granting_bind h
  cases hget
  cases hpool : (pools.pool category)[before.given category]? with
  | none => rw [hpool] at h; cases h
  | some number =>
      rw [hpool] at h
      obtain ⟨_, s, hset, h⟩ := granting_bind h
      cases hset
      cases h
      refine ⟨number, rfl, fun c => ?_⟩
      unfold single
      -- the cursor of this category moves, and the others stay
      by_cases hc : category = c
      · subst hc
        have hgiven : (before.advance category).given category
            = before.given category + 1 := by
          cases category <;> rfl
        rw [hgiven, if_pos rfl, List.take_add_one, hpool]
        exact ⟨rfl, rfl⟩
      · have hgiven : (before.advance category).given c = before.given c := by
          cases category <;> cases c <;> first | rfl | exact absurd rfl hc
        rw [hgiven, if_neg hc]
        exact ⟨rfl, (List.append_nil _).symm⟩

theorem takeIf_advanced {pools : Pools} {wanted : Bool} {category : Category}
    {pin : Option Pin} {before after : Cursors}
    (h : pools.takeIf wanted category before = .ok pin after) :
    ∃ number : Option UInt8, number.isSome = wanted
      ∧ pin = number.map (Pin.mk category)
      ∧ Advanced pools before after
          fun c => number.toList.flatMap fun n => single category n c := by
  unfold Pools.takeIf at h
  cases wanted with
  | false =>
      cases h
      exact ⟨none, rfl, rfl, Advanced.refl pools before⟩
  | true =>
      obtain ⟨taken, htake, hsome⟩ := granting_map h
      obtain ⟨number, rfl, hadv⟩ := take_advanced htake
      refine ⟨some number, rfl, hsome.symm, hadv.of_eq fun c => ?_⟩
      simp

/-- Wiring a component grants what its kind asks for. -/
theorem wire_advanced {pools : Pools} {kind : Kind} {wiring : Wiring}
    {before after : Cursors} (h : pools.wire kind before = .ok wiring after) :
    Wiring.Fits kind wiring
      ∧ Advanced pools before after fun category => wiring.granted category := by
  cases kind with
  | motor pwm direction =>
      obtain ⟨pwmPin, c₁, hpwm, h⟩ := granting_bind h
      obtain ⟨directionPin, c₂, hdirection, h⟩ := granting_bind h
      obtain ⟨brakePin, c₃, hbrake, h⟩ := granting_bind h
      cases h
      obtain ⟨pwm, rfl, rfl, hadv₁⟩ := takeIf_advanced hpwm
      obtain ⟨direction, rfl, rfl, hadv₂⟩ := takeIf_advanced hdirection
      obtain ⟨brake, rfl, hadv₃⟩ := take_advanced hbrake
      refine ⟨.motor pwm direction brake,
        (hadv₁.trans (hadv₂.trans hadv₃)).of_eq fun category => ?_⟩
      cases pwm <;> cases direction <;> cases category <;> rfl
  | voltageSensor =>
      obtain ⟨pin, htake, rfl⟩ := granting_map h
      obtain ⟨collect, rfl, hadv⟩ := take_advanced htake
      refine ⟨.voltageSensor collect, hadv.of_eq fun category => ?_⟩
      cases category <;> rfl
  | switch =>
      obtain ⟨pin, htake, rfl⟩ := granting_map h
      obtain ⟨control, rfl, hadv⟩ := take_advanced htake
      refine ⟨.switch control, hadv.of_eq fun category => ?_⟩
      cases category <;> rfl
  | distanceSensor =>
      cases h
      exact ⟨.distanceSensor, Advanced.refl pools before⟩
  | generic ignored =>
      cases h
      exact ⟨.generic ignored, Advanced.refl pools before⟩

-- ====================================================== the whole run

/-- Serving components in a row: one assignment for each, fitting, and the
cursors pass the granted pins in order. -/
theorem assign_run {pools : Pools} {components : List Component} :
    ∀ {assignments : List Assignment} {before after : Cursors},
      components.mapM pools.assign before = .ok assignments after →
      assignments.map Assignment.component = components
        ∧ (∀ a ∈ assignments, Wiring.Fits a.kind a.wiring)
        ∧ Advanced pools before after
            fun category => assignments.flatMap (Assignment.granted category) := by
  induction components with
  | nil =>
      intro assignments before after h
      rw [List.mapM_nil] at h
      cases h
      exact ⟨rfl, fun a ha => absurd ha (by simp), Advanced.refl pools before⟩
  | cons component rest ih =>
      intro assignments before after h
      rw [List.mapM_cons] at h
      obtain ⟨a, c₁, hassign, h⟩ := granting_bind h
      obtain ⟨others, c₂, hrest, h⟩ := granting_bind h
      cases h
      obtain ⟨wiring, hwire, rfl⟩ := granting_map hassign
      obtain ⟨hfits, hadv⟩ := wire_advanced hwire
      obtain ⟨hcomponents, hothers, hadv'⟩ := ih hrest
      refine ⟨by rw [List.map_cons, hcomponents], fun b hb => ?_,
        (hadv.trans hadv').of_eq fun category => ?_⟩
      · rcases List.mem_cons.1 hb with rfl | hb
        · exact hfits
        · exact hothers b hb
      · rw [List.flatMap_cons]
        rfl

theorem given_start (category : Category) : ({} : Cursors).given category = 0 := by
  cases category <;> rfl

/-- A finished allocation has one assignment for each component, in order
and fitting its kind; in each category the pins granted are the front of
the pool, as far as the cursor stands. -/
theorem allocate_granted {pools : Pools} {components : List Component}
    {allocation : Allocation} (h : pools.allocate components = .ok allocation) :
    allocation.assignments.map Assignment.component = components
      ∧ (∀ a ∈ allocation.assignments, Wiring.Fits a.kind a.wiring)
      ∧ ∀ category,
          allocation.cursors.given category
              = (allocation.assignments.flatMap (Assignment.granted category)).length
            ∧ (pools.pool category).take (allocation.cursors.given category)
              = allocation.assignments.flatMap (Assignment.granted category) := by
  unfold Pools.allocate at h
  split at h
  · rename_i assignments cursors hrun
    cases h
    obtain ⟨hcomponents, hfits, hadv⟩ := assign_run hrun
    refine ⟨hcomponents, hfits, fun category => ?_⟩
    obtain ⟨hlen, htake⟩ := hadv category
    rw [given_start, Nat.zero_add] at hlen
    rw [given_start, List.take_zero, List.nil_append] at htake
    exact ⟨hlen, htake⟩
  · cases h

end SerialEndpoint
