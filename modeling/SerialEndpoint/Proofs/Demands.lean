/-
What components ask of the pools, and when they get it. Each kind asks for
pins of some categories in order (`Kind.wants`), and an allocation asks for
those of all components, one after the other. It goes on as long as the pools
have what is asked for, and ends at the first pin that its pool no longer has
(`allocate_decides`).

# What a step asks for

The relation that steps of an allocation share is `Asks`. It says both what a
step does when it is served and where it breaks off:

- a step that is served was covered by the pools, and each cursor has moved by
  as many pins as were asked for;
- a step that is not names the category of the first pin that the pools did
  not have left (`Pools.RunsOut`).

# Steps in a row

So it composes along sequencing whatever becomes of the first part
(`asks_bind`):

- the first part breaks off: the pools run out for the whole where they run
  out for the part (`Pools.RunsOut.append_right`);
- the first part is served: what the pools still have behind it is what they
  have for the whole, less what the part took (`covers_append`), so the
  second part decides, and where it runs out the whole does
  (`Pools.RunsOut.append_left`).

A single pin is looked up where its cursor stands (`asks_take`), and kinds,
components and allocations are put together from that.

# Counting

Being covered speaks of counts only, so whether components are served depends
on how many pins they need of each category (`count_wantsOf`), and not on
their order. The order decides which pool is reported.
-/
import Mathlib.Algebra.GroupWithZero.Nat
import SerialEndpoint.Proofs.Allocation

namespace SerialEndpoint

-- =============================================================== wants

/-- The categories of the pins that a kind asks for, in order. -/
def Kind.wants : Kind → List Category
  | .motor pwm direction =>
    (if pwm then [.pwm] else []) ++ ((if direction then [.digital] else []) ++ [.digital])
  | .voltageSensor => [.analog]
  | .switch => [.digital]
  | .distanceSensor | .generic _ => []

/-- The categories of all pins that some components ask for, in order. -/
def wantsOf (components : List Component) : List Category :=
  components.flatMap fun c => c.kind.wants

/-- How many pins of a category a kind needs: a motor a PWM pin for its
speed and a digital pin for its direction, where it has them, and a
digital pin for its brake; a switch a digital pin; a voltage sensor an
analog one. -/
def Kind.needs : Kind → Category → Nat
  | .motor pwm _, .pwm => pwm.toNat
  | .motor _ direction, .digital => 1 + direction.toNat
  | .switch, .digital => 1
  | .voltageSensor, .analog => 1
  | _, _ => 0

/-- How many pins of a category some components need. -/
def needed (components : List Component) (category : Category) : Nat :=
  (components.map fun c => c.kind.needs category).sum

theorem count_wants (kind : Kind) (category : Category) :
    kind.wants.count category = kind.needs category := by
  cases kind with
  | motor pwm direction => cases pwm <;> cases direction <;> cases category <;> rfl
  | _ => cases category <;> rfl

theorem count_wantsOf (components : List Component) (category : Category) :
    (wantsOf components).count category = needed components category := by
  unfold wantsOf needed
  rw [List.count_flatMap]
  exact congrArg List.sum (List.map_congr_left fun c _ => count_wants c.kind category)

-- ============================================================ the pools

/-- The pools have pins of some categories left, behind the cursors. -/
def Pools.Covers (pools : Pools) (cursors : Cursors) (wants : List Category) : Prop :=
  ∀ category, cursors.given category + wants.count category ≤ (pools.pool category).length

/-- The first pin that the pools do not have left is one of this
category. -/
def Pools.RunsOut (pools : Pools) (cursors : Cursors) (wants : List Category)
    (category : Category) : Prop :=
  ∃ front rest, wants = front ++ category :: rest ∧ pools.Covers cursors front
    ∧ ¬ pools.Covers cursors (front ++ [category])

/-- A step that asks for pins of some categories in order. It takes them all
if the pools have them, and else breaks off where they run out. -/
def Asks {α : Type} (pools : Pools) (wants : List Category) (step : Granting α) : Prop :=
  ∀ before, pools.Covers before [] →
    match step before with
    | .ok _ after => pools.Covers before wants
        ∧ ∀ category, after.given category = before.given category + wants.count category
    | .error fault _ => pools.RunsOut before wants fault.category

section Covers

variable {pools : Pools} {before between after : Cursors} {wants more : List Category}

theorem Pools.Covers.front (front rest : List Category)
    (h : pools.Covers before (front ++ rest)) : pools.Covers before front := by
  intro category
  have := h category
  rw [List.count_append] at this
  omega

/-- What is covered behind the pins of a first part is covered behind that
part. -/
theorem covers_append (hgiven : ∀ category,
      between.given category = before.given category + wants.count category) :
    pools.Covers before (wants ++ more) ↔ pools.Covers between more := by
  refine forall_congr' fun category => ?_
  rw [hgiven category, List.count_append, Nat.add_assoc]

theorem Pools.RunsOut.append_right {category : Category}
    (h : pools.RunsOut before wants category) : pools.RunsOut before (wants ++ more) category := by
  obtain ⟨front, rest, rfl, hcovered, hshort⟩ := h
  exact ⟨front, rest ++ more, by rw [List.append_assoc, List.cons_append], hcovered, hshort⟩

theorem Pools.RunsOut.append_left {category : Category} (hgiven : ∀ category,
      between.given category = before.given category + wants.count category)
    (h : pools.RunsOut between more category) : pools.RunsOut before (wants ++ more) category := by
  obtain ⟨front, rest, rfl, hcovered, hshort⟩ := h
  refine ⟨wants ++ front, rest, (List.append_assoc ..).symm, (covers_append hgiven).2 hcovered, ?_⟩
  rw [List.append_assoc, covers_append hgiven]
  exact hshort

end Covers

-- =============================================================== steps

section Steps

variable {α β : Type} {pools : Pools} {wants more : List Category}

theorem asks_pure (a : α) : Asks pools [] (pure a : Granting α) :=
  fun _ hwithin => ⟨hwithin, fun _ => rfl⟩

theorem asks_bind {x : Granting α} {f : α → Granting β} (hx : Asks pools wants x)
    (hf : ∀ a, Asks pools more (f a)) : Asks pools (wants ++ more) (x >>= f) := by
  intro before hwithin
  have hfirst := hx before hwithin
  show match EStateM.bind x f before with | .ok _ after => _ | .error fault _ => _
  unfold EStateM.bind
  cases hrun : x before with
  | error fault between =>
      rw [hrun] at hfirst
      exact hfirst.append_right
  | ok a between =>
      rw [hrun] at hfirst
      obtain ⟨hcovered, hgiven⟩ := hfirst
      have hwithin' : pools.Covers between [] := by
        rw [← covers_append hgiven, List.append_nil]
        exact hcovered
      have hsecond := hf a between hwithin'
      dsimp only
      cases hrest : f a between with
      | error fault after =>
          rw [hrest] at hsecond
          exact hsecond.append_left hgiven
      | ok b after =>
          rw [hrest] at hsecond
          obtain ⟨hcovered', hgiven'⟩ := hsecond
          refine ⟨(covers_append hgiven).2 hcovered', fun category => ?_⟩
          rw [hgiven', hgiven, List.count_append, Nat.add_assoc]

theorem asks_map {x : Granting α} (f : α → β) (hx : Asks pools wants x) :
    Asks pools wants (f <$> x) := by
  have hbind := asks_bind hx fun a => asks_pure (f a)
  rw [List.append_nil] at hbind
  exact hbind

theorem take_eq (category : Category) (before : Cursors) :
    pools.take category before = match (pools.pool category)[before.given category]? with
      | some number => .ok ⟨category, number⟩ (before.advance category)
      | none => .error ⟨category⟩ before := by
  unfold Pools.take
  show EStateM.bind EStateM.get _ before = _
  unfold EStateM.bind EStateM.get
  dsimp only
  cases (pools.pool category)[before.given category]? with
  | some number => rfl
  | none => rfl

theorem given_advance (cursors : Cursors) (category c : Category) :
    (cursors.advance category).given c = cursors.given c + [category].count c := by
  cases category <;> cases c <;> rfl

theorem asks_take (category : Category) : Asks pools [category] (pools.take category) := by
  intro before hwithin
  rw [take_eq]
  cases hpool : (pools.pool category)[before.given category]? with
  | some number =>
      obtain ⟨hleft, -⟩ := List.getElem?_eq_some_iff.1 hpool
      refine ⟨fun c => ?_, given_advance before category⟩
      by_cases hc : category = c
      · subst hc
        rw [List.count_singleton_self]
        exact hleft
      · rw [List.count_singleton, if_neg (by simpa using hc)]
        exact hwithin c
  | none =>
      refine ⟨[], [], rfl, hwithin, fun hcovered => ?_⟩
      have hnone := List.getElem?_eq_none_iff.1 hpool
      have hone := hcovered category
      rw [List.nil_append, List.count_singleton_self] at hone
      omega

theorem asks_takeIf (wanted : Bool) (category : Category) :
    Asks pools (if wanted then [category] else []) (pools.takeIf wanted category) := by
  cases wanted with
  | false => exact asks_pure none
  | true => exact asks_map some (asks_take category)

theorem asks_wire (kind : Kind) : Asks pools kind.wants (pools.wire kind) := by
  cases kind with
  | motor pwm direction =>
      refine asks_bind (asks_takeIf pwm .pwm) fun pwmPin => ?_
      refine asks_bind (asks_takeIf direction .digital) fun directionPin => ?_
      exact asks_map _ (asks_take .digital)
  | voltageSensor => exact asks_map _ (asks_take .analog)
  | switch => exact asks_map _ (asks_take .digital)
  | distanceSensor => exact asks_pure _
  | generic ignored => exact asks_pure _

theorem asks_components (components : List Component) :
    Asks pools (wantsOf components) (components.mapM pools.assign) := by
  unfold wantsOf
  induction components with
  | nil => exact asks_pure []
  | cons component rest ih =>
      rw [List.mapM_cons, List.flatMap_cons]
      refine asks_bind (asks_map _ (asks_wire component.kind)) fun a => ?_
      exact asks_map _ ih

end Steps

-- =========================================================== allocation

/-- Where the pools run out, they have fewer pins than are needed. -/
theorem Pools.RunsOut.short {pools : Pools} {components : List Component} {category : Category}
    (h : pools.RunsOut {} (wantsOf components) category) :
    ¬ ∀ category, needed components category ≤ (pools.pool category).length := by
  intro hcovered
  obtain ⟨front, rest, heq, -, hshort⟩ := h
  refine hshort (Pools.Covers.front _ rest fun category => ?_)
  rw [← List.append_cons, ← heq, given_start, Nat.zero_add, count_wantsOf]
  exact hcovered category

/-- Components are served if the pools have as many pins of each category as
they need; else the allocation ends where the pools run out. -/
theorem allocate_decides (pools : Pools) (components : List Component) :
    match pools.allocate components with
    | .ok _ => ∀ category, needed components category ≤ (pools.pool category).length
    | .error fault => pools.RunsOut {} (wantsOf components) fault.category := by
  have hwithin : pools.Covers {} [] := fun category => by
    rw [given_start]
    exact Nat.zero_le _
  have hrun := asks_components components {} hwithin
  unfold Pools.allocate EStateM.run
  cases hmade : components.mapM pools.assign {} with
  | error fault after =>
      rw [hmade] at hrun
      exact hrun
  | ok assignments after =>
      rw [hmade] at hrun
      intro category
      have hcovered := hrun.1 category
      rw [given_start, Nat.zero_add, count_wantsOf] at hcovered
      exact hcovered

end SerialEndpoint
