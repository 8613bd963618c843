/-
What discovery decides. The rules are written down here on their own: the
words that stand for each kind (`Entry.words`), the names that a component may
have (`WellNamed`), and when components can be served together (`Servable`).

# The loop

Discovery keeps the entries with such a word, in order, and stops at the first
one that cannot be served behind those before it (`discover_decides`). The
induction is on the entries, with what is kept along the way:

- the components that were found so far can be served together;
- the names that count as taken are theirs, and no others.

An entry without a word for a kind is passed over, whatever its name, and
changes neither. One with a word either goes in behind the others
(`Servable.snoc`) or offends, by its name or by one that is taken, and is what
is reported. A name that no component may have is not looked up.

# One fault

Being servable passes from a list to its fronts, so there is one place at most
where a list stops being so (`break_unique`). That is why the first fault is
the only one there is to report (`FirstFault.unique`).

# What the rest builds on

The registry of an agent holds only names that can stand in a command line and
in an identifier, and no name twice (`discover_names`). Every later fact about
command lines, keymaps and sketches rests on these two.
-/
import SerialEndpoint.Agent

namespace SerialEndpoint

-- =============================================================== kinds

/-- The words for the kinds, with the kind that each makes of an entry. -/
def Entry.words (entry : Entry) : List (String × Kind) :=
  [("motor", .motor entry.pwm entry.direction), ("distance_sensor", .distanceSensor),
   ("vl53l0x", .distanceSensor), ("voltage_sensor", .voltageSensor), ("switch", .switch),
   ("generic", .generic entry.ignored)]

/-- True of texts that differ in the case of ASCII letters at most. -/
def sameLetters (text other : String) : Bool :=
  text.toList.map Char.toLower == other.toList.map Char.toLower

/-- The component that an entry declares, if its tag is one of the
words. -/
def Entry.component? (entry : Entry) : Option Component :=
  (entry.words.find? fun word => sameLetters entry.tag word.1).map fun word =>
    ⟨entry.name, word.2⟩

/-- The components of an agent, in the order of declaration. -/
def Agent.components (agent : Agent) : List Component :=
  agent.entries.filterMap Entry.component?

theorem lowered_eq_iff (text word : String)
    (hword : word.toList.map Char.toLower = word.toList) :
    String.ofList (text.toList.map Char.toLower) = word ↔ sameLetters text word = true := by
  unfold sameLetters
  rw [beq_iff_eq, hword, ← String.toList_inj, String.toList_ofList]

/-- The kind of an entry is that of the first word its tag is. -/
theorem component?_eq (entry : Entry) :
    entry.component? = entry.kind?.map (Component.mk entry.name) := by
  have hmotor := lowered_eq_iff entry.tag "motor" (by decide)
  have hdistance := lowered_eq_iff entry.tag "distance_sensor" (by decide)
  have hranger := lowered_eq_iff entry.tag "vl53l0x" (by decide)
  have hvoltage := lowered_eq_iff entry.tag "voltage_sensor" (by decide)
  have hswitch := lowered_eq_iff entry.tag "switch" (by decide)
  have hgeneric := lowered_eq_iff entry.tag "generic" (by decide)
  unfold Entry.component? Entry.words Entry.kind?
  simp only [hmotor, hdistance, hranger, hvoltage, hswitch, hgeneric, List.find?_cons]
  -- the words are asked for in one order on both sides
  cases sameLetters entry.tag "motor" with
  | true => rfl
  | false =>
    cases sameLetters entry.tag "distance_sensor" with
    | true => rfl
    | false =>
      cases sameLetters entry.tag "vl53l0x" with
      | true => rfl
      | false =>
        cases sameLetters entry.tag "voltage_sensor" with
        | true => rfl
        | false =>
          cases sameLetters entry.tag "switch" with
          | true => rfl
          | false => cases sameLetters entry.tag "generic" <;> rfl

-- =============================================================== names

/-- A letter of ASCII or the underscore. -/
def IsLetter (c : Char) : Prop := ('A' ≤ c ∧ c ≤ 'Z') ∨ ('a' ≤ c ∧ c ≤ 'z') ∨ c = '_'

/-- A name of a letter, and letters and digits behind it. -/
def WellNamed (name : String) : Prop :=
  ∃ first rest, name.toList = first :: rest ∧ IsLetter first
    ∧ ∀ c ∈ rest, IsLetter c ∨ ('0' ≤ c ∧ c ≤ '9')

theorem isNameStart_iff {c : Char} : isNameStart c = true ↔ IsLetter c := by
  unfold isNameStart IsLetter Char.isAlpha Char.isUpper Char.isLower
  simp only [Bool.or_eq_true, Bool.and_eq_true, decide_eq_true_eq, beq_iff_eq, or_assoc]
  rfl

theorem isNameChar_iff {c : Char} :
    isNameChar c = true ↔ IsLetter c ∨ ('0' ≤ c ∧ c ≤ '9') := by
  rw [← isNameStart_iff]
  unfold isNameChar isNameStart Char.isAlphanum Char.isDigit
  simp only [Bool.or_eq_true, Bool.and_eq_true, decide_eq_true_eq]
  exact or_right_comm

/-- These are the names that are accepted. -/
theorem wellNamed_iff {name : String} : isComponentName name = true ↔ WellNamed name := by
  unfold isComponentName WellNamed
  cases name.toList with
  | nil => simp
  | cons first rest =>
      simp only [Bool.and_eq_true, List.all_eq_true, isNameStart_iff, isNameChar_iff]
      constructor
      · rintro ⟨hfirst, hrest⟩
        exact ⟨first, rest, rfl, hfirst, hrest⟩
      · rintro ⟨_, _, heq, hfirst, hrest⟩
        cases heq
        exact ⟨hfirst, hrest⟩

/-- Every character of a component's name is a letter, a digit or the
underscore. -/
theorem name_chars {name : String} (hn : isComponentName name = true) :
    ∀ c ∈ name.toList, isNameChar c = true := by
  obtain ⟨first, rest, hname, hfirst, hrest⟩ := wellNamed_iff.1 hn
  rw [hname]
  intro c hc
  rcases List.mem_cons.1 hc with rfl | hc
  · exact isNameChar_iff.2 (.inl hfirst)
  · exact isNameChar_iff.2 (hrest c hc)

theorem name_ne_nil {name : String} (hn : isComponentName name = true) :
    name.toList ≠ [] := by
  obtain ⟨first, rest, hname, -, -⟩ := wellNamed_iff.1 hn
  rw [hname]
  exact List.cons_ne_nil first rest

theorem notMem_name {name : String} (hn : isComponentName name = true)
    {c : Char} (hc : isNameChar c = false) : c ∉ name.toList := by
  intro hmem
  have := name_chars hn c hmem
  rw [hc] at this
  cases this

-- ======================================================== breaking off

/-- Where a list loses what its fronts have from it is one place at
most. -/
theorem break_unique {α : Type} {P : List α → Prop}
    (hfront : ∀ front rest, P (front ++ rest) → P front)
    {before after before' after' : List α} {x x' : α}
    (heq : before ++ x :: after = before' ++ x' :: after')
    (hkept : P before) (hlost : ¬ P (before ++ [x]))
    (hkept' : P before') (hlost' : ¬ P (before' ++ [x'])) : before = before' ∧ x = x' := by
  -- if one front is longer, it goes past the place of the other
  have hshort : ∀ {xs ys more rest : List α} {y z : α}, ys = xs ++ more →
      y :: rest = more ++ z :: after' ∨ y :: rest = more ++ z :: after →
      ¬ P (xs ++ [y]) → P ys → more = [] := by
    intro xs ys more rest y z hys hrest hlost hkept
    cases more with
    | nil => rfl
    | cons first more =>
        have hfirst : y = first := by
          rcases hrest with hrest | hrest <;> exact (List.cons.inj hrest).1
        refine absurd (hfront _ more ?_) hlost
        rw [List.append_assoc, hfirst, List.singleton_append, ← hys]
        exact hkept
  rcases List.append_eq_append_iff.1 heq with ⟨more, hmore, hrest⟩ | ⟨more, hmore, hrest⟩
  · cases hshort hmore (.inl hrest) hlost hkept'
    rw [List.append_nil] at hmore
    exact ⟨hmore.symm, (List.cons.inj hrest).1⟩
  · cases hshort hmore (.inr hrest) hlost' hkept
    rw [List.append_nil] at hmore
    exact ⟨hmore, (List.cons.inj hrest).1.symm⟩

-- ========================================================== components

/-- Components that can be served together: each has a name that a
component may have, and no two have the same. -/
structure Servable (components : List Component) : Prop where
  named : ∀ c ∈ components, WellNamed c.name
  distinct : (components.map Component.name).Nodup

/-- What is wrong with a component behind some others. A name that no
component may have is not looked up among theirs. -/
inductive Offends (before : List Component) (c : Component) : AgentFault → Prop where
  | name (h : ¬ WellNamed c.name) : Offends before c (.invalidName c.name)
  | again (hname : WellNamed c.name) (h : c.name ∈ before.map Component.name) :
      Offends before c (.duplicateName c.name)

/-- The fault of the first component that cannot be served behind those
before it. -/
def FirstFault (components : List Component) (fault : AgentFault) : Prop :=
  ∃ before c after, components = before ++ c :: after ∧ Servable before
    ∧ Offends before c fault

section Components

variable {before : List Component} {c : Component} {fault fault' : AgentFault}

theorem Servable.front (front rest : List Component) (h : Servable (front ++ rest)) :
    Servable front where
  named c hc := h.named c (List.mem_append_left _ hc)
  distinct := by
    have hdistinct := h.distinct
    rw [List.map_append] at hdistinct
    exact (List.nodup_append.1 hdistinct).1

theorem Servable.nil : Servable [] :=
  ⟨fun _ hc => absurd hc List.not_mem_nil, List.nodup_nil⟩

theorem Servable.snoc (h : Servable before) (hname : WellNamed c.name)
    (hfresh : c.name ∉ before.map Component.name) : Servable (before ++ [c]) where
  named b hb := by
    rcases List.mem_append.1 hb with hb | hb
    · exact h.named b hb
    · rw [List.mem_singleton.1 hb]
      exact hname
  distinct := by
    rw [List.map_append, List.map_singleton, List.nodup_append]
    refine ⟨h.distinct, List.nodup_cons.2 ⟨List.not_mem_nil, List.nodup_nil⟩, ?_⟩
    intro name hmem other hother heq
    exact hfresh (List.mem_singleton.1 hother ▸ heq ▸ hmem)

theorem Offends.not_servable (h : Offends before c fault) : ¬ Servable (before ++ [c]) := by
  intro hserved
  cases h with
  | name hname => exact hname (hserved.named c (List.mem_append_right _ (List.mem_singleton_self c)))
  | again _ htaken =>
      have hdistinct := hserved.distinct
      rw [List.map_append, List.map_singleton, List.nodup_append] at hdistinct
      exact hdistinct.2.2 c.name htaken c.name (List.mem_singleton_self _) rfl

theorem Offends.unique (h : Offends before c fault) (h' : Offends before c fault') :
    fault = fault' := by
  cases h with
  | name hname =>
      cases h' with
      | name => rfl
      | again hname' => exact absurd hname' hname
  | again hname =>
      cases h' with
      | name hname' => exact absurd hname hname'
      | again => rfl

theorem FirstFault.unique {components : List Component} (h : FirstFault components fault)
    (h' : FirstFault components fault') : fault = fault' := by
  obtain ⟨before, c, after, rfl, hserved, hoffends⟩ := h
  obtain ⟨before', c', after', heq, hserved', hoffends'⟩ := h'
  obtain ⟨rfl, rfl⟩ := break_unique Servable.front heq hserved hoffends.not_servable
    hserved' hoffends'.not_servable
  exact hoffends.unique hoffends'

theorem FirstFault.not_servable {components : List Component}
    (h : FirstFault components fault) : ¬ Servable components := by
  obtain ⟨before, c, after, rfl, -, hoffends⟩ := h
  rw [List.append_cons]
  exact fun hserved => hoffends.not_servable (hserved.front)

end Components

-- =========================================================== discovery

/-- Behind some components that are served already, discovery finds those
of the entries, or the fault of the first that cannot be served. -/
theorem discoverEntries_decides (entries : List Entry) :
    ∀ (taken : List String) {before : List Component}, Servable before →
      (∀ name, name ∈ taken ↔ name ∈ before.map Component.name) →
      match discoverEntries taken entries with
      | .ok found => found = entries.filterMap Entry.component? ∧ Servable (before ++ found)
      | .error fault => ∃ passed c rest, entries.filterMap Entry.component? = passed ++ c :: rest
          ∧ Servable (before ++ passed) ∧ Offends (before ++ passed) c fault := by
  induction entries with
  | nil =>
      intro taken before hserved _
      exact ⟨rfl, (List.append_nil before).symm ▸ hserved⟩
  | cons entry rest ih =>
      intro taken before hserved htaken
      rw [List.filterMap_cons, component?_eq, discoverEntries]
      cases hkind : entry.kind? with
      | none => exact ih _ hserved htaken
      | some kind =>
          have hhere := (List.append_nil before).symm ▸ hserved
          dsimp only [Option.map_some]
          by_cases hname : isComponentName entry.name = true
          · by_cases hmem : entry.name ∈ taken
            · rw [if_neg (by simp [hname]), if_pos hmem]
              refine ⟨[], ⟨entry.name, kind⟩, _, rfl, hhere, ?_⟩
              rw [List.append_nil]
              exact .again (wellNamed_iff.1 hname) ((htaken entry.name).1 hmem)
            · have hserved' : Servable (before ++ [⟨entry.name, kind⟩]) :=
                hserved.snoc (wellNamed_iff.1 hname) fun h => hmem ((htaken entry.name).2 h)
              have htaken' : ∀ name, name ∈ entry.name :: taken
                  ↔ name ∈ (before ++ [(⟨entry.name, kind⟩ : Component)]).map Component.name := by
                intro name
                rw [List.map_append, List.mem_append, List.mem_cons, ← htaken name, or_comm]
                simp
              have hrest := ih _ hserved' htaken'
              rw [if_neg (by simp [hname]), if_neg hmem]
              cases hfound : discoverEntries (entry.name :: taken) rest with
              | ok found =>
                  rw [hfound] at hrest
                  obtain ⟨rfl, hall⟩ := hrest
                  exact ⟨rfl, by rwa [List.append_assoc] at hall⟩
              | error fault =>
                  rw [hfound] at hrest
                  obtain ⟨passed, c, later, hsplit, hall, hoffends⟩ := hrest
                  rw [List.append_assoc] at hall hoffends
                  exact ⟨_, c, later, congrArg _ hsplit, hall, hoffends⟩
          · rw [if_pos (by simp [hname])]
            refine ⟨[], ⟨entry.name, kind⟩, _, rfl, hhere, ?_⟩
            exact .name fun h => hname (wellNamed_iff.2 h)

/-- What discovery comes to: the components of the agent, or a fault. -/
theorem discover_decides (agent : Agent) :
    match agent.discover with
    | .ok registry => registry = ⟨agent.name, agent.components⟩ ∧ agent.components ≠ []
        ∧ Servable agent.components
    | .error fault => FirstFault agent.components fault
        ∨ agent.components = [] ∧ fault = .noComponents agent.name := by
  have hdecided := discoverEntries_decides agent.entries [] Servable.nil fun _ => .rfl
  unfold Agent.discover Agent.components
  cases hfound : discoverEntries [] agent.entries with
  | error fault =>
      rw [hfound] at hdecided
      exact .inl hdecided
  | ok found =>
      rw [hfound] at hdecided
      obtain ⟨hall, hserved⟩ := hdecided
      cases found with
      | nil => exact .inr ⟨hall.symm, rfl⟩
      | cons c rest =>
          rw [← hall]
          exact ⟨rfl, List.cons_ne_nil c rest, hserved⟩

/-- A registry holds at least one component, valid names only, and no
name twice. -/
theorem discover_names {agent : Agent} {registry : Registry}
    (h : agent.discover = .ok registry) :
    registry.components ≠ []
      ∧ (∀ c ∈ registry.components, isComponentName c.name = true)
      ∧ (registry.components.map Component.name).Nodup := by
  have hdecided := discover_decides agent
  rw [h] at hdecided
  obtain ⟨rfl, hrecognised, hserved⟩ := hdecided
  exact ⟨hrecognised, fun c hc => wellNamed_iff.2 (hserved.named c hc), hserved.distinct⟩

end SerialEndpoint
