import Pageviews.Proofs.Writer.Rules

/-! Runs of the writer, event by event: moves of the loop and of producers in any order, the clock
while nothing else can happen, and steps from outside at any point. Main statement: the states that
the writer answers with lie on such a path. -/
namespace Pageviews.Writer

variable {α : Type}

/-- One thing that happens in a run. -/
inductive Event (α : Type) where
  /-- The loop moves. The store takes some calls and may refuse the last one. -/
  | loop (taken : List (Call α)) (refused : Option (Call α))
  | producer
  | clock
  | step (step : Step α)

namespace Event

def sent : Event α → List (List α)
  | loop taken _ => taken.filterMap Call.sent?
  | _ => []

def opened : Event α → Nat
  | loop taken _ => taken.countP Call.isOpen
  | _ => 0

def step? : Event α → Option (Step α)
  | step taken => some taken
  | _ => none

/-- Whether the loop or a producer goes on, which takes no time. -/
def isMove : Event α → Bool
  | loop .. | producer => true
  | _ => false

end Event

def moveCount (events : List (Event α)) : Nat := events.countP Event.isMove

theorem moveCount_append (events more : List (Event α)) :
    moveCount (events ++ more) = moveCount events + moveCount more :=
  List.countP_append

def Step.isAdvance : Step α → Bool
  | advance _ => true
  | _ => false

namespace State

/-- Whether nothing more can happen at the current time. -/
def IsAtRest (s : State α) : Prop := s.move = none ∧ s.ready = []

def fresh (policy : Policy) : State α where
  policy := policy
  now := 0
  store := .empty
  queue := []
  phase := .idle none
  draining := false
  signalled := false
  held := true
  ready := []
  waiting := []
  spawned := 0
  accepted := []
  ended := []
  notices := [.configured policy]
  batchesSent := 0
  rowsSent := 0

theorem eq_fresh {policy : Policy} {s : State α} (h : spawn? policy = some s) :
    s = fresh policy := by
  unfold spawn? at h
  split at h <;> cases h
  rfl

theorem isAtRest_of_spawn? {policy : Policy} {s : State α} (h : spawn? policy = some s) :
    s.IsAtRest := by
  obtain rfl := eq_fresh h
  exact ⟨rfl, rfl⟩

end State

inductive Transition : State α → Event α → State α → Prop where
  | loop {s t : State α} {taken : List (Call α)} {refused : Option (Call α)}
      (h : LoopMove s taken refused t) : Transition s (.loop taken refused) t
  | produce {s t : State α} {producer : Producer α} {others : List (Producer α)}
      (hr : s.ready = producer :: others) (h : Production s producer others t) :
      Transition s .producer t
  | clock {s : State α} {time : Nat} (hr : s.IsAtRest) (hn : s.now ≤ time)
      (hd : ∀ due, s.due? = some due → time ≤ due) :
      Transition s .clock { s with now := time }
  | step {s : State α} {step : Step α} (ha : step.isAdvance = false)
      (hw : step.needsWriter = true → s.held = true) :
      Transition s (.step step) (s.perform step)

inductive Path : State α → List (Event α) → State α → Prop where
  | refl (s : State α) : Path s [] s
  | snoc {s t u : State α} {events : List (Event α)} {event : Event α} (h : Path s events t)
      (ht : Transition t event u) : Path s (events ++ [event]) u

namespace Path

theorem single {s t : State α} {event : Event α} (h : Transition s event t) :
    Path s [event] t := .snoc (.refl s) h

theorem trans {s t u : State α} {events more : List (Event α)} (h : Path s events t)
    (ht : Path t more u) : Path s (events ++ more) u := by
  induction ht with
  | refl => simpa using h
  | snoc _ hu ih => simpa only [List.append_assoc] using Path.snoc ih hu

/-- What every event keeps holds at the end of a run. -/
theorem invariant {P : State α → Prop}
    (keep : ∀ {s t event}, Transition s event t → P s → P t) {s t : State α}
    {events : List (Event α)} (h : Path s events t) (hs : P s) : P t := by
  induction h with
  | refl => exact hs
  | snoc _ ht ih => exact keep ht ih

end Path

/-- A run in which steps are taken only while nothing else can happen. -/
inductive CalmPath : State α → List (Event α) → State α → Prop where
  | refl (s : State α) : CalmPath s [] s
  | snoc {s t u : State α} {events : List (Event α)} {event : Event α} (h : CalmPath s events t)
      (ht : Transition t event u) (hr : event.step? ≠ none → t.IsAtRest) :
      CalmPath s (events ++ [event]) u

namespace CalmPath

variable {s t u : State α} {events more : List (Event α)}

theorem path (h : CalmPath s events t) : Path s events t := by
  induction h with
  | refl => exact .refl _
  | snoc _ ht _ ih => exact ih.snoc ht

theorem trans (h : CalmPath s events t) (ht : CalmPath t more u) :
    CalmPath s (events ++ more) u := by
  induction ht with
  | refl => simpa using h
  | snoc _ hu hr ih => simpa only [List.append_assoc] using CalmPath.snoc ih hu hr

/-- A run without steps is calm. -/
theorem of_path (h : Path s events t) (he : events.filterMap Event.step? = []) :
    CalmPath s events t := by
  induction h with
  | refl => exact .refl _
  | snoc _ ht ih =>
    rw [List.filterMap_append, List.append_eq_nil_iff] at he
    have hnone := List.filterMap_eq_nil_iff.mp he.2 _ (List.mem_singleton_self _)
    exact (ih he.1).snoc ht fun hstep => absurd hnone hstep

end CalmPath

namespace State

/-- There is a run without steps from outside. -/
def Leads (s t : State α) : Prop :=
  ∃ events, Path s events t ∧ events.filterMap Event.step? = []

theorem Leads.refl (s : State α) : s.Leads s := ⟨[], .refl s, rfl⟩

theorem Leads.trans {s t u : State α} (h : s.Leads t) (ht : t.Leads u) : s.Leads u := by
  obtain ⟨events, hp, he⟩ := h
  obtain ⟨more, hq, hm⟩ := ht
  exact ⟨events ++ more, hp.trans hq, by rw [List.filterMap_append, he, hm, List.append_nil]⟩

/-- There is a run of loop and producers alone. -/
def Moves (s t : State α) : Prop :=
  ∃ events, Path s events t ∧ ∀ event ∈ events, event.isMove = true

theorem Moves.refl (s : State α) : s.Moves s := ⟨[], .refl s, nofun⟩

theorem Moves.trans {s t u : State α} (h : s.Moves t) (ht : t.Moves u) : s.Moves u := by
  obtain ⟨events, hp, he⟩ := h
  obtain ⟨more, hq, hm⟩ := ht
  exact ⟨events ++ more, hp.trans hq, List.forall_mem_append.mpr ⟨he, hm⟩⟩

theorem filterMap_step?_eq_nil {events : List (Event α)}
    (h : ∀ event ∈ events, event.isMove = true) : events.filterMap Event.step? = [] := by
  refine List.filterMap_eq_nil_iff.mpr fun event hevent => ?_
  cases event with
  | step => cases h _ hevent
  | _ => rfl

theorem Moves.leads {s t : State α} (h : s.Moves t) : s.Leads t := by
  obtain ⟨events, hp, he⟩ := h
  exact ⟨events, hp, filterMap_step?_eq_nil he⟩

theorem moves_move {s t : State α} (h : s.move = some t) : s.Moves t := by
  obtain ⟨_, _, hm⟩ := move_eq_some_iff.mp h
  exact ⟨_, .single (.loop hm), List.forall_mem_singleton.mpr rfl⟩

theorem moves_runLoop (s : State α) : s.Moves s.runLoop := by
  fun_induction runLoop s with
  | case1 s _ => exact .refl s
  | case2 s next h ih => exact (moves_move h).trans ih

theorem moves_runProducers (s : State α) : s.Moves s.runProducers := by
  fun_induction runProducers s with
  | case1 s _ => exact .refl s
  | case2 s producer others h ih =>
    have hp : s.Moves (s.produce producer others) :=
      ⟨_, .single (.produce h (production s producer others)), List.forall_mem_singleton.mpr rfl⟩
    exact hp.trans ih

theorem moves_settle (s : State α) : s.Moves s.settle := by
  fun_induction settle s with
  | case1 s _ => exact moves_runLoop s
  | case2 s _ ih => exact ((moves_runLoop s).trans (moves_runProducers _)).trans ih

theorem leads_runProducers (s : State α) : s.Leads s.runProducers := (moves_runProducers s).leads

theorem leads_settle (s : State α) : s.Leads s.settle := (moves_settle s).leads

theorem move_runLoop (s : State α) : s.runLoop.move = none := by
  fun_induction runLoop s with
  | case1 s h => exact h
  | case2 s next h ih => exact ih

theorem isAtRest_settle (s : State α) : s.settle.IsAtRest := by
  fun_induction settle s with
  | case1 s h => exact ⟨move_runLoop s, h⟩
  | case2 s _ ih => exact ih

/-- What falls due for a loop that waits lies ahead. -/
theorem now_lt_due {s : State α} (h : s.move = none) {due : Nat} (hd : s.due? = some due) :
    s.now < due := by
  rw [move_eq_none_iff] at h
  cases hp : s.phase with
  | idle current =>
    cases current with
    | none => simp [due?, hp] at hd
    | some batch =>
      have hx : ¬ s.isExpired batch = true := fun hx => h (canMove_of_expired hp hx)
      simp only [due?, hp, Option.some.injEq] at hd
      simp only [isExpired, decide_eq_true_eq] at hx
      omega
  | appending row batch until_ =>
    have hn : ¬ until_ ≤ s.now := fun hn => h (canMove_of_appending hp hn)
    simp only [due?, hp, Option.some.injEq] at hd
    omega
  | sending batch trigger age next => simp [due?, hp] at hd
  | ended failure => simp [due?, hp] at hd

theorem canMove_of_due {s : State α} {due : Nat} (hd : s.due? = some due) :
    ({ s with now := due } : State α).CanMove := by
  cases hp : s.phase with
  | idle current =>
    cases current with
    | none => simp [due?, hp] at hd
    | some batch =>
      have hx : ({ s with now := due } : State α).isExpired batch = true := by
        simp only [due?, hp, Option.some.injEq] at hd
        simp [isExpired, hd]
      exact canMove_of_expired rfl hx
  | appending row batch until_ =>
    simp only [due?, hp, Option.some.injEq] at hd
    exact canMove_of_appending rfl (Nat.le_of_eq hd)
  | sending batch trigger age next => simp [due?, hp] at hd
  | ended failure => simp [due?, hp] at hd

theorem length_eq_moveCount {events : List (Event α)}
    (h : ∀ event ∈ events, event.isMove = true) : events.length = moveCount events :=
  (List.countP_eq_length.mpr h).symm

/-- Moves that come to rest are made if any can be made. -/
theorem Moves.exists_pos {s t : State α} (h : s.Moves t) (hs : s.CanMove) (ht : t.IsAtRest) :
    ∃ events, Path s events t ∧ events.filterMap Event.step? = [] ∧
      events.length = moveCount events ∧ 1 ≤ moveCount events := by
  obtain ⟨events, hp, he⟩ := h
  have hlength := length_eq_moveCount he
  have hpos : 1 ≤ events.length := by
    cases hp with
    | refl => exact absurd hs (move_eq_none_iff.mp ht.1)
    | snoc => simp
  exact ⟨events, hp, filterMap_step?_eq_nil he, hlength, hlength ▸ hpos⟩

/-- While time passes, the clock stops only where moves are to be made, and at the end. -/
theorem exists_path_advanceTo {s : State α} (hr : s.IsAtRest) {target : Nat} (hn : s.now ≤ target) :
    ∃ events, Path s events (s.advanceTo target) ∧ events.filterMap Event.step? = [] ∧
      events.length ≤ 2 * moveCount events + 1 := by
  have hclock {s : State α} {time : Nat} (hr : s.IsAtRest) (hn : s.now ≤ time)
      (hd : ∀ due, s.due? = some due → time ≤ due) : Path s [.clock] { s with now := time } :=
    .single (.clock hr hn hd)
  fun_induction advanceTo s target with
  | case1 s hd => exact ⟨_, hclock hr hn fun due he => by simp [hd] at he, rfl, Nat.le_refl 1⟩
  | case2 s due hd hdue ih =>
    have hc : Path s [.clock] { s with now := due } := by
      refine hclock hr (Nat.le_of_lt hdue.1) fun _ he => ?_
      rw [hd] at he
      exact Nat.le_of_eq (Option.some.inj he)
    have hnow : ({ s with now := due } : State α).settle.now ≤ target := by
      rw [now_settle]; exact hdue.2
    obtain ⟨moves, hm, hsteps, hlength, hpos⟩ :=
      (moves_settle _).exists_pos (canMove_of_due hd) (isAtRest_settle _)
    obtain ⟨events, hp, he, hle⟩ := ih (isAtRest_settle _) hnow
    refine ⟨_, (hc.trans hm).trans hp, ?_, ?_⟩
    · rw [List.filterMap_append, List.filterMap_append, hsteps, he]
      rfl
    · rw [moveCount_append, moveCount_append, List.length_append, List.length_append,
        List.length_singleton]
      omega
  | case3 s due hd hdue =>
    have hlt := now_lt_due hr.1 hd
    refine ⟨_, hclock hr hn fun _ he => ?_, rfl, Nat.le_refl 1⟩
    rw [hd, Option.some.injEq] at he
    omega

theorem leads_advanceTo {s : State α} (hr : s.IsAtRest) {target : Nat} (hn : s.now ≤ target) :
    s.Leads (s.advanceTo target) := by
  obtain ⟨events, hp, he, -⟩ := exists_path_advanceTo hr hn
  exact ⟨events, hp, he⟩

/-- What a step brings about needs no further steps; to let time pass is no event of its own, but
what the clock does meanwhile. -/
theorem leads_of_step? {s t : State α} {step : Step α} (hr : s.IsAtRest)
    (h : s.step? step = some t) :
    t.IsAtRest ∧ (step.isAdvance = true ∧ s.Leads t ∨
      step.isAdvance = false ∧ (step.needsWriter = true → s.held = true) ∧
        (s.perform step).Leads t) := by
  unfold step? at h
  split at h
  · cases h
  · next hw =>
    cases h
    refine ⟨isAtRest_settle _, ?_⟩
    cases ha : step.isAdvance with
    | true =>
      cases step with
      | advance time =>
        exact .inl ⟨rfl, (leads_advanceTo hr (Nat.le_add_right s.now time)).trans (leads_settle _)⟩
      | _ => cases ha
    | false =>
      have hw' : step.needsWriter = true → s.held = true := by
        intro hn
        simpa [hn] using hw
      exact .inr ⟨rfl, hw', leads_settle _⟩

/-- A step, with all that it brings about, is a run. -/
theorem exists_calmPath_of_step? {s t : State α} {step : Step α} (hr : s.IsAtRest)
    (h : s.step? step = some t) :
    t.IsAtRest ∧ ∃ events, CalmPath s events t ∧
      events.filterMap Event.step? = [step].filter (!·.isAdvance) := by
  obtain ⟨hrt, ⟨ha, events, hp, he⟩ | ⟨ha, hw, events, hp, he⟩⟩ := leads_of_step? hr h
  · exact ⟨hrt, events, .of_path hp he, by simpa [ha] using he⟩
  · have hstep : CalmPath s [.step step] (s.perform step) :=
      (CalmPath.refl s).snoc (.step ha hw) fun _ => hr
    refine ⟨hrt, [.step step] ++ events, hstep.trans (.of_path hp he), ?_⟩
    rw [List.filterMap_append, he]
    simp [Event.step?, ha]

theorem exists_path_of_step? {s t : State α} {step : Step α} (hr : s.IsAtRest)
    (h : s.step? step = some t) :
    t.IsAtRest ∧ ∃ events, Path s events t ∧
      events.filterMap Event.step? = [step].filter (!·.isAdvance) := by
  obtain ⟨hrt, events, hp, he⟩ := exists_calmPath_of_step? hr h
  exact ⟨hrt, events, hp.path, he⟩

/-- Every state that the writer answers with lies on a calm run, with just the steps that were
taken. -/
theorem exists_calmPath_of_run? {s t : State α} {steps : List (Step α)} {states : List (State α)}
    {i : Nat} (hr : s.IsAtRest) (h : s.run? steps = some states) (hi : states[i]? = some t) :
    t.IsAtRest ∧ ∃ events, CalmPath s events t ∧
      events.filterMap Event.step? = (steps.take (i + 1)).filter (!·.isAdvance) := by
  induction steps generalizing s states i with
  | nil => cases h; simp at hi
  | cons step steps ih =>
    simp only [run?, Option.bind_eq_bind, Option.bind_eq_some_iff, Option.pure_def,
      Option.some.injEq] at h
    obtain ⟨u, hu, rest, hrest, rfl⟩ := h
    obtain ⟨hur, events, hp, he⟩ := exists_calmPath_of_step? hr hu
    cases i with
    | zero =>
      cases hi
      exact ⟨hur, events, hp, by simpa using he⟩
    | succ i =>
      obtain ⟨htr, more, hq, hm⟩ := ih hur hrest hi
      refine ⟨htr, events ++ more, hp.trans hq, ?_⟩
      rw [List.filterMap_append, he, hm, ← List.filter_append]
      rfl

theorem exists_path_of_run? {s t : State α} {steps : List (Step α)} {states : List (State α)}
    {i : Nat} (hr : s.IsAtRest) (h : s.run? steps = some states) (hi : states[i]? = some t) :
    t.IsAtRest ∧ ∃ events, Path s events t ∧
      events.filterMap Event.step? = (steps.take (i + 1)).filter (!·.isAdvance) := by
  obtain ⟨htr, events, hp, he⟩ := exists_calmPath_of_run? hr h hi
  exact ⟨htr, events, hp.path, he⟩

/-- After an answer the run goes on with the steps that are left. -/
theorem run?_drop {s t : State α} {steps : List (Step α)} {states : List (State α)} {i : Nat}
    (h : s.run? steps = some states) (hi : states[i]? = some t) :
    t.run? (steps.drop (i + 1)) = some (states.drop (i + 1)) := by
  induction steps generalizing s states i with
  | nil => cases h; simp at hi
  | cons step steps ih =>
    simp only [run?, Option.bind_eq_bind, Option.bind_eq_some_iff, Option.pure_def,
      Option.some.injEq] at h
    obtain ⟨u, -, rest, hrest, rfl⟩ := h
    cases i with
    | zero =>
      cases hi
      exact hrest
    | succ i => exact ih hrest hi

/-- Between two answers there is a run. -/
theorem exists_path_between {s t u : State α} {steps : List (Step α)} {states : List (State α)}
    {i j : Nat} (hr : s.IsAtRest) (h : s.run? steps = some states) (hi : states[i]? = some t)
    (hij : i ≤ j) (hj : states[j]? = some u) : ∃ events, Path t events u := by
  rcases Nat.eq_or_lt_of_le hij with rfl | hlt
  · rw [hi] at hj
    cases hj
    exact ⟨[], .refl t⟩
  · obtain ⟨ht, -⟩ := exists_path_of_run? hr h hi
    have hlater : (states.drop (i + 1))[j - (i + 1)]? = some u := by
      rw [List.getElem?_drop, Nat.add_sub_cancel' hlt]
      exact hj
    obtain ⟨-, events, hp, -⟩ := exists_path_of_run? ht (run?_drop h hi) hlater
    exact ⟨events, hp⟩

/-- After a step the writer goes on from what the step itself leaves. -/
theorem exists_path_of_run?_cons {s t : State α} {step : Step α} {steps : List (Step α)}
    {states : List (State α)} {i : Nat} (h : s.run? (step :: steps) = some states)
    (hi : states[i]? = some t) :
    t.IsAtRest ∧ ∃ events, Path (s.perform step) events t ∧
      events.filterMap Event.step? = (steps.take i).filter (!·.isAdvance) := by
  simp only [run?, Option.bind_eq_bind, Option.bind_eq_some_iff, Option.pure_def,
    Option.some.injEq] at h
  obtain ⟨u, hu, rest, hrest, rfl⟩ := h
  unfold step? at hu
  split at hu <;> cases hu
  have hr : (s.take step).IsAtRest := isAtRest_settle _
  obtain ⟨events, hp, he⟩ := leads_settle (s.perform step)
  cases i with
  | zero =>
    cases hi
    exact ⟨hr, events, hp, he⟩
  | succ i =>
    obtain ⟨htr, more, hq, hm⟩ := exists_path_of_run? hr hrest hi
    exact ⟨htr, events ++ more, hp.trans hq, by rw [List.filterMap_append, he, hm, List.nil_append]⟩

/-- What is read off one answer, perhaps with the others at hand, is read off a run. -/
theorem exists_answer_of_run? {β : Type} {s : State α} {steps : List (Step α)} {i : Nat}
    {f : List (State α) → State α → β} {b : β}
    (h : ((s.run? steps).bind fun states => states[i]?.map (f states)) = some b) :
    ∃ states t, s.run? steps = some states ∧ states[i]? = some t ∧ f states t = b := by
  obtain ⟨states, hrun, h⟩ := Option.bind_eq_some_iff.mp h
  obtain ⟨t, hi, h⟩ := Option.map_eq_some_iff.mp h
  exact ⟨states, t, hrun, hi, h⟩

theorem exists_answer_of_spawn? {β : Type} {policy : Policy} {steps : List (Step α)} {i : Nat}
    {f : State α → List (State α) → State α → β} {b : β}
    (h : ((spawn? policy).bind fun start => (start.run? steps).bind fun states =>
      states[i]?.map (f start states)) = some b) :
    ∃ start states s, spawn? policy = some start ∧ start.run? steps = some states ∧
      states[i]? = some s ∧ f start states s = b := by
  obtain ⟨start, hs, h⟩ := Option.bind_eq_some_iff.mp h
  obtain ⟨states, s, hrun, hi, h⟩ := exists_answer_of_run? h
  exact ⟨start, states, s, hs, hrun, hi, h⟩

end State
end Pageviews.Writer
