import Mathlib.Data.List.Basic

/-! Runs of a partial step function.

A label that the step function refuses is not enabled in the state. `Reaches`
keeps to labels that the side condition `allowed` admits.
-/

set_option autoImplicit false

namespace EdgeFlow.Library

variable {State Label : Type} (step : State → Label → Option State)

/-- The states a run from `start` gets to when every step it takes is allowed. -/
inductive Reaches (allowed : State → Label → Prop) (start : State) : State → Prop where
  | start : Reaches allowed start start
  | next {state after : State} {label : Label} : Reaches allowed start state →
      allowed state label → step state label = some after → Reaches allowed start after

/-- Follow a list of labels as far as its end. -/
def follow (start : State) (labels : List Label) : Option State := labels.foldlM step start

variable {step}

/-- What holds at the start and survives every allowed step holds wherever a run gets. -/
theorem Reaches.invariant {allowed : State → Label → Prop} {start state : State}
    (Inv : State → Prop) (initially : Inv start)
    (preserved : ∀ state label after, Inv state → allowed state label →
      step state label = some after → Inv after)
    (run : Reaches step allowed start state) : Inv state := by
  induction run with
  | start => exact initially
  | next _ ok taken ih => exact preserved _ _ _ ih ok taken

theorem Reaches.trans {allowed : State → Label → Prop} {start middle final : State}
    (first : Reaches step allowed start middle) (second : Reaches step allowed middle final) :
    Reaches step allowed start final := by
  induction second with
  | start => exact first
  | next _ ok taken ih => exact ih.next ok taken

@[simp] theorem follow_nil (start : State) : follow step start [] = some start := rfl

@[simp] theorem follow_cons (start : State) (label : Label) (labels : List Label) :
    follow step start (label :: labels) =
      (step start label).bind fun after => follow step after labels := rfl

theorem follow_singleton (start : State) (label : Label) : follow step start [label] = step start label := by
  rw [follow_cons]
  exact Option.bind_fun_some _

theorem follow_append (start : State) (first second : List Label) :
    follow step start (first ++ second) =
      (follow step start first).bind fun middle => follow step middle second := by
  induction first generalizing start with
  | nil => rfl
  | cons label first ih =>
    rw [List.cons_append, follow_cons, follow_cons, Option.bind_assoc]
    exact congrArg _ (funext fun after => ih after)

theorem Reaches.of_follow {start final : State} {labels : List Label}
    (run : follow step start labels = some final) : Reaches step (fun _ _ => True) start final := by
  induction labels generalizing start with
  | nil => cases run; exact .start
  | cons label labels ih =>
    rw [follow_cons, Option.bind_eq_some_iff] at run
    obtain ⟨after, taken, rest⟩ := run
    exact (Reaches.start.next trivial taken).trans (ih rest)

/-- A run by a list takes labels of the list only. -/
theorem Reaches.of_follow_mem {start final : State} {labels : List Label}
    (run : follow step start labels = some final) : Reaches step (fun _ label => label ∈ labels) start final := by
  suffices within : ∀ (rest : List Label) (state : State), rest ⊆ labels → follow step state rest = some final →
      Reaches step (fun _ label => label ∈ labels) state final from within labels start (List.Subset.refl labels) run
  intro rest
  induction rest with
  | nil =>
    rintro state - run
    cases run
    exact .start
  | cons label rest ih =>
    intro state subset run
    rw [follow_cons] at run
    obtain ⟨next, taken, later⟩ := Option.bind_eq_some_iff.mp run
    obtain ⟨here, behind⟩ := List.cons_subset.mp subset
    have first : Reaches step (fun _ label => label ∈ labels) state next := Reaches.start.next here taken
    exact first.trans (ih next behind later)

/-- What holds at the start of what has been done, which is nothing, and survives every step holds of a run's labels and
its end. -/
theorem follow_history (Inv : List Label → State → Prop) {start final : State} {labels : List Label}
    (initially : Inv [] start)
    (preserved : ∀ done state label after, Inv done state → step state label = some after →
      Inv (done ++ [label]) after)
    (run : follow step start labels = some final) : Inv labels final := by
  suffices onwards : ∀ (rest done : List Label) (state : State), Inv done state → follow step state rest = some final →
      Inv (done ++ rest) final from onwards labels [] start initially run
  intro rest
  induction rest with
  | nil =>
    intro done state holds run
    cases run
    rwa [List.append_nil]
  | cons label rest ih =>
    intro done state holds run
    obtain ⟨after, taken, later⟩ := Option.bind_eq_some_iff.mp run
    rw [List.append_cons]
    exact ih (done ++ [label]) after (preserved done state label after holds taken) later

/-- Where a view of the states turns each step into a step of another function, it turns a run into a run of that
function. -/
theorem follow_map {Abstract : Type} {abstract : Abstract → Label → Option Abstract} (view : State → Abstract)
    (Inv : State → Prop)
    (preserved : ∀ state label after, Inv state → step state label = some after → Inv after)
    (agrees : ∀ state label, Inv state → (step state label).map view = abstract (view state) label)
    {start : State} (initially : Inv start) (labels : List Label) :
    (follow step start labels).map view = follow abstract (view start) labels := by
  induction labels generalizing start with
  | nil => rfl
  | cons label labels ih =>
    rw [follow_cons, follow_cons, ← agrees start label initially]
    cases taken : step start label with
    | none => rfl
    | some after => exact ih (preserved start label after initially taken)

/-- Each label of a list meets a condition in the state it is taken in. -/
def Throughout (step : State → Label → Option State) (meets : State → Label → Prop) : State → List Label → Prop
  | _, [] => True
  | state, label :: labels =>
    meets state label ∧ ∀ after, step state label = some after → Throughout step meets after labels

/-- Where each step keeps what is good exactly when it meets the condition, so does a run. -/
theorem good_iff_throughout {meets : State → Label → Prop} (Inv Good : State → Prop)
    (preserved : ∀ state label after, Inv state → step state label = some after → Inv after)
    (exact : ∀ state label after, Inv state → step state label = some after →
      (Good after ↔ Good state ∧ meets state label))
    {start final : State} {labels : List Label} (initially : Inv start) (run : follow step start labels = some final) :
    Good final ↔ Good start ∧ Throughout step meets start labels := by
  induction labels generalizing start with
  | nil =>
    cases run
    exact (and_iff_left trivial).symm
  | cons label labels ih =>
    rw [follow_cons, Option.bind_eq_some_iff] at run
    obtain ⟨after, taken, rest⟩ := run
    rw [ih (preserved start label after initially taken) rest, exact start label after initially taken, and_assoc]
    refine and_congr_right fun _ => and_congr_right fun _ =>
      ⟨fun later after' taken' => ?_, fun later => later after taken⟩
    obtain rfl := Option.some.inj (taken.symm.trans taken')
    exact later

theorem throughout_cons {meets : State → Label → Prop} {start after : State} {label : Label} {labels : List Label}
    (taken : step start label = some after) :
    Throughout step meets start (label :: labels) ↔ meets start label ∧ Throughout step meets after labels := by
  refine and_congr_right fun _ => ⟨fun later => later after taken, fun later after' taken' => ?_⟩
  obtain rfl := Option.some.inj (taken.symm.trans taken')
  exact later

/-- Two conditions that say the same wherever a run that meets the first gets are met by the same runs. -/
theorem throughout_iff {side meets meets' : State → Label → Prop} (Inv : State → Prop)
    (exact : ∀ state label, Inv state → side state label → (meets state label ↔ meets' state label))
    (preserved : ∀ state label after, Inv state → side state label → meets state label →
      step state label = some after → Inv after)
    {start : State} {labels : List Label} (initially : Inv start) (sides : Throughout step side start labels) :
    Throughout step meets start labels ↔ Throughout step meets' start labels := by
  induction labels generalizing start with
  | nil => exact Iff.rfl
  | cons label labels ih =>
    have first := exact start label initially sides.1
    rw [Throughout, Throughout, first]
    refine and_congr_right fun met => forall₂_congr fun after taken => ?_
    exact ih (preserved start label after initially sides.1 (first.mpr met) taken) (sides.2 after taken)

/-- Follow a list of labels, checking the side condition at each. -/
def followAllowed (step : State → Label → Option State) (allowed : State → Label → Bool)
    (start : State) (labels : List Label) : Option State :=
  labels.foldlM (fun state label => if allowed state label then step state label else none) start

/-- A list that can be followed so meets the condition throughout. -/
theorem throughout_of_followAllowed {allowed : State → Label → Bool} {start : State} {labels : List Label}
    (run : (followAllowed step allowed start labels).isSome = true) :
    (∃ final, follow step start labels = some final) ∧
      Throughout step (fun state label => allowed state label = true) start labels := by
  induction labels generalizing start with
  | nil => exact ⟨⟨start, rfl⟩, trivial⟩
  | cons label labels ih =>
    simp only [followAllowed, List.foldlM_cons] at run
    split at run
    · next ok =>
      cases taken : step start label with
      | none =>
        rw [taken] at run
        cases run
      | some after =>
        rw [taken] at run
        obtain ⟨⟨final, rest⟩, later⟩ := ih run
        exact ⟨⟨final, by rw [follow_cons, taken]; exact rest⟩, (throughout_cons taken).mpr ⟨ok, later⟩⟩
    · cases run

theorem Reaches.of_followAllowed {allowed : State → Label → Bool} {start final : State}
    {labels : List Label} (run : followAllowed step allowed start labels = some final) :
    Reaches step (fun state label => allowed state label = true) start final := by
  induction labels generalizing start with
  | nil => cases run; exact .start
  | cons label labels ih =>
    simp only [followAllowed, List.foldlM_cons] at run
    split at run
    · next ok =>
      obtain ⟨after, taken, rest⟩ := Option.bind_eq_some_iff.mp run
      have first : Reaches step (fun state label => allowed state label = true) start after :=
        Reaches.start.next ok taken
      exact first.trans (ih rest)
    · cases run

/-- A run whose side condition can be decided is checked by following it. -/
theorem Reaches.of_decide {allowed : State → Label → Prop} [∀ state label, Decidable (allowed state label)]
    {start final : State} {labels : List Label}
    (run : followAllowed step (fun state label => decide (allowed state label)) start labels = some final) :
    Reaches step allowed start final := by
  simpa only [decide_eq_true_eq] using Reaches.of_followAllowed run

end EdgeFlow.Library
