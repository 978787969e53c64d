import FormatPipeline.Schedule.Debounce
import Mathlib.Data.List.Induction

/-! What happens to delayed actions over time, and which of them are still open after it. -/

namespace FormatPipeline.Schedule

variable {α : Type}

/-- Something that happens to delayed actions at a moment. -/
inductive Occurrence (α : Type) where
  /-- An action was asked for under a key. -/
  | called (moment : Nat) (key : String) (action : α)
  /-- All the actions that wait were cancelled. -/
  | cancelled (moment : Nat)
  /-- The action of a key was done. -/
  | ran (moment : Nat) (key : String) (action : α)

namespace Occurrence

/-- When it happened. -/
def moment : Occurrence α → Nat
  | called moment _ _ | cancelled moment | ran moment _ _ => moment

/-- Whether it puts an end to the waiting of an action under the key. -/
def concerns (key : String) : Occurrence α → Bool
  | called _ other _ | ran _ other _ => other == key
  | cancelled _ => true

/-- Whether an action that waits under the key is given up for it. -/
def supersedes (key : String) : Occurrence α → Bool
  | called _ other _ => other == key
  | cancelled _ => true
  | ran .. => false

/-- The moment and the action, if an action was asked for under the key. -/
def call? (key : String) : Occurrence α → Option (Nat × α)
  | called moment other action => if other = key then some (moment, action) else none
  | cancelled _ | ran .. => none

/-- The moment and the action, if an action was done under the key. -/
def run? (key : String) : Occurrence α → Option (Nat × α)
  | ran moment other action => if other = key then some (moment, action) else none
  | called .. | cancelled _ => none

/-- The action, if one was done. -/
def done? : Occurrence α → Option α
  | ran _ _ action => some action
  | called .. | cancelled _ => none

/-- Whether it is an action that was done. -/
def isRun : Occurrence α → Bool
  | ran .. => true
  | called .. | cancelled _ => false

/-- What is no run and concerns a key gives up what waits under it. -/
theorem supersedes_of_concerns {occurrence : Occurrence α} {key : String}
    (concerned : occurrence.concerns key) (other : occurrence.isRun = false) :
    occurrence.supersedes key := by
  cases occurrence with
  | called | cancelled => exact concerned
  | ran => cases other

end Occurrence

/-! ## Open calls -/

/-- The latest call of a key was made at a moment, and since then its action was neither done nor
given up. -/
def IsOpen (history : List (Occurrence α)) (moment : Nat) (key : String) (action : α) : Prop :=
  ∃ before after, history = before ++ .called moment key action :: after ∧
    ∀ occurrence ∈ after, occurrence.concerns key = false

/-- A call stays open until something happens that concerns its key. -/
theorem isOpen_append_singleton {history : List (Occurrence α)} {last : Occurrence α} {moment : Nat}
    {key : String} {action : α} :
    IsOpen (history ++ [last]) moment key action ↔
      last = .called moment key action ∨
        (IsOpen history moment key action ∧ last.concerns key = false) := by
  constructor
  · rintro ⟨before, after, split, calm⟩
    -- The call itself is the last that happened, or the last came behind it.
    rcases List.eq_nil_or_concat after with rfl | ⟨init, final, rfl⟩
    · obtain ⟨-, same⟩ := List.append_inj' split rfl
      exact .inl (List.cons.inj same).1
    · have joined : history ++ [last] = (before ++ .called moment key action :: init) ++ [final] := by
        simpa using split
      obtain ⟨rfl, same⟩ := List.append_inj' joined rfl
      obtain rfl := (List.cons.inj same).1
      exact .inr ⟨⟨before, init, rfl, fun occurrence member => calm occurrence (by simp [member])⟩,
        calm last (by simp)⟩
  · rintro (rfl | ⟨⟨before, after, rfl, calm⟩, other⟩)
    · exact ⟨history, [], rfl, by simp⟩
    · refine ⟨before, after ++ [last], by simp, fun occurrence member => ?_⟩
      rcases List.mem_append.mp member with earlier | final
      · exact calm occurrence earlier
      · rw [List.mem_singleton.mp final]
        exact other

/-- Nothing is open before anything has happened. -/
theorem not_isOpen_nil {moment : Nat} {key : String} {action : α} :
    ¬ IsOpen ([] : List (Occurrence α)) moment key action := by
  rintro ⟨before, after, split, -⟩
  simp at split

/-- The call behind which nothing concerns its key is the open one. -/
theorem isOpen_of_calm (before : List (Occurrence α)) (moment : Nat) (key : String) (action : α)
    {calm : List (Occurrence α)} (quiet : ∀ occurrence ∈ calm, occurrence.concerns key = false) :
    IsOpen (before ++ .called moment key action :: calm) moment key action :=
  ⟨before, calm, rfl, quiet⟩

/-- At most one call of a key is open. -/
theorem IsOpen.unique {history : List (Occurrence α)} {one other : Nat} {key : String} {action act : α}
    (first : IsOpen history one key action) (second : IsOpen history other key act) :
    one = other ∧ action = act := by
  induction history using List.reverseRecOn with
  | nil => exact absurd first not_isOpen_nil
  | append_singleton history last ih =>
    -- A later call of the key closes an earlier one, so of two open calls neither is the later.
    have own : ∀ {moment : Nat} {action : α},
        (Occurrence.called moment key action).concerns key = true := by simp [Occurrence.concerns]
    rcases isOpen_append_singleton.mp first with rfl | ⟨earlier, passed⟩
    · rcases isOpen_append_singleton.mp second with same | ⟨-, passed⟩
      · cases same
        exact ⟨rfl, rfl⟩
      · rw [own] at passed
        cases passed
    · rcases isOpen_append_singleton.mp second with rfl | ⟨late, -⟩
      · rw [own] at passed
        cases passed
      · exact ih earlier late

/-! ## What waits -/

/-- What waits, each with the moment at which it is due, after one more thing has happened. -/
def waitingAfter (delay : Nat) (waiting : List (Nat × Delayed α)) :
    Occurrence α → List (Nat × Delayed α)
  | .called moment key action =>
    waiting.filter (!·.2.key == key) ++ [(moment + delay, ⟨key, delay, action⟩)]
  | .cancelled _ => []
  -- What has run waits no longer, nor does anything else under its key.
  | .ran _ key _ => waiting.filter (!·.2.key == key)

/-- What waits after all that has happened. -/
def waiting (delay : Nat) (history : List (Occurrence α)) : List (Nat × Delayed α) :=
  history.foldl (waitingAfter delay) []

/-- What waits follows from what waited before the last thing that happened. -/
theorem waiting_append_singleton (delay : Nat) (history : List (Occurrence α)) (last : Occurrence α) :
    waiting delay (history ++ [last]) = waitingAfter delay (waiting delay history) last :=
  List.foldl_append

/-- What waits are the actions of the open calls, and each is due when its delay is over. -/
theorem mem_waiting_iff {delay : Nat} {history : List (Occurrence α)} {due : Nat} {entry : Delayed α} :
    (due, entry) ∈ waiting delay history ↔
      ∃ moment, IsOpen history moment entry.key entry.action ∧ due = moment + delay ∧
        entry.delay = delay := by
  induction history using List.reverseRecOn with
  | nil => simp [waiting, not_isOpen_nil]
  | append_singleton history last ih =>
    simp only [waiting_append_singleton, isOpen_append_singleton]
    cases last with
    | called moment key action =>
      -- The call is open from now on, and what was open under its key is not.
      obtain ⟨name, span, act⟩ := entry
      simp only [waitingAfter, List.mem_append, List.mem_filter, ih, Occurrence.concerns,
        List.mem_singleton, Prod.mk.injEq, Delayed.mk.injEq, Occurrence.called.injEq,
        Bool.not_eq_true', beq_eq_false_iff_ne]
      constructor
      · rintro (⟨⟨called, opened, rfl, same⟩, other⟩ | ⟨rfl, rfl, rfl, rfl⟩)
        · exact ⟨called, .inr ⟨opened, Ne.symm other⟩, rfl, same⟩
        · exact ⟨moment, .inl ⟨rfl, rfl, rfl⟩, rfl, rfl⟩
      · rintro ⟨called, ⟨rfl, rfl, rfl⟩ | ⟨opened, other⟩, rfl, same⟩
        · exact .inr ⟨rfl, rfl, same, rfl⟩
        · exact .inl ⟨⟨called, opened, rfl, same⟩, Ne.symm other⟩
    | cancelled moment => simp [waitingAfter, Occurrence.concerns]
    | ran moment key action =>
      -- A run opens nothing, so that only the calls of other keys are left.
      simp only [waitingAfter, List.mem_filter, ih, Occurrence.concerns, reduceCtorEq, false_or,
        Bool.not_eq_true', beq_eq_false_iff_ne]
      constructor
      · rintro ⟨⟨called, opened, rfl, same⟩, other⟩
        exact ⟨called, ⟨opened, Ne.symm other⟩, rfl, same⟩
      · rintro ⟨called, ⟨opened, other⟩, rfl, same⟩
        exact ⟨⟨called, opened, rfl, same⟩, Ne.symm other⟩

/-- Under each key one action waits at most. -/
theorem nodup_waiting (delay : Nat) (history : List (Occurrence α)) :
    ((waiting delay history).map (·.2.key)).Nodup := by
  induction history using List.reverseRecOn with
  | nil => exact List.nodup_nil
  | append_singleton history last ih =>
    have kept : ∀ drop : Nat × Delayed α → Bool,
        (((waiting delay history).filter drop).map (·.2.key)).Nodup :=
      fun drop => ih.sublist ((List.filter_sublist (p := drop)).map _)
    rw [waiting_append_singleton]
    cases last with
    | called moment key action =>
      -- What waited under the key was given up.
      simp only [waitingAfter, List.map_append, List.nodup_append, List.map_cons, List.map_nil]
      refine ⟨kept _, by simp, fun name member other single => ?_⟩
      obtain ⟨entry, stays, rfl⟩ := List.mem_map.mp member
      rw [List.mem_singleton.mp single]
      simpa using (List.mem_filter.mp stays).2
    | cancelled moment => exact List.nodup_nil
    | ran moment key action => exact kept _

/-- Without the action that waits under a key all others wait. -/
theorem filter_waiting_perm {delay : Nat} {history : List (Occurrence α)} {due : Nat} {entry : Delayed α}
    {rest : List (Nat × Delayed α)} (same : (waiting delay history).Perm ((due, entry) :: rest)) :
    ((waiting delay history).filter (!·.2.key == entry.key)).Perm rest := by
  -- No other action waits under the key.
  have apart : ∀ other ∈ rest, entry.key ≠ other.2.key := by
    have distinct := (same.map (·.2.key)).nodup_iff.mp (nodup_waiting delay history)
    simp only [List.map_cons, List.nodup_cons, List.mem_map, not_exists, not_and] at distinct
    exact fun other member equal => distinct.1 other member equal.symm
  refine (same.filter _).trans ?_
  rw [List.filter_cons_of_neg (by simp), List.filter_eq_self.mpr]
  exact fun other member => by simpa using (apart other member).symm

/-! ## Exactness -/

/-- What happens next fits to what has happened: nothing is overdue, and what is done was due. -/
structure Fits (delay : Nat) (history : List (Occurrence α)) (next : Occurrence α) : Prop where
  prompt : ∀ moment key action, IsOpen history moment key action → next.moment ≤ moment + delay
  due : ∀ moment key action, next = .ran moment key action →
    ∃ called, IsOpen history called key action ∧ moment = called + delay

/-- Everything that happens fits to what has happened before. -/
def IsExact (delay : Nat) (history : List (Occurrence α)) : Prop :=
  ∀ before next after, history = before ++ next :: after → Fits delay before next

/-- Before anything happens nothing is out of place. -/
theorem isExact_nil (delay : Nat) : IsExact delay ([] : List (Occurrence α)) := by
  intro before next after split
  simp at split

/-- A history is exact if it was before the last thing that happened, and this fits to it. -/
theorem isExact_append_singleton {delay : Nat} {history : List (Occurrence α)} {last : Occurrence α} :
    IsExact delay (history ++ [last]) ↔ IsExact delay history ∧ Fits delay history last := by
  constructor
  · intro whole
    refine ⟨?_, whole history last [] rfl⟩
    rintro before next after rfl
    exact whole before next (after ++ [last]) (by simp)
  · rintro ⟨earlier, fits⟩ before next after split
    -- What is looked at is the last thing, or it lies in the history before.
    rcases List.eq_nil_or_concat after with rfl | ⟨init, final, rfl⟩
    · obtain ⟨rfl, same⟩ := List.append_inj' split rfl
      obtain rfl := (List.cons.inj same).1
      exact fits
    · have joined : history ++ [last] = (before ++ next :: init) ++ [final] := by simpa using split
      obtain ⟨rfl, -⟩ := List.append_inj' joined rfl
      exact earlier before next init rfl

variable {delay : Nat} {history : List (Occurrence α)}

/-- The first thing that concerns the key of a call comes before the delay is over, and it is the run of
the action unless the action is given up for it. -/
theorem IsExact.find?_concerns (whole : IsExact delay history) {before after : List (Occurrence α)}
    {moment : Nat} {key : String} {action : α}
    (split : history = before ++ .called moment key action :: after) {next : Occurrence α}
    (first : after.find? (·.concerns key) = some next) :
    next.moment ≤ moment + delay ∧
      (next.supersedes key ∨ next = .ran (moment + delay) key action) := by
  obtain ⟨concerned, calm, rest, rfl, quiet⟩ := List.find?_eq_some_iff_append.mp first
  -- Up to then the call is open, so that what happens next has to fit to it.
  have opened : IsOpen (before ++ .called moment key action :: calm) moment key action :=
    isOpen_of_calm before moment key action (by simpa using quiet)
  have fits := whole (before ++ .called moment key action :: calm) next rest (by simp [split])
  refine ⟨fits.prompt _ _ _ opened, ?_⟩
  cases next with
  | called | cancelled => exact .inl (Occurrence.supersedes_of_concerns concerned rfl)
  | ran later other act =>
    obtain rfl : other = key := by simpa [Occurrence.concerns] using concerned
    obtain ⟨called, latest, rfl⟩ := fits.due _ _ _ rfl
    obtain ⟨rfl, rfl⟩ := latest.unique opened
    exact .inr rfl

/-- A call that nothing concerns any more is open. -/
theorem isOpen_of_find?_eq_none {before after : List (Occurrence α)} {moment : Nat} {key : String}
    {action : α} (split : history = before ++ .called moment key action :: after)
    (nothing : after.find? (·.concerns key) = none) : IsOpen history moment key action := by
  rw [split]
  exact isOpen_of_calm before moment key action (by simpa using nothing)

/-! ## Fates of calls -/

/-- The calls of a key, each with the first thing after it that concerns the key. -/
def fates (key : String) : List (Occurrence α) → List ((Nat × α) × Option (Occurrence α))
  | [] => []
  | occurrence :: rest =>
    ((occurrence.call? key).map (·, rest.find? (·.concerns key))).toList ++ fates key rest

/-- A fate belongs to a call and is what comes behind it. -/
theorem mem_fates_iff {key : String} {call : Nat × α} {next : Option (Occurrence α)} :
    (call, next) ∈ fates key history ↔ ∃ before after,
      history = before ++ .called call.1 key call.2 :: after ∧ after.find? (·.concerns key) = next := by
  induction history with
  | nil => simp [fates]
  | cons occurrence rest ih =>
    rw [fates, List.mem_append, ih]
    constructor
    · rintro (own | ⟨before, after, rfl, found⟩)
      · -- Only a call of the key adds a fate, and that is looked for in the rest.
        cases occurrence with
        | called moment other action =>
          simp only [Occurrence.call?] at own
          split at own
          next same =>
            simp only [Option.map_some, Option.toList_some, List.mem_singleton, Prod.mk.injEq] at own
            obtain ⟨rfl, rfl⟩ := own
            exact ⟨[], rest, by rw [same]; rfl, rfl⟩
          next => simp at own
        | cancelled | ran => simp [Occurrence.call?] at own
      · exact ⟨occurrence :: before, after, rfl, found⟩
    · rintro ⟨before, after, split, found⟩
      -- Either the call is the head of the history, or it lies in the rest, where `ih` finds it.
      cases before with
      | nil =>
        cases split
        simp [Occurrence.call?, found]
      | cons head tail =>
        cases split
        exact .inr ⟨tail, after, rfl, found⟩

/-- What does not concern the key is no fate of its calls. -/
theorem fates_append_of_calm {key : String} {last : Occurrence α} (other : last.concerns key = false) :
    fates key (history ++ [last]) = fates key history := by
  induction history with
  | nil => cases last <;> simp_all [fates, Occurrence.call?, Occurrence.concerns]
  | cons occurrence rest ih => simp [fates, ih, List.find?_append, other]

/-- What concerns the key is the fate of the calls that had none. -/
theorem fates_append_of_concerns {key : String} {last : Occurrence α} (concerned : last.concerns key) :
    fates key (history ++ [last]) =
      (fates key history).map (fun fate => (fate.1, fate.2.or (some last))) ++
        ((last.call? key).map (·, none)).toList := by
  -- By induction on the history; a call in it that already has a fate keeps that one, by `Option.or`.
  induction history with
  | nil => simp [fates]
  | cons occurrence rest ih =>
    cases called : occurrence.call? key <;>
      simp [fates, ih, called, List.find?_append, concerned]

/-- The open call is the last one, and the only one without a fate. -/
theorem fates_of_isOpen {moment : Nat} {key : String} {action : α}
    (opened : IsOpen history moment key action) :
    ∃ earlier, fates key history = earlier ++ [((moment, action), none)] ∧
      ∀ fate ∈ earlier, fate.2.isSome := by
  obtain ⟨before, calm, rfl, quiet⟩ := opened
  induction calm using List.reverseRecOn with
  | nil =>
    have own : (Occurrence.called moment key action).concerns key = true := beq_self_eq_true key
    have counted : (Occurrence.called moment key action).call? key = some (moment, action) := if_pos rfl
    refine ⟨_, by rw [fates_append_of_concerns own, counted]; rfl, fun fate member => ?_⟩
    -- All earlier calls are given up for this one at the latest.
    obtain ⟨earlier, -, rfl⟩ := List.mem_map.mp member
    exact Option.isSome_or.trans (Bool.or_true _)
  | append_singleton calm last ih =>
    obtain ⟨earlier, same, decided⟩ := ih fun occurrence member => quiet occurrence (by simp [member])
    refine ⟨earlier, ?_, decided⟩
    have later : fates key (before ++ .called moment key action :: calm ++ [last]) =
        fates key (before ++ .called moment key action :: calm) := fates_append_of_calm (quiet last (by simp))
    rw [← same, ← later, List.append_assoc, List.cons_append]

/-- The actions of a key are done once for each call whose fate is a run, in the order of the calls and
when its delay is over. -/
theorem IsExact.runs_eq (whole : IsExact delay history) (key : String) :
    history.filterMap (·.run? key) =
      ((fates key history).filter (·.2.any (·.isRun))).map fun fate => (fate.1.1 + delay, fate.1.2) := by
  induction history using List.reverseRecOn with
  | nil => rfl
  | append_singleton history last ih =>
    obtain ⟨before, fits⟩ := isExact_append_singleton.mp whole
    simp only [List.filterMap_append, List.filterMap_cons, List.filterMap_nil, ih before]
    by_cases other : last.concerns key = false
    · -- What does not concern the key is neither a run of it nor the fate of a call.
      have silent : last.run? key = none := by
        cases last with
        | called | cancelled => rfl
        | ran => exact if_neg (ne_of_beq_false other)
      rw [fates_append_of_calm other, silent, List.append_nil]
    have concerned : last.concerns key = true := by simpa using other
    rw [fates_append_of_concerns concerned]
    by_cases done : last.isRun
    · cases last with
      | called | cancelled => cases done
      | ran moment name action =>
        obtain rfl : name = key := by simpa [Occurrence.concerns] using concerned
        have counted : (Occurrence.ran moment name action).run? name = some (moment, action) := if_pos rfl
        have silent : (Occurrence.ran moment name action).call? name = none := rfl
        -- The open call has found its fate, and all others had one.
        obtain ⟨called, opened, rfl⟩ := fits.due _ _ _ rfl
        obtain ⟨earlier, same, decided⟩ := fates_of_isOpen opened
        have kept : earlier.map (fun fate =>
            (fate.1, fate.2.or (some (.ran (called + delay) name action)))) = earlier := by
          refine (List.map_congr_left fun fate member => ?_).trans (List.map_id _)
          rw [Option.or_of_isSome (decided fate member)]
          rfl
        rw [same, List.map_append, kept, counted, silent]
        simp [Occurrence.isRun]
    · -- Calls that are given up were not done before and are not done now.
      have silent : last.run? key = none := by
        cases last with
        | called | cancelled => rfl
        | ran => exact absurd rfl done
      have given : ∀ next : Option (Occurrence α),
          (next.or (some last)).any (·.isRun) = next.any (·.isRun) := by
        rintro (_ | next)
        · simpa using done
        · rfl
      simp only [silent, List.filter_append, List.filter_map, List.map_append, List.map_map,
        Function.comp_def, given, List.append_nil]
      cases last.call? key <;> simp

end FormatPipeline.Schedule
