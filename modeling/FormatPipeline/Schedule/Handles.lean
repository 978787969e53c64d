/-! Tasks that wait to do delayed actions, and the handles by which they can be aborted. -/

namespace FormatPipeline.Schedule

/-- An action that is due after its delay unless another one for its key takes its place. -/
structure Delayed (α : Type) where
  key : String
  delay : Nat
  action : α

/-- A task that waits to do a delayed action; its number tells it from every other task. -/
structure Task (α : Type) extends Delayed α where
  number : Nat

/-- Work of a timeline: a delayed action's task, or anything else. -/
inductive Work (α β : Type) where
  | delayed (task : Task α)
  | other (work : β)

namespace Work

variable {α β : Type}

/-- The task of a delayed action, if the work is one. -/
def task? : Work α β → Option (Task α)
  | delayed task => some task
  | other _ => none

@[simp] theorem task?_delayed (task : Task α) : (delayed task : Work α β).task? = some task := rfl

@[simp] theorem task?_other (work : β) : (other work : Work α β).task? = none := rfl

/-- The delayed action, if the work is one. -/
def delayed? (work : Work α β) : Option (Delayed α) := work.task?.map (·.toDelayed)

/-- Whether the work is a delayed action for the key. -/
def isFor (key : String) (work : Work α β) : Bool := work.delayed?.any (·.key == key)

end Work

variable {α τ σ : Type}

/-! ## Handles -/

/-- The numbers of the tasks that wait, each under the key of its action. -/
structure Handles where
  entries : List (String × Nat)
  /-- Under each key there is one task at most. -/
  distinct : (entries.map (·.1)).Nodup

namespace Handles

/-- No handle. -/
def empty : Handles := ⟨[], .nil⟩

/-- The task under a key. -/
def get? (handles : Handles) (key : String) : Option Nat :=
  (handles.entries.find? (·.1 == key)).map (·.2)

/-- Forgets what is under a key. -/
def remove (handles : Handles) (key : String) : Handles where
  entries := handles.entries.filter (!·.1 == key)
  distinct := handles.distinct.sublist (List.filter_sublist.map _)

/-- Puts a task under a key, in place of any other. -/
def insert (handles : Handles) (key : String) (number : Nat) : Handles where
  entries := (handles.remove key).entries ++ [(key, number)]
  distinct := by
    -- What was under the key has been removed.
    rw [List.map_append, List.nodup_append]
    refine ⟨(handles.remove key).distinct, by simp, fun other member same single => ?_⟩
    simp only [remove, List.mem_map, List.mem_filter] at member
    obtain ⟨entry, ⟨-, apart⟩, rfl⟩ := member
    simp_all

/-- How many tasks there are. -/
def size (handles : Handles) : Nat := handles.entries.length

/-- The numbers of all tasks. -/
def numbers (handles : Handles) : List Nat := handles.entries.map (·.2)

end Handles

/-! ## Agreement of handles and tasks -/

/-- The tasks that wait, those whose turn has not come first. -/
def tasksOf (ready : List (Work α τ)) (sleeping : List (Nat × Work α σ)) : List (Task α) :=
  ready.filterMap (·.task?) ++ sleeping.filterMap (·.2.task?)

/-- Every task that waits has its own handle under its key, and every handle has its task. -/
structure Agree (tasks : List (Task α)) (handles : Handles) (issued : Nat) : Prop where
  same : (tasks.map fun task => (task.key, task.number)).Perm handles.entries
  apart : (tasks.map (·.number)).Nodup
  below : ∀ task ∈ tasks, task.number < issued

namespace Agree

variable {tasks rest : List (Task α)} {handles : Handles} {issued : Nat}

/-- The order of the tasks does not matter. -/
theorem perm (agree : Agree tasks handles issued) (order : tasks.Perm rest) :
    Agree rest handles issued where
  same := (order.symm.map _).trans agree.same
  apart := (order.map _).nodup_iff.mp agree.apart
  below task member := agree.below task (order.mem_iff.mpr member)

/-- Without tasks there are no handles. -/
theorem nil (issued : Nat) : Agree ([] : List (Task α)) .empty issued :=
  ⟨.refl _, .nil, by simp⟩

/-- The keys of the tasks are distinct. -/
theorem keys (agree : Agree tasks handles issued) : (tasks.map (·.key)).Nodup := by
  have same := agree.same.map (·.1)
  rw [List.map_map] at same
  exact same.nodup_iff.mpr handles.distinct

/-- A task that removes its handle takes nothing from the others. -/
theorem remove {task : Task α} (agree : Agree (task :: rest) handles issued) :
    Agree rest (handles.remove task.key) issued where
  same := by
    have distinct := agree.keys
    simp only [List.map_cons, List.nodup_cons, List.mem_map, not_exists, not_and] at distinct
    refine .trans ?_ (agree.same.filter _)
    -- No other task has the key.
    rw [List.map_cons, List.filter_cons_of_neg (by simp), List.filter_eq_self.mpr]
    simp only [List.mem_map, forall_exists_index, and_imp]
    rintro entry other member rfl
    simpa using distinct.1 other member
  apart := (List.nodup_cons.mp agree.apart).2
  below other member := agree.below other (.tail _ member)

/-- A task whose key and number are new gets a handle. -/
theorem insert (agree : Agree tasks handles issued) {entry : Delayed α}
    (free : handles.get? entry.key = none) :
    Agree (⟨entry, issued⟩ :: tasks) (handles.insert entry.key issued) (issued + 1) where
  same := by
    -- There is nothing to be removed under the key.
    have untouched : (handles.remove entry.key).entries = handles.entries := by
      refine List.filter_eq_self.mpr fun other member => ?_
      simp only [Handles.get?, Option.map_eq_none_iff, List.find?_eq_none] at free
      simpa using free other member
    simp only [Handles.insert, untouched, List.map_cons]
    have behind : ([(entry.key, issued)] ++ handles.entries).Perm (handles.entries ++ [(entry.key, issued)]) :=
      List.perm_append_comm
    exact (agree.same.cons _).trans behind
  apart := by
    rw [List.map_cons, List.nodup_cons]
    refine ⟨fun member => ?_, agree.apart⟩
    obtain ⟨task, member, same⟩ := List.mem_map.mp member
    exact Nat.lt_irrefl _ (same ▸ agree.below task member)
  below task member := by
    rcases List.mem_cons.mp member with rfl | member
    · exact Nat.lt_succ_self _
    · exact Nat.lt_succ_of_lt (agree.below task member)

/-- Of the tasks those that are kept agree with the handles that are kept. -/
theorem filter (agree : Agree tasks handles issued) {keepTask : Task α → Bool}
    {keepEntry : String × Nat → Bool} {kept : Handles}
    (alike : ∀ task ∈ tasks, keepTask task = keepEntry (task.key, task.number))
    (left : kept.entries = handles.entries.filter keepEntry) :
    Agree (tasks.filter keepTask) kept issued where
  same := by
    rw [left, List.filter_congr alike]
    refine .trans ?_ (agree.same.filter keepEntry)
    rw [List.filter_map]
    exact .refl _
  apart := agree.apart.sublist (List.filter_sublist.map _)
  below task member := agree.below task (List.mem_filter.mp member).1

/-- The number under a key is that of the only task for the key. -/
theorem contains_get?_eq (agree : Agree tasks handles issued) (key : String) {task : Task α}
    (member : task ∈ tasks) : (handles.get? key).toList.contains task.number = (task.key == key) := by
  have listed := agree.same.mem_iff.mp (List.mem_map.mpr ⟨task, member, rfl⟩)
  cases found : handles.entries.find? (·.1 == key) with
  | none =>
    -- Without a handle there is no task for the key.
    have apart := List.find?_eq_none.mp found _ listed
    simpa [Handles.get?, found] using apart
  | some entry =>
    -- The handle has a task, which is moved to the front.
    obtain ⟨owner, owned, rfl⟩ := List.mem_map.mp (agree.same.mem_iff.mpr (List.mem_of_find?_eq_some found))
    obtain rfl : owner.key = key := by simpa using List.find?_some found
    obtain ⟨before, after, rfl⟩ := List.append_of_mem owned
    have front := agree.perm List.perm_middle
    have keys := front.keys
    have numbers := front.apart
    simp only [List.map_cons, List.nodup_cons, List.mem_map, not_exists, not_and] at keys numbers
    rcases List.mem_cons.mp (List.perm_middle.mem_iff.mp member) with rfl | other
    · simp [Handles.get?, found]
    · simp [Handles.get?, found, numbers.1 task other, keys.1 task other]

/-- Every task has its number among the handles. -/
theorem mem_numbers (agree : Agree tasks handles issued) {task : Task α} (member : task ∈ tasks) :
    task.number ∈ handles.numbers :=
  List.mem_map.mpr ⟨_, agree.same.mem_iff.mp (List.mem_map.mpr ⟨task, member, rfl⟩), rfl⟩

end Agree

end FormatPipeline.Schedule
