import EdgeOffloading.Cpp.Json
import EdgeOffloading.Bridge.SessionManager

/-!
# Parsing the global configuration

`GlobalConfig::parse_from_json`. An exception of a conversion is caught at the end of the function, so a call that
returns `false` leaves what it had parsed so far. `operator[]` of a constant object without the member is undefined
behaviour in the library; it counts as an exception here.

* `getTaskConfig_addTasks`: a lookup finds the last parsed task with that id;
* `parseTasks_eq`: tasks that all convert are added in their order;
* `index_never_dangles`: after any calls, the index has the last task of each id, and no other positions.
-/

namespace EdgeOffloading

namespace Json

/-- `j[k]` of a constant value. -/
def member (j : Json) (k : String) : Option Json := j.find k

/-- The values of a range-based `for`: a value that is no container is its own only element. -/
def elements : Json → List Json
  | .null => []
  | .arr items => items
  | .obj fields => fields.map Prod.snd
  | value => [value]

/-- The elements that `size` and `operator[]` with an index give: the index throws where there is no array. -/
def indexed : Json → Option (List Json)
  | .null => some []
  | .arr items => some items
  | .obj [] => some []
  | _ => none

/-- `static_cast<uint8_t>(j)`. -/
def asUInt8 : Json → Option UInt8
  | .int n => some (UInt8.ofInt n)
  | .bool b => some (if b then 1 else 0)
  | .float q => some (UInt8.ofInt (truncate q))
  | _ => none

end Json

/-- `GlobalConfig` with the two numbers that only its getters read. -/
structure LoadedConfig where
  config : GlobalConfig
  defaultSessionTimeout : Nat := 300
  maxConcurrentSessions : Nat := 100

namespace GlobalConfig

def empty : GlobalConfig := { tasks := [], taskIdToIndex := fun _ => none }

/-- The position is written before the task is pushed. -/
def addTask (g : GlobalConfig) (task : TaskConfig) : GlobalConfig where
  tasks := g.tasks ++ [task]
  taskIdToIndex := Function.update g.taskIdToIndex task.taskId (some g.tasks.length)

def parseTypes (task : Json) (field : String) : Option (List UInt8) :=
  if task.contains field then (task.get field).elements.mapM Json.asUInt8 else some []

def parseTask (task : Json) : Option TaskConfig := do
  let taskId ← (← task.member "task_id").asUInt32
  let taskName ← (← task.member "task_name").asString
  let inputMessageTypes ← parseTypes task "input_message_types"
  let outputMessageTypes ← parseTypes task "output_message_types"
  return { taskId, taskName, inputMessageTypes, outputMessageTypes }

/-- The loop over the tasks; `false` where an exception ends it. -/
def parseTasks : GlobalConfig → List Json → GlobalConfig × Bool
  | g, [] => (g, true)
  | g, task :: tasks =>
    match parseTask task with
    | none => (g, false)
    | some t => parseTasks (g.addTask t) tasks

/-- The tasks of a document. -/
def parseAvailableTasks (doc : Json) : GlobalConfig × Bool :=
  if doc.contains "available_tasks" then
    match (doc.get "available_tasks").indexed with
    | none => (empty, false)
    | some tasks => parseTasks empty tasks
  else (empty, true)

end GlobalConfig

namespace LoadedConfig

/-- The two optional numbers; ten seconds are added to the timeout. -/
def parseNumbers (c : LoadedConfig) (doc : Json) : LoadedConfig × Bool :=
  let timeout :=
    if doc.contains "default_session_timeout" then
      (doc.get "default_session_timeout").asUInt32.map fun n => (n + 10) % 2 ^ 32
    else some c.defaultSessionTimeout
  match timeout with
  | none => (c, false)
  | some timeout =>
    let c' := { c with defaultSessionTimeout := timeout }
    if doc.contains "max_concurrent_sessions" then
      match (doc.get "max_concurrent_sessions").asUInt32 with
      | none => (c', false)
      | some n => ({ c' with maxConcurrentSessions := n }, true)
    else (c', true)

/-- `parse_from_json`. -/
def parseFromJson (c : LoadedConfig) (doc : Json) : LoadedConfig × Bool :=
  let parsed := GlobalConfig.parseAvailableTasks doc
  let c' := { c with config := parsed.1 }
  if parsed.2 then c'.parseNumbers doc else (c', false)

end LoadedConfig

/-! ## Lookups -/

namespace GlobalConfig

theorem addTask_index_self (g : GlobalConfig) (t : TaskConfig) :
    (g.addTask t).taskIdToIndex t.taskId = some g.tasks.length :=
  Function.update_self ..

theorem addTask_index_of_ne (g : GlobalConfig) {t : TaskConfig} {n : Nat} (hn : n ≠ t.taskId) :
    (g.addTask t).taskIdToIndex n = g.taskIdToIndex n :=
  Function.update_of_ne hn ..

/-- Every position in the index is one of a task. -/
def IndexBounded (g : GlobalConfig) : Prop := ∀ n i, g.taskIdToIndex n = some i → i < g.tasks.length

theorem IndexBounded.addTask {g : GlobalConfig} (h : g.IndexBounded) (t : TaskConfig) :
    (g.addTask t).IndexBounded := by
  intro n i hi
  have hlen : (g.addTask t).tasks.length = g.tasks.length + 1 := by
    rw [GlobalConfig.addTask, List.length_append, List.length_singleton]
  rw [hlen]
  by_cases hn : n = t.taskId
  · subst hn
    rw [addTask_index_self] at hi
    cases hi
    exact Nat.lt_succ_self _
  · rw [addTask_index_of_ne g hn] at hi
    exact Nat.lt_succ_of_lt (h n i hi)

theorem getTaskConfig_addTask {g : GlobalConfig} (h : g.IndexBounded) (t : TaskConfig) (n : Nat) :
    (g.addTask t).getTaskConfig n = if t.taskId = n then some t else g.getTaskConfig n := by
  unfold getTaskConfig
  by_cases hn : t.taskId = n
  · subst hn
    rw [if_pos rfl, addTask_index_self]
    exact List.getElem?_concat_length
  · rw [if_neg hn, addTask_index_of_ne g (Ne.symm hn)]
    cases hi : g.taskIdToIndex n with
    | none => rfl
    | some i => exact List.getElem?_append_left (h n i hi)

theorem indexBounded_addTasks {g : GlobalConfig} (h : g.IndexBounded) (l : List TaskConfig) :
    (l.foldl GlobalConfig.addTask g).IndexBounded := by
  induction l generalizing g with
  | nil => exact h
  | cons t l ih => exact ih (h.addTask t)

theorem indexBounded_empty : empty.IndexBounded := fun n i hi => by cases hi

/-- **The last task with an id is found.** -/
theorem getTaskConfig_addTasks (l : List TaskConfig) (n : Nat) :
    (l.foldl addTask empty).getTaskConfig n = l.reverse.find? fun t => t.taskId = n := by
  induction l using List.reverseRecOn with
  | nil => rfl
  | append_singleton l t ih =>
      rw [List.foldl_append, List.foldl_cons, List.foldl_nil,
        getTaskConfig_addTask (indexBounded_addTasks indexBounded_empty l), List.reverse_append, ih]
      by_cases hn : t.taskId = n
      · simp [hn]
      · simp [hn]

theorem parseTasks_eq {tasks : List Json} {l : List TaskConfig} (h : tasks.map parseTask = l.map some)
    (g : GlobalConfig) : parseTasks g tasks = (l.foldl addTask g, true) := by
  induction tasks generalizing g l with
  | nil =>
      rw [List.map_nil, eq_comm, List.map_eq_nil_iff] at h
      rw [h]
      rfl
  | cons task tasks ih =>
      cases l with
      | nil => cases h
      | cons t l =>
          obtain ⟨ht, hl⟩ := List.cons.inj h
          rw [parseTasks, ht]
          exact ih hl (g.addTask t)

/-! ## The index -/

/-- The index has a position for every task, and a position is that of the last task with the id. -/
structure Indexed (g : GlobalConfig) : Prop where
  position : ∀ id i, g.taskIdToIndex id = some i →
    ∃ task, g.tasks[i]? = some task ∧ task.taskId = id ∧
      ∀ j later, i < j → g.tasks[j]? = some later → later.taskId ≠ id
  listed : ∀ task ∈ g.tasks, (g.taskIdToIndex task.taskId).isSome = true

theorem Indexed.bounded {g : GlobalConfig} (h : g.Indexed) : g.IndexBounded := by
  intro id i hi
  obtain ⟨task, htask, -⟩ := h.position id i hi
  exact (List.getElem?_eq_some_iff.mp htask).1

theorem indexed_empty : empty.Indexed := by
  refine ⟨fun id i h => ?_, fun _ h => absurd h List.not_mem_nil⟩
  cases h

/-- **One task more.** -/
theorem Indexed.addTask {g : GlobalConfig} (h : g.Indexed) (t : TaskConfig) : (g.addTask t).Indexed := by
  refine ⟨fun id i hi => ?_, fun task htask => ?_⟩
  · show ∃ task, (g.tasks ++ [t])[i]? = some task ∧ task.taskId = id ∧
      ∀ j later, i < j → (g.tasks ++ [t])[j]? = some later → later.taskId ≠ id
    by_cases hid : id = t.taskId
    · subst hid
      rw [addTask_index_self] at hi
      cases hi
      refine ⟨t, List.getElem?_concat_length, rfl, fun j later hj hlater => ?_⟩
      have hlt := (List.getElem?_eq_some_iff.mp hlater).1
      rw [List.length_append, List.length_singleton] at hlt
      omega
    · rw [addTask_index_of_ne g hid] at hi
      obtain ⟨task, htask, htaskId, hlast⟩ := h.position id i hi
      refine ⟨task, ?_, htaskId, fun j later hj hlater => ?_⟩
      · rw [List.getElem?_append_left (h.bounded id i hi), htask]
      · by_cases hold : j < g.tasks.length
        · rw [List.getElem?_append_left hold] at hlater
          exact hlast j later hj hlater
        · have hnew : later ∈ [t] := by
            rw [List.getElem?_append_right (Nat.not_lt.mp hold)] at hlater
            exact List.mem_of_getElem? hlater
          rw [List.mem_singleton.mp hnew]
          exact Ne.symm hid
  · by_cases hid : task.taskId = t.taskId
    · rw [hid, addTask_index_self]
      rfl
    · rw [addTask_index_of_ne g hid]
      rcases List.mem_append.mp htask with hold | hnew
      · exact h.listed task hold
      · exact absurd (congrArg TaskConfig.taskId (List.mem_singleton.mp hnew)) hid

/-- The tasks before the first that does not convert. -/
def convertible (tasks : List Json) : List TaskConfig := ((tasks.map parseTask).takeWhile Option.isSome).reduceOption

theorem parseTasks_fst (g : GlobalConfig) (tasks : List Json) :
    (parseTasks g tasks).1 = (convertible tasks).foldl addTask g := by
  induction tasks generalizing g with
  | nil => rfl
  | cons task tasks ih =>
      cases htask : parseTask task with
      | none => simp [parseTasks, convertible, htask]
      | some t =>
          have hcons : convertible (task :: tasks) = t :: convertible tasks := by simp [convertible, htask]
          rw [hcons, parseTasks, htask]
          exact ih (g.addTask t)

theorem indexed_addTasks (l : List TaskConfig) : (l.foldl addTask empty).Indexed := by
  induction l using List.reverseRecOn with
  | nil => exact indexed_empty
  | append_singleton l t ih =>
      rw [List.foldl_append]
      exact ih.addTask t

theorem tasks_addTasks (g : GlobalConfig) (l : List TaskConfig) : (l.foldl addTask g).tasks = g.tasks ++ l := by
  induction l generalizing g with
  | nil => exact (List.append_nil _).symm
  | cons t l ih =>
      rw [List.foldl_cons, ih]
      exact List.append_assoc g.tasks [t] l

/-- The tasks that a document brings. -/
def parsedTasks (doc : Json) : List TaskConfig :=
  if doc.contains "available_tasks" then convertible ((doc.get "available_tasks").indexed.getD []) else []

theorem parseAvailableTasks_fst (doc : Json) : (parseAvailableTasks doc).1 = (parsedTasks doc).foldl addTask empty := by
  unfold parseAvailableTasks parsedTasks
  split
  · cases (doc.get "available_tasks").indexed with
    | none => rfl
    | some tasks => exact parseTasks_fst empty tasks
  · rfl

end GlobalConfig

namespace LoadedConfig

theorem parseNumbers_config (c : LoadedConfig) (doc : Json) : (c.parseNumbers doc).1.config = c.config := by
  unfold parseNumbers
  dsimp only
  split
  · rfl
  · split
    · split <;> rfl
    · rfl

/-- **One call** leaves the tasks of its document, whatever it returns and whatever was parsed before. -/
theorem parseFromJson_config (c : LoadedConfig) (doc : Json) :
    (c.parseFromJson doc).1.config = (GlobalConfig.parsedTasks doc).foldl GlobalConfig.addTask GlobalConfig.empty := by
  rw [← GlobalConfig.parseAvailableTasks_fst]
  unfold parseFromJson
  dsimp only
  split
  · rw [parseNumbers_config]
  · rfl

/-- The configuration after calls with these documents. -/
def parseAll (docs : List Json) : LoadedConfig :=
  docs.foldl (fun c doc => (c.parseFromJson doc).1) { config := GlobalConfig.empty }

/-- What the last document brings, if there is one. -/
def lastParsed (docs : List Json) : List TaskConfig := (docs.getLast?.map GlobalConfig.parsedTasks).getD []

theorem parseAll_config (docs : List Json) :
    (parseAll docs).config = (lastParsed docs).foldl GlobalConfig.addTask GlobalConfig.empty := by
  unfold parseAll lastParsed
  cases docs using List.reverseRecOn with
  | nil => rfl
  | append_singleton docs doc =>
      rw [List.foldl_append, List.foldl_cons, List.foldl_nil, parseFromJson_config, List.getLast?_concat]
      rfl

/-- **The index never dangles.** After any calls, each with any document and whether it returned `true` or not: every
position in the index is that of the last task with the id, every task has its id in the index, the tasks are those that
the last document brought, and a lookup finds the last of them with the id, or nothing if there is none. -/
theorem index_never_dangles (docs : List Json) :
    (parseAll docs).config.Indexed ∧ (parseAll docs).config.IndexBounded ∧
      (parseAll docs).config.tasks = lastParsed docs ∧
      ∀ id, ((parseAll docs).config.getTaskConfig id = (lastParsed docs).reverse.find? fun t => t.taskId = id) ∧
        ((parseAll docs).config.getTaskConfig id = none ↔ ∀ task ∈ lastParsed docs, task.taskId ≠ id) := by
  rw [parseAll_config]
  have hindexed := GlobalConfig.indexed_addTasks (lastParsed docs)
  refine ⟨hindexed, hindexed.bounded, GlobalConfig.tasks_addTasks _ _, fun id => ?_⟩
  rw [GlobalConfig.getTaskConfig_addTasks]
  refine ⟨rfl, ?_⟩
  rw [List.find?_eq_none]
  simp

end LoadedConfig

end EdgeOffloading
