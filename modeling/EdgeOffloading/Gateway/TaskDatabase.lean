import EdgeOffloading.Bridge.GlobalConfig
import EdgeOffloading.Gateway.Controller

/-!
# The task database of a gateway

`load_global_config_from_json`; `none` where a conversion throws, which the function does not catch, as it does what the
parser throws. `default_session_timeout_` and `max_concurrent_sessions_` are converted but nothing reads them.

* `lookup_insertTasks`: a lookup finds the last task that was stored under the key;
* `loaded_key`: a key of a loaded database is the numeral of an `int`.
-/

namespace EdgeOffloading

def messageTypeFromId : Nat → Option MessageType
  | 1 => some .string
  | 2 => some .int32
  | 3 => some .float32
  | 4 => some .bool
  | 11 => some .smLaserscan
  | 12 => some .smSerialString
  | 13 => some .smJointstate
  | 14 => some .smSerialFeedback
  | 201 => some .stringTestInput
  | 202 => some .stringTestResult
  | _ => none

namespace GatewayController

/-- `task_database_[key] = details`, in the order of the map. -/
def insertTask (key : String) (details : TaskDetails) : List (String × TaskDetails) → List (String × TaskDetails)
  | [] => [(key, details)]
  | (k, d) :: tasks =>
    if key = k then (key, details) :: tasks
    else if key < k then (key, details) :: (k, d) :: tasks
    else (k, d) :: insertTask key details tasks

/-- The lambda `parse_types`: ids that are not known are skipped. -/
def parseTypes (task : Json) (field : String) : Option (List MessageType) :=
  if task.contains field then
    ((task.get field).elements.mapM Json.asUInt32).map fun ids => ids.filterMap messageTypeFromId
  else some []

/-- The key and the details of a task. -/
def parseTask (task : Json) : Option (String × TaskDetails) := do
  let taskId ← (task.get "task_id").asInt
  let taskName ← (task.get "task_name").asString
  let inputTypes ← parseTypes task "input_message_types"
  let outputTypes ← parseTypes task "output_message_types"
  return (toString taskId, { taskName, inputTypes, outputTypes })

/-- The loop over the tasks, with the number of loaded ones. -/
def loadTasks : List (String × TaskDetails) → Nat → List Json → Option (List (String × TaskDetails) × Nat)
  | database, loaded, [] => some (database, loaded)
  | database, loaded, task :: tasks =>
    if task.contains "task_id" ∧ task.contains "task_name" then
      match parseTask task with
      | none => none
      | some (key, details) => loadTasks (insertTask key details database) (loaded + 1) tasks
    else loadTasks database loaded tasks

/-- `doc[k].get<int>()` behind `contains`. -/
def optionalInt (doc : Json) (k : String) : Bool := !doc.contains k || (doc.get k).asInt.isSome

/-- `load_global_config_from_json`, with `json::parse`; the database stays if that throws. -/
def loadGlobalConfigFromJson (parse : String → Option Json) (c : GatewayController) (configJson : String) :
    Option (GatewayController × Bool) :=
  match parse configJson with
  | none => some (c, false)
  | some doc =>
    if optionalInt doc "default_session_timeout" && optionalInt doc "max_concurrent_sessions" then
      match doc.get "available_tasks" with
      | .arr tasks =>
        match loadTasks [] 0 tasks with
        | none => none
        | some (database, loaded) => some ({ c with taskDatabase := database }, 0 < loaded)
      | _ => some ({ c with taskDatabase := [] }, false)
    else none

/-! ## Lookups -/

theorem lookup_cons_eq {α : Type} (k' : String) (d : α) (l : List (String × α)) (k : String) :
    ((k', d) :: l).lookup k = if k' = k then some d else l.lookup k := by
  by_cases h : k' = k
  · rw [if_pos h, h, List.lookup_cons_self]
  · rw [if_neg h, List.lookup_cons, beq_false_of_ne (Ne.symm h)]

theorem lookup_insertTask (key : String) (details : TaskDetails) (database : List (String × TaskDetails)) (k : String) :
    (insertTask key details database).lookup k = if key = k then some details else database.lookup k := by
  induction database with
  | nil => exact lookup_cons_eq key details [] k
  | cons entry database ih =>
      obtain ⟨k', d⟩ := entry
      rw [insertTask]
      split
      · rename_i hkey
        rw [lookup_cons_eq, lookup_cons_eq, ← hkey]
        by_cases hk : key = k
        · rw [if_pos hk, if_pos hk]
        · rw [if_neg hk, if_neg hk, if_neg hk]
      · rename_i hkey
        split
        · exact lookup_cons_eq key details _ k
        · rw [lookup_cons_eq, lookup_cons_eq, ih]
          by_cases hk : key = k
          · rw [if_pos hk, if_pos hk, if_neg (hk ▸ Ne.symm hkey)]
          · rw [if_neg hk, if_neg hk]

/-- The database after storing tasks in their order. -/
def insertTasks (l : List (String × TaskDetails)) (database : List (String × TaskDetails)) :
    List (String × TaskDetails) :=
  l.foldl (fun database t => insertTask t.1 t.2 database) database

/-- **The last task with a key is found.** -/
theorem lookup_insertTasks (l : List (String × TaskDetails)) (k : String) :
    (insertTasks l []).lookup k = (l.reverse.find? fun t => t.1 = k).map Prod.snd := by
  induction l using List.reverseRecOn with
  | nil => rfl
  | append_singleton l t ih =>
      rw [insertTasks, List.foldl_append, List.foldl_cons, List.foldl_nil, lookup_insertTask, List.reverse_append]
      rw [insertTasks] at ih
      rw [ih]
      by_cases hk : t.1 = k
      · simp [hk]
      · simp [hk]

theorem loadTasks_eq {tasks : List Json} {l : List (String × TaskDetails)} (h : tasks.map parseTask = l.map some)
    (hcontains : ∀ task ∈ tasks, task.contains "task_id" = true ∧ task.contains "task_name" = true)
    (database : List (String × TaskDetails)) (loaded : Nat) :
    loadTasks database loaded tasks = some (insertTasks l database, loaded + l.length) := by
  induction tasks generalizing database loaded l with
  | nil =>
      rw [List.map_nil, eq_comm, List.map_eq_nil_iff] at h
      rw [h]
      rfl
  | cons task tasks ih =>
      cases l with
      | nil => cases h
      | cons t l =>
          obtain ⟨ht, hl⟩ := List.cons.inj h
          rw [loadTasks, if_pos (hcontains task List.mem_cons_self), ht]
          dsimp only
          rw [ih hl fun task' h' => hcontains task' (List.mem_cons_of_mem task h'), List.length_cons, Nat.add_assoc,
            Nat.add_comm 1]
          rfl

/-! ## Keys -/

/-- The numeral of an `int`. -/
def IntNumeral (k : String) : Prop := ∃ n : Int, -(2 ^ 31) ≤ n ∧ n < 2 ^ 31 ∧ k = toString n

theorem bmod_range (n : Int) : -(2 ^ 31) ≤ n.bmod (2 ^ 32) ∧ n.bmod (2 ^ 32) < 2 ^ 31 := by
  have hle := Int.le_bmod (x := n) (m := 2 ^ 32) (by norm_num)
  have hlt := Int.bmod_lt (x := n) (m := 2 ^ 32) (by norm_num)
  norm_num at hle hlt ⊢
  omega

theorem asInt_range {value : Json} {n : Int} (h : value.asInt = some n) : -(2 ^ 31) ≤ n ∧ n < 2 ^ 31 := by
  cases value with
  | int m =>
      cases h
      exact bmod_range m
  | float q =>
      cases h
      exact bmod_range _
  | bool b =>
      cases h
      cases b <;> decide
  | _ => cases h

theorem key_of_parseTask {task : Json} {key : String} {details : TaskDetails}
    (h : parseTask task = some (key, details)) : IntNumeral key := by
  obtain ⟨n, hn, h⟩ := Option.bind_eq_some_iff.mp h
  obtain ⟨taskName, -, h⟩ := Option.bind_eq_some_iff.mp h
  obtain ⟨inputTypes, -, h⟩ := Option.bind_eq_some_iff.mp h
  obtain ⟨outputTypes, -, h⟩ := Option.bind_eq_some_iff.mp h
  cases h
  exact ⟨n, (asInt_range hn).1, (asInt_range hn).2, rfl⟩

theorem key_of_loadTasks {tasks : List Json} {database result : List (String × TaskDetails)} {loaded count : Nat}
    (hkeys : ∀ k details, database.lookup k = some details → IntNumeral k)
    (h : loadTasks database loaded tasks = some (result, count)) {k : String} {details : TaskDetails}
    (hk : result.lookup k = some details) : IntNumeral k := by
  induction tasks generalizing database loaded with
  | nil =>
      cases h
      exact hkeys k details hk
  | cons task tasks ih =>
      rw [loadTasks] at h
      split_ifs at h
      · cases htask : parseTask task with
        | none =>
            rw [htask] at h
            cases h
        | some t =>
            rw [htask] at h
            refine ih (fun k details hk => ?_) h
            rw [lookup_insertTask] at hk
            split_ifs at hk with hkey
            · exact hkey ▸ key_of_parseTask htask
            · exact hkeys k details hk
      · exact ih hkeys h

/-- **A key of a database that was loaded** is the numeral of an `int`. -/
theorem loaded_key {parse : String → Option Json} {c c' : GatewayController} {configJson : String}
    (h : c.loadGlobalConfigFromJson parse configJson = some (c', true)) {k : String} {details : TaskDetails}
    (hk : c'.taskDatabase.lookup k = some details) : IntNumeral k := by
  unfold loadGlobalConfigFromJson at h
  cases hparse : parse configJson with
  | none =>
      rw [hparse] at h
      cases h
  | some doc =>
      rw [hparse] at h
      dsimp only at h
      split_ifs at h
      split at h
      · rename_i tasks _
        cases hload : loadTasks [] 0 tasks with
        | none =>
            rw [hload] at h
            cases h
        | some loaded =>
            rw [hload] at h
            obtain ⟨rfl, -⟩ := Prod.mk.inj (Option.some.inj h)
            exact key_of_loadTasks (fun k details hk => by cases hk) hload hk
      · cases h

end GatewayController

end EdgeOffloading
