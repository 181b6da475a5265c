import EdgeOffloading.Manager.Decision

/-!
# The configuration of the Offloading Manager

`ConfigManager`: what `_validate_config` accepts and the text that `get_config_json_string` makes of it. An exception of
the validation is caught in `load_config`, so it rejects as well. In Python `True` is the integer 1, also where the
validation asks for a positive integer.

* `accepted_of_validateConfig`: an accepted configuration is a dictionary whose tasks have positive ids, all different,
  a name, and two lists of positive message types.
-/

namespace EdgeOffloading

/-! ## Validation -/

/-- The value for which `isinstance(value, int)`. -/
def intValue : Json → Option Int
  | .int n => some n
  | .bool b => some (if b then 1 else 0)
  | _ => none

def isPositiveInt (value : Json) : Bool :=
  match intValue value with
  | some n => 0 < n
  | none => false

/-- A list of positive integers. -/
def isTypeList : Json → Bool
  | .arr items => items.all isPositiveInt
  | _ => false

/-- A string in which `strip` leaves something. -/
def isTaskName : Json → Bool
  | .str s => s.toList.any fun c => !isPySpace c
  | _ => false

/-- `_validate_task`. -/
def validateTask (task : Json) : Bool :=
  ["task_id", "task_name", "input_message_types", "output_message_types"].all task.contains &&
    isPositiveInt (task.get "task_id") && isTaskName (task.get "task_name") &&
    isTypeList (task.get "input_message_types") && isTypeList (task.get "output_message_types")

/-- The loop over the tasks, with the ids seen so far. -/
def validateTasks : List Int → List Json → Bool
  | _, [] => true
  | taskIds, task :: tasks =>
    validateTask task &&
      match intValue (task.get "task_id") with
      | some taskId => taskId ∉ taskIds && validateTasks (taskId :: taskIds) tasks
      | none => false

/-- `_validate_config`. -/
def validateConfig (config : Json) : Bool :=
  ["available_tasks", "default_session_timeout", "max_concurrent_sessions"].all config.contains &&
    (match config.get "available_tasks" with
      | .arr tasks => validateTasks [] tasks
      | _ => false) &&
    isPositiveInt (config.get "default_session_timeout") && isPositiveInt (config.get "max_concurrent_sessions")

/-! ## The text of a configuration -/

def hexDigit (n : Nat) : Char := if n < 10 then Char.ofNat (48 + n) else Char.ofNat (87 + n)

/-- The escape of a UTF-16 unit. -/
def escapeUnit (n : Nat) : List Char :=
  ['\\', 'u', hexDigit (n / 4096 % 16), hexDigit (n / 256 % 16), hexDigit (n / 16 % 16), hexDigit (n % 16)]

/-- A character of a string with `ensure_ascii`: printable ASCII stays, anything else is escaped. -/
def escapeChar (c : Char) : List Char :=
  let n := c.toNat
  if n = 34 ∨ n = 92 then ['\\', c]
  else if n = 10 then ['\\', 'n']
  else if n = 13 then ['\\', 'r']
  else if n = 9 then ['\\', 't']
  else if n = 12 then ['\\', 'f']
  else if n = 8 then ['\\', 'b']
  else if 32 ≤ n ∧ n ≤ 126 then [c]
  else if n < 0x10000 then escapeUnit n
  else escapeUnit (0xd800 + (n - 0x10000) / 1024) ++ escapeUnit (0xdc00 + (n - 0x10000) % 1024)

def dumpString (s : String) : String := "\"" ++ String.ofList (s.toList.flatMap escapeChar) ++ "\""

section

variable (floatRepr : Rat → String)

mutual

/-- `json.dumps(value, separators=(',', ':'))`; `floatRepr` is `float.__repr__`. -/
def dumps : Json → String
  | .null => "null"
  | .bool b => if b then "true" else "false"
  | .int n => toString n
  | .float q => floatRepr q
  | .str s => dumpString s
  | .arr items => "[" ++ ",".intercalate (dumpItems items) ++ "]"
  | .obj fields => "\x7b" ++ ",".intercalate (dumpFields fields) ++ "\x7d"

def dumpItems : List Json → List String
  | [] => []
  | item :: items => dumps item :: dumpItems items

def dumpFields : List (String × Json) → List String
  | [] => []
  | (key, value) :: fields => (dumpString key ++ ":" ++ dumps value) :: dumpFields fields

end

def getConfigJsonString (config : Json) : String := dumps floatRepr config

end

/-! ## What a configuration says -/

/-- A task as the OM knows it: Python integers have no bound. -/
structure ConfiguredTask where
  taskId : Int
  taskName : String
  inputTypes : List Int
  outputTypes : List Int
  deriving DecidableEq, Repr

def typeValues : Json → List Int
  | .arr items => items.filterMap intValue
  | _ => []

def configuredTask (task : Json) : ConfiguredTask where
  taskId := (intValue (task.get "task_id")).getD 0
  taskName := (task.get "task_name").asString.getD ""
  inputTypes := typeValues (task.get "input_message_types")
  outputTypes := typeValues (task.get "output_message_types")

def availableTasks (config : Json) : List Json :=
  match config.get "available_tasks" with
  | .arr tasks => tasks
  | _ => []

def configuredTasks (config : Json) : List ConfiguredTask := (availableTasks config).map configuredTask

theorem intValue_of_isPositiveInt {value : Json} (h : isPositiveInt value = true) :
    ∃ n, intValue value = some n ∧ 0 < n := by
  unfold isPositiveInt at h
  cases hv : intValue value with
  | none => simp [hv] at h
  | some n => exact ⟨n, rfl, by simpa [hv] using h⟩

theorem arr_of_isTypeList {value : Json} (h : isTypeList value = true) :
    ∃ items, value = .arr items ∧ ∀ item ∈ items, isPositiveInt item = true := by
  cases value with
  | arr items => exact ⟨items, rfl, by simpa [isTypeList] using h⟩
  | _ => cases h

/-- What the validation of a task ensures. -/
structure AcceptedTask (task : Json) (c : ConfiguredTask) : Prop where
  taskId : intValue (task.get "task_id") = some c.taskId
  positive : 0 < c.taskId
  taskName : task.get "task_name" = .str c.taskName
  inputs : ∃ items, task.get "input_message_types" = .arr items ∧ items.map intValue = c.inputTypes.map some
  outputs : ∃ items, task.get "output_message_types" = .arr items ∧ items.map intValue = c.outputTypes.map some
  positiveTypes : ∀ n ∈ c.inputTypes ++ c.outputTypes, 0 < n

theorem map_intValue_eq {items : List Json} (h : ∀ item ∈ items, isPositiveInt item = true) :
    items.map intValue = (items.filterMap intValue).map some := by
  induction items with
  | nil => rfl
  | cons item items ih =>
      obtain ⟨n, hn, -⟩ := intValue_of_isPositiveInt (h item List.mem_cons_self)
      rw [List.map_cons, List.filterMap_cons_some hn, List.map_cons, hn,
        ih fun x hx => h x (List.mem_cons_of_mem item hx)]

theorem accepted_typeValues {value : Json} (h : isTypeList value = true) :
    (∃ items, value = .arr items ∧ items.map intValue = (typeValues value).map some) ∧
      ∀ n ∈ typeValues value, 0 < n := by
  obtain ⟨items, rfl, hitems⟩ := arr_of_isTypeList h
  refine ⟨⟨items, rfl, map_intValue_eq hitems⟩, fun n hn => ?_⟩
  obtain ⟨item, hitem, hv⟩ := List.mem_filterMap.mp hn
  obtain ⟨m, hm, hpos⟩ := intValue_of_isPositiveInt (hitems item hitem)
  rw [hv] at hm
  cases hm
  exact hpos

theorem accepted_of_validateTask {task : Json} (h : validateTask task = true) :
    AcceptedTask task (configuredTask task) := by
  simp only [validateTask, Bool.and_eq_true] at h
  obtain ⟨⟨⟨⟨-, hid⟩, hname⟩, hin⟩, hout⟩ := h
  obtain ⟨n, hn, hpos⟩ := intValue_of_isPositiveInt hid
  obtain ⟨hinputs, hinpos⟩ := accepted_typeValues hin
  obtain ⟨houtputs, houtpos⟩ := accepted_typeValues hout
  have hstr : ∃ s, task.get "task_name" = .str s := by
    cases hv : task.get "task_name" with
    | str s => exact ⟨s, rfl⟩
    | _ => rw [hv] at hname; cases hname
  obtain ⟨s, hs⟩ := hstr
  refine { taskId := ?_, positive := ?_, taskName := ?_, inputs := hinputs, outputs := houtputs, positiveTypes := ?_ }
  · simp [configuredTask, hn]
  · simpa [configuredTask, hn] using hpos
  · simp [configuredTask, hs, Json.asString]
  · intro m hm
    rcases List.mem_append.mp hm with hm | hm
    · exact hinpos m hm
    · exact houtpos m hm

theorem validateTasks_spec {tasks : List Json} {taskIds : List Int} (h : validateTasks taskIds tasks = true) :
    (∀ task ∈ tasks, validateTask task = true) ∧
      ((tasks.map fun task => (configuredTask task).taskId).Nodup ∧
        ∀ task ∈ tasks, (configuredTask task).taskId ∉ taskIds) := by
  induction tasks generalizing taskIds with
  | nil => exact ⟨by simp, by simp, by simp⟩
  | cons task tasks ih =>
      rw [validateTasks, Bool.and_eq_true] at h
      obtain ⟨htask, hrest⟩ := h
      have hid := (accepted_of_validateTask htask).taskId
      rw [hid] at hrest
      simp only [Bool.and_eq_true, decide_eq_true_eq] at hrest
      obtain ⟨hnew, hrest⟩ := hrest
      obtain ⟨hall, hnodup, hfresh⟩ := ih hrest
      refine ⟨?_, ?_, ?_⟩
      · rintro t (_ | ⟨_, ht⟩)
        · exact htask
        · exact hall t ht
      · rw [List.map_cons, List.nodup_cons]
        refine ⟨?_, hnodup⟩
        rintro hmem
        obtain ⟨t, ht, heq⟩ := List.mem_map.mp hmem
        exact hfresh t ht (by rw [heq]; exact List.mem_cons_self)
      · rintro t (_ | ⟨_, ht⟩)
        · exact hnew
        · exact fun hmem => hfresh t ht (List.mem_cons_of_mem _ hmem)

/-- What the validation of a configuration ensures. -/
structure Accepted (config : Json) : Prop where
  tasks : config.get "available_tasks" = .arr (availableTasks config)
  task : ∀ task ∈ availableTasks config, AcceptedTask task (configuredTask task)
  distinct : ((configuredTasks config).map ConfiguredTask.taskId).Nodup
  timeout : isPositiveInt (config.get "default_session_timeout") = true
  sessions : isPositiveInt (config.get "max_concurrent_sessions") = true

theorem accepted_of_validateConfig {config : Json} (h : validateConfig config = true) : Accepted config := by
  simp only [validateConfig, Bool.and_eq_true] at h
  obtain ⟨⟨⟨-, htasks⟩, htimeout⟩, hsessions⟩ := h
  have harr : config.get "available_tasks" = .arr (availableTasks config) ∧
      validateTasks [] (availableTasks config) = true := by
    unfold availableTasks
    split at htasks
    · rename_i tasks heq
      rw [heq]
      exact ⟨rfl, htasks⟩
    · cases htasks
  obtain ⟨hall, hnodup, -⟩ := validateTasks_spec harr.2
  refine ⟨harr.1, fun task ht => accepted_of_validateTask (hall task ht), ?_, htimeout, hsessions⟩
  rw [configuredTasks, List.map_map]
  exact hnodup

end EdgeOffloading
