import EdgeOffloading.Cpp.Parse
import EdgeOffloading.Gateway.TaskDatabase
import EdgeOffloading.Manager.Config

/-!
# One configuration, three readers

The OM accepts positive integers of any size as task ids and message types, and any further fields, and sends the
configuration as a text. The Bridge and a gateway parse the text; the Bridge stores the numbers as `uint32_t` and
`uint8_t`, a gateway as `int` and `uint32_t`. `json::parse` is a parameter: it fails, or gives the configuration back
with the numbers that it can hold. It does fail where a number is out of range, or is `NaN` or `Infinity`, which Python
dumps by these words.

* `parseFromJson_eq`, `loadGlobalConfigFromJson_eq`: both parsers succeed on every parsed configuration, with the
  truncated numbers;
* `readable_parsed`: numbers in range are parsed as they are;
* `readAlike_iff`: they agree with the OM iff the text is parsed, every task id is below `2 ^ 31` and every message type
  at most 255.
-/

namespace EdgeOffloading

/-! ## What the two parsers make of an accepted task -/

/-- A task as the Bridge stores it. -/
def ConfiguredTask.inBridge (t : ConfiguredTask) : TaskConfig where
  taskId := (t.taskId % 2 ^ 32).toNat
  taskName := t.taskName
  inputMessageTypes := t.inputTypes.map UInt8.ofInt
  outputMessageTypes := t.outputTypes.map UInt8.ofInt

/-- The type ids of a task as a gateway reads them. -/
def gatewayTypes (types : List Int) : List MessageType :=
  (types.map fun n => (n % 2 ^ 32).toNat).filterMap messageTypeFromId

/-- A task as a gateway stores it. -/
def ConfiguredTask.inGateway (t : ConfiguredTask) : String × TaskDetails :=
  (toString (t.taskId.bmod (2 ^ 32)),
    { taskName := t.taskName, inputTypes := gatewayTypes t.inputTypes, outputTypes := gatewayTypes t.outputTypes })

theorem asUInt8_of_intValue {value : Json} {n : Int} (h : intValue value = some n) :
    value.asUInt8 = some (UInt8.ofInt n) := by
  cases value with
  | int m => cases h; rfl
  | bool b => cases h; cases b <;> rfl
  | _ => cases h

theorem asUInt32_of_intValue {value : Json} {n : Int} (h : intValue value = some n) :
    value.asUInt32 = some (n % 2 ^ 32).toNat := by
  cases value with
  | int m => cases h; rfl
  | bool b => cases h; cases b <;> rfl
  | _ => cases h

theorem asInt_of_intValue {value : Json} {n : Int} (h : intValue value = some n) :
    value.asInt = some (n.bmod (2 ^ 32)) := by
  cases value with
  | int m => cases h; rfl
  | bool b => cases h; cases b <;> rfl
  | _ => cases h

theorem contains_of_intValue {j : Json} {k : String} {n : Int} (h : intValue (j.get k) = some n) :
    j.contains k = true :=
  Json.contains_of_get_ne_null fun h0 => by rw [h0] at h; cases h

theorem find_eq_get {j : Json} {k : String} (h : j.contains k = true) : j.find k = some (j.get k) := by
  obtain ⟨v, hv⟩ := Option.isSome_iff_exists.mp h
  rw [Json.get, hv]
  rfl

/-- A conversion that follows the integer values goes through a list of them. -/
theorem mapM_of_intValue {β : Type} {f : Json → Option β} {g : Int → β}
    (hf : ∀ value n, intValue value = some n → f value = some (g n)) {items : List Json} {types : List Int}
    (h : items.map intValue = types.map some) : items.mapM f = some (types.map g) := by
  induction items generalizing types with
  | nil =>
      rw [List.map_nil, eq_comm, List.map_eq_nil_iff] at h
      rw [h]
      rfl
  | cons item items ih =>
      cases types with
      | nil => cases h
      | cons n types =>
          obtain ⟨hn, hl⟩ := List.cons.inj h
          rw [List.mapM_cons, hf item n hn, ih hl]
          rfl

theorem bridge_parseTypes {task : Json} {field : String} {types : List Int}
    (h : ∃ items, task.get field = .arr items ∧ items.map intValue = types.map some) :
    GlobalConfig.parseTypes task field = some (types.map UInt8.ofInt) := by
  obtain ⟨items, harr, hitems⟩ := h
  have hcontains : task.contains field = true := Json.contains_of_get_ne_null (by rw [harr]; simp)
  rw [GlobalConfig.parseTypes, if_pos hcontains, harr]
  exact mapM_of_intValue (fun _ _ => asUInt8_of_intValue) hitems

theorem gateway_parseTypes {task : Json} {field : String} {types : List Int}
    (h : ∃ items, task.get field = .arr items ∧ items.map intValue = types.map some) :
    GatewayController.parseTypes task field = some (gatewayTypes types) := by
  obtain ⟨items, harr, hitems⟩ := h
  have hcontains : task.contains field = true := Json.contains_of_get_ne_null (by rw [harr]; simp)
  rw [GatewayController.parseTypes, if_pos hcontains, harr]
  show (items.mapM Json.asUInt32).map _ = _
  rw [mapM_of_intValue (fun _ _ => asUInt32_of_intValue) hitems]
  rfl

theorem bridge_parseTask {task : Json} {t : ConfiguredTask} (h : AcceptedTask task t) :
    GlobalConfig.parseTask task = some t.inBridge := by
  have hid : task.member "task_id" = some (task.get "task_id") := find_eq_get (contains_of_intValue h.taskId)
  have hname : task.member "task_name" = some (.str t.taskName) := by
    rw [← h.taskName]
    exact find_eq_get (Json.contains_of_get_ne_null (by rw [h.taskName]; simp))
  unfold GlobalConfig.parseTask
  rw [hid, hname]
  simp only [Option.bind_eq_bind, Option.bind_some, asUInt32_of_intValue h.taskId, Json.asString,
    bridge_parseTypes h.inputs, bridge_parseTypes h.outputs]
  rfl

theorem gateway_parseTask {task : Json} {t : ConfiguredTask} (h : AcceptedTask task t) :
    GatewayController.parseTask task = some t.inGateway := by
  unfold GatewayController.parseTask
  rw [h.taskName]
  simp only [Option.bind_eq_bind, Option.bind_some, asInt_of_intValue h.taskId, Json.asString,
    gateway_parseTypes h.inputs, gateway_parseTypes h.outputs]
  rfl

/-! ## What the two parsers make of a configuration -/

variable {config doc : Json}

/-- A number that either parser converts. -/
def Converts (value : Json) : Prop := value.asInt ≠ none ∧ value.asUInt32 ≠ none

/-- A document that both parsers read to its end. -/
structure Readable (doc : Json) : Prop where
  tasks : doc.get "available_tasks" = .arr (availableTasks doc)
  task : ∀ task ∈ availableTasks doc, AcceptedTask task (configuredTask task)
  timeout : Converts (doc.get "default_session_timeout")
  sessions : Converts (doc.get "max_concurrent_sessions")

theorem contains_of_converts {k : String} (h : Converts (doc.get k)) : doc.contains k = true := by
  obtain ⟨n, hn⟩ := Option.ne_none_iff_exists'.mp h.1
  exact Json.contains_of_asInt hn

theorem parseNumbers_of_readable (h : Readable doc) (c : LoadedConfig) :
    ∃ loaded, c.parseNumbers doc = (loaded, true) ∧ loaded.config = c.config := by
  obtain ⟨timeout, htimeout⟩ := Option.ne_none_iff_exists'.mp h.timeout.2
  obtain ⟨sessions, hsessions⟩ := Option.ne_none_iff_exists'.mp h.sessions.2
  unfold LoadedConfig.parseNumbers
  rw [if_pos (contains_of_converts h.timeout), htimeout]
  dsimp only [Option.map_some]
  rw [if_pos (contains_of_converts h.sessions), hsessions]
  exact ⟨_, rfl, rfl⟩

theorem parseFromJson_eq (h : Readable doc) (c : LoadedConfig) :
    ∃ loaded, c.parseFromJson doc = (loaded, true) ∧
      loaded.config = ((configuredTasks doc).map ConfiguredTask.inBridge).foldl GlobalConfig.addTask .empty := by
  have hcontains : doc.contains "available_tasks" = true :=
    Json.contains_of_get_ne_null (by rw [h.tasks]; simp)
  have htasks : (availableTasks doc).map GlobalConfig.parseTask =
      ((configuredTasks doc).map ConfiguredTask.inBridge).map some := by
    rw [configuredTasks, List.map_map, List.map_map]
    exact List.map_congr_left fun task ht => bridge_parseTask (h.task task ht)
  have hparsed : GlobalConfig.parseAvailableTasks doc =
      (((configuredTasks doc).map ConfiguredTask.inBridge).foldl GlobalConfig.addTask .empty, true) := by
    rw [GlobalConfig.parseAvailableTasks, if_pos hcontains, h.tasks]
    exact GlobalConfig.parseTasks_eq htasks .empty
  obtain ⟨loaded, hloaded, hconfig⟩ := parseNumbers_of_readable h { c with
    config := ((configuredTasks doc).map ConfiguredTask.inBridge).foldl GlobalConfig.addTask .empty }
  refine ⟨loaded, ?_, hconfig⟩
  unfold LoadedConfig.parseFromJson
  rw [hparsed]
  exact hloaded

theorem loadGlobalConfigFromJson_eq (h : Readable doc) (c : GatewayController) {parse : String → Option Json}
    {text : String} (hparse : parse text = some doc) :
    c.loadGlobalConfigFromJson parse text =
      some ({ c with
        taskDatabase := GatewayController.insertTasks ((configuredTasks doc).map ConfiguredTask.inGateway) [] },
        decide (configuredTasks doc ≠ [])) := by
  have hnumbers : (GatewayController.optionalInt doc "default_session_timeout" &&
      GatewayController.optionalInt doc "max_concurrent_sessions") = true := by
    obtain ⟨timeout, htimeout⟩ := Option.ne_none_iff_exists'.mp h.timeout.1
    obtain ⟨sessions, hsessions⟩ := Option.ne_none_iff_exists'.mp h.sessions.1
    simp [GatewayController.optionalInt, htimeout, hsessions]
  have htasks : (availableTasks doc).map GatewayController.parseTask =
      ((configuredTasks doc).map ConfiguredTask.inGateway).map some := by
    rw [configuredTasks, List.map_map, List.map_map]
    exact List.map_congr_left fun task ht => gateway_parseTask (h.task task ht)
  have hcontains : ∀ task ∈ availableTasks doc,
      task.contains "task_id" = true ∧ task.contains "task_name" = true := fun task ht =>
    ⟨contains_of_intValue (h.task task ht).taskId,
      Json.contains_of_get_ne_null (by rw [(h.task task ht).taskName]; simp)⟩
  unfold GatewayController.loadGlobalConfigFromJson
  rw [hparse]
  dsimp only
  rw [if_pos hnumbers, h.tasks]
  dsimp only
  rw [GatewayController.loadTasks_eq htasks hcontains]
  dsimp only
  rw [Nat.zero_add, List.length_map]
  simp only [List.length_pos_iff]

/-! ## What the parser makes of an accepted configuration -/

theorem parsed_of_intValue {value : Json} {n : Int} (h : intValue value = some n) (hpos : 0 < n) (hlt : n < 2 ^ 31) :
    value.parsed = some value := by
  cases value with
  | int m =>
      cases h
      exact if_pos ⟨by omega, by omega⟩
  | bool b => rfl
  | _ => cases h

/-- An integer that is parsed converts, also where it has become a double. -/
theorem converts_of_intValue {value value' : Json} {n : Int} (h : intValue value = some n)
    (hparsed : value.parsed = some value') : Converts value' := by
  cases value with
  | int m =>
      unfold Json.parsed at hparsed
      split_ifs at hparsed
      · cases hparsed
        exact ⟨Option.some_ne_none _, Option.some_ne_none _⟩
      · obtain ⟨q, -, rfl⟩ := Option.map_eq_some_iff.mp hparsed
        exact ⟨Option.some_ne_none _, Option.some_ne_none _⟩
  | bool b =>
      cases hparsed
      exact ⟨Option.some_ne_none _, Option.some_ne_none _⟩
  | _ => cases h

theorem parsed_typeList {value : Json} {types : List Int}
    (h : ∃ items, value = .arr items ∧ items.map intValue = types.map some) (hpos : ∀ n ∈ types, 0 < n)
    (hlt : ∀ n ∈ types, n < 2 ^ 31) {value' : Json} (hparsed : value.parsed = some value') : value' = value := by
  obtain ⟨items, rfl, hitems⟩ := h
  obtain ⟨items', rfl, hmap⟩ := Json.parsed_arr hparsed
  have hsame : items.map Json.parsed = items.map some := by
    refine List.map_congr_left fun item hitem => ?_
    obtain ⟨n, hn, hvalue⟩ := List.mem_map.mp (hitems ▸ List.mem_map_of_mem hitem)
    exact parsed_of_intValue hvalue.symm (hpos n hn) (hlt n hn)
  rw [List.map_injective_iff.mpr (Option.some_injective Json) (hmap.symm.trans hsame)]

/-- The numbers of a task fit into the types of both readers. -/
def ConfiguredTask.InRange (t : ConfiguredTask) : Prop :=
  t.taskId < 2 ^ 31 ∧ ∀ n ∈ t.inputTypes ++ t.outputTypes, n ≤ 255

theorem parsed_task {task task' : Json} {t : ConfiguredTask} (h : AcceptedTask task t) (hrange : t.InRange)
    (hparsed : task.parsed = some task') : AcceptedTask task' t ∧ configuredTask task' = configuredTask task := by
  have hlt : ∀ n ∈ t.inputTypes ++ t.outputTypes, n < 2 ^ 31 := fun n hn =>
    lt_of_le_of_lt (hrange.2 n hn) (by norm_num)
  have hid : task'.get "task_id" = task.get "task_id" := by
    have hget := Json.get_parsed hparsed "task_id"
    rw [parsed_of_intValue h.taskId h.positive hrange.1] at hget
    exact (Option.some.inj hget).symm
  have hname : task'.get "task_name" = task.get "task_name" := by
    have hget := Json.get_parsed hparsed "task_name"
    rw [h.taskName] at hget ⊢
    exact (Option.some.inj hget).symm
  have hinputs : task'.get "input_message_types" = task.get "input_message_types" :=
    parsed_typeList h.inputs (fun n hn => h.positiveTypes n (List.mem_append_left _ hn))
      (fun n hn => hlt n (List.mem_append_left _ hn)) (Json.get_parsed hparsed _)
  have houtputs : task'.get "output_message_types" = task.get "output_message_types" :=
    parsed_typeList h.outputs (fun n hn => h.positiveTypes n (List.mem_append_right _ hn))
      (fun n hn => hlt n (List.mem_append_right _ hn)) (Json.get_parsed hparsed _)
  constructor
  · exact ⟨hid ▸ h.taskId, h.positive, hname ▸ h.taskName, hinputs ▸ h.inputs, houtputs ▸ h.outputs, h.positiveTypes⟩
  · rw [configuredTask, configuredTask, hid, hname, hinputs, houtputs]

/-! ## Agreement -/

/-- The Bridge finds exactly the configured name and types under every configured id, and nothing under others. -/
def BridgeReads (config : Json) (g : GlobalConfig) : Prop :=
  (∀ t ∈ configuredTasks config, ∃ task, g.getTaskConfig t.taskId.toNat = some task ∧ task.taskName = t.taskName ∧
    task.inputMessageTypes.map (fun n => (n.toNat : Int)) = t.inputTypes ∧
    task.outputMessageTypes.map (fun n => (n.toNat : Int)) = t.outputTypes) ∧
  ∀ n : Nat, (∀ t ∈ configuredTasks config, t.taskId ≠ n) → g.getTaskConfig n = none

/-- The ids of a list that `message_type_from_id` knows. -/
def knownTypes (types : List Int) : List MessageType := types.filterMap fun n => messageTypeFromId n.toNat

/-- A gateway finds exactly the known types under every configured id. -/
def GatewayReads (config : Json) (database : List (String × TaskDetails)) : Prop :=
  ∀ t ∈ configuredTasks config, ∃ details, database.lookup (toString t.taskId) = some details ∧
    details.inputTypes = knownTypes t.inputTypes ∧ details.outputTypes = knownTypes t.outputTypes

/-- Both parsers succeed on the text that the OM sends, and read what the OM means. -/
def ReadAlike (parse : String → Option Json) (floatRepr : Rat → String) (config : Json) (c : LoadedConfig)
    (gateway : GatewayController) : Prop :=
  (∃ doc loaded, parse (getConfigJsonString floatRepr config) = some doc ∧ c.parseFromJson doc = (loaded, true) ∧
    BridgeReads config loaded.config) ∧
  ∃ gateway', gateway.loadGlobalConfigFromJson parse (getConfigJsonString floatRepr config) = some (gateway', true) ∧
    GatewayReads config gateway'.taskDatabase

/-- The numbers of the configuration fit into the types of both readers. -/
def InRange (config : Json) : Prop := ∀ t ∈ configuredTasks config, t.InRange

/-- **A configuration in range is parsed as it is**, as far as the readers look. -/
theorem readable_parsed (h : Accepted config) (hrange : InRange config) (hparsed : config.parsed = some doc) :
    Readable doc ∧ configuredTasks doc = configuredTasks config := by
  have hget := Json.get_parsed hparsed "available_tasks"
  rw [h.tasks] at hget
  obtain ⟨tasks', htasks', hmap⟩ := Json.parsed_arr hget
  have havailable : availableTasks doc = tasks' := by
    rw [availableTasks, htasks']
  have htask : ∀ task ∈ availableTasks config, ∀ task', task.parsed = some task' →
      AcceptedTask task' (configuredTask task) ∧ configuredTask task' = configuredTask task := fun task hmem task' =>
    parsed_task (h.task task hmem) (hrange _ (List.mem_map_of_mem hmem))
  constructor
  · refine ⟨havailable ▸ htasks', fun task' hmem' => ?_, ?_, ?_⟩
    · rw [havailable] at hmem'
      obtain ⟨task, hmem, hparsed'⟩ := List.mem_map.mp (hmap ▸ List.mem_map_of_mem hmem')
      obtain ⟨haccepted, hsame⟩ := htask task hmem task' hparsed'
      rwa [hsame]
    · obtain ⟨n, hn, -⟩ := intValue_of_isPositiveInt h.timeout
      exact converts_of_intValue hn (Json.get_parsed hparsed _)
    · obtain ⟨n, hn, -⟩ := intValue_of_isPositiveInt h.sessions
      exact converts_of_intValue hn (Json.get_parsed hparsed _)
  · have hconfigured : (availableTasks config).map (fun task => task.parsed.map configuredTask) =
        (availableTasks config).map (fun task => some (configuredTask task)) := by
      refine List.map_congr_left fun task hmem => ?_
      obtain ⟨task', -, hparsed'⟩ := List.mem_map.mp (hmap.symm ▸ List.mem_map_of_mem (f := Json.parsed) hmem)
      rw [← hparsed', Option.map_some, (htask task hmem task' hparsed'.symm).2]
    have hsome : tasks'.map (fun task => some (configuredTask task)) =
        (availableTasks config).map fun task => some (configuredTask task) := by
      rw [← hconfigured]
      have hmapped := congrArg (List.map (Option.map configuredTask)) hmap
      rw [List.map_map, List.map_map] at hmapped
      exact hmapped.symm
    rw [configuredTasks, configuredTasks, havailable]
    refine List.map_injective_iff.mpr (Option.some_injective ConfiguredTask) ?_
    rw [List.map_map, List.map_map]
    exact hsome

theorem find?_eq_some_of_unique {α : Type} {l : List α} {p : α → Bool} {a : α} (ha : a ∈ l) (hp : p a = true)
    (hunique : ∀ b ∈ l, p b = true → b = a) : l.find? p = some a := by
  cases hf : l.find? p with
  | none => exact absurd hp (List.find?_eq_none.mp hf a ha)
  | some b => rw [hunique b (List.mem_of_find?_eq_some hf) (List.find?_some hf)]

theorem toNat_ofInt_uint8 {n : Int} (hpos : 0 < n) (hmax : n ≤ 255) : ((UInt8.ofInt n).toNat : Int) = n := by
  rw [UInt8.ofInt, UInt8.toNat_ofNat']
  omega

theorem map_toNat_ofInt {types : List Int} (h : ∀ n ∈ types, 0 < n ∧ n ≤ 255) :
    (types.map UInt8.ofInt).map (fun n => (n.toNat : Int)) = types := by
  rw [List.map_map]
  calc types.map ((fun n : UInt8 => (n.toNat : Int)) ∘ UInt8.ofInt)
      = types.map id := List.map_congr_left fun n hn => toNat_ofInt_uint8 (h n hn).1 (h n hn).2
    _ = types := List.map_id types

theorem gatewayTypes_eq {types : List Int} (h : ∀ n ∈ types, 0 < n ∧ n ≤ 255) :
    gatewayTypes types = knownTypes types := by
  rw [gatewayTypes, knownTypes, List.filterMap_map]
  refine List.filterMap_congr fun n hn => ?_
  have hmod : (n % 2 ^ 32).toNat = n.toNat := by
    have := h n hn
    omega
  rw [Function.comp_apply, hmod]

theorem toString_inj_of_int {m n : Int} (hm : -(2 ^ 31) ≤ m ∧ m < 2 ^ 31) (hn : -(2 ^ 31) ≤ n ∧ n < 2 ^ 31)
    (h : toString m = toString n) : m = n := by
  have hstoi := stoi_toString hm.1 hm.2
  rw [h, stoi_toString hn.1 hn.2] at hstoi
  exact (Option.some.inj hstoi).symm

theorem accepted_of_mem (h : Accepted config) {t : ConfiguredTask} (ht : t ∈ configuredTasks config) :
    0 < t.taskId ∧ ∀ n ∈ t.inputTypes ++ t.outputTypes, 0 < n := by
  obtain ⟨task, htask, rfl⟩ := List.mem_map.mp ht
  exact ⟨(h.task task htask).positive, (h.task task htask).positiveTypes⟩

theorem eq_of_taskId_eq (h : Accepted config) {t t' : ConfiguredTask} (ht : t ∈ configuredTasks config)
    (ht' : t' ∈ configuredTasks config) (heq : t'.taskId = t.taskId) : t' = t :=
  List.inj_on_of_nodup_map h.distinct ht' ht heq

theorem bridgeReads_of_inRange (h : Accepted config) (hrange : InRange config) :
    BridgeReads config
      (((configuredTasks config).map ConfiguredTask.inBridge).foldl GlobalConfig.addTask .empty) := by
  have hid : ∀ t ∈ configuredTasks config, ((t.inBridge.taskId : Nat) : Int) = t.taskId := by
    intro t ht
    have hpos := (accepted_of_mem h ht).1
    have hlt := (hrange t ht).1
    show (((t.taskId % 2 ^ 32).toNat : Nat) : Int) = t.taskId
    omega
  refine ⟨fun t ht => ⟨t.inBridge, ?_, rfl, ?_, ?_⟩, fun n hn => ?_⟩
  · rw [GlobalConfig.getTaskConfig_addTasks]
    refine find?_eq_some_of_unique (List.mem_reverse.mpr (List.mem_map_of_mem ht)) ?_ ?_
    · have := hid t ht
      exact decide_eq_true (by omega)
    · intro task htask hfound
      obtain ⟨t', ht', rfl⟩ := List.mem_map.mp (List.mem_reverse.mp htask)
      have hnat : t'.inBridge.taskId = t.taskId.toNat := of_decide_eq_true hfound
      have hpos := (accepted_of_mem h ht).1
      rw [eq_of_taskId_eq h ht ht' (by rw [← hid t' ht', hnat]; omega)]
  · exact map_toNat_ofInt fun n hn =>
      ⟨(accepted_of_mem h ht).2 n (List.mem_append_left _ hn), (hrange t ht).2 n (List.mem_append_left _ hn)⟩
  · exact map_toNat_ofInt fun n hn =>
      ⟨(accepted_of_mem h ht).2 n (List.mem_append_right _ hn), (hrange t ht).2 n (List.mem_append_right _ hn)⟩
  · rw [GlobalConfig.getTaskConfig_addTasks, List.find?_eq_none]
    intro task htask hfound
    obtain ⟨t, ht, rfl⟩ := List.mem_map.mp (List.mem_reverse.mp htask)
    have hnat : t.inBridge.taskId = n := of_decide_eq_true hfound
    exact hn t ht (by rw [← hid t ht, hnat])

theorem gatewayReads_of_inRange (h : Accepted config) (hrange : InRange config) :
    GatewayReads config (GatewayController.insertTasks ((configuredTasks config).map ConfiguredTask.inGateway) []) := by
  have hkey : ∀ t ∈ configuredTasks config, t.taskId.bmod (2 ^ 32) = t.taskId := by
    intro t ht
    have hpos := (accepted_of_mem h ht).1
    have hlt := (hrange t ht).1
    exact Int.bmod_eq_of_le (by norm_num; omega) (by norm_num; omega)
  intro t ht
  refine ⟨t.inGateway.2, ?_, ?_, ?_⟩
  · have hfind : ((configuredTasks config).map ConfiguredTask.inGateway).reverse.find?
        (fun e => e.1 = toString t.taskId) = some t.inGateway := by
      refine find?_eq_some_of_unique (List.mem_reverse.mpr (List.mem_map_of_mem ht)) ?_ ?_
      · exact decide_eq_true (congrArg toString (hkey t ht))
      · intro e he hfound
        obtain ⟨t', ht', rfl⟩ := List.mem_map.mp (List.mem_reverse.mp he)
        have hstring : toString (t'.taskId.bmod (2 ^ 32)) = toString t.taskId := of_decide_eq_true hfound
        rw [← hkey t ht] at hstring
        have heq := toString_inj_of_int (GatewayController.bmod_range _) (GatewayController.bmod_range _) hstring
        rw [hkey t ht, hkey t' ht'] at heq
        rw [eq_of_taskId_eq h ht ht' heq]
    rw [GatewayController.lookup_insertTasks, hfind]
    rfl
  · exact gatewayTypes_eq fun n hn =>
      ⟨(accepted_of_mem h ht).2 n (List.mem_append_left _ hn), (hrange t ht).2 n (List.mem_append_left _ hn)⟩
  · exact gatewayTypes_eq fun n hn =>
      ⟨(accepted_of_mem h ht).2 n (List.mem_append_right _ hn), (hrange t ht).2 n (List.mem_append_right _ hn)⟩

theorem le_of_bridgeReads {types : List Int} {bytes : List UInt8} (h : bytes.map (fun n => (n.toNat : Int)) = types) :
    ∀ n ∈ types, n ≤ 255 := by
  intro n hn
  rw [← h] at hn
  obtain ⟨b, -, rfl⟩ := List.mem_map.mp hn
  have := b.toNat_lt
  omega

/-- A task that is found under its own id has an id that a gateway can hold. -/
theorem lt_of_intNumeral {n : Int} (hpos : 0 < n) (h : GatewayController.IntNumeral (toString n)) : n < 2 ^ 31 := by
  obtain ⟨m, hmin, hmax, hkey⟩ := h
  by_contra hlt
  -- the numeral of `n` is out of the range of `std::stoi`, the key is a numeral that it reads
  have hread := stoi_toString hmin hmax
  obtain ⟨k, rfl⟩ := Int.eq_ofNat_of_zero_le hpos.le
  rw [← hkey, show toString (k : Int) = toString k from rfl, toList_toString, stoi_toDigits_eq,
    if_neg (by push_cast at hlt; omega)] at hread
  cases hread

variable {parse : String → Option Json} {floatRepr : Rat → String}

theorem readAlike_of_inRange (h : Accepted config) (htask : configuredTasks config ≠ []) (hrange : InRange config)
    (hparse : parse (getConfigJsonString floatRepr config) = some doc) (hparsed : config.parsed = some doc)
    (c : LoadedConfig) (gateway : GatewayController) : ReadAlike parse floatRepr config c gateway := by
  obtain ⟨hreadable, hsame⟩ := readable_parsed h hrange hparsed
  obtain ⟨loaded, hloaded, hconfig⟩ := parseFromJson_eq hreadable c
  have hgateway := loadGlobalConfigFromJson_eq hreadable gateway hparse
  rw [hsame, decide_eq_true htask] at hgateway
  refine ⟨⟨doc, loaded, hparse, hloaded, ?_⟩, _, hgateway, gatewayReads_of_inRange h hrange⟩
  rw [hconfig, hsame]
  exact bridgeReads_of_inRange h hrange

theorem inRange_of_readAlike (h : Accepted config) {c : LoadedConfig} {gateway : GatewayController}
    (hread : ReadAlike parse floatRepr config c gateway) : InRange config := by
  obtain ⟨⟨doc, loaded, -, -, hbridge⟩, gateway', hgateway, hreads⟩ := hread
  intro t ht
  obtain ⟨task, -, -, hin, hout⟩ := hbridge.1 t ht
  obtain ⟨details, hdetails, -⟩ := hreads t ht
  refine ⟨lt_of_intNumeral (accepted_of_mem h ht).1 (GatewayController.loaded_key hgateway hdetails), fun n hn => ?_⟩
  rcases List.mem_append.mp hn with hn | hn
  · exact le_of_bridgeReads hin n hn
  · exact le_of_bridgeReads hout n hn

/-- **When the three readers agree.** On an accepted configuration with a task, both parsers succeed and read what the
OM means iff its text is parsed, the task ids fit into `int` and the message types into a byte. -/
theorem readAlike_iff (parse : String → Option Json) (floatRepr : Rat → String) (config : Json) (c : LoadedConfig)
    (gateway : GatewayController) (hvalid : validateConfig config = true) (htask : configuredTasks config ≠ [])
    (hparse : parse (getConfigJsonString floatRepr config) = none ∨
      parse (getConfigJsonString floatRepr config) = config.parsed) :
    ReadAlike parse floatRepr config c gateway ↔
      (parse (getConfigJsonString floatRepr config)).isSome = true ∧ InRange config := by
  have h := accepted_of_validateConfig hvalid
  constructor
  · intro hread
    refine ⟨?_, inRange_of_readAlike h hread⟩
    obtain ⟨⟨doc, -, hdoc, -⟩, -⟩ := hread
    rw [hdoc]
    rfl
  · rintro ⟨hsome, hrange⟩
    obtain ⟨doc, hdoc⟩ := Option.isSome_iff_exists.mp hsome
    rw [hdoc] at hparse
    rcases hparse with hnone | hparsed
    · cases hnone
    · exact readAlike_of_inRange h htask hrange hdoc hparsed.symm c gateway

/-- A configuration with one task. -/
def oneTask (taskId messageType : Int) : Json :=
  .obj [("available_tasks", .arr [.obj [("task_id", .int taskId), ("task_name", .str "A"),
    ("input_message_types", .arr [.int messageType]), ("output_message_types", .arr [])]]),
    ("default_session_timeout", .int 300), ("max_concurrent_sessions", .int 100)]

def emptyGateway : GatewayController :=
  { componentId := "1:1", componentType := .vhc, operationMode := .networked, dataPlaneListenPort := 8002 }

/-- The text of a configuration without fractions. -/
def textOf (config : Json) : String := getConfigJsonString (fun _ => "0.5") config

/-- The parser on the text of one configuration. -/
def parseText (config : Json) (text : String) : Option Json := if text = textOf config then config.parsed else none

theorem readAlike_iff_oneTask :
    validateConfig (oneTask 1 11) = true ∧ configuredTasks (oneTask 1 11) ≠ [] ∧
      (ReadAlike (parseText (oneTask 1 11)) (fun _ => "0.5") (oneTask 1 11) ⟨.empty, 300, 100⟩ emptyGateway ↔
        (parseText (oneTask 1 11) (textOf (oneTask 1 11))).isSome = true ∧ InRange (oneTask 1 11)) :=
  ⟨by decide +kernel, by decide +kernel,
    readAlike_iff (parseText (oneTask 1 11)) (fun _ => "0.5") (oneTask 1 11) ⟨.empty, 300, 100⟩ emptyGateway
      (by decide +kernel) (by decide +kernel) (Or.inr (if_pos rfl))⟩

/-- Message type 257 is accepted and parsed, and the Bridge reads it as 1. -/
theorem not_readAlike_257 :
    validateConfig (oneTask 1 257) = true ∧ configuredTasks (oneTask 1 257) ≠ [] ∧
      (parseText (oneTask 1 257) (textOf (oneTask 1 257))).isSome = true ∧
      ¬ ReadAlike (parseText (oneTask 1 257)) (fun _ => "0.5") (oneTask 1 257) ⟨.empty, 300, 100⟩ emptyGateway := by
  have hvalid : validateConfig (oneTask 1 257) = true := by decide +kernel
  refine ⟨hvalid, by decide +kernel, ?_, fun hread => ?_⟩
  · rw [parseText, if_pos rfl]
    decide +kernel
  · have hrange := inRange_of_readAlike (accepted_of_validateConfig hvalid) hread
    obtain ⟨-, htypes⟩ := hrange ⟨1, "A", [257], []⟩ (by decide +kernel)
    exact absurd (htypes 257 (by decide)) (by decide)

end EdgeOffloading
