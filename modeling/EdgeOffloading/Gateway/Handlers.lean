import EdgeOffloading.Bridge.Header

/-!
# The message handlers of a gateway

`HandlerFactory` keeps one handler object for each message type, `RosGateway` the handlers that are registered, the ROS
node the parameters that were declared. Registering stores a handler and then initialises it; `initialize` declares the
handler's parameters, and declaring a parameter twice throws. A call that may throw returns the state it leaves and
whether it completed.

The handlers of different types do not meet: what the gateway does to one type is seen in its `HandlerView` only.

* `view_activate`, `view_deactivate`: the loops over the types of a task act on the view of each type as `HandlerView`
  says;
* `activate_completes_iff`: when activating completes.
-/

namespace EdgeOffloading

/-! ## Handler classes -/

/-- What distinguishes the handler classes: their name, the parameters that `initialize` declares, and whether
`shutdown` clears `enabled_`. -/
structure HandlerClass where
  name : String
  parameters : List String
  shutdownDisables : Bool
  deriving DecidableEq, Repr

def stringHandler : HandlerClass := ⟨"string_handler", ["string_handler.topic"], true⟩

def laserScanHandler : HandlerClass :=
  ⟨"laserscan_handler", ["laserscan_handler.topic", "laserscan_handler.empty_intensities"], false⟩

def stringTestInputHandler : HandlerClass := ⟨"string_test_input_handler", ["string_test_input_handler.topic"], true⟩

def stringTestResultHandler : HandlerClass :=
  ⟨"string_test_result_handler", ["string_test_result_handler.topic"], true⟩

def serialStringHandler : HandlerClass := ⟨"serial_string_handler", ["serial_string_handler.topic"], true⟩

def jointStateHandler : HandlerClass := ⟨"joint_state_handler", ["joint_state_handler.topic"], false⟩

def serialFeedbackHandler : HandlerClass := ⟨"serial_feedback_handler", ["serial_feedback_handler.topic"], true⟩

/-- `mt_creator_map_`. -/
def mtCreatorMap : MessageType → Option HandlerClass
  | .string => some stringHandler
  | .smLaserscan => some laserScanHandler
  | .stringTestInput => some stringTestInputHandler
  | .stringTestResult => some stringTestResultHandler
  | .smSerialString => some serialStringHandler
  | .smJointstate => some jointStateHandler
  | .smSerialFeedback => some serialFeedbackHandler
  | .int32 | .float32 | .bool => none

/-- The classes of different types have neither their name nor a parameter in common. -/
theorem mtCreatorMap_disjoint {mt mt' : MessageType} {cls cls' : HandlerClass} (h : mtCreatorMap mt = some cls)
    (h' : mtCreatorMap mt' = some cls') (hne : mt ≠ mt') :
    cls.name ≠ cls'.name ∧ ∀ p ∈ cls.parameters, p ∉ cls'.parameters := by
  have hall : ∀ mt mt' : MessageType, mt ≠ mt' → ∀ cls ∈ mtCreatorMap mt, ∀ cls' ∈ mtCreatorMap mt',
      cls.name ≠ cls'.name ∧ ∀ p ∈ cls.parameters, p ∉ cls'.parameters := by
    intro mt mt'
    cases mt <;> cases mt' <;> decide
  exact hall mt mt' hne cls h cls' h'

/-- A class declares at least one parameter, and none twice. -/
theorem mtCreatorMap_parameters {mt : MessageType} {cls : HandlerClass} (h : mtCreatorMap mt = some cls) :
    cls.parameters ≠ [] ∧ cls.parameters.Nodup := by
  have hall : ∀ mt : MessageType, ∀ cls ∈ mtCreatorMap mt, cls.parameters ≠ [] ∧ cls.parameters.Nodup := by
    intro mt
    cases mt <;> decide
  exact hall mt cls h

/-! ## Handler objects -/

/-- The state of a handler object; `subscription` is set by `initialize` and reset by `shutdown`. -/
structure MessageHandler where
  enabled : Bool := false
  rosPublisherEnabled : Bool := true
  rosSubscriberEnabled : Bool := true
  subscription : Bool := false
  deriving DecidableEq, Repr

inductive HandlerMode where
  | subscriberOnly
  | publisherOnly
  | both
  deriving DecidableEq, Repr

namespace MessageHandler

variable (h : MessageHandler)

def enable : MessageHandler := { h with enabled := true }

def isRosPublisherEnabled : Bool := h.enabled && h.rosPublisherEnabled

def isRosSubscriberEnabled : Bool := h.enabled && h.rosSubscriberEnabled

/-- The modes are exclusive: the last configuration decides. -/
def configureHandlerMode (mode : HandlerMode) : MessageHandler :=
  match mode with
  | .subscriberOnly => { h.enable with rosSubscriberEnabled := true, rosPublisherEnabled := false }
  | .publisherOnly => { h.enable with rosSubscriberEnabled := false, rosPublisherEnabled := true }
  | .both => { h.enable with rosSubscriberEnabled := true, rosPublisherEnabled := true }

def shutdown (cls : HandlerClass) : MessageHandler :=
  { h with subscription := false, enabled := if cls.shutdownDisables then false else h.enabled }

end MessageHandler

/-! ## The gateway -/

/-- The handlers of a gateway: the objects of the factory, the registered ones by name, and the parameters declared on
the node. -/
structure RosGateway where
  instancesByType : MessageType → Option MessageHandler
  handlers : String → Option MessageType
  declaredParameters : List String

namespace RosGateway

variable (g : RosGateway)

def empty : RosGateway := ⟨fun _ => none, fun _ => none, []⟩

/-- The object of a type, or how it would be created. -/
def handlerOf (mt : MessageType) : MessageHandler := (g.instancesByType mt).getD {}

/-- `get_or_create`: the class of the object, if there is one. -/
def getOrCreate (mt : MessageType) : RosGateway × Option HandlerClass :=
  match g.instancesByType mt with
  | some _ => (g, mtCreatorMap mt)
  | none =>
    match mtCreatorMap mt with
    | none => (g, none)
    | some cls => ({ g with instancesByType := Function.update g.instancesByType mt (some {}) }, some cls)

/-- A change of the object of a type. -/
def modifyHandler (mt : MessageType) (f : MessageHandler → MessageHandler) : RosGateway :=
  { g with instancesByType := Function.update g.instancesByType mt ((g.instancesByType mt).map f) }

/-- The `declare_parameter` calls of `initialize`; a name that is declared already throws. -/
def declareParameters (declared : List String) : List String → List String × Bool
  | [] => (declared, true)
  | name :: names => if name ∈ declared then (declared, false) else declareParameters (name :: declared) names

/-- `initialize` of a handler class. -/
def initializeHandler (mt : MessageType) (cls : HandlerClass) : RosGateway × Bool :=
  let declared := declareParameters g.declaredParameters cls.parameters
  let g' := { g with declaredParameters := declared.1 }
  if declared.2 then (g'.modifyHandler mt fun h => { h with subscription := true }, true) else (g', false)

/-- `register_handler`: the handler is stored before it is initialised. -/
def registerHandler (mt : MessageType) (cls : HandlerClass) : RosGateway × Bool :=
  if (g.handlers cls.name).isSome then (g, true)
  else
    let initialized := { g with handlers := Function.update g.handlers cls.name (some mt) }.initializeHandler mt cls
    if initialized.2 then (initialized.1.modifyHandler mt MessageHandler.enable, true) else initialized

def unregisterHandler (name : String) : RosGateway :=
  match g.handlers name with
  | none => g
  | some mt =>
    match mtCreatorMap mt with
    | none => g
    | some cls =>
      { g.modifyHandler mt (MessageHandler.shutdown · cls) with handlers := Function.update g.handlers name none }

/-- The body of the loop `activate` of `on_session_approved`; a type without handler is logged. -/
def activateType (mode : HandlerMode) (mt : MessageType) : RosGateway × Bool :=
  let created := g.getOrCreate mt
  match created.2 with
  | none => (created.1, true)
  | some cls => (created.1.modifyHandler mt (MessageHandler.configureHandlerMode · mode)).registerHandler mt cls

/-- An exception ends the loop. -/
def activate (mode : HandlerMode) : RosGateway → List MessageType → RosGateway × Bool
  | g, [] => (g, true)
  | g, mt :: mts =>
    let activated := g.activateType mode mt
    if activated.2 then activate mode activated.1 mts else activated

/-- The body of the loop `deactivate` of `handle_session_teardown`. -/
def deactivateType (mt : MessageType) : RosGateway :=
  let created := g.getOrCreate mt
  match created.2 with
  | none => created.1
  | some cls => created.1.unregisterHandler cls.name

def deactivate (mts : List MessageType) : RosGateway := mts.foldl deactivateType g

end RosGateway

/-! ## The view of one type -/

/-- What the gateway knows about the handler of one type. -/
structure HandlerView where
  handler : MessageHandler
  registered : Bool
  declared : Bool
  deriving DecidableEq, Repr

namespace HandlerView

variable (v : HandlerView)

/-- Registering completes: the handler is registered already or its parameters are new. -/
def Registrable : Prop := v.registered = true ∨ v.declared = false

instance : Decidable v.Registrable := inferInstanceAs (Decidable (_ ∨ _))

/-- Configured, then registered unless it is. -/
def activate (mode : HandlerMode) : HandlerView :=
  let handler := v.handler.configureHandlerMode mode
  if v.registered then { v with handler := handler }
  else if v.declared then ⟨handler, true, true⟩
  else ⟨{ handler with subscription := true }, true, true⟩

def deactivate (cls : HandlerClass) : HandlerView :=
  if v.registered then ⟨v.handler.shutdown cls, false, v.declared⟩ else v

@[simp] theorem registered_activate (mode : HandlerMode) : (v.activate mode).registered = true := by
  unfold activate
  dsimp only
  split_ifs with hr hd
  · exact hr
  · rfl
  · rfl

/-- Only the mode of a registered handler changes. -/
theorem activate_of_registered {v : HandlerView} (h : v.registered = true) (mode : HandlerMode) :
    v.activate mode = { v with handler := v.handler.configureHandlerMode mode } := by
  unfold activate
  rw [if_pos h]

/-- The last configuration decides. -/
theorem activate_activate (mode mode' : HandlerMode) : (v.activate mode).activate mode' = v.activate mode' := by
  have hconfigure : ∀ h : MessageHandler,
      (h.configureHandlerMode mode).configureHandlerMode mode' = h.configureHandlerMode mode' := by
    intro h
    cases mode <;> cases mode' <;> rfl
  rw [activate_of_registered (v.registered_activate mode)]
  unfold activate
  dsimp only
  split_ifs
  · rw [hconfigure]
  · rw [hconfigure]
  · cases mode <;> cases mode' <;> rfl

/-- The flags after an activation are those of the mode, and the handler is enabled. -/
theorem handler_activate (mode : HandlerMode) :
    (v.activate mode).handler.enabled = true ∧
      (v.activate mode).handler.rosSubscriberEnabled = decide (mode ≠ .publisherOnly) ∧
      (v.activate mode).handler.rosPublisherEnabled = decide (mode ≠ .subscriberOnly) := by
  unfold activate
  dsimp only
  split_ifs <;> cases mode <;> exact ⟨rfl, rfl, rfl⟩

@[simp] theorem registered_deactivate (cls : HandlerClass) : (v.deactivate cls).registered = false := by
  unfold deactivate
  split_ifs with h
  · rfl
  · simpa using h

theorem deactivate_deactivate (cls : HandlerClass) : (v.deactivate cls).deactivate cls = v.deactivate cls := by
  rw [deactivate, if_neg (by simp)]

end HandlerView

namespace RosGateway

variable {g : RosGateway}

def view (g : RosGateway) (mt : MessageType) (cls : HandlerClass) : HandlerView :=
  ⟨g.handlerOf mt, (g.handlers cls.name).isSome, cls.parameters.any (· ∈ g.declaredParameters)⟩

/-- Two gateways agree on a type. -/
theorem view_congr {g' : RosGateway} {mt : MessageType} {cls : HandlerClass}
    (hinstances : g'.instancesByType mt = g.instancesByType mt) (hhandlers : g'.handlers cls.name = g.handlers cls.name)
    (hparams : ∀ p ∈ cls.parameters, p ∈ g'.declaredParameters ↔ p ∈ g.declaredParameters) :
    g'.view mt cls = g.view mt cls := by
  have hany : cls.parameters.any (· ∈ g'.declaredParameters) = cls.parameters.any (· ∈ g.declaredParameters) := by
    apply Bool.eq_iff_iff.mpr
    simp only [List.any_eq_true, decide_eq_true_eq]
    exact exists_congr fun p => and_congr_right fun hp => hparams p hp
  unfold view handlerOf
  rw [hinstances, hhandlers, hany]

/-! ## Declaring parameters -/

theorem declareParameters_snd (names : List String) (hnd : names.Nodup) (declared : List String) :
    (declareParameters declared names).2 = !names.any (· ∈ declared) := by
  induction names generalizing declared with
  | nil => rfl
  | cons name names ih =>
      unfold declareParameters
      rw [List.any_cons]
      by_cases hmem : name ∈ declared
      · rw [if_pos hmem]
        simp [hmem]
      · rw [if_neg hmem, ih (List.nodup_cons.mp hnd).2]
        have hany : names.any (· ∈ name :: declared) = names.any (· ∈ declared) := by
          apply Bool.eq_iff_iff.mpr
          simp only [List.any_eq_true, decide_eq_true_eq, List.mem_cons]
          constructor
          · rintro ⟨p, hp, rfl | hd⟩
            · exact absurd hp (List.nodup_cons.mp hnd).1
            · exact ⟨p, hp, hd⟩
          · rintro ⟨p, hp, hd⟩
            exact ⟨p, hp, Or.inr hd⟩
        rw [hany]
        simp [hmem]

theorem mem_declareParameters (names declared : List String) {p : String}
    (h : p ∈ (declareParameters declared names).1) : p ∈ declared ∨ p ∈ names := by
  induction names generalizing declared with
  | nil => exact Or.inl h
  | cons name names ih =>
      unfold declareParameters at h
      split_ifs at h
      · exact Or.inl h
      · rcases ih _ h with h | h
        · rcases List.mem_cons.mp h with rfl | h
          · exact Or.inr (by simp)
          · exact Or.inl h
        · exact Or.inr (List.mem_cons_of_mem _ h)

theorem subset_declareParameters (names declared : List String) {p : String} (h : p ∈ declared) :
    p ∈ (declareParameters declared names).1 := by
  induction names generalizing declared with
  | nil => exact h
  | cons name names ih =>
      unfold declareParameters
      split_ifs
      · exact h
      · exact ih _ (List.mem_cons_of_mem _ h)

/-- Afterwards some parameter of the class is declared, whether the calls completed or not. -/
theorem any_mem_declareParameters {names : List String} (hne : names ≠ []) (declared : List String) :
    names.any (· ∈ (declareParameters declared names).1) = true := by
  obtain ⟨name, names, rfl⟩ := List.exists_cons_of_ne_nil hne
  rw [List.any_eq_true]
  refine ⟨name, by simp, ?_⟩
  rw [decide_eq_true_eq]
  unfold declareParameters
  split_ifs with hmem
  · exact hmem
  · exact subset_declareParameters names _ (by simp)

/-! ## One type -/

theorem getOrCreate_none {mt : MessageType} (hcls : mtCreatorMap mt = none) : g.getOrCreate mt = (g, none) := by
  unfold getOrCreate
  cases g.instancesByType mt <;> simp [hcls]

theorem getOrCreate_some {mt : MessageType} {cls : HandlerClass} (hcls : mtCreatorMap mt = some cls) :
    g.getOrCreate mt =
      ({ g with instancesByType := Function.update g.instancesByType mt (some (g.handlerOf mt)) }, some cls) := by
  unfold getOrCreate handlerOf
  cases hinst : g.instancesByType mt with
  | none => simp [hcls]
  | some h =>
      have hself : Function.update g.instancesByType mt (some h) = g.instancesByType := by
        rw [← hinst]
        exact Function.update_eq_self _ _
      simp [hcls, hself]

theorem activateType_none {mt : MessageType} (hcls : mtCreatorMap mt = none) (mode : HandlerMode) :
    g.activateType mode mt = (g, true) := by
  unfold activateType
  rw [getOrCreate_none hcls]

theorem enable_configureHandlerMode (h : MessageHandler) (mode : HandlerMode) :
    (h.configureHandlerMode mode).enabled = true := by
  cases mode <;> rfl

/-- What activating a type does, in one equation. -/
theorem activateType_some {mt : MessageType} {cls : HandlerClass} (hcls : mtCreatorMap mt = some cls)
    (mode : HandlerMode) :
    g.activateType mode mt =
      if (g.handlers cls.name).isSome then
        ({ g with
            instancesByType := Function.update g.instancesByType mt
              (some ((g.handlerOf mt).configureHandlerMode mode)) }, true)
      else
        (⟨Function.update g.instancesByType mt
            (some { (g.handlerOf mt).configureHandlerMode mode with
              subscription := (declareParameters g.declaredParameters cls.parameters).2 ||
                ((g.handlerOf mt).configureHandlerMode mode).subscription }),
          Function.update g.handlers cls.name (some mt),
          (declareParameters g.declaredParameters cls.parameters).1⟩,
          (declareParameters g.declaredParameters cls.parameters).2) := by
  unfold activateType
  rw [getOrCreate_some hcls]
  simp only [modifyHandler, registerHandler, initializeHandler, Function.update_self, Function.update_idem,
    Option.map_some]
  obtain ⟨declared, completed⟩ := declareParameters g.declaredParameters cls.parameters
  cases (g.handlers cls.name).isSome with
  | true => rfl
  | false =>
      cases completed with
      | true => simp [MessageHandler.enable, enable_configureHandlerMode]
      | false => simp

theorem view_activateType_self {mt : MessageType} {cls : HandlerClass} (hcls : mtCreatorMap mt = some cls)
    (mode : HandlerMode) :
    (g.activateType mode mt).1.view mt cls = (g.view mt cls).activate mode ∧
      ((g.activateType mode mt).2 = true ↔ (g.view mt cls).Registrable) := by
  obtain ⟨hne, hnd⟩ := mtCreatorMap_parameters hcls
  have hok := declareParameters_snd cls.parameters hnd g.declaredParameters
  rw [activateType_some hcls]
  unfold HandlerView.activate HandlerView.Registrable view
  cases hreg : (g.handlers cls.name).isSome with
  | true =>
      simp [handlerOf, hreg]
  | false =>
      have hany := any_mem_declareParameters hne g.declaredParameters
      cases hdecl : cls.parameters.any (· ∈ g.declaredParameters) with
      | true =>
          rw [hdecl] at hok
          simp [hok, hany, handlerOf]
      | false =>
          rw [hdecl] at hok
          simp [hok, hany, handlerOf]

theorem view_activateType_of_ne {mt mt' : MessageType} {cls' : HandlerClass} (hcls' : mtCreatorMap mt' = some cls')
    (hne : mt' ≠ mt) (mode : HandlerMode) : (g.activateType mode mt).1.view mt' cls' = g.view mt' cls' := by
  cases hcls : mtCreatorMap mt with
  | none => rw [activateType_none hcls]
  | some cls =>
      obtain ⟨hname, hparams⟩ := mtCreatorMap_disjoint hcls' hcls hne
      rw [activateType_some hcls]
      split_ifs with hreg
      · exact view_congr (Function.update_of_ne hne _ _) rfl fun p _ => Iff.rfl
      · refine view_congr (Function.update_of_ne hne _ _) (Function.update_of_ne hname _ _) fun p hp => ⟨?_, ?_⟩
        · intro h
          exact (mem_declareParameters cls.parameters g.declaredParameters h).resolve_right (hparams p hp)
        · exact subset_declareParameters cls.parameters g.declaredParameters

/-- Every registered handler is stored under the name of its class. -/
def Keyed (g : RosGateway) : Prop :=
  ∀ name mt, g.handlers name = some mt → ∃ cls, mtCreatorMap mt = some cls ∧ cls.name = name

theorem keyed_empty : Keyed empty := fun _ _ h => by cases h

theorem Keyed.activateType (h : Keyed g) (mode : HandlerMode) (mt : MessageType) :
    Keyed (g.activateType mode mt).1 := by
  cases hcls : mtCreatorMap mt with
  | none => rw [activateType_none hcls]; exact h
  | some cls =>
      rw [activateType_some hcls]
      split_ifs with hreg
      · exact h
      · intro name mt' hname
        change Function.update g.handlers cls.name (some mt) name = some mt' at hname
        rw [Function.update_apply] at hname
        split_ifs at hname with heq
        · cases hname
          exact ⟨cls, hcls, heq.symm⟩
        · exact h name mt' hname

theorem deactivateType_none {mt : MessageType} (hcls : mtCreatorMap mt = none) : g.deactivateType mt = g := by
  unfold deactivateType
  rw [getOrCreate_none hcls]

/-- Deactivating shuts the object of the type down and removes it from the registered handlers. -/
theorem Keyed.deactivateType_some (h : Keyed g) {mt : MessageType} {cls : HandlerClass}
    (hcls : mtCreatorMap mt = some cls) :
    g.deactivateType mt =
      { g with
        instancesByType := Function.update g.instancesByType mt
          (some (if (g.handlers cls.name).isSome then (g.handlerOf mt).shutdown cls else g.handlerOf mt))
        handlers := Function.update g.handlers cls.name none } := by
  unfold deactivateType
  rw [getOrCreate_some hcls]
  unfold unregisterHandler
  cases hreg : g.handlers cls.name with
  | none =>
      have hself : Function.update g.handlers cls.name none = g.handlers := by
        rw [← hreg]
        exact Function.update_eq_self _ _
      simp [hreg, hself]
  | some mt' =>
      obtain ⟨cls', hcls', hname⟩ := h cls.name mt' hreg
      have hmt : mt' = mt := by
        by_contra hne
        exact (mtCreatorMap_disjoint hcls' hcls hne).1 hname
      subst hmt
      simp [hreg, hcls, modifyHandler]

theorem Keyed.deactivateType (h : Keyed g) (mt : MessageType) : Keyed (g.deactivateType mt) := by
  cases hcls : mtCreatorMap mt with
  | none => rw [deactivateType_none hcls]; exact h
  | some cls =>
      rw [h.deactivateType_some hcls]
      intro name mt' hname
      change Function.update g.handlers cls.name none name = some mt' at hname
      rw [Function.update_apply] at hname
      split_ifs at hname
      exact h name mt' hname

theorem Keyed.view_deactivateType_self (h : Keyed g) {mt : MessageType} {cls : HandlerClass}
    (hcls : mtCreatorMap mt = some cls) :
    (g.deactivateType mt).view mt cls = (g.view mt cls).deactivate cls := by
  rw [h.deactivateType_some hcls]
  unfold HandlerView.deactivate view
  cases (g.handlers cls.name).isSome <;> simp [handlerOf]

theorem Keyed.view_deactivateType_of_ne (h : Keyed g) {mt mt' : MessageType} {cls' : HandlerClass}
    (hcls' : mtCreatorMap mt' = some cls') (hne : mt' ≠ mt) :
    (g.deactivateType mt).view mt' cls' = g.view mt' cls' := by
  cases hcls : mtCreatorMap mt with
  | none => rw [deactivateType_none hcls]
  | some cls =>
      obtain ⟨hname, -⟩ := mtCreatorMap_disjoint hcls' hcls hne
      rw [h.deactivateType_some hcls]
      exact view_congr (Function.update_of_ne hne _ _) (Function.update_of_ne hname _ _) fun p _ => Iff.rfl

/-! ## The types of a list -/

theorem activate_cons (mode : HandlerMode) (g : RosGateway) (mt : MessageType) (mts : List MessageType) :
    activate mode g (mt :: mts) =
      if (g.activateType mode mt).2 then activate mode (g.activateType mode mt).1 mts
      else g.activateType mode mt := rfl

theorem Keyed.activate (h : Keyed g) (mode : HandlerMode) (mts : List MessageType) :
    Keyed (RosGateway.activate mode g mts).1 := by
  induction mts generalizing g with
  | nil => exact h
  | cons mt mts ih =>
      rw [activate_cons]
      split_ifs
      · exact ih (h.activateType mode mt)
      · exact h.activateType mode mt

/-- All types of the list that have a handler can be registered. -/
def RegistrableAll (g : RosGateway) (mts : List MessageType) : Prop :=
  ∀ mt ∈ mts, ∀ cls, mtCreatorMap mt = some cls → (g.view mt cls).Registrable

theorem registrableAll_activateType {mode : HandlerMode} {mt : MessageType} {mts : List MessageType}
    (hhead : ∀ cls, mtCreatorMap mt = some cls → (g.view mt cls).Registrable) :
    RegistrableAll (g.activateType mode mt).1 mts ↔ RegistrableAll g mts := by
  refine forall₂_congr fun mt' _ => forall₂_congr fun cls' hcls' => ?_
  by_cases heq : mt' = mt
  · subst heq
    rw [(view_activateType_self hcls' mode).1]
    exact iff_of_true (Or.inl (HandlerView.registered_activate _ mode)) (hhead cls' hcls')
  · rw [view_activateType_of_ne hcls' heq]

/-- **Activating completes iff every handler of the list can be registered.** -/
theorem activate_completes_iff (mode : HandlerMode) (g : RosGateway) (mts : List MessageType) :
    (activate mode g mts).2 = true ↔ RegistrableAll g mts := by
  induction mts generalizing g with
  | nil => exact iff_of_true rfl fun mt hmt => absurd hmt List.not_mem_nil
  | cons mt mts ih =>
      have hsplit : RegistrableAll g (mt :: mts) ↔
          (∀ cls, mtCreatorMap mt = some cls → (g.view mt cls).Registrable) ∧ RegistrableAll g mts :=
        List.forall_mem_cons
      have hhead : (g.activateType mode mt).2 = true ↔
          ∀ cls, mtCreatorMap mt = some cls → (g.view mt cls).Registrable := by
        cases hcls : mtCreatorMap mt with
        | none => rw [activateType_none hcls]; simp
        | some cls => simpa using (view_activateType_self hcls mode).2
      rw [activate_cons, hsplit]
      by_cases hok : (g.activateType mode mt).2 = true
      · rw [if_pos hok, ih, registrableAll_activateType (hhead.mp hok)]
        exact (and_iff_right (hhead.mp hok)).symm
      · rw [if_neg hok]
        exact iff_of_false hok fun h => hok (hhead.mpr h.1)

/-- **What activating does to each type**, where it completes. -/
theorem view_activate (mode : HandlerMode) {mts : List MessageType} (hok : (activate mode g mts).2 = true)
    {mt : MessageType} {cls : HandlerClass} (hcls : mtCreatorMap mt = some cls) :
    (activate mode g mts).1.view mt cls = if mt ∈ mts then (g.view mt cls).activate mode else g.view mt cls := by
  induction mts generalizing g with
  | nil => rfl
  | cons mt₀ mts ih =>
      rw [activate_cons] at hok ⊢
      by_cases hhead : (g.activateType mode mt₀).2 = true
      · rw [if_pos hhead] at hok ⊢
        rw [ih hok]
        by_cases heq : mt = mt₀
        · subst heq
          rw [(view_activateType_self hcls mode).1, HandlerView.activate_activate, ite_self, if_pos (by simp)]
        · rw [view_activateType_of_ne hcls heq]
          simp [heq]
      · rw [if_neg hhead] at hok
        exact absurd hok hhead

theorem Keyed.deactivate (h : Keyed g) (mts : List MessageType) : Keyed (g.deactivate mts) := by
  induction mts generalizing g with
  | nil => exact h
  | cons mt mts ih => exact ih (h.deactivateType mt)

/-- **What deactivating does to each type.** -/
theorem Keyed.view_deactivate (h : Keyed g) (mts : List MessageType) {mt : MessageType} {cls : HandlerClass}
    (hcls : mtCreatorMap mt = some cls) :
    (g.deactivate mts).view mt cls = if mt ∈ mts then (g.view mt cls).deactivate cls else g.view mt cls := by
  induction mts generalizing g with
  | nil => rfl
  | cons mt₀ mts ih =>
      rw [show g.deactivate (mt₀ :: mts) = (g.deactivateType mt₀).deactivate mts from rfl, ih (h.deactivateType mt₀)]
      by_cases heq : mt = mt₀
      · subst heq
        rw [h.view_deactivateType_self hcls, HandlerView.deactivate_deactivate, ite_self, if_pos (by simp)]
      · rw [h.view_deactivateType_of_ne hcls heq]
        simp [heq]

end RosGateway

end EdgeOffloading
