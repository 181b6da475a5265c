import EdgeOffloading.Bridge.GlobalConfig
import EdgeOffloading.Discovery.Protocol

/-!
# The Bridge registers

`register_with_discovery_service`. The loop of the registration writes its line and makes one `receive_data` of at most
2048 bytes, until the answer is something other than WAIT; what it decodes then gives the address of the OM and the
configuration. Text is parsed by `parse`, which gives nothing where the library throws.

* `registered_iff`: the loop ends with success at an answer that says SUCCESS and is adopted, behind answers that say
  WAIT;
* `adopted_iff`: what is adopted.
-/

namespace EdgeOffloading

open Discovery

namespace Bridge

/-- The request of `perform_discovery_registration`. -/
def registrationRequest : RegistrationRequest where
  componentType := .bridge
  idRequestType := .static
  groupId := 5
  idInGroup := 1
  componentName := "BridgeControlPlane"
  listenAddress := "0.0.0.0"
  listenPort := "7000"
  humanReadableMessage := "Bridge Control Plane requesting registration"

/-- What a turn of the loop comes to: `send_data` fails, `receive_data` returns nothing, or it returns the bytes. -/
inductive Exchange where
  | unsent
  | unanswered
  | answered (piece : List Char)
  deriving DecidableEq, Repr

/-- The members that the registration writes. -/
structure Discovered where
  omHost : String := ""
  omPort : UInt16 := 0
  globalConfig : LoadedConfig

inductive RegistrationResult where
  /-- The loop goes on. -/
  | retrying
  | failed
  | registered
  deriving DecidableEq, Repr

variable (parse : String → Option Json)

/-- The parsing of the configuration; without one there is only a warning. -/
def Discovered.load (d : Discovered) (configJson : String) : Discovered × RegistrationResult :=
  if configJson = "" then (d, .registered)
  else
    match parse configJson with
    | none => (d, .failed)
    | some doc =>
      let loaded := d.globalConfig.parseFromJson doc
      ({ d with globalConfig := loaded.1 }, if loaded.2 then .registered else .failed)

/-- What follows the loop. -/
def Discovered.adopt (d : Discovered) (response : RegistrationResponse) : Discovered × RegistrationResult :=
  if response.connectionTargetAddress ≠ "" ∧ response.connectionTargetPort ≠ "" then
    let d' := { d with omHost := response.connectionTargetAddress }
    match stoi response.connectionTargetPort.toList with
    | none => (d', .failed)
    | some port => { d' with omPort := UInt16.ofInt port }.load parse response.configJson
  else (d, .failed)

def performDiscoveryRegistration (d : Discovered) : List Exchange → Discovered × RegistrationResult
  | [] => (d, .retrying)
  | .answered piece :: exchanges =>
    match decodeMessage (String.ofList piece) with
    | .ok (.registrationResponse response) =>
      if response.responseCode = .success then d.adopt parse response
      else if response.responseCode = .wait then performDiscoveryRegistration d exchanges
      else (d, .failed)
    | _ => (d, .failed)
  | _ :: _ => (d, .failed)

/-! ## What the registration comes to -/

variable {parse} {d d' : Discovered} {response : RegistrationResponse}

/-- The configuration that a text leaves. -/
def Loads (parse : String → Option Json) (config : LoadedConfig) (text : String) (config' : LoadedConfig) : Prop :=
  (text = "" ∧ config' = config) ∨
    text ≠ "" ∧ ∃ doc, parse text = some doc ∧ config.parseFromJson doc = (config', true)

theorem load_iff {text : String} :
    d.load parse text = (d', .registered) ↔
      Loads parse d.globalConfig text d'.globalConfig ∧ d'.omHost = d.omHost ∧ d'.omPort = d.omPort := by
  obtain ⟨host, port, config⟩ := d
  obtain ⟨host', port', config'⟩ := d'
  unfold Discovered.load Loads
  by_cases hempty : text = ""
  · simp only [hempty, if_true, Prod.mk.injEq, Discovered.mk.injEq, and_true, true_and, ne_eq, not_true, false_and,
      or_false]
    constructor
    · rintro ⟨rfl, rfl, rfl⟩
      exact ⟨rfl, rfl, rfl⟩
    · rintro ⟨rfl, rfl, rfl⟩
      exact ⟨rfl, rfl, rfl⟩
  · rw [if_neg hempty]
    cases hparse : parse text with
    | none => simp [hempty]
    | some doc =>
        cases hloaded : config.parseFromJson doc with
        | mk config₁ ok =>
            cases ok with
            | false => simp [hempty, hloaded]
            | true =>
                simp only [hloaded, if_true, Prod.mk.injEq, Discovered.mk.injEq, and_true, hempty, false_and, false_or,
                  ne_eq, not_false_eq_true, true_and, Option.some.injEq, exists_eq_left']
                constructor
                · rintro ⟨rfl, rfl, rfl⟩
                  exact ⟨rfl, rfl, rfl⟩
                · rintro ⟨rfl, rfl, rfl⟩
                  exact ⟨rfl, rfl, rfl⟩

/-- **What is adopted**: the address, the port as a number of 16 bits, and the configuration. -/
theorem adopted_iff :
    d.adopt parse response = (d', .registered) ↔
      response.connectionTargetAddress ≠ "" ∧ d'.omHost = response.connectionTargetAddress ∧
        (∃ port, stoi response.connectionTargetPort.toList = some port ∧ d'.omPort = UInt16.ofInt port) ∧
        Loads parse d.globalConfig response.configJson d'.globalConfig := by
  unfold Discovered.adopt
  by_cases htarget : response.connectionTargetAddress ≠ "" ∧ response.connectionTargetPort ≠ ""
  · rw [if_pos htarget]
    cases hport : stoi response.connectionTargetPort.toList with
    | none => simp
    | some port =>
        dsimp only
        rw [load_iff]
        constructor
        · rintro ⟨hloads, hhost, hp⟩
          exact ⟨htarget.1, hhost, ⟨port, rfl, hp⟩, hloads⟩
        · rintro ⟨-, hhost, ⟨port', hport', hp⟩, hloads⟩
          obtain rfl := Option.some.inj hport'
          exact ⟨hloads, hhost, hp⟩
  · rw [if_neg htarget]
    constructor
    · intro h
      cases h
    · rintro ⟨haddress, -, ⟨port, hport, -⟩, -⟩
      refine absurd ⟨haddress, fun hempty => ?_⟩ htarget
      rw [hempty] at hport
      cases hport

/-- The answer says WAIT. -/
def Waits (exchange : Exchange) : Prop :=
  ∃ piece r, exchange = .answered piece ∧
    decodeMessage (String.ofList piece) = .ok (.registrationResponse r) ∧ r.responseCode = .wait

theorem perform_of_waits {exchanges : List Exchange} (h : ∀ x ∈ exchanges, Waits x) (rest : List Exchange) :
    performDiscoveryRegistration parse d (exchanges ++ rest) = performDiscoveryRegistration parse d rest := by
  induction exchanges with
  | nil => rfl
  | cons x exchanges ih =>
      obtain ⟨piece, r, rfl, hdecode, hcode⟩ := h x List.mem_cons_self
      have hne : r.responseCode ≠ .success := by rw [hcode]; decide
      rw [List.cons_append, performDiscoveryRegistration, hdecode]
      dsimp only
      rw [if_neg hne, if_pos hcode]
      exact ih fun x hx => h x (List.mem_cons_of_mem _ hx)

/-- **The loop ends with success** at the first answer that does not say WAIT, where that is a SUCCESS with all that the
Bridge needs. -/
theorem registered_iff {exchanges : List Exchange} :
    performDiscoveryRegistration parse d exchanges = (d', .registered) ↔
      ∃ waits piece rest response, exchanges = waits ++ .answered piece :: rest ∧ (∀ x ∈ waits, Waits x) ∧
        decodeMessage (String.ofList piece) = .ok (.registrationResponse response) ∧
        response.responseCode = .success ∧ d.adopt parse response = (d', .registered) := by
  constructor
  · intro h
    induction exchanges with
    | nil => cases h
    | cons x exchanges ih =>
        cases x with
        | unsent => cases h
        | unanswered => cases h
        | answered piece =>
            rw [performDiscoveryRegistration] at h
            split at h
            · rename_i response hdecode
              split at h
              · rename_i hcode
                exact ⟨[], piece, exchanges, response, rfl, fun x hx => absurd hx List.not_mem_nil, hdecode, hcode, h⟩
              · split at h
                · rename_i hwait
                  obtain ⟨waits, piece', rest, response', rfl, hwaits, hrest⟩ := ih h
                  refine ⟨.answered piece :: waits, piece', rest, response', rfl, ?_, hrest⟩
                  exact List.forall_mem_cons.mpr ⟨⟨piece, response, rfl, hdecode, hwait⟩, hwaits⟩
                · cases h
            · cases h
  · rintro ⟨waits, piece, rest, response, rfl, hwaits, hdecode, hcode, hadopt⟩
    rw [perform_of_waits hwaits, performDiscoveryRegistration, hdecode]
    dsimp only
    rw [if_pos hcode]
    exact hadopt

end Bridge

end EdgeOffloading
