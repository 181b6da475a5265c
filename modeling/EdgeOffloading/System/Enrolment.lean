import EdgeOffloading.Discovery.Replies

/-!
# A client and the service

One connection of the Discovery Service with what is on its way in both directions. The client writes messages, the two
ends read parts of any size, and in between the service goes through whatever its other clients and its main loop bring.

* `traced_run`: where the bytes that are on their way, or were read, come from;
* `Traced.answered`: what a client decodes as the response to a registration is one to its own;
* `Traced.enrolled`: a response that says SUCCESS names a component that was registered when it was sent.
-/

namespace EdgeOffloading.Discovery

open Run DiscoveryService

/-- The connection `c` of the client, and all that the service has gone through. -/
structure Enrolment where
  events : List ServiceEvent
  /-- Written by the client, not yet read by the service. -/
  up : List Char := []
  /-- Written by the service, not yet read by the client. -/
  down : List Char := []
  /-- What the reads of the client have returned. -/
  pieces : List (List Char) := []

inductive EnrolmentEvent where
  | write (m : Message)
  | read (n : Nat)
  /-- The data callback of the service, with `n` bytes of the client in the socket. -/
  | arrive (n : Nat) (env : ServiceEnv)
  | elsewhere (e : ServiceEvent)

namespace Enrolment

def service (s : Enrolment) : DiscoveryService := after s.events

/-- The messages that the step adds for the client. -/
def answers (c : Nat) (es : List ServiceEvent) (e : ServiceEvent) : List Message :=
  ((after (es ++ [e])).sent.drop (after es).sent.length).filterMap fun sent => if sent.1 = c then some sent.2 else none

def serve (c : Nat) (s : Enrolment) (e : ServiceEvent) : Enrolment :=
  { s with events := s.events ++ [e], down := s.down ++ messageStream (answers c s.events e) }

/-- The service reads from a client that it has, until it shuts down. -/
def served (c : Nat) (s : Enrolment) : Prop :=
  s.service.shuttingDown = false ∧ (s.service.clientIpAddresses.lookup c).isSome = true

instance (c : Nat) (s : Enrolment) : Decidable (s.served c) := inferInstanceAs (Decidable (_ ∧ _))

def step (c : Nat) (s : Enrolment) : EnrolmentEvent → Enrolment
  | .write m => { s with up := s.up ++ (encodeMessage m).toList }
  | .read n => { s with pieces := s.pieces ++ [s.down.take n], down := s.down.drop n }
  | .arrive n env =>
    if s.served c then
      { s with up := s.up.drop (min n bufferSize) }.serve c (.data c (s.up.take n) env)
    else s
  | .elsewhere e => s.serve c e

/-- The client has just connected. -/
def start (es : List ServiceEvent) (c : Nat) (ip : Ipv4) : Enrolment := { events := es ++ [.connected c ip] }

/-- The client registers with `req` and nothing else; what happens elsewhere is not about its connection, but for its
end. -/
def Fits (c : Nat) (req : RegistrationRequest) : EnrolmentEvent → Prop
  | .write m => m.Plain ∧ ∀ q, m = .registrationRequest q → q = req
  | .read _ => True
  | .arrive _ _ => True
  | .elsewhere (.data c' _ _) => c' ≠ c
  | .elsewhere (.connected c' _) => c' ≠ c
  | .elsewhere _ => True

variable {c : Nat} {s : Enrolment}

theorem step_write (c : Nat) (s : Enrolment) (m : Message) :
    s.step c (.write m) = { s with up := s.up ++ (encodeMessage m).toList } := rfl

theorem step_arrive (hserved : s.served c) (n : Nat) (env : ServiceEnv) :
    s.step c (.arrive n env) =
      { s with up := s.up.drop (min n bufferSize) }.serve c (.data c (s.up.take n) env) :=
  if_pos hserved

theorem events_of_turn (hup : s.up = []) (hserved : s.served c) (m : Message) (n k : Nat) (env : ServiceEnv) :
    (run (Enrolment.step c) s [.write m, .arrive n env, .read k]).events =
      s.events ++ [.data c ((encodeMessage m).toList.take n) env] := by
  have hwrite : s.step c (.write m) = { s with up := (encodeMessage m).toList } := by
    rw [step_write, hup, List.nil_append]
  have hserved' : ({ s with up := (encodeMessage m).toList } : Enrolment).served c := hserved
  rw [run_cons, run_cons, run_cons, run_nil, hwrite, step_arrive hserved']
  rfl

end Enrolment

/-! ## Steps of the service -/

namespace DiscoveryService

variable {s : DiscoveryService} {c : Nat}

/-- A step sends nothing, or something other than the response to a registration, or it handles a registration. -/
theorem sent_step (s : DiscoveryService) (e : ServiceEvent) :
    (s.step e).sent = s.sent ∨
      (∃ c m, (∀ r, m ≠ .registrationResponse r) ∧ (s.step e).sent = s.sent ++ [(c, m)]) ∨
      ∃ c env req, s.registration e = some (c, env, req) := by
  unfold step
  by_cases hdown : s.shuttingDown = true
  · rw [if_pos hdown]
    exact .inl rfl
  · rw [if_neg hdown]
    cases e with
    | connected c ip => exact .inl rfl
    | disconnected c => exact .inl (sheds_onClientDisconnected s c).sent
    | purge now => exact .inl (sheds_purgeStaleClients s now).sent
    | data c available env =>
        dsimp only
        split
        · rename_i hread
          rcases s.onDataReceived_cases env c (available.take bufferSize) with
            ⟨m, hm, heq⟩ | ⟨req, hdecode, -⟩ | ⟨ping, -, heq⟩ | heq
          · rw [heq]
            exact .inr (.inl ⟨c, m, hm, rfl⟩)
          · exact .inr (.inr ⟨c, env, req, registration_data (Bool.eq_false_iff.mpr hdown) hread.1 hdecode env⟩)
          · rw [heq]
            rcases s.handleKeepalive_cases env c ping with hsame | ⟨groupId, idInGroup, pong, hping⟩
            · rw [hsame]
              exact .inl rfl
            · rw [hping]
              exact .inr (.inl ⟨c, .keepaliveResponse pong, fun r => (by simp), rfl⟩)
          · rw [heq]
            exact .inl rfl
        · exact .inl rfl

/-- The response to a registration that a step sends is the answer to the registration it handles. -/
theorem registers_of_sent (hmode : s.p2pMode = false) {e : ServiceEvent} {r : RegistrationResponse}
    (h : (c, .registrationResponse r) ∈ (s.step e).sent.drop s.sent.length) : ∃ req, Registers s e c req r := by
  rcases s.sent_step e with hsame | ⟨c', m, hm, hsent⟩ | ⟨c', env, req, hreg⟩
  · rw [hsame, List.drop_length] at h
    exact absurd h List.not_mem_nil
  · rw [hsent, List.drop_left, List.mem_singleton] at h
    exact absurd (Prod.mk.inj h).2.symm (hm r)
  · obtain ⟨r', hstate, -⟩ := outcome_handleRegistration hmode env c' req
    have hsent : (s.step e).sent = s.sent ++ [(c', .registrationResponse r')] := by
      rw [step_of_registration hreg, hstate]
    rw [hsent, List.drop_left, List.mem_singleton] at h
    obtain ⟨rfl, hr⟩ := Prod.mk.inj h
    obtain rfl := Message.registrationResponse.inj hr
    exact ⟨req, ⟨env, hreg⟩, hsent⟩

theorem omTexts_append (s : DiscoveryService) (es es' : List ServiceEvent) :
    omTexts s (es ++ es') = omTexts s es ++ omTexts (run step s es) es' := by
  induction es generalizing s with
  | nil => rfl
  | cons e es ih =>
      show (s.omText e).toList ++ omTexts (s.step e) (es ++ es') = _
      rw [ih, ← List.append_assoc]
      rfl

end DiscoveryService

/-! ## Streams -/

theorem messageStream_append (ms ms' : List Message) :
    messageStream (ms ++ ms') = messageStream ms ++ messageStream ms' := by
  unfold messageStream
  rw [List.map_append, List.flatten_append]

theorem messageStream_singleton (m : Message) : messageStream [m] = (encodeMessage m).toList :=
  List.append_nil _

theorem suffix_append_append {a b : List Char} (h : a <:+ b) (more : List Char) : a ++ more <:+ b ++ more := by
  obtain ⟨pre, rfl⟩ := h
  exact ⟨pre, List.append_assoc pre a more ▸ rfl⟩

namespace Enrolment

variable {c : Nat} {req : RegistrationRequest} {s : Enrolment}

/-! ## Where the bytes come from -/

/-- A message that the service has sent: a response to a registration is one to the registration of the client. -/
structure FromService (es : List ServiceEvent) (c : Nat) (req : RegistrationRequest) (m : Message) : Prop where
  plain : m.Plain
  answer : ∀ r, m = .registrationResponse r → ∃ pre e text, pre ++ [e] <+: es ∧
    Registers (after pre) e c { req with humanReadableMessage := text } r

theorem FromService.mono {es es' : List ServiceEvent} {m : Message} (h : FromService es c req m) (hes : es <+: es') :
    FromService es' c req m := by
  refine ⟨h.plain, fun r hr => ?_⟩
  obtain ⟨pre, e, text, hpre, hregisters⟩ := h.answer r hr
  exact ⟨pre, e, text, hpre.trans hes, hregisters⟩

/-- **The invariant**: the bytes on their way, and those the client has read, are of messages that were written. -/
structure Traced (c : Nat) (req : RegistrationRequest) (s : Enrolment) : Prop where
  up : ∃ ms, (∀ m ∈ ms, Fits c req (.write m)) ∧ s.up <:+ messageStream ms
  down : ∃ ms, (∀ m ∈ ms, FromService s.events c req m) ∧ s.down <:+ messageStream ms ∧
    ∀ piece ∈ s.pieces, piece <:+: messageStream ms

theorem traced_start (es : List ServiceEvent) (c : Nat) (ip : Ipv4) (req : RegistrationRequest) :
    Traced c req (start es c ip) := by
  refine ⟨⟨[], ?_, List.suffix_rfl⟩, ⟨[], ?_, List.suffix_rfl, ?_⟩⟩
  · exact fun m hm => absurd hm List.not_mem_nil
  · exact fun m hm => absurd hm List.not_mem_nil
  · exact fun piece hpiece => absurd hpiece List.not_mem_nil

theorem fromService_of_answers {es : List ServiceEvent} {e : ServiceEvent}
    (htexts : ∀ text ∈ omTexts (init false) (es ++ [e]), ¬ marker <:+: text.toList)
    (hown : ∀ env q, (after es).registration e = some (c, env, q) →
      ∃ text, q = { req with humanReadableMessage := text })
    {m : Message} (hm : m ∈ answers c es e) : FromService (es ++ [e]) c req m := by
  obtain ⟨⟨c', m'⟩, hsent, hc⟩ := List.mem_filterMap.mp hm
  dsimp only at hc
  split at hc
  · rename_i hclient
    obtain rfl : c' = c := hclient
    obtain rfl := Option.some.inj hc
    refine ⟨((plainly_after htexts).sent c' m' (List.mem_of_mem_drop hsent)).plain, fun r hr => ?_⟩
    rw [hr, after_append] at hsent
    have hmode : (after es).p2pMode = false := p2pMode_run false es
    obtain ⟨q, hregisters⟩ := registers_of_sent hmode hsent
    obtain ⟨env, hreg⟩ := hregisters.request
    obtain ⟨text, rfl⟩ := hown env q hreg
    exact ⟨es, e, text, List.prefix_rfl, hregisters⟩
  · cases hc

theorem Traced.serve (h : Traced c req s) {e : ServiceEvent}
    (htexts : ∀ text ∈ omTexts (init false) (s.events ++ [e]), ¬ marker <:+: text.toList)
    (hown : ∀ env q, s.service.registration e = some (c, env, q) →
      ∃ text, q = { req with humanReadableMessage := text }) :
    Traced c req (s.serve c e) := by
  obtain ⟨ms, hms, hdown, hpieces⟩ := h.down
  refine ⟨h.up, ms ++ answers c s.events e, fun m hm => ?_, ?_, fun piece hpiece => ?_⟩
  · rcases List.mem_append.mp hm with hm | hm
    · exact (hms m hm).mono (List.prefix_append _ _)
    · exact fromService_of_answers htexts hown hm
  · rw [messageStream_append]
    exact suffix_append_append hdown _
  · rw [messageStream_append]
    exact (hpieces piece hpiece).trans (List.prefix_append _ _).isInfix

theorem Traced.own (h : Traced c req s) (n : Nat) (env env' : ServiceEnv) {q : RegistrationRequest}
    (hreg : s.service.registration (.data c (s.up.take n) env) = some (c, env', q)) :
    ∃ text, q = { req with humanReadableMessage := text } := by
  obtain ⟨-, -, available, heq, hdecode⟩ := registration_eq_some hreg
  obtain ⟨-, rfl, -⟩ := ServiceEvent.data.inj heq
  obtain ⟨ms, hms, hup⟩ := h.up
  have hpiece : (s.up.take n).take bufferSize <:+: messageStream ms :=
    ((List.take_prefix _ _).trans (List.take_prefix _ _)).isInfix.trans hup.isInfix
  obtain ⟨q', hq', hsame⟩ := request_of_piece (fun m hm => (hms m hm).1) hpiece hdecode
  obtain rfl := (hms _ hq').2 q' rfl
  exact ⟨_, hsame⟩

theorem Traced.step (h : Traced c req s) {e : EnrolmentEvent} (he : Fits c req e)
    (htexts : ∀ text ∈ omTexts (init false) (s.step c e).events, ¬ marker <:+: text.toList) :
    Traced c req (s.step c e) := by
  cases e with
  | write m =>
      obtain ⟨ms, hms, hup⟩ := h.up
      refine ⟨⟨ms ++ [m], fun m' hm' => ?_, ?_⟩, h.down⟩
      · rcases List.mem_append.mp hm' with hm' | hm'
        · exact hms m' hm'
        · rw [List.mem_singleton.mp hm']
          exact he
      · rw [messageStream_append, messageStream_singleton]
        exact suffix_append_append hup _
  | read n =>
      obtain ⟨ms, hms, hdown, hpieces⟩ := h.down
      refine ⟨h.up, ms, hms, (List.drop_suffix n _).trans hdown, fun piece hpiece => ?_⟩
      rcases List.mem_append.mp hpiece with hpiece | hpiece
      · exact hpieces piece hpiece
      · rw [List.mem_singleton.mp hpiece]
        exact (List.take_prefix n _).isInfix.trans hdown.isInfix
  | arrive n env =>
      unfold Enrolment.step at htexts ⊢
      dsimp only at htexts ⊢
      split
      · rename_i hserved
        rw [if_pos hserved] at htexts
        obtain ⟨ms, hms, hup⟩ := h.up
        have hread : Traced c req { s with up := s.up.drop (min n bufferSize) } :=
          ⟨⟨ms, hms, (List.drop_suffix _ _).trans hup⟩, h.down⟩
        exact hread.serve htexts fun env' q hreg => h.own n env env' hreg
      · exact h
  | elsewhere e =>
      refine h.serve htexts fun env q hreg => ?_
      -- the registrations elsewhere are those of other clients
      obtain ⟨-, -, available, rfl, -⟩ := registration_eq_some hreg
      exact absurd rfl he

theorem events_step (c : Nat) (s : Enrolment) (e : EnrolmentEvent) : s.events <+: (s.step c e).events := by
  cases e with
  | write m => exact List.prefix_rfl
  | read n => exact List.prefix_rfl
  | arrive n env =>
      unfold Enrolment.step
      dsimp only
      split
      · exact List.prefix_append _ _
      · exact List.prefix_rfl
  | elsewhere e => exact List.prefix_append _ _

/-- The texts that the OMs register have the marker nowhere. -/
def UnmarkedTexts (s : Enrolment) : Prop := ∀ text ∈ omTexts (init false) s.events, ¬ marker <:+: text.toList

theorem traced_run {es : List ServiceEvent} {ip : Ipv4} {evs : List EnrolmentEvent} (hfits : ∀ e ∈ evs, Fits c req e)
    (htexts : UnmarkedTexts (run (Enrolment.step c) (start es c ip) evs)) :
    Traced c req (run (Enrolment.step c) (start es c ip) evs) := by
  induction evs using List.reverseRecOn with
  | nil => exact traced_start es c ip req
  | append_singleton evs e ih =>
      rw [run_append, run_cons, run_nil] at htexts ⊢
      have hbefore : UnmarkedTexts (run (Enrolment.step c) (start es c ip) evs) := by
        intro text htext
        obtain ⟨more, hmore⟩ := events_step c (run (Enrolment.step c) (start es c ip) evs) e
        refine htexts text ?_
        rw [← hmore, omTexts_append]
        exact List.mem_append_left _ htext
      exact (ih (fun e he => hfits e (List.mem_append_left _ he)) hbefore).step
        (hfits e (List.mem_append_right _ List.mem_cons_self)) htexts

/-! ## What the client decodes -/

/-- The response to a registration that is in a piece, or in the beginning of one, is one to the registration of the
client, up to its last field. -/
theorem Traced.answered (h : Traced c req s) {piece : List Char} (hpiece : piece ∈ s.pieces) {input : List Char}
    (hinput : input <+: piece) {r : RegistrationResponse}
    (hdecode : decodeMessage (String.ofList input) = .ok (.registrationResponse r)) :
    ∃ pre e text r', pre ++ [e] <+: s.events ∧
      Registers (after pre) e c { req with humanReadableMessage := text } r' ∧
      r = { r' with humanReadableMessage := r.humanReadableMessage } := by
  obtain ⟨ms, hms, -, hpieces⟩ := h.down
  obtain ⟨r', hr', hsame⟩ := response_of_piece (fun m hm => (hms m hm).plain)
    (hinput.isInfix.trans (hpieces piece hpiece)) hdecode
  obtain ⟨pre, e, text, hpre, hregisters⟩ := (hms _ hr').answer r' rfl
  exact ⟨pre, e, text, r', hpre, hregisters, hsame⟩

/-- The service registers the client in the step, and the response names a component that is registered then. -/
structure EnrolledIn (pre : List ServiceEvent) (e : ServiceEvent) (c : Nat) (req : RegistrationRequest)
    (peer : Discovery.ComponentType) (r : RegistrationResponse) : Prop where
  record : ∃ info, (after (pre ++ [e])).registry.findByClientId c = some info ∧
    info.componentType = req.componentType ∧ info.componentIdPair = (req.groupId, req.idInGroup)
  target : PointsTo peer pre r
  config : (omTexts (init false) pre).getLast? = some r.configJson

theorem config_of_accepts {es : List ServiceEvent} {e : ServiceEvent} {env env' : ServiceEnv} {q : RegistrationRequest}
    {r : RegistrationResponse} (hreg : (after es).registration e = some (c, env, q))
    (hom : q.componentType ≠ .offloadManager) (ha : Accepts (after es) env' c q ((after es).step e) r) :
    (omTexts (init false) es).getLast? = some r.configJson := by
  have hsame : ((after es).step e).globalConfiguration = (after es).globalConfiguration := by
    have hmode : (after es).p2pMode = false := p2pMode_run false es
    rw [globalConfiguration_step hmode]
    unfold omText
    rw [hreg]
    dsimp only
    rw [if_neg hom, Option.none_or]
  have hrun := globalConfiguration_run (s := init false) rfl es
  rw [show (init false).globalConfiguration = none from rfl, Option.or_none] at hrun
  rw [ha.config, hsame]
  exact hrun.symm

/-- **A client that reads SUCCESS is registered**, and gets the endpoint of a registered component of the type that it
needs, and the configuration of the last OM. -/
theorem Traced.enrolled (h : Traced c req s) (hfresh : FreshIds s.events) (hone : OnePerConnection s.events)
    {peer : Discovery.ComponentType} (hpeer : ComponentRegistry.peerType req.componentType = some peer)
    {piece : List Char} (hpiece : piece ∈ s.pieces) {input : List Char} (hinput : input <+: piece)
    {r : RegistrationResponse} (hdecode : decodeMessage (String.ofList input) = .ok (.registrationResponse r))
    (hcode : r.responseCode = .success) : ∃ pre e, pre ++ [e] <+: s.events ∧ EnrolledIn pre e c req peer r := by
  obtain ⟨pre, e, text, r', hpre, hregisters, hsame⟩ := h.answered hpiece hinput hdecode
  refine ⟨pre, e, hpre, ?_⟩
  have hbefore : pre <+: s.events := (List.prefix_append _ _).trans hpre
  obtain ⟨hstarted, hrecords⟩ := started_after
    (fun pre' c' ip h' => hfresh pre' c' ip (h'.trans hbefore))
    (fun pre' e₁ mid e₂ c' q q' r₁ r₂ h' => hone pre' e₁ mid e₂ c' q q' r₁ r₂ (h'.trans hbefore))
  obtain ⟨env, hreg⟩ := hregisters.request
  have hrun := (registration_eq_some hreg).1
  have hcode' : r'.responseCode = .success := by
    rw [hsame] at hcode
    exact hcode
  obtain ⟨env', haccepts⟩ := hregisters.accepts hstarted.mode hcode'
  have hom : req.componentType ≠ .offloadManager := by
    intro hom
    rw [hom] at hpeer
    cases hpeer
  refine ⟨?_, ?_, ?_⟩
  · obtain ⟨port, -, hregister⟩ := haccepts.info
    obtain ⟨-, hmap, -⟩ := ComponentRegistry.registerComponent_some hregister
    refine ⟨(after pre).registeredInfo env' c { req with humanReadableMessage := text } port, ?_, rfl, rfl⟩
    rw [after_append, ComponentRegistry.findByClientId_insert hmap]
    exact if_pos rfl
  · have hpoints : PointsTo peer pre r' := by
      refine pointsTo_of_accepts (hstarted.ordered hrun) (hrecords hrun) ?_ haccepts
      exact hpeer
    rw [hsame]
    exact hpoints
  · have hconfig := config_of_accepts hreg hom haccepts
    rw [hsame]
    exact hconfig

end Enrolment

end EdgeOffloading.Discovery
