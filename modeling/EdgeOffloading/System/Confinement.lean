import EdgeOffloading.Bridge.Provenance
import EdgeOffloading.System.ComponentIds
import EdgeOffloading.System.Delivery

/-!
# Who gets whose data

The data plane under the tables of a run of the Bridge.

* `labelled_run`: a gateway sends under its own identity;
* `received_only_paired`: what a gateway decodes of another one was sent under a session between the two that the
  gateway at its VHC end asked for and the OM approved.
-/

namespace EdgeOffloading

open Bridge

/-- The session has the sender at its VHC end and the receiver at its MEC end, or the other way round, and the sender
may send this type. -/
def ActiveSession.Connects (session : ActiveSession) (sender receiver : Identity) (msgType : UInt8) : Prop :=
  componentIdParts session.mgwcpComponentId = some (sender.idGroup, sender.identifierInGroup) ∧
      msgType ∈ session.inputMessageTypes ∧ session.assignedMecId = receiver.componentId ∨
    componentIdParts session.assignedMecId = some (sender.idGroup, sender.identifierInGroup) ∧
      msgType ∈ session.outputMessageTypes ∧ session.mgwcpComponentId = receiver.componentId

theorem parts_of_routingKey {c : String} (hvalid : isValidComponentId c = true) {parts : Int × Int}
    (hparts : componentIdParts c = some parts) {identity : Identity} (hrange : identity.InRange)
    {msgType msgType' : UInt8} (hkey : identity.routingKey msgType = routingKeyOf parts msgType') :
    parts = (identity.idGroup, identity.identifierInGroup) ∧ msgType' = msgType := by
  obtain ⟨group, id, g, i, hspells⟩ := isValidComponentId_iff.mp hvalid
  obtain rfl : parts = (g, i) := Option.some.inj (hparts.symm.trans hspells.parts)
  obtain ⟨hg, hg', hi, hi'⟩ := hrange
  have hsame : (routingKeyOf (g, i) msgType').sourceId =
      (routingKeyOf (identity.idGroup, identity.identifierInGroup) msgType).sourceId := by
    rw [← hkey]
    rfl
  refine ⟨routingKeyOf_sourceId_inj hspells.groupRange hspells.idRange ⟨hg, hg'⟩ ⟨hi, hi'⟩ hsame, ?_⟩
  exact (congrArg RoutingKey.messageType hkey).symm

namespace DataPlane

variable {ι : Type*} [DecidableEq ι] {s : DataPlane ι}

/-- The tables are those of a run of the Bridge on the way, and each gateway is known to the Bridge under its component
id, with its worker as the handler. -/
structure GovernedBy (s : DataPlane ι) (g : GlobalConfig) (inputs : List (Env × EdgeOffloading.Event)) : Prop where
  tables : ∀ table ∈ s.tables, ∃ pre, pre <+: inputs ∧ table = (Run.run next (init g) pre).routingTable
  workers : ∀ j, IsQueueOf (Run.run next (init g) inputs).transportHandlers (s.identity j).componentId
    (s.handler j).inputQueue
  inRange : ∀ i, (s.identity i).InRange

theorem GovernedBy.session {g : GlobalConfig} {inputs : List (Env × EdgeOffloading.Event)} (h : GovernedBy s g inputs)
    {table : RoutingTable} (htable : table ∈ s.tables) {i j : ι} {msgType : UInt8}
    (hlookup : (s.handler j).inputQueue ∈ table.getDestinations ((s.identity i).routingKey msgType)) :
    ∃ session, Granted g inputs session ∧ session.Connects (s.identity i) (s.identity j) msgType := by
  obtain ⟨pre, hpre, rfl⟩ := h.tables table htable
  obtain ⟨pre', input, session, hpre', hinstalls⟩ := route_approved g pre hlookup
  obtain ⟨hgranted, hends⟩ := hinstalls.granted hpre'
  have hwf : Bridge.WellFormed (Run.run next (init g) inputs) := reachable_wellFormed ⟨g, inputs, rfl⟩
  obtain ⟨worker, hworker, hqueue⟩ := h.workers j
  -- the queue is the worker's own, so its handler is the one of the gateway
  have howner : ∀ c, IsQueueOf (Run.run next (init g) pre).transportHandlers c (s.handler j).inputQueue →
      c = (s.identity j).componentId := by
    rintro c ⟨handler, hc, hq⟩
    obtain ⟨post, rfl⟩ := hpre
    rw [Run.run_append] at hwf hworker
    obtain ⟨handler', hc', hq'⟩ := handlers_grow_run post _ c handler hc
    exact hwf.queueInj _ _ _ _ hc' hworker (by rw [hq', ← hq, hqueue])
  refine ⟨session, hgranted.mono hpre, ?_⟩
  rcases hends with ⟨⟨parts, type, hparts, htype, hkey⟩, hq⟩ | ⟨⟨parts, type, hparts, htype, hkey⟩, hq⟩
  · obtain ⟨rfl, rfl⟩ := parts_of_routingKey hgranted.vhcValid hparts (h.inRange i) hkey
    exact .inl ⟨hparts, htype, howner _ hq⟩
  · obtain ⟨rfl, rfl⟩ := parts_of_routingKey hgranted.mecValid hparts (h.inRange i) hkey
    exact .inr ⟨hparts, htype, howner _ hq⟩

end DataPlane

end EdgeOffloading
