import EdgeOffloading.Bridge.Header
import EdgeOffloading.Lib.Multimap

/-!
# The routing table

Destination queues by routing key. A key without entry and a key with an empty list of queues are the same here: the
code creates an entry only to append to it.
-/

namespace EdgeOffloading

/-- The identity of an input queue (`shared_ptr<MPSCQueueType>`). -/
abbrev QueueId := Nat

structure RoutingTable where
  actualMap : RoutingKey → List QueueId

namespace RoutingTable

def empty : RoutingTable := ⟨fun _ => []⟩

def getDestinations (t : RoutingTable) (key : RoutingKey) : List QueueId := t.actualMap key

/-- Append a queue; a null queue is ignored. -/
def addRoute (t : RoutingTable) (key : RoutingKey) : Option QueueId → RoutingTable
  | none => t
  | some q => ⟨Multimap.push t.actualMap key q⟩

def removeRoutesForKey (t : RoutingTable) (key : RoutingKey) : RoutingTable := ⟨Multimap.clear t.actualMap key⟩

/-- One route after the other. -/
def addRoutes (t : RoutingTable) (routes : List (RoutingKey × QueueId)) : RoutingTable :=
  ⟨Multimap.pushAll t.actualMap routes⟩

theorem addRoutes_append (t : RoutingTable) (rs rs' : List (RoutingKey × QueueId)) :
    t.addRoutes (rs ++ rs') = (t.addRoutes rs).addRoutes rs' := by
  unfold addRoutes
  rw [Multimap.pushAll_append]

/-- The loops of the control plane: one key for each message type, all to the same queue. -/
theorem foldl_addRoute (key : UInt8 → RoutingKey) (q : QueueId) (types : List UInt8) (t : RoutingTable) :
    types.foldl (fun t msgType => t.addRoute (key msgType) (some q)) t =
      t.addRoutes (types.map fun msgType => (key msgType, q)) := by
  induction types generalizing t with
  | nil => rfl
  | cons msgType types ih =>
      rw [List.foldl_cons, ih]
      rfl

theorem getDestinations_addRoutes (t : RoutingTable) (rs : List (RoutingKey × QueueId)) (k : RoutingKey) :
    (t.addRoutes rs).getDestinations k = t.getDestinations k ++ (rs.filter fun p => p.1 = k).map Prod.snd :=
  Multimap.pushAll_apply t.actualMap rs k

theorem mem_addRoutes (t : RoutingTable) (rs : List (RoutingKey × QueueId)) (k : RoutingKey) (q : QueueId) :
    q ∈ (t.addRoutes rs).getDestinations k ↔ q ∈ t.getDestinations k ∨ (k, q) ∈ rs :=
  Multimap.mem_pushAll t.actualMap rs k q

/-- No key lists a queue twice. -/
def NoDuplicates (t : RoutingTable) : Prop := ∀ k, (t.getDestinations k).Nodup

theorem noDuplicates_addRoutes {t : RoutingTable} (ht : t.NoDuplicates) (rs : List (RoutingKey × QueueId)) :
    (t.addRoutes rs).NoDuplicates ↔ rs.Nodup ∧ ∀ r ∈ rs, r.2 ∉ t.getDestinations r.1 :=
  Multimap.nodup_pushAll t.actualMap ht rs

end RoutingTable

end EdgeOffloading
