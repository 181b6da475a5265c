import Mathlib.Tactic

/-!
# The TCP client of the data plane

`TcpClientTransport` opens one connection after the other; they are numbered, and `opened` is the number of the last
one. What the peer has sent on it and nobody has read waits in the socket and is lost when the socket is closed.
`select` is not interrupted by signals.

* `sendData`: a send that fails closes the socket and opens a new one, up to `maxRetries` times, and goes on there;
* `Renews`: what a call of the client can do to the connection: keep it, lose it, or put a later one in its place
  (`renews_sendData`).
-/

namespace EdgeOffloading

structure Socket where
  /-- Arrived and not read. -/
  arrived : List UInt8 := []
  /-- The peer has closed its side. -/
  peerClosed : Bool := false
  deriving DecidableEq, Repr

structure TcpClientTransport where
  maxRetries : Nat := 5
  socket : Option Socket := none
  opened : Nat := 0
  deriving DecidableEq, Repr

/-- What `recv` does: it fails, or it returns at most `more` bytes after the first. -/
inductive Recv where
  | fails
  | returns (more : Nat)
  deriving DecidableEq, Repr

/-- One round of the retry loop: the rest of the message goes out, and if not, whether `connect` succeeds. -/
structure SendAttempt where
  sent : Bool
  reconnected : Bool
  deriving DecidableEq, Repr

namespace TcpClientTransport

variable (c : TcpClientTransport)

def isConnected : Bool := c.socket.isSome

/-- An open socket is closed first. -/
def connect (success : Bool) : TcpClientTransport :=
  if success then { c with socket := some {}, opened := c.opened + 1 } else { c with socket := none }

def disconnect : TcpClientTransport := { c with socket := none }

/-- The socket is readable: there are bytes, or the peer has closed. -/
def dataAvailable : Bool :=
  match c.socket with
  | none => false
  | some s => !s.arrived.isEmpty || s.peerClosed

/-- `receive_data` into `maxSize` bytes; `none` where it returns -1. -/
def receiveData (maxSize : Nat) (recv : Recv) : TcpClientTransport × Option (List UInt8) :=
  match c.socket, recv with
  | none, _ => (c, none)
  | some _, .fails => (c.disconnect, none)
  | some s, .returns more =>
    -- the end of the stream is reported as an error
    if s.arrived = [] then (c.disconnect, none)
    else
      let count := min (more + 1) maxSize
      ({ c with socket := some { s with arrived := s.arrived.drop count } }, some (s.arrived.take count))

/-- The rounds `retry`, ..., `max_retries_` of the loop in `send_data`, as many as `rounds`. -/
def sendLoop (attempts : Nat → SendAttempt) : Nat → Nat → TcpClientTransport → TcpClientTransport × Bool
  | 0, _, c => (c, false)
  | rounds + 1, retry, c =>
    if c.isConnected && (attempts retry).sent then (c, true)
    else if rounds = 0 then (c.disconnect, false)
    else if (attempts retry).reconnected then sendLoop attempts rounds (retry + 1) (c.connect true)
    else if rounds = 1 then (c.disconnect, false)
    else sendLoop attempts rounds (retry + 1) c.disconnect

def sendData (attempts : Nat → SendAttempt) : TcpClientTransport × Bool :=
  if !c.isConnected then (c, false) else sendLoop attempts (c.maxRetries + 1) 0 c

/-! ## What can happen to the connection -/

/-- The connection is kept as it is or lost, or a later one has taken its place. -/
structure Renews (c c' : TcpClientTransport) : Prop where
  opened : c.opened ≤ c'.opened
  socket : c'.opened = c.opened → c'.socket = c.socket ∨ c'.socket = none
  later : c.opened < c'.opened → c'.socket = some {} ∨ c'.socket = none

theorem Renews.refl : Renews c c := ⟨le_rfl, fun _ => Or.inl rfl, fun h => absurd h (lt_irrefl _)⟩

theorem Renews.trans {c₁ c₂ c₃ : TcpClientTransport} (h : Renews c₁ c₂) (h' : Renews c₂ c₃) : Renews c₁ c₃ := by
  have h1 := h.opened
  have h2 := h'.opened
  refine ⟨by omega, fun heq => ?_, fun hlt => ?_⟩
  · rcases h'.socket (by omega) with hs | hs
    · rw [hs]
      exact h.socket (by omega)
    · exact Or.inr hs
  · by_cases hlater : c₂.opened < c₃.opened
    · exact h'.later hlater
    · rcases h'.socket (by omega) with hs | hs
      · rw [hs]
        exact h.later (by omega)
      · exact Or.inr hs

theorem renews_disconnect : Renews c c.disconnect :=
  ⟨le_rfl, fun _ => Or.inr rfl, fun h => absurd h (lt_irrefl _)⟩

theorem renews_connect (success : Bool) : Renews c (c.connect success) := by
  cases success with
  | false => exact renews_disconnect c
  | true =>
      refine ⟨Nat.le_succ _, fun h => ?_, fun _ => Or.inl rfl⟩
      exact absurd h (Nat.succ_ne_self _)

theorem renews_sendLoop (attempts : Nat → SendAttempt) (rounds retry : Nat) (c : TcpClientTransport) :
    Renews c (sendLoop attempts rounds retry c).1 := by
  induction rounds generalizing retry c with
  | zero => exact Renews.refl c
  | succ rounds ih =>
      unfold sendLoop
      split_ifs
      · exact Renews.refl c
      · exact renews_disconnect c
      · exact (renews_connect c true).trans (ih (retry + 1) _)
      · exact renews_disconnect c
      · exact (renews_disconnect c).trans (ih (retry + 1) _)

theorem renews_sendData (attempts : Nat → SendAttempt) : Renews c (c.sendData attempts).1 := by
  unfold sendData
  split_ifs
  · exact Renews.refl c
  · exact renews_sendLoop attempts _ 0 c

theorem isConnected_iff : c.isConnected = true ↔ ∃ s, c.socket = some s := Option.isSome_iff_exists

/-- What a successful `receive_data` does: it takes the first bytes off the socket, at least one if there is room. -/
theorem receiveData_some {c c' : TcpClientTransport} {maxSize : Nat} {recv : Recv} {chunk : List UInt8}
    (h : c.receiveData maxSize recv = (c', some chunk)) :
    ∃ s rest, c.socket = some s ∧ s.arrived = chunk ++ rest ∧ chunk.length ≤ maxSize ∧
      (0 < maxSize → chunk ≠ []) ∧ c' = { c with socket := some { s with arrived := rest } } := by
  unfold receiveData at h
  cases hs : c.socket with
  | none =>
      rw [hs] at h
      cases h
  | some s =>
      rw [hs] at h
      cases recv with
      | fails => cases h
      | returns more =>
          dsimp only at h
          split_ifs at h with hempty
          · cases h
          · obtain ⟨rfl, hchunk⟩ := Prod.mk.inj h
            obtain rfl := Option.some.inj hchunk
            refine ⟨s, _, rfl, (List.take_append_drop _ _).symm, ?_, fun hroom => ?_, rfl⟩
            · rw [List.length_take]
              omega
            · have hpos := List.length_pos_of_ne_nil hempty
              apply List.ne_nil_of_length_pos
              rw [List.length_take]
              omega

theorem receiveData_none {c c' : TcpClientTransport} {maxSize : Nat} {recv : Recv}
    (h : c.receiveData maxSize recv = (c', none)) : c' = c.disconnect := by
  unfold receiveData at h
  cases hs : c.socket with
  | none =>
      rw [hs] at h
      rw [← (Prod.mk.inj h).1, disconnect, ← hs]
  | some s =>
      rw [hs] at h
      cases recv with
      | fails => exact (Prod.mk.inj h).1.symm
      | returns more =>
          dsimp only at h
          split_ifs at h
          · exact (Prod.mk.inj h).1.symm
          · cases h

end TcpClientTransport

end EdgeOffloading
