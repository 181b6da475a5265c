import EdgeOffloading.Lib.Run
import Mathlib.Data.List.Perm.Basic
import Mathlib.Logic.Function.Basic

/-!
# The disconnect callback of the TCP server

`TcpServerTransport` calls `disconnect_callback_` in the middle of the functions that close a client, and a callback may
call back into the server. A run is a list of `Call`s, made from outside while no callback is active and by the
innermost callback otherwise; `stack` holds the functions that wait for a callback to return.

The peer address of a client and the server socket are left out. The history of a run is kept beside the state: how
often each accepted client got the callback and was erased.

* `FiresOnce`: every client gets one callback and is erased once, through a valid entry, and a callback that holds a
  lock is not entered twice;
* `firesOnce_of_along`: it holds all along a run in which no callback disconnects what is already being disconnected.
-/

namespace EdgeOffloading

/-- An entry of `clients_`, with the number of the accept that made it. -/
structure ClientEntry where
  id : Nat
  client : Nat
  deriving DecidableEq, Repr

/-- A function that has called the disconnect callback, or a loop around such functions. -/
inductive Activation where
  /-- Closes and erases the entry when the callback returns. -/
  | closing (entry : ClientEntry)
  /-- `accept_new_connections` in single-client mode: clears the map and stores the new client. -/
  | replacing (entry : ClientEntry)
  /-- The loop of `disconnect` with the ids that are left. -/
  | disconnecting (ids : List Nat)
  deriving DecidableEq, Repr

/-- The functions that callbacks do not call. -/
def Activation.FromOutside : Activation → Prop
  | closing _ => False
  | _ => True

/-- The entry whose callback is active. -/
def Activation.entry : Activation → Option ClientEntry
  | closing entry => some entry
  | replacing entry => some entry
  | disconnecting _ => none

/-- What `recv` says about a client. -/
inductive RecvResult where
  | data
  /-- The peer has closed the connection. -/
  | closed
  | wouldBlock
  | failed
  deriving DecidableEq, Repr

structure TcpServerTransport where
  multiClientMode : Bool
  maxClients : Nat
  /-- The disconnect callback holds a lock while it calls back, as `handle_mgwcp_disconnection` does. -/
  callbackLocks : Bool
  running : Bool := false
  clients : List ClientEntry := []
  stack : List Activation := []
  accepted : Nat := 0
  callbacks : Nat → Nat := fun _ => 0
  erased : Nat → Nat := fun _ => 0
  /-- An iterator to an erased entry has been used. -/
  invalidEntry : Bool := false
  /-- The callback has been entered while an activation of it held its lock. -/
  reentered : Bool := false

namespace TcpServerTransport

variable (s : TcpServerTransport)

/-- `DEFAULT_CLIENT`. -/
def defaultClient : Nat := 0

def find (id : Nat) : Option ClientEntry := s.clients.find? fun e => e.id = id

def isClientConnected (id : Nat) : Bool := (s.find id).isSome

/-- The entries whose callback is active, innermost first. -/
def pending : List ClientEntry := s.stack.filterMap Activation.entry

/-- Call the disconnect callback for the entry of an activation. -/
def invokeCallback (entry : ClientEntry) (activation : Activation) : TcpServerTransport :=
  { s with
    stack := activation :: s.stack
    callbacks := Function.update s.callbacks entry.client (s.callbacks entry.client + 1)
    reentered := s.callbackLocks && !s.pending.isEmpty }

/-- The way the functions below close a client: look it up, call back, then close and erase. -/
def closeClient (id : Nat) : TcpServerTransport :=
  match s.find id with
  | none => s
  | some entry => s.invokeCallback entry (.closing entry)

def disconnectClient (id : Nat) : TcpServerTransport := s.closeClient id

def handleClientData (id : Nat) (result : RecvResult) : TcpServerTransport :=
  if result = .closed ∨ result = .failed then s.closeClient id else s

/-- A failed `recv` is reported and the client kept. -/
def receiveFrom (id : Nat) (result : RecvResult) : TcpServerTransport :=
  if result = .closed then s.closeClient id else s

def dataAvailableFrom (id : Nat) (result : RecvResult) : TcpServerTransport :=
  if result = .closed ∨ result = .failed then s.closeClient id else s

/-- Store a new client. -/
def store (id : Nat) : TcpServerTransport :=
  { s with clients := ⟨id, s.accepted⟩ :: s.clients, accepted := s.accepted + 1 }

/-- `accept_new_connections` with the new socket `fd`. -/
def acceptNewConnections (fd : Nat) : TcpServerTransport :=
  if s.multiClientMode then
    if 0 < s.maxClients ∧ s.maxClients ≤ s.clients.length then s else s.store fd
  else
    -- a loop over the clients, but there is one at most (`Inv.single`)
    match s.clients with
    | [] => s.store defaultClient
    | entry :: _ => s.invokeCallback entry (.replacing entry)

/-- The loop of `disconnect` over the copied ids, up to the next callback. -/
def disconnectClients : List Nat → TcpServerTransport
  | [] => s
  | id :: ids =>
    match s.find id with
    | none => disconnectClients ids
    | some entry => { s with stack := .disconnecting ids :: s.stack }.invokeCallback entry (.closing entry)

/-- `disconnect`, where `ids` are the keys in the order of the map. -/
def disconnect (ids : List Nat) : TcpServerTransport :=
  if s.running then { s with running := false }.disconnectClients ids else s

/-- Back in the loop of `disconnect`, if there is one. -/
def resume : TcpServerTransport :=
  match s.stack with
  | .disconnecting ids :: stack => { s with stack := stack }.disconnectClients ids
  | _ => s

/-- Close the socket of the entry and erase it. -/
def eraseEntry (entry : ClientEntry) : TcpServerTransport :=
  { s with
    clients := s.clients.erase entry
    erased := Function.update s.erased entry.client (s.erased entry.client + 1) }

/-- The innermost callback returns to the function that called it. -/
def callbackReturn : TcpServerTransport :=
  match s.stack with
  | .closing entry :: stack =>
    if entry ∈ s.clients then ({ s with stack := stack }.eraseEntry entry).resume else { s with invalidEntry := true }
  | .replacing entry :: stack =>
    if entry ∈ s.clients then { { s with stack := stack }.eraseEntry entry with clients := [] }.store defaultClient
    else { s with invalidEntry := true }
  | _ => s

inductive Call where
  | connect
  | accept (fd : Nat)
  | handleClientData (id : Nat) (result : RecvResult)
  | receiveFrom (id : Nat) (result : RecvResult)
  | dataAvailableFrom (id : Nat) (result : RecvResult)
  | isClientConnected (id : Nat)
  | disconnectClient (id : Nat)
  | disconnect (ids : List Nat)
  | callbackReturn

/-- One call. After the use of an erased entry, and after a lock is taken twice, nothing is known any more. The restart
of a running server is a `disconnect` and a `connect`. -/
def step (call : Call) : TcpServerTransport :=
  if s.invalidEntry || s.reentered then s
  else
    match call with
    | .disconnectClient id => s.disconnectClient id
    -- the order of the map is not specified
    | .disconnect ids => if ids.Perm (s.clients.map ClientEntry.id) then s.disconnect ids else s
    | .isClientConnected _ => s
    | .callbackReturn => s.callbackReturn
    -- the callbacks make no other calls
    | .connect => if s.stack = [] ∧ s.running = false then { s with running := true } else s
    -- `accept` returns a descriptor that is not open
    | .accept fd =>
      if s.stack = [] ∧ s.running ∧ (s.multiClientMode → s.find fd = none) then s.acceptNewConnections fd else s
    | .handleClientData id result => if s.stack = [] then s.handleClientData id result else s
    | .receiveFrom id result => if s.stack = [] then s.receiveFrom id result else s
    | .dataAvailableFrom id result => if s.stack = [] then s.dataAvailableFrom id result else s

def init (multiClientMode : Bool) (maxClients : Nat) (callbackLocks : Bool) : TcpServerTransport where
  multiClientMode := multiClientMode
  maxClients := maxClients
  callbackLocks := callbackLocks

/-! ## Firing once -/

/-- A client that is connected has not been erased, and has got the callback only if it is active; a client that is gone
has got one callback and was erased once. -/
def Once (c : Nat) : Prop :=
  (∃ e ∈ s.clients, e.client = c ∧ s.erased c = 0 ∧ s.callbacks c = if e ∈ s.pending then 1 else 0) ∨
    (∀ e ∈ s.clients, e.client ≠ c) ∧ s.erased c = 1 ∧ s.callbacks c = 1

structure FiresOnce : Prop where
  once : ∀ c, c < s.accepted → s.Once c
  valid : s.invalidEntry = false
  notReentered : s.reentered = false

/-- Inside a callback a client is disconnected only if its own callback is not active (and not at all if the callback
holds its lock), and the server only if it is not running. -/
def Allowed (s : TcpServerTransport) : Call → Prop
  | .disconnectClient id =>
    s.pending ≠ [] → ∀ e, s.find id = some e → e ∉ s.pending ∧ s.callbackLocks = false
  | .disconnect _ => s.pending ≠ [] → s.running = false
  | _ => True

/-- What holds in such a run, also while `disconnect` is between two clients. -/
structure Inv : Prop extends FiresOnce s where
  clientsNodup : (s.clients.map ClientEntry.client).Nodup
  clientLt : ∀ e ∈ s.clients, e.client < s.accepted
  single : s.multiClientMode = false → s.clients.length ≤ 1
  pendingMem : ∀ e ∈ s.pending, e ∈ s.clients
  pendingNodup : s.pending.Nodup
  outermost : ∀ a rest, a :: rest <:+ s.stack → a.FromOutside → rest = []
  replacing : ∀ e, Activation.replacing e ∈ s.stack → s.multiClientMode = false
  fresh : ∀ c, s.accepted ≤ c → s.callbacks c = 0 ∧ s.erased c = 0

/-- What holds between the calls. -/
structure Settled : Prop extends Inv s where
  top : ∀ ids rest, s.stack ≠ .disconnecting ids :: rest

theorem settled_init (multiClientMode : Bool) (maxClients : Nat) (callbackLocks : Bool) :
    Settled (init multiClientMode maxClients callbackLocks) where
  once c h := absurd h (Nat.not_lt_zero c)
  valid := rfl
  notReentered := rfl
  clientsNodup := List.nodup_nil
  clientLt e h := by cases h
  single _ := Nat.zero_le _
  pendingMem e h := by cases h
  pendingNodup := List.nodup_nil
  outermost a rest h := by cases List.suffix_nil.mp h
  replacing e h := by cases h
  fresh _ _ := ⟨rfl, rfl⟩
  top ids rest h := by cases h

variable {s}

theorem mem_of_find {id : Nat} {e : ClientEntry} (h : s.find id = some e) : e ∈ s.clients := List.mem_of_find?_eq_some h

theorem pending_cons {stack : List Activation} {a : Activation} (h : s.stack = a :: stack) :
    s.pending = a.entry.toList ++ { s with stack := stack }.pending := by
  unfold pending
  rw [h]
  cases ha : a.entry <;> simp [ha]

theorem Inv.eq_of_client (h : Inv s) {e e' : ClientEntry} (he : e ∈ s.clients) (he' : e' ∈ s.clients)
    (heq : e.client = e'.client) : e = e' :=
  List.inj_on_of_nodup_map h.clientsNodup he he' heq

theorem Inv.invokeCallback (h : Inv s) {e : ClientEntry} {a : Activation} (ha : a.entry = some e)
    (he : e ∈ s.clients) (hnew : e ∉ s.pending) (hlock : s.callbackLocks = true → s.pending = [])
    (hout : a.FromOutside → s.stack = [] ∧ s.multiClientMode = false) : Settled (s.invokeCallback e a) := by
  have hpending : (s.invokeCallback e a).pending = e :: s.pending := by
    rw [pending_cons (s := s.invokeCallback e a) (a := a) rfl, ha]
    rfl
  refine ⟨⟨⟨fun c hc => ?_, h.valid, ?_⟩, h.clientsNodup, h.clientLt, h.single, ?_, ?_, ?_, ?_, ?_⟩, ?_⟩
  · rcases h.once c hc with ⟨e', he', rfl, her, hcb⟩ | ⟨hgone, her, hcb⟩
    · refine Or.inl ⟨e', he', rfl, her, ?_⟩
      show Function.update s.callbacks e.client (s.callbacks e.client + 1) e'.client = _
      rw [hpending, Function.update_apply]
      by_cases hee : e' = e
      · subst hee
        rw [if_pos rfl, hcb, if_neg hnew, if_pos List.mem_cons_self]
      · rw [if_neg fun heq => hee (h.eq_of_client he' he heq), hcb]
        simp [hee]
    · refine Or.inr ⟨hgone, her, ?_⟩
      show Function.update s.callbacks e.client (s.callbacks e.client + 1) c = _
      rw [Function.update_apply, if_neg (hgone e he).symm, hcb]
  · show (s.callbackLocks && !s.pending.isEmpty) = false
    cases hl : s.callbackLocks with
    | false => rfl
    | true => rw [hlock hl]; rfl
  · rw [hpending]
    intro e' he'
    rcases List.mem_cons.mp he' with rfl | he'
    · exact he
    · exact h.pendingMem e' he'
  · rw [hpending]
    exact List.nodup_cons.mpr ⟨hnew, h.pendingNodup⟩
  · intro a' rest hsuffix ha'
    rcases List.suffix_cons_iff.mp hsuffix with heq | hsuffix
    · cases heq
      exact (hout ha').1
    · exact h.outermost a' rest hsuffix ha'
  · intro e' he'
    rcases List.mem_cons.mp he' with rfl | he'
    · exact (hout trivial).2
    · exact h.replacing e' he'
  · intro c hc
    have hne : c ≠ e.client := fun heq => absurd (h.clientLt e he) (Nat.not_lt.mpr (heq ▸ hc))
    refine ⟨?_, (h.fresh c hc).2⟩
    show Function.update s.callbacks e.client (s.callbacks e.client + 1) c = 0
    rw [Function.update_apply, if_neg hne, (h.fresh c hc).1]
  · intro ids rest heq
    cases heq
    cases ha

theorem Inv.eraseEntry (h : Inv s) {e : ClientEntry} {a : Activation} {stack : List Activation}
    (hstack : s.stack = a :: stack) (ha : a.entry = some e) : Inv ({ s with stack := stack }.eraseEntry e) := by
  have hpending : s.pending = e :: { s with stack := stack }.pending := by
    rw [pending_cons hstack, ha]
    rfl
  have he : e ∈ s.clients := h.pendingMem e (by rw [hpending]; exact List.mem_cons_self)
  obtain ⟨hnot, hnodup⟩ := List.nodup_cons.mp (hpending ▸ h.pendingNodup)
  have hmem : ∀ e', e' ∈ s.clients.erase e ↔ e' ≠ e ∧ e' ∈ s.clients := fun e' =>
    (List.Nodup.of_map _ h.clientsNodup).mem_erase_iff
  refine ⟨⟨fun c hc => ?_, h.valid, h.notReentered⟩, ?_, ?_, ?_, ?_, hnodup, ?_, ?_, ?_⟩
  · by_cases hce : c = e.client
    · subst hce
      refine Or.inr ⟨fun e' he' heq => ?_, ?_⟩
      · obtain ⟨hne, he'⟩ := (hmem e').mp he'
        exact hne (h.eq_of_client he' he heq)
      · rcases h.once e.client hc with ⟨e', he', heq, her, hcb⟩ | ⟨hgone, -, -⟩
        · cases h.eq_of_client he' he heq
          rw [hpending, if_pos List.mem_cons_self] at hcb
          refine ⟨?_, hcb⟩
          show Function.update s.erased e.client (s.erased e.client + 1) e.client = 1
          rw [Function.update_self, her]
        · exact absurd rfl (hgone e he)
    · have her : ({ s with stack := stack }.eraseEntry e).erased c = s.erased c := Function.update_of_ne hce _ _
      rcases h.once c hc with ⟨e', he', rfl, her', hcb⟩ | ⟨hgone, her', hcb⟩
      · have hne : e' ≠ e := fun heq => hce (congrArg ClientEntry.client heq)
        refine Or.inl ⟨e', (hmem e').mpr ⟨hne, he'⟩, rfl, her.trans her', hcb.trans ?_⟩
        rw [hpending]
        simp only [List.mem_cons, hne, false_or]
        rfl
      · exact Or.inr ⟨fun e' he' => hgone e' ((hmem e').mp he').2, her.trans her', hcb⟩
  · exact h.clientsNodup.sublist (List.erase_sublist.map _)
  · exact fun e' he' => h.clientLt e' ((hmem e').mp he').2
  · exact fun hmode => (List.erase_sublist.length_le).trans (h.single hmode)
  · intro e' he'
    refine (hmem e').mpr ⟨?_, h.pendingMem e' ?_⟩
    · rintro rfl
      exact hnot he'
    · rw [hpending]
      exact List.mem_cons_of_mem e he'
  · exact fun a' rest hsuffix => h.outermost a' rest (by rw [hstack]; exact hsuffix.trans (List.suffix_cons a stack))
  · exact fun e' he' => h.replacing e' (by rw [hstack]; exact List.mem_cons_of_mem a he')
  · intro c hc
    have hne : c ≠ e.client := fun heq => absurd (h.clientLt e he) (Nat.not_lt.mpr (heq ▸ hc))
    exact ⟨(h.fresh c hc).1, (Function.update_of_ne hne _ _).trans (h.fresh c hc).2⟩

theorem Inv.store (h : Inv s) {id : Nat} (hroom : s.multiClientMode = true ∨ s.clients = []) : Inv (s.store id) := by
  refine ⟨⟨fun c hc => ?_, h.valid, h.notReentered⟩, ?_, ?_, ?_, ?_, h.pendingNodup, h.outermost, h.replacing, ?_⟩
  · rcases Nat.lt_succ_iff_lt_or_eq.mp hc with hc | rfl
    · rcases h.once c hc with ⟨e, he, hec, hcounts⟩ | ⟨hgone, hcounts⟩
      · exact Or.inl ⟨e, List.mem_cons_of_mem _ he, hec, hcounts⟩
      · refine Or.inr ⟨fun e he => ?_, hcounts⟩
        rcases List.mem_cons.mp he with rfl | he
        · exact hc.ne'
        · exact hgone e he
    · refine Or.inl ⟨⟨id, s.accepted⟩, List.mem_cons_self, rfl, (h.fresh _ le_rfl).2, ?_⟩
      rw [if_neg]
      · exact (h.fresh _ le_rfl).1
      · exact fun hp => absurd (h.clientLt _ (h.pendingMem _ hp)) (Nat.lt_irrefl _)
  · refine List.nodup_cons.mpr ⟨fun hmem => ?_, h.clientsNodup⟩
    obtain ⟨e, he, heq⟩ := List.mem_map.mp hmem
    exact absurd (h.clientLt e he) (by rw [heq]; exact Nat.lt_irrefl _)
  · intro e he
    rcases List.mem_cons.mp he with rfl | he
    · exact Nat.lt_succ_self _
    · exact Nat.lt_succ_of_lt (h.clientLt e he)
  · intro hmode
    rcases hroom with hmulti | hnil
    · exact absurd (hmode.symm.trans hmulti) (by decide)
    · show (_ :: s.clients).length ≤ 1
      rw [hnil]
      exact le_rfl
  · exact fun e he => List.mem_cons_of_mem _ (h.pendingMem e he)
  · exact fun c hc => h.fresh c (Nat.le_of_succ_le hc)

theorem Inv.restack (h : Inv s) {stack : List Activation} (hp : { s with stack := stack }.pending = s.pending)
    (hout : ∀ a rest, a :: rest <:+ stack → a.FromOutside → rest = [])
    (hrep : ∀ e, Activation.replacing e ∈ stack → s.multiClientMode = false) : Inv { s with stack := stack } := by
  refine ⟨⟨fun c hc => ?_, h.valid, h.notReentered⟩, h.clientsNodup, h.clientLt, h.single, ?_, ?_, hout, hrep, h.fresh⟩
  · rw [Once, hp]
    exact h.once c hc
  · rw [hp]
    exact h.pendingMem
  · rw [hp]
    exact h.pendingNodup

theorem Inv.disconnectClients (h : Inv s) (hstack : s.stack = []) (ids : List Nat) :
    Settled (s.disconnectClients ids) := by
  have hpending : s.pending = [] := by rw [pending, hstack]; rfl
  induction ids with
  | nil =>
      refine ⟨h, fun ids rest heq => ?_⟩
      rw [TcpServerTransport.disconnectClients, hstack] at heq
      cases heq
  | cons id ids ih =>
      unfold TcpServerTransport.disconnectClients
      cases hf : s.find id with
      | none => exact ih
      | some e =>
          have hnone : { s with stack := Activation.disconnecting ids :: s.stack }.pending = [] := hpending
          have hin : Inv { s with stack := .disconnecting ids :: s.stack } := by
            refine h.restack (hnone.trans hpending.symm) (fun a rest hsuffix ha => ?_) fun e' he' => ?_
            · rw [hstack] at hsuffix
              rcases List.suffix_cons_iff.mp hsuffix with heq | hsuffix
              · cases heq
                rfl
              · cases List.suffix_nil.mp hsuffix
            · rw [hstack] at he'
              cases List.mem_singleton.mp he'
          exact hin.invokeCallback rfl (mem_of_find hf) (by rw [hnone]; exact List.not_mem_nil) (fun _ => hnone)
            fun hout => hout.elim

theorem Inv.resume (h : Inv s) : Settled s.resume := by
  unfold TcpServerTransport.resume
  split
  · rename_i ids stack hstack
    have hnil : stack = [] := h.outermost (.disconnecting ids) stack (by rw [hstack]) trivial
    subst hnil
    refine Inv.disconnectClients (s := { s with stack := [] }) (h.restack ?_ ?_ ?_) rfl ids
    · rw [pending_cons hstack]
      rfl
    · intro a rest hsuffix
      cases List.suffix_nil.mp hsuffix
    · intro e he
      cases he
  · rename_i hnot
    exact ⟨h, hnot⟩

theorem clear_eq (h : s.clients = []) : { s with clients := [] } = s := by
  rw [← h]

theorem Settled.callbackReturn (h : Settled s) : Settled s.callbackReturn := by
  have hmem : ∀ {a stack e}, s.stack = a :: stack → a.entry = some e → e ∈ s.clients := fun hstack ha =>
    h.pendingMem _ (by rw [pending_cons hstack, ha]; exact List.mem_cons_self)
  unfold TcpServerTransport.callbackReturn
  split
  · rename_i e stack hstack
    rw [if_pos (hmem hstack rfl)]
    exact (h.toInv.eraseEntry hstack rfl).resume
  · rename_i e stack hstack
    have he := hmem hstack rfl
    have hnil : stack = [] := h.outermost (.replacing e) stack (by rw [hstack]) trivial
    -- the replaced client was the only one, so that the map is empty once it is erased
    have hempty : s.clients.erase e = [] := by
      have hone := h.single (h.replacing e (by rw [hstack]; exact List.mem_cons_self))
      obtain ⟨e', heq⟩ := List.length_eq_one_iff.mp (le_antisymm hone (List.length_pos_of_mem he))
      rw [heq] at he ⊢
      rw [List.mem_singleton.mp he, List.erase_cons_head]
    have herased := h.toInv.eraseEntry hstack rfl
    have hclear := clear_eq (s := { s with stack := stack }.eraseEntry e) hempty
    rw [if_pos he, hclear]
    refine ⟨herased.store (Or.inr hempty), fun ids rest heq => ?_⟩
    change stack = _ at heq
    rw [hnil] at heq
    cases heq
  · exact h

theorem Settled.closeClient (h : Settled s) {id : Nat}
    (hnew : ∀ e, s.find id = some e → e ∉ s.pending ∧ (s.callbackLocks = true → s.pending = [])) :
    Settled (s.closeClient id) := by
  unfold TcpServerTransport.closeClient
  split
  · exact h
  · rename_i e hf
    exact h.toInv.invokeCallback rfl (mem_of_find hf) (hnew e hf).1 (hnew e hf).2 fun hout => hout.elim

theorem Settled.disconnect (h : Settled s) {ids : List Nat} (hcall : s.pending ≠ [] → s.running = false) :
    Settled (s.disconnect ids) := by
  unfold TcpServerTransport.disconnect
  split_ifs with hrun
  · have hpending : s.pending = [] := by
      by_contra hp
      rw [hcall hp] at hrun
      cases hrun
    have hstack : s.stack = [] := by
      cases hs : s.stack with
      | nil => rfl
      | cons a rest =>
          cases a with
          | disconnecting ids => exact absurd hs (h.top ids rest)
          | closing e => rw [pending, hs] at hpending; cases hpending
          | replacing e => rw [pending, hs] at hpending; cases hpending
    refine Inv.disconnectClients (s := { s with running := false }) ?_ hstack ids
    exact ⟨⟨h.once, h.valid, h.notReentered⟩, h.clientsNodup, h.clientLt, h.single, h.pendingMem, h.pendingNodup,
      h.outermost, h.replacing, h.fresh⟩
  · exact h

theorem Settled.acceptNewConnections (h : Settled s) {fd : Nat} (hstack : s.stack = []) :
    Settled (s.acceptNewConnections fd) := by
  have hp : s.pending = [] := by rw [pending, hstack]; rfl
  unfold TcpServerTransport.acceptNewConnections
  split_ifs with hmulti hfull
  · exact h
  · exact ⟨h.toInv.store (Or.inl hmulti), h.top⟩
  · split
    · exact ⟨h.toInv.store (Or.inr (by assumption)), h.top⟩
    · rename_i e rest hclients
      exact h.toInv.invokeCallback rfl (by rw [hclients]; exact List.mem_cons_self)
        (by rw [hp]; exact List.not_mem_nil) (fun _ => hp) fun _ => ⟨hstack, by simpa using hmulti⟩

theorem Settled.step (h : Settled s) {call : Call} (hcall : Allowed s call) : Settled (s.step call) := by
  -- calls from outside find no active callback
  have hclose : s.stack = [] → ∀ id, Settled (s.closeClient id) := by
    intro hs id
    have hp : s.pending = [] := by rw [pending, hs]; rfl
    exact h.closeClient fun e _ => ⟨by rw [hp]; exact List.not_mem_nil, fun _ => hp⟩
  unfold TcpServerTransport.step
  rw [if_neg (by rw [h.valid, h.notReentered]; decide)]
  cases call with
  | connect =>
      dsimp only
      split_ifs
      · exact ⟨⟨⟨h.once, h.valid, h.notReentered⟩, h.clientsNodup, h.clientLt, h.single, h.pendingMem, h.pendingNodup,
          h.outermost, h.replacing, h.fresh⟩, h.top⟩
      · exact h
  | accept fd =>
      dsimp only
      split_ifs with hguard
      · exact h.acceptNewConnections hguard.1
      · exact h
  | handleClientData id result =>
      dsimp only [TcpServerTransport.handleClientData]
      split_ifs with hs
      · exact hclose hs id
      · exact h
      · exact h
  | receiveFrom id result =>
      dsimp only [TcpServerTransport.receiveFrom]
      split_ifs with hs
      · exact hclose hs id
      · exact h
      · exact h
  | dataAvailableFrom id result =>
      dsimp only [TcpServerTransport.dataAvailableFrom]
      split_ifs with hs
      · exact hclose hs id
      · exact h
      · exact h
  | isClientConnected id => exact h
  | disconnectClient id =>
      refine h.closeClient fun e hf => ?_
      by_cases hp : s.pending = []
      · exact ⟨by rw [hp]; exact List.not_mem_nil, fun _ => hp⟩
      · obtain ⟨hnew, hlock⟩ := hcall hp e hf
        exact ⟨hnew, fun hl => absurd (hlock.symm.trans hl) (by decide)⟩
  | disconnect ids =>
      dsimp only
      split_ifs
      · exact h.disconnect hcall
      · exact h
  | callbackReturn => exact h.callbackReturn

/-- **The callback fires once** for every client, all along a run in which no callback disconnects a client that is
already being disconnected. -/
theorem firesOnce_of_along (multiClientMode : Bool) (maxClients : Nat) (callbackLocks : Bool) (calls : List Call)
    (h : Run.Along step Allowed (init multiClientMode maxClients callbackLocks) calls) (pre : List Call)
    (hpre : pre <+: calls) : FiresOnce (Run.run step (init multiClientMode maxClients callbackLocks) pre) :=
  (Run.run_invariant_on_the_way step (I := Settled) (fun _ _ hs hc => hs.step hc)
    (settled_init multiClientMode maxClients callbackLocks) h pre hpre).toFiresOnce

/-- A callback that only asks whether its client is connected, then an orderly shutdown. -/
theorem firesOnce_sample :
    FiresOnce (Run.run step (init true 50 true) [.connect, .accept 4, .accept 5, .handleClientData 4 .closed,
      .isClientConnected 4, .callbackReturn, .disconnect [5], .callbackReturn]) := by
  refine firesOnce_of_along true 50 true _ ?_ _ (List.prefix_refl _)
  exact ⟨trivial, trivial, trivial, trivial, trivial, trivial, fun hp => absurd rfl hp, trivial, trivial⟩

/-- `MGWCPConnection::stop`, as `handle_mgwcp_disconnection` calls it under its lock, finds its client still connected
and disconnects it: the callback is entered again whenever a client with a connection is closed. -/
theorem reentered_of_stop {id : Nat} (hlock : s.callbackLocks = true) (h : s.isClientConnected id = true) :
    (s.closeClient id).isClientConnected id = true ∧ ((s.closeClient id).disconnectClient id).reentered = true := by
  obtain ⟨e, hf⟩ := Option.isSome_iff_exists.mp h
  have hclose : s.closeClient id = s.invokeCallback e (.closing e) := by
    rw [TcpServerTransport.closeClient, hf]
  have hf' : (s.closeClient id).find id = some e := by
    rw [hclose]
    exact hf
  refine ⟨by rw [TcpServerTransport.isClientConnected, hf']; rfl, ?_⟩
  rw [TcpServerTransport.disconnectClient, TcpServerTransport.closeClient, hf', hclose]
  show (s.callbackLocks && !(s.invokeCallback e (.closing e)).pending.isEmpty) = true
  rw [hlock, pending_cons (s := s.invokeCallback e (.closing e)) rfl]
  rfl

/-- A gateway hangs up and the callback stops its connection. -/
theorem not_firesOnce_of_stop :
    ¬ ∀ (multiClientMode : Bool) (maxClients : Nat) (callbackLocks : Bool) (calls : List Call),
      FiresOnce (Run.run step (init multiClientMode maxClients callbackLocks) calls) := by
  intro hall
  have h := (hall true 50 true
    [.connect, .accept 4, .handleClientData 4 .closed, .isClientConnected 4, .disconnectClient 4]).notReentered
  exact absurd h (by decide +kernel)

end TcpServerTransport

end EdgeOffloading
