import EvDashboard.Transition

/-!
# The NATS connection and its reconnections

The connection object stores one client in a mutable field and attaches seven
listeners to it. The error and the close listener both detach every listener
from the stored client, close it and set a timer; when the timer fires, a new
client is created, stored and given its own listeners. The connect listener
hands the stored client, not the emitting one, to the subscription callback.

A run starts with one connect call and then interleaves events, emitted only by
clients that still have a listener for them, with firings of pending timers. Two
fields record history and influence nothing: which client was handed over when
which client had connected, and whose events scheduled a reconnection.
-/

namespace EvDashboard.NatsConnection

/-- The events for which `_connect` attaches listeners. -/
inductive NatsEvent where
  | error
  | connect
  | disconnect
  | reconnecting
  | reconnect
  | close
  | permissionError
deriving DecidableEq

/-- A client of the NATS library: the events listened to, whether it has emitted
`connect`, whether its connection is up, and its subscriptions. -/
structure Client where
  listeners : List NatsEvent
  connectEmitted : Bool
  connected : Bool
  subscriptions : List String
  drained : Bool
  closed : Bool
deriving DecidableEq

/-- What `connect({ url })` returns: a client nobody listens to yet. -/
def Client.fresh : Client := ⟨[], false, false, [], false, false⟩

/-- `client.on(event, …)`. -/
def Client.on (client : Client) (event : NatsEvent) : Client :=
  { client with listeners := client.listeners ++ [event] }

/-- `removeAllListeners(); drain(); close()`, as `_reconnect` applies them. -/
def Client.shutDown (client : Client) : Client :=
  { client with listeners := [], drained := true, connected := false, closed := true }

/-- The change of the client itself that an event reports. -/
def Client.reports (client : Client) : NatsEvent → Client
  | .connect => { client with connectEmitted := true, connected := true }
  | .disconnect => { client with connected := false }
  | .reconnect => { client with connected := true }
  | .close => { client with connected := false, closed := true }
  | .error | .reconnecting | .permissionError => client

/-- The subjects the subscription callback subscribes to. -/
def subjects : List String := ["*.prequalification.exchange", "*.claim-exchange.*.*"]

/-- The two subscriptions of `_initVehiclePrequalificationListener`. -/
def Client.subscribe (client : Client) : Client :=
  { client with subscriptions := client.subscriptions ++ subjects }

/-- All clients ever created, by index; the field `_natsClient`; the pending
reconnect timers; and the two histories. -/
structure Connection where
  clients : List Client
  natsClient : Option Nat
  timers : Nat
  handed : List (Nat × Option Nat)
  scheduled : List Nat
deriving DecidableEq

def Connection.empty : Connection := ⟨[], none, 0, [], []⟩

/-- `_connect`: create and store a client, then attach the seven listeners. -/
def connect (nats : Connection) : Connection :=
  let client := [.error, .connect, .disconnect, .reconnecting, .reconnect, .close,
    .permissionError].foldl Client.on Client.fresh
  { nats with
    clients := nats.clients ++ [client]
    natsClient := some nats.clients.length }

/-- Apply a change to the stored client, if there is one. -/
def updateStored (change : Client → Client) (nats : Connection) : Connection :=
  match nats.natsClient with
  | none => nats
  | some stored => { nats with clients := nats.clients.modify stored change }

/-- `_reconnect`, on behalf of the client whose event called it. -/
def reconnect (emitter : Nat) (nats : Connection) : Connection :=
  let nats := updateStored Client.shutDown nats
  { nats with timers := nats.timers + 1, scheduled := nats.scheduled ++ [emitter] }

/-- `_createSubscriptions(this._natsClient)`. -/
def createSubscriptions (emitter : Nat) (nats : Connection) : Connection :=
  let nats := updateStored Client.subscribe nats
  { nats with handed := nats.handed ++ [(emitter, nats.natsClient)] }

/-- The listener of an event; four of the seven only log. -/
def handle (emitter : Nat) (nats : Connection) : NatsEvent → Connection
  | .error | .close => reconnect emitter nats
  | .connect => createSubscriptions emitter nats
  | .disconnect | .reconnecting | .reconnect | .permissionError => nats

/-- A client emits an event, or a pending reconnect timer fires. -/
inductive Event where
  | emit (client : Nat) (event : NatsEvent)
  | fire
deriving DecidableEq

/-- A client may emit what it is listened to for, and `connect` at most once.
A firing timer stores the client returned by `_connect` once more. -/
def step (nats : Connection) : Event → Option Connection
  | .emit client event =>
    match nats.clients[client]? with
    | none => none
    | some emitter =>
      if event ∉ emitter.listeners ∨ (event = .connect ∧ emitter.connectEmitted) then none
      else
        let nats := { nats with clients := nats.clients.modify client (·.reports event) }
        some (handle client nats event)
  | .fire =>
    if nats.timers = 0 then none else some (connect { nats with timers := nats.timers - 1 })

/-- The state after the first `_connect` call. -/
def started : Connection := connect Connection.empty

/-- The client that receives a message emitted now: the stored one, if its
connection is up and its subscriptions exist. -/
def receiver (nats : Connection) : Option Nat :=
  match nats.natsClient with
  | none => none
  | some stored => match nats.clients[stored]? with
    | none => none
    | some client =>
      if client.connected && !client.closed && client.subscriptions ≠ [] then some stored else none

/-- A client with at least one listener. -/
def Listened (nats : Connection) (client : Nat) : Prop :=
  ∃ state, nats.clients[client]? = some state ∧ state.listeners ≠ []

/-- Exactly one client is listened to, it is the stored one, and no timer runs. -/
def Attached (nats : Connection) : Prop :=
  ∃ stored, nats.natsClient = some stored ∧ (∀ client, Listened nats client ↔ client = stored) ∧
    nats.timers = 0

/-- No client is listened to and exactly one timer runs. -/
def Waiting (nats : Connection) : Prop :=
  (∀ client, ¬ Listened nats client) ∧ nats.timers = 1

/-- What every step preserves: the two phases, the closing of every abandoned
client, the handing over of the emitter, and at most one scheduling for each
client, all of them for clients abandoned since. -/
structure Sound (nats : Connection) : Prop where
  phase : Attached nats ∨ Waiting nats
  abandoned : ∀ (client : Nat) (state : Client), nats.clients[client]? = some state →
    state.listeners = [] →
    state.closed = true
  handed : ∀ entry ∈ nats.handed, entry.2 = some entry.1
  created : ∀ client ∈ nats.scheduled, client < nats.clients.length
  spent : ∀ client ∈ nats.scheduled, ¬ Listened nats client
  once : nats.scheduled.Nodup

/-- The clients after one of them changed: that one, or one as before. -/
theorem modify_located {clients : List Client} {client other : Nat} {change : Client → Client}
    {state : Client} (located : (clients.modify client change)[other]? = some state) :
    (other = client ∧ ∃ old, clients[client]? = some old ∧ state = change old) ∨
      (other ≠ client ∧ clients[other]? = some state) := by
  rw [List.getElem?_modify] at located
  obtain ⟨old, before, rfl⟩ := Option.map_eq_some_iff.mp located
  by_cases equal : client = other
  · subst equal
    exact Or.inl ⟨rfl, old, before, by simp⟩
  · exact Or.inr ⟨fun same => equal same.symm, by simpa [equal] using before⟩

/-- A client listened to is the stored one, and no timer runs. -/
theorem Sound.listened {nats : Connection} (sound : Sound nats) {client : Nat}
    (listened : Listened nats client) :
    nats.natsClient = some client ∧ (∀ other, Listened nats other ↔ other = client) ∧
      nats.timers = 0 := by
  rcases sound.phase with ⟨stored, field, only, idle⟩ | ⟨silent, _⟩
  · obtain rfl := (only client).mp listened
    exact ⟨field, only, idle⟩
  · exact absurd listened (silent client)

/-- A change that keeps a client's listeners changes nobody's. -/
theorem modify_listened {nats : Connection} {client : Nat} {change : Client → Client}
    (kept : ∀ state, (change state).listeners = state.listeners) (other : Nat) :
    Listened { nats with clients := nats.clients.modify client change } other ↔
      Listened nats other := by
  simp only [Listened, List.getElem?_modify]
  cases nats.clients[other]? with
  | none => simp
  | some state => by_cases equal : client = other <;> simp [equal, kept]

/-- A change of one client's own state that keeps its listeners, and closes it
or not, preserves soundness while the client is listened to. -/
theorem Sound.modify {nats : Connection} (sound : Sound nats) {client : Nat}
    (listened : Listened nats client) (change : Client → Client)
    (kept : ∀ state, (change state).listeners = state.listeners) :
    Sound { nats with clients := nats.clients.modify client change } := by
  have same (other : Nat) := @modify_listened nats client change kept other
  obtain ⟨field, only, idle⟩ := sound.listened listened
  refine ⟨Or.inl ⟨client, field, fun other => (same other).trans (only other), idle⟩, ?_,
    sound.handed, ?_, fun other member again => sound.spent other member ((same other).mp again),
    sound.once⟩
  · intro other state located empty
    rcases modify_located located with ⟨rfl, old, before, rfl⟩ | ⟨_, before⟩
    · obtain ⟨known, present, attached⟩ := listened
      obtain rfl : old = known := Option.some.inj (before.symm.trans present)
      exact absurd ((kept old).symm.trans empty) attached
    · exact sound.abandoned other state before empty
  · intro other member
    simpa only [List.length_modify] using sound.created other member

/-- The connect listener hands over the emitter, since it is the stored client. -/
theorem Sound.createSubscriptions {nats : Connection} (sound : Sound nats) {client : Nat}
    (listened : Listened nats client) : Sound (createSubscriptions client nats) := by
  obtain ⟨field, _, _⟩ := sound.listened listened
  have subscribed := sound.modify listened Client.subscribe (fun _ => rfl)
  have given : NatsConnection.createSubscriptions client nats =
      { nats with
        clients := nats.clients.modify client Client.subscribe
        handed := nats.handed ++ [(client, some client)] } := by
    simp only [NatsConnection.createSubscriptions, updateStored, field]
  rw [given]
  refine ⟨subscribed.phase, subscribed.abandoned, ?_, subscribed.created, subscribed.spent,
    subscribed.once⟩
  intro entry member
  rcases List.mem_append.mp member with earlier | last
  · exact sound.handed entry earlier
  · obtain rfl := List.mem_singleton.mp last
    rfl

/-- `_reconnect` abandons the stored client, which is the emitter, and leaves one
timer and no listener. -/
theorem Sound.reconnect {nats : Connection} (sound : Sound nats) {client : Nat}
    (listened : Listened nats client) : Sound (reconnect client nats) := by
  obtain ⟨field, only, idle⟩ := sound.listened listened
  simp only [NatsConnection.reconnect, updateStored, field]
  have silent (other : Nat) (state : Client)
      (located : (nats.clients.modify client Client.shutDown)[other]? = some state) :
      state.listeners = [] ∧ state.closed = true := by
    rcases modify_located located with ⟨rfl, old, before, rfl⟩ | ⟨different, before⟩
    · exact ⟨rfl, rfl⟩
    · have detached : state.listeners = [] := by
        by_cases empty : state.listeners = []
        · exact empty
        · exact absurd ((only other).mp ⟨state, before, empty⟩) different
      exact ⟨detached, sound.abandoned other state before detached⟩
  have none (other : Nat) (again : ∃ state,
      (nats.clients.modify client Client.shutDown)[other]? = some state ∧ state.listeners ≠ []) :
      False := by
    obtain ⟨state, located, attached⟩ := again
    exact attached (silent other state located).1
  refine ⟨Or.inr ⟨none, by simp [idle]⟩,
    fun other state located _ => (silent other state located).2, sound.handed, ?_,
    fun other _ => none other, ?_⟩
  · intro other member
    simp only [List.length_modify]
    rcases List.mem_append.mp member with earlier | last
    · exact sound.created other earlier
    · obtain rfl := List.mem_singleton.mp last
      obtain ⟨state, located, _⟩ := listened
      exact (List.getElem?_eq_some_iff.mp located).1
  · apply List.nodup_append.mpr
    refine ⟨sound.once, by simp, ?_⟩
    intro earlier member last present equal
    obtain rfl := List.mem_singleton.mp present
    exact sound.spent earlier member (equal ▸ listened)

/-- A firing timer ends the waiting phase with a fresh client as the only one
listened to. -/
theorem Sound.fire {nats : Connection} (sound : Sound nats) (pending : nats.timers ≠ 0) :
    Sound (connect { nats with timers := nats.timers - 1 }) := by
  have waiting : Waiting nats := by
    rcases sound.phase with ⟨stored, field, only, idle⟩ | waiting
    · exact absurd idle pending
    · exact waiting
  have newest (client : Nat) :
      Listened (connect { nats with timers := nats.timers - 1 }) client ↔
        client = nats.clients.length := by
    simp only [Listened, connect, List.getElem?_append]
    by_cases old : client < nats.clients.length
    · simp only [old, ↓reduceIte]
      exact ⟨fun listened => absurd listened (waiting.1 client), fun equal => by omega⟩
    · by_cases equal : client = nats.clients.length
      · subst equal
        simp [Client.on]
      · simp only [old, ↓reduceIte, equal, iff_false]
        rintro ⟨state, located, _⟩
        obtain ⟨inside, _⟩ := List.getElem?_eq_some_iff.mp located
        simp only [List.length_singleton] at inside
        omega
  refine ⟨Or.inl ⟨nats.clients.length, rfl, newest, by simp [connect, waiting.2]⟩, ?_, sound.handed,
    ?_, ?_, sound.once⟩
  · intro client state located empty
    by_cases old : client < nats.clients.length
    · simp only [connect, List.getElem?_append, old, ↓reduceIte] at located
      exact sound.abandoned client state located empty
    · obtain ⟨inside, _⟩ := List.getElem?_eq_some_iff.mp located
      simp only [connect, List.length_append, List.length_singleton] at inside
      obtain rfl : client = nats.clients.length := by omega
      obtain ⟨other, present, attached⟩ := (newest nats.clients.length).mpr rfl
      obtain rfl : state = other := Option.some.inj (located.symm.trans present)
      exact absurd empty attached
  · intro client member
    have before : client < nats.clients.length := sound.created client member
    simp only [connect, List.length_append, List.length_singleton]
    omega
  · intro client member again
    have before : client < nats.clients.length := sound.created client member
    have equal : client = nats.clients.length := (newest client).mp again
    omega

/-- What an event reports of a client leaves its listeners alone. -/
theorem reports_listeners (event : NatsEvent) (state : Client) :
    (state.reports event).listeners = state.listeners := by
  cases event <;> rfl

/-- An event of a client listened to: its own change is followed by the listener's. -/
theorem Sound.emit {nats : Connection} (sound : Sound nats) {client : Nat}
    (listened : Listened nats client) (event : NatsEvent) :
    Sound (handle client
      { nats with clients := nats.clients.modify client (·.reports event) } event) := by
  have changed := sound.modify listened (·.reports event) (reports_listeners event)
  have still := (@modify_listened nats client _ (reports_listeners event) client).mpr listened
  cases event with
  | error => exact changed.reconnect still
  | close => exact changed.reconnect still
  | connect => exact changed.createSubscriptions still
  | disconnect => exact changed
  | reconnecting => exact changed
  | reconnect => exact changed
  | permissionError => exact changed

/-- Every enabled event preserves soundness. An emitter has a listener, so it is
the stored client. -/
theorem step_sound (nats : Connection) (event : Event) (next : Connection) (sound : Sound nats)
    (stepped : step nats event = some next) : Sound next := by
  cases event with
  | emit client event =>
    simp only [step] at stepped
    split at stepped
    · cases stepped
    · next emitter located =>
      split at stepped
      · cases stepped
      · next enabled =>
        obtain rfl := Option.some.inj stepped
        have present : event ∈ emitter.listeners := Classical.byContradiction
          (fun absent => enabled (Or.inl absent))
        exact sound.emit ⟨emitter, located, List.ne_nil_of_mem present⟩ event
  | fire =>
    simp only [step] at stepped
    split at stepped
    · cases stepped
    · next pending =>
      obtain rfl := Option.some.inj stepped
      exact sound.fire pending

/-- The first `_connect` call establishes soundness: it is a firing without an
earlier client. -/
theorem started_sound : Sound started := by
  have newest (client : Nat) : Listened started client ↔ client = 0 := by
    cases client with
    | zero => exact ⟨fun _ => rfl, fun _ => ⟨_, rfl, by decide⟩⟩
    | succ client =>
      constructor
      · rintro ⟨state, located, _⟩
        cases located
      · intro equal
        omega
  refine ⟨Or.inl ⟨0, rfl, newest, rfl⟩, ?_, by simp [started, connect, Connection.empty],
    by simp [started, connect, Connection.empty], by simp [started, connect, Connection.empty],
    by simp [started, connect, Connection.empty]⟩
  intro client state located empty
  cases client with
  | zero =>
    obtain rfl := Option.some.inj located
    exact absurd empty (by decide)
  | succ client => cases located

/-- In every reachable state of a connection either exactly one client is
listened to, it is the stored one and no timer is pending, or no client is
listened to and one timer is pending, and never both. Among the clients that
are not closed at most one holds subscriptions; the subscription callback was
always given the client that emitted `connect`; and no client's events ever
scheduled a second reconnection. -/
theorem connection_invariant (events : List Event) (nats : Connection)
    (ran : Transition.run step started events = some nats) :
    ((Attached nats ∨ Waiting nats) ∧ ¬ (Attached nats ∧ Waiting nats)) ∧
    (∀ (first second : Nat) (left right : Client), nats.clients[first]? = some left →
      nats.clients[second]? = some right → left.closed = false → right.closed = false →
      left.subscriptions ≠ [] → right.subscriptions ≠ [] → first = second) ∧
    (∀ entry ∈ nats.handed, entry.2 = some entry.1) ∧
    nats.scheduled.Nodup := by
  have sound : Sound nats := Transition.run_invariant Sound step_sound started_sound ran
  have current (client : Nat) (state : Client) (located : nats.clients[client]? = some state)
      (live : state.closed = false) : nats.natsClient = some client := by
    have attached : state.listeners ≠ [] := by
      intro empty
      have closed : state.closed = true := sound.abandoned client state located empty
      rw [closed] at live
      cases live
    exact (sound.listened ⟨state, located, attached⟩).1
  refine ⟨⟨sound.phase, ?_⟩, ?_, sound.handed, sound.once⟩
  · rintro ⟨⟨stored, _, _, idle⟩, _, pending⟩
    omega
  · intro first second left right leftLocated rightLocated leftLive rightLive _ _
    exact Option.some.inj ((current first left leftLocated leftLive).symm.trans
      (current second right rightLocated rightLive))

/-- An error, the timer, a connect of the second client and its close: one
reconnection for each client, and the second client was handed over. -/
theorem two_failures_reconnect :
    ∃ nats, Transition.run step started
        [.emit 0 .error, .fire, .emit 1 .connect, .emit 1 .close] = some nats ∧
      nats.scheduled = [0, 1] ∧ nats.handed = [(1, some 1)] ∧ Waiting nats ∧
      nats.scheduled.Nodup := by
  refine ⟨_, rfl, by decide, by decide, ?_, ?_⟩
  · have invariant := connection_invariant
      [.emit 0 .error, .fire, .emit 1 .connect, .emit 1 .close] _ rfl
    rcases invariant.1.1 with ⟨_, _, _, idle⟩ | waiting
    · exact absurd idle (by decide)
    · exact waiting
  · exact (connection_invariant
      [.emit 0 .error, .fire, .emit 1 .connect, .emit 1 .close] _ rfl).2.2.2

end EvDashboard.NatsConnection
