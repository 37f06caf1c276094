import EvDashboard.NatsConnection

/-!
# The connection recovers

Whatever errors and closes have happened, the connection is never stuck: the pending timer
creates a client, a client that has not connected may connect, and one that was disconnected
may reconnect. The client that is listened to is then connected, and holds the two
subscriptions, each once, because it emits `connect` only once.
-/

namespace EvDashboard.NatsConnection

/-- The seven events listened to, in the order in which `_connect` attaches the listeners. -/
def attached : List NatsEvent :=
  [.error, .connect, .disconnect, .reconnecting, .reconnect, .close, .permissionError]

/-- A client holds the two subscriptions exactly if it has emitted `connect`; and as long as
it is listened to, it is open and listened to for everything. -/
structure Client.Tidy (client : Client) : Prop where
  subscribed : client.subscriptions = if client.connectEmitted then subjects else []
  listened : client.listeners ≠ [] → client.closed = false ∧ client.listeners = attached

/-- All clients are tidy. -/
def Tidy (nats : Connection) : Prop :=
  ∀ (client : Nat) (state : Client), nats.clients[client]? = some state → state.Tidy

/-- The stored client after it has emitted an event and the listener has run. -/
def Client.after (client : Client) : NatsEvent → Client
  | .error => (client.reports .error).shutDown
  | .close => (client.reports .close).shutDown
  | .connect => (client.reports .connect).subscribe
  | event => client.reports event

/-- A client that emits an event it is listened to for stays tidy. -/
theorem Client.Tidy.after {client : Client} (tidy : client.Tidy) {event : NatsEvent}
    (once : event = .connect → client.connectEmitted = false) : (client.after event).Tidy := by
  obtain ⟨subscribed, listened⟩ := tidy
  cases event with
  | error => exact ⟨subscribed, fun some => absurd rfl some⟩
  | close => exact ⟨subscribed, fun some => absurd rfl some⟩
  | connect =>
    refine ⟨?_, listened⟩
    rw [once rfl] at subscribed
    exact congrArg (· ++ subjects) subscribed
  | disconnect | reconnecting | reconnect | permissionError => exact ⟨subscribed, listened⟩

/-- An event of the stored client changes that client only. -/
theorem emit_clients {nats : Connection} {client : Nat} (stored : nats.natsClient = some client)
    (event : NatsEvent) :
    (handle client
      { nats with clients := nats.clients.modify client (·.reports event) } event).clients =
      nats.clients.modify client (·.after event) := by
  cases event with
  | error | close =>
    simp only [handle, reconnect, updateStored, stored, List.modify_modify_eq]
    rfl
  | connect =>
    simp only [handle, createSubscriptions, updateStored, stored, List.modify_modify_eq]
    rfl
  | disconnect | reconnecting | reconnect | permissionError => rfl

/-- What a step of an emitting client needs, and what it does. -/
theorem emit_cases {nats next : Connection} {client : Nat} {event : NatsEvent}
    (stepped : step nats (.emit client event) = some next) :
    ∃ emitter, nats.clients[client]? = some emitter ∧ event ∈ emitter.listeners ∧
      (event = .connect → emitter.connectEmitted = false) ∧
      next = handle client
        { nats with clients := nats.clients.modify client (·.reports event) } event := by
  simp only [step] at stepped
  split at stepped
  · cases stepped
  · next emitter located =>
    split at stepped
    · cases stepped
    · next enabled =>
      obtain ⟨listened, fresh⟩ := not_or.mp enabled
      refine ⟨emitter, located, Classical.not_not.mp listened, ?_,
        (Option.some.inj stepped).symm⟩
      exact fun same => Bool.eq_false_iff.mpr (fun emitted => fresh ⟨same, emitted⟩)

/-- Every step keeps all clients tidy. -/
theorem step_tidy {nats next : Connection} {event : Event} (sound : Sound nats)
    (tidy : Tidy nats) (stepped : step nats event = some next) : Tidy next := by
  cases event with
  | emit client event =>
    obtain ⟨emitter, located, listened, once, rfl⟩ := emit_cases stepped
    obtain ⟨stored, _, _⟩ := sound.listened ⟨emitter, located, List.ne_nil_of_mem listened⟩
    intro other state there
    rw [emit_clients stored] at there
    rcases modify_located there with ⟨rfl, old, before, rfl⟩ | ⟨_, before⟩
    · obtain rfl := Option.some.inj (before.symm.trans located)
      exact (tidy other old before).after once
    · exact tidy other state before
  | fire =>
    simp only [step] at stepped
    split at stepped
    · cases stepped
    · obtain rfl := Option.some.inj stepped
      intro other state there
      simp only [connect] at there
      rcases List.mem_append.mp (List.mem_of_getElem? there) with earlier | last
      · obtain ⟨position, before⟩ := List.mem_iff_getElem?.mp earlier
        exact tidy position state before
      · obtain rfl := List.mem_singleton.mp last
        exact ⟨rfl, fun _ => ⟨rfl, rfl⟩⟩

/-- The first client is tidy. -/
theorem started_tidy : Tidy started := by
  intro client state located
  cases client with
  | zero =>
    obtain rfl := Option.some.inj located
    exact ⟨rfl, fun _ => ⟨rfl, rfl⟩⟩
  | succ client => cases located

/-- Every connection that is reached is sound and tidy. -/
theorem ran_tidy {events : List Event} {nats : Connection}
    (ran : Transition.run step started events = some nats) : Sound nats ∧ Tidy nats := by
  refine Transition.run_invariant (fun nats => Sound nats ∧ Tidy nats) ?_
    ⟨started_sound, started_tidy⟩ ran
  intro nats event next both stepped
  exact ⟨step_sound nats event next both.1 stepped, step_tidy both.1 both.2 stepped⟩

/-- No event changes which client is stored. -/
theorem handle_stored (emitter : Nat) (nats : Connection) (event : NatsEvent) :
    (handle emitter nats event).natsClient = nats.natsClient := by
  cases event with
  | error | close | connect =>
    simp only [handle, reconnect, createSubscriptions, updateStored]
    split <;> rfl
  | disconnect | reconnecting | reconnect | permissionError => rfl

/-- A message is received if the stored client is connected, open and subscribed. -/
theorem receiver_some {nats : Connection} {client : Nat} {state : Client}
    (stored : nats.natsClient = some client) (located : nats.clients[client]? = some state)
    (connected : state.connected = true) (live : state.closed = false)
    (subscribed : state.subscriptions = subjects) : (receiver nats).isSome := by
  have some_ : state.subscriptions ≠ [] := by
    rw [subscribed]
    exact List.cons_ne_nil _ _
  simp only [receiver, stored, located, connected, live, Bool.not_false, Bool.and_self,
    decide_eq_true some_, if_true, Option.isSome_some]

/-- An event after which the stored client is connected, open and subscribed leaves the
connection receiving. -/
theorem emit_receives {nats : Connection} {client : Nat} {state : Client} {event : NatsEvent}
    (stored : nats.natsClient = some client) (located : nats.clients[client]? = some state)
    (listened : event ∈ state.listeners) (once : event = .connect → state.connectEmitted = false)
    (connected : (state.after event).connected = true)
    (live : (state.after event).closed = false)
    (subscribed : (state.after event).subscriptions = subjects) :
    ∃ next, step nats (.emit client event) = some next ∧ (receiver next).isSome := by
  refine ⟨handle client
    { nats with clients := nats.clients.modify client (·.reports event) } event, ?_, ?_⟩
  · have enabled : ¬ (event ∉ state.listeners ∨ event = .connect ∧ state.connectEmitted) := by
      rintro (absent | ⟨same, emitted⟩)
      · exact absent listened
      · rw [once same] at emitted
        cases emitted
    simp only [step, located, if_neg enabled]
  · have changed : (nats.clients.modify client (·.after event))[client]? =
        some (state.after event) := by
      simp [located]
    rw [← emit_clients stored event] at changed
    exact receiver_some ((handle_stored client _ event).trans stored) changed connected live
      subscribed

/-- A connection with a listened client is one event away from receiving, at most. -/
theorem attached_recovers {nats : Connection} (tidy : Tidy nats) (attached : Attached nats) :
    ∃ events next, events.length ≤ 1 ∧ Transition.run step nats events = some next ∧
      (receiver next).isSome := by
  obtain ⟨client, stored, only, _⟩ := attached
  obtain ⟨state, located, heard⟩ := (only client).mpr rfl
  obtain ⟨subscribed, listened⟩ := tidy client state located
  obtain ⟨live, all⟩ := listened heard
  cases emitted : state.connectEmitted with
  | false =>
    rw [emitted] at subscribed
    obtain ⟨next, stepped, receives⟩ := emit_receives stored located
      (show .connect ∈ state.listeners from all ▸ by decide) (fun _ => emitted) rfl live
      (congrArg (· ++ subjects) subscribed)
    exact ⟨[.emit client .connect], next, Nat.le_refl 1, Transition.run_step stepped rfl, receives⟩
  | true =>
    rw [emitted] at subscribed
    cases connected : state.connected with
    | true =>
      exact ⟨[], nats, Nat.zero_le 1, rfl, receiver_some stored located connected live subscribed⟩
    | false =>
      obtain ⟨next, stepped, receives⟩ := emit_receives stored located
        (show .reconnect ∈ state.listeners from all ▸ by decide) nofun rfl live subscribed
      exact ⟨[.emit client .reconnect], next, Nat.le_refl 1, Transition.run_step stepped rfl,
        receives⟩

/-- From wherever it is, the connection is at most two events away from receiving. -/
theorem recovers {nats : Connection} (sound : Sound nats) (tidy : Tidy nats) :
    ∃ events next, events.length ≤ 2 ∧ Transition.run step nats events = some next ∧
      (receiver next).isSome := by
  rcases sound.phase with attached | waiting
  · obtain ⟨events, next, short, ran, receives⟩ := attached_recovers tidy attached
    exact ⟨events, next, Nat.le_succ_of_le short, ran, receives⟩
  · have pending : nats.timers ≠ 0 := by
      rw [waiting.2]
      exact Nat.one_ne_zero
    have fired : step nats .fire = some (connect { nats with timers := nats.timers - 1 }) := by
      simp only [step, if_neg pending]
    have newest := sound.fire pending
    have attached : Attached (connect { nats with timers := nats.timers - 1 }) := by
      refine newest.phase.resolve_right fun again => ?_
      have idle : nats.timers - 1 = 1 := again.2
      rw [waiting.2] at idle
      cases idle
    obtain ⟨events, next, short, ran, receives⟩ :=
      attached_recovers (step_tidy sound tidy fired) attached
    exact ⟨.fire :: events, next, Nat.succ_le_succ short, Transition.run_step fired ran, receives⟩

end EvDashboard.NatsConnection
