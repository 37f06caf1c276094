import EvDashboard.Delivery
import EvDashboard.Process

/-!
# The process with its connection

A message reaches the process through the NATS client that listens when it is sent, and is
delivered while that client is open. The process here is the code itself, the connection is
that of the connection object, and both take their steps in any order. All external calls
succeed, and the messages are those of issued claims only; requests, messages of another form
and calls that fail come with the service in operation, of which this is a part.

The delivery machine describes the same system with control states in place of code. Each of
the two takes the steps of the other: they reach the same connections, documents, messages
and publications, and come to rest in the same states. What is proved about the delivery of
claims is therefore proved about the code with its connection.
-/

namespace EvDashboard.Reception

open Async JavaScript Exchange Process

/-- The connection beside the process. -/
structure State where
  nats : NatsConnection.Connection
  process : Process.State

variable (setting : Setting)

/-- Just after the first part of `init`: the connection object has called `_connect`. -/
def State.started (accepted : List Issue) (documents : Documents) : State :=
  ⟨NatsConnection.started, Process.State.started setting accepted documents⟩

/-- A claim is accepted, and its message is sent to the client that is listening. -/
def issue (claim : Issue) (state : State) : State :=
  let accepted := { state.process with accepted := state.process.accepted ++ [claim] }
  match NatsConnection.receiver state.nats with
  | some client => { state with process := { accepted with
      announced := accepted.announced ++ [claim]
      bus := accepted.bus ++ [⟨client, claim⟩] } }
  | none => { state with process := accepted }

/-- The steps of the connection, of the issuers, of the messages and of the process. No call
fails, and no messages are sent but those of issued claims. -/
inductive Step : State → State → Prop where
  | nats (state : State) (event : NatsConnection.Event) (next : NatsConnection.Connection)
      (stepped : NatsConnection.step state.nats event = some next) :
      Step state { state with nats := next }
  | issue (state : State) (claim : Issue) (issued : Issued setting claim)
      (fresh : claim ∉ state.process.accepted) : Step state (issue claim state)
  | deliver (state : State) (position : Nat) (letter : Letter)
      (located : state.process.bus[position]? = some letter)
      (live : Delivery.isOpen state.nats letter.client = true) :
      Step state { state with process := { state.process with
        bus := state.process.bus.eraseIdx position
        handlers := state.process.handlers ++
          [setting.client.handle (setting.message letter.issue)] } }
  | lose (state : State) (position : Nat) (letter : Letter)
      (located : state.process.bus[position]? = some letter)
      (closed : Delivery.isOpen state.nats letter.client = false) :
      Step state { state with process := { state.process with
        bus := state.process.bus.eraseIdx position } }
  | sweep (state : State) (sweep : Awaiting PUnit) (documents : Documents)
      (answered : Answered setting state.process state.process.sweep sweep documents) :
      Step state { state with process := { state.process with
        documents := documents
        sweep := sweep
        calls := state.process.calls ++ invocation setting sweep } }
  | handler (state : State) (position : Nat) (program next : Awaiting Unit)
      (documents : Documents) (located : state.process.handlers[position]? = some program)
      (answered : Answered setting state.process program next documents) :
      Step state { state with process := { state.process with
        documents := documents
        handlers := state.process.handlers.modify position (fun _ => next)
        calls := state.process.calls ++ invocation setting next } }

/-- The states that the process and its connection come to. -/
inductive Reached (start : State) : State → Prop where
  | start : Reached start start
  | step (state next : State) (earlier : Reached start state) (stepped : Step setting state next) :
      Reached start next

/-- The sweep and all handlers have returned, a connected client is listening, and no message
is in flight. -/
def Quiescent (state : State) : Prop :=
  state.process.sweep.settled = some (.ok ⟨⟩) ∧ (NatsConnection.receiver state.nats).isSome ∧
    state.process.bus = [] ∧ ∀ handler ∈ state.process.handlers, handler.settled = some (.ok ())

/-- The connection is the same, and the process matches the machine. -/
structure Matches (state : State) (machine : Delivery.State) : Prop where
  nats : state.nats = machine.nats
  process : Process.Matches setting state.process machine.exchange

/-- All that can be seen from outside is the same, and both are at rest or neither is. -/
structure Observed (state : State) (machine : Delivery.State) : Prop where
  nats : state.nats = machine.nats
  accepted : state.process.accepted = machine.exchange.accepted
  announced : state.process.announced = machine.exchange.announced
  bus : state.process.bus = machine.exchange.bus
  documents : state.process.documents = machine.exchange.documents
  calls : state.process.calls =
    machine.exchange.calls.map (fun issue => (issue.subject, issue.id))
  quiescent : Quiescent state ↔ Delivery.Quiescent machine

variable {setting} {state next : State} {machine following : Delivery.State}

/-- The sweep has returned where the machine says it is finished. -/
theorem sweepAt_settled {program : Awaiting PUnit} {sweep : SweepState}
    (at_ : SweepAt setting program sweep) :
    program.settled = some (.ok ⟨⟩) ↔ sweep = .finished := by
  cases at_ with
  | gettingSigners => exact ⟨nofun, nofun⟩
  | creating stage wallet rest =>
    cases stage <;> exact ⟨nofun, nofun⟩
  | readingClaims wallet rest =>
    exact ⟨nofun, nofun⟩
  | readingDocument wallet rest claims issued =>
    exact ⟨nofun, nofun⟩
  | publishing wallet rest document claim claims issued =>
    exact ⟨nofun, nofun⟩
  | finished => exact ⟨fun _ => rfl, fun _ => rfl⟩

/-- A handler has returned where the machine says it is finished. -/
theorem handlerAt_settled {program : Awaiting Unit} {handler : Handler}
    (at_ : HandlerAt setting program handler) :
    program.settled = some (.ok ()) ↔ handler.state = .finished := by
  cases at_ with
  | gettingSigner issue issued => exact ⟨nofun, nofun⟩
  | creating stage wallet issue issued own =>
    cases stage <;> exact ⟨nofun, nofun⟩
  | publishing wallet issue issued own =>
    exact ⟨nofun, nofun⟩
  | finished issue => exact ⟨fun _ => rfl, fun _ => rfl⟩

/-- The handlers have returned where the machine says they are finished. -/
theorem handlers_settled {process : Process.State} {exchange : Exchange.State}
    (matched : Process.Matches setting process exchange) :
    (∀ handler ∈ process.handlers, handler.settled = some (.ok ())) ↔
      ∀ handler ∈ exchange.handlers, handler.state = .finished := by
  constructor
  · intro returned handler member
    obtain ⟨position, located⟩ := List.mem_iff_getElem?.mp member
    obtain ⟨program, there, at_⟩ := matched.code_at located
    exact (handlerAt_settled at_).mp (returned program (List.mem_of_getElem? there))
  · intro finished program member
    obtain ⟨position, located⟩ := List.mem_iff_getElem?.mp member
    obtain ⟨handler, there, at_⟩ := matched.handler_at located
    exact (handlerAt_settled at_).mpr (finished handler (List.mem_of_getElem? there))

/-- Matching states look the same. -/
theorem Matches.observed (matched : Matches setting state machine) : Observed state machine where
  nats := matched.nats
  accepted := matched.process.accepted
  announced := matched.process.announced
  bus := matched.process.bus
  documents := matched.process.documents
  calls := matched.process.calls
  quiescent := by
    unfold Quiescent Delivery.Quiescent
    rw [sweepAt_settled matched.process.sweep, handlers_settled matched.process, matched.nats,
      matched.process.bus]

/-- An effect that leaves the claims and the messages alone is one of the process. -/
theorem effect_own {stored : List String} {exchange other : Exchange.State} {event : Event}
    (effect : Effect stored exchange event other) (accepted : other.accepted = exchange.accepted)
    (announced : other.announced = exchange.announced) (bus : other.bus = exchange.bus) :
    event.ofProcess = true := by
  cases effect with
  | accepted issue fresh =>
    exact absurd (congrArg List.length accepted) (by simp [Exchange.accept])
  | announced client issue known unsent =>
    exact absurd (congrArg List.length announced) (by simp [Exchange.announce])
  | lost position inside =>
    have shorter := congrArg List.length bus
    simp only [Exchange.lose, List.length_eraseIdx_of_lt inside] at shorter
    omega
  | delivered position letter located =>
    obtain ⟨inside, _⟩ := List.getElem?_eq_some_iff.mp located
    have shorter := congrArg List.length bus
    simp only [Exchange.deliver, List.length_eraseIdx_of_lt inside] at shorter
    omega
  | _ => rfl

/-- A claim is issued in both. -/
theorem Matches.issue (matched : Matches setting state machine) {claim : Issue}
    (issued : Issued setting claim) :
    Matches setting (issue claim state) (Delivery.issue claim machine) := by
  have accepted := matched.process.accept issued
  unfold Reception.issue Delivery.issue
  rw [matched.nats]
  cases NatsConnection.receiver machine.nats with
  | none => exact ⟨rfl, accepted⟩
  | some client =>
    exact ⟨rfl, accepted.announce client
      (List.mem_append_right _ (List.mem_singleton_self claim))⟩

/-- An effect of the process is a step of the delivery machine. -/
theorem own_step {stored : List String} {event : Event} {exchange : Exchange.State}
    (own : event.ofProcess = true) (effect : Effect stored machine.exchange event exchange) :
    Delivery.step stored machine (.process event) =
      some { machine with exchange := exchange } := by
  simp only [Delivery.step, own, if_true, effect.step, Option.map_some]

/-- Each step of the code with its connection is one of the machine. -/
theorem step_simulated (matched : Matches setting state machine)
    (stepped : Step setting state next) :
    ∃ event following, Delivery.step setting.stored machine event = some following ∧
      Matches setting next following := by
  cases stepped with
  | nats event nats stepped =>
    refine ⟨.nats event, { machine with nats := nats }, ?_, rfl, matched.process⟩
    rw [matched.nats] at stepped
    simp only [Delivery.step, stepped, Option.map_some]
  | issue claim issued fresh =>
    rw [matched.process.accepted] at fresh
    exact ⟨.issue claim, Delivery.issue claim machine, if_neg fresh, matched.issue issued⟩
  | deliver position letter located live =>
    rw [matched.process.bus] at located
    rw [matched.nats] at live
    refine ⟨.deliver position, { machine with
      exchange := Exchange.deliver position letter machine.exchange }, ?_, matched.nats,
      matched.process.deliver located⟩
    simp only [Delivery.step, located, live, if_true]
  | lose position letter located closed =>
    rw [matched.process.bus] at located
    rw [matched.nats] at closed
    refine ⟨.lose position, { machine with
      exchange := Exchange.lose position machine.exchange }, ?_, matched.nats,
      matched.process.lose position⟩
    simp only [Delivery.step, located, closed, Bool.false_eq_true, if_false]
  | sweep program documents answered =>
    obtain ⟨event, exchange, effect, still⟩ := sweep_simulated matched.process answered
    have own : event.ofProcess = true := effect_own effect
      (still.accepted.symm.trans matched.process.accepted)
      (still.announced.symm.trans matched.process.announced)
      (still.bus.symm.trans matched.process.bus)
    exact ⟨_, _, own_step own effect, matched.nats, still⟩
  | handler position program next documents located answered =>
    obtain ⟨event, exchange, effect, still⟩ :=
      handler_simulated matched.process located answered
    have own : event.ofProcess = true := effect_own effect
      (still.accepted.symm.trans matched.process.accepted)
      (still.announced.symm.trans matched.process.announced)
      (still.bus.symm.trans matched.process.bus)
    exact ⟨_, _, own_step own effect, matched.nats, still⟩

/-- Each effect of the process is a step of the code. -/
theorem own_realised (matched : Matches setting state machine) {event : Event}
    (own : event.ofProcess = true) {exchange : Exchange.State}
    (effect : Effect setting.stored machine.exchange event exchange) :
    ∃ next, Step setting state next ∧
      Matches setting next { machine with exchange := exchange } := by
  have swept (sweeps : ofSweep event = true) : ∃ next, Step setting state next ∧
      Matches setting next { machine with exchange := exchange } := by
    obtain ⟨program, documents, answered, still⟩ :=
      sweep_realised matched.process sweeps effect
    exact ⟨_, .sweep state program documents answered, matched.nats, still⟩
  have handled (position : Nat) (handles : ofHandler position event = true) :
      ∃ next, Step setting state next ∧
        Matches setting next { machine with exchange := exchange } := by
    obtain ⟨code, program, documents, located, answered, still⟩ :=
      handler_realised matched.process handles effect
    exact ⟨_, .handler state position code program documents located answered, matched.nats,
      still⟩
  cases event with
  | accept issue => cases own
  | announce client issue => cases own
  | lose position => cases own
  | deliver position => cases own
  | sweep => exact swept rfl
  | sweepClaims claims => exact swept rfl
  | sweepPublished endpoint => exact swept rfl
  | handler position => exact handled position (decide_eq_true rfl)
  | handlerPublished position endpoint => exact handled position (decide_eq_true rfl)

/-- Each step of the machine is one of the code with its connection. -/
theorem step_realised (matched : Matches setting state machine) {event : Delivery.Event}
    (issued : ∀ claim, event = .issue claim → Issued setting claim)
    (stepped : Delivery.step setting.stored machine event = some following) :
    ∃ next, Step setting state next ∧ Matches setting next following := by
  cases event with
  | nats event =>
    obtain ⟨nats, taken, rfl⟩ := Option.map_eq_some_iff.mp stepped
    exact ⟨_, .nats state event nats (matched.nats ▸ taken), rfl, matched.process⟩
  | issue claim =>
    simp only [Delivery.step] at stepped
    split at stepped
    · cases stepped
    · next fresh =>
      obtain rfl := Option.some.inj stepped
      have known := issued claim rfl
      exact ⟨_, .issue state claim known (matched.process.accepted ▸ fresh),
        matched.issue known⟩
  | deliver position =>
    simp only [Delivery.step] at stepped
    split at stepped
    · next letter located =>
      split at stepped
      · next live =>
        obtain rfl := Option.some.inj stepped
        exact ⟨_, .deliver state position letter (matched.process.bus ▸ located)
          (matched.nats ▸ live), matched.nats, matched.process.deliver located⟩
      · cases stepped
    · cases stepped
  | lose position =>
    simp only [Delivery.step] at stepped
    split at stepped
    · next letter located =>
      split at stepped
      · cases stepped
      · next closed =>
        obtain rfl := Option.some.inj stepped
        exact ⟨_, .lose state position letter (matched.process.bus ▸ located)
          (matched.nats ▸ Bool.eq_false_iff.mpr closed), matched.nats,
          matched.process.lose position⟩
    · cases stepped
  | process event =>
    simp only [Delivery.step] at stepped
    split at stepped
    · next own =>
      obtain ⟨exchange, taken, rfl⟩ := Option.map_eq_some_iff.mp stepped
      exact own_realised matched own (step_effect taken)
    · cases stepped

/-- When `init` has just been called, the two match. -/
theorem started_matches {accepted : List Issue} (documents : Documents)
    (issued : ∀ issue ∈ accepted, Issued setting issue) :
    Matches setting (State.started setting accepted documents)
      (Delivery.State.started accepted documents) :=
  ⟨rfl, Process.started_matches documents issued⟩

/-- Every state that the code comes to is matched at the end of a run of the machine. -/
theorem reached_simulated {start : State} {first : Delivery.State}
    (matched : Matches setting start first) (reached : Reached setting start state) :
    ∃ events final, Transition.run (Delivery.step setting.stored) first events = some final ∧
      Matches setting state final := by
  induction reached with
  | start => exact ⟨[], first, rfl, matched⟩
  | step state next earlier stepped inductionHypothesis =>
    obtain ⟨events, final, ran, still⟩ := inductionHypothesis
    obtain ⟨event, following, taken, further⟩ := step_simulated still stepped
    exact ⟨events ++ [event], following, Transition.run_snoc ran taken, further⟩

/-- Every run of the machine in which claims are issued as issuers do is one of the code. -/
theorem run_realised {start : State} {first final : Delivery.State}
    {events : List Delivery.Event} (reached : Reached setting start state)
    (matched : Matches setting state first)
    (issued : ∀ claim, .issue claim ∈ events → Issued setting claim)
    (ran : Transition.run (Delivery.step setting.stored) first events = some final) :
    ∃ last, Reached setting start last ∧ Matches setting last final := by
  induction events generalizing state first with
  | nil =>
    cases Option.some.inj ran
    exact ⟨state, reached, matched⟩
  | cons event events inductionHypothesis =>
    obtain ⟨middle, stepped, rest⟩ := Transition.run_cons ran
    obtain ⟨next, taken, still⟩ := step_realised matched
      (fun claim same => issued claim (same ▸ List.mem_cons_self)) stepped
    exact inductionHypothesis (.step state next reached taken) still
      (fun claim member => issued claim (List.mem_cons_of_mem _ member)) rest

/-- The code with its connection and the delivery machine reach the same states, as far as
anything outside can tell, and rest in the same, as long as calls succeed and the messages are
those of issued claims. -/
theorem runs_correspond (setting : Setting) (accepted : List Issue) (documents : Documents)
    (issued : ∀ issue ∈ accepted, Issued setting issue) :
    (∀ state, Reached setting (State.started setting accepted documents) state →
      ∃ events final, Transition.run (Delivery.step setting.stored)
        (Delivery.State.started accepted documents) events = some final ∧ Observed state final) ∧
    ∀ events final, (∀ claim, .issue claim ∈ events → Issued setting claim) →
      Transition.run (Delivery.step setting.stored) (Delivery.State.started accepted documents)
        events = some final →
      ∃ state, Reached setting (State.started setting accepted documents) state ∧
        Observed state final := by
  have first := started_matches documents issued
  constructor
  · intro state reached
    obtain ⟨events, final, ran, matched⟩ := reached_simulated first reached
    exact ⟨events, final, ran, matched.observed⟩
  · intro events final known ran
    obtain ⟨state, reached, matched⟩ := run_realised .start first known ran
    exact ⟨state, reached, matched.observed⟩

/-- A claim for the first of two stored keys. -/
def sampleClaim : Issue := ⟨Did.sweepDID .sample ⟨"a"⟩, "claim", some "token"⟩

/-- The client connects, the claim is issued, its message is handled, and the sweep passes
over both assets. -/
def deliveredEvents : List Delivery.Event :=
  [.nats (.emit 0 .connect), .issue sampleClaim, .deliver 0] ++
    List.replicate 4 (.process (.handler 0)) ++ [.process (.handlerPublished 0 "url")] ++
    List.replicate 4 (.process .sweep) ++ [.process (.sweepClaims [sampleClaim.claim])] ++
    List.replicate 4 (.process .sweep) ++ [.process (.sweepClaims []), .process .sweep]

/-- The code comes to rest with the claim in its document. -/
theorem claim_delivered : ∃ state,
    Reached sampleSetting (State.started sampleSetting [] (fun _ => ⟨[]⟩)) state ∧
      Quiescent state ∧
      state.process.documents.holds sampleClaim.subject sampleClaim.id = true := by
  have ran : ∃ final, Transition.run (Delivery.step sampleSetting.stored)
      (Delivery.State.started [] (fun _ => ⟨[]⟩)) deliveredEvents = some final ∧
      Delivery.Quiescent final ∧
      final.exchange.documents.holds sampleClaim.subject sampleClaim.id = true :=
    ⟨_, rfl, ⟨by decide, by decide, by decide, by decide⟩, by decide⟩
  obtain ⟨final, ran, quiescent, held⟩ := ran
  have issued (claim : Issue) (member : .issue claim ∈ deliveredEvents) :
      Issued sampleSetting claim := by
    have same : claim = sampleClaim := by
      simpa [deliveredEvents] using member
    exact same ▸ ⟨⟨⟨"a"⟩, rfl⟩, rfl, rfl⟩
  obtain ⟨state, reached, observed⟩ := (runs_correspond sampleSetting [] (fun _ => ⟨[]⟩)
    (fun _ member => absurd member List.not_mem_nil)).2 deliveredEvents final issued ran
  exact ⟨state, reached, observed.quiescent.mpr quiescent, observed.documents ▸ held⟩

end EvDashboard.Reception
