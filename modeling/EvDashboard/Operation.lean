import EvDashboard.Actions
import EvDashboard.Async.Termination
import EvDashboard.Reception
import EvDashboard.Recovery

/-!
# The service in operation

Everything that can happen to one process of the service: events of its connection, messages
of any kind and form, and answers or failures of the calls that its sweep and its handlers
await. Keys are generated, claims accepted and documents extended beside it. A message goes
to the client that listens when it is sent, if there is one, and is delivered while that client
is open. A program that is rejected ends, and the others go on. The process with its connection
is the part of this in which all calls succeed and only the messages of issued claims are sent.

Left to itself, the process cannot go on forever, and where it cannot go on each of its programs
has returned or was rejected and no message is in flight. A delivery takes a message and starts a
program, and a call that ends makes a program smaller, so that the messages in flight come first
in what decreases and the programs second. A connection that was lost meanwhile is two events
away.
-/

namespace EvDashboard.Operation

open Async JavaScript
open Async.Pool (Tasks programs unsettled_step)
open Actions (Setting Request World served Moves)

/-- A message on its way to a client. -/
structure Envelope where
  client : Nat
  message : Message
deriving DecidableEq

/-- The connection, the world outside, the messages in flight, and what is left of the sweep
and of the handler of each delivered message. -/
structure State where
  nats : NatsConnection.Connection
  world : World
  flying : List Envelope
  tasks : Tasks Call Call.Answer Exception Request Unit

inductive Event where
  | nats (event : NatsConnection.Event)
  | outside
  | sent (message : Message)
  | delivered (envelope : Envelope)
  | lost (envelope : Envelope)
  | served

/-- What the process does when it is left to itself: not the events of the connection, of the
world outside and of those who send messages. -/
def Event.own : Event → Bool
  | delivered _ | lost _ | served => true
  | _ => false

section Steps

variable (setting : Setting) (client : PrequalificationClient)

/-- A program begins with what it was started for. -/
def begin (request : Request) : Request × Awaiting Unit := (request, request.perform setting)

/-- Just after the first part of `init`: the connection object has called `_connect`. -/
def State.started (world : World) : State :=
  ⟨NatsConnection.started, world, [], [begin setting (.init client)]⟩

/-- A message is sent to the client that is listening. -/
def State.send (state : State) (message : Message) : State :=
  match NatsConnection.receiver state.nats with
  | some listening => { state with flying := state.flying ++ [⟨listening, message⟩] }
  | none => state

/-- The steps of the process and of what surrounds it. Any call that is awaited may be answered
or fail, and what fails may have taken effect. -/
inductive Step : State → Event → State → Prop where
  | nats (state : State) (event : NatsConnection.Event) (next : NatsConnection.Connection)
      (stepped : NatsConnection.step state.nats event = some next) :
      Step state (.nats event) { state with nats := next }
  | outside (state : State) (next : World) (move : Moves setting state.world next) :
      Step state .outside { state with world := next }
  | sent (state : State) (message : Message) : Step state (.sent message) (state.send message)
  | delivered (state : State) (position : Nat) (envelope : Envelope)
      (located : state.flying[position]? = some envelope)
      (live : Delivery.isOpen state.nats envelope.client = true) :
      Step state (.delivered envelope) { state with
        flying := state.flying.eraseIdx position
        tasks := state.tasks ++ [begin setting (.message client envelope.message)] }
  | lost (state : State) (position : Nat) (envelope : Envelope)
      (located : state.flying[position]? = some envelope)
      (closed : Delivery.isOpen state.nats envelope.client = false) :
      Step state (.lost envelope) { state with flying := state.flying.eraseIdx position }
  | served (state : State) (tasks : Tasks Call Call.Answer Exception Request Unit) (next : World)
      (step : Pool.Step (fun _ => served setting) (fun _ _ => False) state.tasks state.world tasks
        next) :
      Step state .served { state with world := next, tasks := tasks }

/-- The states that the process comes to. -/
inductive Reached (start : State) : State → Prop where
  | start : Reached start start
  | step (state next : State) (event : Event) (earlier : Reached start state)
      (stepped : Step setting client state event next) : Reached start next

/-- A step that the process takes when it is left to itself. -/
def Own (state next : State) : Prop :=
  ∃ event, event.own = true ∧ Step setting client state event next

/-- No message is in flight, and the sweep and all handlers have returned or were rejected. -/
def Rested (state : State) : Prop :=
  state.flying = [] ∧ ∀ task ∈ state.tasks, task.2.settled ≠ none

/-- What every step of the process decreases. -/
def State.remaining (state : State) : Nat × Multiset (Awaiting Unit) :=
  (state.flying.length, programs state.tasks)

/-- Fewer messages, or as many and smaller programs. -/
def Closer : Nat × Multiset (Awaiting Unit) → Nat × Multiset (Awaiting Unit) → Prop :=
  Prod.Lex (· < ·) (Relation.CutExpand Program.Continues)

theorem closer_wellFounded : WellFounded Closer :=
  WellFounded.prod_lex Nat.lt_wfRel.wf Program.continues_wellFounded.cutExpand

variable {setting client} {state next : State}

/-- Left to itself, the process takes a message from those in flight, or one of its programs
takes a step. The connection stays as it is. -/
theorem own_cases (own : Own setting client state next) :
    (∃ position envelope, state.flying[position]? = some envelope ∧
      next.flying = state.flying.eraseIdx position ∧ next.nats = state.nats) ∨
    ∃ tasks world, Pool.Step (fun _ => served setting) (fun _ _ => False) state.tasks state.world
      tasks world ∧ next = { state with world := world, tasks := tasks } := by
  obtain ⟨event, mine, stepped⟩ := own
  cases stepped with
  | nats event next stepped => cases mine
  | outside next move => cases mine
  | sent message => cases mine
  | delivered position envelope located live =>
    exact Or.inl ⟨position, envelope, located, rfl, rfl⟩
  | lost position envelope located closed =>
    exact Or.inl ⟨position, envelope, located, rfl, rfl⟩
  | served tasks world step => exact Or.inr ⟨tasks, world, step, rfl⟩

/-- With a message less the process is closer to rest. -/
theorem taken_closer {position : Nat} {envelope : Envelope}
    (located : state.flying[position]? = some envelope)
    (taken : next.flying = state.flying.eraseIdx position) :
    Closer next.remaining state.remaining := by
  obtain ⟨inside, _⟩ := List.getElem?_eq_some_iff.mp located
  refine Prod.Lex.left _ _ ?_
  rw [taken, List.length_eraseIdx_of_lt inside]
  omega

/-- Every step of the process brings it closer to rest. -/
theorem own_closer (own : Own setting client state next) :
    Closer next.remaining state.remaining := by
  obtain ⟨position, envelope, located, taken, _⟩ | ⟨tasks, world, step, rfl⟩ := own_cases own
  · exact taken_closer located taken
  · exact Prod.Lex.right _ step.continues

/-- The process cannot take steps forever. -/
theorem own_wellFounded (setting : Setting) (client : PrequalificationClient) :
    WellFounded (fun next state => Own setting client state next) :=
  Subrelation.wf own_closer (InvImage.wf State.remaining closer_wellFounded)

/-- A call that is awaited ends in some way; it may always fail. -/
theorem served_responds (setting : Setting) (world : World) (call : Call) :
    ∃ outcome next, served setting world call outcome next := by
  refine ⟨.error .typeError, world, ?_⟩
  exact Or.inl rfl

/-- A message in flight is delivered or lost. -/
theorem envelope_moves {envelope : Envelope} (located : state.flying[0]? = some envelope) :
    ∃ next, Own setting client state next := by
  cases live : Delivery.isOpen state.nats envelope.client with
  | true => exact ⟨_, _, rfl, .delivered state 0 envelope located live⟩
  | false => exact ⟨_, _, rfl, .lost state 0 envelope located live⟩

/-- The process can take a step exactly if it is not at rest. -/
theorem stuck_iff_rested : (∀ next, ¬ Own setting client state next) ↔ Rested state := by
  constructor
  · intro stuck
    refine ⟨?_, ?_⟩
    · rcases flying : state.flying with _ | ⟨envelope, others⟩
      · rfl
      · obtain ⟨next, own⟩ : ∃ next, Own setting client state next :=
          envelope_moves (flying ▸ List.getElem?_cons_zero)
        exact absurd own (stuck next)
    · intro task member unsettled
      obtain ⟨tasks, world, step⟩ := unsettled_step (fun _ => served_responds setting) member
        unsettled state.world
      exact stuck _ ⟨_, rfl, .served state tasks world step⟩
  · rintro ⟨silent, settled⟩ next own
    obtain ⟨position, envelope, located, _⟩ | ⟨tasks, world, step, rfl⟩ := own_cases own
    · rw [silent] at located
      cases located
    · obtain ⟨task, member, unsettled⟩ := step.unsettled
      exact settled task member unsettled

/-- The process takes steps until it is at rest. -/
theorem Reached.own {start rested : State} (reached : Reached setting client start state)
    (steps : Relation.ReflTransGen (Own setting client) state rested) :
    Reached setting client start rested := by
  induction steps with
  | refl => exact reached
  | tail earlier own inductionHypothesis =>
    obtain ⟨event, _, stepped⟩ := own
    exact .step _ _ event inductionHypothesis stepped

/-- The connection takes its own steps beside the process. -/
theorem Reached.connection {start : State} {events : List NatsConnection.Event}
    {nats : NatsConnection.Connection} (reached : Reached setting client start state)
    (ran : Transition.run NatsConnection.step state.nats events = some nats) :
    Reached setting client start { state with nats := nats } := by
  induction events generalizing state with
  | nil =>
    obtain rfl := Option.some.inj ran
    exact reached
  | cons event events inductionHypothesis =>
    obtain ⟨middle, stepped, rest⟩ := Transition.run_cons ran
    have further : Reached setting client start { state with nats := middle } :=
      .step state _ _ reached (.nats state event middle stepped)
    have last := inductionHypothesis further rest
    exact last

/-- A message that is sent does not touch the connection. -/
theorem send_connection (state : State) (message : Message) :
    (state.send message).nats = state.nats := by
  unfold State.send
  split <;> rfl

/-- It changes nothing in the world either. -/
theorem send_world (state : State) (message : Message) :
    (state.send message).world = state.world := by
  unfold State.send
  split <;> rfl

/-- The connection of the process is one that its own events lead to. -/
theorem Reached.ran {world : World}
    (reached : Reached setting client (State.started setting client world) state) :
    ∃ events, Transition.run NatsConnection.step NatsConnection.started events =
      some state.nats := by
  induction reached with
  | start => exact ⟨[], rfl⟩
  | step state next event earlier stepped inductionHypothesis =>
    obtain ⟨events, ran⟩ := inductionHypothesis
    cases stepped with
    | nats event nats stepped => exact ⟨events ++ [event], Transition.run_snoc ran stepped⟩
    | sent message => exact ⟨events, (send_connection state message).symm ▸ ran⟩
    | _ => exact ⟨events, ran⟩

end Steps

section Parts

/-- The services as the process with its connection knows them. -/
def settingOf (setting : Process.Setting) : Actions.Setting :=
  ⟨setting.ethers, setting.entryId, setting.roles⟩

/-- The process with its connection is part of the service: the data and the code are the same,
and the messages in flight are those of claims. -/
structure Covers (setting : Process.Setting) (part : Reception.State) (state : State) : Prop where
  nats : state.nats = part.nats
  table : state.world.table = setting.table
  accepted : state.world.accepted = part.process.accepted
  documents : state.world.documents = part.process.documents
  flying : state.flying = part.process.bus.map (fun letter =>
    ⟨letter.client, setting.message letter.issue⟩)
  tasks : state.tasks.map Prod.snd = part.process.sweep :: part.process.handlers

variable {setting : Process.Setting} {part next : Reception.State} {state : State}

/-- A call that is answered there is answered here. -/
theorem Covers.answered (covers : Covers setting part state) (position : Nat)
    {program code : Awaiting Unit} {documents : Documents}
    (located : (part.process.sweep :: part.process.handlers)[position]? = some program)
    (answered : Process.Answered setting part.process program code documents) :
    ∃ tasks world, Pool.Step (fun _ => served (settingOf setting)) (fun _ _ => False) state.tasks
        state.world tasks world ∧
      tasks.map Prod.snd =
        (part.process.sweep :: part.process.handlers).modify position (fun _ => code) ∧
      world.table = setting.table ∧ world.accepted = part.process.accepted ∧
      world.documents = documents := by
  obtain ⟨before, after, whole, _, changed⟩ := Transition.located_split located
  obtain ⟨nats, ⟨table, accepted, shown, foreign, requests⟩, flying, all⟩ := state
  obtain ⟨_, rfl, rfl, rfl, _, programs⟩ := covers
  rw [whole] at programs
  obtain ⟨early, rest, rfl, rfl, same⟩ := List.map_eq_append_iff.mp programs
  obtain ⟨⟨request, _⟩, late, rfl, rfl, rfl⟩ := List.map_eq_cons_iff.mp same
  cases answered with
  | mk call resume answer next serves =>
    obtain ⟨added, answers, rfl⟩ := serves
    refine ⟨_, _, .answered early late request call resume answer _ _ ⟨added, answers, rfl⟩, ?_,
      ?_⟩
    · rw [changed, List.map_append]
      rfl
    · cases call with
      | createClaimRequest key claim types =>
        obtain ⟨_, rfl⟩ := answers
        exact ⟨rfl, rfl, rfl⟩
      | _ => exact ⟨rfl, rfl, rfl⟩

/-- The messages in flight there are in flight here, at their places. -/
theorem Covers.located (covers : Covers setting part state) {position : Nat}
    {letter : Exchange.Letter} (located : part.process.bus[position]? = some letter) :
    state.flying[position]? = some ⟨letter.client, setting.message letter.issue⟩ := by
  rw [covers.flying, List.getElem?_map, located]
  rfl

/-- One that is taken away there is taken away here. -/
theorem Covers.taken (covers : Covers setting part state) (position : Nat) :
    state.flying.eraseIdx position = (part.process.bus.eraseIdx position).map (fun letter =>
      ⟨letter.client, setting.message letter.issue⟩) := by
  rw [covers.flying, List.eraseIdx_map]

/-- A claim that is issued is accepted, and then its message is sent. -/
theorem Covers.issue (covers : Covers setting part state) {claim : Exchange.Issue} :
    Covers setting (Reception.issue claim part)
      (State.send
        { state with world := { state.world with accepted := state.world.accepted ++ [claim] } }
        (setting.message claim)) := by
  unfold Reception.issue State.send
  rw [covers.nats]
  cases NatsConnection.receiver part.nats with
  | none =>
    exact ⟨rfl, covers.table, congrArg (· ++ [claim]) covers.accepted, covers.documents,
      covers.flying, covers.tasks⟩
  | some client =>
    refine ⟨rfl, covers.table, congrArg (· ++ [claim]) covers.accepted, covers.documents, ?_,
      covers.tasks⟩
    simp only [covers.flying, List.map_append, List.map_cons, List.map_nil]

/-- Each step there is a step here, or two when a claim is issued. -/
theorem Covers.step {start : State} (covers : Covers setting part state)
    (reached : Reached (settingOf setting) setting.client start state)
    (stepped : Reception.Step setting part next) :
    ∃ following, Reached (settingOf setting) setting.client start following ∧
      Covers setting next following := by
  cases stepped with
  | nats event nats stepped =>
    rw [← covers.nats] at stepped
    exact ⟨_, .step _ _ _ reached (.nats state event nats stepped), { covers with nats := rfl }⟩
  | issue claim issued fresh =>
    rw [← covers.accepted] at fresh
    have accepted := Reached.step _ _ _ reached
      (.outside state _ (.accepted state.world claim issued.identified fresh))
    exact ⟨_, .step _ _ _ accepted (.sent _ (setting.message claim)), covers.issue⟩
  | deliver position letter located live =>
    rw [← covers.nats] at live
    refine ⟨_, .step _ _ _ reached (.delivered state position _ (covers.located located) live),
      { covers with flying := covers.taken position, tasks := ?_ }⟩
    rw [List.map_append, covers.tasks]
    rfl
  | lose position letter located closed =>
    rw [← covers.nats] at closed
    exact ⟨_, .step _ _ _ reached (.lost state position _ (covers.located located) closed),
      { covers with flying := covers.taken position }⟩
  | sweep code documents answered =>
    obtain ⟨tasks, world, step, programs, table, accepted, shown⟩ :=
      covers.answered 0 rfl answered
    exact ⟨_, .step _ _ _ reached (.served state tasks world step),
      ⟨covers.nats, table, accepted, shown, covers.flying, programs⟩⟩
  | handler position program code documents located answered =>
    obtain ⟨tasks, world, step, programs, table, accepted, shown⟩ :=
      covers.answered (position + 1) located answered
    exact ⟨_, .step _ _ _ reached (.served state tasks world step),
      ⟨covers.nats, table, accepted, shown, covers.flying, programs⟩⟩

/-- The process with its connection, to which only the messages of claims are sent and whose
calls all succeed, comes to no state that the service does not come to. -/
theorem reached_covered {accepted : List Exchange.Issue} {documents : Documents}
    (reached : Reception.Reached setting (Reception.State.started setting accepted documents)
      part) :
    ∃ state, Reached (settingOf setting) setting.client
        (State.started (settingOf setting) setting.client
          ⟨setting.table, accepted, documents, fun _ => [], []⟩) state ∧
      Covers setting part state := by
  induction reached with
  | start => exact ⟨_, .start, rfl, rfl, rfl, rfl, rfl, rfl⟩
  | step part next earlier stepped inductionHypothesis =>
    obtain ⟨state, there, covers⟩ := inductionHypothesis
    exact covers.step there stepped

end Parts

section Sample

open Actions (sampleSetting claimAccepted)

/-- A request without content. -/
def emptyRequest : Message := ⟨0, .prequalificationExchange, ""⟩

end Sample

end EvDashboard.Operation
