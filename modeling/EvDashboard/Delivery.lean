import EvDashboard.Exchange
import EvDashboard.NatsConnection

/-!
# When no issued claim is lost

An issued claim reaches its asset's document in one of two ways: the startup sweep
reads it from the cache server, or its message reaches a connected client and is
handled. The connection is not awaited before the sweep, and a reconnection is not
followed by another sweep, so a claim issued while no client is listening is lost
unless the sweep has yet to read the claims of its asset.

At every time each accepted claim of a stored asset has to be accounted for: its
document holds it, the sweep will come to it, its message is in flight, or a
handler runs for it. Everything the process does keeps this; only an issuance
that nobody attends to, or the loss of a message in flight, can break it.
-/

namespace EvDashboard.Exchange

open Documents

/-- The assets whose accepted claims the sweep has yet to read. -/
def SweepState.unread (stored : List String) : SweepState → List String
  | .gettingSigners => stored
  | .creating _ did rest => did :: rest
  | .readingClaims did rest => did :: rest
  | .readingDocument _ rest _ => rest
  | .publishing _ rest _ _ => rest
  | .finished => []

/-- The claims the sweep has read and not dealt with. -/
def SweepState.taken : SweepState → List Issue
  | .readingDocument did _ claims => claims.map (Issue.mk did)
  | sweep => sweep.pending

variable (stored : List String)

/-- The sweep will see a claim's absence from the document, or has seen it. -/
def Attended (state : State) (issue : Issue) : Prop :=
  state.documents.holds issue.subject issue.id = true ∨
    issue.subject ∈ state.sweep.unread stored ∨ issue ∈ state.sweep.taken

/-- A handler is running for a claim. -/
def Running (state : State) (issue : Issue) : Prop :=
  ∃ handler ∈ state.handlers, handler.issue = issue ∧ handler.state ≠ .finished

/-- The claims of stored assets are attended to, in flight or handled. -/
def Covered (state : State) : Prop :=
  ∀ issue ∈ state.accepted, issue.subject ∈ stored →
    Attended stored state issue ∨ (∃ letter ∈ state.bus, letter.issue = issue) ∨ Running state issue

variable {stored} {state : State}

@[simp] theorem nextAsset_unread (rest : List String) : (nextAsset rest).unread stored = rest := by
  cases rest <;> rfl

@[simp] theorem nextAsset_taken (rest : List String) : (nextAsset rest).taken = [] := by
  cases rest <;> rfl

@[simp] theorem nextClaim_unread (did : String) (rest : List String) (claims : List IssuedClaim) :
    (nextClaim did rest claims).unread stored = rest := by
  cases claims with
  | nil => exact nextAsset_unread rest
  | cons claim more => rfl

@[simp] theorem nextClaim_taken (did : String) (rest : List String) (claims : List IssuedClaim) :
    (nextClaim did rest claims).taken = claims.map (Issue.mk did) := by
  cases claims with
  | nil => exact nextAsset_taken rest
  | cons claim more => rfl

/-- Before the sweep's first answer every stored asset is unread. -/
theorem started_covered (accepted : List Issue) (documents : Documents) :
    Covered stored (State.started accepted documents) :=
  fun _ _ known => Or.inl (Or.inr (Or.inl known))

/-- A step of the sweep alone keeps every claim covered that it attended to. -/
theorem Covered.advance (covered : Covered stored state) {documents : Documents}
    {next : SweepState} {selected calls : List Issue}
    (attends : ∀ issue ∈ state.accepted, Attended stored state issue →
      documents.holds issue.subject issue.id = true ∨
        issue.subject ∈ next.unread stored ∨ issue ∈ next.taken) :
    Covered stored { state with
      documents := documents, sweep := next, selected := selected, calls := calls } := by
  intro issue member known
  rcases covered issue member known with attended | elsewhere
  · exact Or.inl (attends issue member attended)
  · exact Or.inr elsewhere

/-- Changing a handler keeps the claims covered whose document holds them, or which
the handler still runs for. -/
theorem Covered.rehandle (covered : Covered stored state) {before after : List Handler}
    {handler : Handler} (located : state.handlers = before ++ handler :: after)
    {documents : Documents} (grown : Extends state.documents documents) (next : HandlerState)
    (calls : List Issue) (ends : next = .finished → handler.issue.subject ∈ stored →
      documents.holds handler.issue.subject handler.issue.id = true) :
    Covered stored { state with
      documents := documents
      handlers := before ++ { handler with state := next } :: after
      calls := calls } := by
  intro issue member known
  rcases covered issue member known with attended | flying | ⟨other, present, rfl, runs⟩
  · exact Or.inl (attended.imp grown.holds id)
  · exact Or.inr (Or.inl flying)
  · rw [located] at present
    rcases List.mem_append.mp present with first | rest
    · exact Or.inr (Or.inr ⟨other, List.mem_append_left _ first, rfl, runs⟩)
    · rcases List.mem_cons.mp rest with rfl | last
      · by_cases ended : next = .finished
        · exact Or.inl (Or.inl (ends ended known))
        · exact Or.inr (Or.inr ⟨_, List.mem_append_right _ List.mem_cons_self, rfl, ended⟩)
      · exact Or.inr (Or.inr
          ⟨other, List.mem_append_right _ (List.mem_cons_of_mem _ last), rfl, runs⟩)

/-- Delivery turns a claim in flight into one with a running handler. -/
theorem Covered.deliver (covered : Covered stored state) {position : Nat} {letter : Letter}
    (located : state.bus[position]? = some letter) :
    Covered stored (Exchange.deliver position letter state) := by
  obtain ⟨before, after, whole, erased, _⟩ := Transition.located_split located
  intro issue member known
  rcases covered issue member known with attended | ⟨other, present, rfl⟩ | ⟨handler, present, runs⟩
  · exact Or.inl attended
  · rw [whole] at present
    simp only [Exchange.deliver, erased]
    rcases List.mem_append.mp present with first | rest
    · exact Or.inr (Or.inl ⟨other, List.mem_append_left _ first, rfl⟩)
    · rcases List.mem_cons.mp rest with rfl | last
      · exact Or.inr (Or.inr ⟨⟨other.issue, .gettingSigner⟩,
          List.mem_append_right _ List.mem_cons_self, rfl, nofun⟩)
      · exact Or.inr (Or.inl ⟨other, List.mem_append_right _ last, rfl⟩)
  · exact Or.inr (Or.inr ⟨handler, List.mem_append_left _ present, runs⟩)

/-- A claim that the sweep does not select is held. -/
theorem Covered.select (covered : Covered stored state) {did : String} {rest : List String}
    {claims : List IssuedClaim} (reading : state.sweep = .readingDocument did rest claims) :
    Covered stored (Exchange.select did rest claims state) := by
  refine covered.advance fun issue _ attended => ?_
  rw [Attended, reading] at attended
  rw [nextClaim_unread, nextClaim_taken]
  rcases attended with held | ahead | taken
  · exact Or.inl held
  · exact Or.inr (Or.inl ahead)
  · obtain ⟨claim, member, rfl⟩ := List.mem_map.mp taken
    cases held : state.documents.holds did claim.id with
    | true => exact Or.inl held
    | false =>
      refine Or.inr (Or.inr (List.mem_map_of_mem (List.mem_filter.mpr ⟨member, ?_⟩)))
      rw [held]
      rfl

/-- Moving a handler keeps every claim covered, if it ends for no stored asset. -/
theorem Covered.move (covered : Covered stored state) {position : Nat} {handler : Handler}
    (located : state.handlers[position]? = some handler) (next : HandlerState)
    (ends : next = .finished → handler.issue.subject ∉ stored) (calls : List Issue) :
    Covered stored { Exchange.move position next state with calls := calls } := by
  obtain ⟨before, after, whole, _, changed⟩ := Transition.located_split located
  simp only [Exchange.move, changed]
  exact covered.rehandle whole (Extends.refl _) _ _ (fun ended known => absurd known (ends ended))

/-- An event of the process itself, as opposed to one of its environment. -/
def Event.ofProcess : Event → Bool
  | .accept _ => false
  | .announce _ _ => false
  | .lose _ => false
  | .deliver _ => false
  | _ => true

/-- The sweep takes over the accepted claims of an asset: they are all listed. -/
theorem Covered.readClaims (covered : Covered stored state) {did : String} {rest : List String}
    {claims : List IssuedClaim} (reading : state.sweep = .readingClaims did rest)
    (listed : claims.Perm (state.claimsOf did)) :
    Covered stored { state with sweep := .readingDocument did rest claims } := by
  refine covered.advance fun issue member attended => ?_
  rw [Attended, reading] at attended
  rcases attended with held | unread | taken
  · exact Or.inl held
  · rcases List.mem_cons.mp unread with rfl | later
    · exact Or.inr (Or.inr (List.mem_map_of_mem (listed.mem_iff.mpr (mem_claimsOf.mpr member))))
    · exact Or.inr (Or.inl later)
  · cases taken

/-- A claim that the sweep has published is held. -/
theorem Covered.published (covered : Covered stored state) {did : String} {rest : List String}
    {claim : IssuedClaim} {more : List IssuedClaim} (endpoint : String)
    (running : state.sweep = .publishing did rest claim more) :
    Covered stored (Exchange.published endpoint did rest claim more state) := by
  refine covered.advance fun issue _ attended => ?_
  rw [Attended, running] at attended
  rw [nextClaim_unread, nextClaim_taken]
  rcases attended with held | unread | taken
  · exact Or.inl ((append_extends _ _ _).holds held)
  · exact Or.inr (Or.inl unread)
  · rcases List.mem_cons.mp taken with rfl | later
    · exact Or.inl (holds_appended _ _ _)
    · exact Or.inr (Or.inr later)

/-- A claim that a handler has published is held. -/
theorem Covered.handled (covered : Covered stored state) {position : Nat} {handler : Handler}
    (endpoint : String) (located : state.handlers[position]? = some handler) :
    Covered stored (Exchange.handled endpoint position handler.issue state) := by
  obtain ⟨before, after, whole, _, changed⟩ := Transition.located_split located
  simp only [Exchange.handled, Exchange.move, changed]
  exact covered.rehandle whole (append_extends _ _ _) _ _ (fun _ _ => holds_appended _ _ _)

/-- Whatever the process does, the claims stay covered. -/
theorem process_covered {event : Event} {next : State} (covered : Covered stored state)
    (own : event.ofProcess = true) (stepped : step stored state event = some next) :
    Covered stored next := by
  cases step_effect stepped with
  | accepted issue fresh => cases own
  | announced client issue known unsent => cases own
  | lost position inside => cases own
  | delivered position letter located => cases own
  | signersRead reached =>
    refine covered.advance fun issue _ attended => ?_
    rw [Attended, reached] at attended
    rw [nextAsset_unread, nextAsset_taken]
    exact attended
  | sweepStage stage later did rest reached following =>
    refine covered.advance fun issue _ attended => ?_
    rw [Attended, reached] at attended
    exact attended
  | sweepCreated stage did rest reached following =>
    refine covered.advance fun issue _ attended => ?_
    rw [Attended, reached] at attended
    exact attended
  | claimsRead did rest claims reached listed => exact covered.readClaims reached listed
  | documentRead did rest claims reached => exact covered.select reached
  | sweepPublished endpoint did rest claim more reached => exact covered.published endpoint reached
  | signerFound position handler located reached known =>
    exact covered.move located (.creating _) nofun state.calls
  | signerAbsent position handler located reached unknown =>
    exact covered.move located .finished (fun _ => unknown) state.calls
  | handlerStage position handler stage later located reached following =>
    exact covered.move located (.creating later) nofun state.calls
  | handlerCreated position handler stage located reached following =>
    exact covered.move located .publishing nofun (state.calls ++ [handler.issue])
  | handlerPublished position endpoint handler located reached =>
    exact covered.handled endpoint located

end EvDashboard.Exchange

namespace EvDashboard.Delivery

open Documents

/-- The connection beside the process. -/
structure State where
  nats : NatsConnection.Connection
  exchange : Exchange.State

/-- Just after the first part of `init`: the connection object has called
`_connect`, and the sweep awaits its first answer. -/
def State.started (accepted : List Exchange.Issue) (documents : Documents) : State :=
  ⟨NatsConnection.started, Exchange.State.started accepted documents⟩

/-- Whether a client can still deliver the messages it has received. -/
def isOpen (nats : NatsConnection.Connection) (client : Nat) : Bool :=
  match nats.clients[client]? with
  | some state => !state.closed
  | none => false

/-- A claim is accepted, and its message reaches the client that is listening now,
if there is one; nothing is replayed later. -/
def issue (claim : Exchange.Issue) (state : State) : State :=
  let accepted := Exchange.accept claim state.exchange
  match NatsConnection.receiver state.nats with
  | some client => { state with exchange := Exchange.announce client claim accepted }
  | none => { state with exchange := accepted }

/-- An event of the connection, an issuance, a delivery by an open client, the loss
of a message whose client is closed, or an event of the process. -/
inductive Event where
  | nats (event : NatsConnection.Event)
  | issue (claim : Exchange.Issue)
  | deliver (position : Nat)
  | lose (position : Nat)
  | process (event : Exchange.Event)

variable (stored : List String)

def step (state : State) : Event → Option State
  | .nats event =>
    (NatsConnection.step state.nats event).map (fun nats => { state with nats := nats })
  | .issue claim => if claim ∈ state.exchange.accepted then none else some (issue claim state)
  | .deliver position =>
    match state.exchange.bus[position]? with
    | some letter =>
      if isOpen state.nats letter.client then
        some { state with exchange := Exchange.deliver position letter state.exchange }
      else none
    | none => none
  | .lose position =>
    match state.exchange.bus[position]? with
    | some letter =>
      if isOpen state.nats letter.client then none
      else some { state with exchange := Exchange.lose position state.exchange }
    | none => none
  | .process event =>
    if event.ofProcess then
      (Exchange.step stored state.exchange event).map
        (fun exchange => { state with exchange := exchange })
    else none

/-- The condition on steps. A claim of a stored asset is issued while a client
listens or before the sweep has read the asset's claims; and a message is lost in
flight only if the sweep attends to its claim anyway. -/
def Heard (state : State) : Event → Prop
  | .issue claim => claim.subject ∈ stored →
      (NatsConnection.receiver state.nats).isSome ∨
        claim.subject ∈ state.exchange.sweep.unread stored
  | .lose position => ∀ letter, state.exchange.bus[position]? = some letter →
      letter.issue.subject ∈ stored → Exchange.Attended stored state.exchange letter.issue
  | _ => True

/-- The sweep has finished, a connected client is listening, no message is in flight
and no handler is running. -/
def Quiescent (state : State) : Prop :=
  state.exchange.sweep = .finished ∧ (NatsConnection.receiver state.nats).isSome ∧
    state.exchange.bus = [] ∧ ∀ handler ∈ state.exchange.handlers, handler.state = .finished

variable {stored}

/-- An issuance that is heard or that the sweep will read keeps all claims covered. -/
theorem issue_covered {state : State} (covered : Exchange.Covered stored state.exchange)
    {claim : Exchange.Issue} (heard : Heard stored state (.issue claim)) :
    Exchange.Covered stored (issue claim state).exchange := by
  unfold issue
  cases listening : NatsConnection.receiver state.nats with
  | some client =>
    intro other member known
    rcases List.mem_append.mp member with earlier | last
    · refine (covered other earlier known).imp id (Or.imp ?_ id)
      rintro ⟨letter, present, same⟩
      exact ⟨letter, List.mem_append_left _ present, same⟩
    · obtain rfl := List.mem_singleton.mp last
      exact Or.inr (Or.inl ⟨_, List.mem_append_right _ List.mem_cons_self, rfl⟩)
  | none =>
    intro other member known
    rcases List.mem_append.mp member with earlier | last
    · exact covered other earlier known
    · obtain rfl := List.mem_singleton.mp last
      rcases heard known with listens | unread
      · rw [listening] at listens
        cases listens
      · exact Or.inl (Or.inr (Or.inl unread))

/-- A loss of a message whose claim the sweep attends to keeps all claims covered. -/
theorem lose_covered {state : State} (covered : Exchange.Covered stored state.exchange)
    {position : Nat} {letter : Exchange.Letter}
    (located : state.exchange.bus[position]? = some letter)
    (heard : Heard stored state (.lose position)) :
    Exchange.Covered stored (Exchange.lose position state.exchange) := by
  obtain ⟨before, after, whole, erased, _⟩ := Transition.located_split located
  intro issue member known
  rcases covered issue member known with attended | ⟨other, present, rfl⟩ | running
  · exact Or.inl attended
  · rw [whole] at present
    rcases List.mem_append.mp present with first | rest
    · refine Or.inr (Or.inl ⟨other, ?_, rfl⟩)
      rw [Exchange.lose, erased]
      exact List.mem_append_left _ first
    · rcases List.mem_cons.mp rest with rfl | last
      · exact Or.inl (heard other located known)
      · refine Or.inr (Or.inl ⟨other, ?_, rfl⟩)
        rw [Exchange.lose, erased]
        exact List.mem_append_right _ last
  · exact Or.inr (Or.inr running)

/-- Every step that meets the condition keeps all claims covered. -/
theorem step_covered (state : State) (event : Event) (next : State)
    (covered : Exchange.Covered stored state.exchange) (heard : Heard stored state event)
    (stepped : step stored state event = some next) : Exchange.Covered stored next.exchange := by
  cases event with
  | nats event =>
    obtain ⟨nats, _, rfl⟩ := Option.map_eq_some_iff.mp stepped
    exact covered
  | issue claim =>
    simp only [step] at stepped
    split at stepped
    · cases stepped
    · obtain rfl := Option.some.inj stepped
      exact issue_covered covered heard
  | deliver position =>
    simp only [step] at stepped
    split at stepped
    · next letter located =>
      split at stepped
      · obtain rfl := Option.some.inj stepped
        exact covered.deliver located
      · cases stepped
    · cases stepped
  | lose position =>
    simp only [step] at stepped
    split at stepped
    · next letter located =>
      split at stepped
      · cases stepped
      · obtain rfl := Option.some.inj stepped
        exact lose_covered covered located heard
    · cases stepped
  | process event =>
    simp only [step] at stepped
    split at stepped
    · next own =>
      obtain ⟨exchange, taken, rfl⟩ := Option.map_eq_some_iff.mp stepped
      exact Exchange.process_covered covered own taken
    · cases stepped

/-- If every claim of a stored asset is issued while a client listens or before the
sweep reads the asset's claims, and no message is lost in flight unless the sweep
attends to its claim, then in every quiescent state reached the documents of the
stored assets hold all their accepted claims.

All claims stay covered, and where nothing is in flight or running and the sweep
has finished, a covered claim can only be held. -/
theorem no_claim_lost (stored : List String) (accepted : List Exchange.Issue)
    (documents : Documents) (events : List Event) (final : State)
    (ran : Transition.run (step stored) (State.started accepted documents) events = some final)
    (heard : Transition.Meets (step stored) (Heard stored) (State.started accepted documents)
      events)
    (quiescent : Quiescent final) :
    ∀ issue ∈ final.exchange.accepted, issue.subject ∈ stored →
      final.exchange.documents.holds issue.subject issue.id = true := by
  have covered : Exchange.Covered stored final.exchange :=
    heard.invariant (fun state => Exchange.Covered stored state.exchange) step_covered
      (Exchange.started_covered accepted documents) ran
  obtain ⟨finished, _, silent, idle⟩ := quiescent
  intro issue member known
  rcases covered issue member known with attended | ⟨letter, present, _⟩ |
    ⟨handler, present, _, runs⟩
  · rw [Exchange.Attended, finished] at attended
    rcases attended with held | unread | taken
    · exact held
    · cases unread
    · cases taken
  · rw [silent] at present
    cases present
  · exact absurd (idle handler present) runs

/-- The client connects, a claim is issued, its message is handled, and the sweep
passes over the claim. -/
def heardEvents : List Event :=
  [.nats (.emit 0 .connect), .issue ⟨"did", "id", some "token"⟩, .deliver 0,
    .process (.handler 0), .process (.handler 0), .process (.handler 0), .process (.handler 0),
    .process (.handlerPublished 0 "url"), .process .sweep, .process .sweep, .process .sweep,
    .process .sweep, .process (.sweepClaims [⟨"id", some "token"⟩]), .process .sweep]

/-- The run of these events ends quiescent, and the claim is in the document. -/
theorem heard_claim_held :
    ∃ final, Transition.run (step ["did"]) (State.started [] (fun _ => ⟨[]⟩)) heardEvents =
        some final ∧
      Quiescent final ∧ final.exchange.accepted = [⟨"did", "id", some "token"⟩] ∧
      ∀ issue ∈ final.exchange.accepted, issue.subject ∈ ["did"] →
        final.exchange.documents.holds issue.subject issue.id = true := by
  have heard : Transition.Meets (step ["did"]) (Heard ["did"]) (State.started [] (fun _ => ⟨[]⟩))
      heardEvents := by
    refine ⟨trivial, ?_⟩
    rintro _ ⟨⟩
    refine ⟨fun _ => Or.inl (by decide), fun next _ => Transition.Meets.always ?_ next⟩
    intro event member state
    simp only [List.mem_cons, List.not_mem_nil, or_false] at member
    rcases member with rfl | rfl | rfl | rfl | rfl | rfl | rfl | rfl | rfl | rfl | rfl | rfl <;>
      trivial
  have quiescent : ∃ final, Transition.run (step ["did"])
      (State.started [] (fun _ => ⟨[]⟩)) heardEvents = some final ∧ Quiescent final ∧
      final.exchange.accepted = [⟨"did", "id", some "token"⟩] :=
    ⟨_, rfl, ⟨by decide, by decide, by decide, by decide⟩, by decide⟩
  obtain ⟨final, ran, quiet, accepted⟩ := quiescent
  exact ⟨final, ran, quiet, accepted,
    no_claim_lost ["did"] [] (fun _ => ⟨[]⟩) heardEvents final ran heard quiet⟩

/-- The sweep finishes before the client has connected, and a claim is issued in
between. -/
def unheardEvents : List Event :=
  [.process .sweep, .process .sweep, .process .sweep, .process .sweep,
    .process (.sweepClaims []), .process .sweep, .issue ⟨"did", "id", some "token"⟩,
    .nats (.emit 0 .connect)]

/-- The run of these events ends quiescent without the claim in the document. -/
theorem unheard_claim_lost :
    ¬ ∀ final, Transition.run (step ["did"]) (State.started [] (fun _ => ⟨[]⟩)) unheardEvents =
        some final → Quiescent final →
      ∀ issue ∈ final.exchange.accepted, issue.subject ∈ ["did"] →
        final.exchange.documents.holds issue.subject issue.id = true := by
  intro claimed
  have held := claimed _ rfl ⟨by decide, by decide, by decide, by decide⟩
    ⟨"did", "id", some "token"⟩ (by decide) (by decide)
  exact absurd held (by decide)

end EvDashboard.Delivery
