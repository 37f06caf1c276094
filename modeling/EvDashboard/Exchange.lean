import EvDashboard.Documents
import EvDashboard.Transition

/-!
# The startup sweep beside the live handlers

One process runs the startup sweep and a handler for every delivered message.
Each of the two is at one of its await points; an event answers the call awaited
there and runs the code up to the next await. No call fails here.

The sweep takes the accepted claims of an asset at one await, the document at the
next, and selects what to publish from these two; a handler publishes without
looking. Two fields only record: the claims the sweep has selected, and every
invocation of `publishPublicClaim`, at the moment it is made.
-/

namespace EvDashboard.Exchange

/-- A claim issued to a subject. -/
structure Issue where
  subject : String
  claim : IssuedClaim
deriving DecidableEq

/-- The id of an issued claim. -/
def Issue.id (issue : Issue) : String := issue.claim.id

/-- The three awaits of creating the library's clients. -/
inductive Stage where
  | initWithPrivateKeySigner
  | connectToCacheServer
  | connectToDidRegistry
deriving DecidableEq

def Stage.next : Stage → Option Stage
  | .initWithPrivateKeySigner => some .connectToCacheServer
  | .connectToCacheServer => some .connectToDidRegistry
  | .connectToDidRegistry => none

/-- Where the sweep awaits: the asset it is at, the assets after it, and what it
has read for the current one. -/
inductive SweepState where
  | gettingSigners
  | creating (stage : Stage) (did : String) (rest : List String)
  | readingClaims (did : String) (rest : List String)
  | readingDocument (did : String) (rest : List String) (claims : List IssuedClaim)
  | publishing (did : String) (rest : List String) (claim : IssuedClaim) (more : List IssuedClaim)
  | finished
deriving DecidableEq

/-- Where the handler of an issued-claim message awaits. -/
inductive HandlerState where
  | gettingSigner
  | creating (stage : Stage)
  | publishing
  | finished
deriving DecidableEq

/-- A message in flight to a NATS client. -/
structure Letter where
  client : Nat
  issue : Issue
deriving DecidableEq

/-- A handler and the claim it was called for. -/
structure Handler where
  issue : Issue
  state : HandlerState
deriving DecidableEq

/-- The cache server's accepted claims, the messages sent and in flight, the
documents, and the process; then the two records. -/
structure State where
  accepted : List Issue
  announced : List Issue
  bus : List Letter
  documents : Documents
  sweep : SweepState
  handlers : List Handler
  selected : List Issue
  calls : List Issue

/-- A process that has just called `init`. -/
def State.started (accepted : List Issue) (documents : Documents) : State :=
  ⟨accepted, [], [], documents, .gettingSigners, [], [], []⟩

/-- The claims of a subject among those accepted, as the cache server lists them. -/
def claimsOf (accepted : List Issue) (did : String) : List IssuedClaim :=
  (accepted.filter (fun issue => issue.subject = did)).map Issue.claim

def State.claimsOf (state : State) (did : String) : List IssuedClaim :=
  Exchange.claimsOf state.accepted did

/-- The claims of a list that an asset's document lacks. -/
def State.lacking (state : State) (did : String) (claims : List IssuedClaim) : List IssuedClaim :=
  claims.filter (fun claim => !state.documents.holds did claim.id)

/-- The loop over the assets: the next one, or the end of the sweep. -/
def nextAsset : List String → SweepState
  | [] => .finished
  | did :: rest => .creating .initWithPrivateKeySigner did rest

/-- The loop over the selected claims: the next publication, or the next asset. -/
def nextClaim (did : String) (rest : List String) : List IssuedClaim → SweepState
  | [] => nextAsset rest
  | claim :: more => .publishing did rest claim more

/-- The invocation that `nextClaim` makes. -/
def invoked (did : String) : List IssuedClaim → List Issue
  | [] => []
  | claim :: _ => [⟨did, claim⟩]

/-- The subject's claim is accepted on the cache server. -/
def accept (issue : Issue) (state : State) : State :=
  { state with accepted := state.accepted ++ [issue] }

/-- The message of an issued claim is sent to a client. -/
def announce (client : Nat) (issue : Issue) (state : State) : State :=
  { state with
    announced := state.announced ++ [issue]
    bus := state.bus ++ [⟨client, issue⟩] }

/-- A message in flight is lost. -/
def lose (position : Nat) (state : State) : State :=
  { state with bus := state.bus.eraseIdx position }

/-- A message is delivered: its handler runs up to the lookup of the signer. -/
def deliver (position : Nat) (letter : Letter) (state : State) : State :=
  { state with
    bus := state.bus.eraseIdx position
    handlers := state.handlers ++ [⟨letter.issue, .gettingSigner⟩] }

/-- The document has been read: select the missing claims and start publishing. -/
def select (did : String) (rest : List String) (claims : List IssuedClaim) (state : State) :
    State :=
  let lacking := state.lacking did claims
  { state with
    sweep := nextClaim did rest lacking
    selected := state.selected ++ lacking.map (Issue.mk did)
    calls := state.calls ++ invoked did lacking }

/-- A publication of the sweep has succeeded: go on with the selected claims. -/
def published (endpoint : String) (did : String) (rest : List String) (claim : IssuedClaim)
    (more : List IssuedClaim) (state : State) : State :=
  { state with
    documents := state.documents.append did ⟨claim.id, endpoint⟩
    sweep := nextClaim did rest more
    calls := state.calls ++ invoked did more }

/-- A handler moves to another await. -/
def move (position : Nat) (next : HandlerState) (state : State) : State :=
  { state with
    handlers := state.handlers.modify position (fun handler => { handler with state := next }) }

/-- A handler invokes its publication. -/
def startPublishing (position : Nat) (issue : Issue) (state : State) : State :=
  { move position .publishing state with calls := state.calls ++ [issue] }

/-- The publication of a handler has succeeded, which ends the handler. -/
def handled (endpoint : String) (position : Nat) (issue : Issue) (state : State) : State :=
  { move position .finished state with
    documents := state.documents.append issue.subject ⟨issue.id, endpoint⟩ }

/-- What can happen next. The sweep's and the handlers' events answer the call
awaited; the answers that are not determined by the state come with the event. -/
inductive Event where
  | accept (issue : Issue)
  | announce (client : Nat) (issue : Issue)
  | lose (position : Nat)
  | deliver (position : Nat)
  | sweep
  | sweepClaims (claims : List IssuedClaim)
  | sweepPublished (endpoint : String)
  | handler (position : Nat)
  | handlerPublished (position : Nat) (endpoint : String)

variable (stored : List String)

/-- The sweep's call is answered, other than the list of claims and a publication. -/
def stepSweep (state : State) : Option State :=
  match state.sweep with
  | .gettingSigners => some { state with sweep := nextAsset stored }
  | .creating stage did rest =>
    match stage.next with
    | some stage => some { state with sweep := .creating stage did rest }
    | none => some { state with sweep := .readingClaims did rest }
  | .readingDocument did rest claims => some (select did rest claims state)
  | .readingClaims _ _ => none
  | .publishing _ _ _ _ => none
  | .finished => none

/-- A handler's call is answered, other than a publication. A handler that finds no
signer ends at once. -/
def stepHandler (position : Nat) (handler : Handler) (state : State) : Option State :=
  match handler.state with
  | .gettingSigner =>
    if handler.issue.subject ∈ stored then
      some (move position (.creating .initWithPrivateKeySigner) state)
    else some (move position .finished state)
  | .creating stage =>
    match stage.next with
    | some stage => some (move position (.creating stage) state)
    | none => some (startPublishing position handler.issue state)
  | .publishing => none
  | .finished => none

/-- One event. A claim is accepted once, and announced once after that; the cache
server may list the claims of a subject in any order. -/
def step (state : State) : Event → Option State
  | .accept issue => if issue ∈ state.accepted then none else some (accept issue state)
  | .announce client issue =>
    if issue ∈ state.accepted ∧ issue ∉ state.announced then some (announce client issue state)
    else none
  | .lose position => if position < state.bus.length then some (lose position state) else none
  | .deliver position =>
    match state.bus[position]? with
    | some letter => some (deliver position letter state)
    | none => none
  | .sweep => stepSweep stored state
  | .sweepClaims claims =>
    match state.sweep with
    | .readingClaims did rest =>
      if claims.isPerm (state.claimsOf did) then
        some { state with sweep := .readingDocument did rest claims }
      else none
    | _ => none
  | .sweepPublished endpoint =>
    match state.sweep with
    | .publishing did rest claim more => some (published endpoint did rest claim more state)
    | _ => none
  | .handler position =>
    match state.handlers[position]? with
    | some handler => stepHandler stored position handler state
    | none => none
  | .handlerPublished position endpoint =>
    match state.handlers[position]? with
    | some handler =>
      if handler.state = .publishing then some (handled endpoint position handler.issue state)
      else none
    | none => none

/-- What an event does, and when it can happen. -/
inductive Effect (state : State) : Event → State → Prop where
  | accepted (issue : Issue) (fresh : issue ∉ state.accepted) :
      Effect state (.accept issue) (accept issue state)
  | announced (client : Nat) (issue : Issue) (known : issue ∈ state.accepted)
      (unsent : issue ∉ state.announced) :
      Effect state (.announce client issue) (announce client issue state)
  | lost (position : Nat) (inside : position < state.bus.length) :
      Effect state (.lose position) (lose position state)
  | delivered (position : Nat) (letter : Letter) (located : state.bus[position]? = some letter) :
      Effect state (.deliver position) (deliver position letter state)
  | signersRead (reached : state.sweep = .gettingSigners) :
      Effect state .sweep { state with sweep := nextAsset stored }
  | sweepStage (stage later : Stage) (did : String) (rest : List String)
      (reached : state.sweep = .creating stage did rest) (following : stage.next = some later) :
      Effect state .sweep { state with sweep := .creating later did rest }
  | sweepCreated (stage : Stage) (did : String) (rest : List String)
      (reached : state.sweep = .creating stage did rest) (following : stage.next = none) :
      Effect state .sweep { state with sweep := .readingClaims did rest }
  | claimsRead (did : String) (rest : List String) (claims : List IssuedClaim)
      (reached : state.sweep = .readingClaims did rest)
      (listed : claims.Perm (state.claimsOf did)) :
      Effect state (.sweepClaims claims) { state with sweep := .readingDocument did rest claims }
  | documentRead (did : String) (rest : List String) (claims : List IssuedClaim)
      (reached : state.sweep = .readingDocument did rest claims) :
      Effect state .sweep (select did rest claims state)
  | sweepPublished (endpoint did : String) (rest : List String) (claim : IssuedClaim)
      (more : List IssuedClaim) (reached : state.sweep = .publishing did rest claim more) :
      Effect state (.sweepPublished endpoint) (published endpoint did rest claim more state)
  | signerFound (position : Nat) (handler : Handler)
      (located : state.handlers[position]? = some handler)
      (reached : handler.state = .gettingSigner) (known : handler.issue.subject ∈ stored) :
      Effect state (.handler position)
        (move position (.creating .initWithPrivateKeySigner) state)
  | signerAbsent (position : Nat) (handler : Handler)
      (located : state.handlers[position]? = some handler)
      (reached : handler.state = .gettingSigner) (unknown : handler.issue.subject ∉ stored) :
      Effect state (.handler position) (move position .finished state)
  | handlerStage (position : Nat) (handler : Handler) (stage later : Stage)
      (located : state.handlers[position]? = some handler)
      (reached : handler.state = .creating stage) (following : stage.next = some later) :
      Effect state (.handler position) (move position (.creating later) state)
  | handlerCreated (position : Nat) (handler : Handler) (stage : Stage)
      (located : state.handlers[position]? = some handler)
      (reached : handler.state = .creating stage) (following : stage.next = none) :
      Effect state (.handler position) (startPublishing position handler.issue state)
  | handlerPublished (position : Nat) (endpoint : String) (handler : Handler)
      (located : state.handlers[position]? = some handler)
      (reached : handler.state = .publishing) :
      Effect state (.handlerPublished position endpoint)
        (handled endpoint position handler.issue state)

variable {stored} {state next : State} {event : Event}

/-- The sweep's answers have no other effects. -/
theorem stepSweep_effect (stepped : stepSweep stored state = some next) :
    Effect stored state .sweep next := by
  unfold stepSweep at stepped
  split at stepped
  · next reached =>
    obtain rfl := Option.some.inj stepped
    exact .signersRead reached
  · next stage did rest reached =>
    split at stepped
    · next later following =>
      obtain rfl := Option.some.inj stepped
      exact .sweepStage stage later did rest reached following
    · next following =>
      obtain rfl := Option.some.inj stepped
      exact .sweepCreated stage did rest reached following
  · next did rest claims reached =>
    obtain rfl := Option.some.inj stepped
    exact .documentRead did rest claims reached
  all_goals cases stepped

/-- The handlers' answers have no other effects. -/
theorem stepHandler_effect {position : Nat} {handler : Handler}
    (located : state.handlers[position]? = some handler)
    (stepped : stepHandler stored position handler state = some next) :
    Effect stored state (.handler position) next := by
  unfold stepHandler at stepped
  split at stepped
  · next reached =>
    split at stepped
    · next known =>
      obtain rfl := Option.some.inj stepped
      exact .signerFound position handler located reached known
    · next unknown =>
      obtain rfl := Option.some.inj stepped
      exact .signerAbsent position handler located reached unknown
  · next stage reached =>
    split at stepped
    · next later following =>
      obtain rfl := Option.some.inj stepped
      exact .handlerStage position handler stage later located reached following
    · next following =>
      obtain rfl := Option.some.inj stepped
      exact .handlerCreated position handler stage located reached following
  all_goals cases stepped

/-- A step has one of these effects. -/
theorem step_effect (stepped : step stored state event = some next) :
    Effect stored state event next := by
  unfold step at stepped
  split at stepped
  · next issue =>
    split at stepped
    · cases stepped
    · next fresh =>
      obtain rfl := Option.some.inj stepped
      exact .accepted issue fresh
  · next client issue =>
    split at stepped
    · next allowed =>
      obtain rfl := Option.some.inj stepped
      exact .announced client issue allowed.1 allowed.2
    · cases stepped
  · next position =>
    split at stepped
    · next inside =>
      obtain rfl := Option.some.inj stepped
      exact .lost position inside
    · cases stepped
  · next position =>
    split at stepped
    · next letter located =>
      obtain rfl := Option.some.inj stepped
      exact .delivered position letter located
    · cases stepped
  · exact stepSweep_effect stepped
  · next claims =>
    split at stepped
    · next did rest reached =>
      split at stepped
      · next permuted =>
        obtain rfl := Option.some.inj stepped
        exact .claimsRead did rest claims reached (List.isPerm_iff.mp permuted)
      · cases stepped
    · cases stepped
  · next endpoint =>
    split at stepped
    · next did rest claim more reached =>
      obtain rfl := Option.some.inj stepped
      exact .sweepPublished endpoint did rest claim more reached
    · cases stepped
  · next position =>
    split at stepped
    · next handler located => exact stepHandler_effect located stepped
    · cases stepped
  · next position endpoint =>
    split at stepped
    · next handler located =>
      split at stepped
      · next reached =>
        obtain rfl := Option.some.inj stepped
        exact .handlerPublished position endpoint handler located reached
      · cases stepped
    · cases stepped

/-- Each of these effects is one of a step. -/
theorem Effect.step (effect : Effect stored state event next) :
    Exchange.step stored state event = some next := by
  cases effect with
  | accepted issue fresh => exact if_neg fresh
  | announced client issue known unsent => exact if_pos ⟨known, unsent⟩
  | lost position inside => exact if_pos inside
  | delivered position letter located => simp only [Exchange.step, located]
  | signersRead reached => simp only [Exchange.step, stepSweep, reached]
  | sweepStage stage later did rest reached following =>
    simp only [Exchange.step, stepSweep, reached, following]
  | sweepCreated stage did rest reached following =>
    simp only [Exchange.step, stepSweep, reached, following]
  | claimsRead did rest claims reached listed =>
    simp only [Exchange.step, reached, List.isPerm_iff.mpr listed, if_true]
  | documentRead did rest claims reached => simp only [Exchange.step, stepSweep, reached]
  | sweepPublished endpoint did rest claim more reached => simp only [Exchange.step, reached]
  | signerFound position handler located reached known =>
    simp only [Exchange.step, stepHandler, located, reached, known, if_true]
  | signerAbsent position handler located reached unknown =>
    simp only [Exchange.step, stepHandler, located, reached, unknown, if_false]
  | handlerStage position handler stage later located reached following =>
    simp only [Exchange.step, stepHandler, located, reached, following]
  | handlerCreated position handler stage located reached following =>
    simp only [Exchange.step, stepHandler, located, reached, following]
  | handlerPublished position endpoint handler located reached =>
    simp only [Exchange.step, located, reached, if_true]

/-- The claims the sweep has selected and not published yet, the one being
published first. -/
def SweepState.pending : SweepState → List Issue
  | .publishing did _ claim more => (claim :: more).map (Issue.mk did)
  | _ => []

/-- The selected claims whose publication has not been invoked yet. -/
def SweepState.upcoming : SweepState → List Issue
  | .publishing did _ _ more => more.map (Issue.mk did)
  | _ => []

/-- The assets the sweep is at or has not come to. -/
def SweepState.ahead : SweepState → List String
  | .gettingSigners => []
  | .creating _ did rest => did :: rest
  | .readingClaims did rest => did :: rest
  | .readingDocument did rest _ => did :: rest
  | .publishing did rest _ _ => did :: rest
  | .finished => []

/-- The claims of messages in flight and of handlers. -/
def State.messages (state : State) : List Issue :=
  state.bus.map Letter.issue ++ state.handlers.map Handler.issue

/-- Whether a handler has invoked its publication, unless it found no signer. -/
def HandlerState.called : HandlerState → Bool
  | .gettingSigner => false
  | .creating _ => false
  | .publishing => true
  | .finished => true

@[simp] theorem nextAsset_pending (rest : List String) : (nextAsset rest).pending = [] := by
  cases rest <;> rfl

@[simp] theorem nextAsset_upcoming (rest : List String) : (nextAsset rest).upcoming = [] := by
  cases rest <;> rfl

@[simp] theorem nextAsset_ahead (rest : List String) : (nextAsset rest).ahead = rest := by
  cases rest <;> rfl

theorem upcoming_pending {sweep : SweepState} {issue : Issue} (member : issue ∈ sweep.upcoming) :
    issue ∈ sweep.pending := by
  cases sweep <;> first | exact List.mem_cons_of_mem _ member | cases member

/-- The listed claims of a subject are the accepted ones. -/
theorem mem_claimsOf {accepted : List Issue} {did : String} {claim : IssuedClaim} :
    claim ∈ claimsOf accepted did ↔ Issue.mk did claim ∈ accepted := by
  simp only [claimsOf, List.mem_map, List.mem_filter, decide_eq_true_eq]
  constructor
  · rintro ⟨⟨subject, claim⟩, ⟨member, rfl⟩, rfl⟩
    exact member
  · exact fun member => ⟨⟨did, claim⟩, ⟨member, rfl⟩, rfl⟩

/-- No claim of a subject is listed twice if none was accepted twice. -/
theorem claimsOf_nodup {accepted : List Issue} (distinct : accepted.Nodup) (did : String) :
    (claimsOf accepted did).Nodup := by
  refine List.pairwise_map.mpr ((distinct.filter _).imp_of_mem ?_)
  rintro ⟨subject, claim⟩ ⟨other, same⟩ left right different equal
  have leftSubject : subject = did := of_decide_eq_true (List.mem_filter.mp left).2
  have rightSubject : other = did := of_decide_eq_true (List.mem_filter.mp right).2
  subst leftSubject rightSubject
  exact different (congrArg (Issue.mk other) equal)

end EvDashboard.Exchange
