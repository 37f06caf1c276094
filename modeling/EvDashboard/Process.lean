import EvDashboard.Exchange
import EvDashboard.Listener
import EvDashboard.Services

/-!
# The process that the exchange machine describes

The process holds the code itself: what is left of `init` and of the callback of
each delivered message. A step answers the call that one of them awaits, from the
same data as the exchange machine, and continues with the code behind it.

The two take the same steps. Each control state of the machine stands for one
place of the code, named below by the code that is left there, and every answer to
the call awaited at that place is one event of the machine. What is said about the
machine is therefore said about the code.
-/

namespace EvDashboard.Process

open Async JavaScript Exchange

/-- What surrounds the process: the wallet library, a key store whose rows agree with
their keys, the client, the id of the service entry that a published token leads to,
the roles that the cache server knows, and the message that is sent for an issued claim. -/
structure Setting where
  ethers : Ethers
  table : KeyManager.Table
  rows : KeyManager.RowsAgree ethers table
  client : PrequalificationClient
  entryId : Option Json → String
  roles : String → Option RoleDefinition
  payload : Issue → String

variable (setting : Setting)

/-- The DIDs of the stored assets, in the order of the listing. -/
def Setting.stored : List String :=
  (KeyManager.getAllSigners setting.table).map (Did.sweepDID setting.ethers)

/-- The message of an issued claim. -/
def Setting.message (issue : Issue) : Message := ⟨0, .claimExchange, setting.payload issue⟩

/-- A claim as issuers issue it: for the DID of some wallet, with a message that
carries this DID and the token, and a token that leads to an entry with its id. -/
structure Issued (issue : Issue) : Prop where
  subject : ∃ wallet, issue.subject = Did.sweepDID setting.ethers wallet
  announced : Listener.decode (setting.message issue) =
    .ok (some ⟨issue.subject, Asset.claimToken issue.claim⟩)
  identified : setting.entryId (Asset.claimToken issue.claim) = issue.id

/-- The data outside the process, the code left in it, and the document and entry id of
every publication invoked. -/
structure State where
  accepted : List Issue
  announced : List Issue
  bus : List Letter
  documents : Documents
  sweep : Awaiting PUnit
  handlers : List (Awaiting Unit)
  calls : List (String × String)

/-- What the services answer from, in terms of the claims accepted and the documents. The
claims come in any order. -/
def Setting.records (accepted : List Issue) (documents : Documents) : Records where
  signers := KeyManager.getAllSigners setting.table
  signerForDID := fun did found => found = KeyManager.getSignerForDID setting.table did
  roleDefinition := fun role definition => definition = setting.roles role
  claims := fun did claims => claims.Perm (claimsOf accepted did)
  entryId := fun _ token id => id = setting.entryId token
  documents := documents

/-- How a call may be answered, and the documents after it. -/
def Serves (state : State) (call : Call) (answer : call.Answer) (next : Documents) : Prop :=
  ∃ added, (setting.records state.accepted state.documents).Answers setting.ethers call answer
      added ∧ next = state.documents.after added

/-- The publication a program is waiting for. -/
def invocation {α : Type} : Awaiting α → List (String × String)
  | .await (.publishPublicClaim key token) _ =>
    [(Did.sweepDID setting.ethers ⟨key⟩, setting.entryId token)]
  | _ => []

/-- The pending call of a program is answered, and the program continues. -/
inductive Answered {α : Type} (state : State) : Awaiting α → Awaiting α → Documents → Prop where
  | mk (call : Call) (resume : call.Answer → Awaiting α) (answer : call.Answer) (next : Documents)
      (served : Serves setting state call answer next) :
      Answered state (.await call resume) (resume answer) next

/-- The steps of the process and of what surrounds it. -/
inductive Step : State → State → Prop where
  | accept (state : State) (issue : Issue) (issued : Issued setting issue)
      (fresh : issue ∉ state.accepted) :
      Step state { state with accepted := state.accepted ++ [issue] }
  | announce (state : State) (client : Nat) (issue : Issue) (known : issue ∈ state.accepted)
      (unsent : issue ∉ state.announced) :
      Step state { state with
        announced := state.announced ++ [issue]
        bus := state.bus ++ [⟨client, issue⟩] }
  | lose (state : State) (position : Nat) (inside : position < state.bus.length) :
      Step state { state with bus := state.bus.eraseIdx position }
  | deliver (state : State) (position : Nat) (letter : Letter)
      (located : state.bus[position]? = some letter) :
      Step state { state with
        bus := state.bus.eraseIdx position
        handlers := state.handlers ++ [setting.client.handle (setting.message letter.issue)] }
  | sweep (state : State) (sweep : Awaiting PUnit) (documents : Documents)
      (answered : Answered setting state state.sweep sweep documents) :
      Step state { state with
        documents := documents
        sweep := sweep
        calls := state.calls ++ invocation setting sweep }
  | handler (state : State) (position : Nat) (program next : Awaiting Unit)
      (documents : Documents) (located : state.handlers[position]? = some program)
      (answered : Answered setting state program next documents) :
      Step state { state with
        documents := documents
        handlers := state.handlers.modify position (fun _ => next)
        calls := state.calls ++ invocation setting next }

/-- The process when `init` has just been called. -/
def State.started (accepted : List Issue) (documents : Documents) : State :=
  ⟨accepted, [], [], documents, setting.client.init setting.ethers, [], []⟩

/-- What is left of `create` at each of its awaits. -/
def awaitStage (factory : IamClientLibFactory) (key : String) : Stage → Awaiting IamClients
  | .initWithPrivateKeySigner => factory.create key
  | .connectToCacheServer => do
    await (.connectToCacheServer key messagingConfig cacheConfig)
    await (.connectToDidRegistry key)
    pure ⟨key⟩
  | .connectToDidRegistry => do
    await (.connectToDidRegistry key)
    pure ⟨key⟩

/-- What is left of the sweep after an asset. -/
def afterAsset (rest : List Wallet) : Awaiting PUnit :=
  rest.forM (setting.client.checkWallet setting.ethers)

/-- What is left of the check of one asset once its document was read. -/
def afterDocument (wallet : Wallet) (document : DidDocument) (claims : List IssuedClaim) :
    Awaiting PUnit :=
  claims.forM (Asset.publishMissing ⟨wallet.privateKey⟩ document)

/-- What is left of it once its claims were read. -/
def afterClaims (wallet : Wallet) (claims : List IssuedClaim) : Awaiting PUnit := do
  let document ← await
    (.getDidDocument wallet.privateKey (Did.sweepDID setting.ethers wallet) true)
  afterDocument wallet document claims

/-- What is left of it once its library clients were created. -/
def afterCreate (wallet : Wallet) : Awaiting PUnit := do
  let claims ← await
    (.getClaimsBySubject wallet.privateKey (Did.sweepDID setting.ethers wallet) true)
  afterClaims setting wallet claims

/-- Where the sweep stands, by the code that is left of it. -/
inductive SweepAt : Awaiting PUnit → SweepState → Prop where
  | gettingSigners : SweepAt (setting.client.init setting.ethers) .gettingSigners
  | creating (stage : Stage) (wallet : Wallet) (rest : List Wallet) :
      SweepAt
        (awaitStage setting.client.iamClientLibFactory wallet.privateKey stage >>= fun _ =>
          afterCreate setting wallet >>= fun _ => afterAsset setting rest)
        (.creating stage (Did.sweepDID setting.ethers wallet)
          (rest.map (Did.sweepDID setting.ethers)))
  | readingClaims (wallet : Wallet) (rest : List Wallet) :
      SweepAt (afterCreate setting wallet >>= fun _ => afterAsset setting rest)
        (.readingClaims (Did.sweepDID setting.ethers wallet)
          (rest.map (Did.sweepDID setting.ethers)))
  | readingDocument (wallet : Wallet) (rest : List Wallet) (claims : List IssuedClaim)
      (issued : ∀ claim ∈ claims, setting.entryId (Asset.claimToken claim) = claim.id) :
      SweepAt (afterClaims setting wallet claims >>= fun _ => afterAsset setting rest)
        (.readingDocument (Did.sweepDID setting.ethers wallet)
          (rest.map (Did.sweepDID setting.ethers)) claims)
  | publishing (wallet : Wallet) (rest : List Wallet) (document : DidDocument)
      (claim : IssuedClaim) (claims : List IssuedClaim)
      (issued : ∀ other ∈ claim :: claims,
        setting.entryId (Asset.claimToken other) = other.id) :
      SweepAt
        (.await (.publishPublicClaim wallet.privateKey (Asset.claimToken claim)) fun _ =>
          afterDocument wallet document claims >>= fun _ => afterAsset setting rest)
        (.publishing (Did.sweepDID setting.ethers wallet)
          (rest.map (Did.sweepDID setting.ethers)) claim
          (claims.filter (Asset.missing document)))
  | finished : SweepAt (.done ⟨⟩) .finished

/-- Where the handler of a claim's message stands, by the code that is left of it. -/
inductive HandlerAt : Awaiting Unit → Handler → Prop where
  | gettingSigner (issue : Issue) (issued : Issued setting issue) :
      HandlerAt (Listener.proceed setting.client .claimExchange
        ⟨issue.subject, Asset.claimToken issue.claim⟩) ⟨issue, .gettingSigner⟩
  | creating (stage : Stage) (wallet : Wallet) (issue : Issue) (issued : Issued setting issue)
      (own : Did.sweepDID setting.ethers wallet = issue.subject) :
      HandlerAt
        (awaitStage setting.client.iamClientLibFactory wallet.privateKey stage >>= fun _ =>
          .await (.publishPublicClaim wallet.privateKey (Asset.claimToken issue.claim)) fun _ =>
            .done ())
        ⟨issue, .creating stage⟩
  | publishing (wallet : Wallet) (issue : Issue) (issued : Issued setting issue)
      (own : Did.sweepDID setting.ethers wallet = issue.subject) :
      HandlerAt
        (.await (.publishPublicClaim wallet.privateKey (Asset.claimToken issue.claim)) fun _ =>
          .done ())
        ⟨issue, .publishing⟩
  | finished (issue : Issue) : HandlerAt (.done ()) ⟨issue, .finished⟩

/-- The process and the machine agree: on the data, on where the code stands, and on
the publications invoked. -/
structure Matches (process : State) (state : Exchange.State) : Prop where
  accepted : process.accepted = state.accepted
  announced : process.announced = state.announced
  bus : process.bus = state.bus
  documents : process.documents = state.documents
  issued : ∀ issue ∈ state.accepted, Issued setting issue
  sent : ∀ letter ∈ state.bus, letter.issue ∈ state.accepted
  sweep : SweepAt setting process.sweep state.sweep
  running : process.handlers.length = state.handlers.length
  handlers : ∀ (position : Nat) program handler, process.handlers[position]? = some program →
    state.handlers[position]? = some handler → HandlerAt setting program handler
  calls : process.calls = state.calls.map (fun issue => (issue.subject, issue.id))

variable {setting}

/-- The code after an asset stands at the creation of the next one's clients, or at the
end. -/
theorem afterAsset_at (rest : List Wallet) :
    SweepAt setting (afterAsset setting rest)
      (nextAsset (rest.map (Did.sweepDID setting.ethers))) := by
  cases rest with
  | nil => exact .finished
  | cons wallet rest => exact .creating .initWithPrivateKeySigner wallet rest

/-- What holds of the claims to come holds of those after the first. -/
theorem later_issued {claim : IssuedClaim} {claims : List IssuedClaim}
    (issued : ∀ other ∈ claim :: claims, setting.entryId (Asset.claimToken other) = other.id) :
    ∀ other ∈ claims, setting.entryId (Asset.claimToken other) = other.id :=
  fun other member => issued other (List.mem_cons_of_mem _ member)

/-- The code after a document stands at the first claim that the document lacks, or
goes on to the next asset. The induction is on the claims still to come. -/
theorem afterDocument_at (wallet : Wallet) (rest : List Wallet) (document : DidDocument)
    (claims : List IssuedClaim)
    (issued : ∀ claim ∈ claims, setting.entryId (Asset.claimToken claim) = claim.id) :
    SweepAt setting (afterDocument wallet document claims >>= fun _ => afterAsset setting rest)
      (nextClaim (Did.sweepDID setting.ethers wallet) (rest.map (Did.sweepDID setting.ethers))
        (claims.filter (Asset.missing document))) := by
  induction claims with
  | nil => exact afterAsset_at rest
  | cons claim claims inductionHypothesis =>
    have first : afterDocument wallet document (claim :: claims) =
        (Asset.publishMissing ⟨wallet.privateKey⟩ document claim >>= fun _ =>
          afterDocument wallet document claims) := rfl
    rw [first, Asset.publishMissing]
    by_cases missing : Asset.missing document claim = true
    · rw [if_pos missing, List.filter_cons_of_pos missing]
      exact .publishing wallet rest document claim claims issued
    · rw [if_neg missing, List.filter_cons_of_neg missing]
      exact inductionHypothesis (later_issued issued)

/-- The claim whose publication the sweep has invoked and awaits. -/
def invoking : SweepState → List Issue
  | .publishing did _ claim _ => [⟨did, claim⟩]
  | _ => []

theorem invoking_nextAsset (rest : List String) : invoking (nextAsset rest) = [] := by
  cases rest <;> rfl

theorem invoking_nextClaim (did : String) (rest : List String) (claims : List IssuedClaim) :
    invoking (nextClaim did rest claims) = invoked did claims := by
  cases claims with
  | nil => exact invoking_nextAsset rest
  | cons claim more => rfl

/-- The code awaits a publication where the machine says so. -/
theorem SweepAt.invocation_eq {program : Awaiting PUnit} {sweep : SweepState}
    (at_ : SweepAt setting program sweep) :
    invocation setting program =
      (invoking sweep).map (fun issue => (issue.subject, issue.id)) := by
  cases at_ with
  | gettingSigners => rfl
  | creating stage wallet rest => cases stage <;> rfl
  | readingClaims wallet rest => rfl
  | readingDocument wallet rest claims issued => rfl
  | publishing wallet rest document claim claims issued =>
    simp only [invocation, invoking, issued claim List.mem_cons_self, List.map_cons, List.map_nil]
    rfl
  | finished => rfl

/-- What an awaiting program continues with. -/
theorem answered_await {α : Type} {process : State} {call : Call}
    {resume : call.Answer → Awaiting α} {program : Awaiting α} {documents : Documents} :
    Answered setting process (.await call resume) program documents ↔
      ∃ answer, Serves setting process call answer documents ∧ program = resume answer := by
  constructor
  · intro answered
    cases answered with
    | mk _ _ answer _ served => exact ⟨answer, served, rfl⟩
  · rintro ⟨answer, served, rfl⟩
    exact .mk call resume answer documents served

/-- A call that adds nothing leaves the documents as they are. -/
theorem serves_silent {process : State} {call : Call} {answer : call.Answer}
    {documents : Documents}
    (silent : ∀ added, (setting.records process.accepted process.documents).Answers setting.ethers
      call answer added ↔ True ∧ added = none) :
    Serves setting process call answer documents ↔ documents = process.documents := by
  constructor
  · rintro ⟨added, answers, rfl⟩
    obtain rfl := ((silent added).mp answers).2
    rfl
  · rintro rfl
    exact ⟨none, (silent none).mpr ⟨trivial, rfl⟩, rfl⟩

/-- Creating clients goes from one stage to the next, and then to what uses them. -/
theorem answered_stage {α : Type} {process : State} {factory : IamClientLibFactory}
    {key : String} {stage : Stage} {use : IamClients → Awaiting α} {program : Awaiting α}
    {documents : Documents} :
    Answered setting process (awaitStage factory key stage >>= use) program documents ↔
      documents = process.documents ∧ program = match stage.next with
        | some following => awaitStage factory key following >>= use
        | none => use ⟨key⟩ := by
  have waits {call : Call} {resume : call.Answer → Awaiting α} (answer : call.Answer)
      (shape : awaitStage factory key stage >>= use = .await call resume)
      (silent : ∀ reply, Serves setting process call reply documents ↔
        documents = process.documents)
      (same : ∀ reply, resume reply = match stage.next with
        | some following => awaitStage factory key following >>= use
        | none => use ⟨key⟩) :
      Answered setting process (awaitStage factory key stage >>= use) program documents ↔
        documents = process.documents ∧ program = match stage.next with
          | some following => awaitStage factory key following >>= use
          | none => use ⟨key⟩ := by
    rw [shape, answered_await]
    constructor
    · rintro ⟨reply, served, rfl⟩
      exact ⟨(silent reply).mp served, same reply⟩
    · rintro ⟨unchanged, rfl⟩
      exact ⟨answer, (silent answer).mpr unchanged, (same answer).symm⟩
  cases stage with
  | initWithPrivateKeySigner =>
    exact waits () rfl (fun _ => serves_silent (fun _ => Iff.rfl)) (fun _ => rfl)
  | connectToCacheServer =>
    exact waits () rfl (fun _ => serves_silent (fun _ => Iff.rfl)) (fun _ => rfl)
  | connectToDidRegistry =>
    exact waits () rfl (fun _ => serves_silent (fun _ => Iff.rfl)) (fun _ => rfl)

/-- The sweep moves on in both. -/
theorem Matches.sweepTo {process : State} {state : Exchange.State}
    (matched : Matches setting process state) {program : Awaiting PUnit} {sweep : SweepState}
    (at_ : SweepAt setting program sweep) {documents others : Documents}
    (same : documents = others) (selected calls : List Issue)
    (called : calls = state.calls ++ invoking sweep) :
    Matches setting
      { process with
        documents := documents
        sweep := program
        calls := process.calls ++ invocation setting program }
      { state with
        documents := others
        sweep := sweep
        selected := selected
        calls := calls } :=
  { matched with
    documents := same
    sweep := at_
    calls := by
      rw [called, List.map_append, ← matched.calls, at_.invocation_eq] }

/-- The claims listed for a subject are issued ones. -/
theorem Matches.listed_issued {process : State} {state : Exchange.State}
    (matched : Matches setting process state) {did : String} {claims : List IssuedClaim}
    (listed : claims.Perm (state.claimsOf did)) :
    ∀ claim ∈ claims, setting.entryId (Asset.claimToken claim) = claim.id := by
  intro claim member
  have known : Issue.mk did claim ∈ state.accepted := mem_claimsOf.mp (listed.mem_iff.mp member)
  exact (matched.issued _ known).identified

/-- The entry that a published claim's token leads to is appended in both. -/
theorem Matches.grown {process : State} {state : Exchange.State}
    (matched : Matches setting process state) (wallet : Wallet) {claim : IssuedClaim}
    (identified : setting.entryId (Asset.claimToken claim) = claim.id) (endpoint : String) :
    process.documents.append (Did.sweepDID setting.ethers wallet)
        ⟨setting.entryId (Asset.claimToken claim), endpoint⟩ =
      state.documents.append (Did.sweepDID setting.ethers wallet) ⟨claim.id, endpoint⟩ := by
  rw [matched.documents, identified]

/-- A claim is missing from a read document exactly if the documents do not hold it. -/
theorem lacking_eq (state : Exchange.State) (did : String) (claims : List IssuedClaim) :
    state.lacking did claims = claims.filter (Asset.missing (state.documents did)) := by
  apply List.filter_congr
  intro claim _
  exact (state.documents.missing_eq did claim).symm

/-- After the document was read the code stands at the first claim that the machine
selects. -/
theorem Matches.selects {process : State} {state : Exchange.State}
    (matched : Matches setting process state) (wallet : Wallet) (rest : List Wallet)
    (claims : List IssuedClaim)
    (issued : ∀ claim ∈ claims, setting.entryId (Asset.claimToken claim) = claim.id) :
    SweepAt setting
      (afterDocument wallet (process.documents (Did.sweepDID setting.ethers wallet)) claims >>=
        fun _ => afterAsset setting rest)
      (nextClaim (Did.sweepDID setting.ethers wallet) (rest.map (Did.sweepDID setting.ethers))
        (state.lacking (Did.sweepDID setting.ethers wallet) claims)) := by
  rw [lacking_eq, ← matched.documents]
  exact afterDocument_at wallet rest _ claims issued

/-- Each answer to the sweep's call is one event of the machine. -/
theorem sweep_simulated {process : State} {state : Exchange.State}
    (matched : Matches setting process state) {program : Awaiting PUnit} {documents : Documents}
    (answered : Answered setting process process.sweep program documents) :
    ∃ event next, Effect setting.stored state event next ∧
      Matches setting
        { process with
          documents := documents
          sweep := program
          calls := process.calls ++ invocation setting program } next := by
  have at_ := matched.sweep
  generalize here : state.sweep = control at at_
  generalize process.sweep = code at at_ answered
  cases at_ with
  | gettingSigners =>
    obtain ⟨_, ⟨_, ⟨rfl, rfl⟩, rfl⟩, rfl⟩ := answered_await.mp answered
    refine ⟨_, _, .signersRead here, matched.sweepTo (afterAsset_at _) matched.documents
      state.selected state.calls ?_⟩
    rw [invoking_nextAsset, List.append_nil]
  | creating stage wallet rest =>
    obtain ⟨rfl, rfl⟩ := answered_stage.mp answered
    cases following : stage.next with
    | some later =>
      exact ⟨_, _, .sweepStage stage later _ _ here following, matched.sweepTo
        (.creating later wallet rest) matched.documents state.selected state.calls
        (List.append_nil _).symm⟩
    | none =>
      exact ⟨_, _, .sweepCreated stage _ _ here following, matched.sweepTo
        (.readingClaims wallet rest) matched.documents state.selected state.calls
        (List.append_nil _).symm⟩
  | readingClaims wallet rest =>
    obtain ⟨claims, ⟨_, ⟨listed, rfl⟩, rfl⟩, rfl⟩ := answered_await.mp answered
    have known : claims.Perm (state.claimsOf (Did.sweepDID setting.ethers wallet)) := by
      have known := listed rfl
      rw [matched.accepted] at known
      exact known
    exact ⟨_, _, .claimsRead _ _ claims here known, matched.sweepTo
      (.readingDocument wallet rest claims (matched.listed_issued known)) matched.documents
      state.selected state.calls (List.append_nil _).symm⟩
  | readingDocument wallet rest claims issued =>
    obtain ⟨_, ⟨_, ⟨rfl, rfl⟩, rfl⟩, rfl⟩ := answered_await.mp answered
    exact ⟨_, _, .documentRead _ _ claims here, matched.sweepTo
      (matched.selects wallet rest claims issued) matched.documents _ _
      (by rw [invoking_nextClaim])⟩
  | publishing wallet rest document claim claims issued =>
    obtain ⟨_, ⟨_, ⟨_, endpoint, rfl, rfl⟩, rfl⟩, rfl⟩ :=
      answered_await.mp answered
    exact ⟨_, _, .sweepPublished endpoint _ _ claim _ here, matched.sweepTo
      (afterDocument_at wallet rest document claims (later_issued issued))
      (matched.grown wallet (issued claim List.mem_cons_self) endpoint) state.selected _
      (by rw [invoking_nextClaim])⟩
  | finished => cases answered

/-- An event that answers the sweep's call. -/
def ofSweep : Event → Bool
  | .sweep => true
  | .sweepClaims _ => true
  | .sweepPublished _ => true
  | _ => false

/-- Each event of the sweep is an answer that leads it on in the same way. -/
theorem sweep_realised {process : State} {state next : Exchange.State}
    (matched : Matches setting process state) {event : Event} (sweeps : ofSweep event = true)
    (effect : Effect setting.stored state event next) :
    ∃ program documents, Answered setting process process.sweep program documents ∧
      Matches setting
        { process with
          documents := documents
          sweep := program
          calls := process.calls ++ invocation setting program } next := by
  have at_ := matched.sweep
  generalize process.sweep = code at at_ ⊢
  cases effect with
  | signersRead reached =>
    rw [reached] at at_
    cases at_
    refine ⟨_, _, answered_await.mpr ⟨_, ⟨_, ⟨rfl, rfl⟩, rfl⟩, rfl⟩,
      matched.sweepTo (afterAsset_at _) matched.documents state.selected state.calls ?_⟩
    rw [invoking_nextAsset, List.append_nil]
  | sweepStage stage later did rest reached following =>
    rw [reached] at at_
    cases at_ with
    | creating stage wallet rest =>
      refine ⟨_, _, answered_stage.mpr ⟨rfl, rfl⟩, ?_⟩
      rw [following]
      exact matched.sweepTo (.creating later wallet rest) matched.documents state.selected
        state.calls (List.append_nil _).symm
  | sweepCreated stage did rest reached following =>
    rw [reached] at at_
    cases at_ with
    | creating stage wallet rest =>
      refine ⟨_, _, answered_stage.mpr ⟨rfl, rfl⟩, ?_⟩
      rw [following]
      exact matched.sweepTo (.readingClaims wallet rest) matched.documents state.selected
        state.calls (List.append_nil _).symm
  | claimsRead did rest claims reached listed =>
    rw [reached] at at_
    cases at_ with
    | readingClaims wallet rest =>
      refine ⟨_, _, answered_await.mpr ⟨claims, ⟨_, ⟨fun _ => ?_, rfl⟩, rfl⟩, rfl⟩, matched.sweepTo
        (.readingDocument wallet rest claims (matched.listed_issued listed)) matched.documents
        state.selected state.calls (List.append_nil _).symm⟩
      show claims.Perm (claimsOf process.accepted _)
      rw [matched.accepted]
      exact listed
  | documentRead did rest claims reached =>
    rw [reached] at at_
    cases at_ with
    | readingDocument wallet rest claims issued =>
      exact ⟨_, _, answered_await.mpr ⟨_, ⟨_, ⟨rfl, rfl⟩, rfl⟩, rfl⟩, matched.sweepTo
        (matched.selects wallet rest claims issued) matched.documents _ _
        (by rw [invoking_nextClaim])⟩
  | sweepPublished endpoint did rest claim more reached =>
    rw [reached] at at_
    cases at_ with
    | publishing wallet rest document claim claims issued =>
      exact ⟨_, _, answered_await.mpr ⟨none, ⟨_, ⟨_, endpoint, rfl, rfl⟩, rfl⟩, rfl⟩,
        matched.sweepTo (afterDocument_at wallet rest document claims (later_issued issued))
          (matched.grown wallet (issued claim List.mem_cons_self) endpoint) state.selected _
          (by rw [invoking_nextClaim])⟩
  | _ => cases sweeps

/-- The claim whose publication a handler has invoked and awaits. -/
def handling : Handler → List Issue
  | ⟨issue, .publishing⟩ => [issue]
  | _ => []

theorem HandlerAt.invocation_eq {program : Awaiting Unit} {handler : Handler}
    (at_ : HandlerAt setting program handler) :
    invocation setting program =
      (handling handler).map (fun issue => (issue.subject, issue.id)) := by
  cases at_ with
  | gettingSigner issue issued => rfl
  | creating stage wallet issue issued own => cases stage <;> rfl
  | publishing wallet issue issued own =>
    simp only [invocation, handling, List.map_cons, List.map_nil, issued.identified]
    rw [← own]
  | finished issue => rfl

/-- A handler moves on in both. -/
theorem Matches.handlerTo {process : State} {state : Exchange.State}
    (matched : Matches setting process state) {position : Nat} {handler : Handler}
    (located : state.handlers[position]? = some handler) {program : Awaiting Unit}
    {control : HandlerState} (at_ : HandlerAt setting program { handler with state := control })
    {documents others : Documents} (same : documents = others) (calls : List Issue)
    (called : calls = state.calls ++ handling { handler with state := control }) :
    Matches setting
      { process with
        documents := documents
        handlers := process.handlers.modify position (fun _ => program)
        calls := process.calls ++ invocation setting program }
      { state with
        documents := others
        handlers := state.handlers.modify position
          (fun handler => { handler with state := control })
        calls := calls } :=
  { matched with
    documents := same
    running := by rw [List.length_modify, List.length_modify, matched.running]
    handlers := by
      intro other code moved here there
      rw [List.getElem?_modify] at here there
      by_cases position_eq : position = other
      · subst position_eq
        rw [located] at there
        obtain ⟨_, _, rfl⟩ := Option.map_eq_some_iff.mp here
        cases there
        simpa using at_
      · simp only [position_eq, if_false, id_map'] at here there
        exact matched.handlers other code moved here there
    calls := by
      rw [called, List.map_append, ← matched.calls, at_.invocation_eq] }

/-- The lookup finds a wallet exactly for a stored asset, and a wallet whose DID is the
claim's subject. -/
theorem Issued.lookup {issue : Issue} (issued : Issued setting issue) :
    match KeyManager.getSignerForDID setting.table (Did.assetDID issue.subject) with
    | some wallet => Did.sweepDID setting.ethers wallet = issue.subject ∧
        issue.subject ∈ setting.stored
    | none => issue.subject ∉ setting.stored := by
  obtain ⟨subject, spelled⟩ := issued.subject
  rw [spelled, Did.assetDID_sweepDID]
  cases found : KeyManager.getSignerForDID setting.table
      (Did.keyPairDID setting.ethers subject) with
  | some wallet =>
    obtain ⟨listed, same⟩ := setting.rows.getSignerForDID setting.ethers found
    have equal : Did.sweepDID setting.ethers wallet = Did.sweepDID setting.ethers subject :=
      congrArg ("did:ethr:volta:" ++ ·) ((Did.keyPairDID_eq_iff setting.ethers _ _).mp same)
    exact ⟨equal, List.mem_map.mpr ⟨wallet, listed, equal⟩⟩
  | none =>
    intro stored
    obtain ⟨wallet, listed, same⟩ := List.mem_map.mp stored
    obtain ⟨other, located, _⟩ := setting.rows.finds setting.ethers listed
    have equal : Did.keyPairDID setting.ethers wallet = Did.keyPairDID setting.ethers subject :=
      congrArg ("did:ethr:" ++ ·) ((String.append_right_inj _).mp same)
    rw [equal, found] at located
    cases located

/-- A handler that the machine has at a position stands at its place of the code. -/
theorem Matches.handler_at {process : State} {state : Exchange.State}
    (matched : Matches setting process state) {position : Nat} {program : Awaiting Unit}
    (located : process.handlers[position]? = some program) :
    ∃ handler, state.handlers[position]? = some handler ∧ HandlerAt setting program handler := by
  obtain ⟨inside, _⟩ := List.getElem?_eq_some_iff.mp located
  rw [matched.running] at inside
  refine ⟨state.handlers[position], List.getElem?_eq_getElem inside, ?_⟩
  exact matched.handlers position program _ located (List.getElem?_eq_getElem inside)

/-- Each answer to a handler's call is one event of the machine. -/
theorem handler_simulated {process : State} {state : Exchange.State}
    (matched : Matches setting process state) {position : Nat} {program next : Awaiting Unit}
    {documents : Documents} (located : process.handlers[position]? = some program)
    (answered : Answered setting process program next documents) :
    ∃ event following, Effect setting.stored state event following ∧
      Matches setting
        { process with
          documents := documents
          handlers := process.handlers.modify position (fun _ => next)
          calls := process.calls ++ invocation setting next } following := by
  obtain ⟨handler, there, at_⟩ := matched.handler_at located
  cases at_ with
  | gettingSigner issue issued =>
    obtain ⟨found, ⟨_, ⟨looked, rfl⟩, rfl⟩, rfl⟩ := answered_await.mp answered
    have lookup := issued.lookup
    rw [← looked] at lookup
    cases found with
    | some wallet =>
      exact ⟨_, _, .signerFound position _ there rfl lookup.2, matched.handlerTo there
        (.creating .initWithPrivateKeySigner wallet issue issued lookup.1) matched.documents
        state.calls (List.append_nil _).symm⟩
    | none =>
      exact ⟨_, _, .signerAbsent position _ there rfl lookup, matched.handlerTo there
        (.finished issue) matched.documents state.calls (List.append_nil _).symm⟩
  | creating stage wallet issue issued own =>
    obtain ⟨rfl, rfl⟩ := answered_stage.mp answered
    cases following : stage.next with
    | some later =>
      exact ⟨_, _, .handlerStage position _ stage later there rfl following, matched.handlerTo there
        (.creating later wallet issue issued own) matched.documents state.calls
        (List.append_nil _).symm⟩
    | none =>
      exact ⟨_, _, .handlerCreated position _ stage there rfl following, matched.handlerTo there
        (.publishing wallet issue issued own) matched.documents _ rfl⟩
  | publishing wallet issue issued own =>
    obtain ⟨_, ⟨_, ⟨_, endpoint, rfl, rfl⟩, rfl⟩, rfl⟩ :=
      answered_await.mp answered
    exact ⟨_, _, .handlerPublished position endpoint _ there rfl, matched.handlerTo there
      (.finished issue) (own ▸ matched.grown wallet issued.identified endpoint) state.calls
      (List.append_nil _).symm⟩
  | finished issue => cases answered

/-- An event that answers the call of the handler at a position. -/
def ofHandler (position : Nat) : Event → Bool
  | .handler other => other = position
  | .handlerPublished other _ => other = position
  | _ => false

/-- The code of a handler that the machine has at a position. -/
theorem Matches.code_at {process : State} {state : Exchange.State}
    (matched : Matches setting process state) {position : Nat} {handler : Handler}
    (located : state.handlers[position]? = some handler) :
    ∃ code, process.handlers[position]? = some code ∧ HandlerAt setting code handler := by
  obtain ⟨inside, _⟩ := List.getElem?_eq_some_iff.mp located
  rw [← matched.running] at inside
  refine ⟨process.handlers[position], List.getElem?_eq_getElem inside, ?_⟩
  exact matched.handlers position _ handler (List.getElem?_eq_getElem inside) located

/-- Each event of a handler is an answer that leads it on in the same way. -/
theorem handler_realised {process : State} {state next : Exchange.State}
    (matched : Matches setting process state) {position : Nat} {event : Event}
    (handles : ofHandler position event = true)
    (effect : Effect setting.stored state event next) :
    ∃ code program documents, process.handlers[position]? = some code ∧
      Answered setting process code program documents ∧
      Matches setting
        { process with
          documents := documents
          handlers := process.handlers.modify position (fun _ => program)
          calls := process.calls ++ invocation setting program } next := by
  cases effect with
  | signerFound other handler there reached known =>
    obtain rfl := of_decide_eq_true handles
    obtain ⟨code, located, at_⟩ := matched.code_at there
    cases at_ with
    | gettingSigner issue issued =>
      have lookup := issued.lookup
      refine ⟨_, _, _, located, answered_await.mpr ⟨_, ⟨_, ⟨rfl, rfl⟩, rfl⟩, rfl⟩, ?_⟩
      cases found : KeyManager.getSignerForDID setting.table (Did.assetDID issue.subject) with
      | some wallet =>
        rw [found] at lookup
        exact matched.handlerTo there
          (.creating .initWithPrivateKeySigner wallet issue issued lookup.1) matched.documents
          state.calls (List.append_nil _).symm
      | none =>
        rw [found] at lookup
        exact absurd known lookup
    | _ => cases reached
  | signerAbsent other handler there reached unknown =>
    obtain rfl := of_decide_eq_true handles
    obtain ⟨code, located, at_⟩ := matched.code_at there
    cases at_ with
    | gettingSigner issue issued =>
      have lookup := issued.lookup
      refine ⟨_, _, _, located, answered_await.mpr ⟨_, ⟨_, ⟨rfl, rfl⟩, rfl⟩, rfl⟩, ?_⟩
      cases found : KeyManager.getSignerForDID setting.table (Did.assetDID issue.subject) with
      | some wallet =>
        rw [found] at lookup
        exact absurd lookup.2 unknown
      | none =>
        exact matched.handlerTo there (.finished issue) matched.documents state.calls
          (List.append_nil _).symm
    | _ => cases reached
  | handlerStage other handler stage later there reached following =>
    obtain rfl := of_decide_eq_true handles
    obtain ⟨code, located, at_⟩ := matched.code_at there
    cases at_ with
    | creating stage wallet issue issued own =>
      cases reached
      refine ⟨_, _, _, located, answered_stage.mpr ⟨rfl, rfl⟩, ?_⟩
      rw [following]
      exact matched.handlerTo there (.creating later wallet issue issued own) matched.documents
        state.calls (List.append_nil _).symm
    | _ => cases reached
  | handlerCreated other handler stage there reached following =>
    obtain rfl := of_decide_eq_true handles
    obtain ⟨code, located, at_⟩ := matched.code_at there
    cases at_ with
    | creating stage wallet issue issued own =>
      cases reached
      refine ⟨_, _, _, located, answered_stage.mpr ⟨rfl, rfl⟩, ?_⟩
      rw [following]
      exact matched.handlerTo there (.publishing wallet issue issued own) matched.documents
        (state.calls ++ [issue]) rfl
    | _ => cases reached
  | handlerPublished other endpoint handler there reached =>
    obtain rfl := of_decide_eq_true handles
    obtain ⟨code, located, at_⟩ := matched.code_at there
    cases at_ with
    | publishing wallet issue issued own =>
      exact ⟨_, _, _, located, answered_await.mpr ⟨none, ⟨_, ⟨_, endpoint, rfl, rfl⟩, rfl⟩, rfl⟩,
        matched.handlerTo there (.finished issue)
          (own ▸ matched.grown wallet issued.identified endpoint) state.calls
          (List.append_nil _).symm⟩
    | _ => cases reached
  | _ => cases handles

/-- The callback of a claim's message stands at the lookup of the signer. -/
theorem Issued.handle_at {issue : Issue} (issued : Issued setting issue) :
    HandlerAt setting (setting.client.handle (setting.message issue))
      ⟨issue, .gettingSigner⟩ := by
  rw [Listener.handle_eq, issued.announced]
  exact .gettingSigner issue issued

/-- A delivered message starts a handler in both. -/
theorem Matches.deliver {process : State} {state : Exchange.State}
    (matched : Matches setting process state) {position : Nat} {letter : Letter}
    (located : state.bus[position]? = some letter) :
    Matches setting
      { process with
        bus := process.bus.eraseIdx position
        handlers := process.handlers ++ [setting.client.handle (setting.message letter.issue)] }
      (Exchange.deliver position letter state) :=
  { matched with
    bus := by rw [matched.bus, Exchange.deliver]
    sent := fun other member => matched.sent other ((List.eraseIdx_sublist _ _).subset member)
    running := by simp only [Exchange.deliver, List.length_append, matched.running,
      List.length_singleton]
    handlers := by
      intro other program handler here there
      have known : letter.issue ∈ state.accepted :=
        matched.sent letter (List.mem_of_getElem? located)
      simp only [Exchange.deliver] at there
      rw [List.getElem?_append] at here there
      rw [matched.running] at here
      by_cases inside : other < state.handlers.length
      · rw [if_pos inside] at here there
        exact matched.handlers other program handler here there
      · rw [if_neg inside] at here there
        cases offset : other - state.handlers.length with
        | zero =>
          rw [offset] at here there
          cases here
          cases there
          exact (matched.issued _ known).handle_at
        | succ further =>
          rw [offset] at here
          cases here }

/-- A claim is accepted in both. -/
theorem Matches.accept {process : State} {state : Exchange.State}
    (matched : Matches setting process state) {issue : Issue} (issued : Issued setting issue) :
    Matches setting { process with accepted := process.accepted ++ [issue] }
      (Exchange.accept issue state) :=
  { matched with
    accepted := by rw [matched.accepted, Exchange.accept]
    issued := by
      intro other member
      rcases List.mem_append.mp member with earlier | last
      · exact matched.issued other earlier
      · exact List.mem_singleton.mp last ▸ issued
    sent := fun letter member => List.mem_append_left _ (matched.sent letter member) }

/-- A message is sent in both. -/
theorem Matches.announce {process : State} {state : Exchange.State}
    (matched : Matches setting process state) (client : Nat) {issue : Issue}
    (known : issue ∈ state.accepted) :
    Matches setting
      { process with
        announced := process.announced ++ [issue]
        bus := process.bus ++ [⟨client, issue⟩] }
      (Exchange.announce client issue state) :=
  { matched with
    announced := by rw [matched.announced, Exchange.announce]
    bus := by rw [matched.bus, Exchange.announce]
    sent := by
      intro letter member
      rcases List.mem_append.mp member with earlier | last
      · exact matched.sent letter earlier
      · exact List.mem_singleton.mp last ▸ known }

/-- A message is lost in both. -/
theorem Matches.lose {process : State} {state : Exchange.State}
    (matched : Matches setting process state) (position : Nat) :
    Matches setting { process with bus := process.bus.eraseIdx position }
      (Exchange.lose position state) :=
  { matched with
    bus := by rw [matched.bus, Exchange.lose]
    sent := fun letter member => matched.sent letter ((List.eraseIdx_sublist _ _).subset member) }

/-- Each step of the process is one event of the machine. -/
theorem step_simulated {process next : State} {state : Exchange.State}
    (matched : Matches setting process state) (stepped : Step setting process next) :
    ∃ event following, Exchange.step setting.stored state event = some following ∧
      Matches setting next following := by
  cases stepped with
  | accept issue issued fresh =>
    rw [matched.accepted] at fresh
    exact ⟨_, _, (Effect.accepted issue fresh).step, matched.accept issued⟩
  | announce client issue known unsent =>
    rw [matched.accepted] at known
    rw [matched.announced] at unsent
    exact ⟨_, _, (Effect.announced client issue known unsent).step, matched.announce client known⟩
  | lose position inside =>
    rw [matched.bus] at inside
    exact ⟨_, _, (Effect.lost position inside).step, matched.lose position⟩
  | deliver position letter located =>
    rw [matched.bus] at located
    exact ⟨_, _, (Effect.delivered position letter located).step, matched.deliver located⟩
  | sweep program documents answered =>
    obtain ⟨event, following, effect, still⟩ := sweep_simulated matched answered
    exact ⟨event, following, effect.step, still⟩
  | handler position program next documents located answered =>
    obtain ⟨event, following, effect, still⟩ := handler_simulated matched located answered
    exact ⟨event, following, effect.step, still⟩

/-- Each event of the machine is one step of the process. -/
theorem step_realised {process : State} {state following : Exchange.State}
    (matched : Matches setting process state) {event : Event}
    (issued : ∀ issue, event = .accept issue → Issued setting issue)
    (stepped : Exchange.step setting.stored state event = some following) :
    ∃ next, Step setting process next ∧ Matches setting next following := by
  have effect := step_effect stepped
  have swept (sweeps : ofSweep event = true) :
      ∃ next, Step setting process next ∧ Matches setting next following := by
    obtain ⟨program, documents, answered, still⟩ := sweep_realised matched sweeps effect
    exact ⟨_, .sweep process program documents answered, still⟩
  have handled (position : Nat) (handles : ofHandler position event = true) :
      ∃ next, Step setting process next ∧ Matches setting next following := by
    obtain ⟨code, program, documents, located, answered, still⟩ :=
      handler_realised matched handles effect
    exact ⟨_, .handler process position code program documents located answered, still⟩
  cases effect with
  | accepted issue fresh =>
    exact ⟨_, .accept process issue (issued issue rfl) (matched.accepted ▸ fresh),
      matched.accept (issued issue rfl)⟩
  | announced client issue known unsent =>
    exact ⟨_, .announce process client issue (matched.accepted ▸ known)
      (matched.announced ▸ unsent), matched.announce client known⟩
  | lost position inside =>
    exact ⟨_, .lose process position (matched.bus ▸ inside), matched.lose position⟩
  | delivered position letter located =>
    exact ⟨_, .deliver process position letter (matched.bus ▸ located), matched.deliver located⟩
  | signersRead reached => exact swept rfl
  | sweepStage stage later did rest reached following => exact swept rfl
  | sweepCreated stage did rest reached following => exact swept rfl
  | claimsRead did rest claims reached listed => exact swept rfl
  | documentRead did rest claims reached => exact swept rfl
  | sweepPublished endpoint did rest claim more reached => exact swept rfl
  | signerFound position handler located reached known =>
    exact handled position (decide_eq_true rfl)
  | signerAbsent position handler located reached unknown =>
    exact handled position (decide_eq_true rfl)
  | handlerStage position handler stage later located reached following =>
    exact handled position (decide_eq_true rfl)
  | handlerCreated position handler stage located reached following =>
    exact handled position (decide_eq_true rfl)
  | handlerPublished position endpoint handler located reached =>
    exact handled position (decide_eq_true rfl)

/-- The states that the process comes to. -/
inductive Reached (setting : Setting) (start : State) : State → Prop where
  | start : Reached setting start start
  | step (process next : State) (earlier : Reached setting start process)
      (stepped : Step setting process next) : Reached setting start next

/-- The process and the machine match when `init` has just been called. -/
theorem started_matches {accepted : List Issue} (documents : Documents)
    (issued : ∀ issue ∈ accepted, Issued setting issue) :
    Matches setting (State.started setting accepted documents)
      (Exchange.State.started accepted documents) where
  accepted := rfl
  announced := rfl
  bus := rfl
  documents := rfl
  issued := issued
  sent := fun _ member => by cases member
  sweep := .gettingSigners
  running := rfl
  handlers := fun _ _ _ here => by cases here
  calls := rfl

/-- Every state of the process is one that a run of the machine matches. -/
theorem reached_simulated {accepted : List Issue} {documents : Documents} {process : State}
    (issued : ∀ issue ∈ accepted, Issued setting issue)
    (reached : Reached setting (State.started setting accepted documents) process) :
    ∃ events state, Transition.run (Exchange.step setting.stored)
        (Exchange.State.started accepted documents) events = some state ∧
      Matches setting process state := by
  induction reached with
  | start => exact ⟨[], _, rfl, started_matches documents issued⟩
  | step process next earlier stepped inductionHypothesis =>
    obtain ⟨events, state, ran, matched⟩ := inductionHypothesis
    obtain ⟨event, following, taken, still⟩ := step_simulated matched stepped
    exact ⟨events ++ [event], following, Transition.run_snoc ran taken, still⟩

/-- Every run of the machine in which claims are issued as issuers do is one of the
process. -/
theorem run_realised {start : State} {first final : Exchange.State} {events : List Event}
    {process : State} (reached : Reached setting start process)
    (matched : Matches setting process first)
    (issued : ∀ issue, .accept issue ∈ events → Issued setting issue)
    (ran : Transition.run (Exchange.step setting.stored) first events = some final) :
    ∃ last, Reached setting start last ∧ Matches setting last final := by
  induction events generalizing process first with
  | nil =>
    cases Option.some.inj ran
    exact ⟨process, reached, matched⟩
  | cons event events inductionHypothesis =>
    obtain ⟨state, stepped, rest⟩ := Transition.run_cons ran
    obtain ⟨next, taken, still⟩ := step_realised matched
      (fun issue same => issued issue (same ▸ List.mem_cons_self)) stepped
    exact inductionHypothesis (.step process next reached taken) still
      (fun issue member => issued issue (List.mem_cons_of_mem _ member)) rest

/-- Two stored keys, and issuers whose messages carry one token. -/
def sampleSetting : Setting where
  ethers := .sample
  table := KeyManager.twoKeys
  rows := (KeyManager.Reached.records .sample (.generated _ _ ⟨"ab"⟩ (.opened _ _
    (.generated _ _ ⟨"a"⟩ (.opened _ _ .fresh))))).rowsAgree
  client := PrequalificationClient.sample
  entryId := fun _ => "claim"
  roles := fun _ => none
  payload := fun issue =>
    "\x7b\"requester\":\"" ++ issue.subject ++ "\",\"issuedToken\":\"token\"\x7d"

example : Issued sampleSetting ⟨Did.sweepDID .sample ⟨"a"⟩, "claim", some "token"⟩ :=
  ⟨⟨⟨"a"⟩, rfl⟩, rfl, rfl⟩

end EvDashboard.Process
