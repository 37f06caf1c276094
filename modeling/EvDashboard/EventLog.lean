import EvDashboard.Parties

/-!
# Following the OCN registry by its events

Every accepted call emits one event, and clients learn of changes from these alone. An
event names what was written: a listing, or the end of one, which shows in an empty
domain or in `address(0)` for the operator. New modules are announced with the same event
as a new listing, so that a follower has to take them for one. This makes no difference
as long as the combination of each listed party points to it.
-/

namespace EvDashboard.Registry.EventLog

open Transition
open EvDashboardRegistry (assign assign_same assign_other)

/-- What a follower makes of an event. -/
def follow (storage : Storage) : Event → Storage
  | .OperatorUpdate operator domain =>
    if domain = [] then
      { storage with
        uniqueDomains := assign storage.uniqueDomains (storage.nodeOf operator) false
        nodeOf := assign storage.nodeOf operator [] }
    else
      { storage with
        uniqueDomains := assign storage.uniqueDomains domain true
        operators :=
          if storage.uniqueOperators operator = false then storage.operators ++ [operator]
          else storage.operators
        uniqueOperators := assign storage.uniqueOperators operator true
        nodeOf := assign storage.nodeOf operator domain }
  | .PartyUpdate countryCode partyId party roles modulesSender modulesReceiver operator =>
    if operator = .zero then
      { storage with
        operatorOf := assign storage.operatorOf party .zero
        uniqueParties := assign storage.uniqueParties (countryCode, partyId) .zero
        partyOf := assign storage.partyOf party .empty }
    else
      { storage with
        uniqueParties := assign storage.uniqueParties (countryCode, partyId) party
        parties :=
          if storage.uniquePartyAddresses party = false then storage.parties ++ [party]
          else storage.parties
        uniquePartyAddresses := assign storage.uniquePartyAddresses party true
        partyOf := assign storage.partyOf party
          ⟨countryCode, partyId, roles, ⟨modulesSender, modulesReceiver⟩⟩
        operatorOf := assign storage.operatorOf party operator }
  | .OwnershipTransferred _ newOwner => { storage with owner := newOwner }

/-- The event of the deployment. -/
def announced (owner : Address) : Event := .OwnershipTransferred .zero owner

/-- The events of a run, in order. -/
def log (crypto : Crypto) : Storage → List Message → List Event
  | _, [] => []
  | storage, message :: messages =>
    match execute crypto message.sender message.call storage with
    | .ok (next, event) => event :: log crypto next messages
    | .error _ => []

/-- The storage of a follower that saw the deployment and all events of a run. -/
def followed (crypto : Crypto) (owner : Address) (messages : List Message) : Storage :=
  (announced owner :: log crypto (deployed owner) messages).foldl follow (deployed .zero)

/-- The storage without the combinations. -/
def listings (storage : Storage) : Storage := { storage with uniqueParties := fun _ => .zero }

/-- A listed party has been taken into the list. -/
def Flagged (storage : Storage) : Prop :=
  ∀ party, storage.operatorOf party ≠ .zero → storage.uniquePartyAddresses party = true

variable {crypto : Crypto} {storage next : Storage} {event : Event}

/-- Assigning what is there changes nothing. -/
theorem assign_self {Key Value : Type} [DecidableEq Key] (mapping : Key → Value) (key : Key)
    {value : Value} (same : mapping key = value) : assign mapping key value = mapping := by
  funext other
  by_cases equal : other = key
  · rw [equal, assign_same, same]
  · exact assign_other _ _ equal

/-- A follower of an action that sets no modules ends up where the contract does. -/
theorem follow_perform {action : Action} (performed : action.perform storage = .ok (next, event))
    (describing : ∀ party sender receiver, action ≠ .setPartyModules party sender receiver) :
    follow storage event = next := by
  cases action with
  | setNode operator domain =>
    obtain ⟨nonempty, _, rfl, rfl⟩ := setNode_ok_iff.mp performed
    exact if_neg nonempty
  | deleteNode operator =>
    obtain ⟨_, rfl, rfl⟩ := deleteNode_ok_iff.mp performed
    simp only [follow, if_true]
  | setParty party countryCode partyId roles operator =>
    obtain ⟨⟨_, _, _, operating, _⟩, rfl, rfl⟩ := setParty_ok_iff.mp performed
    exact if_neg operating
  | setPartyModules party sender receiver => exact absurd rfl (describing _ _ _)
  | deleteParty party =>
    obtain ⟨_, rfl, rfl⟩ := deleteParty_ok_iff.mp performed
    simp only [follow, if_true]
    rfl
  | transferOwnership newOwner =>
    cases performed
    rfl

/-- New modules look like a new listing. It is the old one, but for the combination, which
points to the party afterwards. -/
theorem follow_setPartyModules {party : Address} {sender receiver : List Module}
    (flagged : Flagged storage)
    (performed : setPartyModules party sender receiver storage = .ok (next, event)) :
    follow storage event = { next with
      uniqueParties :=
        assign storage.uniqueParties (storage.partyOf party).combination party } := by
  obtain ⟨listed, rfl, rfl⟩ := setPartyModules_ok_iff.mp performed
  have enlisted : storage.uniquePartyAddresses party = true := flagged party listed
  simp only [follow, if_neg listed, enlisted, Bool.true_eq_false, if_false,
    assign_self storage.uniquePartyAddresses party enlisted,
    assign_self storage.operatorOf party rfl]
  rfl

/-- Every action keeps the listed parties on the list. -/
theorem Flagged.perform {action : Action} (flagged : Flagged storage)
    (performed : action.perform storage = .ok (next, event)) : Flagged next := by
  cases action with
  | setNode operator domain =>
    obtain ⟨_, _, rfl, _⟩ := setNode_ok_iff.mp performed
    exact flagged
  | deleteNode operator =>
    obtain ⟨_, rfl, _⟩ := deleteNode_ok_iff.mp performed
    exact flagged
  | setParty party countryCode partyId roles operator =>
    obtain ⟨_, rfl, _⟩ := setParty_ok_iff.mp performed
    intro other listed
    by_cases same : other = party
    · rw [same]
      exact assign_same _ _ _
    · simp only [assign_other _ _ same] at listed ⊢
      exact flagged other listed
  | setPartyModules party sender receiver =>
    obtain ⟨_, rfl, _⟩ := setPartyModules_ok_iff.mp performed
    exact flagged
  | deleteParty party =>
    obtain ⟨_, rfl, _⟩ := deleteParty_ok_iff.mp performed
    intro other listed
    by_cases same : other = party
    · simp only [same, assign_same, ne_eq, not_true_eq_false] at listed
    · simp only [assign_other _ _ same] at listed
      exact flagged other listed
  | transferOwnership newOwner =>
    cases performed
    exact flagged

/-- What a follower makes of the listings depends on the listings alone. -/
theorem listings_follow (storage : Storage) (event : Event) :
    listings (follow storage event) = listings (follow (listings storage) event) := by
  cases event with
  | OperatorUpdate operator domain =>
    simp only [follow]
    split <;> rfl
  | PartyUpdate countryCode partyId party roles modulesSender modulesReceiver operator =>
    simp only [follow]
    split <;> rfl
  | OwnershipTransferred previousOwner newOwner => rfl

/-- A follower that has the listings has them after the next event. -/
theorem listings_perform {mirror : Storage} {action : Action} (flagged : Flagged storage)
    (same : listings mirror = listings storage)
    (performed : action.perform storage = .ok (next, event)) :
    listings (follow mirror event) = listings next := by
  rw [listings_follow, same, ← listings_follow]
  by_cases describing : ∃ party sender receiver, action = .setPartyModules party sender receiver
  · obtain ⟨party, sender, receiver, rfl⟩ := describing
    rw [follow_setPartyModules flagged performed]
    rfl
  · rw [follow_perform performed (fun party sender receiver equal =>
      describing ⟨party, sender, receiver, equal⟩)]

/-- When the combinations of the listed parties point to them, the follower of any action
ends up where the contract does. -/
theorem follow_sound {action : Action} (sound : Parties.Sound storage)
    (performed : action.perform storage = .ok (next, event)) : follow storage event = next := by
  by_cases describing : ∃ party sender receiver, action = .setPartyModules party sender receiver
  · obtain ⟨party, sender, receiver, rfl⟩ := describing
    have flagged : Flagged storage := fun other listed =>
      (sound.unique other).mpr (sound.operated other listed).1
    rw [follow_setPartyModules flagged performed]
    obtain ⟨listed, rfl, _⟩ := setPartyModules_ok_iff.mp performed
    rw [assign_self _ _ (sound.points listed)]
  · exact follow_perform performed (fun party sender receiver equal =>
      describing ⟨party, sender, receiver, equal⟩)

/-- An accepted call contributes its event to the log. -/
theorem log_cons {message : Message} {messages : List Message}
    (stepped : step crypto storage message = some next) :
    ∃ action event, authorise crypto message.sender storage message.call = .ok action ∧
      action.perform storage = .ok (next, event) ∧
      log crypto storage (message :: messages) = event :: log crypto next messages := by
  obtain ⟨action, event, authorised, performed⟩ := step_iff.mp stepped
  refine ⟨action, event, authorised, performed, ?_⟩
  rw [log, execute_ok_iff.mpr ⟨action, authorised, performed⟩]

/-- Over a run, a follower that has the listings keeps them. -/
theorem listings_run {mirror final : Storage} {messages : List Message}
    (flagged : Flagged storage) (same : listings mirror = listings storage)
    (ran : run (step crypto) storage messages = some final) :
    listings ((log crypto storage messages).foldl follow mirror) = listings final := by
  induction messages generalizing storage mirror with
  | nil =>
    obtain rfl := Option.some.inj ran
    exact same
  | cons message messages inductionHypothesis =>
    obtain ⟨next, stepped, rest⟩ := run_cons ran
    obtain ⟨action, event, _, performed, logged⟩ := @log_cons _ _ _ _ messages stepped
    rw [logged, List.foldl_cons]
    exact inductionHypothesis (flagged.perform performed)
      (listings_perform flagged same performed) rest

/-- Over a run without a listing of `address(0)`, a follower has everything. -/
theorem follow_run {final : Storage} {messages : List Message} (sound : Parties.Sound storage)
    (spared : ∀ message ∈ messages, ¬message.call.ListsZero)
    (ran : run (step crypto) storage messages = some final) :
    (log crypto storage messages).foldl follow storage = final := by
  induction messages generalizing storage with
  | nil => exact Option.some.inj ran
  | cons message messages inductionHypothesis =>
    obtain ⟨next, stepped, rest⟩ := run_cons ran
    obtain ⟨action, event, _, performed, logged⟩ := @log_cons _ _ _ _ messages stepped
    rw [logged, List.foldl_cons, follow_sound sound performed]
    exact inductionHypothesis (sound.accept (spared message List.mem_cons_self) stepped)
      (fun other member => spared other (List.mem_cons_of_mem _ member)) rest

/-- The events tell everything. Whoever follows them from the deployment on gets the same
answer as from the contract to every question that is asked by address, after any run;
and if no call asked for a listing of `address(0)`, then to all other questions as well,
because the storages are the same. -/
theorem events_tell_all (crypto : Crypto) (owner : Address) (messages : List Message)
    (storage : Storage) (ran : run (step crypto) (deployed owner) messages = some storage) :
    (∀ address, getNode (followed crypto owner messages) address = getNode storage address ∧
      getPartyDetailsByAddress (followed crypto owner messages) address =
        getPartyDetailsByAddress storage address) ∧
    getNodeOperators (followed crypto owner messages) = getNodeOperators storage ∧
    getParties (followed crypto owner messages) = getParties storage ∧
    (followed crypto owner messages).owner = storage.owner ∧
    ((∀ message ∈ messages, ¬message.call.ListsZero) →
      followed crypto owner messages = storage) := by
  have start : follow (deployed .zero) (announced owner) = deployed owner := rfl
  have same : listings (followed crypto owner messages) = listings storage := by
    rw [followed, List.foldl_cons, start]
    exact listings_run (fun party listed => absurd rfl listed) rfl ran
  simp only [listings, Storage.mk.injEq, true_and] at same
  obtain ⟨owned, nodes, _, _, operators, _, details, operatorOf, parties⟩ := same
  refine ⟨?_, operators, parties, owned, ?_⟩
  · intro address
    simp only [getNode, getPartyDetailsByAddress, getOperatorByAddress, nodes, details, operatorOf,
      and_self]
  · intro spared
    rw [followed, List.foldl_cons, start]
    exact follow_run (Parties.deployed_sound owner) spared ran

/-- A follower of the party that joined finds it. -/
theorem joined_party_followed :
    (getPartyDetailsByAddress (followed .sample .zero Parties.joined) (.repeated 2)).2 =
      (.repeated 1, [97]) := by
  obtain ⟨storage, ran, details⟩ : ∃ storage,
      run (step .sample) (deployed .zero) Parties.joined = some storage ∧
        (getPartyDetailsByAddress storage (.repeated 2)).2 = (.repeated 1, [97]) :=
    ⟨_, rfl, rfl⟩
  have told := (events_tell_all .sample .zero Parties.joined storage ran).1 (.repeated 2)
  rw [told.2, details]

end EvDashboard.Registry.EventLog
