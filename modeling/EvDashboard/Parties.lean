import EvDashboard.Nodes

/-!
# Combinations of country code and party id

A listed party holds its combination, and a combination is closed to everybody but the
party it points to. The contract recognises an open combination by its pointing to
`address(0)`, so all of this rests on `address(0)` not being listed itself. It has no
key, but an invalid signature recovers it, and `setPartyRaw` does not look further.

As long as nobody makes use of that, the lookups by address and by combination agree.
A party that moves to another combination keeps its old one closed and pointing to it.
-/

namespace EvDashboard.Registry.Parties

open Naming Transition
open EvDashboardRegistry (assign assign_same assign_other)

/-- The combinations as exclusive names. -/
def names (storage : Storage) : Names Address Combination where
  holds := fun party =>
    if storage.operatorOf party = .zero then none else some (storage.partyOf party).combination
  closed := fun combination other =>
    storage.uniqueParties combination ≠ .zero ∧ storage.uniqueParties combination ≠ other

/-- What an action does to the combinations. -/
def naming (storage : Storage) : Action → Naming.Event Address Combination
  | .setParty party countryCode partyId _ _ => .claim party (countryCode, partyId)
  | .deleteParty party => .release party (storage.partyOf party).combination
  | _ => .idle

/-- A party shuts out all others. -/
def Apart (party other : Address) : Prop := other ≠ party

/-- What holds of the parties in every state that is reached without listing `address(0)`. -/
structure Sound (storage : Storage) : Prop where
  nodes : Nodes.Listed storage
  nobody : storage.operatorOf .zero = .zero
  exclusive : Exclusive Apart (names storage)
  distinct : storage.parties.Nodup
  unique : ∀ party, storage.uniquePartyAddresses party = true ↔ party ∈ storage.parties
  blank : ∀ party, storage.operatorOf party = .zero → storage.partyOf party = .empty
  operated : ∀ party, storage.operatorOf party ≠ .zero →
    party ∈ storage.parties ∧ storage.operatorOf party ∈ storage.operators
  complete : ∀ party, storage.operatorOf party ≠ .zero →
    (storage.partyOf party).countryCode ≠ .zero ∧ (storage.partyOf party).partyId ≠ .zero ∧
      (storage.partyOf party).roles ≠ []

variable {crypto : Crypto} {storage next : Storage} {event : Registry.Event}

theorem holds_iff {party : Address} {combination : Combination} :
    (names storage).holds party = some combination ↔
      storage.operatorOf party ≠ .zero ∧ (storage.partyOf party).combination = combination := by
  simp only [names]
  split
  · rename_i unlisted
    exact iff_of_false nofun (fun both => both.1 unlisted)
  · rename_i listed
    rw [Option.some.injEq]
    exact (and_iff_right listed).symm

/-- A combination is closed to all but one party if it points to that party. -/
theorem points_iff {party : Address} {combination : Combination} (nonzero : party ≠ .zero) :
    (∀ other, Apart party other → (names storage).closed combination other) ↔
      storage.uniqueParties combination = party := by
  constructor
  · intro closed
    by_cases same : storage.uniqueParties combination = party
    · exact same
    · exact absurd rfl (closed _ same).2
  · rintro rfl other different
    exact ⟨nonzero, Ne.symm different⟩

/-- The combination of a listed party points to it. -/
theorem Sound.points (sound : Sound storage) {party : Address}
    (listed : storage.operatorOf party ≠ .zero) :
    storage.uniqueParties (storage.partyOf party).combination = party := by
  have nonzero : party ≠ .zero := by
    rintro rfl
    exact listed sound.nobody
  exact (points_iff nonzero).mp
    (sound.exclusive.closed party _ (holds_iff.mpr ⟨listed, rfl⟩))

/-- Only the party itself, or a signature that recovers it, gets it listed. -/
theorem authorise_setParty {sender party operator : Address} {call : Call}
    {countryCode : CountryCode} {partyId : PartyId} {roles : List Role}
    (authorised : authorise crypto sender storage call =
      .ok (.setParty party countryCode partyId roles operator)) :
    (party = sender ∧ call = .setParty countryCode partyId roles operator) ∨
      ∃ signature, call = .setPartyRaw party countryCode partyId roles operator signature := by
  cases call with
  | setParty =>
    cases authorised
    exact Or.inl ⟨rfl, rfl⟩
  | setPartyRaw given =>
    obtain ⟨recovered, same⟩ := EvDashboardRegistry.require_then.mp authorised
    cases same
    rw [of_decide_eq_true recovered]
    exact Or.inr ⟨_, rfl⟩
  | adminDeleteOperator | adminDeleteParty | renounceOwnership =>
    cases (EvDashboardRegistry.require_then.mp authorised).2
  | transferOwnership =>
    cases (EvDashboardRegistry.require_then.mp
      (EvDashboardRegistry.require_then.mp authorised).2).2
  | setPartyModulesRaw | deletePartyRaw =>
    cases (EvDashboardRegistry.require_then.mp authorised).2
  | _ => cases authorised

/-- Actions on nodes and on the owner leave the parties alone. -/
theorem perform_other {action : Action} (performed : action.perform storage = .ok (next, event))
    (setting : ∀ party countryCode partyId roles operator,
      action ≠ .setParty party countryCode partyId roles operator)
    (describing : ∀ party sender receiver, action ≠ .setPartyModules party sender receiver)
    (deleting : ∀ party, action ≠ .deleteParty party) :
    next.operatorOf = storage.operatorOf ∧ next.partyOf = storage.partyOf ∧
      next.uniqueParties = storage.uniqueParties ∧ next.parties = storage.parties ∧
      next.uniquePartyAddresses = storage.uniquePartyAddresses := by
  cases action with
  | setNode operator domain =>
    obtain ⟨_, _, rfl, _⟩ := setNode_ok_iff.mp performed
    exact ⟨rfl, rfl, rfl, rfl, rfl⟩
  | deleteNode operator =>
    obtain ⟨_, rfl, _⟩ := deleteNode_ok_iff.mp performed
    exact ⟨rfl, rfl, rfl, rfl, rfl⟩
  | setParty party countryCode partyId roles operator => exact absurd rfl (setting _ _ _ _ _)
  | setPartyModules party sender receiver => exact absurd rfl (describing _ _ _)
  | deleteParty party => exact absurd rfl (deleting _)
  | transferOwnership newOwner =>
    cases performed
    exact ⟨rfl, rfl, rfl, rfl, rfl⟩

/-- A listing claims its combination. -/
theorem setParty_names {party operator : Address} {countryCode : CountryCode}
    {partyId : PartyId} {roles : List Role} (nonzero : party ≠ .zero)
    (performed : setParty party countryCode partyId roles operator storage = .ok (next, event)) :
    Naming.Step Apart (names storage) (.claim party (countryCode, partyId)) (names next) := by
  obtain ⟨⟨_, _, _, operating, free, _⟩, rfl, _⟩ := setParty_ok_iff.mp performed
  apply Naming.Step.claim party (countryCode, partyId)
  · rintro ⟨taken, other⟩
    exact free.elim taken other
  · simp only [holds_iff, assign_same]
    exact ⟨operating, rfl⟩
  · apply (points_iff nonzero).mpr
    exact assign_same _ _ _
  · intro other different
    simp only [names, assign_other _ _ different]
  · intro other different third
    simp only [names, assign_other _ _ different]

/-- A deletion releases its combination. -/
theorem deleteParty_names {party : Address}
    (performed : deleteParty party storage = .ok (next, event)) :
    Naming.Step Apart (names storage) (.release party (storage.partyOf party).combination)
      (names next) := by
  obtain ⟨listed, rfl, _⟩ := deleteParty_ok_iff.mp performed
  apply Naming.Step.release party (storage.partyOf party).combination
  · exact holds_iff.mpr ⟨listed, rfl⟩
  · simp only [names, assign_same, if_true]
  · rintro other ⟨pointing, _⟩
    exact pointing (assign_same _ _ _)
  · intro other different
    simp only [names, assign_other _ _ different]
  · intro other different third
    simp only [names, assign_other _ _ different]

/-- New modules leave every combination as it is. -/
theorem setPartyModules_names {party : Address} {sender receiver : List Module}
    (performed : setPartyModules party sender receiver storage = .ok (next, event)) :
    names next = names storage := by
  obtain ⟨_, rfl, _⟩ := setPartyModules_ok_iff.mp performed
  simp only [names, Names.mk.injEq, and_true]
  funext other
  by_cases same : other = party
  · rw [same, assign_same]
    rfl
  · rw [assign_other _ _ same]

/-- Every action that does not list `address(0)` is a step of the exclusive names. -/
theorem perform_names {action : Action}
    (spared : ∀ countryCode partyId roles operator,
      action ≠ .setParty .zero countryCode partyId roles operator)
    (performed : action.perform storage = .ok (next, event)) :
    Naming.Step Apart (names storage) (naming storage action) (names next) := by
  have unchanged (setting : ∀ party countryCode partyId roles operator,
        action ≠ .setParty party countryCode partyId roles operator)
      (describing : ∀ party sender receiver, action ≠ .setPartyModules party sender receiver)
      (deleting : ∀ party, action ≠ .deleteParty party) : names next = names storage := by
    obtain ⟨operators, details, pointers, _, _⟩ :=
      perform_other performed setting describing deleting
    simp only [names, operators, details, pointers]
  cases action with
  | setParty party countryCode partyId roles operator =>
    refine setParty_names ?_ performed
    rintro rfl
    exact spared _ _ _ _ rfl
  | deleteParty party => exact deleteParty_names performed
  | setPartyModules party sender receiver =>
    rw [setPartyModules_names performed]
    exact .idle
  | _ =>
    rw [unchanged (fun _ _ _ _ _ => Action.noConfusion) (fun _ _ _ => Action.noConfusion)
      (fun _ => Action.noConfusion)]
    exact .idle

theorem Sound.setParty {party operator : Address} {countryCode : CountryCode}
    {partyId : PartyId} {roles : List Role} (sound : Sound storage) (nonzero : party ≠ .zero)
    (performed : setParty party countryCode partyId roles operator storage = .ok (next, event)) :
    Sound next := by
  have nodes : Nodes.Listed next := sound.nodes.perform
    (show (Action.setParty party countryCode partyId roles operator).perform storage = _
      from performed)
  have exclusive : Exclusive Apart (names next) :=
    (setParty_names nonzero performed).exclusive (fun _ _ => id) sound.exclusive
  obtain ⟨⟨country, id, filled, operating, _, known⟩, rfl, _⟩ := setParty_ok_iff.mp performed
  have enlisted := @Nodes.mem_enlist storage.parties storage.uniquePartyAddresses party sound.unique
  constructor
  case nodes => exact nodes
  case exclusive => exact exclusive
  case distinct => exact Nodes.nodup_enlist sound.distinct sound.unique
  case unique => exact enlisted
  case nobody =>
    simp only [assign_other _ _ (Ne.symm nonzero)]
    exact sound.nobody
  case blank =>
    intro other unlisted
    by_cases same : other = party
    · simp only [same, assign_same] at unlisted
      exact absurd unlisted operating
    · simp only [assign_other _ _ same] at unlisted ⊢
      exact sound.blank other unlisted
  case operated =>
    intro other listed
    by_cases same : other = party
    · simp only [same, assign_same]
      exact ⟨(enlisted party).mp (assign_same _ _ _), sound.nodes.linked operator known⟩
    · simp only [assign_other _ _ same] at listed ⊢
      obtain ⟨member, operated⟩ := sound.operated other listed
      refine ⟨(enlisted other).mp ?_, operated⟩
      rw [assign_other _ _ same]
      exact (sound.unique other).mpr member
  case complete =>
    intro other listed
    by_cases same : other = party
    · simp only [same, assign_same]
      exact ⟨country, id, filled⟩
    · simp only [assign_other _ _ same] at listed ⊢
      exact sound.complete other listed

theorem Sound.setPartyModules {party : Address} {sender receiver : List Module}
    (sound : Sound storage)
    (performed : setPartyModules party sender receiver storage = .ok (next, event)) :
    Sound next := by
  have nodes : Nodes.Listed next := sound.nodes.perform
    (show (Action.setPartyModules party sender receiver).perform storage = _ from performed)
  have exclusive : Exclusive Apart (names next) := by
    rw [setPartyModules_names performed]
    exact sound.exclusive
  obtain ⟨listed, rfl, _⟩ := setPartyModules_ok_iff.mp performed
  refine ⟨nodes, sound.nobody, exclusive, sound.distinct, sound.unique, ?_, sound.operated, ?_⟩
  · intro other unlisted
    have different : other ≠ party := by
      rintro rfl
      exact listed unlisted
    simp only [assign_other _ _ different]
    exact sound.blank other unlisted
  · intro other listed
    by_cases same : other = party
    · subst same
      simp only [assign_same]
      exact sound.complete other listed
    · simp only [assign_other _ _ same]
      exact sound.complete other listed

theorem Sound.deleteParty {party : Address} (sound : Sound storage)
    (performed : deleteParty party storage = .ok (next, event)) : Sound next := by
  have nodes : Nodes.Listed next := sound.nodes.perform
    (show (Action.deleteParty party).perform storage = _ from performed)
  have exclusive : Exclusive Apart (names next) :=
    (deleteParty_names performed).exclusive (fun _ _ => id) sound.exclusive
  obtain ⟨_, rfl, _⟩ := deleteParty_ok_iff.mp performed
  -- Whoever is still listed was listed before, and is another party.
  have remaining (other : Address) (listed : assign storage.operatorOf party .zero other ≠ .zero) :
      other ≠ party ∧ storage.operatorOf other ≠ .zero := by
    by_cases same : other = party
    · rw [same, assign_same] at listed
      exact absurd rfl listed
    · rw [assign_other _ _ same] at listed
      exact ⟨same, listed⟩
  constructor
  case nodes => exact nodes
  case exclusive => exact exclusive
  case distinct => exact sound.distinct
  case unique => exact sound.unique
  case nobody =>
    by_cases same : Address.zero = party
    · simp only [same, assign_same]
    · simp only [assign_other _ _ same]
      exact sound.nobody
  case blank =>
    intro other unlisted
    by_cases same : other = party
    · simp only [same, assign_same]
    · simp only [assign_other _ _ same] at unlisted ⊢
      exact sound.blank other unlisted
  case operated =>
    intro other listed
    obtain ⟨different, before⟩ := remaining other listed
    simp only [assign_other _ _ different]
    exact sound.operated other before
  case complete =>
    intro other listed
    obtain ⟨different, before⟩ := remaining other listed
    simp only [assign_other _ _ different]
    exact sound.complete other before

/-- Every action that does not list `address(0)` keeps the parties sound. -/
theorem Sound.perform {action : Action} (sound : Sound storage)
    (spared : ∀ countryCode partyId roles operator,
      action ≠ .setParty .zero countryCode partyId roles operator)
    (performed : action.perform storage = .ok (next, event)) : Sound next := by
  have untouched (setting : ∀ party countryCode partyId roles operator,
        action ≠ .setParty party countryCode partyId roles operator)
      (describing : ∀ party sender receiver, action ≠ .setPartyModules party sender receiver)
      (deleting : ∀ party, action ≠ .deleteParty party)
      (operators : storage.operators ⊆ next.operators) : Sound next := by
    obtain ⟨operatorOf, partyOf, pointers, parties, unique⟩ :=
      perform_other performed setting describing deleting
    have same : names next = names storage := by
      simp only [names, operatorOf, partyOf, pointers]
    refine ⟨sound.nodes.perform performed, ?_, same ▸ sound.exclusive, ?_, ?_, ?_, ?_, ?_⟩
    · rw [operatorOf]
      exact sound.nobody
    · rw [parties]
      exact sound.distinct
    · rw [parties, unique]
      exact sound.unique
    · rw [operatorOf, partyOf]
      exact sound.blank
    · rw [operatorOf, parties]
      intro party listed
      obtain ⟨member, operated⟩ := sound.operated party listed
      exact ⟨member, operators operated⟩
    · rw [operatorOf, partyOf]
      exact sound.complete
  cases action with
  | setParty party countryCode partyId roles operator =>
    refine sound.setParty ?_ performed
    rintro rfl
    exact spared _ _ _ _ rfl
  | setPartyModules party sender receiver => exact sound.setPartyModules performed
  | deleteParty party => exact sound.deleteParty performed
  | setNode operator domain =>
    refine untouched (fun _ _ _ _ _ => Action.noConfusion) (fun _ _ _ => Action.noConfusion)
      (fun _ => Action.noConfusion) ?_
    obtain ⟨_, _, rfl, _⟩ := setNode_ok_iff.mp performed
    intro other member
    dsimp only
    split
    · exact List.mem_append_left _ member
    · exact member
  | deleteNode operator =>
    refine untouched (fun _ _ _ _ _ => Action.noConfusion) (fun _ _ _ => Action.noConfusion)
      (fun _ => Action.noConfusion) ?_
    obtain ⟨_, rfl, _⟩ := deleteNode_ok_iff.mp performed
    exact List.Subset.refl _
  | transferOwnership newOwner =>
    refine untouched (fun _ _ _ _ _ => Action.noConfusion) (fun _ _ _ => Action.noConfusion)
      (fun _ => Action.noConfusion) ?_
    cases performed
    exact List.Subset.refl _

/-- A party that was listed stays on the list. -/
theorem step_parties {message : Message} {party : Address}
    (stepped : step crypto storage message = some next) (member : party ∈ storage.parties) :
    party ∈ next.parties := by
  obtain ⟨action, event, _, performed⟩ := step_iff.mp stepped
  cases action with
  | setNode operator domain =>
    obtain ⟨_, _, rfl, _⟩ := setNode_ok_iff.mp performed
    exact member
  | deleteNode operator =>
    obtain ⟨_, rfl, _⟩ := deleteNode_ok_iff.mp performed
    exact member
  | setParty party countryCode partyId roles operator =>
    obtain ⟨_, rfl, _⟩ := setParty_ok_iff.mp performed
    dsimp only
    split
    · exact List.mem_append_left _ member
    · exact member
  | setPartyModules party sender receiver =>
    obtain ⟨_, rfl, _⟩ := setPartyModules_ok_iff.mp performed
    exact member
  | deleteParty party =>
    obtain ⟨_, rfl, _⟩ := deleteParty_ok_iff.mp performed
    exact member
  | transferOwnership newOwner =>
    cases performed
    exact member

theorem deployed_sound (owner : Address) : Sound (deployed owner) where
  nodes := (Nodes.deployed_sound owner).listed
  nobody := rfl
  exclusive :=
    ⟨fun _ _ has => absurd rfl (holds_iff.mp has).1, fun _ _ has => absurd rfl (holds_iff.mp has).1⟩
  distinct := List.nodup_nil
  unique := fun party => by simp only [deployed, Bool.false_eq_true, List.not_mem_nil]
  blank := fun _ _ => rfl
  operated := fun _ listed => absurd rfl listed
  complete := fun _ listed => absurd rfl listed

/-- A call that does not ask for a listing of `address(0)` does not get one. -/
theorem spared_action {message : Message} {action : Action}
    (spared : ¬message.call.ListsZero)
    (authorised : authorise crypto message.sender storage message.call = .ok action)
    (countryCode : CountryCode) (partyId : PartyId) (roles : List Role) (operator : Address) :
    action ≠ .setParty .zero countryCode partyId roles operator := by
  rintro rfl
  rcases authorise_setParty authorised with ⟨sent, _⟩ | ⟨signature, same⟩
  · exact message.sender.property sent.symm
  · rw [same] at spared
    exact spared rfl

theorem Sound.accept {message : Message} (sound : Sound storage)
    (spared : ¬message.call.ListsZero) (stepped : step crypto storage message = some next) :
    Sound next := by
  obtain ⟨action, event, authorised, performed⟩ := step_iff.mp stepped
  exact sound.perform (spared_action spared authorised) performed

/-- A run without a listing of `address(0)` keeps the parties sound. -/
theorem Sound.through {messages : List Message} {final : Storage} (sound : Sound storage)
    (spared : ∀ message ∈ messages, ¬message.call.ListsZero)
    (ran : run (step crypto) storage messages = some final) : Sound final :=
  Meets.invariant Sound
    (fun _ _ _ sound spared stepped => sound.accept spared stepped) sound
    (@Meets.always _ _ (step crypto) (fun _ message => ¬message.call.ListsZero) messages
      (fun message member _ => spared message member) storage) ran

/-- What the getters say of the listed parties. Each of them is on the list, which
repeats none, with a combination, with roles and with an operator that was a node
operator; its combination finds it, with the same answer as its address; and no other
party has that combination. -/
structure Consistent (storage : Storage) : Prop where
  distinct : (getParties storage).Nodup
  listed : ∀ party, (getOperatorByAddress storage party).1 ≠ .zero →
    party ∈ getParties storage ∧
      (getOperatorByAddress storage party).1 ∈ getNodeOperators storage
  complete : ∀ party details operator domain,
    getPartyDetailsByAddress storage party = (details, operator, domain) → operator ≠ .zero →
      details.countryCode ≠ .zero ∧ details.partyId ≠ .zero ∧ details.roles ≠ []
  found : ∀ party details operator domain,
    getPartyDetailsByAddress storage party = (details, operator, domain) → operator ≠ .zero →
      getPartyDetailsByOcpi storage details.countryCode details.partyId =
          (party, details, operator, domain) ∧
        getOperatorByOcpi storage details.countryCode details.partyId = (operator, domain)
  sole : ∀ party other,
    (getOperatorByAddress storage party).1 ≠ .zero →
    (getOperatorByAddress storage other).1 ≠ .zero →
    (getPartyDetailsByAddress storage other).1.combination =
      (getPartyDetailsByAddress storage party).1.combination → other = party

/-- In every state that is reached without a listing of `address(0)`, the getters agree
on the listed parties. -/
theorem parties_consistent (crypto : Crypto) (owner : Address) (messages : List Message)
    (storage : Storage) (spared : ∀ message ∈ messages, ¬message.call.ListsZero)
    (ran : run (step crypto) (deployed owner) messages = some storage) : Consistent storage := by
  have sound := (deployed_sound owner).through spared ran
  constructor
  case distinct => exact sound.distinct
  case listed => exact sound.operated
  case complete =>
    rintro party _ _ _ same listed
    cases same
    exact sound.complete party listed
  case found =>
    rintro party _ _ _ same listed
    cases same
    have points : storage.uniqueParties
        ((storage.partyOf party).countryCode, (storage.partyOf party).partyId) = party :=
      sound.points listed
    simp only [getPartyDetailsByOcpi, getOperatorByOcpi, points]
    exact ⟨rfl, rfl⟩
  case sole =>
    intro party other listed otherListed same
    have points := sound.points otherListed
    rw [← points]
    exact (congrArg storage.uniqueParties same).trans (sound.points listed)

/-- An operator is linked to a domain, and a party lists itself with it. -/
def joined : List Message :=
  [⟨Nodes.firstAccount, .setNode [97]⟩,
    ⟨Nodes.secondAccount, .setParty ⟨68, 69⟩ ⟨69, 86, 49⟩ [.CPO] (.repeated 1)⟩]

/-- The party that listed itself is found under its combination. -/
theorem joined_party_found : ∃ storage,
    run (step .sample) (deployed .zero) joined = some storage ∧ Consistent storage ∧
      (getPartyDetailsByOcpi storage ⟨68, 69⟩ ⟨69, 86, 49⟩).1 = .repeated 2 :=
  ⟨_, rfl, parties_consistent .sample .zero joined _
    (fun message member => by
      simp only [joined, List.mem_cons, List.not_mem_nil, or_false] at member
      rcases member with rfl | rfl <;> exact id) rfl, rfl⟩

/-- Nobody is listed under a combination that is closed to them. -/
theorem closed_refused {message : Message} {party operator : Address} {countryCode : CountryCode}
    {partyId : PartyId} {roles : List Role}
    (authorised : authorise crypto message.sender storage message.call =
      .ok (.setParty party countryCode partyId roles operator))
    (closed : (names storage).closed (countryCode, partyId) party) :
    step crypto storage message = none := by
  rw [Option.eq_none_iff_forall_ne_some]
  intro next stepped
  obtain ⟨action, event, same, performed⟩ := step_iff.mp stepped
  cases authorised.symm.trans same
  obtain ⟨⟨_, _, _, _, free, _⟩, _⟩ := setParty_ok_iff.mp performed
  exact free.elim closed.1 closed.2

/-- A signature that recovers `address(0)` whatever is presented with it, as one does
whose `v` is none of the two possible ones. -/
def Invalid (crypto : Crypto) (signature : Signature) : Prop :=
  ∀ packed, recover crypto packed signature = .zero

section Invalid

variable {signature : Signature} (invalid : Invalid crypto signature)

include invalid

/-- An invalid signature lists `address(0)`. -/
theorem invalid_lists {sender operator : Address} {countryCode : CountryCode} {partyId : PartyId}
    {roles : List Role} :
    authorise crypto sender storage
        (.setPartyRaw .zero countryCode partyId roles operator signature) =
      .ok (.setParty .zero countryCode partyId roles operator) := by
  simp only [authorise, invalid _]
  rfl

/-- And it deletes the listing. -/
theorem invalid_deletes {sender : Address} :
    authorise crypto sender storage (.deletePartyRaw .zero signature) =
      .ok (.deleteParty .zero) := by
  simp only [authorise, invalid _]
  rfl

end Invalid

/-- The four calls by which an attacker lets two parties share a combination. -/
def sharing (attacker first second : Account) (countryCode : CountryCode) (partyId : PartyId)
    (roles : List Role) (operator : Address) (signature : Signature) : List Message :=
  [⟨attacker, .setPartyRaw .zero countryCode partyId roles operator signature⟩,
    ⟨first, .setParty countryCode partyId roles operator⟩,
    ⟨attacker, .deletePartyRaw .zero signature⟩,
    ⟨second, .setParty countryCode partyId roles operator⟩]

/-- Without that condition two parties can share any free combination. An attacker, with
an invalid signature, lists `address(0)` under the combination before the first party and
deletes it after, which opens the combination to a second party. Both parties are then
listed under it, with everything as they asked. The lookup finds the second one only; the
first one can no longer change its own listing, and if it deletes itself then the lookup
finds nobody, though the second one is listed as before. -/
theorem combination_shared (crypto : Crypto) (signature : Signature)
    (invalid : Invalid crypto signature) (storage : Storage)
    (countryCode : CountryCode) (partyId : PartyId) (roles : List Role) (operator : Address)
    (complete : countryCode ≠ .zero ∧ partyId ≠ .zero ∧ roles ≠ [] ∧ operator ≠ .zero)
    (known : getNode storage operator ≠ [])
    (free : (getPartyDetailsByOcpi storage countryCode partyId).1 = .zero)
    (attacker first second : Account) (different : second ≠ first) :
    ∃ final, run (step crypto) storage
        (sharing attacker first second countryCode partyId roles operator signature) = some final ∧
      (∀ party ∈ [first.val, second.val], getPartyDetailsByAddress final party =
        (⟨countryCode, partyId, roles, ⟨[], []⟩⟩, operator, getNode storage operator)) ∧
      (getPartyDetailsByOcpi final countryCode partyId).1 = second ∧
      (∀ otherRoles otherOperator,
        step crypto final ⟨first, .setParty countryCode partyId otherRoles otherOperator⟩ = none) ∧
      ∃ after, step crypto final ⟨first, .deleteParty⟩ = some after ∧
        (getPartyDetailsByOcpi after countryCode partyId).1 = .zero ∧
        getPartyDetailsByAddress after second = getPartyDetailsByAddress final second := by
  obtain ⟨country, id, filled, operating⟩ := complete
  have apart : second.val ≠ first.val := fun same => different (Subtype.ext same)
  have firstReal : (Address.zero) ≠ first.val := Ne.symm first.property
  have secondReal : (Address.zero) ≠ second.val := Ne.symm second.property
  refine ⟨_, run_step (step_iff.mpr ⟨_, _, invalid_lists invalid,
      setParty_ok_iff.mpr ⟨⟨country, id, filled, operating, Or.inl free, known⟩, rfl, rfl⟩⟩)
    (run_step (step_iff.mpr ⟨_, _, rfl,
      setParty_ok_iff.mpr ⟨⟨country, id, filled, operating, Or.inl ?_, known⟩, rfl, rfl⟩⟩)
    (run_step (step_iff.mpr ⟨_, _, invalid_deletes invalid, deleteParty_ok_iff.mpr ⟨?_, rfl, rfl⟩⟩)
    (run_step (step_iff.mpr ⟨_, _, rfl,
      setParty_ok_iff.mpr ⟨⟨country, id, filled, operating, Or.inl ?_, known⟩, rfl, rfl⟩⟩)
      rfl))), ?_⟩
  · exact assign_same _ _ _
  · simp only [assign_other _ _ firstReal, assign_same]
    exact operating
  · simp only [assign_other _ _ firstReal, assign_same, PartyDetails.combination]
  · have shared : ∀ party ∈ [first.val, second.val], party = first.val ∨ party = second.val := by
      intro party member
      simpa only [List.mem_cons, List.not_mem_nil, or_false] using member
    refine ⟨?_, ?_, ?_, ?_⟩
    · intro party member
      rcases shared party member with rfl | rfl
      · simp only [getPartyDetailsByAddress, getOperatorByAddress, getNode,
          assign_other _ _ (Ne.symm apart), assign_other _ _ (Ne.symm firstReal), assign_same]
      · simp only [getPartyDetailsByAddress, getOperatorByAddress, getNode, assign_same]
    · simp only [getPartyDetailsByOcpi, assign_same]
    · intro otherRoles otherOperator
      apply @closed_refused _ _ ⟨first, _⟩ first otherOperator countryCode partyId otherRoles rfl
      simp only [names, assign_same]
      exact ⟨second.property, apart⟩
    · refine ⟨_, step_iff.mpr ⟨_, _, rfl, deleteParty_ok_iff.mpr ⟨?_, rfl, rfl⟩⟩, ?_, ?_⟩
      · simp only [assign_other _ _ (Ne.symm apart), assign_other _ _ (Ne.symm firstReal),
          assign_same]
        exact operating
      · simp only [getPartyDetailsByOcpi, assign_other _ _ (Ne.symm apart),
          assign_other _ _ (Ne.symm firstReal), assign_same, PartyDetails.combination]
      · simp only [getPartyDetailsByAddress, getOperatorByAddress, assign_other _ _ apart,
          assign_same]

/-- An empty signature is invalid for the stand-ins: no digest is empty. -/
theorem sample_invalid : Invalid .sample ⟨[], [], 0⟩ := by
  intro packed
  have size := Crypto.sample_lawful.hashSize (EvDashboardRegistry.utf8
    "\u0019Ethereum Signed Message:\n32" ++ Crypto.sample.ethers.keccak256 packed)
  have differs : EvDashboardRegistry.messageDigest .sample
      (Crypto.sample.ethers.keccak256 packed) ≠ [] := by
    intro empty
    rw [EvDashboardRegistry.messageDigest] at empty
    rw [empty] at size
    cases size
  exact if_neg differs

/-- With the stand-in signatures the two parties share a combination. -/
theorem two_parties_share : ∃ storage,
    run (step .sample) (deployed .zero) [⟨Nodes.firstAccount, .setNode [97]⟩] = some storage ∧
    ∃ final, run (step .sample) storage
        (sharing Nodes.secondAccount Nodes.firstAccount Nodes.secondAccount ⟨68, 69⟩ ⟨69, 86, 49⟩
          [.CPO] (.repeated 1) ⟨[], [], 0⟩) = some final ∧
      (getPartyDetailsByAddress final (.repeated 1)).1 =
        (getPartyDetailsByAddress final (.repeated 2)).1 := by
  obtain ⟨storage, linked, known, free⟩ : ∃ storage,
      run (step .sample) (deployed .zero) [⟨Nodes.firstAccount, .setNode [97]⟩] = some storage ∧
        getNode storage (.repeated 1) ≠ [] ∧
        (getPartyDetailsByOcpi storage ⟨68, 69⟩ ⟨69, 86, 49⟩).1 = .zero :=
    ⟨_, rfl, by decide, rfl⟩
  obtain ⟨final, ran, shared, _⟩ := combination_shared .sample ⟨[], [], 0⟩ sample_invalid storage
    ⟨68, 69⟩ ⟨69, 86, 49⟩ [.CPO] (.repeated 1) (by decide) known free Nodes.secondAccount
    Nodes.firstAccount Nodes.secondAccount (by decide)
  refine ⟨storage, linked, final, ran, ?_⟩
  rw [shared (.repeated 1) (by decide), shared (.repeated 2) (by decide)]

/-- A party that moves to another combination keeps the old one from everybody else. In
every later state, as long as it is not listed under the old combination again and
`address(0)` is not listed, nobody is listed under the old combination, and every attempt
of another party is refused. The combination still finds the party, with the details of
its new listing; and when the owner of the contract deletes the old combination, it is
the new listing that is deleted. -/
theorem moved_combination_kept (crypto : Crypto) (owner : Address) (messages later : List Message)
    (storage next final : Storage) (message : Message) (party operator : Address)
    (countryCode : CountryCode) (partyId : PartyId) (roles : List Role)
    (ran : run (step crypto) (deployed owner) messages = some storage)
    (spared : ∀ earlier ∈ messages, ¬earlier.call.ListsZero)
    (listed : (getOperatorByAddress storage party).1 ≠ .zero)
    (authorised : authorise crypto message.sender storage message.call =
      .ok (.setParty party countryCode partyId roles operator))
    (moved : (countryCode, partyId) ≠ (getPartyDetailsByAddress storage party).1.combination)
    (stepped : step crypto storage message = some next)
    (continued : run (step crypto) next later = some final)
    (gone : Meets (step crypto) (fun state other => ¬other.call.ListsZero ∧
        ∀ otherRoles otherOperator, authorise crypto other.sender state other.call ≠
          .ok (.setParty party (getPartyDetailsByAddress storage party).1.countryCode
            (getPartyDetailsByAddress storage party).1.partyId otherRoles otherOperator))
      next later) :
    let old := (getPartyDetailsByAddress storage party).1
    (∀ other, (getOperatorByAddress final other).1 ≠ .zero →
      (getPartyDetailsByAddress final other).1.combination ≠ old.combination) ∧
    (∀ attempt other otherRoles otherOperator, other ≠ party →
      authorise crypto attempt.sender final attempt.call =
        .ok (.setParty other old.countryCode old.partyId otherRoles otherOperator) →
      step crypto final attempt = none) ∧
    getPartyDetailsByOcpi final old.countryCode old.partyId =
      (party, getPartyDetailsByAddress final party) ∧
    authorise crypto final.owner final (.adminDeleteParty old.countryCode old.partyId) =
      .ok (.deleteParty party) := by
  have sound : Sound storage := (deployed_sound owner).through spared ran
  have nonzero : party ≠ .zero := by
    rintro rfl
    exact listed sound.nobody
  obtain ⟨action, event, same, performed⟩ := step_iff.mp stepped
  cases authorised.symm.trans same
  have stranded : Stranded (fun other => ¬Apart party other) (names next)
      (storage.partyOf party).combination :=
    (setParty_names nonzero performed).strands sound.exclusive (holds_iff.mpr ⟨listed, rfl⟩)
      (Ne.symm moved)
  have kept := Meets.invariant
    (fun state => Stranded (fun other => ¬Apart party other) (names state)
      (storage.partyOf party).combination) ?_ stranded gone continued
  · have points : final.uniqueParties (storage.partyOf party).combination = party :=
      (points_iff nonzero).mp (fun other different =>
        kept.closed other (fun free => free different))
    refine ⟨?_, ?_, ?_, ?_⟩
    · intro other otherListed again
      exact kept.unheld other (holds_iff.mpr ⟨otherListed, again⟩)
    · intro attempt other otherRoles otherOperator different attempted
      exact closed_refused attempted (kept.closed other (fun free => free different))
    · exact congrArg (fun found => (found, getPartyDetailsByAddress final found)) points
    · simp only [authorise, onlyOwner, EvDashboardRegistry.require, decide_true, if_true]
      exact congrArg (fun found => Except.ok (Action.deleteParty found)) points
  · rintro state other after stranded ⟨spared, elsewhere⟩ stepped
    obtain ⟨action, event, authorised, performed⟩ := step_iff.mp stepped
    refine (perform_names (spared_action spared authorised) performed).stranded ?_ stranded
    intro holder exempt claims
    obtain rfl : holder = party := Classical.not_not.mp exempt
    cases action with
    | setParty =>
      cases claims
      exact elsewhere _ _ authorised
    | _ => cases claims

/-- The party that joined moves on; its old combination still finds it. -/
theorem moved_party_found : ∃ storage next,
    run (step .sample) (deployed .zero) joined = some storage ∧
      step .sample storage ⟨Nodes.secondAccount,
        .setParty ⟨68, 69⟩ ⟨69, 86, 50⟩ [.EMSP] (.repeated 1)⟩ = some next ∧
      (getPartyDetailsByOcpi next ⟨68, 69⟩ ⟨69, 86, 49⟩).2.1.roles = [.EMSP] := by
  refine ⟨_, _, rfl, rfl, ?_⟩
  have kept := moved_combination_kept .sample .zero joined [] _ _ _
    ⟨Nodes.secondAccount, .setParty ⟨68, 69⟩ ⟨69, 86, 50⟩ [.EMSP] (.repeated 1)⟩ (.repeated 2)
    (.repeated 1) ⟨68, 69⟩ ⟨69, 86, 50⟩ [.EMSP] rfl
    (fun message member => by
      simp only [joined, List.mem_cons, List.not_mem_nil, or_false] at member
      rcases member with rfl | rfl <;> exact id)
    (by decide) rfl (by decide) rfl rfl trivial
  exact congrArg (fun found => found.2.1.roles) kept.2.2.1

end EvDashboard.Registry.Parties
