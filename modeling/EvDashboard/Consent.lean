import EvDashboard.Parties

/-!
# Whose listing a call may change

The contract finds out for whom a call acts and then changes the listing of that address
only. An address consents to a call by sending it or by having signed its parameters. The
owner of the contract needs no consent, but all it can do to a listing is end it.
-/

namespace EvDashboard.Registry.Consent

open Transition
open EvDashboardRegistry (assign assign_same assign_other require_then)

/-- The packed parameters of a raw call, with the signature given for them. -/
def signed : Call → Option (Bytes × Signature)
  | .setNodeRaw operator domain signature => some (operator.bytes ++ domain, signature)
  | .deleteNodeRaw operator signature => some (operator.bytes, signature)
  | .setPartyRaw party countryCode partyId roles operator signature =>
    some (packParty party countryCode partyId roles operator, signature)
  | .setPartyModulesRaw party sender receiver signature =>
    some (packModules party sender receiver, signature)
  | .deletePartyRaw party signature => some (party.bytes, signature)
  | _ => none

/-- The address whose listing an action changes. -/
def subject : Action → Option Address
  | .setNode operator _ => some operator
  | .deleteNode operator => some operator
  | .setParty party _ _ _ _ => some party
  | .setPartyModules party _ _ => some party
  | .deleteParty party => some party
  | .transferOwnership _ => none

/-- An address sends the call, or is recovered from a signature of its parameters. -/
def Consents (crypto : Crypto) (message : Message) (address : Address) : Prop :=
  message.sender = address ∨ ∃ packed signature,
    signed message.call = some (packed, signature) ∧ recover crypto packed signature = address

/-- A deletion that is up to the owner of the contract. -/
def Administers : Call → Prop
  | .adminDeleteOperator _ => True
  | .adminDeleteParty _ _ => True
  | _ => False

/-- What is kept of an address. -/
structure Listing where
  domain : Bytes
  details : PartyDetails
  operator : Address

def listing (storage : Storage) (address : Address) : Listing :=
  ⟨getNode storage address, (getPartyDetailsByAddress storage address).1,
    (getOperatorByAddress storage address).1⟩

/-- A listing as it was, or without its domain, without its party, or without both. -/
structure Listing.Reduced (before after : Listing) : Prop where
  node : after.domain = before.domain ∨ after.domain = []
  party : (after.details = before.details ∧ after.operator = before.operator) ∨
    (after.details = .empty ∧ after.operator = .zero)

variable {crypto : Crypto} {storage next : Storage} {event : Event}

theorem Listing.Reduced.refl (before : Listing) : before.Reduced before :=
  ⟨Or.inl rfl, Or.inl ⟨rfl, rfl⟩⟩

theorem Listing.Reduced.trans {first second third : Listing} (early : first.Reduced second)
    (late : second.Reduced third) : first.Reduced third := by
  constructor
  · rcases late.node with same | gone
    · rw [same]
      exact early.node
    · exact Or.inr gone
  · rcases late.party with ⟨details, operator⟩ | gone
    · rw [details, operator]
      exact early.party
    · exact Or.inr gone

/-- An action changes the listing of its subject only. -/
theorem perform_frame {action : Action} {address : Address}
    (performed : action.perform storage = .ok (next, event))
    (other : subject action ≠ some address) : listing next address = listing storage address := by
  have apart {party : Address} (about : subject action = some party) : address ≠ party := by
    rintro rfl
    exact other about
  cases action with
  | setNode operator domain =>
    obtain ⟨_, _, rfl, _⟩ := setNode_ok_iff.mp performed
    simp only [listing, getNode, getPartyDetailsByAddress, getOperatorByAddress,
      assign_other _ _ (apart rfl)]
  | deleteNode operator =>
    obtain ⟨_, rfl, _⟩ := deleteNode_ok_iff.mp performed
    simp only [listing, getNode, getPartyDetailsByAddress, getOperatorByAddress,
      assign_other _ _ (apart rfl)]
  | setParty party countryCode partyId roles operator =>
    obtain ⟨_, rfl, _⟩ := setParty_ok_iff.mp performed
    simp only [listing, getNode, getPartyDetailsByAddress, getOperatorByAddress,
      assign_other _ _ (apart rfl)]
  | setPartyModules party sender receiver =>
    obtain ⟨_, rfl, _⟩ := setPartyModules_ok_iff.mp performed
    simp only [listing, getNode, getPartyDetailsByAddress, getOperatorByAddress,
      assign_other _ _ (apart rfl)]
  | deleteParty party =>
    obtain ⟨_, rfl, _⟩ := deleteParty_ok_iff.mp performed
    simp only [listing, getNode, getPartyDetailsByAddress, getOperatorByAddress,
      assign_other _ _ (apart rfl)]
  | transferOwnership newOwner =>
    cases performed
    rfl

/-- A deletion ends one of the two parts of a listing. -/
theorem deletion_reduces {action : Action} {address : Address}
    (performed : action.perform storage = .ok (next, event))
    (deletes : action = .deleteNode address ∨ action = .deleteParty address) :
    (listing storage address).Reduced (listing next address) := by
  rcases deletes with rfl | rfl
  · obtain ⟨_, rfl, _⟩ := deleteNode_ok_iff.mp performed
    exact ⟨Or.inr (assign_same _ _ _), Or.inl ⟨rfl, rfl⟩⟩
  · obtain ⟨_, rfl, _⟩ := deleteParty_ok_iff.mp performed
    exact ⟨Or.inl rfl, Or.inr ⟨assign_same _ _ _, assign_same _ _ _⟩⟩

/-- Whoever a call acts for consents to it, unless the owner of the contract deletes a
listing. -/
theorem authorise_subject {message : Message} {action : Action} {address : Address}
    (authorised : authorise crypto message.sender storage message.call = .ok action)
    (about : subject action = some address) :
    Consents crypto message address ∨
      (message.sender = storage.owner ∧ Administers message.call ∧
        (action = .deleteNode address ∨ action = .deleteParty address)) := by
  obtain ⟨sender, call⟩ := message
  cases call with
  | adminDeleteOperator operator =>
    obtain ⟨owns, same⟩ := require_then.mp authorised
    cases same
    cases about
    exact Or.inr ⟨of_decide_eq_true owns, trivial, Or.inl rfl⟩
  | adminDeleteParty countryCode partyId =>
    obtain ⟨owns, same⟩ := require_then.mp authorised
    cases same
    cases about
    exact Or.inr ⟨of_decide_eq_true owns, trivial, Or.inr rfl⟩
  | setNodeRaw | deleteNodeRaw =>
    cases authorised
    cases about
    exact Or.inl (Or.inr ⟨_, _, rfl, rfl⟩)
  | setPartyRaw | setPartyModulesRaw | deletePartyRaw =>
    obtain ⟨_, same⟩ := require_then.mp authorised
    cases same
    cases about
    exact Or.inl (Or.inr ⟨_, _, rfl, rfl⟩)
  | transferOwnership newOwner =>
    obtain ⟨_, same⟩ := require_then.mp (require_then.mp authorised).2
    cases same
    cases about
  | renounceOwnership =>
    obtain ⟨_, same⟩ := require_then.mp authorised
    cases same
    cases about
  | _ =>
    cases authorised
    cases about
    exact Or.inl (Or.inl rfl)

/-- A call that an address does not consent to ends parts of its listing at most, and
only the owner's deletions do that much. -/
theorem step_unconsented {message : Message} {address : Address}
    (silent : ¬Consents crypto message address)
    (stepped : step crypto storage message = some next) :
    (listing storage address).Reduced (listing next address) ∧
      ((message.sender = storage.owner → ¬Administers message.call) →
        listing next address = listing storage address) := by
  obtain ⟨action, event, authorised, performed⟩ := step_iff.mp stepped
  by_cases about : subject action = some address
  · rcases authorise_subject authorised about with consents | ⟨owns, administers, deletes⟩
    · exact absurd consents silent
    · exact ⟨deletion_reduces performed deletes, fun spared => absurd administers (spared owns)⟩
  · have same := perform_frame performed about
    rw [same]
    exact ⟨.refl _, fun _ => rfl⟩

/-- Over any run, whoever calls what: the listing of an address that consents to none of
the calls is what it was, except that the owner of the contract may have deleted its
domain or its party. If the owner made no such call, it is unchanged. -/
theorem unconsented_listing (crypto : Crypto) (storage final : Storage) (messages : List Message)
    (address : Address) (silent : ∀ message ∈ messages, ¬Consents crypto message address)
    (ran : run (step crypto) storage messages = some final) :
    (listing storage address).Reduced (listing final address) ∧
      (Meets (step crypto) (fun state message =>
          message.sender = state.owner → ¬Administers message.call) storage messages →
        listing final address = listing storage address) := by
  induction messages generalizing storage with
  | nil =>
    obtain rfl := Option.some.inj ran
    exact ⟨.refl _, fun _ => rfl⟩
  | cons message messages inductionHypothesis =>
    obtain ⟨next, stepped, rest⟩ := run_cons ran
    obtain ⟨reduced, same⟩ := step_unconsented (silent message List.mem_cons_self) stepped
    obtain ⟨reducedAfter, sameAfter⟩ := inductionHypothesis next
      (fun other member => silent other (List.mem_cons_of_mem _ member)) rest
    refine ⟨reduced.trans reducedAfter, ?_⟩
    rintro ⟨spared, sparedAfter⟩
    exact (sameAfter (sparedAfter next stepped)).trans (same spared)

/-- The party that joined is not affected when its operator moves to another domain. -/
theorem joined_party_unaffected : ∃ storage final,
    run (step .sample) (deployed .zero) Parties.joined = some storage ∧
      run (step .sample) storage [⟨Nodes.firstAccount, .setNode [98]⟩] = some final ∧
      listing final (.repeated 2) = listing storage (.repeated 2) := by
  obtain ⟨storage, final, ran, continued⟩ : ∃ storage final,
      run (step .sample) (deployed .zero) Parties.joined = some storage ∧
        run (step .sample) storage [⟨Nodes.firstAccount, .setNode [98]⟩] = some final :=
    ⟨_, _, rfl, rfl⟩
  refine ⟨storage, final, ran, continued,
    (unconsented_listing .sample storage final _ (.repeated 2) ?_ continued).2 ?_⟩
  · intro message member
    obtain rfl := List.mem_singleton.mp member
    rintro (sent | ⟨_, _, same, _⟩)
    · exact absurd sent (by decide)
    · cases same
  · exact ⟨fun _ => id, fun _ _ => trivial⟩

/-- The calls that are up to the owner of the contract. -/
def OwnerOnly : Call → Prop
  | .adminDeleteOperator _ => True
  | .adminDeleteParty _ _ => True
  | .transferOwnership _ => True
  | .renounceOwnership => True
  | _ => False

/-- Only the owner gets such a call authorised. -/
theorem authorise_owner {sender : Address} {call : Call} {action : Action}
    (reserved : OwnerOnly call) (authorised : authorise crypto sender storage call = .ok action) :
    sender = storage.owner := by
  cases call with
  | adminDeleteOperator | adminDeleteParty | transferOwnership | renounceOwnership =>
    exact of_decide_eq_true (require_then.mp authorised).1
  | _ => exact absurd reserved id

/-- No other call changes the owner. -/
theorem step_owner {message : Message} (open_ : ¬OwnerOnly message.call)
    (stepped : step crypto storage message = some next) : next.owner = storage.owner := by
  obtain ⟨action, event, authorised, performed⟩ := step_iff.mp stepped
  cases action with
  | setNode operator domain =>
    obtain ⟨_, _, rfl, _⟩ := setNode_ok_iff.mp performed
    rfl
  | deleteNode operator =>
    obtain ⟨_, rfl, _⟩ := deleteNode_ok_iff.mp performed
    rfl
  | setParty party countryCode partyId roles operator =>
    obtain ⟨_, rfl, _⟩ := setParty_ok_iff.mp performed
    rfl
  | setPartyModules party sender receiver =>
    obtain ⟨_, rfl, _⟩ := setPartyModules_ok_iff.mp performed
    rfl
  | deleteParty party =>
    obtain ⟨_, rfl, _⟩ := deleteParty_ok_iff.mp performed
    rfl
  | transferOwnership newOwner =>
    obtain ⟨sender, call⟩ := message
    cases call with
    | transferOwnership | renounceOwnership => exact absurd trivial open_
    | adminDeleteOperator | adminDeleteParty => exact absurd trivial open_
    | setPartyRaw | setPartyModulesRaw | deletePartyRaw =>
      obtain ⟨_, same⟩ := require_then.mp authorised
      cases same
    | _ => cases authorised

/-- Once ownership was renounced, nobody is accepted as the owner ever again: in no later run
is there a call that is up to the owner, the contract stays without one, and the listing of
an address that consents to none of the calls stays as it is. -/
theorem renounced_for_good (crypto : Crypto) (storage final : Storage) (messages : List Message)
    (renounced : storage.owner = .zero) (ran : run (step crypto) storage messages = some final) :
    final.owner = .zero ∧ (∀ message ∈ messages, ¬OwnerOnly message.call) ∧
      ∀ address, (∀ message ∈ messages, ¬Consents crypto message address) →
        listing final address = listing storage address := by
  induction messages generalizing storage with
  | nil =>
    obtain rfl := Option.some.inj ran
    exact ⟨renounced, fun _ member => absurd member List.not_mem_nil, fun _ _ => rfl⟩
  | cons message messages inductionHypothesis =>
    obtain ⟨next, stepped, rest⟩ := run_cons ran
    have stranger : (message.sender : Address) ≠ storage.owner := by
      rw [renounced]
      exact message.sender.property
    have open_ : ¬OwnerOnly message.call := by
      intro reserved
      obtain ⟨action, event, authorised, _⟩ := step_iff.mp stepped
      exact stranger (authorise_owner reserved authorised)
    obtain ⟨ownerless, others, unchanged⟩ :=
      inductionHypothesis next ((step_owner open_ stepped).trans renounced) rest
    refine ⟨ownerless, ?_, ?_⟩
    · intro other member
      rcases List.mem_cons.mp member with rfl | later
      · exact open_
      · exact others other later
    · intro address silent
      have first := (step_unconsented (silent message List.mem_cons_self) stepped).2
        (fun owns => absurd owns stranger)
      exact (unchanged address (fun other member =>
        silent other (List.mem_cons_of_mem _ member))).trans first

/-- The first account renounces the ownership that it has from the deployment. When a party
has joined, there is no owner still. -/
theorem renounced_then_joined : ∃ storage final,
    run (step .sample) (deployed (.repeated 1)) [⟨Nodes.firstAccount, .renounceOwnership⟩] =
        some storage ∧
      run (step .sample) storage Parties.joined = some final ∧ final.owner = .zero := by
  obtain ⟨storage, final, ran, continued, renounced⟩ : ∃ storage final,
      run (step .sample) (deployed (.repeated 1)) [⟨Nodes.firstAccount, .renounceOwnership⟩] =
        some storage ∧
      run (step .sample) storage Parties.joined = some final ∧ storage.owner = .zero :=
    ⟨_, _, rfl, rfl, rfl⟩
  exact ⟨storage, final, ran, continued,
    (renounced_for_good .sample storage final _ renounced continued).1⟩

end EvDashboard.Registry.Consent
