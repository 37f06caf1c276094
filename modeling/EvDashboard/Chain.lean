import EvDashboard.Ledger
import EvDashboard.Parties

/-!
# Both contracts on one chain

The dashboard's contract asks the OCN registry for the operator of a user at every
registration. Both contracts are open to everybody, and their transactions are mined in
any order. A transaction that is refused, or that runs out of its gas, changes neither of
them, so that a run consists of the accepted ones.

Once a user is added it stays one, whatever becomes of its listing. The guarantees of the
dashboard's contract rest on its users not being `address(0)`, which marks a device
without an owner; that they are not is up to the OCN registry alone.
-/

namespace EvDashboard

/-- The OCN registry, and the dashboard's contract with the transactions it accepted. -/
structure Chain where
  registry : Registry.Storage
  ledger : Ledger

/-- A transaction to one of the contracts. -/
inductive Sent where
  | toRegistry (message : Registry.Message)
  | toDashboard (transaction : EvDashboardRegistry.Transaction)

/-- The transaction asks for a listing of `address(0)`. -/
def Sent.ListsZero : Sent → Prop
  | toRegistry message => message.call.ListsZero
  | toDashboard _ => False

namespace Chain

open EvDashboardRegistry Transition
open Registry (Account getOperatorByAddress getParties CountryCode PartyId Role)

/-- Both contracts freshly deployed, the OCN registry by its owner. -/
def deployed (owner : Address) : Chain := ⟨Registry.deployed owner, .fresh⟩

/-- What the dashboard's contract learns from the OCN registry. -/
def ocn (chain : Chain) : OcnRegistry :=
  fun party => (getOperatorByAddress chain.registry party).1

/-- Accept one transaction. -/
def step (crypto : Crypto) (chain : Chain) : Sent → Option Chain
  | .toRegistry message =>
    (Registry.step crypto chain.registry message).map
      (fun registry => { chain with registry := registry })
  | .toDashboard transaction =>
    (accepted crypto (fun _ _ => true) chain.ocn chain.ledger.storage transaction).map
      (fun storage =>
        { chain with ledger := ⟨storage, chain.ledger.accepted ++ [transaction]⟩ })

variable {crypto : Crypto} {chain next : Chain}

theorem step_toRegistry {message : Registry.Message} :
    step crypto chain (.toRegistry message) = some next ↔
      ∃ registry, Registry.step crypto chain.registry message = some registry ∧
        next = { chain with registry := registry } := by
  simp only [step, Option.map_eq_some_iff]
  constructor
  · rintro ⟨registry, stepped, rfl⟩
    exact ⟨registry, stepped, rfl⟩
  · rintro ⟨registry, stepped, rfl⟩
    exact ⟨registry, stepped, rfl⟩

/-- The dashboard's contract accepts a transaction as its ledger records it. -/
theorem step_toDashboard {transaction : Transaction} :
    step crypto chain (.toDashboard transaction) = some next ↔
      ∃ storage, accepted crypto (fun _ _ => true) chain.ocn chain.ledger.storage transaction =
          some storage ∧
        next = { chain with
          ledger := chain.ledger.mine crypto (fun _ _ => true) chain.ocn transaction } := by
  simp only [step, Option.map_eq_some_iff]
  constructor
  · rintro ⟨storage, taken, rfl⟩
    exact ⟨storage, taken, by rw [Ledger.mine_accepted taken]⟩
  · rintro ⟨storage, taken, rfl⟩
    exact ⟨storage, taken, by rw [Ledger.mine_accepted taken]⟩

/-- Only a user that the OCN registry lists gets a transaction accepted. -/
theorem accepted_listed {ocn : OcnRegistry} {storage after : Storage} {transaction : Transaction}
    (taken : accepted crypto (fun _ _ => true) ocn storage transaction = some after) :
    ocn transaction.user ≠ .zero := by
  rcases accepted_cases taken with ⟨_, _, rfl, added⟩ | ⟨_, _, _, _, rfl, added⟩
  · exact (addUser_ok_iff.mp added).2.1
  · exact (addDevice_ok_iff.mp added).2.1

/-- What holds of both contracts while `address(0)` is not listed. -/
structure Sound (chain : Chain) : Prop where
  registry : Registry.Parties.Sound chain.registry
  ledger : chain.ledger.Sound
  users : ∀ user ∈ chain.ledger.storage.userAddressList,
    user ≠ .zero ∧ user ∈ chain.registry.parties

theorem deployed_sound (owner : Address) : (deployed owner).Sound where
  registry := Registry.Parties.deployed_sound owner
  ledger := Ledger.fresh_sound
  users := fun user member => by cases member

/-- Whoever the contract has as a user after a transaction was one before or is the user
of the transaction. -/
theorem accepted_users {ocn : OcnRegistry} {storage after : Storage} {transaction : Transaction}
    (taken : accepted crypto (fun _ _ => true) ocn storage transaction = some after)
    {user : Address} (member : user ∈ after.userAddressList) :
    user ∈ storage.userAddressList ∨ user = transaction.user := by
  rcases accepted_cases taken with ⟨_, _, rfl, added⟩ | ⟨_, _, _, _, _, added⟩
  · obtain ⟨_, _, _, rfl⟩ := addUser_ok_iff.mp added
    simpa only [List.mem_append, List.mem_singleton, Transaction.user] using member
  · obtain ⟨_, _, _, _, rfl⟩ := addDevice_ok_iff.mp added
    exact Or.inl member

/-- A user stays one. -/
theorem step_users {sent : Sent} {user : Address} (stepped : step crypto chain sent = some next)
    (member : user ∈ chain.ledger.storage.userAddressList) :
    user ∈ next.ledger.storage.userAddressList := by
  cases sent with
  | toRegistry message =>
    obtain ⟨registry, _, rfl⟩ := step_toRegistry.mp stepped
    exact member
  | toDashboard transaction =>
    obtain ⟨storage, taken, rfl⟩ := step_toDashboard.mp stepped
    rw [Ledger.mine_accepted taken]
    exact accepted_keeps_users taken member

/-- Every transaction that does not ask for a listing of `address(0)` keeps both contracts
sound. -/
theorem Sound.step {sent : Sent} (sound : chain.Sound) (spared : ¬sent.ListsZero)
    (stepped : step crypto chain sent = some next) : next.Sound := by
  cases sent with
  | toRegistry message =>
    obtain ⟨registry, accepts, rfl⟩ := step_toRegistry.mp stepped
    refine ⟨sound.registry.accept spared accepts, sound.ledger, ?_⟩
    intro user member
    obtain ⟨nonzero, listed⟩ := sound.users user member
    exact ⟨nonzero, Registry.Parties.step_parties accepts listed⟩
  | toDashboard transaction =>
    obtain ⟨storage, taken, rfl⟩ := step_toDashboard.mp stepped
    have listed : chain.ocn transaction.user ≠ .zero := accepted_listed taken
    have nonzero : transaction.user ≠ .zero := by
      intro same
      rw [same] at listed
      exact listed sound.registry.nobody
    refine ⟨sound.registry, sound.ledger.mine nonzero, ?_⟩
    intro user member
    rw [Ledger.mine_accepted taken] at member
    rcases accepted_users taken member with earlier | rfl
    · exact sound.users user earlier
    · exact ⟨nonzero, (sound.registry.operated _ listed).1⟩

/-- So does a run of such transactions. -/
theorem Sound.run {sents : List Sent} {final : Chain} (sound : chain.Sound)
    (spared : ∀ sent ∈ sents, ¬sent.ListsZero)
    (ran : run (Chain.step crypto) chain sents = some final) : final.Sound :=
  Meets.invariant Sound (fun _ _ _ sound spared stepped => sound.step spared stepped) sound
    (@Meets.always _ _ (Chain.step crypto) (fun _ sent => ¬sent.ListsZero) sents
      (fun sent member _ => spared sent member) chain) ran

/-- Whatever is sent to either contract, in whatever order, the dashboard's contract keeps
its promises as long as `address(0)` is not listed in the OCN registry: its lists and its
maps agree; the devices on its list are the accepted registrations, in order and without
repetition; each of them is still owned by whoever registered it; and every user has been
a party of the OCN registry. -/
theorem dashboard_sound (crypto : Crypto) (owner : Address) (sents : List Sent) (chain : Chain)
    (spared : ∀ sent ∈ sents, ¬sent.ListsZero)
    (ran : run (step crypto) (deployed owner) sents = some chain) :
    Coherent chain.ledger.storage ∧
      chain.ledger.registrations = getAllDeviceAddresses chain.ledger.storage ∧
      (∀ device identifier user signature,
        .addDevice device identifier user signature ∈ chain.ledger.accepted →
          chain.ledger.storage.devices device = ⟨user, identifier⟩) ∧
      ∀ user ∈ getAllUserAddresses chain.ledger.storage,
        user ≠ .zero ∧ user ∈ getParties chain.registry := by
  have sound : chain.Sound := (deployed_sound owner).run spared ran
  exact ⟨sound.ledger.coherent, sound.ledger.registered, sound.ledger.recorded, sound.users⟩

/-- A party joins the OCN registry, adds itself to the dashboard and registers a device. -/
def opened : List Sent :=
  Registry.Parties.joined.map .toRegistry ++
    [.toDashboard (.addUser (.repeated 2) (EvRegistry.userSignature ⟨"b"⟩ .sample)),
      .toDashboard (.addDevice (.repeated 5) "uid" (.repeated 2)
        (EvRegistry.deviceSignature ⟨"b"⟩ .sample firstSpelling "uid"))]

theorem opened_spared : ∀ sent ∈ opened, ¬sent.ListsZero := by
  intro sent member
  simp only [opened, Registry.Parties.joined, List.map_cons, List.map_nil, List.cons_append,
    List.nil_append, List.mem_cons, List.not_mem_nil, or_false] at member
  rcases member with rfl | rfl | rfl | rfl <;> exact id

/-- The party owns the device it registered. -/
theorem opened_device_owned : ∃ chain,
    run (step .sample) (deployed .zero) opened = some chain ∧
      chain.ledger.storage.devices (.repeated 5) = ⟨.repeated 2, "uid"⟩ := by
  obtain ⟨chain, ran, member⟩ : ∃ chain, run (step .sample) (deployed .zero) opened = some chain ∧
      .addDevice (.repeated 5) "uid" (.repeated 2)
        (EvRegistry.deviceSignature ⟨"b"⟩ .sample firstSpelling "uid") ∈ chain.ledger.accepted :=
    ⟨_, rfl, by decide⟩
  exact ⟨chain, ran,
    (dashboard_sound .sample .zero opened chain opened_spared ran).2.2.1 _ _ _ _ member⟩

/-- A device is on the list that has no owner or that is listed twice. -/
def Damaged (storage : Storage) : Prop :=
  ∃ device ∈ storage.deviceAddressList,
    (storage.devices device).user = .zero ∨ 1 < storage.deviceAddressList.count device

/-- The transaction registers a device for `address(0)`. -/
def RegistersForZero : Transaction → Prop
  | .addUser _ _ => False
  | .addDevice _ _ user _ => user = .zero

theorem Damaged.not_coherent {storage : Storage} (damaged : Damaged storage) :
    ¬Coherent storage := by
  rintro coherent
  obtain ⟨device, member, unowned | repeated⟩ := damaged
  · exact (coherent.deviceListed device).mpr member unowned
  · have once : storage.deviceAddressList.count device ≤ 1 :=
      List.nodup_iff_count.mp coherent.devicesDistinct device
    omega

/-- Damage is never repaired: a device without an owner that gets one is listed again. -/
theorem Damaged.accepted {ocn : OcnRegistry} {storage after : Storage} {transaction : Transaction}
    (damaged : Damaged storage)
    (taken : accepted crypto (fun _ _ => true) ocn storage transaction = some after) :
    Damaged after := by
  obtain ⟨device, member, worse⟩ := damaged
  rcases accepted_cases taken with ⟨_, _, _, added⟩ | ⟨registered, _, _, _, _, added⟩
  · obtain ⟨_, _, _, rfl⟩ := addUser_ok_iff.mp added
    exact ⟨device, member, worse⟩
  · obtain ⟨_, _, _, _, rfl⟩ := addDevice_ok_iff.mp added
    refine ⟨device, List.mem_append_left _ member, ?_⟩
    have listed : 0 < storage.deviceAddressList.count device := List.count_pos_iff.mpr member
    simp only [List.count_append]
    by_cases same : device = registered
    · subst same
      right
      rw [List.count_singleton_self]
      omega
    · rw [assign_other _ _ same]
      rcases worse with unowned | repeated
      · exact Or.inl unowned
      · right
        omega

/-- A registration for `address(0)` does damage. -/
theorem registersForZero_damages {ocn : OcnRegistry} {storage after : Storage}
    {transaction : Transaction} (zero : RegistersForZero transaction)
    (taken : EvDashboardRegistry.accepted crypto (fun _ _ => true) ocn storage transaction =
      some after) : Damaged after := by
  rcases accepted_cases taken with ⟨_, _, rfl, _⟩ | ⟨device, _, user, _, rfl, added⟩
  · cases zero
  · obtain rfl : user = .zero := zero
    obtain ⟨_, _, _, _, rfl⟩ := addDevice_ok_iff.mp added
    refine ⟨device, List.mem_append_right _ (List.mem_singleton_self _), Or.inl ?_⟩
    simp only [assign_same]

/-- Any other transaction does none. -/
theorem coherent_kept {ocn : OcnRegistry} {storage after : Storage} {transaction : Transaction}
    (coherent : Coherent storage) (other : ¬RegistersForZero transaction)
    (taken : EvDashboardRegistry.accepted crypto (fun _ _ => true) ocn storage transaction =
      some after) : Coherent after := by
  rcases accepted_cases taken with ⟨_, _, rfl, added⟩ | ⟨_, _, _, _, rfl, added⟩
  · exact coherent.addUser added
  · exact coherent.addDevice other added

/-- Either no device was registered for `address(0)`, or one was and has done damage. -/
def Judged (chain : Chain) : Prop :=
  (Coherent chain.ledger.storage ∧
    ∀ transaction ∈ chain.ledger.accepted, ¬RegistersForZero transaction) ∨
  (Damaged chain.ledger.storage ∧
    ∃ transaction ∈ chain.ledger.accepted, RegistersForZero transaction)

theorem Judged.step {sent : Sent} (judged : chain.Judged)
    (stepped : step crypto chain sent = some next) : next.Judged := by
  cases sent with
  | toRegistry message =>
    obtain ⟨registry, _, rfl⟩ := step_toRegistry.mp stepped
    exact judged
  | toDashboard transaction =>
    obtain ⟨storage, taken, rfl⟩ := step_toDashboard.mp stepped
    rw [Judged, Ledger.mine_accepted taken]
    simp only [List.mem_append, List.mem_singleton]
    rcases judged with ⟨coherent, none⟩ | ⟨damaged, earlier, member, zero⟩
    · by_cases zero : RegistersForZero transaction
      · exact Or.inr ⟨registersForZero_damages zero taken, transaction, Or.inr rfl, zero⟩
      · refine Or.inl ⟨coherent_kept coherent zero taken, ?_⟩
        rintro other (member | rfl)
        · exact none other member
        · exact zero
    · exact Or.inr ⟨damaged.accepted taken, earlier, Or.inl member, zero⟩

/-- Whatever is sent to either contract, the lists and maps of the dashboard's contract
agree exactly if no device was ever registered for `address(0)`. One such registration
is never made up for. -/
theorem coherent_iff (crypto : Crypto) (owner : Address) (sents : List Sent) (chain : Chain)
    (ran : run (step crypto) (deployed owner) sents = some chain) :
    Coherent chain.ledger.storage ↔
      ∀ device identifier signature,
        .addDevice device identifier .zero signature ∉ chain.ledger.accepted := by
  have judged : chain.Judged :=
    run_invariant Judged (fun _ _ _ judged stepped => judged.step stepped)
      (Or.inl ⟨deployed_coherent, fun _ member => by cases member⟩) ran
  constructor
  · intro coherent device identifier signature member
    rcases judged with ⟨_, none⟩ | ⟨damaged, _⟩
    · exact none _ member rfl
    · exact damaged.not_coherent coherent
  · intro none
    rcases judged with ⟨coherent, _⟩ | ⟨_, transaction, member, zero⟩
    · exact coherent
    · cases transaction with
      | addUser user signature => cases zero
      | addDevice device identifier user signature =>
        obtain rfl : user = .zero := zero
        exact absurd member (none device identifier signature)

/-- The party's registration leaves the contract coherent. -/
theorem opened_coherent : ∃ chain, run (step .sample) (deployed .zero) opened = some chain ∧
    Coherent chain.ledger.storage := by
  obtain ⟨chain, ran, users⟩ : ∃ chain, run (step .sample) (deployed .zero) opened = some chain ∧
      chain.ledger.accepted.map Transaction.user = [.repeated 2, .repeated 2] :=
    ⟨_, rfl, by decide⟩
  refine ⟨chain, ran, (coherent_iff .sample .zero opened chain ran).mpr ?_⟩
  intro device identifier signature member
  have among : Address.zero ∈ chain.ledger.accepted.map Transaction.user :=
    List.mem_map.mpr ⟨_, member, rfl⟩
  rw [users] at among
  exact absurd among (by decide)

/-- An accepted transaction goes into the ledger. -/
theorem step_accepted {transaction : Transaction} {storage : Storage}
    (taken : accepted crypto (fun _ _ => true) chain.ocn chain.ledger.storage transaction =
      some storage) :
    step crypto chain (.toDashboard transaction) =
      some ⟨chain.registry, storage, chain.ledger.accepted ++ [transaction]⟩ := by
  simp only [step, taken, Option.map_some]

/-- Once a device was registered for `address(0)`, the contract is incoherent for good. -/
theorem incoherent_forever {final : Chain} {sents : List Sent}
    (damaged : Damaged chain.ledger.storage) (ran : run (step crypto) chain sents = some final) :
    Damaged final.ledger.storage := by
  refine run_invariant (fun chain => Damaged chain.ledger.storage) ?_ damaged ran
  intro chain sent next damaged stepped
  cases sent with
  | toRegistry message =>
    obtain ⟨registry, _, rfl⟩ := step_toRegistry.mp stepped
    exact damaged
  | toDashboard transaction =>
    obtain ⟨storage, taken, rfl⟩ := step_toDashboard.mp stepped
    rw [Ledger.mine_accepted taken]
    exact damaged.accepted taken

section Zero

variable {signature : Signature} {ocn : OcnRegistry} {storage : Storage}
  (invalid : Registry.Parties.Invalid crypto signature) (listed : ocn .zero ≠ .zero)

include invalid listed

/-- An invalid signature adds `address(0)` as a user, once it is listed. -/
theorem invalid_adds (fresh : storage.users .zero = false) : ∃ after,
    accepted crypto (fun _ _ => true) ocn storage (.addUser .zero signature) = some after ∧
      after.users .zero = true ∧ after.devices = storage.devices := by
  refine ⟨_, accepted_iff.mpr ⟨rfl, addUser_ok_iff.mpr ⟨invalid _, listed, fresh, rfl⟩⟩, ?_, rfl⟩
  simp only [assign_same]

/-- It then registers any device without an owner, and leaves it without one. -/
theorem invalid_registers (added : storage.users .zero = true) {device : Address}
    (unowned : (storage.devices device).user = .zero) (identifier : String) : ∃ after,
    accepted crypto (fun _ _ => true) ocn storage (.addDevice device identifier .zero signature) =
        some after ∧
      after.users .zero = true ∧ (after.devices device).user = .zero ∧
      after.identifiers = assign storage.identifiers identifier device ∧
      after.deviceAddressList = storage.deviceAddressList ++ [device] := by
  refine ⟨_, accepted_iff.mpr ⟨rfl, addDevice_ok_iff.mpr
    ⟨invalid _, listed, added, unowned, rfl⟩⟩, added, ?_, rfl, rfl⟩
  simp only [assign_same]

end Zero

/-- The transactions by which an attacker registers one device twice. -/
def takeover (attacker : Account) (countryCode : CountryCode) (partyId : PartyId)
    (roles : List Role) (operator : Address) (signature : Signature) (device : Address)
    (first second : String) : List Sent :=
  [.toRegistry ⟨attacker, .setPartyRaw .zero countryCode partyId roles operator signature⟩,
    .toDashboard (.addUser .zero signature),
    .toDashboard (.addDevice device first .zero signature),
    .toDashboard (.addDevice device second .zero signature)]

/-- Anybody can bring that about with an invalid signature, from every state in which some
combination is free and some operator has a domain. Without any key, the attacker gets a
device without an owner registered under two identifiers, and both of them find it. The
contract repeats the device in its list, and stays incoherent whatever is sent after. -/
theorem takeover_succeeds (crypto : Crypto) (signature : Signature)
    (invalid : Registry.Parties.Invalid crypto signature) (chain : Chain)
    (countryCode : CountryCode) (partyId : PartyId) (roles : List Role)
    (operator device : Address) (first second : String)
    (complete : countryCode ≠ .zero ∧ partyId ≠ .zero ∧ roles ≠ [] ∧ operator ≠ .zero)
    (known : Registry.getNode chain.registry operator ≠ [])
    (free : (Registry.getPartyDetailsByOcpi chain.registry countryCode partyId).1 = .zero)
    (fresh : chain.ledger.storage.users .zero = false)
    (unowned : (chain.ledger.storage.devices device).user = .zero) (attacker : Account) :
    ∃ final, run (step crypto) chain
        (takeover attacker countryCode partyId roles operator signature device first second) =
          some final ∧
      1 < (getAllDeviceAddresses final.ledger.storage).count device ∧
      getDeviceFromIdentifier final.ledger.storage first = (device, .zero) ∧
      getDeviceFromIdentifier final.ledger.storage second = (device, .zero) ∧
      ∀ sents later, run (step crypto) final sents = some later →
        ¬Coherent later.ledger.storage := by
  obtain ⟨country, id, filled, operating⟩ := complete
  obtain ⟨registry, enlists, operated⟩ : ∃ registry,
      Registry.step crypto chain.registry
          ⟨attacker, .setPartyRaw .zero countryCode partyId roles operator signature⟩ =
        some registry ∧ registry.operatorOf .zero = operator :=
    ⟨_, Registry.step_iff.mpr ⟨_, _, Registry.Parties.invalid_lists invalid,
      Registry.setParty_ok_iff.mpr
        ⟨⟨country, id, filled, operating, Or.inl free, known⟩, rfl, rfl⟩⟩, by
      simp only [assign_same]⟩
  have listed : (Chain.mk registry chain.ledger).ocn .zero ≠ .zero := by
    intro unlisted
    exact operating (operated.symm.trans unlisted)
  obtain ⟨added, adds, member, devices⟩ := invalid_adds invalid listed fresh
  obtain ⟨once, registers, stays, empty, finds, lists⟩ :=
    invalid_registers invalid listed member (devices ▸ unowned) first
  obtain ⟨twice, again, _, remains, refinds, relists⟩ :=
    invalid_registers invalid listed stays empty second
  refine ⟨_, run_step (step_toRegistry.mpr ⟨registry, enlists, rfl⟩) (run_step (step_accepted adds)
    (run_step (step_accepted registers) (run_step (step_accepted again) rfl))), ?_⟩
  have owned : getDeviceFromIdentifier twice second = (device, .zero) := by
    simp only [getDeviceFromIdentifier, refinds, assign_same, remains]
  refine ⟨?_, ?_, owned, ?_⟩
  · simp only [getAllDeviceAddresses, relists, lists, List.count_append,
      List.count_singleton_self]
    omega
  · by_cases same : first = second
    · exact same ▸ owned
    · simp only [getDeviceFromIdentifier, refinds, finds, assign_other _ _ same, assign_same,
        remains]
  · intro sents later ran
    refine (incoherent_forever ⟨device, ?_, Or.inl remains⟩ ran).not_coherent
    rw [relists]
    exact List.mem_append_right _ (List.mem_singleton_self device)

/-- An operator is linked to a domain. -/
def linked : List Sent := [.toRegistry ⟨Registry.Nodes.firstAccount, .setNode [97]⟩]

/-- The takeover of a device, with the stand-in signatures. -/
theorem device_taken_over : ∃ chain final,
    run (step .sample) (deployed .zero) linked = some chain ∧
      run (step .sample) chain (takeover Registry.Nodes.secondAccount ⟨68, 69⟩ ⟨69, 86, 49⟩ [.CPO]
        (.repeated 1) ⟨[], [], 0⟩ (.repeated 5) "first" "second") = some final ∧
      ¬Coherent final.ledger.storage := by
  obtain ⟨chain, started, known, free, fresh, unowned⟩ : ∃ chain,
      run (step .sample) (deployed .zero) linked = some chain ∧
        Registry.getNode chain.registry (.repeated 1) ≠ [] ∧
        (Registry.getPartyDetailsByOcpi chain.registry ⟨68, 69⟩ ⟨69, 86, 49⟩).1 = .zero ∧
        chain.ledger.storage.users .zero = false ∧
        (chain.ledger.storage.devices (.repeated 5)).user = .zero :=
    ⟨_, rfl, by decide, rfl, rfl, rfl⟩
  obtain ⟨final, ran, _, _, _, forever⟩ := takeover_succeeds .sample ⟨[], [], 0⟩
    Registry.Parties.sample_invalid chain ⟨68, 69⟩ ⟨69, 86, 49⟩ [.CPO] (.repeated 1)
    (.repeated 5) "first" "second" (by decide) known free fresh unowned
    Registry.Nodes.secondAccount
  exact ⟨chain, final, started, ran, forever [] final rfl⟩

end Chain

end EvDashboard
