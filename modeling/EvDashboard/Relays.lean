import EvDashboard.Chain
import EvDashboard.Consent
import EvDashboard.FixedWidth
import EvDashboard.Signatures

/-!
# Signatures in the hands of others

Both contracts take signatures from anybody. What is signed are the bare parameters: not
the function, not the contract, and no number that is used once. A signature is therefore
good wherever parameters pack into the same bytes, and as often as anybody likes.

For the registration of a user these bytes are its address. Four functions of the OCN
registry take just that, and three of them end a listing. Everything longer begins with an
address, and the function that links a domain reads the rest as the domain.
-/

namespace EvDashboard.Registry.Relays

open Transition FixedWidth
open EvDashboardRegistry (assign assign_same assign_other require_then messageDigest utf8)

theorem address_fixed : Fixed Address.bytes 20 :=
  ⟨Address.bytes_length, fun _ _ => Address.bytes_injective⟩

theorem countryCode_fixed : Fixed CountryCode.bytes 2 := by
  refine ⟨fun _ => rfl, ?_⟩
  intro left right same
  simp only [CountryCode.bytes, List.cons.injEq, and_true] at same
  obtain ⟨first, second⟩ := left
  obtain ⟨rfl, rfl⟩ := same
  rfl

theorem partyId_fixed : Fixed PartyId.bytes 3 := by
  refine ⟨fun _ => rfl, ?_⟩
  intro left right same
  simp only [PartyId.bytes, List.cons.injEq, and_true] at same
  obtain ⟨first, second, third⟩ := left
  obtain ⟨rfl, rfl, rfl⟩ := same
  rfl

theorem word_fixed : Fixed word 32 := by
  refine ⟨fun _ => rfl, ?_⟩
  intro left right same
  exact List.head_eq_of_cons_eq (List.append_cancel_left same)

theorem role_fixed : Fixed (fun role : Role => word role.index) 32 := by
  refine ⟨fun _ => rfl, ?_⟩
  intro left right same
  have indices : left.index = right.index := word_fixed.injective _ _ same
  cases left <;> cases right <;> first | rfl | exact absurd indices (by decide)

theorem module_fixed : Fixed (fun module : Module => word module.index) 32 := by
  refine ⟨fun _ => rfl, ?_⟩
  intro left right same
  have indices : left.index = right.index := word_fixed.injective _ _ same
  cases left <;> cases right <;> first | rfl | exact absurd indices (by decide)

/-- The parameters of a listing can be read back from their packing. -/
theorem packParty_injective {party other operator otherOperator : Address}
    {countryCode otherCode : CountryCode} {partyId otherId : PartyId} {roles otherRoles : List Role}
    (same : packParty party countryCode partyId roles operator =
      packParty other otherCode otherId otherRoles otherOperator) :
    party = other ∧ countryCode = otherCode ∧ partyId = otherId ∧ roles = otherRoles ∧
      operator = otherOperator := by
  obtain ⟨fronts, operators⟩ := address_fixed.back same
  simp only [List.append_assoc] at fronts
  obtain ⟨parties, fronts⟩ := address_fixed.front fronts
  obtain ⟨codes, fronts⟩ := countryCode_fixed.front fronts
  obtain ⟨ids, fronts⟩ := partyId_fixed.front fronts
  exact ⟨parties, codes, ids, role_fixed.flatMap_injective (by decide) fronts, operators⟩

/-- Those of new modules cannot: where the sender's end is lost. -/
theorem packModules_iff {party other : Address}
    {sender receiver otherSender otherReceiver : List Module} :
    packModules party sender receiver = packModules other otherSender otherReceiver ↔
      party = other ∧ sender ++ receiver = otherSender ++ otherReceiver := by
  simp only [packModules, List.append_assoc]
  constructor
  · intro same
    obtain ⟨parties, modules⟩ := address_fixed.front same
    exact ⟨parties, (module_fixed.flatMap_append_iff (by decide)).mp modules⟩
  · rintro ⟨rfl, modules⟩
    rw [(module_fixed.flatMap_append_iff (by decide)).mpr modules]

/-- Without modules, only the address is packed. -/
theorem packModules_nil (party : Address) : packModules party [] [] = party.bytes := by
  simp only [packModules, List.flatMap_nil, List.append_nil]

/-- The signature of a key for packed parameters. -/
def sign (crypto : Crypto) (key : String) (packed : Bytes) : Signature :=
  crypto.signDigest key (messageDigest crypto (crypto.ethers.keccak256 packed))

/-- The hash does not collide on what is hashed for two packings. -/
structure Separated (crypto : Crypto) (left right : Bytes) : Prop where
  packed : Signatures.Separates crypto left right
  message : Signatures.Separates crypto
    (utf8 "\u0019Ethereum Signed Message:\n32" ++ crypto.ethers.keccak256 left)
    (utf8 "\u0019Ethereum Signed Message:\n32" ++ crypto.ethers.keccak256 right)

variable {crypto : Crypto} {storage next : Storage} {event : Event}

/-- The signer is recovered for the signed parameters. -/
theorem recover_sign (lawful : crypto.Lawful) (key : String) (packed : Bytes) :
    recover crypto packed (sign crypto key packed) = crypto.ethers.computeAddress key :=
  (lawful.verifies _ _ _).mpr rfl

/-- And for no others, unless the hash collides. -/
theorem recover_sign_iff (lawful : crypto.Lawful) {key : String} {packed given : Bytes}
    (separated : Separated crypto packed given) :
    recover crypto packed (sign crypto key given) = crypto.ethers.computeAddress key ↔
      packed = given := by
  rw [recover, sign, lawful.verifies]
  constructor
  · intro same
    exact separated.packed (List.append_cancel_left (separated.message same))
  · rintro rfl
    rfl

/-- The dashboard's client signs the packed parameters of the registration it asks for. -/
theorem signature_eq (lawful : crypto.Lawful) {call : Signatures.Call}
    {approval : Signatures.Approval} (asks : call.Asks crypto approval) :
    call.signature crypto = sign crypto call.registry.operatorKey approval.packed :=
  congrArg (crypto.signDigest call.registry.operatorKey) (asks.signed_eq lawful)

theorem userSignature_eq (lawful : crypto.Lawful) (registry : EvRegistry) :
    registry.userSignature crypto =
      sign crypto registry.operatorKey (registry.operator crypto).bytes :=
  signature_eq lawful (.addUser registry)

theorem deviceSignature_eq (lawful : crypto.Lawful) (registry : EvRegistry)
    {address : String} {device : Address} (spells : Signatures.Spells crypto address device)
    (uid : String) : registry.deviceSignature crypto address uid =
      sign crypto registry.operatorKey
        (device.bytes ++ utf8 uid ++ (registry.operator crypto).bytes) :=
  signature_eq lawful (.addDevice registry address uid device spells.read.1 spells.read.2)

/-- The four calls of the OCN registry whose parameters are one address. -/
def bare (user : Address) (signature : Signature) : List Call :=
  [.setNodeRaw user [] signature, .deleteNodeRaw user signature,
    .setPartyModulesRaw user [] [] signature, .deletePartyRaw user signature]

/-- The packed parameters of a raw call are one address exactly for these four. -/
theorem packed_address_iff {call : Call} {packed : Bytes} {signature : Signature} {user : Address}
    (carries : Consent.signed call = some (packed, signature)) :
    packed = user.bytes ↔ call ∈ bare user signature := by
  have alone (rest : Bytes) (operator : Address) :
      operator.bytes ++ rest = user.bytes ↔ operator = user ∧ rest = [] := by
    constructor
    · intro same
      exact address_fixed.front (same.trans (List.append_nil _).symm)
    · rintro ⟨rfl, rfl⟩
      exact List.append_nil _
  cases call with
  | setNodeRaw operator domain given =>
    cases carries
    simp only [alone, bare, List.mem_cons, Call.setNodeRaw.injEq, reduceCtorEq, List.not_mem_nil,
      or_false, and_true]
  | deleteNodeRaw operator given =>
    cases carries
    have same := alone [] operator
    rw [List.append_nil] at same
    simp only [same, bare, List.mem_cons, Call.deleteNodeRaw.injEq, reduceCtorEq,
      List.not_mem_nil, or_false, false_or, and_true]
  | setPartyRaw party countryCode partyId roles operator given =>
    cases carries
    refine iff_of_false ?_ ?_
    · intro same
      have lengths := congrArg List.length same
      simp only [packParty, List.length_append, address_fixed.width] at lengths
      omega
    · simp only [bare, List.mem_cons, reduceCtorEq, List.not_mem_nil, or_false, not_false_eq_true]
  | setPartyModulesRaw party sender receiver given =>
    cases carries
    rw [← packModules_nil, packModules_iff]
    simp only [bare, List.mem_cons, Call.setPartyModulesRaw.injEq, reduceCtorEq, List.not_mem_nil,
      or_false, false_or, and_true, List.append_nil, List.append_eq_nil_iff]
  | deletePartyRaw party given =>
    cases carries
    have same := alone [] party
    rw [List.append_nil] at same
    simp only [same, bare, List.mem_cons, Call.deletePartyRaw.injEq, reduceCtorEq,
      List.not_mem_nil, or_false, false_or, and_true]
  | _ => cases carries

section Bare

variable {user : Address} {signature : Signature}
  (signer : recover crypto user.bytes signature = user)

include signer

/-- A signature of the bare address ends the domain of its operator. -/
theorem relayed_unlinking (relayer : Account) (linked : getNode storage user ≠ []) :
    ∃ next, step crypto storage ⟨relayer, .deleteNodeRaw user signature⟩ = some next ∧
      getNode next user = [] := by
  have authorised : authorise crypto relayer storage (.deleteNodeRaw user signature) =
      .ok (.deleteNode user) := by
    simp only [authorise, signer]
    rfl
  exact ⟨_, step_iff.mpr ⟨_, _, authorised, deleteNode_ok_iff.mpr ⟨linked, rfl, rfl⟩⟩,
    assign_same _ _ _⟩

/-- It takes all modules from its party. -/
theorem relayed_stripping (relayer : Account)
    (listed : (getOperatorByAddress storage user).1 ≠ .zero) :
    ∃ next, step crypto storage ⟨relayer, .setPartyModulesRaw user [] [] signature⟩ = some next ∧
      (getPartyDetailsByAddress next user).1.modules = ⟨[], []⟩ := by
  have authorised : authorise crypto relayer storage (.setPartyModulesRaw user [] [] signature) =
      .ok (.setPartyModules user [] []) := by
    simp only [authorise, packModules_nil, signer]
    rfl
  refine ⟨_, step_iff.mpr ⟨_, _, authorised, setPartyModules_ok_iff.mpr ⟨listed, rfl, rfl⟩⟩, ?_⟩
  simp only [getPartyDetailsByAddress, assign_same]

/-- And it ends the listing of its party. -/
theorem relayed_deletion (relayer : Account)
    (listed : (getOperatorByAddress storage user).1 ≠ .zero) :
    ∃ next, step crypto storage ⟨relayer, .deletePartyRaw user signature⟩ = some next ∧
      (getOperatorByAddress next user).1 = .zero := by
  have authorised : authorise crypto relayer storage (.deletePartyRaw user signature) =
      .ok (.deleteParty user) := by
    simp only [authorise, signer]
    rfl
  exact ⟨_, step_iff.mpr ⟨_, _, authorised, deleteParty_ok_iff.mpr ⟨listed, rfl, rfl⟩⟩,
    assign_same _ _ _⟩

end Bare

/-- The dashboard's client signs the bare address of its operator. -/
theorem userSignature_signer (lawful : crypto.Lawful) (registry : EvRegistry) :
    recover crypto (registry.operator crypto).bytes (registry.userSignature crypto) =
      registry.operator crypto := by
  rw [userSignature_eq lawful]
  exact recover_sign lawful _ _

/-- The signature by which an operator adds itself to the dashboard is good for four calls
of the OCN registry, and for no others. Anybody can relay it, as often as there is
something to end: the operator's domain, its modules, and its listing as a party. Only the
call that would link an empty domain is always refused. -/
theorem user_signature_reused (lawful : crypto.Lawful) (registry : EvRegistry) :
    (∀ call packed, Consent.signed call = some (packed, registry.userSignature crypto) →
      Separated crypto packed (registry.operator crypto).bytes →
        (recover crypto packed (registry.userSignature crypto) = registry.operator crypto ↔
          call ∈ bare (registry.operator crypto) (registry.userSignature crypto))) ∧
    ∀ (storage : Storage) (relayer : Account),
      step crypto storage ⟨relayer, .setNodeRaw (registry.operator crypto) []
        (registry.userSignature crypto)⟩ = none ∧
      (getNode storage (registry.operator crypto) ≠ [] →
        ∃ next, step crypto storage ⟨relayer, .deleteNodeRaw (registry.operator crypto)
            (registry.userSignature crypto)⟩ = some next ∧
          getNode next (registry.operator crypto) = []) ∧
      ((getOperatorByAddress storage (registry.operator crypto)).1 ≠ .zero →
        (∃ next, step crypto storage ⟨relayer, .setPartyModulesRaw (registry.operator crypto) [] []
            (registry.userSignature crypto)⟩ = some next ∧
          (getPartyDetailsByAddress next (registry.operator crypto)).1.modules = ⟨[], []⟩) ∧
        ∃ next, step crypto storage ⟨relayer, .deletePartyRaw (registry.operator crypto)
            (registry.userSignature crypto)⟩ = some next ∧
          (getOperatorByAddress next (registry.operator crypto)).1 = .zero) := by
  have signer := userSignature_signer lawful registry
  constructor
  · intro call packed carries separated
    rw [← packed_address_iff carries, userSignature_eq lawful]
    exact recover_sign_iff lawful separated
  · intro storage relayer
    refine ⟨?_, relayed_unlinking signer relayer, ?_⟩
    · rw [Option.eq_none_iff_forall_ne_some]
      intro next stepped
      obtain ⟨action, event, authorised, performed⟩ := step_iff.mp stepped
      cases authorised
      exact (setNode_ok_iff.mp performed).1 rfl
    · intro listed
      exact ⟨relayed_stripping signer relayer listed, relayed_deletion signer relayer listed⟩

/-- The stand-in signature of the second account ends its listing. -/
theorem joined_party_deleted : ∃ storage next,
    run (step .sample) (deployed .zero) Parties.joined = some storage ∧
      step .sample storage ⟨Nodes.firstAccount,
        .deletePartyRaw (.repeated 2) (EvRegistry.userSignature ⟨"b"⟩ .sample)⟩ = some next ∧
      (getOperatorByAddress next (.repeated 2)).1 = .zero := by
  obtain ⟨storage, ran, listed⟩ : ∃ storage,
      run (step .sample) (deployed .zero) Parties.joined = some storage ∧
        (getOperatorByAddress storage (.repeated 2)).1 ≠ .zero :=
    ⟨_, rfl, by decide⟩
  obtain ⟨next, stepped, unlisted⟩ := (((user_signature_reused Crypto.sample_lawful ⟨"b"⟩).2 storage
    Nodes.firstAccount).2.2 listed).2
  exact ⟨storage, next, ran, stepped, unlisted⟩

/-- The bytes behind the device in what is signed for its registration. -/
def remainder (user : Address) (uid : String) : Bytes := utf8 uid ++ user.bytes

/-- The signature by which an operator registers a device links the operator to a domain:
`setNodeRaw` reads the device as an address that it does not check, and the rest as the
domain. Anybody can relay it once. If the operator had a domain, that one is lost for
good: whatever is called after, nobody, the operator included, is ever linked to it. -/
theorem device_signature_burns_domain (lawful : crypto.Lawful) (registry : EvRegistry)
    (address uid : String) (device : Address) (spells : Signatures.Spells crypto address device)
    (owner : Address) (messages : List Message) (storage : Storage)
    (ran : run (step crypto) (deployed owner) messages = some storage)
    (unused : (¬∃ other, getNode storage other = remainder (registry.operator crypto) uid) ∧
      remainder (registry.operator crypto) uid ∉ Nodes.lost crypto (deployed owner) messages)
    (relayer : Account) :
    ∃ next, step crypto storage
        ⟨relayer, .setNodeRaw device (remainder (registry.operator crypto) uid)
          (registry.deviceSignature crypto address uid)⟩ = some next ∧
      getNode next (registry.operator crypto) = remainder (registry.operator crypto) uid ∧
      (getNode storage (registry.operator crypto) ≠ [] →
        ∀ later final, run (step crypto) next later = some final →
          ∀ message operator, authorise crypto message.sender final message.call =
              .ok (.setNode operator (getNode storage (registry.operator crypto))) →
            step crypto final message = none) := by
  have sound : Nodes.Sound storage ([] ++ Nodes.lost crypto (deployed owner) messages) :=
    (Nodes.deployed_sound owner).through ran
  have signer : recover crypto (device.bytes ++ remainder (registry.operator crypto) uid)
      (registry.deviceSignature crypto address uid) = registry.operator crypto := by
    rw [deviceSignature_eq lawful registry spells uid, remainder, ← List.append_assoc]
    exact recover_sign lawful _ _
  have authorised : authorise crypto relayer storage
      (.setNodeRaw device (remainder (registry.operator crypto) uid)
        (registry.deviceSignature crypto address uid)) =
      .ok (.setNode (registry.operator crypto) (remainder (registry.operator crypto) uid)) := by
    simp only [authorise, signer]
    rfl
  have nonempty : remainder (registry.operator crypto) uid ≠ [] := by
    intro empty
    have lengths := congrArg List.length empty
    simp only [remainder, List.length_append, Address.bytes_length, List.length_nil] at lengths
    omega
  obtain ⟨next, stepped⟩ : ∃ next, step crypto storage
      ⟨relayer, .setNodeRaw device (remainder (registry.operator crypto) uid)
        (registry.deviceSignature crypto address uid)⟩ = some next := by
    rw [← Option.ne_none_iff_exists', ne_eq,
      @Nodes.Sound.refused_iff _ _ _ ⟨relayer, _⟩ _ _ sound authorised]
    rintro (empty | held | member)
    · exact nonempty empty
    · exact unused.1 held
    · exact unused.2 member
  have abandons : Nodes.abandoned crypto storage
      ⟨relayer, .setNodeRaw device (remainder (registry.operator crypto) uid)
        (registry.deviceSignature crypto address uid)⟩ =
      ((Nodes.names storage).holds (registry.operator crypto)).toList := by
    rw [Nodes.abandoned, authorised]
    rfl
  have after := sound.accept stepped
  refine ⟨next, stepped, ?_, ?_⟩
  · obtain ⟨action, event, same, performed⟩ := step_iff.mp stepped
    cases authorised.symm.trans same
    obtain ⟨_, _, rfl, _⟩ := setNode_ok_iff.mp performed
    exact assign_same _ _ _
  · intro linked later final continued message operator attempted
    apply ((after.through continued).refused_iff attempted).mpr
    refine Or.inr (Or.inr (List.mem_append_left _ (List.mem_append_right _ ?_)))
    rw [abandons, Nodes.holds_iff.mpr ⟨linked, rfl⟩]
    exact List.mem_singleton_self _

/-- The second account has a domain and registers a device. It never gets the domain back. -/
theorem linked_domain_burnt : ∃ storage next,
    run (step .sample) (deployed .zero) [⟨Nodes.secondAccount, .setNode [97]⟩] = some storage ∧
      step .sample storage ⟨Nodes.firstAccount, .setNodeRaw (.repeated 5)
        (remainder (.repeated 2) "uid")
        (EvRegistry.deviceSignature ⟨"b"⟩ .sample firstSpelling "uid")⟩ = some next ∧
      step .sample next ⟨Nodes.secondAccount, .setNode [97]⟩ = none := by
  obtain ⟨storage, ran, linked, short, none⟩ : ∃ storage,
      run (step .sample) (deployed .zero) [⟨Nodes.secondAccount, .setNode [97]⟩] = some storage ∧
        getNode storage (.repeated 2) = [97] ∧ (∀ other, (getNode storage other).length ≤ 1) ∧
        Nodes.lost .sample (deployed .zero) [⟨Nodes.secondAccount, .setNode [97]⟩] = [] := by
    refine ⟨_, rfl, rfl, ?_, rfl⟩
    intro other
    simp only [getNode, assign]
    split
    · exact Nat.le_refl 1
    · exact Nat.zero_le 1
  have spells : Signatures.Spells .sample firstSpelling (.repeated 5) := Or.inl (by decide)
  have unheld :
      ¬∃ other, getNode storage other = remainder (EvRegistry.operator ⟨"b"⟩ .sample) "uid" := by
    rintro ⟨other, same⟩
    have long := short other
    rw [same] at long
    exact absurd long (by decide)
  obtain ⟨next, stepped, _, burnt⟩ := device_signature_burns_domain Crypto.sample_lawful ⟨"b"⟩
    firstSpelling "uid" (.repeated 5) spells .zero _ storage ran
    ⟨unheld, none ▸ List.not_mem_nil⟩ Nodes.firstAccount
  refine ⟨storage, next, ran, stepped, ?_⟩
  have old : getNode storage (EvRegistry.operator ⟨"b"⟩ .sample) = [97] := linked
  rw [old] at burnt
  exact burnt (by decide) [] next rfl ⟨Nodes.secondAccount, .setNode [97]⟩ (.repeated 2) rfl

/-- A party's signature for new modules fixes which modules there are, and their order,
but not which of them it sends and which it receives. Whoever relays it may draw the line
anywhere: exactly the divisions of the same sequence are accepted and stored. -/
theorem modules_signature_divisible (lawful : crypto.Lawful) (key : String) (storage : Storage)
    (relayer : Account) (sender receiver otherSender otherReceiver : List Module)
    (listed : (getOperatorByAddress storage (crypto.ethers.computeAddress key)).1 ≠ .zero)
    (separated : Separated crypto
      (packModules (crypto.ethers.computeAddress key) otherSender otherReceiver)
      (packModules (crypto.ethers.computeAddress key) sender receiver)) :
    (∃ next, step crypto storage ⟨relayer, .setPartyModulesRaw (crypto.ethers.computeAddress key)
          otherSender otherReceiver
          (sign crypto key (packModules (crypto.ethers.computeAddress key) sender receiver))⟩ =
        some next ∧
      (getPartyDetailsByAddress next (crypto.ethers.computeAddress key)).1 =
        { (getPartyDetailsByAddress storage (crypto.ethers.computeAddress key)).1 with
          modules := ⟨otherSender, otherReceiver⟩ }) ↔
      otherSender ++ otherReceiver = sender ++ receiver := by
  have recovers : recover crypto _ (sign crypto key _) = _ ↔ _ := recover_sign_iff lawful separated
  rw [packModules_iff, and_iff_right rfl] at recovers
  rw [← recovers]
  constructor
  · rintro ⟨next, stepped, _⟩
    obtain ⟨action, event, authorised, _⟩ := step_iff.mp stepped
    exact of_decide_eq_true (require_then.mp authorised).1
  · intro signer
    refine ⟨_, step_iff.mpr ⟨.setPartyModules (crypto.ethers.computeAddress key) otherSender
      otherReceiver, _, ?_, setPartyModules_ok_iff.mpr ⟨listed, rfl, rfl⟩⟩, ?_⟩
    · simp only [authorise, signer]
      rfl
    · simp only [getPartyDetailsByAddress, assign_same]

/-- A relayer lets the second account send what it wanted to receive. -/
theorem modules_moved : ∃ storage next,
    run (step .sample) (deployed .zero) Parties.joined = some storage ∧
      step .sample storage ⟨Nodes.firstAccount, .setPartyModulesRaw (.repeated 2)
        [.cdrs, .tokens] [] (sign .sample "b" (packModules (.repeated 2) [.cdrs] [.tokens]))⟩ =
          some next ∧
      (getPartyDetailsByAddress next (.repeated 2)).1.modules = ⟨[.cdrs, .tokens], []⟩ := by
  obtain ⟨storage, ran, listed⟩ : ∃ storage,
      run (step .sample) (deployed .zero) Parties.joined = some storage ∧
        (getOperatorByAddress storage (.repeated 2)).1 ≠ .zero :=
    ⟨_, rfl, by decide⟩
  obtain ⟨next, stepped, details⟩ := (modules_signature_divisible Crypto.sample_lawful "b" storage
    Nodes.firstAccount [.cdrs] [.tokens] [.cdrs, .tokens] [] listed
    ⟨fun _ => rfl, fun _ => rfl⟩).mpr rfl
  refine ⟨storage, next, ran, stepped, ?_⟩
  have same := congrArg PartyDetails.modules details
  exact same

/-- The terms of a listing. -/
structure Terms where
  countryCode : CountryCode
  partyId : PartyId
  roles : List Role
  operator : Address

namespace Terms

/-- The packed parameters of a listing on these terms. -/
def packed (terms : Terms) (party : Address) : Bytes :=
  packParty party terms.countryCode terms.partyId terms.roles terms.operator

/-- The call that relays it. -/
def call (terms : Terms) (party : Address) (signature : Signature) : Call :=
  .setPartyRaw party terms.countryCode terms.partyId terms.roles terms.operator signature

/-- None of the terms is empty. -/
def Complete (terms : Terms) : Prop :=
  terms.countryCode ≠ .zero ∧ terms.partyId ≠ .zero ∧ terms.roles ≠ [] ∧ terms.operator ≠ .zero

/-- The combination is free or the party's own, and the operator has a domain. -/
def Admitted (terms : Terms) (storage : Storage) (party : Address) : Prop :=
  ((getPartyDetailsByOcpi storage terms.countryCode terms.partyId).1 = .zero ∨
    (getPartyDetailsByOcpi storage terms.countryCode terms.partyId).1 = party) ∧
  getNode storage terms.operator ≠ []

theorem packed_injective {left right : Terms} {party : Address}
    (same : left.packed party = right.packed party) : left = right := by
  obtain ⟨countryCode, partyId, roles, operator⟩ := left
  obtain ⟨_, rfl, rfl, rfl, rfl⟩ := packParty_injective same
  rfl

end Terms

/-- A signed listing on complete terms is accepted wherever it is admitted. -/
theorem relayed_listing (lawful : crypto.Lawful) (key : String) {terms : Terms}
    (complete : terms.Complete) (relayer : Account)
    (admitted : terms.Admitted storage (crypto.ethers.computeAddress key)) :
    ∃ next, step crypto storage ⟨relayer, terms.call (crypto.ethers.computeAddress key)
        (sign crypto key (terms.packed (crypto.ethers.computeAddress key)))⟩ = some next ∧
      getPartyDetailsByAddress next (crypto.ethers.computeAddress key) =
        (⟨terms.countryCode, terms.partyId, terms.roles, ⟨[], []⟩⟩, terms.operator,
          getNode storage terms.operator) := by
  obtain ⟨country, id, filled, operating⟩ := complete
  obtain ⟨free, known⟩ := admitted
  have signer := recover_sign lawful key (terms.packed (crypto.ethers.computeAddress key))
  rw [Terms.packed] at signer
  refine ⟨_, step_iff.mpr ⟨.setParty (crypto.ethers.computeAddress key) terms.countryCode
    terms.partyId terms.roles terms.operator, _, ?_,
    setParty_ok_iff.mpr ⟨⟨country, id, filled, operating, free, known⟩, rfl, rfl⟩⟩, ?_⟩
  · simp only [Terms.call, Terms.packed, authorise, signer]
    rfl
  · simp only [getPartyDetailsByAddress, getOperatorByAddress, assign_same]
    rfl

/-- A party's signature for a listing fixes all of its terms, but never expires. In every
state and from every relayer it is accepted for the signed terms, where they are admitted,
and for no others. After the party deleted the listing they are, unless the operator lost
its domain: so anybody who has the signature can restore what the party deleted. -/
theorem listing_signature_reusable (lawful : crypto.Lawful) (key : String) (terms : Terms)
    (complete : terms.Complete) :
    (∀ (storage : Storage) (relayer : Account) (other : Terms),
      Separated crypto (other.packed (crypto.ethers.computeAddress key))
        (terms.packed (crypto.ethers.computeAddress key)) →
      (step crypto storage ⟨relayer, other.call (crypto.ethers.computeAddress key)
          (sign crypto key (terms.packed (crypto.ethers.computeAddress key)))⟩ ≠ none ↔
        other = terms ∧ terms.Admitted storage (crypto.ethers.computeAddress key))) ∧
    ∀ (storage next : Storage) (message : Message) (relayer : Account),
      authorise crypto message.sender storage message.call =
        .ok (.deleteParty (crypto.ethers.computeAddress key)) →
      (getPartyDetailsByAddress storage (crypto.ethers.computeAddress key)).1.combination =
        (terms.countryCode, terms.partyId) →
      step crypto storage message = some next → getNode next terms.operator ≠ [] →
      ∃ restored, step crypto next ⟨relayer, terms.call (crypto.ethers.computeAddress key)
          (sign crypto key (terms.packed (crypto.ethers.computeAddress key)))⟩ = some restored ∧
        getPartyDetailsByAddress restored (crypto.ethers.computeAddress key) =
          (⟨terms.countryCode, terms.partyId, terms.roles, ⟨[], []⟩⟩, terms.operator,
            getNode next terms.operator) := by
  constructor
  · intro storage relayer other separated
    rw [Option.ne_none_iff_exists']
    constructor
    · rintro ⟨next, stepped⟩
      obtain ⟨action, event, authorised, performed⟩ := step_iff.mp stepped
      obtain ⟨signer, same⟩ := require_then.mp authorised
      obtain rfl : other = terms := Terms.packed_injective
        ((recover_sign_iff lawful separated).mp (of_decide_eq_true signer))
      cases same
      obtain ⟨⟨_, _, _, _, free, known⟩, _⟩ := setParty_ok_iff.mp performed
      rw [of_decide_eq_true signer] at free
      exact ⟨rfl, free, known⟩
    · rintro ⟨rfl, admitted⟩
      obtain ⟨next, stepped, _⟩ := relayed_listing lawful key complete relayer admitted
      exact ⟨next, stepped⟩
  · intro storage next message relayer deletes combination deleted known
    refine relayed_listing lawful key complete relayer ⟨Or.inl ?_, known⟩
    obtain ⟨action, event, same, performed⟩ := step_iff.mp deleted
    cases deletes.symm.trans same
    obtain ⟨_, rfl, _⟩ := deleteParty_ok_iff.mp performed
    have frees : (storage.partyOf (crypto.ethers.computeAddress key)).combination =
        (terms.countryCode, terms.partyId) := combination
    simp only [getPartyDetailsByOcpi, frees, assign_same]

/-- The listing the second account deletes is restored by the first. -/
theorem joined_party_restored : ∃ storage next restored,
    run (step .sample) (deployed .zero) Parties.joined = some storage ∧
      step .sample storage ⟨Nodes.secondAccount, .deleteParty⟩ = some next ∧
      step .sample next ⟨Nodes.firstAccount, Terms.call
        ⟨⟨68, 69⟩, ⟨69, 86, 49⟩, [.CPO], .repeated 1⟩ (.repeated 2) (sign .sample "b"
          (Terms.packed ⟨⟨68, 69⟩, ⟨69, 86, 49⟩, [.CPO], .repeated 1⟩ (.repeated 2)))⟩ =
            some restored ∧
      (getOperatorByAddress restored (.repeated 2)).1 = .repeated 1 := by
  obtain ⟨storage, next, ran, combination, deleted, known⟩ : ∃ storage next,
      run (step .sample) (deployed .zero) Parties.joined = some storage ∧
        (getPartyDetailsByAddress storage (.repeated 2)).1.combination = (⟨68, 69⟩, ⟨69, 86, 49⟩) ∧
        step .sample storage ⟨Nodes.secondAccount, .deleteParty⟩ = some next ∧
        getNode next (.repeated 1) ≠ [] :=
    ⟨_, _, rfl, rfl, rfl, by decide⟩
  obtain ⟨restored, stepped, details⟩ := (listing_signature_reusable Crypto.sample_lawful "b"
    ⟨⟨68, 69⟩, ⟨69, 86, 49⟩, [.CPO], .repeated 1⟩
      ⟨by decide, by decide, by decide, by decide⟩).2 storage next
      ⟨Nodes.secondAccount, .deleteParty⟩ Nodes.firstAccount rfl combination deleted known
  refine ⟨storage, next, restored, ran, deleted, stepped, ?_⟩
  exact congrArg (fun found => found.2.1) details

/-- The transaction lists an address in the OCN registry. -/
def Enlists (crypto : Crypto) (chain : Chain) (sent : Sent) (party : Address) : Prop :=
  ∃ message countryCode partyId roles operator, sent = .toRegistry message ∧
    authorise crypto message.sender chain.registry message.call =
      .ok (.setParty party countryCode partyId roles operator)

/-- An address that is not listed stays so until a call lists it. -/
theorem unlisted_kept {chain after : Chain} {sent : Sent} {party : Address}
    (unlisted : chain.ocn party = .zero) (others : ¬Enlists crypto chain sent party)
    (stepped : Chain.step crypto chain sent = some after) : after.ocn party = .zero := by
  cases sent with
  | toDashboard transaction =>
    obtain ⟨_, _, rfl⟩ := Chain.step_toDashboard.mp stepped
    exact unlisted
  | toRegistry message =>
    obtain ⟨registry, accepts, rfl⟩ := Chain.step_toRegistry.mp stepped
    obtain ⟨action, event, authorised, performed⟩ := step_iff.mp accepts
    have unlisted : chain.registry.operatorOf party = .zero := unlisted
    show registry.operatorOf party = .zero
    cases action with
    | setParty other countryCode partyId roles operator =>
      obtain ⟨_, rfl, _⟩ := setParty_ok_iff.mp performed
      have different : party ≠ other := by
        rintro rfl
        exact others ⟨message, _, _, _, _, rfl, authorised⟩
      simp only [assign_other _ _ different]
      exact unlisted
    | deleteParty other =>
      obtain ⟨_, rfl, _⟩ := deleteParty_ok_iff.mp performed
      by_cases same : party = other
      · simp only [same, assign_same]
      · simp only [assign_other _ _ same]
        exact unlisted
    | setPartyModules other sender receiver =>
      obtain ⟨_, rfl, _⟩ := setPartyModules_ok_iff.mp performed
      exact unlisted
    | _ =>
      rw [(Parties.perform_other performed (fun _ _ _ _ _ => Action.noConfusion)
        (fun _ _ _ => Action.noConfusion) (fun _ => Action.noConfusion)).1]
      exact unlisted

/-- The signature that made an operator a user of the dashboard can be turned against it.
Anybody can relay it to the OCN registry and end the operator's listing there. From then
on, whatever is sent by whomever, the dashboard's contract refuses every transaction of
the operator until the operator is listed again; but it still counts the operator among
its users, so that the client takes the operator for registered and sends no `addUser`. -/
theorem user_signature_delists (lawful : crypto.Lawful) (registry : EvRegistry) (chain : Chain)
    (relayer : Account) (listed : chain.ocn (registry.operator crypto) ≠ .zero)
    (user : registry.operator crypto ∈ chain.ledger.storage.userAddressList) :
    ∃ delisted, Chain.step crypto chain (.toRegistry ⟨relayer,
        .deletePartyRaw (registry.operator crypto) (registry.userSignature crypto)⟩) =
          some delisted ∧
      ∀ sents final, run (Chain.step crypto) delisted sents = some final →
        Meets (Chain.step crypto) (fun state sent =>
          ¬Enlists crypto state sent (registry.operator crypto)) delisted sents →
        (∀ transaction, transaction.user = registry.operator crypto →
          Chain.step crypto final (.toDashboard transaction) = none) ∧
        submitted crypto final.ledger.storage (registry.addUser crypto) = [] := by
  obtain ⟨next, stepped, unlisted⟩ :=
    relayed_deletion (userSignature_signer lawful registry) relayer listed
  refine ⟨_, Chain.step_toRegistry.mpr ⟨next, stepped, rfl⟩, ?_⟩
  intro sents final ran silent
  have kept : final.ocn (registry.operator crypto) = .zero ∧
      registry.operator crypto ∈ final.ledger.storage.userAddressList := by
    refine Meets.invariant (fun state : Chain => state.ocn (registry.operator crypto) = .zero ∧
      registry.operator crypto ∈ state.ledger.storage.userAddressList) ?_ ?_ silent ran
    · rintro state sent after ⟨unlisted, user⟩ others stepped
      exact ⟨unlisted_kept unlisted others stepped, Chain.step_users stepped user⟩
    · exact ⟨unlisted, user⟩
  constructor
  · intro transaction own
    rw [Option.eq_none_iff_forall_ne_some]
    intro after stepped
    obtain ⟨storage, taken, _⟩ := Chain.step_toDashboard.mp stepped
    exact Chain.accepted_listed taken (own ▸ kept.1)
  · rw [(addUser_outcome registry final.ledger.storage).2, if_pos kept.2]

/-- The party that opened its account is delisted, and cannot register another device. -/
theorem opened_party_delisted : ∃ chain delisted,
    run (Chain.step .sample) (Chain.deployed .zero) Chain.opened = some chain ∧
      Chain.step .sample chain (.toRegistry ⟨Nodes.firstAccount,
        .deletePartyRaw (.repeated 2) (EvRegistry.userSignature ⟨"b"⟩ .sample)⟩) = some delisted ∧
      Chain.step .sample delisted (.toDashboard (.addDevice (.repeated 6) "other" (.repeated 2)
        (EvRegistry.deviceSignature ⟨"b"⟩ .sample secondSpelling "other"))) = none := by
  obtain ⟨chain, ran, listed, user⟩ : ∃ chain,
      run (Chain.step .sample) (Chain.deployed .zero) Chain.opened = some chain ∧
        chain.ocn (.repeated 2) ≠ .zero ∧
        .repeated 2 ∈ chain.ledger.storage.userAddressList :=
    ⟨_, rfl, by decide, by decide⟩
  obtain ⟨delisted, stepped, forever⟩ := user_signature_delists Crypto.sample_lawful ⟨"b"⟩ chain
    Nodes.firstAccount listed user
  exact ⟨chain, delisted, ran, stepped, (forever [] delisted rfl trivial).1 _ rfl⟩

end EvDashboard.Registry.Relays
