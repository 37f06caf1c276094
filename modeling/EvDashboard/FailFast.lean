import EvDashboard.PrequalificationClient
import EvDashboard.Services

/-!
# A sweep among permanent failures

Some assets fail whenever their clients are created or their data is read, and some
claims fail whenever they are published; everything else succeeds. The startup check
visits one asset after the other and catches nothing, so it ends at the first failure it
meets, whosever it is. What it publishes is therefore decided by positions: a claim is
published when no failing asset and no failing claim that is to be published stands in
front of it.
-/

namespace EvDashboard.FailFast

open Async JavaScript Documents

/-- The stored signers, the accepted claims of each DID in the order they are listed, the id
of the entry that a token published with a key leads to, and the permanent failures: of the
calls made for an asset before its claims, and of the publications to a document. -/
structure Services where
  signers : List Wallet
  accepted : String → List IssuedClaim
  entryId : String → Option Json → String
  fails : Call → Bool
  refuses : String → Option Json → Bool

/-- The claims come in their order. A sweep looks up no signer and no role. -/
def Services.records (services : Services) (documents : Documents) : Records where
  signers := services.signers
  signerForDID := fun _ _ => True
  roleDefinition := fun _ _ => True
  claims := fun did claims => claims = services.accepted did
  entryId := fun key token id => id = services.entryId key token
  documents := documents

/-- Whether a call fails. -/
def Services.failing (services : Services) (ethers : Ethers) : Call → Bool
  | .getAllSigners => false
  | .publishPublicClaim key token => services.refuses (Did.sweepDID ethers ⟨key⟩) token
  | call => services.fails call

/-- How a call ends: it fails without effect, or takes effect. -/
def Services.serve (services : Services) (ethers : Ethers) :
    Service Call Call.Answer Exception Documents := fun documents call outcome next =>
  match outcome with
  | .ok answer => services.failing ethers call = false ∧ ∃ added,
    (services.records documents).Answers ethers call answer added ∧ next = documents.after added
  | .error _ => services.failing ethers call = true ∧ next = documents

section Positions

variable (ethers : Ethers) (services : Services) (client : PrequalificationClient)
  (documents : Documents)

/-- The calls made for an asset before its claims. -/
def assetCalls (wallet : Wallet) : List Call :=
  [.initWithPrivateKeySigner wallet.privateKey client.iamClientLibFactory.rpcUrl,
    .connectToCacheServer wallet.privateKey messagingConfig cacheConfig,
    .connectToDidRegistry wallet.privateKey,
    .getClaimsBySubject wallet.privateKey (Did.sweepDID ethers wallet) true,
    .getDidDocument wallet.privateKey (Did.sweepDID ethers wallet) true]

/-- Client creation and reads of an asset succeed. -/
def Healthy (wallet : Wallet) : Prop :=
  ∀ call ∈ assetCalls ethers client wallet, services.fails call = false

/-- The claim can be published to the document. -/
def Publishable (did : String) (claim : IssuedClaim) : Prop :=
  services.refuses did (Asset.claimToken claim) = false

/-- None of these claims is both not yet published and failing. -/
def Clear (did : String) (claims : List IssuedClaim) : Prop :=
  ∀ claim ∈ claims, documents.holds did claim.id = false → Publishable services did claim

/-- An asset that the sweep gets past. -/
def Passes (wallet : Wallet) : Prop :=
  Healthy ethers services client wallet ∧
    Clear services documents (Did.sweepDID ethers wallet)
      (services.accepted (Did.sweepDID ethers wallet))

/-- A publishable claim with this id is accepted for a healthy asset with this DID, and
stands where no failing asset and no failing claim is in front of it. -/
def Unobstructed (did id : String) : Prop :=
  ∃ before wallet after front claim back,
    services.signers = before ++ wallet :: after ∧
    (∀ earlier ∈ before, Passes ethers services client documents earlier) ∧
    Healthy ethers services client wallet ∧ Did.sweepDID ethers wallet = did ∧
    services.accepted did = front ++ claim :: back ∧ Clear services documents did front ∧
    claim.id = id ∧ Publishable services did claim

/-- The sweep got past some of the signers and to the rest: the documents hold what they
held before, and the accepted claims of the passed assets. -/
structure Reached (passed rest : List Wallet) (after : Documents) : Prop where
  whole : services.signers = passed ++ rest
  passes : ∀ wallet ∈ passed, Passes ethers services client documents wallet
  holds : ∀ did id, after.holds did id = true ↔ documents.holds did id = true ∨
    ∃ wallet ∈ passed, Did.sweepDID ethers wallet = did ∧
      ∃ claim ∈ services.accepted did, claim.id = id

/-- The publishing loop of one asset got past some of the claims and to the rest, from
the document that was read. -/
structure Publishing (read : Documents) (did : String) (passed rest : List IssuedClaim)
    (after : Documents) : Prop where
  whole : services.accepted did = passed ++ rest
  clear : Clear services documents did passed
  holds : ∀ other id, after.holds other id = true ↔ read.holds other id = true ∨
    (other = did ∧ ∃ claim ∈ passed, claim.id = id)

end Positions

/-- Of two places in a list, one with nothing stopping before it and one that stops, the
first is not behind the second. -/
theorem before_stop {Item : Type} (stops : Item → Prop) {before after passed rest : List Item}
    {item stop : Item} (same : before ++ item :: after = passed ++ stop :: rest)
    (free : ∀ earlier ∈ before, ¬ stops earlier) (stopping : stops stop) :
    item ∈ passed ∨ item = stop := by
  induction before generalizing passed with
  | nil =>
    cases passed with
    | nil => exact Or.inr (List.cons.inj same).1
    | cons first passed => exact Or.inl ((List.cons.inj same).1 ▸ List.mem_cons_self)
  | cons first before inductionHypothesis =>
    cases passed with
    | nil =>
      have stopped : first = stop := (List.cons.inj same).1
      exact absurd (stopped ▸ stopping) (free first List.mem_cons_self)
    | cons other passed =>
      have later := inductionHypothesis (List.cons.inj same).2
        (fun earlier member => free earlier (List.mem_cons_of_mem _ member))
      exact later.imp (List.mem_cons_of_mem _) id

section Sweep

variable {ethers : Ethers} {services : Services} {client : PrequalificationClient}
  {documents after : Documents}

/-- A claim among clear ones is held or stands unobstructed. -/
theorem clear_unobstructed {before : List Wallet} {wallet : Wallet} {behind : List Wallet}
    {claims more : List IssuedClaim} {claim : IssuedClaim}
    (whole : services.signers = before ++ wallet :: behind)
    (passes : ∀ earlier ∈ before, Passes ethers services client documents earlier)
    (healthy : Healthy ethers services client wallet)
    (listed : services.accepted (Did.sweepDID ethers wallet) = claims ++ more)
    (clear : Clear services documents (Did.sweepDID ethers wallet) claims)
    (member : claim ∈ claims) :
    documents.holds (Did.sweepDID ethers wallet) claim.id = true ∨
      Unobstructed ethers services client documents (Did.sweepDID ethers wallet) claim.id := by
  cases held : documents.holds (Did.sweepDID ethers wallet) claim.id with
  | true => exact Or.inl rfl
  | false =>
    obtain ⟨front, back, rfl⟩ := List.append_of_mem member
    refine Or.inr ⟨before, wallet, behind, front, claim, back ++ more, whole, passes, healthy, rfl,
      ?_, ?_, rfl, clear claim member held⟩
    · rw [listed, List.append_assoc, List.cons_append]
    · exact fun other earlier => clear other (List.mem_append_left _ earlier)

/-- What is held when the sweep got somewhere was held before or stood unobstructed. -/
theorem Reached.published {passed rest : List Wallet}
    (reached : Reached ethers services client documents passed rest after) {did id : String}
    (held : after.holds did id = true) :
    documents.holds did id = true ∨ Unobstructed ethers services client documents did id := by
  rcases (reached.holds did id).mp held with earlier | ⟨wallet, member, rfl, claim, listed, rfl⟩
  · exact Or.inl earlier
  · obtain ⟨before, behind, rfl⟩ := List.append_of_mem member
    have whole := reached.whole
    rw [List.append_assoc, List.cons_append] at whole
    obtain ⟨healthy, clear⟩ := reached.passes wallet member
    exact clear_unobstructed whole
      (fun earlier passed => reached.passes earlier (List.mem_append_left _ passed)) healthy
      (List.append_nil _).symm clear listed

/-- An accepted claim of a passed asset is held. -/
theorem Reached.held {passed rest : List Wallet}
    (reached : Reached ethers services client documents passed rest after) {wallet : Wallet}
    (member : wallet ∈ passed) {claim : IssuedClaim}
    (listed : claim ∈ services.accepted (Did.sweepDID ethers wallet)) :
    after.holds (Did.sweepDID ethers wallet) claim.id = true :=
  (reached.holds _ _).mpr (Or.inr ⟨wallet, member, rfl, claim, listed, rfl⟩)

/-- The documents hold what they held before the sweep, and what stood unobstructed. -/
def Exact (ethers : Ethers) (services : Services) (client : PrequalificationClient)
    (documents after : Documents) : Prop :=
  ∀ did id, after.holds did id = true ↔
    documents.holds did id = true ∨ Unobstructed ethers services client documents did id

/-- An unobstructed claim is accepted for a passed asset or for the one the sweep is at,
unless the sweep could get past that one. -/
theorem Reached.unobstructed {passed rest : List Wallet} {wallet : Wallet} {did id : String}
    (reached : Reached ethers services client documents passed (wallet :: rest) after)
    (stops : ¬ Passes ethers services client documents wallet)
    (unobstructed : Unobstructed ethers services client documents did id) :
    after.holds did id = true ∨ (Healthy ethers services client wallet ∧
      Did.sweepDID ethers wallet = did ∧ ∃ front claim back,
        services.accepted did = front ++ claim :: back ∧ Clear services documents did front ∧
        claim.id = id ∧ Publishable services did claim) := by
  obtain ⟨before, owner, behind, front, claim, back, whole, passes, healthy, rfl, listed, clear,
    rfl, publishable⟩ := unobstructed
  have place : owner ∈ passed ∨ owner = wallet :=
    before_stop (fun other => ¬ Passes ethers services client documents other)
      (whole.symm.trans reached.whole)
      (fun earlier member stopped => stopped (passes earlier member)) stops
  rcases place with member | rfl
  · have accepted : claim ∈ services.accepted (Did.sweepDID ethers owner) := by
      rw [listed]
      exact List.mem_append_right _ List.mem_cons_self
    exact Or.inl (reached.held member accepted)
  · exact Or.inr ⟨healthy, rfl, front, claim, back, listed, clear, rfl, publishable⟩

/-- A sweep that got past all signers. -/
theorem Reached.finished {passed : List Wallet}
    (reached : Reached ethers services client documents passed [] after) :
    Exact ethers services client documents after := by
  intro did id
  constructor
  · exact reached.published
  · rintro (earlier | unobstructed)
    · exact (reached.holds did id).mpr (Or.inl earlier)
    · obtain ⟨before, owner, behind, front, claim, back, whole, _, _, rfl, listed, _, rfl, _⟩ :=
        unobstructed
      have member : owner ∈ passed := by
        have signer : owner ∈ services.signers := by
          rw [whole]
          exact List.mem_append_right _ List.mem_cons_self
        rwa [reached.whole, List.append_nil] at signer
      have accepted : claim ∈ services.accepted (Did.sweepDID ethers owner) := by
        rw [listed]
        exact List.mem_append_right _ List.mem_cons_self
      exact reached.held member accepted

/-- A sweep that ended at a failing asset. -/
theorem Reached.stopped {passed rest : List Wallet} {wallet : Wallet}
    (reached : Reached ethers services client documents passed (wallet :: rest) after)
    (failing : ¬ Healthy ethers services client wallet) :
    Exact ethers services client documents after := by
  intro did id
  constructor
  · exact reached.published
  · rintro (earlier | unobstructed)
    · exact (reached.holds did id).mpr (Or.inl earlier)
    · rcases reached.unobstructed (fun passes => failing passes.1) unobstructed with
        held | ⟨healthy, _⟩
      · exact held
      · exact absurd healthy failing

/-- The publishing loop of an asset before its first claim. -/
theorem Publishing.start (read : Documents) (did : String) :
    Publishing services documents read did [] (services.accepted did) read where
  whole := rfl
  clear := fun _ member => nomatch member
  holds := fun other id => by simp

/-- A claim that the document held when it was read is passed over. If the documents did
not hold it before the sweep, another key of the same address has published it since. -/
theorem Publishing.skip {read : Documents} {passed rest : List Wallet} {wallet : Wallet}
    {done todo : List IssuedClaim} {claim : IssuedClaim}
    (reached : Reached ethers services client documents passed rest read)
    (publishing : Publishing services documents read (Did.sweepDID ethers wallet) done
      (claim :: todo) after)
    (present : read.holds (Did.sweepDID ethers wallet) claim.id = true) :
    Publishing services documents read (Did.sweepDID ethers wallet) (done ++ [claim]) todo
      after := by
  have listed : claim ∈ services.accepted (Did.sweepDID ethers wallet) := by
    rw [publishing.whole]
    exact List.mem_append_right _ List.mem_cons_self
  refine ⟨by rw [publishing.whole, List.append_assoc, List.singleton_append], ?_, ?_⟩
  · intro other member lacking
    rcases List.mem_append.mp member with earlier | last
    · exact publishing.clear other earlier lacking
    · obtain rfl := List.mem_singleton.mp last
      rcases (reached.holds _ _).mp present with held | ⟨owner, earlier, same, _⟩
      · rw [lacking] at held
        cases held
      · have clear := (reached.passes owner earlier).2
        rw [same] at clear
        exact clear other listed lacking
  · intro other id
    rw [publishing.holds]
    constructor
    · rintro (held | ⟨same, entry, member, rfl⟩)
      · exact Or.inl held
      · exact Or.inr ⟨same, entry, List.mem_append_left _ member, rfl⟩
    · rintro (held | ⟨rfl, entry, member, rfl⟩)
      · exact Or.inl held
      · rcases List.mem_append.mp member with earlier | last
        · exact Or.inr ⟨rfl, entry, earlier, rfl⟩
        · obtain rfl := List.mem_singleton.mp last
          exact Or.inl present

/-- A published claim is held, and nothing else is new. -/
theorem Publishing.publish {read : Documents} {did : String} {done todo : List IssuedClaim}
    {claim : IssuedClaim}
    (publishing : Publishing services documents read did done (claim :: todo) after)
    (publishable : Publishable services did claim) (endpoint : String) :
    Publishing services documents read did (done ++ [claim]) todo
      (after.append did ⟨claim.id, endpoint⟩) := by
  refine ⟨by rw [publishing.whole, List.append_assoc, List.singleton_append], ?_, ?_⟩
  · intro other member lacking
    rcases List.mem_append.mp member with earlier | last
    · exact publishing.clear other earlier lacking
    · exact List.mem_singleton.mp last ▸ publishable
  · intro other id
    simp only [holds_append, Bool.or_eq_true, Bool.and_eq_true, decide_eq_true_eq,
      publishing.holds, List.mem_append, List.mem_singleton]
    constructor
    · rintro ((held | ⟨same, entry, member, rfl⟩) | ⟨same, rfl⟩)
      · exact Or.inl held
      · exact Or.inr ⟨same, entry, Or.inl member, rfl⟩
      · exact Or.inr ⟨same, claim, Or.inr rfl, rfl⟩
    · rintro (held | ⟨same, entry, member | rfl, rfl⟩)
      · exact Or.inl (Or.inl held)
      · exact Or.inl (Or.inr ⟨same, entry, member, rfl⟩)
      · exact Or.inr ⟨same, rfl⟩

/-- A sweep that ended at a failing claim that was to be published. -/
theorem Publishing.stopped {read : Documents} {passed rest : List Wallet} {wallet : Wallet}
    {done todo : List IssuedClaim} {claim : IssuedClaim}
    (reached : Reached ethers services client documents passed (wallet :: rest) read)
    (healthy : Healthy ethers services client wallet)
    (publishing : Publishing services documents read (Did.sweepDID ethers wallet) done
      (claim :: todo) after)
    (absent : read.holds (Did.sweepDID ethers wallet) claim.id = false)
    (failing : ¬ Publishable services (Did.sweepDID ethers wallet) claim) :
    Exact ethers services client documents after := by
  have grown {did id : String} (held : read.holds did id = true) :
      after.holds did id = true := (publishing.holds did id).mpr (Or.inl held)
  have lacking : documents.holds (Did.sweepDID ethers wallet) claim.id = false := by
    apply Bool.eq_false_iff.mpr
    intro held
    rw [(reached.holds _ _).mpr (Or.inl held)] at absent
    cases absent
  have listed : claim ∈ services.accepted (Did.sweepDID ethers wallet) := by
    rw [publishing.whole]
    exact List.mem_append_right _ List.mem_cons_self
  intro did id
  constructor
  · intro held
    rcases (publishing.holds did id).mp held with before | ⟨rfl, entry, member, rfl⟩
    · exact reached.published before
    · exact clear_unobstructed reached.whole reached.passes healthy publishing.whole
        publishing.clear member
  · rintro (earlier | unobstructed)
    · exact grown ((reached.holds did id).mpr (Or.inl earlier))
    · rcases reached.unobstructed (fun passes => failing (passes.2 claim listed lacking))
        unobstructed with held | ⟨_, rfl, front, other, back, whole, clear, rfl, publishable⟩
      · exact grown held
      · have place : other ∈ done ∨ other = claim := by
          apply before_stop (fun entry =>
            documents.holds (Did.sweepDID ethers wallet) entry.id = false ∧
              ¬ Publishable services (Did.sweepDID ethers wallet) entry)
            (whole.symm.trans publishing.whole)
          · exact fun entry member stopped => stopped.2 (clear entry member stopped.1)
          · exact ⟨lacking, failing⟩
        rcases place with member | rfl
        · exact (publishing.holds _ _).mpr (Or.inr ⟨rfl, other, member, rfl⟩)
        · exact absurd publishable failing

/-- How a part of the sweep ends: past an asset, or with the whole sweep. -/
def Ends (ethers : Ethers) (services : Services) (client : PrequalificationClient)
    (documents : Documents) (passed rest : List Wallet) (outcome : Except Exception PUnit)
    (after : Documents) : Prop :=
  match outcome with
  | .ok _ => Reached ethers services client documents passed rest after
  | .error _ => Exact ethers services client documents after

/-- The publishing loop gets past its asset, or ends the sweep at a failing claim. -/
theorem publish_loop {passed rest : List Wallet} {wallet : Wallet}
    (issued : ∀ claim ∈ services.accepted (Did.sweepDID ethers wallet),
      Publishable services (Did.sweepDID ethers wallet) claim →
        services.entryId wallet.privateKey (Asset.claimToken claim) = claim.id)
    (reached : Reached ethers services client documents passed (wallet :: rest) after)
    (healthy : Healthy ethers services client wallet) :
    ((services.accepted (Did.sweepDID ethers wallet)).forM (Asset.publishMissing
        ⟨wallet.privateKey⟩ (after (Did.sweepDID ethers wallet)))).Ensures (services.serve ethers)
      (Ends ethers services client documents (passed ++ [wallet]) rest) after := by
  apply Program.Ensures.forM _ _ (fun todo now => ∃ done,
    Publishing services documents after (Did.sweepDID ethers wallet) done todo now)
  · exact ⟨[], .start after _⟩
  · rintro claim todo now ⟨done, publishing⟩
    have listed : claim ∈ services.accepted (Did.sweepDID ethers wallet) := by
      rw [publishing.whole]
      exact List.mem_append_right _ List.mem_cons_self
    unfold Asset.publishMissing
    rw [missing_eq]
    cases present : after.holds (Did.sweepDID ethers wallet) claim.id with
    | true => exact ⟨done ++ [claim], publishing.skip reached present⟩
    | false =>
      constructor
      · rintro answer next ⟨publishable, _, ⟨_, endpoint, rfl, rfl⟩, rfl⟩
        rw [issued claim listed publishable]
        exact ⟨done ++ [claim], publishing.publish publishable endpoint⟩
      · rintro exception next ⟨refused, rfl⟩
        have failing : ¬ Publishable services (Did.sweepDID ethers wallet) claim := by
          intro publishable
          cases publishable.symm.trans refused
        exact publishing.stopped reached healthy present failing
  · rintro now ⟨done, publishing⟩
    have complete : services.accepted (Did.sweepDID ethers wallet) = done := by
      rw [publishing.whole, List.append_nil]
    constructor
    · rw [reached.whole, List.append_assoc, List.singleton_append]
    · intro other member
      rcases List.mem_append.mp member with earlier | last
      · exact reached.passes other earlier
      · obtain rfl := List.mem_singleton.mp last
        exact ⟨healthy, complete ▸ publishing.clear⟩
    · intro did id
      rw [publishing.holds, reached.holds, ← complete]
      constructor
      · rintro ((held | ⟨owner, member, found⟩) | ⟨rfl, found⟩)
        · exact Or.inl held
        · exact Or.inr ⟨owner, List.mem_append_left _ member, found⟩
        · exact Or.inr ⟨wallet, List.mem_append_right _ List.mem_cons_self, rfl, found⟩
      · rintro (held | ⟨owner, member, rfl, found⟩)
        · exact Or.inl (Or.inl held)
        · rcases List.mem_append.mp member with earlier | last
          · exact Or.inl (Or.inr ⟨owner, earlier, rfl, found⟩)
          · obtain rfl := List.mem_singleton.mp last
            exact Or.inr ⟨rfl, found⟩

/-- A failing call of an asset makes it unhealthy. -/
theorem unhealthy {wallet : Wallet} {call : Call} (made : call ∈ assetCalls ethers client wallet)
    (fails : services.fails call = true) : ¬ Healthy ethers services client wallet := by
  intro healthy
  rw [healthy call made] at fails
  cases fails

/-- Checking an asset gets past it, or ends the sweep at its first failure. -/
theorem checkWallet_ends {passed rest : List Wallet} {wallet : Wallet}
    (issued : ∀ claim ∈ services.accepted (Did.sweepDID ethers wallet),
      Publishable services (Did.sweepDID ethers wallet) claim →
        services.entryId wallet.privateKey (Asset.claimToken claim) = claim.id)
    (reached : Reached ethers services client documents passed (wallet :: rest) after) :
    (client.checkWallet ethers wallet).Ensures (services.serve ethers)
      (Ends ethers services client documents (passed ++ [wallet]) rest) after := by
  have stops {call : Call} (made : call ∈ assetCalls ethers client wallet)
      (fails : services.fails call = true) : Exact ethers services client documents after :=
    reached.stopped (unhealthy made fails)
  refine ⟨?_, fun _ _ ⟨fails, same⟩ => same ▸ stops (by simp [assetCalls]) fails⟩
  rintro _ _ ⟨signer, _, ⟨_, rfl⟩, rfl⟩
  refine ⟨?_, fun _ _ ⟨fails, same⟩ => same ▸ stops (by simp [assetCalls]) fails⟩
  rintro _ _ ⟨cache, _, ⟨_, rfl⟩, rfl⟩
  refine ⟨?_, fun _ _ ⟨fails, same⟩ => same ▸ stops (by simp [assetCalls]) fails⟩
  rintro _ _ ⟨registry, _, ⟨_, rfl⟩, rfl⟩
  refine ⟨?_, fun _ _ ⟨fails, same⟩ => same ▸ stops (by simp [assetCalls]) fails⟩
  rintro claims _ ⟨listing, _, ⟨listed, rfl⟩, rfl⟩
  obtain rfl := listed rfl
  refine ⟨?_, fun _ _ ⟨fails, same⟩ => same ▸ stops (by simp [assetCalls]) fails⟩
  rintro document _ ⟨reading, _, ⟨rfl, rfl⟩, rfl⟩
  have healthy : Healthy ethers services client wallet := by
    intro call made
    simp only [assetCalls, List.mem_cons, List.not_mem_nil, or_false] at made
    rcases made with rfl | rfl | rfl | rfl | rfl
    · exact signer
    · exact cache
    · exact registry
    · exact listing
    · exact reading
  exact publish_loop issued reached healthy

/-- A sweep leaves documents that hold exactly what they held before it and what stood
unobstructed, however it ends. -/
theorem init_exact (issued : ∀ wallet ∈ services.signers,
      ∀ claim ∈ services.accepted (Did.sweepDID ethers wallet),
        Publishable services (Did.sweepDID ethers wallet) claim →
          services.entryId wallet.privateKey (Asset.claimToken claim) = claim.id) :
    (client.init ethers).Ensures (services.serve ethers)
      (fun _ after => Exact ethers services client documents after) documents := by
  refine ⟨?_, fun _ _ ⟨impossible, _⟩ => absurd impossible Bool.false_ne_true⟩
  rintro _ next ⟨_, _, ⟨rfl, rfl⟩, same⟩
  have unchanged : next = documents := same
  rw [unchanged]
  apply Program.Ensures.forM _ _ (fun rest now => ∃ passed,
    Reached ethers services client documents passed rest now)
  · exact ⟨[], rfl, fun _ member => (nomatch member), fun did id => by simp⟩
  · rintro wallet rest now ⟨passed, reached⟩
    have stored : wallet ∈ services.signers := by
      rw [reached.whole]
      exact List.mem_append_right _ List.mem_cons_self
    apply (checkWallet_ends (issued wallet stored) reached).weaken
    intro outcome final ended
    cases outcome with
    | ok value => exact ⟨_, ended⟩
    | error exception => exact ended
  · rintro now ⟨passed, reached⟩
    exact reached.finished

/-- Whatever does not fail can be answered. -/
theorem records_total (documents : Documents) : (services.records documents).Total where
  signerForDID := fun _ => ⟨none, trivial⟩
  roleDefinition := fun _ => ⟨none, trivial⟩
  claims := fun did => ⟨services.accepted did, rfl⟩
  entryId := fun key token => ⟨services.entryId key token, rfl⟩

/-- Every call either fails or succeeds. -/
theorem serve_responds (documents : Documents) (call : Call) :
    ∃ outcome next, services.serve ethers documents call outcome next := by
  cases fails : services.failing ethers call with
  | true => exact ⟨.error .typeError, documents, fails, rfl⟩
  | false =>
    obtain ⟨answer, added, answers⟩ := (records_total documents).answered call
    exact ⟨.ok answer, _, fails, added, answers, rfl⟩

/-- A claim that a sweep owes: accepted for a stored asset whose client creation and
reads succeed, not published yet, and publishable. -/
structure Due (ethers : Ethers) (services : Services) (client : PrequalificationClient)
    (documents : Documents) (wallet : Wallet) (claim : IssuedClaim) : Prop where
  stored : wallet ∈ services.signers
  healthy : Healthy ethers services client wallet
  accepted : claim ∈ services.accepted (Did.sweepDID ethers wallet)
  lacking : documents.holds (Did.sweepDID ethers wallet) claim.id = false
  publishable : Publishable services (Did.sweepDID ethers wallet) claim

/-- The sweep published all it owed. -/
def Complete (ethers : Ethers) (services : Services) (client : PrequalificationClient)
    (documents after : Documents) : Prop :=
  ∀ wallet claim, Due ethers services client documents wallet claim →
    after.holds (Did.sweepDID ethers wallet) claim.id = true

/-- For all stored signers, all lists of accepted claims and all permanent failures, a
sweep comes to an end, and it has then published all it owed exactly when every claim it
owes stands unobstructed. Only of claims that can be published is it assumed that their entry
has the claim's id. -/
theorem sweep_complete_iff (client : PrequalificationClient) (documents : Documents)
    (issued : ∀ wallet ∈ services.signers,
      ∀ claim ∈ services.accepted (Did.sweepDID ethers wallet),
        Publishable services (Did.sweepDID ethers wallet) claim →
          services.entryId wallet.privateKey (Asset.claimToken claim) = claim.id) :
    (∃ outcome after,
      (client.init ethers).Executes (services.serve ethers) documents outcome after) ∧
    ∀ outcome after,
      (client.init ethers).Executes (services.serve ethers) documents outcome after →
        (Complete ethers services client documents after ↔
          ∀ wallet claim, Due ethers services client documents wallet claim →
            Unobstructed ethers services client documents (Did.sweepDID ethers wallet)
              claim.id) := by
  constructor
  · exact Program.Executes.total serve_responds _ documents
  · intro outcome after swept
    have exactly : Exact ethers services client documents after := (init_exact issued).sound swept
    constructor
    · intro complete wallet claim due
      rcases (exactly _ _).mp (complete wallet claim due) with held | unobstructed
      · rw [due.lacking] at held
        cases held
      · exact unobstructed
    · intro unobstructed wallet claim due
      exact (exactly _ _).mpr (Or.inr (unobstructed wallet claim due))

end Sweep

/-- Two stored signers with one accepted claim each; every call made with one key
fails. -/
def failingFor (key : String) : Services where
  signers := [⟨"a"⟩, ⟨"ab"⟩]
  accepted := fun _ => [⟨"claim", some "token"⟩]
  entryId := fun _ _ => "claim"
  fails := fun call => call.privateKey = some key
  refuses := fun _ _ => false

/-- With the second asset failing, the sweep publishes the claim of the first. -/
theorem later_failure_harmless : ∃ outcome after,
    (PrequalificationClient.sample.init .sample).Executes ((failingFor "ab").serve .sample)
      (fun _ => ⟨[]⟩) outcome after ∧
    Complete .sample (failingFor "ab") .sample (fun _ => ⟨[]⟩) after := by
  have issued : ∀ wallet ∈ (failingFor "ab").signers,
      ∀ claim ∈ (failingFor "ab").accepted (Did.sweepDID .sample wallet),
        Publishable (failingFor "ab") (Did.sweepDID .sample wallet) claim →
          (failingFor "ab").entryId wallet.privateKey (Asset.claimToken claim) = claim.id := by
    intro wallet _ claim listed _
    obtain rfl := List.mem_singleton.mp listed
    rfl
  obtain ⟨⟨outcome, after, swept⟩, exactly⟩ :=
    @sweep_complete_iff .sample (failingFor "ab") PrequalificationClient.sample (fun _ => ⟨[]⟩)
      issued
  refine ⟨outcome, after, swept, (exactly outcome after swept).mpr ?_⟩
  intro wallet claim due
  have first : wallet = ⟨"a"⟩ := by
    rcases List.mem_cons.mp due.stored with same | later
    · exact same
    · obtain rfl := List.mem_singleton.mp later
      exact nomatch due.healthy (.connectToDidRegistry "ab") (by simp [assetCalls])
  subst first
  have listed := List.mem_singleton.mp due.accepted
  subst listed
  exact ⟨[], ⟨"a"⟩, [⟨"ab"⟩], [], _, [], rfl, nofun, due.healthy, rfl, rfl, nofun, rfl,
    due.publishable⟩

/-- With the first asset failing, the sweep ends before the second, whose claim stays
unpublished. -/
theorem earlier_failure_blocks : ∃ after,
    (PrequalificationClient.sample.init .sample).Executes ((failingFor "a").serve .sample)
      (fun _ => ⟨[]⟩) (.error .typeError) after ∧
    ¬ Complete .sample (failingFor "a") .sample (fun _ => ⟨[]⟩) after := by
  refine ⟨fun _ => ⟨[]⟩, ?_, ?_⟩
  · refine .answered _ _ [⟨"a"⟩, ⟨"ab"⟩] _ _ _ _ ⟨rfl, none, by exact ⟨rfl, rfl⟩, rfl⟩ ?_
    exact .refused (Call.initWithPrivateKeySigner "a" "rpc") _ _ _ _ ⟨rfl, rfl⟩
  · intro complete
    have due : Due .sample (failingFor "a") .sample (fun _ => ⟨[]⟩) ⟨"ab"⟩
        ⟨"claim", some "token"⟩ := by
      refine ⟨by decide, ?_, List.mem_cons_self, rfl, rfl⟩
      intro call made
      simp only [assetCalls, List.mem_cons, List.not_mem_nil, or_false] at made
      rcases made with rfl | rfl | rfl | rfl | rfl
      all_goals decide
    exact nomatch complete _ _ due

end EvDashboard.FailFast
