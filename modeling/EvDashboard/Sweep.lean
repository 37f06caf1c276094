import EvDashboard.PrequalificationClient
import EvDashboard.Services

/-!
# Startup sweeps that may fail anywhere

A sweep is one execution of `init` against services of which any call may fail.
Reads return the current data, in any order; a publication fails without effect
or appends one service entry to the document of its subject. Every attempt to publish
is recorded, with the documents it was made in and what it added. A claim without a
token may stand in the lists; nothing is assumed about such a publication but that an
entry, if there is one, has the claim's id.

A sweep filters against a document read once. What carries the argument is that
the claims still to come in the publishing loop are missing from the snapshot
only if they are missing from the document itself, because their ids differ from
those published since. Sweeps then compose: a failed one leaves exactly the work
it did not do.
-/

namespace EvDashboard.Sweep

open Async JavaScript Documents

/-- One call of `publishPublicClaim`: the documents it was made in, and what it added. -/
structure Attempt where
  privateKey : String
  token : Option Json
  before : Documents
  added : Option Addition

/-- The documents, and the publications attempted so far. -/
structure World where
  documents : Documents
  attempts : List Attempt

/-- A call has ended; the publications are recorded. -/
def World.after (world : World) (call : Call) (added : Option Addition) : World :=
  match call with
  | .publishPublicClaim key token =>
    ⟨world.documents.after added, world.attempts ++ [⟨key, token, world.documents, added⟩]⟩
  | _ => world

/-- The publications that succeeded, by document and id. -/
def World.published (world : World) : List (String × String) :=
  world.attempts.filterMap (fun attempt =>
    attempt.added.map (fun addition => (addition.did, addition.entry.id)))

section Services

variable (ethers : Ethers) (signers : List Wallet) (accepted : String → List IssuedClaim)
  (entryId : String → Option Json → String → Prop)

/-- The accepted claims come in any order. A sweep looks up no signer and no role. -/
def World.records (world : World) : Records where
  signers := signers
  signerForDID := fun _ _ => True
  roleDefinition := fun _ _ => True
  claims := fun did claims => claims.Perm (accepted did)
  entryId := entryId
  documents := world.documents

/-- How a call may end. -/
def service : Service Call Call.Answer Exception World := fun world call outcome next =>
  match outcome with
  | .ok answer => ∃ added,
    (world.records signers accepted entryId).Answers ethers call answer added ∧
      next = world.after call added
  | .error _ => next = world.after call none

/-- The attempt was made for an accepted claim that the document of its asset lacked, and
what it added, if anything, is an entry of this document with the claim's id. -/
def Attempt.OfMissing (attempt : Attempt) : Prop :=
  ∃ wallet ∈ signers, ∃ claim ∈ accepted (Did.sweepDID ethers wallet),
    attempt.privateKey = wallet.privateKey ∧ attempt.token = Asset.claimToken claim ∧
    attempt.before.holds (Did.sweepDID ethers wallet) claim.id = false ∧
    ∀ addition, attempt.added = some addition →
      addition.did = Did.sweepDID ethers wallet ∧ addition.entry.id = claim.id

/-- A finite sequence of startup sweeps, with how each of them ended. -/
inductive Sweeps (client : PrequalificationClient) :
    World → List (Except Exception PUnit) → World → Prop where
  | none (world : World) : Sweeps client world [] world
  | next {world middle final : World} {outcome : Except Exception PUnit}
      {outcomes : List (Except Exception PUnit)}
      (sweep : (client.init ethers).Executes (service ethers signers accepted entryId) world
        outcome middle)
      (rest : Sweeps client middle outcomes final) : Sweeps client world (outcome :: outcomes) final

end Services

section Executions

variable {ethers : Ethers} {signers : List Wallet} {accepted : String → List IssuedClaim}
  {entryId : String → Option Json → String → Prop}

variable (ethers signers accepted) in
/-- What holds of every world that sweeps lead to from some documents. -/
structure Kept (initial : Documents) (world : World) : Prop where
  missing : ∀ attempt ∈ world.attempts, attempt.OfMissing ethers signers accepted
  once : world.published.Nodup
  held : ∀ entry ∈ world.published, world.documents.holds entry.1 entry.2 = true
  extended : Extends initial world.documents

/-- The call that publishes a claim with the key of a wallet. -/
def publication (wallet : Wallet) (claim : IssuedClaim) : Call :=
  .publishPublicClaim wallet.privateKey (Asset.claimToken claim)

/-- The world once the entry of a claim was published. -/
def World.publish (ethers : Ethers) (world : World) (wallet : Wallet) (claim : IssuedClaim)
    (endpoint : String) : World :=
  world.after (publication wallet claim)
    (some ⟨Did.sweepDID ethers wallet, ⟨claim.id, endpoint⟩⟩)

/-- An attempt to publish a missing claim is recorded as one. -/
theorem Kept.recorded {initial : Documents} {world : World}
    (kept : Kept ethers signers accepted initial world) {wallet : Wallet} {claim : IssuedClaim}
    (stored : wallet ∈ signers) (listed : claim ∈ accepted (Did.sweepDID ethers wallet))
    (missing : world.documents.holds (Did.sweepDID ethers wallet) claim.id = false)
    {added : Option Addition} (own : ∀ addition, added = some addition →
      addition.did = Did.sweepDID ethers wallet ∧ addition.entry.id = claim.id) :
    ∀ attempt ∈ (world.after (publication wallet claim) added).attempts,
      attempt.OfMissing ethers signers accepted := by
  intro attempt member
  rcases List.mem_append.mp member with earlier | last
  · exact kept.missing attempt earlier
  · obtain rfl := List.mem_singleton.mp last
    exact ⟨wallet, stored, claim, listed, rfl, rfl, missing, own⟩

/-- A failed publication of a missing claim keeps the invariant. -/
theorem Kept.failed {initial : Documents} {world : World}
    (kept : Kept ethers signers accepted initial world) {wallet : Wallet} {claim : IssuedClaim}
    (stored : wallet ∈ signers) (listed : claim ∈ accepted (Did.sweepDID ethers wallet))
    (missing : world.documents.holds (Did.sweepDID ethers wallet) claim.id = false) :
    Kept ethers signers accepted initial (world.after (publication wallet claim) none) := by
  have same : (world.after (publication wallet claim) none).published = world.published := by
    simp only [World.published, World.after, publication, List.filterMap_append,
      List.filterMap_cons, Option.map_none, List.filterMap_nil, List.append_nil]
  refine ⟨kept.recorded stored listed missing nofun, same ▸ kept.once, ?_, kept.extended⟩
  rw [same]
  exact kept.held

/-- A successful publication of a missing claim keeps the invariant: the claim was
not published before, since published ones are held. -/
theorem Kept.succeeded {initial : Documents} {world : World}
    (kept : Kept ethers signers accepted initial world) {wallet : Wallet} {claim : IssuedClaim}
    (stored : wallet ∈ signers) (listed : claim ∈ accepted (Did.sweepDID ethers wallet))
    (missing : world.documents.holds (Did.sweepDID ethers wallet) claim.id = false)
    (endpoint : String) :
    Kept ethers signers accepted initial (world.publish ethers wallet claim endpoint) := by
  have more : (world.publish ethers wallet claim endpoint).published =
      world.published ++ [(Did.sweepDID ethers wallet, claim.id)] := by
    simp only [World.published, World.publish, World.after, publication, List.filterMap_append,
      List.filterMap_cons, Option.map_some, List.filterMap_nil]
  refine ⟨kept.recorded stored listed missing ?_, ?_, ?_,
    kept.extended.trans (append_extends _ _ _)⟩
  · rintro _ ⟨⟩
    exact ⟨rfl, rfl⟩
  · rw [more]
    refine List.nodup_append.mpr ⟨kept.once, by simp, ?_⟩
    rintro earlier member last present rfl
    obtain rfl := List.mem_singleton.mp present
    have held := kept.held _ member
    rw [missing] at held
    cases held
  · intro entry member
    rw [more] at member
    rcases List.mem_append.mp member with earlier | last
    · exact (append_extends world.documents _ _).holds (kept.held entry earlier)
    · obtain rfl := List.mem_singleton.mp last
      exact holds_appended world.documents _ _

variable (ethers signers accepted) in
/-- The publishing loop over `claims`, begun in the world `start` in which the
document was read, when `rest` is still to come. -/
structure Publishing (initial : Documents) (start : World) (wallet : Wallet)
    (claims rest : List IssuedClaim) (world : World) : Prop where
  kept : Kept ethers signers accepted initial world
  grown : Extends start.documents world.documents
  pending : ∀ claim ∈ rest, start.documents.holds (Did.sweepDID ethers wallet) claim.id = false →
    world.documents.holds (Did.sweepDID ethers wallet) claim.id = false
  distinct : (rest.map IssuedClaim.id).Nodup
  done : ∀ claim ∈ claims,
    claim ∈ rest ∨ world.documents.holds (Did.sweepDID ethers wallet) claim.id = true

/-- A claim that the document held when it was read is passed over. -/
theorem Publishing.skip {initial : Documents} {start world : World} {wallet : Wallet}
    {claims rest : List IssuedClaim} {claim : IssuedClaim}
    (publishing : Publishing ethers signers accepted initial start wallet claims (claim :: rest)
      world)
    (present : start.documents.holds (Did.sweepDID ethers wallet) claim.id = true) :
    Publishing ethers signers accepted initial start wallet claims rest world := by
  refine ⟨publishing.kept, publishing.grown,
    fun other member => publishing.pending other (List.mem_cons_of_mem _ member),
    (List.nodup_cons.mp publishing.distinct).2, ?_⟩
  intro other member
  rcases publishing.done other member with later | held
  · rcases List.mem_cons.mp later with rfl | later
    · exact Or.inr (publishing.grown.holds present)
    · exact Or.inl later
  · exact Or.inr held

/-- A claim missing when the document was read is missing still, and is published.
The claims still to come have other ids, so none of them appears by this. -/
theorem Publishing.publish {initial : Documents} {start world : World} {wallet : Wallet}
    {claims rest : List IssuedClaim} {claim : IssuedClaim}
    (publishing : Publishing ethers signers accepted initial start wallet claims (claim :: rest)
      world)
    (stored : wallet ∈ signers) (listed : claim ∈ accepted (Did.sweepDID ethers wallet))
    (absent : start.documents.holds (Did.sweepDID ethers wallet) claim.id = false)
    (endpoint : String) :
    Publishing ethers signers accepted initial start wallet claims rest
      (world.publish ethers wallet claim endpoint) := by
  have missing : world.documents.holds (Did.sweepDID ethers wallet) claim.id = false :=
    publishing.pending claim List.mem_cons_self absent
  obtain ⟨fresh, distinct⟩ := List.nodup_cons.mp publishing.distinct
  have appended (id : String) :
      (world.publish ethers wallet claim endpoint).documents.holds (Did.sweepDID ethers wallet)
          id =
        (world.documents.holds (Did.sweepDID ethers wallet) id || decide (claim.id = id)) := by
    refine (holds_append world.documents _ _ _ id).trans ?_
    simp only [decide_true, Bool.true_and]
  refine ⟨publishing.kept.succeeded stored listed missing endpoint,
    publishing.grown.trans (append_extends _ _ _), ?_, distinct, ?_⟩
  · intro other member before
    rw [appended, publishing.pending other (List.mem_cons_of_mem _ member) before]
    have different : claim.id ≠ other.id := by
      intro same
      exact fresh (same ▸ List.mem_map_of_mem member)
    simp only [different, decide_false, Bool.or_self]
  · intro other member
    rw [appended]
    rcases publishing.done other member with later | held
    · rcases List.mem_cons.mp later with rfl | later
      · exact Or.inr (by simp only [decide_true, Bool.or_true])
      · exact Or.inl later
    · exact Or.inr (by simp only [held, Bool.true_or])

variable (ethers signers accepted) in
/-- What an execution begun in `world` ensures: the invariant, documents that only
grow, and, unless it failed, that the given assets lack no accepted claim. -/
def Swept (initial : Documents) (world : World) (wallets : List Wallet)
    (outcome : Except Exception PUnit) (after : World) : Prop :=
  Kept ethers signers accepted initial after ∧ Extends world.documents after.documents ∧
    (outcome = .ok ⟨⟩ → ∀ wallet ∈ wallets, ∀ claim ∈ accepted (Did.sweepDID ethers wallet),
      after.documents.holds (Did.sweepDID ethers wallet) claim.id = true)

/-- The publishing loop keeps its invariant to its end, or fails in a kept world. -/
theorem publish_loop {initial : Documents} {start world : World} {wallet : Wallet}
    {claims : List IssuedClaim} (stored : wallet ∈ signers)
    (among : ∀ claim ∈ claims, claim ∈ accepted (Did.sweepDID ethers wallet))
    (issued : ∀ claim ∈ claims, ∀ id,
      entryId wallet.privateKey (Asset.claimToken claim) id → id = claim.id)
    (publishing : Publishing ethers signers accepted initial start wallet claims claims world) :
    (claims.forM (Asset.publishMissing ⟨wallet.privateKey⟩
        (start.documents (Did.sweepDID ethers wallet)))).Ensures
      (service ethers signers accepted entryId)
      (fun outcome after => Kept ethers signers accepted initial after ∧
        Extends start.documents after.documents ∧
        (outcome = .ok ⟨⟩ → ∀ claim ∈ claims,
          after.documents.holds (Did.sweepDID ethers wallet) claim.id = true)) world := by
  apply Program.Ensures.forM claims _ (fun rest after => (∀ claim ∈ rest, claim ∈ claims) ∧
    Publishing ethers signers accepted initial start wallet claims rest after)
  · exact ⟨fun _ member => member, publishing⟩
  · rintro claim rest before ⟨listed, publishing⟩
    have others : ∀ other ∈ rest, other ∈ claims :=
      fun other member => listed other (List.mem_cons_of_mem _ member)
    have own : claim ∈ claims := listed claim List.mem_cons_self
    unfold Asset.publishMissing
    rw [missing_eq]
    cases present : start.documents.holds (Did.sweepDID ethers wallet) claim.id with
    | true => exact ⟨others, publishing.skip present⟩
    | false =>
      refine ⟨?_, ?_⟩
      · rintro answer after ⟨_, ⟨id, endpoint, leads, rfl⟩, rfl⟩
        obtain rfl := issued claim own id leads
        exact ⟨others, publishing.publish stored (among claim own) present endpoint⟩
      · rintro exception after rfl
        have missing : before.documents.holds (Did.sweepDID ethers wallet) claim.id = false :=
          publishing.pending claim List.mem_cons_self present
        exact ⟨publishing.kept.failed stored (among claim own) missing, publishing.grown, nofun⟩
  · rintro after ⟨_, publishing⟩
    refine ⟨publishing.kept, publishing.grown, ?_⟩
    intro _ claim member
    rcases publishing.done claim member with later | held
    · cases later
    · exact held

/-- Creating the library's clients changes no data, whether it fails or not. -/
theorem create_ensures {α : Type} (factory : IamClientLibFactory) (key : String)
    {next : IamClients → Awaiting α} {post : Except Exception α → World → Prop} {world : World}
    (rest : (next ⟨key⟩).Ensures (service ethers signers accepted entryId) post world)
    (fails : ∀ exception, post (.error exception) world) :
    (factory.create key >>= next).Ensures (service ethers signers accepted entryId) post world := by
  refine ⟨?_, fun exception after same => same ▸ fails exception⟩
  rintro _ _ ⟨_, _, rfl⟩
  refine ⟨?_, fun exception after same => same ▸ fails exception⟩
  rintro _ _ ⟨_, _, rfl⟩
  refine ⟨?_, fun exception after same => same ▸ fails exception⟩
  rintro _ _ ⟨_, _, rfl⟩
  exact rest

/-- Checking one asset leaves it without a missing claim, or fails in a kept world. -/
theorem checkWallet_ensures {initial : Documents} {world : World} {wallet : Wallet}
    (client : PrequalificationClient) (stored : wallet ∈ signers)
    (distinct : ((accepted (Did.sweepDID ethers wallet)).map IssuedClaim.id).Nodup)
    (issued : ∀ claim ∈ accepted (Did.sweepDID ethers wallet), ∀ id,
      entryId wallet.privateKey (Asset.claimToken claim) id → id = claim.id)
    (kept : Kept ethers signers accepted initial world) :
    (client.checkWallet ethers wallet).Ensures (service ethers signers accepted entryId)
      (Swept ethers signers accepted initial world [wallet]) world := by
  have unchanged (exception : Exception) :
      Swept ethers signers accepted initial world [wallet] (.error exception) world :=
    ⟨kept, Extends.refl _, nofun⟩
  refine create_ensures _ _ ⟨?_, fun exception after same => same ▸ unchanged exception⟩ unchanged
  rintro claims after ⟨_, ⟨found, rfl⟩, rfl⟩
  have permuted : claims.Perm (accepted (Did.sweepDID ethers wallet)) := found rfl
  have among (claim : IssuedClaim) (member : claim ∈ claims) :
      claim ∈ accepted (Did.sweepDID ethers wallet) := permuted.mem_iff.mp member
  refine ⟨?_, fun exception after same => same ▸ unchanged exception⟩
  rintro document after ⟨_, ⟨rfl, rfl⟩, rfl⟩
  have publishing : Publishing ethers signers accepted initial after wallet claims claims after :=
    ⟨kept, Extends.refl _, fun _ _ absent => absent, (permuted.map _).nodup_iff.mpr distinct,
      fun _ member => Or.inl member⟩
  apply (publish_loop stored among (fun claim member => issued claim (among claim member))
    publishing).weaken
  rintro outcome final ⟨stillKept, grown, complete⟩
  refine ⟨stillKept, grown, ?_⟩
  intro finished other member claim listed
  obtain rfl := List.mem_singleton.mp member
  exact complete finished claim (permuted.mem_iff.mpr listed)

/-- A whole sweep ensures the same for all stored assets. -/
theorem init_ensures {initial : Documents} {world : World}
    (client : PrequalificationClient)
    (distinct : ∀ wallet ∈ signers,
      ((accepted (Did.sweepDID ethers wallet)).map IssuedClaim.id).Nodup)
    (issued : ∀ wallet ∈ signers, ∀ claim ∈ accepted (Did.sweepDID ethers wallet), ∀ id,
      entryId wallet.privateKey (Asset.claimToken claim) id → id = claim.id)
    (kept : Kept ethers signers accepted initial world) :
    (client.init ethers).Ensures (service ethers signers accepted entryId)
      (Swept ethers signers accepted initial world signers) world := by
  have unchanged (exception : Exception) :
      Swept ethers signers accepted initial world signers (.error exception) world :=
    ⟨kept, Extends.refl _, nofun⟩
  refine ⟨?_, fun exception after same => same ▸ unchanged exception⟩
  rintro wallets after ⟨_, ⟨rfl, rfl⟩, rfl⟩
  apply Program.Ensures.forM wallets _ (fun rest middle => (∀ wallet ∈ rest, wallet ∈ wallets) ∧
    Kept ethers wallets accepted initial middle ∧ Extends after.documents middle.documents ∧
    ∀ wallet ∈ wallets, wallet ∈ rest ∨ ∀ claim ∈ accepted (Did.sweepDID ethers wallet),
      middle.documents.holds (Did.sweepDID ethers wallet) claim.id = true)
  · exact ⟨fun _ member => member, kept, Extends.refl _, fun _ member => Or.inl member⟩
  · rintro wallet rest before ⟨listed, keptBefore, grown, complete⟩
    have stored : wallet ∈ wallets := listed wallet List.mem_cons_self
    apply (checkWallet_ensures client stored (distinct wallet stored) (issued wallet stored)
      keptBefore).weaken
    rintro outcome final ⟨stillKept, further, checked⟩
    cases outcome with
    | error exception => exact ⟨stillKept, grown.trans further, nofun⟩
    | ok value =>
      refine ⟨fun other member => listed other (List.mem_cons_of_mem _ member), stillKept,
        grown.trans further, ?_⟩
      intro other member
      rcases complete other member with later | held
      · rcases List.mem_cons.mp later with rfl | later
        · exact Or.inr (checked rfl other List.mem_cons_self)
        · exact Or.inl later
      · exact Or.inr (fun claim present => further.holds (held claim present))
  · rintro final ⟨_, stillKept, grown, complete⟩
    refine ⟨stillKept, grown, ?_⟩
    intro _ wallet member
    rcases complete wallet member with later | held
    · cases later
    · exact held

/-- A sweep that starts where no accepted claim is missing changes nothing, not
even the record of attempts. -/
theorem init_quiet {world : World} (client : PrequalificationClient)
    (complete : ∀ wallet ∈ signers, ∀ claim ∈ accepted (Did.sweepDID ethers wallet),
      world.documents.holds (Did.sweepDID ethers wallet) claim.id = true) :
    (client.init ethers).Ensures (service ethers signers accepted entryId)
      (fun _ after => after = world) world := by
  refine ⟨?_, fun exception after same => same⟩
  rintro wallets after ⟨_, ⟨rfl, rfl⟩, rfl⟩
  apply Program.Ensures.forM wallets _ (fun rest middle => (∀ wallet ∈ rest, wallet ∈ wallets) ∧
    middle = after)
  · exact ⟨fun _ member => member, rfl⟩
  · rintro wallet rest before ⟨listed, rfl⟩
    refine create_ensures _ _ ⟨?_, fun _ _ same => same⟩ (fun _ => rfl)
    rintro claims middle ⟨_, ⟨found, rfl⟩, rfl⟩
    have permuted : claims.Perm (accepted (Did.sweepDID ethers wallet)) := found rfl
    refine ⟨?_, fun _ _ same => same⟩
    rintro document next ⟨_, ⟨rfl, rfl⟩, rfl⟩
    apply Program.Ensures.forM claims _ (fun remaining last =>
      (∀ claim ∈ remaining, claim ∈ claims) ∧ last = next)
    · exact ⟨fun _ member => member, rfl⟩
    · rintro claim remaining last ⟨among, rfl⟩
      have present : last.documents.holds (Did.sweepDID ethers wallet) claim.id = true :=
        complete wallet (listed wallet List.mem_cons_self) claim
          (permuted.mem_iff.mp (among claim List.mem_cons_self))
      unfold Asset.publishMissing
      show (if Asset.missing (last.documents (Did.sweepDID ethers wallet)) claim = true
        then _ else _ : Awaiting PUnit).Ensures _ _ _
      rw [missing_eq, present]
      exact ⟨fun other member => among other (List.mem_cons_of_mem _ member), rfl⟩
    · rintro last ⟨_, rfl⟩
      exact ⟨fun other member => listed other (List.mem_cons_of_mem _ member), rfl⟩
  · rintro last ⟨_, rfl⟩
    rfl

end Executions

/-- Over any sequence of sweeps, each cut off by any failing call: every attempt to publish is
for an accepted claim that its document lacks at that time, none is published successfully
twice, and no earlier service entry changes. A sweep that then ends without error leaves
no accepted claim missing, and whatever comes of the sweep after it, that one
publishes nothing.

Every sweep keeps the invariant, whichever call it fails at; the last two parts
are what a sweep ensures in addition when it ends, and what it does where nothing
is missing. -/
theorem sweeps_resumable (ethers : Ethers) (signers : List Wallet)
    (accepted : String → List IssuedClaim) (entryId : String → Option Json → String → Prop)
    (distinct : ∀ wallet ∈ signers,
      ((accepted (Did.sweepDID ethers wallet)).map IssuedClaim.id).Nodup)
    (issued : ∀ wallet ∈ signers, ∀ claim ∈ accepted (Did.sweepDID ethers wallet), ∀ id,
      entryId wallet.privateKey (Asset.claimToken claim) id → id = claim.id)
    (client : PrequalificationClient) (initial : Documents)
    (outcomes : List (Except Exception PUnit)) (final : World)
    (swept : Sweeps ethers signers accepted entryId client ⟨initial, []⟩ outcomes final) :
    (∀ attempt ∈ final.attempts, attempt.OfMissing ethers signers accepted) ∧
    final.published.Nodup ∧ Extends initial final.documents ∧
    ∀ complete, (client.init ethers).Executes (service ethers signers accepted entryId) final
        (.ok ⟨⟩) complete →
      (∀ wallet ∈ signers, ∀ claim ∈ accepted (Did.sweepDID ethers wallet),
        complete.documents.holds (Did.sweepDID ethers wallet) claim.id = true) ∧
      ∀ outcome next, (client.init ethers).Executes (service ethers signers accepted entryId)
        complete outcome next → next = complete := by
  have kept : Kept ethers signers accepted initial final := by
    have start : Kept ethers signers accepted initial ⟨initial, []⟩ :=
      ⟨by simp, List.nodup_nil, by simp [World.published], Extends.refl _⟩
    generalize (⟨initial, []⟩ : World) = world at swept start
    induction swept with
    | none world => exact start
    | next sweep rest inductionHypothesis =>
      exact inductionHypothesis ((init_ensures client distinct issued start).sound sweep).1
  refine ⟨kept.missing, kept.once, kept.extended, ?_⟩
  intro complete sweep
  obtain ⟨_, _, ended⟩ := (init_ensures client distinct issued kept).sound sweep
  exact ⟨ended rfl, fun outcome next again => (init_quiet client (ended rfl)).sound again⟩

section Sample

/-- An asset with one claim that has a token, and one that has none. -/
def sampleClaims : List IssuedClaim := [⟨"claim", some "token"⟩, ⟨"other", none⟩]

/-- The token leads to the id of its claim; without a token nothing can be published. -/
def sampleEntryId (_ : String) (token : Option Json) (id : String) : Prop :=
  token = some (.string "token") ∧ id = "claim"

/-- A sweep over the asset publishes the first claim and fails at the second. Each attempt was
for a claim that the document lacked, and nothing was published twice. -/
theorem interrupted_sweep_resumable :
    ∃ final, Sweeps .sample [⟨"a"⟩] (fun _ => sampleClaims) sampleEntryId .sample
        ⟨fun _ => ⟨[]⟩, []⟩ [.error .typeError] final ∧
      final.attempts.length = 2 ∧ final.published.length = 1 ∧
      (∀ attempt ∈ final.attempts, attempt.OfMissing .sample [⟨"a"⟩] (fun _ => sampleClaims)) ∧
      final.published.Nodup := by
  have sweep : ∃ final, (PrequalificationClient.init .sample .sample).Executes
      (service .sample [⟨"a"⟩] (fun _ => sampleClaims) sampleEntryId)
      ⟨fun _ => ⟨[]⟩, []⟩ (.error .typeError) final ∧ final.attempts.length = 2 ∧
        final.published.length = 1 := by
    let published := World.publish .sample ⟨fun _ => ⟨[]⟩, []⟩ ⟨"a"⟩ ⟨"claim", some "token"⟩ "url"
    refine ⟨published.after (publication ⟨"a"⟩ ⟨"other", none⟩) none, ?_, rfl, rfl⟩
    refine .answered _ _ [⟨"a"⟩] _ _ _ _ ⟨none, by exact ⟨rfl, rfl⟩, rfl⟩ ?_
    refine .answered _ _ () _ _ _ _ ⟨none, ⟨trivial, rfl⟩, rfl⟩ ?_
    refine .answered _ _ () _ _ _ _ ⟨none, ⟨trivial, rfl⟩, rfl⟩ ?_
    refine .answered _ _ () _ _ _ _ ⟨none, ⟨trivial, rfl⟩, rfl⟩ ?_
    refine .answered _ _ sampleClaims _ _ _ _ ⟨none, by exact ⟨fun _ => .refl _, rfl⟩, rfl⟩ ?_
    refine .answered _ _ ⟨[]⟩ _ _ _ _ ⟨none, by exact ⟨rfl, rfl⟩, rfl⟩ ?_
    refine .answered (Call.publishPublicClaim "a" (some (.string "token"))) _ none _ _ _ _
      ⟨_, ⟨"claim", "url", ⟨rfl, rfl⟩, rfl⟩, rfl⟩ ?_
    exact .refused (Call.publishPublicClaim "a" none) _ _ _ _ rfl
  obtain ⟨final, executed, attempted, succeeded⟩ := sweep
  have swept : Sweeps .sample [⟨"a"⟩] (fun _ => sampleClaims) sampleEntryId
      .sample ⟨fun _ => ⟨[]⟩, []⟩ [.error .typeError] final := .next executed (.none final)
  have issued : ∀ wallet ∈ [(⟨"a"⟩ : Wallet)], ∀ claim ∈ sampleClaims, ∀ id,
      sampleEntryId wallet.privateKey (Asset.claimToken claim) id → id = claim.id := by
    rintro _ _ claim member id ⟨given, rfl⟩
    rcases List.mem_cons.mp member with rfl | last
    · rfl
    · obtain rfl := List.mem_singleton.mp last
      cases given
  have resumable := sweeps_resumable .sample [⟨"a"⟩] (fun _ => sampleClaims) sampleEntryId
    (fun _ _ => by decide) issued .sample _ _ final swept
  exact ⟨final, swept, attempted, succeeded, resumable.1, resumable.2.1⟩

end Sample

end EvDashboard.Sweep
