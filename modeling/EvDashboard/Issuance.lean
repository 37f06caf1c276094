import EvDashboard.Async.Execution
import EvDashboard.Hydrator
import EvDashboard.KeyManager

/-!
# Claims in DID documents

A claim is saved before the document points to it, and both parties act before it is
saved. So whatever step fails, an entry never points to nothing: the last step is the
only one that touches a document, and all that an entry relies on is there before it.

The world records what was requested and issued, and by whom, apart from what the store
and the documents hold. Records only grow, and the store keeps what it returned a URL
for, so a claim that is backed once is backed from then on.
-/

namespace EvDashboard.Issuance

open Async JavaScript

/-- A token, with the document it was requested for and what it claims. -/
structure Request where
  document : DIDDocumentFull
  claimData : Json
  token : String

/-- An issued token, with the document of the issuer and what was requested. -/
structure Issue where
  document : DIDDocumentFull
  token : String
  issuedToken : String

/-- The service entries of each DID's document; what the store holds, and the URLs it
returned; the ids handed out; and the tokens requested and issued. -/
structure World where
  documents : String → List ServicePoint
  store : String → Option String
  returned : List String
  used : List String
  requested : List Request
  issued : List Issue

/-- An entry at the end of one document. -/
def appendTo (documents : String → List ServicePoint) (did : String) (entry : ServicePoint) :
    String → List ServicePoint :=
  fun other => if other = did then documents did ++ [entry] else documents other

/-- An id that was not handed out and that no entry has. -/
def Unused (world : World) (id : String) : Prop :=
  id ∉ world.used ∧ ∀ did, ∀ entry ∈ world.documents did, entry.id ≠ id

/-- How a step ends. Any step may fail. The store may change at any time, also behind a
failed `save`, but not under a URL it returned. -/
def served (table : KeyManager.Table) : Service DidCall DidCall.Answer Exception World :=
  fun world call outcome next =>
    ∃ store, (∀ url ∈ world.returned, store url = world.store url) ∧
      match call, outcome with
      | .getSignerForDID did, .ok found =>
        found = KeyManager.getSignerForDID table did ∧ next = { world with store := store }
      | .createPublicClaim document claimData, .ok token =>
        next = { world with
          store := store, requested := world.requested ++ [⟨document, claimData, token⟩] }
      | .issuePublicClaim document token, .ok issuedToken =>
        next = { world with
          store := store, issued := world.issued ++ [⟨document, token, issuedToken⟩] }
      | .save _ claim, .ok url =>
        store url = some claim ∧
          next = { world with store := store, returned := world.returned ++ [url] }
      | .uuid, .ok id =>
        Unused world id ∧ next = { world with store := store, used := world.used ++ [id] }
      | .updateServicePoint document value, .ok _ =>
        next = { world with
          store := store, documents := appendTo world.documents document.did value }
      | _, _ => next = { world with store := store }

/-- Documents and records grow, and what was stored under a returned URL stays. -/
structure Extends (world next : World) : Prop where
  documents : ∀ did, world.documents did <+: next.documents did
  stored : ∀ url ∈ world.returned, next.store url = world.store url
  returned : world.returned <+: next.returned
  used : world.used <+: next.used
  requested : world.requested <+: next.requested
  issued : world.issued <+: next.issued

theorem Extends.refl (world : World) : Extends world world :=
  ⟨fun _ => List.prefix_refl _, fun _ _ => rfl, List.prefix_refl _, List.prefix_refl _,
    List.prefix_refl _, List.prefix_refl _⟩

theorem Extends.trans {first second third : World} (early : Extends first second)
    (late : Extends second third) : Extends first third where
  documents := fun did => (early.documents did).trans (late.documents did)
  stored := fun url member =>
    (late.stored url (early.returned.subset member)).trans (early.stored url member)
  returned := early.returned.trans late.returned
  used := early.used.trans late.used
  requested := early.requested.trans late.requested
  issued := early.issued.trans late.issued

/-- An appended entry is behind what its document held. -/
theorem appendTo_prefix (documents : String → List ServicePoint) (did : String)
    (entry : ServicePoint) (other : String) :
    documents other <+: appendTo documents did entry other := by
  unfold appendTo
  split
  · rename_i same
    rw [same]
    exact List.prefix_append _ _
  · exact List.prefix_refl _

/-- A step that fails changes nothing but the store. -/
theorem served_error {table : KeyManager.Table} {world next : World} {call : DidCall}
    {error : Exception} (step : served table world call (.error error) next) :
    ∃ store, (∀ url ∈ world.returned, store url = world.store url) ∧
      next = { world with store := store } := by
  obtain ⟨store, stored, effect⟩ := step
  exact ⟨store, stored, by cases call <;> exact effect⟩

/-- Every step extends the world. -/
theorem served_extends {table : KeyManager.Table} {world next : World} {call : DidCall}
    {outcome : Except Exception call.Answer} (step : served table world call outcome next) :
    Extends world next := by
  have quiet (store : String → Option String)
      (stored : ∀ url ∈ world.returned, store url = world.store url) :
      Extends world { world with store := store } :=
    { Extends.refl world with stored := stored }
  cases outcome with
  | error error =>
    obtain ⟨store, stored, rfl⟩ := served_error step
    exact quiet store stored
  | ok answer =>
    obtain ⟨store, stored, effect⟩ := step
    replace quiet := quiet store stored
    cases call with
    | getSignerForDID did => exact effect.2 ▸ quiet
    | createPublicClaim document claimData =>
      obtain rfl := effect
      exact { quiet with requested := List.prefix_append _ _ }
    | issuePublicClaim document token =>
      obtain rfl := effect
      exact { quiet with issued := List.prefix_append _ _ }
    | save target claim =>
      obtain ⟨_, rfl⟩ := effect
      exact { quiet with returned := List.prefix_append _ _ }
    | uuid =>
      obtain ⟨_, rfl⟩ := effect
      exact { quiet with used := List.prefix_append _ _ }
    | updateServicePoint document value =>
      obtain rfl := effect
      exact { quiet with documents := appendTo_prefix _ _ _ }
    | _ => exact (show next = { world with store := store } from effect) ▸ quiet

/-- A step that fails changes no document. -/
theorem served_failed {table : KeyManager.Table} {world next : World} {call : DidCall}
    {error : Exception} (step : served table world call (.error error) next) :
    next.documents = world.documents := by
  obtain ⟨store, _, rfl⟩ := served_error step
  rfl

/-- What is unused later was unused before. -/
theorem Extends.unused {world next : World} (grown : Extends world next) {id : String}
    (unused : Unused next id) : Unused world id :=
  ⟨fun member => unused.1 (grown.used.subset member),
    fun did entry member => unused.2 did entry ((grown.documents did).subset member)⟩

variable (library : DidLibrary) (hydrator : DID)

/-- What an entry in the document of a DID stands for. The store holds a token with the
entry's hash under the entry's URL; the operator issued it, for a token that was
requested with the key of the DID. -/
def Backed (world : World) (did : String) (claimData : Json) (entry : ServicePoint) : Prop :=
  ∃ signer token issuedToken,
    entry.serviceEndpoint ∈ world.returned ∧
    world.store entry.serviceEndpoint = some issuedToken ∧
    entry.hash = library.sha256 issuedToken ∧
    Did.keyPairDID library.ethers signer = did ∧
    ⟨hydrator.documentOf did signer, claimData, token⟩ ∈ world.requested ∧
    ⟨hydrator.issuingDocument library.ethers, token, issuedToken⟩ ∈ world.issued

/-- The documents are those of the start, with backed entries behind them. -/
def Intact (start world : World) : Prop :=
  ∀ did, ∃ added, world.documents did = start.documents did ++ added ∧
    ∀ entry ∈ added, ∃ claimData, Backed library hydrator world did claimData entry

/-- A call that rejects leaves the documents as they were. A call that resolves adds one
entry, with a new id and backed by the claim asked for, to the document of its DID. -/
def Settled (did : String) (claimData : Json) (before : World) (outcome : Except Exception Unit)
    (after : World) : Prop :=
  match outcome with
  | .error _ => after.documents = before.documents
  | .ok _ => ∃ entry, Unused before entry.id ∧
      after.documents = appendTo before.documents did entry ∧
      Backed library hydrator after did claimData entry

variable {library hydrator}

/-- A backed entry stays backed. -/
theorem Backed.extends {world next : World} {did : String} {claimData : Json}
    {entry : ServicePoint} (backed : Backed library hydrator world did claimData entry)
    (grown : Extends world next) : Backed library hydrator next did claimData entry := by
  obtain ⟨signer, token, issuedToken, returned, held, hash, key, requested, issued⟩ := backed
  exact ⟨signer, token, issuedToken, grown.returned.subset returned,
    (grown.stored _ returned).trans held, hash, key, grown.requested.subset requested,
    grown.issued.subset issued⟩

/-- Backed entries stay backed together. -/
theorem backed_extends {world next : World} {did : String} {added : List ServicePoint}
    (backed : ∀ entry ∈ added, ∃ claimData, Backed library hydrator world did claimData entry)
    (grown : Extends world next) :
    ∀ entry ∈ added, ∃ claimData, Backed library hydrator next did claimData entry := by
  intro entry member
  obtain ⟨claimData, before⟩ := backed entry member
  exact ⟨claimData, before.extends grown⟩

/-- The invariant is kept while no document changes. -/
theorem Intact.extends {start world next : World} (intact : Intact library hydrator start world)
    (grown : Extends world next) (same : next.documents = world.documents) :
    Intact library hydrator start next := by
  intro did
  obtain ⟨added, split, backed⟩ := intact did
  exact ⟨added, by rw [same, split], backed_extends backed grown⟩

/-- The invariant is kept when a backed entry is appended. -/
theorem Intact.append {start world next : World} {subject : String} {claimData : Json}
    {entry : ServicePoint} (intact : Intact library hydrator start world)
    (grown : Extends world next) (same : next.documents = appendTo world.documents subject entry)
    (fresh : Backed library hydrator next subject claimData entry) :
    Intact library hydrator start next := by
  intro did
  obtain ⟨added, split, backed⟩ := intact did
  have kept := backed_extends backed grown
  rw [same]
  by_cases own : did = subject
  · subst own
    refine ⟨added ++ [entry], by rw [appendTo, if_pos rfl, split, List.append_assoc], ?_⟩
    intro other member
    rcases List.mem_append.mp member with earlier | last
    · exact kept other earlier
    · obtain rfl := List.mem_singleton.mp last
      exact ⟨claimData, fresh⟩
  · exact ⟨added, by rw [appendTo, if_neg own, split], kept⟩

/-- A call that is cut off before its last step settles as it should. -/
theorem settled_failed {table : KeyManager.Table} {did : String} {claimData : Json}
    {world middle next : World} {call : DidCall} {error : Exception}
    (grown : Extends world middle) (same : middle.documents = world.documents)
    (step : served table middle call (.error error) next) :
    Extends world next ∧ Settled library hydrator did claimData world (.error error) next :=
  ⟨grown.trans (served_extends step), (served_failed step).trans same⟩

/-- One call settles as it should, whichever of its steps fails. -/
theorem addClaim_settles {table : KeyManager.Table}
    (agree : KeyManager.RowsAgree library.ethers table) (did : String) (claimData : Json)
    (world : World) :
    (hydrator.addClaim library did claimData).Ensures (served table)
      (fun outcome final => Extends world final ∧
        Settled library hydrator did claimData world outcome final) world := by
  unfold DID.addClaim
  cases hydrator.didStore with
  | none => exact ⟨Extends.refl world, rfl⟩
  | some target =>
    -- Up to the last step the documents of the world are those at the start, by definition.
    refine ⟨?_, fun error next step => settled_failed (Extends.refl world) rfl step⟩
    intro found first looked
    have one : Extends world first := served_extends looked
    obtain ⟨storeOne, _, located, rfl⟩ := looked
    cases found with
    | none => exact ⟨one, rfl⟩
    | some signer =>
      refine ⟨?_, fun error next step => settled_failed one rfl step⟩
      intro token second asked
      have two := one.trans (served_extends asked)
      obtain ⟨storeTwo, _, rfl⟩ := asked
      refine ⟨?_, fun error next step => settled_failed two rfl step⟩
      intro issuedToken third given
      have three := two.trans (served_extends given)
      obtain ⟨storeThree, _, rfl⟩ := given
      refine ⟨?_, fun error next step => settled_failed three rfl step⟩
      intro url fourth saved
      have four := three.trans (served_extends saved)
      obtain ⟨storeFour, _, held, rfl⟩ := saved
      refine ⟨?_, fun error next step => settled_failed four rfl step⟩
      intro id fifth drawn
      have five := four.trans (served_extends drawn)
      obtain ⟨storeFive, keptFive, unused, rfl⟩ := drawn
      refine ⟨?_, fun error next step => settled_failed five rfl step⟩
      intro updated last appended
      have six := five.trans (served_extends appended)
      obtain ⟨storeSix, keptSix, rfl⟩ := appended
      refine ⟨six, ⟨id, url, library.sha256 issuedToken, "SHA256"⟩, four.unused unused, rfl, ?_⟩
      have member : url ∈ world.returned ++ [url] :=
        List.mem_append_right _ (List.mem_singleton_self url)
      have key : Did.keyPairDID library.ethers signer = did :=
        (agree.getSignerForDID library.ethers located.symm).2
      exact ⟨signer, token, issuedToken, member,
        (keptSix url member).trans ((keptFive url member).trans held), rfl, key,
        List.mem_append_right _ (List.mem_singleton_self _),
        List.mem_append_right _ (List.mem_singleton_self _)⟩

/-- What one call does to the documents, it does whatever it started from. -/
theorem addClaim_keeps {table : KeyManager.Table}
    (agree : KeyManager.RowsAgree library.ethers table) {did : String} {claimData : Json}
    {start world final : World} {outcome : Except Exception Unit}
    (intact : Intact library hydrator start world)
    (executed : (hydrator.addClaim library did claimData).Executes (served table) world outcome
      final) :
    Intact library hydrator start final ∧
      Settled library hydrator did claimData world outcome final := by
  obtain ⟨grown, settled⟩ := (addClaim_settles agree did claimData world).sound executed
  refine ⟨?_, settled⟩
  cases outcome with
  | error error => exact intact.extends grown settled
  | ok value =>
    obtain ⟨entry, _, same, backed⟩ := settled
    exact intact.append grown same backed

variable (library hydrator)

/-- The worlds between the calls of any finite sequence, each call ending in any way. -/
inductive AfterCalls (table : KeyManager.Table) (start : World) : World → Prop where
  | start : AfterCalls table start start
  | called (did : String) (claimData : Json) (world final : World)
      (outcome : Except Exception Unit) (earlier : AfterCalls table start world)
      (executed : (hydrator.addClaim library did claimData).Executes (served table) world outcome
        final) :
      AfterCalls table start final

variable {library hydrator}

/-- The invariant holds between any two calls. -/
theorem AfterCalls.intact {table : KeyManager.Table}
    (agree : KeyManager.RowsAgree library.ethers table) {start world : World}
    (calls : AfterCalls library hydrator table start world) :
    Intact library hydrator start world := by
  induction calls with
  | start => exact fun did => ⟨[], (List.append_nil _).symm, fun _ member => nomatch member⟩
  | called did claimData world final outcome earlier executed inductionHypothesis =>
    exact (addClaim_keeps agree inductionHypothesis executed).1

/-- Entries never dangle, and failed calls leave the documents alone. After any sequence
of calls, and in every world the next call passes through, the entries added to a
document are backed; and the call settles by adding one entry to its own document, or by
rejecting with all documents as they were.

A world that is passed through is one in which the call might have been cut off, so it is
enough to look at the ends of calls. Each call is followed step by step: nothing but its
last step touches a document, and what that step writes is backed by the steps before. -/
theorem issuance_intact (library : DidLibrary) (hydrator : DID) (table : KeyManager.Table)
    (history : KeyManager.History)
    (reached : KeyManager.Reached library.ethers (some table) history) (start world : World)
    (calls : AfterCalls library hydrator table start world) (did : String) (claimData : Json) :
    (∀ visited, (hydrator.addClaim library did claimData).Visits (served table) world visited →
      Intact library hydrator start visited) ∧
    (∀ outcome final,
      (hydrator.addClaim library did claimData).Executes (served table) world outcome final →
        Settled library hydrator did claimData world outcome final) := by
  have agree : KeyManager.RowsAgree library.ethers table := reached.records.rowsAgree
  have intact : Intact library hydrator start world := calls.intact agree
  constructor
  · intro visited passed
    have refuses (before : World) (call : DidCall) :
        ∃ error, served table before call (.error error) before :=
      ⟨.typeError, before.store, fun _ _ => rfl, by cases call <;> rfl⟩
    obtain ⟨outcome, executed⟩ := passed.executes refuses
    exact (addClaim_keeps agree intact executed).1
  · intro outcome final executed
    exact (addClaim_keeps agree intact executed).2

section Sample

/-- A store with one generated key. -/
def sampleTable : KeyManager.Table :=
  (KeyManager.generateKeyPair .sample ⟨"a"⟩ (KeyManager.openDatabase none)).2

/-- The DID of the key. -/
def sampleDevice : String := Did.keyPairDID .sample ⟨"a"⟩

def sampleHydrator : DID :=
  .new "ab" "http://localhost:8544" (some ⟨"https://ipfs.infura.io:5001/api/v0/"⟩) none

/-- Nothing is stored, and all documents are empty. -/
def emptyWorld : World := ⟨fun _ => [], fun _ => none, [], [], [], []⟩

/-- The entry of the first claim. -/
def sampleEntry : ServicePoint :=
  ⟨"first", "ipfs", DidLibrary.sample.sha256 "issued", "SHA256"⟩

/-- The world after the first claim. -/
def claimedWorld : World where
  documents := appendTo (fun _ => []) sampleDevice sampleEntry
  store := fun url => if url = "ipfs" then some "issued" else none
  returned := ["ipfs"]
  used := ["first"]
  requested := [⟨sampleHydrator.documentOf sampleDevice ⟨"a"⟩, .null, "token"⟩]
  issued := [⟨sampleHydrator.issuingDocument .sample, "token", "issued"⟩]

/-- A call adds a claim to an empty document, which is intact afterwards. -/
theorem first_claim_intact :
    (sampleHydrator.addClaim .sample sampleDevice .null).Executes (served sampleTable) emptyWorld
        (.ok ()) claimedWorld ∧
      Intact .sample sampleHydrator emptyWorld claimedWorld ∧
      claimedWorld.documents sampleDevice = [sampleEntry] := by
  have reached : KeyManager.Reached .sample (some sampleTable) _ :=
    .generated _ _ ⟨"a"⟩ (.opened _ _ .fresh)
  have executed : (sampleHydrator.addClaim .sample sampleDevice .null).Executes
      (served sampleTable) emptyWorld (.ok ()) claimedWorld := by
    refine .answered _ _ (some ⟨"a"⟩) _ _ _ _ ⟨fun _ => none, fun _ _ => rfl, rfl, rfl⟩ ?_
    refine .answered _ _ "token" _ _ _ _ ⟨fun _ => none, fun _ _ => rfl, rfl⟩ ?_
    refine .answered _ _ "issued" _ _ _ _ ⟨fun _ => none, fun _ _ => rfl, rfl⟩ ?_
    refine .answered _ _ "ipfs" _ _ _ _
      ⟨claimedWorld.store, fun _ member => absurd member List.not_mem_nil, rfl, rfl⟩ ?_
    refine .answered _ _ "first" _ _ _ _ ⟨claimedWorld.store, fun _ _ => rfl,
      ⟨List.not_mem_nil, fun _ _ member => absurd member List.not_mem_nil⟩, rfl⟩ ?_
    exact .answered _ _ () _ _ _ _ ⟨claimedWorld.store, fun _ _ => rfl, rfl⟩ (.done _ _)
  have calls := AfterCalls.called sampleDevice .null emptyWorld claimedWorld (.ok ())
    (@AfterCalls.start .sample sampleHydrator sampleTable emptyWorld) executed
  have intact := issuance_intact .sample sampleHydrator sampleTable _ reached emptyWorld
    claimedWorld calls sampleDevice .null
  exact ⟨executed, intact.1 claimedWorld (.here _ _), by decide⟩

end Sample

end EvDashboard.Issuance
