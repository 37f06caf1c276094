import EvDashboard.Did

/-!
# The key store

The store is one table of a database file. Opening it creates the table when it
is missing and changes nothing otherwise; generating a key pair appends one row
with a fresh integer id. No column but the id is unique. Lookups compare the
stored DID text exactly and take the first matching row in id order.

The coherence law covers every database reached by opening and generating, in
any order and through any number of instances on the same file: rows agree with
the addresses of their keys, and lookups, the listing and the two spellings of a
DID used elsewhere lead to the wallets that were generated.
-/

namespace EvDashboard.KeyManager

/-- A row of `dids (id INTEGER PRIMARY KEY, did TEXT, private_key TEXT)`. -/
structure Row where
  id : Nat
  did : String
  privateKey : String
deriving DecidableEq

/-- The rows in id order. -/
abbrev Table := List Row

/-- `IKeyPair`: what the store exchanges with its callers. -/
structure KeyPair where
  did : String
  privateKey : String
deriving DecidableEq

/-- `new KeyManager(name)`: create the table if the file does not hold it yet. -/
def openDatabase (file : Option Table) : Table := file.getD []

/-- The id SQLite assigns to a new row: one more than the largest in use. -/
def nextId (table : Table) : Nat := (table.map Row.id).foldl max 0 + 1

def setKeyPair (keyPair : KeyPair) (table : Table) : Table :=
  table ++ [⟨nextId table, keyPair.did, keyPair.privateKey⟩]

def getKeyPair (table : Table) (did : String) : Option KeyPair :=
  (table.find? (fun row => row.did = did)).map (fun row => ⟨row.did, row.privateKey⟩)

def getAllKeyPairs (table : Table) : List KeyPair :=
  table.map (fun row => ⟨row.did, row.privateKey⟩)

/-- Store the key pair of a random wallet and return its DID. -/
def generateKeyPair (ethers : Ethers) (wallet : Wallet) (table : Table) : String × Table :=
  let did := Did.keyPairDID ethers wallet
  (did, setKeyPair ⟨did, wallet.privateKey⟩ table)

def getSignerForDID (table : Table) (did : String) : Option Wallet :=
  (getKeyPair table did).map (fun keyPair => ⟨keyPair.privateKey⟩)

def getAllSigners (table : Table) : List Wallet :=
  (getAllKeyPairs table).map (fun keyPair => ⟨keyPair.privateKey⟩)

variable (ethers : Ethers)

/-- A returned DID together with the wallet it was generated for. -/
abbrev History := List (String × Wallet)

/-- The files reached by opening instances on one file and generating key pairs
through any of them, with everything generated so far in order. An instance
exists once the file has been opened; from then on the file holds the table. -/
inductive Reached : Option Table → History → Prop where
  | fresh : Reached none []
  | opened (file : Option Table) (history : History) (earlier : Reached file history) :
      Reached (some (openDatabase file)) history
  | generated (table : Table) (history : History) (wallet : Wallet)
      (earlier : Reached (some table) history) :
      Reached (some (generateKeyPair ethers wallet table).2)
        (history ++ [((generateKeyPair ethers wallet table).1, wallet)])

/-- Every row carries the DID of its own key's address. -/
def RowsAgree (table : Table) : Prop :=
  ∀ row ∈ table, row.did = Did.keyPairDID ethers ⟨row.privateKey⟩

/-- The rows are exactly the generated pairs, in order. -/
def Records (table : Table) (history : History) : Prop :=
  table.map (fun row => (row.did, Wallet.mk row.privateKey)) = history ∧
    ∀ entry ∈ history, entry.1 = Did.keyPairDID ethers entry.2

/-- A generated pair is appended to the record. -/
theorem Records.generated {table : Table} {history : History} (wallet : Wallet)
    (records : Records ethers table history) :
    Records ethers (generateKeyPair ethers wallet table).2
      (history ++ [((generateKeyPair ethers wallet table).1, wallet)]) := by
  refine ⟨?_, ?_⟩
  · simp only [generateKeyPair, setKeyPair, List.map_append, records.1, List.map_cons, List.map_nil]
  · intro entry member
    rcases List.mem_append.mp member with earlier | last
    · exact records.2 entry earlier
    · obtain rfl := List.mem_singleton.mp last
      rfl

/-- The table of a reached file records the history, along every run. -/
theorem Reached.records {file : Option Table} {history : History}
    (reached : Reached ethers file history) : Records ethers (openDatabase file) history := by
  induction reached with
  | fresh => exact ⟨rfl, by simp⟩
  | opened file history earlier inductionHypothesis => exact inductionHypothesis
  | generated table history wallet earlier inductionHypothesis =>
    exact inductionHypothesis.generated ethers wallet

/-- Recorded rows agree with the addresses of their keys. -/
theorem Records.rowsAgree {table : Table} {history : History}
    (records : Records ethers table history) : RowsAgree ethers table := by
  intro row member
  apply records.2 (row.did, ⟨row.privateKey⟩)
  rw [← records.1]
  exact List.mem_map.mpr ⟨row, member, rfl⟩

/-- The listing returns the generated wallets in order. -/
theorem Records.getAllSigners {table : Table} {history : History}
    (records : Records ethers table history) : getAllSigners table = history.map Prod.snd := by
  simp only [KeyManager.getAllSigners, getAllKeyPairs, ← records.1, List.map_map]
  rfl

/-- A found signer is stored, and its address is spelled in the DID asked for. -/
theorem RowsAgree.getSignerForDID {table : Table} (agree : RowsAgree ethers table)
    {did : String} {wallet : Wallet} (found : getSignerForDID table did = some wallet) :
    wallet ∈ KeyManager.getAllSigners table ∧ Did.keyPairDID ethers wallet = did := by
  simp only [KeyManager.getSignerForDID, getKeyPair, Option.map_map, Option.map_eq_some_iff]
    at found
  obtain ⟨row, located, rfl⟩ := found
  have member : row ∈ table := List.mem_of_find?_eq_some located
  have spelled : row.did = did := by simpa using List.find?_some located
  refine ⟨?_, (agree row member).symm.trans spelled⟩
  simp only [KeyManager.getAllSigners, getAllKeyPairs, List.map_map]
  exact List.mem_map.mpr ⟨row, member, rfl⟩

/-- The stored spelling of a stored wallet is found, though perhaps for another
wallet at the same address. -/
theorem RowsAgree.finds {table : Table} (agree : RowsAgree ethers table) {wallet : Wallet}
    (stored : wallet ∈ KeyManager.getAllSigners table) :
    ∃ found, KeyManager.getSignerForDID table (Did.keyPairDID ethers wallet) = some found ∧
      found ∈ KeyManager.getAllSigners table ∧
      ethers.computeAddress found.privateKey = ethers.computeAddress wallet.privateKey := by
  simp only [KeyManager.getAllSigners, getAllKeyPairs, List.map_map] at stored
  obtain ⟨row, member, rfl⟩ := List.mem_map.mp stored
  have present : (table.find? (fun candidate =>
      candidate.did = Did.keyPairDID ethers ⟨row.privateKey⟩)).isSome := by
    rw [List.find?_isSome]
    exact ⟨row, member, by simpa using agree row member⟩
  obtain ⟨first, located⟩ := Option.isSome_iff_exists.mp present
  have found : KeyManager.getSignerForDID table (Did.keyPairDID ethers ⟨row.privateKey⟩) =
      some ⟨first.privateKey⟩ := by
    simp only [KeyManager.getSignerForDID, getKeyPair, located, Option.map_some]
  obtain ⟨listed, spelled⟩ := agree.getSignerForDID ethers found
  exact ⟨⟨first.privateKey⟩, found, listed,
    ethers.checksum_injective ((Did.keyPairDID_eq_iff ethers _ _).mp spelled)⟩

/-- When stored keys at one address are one key, a stored wallet is found by the
stored spelling of its DID. -/
theorem RowsAgree.finds_exactly {table : Table} (agree : RowsAgree ethers table) {wallet : Wallet}
    (stored : wallet ∈ KeyManager.getAllSigners table)
    (distinct : ∀ left ∈ KeyManager.getAllSigners table,
      ∀ right ∈ KeyManager.getAllSigners table,
      ethers.computeAddress left.privateKey = ethers.computeAddress right.privateKey →
        left = right) :
    KeyManager.getSignerForDID table (Did.keyPairDID ethers wallet) = some wallet := by
  obtain ⟨found, located, listed, same⟩ := agree.finds ethers stored
  rw [located, distinct found listed wallet stored same]

/-- The lookups of a reached store, its rows, the sweep's DIDs and the listener's
translation are coherent, when no key was generated twice and distinct generated
keys have distinct addresses.

Each row records one generated pair, which fixes the listing. The DID of a stored
wallet names its address, and addresses separate the generated keys, so the
first row under that DID is the wallet's own. The listener turns the sweep's DID
into exactly this stored DID. -/
theorem store_coherent (table : Table) (history : History)
    (reached : Reached ethers (some table) history)
    (fresh : (history.map (fun entry => entry.2.privateKey)).Nodup)
    (separate : ∀ left ∈ history, ∀ right ∈ history,
      left.2.privateKey ≠ right.2.privateKey →
        ethers.computeAddress left.2.privateKey ≠ ethers.computeAddress right.2.privateKey) :
    (∀ row ∈ table,
      row.did = "did:ethr:" ++ ethers.getChecksumAddress (ethers.computeAddress row.privateKey)) ∧
    (∀ entry ∈ history, getSignerForDID table entry.1 = some entry.2) ∧
    (getAllSigners table = history.map Prod.snd ∧ (getAllSigners table).Nodup) ∧
    (∀ wallet ∈ getAllSigners table,
      getSignerForDID table (Did.assetDID (Did.sweepDID ethers wallet)) = some wallet) := by
  have records : Records ethers table history := reached.records
  have agree : RowsAgree ethers table := records.rowsAgree
  have listed : getAllSigners table = history.map Prod.snd := records.getAllSigners
  have distinct : ∀ left ∈ getAllSigners table, ∀ right ∈ getAllSigners table,
      ethers.computeAddress left.privateKey = ethers.computeAddress right.privateKey →
        left = right := by
    rw [listed]
    intro left leftMember right rightMember same
    obtain ⟨first, firstMember, rfl⟩ := List.mem_map.mp leftMember
    obtain ⟨second, secondMember, rfl⟩ := List.mem_map.mp rightMember
    by_cases keys : first.2.privateKey = second.2.privateKey
    · exact congrArg Wallet.mk keys
    · exact absurd same (separate first firstMember second secondMember keys)
  have finds : ∀ wallet ∈ getAllSigners table,
      getSignerForDID table (Did.keyPairDID ethers wallet) = some wallet :=
    fun wallet stored => agree.finds_exactly ethers stored distinct
  refine ⟨agree, ?_, ⟨listed, ?_⟩, ?_⟩
  · intro entry member
    rw [records.2 entry member]
    exact finds entry.2 (listed ▸ List.mem_map.mpr ⟨entry, member, rfl⟩)
  · rw [listed]
    have keys : ((history.map Prod.snd).map Wallet.privateKey).Nodup := by
      rw [List.map_map]
      exact fresh
    exact (List.pairwise_map.mp keys).imp
      (fun different same => different (congrArg Wallet.privateKey same))
  · intro wallet stored
    rw [Did.assetDID_sweepDID]
    exact finds wallet stored

/-- A file opened twice, with one key pair generated before and one after. -/
def twoKeys : Table :=
  (generateKeyPair .sample ⟨"ab"⟩ (openDatabase
    (some (generateKeyPair .sample ⟨"a"⟩ (openDatabase none)).2))).2

/-- Both generated keys are listed, and the sweep's DID of the first one leads
the listener back to it. -/
theorem two_keys_coherent :
    getAllSigners twoKeys = [⟨"a"⟩, ⟨"ab"⟩] ∧
      getSignerForDID twoKeys (Did.assetDID (Did.sweepDID .sample ⟨"a"⟩)) = some ⟨"a"⟩ := by
  have coherent := store_coherent .sample twoKeys _
    (.generated _ _ ⟨"ab"⟩ (.opened _ _ (.generated _ _ ⟨"a"⟩ (.opened _ _ .fresh))))
    (by decide) (by decide)
  exact ⟨coherent.2.2.1.1, coherent.2.2.2 ⟨"a"⟩ (by decide)⟩

end EvDashboard.KeyManager
