import EvDashboard.Hydrator

/-!
# The amount of a transfer

The `create-document` command takes the amount as a text, reads it as a number, scales
it to wei and hands it to the wallet library, which takes integers below `2 ^ 53` only.
The command therefore transfers small amounts exactly and refuses the others, and what
stands behind the number in the text is never looked at.
-/

namespace EvDashboard.Transfer

open Async JavaScript

/-- A transaction as it is handed to the node. Whether the sender's funds suffice for it
is the node's answer. -/
structure Transaction where
  sender : Identity
  recipient : String
  value : Nat
deriving DecidableEq

/-- The transaction a call sends. -/
def sent : DidCall → Option Transaction
  | .sendTransaction sender recipient value => some ⟨sender, recipient, value⟩
  | _ => none

/-- How each external step ends. -/
abbrev Oracle := (call : DidCall) → Except Exception call.Answer

/-- The transactions a program sends, in order. -/
def transactions {α : Type} (oracle : Oracle) (program : Hydrating α) : List Transaction :=
  (program.trace oracle).filterMap sent

/-- The other options of a `create-document` command, each of them given. -/
structure Setting where
  deviceDID : String
  didRegistryAddress : String
  operatorKey : String
  providerUrl : String
  given : deviceDID ≠ "" ∧ didRegistryAddress ≠ "" ∧ operatorKey ≠ "" ∧ providerUrl ≠ ""

/-- The options with an amount. -/
def Setting.arguments (setting : Setting) (transferAmount : String) : Arguments :=
  ⟨some setting.deviceDID, some transferAmount, some setting.didRegistryAddress,
    some setting.operatorKey, some setting.providerUrl⟩

/-- The command with an amount. -/
def Setting.command (setting : Setting) (library : DidLibrary) (transferAmount : String) :
    Hydrating Unit :=
  createDocumentCommand library (setting.arguments transferAmount)

/-- What the command is for: a numeral with at most eighteen places is transferred as
that many ether, to the wei and once; any other text is rejected and nothing is sent. -/
def Exact (setting : Setting) (library : DidLibrary) (oracle : Oracle) (recipient text : String) :
    Prop :=
  (∀ amount, Numeral 18 text amount → ∃ wei : Nat, (wei : ℚ) = amount * 10 ^ 18 ∧
    transactions oracle (setting.command library text) =
      [⟨⟨setting.operatorKey, setting.providerUrl⟩, recipient, wei⟩]) ∧
  ((¬∃ amount, Numeral 18 text amount) →
    transactions oracle (setting.command library text) = [] ∧
      ∃ error, (setting.command library text).result oracle = .error error)

/-- The texts the command handles as it should: numerals below the limit of the wallet
library, and other texts that do not begin with a number the library takes. -/
def Handled (text : String) : Prop :=
  (∀ amount, Numeral 18 text amount → amount * 10 ^ 18 < 2 ^ 53) ∧
  ((¬∃ amount, Numeral 18 text amount) →
    ∀ wei : Nat, wei < 2 ^ 53 → ¬Leads (trimStart text) (.finite (wei / 10 ^ 18)))

/-- An option that is given is returned. -/
theorem checkForArg_given {property value : String} (given : value ≠ "") :
    checkForArg property (some value) = .ok value := by
  unfold checkForArg
  split
  · rename_i missing
    cases missing
  · rename_i empty
    exact absurd (Option.some.inj empty) given
  · rename_i same
    rw [Option.some.inj same]

variable {library : DidLibrary} {oracle : Oracle} {setting : Setting}

/-- The operator's `DID` the command works with. -/
def Setting.did (setting : Setting) : DID :=
  .new setting.operatorKey setting.providerUrl (some ⟨"https://ipfs.infura.io:5001/api/v0/"⟩)
    (some setting.didRegistryAddress)

/-- With an amount given, the command creates the document. -/
theorem command_given {text : String} (given : text ≠ "") : setting.command library text =
    setting.did.createDocument library setting.deviceDID (some (parseFloat text)) := by
  obtain ⟨device, registry, operator, provider⟩ := setting.given
  simp only [Setting.command, createDocumentCommand, Setting.arguments, checkForArg_given given,
    checkForArg_given device, createDID, checkForArg_given registry, checkForArg_given operator,
    checkForArg_given provider, Program.ofExcept_ok, Program.done_bind]
  rfl

/-- The wallet library takes exactly the integers below its limit. -/
theorem bigNumberify_iff {value : ℚ} {wei : Nat} :
    library.bigNumberify (.finite value) = .ok wei ↔ value = wei ∧ wei < 2 ^ 53 := by
  unfold DidLibrary.bigNumberify
  constructor
  · intro taken
    dsimp only at taken
    split at taken
    · rename_i fits
      obtain ⟨integral, positive, small⟩ := fits
      cases taken
      refine ⟨?_, by omega⟩
      have whole : (value.num : ℚ) = value := Rat.den_eq_one_iff value |>.mp integral
      rw [← whole]
      exact_mod_cast (Int.toNat_of_nonneg positive).symm
    · cases taken
  · rintro ⟨rfl, small⟩
    dsimp only
    have fits : (wei : ℚ).den = 1 ∧ 0 ≤ (wei : ℚ).num ∧ (wei : ℚ).num < 2 ^ 53 := by
      rw [Rat.den_natCast, Rat.num_natCast]
      omega
    rw [if_pos fits, Rat.num_natCast, Int.toNat_natCast]

/-- A program of which no call sends a transaction. -/
def Silent {α : Type} (program : Hydrating α) : Prop :=
  program.Obeys (fun _ _ => True) (fun call => sent call = none) (fun _ => True)

theorem Silent.transactions {α : Type} {program : Hydrating α} (silent : Silent program) :
    transactions oracle program = [] := by
  rw [Transfer.transactions, List.filterMap_eq_nil_iff]
  exact Program.Obeys.trace silent (fun _ _ _ => trivial)

/-- What is sent first is all that is sent if the rest is silent. -/
theorem transactions_sent {α : Type} {call : DidCall} {transaction : Transaction}
    {resume : call.Answer → Hydrating α} (first : sent call = some transaction)
    (silent : ∀ answer, Silent (resume answer)) :
    transactions oracle (.await call resume) = [transaction] := by
  rw [transactions, Program.trace, List.filterMap_cons_some first]
  cases oracle call with
  | error error => rfl
  | ok answer => exact congrArg (transaction :: ·) (silent answer).transactions

section Command

variable {did : DID} {subject recipient : String} {signer : Wallet} {amount : Number}
  (found : oracle (.getSignerForDID subject) = .ok (some signer))
  (located : library.addressOf subject = .ok recipient)

include found

/-- Once the signer is found, the command goes on with the transfer. -/
theorem createDocument_found :
    transactions oracle (did.createDocument library subject (some amount)) =
      transactions oracle (do
        let address ← Program.ofExcept (library.addressOf subject)
        did.mint library address amount
        awaitDid (.create (did.documentOf subject signer))) ∧
    (did.createDocument library subject (some amount)).result oracle =
      Program.result oracle (do
        let address ← Program.ofExcept (library.addressOf subject)
        did.mint library address amount
        awaitDid (.create (did.documentOf subject signer))) := by
  simp only [transactions, DID.createDocument, DID.instantiateSigner, awaitDid,
    Program.call_bind, Program.pure_eq, Program.done_bind, Program.await_bind, Program.trace,
    Program.result, found, Option.getD_some, List.filterMap_cons, sent, and_self]

include located

/-- A transfer of an amount the library takes is one transaction, whatever comes of it. -/
theorem createDocument_taken {wei : Nat}
    (taken : library.bigNumberify (amount.times (10 ^ 18)) = .ok wei) :
    transactions oracle (did.createDocument library subject (some amount)) =
      [⟨did.operator, recipient, wei⟩] := by
  rw [(createDocument_found found).1]
  simp only [DID.mint, DID.sendTransaction, awaitDid, located, taken, Program.ofExcept_ok,
    Program.done_bind, Program.call_bind, Program.await_bind]
  apply transactions_sent rfl
  intro hash
  exact ⟨rfl, fun _ _ => ⟨rfl, fun _ _ => ⟨rfl, fun _ _ => trivial⟩⟩⟩

/-- A transfer of another amount ends before the transaction. -/
theorem createDocument_refused {error : Exception}
    (refused : library.bigNumberify (amount.times (10 ^ 18)) = .error error) :
    transactions oracle (did.createDocument library subject (some amount)) = [] ∧
      (did.createDocument library subject (some amount)).result oracle = .error error := by
  obtain ⟨sending, ending⟩ := createDocument_found found
  rw [sending, ending]
  simp only [DID.mint, DID.sendTransaction, located, refused, Program.ofExcept_ok,
    Program.ofExcept_error, Program.done_bind, Program.rejected_bind]
  exact ⟨rfl, rfl⟩

end Command

/-- The number the wallet library is given determines the wei, and the other way around. -/
theorem scaled_iff {value : ℚ} {wei : Nat} : value * 10 ^ 18 = wei ↔ value = wei / 10 ^ 18 := by
  rw [eq_div_iff (by norm_num)]

/-- A text that begins with a number of wei the library takes makes one transaction. -/
theorem command_taken {text recipient : String} {signer : Wallet} {wei : Nat}
    (found : oracle (.getSignerForDID setting.deviceDID) = .ok (some signer))
    (located : library.addressOf setting.deviceDID = .ok recipient)
    (leads : Leads (trimStart text) (.finite (wei / 10 ^ 18))) (small : wei < 2 ^ 53) :
    transactions oracle (setting.command library text) =
      [⟨⟨setting.operatorKey, setting.providerUrl⟩, recipient, wei⟩] := by
  have given : text ≠ "" := by
    rintro rfl
    obtain ⟨front, rest, split, literal, _⟩ := leads
    exact literal.nonempty (List.append_eq_nil_iff.mp split.symm).1
  have parsed : parseFloat text = .finite (wei / 10 ^ 18) := parseFloat_finite_iff.mpr leads
  rw [command_given given, parsed]
  exact createDocument_taken found located (bigNumberify_iff.mpr ⟨scaled_iff.mpr rfl, small⟩)

/-- Any other text is rejected, with nothing sent. -/
theorem command_refused {text recipient : String} {signer : Wallet}
    (found : oracle (.getSignerForDID setting.deviceDID) = .ok (some signer))
    (located : library.addressOf setting.deviceDID = .ok recipient)
    (strange : ∀ wei : Nat, wei < 2 ^ 53 → ¬Leads (trimStart text) (.finite (wei / 10 ^ 18))) :
    transactions oracle (setting.command library text) = [] ∧
      ∃ error, (setting.command library text).result oracle = .error error := by
  by_cases given : text = ""
  · have missing : checkForArg "transfer-amount" (some text) =
        .error (.error "transfer-amount needs to be provided") := by
      rw [given]
      rfl
    simp only [Setting.command, createDocumentCommand, Setting.arguments, missing,
      checkForArg_given setting.given.1, Program.ofExcept_ok, Program.ofExcept_error,
      Program.done_bind, Program.rejected_bind]
    exact ⟨rfl, _, rfl⟩
  · rw [command_given given]
    cases taken : library.bigNumberify ((parseFloat text).times (10 ^ 18)) with
    | error error =>
      obtain ⟨nothing, rejected⟩ := createDocument_refused found located taken
      exact ⟨nothing, error, rejected⟩
    | ok wei =>
      cases parsed : parseFloat text with
      | nan =>
        rw [parsed] at taken
        cases taken
      | infinite negative =>
        rw [parsed] at taken
        cases taken
      | finite value =>
        rw [parsed, Number.times, bigNumberify_iff, scaled_iff] at taken
        obtain ⟨rfl, small⟩ := taken
        exact absurd (parseFloat_finite_iff.mp parsed) (strange wei small)

/-- A numeral from the limit on is rejected, with nothing sent. -/
theorem command_large {text recipient : String} {signer : Wallet} {amount : ℚ}
    (found : oracle (.getSignerForDID setting.deviceDID) = .ok (some signer))
    (located : library.addressOf setting.deviceDID = .ok recipient)
    (numeral : Numeral 18 text amount) (large : 2 ^ 53 ≤ amount * 10 ^ 18) :
    transactions oracle (setting.command library text) = [] := by
  apply (command_refused found located ?_).1
  intro wei small leads
  have same : amount = wei / 10 ^ 18 := Number.finite.inj (numeral.leads.unique leads)
  rw [scaled_iff.mpr same] at large
  exact absurd large (not_le.mpr (by exact_mod_cast small))

/-- The amount is transferred exactly, and other texts are refused, just when the text is
handled: a numeral must stay below `2 ^ 53` wei, and a text that is none must not begin
with a number that does. The device's key is in the store, and the library knows its
address; how the other external steps end is left open. -/
theorem transfer_exact_iff (library : DidLibrary) (oracle : Oracle) (setting : Setting)
    (text recipient : String) (signer : Wallet)
    (found : oracle (.getSignerForDID setting.deviceDID) = .ok (some signer))
    (located : library.addressOf setting.deviceDID = .ok recipient) :
    Exact setting library oracle recipient text ↔ Handled text := by
  constructor
  · rintro ⟨exactly, rejected⟩
    refine ⟨?_, ?_⟩
    · intro amount numeral
      by_contra large
      obtain ⟨wei, _, single⟩ := exactly amount numeral
      rw [command_large found located numeral (not_lt.mp large)] at single
      cases single
    · intro none wei small leads
      have nothing := (rejected none).1
      rw [command_taken found located leads small] at nothing
      cases nothing
  · rintro ⟨limited, strange⟩
    refine ⟨?_, ?_⟩
    · intro amount numeral
      obtain ⟨wei, scaled⟩ := numeral.scaled
      have small : wei < 2 ^ 53 := by
        have bound := limited amount numeral
        rw [← scaled] at bound
        exact_mod_cast bound
      have leads := numeral.leads
      rw [scaled_iff.mp scaled.symm] at leads
      exact ⟨wei, scaled, command_taken found located leads small⟩
    · intro none
      exact command_refused found located (strange none)

section Sample

/-- Every step succeeds. -/
def sampleOracle : Oracle
  | .getSignerForDID _ => .ok (some ⟨"a"⟩)
  | .sendTransaction _ _ _ => .ok "0x1"
  | .wait _ => .ok ()
  | .getBalance _ => .ok 0
  | .create _ => .ok ()
  | .createPublicClaim _ _ => .ok "token"
  | .issuePublicClaim _ _ => .ok "issued"
  | .save _ _ => .ok "ipfs"
  | .uuid => .ok "id"
  | .updateServicePoint _ _ => .ok ()

/-- A device on the test network. -/
def sampleSetting : Setting where
  deviceDID := "did:ethr:0x1c540B7C970F37917650e744d3627A64ac7DCc48"
  didRegistryAddress := VOLTA_DID_REGISTRY
  operatorKey := "ab"
  providerUrl := "http://localhost:8544"
  given := by decide

/-- The device's address. -/
def sampleRecipient : String := "0x1c540B7C970F37917650e744d3627A64ac7DCc48"

theorem sample_located :
    DidLibrary.sample.addressOf sampleSetting.deviceDID = .ok sampleRecipient := by
  decide

/-- Five thousandths of an ether are transferred exactly. -/
theorem five_thousandths_exact :
    Exact sampleSetting .sample sampleOracle sampleRecipient "0.005" := by
  apply (transfer_exact_iff .sample sampleOracle sampleSetting "0.005" sampleRecipient ⟨"a"⟩
    rfl sample_located).mpr
  have numeral : Numeral 18 "0.005" (1 / 200) := by
    refine ⟨['0'], ['0', '0', '5'], _, rfl, by decide, .point _ (by decide), by decide,
      by decide, ?_⟩
    have digits : digitsValue (['0'] ++ ['0', '0', '5']) = 5 := rfl
    rw [decimalValue, digits]
    norm_num
  refine ⟨?_, fun none => absurd ⟨_, numeral⟩ none⟩
  intro amount other
  rw [Number.finite.inj (other.leads.unique numeral.leads)]
  norm_num

/-- One hundredth of an ether is refused: it is `10 ^ 16` wei. -/
theorem one_hundredth_refused :
    ¬Exact sampleSetting .sample sampleOracle sampleRecipient "0.01" := by
  intro exactly
  have numeral : Numeral 18 "0.01" (1 / 100) := by
    refine ⟨['0'], ['0', '1'], _, rfl, by decide, .point _ (by decide), by decide,
      by decide, ?_⟩
    have digits : digitsValue (['0'] ++ ['0', '1']) = 1 := rfl
    rw [decimalValue, digits]
    norm_num
  obtain ⟨wei, _, single⟩ := exactly.1 _ numeral
  have found : sampleOracle (.getSignerForDID sampleSetting.deviceDID) = .ok (some ⟨"a"⟩) := rfl
  rw [command_large found sample_located numeral (by norm_num)] at single
  cases single

end Sample

end EvDashboard.Transfer
