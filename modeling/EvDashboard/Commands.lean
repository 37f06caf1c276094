import EvDashboard.EvRegistry
import EvDashboard.KeyManager
import EvDashboard.Transfer

/-!
# The command line

Every command reads its options, and most of them end the process if one is missing or
empty. They read all of them before they call anything. So a command either does nothing
outside the process, or it is the call of the library that it stands for.
-/

namespace EvDashboard

open Async JavaScript

/-- The options of the command line. -/
structure Options extends Arguments where
  evRegistryAddress : Option String
  deviceAddress : Option String
  deviceUID : Option String
  dataEndpoint : Option String
deriving DecidableEq

/-- The address and the provider only say where the contract is. -/
def createEvRegistry (options : Options) : Except Exception EvRegistry := do
  let operatorKey ← checkForArg "operator-key" options.operatorKey
  let _ ← checkForArg "ev-registry-address" options.evRegistryAddress
  let _ ← checkForArg "provider-url" options.providerUrl
  pure ⟨operatorKey⟩

/-- The `add-user` command. -/
def addUserCommand (crypto : Crypto) (options : Options) : OnChain Unit := do
  let evRegistry ← Program.ofExcept (createEvRegistry options)
  evRegistry.addUser crypto

/-- The `add-device` command. -/
def addDeviceCommand (crypto : Crypto) (options : Options) : OnChain Unit := do
  let deviceAddress ← Program.ofExcept (checkForArg "device-address" options.deviceAddress)
  let deviceUID ← Program.ofExcept (checkForArg "device-uid" options.deviceUID)
  let evRegistry ← Program.ofExcept (createEvRegistry options)
  evRegistry.addDevice crypto deviceAddress deviceUID

/-- The `generate-key` command. -/
def generateKeyCommand (ethers : Ethers) (wallet : Wallet) (file : Option KeyManager.Table) :
    String × KeyManager.Table :=
  KeyManager.generateKeyPair ethers wallet (KeyManager.openDatabase file)

/-- What `add-claim` claims. -/
def endpointClaim (dataEndpoint : String) : Json :=
  .object [("endpoint", .string dataEndpoint)]

/-- The `add-claim` command. -/
def addClaimCommand (library : DidLibrary) (options : Options) : Hydrating Unit := do
  let deviceDID ← Program.ofExcept (checkForArg "device-did" options.deviceDID)
  let dataEndpoint ← Program.ofExcept (checkForArg "data-endpoint" options.dataEndpoint)
  let did ← Program.ofExcept (createDID options.toArguments)
  did.addClaim library deviceDID (endpointClaim dataEndpoint)

namespace Commands

variable {Op : Type} {Answer : Op → Type} {α : Type}

/-- An option is missing or empty, or it is returned. -/
theorem checkForArg_cases (property : String) (value : Option String) :
    checkForArg property value = .error (.error (property ++ " needs to be provided")) ∨
      ∃ text, text ≠ "" ∧ value = some text ∧ checkForArg property value = .ok text := by
  unfold checkForArg
  split
  · exact Or.inl rfl
  · exact Or.inl rfl
  · rename_i text given
    exact Or.inr ⟨text, fun empty => given (by rw [empty]), rfl, rfl⟩

/-- A program that reads an option first is rejected, or goes on with it. -/
theorem option_cases (property : String) (value : Option String)
    (next : String → Program Op Answer Exception α) :
    (∃ error, (Program.ofExcept (checkForArg property value) >>= next) = .rejected error) ∨
      ∃ text, text ≠ "" ∧ value = some text ∧
        (Program.ofExcept (checkForArg property value) >>= next) = next text := by
  rcases checkForArg_cases property value with missing | ⟨text, given, rfl, taken⟩
  · exact Or.inl ⟨_, by rw [missing]; rfl⟩
  · exact Or.inr ⟨text, given, rfl, by rw [taken]; rfl⟩

/-- The same for the three options of the documents. -/
theorem createDID_cases (arguments : Arguments) (next : DID → Program Op Answer Exception α) :
    (∃ error, (Program.ofExcept (createDID arguments) >>= next) = .rejected error) ∨
      ∃ registry operator provider, registry ≠ "" ∧ operator ≠ "" ∧ provider ≠ "" ∧
        arguments.didRegistryAddress = some registry ∧ arguments.operatorKey = some operator ∧
        arguments.providerUrl = some provider ∧
        (Program.ofExcept (createDID arguments) >>= next) = next (.new operator provider
          (some ⟨"https://ipfs.infura.io:5001/api/v0/"⟩) (some registry)) := by
  unfold createDID
  rcases checkForArg_cases "did-registry-address" arguments.didRegistryAddress with
    missing | ⟨registry, registryGiven, registryIs, registryTaken⟩
  · exact Or.inl ⟨_, by rw [missing]; rfl⟩
  rcases checkForArg_cases "operator-key" arguments.operatorKey with
    missing | ⟨operator, operatorGiven, operatorIs, operatorTaken⟩
  · exact Or.inl ⟨_, by rw [registryTaken, missing]; rfl⟩
  rcases checkForArg_cases "provider-url" arguments.providerUrl with
    missing | ⟨provider, providerGiven, providerIs, providerTaken⟩
  · exact Or.inl ⟨_, by rw [registryTaken, operatorTaken, missing]; rfl⟩
  exact Or.inr ⟨registry, operator, provider, registryGiven, operatorGiven, providerGiven,
    registryIs, operatorIs, providerIs, by rw [registryTaken, operatorTaken, providerTaken]; rfl⟩

/-- And for the three of the registry. -/
theorem createEvRegistry_cases (options : Options)
    (next : EvRegistry → Program Op Answer Exception α) :
    (∃ error, (Program.ofExcept (createEvRegistry options) >>= next) = .rejected error) ∨
      ∃ operator, operator ≠ "" ∧ options.operatorKey = some operator ∧
        (Program.ofExcept (createEvRegistry options) >>= next) = next ⟨operator⟩ := by
  unfold createEvRegistry
  rcases checkForArg_cases "operator-key" options.operatorKey with
    missing | ⟨operator, operatorGiven, operatorIs, operatorTaken⟩
  · exact Or.inl ⟨_, by rw [missing]; rfl⟩
  rcases checkForArg_cases "ev-registry-address" options.evRegistryAddress with
    missing | ⟨address, _, _, addressTaken⟩
  · exact Or.inl ⟨_, by rw [operatorTaken, missing]; rfl⟩
  rcases checkForArg_cases "provider-url" options.providerUrl with
    missing | ⟨provider, _, _, providerTaken⟩
  · exact Or.inl ⟨_, by rw [operatorTaken, addressTaken, missing]; rfl⟩
  exact Or.inr ⟨operator, operatorGiven, operatorIs,
    by rw [operatorTaken, addressTaken, providerTaken]; rfl⟩

/-- `create-document` lacks an option, or it has all of them. -/
theorem createDocument_cases (library : DidLibrary) (arguments : Arguments) :
    (∃ error, createDocumentCommand library arguments = .rejected error) ∨
      ∃ setting text, text ≠ "" ∧ arguments = Transfer.Setting.arguments setting text := by
  unfold createDocumentCommand
  rcases option_cases "device-did" arguments.deviceDID _ with
    refused | ⟨device, deviceGiven, deviceIs, goes⟩
  · exact Or.inl refused
  rw [goes]
  rcases option_cases "transfer-amount" arguments.transferAmount _ with
    refused | ⟨text, given, textIs, goes⟩
  · exact Or.inl refused
  rw [goes]
  rcases createDID_cases arguments _ with
    refused | ⟨registry, operator, provider, registryGiven, operatorGiven, providerGiven,
      registryIs, operatorIs, providerIs, _⟩
  · exact Or.inl refused
  refine Or.inr ⟨⟨device, registry, operator, provider,
    deviceGiven, registryGiven, operatorGiven, providerGiven⟩, text, given, ?_⟩
  rw [Transfer.Setting.arguments, ← deviceIs, ← textIs, ← registryIs, ← operatorIs, ← providerIs]

/-- `add-claim` lacks an option, or it claims the endpoint for the device. -/
theorem addClaim_cases (library : DidLibrary) (options : Options) :
    (∃ error, addClaimCommand library options = .rejected error) ∨
      ∃ hydrator device endpoint, options.deviceDID = some device ∧
        options.dataEndpoint = some endpoint ∧
        some hydrator.operatorKey = options.operatorKey ∧
        addClaimCommand library options =
          DID.addClaim library hydrator device (endpointClaim endpoint) := by
  unfold addClaimCommand
  rcases option_cases "device-did" options.deviceDID _ with refused | ⟨device, _, deviceIs, goes⟩
  · exact Or.inl refused
  rw [goes]
  rcases option_cases "data-endpoint" options.dataEndpoint _ with
    refused | ⟨endpoint, _, endpointIs, goes⟩
  · exact Or.inl refused
  rw [goes]
  rcases createDID_cases options.toArguments _ with
    refused | ⟨registry, operator, provider, _, _, _, _, operatorIs, _, goes⟩
  · exact Or.inl refused
  exact Or.inr ⟨.new operator provider _ (some registry), device, endpoint, deviceIs, endpointIs,
    operatorIs.symm, goes⟩

/-- `add-user` lacks an option, or it adds the operator. -/
theorem addUser_cases (crypto : Crypto) (options : Options) :
    (∃ error, addUserCommand crypto options = .rejected error) ∨
      ∃ operator, options.operatorKey = some operator ∧
        addUserCommand crypto options = EvRegistry.addUser ⟨operator⟩ crypto := by
  rcases createEvRegistry_cases options (fun evRegistry => evRegistry.addUser crypto) with
    refused | ⟨operator, _, operatorIs, goes⟩
  · exact Or.inl refused
  · exact Or.inr ⟨operator, operatorIs, goes⟩

/-- `add-device` lacks an option, or it registers the device for the operator. -/
theorem addDevice_cases (crypto : Crypto) (options : Options) :
    (∃ error, addDeviceCommand crypto options = .rejected error) ∨
      ∃ operator address uid, options.operatorKey = some operator ∧
        options.deviceAddress = some address ∧ options.deviceUID = some uid ∧
        addDeviceCommand crypto options = EvRegistry.addDevice ⟨operator⟩ crypto address uid := by
  unfold addDeviceCommand
  rcases option_cases "device-address" options.deviceAddress _ with
    refused | ⟨address, _, addressIs, goes⟩
  · exact Or.inl refused
  rw [goes]
  rcases option_cases "device-uid" options.deviceUID _ with refused | ⟨uid, _, uidIs, goes⟩
  · exact Or.inl refused
  rw [goes]
  rcases createEvRegistry_cases options _ with refused | ⟨operator, _, operatorIs, goes⟩
  · exact Or.inl refused
  exact Or.inr ⟨operator, address, uid, operatorIs, addressIs, uidIs, goes⟩

/-- The `generate-key` command adds its key to what the store has recorded. -/
theorem generateKey_reached {ethers : Ethers} {file : Option KeyManager.Table}
    {history : KeyManager.History} (reached : KeyManager.Reached ethers file history)
    (wallet : Wallet) :
    KeyManager.Reached ethers (some (generateKeyCommand ethers wallet file).2)
      (history ++ [((generateKeyCommand ethers wallet file).1, wallet)]) :=
  .generated _ _ wallet (.opened _ _ reached)

end Commands

end EvDashboard
