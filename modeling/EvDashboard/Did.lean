import EvDashboard.Ethers
import EvDashboard.JavaScript.Runtime

/-!
# The three spellings of an asset's DID

A stored key pair carries `did:ethr:<address>`. The startup sweep addresses the
cache server with `did:ethr:volta:<address>`. The message handlers take the
fourth colon-separated segment of a message's DID and put `did:ethr:` in front
of it. These functions occur in different places of the source; the lemmas here
are what makes them agree.
-/

namespace EvDashboard.Did

open JavaScript

variable (ethers : Ethers)

/-- The DID stored with a generated key pair. -/
def keyPairDID (wallet : Wallet) : String := "did:ethr:" ++ wallet.address ethers

/-- The DID the startup sweep builds for a wallet. -/
def sweepDID (wallet : Wallet) : String := "did:ethr:volta:" ++ wallet.address ethers

/-- The fourth colon-separated segment; a missing one reads `undefined`. -/
def fourthSegment (voltaAssetDID : String) : String := element (splitText voltaAssetDID ':') 3

/-- The message handlers' translation of a message's DID. -/
def assetDID (voltaAssetDID : String) : String := "did:ethr:" ++ fourthSegment voltaAssetDID

/-- Behind a method and a network, the fourth segment is the rest. -/
theorem fourthSegment_network {address : String} (free : ':' ∉ address.toList) :
    fourthSegment ("did:ethr:volta:" ++ address) = address := by
  have spelled : "did:ethr:volta:" ++ address =
      "did" ++ (String.singleton ':' ++ ("ethr" ++ (String.singleton ':' ++
        ("volta" ++ (String.singleton ':' ++ address))))) := by
    simp only [← String.append_assoc]
    rfl
  rw [fourthSegment, spelled, splitText_cons _ _ _ (by decide), splitText_cons _ _ _ (by decide),
    splitText_cons _ _ _ (by decide), splitText_single _ _ free]
  rfl

/-- Without a network there is no fourth segment. -/
theorem fourthSegment_plain {address : String} (free : ':' ∉ address.toList) :
    fourthSegment ("did:ethr:" ++ address) = "undefined" := by
  have spelled : "did:ethr:" ++ address =
      "did" ++ (String.singleton ':' ++ ("ethr" ++ (String.singleton ':' ++ address))) := by
    simp only [← String.append_assoc]
    rfl
  rw [fourthSegment, spelled, splitText_cons _ _ _ (by decide), splitText_cons _ _ _ (by decide),
    splitText_single _ _ free]
  rfl

/-- The fourth segment of a sweep DID is the checksummed address itself. -/
theorem fourthSegment_sweepDID (wallet : Wallet) :
    fourthSegment (sweepDID ethers wallet) = wallet.address ethers :=
  fourthSegment_network (ethers.checksum_no_colon _)

/-- The listener translates a sweep DID to the stored one. -/
theorem assetDID_sweepDID (wallet : Wallet) :
    assetDID (sweepDID ethers wallet) = keyPairDID ethers wallet := by
  rw [assetDID, fourthSegment_sweepDID, keyPairDID]

/-- A stored DID determines the address in it, and the other way around. -/
theorem keyPairDID_eq_iff (wallet : Wallet) (segment : String) :
    keyPairDID ethers wallet = "did:ethr:" ++ segment ↔ wallet.address ethers = segment :=
  String.append_right_inj _

end EvDashboard.Did
