import Std

/-!
# Addresses, their spellings and wallets

An address is forty hexadecimal digits. The wallet library writes it in
checksummed form: the letter case of each digit is taken from the Keccak hash of
the lower-case spelling. `getAddress` reads a spelling back: it accepts an
optional `0x`, and a spelling with letters of both cases only when it is the
checksummed one; or an ICAP spelling, which is in base 36 with two check digits.

The hash and the derivation of an address from a private key belong to the
wallet library and are parameters here. Whatever the hash is, a checksummed
spelling determines its address and contains no colon.
-/

namespace EvDashboard

/-- Twenty bytes, as hexadecimal digits from the most significant one. -/
structure Address where
  digits : List (Fin 16)
  size : digits.length = 40
deriving DecidableEq

namespace Address

/-- `address(0)`, the default value of the contract language. -/
def zero : Address := ⟨List.replicate 40 0, rfl⟩

/-- The address that repeats one digit. -/
def repeated (digit : Nat) : Address :=
  ⟨List.replicate 40 (Fin.ofNat 16 digit), List.length_replicate⟩

/-- Digits in pairs are bytes. -/
def packDigits : List (Fin 16) → List UInt8
  | high :: low :: rest => UInt8.ofNat (16 * high.val + low.val) :: packDigits rest
  | _ => []

/-- The twenty bytes of an address. -/
def bytes (address : Address) : List UInt8 := packDigits address.digits

theorem packDigits_length (digits : List (Fin 16)) :
    (packDigits digits).length = digits.length / 2 := by
  induction digits using packDigits.induct with
  | case1 high low rest inductionHypothesis =>
    simp only [packDigits, List.length_cons, inductionHypothesis]
    omega
  | case2 digits short =>
    cases digits with
    | nil => rfl
    | cons digit rest =>
      cases rest with
      | nil => simp [packDigits]
      | cons low rest => exact absurd rfl (short digit low rest)

/-- Digits in pairs are determined by their bytes. -/
theorem packDigits_injective {left right : List (Fin 16)} (size : left.length = right.length)
    (even : left.length % 2 = 0) (same : packDigits left = packDigits right) : left = right := by
  induction left using packDigits.induct generalizing right with
  | case1 high low rest inductionHypothesis =>
    cases right with
    | nil => cases size
    | cons otherHigh others =>
      cases others with
      | nil => simp at size
      | cons otherLow others =>
        simp only [packDigits, List.cons.injEq] at same
        simp only [List.length_cons] at size even
        have rests : rest = others := inductionHypothesis (by omega) (by omega) same.2
        have byte : (16 * high.val + low.val) % 256 =
            (16 * otherHigh.val + otherLow.val) % 256 := by
          simpa using congrArg UInt8.toNat same.1
        have highs : high = otherHigh := by omega
        have lows : low = otherLow := by omega
        rw [rests, highs, lows]
  | case2 digits short =>
    cases digits with
    | nil => exact (List.length_eq_zero_iff.mp size.symm).symm
    | cons digit rest =>
      cases rest with
      | nil => simp at even
      | cons low rest => exact absurd rfl (short digit low rest)

theorem bytes_length (address : Address) : address.bytes.length = 20 := by
  rw [bytes, packDigits_length, address.size]

/-- Distinct addresses have distinct bytes. -/
theorem bytes_injective {left right : Address} (same : left.bytes = right.bytes) :
    left = right := by
  have sizes : left.digits.length = right.digits.length := left.size.trans right.size.symm
  have digits : left.digits = right.digits :=
    packDigits_injective sizes (by rw [left.size]) same
  cases left
  cases right
  cases digits
  rfl

end Address

/-- One hexadecimal digit in lower or upper case. -/
def hexDigit (upper : Bool) (digit : Fin 16) : Char :=
  if digit.val < 10 then Char.ofNat ('0'.toNat + digit.val)
  else if upper then Char.ofNat ('A'.toNat + (digit.val - 10))
  else Char.ofNat ('a'.toNat + (digit.val - 10))

/-- The digit a character denotes in either case. -/
def hexValue (character : Char) : Option (Fin 16) :=
  if character.isDigit then some (Fin.ofNat 16 (character.toNat - '0'.toNat))
  else if 'a' ≤ character && character ≤ 'f' then
    some (Fin.ofNat 16 (character.toNat - 'a'.toNat + 10))
  else if 'A' ≤ character && character ≤ 'F' then
    some (Fin.ofNat 16 (character.toNat - 'A'.toNat + 10))
  else none

/-- Reading a written digit gives the digit back, in either case. -/
theorem hexValue_hexDigit (upper : Bool) (digit : Fin 16) :
    hexValue (hexDigit upper digit) = some digit := by
  revert digit
  cases upper <;> decide

theorem hexDigit_not_colon (upper : Bool) (digit : Fin 16) : hexDigit upper digit ≠ ':' := by
  revert digit
  cases upper <;> decide

/-- The parts of the wallet library that are not modelled. -/
structure Ethers where
  keccak256 : List UInt8 → List UInt8
  computeAddress : String → Address

namespace Ethers

/-- A small stand-in for concrete runs: the address repeats the length of the
key, and every letter of a checksum is lower case. -/
def sample : Ethers where
  keccak256 := fun _ => []
  computeAddress := fun key => ⟨List.replicate 40 (Fin.ofNat 16 key.length), List.length_replicate⟩

variable (ethers : Ethers)

/-- The lower-case digits whose bytes are hashed for the checksum. -/
def lowerDigits (address : Address) : List Char := address.digits.map (hexDigit false)

/-- Digit `index` is upper case when the hash has a nibble of at least eight there. -/
def upperAt (hashed : List UInt8) (index : Nat) : Bool :=
  let byte := hashed.getD (index / 2) 0
  if index % 2 = 0 then byte >>> 4 ≥ 8 else byte &&& 0x0f ≥ 8

/-- The digits of the checksummed spelling. -/
def checksumDigits (address : Address) : List Char :=
  let hashed := ethers.keccak256 ((lowerDigits address).map (fun digit => digit.toNat.toUInt8))
  address.digits.mapIdx (fun index digit => hexDigit (upperAt hashed index) digit)

/-- The checksummed spelling of an address. -/
def getChecksumAddress (address : Address) : String :=
  "0x" ++ String.ofList (ethers.checksumDigits address)

/-- The spelling of an address in lower case. -/
def lowerSpelling (address : Address) : String := "0x" ++ String.ofList (lowerDigits address)

/-- The spelling of an address whose digits have the given cases. -/
def spelling (address : Address) (upper : Nat → Bool) : String :=
  "0x" ++ String.ofList (address.digits.mapIdx (fun index digit => hexDigit (upper index) digit))

/-- Forty hexadecimal digits in any case, or none. -/
def readDigits (characters : List Char) : Option Address :=
  match characters.mapM hexValue with
  | some digits => if size : digits.length = 40 then some ⟨digits, size⟩ else none
  | none => none

/-- Letters of both cases occur, so that the spelling claims a checksum. -/
def mixedCase (characters : List Char) : Bool :=
  characters.any (fun character => 'a' ≤ character && character ≤ 'f') &&
    characters.any (fun character => 'A' ≤ character && character ≤ 'F')

/-- Drop the optional prefix. -/
def withoutPrefix (text : String) : List Char :=
  match text.toList with
  | '0' :: 'x' :: rest => rest
  | rest => rest

/-- The value of a base-36 digit in either case. -/
def base36Value (character : Char) : Option Nat :=
  if character.isDigit then some (character.toNat - '0'.toNat)
  else if 'a' ≤ character && character ≤ 'z' then some (character.toNat - 'a'.toNat + 10)
  else if 'A' ≤ character && character ≤ 'Z' then some (character.toNat - 'A'.toNat + 10)
  else none

/-- The remainder by 97 of base-36 digits written one after another in decimal. -/
def icapRemainder (values : List Nat) : Nat :=
  values.foldl (fun remainder value =>
    (remainder * (if value < 10 then 10 else 100) + value) % 97) 0

/-- The forty digits of a number, if it has no more. -/
def toAddress (value : Nat) : Option Address :=
  if value < Nat.pow 16 40 then
    some ⟨(List.range 40).map (fun index => Fin.ofNat 16 (value / Nat.pow 16 (39 - index))),
      by rw [List.length_map, List.length_range]⟩
  else none

/-- An ICAP spelling: `XE`, the check digits, and thirty or thirty-one digits. The
check digits are computed over the digits followed by `XE00`. -/
def readIcap (characters : List Char) : Option Address :=
  match characters with
  | 'X' :: 'E' :: tens :: ones :: rest =>
    match rest.mapM base36Value with
    | some values =>
      let check := 98 - icapRemainder (values ++ [33, 14, 0, 0])
      if (rest.length = 30 ∨ rest.length = 31) ∧ tens.isDigit ∧ ones.isDigit ∧
          10 * (tens.toNat - '0'.toNat) + (ones.toNat - '0'.toNat) = check then
        toAddress (values.foldl (fun total value => 36 * total + value) 0)
      else none
    | none => none
  | _ => none

/-- The address a spelling denotes, or none where the library throws. -/
def getAddress (text : String) : Option Address :=
  match readDigits (withoutPrefix text) with
  | some address =>
    if mixedCase (withoutPrefix text) &&
        withoutPrefix text ≠ ethers.checksumDigits address then none
    else some address
  | none => readIcap text.toList

/-- Reading any spelling of an address's digits gives the address. -/
theorem readDigits_spelled (address : Address) (upper : Nat → Bool) :
    readDigits (address.digits.mapIdx (fun index digit => hexDigit (upper index) digit)) =
      some address := by
  have read (digits : List (Fin 16)) (cases : Nat → Bool) :
      (digits.mapIdx (fun index digit => hexDigit (cases index) digit)).mapM hexValue =
        some digits := by
    induction digits generalizing cases with
    | nil => rfl
    | cons digit rest inductionHypothesis =>
      rw [List.mapIdx_cons, List.mapM_cons, hexValue_hexDigit, inductionHypothesis]
      rfl
  simp only [readDigits, read, address.size, ↓reduceDIte]

theorem readDigits_checksum (address : Address) :
    readDigits (ethers.checksumDigits address) = some address :=
  readDigits_spelled address _

theorem withoutPrefix_checksum (address : Address) :
    withoutPrefix (ethers.getChecksumAddress address) = ethers.checksumDigits address := by
  simp only [withoutPrefix, getChecksumAddress, String.toList_append, String.toList_ofList]
  rfl

/-- The checksummed spelling is accepted and denotes its address. -/
theorem getAddress_checksum (address : Address) :
    ethers.getAddress (ethers.getChecksumAddress address) = some address := by
  simp only [getAddress, withoutPrefix_checksum, readDigits_checksum, ne_eq, not_true_eq_false,
    decide_false, Bool.and_false, Bool.false_eq_true, ↓reduceIte]

theorem withoutPrefix_lower (address : Address) :
    withoutPrefix (lowerSpelling address) = lowerDigits address := by
  simp only [withoutPrefix, lowerSpelling, String.toList_append, String.toList_ofList]
  rfl

theorem readDigits_lower (address : Address) :
    readDigits (lowerDigits address) = some address := by
  have spelled : address.digits.mapIdx (fun _ digit => hexDigit false digit) =
      lowerDigits address := List.mapIdx_eq_iff.mpr (fun _ => List.getElem?_map)
  rw [← spelled]
  exact readDigits_spelled address (fun _ => false)

theorem hexDigit_not_upper (digit : Fin 16) :
    ('A' ≤ hexDigit false digit && hexDigit false digit ≤ 'F') = false := by
  revert digit
  decide

/-- The lower-case spelling claims no checksum. -/
theorem lower_not_mixed (address : Address) : mixedCase (lowerDigits address) = false := by
  have noUpper : (lowerDigits address).any
      (fun character => 'A' ≤ character && character ≤ 'F') = false := by
    apply List.any_eq_false.mpr
    intro character member
    obtain ⟨digit, _, rfl⟩ := List.mem_map.mp member
    rw [hexDigit_not_upper]
    exact Bool.false_ne_true
  rw [mixedCase, noUpper, Bool.and_false]

/-- The lower-case spelling is accepted and denotes its address. -/
theorem getAddress_lower (address : Address) :
    ethers.getAddress (lowerSpelling address) = some address := by
  simp only [getAddress, withoutPrefix_lower, readDigits_lower, lower_not_mixed, Bool.false_and,
    Bool.false_eq_true, ↓reduceIte]

/-- Distinct addresses have distinct checksummed spellings. -/
theorem checksum_injective {left right : Address}
    (same : ethers.getChecksumAddress left = ethers.getChecksumAddress right) : left = right := by
  have read := congrArg ethers.getAddress same
  rw [getAddress_checksum, getAddress_checksum] at read
  exact Option.some.inj read

/-- No colon occurs in a spelling. -/
theorem spelling_no_colon (address : Address) (upper : Nat → Bool) :
    ':' ∉ (spelling address upper).toList := by
  simp only [spelling, String.toList_append, String.toList_ofList, List.mem_append, not_or]
  refine ⟨by decide, ?_⟩
  intro present
  obtain ⟨index, inside, equal⟩ := List.mem_mapIdx.mp present
  exact hexDigit_not_colon _ _ equal

theorem checksum_no_colon (address : Address) :
    ':' ∉ (ethers.getChecksumAddress address).toList :=
  spelling_no_colon address _

/-- A spelling of one address is the checksummed one of another only if they are the
same address. -/
theorem spelling_checksum {left right : Address} {upper : Nat → Bool}
    (same : spelling left upper = ethers.getChecksumAddress right) : left = right := by
  have digits : withoutPrefix (spelling left upper) =
      left.digits.mapIdx (fun index digit => hexDigit (upper index) digit) := by
    simp only [withoutPrefix, spelling, String.toList_append, String.toList_ofList]
    rfl
  have read := readDigits_checksum ethers right
  rw [← withoutPrefix_checksum, ← same, digits, readDigits_spelled] at read
  exact Option.some.inj read

/-- A checksummed spelling is not the text of an absent value. -/
theorem checksum_not_undefined (address : Address) :
    ethers.getChecksumAddress address ≠ "undefined" := by
  intro same
  have first := congrArg (fun text => text.toList.head?) same
  simp only [getChecksumAddress, String.toList_append] at first
  cases first

end Ethers

/-- A wallet is its private key; everything else is derived from it. -/
structure Wallet where
  privateKey : String
deriving DecidableEq

/-- `wallet.address`: the checksummed spelling of the key's address. -/
def Wallet.address (ethers : Ethers) (wallet : Wallet) : String :=
  ethers.getChecksumAddress (ethers.computeAddress wallet.privateKey)

end EvDashboard
