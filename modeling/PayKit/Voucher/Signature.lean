import PayKit.Arithmetic.Machine
import PayKit.Tx.Message

/-!
# Voucher signatures

`core/voucher.rs`: a voucher is the cumulative amount a channel may claim, with an
expiry, and its signature covers 50 bytes that name the channel. The base-58 codecs and
the curve are libraries, collected in `Ed25519`.
-/

namespace PayKit.Voucher

open Control Encoding Machine Solana Tx

/-- What a voucher's verification uses of the codecs and of the curve. -/
structure Ed25519 where
  encode64 : Signature → String
  decode64 : String → Except String Signature
  decode32 : String → Except String Pubkey
  /-- `VerifyingKey::from_bytes`: whether the bytes are a key of the curve. -/
  checkKey : Pubkey → Except String Unit
  /-- `VerifyingKey::verify_strict`. -/
  verifyStrict : Pubkey → List UInt8 → Signature → Bool

def voucherMagic : List UInt8 := [0x56, 0x01]

def voucherMessageBytes (channelId : Pubkey) (cumulative : ℕ) (expiresAt : ℤ) : List UInt8 :=
  voucherMagic ++ channelId.bytes ++ encodeLE 8 cumulative ++
    encodeLE 8 (expiresAt % 2 ^ 64).toNat

theorem voucherMessageBytes_cumulative {channelId : Pubkey} {left right : ℕ} {expiresAt : ℤ}
    (hLeft : left ≤ u64Max) (hRight : right ≤ u64Max)
    (hSame : voucherMessageBytes channelId left expiresAt =
      voucherMessageBytes channelId right expiresAt) : left = right := by
  simp only [voucherMessageBytes, List.append_assoc, List.append_cancel_left_eq] at hSame
  have hField := (List.append_inj hSame (by simp)).1
  have hBound : u64Max < 256 ^ 8 := by decide
  rw [← decodeLE_encodeLE (lt_of_le_of_lt hLeft hBound), hField,
    decodeLE_encodeLE (lt_of_le_of_lt hRight hBound)]

/-- The expiry check of `voucher_verify_parts`; zero never expires. -/
def checkExpiry (expiresAt now settlementWindow : ℤ) : Except String Unit :=
  if expiresAt = 0 then .ok ()
  else do
    refuseIf (expiresAt ≤ now) "Voucher has expired"
    let settleDeadline := saturatingAddI64 now (max settlementWindow 0)
    refuseIf (expiresAt ≤ settleDeadline)
      (s!"Voucher expiry {expiresAt} does not outlast the settlement window (must be > " ++
        s!"{settleDeadline} = now {now} + window {settlementWindow})")

def verifyVoucherSignature (curve : Ed25519) (channelId : String) (cumulative : ℕ)
    (expiresAt : ℤ) (signature authorizedSigner : String) (now settlementWindow : ℤ) :
    Except String Unit := do
  checkExpiry expiresAt now settlementWindow
  let channel ← (Pubkey.fromStr channelId).mapError fun error =>
    "invalid channelId: " ++ error.display
  let bytes ← (curve.decode64 signature).mapError ("Invalid signature encoding: " ++ ·)
  let signer ← (curve.decode32 authorizedSigner).mapError ("Invalid authorized_signer: " ++ ·)
  (curve.checkKey signer).mapError ("Invalid authorized_signer key: " ++ ·)
  refuseIf (¬curve.verifyStrict signer (voucherMessageBytes channel cumulative expiresAt) bytes)
    "Voucher signature verification failed"

theorem verifyVoucherSignature_eq_ok {curve : Ed25519} {channelId : Pubkey} {cumulative : ℕ}
    {expiresAt now settlementWindow : ℤ} {signature authorizedSigner : String} {value : Unit}
    (hVerified : verifyVoucherSignature curve channelId.display cumulative expiresAt signature
      authorizedSigner now settlementWindow = .ok value) :
    ∃ signer bytes, curve.decode32 authorizedSigner = .ok signer ∧
      curve.decode64 signature = .ok bytes ∧
      curve.verifyStrict signer (voucherMessageBytes channelId cumulative expiresAt) bytes =
        true := by
  simp only [verifyVoucherSignature, bind_eq_ok, mapError_eq_ok, Pubkey.fromStr_display,
    refuseIf_eq_ok, not_not] at hVerified
  rcases hVerified with ⟨_, -, channel, hChannel, bytes, hBytes, signer, hSigner, _, -, hSignature⟩
  cases hChannel
  exact ⟨signer, bytes, hSigner, hBytes, hSignature⟩

end PayKit.Voucher
