import Mathlib.Logic.Basic

/-!
# Errors of the batch-settlement scheme

`BatchError` of `x402/protocol/schemes/batch_settlement/errors.rs` and the wire codes
that the modelled operations refuse with.
-/

namespace PayKit.BatchSettlement

structure BatchError where
  code : String
  detail : String
deriving DecidableEq, Repr

def BatchError.display (error : BatchError) : String :=
  error.code ++ ": " ++ error.detail

namespace errors

def invalidPayloadType : String := "invalid_batch_settlement_svm_payload_type"
def invalidSetupTransaction : String := "invalid_batch_settlement_svm_setup_transaction"
def invalidRefundTransaction : String := "invalid_batch_settlement_svm_refund_transaction"
def unsupportedTransactionVersion : String := "unsupported_transaction_version"
def invalidFeePayerMismatch : String := "invalid_batch_settlement_svm_fee_payer_mismatch"
def invalidReceiverAuthorizerMismatch : String :=
  "invalid_batch_settlement_svm_receiver_authorizer_mismatch"
def invalidWithdrawDelayMismatch : String :=
  "invalid_batch_settlement_svm_withdraw_delay_mismatch"
def invalidChannelIdMismatch : String := "invalid_batch_settlement_svm_channel_id_mismatch"
def invalidReceiverBindingUnavailable : String :=
  "invalid_batch_settlement_svm_receiver_binding_unavailable"
def invalidChannelClosing : String := "invalid_batch_settlement_svm_channel_closing"
def invalidCumulativeExceedsDeposit : String :=
  "invalid_batch_settlement_svm_cumulative_exceeds_deposit"
def duplicateSettlement : String := "duplicate_settlement"
def invalidCloseAuthorization : String := "invalid_batch_settlement_svm_close_authorization"
def invalidCloseState : String := "invalid_batch_settlement_svm_close_state"
def invalidChannelState : String := "invalid_batch_settlement_svm_channel_state"
def invalidCumulativeAmountMismatch : String :=
  "invalid_batch_settlement_svm_cumulative_amount_mismatch"
def invalidVoucherSignature : String := "invalid_batch_settlement_svm_voucher_signature"
def invalidVoucherExpiry : String := "invalid_batch_settlement_svm_voucher_expiry"

end errors

end PayKit.BatchSettlement
