/-!
# Errors of the x402 protocol

`Error` of `x402/error.rs`, with the text and the HTTP status of each.
-/

namespace PayKit.X402

inductive Error where
  | rpc (reason : String)
  | transactionNotFound
  | transactionFailed (reason : String)
  | noTransferInstruction
  | amountMismatch (expected actual : String)
  | recipientMismatch (expected actual : String)
  | mintMismatch (expected actual : String)
  | ataMismatch
  | wrongNetwork (expected received : String)
  | signatureConsumed
  /-- Broadcast with an unknown outcome: the claim is kept, and a retry reconciles it. -/
  | settlementPending (reason : String)
  | simulationFailed (reason : String)
  | missingTransaction
  | missingSignature
  | invalidPayloadType (reason : String)
  | http (reason : String)
  | invalidPaymentRequired (reason : String)
  | missingPaymentHeader
  | paymentIdentifierRequired (reason : String)
  | acceptedMismatch
  | other (reason : String)
deriving DecidableEq

namespace Error

def display : Error → String
  | rpc reason => "RPC error: " ++ reason
  | transactionNotFound => "Transaction not found or not yet confirmed"
  | transactionFailed reason => "Transaction failed on-chain: " ++ reason
  | noTransferInstruction => "No matching transfer instruction found"
  | amountMismatch expected actual => "Amount mismatch: expected " ++ expected ++ ", got " ++ actual
  | recipientMismatch expected actual =>
      "Recipient mismatch: expected " ++ expected ++ ", got " ++ actual
  | mintMismatch expected actual =>
      "Token mint mismatch: expected " ++ expected ++ ", got " ++ actual
  | ataMismatch => "Destination ATA does not belong to expected recipient"
  | wrongNetwork expected received =>
      "Signed against " ++ received ++ " but the server expects " ++ expected ++
        ". Switch your client RPC to " ++ expected ++ " and re-sign."
  | signatureConsumed => "Transaction signature already consumed"
  | settlementPending reason => "Settlement pending: " ++ reason
  | simulationFailed reason => "Simulation failed: " ++ reason
  | missingTransaction => "Missing transaction data in payment payload"
  | missingSignature => "Missing signature in payment payload"
  | invalidPayloadType reason => "Invalid payload type: " ++ reason
  | http reason => "HTTP error: " ++ reason
  | invalidPaymentRequired reason => "Invalid 402 response: " ++ reason
  | missingPaymentHeader => "Payment header missing from 402 response"
  | paymentIdentifierRequired reason => "payment-identifier required: " ++ reason
  | acceptedMismatch => "Credential's accepted does not match any offered payment option"
  | other reason => reason

def httpStatus : Error → Nat
  | paymentIdentifierRequired _ => 400
  | _ => 402

end Error

end PayKit.X402
