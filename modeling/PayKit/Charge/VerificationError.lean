import PayKit.Store.KeyValue

/-!
# Errors and receipts of the charge server

`VerificationError` of `mpp/server/charge.rs` with its constructors, and the
`Receipt` that a verified charge is answered with. The timestamp of a receipt is
left out: nothing reads it.
-/

namespace PayKit.Charge

open Store

/-- Why a credential was refused, with its RFC 9457 problem details. -/
structure VerificationError where
  message : String
  code : Option String
  retryable : Bool
  typeUri : String
  title : String
  status : ℕ
deriving DecidableEq, Repr

namespace VerificationError

def new (message : String) : VerificationError where
  message
  code := none
  retryable := false
  typeUri := "tag:paymentauth.org,2024:verification-failed"
  title := "Payment Verification Error"
  status := 402

def withCode (message code title typeUri : String) : VerificationError where
  message
  code := some code
  retryable := false
  typeUri
  title
  status := 402

/-- The error, marked as worth a retry. -/
def asRetryable (error : VerificationError) : VerificationError :=
  { error with retryable := true }

def expired (message : String) : VerificationError :=
  withCode message "payment-expired" "Payment Challenge Expired"
    "tag:paymentauth.org,2024:payment-expired"

def invalidAmount (message : String) : VerificationError :=
  withCode message "verification-failed" "Invalid Amount"
    "tag:paymentauth.org,2024:verification-failed"

def invalidRecipient (message : String) : VerificationError :=
  withCode message "verification-failed" "Invalid Recipient"
    "tag:paymentauth.org,2024:verification-failed"

def transactionFailed (message : String) : VerificationError :=
  withCode message "verification-failed" "Transaction Failed"
    "tag:paymentauth.org,2024:verification-failed"

def invalidPayload (message : String) : VerificationError :=
  withCode message "malformed-credential" "Invalid Payload"
    "tag:paymentauth.org,2024:malformed-credential"

def signatureConsumed (message : String) : VerificationError :=
  withCode message "signature-consumed" "Signature Already Consumed"
    "tag:paymentauth.org,2024:signature-consumed"

def notFound (message : String) : VerificationError :=
  withCode message "verification-failed" "Transaction Not Found"
    "tag:paymentauth.org,2024:verification-failed"

def networkError (message : String) : VerificationError :=
  (withCode message "verification-failed" "Network Error"
    "tag:paymentauth.org,2024:verification-failed").asRetryable

def credentialMismatch (message : String) : VerificationError :=
  withCode message "malformed-credential" "Credential Mismatch"
    "tag:paymentauth.org,2024:malformed-credential"

def tooManySplits (message : String) : VerificationError :=
  withCode message "verification-failed" "Too Many Splits"
    "tag:paymentauth.org,2024:verification-failed"

def challengeConflict (message : String) : VerificationError :=
  withCode message "challenge-conflict" "Challenge Already Presented With A Different Request"
    "tag:paymentauth.org,2024:challenge-conflict"

def settlementInProgress (message : String) : VerificationError :=
  (withCode message "settlement-in-progress" "Settlement Already In Progress"
    "tag:paymentauth.org,2024:settlement-in-progress").asRetryable

/-- A store error during verification. -/
def ofStore (error : StoreError) : VerificationError :=
  new ("Store error: " ++ error.display)

end VerificationError

/-- The name of the payment method in receipts. -/
def methodName : String :=
  "solana"

/-- A successful payment receipt: the transaction that paid which challenge. -/
structure Receipt where
  method : String
  reference : String
  challengeId : String
deriving DecidableEq, Repr

/-- `Receipt::success` of the charge server. -/
def Receipt.success (reference challengeId : String) : Receipt where
  method := methodName
  reference
  challengeId

end PayKit.Charge
