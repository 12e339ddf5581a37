import PayKit.Arithmetic.Machine
import PayKit.BatchSettlement.TransactionPolicy
import PayKit.Encoding.Bytes

/-!
# The refund of a sealed channel

`core/payment_channel/payer_refund.rs`: whether the distribute of a sealed channel refunds the
payer, waits for its token account, or forfeits the refund. The token account is read from its
bytes as `core/payment_channel/token_account.rs` does.
-/

namespace PayKit.PaymentChannel

open BatchSettlement Encoding Machine Solana Tx

/-! ### Token accounts -/

def tokenAccountLen : ℕ := 165
def tokenAccountInitialized : UInt8 := 1
def tokenAccountFrozen : UInt8 := 2
def tokenAccountType : UInt8 := 2
def extensionImmutableOwner : ℕ := 7
def u16Max : ℕ := 65535

structure TokenAccount where
  mint : Pubkey
  owner : Pubkey
  state : UInt8
  unsupportedExtension : Option ℕ

/-- The extension list from a cursor on. -/
def scanExtensions (rest : List UInt8) : Option ℕ :=
  if rest.all (· = 0) then none
  else if rest.length < 4 then some u16Max
  else
    let extension := fromLeBytes rest 0 2
    let length := fromLeBytes rest 2 4
    if extension ≠ extensionImmutableOwner then some extension
    else if rest.length < 4 + length then some u16Max
    else scanExtensions (rest.drop (4 + length))
termination_by rest.length
decreasing_by
  rw [List.length_drop]
  omega

def unsupportedAccountExtension (data : List UInt8) : Option ℕ :=
  match data.drop tokenAccountLen with
  | [] => none
  | type :: extensions =>
      if type ≠ tokenAccountType then some type.toNat else scanExtensions extensions

def decodeTokenAccount (data : List UInt8) : Option TokenAccount := do
  if data.length < tokenAccountLen then none
  else
    return {
      mint := ← pubkeyOfBytes (slice data 0 32)
      owner := ← pubkeyOfBytes (slice data 32 64)
      state := data.getD 108 0
      unsupportedExtension := unsupportedAccountExtension data }

/-! ### The decision -/

structure ObservedAccount where
  owner : Pubkey
  data : List UInt8

structure SealedRefundTerms where
  channel : Pubkey
  payer : Pubkey
  mint : Pubkey
  tokenProgram : Pubkey
  deposit : ℕ
  settled : ℕ
  payerWithdrawnAt : ℤ

def SealedRefundTerms.refundDue (terms : SealedRefundTerms) : ℕ :=
  if terms.payerWithdrawnAt ≠ 0 then 0 else terms.deposit - terms.settled

structure RefundDeadline where
  sealedAt : ℤ
  gracePeriod : ℕ

/-- `RefundDeadline::until`. -/
def RefundDeadline.untilTime (deadline : RefundDeadline) : ℤ :=
  saturatingAddI64 deadline.sealedAt deadline.gracePeriod

/-- `PayerRefund`, with the channel that its clearance is for. -/
inductive PayerRefund where
  | clear (channel : Pubkey)
  | deferred (refund : ℕ) (payerTokenAccount : Pubkey) (reason : String) (untilTime : ℤ)
  | forfeit (channel : Pubkey) (refund : ℕ) (payerTokenAccount : Pubkey) (reason : String)

def PayerRefund.clearance : PayerRefund → Option Pubkey
  | clear channel => some channel
  | forfeit channel _ _ _ => some channel
  | deferred _ _ _ _ => none

def unpayableReason (terms : SealedRefundTerms) (account : Option ObservedAccount) :
    Option String :=
  match account with
  | none => some "does not exist"
  | some account =>
      if account.owner ≠ terms.tokenProgram then
        some "is not owned by the channel's token program"
      else
        match decodeTokenAccount account.data with
        | none => some "is not an initialized token account"
        | some decoded =>
            if decoded.state = tokenAccountFrozen then some "is frozen"
            else if decoded.state ≠ tokenAccountInitialized then some "is not initialized"
            else if decoded.mint ≠ terms.mint ∨ decoded.owner ≠ terms.payer then
              some "is not held by the payer for the channel's mint"
            else if decoded.unsupportedExtension.isSome then
              some "carries a token account extension the program will not pay into"
            else none

/-- `payer_refund`. The address of an associated token account is a parameter. -/
def payerRefund (associatedTokenAddress : Pubkey → Pubkey → Pubkey → Pubkey)
    (terms : SealedRefundTerms) (account : Option ObservedAccount) (deadline : RefundDeadline)
    (now : ℤ) : PayerRefund :=
  match if terms.refundDue > 0 then unpayableReason terms account else none with
  | none => .clear terms.channel
  | some reason =>
      let payerTokenAccount := associatedTokenAddress terms.payer terms.mint terms.tokenProgram
      if now ≥ deadline.untilTime then
        .forfeit terms.channel terms.refundDue payerTokenAccount reason
      else .deferred terms.refundDue payerTokenAccount reason deadline.untilTime

/-! ### What the decision depends on -/

/-- A refund is due and the account cannot take it. -/
def Withheld (terms : SealedRefundTerms) (account : Option ObservedAccount) : Prop :=
  terms.refundDue > 0 ∧ (unpayableReason terms account).isSome

instance (terms : SealedRefundTerms) (account : Option ObservedAccount) :
    Decidable (Withheld terms account) :=
  inferInstanceAs (Decidable (_ ∧ _))

def PayerRefund.Forfeits (decision : PayerRefund) : Prop :=
  ∃ channel refund payerTokenAccount reason,
    decision = .forfeit channel refund payerTokenAccount reason

def PayerRefund.Defers (decision : PayerRefund) : Prop :=
  ∃ refund payerTokenAccount reason untilTime,
    decision = .deferred refund payerTokenAccount reason untilTime

variable {associatedTokenAddress : Pubkey → Pubkey → Pubkey → Pubkey} {terms : SealedRefundTerms}
  {account : Option ObservedAccount} {deadline : RefundDeadline} {now : ℤ}

theorem payerRefund_of_not_withheld (hPayable : ¬Withheld terms account) :
    payerRefund associatedTokenAddress terms account deadline now = .clear terms.channel := by
  simp only [Withheld, not_and, Bool.not_eq_true, Option.isSome_eq_false_iff,
    Option.isNone_iff_eq_none] at hPayable
  unfold payerRefund
  by_cases hDue : terms.refundDue > 0
  · rw [if_pos hDue, hPayable hDue]
  · rw [if_neg hDue]

theorem payerRefund_of_withheld (hWithheld : Withheld terms account) :
    ∃ reason, payerRefund associatedTokenAddress terms account deadline now =
      if now ≥ deadline.untilTime then
        .forfeit terms.channel terms.refundDue
          (associatedTokenAddress terms.payer terms.mint terms.tokenProgram) reason
      else
        .deferred terms.refundDue
          (associatedTokenAddress terms.payer terms.mint terms.tokenProgram) reason
          deadline.untilTime := by
  rcases hWithheld with ⟨hDue, hUnpayable⟩
  rcases Option.isSome_iff_exists.mp hUnpayable with ⟨reason, hReason⟩
  refine ⟨reason, ?_⟩
  unfold payerRefund
  rw [if_pos hDue, hReason]

theorem forfeits_payerRefund :
    (payerRefund associatedTokenAddress terms account deadline now).Forfeits ↔
      Withheld terms account ∧ deadline.untilTime ≤ now := by
  by_cases hWithheld : Withheld terms account
  · rcases payerRefund_of_withheld hWithheld with ⟨reason, hDecision⟩
    rw [hDecision]
    by_cases hPassed : now ≥ deadline.untilTime
    · rw [if_pos hPassed]
      exact ⟨fun _ => ⟨hWithheld, hPassed⟩, fun _ => ⟨_, _, _, _, rfl⟩⟩
    · rw [if_neg hPassed]
      refine ⟨?_, fun hBoth => absurd hBoth.2 hPassed⟩
      rintro ⟨channel, refund, payerTokenAccount, other, ⟨⟩⟩
  · rw [payerRefund_of_not_withheld hWithheld]
    refine ⟨?_, fun hBoth => absurd hBoth.1 hWithheld⟩
    rintro ⟨channel, refund, payerTokenAccount, other, ⟨⟩⟩

theorem defers_payerRefund :
    (payerRefund associatedTokenAddress terms account deadline now).Defers ↔
      Withheld terms account ∧ now < deadline.untilTime := by
  by_cases hWithheld : Withheld terms account
  · rcases payerRefund_of_withheld hWithheld with ⟨reason, hDecision⟩
    rw [hDecision]
    by_cases hPassed : now ≥ deadline.untilTime
    · rw [if_pos hPassed]
      refine ⟨?_, fun hBoth => absurd hBoth.2 (not_lt.mpr hPassed)⟩
      rintro ⟨refund, payerTokenAccount, other, untilTime, ⟨⟩⟩
    · rw [if_neg hPassed]
      exact ⟨fun _ => ⟨hWithheld, not_le.mp hPassed⟩, fun _ => ⟨_, _, _, _, rfl⟩⟩
  · rw [payerRefund_of_not_withheld hWithheld]
    refine ⟨?_, fun hBoth => absurd hBoth.1 hWithheld⟩
    rintro ⟨refund, payerTokenAccount, other, untilTime, ⟨⟩⟩

end PayKit.PaymentChannel
