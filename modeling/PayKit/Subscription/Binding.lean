import PayKit.Subscription.Settlement

/-!
# The binding of a subscription is linear

The record of an activation is written once. The current binding of the subscription is the
record of some activation, and it is only replaced by the record of one that landed in a
later slot. A call that read a binding, or wrote one, therefore knows that the current
binding is that one or a later one, and this is all that the invariant says.
-/

namespace PayKit.Subscription

open Charge Concurrency Control Rpc Solana Store

/-! ### The keys -/

theorem toList_activationKey (signature : String) : (activationKey signature).toList =
    "solana-subscription:activation-binding:".toList ++ signature.toList := by
  unfold activationKey
  rw [String.toList_append]

theorem toList_subscriptionBindingKey (delegation : Pubkey) :
    (subscriptionBindingKey delegation).toList =
      "solana-subscription:authentication:".toList ++ delegation.display.toList := by
  unfold subscriptionBindingKey
  rw [String.toList_append]

theorem activationKey_injective : Function.Injective activationKey := by
  intro left right hSame
  have hChars := congrArg String.toList hSame
  rw [toList_activationKey, toList_activationKey, List.append_cancel_left_eq] at hChars
  exact String.toList_inj.mp hChars

theorem bindingKey_ne_activationKey (delegation : Pubkey) (signature : String) :
    subscriptionBindingKey delegation ≠ activationKey signature := by
  intro hSame
  have hChars := congrArg String.toList hSame
  rw [toList_activationKey, toList_subscriptionBindingKey] at hChars
  have hChar := congrArg (fun chars : List Char => chars[21]?) hChars
  simp at hChar

theorem bindingKey_ne_consumedKey (delegation : Pubkey) (signature : String) :
    subscriptionBindingKey delegation ≠ consumedKey signature := by
  intro hSame
  have hChars := congrArg String.toList hSame
  rw [toList_consumedKey, toList_subscriptionBindingKey] at hChars
  have hChar := congrArg (fun chars : List Char => chars[20]?) hChars
  simp at hChar

theorem activationKey_ne_consumedKey (signature other : String) :
    activationKey signature ≠ consumedKey other := by
  intro hSame
  have hChars := congrArg String.toList hSame
  rw [toList_activationKey, toList_consumedKey] at hChars
  have hChar := congrArg (fun chars : List Char => chars[20]?) hChars
  simp at hChar

/-! ### What is known of a key -/

/-- The call shows that the key held the value. -/
def reveals (key : String) (value : Entry) :
    (request : SubscriptionCall) → SubscriptionReply request → Prop
  | .get other, reply => other = key ∧ reply = some value
  | .putIfAbsent other written, reply => other = key ∧ written = value ∧ reply = true
  | .putIfEq other _ written, reply => other = key ∧ written = value ∧ reply = true
  | _, _ => False

/-- The record of an activation that landed in the slot. -/
def RecordOf (slots : String → ℕ) (signature : String) (value : Entry) : Prop :=
  value.activationSignature = some signature ∧ value.landedSlot = some (slots signature)

/-- The binding is this one, or one that landed in a later slot. -/
def NoEarlier (older newer : Entry) : Prop :=
  newer = older ∨ ∃ before after, older.landedSlot = some before ∧
    newer.landedSlot = some after ∧ before < after

theorem NoEarlier.trans {first second third : Entry} (hFirst : NoEarlier first second)
    (hSecond : NoEarlier second third) : NoEarlier first third := by
  rcases hFirst with rfl | ⟨before, middle, hBefore, hMiddle, hLess⟩
  · exact hSecond
  rcases hSecond with rfl | ⟨again, after, hAgain, hAfter, hMore⟩
  · exact .inr ⟨before, middle, hBefore, hMiddle, hLess⟩
  · obtain rfl : middle = again := Option.some.inj (hMiddle.symm.trans hAgain)
    exact .inr ⟨before, after, hBefore, hAfter, hLess.trans hMore⟩

variable {Caller : Type}

/-- The binding was current at the start, or some call showed it. -/
def Seen (start : SubscriptionState) (delegation : Pubkey) (world : SubscriptionWorld Caller)
    (value : Entry) : Prop :=
  start.entries (subscriptionBindingKey delegation) = some value ∨
    ∃ caller, Did world.history caller (reveals (subscriptionBindingKey delegation) value)

structure BindingInvariant (start : SubscriptionState) (delegation : Pubkey)
    (world : SubscriptionWorld Caller) : Prop where
  slots_eq : world.state.slots = start.slots
  records : ∀ signature value,
    world.state.entries (activationKey signature) = some value →
      RecordOf start.slots signature value
  current : ∀ value, world.state.entries (subscriptionBindingKey delegation) = some value →
    ∃ signature, world.state.entries (activationKey signature) = some value
  recorded : ∀ caller signature value,
    Did world.history caller (reveals (activationKey signature) value) →
      world.state.entries (activationKey signature) = some value
  seen : ∀ value, world.state.entries (subscriptionBindingKey delegation) = some value →
    Seen start delegation world value
  shown : ∀ value, Seen start delegation world value →
    (∃ signature, world.state.entries (activationKey signature) = some value) ∧
      ∃ newer, world.state.entries (subscriptionBindingKey delegation) = some newer ∧
        NoEarlier value newer

section

variable {start : SubscriptionState} {delegation : Pubkey} {request : SubscriptionCall}
  {reply : SubscriptionReply request} {before after : SubscriptionState}
  {world : SubscriptionWorld Caller} {mover caller : Caller} {signature : String}

/-- What a step may do to the records and to the current binding. -/
structure BindingStep (slots : String → ℕ) (delegation : Pubkey)
    (before after : SubscriptionState) : Prop where
  slots_eq : after.slots = before.slots
  kept : ∀ signature value, before.entries (activationKey signature) = some value →
    after.entries (activationKey signature) = some value
  written : ∀ signature value, after.entries (activationKey signature) = some value →
    RecordOf slots signature value
  advanced : ∀ value, before.entries (subscriptionBindingKey delegation) = some value →
    ∃ newer, after.entries (subscriptionBindingKey delegation) = some newer ∧
      NoEarlier value newer
  backed : ∀ value, after.entries (subscriptionBindingKey delegation) = some value →
    ∃ signature, after.entries (activationKey signature) = some value

theorem entry_of_reveals {key : String} {value : Entry}
    (hEffect : effect request before reply after) (hReveals : reveals key value request reply) :
    after.entries key = some value := by
  cases request with
  | get other =>
      rcases hReveals with ⟨rfl, rfl⟩
      rw [hEffect.2]
      exact hEffect.1.symm
  | putIfAbsent other written =>
      rcases hReveals with ⟨rfl, rfl, rfl⟩
      rcases hEffect with ⟨-, -, rfl⟩ | ⟨-, hReply, -⟩
      · exact SubscriptionState.setEntry_self
      · cases hReply
  | putIfEq other expected written =>
      rcases hReveals with ⟨rfl, rfl, rfl⟩
      rcases hEffect with ⟨-, -, rfl⟩ | ⟨-, hReply, -⟩
      · exact SubscriptionState.setEntry_self
      · cases hReply
  | _ => exact hReveals.elim

theorem entry_or_reveals {key : String} {value : Entry} (hEffect : effect request before reply after)
    (hEntry : after.entries key = some value) :
    before.entries key = some value ∨ reveals key value request reply := by
  have hWritten : ∀ other written, (before.setEntry other (some written)).entries key = some value →
      before.entries key = some value ∨ (other = key ∧ written = value) := by
    intro other written hEntry
    by_cases hSame : key = other
    · subst hSame
      rw [SubscriptionState.setEntry_self] at hEntry
      exact .inr ⟨rfl, Option.some.inj hEntry⟩
    · rw [SubscriptionState.setEntry_of_ne hSame] at hEntry
      exact .inl hEntry
  cases request with
  | get other =>
      rw [hEffect.2] at hEntry
      exact .inl hEntry
  | putIfAbsent other written =>
      rcases hEffect with ⟨-, hReply, rfl⟩ | ⟨-, -, rfl⟩
      · exact (hWritten other written hEntry).imp_right fun hSame => ⟨hSame.1, hSame.2, hReply⟩
      · exact .inl hEntry
  | putIfEq other expected written =>
      rcases hEffect with ⟨-, hReply, rfl⟩ | ⟨-, -, rfl⟩
      · exact (hWritten other written hEntry).imp_right fun hSame => ⟨hSame.1, hSame.2, hReply⟩
      · exact .inl hEntry
  | delete other =>
      obtain rfl : after = before.setEntry other none := hEffect
      by_cases hSame : key = other
      · rw [hSame, SubscriptionState.setEntry_self] at hEntry
        cases hEntry
      · rw [SubscriptionState.setEntry_of_ne hSame] at hEntry
        exact .inl hEntry
  | rpc call =>
      rcases hEffect with ⟨landings, -, rfl⟩
      exact .inl hEntry
  | fetchDelegation pda =>
      obtain rfl : after = before := hEffect
      exact .inl hEntry
  | fetchAuthorityInitId pda =>
      obtain rfl : after = before := hEffect
      exact .inl hEntry
  | landedSlot signature =>
      rw [hEffect.1] at hEntry
      exact .inl hEntry
  | chain signature =>
      rcases hEffect with ⟨next, -, rfl⟩
      exact .inl hEntry

theorem BindingInvariant.step (hInvariant : BindingInvariant start delegation world)
    (hEffect : effect request world.state reply after)
    (hStep : BindingStep start.slots delegation world.state after) :
    BindingInvariant start delegation (world.record ⟨mover, request, reply⟩ after) where
  slots_eq := hStep.slots_eq.trans hInvariant.slots_eq
  records := hStep.written
  current := hStep.backed
  recorded caller signature value hDid := by
    rcases did_cons.mp hDid with ⟨-, hNow⟩ | hBefore
    · exact entry_of_reveals hEffect hNow
    · exact hStep.kept signature value (hInvariant.recorded caller signature value hBefore)
  seen value hEntry := by
    rcases entry_or_reveals hEffect hEntry with hBefore | hNow
    · rcases hInvariant.seen value hBefore with hStart | ⟨caller, hDid⟩
      · exact .inl hStart
      · exact .inr ⟨caller, did_cons.mpr (.inr hDid)⟩
    · exact .inr ⟨mover, did_self hNow⟩
  shown value hSeen := by
    have hOld : Seen start delegation world value →
        (∃ signature, after.entries (activationKey signature) = some value) ∧
          ∃ newer, after.entries (subscriptionBindingKey delegation) = some newer ∧
            NoEarlier value newer := by
      intro hBefore
      rcases hInvariant.shown value hBefore with ⟨⟨signature, hRecord⟩, newer, hNewer, hLater⟩
      rcases hStep.advanced newer hNewer with ⟨newest, hNewest, hLatest⟩
      exact ⟨⟨signature, hStep.kept signature value hRecord⟩, newest, hNewest,
        hLater.trans hLatest⟩
    rcases hSeen with hStart | ⟨caller, hDid⟩
    · exact hOld (.inl hStart)
    · rcases did_cons.mp hDid with ⟨-, hNow⟩ | hBefore
      · have hEntry := entry_of_reveals hEffect hNow
        exact ⟨hStep.backed value hEntry, value, hEntry, .inl rfl⟩
      · exact hOld (.inr ⟨caller, hBefore⟩)

theorem BindingInvariant.still (hInvariant : BindingInvariant start delegation world)
    (hSlots : after.slots = world.state.slots)
    (hRecords : ∀ signature, after.entries (activationKey signature) =
      world.state.entries (activationKey signature))
    (hCurrent : after.entries (subscriptionBindingKey delegation) =
      world.state.entries (subscriptionBindingKey delegation)) :
    BindingStep start.slots delegation world.state after where
  slots_eq := hSlots
  kept signature value hEntry := (hRecords signature).trans hEntry
  written signature value hEntry :=
    hInvariant.records signature value ((hRecords signature).symm.trans hEntry)
  advanced value hEntry := ⟨value, hCurrent.trans hEntry, .inl rfl⟩
  backed value hEntry := by
    rcases hInvariant.current value (hCurrent.symm.trans hEntry) with ⟨signature, hRecord⟩
    exact ⟨signature, (hRecords signature).trans hRecord⟩

theorem BindingInvariant.writeRecord (hInvariant : BindingInvariant start delegation world)
    {value : Entry} (hAbsent : world.state.entries (activationKey signature) = none)
    (hRecord : RecordOf start.slots signature value) :
    BindingStep start.slots delegation world.state
      (world.state.setEntry (activationKey signature) (some value)) where
  slots_eq := rfl
  kept other written hEntry := by
    by_cases hSame : activationKey other = activationKey signature
    · rw [hSame, hAbsent] at hEntry
      cases hEntry
    · rwa [SubscriptionState.setEntry_of_ne hSame]
  written other written hEntry := by
    by_cases hSame : activationKey other = activationKey signature
    · obtain rfl := activationKey_injective hSame
      rw [SubscriptionState.setEntry_self] at hEntry
      cases hEntry
      exact hRecord
    · rw [SubscriptionState.setEntry_of_ne hSame] at hEntry
      exact hInvariant.records other written hEntry
  advanced current hEntry := by
    refine ⟨current, ?_, .inl rfl⟩
    rwa [SubscriptionState.setEntry_of_ne (bindingKey_ne_activationKey delegation signature)]
  backed current hEntry := by
    rw [SubscriptionState.setEntry_of_ne (bindingKey_ne_activationKey delegation signature)]
      at hEntry
    rcases hInvariant.current current hEntry with ⟨other, hOther⟩
    refine ⟨other, ?_⟩
    have hDifferent : activationKey other ≠ activationKey signature := by
      intro hSame
      rw [hSame, hAbsent] at hOther
      cases hOther
    rwa [SubscriptionState.setEntry_of_ne hDifferent]

theorem BindingInvariant.publish (hInvariant : BindingInvariant start delegation world)
    {value : Entry} (hRecord : world.state.entries (activationKey signature) = some value)
    (hLater : ∀ current, world.state.entries (subscriptionBindingKey delegation) = some current →
      NoEarlier current value) :
    BindingStep start.slots delegation world.state
      (world.state.setEntry (subscriptionBindingKey delegation) (some value)) where
  slots_eq := rfl
  kept other written hEntry := by
    rwa [SubscriptionState.setEntry_of_ne (bindingKey_ne_activationKey delegation other).symm]
  written other written hEntry := by
    rw [SubscriptionState.setEntry_of_ne (bindingKey_ne_activationKey delegation other).symm]
      at hEntry
    exact hInvariant.records other written hEntry
  advanced current hEntry := ⟨value, SubscriptionState.setEntry_self, hLater current hEntry⟩
  backed current hEntry := by
    rw [SubscriptionState.setEntry_self] at hEntry
    cases hEntry
    refine ⟨signature, ?_⟩
    rwa [SubscriptionState.setEntry_of_ne (bindingKey_ne_activationKey delegation signature).symm]

end

/-! ### The walk of a publication -/

/-- A call that writes no record and no binding. -/
def Elsewhere : SubscriptionCall → Prop
  | .putIfAbsent key _ => ∃ signature, key = consumedKey signature
  | .delete key => ∃ signature, key = consumedKey signature
  | .putIfEq _ _ _ => False
  | _ => True

theorem ReadsChain.elsewhere {request : SubscriptionCall} (hReads : ReadsChain request) :
    Elsewhere request := by
  cases request with
  | putIfAbsent key value => exact hReads.elim
  | putIfEq key expected value => exact hReads
  | delete key => exact hReads.elim
  | _ => trivial

section

variable {start : SubscriptionState} {delegation : Pubkey} {caller : Caller} {activation : String}
  {before : SubscriptionWorld Caller} {Result : Type}
  {post : Result → SubscriptionWorld Caller → Prop}

/-- The program keeps the invariant in any order, and ends in the postcondition. -/
abbrev BindingTo (start : SubscriptionState) (delegation : Pubkey) (caller : Caller)
    (post : Result → SubscriptionWorld Caller → Prop)
    (program : Program SubscriptionCall SubscriptionReply Result)
    (before : SubscriptionWorld Caller) : Prop :=
  anyOrder.Safe (BindingInvariant start delegation) caller (fun _ => True) post program before

theorem BindingInvariant.elsewhere {request : SubscriptionCall}
    {reply : SubscriptionReply request} {world : SubscriptionWorld Caller}
    {after : SubscriptionState} (hInvariant : BindingInvariant start delegation world)
    (hElsewhere : Elsewhere request) (hEffect : effect request world.state reply after) :
    BindingStep start.slots delegation world.state after := by
  have hConsumed : ∀ key value, (∃ signature, key = consumedKey signature) →
      BindingStep start.slots delegation world.state (world.state.setEntry key value) := by
    rintro _ value ⟨signature, rfl⟩
    apply hInvariant.still SubscriptionState.setEntry_slots
    · intro other
      exact SubscriptionState.setEntry_of_ne (activationKey_ne_consumedKey other signature)
    · exact SubscriptionState.setEntry_of_ne (bindingKey_ne_consumedKey delegation signature)
  have hSame : after = world.state → BindingStep start.slots delegation world.state after := by
    rintro rfl
    exact hInvariant.still rfl (fun _ => rfl) rfl
  cases request with
  | get key => exact hSame hEffect.2
  | putIfAbsent key value =>
      rcases hEffect with ⟨-, -, rfl⟩ | ⟨-, -, hAfter⟩
      · exact hConsumed key _ hElsewhere
      · exact hSame hAfter
  | putIfEq key expected value => exact hElsewhere.elim
  | delete key =>
      obtain rfl : after = world.state.setEntry key none := hEffect
      exact hConsumed key _ hElsewhere
  | rpc call =>
      rcases hEffect with ⟨landings, -, rfl⟩
      exact hInvariant.still rfl (fun _ => rfl) rfl
  | fetchDelegation pda => exact hSame hEffect
  | fetchAuthorityInitId pda => exact hSame hEffect
  | landedSlot signature => exact hSame hEffect.1
  | chain signature =>
      rcases hEffect with ⟨next, -, rfl⟩
      exact hInvariant.still rfl (fun _ => rfl) rfl

theorem bindingTo_of_uses {program : Program SubscriptionCall SubscriptionReply Result}
    (hUses : program.Uses Elsewhere) :
    BindingTo start delegation caller (fun _ _ => True) program before := by
  refine Environment.Safe.of_quiet ?_ hUses
  intro world request reply state hInvariant hElsewhere hEffect _
  exact hInvariant.step hEffect (hInvariant.elsewhere hElsewhere hEffect)

theorem bindingTo_perform {request : SubscriptionCall}
    {next : SubscriptionReply request → Program SubscriptionCall SubscriptionReply Result}
    (hStep : ∀ (now : SubscriptionWorld Caller) reply state,
      BindingInvariant start delegation now → before.history <:+ now.history →
        effect request now.state reply state →
          BindingStep start.slots delegation now.state state ∧
            (BindingInvariant start delegation (now.record ⟨caller, request, reply⟩ state) →
              BindingTo start delegation caller post (next reply)
                (now.record ⟨caller, request, reply⟩ state))) :
    BindingTo start delegation caller post (.perform request next) before := by
  intro now hInterferes
  refine ⟨trivial, ?_⟩
  intro reply state hEffect _
  rcases hStep now reply state hInterferes.1 hInterferes.suffix hEffect with ⟨hMoves, hNext⟩
  have hKept : BindingInvariant start delegation
      (now.record ⟨caller, request, reply⟩ state) := hInterferes.1.step hEffect hMoves
  exact ⟨hKept, hNext hKept⟩

theorem bindingTo_ownSlot :
    BindingTo start delegation caller (fun outcome _ => ∀ slot, outcome = .ok slot →
      slot = start.slots activation) (ownSlot activation).run before := by
  apply bindingTo_perform
  intro now reply state hInvariant _ hEffect
  have hElsewhere : Elsewhere (.landedSlot activation) := trivial
  refine ⟨hInvariant.elsewhere hElsewhere hEffect, fun _ => ?_⟩
  rcases reply with error | _ | slot
  · intro _ _ other hOther
    cases hOther
  · intro _ _ other hOther
    cases hOther
  · intro _ _ other hOther
    cases hOther
    rw [← hInvariant.slots_eq]
    exact (hEffect.2 slot rfl).2

theorem bindingTo_knownSlot {own : Option ℕ} (hOwn : ∀ slot, own = some slot →
      slot = start.slots activation) :
    BindingTo start delegation caller (fun outcome _ => ∀ slot, outcome = .ok slot →
      slot = start.slots activation) (knownSlot activation own).run before := by
  cases own with
  | none => exact bindingTo_ownSlot
  | some slot =>
      intro _ _ other hOther
      cases hOther
      exact hOwn _ rfl

/-- The current binding may be replaced: it is older, when it is another activation's. -/
def Replaceable (slots : String → ℕ) (activation : String) (current : Option Entry) : Prop :=
  ∀ value other, current = some value → value.activationSignature = some other →
    other ≠ activation → slots other < slots activation

theorem bindingTo_supersedes {own : Option ℕ} {current : Option Entry}
    (hInvariant : BindingInvariant start delegation before)
    (hCurrent : ∀ value, current = some value → ∃ signature, RecordOf start.slots signature value)
    (hOwn : ∀ slot, own = some slot → slot = start.slots activation) :
    BindingTo start delegation caller (fun outcome _ => ∀ refused slot,
      outcome = .ok (refused, slot) → (∀ known, slot = some known → known = start.slots activation) ∧
        (refused = false → Replaceable start.slots activation current))
      (supersedes activation own current).run before := by
  cases current with
  | none =>
      rintro _ _ refused slot ⟨⟩
      exact ⟨hOwn, fun _ _ _ hNone => by cases hNone⟩
  | some value =>
      rcases hCurrent value rfl with ⟨signature, hSignature, hSlot⟩
      simp only [supersedes, hSignature]
      by_cases hSame : signature = activation
      · rw [if_pos hSame]
        rintro _ _ refused slot ⟨⟩
        refine ⟨hOwn, ?_⟩
        rintro _ found other ⟨⟩ hOther hDifferent
        exact absurd ((Option.some.inj (hOther.symm.trans hSignature)).trans hSame) hDifferent
      · rw [if_neg hSame]
        apply Environment.Safe.fallible_bind hInvariant (bindingTo_knownSlot hOwn)
        · intro this world _ _ hThis
          simp only [previousSlot, hSlot]
          rintro _ _ refused slot ⟨⟩
          refine ⟨by rintro known ⟨⟩; exact hThis _ rfl, ?_⟩
          intro hLater found other hFound hOther _
          cases hFound
          obtain rfl : signature = other := Option.some.inj (hSignature.symm.trans hOther)
          have hKnown : this = start.slots activation := hThis this rfl
          simp only [Option.any_some, decide_eq_false_iff_not, ge_iff_le, not_le] at hLater
          omega
        · rintro error world _ _ _ _ _ refused slot ⟨⟩

theorem BindingInvariant.later_of_replaceable {world : SubscriptionWorld Caller} {bound : Entry}
    {current : Option Entry} (hInvariant : BindingInvariant start delegation world)
    (hRecord : world.state.entries (activationKey activation) = some bound)
    (hReplaceable : Replaceable start.slots activation current) :
    world.state.entries (subscriptionBindingKey delegation) = current →
      ∀ value, current = some value → NoEarlier value bound := by
  rintro hCurrent value rfl
  rcases hInvariant.current value hCurrent with ⟨signature, hEntry⟩
  have hValue := hInvariant.records signature value hEntry
  have hBound := hInvariant.records activation bound hRecord
  by_cases hSame : signature = activation
  · rw [hSame, hRecord] at hEntry
    exact .inl (Option.some.inj hEntry)
  · exact .inr ⟨_, _, hValue.2, hBound.2, hReplaceable value signature rfl hValue.1 hSame⟩

/-- The bound record was published, or found published. -/
abbrev Published (delegation : Pubkey) (caller : Caller) (bound : Entry)
    (outcome : Except VerificationError Entry) (world : SubscriptionWorld Caller) : Prop :=
  ∀ value, outcome = .ok value → value = bound ∧
    Did world.history caller (reveals (subscriptionBindingKey delegation) bound)

theorem bindingTo_publishBinding {bound : Entry} {attempts : ℕ} {own : Option ℕ}
    {current : Option Entry} (hInvariant : BindingInvariant start delegation before)
    (hRecorded : Did before.history caller (reveals (activationKey activation) bound))
    (hCurrent : ∀ value, current = some value →
      Did before.history caller (reveals (subscriptionBindingKey delegation) value))
    (hOwn : ∀ slot, own = some slot → slot = start.slots activation) :
    BindingTo start delegation caller (Published delegation caller bound)
      (publishBinding (subscriptionBindingKey delegation) activation bound attempts own
        current).run before := by
  induction attempts generalizing own current before with
  | zero =>
      rintro _ _ value ⟨⟩
  | succ attempts hInduction =>
      unfold publishBinding
      split
      · rename_i hBound
        rintro world hInterferes value ⟨⟩
        exact ⟨rfl, (hCurrent bound hBound).suffix hInterferes.suffix⟩
      have hRecords : ∀ value, current = some value →
          ∃ signature, RecordOf start.slots signature value := by
        intro value hValue
        rcases (hInvariant.shown value (.inr ⟨caller, hCurrent value hValue⟩)).1 with ⟨signature, hEntry⟩
        exact ⟨signature, hInvariant.records signature value hEntry⟩
      apply Environment.Safe.fallible_bind hInvariant
        (bindingTo_supersedes hInvariant hRecords hOwn)
      · rintro ⟨refused, slot⟩ world hWorld hSuffix hSlots
        rcases hSlots refused slot rfl with ⟨hSlot, hReplaceable⟩
        cases refused with
        | true =>
            rintro _ _ value ⟨⟩
        | false =>
            apply bindingTo_perform
            intro now swapped state hNow hGrown hEffect
            have hRecord := hNow.recorded caller activation bound
              ((hRecorded.suffix hSuffix).suffix hGrown)
            rcases hEffect with ⟨hExpected, rfl, rfl⟩ | ⟨-, rfl, rfl⟩
            · have hLater := hNow.later_of_replaceable hRecord (hReplaceable rfl) hExpected
              rw [← hExpected] at hLater
              refine ⟨hNow.publish hRecord hLater, ?_⟩
              rintro - world hInterferes value ⟨⟩
              exact ⟨rfl, (did_self ⟨rfl, rfl, rfl⟩).suffix hInterferes.suffix⟩
            · refine ⟨hNow.still rfl (fun _ => rfl) rfl, fun hKept => ?_⟩
              apply bindingTo_perform
              rintro later next _ hLater hMore ⟨rfl, rfl⟩
              refine ⟨hLater.still rfl (fun _ => rfl) rfl, fun hRead => ?_⟩
              refine hInduction hRead ?_ ?_ hSlot
              · refine (hRecorded.suffix hSuffix).suffix (hGrown.trans ?_)
                exact (List.suffix_cons _ _).trans (hMore.trans (List.suffix_cons _ _))
              · rintro value hValue
                exact did_self ⟨rfl, hValue⟩
      · rintro error world _ _ _ _ _ value ⟨⟩

/-- The record that a candidate binding would be. -/
abbrev CandidateFor (activation : String) (candidate : ℕ → ActivationBinding) : Prop :=
  ∀ slot, (candidate slot).activationSignature = activation ∧
    (candidate slot).landedSlot = some slot

theorem bindingTo_candidateRecord {candidate : ℕ → ActivationBinding} {current : Option Entry}
    (hInvariant : BindingInvariant start delegation before)
    (hCandidate : CandidateFor activation candidate)
    (hOther : ∀ value, current = some value → value.activationSignature ≠ some activation) :
    BindingTo start delegation caller (fun outcome _ => ∀ value, outcome = .ok value →
      RecordOf start.slots activation value) (candidateRecord activation current candidate).run
        before := by
  have hFresh : BindingTo start delegation caller (fun outcome _ => ∀ value,
      outcome = .ok value → RecordOf start.slots activation value)
      (freshBinding activation candidate).run before := by
    apply Environment.Safe.fallible_bind hInvariant bindingTo_ownSlot
    · rintro slot world _ _ hSlot _ _ value ⟨⟩
      refine ⟨congrArg some (hCandidate slot).1, ?_⟩
      rw [← hSlot slot rfl]
      exact (hCandidate slot).2
    · rintro error world _ _ _ _ _ value ⟨⟩
  cases current with
  | none => exact hFresh
  | some value =>
      simp only [candidateRecord]
      rw [if_neg (hOther value rfl)]
      exact hFresh

theorem bindingTo_claimActivation {candidate : ℕ → ActivationBinding}
    {current recorded : Option Entry} (hInvariant : BindingInvariant start delegation before)
    (hCandidate : CandidateFor activation candidate)
    (hOther : recorded = none → ∀ value, current = some value →
      value.activationSignature ≠ some activation)
    (hRecorded : ∀ value, recorded = some value →
      Did before.history caller (reveals (activationKey activation) value)) :
    BindingTo start delegation caller (fun outcome world => ∀ value, outcome = .ok value →
      Did world.history caller (reveals (activationKey activation) value))
        (claimActivation activation current recorded candidate).run before := by
  cases recorded with
  | some record =>
      rintro world hInterferes value ⟨⟩
      exact (hRecorded record rfl).suffix hInterferes.suffix
  | none =>
      apply Environment.Safe.fallible_bind hInvariant
        (bindingTo_candidateRecord hInvariant hCandidate (hOther rfl))
      · intro written world _ _ hWritten
        apply bindingTo_perform
        intro now first state hNow _ hEffect
        rcases hEffect with ⟨hAbsent, rfl, rfl⟩ | ⟨-, rfl, rfl⟩
        · refine ⟨hNow.writeRecord hAbsent (hWritten written rfl), ?_⟩
          rintro - world hInterferes value ⟨⟩
          exact (did_self ⟨rfl, rfl, rfl⟩).suffix hInterferes.suffix
        · refine ⟨hNow.still rfl (fun _ => rfl) rfl, fun _ => ?_⟩
          apply bindingTo_perform
          rintro later record _ hLater _ ⟨rfl, rfl⟩
          refine ⟨hLater.still rfl (fun _ => rfl) rfl, fun _ => ?_⟩
          cases hRecord : later.state.entries (activationKey activation) with
          | none => rintro _ _ value ⟨⟩
          | some record =>
              rintro world hInterferes value ⟨⟩
              exact (did_self ⟨rfl, rfl⟩).suffix hInterferes.suffix
      · rintro error world _ _ _ _ _ value ⟨⟩

/-- What a call knows that bound an activation. -/
abbrev BoundBy (delegation : Pubkey) (caller : Caller) (activation : String) (bound : Entry)
    (world : SubscriptionWorld Caller) : Prop :=
  Did world.history caller (reveals (activationKey activation) bound) ∧
    Did world.history caller (reveals (subscriptionBindingKey delegation) bound)

theorem bindingTo_publishActivationBinding {candidate : ℕ → ActivationBinding}
    (hCandidate : CandidateFor activation candidate) :
    BindingTo start delegation caller (fun outcome world => ∀ bound, outcome = .ok bound →
      BoundBy delegation caller activation bound world)
        (publishActivationBinding (subscriptionBindingKey delegation) activation candidate).run
          before := by
  apply bindingTo_perform
  rintro first current _ hFirst _ ⟨hCurrent, rfl⟩
  refine ⟨hFirst.still rfl (fun _ => rfl) rfl, fun _ => ?_⟩
  have hSeen : ∀ value, current = some value → Did (first.record
      ⟨caller, .get (subscriptionBindingKey delegation), current⟩ first.state).history caller
        (reveals (subscriptionBindingKey delegation) value) :=
    fun value hValue => did_self ⟨rfl, hValue⟩
  apply bindingTo_perform
  rintro second recorded _ hSecond hGrown ⟨hRecorded, rfl⟩
  refine ⟨hSecond.still rfl (fun _ => rfl) rfl, fun hKept => ?_⟩
  have hOther : recorded = none → ∀ value, current = some value →
      value.activationSignature ≠ some activation := by
    intro hNone value hValue hSame
    have hKnown : Seen start delegation second value :=
      .inr ⟨caller, (hSeen value hValue).suffix hGrown⟩
    rcases (hSecond.shown value hKnown).1 with ⟨signature, hEntry⟩
    have hSignature := (hSecond.records signature value hEntry).1
    obtain rfl : signature = activation := Option.some.inj (hSignature.symm.trans hSame)
    rw [← hRecorded, hNone] at hEntry
    cases hEntry
  apply Environment.Safe.fallible_bind hKept
    (bindingTo_claimActivation hKept hCandidate hOther fun value hValue => did_self ⟨rfl, hValue⟩)
  · intro bound world hWorld hSuffix hClaimed
    have hBound := hClaimed bound rfl
    have hRecord := hWorld.records activation bound (hWorld.recorded caller activation bound hBound)
    have hRead : ∀ value, current = some value →
        Did world.history caller (reveals (subscriptionBindingKey delegation) value) := by
      intro value hValue
      exact ((hSeen value hValue).suffix hGrown).suffix ((List.suffix_cons _ _).trans hSuffix)
    apply (bindingTo_publishBinding hWorld hBound hRead ?_).weaken
    · rintro outcome later _ hLater hPublished value hValue
      rcases hPublished value hValue with ⟨rfl, hShown⟩
      exact ⟨hBound.suffix hLater, hShown⟩
    · intro slot hSlot
      exact Option.some.inj (hSlot.symm.trans hRecord.2)
  · rintro error world _ _ _ _ _ bound ⟨⟩

theorem bindingTo_elsewhere {program : Program SubscriptionCall SubscriptionReply Result}
    (hUses : program.Uses ReadsChain) :
    BindingTo start delegation caller (fun _ _ => True) program before :=
  bindingTo_of_uses (hUses.mono fun _ => ReadsChain.elsewhere)

/-- What the receipt of an activation says of the binding. -/
abbrev Activated (delegation : Pubkey) (caller : Caller) (activation : PreparedActivation)
    (signature : String) (receipt : SubscriptionReceipt) (world : SubscriptionWorld Caller) :
    Prop :=
  ∃ bound, BoundBy delegation caller signature bound world ∧
    bound.challengeId = activation.challengeId ∧
      receipt.base = .success signature activation.challengeId

theorem bindingTo_bindConfirmedActivation {server : SubscriptionServer}
    {presented : PreparedActivation} (hInvariant : BindingInvariant start delegation before)
    (hDelegation : server.subscriptionPda presented.subscriber = delegation) :
    BindingTo start delegation caller (fun outcome world => ∀ receipt, outcome = .ok receipt →
      Activated delegation caller presented activation receipt world)
        (bindConfirmedActivation server presented activation).run before := by
  apply Environment.Safe.fallible_bind hInvariant (bindingTo_elsewhere uses_confirmedDelegation)
  · rintro ⟨found, periodHours⟩ world hWorld _ _
    have hCandidate : CandidateFor activation (candidateBinding server presented activation found) :=
      fun _ => ⟨rfl, rfl⟩
    rw [hDelegation]
    apply Environment.Safe.fallible_bind hWorld (bindingTo_publishActivationBinding hCandidate)
    · intro bound later _ _ hBound
      split
      · rintro _ _ receipt ⟨⟩
      · rename_i hChallenge
        rintro last hInterferes receipt ⟨⟩
        rcases hBound bound rfl with ⟨hRecorded, hShown⟩
        exact ⟨bound, ⟨hRecorded.suffix hInterferes.suffix, hShown.suffix hInterferes.suffix⟩,
          not_not.mp hChallenge, rfl⟩
    · rintro error later _ _ _ _ _ receipt ⟨⟩
  · rintro error world _ _ _ _ _ receipt ⟨⟩

theorem uses_tryReserve_elsewhere {signature challengeId : String} :
    (tryReserveActivationSignature (consumedKey signature) challengeId).run.Uses Elsewhere := by
  refine ⟨⟨signature, rfl⟩, fun reserved => ?_⟩
  cases reserved with
  | true => trivial
  | false => exact ⟨trivial, fun _ => trivial⟩

theorem uses_reserve_elsewhere {signature challengeId : String} :
    (reserveActivationSignature (consumedKey signature) challengeId).run.Uses Elsewhere := by
  apply Fallible.uses_bind uses_tryReserve_elsewhere
  rintro (_ | _) <;> trivial

theorem uses_ensureActivationLanded_elsewhere {signature : String} :
    (ensureActivationLanded signature).run.Uses Elsewhere := by
  refine ⟨trivial, ?_⟩
  rintro (error | _ | _ | error) <;> trivial

theorem bindingTo_check {result : Except VerificationError Result} :
    BindingTo start delegation caller (fun outcome _ => outcome = result) (check result).run
      before := by
  cases result with
  | ok value => exact fun _ _ => rfl
  | error error => exact fun _ _ => rfl

/-- What an answered activation knows. -/
abbrev ActivationPost (delegation : Pubkey) (caller : Caller) (presented : PreparedActivation)
    (outcome : SubscriptionAnswer) (world : SubscriptionWorld Caller) : Prop :=
  ∀ receipt, outcome = .ok (some receipt) → ∃ signature, presented.signature = .ok signature ∧
    Activated delegation caller presented signature receipt world

theorem bindingTo_verifyActivation {server : SubscriptionServer}
    {presented : PreparedActivation} {rounds : ℕ}
    (hInvariant : BindingInvariant start delegation before)
    (hDelegation : server.subscriptionPda presented.subscriber = delegation) :
    BindingTo start delegation caller (ActivationPost delegation caller presented)
      (verifyActivation server presented rounds).run before := by
  have hFailed : ∀ (error : VerificationError) (world : SubscriptionWorld Caller),
      BindingTo start delegation caller (ActivationPost delegation caller presented)
        (.done (.error error)) world := by
    rintro error world _ _ receipt ⟨⟩
  have hBind : ∀ (signature : String) (world : SubscriptionWorld Caller),
      presented.signature = .ok signature → BindingInvariant start delegation world →
        BindingTo start delegation caller (ActivationPost delegation caller presented)
          (do return some (← bindConfirmedActivation server presented signature) :
            SubscriptionM (Option SubscriptionReceipt)).run world := by
    intro signature world hSignature hWorld
    apply Environment.Safe.fallible_bind hWorld
      (bindingTo_bindConfirmedActivation hWorld hDelegation) _ fun _ _ _ _ _ => hFailed _ _
    rintro receipt later _ _ hReceipt last hInterferes _ ⟨⟩
    rcases hReceipt receipt rfl with ⟨bound, ⟨hRecorded, hShown⟩, hFacts⟩
    exact ⟨signature, hSignature, bound, ⟨hRecorded.suffix hInterferes.suffix,
      hShown.suffix hInterferes.suffix⟩, hFacts⟩
  have hRead : ReadsChain (.fetchDelegation (server.subscriptionPda presented.subscriber)) :=
    trivial
  apply Environment.Safe.fallible_bind hInvariant
    (bindingTo_elsewhere (uses_call hRead)) _ fun _ _ _ _ _ => hFailed _ _
  intro found world hWorld _ _
  apply Environment.Safe.fallible_bind hWorld bindingTo_check _ fun _ _ _ _ _ => hFailed _ _
  intro signature checked hChecked _ hSignature
  have hFresh : BindingTo start delegation caller
      (ActivationPost delegation caller presented)
      (broadcastActivation server presented rounds signature).run checked := by
    apply Environment.Safe.fallible_bind hChecked
      (bindingTo_of_uses uses_reserve_elsewhere) _ fun _ _ _ _ _ => hFailed _ _
    intro _ reserved hReserved _ _
    apply Environment.Safe.fallible_bind hReserved
      (bindingTo_elsewhere (uses_node _)) _ fun _ _ _ _ _ => hFailed _ _
    rintro (_ | failure | landed) ended hEnded _ _
    · rintro _ _ receipt ⟨⟩
    · cases failure with
      | unknown error => exact hFailed error ended
      | rejected error =>
          have hDrop : Elsewhere (.delete (consumedKey signature)) := ⟨signature, rfl⟩
          apply Environment.Safe.fallible_bind hEnded
            (bindingTo_of_uses (uses_call hDrop)) _ fun _ _ _ _ _ => hFailed _ _
          exact fun _ _ _ _ _ => hFailed error _
    · exact hBind signature ended hSignature.symm hEnded
  rcases found with error | _ | found
  · exact hFresh
  · exact hFresh
  · apply Environment.Safe.fallible_bind hChecked
      (bindingTo_of_uses uses_ensureActivationLanded_elsewhere) _ fun _ _ _ _ _ => hFailed _ _
    intro _ landed hLanded _ _
    apply Environment.Safe.fallible_bind hLanded
      (bindingTo_of_uses uses_tryReserve_elsewhere) _ fun _ _ _ _ _ => hFailed _ _
    exact fun _ held hHeld _ _ => hBind signature held hSignature.symm hHeld

/-- The call read the current binding. -/
def readsBinding (delegation : Pubkey) (value : Entry) :
    (request : SubscriptionCall) → SubscriptionReply request → Prop
  | .get other, reply => other = subscriptionBindingKey delegation ∧ reply = some value
  | _, _ => False

/-- What a granted access knows: it compared its proof with the binding that it read. -/
abbrev AccessPost (delegation : Pubkey) (caller : Caller) (presented : PreparedAccess)
    (outcome : SubscriptionAnswer) (world : SubscriptionWorld Caller) : Prop :=
  ∀ receipt, outcome = .ok (some receipt) → ∃ bound reference,
    Did world.history caller (readsBinding delegation bound) ∧
      bound.challengeId = presented.challengeId ∧
        bound.authentication = some presented.authentication ∧
          bound.activationSignature = some reference ∧
            receipt.base = .success reference presented.challengeId

theorem bindingKey_of_checkAccess {server : SubscriptionServer} {presented : PreparedAccess}
    {payer : Pubkey} (hChecked : checkAccess server presented = .ok payer)
    (hDelegation : presented.subscriptionDelegation = delegation.display) :
    subscriptionBindingKey (server.subscriptionPda payer) = subscriptionBindingKey delegation := by
  simp only [checkAccess, bind_eq_ok, refuseIf_eq_ok, exists_const] at hChecked
  rcases hChecked with ⟨-, found, -, hSame, valid, -, -, hPayer⟩
  cases hPayer
  unfold subscriptionBindingKey
  rw [← not_not.mp hSame, hDelegation]

theorem matches_of_checkBinding {presented : PreparedAccess} {found : Option Entry}
    {bound : Entry} (hChecked : checkBinding presented found = .ok bound) :
    found = some bound ∧ bound.challengeId = presented.challengeId ∧
      bound.authentication = some presented.authentication := by
  simp only [checkBinding, bind_eq_ok, okOr_eq_ok, refuseIf_eq_ok, exists_const, not_or,
    not_not] at hChecked
  rcases hChecked with ⟨stored, hStored, ⟨hChallenge, hProof⟩, hBound⟩
  cases hBound
  exact ⟨hStored, hChallenge, hProof⟩

theorem bindingTo_verifyAccessCredential {server : SubscriptionServer}
    {presented : PreparedAccess} (hInvariant : BindingInvariant start delegation before)
    (hDelegation : presented.subscriptionDelegation = delegation.display) :
    BindingTo start delegation caller (AccessPost delegation caller presented)
      (verifyAccessCredential server presented).run before := by
  have hFailed : ∀ (error : VerificationError) (world : SubscriptionWorld Caller),
      BindingTo start delegation caller (AccessPost delegation caller presented)
        (.done (.error error)) world := by
    rintro error world _ _ receipt ⟨⟩
  apply Environment.Safe.fallible_bind hInvariant bindingTo_check _ fun _ _ _ _ _ => hFailed _ _
  intro payer checked hChecked _ hPayer
  apply bindingTo_perform
  rintro now found _ hNow _ ⟨-, rfl⟩
  refine ⟨hNow.still rfl (fun _ => rfl) rfl, fun hRead => ?_⟩
  apply Environment.Safe.fallible_bind hRead bindingTo_check _ fun _ _ _ _ _ => hFailed _ _
  intro bound matched hMatched hGrown hBound
  have hMatches := matches_of_checkBinding hBound.symm
  have hReading : Did matched.history caller (readsBinding delegation bound) := by
    have hReads : readsBinding delegation bound
        (.get (subscriptionBindingKey (server.subscriptionPda payer))) found :=
      ⟨bindingKey_of_checkAccess hPayer.symm hDelegation, hMatches.1⟩
    exact (did_self hReads).suffix hGrown
  apply Environment.Safe.fallible_bind hMatched bindingTo_check _ fun _ _ _ _ _ => hFailed _ _
  intro expectedAmount first hFirst hToFirst _
  apply Environment.Safe.fallible_bind hFirst bindingTo_check _ fun _ _ _ _ _ => hFailed _ _
  intro periodHours second hSecond hToSecond _
  apply Environment.Safe.fallible_bind hSecond (bindingTo_elsewhere uses_activeDelegation) _
    fun _ _ _ _ _ => hFailed _ _
  rintro ⟨live, ends⟩ third hThird hToThird _
  apply Environment.Safe.fallible_bind hThird bindingTo_check _ fun _ _ _ _ _ => hFailed _ _
  intro anchor fourth hFourth hToFourth _
  apply Environment.Safe.fallible_bind hFourth bindingTo_check _ fun _ _ _ _ _ => hFailed _ _
  intro subscriptionId fifth hFifth hToFifth _
  apply Environment.Safe.fallible_bind hFifth bindingTo_check _ fun _ _ _ _ _ => hFailed _ _
  intro reference sixth hSixth hToSixth hReference
  apply Environment.Safe.fallible_bind hSixth bindingTo_check _ fun _ _ _ _ _ => hFailed _ _
  rintro index seventh _ hToSeventh _ last hInterferes receipt ⟨⟩
  have hEarly := hToFirst.trans (hToSecond.trans (hToThird.trans hToFourth))
  have hLate := hToFifth.trans (hToSixth.trans (hToSeventh.trans hInterferes.suffix))
  refine ⟨bound, reference, hReading.suffix (hEarly.trans hLate), hMatches.2.1, hMatches.2.2,
    ?_, rfl⟩
  exact okOr_eq_ok.mp hReference.symm

end

/-! ### The runs -/

/-- A party that presents a credential of the delegation, if it presents one. -/
def SubscriptionRole.Concerns (server : SubscriptionServer) (delegation : Pubkey) :
    SubscriptionRole → Prop
  | activation presented _ => server.subscriptionPda presented.subscriber = delegation
  | access presented => presented.subscriptionDelegation = delegation.display
  | chain _ => True

/-- What a party that was answered knows. -/
def SubscriptionRole.Post (delegation : Pubkey) (caller : Caller) :
    SubscriptionRole → SubscriptionAnswer → SubscriptionWorld Caller → Prop
  | activation presented _, answer, world => ActivationPost delegation caller presented answer world
  | access presented, answer, world => AccessPost delegation caller presented answer world
  | chain _, answer, _ => answer = .ok none

/-- Every stored record is one that this release writes. -/
structure NoLegacyRecords (delegation : Pubkey) (state : SubscriptionState) : Prop where
  records : ∀ signature value, state.entries (activationKey signature) = some value →
    RecordOf state.slots signature value
  current : ∀ value, state.entries (subscriptionBindingKey delegation) = some value →
    ∃ signature, state.entries (activationKey signature) = some value

section

variable {server : SubscriptionServer} {roles : Caller → SubscriptionRole} {delegation : Pubkey}
  {state : SubscriptionState} {reached : SubscriptionRun Caller} {caller : Caller}

theorem bindingInvariant_start (hStored : NoLegacyRecords delegation state) :
    BindingInvariant state delegation (⟨state, []⟩ : SubscriptionWorld Caller) where
  slots_eq := rfl
  records := hStored.records
  current := hStored.current
  recorded _ _ _ hDid := absurd hDid not_did_nil
  seen _ hEntry := .inl hEntry
  shown value hSeen := by
    rcases hSeen with hStart | ⟨caller, hDid⟩
    · exact ⟨hStored.current value hStart, value, hStart, .inl rfl⟩
    · exact absurd hDid not_did_nil

theorem bindingTo_chainProgram {start : SubscriptionState} {before : SubscriptionWorld Caller}
    (hInvariant : BindingInvariant start delegation before) (signatures : List String) :
    BindingTo start delegation caller (fun outcome _ => outcome = .ok none)
      (chainProgram signatures).run before := by
  induction signatures generalizing before with
  | nil => exact fun _ _ => rfl
  | cons signature signatures hInduction =>
      apply bindingTo_perform
      intro now reply next hNow _ hEffect
      have hElsewhere : Elsewhere (.chain signature) := trivial
      exact ⟨hNow.elsewhere hElsewhere hEffect, hInduction⟩

theorem bindingTo_program {start : SubscriptionState} {before : SubscriptionWorld Caller}
    {role : SubscriptionRole} (hInvariant : BindingInvariant start delegation before)
    (hConcerns : role.Concerns server delegation) :
    BindingTo start delegation caller (role.Post delegation caller) (role.program server)
      before := by
  cases role with
  | activation presented rounds => exact bindingTo_verifyActivation hInvariant hConcerns
  | access presented => exact bindingTo_verifyAccessCredential hInvariant hConcerns
  | chain signatures => exact bindingTo_chainProgram hInvariant signatures

variable [DecidableEq Caller]

theorem bindingInvariant_of_reachable (hStored : NoLegacyRecords delegation state)
    (hConcerns : ∀ caller, (roles caller).Concerns server delegation)
    (hRun : anyOrder.Reachable (startOf server roles state) reached) :
    BindingInvariant state delegation reached.world ∧ ∀ caller,
      BindingTo state delegation caller ((roles caller).Post delegation caller)
        (reached.threads caller) reached.world :=
  Environment.safe_of_reachable (bindingInvariant_start hStored)
    (fun caller => bindingTo_program (bindingInvariant_start hStored) (hConcerns caller)) hRun

theorem record_of_receipt (hStored : NoLegacyRecords delegation state)
    (hConcerns : ∀ caller, (roles caller).Concerns server delegation)
    (hRun : anyOrder.Reachable (startOf server roles state) reached)
    {receipt : SubscriptionReceipt} (hAnswer : reached.threads caller = .done (.ok (some receipt))) :
    ∃ record, reached.world.state.entries (activationKey receipt.base.reference) = some record ∧
      record.challengeId = receipt.base.challengeId := by
  rcases bindingInvariant_of_reachable hStored hConcerns hRun with ⟨hInvariant, hSafe⟩
  have hPost := hSafe caller
  rw [hAnswer] at hPost
  have hKnown := hPost.post_of_done hInvariant
  cases hRole : roles caller with
  | activation presented rounds =>
      rw [hRole] at hKnown
      rcases hKnown receipt rfl with ⟨signature, -, bound, ⟨hRecorded, -⟩, hChallenge, hReceipt⟩
      rw [hReceipt]
      exact ⟨bound, hInvariant.recorded caller signature bound hRecorded, hChallenge⟩
  | access presented =>
      rw [hRole] at hKnown
      rcases hKnown receipt rfl with ⟨bound, reference, hRead, hChallenge, -, hReference, hReceipt⟩
      have hShown : Did reached.world.history caller
          (reveals (subscriptionBindingKey delegation) bound) := by
        refine hRead.mono ?_
        intro request reply hReads
        cases request with
        | get key => exact hReads
        | _ => exact hReads.elim
      rcases (hInvariant.shown bound (.inr ⟨caller, hShown⟩)).1 with ⟨signature, hEntry⟩
      have hSignature := (hInvariant.records signature bound hEntry).1
      obtain rfl : signature = reference := Option.some.inj (hSignature.symm.trans hReference)
      rw [hReceipt]
      exact ⟨bound, hEntry, hChallenge⟩
  | chain signatures =>
      rw [hRole] at hKnown
      cases hKnown

/-- The current binding of a later moment is the same, or landed in a later slot. -/
theorem current_of_later (hStored : NoLegacyRecords delegation state)
    (hConcerns : ∀ caller, (roles caller).Concerns server delegation)
    (hRun : anyOrder.Reachable (startOf server roles state) reached)
    {later : SubscriptionRun Caller} (hLater : anyOrder.Reachable reached later) {value : Entry}
    (hValue : reached.world.state.entries (subscriptionBindingKey delegation) = some value) :
    ∃ newer, later.world.state.entries (subscriptionBindingKey delegation) = some newer ∧
      NoEarlier value newer := by
  have hNow := (bindingInvariant_of_reachable hStored hConcerns hRun).1
  have hThen := (bindingInvariant_of_reachable hStored hConcerns (hRun.trans hLater)).1
  have hSeen : Seen state delegation later.world value := by
    rcases hNow.seen value hValue with hStart | ⟨caller, hDid⟩
    · exact .inl hStart
    · exact .inr ⟨caller, hDid.suffix (Environment.Reachable.history_suffix hLater)⟩
  exact (hThen.shown value hSeen).2

theorem current_of_activated (hStored : NoLegacyRecords delegation state)
    (hConcerns : ∀ caller, (roles caller).Concerns server delegation)
    (hRun : anyOrder.Reachable (startOf server roles state) reached)
    {presented : PreparedActivation} {rounds : ℕ} (hRole : roles caller = .activation presented rounds)
    {receipt : SubscriptionReceipt} (hAnswer : reached.threads caller = .done (.ok (some receipt))) :
    ∃ record newer,
      reached.world.state.entries (activationKey receipt.base.reference) = some record ∧
        reached.world.state.entries (subscriptionBindingKey delegation) = some newer ∧
          NoEarlier record newer := by
  rcases bindingInvariant_of_reachable hStored hConcerns hRun with ⟨hInvariant, hSafe⟩
  have hPost := hSafe caller
  rw [hAnswer, hRole] at hPost
  rcases hPost.post_of_done hInvariant receipt rfl with
    ⟨signature, -, bound, ⟨hRecorded, hShown⟩, -, hReceipt⟩
  rcases (hInvariant.shown bound (.inr ⟨caller, hShown⟩)).2 with ⟨newer, hNewer, hLater⟩
  rw [hReceipt]
  exact ⟨bound, newer, hInvariant.recorded caller signature bound hRecorded, hNewer, hLater⟩

/-- Access was granted for the binding that was stored at some moment of the call. -/
theorem binding_of_access (hStored : NoLegacyRecords delegation state)
    (hConcerns : ∀ caller, (roles caller).Concerns server delegation)
    (hRun : anyOrder.Reachable (startOf server roles state) reached)
    {presented : PreparedAccess} (hRole : roles caller = .access presented)
    {receipt : SubscriptionReceipt} (hAnswer : reached.threads caller = .done (.ok (some receipt))) :
    ∃ moment bound, anyOrder.Reachable (startOf server roles state) moment ∧
      anyOrder.Reachable moment reached ∧
        (∃ next, moment.threads caller = .perform (.get (subscriptionBindingKey delegation)) next) ∧
          moment.world.state.entries (subscriptionBindingKey delegation) = some bound ∧
            bound.challengeId = presented.challengeId ∧
              bound.authentication = some presented.authentication := by
  rcases bindingInvariant_of_reachable hStored hConcerns hRun with ⟨hInvariant, hSafe⟩
  have hPost := hSafe caller
  rw [hAnswer, hRole] at hPost
  rcases hPost.post_of_done hInvariant receipt rfl with
    ⟨bound, reference, ⟨event, hEvent, hOwn, hReads⟩, hChallenge, hProof, -, -⟩
  rcases hRun.step_of_mem hEvent List.not_mem_nil with ⟨moment, next, hBefore, hStep, hHistory, hRest⟩
  refine ⟨moment, bound, hBefore, (Relation.ReflTransGen.single hStep).trans hRest, ?_⟩
  cases hStep with
  | perform mover request rest reply after hWaiting hAnswered hAllowed =>
      obtain rfl : (⟨mover, request, reply⟩ : SubscriptionEvent Caller) = event :=
        (List.cons.inj hHistory).1
      cases request with
      | get key =>
          rcases hReads with ⟨rfl, hReply⟩
          subst hOwn
          exact ⟨⟨rest, hWaiting⟩, hAnswered.1.symm.trans hReply, hChallenge, hProof⟩
      | _ => exact hReads.elim

/-- Whatever the order of the calls of a delegation, the receipts of one activation carry one
challenge, the current binding only moves to later slots, an answered activation is current or
superseded by a later one, and access is granted for the stored binding only. -/
theorem activation_binding_linear (hStored : NoLegacyRecords delegation state)
    (hConcerns : ∀ caller, (roles caller).Concerns server delegation)
    (hRun : anyOrder.Reachable (startOf server roles state) reached) :
    (∀ first second one other, reached.threads first = .done (.ok (some one)) →
      reached.threads second = .done (.ok (some other)) →
        one.base.reference = other.base.reference →
          one.base.challengeId = other.base.challengeId) ∧
    (∀ later, anyOrder.Reachable reached later → ∀ value,
      reached.world.state.entries (subscriptionBindingKey delegation) = some value →
        ∃ newer, later.world.state.entries (subscriptionBindingKey delegation) = some newer ∧
          NoEarlier value newer) ∧
    (∀ caller presented rounds receipt, roles caller = .activation presented rounds →
      reached.threads caller = .done (.ok (some receipt)) → ∃ record newer,
        reached.world.state.entries (activationKey receipt.base.reference) = some record ∧
          reached.world.state.entries (subscriptionBindingKey delegation) = some newer ∧
            NoEarlier record newer) ∧
    ∀ caller presented receipt, roles caller = .access presented →
      reached.threads caller = .done (.ok (some receipt)) → ∃ moment bound,
        anyOrder.Reachable (startOf server roles state) moment ∧
          anyOrder.Reachable moment reached ∧
            (∃ next, moment.threads caller =
              .perform (.get (subscriptionBindingKey delegation)) next) ∧
              moment.world.state.entries (subscriptionBindingKey delegation) = some bound ∧
                bound.challengeId = presented.challengeId ∧
                  bound.authentication = some presented.authentication := by
  refine ⟨?_, ?_, ?_, ?_⟩
  · intro first second one other hFirst hSecond hSame
    rcases record_of_receipt hStored hConcerns hRun hFirst with ⟨record, hRecord, hChallenge⟩
    rcases record_of_receipt hStored hConcerns hRun hSecond with ⟨found, hFound, hOther⟩
    rw [← hSame, hRecord] at hFound
    cases hFound
    exact hChallenge.symm.trans hOther
  · exact fun later hLater value => current_of_later hStored hConcerns hRun hLater
  · intro caller presented rounds receipt hRole hAnswer
    exact current_of_activated hStored hConcerns hRun hRole hAnswer
  · intro caller presented receipt hRole hAnswer
    exact binding_of_access hStored hConcerns hRun hRole hAnswer

end

/-! ### A schedule -/

/-- The node has seen the delegation. -/
def handleLive (live : SubscriptionDelegationView) (_ : Unit) :
    (request : SubscriptionCall) → SubscriptionState →
      SubscriptionReply request × SubscriptionState
  | .fetchDelegation _, state => (.ok (some live), state)
  | .fetchAuthorityInitId _, state => (.ok live.authorityInitId, state)
  | request, state => handle .truthful request state

theorem effect_handleLive (live : SubscriptionDelegationView) (turn : Unit)
    (request : SubscriptionCall) (state : SubscriptionState) :
    effect request state (handleLive live turn request state).1
      (handleLive live turn request state).2 := by
  cases request with
  | fetchDelegation pda => rfl
  | fetchAuthorityInitId pda => rfl
  | _ => exact effect_handle .truthful _ state

inductive Holder where
  | subscriber
  | rival
  | reader
deriving DecidableEq

def paidDelegation : SubscriptionDelegationView where
  subscriber := systemProgram
  planPda := systemProgram
  authorityInitId := 0
  amountPerPeriod := 1
  periodHours := 24
  currentPeriodStartTs := 0
  amountPulledInPeriod := 1
  expiresAtTs := 0

def provenActivation : PreparedActivation :=
  { plainActivation with authentication := ⟨"challenge", systemProgram.display, "proof"⟩ }

/-- The same activation under another challenge. -/
def rivalActivation : PreparedActivation :=
  { plainActivation with
    challengeId := "rival"
    authentication := ⟨"rival", systemProgram.display, "proof"⟩ }

def provenAccess : PreparedAccess where
  challengeId := "challenge"
  subscriptionDelegation := systemProgram.display
  authentication := provenActivation.authentication
  terms := provenActivation.terms
  now := 0

def holders : Holder → SubscriptionRole
  | .subscriber => .activation provenActivation 1
  | .rival => .activation rivalActivation 1
  | .reader => .access provenAccess

/-- The activation has landed, and nothing is stored. -/
def landedUnbound : SubscriptionState :=
  { nothingStored with landings := fun _ => { forwarded := true, outcome := some .succeeded } }

/-- The subscriber and a rival race to bind one activation, and the proof is presented. -/
def boundAndRead : SubscriptionRun Holder :=
  (startOf plainServer holders landedUnbound).runSchedule (handleLive paidDelegation)
    (List.replicate 8 (.rival, ()) ++ List.replicate 11 (.subscriber, ()) ++
      List.replicate 4 (.rival, ()) ++ List.replicate 3 (.reader, ()))

def holderReceipt : SubscriptionReceipt where
  base := .success "signature" "challenge"
  subscriptionId := "challenge"
  subscriptionDelegation := systemProgram.display
  periodIndex := 0
  periodStart := 0
  periodEnd := 86400
  expiresAt := none

/-- The answer of a party that is done. -/
def answerOf (run : SubscriptionRun Caller) (caller : Caller) : Option SubscriptionAnswer :=
  match run.threads caller with
  | .done answer => some answer
  | .perform _ _ => none

theorem threads_of_answerOf {run : SubscriptionRun Caller} {caller : Caller}
    {answer : SubscriptionAnswer} (hAnswer : answerOf run caller = some answer) :
    run.threads caller = .done answer := by
  unfold answerOf at hAnswer
  split at hAnswer
  · rename_i found hDone
    rw [hDone, Option.some.inj hAnswer]
  · cases hAnswer

theorem activation_binding_linear_of_boundAndRead :
    answerOf boundAndRead .subscriber = some (.ok (some holderReceipt)) ∧
      answerOf boundAndRead .rival = some (.error alreadyBound) ∧
      answerOf boundAndRead .reader = some (.ok (some holderReceipt)) ∧
      ∃ newer,
        boundAndRead.world.state.entries (subscriptionBindingKey systemProgram) = some newer := by
  have hStored : NoLegacyRecords systemProgram landedUnbound := by
    refine ⟨?_, ?_⟩
    · intro signature value hNone
      cases hNone
    · intro value hNone
      cases hNone
  have hConcerns : ∀ holder, (holders holder).Concerns plainServer systemProgram := by
    rintro (_ | _ | _) <;> rfl
  have hRun : anyOrder.Reachable (startOf plainServer holders landedUnbound) boundAndRead :=
    Config.reachable_runSchedule (effect_handleLive paidDelegation) _ _
      (Config.permitted_of_unrestricted (fun _ _ => trivial) _ _)
  have hSubscriber : answerOf boundAndRead .subscriber = some (.ok (some holderReceipt)) := by
    decide +kernel
  rcases (activation_binding_linear hStored hConcerns hRun).2.2.1 .subscriber provenActivation 1
    holderReceipt rfl (threads_of_answerOf hSubscriber) with ⟨record, newer, -, hNewer, -⟩
  exact ⟨hSubscriber, by decide +kernel, by decide +kernel, newer, hNewer⟩

end PayKit.Subscription
