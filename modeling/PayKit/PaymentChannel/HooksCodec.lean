import PayKit.Control.History
import PayKit.Encoding.SelfDelimiting
import PayKit.PaymentChannel.Hooks

/-!
# The two encodings of the hooks

Valid hooks are written to the windows of the account and read back as they were; what is read
from an account is written back to the same bytes; and the suffix of `open` determines its hooks,
whatever follows it. Texts of keys are canonical, so that the hooks that are read back are the same
texts.
-/

namespace PayKit.PaymentChannel

open Control Encoding Faulting Machine Solana Tx
open BatchSettlement (parsePubkey pubkeyOfBytes)

/-! ### Keys and their texts -/

theorem parsePubkey_eq_ok {text : String} {key : Pubkey} :
    parsePubkey text = .ok key ↔ Pubkey.fromStr text = .ok key := by
  unfold parsePubkey
  cases Pubkey.fromStr text with
  | ok parsed => simp
  | error error => exact ⟨nofun, nofun⟩

theorem parsePubkey_display (key : Pubkey) : parsePubkey key.display = .ok key :=
  parsePubkey_eq_ok.mpr (Pubkey.fromStr_display key)

theorem display_of_parsePubkey {text : String} {key : Pubkey}
    (hParsed : parsePubkey text = .ok key) : key.display = text :=
  Pubkey.display_of_fromStr (parsePubkey_eq_ok.mp hParsed)

theorem pubkeyOfBytes_bytes (key : Pubkey) : pubkeyOfBytes key.bytes = some key := by
  rw [pubkeyOfBytes, dif_pos key.length_bytes]

/-- The bytes of the key that a text names. -/
def keyBytes (text : String) : List UInt8 :=
  ((parsePubkey text).toOption.map Pubkey.bytes).getD []

def Named (text : String) : Prop :=
  ∃ key, parsePubkey text = .ok key

theorem keyBytes_of_parsePubkey {text : String} {key : Pubkey}
    (hParsed : parsePubkey text = .ok key) : keyBytes text = key.bytes := by
  simp [keyBytes, hParsed, Except.toOption]

theorem length_keyBytes {text : String} (hNamed : Named text) : (keyBytes text).length = 32 := by
  rcases hNamed with ⟨key, hParsed⟩
  rw [keyBytes_of_parsePubkey hParsed, key.length_bytes]

theorem keyBytes_injective {left right : String} (hLeft : Named left) (hRight : Named right)
    (hSame : keyBytes left = keyBytes right) : left = right := by
  rcases hLeft with ⟨key, hKey⟩
  rcases hRight with ⟨other, hOther⟩
  rw [keyBytes_of_parsePubkey hKey, keyBytes_of_parsePubkey hOther] at hSame
  have hKeys : key = other := by
    cases key
    cases other
    simpa using hSame
  rw [← display_of_parsePubkey hKey, ← display_of_parsePubkey hOther, hKeys]

/-! ### What validation ensures -/

/-- The texts of a hook name keys, its program is not zero, and it is within the bounds. -/
structure HookDescriptor.Shaped (hook : HookDescriptor) : Prop where
  program : Named hook.programId
  enabled : keyBytes hook.programId ≠ List.replicate 32 0
  accounts : ∀ account ∈ hook.accounts, Named account.address
  count : hook.accounts.length ≤ maxHookAccounts
  length : hook.staticData.length ≤ maxStaticData

theorem named_of_validateAccounts {program : Pubkey} {seen : List Pubkey}
    {accounts : List HookAccount} (hValid : validateAccounts program seen accounts = .ok ()) :
    ∀ account ∈ accounts, Named account.address := by
  induction accounts generalizing seen with
  | nil => simp
  | cons account accounts hInduction =>
      simp only [validateAccounts, bind_eq_ok, refuseIf_eq_ok] at hValid
      rcases hValid with ⟨address, hAddress, _, -, hRest⟩
      intro other hOther
      rcases List.mem_cons.mp hOther with rfl | hOther
      · exact ⟨address, hAddress⟩
      · exact hInduction hRest other hOther

theorem HookDescriptor.shaped_of_validate {hook : HookDescriptor}
    (hValid : hook.validate = .ok ()) : hook.Shaped := by
  simp only [HookDescriptor.validate, bind_eq_ok, refuseIf_eq_ok, not_or, not_lt] at hValid
  rcases hValid with ⟨program, hProgram, own, -, _, ⟨hZero, -⟩, _, ⟨hCount, hLength⟩, hAccounts⟩
  refine ⟨⟨program, hProgram⟩, ?_, named_of_validateAccounts hAccounts, hCount, hLength⟩
  rw [keyBytes_of_parsePubkey hProgram]
  intro hBytes
  apply hZero
  cases program
  exact Pubkey.mk.injEq .. ▸ hBytes

/-- Each enabled slot has a shaped hook. -/
def ChannelHooks.Shaped (hooks : ChannelHooks) : Prop :=
  ∀ slot ∈ hooks.slots, ∀ hook ∈ slot, hook.Shaped

theorem ChannelHooks.shaped_of_validate {hooks : ChannelHooks} (hValid : hooks.validate = .ok ()) :
    hooks.Shaped := by
  intro slot hSlot hook hHook
  have hChecked := forM_eq_ok hValid slot hSlot
  rw [Option.mem_def] at hHook
  subst hHook
  exact HookDescriptor.shaped_of_validate hChecked

/-! ### The bytes of the encodings -/

def HookAccount.bytes (account : HookAccount) : List UInt8 :=
  keyBytes account.address ++ [flagByte account.writable]

def HookDescriptor.compactBytes (hook : HookDescriptor) : List UInt8 :=
  keyBytes hook.programId ++ hook.entrypoint.bytes ++ [UInt8.ofNat hook.accounts.length] ++
    [UInt8.ofNat hook.staticData.length] ++ hook.staticData ++
      hook.accounts.flatMap HookAccount.bytes

def zeros (count : ℕ) : List UInt8 :=
  List.replicate count 0

/-- The window before the accounts. -/
def HookDescriptor.headBytes (hook : HookDescriptor) : List UInt8 :=
  keyBytes hook.programId ++ hook.entrypoint.bytes ++ [UInt8.ofNat hook.accounts.length] ++
    [UInt8.ofNat hook.staticData.length] ++ hook.staticData ++
      zeros (32 - hook.staticData.length)

def HookDescriptor.windowBytes (hook : HookDescriptor) : List UInt8 :=
  hook.headBytes ++ hook.accounts.flatMap HookAccount.bytes ++
    zeros (132 - 33 * hook.accounts.length)

def slotBytes (slot : Option HookDescriptor) : List UInt8 :=
  slot.elim (zeros hookDescriptorSize) HookDescriptor.windowBytes

def ChannelHooks.fixedBytes (hooks : ChannelHooks) : List UInt8 :=
  hooks.slots.flatMap slotBytes

theorem HookAccount.length_bytes {account : HookAccount} (hNamed : Named account.address) :
    account.bytes.length = 33 := by
  simp [HookAccount.bytes, length_keyBytes hNamed]

theorem length_accountsBytes {accounts : List HookAccount}
    (hNamed : ∀ account ∈ accounts, Named account.address) :
    (accounts.flatMap HookAccount.bytes).length = 33 * accounts.length := by
  induction accounts with
  | nil => rfl
  | cons account accounts hInduction =>
      have hRest := hInduction fun other hOther => hNamed other (List.mem_cons_of_mem _ hOther)
      rw [List.flatMap_cons, List.length_append, hRest, List.length_cons,
        HookAccount.length_bytes (hNamed account List.mem_cons_self)]
      omega

namespace HookDescriptor

variable {hook : HookDescriptor}

theorem Shaped.length_headBytes (hShaped : hook.Shaped) : hook.headBytes.length = 74 := by
  have hLength := hShaped.length
  simp only [maxStaticData] at hLength
  simp [headBytes, zeros, length_keyBytes hShaped.program, hook.entrypoint.length_bytes]
  omega

theorem Shaped.length_windowBytes (hShaped : hook.Shaped) :
    hook.windowBytes.length = hookDescriptorSize := by
  have hCount := hShaped.count
  simp only [maxHookAccounts] at hCount
  simp only [windowBytes, List.length_append, hShaped.length_headBytes,
    length_accountsBytes hShaped.accounts, zeros, List.length_replicate, hookDescriptorSize]
  omega

end HookDescriptor

theorem length_slotBytes {slot : Option HookDescriptor} (hShaped : ∀ hook ∈ slot, hook.Shaped) :
    (slotBytes slot).length = hookDescriptorSize := by
  cases slot with
  | none => simp [slotBytes, zeros]
  | some hook => exact (hShaped hook rfl).length_windowBytes

/-! ### Writing the windows -/

theorem zeros_add (first second : ℕ) : zeros (first + second) = zeros first ++ zeros second :=
  List.replicate_add first second 0

theorem overwrite_append (before old bytes after : List UInt8) {start : ℕ}
    (hStart : start = before.length) (hOld : old.length = bytes.length) :
    overwrite (before ++ old ++ after) start bytes = .ok (before ++ bytes ++ after) := by
  subst hStart
  have hFits : before.length + bytes.length ≤ (before ++ old ++ after).length := by
    simp only [List.length_append, hOld]
    omega
  have hBefore : (before ++ old ++ after).take before.length = before := by
    rw [List.append_assoc, List.take_left']
    rfl
  have hAfter : (before ++ old ++ after).drop (before.length + bytes.length) = after := by
    rw [List.drop_left']
    rw [List.length_append, hOld]
  rw [overwrite, if_pos hFits, hBefore, hAfter]
  rfl

theorem overwrite_zeros (before bytes : List UInt8) {start count total : ℕ}
    (hStart : start = before.length) (hTotal : total = bytes.length + count) :
    overwrite (before ++ zeros total) start bytes = .ok (before ++ bytes ++ zeros count) := by
  rw [hTotal, zeros_add, ← List.append_assoc]
  exact overwrite_append before (zeros bytes.length) bytes (zeros count) hStart (by simp [zeros])

theorem writeAccounts_eq {accounts : List HookAccount} {position count : ℕ} (before : List UInt8)
    (hNamed : ∀ account ∈ accounts, Named account.address)
    (hBefore : before.length = 74 + position * 33) :
    writeAccounts position accounts (before ++ zeros (33 * accounts.length + count))
      = .ok (before ++ accounts.flatMap HookAccount.bytes ++ zeros count) := by
  induction accounts generalizing position before with
  | nil => simp [writeAccounts]
  | cons account accounts hInduction =>
      rcases hNamed account List.mem_cons_self with ⟨address, hAddress⟩
      have hLength := address.length_bytes
      have hCount : 33 * (account :: accounts).length + count
          = 32 + (1 + (33 * accounts.length + count)) := by
        rw [List.length_cons]
        omega
      have hFlagged : (before ++ address.bytes).length = 74 + position * 33 + 32 := by
        rw [List.length_append, hBefore, hLength]
      have hNext : (before ++ address.bytes ++ [flagByte account.writable]).length
          = 74 + (position + 1) * 33 := by
        rw [List.length_append, hFlagged, List.length_singleton]
        omega
      have hRest := hInduction (before ++ address.bytes ++ [flagByte account.writable])
        (fun other hOther => hNamed other (List.mem_cons_of_mem _ hOther)) hNext
      simp only [writeAccounts, hAddress, faultless_ok, ok_bind]
      rw [hCount, overwrite_zeros before address.bytes hBefore.symm (by rw [hLength]), ok_bind,
        overwrite_zeros (before ++ address.bytes) [flagByte account.writable] hFlagged.symm
          (by rw [List.length_singleton]), ok_bind, hRest]
      simp [HookAccount.bytes, keyBytes_of_parsePubkey hAddress]

/-- The bytes of an enabled hook before its data. -/
def HookDescriptor.fieldBytes (hook : HookDescriptor) : List UInt8 :=
  keyBytes hook.programId ++ hook.entrypoint.bytes ++ [UInt8.ofNat hook.accounts.length] ++
    [UInt8.ofNat hook.staticData.length]

theorem HookDescriptor.Shaped.length_fieldBytes {hook : HookDescriptor}
    (hShaped : hook.Shaped) : hook.fieldBytes.length = 42 := by
  simp [fieldBytes, length_keyBytes hShaped.program, hook.entrypoint.length_bytes]

theorem HookDescriptor.Shaped.writeWindow_eq {hook : HookDescriptor} (hShaped : hook.Shaped) :
    hook.writeWindow (zeros hookDescriptorSize) = .ok hook.windowBytes := by
  rcases hShaped.program with ⟨program, hProgram⟩
  have hKey := program.length_bytes
  have hEntry := hook.entrypoint.length_bytes
  have hLength := hShaped.length
  have hCount := hShaped.count
  simp only [maxStaticData, maxHookAccounts] at hLength hCount
  -- Each write continues at the end of the one before it.
  have hFirst : overwrite (zeros hookDescriptorSize) 0 program.bytes
      = .ok (program.bytes ++ zeros 174) := by
    rw [← List.nil_append (zeros hookDescriptorSize), ← List.nil_append program.bytes]
    exact overwrite_zeros [] program.bytes rfl (by rw [hKey]; rfl)
  have hSecond : overwrite (program.bytes ++ zeros 174) 32 hook.entrypoint.bytes
      = .ok (program.bytes ++ hook.entrypoint.bytes ++ zeros 166) :=
    overwrite_zeros program.bytes hook.entrypoint.bytes hKey.symm (by rw [hEntry])
  have hThird : overwrite (program.bytes ++ hook.entrypoint.bytes ++ zeros 166) 40
        [UInt8.ofNat hook.accounts.length]
      = .ok (program.bytes ++ hook.entrypoint.bytes ++ [UInt8.ofNat hook.accounts.length]
          ++ zeros 165) :=
    overwrite_zeros _ _ (by rw [List.length_append, hKey, hEntry]) rfl
  have hFourth : overwrite (program.bytes ++ hook.entrypoint.bytes
        ++ [UInt8.ofNat hook.accounts.length] ++ zeros 165) 41
        [UInt8.ofNat hook.staticData.length]
      = .ok (hook.fieldBytes ++ zeros 164) := by
    rw [fieldBytes, keyBytes_of_parsePubkey hProgram]
    exact overwrite_zeros _ _
      (by simp only [List.length_append, hKey, hEntry, List.length_singleton]) rfl
  have hRoom : zeros 164
      = zeros (hook.staticData.length + (32 - hook.staticData.length
          + (33 * hook.accounts.length + (132 - 33 * hook.accounts.length)))) := by
    congr 1
    omega
  have hFifth : overwrite (hook.fieldBytes ++ zeros 164) 42 hook.staticData
      = .ok (hook.headBytes
          ++ zeros (33 * hook.accounts.length + (132 - 33 * hook.accounts.length))) := by
    rw [hRoom, overwrite_zeros _ _ hShaped.length_fieldBytes.symm rfl, zeros_add,
      ← List.append_assoc]
    rfl
  have hAccounts : writeAccounts 0 hook.accounts (hook.headBytes
        ++ zeros (33 * hook.accounts.length + (132 - 33 * hook.accounts.length)))
      = .ok hook.windowBytes :=
    writeAccounts_eq hook.headBytes hShaped.accounts hShaped.length_headBytes
  rw [HookDescriptor.writeWindow, hProgram, faultless_ok, ok_bind, hFirst, ok_bind, hSecond,
    ok_bind, hThird, ok_bind, hFourth, ok_bind, hFifth, ok_bind, hAccounts]

theorem writeSlots_eq {slots : List (Option HookDescriptor)} {position : ℕ} (before : List UInt8)
    (hShaped : ∀ slot ∈ slots, ∀ hook ∈ slot, hook.Shaped)
    (hBefore : before.length = position * hookDescriptorSize) :
    writeSlots position slots (before ++ zeros (slots.length * hookDescriptorSize))
      = .ok (before ++ slots.flatMap slotBytes) := by
  induction slots generalizing position before with
  | nil => simp [writeSlots, zeros]
  | cons slot slots hInduction =>
      have hRest := fun other hOther => hShaped other (List.mem_cons_of_mem _ hOther)
      have hZeros : zeros ((slot :: slots).length * hookDescriptorSize)
          = zeros hookDescriptorSize ++ zeros (slots.length * hookDescriptorSize) := by
        rw [← zeros_add, List.length_cons]
        congr 1
        ring
      have hSlot := length_slotBytes (hShaped slot List.mem_cons_self)
      have hNext : (before ++ slotBytes slot).length = (position + 1) * hookDescriptorSize := by
        rw [List.length_append, hSlot, hBefore]
        ring
      rw [hZeros, List.flatMap_cons, ← List.append_assoc, ← List.append_assoc]
      cases slot with
      | none =>
          rw [writeSlots]
          exact hInduction (before ++ zeros hookDescriptorSize) hRest hNext
      | some hook =>
          have hHook := hShaped (some hook) List.mem_cons_self hook rfl
          have hWindow := hHook.length_windowBytes
          have hOverwrite : overwrite (before ++ zeros hookDescriptorSize
                ++ zeros (slots.length * hookDescriptorSize)) (position * hookDescriptorSize)
                hook.windowBytes
              = .ok (before ++ hook.windowBytes
                ++ zeros (slots.length * hookDescriptorSize)) :=
            overwrite_append before (zeros hookDescriptorSize) hook.windowBytes _ hBefore.symm
              (by rw [hWindow]; simp [zeros])
          rw [writeSlots, range_append before (zeros hookDescriptorSize) _ hBefore.symm
            (by rw [hBefore]; simp [zeros]), ok_bind, hHook.writeWindow_eq, ok_bind, hOverwrite,
            ok_bind]
          exact hInduction (before ++ hook.windowBytes) hRest hNext

theorem ChannelHooks.encodeFixed_eq {hooks : ChannelHooks} (hValid : hooks.validate = .ok ()) :
    hooks.encodeFixed = .ok hooks.fixedBytes := by
  have hSlots : writeSlots 0 hooks.slots ([] ++ zeros (hooks.slots.length * hookDescriptorSize))
      = .ok ([] ++ hooks.fixedBytes) :=
    writeSlots_eq [] (shaped_of_validate hValid) (Nat.zero_mul _).symm
  have hLength : hooks.slots.length = 4 := rfl
  have hZeros : List.replicate (4 * hookDescriptorSize) (0 : UInt8)
      = [] ++ zeros (hooks.slots.length * hookDescriptorSize) := by
    rw [hLength, List.nil_append, zeros]
  rw [ChannelHooks.encodeFixed, hValid, faultless_ok, ok_bind, hZeros, hSlots, List.nil_append]

/-! ### What is read is written back -/

section Slices

variable {bytes : List UInt8} {start middle stop : ℕ}

theorem slice_append_slice (hFirst : start ≤ middle) (hSecond : middle ≤ stop) :
    slice bytes start middle ++ slice bytes middle stop = slice bytes start stop := by
  have hTake : bytes.take middle = (bytes.take stop).take middle := by
    rw [List.take_take, Nat.min_eq_left hSecond]
  have hDrop : (bytes.take stop).drop middle
      = ((bytes.take stop).drop start).drop (middle - start) := by
    rw [List.drop_drop, Nat.add_sub_cancel' hFirst]
  rw [slice, slice, slice, hTake, List.drop_take, hDrop, List.take_append_drop]

theorem slice_self : slice bytes 0 bytes.length = bytes := by
  simp [slice]

theorem slice_succ {byte : UInt8} (hByte : bytes[start]? = some byte) :
    slice bytes start (start + 1) = [byte] := by
  rcases List.getElem?_eq_some_iff.mp hByte with ⟨hStart, rfl⟩
  rw [slice, List.drop_take, Nat.add_sub_cancel_left, List.drop_eq_getElem_cons hStart]
  rfl

theorem slice_eq_zeros (hStop : stop ≤ bytes.length)
    (hZeros : ¬(slice bytes start stop).any (· ≠ 0)) :
    slice bytes start stop = zeros (stop - start) := by
  refine List.eq_replicate_iff.mpr ⟨length_slice hStop, fun byte hByte => ?_⟩
  by_contra hOther
  exact hZeros (List.any_eq_true.mpr ⟨byte, hByte, by simpa using hOther⟩)

end Slices

theorem flagByte_of_le {flag : UInt8} (hFlag : ¬1 < flag) : flagByte (flag = 1) = flag := by
  have hValue : flag.toNat ≤ 1 := by
    rw [UInt8.lt_iff_toNat_lt] at hFlag
    simpa using hFlag
  rcases Nat.le_one_iff_eq_zero_or_eq_one.mp hValue with hZero | hOne
  · have hFlag : flag = 0 := UInt8.toNat_inj.mp hZero
    simp [flagByte, hFlag]
  · have hFlag : flag = 1 := UInt8.toNat_inj.mp hOne
    simp [flagByte, hFlag]

theorem keyBytes_display (key : Pubkey) : keyBytes key.display = key.bytes :=
  keyBytes_of_parsePubkey (parsePubkey_display key)

theorem yields_keyOfArray {bytes : List UInt8} (hLength : bytes.length = 32) :
    Yields (fun key => key.bytes = bytes) (keyOfArray bytes) :=
  yields_orFault (dif_pos hLength) rfl

theorem yields_readAccounts {raw : List UInt8} (position count : ℕ)
    (hRoom : 74 + (position + count) * 33 ≤ raw.length) :
    Yields (fun accounts => accounts.length = count ∧ accounts.flatMap HookAccount.bytes
        = slice raw (74 + position * 33) (74 + (position + count) * 33))
      (readAccounts raw position count) := by
  induction count generalizing position with
  | zero => exact yields_ok ⟨rfl, by simp [slice]⟩
  | succ count hInduction =>
      refine (yields_index (by omega)).bind fun flag hFlag => yields_refuseIf.bind fun _ hBit => ?_
      refine (yields_range (by omega) (by omega)).bind fun bytes hBytes => ?_
      have hSlice : bytes = slice raw (74 + position * 33) (74 + position * 33 + 32) := hBytes
      have hLength : bytes.length = 32 := by
        rw [hSlice, length_slice (by omega)]
        omega
      refine (yields_keyOfArray hLength).bind fun address hAddress => ?_
      refine (hInduction (position + 1) (by omega)).bind fun rest hRest => yields_ok ?_
      rcases hRest with ⟨hCount, hRest⟩
      refine ⟨by rw [List.length_cons, hCount], ?_⟩
      have hEntry : HookAccount.bytes ⟨address.display, flag = 1⟩
          = slice raw (74 + position * 33) (74 + (position + 1) * 33) := by
        rw [HookAccount.bytes, keyBytes_display, hAddress, hSlice, flagByte_of_le hBit,
          ← slice_succ hFlag, slice_append_slice (by omega) (by omega)]
        congr 1
        omega
      rw [List.flatMap_cons, hEntry, hRest, slice_append_slice (by omega) (by omega)]
      congr 1
      omega

theorem yields_readHook {raw program : List UInt8} (hLength : raw.length = hookDescriptorSize)
    (hProgram : program = slice raw 0 32) :
    Yields (fun hook => hook.windowBytes = raw) (readHook raw program) := by
  simp only [hookDescriptorSize] at hLength
  refine (yields_index (by omega)).bind fun countByte hCountByte => ?_
  refine (yields_index (by omega)).bind fun lengthByte hLengthByte => ?_
  refine yields_refuseIf.bind fun _ hBounds => ?_
  simp only [maxHookAccounts, maxStaticData, not_or, not_lt] at hBounds
  rcases hBounds with ⟨hCount, hData⟩
  refine (yields_range (by omega) (by omega)).bind fun dataPadding hDataPadding => ?_
  refine yields_refuseIf.bind fun _ hDataZeros => ?_
  refine (yields_range (by omega) le_rfl).bind fun accountPadding hAccountPadding => ?_
  refine yields_refuseIf.bind fun _ hAccountZeros => ?_
  refine (yields_readAccounts 0 countByte.toNat (by omega)).bind fun accounts hAccounts => ?_
  have hProgramLength : program.length = 32 := by
    rw [hProgram, length_slice (by omega)]
  refine (yields_keyOfArray hProgramLength).bind fun programId hProgramId => ?_
  refine (yields_range (by omega) (by omega)).bind fun entry hEntry => ?_
  have hEntryLength : entry.length = 8 := by
    have hSlice : entry = slice raw 32 40 := hEntry
    rw [hSlice, length_slice (by omega)]
  refine (yields_orFault (dif_pos hEntryLength) rfl :
    Yields (fun entrypoint : Entrypoint => entrypoint.bytes = entry) _).bind
      fun entrypoint hEntrypoint => ?_
  refine (yields_range (by omega) (by omega)).bind fun staticData hStaticData => yields_ok ?_
  rcases hAccounts with ⟨hAccountCount, hAccounts⟩
  have hStaticLength : staticData.length = lengthByte.toNat := by
    have hSlice : staticData = slice raw 42 (42 + lengthByte.toNat) := hStaticData
    rw [hSlice, length_slice (by omega)]
    omega
  -- The parts in the order of the window.
  have hFields : keyBytes programId.display ++ entrypoint.bytes ++ [UInt8.ofNat accounts.length]
      ++ [UInt8.ofNat staticData.length] ++ staticData = slice raw 0 (42 + lengthByte.toNat) := by
    have hEntrySlice : entry = slice raw 32 40 := hEntry
    have hDataSlice : staticData = slice raw 42 (42 + lengthByte.toNat) := hStaticData
    rw [keyBytes_display, hProgramId, hProgram, hEntrypoint, hEntrySlice, hAccountCount,
      hStaticLength, UInt8.ofNat_toNat, UInt8.ofNat_toNat, hDataSlice, ← slice_succ hCountByte,
      ← slice_succ hLengthByte, slice_append_slice (by omega) (by omega),
      slice_append_slice (by omega) (by omega), slice_append_slice (by omega) (by omega),
      slice_append_slice (by omega) (by omega)]
  have hDataPad : zeros (32 - staticData.length) = slice raw (42 + lengthByte.toNat) 74 := by
    have hSlice : dataPadding = slice raw (42 + lengthByte.toNat) 74 := hDataPadding
    rw [hSlice] at hDataZeros
    rw [slice_eq_zeros (by omega) hDataZeros, hStaticLength]
    congr 1
    omega
  have hAccountPad : zeros (132 - 33 * accounts.length)
      = slice raw (74 + (0 + countByte.toNat) * 33) raw.length := by
    have hSlice : accountPadding = slice raw (74 + countByte.toNat * 33) raw.length :=
      hAccountPadding
    rw [hSlice] at hAccountZeros
    rw [Nat.zero_add, slice_eq_zeros le_rfl hAccountZeros, hAccountCount]
    congr 1
    omega
  rw [HookDescriptor.windowBytes, HookDescriptor.headBytes, hFields, hDataPad, hAccounts,
    hAccountPad, slice_append_slice (by omega) (by omega), slice_append_slice (by omega) (by omega),
    slice_append_slice (by omega) (by omega), slice_self]

theorem yields_readWindow {raw : List UInt8} (hLength : raw.length = hookDescriptorSize) :
    Yields (fun slot => slotBytes slot = raw) (readWindow raw) := by
  have hLarge : 32 ≤ raw.length := by
    rw [hLength]
    decide
  refine (yields_range (by omega) hLarge).bind fun program hProgram => ?_
  split
  · refine yields_refuseIf.bind fun _ hZeros => yields_ok ?_
    have hSelf : slice raw 0 raw.length = raw := slice_self
    rw [← hSelf] at hZeros
    have hRaw := slice_eq_zeros le_rfl hZeros
    rw [hSelf, hLength] at hRaw
    exact hRaw.symm
  · exact (yields_readHook hLength hProgram).bind fun hook hHook => yields_ok hHook

theorem yields_readSlot {data : List UInt8} (hLength : data.length = channelAccountSize)
    {position : ℕ} (hPosition : position < 4) :
    Yields (fun slot => slotBytes slot = slice data (297 + position * hookDescriptorSize)
        (297 + (position + 1) * hookDescriptorSize)) (readSlot data position) := by
  simp only [channelAccountSize] at hLength
  simp only [readSlot, hookDescriptorSize]
  refine (yields_range (by omega) (by omega)).bind fun raw hRaw => ?_
  have hSlice : raw = slice data (297 + position * 206) (297 + position * 206 + 206) := hRaw
  have hRawLength : raw.length = hookDescriptorSize := by
    rw [hSlice, length_slice (by omega), hookDescriptorSize]
    omega
  refine (yields_readWindow hRawLength).imp fun slot hSlot => ?_
  rw [hSlot, hSlice]
  congr 1
  omega

/-! ### What is written is read back -/

theorem flagByte_le (flag : Bool) : ¬1 < flagByte flag := by
  cases flag <;> decide

theorem flagByte_eq_one (flag : Bool) : decide (flagByte flag = 1) = flag := by
  cases flag <;> decide

theorem readAccounts_bytes {accounts : List HookAccount} (before after : List UInt8)
    {position : ℕ} (hNamed : ∀ account ∈ accounts, Named account.address)
    (hBefore : before.length = 74 + position * 33) :
    readAccounts (before ++ accounts.flatMap HookAccount.bytes ++ after) position accounts.length
      = .ok accounts := by
  induction accounts generalizing position before with
  | nil => rfl
  | cons account accounts hInduction =>
      rcases hNamed account List.mem_cons_self with ⟨address, hAddress⟩
      have hKey := address.length_bytes
      have hBytes := keyBytes_of_parsePubkey hAddress
      have hLength : account.bytes.length = 33 :=
        HookAccount.length_bytes (hNamed account List.mem_cons_self)
      have hRest := hInduction (before ++ account.bytes)
        (fun other hOther => hNamed other (List.mem_cons_of_mem _ hOther))
        (by rw [List.length_append, hBefore, hLength]; omega : _ = 74 + (position + 1) * 33)
      have hAll : before ++ (account :: accounts).flatMap HookAccount.bytes ++ after
          = before ++ account.bytes ++ accounts.flatMap HookAccount.bytes ++ after := by
        simp
      have hFlag : before ++ account.bytes ++ accounts.flatMap HookAccount.bytes ++ after
          = before ++ address.bytes ++ flagByte account.writable
              :: (accounts.flatMap HookAccount.bytes ++ after) := by
        simp [HookAccount.bytes, hBytes]
      have hIndex : (index (before ++ account.bytes ++ accounts.flatMap HookAccount.bytes ++ after)
          (74 + position * 33 + 32) : Faulting String UInt8)
            = .ok (flagByte account.writable) := by
        rw [hFlag]
        exact index_append _ _ _ (by rw [List.length_append, hBefore, hKey])
      have hRange : (range (before ++ account.bytes ++ accounts.flatMap HookAccount.bytes ++ after)
          (74 + position * 33) (74 + position * 33 + 32) : Faulting String (List UInt8))
            = .ok address.bytes := by
        rw [hFlag]
        exact range_append _ _ _ hBefore.symm (by rw [hBefore, hKey])
      have hKeyOf : keyOfArray address.bytes = .ok address := by
        rw [keyOfArray, pubkeyOfBytes_bytes]
        rfl
      rw [hAll, List.length_cons, readAccounts]
      simp only [hIndex, hRange, hKeyOf, hRest, ok_bind, refuseIf, flagByte_le, if_false,
        faultless_ok, flagByte_eq_one, display_of_parsePubkey hAddress]
      rfl

theorem toNat_ofNat_of_le {count bound : ℕ} (hCount : count ≤ bound) (hBound : bound < 256) :
    (UInt8.ofNat count).toNat = count := by
  rw [UInt8.toNat_ofNat']
  omega

namespace HookDescriptor.Shaped

variable {hook : HookDescriptor}

theorem windowBytes_parts (hook : HookDescriptor) :
    hook.windowBytes = [keyBytes hook.programId, hook.entrypoint.bytes,
      [UInt8.ofNat hook.accounts.length], [UInt8.ofNat hook.staticData.length], hook.staticData,
      zeros (32 - hook.staticData.length), hook.accounts.flatMap HookAccount.bytes,
      zeros (132 - 33 * hook.accounts.length)].flatten := by
  simp [windowBytes, headBytes]

theorem readHook_windowBytes (hShaped : hook.Shaped) :
    readHook hook.windowBytes (keyBytes hook.programId) = .ok hook := by
  rcases hShaped.program with ⟨program, hProgram⟩
  have hKey := length_keyBytes hShaped.program
  have hEntry := hook.entrypoint.length_bytes
  have hData := hShaped.length
  have hCount := hShaped.count
  have hCountByte : (UInt8.ofNat hook.accounts.length).toNat = hook.accounts.length :=
    toNat_ofNat_of_le hCount (by decide)
  have hDataByte : (UInt8.ofNat hook.staticData.length).toNat = hook.staticData.length :=
    toNat_ofNat_of_le hData (by decide)
  have hAccountsLength := length_accountsBytes hShaped.accounts
  have hPad : ∀ count, (zeros count).length = count := fun count => List.length_replicate
  have hNoPad : ∀ count, (zeros count).any (· ≠ 0) = false := by
    intro count
    simp [zeros]
  simp only [maxStaticData, maxHookAccounts] at hData hCount
  have hWindow : hook.windowBytes.length = 206 := hShaped.length_windowBytes
  have hParts := windowBytes_parts hook
  have hCountAt : (index hook.windowBytes 40 : Faulting String UInt8)
      = .ok (UInt8.ofNat hook.accounts.length) := by
    rw [hParts]
    exact index_flatten [_, _] _ [_, _, _, _, _] (by simp [hKey, hEntry])
  have hDataAt : (index hook.windowBytes 41 : Faulting String UInt8)
      = .ok (UInt8.ofNat hook.staticData.length) := by
    rw [hParts]
    exact index_flatten [_, _, _] _ [_, _, _, _] (by simp [hKey, hEntry])
  have hDataPad : (range hook.windowBytes (42 + hook.staticData.length) 74 :
      Faulting String (List UInt8)) = .ok (zeros (32 - hook.staticData.length)) := by
    rw [hParts]
    refine range_flatten [_, _, _, _, _] _ [_, _] (by simp [hKey, hEntry]; omega) ?_
    rw [hPad]
    omega
  have hAccountPad : (range hook.windowBytes (74 + hook.accounts.length * 33)
      hook.windowBytes.length : Faulting String (List UInt8))
        = .ok (zeros (132 - 33 * hook.accounts.length)) := by
    rw [hWindow, hParts]
    refine range_flatten [_, _, _, _, _, _, _] _ [] ?_ ?_
    · simp only [List.flatten_cons, List.flatten_nil, List.length_append, hKey, hEntry, hPad,
        hAccountsLength, List.length_singleton, List.length_nil]
      omega
    · rw [hPad]
      omega
  have hAccounts : readAccounts hook.windowBytes 0 hook.accounts.length = .ok hook.accounts :=
    readAccounts_bytes hook.headBytes _ hShaped.accounts hShaped.length_headBytes
  have hProgramKey : keyOfArray (keyBytes hook.programId) = .ok program := by
    rw [keyBytes_of_parsePubkey hProgram, keyOfArray, pubkeyOfBytes_bytes]
    rfl
  have hEntryAt : (range hook.windowBytes 32 40 : Faulting String (List UInt8))
      = .ok hook.entrypoint.bytes := by
    rw [hParts]
    exact range_flatten [_] _ [_, _, _, _, _, _] (by simp [hKey]) (by rw [hEntry])
  have hEntrypoint : (orFault (entrypointOfBytes hook.entrypoint.bytes) :
      Faulting String Entrypoint) = .ok hook.entrypoint := by
    rw [entrypointOfBytes, dif_pos hEntry]
    rfl
  have hStatic : (range hook.windowBytes 42 (42 + hook.staticData.length) :
      Faulting String (List UInt8)) = .ok hook.staticData := by
    rw [hParts]
    exact range_flatten [_, _, _, _] _ [_, _, _] (by simp [hKey, hEntry]) rfl
  have hBounds : ¬(maxHookAccounts < hook.accounts.length ∨
      maxStaticData < hook.staticData.length) := by
    simp only [maxHookAccounts, maxStaticData]
    omega
  rw [readHook]
  simp only [hCountAt, hDataAt, ok_bind, hCountByte, hDataByte, refuseIf, if_neg hBounds,
    faultless_ok, hDataPad, hNoPad, hAccountPad, hAccounts, hProgramKey, hEntryAt, hEntrypoint,
    hStatic, display_of_parsePubkey hProgram]
  rfl

end HookDescriptor.Shaped

theorem readWindow_slotBytes {slot : Option HookDescriptor}
    (hShaped : ∀ hook ∈ slot, hook.Shaped) : readWindow (slotBytes slot) = .ok slot := by
  cases slot with
  | none =>
      have hProgram : (range (zeros hookDescriptorSize) 0 32 : Faulting String (List UInt8))
          = .ok (List.replicate 32 0) := by
        have hSplit : zeros hookDescriptorSize = [] ++ zeros 32 ++ zeros 174 :=
          zeros_add 32 174
        rw [hSplit]
        exact range_append [] (zeros 32) (zeros 174) rfl (by simp [zeros])
      have hZeros : ¬(zeros hookDescriptorSize).any (· ≠ 0) := by simp [zeros]
      rw [slotBytes, Option.elim, readWindow, hProgram, ok_bind, if_pos rfl, refuseIf,
        if_neg hZeros]
      rfl
  | some hook =>
      have hHook := hShaped hook rfl
      have hProgram : (range hook.windowBytes 0 32 : Faulting String (List UInt8))
          = .ok (keyBytes hook.programId) := by
        rw [HookDescriptor.Shaped.windowBytes_parts]
        exact range_flatten [] _ [_, _, _, _, _, _, _] rfl
          (by rw [length_keyBytes hHook.program])
      rw [slotBytes, Option.elim, readWindow, hProgram, ok_bind, if_neg hHook.enabled,
        hHook.readHook_windowBytes]
      rfl

/-! ### The suffix delimits itself -/

def compactSlot (slot : Option HookDescriptor) : List UInt8 :=
  slot.elim [flagByte false] fun hook => flagByte true :: hook.compactBytes

theorem encodeAccounts_eq {accounts : List HookAccount}
    (hNamed : ∀ account ∈ accounts, Named account.address) :
    encodeAccounts accounts = .ok (accounts.flatMap HookAccount.bytes) := by
  induction accounts with
  | nil => rfl
  | cons account accounts hInduction =>
      rcases hNamed account List.mem_cons_self with ⟨address, hAddress⟩
      have hRest := hInduction fun other hOther => hNamed other (List.mem_cons_of_mem _ hOther)
      rw [encodeAccounts, HookAccount.encode, hAddress, hRest, List.flatMap_cons,
        HookAccount.bytes, keyBytes_of_parsePubkey hAddress]
      rfl

theorem HookDescriptor.Shaped.encodeCompact_eq {hook : HookDescriptor} (hShaped : hook.Shaped) :
    hook.encodeCompact = .ok hook.compactBytes := by
  rcases hShaped.program with ⟨program, hProgram⟩
  rw [encodeCompact, hProgram, encodeAccounts_eq hShaped.accounts, compactBytes,
    keyBytes_of_parsePubkey hProgram]
  rfl

theorem encodeSlots_eq {slots : List (Option HookDescriptor)}
    (hShaped : ∀ slot ∈ slots, ∀ hook ∈ slot, hook.Shaped) :
    encodeSlots slots = .ok (slots.flatMap compactSlot) := by
  induction slots with
  | nil => rfl
  | cons slot slots hInduction =>
      have hRest := hInduction fun other hOther => hShaped other (List.mem_cons_of_mem _ hOther)
      cases slot with
      | none =>
          rw [encodeSlots, hRest]
          rfl
      | some hook =>
          have hHook := hShaped (some hook) List.mem_cons_self hook rfl
          rw [encodeSlots, hHook.encodeCompact_eq, hRest]
          rfl

theorem flagByte_injective {left right : Bool} (hSame : flagByte left = flagByte right) :
    left = right := by
  rw [← flagByte_eq_one left, hSame, flagByte_eq_one]

theorem selfDelimiting_account :
    SelfDelimiting (fun account : HookAccount => Named account.address) HookAccount.bytes := by
  refine .of_width (fun account hNamed => HookAccount.length_bytes hNamed) ?_
  intro left right hLeft hRight hSame
  rcases List.append_inj hSame (by rw [length_keyBytes hLeft, length_keyBytes hRight]) with
    ⟨hKeys, hFlags⟩
  have hAddress := keyBytes_injective hLeft hRight hKeys
  have hWritable := flagByte_injective (List.singleton_injective hFlags)
  cases left
  cases right
  simp_all

theorem ofNat_injective_of_le {left right bound : ℕ} (hLeft : left ≤ bound)
    (hRight : right ≤ bound) (hBound : bound < 256)
    (hSame : UInt8.ofNat left = UInt8.ofNat right) : left = right := by
  rw [← toNat_ofNat_of_le hLeft hBound, hSame, toNat_ofNat_of_le hRight hBound]

theorem selfDelimiting_hook :
    SelfDelimiting HookDescriptor.Shaped HookDescriptor.compactBytes := by
  intro left right after rest hLeft hRight hSame
  have hFields : left.fieldBytes ++ (left.staticData
        ++ (left.accounts.flatMap HookAccount.bytes ++ after))
      = right.fieldBytes ++ (right.staticData
        ++ (right.accounts.flatMap HookAccount.bytes ++ rest)) := by
    simpa only [HookDescriptor.compactBytes, HookDescriptor.fieldBytes, List.append_assoc]
      using hSame
  rcases List.append_inj hFields (by rw [hLeft.length_fieldBytes, hRight.length_fieldBytes]) with
    ⟨hFields, hData⟩
  rcases List.append_inj' hFields rfl with ⟨hFields, hLengthByte⟩
  rcases List.append_inj' hFields rfl with ⟨hFields, hCountByte⟩
  rcases List.append_inj hFields
    (by rw [length_keyBytes hLeft.program, length_keyBytes hRight.program]) with ⟨hKey, hEntry⟩
  have hProgram := keyBytes_injective hLeft.program hRight.program hKey
  have hLength : left.staticData.length = right.staticData.length :=
    ofNat_injective_of_le hLeft.length hRight.length (by decide)
      (List.singleton_injective hLengthByte)
  have hCount : left.accounts.length = right.accounts.length :=
    ofNat_injective_of_le hLeft.count hRight.count (by decide)
      (List.singleton_injective hCountByte)
  rcases List.append_inj hData hLength with ⟨hData, hAccounts⟩
  rcases selfDelimiting_account.flatMap hLeft.accounts hRight.accounts hCount hAccounts with
    ⟨hAccounts, hRest⟩
  refine ⟨?_, hRest⟩
  cases left with
  | mk programId entrypoint accounts staticData =>
      cases right with
      | mk otherId otherEntry otherAccounts otherData =>
          cases entrypoint
          cases otherEntry
          simp_all

theorem ChannelHooks.slots_injective {left right : ChannelHooks}
    (hSame : left.slots = right.slots) : left = right := by
  cases left
  cases right
  simpa [slots] using hSame

theorem ChannelHooks.encodeOpenSuffix_eq_ok {hooks : ChannelHooks} {suffix : List UInt8}
    (hSuffix : hooks.encodeOpenSuffix = .ok suffix) :
    hooks.Shaped ∧ suffix = hooks.slots.flatMap compactSlot := by
  rw [ChannelHooks.encodeOpenSuffix, bind_eq_ok] at hSuffix
  rcases hSuffix with ⟨⟨⟩, hValid, hSlots⟩
  have hShaped := shaped_of_validate hValid
  rw [encodeSlots_eq hShaped] at hSlots
  cases hSlots
  exact ⟨hShaped, rfl⟩

theorem ChannelHooks.eq_of_suffix_prefix {left right : ChannelHooks}
    {leftSuffix rightSuffix : List UInt8} (hLeft : left.encodeOpenSuffix = .ok leftSuffix)
    (hRight : right.encodeOpenSuffix = .ok rightSuffix) (hPrefix : leftSuffix <+: rightSuffix) :
    left = right := by
  rcases encodeOpenSuffix_eq_ok hLeft with ⟨hLeftShaped, rfl⟩
  rcases encodeOpenSuffix_eq_ok hRight with ⟨hRightShaped, rfl⟩
  rcases hPrefix with ⟨after, hAfter⟩
  have hSlot : SelfDelimiting (fun slot : Option HookDescriptor => ∀ hook ∈ slot, hook.Shaped)
      compactSlot := selfDelimiting_hook.option (by decide)
  have hSame : left.slots.flatMap compactSlot ++ after
      = right.slots.flatMap compactSlot ++ [] := by
    rw [hAfter, List.append_nil]
  exact slots_injective (hSlot.flatMap hLeftShaped hRightShaped rfl hSame).1

/-! ### The account -/

section Account

variable {sha256 : List UInt8 → List UInt8}

/-- An account that is valid apart from its hooks and their hash. -/
structure OtherwiseValid (data : List UInt8) : Prop where
  length : data.length = channelAccountSize
  base : ∃ channel, decodeBase (slice data 0 256) 2 = .ok channel
  idle : data[256]? = some 0

theorem length_slotsBytes {slots : List (Option HookDescriptor)}
    (hShaped : ∀ slot ∈ slots, ∀ hook ∈ slot, hook.Shaped) :
    (slots.map slotBytes).flatten.length = slots.length * hookDescriptorSize := by
  induction slots with
  | nil => simp
  | cons slot slots hInduction =>
      have hRest := hInduction fun other hOther => hShaped other (List.mem_cons_of_mem _ hOther)
      rw [List.map_cons, List.flatten_cons, List.length_append, hRest, List.length_cons,
        length_slotBytes (hShaped slot List.mem_cons_self)]
      ring

theorem readSlot_of_fixedBytes {hooks : ChannelHooks} {data : List UInt8}
    (hShaped : hooks.Shaped) (hLength : data.length = channelAccountSize)
    (hFixed : slice data 297 1121 = hooks.fixedBytes) (before after : List (Option HookDescriptor))
    {slot : Option HookDescriptor} (hSlots : hooks.slots = before ++ slot :: after) :
    readSlot data before.length = .ok slot := by
  simp only [channelAccountSize] at hLength
  have hHead : (slice data 0 297).length = 297 := length_slice (by omega)
  have hData : data = (([slice data 0 297] ++ before.map slotBytes)
      ++ slotBytes slot :: after.map slotBytes).flatten := by
    have hSplit : data = slice data 0 297 ++ slice data 297 1121 := by
      rw [slice_append_slice (by omega) (by omega), ← hLength, slice_self]
    have hBytes : hooks.fixedBytes
        = (before.map slotBytes).flatten ++ (slotBytes slot ++ (after.map slotBytes).flatten) := by
      rw [ChannelHooks.fixedBytes, hSlots]
      simp [List.flatMap]
    conv_lhs => rw [hSplit, hFixed, hBytes]
    simp
  have hBefore : ∀ other ∈ before, ∀ hook ∈ other, hook.Shaped := fun other hOther =>
    hShaped other (by simp [hSlots, hOther])
  have hSlot : ∀ hook ∈ slot, hook.Shaped := hShaped slot (by simp [hSlots])
  have hRange : (range data (297 + before.length * hookDescriptorSize)
      (297 + before.length * hookDescriptorSize + hookDescriptorSize) :
        Faulting String (List UInt8)) = .ok (slotBytes slot) := by
    conv_lhs => rw [hData]
    refine range_flatten _ (slotBytes slot) _ ?_ (by rw [length_slotBytes hSlot])
    rw [List.flatten_append, List.length_append, length_slotsBytes hBefore, List.flatten_singleton,
      hHead]
  rw [readSlot, hRange, ok_bind, readWindow_slotBytes hSlot]

theorem ChannelHooks.configHash_eq {hooks : ChannelHooks} (hValid : hooks.validate = .ok ()) :
    hooks.configHash sha256 = .ok (sha256 hooks.fixedBytes) := by
  rw [ChannelHooks.configHash, encodeFixed_eq hValid]
  rfl

theorem decodeChannel_of_encodeFixed {hooks : ChannelHooks} {encoded data : List UInt8}
    (hValid : hooks.validate = .ok ()) (hEncoded : hooks.encodeFixed = .ok encoded)
    (hData : OtherwiseValid data) (hFixed : slice data 297 1121 = encoded)
    (hHash : slice data 265 297 = sha256 encoded) :
    ∃ state, decodeChannel sha256 data = .ok state ∧ state.hooks = hooks := by
  rw [ChannelHooks.encodeFixed_eq hValid] at hEncoded
  cases hEncoded
  have hShaped := ChannelHooks.shaped_of_validate hValid
  rcases hData with ⟨hLength, ⟨channel, hChannel⟩, hIdle⟩
  have hFields : ∀ start stop, start ≤ stop → stop ≤ channelAccountSize →
      (range data start stop : Faulting String (List UInt8)) = .ok (slice data start stop) :=
    fun start stop hOrder hStop => range_of_le hOrder (by rw [hLength]; exact hStop)
  have hBase := hFields 0 256 (by decide) (by decide)
  have hSequence := hFields 257 265 (by decide) (by decide)
  have hDigest := hFields 265 297 (by decide) (by decide)
  have hGuard : (index data 256 : Faulting String UInt8) = .ok 0 := index_of_getElem? hIdle
  have hSlots := readSlot_of_fixedBytes hShaped hLength hFixed
  have hFirst := hSlots [] _ rfl
  have hSecond := hSlots [hooks.preFund] _ rfl
  have hThird := hSlots [hooks.preFund, hooks.postFund] _ rfl
  have hFourth := hSlots [hooks.preFund, hooks.postFund, hooks.preDistribute] _ rfl
  simp only [List.length_nil, List.length_cons, Nat.zero_add] at hFirst hSecond hThird hFourth
  refine ⟨⟨channel, hooks, 0, decodeLE (slice data 257 265), slice data 265 297⟩, ?_, rfl⟩
  have hSize : ¬data.length ≠ channelAccountSize := not_not.mpr hLength
  have hZero : ¬(0 : UInt8) ≠ 0 := not_not.mpr rfl
  rw [decodeChannel]
  simp only [refuseIf, if_neg hSize, faultless_ok, ok_bind, hBase, hChannel, hGuard, if_neg hZero,
    hFirst, hSecond, hThird, hFourth, hValid, ChannelHooks.configHash_eq hValid, hDigest, hHash,
    hSequence]
  simp

theorem yields_decodeBase (data : List UInt8) (version : UInt8) :
    Yields (fun _ => True) (decodeBase data version) := by
  refine yields_refuseIf.bind fun _ hLength => ?_
  rw [not_not] at hLength
  refine (yields_index (by omega)).bind fun _ _ => (yields_index (by omega)).bind fun _ _ => ?_
  refine (yields_index (by omega)).bind fun _ _ => yields_refuseIf.bind fun _ _ => ?_
  exact yields_faultless fun _ _ => trivial

/-- Reading an account does not fault, and what it accepts is what its hooks encode to. -/
theorem yields_decodeChannel (sha256 : List UInt8 → List UInt8) (data : List UInt8) :
    Yields (fun state => state.hooks.encodeFixed = .ok (slice data 297 1121))
      (decodeChannel sha256 data) := by
  refine yields_refuseIf.bind fun _ hLength => ?_
  rw [not_not] at hLength
  have hSize : data.length = 1121 := hLength
  refine (yields_range (by omega) (by omega)).bind fun base _ => ?_
  refine (yields_decodeBase base 2).bind fun channel _ => ?_
  refine (yields_index (by omega)).bind fun _ _ => yields_refuseIf.bind fun _ _ => ?_
  refine (yields_readSlot hLength (by decide)).bind fun preFund hPreFund => ?_
  refine (yields_readSlot hLength (by decide)).bind fun postFund hPostFund => ?_
  refine (yields_readSlot hLength (by decide)).bind fun preDistribute hPreDistribute => ?_
  refine (yields_readSlot hLength (by decide)).bind fun postDistribute hPostDistribute => ?_
  refine (yields_faultless fun _ hValid => hValid).bind fun _ hValid => ?_
  rw [ChannelHooks.configHash_eq hValid, ok_bind]
  refine (yields_range (by omega) (by omega)).bind fun _ _ => yields_refuseIf.bind fun _ _ => ?_
  refine (yields_range (by omega) (by omega)).bind fun _ _ => yields_ok ?_
  rw [ChannelHooks.encodeFixed_eq hValid]
  congr 1
  simp only [ChannelHooks.fixedBytes, ChannelHooks.slots, List.flatMap_cons, List.flatMap_nil,
    List.append_nil, hPreFund, hPostFund, hPreDistribute, hPostDistribute, hookDescriptorSize]
  rw [slice_append_slice (by omega) (by omega), slice_append_slice (by omega) (by omega),
    slice_append_slice (by omega) (by omega)]

end Account

/-- The hooks of an account and the windows that hold them determine each other, no input makes
the reader or the writer leave its bytes, and the suffix of `open` delimits itself. -/
theorem hooks_codec (sha256 : List UInt8 → List UInt8) :
    (∀ (hooks : ChannelHooks), hooks.validate = .ok () →
      ∃ encoded, hooks.encodeFixed = .ok encoded ∧ ∀ data, OtherwiseValid data →
        slice data 297 1121 = encoded → slice data 265 297 = sha256 encoded →
          ∃ state, decodeChannel sha256 data = .ok state ∧ state.hooks = hooks) ∧
    (∀ data state, decodeChannel sha256 data = .ok state →
      state.hooks.encodeFixed = .ok (slice data 297 1121)) ∧
    (∀ data, decodeChannel sha256 data ≠ fault) ∧
    (∀ (hooks : ChannelHooks), hooks.encodeFixed ≠ fault) ∧
    ∀ (left right : ChannelHooks) leftSuffix rightSuffix,
      left.encodeOpenSuffix = .ok leftSuffix → right.encodeOpenSuffix = .ok rightSuffix →
        leftSuffix <+: rightSuffix → left = right := by
  refine ⟨fun hooks hValid => ?_, fun data state => (yields_decodeChannel sha256 data).2 state,
    fun data => (yields_decodeChannel sha256 data).1, fun hooks => ?_,
    fun left right _ _ hLeft hRight hPrefix =>
      ChannelHooks.eq_of_suffix_prefix hLeft hRight hPrefix⟩
  · refine ⟨hooks.fixedBytes, ChannelHooks.encodeFixed_eq hValid, fun data hData hFixed hHash => ?_⟩
    exact decodeChannel_of_encodeFixed hValid (ChannelHooks.encodeFixed_eq hValid) hData hFixed
      hHash
  · cases hValid : hooks.validate with
    | ok value =>
        rw [ChannelHooks.encodeFixed_eq hValid]
        exact nofun
    | error failure =>
        rw [ChannelHooks.encodeFixed, hValid]
        exact nofun

end PayKit.PaymentChannel
