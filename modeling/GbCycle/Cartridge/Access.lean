import GbCycle.Cartridge.Memory

/-!
# Descriptions of external accesses

Besides performing an access to its RAM window a mapper can describe it, without performing it:
what the address reaches, whether it is there, and what a read and a write will do.  `Keeps` is
what a description promises about the device it describes.
-/

namespace GbCycle

inductive CartridgeRtcRegister where
  | seconds
  | minutes
  | hours
  | dayLow
  | dayHigh
  deriving Repr, DecidableEq

inductive Mbc6Window where
  | a
  | b
  deriving Repr, DecidableEq

inductive Mbc7AccelerometerAxis where
  | x
  | y
  deriving Repr, DecidableEq

inductive Mbc7AccelerometerByte where
  | low
  | high
  deriving Repr, DecidableEq

inductive CartridgeExternalTarget where
  | noDevice
  | linearRam
  | bankedRam (bank : U8)
  | mbc6Ram (window : Mbc6Window) (bank : U8)
  | mbc2InternalRam
  | irRegister
  | huc3CommandMailbox
  | huc3ResponseMailbox
  | huc3Semaphore
  | huc3InvalidSelector (raw : U8)
  | rtcRegister (register : CartridgeRtcRegister)
  | reservedSelector (raw : U8)
  | mbc7AccelerometerLatchReset
  | mbc7AccelerometerLatchCommit
  | mbc7AccelerometerAxis (axis : Mbc7AccelerometerAxis) (byte : Mbc7AccelerometerByte)
  | mbc7FixedRegister (value : U8)
  | mbc7EepromSerial
  | mbc7ReservedRegister (selector : U8)
  | pocketCameraRegister (offset : U8)
  deriving Repr, DecidableEq

inductive CartridgeExternalAvailability where
  | accessible
  | disabled
  | absent
  | reserved
  deriving Repr, DecidableEq

inductive CartridgeExternalReadBehavior where
  | storage
  | infraredSensor
  | openBus
  | huc3MailboxResponse
  | huc3SemaphoreReady
  | rtcLatched
  | mbc7Accelerometer
  | mbc7EepromSerial
  | fallbackValue (value : U8)
  deriving Repr, DecidableEq

inductive CartridgeExternalWriteBehavior where
  | storage
  | infraredTransmitter
  | huc3MailboxCommandArgument
  | huc3SemaphoreControl
  | rtcLive
  | mbc7AccelerometerLatch
  | mbc7EepromSerial
  | ignored
  deriving Repr, DecidableEq

structure CartridgeExternalAccessInfo where
  address : U16
  target : CartridgeExternalTarget
  availability : CartridgeExternalAvailability
  readBehavior : CartridgeExternalReadBehavior
  writeBehavior : CartridgeExternalWriteBehavior
  rtcAccessReadyAt : Option Nat := none
  deriving Repr, DecidableEq

namespace CartridgeExternalAccessInfo

def noDevice (address : U16) : CartridgeExternalAccessInfo :=
  { address, target := .noDevice, availability := .absent
    readBehavior := .fallbackValue ramAbsentReadValue, writeBehavior := .ignored }

/-- RAM that may be absent, behind an enable bit.  Most mappers describe theirs so. -/
def ramAccess (address : U16) (target : CartridgeExternalTarget) (enabled hasRam : Bool) :
    CartridgeExternalAccessInfo :=
  { address, target
    availability :=
      if enabled && hasRam then .accessible else if enabled then .absent else .disabled
    readBehavior := if enabled && hasRam then .storage else .fallbackValue ramAbsentReadValue
    writeBehavior := if enabled && hasRam then .storage else .ignored }

/-! ## What a description promises -/

/-- What storage gives back for a byte: the cells of MBC2 have four bits. -/
def stored : CartridgeExternalTarget → U8 → U8
  | .mbc2InternalRam, value => 0xF0 ||| (value &&& 0x0F)
  | _, value => value

/-- The promises of a description of one address, about the read and the write there. -/
structure Keeps {σ : Type} (info : CartridgeExternalAccessInfo) (device : σ) (read : σ → U8)
    (write : U8 → σ) : Prop where
  fallback : ∀ value, info.readBehavior = .fallbackValue value → read device = value
  ignored : info.writeBehavior = .ignored → ∀ value, write value = device
  storage : info.readBehavior = .storage → info.writeBehavior = .storage →
    ∀ value, read (write value) = stored info.target value

variable {σ : Type} {device : σ} {read : σ → U8} {write : U8 → σ}

/-- A description of RAM is kept by a device that answers with the absent value and ignores
writes unless the RAM is there and enabled. -/
theorem keeps_ramAccess {address : U16} {target : CartridgeExternalTarget} {enabled hasRam : Bool}
    (habsent : (enabled && hasRam) = false →
      read device = ramAbsentReadValue ∧ ∀ value, write value = device)
    (hstorage : (enabled && hasRam) = true → ∀ value, read (write value) = stored target value) :
    (ramAccess address target enabled hasRam).Keeps device read write := by
  cases hpresent : enabled && hasRam with
  | false =>
      obtain ⟨hread, hwrite⟩ := habsent hpresent
      constructor
      · intro value hvalue
        simp only [ramAccess, hpresent, Bool.false_eq_true, if_false,
          CartridgeExternalReadBehavior.fallbackValue.injEq] at hvalue
        exact hread.trans hvalue
      · intro _
        exact hwrite
      · intro hread
        simp [ramAccess, hpresent] at hread
  | true =>
      constructor
      · intro value hvalue
        simp [ramAccess, hpresent] at hvalue
      · intro hignored
        simp [ramAccess, hpresent] at hignored
      · intro _ _
        exact hstorage hpresent

/-- The RAM of most mappers: `update` puts a RAM into the device, and the offset does not depend
on what the RAM holds. -/
theorem keeps_enabledRam {address : U16} {target : CartridgeExternalTarget} {enabled : Bool}
    {ram : Option (List U8)} (offset : Nat) (update : Option (List U8) → σ)
    (htarget : ∀ value, stored target value = value)
    (hsame : update ram = device)
    (hread : ∀ ram', clearedRam ram' = clearedRam ram →
      read (update ram') = readEnabledRam enabled ram' offset)
    (hwrite : ∀ value, write value = update (writeEnabledRam enabled ram offset value))
    (hin : ∀ bytes, ram = some bytes → offset < bytes.length) :
    (ramAccess address target enabled ram.isSome).Keeps device read write := by
  refine keeps_ramAccess ?_ ?_
  · intro habsent
    constructor
    · rw [← hsame, hread ram rfl, readEnabledRam_absent habsent]
    · intro value
      rw [hwrite, writeEnabledRam_absent habsent, hsame]
  · intro hpresent value
    obtain ⟨rfl, hsome⟩ : enabled = true ∧ ram.isSome = true := by simpa using hpresent
    obtain ⟨bytes, rfl⟩ := Option.isSome_iff_exists.mp hsome
    rw [htarget, hwrite, hread _ (clearedRam_write ..), readEnabledRam_write (hin bytes rfl)]

/-- A description that names no storage for reads promises nothing about it. -/
theorem keeps_of_noStorage {info : CartridgeExternalAccessInfo}
    (hnot : info.readBehavior ≠ .storage)
    (hfallback : ∀ value, info.readBehavior = .fallbackValue value → read device = value)
    (hignored : info.writeBehavior = .ignored → ∀ value, write value = device) :
    info.Keeps device read write :=
  ⟨hfallback, hignored, fun hread => absurd hread hnot⟩

/-- A description is kept by other accesses that do the same, as far as it goes. -/
theorem Keeps.congr {info : CartridgeExternalAccessInfo} {read' : σ → U8} {write' : U8 → σ}
    (h : info.Keeps device read write) (hread : read' device = read device)
    (hwrite : info.writeBehavior = .ignored ∨ info.writeBehavior = .storage →
      ∀ value, write' value = write value)
    (hafter : ∀ value, read' (write value) = read (write value)) :
    info.Keeps device read' write' where
  fallback value hvalue := hread.trans (h.fallback value hvalue)
  ignored hignored value := (hwrite (.inl hignored) value).trans (h.ignored hignored value)
  storage hstorage hstored value := by
    rw [hwrite (.inr hstored), hafter]
    exact h.storage hstorage hstored value

end CartridgeExternalAccessInfo

end GbCycle
