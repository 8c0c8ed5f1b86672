/-!
# Console models, operating modes and revisions

The configuration axes of the emulated console.  A `ConsoleModel` fixes the family, and
the family decides which `OperatingMode`s the hardware can be in; a model also lists the
`HardwareRevision`s the core implements for it.
-/

namespace GbCycle

inductive ConsoleFamily where
  | dmg
  | cgb
  deriving Repr, DecidableEq

inductive ConsoleModel where
  | gameBoy
  | gameBoyPocket
  | gameBoyLight
  | gameBoyColor
  | gameBoyAdvance
  deriving Repr, DecidableEq

inductive HardwareRevision where
  | dmgCpu0
  | dmgCpuA
  | dmgCpuB
  | dmgCpuC
  | cpuMgb
  | cpuCgb0
  | cpuCgbA
  | cpuCgbB
  | cpuCgbC
  | cpuCgbD
  | cpuCgbE
  | cpuAgb0
  | cpuAgbA
  deriving Repr, DecidableEq

inductive OperatingMode where
  | dmg
  | cgb
  | gbCompatible
  | cgbDmgExt
  deriving Repr, DecidableEq

inductive HostPlatform where
  | handheld
  | sgb
  | sgb2
  deriving Repr, DecidableEq

def HostPlatform.isSgb : HostPlatform → Bool
  | .sgb | .sgb2 => true
  | .handheld => false

inductive SgbHostProfile where
  | sgbNtsc
  | sgbPal
  | sgb2Ntsc
  deriving Repr, DecidableEq

namespace ConsoleModel

def family : ConsoleModel → ConsoleFamily
  | .gameBoyColor | .gameBoyAdvance => .cgb
  | .gameBoy | .gameBoyPocket | .gameBoyLight => .dmg

def isDmgFamily (m : ConsoleModel) : Bool := m.family == .dmg
def isCgbFamily (m : ConsoleModel) : Bool := m.family == .cgb

def hasCgbInfraredPort (m : ConsoleModel) : Bool := m == .gameBoyColor

def defaultOperatingMode (m : ConsoleModel) : OperatingMode :=
  match m.family with
  | .dmg => .dmg
  | .cgb => .cgb

def defaultRevision : ConsoleModel → HardwareRevision
  | .gameBoy => .dmgCpuC
  | .gameBoyPocket | .gameBoyLight => .cpuMgb
  | .gameBoyColor => .cpuCgbD
  | .gameBoyAdvance => .cpuAgbA

def supportsRevision : ConsoleModel → HardwareRevision → Bool
  | .gameBoy, r => r == .dmgCpu0 || r == .dmgCpuC
  | .gameBoyPocket, r | .gameBoyLight, r => r == .cpuMgb
  | .gameBoyColor, r => r == .cpuCgb0 || r == .cpuCgbC || r == .cpuCgbD || r == .cpuCgbE
  | .gameBoyAdvance, r => r == .cpuAgb0 || r == .cpuAgbA

end ConsoleModel

namespace OperatingMode

def usesDmgSoftwareContract : OperatingMode → Bool
  | .dmg | .gbCompatible | .cgbDmgExt => true
  | .cgb => false

def enablesCgbExtensions : OperatingMode → Bool
  | .cgb => true
  | _ => false

def enablesCgbSpeedSwitch : OperatingMode → Bool
  | .cgb | .cgbDmgExt => true
  | _ => false

def enablesCgbHighSpeedSerial : OperatingMode → Bool
  | .cgb | .cgbDmgExt => true
  | _ => false

end OperatingMode

/-! ## How strictly a cartridge is judged -/

inductive ExecutionMode where
  | strict
  | permissive
  | experimental
  deriving Repr, DecidableEq

inductive ValidationPolicy where
  | strict
  | warn
  | ignore
  deriving Repr, DecidableEq

inductive HeuristicPolicy where
  | disabled
  | allowExperimental
  deriving Repr, DecidableEq

inductive DiagnosticPolicy where
  | quiet
  | standard
  | verbose
  deriving Repr, DecidableEq

inductive StartupMode where
  | skipBoot
  | customBoot
  | realBoot
  deriving Repr, DecidableEq

/-- What a user has forced the machine to be. -/
structure OverridePolicy where
  forcedConsoleModel : Option ConsoleModel
  forcedOperatingMode : Option OperatingMode
  forcedHostPlatform : Option HostPlatform
  forcedStartupMode : Option StartupMode
  deriving Repr, DecidableEq

structure CompatibilityPolicy where
  executionMode : ExecutionMode
  validationPolicy : ValidationPolicy
  heuristicPolicy : HeuristicPolicy
  overridePolicy : OverridePolicy
  diagnosticPolicy : DiagnosticPolicy
  deriving Repr, DecidableEq

end GbCycle
