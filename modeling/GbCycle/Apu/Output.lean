import GbCycle.Apu.SampleCapture
import GbCycle.Model
import GbCycle.Word

/-!
# The output path of the APU

Each channel's DAC makes a level of a digit, and fades out when it is switched off.  The mixer adds
the levels that `NR51` routes to a side, `NR50` scales the sums, and a capacitor on each side takes
the direct current out.  A tick moves the fades and the capacitors on; a preview, after a write,
does not.

A cast to `i32` takes a value modulo its width, and is written out where the source has one.
-/

namespace GbCycle

def channelCount : Nat := 4
def analogOne : Int := 15000000
def dacAnalogStep : Int := 2000000
def dacDigitalOutputMask : U8 := 0x0F
def nr50LeftVolumeShift : Nat := 4
def nr50VolumeMask : U8 := 0x07
def nr50VolumeBias : Int := 1
def nr50MaxVolumeFactor : Int := 8
def nr50VinLeftBit : U8 := 0x80
def nr50VinRightBit : U8 := 0x08
def hpfChargeFactorDenominator : Int := 1000000
def dacFadeReferenceRateHz : Nat := 20000
def dacFadeFactorOne : Int := 65536

def apuInternalMaxAbsOutputSample : Int := analogOne * channelCount * nr50MaxVolumeFactor
def apuHostPcmReferenceMaxAbsI16 : Int := 16320

/-- The largest sample that a host has to be ready for. -/
def apuHostMaxAbsSample : Int :=
  apuInternalMaxAbsOutputSample * 32767 / apuHostPcmReferenceMaxAbsI16

/-- `div_ceil` of the APU clock. -/
def dacOffFadeTCycles : Nat :=
  (dmgFamilyApuCaptureClockHz + dacFadeReferenceRateHz - 1) / dacFadeReferenceRateHz

/-- `as i32`. -/
def asI32 (x : Int) : Int := x.bmod (2 ^ 32)

structure ApuStereoOutput where
  left : Int
  right : Int
  deriving Repr, DecidableEq

def ApuStereoOutput.default : ApuStereoOutput := ⟨0, 0⟩

structure MasterControlState where
  powered : Bool
  nr50 : U8
  nr51 : U8
  vinInput : ApuStereoOutput
  deriving Repr, DecidableEq

/-- What the channels show to the output path. -/
structure ChannelOutputState where
  dacMask : U8
  digitalOutputs : Vector U8 channelCount
  deriving Repr, DecidableEq

inductive HpfChargeModel where
  | dmg0Dmg
  | mgbCgb
  deriving Repr, DecidableEq

namespace HpfChargeModel

def forConsoleModel : ConsoleModel → HpfChargeModel
  | .gameBoy => dmg0Dmg
  | .gameBoyPocket | .gameBoyLight | .gameBoyColor | .gameBoyAdvance => mgbCgb

def numerator : HpfChargeModel → Int
  | dmg0Dmg => 999958
  | mgbCgb => 998943

end HpfChargeModel

/-! ## A channel's DAC -/

structure DacOffFadeModel where
  durationTCycles : Nat
  deriving Repr, DecidableEq

def DacOffFadeModel.forConsoleModel (_ : ConsoleModel) : DacOffFadeModel := ⟨dacOffFadeTCycles⟩

structure DacChannelState where
  currentOutput : Int
  dischargeSourceOutput : Int
  dischargeRemainingTCycles : Nat
  deriving Repr, DecidableEq

def DacChannelState.default : DacChannelState := ⟨0, 0, 0⟩

def dacAnalogOutput (digitalOutput : U8) : Int :=
  analogOne - (digitalOutput &&& dacDigitalOutputMask).toNat * dacAnalogStep

/-- The part of the level that is left of a fade, a fixed-point number with sixteen bits after the
point. -/
def smoothFactorQ16 (remainingTCycles totalTCycles : Nat) : Int :=
  if remainingTCycles = 0 then 0
  else if totalTCycles ≤ remainingTCycles then dacFadeFactorOne
  else
    let x := (remainingTCycles : Int) * 2 ^ 16 / totalTCycles
    let x2 := x * x / dacFadeFactorOne
    let x3 := x2 * x / dacFadeFactorOne
    asI32 (3 * x2 - 2 * x3)

def divideAndRoundI64 (value : Int) (divisor : Nat) : Int :=
  if 0 ≤ value then asI32 ((value + divisor / 2).tdiv divisor)
  else asI32 ((value - divisor / 2).tdiv divisor)

def scaleByQ16 (value factorQ16 : Int) : Int := divideAndRoundI64 (value * factorQ16) 65536

namespace DacChannelState

def setEnabledOutput (_ : DacChannelState) (digitalOutput : U8) (fadeModel : DacOffFadeModel) :
    DacChannelState :=
  let analogOutput := dacAnalogOutput digitalOutput
  { currentOutput := analogOutput, dischargeSourceOutput := analogOutput
    dischargeRemainingTCycles := fadeModel.durationTCycles }

def preview (d : DacChannelState) (dacEnabled : Bool) (digitalOutput : U8)
    (fadeModel : DacOffFadeModel) : DacChannelState :=
  if dacEnabled then d.setEnabledOutput digitalOutput fadeModel else d

def tick (d : DacChannelState) (dacEnabled : Bool) (digitalOutput : U8)
    (fadeModel : DacOffFadeModel) : DacChannelState :=
  if dacEnabled then d.setEnabledOutput digitalOutput fadeModel
  else if d.currentOutput = 0 ∨ d.dischargeRemainingTCycles = 0 then default
  else
    let remaining := d.dischargeRemainingTCycles - 1
    if remaining = 0 then default
    else
      { d with
        dischargeRemainingTCycles := remaining
        currentOutput :=
          scaleByQ16 d.dischargeSourceOutput
            (smoothFactorQ16 remaining fadeModel.durationTCycles) }

end DacChannelState

/-! ## The mixer -/

def channelMask (channel : Fin channelCount) : U8 := 1 <<< channel.val
def nr51RightRouteBit (channel : Fin channelCount) : U8 := 0x01 <<< channel.val
def nr51LeftRouteBit (channel : Fin channelCount) : U8 := 0x10 <<< channel.val

def nr50LeftVolumeFactor (nr50 : U8) : Int :=
  (((nr50 >>> nr50LeftVolumeShift) &&& nr50VolumeMask).toNat : Int) + nr50VolumeBias

def nr50RightVolumeFactor (nr50 : U8) : Int := ((nr50 &&& nr50VolumeMask).toNat : Int) + nr50VolumeBias

def vinAnalogOutput (master : MasterControlState) : ApuStereoOutput :=
  { left := if master.nr50 &&& nr50VinLeftBit ≠ 0 then master.vinInput.left else 0
    right := if master.nr50 &&& nr50VinRightBit ≠ 0 then master.vinInput.right else 0 }

def routedChannelSum (nr51 : U8) (routeBit : Fin channelCount → U8)
    (channelDacOutputs : Vector Int channelCount) : Int :=
  ((List.finRange channelCount).map fun channel =>
    if nr51 &&& routeBit channel ≠ 0 then channelDacOutputs.get channel else 0).sum

def mixerOutputOf (nr51 : U8) (vin : ApuStereoOutput)
    (channelDacOutputs : Vector Int channelCount) : ApuStereoOutput :=
  { left := vin.left + routedChannelSum nr51 nr51LeftRouteBit channelDacOutputs
    right := vin.right + routedChannelSum nr51 nr51RightRouteBit channelDacOutputs }

def masterOutputOf (nr50 : U8) (mixer : ApuStereoOutput) (anyChannelOutputConnected : Bool) :
    ApuStereoOutput :=
  if !anyChannelOutputConnected then .default
  else
    { left := mixer.left * nr50LeftVolumeFactor nr50
      right := mixer.right * nr50RightVolumeFactor nr50 }

/-! ## The path -/

structure OutputPathState where
  hpfChargeModel : HpfChargeModel
  dacOffFadeModel : DacOffFadeModel
  channelDacStates : Vector DacChannelState channelCount
  channelDacOutputs : Vector Int channelCount
  vinAnalogOutput : ApuStereoOutput
  mixerOutput : ApuStereoOutput
  masterOutput : ApuStereoOutput
  hpfCapacitor : ApuStereoOutput
  currentOutput : ApuStereoOutput
  deriving Repr, DecidableEq

namespace OutputPathState

def new (consoleModel : ConsoleModel) : OutputPathState :=
  { hpfChargeModel := .forConsoleModel consoleModel
    dacOffFadeModel := .forConsoleModel consoleModel
    channelDacStates := Vector.replicate _ .default
    channelDacOutputs := Vector.replicate _ 0
    vinAnalogOutput := .default, mixerOutput := .default, masterOutput := .default
    hpfCapacitor := .default, currentOutput := .default }

def resetAnalogPath (p : OutputPathState) : OutputPathState :=
  { p with
    channelDacStates := Vector.replicate _ .default
    channelDacOutputs := Vector.replicate _ 0
    vinAnalogOutput := .default, mixerOutput := .default, masterOutput := .default }

/-- The DACs, with their fades moved on or not. -/
def resolveDacs (p : OutputPathState) (channelOutput : ChannelOutputState) (advanceFade : Bool) :
    Vector DacChannelState channelCount :=
  Vector.ofFn fun channel =>
    let dacEnabled : Bool := channelOutput.dacMask &&& channelMask channel ≠ 0
    let digitalOutput := channelOutput.digitalOutputs.get channel
    let dac := p.channelDacStates.get channel
    if advanceFade then dac.tick dacEnabled digitalOutput p.dacOffFadeModel
    else dac.preview dacEnabled digitalOutput p.dacOffFadeModel

/-- `resolve_mix_state`, with whether any channel is heard. -/
def resolveMixState (p : OutputPathState) (master : MasterControlState)
    (channelOutput : ChannelOutputState) (advanceFade : Bool) : OutputPathState × Bool :=
  if !master.powered then (p.resetAnalogPath, false)
  else
    let channelDacStates := p.resolveDacs channelOutput advanceFade
    let channelDacOutputs := channelDacStates.map (·.currentOutput)
    let anyChannelOutputConnected := channelDacOutputs.toList.any (· ≠ 0)
    let vin := GbCycle.vinAnalogOutput master
    let mixer := mixerOutputOf master.nr51 vin channelDacOutputs
    ({ p with
       channelDacStates, channelDacOutputs
       vinAnalogOutput := vin
       mixerOutput := mixer
       masterOutput := masterOutputOf master.nr50 mixer anyChannelOutputConnected },
      anyChannelOutputConnected)

def preview (p : OutputPathState) (master : MasterControlState)
    (channelOutput : ChannelOutputState) : OutputPathState :=
  let (p, anyChannelOutputConnected) := p.resolveMixState master channelOutput false
  if !anyChannelOutputConnected then { p with currentOutput := .default }
  else
    { p with currentOutput :=
      { left := asI32 (p.masterOutput.left - p.hpfCapacitor.left)
        right := asI32 (p.masterOutput.right - p.hpfCapacitor.right) } }

def tick (p : OutputPathState) (master : MasterControlState)
    (channelOutput : ChannelOutputState) : OutputPathState :=
  let (p, anyChannelOutputConnected) := p.resolveMixState master channelOutput true
  if !anyChannelOutputConnected then { p with currentOutput := .default }
  else
    let leftOutput := p.masterOutput.left - p.hpfCapacitor.left
    let rightOutput := p.masterOutput.right - p.hpfCapacitor.right
    let charge := p.hpfChargeModel.numerator
    { p with
      currentOutput := { left := asI32 leftOutput, right := asI32 rightOutput }
      hpfCapacitor :=
        { left := p.masterOutput.left - (leftOutput * charge).tdiv hpfChargeFactorDenominator
          right := p.masterOutput.right - (rightOutput * charge).tdiv hpfChargeFactorDenominator } }

end OutputPathState

/-- What happens to the output path: a T-cycle, a preview after anything that moves the channels or
the master registers, and the start of the machine. -/
inductive OutputPathEvent where
  | tick (master : MasterControlState) (channelOutput : ChannelOutputState)
  | preview (master : MasterControlState) (channelOutput : ChannelOutputState)
  | startup (consoleModel : ConsoleModel)

namespace OutputPathState

def step (p : OutputPathState) : OutputPathEvent → OutputPathState
  | .tick master channelOutput => p.tick master channelOutput
  | .preview master channelOutput => p.preview master channelOutput
  | .startup consoleModel => new consoleModel

def run (p : OutputPathState) (events : List OutputPathEvent) : OutputPathState :=
  events.foldl step p

end OutputPathState

end GbCycle
