import GbCycle.Cpu.HaltResolution
import GbCycle.Cpu.Semantics
import GbCycle.Speed
import GbCycle.Link.Lines
import GbCycle.Link.CgbIr
import GbCycle.Link.Dmg07Session
import GbCycle.Persistence.Codec
import GbCycle.Persistence.Manager
import GbCycle.Persistence.LastSave
import GbCycle.Persistence.MachineStateCodec
import GbCycle.Rewind.Cadence
import GbCycle.Dma.Copies
import GbCycle.Dma.Addresses
import GbCycle.Dma.OamCopies
import GbCycle.Cartridge.NoMbc
import GbCycle.Cartridge.Mmm01Confinement
import GbCycle.Cartridge.M161
import GbCycle.Cartridge.Huc1
import GbCycle.Cartridge.Huc3Laws
import GbCycle.Cartridge.Mbc6Flash
import GbCycle.Cartridge.Mbc7Serial
import GbCycle.Cartridge.LinearRam
import GbCycle.Cartridge.Mbc3Ticks
import GbCycle.Cartridge.Validation
import GbCycle.Sgb.Transfers
import GbCycle.Printer.Recognition
import GbCycle.Sgb.AttributeDataSets
import GbCycle.MysteryGift.FlippedBits
import GbCycle.MysteryGift.Timeouts
import GbCycle.Ppu.SpriteLaws
import GbCycle.Ppu.StatRequests
import GbCycle.Ppu.RasterLaws
import GbCycle.Ppu.StatEdges
import GbCycle.Apu.SampleCaptureLaws
import GbCycle.TimerLaws
import GbCycle.Apu.OutputRange
import GbCycle.Apu.GeneratorLaws
import GbCycle.Apu.SweepLaws
import GbCycle.Apu.LengthLaws
import GbCycle.Apu.SequencerLaws
import GbCycle.Apu.SilenceLaws
import GbCycle.Cartridge.CameraCapture
import GbCycle.SerialFastPath
import GbCycle.Bus.Access
import GbCycle.Bus.AccessLaws
import GbCycle.Bus.BankedMemory
import GbCycle.Bus.MemoryRefinement
import GbCycle.Bus.OamDma
import GbCycle.Bus.SaveState
import GbCycle.Cartridge.Mbc1
import GbCycle.Cartridge.Mbc2
import GbCycle.Cartridge.Mbc5
import GbCycle.Cartridge.Validators
import GbCycle.Cartridge.DeviceLaws
import GbCycle.Cartridge.BankingLaws
import GbCycle.Bus.CartridgeRuns
import GbCycle.Cartridge.ReachedLaws
