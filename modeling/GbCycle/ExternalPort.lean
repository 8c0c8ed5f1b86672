import GbCycle.Serial

/-!
# The external port

What is plugged into the link connector.  The port shows the serial unit a `SerialPeer`: a
cable or adapter shows the byte the other end staged for this exchange, and the open line
while it staged none.  A printer is a device with a state of its own; here it is any device
that answers with a byte, counts T-cycles and takes the bytes a transfer completed.
-/

namespace GbCycle

/-- What the port uses of the printer plugged into it. -/
class PrinterDevice (π : Type) where
  stagedResponseByte : π → U8
  tickTCycle : π → π
  receiveSerialByte : π → U8 → π

inductive ExternalPortAttachmentKind where
  | none
  | loopback
  | printer
  | gameLinkDmg04
  | fourPlayerAdapterDmg07
  deriving Repr, DecidableEq

inductive Dmg07Port where
  | p1 | p2 | p3 | p4
  deriving Repr, DecidableEq

inductive ExternalPortAttachment (π : Type) where
  | none
  | loopback
  | printer (device : π)
  | gameLinkDmg04 (incomingByte : Option U8)
  | fourPlayerAdapterDmg07 (port : Dmg07Port) (incomingByte : Option U8)
  deriving Repr, DecidableEq

structure ExternalPort (π : Type) where
  attachment : ExternalPortAttachment π
  deriving Repr, DecidableEq

/-- The line between two consoles shows a byte while one is staged. -/
def stagedLinePeer : Option U8 → SerialPeer
  | some byte => .stagedIncomingByte byte
  | none => .disconnected

namespace ExternalPort

variable {π : Type}

def attachmentKind (p : ExternalPort π) : ExternalPortAttachmentKind :=
  match p.attachment with
  | .none => .none
  | .loopback => .loopback
  | .printer _ => .printer
  | .gameLinkDmg04 _ => .gameLinkDmg04
  | .fourPlayerAdapterDmg07 _ _ => .fourPlayerAdapterDmg07

def setDmg04IncomingByte (p : ExternalPort π) (incomingByte : Option U8) : ExternalPort π :=
  match p.attachment with
  | .gameLinkDmg04 _ => { p with attachment := .gameLinkDmg04 incomingByte }
  | _ => p

def requiresTCycleTick (p : ExternalPort π) : Bool := p.attachmentKind == .printer

def requiresSerialPeerRefreshAfterTCycle (p : ExternalPort π) : Bool :=
  p.attachmentKind == .printer

def handlesCompletedSerialByte (p : ExternalPort π) : Bool := p.attachmentKind == .printer

variable [PrinterDevice π]

def serialPeer (p : ExternalPort π) : SerialPeer :=
  match p.attachment with
  | .none => .disconnected
  | .loopback => .loopback
  | .printer device => .stagedIncomingByte (PrinterDevice.stagedResponseByte device)
  | .gameLinkDmg04 incomingByte => stagedLinePeer incomingByte
  | .fourPlayerAdapterDmg07 _ incomingByte => stagedLinePeer incomingByte

def tickTCycle (p : ExternalPort π) : ExternalPort π :=
  match p.attachment with
  | .printer device => { p with attachment := .printer (PrinterDevice.tickTCycle device) }
  | _ => p

def handleCompletedSerialByte (p : ExternalPort π) (outgoingByte : U8) : ExternalPort π :=
  match p.attachment with
  | .printer device =>
      { p with attachment := .printer (PrinterDevice.receiveSerialByte device outgoingByte) }
  | _ => p

end ExternalPort

end GbCycle
