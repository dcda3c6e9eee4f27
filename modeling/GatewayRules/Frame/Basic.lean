import GatewayRules.Bytes.Layout
import GatewayRules.Flags
import GatewayRules.Frame.Identifier
import GatewayRules.Rule.Violation

/-
  Template frames.  A template is a complete frame of one of
  the two kinds: its data array always has the full size of
  the kind, whatever its length field says, and its identifier
  is the raw word with the flag bits.

  Key definitions include:
    * `FrameKind`
    * `FdFlags`
    * `ClassicFrame`
    * `FdFrame`
    * `Frame`
    * `Frame.makeClassic`
    * `Frame.makeFd`
    * `Frame.withLength`
    * `Frame.withDlc`
    * `Frame.text`
-/

namespace GatewayRules

------------------------------------------------------------
-- Kinds of Frames
------------------------------------------------------------

/- Classic CAN frames, and those with a flexible data rate. -/
inductive FrameKind where
  | classic
  | fd
deriving DecidableEq

namespace FrameKind

/- The largest payload of a frame, in bytes. -/
def maxLength : FrameKind → Nat
  | .classic => 8
  | .fd => 64

def isFd : FrameKind → Bool
  | .classic => false
  | .fd => true

/- The kind that a yes-or-no choice of FD frames selects. -/
def ofIsFd : Bool → FrameKind
  | false => .classic
  | true => .fd

end FrameKind

@[reducible]
def FdFlags.vocabulary : Vocabulary where
  title := "FdFlags"
  width := 8
  names := ["BRS", "ESI", "FDF"]

/- The flags of an FD frame. -/
abbrev FdFlags :=
  Flags FdFlags.vocabulary

------------------------------------------------------------
-- Frames
------------------------------------------------------------

/- A frame with up to eight bytes of data. -/
structure ClassicFrame where
  id : UInt32
  length : UInt8
  dlc : UInt8
  data : Block 8
deriving DecidableEq

/- A frame with up to sixty-four bytes of data. -/
structure FdFrame where
  id : UInt32
  length : UInt8
  flags : FdFlags
  data : Block 64
deriving DecidableEq

/- A frame of either kind. -/
inductive Frame where
  | classic (frame : ClassicFrame)
  | fd (frame : FdFrame)
deriving DecidableEq

namespace Frame

def kind : Frame → FrameKind
  | .classic _ => .classic
  | .fd _ => .fd

def id : Frame → UInt32
  | .classic frame => frame.id
  | .fd frame => frame.id

def length : Frame → UInt8
  | .classic frame => frame.length
  | .fd frame => frame.length

/- The whole data array, also beyond the length. -/
def data : Frame → Bytes
  | .classic frame => frame.data.bytes
  | .fd frame => frame.data.bytes

------------------------------------------------------------
-- Construction
------------------------------------------------------------

/-
  A classic frame with the given data, whose number is taken
  as the length.
-/
def makeClassic
    (id : UInt32)
    (data : Bytes) : Except Violation Frame :=
  if data.length ≤ FrameKind.classic.maxLength then
    .ok (.classic
      { id,
        length := UInt8.ofNat data.length,
        dlc := 0,
        data := Block.zeroFilled 8 data })
  else
    .error (.tooMuchData data.length FrameKind.classic.maxLength)

/-
  An FD frame with the given data, whose number is taken as
  the length.
-/
def makeFd
    (id : UInt32)
    (data : Bytes)
    (flags : FdFlags) : Except Violation Frame :=
  if data.length ≤ FrameKind.fd.maxLength then
    .ok (.fd
      { id,
        length := UInt8.ofNat data.length,
        flags,
        data := Block.zeroFilled 64 data })
  else
    .error (.tooMuchData data.length FrameKind.fd.maxLength)

/- Set the length field and leave the data as they are. -/
def withLength
    (frame : Frame)
    (length : UInt8) : Except Violation Frame :=
  if length.toNat ≤ frame.kind.maxLength then
    match frame with
    | .classic f => .ok (.classic { f with length })
    | .fd f => .ok (.fd { f with length })
  else
    .error (.tooMuchData length.toNat frame.kind.maxLength)

/- Set the raw length code.  An FD frame has none. -/
def withDlc
    (frame : Frame)
    (dlc : UInt8) : Frame :=
  match frame with
  | .classic f => .classic { f with dlc }
  | .fd f => .fd f

------------------------------------------------------------
-- Text
------------------------------------------------------------

/-
  Identifier, FD flags, length, and all data in hexadecimal,
  set apart by points.
-/
def text (frame : Frame) : String :=
  let flags :=
    match frame with
    | .classic _ => []
    | .fd f => Hex.number .upper f.flags.bits.toNat ++ ['.']
  String.ofList
    (Hex.paddedNumber .upper 3 frame.id.toNat ++ ['.']
      ++ flags
      ++ Hex.number .upper frame.length.toNat ++ ['.']
      ++ Hex.bytes .upper frame.data)

/- The text of a frame under the name of its kind. -/
def description (frame : Frame) : String :=
  let kind :=
    match frame with
    | .classic _ => "Classic"
    | .fd _ => "Fd"
  "ModFrame::" ++ kind ++ "(" ++ frame.text ++ ")"

end Frame

------------------------------------------------------------
-- Layouts
------------------------------------------------------------

/- Eight flags in a byte. -/
def FdFlags.layout : Layout FdFlags :=
  Layout.u8.view
    (fun flags => UInt8.ofBitVec flags.bits)
    (fun byte => ⟨byte.toBitVec⟩)
    (fun _ => rfl)

/-
  Identifier, length, two reserved bytes, length code, and
  data.
-/
def ClassicFrame.layout : Layout ClassicFrame :=
  (Layout.u32.pair <| Layout.u8.pair <|
    (Layout.reserved 2).pair <| Layout.u8.pair <|
      Layout.block 8).view
    (fun f => (f.id, f.length, (), f.dlc, f.data))
    (fun (id, length, _, dlc, data) => ⟨id, length, dlc, data⟩)
    (fun _ => rfl)

/-
  Identifier, length, flags, two reserved bytes, and data.
-/
def FdFrame.layout : Layout FdFrame :=
  (Layout.u32.pair <| Layout.u8.pair <| FdFlags.layout.pair <|
    (Layout.reserved 2).pair <| Layout.block 64).view
    (fun f => (f.id, f.length, f.flags, (), f.data))
    (fun (id, length, flags, _, data) => ⟨id, length, flags, data⟩)
    (fun _ => rfl)

end GatewayRules
