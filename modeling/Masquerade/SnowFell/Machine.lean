import Masquerade.Lib.Run
import Masquerade.Lib.Utf8
import Masquerade.Wire

/-! The event loop that carries Ethernet frames between a TAP interface and SCTP associations. -/

namespace Masquerade.SnowFell

open Lib Wire

abbrev Mac := List.Vector UInt8 6

/-- `sctp_assoc_t`, a C `int`. -/
abbrev AssocId := BitVec 32

namespace AssocId

def all : AssocId := 2

def toBeBytes (id : AssocId) : Bytes := toBE 4 id.toNat

def fromBeBytes (bs : Bytes) : AssocId := BitVec.ofNat 32 (ofBE bs)

@[simp] lemma toBeBytes_length (id : AssocId) : (toBeBytes id).length = 4 := toBE_length 4 _

end AssocId

structure Oui where
  mac : Mac
  unicast : mac.head &&& 0b01 = 0
  administered : mac.head &&& 0b10 = 0b10
  suffix : mac.toList.drop 3 = [0, 0, 0]

lemma administered_bits : ∀ b : BitVec 8, ((b &&& ~~~1) ||| 2) &&& 1 = 0 ∧
    ((b &&& ~~~1) ||| 2) &&& 2 = 2 := by
  decide

def Oui.fromRandom (bytes : List.Vector UInt8 3) : Oui where
  mac := ⟨[(bytes.get 0 &&& ~~~0b01) ||| 0b10, bytes.get 1, bytes.get 2, 0, 0, 0], rfl⟩
  unicast := UInt8.toBitVec_inj.mp (administered_bits (bytes.get 0).toBitVec).1
  administered := UInt8.toBitVec_inj.mp (administered_bits (bytes.get 0).toBitVec).2
  suffix := rfl

section Addresses

variable (oui : Oui) (id : AssocId)

def announcedMac : Mac :=
  ⟨splice (splice (List.replicate 6 0) 0 (oui.mac.toList.take 3)) 3 ((AssocId.toBeBytes id).drop 1),
    by simp [splice]⟩

def expectedMac : Mac := ⟨splice oui.mac.toList 3 ((AssocId.toBeBytes id).drop 1), by simp [splice]⟩

end Addresses

def hexDigit (n : ℕ) : UInt8 := UInt8.ofNat (if n < 10 then 0x30 + n else 0x61 + (n - 10))

def hexByte (b : UInt8) : Bytes := [hexDigit (b.toNat / 16), hexDigit (b.toNat % 16)]

def fmtMac (mac : Mac) : Bytes := List.intercalate [0x3a] (mac.toList.map hexByte)

structure SndInfo where
  sid : UInt16
  flags : UInt16
  ppid : UInt32
  context : UInt32
  assocId : AssocId
  deriving DecidableEq

structure PrInfo where
  policy : UInt16
  value : UInt32
  deriving DecidableEq, Repr

structure SctpMessage where
  info : SndInfo
  pr : Option PrInfo
  data : Bytes
  deriving DecidableEq

inductive Action
  | send (m : SctpMessage)
  | inject (sender : AssocId) (frame : Bytes)
  deriving DecidableEq

namespace Sctp

def unordered : UInt16 := 1
def sendAll : UInt16 := 64
def prRtx : UInt16 := 0x0020

def assocChange : ℕ := 0x8001
def shutdownEvent : ℕ := 0x8005

def commUp : ℕ := 0

end Sctp

namespace Ppid

def dcep : UInt32 := 50
def string : UInt32 := 51
def vpn : UInt32 := 53

end Ppid

def protocol : Bytes := [0x45, 0x54, 0x48, 0x45, 0x52]

def opened (oui : Oui) (id : AssocId) : SctpMessage :=
  let label := fmtMac (announcedMac oui id)
  let dcep : DcepOpenHeader :=
    ⟨0x03, 0x81, 1024, 0, UInt16.ofNat label.length, UInt16.ofNat protocol.length⟩
  ⟨⟨1, 0, Ppid.dcep, 0, id⟩, none, dcep.asBytes ++ label ++ protocol⟩

abbrev Buffer := List.Vector UInt8 65535

def Buffer.fill (buffer : Buffer) (data : Bytes) : Buffer :=
  ⟨splice buffer.toList 0 (data.take 65535), by simp [splice]⟩

def destination (oui : Oui) (dst : Mac) : Option (AssocId × UInt16) :=
  if dst.get 0 &&& 0b01 ≠ 0 then some (.all, Sctp.unordered ||| Sctp.sendAll)
  else if dst.toList.take 3 = oui.mac.toList.take 3 then
    some (.fromBeBytes [0, dst.get 3, dst.get 4, dst.get 5], Sctp.unordered)
  else none

def tunnel (oui : Oui) (buffer : Buffer) (length : ℕ) : Exec (Option Action) := do
  require (14 ≤ length)
  let (eth, _) ← unwrapSome (EtherHeader.fromPrefix buffer.toList)
  match destination oui eth.dst with
  | none => return none
  | some (assocId, flags) =>
    let data ← readAt buffer.toList 0 length
    return some (.send ⟨⟨1, flags, Ppid.vpn, 0, assocId⟩, some ⟨Sctp.prRtx, 0⟩, data⟩)

section Notifications

-- The kernel fills in its structures in the byte order of the machine.
def ofLE (bs : Bytes) : ℕ := ofBE bs.reverse

def snType (data : Bytes) : ℕ := ofLE (slice data 0 2)

def sacState (data : Bytes) : ℕ := ofLE (slice data 8 2)

def sacAssocId (data : Bytes) : AssocId := BitVec.ofNat 32 (ofLE (slice data 16 4))

def notification (oui : Oui) (data : Bytes) : Exec (Option Action) := do
  require (8 < data.length)
  if snType data = Sctp.assocChange then
    require (20 ≤ data.length)
    if sacState data ≠ Sctp.commUp then return none
    else return some (.send (opened oui (sacAssocId data)))
  else if snType data = Sctp.shutdownEvent then
    require (12 ≤ data.length)
    return none
  else return none

end Notifications

structure RcvInfo where
  sid : UInt16
  ppid : UInt32
  assocId : AssocId
  deriving DecidableEq

structure Received where
  data : Bytes
  trunc : Bool
  eor : Bool
  notification : Bool
  addr6 : Option SocketAddrV6
  info : Option RcvInfo
  encaps : Bool
  deriving DecidableEq

def message (oui : Oui) (r : Received) (data : Bytes) : Exec (Option Action) :=
  match r.addr6, r.info with
  | some _, some info =>
    if info.ppid = Ppid.dcep then .ok none
    else if info.ppid = Ppid.string then
      match fromUtf8 data with
      | none => .ok none
      | some _ => do
        require (r.encaps = true)
        return none
    else if info.ppid = Ppid.vpn ∧ info.sid = 1 then
      match EtherHeader.fromPrefix data with
      | none => .ok none
      | some (eth, _) =>
        if eth.src ≠ expectedMac oui info.assocId then .ok none
        else .ok (some (.inject info.assocId data))
    else .ok none
  | _, _ => .ok none

def receive (oui : Oui) (buffer : Buffer) (r : Received) : Exec (Option Action) :=
  if r.trunc then .ok none
  else if ¬ r.eor then .ok none
  else if 65535 < r.data.length then .ok none
  else
    let data := buffer.toList.take r.data.length
    if r.notification then notification oui data else message oui r data

inductive Token
  | tap
  | sctp
  deriving DecidableEq, Repr

inductive Pc
  | poll
  | next
  | tap
  | sctp
  | exited
  | panicked
  deriving DecidableEq, Repr

structure State where
  pc : Pc
  events : List Token
  buffer : Buffer
  actions : List Action

abbrev Frame := { frame : Bytes // frame.length ≤ 65535 }

inductive Incoming
  | wouldBlock
  | failed
  | received (r : Received)
  deriving DecidableEq

inductive Input
  | poll (events : Option (List Token))
  | tick
  | recv (outcome : Option Frame)
  | recvmsg (outcome : Incoming)
  deriving DecidableEq

namespace State

def goto (s : State) (pc : Pc) : State := { s with pc := pc }

def fill (s : State) (data : Bytes) : State := { s with buffer := s.buffer.fill data }

def act (s : State) : Exec (Option Action) → State
  | .error _ => s.goto .panicked
  | .ok none => s
  | .ok (some action) => { s with actions := s.actions ++ [action] }

end State

def initial : State where
  pc := .next
  events := []
  buffer := ⟨List.replicate 65535 0, List.length_replicate⟩
  actions := []

def next (s : State) : State :=
  match s.events with
  | [] => s.goto .poll
  | .tap :: rest => { s with pc := .tap, events := rest }
  | .sctp :: rest => { s with pc := .sctp, events := rest }

def step (oui : Oui) (s : State) : Input → Option State
  | .tick => if s.pc = .next then some (next s) else none
  | .poll outcome =>
    if s.pc = .poll then
      match outcome with
      | none => some (s.goto .exited)
      | some events => some { s with pc := .next, events := events }
    else none
  | .recv outcome =>
    if s.pc = .tap then
      match outcome with
      | none => some (s.goto .next)
      | some frame =>
        let s := s.fill frame
        some (s.act (tunnel oui s.buffer frame.val.length))
    else none
  | .recvmsg outcome =>
    if s.pc = .sctp then
      match outcome with
      | .wouldBlock => some (s.goto .next)
      | .failed => some s
      | .received r =>
        let s := s.fill r.data
        some (s.act (receive oui s.buffer r))
    else none

end Masquerade.SnowFell
