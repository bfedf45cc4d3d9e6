import Masquerade.Common.HandleNet
import Masquerade.Common.HandleTurn
import Masquerade.Lib.Run
import Masquerade.Lib.Slab
import Masquerade.TurnserverTcp.Mapping

/-! The event loop of the TCP server, one call of the operating system at a time. -/

namespace Masquerade.TurnserverTcp

open Lib Stun Common

inductive ErrorKind
  | wouldBlock
  | other
  deriving DecidableEq, Repr

abbrev IoResult (α : Type) := Except ErrorKind α

/-- The system's side of a connection: its identity, the bytes that have arrived and those not read
yet, and the bytes taken by `write`. -/
structure TcpStream where
  id : ℕ
  received : Bytes
  unread : Bytes
  accepted : Bytes
  deriving DecidableEq

/-- `started` and `consumed` are history: the frames begun on the stream, and the messages read off
it. -/
structure Conn where
  relayed : SocketAddrV6
  partialFrame : Option (ℕ × Bytes)
  stream : TcpStream
  started : List Bytes
  consumed : List Bytes
  deriving DecidableEq

inductive Token
  | tcp
  | tun
  | conn (index : ℕ)
  deriving DecidableEq, Repr

structure Event where
  token : Token
  readable : Bool
  writable : Bool
  readClosed : Bool
  error : Bool
  deriving DecidableEq, Repr

inductive Pc
  | poll
  | next
  | accept
  | tun
  | tunWrite (index : ℕ) (frame : Bytes)
  | tunDeregister
  | flush (index : ℕ) (readable : Bool) (offset : ℕ) (buffer : Bytes)
  | peek (index : ℕ)
  | read (index length : ℕ)
  | respond (index : ℕ) (frame : Bytes) (offset : ℕ)
  | deregister (index : ℕ)
  | exited
  | panicked
  deriving DecidableEq

/-- `events` are those of the batch still to be handled. The history `raised` tells which connection
stood in a slot when the batch was returned, and `accepts` counts the connections taken in so
far. -/
structure State where
  pc : Pc
  events : List Event
  buffer : Bytes
  streams : Slab Conn
  sent : List Bytes
  raised : ℕ → Option ℕ
  accepts : ℕ

structure SetUp where
  nodelay : Bool
  registered : Bool
  deriving DecidableEq, Repr

/-- What a call of the operating system comes back with. In between the program makes a `tick` of
its own from event to event, and bytes `arrive` at any time. -/
inductive Input
  | poll (events : Option (List Event))
  | tick
  | accept (outcome : Option SetUp)
  | recv (outcome : Option (Bytes × List.Vector UInt8 12))
  | write (outcome : IoResult ℕ)
  | peek (outcome : IoResult ℕ)
  | read (outcome : IoResult ℕ)
  | deregister (ok : Bool)
  | arrive (index : ℕ) (bytes : Bytes)
  deriving DecidableEq

namespace Conn

def arrive (bytes : Bytes) (c : Conn) : Conn :=
  { c with stream := { c.stream with
      received := c.stream.received ++ bytes, unread := c.stream.unread ++ bytes } }

def accept (bytes : Bytes) (c : Conn) : Conn :=
  { c with stream := { c.stream with accepted := c.stream.accepted ++ bytes } }

def start (frame : Bytes) (c : Conn) : Conn := { c with started := c.started ++ [frame] }

def keep (rest : Option (ℕ × Bytes)) (c : Conn) : Conn := { c with partialFrame := rest }

def drain (n : ℕ) (c : Conn) : Conn :=
  { c with stream := { c.stream with unread := c.stream.unread.drop n } }

def consume (message : Bytes) (c : Conn) : Conn := { c with consumed := c.consumed ++ [message] }

end Conn

namespace State

def goto (s : State) (pc : Pc) : State := { s with pc := pc }

def onConn (s : State) (index : ℕ) (f : Conn → Conn) : State :=
  { s with streams := s.streams.modify index f }

def idAt (s : State) (index : ℕ) : Option ℕ := (s.streams.get index).map (·.stream.id)

def Registered (s : State) (e : Event) : Prop :=
  match e.token with
  | .conn index => (s.streams.get index).isSome
  | _ => True

instance (s : State) (e : Event) : Decidable (s.Registered e) :=
  match h : e.token with
  | .conn index => decidable_of_iff ((s.streams.get index).isSome) (by simp [Registered, h])
  | .tcp => .isTrue (by simp [Registered, h])
  | .tun => .isTrue (by simp [Registered, h])

end State

def initial : State where
  pc := .next
  events := []
  buffer := List.replicate 65536 0
  streams := .empty
  sent := []
  raised := fun _ => none
  accepts := 0

def frameOf (buffer : Bytes) : Exec Bytes := do
  let length ← len buffer
  readAt buffer 0 length

section Handlers

def afterFlush (index : ℕ) (readable : Bool) : Pc := if readable then .peek index else .next

def takePartial (s : State) (index : ℕ) (readable : Bool) (c : Conn) : State :=
  match c.partialFrame with
  | none => s.goto (afterFlush index readable)
  | some (offset, buffer) =>
    (s.onConn index (.keep none)).goto (.flush index readable offset buffer)

def dispatch (s : State) (e : Event) : State :=
  match e.token with
  | .tcp => s.goto .accept
  | .tun => s.goto .tun
  | .conn index =>
    match s.streams.get index with
    | none => s.goto .next
    | some c =>
      if e.readClosed || e.error then s.goto (.deregister index)
      else if e.writable then takePartial s index (e.readable || e.error) c
      else s.goto (afterFlush index (e.readable || e.error))

def maxSlots : ℕ := 2 ^ 63 - 1

def accept (m : Mapping) (s : State) (outcome : Option SetUp) : State :=
  match outcome with
  | none => s.goto .next
  | some setUp =>
    if ¬ setUp.nodelay then s.goto .exited
    else
      let key := s.streams.vacantKey
      match m.fromIndex (BitVec.ofNat 64 key) with
      | none => s
      | some relayed =>
        if ¬ setUp.registered then s.goto .exited
        else if maxSlots ≤ key then s.goto .panicked
        else { s with
          streams := s.streams.insert ⟨relayed, none, ⟨s.accepts, [], [], []⟩, [], []⟩
          accepts := s.accepts + 1 }

def route (m : Mapping) (s : State) (receiver : SocketAddrV6) : State :=
  match m.toIndex receiver with
  | none => s
  | some index =>
    match s.streams.get index.toNat with
    | none => s
    | some c =>
      if c.partialFrame.isSome then s
      else match frameOf s.buffer with
        | .ok frame => s.goto (.tunWrite index.toNat frame)
        | .error _ => s.goto .panicked

def recv [Crypto] (m : Mapping) (s : State) (outcome : Option (Bytes × List.Vector UInt8 12)) :
    Option State :=
  match outcome with
  | none => some (s.goto .next)
  | some (packet, random) =>
    if s.buffer.length < packet.length then none
    else
      let buffer := splice s.buffer 0 packet
      some (match handleNet packet.length random buffer with
        | .error _ => s.goto .panicked
        | .ok none => { s with buffer := buffer }
        | .ok (some (receiver, msg)) => route m { s with buffer := msg } receiver)

def tunWrite (s : State) (index : ℕ) (frame : Bytes) (outcome : IoResult ℕ) : Option State :=
  match outcome with
  | .ok written =>
    if frame.length < written then none
    else
      let s := s.onConn index fun c => (c.start frame).accept (frame.take written)
      if written < frame.length then
        some ((s.onConn index (.keep (some (0, frame.drop written)))).goto .tun)
      else some (s.goto .tun)
  | .error .wouldBlock => some (s.goto .tun)
  | .error .other => some ({ s with streams := s.streams.remove index }.goto .tunDeregister)

def flush (s : State) (index : ℕ) (readable : Bool) (offset : ℕ) (buffer : Bytes)
    (outcome : IoResult ℕ) :
    Option State :=
  if buffer.length < offset then some (s.goto .panicked)
  else
    let rest := buffer.drop offset
    match outcome with
    | .ok written =>
      if rest.length < written then none
      else
        let s := s.onConn index (.accept (rest.take written))
        if rest.length ≤ written then some (s.goto (afterFlush index readable))
        -- The rest is put back, and taken again by the next round of the loop.
        else some (s.goto (.flush index readable (offset + written) buffer))
    | .error .wouldBlock =>
      some ((s.onConn index (.keep (some (offset, buffer)))).goto (afterFlush index readable))
    | .error .other => some (s.goto (.deregister index))

def afterPeek (index size : ℕ) (buffer : Bytes) : Except Error Unit → Pc
  | .error (.tooShort expected) => if size < expected then .deregister index else .next
  | .error .notStun => .deregister index
  | .ok () =>
    match len buffer with
    | .ok length => .read index length
    | .error _ => .panicked

def peek (s : State) (index : ℕ) (c : Conn) (outcome : IoResult ℕ) : Option State :=
  match outcome with
  | .error .wouldBlock => some (s.goto .next)
  | .error .other => some (s.goto (.deregister index))
  | .ok n =>
    if c.stream.unread.length < n ∨ s.buffer.length < n then none
    else
      let buffer := splice s.buffer 0 (c.stream.unread.take n)
      some (match decode buffer n with
        | .error _ => s.goto .panicked
        | .ok verdict =>
          { s with buffer := buffer }.goto (afterPeek index buffer.length buffer verdict))

def handle [Crypto] (s : State) (index : ℕ) (c : Conn) : State :=
  if c.partialFrame.isSome then s.goto (.peek index)
  else match handleTurn (.v6 c.relayed) c.relayed s.buffer with
    | .error _ => s.goto .panicked
    | .ok o =>
      let s := { s with buffer := o.buffer, sent := s.sent ++ o.sent }
      if o.reply then
        match frameOf o.buffer with
        | .ok frame => (s.onConn index (.start frame)).goto (.respond index frame 0)
        | .error _ => s.goto .panicked
      else s.goto (.peek index)

def read [Crypto] (s : State) (index length : ℕ) (c : Conn) (outcome : IoResult ℕ) : Option State :=
  if s.buffer.length < length then some (s.goto .panicked)
  else match outcome with
    | .error _ => some (s.goto .exited)
    | .ok n =>
      if c.stream.unread.length < n ∨ length < n then none
      else
        let message := c.stream.unread.take n
        let s := { s with buffer := splice s.buffer 0 message }
        if n ≠ length then some ((s.onConn index (.drain n)).goto (.deregister index))
        else some (handle (s.onConn index fun c => (c.drain n).consume message) index c)

def respond (s : State) (index : ℕ) (frame : Bytes) (offset : ℕ) (outcome : IoResult ℕ) :
    Option State :=
  if frame.length < offset then some (s.goto .panicked)
  else
    let rest := frame.drop offset
    match outcome with
    | .ok written =>
      if rest.length < written then none
      else
        let s := s.onConn index (.accept (rest.take written))
        if rest.length ≤ written then some (s.goto (.peek index))
        else some (s.goto (.respond index frame (offset + written)))
    -- There is no `break` here: the loop goes on with the same offset.
    | .error .wouldBlock => some (s.onConn index (.keep (some (0, rest))))
    | .error .other => some (s.goto (.deregister index))

end Handlers

def step [Crypto] (m : Mapping) (s : State) (i : Input) : Option State :=
  match i with
  | .poll none => if s.pc = .poll then some (s.goto .exited) else none
  | .poll (some events) =>
    if s.pc = .poll ∧ ∀ e ∈ events, s.Registered e then
      some { s with pc := .next, events := events, raised := s.idAt }
    else none
  | .tick =>
    match s.pc, s.events with
    | .next, [] => some (s.goto .poll)
    | .next, e :: events => some (dispatch { s with events := events } e)
    | _, _ => none
  | .accept outcome => if s.pc = .accept then some (accept m s outcome) else none
  | .recv outcome => if s.pc = .tun then recv m s outcome else none
  | .write outcome =>
    match s.pc with
    | .tunWrite index frame => tunWrite s index frame outcome
    | .flush index readable offset buffer => flush s index readable offset buffer outcome
    | .respond index frame offset => respond s index frame offset outcome
    | _ => none
  | .peek outcome =>
    match s.pc with
    | .peek index => (s.streams.get index).bind fun c => peek s index c outcome
    | _ => none
  | .read outcome =>
    match s.pc with
    | .read index length => (s.streams.get index).bind fun c => read s index length c outcome
    | _ => none
  | .deregister ok =>
    match s.pc with
    | .tunDeregister => some (s.goto (if ok then .tun else .exited))
    | .deregister index =>
      if ok then some ({ s with streams := s.streams.remove index }.goto .next)
      else some (s.goto .exited)
    | _ => none
  | .arrive index bytes => some (s.onConn index (.arrive bytes))

end Masquerade.TurnserverTcp
