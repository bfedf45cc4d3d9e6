import Masquerade.DtlsProxy.Machine

/-! What is relied on in OpenSSL and libsrtp, and a small server of which it is true. -/

namespace Masquerade.DtlsProxy

open Lib Wire

inductive Within (E : Engine) (ssl : E.Ssl) (r : Request) : List Bytes → E.Call → Prop
  | start : Within E ssl r [] (E.start r ssl)
  | read {reads : List Bytes} {c : E.Call} (size : ℕ) (data : Bytes) : Within E ssl r reads c →
      E.next c = .read size → Within E ssl r (reads ++ [data]) (E.wasRead c (.ok data))
  | readFailed {reads : List Bytes} {c : E.Call} (size : ℕ) (e : ErrorKind) :
      Within E ssl r reads c → E.next c = .read size → Within E ssl r reads (E.wasRead c (.error e))
  | wrote {reads : List Bytes} {c : E.Call} (buf : Bytes) (result : Except ErrorKind ℕ) :
      Within E ssl r reads c → E.next c = .write buf → Within E ssl r reads (E.wasWritten c result)

namespace Engine

structure Drains (E : Engine) : Prop where
  fresh : E.pending E.accept = 0
  reads : ∀ ssl, 0 < E.pending ssl → ∃ ssl' buf, E.sslRead ssl = (ssl', .ok buf)

/-- Data becomes pending only in a call that has read a datagram authenticated for the session. -/
def Authenticates (E : Engine) (valid : E.Ssl → Bytes → Prop) : Prop :=
  ∀ ssl r reads c ssl' result, E.pending ssl = 0 → Within E ssl r reads c →
    E.next c = .ret ssl' result → (∀ data ∈ reads, ¬ valid ssl data) → E.pending ssl' = 0

def WritesAlone (E : Engine) : Prop :=
  ∀ ssl plain reads c size, E.isInitFinished ssl → Within E ssl (.sslWrite plain) reads c →
    E.next c ≠ .read size

def Rests (E : Engine) (ssl : E.Ssl) : Prop := E.isInitFinished ssl = true ∧ E.pending ssl = 0

def Asks (E : Engine) : Action E.Ssl → Prop
  | .read size => 4096 ≤ size
  | _ => False

def Waits (E : Engine) : Action E.Ssl → Prop
  | .ret ssl (.error .wantRead) => E.pending ssl = 0
  | _ => False

def Finds (E : Engine) : Action E.Ssl → Prop
  | .ret ssl (.ok ()) => 0 < E.pending ssl
  | _ => False

def Ends (E : Engine) : Action E.Ssl → Prop
  | .ret _ (.error code) => code ≠ .wantRead ∧ code ≠ .wantWrite
  | _ => False

end Engine

/-- What a peek comes upon in the records of earlier datagrams that OpenSSL has not processed yet:
nothing that it would not pass over, application data, or an alert that ends the session. -/
inductive Leftover
  | nothing
  | data
  | closing

inductive Comes (E : Engine) (P : Action E.Ssl → Prop) : E.Call → Prop
  | here {c : E.Call} : P (E.next c) → Comes E P c
  | wrote {c : E.Call} (buf : Bytes) : E.next c = .write buf → buf.length ≤ 4096 →
      (∀ result, Comes E P (E.wasWritten c result)) → Comes E P c

lemma Comes.mono {E : Engine} {P Q : Action E.Ssl → Prop} {c : E.Call} (h : Comes E P c)
    (hPQ : ∀ a, P a → Q a) :
    Comes E Q c := by
  induction h with
  | here hP => exact .here (hPQ _ hP)
  | wrote buf hnext hfits _ ih => exact .wrote buf hnext hfits ih

inductive Fruitless (E : Engine) (valid : E.Ssl → Bytes → Prop) (ssl : E.Ssl) : E.Call → Prop
  | start : Fruitless E valid ssl (E.start .sslPeek ssl)
  | read {c : E.Call} (size : ℕ) (data : Bytes) : Fruitless E valid ssl c → E.next c = .read size →
      data ≠ [] → ¬ valid ssl data → Fruitless E valid ssl (E.wasRead c (.ok data))
  | wrote {c : E.Call} (buf : Bytes) (result : Except ErrorKind ℕ) : Fruitless E valid ssl c →
      E.next c = .write buf → Fruitless E valid ssl (E.wasWritten c result)

namespace Engine

/-- Records that fail authentication are discarded and the next datagram is read, until there is
none, or the end of the stream. Records of earlier datagrams come first; `answers` tells whether
something is written on their account. -/
structure Discards (E : Engine) (valid : E.Ssl → Bytes → Prop) (left : E.Ssl → Leftover)
    (answers : E.Ssl → Prop) : Prop where
  reads : ∀ ssl c, E.Rests ssl → left ssl = .nothing → Fruitless E valid ssl c → Comes E E.Asks c
  blocked : ∀ ssl c size, E.Rests ssl → left ssl = .nothing → Fruitless E valid ssl c →
    E.next c = .read size → Comes E E.Waits (E.wasRead c (.error .wouldBlock))
  closed : ∀ ssl c size, E.Rests ssl → left ssl = .nothing → Fruitless E valid ssl c →
    E.next c = .read size → Comes E E.Ends (E.wasRead c (.ok []))
  answers : ∀ ssl, E.Rests ssl → left ssl = .nothing →
    (answers ssl ↔ ∃ buf, E.next (E.start .sslPeek ssl) = .write buf)
  data : ∀ ssl, E.Rests ssl → left ssl = .data → Comes E E.Finds (E.start .sslPeek ssl)
  closing : ∀ ssl, E.Rests ssl → left ssl = .closing → Comes E E.Ends (E.start .sslPeek ssl)

def Refuses (E : Engine) (valid : E.Inbound → Bytes → Prop) : Prop :=
  ∀ rtcp incoming cursor, ¬ valid incoming cursor.data →
    (E.unprotect rtcp incoming cursor).2.2 = false

end Engine

section Server

inductive Phase
  | start
  | hello
  | finished
  deriving DecidableEq

structure Session where
  phase : Phase
  inbox : Bytes
  deriving DecidableEq

inductive Script
  | read (ssl : Session)
  | write (buf : Bytes) (after : Script)
  | ended (ssl : Session) (result : Except ErrorCode Unit)

namespace Script

def start : Request → Session → Script
  | .doHandshake, ssl => .read ssl
  | .sslPeek, ssl => if ssl.inbox = [] then .read ssl else .ended ssl (.ok ())
  | .sslWrite plain, ssl => .write (23 :: 42 :: plain) (.ended ssl (.ok ()))

def received (ssl : Session) (data : Bytes) : Script :=
  match ssl.phase, data with
  | _, [] => .ended ssl (.error .syscall)
  | .start, _ :: _ => .write [22, 2] (.read { ssl with phase := .hello })
  | .hello, _ :: _ => .write [22, 20] (.ended { ssl with phase := .finished } (.ok ()))
  | .finished, _ :: tag :: plain =>
    if tag = 42 then .ended { ssl with inbox := plain } (.ok ()) else .read ssl
  | .finished, [_] => .read ssl

def wasRead : Script → Except ErrorKind Bytes → Script
  | .read ssl, .ok data => received ssl data
  | .read ssl, .error .wouldBlock => .ended ssl (.error .wantRead)
  | .read ssl, .error .outOfMemory => .ended ssl (.error .syscall)
  | c, _ => c

def wasWritten : Script → Except ErrorKind ℕ → Script
  | .write _ after, _ => after
  | c, _ => c

def next : Script → Action Session
  | .read _ => .read 16384
  | .write buf _ => .write buf
  | .ended ssl result => .ret ssl result

end Script

/-- A server with a handshake of two flights, and one byte to authenticate everything. -/
abbrev server : Engine where
  Ssl := Session
  Call := Script
  Inbound := Unit
  Outbound := Unit
  accept := ⟨.start, []⟩
  isInitFinished ssl := ssl.phase = .finished
  pending ssl := ssl.inbox.length
  start := Script.start
  next := Script.next
  wasRead := Script.wasRead
  wasWritten := Script.wasWritten
  sslRead ssl := ({ ssl with inbox := ssl.inbox.drop 4096 },
    .ok ⟨ssl.inbox.take 4096, List.length_take_le 4096 _⟩)
  sessionPair _ := some ((), ())
  unprotect _ _ cursor := if cursor.data.getLast? = some 42 then
      ((), { cursor with position := cursor.position - 1 }, true)
    else ((), cursor, false)
  protect _ _ cursor := if h : cursor.position < 4096 then
      ((), ⟨cursor.buffer.set ⟨cursor.position, h⟩ 42, cursor.position + 1⟩, true)
    else ((), cursor, false)
  accept_unfinished := rfl

def serverValid (ssl : Session) (data : Bytes) : Prop := ssl.phase = .finished ∧ data[1]? = some 42

lemma server_drains : server.Drains where
  fresh := rfl
  reads _ _ := ⟨_, _, rfl⟩

def Script.Closed (ssl : Session) : Script → Prop
  | .read ssl' => ssl'.inbox = [] ∧ (ssl'.phase = .finished → ssl.phase = .finished)
  | .write _ after => after.Closed ssl
  | .ended ssl' _ => ssl'.inbox = []

lemma Script.received_closed {ssl ssl' : Session} {data : Bytes} (h : (Script.read ssl').Closed ssl)
    (hinvalid : ¬ serverValid ssl data) : (received ssl' data).Closed ssl := by
  obtain ⟨phase, inbox⟩ := ssl'
  obtain ⟨hinbox, hphase⟩ := h
  match phase, data with
  | _, [] => exact hinbox
  | .start, _ :: _ => exact ⟨hinbox, by simp⟩
  | .hello, _ :: _ => exact hinbox
  | .finished, [_] => exact ⟨hinbox, hphase⟩
  | .finished, first :: tag :: plain =>
    show Script.Closed ssl (if tag = 42 then _ else _)
    split_ifs with htag
    · exact absurd ⟨hphase rfl, by simp [htag]⟩ hinvalid
    · exact ⟨hinbox, hphase⟩

lemma server_closed {ssl : server.Ssl} {r : Request} {reads : List Bytes}
    {c : server.Call} (hssl : ssl.inbox = []) (h : Within server ssl r reads c)
    (hinvalid : ∀ data ∈ reads, ¬ serverValid ssl data) : c.Closed ssl := by
  induction h with
  | start =>
    cases r with
    | doHandshake => exact ⟨hssl, id⟩
    | sslPeek =>
      have : server.start .sslPeek ssl = Script.read ssl := if_pos hssl
      rw [this]
      exact ⟨hssl, id⟩
    | sslWrite plain => exact hssl
  | @read reads c size data _ hnext ih =>
    cases c with
    | read ssl' =>
      have hclosed := ih fun data' hdata' => hinvalid data' (List.mem_append_left _ hdata')
      exact Script.received_closed hclosed (hinvalid data (by simp))
    | write buf after => cases hnext
    | ended ssl' result => cases hnext
  | @readFailed reads c size e _ hnext ih =>
    cases c with
    | read ssl' =>
      have hclosed := ih hinvalid
      cases e with
      | wouldBlock => exact hclosed.1
      | outOfMemory => exact hclosed.1
    | write buf after => cases hnext
    | ended ssl' result => cases hnext
  | @wrote reads c buf result _ hnext ih =>
    cases c with
    | read ssl' => cases hnext
    | write buf' after => exact ih hinvalid
    | ended ssl' result => cases hnext

lemma server_authenticates : server.Authenticates serverValid := by
  intro ssl r reads c ssl' result hpending hwithin hnext hinvalid
  have hclosed := server_closed (List.length_eq_zero_iff.mp hpending) hwithin hinvalid
  cases c with
  | read ssl' => cases hnext
  | write buf after => cases hnext
  | ended ssl' result =>
    cases hnext
    exact List.length_eq_zero_iff.mpr hclosed

lemma server_writesAlone : server.WritesAlone := by
  intro ssl plain reads c size _ hwithin hread
  have hscript : c = Script.start (.sslWrite plain) ssl ∨ c = .ended ssl (.ok ()) := by
    clear hread
    induction hwithin with
    | start => exact .inl rfl
    | read _ _ _ hnext ih => obtain rfl | rfl := ih <;> cases hnext
    | readFailed _ _ _ hnext ih => obtain rfl | rfl := ih <;> cases hnext
    | wrote _ _ _ hnext ih =>
      obtain rfl | rfl := ih
      · exact .inr rfl
      · cases hnext
  obtain rfl | rfl := hscript <;> cases hread

lemma server_fruitless {ssl : server.Ssl} {c : server.Call} (hssl : server.Rests ssl)
    (h : Fruitless server serverValid ssl c) : c = Script.read ssl := by
  have hphase : ssl.phase = .finished := of_decide_eq_true hssl.1
  induction h with
  | start => exact if_pos (List.length_eq_zero_iff.mp hssl.2)
  | read size data _ _ hdata hinvalid ih =>
    subst ih
    match data with
    | [] => exact absurd rfl hdata
    | [_] => simp [Script.wasRead, Script.received, hphase]
    | first :: tag :: plain =>
      have htag : tag ≠ 42 := fun htag => hinvalid ⟨hphase, by simp [htag]⟩
      simp [Script.wasRead, Script.received, hphase, htag]
  | wrote buf result _ hnext ih =>
    subst ih
    cases hnext

lemma server_discards : server.Discards serverValid (fun _ => .nothing) fun _ => False where
  reads ssl c hssl _ h := by
    rw [server_fruitless hssl h]
    exact .here (show 4096 ≤ 16384 by norm_num)
  blocked ssl c size hssl _ h _ := by
    rw [server_fruitless hssl h]
    exact .here hssl.2
  closed ssl c size hssl _ h _ := by
    rw [server_fruitless hssl h]
    exact .here (show _ ∧ _ by decide)
  answers ssl hssl _ := by
    rw [server_fruitless hssl .start]
    exact ⟨nofun, nofun⟩
  data ssl _ h := by cases h
  closing ssl _ h := by cases h

lemma server_refuses : server.Refuses fun _ data => data.getLast? = some 42 := by
  intro rtcp incoming cursor hinvalid
  have : server.unprotect rtcp incoming cursor = ((), cursor, false) := if_neg hinvalid
  rw [this]

end Server

end Masquerade.DtlsProxy
