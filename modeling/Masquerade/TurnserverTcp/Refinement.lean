import Masquerade.TurnserverTcp.Ownership
import Masquerade.TurnserverTcp.Relay

/-! The event loop of the TCP server follows the relay that it is meant to be. -/

namespace Masquerade.TurnserverTcp

open Lib Stun Common

section Abstraction

def Conn.client (c : Conn) : Client :=
  ⟨c.relayed, c.stream.received, c.consumed, c.started, c.stream.accepted⟩

def State.view (s : State) : ℕ → Option Client := fun k => (s.streams.get k).map Conn.client

def Pc.offer : Pc → Option (ℕ × Bytes)
  | .tunWrite k frame => some (k, frame)
  | _ => none

def Pc.writes : Pc → Option ℕ
  | .tunWrite k _ | .flush k _ _ _ | .respond k _ _ => some k
  | _ => none

def writeOutcome (k : ℕ) : IoResult ℕ → World
  | .ok n => .takes k n
  | .error .wouldBlock => .blocks k
  | .error .other => .fails k

def Event.hangUp (e : Event) : Option World :=
  match e.token with
  | .conn k => if e.readClosed || e.error then some (.fails k) else none
  | _ => none

def world (s : State) : Input → Option World
  | .accept (some ⟨true, true⟩) => some .joins
  | .arrive k bytes => some (.sends k bytes)
  | .recv (some (packet, random)) => some (.arrives packet random)
  | .write outcome => s.pc.writes.map fun k => writeOutcome k outcome
  | .peek (.error .other) => s.pc.handles.map .fails
  | .read (.ok n) =>
    match s.pc with
    | .read k length => if n = length then none else some (.fails k)
    | _ => none
  | .tick => s.events.head?.bind Event.hangUp
  | _ => none

structure Shows (s : State) (r : Relay) : Prop where
  clients : r.clients = s.view
  offer : r.offer = s.pc.offer
  closing : ∀ k, s.pc = .deregister k → r.closing = some k
  network : r.network = s.sent

variable {s s' : State} {k : ℕ} {f : Conn → Conn} {c : Conn}

lemma view_modify (he : s'.streams = s.streams.modify k f) (hf : ∀ c, (f c).client = c.client) :
    s'.view = s.view := by
  funext j
  rw [State.view, State.view, he, Slab.get_modify]
  split_ifs with hj
  · rw [hj, Option.map_map]
    exact congrArg (fun g => (s.streams.get k).map g) (funext hf)
  · rfl

lemma view_update (hc : s.streams.get k = some c) (he : s'.streams = s.streams.modify k f) :
    s'.view = Function.update s.view k (some (f c).client) := by
  funext j
  rw [State.view, he, Slab.get_modify, Function.update_apply]
  split_ifs with hj
  · rw [hc]
    rfl
  · rfl

lemma view_remove (he : s'.streams = s.streams.remove k) :
    s'.view = Function.update s.view k none := by
  funext j
  rw [State.view, he, Slab.get_remove, Function.update_apply]
  split_ifs <;> rfl

lemma Shows.client {r : Relay} (h : Shows s r) (hc : s.streams.get k = some c) :
    r.clients k = some c.client := by
  rw [h.clients, State.view, hc, Option.map_some]

end Abstraction

section Unspent

def Pc.Unspent : Pc → Prop
  | .flush _ _ offset buffer => buffer.drop offset ≠ []
  | .respond _ frame offset => frame.drop offset ≠ []
  | _ => True

structure Unspent (s : State) : Prop where
  kept : ∀ k c, s.streams.get k = some c → c.partialFrame.isSome → c.unsent ≠ []
  pc : s.pc.Unspent

variable [Crypto] {m : Mapping} {s s' : State} {i : Input} {k : ℕ}

omit [Crypto] in
lemma unspent_modify {f : Conn → Conn}
    (hs : ∀ k c, s.streams.get k = some c → c.partialFrame.isSome → c.unsent ≠ [])
    (he : s'.streams = s.streams.modify k f) (hf : ∀ c, (c.partialFrame.isSome → c.unsent ≠ []) →
    (f c).partialFrame.isSome → (f c).unsent ≠ []) :
    ∀ k c, s'.streams.get k = some c → c.partialFrame.isSome → c.unsent ≠ [] := by
  intro j c hc
  rw [he] at hc
  rcases Slab.get_modify_eq_some hc with ⟨-, hc⟩ | ⟨c₀, rfl, hc₀, rfl⟩
  · exact hs j c hc
  · exact hf c₀ (hs j c₀ hc₀)

omit [Crypto] in
lemma drop_ne_nil {xs : Bytes} {n : ℕ} (h : n < xs.length) : xs.drop n ≠ [] := by
  rw [ne_eq, List.drop_eq_nil_iff]
  omega

omit [Crypto] in
lemma unspent_afterFlush (k : ℕ) (readable : Bool) : (afterFlush k readable).Unspent := by
  cases readable <;> trivial

omit [Crypto] in
lemma Pc.Outside.unspent {pc : Pc} (h : pc.Outside) : pc.Unspent := by
  cases pc <;> trivial

lemma Step.kept_unspent (h : Step m s i s') (hs : Unspent s) :
    ∀ k c, s'.streams.get k = some c → c.partialFrame.isSome → c.unsent ≠ [] := by
  have hflushing := hs.pc
  cases h with
  | idle he | enter _ _ _ _ _ _ _ _ _ _ he | routed _ _ _ _ _ _ _ _ _ _ _ _ _ _ he
  | condemned _ _ he
  | peeked _ _ _ _ _ _ _ _ _ he =>
    rw [he]
    exact hs.kept
  | accepted relayed _ _ _ he =>
    intro k c hc
    rw [he] at hc
    rcases Slab.get_insert_eq_some hc with ⟨-, hc⟩ | ⟨rfl, rfl⟩
    · exact hs.kept k c hc
    · simp
  | tunFailed j _ _ he | deregistered j _ he =>
    intro k c hc
    rw [he] at hc
    exact hs.kept k c (Slab.get_remove_eq_some hc).2
  | flushed _ _ _ _ _ _ _ he | readShort _ _ _ _ he | consumed _ _ _ _ _ _ he
  | answered _ _ _ _ _ _ _ _ _ _ _ _ _ he
  | responded _ _ _ _ _ _ _ he | arrived _ _ _ he => exact unspent_modify hs.kept he fun _ hc => hc
  | resume _ _ _ _ _ _ _ _ _ _ _ _ _ _ he => exact unspent_modify hs.kept he fun c _ => by simp
  | respondBlocked k frame offset hpc he =>
    rw [hpc] at hflushing
    exact unspent_modify hs.kept he fun c _ _ => by rwa [unsent_some rfl, List.drop_zero]
  | flushBlocked k readable offset buffer hpc he =>
    rw [hpc] at hflushing
    exact unspent_modify hs.kept he fun c _ _ => by rwa [unsent_some rfl]
  | tunWrote k frame n hpc hn he =>
    apply unspent_modify hs.kept he
    intro c hc hsome
    split_ifs at hsome ⊢ with hshort
    · rw [unsent_some rfl, List.drop_zero]
      exact drop_ne_nil hshort
    · exact hc hsome

lemma Step.pc_unspent (h : Step m s i s') (hs : Unspent s) (hinv : Inv m s) : s'.pc.Unspent := by
  have hsame := hs.pc
  cases h with
  | idle _ hpc' => exact hpc'.unspent
  | resume k c e es readable offset buffer _ _ _ _ hc _ hkept _ hpc' =>
    have hunsent := hs.kept k c hc (by simp [hkept])
    rw [unsent_some hkept] at hunsent
    rw [hpc']
    exact hunsent
  | flushed k readable offset buffer n hpc hn _ hpc' =>
    rw [hpc']
    split_ifs with hall
    · exact unspent_afterFlush k readable
    · apply drop_ne_nil
      rw [List.length_drop] at hall
      omega
  | flushBlocked k readable _ _ _ _ hpc' =>
    rw [hpc']
    exact unspent_afterFlush k readable
  | answered k length c o frame hpc hc hlen hb hkept hturn hreply hframe _ hpc' =>
    obtain ⟨c', hc', -, hsize, hmessage⟩ := hinv.reading k length hpc
    obtain rfl := Option.some.inj (hc'.symm.trans hc)
    obtain ⟨frame', hframe', hisFrame⟩ :=
      frame_of_turn hinv.buffer (by rw [List.length_take]; omega) hmessage hturn hreply
    obtain rfl := Except.ok.inj (hframe'.symm.trans hframe)
    have hlen := hisFrame.length_pos
    rw [hpc']
    exact drop_ne_nil (by omega)
  | responded k frame offset n hpc _ hn _ hpc' =>
    rw [hpc']
    split_ifs with hall
    · trivial
    · apply drop_ne_nil
      rw [List.length_drop] at hall
      omega
  | respondBlocked _ _ _ _ _ hpc' | arrived _ _ _ _ hpc' =>
    rw [hpc']
    exact hsame
  | enter _ _ _ _ _ _ _ _ _ _ _ hpc' | consumed _ _ _ _ _ _ _ hpc' =>
    rcases hpc' with hpc' | hpc' <;> rw [hpc'] <;> trivial
  | accepted _ _ _ _ _ hpc' | tunWrote _ _ _ _ _ _ hpc' | tunFailed _ _ _ _ hpc'
  | condemned _ _ _ hpc'
  | peeked _ _ _ _ _ _ _ _ _ _ hpc' | readShort _ _ _ _ _ hpc' | deregistered _ _ _ hpc'
  | routed _ _ _ _ _ _ _ _ _ _ _ _ _ _ _ hpc' =>
    rw [hpc']
    trivial

end Unspent

section Simulation

variable [Crypto] (m : Mapping)

/-- The input shows a defect of the server: bytes of a response are taken after `WouldBlock`, or a
packet for a low port arrives. -/
def Defect (s : State) (i : Input) : Prop :=
  ¬ NoRetry s i ∨ ∃ packet random receiver message, i = .recv (some (packet, random)) ∧
    netted random packet = some (receiver, message) ∧ receiver.port < 0x8000

structure Steady (s : State) : Prop where
  inv : Inv m s
  output : Output s
  fed : Fed s
  unspent : Unspent s

def Matched (s : State) (i : Input) (s' : State) (r : Relay) : Prop :=
  ∃ r', Path (Relay.Step m) r (world s i).toList r' ∧ Shows s' r'

variable {m} {s s' : State} {i : Input} {r r' : Relay} {k : ℕ} {c : Conn}

lemma Steady.step (h : Steady m s) (hi : NoRetry s i) (hstep : step m s i = some s') :
    Steady m s' where
  inv := h.inv.step hstep
  output := h.output.step h.inv hi (step_cases hstep)
  fed := (step_cases hstep).fed h.fed
  unspent := ⟨(step_cases hstep).kept_unspent h.unspent,
    (step_cases hstep).pc_unspent h.unspent h.inv⟩

omit [Crypto] in
lemma steady_initial : Steady m initial where
  inv := inv_initial
  output := output_initial
  fed := fed_initial
  unspent := by
    refine ⟨fun k c hc => ?_, trivial⟩
    have hnone : initial.streams.get k = none := Slab.get_empty k
    rw [hnone] at hc
    cases hc

omit [Crypto] in
lemma Steady.behind_iff (h : Steady m s) (haway : s.pc.Away k) (hc : s.streams.get k = some c) :
    c.client.Behind ↔ c.partialFrame.isSome := by
  have hbalanced := (h.output k c hc).unsent haway
  show c.stream.accepted ≠ c.started.flatten ↔ _
  rw [← hbalanced]
  constructor
  · intro hne
    by_contra hnone
    rw [unsent_none (Option.not_isSome_iff_eq_none.mp hnone), List.append_nil] at hne
    exact hne rfl
  · intro hkept heq
    exact h.unspent.kept k c hc hkept (List.self_eq_append_right.mp heq)

section Steps

lemma Shows.stays (h : Shows s r) (hworld : world s i = none) (hview : s'.view = s.view)
    (hoffer : s'.pc.offer = s.pc.offer) (hclosing : ∀ k, s'.pc ≠ .deregister k)
    (hsent : s'.sent = s.sent) :
    Matched m s i s' r := by
  refine ⟨r, by rw [hworld]; exact .refl, ?_⟩
  exact ⟨by rw [hview, h.clients], by rw [hoffer, h.offer], fun k hk => absurd hk (hclosing k),
    by rw [hsent, h.network]⟩

lemma matched_single (hstep : Relay.Step m r (world s i) r') (h : Shows s' r') :
    Matched m s i s' r :=
  ⟨r', .single _ hstep, h⟩

omit [Crypto] in
lemma offersOnly_of_none (h : r.offer = none) (k : ℕ) : r.OffersOnly k := by
  intro j message hj
  rw [h] at hj
  cases hj

lemma Shows.fails (h : Shows s r) (hworld : world s i = some (.fails k)) (hoffers : r.OffersOnly k)
    (hlive : (s.streams.get k).isSome) (hview : s'.view = s.view) (hpc' : s'.pc = .deregister k)
    (hsent : s'.sent = s.sent) : Matched m s i s' r := by
  have hclient : (r.clients k).isSome := by
    rw [h.clients, State.view, Option.isSome_map]
    exact hlive
  have hfail := Relay.Step.fail (m := m) hoffers
  rw [if_pos hclient, ← hworld] at hfail
  refine matched_single hfail ⟨?_, ?_, ?_, ?_⟩
  · rw [hview]
    exact h.clients
  · rw [hpc']
    rfl
  · intro j hj
    rw [hpc'] at hj
    rw [Pc.deregister.inj hj]
  · rw [hsent]
    exact h.network

lemma Shows.dispatch {e : Event} {es : List Event} (h : Shows s r) (hpc : s.pc = .next)
    (he : s.events = e :: es) :
    Matched m s .tick (dispatch { s with events := es } e) r := by
  have hworld : world s .tick = e.hangUp := by simp [world, he]
  have hoffer : r.offer = none := by rw [h.offer, hpc]; rfl
  unfold TurnserverTcp.dispatch
  unfold Event.hangUp at hworld
  cases ht : e.token with
  | tcp =>
    rw [ht] at hworld
    exact h.stays hworld rfl (by rw [hpc]; rfl) (by simp) rfl
  | tun =>
    rw [ht] at hworld
    exact h.stays hworld rfl (by rw [hpc]; rfl) (by simp) rfl
  | conn k =>
    rw [ht] at hworld
    simp only at hworld ⊢
    cases hc : s.streams.get k with
    | none =>
      simp only
      split_ifs at hworld with hclosed
      · have hfail := Relay.Step.fail (m := m) (offersOnly_of_none hoffer k)
        have hvacant : (r.clients k).isSome = false := by rw [h.clients, State.view, hc]; rfl
        rw [if_neg (by rw [hvacant]; simp), ← hworld] at hfail
        exact matched_single hfail ⟨h.clients, rfl, by simp, h.network⟩
      · exact h.stays hworld rfl (by rw [hpc]; rfl) (by simp) rfl
    | some c =>
      simp only
      split_ifs at hworld ⊢ with hclosed hwritable
      · exact h.fails hworld (offersOnly_of_none hoffer k) (by rw [hc]; rfl) rfl rfl rfl
      · unfold takePartial
        cases hkept : c.partialFrame with
        | none =>
          refine h.stays hworld rfl ?_ ?_ rfl
          · simp only [State.goto_pc, afterFlush, hpc]
            split_ifs <;> rfl
          · intro j
            simp only [State.goto_pc, afterFlush]
            split_ifs <;> simp
        | some rest =>
          exact h.stays hworld (view_modify rfl fun _ => rfl) (by rw [hpc]; rfl) (by simp) rfl
      · refine h.stays hworld rfl ?_ ?_ rfl
        · simp only [State.goto_pc, afterFlush, hpc]
          split_ifs <;> rfl
        · intro j
          simp only [State.goto_pc, afterFlush]
          split_ifs <;> simp

lemma Shows.accept (h : Shows s r) (hpc : s.pc = .accept) (outcome : Option SetUp) :
    Matched m s (.accept outcome) (accept m s outcome) r := by
  have hvacant : r.clients s.streams.vacantKey = none := by
    rw [h.clients]
    exact congrArg (Option.map Conn.client) s.streams.get_vacantKey
  have hsame : s.pc.offer = none := by rw [hpc]; rfl
  match outcome with
  | none => exact h.stays rfl rfl (by rw [hsame]; rfl) (by simp [TurnserverTcp.accept]) rfl
  | some ⟨false, _⟩ =>
    exact h.stays (by simp [world]) rfl (by rw [hsame]; rfl) (by simp [TurnserverTcp.accept]) rfl
  | some ⟨true, registered⟩ =>
    unfold TurnserverTcp.accept
    simp only [not_true_eq_false, if_false]
    cases hrelayed : m.fromIndex (BitVec.ofNat 64 s.streams.vacantKey) with
    | none =>
      cases registered with
      | false => exact h.stays rfl rfl rfl (by simp [hpc]) rfl
      | true => exact matched_single (.full hvacant (.inl hrelayed)) h
    | some relayed =>
      simp only
      cases registered with
      | false => exact h.stays rfl rfl (by rw [hsame]; rfl) (by simp) rfl
      | true =>
        simp only [not_true_eq_false, if_false]
        split_ifs with hslots
        · exact matched_single (.full hvacant (.inr hslots))
            ⟨h.clients, h.offer.trans hsame, by simp, h.network⟩
        · refine matched_single (.join hvacant hrelayed) ⟨?_, h.offer, by simp [hpc], h.network⟩
          funext j
          show Function.update r.clients s.streams.vacantKey _ j =
            ((s.streams.insert _).get j).map Conn.client
          rw [Slab.get_insert, Function.update_apply, h.clients]
          split_ifs <;> rfl

lemma Shows.deregister (h : Shows s r) (hpc : s.pc = .deregister k) : Matched m s (.deregister true)
    ({ s with streams := s.streams.remove k }.goto .next) r := by
  refine matched_single (.leave (h.closing k hpc)) ⟨?_, ?_, by simp, h.network⟩
  · rw [view_remove (s := s) (k := k) rfl, ← h.clients]
    rfl
  · show r.offer = none
    rw [h.offer, hpc]
    rfl

lemma Shows.arrive (h : Shows s r) (k : ℕ) (bytes : Bytes) :
    Matched m s (.arrive k bytes) (s.onConn k (.arrive bytes)) r := by
  refine matched_single (.feed k bytes) ⟨?_, h.offer, h.closing, h.network⟩
  funext j
  show Function.update r.clients k _ j = ((s.streams.modify k _).get j).map Conn.client
  rw [Slab.get_modify, Function.update_apply, h.clients]
  split_ifs with hj
  · rw [State.view, Option.map_map, Option.map_map]
    rfl
  · rfl

lemma Shows.takes {rest : Bytes} {n : ℕ} (h : Shows s r) (hworld : world s i = some (.takes k n))
    (hoffer : s.pc.offer = none) (hc : s.streams.get k = some c)
    (hbalanced : c.stream.accepted ++ rest = c.started.flatten) (hn : n ≤ rest.length)
    (he : s'.streams = s.streams.modify k (.accept (rest.take n))) (hoffer' : s'.pc.offer = none)
    (hclosing : ∀ k, s'.pc ≠ .deregister k) (hsent : s'.sent = s.sent) : Matched m s i s' r := by
  have hstep := Relay.Step.take (m := m) (h.offer.trans hoffer) (h.client hc) hbalanced hn
  rw [← hworld] at hstep
  refine matched_single hstep ⟨?_, (h.offer.trans hoffer).trans hoffer'.symm,
    fun j hj => absurd hj (hclosing j), ?_⟩
  · rw [view_update hc he, ← h.clients]
    rfl
  · rw [hsent]
    exact h.network

lemma Shows.blocks (h : Shows s r) (hworld : world s i = some (.blocks k))
    (hoffers : r.OffersOnly k) (hview : s'.view = s.view) (hoffer' : s'.pc.offer = none)
    (hclosing : ∀ k, s'.pc ≠ .deregister k) (hsent : s'.sent = s.sent) : Matched m s i s' r := by
  have hstep := Relay.Step.block (m := m) hoffers
  rw [← hworld] at hstep
  refine matched_single hstep ⟨?_, hoffer'.symm, fun j hj => absurd hj (hclosing j), ?_⟩
  · rw [hview]
    exact h.clients
  · rw [hsent]
    exact h.network

lemma Shows.tunWrite {frame : Bytes} {outcome : IoResult ℕ} (h : Shows s r) (hs : Steady m s)
    (hpc : s.pc = .tunWrite k frame) (hstep : tunWrite s k frame outcome = some s') :
    Matched m s (.write outcome) s' r := by
  obtain ⟨-, c, hc, hkept⟩ := hs.inv.sending k frame hpc
  have hworld : world s (.write outcome) = some (writeOutcome k outcome) := by
    simp [world, hpc, Pc.writes]
  have hoffer : r.offer = some (k, frame) := by rw [h.offer, hpc]; rfl
  have hoffers : r.OffersOnly k := by
    intro j message hj
    rw [hoffer, Option.some.injEq, Prod.mk.injEq] at hj
    exact hj.1.symm
  unfold TurnserverTcp.tunWrite at hstep
  match outcome with
  | .error .wouldBlock =>
    cases hstep
    exact h.blocks hworld hoffers rfl rfl (by simp) rfl
  | .error .other =>
    cases hstep
    have hlive : (r.clients k).isSome := by rw [h.client hc]; rfl
    have hfail := Relay.Step.fail (m := m) hoffers
    rw [if_pos hlive] at hfail
    have hleave := (Path.single _ hfail).next none (.leave rfl)
    have hfails : world s (.write (.error .other)) = some (.fails k) := hworld
    rw [Option.toList_none, List.append_nil, ← hfails] at hleave
    refine ⟨_, hleave, ?_, rfl, by simp, h.network⟩
    rw [view_remove (s := s) (k := k) rfl, ← h.clients]
    rfl
  | .ok n =>
    simp only at hstep
    have hle : n ≤ frame.length := by
      by_contra hlong
      rw [if_pos (Nat.not_le.mp hlong)] at hstep
      cases hstep
    rw [if_neg (Nat.not_lt.mpr hle)] at hstep
    have hfree : ¬ c.client.Behind := by
      rw [hs.behind_iff (by rw [hpc]; trivial) hc, hkept]
      simp
    have hdeliver := Relay.Step.deliver (m := m) hoffer (h.client hc) hfree hle
    refine matched_single (by rw [hworld]; exact hdeliver) ⟨?_, ?_, ?_, ?_⟩
    · obtain ⟨rest, he⟩ : ∃ rest : Conn → Option (ℕ × Bytes),
        s'.streams = s.streams.modify k fun c =>
          ((c.start frame).accept (frame.take n)).keep (rest c) := by
        split_ifs at hstep <;> cases hstep
        · exact ⟨fun _ => some (0, frame.drop n), Slab.modify_modify ..⟩
        · exact ⟨Conn.partialFrame, rfl⟩
      rw [view_update hc he, ← h.clients]
      rfl
    · split_ifs at hstep <;> cases hstep <;> rfl
    · split_ifs at hstep <;> cases hstep <;> simp
    · split_ifs at hstep <;> cases hstep <;> exact h.network

omit [Crypto] in
lemma offer_afterFlush (k : ℕ) (readable : Bool) : (afterFlush k readable).offer = none := by
  cases readable <;> rfl

omit [Crypto] in
lemma afterFlush_ne_deregister (k : ℕ) (readable : Bool) (j : ℕ) :
    afterFlush k readable ≠ .deregister j := by
  cases readable <;> simp [afterFlush]

lemma Shows.flush {readable : Bool} {offset : ℕ} {buffer : Bytes} {outcome : IoResult ℕ}
    (h : Shows s r) (hs : Steady m s) (hpc : s.pc = .flush k readable offset buffer)
    (hstep : flush s k readable offset buffer outcome = some s') :
    Matched m s (.write outcome) s' r := by
  obtain ⟨c, hc⟩ :=
    Option.isSome_iff_exists.mp (Option.isSome_map.symm.trans (hs.inv.live k (by rw [hpc]; rfl)))
  have hworld : world s (.write outcome) = some (writeOutcome k outcome) := by
    simp [world, hpc, Pc.writes]
  have hoffer : s.pc.offer = none := by rw [hpc]; rfl
  have hoffers := offersOnly_of_none (h.offer.trans hoffer) k
  have hgood := hs.output k c hc
  rw [hpc] at hgood
  rw [TurnserverTcp.flush, if_neg (Nat.not_lt.mpr (hs.inv.within.flushing _ _ _ _ hpc))] at hstep
  cases outcome with
  | error e =>
    cases e with
    | wouldBlock =>
      cases hstep
      exact h.blocks hworld hoffers (view_modify rfl fun _ => rfl) (offer_afterFlush k readable)
        (afterFlush_ne_deregister k readable) rfl
    | other =>
      cases hstep
      exact h.fails hworld hoffers (by rw [hc]; rfl) rfl rfl rfl
  | ok n =>
    simp only at hstep
    split_ifs at hstep with hlong hall
    · cases hstep
      exact h.takes hworld hoffer hc hgood.flush_balanced.2 (Nat.le_of_not_lt hlong) rfl
        (offer_afterFlush k readable) (afterFlush_ne_deregister k readable) rfl
    · cases hstep
      exact h.takes hworld hoffer hc hgood.flush_balanced.2
        (Nat.le_of_not_lt hlong) rfl rfl (by simp) rfl

lemma Shows.respond {frame : Bytes} {offset : ℕ} {outcome : IoResult ℕ}
    (h : Shows s r) (hs : Steady m s) (hpc : s.pc = .respond k frame offset)
    (hstep : respond s k frame offset outcome = some s') :
    Matched m s (.write outcome) s' r := by
  obtain ⟨c, hc⟩ :=
    Option.isSome_iff_exists.mp (Option.isSome_map.symm.trans (hs.inv.live k (by rw [hpc]; rfl)))
  have hworld : world s (.write outcome) = some (writeOutcome k outcome) := by
    simp [world, hpc, Pc.writes]
  have hoffer : s.pc.offer = none := by rw [hpc]; rfl
  have hoffers := offersOnly_of_none (h.offer.trans hoffer) k
  have hgood := hs.output k c hc
  rw [hpc] at hgood
  rw [TurnserverTcp.respond, if_neg (Nat.not_lt.mpr (hs.inv.within.responding _ _ _ hpc))] at hstep
  cases outcome with
  | error e =>
    cases e with
    | wouldBlock =>
      cases hstep
      exact h.blocks hworld hoffers (view_modify rfl fun _ => rfl) hoffer (by simp [hpc]) rfl
    | other =>
      cases hstep
      exact h.fails hworld hoffers (by rw [hc]; rfl) rfl rfl rfl
  | ok n =>
    simp only at hstep
    split_ifs at hstep with hlong hall
    · cases hstep
      exact h.takes hworld hoffer hc hgood.respond_balanced
        (Nat.le_of_not_lt hlong) rfl rfl (by simp) rfl
    · cases hstep
      exact h.takes hworld hoffer hc hgood.respond_balanced
        (Nat.le_of_not_lt hlong) rfl rfl (by simp) rfl

omit [Crypto] in
lemma afterPeek_error (k size : ℕ) (buffer : Bytes) (e : Error) :
    afterPeek k size buffer (.error e) = .next ∨
      afterPeek k size buffer (.error e) = .deregister k ∧
      (e = .notStun ∨ ∃ expected, e = .tooShort expected ∧ size < expected) := by
  cases e with
  | notStun => exact .inr ⟨rfl, .inl rfl⟩
  | tooShort expected =>
    simp only [afterPeek]
    split_ifs with hbig
    · exact .inr ⟨rfl, .inr ⟨expected, rfl, hbig⟩⟩
    · exact .inl rfl

lemma Shows.peek {outcome : IoResult ℕ} (h : Shows s r) (hs : Steady m s) (hpc : s.pc = .peek k)
    (hc : s.streams.get k = some c) (hstep : peek s k c outcome = some s') :
    Matched m s (.peek outcome) s' r := by
  have hoffer : s.pc.offer = none := by rw [hpc]; rfl
  match outcome with
  | .error .wouldBlock =>
    cases hstep
    exact h.stays rfl rfl hoffer.symm (by simp) rfl
  | .error .other =>
    cases hstep
    exact h.fails (by simp [world, hpc, Pc.handles]) (offersOnly_of_none (h.offer.trans hoffer) k)
      (by rw [hc]; rfl) rfl rfl rfl
  | .ok n =>
    have hle : n ≤ c.stream.unread.length ∧ n ≤ s.buffer.length := by
      by_contra hlong
      rw [TurnserverTcp.peek, if_pos (by omega)] at hstep
      cases hstep
    rw [peek_ok hle.1 hle.2, Option.some.injEq] at hstep
    subst hstep
    cases hv : verdict (c.stream.unread.take n) with
    | ok u =>
      have hread : afterPeek k s.buffer.length (splice s.buffer 0 (c.stream.unread.take n))
          (.ok ()) = _ :=
        afterPeek_ok (by simp; omega) hv
      refine h.stays rfl rfl ?_ ?_ rfl
      · rw [State.goto_pc, hread, hoffer]
        rfl
      · intro j
        rw [State.goto_pc, hread]
        simp
    | error e =>
      obtain hnext | ⟨hclose, hbad⟩ := afterPeek_error k s.buffer.length
        (splice s.buffer 0 (c.stream.unread.take n)) e
      · refine h.stays rfl rfl ?_ ?_ rfl
        · rw [State.goto_pc, hnext, hoffer]
          rfl
        · intro j
          rw [State.goto_pc, hnext]
          simp
      · have hfed := hs.fed.going (by simp [hpc]) (by simp [hpc, Pc.Halted]) hc
        have hmalformed : Relay.Malformed (c.stream.unread.take n) := by
          rw [Relay.Malformed, hv]
          obtain rfl | ⟨size, rfl, hbig⟩ := hbad
          · exact .inl rfl
          · exact .inr ⟨size, rfl, hs.inv.buffer ▸ hbig⟩
        have hfollows : c.client.asked.flatten ++ c.stream.unread.take n <+: c.client.received := by
          show c.consumed.flatten ++ _ <+: c.stream.received
          rw [← hfed]
          exact (List.prefix_append_right_inj _).mpr (List.take_prefix _ _)
        refine matched_single (.refuse (h.client hc) hmalformed hfollows)
          ⟨h.clients, ?_, ?_, h.network⟩
        · rw [State.goto_pc, hclose]
          exact h.offer.trans hoffer
        · intro j hj
          rw [State.goto_pc, hclose] at hj
          rw [Pc.deregister.inj hj]

lemma Shows.handle {length : ℕ} (h : Shows s r) (hs : Steady m s) (hpc : s.pc = .read k length)
    (hc : s.streams.get k = some c) (hworld : world s i = none) :
    Matched m s i (handle
      ({ s with buffer := splice s.buffer 0 (c.stream.unread.take length) }.onConn k fun c' =>
      (c'.drain length).consume (c.stream.unread.take length)) k c) r := by
  have hupcoming := upcoming hs.inv hs.fed hpc hc
  have hnext : Relay.Next c.client (c.stream.unread.take length) :=
    ⟨hupcoming.whole, hupcoming.short, hupcoming.follows⟩
  have hbehind := hs.behind_iff (k := k) (by rw [hpc]; trivial) hc
  have hoffer : r.offer = none := by rw [h.offer, hpc]; rfl
  unfold TurnserverTcp.handle
  split_ifs with hkept
  · have hskip := Relay.Step.skip (m := m) (h.client hc) hnext (hbehind.mpr hkept)
    rw [← hworld] at hskip
    refine matched_single hskip ⟨?_, hoffer, by simp, h.network⟩
    refine Eq.trans ?_ (view_update hc rfl).symm
    rw [← h.clients]
    rfl
  · have hreceived := received_splice hs.inv.buffer hupcoming.short
    have hv := (isFrame_iff.mp hupcoming.whole).1
    obtain ⟨o, ho, hobserved⟩ := handleTurn_turned (.v6 c.relayed) c.relayed hreceived hv
    have hfree := mt hbehind.mp hkept
    simp only [State.onConn_buffer, ho]
    split_ifs with hreply
    · obtain ⟨f, items, tail, rfl, hbuilt, hturned⟩ := turned_reply _ _ hreceived hv ho hreply
      have hhandle := Relay.Step.handle (m := m) (h.client hc) hnext hfree hturned
      rw [← hworld] at hhandle
      simp only [frameOf_append hbuilt]
      refine matched_single hhandle ⟨?_, hoffer, by simp, ?_⟩
      · refine Eq.trans ?_ (view_update hc (Slab.modify_modify ..)).symm
        rw [← h.clients]
        rfl
      · show r.network ++ [] = s.sent ++ []
        rw [h.network]
    · have hsilent : o.observed = ⟨none, o.sent⟩ := by simp [Outcome.observed, hreply]
      have hhandle :=
        Relay.Step.handle (m := m) (h.client hc) hnext hfree (hobserved.symm.trans hsilent)
      rw [← hworld, Option.toList_none, List.append_nil] at hhandle
      refine matched_single hhandle ⟨?_, hoffer, by simp, ?_⟩
      · refine Eq.trans ?_ (view_update hc rfl).symm
        rw [← h.clients]
        rfl
      · show r.network ++ o.sent = s.sent ++ o.sent
        rw [h.network]

lemma Shows.read {length : ℕ} {outcome : IoResult ℕ} (h : Shows s r)
    (hs : Steady m s) (hpc : s.pc = .read k length) (hc : s.streams.get k = some c)
    (hstep : read s k length c outcome = some s') :
    Matched m s (.read outcome) s' r := by
  obtain ⟨c', hc', hlen, hsize, -⟩ := hs.inv.reading k length hpc
  obtain rfl := Option.some.inj (hc.symm.trans hc')
  have hoffer : s.pc.offer = none := by rw [hpc]; rfl
  unfold TurnserverTcp.read at hstep
  rw [if_neg (by rw [hs.inv.buffer]; omega)] at hstep
  match outcome with
  | .error e =>
    cases hstep
    exact h.stays rfl rfl hoffer.symm (by simp) rfl
  | .ok n =>
    simp only at hstep
    split_ifs at hstep with hlong hn
    · cases hstep
      have hworld : world s (.read (.ok n)) = some (.fails k) := by simp [world, hpc, hn]
      exact h.fails hworld (offersOnly_of_none (h.offer.trans hoffer) k) (by rw [hc]; rfl)
        (view_modify rfl fun _ => rfl) rfl rfl
    · obtain rfl : n = length := not_not.mp hn
      rw [← Option.some.inj hstep]
      exact h.handle hs hpc hc (by simp [world, hpc])

lemma Shows.recv {outcome : Option (Bytes × List.Vector UInt8 12)} (hroom : m.HostRoom)
    (h : Shows s r) (hs : Steady m s) (hpc : s.pc = .tun) (hi : ¬ Defect s (.recv outcome))
    (hstep : recv m s outcome = some s') :
    Matched m s (.recv outcome) s' r := by
  have hsame : s.pc.offer = none := by rw [hpc]; rfl
  have hoffer : r.offer = none := h.offer.trans hsame
  unfold TurnserverTcp.recv at hstep
  rcases outcome with _ | ⟨packet, random⟩
  · cases hstep
    exact h.stays rfl rfl hsame.symm (by simp) rfl
  simp only at hstep
  split_ifs at hstep with hlong
  have hle : packet.length ≤ 65536 := hs.inv.buffer ▸ Nat.le_of_not_lt hlong
  have hreceived := received_splice hs.inv.buffer hle
  obtain ⟨result, hresult, hshown⟩ := handleNet_netted random hreceived
  rw [hresult] at hstep
  -- The packet is lost where nobody has its address, or a client that is behind.
  have hlost : ∀ {s' : State}, s'.pc = .tun → s'.streams = s.streams → s'.sent = s.sent →
      (∀ receiver message, netted random packet = some (receiver, message) →
      ∀ k c, s.streams.get k = some c →
        c.relayed = receiver → c.partialFrame.isSome) →
          Matched m s (.recv (some (packet, random))) s' r := by
    intro s' hpc' hstreams hsent hkept
    refine matched_single (.drop fun receiver message hnetted k client hclient hrelayed => ?_)
      ⟨?_, ?_, ?_, ?_⟩
    · rw [h.clients] at hclient
      obtain ⟨c, hc, rfl⟩ := Option.map_eq_some_iff.mp hclient
      exact (hs.behind_iff (by rw [hpc]; trivial) hc).mpr
        (hkept receiver message hnetted k c hc hrelayed)
    · rw [h.clients]
      funext j
      rw [State.view, State.view, hstreams]
    · rw [hpc']
      exact hoffer
    · simp [hpc']
    · rw [hsent, h.network]
  cases result with
  | none =>
    cases hstep
    refine hlost hpc rfl rfl fun receiver message hnetted => ?_
    rw [← hshown] at hnetted
    cases hnetted
  | some result =>
    obtain ⟨receiver, msg⟩ := result
    obtain ⟨f, items, tail, rfl, hbuilt, hnetted⟩ := netted_message random hreceived hresult
    obtain rfl := Option.some.inj hstep
    have honly : ∀ {receiver' message}, netted random packet = some (receiver', message) →
        receiver' = receiver :=
      fun h' => (Prod.mk.inj (Option.some.inj (h'.symm.trans hnetted))).1
    have hslots := hs.inv.slots
    show Matched m s _ (route m { s with buffer := f ++ tail } receiver) r
    unfold route
    cases hindex : m.toIndex receiver with
    | none =>
      refine hlost hpc rfl rfl fun receiver' message hnetted' k c hc hrelayed => ?_
      have hround := hslots.lookup hroom hc
      rw [hrelayed, honly hnetted', hindex] at hround
      cases hround
    | some index =>
      have hslot : ∀ {k c}, s.streams.get k = some c → c.relayed = receiver → k = index.toNat := by
        intro k c hc hrelayed
        have hround := hslots.lookup hroom hc
        rw [hrelayed, hindex] at hround
        rw [Option.some.inj hround, hslots.ofNat_toNat hc]
      simp only
      cases hc : s.streams.get index.toNat with
      | none =>
        refine hlost hpc rfl rfl fun receiver' message hnetted' k c hc' hrelayed => ?_
        rw [hslot hc' (hrelayed.trans (honly hnetted')), hc] at hc'
        cases hc'
      | some c =>
        simp only
        split_ifs with hkept
        · refine hlost hpc rfl rfl fun receiver' message hnetted' k c' hc' hrelayed => ?_
          rw [hslot hc' (hrelayed.trans (honly hnetted')), hc] at hc'
          rwa [← Option.some.inj hc']
        · have hport : 0x8000 ≤ receiver.port := by
            by_contra hlow
            exact hi (.inr ⟨packet, random, receiver, f, rfl, hnetted, UInt16.not_le.mp hlow⟩)
          have hrelayed : c.relayed = receiver := by
            rw [hslots.relayed_of_toIndex hindex hc]
            exact (high_port_iff (handleNet_result hresult).2).mpr hport
          have hfree := mt (hs.behind_iff (k := index.toNat) (by rw [hpc]; trivial) hc).mp hkept
          simp only [frameOf_append hbuilt]
          refine matched_single (.offer hoffer ?_ (h.client hc) hfree)
            ⟨h.clients, rfl, by simp, h.network⟩
          rw [hnetted, ← hrelayed]
          rfl

end Steps

lemma Shows.step (hroom : m.HostRoom) (h : Shows s r) (hs : Steady m s) (hi : ¬ Defect s i)
    (hstep : step m s i = some s') : Matched m s i s' r := by
  unfold TurnserverTcp.step at hstep
  match i with
  | .poll none =>
    simp only at hstep
    split_ifs at hstep with hpc
    cases hstep
    exact h.stays rfl rfl (by rw [hpc]; rfl) (by simp) rfl
  | .poll (some events) =>
    simp only at hstep
    split_ifs at hstep with hpc
    cases hstep
    exact h.stays rfl rfl (by rw [hpc.1]; rfl) (by simp) rfl
  | .tick =>
    simp only at hstep
    split at hstep
    next hpc hevents =>
      cases hstep
      exact h.stays (by simp [world, hevents]) rfl (by rw [hpc]; rfl) (by simp) rfl
    next e es hpc hevents =>
      cases hstep
      exact h.dispatch hpc hevents
    next => cases hstep
  | .accept outcome =>
    simp only at hstep
    split_ifs at hstep with hpc
    cases hstep
    exact h.accept hpc outcome
  | .recv outcome =>
    simp only at hstep
    split_ifs at hstep with hpc
    exact h.recv hroom hs hpc hi hstep
  | .write outcome =>
    simp only at hstep
    split at hstep
    next k frame hpc => exact h.tunWrite hs hpc hstep
    next k readable offset buffer hpc => exact h.flush hs hpc hstep
    next k frame offset hpc => exact h.respond hs hpc hstep
    next => cases hstep
  | .peek outcome =>
    simp only at hstep
    split at hstep
    next k hpc =>
      obtain ⟨c, hc, hstep⟩ := Option.bind_eq_some_iff.mp hstep
      exact h.peek hs hpc hc hstep
    next => cases hstep
  | .read outcome =>
    simp only at hstep
    split at hstep
    next k length hpc =>
      obtain ⟨c, hc, hstep⟩ := Option.bind_eq_some_iff.mp hstep
      exact h.read hs hpc hc hstep
    next => cases hstep
  | .deregister ok =>
    simp only at hstep
    split at hstep
    next hpc =>
      cases hstep
      cases ok <;> exact h.stays rfl rfl (by rw [hpc]; rfl) (by simp) rfl
    next k hpc =>
      split_ifs at hstep with hok
      · cases hstep
        rw [hok]
        exact h.deregister hpc
      · cases hstep
        exact h.stays rfl rfl (by rw [hpc]; rfl) (by simp) rfl
    next => cases hstep
  | .arrive k bytes =>
    cases hstep
    exact h.arrive k bytes

lemma simulates (hroom : m.HostRoom) : Simulates (step m) world (fun s i => ¬ Defect s i)
    (Relay.Step m) fun s r => Steady m s ∧ Shows s r := by
  rintro s i s' r ⟨hs, h⟩ hi hstep
  obtain ⟨r', hpath, hshows⟩ := h.step hroom hs hi hstep
  exact ⟨r', hpath, hs.step (not_not.mp (not_or.mp hi).1) hstep, hshows⟩

theorem refines_relay (hroom : m.HostRoom) {is : List Input} {t : State}
    (h : run (step m) initial is = some t) (hfine : ¬ Occurs (step m) Defect initial is) :
    ∃ r, Path (Relay.Step m) .empty (observed (step m) world initial is) r ∧
      r.clients = (fun k => (t.streams.get k).map Conn.client) ∧ r.network = t.sent := by
  have hstart : Shows initial .empty := by
    refine ⟨rfl, rfl, fun k hk => ?_, rfl⟩
    cases hk
  have hallowed : ¬ Occurs (step m) (fun s i => ¬ ¬ Defect s i) initial is := by
    simpa only [not_not] using hfine
  obtain ⟨r, hpath, -, hshows⟩ := (simulates hroom).run ⟨steady_initial, hstart⟩ hallowed h
  exact ⟨r, hpath, hshows.clients, hshows.network⟩

end Simulation

theorem refines_relay_binding :
    letI : Crypto := .recorded [] [] []
    ∃ is t c r response, run (step defaultMapping) initial is = some t ∧ t.streams.get 0 = some c ∧
      Path (Relay.Step defaultMapping) .empty (observed (step defaultMapping) world initial is) r ∧
      r.clients 0 = some c.client ∧ c.client.told = [response] ∧ c.client.taken = response ∧
      IsFrame response := by
  let _ : Crypto := .recorded [] [] []
  have hok : ∀ s i, s.pc.responding = none → i.packet = none → ¬ Defect s i := by
    rintro s i hnone hpacket (hretry | ⟨packet, random, _, _, rfl, -⟩)
    · apply hretry
      intro k hk
      rw [hnone] at hk
      cases hk
    · cases hpacket
  obtain ⟨s, c, frame, hs, hpc, hget, hkept, haccepted, hstarted, hframe⟩ :=
    run_response hok firstRelayed_eq
  have hlen := hframe.length_pos
  have hwrite : respond s 0 frame 0 (.ok frame.length) =
      some ((s.onConn 0 (.accept frame)).goto (.peek 0)) := by
    simp [respond]
  have hfine : ¬ Defect s (.write (.ok frame.length)) := by
    rintro (hretry | ⟨_, _, _, _, hi, -⟩)
    · apply hretry
      intro k hk c' hc' hsome
      rw [hpc] at hk
      cases hk
      cases hget.symm.trans hc'
      rw [hkept] at hsome
      cases hsome
    · cases hi
  obtain ⟨is, his, hallowed⟩ := run_of_reaches (hs.next _ hfine ((step_respond hpc _).trans hwrite))
  have hget' := Slab.get_modify_of_get (.accept frame) hget
  obtain ⟨r, hpath, hclients, -⟩ :=
    refines_relay (by decide) his (by simpa only [not_not] using hallowed)
  refine ⟨is, _, _, r, frame, his, hget', hpath, ?_, hstarted, ?_, hframe⟩
  · rw [hclients]
    exact congrArg (Option.map Conn.client) hget'
  · show c.stream.accepted ++ frame = frame
    rw [haccepted, List.nil_append]

end Masquerade.TurnserverTcp
