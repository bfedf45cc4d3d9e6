import Masquerade.DtlsProxy.Sources

/-! What a datagram that anyone may have sent does to a session. -/

namespace Masquerade.DtlsProxy

open Lib Wire

variable {E : Engine} {cfg : Config} {s s' s₁ : State E} {i : Input} {d : Datagram}
  {k : SocketAddrV6} {stream : SslStream E} {old : SocketAddrV6 → Bool}

section Frame

def Pc.target : Pc E → Option SocketAddrV6
  | .call dst _ _ _ | .pull dst _ => some dst
  | _ => none

lemma Pc.Idle.target {pc : Pc E} (h : pc.Idle) : pc.target = none := by
  cases pc with
  | recv => rfl
  | exited => rfl
  | panicked => rfl
  | call => exact h.elim
  | pull => exact h.elim

lemma Step.frame (h : Step cfg s i s') (hk : s.streams.lookup k = some stream)
    (htarget : s.pc.target ≠ some k) (hreceives : ∀ d, s.receives i = some d → d.dst ≠ k)
    (hold : ∀ old, i = .tick old → old k = false) :
    s'.streams.lookup k = some stream ∧ s'.pc.target ≠ some k := by
  have hdst : ∀ {dst : SocketAddrV6}, s.pc.target = some dst → dst ≠ k := by
    rintro dst hdst rfl
    exact htarget hdst
  have hsome : ∀ {dst : SocketAddrV6}, dst ≠ k → some dst ≠ some k :=
    fun hne heq => hne (Option.some.inj heq)
  have hinsert : ∀ {dst : SocketAddrV6} {stream' : SslStream E}, dst ≠ k →
      (s.streams.insert dst stream').lookup k = some stream := by
    intro dst stream' hne
    rw [AList.lookup_insert_ne hne.symm, hk]
  cases h with
  | dropped _ hs hpc' => exact ⟨hs ▸ hk, by simp [hpc', Pc.target]⟩
  | refused _ _ _ _ hs hpc' => exact ⟨hs ▸ hk, by simp [hpc', Pc.target]⟩
  | broken _ _ _ _ _ _ hs hpc' => exact ⟨hs ▸ hk, by simp [hpc', Pc.target]⟩
  | created d _ _ _ hd _ _ _ hs hpc' =>
    rw [hs, hpc']
    exact ⟨hinsert (hreceives d hd), hsome (hreceives d hd)⟩
  | asked d _ _ _ hd _ _ _ hs hpc' =>
    rw [hs, hpc']
    exact ⟨hk, hsome (hreceives d hd)⟩
  | media d _ _ _ hd _ _ hs hidle =>
    rw [hs, hidle.target]
    exact ⟨hinsert (hreceives d hd), by simp⟩
  | read _ _ _ _ _ _ _ hpc _ _ _ hs hpc' =>
    rw [hs, hpc']
    exact ⟨hk, hsome (hdst (by rw [hpc]; rfl))⟩
  | wrote _ _ _ _ _ _ _ _ hpc _ _ _ hs hpc' =>
    rw [hs, hpc']
    exact ⟨hk, hsome (hdst (by rw [hpc]; rfl))⟩
  | returned _ _ _ _ _ _ _ _ hpc _ _ hs hpc' =>
    rw [hs, hpc']
    have hne := hdst (by rw [hpc]; rfl)
    exact ⟨hinsert hne, hsome hne⟩
  | removed _ _ _ _ _ _ _ hpc _ _ _ hkept hpc' =>
    rw [hpc']
    have hne := hdst (by rw [hpc]; rfl)
    exact ⟨(hkept k stream).mpr ⟨hne.symm, hk⟩, by simp [Pc.target]⟩
  | pulled _ _ _ _ _ hpc _ _ _ hs hpc' =>
    rw [hs, hpc']
    have hne := hdst (by rw [hpc]; rfl)
    exact ⟨hinsert hne, hsome hne⟩
  | pullFailed _ _ _ _ _ old hpc hi _ _ _ hs =>
    rw [hs, cleanup_pc, lookup_cleanup (hold old hi)]
    exact ⟨hinsert (hdst (by rw [hpc]; rfl)), by simp [Pc.target]⟩
  | done _ _ _ old _ hi _ _ hs =>
    rw [hs, cleanup_pc, lookup_cleanup (hold old hi)]
    exact ⟨hk, by simp [Pc.target]⟩

end Frame

def Working (k : SocketAddrV6) (_ : State E) (i : Input) : Prop :=
  ∃ old, i = .tick old ∧ old k = false

lemma frame_working {t : State E} (h : Reaches (step cfg) (Working k) s t)
    (hk : s.streams.lookup k = some stream) (htarget : s.pc.target ≠ some k) :
    t.streams.lookup k = some stream := by
  suffices t.streams.lookup k = some stream ∧ t.pc.target ≠ some k from this.1
  refine h.invariant (P := fun t => t.streams.lookup k = some stream ∧ t.pc.target ≠ some k)
    ⟨hk, htarget⟩ ?_
  rintro t i t' ⟨hk, htarget⟩ ⟨old, rfl, hold⟩ hstep
  apply (step_cases hstep).frame hk htarget (fun d hd => by cases hd)
  rintro old' hold'
  cases hold'
  exact hold

variable {validRecord : E.Ssl → Bytes → Prop} {validPacket : E.Inbound → Bytes → Prop}
  {left : E.Ssl → Leftover} {answers : E.Ssl → Prop}

section Call

variable {reads : List Bytes} {c : E.Call} {P : Action E.Ssl → Prop}

lemma Calling.arrives {r : Request} (cfg : Config) (hc : Comes E P c)
    (h : Calling s d stream r reads c) :
    ∃ t c', Reaches (step cfg) (Working k) s t ∧ Calling t d stream r reads c' ∧ P (E.next c') := by
  induction hc generalizing s with
  | here hP => exact ⟨s, _, .refl, h, hP⟩
  | wrote buf hnext hfits _ ih =>
    obtain ⟨s₁, result, h₁, hcall, -⟩ := h.write cfg (fun _ => false) (.inr hfits) hnext
    obtain ⟨t, c', ht, hcall, hP⟩ := ih result hcall
    exact ⟨t, c', (Reaches.refl.next _ ⟨_, rfl, rfl⟩ h₁).append ht, hcall, hP⟩

def Sound (stream : SslStream E) (d : Datagram) : Action E.Ssl → Prop
  | .ret ssl result => Waiting result ∧ (E.pending ssl = 0 ∨ d.src = stream.bio.sendTo)
  | _ => False

lemma Sound.of_waits (stream : SslStream E) (d : Datagram) {a : Action E.Ssl} (h : E.Waits a) :
    Sound stream d a := by
  match a, h with
  | .ret ssl (.error .wantRead), hpending => exact ⟨by simp [Waiting], .inl hpending⟩

lemma Sound.of_finds (hsrc : d.src = stream.bio.sendTo) {a : Action E.Ssl} (h : E.Finds a) :
    Sound stream d a := by
  match a, h with
  | .ret ssl (.ok ()), _ => exact ⟨by simp [Waiting], .inr hsrc⟩

inductive Harmless (validRecord : E.Ssl → Bytes → Prop) (left : E.Ssl → Leftover)
    (stream : SslStream E) (d : Datagram) (t : State E) : Prop
  | trying (reads : List Bytes) (c : E.Call) (h : Calling t d stream .sslPeek reads c)
      (hleft : left stream.ssl = .nothing) (hfruitless : Fruitless E validRecord stream.ssl c)
      (hpacket : t.packet.unread = none ∨ d.payload ≠ [] ∨ ∃ buf, E.next c = .write buf)
  | ending (reads : List Bytes) (c : E.Call) (h : Calling t d stream .sslPeek reads c)
      (hsound : Comes E (Sound stream d) c)
  | pulling (stream' : SslStream E) (hpc : t.pc = .pull d.dst d.src) (hstream :
      t.streams.lookup d.dst = some stream') (hto : stream'.bio.sendTo = stream.bio.sendTo)
      (hpending : E.pending stream'.ssl = 0 ∨ d.src = stream.bio.sendTo)
  | ended (stream' : SslStream E) (hpc : t.pc = .recv)
      (hstream : t.streams.lookup d.dst = some stream')
      (hto : stream'.bio.sendTo = stream.bio.sendTo)

lemma Harmless.step_trying (hD : E.Discards validRecord left answers)
    (hssl : E.Rests stream.ssl) (hleft : left stream.ssl = .nothing)
    (hrecord : ¬ validRecord stream.ssl d.payload) (hfits : d.payload.length ≤ 4096)
    (h : Calling s d stream .sslPeek reads c) (hfruitless : Fruitless E validRecord stream.ssl c)
    (hpacket : s.packet.unread = none ∨ d.payload ≠ [] ∨ ∃ buf, E.next c = .write buf)
    (hstep : DtlsProxy.step cfg s (.tick old) = some s') :
    Harmless validRecord left stream d s' := by
  cases hD.reads stream.ssl c hssl hleft hfruitless with
  | here hasks =>
    cases hnext : E.next c with
    | write buf => simp [hnext, Engine.Asks] at hasks
    | ret ssl result => simp [hnext, Engine.Asks] at hasks
    | read size =>
      rw [hnext] at hasks
      obtain hholds | hburned := h.packet
      · have hpayload : d.payload ≠ [] := by
          obtain hnone | hpayload | ⟨buf, hwrite⟩ := hpacket
          · rw [hholds.unread] at hnone
            cases hnone
          · exact hpayload
          · rw [hnext] at hwrite
            cases hwrite
        obtain ⟨t, ht, hcall, hburned⟩ := h.read_first cfg old hholds hnext (hfits.trans hasks)
        cases ht.symm.trans hstep
        exact .trying _ _ hcall hleft (hfruitless.read size _ hnext hpayload hrecord) (.inl hburned)
      · obtain ⟨t, ht, hcall, -⟩ := h.read_again cfg old hburned.1 hnext
        cases ht.symm.trans hstep
        have hwaits := hD.blocked stream.ssl c size hssl hleft hfruitless hnext
        exact .ending _ _ hcall (hwaits.mono fun _ => Sound.of_waits stream d)
  | wrote buf hnext hshort _ =>
    obtain ⟨t, result, ht, hcall, hburned⟩ := h.write cfg old (.inr hshort) hnext
    cases ht.symm.trans hstep
    exact .trying _ _ hcall hleft (hfruitless.wrote buf result hnext) (.inl hburned)

lemma Harmless.step_ending (h : Calling s d stream .sslPeek reads c)
    (hsound : Comes E (Sound stream d) c) (hstep : DtlsProxy.step cfg s (.tick old) = some s') :
    Harmless validRecord left stream d s' := by
  cases hsound with
  | here hret =>
    cases hnext : E.next c with
    | read size => simp [hnext, Sound] at hret
    | write buf => simp [hnext, Sound] at hret
    | ret ssl result =>
      rw [hnext] at hret
      have hreturned := h.ret cfg old hnext
      rw [returned_waiting hret.1] at hreturned
      cases hreturned.symm.trans hstep
      exact .pulling _ rfl (AList.lookup_insert s.streams) rfl hret.2
  | wrote buf hnext hshort hafter =>
    obtain ⟨t, result, ht, hcall, -⟩ := h.write cfg old (.inr hshort) hnext
    cases ht.symm.trans hstep
    exact .ending _ _ hcall (hafter result)

lemma Harmless.step_pulling {stream' : SslStream E} (hE : E.Drains) (hpc : s.pc = .pull d.dst d.src)
    (hstream : s.streams.lookup d.dst = some stream') (hto : stream'.bio.sendTo = stream.bio.sendTo)
    (hpending : E.pending stream'.ssl = 0 ∨ d.src = stream.bio.sendTo)
    (hold : old d.dst = false) (hstep : DtlsProxy.step cfg s (.tick old) = some s') :
    Harmless validRecord left stream d s' := by
  obtain hzero | hpos := Nat.eq_zero_or_pos (E.pending stream'.ssl)
  · cases (pull_done cfg old hpc hstream hzero).symm.trans hstep
    exact .ended stream' (cleanup_pc old) (by rw [lookup_cleanup hold, hstream]) hto
  · have hsrc := hpending.resolve_left hpos.ne'
    obtain ⟨ssl, buf, hread⟩ := hE.reads stream'.ssl hpos
    obtain ⟨t, ht, hpc', hstream'⟩ := pull_reads cfg old hpc hstream hpos hread
    cases ht.symm.trans hstep
    exact .pulling _ hpc' hstream' hsrc (.inr hsrc)

end Call

lemma Harmless.step (hE : E.Drains) (hD : E.Discards validRecord left answers)
    (hssl : E.Rests stream.ssl) (hrecord : ¬ validRecord stream.ssl d.payload)
    (hfits : d.payload.length ≤ 4096) (h : Harmless validRecord left stream d s)
    (hold : old d.dst = false) (hstep : DtlsProxy.step cfg s (.tick old) = some s') :
    Harmless validRecord left stream d s' := by
  cases h with
  | trying reads c hcall hleft hfruitless hpacket =>
    exact step_trying hD hssl hleft hrecord hfits hcall hfruitless hpacket hstep
  | ending reads c hcall hsound => exact step_ending hcall hsound hstep
  | pulling stream' hpc hstream hto hpending =>
    exact step_pulling hE hpc hstream hto hpending hold hstep
  | ended stream' hpc hstream hto => simp [DtlsProxy.step, hpc] at hstep

structure Survives (k : SocketAddrV6) (stream : SslStream E) (d : Datagram)
    (t : State E) : Prop where
  kept : ∃ stream', t.streams.lookup k = some stream' ∧ stream'.bio.sendTo = stream.bio.sendTo
  running : d.dst = k → t.pc ≠ .exited ∧ t.pc ≠ .panicked

lemma Harmless.survives (h : Harmless validRecord left stream d s) : Survives d.dst stream d s := by
  cases h with
  | trying reads c hcall => exact ⟨⟨stream, hcall.lookup, rfl⟩, fun _ => by simp [hcall.pc]⟩
  | ending reads c hcall => exact ⟨⟨stream, hcall.lookup, rfl⟩, fun _ => by simp [hcall.pc]⟩
  | pulling stream' hpc hstream hto => exact ⟨⟨stream', hstream, hto⟩, fun _ => by simp [hpc]⟩
  | ended stream' hpc hstream hto => exact ⟨⟨stream', hstream, hto⟩, fun _ => by simp [hpc]⟩

/-- The datagrams that a session survives: media, and what a peek passes over, unless the peek comes
upon the end of the stream, an empty payload, or upon a record of an earlier datagram. -/
def Spared (left : E.Ssl → Leftover) (answers : E.Ssl → Prop) (stream : SslStream E)
    (d : Datagram) : Prop :=
  mediaByte d.payload ≠ none ∨
    match left stream.ssl with
    | .nothing => d.payload ≠ [] ∨ answers stream.ssl
    | .data => d.src = stream.bio.sendTo
    | .closing => False

variable {allowed : State E → Input → Prop}

lemma stranger_fate (hfinished : E.isInitFinished stream.ssl)
    (hsrc : d.src ≠ cfg.endpoint ∧ d.src ≠ cfg.rtpEndpoint) :
    fate cfg stream d = .drop ∨
      (∃ rtcp incoming outgoing, stream.bio.sessions = some (incoming, outgoing) ∧
      fate cfg stream d = .unprotect rtcp incoming outgoing) ∨
    mediaByte d.payload = none ∧ fate cfg stream d = .request .sslPeek := by
  cases hmedia : mediaByte d.payload with
  | none => exact .inr (.inr ⟨rfl, by rw [fate_plain hfinished hmedia, if_neg hsrc.1]⟩)
  | some second =>
    obtain ⟨-, hfate⟩ | ⟨incoming, outgoing, hsessions, hfate⟩ := fate_media cfg hfinished hmedia
    · exact .inl hfate
    · exact .inr (.inl ⟨_, incoming, outgoing, hsessions, by rw [hfate, if_neg hsrc.2]⟩)

lemma Spared.harmless (hD : E.Discards validRecord left answers) (hssl : E.Rests stream.ssl)
    (hspared : Spared left answers stream d) (hmedia : mediaByte d.payload = none)
    (hcall : Calling s d stream .sslPeek [] (E.start .sslPeek stream.ssl)) :
    Harmless validRecord left stream d s := by
  have hspared := hspared.resolve_left fun h => h hmedia
  cases hleft : left stream.ssl with
  | nothing =>
    simp only [hleft] at hspared
    refine .trying [] _ hcall hleft .start (.inr ?_)
    obtain hpayload | hanswers := hspared
    · exact .inl hpayload
    · exact .inr ((hD.answers stream.ssl hssl hleft).mp hanswers)
  | data =>
    simp only [hleft] at hspared
    exact .ending [] _ hcall ((hD.data stream.ssl hssl hleft).mono fun _ => Sound.of_finds hspared)
  | closing =>
    simp only [hleft] at hspared

lemma harmless_arrival (hD : E.Discards validRecord left answers)
    (hR : E.Refuses validPacket) (hrun : Reaches (step cfg) allowed (initial E) s)
    (hstream : s.streams.lookup d.dst = some stream) (hssl : E.Rests stream.ssl)
    (hd : s.receives i = some d) (hsrc : d.src ≠ cfg.endpoint ∧ d.src ≠ cfg.rtpEndpoint)
    (hpacket : ∀ incoming outgoing, stream.bio.sessions = some (incoming, outgoing) →
    ¬ validPacket incoming d.payload) (hspared : Spared left answers stream d)
    (hrecv : s.pc = .recv) (hstep : Step cfg s i s₁) :
    Harmless validRecord left stream d s₁ := by
  have hd' : ∀ {d'}, s.receives i = some d' → d' = d := fun h => Option.some.inj (h.symm.trans hd)
  cases hstep with
  | dropped _ hs hpc' => exact .ended stream hpc' (hs ▸ hstream) rfl
  | refused d' _ hd₂ hvacant =>
    rw [hd' hd₂, hstream] at hvacant
    cases hvacant
  | created d' _ _ _ hd₂ hvacant =>
    rw [hd' hd₂, hstream] at hvacant
    cases hvacant
  | asked d' stream' r _ hd₂ hstream' hfate hholds hs hpc' =>
    obtain rfl := hd' hd₂
    obtain rfl := Option.some.inj (hstream'.symm.trans hstream)
    obtain h | ⟨_, _, _, _, h⟩ | ⟨hmedia, h⟩ := stranger_fate hssl.1 hsrc
    · cases h.symm.trans hfate
    · cases h.symm.trans hfate
    · cases h.symm.trans hfate
      apply hspared.harmless hD hssl hmedia
      exact ⟨hpc', hs ▸ hstream, keyed hrun _ _ hstream, .start, by simp, .inl hholds⟩
  | media d' stream' sessions _ hd₂ hstream' hfate hs hidle hrefused =>
    obtain rfl := hd' hd₂
    obtain rfl := Option.some.inj (hstream'.symm.trans hstream)
    obtain ⟨rtcp, incoming, outgoing, hfate⟩ := hfate
    obtain h | ⟨rtcp', incoming', outgoing', hsessions, h⟩ | ⟨-, h⟩ := stranger_fate hssl.1 hsrc
    · obtain hfate | hfate := hfate <;> cases h.symm.trans hfate
    · have hend := hrefused rtcp' incoming' outgoing' h fun cursor hcursor =>
        hR rtcp' incoming' cursor (hcursor ▸ hpacket incoming' outgoing' hsessions)
      refine .ended ⟨stream'.ssl, { stream'.bio with sessions := some sessions }⟩ hend ?_ rfl
      rw [hs, AList.lookup_insert]
    · obtain hfate | hfate := hfate <;> cases h.symm.trans hfate
  | broken _ _ _ _ hcall => cases hcall.symm.trans hrecv
  | read _ _ _ _ _ _ _ hcall => cases hcall.symm.trans hrecv
  | wrote _ _ _ _ _ _ _ _ hcall => cases hcall.symm.trans hrecv
  | returned _ _ _ _ _ _ _ _ hcall => cases hcall.symm.trans hrecv
  | removed _ _ _ _ _ _ _ hcall => cases hcall.symm.trans hrecv
  | pulled _ _ _ _ _ hpull => cases hpull.symm.trans hrecv
  | pullFailed _ _ _ _ _ _ hpull => cases hpull.symm.trans hrecv
  | done _ _ _ _ hpull => cases hpull.symm.trans hrecv

section Harm

variable {reads : List Bytes} {c : E.Call} {outcome : Option Bytes} {created : Bool}

variable (cfg) in
lemma Calling.closes (h : Calling s d stream .sslPeek reads c) (hends : Comes E E.Ends c) :
    ∃ t, Reaches (step cfg) (Working d.dst) s t ∧ t.streams.lookup d.dst = none := by
  obtain ⟨s₁, c', h₁, hcall, hend⟩ := h.arrives (k := d.dst) cfg hends
  cases hnext : E.next c' with
  | read size => simp [hnext, Engine.Ends] at hend
  | write buf => simp [hnext, Engine.Ends] at hend
  | ret ssl result =>
    rw [hnext] at hend
    cases result with
    | ok _ => exact hend.elim
    | error code =>
      refine ⟨_, h₁.next _ ⟨_, rfl, rfl⟩ (hcall.ret cfg (fun _ => false) hnext), ?_⟩
      unfold returned
      simp only [if_neg (not_or.mpr hend), AList.lookup_erase]

variable (cfg) in
lemma Calling.finds (hE : E.Drains) (h : Calling s d stream .sslPeek reads c)
    (hfinds : Comes E E.Finds c) :
    ∃ t stream', Reaches (step cfg) (Working d.dst) s t ∧ t.streams.lookup d.dst = some stream' ∧
      stream'.bio.sendTo = d.src := by
  obtain ⟨s₁, c', h₁, hcall, hfind⟩ := h.arrives (k := d.dst) cfg hfinds
  cases hnext : E.next c' with
  | read size => simp [hnext, Engine.Finds] at hfind
  | write buf => simp [hnext, Engine.Finds] at hfind
  | ret ssl result =>
    rw [hnext] at hfind
    cases result with
    | error code => exact hfind.elim
    | ok _ =>
      have hreturned := hcall.ret cfg (fun _ => false) hnext
      rw [returned_waiting (by simp [Waiting])] at hreturned
      obtain ⟨s₂, bio, h₂, hpc, hstream⟩ : ∃ s₂ bio, step cfg s₁ (.tick fun _ => false) = some s₂ ∧
          s₂.pc = .pull d.dst d.src ∧ s₂.streams.lookup d.dst = some ⟨ssl, bio⟩ :=
        ⟨_, _, hreturned, rfl, AList.lookup_insert s₁.streams⟩
      obtain ⟨ssl', buf, hread⟩ := hE.reads ssl hfind
      obtain ⟨t, ht, -, hstream⟩ := pull_reads cfg (fun _ => false) hpc hstream hfind hread
      exact ⟨t, _, (h₁.next _ ⟨_, rfl, rfl⟩ h₂).next _ ⟨_, rfl, rfl⟩ ht, hstream, rfl⟩

variable (cfg) in
lemma empty_closes (hD : E.Discards validRecord left answers) (hssl : E.Rests stream.ssl)
    (hleft : left stream.ssl = .nothing) (hanswers : ¬ answers stream.ssl)
    (hempty : d.payload = []) (hcall : Calling s d stream .sslPeek [] (E.start .sslPeek stream.ssl))
    (hholds : s.packet.Holds d) :
    ∃ t, Reaches (step cfg) (Working d.dst) s t ∧ t.streams.lookup d.dst = none := by
  cases hD.reads stream.ssl _ hssl hleft .start with
  | here hasks =>
    cases hnext : E.next (E.start .sslPeek stream.ssl) with
    | write buf => simp [hnext, Engine.Asks] at hasks
    | ret ssl result => simp [hnext, Engine.Asks] at hasks
    | read size =>
      obtain ⟨s₁, h₁, hcall, -⟩ :=
        hcall.read_first cfg (fun _ => false) hholds hnext (by simp [hempty])
      rw [hempty] at hcall
      obtain ⟨t, ht, hnone⟩ :=
        hcall.closes cfg (hD.closed stream.ssl _ size hssl hleft .start hnext)
      exact ⟨t, (Reaches.refl.next _ ⟨_, rfl, rfl⟩ h₁).append ht, hnone⟩
  | wrote buf hnext _ _ =>
    exact absurd ((hD.answers stream.ssl hssl hleft).mpr ⟨buf, hnext⟩) hanswers

lemma Spared.of_survives (hE : E.Drains) (hD : E.Discards validRecord left answers)
    (hssl : E.Rests stream.ssl) (hrun : Reaches (step cfg) allowed (initial E) s)
    (hstream : s.streams.lookup d.dst = some stream)
    (hd : s.receives (.recv outcome created) = some d) (hsrc : d.src ≠ cfg.endpoint)
    (hrecv : s.pc = .recv) (hstep : step cfg s (.recv outcome created) = some s₁)
    (hsurvives : ∀ t, Reaches (step cfg) (Working d.dst) s₁ t → Survives d.dst stream d t) :
    Spared left answers stream d := by
  apply or_iff_not_imp_left.mpr
  intro hmedia
  have hfate : fate cfg stream d = .request .sslPeek := by
    rw [fate_plain hssl.1 (not_not.mp hmedia), if_neg hsrc]
  obtain ⟨s', hs', hcall, hholds⟩ :=
    arrives_known cfg hd hrecv hstream (keyed hrun _ _ hstream) hfate
  cases hs'.symm.trans hstep
  have hopen : ¬ ∃ t, Reaches (step cfg) (Working d.dst) s₁ t ∧ t.streams.lookup d.dst = none := by
    rintro ⟨t, ht, hnone⟩
    obtain ⟨stream', hstream', -⟩ := (hsurvives t ht).kept
    rw [hnone] at hstream'
    cases hstream'
  cases hleft : left stream.ssl with
  | nothing =>
    apply or_iff_not_imp_left.mpr
    intro hempty
    by_contra hanswers
    exact hopen (empty_closes cfg hD hssl hleft hanswers (not_not.mp hempty) hcall hholds)
  | data =>
    obtain ⟨t, stream', ht, hstream', hto⟩ := hcall.finds cfg hE (hD.data stream.ssl hssl hleft)
    obtain ⟨stream'', hstream'', hkept⟩ := (hsurvives t ht).kept
    cases hstream'.symm.trans hstream''
    exact hto.symm.trans hkept
  | closing => exact hopen (hcall.closes cfg (hD.closing stream.ssl hssl hleft))

end Harm

end Masquerade.DtlsProxy
