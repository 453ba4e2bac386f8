import DHCPv6Client.Ledger
import DHCPv6Client.Binding

/-!
# The client adds only the address a REPLY leased

`DHCPv6Client_Bound` is the one place the client calls `inet6_aifaddr`, with the address of
the saved `ia_addr` (`boundCommit`). Every address a step adds to the interface is the
address of the IAADDR of a REPLY the client holds when the step ends, in Bound, or in
Decline when the interface already reports the address duplicated: never one a server only
advertised, though Solicit saves the ADVERTISE it goes on to request, and Confirm binds on a
packet saved before (`reachable_adds_leased`).

* `Core.FromReply`: a valid lease comes from a saved REPLY. Only Bound's entry makes a lease
  valid, on a REPLY just saved in Request, Renew and Rebind, or on the lease already held
  in Confirm (`Reachable.fromReply`).
* `AddsLeased s s'`: each `inet6_aifaddr` from `s` to `s'` adds the address of the IAADDR
  the client holds at `s'` from a REPLY, in Bound or Decline.
* `Quiet`: a handler that adds nothing and keeps `Core.FromReply`; `Installs`: one that adds
  only leased addresses and keeps it. Bound's entry on a saved REPLY is the second
  (`boundEnter_installs`), every other handler the first, and every step from a client
  keeping `Core.Inv` and `Core.FromReply` the second (`step_installs`).
-/

namespace DHCPv6Client

/-- Whether an effect is an `inet6_aifaddr`. -/
def Effect.isAifaddr : Effect → Bool
  | .aifaddr .. => true
  | _ => false

/-- The client's calls of `inet6_aifaddr`, in order, among its address calls. -/
def Client.adds (s : Client) : List Effect := s.ledger.addrCalls.filter Effect.isAifaddr

theorem Client.adds_eq (s : Client) : s.adds = s.out.filter Effect.isAifaddr := by
  simp only [Client.adds, Client.ledger, List.filter_filter]
  congr
  funext e
  cases e <;> rfl

@[simp] theorem Client.filter_removeAddress (w : World) (s : Client) :
    (s.removeAddress w).ledger.addrCalls.filter Effect.isAifaddr =
      s.ledger.addrCalls.filter Effect.isAifaddr := by
  rw [Client.ledger_removeAddress]
  split <;> simp [Effect.isAifaddr]

theorem Client.adds_emit_aifaddr (s : Client) (a : In6Addr) (pl vl pf : Nat) (ok : Bool) :
    (s.emit (.aifaddr a pl vl pf ok)).adds = s.adds ++ [.aifaddr a pl vl pf ok] := by
  simp [Client.adds, Client.ledger_emit, Effect.isAddrCall, Effect.isAifaddr]

/-- A valid lease comes from a saved REPLY. -/
def Core.FromReply (c : Core) : Prop :=
  ∀ q, c.saved = some q → c.lease.valid = true → q.msgType = kDHCPv6MessageREPLY

theorem Core.FromReply.of_saved {c : Core}
    (h : ∀ q, c.saved = some q → q.msgType = kDHCPv6MessageREPLY) : c.FromReply :=
  fun q hq _ => h q hq

/-- A client keeping its references into the saved packet holds an IAADDR from a REPLY
whenever its lease is valid or it holds no packet. -/
theorem Core.reply_of_iaAddr {c : Core} (hs : c.SavedOk) (hr : c.FromReply)
    (hv : c.saved ≠ none → c.lease.valid = true) {d : List UInt8} (hd : c.iaAddr = some d) :
    ∃ q, c.saved = some q ∧ q.msgType = kDHCPv6MessageREPLY := by
  cases hq : c.saved with
  | none => rw [hs.2.2.1, hq] at hd; cases hd
  | some q => exact ⟨q, rfl, hr q hq (hv (by simp [hq]))⟩

/-- `e` adds the address of the IAADDR the client holds from a REPLY, and the client is in
Bound, or in Decline. -/
def Client.Leases (s : Client) (e : Effect) : Prop :=
  ∃ q d, s.saved = some q ∧ q.msgType = kDHCPv6MessageREPLY ∧ s.iaAddr = some d ∧
    (s.cstate = .bound ∨ s.cstate = .decline) ∧
    ∃ pl vl pf ok, e = .aifaddr (iaAddrGetAddress d) pl vl pf ok

/-- From `s` to `s'` the client added to the interface only addresses leased at `s'`. -/
def AddsLeased (s s' : Client) : Prop :=
  ∃ new, s'.adds = s.adds ++ new ∧ ∀ e ∈ new, s'.Leases e

/-- A handler that adds no address and keeps a valid lease coming from a REPLY. -/
structure Quiet (s s' : Client) : Prop where
  adds : s'.adds = s.adds
  fromReply : s.core.FromReply → s'.core.FromReply

/-- A handler that adds only leased addresses and keeps a valid lease coming from a REPLY. -/
structure Installs (s s' : Client) : Prop where
  adds : AddsLeased s s'
  fromReply : s.core.FromReply → s'.core.FromReply

/-- What follows an added address in the same step: nothing more added, the packet and its
IAADDR kept, in Bound or Decline. -/
structure Keeps (s s' : Client) : Prop where
  adds : s'.adds = s.adds
  saved : s'.core.saved = s.core.saved
  iaAddr : s'.core.iaAddr = s.core.iaAddr
  cstate : s'.core.cstate = .bound ∨ s'.core.cstate = .decline

section

variable {s s₁ s' : Client}

theorem Quiet.refl (s : Client) : Quiet s s := ⟨rfl, id⟩

theorem Quiet.trans (h₁ : Quiet s s₁) (h₂ : Quiet s₁ s') : Quiet s s' :=
  ⟨h₂.adds.trans h₁.adds, h₂.fromReply ∘ h₁.fromReply⟩

/-- What the core lemmas compute: the packet and the lease kept, or the lease no longer
valid. -/
theorem Quiet.of_core (ha : s'.adds = s.adds)
    (hc : s'.core.saved = s.core.saved ∧ s'.core.lease = s.core.lease ∨ s'.core.lease.valid = false) :
    Quiet s s' := by
  refine ⟨ha, fun hr q hq hv => ?_⟩
  rcases hc with ⟨hs, hl⟩ | hl
  · exact hr q (hs ▸ hq) (hl ▸ hv)
  · exact absurd (hl.symm.trans hv) Bool.false_ne_true

/-- An update of fields the invariant does not read. -/
theorem Quiet.of_update (h : s'.out = s.out ∧ s'.saved = s.saved ∧ s'.lease = s.lease) : Quiet s s' :=
  Quiet.of_core (by simp [Client.adds, Client.ledger, h.1]) (.inl ⟨h.2.1, h.2.2⟩)

theorem Quiet.installs (h : Quiet s s') : Installs s s' :=
  ⟨⟨[], by simp [h.adds], nofun⟩, h.fromReply⟩

/-- A prefix that adds nothing. -/
theorem Installs.of_quiet (h₁ : Quiet s s₁) (h₂ : Installs s₁ s') : Installs s s' := by
  obtain ⟨⟨new, hn, hl⟩, hf⟩ := h₂
  exact ⟨⟨new, by rw [hn, h₁.adds], hl⟩, hf ∘ h₁.fromReply⟩

theorem Keeps.refl (hc : s.cstate = .bound ∨ s.cstate = .decline) : Keeps s s := ⟨rfl, rfl, rfl, hc⟩

theorem Keeps.trans (h₁ : Keeps s s₁) (h₂ : Keeps s₁ s') : Keeps s s' :=
  ⟨h₂.adds.trans h₁.adds, h₂.saved.trans h₁.saved, h₂.iaAddr.trans h₁.iaAddr, h₂.cstate⟩

/-- An added address stays leased through what follows it. -/
theorem AddsLeased.keep (h : AddsLeased s s₁) (hk : Keeps s₁ s') : AddsLeased s s' := by
  obtain ⟨new, hn, hl⟩ := h
  refine ⟨new, hk.adds.trans hn, fun e he => ?_⟩
  obtain ⟨q, d, hq, hqr, hd, -, hx⟩ := hl e he
  exact ⟨q, d, hk.saved.trans hq, hqr, hk.iaAddr.trans hd, hk.cstate, hx⟩

end

theorem quiet_ite {s : Client} {p : Prop} [Decidable p] {a b : Client} (ha : p → Quiet s a)
    (hb : ¬p → Quiet s b) : Quiet s (if p then a else b) := by
  split
  · exact ha ‹_›
  · exact hb ‹_›

theorem keeps_ite {s : Client} {p : Prop} [Decidable p] {a b : Client} (ha : p → Keeps s a)
    (hb : ¬p → Keeps s b) : Keeps s (if p then a else b) := by
  split
  · exact ha ‹_›
  · exact hb ‹_›

theorem installs_ite {s : Client} {p : Prop} [Decidable p] {a b : Client} (ha : p → Installs s a)
    (hb : ¬p → Installs s b) : Installs s (if p then a else b) := by
  split
  · exact ha ‹_›
  · exact hb ‹_›

/-- The same for a handler that can fault. -/
theorem installs_of_ite_eq_some {s s' : Client} {p : Prop} [Decidable p] {a b : Option Client}
    (ha : p → a = some s' → Installs s s') (hb : ¬p → b = some s' → Installs s s') :
    (if p then a else b) = some s' → Installs s s' := by
  split
  · exact ha ‹_›
  · exact hb ‹_›

theorem installs_of_some_eq {s x s' : Client} (hx : Installs s x) : some x = some s' → Installs s s' :=
  fun he => Option.some.inj he ▸ hx

section

variable (h : Host) (w : World) (s : Client)

/-! ## Handlers that add nothing -/

theorem removeAddress_quiet : Quiet s (s.removeAddress w) :=
  Quiet.of_core (by simp [Client.adds]) (.inl (by simp))

theorem clearPacket_quiet : Quiet s s.clearPacket := Quiet.of_core rfl (.inr rfl)

/-- A saved packet comes with a lease not yet valid. -/
theorem savePacket_quiet (p : DHCPv6Packet) : Quiet s (s.savePacket w p) := Quiet.of_core rfl (.inr (by simp))

theorem solicitStart_quiet : Quiet s (solicitStart w s) :=
  Quiet.of_core (by simp [Client.adds, solicitStart]) (.inr (by simp [solicitStart]))

theorem unboundStart_quiet : Quiet s (unboundStart w s) :=
  (Quiet.of_core (by simp [Client.adds]) (.inr (by simp))).trans (solicitStart_quiet w _)

theorem nextRetransmit_quiet (IRT MRT : ℚ) : Quiet s (s.nextRetransmit w IRT MRT) :=
  Quiet.of_core (by simp [Client.adds]) (.inl (by simp))

theorem retransmitOrSolicit_quiet {MRC : Nat} {IRT MRT : ℚ} {f : Handler} :
    Quiet s (retransmitOrSolicit h w MRC IRT MRT f s) :=
  quiet_ite (fun _ => solicitStart_quiet w s) fun _ => Quiet.of_core (by simp [Client.adds]) (.inl (by simp))

theorem requestTimeout_quiet : Quiet s (requestTimeout h w s) := retransmitOrSolicit_quiet h w s

theorem requestStart_quiet : Quiet s (requestStart h w s) :=
  (Quiet.of_core (by simp [Client.adds]) (.inl (by simp))).trans (requestTimeout_quiet h w _)

theorem declineTimeout_quiet : Quiet s (declineTimeout h w s) := retransmitOrSolicit_quiet h w s

theorem declineStart_quiet : Quiet s (declineStart h w s) :=
  (Quiet.of_core (by simp [Client.adds]) (.inr (by simp))).trans (declineTimeout_quiet h w _)

theorem confirmStart_quiet : Quiet s (confirmStart w s) :=
  Quiet.of_core (by simp [Client.adds, confirmStart]) (.inl (by simp [confirmStart]))

theorem inactive_quiet : Quiet s (s.inactive w) :=
  Quiet.of_core (by simp [Client.adds, Client.inactive]) (.inr (by simp))

theorem leaseStillValid_quiet (now : ℚ) : Quiet s (s.leaseStillValid now) :=
  Quiet.of_core (by simp [Client.adds]) (by rw [Client.core_leaseStillValid]; split <;> simp)

theorem linkCheckedTimeout_quiet {transmit : Client → Client}
    (htr : ∀ s' : Client, Quiet s' (transmit s')) : Quiet s (linkCheckedTimeout w transmit s) :=
  quiet_ite (fun _ => (Quiet.of_core (by simp [Client.adds]) (.inl (by simp))).trans (htr _)) fun _ =>
    quiet_ite (fun _ => inactive_quiet w s) fun _ => htr s

theorem solicitTransmit_quiet : Quiet s (solicitTransmit h w s) :=
  quiet_ite (fun _ => requestStart_quiet h w s) fun _ =>
    quiet_ite (fun _ => Quiet.of_core (by simp [Client.adds]) (.inl (by simp))) fun _ =>
      Quiet.of_core (by simp [Client.adds]) (.inl (by simp))

theorem solicitTimeout_quiet : Quiet s (solicitTimeout h w s) :=
  linkCheckedTimeout_quiet w s (solicitTransmit_quiet h w)

theorem informTransmit_quiet : Quiet s (informTransmit h w s) :=
  Quiet.of_core (by simp [Client.adds, informTransmit]) (.inl (by simp [informTransmit]))

theorem informTimeout_quiet : Quiet s (informTimeout h w s) :=
  linkCheckedTimeout_quiet w s (informTransmit_quiet h w)

theorem informStart_quiet : Quiet s (informStart h w s) :=
  (Quiet.of_core (by simp [Client.adds]) (.inr (by simp))).trans
    (quiet_ite (fun _ => Quiet.of_core (by simp [Client.adds]) (.inl (by simp))) fun _ =>
      informTimeout_quiet h w _)

theorem confirmTransmit_quiet : Quiet s (confirmTransmit h w s) :=
  Quiet.of_core (by simp [Client.adds, confirmTransmit]) (.inl (by simp [confirmTransmit]))

theorem renewRebindTransmit_quiet (d : ℚ) : Quiet s (renewRebindTransmit h w d s) :=
  Quiet.of_core (by simp [Client.adds]) (.inl (by simp))

theorem renewRebindTimeout_quiet : Quiet s (renewRebindTimeout h w s) := by
  refine (leaseStillValid_quiet s w.now).trans ?_
  unfold renewRebindTimeout
  generalize s.leaseStillValid w.now = l
  refine quiet_ite (fun _ => unboundStart_quiet w l) fun _ =>
    quiet_ite (fun _ => (nextRetransmit_quiet w l _ _).trans (renewRebindTransmit_quiet h w _ _)) fun _ => ?_
  refine Quiet.trans ?_ (renewRebindTransmit_quiet h w _ _)
  refine Quiet.trans ?_ (nextRetransmit_quiet w _ _ _)
  exact quiet_ite (fun _ => Quiet.of_core (by simp [Client.adds]) (.inl (by simp))) fun _ => Quiet.refl l

theorem renewRebindStart_quiet : Quiet s (renewRebindStart h w s) :=
  (Quiet.of_core (by simp [Client.adds]) (.inl (by simp))).trans (renewRebindTimeout_quiet h w _)

theorem handleAddressChanged_quiet (addrs : List AddrInfo) : Quiet s (handleAddressChanged h w addrs s) := by
  unfold handleAddressChanged
  refine quiet_ite (fun _ => Quiet.refl s) fun _ => ?_
  split
  · exact Quiet.refl s
  refine quiet_ite (fun _ => declineStart_quiet h w s) fun _ => quiet_ite (fun _ => Quiet.refl s) fun _ => ?_
  exact quiet_ite (fun _ => Quiet.of_core (by simp [Client.adds]) (.inl (by simp))) fun _ =>
    quiet_ite (fun _ => (Quiet.of_core (by simp [Client.adds]) (.inl (by simp))).trans (unboundStart_quiet w _))
      fun _ => Quiet.of_core (by simp [Client.adds]) (.inl (by simp))

theorem handleWake_quiet (ev : LinkEventData) : Quiet s (handleWake h w ev s) := by
  have hr : Quiet s (s.removeAddress w) := Quiet.of_core (by simp [Client.adds]) (.inl (by simp))
  have hl := leaseStillValid_quiet s w.now
  unfold handleWake
  refine quiet_ite (fun _ => quiet_ite (fun _ => hr) fun _ =>
    quiet_ite (fun _ => hr.trans (solicitStart_quiet w _)) fun _ => hr) fun _ => ?_
  refine quiet_ite (fun _ => quiet_ite (fun _ => hl.trans (unboundStart_quiet w _)) fun _ => hl) fun _ => ?_
  refine quiet_ite (fun _ => hl.trans (confirmStart_quiet w _)) fun _ => quiet_ite (fun _ => hl) fun _ => ?_
  exact quiet_ite (fun _ => hl.trans (Quiet.of_core (by simp [Client.adds]) (.inl (by simp)))) fun _ =>
    hl.trans (renewRebindStart_quiet h w _)

theorem confirmIfBound_quiet : Quiet s (confirmIfBound w s) :=
  quiet_ite (fun _ => (leaseStillValid_quiet s w.now).trans (confirmStart_quiet w _)) fun _ =>
    leaseStillValid_quiet s w.now

theorem handleEvent_quiet (e : IFEvent) : Quiet s (handleEvent h w e s) := by
  unfold handleEvent
  refine quiet_ite (fun _ => Quiet.refl s) fun _ => ?_
  split
  · exact handleAddressChanged_quiet h w s _
  · exact handleWake_quiet h w s _
  · exact quiet_ite (fun _ => confirmIfBound_quiet w s) fun _ => Quiet.refl s
  · exact quiet_ite (fun _ => confirmIfBound_quiet w s) fun _ => Quiet.refl s
  · exact confirmIfBound_quiet w s
  · exact Quiet.refl s

theorem start_quiet (allocateAddress privacyRequired : Bool) :
    Quiet s (start h w allocateAddress privacyRequired s) := by
  unfold start
  refine quiet_ite (fun _ => ?_) fun _ => (((Quiet.of_update (by exact ⟨rfl, rfl, rfl⟩)).trans
    (removeAddress_quiet w _)).trans (clearPacket_quiet _)).trans (informStart_quiet h w _)
  have hp : Quiet s ({ { s with privateAddress := privacyRequired } with mode := .stateful }.leaseStillValid
      w.now) := (Quiet.of_update (by exact ⟨rfl, rfl, rfl⟩)).trans (leaseStillValid_quiet _ w.now)
  exact quiet_ite (fun _ => hp.trans (confirmStart_quiet w _)) fun _ =>
    hp.trans (((removeAddress_quiet w _).trans (clearPacket_quiet _)).trans (solicitStart_quiet w _))

theorem stop_quiet (discardInformation : Bool) : Quiet s (stop w discardInformation s) := by
  have hr : Quiet s (s.removeAddress w).cancelPendingEvents :=
    (removeAddress_quiet w s).trans (Quiet.of_update (by exact ⟨rfl, rfl, rfl⟩))
  have ht : ∀ x : Client, Quiet x { { x.setState .inactive with mode := .idle } with duid := none
      }.postNotification := fun x =>
    Quiet.of_core (by simp only [Client.adds, Client.ledger_postNotification]; rfl) (.inl ⟨rfl, rfl⟩)
  unfold stop
  refine Quiet.trans ?_ (ht _)
  exact quiet_ite (fun _ => hr.trans (clearPacket_quiet _)) fun _ =>
    hr.trans (Quiet.of_update (by exact ⟨rfl, rfl, rfl⟩))

/-! ## Bound's entry -/

theorem declineStart_keeps : Keeps s (declineStart h w s) := by
  unfold declineStart declineTimeout retransmitOrSolicit
  exact keeps_ite (fun hc => absurd hc (by decide : ¬DHCPv6_DEC_MAX_RC ≤ 0)) fun _ =>
    ⟨by simp [Client.adds], by simp, by simp, .inr (by simp)⟩

/-- Once our address is on the interface, the report of the interface's addresses declines
it, waits, or arms the renewal timer: it never goes back to Solicit, as the lease does not
start after now. -/
theorem handleAddressChanged_keeps (addrs : List AddrInfo) (hc : s.cstate = .bound)
    (hnow : s.lease.validLifetime ≠ DHCP_INFINITE_LEASE → s.lease.start ≤ w.now) :
    Keeps s (handleAddressChanged h w addrs s) := by
  have hb : Keeps s s := Keeps.refl (.inl hc)
  unfold handleAddressChanged
  refine keeps_ite (fun _ => hb) fun _ => ?_
  split
  · exact hb
  refine keeps_ite (fun _ => declineStart_keeps h w s) fun _ => keeps_ite (fun _ => hb) fun _ => ?_
  have hp : Keeps s s.postNotification.cancelPendingEvents := ⟨by simp [Client.adds], rfl, rfl, .inl hc⟩
  exact keeps_ite (fun _ => hp) fun hinf => keeps_ite (fun hlt => absurd (hnow hinf) (not_le.mpr hlt))
    fun _ => hp.trans ⟨by simp [Client.adds], rfl, rfl, .inl hc⟩

/-- Bound's entry, once the lease is checked, adds the address of the IAADDR it holds from
a REPLY, and what follows keeps it. -/
theorem boundCommit_installs {q : DHCPv6Packet} {d : List UInt8} {vl pl : Nat} {t : ℚ}
    (hq : s.saved = some q) (hqr : q.msgType = kDHCPv6MessageREPLY) (hd : s.iaAddr = some d)
    (hc : s.cstate = .bound) (hnow : s.lease.validLifetime ≠ DHCP_INFINITE_LEASE → s.lease.start ≤ w.now) :
    Installs s (boundCommit h w (iaAddrGetAddress d) vl pl t s) := by
  have hf : ∀ {x : Client}, x.core.saved = s.core.saved → x.core.FromReply := fun hx =>
    Core.FromReply.of_saved fun q' hq' => by
      rw [hx] at hq'
      exact Option.some.inj (hq.symm.trans hq') ▸ hqr
  simp only [boundCommit]
  generalize hx : (if (s.ourIp != 0 && s.ourIp != iaAddrGetAddress d) = true then
    s.emit (.difaddr s.ourIp w.difaddrOk) else s) = x
  have hxa : x.adds = s.adds := by
    subst hx; split <;> simp [Client.adds, Client.ledger_emit, Effect.isAddrCall, Effect.isAifaddr]
  have hxc : x.core = s.core := by subst hx; split <;> rfl
  generalize hy : x.emit (.aifaddr (iaAddrGetAddress d) (getPrefixLength w) vl pl w.aifaddrOk) = y
  have hyc : y.core = s.core := by rw [← hy, Client.core_emit, hxc]
  have hys : y.core.saved = s.core.saved := by rw [hyc]
  have hyb : y.cstate = .bound := by rw [← Client.core_cstate, hyc, Client.core_cstate, hc]
  have hyl : AddsLeased s y := by
    refine ⟨_, by rw [← hy, Client.adds_emit_aifaddr, hxa], fun e he => ?_⟩
    rw [List.mem_singleton] at he
    subst he
    exact ⟨q, d, (congrArg Core.saved hyc).trans hq, hqr, (congrArg Core.iaAddr hyc).trans hd, .inl hyb,
      _, _, _, _, rfl⟩
  have hk : ∀ {r : Client}, Keeps y r → Installs s r := fun hk =>
    ⟨hyl.keep hk, fun _ => hf (hk.saved.trans hys)⟩
  refine installs_ite (fun _ => (Quiet.refl s).installs) fun _ => installs_ite (fun _ => ⟨hyl, fun _ => hf hys⟩)
    fun _ => installs_ite (fun _ => hk ?_) fun _ => hk ?_
  · have hp : Keeps y y.postNotification.cancelPendingEvents := ⟨by simp [Client.adds], rfl, rfl, .inl hyb⟩
    exact keeps_ite (fun _ => hp) fun _ => hp.trans ⟨by simp [Client.adds], rfl, rfl, .inl hyb⟩
  · have hl : y.lease = s.lease := congrArg Core.lease hyc
    refine Keeps.trans ?_ (handleAddressChanged_keeps h w
      { y with ourIp := iaAddrGetAddress d, ourPrefixLength := getPrefixLength w } _ hyb
      (by simpa only [hl] using hnow))
    exact ⟨by simp [Client.adds], rfl, rfl, .inl hyb⟩

/-- `DHCPv6Client_Bound`, start, on a saved REPLY: the address it adds is that of the
REPLY's IAADDR; an expired lease or one starting later goes back to Solicit, adding
nothing. -/
theorem boundEnter_installs {q : DHCPv6Packet} {d : List UInt8} (hq : s.saved = some q)
    (hqr : q.msgType = kDHCPv6MessageREPLY) (hd : s.iaAddr = some d) :
    Installs s (boundEnter h w (iaAddrGetAddress d) s) := by
  have hb : Quiet s { { s.setState .bound with lease.valid := true } with savedVerified := true
      }.cancelPendingEvents :=
    ⟨rfl, fun _ => Core.FromReply.of_saved fun q' hq' => Option.some.inj (hq.symm.trans hq') ▸ hqr⟩
  unfold boundEnter
  exact installs_ite (fun hinf => Installs.of_quiet hb (boundCommit_installs h w _ hq hqr hd rfl fun hi => absurd hinf hi))
    fun _ => installs_ite (fun _ => (hb.trans (unboundStart_quiet w _)).installs) fun hlt =>
    installs_ite (fun _ => (hb.trans (unboundStart_quiet w _)).installs) fun _ =>
    Installs.of_quiet hb (boundCommit_installs h w _ hq hqr hd rfl fun _ => le_of_not_lt hlt)

theorem boundStart_installs {s' : Client}
    (hq : ∀ d, s.iaAddr = some d → ∃ q, s.saved = some q ∧ q.msgType = kDHCPv6MessageREPLY)
    (he : boundStart h w s = some s') : Installs s s' := by
  obtain ⟨d, hd, rfl⟩ := Option.map_eq_some'.mp he
  obtain ⟨q, hq, hqr⟩ := hq d hd
  exact boundEnter_installs h w s hq hqr hd

/-! ## Receiving and timeouts -/

theorem packetMatches_msgType {t : Nat} {p : DHCPv6Packet} (hm : packetMatches h w t p s = true) :
    p.msgType = t := by
  simp only [packetMatches, Bool.and_eq_true, beq_iff_eq] at hm
  exact hm.1.1.1

/-- Request and Renew/Rebind bind on the REPLY they have just saved. -/
theorem savePacket_installs {p : DHCPv6Packet} {s' : Client} (hm : packetMatches h w kDHCPv6MessageREPLY p s = true)
    (x : Client) (he : boundStart h w (x.savePacket w p) = some s') : Installs x s' :=
  Installs.of_quiet (savePacket_quiet w x p)
    (boundStart_installs h w _ (fun _ _ => ⟨p, rfl, packetMatches_msgType h w s hm⟩) he)

theorem requestData_installs {p : DHCPv6Packet} {s' : Client} (he : requestData h w p s = some s') :
    Installs s s' := by
  obtain ⟨d, hd⟩ := Client.afterMatch_eq w s kDHCPv6MessageREPLY p
  have ha : Quiet s { s with duid := d } := Quiet.of_core rfl (.inl ⟨rfl, rfl⟩)
  have hs : ∀ {x : Client}, some { s with duid := d } = some x → Installs s x := installs_of_some_eq ha.installs
  simp only [requestData, hd] at he
  refine installs_of_ite_eq_some (fun _ => hs) (fun hm => ?_) he
  split
  · exact hs
  exact installs_of_ite_eq_some (fun _ => hs) fun _ =>
    installs_of_ite_eq_some (fun _ => installs_of_some_eq (ha.trans (solicitStart_quiet w _)).installs) fun _ =>
    installs_of_ite_eq_some (fun _ => hs) fun _ he =>
    Installs.of_quiet ha (savePacket_installs h w s (by simpa using hm) _ he)

theorem renewRebindData_installs {p : DHCPv6Packet} {s' : Client} (he : renewRebindData h w p s = some s') :
    Installs s s' := by
  obtain ⟨d, hd⟩ := Client.afterMatch_eq w s kDHCPv6MessageREPLY p
  have ha : Quiet s { s with duid := d } := Quiet.of_core rfl (.inl ⟨rfl, rfl⟩)
  have hs : ∀ {x : Client}, some { s with duid := d } = some x → Installs s x := installs_of_some_eq ha.installs
  have hu : ∀ {x : Client}, some (unboundStart w { s with duid := d }) = some x → Installs s x :=
    installs_of_some_eq (ha.trans (unboundStart_quiet w _)).installs
  simp only [renewRebindData, hd] at he
  refine installs_of_ite_eq_some (fun _ => hs) (fun hm => ?_) he
  split
  · exact hs
  exact installs_of_ite_eq_some (fun _ => hu) fun _ => installs_of_ite_eq_some (fun _ => hu) fun _ he =>
    Installs.of_quiet ha (savePacket_installs h w s (by simpa using hm) _ he)

/-- Confirm binds on the packet it holds, a REPLY as its lease is valid. -/
theorem confirmData_installs {p : DHCPv6Packet} {s' : Client} (hi : s.core.Inv) (hc : s.cstate = .confirm)
    (hr : s.core.FromReply) (he : confirmData h w p s = some s') : Installs s s' := by
  obtain ⟨d, hd⟩ := Client.afterMatch_eq w s kDHCPv6MessageREPLY p
  have ha : Quiet s { s with duid := d } := Quiet.of_core rfl (.inl ⟨rfl, rfl⟩)
  have hs : ∀ {x : Client}, some { s with duid := d } = some x → Installs s x := installs_of_some_eq ha.installs
  simp only [confirmData, hd] at he
  refine installs_of_ite_eq_some (fun _ => hs) (fun _ => ?_) he
  split
  · exact hs
  exact installs_of_ite_eq_some (fun _ => installs_of_some_eq (ha.trans (unboundStart_quiet w _)).installs)
    fun _ he => Installs.of_quiet ha (boundStart_installs h w { s with duid := d }
      (fun _ => Core.reply_of_iaAddr hi.savedOk hr fun hn => (hi.confirm hc).resolve_right hn) he)

/-- Confirm's timeout binds on a lease it finds still valid. -/
theorem confirmTimeout_installs {s' : Client} (hs : s.core.SavedOk) (hr : s.core.FromReply)
    (he : confirmTimeout h w s = some s') : Installs s s' := by
  have hl := leaseStillValid_quiet s w.now
  unfold confirmTimeout at he
  refine installs_of_ite_eq_some (fun _ => installs_of_some_eq ((Quiet.of_update (by exact ⟨rfl, rfl, rfl⟩)).trans
    (confirmTransmit_quiet h w _)).installs) (fun _ => ?_) he
  refine installs_of_ite_eq_some (fun _ => installs_of_some_eq (inactive_quiet w s).installs) fun _ =>
    installs_of_ite_eq_some (fun _ => installs_of_some_eq (confirmTransmit_quiet h w s).installs) fun _ => ?_
  exact installs_of_ite_eq_some (fun hv he => Installs.of_quiet hl (boundStart_installs h w _
      (fun _ => Core.reply_of_iaAddr (leaseStillValid_savedOk s w.now hs) (hl.fromReply hr) fun _ => hv) he))
    fun _ => installs_of_some_eq (hl.trans (solicitStart_quiet w _)).installs

theorem runTimer_installs {t : TimerCallout} {s' : Client} (hs : s.core.SavedOk) (hr : s.core.FromReply)
    (he : runTimer h w t s = some s') : Installs s s' := by
  obtain ⟨f, ev, d⟩ := t
  cases f <;> cases ev <;> simp only [runTimer, Option.some.injEq] at he
  · exact he ▸ (solicitStart_quiet w s).installs
  · exact he ▸ (solicitTimeout_quiet h w s).installs
  · exact he ▸ (requestStart_quiet h w s).installs
  · exact he ▸ (requestTimeout_quiet h w s).installs
  · exact he ▸ (renewRebindStart_quiet h w s).installs
  · exact he ▸ (renewRebindTimeout_quiet h w s).installs
  · exact he ▸ (confirmStart_quiet w s).installs
  · exact confirmTimeout_installs h w s hs hr he
  · exact he ▸ (declineStart_quiet h w s).installs
  · exact he ▸ (declineTimeout_quiet h w s).installs
  · exact he ▸ (informStart_quiet h w s).installs
  · exact he ▸ (informTimeout_quiet h w s).installs

theorem runReceive_installs {f : Handler} {p : DHCPv6Packet} {s' : Client} (hi : s.core.Inv)
    (hr : s.core.FromReply) (hf : stateHandler s.cstate = some f) (he : runReceive h w f p s = some s') :
    Installs s s' := by
  obtain ⟨d, hd⟩ := Client.afterMatch_eq w s kDHCPv6MessageREPLY p
  have ha : Quiet s { s with duid := d } := Quiet.of_core rfl (.inl ⟨rfl, rfl⟩)
  cases f <;> simp only [runReceive, Option.some.injEq] at he
  · subst he
    obtain ⟨d', hd'⟩ := solicitData_eq h w s p
    rw [hd']
    have ha' : Quiet s { s with duid := d' } := Quiet.of_core rfl (.inl ⟨rfl, rfl⟩)
    have hp : Quiet s ({ s with duid := d' }.savePacket w p) := ha'.trans (savePacket_quiet w _ p)
    exact (quiet_ite (fun _ => quiet_ite (fun _ => hp.trans (requestStart_quiet h w _)) fun _ => hp)
      fun _ => ha').installs
  · exact requestData_installs h w s he
  · exact renewRebindData_installs h w s he
  · exact confirmData_installs h w s hi (by simpa [Handler.states] using hf) hr he
  · subst he
    simp only [declineData, hd]
    exact (quiet_ite (fun _ => ha) fun _ => ha.trans (solicitStart_quiet w _)).installs
  · subst he
    simp only [informData, hd]
    exact (quiet_ite (fun _ => ha) fun _ => ha.trans (Quiet.of_core (by simp [Client.adds, informCompleteStart])
      (.inr (by simp [informCompleteStart])))).installs

/-- Every step from a client keeping `Core.Inv` and `Core.FromReply` adds only leased
addresses and keeps a valid lease coming from a REPLY. -/
theorem step_installs {e : Event} {s' : Client} (hi : s.core.Inv) (hr : s.core.FromReply)
    (he : step h w e s = some s') : Installs s s' := by
  cases e with
  | start a p => cases he; exact (start_quiet h w s a p).installs
  | stop d => cases he; exact (stop_quiet w s d).installs
  | timerFires =>
    simp only [step] at he
    split at he
    · exact Installs.of_quiet (Quiet.of_update (by exact ⟨rfl, rfl, rfl⟩))
        (runTimer_installs h w { s with timer := none } hi.savedOk hr he)
    · cases he; exact (Quiet.refl s).installs
  | receive p =>
    simp only [step] at he
    split at he
    · rename_i f hf
      exact runReceive_installs h w s hi hr (by simpa [Core.ReceiveOk, hf] using hi.receive) he
    · cases he; exact (Quiet.refl s).installs
  | handleEvent e => cases he; exact (handleEvent_quiet h w s e).installs
  | setRequestedOptions l => cases he; exact (Quiet.of_update (by exact ⟨rfl, rfl, rfl⟩)).installs

end

/-- In every reachable client a valid lease comes from a saved REPLY. -/
theorem Reachable.fromReply {h : Host} {s : Client} (hr : Reachable h s) : s.core.FromReply := by
  induction hr with
  | create => intro q hq; cases hq
  | step w e hr he ih => exact (step_installs h w _ (hr.inv h) ih he).fromReply ih

/-- Every address a step of a reachable client adds to the interface (`inet6_aifaddr`) is
the address of the IAADDR of a REPLY the client holds when the step ends, and the client is
then in Bound, or in Decline when the interface already reports the address duplicated. -/
theorem reachable_adds_leased {h : Host} {w : World} {e : Event} {s s' : Client}
    (hr : Reachable h s) (he : step h w e s = some s') :
    ∃ new, s'.out.filter Effect.isAifaddr = s.out.filter Effect.isAifaddr ++ new ∧
      ∀ a ∈ new, ∃ q d, s'.saved = some q ∧ q.msgType = kDHCPv6MessageREPLY ∧
        (getIaNaAddrCode q.options).iaAddr = some d ∧ (s'.cstate = .bound ∨ s'.cstate = .decline) ∧
        ∃ pl vl pf ok, a = .aifaddr (iaAddrGetAddress d) pl vl pf ok := by
  obtain ⟨new, hn, hl⟩ := (step_installs h w s (hr.inv h) hr.fromReply he).adds
  have hs' := ((hr.step w e he).inv h).savedOk.2.2.1
  refine ⟨new, by rw [← Client.adds_eq, ← Client.adds_eq, hn], fun a ha => ?_⟩
  obtain ⟨q, d, hq, hqr, hd, hc, hx⟩ := hl a ha
  refine ⟨q, d, hq, hqr, ?_, hc, hx⟩
  simpa [hq, hd] using hs'.symm

theorem exampleRequesting_adds_leased :
    step exampleHost (exampleWorld 0) (.receive (exampleMessage kDHCPv6MessageREPLY 100 200 []))
        exampleRequesting = some exampleReplied ∧
      ∃ new, exampleReplied.out.filter Effect.isAifaddr = exampleRequesting.out.filter Effect.isAifaddr ++ new ∧
        ∀ a ∈ new, ∃ q d, exampleReplied.saved = some q ∧ q.msgType = kDHCPv6MessageREPLY ∧
          (getIaNaAddrCode q.options).iaAddr = some d ∧
          (exampleReplied.cstate = .bound ∨ exampleReplied.cstate = .decline) ∧
          ∃ pl vl pf ok, a = .aifaddr (iaAddrGetAddress d) pl vl pf ok :=
  have he : step exampleHost (exampleWorld 0) (.receive (exampleMessage kDHCPv6MessageREPLY 100 200 []))
      exampleRequesting = some exampleReplied := by
    with_unfolding_all rfl
  ⟨he, reachable_adds_leased exampleRequesting_reachable he⟩

end DHCPv6Client
