import DHCPv6Client.Reachable
import DHCPv6Client.Lease
import DHCPv6Client.Retransmit

/-!
# The addresses on the interface and the retransmission state

What the core leaves out: the client's calls of the kernel's address primitives, and its
retransmission state. `Client.ledger` is that part with the address it records, with one
`@[simp]` lemma per primitive saying what it does to it. `Ledger.Inv` is the invariant:

* every `inet6_aifaddr` the client has made was given a valid lifetime of at least a
  second, not below the preferred lifetime (`Effect.LifetimesOk`);
* in a run where the kernel does what it is asked (`KernelOk`), the specified addresses the
  client has put on the interface and not taken off (`installed`) are its `our_ip` and
  nothing else;
* once a try is made, the retransmission time is positive.

Every handler keeps it, Bound's entry on a normalized lease included (`boundEnter_ledger`),
and so does every step (`step_ledger`): so does every reachable client
(`Reachable.ledger`), and every run in which the kernel does what it is asked
(`run_ledger`).
-/

namespace DHCPv6Client

/-! ## The addresses on the interface -/

/-- Whether an effect is a call of the kernel's address primitives. -/
def Effect.isAddrCall : Effect → Bool
  | .difaddr .. | .aifaddr .. => true
  | _ => false

/-- What an effect does to whether `a` is on the interface: a successful `inet6_aifaddr`
of `a` puts it there, a successful `inet6_difaddr` of `a` takes it off. -/
def Effect.apply (a : In6Addr) (held : Bool) : Effect → Bool
  | .aifaddr b _ _ _ ok => if ok ∧ b = a then true else held
  | .difaddr b ok => if ok ∧ b = a then false else held
  | _ => held

/-- Whether the client's calls leave `a` on the interface. -/
def installed (a : In6Addr) (calls : List Effect) : Bool :=
  calls.foldl (Effect.apply a) false

@[simp] theorem installed_append_singleton (a : In6Addr) (calls : List Effect) (e : Effect) :
    installed a (calls ++ [e]) = e.apply a (installed a calls) := by
  simp [installed]

/-- An `inet6_aifaddr` is given a valid lifetime of at least a second, not below the
preferred lifetime. -/
def Effect.LifetimesOk : Effect → Prop
  | .aifaddr _ _ valid preferred _ => 1 ≤ valid ∧ preferred ≤ valid
  | _ => True

/-- A world in which the kernel does what it is asked: a socket is had, and every address
is added and removed. -/
def KernelOk (w : World) : Prop := w.socketOk = true ∧ w.difaddrOk = true ∧ w.aifaddrOk = true

instance (w : World) : Decidable (KernelOk w) := inferInstanceAs (Decidable (_ ∧ _))

/-! ## The ledger -/

/-- The part of a client the address and retransmission invariants read. -/
structure Ledger where
  ourIp : In6Addr
  addrCalls : List Effect
  tries : Nat
  retransmitTime : ℚ

/-- The ledger invariant; the bookkeeping of the addresses holds when `kernelOk`. -/
structure Ledger.Inv (kernelOk : Prop) (l : Ledger) : Prop where
  lifetimes : ∀ e ∈ l.addrCalls, e.LifetimesOk
  held : kernelOk → ∀ a, a ≠ 0 → (installed a l.addrCalls = true ↔ a = l.ourIp)
  retransmit : l.tries ≠ 0 → 0 < l.retransmitTime

namespace Client

/-- The ledger of a client. -/
def ledger (s : Client) : Ledger :=
  ⟨s.ourIp, s.out.filter Effect.isAddrCall, s.tries, s.retransmitTime⟩

variable (h : Host) (w : World) (s : Client)

@[simp] theorem ledger_setState (c : ClientState) : (s.setState c).ledger = s.ledger := rfl
@[simp] theorem ledger_cancelPendingEvents : s.cancelPendingEvents.ledger = s.ledger := rfl
@[simp] theorem ledger_enableReceive (f : Handler) : (s.enableReceive f).ledger = s.ledger := rfl
@[simp] theorem ledger_timerCalloutSet (d : ℚ) (f : Handler) (ev : TimerEvent) :
    (s.timerCalloutSet d f ev).ledger = s.ledger := rfl
@[simp] theorem ledger_clearLease : s.clearLease.ledger = s.ledger := rfl
@[simp] theorem ledger_clearPacket : s.clearPacket.ledger = s.ledger := rfl
@[simp] theorem ledger_advance : s.advance.ledger = s.ledger := rfl
@[simp] theorem ledger_newTransactionId : (s.newTransactionId w).ledger = s.ledger := rfl
@[simp] theorem ledger_setDelayTimer (d : ℚ) (f : Handler) : (s.setDelayTimer w d f).ledger = s.ledger :=
  rfl
@[simp] theorem ledger_setRenewTimer (now t : ℚ) : (s.setRenewTimer now t).ledger = s.ledger := rfl
@[simp] theorem ledger_savePacket (p : DHCPv6Packet) : (s.savePacket w p).ledger = s.ledger := rfl
@[simp] theorem ledger_with_startTime (t : ℚ) : { s with startTime := t }.ledger = s.ledger := rfl
@[simp] theorem ledger_with_renewRebindTime (t : ℚ) :
    { s with renewRebindTime := t }.ledger = s.ledger := rfl
@[simp] theorem ledger_with_savedVerified (b : Bool) : { s with savedVerified := b }.ledger = s.ledger :=
  rfl
@[simp] theorem ledger_with_lease (l : Lease) : { s with lease := l }.ledger = s.ledger := rfl
@[simp] theorem ledger_with_mode (m : ClientMode) : { s with mode := m }.ledger = s.ledger := rfl
@[simp] theorem ledger_with_timer (t : Option TimerCallout) : { s with timer := t }.ledger = s.ledger :=
  rfl
@[simp] theorem ledger_with_privateAddress (b : Bool) :
    { s with privateAddress := b }.ledger = s.ledger := rfl
@[simp] theorem ledger_with_duid (d : Option (List UInt8)) : { s with duid := d }.ledger = s.ledger := rfl
@[simp] theorem ledger_with_requestedOptions (l : List Nat) :
    { s with requestedOptions := l }.ledger = s.ledger := rfl
@[simp] theorem ledger_with_ourIp (a : In6Addr) (n : Nat) :
    { s with ourIp := a, ourPrefixLength := n }.ledger = { s.ledger with ourIp := a } := rfl

@[simp] theorem ledger_clearRetransmit : s.clearRetransmit.ledger = { s.ledger with tries := 0 } := rfl

@[simp] theorem ledger_nextRetransmit (IRT MRT : ℚ) :
    (s.nextRetransmit w IRT MRT).ledger =
      { s.ledger with tries := (s.nextRetransmit w IRT MRT).tries,
                      retransmitTime := (s.nextRetransmit w IRT MRT).retransmitTime } := by
  unfold nextRetransmit; split_ifs <;> rfl

@[simp] theorem ledger_setRetransmitTimer (IRT MRT : ℚ) (f : Handler) :
    (s.setRetransmitTimer w IRT MRT f).ledger = (s.nextRetransmit w IRT MRT).ledger := rfl

theorem ledger_emit (e : Effect) :
    (s.emit e).ledger =
      if e.isAddrCall then { s.ledger with addrCalls := s.ledger.addrCalls ++ [e] } else s.ledger := by
  cases e <;> simp [emit, ledger, Effect.isAddrCall]

@[simp] theorem ledger_postNotification : s.postNotification.ledger = s.ledger := by
  simp [postNotification, ledger_emit, Effect.isAddrCall]

@[simp] theorem ledger_emit_generateSymptom : (s.emit .generateSymptom).ledger = s.ledger := by
  simp [ledger_emit, Effect.isAddrCall]

@[simp] theorem ledger_getDUID : (s.getDUID w).ledger = s.ledger := by
  unfold getDUID; split <;> rfl

@[simp] theorem ledger_afterMatch (t : Nat) (p : DHCPv6Packet) : (s.afterMatch w t p).ledger = s.ledger := by
  unfold afterMatch; split <;> simp

@[simp] theorem ledger_leaseStillValid (now : ℚ) : (s.leaseStillValid now).ledger = s.ledger := by
  rw [leaseStillValid_eq]; split <;> rfl

theorem ledger_removeAddress :
    (s.removeAddress w).ledger =
      if s.ourIp = 0 then s.ledger
      else { s.ledger with
        ourIp := 0,
        addrCalls := s.ledger.addrCalls ++ if w.socketOk then [.difaddr s.ourIp w.difaddrOk] else [] } := by
  unfold removeAddress
  split_ifs <;> simp_all [ledger_emit, Effect.isAddrCall]

end Client

@[simp] theorem ledger_transmit (t : Nat) (oa : Option OptionArea) (s : Client) :
    (transmit t oa s).ledger = s.ledger := by
  unfold transmit; split <;> simp [Client.ledger_emit, Effect.isAddrCall]

section

variable (h : Host) (w : World) (s : Client)

@[simp] theorem ledger_sendPacket : (sendPacket h w s).ledger = s.ledger := by
  unfold sendPacket; split <;> simp

@[simp] theorem ledger_sendSolicit : (sendSolicit h w s).ledger = s.ledger := by simp [sendSolicit]

@[simp] theorem ledger_sendInform : (sendInform h w s).ledger = s.ledger := by simp [sendInform]

@[simp] theorem ledger_renewRebindTransmit (d : ℚ) : (renewRebindTransmit h w d s).ledger = s.ledger := by
  simp [renewRebindTransmit]

end

/-! ## What keeps the invariant -/

namespace Ledger.Inv

variable {k : Prop} {l : Ledger}

theorem clearTries (hi : l.Inv k) : { l with tries := 0 }.Inv k :=
  ⟨hi.lifetimes, hi.held, fun h0 => absurd rfl h0⟩

end Ledger.Inv

section

variable (h : Host) (w : World) (s : Client) {k : Prop}

/-- The next retransmission time is positive when the last one was. -/
theorem nextRetransmit_pos {IRT MRT : ℚ} (hIRT : 0 < IRT) (hMRT : 0 ≤ MRT)
    (hr : s.tries ≠ 0 → 0 < s.retransmitTime) : 0 < (s.nextRetransmit w IRT MRT).retransmitTime := by
  rw [show (s.nextRetransmit w IRT MRT).retransmitTime = _ from
    congrArg Prod.snd (nextRetransmit_eq_with w IRT MRT s)]
  by_cases h0 : s.tries = 0
  · have hf := @nextRetransmitWith_first IRT MRT (dhcpv6Rand (s.draw w)) (dhcpv6Rand (s.advance.draw w))
      (abs_dhcpv6Rand_le _) hIRT.le s.retransmitTime
    rw [h0]
    linarith [hf.1]
  · exact (nextRetransmitWith_subsequent (abs_dhcpv6Rand_le _) (abs_dhcpv6Rand_le _) hMRT h0
      (hr h0)).2.1

/-- A try of a retransmission with a positive `IRT` has a positive retransmission time. -/
theorem nextRetransmit_ledger {IRT MRT : ℚ} (hIRT : 0 < IRT) (hMRT : 0 ≤ MRT) (hi : s.ledger.Inv k) :
    (s.nextRetransmit w IRT MRT).ledger.Inv k := by
  rw [Client.ledger_nextRetransmit]
  exact ⟨hi.lifetimes, hi.held, fun _ => nextRetransmit_pos w s hIRT hMRT hi.retransmit⟩

/-- Removing the address, in a world where the kernel does so, leaves nothing specified on
the interface. -/
theorem removeAddress_ledger (hk : k → KernelOk w) (hi : s.ledger.Inv k) :
    (s.removeAddress w).ledger.Inv k := by
  rw [Client.ledger_removeAddress]
  split_ifs with h0 hs
  · exact hi
  · refine ⟨fun e he => ?_, fun hko a ha => ?_, hi.retransmit⟩
    · rcases List.mem_append.mp he with he | he
      · exact hi.lifetimes e he
      · rw [List.mem_singleton.mp he]; trivial
    · have hh := hi.held hko a ha
      by_cases hx : s.ourIp = a
      · subst hx; simpa [(hk hko).2.1, Effect.apply] using ha
      · simp only [installed_append_singleton, Effect.apply, (hk hko).2.1, hx, and_false, if_false] at hh ⊢
        exact ⟨fun h' => absurd (hh.mp h').symm hx, fun h' => absurd h' ha⟩
  · exact ⟨by simpa using hi.lifetimes, fun hko => absurd (hk hko).1 hs, hi.retransmit⟩

theorem inactive_ledger (hk : k → KernelOk w) (hi : s.ledger.Inv k) : (s.inactive w).ledger.Inv k := by
  simpa [Client.inactive] using removeAddress_ledger w s.cancelPendingEvents.clearPacket hk hi

/-! ## Entering a state -/

theorem solicitStart_ledger (hi : s.ledger.Inv k) : (solicitStart w s).ledger.Inv k := by
  simpa [solicitStart] using hi.clearTries

theorem retransmitOrSolicit_ledger {MRC : Nat} {IRT MRT : ℚ} {f : Handler} (hIRT : 0 < IRT)
    (hMRT : 0 ≤ MRT) (hi : s.ledger.Inv k) : (retransmitOrSolicit h w MRC IRT MRT f s).ledger.Inv k := by
  unfold retransmitOrSolicit
  split_ifs
  · exact solicitStart_ledger w s hi
  · simpa using nextRetransmit_ledger w s hIRT hMRT hi

theorem requestTimeout_ledger (hi : s.ledger.Inv k) : (requestTimeout h w s).ledger.Inv k :=
  retransmitOrSolicit_ledger h w s (by norm_num [DHCPv6_REQ_TIMEOUT]) (by norm_num [DHCPv6_REQ_MAX_RT]) hi

theorem declineTimeout_ledger (hi : s.ledger.Inv k) : (declineTimeout h w s).ledger.Inv k :=
  retransmitOrSolicit_ledger h w s (by norm_num [DHCPv6_DEC_TIMEOUT]) le_rfl hi

theorem requestStart_ledger (hi : s.ledger.Inv k) : (requestStart h w s).ledger.Inv k :=
  requestTimeout_ledger h w _ (by simpa using hi.clearTries)

theorem unboundStart_ledger (hk : k → KernelOk w) (hi : s.ledger.Inv k) :
    (unboundStart w s).ledger.Inv k :=
  solicitStart_ledger w _ (by simpa using removeAddress_ledger w (s.setState .unbound).cancelPendingEvents hk hi)

theorem declineStart_ledger (hk : k → KernelOk w) (hi : s.ledger.Inv k) :
    (declineStart h w s).ledger.Inv k :=
  declineTimeout_ledger h w _ (by simpa using (removeAddress_ledger w (s.setState .decline) hk hi).clearTries)

theorem confirmStart_ledger (hi : s.ledger.Inv k) : (confirmStart w s).ledger.Inv k := by
  simpa [confirmStart] using hi.clearTries

theorem informCompleteStart_ledger (hi : s.ledger.Inv k) : (informCompleteStart s).ledger.Inv k := by
  simpa [informCompleteStart] using hi

/-! ## Bound -/

theorem handleAddressChanged_ledger (hk : k → KernelOk w) (addrs : List AddrInfo) (hi : s.ledger.Inv k) :
    (handleAddressChanged h w addrs s).ledger.Inv k := by
  unfold handleAddressChanged
  split_ifs
  · exact hi
  split
  · exact hi
  dsimp only
  split_ifs
  · exact declineStart_ledger h w s hk hi
  · exact hi
  · simpa using hi
  · exact unboundStart_ledger w _ hk (by simpa using hi)
  · simpa using hi

/-- Bound's calls, when the kernel does them: the old address off when it is another, the
new one on; then the new one, if specified, is the only specified address on the
interface. -/
theorem installed_boundCommit {calls : List Effect} {old a b : In6Addr} {n vl pl : Nat}
    (hheld : ∀ b, b ≠ 0 → (installed b calls = true ↔ b = old)) (hb : b ≠ 0) :
    installed b (calls ++ (if (old != 0 && old != a) = true then [.difaddr old true] else []) ++
      [.aifaddr a n vl pl true]) = true ↔ b = a := by
  rw [installed_append_singleton]
  by_cases hba : a = b
  · simp [Effect.apply, hba]
  simp only [Effect.apply, hba, and_false, if_false, Ne.symm hba, iff_false]
  have hh := hheld b hb
  split_ifs with hd
  · simp only [Bool.and_eq_true, bne_iff_ne, ne_eq] at hd
    by_cases hbo : old = b
    · simp [Effect.apply, hbo]
    · simpa [Effect.apply, hbo, Ne.symm hbo] using hh
  · simp only [Bool.and_eq_true, bne_iff_ne, ne_eq, not_and, not_not] at hd
    simp only [List.append_nil]
    intro hi
    have hbo := hh.mp hi
    subst hbo
    exact hba (hd hb).symm

/-- The ledger after Bound's calls of the kernel. -/
theorem ledger_boundCommit_calls (a : In6Addr) (n vl pl : Nat) :
    ((if (s.ourIp != 0 && s.ourIp != a) = true then s.emit (.difaddr s.ourIp w.difaddrOk) else s).emit
      (.aifaddr a n vl pl w.aifaddrOk)).ledger =
    ⟨s.ourIp, s.ledger.addrCalls ++
      (if (s.ourIp != 0 && s.ourIp != a) = true then [.difaddr s.ourIp w.difaddrOk] else []) ++
      [.aifaddr a n vl pl w.aifaddrOk], s.tries, s.retransmitTime⟩ := by
  split_ifs <;> simp only [Client.ledger_emit, Effect.isAddrCall, if_true, List.append_nil] <;> rfl

theorem boundCommit_ledger (hk : k → KernelOk w) {a : In6Addr} {vl pl : Nat} {t : ℚ}
    (hl : 1 ≤ vl ∧ pl ≤ vl) (hi : s.ledger.Inv k) : (boundCommit h w a vl pl t s).ledger.Inv k := by
  have hnew : Ledger.Inv k ⟨a, s.ledger.addrCalls ++
      (if (s.ourIp != 0 && s.ourIp != a) = true then [.difaddr s.ourIp w.difaddrOk] else []) ++
      [.aifaddr a (getPrefixLength w) vl pl w.aifaddrOk], s.tries, s.retransmitTime⟩ := by
    refine ⟨fun e he => ?_, fun hko b hb => ?_, hi.retransmit⟩
    · simp only [List.mem_append, List.mem_singleton] at he
      rcases he with (he | he) | rfl
      · exact hi.lifetimes e he
      · split_ifs at he <;> simp_all [Effect.LifetimesOk]
      · exact hl
    · rw [(hk hko).2.1, (hk hko).2.2]
      exact installed_boundCommit (hi.held hko) hb
  simp only [boundCommit]
  generalize hx : (if (s.ourIp != 0 && s.ourIp != a) = true then
    s.emit (.difaddr s.ourIp w.difaddrOk) else s) = x
  have hy := ledger_boundCommit_calls w s a (getPrefixLength w) vl pl
  rw [hx] at hy
  split_ifs with hsock haif hsame hinf
  · exact hi
  · rw [hy]
    exact ⟨hnew.lifetimes, fun hko => absurd (hk hko).2.2 (by simpa using haif), hi.retransmit⟩
  · obtain rfl : s.ourIp = a := by simp at hsame; exact hsame.2
    rw [Client.ledger_cancelPendingEvents, Client.ledger_postNotification, hy]
    exact hnew
  · obtain rfl : s.ourIp = a := by simp at hsame; exact hsame.2
    rw [Client.ledger_setRenewTimer, Client.ledger_cancelPendingEvents, Client.ledger_postNotification, hy]
    exact hnew
  · refine handleAddressChanged_ledger h w _ hk _ ?_
    rw [Client.ledger_with_ourIp, hy]
    exact hnew

/-- Bound's entry on a normalized lease keeps the ledger invariant: the lifetimes it gives
the kernel are those of `boundEnter_residuals`, or the lease's own when infinite. -/
theorem boundEnter_ledger (hk : k → KernelOk w) {a : In6Addr} (hn : s.lease.Normalized)
    (hi : s.ledger.Inv k) : (boundEnter h w a s).ledger.Inv k := by
  have hv := hn.valid_pos
  have hpv := hn.preferred_le_valid
  simp only [boundEnter, Client.setState, Client.cancelPendingEvents]
  split_ifs with hinf hst hexp
  · exact boundCommit_ledger h w _ hk ⟨hv, hpv⟩ hi
  · exact unboundStart_ledger w _ hk hi
  · exact unboundStart_ledger w _ hk hi
  all_goals exact boundCommit_ledger h w _ hk ⟨by omega, by omega⟩ hi

theorem boundStart_ledger (hk : k → KernelOk w) {s' : Client} (hn : s.lease.Normalized)
    (hi : s.ledger.Inv k) (he : boundStart h w s = some s') : s'.ledger.Inv k := by
  obtain ⟨a, -, rfl⟩ := Option.map_eq_some'.mp he
  exact boundEnter_ledger h w s hk hn hi

/-! ## Renew and Rebind -/

theorem renewRebindTimeout_ledger (hk : k → KernelOk w) (hi : s.ledger.Inv k) :
    (renewRebindTimeout h w s).ledger.Inv k := by
  have hl : (s.leaseStillValid w.now).ledger.Inv k := by simpa using hi
  simp only [renewRebindTimeout]
  generalize s.leaseStillValid w.now = r at hl ⊢
  have hren := nextRetransmit_ledger w r (by norm_num [DHCPv6_REN_TIMEOUT] : (0 : ℚ) < DHCPv6_REN_TIMEOUT)
    (by norm_num [DHCPv6_REN_MAX_RT] : (0 : ℚ) ≤ DHCPv6_REN_MAX_RT) hl
  split_ifs
  · exact unboundStart_ledger w r hk hl
  · simpa using hren
  · simpa using nextRetransmit_ledger w ({ r.newTransactionId w with startTime := w.now }.setState
      .rebind).clearRetransmit (by norm_num [DHCPv6_REB_TIMEOUT] : (0 : ℚ) < DHCPv6_REB_TIMEOUT)
      (by norm_num [DHCPv6_REB_MAX_RT] : (0 : ℚ) ≤ DHCPv6_REB_MAX_RT) (by simpa using hl.clearTries)
  · simpa using nextRetransmit_ledger w r (by norm_num [DHCPv6_REB_TIMEOUT] : (0 : ℚ) < DHCPv6_REB_TIMEOUT)
      (by norm_num [DHCPv6_REB_MAX_RT] : (0 : ℚ) ≤ DHCPv6_REB_MAX_RT) hl

theorem renewRebindStart_ledger (hk : k → KernelOk w) (hi : s.ledger.Inv k) :
    (renewRebindStart h w s).ledger.Inv k :=
  renewRebindTimeout_ledger h w _ hk (by simpa using hi.clearTries)

/-! ## Timeouts of Solicit, Confirm and Inform -/

theorem linkCheckedTimeout_ledger (hk : k → KernelOk w) {transmit : Client → Client}
    (htr : ∀ s : Client, s.ledger.Inv k → (transmit s).ledger.Inv k) (hi : s.ledger.Inv k) :
    (linkCheckedTimeout w transmit s).ledger.Inv k := by
  unfold linkCheckedTimeout
  split_ifs
  · exact htr _ (by simpa using hi)
  · exact inactive_ledger w s hk hi
  · exact htr s hi

theorem solicitTransmit_ledger (hi : s.ledger.Inv k) : (solicitTransmit h w s).ledger.Inv k := by
  have hn := nextRetransmit_ledger w s (by norm_num [DHCPv6_SOL_TIMEOUT] : (0 : ℚ) < DHCPv6_SOL_TIMEOUT)
    (by norm_num [DHCPv6_SOL_MAX_RT] : (0 : ℚ) ≤ DHCPv6_SOL_MAX_RT) hi
  simp only [solicitTransmit]
  split_ifs
  · exact requestStart_ledger h w s hi
  all_goals simpa using hn

theorem solicitTimeout_ledger (hk : k → KernelOk w) (hi : s.ledger.Inv k) :
    (solicitTimeout h w s).ledger.Inv k :=
  linkCheckedTimeout_ledger w s hk (fun _ => solicitTransmit_ledger h w _) hi

theorem confirmTransmit_ledger (hi : s.ledger.Inv k) : (confirmTransmit h w s).ledger.Inv k := by
  simpa [confirmTransmit] using nextRetransmit_ledger w s
    (by norm_num [DHCPv6_CNF_TIMEOUT] : (0 : ℚ) < DHCPv6_CNF_TIMEOUT)
    (by norm_num [DHCPv6_CNF_MAX_RT] : (0 : ℚ) ≤ DHCPv6_CNF_MAX_RT) hi

/-- A valid lease of a client keeping the invariant is normalized. -/
theorem Core.Inv.normalized {c : Core} (hi : c.Inv) (hv : c.lease.valid = true) : c.lease.Normalized := by
  obtain ⟨p, -, hp⟩ := hi.savedOk.2.2.2 hv
  exact normalized_of_leaseTimesOf hp

theorem confirmTimeout_ledger (hk : k → KernelOk w) {s' : Client} (hc : s.core.Inv) (hi : s.ledger.Inv k)
    (he : confirmTimeout h w s = some s') : s'.ledger.Inv k := by
  have hl : (s.leaseStillValid w.now).ledger.Inv k := by simpa using hi
  have hcl := leaseStillValid_inv s w.now hc
  simp only [confirmTimeout] at he
  split_ifs at he with h0 hlink hrd hv
  · cases he; exact confirmTransmit_ledger h w _ (by simpa using hi)
  · cases he; exact inactive_ledger w s hk hi
  · cases he; exact confirmTransmit_ledger h w s hi
  · exact boundStart_ledger h w _ hk (hcl.normalized hv) hl he
  · cases he; exact solicitStart_ledger w _ hl

theorem informTransmit_ledger (hi : s.ledger.Inv k) : (informTransmit h w s).ledger.Inv k := by
  simpa [informTransmit] using nextRetransmit_ledger w s
    (by norm_num [DHCPv6_INF_TIMEOUT] : (0 : ℚ) < DHCPv6_INF_TIMEOUT)
    (by norm_num [DHCPv6_INF_MAX_RT] : (0 : ℚ) ≤ DHCPv6_INF_MAX_RT) hi

theorem informTimeout_ledger (hk : k → KernelOk w) (hi : s.ledger.Inv k) :
    (informTimeout h w s).ledger.Inv k :=
  linkCheckedTimeout_ledger w s hk (fun _ => informTransmit_ledger h w _) hi

theorem informStart_ledger (hk : k → KernelOk w) (hi : s.ledger.Inv k) : (informStart h w s).ledger.Inv k := by
  have hc : ((((s.setState .inform).clearPacket.clearRetransmit).newTransactionId w).enableReceive
      .inform).ledger.Inv k := by simpa using hi.clearTries
  simp only [informStart]
  split_ifs
  · simpa using hc
  · exact informTimeout_ledger h w _ hk hc

/-! ## Receiving -/

theorem solicitData_ledger (p : DHCPv6Packet) (hi : s.ledger.Inv k) : (solicitData h w p s).ledger.Inv k := by
  obtain ⟨d, hd⟩ := solicitData_eq h w s p
  rw [hd]
  split_ifs
  · exact requestStart_ledger h w _ (by simpa using hi)
  all_goals simpa using hi

theorem requestData_ledger (hk : k → KernelOk w) {p : DHCPv6Packet} {s' : Client} (hi : s.ledger.Inv k)
    (he : requestData h w p s = some s') : s'.ledger.Inv k := by
  obtain ⟨d, hd⟩ := Client.afterMatch_eq w s kDHCPv6MessageREPLY p
  have ha : { s with duid := d }.ledger.Inv k := hi
  simp only [requestData, hd] at he
  split at he
  · cases he; exact ha
  split at he
  · cases he; exact ha
  split at he
  · cases he; exact ha
  split at he
  · cases he; exact solicitStart_ledger w _ ha
  split at he
  · cases he; exact ha
  · exact boundStart_ledger h w _ hk (savePacket_normalized w _ ‹_›) (by simpa using ha) he

theorem renewRebindData_ledger (hk : k → KernelOk w) {p : DHCPv6Packet} {s' : Client}
    (hi : s.ledger.Inv k) (he : renewRebindData h w p s = some s') : s'.ledger.Inv k := by
  obtain ⟨d, hd⟩ := Client.afterMatch_eq w s kDHCPv6MessageREPLY p
  have ha : { s with duid := d }.ledger.Inv k := hi
  simp only [renewRebindData, hd] at he
  split at he
  · cases he; exact ha
  split at he
  · cases he; exact ha
  split at he
  · cases he; exact unboundStart_ledger w _ hk ha
  split at he
  · cases he; exact unboundStart_ledger w _ hk ha
  · exact boundStart_ledger h w _ hk (savePacket_normalized w _ ‹_›) (by simpa using ha) he

theorem confirmData_ledger (hk : k → KernelOk w) {p : DHCPv6Packet} {s' : Client} (hc : s.core.Inv)
    (hcs : s.cstate = .confirm) (hi : s.ledger.Inv k) (he : confirmData h w p s = some s') :
    s'.ledger.Inv k := by
  obtain ⟨d, hd⟩ := Client.afterMatch_eq w s kDHCPv6MessageREPLY p
  have ha : { s with duid := d }.ledger.Inv k := hi
  simp only [confirmData, hd] at he
  split at he
  · cases he; exact ha
  split at he
  · cases he; exact ha
  split at he
  · cases he; exact unboundStart_ledger w _ hk ha
  · obtain ⟨a, hia, -⟩ := Option.map_eq_some'.mp he
    obtain ⟨q, -, hq⟩ := hc.leaseReady_of_confirm hcs (by simp [show s.iaAddr = some a from hia])
    exact boundStart_ledger h w { s with duid := d } hk (normalized_of_leaseTimesOf hq) ha he

theorem declineData_ledger (p : DHCPv6Packet) (hi : s.ledger.Inv k) : (declineData h w p s).ledger.Inv k := by
  obtain ⟨d, hd⟩ := Client.afterMatch_eq w s kDHCPv6MessageREPLY p
  simp only [declineData, hd]
  split_ifs
  · exact hi
  · exact solicitStart_ledger w _ hi

theorem informData_ledger (p : DHCPv6Packet) (hi : s.ledger.Inv k) : (informData h w p s).ledger.Inv k := by
  obtain ⟨d, hd⟩ := Client.afterMatch_eq w s kDHCPv6MessageREPLY p
  simp only [informData, hd]
  split_ifs
  · exact hi
  · exact informCompleteStart_ledger _ (by simpa using hi)

theorem runReceive_ledger (hk : k → KernelOk w) {f : Handler} {p : DHCPv6Packet} {s' : Client}
    (hc : s.core.Inv) (hr : s.receive = some f) (hi : s.ledger.Inv k) (he : runReceive h w f p s = some s') :
    s'.ledger.Inv k := by
  have hcs : s.cstate ∈ f.states := by simpa [Core.ReceiveOk, hr] using hc.receive
  cases f <;> simp only [runReceive] at he
  · cases he; exact solicitData_ledger h w s p hi
  · exact requestData_ledger h w s hk hi he
  · exact renewRebindData_ledger h w s hk hi he
  · exact confirmData_ledger h w s hk hc (by simpa [Handler.states] using hcs) hi he
  · cases he; exact declineData_ledger h w s p hi
  · cases he; exact informData_ledger h w s p hi

/-! ## Events and operations -/

theorem handleWake_ledger (hk : k → KernelOk w) (ev : LinkEventData) (hi : s.ledger.Inv k) :
    (handleWake h w ev s).ledger.Inv k := by
  have hr := removeAddress_ledger w s hk hi
  have hl : (s.leaseStillValid w.now).ledger.Inv k := by simpa using hi
  simp only [handleWake]
  generalize s.removeAddress w = r at hr ⊢
  generalize s.leaseStillValid w.now = l at hl ⊢
  split_ifs
  · exact hr
  · exact solicitStart_ledger w r hr
  · exact hr
  · exact unboundStart_ledger w l hk hl
  · exact hl
  · exact confirmStart_ledger w l hl
  · exact hl
  · simpa using hl
  · exact renewRebindStart_ledger h w l hk hl

theorem confirmIfBound_ledger (hi : s.ledger.Inv k) : (confirmIfBound w s).ledger.Inv k := by
  have hl : (s.leaseStillValid w.now).ledger.Inv k := by simpa using hi
  simp only [confirmIfBound]
  split_ifs
  · exact confirmStart_ledger w _ hl
  · exact hl

theorem handleEvent_ledger (hk : k → KernelOk w) (e : IFEvent) (hi : s.ledger.Inv k) :
    (handleEvent h w e s).ledger.Inv k := by
  unfold handleEvent
  split_ifs
  · exact hi
  split
  · exact handleAddressChanged_ledger h w s hk _ hi
  · exact handleWake_ledger h w s hk _ hi
  · split_ifs
    · exact confirmIfBound_ledger w s hi
    · exact hi
  · split_ifs
    · exact confirmIfBound_ledger w s hi
    · exact hi
  · exact confirmIfBound_ledger w s hi
  · exact hi

theorem start_ledger (hk : k → KernelOk w) (allocateAddress privacyRequired : Bool) (hi : s.ledger.Inv k) :
    (start h w allocateAddress privacyRequired s).ledger.Inv k := by
  simp only [start]
  split_ifs
  · exact confirmStart_ledger w _ (by simpa using hi)
  · exact solicitStart_ledger w _ (by simpa using removeAddress_ledger w _ hk (by simpa using hi))
  · exact informStart_ledger h w _ hk (by simpa using removeAddress_ledger w _ hk (by simpa using hi))

theorem stop_ledger (hk : k → KernelOk w) (discardInformation : Bool) (hi : s.ledger.Inv k) :
    (stop w discardInformation s).ledger.Inv k := by
  have hr := removeAddress_ledger w s hk hi
  simp only [stop]
  generalize s.removeAddress w = r at hr ⊢
  split_ifs <;> simpa [Client.setState] using hr

/-- The armed timer runs a handler, which keeps the ledger invariant. -/
theorem runTimer_ledger (hk : k → KernelOk w) {t : TimerCallout} {s' : Client} (hc : s.core.Inv)
    (hi : s.ledger.Inv k) (he : runTimer h w t { s with timer := none } = some s') : s'.ledger.Inv k := by
  have hi₀ : { s with timer := none }.ledger.Inv k := hi
  obtain ⟨f, ev, d⟩ := t
  cases f <;> cases ev <;> simp only [runTimer, Option.some.injEq] at he
  · subst he; exact solicitStart_ledger w _ hi₀
  · subst he; exact solicitTimeout_ledger h w _ hk hi₀
  · subst he; exact requestStart_ledger h w _ hi₀
  · subst he; exact requestTimeout_ledger h w _ hi₀
  · subst he; exact renewRebindStart_ledger h w _ hk hi₀
  · subst he; exact renewRebindTimeout_ledger h w _ hk hi₀
  · subst he; exact confirmStart_ledger w _ hi₀
  · exact confirmTimeout_ledger h w _ hk hc.clearTimer hi₀ he
  · subst he; exact declineStart_ledger h w _ hk hi₀
  · subst he; exact declineTimeout_ledger h w _ hi₀
  · subst he; exact informStart_ledger h w _ hk hi₀
  · subst he; exact informTimeout_ledger h w _ hk hi₀

/-- Every step keeps the ledger invariant; the address bookkeeping when the kernel does
what it is asked. -/
theorem step_ledger (hk : k → KernelOk w) {e : Event} {s' : Client} (hc : s.core.Inv) (hi : s.ledger.Inv k)
    (he : step h w e s = some s') : s'.ledger.Inv k := by
  cases e with
  | start a p => cases he; exact start_ledger h w s hk a p hi
  | stop d => cases he; exact stop_ledger w s hk d hi
  | timerFires =>
    simp only [step] at he
    split at he
    · exact runTimer_ledger h w s hk hc hi he
    · cases he; exact hi
  | receive p =>
    simp only [step] at he
    split at he
    · exact runReceive_ledger h w s hk hc ‹_› hi he
    · cases he; exact hi
  | handleEvent e => cases he; exact handleEvent_ledger h w s hk e hi
  | setRequestedOptions l => cases he; simpa [setRequestedOptions] using hi

end

theorem create_ledger (k : Prop) : create.ledger.Inv k :=
  ⟨by simp [create, Client.ledger], fun _ a ha => by simpa [create, Client.ledger, installed] using ha,
    fun h0 => absurd rfl h0⟩

/-- Every reachable client keeps the ledger invariant, the address bookkeeping apart. -/
theorem Reachable.ledger {h : Host} {s : Client} (hr : Reachable h s) : s.ledger.Inv False := by
  induction hr with
  | create => exact create_ledger False
  | step w _ hr he ih => exact step_ledger h w _ False.elim (hr.inv h) ih he

/-- A run from a reachable client in which the kernel does what it is asked keeps the
whole ledger invariant. -/
theorem run_ledger (h : Host) {es : List (World × Event)} {s s' : Client} (hr : Reachable h s)
    (hi : s.ledger.Inv True) (hk : ∀ we ∈ es, KernelOk we.1) (he : run h es s = some s') :
    s'.ledger.Inv True := by
  induction es generalizing s with
  | nil => cases he; exact hi
  | cons we es ih =>
    obtain ⟨s₁, h₁, h₂⟩ := Option.bind_eq_some.mp he
    exact ih (.step we.1 we.2 hr h₁)
      (step_ledger h we.1 s (fun _ => hk we (List.mem_cons_self _ _)) (hr.inv h) hi h₁)
      (fun we' hwe' => hk we' (List.mem_cons_of_mem _ hwe')) h₂

/-! ## The addresses of a run -/

theorem Effect.apply_of_not_isAddrCall {e : Effect} (he : e.isAddrCall = false) (a : In6Addr)
    (held : Bool) : e.apply a held = held := by
  cases e <;> simp_all [Effect.isAddrCall, Effect.apply]

/-- The calls of the address primitives alone decide what is on the interface. -/
theorem installed_filter (a : In6Addr) (calls : List Effect) :
    installed a (calls.filter Effect.isAddrCall) = installed a calls := by
  induction calls using List.reverseRecOn with
  | nil => rfl
  | append_singleton calls e ih =>
    cases he : e.isAddrCall
    · simp [List.filter_append, he, ih, Effect.apply_of_not_isAddrCall]
    · simp [List.filter_append, he, ih]

/-- A specified address is reported by `DHCPv6ClientCopyAddresses` exactly when it is
`our_ip`. -/
theorem mem_copyAddresses_iff {a : In6Addr} (ha : a ≠ 0) (s : Client) :
    a ∈ (copyAddresses s).map AddrInfo.addr ↔ a = s.ourIp := by
  unfold copyAddresses
  split_ifs with h0
  · simp only [List.map_nil, List.not_mem_nil, false_iff, h0]
    exact ha
  · simp

/-- In every run from `create` in which the kernel does what it is asked, a specified
address has been put on the interface by the client and not taken off exactly when it is
`our_ip`, the one address `DHCPv6ClientCopyAddresses` reports. -/
theorem run_installed_iff_ourIp (h : Host) (es : List (World × Event)) {s : Client}
    (hk : ∀ we ∈ es, KernelOk we.1) (he : run h es create = some s) (a : In6Addr) (ha : a ≠ 0) :
    (installed a s.out = true ↔ a = s.ourIp) ∧
      (installed a s.out = true ↔ a ∈ (copyAddresses s).map AddrInfo.addr) := by
  have hi := (run_ledger h .create (create_ledger True) hk he).held trivial a ha
  rw [Client.ledger, installed_filter] at hi
  exact ⟨hi, hi.trans (mem_copyAddresses_iff ha s).symm⟩

theorem infiniteBound_installed :
    (installed (iaAddrGetAddress exampleAddress) infiniteBound.out = true ↔
        iaAddrGetAddress exampleAddress = infiniteBound.ourIp) ∧
      (installed (iaAddrGetAddress exampleAddress) infiniteBound.out = true ↔
        iaAddrGetAddress exampleAddress ∈ (copyAddresses infiniteBound).map AddrInfo.addr) :=
  run_installed_iff_ourIp exampleHost (exampleBind DHCP_INFINITE_LEASE DHCP_INFINITE_LEASE) (by decide)
    (by with_unfolding_all rfl) _ (by decide)

/-- `exampleBind` with a server that offers `::` in place of `2001:db8::1`. -/
def unspecifiedBind : List (World × Event) :=
  let iaNa := hton 4 1 ++ hton 4 0 ++ hton 4 0 ++ hton 2 kDHCPv6OPTION_IAADDR ++
    hton 2 DHCPv6OptionIAADDR_MIN_LENGTH ++ List.replicate 16 0 ++ hton 4 600 ++ hton 4 900
  let message (msgType : Nat) (more : List DHCPv6Option) : DHCPv6Packet :=
    ⟨msgType, 0, [⟨kDHCPv6OPTION_CLIENTID, [0, 1]⟩, ⟨kDHCPv6OPTION_SERVERID, [0, 9]⟩,
      ⟨kDHCPv6OPTION_IA_NA, iaNa⟩] ++ more⟩
  [(exampleWorld 0, .start true false), (exampleWorld 0, .timerFires),
   (exampleWorld 0, .receive (message kDHCPv6MessageADVERTISE [⟨kDHCPv6OPTION_PREFERENCE, [255]⟩])),
   (exampleWorld 0, .receive (message kDHCPv6MessageREPLY []))]

/-- Bound on `::`: the client adds it to the interface and keeps it there, with `our_ip`
unspecified and `DHCPv6ClientCopyAddresses` reporting no address. -/
theorem unspecifiedBind_installs_unspecified :
    (∀ we ∈ unspecifiedBind, KernelOk we.1) ∧
    (run exampleHost unspecifiedBind create).map
        (fun s => (s.cstate, s.ourIp, installed 0 s.out, copyAddresses s)) =
      some (.bound, 0, true, []) := by
  constructor <;> with_unfolding_all decide

/-! ## The lifetimes given to the kernel -/

/-- Every `inet6_aifaddr` a reachable client has made was given a valid lifetime of at
least a second, not below the preferred lifetime. -/
theorem Reachable.lifetimesOk {h : Host} {s : Client} (hr : Reachable h s) :
    ∀ e ∈ s.out, e.LifetimesOk := by
  intro e he
  cases hc : e.isAddrCall
  · cases e <;> simp_all [Effect.isAddrCall, Effect.LifetimesOk]
  · exact hr.ledger.lifetimes e (List.mem_filter.mpr ⟨he, hc⟩)

/-- `DHCPv6ClientSavePacket` records a normalized lease from every packet with a usable
IA_NA; Bound's entry on a normalized, finite lease that has not run out hands
`inet6_aifaddr` residual lifetimes that do not wrap, the valid one at least a second and not
below the preferred one; and every `inet6_aifaddr` of a reachable client was so. -/
theorem savePacket_normalized_bound_lifetimes :
    (∀ (w : World) (s : Client) (p : DHCPv6Packet), (getIaNaAddrCode p.options).iaNa ≠ none →
      (s.savePacket w p).lease.Normalized) ∧
    (∀ (h : Host) (w : World) (a : In6Addr) (s : Client), s.lease.Normalized →
      s.lease.validLifetime ≠ DHCP_INFINITE_LEASE → s.lease.start ≤ w.now →
      toUInt32 (w.now - s.lease.start) < s.lease.validLifetime →
      (∃ s₁, boundEnter h w a s =
        boundCommit h w a (u32Sub s.lease.validLifetime (toUInt32 (w.now - s.lease.start)))
          (if toUInt32 (w.now - s.lease.start) < s.lease.preferredLifetime then
            u32Sub s.lease.preferredLifetime (toUInt32 (w.now - s.lease.start)) else 0)
          (w.now - s.lease.start) s₁) ∧
      u32Sub s.lease.validLifetime (toUInt32 (w.now - s.lease.start)) =
        s.lease.validLifetime - toUInt32 (w.now - s.lease.start) ∧
      (toUInt32 (w.now - s.lease.start) < s.lease.preferredLifetime →
        u32Sub s.lease.preferredLifetime (toUInt32 (w.now - s.lease.start)) =
          s.lease.preferredLifetime - toUInt32 (w.now - s.lease.start)) ∧
      1 ≤ u32Sub s.lease.validLifetime (toUInt32 (w.now - s.lease.start)) ∧
      (if toUInt32 (w.now - s.lease.start) < s.lease.preferredLifetime then
          u32Sub s.lease.preferredLifetime (toUInt32 (w.now - s.lease.start)) else 0) ≤
        u32Sub s.lease.validLifetime (toUInt32 (w.now - s.lease.start))) ∧
    (∀ (h : Host) (s : Client), Reachable h s → ∀ e ∈ s.out, e.LifetimesOk) := by
  refine ⟨savePacket_normalized, fun h w a s hn hf hs hu => ?_, fun _ _ hr => hr.lifetimesOk⟩
  obtain ⟨s₁, he, h1, hpv⟩ := boundEnter_residuals h w a s hn hf hs hu
  exact ⟨⟨s₁, he⟩, u32Sub_eq_sub hu.le hn.valid_le,
    fun hp => u32Sub_eq_sub hp.le (hn.preferred_le_valid.trans hn.valid_le), h1, hpv⟩

theorem exampleReply_bound_lifetimes :
    (create.savePacket (exampleWorld 0) (exampleMessage kDHCPv6MessageREPLY 100 200 [])).lease.Normalized ∧
    u32Sub 200 (toUInt32 (0 - 0)) = 200 - toUInt32 (0 - 0) ∧
    ∀ e ∈ infiniteBound.out, e.LifetimesOk :=
  ⟨savePacket_normalized_bound_lifetimes.1 _ _ _ (by decide),
    (savePacket_normalized_bound_lifetimes.2.1 exampleHost (exampleWorld 0) 0
      (create.savePacket (exampleWorld 0) (exampleMessage kDHCPv6MessageREPLY 100 200 []))
      (savePacket_normalized_bound_lifetimes.1 _ _ _ (by decide)) (by decide) (by decide)
      (show toUInt32 (0 - 0) < 200 by simp [toUInt32])).2.1,
    savePacket_normalized_bound_lifetimes.2.2 _ _ infiniteBound_reachable⟩

end DHCPv6Client
