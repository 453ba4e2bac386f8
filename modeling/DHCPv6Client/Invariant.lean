import DHCPv6Client.Core

/-!
# The invariant of the client

`Core.Inv` holds of every reachable client (`Reachable.inv`). Its parts:

* the references into the saved packet are the ones `DHCPv6ClientSavePacket` takes from
  it, none without a packet, and a valid lease has the times of the saved packet;
* the armed timer and the receive handler, when there are any, belong to the state (a
  Bound client may have the Renew timer armed);
* the mode fixes the states: Idle is Inactive with nothing armed, Stateless is Inform or
  InformComplete with no address and no valid lease, Stateful is one of the seven
  stateful states (never Unbound or Release, which are left at once);
* an infinite valid lease is never in Renew or Rebind and has no renewal timer armed;
* a Solicit past its first retransmission has nothing saved, and a Confirm has a valid
  lease or nothing saved.

The last two parts exist to make the rest inductive: they are what lets an ADVERTISE be
taken at once after the first retransmission, and what makes a Confirm reply reach Bound
with a lease to commit. Each handler keeps the invariant (`solicitTimeout_inv`, …), and so
does each step (`step_inv`).
-/

namespace DHCPv6Client

/-- The state function each state installs as its timer and receive handler. -/
def stateHandler : ClientState → Option Handler
  | .solicit => some .solicit
  | .request => some .request
  | .renew | .rebind => some .renewRebind
  | .confirm => some .confirm
  | .decline => some .decline
  | .inform => some .inform
  | _ => none

/-- A timer belongs to the state: its own, or the renewal timer of Bound. -/
def timerAgrees (c : ClientState) (t : TimerCallout) : Bool :=
  stateHandler c == some t.func || (c == .bound && t.func == .renewRebind)

/-- The states of a stateful client. -/
def statefulStates : List ClientState := [.solicit, .request, .bound, .renew, .rebind, .confirm, .decline]

/-- What the mode says of the rest. -/
def Core.ModeOk (c : Core) : Prop :=
  match c.mode with
  | .idle => c.cstate = .inactive ∧ c.timer = none ∧ c.receive = none
  | .stateless => (c.cstate = .inform ∨ c.cstate = .informComplete) ∧ c.ourIp = 0 ∧
      c.lease.valid = false
  | .stateful => c.cstate ∈ statefulStates

/-- The lease has the times of the saved packet. -/
def Core.LeaseReady (c : Core) : Prop :=
  ∃ p, c.saved = some p ∧ leaseTimesOf p = some c.lease.times

/-- The part of the invariant about the saved packet and the lease: every entry into a
state carries it over. -/
def Core.SavedOk (c : Core) : Prop :=
  c.serverId = c.saved.bind (fun p => getOption p.options kDHCPv6OPTION_SERVERID) ∧
  c.iaNa = c.saved.bind (fun p => (getIaNaAddrCode p.options).iaNa) ∧
  c.iaAddr = c.saved.bind (fun p => (getIaNaAddrCode p.options).iaAddr) ∧
  (c.lease.valid = true → c.LeaseReady)

/-- The receive handler, if any, is the state's. -/
def Core.ReceiveOk (c : Core) : Prop :=
  c.receive.all (fun f => stateHandler c.cstate == some f) = true

/-- The invariant. -/
structure Core.Inv (c : Core) : Prop where
  savedOk : c.SavedOk
  receive : c.ReceiveOk
  timer : c.timer.all (timerAgrees c.cstate) = true
  mode : c.ModeOk
  infinite : c.lease.valid = true → c.lease.validLifetime = DHCP_INFINITE_LEASE →
    c.cstate ≠ .renew ∧ c.cstate ≠ .rebind ∧ c.timer.all (·.func != .renewRebind) = true
  solicit : c.cstate = .solicit → 2 ≤ c.tries → c.saved = none
  confirm : c.cstate = .confirm → c.lease.valid = true ∨ c.saved = none

/-- The states whose handler a state function is. -/
def Handler.states : Handler → List ClientState
  | .solicit => [.solicit]
  | .request => [.request]
  | .renewRebind => [.renew, .rebind]
  | .confirm => [.confirm]
  | .decline => [.decline]
  | .inform => [.inform]

@[simp] theorem stateHandler_eq_some {c : ClientState} {f : Handler} :
    stateHandler c = some f ↔ c ∈ f.states := by
  cases c <;> cases f <;> simp [stateHandler, Handler.states]

/-! ## What keeps the invariant whatever the state -/

namespace Core.Inv

variable {c : Core}

theorem cancel (hi : c.Inv) : { c with receive := none, timer := none }.Inv := by
  obtain ⟨hs, -, -, hm, hinf, hsol, hcf⟩ := hi
  refine ⟨hs, rfl, rfl, ?_, fun hv hl => ⟨(hinf hv hl).1, (hinf hv hl).2.1, rfl⟩, hsol, hcf⟩
  cases hmo : c.mode <;> simp_all [Core.ModeOk]

theorem clearTimer (hi : c.Inv) : { c with timer := none }.Inv := by
  obtain ⟨hs, hr, -, hm, hinf, hsol, hcf⟩ := hi
  refine ⟨hs, hr, rfl, ?_, by simp_all, hsol, hcf⟩
  cases hmo : c.mode <;> simp_all [Core.ModeOk]

theorem setOurIp (hi : c.Inv) (hm : c.mode ≠ .stateless) (a : In6Addr) : { c with ourIp := a }.Inv := by
  obtain ⟨hs, hr, ht, hmo, hinf, hsol, hcf⟩ := hi
  refine ⟨hs, hr, ht, ?_, hinf, hsol, hcf⟩
  cases hmo' : c.mode <;> simp_all [Core.ModeOk]

theorem clearOurIp (hi : c.Inv) : { c with ourIp := 0 }.Inv := by
  by_cases hm : c.mode = .stateless
  · have := hi.mode; simp only [Core.ModeOk, hm] at this
    exact (show { c with ourIp := 0 } = c by rw [← this.2.1]) ▸ hi
  · exact hi.setOurIp hm 0

/-- Dropping the saved packet with its references and the lease. -/
theorem clearPacket (hi : c.Inv) :
    { c with saved := none, savedVerified := false, serverId := none, iaNa := none, iaAddr := none,
             lease := {} }.Inv := by
  obtain ⟨-, hr, ht, hm, -, -, -⟩ := hi
  refine ⟨by simp [Core.SavedOk], hr, ht, ?_, by simp, by simp, by simp⟩
  cases hmo : c.mode <;> simp_all [Core.ModeOk]

end Core.Inv

variable (h : Host) (w : World) (s : Client)

theorem leaseStillValid_inv (now : ℚ) (hi : s.core.Inv) : (s.leaseStillValid now).core.Inv := by
  rw [Client.core_leaseStillValid]
  split
  · simpa using hi.clearPacket
  · exact hi

theorem leaseStillValid_savedOk (now : ℚ) (hs : s.core.SavedOk) : (s.leaseStillValid now).core.SavedOk := by
  rw [Client.core_leaseStillValid]
  split
  · simp [Core.SavedOk]
  · exact hs

/-- A lease found still valid was left alone. -/
theorem leaseStillValid_of_valid {now : ℚ} (hv : (s.leaseStillValid now).lease.valid = true) :
    s.leaseStillValid now = s := by
  rw [Client.leaseStillValid_eq] at hv ⊢
  split at hv
  · simp [Client.clearPacket, Client.clearLease] at hv
  · simp [*]

/-! ## Entering a state -/

theorem solicitStart_inv (hm : s.core.mode = .stateful) : (solicitStart w s).core.Inv := by
  constructor <;>
    simp_all [solicitStart, Core.SavedOk, Core.ReceiveOk, stateHandler, timerAgrees, Core.ModeOk,
      statefulStates]

theorem unboundStart_inv (hm : s.core.mode = .stateful) : (unboundStart w s).core.Inv :=
  solicitStart_inv w _ (by simpa using hm)

theorem mem_statefulStates_of_isBoundRenewOrRebind {c : ClientState}
    (hc : c.isBoundRenewOrRebind = true) : c ∈ statefulStates := by
  simp only [ClientState.isBoundRenewOrRebind_eq_true] at hc
  rcases hc with rfl | rfl | rfl <;> simp [statefulStates]

/-- A client in a stateful state is in stateful mode. -/
theorem Core.Inv.mode_eq {c : Core} (hi : c.Inv) (hc : c.cstate ∈ statefulStates) :
    c.mode = .stateful := by
  have := hi.mode
  cases hm : c.mode <;> simp only [Core.ModeOk, hm] at this
  · simp [this.1, statefulStates] at hc
  · rcases this.1 with h | h <;> simp [h, statefulStates] at hc
  · rfl

/-- A client in Inform or InformComplete is in stateless mode, with no address and no
valid lease. -/
theorem Core.Inv.stateless {c : Core} (hi : c.Inv) (hc : c.cstate = .inform ∨ c.cstate = .informComplete) :
    c.mode = .stateless ∧ c.ourIp = 0 ∧ c.lease.valid = false := by
  have := hi.mode
  cases hm : c.mode <;> simp only [Core.ModeOk, hm] at this
  · rcases hc with h | h <;> simp [h] at this
  · exact ⟨rfl, this.2⟩
  · rcases hc with h | h <;> simp [h, statefulStates] at this

/-- A retransmission of the state's own message: one more try, and its timer. The
invariant of the state without its timer is enough, as the timer is replaced. -/
theorem Core.Inv.retransmit {c : Core} (hi : { c with timer := none }.Inv) {f : Handler}
    (hf : stateHandler c.cstate = some f) (hsol : c.cstate = .solicit → c.saved = none) (d : ℚ) :
    { c with tries := c.tries + 1, timer := some ⟨f, .timeout, d⟩ }.Inv := by
  obtain ⟨hs, hr, -, hm, hinf, -, hcf⟩ := hi
  simp only [stateHandler_eq_some] at hf
  refine ⟨hs, hr, by simp [timerAgrees, hf], ?_, fun hv hl => ?_, fun hc _ => hsol hc, hcf⟩
  · cases hmo : c.mode with
    | idle =>
      simp only [Core.ModeOk, hmo] at hm
      rw [hm.1] at hf
      cases f <;> simp [Handler.states] at hf
    | stateless | stateful => simpa [Core.ModeOk, hmo] using hm
  · obtain ⟨h1, h2, -⟩ := hinf hv hl
    have hf' : f ≠ .renewRebind := by
      rintro rfl
      simp only [Handler.states, List.mem_cons, List.mem_singleton, List.not_mem_nil, or_false] at hf
      exact hf.elim h1 h2
    exact ⟨h1, h2, by simpa using hf'⟩

theorem retransmitOrSolicit_inv {MRC : Nat} {IRT MRT : ℚ} {f : Handler}
    (hi : { s.core with timer := none }.Inv) (hf : stateHandler s.cstate = some f)
    (hc : f = .request ∨ f = .decline) : (retransmitOrSolicit h w MRC IRT MRT f s).core.Inv := by
  have hm : s.mode = .stateful := hi.mode_eq (by rcases hc with rfl | rfl <;> simp_all [statefulStates, Handler.states])
  unfold retransmitOrSolicit
  split_ifs
  · exact solicitStart_inv w s hm
  · rw [core_sendPacket, Client.core_setRetransmitTimer]
    exact hi.retransmit hf (fun hs => by rcases hc with rfl | rfl <;> simp_all [Handler.states]) _

theorem requestTimeout_inv (hi : { s.core with timer := none }.Inv) (hc : s.core.cstate = .request) :
    (requestTimeout h w s).core.Inv :=
  retransmitOrSolicit_inv h w s hi (by simpa [Handler.states] using hc) (.inl rfl)

theorem declineTimeout_inv (hi : { s.core with timer := none }.Inv) (hc : s.core.cstate = .decline) :
    (declineTimeout h w s).core.Inv :=
  retransmitOrSolicit_inv h w s hi (by simpa [Handler.states] using hc) (.inr rfl)

theorem requestStart_inv (hs : s.core.SavedOk) (hm : s.core.mode = .stateful) :
    (requestStart h w s).core.Inv := by
  simp only [Client.core_mode] at hm
  exact requestTimeout_inv h w _
    ⟨hs, by simp [Core.ReceiveOk, Handler.states], rfl, by simp [Core.ModeOk, hm, statefulStates],
      by simp, by simp, by simp⟩ rfl

theorem declineStart_inv (hs : s.core.SavedOk) (hm : s.core.mode = .stateful) :
    (declineStart h w s).core.Inv := by
  simp only [Client.core_mode] at hm
  refine declineTimeout_inv h w _ ?_ (by simp)
  simp only [Client.core_enableReceive, Client.core_newTransactionId, Client.core_clearRetransmit,
    Client.core_postNotification, Client.core_with_savedVerified, Client.core_clearLease,
    Client.core_cancelPendingEvents, Client.core_removeAddress, Client.core_setState]
  exact ⟨⟨hs.1, hs.2.1, hs.2.2.1, by simp⟩, by simp [Core.ReceiveOk, Handler.states], rfl,
    by simp [Core.ModeOk, hm, statefulStates], by simp, by simp, by simp⟩

theorem confirmStart_inv (hs : s.core.SavedOk) (hm : s.core.mode = .stateful)
    (hv : s.core.lease.valid = true ∨ s.core.saved = none) : (confirmStart w s).core.Inv := by
  simp only [Client.core_mode] at hm
  simp only [confirmStart, Client.core_setDelayTimer, Client.core_enableReceive,
    Client.core_newTransactionId, Client.core_with_savedVerified, Client.core_clearRetransmit,
    Client.core_cancelPendingEvents, Client.core_setState]
  exact ⟨hs, by simp [Core.ReceiveOk, Handler.states], by simp [timerAgrees, stateHandler],
    by simp [Core.ModeOk, hm, statefulStates], by simp, by simp, fun _ => hv⟩

theorem informCompleteStart_inv (hs : s.core.SavedOk) (hm : s.core.mode = .stateless)
    (hip : s.core.ourIp = 0) (hv : s.core.lease.valid = false) : (informCompleteStart s).core.Inv := by
  unfold informCompleteStart
  exact ⟨hs, rfl, rfl, by simp_all [Core.ModeOk], by simp_all, by simp, by simp⟩

theorem informTransmit_inv (hi : { s.core with timer := none }.Inv) (hc : s.cstate = .inform) :
    (informTransmit h w s).core.Inv := by
  rw [informTransmit, core_sendInform, Client.core_setRetransmitTimer]
  exact hi.retransmit (by simp [hc, Handler.states]) (by simp [hc]) _

theorem inactive_inv (hi : s.core.Inv) : (s.inactive w).core.Inv := by
  rw [Client.core_inactive]
  exact hi.cancel.clearPacket.clearOurIp

/-- The timeouts of Solicit and Inform keep the invariant when their transmission does. -/
theorem linkCheckedTimeout_inv {c : ClientState} {f : Client → Client}
    (hf : ∀ s : Client, s.core.Inv → s.cstate = c → (f s).core.Inv) (hi : s.core.Inv)
    (hc : s.cstate = c) : (linkCheckedTimeout w f s).core.Inv := by
  unfold linkCheckedTimeout
  split_ifs
  · exact hf _ hi hc
  · exact inactive_inv w s hi
  · exact hf _ hi hc

theorem informTimeout_inv (hi : s.core.Inv) (hc : s.cstate = .inform) :
    (informTimeout h w s).core.Inv :=
  linkCheckedTimeout_inv w s (fun s hi hc => informTransmit_inv h w s hi.clearTimer hc) hi hc

theorem informStart_inv (hm : s.core.mode = .stateless) (hip : s.core.ourIp = 0) :
    (informStart h w s).core.Inv := by
  have hx : { ((((s.setState .inform).clearPacket.clearRetransmit).newTransactionId w).enableReceive
      .inform).core with timer := none }.Inv :=
    ⟨by simp [Core.SavedOk], by simp [Core.ReceiveOk, Handler.states], rfl,
      by simp_all [Core.ModeOk], by simp, by simp, by simp⟩
  unfold informStart
  split
  · rw [Client.core_setDelayTimer]
    obtain ⟨hs, hr, -, -, hinf, hsol, hcf⟩ := hx
    exact ⟨hs, hr, by simp [timerAgrees, stateHandler], by simp_all [Core.ModeOk], hinf, hsol, hcf⟩
  · rw [informTimeout, linkCheckedTimeout]
    split_ifs with h0
    · exact informTransmit_inv h w _ hx rfl
    all_goals exact absurd rfl h0

/-! ## Bound -/

/-- Bound with the renewal timer of a finite lease armed. -/
theorem Core.Inv.renewTimer {c : Core} (hi : c.Inv) (hc : c.cstate = .bound)
    (hf : c.lease.validLifetime ≠ DHCP_INFINITE_LEASE) (d : ℚ) :
    { c with receive := none, timer := some ⟨.renewRebind, .start, d⟩ }.Inv := by
  have hm := hi.mode_eq (by simp [hc, statefulStates])
  obtain ⟨hs, -, -, -, -, hsol, hcf⟩ := hi
  exact ⟨hs, rfl, by simp [timerAgrees, hc], by simp [Core.ModeOk, hm, hc, statefulStates],
    by simp [hf], hsol, hcf⟩

theorem handleAddressChanged_inv (addrs : List AddrInfo) (hi : s.core.Inv) :
    (handleAddressChanged h w addrs s).core.Inv := by
  unfold handleAddressChanged
  split_ifs with h0
  · exact hi
  have hc : s.cstate = .bound := by simp_all
  have hm := hi.mode_eq (by simp [hc, statefulStates])
  split
  · exact hi
  dsimp only
  split_ifs with hd ht hinf
  · exact declineStart_inv h w s hi.savedOk hm
  · exact hi
  · simpa using hi.cancel
  · exact unboundStart_inv w _ (by simpa using hm)
  · simpa using hi.renewTimer hc hinf _

theorem boundCommit_inv {a : In6Addr} {vl pl : Nat} {t : ℚ} (hi : s.core.Inv)
    (hc : s.cstate = .bound) : (boundCommit h w a vl pl t s).core.Inv := by
  have hm : s.mode = .stateful := hi.mode_eq (by simp [hc, statefulStates])
  simp only [boundCommit]
  generalize hx : (if (s.ourIp != 0 && s.ourIp != a) = true then
    s.emit (.difaddr s.ourIp w.difaddrOk) else s) = x
  have hxc : x.core = s.core := by subst hx; split <;> rfl
  have hxl : x.lease = s.lease := congrArg Core.lease hxc
  split_ifs with hsock haif hsame hinf
  · exact hi
  · simpa [hxc] using hi
  · simpa [hxc] using hi.cancel
  · simpa [hxc, hxl] using hi.renewTimer hc (by rw [Client.core_lease, ← hxl]; exact hinf) _
  · exact handleAddressChanged_inv h w _ _ (by simpa [hxc] using hi.setOurIp (by simp [hm]) a)

theorem boundEnter_inv {a : In6Addr} (hs : s.core.SavedOk) (hm : s.core.mode = .stateful)
    (hl : s.core.LeaseReady) : (boundEnter h w a s).core.Inv := by
  simp only [Client.core_mode] at hm
  have hx : Core.Inv { s.core with
      cstate := .bound, receive := none, timer := none, savedVerified := true,
      lease := { s.lease with valid := true } } :=
    ⟨⟨hs.1, hs.2.1, hs.2.2.1, fun _ => hl⟩, rfl, rfl, by simp [Core.ModeOk, hm, statefulStates],
      by simp, by simp, by simp⟩
  simp only [boundEnter]
  split_ifs
  · exact boundCommit_inv h w _ hx rfl
  · exact unboundStart_inv w _ (by simpa using hm)
  · exact unboundStart_inv w _ (by simpa using hm)
  · exact boundCommit_inv h w _ hx rfl
  · exact boundCommit_inv h w _ hx rfl

theorem boundStart_inv {s' : Client} (hs : s.core.SavedOk) (hm : s.core.mode = .stateful)
    (hl : s.core.LeaseReady) (he : boundStart h w s = some s') : s'.core.Inv := by
  obtain ⟨a, -, rfl⟩ := Option.map_eq_some'.mp he
  exact boundEnter_inv h w s hs hm hl

/-! ## Renew and Rebind -/

/-- The renewal timer, armed in Bound, Renew or Rebind on a finite lease. -/
theorem Core.Inv.renewRebindTimer {c : Core} (hi : { c with timer := none }.Inv)
    (hc : c.cstate.isBoundRenewOrRebind)
    (hf : c.lease.valid = true → c.lease.validLifetime ≠ DHCP_INFINITE_LEASE) (n : Nat)
    (ev : TimerEvent) (d : ℚ) : { c with tries := n, timer := some ⟨.renewRebind, ev, d⟩ }.Inv := by
  have hm : c.mode = .stateful := hi.mode_eq (mem_statefulStates_of_isBoundRenewOrRebind hc)
  obtain ⟨hs, hr, -, -, -, -, -⟩ := hi
  simp only [ClientState.isBoundRenewOrRebind_eq_true] at hc
  refine ⟨hs, hr, ?_, ?_, fun hv hl => absurd hl (hf hv), ?_, ?_⟩ <;>
    rcases hc with hc | hc | hc <;> simp_all [timerAgrees, stateHandler, Core.ModeOk, statefulStates]

theorem renewRebindTimeout_inv (hi : { s.core with timer := none }.Inv)
    (hc : s.cstate.isBoundRenewOrRebind)
    (hf : s.lease.valid = true → s.lease.validLifetime ≠ DHCP_INFINITE_LEASE) :
    (renewRebindTimeout h w s).core.Inv := by
  have hm : s.mode = .stateful := hi.mode_eq (mem_statefulStates_of_isBoundRenewOrRebind hc)
  simp only [renewRebindTimeout]
  by_cases hv : (s.leaseStillValid w.now).lease.valid
  · have he := leaseStillValid_of_valid s hv
    rw [he] at hv ⊢
    rw [if_neg (by simp [hv])]
    split_ifs with hu hr
    · simpa using hi.renewRebindTimer hc hf (s.tries + 1) .timeout _
    · have hi' : { { s.core with cstate := .rebind } with timer := none }.Inv := by
        obtain ⟨hs, hr, -, -, hinf, hsol, hcf⟩ := hi
        refine ⟨hs, ?_, rfl, by simp [Core.ModeOk, hm, statefulStates], by simp_all, by simp, by simp⟩
        simp only [ClientState.isBoundRenewOrRebind_eq_true] at hc
        cases hrv : s.receive <;> rcases hc with hc | hc | hc <;>
          simp_all [Core.ReceiveOk, stateHandler]
      simpa using hi'.renewRebindTimer rfl hf 1 .timeout _
    · simpa [show s.cstate = .rebind by simpa using hr] using
        hi.renewRebindTimer hc hf (s.tries + 1) .timeout _
  · rw [if_pos (by simpa using hv)]
    exact unboundStart_inv w _ (by simpa using hm)

theorem renewRebindStart_inv (hi : { s.core with timer := none }.Inv)
    (hc : s.cstate.isBoundRenewOrRebind)
    (hf : s.lease.valid = true → s.lease.validLifetime ≠ DHCP_INFINITE_LEASE) :
    (renewRebindStart h w s).core.Inv := by
  have hm : s.mode = .stateful := hi.mode_eq (mem_statefulStates_of_isBoundRenewOrRebind hc)
  refine renewRebindTimeout_inv h w _ ?_ rfl hf
  obtain ⟨hs, -, -, -, -, -, -⟩ := hi
  exact ⟨hs, by simp [Core.ReceiveOk, stateHandler], rfl, by simp [Core.ModeOk, hm, statefulStates],
    fun hv hl => absurd hl (hf hv), by simp, by simp⟩

/-! ## Timeouts of Solicit and Confirm -/

theorem solicitTransmit_inv (hi : { s.core with timer := none }.Inv) (hc : s.cstate = .solicit) :
    (solicitTransmit h w s).core.Inv := by
  have hm : s.mode = .stateful := hi.mode_eq (by simp [hc, statefulStates])
  simp only [solicitTransmit]
  split_ifs with hsv
  · exact requestStart_inv h w s hi.savedOk hm
  all_goals
    try rw [Client.core_emit]
    rw [core_sendSolicit, Client.core_setRetransmitTimer]
    exact hi.retransmit (by simp [hc, Handler.states]) (fun _ => by simpa using hsv) _

theorem solicitTimeout_inv (hi : s.core.Inv) (hc : s.cstate = .solicit) :
    (solicitTimeout h w s).core.Inv :=
  linkCheckedTimeout_inv w s (fun s hi hc => solicitTransmit_inv h w s hi.clearTimer hc) hi hc

theorem confirmTransmit_inv (hi : { s.core with timer := none }.Inv) (hc : s.cstate = .confirm) :
    (confirmTransmit h w s).core.Inv := by
  rw [confirmTransmit, core_sendPacket, Client.core_setRetransmitTimer]
  exact hi.retransmit (by simp [hc, Handler.states]) (by simp [hc]) _

/-- A Confirm that runs out reaches Bound only on a lease still valid, which has the times
of the saved packet. -/
theorem confirmTimeout_inv {s' : Client} (hi : s.core.Inv) (hc : s.cstate = .confirm)
    (he : confirmTimeout h w s = some s') : s'.core.Inv := by
  have hm : s.mode = .stateful := hi.mode_eq (by simp [hc, statefulStates])
  simp only [confirmTimeout] at he
  split_ifs at he with h0 hlink hrd hv
  · cases he; exact confirmTransmit_inv h w _ hi.clearTimer hc
  · cases he; exact inactive_inv w s hi
  · cases he; exact confirmTransmit_inv h w _ hi.clearTimer hc
  · rw [leaseStillValid_of_valid s hv] at he hv
    exact boundStart_inv h w s hi.savedOk hm (hi.savedOk.2.2.2 hv) he
  · cases he; exact solicitStart_inv w _ (by simpa using hm)

/-! ## Receiving -/

theorem savePacket_savedOk (p : DHCPv6Packet) : (s.savePacket w p).core.SavedOk := by
  simp [Core.SavedOk]

/-- A packet with a usable IA_NA gives the lease it records the times it has. -/
theorem savePacket_leaseReady {p : DHCPv6Packet} (hp : (getIaNaAddrCode p.options).iaNa ≠ none) :
    (s.savePacket w p).core.LeaseReady := by
  obtain ⟨ia, hia⟩ := Option.ne_none_iff_exists'.mp hp
  obtain ⟨a, ha⟩ := Option.ne_none_iff_exists'.mp ((getIaNaAddrCode_iaNa_eq_none _).not.mp hp)
  exact ⟨p, rfl, by simp [Lease.ofPacket, leaseTimesOf, hia, ha, Lease.times]⟩

/-- In Confirm, an address to read means a valid lease. -/
theorem Core.Inv.leaseReady_of_confirm {c : Core} (hi : c.Inv) (hc : c.cstate = .confirm)
    (ha : c.iaAddr ≠ none) : c.LeaseReady := by
  rcases hi.confirm hc with hv | hs
  · exact hi.savedOk.2.2.2 hv
  · exact absurd (by rw [hi.savedOk.2.2.1, hs]; rfl) ha

theorem solicitData_inv (p : DHCPv6Packet) (hi : s.core.Inv) (hc : s.cstate = .solicit) :
    (solicitData h w p s).core.Inv := by
  have hm : s.mode = .stateful := hi.mode_eq (by simp [hc, statefulStates])
  obtain ⟨d, hd⟩ := solicitData_eq h w s p
  rw [hd]
  split_ifs with ha hr
  · exact requestStart_inv h w _ (savePacket_savedOk w _ p) (by simpa using hm)
  · have hsv := savePacket_savedOk w { s with duid := d } p
    rw [Client.core_savePacket, Client.core_with_duid] at hsv ⊢
    obtain ⟨-, hr', ht, -, -, -, -⟩ := hi
    exact ⟨hsv, hr', ht, by simp [Core.ModeOk, hm, hc, statefulStates], by simp,
      fun _ h2 => absurd (show 2 ≤ s.tries from h2) (by omega), by simp [hc]⟩
  · exact hi

theorem requestData_inv {p : DHCPv6Packet} {s' : Client} (hi : s.core.Inv) (hc : s.cstate = .request)
    (he : requestData h w p s = some s') : s'.core.Inv := by
  have hm : s.mode = .stateful := hi.mode_eq (by simp [hc, statefulStates])
  obtain ⟨d, hd⟩ := Client.afterMatch_eq w s kDHCPv6MessageREPLY p
  have ha : { s with duid := d }.core.Inv := hi
  simp only [requestData, hd] at he
  split at he
  · cases he; exact ha
  split at he
  · cases he; exact ha
  split at he
  · cases he; exact ha
  split at he
  · cases he; exact solicitStart_inv w _ hm
  split at he
  · cases he; exact ha
  · rename_i hn
    exact boundStart_inv h w (Client.savePacket w p { s with duid := d }) (savePacket_savedOk w _ p) hm
      (savePacket_leaseReady w _ hn) he

theorem renewRebindData_inv {p : DHCPv6Packet} {s' : Client} (hi : s.core.Inv)
    (hc : s.cstate = .renew ∨ s.cstate = .rebind) (he : renewRebindData h w p s = some s') :
    s'.core.Inv := by
  have hm : s.mode = .stateful := hi.mode_eq (by rcases hc with hc | hc <;> simp [hc, statefulStates])
  obtain ⟨d, hd⟩ := Client.afterMatch_eq w s kDHCPv6MessageREPLY p
  have ha : { s with duid := d }.core.Inv := hi
  simp only [renewRebindData, hd] at he
  split at he
  · cases he; exact ha
  split at he
  · cases he; exact ha
  split at he
  · cases he; exact unboundStart_inv w _ hm
  split at he
  · cases he; exact unboundStart_inv w _ hm
  · rename_i hn
    exact boundStart_inv h w (Client.savePacket w p { s with duid := d }) (savePacket_savedOk w _ p) hm
      (savePacket_leaseReady w _ hn) he

theorem confirmData_inv {p : DHCPv6Packet} {s' : Client} (hi : s.core.Inv) (hc : s.cstate = .confirm)
    (he : confirmData h w p s = some s') : s'.core.Inv := by
  have hm : s.mode = .stateful := hi.mode_eq (by simp [hc, statefulStates])
  obtain ⟨d, hd⟩ := Client.afterMatch_eq w s kDHCPv6MessageREPLY p
  have ha : { s with duid := d }.core.Inv := hi
  simp only [confirmData, hd] at he
  split at he
  · cases he; exact ha
  split at he
  · cases he; exact ha
  split at he
  · cases he; exact unboundStart_inv w _ hm
  · obtain ⟨a, hia, -⟩ := Option.map_eq_some'.mp he
    exact boundStart_inv h w { s with duid := d } hi.savedOk hm
      (hi.leaseReady_of_confirm hc (by simp [show s.iaAddr = some a from hia])) he

theorem declineData_inv (p : DHCPv6Packet) (hi : s.core.Inv) (hc : s.cstate = .decline) :
    (declineData h w p s).core.Inv := by
  have hm : s.mode = .stateful := hi.mode_eq (by simp [hc, statefulStates])
  obtain ⟨d, hd⟩ := Client.afterMatch_eq w s kDHCPv6MessageREPLY p
  simp only [declineData, hd]
  split_ifs
  · exact hi
  · exact solicitStart_inv w _ hm

theorem informData_inv (p : DHCPv6Packet) (hi : s.core.Inv) (hc : s.cstate = .inform) :
    (informData h w p s).core.Inv := by
  obtain ⟨hm, hip, -⟩ := hi.stateless (.inl hc)
  obtain ⟨d, hd⟩ := Client.afterMatch_eq w s kDHCPv6MessageREPLY p
  simp only [informData, hd]
  split_ifs
  · exact hi
  · refine informCompleteStart_inv _ ?_ (by simpa using hm) (by simpa using hip) (by simp)
    rw [Client.core_postNotification]
    exact savePacket_savedOk w _ p

theorem runReceive_inv {f : Handler} {p : DHCPv6Packet} {s' : Client} (hi : s.core.Inv)
    (hr : s.receive = some f) (he : runReceive h w f p s = some s') : s'.core.Inv := by
  have hc : s.cstate ∈ f.states := by simpa [Core.ReceiveOk, hr] using hi.receive
  cases f <;> simp only [runReceive] at he <;> simp only [Handler.states, List.mem_cons,
    List.mem_singleton, List.not_mem_nil, or_false] at hc
  · cases he; exact solicitData_inv h w s p hi hc
  · exact requestData_inv h w s hi hc he
  · exact renewRebindData_inv h w s hi hc he
  · exact confirmData_inv h w s hi hc he
  · cases he; exact declineData_inv h w s p hi hc
  · cases he; exact informData_inv h w s p hi hc

end DHCPv6Client
