import DHCPv6Client.Machine

/-!
# The core of a client

The invariants of the client are about a part of it only: its state and mode, what is
armed, the tries, the saved packet with its references and verification, the lease and
the address. `Client.core` is that part. Each primitive operation gets one `@[simp]` lemma
saying what it does to the core; the senders, the DUID cache and the draws leave it alone
(`core_sendPacket`, `core_getDUID`, `core_newTransactionId`). Proofs about handlers then
compute the core of their result by `simp` and never unfold a sender. Solicit's receive
handler gets one equation with its tests gathered (`solicitData_eq`).

Three slips of the code are stated here in general, each with the run that shows it:

* a lease that runs out in place: `DHCPv6ClientHandleEvent` leaves a client in Bound, Renew
  or Rebind there with no lease and no packet (`confirmIfBound_of_expired`), and one in
  Confirm with no IAADDR, where a matching success REPLY faults (`confirmData_eq_none`);
* a Solicit left with nothing armed by a link-down timeout stays so under every event but
  a start or a stop (`Core.Stalled`, `run_stalled`);
* Decline and Release keep the `start_time` of the phase before them
  (`declineStart_startTime`, `releaseStart_startTime`), so their messages carry its
  elapsed time.
-/

namespace DHCPv6Client

/-- The part of a client its invariants are about. -/
structure Core where
  cstate : ClientState
  mode : ClientMode
  receive : Option Handler
  timer : Option TimerCallout
  tries : Nat
  saved : Option DHCPv6Packet
  savedVerified : Bool
  serverId : Option (List UInt8)
  iaNa : Option (List UInt8)
  iaAddr : Option (List UInt8)
  lease : Lease
  ourIp : In6Addr

namespace Client

/-- The core of a client. -/
def core (s : Client) : Core :=
  ⟨s.cstate, s.mode, s.receive, s.timer, s.tries, s.saved, s.savedVerified, s.serverId,
    s.iaNa, s.iaAddr, s.lease, s.ourIp⟩

variable (h : Host) (w : World) (s : Client)

@[simp] theorem core_cstate : s.core.cstate = s.cstate := rfl
@[simp] theorem core_mode : s.core.mode = s.mode := rfl
@[simp] theorem core_receive : s.core.receive = s.receive := rfl
@[simp] theorem core_timer : s.core.timer = s.timer := rfl
@[simp] theorem core_tries : s.core.tries = s.tries := rfl
@[simp] theorem core_saved : s.core.saved = s.saved := rfl
@[simp] theorem core_savedVerified : s.core.savedVerified = s.savedVerified := rfl
@[simp] theorem core_serverId : s.core.serverId = s.serverId := rfl
@[simp] theorem core_iaNa : s.core.iaNa = s.iaNa := rfl
@[simp] theorem core_iaAddr : s.core.iaAddr = s.iaAddr := rfl
@[simp] theorem core_lease : s.core.lease = s.lease := rfl
@[simp] theorem core_ourIp : s.core.ourIp = s.ourIp := rfl

@[simp] theorem core_setState (c : ClientState) :
    (s.setState c).core = { s.core with cstate := c } := rfl

@[simp] theorem core_cancelPendingEvents :
    s.cancelPendingEvents.core = { s.core with receive := none, timer := none } := rfl

@[simp] theorem core_enableReceive (f : Handler) :
    (s.enableReceive f).core = { s.core with receive := some f } := rfl

@[simp] theorem core_timerCalloutSet (d : ℚ) (f : Handler) (ev : TimerEvent) :
    (s.timerCalloutSet d f ev).core = { s.core with timer := some ⟨f, ev, d⟩ } := rfl

@[simp] theorem core_clearRetransmit : s.clearRetransmit.core = { s.core with tries := 0 } := rfl

@[simp] theorem core_clearLease : s.clearLease.core = { s.core with lease := {} } := rfl

@[simp] theorem core_clearPacket :
    s.clearPacket.core =
      { s.core with saved := none, savedVerified := false, serverId := none, iaNa := none,
                    iaAddr := none, lease := {} } := rfl

@[simp] theorem core_emit (e : Effect) : (s.emit e).core = s.core := rfl

@[simp] theorem core_postNotification : s.postNotification.core = s.core := rfl

@[simp] theorem core_advance : s.advance.core = s.core := rfl

@[simp] theorem core_newTransactionId : (s.newTransactionId w).core = s.core := rfl

@[simp] theorem core_with_startTime (t : ℚ) : { s with startTime := t }.core = s.core := rfl

@[simp] theorem core_with_renewRebindTime (t : ℚ) :
    { s with renewRebindTime := t }.core = s.core := rfl

@[simp] theorem core_with_savedVerified (b : Bool) :
    { s with savedVerified := b }.core = { s.core with savedVerified := b } := rfl

@[simp] theorem core_with_lease (l : Lease) : { s with lease := l }.core = { s.core with lease := l } :=
  rfl

@[simp] theorem core_with_ourIp (a : In6Addr) (n : Nat) :
    { s with ourIp := a, ourPrefixLength := n }.core = { s.core with ourIp := a } := rfl

@[simp] theorem core_with_mode (m : ClientMode) : { s with mode := m }.core = { s.core with mode := m } :=
  rfl

@[simp] theorem core_with_timer (t : Option TimerCallout) :
    { s with timer := t }.core = { s.core with timer := t } := rfl

@[simp] theorem core_with_privateAddress (b : Bool) : { s with privateAddress := b }.core = s.core :=
  rfl

@[simp] theorem core_with_duid (d : Option (List UInt8)) : { s with duid := d }.core = s.core := rfl

@[simp] theorem core_with_requestedOptions (l : List Nat) :
    { s with requestedOptions := l }.core = s.core := rfl

@[simp] theorem core_nextRetransmit (IRT MRT : ℚ) :
    (s.nextRetransmit w IRT MRT).core = { s.core with tries := s.tries + 1 } := by
  unfold nextRetransmit; split_ifs <;> rfl

@[simp] theorem core_setRetransmitTimer (IRT MRT : ℚ) (f : Handler) :
    (s.setRetransmitTimer w IRT MRT f).core =
      { s.core with tries := s.tries + 1,
                    timer := some ⟨f, .timeout, (s.nextRetransmit w IRT MRT).retransmitTime⟩ } := by
  simp [setRetransmitTimer]

@[simp] theorem core_setDelayTimer (d : ℚ) (f : Handler) :
    (s.setDelayTimer w d f).core =
      { s.core with timer := some ⟨f, .timeout, randomDoubleInRange (s.draw w) 0 d⟩ } := rfl

@[simp] theorem core_setRenewTimer (now t : ℚ) :
    (s.setRenewTimer now t).core =
      { s.core with
        timer := some ⟨.renewRebind, .start,
          ((if toUInt32 t < s.lease.t1 then s.lease.t1 - toUInt32 t else 10 : Nat) : ℚ)⟩ } := rfl

@[simp] theorem core_removeAddress : (s.removeAddress w).core = { s.core with ourIp := 0 } := by
  unfold removeAddress
  split
  · simp [core, *]
  · split <;> rfl

@[simp] theorem core_getDUID : (s.getDUID w).core = s.core := by
  unfold getDUID; split <;> rfl

/-- The first test of a receive handler changes only the DUID cache. -/
theorem afterMatch_eq (t : Nat) (p : DHCPv6Packet) : ∃ d, s.afterMatch w t p = { s with duid := d } := by
  unfold afterMatch
  split
  · exact getDUID_eq w s
  · exact ⟨s.duid, rfl⟩

@[simp] theorem core_afterMatch (t : Nat) (p : DHCPv6Packet) :
    (s.afterMatch w t p).core = s.core := by
  unfold afterMatch; split <;> simp

@[simp] theorem core_savePacket (p : DHCPv6Packet) :
    (s.savePacket w p).core =
      { s.core with saved := some p, savedVerified := true,
                    serverId := getOption p.options kDHCPv6OPTION_SERVERID,
                    iaNa := (getIaNaAddrCode p.options).iaNa,
                    iaAddr := (getIaNaAddrCode p.options).iaAddr,
                    lease := Lease.ofPacket w.now w.ssid p } := rfl

theorem core_leaseStillValid (now : ℚ) :
    (s.leaseStillValid now).core = if s.lease.expired now then s.clearPacket.core else s.core := by
  rw [leaseStillValid_eq]; split <;> rfl

@[simp] theorem leaseStillValid_cstate (now : ℚ) : (s.leaseStillValid now).cstate = s.cstate := by
  rw [leaseStillValid_eq]; split <;> rfl

@[simp] theorem leaseStillValid_mode (now : ℚ) : (s.leaseStillValid now).mode = s.mode := by
  rw [leaseStillValid_eq]; split <;> rfl

@[simp] theorem core_inactive :
    (s.inactive w).core =
      { s.core with receive := none, timer := none, saved := none, savedVerified := false,
                    serverId := none, iaNa := none, iaAddr := none, lease := {}, ourIp := 0 } := by
  simp [inactive]

end Client

@[simp] theorem core_transmit (t : Nat) (oa : Option OptionArea) (s : Client) :
    (transmit t oa s).core = s.core := by
  unfold transmit; split <;> rfl

variable (h : Host) (w : World) (s : Client)

@[simp] theorem core_sendPacket : (sendPacket h w s).core = s.core := by
  unfold sendPacket; split <;> simp

@[simp] theorem core_sendSolicit : (sendSolicit h w s).core = s.core := by
  simp [sendSolicit]

@[simp] theorem core_renewRebindTransmit (d : ℚ) :
    (renewRebindTransmit h w d s).core = { s.core with timer := some ⟨.renewRebind, .timeout, d⟩ } := by
  simp [renewRebindTransmit]

/-- Solicit's entry: its state, handler and delay timer, no try, and nothing saved. -/
theorem core_solicitStart : ∃ d, (solicitStart w s).core =
    { s.core with cstate := .solicit, receive := some .solicit, tries := 0,
                  timer := some ⟨.solicit, .timeout, d⟩, saved := none, savedVerified := false,
                  serverId := none, iaNa := none, iaAddr := none, lease := {} } := by
  simp only [solicitStart, Client.core_setDelayTimer, Client.core_enableReceive,
    Client.core_newTransactionId, Client.core_clearPacket, Client.core_clearRetransmit,
    Client.core_setState]
  exact ⟨_, rfl⟩

/-- Request's entry sends the first REQUEST: its state, handler and timer, and one try. -/
theorem core_requestStart : ∃ d, (requestStart h w s).core =
    { s.core with cstate := .request, receive := some .request, tries := 1,
                  timer := some ⟨.request, .timeout, d⟩ } := by
  simp only [requestStart, requestTimeout, retransmitOrSolicit]
  split_ifs with hc
  · exact absurd hc (by decide : ¬DHCPv6_REQ_MAX_RC ≤ 0)
  · rw [core_sendPacket, Client.core_setRetransmitTimer]
    exact ⟨_, rfl⟩

/-- Solicit's transmit with nothing saved sends the next SOLICIT: one more try, and the
retransmit timer. -/
theorem core_solicitTransmit_of_saved_eq_none (hs : s.saved = none) : ∃ d,
    (solicitTransmit h w s).core =
      { s.core with tries := s.tries + 1, timer := some ⟨.solicit, .timeout, d⟩ } := by
  simp only [solicitTransmit, hs, Option.isSome_none, Bool.false_eq_true, if_false]
  split_ifs <;>
    simp only [Client.core_emit, core_sendSolicit, Client.core_setRetransmitTimer] <;> exact ⟨_, rfl⟩

@[simp] theorem core_sendInform : (sendInform h w s).core = s.core := by
  simp [sendInform]

/-! ## Solicit's receive handler -/

/-- The server's PREFERENCE in a packet, 0 when absent. -/
def preference (p : DHCPv6Packet) : Nat := getPreferenceValueFromOptions p.options

/-- The ADVERTISEs Solicit accepts: an ADVERTISE of our transaction with our DUID and a
valid SERVERID, a readable status other than NoAddrsAvail, and a usable IA_NA. -/
def advertiseAccepted (h : Host) (w : World) (s : Client) (p : DHCPv6Packet) : Bool :=
  packetMatches h w kDHCPv6MessageADVERTISE p s &&
    (match getStatusCode p.options with
      | some code => code != kDHCPv6StatusCodeNoAddrsAvail
      | none => false) &&
    (getIaNaAddrCode p.options).iaNa.isSome

theorem msgType_of_advertiseAccepted {p : DHCPv6Packet} (ha : advertiseAccepted h w s p = true) :
    p.msgType = kDHCPv6MessageADVERTISE := by
  simp only [advertiseAccepted, packetMatches, Bool.and_eq_true, beq_iff_eq] at ha
  exact ha.1.1.1.1.1

/-- Solicit's receive handler, its tests gathered: an accepted ADVERTISE better than the
one saved is saved, and taken on to Request at once after the second try or at maximum
preference; anything else changes only the DUID cache. -/
theorem solicitData_eq (p : DHCPv6Packet) : ∃ d, solicitData h w p s =
    if advertiseAccepted h w s p ∧ s.saved.any (fun q => preference p ≤ preference q) = false then
      if 1 < s.tries ∨ preference p = kDHCPv6OptionPREFERENCEMaxValue then
        requestStart h w ({ s with duid := d }.savePacket w p)
      else { s with duid := d }.savePacket w p
    else { s with duid := d } := by
  obtain ⟨d, hd⟩ := Client.afterMatch_eq w s kDHCPv6MessageADVERTISE p
  refine ⟨d, ?_⟩
  simp only [solicitData, hd, Client.savePacket_tries, advertiseAccepted, preference]
  cases hm : packetMatches h w kDHCPv6MessageADVERTISE p s
  · simp
  cases hc : getStatusCode p.options with
  | none => simp
  | some code =>
    by_cases hn : code = kDHCPv6StatusCodeNoAddrsAvail
    · simp [hn]
    by_cases hi : (getIaNaAddrCode p.options).iaNa = none
    · simp [hi]
    · cases Option.any _ s.saved <;> simp [hn, hi, Option.isSome_iff_ne_none]


/-! ## Runs -/

/-- A run of two lists of events is the run of the first, then of the second. -/
theorem run_append (es₁ es₂ : List (World × Event)) (s : Client) :
    run h (es₁ ++ es₂) s = (run h es₁ s).bind (run h es₂) := by
  induction es₁ generalizing s with
  | nil => rfl
  | cons we es ih =>
    obtain ⟨w, e⟩ := we
    cases hs : step h w e s <;> simp [run, hs, ih]

/-! ## A lease that runs out in place

`DHCPv6ClientLeaseStillValid` clears a lease that has run out, with the saved packet and
every reference into it, and leaves the state as it is. `DHCPv6ClientHandleEvent` runs it
on a link, renew or BSSID event and then confirms only a lease still valid in Bound, Renew
or Rebind: a client in Bound, Renew or Rebind whose lease ran out stays there with no lease
and no packet (`confirmIfBound_of_expired`), and a client in Confirm stays in Confirm, its
receive handler installed, with no IAADDR. A matching success REPLY then enters Bound,
which first reads the address of `ia_addr` (`confirmData_eq_none`).
-/

/-- An event that confirms a lease finds it run out: the state is kept, the lease and the
packet are dropped. -/
theorem confirmIfBound_of_expired (he : s.lease.expired w.now = true) :
    confirmIfBound w s = s.clearPacket := by
  simp [confirmIfBound, Client.leaseStillValid_eq, he, Client.clearPacket, Client.clearLease]

/-- Bound at time 0 on a lease of 900 s; at 1000 s a BSSID change finds it run out and the
client stays Bound with no valid lease, no verified packet and no packet. -/
theorem bound_after_expiry :
    (run exampleHost (exampleBind 600 900 ++ [(exampleWorld 1000, .handleEvent .bssidChanged)])
        create).map (fun s => (s.cstate, s.lease.valid, s.savedVerified, s.saved)) =
      some (.bound, false, false, none) := by
  have hb : (run exampleHost (exampleBind 600 900) create).map
      (fun s => (s.mode, s.cstate, s.lease.expired (exampleWorld 1000).now)) = some (.stateful, .bound, true) := by
    with_unfolding_all decide
  obtain ⟨sB, hr, hf⟩ := Option.map_eq_some'.mp hb
  simp only [Prod.mk.injEq] at hf
  rw [run_append, hr, Option.some_bind]
  simp only [run, step, handleEvent, hf.1, ne_eq, not_true_eq_false, if_false, Option.some_bind,
    confirmIfBound_of_expired _ sB hf.2.2, Option.map_some']
  simp [Client.clearPacket, Client.clearLease, hf.2.1]

/-- A matching success REPLY in Confirm with no IAADDR faults. -/
theorem confirmData_eq_none {p : DHCPv6Packet} (ha : s.iaAddr = none)
    (hp : packetMatches h w kDHCPv6MessageREPLY p s = true)
    (hs : getStatusCode p.options = some kDHCPv6StatusCodeSuccess) :
    confirmData h w p s = none := by
  obtain ⟨d, hd⟩ := Client.afterMatch_eq w s kDHCPv6MessageREPLY p
  simp [confirmData, hd, hp, hs, boundStart, ha, kDHCPv6StatusCodeSuccess]

/-- Bound at time 0 on a lease of 900 s; a BSSID change at 10 s starts Confirm, another at
1000 s finds the lease run out and leaves the client in Confirm with no IAADDR; the REPLY
to the CONFIRM then faults. -/
theorem confirm_reply_after_expiry_faults :
    (run exampleHost (exampleBind 600 900 ++ [(exampleWorld 10, .handleEvent .bssidChanged),
        (exampleWorld 1000, .handleEvent .bssidChanged)]) create).map
        (fun s => (s.cstate, s.receive, s.iaAddr)) = some (.confirm, some .confirm, none) ∧
    run exampleHost (exampleBind 600 900 ++ [(exampleWorld 10, .handleEvent .bssidChanged),
        (exampleWorld 1000, .handleEvent .bssidChanged),
        (exampleWorld 1000, .receive (exampleMessage kDHCPv6MessageREPLY 600 900 []))]) create = none := by
  have hc : (run exampleHost (exampleBind 600 900 ++ [(exampleWorld 10, .handleEvent .bssidChanged),
      (exampleWorld 1000, .handleEvent .bssidChanged)]) create).map
      (fun s => ((s.cstate, s.receive, s.iaAddr), packetMatches exampleHost (exampleWorld 1000)
        kDHCPv6MessageREPLY (exampleMessage kDHCPv6MessageREPLY 600 900 []) s)) =
      some ((.confirm, some .confirm, none), true) := by
    with_unfolding_all decide
  obtain ⟨sC, hr, hf⟩ := Option.map_eq_some'.mp hc
  simp only [Prod.mk.injEq] at hf
  refine ⟨by rw [hr]; simp [hf.1], ?_⟩
  rw [show exampleBind 600 900 ++ [(exampleWorld 10, .handleEvent .bssidChanged),
      (exampleWorld 1000, .handleEvent .bssidChanged),
      (exampleWorld 1000, .receive (exampleMessage kDHCPv6MessageREPLY 600 900 []))] =
    (exampleBind 600 900 ++ [(exampleWorld 10, .handleEvent .bssidChanged),
      (exampleWorld 1000, .handleEvent .bssidChanged)]) ++
      [(exampleWorld 1000, .receive (exampleMessage kDHCPv6MessageREPLY 600 900 []))] by simp,
    run_append, hr, Option.some_bind]
  simp only [run, step, hf.1.2.1, runReceive, confirmData_eq_none exampleHost (exampleWorld 1000) sC
    hf.1.2.2 hf.2 (by with_unfolding_all decide), Option.none_bind]

/-! ## A Solicit left with nothing armed

A Solicit timeout after the first that finds the link down calls `DHCPv6ClientInactive`,
which cancels the timer and the receive handler and drops the packet but leaves the state
Solicit. Such a client is stalled (`Core.Stalled`): no timer fires for it, no packet reaches
it, and every event `DHCPv6ClientHandleEvent` is given leaves it so, since a wake restarts
Solicit only outside Solicit (`step_stalled`). Only `DHCPv6ClientStart` and
`DHCPv6ClientStop` move it (`run_stalled`).
-/

/-- In Solicit with no timer, no receive handler and no valid lease. -/
def Core.Stalled (c : Core) : Prop :=
  c.cstate = .solicit ∧ c.timer = none ∧ c.receive = none ∧ c.lease.valid = false

theorem confirmIfBound_stalled (hs : s.core.Stalled) : confirmIfBound w s = s := by
  have hv : s.lease.valid = false := hs.2.2.2
  simp [confirmIfBound, Client.leaseStillValid_eq, Lease.expired, hv]

theorem handleWake_stalled (ev : LinkEventData) (hs : s.core.Stalled) :
    (handleWake h w ev s).core.Stalled := by
  have hv : s.lease.valid = false := hs.2.2.2
  have hc : s.cstate = .solicit := hs.1
  have hr : (s.removeAddress w).core.Stalled := by rw [Client.core_removeAddress]; exact hs
  have hrc : (s.removeAddress w).cstate = .solicit := hr.1
  simp only [handleWake, Client.leaseStillValid_eq, Lease.expired, hv, hc, hrc, Bool.false_and,
    Bool.not_false, Bool.false_eq_true, if_false, if_true, ne_eq, not_true_eq_false, ite_self]
  split
  · exact hr
  · exact hs

/-- Every event but a start and a stop leaves a stalled client stalled. -/
theorem step_stalled {e : Event} (hs : s.core.Stalled) (hst : ∀ a p, e ≠ .start a p)
    (hsp : ∀ d, e ≠ .stop d) : ∃ s', step h w e s = some s' ∧ s'.core.Stalled := by
  cases e with
  | start a p => exact absurd rfl (hst a p)
  | stop d => exact absurd rfl (hsp d)
  | timerFires => exact ⟨s, by simp [step, show s.timer = none from hs.2.1], hs⟩
  | receive p => exact ⟨s, by simp [step, show s.receive = none from hs.2.2.1], hs⟩
  | setRequestedOptions l => exact ⟨_, rfl, hs⟩
  | handleEvent e =>
    refine ⟨_, rfl, ?_⟩
    have hc : s.cstate ≠ .bound := by simp [show s.cstate = .solicit from hs.1]
    unfold handleEvent
    split_ifs
    · exact hs
    split
    · simp only [handleAddressChanged, hc, ne_eq, not_false_eq_true, or_true, if_true]; exact hs
    · exact handleWake_stalled h w s _ hs
    · split_ifs <;> (try rw [confirmIfBound_stalled w s hs]) <;> exact hs
    · split_ifs <;> (try rw [confirmIfBound_stalled w s hs]) <;> exact hs
    · rw [confirmIfBound_stalled w s hs]; exact hs
    · exact hs

/-- Events with no start and no stop among them leave a stalled client stalled. -/
theorem run_stalled {es : List (World × Event)} (hs : s.core.Stalled)
    (he : ∀ we ∈ es, (∀ a p, we.2 ≠ .start a p) ∧ ∀ d, we.2 ≠ .stop d) :
    ∃ s', run h es s = some s' ∧ s'.core.Stalled := by
  induction es generalizing s with
  | nil => exact ⟨s, rfl, hs⟩
  | cons we es ih =>
    obtain ⟨s₁, h₁, hs₁⟩ := step_stalled h we.1 s hs (he we (.head _)).1 (he we (.head _)).2
    obtain ⟨s', h', hs'⟩ := ih s₁ hs₁ fun we' hwe' => he we' (.tail _ hwe')
    exact ⟨s', by simp [run, h₁, h'], hs'⟩

/-- The start, the Solicit timer at 0 s (the first SOLICIT), and its retransmission timer at
0.9 s with the link down: the client is left in Solicit with no timer and no receive
handler, and stays so whatever events follow but a start or a stop. -/
theorem solicit_stalled_by_link_down :
    (run exampleHost [(exampleWorld 0, .start true false), (exampleWorld 0, .timerFires),
        ({ exampleWorld (9 / 10) with linkStatus := ⟨true, false, true⟩ }, .timerFires)] create).map
        (fun s => (s.cstate, s.timer, s.receive)) = some (.solicit, none, none) ∧
    ∀ es : List (World × Event), (∀ we ∈ es, (∀ a p, we.2 ≠ .start a p) ∧ ∀ d, we.2 ≠ .stop d) →
      (run exampleHost ([(exampleWorld 0, .start true false), (exampleWorld 0, .timerFires),
          ({ exampleWorld (9 / 10) with linkStatus := ⟨true, false, true⟩ }, .timerFires)] ++ es)
          create).map (fun s => (s.cstate, s.timer, s.receive)) = some (.solicit, none, none) := by
  have hl : (run exampleHost [(exampleWorld 0, .start true false), (exampleWorld 0, .timerFires),
      ({ exampleWorld (9 / 10) with linkStatus := ⟨true, false, true⟩ }, .timerFires)] create).map
      (fun s => (s.cstate, s.timer, s.receive, s.lease.valid)) = some (.solicit, none, none, false) := by
    with_unfolding_all decide
  obtain ⟨s₃, hr, hf⟩ := Option.map_eq_some'.mp hl
  simp only [Prod.mk.injEq] at hf
  refine ⟨by rw [hr]; simp [hf.1, hf.2.1, hf.2.2.1], fun es hes => ?_⟩
  obtain ⟨s', h', hs'⟩ := run_stalled exampleHost s₃ hf hes
  rw [run_append, hr, Option.some_bind, h']
  simpa using ⟨hs'.1, hs'.2.1, hs'.2.2.1⟩

/-! ## The elapsed time of a message

`get_elapsed_time` gives 0 on a message's first try and otherwise the time since
`start_time`. Solicit, Inform and Confirm set `start_time` at their first transmission,
Request, Renew and Rebind at their entry; Decline and Release never do
(`declineStart_startTime`, `releaseStart_startTime`). So a DECLINE after the first, and the
one RELEASE, which is sent at try 0 and not 1, carry the time since the phase before them
began.
-/

/-- The message type and the ELAPSED_TIME value of each message sent, in order. -/
def sentElapsedTimes (s : Client) : List (Nat × List UInt8) :=
  s.out.filterMap fun
    | .transmit p => (getOption p.options kDHCPv6OPTION_ELAPSED_TIME).map ((p.msgType, ·))
    | _ => none

theorem sendPacket_startTime : (sendPacket h w s).startTime = s.startTime := by
  obtain ⟨d, o, he⟩ := sendPacket_eq h w s
  rw [he]

theorem nextRetransmit_startTime (IRT MRT : ℚ) :
    (s.nextRetransmit w IRT MRT).startTime = s.startTime := by
  unfold Client.nextRetransmit; split_ifs <;> rfl

theorem removeAddress_startTime : (s.removeAddress w).startTime = s.startTime := by
  unfold Client.removeAddress; split_ifs <;> rfl

/-- Decline keeps the `start_time` it was entered with. -/
theorem declineStart_startTime : (declineStart h w s).startTime = s.startTime := by
  simp only [declineStart, declineTimeout, retransmitOrSolicit]
  split_ifs with hc
  · exact absurd hc (by decide : ¬DHCPv6_DEC_MAX_RC ≤ 0)
  · simp only [sendPacket_startTime, Client.setRetransmitTimer, Client.timerCalloutSet,
      nextRetransmit_startTime, Client.enableReceive, Client.newTransactionId, Client.advance,
      Client.postNotification, Client.emit, Client.clearRetransmit, Client.clearLease,
      Client.cancelPendingEvents, removeAddress_startTime]
    rfl

/-- So does Release. -/
theorem releaseStart_startTime : (releaseStart h w s).startTime = s.startTime := by
  simp only [releaseStart, sendPacket_startTime, Client.newTransactionId, Client.advance,
    Client.clearRetransmit, Client.cancelPendingEvents, removeAddress_startTime]
  rfl

/-- The REPLY at 5 s to a REQUEST sent at 0 s binds an address the interface reports
duplicated: the first DECLINE carries 0, and the second, at 5.9 s, 590 hundredths of a
second, the time since the REQUEST, not since the first DECLINE; and a client bound at 0 s
that is released at 100 s sends a RELEASE carrying 10000 hundredths of a second, though it
is the first message of its phase. In every client, entering Decline or Release keeps the
`start_time` of the phase before. -/
theorem decline_release_elapsed_from_request :
    (run exampleHost
        (((exampleBind 600 900).take 3) ++
          [({ exampleWorld 5 with addrList := [⟨iaAddrGetAddress exampleAddress, 64, IN6_IFF_DUPLICATED⟩] },
              .receive (exampleMessage kDHCPv6MessageREPLY 600 900 [])),
            (exampleWorld (59 / 10), .timerFires)]) create).map
        (fun s => (sentElapsedTimes s).drop 2) =
      some [(kDHCPv6MessageDECLINE, hton 2 0), (kDHCPv6MessageDECLINE, hton 2 590)] ∧
    (run exampleHost (exampleBind 600 900) create).map
        (fun s => (sentElapsedTimes (release exampleHost (exampleWorld 100) s)).getLast?) =
      some (some (kDHCPv6MessageRELEASE, hton 2 10000)) ∧
    ∀ (h : Host) (w : World) (s : Client),
      (declineStart h w s).startTime = s.startTime ∧ (releaseStart h w s).startTime = s.startTime :=
  ⟨by with_unfolding_all decide, by with_unfolding_all decide,
    fun h w s => ⟨declineStart_startTime h w s, releaseStart_startTime h w s⟩⟩

end DHCPv6Client
