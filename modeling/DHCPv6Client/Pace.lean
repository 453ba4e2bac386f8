import DHCPv6Client.Renewal

/-!
# The pace of the client

How often and how soon the client retransmits. `Core.Paced` says:

* in Request at least one and at most `DHCPv6_REQ_MAX_RC` tries have been made, and in
  Decline at most `DHCPv6_DEC_MAX_RC`: the timeouts give up after that many, back to
  Solicit (`retransmitOrSolicit_paced`);
* an armed timer never waits a negative time, and once a try is made it waits a positive
  one: the first wait of Solicit, Confirm and Inform is a draw in `[0, MAX_DELAY]` with no
  try made, every retransmission waits its retransmission time, positive by the ledger,
  Renew and Rebind cut it to the whole seconds left to T2 or to the end of the lease, which
  are never none (`renewRebindTimeout_paced`), and the renewal timer of Bound waits the
  seconds left to T1, 10 s past it, or the time left to the recorded renewal on a wake.

Every handler keeps it, the entries of a state establish it, and so does every step from a
client keeping `Core.Inv` with a positive retransmission time once a try is made
(`step_paced`): so does every reachable client (`Reachable.paced`).
-/

namespace DHCPv6Client

/-- The retry limits of Request and Decline, and the wait of the armed timer. -/
structure Core.Paced (c : Core) : Prop where
  request : c.cstate = .request → 1 ≤ c.tries ∧ c.tries ≤ DHCPv6_REQ_MAX_RC
  decline : c.cstate = .decline → 1 ≤ c.tries ∧ c.tries ≤ DHCPv6_DEC_MAX_RC
  delay : ∀ t ∈ c.timer, 0 ≤ t.delay ∧ (c.tries = 0 ∨ 0 < t.delay)

namespace Core.Paced

variable {c : Core}

/-- The pace reads only the state, the tries and the timer. -/
theorem congr {c' : Core} (hp : c.Paced) (hc : c'.cstate = c.cstate) (ht : c'.tries = c.tries)
    (htm : c'.timer = c.timer) : c'.Paced :=
  ⟨fun h => ht ▸ hp.request (hc ▸ h), fun h => ht ▸ hp.decline (hc ▸ h),
    fun t h => ht ▸ hp.delay t (htm ▸ h)⟩

theorem clearTimer (hp : c.Paced) : { c with timer := none }.Paced :=
  ⟨hp.request, hp.decline, fun _ h => by cases h⟩

theorem cancel (hp : c.Paced) : { c with receive := none, timer := none }.Paced :=
  ⟨hp.request, hp.decline, fun _ h => by cases h⟩

/-- A timer armed with a positive wait. -/
theorem arm (hp : c.Paced) {t : TimerCallout} (hd : 0 < t.delay) : { c with timer := some t }.Paced :=
  ⟨hp.request, hp.decline, fun _ h => by cases h; exact ⟨hd.le, .inr hd⟩⟩

/-- A state without retry limit, its timer waiting as the invariant asks. -/
theorem of_free (hs : c.cstate ≠ .request ∧ c.cstate ≠ .decline)
    (hd : ∀ x ∈ c.timer, 0 ≤ x.delay ∧ (c.tries = 0 ∨ 0 < x.delay)) : c.Paced :=
  ⟨fun h => absurd h hs.1, fun h => absurd h hs.2, hd⟩

/-- A state without retry limit with no try made, and a timer of any nonnegative wait. -/
theorem of_entry (hs : c.cstate ≠ .request ∧ c.cstate ≠ .decline) (h0 : c.tries = 0)
    (hd : ∀ x ∈ c.timer, 0 ≤ x.delay) : c.Paced :=
  of_free hs fun x hx => ⟨hd x hx, .inl h0⟩

/-- One more try within the limits, its timer armed with a positive wait. -/
theorem retransmit (hreq : c.cstate = .request → c.tries < DHCPv6_REQ_MAX_RC)
    (hdec : c.cstate = .decline → c.tries < DHCPv6_DEC_MAX_RC) {t : TimerCallout} (hd : 0 < t.delay) :
    { c with tries := c.tries + 1, timer := some t }.Paced :=
  ⟨fun h => ⟨Nat.le_add_left 1 c.tries, hreq h⟩, fun h => ⟨Nat.le_add_left 1 c.tries, hdec h⟩,
    fun _ h => by cases h; exact ⟨hd.le, .inr hd⟩⟩

/-- A retransmission in a state without retry limit. -/
theorem retransmit_free (hs : c.cstate ≠ .request ∧ c.cstate ≠ .decline) {t : TimerCallout}
    (hd : 0 < t.delay) : { c with tries := c.tries + 1, timer := some t }.Paced :=
  retransmit (fun h => absurd h hs.1) (fun h => absurd h hs.2) hd

end Core.Paced

/-- The pace after a branch is the pace after the branch taken: the handlers are proved
along the source's `if` chains with this, without splitting the goal. -/
theorem paced_ite {p : Prop} [Decidable p] {a b : Client} (ha : p → a.core.Paced)
    (hb : ¬p → b.core.Paced) : (if p then a else b).core.Paced := by
  split
  · exact ha ‹_›
  · exact hb ‹_›

/-- The same for a handler that can fault: what it returns after a branch is what the
branch taken returns. -/
theorem paced_of_ite_eq_some {p : Prop} [Decidable p] {a b : Option Client} {s' : Client}
    (ha : p → a = some s' → s'.core.Paced) (hb : ¬p → b = some s' → s'.core.Paced) :
    (if p then a else b) = some s' → s'.core.Paced := by
  split
  · exact ha ‹_›
  · exact hb ‹_›

theorem paced_of_some_eq {x s' : Client} (hx : x.core.Paced) : some x = some s' → s'.core.Paced :=
  fun he => Option.some.inj he ▸ hx

/-- A draw in `[0, d]` is not negative. -/
theorem randomDoubleInRange_nonneg (r : UInt32) {d : ℚ} (hd : 0 ≤ d) :
    0 ≤ randomDoubleInRange r 0 d := by
  unfold randomDoubleInRange
  have : (0 : ℚ) ≤ r.toNat / UINT32_MAX := by positivity
  simp only [sub_zero, zero_add]
  positivity

/-- The renewal timer waits the whole seconds left to T1, or 10 s. -/
theorem renewDelay_pos (u t1 : Nat) : (0 : ℚ) < ((if u < t1 then t1 - u else 10 : Nat) : ℚ) := by
  split
  · exact_mod_cast Nat.sub_pos_of_lt ‹_›
  · norm_num

/-- A lease found still valid, and finite, has started and has not run out. -/
theorem Client.leaseStillValid_bounds {s : Client} {now : ℚ}
    (hv : (s.leaseStillValid now).lease.valid = true) (hf : s.lease.validLifetime ≠ DHCP_INFINITE_LEASE) :
    s.lease.start ≤ now ∧ now - s.lease.start < s.lease.validLifetime := by
  have he := leaseStillValid_of_valid s hv
  rw [he] at hv
  rw [Client.leaseStillValid_eq] at he
  split at he
  · rw [← he] at hv; simp [Client.clearPacket, Client.clearLease] at hv
  · rename_i hne
    simp [Lease.expired, hv, hf] at hne
    exact hne

section

variable (h : Host) (w : World) (s : Client)

/-! ## Entering a state -/

theorem setDelayTimer_paced {d : ℚ} (hd : 0 ≤ d) (f : Handler)
    (hs : s.cstate ≠ .request ∧ s.cstate ≠ .decline) (h0 : s.tries = 0) : (s.setDelayTimer w d f).core.Paced :=
  Core.Paced.of_entry hs h0 (by simpa using randomDoubleInRange_nonneg _ hd)

theorem solicitStart_paced : (solicitStart w s).core.Paced :=
  setDelayTimer_paced w _ (by norm_num [DHCPv6_SOL_MAX_DELAY]) _ ⟨nofun, nofun⟩ rfl

theorem unboundStart_paced : (unboundStart w s).core.Paced := solicitStart_paced w _

theorem confirmStart_paced : (confirmStart w s).core.Paced :=
  setDelayTimer_paced w _ (by norm_num [DHCPv6_CNF_MAX_DELAY]) _ ⟨nofun, nofun⟩ rfl

theorem inactive_paced (hp : s.core.Paced) : (s.inactive w).core.Paced := by
  rw [Client.core_inactive]
  exact hp.clearTimer.congr rfl rfl rfl

theorem leaseStillValid_paced (now : ℚ) (hp : s.core.Paced) : (s.leaseStillValid now).core.Paced := by
  rw [Client.core_leaseStillValid]
  split
  · exact hp.congr rfl rfl rfl
  · exact hp

/-- The timeouts of Request and Decline keep within a limit of tries no larger than the
state's. -/
theorem retransmitOrSolicit_paced {MRC : Nat} {IRT MRT : ℚ} {f : Handler} (hIRT : 0 < IRT)
    (hMRT : 0 ≤ MRT) (hreq : s.cstate = .request → MRC ≤ DHCPv6_REQ_MAX_RC)
    (hdec : s.cstate = .decline → MRC ≤ DHCPv6_DEC_MAX_RC) (hr : s.tries ≠ 0 → 0 < s.retransmitTime) :
    (retransmitOrSolicit h w MRC IRT MRT f s).core.Paced := by
  unfold retransmitOrSolicit
  split_ifs with hc
  · exact solicitStart_paced w s
  · rw [core_sendPacket, Client.core_setRetransmitTimer]
    exact Core.Paced.retransmit (fun hq => lt_of_lt_of_le (not_le.mp hc) (hreq hq))
      (fun hq => lt_of_lt_of_le (not_le.mp hc) (hdec hq)) (nextRetransmit_pos w s hIRT hMRT hr)

theorem requestTimeout_paced (hc : s.cstate ≠ .decline) (hr : s.tries ≠ 0 → 0 < s.retransmitTime) :
    (requestTimeout h w s).core.Paced :=
  retransmitOrSolicit_paced h w s (by norm_num [DHCPv6_REQ_TIMEOUT]) (by norm_num [DHCPv6_REQ_MAX_RT])
    (fun _ => le_rfl) (fun hd => absurd hd hc) hr

theorem declineTimeout_paced (hr : s.tries ≠ 0 → 0 < s.retransmitTime) :
    (declineTimeout h w s).core.Paced :=
  retransmitOrSolicit_paced h w s (by norm_num [DHCPv6_DEC_TIMEOUT]) le_rfl (fun _ => by decide)
    (fun _ => le_rfl) hr

theorem requestStart_paced : (requestStart h w s).core.Paced :=
  requestTimeout_paced h w _ nofun (fun h0 => absurd rfl h0)

theorem declineStart_paced : (declineStart h w s).core.Paced :=
  declineTimeout_paced h w _ (fun h0 => absurd rfl h0)

/-! ## Timeouts of Solicit, Inform and Confirm -/

theorem linkCheckedTimeout_paced {transmit : Client → Client}
    (htr : ∀ s' : Client, s'.cstate = s.cstate → (s'.tries ≠ 0 → 0 < s'.retransmitTime) →
      (transmit s').core.Paced)
    (hp : s.core.Paced) (hr : s.tries ≠ 0 → 0 < s.retransmitTime) :
    (linkCheckedTimeout w transmit s).core.Paced := by
  unfold linkCheckedTimeout
  split_ifs with h0
  · exact htr _ rfl (fun h0' => absurd h0 h0')
  · exact inactive_paced w s hp
  · exact htr s rfl hr

theorem solicitTransmit_paced (hc : s.cstate = .solicit) (hr : s.tries ≠ 0 → 0 < s.retransmitTime) :
    (solicitTransmit h w s).core.Paced := by
  have hn := nextRetransmit_pos w s (by norm_num [DHCPv6_SOL_TIMEOUT] : (0 : ℚ) < DHCPv6_SOL_TIMEOUT)
    (by norm_num [DHCPv6_SOL_MAX_RT] : (0 : ℚ) ≤ DHCPv6_SOL_MAX_RT) hr
  simp only [solicitTransmit]
  split_ifs
  · exact requestStart_paced h w s
  all_goals
    try rw [Client.core_emit]
    rw [core_sendSolicit, Client.core_setRetransmitTimer]
    exact Core.Paced.retransmit_free (by simp [hc]) hn

theorem solicitTimeout_paced (hp : s.core.Paced) (hc : s.cstate = .solicit)
    (hr : s.tries ≠ 0 → 0 < s.retransmitTime) : (solicitTimeout h w s).core.Paced :=
  linkCheckedTimeout_paced w s (fun s' hc' hr' => solicitTransmit_paced h w s' (hc'.trans hc) hr') hp hr

theorem informTransmit_paced (hc : s.cstate = .inform) (hr : s.tries ≠ 0 → 0 < s.retransmitTime) :
    (informTransmit h w s).core.Paced := by
  rw [informTransmit, core_sendInform, Client.core_setRetransmitTimer]
  exact Core.Paced.retransmit_free (by simp [hc]) (nextRetransmit_pos w s
    (by norm_num [DHCPv6_INF_TIMEOUT] : (0 : ℚ) < DHCPv6_INF_TIMEOUT)
    (by norm_num [DHCPv6_INF_MAX_RT] : (0 : ℚ) ≤ DHCPv6_INF_MAX_RT) hr)

theorem informTimeout_paced (hp : s.core.Paced) (hc : s.cstate = .inform)
    (hr : s.tries ≠ 0 → 0 < s.retransmitTime) : (informTimeout h w s).core.Paced :=
  linkCheckedTimeout_paced w s (fun s' hc' hr' => informTransmit_paced h w s' (hc'.trans hc) hr') hp hr

theorem informStart_paced : (informStart h w s).core.Paced := by
  unfold informStart
  split
  · exact setDelayTimer_paced w _ (by norm_num [DHCPv6_INF_MAX_DELAY]) _ ⟨nofun, nofun⟩ rfl
  · rw [informTimeout, linkCheckedTimeout]
    split_ifs with h0
    · exact informTransmit_paced h w _ rfl (fun h0' => absurd h0 h0')
    all_goals exact absurd rfl h0

theorem confirmTransmit_paced (hc : s.cstate = .confirm) (hr : s.tries ≠ 0 → 0 < s.retransmitTime) :
    (confirmTransmit h w s).core.Paced := by
  rw [confirmTransmit, core_sendPacket, Client.core_setRetransmitTimer]
  exact Core.Paced.retransmit_free (by simp [hc]) (nextRetransmit_pos w s
    (by norm_num [DHCPv6_CNF_TIMEOUT] : (0 : ℚ) < DHCPv6_CNF_TIMEOUT)
    (by norm_num [DHCPv6_CNF_MAX_RT] : (0 : ℚ) ≤ DHCPv6_CNF_MAX_RT) hr)

/-! ## Bound -/

theorem setRenewTimer_paced (hp : s.core.Paced) (now t : ℚ) : (s.setRenewTimer now t).core.Paced := by
  rw [Client.core_setRenewTimer]
  exact hp.arm (renewDelay_pos _ _)

theorem handleAddressChanged_paced (addrs : List AddrInfo) (hp : s.core.Paced) :
    (handleAddressChanged h w addrs s).core.Paced := by
  have hc : s.postNotification.cancelPendingEvents.core.Paced := by simpa using hp.cancel
  unfold handleAddressChanged
  refine paced_ite (fun _ => hp) fun _ => ?_
  split
  · exact hp
  refine paced_ite (fun _ => declineStart_paced h w s) fun _ => paced_ite (fun _ => hp) fun _ => ?_
  exact paced_ite (fun _ => hc) fun _ =>
    paced_ite (fun _ => unboundStart_paced w _) fun _ => setRenewTimer_paced _ hc _ _

theorem boundCommit_paced {a : In6Addr} {vl pl : Nat} {t : ℚ} (hp : s.core.Paced) :
    (boundCommit h w a vl pl t s).core.Paced := by
  simp only [boundCommit]
  generalize hx : (if (s.ourIp != 0 && s.ourIp != a) = true then
    s.emit (.difaddr s.ourIp w.difaddrOk) else s).emit (.aifaddr a (getPrefixLength w) vl pl w.aifaddrOk) = x
  have hxc : x.core = s.core := by subst hx; rw [Client.core_emit]; split <;> rfl
  have hc : x.postNotification.cancelPendingEvents.core.Paced := by simpa [hxc] using hp.cancel
  refine paced_ite (fun _ => hp) fun _ => paced_ite (fun _ => hxc ▸ hp) fun _ => ?_
  refine paced_ite (fun _ => paced_ite (fun _ => hc) fun _ => setRenewTimer_paced _ hc _ _) fun _ => ?_
  refine handleAddressChanged_paced h w _ _ ?_
  rw [Client.core_with_ourIp, hxc]
  exact hp.congr rfl rfl rfl

theorem boundEnter_paced (a : In6Addr) : (boundEnter h w a s).core.Paced := by
  have hb : { { s.setState .bound with lease.valid := true } with savedVerified := true
      }.cancelPendingEvents.core.Paced := Core.Paced.of_free ⟨nofun, nofun⟩ (fun _ h => by cases h)
  unfold boundEnter
  exact paced_ite (fun _ => boundCommit_paced h w _ hb) fun _ =>
    paced_ite (fun _ => unboundStart_paced w _) fun _ =>
    paced_ite (fun _ => unboundStart_paced w _) fun _ => boundCommit_paced h w _ hb

theorem boundStart_paced {s' : Client} (he : boundStart h w s = some s') : s'.core.Paced := by
  obtain ⟨a, -, rfl⟩ := Option.map_eq_some'.mp he
  exact boundEnter_paced h w s _

theorem confirmTimeout_paced {s' : Client} (hp : s.core.Paced) (hc : s.cstate = .confirm)
    (hr : s.tries ≠ 0 → 0 < s.retransmitTime) (he : confirmTimeout h w s = some s') : s'.core.Paced := by
  unfold confirmTimeout at he
  refine paced_of_ite_eq_some (fun h0 => paced_of_some_eq ?_) (fun _ => ?_) he
  · exact confirmTransmit_paced h w _ hc fun h0' => absurd h0 h0'
  refine paced_of_ite_eq_some (fun _ => paced_of_some_eq (inactive_paced w s hp)) fun _ => ?_
  refine paced_of_ite_eq_some (fun _ => paced_of_some_eq (confirmTransmit_paced h w s hc hr)) fun _ => ?_
  exact paced_of_ite_eq_some (fun _ => boundStart_paced h w _) fun _ => paced_of_some_eq (solicitStart_paced w _)

/-! ## Renew and Rebind -/

theorem nextRetransmit_cstate (IRT MRT : ℚ) : (s.nextRetransmit w IRT MRT).cstate = s.cstate :=
  congrArg Core.cstate (Client.core_nextRetransmit w s IRT MRT)

theorem renewRebindTransmit_paced {d : ℚ} (hd : 0 < d) (hs : s.cstate ≠ .request ∧ s.cstate ≠ .decline) :
    (renewRebindTransmit h w d s).core.Paced := by
  rw [core_renewRebindTransmit]
  exact Core.Paced.of_free hs (fun _ hx => by cases hx; exact ⟨hd.le, .inr hd⟩)

/-- The timeout of Renew and Rebind on a finite 32-bit lease: a lease no longer valid is
Unbound; otherwise one more try, its timer waiting the retransmission time cut to what is
left to T2 or to the end of the lease, which is never nothing. -/
theorem renewRebindTimeout_paced (hc : s.cstate.isBoundRenewOrRebind)
    (hf : s.lease.valid = true → s.lease.validLifetime < DHCP_INFINITE_LEASE)
    (hr : s.tries ≠ 0 → 0 < s.retransmitTime) : (renewRebindTimeout h w s).core.Paced := by
  have hs : s.cstate ≠ .request ∧ s.cstate ≠ .decline := by
    simp only [ClientState.isBoundRenewOrRebind_eq_true] at hc
    rcases hc with hc | hc | hc <;> rw [hc] <;> exact ⟨nofun, nofun⟩
  simp only [renewRebindTimeout]
  by_cases hv : (s.leaseStillValid w.now).lease.valid
  · have he := leaseStillValid_of_valid s hv
    obtain ⟨hst, hx⟩ := Client.leaseStillValid_bounds hv (hf (he ▸ hv)).ne
    rw [he] at hv ⊢
    rw [if_neg (by simp [hv])]
    have hu : toUInt32 (w.now - s.lease.start) < s.lease.validLifetime :=
      lt_of_le_of_lt (min_le_left _ _) ((Nat.floor_lt (sub_nonneg.mpr hst)).mpr hx)
    have hcut : (0 : ℚ) < (u32Sub s.lease.validLifetime (toUInt32 (w.now - s.lease.start)) : ℕ) := by
      rw [u32Sub_eq_sub hu.le (hf hv).le]
      exact_mod_cast Nat.sub_pos_of_lt hu
    split_ifs with ht2 hreb
    · exact renewRebindTransmit_paced h w _ (lt_min (nextRetransmit_pos w s
        (by norm_num [DHCPv6_REN_TIMEOUT] : (0 : ℚ) < DHCPv6_REN_TIMEOUT)
        (by norm_num [DHCPv6_REN_MAX_RT] : (0 : ℚ) ≤ DHCPv6_REN_MAX_RT) hr)
        (by rw [nextRetransmit_lease]; exact_mod_cast Nat.sub_pos_of_lt ht2))
        (by rw [nextRetransmit_cstate]; exact hs)
    · exact renewRebindTransmit_paced h w _ (lt_min (nextRetransmit_pos w _
        (by norm_num [DHCPv6_REB_TIMEOUT] : (0 : ℚ) < DHCPv6_REB_TIMEOUT)
        (by norm_num [DHCPv6_REB_MAX_RT] : (0 : ℚ) ≤ DHCPv6_REB_MAX_RT) (fun h0 => absurd rfl h0))
        (by rw [nextRetransmit_lease]; exact hcut))
        (by rw [nextRetransmit_cstate]; exact ⟨nofun, nofun⟩)
    · exact renewRebindTransmit_paced h w _ (lt_min (nextRetransmit_pos w s
        (by norm_num [DHCPv6_REB_TIMEOUT] : (0 : ℚ) < DHCPv6_REB_TIMEOUT)
        (by norm_num [DHCPv6_REB_MAX_RT] : (0 : ℚ) ≤ DHCPv6_REB_MAX_RT) hr)
        (by rw [nextRetransmit_lease]; exact hcut))
        (by rw [nextRetransmit_cstate]; exact hs)
  · rw [if_pos (by simpa using hv)]
    exact unboundStart_paced w _

theorem renewRebindStart_paced (hf : s.lease.valid = true → s.lease.validLifetime < DHCP_INFINITE_LEASE) :
    (renewRebindStart h w s).core.Paced :=
  renewRebindTimeout_paced h w _ rfl hf (fun h0 => absurd rfl h0)

/-! ## Events -/

theorem handleWake_paced (ev : LinkEventData) (hp : s.core.Paced)
    (hf : s.lease.valid = true → s.lease.validLifetime ≤ DHCP_INFINITE_LEASE) :
    (handleWake h w ev s).core.Paced := by
  have hr : (s.removeAddress w).core.Paced := by rw [Client.core_removeAddress]; exact hp.congr rfl rfl rfl
  have hl := leaseStillValid_paced s w.now hp
  have hlf : (s.leaseStillValid w.now).lease.valid = true →
      (s.leaseStillValid w.now).lease.validLifetime ≤ DHCP_INFINITE_LEASE := fun hv => by
    have he := leaseStillValid_of_valid s hv
    rw [he] at hv ⊢
    exact hf hv
  unfold handleWake
  refine paced_ite (fun _ => paced_ite (fun _ => hr) fun _ =>
    paced_ite (fun _ => solicitStart_paced w _) fun _ => hr) fun _ => ?_
  refine paced_ite (fun _ => paced_ite (fun _ => unboundStart_paced w _) fun _ => hl) fun _ => ?_
  refine paced_ite (fun _ => confirmStart_paced w _) fun _ => paced_ite (fun _ => hl) fun hinf => ?_
  refine paced_ite (fun hfut => ?_) fun _ =>
    renewRebindStart_paced h w _ fun hv => lt_of_le_of_ne (hlf hv) hinf
  rw [Client.core_timerCalloutSet]
  simp only [timeInFuture, Bool.and_eq_true, decide_eq_true_eq] at hfut
  exact hl.arm (sub_pos.mpr hfut.1)

theorem confirmIfBound_paced (hp : s.core.Paced) : (confirmIfBound w s).core.Paced := by
  simp only [confirmIfBound]
  split_ifs
  · exact confirmStart_paced w _
  · exact leaseStillValid_paced s w.now hp

theorem handleEvent_paced (e : IFEvent) (hp : s.core.Paced)
    (hf : s.lease.valid = true → s.lease.validLifetime ≤ DHCP_INFINITE_LEASE) :
    (handleEvent h w e s).core.Paced := by
  unfold handleEvent
  split_ifs
  · exact hp
  split
  · exact handleAddressChanged_paced h w s _ hp
  · exact handleWake_paced h w s _ hp hf
  · split_ifs
    · exact confirmIfBound_paced w s hp
    · exact hp
  · split_ifs
    · exact confirmIfBound_paced w s hp
    · exact hp
  · exact confirmIfBound_paced w s hp
  · exact hp

theorem start_paced (allocateAddress privacyRequired : Bool) :
    (start h w allocateAddress privacyRequired s).core.Paced := by
  simp only [start]
  split_ifs
  · exact confirmStart_paced w _
  · exact solicitStart_paced w _
  · exact informStart_paced h w _

theorem stop_paced (discardInformation : Bool) : (stop w discardInformation s).core.Paced := by
  cases discardInformation <;> exact Core.Paced.of_free ⟨nofun, nofun⟩ (fun _ h => by cases h)

/-! ## Timers and packets -/

/-- The armed timer runs a handler of the state, which keeps the pace. -/
theorem runTimer_paced {t : TimerCallout} {s' : Client} (hi : s.core.Inv) (hp : s.core.Paced)
    (hr : s.tries ≠ 0 → 0 < s.retransmitTime) (ht : s.timer = some t)
    (he : runTimer h w t { s with timer := none } = some s') : s'.core.Paced := by
  have hta : timerAgrees s.cstate t := by simpa [ht] using hi.timer
  have hp₀ : { s with timer := none }.core.Paced := hp.clearTimer
  have hf : t.func = .renewRebind → s.lease.valid = true →
      s.lease.validLifetime < DHCP_INFINITE_LEASE := fun hrr hv =>
    lt_of_le_of_ne (hi.normalized hv).valid_le fun hl => by simpa [ht, hrr] using (hi.infinite hv hl).2.2
  obtain ⟨f, ev, d⟩ := t
  cases f <;> simp [timerAgrees, Handler.states] at hta <;> cases ev <;>
    simp only [runTimer, Option.some.injEq] at he
  · subst he; exact solicitStart_paced w _
  · subst he; exact solicitTimeout_paced h w _ hp₀ hta hr
  · subst he; exact requestStart_paced h w _
  · subst he; exact requestTimeout_paced h w _ (by simp [hta]) hr
  · subst he; exact renewRebindStart_paced h w _ (hf rfl)
  · subst he
    exact renewRebindTimeout_paced h w _ (by simpa [or_comm, or_left_comm] using hta) (hf rfl) hr
  · subst he; exact confirmStart_paced w _
  · exact confirmTimeout_paced h w _ hp₀ hta hr he
  · subst he; exact declineStart_paced h w _
  · subst he; exact declineTimeout_paced h w _ hr
  · subst he; exact informStart_paced h w _
  · subst he; exact informTimeout_paced h w _ hp₀ hta hr

/-- A received packet leaves the pace as it was, or enters a state. -/
theorem runReceive_paced {f : Handler} {p : DHCPv6Packet} {s' : Client} (hp : s.core.Paced)
    (he : runReceive h w f p s = some s') : s'.core.Paced := by
  obtain ⟨d, hd⟩ := Client.afterMatch_eq w s kDHCPv6MessageREPLY p
  have ha : { s with duid := d }.core.Paced := hp
  have hs : ∀ {x : Client}, some { s with duid := d } = some x → x.core.Paced := paced_of_some_eq ha
  cases f <;> simp only [runReceive, Option.some.injEq] at he
  · subst he
    obtain ⟨d', hd'⟩ := solicitData_eq h w s p
    rw [hd']
    exact paced_ite (fun _ => paced_ite (fun _ => requestStart_paced h w _) fun _ => by
      rw [Client.core_savePacket]; exact hp.congr rfl rfl rfl) fun _ => hp
  · simp only [requestData, hd] at he
    refine paced_of_ite_eq_some (fun _ => hs) (fun _ => ?_) he
    split
    · exact hs
    exact paced_of_ite_eq_some (fun _ => hs) fun _ =>
      paced_of_ite_eq_some (fun _ => paced_of_some_eq (solicitStart_paced w _)) fun _ =>
      paced_of_ite_eq_some (fun _ => hs) fun _ => boundStart_paced h w _
  · simp only [renewRebindData, hd] at he
    refine paced_of_ite_eq_some (fun _ => hs) (fun _ => ?_) he
    split
    · exact hs
    exact paced_of_ite_eq_some (fun _ => paced_of_some_eq (unboundStart_paced w _)) fun _ =>
      paced_of_ite_eq_some (fun _ => paced_of_some_eq (unboundStart_paced w _)) fun _ => boundStart_paced h w _
  · simp only [confirmData, hd] at he
    refine paced_of_ite_eq_some (fun _ => hs) (fun _ => ?_) he
    split
    · exact hs
    exact paced_of_ite_eq_some (fun _ => paced_of_some_eq (unboundStart_paced w _)) fun _ => boundStart_paced h w _
  · subst he
    simp only [declineData, hd]
    exact paced_ite (fun _ => ha) fun _ => solicitStart_paced w _
  · subst he
    simp only [informData, hd]
    exact paced_ite (fun _ => ha) fun _ => Core.Paced.of_free ⟨nofun, nofun⟩ (fun _ h => by cases h)

/-- The pace is kept by every step that does not fault, from a client keeping the
invariant with a positive retransmission time once a try is made. -/
theorem step_paced {e : Event} {s' : Client} (hi : s.core.Inv) (hp : s.core.Paced)
    (hr : s.tries ≠ 0 → 0 < s.retransmitTime) (he : step h w e s = some s') : s'.core.Paced := by
  have hf : s.lease.valid = true → s.lease.validLifetime ≤ DHCP_INFINITE_LEASE :=
    fun hv => (hi.normalized hv).valid_le
  cases e with
  | start a p => cases he; exact start_paced h w s a p
  | stop d => cases he; exact stop_paced w s d
  | timerFires =>
    simp only [step] at he
    split at he
    · exact runTimer_paced h w s hi hp hr ‹_› he
    · cases he; exact hp
  | receive p =>
    simp only [step] at he
    split at he
    · exact runReceive_paced h w s hp he
    · cases he; exact hp
  | handleEvent e => cases he; exact handleEvent_paced h w s e hp hf
  | setRequestedOptions l => cases he; exact hp

end

theorem create_paced : create.core.Paced := Core.Paced.of_free ⟨nofun, nofun⟩ (fun _ h => by cases h)

/-- Every reachable client keeps its pace. -/
theorem Reachable.paced {h : Host} {s : Client} (hr : Reachable h s) : s.core.Paced := by
  induction hr with
  | create => exact create_paced
  | step w _ hr he ih => exact step_paced h w _ (hr.inv h) ih hr.retransmit_pos he

/-! ## What every reachable client satisfies -/

/-- A Request has made at least one and at most `DHCPv6_REQ_MAX_RC` tries, and a Decline
at least one and at most `DHCPv6_DEC_MAX_RC`: each gives up after its last try, back to
Solicit. -/
theorem reachable_retry_limits {h : Host} {s : Client} (hr : Reachable h s) :
    (s.cstate = .request → 1 ≤ s.tries ∧ s.tries ≤ DHCPv6_REQ_MAX_RC) ∧
    (s.cstate = .decline → 1 ≤ s.tries ∧ s.tries ≤ DHCPv6_DEC_MAX_RC) :=
  ⟨hr.paced.request, hr.paced.decline⟩

theorem exampleRequesting_retry_limits :
    1 ≤ exampleRequesting.tries ∧ exampleRequesting.tries ≤ DHCPv6_REQ_MAX_RC :=
  (reachable_retry_limits exampleRequesting_reachable).1 (by with_unfolding_all rfl)

end DHCPv6Client
