import DHCPv6Client.Ledger

/-!
# The wait of Renew and Rebind

On a timeout `DHCPv6Client_RenewRebind` waits the next retransmission time, cut before T2
to the seconds left to T2, and from T2 on to the seconds left of the lease; the seconds
passed are the real time since the lease's start truncated to 32 bits.

* `toUInt32_eq_floor`, `lt_toUInt32_add_one`: below `UINT32_MAX` the truncation is the
  whole seconds passed, within a second below the real time;
* `renewRebindTransmit_cut`: a wait cut to the whole seconds left to a bound is positive,
  and the time recorded is less than a second past the bound;
* `renewRebindTimeout_wait`: for a finite lease still valid, and a retransmission time
  that is positive once a try is made, the timer is armed with a positive wait that is
  recorded as `renew_rebind_time`, the 32-bit differences do not wrap, and the time
  recorded is less than a second past T2 in Renew, and past the end of the lease in
  Rebind: the truncation drops the fraction of a second, and the cut gives it back;
* `renewRebindStart_eq`, `Reachable.retransmit_pos`: the start falls through to the
  timeout on the same lease with no try made, and every reachable client has a positive
  retransmission time once a try is made, so the wait of every timer either entry arms
  is so bounded.
-/

namespace DHCPv6Client

/-! ## The seconds passed -/

/-- Below `UINT32_MAX` the truncation is the floor. -/
theorem toUInt32_eq_floor {x : ℚ} (hx : ⌊x⌋₊ < UINT32_MAX) : toUInt32 x = ⌊x⌋₊ :=
  min_eq_left hx.le

theorem lt_toUInt32_add_one {x : ℚ} (hx : ⌊x⌋₊ < UINT32_MAX) : x < toUInt32 x + 1 := by
  rw [toUInt32_eq_floor hx]
  exact Nat.lt_floor_add_one x

/-! ## The timeout of Renew and Rebind -/

section

variable (h : Host) (w : World)

/-- The transmission of Renew and Rebind with the retransmission time cut to the whole
seconds `B - u` left to a bound `B` that the truncated elapsed time `u` has not reached: the
timer is armed with a positive wait, recorded as `renew_rebind_time`, which is less than a
second past `start + B` when `u` is within a second below the real time elapsed since
`start`; the state is kept. -/
theorem renewRebindTransmit_cut (s : Client) {start : ℚ} {B u : Nat} (hu : u < B)
    (hxu : w.now - start < u + 1) (hrt : 0 < s.retransmitTime) :
    ∃ wait, (renewRebindTransmit h w (min s.retransmitTime ((B - u : ℕ) : ℚ)) s).timer =
        some ⟨.renewRebind, .timeout, wait⟩ ∧ 0 < wait ∧
      (renewRebindTransmit h w (min s.retransmitTime ((B - u : ℕ) : ℚ)) s).renewRebindTime = w.now + wait ∧
      (renewRebindTransmit h w (min s.retransmitTime ((B - u : ℕ) : ℚ)) s).renewRebindTime < start + B + 1 ∧
      (renewRebindTransmit h w (min s.retransmitTime ((B - u : ℕ) : ℚ)) s).cstate = s.cstate := by
  obtain ⟨d, o, he⟩ := sendPacket_eq h w
    ({ s with renewRebindTime := w.now + min s.retransmitTime ((B - u : ℕ) : ℚ) }
      |>.timerCalloutSet (min s.retransmitTime ((B - u : ℕ) : ℚ)) .renewRebind .timeout)
  rw [renewRebindTransmit, he]
  have hb : ((B - u : ℕ) : ℚ) = B - u := Nat.cast_sub hu.le
  have hcut := min_le_right s.retransmitTime ((B - u : ℕ) : ℚ)
  rw [hb] at hcut ⊢
  refine ⟨_, rfl, lt_min hrt (sub_pos.mpr (by exact_mod_cast hu)), rfl, ?_, rfl⟩
  show w.now + _ < _
  linarith

theorem nextRetransmit_lease (IRT MRT : ℚ) (s : Client) : (s.nextRetransmit w IRT MRT).lease = s.lease :=
  congrArg Core.lease (Client.core_nextRetransmit w s IRT MRT)

/-- The timeout of `DHCPv6Client_RenewRebind` on a finite 32-bit lease that is still valid,
with a positive retransmission time once a try is made: the timer is armed with a
positive wait, recorded as `renew_rebind_time`; before T2 the client stays in its state,
`t2 - (uint32_t)time_since_start` does not wrap, and the time recorded is less than a
second past T2; from T2 on the client is in Rebind,
`valid_lifetime - (uint32_t)time_since_start` does not wrap, and the time recorded is
less than a second past the end of the lease. -/
theorem renewRebindTimeout_wait (s : Client) (hv : s.lease.valid = true)
    (hf : s.lease.validLifetime < DHCP_INFINITE_LEASE) (ht2 : s.lease.t2 ≤ DHCP_INFINITE_LEASE)
    (hs : s.lease.start ≤ w.now) (hx : w.now - s.lease.start < s.lease.validLifetime)
    (hrt : s.tries ≠ 0 → 0 < s.retransmitTime) :
    ∃ wait, (renewRebindTimeout h w s).timer = some ⟨.renewRebind, .timeout, wait⟩ ∧ 0 < wait ∧
      (renewRebindTimeout h w s).renewRebindTime = w.now + wait ∧
      (toUInt32 (w.now - s.lease.start) < s.lease.t2 →
        (renewRebindTimeout h w s).cstate = s.cstate ∧
        u32Sub s.lease.t2 (toUInt32 (w.now - s.lease.start)) =
          s.lease.t2 - toUInt32 (w.now - s.lease.start) ∧
        (renewRebindTimeout h w s).renewRebindTime < s.lease.start + s.lease.t2 + 1) ∧
      (s.lease.t2 ≤ toUInt32 (w.now - s.lease.start) →
        (renewRebindTimeout h w s).cstate = .rebind ∧
        u32Sub s.lease.validLifetime (toUInt32 (w.now - s.lease.start)) =
          s.lease.validLifetime - toUInt32 (w.now - s.lease.start) ∧
        (renewRebindTimeout h w s).renewRebindTime < s.lease.start + s.lease.validLifetime + 1) := by
  have hx0 : 0 ≤ w.now - s.lease.start := sub_nonneg.mpr hs
  have hfl : ⌊w.now - s.lease.start⌋₊ < s.lease.validLifetime := (Nat.floor_lt hx0).mpr hx
  have hmax : ⌊w.now - s.lease.start⌋₊ < UINT32_MAX := hfl.trans hf
  have hxu := lt_toUInt32_add_one hmax
  have huv : toUInt32 (w.now - s.lease.start) < s.lease.validLifetime := toUInt32_eq_floor hmax ▸ hfl
  have hls : s.leaseStillValid w.now = s := by
    simp [Client.leaseStillValid, hv, hf.ne, not_lt.mpr hs, not_le.mpr hx]
  simp only [renewRebindTimeout, hls, hv, Bool.not_true, Bool.false_eq_true, if_false]
  generalize toUInt32 (w.now - s.lease.start) = u at hxu huv ⊢
  by_cases h2 : u < s.lease.t2
  · rw [if_pos h2, nextRetransmit_lease]
    obtain ⟨wait, ht, hw0, hrr, hlt, hcs⟩ := renewRebindTransmit_cut h w _ h2 hxu
      (nextRetransmit_pos w s (by norm_num [DHCPv6_REN_TIMEOUT] : (0 : ℚ) < DHCPv6_REN_TIMEOUT)
        (by norm_num [DHCPv6_REN_MAX_RT] : (0 : ℚ) ≤ DHCPv6_REN_MAX_RT) hrt)
    refine ⟨wait, ht, hw0, hrr, fun _ => ⟨hcs.trans ?_, u32Sub_eq_sub h2.le ht2, hlt⟩,
      fun h2' => absurd h2 (not_lt.mpr h2')⟩
    exact congrArg Core.cstate (Client.core_nextRetransmit w s _ _)
  · rw [if_neg h2]
    generalize hs₂ : (if s.cstate ≠ .rebind then
      ({ s.newTransactionId w with startTime := w.now }.setState .rebind).clearRetransmit else s) = s₂
    obtain ⟨hl₂, hc₂, hr₂⟩ : s₂.lease = s.lease ∧ s₂.cstate = .rebind ∧
        (s₂.tries ≠ 0 → 0 < s₂.retransmitTime) := by
      rw [← hs₂]
      split_ifs with hc
      · exact ⟨rfl, rfl, fun h0 => absurd rfl h0⟩
      · exact ⟨rfl, not_not.mp hc, hrt⟩
    have hsub := u32Sub_eq_sub huv.le hf.le
    rw [nextRetransmit_lease, hl₂, hsub]
    obtain ⟨wait, ht, hw0, hrr, hlt, hcs⟩ := renewRebindTransmit_cut h w _ huv hxu
      (nextRetransmit_pos w s₂ (by norm_num [DHCPv6_REB_TIMEOUT] : (0 : ℚ) < DHCPv6_REB_TIMEOUT)
        (by norm_num [DHCPv6_REB_MAX_RT] : (0 : ℚ) ≤ DHCPv6_REB_MAX_RT) hr₂)
    refine ⟨wait, ht, hw0, hrr, fun h2' => absurd h2' h2, fun _ => ⟨hcs.trans ?_, rfl, hlt⟩⟩
    exact (congrArg Core.cstate (Client.core_nextRetransmit w s₂ _ _)).trans hc₂

theorem exampleLease_wait :
    ∃ wait, (renewRebindTimeout exampleHost (exampleWorld 50)
        { create with lease := ⟨0, 50, 80, 200, 100, true, none⟩ }).timer =
        some ⟨.renewRebind, .timeout, wait⟩ ∧ 0 < wait ∧
      (renewRebindTimeout exampleHost (exampleWorld 50)
        { create with lease := ⟨0, 50, 80, 200, 100, true, none⟩ }).renewRebindTime = 50 + wait :=
  let ⟨wait, ht, hw, hr, _⟩ := renewRebindTimeout_wait exampleHost (exampleWorld 50)
    { create with lease := ⟨0, 50, 80, 200, 100, true, none⟩ } rfl (by decide) (by decide)
    (by norm_num [exampleWorld]) (by norm_num [exampleWorld]) (fun h0 => absurd rfl h0)
  ⟨wait, ht, hw, hr⟩

/-- The start of `DHCPv6Client_RenewRebind` is its timeout on the same lease, in Renew,
with no try made. -/
theorem renewRebindStart_eq (s : Client) : ∃ s₀ : Client, renewRebindStart h w s = renewRebindTimeout h w s₀ ∧
    s₀.lease = s.lease ∧ s₀.tries = 0 ∧ s₀.cstate = .renew :=
  ⟨_, rfl, rfl, rfl, rfl⟩

end

theorem Reachable.retransmit_pos {h : Host} {s : Client} (hr : Reachable h s) :
    s.tries ≠ 0 → 0 < s.retransmitTime :=
  hr.ledger.retransmit

/-- Bound at 0 s on a lease of 100 s preferred and 200 s valid (T1 50 s, T2 80 s), the
interface reporting the address, so that the renewal timer is armed; Renew starts at 50 s,
and its timeout at 79.5 s cuts the wait to the one second left to T2 by the truncated clock,
so the next attempt is recorded for 80.5 s, past T2. -/
theorem renew_scheduled_past_t2 :
    (run exampleHost (exampleBind 100 200 ++
        [(exampleWorld 0, .handleEvent (.ipv6AddressChanged [⟨iaAddrGetAddress exampleAddress, 64, 0⟩])),
          (exampleWorld 50, .timerFires), (exampleWorld (159 / 2), .timerFires)]) create).map
        (fun s => (s.cstate, s.lease.start + (s.lease.t2 : ℚ), s.renewRebindTime)) =
      some (.renew, 80, 161 / 2) := by
  with_unfolding_all decide

end DHCPv6Client
