import DHCPv6Client.Machine

/-!
# Retransmission times

`DHCPv6ClientNextRetransmit` draws its jitter from `DHCPv6_RAND`. With the values of those
draws as parameters it is `nextRetransmitWith`, and the model's `Client.nextRetransmit` is
that function at the draws of `arc4random` (`nextRetransmit_eq_with`), which all lie in
`[-0.1, 0.1]` (`abs_dhcpv6Rand_le`). For any jitters in that interval, the times of
successive calls after `DHCPv6ClientClearRetransmit` (`retransmits`):

* `retransmits_tries`: the try is the number of calls;
* `nextRetransmitWith_first`: the first time is `IRT` within a tenth;
* `nextRetransmitWith_subsequent`: each later one is double the one before within a tenth
  of it, not above `MRT` when there is one, or else `MRT` within a tenth; all are positive,
  and from the second on none is above `1.1 * MRT`.
-/

namespace DHCPv6Client

/-! ## Jitter -/

/-- `x + ρ x` is within `|ρ| x` of `x`. -/
theorem abs_jitter_le {ρ x : ℚ} (hρ : |ρ| ≤ 1 / 10) (hx : 0 ≤ x) : |x + ρ * x - x| ≤ x / 10 := by
  rw [add_sub_cancel_left, abs_mul, abs_of_nonneg hx]
  linarith [mul_le_mul_of_nonneg_right hρ hx]

theorem jitter_bounds {ρ x : ℚ} (hρ : |ρ| ≤ 1 / 10) (hx : 0 ≤ x) :
    9 / 10 * x ≤ x + ρ * x ∧ x + ρ * x ≤ 11 / 10 * x := by
  have := abs_le.mp (abs_jitter_le hρ hx)
  constructor <;> linarith [this.1, this.2]

/-- `DHCPv6_RAND` lies in `[-0.1, 0.1]`. -/
theorem abs_dhcpv6Rand_le (r : UInt32) : |dhcpv6Rand r| ≤ 1 / 10 := by
  have hr : (r.toNat : ℚ) ≤ UINT32_MAX := by
    have : r.toNat < 4294967296 := r.toNat_lt_size
    exact_mod_cast (show r.toNat ≤ UINT32_MAX by unfold UINT32_MAX; omega)
  have h0 : (0 : ℚ) ≤ r.toNat / UINT32_MAX := by positivity
  have h1 : (r.toNat : ℚ) / UINT32_MAX ≤ 1 := div_le_one_of_le₀ hr (by positivity)
  rw [dhcpv6Rand, randomDoubleInRange, abs_le]
  constructor <;> linarith

/-! ## One call -/

/-- `DHCPv6ClientNextRetransmit` on (`try`, `retransmit_time`), given what its calls of
`DHCPv6_RAND` return: `ρ₁`, and `ρ₂` when the doubled time is capped. -/
def nextRetransmitWith (IRT MRT ρ₁ ρ₂ : ℚ) : Nat × ℚ → Nat × ℚ
  | (tries, RTprev) =>
    if tries + 1 = 1 then (tries + 1, IRT + ρ₁ * IRT)
    else
      let RT := 2 * RTprev + ρ₁ * RTprev
      (tries + 1, if MRT ≠ 0 ∧ MRT < RT then MRT + ρ₂ * MRT else RT)

/-- The model's `nextRetransmit` is `nextRetransmitWith` at the jitters of its draws. -/
theorem nextRetransmit_eq_with (w : World) (IRT MRT : ℚ) (s : Client) :
    ((s.nextRetransmit w IRT MRT).tries, (s.nextRetransmit w IRT MRT).retransmitTime) =
      nextRetransmitWith IRT MRT (dhcpv6Rand (s.draw w)) (dhcpv6Rand (s.advance.draw w))
        (s.tries, s.retransmitTime) := by
  simp only [Client.nextRetransmit, nextRetransmitWith]
  split_ifs <;> simp_all [initialTimeout, subsequentTimeout, doubledTimeout, capsAt]

theorem nextRetransmitWith_tries (IRT MRT ρ₁ ρ₂ : ℚ) (p : Nat × ℚ) :
    (nextRetransmitWith IRT MRT ρ₁ ρ₂ p).1 = p.1 + 1 := by
  obtain ⟨n, RTprev⟩ := p
  simp only [nextRetransmitWith]; split_ifs <;> rfl

section

variable {IRT MRT ρ₁ ρ₂ : ℚ} (hρ₁ : |ρ₁| ≤ 1 / 10) (hρ₂ : |ρ₂| ≤ 1 / 10)
include hρ₁

/-- The first call after `DHCPv6ClientClearRetransmit`: `IRT` within a tenth. -/
theorem nextRetransmitWith_first (hIRT : 0 ≤ IRT) (RTprev : ℚ) :
    9 / 10 * IRT ≤ (nextRetransmitWith IRT MRT ρ₁ ρ₂ (0, RTprev)).2 ∧
      (nextRetransmitWith IRT MRT ρ₁ ρ₂ (0, RTprev)).2 ≤ 11 / 10 * IRT := by
  simpa [nextRetransmitWith] using jitter_bounds hρ₁ hIRT

include hρ₂

/-- A later call: double the time before within a tenth of it, and not above `MRT` when
there is one; or `MRT` within a tenth. Either way positive, and at most `1.1 * MRT`. -/
theorem nextRetransmitWith_subsequent (hMRT : 0 ≤ MRT) {p : Nat × ℚ} (hn : p.1 ≠ 0) (hprev : 0 < p.2) :
    ((|(nextRetransmitWith IRT MRT ρ₁ ρ₂ p).2 - 2 * p.2| ≤ p.2 / 10 ∧
        (MRT ≠ 0 → (nextRetransmitWith IRT MRT ρ₁ ρ₂ p).2 ≤ MRT)) ∨
      (MRT ≠ 0 ∧ |(nextRetransmitWith IRT MRT ρ₁ ρ₂ p).2 - MRT| ≤ MRT / 10)) ∧
    0 < (nextRetransmitWith IRT MRT ρ₁ ρ₂ p).2 ∧
    (MRT ≠ 0 → (nextRetransmitWith IRT MRT ρ₁ ρ₂ p).2 ≤ 11 / 10 * MRT) := by
  obtain ⟨n, RTprev⟩ := p
  have hd := abs_jitter_le hρ₁ hprev.le
  have hb := jitter_bounds hρ₁ hprev.le
  have hm := jitter_bounds hρ₂ hMRT
  simp only [nextRetransmitWith, Nat.add_eq_right, show n ≠ 0 from hn, if_false]
  split_ifs with hc
  · have hm0 : 0 < MRT := lt_of_le_of_ne hMRT (Ne.symm hc.1)
    exact ⟨.inr ⟨hc.1, abs_jitter_le hρ₂ hMRT⟩, by linarith, fun _ => hm.2⟩
  · have hle : MRT ≠ 0 → 2 * RTprev + ρ₁ * RTprev ≤ MRT := fun h0 => not_lt.mp fun hlt => hc ⟨h0, hlt⟩
    refine ⟨.inl ⟨?_, hle⟩, by dsimp only at hb ⊢; linarith, fun h0 => by linarith [hle h0]⟩
    calc |2 * RTprev + ρ₁ * RTprev - 2 * RTprev| = |RTprev + ρ₁ * RTprev - RTprev| := by ring_nf
      _ ≤ RTprev / 10 := hd

end

/-! ## Successive calls -/

/-- (`try`, `retransmit_time`) after `k` calls following `DHCPv6ClientClearRetransmit`, the
call after `k` drawing `ρ k`; `RT₀` is the time left from before. -/
def retransmits (IRT MRT : ℚ) (ρ : ℕ → ℚ × ℚ) (RT₀ : ℚ) : ℕ → Nat × ℚ
  | 0 => (0, RT₀)
  | k + 1 => nextRetransmitWith IRT MRT (ρ k).1 (ρ k).2 (retransmits IRT MRT ρ RT₀ k)

/-- The client after `DHCPv6ClientClearRetransmit` and `k` calls of
`DHCPv6ClientNextRetransmit`, the call after `k` in the world `ws k`. -/
def Client.retransmitRun (ws : ℕ → World) (IRT MRT : ℚ) (s : Client) : ℕ → Client
  | 0 => s.clearRetransmit
  | k + 1 => (retransmitRun ws IRT MRT s k).nextRetransmit (ws k) IRT MRT

/-- The model's calls are `retransmits` at the jitters of their draws. -/
theorem retransmitRun_eq_retransmits (ws : ℕ → World) (IRT MRT : ℚ) (s : Client) :
    ∃ ρ : ℕ → ℚ × ℚ, (∀ k, |(ρ k).1| ≤ 1 / 10 ∧ |(ρ k).2| ≤ 1 / 10) ∧
      ∀ k, ((s.retransmitRun ws IRT MRT k).tries, (s.retransmitRun ws IRT MRT k).retransmitTime) =
        retransmits IRT MRT ρ s.retransmitTime k := by
  refine ⟨fun k => (dhcpv6Rand ((s.retransmitRun ws IRT MRT k).draw (ws k)),
    dhcpv6Rand ((s.retransmitRun ws IRT MRT k).advance.draw (ws k))),
    fun k => ⟨abs_dhcpv6Rand_le _, abs_dhcpv6Rand_le _⟩, fun k => ?_⟩
  induction k with
  | zero => rfl
  | succ k ih => rw [Client.retransmitRun, nextRetransmit_eq_with, ih]; rfl

section

variable {IRT MRT : ℚ} {ρ : ℕ → ℚ × ℚ} (RT₀ : ℚ)

theorem retransmits_tries (k : ℕ) : (retransmits IRT MRT ρ RT₀ k).1 = k := by
  induction k with
  | zero => rfl
  | succ k ih => rw [retransmits, nextRetransmitWith_tries, ih]

variable (hIRT : 0 < IRT) (hρ : ∀ k, |(ρ k).1| ≤ 1 / 10 ∧ |(ρ k).2| ≤ 1 / 10)
include hIRT hρ

theorem retransmits_first :
    9 / 10 * IRT ≤ (retransmits IRT MRT ρ RT₀ 1).2 ∧ (retransmits IRT MRT ρ RT₀ 1).2 ≤ 11 / 10 * IRT :=
  nextRetransmitWith_first (hρ 0).1 hIRT.le RT₀

variable (hMRT : 0 ≤ MRT)
include hMRT

theorem retransmits_pos {k : ℕ} (hk : 1 ≤ k) : 0 < (retransmits IRT MRT ρ RT₀ k).2 := by
  induction k, hk using Nat.le_induction with
  | base => exact lt_of_lt_of_le (by positivity) (retransmits_first RT₀ hIRT hρ).1
  | succ k hk ih =>
    exact (nextRetransmitWith_subsequent (hρ k).1 (hρ k).2 hMRT
      (by rw [retransmits_tries]; omega) ih).2.1

/-- Each call after the first, from the time before. -/
theorem retransmits_succ {k : ℕ} (hk : 1 ≤ k) :
    ((|(retransmits IRT MRT ρ RT₀ (k + 1)).2 - 2 * (retransmits IRT MRT ρ RT₀ k).2| ≤
          (retransmits IRT MRT ρ RT₀ k).2 / 10 ∧
        (MRT ≠ 0 → (retransmits IRT MRT ρ RT₀ (k + 1)).2 ≤ MRT)) ∨
      (MRT ≠ 0 ∧ |(retransmits IRT MRT ρ RT₀ (k + 1)).2 - MRT| ≤ MRT / 10)) ∧
    0 < (retransmits IRT MRT ρ RT₀ (k + 1)).2 ∧
    (MRT ≠ 0 → (retransmits IRT MRT ρ RT₀ (k + 1)).2 ≤ 11 / 10 * MRT) :=
  nextRetransmitWith_subsequent (hρ k).1 (hρ k).2 hMRT (by rw [retransmits_tries]; omega)
    (retransmits_pos RT₀ hIRT hρ hMRT hk)

/-- The times of successive `DHCPv6ClientNextRetransmit` calls after
`DHCPv6ClientClearRetransmit`, for any jitters in `[-0.1, 0.1]`: the try counts the calls;
the first time is `IRT` within a tenth; each later one is double the one before within a
tenth of it and not above `MRT` when there is one, or `MRT` within a tenth; all are
positive; none after the first is above `1.1 * MRT`, nor the first when `IRT ≤ MRT`. The
model's calls are such a sequence, at the jitters of their draws. -/
theorem retransmits_bounds :
    (∀ k, (retransmits IRT MRT ρ RT₀ k).1 = k) ∧
    (9 / 10 * IRT ≤ (retransmits IRT MRT ρ RT₀ 1).2 ∧ (retransmits IRT MRT ρ RT₀ 1).2 ≤ 11 / 10 * IRT) ∧
    (∀ k, 1 ≤ k →
      (|(retransmits IRT MRT ρ RT₀ (k + 1)).2 - 2 * (retransmits IRT MRT ρ RT₀ k).2| ≤
          (retransmits IRT MRT ρ RT₀ k).2 / 10 ∧
        (MRT ≠ 0 → (retransmits IRT MRT ρ RT₀ (k + 1)).2 ≤ MRT)) ∨
      (MRT ≠ 0 ∧ |(retransmits IRT MRT ρ RT₀ (k + 1)).2 - MRT| ≤ MRT / 10)) ∧
    (∀ k, 1 ≤ k → 0 < (retransmits IRT MRT ρ RT₀ k).2) ∧
    (∀ k, 2 ≤ k → MRT ≠ 0 → (retransmits IRT MRT ρ RT₀ k).2 ≤ 11 / 10 * MRT) ∧
    (IRT ≤ MRT → (retransmits IRT MRT ρ RT₀ 1).2 ≤ 11 / 10 * MRT) ∧
    (∀ (ws : ℕ → World) (s : Client), ∃ ρ' : ℕ → ℚ × ℚ,
      (∀ k, |(ρ' k).1| ≤ 1 / 10 ∧ |(ρ' k).2| ≤ 1 / 10) ∧
      ∀ k, ((s.retransmitRun ws IRT MRT k).tries, (s.retransmitRun ws IRT MRT k).retransmitTime) =
        retransmits IRT MRT ρ' s.retransmitTime k) := by
  have hfirst := @retransmits_first IRT MRT ρ RT₀ hIRT hρ
  refine ⟨retransmits_tries RT₀, hfirst, fun k hk => (retransmits_succ RT₀ hIRT hρ hMRT hk).1,
    fun k hk => retransmits_pos RT₀ hIRT hρ hMRT hk, fun k hk h0 => ?_, fun hle => by linarith [hfirst.2],
    fun ws s => retransmitRun_eq_retransmits ws IRT MRT s⟩
  obtain ⟨j, rfl⟩ : ∃ j, k = j + 1 := ⟨k - 1, by omega⟩
  exact (retransmits_succ RT₀ hIRT hρ hMRT (by omega : 1 ≤ j)).2.2 h0

end

theorem solicitBackoff_bounds :
    (∀ k, (retransmits 1 120 (fun _ => (0, 0)) 0 k).1 = k) ∧
    (9 / 10 * 1 ≤ (retransmits 1 120 (fun _ => (0, 0)) 0 1).2 ∧
      (retransmits 1 120 (fun _ => (0, 0)) 0 1).2 ≤ 11 / 10 * 1) ∧
    (∀ k, 1 ≤ k →
      (|(retransmits 1 120 (fun _ => (0, 0)) 0 (k + 1)).2 - 2 * (retransmits 1 120 (fun _ => (0, 0)) 0 k).2| ≤
          (retransmits 1 120 (fun _ => (0, 0)) 0 k).2 / 10 ∧
        ((120 : ℚ) ≠ 0 → (retransmits 1 120 (fun _ => (0, 0)) 0 (k + 1)).2 ≤ 120)) ∨
      ((120 : ℚ) ≠ 0 ∧ |(retransmits 1 120 (fun _ => (0, 0)) 0 (k + 1)).2 - 120| ≤ 120 / 10)) ∧
    (∀ k, 1 ≤ k → 0 < (retransmits 1 120 (fun _ => (0, 0)) 0 k).2) ∧
    (∀ k, 2 ≤ k → (120 : ℚ) ≠ 0 → (retransmits 1 120 (fun _ => (0, 0)) 0 k).2 ≤ 11 / 10 * 120) ∧
    ((1 : ℚ) ≤ 120 → (retransmits 1 120 (fun _ => (0, 0)) 0 1).2 ≤ 11 / 10 * 120) ∧
    (∀ (ws : ℕ → World) (s : Client), ∃ ρ' : ℕ → ℚ × ℚ,
      (∀ k, |(ρ' k).1| ≤ 1 / 10 ∧ |(ρ' k).2| ≤ 1 / 10) ∧
      ∀ k, ((s.retransmitRun ws 1 120 k).tries, (s.retransmitRun ws 1 120 k).retransmitTime) =
        retransmits 1 120 ρ' s.retransmitTime k) :=
  retransmits_bounds 0 (by norm_num) (fun _ => by norm_num) (by norm_num)

/-- With `IRT` above `MRT`, the first time is above `1.1 * MRT`: here `IRT` of 2 and `MRT`
of 1 give 1.8 on a draw of 0. -/
theorem retransmitRun_first_above_cap :
    (create.retransmitRun (fun _ => exampleWorld 0) 2 1 1).retransmitTime = 9 / 5 ∧
      11 / 10 * 1 < (9 / 5 : ℚ) := by
  norm_num [Client.retransmitRun, Client.nextRetransmit, Client.clearRetransmit, create, initialTimeout,
    dhcpv6Rand, randomDoubleInRange, Client.draw, exampleWorld]

end DHCPv6Client
