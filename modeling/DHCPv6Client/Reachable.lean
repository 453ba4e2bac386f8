import DHCPv6Client.Invariant

/-!
# Every reachable client keeps the invariant

The events and the public operations keep `Core.Inv` (`handleEvent_inv`, `start_inv`,
`stop_inv`), and so do a fired timer and a received packet, as the handler they run belongs
to the state (`runTimer_inv`, `runReceive_inv`). So does every step (`step_inv`), and
`Reachable.inv` follows by induction on the steps from `create`.
-/

namespace DHCPv6Client

variable (h : Host) (w : World) (s : Client)

/-! ## Events -/

theorem handleWake_inv (ev : LinkEventData) (hi : s.core.Inv) (hm : s.mode = .stateful) :
    (handleWake h w ev s).core.Inv := by
  have hl := leaseStillValid_inv s w.now hi
  simp only [handleWake]
  split
  · split
    · rw [Client.core_removeAddress]; exact hi.clearOurIp
    split
    · exact solicitStart_inv w _ (by simpa using hm)
    · rw [Client.core_removeAddress]; exact hi.clearOurIp
  split
  · split
    · exact unboundStart_inv w _ (by simpa using hm)
    · exact hl
  rename_i hv
  split
  · exact confirmStart_inv w _ (leaseStillValid_savedOk s w.now hi.savedOk) (by simpa using hm)
      (.inl (by simpa using hv))
  rename_i hb
  have hc : (s.leaseStillValid w.now).cstate.isBoundRenewOrRebind := by
    revert hb; cases (s.leaseStillValid w.now).cstate.isBoundRenewOrRebind <;> simp
  split
  · exact hl
  rename_i hinf
  split
  · rw [Client.core_timerCalloutSet]
    exact hl.clearTimer.renewRebindTimer hc (fun _ => hinf) _ .start _
  · exact renewRebindStart_inv h w _ hl.clearTimer hc (fun _ => hinf)

theorem confirmIfBound_inv (hi : s.core.Inv) : (confirmIfBound w s).core.Inv := by
  simp only [confirmIfBound]
  split_ifs with hc
  · simp only [Bool.and_eq_true] at hc
    exact confirmStart_inv w _ (leaseStillValid_savedOk s w.now hi.savedOk)
      (by simpa using hi.mode_eq (mem_statefulStates_of_isBoundRenewOrRebind (by simpa using hc.2)))
      (.inl hc.1)
  · exact leaseStillValid_inv s w.now hi

theorem handleEvent_inv (e : IFEvent) (hi : s.core.Inv) : (handleEvent h w e s).core.Inv := by
  unfold handleEvent
  split_ifs with hm
  · exact hi
  simp only [ne_eq, not_not] at hm
  split
  · exact handleAddressChanged_inv h w s _ hi
  · exact handleWake_inv h w s _ hi hm
  · split_ifs
    · exact confirmIfBound_inv w s hi
    · exact hi
  · split_ifs
    · exact confirmIfBound_inv w s hi
    · exact hi
  · exact confirmIfBound_inv w s hi
  · exact hi

/-! ## Operations -/

theorem start_inv (allocateAddress privacyRequired : Bool) (hs : s.core.SavedOk) :
    (start h w allocateAddress privacyRequired s).core.Inv := by
  simp only [start]
  split_ifs with ha hv
  · exact confirmStart_inv w _ (leaseStillValid_savedOk _ w.now hs) (by simp)
      (.inl ((Bool.and_eq_true _ _).mp hv).1)
  · exact solicitStart_inv w _ (by simp)
  · exact informStart_inv h w _ (by simp) (by simp)

theorem stop_inv (discardInformation : Bool) (hs : s.core.SavedOk) :
    (stop w discardInformation s).core.Inv := by
  have hr : (s.removeAddress w).core.SavedOk := by rw [Client.core_removeAddress]; exact hs
  simp only [stop]
  generalize s.removeAddress w = r at hr ⊢
  split_ifs
  · exact (show Core.Inv { r.core with
        cstate := .inactive, mode := .idle, receive := none, timer := none, saved := none,
        savedVerified := false, serverId := none, iaNa := none, iaAddr := none, lease := {} } from
      ⟨by simp [Core.SavedOk], rfl, rfl, by simp [Core.ModeOk], by simp, by simp, by simp⟩)
  · exact (show Core.Inv { r.core with
        cstate := .inactive, mode := .idle, receive := none, timer := none, savedVerified := false } from
      ⟨hr, rfl, rfl, by simp [Core.ModeOk], by simp, by simp, by simp⟩)

/-- The armed timer runs a handler of the state, which keeps the invariant. -/
theorem runTimer_inv {t : TimerCallout} {s' : Client} (hi : s.core.Inv) (ht : s.timer = some t)
    (he : runTimer h w t { s with timer := none } = some s') : s'.core.Inv := by
  have hta : timerAgrees s.cstate t := by simpa [ht] using hi.timer
  have hi₀ : { s with timer := none }.core.Inv := hi.clearTimer
  have hf : t.func = .renewRebind → s.lease.valid = true →
      s.lease.validLifetime ≠ DHCP_INFINITE_LEASE := fun hr hv hl => by
    simpa [ht, hr] using (hi.infinite hv hl).2.2
  have hsf : s.cstate ∈ statefulStates → s.mode = .stateful := hi.mode_eq
  obtain ⟨f, ev, d⟩ := t
  cases f <;> cases ev <;> simp [timerAgrees, Handler.states] at hta <;>
    simp only [runTimer, Option.some.injEq] at he
  · subst he; exact solicitStart_inv w _ (by simp [hsf, hta, statefulStates])
  · subst he; exact solicitTimeout_inv h w _ hi₀ hta
  · subst he; exact requestStart_inv h w _ hi.savedOk (by simp [hsf, hta, statefulStates])
  · subst he; exact requestTimeout_inv h w _ hi₀ hta
  · subst he; exact renewRebindStart_inv h w _ hi₀ (by simpa [or_comm, or_left_comm] using hta) (hf rfl)
  · subst he; exact renewRebindTimeout_inv h w _ hi₀ (by simpa [or_comm, or_left_comm] using hta) (hf rfl)
  · subst he; exact confirmStart_inv w _ hi.savedOk (by simp [hsf, hta, statefulStates]) (hi.confirm hta)
  · exact confirmTimeout_inv h w _ hi₀ hta he
  · subst he; exact declineStart_inv h w _ hi.savedOk (by simp [hsf, hta, statefulStates])
  · subst he; exact declineTimeout_inv h w _ hi₀ hta
  · subst he
    obtain ⟨hm, hip, -⟩ := hi.stateless (.inl hta)
    exact informStart_inv h w _ hm hip
  · subst he; exact informTimeout_inv h w _ hi₀ hta

/-- The invariant holds of every step that does not fault. -/
theorem step_inv {e : Event} {s' : Client} (hi : s.core.Inv) (he : step h w e s = some s') :
    s'.core.Inv := by
  cases e with
  | start a p => cases he; exact start_inv h w s a p hi.savedOk
  | stop d => cases he; exact stop_inv w s d hi.savedOk
  | timerFires =>
    simp only [step] at he
    split at he
    · exact runTimer_inv h w s hi ‹_› he
    · cases he; exact hi
  | receive p =>
    simp only [step] at he
    split at he
    · exact runReceive_inv h w s hi ‹_› he
    · cases he; exact hi
  | handleEvent e => cases he; exact handleEvent_inv h w s e hi
  | setRequestedOptions l => cases he; exact hi

theorem create_inv : create.core.Inv :=
  ⟨by simp [Core.SavedOk, create], rfl, rfl, by simp [Core.ModeOk, create], by simp [create],
    by simp [create], by simp [create]⟩

/-- Every reachable client keeps the invariant. -/
theorem Reachable.inv {s : Client} (hr : Reachable h s) : s.core.Inv := by
  induction hr with
  | create => exact create_inv
  | step w _ _ he ih => exact step_inv h w _ ih he

/-! ## What every reachable client satisfies -/

/-- The client of `exampleBind` on an infinite lease: Bound, with nothing armed. -/
def infiniteBound : Client :=
  (run exampleHost (exampleBind DHCP_INFINITE_LEASE DHCP_INFINITE_LEASE) create).getD create

theorem infiniteBound_reachable : Reachable exampleHost infiniteBound :=
  Reachable.run exampleHost .create
    (show run exampleHost (exampleBind DHCP_INFINITE_LEASE DHCP_INFINITE_LEASE) create =
      some infiniteBound by with_unfolding_all rfl)

/-- The references into the saved packet are the ones taken from it, all `NULL` without a
packet, `ia_na` `NULL` exactly when `ia_addr` is, and a valid lease has the times of the
saved packet. -/
theorem reachable_references_of_saved {s : Client} (hr : Reachable h s) :
    s.serverId = s.saved.bind (fun p => getOption p.options kDHCPv6OPTION_SERVERID) ∧
    s.iaNa = s.saved.bind (fun p => (getIaNaAddrCode p.options).iaNa) ∧
    s.iaAddr = s.saved.bind (fun p => (getIaNaAddrCode p.options).iaAddr) ∧
    (s.saved = none → s.serverId = none ∧ s.iaNa = none ∧ s.iaAddr = none) ∧
    (s.iaNa = none ↔ s.iaAddr = none) ∧
    (s.lease.valid = true → ∃ p, s.saved = some p ∧
      leaseTimesOf p = some (s.lease.t1, s.lease.t2, s.lease.preferredLifetime, s.lease.validLifetime)) := by
  obtain ⟨hsid, hna, hadr, hl⟩ := (hr.inv h).savedOk
  refine ⟨hsid, hna, hadr, fun hn => by simp_all, ?_, hl⟩
  cases hp : s.saved <;> simp_all [getIaNaAddrCode_iaNa_eq_none]

theorem infiniteBound_references_of_saved :
    infiniteBound.serverId = infiniteBound.saved.bind (fun p => getOption p.options kDHCPv6OPTION_SERVERID) ∧
    infiniteBound.iaNa = infiniteBound.saved.bind (fun p => (getIaNaAddrCode p.options).iaNa) ∧
    infiniteBound.iaAddr = infiniteBound.saved.bind (fun p => (getIaNaAddrCode p.options).iaAddr) ∧
    (infiniteBound.saved = none →
      infiniteBound.serverId = none ∧ infiniteBound.iaNa = none ∧ infiniteBound.iaAddr = none) ∧
    (infiniteBound.iaNa = none ↔ infiniteBound.iaAddr = none) ∧
    (infiniteBound.lease.valid = true → ∃ p, infiniteBound.saved = some p ∧
      leaseTimesOf p = some (infiniteBound.lease.t1, infiniteBound.lease.t2,
        infiniteBound.lease.preferredLifetime, infiniteBound.lease.validLifetime)) :=
  reachable_references_of_saved exampleHost infiniteBound_reachable

/-- The mode fixes the states: Idle is Inactive with nothing armed, Stateless is Inform or
InformComplete with no address and no valid lease, Stateful is a stateful state. -/
theorem reachable_mode_states {s : Client} (hr : Reachable h s) :
    (s.mode = .idle → s.cstate = .inactive ∧ s.timer = none ∧ s.receive = none) ∧
    (s.mode = .stateless →
      (s.cstate = .inform ∨ s.cstate = .informComplete) ∧ s.ourIp = 0 ∧ s.lease.valid = false) ∧
    (s.mode = .stateful → s.cstate ∈
      [.solicit, .request, .bound, .renew, .rebind, .confirm, .decline, .unbound, .release]) := by
  have hm := (hr.inv h).mode
  simp only [Core.ModeOk, Client.core_mode] at hm
  refine ⟨fun h0 => by simpa [h0] using hm, fun h0 => by simpa [h0] using hm, fun h0 => ?_⟩
  have hc : s.cstate ∈ statefulStates := by simpa [h0] using hm
  exact (List.prefix_append statefulStates [.unbound, .release]).subset hc

theorem infiniteBound_mode_states :
    (infiniteBound.mode = .idle →
      infiniteBound.cstate = .inactive ∧ infiniteBound.timer = none ∧ infiniteBound.receive = none) ∧
    (infiniteBound.mode = .stateless →
      (infiniteBound.cstate = .inform ∨ infiniteBound.cstate = .informComplete) ∧
        infiniteBound.ourIp = 0 ∧ infiniteBound.lease.valid = false) ∧
    (infiniteBound.mode = .stateful → infiniteBound.cstate ∈
      [.solicit, .request, .bound, .renew, .rebind, .confirm, .decline, .unbound, .release]) :=
  reachable_mode_states exampleHost infiniteBound_reachable

/-- A valid lease has T1 and T2 of 0 when its valid lifetime is infinite. -/
theorem normalizeLease_of_infinite {t1 t2 preferred valid : Nat}
    (h : (normalizeLease t1 t2 preferred valid).2.2.2 = DHCP_INFINITE_LEASE) :
    (normalizeLease t1 t2 preferred valid).1 = 0 ∧ (normalizeLease t1 t2 preferred valid).2.1 = 0 := by
  simp only [normalizeLease] at h ⊢
  generalize (if t1 = 0 ∨ t2 = 0 then _ else _ : Nat × Nat × Nat × Nat) = q at h ⊢
  obtain ⟨a, b, c, d⟩ := q
  by_cases hd : d = DHCP_INFINITE_LEASE <;> simp_all

/-- An infinite valid lease has T1 and T2 of 0, is never in Renew or Rebind, and has no
timer armed in Bound. -/
theorem reachable_infinite_lease {s : Client} (hr : Reachable h s) (hv : s.lease.valid = true)
    (hinf : s.lease.validLifetime = DHCP_INFINITE_LEASE) :
    s.lease.t1 = 0 ∧ s.lease.t2 = 0 ∧ s.cstate ≠ .renew ∧ s.cstate ≠ .rebind ∧
      (s.cstate = .bound → s.timer = none) := by
  have hi := hr.inv h
  obtain ⟨p, -, hp⟩ := hi.savedOk.2.2.2 hv
  obtain ⟨hrn, hrb, ht⟩ := hi.infinite hv hinf
  have hn : ∃ t1 t2 preferred valid, normalizeLease t1 t2 preferred valid =
      (s.lease.t1, s.lease.t2, s.lease.preferredLifetime, s.lease.validLifetime) := by
    unfold leaseTimesOf at hp
    split at hp
    · exact ⟨_, _, _, _, Option.some_injective _ hp⟩
    · cases hp
  obtain ⟨t1, t2, preferred, valid, hn⟩ := hn
  have h0 := @normalizeLease_of_infinite t1 t2 preferred valid
  refine ⟨by simp_all, by simp_all, hrn, hrb, fun hb => ?_⟩
  have hta := hi.timer
  cases htm : s.timer <;> simp_all [timerAgrees, stateHandler]

theorem infiniteBound_infinite_lease :
    infiniteBound.lease.t1 = 0 ∧ infiniteBound.lease.t2 = 0 ∧ infiniteBound.cstate ≠ .renew ∧
      infiniteBound.cstate ≠ .rebind ∧ (infiniteBound.cstate = .bound → infiniteBound.timer = none) :=
  reachable_infinite_lease exampleHost infiniteBound_reachable (by with_unfolding_all rfl)
    (by with_unfolding_all rfl)

/-- The client of the first three events of `exampleBind`: the ADVERTISE of preference 255
taken at once, the first REQUEST sent and its timer armed. -/
def exampleRequesting : Client :=
  (run exampleHost ((exampleBind 100 200).take 3) create).getD create

theorem exampleRequesting_reachable : Reachable exampleHost exampleRequesting :=
  Reachable.run exampleHost .create
    (show run exampleHost ((exampleBind 100 200).take 3) create = some exampleRequesting by
      with_unfolding_all rfl)

/-- A packet is given to the receive handler of the state, and the armed timer runs the
handler of the state, or the renewal of Bound: no handler of a state left behind is ever
run. -/
theorem reachable_handlers_of_state {s : Client} (hr : Reachable h s) :
    (∀ f ∈ s.receive, s.cstate ∈ f.states) ∧
    (∀ t ∈ s.timer, s.cstate ∈ t.func.states ∨ (s.cstate = .bound ∧ t.func = .renewRebind)) := by
  have hi := hr.inv h
  refine ⟨fun f hf => ?_, fun t ht => ?_⟩
  · simpa [Core.ReceiveOk, Option.mem_def.mp hf] using hi.receive
  · simpa [timerAgrees, Option.mem_def.mp ht] using hi.timer

theorem exampleRequesting_handlers_of_state :
    exampleRequesting.cstate ∈ Handler.request.states ∧
      (exampleRequesting.cstate ∈ Handler.request.states ∨
        (exampleRequesting.cstate = .bound ∧ Handler.request = .renewRebind)) :=
  ⟨(reachable_handlers_of_state exampleHost exampleRequesting_reachable).1 .request
      (by with_unfolding_all rfl),
    (reachable_handlers_of_state exampleHost exampleRequesting_reachable).2 ⟨.request, .timeout, 9 / 10⟩
      (Option.mem_def.mpr (by with_unfolding_all decide))⟩

end DHCPv6Client
