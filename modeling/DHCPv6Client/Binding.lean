import DHCPv6Client.Reachable

/-!
# The client binds only on a reply

The client enters Bound, where it puts the leased address on the interface, in two ways
only: on a REPLY that passes the test every receive handler starts with (`packetMatches`:
the message type, the client's transaction ID, its DUID in CLIENTID and a valid SERVERID),
received in Request, Renew, Rebind or Confirm; or when Confirm runs out of time on a lease
still valid, as `DHCPv6Client_Confirm` does.

`NoBind s s'` says that `s'` is in Bound only if `s` was. Every handler keeps it but the
receive handlers of Request, Renew and Rebind, and Confirm, past their test of the packet,
and the timeout of Confirm (`runReceive_noBind`, `runTimer_noBind`); every step from a
client whose receive handler and timer agree with its state (`Core.Inv`) enters Bound only
in those two ways (`step_enters_bound`).
-/

namespace DHCPv6Client

/-- From `s` to `s'` the client did not enter Bound: `s'` is in Bound only if `s` was. -/
def NoBind (s s' : Client) : Prop := s'.cstate = .bound → s.cstate = .bound

namespace NoBind

variable {s s₁ s' : Client}

theorem refl (s : Client) : NoBind s s := id

theorem of_cstate (h : s'.cstate = s.cstate) : NoBind s s' := fun hb => h.symm.trans hb

/-- What the core lemmas compute. -/
theorem of_core (h : s'.core.cstate = s.core.cstate) : NoBind s s' := of_cstate h

theorem of_ne (h : s'.cstate ≠ .bound) : NoBind s s' := fun hb => absurd hb h

theorem of_bound (h : s.cstate = .bound) : NoBind s s' := fun _ => h

theorem trans (h₁ : NoBind s s₁) (h₂ : NoBind s₁ s') : NoBind s s' := fun hb => h₁ (h₂ hb)

/-- The entry into a state other than Bound, then what does not enter Bound. -/
theorem of_entry (h₂ : NoBind s₁ s') (h₁ : s₁.core.cstate ≠ .bound) : NoBind s s' :=
  fun hb => absurd (h₂ hb) h₁

end NoBind

theorem noBind_ite {s : Client} {p : Prop} [Decidable p] {a b : Client} (ha : p → NoBind s a)
    (hb : ¬p → NoBind s b) : NoBind s (if p then a else b) := by
  split
  · exact ha ‹_›
  · exact hb ‹_›

section

variable (h : Host) (w : World) (s : Client)

/-! ## Handlers that never enter Bound -/

theorem solicitStart_noBind : NoBind s (solicitStart w s) := NoBind.of_ne nofun

theorem unboundStart_noBind : NoBind s (unboundStart w s) := NoBind.of_ne nofun

theorem confirmStart_noBind : NoBind s (confirmStart w s) := NoBind.of_ne nofun

theorem retransmitOrSolicit_noBind {MRC : Nat} {IRT MRT : ℚ} {f : Handler} :
    NoBind s (retransmitOrSolicit h w MRC IRT MRT f s) :=
  noBind_ite (fun _ => solicitStart_noBind w s) fun _ => NoBind.of_core (by simp)

theorem requestStart_noBind : NoBind s (requestStart h w s) :=
  NoBind.of_entry (retransmitOrSolicit_noBind h w _) nofun

theorem declineStart_noBind : NoBind s (declineStart h w s) :=
  NoBind.of_entry (retransmitOrSolicit_noBind h w _) (by simp)

theorem linkCheckedTimeout_noBind {transmit : Client → Client}
    (htr : ∀ s' : Client, NoBind s' (transmit s')) : NoBind s (linkCheckedTimeout w transmit s) :=
  noBind_ite (fun _ => (NoBind.of_cstate rfl).trans (htr _)) fun _ =>
    noBind_ite (fun _ => NoBind.of_core (by simp)) fun _ => htr s

theorem solicitTransmit_noBind : NoBind s (solicitTransmit h w s) :=
  noBind_ite (fun _ => requestStart_noBind h w s) fun _ =>
    noBind_ite (fun _ => NoBind.of_core (by simp)) fun _ => NoBind.of_core (by simp)

theorem solicitTimeout_noBind : NoBind s (solicitTimeout h w s) :=
  linkCheckedTimeout_noBind w s (solicitTransmit_noBind h w)

theorem informTimeout_noBind : NoBind s (informTimeout h w s) :=
  linkCheckedTimeout_noBind w s fun _ => NoBind.of_core (by simp [informTransmit])

theorem informStart_noBind : NoBind s (informStart h w s) :=
  NoBind.of_entry (noBind_ite (fun _ => NoBind.of_core (by simp)) fun _ => informTimeout_noBind h w _) nofun

theorem renewRebindTransmit_noBind (d : ℚ) {IRT MRT : ℚ} :
    NoBind s (renewRebindTransmit h w d (s.nextRetransmit w IRT MRT)) :=
  NoBind.of_core (by simp)

theorem renewRebindTimeout_noBind : NoBind s (renewRebindTimeout h w s) := by
  refine (NoBind.of_core (by simp [Client.leaseStillValid_cstate]) : NoBind s (s.leaseStillValid w.now)).trans ?_
  unfold renewRebindTimeout
  generalize s.leaseStillValid w.now = l
  refine noBind_ite (fun _ => unboundStart_noBind w l) fun _ =>
    noBind_ite (fun _ => renewRebindTransmit_noBind h w l _) fun _ => ?_
  refine NoBind.trans ?_ (renewRebindTransmit_noBind h w _ _)
  exact noBind_ite (fun _ => NoBind.of_ne nofun) fun _ => NoBind.refl l

theorem renewRebindStart_noBind : NoBind s (renewRebindStart h w s) :=
  NoBind.of_entry (renewRebindTimeout_noBind h w _) nofun

/-- `DHCPv6ClientHandleAddressChanged` acts in Bound only. -/
theorem handleAddressChanged_noBind (addrs : List AddrInfo) : NoBind s (handleAddressChanged h w addrs s) :=
  noBind_ite (fun _ => NoBind.refl s) fun hc => NoBind.of_bound (not_not.mp (not_or.mp hc).2)

theorem handleWake_noBind (ev : LinkEventData) : NoBind s (handleWake h w ev s) := by
  have hr : NoBind s (s.removeAddress w) := NoBind.of_core (by simp)
  have hl : NoBind s (s.leaseStillValid w.now) := NoBind.of_cstate (Client.leaseStillValid_cstate s w.now)
  unfold handleWake
  refine noBind_ite (fun _ => noBind_ite (fun _ => hr) fun _ =>
    noBind_ite (fun _ => hr.trans (solicitStart_noBind w _)) fun _ => hr) fun _ => ?_
  refine noBind_ite (fun _ => noBind_ite (fun _ => hl.trans (unboundStart_noBind w _)) fun _ => hl) fun _ => ?_
  refine noBind_ite (fun _ => hl.trans (confirmStart_noBind w _)) fun _ => noBind_ite (fun _ => hl) fun _ => ?_
  exact noBind_ite (fun _ => hl.trans (NoBind.of_core (by simp))) fun _ => hl.trans (renewRebindStart_noBind h w _)

theorem confirmIfBound_noBind : NoBind s (confirmIfBound w s) := by
  have hl : NoBind s (s.leaseStillValid w.now) := NoBind.of_cstate (Client.leaseStillValid_cstate s w.now)
  exact noBind_ite (fun _ => hl.trans (confirmStart_noBind w _)) fun _ => hl

theorem handleEvent_noBind (e : IFEvent) : NoBind s (handleEvent h w e s) := by
  unfold handleEvent
  refine noBind_ite (fun _ => NoBind.refl s) fun _ => ?_
  split
  · exact handleAddressChanged_noBind h w s _
  · exact handleWake_noBind h w s _
  · exact noBind_ite (fun _ => confirmIfBound_noBind w s) fun _ => NoBind.refl s
  · exact noBind_ite (fun _ => confirmIfBound_noBind w s) fun _ => NoBind.refl s
  · exact confirmIfBound_noBind w s
  · exact NoBind.refl s

theorem start_noBind (allocateAddress privacyRequired : Bool) :
    NoBind s (start h w allocateAddress privacyRequired s) := by
  unfold start
  refine noBind_ite (fun _ => noBind_ite (fun _ => NoBind.of_ne nofun) fun _ => NoBind.of_ne nofun) fun _ => ?_
  exact NoBind.trans (NoBind.of_core (by simp)) (informStart_noBind h w _)

/-! ## Where the client enters Bound -/

/-- The armed timer enters Bound only as Confirm's timeout. -/
theorem runTimer_noBind {t : TimerCallout} {s' : Client} (he : runTimer h w t s = some s') :
    NoBind s s' ∨ (t.func = .confirm ∧ t.event = .timeout) := by
  obtain ⟨f, ev, d⟩ := t
  cases f <;> cases ev <;> simp only [runTimer, Option.some.injEq] at he
  · exact .inl (he ▸ solicitStart_noBind w s)
  · exact .inl (he ▸ solicitTimeout_noBind h w s)
  · exact .inl (he ▸ requestStart_noBind h w s)
  · exact .inl (he ▸ retransmitOrSolicit_noBind h w s)
  · exact .inl (he ▸ renewRebindStart_noBind h w s)
  · exact .inl (he ▸ renewRebindTimeout_noBind h w s)
  · exact .inl (he ▸ confirmStart_noBind w s)
  · exact .inr ⟨rfl, rfl⟩
  · exact .inl (he ▸ declineStart_noBind h w s)
  · exact .inl (he ▸ retransmitOrSolicit_noBind h w s)
  · exact .inl (he ▸ informStart_noBind h w s)
  · exact .inl (he ▸ informTimeout_noBind h w s)

/-- A received packet enters Bound only in the handlers of Request, Renew and Rebind, and
Confirm, past their test of a REPLY. -/
theorem runReceive_noBind {f : Handler} {p : DHCPv6Packet} {s' : Client}
    (he : runReceive h w f p s = some s') :
    NoBind s s' ∨ ((f = .request ∨ f = .renewRebind ∨ f = .confirm) ∧
      packetMatches h w kDHCPv6MessageREPLY p s = true) := by
  have ha : ∀ t, NoBind s (s.afterMatch w t p) := fun t => NoBind.of_core (by simp)
  have hreply : ∀ {x : Option Client}, (f = .request ∨ f = .renewRebind ∨ f = .confirm) →
      (if (!packetMatches h w kDHCPv6MessageREPLY p s) = true then some (s.afterMatch w kDHCPv6MessageREPLY p)
        else x) = some s' →
      NoBind s s' ∨ ((f = .request ∨ f = .renewRebind ∨ f = .confirm) ∧
        packetMatches h w kDHCPv6MessageREPLY p s = true) := fun hf hx => by
    split at hx
    · cases hx; exact .inl (ha _)
    · rename_i hm
      exact .inr ⟨hf, by simpa using hm⟩
  cases f <;> simp only [runReceive, Option.some.injEq] at he
  · subst he
    obtain ⟨d, hd⟩ := solicitData_eq h w s p
    rw [hd]
    exact .inl (noBind_ite (fun _ => noBind_ite (fun _ => (NoBind.of_core (by simp)).trans
      (requestStart_noBind h w _)) fun _ => NoBind.of_core (by simp)) fun _ => NoBind.of_cstate rfl)
  · exact hreply (.inl rfl) he
  · exact hreply (.inr (.inl rfl)) he
  · exact hreply (.inr (.inr rfl)) he
  · subst he
    exact .inl (noBind_ite (fun _ => ha _) fun _ => (ha _).trans (solicitStart_noBind w _))
  · subst he
    exact .inl (noBind_ite (fun _ => ha _) fun _ => NoBind.of_ne nofun)

/-- A step enters Bound only on a REPLY that passes the handler's test, received in Request,
Renew, Rebind or Confirm, or when Confirm's timer runs out. -/
theorem step_enters_bound {e : Event} {s' : Client} (hi : s.core.Inv) (he : step h w e s = some s')
    (hb : s'.cstate = .bound) (hs : s.cstate ≠ .bound) :
    (∃ p, e = .receive p ∧ packetMatches h w kDHCPv6MessageREPLY p s = true ∧
        (s.cstate = .request ∨ s.cstate = .renew ∨ s.cstate = .rebind ∨ s.cstate = .confirm)) ∨
      (e = .timerFires ∧ s.cstate = .confirm) := by
  cases e with
  | start a p => cases he; exact absurd (start_noBind h w s a p hb) hs
  | stop d => cases he; exact absurd hb nofun
  | timerFires =>
    simp only [step] at he
    split at he
    · rename_i t ht
      rcases runTimer_noBind h w { s with timer := none } he with hn | ⟨hf, -⟩
      · exact absurd (hn hb) hs
      · have hta : timerAgrees s.cstate t := by simpa [ht] using hi.timer
        simp only [timerAgrees, hf, stateHandler_eq_some, Handler.states] at hta
        exact .inr ⟨rfl, by simpa [Handler.states] using hta⟩
    · cases he; exact absurd hb hs
  | receive p =>
    simp only [step] at he
    split at he
    · rename_i f hf
      rcases runReceive_noBind h w s he with hn | ⟨hff, hm⟩
      · exact absurd (hn hb) hs
      · have hro : stateHandler s.cstate = some f := by
          simpa [Core.ReceiveOk, hf] using hi.receive
        rw [stateHandler_eq_some] at hro
        refine .inl ⟨p, rfl, hm, ?_⟩
        rcases hff with rfl | rfl | rfl <;>
          simp only [Handler.states, List.mem_cons, List.mem_singleton, List.not_mem_nil, or_false] at hro
        · exact .inl hro
        · exact .inr (hro.imp id .inl)
        · exact .inr (.inr (.inr hro))
    · cases he; exact absurd hb hs
  | handleEvent e => cases he; exact absurd (handleEvent_noBind h w s e hb) hs
  | setRequestedOptions l => cases he; exact absurd hb hs

end

/-- The example client once the server's REPLY to its REQUEST has arrived. -/
def exampleReplied : Client :=
  (step exampleHost (exampleWorld 0) (.receive (exampleMessage kDHCPv6MessageREPLY 100 200 []))
    exampleRequesting).getD create

/-- A reachable client enters Bound, where it puts the leased address on the interface, only
on a REPLY that passes its test (message type, transaction ID, its DUID, a valid SERVERID),
received in Request, Renew, Rebind or Confirm, or when Confirm runs out of time. -/
theorem reachable_binds_only_on_reply {h : Host} {w : World} {e : Event} {s s' : Client}
    (hr : Reachable h s) (he : step h w e s = some s') (hb : s'.cstate = .bound) (hs : s.cstate ≠ .bound) :
    (∃ p, e = .receive p ∧ packetMatches h w kDHCPv6MessageREPLY p s = true ∧
        (s.cstate = .request ∨ s.cstate = .renew ∨ s.cstate = .rebind ∨ s.cstate = .confirm)) ∨
      (e = .timerFires ∧ s.cstate = .confirm) :=
  step_enters_bound h w s (hr.inv h) he hb hs

theorem exampleRequesting_binds_on_reply :
    step exampleHost (exampleWorld 0) (.receive (exampleMessage kDHCPv6MessageREPLY 100 200 []))
        exampleRequesting = some exampleReplied ∧
      exampleReplied.cstate = .bound ∧ exampleRequesting.cstate ≠ .bound ∧
      ((∃ p, Event.receive (exampleMessage kDHCPv6MessageREPLY 100 200 []) = .receive p ∧
          packetMatches exampleHost (exampleWorld 0) kDHCPv6MessageREPLY p exampleRequesting = true ∧
          (exampleRequesting.cstate = .request ∨ exampleRequesting.cstate = .renew ∨
            exampleRequesting.cstate = .rebind ∨ exampleRequesting.cstate = .confirm)) ∨
        (Event.receive (exampleMessage kDHCPv6MessageREPLY 100 200 []) = .timerFires ∧
          exampleRequesting.cstate = .confirm)) :=
  have he : step exampleHost (exampleWorld 0) (.receive (exampleMessage kDHCPv6MessageREPLY 100 200 []))
      exampleRequesting = some exampleReplied := by
    with_unfolding_all rfl
  have hb : exampleReplied.cstate = .bound := by with_unfolding_all decide
  have hs : exampleRequesting.cstate ≠ .bound := by with_unfolding_all decide
  ⟨he, hb, hs, reachable_binds_only_on_reply exampleRequesting_reachable he hb hs⟩

end DHCPv6Client
