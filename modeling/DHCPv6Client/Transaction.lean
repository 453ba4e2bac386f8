import DHCPv6Client.Exchange

/-!
# A retransmission keeps its transaction

A DHCPv6 client sends every retransmission of a message in the transaction of its first
transmission, and starts a new exchange in a new transaction. The client counts the tries
of an exchange in `client->try` (`tries`): `DHCPv6ClientClearRetransmit` sets it to 0 and
`DHCPv6ClientNextRetransmit` adds one before each transmission, so that a message sent at
a count of 2 or more is a retransmission.

`Retries s s'` says what a step does to the exchange underway: it restarts it (a count of
at most 1, in whatever transaction), retries it (the same state and transaction, at most
one more try), or leaves it (nothing sent, the same transaction, no try added). Every
handler does one of the three, in whatever state it runs (`step_retries`). So a new
transaction ID comes with the count restarted (`Retries.tries_le_one`), and a message sent
at a count of 2 or more is sent in the state and the transaction the client was in
(`Retries.resend`): with the type and transaction ID of the exchange's earlier tries.
-/

namespace DHCPv6Client

/-- What a step does to the exchange underway, read off the state, the try count, the
transaction ID and the messages sent. -/
inductive Retries (s s' : Client) : Prop
  /-- A new exchange, at most its first try made. -/
  | restart (ht : s'.core.tries ≤ 1)
  /-- The same exchange in the same state, at most one more try. -/
  | retry (hc : s'.core.cstate = s.core.cstate) (hx : s'.outbox.transactionId = s.outbox.transactionId)
      (ht : s'.core.tries ≤ s.core.tries + 1)
  /-- Nothing sent, the transaction kept, no try added. -/
  | quiet (ho : s'.outbox = s.outbox) (ht : s'.core.tries ≤ s.core.tries)

namespace Retries

variable {s s₁ s' : Client}

theorem refl (s : Client) : Retries s s := quiet rfl le_rfl

/-- A new transaction ID comes with the count restarted. -/
theorem tries_le_one (hr : Retries s s') (hx : s'.transactionId ≠ s.transactionId) : s'.tries ≤ 1 := by
  cases hr with
  | restart ht => exact ht
  | retry _ hx' _ => exact absurd hx' hx
  | quiet ho _ => exact absurd (congrArg Outbox.transactionId ho) hx

/-- A message sent at a count of 2 or more is sent in the state and the transaction of `s`. -/
theorem resend (hr : Retries s s') (hs : s'.outbox.sent ≠ s.outbox.sent) (ht : 2 ≤ s'.tries) :
    s'.cstate = s.cstate ∧ s'.transactionId = s.transactionId := by
  cases hr with
  | restart ht' => exact absurd (ht.trans ht') (by decide)
  | retry hc hx _ => exact ⟨hc, hx⟩
  | quiet ho _ => exact absurd (congrArg Outbox.sent ho) hs

/-- After a prefix that restarts the count, the exchange restarts: at most one try made. -/
theorem tries_le_one_of_reset (hr : Retries s₁ s') (h₀ : s₁.core.tries = 0) : s'.core.tries ≤ 1 := by
  cases hr <;> omega

/-- After a prefix that keeps the state, the transaction and the messages sent, and adds no
try. -/
theorem of_kept (hr : Retries s₁ s') (hc : s₁.core.cstate = s.core.cstate) (ho : s₁.outbox = s.outbox)
    (ht : s₁.core.tries ≤ s.core.tries) : Retries s s' := by
  cases hr with
  | restart ht' => exact restart ht'
  | retry hc' hx ht' => exact retry (hc'.trans hc) (hx.trans (congrArg _ ho)) (by omega)
  | quiet ho' ht' => exact quiet (ho'.trans ho) (ht'.trans ht)

end Retries

/-- A branch does what the branch taken does. -/
theorem retries_ite {s : Client} {p : Prop} [Decidable p] {a b : Client} (ha : p → Retries s a)
    (hb : ¬p → Retries s b) : Retries s (if p then a else b) := by
  split
  · exact ha ‹_›
  · exact hb ‹_›

/-- The same for a handler that can fault. -/
theorem retries_of_ite_eq_some {s s' : Client} {p : Prop} [Decidable p] {a b : Option Client}
    (ha : p → a = some s' → Retries s s') (hb : ¬p → b = some s' → Retries s s') :
    (if p then a else b) = some s' → Retries s s' := by
  split
  · exact ha ‹_›
  · exact hb ‹_›

theorem retries_of_some_eq {s x s' : Client} (hx : Retries s x) : some x = some s' → Retries s s' :=
  fun he => Option.some.inj he ▸ hx

section

variable (h : Host) (w : World) (s : Client)

/-! ## What the primitives do to the transaction and the count -/

@[simp] theorem Client.leaseStillValid_tries (now : ℚ) : (s.leaseStillValid now).tries = s.tries := by
  rw [Client.leaseStillValid_eq]; split <;> rfl

@[simp] theorem transmit_transactionId (t : Nat) (oa : Option OptionArea) :
    (transmit t oa s).outbox.transactionId = s.outbox.transactionId := by
  unfold transmit; split <;> simp

@[simp] theorem sendPacket_transactionId : (sendPacket h w s).outbox.transactionId = s.outbox.transactionId := by
  unfold sendPacket; split <;> simp

@[simp] theorem sendSolicit_transactionId :
    (sendSolicit h w s).outbox.transactionId = s.outbox.transactionId := by
  simp [sendSolicit]

@[simp] theorem sendInform_transactionId :
    (sendInform h w s).outbox.transactionId = s.outbox.transactionId := by
  simp [sendInform]

/-! ## Entering a state restarts the count -/

theorem solicitStart_tries : (solicitStart w s).core.tries ≤ 1 := Nat.zero_le 1

theorem unboundStart_tries : (unboundStart w s).core.tries ≤ 1 := Nat.zero_le 1

theorem confirmStart_tries : (confirmStart w s).core.tries ≤ 1 := Nat.zero_le 1

/-- The timeouts of Request and Decline: back to Solicit, or the next try. -/
theorem retransmitOrSolicit_retries {MRC : Nat} {IRT MRT : ℚ} {f : Handler} :
    Retries s (retransmitOrSolicit h w MRC IRT MRT f s) :=
  retries_ite (fun _ => .restart (solicitStart_tries w s)) fun _ => .retry (by simp) (by simp) (by simp)

theorem requestStart_tries : (requestStart h w s).core.tries ≤ 1 :=
  (retransmitOrSolicit_retries h w _).tries_le_one_of_reset rfl

theorem declineStart_tries : (declineStart h w s).core.tries ≤ 1 :=
  (retransmitOrSolicit_retries h w _).tries_le_one_of_reset rfl

/-! ## Bound -/

variable {s₀ : Client}

/-- The address report in Bound sends only on entering Decline: from any client `s` is a
quiet prefix of. -/
theorem handleAddressChanged_retries (addrs : List AddrInfo) (ho : s.outbox = s₀.outbox)
    (ht : s.core.tries ≤ s₀.core.tries) : Retries s₀ (handleAddressChanged h w addrs s) := by
  have hq : ∀ x : Client, x.outbox = s.outbox → x.core.tries ≤ s.core.tries → Retries s₀ x :=
    fun x hx hxt => .quiet (hx.trans ho) (hxt.trans ht)
  unfold handleAddressChanged
  refine retries_ite (fun _ => hq s rfl le_rfl) fun _ => ?_
  split
  · exact hq s rfl le_rfl
  refine retries_ite (fun _ => .restart (declineStart_tries h w s)) fun _ =>
    retries_ite (fun _ => hq s rfl le_rfl) fun _ => ?_
  exact retries_ite (fun _ => hq _ (by simp) (by simp)) fun _ =>
    retries_ite (fun _ => .restart (unboundStart_tries w _)) fun _ => hq _ (by simp) (by simp)

theorem boundCommit_retries {a : In6Addr} {vl pl : Nat} {t : ℚ} (ho : s.outbox = s₀.outbox)
    (ht : s.core.tries ≤ s₀.core.tries) : Retries s₀ (boundCommit h w a vl pl t s) := by
  simp only [boundCommit]
  generalize hx : (if (s.ourIp != 0 && s.ourIp != a) = true then
    s.emit (.difaddr s.ourIp w.difaddrOk) else s).emit (.aifaddr a (getPrefixLength w) vl pl w.aifaddrOk) = x
  have hxo : x.outbox = s₀.outbox := by
    subst hx; rw [Client.outbox_emit_aifaddr]; split <;> simp [ho]
  have hxt : x.core.tries ≤ s₀.core.tries := by
    subst hx; rw [Client.core_emit]; split <;> simpa using ht
  refine retries_ite (fun _ => .quiet ho ht) fun _ => retries_ite (fun _ => .quiet hxo hxt) fun _ => ?_
  refine retries_ite (fun _ => retries_ite (fun _ => .quiet (by simpa using hxo) (by simpa using hxt))
    fun _ => .quiet (by simpa using hxo) (by simpa using hxt)) fun _ => ?_
  exact handleAddressChanged_retries h w _ _ (by simpa using hxo) (by simpa using hxt)

theorem boundEnter_retries (a : In6Addr) (ho : s.outbox = s₀.outbox) (ht : s.core.tries ≤ s₀.core.tries) :
    Retries s₀ (boundEnter h w a s) := by
  unfold boundEnter
  exact retries_ite (fun _ => boundCommit_retries h w _ ho ht) fun _ =>
    retries_ite (fun _ => .restart (unboundStart_tries w _)) fun _ =>
    retries_ite (fun _ => .restart (unboundStart_tries w _)) fun _ => boundCommit_retries h w _ ho ht

theorem boundStart_retries {s' : Client} (he : boundStart h w s = some s') (ho : s.outbox = s₀.outbox)
    (ht : s.core.tries ≤ s₀.core.tries) : Retries s₀ s' := by
  obtain ⟨a, -, rfl⟩ := Option.map_eq_some'.mp he
  exact boundEnter_retries h w s _ ho ht

/-! ## Renew and Rebind -/

/-- Before T2 the next RENEW, from T2 the first REBIND (a new exchange) or the next one. -/
theorem renewRebindTimeout_retries : Retries s (renewRebindTimeout h w s) := by
  have hc : (s.leaseStillValid w.now).core.cstate = s.core.cstate := by simp
  have ho : (s.leaseStillValid w.now).outbox = s.outbox := by simp
  have ht : (s.leaseStillValid w.now).core.tries ≤ s.core.tries := by simp
  unfold renewRebindTimeout
  refine Retries.of_kept ?_ hc ho ht
  generalize s.leaseStillValid w.now = l
  refine retries_ite (fun _ => .restart (unboundStart_tries w l)) fun _ =>
    retries_ite (fun _ => .retry (by simp [renewRebindTransmit]) (by simp [renewRebindTransmit]) (by simp))
    fun _ => ?_
  split
  · exact .restart (by simp [Client.clearRetransmit])
  · exact .retry (by simp [renewRebindTransmit]) (by simp [renewRebindTransmit]) (by simp)

theorem renewRebindStart_tries : (renewRebindStart h w s).core.tries ≤ 1 :=
  (renewRebindTimeout_retries h w _).tries_le_one_of_reset rfl

/-! ## Timeouts of Solicit, Inform and Confirm -/

theorem linkCheckedTimeout_retries {transmit : Client → Client}
    (htr : ∀ s' : Client, s'.cstate = s.cstate → Retries s' (transmit s')) :
    Retries s (linkCheckedTimeout w transmit s) :=
  retries_ite (fun _ => (htr { s with startTime := w.now } rfl).of_kept rfl rfl le_rfl) fun _ =>
    retries_ite (fun _ => .quiet (by simp) (by simp)) fun _ => htr s rfl

theorem solicitTransmit_retries : Retries s (solicitTransmit h w s) :=
  retries_ite (fun _ => .restart (requestStart_tries h w s)) fun _ =>
    retries_ite (fun _ => .retry (by simp) (by simp) (by simp)) fun _ => .retry (by simp) (by simp) (by simp)

theorem informTransmit_retries : Retries s (informTransmit h w s) :=
  .retry (by simp [informTransmit]) (by simp [informTransmit]) (by simp [informTransmit])

theorem informStart_tries : (informStart h w s).core.tries ≤ 1 := by
  unfold informStart
  split
  · exact Nat.zero_le 1
  · exact (linkCheckedTimeout_retries w _ fun s' _ => informTransmit_retries h w s').tries_le_one_of_reset rfl

theorem confirmTransmit_retries : Retries s (confirmTransmit h w s) :=
  .retry (by simp [confirmTransmit]) (by simp [confirmTransmit]) (by simp [confirmTransmit])

theorem confirmTimeout_retries {s' : Client} (he : confirmTimeout h w s = some s') : Retries s s' := by
  unfold confirmTimeout at he
  refine retries_of_ite_eq_some (fun _ => retries_of_some_eq
    ((confirmTransmit_retries h w { s with startTime := w.now }).of_kept rfl rfl le_rfl)) (fun _ => ?_) he
  refine retries_of_ite_eq_some (fun _ => retries_of_some_eq (.quiet (by simp) (by simp))) fun _ => ?_
  refine retries_of_ite_eq_some (fun _ => retries_of_some_eq (confirmTransmit_retries h w s)) fun _ => ?_
  exact retries_of_ite_eq_some (fun _ he => boundStart_retries h w _ he (by simp) (by simp)) fun _ =>
    retries_of_some_eq (.restart (solicitStart_tries w _))

/-! ## Events -/

theorem handleWake_retries (ev : LinkEventData) : Retries s (handleWake h w ev s) := by
  have hr : Retries s (s.removeAddress w) := .quiet (by simp) (by simp)
  have hl : Retries s (s.leaseStillValid w.now) := .quiet (by simp) (by simp)
  unfold handleWake
  refine retries_ite (fun _ => retries_ite (fun _ => hr) fun _ =>
    retries_ite (fun _ => .restart (solicitStart_tries w _)) fun _ => hr) fun _ => ?_
  refine retries_ite (fun _ => retries_ite (fun _ => .restart (unboundStart_tries w _)) fun _ => hl) fun _ => ?_
  refine retries_ite (fun _ => .restart (confirmStart_tries w _)) fun _ => retries_ite (fun _ => hl) fun _ => ?_
  exact retries_ite (fun _ => .quiet (by simp) (by simp)) fun _ => .restart (renewRebindStart_tries h w _)

theorem confirmIfBound_retries : Retries s (confirmIfBound w s) :=
  retries_ite (fun _ => .restart (confirmStart_tries w _)) fun _ => .quiet (by simp) (by simp)

theorem handleEvent_retries (e : IFEvent) : Retries s (handleEvent h w e s) := by
  unfold handleEvent
  refine retries_ite (fun _ => .refl s) fun _ => ?_
  split
  · exact handleAddressChanged_retries h w s _ rfl le_rfl
  · exact handleWake_retries h w s _
  · exact retries_ite (fun _ => confirmIfBound_retries w s) fun _ => .refl s
  · exact retries_ite (fun _ => confirmIfBound_retries w s) fun _ => .refl s
  · exact confirmIfBound_retries w s
  · exact .refl s

theorem start_retries (allocateAddress privacyRequired : Bool) :
    Retries s (start h w allocateAddress privacyRequired s) := by
  unfold start
  exact retries_ite (fun _ => retries_ite (fun _ => .restart (confirmStart_tries w _)) fun _ =>
    .restart (solicitStart_tries w _)) fun _ => .restart (informStart_tries h w _)

theorem stop_retries (discardInformation : Bool) : Retries s (stop w discardInformation s) := by
  have hr : (s.removeAddress w).tries = s.tries := congrArg Core.tries (Client.core_removeAddress w s)
  refine .quiet (Client.outbox_stop w s _) ?_
  cases discardInformation <;> simp [stop, Client.postNotification, Client.emit, Client.setState,
    Client.cancelPendingEvents, Client.clearPacket, Client.clearLease, hr]

/-! ## Timers and packets -/

theorem runTimer_retries {t : TimerCallout} {s' : Client} (he : runTimer h w t s = some s') : Retries s s' := by
  obtain ⟨f, ev, d⟩ := t
  cases f <;> cases ev <;> simp only [runTimer, Option.some.injEq] at he
  · subst he; exact .restart (solicitStart_tries w s)
  · subst he; exact linkCheckedTimeout_retries w s fun s' _ => solicitTransmit_retries h w s'
  · subst he; exact .restart (requestStart_tries h w s)
  · subst he; exact retransmitOrSolicit_retries h w s
  · subst he; exact .restart (renewRebindStart_tries h w s)
  · subst he; exact renewRebindTimeout_retries h w s
  · subst he; exact .restart (confirmStart_tries w s)
  · exact confirmTimeout_retries h w s he
  · subst he; exact .restart (declineStart_tries h w s)
  · subst he; exact retransmitOrSolicit_retries h w s
  · subst he; exact .restart (informStart_tries h w s)
  · subst he; exact linkCheckedTimeout_retries w s fun s' _ => informTransmit_retries h w s'

theorem runReceive_retries {f : Handler} {p : DHCPv6Packet} {s' : Client}
    (he : runReceive h w f p s = some s') : Retries s s' := by
  obtain ⟨d, hd⟩ := Client.afterMatch_eq w s kDHCPv6MessageREPLY p
  have ha : Retries s { s with duid := d } := .quiet rfl le_rfl
  have hs : ∀ {x : Client}, some { s with duid := d } = some x → Retries s x := retries_of_some_eq ha
  have hp : ∀ d', ({ s with duid := d' }.savePacket w p).outbox = s.outbox :=
    fun _ => Client.outbox_savePacket w _ p
  have hb : ∀ {x : Client}, boundStart h w ({ s with duid := d }.savePacket w p) = some x → Retries s x :=
    fun he => boundStart_retries h w _ he (hp d) le_rfl
  cases f <;> simp only [runReceive, Option.some.injEq] at he
  · subst he
    obtain ⟨d', hd'⟩ := solicitData_eq h w s p
    rw [hd']
    exact retries_ite (fun _ => retries_ite (fun _ => .restart (requestStart_tries h w _))
      fun _ => .quiet (hp d') le_rfl) fun _ => .quiet rfl le_rfl
  · simp only [requestData, hd] at he
    refine retries_of_ite_eq_some (fun _ => hs) (fun _ => ?_) he
    split
    · exact hs
    exact retries_of_ite_eq_some (fun _ => hs) fun _ =>
      retries_of_ite_eq_some (fun _ => retries_of_some_eq (.restart (solicitStart_tries w _))) fun _ =>
      retries_of_ite_eq_some (fun _ => hs) fun _ => hb
  · simp only [renewRebindData, hd] at he
    refine retries_of_ite_eq_some (fun _ => hs) (fun _ => ?_) he
    split
    · exact hs
    exact retries_of_ite_eq_some (fun _ => retries_of_some_eq (.restart (unboundStart_tries w _))) fun _ =>
      retries_of_ite_eq_some (fun _ => retries_of_some_eq (.restart (unboundStart_tries w _))) fun _ => hb
  · simp only [confirmData, hd] at he
    refine retries_of_ite_eq_some (fun _ => hs) (fun _ => ?_) he
    split
    · exact hs
    exact retries_of_ite_eq_some (fun _ => retries_of_some_eq (.restart (unboundStart_tries w _))) fun _ he =>
      boundStart_retries h w _ he rfl le_rfl
  · subst he
    simp only [declineData, hd]
    exact retries_ite (fun _ => ha) fun _ => .restart (solicitStart_tries w _)
  · subst he
    simp only [informData, hd]
    exact retries_ite (fun _ => ha) fun _ => .quiet (by simp [informCompleteStart]) (by simp [informCompleteStart])

/-- Every step restarts, retries or leaves the exchange, whatever state the client is in. -/
theorem step_retries {e : Event} {s' : Client} (he : step h w e s = some s') : Retries s s' := by
  cases e with
  | start a p => cases he; exact start_retries h w s a p
  | stop d => cases he; exact stop_retries w s d
  | timerFires =>
    simp only [step] at he
    split at he
    · exact (runTimer_retries h w _ he).of_kept rfl rfl le_rfl
    · cases he; exact .refl s
  | receive p =>
    simp only [step] at he
    split at he
    · exact runReceive_retries h w s he
    · cases he; exact .refl s
  | handleEvent e => cases he; exact handleEvent_retries h w s e
  | setRequestedOptions l => cases he; exact .quiet rfl le_rfl

end

/-- A step of a reachable client draws a new transaction ID only with the try count
restarted (at most the first try of the new exchange made); and a message it hands to the
socket at a try count of 2 or more, a retransmission, is of the type of the state the
client was in and carries the transaction ID the client held before the step: those of
the exchange's earlier tries. -/
theorem reachable_step_retransmits_in_transaction {h : Host} {w : World} {e : Event} {s s' : Client}
    (hr : Reachable h s) (he : step h w e s = some s') :
    (s'.transactionId ≠ s.transactionId → s'.tries ≤ 1) ∧
    ∃ sent : Option DHCPv6Packet,
      s'.out.filter Effect.isTransmit = s.out.filter Effect.isTransmit ++ (sent.map Effect.transmit).toList ∧
      ∀ pkt ∈ sent, 2 ≤ s'.tries →
        stateMessage s.cstate = some pkt.msgType ∧ pkt.transactionId = s.transactionId := by
  have hs := step_retries h w s he
  obtain ⟨sent, ho, hm⟩ := step_sendsOne h w s (hr.inv h) he
  refine ⟨hs.tries_le_one, sent, ho, fun pkt hp ht => ?_⟩
  obtain rfl := Option.mem_def.mp hp
  have hne : s'.outbox.sent ≠ s.outbox.sent := fun heq => by simp [heq] at ho
  obtain ⟨hc, hx⟩ := hs.resend hne ht
  obtain ⟨hmt, hmx⟩ := Client.message_eq_some (hm pkt hp)
  exact ⟨hc ▸ hmt, hmx.trans hx⟩

theorem exampleRequesting_retransmits_in_transaction :
    step exampleHost (exampleWorld 1) .timerFires exampleRequesting = some exampleRetried ∧
      (exampleRetried.transactionId ≠ exampleRequesting.transactionId → exampleRetried.tries ≤ 1) ∧
      ∃ sent : Option DHCPv6Packet,
        exampleRetried.out.filter Effect.isTransmit =
          exampleRequesting.out.filter Effect.isTransmit ++ (sent.map Effect.transmit).toList ∧
        ∀ pkt ∈ sent, 2 ≤ exampleRetried.tries →
          stateMessage exampleRequesting.cstate = some pkt.msgType ∧
            pkt.transactionId = exampleRequesting.transactionId :=
  have he : step exampleHost (exampleWorld 1) .timerFires exampleRequesting = some exampleRetried := by
    with_unfolding_all rfl
  ⟨he, reachable_step_retransmits_in_transaction exampleRequesting_reachable he⟩

end DHCPv6Client
