import DHCPv6Client.Sent

/-!
# One message per step, the message of the state

A step of the client hands at most one message to the socket, and it is the message of the
state the step leaves the client in (`Client.message`): of the state's type (`stateMessage`:
SOLICIT in Solicit, REQUEST in Request, RENEW in Renew, and so on), in the transaction the
client then holds, the one it matches replies against, and with the options the senders
write (`messageOptions`). `SendsOne h w s s'` says so of a client `s'` reached from `s`.
`Client.message_options` reads off such a message whom it names: the client by its DUID,
the server only where the exchange is with one server, and an IA_NA but in
INFORMATION-REQUEST.

The senders establish it in their state (`Client.sendMessage_sendsOne`); a prefix that sends
nothing keeps it (`SendsOne.of_quiet`), and so does a suffix that changes neither the state,
the transaction nor the messages sent (`SendsOne.congr_right`). Every handler establishes it,
the timeouts of Solicit and Inform in their own state, and so does every step from a client
keeping `Core.Inv` (`step_sendsOne`), whose timer agrees with its state.
-/

namespace DHCPv6Client

/-- The message each state sends: SOLICIT (`DHCPv6ClientSendSolicit`) in Solicit,
INFORMATION-REQUEST (`DHCPv6ClientSendInform`) in Inform, and that of
`DHCPv6ClientSendPacket` in the others that send. -/
def stateMessage : ClientState → Option Nat
  | .solicit => some kDHCPv6MessageSOLICIT
  | .inform => some kDHCPv6MessageINFORMATION_REQUEST
  | c => sendPacketType c

theorem stateMessage_of_sendPacketType {c : ClientState} {t : Nat} (h : sendPacketType c = some t) :
    stateMessage c = some t := by
  cases c <;> first | exact h | cases h

theorem sendPacketType_ne {c : ClientState} {t : Nat} (h : sendPacketType c = some t) :
    t ≠ kDHCPv6MessageSOLICIT ∧ t ≠ kDHCPv6MessageINFORMATION_REQUEST := by
  cases c <;> cases h <;> decide

/-- The options the senders write in a message of type `t`: those of
`DHCPv6ClientMakePacket`, then for SOLICIT an IA_NA with no address, for
INFORMATION-REQUEST nothing more, and for the messages of `DHCPv6ClientSendPacket` the
SERVERID (but in REBIND and CONFIRM) and the IA_NA of `add_ia_na_option`, which it sends
only with an IA_NA and a server id. -/
def messageOptions (h : Host) (w : World) (t : Nat) (s : Client) : Option (List DHCPv6Option) :=
  if t = kDHCPv6MessageSOLICIT then
    some (packetOptions h w s ++ [⟨kDHCPv6OPTION_IA_NA, solicitIaNa (s.getIAID h)⟩])
  else if t = kDHCPv6MessageINFORMATION_REQUEST then some (packetOptions h w s)
  else
    match s.iaNa, s.serverId with
    | some _, some sid => some (packetOptions h w s ++
        (if t = kDHCPv6MessageREBIND ∨ t = kDHCPv6MessageCONFIRM then []
          else [⟨kDHCPv6OPTION_SERVERID, sid⟩]) ++
        [⟨kDHCPv6OPTION_IA_NA, ourIaNa (s.getIAID h) (s.iaAddr.getD [])⟩])
    | _, _ => none

/-- The message a client sends in its state: the state's message, in its transaction, with
the options the senders write. -/
def Client.message (h : Host) (w : World) (s : Client) : Option DHCPv6Packet :=
  (stateMessage s.cstate).bind fun t => (messageOptions h w t s).map fun os => ⟨t, s.transactionId, os⟩

theorem Client.message_eq_some {h : Host} {w : World} {s : Client} {pkt : DHCPv6Packet}
    (hm : s.message h w = some pkt) :
    stateMessage s.cstate = some pkt.msgType ∧ pkt.transactionId = s.transactionId := by
  obtain ⟨t, ht, hm⟩ := Option.bind_eq_some.mp hm
  obtain ⟨os, -, rfl⟩ := Option.map_eq_some'.mp hm
  exact ⟨ht, rfl⟩

/-- From `s` to `s'` the client handed at most one message to the socket: the message its
state at `s'` calls for. -/
def SendsOne (h : Host) (w : World) (s s' : Client) : Prop :=
  ∃ sent : Option DHCPv6Packet, s'.outbox.sent = s.outbox.sent ++ (sent.map Effect.transmit).toList ∧
    ∀ pkt ∈ sent, s'.message h w = some pkt

namespace SendsOne

variable {h : Host} {w : World} {s s₁ s' : Client}

/-- Nothing sent. -/
theorem quiet (hq : s'.outbox.sent = s.outbox.sent) : SendsOne h w s s' :=
  ⟨none, by simpa using hq, nofun⟩

theorem refl (s : Client) : SendsOne h w s s := quiet rfl

/-- A prefix that sends nothing. -/
theorem of_quiet (h₁ : s₁.outbox.sent = s.outbox.sent) (hs : SendsOne h w s₁ s') : SendsOne h w s s' := by
  obtain ⟨sent, hs, hm⟩ := hs
  exact ⟨sent, h₁ ▸ hs, hm⟩

/-- A suffix that changes neither the messages sent nor the message of the state. -/
theorem congr_right {s₂ : Client} (hs : SendsOne h w s s₁) (ho : s₂.outbox.sent = s₁.outbox.sent)
    (hm : s₂.message h w = s₁.message h w) : SendsOne h w s s₂ := by
  obtain ⟨sent, hs, hp⟩ := hs
  exact ⟨sent, ho.trans hs, fun pkt hpk => hm.trans (hp pkt hpk)⟩

end SendsOne

/-- A branch sends what the branch taken sends. -/
theorem sendsOne_ite {h : Host} {w : World} {s : Client} {p : Prop} [Decidable p] {a b : Client} (ha : p → SendsOne h w s a)
    (hb : ¬p → SendsOne h w s b) : SendsOne h w s (if p then a else b) := by
  split
  · exact ha ‹_›
  · exact hb ‹_›

/-- The same for a handler that can fault. -/
theorem sendsOne_of_ite_eq_some {h : Host} {w : World} {s s' : Client} {p : Prop} [Decidable p] {a b : Option Client}
    (ha : p → a = some s' → SendsOne h w s s') (hb : ¬p → b = some s' → SendsOne h w s s') :
    (if p then a else b) = some s' → SendsOne h w s s' := by
  split
  · exact ha ‹_›
  · exact hb ‹_›

theorem sendsOne_of_some_eq {h : Host} {w : World} {s x s' : Client} (hx : SendsOne h w s x) : some x = some s' → SendsOne h w s s' :=
  fun he => Option.some.inj he ▸ hx

/-- A message handed to the socket, if it fits: the message of the client's state. -/
theorem Client.sendMessage_sendsOne {h : Host} {w : World} {s : Client} {t : Nat} {os : List DHCPv6Option}
    (hm : s.message h w = some ⟨t, s.transactionId, os⟩) : SendsOne h w s (s.sendMessage t os) := by
  unfold Client.sendMessage
  split_ifs
  · refine ⟨some ⟨t, s.transactionId, os⟩, by rw [Client.outbox_emit_transmit]; rfl, fun pkt hp => ?_⟩
    cases hp
    exact hm
  · exact SendsOne.refl s

section

variable (h : Host) (w : World) (s : Client)

/-! ## The senders -/

theorem getDUID_transactionId : (s.getDUID w).transactionId = s.transactionId := by
  unfold Client.getDUID; split <;> rfl

theorem setRetransmitTimer_cstate (IRT MRT : ℚ) (f : Handler) :
    (s.setRetransmitTimer w IRT MRT f).cstate = s.cstate := by
  unfold Client.setRetransmitTimer Client.nextRetransmit; split_ifs <;> rfl

theorem packetOptions_getDUID : packetOptions h w (s.getDUID w) = packetOptions h w s := by
  have hc := getDUID_currentDUID h w s w
  obtain ⟨d, hd⟩ := getDUID_eq w s
  rw [hd] at hc ⊢
  simp only [packetOptions, hc]
  rfl

/-- Filling the DUID cache changes no message: the DUID sent is the one cached. -/
theorem Client.message_getDUID : (s.getDUID w).message h w = s.message h w := by
  have hp := packetOptions_getDUID h w s
  obtain ⟨d, hd⟩ := getDUID_eq w s
  rw [hd] at hp ⊢
  simp only [Client.message, messageOptions, hp]
  rfl

/-- An effect changes no message. -/
theorem Client.message_emit (e : Effect) : (s.emit e).message h w = s.message h w := rfl

theorem sendPacket_sendsOne : SendsOne h w s (sendPacket h w s) := by
  rw [sendPacket_sendMessage]
  split
  · rename_i sid t _ hsid ht
    refine SendsOne.of_quiet (by simp) (Client.sendMessage_sendsOne ?_)
    have hne := sendPacketType_ne ht
    rw [Client.message_getDUID, getDUID_transactionId, Client.message, stateMessage_of_sendPacketType ht]
    simp only [messageOptions, Option.some_bind, if_neg hne.1, if_neg hne.2, hsid, ‹s.iaNa = _›,
      Option.map_some']
  · exact SendsOne.refl s

theorem sendSolicit_sendsOne (hc : s.cstate = .solicit) : SendsOne h w s (sendSolicit h w s) := by
  rw [sendSolicit_sendMessage]
  refine SendsOne.of_quiet (by simp) (Client.sendMessage_sendsOne ?_)
  rw [Client.message_getDUID, getDUID_transactionId, Client.message, hc]
  simp [stateMessage, messageOptions, kDHCPv6MessageSOLICIT, kDHCPv6MessageINFORMATION_REQUEST]

theorem sendInform_sendsOne (hc : s.cstate = .inform) : SendsOne h w s (sendInform h w s) := by
  rw [sendInform_sendMessage]
  refine SendsOne.of_quiet (by simp) (Client.sendMessage_sendsOne ?_)
  rw [Client.message_getDUID, getDUID_transactionId, Client.message, hc]
  simp [stateMessage, messageOptions, kDHCPv6MessageSOLICIT, kDHCPv6MessageINFORMATION_REQUEST]

/-! ## Entering a state -/

theorem solicitStart_sendsOne : SendsOne h w s (solicitStart w s) := SendsOne.quiet (by simp [solicitStart])

theorem unboundStart_sendsOne : SendsOne h w s (unboundStart w s) :=
  SendsOne.quiet (by simp [unboundStart, solicitStart])

theorem confirmStart_sendsOne : SendsOne h w s (confirmStart w s) := SendsOne.quiet (by simp [confirmStart])

theorem retransmitOrSolicit_sendsOne {MRC : Nat} {IRT MRT : ℚ} {f : Handler} :
    SendsOne h w s (retransmitOrSolicit h w MRC IRT MRT f s) :=
  sendsOne_ite (fun _ => solicitStart_sendsOne h w s) fun _ =>
    SendsOne.of_quiet (by simp) (sendPacket_sendsOne h w _)

theorem requestStart_sendsOne : SendsOne h w s (requestStart h w s) :=
  SendsOne.of_quiet (by simp) (retransmitOrSolicit_sendsOne h w _)

theorem declineStart_sendsOne : SendsOne h w s (declineStart h w s) :=
  SendsOne.of_quiet (by simp) (retransmitOrSolicit_sendsOne h w _)

/-! ## Bound -/

theorem handleAddressChanged_sendsOne (addrs : List AddrInfo) :
    SendsOne h w s (handleAddressChanged h w addrs s) := by
  unfold handleAddressChanged
  refine sendsOne_ite (fun _ => SendsOne.refl s) fun _ => ?_
  split
  · exact SendsOne.refl s
  refine sendsOne_ite (fun _ => declineStart_sendsOne h w s) fun _ =>
    sendsOne_ite (fun _ => SendsOne.refl s) fun _ => ?_
  exact sendsOne_ite (fun _ => SendsOne.quiet (by simp)) fun _ =>
    sendsOne_ite (fun _ => SendsOne.of_quiet (by simp) (unboundStart_sendsOne h w _)) fun _ =>
    SendsOne.quiet (by simp)

theorem boundCommit_sendsOne {a : In6Addr} {vl pl : Nat} {t : ℚ} :
    SendsOne h w s (boundCommit h w a vl pl t s) := by
  simp only [boundCommit]
  generalize hx : (if (s.ourIp != 0 && s.ourIp != a) = true then
    s.emit (.difaddr s.ourIp w.difaddrOk) else s).emit (.aifaddr a (getPrefixLength w) vl pl w.aifaddrOk) = x
  have hxo : x.outbox.sent = s.outbox.sent := by
    subst hx; rw [Client.outbox_emit_aifaddr]; split <;> simp
  refine sendsOne_ite (fun _ => SendsOne.refl s) fun _ => sendsOne_ite (fun _ => SendsOne.quiet hxo) fun _ => ?_
  refine sendsOne_ite (fun _ => sendsOne_ite (fun _ => SendsOne.quiet (by simpa using hxo)) fun _ =>
    SendsOne.quiet (by simpa using hxo)) fun _ => ?_
  exact SendsOne.of_quiet (by simpa using hxo) (handleAddressChanged_sendsOne h w _ _)

theorem boundEnter_sendsOne (a : In6Addr) : SendsOne h w s (boundEnter h w a s) := by
  have hb : { { s.setState .bound with lease.valid := true } with savedVerified := true
      }.cancelPendingEvents.outbox.sent = s.outbox.sent := rfl
  unfold boundEnter
  exact sendsOne_ite (fun _ => SendsOne.of_quiet hb (boundCommit_sendsOne h w _)) fun _ =>
    sendsOne_ite (fun _ => SendsOne.of_quiet hb (unboundStart_sendsOne h w _)) fun _ =>
    sendsOne_ite (fun _ => SendsOne.of_quiet hb (unboundStart_sendsOne h w _)) fun _ =>
    SendsOne.of_quiet hb (boundCommit_sendsOne h w _)

theorem boundStart_sendsOne {s' : Client} (he : boundStart h w s = some s') : SendsOne h w s s' := by
  obtain ⟨a, -, rfl⟩ := Option.map_eq_some'.mp he
  exact boundEnter_sendsOne h w s _

/-! ## Renew and Rebind -/

theorem renewRebindTransmit_sendsOne (d : ℚ) : SendsOne h w s (renewRebindTransmit h w d s) :=
  SendsOne.of_quiet (by simp) (sendPacket_sendsOne h w _)

theorem renewRebindTimeout_sendsOne : SendsOne h w s (renewRebindTimeout h w s) := by
  have hl : (s.leaseStillValid w.now).outbox.sent = s.outbox.sent := by simp
  unfold renewRebindTimeout
  refine SendsOne.of_quiet hl ?_
  generalize s.leaseStillValid w.now = l
  refine sendsOne_ite (fun _ => unboundStart_sendsOne h w l) fun _ => sendsOne_ite (fun _ => ?_) fun _ => ?_
  · exact SendsOne.of_quiet (by simp) (renewRebindTransmit_sendsOne h w _ _)
  · refine SendsOne.of_quiet ?_ (renewRebindTransmit_sendsOne h w _ _)
    rw [Client.outbox_nextRetransmit]
    split <;> simp

theorem renewRebindStart_sendsOne : SendsOne h w s (renewRebindStart h w s) :=
  SendsOne.of_quiet (by simp) (renewRebindTimeout_sendsOne h w _)

/-! ## Timeouts of Solicit, Inform and Confirm -/

theorem linkCheckedTimeout_sendsOne {transmit : Client → Client}
    (htr : ∀ s' : Client, s'.cstate = s.cstate → SendsOne h w s' (transmit s')) :
    SendsOne h w s (linkCheckedTimeout w transmit s) :=
  sendsOne_ite (fun _ => SendsOne.of_quiet rfl (htr _ rfl)) fun _ =>
    sendsOne_ite (fun _ => SendsOne.quiet (by simp)) fun _ => htr s rfl

theorem solicitTransmit_sendsOne (hc : s.cstate = .solicit) : SendsOne h w s (solicitTransmit h w s) := by
  have hs : SendsOne h w s (sendSolicit h w (s.setRetransmitTimer w DHCPv6_SOL_TIMEOUT DHCPv6_SOL_MAX_RT .solicit)) :=
    SendsOne.of_quiet (by simp) (sendSolicit_sendsOne h w _ (by rw [setRetransmitTimer_cstate, hc]))
  exact sendsOne_ite (fun _ => requestStart_sendsOne h w s) fun _ =>
    sendsOne_ite (fun _ => hs.congr_right (by simp) (Client.message_emit h w _ _)) fun _ => hs

theorem solicitTimeout_sendsOne (hc : s.cstate = .solicit) : SendsOne h w s (solicitTimeout h w s) :=
  linkCheckedTimeout_sendsOne h w s fun s' hc' => solicitTransmit_sendsOne h w s' (hc'.trans hc)

theorem informTransmit_sendsOne (hc : s.cstate = .inform) : SendsOne h w s (informTransmit h w s) :=
  SendsOne.of_quiet (by simp) (sendInform_sendsOne h w _ (by rw [setRetransmitTimer_cstate, hc]))

theorem informTimeout_sendsOne (hc : s.cstate = .inform) : SendsOne h w s (informTimeout h w s) :=
  linkCheckedTimeout_sendsOne h w s fun s' hc' => informTransmit_sendsOne h w s' (hc'.trans hc)

theorem informStart_sendsOne : SendsOne h w s (informStart h w s) := by
  unfold informStart
  exact sendsOne_ite (fun _ => SendsOne.quiet (by simp)) fun _ =>
    SendsOne.of_quiet (by simp) (informTimeout_sendsOne h w _ rfl)

theorem confirmTransmit_sendsOne : SendsOne h w s (confirmTransmit h w s) :=
  SendsOne.of_quiet (by simp) (sendPacket_sendsOne h w _)

theorem confirmTimeout_sendsOne {s' : Client} (he : confirmTimeout h w s = some s') : SendsOne h w s s' := by
  unfold confirmTimeout at he
  refine sendsOne_of_ite_eq_some (fun _ => sendsOne_of_some_eq
    (SendsOne.of_quiet rfl (confirmTransmit_sendsOne h w { s with startTime := w.now }))) (fun _ => ?_) he
  refine sendsOne_of_ite_eq_some (fun _ => sendsOne_of_some_eq (SendsOne.quiet (by simp))) fun _ => ?_
  refine sendsOne_of_ite_eq_some (fun _ => sendsOne_of_some_eq (confirmTransmit_sendsOne h w s)) fun _ => ?_
  have hl : (s.leaseStillValid w.now).outbox.sent = s.outbox.sent := by simp
  exact sendsOne_of_ite_eq_some (fun _ he => SendsOne.of_quiet hl (boundStart_sendsOne h w _ he)) fun _ =>
    sendsOne_of_some_eq (SendsOne.of_quiet hl (solicitStart_sendsOne h w _))

/-! ## Events -/

theorem handleWake_sendsOne (ev : LinkEventData) : SendsOne h w s (handleWake h w ev s) := by
  have hr : (s.removeAddress w).outbox.sent = s.outbox.sent := by simp
  have hl : (s.leaseStillValid w.now).outbox.sent = s.outbox.sent := by simp
  unfold handleWake
  refine sendsOne_ite (fun _ => sendsOne_ite (fun _ => SendsOne.quiet hr) fun _ =>
    sendsOne_ite (fun _ => SendsOne.of_quiet hr (solicitStart_sendsOne h w _)) fun _ =>
    SendsOne.quiet hr) fun _ => ?_
  refine sendsOne_ite (fun _ => sendsOne_ite (fun _ => SendsOne.of_quiet hl (unboundStart_sendsOne h w _))
    fun _ => SendsOne.quiet hl) fun _ => ?_
  refine sendsOne_ite (fun _ => SendsOne.of_quiet hl (confirmStart_sendsOne h w _)) fun _ =>
    sendsOne_ite (fun _ => SendsOne.quiet hl) fun _ => ?_
  exact sendsOne_ite (fun _ => SendsOne.quiet (by simp)) fun _ =>
    SendsOne.of_quiet hl (renewRebindStart_sendsOne h w _)

theorem confirmIfBound_sendsOne : SendsOne h w s (confirmIfBound w s) := by
  have hl : (s.leaseStillValid w.now).outbox.sent = s.outbox.sent := by simp
  exact sendsOne_ite (fun _ => SendsOne.of_quiet hl (confirmStart_sendsOne h w _)) fun _ => SendsOne.quiet hl

theorem handleEvent_sendsOne (e : IFEvent) : SendsOne h w s (handleEvent h w e s) := by
  unfold handleEvent
  refine sendsOne_ite (fun _ => SendsOne.refl s) fun _ => ?_
  split
  · exact handleAddressChanged_sendsOne h w s _
  · exact handleWake_sendsOne h w s _
  · exact sendsOne_ite (fun _ => confirmIfBound_sendsOne h w s) fun _ => SendsOne.refl s
  · exact sendsOne_ite (fun _ => confirmIfBound_sendsOne h w s) fun _ => SendsOne.refl s
  · exact confirmIfBound_sendsOne h w s
  · exact SendsOne.refl s

theorem start_sendsOne (allocateAddress privacyRequired : Bool) :
    SendsOne h w s (start h w allocateAddress privacyRequired s) := by
  unfold start
  exact sendsOne_ite (fun _ => sendsOne_ite
    (fun _ => SendsOne.of_quiet (by rw [Client.outbox_leaseStillValid]; rfl) (confirmStart_sendsOne h w _))
    fun _ => SendsOne.of_quiet (by simp only [Client.outbox_clearPacket, Client.outbox_removeAddress,
      Client.outbox_leaseStillValid]; rfl) (solicitStart_sendsOne h w _)) fun _ =>
    SendsOne.of_quiet (by simp only [Client.outbox_clearPacket, Client.outbox_removeAddress]; rfl)
      (informStart_sendsOne h w _)

theorem stop_sendsOne (discardInformation : Bool) : SendsOne h w s (stop w discardInformation s) :=
  SendsOne.quiet (by rw [Client.outbox_stop])

/-! ## Timers and packets -/

/-- The armed timer runs a handler of the state: the timeouts of Solicit and Inform send in
their own state. -/
theorem runTimer_sendsOne {t : TimerCallout} {s' : Client} (hta : timerAgrees s.cstate t)
    (he : runTimer h w t s = some s') : SendsOne h w s s' := by
  obtain ⟨f, ev, d⟩ := t
  cases f <;> simp [timerAgrees, Handler.states] at hta <;> cases ev <;>
    simp only [runTimer, Option.some.injEq] at he
  · subst he; exact solicitStart_sendsOne h w s
  · subst he; exact solicitTimeout_sendsOne h w s hta
  · subst he; exact requestStart_sendsOne h w s
  · subst he; exact retransmitOrSolicit_sendsOne h w s
  · subst he; exact renewRebindStart_sendsOne h w s
  · subst he; exact renewRebindTimeout_sendsOne h w s
  · subst he; exact confirmStart_sendsOne h w s
  · exact confirmTimeout_sendsOne h w s he
  · subst he; exact declineStart_sendsOne h w s
  · subst he; exact retransmitOrSolicit_sendsOne h w s
  · subst he; exact informStart_sendsOne h w s
  · subst he; exact informTimeout_sendsOne h w s hta

theorem runReceive_sendsOne {f : Handler} {p : DHCPv6Packet} {s' : Client}
    (he : runReceive h w f p s = some s') : SendsOne h w s s' := by
  obtain ⟨d, hd⟩ := Client.afterMatch_eq w s kDHCPv6MessageREPLY p
  have ha : SendsOne h w s { s with duid := d } := SendsOne.quiet rfl
  have hs : ∀ {x : Client}, some { s with duid := d } = some x → SendsOne h w s x := sendsOne_of_some_eq ha
  have hp : ({ s with duid := d }.savePacket w p).outbox.sent = s.outbox.sent := by
    rw [Client.outbox_savePacket]; rfl
  cases f <;> simp only [runReceive, Option.some.injEq] at he
  · subst he
    obtain ⟨d', hd'⟩ := solicitData_eq h w s p
    have hp' : ({ s with duid := d' }.savePacket w p).outbox.sent = s.outbox.sent := by
      rw [Client.outbox_savePacket]; rfl
    rw [hd']
    exact sendsOne_ite (fun _ => sendsOne_ite (fun _ => SendsOne.of_quiet hp' (requestStart_sendsOne h w _))
      fun _ => SendsOne.quiet hp') fun _ => SendsOne.quiet rfl
  · simp only [requestData, hd] at he
    refine sendsOne_of_ite_eq_some (fun _ => hs) (fun _ => ?_) he
    split
    · exact hs
    exact sendsOne_of_ite_eq_some (fun _ => hs) fun _ =>
      sendsOne_of_ite_eq_some (fun _ => sendsOne_of_some_eq (SendsOne.of_quiet rfl (solicitStart_sendsOne h w _)))
      fun _ => sendsOne_of_ite_eq_some (fun _ => hs) fun _ he => SendsOne.of_quiet hp (boundStart_sendsOne h w _ he)
  · simp only [renewRebindData, hd] at he
    refine sendsOne_of_ite_eq_some (fun _ => hs) (fun _ => ?_) he
    split
    · exact hs
    exact sendsOne_of_ite_eq_some (fun _ => sendsOne_of_some_eq (SendsOne.of_quiet rfl (unboundStart_sendsOne h w _)))
      fun _ => sendsOne_of_ite_eq_some
        (fun _ => sendsOne_of_some_eq (SendsOne.of_quiet rfl (unboundStart_sendsOne h w _)))
      fun _ he => SendsOne.of_quiet hp (boundStart_sendsOne h w _ he)
  · simp only [confirmData, hd] at he
    refine sendsOne_of_ite_eq_some (fun _ => hs) (fun _ => ?_) he
    split
    · exact hs
    exact sendsOne_of_ite_eq_some (fun _ => sendsOne_of_some_eq (SendsOne.of_quiet rfl (unboundStart_sendsOne h w _)))
      fun _ he => SendsOne.of_quiet rfl (boundStart_sendsOne h w { s with duid := d } he)
  · subst he
    simp only [declineData, hd]
    exact sendsOne_ite (fun _ => ha) fun _ => SendsOne.of_quiet rfl (solicitStart_sendsOne h w _)
  · subst he
    simp only [informData, hd]
    exact sendsOne_ite (fun _ => ha) fun _ => SendsOne.quiet (by simp [informCompleteStart, hp])

/-- Every step from a client whose timer agrees with its state sends at most one message, the
message of the state it reaches. -/
theorem step_sendsOne {e : Event} {s' : Client} (hi : s.core.Inv) (he : step h w e s = some s') :
    SendsOne h w s s' := by
  cases e with
  | start a p => cases he; exact start_sendsOne h w s a p
  | stop d => cases he; exact stop_sendsOne h w s d
  | timerFires =>
    simp only [step] at he
    split at he
    · rename_i t ht
      exact SendsOne.of_quiet rfl (runTimer_sendsOne h w { s with timer := none }
        (by simpa [ht] using hi.timer) he)
    · cases he; exact SendsOne.refl s
  | receive p =>
    simp only [step] at he
    split at he
    · exact runReceive_sendsOne h w s he
    · cases he; exact SendsOne.refl s
  | handleEvent e => cases he; exact handleEvent_sendsOne h w s e
  | setRequestedOptions l => cases he; exact SendsOne.quiet rfl

end

/-- The example client once its Request timer has fired: its second REQUEST sent. -/
def exampleRetried : Client := (step exampleHost (exampleWorld 1) .timerFires exampleRequesting).getD create

/-- Every step of a reachable client hands at most one message to the socket, and that
message is the one of the state the step leaves the client in (SOLICIT in Solicit, REQUEST in
Request, RENEW in Renew, REBIND in Rebind, CONFIRM in Confirm, DECLINE in Decline,
INFORMATION-REQUEST in Inform), carrying the transaction ID the client then holds. -/
theorem reachable_step_sends_state_message {h : Host} {w : World} {e : Event} {s s' : Client}
    (hr : Reachable h s) (he : step h w e s = some s') :
    ∃ sent : Option DHCPv6Packet,
      s'.out.filter Effect.isTransmit = s.out.filter Effect.isTransmit ++ (sent.map Effect.transmit).toList ∧
      ∀ pkt ∈ sent, stateMessage s'.cstate = some pkt.msgType ∧ pkt.transactionId = s'.transactionId := by
  obtain ⟨sent, hs, hm⟩ := step_sendsOne h w s (hr.inv h) he
  exact ⟨sent, hs, fun pkt hp => Client.message_eq_some (hm pkt hp)⟩

theorem exampleRequesting_step_sends :
    step exampleHost (exampleWorld 1) .timerFires exampleRequesting = some exampleRetried ∧
      ∃ sent : Option DHCPv6Packet,
        exampleRetried.out.filter Effect.isTransmit =
          exampleRequesting.out.filter Effect.isTransmit ++ (sent.map Effect.transmit).toList ∧
        ∀ pkt ∈ sent, stateMessage exampleRetried.cstate = some pkt.msgType ∧
          pkt.transactionId = exampleRetried.transactionId :=
  have he : step exampleHost (exampleWorld 1) .timerFires exampleRequesting = some exampleRetried := by
    with_unfolding_all rfl
  ⟨he, reachable_step_sends_state_message exampleRequesting_reachable he⟩

end DHCPv6Client
