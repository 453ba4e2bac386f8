import DHCPv6Client.Codec
import DHCPv6Client.Reachable

/-!
# What the client sends

Every message the client hands to the socket can be read back by a server: its header and
options fit the 1500 bytes of the buffer, the code and length of each option fit their two
bytes, so that `DHCPv6OptionListCreate` reads the options back as those written, and the
transaction ID fits the three bytes the header gives it (`DHCPv6Packet.Sendable`).

`Client.outbox` is the part of a client this reads: the transaction ID its next message
carries and the messages it has sent, with one `@[simp]` lemma per primitive. The senders
keep `Outbox.Inv` because each sends its message whole or not at all
(`Client.sendMessage_outbox`), and a new transaction ID is the lower 24 bits of a draw
(`transactionId_lt`). Every handler keeps it, and so does every step (`step_outbox`): so
does every reachable client (`Reachable.outbox`), and the RELEASE it sends when released
(`release_outbox`).
-/

namespace DHCPv6Client

/-- A message the client can have sent: header and options within the 1500 bytes of the
buffer, the code and length of each option within their two bytes, and the transaction ID
within its three. -/
structure DHCPv6Packet.Sendable (pkt : DHCPv6Packet) : Prop where
  fits : DHCPV6_PACKET_HEADER_LENGTH + (encodeOptions pkt.options).length ≤ 1500
  options : ∀ o ∈ pkt.options, o.Fits
  transactionId : pkt.transactionId < 2 ^ 24

/-- Whether an effect is a message handed to the socket. -/
def Effect.isTransmit : Effect → Bool
  | .transmit _ => true
  | _ => false

/-- The part of a client the invariant of what it sends reads. -/
structure Outbox where
  transactionId : Nat
  sent : List Effect

/-- The next message's transaction ID fits its three bytes, and every message sent can be
read back. -/
structure Outbox.Inv (b : Outbox) : Prop where
  transactionId : b.transactionId < 2 ^ 24
  sent : ∀ pkt, Effect.transmit pkt ∈ b.sent → pkt.Sendable

/-- `get_new_transaction_id` keeps the lower 24 bits of a draw. -/
theorem transactionId_lt (x : UInt32) : (x &&& 0xffffff).toNat < 2 ^ 24 := by
  rw [UInt32.and_toNat]
  exact lt_of_le_of_lt Nat.and_le_right (by decide)

namespace Outbox.Inv

variable {b : Outbox}

/-- A new transaction. -/
theorem drawn (hi : b.Inv) (x : UInt32) : (⟨(x &&& 0xffffff).toNat, b.sent⟩ : Outbox).Inv :=
  ⟨transactionId_lt x, hi.sent⟩

/-- One more message, which can be read back. -/
theorem send (hi : b.Inv) {pkt : DHCPv6Packet} (hp : pkt.Sendable) :
    { b with sent := b.sent ++ [Effect.transmit pkt] }.Inv := by
  refine ⟨hi.transactionId, fun q hq => ?_⟩
  rcases List.mem_append.mp hq with hq | hq
  · exact hi.sent q hq
  · cases List.mem_singleton.mp hq
    exact hp

end Outbox.Inv

namespace Client

/-- What a client has sent, and the transaction ID it sends with. -/
def outbox (s : Client) : Outbox := ⟨s.transactionId, s.out.filter Effect.isTransmit⟩

variable (h : Host) (w : World) (s : Client)

/-- The outbox reads only the transaction ID and the effects. -/
theorem outbox_congr {s' : Client} (ht : s'.transactionId = s.transactionId) (ho : s'.out = s.out) :
    s'.outbox = s.outbox := by
  simp only [outbox, ht, ho]

@[simp] theorem outbox_setState (c : ClientState) : (s.setState c).outbox = s.outbox := rfl
@[simp] theorem outbox_cancelPendingEvents : s.cancelPendingEvents.outbox = s.outbox := rfl
@[simp] theorem outbox_enableReceive (f : Handler) : (s.enableReceive f).outbox = s.outbox := rfl
@[simp] theorem outbox_timerCalloutSet (d : ℚ) (f : Handler) (ev : TimerEvent) :
    (s.timerCalloutSet d f ev).outbox = s.outbox := rfl
@[simp] theorem outbox_clearRetransmit : s.clearRetransmit.outbox = s.outbox := rfl
@[simp] theorem outbox_clearLease : s.clearLease.outbox = s.outbox := rfl
@[simp] theorem outbox_clearPacket : s.clearPacket.outbox = s.outbox := rfl
@[simp] theorem outbox_setDelayTimer (d : ℚ) (f : Handler) : (s.setDelayTimer w d f).outbox = s.outbox :=
  rfl
@[simp] theorem outbox_setRenewTimer (now t : ℚ) : (s.setRenewTimer now t).outbox = s.outbox := rfl
@[simp] theorem outbox_savePacket (p : DHCPv6Packet) : (s.savePacket w p).outbox = s.outbox := rfl
@[simp] theorem outbox_with_startTime (t : ℚ) : { s with startTime := t }.outbox = s.outbox := rfl
@[simp] theorem outbox_with_renewRebindTime (t : ℚ) :
    { s with renewRebindTime := t }.outbox = s.outbox := rfl
@[simp] theorem outbox_with_savedVerified (b : Bool) : { s with savedVerified := b }.outbox = s.outbox :=
  rfl
@[simp] theorem outbox_with_lease (l : Lease) : { s with lease := l }.outbox = s.outbox := rfl
@[simp] theorem outbox_with_mode (m : ClientMode) : { s with mode := m }.outbox = s.outbox := rfl
@[simp] theorem outbox_with_timer (t : Option TimerCallout) : { s with timer := t }.outbox = s.outbox :=
  rfl
@[simp] theorem outbox_with_privateAddress (b : Bool) :
    { s with privateAddress := b }.outbox = s.outbox := rfl
@[simp] theorem outbox_with_duid (d : Option (List UInt8)) : { s with duid := d }.outbox = s.outbox := rfl
@[simp] theorem outbox_with_requestedOptions (l : List Nat) :
    { s with requestedOptions := l }.outbox = s.outbox := rfl
@[simp] theorem outbox_with_ourIp (a : In6Addr) (n : Nat) :
    { s with ourIp := a, ourPrefixLength := n }.outbox = s.outbox := rfl

@[simp] theorem outbox_newTransactionId :
    (s.newTransactionId w).outbox = ⟨(s.draw w &&& 0xffffff).toNat, s.outbox.sent⟩ := rfl

@[simp] theorem outbox_nextRetransmit (IRT MRT : ℚ) : (s.nextRetransmit w IRT MRT).outbox = s.outbox := by
  unfold nextRetransmit; split_ifs <;> rfl

@[simp] theorem outbox_setRetransmitTimer (IRT MRT : ℚ) (f : Handler) :
    (s.setRetransmitTimer w IRT MRT f).outbox = s.outbox := outbox_nextRetransmit w s IRT MRT

theorem outbox_emit (e : Effect) :
    (s.emit e).outbox =
      if e.isTransmit then { s.outbox with sent := s.outbox.sent ++ [e] } else s.outbox := by
  cases e <;> simp [emit, outbox, Effect.isTransmit]

@[simp] theorem outbox_emit_transmit (pkt : DHCPv6Packet) :
    (s.emit (.transmit pkt)).outbox = { s.outbox with sent := s.outbox.sent ++ [.transmit pkt] } := by
  simp [outbox_emit, Effect.isTransmit]

@[simp] theorem outbox_postNotification : s.postNotification.outbox = s.outbox := by
  simp [postNotification, outbox_emit, Effect.isTransmit]

@[simp] theorem outbox_emit_generateSymptom : (s.emit .generateSymptom).outbox = s.outbox := by
  simp [outbox_emit, Effect.isTransmit]

@[simp] theorem outbox_emit_difaddr (a : In6Addr) (ok : Bool) : (s.emit (.difaddr a ok)).outbox = s.outbox := by
  simp [outbox_emit, Effect.isTransmit]

@[simp] theorem outbox_emit_aifaddr (a : In6Addr) (n vl pl : Nat) (ok : Bool) :
    (s.emit (.aifaddr a n vl pl ok)).outbox = s.outbox := by
  simp [outbox_emit, Effect.isTransmit]

@[simp] theorem outbox_getDUID : (s.getDUID w).outbox = s.outbox := by
  unfold getDUID; split <;> rfl

@[simp] theorem outbox_afterMatch (t : Nat) (p : DHCPv6Packet) : (s.afterMatch w t p).outbox = s.outbox := by
  unfold afterMatch; split <;> simp

@[simp] theorem outbox_leaseStillValid (now : ℚ) : (s.leaseStillValid now).outbox = s.outbox := by
  rw [leaseStillValid_eq]; split <;> rfl

@[simp] theorem outbox_removeAddress : (s.removeAddress w).outbox = s.outbox := by
  unfold removeAddress; split_ifs <;> simp

@[simp] theorem outbox_inactive : (s.inactive w).outbox = s.outbox := by simp [inactive]

@[simp] theorem outbox_stop (d : Bool) : (stop w d s).outbox = s.outbox := by
  rw [outbox_congr (s.removeAddress w).postNotification, outbox_postNotification, outbox_removeAddress] <;>
    cases d <;> simp [stop, postNotification, emit, setState, cancelPendingEvents, clearPacket, clearLease]

/-- A message handed to the socket only when its header and options fit the buffer can be
read back, given codes of two bytes: no option of it can be longer than the buffer. -/
theorem sendMessage_outbox {t : Nat} {os : List DHCPv6Option} (hc : ∀ o ∈ os, o.code < 2 ^ 16)
    (hi : s.outbox.Inv) : (s.sendMessage t os).outbox.Inv := by
  unfold sendMessage
  split_ifs with hf
  · rw [outbox_emit_transmit]
    refine hi.send ⟨hf, fun o ho => ⟨hc o ho, ?_⟩, hi.transactionId⟩
    have hl := encodeOption_length_le ho
    simp only [encodeOption_length, DHCPV6_OPTION_HEADER_SIZE, DHCPV6_PACKET_HEADER_LENGTH] at hl hf
    omega
  · exact hi

end Client

/-- The outbox after a branch is the outbox after the branch taken. -/
theorem outbox_ite {p : Prop} [Decidable p] {a b : Client} (ha : p → a.outbox.Inv)
    (hb : ¬p → b.outbox.Inv) : (if p then a else b).outbox.Inv := by
  split
  · exact ha ‹_›
  · exact hb ‹_›

/-- The same for a handler that can fault. -/
theorem outbox_of_ite_eq_some {p : Prop} [Decidable p] {a b : Option Client} {s' : Client}
    (ha : p → a = some s' → s'.outbox.Inv) (hb : ¬p → b = some s' → s'.outbox.Inv) :
    (if p then a else b) = some s' → s'.outbox.Inv := by
  split
  · exact ha ‹_›
  · exact hb ‹_›

theorem outbox_of_some_eq {x s' : Client} (hx : x.outbox.Inv) : some x = some s' → s'.outbox.Inv :=
  fun he => Option.some.inj he ▸ hx

section

variable (h : Host) (w : World) (s : Client)

/-! ## The senders -/

theorem packetOptions_code : ∀ o ∈ packetOptions h w s, o.code < 2 ^ 16 := by
  simp [packetOptions, kDHCPv6OPTION_CLIENTID, kDHCPv6OPTION_ORO, kDHCPv6OPTION_ELAPSED_TIME]

theorem sendInform_outbox (hi : s.outbox.Inv) : (sendInform h w s).outbox.Inv := by
  rw [sendInform_sendMessage]
  exact Client.sendMessage_outbox _ (packetOptions_code h w s) (by simpa using hi)

theorem sendSolicit_outbox (hi : s.outbox.Inv) : (sendSolicit h w s).outbox.Inv := by
  rw [sendSolicit_sendMessage]
  refine Client.sendMessage_outbox _ (List.forall_mem_append.mpr ⟨packetOptions_code h w s, ?_⟩)
    (by simpa using hi)
  simp [kDHCPv6OPTION_IA_NA]

theorem sendPacket_outbox (hi : s.outbox.Inv) : (sendPacket h w s).outbox.Inv := by
  rw [sendPacket_sendMessage]
  split
  · refine Client.sendMessage_outbox _ (List.forall_mem_append.mpr
      ⟨List.forall_mem_append.mpr ⟨packetOptions_code h w s, ?_⟩, by simp [kDHCPv6OPTION_IA_NA]⟩)
      (by simpa using hi)
    split_ifs <;> simp [kDHCPv6OPTION_SERVERID]
  · exact hi

theorem renewRebindTransmit_outbox (d : ℚ) (hi : s.outbox.Inv) : (renewRebindTransmit h w d s).outbox.Inv :=
  sendPacket_outbox h w _ hi

/-! ## Entering a state -/

theorem solicitStart_outbox (hi : s.outbox.Inv) : (solicitStart w s).outbox.Inv := by
  simp only [solicitStart, Client.outbox_setDelayTimer, Client.outbox_enableReceive,
    Client.outbox_newTransactionId]
  exact hi.drawn _

theorem retransmitOrSolicit_outbox {MRC : Nat} {IRT MRT : ℚ} {f : Handler} (hi : s.outbox.Inv) :
    (retransmitOrSolicit h w MRC IRT MRT f s).outbox.Inv :=
  outbox_ite (fun _ => solicitStart_outbox w s hi) fun _ =>
    sendPacket_outbox h w _ (by rw [Client.outbox_setRetransmitTimer]; exact hi)

theorem requestStart_outbox (hi : s.outbox.Inv) : (requestStart h w s).outbox.Inv :=
  retransmitOrSolicit_outbox h w _ (by
    simp only [Client.outbox_enableReceive, Client.outbox_with_startTime, Client.outbox_newTransactionId]
    exact hi.drawn _)

theorem unboundStart_outbox (hi : s.outbox.Inv) : (unboundStart w s).outbox.Inv :=
  solicitStart_outbox w _ (by simpa using hi)

theorem declineStart_outbox (hi : s.outbox.Inv) : (declineStart h w s).outbox.Inv :=
  retransmitOrSolicit_outbox h w _ (by
    simp only [Client.outbox_enableReceive, Client.outbox_newTransactionId]
    exact (by simpa using hi : Outbox.Inv _).drawn _)

theorem confirmStart_outbox (hi : s.outbox.Inv) : (confirmStart w s).outbox.Inv := by
  simp only [confirmStart, Client.outbox_setDelayTimer, Client.outbox_enableReceive,
    Client.outbox_newTransactionId]
  exact (by simpa using hi : Outbox.Inv _).drawn _

/-! ## Bound -/

theorem handleAddressChanged_outbox (addrs : List AddrInfo) (hi : s.outbox.Inv) :
    (handleAddressChanged h w addrs s).outbox.Inv := by
  have hc : s.postNotification.cancelPendingEvents.outbox.Inv := by simpa using hi
  unfold handleAddressChanged
  refine outbox_ite (fun _ => hi) fun _ => ?_
  split
  · exact hi
  refine outbox_ite (fun _ => declineStart_outbox h w s hi) fun _ => outbox_ite (fun _ => hi) fun _ => ?_
  exact outbox_ite (fun _ => hc) fun _ =>
    outbox_ite (fun _ => unboundStart_outbox w _ hc) fun _ => by simpa using hc

theorem boundCommit_outbox {a : In6Addr} {vl pl : Nat} {t : ℚ} (hi : s.outbox.Inv) :
    (boundCommit h w a vl pl t s).outbox.Inv := by
  simp only [boundCommit]
  generalize hx : (if (s.ourIp != 0 && s.ourIp != a) = true then
    s.emit (.difaddr s.ourIp w.difaddrOk) else s).emit (.aifaddr a (getPrefixLength w) vl pl w.aifaddrOk) = x
  have hxo : x.outbox = s.outbox := by subst hx; rw [Client.outbox_emit_aifaddr]; split <;> simp
  have hc : x.postNotification.cancelPendingEvents.outbox.Inv := by simpa [hxo] using hi
  refine outbox_ite (fun _ => hi) fun _ => outbox_ite (fun _ => hxo ▸ hi) fun _ => ?_
  refine outbox_ite (fun _ => outbox_ite (fun _ => hc) fun _ => by simpa using hc) fun _ => ?_
  exact handleAddressChanged_outbox h w _ _ (by rw [Client.outbox_with_ourIp, hxo]; exact hi)

theorem boundEnter_outbox (a : In6Addr) (hi : s.outbox.Inv) : (boundEnter h w a s).outbox.Inv := by
  have hb : { { s.setState .bound with lease.valid := true } with savedVerified := true
      }.cancelPendingEvents.outbox.Inv := hi
  unfold boundEnter
  exact outbox_ite (fun _ => boundCommit_outbox h w _ hb) fun _ =>
    outbox_ite (fun _ => unboundStart_outbox w _ hb) fun _ =>
    outbox_ite (fun _ => unboundStart_outbox w _ hb) fun _ => boundCommit_outbox h w _ hb

theorem boundStart_outbox {s' : Client} (hi : s.outbox.Inv) (he : boundStart h w s = some s') :
    s'.outbox.Inv := by
  obtain ⟨a, -, rfl⟩ := Option.map_eq_some'.mp he
  exact boundEnter_outbox h w s _ hi

/-! ## Renew and Rebind -/

theorem renewRebindTimeout_outbox (hi : s.outbox.Inv) : (renewRebindTimeout h w s).outbox.Inv := by
  have hl : (s.leaseStillValid w.now).outbox.Inv := by simpa using hi
  unfold renewRebindTimeout
  generalize s.leaseStillValid w.now = l at hl ⊢
  refine outbox_ite (fun _ => unboundStart_outbox w l hl) fun _ => outbox_ite (fun _ => ?_) fun _ => ?_
  · exact renewRebindTransmit_outbox h w _ _ (by simpa using hl)
  · refine renewRebindTransmit_outbox h w _ _ ?_
    rw [Client.outbox_nextRetransmit]
    exact outbox_ite (fun _ => by simpa using hl.drawn (l.draw w)) fun _ => hl

theorem renewRebindStart_outbox (hi : s.outbox.Inv) : (renewRebindStart h w s).outbox.Inv :=
  renewRebindTimeout_outbox h w _ (by
    simp only [Client.outbox_enableReceive, Client.outbox_newTransactionId]
    exact (by simpa using hi : Outbox.Inv _).drawn _)

/-! ## Timeouts of Solicit, Inform and Confirm -/

theorem linkCheckedTimeout_outbox {transmit : Client → Client}
    (htr : ∀ s' : Client, s'.outbox.Inv → (transmit s').outbox.Inv) (hi : s.outbox.Inv) :
    (linkCheckedTimeout w transmit s).outbox.Inv :=
  outbox_ite (fun _ => htr _ hi) fun _ =>
    outbox_ite (fun _ => by simpa using hi) fun _ => htr s hi

theorem solicitTransmit_outbox (hi : s.outbox.Inv) : (solicitTransmit h w s).outbox.Inv := by
  have hs := sendSolicit_outbox h w (s.setRetransmitTimer w DHCPv6_SOL_TIMEOUT DHCPv6_SOL_MAX_RT .solicit)
    (by simpa using hi)
  exact outbox_ite (fun _ => requestStart_outbox h w s hi) fun _ =>
    outbox_ite (fun _ => by simpa using hs) fun _ => hs

theorem solicitTimeout_outbox (hi : s.outbox.Inv) : (solicitTimeout h w s).outbox.Inv :=
  linkCheckedTimeout_outbox w s (solicitTransmit_outbox h w) hi

theorem informTransmit_outbox (hi : s.outbox.Inv) : (informTransmit h w s).outbox.Inv :=
  sendInform_outbox h w _ (by simpa using hi)

theorem informTimeout_outbox (hi : s.outbox.Inv) : (informTimeout h w s).outbox.Inv :=
  linkCheckedTimeout_outbox w s (informTransmit_outbox h w) hi

theorem informStart_outbox (hi : s.outbox.Inv) : (informStart h w s).outbox.Inv := by
  have hn : ((((s.setState .inform).clearPacket.clearRetransmit).newTransactionId w).enableReceive
      .inform).outbox.Inv := by
    simp only [Client.outbox_enableReceive, Client.outbox_newTransactionId]
    exact (by simpa using hi : Outbox.Inv _).drawn _
  unfold informStart
  exact outbox_ite (fun _ => by simpa using hn) fun _ => informTimeout_outbox h w _ hn

theorem confirmTransmit_outbox (hi : s.outbox.Inv) : (confirmTransmit h w s).outbox.Inv :=
  sendPacket_outbox h w _ (by simpa using hi)

theorem confirmTimeout_outbox {s' : Client} (hi : s.outbox.Inv) (he : confirmTimeout h w s = some s') :
    s'.outbox.Inv := by
  unfold confirmTimeout at he
  refine outbox_of_ite_eq_some
    (fun _ => outbox_of_some_eq (confirmTransmit_outbox h w { s with startTime := w.now } hi)) (fun _ => ?_) he
  refine outbox_of_ite_eq_some (fun _ => outbox_of_some_eq (by simpa using hi)) fun _ => ?_
  refine outbox_of_ite_eq_some (fun _ => outbox_of_some_eq (confirmTransmit_outbox h w s hi)) fun _ => ?_
  have hl : (s.leaseStillValid w.now).outbox.Inv := by simpa using hi
  exact outbox_of_ite_eq_some (fun _ => boundStart_outbox h w _ hl) fun _ =>
    outbox_of_some_eq (solicitStart_outbox w _ hl)

theorem releaseStart_outbox (hi : s.outbox.Inv) : (releaseStart h w s).outbox.Inv :=
  sendPacket_outbox h w _ (by
    simp only [Client.outbox_newTransactionId]
    exact (by simpa using hi : Outbox.Inv _).drawn _)

/-! ## Events -/

theorem handleWake_outbox (ev : LinkEventData) (hi : s.outbox.Inv) : (handleWake h w ev s).outbox.Inv := by
  have hr : (s.removeAddress w).outbox.Inv := by simpa using hi
  have hl : (s.leaseStillValid w.now).outbox.Inv := by simpa using hi
  unfold handleWake
  refine outbox_ite (fun _ => outbox_ite (fun _ => hr) fun _ =>
    outbox_ite (fun _ => solicitStart_outbox w _ hr) fun _ => hr) fun _ => ?_
  refine outbox_ite (fun _ => outbox_ite (fun _ => unboundStart_outbox w _ hl) fun _ => hl) fun _ => ?_
  refine outbox_ite (fun _ => confirmStart_outbox w _ hl) fun _ => outbox_ite (fun _ => hl) fun _ => ?_
  exact outbox_ite (fun _ => by simpa using hl) fun _ => renewRebindStart_outbox h w _ hl

theorem confirmIfBound_outbox (hi : s.outbox.Inv) : (confirmIfBound w s).outbox.Inv := by
  have hl : (s.leaseStillValid w.now).outbox.Inv := by simpa using hi
  exact outbox_ite (fun _ => confirmStart_outbox w _ hl) fun _ => hl

theorem handleEvent_outbox (e : IFEvent) (hi : s.outbox.Inv) : (handleEvent h w e s).outbox.Inv := by
  unfold handleEvent
  refine outbox_ite (fun _ => hi) fun _ => ?_
  split
  · exact handleAddressChanged_outbox h w s _ hi
  · exact handleWake_outbox h w s _ hi
  · exact outbox_ite (fun _ => confirmIfBound_outbox w s hi) fun _ => hi
  · exact outbox_ite (fun _ => confirmIfBound_outbox w s hi) fun _ => hi
  · exact confirmIfBound_outbox w s hi
  · exact hi

theorem start_outbox (allocateAddress privacyRequired : Bool) (hi : s.outbox.Inv) :
    (start h w allocateAddress privacyRequired s).outbox.Inv := by
  unfold start
  exact outbox_ite (fun _ => outbox_ite (fun _ => confirmStart_outbox w _ (by simpa using hi)) fun _ =>
    solicitStart_outbox w _ (by simpa using hi)) fun _ => informStart_outbox h w _ (by simpa using hi)

theorem stop_outbox (discardInformation : Bool) (hi : s.outbox.Inv) :
    (stop w discardInformation s).outbox.Inv := by
  rwa [Client.outbox_stop]

theorem release_outbox (hi : s.outbox.Inv) : (release h w s).outbox.Inv := by
  have hl : (s.leaseStillValid w.now).outbox.Inv := by simpa using hi
  exact outbox_ite (fun _ => releaseStart_outbox h w _ hl) fun _ => hl

/-! ## Timers and packets -/

theorem runTimer_outbox {t : TimerCallout} {s' : Client} (hi : s.outbox.Inv)
    (he : runTimer h w t s = some s') : s'.outbox.Inv := by
  obtain ⟨f, ev, d⟩ := t
  cases f <;> cases ev <;> simp only [runTimer, Option.some.injEq] at he
  · subst he; exact solicitStart_outbox w s hi
  · subst he; exact solicitTimeout_outbox h w s hi
  · subst he; exact requestStart_outbox h w s hi
  · subst he; exact retransmitOrSolicit_outbox h w s hi
  · subst he; exact renewRebindStart_outbox h w s hi
  · subst he; exact renewRebindTimeout_outbox h w s hi
  · subst he; exact confirmStart_outbox w s hi
  · exact confirmTimeout_outbox h w s hi he
  · subst he; exact declineStart_outbox h w s hi
  · subst he; exact retransmitOrSolicit_outbox h w s hi
  · subst he; exact informStart_outbox h w s hi
  · subst he; exact informTimeout_outbox h w s hi

theorem runReceive_outbox {f : Handler} {p : DHCPv6Packet} {s' : Client} (hi : s.outbox.Inv)
    (he : runReceive h w f p s = some s') : s'.outbox.Inv := by
  obtain ⟨d, hd⟩ := Client.afterMatch_eq w s kDHCPv6MessageREPLY p
  have ha : { s with duid := d }.outbox.Inv := hi
  have hs : ∀ {x : Client}, some { s with duid := d } = some x → x.outbox.Inv := outbox_of_some_eq ha
  have hp : ({ s with duid := d }.savePacket w p).outbox.Inv := by rw [Client.outbox_savePacket]; exact hi
  cases f <;> simp only [runReceive, Option.some.injEq] at he
  · subst he
    obtain ⟨d', hd'⟩ := solicitData_eq h w s p
    rw [hd']
    have hp' : ({ s with duid := d' }.savePacket w p).outbox.Inv := by
      rw [Client.outbox_savePacket]; exact hi
    exact outbox_ite (fun _ => outbox_ite (fun _ => requestStart_outbox h w _ hp') fun _ => hp') fun _ => hi
  · simp only [requestData, hd] at he
    refine outbox_of_ite_eq_some (fun _ => hs) (fun _ => ?_) he
    split
    · exact hs
    exact outbox_of_ite_eq_some (fun _ => hs) fun _ =>
      outbox_of_ite_eq_some (fun _ => outbox_of_some_eq (solicitStart_outbox w _ ha)) fun _ =>
      outbox_of_ite_eq_some (fun _ => hs) fun _ => boundStart_outbox h w _ hp
  · simp only [renewRebindData, hd] at he
    refine outbox_of_ite_eq_some (fun _ => hs) (fun _ => ?_) he
    split
    · exact hs
    exact outbox_of_ite_eq_some (fun _ => outbox_of_some_eq (unboundStart_outbox w _ ha)) fun _ =>
      outbox_of_ite_eq_some (fun _ => outbox_of_some_eq (unboundStart_outbox w _ ha)) fun _ =>
      boundStart_outbox h w _ hp
  · simp only [confirmData, hd] at he
    refine outbox_of_ite_eq_some (fun _ => hs) (fun _ => ?_) he
    split
    · exact hs
    exact outbox_of_ite_eq_some (fun _ => outbox_of_some_eq (unboundStart_outbox w _ ha)) fun _ =>
      boundStart_outbox h w _ ha
  · subst he
    simp only [declineData, hd]
    exact outbox_ite (fun _ => ha) fun _ => solicitStart_outbox w _ ha
  · subst he
    simp only [informData, hd]
    exact outbox_ite (fun _ => ha) fun _ => by simpa [informCompleteStart] using hp

/-- Every step keeps the outbox invariant. -/
theorem step_outbox {e : Event} {s' : Client} (hi : s.outbox.Inv) (he : step h w e s = some s') :
    s'.outbox.Inv := by
  cases e with
  | start a p => cases he; exact start_outbox h w s a p hi
  | stop d => cases he; exact stop_outbox w s d hi
  | timerFires =>
    simp only [step] at he
    split at he
    · exact runTimer_outbox h w { s with timer := none } hi he
    · cases he; exact hi
  | receive p =>
    simp only [step] at he
    split at he
    · exact runReceive_outbox h w s hi he
    · cases he; exact hi
  | handleEvent e => cases he; exact handleEvent_outbox h w s e hi
  | setRequestedOptions l => cases he; exact hi

end

theorem create_outbox : create.outbox.Inv := ⟨by decide, fun _ h => by cases h⟩

/-- Every reachable client keeps the outbox invariant. -/
theorem Reachable.outbox {h : Host} {s : Client} (hr : Reachable h s) : s.outbox.Inv := by
  induction hr with
  | create => exact create_outbox
  | step w _ _ he ih => exact step_outbox h w _ ih he

/-- A message that can be read back is read back as sent. -/
theorem DHCPv6Packet.Sendable.readable {pkt : DHCPv6Packet} (hp : pkt.Sendable) :
    DHCPV6_PACKET_HEADER_LENGTH + (encodeOptions pkt.options).length ≤ 1500 ∧
      optionListCreate (encodeOptions pkt.options) = some pkt.options ∧ pkt.transactionId < 2 ^ 24 :=
  ⟨hp.fits, parseOptions_encodeOptions hp.options (length_le_encodeOptions_length _), hp.transactionId⟩

theorem mem_sent_of_mem_out {s : Client} {pkt : DHCPv6Packet} (hp : Effect.transmit pkt ∈ s.out) :
    Effect.transmit pkt ∈ s.outbox.sent :=
  List.mem_filter.mpr ⟨hp, rfl⟩

/-- The SOLICIT of the example run: our DUID, the ORO of the default requested options, an
elapsed time of 0 and an IA_NA of IAID 1 with no address. -/
def exampleSolicit : DHCPv6Packet :=
  ⟨kDHCPv6MessageSOLICIT, 0, [⟨kDHCPv6OPTION_CLIENTID, [0, 1]⟩, ⟨kDHCPv6OPTION_ORO, [0, 23, 0, 24, 0, 103]⟩,
    ⟨kDHCPv6OPTION_ELAPSED_TIME, [0, 0]⟩, ⟨kDHCPv6OPTION_IA_NA, solicitIaNa 1⟩]⟩

/-- Every message a reachable client has handed to the socket, and the RELEASE it sends when
released, can be read back: header and options fit the 1500 bytes of the buffer,
`DHCPv6OptionListCreate` reads the options back as those the client wrote, and the
transaction ID fits the three bytes of the header. -/
theorem reachable_sent_readable {h : Host} {s : Client} (hr : Reachable h s) (w : World)
    {pkt : DHCPv6Packet} (hp : Effect.transmit pkt ∈ s.out ∨ Effect.transmit pkt ∈ (release h w s).out) :
    DHCPV6_PACKET_HEADER_LENGTH + (encodeOptions pkt.options).length ≤ 1500 ∧
      optionListCreate (encodeOptions pkt.options) = some pkt.options ∧ pkt.transactionId < 2 ^ 24 := by
  rcases hp with hp | hp
  · exact (hr.outbox.sent pkt (mem_sent_of_mem_out hp)).readable
  · exact ((release_outbox h w s hr.outbox).sent pkt (mem_sent_of_mem_out hp)).readable

theorem exampleRequesting_sent_readable :
    Effect.transmit exampleSolicit ∈ exampleRequesting.out ∧
      DHCPV6_PACKET_HEADER_LENGTH + (encodeOptions exampleSolicit.options).length ≤ 1500 ∧
      optionListCreate (encodeOptions exampleSolicit.options) = some exampleSolicit.options ∧
      exampleSolicit.transactionId < 2 ^ 24 :=
  have hp : Effect.transmit exampleSolicit ∈ exampleRequesting.out := by with_unfolding_all decide
  ⟨hp, reachable_sent_readable exampleRequesting_reachable (exampleWorld 0) (.inl hp)⟩

end DHCPv6Client
