import DHCPv6Client.Transmit

/-!
# The state functions

`DHCPv6Client_<State>` of `DHCPv6Client.c`, one definition per state and event:
`…Start` for `IFEventID_start_e`, `…Timeout` for `IFEventID_timeout_e`, `…Data` for a
packet given to the receive handler. A start that falls through into the timeout body in
the C code calls the timeout here. The handlers call one another without a cycle, so each
is a plain definition.

`boundStart` reads the address of `ia_addr` before anything else; with `ia_addr` `NULL`
that read is a fault, and `boundStart` and every handler that may call it give `none`.
-/

namespace DHCPv6Client

/-! ## Constants -/

def DHCPv6_SOL_MAX_DELAY : ℚ := 1
def DHCPv6_SOL_TIMEOUT : ℚ := 1
def DHCPv6_SOL_MAX_RT : ℚ := 120
def DHCPv6_REQ_TIMEOUT : ℚ := 1
def DHCPv6_REQ_MAX_RT : ℚ := 30
def DHCPv6_REQ_MAX_RC : Nat := 10
def DHCPv6_CNF_MAX_DELAY : ℚ := 1
def DHCPv6_CNF_TIMEOUT : ℚ := 1
def DHCPv6_CNF_MAX_RT : ℚ := 4
def DHCPv6_CNF_MAX_RD : ℚ := 10
def DHCPv6_REN_TIMEOUT : ℚ := 10
def DHCPv6_REN_MAX_RT : ℚ := 600
def DHCPv6_REB_TIMEOUT : ℚ := 10
def DHCPv6_REB_MAX_RT : ℚ := 600
def DHCPv6_INF_MAX_DELAY : ℚ := 1
def DHCPv6_INF_TIMEOUT : ℚ := 1
def DHCPv6_INF_MAX_RT : ℚ := 120
def DHCPv6_DEC_TIMEOUT : ℚ := 1
def DHCPv6_DEC_MAX_RC : Nat := 5
def GENERATE_SYMPTOM_AT_TRY : Nat := 6
def DHCPV6_PREFIX_LENGTH : Nat := 128

/-- What a link event says besides the link status (`link_event_data_t`'s `info`). -/
inductive LinkInfo
  | networkChanged | bssidChanged | other
deriving DecidableEq, Repr

/-- `link_event_data_t`. -/
structure LinkEventData where
  linkStatus : LinkStatus
  info : LinkInfo
deriving DecidableEq, Repr

/-- `S_get_prefix_length`: the on-link prefix length, 128 when unknown. -/
def getPrefixLength (w : World) : Nat :=
  if w.prefixLength = 0 then DHCPV6_PREFIX_LENGTH else w.prefixLength

/-- `S_time_in_future`. -/
def timeInFuture (now theTime interval : ℚ) : Bool :=
  now < theTime && interval ≤ theTime - now

namespace Client

variable (w : World)

/-- `timer_callout_set(timer, random_double_in_range(0, maxDelay), f, client, timeout)`. -/
def setDelayTimer (maxDelay : ℚ) (f : Handler) (s : Client) : Client :=
  s.advance.timerCalloutSet (randomDoubleInRange (s.draw w) 0 maxDelay) f .timeout

/-- The renewal timer of Bound and of `DHCPv6ClientHandleAddressChanged`: at T1 less the
time since the lease started, or in 10 s once T1 has passed. -/
def setRenewTimer (now timeSinceStart : ℚ) (s : Client) : Client :=
  let t1 := if toUInt32 timeSinceStart < s.lease.t1 then s.lease.t1 - toUInt32 timeSinceStart
    else 10
  { s with renewRebindTime := now + t1 }.timerCalloutSet t1 .renewRebind .start

/-- The state after the first test of a receive handler: looking our DUID up, which it
does once type and transaction id match, fills the private-DUID cache. -/
def afterMatch (msgType : Nat) (p : DHCPv6Packet) (s : Client) : Client :=
  if p.msgType = msgType ∧ p.transactionId = s.transactionId then s.getDUID w else s

end Client

variable (h : Host) (w : World)

/-- The test every receive handler starts with: the message type it expects, our
transaction id, our DUID in CLIENTID, and a valid SERVERID. -/
def packetMatches (msgType : Nat) (p : DHCPv6Packet) (s : Client) : Bool :=
  p.msgType == msgType && p.transactionId == s.transactionId &&
    duidMatches (s.currentDUID h w) p.options && serverIdValid h.duidIsValid p.options

/-! ## Solicit, Request, Unbound, Decline -/

/-- `DHCPv6Client_Solicit`, start. -/
def solicitStart (s : Client) : Client :=
  let s := (((s.setState .solicit).clearRetransmit.clearPacket).newTransactionId w)
  (s.enableReceive .solicit).setDelayTimer w DHCPv6_SOL_MAX_DELAY .solicit

/-- The timeouts of Request and Decline: after `MRC` tries back to Solicit, else the next
try. -/
def retransmitOrSolicit (MRC : Nat) (IRT MRT : ℚ) (f : Handler) (s : Client) : Client :=
  if MRC ≤ s.tries then solicitStart w s
  else sendPacket h w (s.setRetransmitTimer w IRT MRT f)

/-- `DHCPv6Client_Request`, timeout. -/
def requestTimeout : Client → Client :=
  retransmitOrSolicit h w DHCPv6_REQ_MAX_RC DHCPv6_REQ_TIMEOUT DHCPv6_REQ_MAX_RT .request

/-- `DHCPv6Client_Decline`, timeout. -/
def declineTimeout : Client → Client :=
  retransmitOrSolicit h w DHCPv6_DEC_MAX_RC DHCPv6_DEC_TIMEOUT 0 .decline

/-- `DHCPv6Client_Request`, start. -/
def requestStart (s : Client) : Client :=
  let s := (s.setState .request).clearRetransmit.newTransactionId w
  requestTimeout h w ({ s with startTime := w.now }.enableReceive .request)

/-- `DHCPv6Client_Unbound`, start. -/
def unboundStart (s : Client) : Client :=
  solicitStart w
    ((((s.setState .unbound).cancelPendingEvents.removeAddress w).clearPacket).postNotification)

/-- `DHCPv6Client_Decline`, start. -/
def declineStart (s : Client) : Client :=
  let s := ((s.setState .decline).removeAddress w).cancelPendingEvents.clearLease
  let s := ({ s with savedVerified := false }.postNotification.clearRetransmit).newTransactionId w
  declineTimeout h w (s.enableReceive .decline)

/-! ## Bound -/

/-- `DHCPv6ClientHandleAddressChanged`: in Bound, the first report of our address
decides: duplicated, Decline; tentative, nothing yet; usable, notify and arm the renewal
timer. -/
def handleAddressChanged (addrs : List AddrInfo) (s : Client) : Client :=
  if addrs = [] ∨ s.cstate ≠ .bound then s
  else
    match addrs.find? (·.addr == s.ourIp) with
    | none => s
    | some scan =>
      if scan.addrFlags &&& IN6_IFF_DUPLICATED ≠ 0 then declineStart h w s
      else if scan.addrFlags &&& IN6_IFF_TENTATIVE ≠ 0 then s
      else
        let s := s.postNotification.cancelPendingEvents
        if s.lease.validLifetime = DHCP_INFINITE_LEASE then s
        else if w.now < s.lease.start then unboundStart w s
        else s.setRenewTimer w.now (w.now - s.lease.start)

/-- The end of Bound's entry, once a socket is had: the old address removed if it
differs, the new one added with the residual lifetimes; then, for the same address again,
notify and arm the renewal timer, and for a new one record it and look at the interface's
addresses. A failed add leaves `our_ip` as it was. -/
def boundCommit (ourIp : In6Addr) (validLifetime preferredLifetime : Nat)
    (timeSinceStart : ℚ) (s : Client) : Client :=
  if !w.socketOk then s
  else
    let same : Bool := s.ourIp != 0 && s.ourIp == ourIp
    let s := if s.ourIp != 0 && s.ourIp != ourIp then s.emit (.difaddr s.ourIp w.difaddrOk) else s
    let prefixLength := getPrefixLength w
    let s := s.emit (.aifaddr ourIp prefixLength validLifetime preferredLifetime w.aifaddrOk)
    if !w.aifaddrOk then s
    else if same then
      let s := s.postNotification.cancelPendingEvents
      if s.lease.validLifetime = DHCP_INFINITE_LEASE then s
      else s.setRenewTimer w.now timeSinceStart
    else handleAddressChanged h w w.addrList { s with ourIp, ourPrefixLength := prefixLength }

/-- `DHCPv6Client_Bound`, start, given the address read from `ia_addr`: the lease made
valid, and a finite one checked against the clock (a start in the future or an expired
lease is Unbound) and cut down by the time already passed. -/
def boundEnter (ourIp : In6Addr) (s : Client) : Client :=
  let s := { s.setState .bound with lease.valid := true }
  let s := { s with savedVerified := true }.cancelPendingEvents
  if s.lease.validLifetime = DHCP_INFINITE_LEASE then
    boundCommit h w ourIp s.lease.validLifetime s.lease.preferredLifetime 0 s
  else if w.now < s.lease.start then unboundStart w s
  else
    let u := toUInt32 (w.now - s.lease.start)
    if s.lease.validLifetime ≤ u then unboundStart w s
    else
      boundCommit h w ourIp (s.lease.validLifetime - u)
        (if u < s.lease.preferredLifetime then s.lease.preferredLifetime - u else 0)
        (w.now - s.lease.start) s

/-- `DHCPv6Client_Bound`, start: the address of `ia_addr` is read unconditionally, a fault
when it is `NULL`. -/
def boundStart (s : Client) : Option Client :=
  s.iaAddr.map fun a => boundEnter h w (iaAddrGetAddress a) s

/-! ## Renew and Rebind -/

/-- The end of a Renew or Rebind timeout: the renewal time recorded, the timer armed, the
packet sent. -/
def renewRebindTransmit (waitTime : ℚ) (s : Client) : Client :=
  sendPacket h w
    ({ s with renewRebindTime := w.now + waitTime }.timerCalloutSet waitTime .renewRebind .timeout)

/-- `DHCPv6Client_RenewRebind`, timeout: a lease no longer valid is Unbound; before T2 a
RENEW, its wait cut to T2; from T2 on a REBIND (a new phase when coming from Renew), its
wait cut to the end of the lease. -/
def renewRebindTimeout (s : Client) : Client :=
  let s := s.leaseStillValid w.now
  if !s.lease.valid then unboundStart w s
  else
    let u := toUInt32 (w.now - s.lease.start)
    if u < s.lease.t2 then
      let s := s.nextRetransmit w DHCPv6_REN_TIMEOUT DHCPv6_REN_MAX_RT
      renewRebindTransmit h w (min s.retransmitTime ((s.lease.t2 - u : Nat) : ℚ)) s
    else
      let s := if s.cstate ≠ .rebind then
          ({ s.newTransactionId w with startTime := w.now }.setState .rebind).clearRetransmit
        else s
      let s := s.nextRetransmit w DHCPv6_REB_TIMEOUT DHCPv6_REB_MAX_RT
      renewRebindTransmit h w (min s.retransmitTime (u32Sub s.lease.validLifetime u : ℚ)) s

/-- `DHCPv6Client_RenewRebind`, start. -/
def renewRebindStart (s : Client) : Client :=
  let s := (s.setState .renew).cancelPendingEvents.clearRetransmit
  renewRebindTimeout h w (({ s with startTime := w.now }.newTransactionId w).enableReceive .renewRebind)

/-! ## Timeouts of Solicit, Confirm and Inform -/

/-- The timeouts of Solicit and Inform: the first records the start of the phase; a later
one that finds the link down goes inactive; then `transmit`. -/
def linkCheckedTimeout (transmit : Client → Client) (s : Client) : Client :=
  if s.tries = 0 then transmit { s with startTime := w.now }
  else if w.linkStatus.isInactive then s.inactive w
  else transmit s

/-- The body of the Solicit timeout: Request if an ADVERTISE was saved, else the next
SOLICIT, and the symptom from the sixth try on. -/
def solicitTransmit (s : Client) : Client :=
  if s.saved.isSome then requestStart h w s
  else
    let s := sendSolicit h w (s.setRetransmitTimer w DHCPv6_SOL_TIMEOUT DHCPv6_SOL_MAX_RT .solicit)
    if GENERATE_SYMPTOM_AT_TRY ≤ s.tries then s.emit .generateSymptom else s

/-- `DHCPv6Client_Solicit`, timeout. -/
def solicitTimeout : Client → Client := linkCheckedTimeout w (solicitTransmit h w)

/-- `DHCPv6Client_Confirm`, start. -/
def confirmStart (s : Client) : Client :=
  let s := { (s.setState .confirm).cancelPendingEvents.clearRetransmit with savedVerified := false }
  ((s.newTransactionId w).enableReceive .confirm).setDelayTimer w DHCPv6_CNF_MAX_DELAY .confirm

/-- The next CONFIRM. -/
def confirmTransmit (s : Client) : Client :=
  sendPacket h w (s.setRetransmitTimer w DHCPv6_CNF_TIMEOUT DHCPv6_CNF_MAX_RT .confirm)

/-- `DHCPv6Client_Confirm`, timeout: once `CNF_MAX_RD` has passed (or the clock went
back), Bound on a lease still valid, else Solicit. -/
def confirmTimeout (s : Client) : Option Client :=
  if s.tries = 0 then some (confirmTransmit h w { s with startTime := w.now })
  else if w.linkStatus.isInactive then some (s.inactive w)
  else if s.startTime < w.now ∧ w.now - s.startTime < DHCPv6_CNF_MAX_RD then
    some (confirmTransmit h w s)
  else
    let s := s.leaseStillValid w.now
    if s.lease.valid then boundStart h w s else some (solicitStart w s)

/-- `DHCPv6Client_InformComplete`, start. -/
def informCompleteStart (s : Client) : Client :=
  (s.setState .informComplete).cancelPendingEvents

/-- The next INFORMATION-REQUEST. -/
def informTransmit (s : Client) : Client :=
  sendInform h w (s.setRetransmitTimer w DHCPv6_INF_TIMEOUT DHCPv6_INF_MAX_RT .inform)

/-- `DHCPv6Client_Inform`, timeout. -/
def informTimeout : Client → Client := linkCheckedTimeout w (informTransmit h w)

/-- `DHCPv6Client_Inform`, start: a cellular interface sends at once. -/
def informStart (s : Client) : Client :=
  let s := (((s.setState .inform).clearPacket.clearRetransmit).newTransactionId w).enableReceive .inform
  if !h.isCellular then s.setDelayTimer w DHCPv6_INF_MAX_DELAY .inform else informTimeout h w s

/-- `DHCPv6Client_Release`, start: one RELEASE, no reply awaited. -/
def releaseStart (s : Client) : Client :=
  sendPacket h w ((((s.setState .release).removeAddress w).cancelPendingEvents.clearRetransmit).newTransactionId w)

/-! ## Receiving -/

/-- `DHCPv6Client_Solicit`, data: an ADVERTISE with a readable status other than
NoAddrsAvail and a usable IA_NA is saved if its preference beats the saved one's; Request
at once on the maximum preference or after the first retransmission. -/
def solicitData (p : DHCPv6Packet) (s : Client) : Client :=
  let s' := s.afterMatch w kDHCPv6MessageADVERTISE p
  if !packetMatches h w kDHCPv6MessageADVERTISE p s then s'
  else
    match getStatusCode p.options with
    | none => s'
    | some code =>
      if code = kDHCPv6StatusCodeNoAddrsAvail then s'
      else if (getIaNaAddrCode p.options).iaNa = none then s'
      else
        let pref := getPreferenceValueFromOptions p.options
        if s'.saved.any (fun q => pref ≤ getPreferenceValueFromOptions q.options) then s'
        else
          let s := s'.savePacket w p
          if 1 < s.tries ∨ pref = kDHCPv6OptionPREFERENCEMaxValue then requestStart h w s else s

/-- `DHCPv6Client_Request`, data: a top-level NoAddrsAvail is ignored, an IA_NA with
NotOnLink restarts Solicit, and a usable IA_NA is saved and Bound. -/
def requestData (p : DHCPv6Packet) (s : Client) : Option Client :=
  let s' := s.afterMatch w kDHCPv6MessageREPLY p
  if !packetMatches h w kDHCPv6MessageREPLY p s then some s'
  else
    match getStatusCode p.options with
    | none => some s'
    | some code =>
      if code = kDHCPv6StatusCodeNoAddrsAvail then some s'
      else if (getIaNaAddrCode p.options).code = kDHCPv6StatusCodeNotOnLink then
        some (solicitStart w s')
      else if (getIaNaAddrCode p.options).iaNa = none then some s'
      else boundStart h w (s'.savePacket w p)

/-- `DHCPv6Client_RenewRebind`, data: any failure status or no usable IA_NA is Unbound. -/
def renewRebindData (p : DHCPv6Packet) (s : Client) : Option Client :=
  let s' := s.afterMatch w kDHCPv6MessageREPLY p
  if !packetMatches h w kDHCPv6MessageREPLY p s then some s'
  else
    match getStatusCode p.options with
    | none => some s'
    | some code =>
      if code ≠ kDHCPv6StatusCodeSuccess then some (unboundStart w s')
      else if (getIaNaAddrCode p.options).iaNa = none then some (unboundStart w s')
      else boundStart h w (s'.savePacket w p)

/-- `DHCPv6Client_Confirm`, data: success is Bound on the saved packet, anything else
Unbound. -/
def confirmData (p : DHCPv6Packet) (s : Client) : Option Client :=
  let s' := s.afterMatch w kDHCPv6MessageREPLY p
  if !packetMatches h w kDHCPv6MessageREPLY p s then some s'
  else
    match getStatusCode p.options with
    | none => some s'
    | some code =>
      if code ≠ kDHCPv6StatusCodeSuccess then some (unboundStart w s') else boundStart h w s'

/-- `DHCPv6Client_Decline`, data: any reply goes back to Solicit. -/
def declineData (p : DHCPv6Packet) (s : Client) : Client :=
  let s' := s.afterMatch w kDHCPv6MessageREPLY p
  if !packetMatches h w kDHCPv6MessageREPLY p s then s' else solicitStart w s'

/-- `DHCPv6Client_Inform`, data: the reply is saved, notified, and the client is done. -/
def informData (p : DHCPv6Packet) (s : Client) : Client :=
  let s' := s.afterMatch w kDHCPv6MessageREPLY p
  if !packetMatches h w kDHCPv6MessageREPLY p s then s'
  else informCompleteStart (s'.savePacket w p).postNotification

/-! ## Wake -/

/-- `DHCPv6ClientHandleWake`: off the link, or maybe on another network, the address is
removed (and Solicit restarted once the link is there); otherwise a lease no longer valid
is Unbound, one outside Bound, Renew and Rebind or after a roam is confirmed, and a finite
one gets its renewal timer back, or renews now when that time is near. -/
def handleWake (ev : LinkEventData) (s : Client) : Client :=
  let wait := ev.linkStatus.isInactive
  if wait || (h.isWireless && ev.info == .networkChanged) ||
      (!h.isWireless && !ev.linkStatus.wakeOnSameNetwork) then
    let s := s.removeAddress w
    if wait then s else if s.cstate ≠ .solicit then solicitStart w s else s
  else
    let s := s.leaseStillValid w.now
    if !s.lease.valid then (if s.cstate ≠ .solicit then unboundStart w s else s)
    else if !s.cstate.isBoundRenewOrRebind || ev.info == .bssidChanged then confirmStart w s
    else if s.lease.validLifetime = DHCP_INFINITE_LEASE then s
    else if timeInFuture w.now s.renewRebindTime h.wakeSkewSecs then
      s.timerCalloutSet (s.renewRebindTime - w.now) .renewRebind .start
    else renewRebindStart h w s

end DHCPv6Client
