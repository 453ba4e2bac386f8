import DHCPv6Client.Wire
import Mathlib.Data.Rat.Floor

/-!
# The client record and what it reads of the world

`Client` is `struct DHCPv6Client` with its lease (`Lease`, `lease_info_t`), together with
what the client drives outside itself: the effects it has had on its collaborators, in
order (`Effect`: transmissions, notifications, kernel address calls), the draws it has
made of `arc4random`, and the global requested-options table. Pointers into the saved
packet (`server_id`, `ia_na`, `ia_addr`) are the bytes they point to. Times
(`CFAbsoluteTime`) are exact rationals.

While one event is handled the client reads the world through a `World`: the clock, the
random draws, the link, the SSID and the kernel's answers. What cannot change for a
client (its interface, the system DUID, `DHCPDUIDIsValid`) is a `Host`.

The primitive operations follow: the small functions of `DHCPv6Client.c` the handlers
are made of (`setState`, `cancelPendingEvents`, `clearPacket`, `removeAddress`,
`nextRetransmit`, `leaseStillValid`, `savePacket`, …).
-/

namespace DHCPv6Client

/-! ## States, handlers and timers -/

/-- `DHCPv6ClientState`. -/
inductive ClientState
  | inactive | solicit | request | bound | renew | rebind | confirm | release | unbound
  | decline | inform | informComplete
deriving DecidableEq, Repr

/-- `DHCPv6ClientMode`. -/
inductive ClientMode
  | idle | stateless | stateful
deriving DecidableEq, Repr

/-- The state functions a timer or the socket's receive is set to run. -/
inductive Handler
  | solicit | request | renewRebind | confirm | decline | inform
deriving DecidableEq, Repr

/-- The event a timer is set to deliver: `IFEventID_start_e` or `IFEventID_timeout_e`. -/
inductive TimerEvent
  | start | timeout
deriving DecidableEq, Repr

/-- An armed `timer_callout_t`: the function it runs, with which event, after how long. -/
structure TimerCallout where
  func : Handler
  event : TimerEvent
  delay : ℚ
deriving DecidableEq, Repr

/-- `S_dhcp_state_is_bound_renew_or_rebind`. -/
def ClientState.isBoundRenewOrRebind : ClientState → Bool
  | .bound | .renew | .rebind => true
  | _ => false

@[simp] theorem ClientState.isBoundRenewOrRebind_eq_true {c : ClientState} :
    c.isBoundRenewOrRebind = true ↔ c = .bound ∨ c = .renew ∨ c = .rebind := by
  cases c <;> simp [isBoundRenewOrRebind]

/-! ## The client -/

/-- `lease_info_t`. The times are relative to `start`. -/
structure Lease where
  start : ℚ := 0
  t1 : Nat := 0
  t2 : Nat := 0
  validLifetime : Nat := 0
  preferredLifetime : Nat := 0
  valid : Bool := false
  ssid : Option String := none
deriving DecidableEq, Repr

/-- An address the kernel reports on the interface (`inet6_addrinfo_t`). -/
structure AddrInfo where
  addr : In6Addr
  prefixLength : Nat
  addrFlags : Nat
deriving DecidableEq, Repr

def IN6_IFF_TENTATIVE : Nat := 0x02
def IN6_IFF_DUPLICATED : Nat := 0x04

/-- What the client does to its collaborators. -/
inductive Effect
  /-- `DHCPv6SocketTransmit` of a packet. -/
  | transmit (pkt : DHCPv6Packet)
  /-- `DHCPv6ClientPostNotification`. -/
  | notify
  /-- The callback with `kDHCPv6ClientNotificationTypeGenerateSymptom`. -/
  | generateSymptom
  /-- `inet6_difaddr`, and whether the kernel did it. -/
  | difaddr (addr : In6Addr) (ok : Bool)
  /-- `inet6_aifaddr`, and whether the kernel did it. -/
  | aifaddr (addr : In6Addr) (prefixLength validLifetime preferredLifetime : Nat) (ok : Bool)
deriving DecidableEq, Repr

/-- `struct DHCPv6Client`; `receive` is the socket's receive handler (`none` when
disabled), `timer` the armed callout. The last three fields are outside the struct: the
global `DHCPv6RequestedOptions`, the draws made of `arc4random`, and the effects so far. -/
structure Client where
  ourIp : In6Addr := 0
  ourPrefixLength : Nat := 0
  mode : ClientMode := .idle
  cstate : ClientState := .inactive
  receive : Option Handler := none
  timer : Option TimerCallout := none
  transactionId : Nat := 0
  tries : Nat := 0
  startTime : ℚ := 0
  retransmitTime : ℚ := 0
  saved : Option DHCPv6Packet := none
  savedVerified : Bool := false
  serverId : Option (List UInt8) := none
  iaNa : Option (List UInt8) := none
  iaAddr : Option (List UInt8) := none
  lease : Lease := {}
  privateAddress : Bool := false
  duid : Option (List UInt8) := none
  renewRebindTime : ℚ := 0
  requestedOptions : List Nat :=
    [kDHCPv6OPTION_DNS_SERVERS, kDHCPv6OPTION_DOMAIN_LIST, kDHCPv6OPTION_CAPTIVE_PORTAL_URL]
  rng : Nat := 0
  out : List Effect := []
deriving DecidableEq

/-! ## The world -/

/-- `link_status_t`. -/
structure LinkStatus where
  valid : Bool
  active : Bool
  wakeOnSameNetwork : Bool
deriving DecidableEq, Repr

/-- The test the timeouts make of `if_get_link_status`: known, and not active. -/
def LinkStatus.isInactive (l : LinkStatus) : Bool := l.valid && !l.active

/-- What the client reads of the world while it handles one event. -/
structure World where
  /-- `timer_get_current_time()`. -/
  now : ℚ
  /-- `arc4random()`, by draw. -/
  rand : Nat → UInt32
  /-- `if_get_link_status`. -/
  linkStatus : LinkStatus
  /-- `ServiceGetSSID`. -/
  ssid : Option String
  /-- `DHCPDUIDCopy`: a private DUID for the interface. -/
  privateDuid : List UInt8
  /-- Whether `inet6_dgram_socket`, `inet6_difaddr` and `inet6_aifaddr` succeed. -/
  socketOk : Bool
  difaddrOk : Bool
  aifaddrOk : Bool
  /-- `inet6_get_prefix_length`. -/
  prefixLength : Nat
  /-- `inet6_addrlist_copy`: the interface's addresses. -/
  addrList : List AddrInfo

/-- What is fixed for a client: `DHCPDUIDIsValid`, the system DUID
(`DHCPDUIDEstablishAndGet`), the IAID of the interface (`DHCPIAIDGet`), the interface's
kind, and `G_wake_skew_secs`. -/
structure Host where
  duidIsValid : List UInt8 → Bool
  systemDuid : List UInt8
  iaid : Nat
  isWireless : Bool
  isCellular : Bool
  wakeSkewSecs : ℚ

/-! ## Numbers -/

def UINT32_MAX : Nat := 0xffffffff

/-- `(uint32_t)x` of a double, as arm64 converts it (`fcvtzu`): truncation, saturating at
0 and `UINT32_MAX` out of range. C leaves an out-of-range conversion undefined; x86-64
keeps the low 32 bits of the truncated value instead, so there a negative time difference
(the clock gone back) converts to a large number, where here it converts to 0. -/
def toUInt32 (x : ℚ) : Nat := min ⌊x⌋₊ UINT32_MAX

/-- Unsigned 32-bit subtraction. -/
def u32Sub (a b : Nat) : Nat := (a + 2 ^ 32 - b % 2 ^ 32) % 2 ^ 32

/-- `random_double_in_range`, given the draw `r`. -/
def randomDoubleInRange (r : UInt32) (bottom top : ℚ) : ℚ :=
  bottom + (top - bottom) * ((r.toNat : ℚ) / UINT32_MAX)

/-- `DHCPv6_RAND`: a factor in `[-0.1, 0.1]`. -/
def dhcpv6Rand (r : UInt32) : ℚ := randomDoubleInRange r (-1/10) (1/10)

/-- `DHCPv6InitialTimeout`. -/
def initialTimeout (r : UInt32) (IRT : ℚ) : ℚ := IRT + dhcpv6Rand r * IRT

/-- The first value of `DHCPv6SubsequentTimeout`, before the cap. -/
def doubledTimeout (r : UInt32) (RTprev : ℚ) : ℚ := 2 * RTprev + dhcpv6Rand r * RTprev

/-- Whether `DHCPv6SubsequentTimeout` caps at `MRT` (and so draws again). -/
def capsAt (RT MRT : ℚ) : Bool := MRT ≠ 0 && MRT < RT

/-- `DHCPv6SubsequentTimeout`, given its draws. -/
def subsequentTimeout (r₁ r₂ : UInt32) (RTprev MRT : ℚ) : ℚ :=
  if capsAt (doubledTimeout r₁ RTprev) MRT then MRT + dhcpv6Rand r₂ * MRT
  else doubledTimeout r₁ RTprev

/-- The lease `DHCPv6ClientLeaseStillValid` finds gone: valid and finite, and either
started in the future (the clock went back) or as old as its valid lifetime. -/
def Lease.expired (now : ℚ) (l : Lease) : Bool :=
  l.valid && l.validLifetime != DHCP_INFINITE_LEASE &&
    (decide (now < l.start) || decide ((l.validLifetime : ℚ) ≤ now - l.start))

/-! ## Primitive operations -/

namespace Client

variable (h : Host) (w : World)

/-- `DHCPv6ClientSetState`. -/
def setState (cstate : ClientState) (s : Client) : Client := { s with cstate }

/-- `DHCPv6ClientCancelPendingEvents`: receive disabled, timer cancelled. -/
def cancelPendingEvents (s : Client) : Client := { s with receive := none, timer := none }

/-- `DHCPv6SocketEnableReceive` with a state function. -/
def enableReceive (f : Handler) (s : Client) : Client := { s with receive := some f }

/-- `timer_callout_set`: a later set replaces the earlier one. -/
def timerCalloutSet (delay : ℚ) (f : Handler) (ev : TimerEvent) (s : Client) : Client :=
  { s with timer := some ⟨f, ev, delay⟩ }

/-- `DHCPv6ClientClearRetransmit`. -/
def clearRetransmit (s : Client) : Client := { s with tries := 0 }

/-- `DHCPv6ClientClearLease`: no SSID, and the rest zero. -/
def clearLease (s : Client) : Client := { s with lease := {} }

/-- `DHCPv6ClientClearPacket`: the lease, the saved packet and every reference into it. -/
def clearPacket (s : Client) : Client :=
  { s.clearLease with
    saved := none, serverId := none, iaNa := none, iaAddr := none, savedVerified := false }

/-- One more effect on the collaborators. -/
def emit (e : Effect) (s : Client) : Client := { s with out := s.out ++ [e] }

/-- `DHCPv6ClientPostNotification`. -/
def postNotification (s : Client) : Client := s.emit .notify

/-- The next `arc4random()`. -/
def draw (s : Client) : UInt32 := w.rand s.rng

/-- Past one draw. -/
def advance (s : Client) : Client := { s with rng := s.rng + 1 }

/-- `client->transaction_id = get_new_transaction_id()`: the lower 24 bits of a draw. -/
def newTransactionId (s : Client) : Client :=
  { s.advance with transactionId := (s.draw w &&& 0xffffff).toNat }

/-- `DHCPv6ClientNextRetransmit`: one more try, and its retransmission time in
`retransmitTime`. -/
def nextRetransmit (IRT MRT : ℚ) (s : Client) : Client :=
  if s.tries + 1 = 1 then
    { s.advance with tries := s.tries + 1, retransmitTime := initialTimeout (s.draw w) IRT }
  else if capsAt (doubledTimeout (s.draw w) s.retransmitTime) MRT then
    { s.advance.advance with
      tries := s.tries + 1,
      retransmitTime := subsequentTimeout (s.draw w) (s.advance.draw w) s.retransmitTime MRT }
  else
    { s.advance with
      tries := s.tries + 1,
      retransmitTime := subsequentTimeout (s.draw w) 0 s.retransmitTime MRT }

/-- `timer_callout_set(timer, DHCPv6ClientNextRetransmit(client, IRT, MRT), f, client,
timeout)`. -/
def setRetransmitTimer (IRT MRT : ℚ) (f : Handler) (s : Client) : Client :=
  let s := s.nextRetransmit w IRT MRT
  s.timerCalloutSet s.retransmitTime f .timeout

/-- `DHCPv6ClientRemoveAddress`: the address, if any, removed from the interface (when a
socket can be had) and forgotten. -/
def removeAddress (s : Client) : Client :=
  if s.ourIp = 0 then s
  else
    let s := if w.socketOk then s.emit (.difaddr s.ourIp w.difaddrOk) else s
    { s with ourIp := 0, ourPrefixLength := 0 }

/-- `DHCPv6ClientInactive`: everything pending cancelled, the packet and the address
dropped. The state is left as it was. -/
def inactive (s : Client) : Client :=
  ((s.cancelPendingEvents.clearPacket).removeAddress w).postNotification

/-- The DUID `DHCPv6ClientGetDUID` gives: the private one (cached in `duid`, else made
now), or the system's. -/
def currentDUID (s : Client) : List UInt8 :=
  if s.privateAddress then s.duid.getD w.privateDuid else h.systemDuid

/-- The cache `DHCPv6ClientGetDUID` fills: a private DUID is made on first use. -/
def getDUID (s : Client) : Client :=
  if s.privateAddress ∧ s.duid = none then { s with duid := some w.privateDuid } else s

/-- `DHCPv6ClientGetIAID`. -/
def getIAID (s : Client) : Nat := if s.privateAddress then 0 else h.iaid

/-- `DHCPv6ClientLeaseStillValid`, as the state it leaves: a lease whose start is in the
future or that has run out is cleared, with the packet. Its answer is the `lease.valid`
of that state. -/
def leaseStillValid (now : ℚ) (s : Client) : Client :=
  if !s.lease.valid || s.lease.validLifetime = DHCP_INFINITE_LEASE then s
  else if now < s.lease.start ∨ (s.lease.validLifetime : ℚ) ≤ now - s.lease.start then
    { s.clearPacket with lease.valid := false }
  else s

theorem leaseStillValid_eq (now : ℚ) (s : Client) :
    s.leaseStillValid now = if s.lease.expired now then s.clearPacket else s := by
  have hc : { s.clearPacket with lease.valid := false } = s.clearPacket := rfl
  unfold leaseStillValid Lease.expired
  cases hv : s.lease.valid <;> by_cases hi : s.lease.validLifetime = DHCP_INFINITE_LEASE <;>
    simp [hv, hi, hc]

/-- `DHCPv6ClientLeaseOnSameNetwork`. -/
def leaseOnSameNetwork (s : Client) : Bool :=
  if !h.isWireless then true
  else
    match w.ssid, s.lease.ssid with
    | some a, some b => a == b
    | _, _ => false

end Client

/-! ## Saving a packet -/

/-- The lease times `DHCPv6ClientSavePacket` derives from T1, T2 and the IAADDR's
lifetimes, in the order it does: a preferred lifetime of 0 becomes the valid one; T1 or
T2 of 0 becomes half and 0.8 of the preferred lifetime (0 when infinite); an infinite T1
or T2 makes the whole lease infinite; an infinite valid lifetime has no T1 or T2. The
products are exact: `preferred * 0.8` in double precision is within one rounding of
`4 * preferred / 5`, and never crosses an integer. -/
def normalizeLease (t1 t2 preferred valid : Nat) : Nat × Nat × Nat × Nat :=
  let preferred := if preferred = 0 then valid else preferred
  let (t1, t2, preferred, valid) :=
    if t1 = 0 ∨ t2 = 0 then
      if preferred = DHCP_INFINITE_LEASE then (0, 0, preferred, valid)
      else (preferred * 5 / 10, preferred * 8 / 10, preferred, valid)
    else if t1 = DHCP_INFINITE_LEASE ∨ t2 = DHCP_INFINITE_LEASE then
      (0, 0, DHCP_INFINITE_LEASE, DHCP_INFINITE_LEASE)
    else (t1, t2, preferred, valid)
  if valid = DHCP_INFINITE_LEASE then (0, 0, DHCP_INFINITE_LEASE, valid)
  else (t1, t2, preferred, valid)

/-- The lease times a saved packet gives, when it has a usable IA_NA. -/
def leaseTimesOf (p : DHCPv6Packet) : Option (Nat × Nat × Nat × Nat) :=
  match (getIaNaAddrCode p.options).iaNa, (getIaNaAddrCode p.options).iaAddr with
  | some ia, some a =>
    some (normalizeLease (iaNaGetT1 ia) (iaNaGetT2 ia)
      (iaAddrGetPreferredLifetime a) (iaAddrGetValidLifetime a))
  | _, _ => none

/-- The four times of a lease. -/
def Lease.times (l : Lease) : Nat × Nat × Nat × Nat :=
  (l.t1, l.t2, l.preferredLifetime, l.validLifetime)

/-- The lease `DHCPv6ClientSavePacket` records for a packet: cleared, then the SSID, and
with a usable IA_NA a start of `now` and the normalized times. It is not made valid. -/
def Lease.ofPacket (now : ℚ) (ssid : Option String) (p : DHCPv6Packet) : Lease :=
  match leaseTimesOf p with
  | some (t1, t2, preferred, valid) =>
    { start := now, t1, t2, preferredLifetime := preferred, validLifetime := valid, ssid }
  | none => { ssid }

@[simp] theorem Lease.ofPacket_valid (now : ℚ) (ssid : Option String) (p : DHCPv6Packet) :
    (Lease.ofPacket now ssid p).valid = false := by
  unfold Lease.ofPacket; split <;> rfl

namespace Client

variable (w : World)

/-- `DHCPv6ClientSavePacket`: the packet replaces the saved one, with its SERVERID, IA_NA
and IAADDR, and the lease of `Lease.ofPacket`. -/
def savePacket (p : DHCPv6Packet) (s : Client) : Client :=
  let r := getIaNaAddrCode p.options
  { s.clearPacket with
    saved := some p, serverId := getOption p.options kDHCPv6OPTION_SERVERID,
    iaNa := r.iaNa, iaAddr := r.iaAddr, lease := Lease.ofPacket w.now w.ssid p,
    savedVerified := true }

@[simp] theorem savePacket_tries (p : DHCPv6Packet) (s : Client) : (s.savePacket w p).tries = s.tries :=
  rfl

end Client

end DHCPv6Client
