import DHCPv6Client.Handlers

/-!
# The client as a state machine

The public operations of `DHCPv6Client.c` (`start`, `stop`, `handleEvent`,
`setRequestedOptions`, and the observers `getInfo` and `copyAddresses`) and the two
callbacks the event loop delivers: the armed timer firing (`runTimer`) and a packet given
to the receive handler (`runReceive`). `step` is one event of any of these kinds, with
the world as it is then; `none` is a fault. `Reachable` is every state a client reaches
from `DHCPv6ClientCreate` by steps that do not fault. `release` (`DHCPv6ClientRelease`)
ends the client and is not a step.
-/

namespace DHCPv6Client

/-- The events `DHCPv6ClientHandleEvent` is given. -/
inductive IFEvent
  | ipv6AddressChanged (addrs : List AddrInfo)
  | wake (ev : LinkEventData)
  | renew (ev : LinkEventData)
  | linkStatusChanged (ev : LinkEventData)
  | bssidChanged
  /-- Any other event id: ignored. -/
  | other
deriving DecidableEq, Repr

/-- `link_status_is_active`, whose code is not under src/ and which the spec does not
define: taken as the complement of the test the timeouts make inline
(`link_status.valid && !link_status.active`, `LinkStatus.isInactive`), so that a link whose
status is not known counts as active. -/
def LinkStatus.isActive (l : LinkStatus) : Bool := !l.isInactive

variable (h : Host) (w : World)

/-- `DHCPv6ClientStart`: stateful, Confirm on a lease still valid on the same network,
else Solicit afresh; stateless, Inform afresh. -/
def start (allocateAddress privacyRequired : Bool) (s : Client) : Client :=
  let s := { s with privateAddress := privacyRequired }
  if allocateAddress then
    let s := { s with mode := .stateful }.leaseStillValid w.now
    if s.lease.valid && s.leaseOnSameNetwork h w then confirmStart w s
    else solicitStart w (s.removeAddress w).clearPacket
  else informStart h w ({ s with mode := .stateless }.removeAddress w).clearPacket

/-- `DHCPv6ClientStop`: the address removed, everything pending cancelled, the packet
kept unverified unless discarded; Inactive and Idle. -/
def stop (discardInformation : Bool) (s : Client) : Client :=
  let s := (s.removeAddress w).cancelPendingEvents
  let s := if discardInformation then s.clearPacket else { s with savedVerified := false }
  let s := { s.setState .inactive with mode := .idle }
  { s with duid := none }.postNotification

/-- `DHCPv6ClientSetRequestedOptions`: a nonempty list replaces the requested options,
an empty one restores the static default. -/
def setRequestedOptions (options : List Nat) (s : Client) : Client :=
  { s with
    requestedOptions :=
      if options ≠ [] then options
      else [kDHCPv6OPTION_DNS_SERVERS, kDHCPv6OPTION_DOMAIN_LIST,
        kDHCPv6OPTION_CAPTIVE_PORTAL_URL] }

/-- Confirm on a lease still valid in Bound, Renew or Rebind (`DHCPv6ClientHandleEvent`
on a renew, link or BSSID event). The lease is checked first, and cleared if it ran
out. -/
def confirmIfBound (s : Client) : Client :=
  let s := s.leaseStillValid w.now
  if s.lease.valid && s.cstate.isBoundRenewOrRebind then confirmStart w s else s

/-- `DHCPv6ClientHandleEvent`: nothing unless stateful. -/
def handleEvent (e : IFEvent) (s : Client) : Client :=
  if s.mode ≠ .stateful then s
  else
    match e with
    | .ipv6AddressChanged addrs => handleAddressChanged h w addrs s
    | .wake ev => handleWake h w ev s
    | .renew ev | .linkStatusChanged ev => if ev.linkStatus.isActive then confirmIfBound w s else s
    | .bssidChanged => confirmIfBound w s
    | .other => s

/-- `DHCPv6ClientGetInfo`: the saved packet, once verified. -/
def getInfo (s : Client) : Option DHCPv6Packet :=
  match s.saved with
  | some p => if s.savedVerified then some p else none
  | none => none

/-- `DHCPv6ClientCopyAddresses`: our address, if any. -/
def copyAddresses (s : Client) : List AddrInfo :=
  if s.ourIp = 0 then [] else [⟨s.ourIp, s.ourPrefixLength, 0⟩]

/-- `DHCPv6ClientRelease`: a RELEASE for a lease still valid; then the client is
freed. -/
def release (s : Client) : Client :=
  let s := s.leaseStillValid w.now
  if s.lease.valid then releaseStart h w s else s

/-- The armed timer firing: the function it was set with, on its event. -/
def runTimer (t : TimerCallout) (s : Client) : Option Client :=
  match t.func, t.event with
  | .solicit, .start => some (solicitStart w s)
  | .solicit, .timeout => some (solicitTimeout h w s)
  | .request, .start => some (requestStart h w s)
  | .request, .timeout => some (requestTimeout h w s)
  | .renewRebind, .start => some (renewRebindStart h w s)
  | .renewRebind, .timeout => some (renewRebindTimeout h w s)
  | .confirm, .start => some (confirmStart w s)
  | .confirm, .timeout => confirmTimeout h w s
  | .decline, .start => some (declineStart h w s)
  | .decline, .timeout => some (declineTimeout h w s)
  | .inform, .start => some (informStart h w s)
  | .inform, .timeout => some (informTimeout h w s)

/-- A packet given to the receive handler `f`. -/
def runReceive (f : Handler) (p : DHCPv6Packet) (s : Client) : Option Client :=
  match f with
  | .solicit => some (solicitData h w p s)
  | .request => requestData h w p s
  | .renewRebind => renewRebindData h w p s
  | .confirm => confirmData h w p s
  | .decline => some (declineData h w p s)
  | .inform => some (informData h w p s)

/-- The events a client is driven by. -/
inductive Event
  | start (allocateAddress privacyRequired : Bool)
  | stop (discardInformation : Bool)
  /-- The armed timer fires (nothing when none is armed). -/
  | timerFires
  /-- A packet arrives (dropped when receive is disabled). -/
  | receive (p : DHCPv6Packet)
  | handleEvent (e : IFEvent)
  | setRequestedOptions (options : List Nat)
deriving DecidableEq, Repr

/-- One event; `none` is a fault. A fired timer is no longer armed. -/
def step (e : Event) (s : Client) : Option Client :=
  match e with
  | .start a p => some (start h w a p s)
  | .stop d => some (stop w d s)
  | .timerFires =>
    match s.timer with
    | some t => runTimer h w t { s with timer := none }
    | none => some s
  | .receive p =>
    match s.receive with
    | some f => runReceive h w f p s
    | none => some s
  | .handleEvent e => some (handleEvent h w e s)
  | .setRequestedOptions l => some (setRequestedOptions l s)

/-- `DHCPv6ClientCreate`: everything zero. -/
def create : Client := {}

/-- The states a client reaches from `create`, whatever the world does. -/
inductive Reachable (h : Host) : Client → Prop
  | create : Reachable h create
  | step {s s' : Client} (w : World) (e : Event) :
      Reachable h s → step h w e s = some s' → Reachable h s'

/-- Events run in order, each in its world; `none` at the first fault. -/
def run : List (World × Event) → Client → Option Client
  | [], s => some s
  | (w, e) :: es, s => (step h w e s).bind (run es)

theorem Reachable.run {es : List (World × Event)} {s s' : Client} (hs : Reachable h s)
    (hr : DHCPv6Client.run h es s = some s') : Reachable h s' := by
  induction es generalizing s with
  | nil => cases hr; exact hs
  | cons we es ih =>
    obtain ⟨s₁, h₁, h₂⟩ := Option.bind_eq_some.mp hr
    exact ih (.step we.1 we.2 hs h₁) h₂

/-! ## A network to run a client in

The witnesses and counterexamples run a client on a wired interface whose system DUID is
`[0, 1]` (a DUID is valid when it is not empty), with every draw of `arc4random` 0 (so
every transaction id is 0), the link up, the kernel agreeing to everything, and one server,
of DUID `[0, 9]`, offering `2001:db8::1`. -/

/-- A wired, non-cellular interface of IAID 1. -/
def exampleHost : Host := ⟨fun d => !d.isEmpty, [0, 1], 1, false, false, 30⟩

/-- The world at time `now`. -/
def exampleWorld (now : ℚ) : World :=
  ⟨now, fun _ => 0, ⟨true, true, true⟩, none, [0, 2], true, true, true, 64, []⟩

/-- `2001:db8::1`. -/
def exampleAddress : List UInt8 := [0x20, 0x01, 0x0d, 0xb8, 0, 0, 0, 0, 0, 0, 0, 0, 0, 0, 0, 1]

/-- An IA_NA of IAID 1, T1 and T2 left to the client, holding one IAADDR for
`exampleAddress` with these lifetimes. -/
def exampleIaNa (preferred valid : Nat) : List UInt8 :=
  hton 4 1 ++ hton 4 0 ++ hton 4 0 ++ hton 2 kDHCPv6OPTION_IAADDR ++
    hton 2 DHCPv6OptionIAADDR_MIN_LENGTH ++ exampleAddress ++ hton 4 preferred ++ hton 4 valid

/-- A message of the server to the client in transaction 0 with that IA_NA, and `more`. -/
def exampleMessage (msgType preferred valid : Nat) (more : List DHCPv6Option) : DHCPv6Packet :=
  ⟨msgType, 0, [⟨kDHCPv6OPTION_CLIENTID, [0, 1]⟩, ⟨kDHCPv6OPTION_SERVERID, [0, 9]⟩,
    ⟨kDHCPv6OPTION_IA_NA, exampleIaNa preferred valid⟩] ++ more⟩

/-- From `create` to Bound at time 0 on a lease of these lifetimes: the start, the Solicit
timer, an ADVERTISE of preference 255, the REPLY. -/
def exampleBind (preferred valid : Nat) : List (World × Event) :=
  [(exampleWorld 0, .start true false), (exampleWorld 0, .timerFires),
   (exampleWorld 0, .receive (exampleMessage kDHCPv6MessageADVERTISE preferred valid
      [⟨kDHCPv6OPTION_PREFERENCE, [255]⟩])),
   (exampleWorld 0, .receive (exampleMessage kDHCPv6MessageREPLY preferred valid []))]

end DHCPv6Client
