import DHCPv6Client.Wire
import DHCPv6Client.State
import DHCPv6Client.Transmit
import DHCPv6Client.Handlers
import DHCPv6Client.Machine
import DHCPv6Client.Core
import DHCPv6Client.Invariant
import DHCPv6Client.Reachable
import DHCPv6Client.Solicit
import DHCPv6Client.Receive
import DHCPv6Client.Lease
import DHCPv6Client.Options
import DHCPv6Client.Retransmit
import DHCPv6Client.Ledger
import DHCPv6Client.Renewal
import DHCPv6Client.Codec
import DHCPv6Client.Pace
import DHCPv6Client.Sent
import DHCPv6Client.Exchange
import DHCPv6Client.Binding
import DHCPv6Client.Install
import DHCPv6Client.Transaction
