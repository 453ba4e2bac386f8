import DHCPv6Client.Reachable
import DHCPv6Client.Solicit

/-!
# Receiving

What a packet given to the receive handler does. Every handler starts with the same test
(`packetMatches`): the message type it expects, our transaction id, our DUID in CLIENTID
and a valid SERVERID. A packet that fails it changes nothing but the DUID cache, in every
state (`step_receive_of_not_packetMatches`), and so does any sequence of them.

An ADVERTISE that Solicit takes is saved as verified, so `getInfo` gives it out at once, in
Solicit and in Request alike (`getInfo_solicitData`).
-/

namespace DHCPv6Client

/-- The message type a receive handler accepts: ADVERTISE in Solicit, REPLY elsewhere. -/
def Handler.msgType : Handler → Nat
  | .solicit => kDHCPv6MessageADVERTISE
  | _ => kDHCPv6MessageREPLY

variable (h : Host) (w : World) (s : Client)

/-- A packet that fails the first test leaves everything but the DUID cache as it was. -/
theorem runReceive_of_packetMatches_eq_false {f : Handler} {p : DHCPv6Packet}
    (hp : packetMatches h w f.msgType p s = false) :
    ∃ d, runReceive h w f p s = some { s with duid := d } := by
  obtain ⟨d, hd⟩ := Client.afterMatch_eq w s f.msgType p
  refine ⟨d, ?_⟩
  cases f <;>
    simp only [runReceive, solicitData, requestData, renewRebindData, confirmData, declineData,
      informData, Handler.msgType] at hp hd ⊢ <;>
    simp [hp, hd]

theorem packetMatches_eq_false {msgType : Nat} {p : DHCPv6Packet}
    (hp : p.msgType ≠ msgType ∨ p.transactionId ≠ s.transactionId ∨
      getOption p.options kDHCPv6OPTION_CLIENTID ≠ some (s.currentDUID h w) ∨
      serverIdValid h.duidIsValid p.options = false) :
    packetMatches h w msgType p s = false := by
  simp only [packetMatches, duidMatches, Bool.and_eq_false_iff, beq_eq_false_iff_ne, ne_eq]
  tauto

/-- A packet that the installed handler, if any, finds not to match changes nothing but the
DUID cache. -/
theorem step_receive_of_packetMatches_eq_false {p : DHCPv6Packet}
    (hp : ∀ f, s.receive = some f → packetMatches h w f.msgType p s = false) :
    ∃ d, step h w (.receive p) s = some { s with duid := d } := by
  simp only [step]
  split
  · exact runReceive_of_packetMatches_eq_false h w s (hp _ ‹_›)
  · exact ⟨s.duid, rfl⟩

/-- A packet of another message type or transaction, or with another DUID in CLIENTID, or
with no valid SERVERID, changes nothing but the DUID cache, in every state; and so does any
sequence of packets each of which fails the test in the state the packets before it have
left the client in (the DUID cache they filled included). -/
theorem step_receive_of_not_packetMatches :
    (∀ p : DHCPv6Packet, (∀ f, s.receive = some f →
        p.msgType ≠ f.msgType ∨ p.transactionId ≠ s.transactionId ∨
        getOption p.options kDHCPv6OPTION_CLIENTID ≠ some (s.currentDUID h w) ∨
        serverIdValid h.duidIsValid p.options = false) →
      ∃ d, step h w (.receive p) s = some { s with duid := d }) ∧
    (∀ ps : List (World × DHCPv6Packet),
      (∀ pre wp post s₁, ps = pre ++ wp :: post →
        run h (pre.map fun wp => (wp.1, .receive wp.2)) s = some s₁ →
        ∀ f, s₁.receive = some f → packetMatches h wp.1 f.msgType wp.2 s₁ = false) →
      ∃ d, run h (ps.map fun wp => (wp.1, .receive wp.2)) s = some { s with duid := d }) := by
  refine ⟨fun p hp => step_receive_of_packetMatches_eq_false h w s
    fun f hf => packetMatches_eq_false h w s (hp f hf), fun ps => ?_⟩
  induction ps generalizing s with
  | nil => exact fun _ => ⟨s.duid, rfl⟩
  | cons wp ps ih =>
    intro hps
    obtain ⟨d₁, h₁⟩ := @step_receive_of_packetMatches_eq_false h wp.1 s wp.2
      (hps [] wp ps s rfl rfl)
    obtain ⟨d, hd⟩ := ih { s with duid := d₁ } fun pre wp' post s₁ hp hr =>
      hps (wp :: pre) wp' post s₁ (by rw [hp]; rfl) (by simpa [run, h₁] using hr)
    exact ⟨d, by simp only [List.map_cons, run, h₁, Option.some_bind, hd]⟩

/-- A REPLY given to a client in Solicit is ignored. -/
theorem solicit_ignores_reply :
    ∃ d, step exampleHost (exampleWorld 0) (.receive (exampleMessage kDHCPv6MessageREPLY 600 900 []))
        (solicitStart (exampleWorld 0) create) =
      some { solicitStart (exampleWorld 0) create with duid := d } :=
  (step_receive_of_not_packetMatches exampleHost (exampleWorld 0)
    (solicitStart (exampleWorld 0) create)).1 _ fun f hf => by cases hf; exact .inl (by decide)

/-! ## What `getInfo` gives out in Solicit -/

theorem getInfo_eq_of_core {s₁ s₂ : Client} (hs : s₁.core.saved = s₂.core.saved)
    (hv : s₁.core.savedVerified = s₂.core.savedVerified) : getInfo s₁ = getInfo s₂ := by
  simp only [Client.core_saved, Client.core_savedVerified] at hs hv
  simp [getInfo, hs, hv]

theorem getInfo_requestStart : getInfo (requestStart h w s) = getInfo s := by
  simp only [requestStart, requestTimeout, retransmitOrSolicit]
  split_ifs with hc
  · exact absurd hc (by decide : ¬DHCPv6_REQ_MAX_RC ≤ 0)
  · exact getInfo_eq_of_core (by simp) (by simp)

/-- An ADVERTISE that Solicit saves is given out by `getInfo` at once, whether the client
stays in Solicit or goes on to Request. -/
theorem getInfo_solicitData {p : DHCPv6Packet} (hs : (solicitData h w p s).saved ≠ s.saved) :
    getInfo (solicitData h w p s) = some p ∧ p.msgType = kDHCPv6MessageADVERTISE := by
  obtain ⟨d, hd⟩ := solicitData_eq h w s p
  rw [hd] at hs ⊢
  split_ifs at hs ⊢ with ha
  · rw [getInfo_requestStart]
    exact ⟨by simp [getInfo, Client.savePacket], msgType_of_advertiseAccepted h w s ha.1⟩
  · exact ⟨by simp [getInfo, Client.savePacket], msgType_of_advertiseAccepted h w s ha.1⟩
  · exact absurd rfl hs

/-- The start, the Solicit timer at 0 s, and an ADVERTISE of preference 0 at 0.5 s: the
client stays in Solicit, and `getInfo` gives out the ADVERTISE. -/
theorem getInfo_advertise_in_solicit :
    (run exampleHost [(exampleWorld 0, .start true false), (exampleWorld 0, .timerFires),
        (exampleWorld (1 / 2), .receive (exampleMessage kDHCPv6MessageADVERTISE 600 900 []))]
        create).map (fun s => (s.cstate, getInfo s)) =
      some (.solicit, some (exampleMessage kDHCPv6MessageADVERTISE 600 900 [])) := by
  have hs : (run exampleHost [(exampleWorld 0, .start true false), (exampleWorld 0, .timerFires)] create).map
      (fun s => (s.receive, s.saved,
        (solicitData exampleHost (exampleWorld (1 / 2)) (exampleMessage kDHCPv6MessageADVERTISE 600 900 []) s).cstate,
        (solicitData exampleHost (exampleWorld (1 / 2)) (exampleMessage kDHCPv6MessageADVERTISE 600 900 []) s).saved)) =
      some (some .solicit, none, .solicit, some (exampleMessage kDHCPv6MessageADVERTISE 600 900 [])) := by
    with_unfolding_all decide
  obtain ⟨s₂, hr, hf⟩ := Option.map_eq_some'.mp hs
  simp only [Prod.mk.injEq] at hf
  have hi := (getInfo_solicitData exampleHost (exampleWorld (1 / 2)) s₂
    (by rw [hf.2.2.2, hf.2.1]; simp)).1
  rw [show [(exampleWorld 0, .start true false), (exampleWorld 0, .timerFires),
      (exampleWorld (1 / 2), .receive (exampleMessage kDHCPv6MessageADVERTISE 600 900 []))] =
    [(exampleWorld 0, .start true false), (exampleWorld 0, (.timerFires : Event))] ++
      [(exampleWorld (1 / 2), .receive (exampleMessage kDHCPv6MessageADVERTISE 600 900 []))] from rfl,
    run_append, hr, Option.some_bind]
  simp only [run, step, hf.1, runReceive, Option.some_bind, Option.map_some', hf.2.2.1, hi]

end DHCPv6Client
