import DHCPv6Client.Invariant
import Mathlib.Data.Finset.Max

/-!
# The ADVERTISE Solicit requests

Within one Solicit phase the client keeps, of the ADVERTISEs it has accepted, the earliest
of maximum preference (`bestAdvertise`), and goes on to Request with it: its REQUESTs carry
that ADVERTISE's SERVERID and the address of its IAADDR (`SentRequestsFor`).

Which ADVERTISEs Solicit accepts (`advertiseAccepted`) and what its receive handler does
with them (`solicitData_eq`) are stated in `Core`. `Core.SolicitPhase c acc` relates a
client to the ADVERTISEs `acc` it has accepted in the phase, in order. `solicitStart_phase` enters the phase with none; `solicitData_phase` and
`solicitTimeout_phase` say what a received packet and a timeout do; `run_solicitPhase`
follows a whole run of them that stays in Solicit (`InSolicitAlong`), collecting what it
accepts (`acceptedAlong`); and `solicit_requests_best_advertise` puts these together.

A timeout after the first that finds the link down is the exception: it calls
`DHCPv6ClientInactive`, which drops the saved ADVERTISE and cancels the timer and the
receive handler, instead of going on to Request.
-/

namespace DHCPv6Client

/-- Of the ADVERTISEs accepted, the first whose preference none exceeds. -/
def bestAdvertise (acc : List DHCPv6Packet) : Option DHCPv6Packet :=
  acc.find? fun p => acc.all fun q => preference q ≤ preference p

/-- A PREFERENCE is one byte. -/
theorem preference_le (p : DHCPv6Packet) : preference p ≤ kDHCPv6OptionPREFERENCEMaxValue := by
  unfold preference getPreferenceValueFromOptions
  split
  · split
    · rename_i d _ _
      cases d with
      | nil => decide
      | cons b _ =>
        have := b.toNat_lt_size
        simp only [getField, ntoh, List.drop_zero, List.take_succ_cons, List.take_zero,
          List.foldl_cons, List.foldl_nil, mul_zero, zero_add]
        exact Nat.le_of_lt_succ this
    · decide
  · decide

/-! ## The earliest of maximum preference -/

/-- `bestAdvertise` is of maximum preference, and every ADVERTISE before it is below it. -/
theorem bestAdvertise_eq_some_iff {acc : List DHCPv6Packet} {q : DHCPv6Packet} :
    bestAdvertise acc = some q ↔ ∃ as bs, acc = as ++ q :: bs ∧
      (∀ r ∈ acc, preference r ≤ preference q) ∧ ∀ r ∈ as, preference r < preference q := by
  simp only [bestAdvertise, List.find?_eq_some, List.all_eq_true, decide_eq_true_eq,
    Bool.not_eq_true', List.all_eq_false, not_le]
  constructor
  · rintro ⟨hmax, as, bs, rfl, hbefore⟩
    refine ⟨as, bs, rfl, hmax, fun r hr => ?_⟩
    obtain ⟨r', hr', hlt⟩ := hbefore r hr
    exact lt_of_lt_of_le hlt (hmax r' hr')
  · rintro ⟨as, bs, rfl, hmax, hbefore⟩
    exact ⟨hmax, as, bs, rfl, fun r hr => ⟨q, by simp, hbefore r hr⟩⟩

theorem bestAdvertise_ne_none {acc : List DHCPv6Packet} (h : acc ≠ []) :
    bestAdvertise acc ≠ none := by
  obtain ⟨m, hm, hmax⟩ := acc.toFinset.exists_max_image preference (by simpa using h)
  simp only [bestAdvertise, ne_eq, List.find?_eq_none, not_forall, not_not]
  exact ⟨m, by simpa using hm, by simpa using hmax⟩

/-- An ADVERTISE above every one before it is the best. -/
theorem bestAdvertise_append_of_lt {acc : List DHCPv6Packet} {p : DHCPv6Packet}
    (h : ∀ q ∈ acc, preference q < preference p) : bestAdvertise (acc ++ [p]) = some p :=
  bestAdvertise_eq_some_iff.mpr ⟨acc, [], rfl, List.forall_mem_append.mpr
    ⟨fun q hq => (h q hq).le, List.forall_mem_singleton.mpr le_rfl⟩, h⟩

/-- An ADVERTISE not above the best leaves it the best. -/
theorem bestAdvertise_append_of_le {acc : List DHCPv6Packet} {p q : DHCPv6Packet}
    (hq : bestAdvertise acc = some q) (h : preference p ≤ preference q) :
    bestAdvertise (acc ++ [p]) = some q := by
  obtain ⟨as, bs, rfl, hmax, hbefore⟩ := bestAdvertise_eq_some_iff.mp hq
  exact bestAdvertise_eq_some_iff.mpr ⟨as, bs ++ [p], by simp,
    List.forall_mem_append.mpr ⟨hmax, List.forall_mem_singleton.mpr h⟩, hbefore⟩

/-! ## The phase, and Request -/

/-- A client in Solicit that has accepted the ADVERTISEs `acc` in this phase, in order: it
has saved the best of them, and has accepted none after its second try nor any of
maximum preference (either would have ended the phase). -/
structure Core.SolicitPhase (c : Core) (acc : List DHCPv6Packet) : Prop where
  cstate : c.cstate = .solicit
  receive : c.receive = some .solicit
  timer : ∃ d, c.timer = some ⟨.solicit, .timeout, d⟩
  saved : c.saved = bestAdvertise acc
  savedOk : c.SavedOk
  tries : acc ≠ [] → c.tries ≤ 1
  preference : ∀ p ∈ acc, preference p < kDHCPv6OptionPREFERENCEMaxValue

/-- A client in Request with the ADVERTISE `q` saved, and its references taken from it. -/
structure Core.RequestsFrom (c : Core) (q : DHCPv6Packet) : Prop where
  cstate : c.cstate = .request
  saved : c.saved = some q
  savedOk : c.SavedOk

/-- A packet with the SERVERID of `q`, and an IA_NA holding the address of `q`'s IAADDR. -/
def CarriesServerOf (q pkt : DHCPv6Packet) : Prop :=
  (∃ sid, getOption q.options kDHCPv6OPTION_SERVERID = some sid ∧
    ⟨kDHCPv6OPTION_SERVERID, sid⟩ ∈ pkt.options) ∧
  ∃ iaid a, (getIaNaAddrCode q.options).iaAddr = some a ∧
    ⟨kDHCPv6OPTION_IA_NA, ourIaNa iaid a⟩ ∈ pkt.options

/-- Going from `s` to `s'`, the client requests `q`, and what it sent on the way is a
REQUEST carrying `q`'s SERVERID and IAADDR address. -/
def SentRequestsFor (s s' : Client) (q : DHCPv6Packet) : Prop :=
  s'.core.RequestsFrom q ∧ ∃ sent : Option DHCPv6Packet,
    s'.out = s.out ++ (sent.map .transmit).toList ∧
    ∀ pkt ∈ sent, pkt.msgType = kDHCPv6MessageREQUEST ∧ CarriesServerOf q pkt

theorem SentRequestsFor.of_out_eq {s₁ s s' : Client} {q : DHCPv6Packet} (ho : s₁.out = s.out)
    (hr : SentRequestsFor s₁ s' q) : SentRequestsFor s s' q := by
  rwa [SentRequestsFor, ← ho]

variable (h : Host) (w : World) (s : Client)

/-- What a client requesting `q` sends is a REQUEST carrying `q`'s SERVERID and IAADDR
address. -/
theorem requestsFrom_sendPacket {q : DHCPv6Packet} (hq : s.core.RequestsFrom q) :
    ∃ sent : Option DHCPv6Packet, (sendPacket h w s).out = s.out ++ (sent.map .transmit).toList ∧
      ∀ pkt ∈ sent, pkt.msgType = kDHCPv6MessageREQUEST ∧ CarriesServerOf q pkt := by
  obtain ⟨sent, hout, hsent⟩ := sendPacket_out h w s
  refine ⟨sent, hout, fun pkt hp => ?_⟩
  obtain ⟨sid, t, hsid, hia, ht, hty, -, hs, hn⟩ := hsent pkt hp
  obtain ⟨hc, hsv, hsidq, hiaq, hadq, -⟩ := hq
  simp only [Client.core_cstate, Client.core_saved, Client.core_serverId, Client.core_iaNa,
    Client.core_iaAddr] at hc hsv hsidq hiaq hadq
  rw [hsv, Option.some_bind] at hsidq hiaq hadq
  have ht : t = kDHCPv6MessageREQUEST := by simpa [hc, sendPacketType] using ht.symm
  obtain ⟨a, ha⟩ := Option.ne_none_iff_exists'.mp ((getIaNaAddrCode_iaNa_eq_none q.options).not.mp
    (hiaq ▸ Option.isSome_iff_ne_none.mp hia))
  refine ⟨hty.trans ht, ⟨sid, hsidq.symm.trans hsid, hs (by subst ht; decide)⟩, s.getIAID h, a, ha, ?_⟩
  simpa [hadq, ha] using hn

theorem Client.nextRetransmit_out (IRT MRT : ℚ) : (s.nextRetransmit w IRT MRT).out = s.out := by
  unfold Client.nextRetransmit; split_ifs <;> rfl

/-- A Request timeout that stays in Request sends a REQUEST for the same ADVERTISE again. -/
theorem requestTimeout_sentRequestsFor {q : DHCPv6Packet} (hq : s.core.RequestsFrom q)
    (hr : (requestTimeout h w s).cstate = .request) :
    SentRequestsFor s (requestTimeout h w s) q := by
  unfold requestTimeout retransmitOrSolicit at hr ⊢
  split_ifs at hr ⊢
  · obtain ⟨d, hd⟩ := core_solicitStart w s
    have hc : (solicitStart w s).cstate = .solicit := by simpa using congrArg Core.cstate hd
    exact absurd (hr.symm.trans hc) (by decide)
  · have h₁ : (s.setRetransmitTimer w DHCPv6_REQ_TIMEOUT DHCPv6_REQ_MAX_RT .request).core.RequestsFrom q := by
      rw [Client.core_setRetransmitTimer]; exact ⟨hq.cstate, hq.saved, hq.savedOk⟩
    obtain ⟨sent, hout, hsent⟩ := requestsFrom_sendPacket h w _ h₁
    refine ⟨by rw [core_sendPacket]; exact h₁, sent, ?_, hsent⟩
    rw [hout]
    simp [Client.setRetransmitTimer, Client.timerCalloutSet, Client.nextRetransmit_out]

/-- Request's entry from a client with `q` saved sends a first REQUEST for it. -/
theorem requestStart_sentRequestsFor {q : DHCPv6Packet} (hs : s.core.SavedOk)
    (hq : s.saved = some q) : SentRequestsFor s (requestStart h w s) q := by
  obtain ⟨d, hd⟩ := core_requestStart h w s
  have hc : (requestStart h w s).cstate = .request := by simpa using congrArg Core.cstate hd
  exact requestTimeout_sentRequestsFor h w _ ⟨rfl, hq, hs⟩ hc

/-! ## The steps of a phase -/

theorem solicitStart_phase : (solicitStart w s).core.SolicitPhase [] := by
  obtain ⟨d, hd⟩ := core_solicitStart w s
  rw [hd]
  exact ⟨rfl, rfl, ⟨d, rfl⟩, rfl, by simp [Core.SavedOk], fun h => absurd rfl h, by simp⟩

/-- What a packet does to a client that has accepted `acc` in the phase. -/
theorem solicitData_phase {acc : List DHCPv6Packet} (hs : s.core.SolicitPhase acc)
    (p : DHCPv6Packet) :
    if advertiseAccepted h w s p then
      if 1 < s.tries ∨ preference p = kDHCPv6OptionPREFERENCEMaxValue then
        ∃ q, bestAdvertise (acc ++ [p]) = some q ∧ SentRequestsFor s (solicitData h w p s) q
      else (solicitData h w p s).core.SolicitPhase (acc ++ [p])
    else (solicitData h w p s).core.SolicitPhase acc := by
  obtain ⟨d, hd⟩ := solicitData_eq h w s p
  have hkeep : { s with duid := d }.core.SolicitPhase acc := hs
  rw [hd]
  cases ha : advertiseAccepted h w s p
  · simpa using hkeep
  by_cases hb : ∃ q, s.saved = some q ∧ preference p ≤ preference q
  · -- the saved ADVERTISE stays the best, and the phase goes on
    obtain ⟨q, hq, hpq⟩ := hb
    have hq' : bestAdvertise acc = some q := hs.saved.symm.trans hq
    have hq255 := hs.preference q (List.mem_of_find?_eq_some hq')
    have ht : s.tries ≤ 1 := hs.tries (List.ne_nil_of_mem (List.mem_of_find?_eq_some hq'))
    have hany : s.saved.any (fun q => preference p ≤ preference q) = true := by
      rw [hq]; exact decide_eq_true hpq
    simp only [hany, Bool.true_eq_false, and_false, if_false, if_true]
    rw [if_neg (by omega)]
    exact ⟨hs.cstate, hs.receive, hs.timer, hq.trans (bestAdvertise_append_of_le hq' hpq).symm,
      hs.savedOk, fun _ => ht, List.forall_mem_append.mpr
        ⟨hs.preference, List.forall_mem_singleton.mpr (lt_of_le_of_lt hpq hq255)⟩⟩
  · -- the ADVERTISE is above every one before it
    push_neg at hb
    have hlt : ∀ q ∈ acc, preference q < preference p := fun q hq => by
      obtain ⟨b, hb'⟩ := Option.ne_none_iff_exists'.mp (bestAdvertise_ne_none (List.ne_nil_of_mem hq))
      obtain ⟨-, -, -, hmax, -⟩ := bestAdvertise_eq_some_iff.mp hb'
      exact lt_of_le_of_lt (hmax q hq) (hb b (hs.saved.trans hb'))
    have hany : s.saved.any (fun q => preference p ≤ preference q) = false := by
      cases hsv : s.saved with
      | none => rfl
      | some q => simpa using hb q hsv
    simp only [hany, and_self, if_true]
    split_ifs with hr
    · exact ⟨p, bestAdvertise_append_of_lt hlt, (requestStart_sentRequestsFor h w
        (Client.savePacket w p { s with duid := d }) (savePacket_savedOk w _ p) rfl).of_out_eq rfl⟩
    · have hsv := savePacket_savedOk w { s with duid := d } p
      rw [Client.core_savePacket, Client.core_with_duid] at hsv ⊢
      exact ⟨hs.cstate, hs.receive, hs.timer, (bestAdvertise_append_of_lt hlt).symm, hsv,
        fun _ => Nat.le_of_not_lt fun h => hr (.inl h), List.forall_mem_append.mpr ⟨hs.preference,
          List.forall_mem_singleton.mpr (lt_of_le_of_ne (preference_le p) fun h => hr (.inr h))⟩⟩

/-- Solicit's transmit, from a client of the phase's core without its timer: with nothing
accepted the next SOLICIT, else Request with the best. -/
theorem solicitTransmit_phase {acc : List DHCPv6Packet} (hs : s.core.SolicitPhase acc) (s₁ : Client)
    (hc : s₁.core = { s.core with timer := none }) (ho : s₁.out = s.out) :
    if acc = [] then (solicitTransmit h w s₁).core.SolicitPhase []
    else ∃ q, bestAdvertise acc = some q ∧ SentRequestsFor s (solicitTransmit h w s₁) q := by
  have hsv : s₁.saved = bestAdvertise acc := by rw [← Client.core_saved, hc]; exact hs.saved
  split_ifs with ha
  · subst ha
    obtain ⟨d, hd⟩ := core_solicitTransmit_of_saved_eq_none h w s₁ hsv
    rw [hd, hc]
    exact ⟨hs.cstate, hs.receive, ⟨d, rfl⟩, hs.saved, hs.savedOk, fun h => absurd rfl h, by simp⟩
  · obtain ⟨q, hq⟩ := Option.ne_none_iff_exists'.mp (bestAdvertise_ne_none ha)
    have hok : s₁.core.SavedOk := by rw [hc]; exact hs.savedOk
    rw [solicitTransmit, if_pos (by simp [hsv, hq])]
    exact ⟨q, hq, (requestStart_sentRequestsFor h w s₁ hok (hsv.trans hq)).of_out_eq ho⟩

/-- What a timeout does to a client that has accepted `acc` in the phase: after the first,
a link found down stalls it, dropping what it saved; else with nothing accepted the next
SOLICIT, and with something accepted Request with the best. -/
theorem solicitTimeout_phase {acc : List DHCPv6Packet} (hs : s.core.SolicitPhase acc) :
    if s.tries ≠ 0 ∧ w.linkStatus.isInactive = true then
      (solicitTimeout h w { s with timer := none }).cstate ≠ .request ∧
        (solicitTimeout h w { s with timer := none }).timer = none ∧
        (solicitTimeout h w { s with timer := none }).receive = none ∧
        (solicitTimeout h w { s with timer := none }).saved = none
    else if acc = [] then (solicitTimeout h w { s with timer := none }).core.SolicitPhase []
    else ∃ q, bestAdvertise acc = some q ∧
      SentRequestsFor s (solicitTimeout h w { s with timer := none }) q := by
  have hc : s.cstate = .solicit := hs.cstate
  unfold solicitTimeout linkCheckedTimeout
  by_cases h0 : s.tries = 0
  · simp only [h0, ne_eq, not_true_eq_false, false_and, if_false, if_true]
    exact solicitTransmit_phase h w s hs _ (by simp [Client.core, h0]) rfl
  · by_cases hl : w.linkStatus.isInactive = true
    · simp only [h0, hl, ne_eq, not_false_eq_true, and_self, if_false, if_true]
      have hi := Client.core_inactive w { s with timer := none }
      have hc' : (Client.inactive w { s with timer := none }).cstate = .solicit := (congrArg Core.cstate hi).trans hc
      exact ⟨by rw [hc']; decide, congrArg Core.timer hi, congrArg Core.receive hi, congrArg Core.saved hi⟩
    · simp only [h0, hl, ne_eq, not_false_eq_true, and_false, if_false]
      exact solicitTransmit_phase h w s hs _ (by simp) rfl

/-! ## Runs within a phase -/

/-- The ADVERTISE an event makes Solicit accept: the packet, when accepted. -/
def acceptedAt (h : Host) (w : World) (e : Event) (s : Client) : List DHCPv6Packet :=
  match e with
  | .receive p => if advertiseAccepted h w s p then [p] else []
  | _ => []

/-- The ADVERTISEs Solicit accepts along a run, each judged in the state the run has reached. -/
def acceptedAlong (h : Host) : List (World × Event) → Client → List DHCPv6Packet
  | [], _ => []
  | (w, e) :: es, s => acceptedAt h w e s ++ ((step h w e s).map (acceptedAlong h es)).getD []

/-- After each event of the run, the client is in Solicit with Solicit's receive handler. -/
def InSolicitAlong (h : Host) : List (World × Event) → Client → Prop
  | [], _ => True
  | (w, e) :: es, s => ∀ s', step h w e s = some s' →
      (s'.cstate = .solicit ∧ s'.receive = some .solicit) ∧ InSolicitAlong h es s'

theorem step_receive_phase {acc : List DHCPv6Packet} (hs : s.core.SolicitPhase acc)
    (p : DHCPv6Packet) : step h w (.receive p) s = some (solicitData h w p s) := by
  have hr : s.receive = some .solicit := hs.receive
  simp [step, hr, runReceive]

theorem step_timerFires_phase {acc : List DHCPv6Packet} (hs : s.core.SolicitPhase acc) :
    step h w .timerFires s = some (solicitTimeout h w { s with timer := none }) := by
  obtain ⟨d, hd⟩ := hs.timer
  have ht : s.timer = some ⟨.solicit, .timeout, d⟩ := hd
  simp [step, ht, runTimer]

/-- A timeout or a packet that leaves the client in Solicit with its receive handler keeps
it in the phase, with the ADVERTISE it accepted. -/
theorem step_phase {acc : List DHCPv6Packet} (hs : s.core.SolicitPhase acc) {e : Event}
    (he : e = .timerFires ∨ ∃ p, e = .receive p) {s' : Client} (hst : step h w e s = some s')
    (hin : s'.cstate = .solicit ∧ s'.receive = some .solicit) :
    s'.core.SolicitPhase (acc ++ acceptedAt h w e s) := by
  rcases he with rfl | ⟨p, rfl⟩
  · rw [step_timerFires_phase h w s hs, Option.some.injEq] at hst
    subst hst
    have hp := solicitTimeout_phase h w s hs
    rw [show acceptedAt h w .timerFires s = [] from rfl, List.append_nil]
    split_ifs at hp with hl ha
    · exact absurd (hp.2.2.1.symm.trans hin.2) (by simp)
    · exact ha ▸ hp
    · obtain ⟨q, -, hq, -⟩ := hp
      exact absurd (hq.cstate.symm.trans hin.1) (by decide)
  · rw [step_receive_phase h w s hs, Option.some.injEq] at hst
    subst hst
    have hp := solicitData_phase h w s hs p
    simp only [acceptedAt]
    split_ifs at hp ⊢ with ha hr
    · obtain ⟨q, -, hq, -⟩ := hp
      exact absurd (hq.cstate.symm.trans hin.1) (by decide)
    · exact hp
    · simpa using hp

/-- Along any run of timeouts and packets that keeps the client in Solicit with its receive
handler, the client stays in the phase, having accepted the ADVERTISEs the run accepted. -/
theorem run_solicitPhase {acc : List DHCPv6Packet} (hs : s.core.SolicitPhase acc)
    (es : List (World × Event)) (hes : ∀ e ∈ es, e.2 = .timerFires ∨ ∃ p, e.2 = .receive p)
    (hin : InSolicitAlong h es s) :
    ∃ s', run h es s = some s' ∧ s'.core.SolicitPhase (acc ++ acceptedAlong h es s) := by
  induction es generalizing s acc with
  | nil => exact ⟨s, rfl, by simpa [acceptedAlong] using hs⟩
  | cons we es ih =>
    obtain ⟨w, e⟩ := we
    have he := hes (w, e) (.head _)
    obtain ⟨s₁, h₁⟩ : ∃ s₁, step h w e s = some s₁ := by
      rcases he with he | ⟨p, he⟩ <;> simp only at he <;> subst he
      exacts [⟨_, step_timerFires_phase h w s hs⟩, ⟨_, step_receive_phase h w s hs p⟩]
    obtain ⟨hin₁, hin'⟩ := hin s₁ h₁
    obtain ⟨s', h', hs'⟩ := ih s₁ (step_phase h w s hs he h₁ hin₁)
      (fun e he' => hes e (.tail _ he')) hin'
    refine ⟨s', by simp [run, h₁, h'], ?_⟩
    simpa [acceptedAlong, h₁] using hs'

/-! ## The phase as a whole -/

/-- A Solicit phase starts with nothing accepted. Along any run of timeouts and packets
that stays in Solicit, the client has saved the earliest of maximum preference of the
ADVERTISEs it accepted. A packet takes it on to Request exactly when it is accepted, above
the one saved, after the second try or at maximum preference; a timeout exactly when an
ADVERTISE was accepted, except that a timeout after the first that finds the link down
does not go on to Request: it drops what was saved and cancels the timer and the receive
handler. The REQUESTs, the first and the retransmissions, carry the SERVERID and IAADDR
address of the ADVERTISE requested. -/
theorem solicit_requests_best_advertise {acc : List DHCPv6Packet} (hs : s.core.SolicitPhase acc) :
    (∀ r : Client, (solicitStart w r).core.SolicitPhase []) ∧
    (∀ es : List (World × Event), (∀ e ∈ es, e.2 = .timerFires ∨ ∃ p, e.2 = .receive p) →
      InSolicitAlong h es s →
      ∃ s', run h es s = some s' ∧ s'.core.SolicitPhase (acc ++ acceptedAlong h es s)) ∧
    (∀ p, ∃ s', step h w (.receive p) s = some s' ∧
      if advertiseAccepted h w s p then
        if 1 < s.tries ∨ preference p = kDHCPv6OptionPREFERENCEMaxValue then
          ∃ q, bestAdvertise (acc ++ [p]) = some q ∧ SentRequestsFor s s' q
        else s'.core.SolicitPhase (acc ++ [p])
      else s'.core.SolicitPhase acc) ∧
    (∃ s', step h w .timerFires s = some s' ∧
      if s.tries ≠ 0 ∧ w.linkStatus.isInactive = true then
        s'.cstate ≠ .request ∧ s'.timer = none ∧ s'.receive = none ∧ s'.saved = none
      else if acc = [] then s'.core.SolicitPhase []
      else ∃ q, bestAdvertise acc = some q ∧ SentRequestsFor s s' q) ∧
    ∀ (r : Client) (q : DHCPv6Packet), r.core.RequestsFrom q →
      (requestTimeout h w r).cstate = .request → SentRequestsFor r (requestTimeout h w r) q :=
  ⟨solicitStart_phase w, fun es hes hin => run_solicitPhase h s hs es hes hin,
    fun p => ⟨_, step_receive_phase h w s hs p, solicitData_phase h w s hs p⟩,
    ⟨_, step_timerFires_phase h w s hs, solicitTimeout_phase h w s hs⟩,
    fun r _ hq hr => requestTimeout_sentRequestsFor h w r hq hr⟩

/-- An ADVERTISE of maximum preference received before the first SOLICIT is requested at
once. -/
theorem solicitStart_requests_max_preference :
    ∃ s', step exampleHost (exampleWorld 0)
        (.receive (exampleMessage kDHCPv6MessageADVERTISE 600 900 [⟨kDHCPv6OPTION_PREFERENCE, [255]⟩]))
        (solicitStart (exampleWorld 0) create) = some s' ∧
      SentRequestsFor (solicitStart (exampleWorld 0) create) s'
        (exampleMessage kDHCPv6MessageADVERTISE 600 900 [⟨kDHCPv6OPTION_PREFERENCE, [255]⟩]) := by
  obtain ⟨-, -, hr, -⟩ := solicit_requests_best_advertise exampleHost (exampleWorld 0) _
    (solicitStart_phase (exampleWorld 0) create)
  obtain ⟨s', hs', hp⟩ := hr (exampleMessage kDHCPv6MessageADVERTISE 600 900
    [⟨kDHCPv6OPTION_PREFERENCE, [255]⟩])
  rw [if_pos (by with_unfolding_all decide), if_pos (.inr (by with_unfolding_all decide))] at hp
  obtain ⟨q, hq, hsent⟩ := hp
  obtain rfl := Option.some.inj (hq.symm.trans (bestAdvertise_append_of_lt (by simp)))
  exact ⟨s', hs', hsent⟩

/-- The start, the first SOLICIT at 0 s, an ADVERTISE at 0.5 s, saved, and the
retransmission timer at 0.9 s with the link down: the timeout finds the ADVERTISE saved,
yet the client does not go to Request; the ADVERTISE is dropped, nothing is armed. -/
theorem solicit_timeout_link_down_drops_advertise :
    (run exampleHost [(exampleWorld 0, .start true false), (exampleWorld 0, .timerFires),
        (exampleWorld (1 / 2), .receive (exampleMessage kDHCPv6MessageADVERTISE 600 900 []))]
        create).map (fun s => (s.cstate, s.saved.isSome)) = some (.solicit, true) ∧
    (run exampleHost [(exampleWorld 0, .start true false), (exampleWorld 0, .timerFires),
        (exampleWorld (1 / 2), .receive (exampleMessage kDHCPv6MessageADVERTISE 600 900 [])),
        ({ exampleWorld (9 / 10) with linkStatus := ⟨true, false, true⟩ }, .timerFires)] create).map
        (fun s => (s.cstate == .request, s.timer, s.receive, s.saved)) = some (false, none, none, none) := by
  constructor <;> with_unfolding_all decide

end DHCPv6Client
