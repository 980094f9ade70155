import NetProbe.ProbeHandlersProofs

/-!
# The list of allowed target domains

`allowed_target_domains` is read by `assert_domain_allowlisted` alone, which nothing calls.
For each of the three probes this file compares what the list says of the hosts of a request
(`Listed`) with what the probe does: which names it asks the resolver for, where it connects,
and what it answers.

A request keeps to the list exactly if its hosts are listed anyway, or if another rule has
refused them before anything is sent (`allow_list_kept_iff`).
-/

namespace NetProbeAllowList

open NetProbePyText NetProbeConfig NetProbeUrlSplit NetProbeSecurity NetProbeCoreAuth
open NetProbeHttpService NetProbeTcpService NetProbeDnsService NetProbePersistence
open NetProbeProbeHandlers TracedRun

/-- The host is an entry of `allowed_target_domains` or a subdomain of one, without regard to case
    and trailing dots. -/
def Listed (py : Python) (settings : Settings) (host : Str) : Prop :=
  ∃ allowed ∈ settings.allowed_target_domains,
    py.lower (rstrip (· = '.') host) = py.lower (rstrip (· = '.') allowed) ∨
      endswith ('.' :: py.lower (rstrip (· = '.') allowed))
        (py.lower (rstrip (· = '.') host)) = true

/-- `assert_domain_allowlisted` returns for the listed hosts, if there is a list. -/
theorem assertDomainAllowlisted_ok_iff {py : Python} {settings : Settings} {host : Str}
    (hlist : settings.allowed_target_domains ≠ []) :
    assertDomainAllowlisted py settings host = .ok () ↔ Listed py settings host := by
  rw [assertDomainAllowlisted, Listed]
  rw [if_neg hlist]
  dsimp only
  split
  · rename_i hany
    refine iff_of_true rfl ?_
    simpa using hany
  · rename_i hany
    refine iff_of_false (by simp) ?_
    simpa using hany

-- ── HTTP: which hosts a check contacts ────────────────────────────────────────────

section Http

variable {py : Python} {settings : Settings} {net : Net} {method : Str} {follow : Bool}
  {url u : Str} {i : Nat} {events : List Event} {out : Except ProbeError HttpCheckResult}

/-- The host an event is about.  An iteration on a URL that has been validated begins with the
    lookup of its host, whatever the answer. -/
def contactedHost (py : Python) : Event → Option Str
  | .validated _ url => hopHost py url
  | .lookup _ host _ => host
  | .send _ url => hopHost py url
  | _ => none

/-- A valid hop that the responses lead to. -/
structure HttpTarget (py : Python) (settings : Settings) (net : Net) (method : Str) (follow : Bool)
    (i : Nat) (u : Str) (j : Nat) (v : Str) : Prop where
  reached : Reaches py settings net method follow i u j v
  valid : validateUrl py v = .ok v

theorem contacted_hopEvents {answer : List Str} {host : Str} {o : Event}
    (ho : o ∈ hopEvents py net i u answer) (hhost : contactedHost py o = some host) :
    hopHost py u = some host := by
  rw [hopEvents] at ho
  simp only [List.mem_cons, List.mem_append, List.mem_map] at ho
  rcases ho with rfl | ⟨ip, -, rfl⟩ | rfl | ⟨ip, -, rfl⟩
  · exact hhost
  · cases hhost
  · exact hhost
  · cases hhost

/-- The hosts an iteration and the later ones contact are those of its targets. -/
theorem Loop.contacted (h : Loop py settings net method follow url i u events out)
    (hvalid : validateUrl py u = .ok u) {host : Str} {o : Event} (ho : o ∈ events)
    (hhost : contactedHost py o = some host) :
    ∃ j v, HttpTarget py settings net method follow i u j v ∧ hopHost py v = some host := by
  induction h with
  | @refused i u events e hno hev =>
      have hcheck := hev o ho
      cases o with
      | lookup j host' answer =>
          obtain ⟨-, rfl, -⟩ := hcheck
          exact ⟨i, u, ⟨.here i u, hvalid⟩, hhost⟩
      | accepted j ip => cases hhost
      | _ => exact hcheck.elim
  | failed hop hsend => exact ⟨_, _, ⟨.here _ _, hvalid⟩, contacted_hopEvents ho hhost⟩
  | finished hop hsend hlast => exact ⟨_, _, ⟨.here _ _, hvalid⟩, contacted_hopEvents ho hhost⟩
  | unjoined hop hsend hloc hjoin => exact ⟨_, _, ⟨.here _ _, hvalid⟩, contacted_hopEvents ho hhost⟩
  | @invalid i u next answer e hfollow hop hbad =>
      rcases List.mem_append.mp ho with ho | ho
      · exact ⟨_, _, ⟨.here _ _, hvalid⟩, contacted_hopEvents ho hhost⟩
      · rw [List.mem_singleton.mp ho] at hhost
        cases hhost
  | @followed i u next answer events out hfollow hop hnext hrest ih =>
      rcases List.mem_append.mp ho with ho | ho
      · exact ⟨_, _, ⟨.here _ _, hvalid⟩, contacted_hopEvents ho hhost⟩
      · rcases List.mem_cons.mp ho with rfl | ho
        · cases hhost
        · rcases List.mem_cons.mp ho with rfl | ho
          · exact ⟨_, _, ⟨.step hfollow (.here _ _), hnext⟩, hhost⟩
          · obtain ⟨j, v, htarget, hv⟩ := ih hnext ho
            exact ⟨j, v, ⟨.step hfollow htarget.reached, htarget.valid⟩, hv⟩

/-- A hop whose response leads to a valid URL is followed. -/
theorem Loop.followed_of_follows (h : Loop py settings net method follow url i u events out)
    {next : Str} (hfollow : Follows py settings net method follow i u next)
    (hnext : validateUrl py next = .ok next) :
    ∃ before after, events = before ++ .visit (i + 1) next :: .validated (i + 1) next :: after ∧
      Loop py settings net method follow url (i + 1) next after out := by
  obtain ⟨⟨answer', hop'⟩, response', location', hsend', hloc', hjoin'⟩ := hfollow
  cases h with
  | refused hno hev => exact absurd hop' (hno answer')
  | failed hop hsend =>
      rw [hsend] at hsend'
      cases hsend'
  | finished hop hsend hlast =>
      rw [hsend] at hsend'
      cases hsend'
      rw [hlast] at hloc'
      cases hloc'
  | unjoined hop hsend hloc hjoin =>
      rw [hsend] at hsend'
      cases hsend'
      rw [hloc] at hloc'
      cases hloc'
      rw [hjoin] at hjoin'
      cases hjoin'
  | invalid hfollow hop hbad =>
      rw [hfollow.det ⟨⟨answer', hop'⟩, response', location', hsend', hloc', hjoin'⟩, hnext] at hbad
      cases hbad
  | followed hfollow hop hvalid hrest =>
      obtain rfl := hfollow.det ⟨⟨answer', hop'⟩, response', location', hsend', hloc', hjoin'⟩
      exact ⟨_, _, rfl, hrest⟩

/-- Every target but the hop itself is announced in the events. -/
theorem Loop.announced (h : Loop py settings net method follow url i u events out) {j : Nat}
    {v : Str} (htarget : HttpTarget py settings net method follow i u j v) :
    (j = i ∧ v = u) ∨ .validated j v ∈ events := by
  obtain ⟨hreach, hvalid⟩ := htarget
  induction hreach generalizing events with
  | here i u => exact Or.inl ⟨rfl, rfl⟩
  | @step i j u next v hfollow hrest ih =>
      have hnext : validateUrl py next = .ok next := by
        cases hrest with
        | here => exact hvalid
        | step hfollow' hrest' =>
            obtain ⟨answer, hop⟩ := hfollow'.allowed
            exact hop.valid
      obtain ⟨before, after, rfl, hloop⟩ := Loop.followed_of_follows h hfollow hnext
      refine Or.inr (List.mem_append_right _ (List.mem_cons_of_mem _ ?_))
      rcases ih hloop hvalid with ⟨rfl, rfl⟩ | hmem
      · exact List.mem_cons_self
      · exact List.mem_cons_of_mem _ hmem

/-- **The hosts a check contacts are those of the valid hops it is led to.** -/
theorem contacted_iff {host : Str} :
    (∃ o ∈ (performHttpCheck py settings net url method follow).events,
      contactedHost py o = some host) ↔
      ∃ j v, HttpTarget py settings net method follow 0 url j v ∧ hopHost py v = some host := by
  rcases performHttpCheck_cases py settings net url method follow with
    ⟨e, hbad, heq⟩ | ⟨hvalid, events, out, hloop, heq⟩
  · rw [heq]
    constructor
    · rintro ⟨o, ho, hhost⟩
      rw [List.mem_singleton.mp ho] at hhost
      cases hhost
    · rintro ⟨j, v, ⟨hreach, hvalid⟩, -⟩
      have hstuck : ∀ next, ¬ Follows py settings net method follow 0 url next := by
        rintro next ⟨⟨answer, hop⟩, -⟩
        have hgood := hop.valid
        rw [hbad] at hgood
        cases hgood
      obtain ⟨rfl, rfl⟩ := hreach.eq_of_stuck hstuck
      rw [hbad] at hvalid
      cases hvalid
  · rw [heq]
    constructor
    · rintro ⟨o, ho, hhost⟩
      rcases List.mem_cons.mp ho with rfl | ho
      · cases hhost
      · rcases List.mem_cons.mp ho with rfl | ho
        · exact ⟨0, url, ⟨.here 0 url, hvalid⟩, hhost⟩
        · exact Loop.contacted hloop hvalid ho hhost
    · rintro ⟨j, v, htarget, hhost⟩
      refine ⟨.validated j v, ?_, hhost⟩
      rcases Loop.announced hloop htarget with ⟨rfl, rfl⟩ | hmem
      · simp
      · exact List.mem_cons_of_mem _ (List.mem_cons_of_mem _ hmem)

end Http

-- ── What keeping to the list means ────────────────────────────────────────────────

section Kept

variable (py : Python) (settings : Settings) (crypto : Crypto)

/-- The code of the answer to a refused target. -/
def targetNotAllowed : Str := str "TARGET_NOT_ALLOWED"

/-- An HTTP check keeps to the list: no host that is not listed is contacted, and a check that is
    led to one ends in `TARGET_NOT_ALLOWED`. -/
structure HttpKept (c : HttpCall) : Prop where
  contacted : ∀ o ∈ (performHttpCheck py settings c.net c.payload.url c.payload.method
      c.payload.follow_redirects).events,
    ∀ host, contactedHost py o = some host → Listed py settings host
  refused : ∀ j v host,
    HttpTarget py settings c.net c.payload.method c.payload.follow_redirects 0 c.payload.url j v →
      hopHost py v = some host → ¬ Listed py settings host →
        (respond (httpCheck py settings crypto c).outcome).code = targetNotAllowed

/-- A port check keeps to the list: for a host that is not listed there is no lookup and no
    connection, and the answer is `TARGET_NOT_ALLOWED`. -/
structure PortKept (c : PortCall) : Prop where
  untouched : ∀ host, validateHost py c.payload.host = .ok host → ¬ Listed py settings host →
    ∀ o ∈ (portProbe py settings c).events, ∃ ip, o = .accepted ip
  refused : ∀ host, validateHost py c.payload.host = .ok host → ¬ Listed py settings host →
    (respond (portCheck py settings crypto c).outcome).code = targetNotAllowed

/-- A lookup keeps to the list: a domain that is not listed is not asked for, and the answer is
    `TARGET_NOT_ALLOWED`. -/
structure DnsKept (c : DnsCall) : Prop where
  unasked : ∀ domain, validateDomain py c.payload.domain = .ok domain →
    ¬ Listed py settings domain →
    (dnsProbe py c).events = []
  refused : ∀ domain, validateDomain py c.payload.domain = .ok domain →
    ¬ Listed py settings domain →
    (respond (dnsLookup py settings crypto c).outcome).code = targetNotAllowed

variable {py settings}

/-- An HTTP check keeps to the list exactly if the host of every hop it is led to is listed. -/
theorem httpKept_iff {c : HttpCall} :
    HttpKept py settings crypto c ↔
      ∀ j v host,
        HttpTarget py settings c.net c.payload.method c.payload.follow_redirects 0
          c.payload.url j v →
          hopHost py v = some host → Listed py settings host := by
  constructor
  · intro h j v host htarget hhost
    obtain ⟨o, ho, hcontacted⟩ := contacted_iff.mpr ⟨j, v, htarget, hhost⟩
    exact h.contacted o ho host hcontacted
  · intro h
    refine ⟨?_, fun j v host htarget hhost hnot => absurd (h j v host htarget hhost) hnot⟩
    intro o ho host hcontacted
    obtain ⟨j, v, htarget, hhost⟩ := contacted_iff.mp ⟨o, ho, hcontacted⟩
    exact h j v host htarget hhost

/-- The host is an address, and one that is refused. -/
structure RefusedAddress (py : Python) (settings : Settings) (net : TcpNet) (host : Str) :
    Prop where
  nonempty : host ≠ []
  address : socketAddrOrNone net host = .ok (some host)
  refused : assertIpAllowed py settings host ≠ .ok ()

/-- In the range of the schema, a port is allowed or refused as a target. -/
theorem assertPortAllowed_cases (settings : Settings) {port : Int} (h : 1 ≤ port ∧ port ≤ 65535) :
    assertPortAllowed settings port = .ok () ∨
      ∃ message, assertPortAllowed settings port = .error (.targetNotAllowedError message) := by
  rw [assertPortAllowed]
  rw [if_neg (not_not.mpr h)]
  split
  · exact Or.inl rfl
  · split
    · exact Or.inr ⟨_, rfl⟩
    · exact Or.inl rfl

theorem socketAddrOrNone_cases (net : TcpNet) (host : Str) :
    socketAddrOrNone net host = .ok (some host) ∨ socketAddrOrNone net host = .ok none ∨
      socketAddrOrNone net host = .error .valueError := by
  rw [socketAddrOrNone]
  split
  · exact Or.inl rfl
  · exact Or.inr (Or.inr rfl)
  · split
    · exact Or.inl rfl
    · exact Or.inr (Or.inr rfl)
    · exact Or.inr (Or.inl rfl)

/-- The events of the resolution are events of the check. -/
theorem resolve_events_mem {net : TcpNet} {host : Str} {port : Int} {o : TcpEvent}
    (ho : o ∈ (resolve net host).events) :
      o ∈ (performPortCheck py settings net host port).events := by
  rw [performPortCheck]
  dsimp only
  split
  · exact ho
  · exact ho
  · exact ho
  · exact List.mem_append_left _ ho

/-- A host that is no address is looked up. -/
theorem lookup_mem {net : TcpNet} {host : Str} {port : Int}
    (h : socketAddrOrNone net host = .ok none ∨ socketAddrOrNone net host = .ok (some [])) :
    .lookup host ∈ (performPortCheck py settings net host port).events := by
  apply resolve_events_mem
  rw [resolve]
  rcases h with h | h
  · rw [h]
    cases net.getaddrinfo host with
    | error e => cases e <;> simp [Traced.raise]
    | ok infos => simp [Traced.ret]
  · rw [h]
    cases net.getaddrinfo host with
    | error e => cases e <;> simp [Traced.raise]
    | ok infos => simp [Traced.ret]

/-- An address is its own resolution. -/
theorem resolve_address {net : TcpNet} {host : Str} (hne : host ≠ [])
    (h : socketAddrOrNone net host = .ok (some host)) : resolve net host = .ret [host] := by
  rw [resolve]
  rw [h]
  cases host with
  | nil => exact absurd rfl hne
  | cons c cs => rfl

theorem portProbe_of_valid {c : PortCall} {host : Str}
    (hhost : validateHost py c.payload.host = .ok host)
    (hport : assertPortAllowed settings c.payload.port = .ok ()) :
    portProbe py settings c = performPortCheck py settings c.net host c.payload.port := by
  rw [portProbe]
  rw [hhost, Traced.bind_eq, Traced.bind_lift_ok, hport, Traced.bind_eq, Traced.bind_lift_ok]

theorem portProbe_of_refusedPort {c : PortCall} {host : Str} {e : ProbeError}
    (hhost : validateHost py c.payload.host = .ok host)
    (hport : assertPortAllowed settings c.payload.port = .error e) :
    portProbe py settings c = .raise e := by
  rw [portProbe]
  rw [hhost, Traced.bind_eq, Traced.bind_lift_ok, hport, Traced.bind_eq, Traced.bind_lift_error]

theorem portCheck_code {c : PortCall} {e : ProbeError}
    (h : (portProbe py settings c).outcome = .error e) :
    (respond (portCheck py settings crypto c).outcome).code = (portFailureOf e).code := by
  rw [portCheck_outcome, h]
  rfl

/-- A port check sends nothing and answers `TARGET_NOT_ALLOWED`. -/
abbrev PortQuiet (py : Python) (settings : Settings) (crypto : Crypto) (c : PortCall) : Prop :=
  (∀ o ∈ (portProbe py settings c).events, ∃ ip, o = .accepted ip) ∧
    (respond (portCheck py settings crypto c).outcome).code = targetNotAllowed

/-- A port check that looks a name up is not quiet. -/
theorem not_quiet_of_lookup {c : PortCall} (host : Str)
    (h : .lookup host ∈ (portProbe py settings c).events) : ¬ PortQuiet py settings crypto c := by
  rintro ⟨hall, -⟩
  obtain ⟨ip, hip⟩ := hall _ h
  cases hip

/-- A port check of an address is quiet exactly if the address is refused. -/
theorem address_quiet_iff {c : PortCall} {host : Str}
    (hprobe : portProbe py settings c = performPortCheck py settings c.net host c.payload.port)
    (hnonempty : host ≠ []) (haddress : socketAddrOrNone c.net host = .ok (some host)) :
    PortQuiet py settings crypto c ↔ assertIpAllowed py settings host ≠ .ok () := by
  have hresolved : (resolve c.net host).outcome = .ok [host] := by
    rw [resolve_address hnonempty haddress]
    rfl
  rcases assertIpAllowed_cases py settings host with hok | ⟨message, herror⟩
  · refine iff_of_false ?_ (not_not.mpr hok)
    rintro ⟨hall, -⟩
    have hconnect : .connect host c.payload.port ∈ (portProbe py settings c).events := by
      rw [hprobe]
      exact (connect_mem_iff hresolved).mpr ⟨hok, rfl, rfl⟩
    obtain ⟨ip, hip⟩ := hall _ hconnect
    cases hip
  · have hrefused : assertIpAllowed py settings host ≠ .ok () := by
      rw [herror]
      simp
    refine iff_of_true ⟨?_, ?_⟩ hrefused
    · rw [hprobe, performPortCheck_resolved hresolved, resolve_address hnonempty haddress,
        connectFirst, herror]
      simp [Traced.ret, Traced.raise]
    · obtain ⟨message, hrefuses⟩ := (performPortCheck_refuses_iff hresolved).mpr hrefused
      rw [portCheck_code crypto (by rw [hprobe]; exact hrefuses)]
      rfl

/-- A port check of a valid host is quiet exactly if the port is refused, or the host is an
    address that is refused. -/
theorem port_quiet_iff {c : PortCall} {host : Str}
    (hhost : validateHost py c.payload.host = .ok host) :
    PortQuiet py settings crypto c ↔
      assertPortAllowed settings c.payload.port ≠ .ok () ∨
        RefusedAddress py settings c.net host := by
  rcases assertPortAllowed_cases settings c.payload.port_range with hport | ⟨message, hport⟩
  · have hprobe := portProbe_of_valid hhost hport
    have hopen : ¬ RefusedAddress py settings c.net host →
        ¬ (assertPortAllowed settings c.payload.port ≠ .ok () ∨
          RefusedAddress py settings c.net host) := by
      rintro hnot (hrefused | hrefused)
      · exact hrefused hport
      · exact hnot hrefused
    rcases socketAddrOrNone_cases c.net host with hsome | hnone | hbad
    · by_cases hempty : host = []
      · refine iff_of_false (not_quiet_of_lookup crypto host ?_) (hopen fun h => h.nonempty hempty)
        rw [hprobe]
        exact lookup_mem (Or.inr (by rw [hsome, hempty]))
      · rw [address_quiet_iff crypto hprobe hempty hsome]
        constructor
        · exact fun hrefused => Or.inr ⟨hempty, hsome, hrefused⟩
        · rintro (hrefused | hrefused)
          · exact absurd hport hrefused
          · exact hrefused.refused
    · refine iff_of_false (not_quiet_of_lookup crypto host ?_) (hopen fun h => ?_)
      · rw [hprobe]
        exact lookup_mem (Or.inl hnone)
      · have haddress := h.address
        rw [hnone] at haddress
        cases haddress
    · -- a host that is no text for the socket module ends in the error of a bug
      refine iff_of_false ?_ (hopen fun h => ?_)
      · rintro ⟨-, hcode⟩
        have houtcome : (portProbe py settings c).outcome = .error .valueError := by
          rw [hprobe]
          rw [performPortCheck, resolve]
          rw [hbad]
          rfl
        rw [portCheck_code crypto houtcome] at hcode
        exact absurd hcode (by decide)
      · have haddress := h.address
        rw [hbad] at haddress
        cases haddress
  · have hprobe := portProbe_of_refusedPort hhost hport
    refine iff_of_true ⟨?_, ?_⟩ (Or.inl (by rw [hport]; simp))
    · rw [hprobe]
      exact fun o ho => absurd ho List.not_mem_nil
    · rw [portCheck_code crypto (by rw [hprobe]; rfl)]
      rfl

/-- A port check keeps to the list exactly if its host is listed, or its port is refused, or its
    host is an address that is refused. -/
theorem portKept_iff {c : PortCall} :
    PortKept py settings crypto c ↔
      ∀ host, validateHost py c.payload.host = .ok host → Listed py settings host ∨
        assertPortAllowed settings c.payload.port ≠ .ok () ∨
          RefusedAddress py settings c.net host := by
  constructor
  · intro h host hhost
    by_cases hlisted : Listed py settings host
    · exact Or.inl hlisted
    · exact Or.inr ((port_quiet_iff crypto hhost).mp
        ⟨h.untouched host hhost hlisted, h.refused host hhost hlisted⟩)
  · intro h
    refine ⟨fun host hhost hnot => ?_, fun host hhost hnot => ?_⟩
    · exact ((port_quiet_iff crypto hhost).mpr ((h host hhost).resolve_left hnot)).1
    · exact ((port_quiet_iff crypto hhost).mpr ((h host hhost).resolve_left hnot)).2

/-- A lookup keeps to the list exactly if its domain is listed. -/
theorem dnsKept_iff {c : DnsCall} :
    DnsKept py settings crypto c ↔
      ∀ domain, validateDomain py c.payload.domain = .ok domain → Listed py settings domain := by
  constructor
  · intro h domain hdomain
    by_contra hnot
    have hunasked := h.unasked domain hdomain hnot
    have hcode := h.refused domain hdomain hnot
    rw [dnsProbe] at hunasked
    rw [hdomain] at hunasked
    rcases performDnsLookup_events c.net domain c.payload.record_type
      with hasked | ⟨-, name, houtcome⟩
    · dsimp only at hunasked
      rw [hasked] at hunasked
      cases hunasked
    · have hprobe : (dnsProbe py c).outcome = .error (.lookup (.otherException name)) := by
        rw [dnsProbe]
        rw [hdomain]
        dsimp only
        rw [houtcome]
        rfl
      rw [dnsLookup_outcome, hprobe] at hcode
      exact absurd (show internalServerError.code = targetNotAllowed from hcode) (by decide)
  · intro h
    exact ⟨fun domain hdomain hnot => absurd (h domain hdomain) hnot,
      fun domain hdomain hnot => absurd (h domain hdomain) hnot⟩

/-- **When the allow-list is kept.**  Nothing consults it: an HTTP check keeps to it exactly if
    the hosts of its hops are listed, a lookup if its domain is, a port check if its host is or
    another rule refuses its port or its address. -/
theorem allow_list_kept_iff :
    (∀ c : HttpCall, HttpKept py settings crypto c ↔
      ∀ j v host,
        HttpTarget py settings c.net c.payload.method c.payload.follow_redirects 0
          c.payload.url j v →
          hopHost py v = some host → Listed py settings host) ∧
    (∀ c : PortCall, PortKept py settings crypto c ↔
      ∀ host, validateHost py c.payload.host = .ok host → Listed py settings host ∨
        assertPortAllowed settings c.payload.port ≠ .ok () ∨
          RefusedAddress py settings c.net host) ∧
    ∀ c : DnsCall, DnsKept py settings crypto c ↔
      ∀ domain, validateDomain py c.payload.domain = .ok domain → Listed py settings domain :=
  ⟨fun _ => httpKept_iff crypto, fun _ => portKept_iff crypto, fun _ => dnsKept_iff crypto⟩

end Kept

/-- One domain is allowed. -/
def oneDomain : Settings := { allowed_target_domains := [str "example.com"] }

/-- A lookup of another domain, in a world in which every domain has no records. -/
def otherDomain : DnsCall where
  payload := ⟨str "example.org", str "A", by decide, by decide⟩
  net := ⟨.ok [], fun _ _ => .error .noAnswer, 0⟩
  call := bracketCall.call

/-- The list does not hold the domain, the resolver is asked for it, and the answer is a
    success. -/
theorem other_domain_asked :
    oneDomain.allowed_target_domains ≠ [] ∧ ¬ Listed .asciiOnly oneDomain (str "example.org") ∧
      (dnsProbe .asciiOnly otherDomain).events = [.query (str "example.org") (str "A")] ∧
        (respond (dnsLookup .asciiOnly oneDomain .plain otherDomain).outcome).code =
          str "OK_EMPTY" := by
  have hlist : oneDomain.allowed_target_domains ≠ [] := by decide
  refine ⟨hlist, ?_, by decide +kernel, by decide +kernel⟩
  rw [← assertDomainAllowlisted_ok_iff hlist]
  decide +kernel

end NetProbeAllowList
