import NetProbe.AllowListProofs

/-!
# Which ports a probe reaches

`allowed_tcp_ports` is consulted by `assert_port_allowed`, which the port check calls on the
port of its payload.  The HTTP check does not call it: its port is that of the URL, the
explicit one or that of the scheme, and after a redirect that of the URL a server chose.

Every connection of a port check goes to an allowed port (`portsKept`).  An HTTP check keeps
to the list exactly if the port of every hop it is led to passes `assert_port_allowed`
(`httpPortsKept_iff`).
-/

namespace NetProbePortPolicy

open NetProbePyText NetProbeConfig NetProbeUrlSplit NetProbeSecurity NetProbeHttpService
open NetProbeTcpService NetProbePersistence NetProbeProbeHandlers NetProbeAllowList TracedRun

-- ── The port of a URL ─────────────────────────────────────────────────────────────

/-- The port text of a split URL, empty if there is none. -/
def portText (r : SplitResult) : Str :=
  match partition '[' (hostinfo r.netloc) with
  | (_, true, bracketed) => (partition ':' (partition ']' bracketed).2.2).2.2
  | (_, false, _) => (partition ':' (hostinfo r.netloc)).2.2

/-- The number a text of ASCII digits stands for. -/
def digitsValue (text : Str) : Nat := text.foldl (fun acc c => acc * 10 + (c.toNat - '0'.toNat)) 0

/-- `parts.port`, absent or a number; the outer `none` is `ValueError`. -/
def port (r : SplitResult) : Option (Option Nat) :=
  if portText r = [] then some none
  else if (portText r).all isAsciiDigit ∧ (portText r).length ≤ 4300 ∧
    digitsValue (portText r) ≤ 65535 then
    some (some (digitsValue (portText r)))
  else none

/-- The port a scheme stands for. -/
def defaultPort (scheme : Str) : Option Nat :=
  if scheme = str "http" then some 80 else if scheme = str "https" then some 443 else none

/-- The port a request to the URL goes to: the explicit one, else that of the scheme. -/
def hopPort (py : Python) (url : Str) : Option Nat :=
  (urlsplit py url).bind fun r => (port r).bind fun explicit => explicit.or (defaultPort r.scheme)

theorem port_le {r : SplitResult} {p : Nat} (h : port r = some (some p)) : p ≤ 65535 := by
  rw [port] at h
  split at h
  · cases h
  · split at h
    · rename_i hdigits
      cases h
      exact hdigits.2.2
    · cases h

theorem defaultPort_cases {scheme : Str} {p : Nat} (h : defaultPort scheme = some p) :
    p = 80 ∨ p = 443 := by
  rw [defaultPort] at h
  split at h
  · exact Or.inl (Option.some.inj h).symm
  · split at h
    · exact Or.inr (Option.some.inj h).symm
    · cases h

/-- A port is at most the largest one. -/
theorem hopPort_le {py : Python} {url : Str} {p : Nat} (h : hopPort py url = some p) :
    p ≤ 65535 := by
  obtain ⟨r, -, hr⟩ := Option.bind_eq_some_iff.mp h
  obtain ⟨explicit, hexplicit, hp⟩ := Option.bind_eq_some_iff.mp hr
  cases explicit with
  | some q =>
      cases hp
      exact port_le hexplicit
  | none =>
      rcases defaultPort_cases hp with rfl | rfl <;> decide

/-- A URL that passes `validate_url` and names no port goes to 80 or 443. -/
theorem hopPort_of_no_text {py : Python} {url : Str} {r : SplitResult}
    (hvalid : validateUrl py url = .ok url) (hsplit : urlsplit py url = some r)
    (hnone : portText r = []) :
    hopPort py url = some (if r.scheme = str "http" then 80 else 443) := by
  obtain ⟨-, -, -, parts, -, hparts, hscheme, -⟩ := validateUrl_ok hvalid
  rw [hsplit] at hparts
  cases hparts
  unfold hopPort port
  rw [hsplit, Option.bind_some, if_pos hnone, Option.bind_some, Option.none_or]
  rw [defaultPort]
  rcases hscheme with hhttp | hhttps
  · rw [if_pos hhttp, if_pos hhttp]
  · have hnot : r.scheme ≠ str "http" := by
      rw [hhttps]
      decide
    rw [if_neg hnot, if_neg hnot, if_pos hhttps]

-- ── What keeping to the ports means ───────────────────────────────────────────────

section Kept

variable (py : Python) (settings : Settings)

/-- The port of the URL passes `assert_port_allowed`. -/
def PortPasses (url : Str) : Prop :=
  ∃ p, hopPort py url = some p ∧ assertPortAllowed settings p = .ok ()

/-- A port check keeps to the ports: its connections go to allowed ones. -/
def PortsKept (c : PortCall) : Prop :=
  ∀ ip p, .connect ip p ∈ (portProbe py settings c).events → p ∈ settings.allowed_tcp_ports

/-- An HTTP check keeps to the ports: its connections go to allowed ones, and a hop is sent only
    if a port check of its port would pass. -/
structure HttpPortsKept (c : HttpCall) : Prop where
  connections : ∀ j v ip,
    .send j v ∈ (performHttpCheck py settings c.net c.payload.url c.payload.method
      c.payload.follow_redirects).events →
    .connect j ip ∈ (performHttpCheck py settings c.net c.payload.url c.payload.method
      c.payload.follow_redirects).events →
    ∃ p : Nat, hopPort py v = some p ∧ (p : Int) ∈ settings.allowed_tcp_ports
  sends : ∀ j v, .send j v ∈ (performHttpCheck py settings c.net c.payload.url c.payload.method
    c.payload.follow_redirects).events → PortPasses py settings v

variable {py settings}

/-- With private targets refused and a list of ports, `assert_port_allowed` asks for an entry of
    the list that is a port. -/
theorem assertPortAllowed_ok_iff (hpublic : settings.allow_private_targets = false)
    (hlist : settings.allowed_tcp_ports ≠ []) {p : Int} :
    assertPortAllowed settings p = .ok () ↔
      (1 ≤ p ∧ p ≤ 65535) ∧ p ∈ settings.allowed_tcp_ports := by
  rw [assertPortAllowed]
  by_cases hrange : 1 ≤ p ∧ p ≤ 65535
  · rw [if_neg (not_not.mpr hrange), if_neg (by rw [hpublic]; decide)]
    by_cases hmem : p ∈ settings.allowed_tcp_ports
    · rw [if_neg fun h => h.2 hmem]
      exact iff_of_true rfl ⟨hrange, hmem⟩
    · rw [if_pos ⟨hlist, hmem⟩]
      exact iff_of_false (by simp) fun h => hmem h.2
  · rw [if_pos hrange]
    exact iff_of_false (by simp) fun h => hrange h.1

-- ── The port check ────────────────────────────────────────────────────────────────

/-- The connections of a port check go to the port it was given. -/
theorem connect_port {net : TcpNet} {host ip : Str} {asked p : Int}
    (h : .connect ip p ∈ (performPortCheck py settings net host asked).events) : p = asked := by
  have hno : TcpEvent.connect ip p ∉ (resolve net host).events := fun hmem =>
    absurd (resolve_events _ hmem) TcpEvent.noConfusion
  cases hresolved : (resolve net host).outcome with
  | error e =>
      rw [performPortCheck] at h
      dsimp only at h
      rw [hresolved] at h
      cases e <;> exact absurd h hno
  | ok ips =>
      cases ips with
      | nil =>
          rw [performPortCheck] at h
          dsimp only at h
          rw [hresolved] at h
          exact absurd h hno
      | cons first rest => exact ((connect_mem_iff hresolved).mp h).2.2

/-- **The port check keeps to the ports.** -/
theorem portsKept (hpublic : settings.allow_private_targets = false)
    (hlist : settings.allowed_tcp_ports ≠ []) (c : PortCall) : PortsKept py settings c := by
  intro ip p hconnect
  rw [portProbe] at hconnect
  cases hhost : validateHost py c.payload.host with
  | error e =>
      rw [hhost, Traced.bind_eq, Traced.bind_lift_error] at hconnect
      cases hconnect
  | ok host =>
      cases hport : assertPortAllowed settings c.payload.port with
      | error e =>
          rw [hhost, Traced.bind_eq, Traced.bind_lift_ok, hport, Traced.bind_eq,
            Traced.bind_lift_error] at hconnect
          cases hconnect
      | ok a =>
          rw [hhost, Traced.bind_eq, Traced.bind_lift_ok, hport, Traced.bind_eq,
            Traced.bind_lift_ok] at hconnect
          rw [connect_port hconnect]
          exact ((assertPortAllowed_ok_iff hpublic hlist).mp hport).2

-- ── The HTTP check ────────────────────────────────────────────────────────────────

section Http

variable {net : Net} {url method : Str} {follow : Bool}

/-- A check sends exactly to the hops that it is led to and that pass its own checks. -/
theorem send_iff {j : Nat} {v : Str} :
    .send j v ∈ (performHttpCheck py settings net url method follow).events ↔
      Reaches py settings net method follow 0 url j v ∧
        ∃ answer, HopAllowed py settings net method j v answer := by
  rcases performHttpCheck_cases py settings net url method follow with
    ⟨e, hbad, heq⟩ | ⟨hvalid, events, out, hloop, heq⟩
  · rw [heq]
    constructor
    · intro hmem
      simp at hmem
    · rintro ⟨hreach, answer, hop⟩
      have hstuck : ∀ next, ¬ Follows py settings net method follow 0 url next := by
        rintro next ⟨⟨answer', hop'⟩, -⟩
        have hgood := hop'.valid
        rw [hbad] at hgood
        cases hgood
      obtain ⟨rfl, rfl⟩ := hreach.eq_of_stuck hstuck
      have hgood := hop.valid
      rw [hbad] at hgood
      cases hgood
  · rw [heq]
    simp only [List.mem_cons, reduceCtorEq, false_or]
    exact hloop.send_mem_iff

end Http

/-- An HTTP check keeps to the ports exactly if the port of every hop that it is led to, and that
    passes its other checks, passes `assert_port_allowed`. -/
theorem httpPortsKept_iff (hpublic : settings.allow_private_targets = false)
    (hlist : settings.allowed_tcp_ports ≠ []) (c : HttpCall) :
    HttpPortsKept py settings c ↔
      ∀ j v answer,
        Reaches py settings c.net c.payload.method c.payload.follow_redirects 0 c.payload.url j v →
          HopAllowed py settings c.net c.payload.method j v answer → PortPasses py settings v := by
  constructor
  · intro h j v answer hreach hop
    exact h.sends j v (send_iff.mpr ⟨hreach, answer, hop⟩)
  · intro h
    have hsends : ∀ j v, .send j v ∈ (performHttpCheck py settings c.net c.payload.url
        c.payload.method c.payload.follow_redirects).events → PortPasses py settings v := by
      intro j v hsend
      obtain ⟨hreach, answer, hop⟩ := send_iff.mp hsend
      exact h j v answer hreach hop
    refine ⟨fun j v ip hsend _ => ?_, hsends⟩
    obtain ⟨p, hp, hok⟩ := hsends j v hsend
    exact ⟨p, hp, ((assertPortAllowed_ok_iff hpublic hlist).mp hok).2⟩

/-- **What the port policy covers.** Every connection of a port check goes to an allowed port.
    An HTTP check keeps to the ports exactly if the port of every hop it is led to would pass. -/
theorem port_policy_iff (hpublic : settings.allow_private_targets = false)
    (hlist : settings.allowed_tcp_ports ≠ []) :
    (∀ c : PortCall, PortsKept py settings c) ∧
      ∀ c : HttpCall, HttpPortsKept py settings c ↔
        ∀ j v answer,
          Reaches py settings c.net c.payload.method c.payload.follow_redirects 0
            c.payload.url j v →
            HopAllowed py settings c.net c.payload.method j v answer → PortPasses py settings v :=
  ⟨portsKept hpublic hlist, httpPortsKept_iff hpublic hlist⟩

end Kept

/-- A host whose address is public, and where nothing answers. -/
def publicNet : Net := { rebindingNet with dial := fun _ _ => [str "93.184.216.34"] }

/-- A request with the given URL to that host. -/
def publicCall (url : Str) (h : url.length ≤ 2048) : HttpCall :=
  { plainCall url h with net := publicNet }

/-- The hop of a request to that host passes its checks. -/
theorem publicCall_allowed (url : Str) (hvalid : validateUrl .asciiOnly url = .ok url) :
    HopAllowed .asciiOnly {} publicNet (str "GET") 0 url [str "93.184.216.34"] := by
  refine ⟨hvalid, ⟨rfl, by decide, ?_⟩, rfl⟩
  intro ip hip
  rw [List.mem_singleton.mp hip]
  decide +kernel

/-- **An HTTP check connects to a port that is not allowed.** With the default settings the check
    of `http://example.com:25/` is sent, and a port check of port 25 is refused. -/
theorem port_policy_evaded :
    ¬ ∀ (py : Python) (settings : Settings), settings.allow_private_targets = false →
        settings.allowed_tcp_ports ≠ [] →
          (∀ c : PortCall, PortsKept py settings c) ∧
            ∀ c : HttpCall, HttpPortsKept py settings c := by
  intro h
  have hkept := (h .asciiOnly {} rfl (by decide)).2
    (publicCall (str "http://example.com:25/") (by decide))
  have hallowed := publicCall_allowed (str "http://example.com:25/") (by decide +kernel)
  obtain ⟨p, hp, hok⟩ := hkept.sends 0 (str "http://example.com:25/")
    (send_iff.mpr ⟨.here _ _, _, hallowed⟩)
  have hport : hopPort .asciiOnly (str "http://example.com:25/") = some 25 := by decide +kernel
  rw [hport] at hp
  cases hp
  exact absurd hok (by decide)

/-- The general result on a check of `http://example.com/`: it keeps to the ports. -/
theorem plain_port_kept :
    HttpPortsKept .asciiOnly {} (publicCall (str "http://example.com/") (by decide)) := by
  refine (@port_policy_iff .asciiOnly {} rfl (by decide)).2 _ |>.mpr ?_
  intro j v answer hreach hop
  have hstuck : ∀ next, ¬ Follows .asciiOnly {} publicNet (str "GET") true 0
      (str "http://example.com/") next := by
    rintro next ⟨-, response, location, hsend, -⟩
    cases hsend
  obtain ⟨rfl, rfl⟩ := hreach.eq_of_stuck hstuck
  exact ⟨80, by decide +kernel, by decide⟩

end NetProbePortPolicy
