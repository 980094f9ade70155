import NetProbe.RedirectLoopProofs

/-!
# The TCP port check

`perform_port_check` resolves the host, takes the first of the sorted addresses as its target,
has that one accepted by `assert_ip_allowed` and opens a connection to it.

The HTTP check has every address of an answer accepted.  The two services agree on an answer
whose addresses are all accepted, and on one whose first address in string order is refused;
on any other the port check connects while the HTTP check refuses
(`mixed_answer_agrees_iff`).
-/

namespace NetProbeTcpService

open NetProbePyText NetProbeConfig NetProbeSecurity NetProbeHttpService TracedRun

-- ── The world outside ─────────────────────────────────────────────────────────────

/-- `socket.AF_INET`, `socket.AF_INET6` -/
inductive Family where
  | inet
  | inet6
  deriving DecidableEq, Repr

/-- The exceptions of `socket.inet_pton`: the text is no address, or has a null character. -/
inductive PtonError where
  | osError
  | valueError
  deriving DecidableEq, Repr

/-- The exceptions of `loop.getaddrinfo`. -/
inductive ResolveError where
  | gaierror (text : Str)
  | other (name : Str)
  deriving DecidableEq, Repr

/-- The exceptions of `asyncio.open_connection` under its timeout. -/
inductive ConnectError where
  | timeoutError
  | connectionRefusedError
  | osError
  | other (name : Str)
  deriving DecidableEq, Repr

/-- The resolver, the servers, the clock. -/
structure TcpNet where
  /-- `socket.inet_pton(family, host)` -/
  inet_pton : Family → Str → Except PtonError Unit
  /-- the addresses `loop.getaddrinfo(host, None, type=SOCK_STREAM)` answers -/
  getaddrinfo : Str → Except ResolveError (List Str)
  /-- `asyncio.wait_for(asyncio.open_connection(ip, port), timeout)` -/
  open_connection : Str → Int → Except ConnectError Unit
  elapsed_ms : Int

/-- What can be observed of a port check. -/
inductive TcpEvent where
  | lookup (host : Str)
  | accepted (ip : Str)
  | connect (ip : Str) (port : Int)
  deriving DecidableEq, Repr

/-- `PortCheckResult` -/
structure PortCheckResult where
  host : Str
  resolved_ips : List Str
  port : Int
  isOpen : Bool
  result : Str
  connection_time_ms : Option Int
  message : Str
  deriving DecidableEq, Repr

-- ── The program ───────────────────────────────────────────────────────────────────

section Program

open ProbeError

variable (py : Python) (settings : Settings) (net : TcpNet)

/-- `socket_addr_or_none(host)` -/
def socketAddrOrNone (host : Str) : Except ProbeError (Option Str) :=
  match net.inet_pton .inet host with
  | .ok _ => .ok (some host)
  | .error .valueError => .error valueError
  | .error .osError =>
      match net.inet_pton .inet6 host with
      | .ok _ => .ok (some host)
      | .error .valueError => .error valueError
      | .error .osError => .ok none

/-- `_resolve(host)` -/
def resolve (host : Str) : Traced TcpEvent ProbeError (List Str) :=
  match socketAddrOrNone net host with
  | .error e => .raise e
  | .ok (some (c :: cs)) => .ret [c :: cs]
  | .ok _ => do
      .tell [.lookup host]
      match net.getaddrinfo host with
      | .error (.gaierror text) => .raise (dnsFailedError text)
      | .error (.other name) => .raise (otherException name)
      | .ok infos => .ret (sortedSet infos)

/-- The result without an address. -/
def dnsFailed (host : Str) (port : Int) : PortCheckResult where
  host := host
  resolved_ips := []
  port := port
  isOpen := false
  result := str "DNS_FAILED"
  connection_time_ms := none
  message := str "도메인을 IP로 변환하지 못했습니다."

/-- The result of the attempt to connect. -/
def connectionResult (host : Str) (port : Int) (ips : List Str) :
    Except ConnectError Unit → Except ProbeError PortCheckResult
  | .ok _ => .ok ⟨host, ips, port, true, str "OPEN", some net.elapsed_ms,
      host ++ ':' :: (toString port).toList ++ str " 포트가 열려 있습니다."⟩
  | .error .timeoutError => .ok ⟨host, ips, port, false, str "TIMEOUT", none,
      str "제한 시간 내에 응답이 없습니다."⟩
  | .error .connectionRefusedError => .ok ⟨host, ips, port, false, str "REFUSED",
      some net.elapsed_ms, str "대상 서버가 연결을 거부했습니다."⟩
  | .error .osError => .ok ⟨host, ips, port, false, str "BLOCKED", some net.elapsed_ms,
      str "연결이 차단되었거나 네트워크 오류가 발생했습니다."⟩
  | .error (.other name) => .error (otherException name)

/-- The part of `perform_port_check` that has addresses: only the first is checked, and it is
    the one the connection goes to. -/
def connectFirst (host : Str) (port : Int) (target_ip : Str) (ips : List Str) :
    Traced TcpEvent ProbeError PortCheckResult :=
  match assertIpAllowed py settings target_ip with
  | .error e => .raise e
  | .ok _ => do
      .tell [.accepted target_ip, .connect target_ip port]
      .lift (connectionResult net host port ips (net.open_connection target_ip port))

/-- `perform_port_check(host, port, timeout_seconds)` -/
def performPortCheck (host : Str) (port : Int) : Traced TcpEvent ProbeError PortCheckResult :=
  let resolved := resolve net host
  match resolved.outcome with
  | .error (.dnsFailedError _) => ⟨resolved.events, .ok (dnsFailed host port)⟩
  | .error e => ⟨resolved.events, .error e⟩
  | .ok [] => ⟨resolved.events, .ok (dnsFailed host port)⟩
  | .ok (target_ip :: ips) =>
      let rest := connectFirst py settings net host port target_ip (target_ip :: ips)
      ⟨resolved.events ++ rest.events, rest.outcome⟩

end Program

-- ── What a port check does ────────────────────────────────────────────────────────

section Specs

variable {py : Python} {settings : Settings} {net : TcpNet} {host : Str} {port : Int}

theorem resolve_events : ∀ o ∈ (resolve net host).events, o = .lookup host := by
  rw [resolve]
  split
  · exact fun o ho => absurd ho List.not_mem_nil
  · exact fun o ho => absurd ho List.not_mem_nil
  · intro o ho
    cases hres : net.getaddrinfo host with
    | error e => cases e <;> simpa [hres, Traced.raise] using ho
    | ok infos => simpa [hres, Traced.ret] using ho

/-- The addresses are in the order of their texts. -/
theorem resolve_sorted {ips : List Str} (h : (resolve net host).outcome = .ok ips) :
    ips.Pairwise (· ≤ ·) := by
  rw [resolve] at h
  split at h
  · cases h
  · cases h
    exact List.pairwise_singleton _ _
  · cases hres : net.getaddrinfo host with
    | error e => cases e <;> (rw [hres] at h; cases h)
    | ok infos =>
        rw [hres] at h
        cases h
        exact List.pairwise_insertionSort _ _

/-- The attempt to connect never ends in a refusal. -/
theorem connectionResult_not_refused (ips : List Str)
    (answer : Except ConnectError Unit) (m : Str) :
    connectionResult net host port ips answer ≠ .error (.targetNotAllowedError m) := by
  cases answer with
  | ok a => simp [connectionResult]
  | error e => cases e <;> simp [connectionResult]

/-- With addresses, the check turns on the first of them. -/
theorem performPortCheck_resolved {ip : Str} {ips : List Str}
    (h : (resolve net host).outcome = .ok (ip :: ips)) :
    performPortCheck py settings net host port =
      ⟨(resolve net host).events ++ (connectFirst py settings net host port ip (ip :: ips)).events,
        (connectFirst py settings net host port ip (ip :: ips)).outcome⟩ := by
  rw [performPortCheck]
  simp only [h]

/-- The connections of a check with addresses: one to the first address if that is accepted,
    and none if it is refused. -/
theorem connect_mem_iff {ip : Str} {ips : List Str}
    (h : (resolve net host).outcome = .ok (ip :: ips)) {target : Str} {p : Int} :
    .connect target p ∈ (performPortCheck py settings net host port).events ↔
      assertIpAllowed py settings ip = .ok () ∧ target = ip ∧ p = port := by
  have hno : TcpEvent.connect target p ∉ (resolve net host).events := fun hmem =>
    absurd (resolve_events _ hmem) TcpEvent.noConfusion
  rw [performPortCheck_resolved h, List.mem_append]
  rw [connectFirst]
  cases hip : assertIpAllowed py settings ip with
  | error e => simpa [Traced.raise] using hno
  | ok a => simp [Traced.lift, hno]

/-- The computation ends in `TargetNotAllowedError`. -/
def RaisesNotAllowed {ω α : Type} (p : Traced ω ProbeError α) : Prop :=
  ∃ message, p.outcome = .error (.targetNotAllowedError message)

theorem assertIpAllowed_cases (py : Python) (settings : Settings) (ip : Str) :
    assertIpAllowed py settings ip = .ok () ∨
      ∃ message, assertIpAllowed py settings ip = .error (.targetNotAllowedError message) := by
  rw [assertIpAllowed]
  split
  · exact Or.inl rfl
  · split
    · exact Or.inr ⟨_, rfl⟩
    · exact Or.inl rfl

/-- The port check refuses exactly if the first address is refused. -/
theorem performPortCheck_refuses_iff {ip : Str} {ips : List Str}
    (h : (resolve net host).outcome = .ok (ip :: ips)) :
    RaisesNotAllowed (performPortCheck py settings net host port) ↔
      assertIpAllowed py settings ip ≠ .ok () := by
  rw [performPortCheck_resolved h]
  rw [RaisesNotAllowed, connectFirst]
  rcases assertIpAllowed_cases py settings ip with hip | ⟨message, hip⟩
  · rw [hip]
    simp [Traced.lift, connectionResult_not_refused]
  · rw [hip]
    simp [Traced.raise]

end Specs

-- ── The HTTP check on the same answer ─────────────────────────────────────────────

section Agreement

variable {py : Python} {settings : Settings}

/-- The first refused address ends the check of all addresses. -/
theorem assertAllAllowed_refuses_iff (hop : Nat) (ips : List Str) :
    RaisesNotAllowed (assertAllAllowed py settings hop ips) ↔
      ∃ ip ∈ ips, assertIpAllowed py settings ip ≠ .ok () := by
  induction ips with
  | nil => simp [RaisesNotAllowed, assertAllAllowed, Traced.ret]
  | cons ip ips ih =>
      rcases assertIpAllowed_cases py settings ip with hip | ⟨message, hip⟩
      · have hrest : RaisesNotAllowed (assertAllAllowed py settings hop (ip :: ips)) ↔
            RaisesNotAllowed (assertAllAllowed py settings hop ips) := by
          simp only [assertAllAllowed, hip, Traced.bind_eq, Traced.bind_tell, RaisesNotAllowed]
        rw [hrest, ih]
        simp [hip]
      · have hraises : RaisesNotAllowed (assertAllAllowed py settings hop (ip :: ips)) :=
          ⟨message, by simp only [assertAllAllowed, hip]; rfl⟩
        exact iff_of_true hraises ⟨ip, List.mem_cons_self, by simp [hip]⟩

/-- **The HTTP check refuses exactly if any address is refused.** -/
theorem resolveAndValidate_refuses_iff {net : Net} {hop : Nat} {host : Option Str}
    {infos : List Str} (h : net.getaddrinfo hop host = .ok infos) :
    RaisesNotAllowed (resolveAndValidate py settings net hop host) ↔
      ∃ ip ∈ infos, assertIpAllowed py settings ip ≠ .ok () := by
  have hset : (∃ ip ∈ infos, assertIpAllowed py settings ip ≠ .ok ()) ↔
      ∃ ip ∈ sortedSet infos, assertIpAllowed py settings ip ≠ .ok () := by
    simp only [mem_sortedSet]
  rw [hset, ← assertAllAllowed_refuses_iff hop]
  unfold RaisesNotAllowed resolveAndValidate
  simp only [h, Traced.bind_eq, Traced.bind_tell]
  by_cases hempty : sortedSet infos = []
  · rw [if_pos hempty, hempty]
    simp [Traced.raise, assertAllAllowed, Traced.ret]
  · rw [if_neg hempty]
    cases hall : (assertAllAllowed py settings hop (sortedSet infos)).outcome with
    | error e =>
        rw [Traced.bind_of_error hall]
        simp
    | ok a =>
        rw [Traced.bind_of_ok hall]
        simp [Traced.ret]

/-- All addresses are accepted, or the least of them in the order of texts is refused. -/
def Uniform (py : Python) (settings : Settings) (ips : List Str) : Prop :=
  (∀ ip ∈ ips, assertIpAllowed py settings ip = .ok ()) ∨
    ∃ least ∈ ips, (∀ ip ∈ ips, least ≤ ip) ∧ assertIpAllowed py settings least ≠ .ok ()

/-- In a sorted answer the least address is the first. -/
theorem uniform_cons {ip : Str} {ips : List Str} (h : (ip :: ips).Pairwise (· ≤ ·)) :
    Uniform py settings (ip :: ips) ↔
      (∀ a ∈ ip :: ips, assertIpAllowed py settings a = .ok ()) ∨
        assertIpAllowed py settings ip ≠ .ok () := by
  have hfirst : ∀ a ∈ ip :: ips, ip ≤ a := by
    intro a ha
    rcases List.mem_cons.mp ha with rfl | ha
    · exact le_rfl
    · exact (List.pairwise_cons.mp h).1 a ha
  constructor
  · rintro (hall | ⟨least, hmem, hleast, hrefused⟩)
    · exact Or.inl hall
    · rw [le_antisymm (hleast ip List.mem_cons_self) (hfirst least hmem)] at hrefused
      exact Or.inr hrefused
  · rintro (hall | hrefused)
    · exact Or.inl hall
    · exact Or.inr ⟨ip, List.mem_cons_self, hfirst, hrefused⟩

/-- **When the two services agree.**  For a host that resolves to some addresses, the port check
    connects only with all of them accepted, and then to one of them, exactly if they are uniform;
    and so it refuses exactly when the HTTP check refuses the same answer. -/
theorem mixed_answer_agrees_iff {net : TcpNet} {host : Str} (port : Int) {ips : List Str}
    (hresolved : (resolve net host).outcome = .ok ips) (hne : ips ≠ []) :
    ((∀ target p, .connect target p ∈ (performPortCheck py settings net host port).events →
        (∀ ip ∈ ips, assertIpAllowed py settings ip = .ok ()) ∧ target ∈ ips) ↔
      Uniform py settings ips) ∧
    ∀ (httpNet : Net) (hop : Nat) (infos : List Str),
      httpNet.getaddrinfo hop (some host) = .ok infos → (∀ ip, ip ∈ infos ↔ ip ∈ ips) →
        ((RaisesNotAllowed (performPortCheck py settings net host port) ↔
            RaisesNotAllowed (resolveAndValidate py settings httpNet hop (some host))) ↔
          Uniform py settings ips) := by
  obtain ⟨ip, rest, rfl⟩ := List.exists_cons_of_ne_nil hne
  rw [uniform_cons (resolve_sorted hresolved)]
  constructor
  · simp only [connect_mem_iff hresolved]
    constructor
    · intro hconnects
      by_cases hip : assertIpAllowed py settings ip = .ok ()
      · exact Or.inl (hconnects ip port ⟨hip, rfl, rfl⟩).1
      · exact Or.inr hip
    · rintro (hall | hrefused) target p ⟨hip, rfl, rfl⟩
      · exact ⟨hall, List.mem_cons_self⟩
      · exact absurd hip hrefused
  · intro httpNet hop infos hinfos hsame
    rw [performPortCheck_refuses_iff hresolved, resolveAndValidate_refuses_iff hinfos]
    simp only [hsame]
    constructor
    · intro hiff
      by_cases hip : assertIpAllowed py settings ip = .ok ()
      · refine Or.inl fun a ha => ?_
        by_contra hbad
        exact hiff.mpr ⟨a, ha, hbad⟩ hip
      · exact Or.inr hip
    · rintro (hall | hrefused)
      · constructor
        · exact fun hbad => absurd (hall ip List.mem_cons_self) hbad
        · rintro ⟨a, ha, hbad⟩
          exact absurd (hall a ha) hbad
      · exact iff_of_true hrefused ⟨ip, List.mem_cons_self, hrefused⟩

end Agreement

/-- A resolver that answers with a public and a private address for every name. -/
def mixedNet : TcpNet where
  inet_pton := fun _ _ => .error .osError
  getaddrinfo := fun _ => .ok [str "10.0.0.5", str "1.1.1.1"]
  open_connection := fun _ _ => .ok ()
  elapsed_ms := 0

/-- The same resolver, as the HTTP check sees it. -/
def mixedHttpNet : Net :=
  { rebindingNet with getaddrinfo := fun _ _ => .ok [str "10.0.0.5", str "1.1.1.1"] }

theorem mixedNet_resolves :
    (resolve mixedNet (str "example.com")).outcome = .ok [str "1.1.1.1", str "10.0.0.5"] := by
  decide +kernel

/-- The general result on that answer: it is not uniform, so the services do not agree on it. -/
theorem mixedNet_disagrees :
    ¬ Uniform .asciiOnly {} [str "1.1.1.1", str "10.0.0.5"] ∧
      ¬ (RaisesNotAllowed (performPortCheck .asciiOnly {} mixedNet (str "example.com") 443) ↔
        RaisesNotAllowed
          (resolveAndValidate .asciiOnly {} mixedHttpNet 0 (some (str "example.com")))) := by
  have hnot : ¬ Uniform .asciiOnly {} [str "1.1.1.1", str "10.0.0.5"] := by
    rw [uniform_cons (resolve_sorted mixedNet_resolves)]
    decide +kernel
  refine ⟨hnot, fun hiff => hnot ?_⟩
  exact ((mixed_answer_agrees_iff 443 mixedNet_resolves (by simp)).2 mixedHttpNet 0
    [str "10.0.0.5", str "1.1.1.1"] rfl (by simp [or_comm])).mp hiff

/-- With private targets refused, the port check opens a connection for a host that also resolves
    to a private address; the HTTP check refuses that host. -/
theorem mixed_answer_connects :
    .connect (str "1.1.1.1") 443 ∈
        (performPortCheck .asciiOnly {} mixedNet (str "example.com") 443).events ∧
      assertIpAllowed .asciiOnly {} (str "10.0.0.5") ≠ .ok () ∧
        (resolveAndValidate .asciiOnly {} mixedHttpNet 0 (some (str "example.com"))).outcome =
          .error (.targetNotAllowedError (str "허용되지 않은 대상 주소입니다: 10.0.0.5")) := by
  refine ⟨?_, by decide +kernel, by decide +kernel⟩
  rw [connect_mem_iff mixedNet_resolves]
  exact ⟨by decide +kernel, rfl, rfl⟩

end NetProbeTcpService
