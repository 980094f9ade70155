import Mathlib.Data.Char
import Mathlib.Data.List.Lex
import Mathlib.Data.List.Sort
import Mathlib.Data.List.Dedup
import NetProbe.TracedProofs
import NetProbe.SecurityProofs

/-!
# The HTTP check and its redirect loop

`perform_http_check` follows redirects by hand: each iteration looks up the host of the
current URL, has every address of the answer accepted, sends one request, and either returns
or takes the `Location` of the response as the next URL, which must pass `validate_url`.

Everything outside the program is the structure `Net`: the answers of the resolver, what the
HTTP client dials when it resolves the host of the URL itself, the responses with their
headers and body chunks, URL joining.  Its functions take the number of the iteration, so
two lookups of one host may answer differently, and the results hold for every `Net`.

`HopAllowed` says which hops pass the checks and `Follows` where the response to one leads;
both speak of the inputs alone.  `Loop` is the loop as a derivation over these two, one rule
for each way an iteration ends, and `checkLoop_loop` says that the program follows it.  What
holds of every derivation is proved by induction on `Loop` in the file on redirect loops.
-/

namespace NetProbeHttpService

open NetProbePyText NetProbeConfig NetProbeUrlSplit NetProbeSecurity TracedRun

-- ── The world outside ─────────────────────────────────────────────────────────────

/-- The exceptions of the HTTP client, as far as the program tells them apart. -/
inductive SendError where
  | connectTimeout
  | readTimeout
  | connectError
  | transportError (text : Str)
  | other (name : Str)
  deriving DecidableEq, Repr

/-- The exceptions of a lookup: `socket.gaierror` and all others. -/
inductive LookupError where
  | gaierror
  | other (name : Str)
  deriving DecidableEq, Repr

/-- A response: status, the headers the program reads, and the lengths of the body chunks as
    they arrive, each of which may fail. -/
structure Response where
  status_code : Int
  reason_phrase : Str
  location : Option Str
  content_length : Option Str
  content_type : Option Str
  server : Option Str
  chunks : List (Except SendError Nat)

/-- `response.is_redirect` -/
def Response.is_redirect (r : Response) : Bool := 300 ≤ r.status_code && r.status_code ≤ 399

/-- The resolver, the client, the servers, the clock; the first argument is the number of the
    loop iteration. -/
structure Net where
  /-- the addresses `loop.getaddrinfo(hostname, None, type=SOCK_STREAM)` answers -/
  getaddrinfo : Nat → Option Str → Except LookupError (List Str)
  /-- `client.build_request(method, url)`, or the exception it raises -/
  build_request : Str → Str → Except Str Unit
  /-- the addresses the client connects to for the request, from its own lookup of the host
      in the URL; none if that lookup fails or a connection is reused -/
  dial : Nat → Str → List Str
  /-- `client.send(request, stream=True)` -/
  send : Nat → Str → Str → Except SendError Response
  /-- `str(httpx.URL(url).join(location))`; `none` is `InvalidURL` -/
  join : Str → Str → Option Str
  elapsed_ms : Int

/-- What can be observed of a check.  `visit` marks the URL an iteration is about, before it
    is validated. -/
inductive Event where
  | visit (hop : Nat) (url : Str)
  | validated (hop : Nat) (url : Str)
  | lookup (hop : Nat) (host : Option Str) (answer : List Str)
  | accepted (hop : Nat) (ip : Str)
  | send (hop : Nat) (url : Str)
  | connect (hop : Nat) (ip : Str)
  deriving DecidableEq, Repr

/-- `HttpCheckResult` -/
structure HttpCheckResult where
  url : Str
  final_url : Str
  reachable : Bool
  status_code : Int
  reason_phrase : Str
  resolved_ip : Option Str
  response_time_ms : Int
  content_length : Option Int
  content_type : Option Str
  server : Option Str
  redirect_count : Nat
  deriving DecidableEq, Repr

-- ── The program ───────────────────────────────────────────────────────────────────

section Program

open ProbeError Event

variable (py : Python) (settings : Settings) (net : Net)

/-- `sorted({...})` -/
def sortedSet (infos : List Str) : List Str := infos.dedup.insertionSort (· ≤ ·)

/-- `for ip in ips: assert_ip_allowed(ip)` -/
def assertAllAllowed (hop : Nat) : List Str → Traced Event ProbeError Unit
  | [] => .ret ()
  | ip :: ips =>
      match assertIpAllowed py settings ip with
      | .error e => .raise e
      | .ok _ => do
          .tell [accepted hop ip]
          assertAllAllowed hop ips

/-- How an absent host name shows in a message. -/
def hostText (hostname : Option Str) : Str := hostname.getD (str "None")

/-- `_resolve_and_validate(hostname)` -/
def resolveAndValidate (hop : Nat) (hostname : Option Str) :
    Traced Event ProbeError (List Str) :=
  let failed := dnsFailedError (str "DNS 조회에 실패했습니다: " ++ hostText hostname)
  match net.getaddrinfo hop hostname with
  | .error .gaierror => .raise failed
  | .error (.other name) => .raise (otherException name)
  | .ok infos => do
      .tell [lookup hop hostname infos]
      let ips := sortedSet infos
      if ips = [] then .raise failed
      else do
        assertAllAllowed py settings hop ips
        .ret ips

/-- The `except` clauses around `client.send`. -/
def sendFailure (current_url : Str) : SendError → ProbeError
  | .connectTimeout => timeoutError (str "연결 시간 초과: " ++ current_url)
  | .readTimeout => timeoutError (str "응답 시간 초과: " ++ current_url)
  | .connectError => connectionRefusedError (str "연결이 거부되었습니다: " ++ current_url)
  | .transportError text => tlsOrTransportError text
  | .other name => otherException name

/-- An exception of the client that no clause maps: it leaves the check as it is. -/
def uncaught : SendError → ProbeError
  | .connectTimeout => otherException (str "ConnectTimeout")
  | .readTimeout => otherException (str "ReadTimeout")
  | .connectError => otherException (str "ConnectError")
  | .transportError _ => otherException (str "TransportError")
  | .other name => otherException name

/-- One iteration up to the response: look up and check the host, build and send the
    request.  The result is the response and `resolved_ip`. -/
def sendHop (method : Str) (hop : Nat) (current_url : Str) :
    Traced Event ProbeError (Response × Option Str) :=
  match urlsplit py current_url with
  | none => .raise valueError
  | some parts => do
      let ips ← resolveAndValidate py settings net hop (hostname py parts)
      match net.build_request method current_url with
      | .error name => .raise (otherException name)
      | .ok _ => do
          .tell (send hop current_url :: (net.dial hop current_url).map (connect hop))
          match net.send hop method current_url with
          | .error e => .raise (sendFailure current_url e)
          | .ok response => .ret (response, ips.head?)

/-- Receive the body up to the limit. -/
def receive (limit : Int) : Int → List (Except SendError Nat) → Except ProbeError Int
  | received, [] => .ok received
  | _, .error e :: _ => .error (uncaught e)
  | received, .ok n :: rest =>
      if limit ≤ received + n then .ok (received + n) else receive limit (received + n) rest

/-- `int(text)` of a text of digits; Python refuses more than 4300 of them. -/
def intOfDigits (text : Str) : Option Int :=
  if 4300 < text.length then none
  else (text.mapM py.decimal).map fun ds => ds.foldl (fun acc d => acc * 10 + (d : Int)) 0

/-- The content length of the result: the header if it is a number, else what was received. -/
def contentLength (header : Option Str) (received : Int) : Except ProbeError (Option Int) :=
  let text := header.getD []
  if text ≠ [] ∧ text.all py.isDigit then
    match intOfDigits py text with
    | some n => .ok (some n)
    | none => .error valueError
  else .ok (if received = 0 then none else some received)

/-- The part of the loop body that builds the result. -/
def finish (url current_url : Str) (redirect_count : Nat) (response : Response)
    (resolved_ip : Option Str) : Except ProbeError HttpCheckResult := do
  let received ← receive settings.max_response_bytes 0 response.chunks
  let content_length ← contentLength py response.content_length received
  return {
    url := url
    final_url := current_url
    reachable := true
    status_code := response.status_code
    reason_phrase := response.reason_phrase
    resolved_ip := resolved_ip
    response_time_ms := net.elapsed_ms
    content_length := content_length
    content_type := response.content_type
    server := response.server
    redirect_count := redirect_count }

/-- The part of the loop body that computes and validates the next URL. -/
def nextUrl (hop : Nat) (current_url location : Str) : Traced Event ProbeError Str :=
  match net.join current_url location with
  | none => .raise (otherException (str "InvalidURL"))
  | some next => do
      .tell [visit hop next]
      let _ ← .lift (validateUrl py next)
      .tell [validated hop next]
      .ret next

/-- `is_redirect`, with the `Location` it goes to. -/
def redirectTarget (follow_redirects : Bool) (redirect_count : Nat) (response : Response) :
    Option Str :=
  if follow_redirects ∧ response.is_redirect ∧ (redirect_count : Int) < settings.max_redirects then
    response.location
  else none

theorem lt_of_redirectTarget {settings : Settings} {follow : Bool} {i : Nat} {r : Response}
    {loc : Str} (h : redirectTarget settings follow i r = some loc) :
    (i : Int) < settings.max_redirects := by
  unfold redirectTarget at h
  split at h
  · rename_i hc
    exact hc.2.2
  · cases h

/-- The `while True` loop.  `redirect_count` is also the number of the iteration. -/
def checkLoop (method : Str) (follow_redirects : Bool) (url : Str) (redirect_count : Nat)
    (current_url : Str) : Traced Event ProbeError HttpCheckResult :=
  (sendHop py settings net method redirect_count current_url).bind fun sent =>
    match _h : redirectTarget settings follow_redirects redirect_count sent.1 with
    | none => .lift (finish py settings net url current_url redirect_count sent.1 sent.2)
    | some location =>
        (nextUrl py net (redirect_count + 1) current_url location).bind fun next =>
          if settings.max_redirects < ((redirect_count + 1 : Nat) : Int) then
            .raise (tooManyRedirectsError (str "리다이렉트 횟수 제한을 초과했습니다."))
          else checkLoop method follow_redirects url (redirect_count + 1) next
termination_by (settings.max_redirects - redirect_count).toNat
decreasing_by
  have := lt_of_redirectTarget _h
  omega

/-- One iteration of the loop, without the proof that it ends. -/
theorem checkLoop_eq (method : Str) (follow_redirects : Bool) (url : Str) (i : Nat)
    (current_url : Str) :
    checkLoop py settings net method follow_redirects url i current_url =
      (sendHop py settings net method i current_url).bind fun sent =>
        (redirectTarget settings follow_redirects i sent.1).elim
          (.lift (finish py settings net url current_url i sent.1 sent.2)) fun location =>
            (nextUrl py net (i + 1) current_url location).bind fun next =>
              if settings.max_redirects < ((i + 1 : Nat) : Int) then
                .raise (tooManyRedirectsError (str "리다이렉트 횟수 제한을 초과했습니다."))
              else checkLoop py settings net method follow_redirects url (i + 1) next := by
  rw [checkLoop]
  refine congrArg (Traced.bind _) (funext fun sent => ?_)
  cases redirectTarget settings follow_redirects i sent.1 with
  | none => rfl
  | some location => rfl

/-- `perform_http_check(url, method, timeout_seconds, follow_redirects)` -/
def performHttpCheck (url method : Str) (follow_redirects : Bool) :
    Traced Event ProbeError HttpCheckResult := do
  .tell [visit 0 url]
  let _ ← .lift (validateUrl py url)
  .tell [validated 0 url]
  checkLoop py settings net method follow_redirects url 0 url

end Program

-- ── Which hops the inputs lead to ─────────────────────────────────────────────────

section Hops

variable (py : Python) (settings : Settings) (net : Net) (method : Str) (follow : Bool)

/-- The host an iteration on the URL looks up. -/
def hopHost (url : Str) : Option Str := (urlsplit py url).bind (hostname py)

/-- The lookup of a host answers with addresses all of which are allowed. -/
structure LookupAllowed (hop : Nat) (host : Option Str) (answer : List Str) : Prop where
  lookup : net.getaddrinfo hop host = .ok answer
  nonempty : answer ≠ []
  accepted : ∀ ip ∈ answer, assertIpAllowed py settings ip = .ok ()

/-- The URL and the lookup of the iteration pass the checks, and the client can build the
    request. -/
structure HopAllowed (hop : Nat) (url : Str) (answer : List Str) : Prop where
  valid : validateUrl py url = .ok url
  resolved : LookupAllowed py settings net hop (hopHost py url) answer
  built : net.build_request method url = .ok ()

/-- The response to an allowed hop sends the check to the next one. -/
structure Follows (hop : Nat) (url next : Str) : Prop where
  allowed : ∃ answer, HopAllowed py settings net method hop url answer
  redirect : ∃ response location, net.send hop method url = .ok response ∧
    redirectTarget settings follow hop response = some location ∧
      net.join url location = some next

/-- The hops that the responses lead to from a given one. -/
inductive Reaches : Nat → Str → Nat → Str → Prop where
  | here (hop : Nat) (url : Str) : Reaches hop url hop url
  | step {hop hop' : Nat} {url next url' : Str} :
      Follows py settings net method follow hop url next →
        Reaches (hop + 1) next hop' url' → Reaches hop url hop' url'

/-- The events of an iteration that gets as far as sending its request. -/
def hopEvents (hop : Nat) (url : Str) (answer : List Str) : List Event :=
  .lookup hop (hopHost py url) answer :: ((sortedSet answer).map (.accepted hop) ++
    .send hop url :: (net.dial hop url).map (.connect hop))

/-- What an iteration that looks up `host` does before it is refused. -/
def CheckEvent (hop : Nat) (host : Option Str) : Event → Prop
  | .lookup i host' answer => i = hop ∧ host' = host ∧ net.getaddrinfo hop host = .ok answer
  | .accepted i _ => i = hop
  | _ => False

/-- The loop from an iteration on, as a derivation: its events and its outcome. -/
inductive Loop (url : Str) : Nat → Str → List Event → Except ProbeError HttpCheckResult → Prop where
  | refused {i : Nat} {u : Str} {events : List Event} {e : ProbeError}
      (hno : ∀ answer, ¬ HopAllowed py settings net method i u answer)
      (hev : ∀ o ∈ events, CheckEvent net i (hopHost py u) o) : Loop url i u events (.error e)
  | failed {i : Nat} {u : Str} {answer : List Str} {e : SendError}
      (hop : HopAllowed py settings net method i u answer)
      (hsend : net.send i method u = .error e) :
      Loop url i u (hopEvents py net i u answer) (.error (sendFailure u e))
  | finished {i : Nat} {u : Str} {answer : List Str} {response : Response}
      (hop : HopAllowed py settings net method i u answer)
      (hsend : net.send i method u = .ok response)
      (hlast : redirectTarget settings follow i response = none) :
      Loop url i u (hopEvents py net i u answer)
        (finish py settings net url u i response (sortedSet answer).head?)
  | unjoined {i : Nat} {u : Str} {answer : List Str} {response : Response} {location : Str}
      {e : ProbeError}
      (hop : HopAllowed py settings net method i u answer)
      (hsend : net.send i method u = .ok response)
      (hloc : redirectTarget settings follow i response = some location)
      (hjoin : net.join u location = none) :
      Loop url i u (hopEvents py net i u answer) (.error e)
  | invalid {i : Nat} {u next : Str} {answer : List Str} {e : ProbeError}
      (hfollow : Follows py settings net method follow i u next)
      (hop : HopAllowed py settings net method i u answer)
      (hbad : validateUrl py next = .error e) :
      Loop url i u (hopEvents py net i u answer ++ [.visit (i + 1) next]) (.error e)
  | followed {i : Nat} {u next : Str} {answer : List Str} {events : List Event}
      {out : Except ProbeError HttpCheckResult}
      (hfollow : Follows py settings net method follow i u next)
      (hop : HopAllowed py settings net method i u answer)
      (hvalid : validateUrl py next = .ok next)
      (hrest : Loop url (i + 1) next events out) :
      Loop url i u
        (hopEvents py net i u answer ++ .visit (i + 1) next ::
          .validated (i + 1) next :: events) out

end Hops

section Specs

variable {py : Python} {settings : Settings} {net : Net} {method : Str} {follow : Bool}

/-- A result describes the iteration that built it. -/
theorem finish_ok {url u : Str} {i : Nat} {response : Response} {ip : Option Str}
    {result : HttpCheckResult} (h : finish py settings net url u i response ip = .ok result) :
    result.url = url ∧ result.final_url = u ∧ result.redirect_count = i := by
  unfold finish at h
  cases hr : receive settings.max_response_bytes 0 response.chunks with
  | error e =>
      rw [hr] at h
      cases h
  | ok received =>
      rw [hr] at h
      cases hc : contentLength py response.content_length received with
      | error e =>
          simp only [bind, Except.bind, hc] at h
          cases h
      | ok length =>
          simp only [bind, Except.bind, hc] at h
          cases h
          exact ⟨rfl, rfl, rfl⟩

theorem mem_sortedSet {infos : List Str} {ip : Str} : ip ∈ sortedSet infos ↔ ip ∈ infos := by
  rw [sortedSet]
  rw [List.mem_insertionSort, List.mem_dedup]

theorem sortedSet_eq_nil {infos : List Str} : sortedSet infos = [] ↔ infos = [] := by
  constructor
  · intro h
    refine List.eq_nil_iff_forall_not_mem.mpr fun ip hip => ?_
    have := mem_sortedSet.mpr hip
    rw [h] at this
    cases this
  · rintro rfl
    rfl

/-- The check of all addresses returns exactly if each is allowed, and has then accepted
    each; otherwise it has accepted some and raises. -/
theorem assertAllAllowed_cases (py : Python) (settings : Settings) (hop : Nat) (ips : List Str) :
    ((∀ ip ∈ ips, assertIpAllowed py settings ip = .ok ()) ∧
      assertAllAllowed py settings hop ips = ⟨ips.map (.accepted hop), .ok ()⟩) ∨
    ((∃ ip ∈ ips, assertIpAllowed py settings ip ≠ .ok ()) ∧ ∃ (some : List Str) (e : ProbeError),
      assertAllAllowed py settings hop ips = ⟨some.map (.accepted hop), .error e⟩) := by
  induction ips with
  | nil => exact Or.inl ⟨by simp, rfl⟩
  | cons ip ips ih =>
      cases hip : assertIpAllowed py settings ip with
      | error e =>
          refine Or.inr ⟨⟨ip, by simp, by rw [hip]; simp⟩, [], e, ?_⟩
          simp only [assertAllAllowed, hip]
          rfl
      | ok a =>
          rcases ih with ⟨hall, heq⟩ | ⟨⟨bad, hbad, hne⟩, some, e, heq⟩
          · refine Or.inl ⟨?_, ?_⟩
            · intro x hx
              rcases List.mem_cons.mp hx with rfl | hx
              · exact hip
              · exact hall x hx
            · simp only [assertAllAllowed, hip, Traced.bind_eq, Traced.bind_tell, heq]
              rfl
          · refine Or.inr ⟨⟨bad, List.mem_cons_of_mem _ hbad, hne⟩, ip :: some, e, ?_⟩
            simp only [assertAllAllowed, hip, Traced.bind_eq, Traced.bind_tell, heq]
            rfl

/-- The lookup of an iteration: its answer is allowed and returned sorted, or it raises. -/
theorem resolveAndValidate_cases (py : Python) (settings : Settings) (net : Net) (hop : Nat)
    (host : Option Str) :
    (∃ answer, LookupAllowed py settings net hop host answer ∧
      resolveAndValidate py settings net hop host =
        ⟨.lookup hop host answer :: (sortedSet answer).map (.accepted hop),
          .ok (sortedSet answer)⟩) ∨
    ((∀ answer, ¬ LookupAllowed py settings net hop host answer) ∧
      ∃ (events : List Event) (e : ProbeError),
        resolveAndValidate py settings net hop host = ⟨events, .error e⟩ ∧
          ∀ o ∈ events, CheckEvent net hop host o) := by
  cases hres : net.getaddrinfo hop host with
  | error le =>
      refine Or.inr ⟨fun answer ha => ?_, [], ?_⟩
      · have := ha.lookup
        rw [hres] at this
        cases this
      · cases le with
        | gaierror =>
            refine ⟨.dnsFailedError (str "DNS 조회에 실패했습니다: " ++ hostText host), ?_, by simp⟩
            simp only [resolveAndValidate, hres]
            rfl
        | other name =>
            refine ⟨.otherException name, ?_, by simp⟩
            simp only [resolveAndValidate, hres]
            rfl
  | ok answer =>
      have hlook : CheckEvent net hop host (.lookup hop host answer) := ⟨rfl, rfl, hres⟩
      have hdet : ∀ answer', LookupAllowed py settings net hop host answer' → answer' = answer := by
        intro answer' ha
        have := ha.lookup
        rw [hres] at this
        exact (Except.ok.inj this).symm
      by_cases hempty : sortedSet answer = []
      · refine Or.inr ⟨fun answer' ha => ?_, [.lookup hop host answer],
          .dnsFailedError (str "DNS 조회에 실패했습니다: " ++ hostText host), ?_, ?_⟩
        · rw [hdet answer' ha] at ha
          exact ha.nonempty (sortedSet_eq_nil.mp hempty)
        · simp only [resolveAndValidate, hres, Traced.bind_eq, Traced.bind_tell, if_pos hempty]
          rfl
        · intro o ho
          rw [List.mem_singleton.mp ho]
          exact hlook
      · rcases assertAllAllowed_cases py settings hop (sortedSet answer) with
          ⟨hall, heq⟩ | ⟨⟨bad, hbad, hne⟩, some, e, heq⟩
        · refine Or.inl ⟨answer, ⟨hres, ?_, ?_⟩, ?_⟩
          · exact fun h => hempty (sortedSet_eq_nil.mpr h)
          · exact fun ip hip => hall ip (mem_sortedSet.mpr hip)
          · simp only [resolveAndValidate, hres, Traced.bind_eq, Traced.bind_tell, if_neg hempty]
            rw [Traced.bind_of_ok (by rw [heq])]
            simp [heq, Traced.ret]
        · refine Or.inr ⟨fun answer' ha => ?_,
            .lookup hop host answer :: some.map (.accepted hop), e, ?_, ?_⟩
          · rw [hdet answer' ha] at ha
            exact hne (ha.accepted bad (mem_sortedSet.mp hbad))
          · simp only [resolveAndValidate, hres, Traced.bind_eq, Traced.bind_tell, if_neg hempty]
            rw [Traced.bind_of_error (by rw [heq])]
            simp [heq]
          · intro o ho
            rcases List.mem_cons.mp ho with rfl | ho
            · exact hlook
            · obtain ⟨ip, -, rfl⟩ := List.mem_map.mp ho
              exact rfl

/-- One iteration up to the response.  Either the hop is allowed, the request is sent and the
    outcome is that of the client; or it is not allowed, nothing is sent and the iteration
    raises. -/
theorem sendHop_cases (py : Python) (settings : Settings) (net : Net) (method : Str) (i : Nat)
    {u : Str} (hvalid : validateUrl py u = .ok u) :
    (∃ answer, HopAllowed py settings net method i u answer ∧
      sendHop py settings net method i u =
        ⟨hopEvents py net i u answer, match net.send i method u with
          | .error e => .error (sendFailure u e)
          | .ok response => .ok (response, (sortedSet answer).head?)⟩) ∨
    ((∀ answer, ¬ HopAllowed py settings net method i u answer) ∧
      ∃ (events : List Event) (e : ProbeError),
        sendHop py settings net method i u = ⟨events, .error e⟩ ∧
          ∀ o ∈ events, CheckEvent net i (hopHost py u) o) := by
  obtain ⟨-, -, -, parts, host, hparts, -, -, -, hhost, -⟩ := validateUrl_ok hvalid
  have hh : hopHost py u = hostname py parts := by
    rw [hopHost]
    rw [hparts]
    rfl
  rw [sendHop]
  simp only [hparts]
  rw [← hh]
  rcases resolveAndValidate_cases py settings net i (hopHost py u) with
    ⟨answer, hallowed, heq⟩ | ⟨hno, events, e, heq, hev⟩
  · rw [Traced.bind_eq, heq, Traced.bind_of_ok rfl]
    cases hbuild : net.build_request method u with
    | error name =>
        refine Or.inr ⟨fun answer' ha => ?_,
          .lookup i (hopHost py u) answer :: (sortedSet answer).map (.accepted i),
          .otherException name, ?_, ?_⟩
        · have := ha.built
          rw [hbuild] at this
          cases this
        · simp only [Traced.raise, List.append_nil]
        · intro o ho
          rcases List.mem_cons.mp ho with rfl | ho
          · exact ⟨rfl, rfl, hallowed.lookup⟩
          · obtain ⟨ip, -, rfl⟩ := List.mem_map.mp ho
            exact rfl
    | ok a =>
        refine Or.inl ⟨answer, ⟨hvalid, hallowed, hbuild⟩, ?_⟩
        cases hsend : net.send i method u with
        | error e => simp [hopEvents, Traced.raise]
        | ok response => simp [hopEvents, Traced.ret]
  · refine Or.inr ⟨fun answer' ha => hno answer' ha.resolved, events, e, ?_, hev⟩
    rw [Traced.bind_eq, heq, Traced.bind_of_error rfl]

/-- The next URL: joined and valid, or the iteration raises, having visited it if it could be
    joined. -/
theorem nextUrl_cases (py : Python) (net : Net) (hop : Nat) (u location : Str) :
    (∃ e, net.join u location = none ∧ nextUrl py net hop u location = ⟨[], .error e⟩) ∨
    (∃ next e, net.join u location = some next ∧ validateUrl py next = .error e ∧
      nextUrl py net hop u location = ⟨[.visit hop next], .error e⟩) ∨
    (∃ next, net.join u location = some next ∧ validateUrl py next = .ok next ∧
      nextUrl py net hop u location = ⟨[.visit hop next, .validated hop next], .ok next⟩) := by
  rw [nextUrl]
  cases hj : net.join u location with
  | none => exact Or.inl ⟨_, rfl, rfl⟩
  | some next =>
      refine Or.inr ?_
      cases hv : validateUrl py next with
      | error e =>
          refine Or.inl ⟨next, e, rfl, hv, ?_⟩
          simp [hv, Traced.raise]
      | ok v =>
          have hvn : v = next := (validateUrl_ok hv).1
          rw [hvn] at hv
          refine Or.inr ⟨next, rfl, hv, ?_⟩
          simp [hv, Traced.ret]

/-- **The loop follows the derivation.** From a valid URL on, the events and the outcome of
    the loop are those of a derivation of `Loop`. -/
theorem checkLoop_loop (url : Str) (i : Nat) (u : Str) (hvalid : validateUrl py u = .ok u) :
    Loop py settings net method follow url i u
      (checkLoop py settings net method follow url i u).events
      (checkLoop py settings net method follow url i u).outcome := by
  -- the redirect budget that is left decreases with every followed redirect
  induction hn : (settings.max_redirects - i).toNat using Nat.strong_induction_on
    generalizing i u with
  | _ n ih =>
      rw [checkLoop]
      rcases sendHop_cases py settings net method i hvalid with
        ⟨answer, hop, heq⟩ | ⟨hno, events, e, heq, hev⟩
      · cases hsend : net.send i method u with
        | error e =>
            rw [hsend] at heq
            rw [heq, Traced.bind_of_error rfl]
            exact .failed hop hsend
        | ok response =>
            rw [hsend] at heq
            rw [heq, Traced.bind_of_ok rfl]
            dsimp only
            split
            · rename_i hlast
              simp only [Traced.lift, List.append_nil]
              exact .finished hop hsend hlast
            · rename_i location hloc
              have hlt := lt_of_redirectTarget hloc
              rcases nextUrl_cases py net (i + 1) u location with
                ⟨e, hj, hnext⟩ | ⟨next, e, hj, hbad, hnext⟩ | ⟨next, hj, hgood, hnext⟩
              · rw [hnext, Traced.bind_of_error rfl]
                simp only [List.append_nil]
                exact .unjoined hop hsend hloc hj
              · rw [hnext, Traced.bind_of_error rfl]
                exact .invalid ⟨⟨answer, hop⟩, response, location, hsend, hloc, hj⟩ hop hbad
              · rw [hnext, Traced.bind_of_ok rfl]
                have hbudget : ¬ settings.max_redirects < ((i + 1 : Nat) : Int) := by omega
                simp only [if_neg hbudget]
                refine .followed ⟨⟨answer, hop⟩, response, location, hsend, hloc, hj⟩ hop hgood ?_
                exact ih _ (by omega) (i + 1) next hgood rfl
      · rw [heq, Traced.bind_of_error rfl]
        exact .refused hno hev

end Specs

end NetProbeHttpService
