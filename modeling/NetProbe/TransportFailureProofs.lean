import Mathlib.Algebra.GroupWithZero.Nat
import NetProbe.ProbeHandlersProofs
import NetProbe.PortPolicyProofs
import NetProbe.RedirectBudgetProofs

/-!
# How failures of the transport are answered

A failure has a cause and happens at a stage of one hop.  The HTTP client turns the cause into
an exception (`raised`): a timeout of one of its four kinds, `ConnectError` for a connection
that is refused or not possible and for a failed TLS handshake, another `TransportError`
otherwise.  Up to the response headers it is raised by `client.send`, inside the first `try`;
while the body is read it is raised by the iteration over the chunks, outside of it.

`classified_iff` follows every pair of cause and stage, on every hop that the redirects lead
to, through both layers of `except` clauses to the code of the answer.
-/

namespace NetProbeTransportFailure

open NetProbePyText NetProbeConfig NetProbeUrlSplit NetProbeSecurity NetProbeHttpService
open NetProbeRedirectBudget NetProbeCoreAuth NetProbePersistence NetProbeProbeHandlers
open NetProbePortPolicy

-- ── Causes and stages ─────────────────────────────────────────────────────────────

/-- What a timeout of the client is about. -/
inductive Phase where
  | connect
  | read
  | write
  | pool
  deriving DecidableEq, Repr

/-- Why the transport fails. -/
inductive Cause where
  | timeout (phase : Phase)
  | refused
  | unreachable
  | tls
  | other
  deriving DecidableEq, Repr

/-- Where in a hop it fails; `chunk k` is the chunk of the body after the first `k`. -/
inductive Stage where
  | connecting
  | handshake
  | sending
  | headers
  | chunk (k : Nat)
  deriving DecidableEq, Repr

/-- The exception the client raises, as the `except` clauses around `client.send` tell it
    apart; `text` is its message. -/
def raised (text : Str) : Cause → SendError
  | .timeout .connect => .connectTimeout
  | .timeout .read => .readTimeout
  | .timeout .write => .transportError text
  | .timeout .pool => .transportError text
  | .refused => .connectError
  | .unreachable => .connectError
  | .tls => .connectError
  | .other => .transportError text

/-- The body of the response fails at the chunk after the first `k`, before the size limit has
    stopped the reading. -/
def BodyFails (limit : Int) (response : Response) (k : Nat) (e : SendError) : Prop :=
  ∃ (sizes : List Nat) (rest : List (Except SendError Nat)), sizes.length = k ∧
    response.chunks = sizes.map .ok ++ .error e :: rest ∧ (sizes = [] ∨ (sizes.sum : Int) < limit)

section Failures

variable (settings : Settings) (net : Net) (method : Str) (follow : Bool)

/-- The transport of a hop fails at a stage, for a cause.  A body is read only of a response
    that is not followed. -/
def FailsAt (i : Nat) (u : Str) (text : Str) (cause : Cause) : Stage → Prop
  | .chunk k => ∃ response, net.send i method u = .ok response ∧
      redirectTarget settings follow i response = none ∧
        BodyFails settings.max_response_bytes response k (raised text cause)
  | _ => net.send i method u = .error (raised text cause)

/-- The answer that the cause asks for. -/
def Classified (answer : Answer) : Cause → Prop
  | .timeout _ => answer.code = str "CONNECTION_TIMEOUT" ∧ answer.status_code = 200
  | .refused => answer.code = str "CONNECTION_REFUSED" ∧ answer.status_code = 200
  | .tls => answer.code = str "TLS_ERROR" ∧ answer.status_code = 200
  | .unreachable => answer.code ≠ str "INTERNAL_SERVER_ERROR"
  | .other => answer.code ≠ str "INTERNAL_SERVER_ERROR"

/-- The failure comes before the body and is neither a write or pool timeout nor one of TLS. -/
def Mapped (stage : Stage) (cause : Cause) : Prop :=
  (∀ k, stage ≠ .chunk k) ∧ cause ≠ .timeout .write ∧ cause ≠ .timeout .pool ∧ cause ≠ .tls

/-- The exception of the client as it leaves the check: mapped around `client.send`, as it is
    while the body is read. -/
def escaping (u : Str) (e : SendError) : Stage → ProbeError
  | .chunk _ => uncaught e
  | _ => sendFailure u e

variable {settings net method follow}

theorem escaping_before_body {stage : Stage} (h : ∀ k, stage ≠ .chunk k) (u : Str) (e : SendError) :
    escaping u e stage = sendFailure u e := by
  cases stage with
  | chunk k => exact absurd rfl (h k)
  | connecting => rfl
  | handshake => rfl
  | sending => rfl
  | headers => rfl

/-- A chunk that fails ends the reading with an exception that nothing maps. -/
theorem receive_failed {limit : Int} {e : SendError} {rest : List (Except SendError Nat)}
    (sizes : List Nat) (received : Int) (h : sizes = [] ∨ received + (sizes.sum : Int) < limit) :
    receive limit received (sizes.map .ok ++ .error e :: rest) = .error (uncaught e) := by
  induction sizes generalizing received with
  | nil => rfl
  | cons n sizes ih =>
      have hsum : received + ((n + sizes.sum : Nat) : Int) < limit := by
        rcases h with h | h
        · cases h
        · rw [List.sum_cons] at h
          exact h
      have hgo : ¬ limit ≤ received + (n : Int) := by omega
      rw [List.map_cons, List.cons_append]
      rw [receive]
      rw [if_neg hgo]
      apply ih
      right
      omega

end Failures

section Answers

variable {py : Python} {settings : Settings} {crypto : Crypto}

/-- The answer of the handler to a check that ends in an exception, when its URL is valid. -/
theorem respond_of_error {c : HttpCall} {e : ProbeError}
    (hvalid : validateUrl py c.payload.url = .ok c.payload.url)
    (hout : checkOutcome py settings c = .error e) :
    respond (httpCheck py settings crypto c).outcome = failureOf e := by
  obtain ⟨-, -, -, parts, host, hparts, -⟩ := validateUrl_ok hvalid
  have hlog : loggable py (.http c.payload none) = true := by
    rw [@loggable_iff py settings (.http c.payload none) trivial]
    rintro payload data ⟨⟩
    rw [hparts]
    exact Option.some_ne_none parts
  rw [httpCheck_outcome, hout]
  dsimp only
  rw [hlog, if_pos rfl]
  rfl

/-- How the check ends when the transport of a hop fails. -/
theorem outcome_of_failure {c : HttpCall} {i : Nat} {u text : Str} {cause : Cause} {stage : Stage}
    (hreach : Reaches py settings c.net c.payload.method c.payload.follow_redirects 0
      c.payload.url i u)
    (hop : ∃ answer, HopAllowed py settings c.net c.payload.method i u answer)
    (hfail : FailsAt settings c.net c.payload.method c.payload.follow_redirects i u text cause
      stage) :
    checkOutcome py settings c = .error (escaping u (raised text cause) stage) := by
  obtain ⟨answer, hop⟩ := hop
  have hsame : checkOutcome py settings c = (checkLoop py settings c.net c.payload.method
      c.payload.follow_redirects c.payload.url i u).outcome :=
    performHttpCheck_of_reaches hreach hop.valid
  rw [hsame]
  cases stage with
  | chunk k =>
      obtain ⟨response, hsend, hlast, sizes, rest, -, hchunks, hlimit⟩ := hfail
      have hout : (checkLoop py settings c.net c.payload.method
          c.payload.follow_redirects c.payload.url i u).outcome =
            finish py settings c.net c.payload.url u i response (sortedSet answer).head? :=
        checkLoop_finished hop hsend hlast
      have hreceive : receive settings.max_response_bytes 0 response.chunks =
          .error (uncaught (raised text cause)) := by
        rw [hchunks]
        exact receive_failed sizes 0 (by simpa using hlimit)
      rw [hout]
      unfold finish
      rw [hreceive]
      rfl
  | connecting => exact checkLoop_failed hop hfail
  | handshake => exact checkLoop_failed hop hfail
  | sending => exact checkLoop_failed hop hfail
  | headers => exact checkLoop_failed hop hfail

/-- A failure of the body is answered with `INTERNAL_SERVER_ERROR`. -/
theorem failureOf_uncaught (e : SendError) :
    (failureOf (uncaught e)).code = str "INTERNAL_SERVER_ERROR" := by
  cases e with
  | connectTimeout => rfl
  | readTimeout => rfl
  | connectError => rfl
  | transportError text => rfl
  | other name => rfl

theorem not_classified_internal {answer : Answer} (h : answer.code = str "INTERNAL_SERVER_ERROR")
    (cause : Cause) : ¬ Classified answer cause := by
  cases cause with
  | timeout phase =>
      rintro ⟨hcode, -⟩
      rw [h] at hcode
      exact absurd hcode (by decide)
  | refused =>
      rintro ⟨hcode, -⟩
      rw [h] at hcode
      exact absurd hcode (by decide)
  | tls =>
      rintro ⟨hcode, -⟩
      rw [h] at hcode
      exact absurd hcode (by decide)
  | unreachable => exact fun hne => hne h
  | other => exact fun hne => hne h

/-- The clauses around `client.send` and those of the handler, composed. -/
theorem classified_send (u text : Str) (cause : Cause) :
    Classified (failureOf (sendFailure u (raised text cause))) cause ↔
      cause ≠ .timeout .write ∧ cause ≠ .timeout .pool ∧ cause ≠ .tls := by
  cases cause with
  | timeout phase =>
      cases phase with
      | connect => exact ⟨fun _ => ⟨by decide, by decide, by decide⟩, fun _ => ⟨rfl, rfl⟩⟩
      | read => exact ⟨fun _ => ⟨by decide, by decide, by decide⟩, fun _ => ⟨rfl, rfl⟩⟩
      | write =>
          have hcode : str "TLS_ERROR" ≠ str "CONNECTION_TIMEOUT" := by decide
          exact ⟨fun h => absurd h.1 hcode, fun h => absurd rfl h.1⟩
      | pool =>
          have hcode : str "TLS_ERROR" ≠ str "CONNECTION_TIMEOUT" := by decide
          exact ⟨fun h => absurd h.1 hcode, fun h => absurd rfl h.2.1⟩
  | refused => exact ⟨fun _ => ⟨by decide, by decide, by decide⟩, fun _ => ⟨rfl, rfl⟩⟩
  | unreachable =>
      refine ⟨fun _ => ⟨by decide, by decide, by decide⟩, fun _ => ?_⟩
      show str "CONNECTION_REFUSED" ≠ str "INTERNAL_SERVER_ERROR"
      decide
  | tls =>
      have hcode : str "CONNECTION_REFUSED" ≠ str "TLS_ERROR" := by decide
      exact ⟨fun h => absurd h.1 hcode, fun h => absurd rfl h.2.2⟩
  | other =>
      refine ⟨fun _ => ⟨by decide, by decide, by decide⟩, fun _ => ?_⟩
      show str "TLS_ERROR" ≠ str "INTERNAL_SERVER_ERROR"
      decide

/-- **Which failures are classified by their cause.** On every hop that the redirects lead to:
    those before the body that are neither write nor pool timeouts nor failures of TLS. -/
theorem classified_iff (c : HttpCall) (i : Nat) (u text : Str) (cause : Cause) (stage : Stage)
    (hreach : Reaches py settings c.net c.payload.method c.payload.follow_redirects 0
      c.payload.url i u)
    (hop : ∃ answer, HopAllowed py settings c.net c.payload.method i u answer)
    (hfail : FailsAt settings c.net c.payload.method c.payload.follow_redirects i u text cause
      stage) :
    Classified (respond (httpCheck py settings crypto c).outcome) cause ↔ Mapped stage cause := by
  have hvalid : validateUrl py c.payload.url = .ok c.payload.url := by
    obtain ⟨answer, hop⟩ := hop
    exact valid_of_reaches hreach hop.valid
  rw [respond_of_error hvalid (outcome_of_failure hreach hop hfail)]
  rw [Mapped]
  by_cases hbody : ∃ k, stage = .chunk k
  · obtain ⟨k, rfl⟩ := hbody
    refine iff_of_false (not_classified_internal (failureOf_uncaught _) cause) ?_
    exact fun h => h.1 k rfl
  · have hstage : ∀ k, stage ≠ .chunk k := fun k hk => hbody ⟨k, hk⟩
    rw [escaping_before_body hstage, classified_send]
    exact (and_iff_right hstage).symm

end Answers

/-- A request whose transport fails as given. -/
def failingCall (e : SendError) : HttpCall :=
  { publicCall (str "https://example.com/") (by decide) with
    net := { publicNet with send := fun _ _ _ => .error e } }

theorem failing_allowed (e : SendError) :
    HopAllowed .asciiOnly {} (failingCall e).net (str "GET") 0 (str "https://example.com/")
      [str "93.184.216.34"] := by
  refine ⟨by decide +kernel, ⟨rfl, by decide, ?_⟩, rfl⟩
  intro ip hip
  rw [List.mem_singleton.mp hip]
  decide +kernel

/-- **A failure that is not classified.** A TLS handshake that fails is answered with
    `CONNECTION_REFUSED`. -/
theorem tls_answered_refused :
    ¬ ∀ (py : Python) (settings : Settings) (crypto : Crypto) (c : HttpCall)
      (i : Nat) (u text : Str)
        (cause : Cause) (stage : Stage),
        Reaches py settings c.net c.payload.method c.payload.follow_redirects 0 c.payload.url i u →
          (∃ answer, HopAllowed py settings c.net c.payload.method i u answer) →
            FailsAt settings c.net c.payload.method c.payload.follow_redirects i u
              text cause stage →
              Classified (respond (httpCheck py settings crypto c).outcome) cause := by
  intro hclaim
  have hallowed := failing_allowed .connectError
  have hclass := hclaim .asciiOnly {} .plain (failingCall .connectError) 0
    (str "https://example.com/") [] .tls .handshake (.here _ _) ⟨_, hallowed⟩ rfl
  have hout : checkOutcome .asciiOnly {} (failingCall .connectError) =
      .error (escaping (str "https://example.com/") .connectError .handshake) :=
    @outcome_of_failure .asciiOnly {} (failingCall .connectError) 0 (str "https://example.com/") []
      .tls .handshake (.here _ _) ⟨_, hallowed⟩ rfl
  rw [respond_of_error hallowed.valid hout] at hclass
  exact absurd hclass.1 (by decide)

/-- The general result on a refused connection. -/
theorem refused_answered_refused :
    Classified (respond (httpCheck .asciiOnly {} .plain (failingCall .connectError)).outcome)
      .refused :=
  (classified_iff (failingCall .connectError) 0 (str "https://example.com/") [] .refused .connecting
    (.here _ _) ⟨_, failing_allowed .connectError⟩ rfl).mpr
      ⟨fun k => Stage.noConfusion, by decide, by decide, by decide⟩

end NetProbeTransportFailure
