import NetProbe.RedirectBudgetProofs
import NetProbe.ValidatorGrammarProofs
import NetProbe.PortPolicyProofs

/-!
# The schemes along a chain of redirects

`validate_url` sees the URL of one hop and accepts `http` and `https` alike, so what it
refuses of a redirect from `https` to `http` is decided by the rest of the URL.
`never_downgrades_iff` says which chains stay secure: those on which no such redirect leads to
a URL that validates.

One direction reads the scheme along the derivation of the loop
(`Loop.https`, `Loop.schemes`).  The other needs that an iteration on a valid URL never ends in
a `ValidationError` of its own (`sendHop_not_validation`): such a check is ended by a later
URL, after the request to the plain one, or not by validation at all.
-/

namespace NetProbeRedirectScheme

open NetProbePyText NetProbeConfig NetProbeUrlSplit NetProbeSecurity NetProbeHttpService
open NetProbeTcpService NetProbeRedirectBudget NetProbeValidatorGrammar NetProbePortPolicy TracedRun

/-- The scheme of a URL. -/
def schemeIs (py : Python) (scheme : String) (url : Str) : Prop :=
  ∃ parts, urlsplit py url = some parts ∧ parts.scheme = str scheme

section Schemes

variable {py : Python} {settings : Settings} {net : Net} {method url : Str} {follow : Bool}
  {i j : Nat} {u v w : Str} {events : List Event} {out : Except ProbeError HttpCheckResult}

/-- A valid URL has one of the two schemes. -/
theorem scheme_of_valid (h : validateUrl py u = .ok u) :
    schemeIs py "http" u ∨ schemeIs py "https" u := by
  obtain ⟨-, -, -, parts, host, hparts, hscheme, -⟩ := validateUrl_ok h
  rcases hscheme with hs | hs
  · exact Or.inl ⟨parts, hparts, hs⟩
  · exact Or.inr ⟨parts, hparts, hs⟩

/-- An `http` URL validates or is refused by validation. -/
theorem validateUrl_of_http (h : schemeIs py "http" u) :
    validateUrl py u = .ok u ∨ ∃ m, validateUrl py u = .error (.validationError m) := by
  obtain ⟨parts, hparts, hs⟩ := h
  cases hv : validateUrl py u with
  | ok w => exact Or.inl (by rw [(validateUrl_ok hv).1])
  | error e =>
      right
      rw [validateUrl] at hv
      split at hv
      · exact ⟨_, by rw [(Except.error.inj hv).symm]⟩
      · rw [hparts] at hv
        dsimp only at hv
        split at hv
        · exact ⟨_, by rw [(Except.error.inj hv).symm]⟩
        · split at hv
          · exact ⟨_, by rw [(Except.error.inj hv).symm]⟩
          · split at hv
            · exact ⟨_, by rw [(Except.error.inj hv).symm]⟩
            · split at hv
              · rename_i e' he'
                obtain ⟨m, rfl⟩ := validateHost_error he'
                exact ⟨m, by rw [(Except.error.inj hv).symm]⟩
              · cases hv

-- ── Positions in a chain ──────────────────────────────────────────────────────────

theorem Reaches.le (h : Reaches py settings net method follow i u j v) : i ≤ j := by
  induction h with
  | here => exact Nat.le_refl _
  | step _ _ ih => exact Nat.le_of_succ_le ih

/-- Of two hops of one chain the later is reached from the earlier. -/
theorem Reaches.between {a : Nat} {x : Str} (h : Reaches py settings net method follow a x i u)
    (h' : Reaches py settings net method follow a x j v) (hij : i ≤ j) :
    Reaches py settings net method follow i u j v := by
  induction h with
  | here => exact h'
  | step hfollow hrest ih =>
      cases h' with
      | here =>
          have := Reaches.le hrest
          omega
      | step hfollow' hrest' =>
          have hnext := hfollow.det hfollow'
          subst hnext
          exact ih hrest' hij

/-- The hop after one that is followed is where the redirect leads. -/
theorem Reaches.next (h : Reaches py settings net method follow 0 url i u)
    (hfollow : Follows py settings net method follow i u v)
    (h' : Reaches py settings net method follow 0 url (i + 1) w) : w = v := by
  have hstep := Reaches.between h h' (Nat.le_succ i)
  cases hstep with
  | step hfollow' hrest =>
      have hnext := hfollow.det hfollow'
      subst hnext
      cases hrest with
      | here => rfl
      | step _ hrest' =>
          have := Reaches.le hrest'
          omega

-- ── The iterations never raise ValidationError ────────────────────────────────────

theorem assertAllAllowed_not_validation (hop : Nat) (ips : List Str) (m : Str) :
    (assertAllAllowed py settings hop ips).outcome ≠ .error (.validationError m) := by
  induction ips with
  | nil =>
      intro h
      cases h
  | cons ip ips ih =>
      rw [assertAllAllowed]
      rcases assertIpAllowed_cases py settings ip with hok | ⟨message, hbad⟩
      · rw [hok]
        simp only [Traced.bind_eq, Traced.bind_tell]
        exact ih
      · rw [hbad]
        intro h
        cases h

theorem resolve_not_validation (hop : Nat) (host : Option Str) (m : Str) :
    (resolveAndValidate py settings net hop host).outcome ≠ .error (.validationError m) := by
  rw [resolveAndValidate]
  cases net.getaddrinfo hop host with
  | error le =>
      cases le with
      | gaierror =>
          intro h
          cases h
      | other name =>
          intro h
          cases h
  | ok infos =>
      simp only [Traced.bind_eq, Traced.bind_tell]
      split
      · intro h
        cases h
      · intro he
        cases hall : (assertAllAllowed py settings hop (sortedSet infos)).outcome with
        | error e =>
            rw [Traced.bind_of_error hall] at he
            rw [Except.error.inj he] at hall
            exact assertAllAllowed_not_validation hop (sortedSet infos) m hall
        | ok a =>
            rw [Traced.bind_of_ok hall] at he
            cases he

/-- The `except` clauses around `client.send` raise no `ValidationError`. -/
theorem sendFailure_not_validation (e : SendError) (m : Str) :
    sendFailure u e ≠ .validationError m := by
  intro h
  cases e with
  | connectTimeout | readTimeout | connectError => cases h
  | transportError text => cases h
  | other name => cases h

theorem sendHop_not_validation (m : Str) :
    (sendHop py settings net method i u).outcome ≠ .error (.validationError m) := by
  rw [sendHop]
  cases urlsplit py u with
  | none =>
      intro h
      cases h
  | some parts =>
      dsimp only
      rw [Traced.bind_eq]
      cases hres : (resolveAndValidate py settings net i (hostname py parts)).outcome with
      | error e =>
          rw [Traced.bind_of_error hres]
          intro he
          rw [Except.error.inj he] at hres
          exact resolve_not_validation i (hostname py parts) m hres
      | ok ips =>
          rw [Traced.bind_of_ok hres]
          cases net.build_request method u with
          | error name =>
              intro h
              cases h
          | ok a =>
              simp only [Traced.bind_eq, Traced.bind_tell]
              cases net.send i method u with
              | error e =>
                  intro h
                  exact sendFailure_not_validation e m (Except.error.inj h)
              | ok response =>
                  intro h
                  cases h

/-- A valid hop that is not allowed does not end the check by validation. -/
theorem checkLoop_refused (hvalid : validateUrl py u = .ok u)
    (hno : ∀ answer, ¬ HopAllowed py settings net method i u answer) (m : Str) :
    (checkLoop py settings net method follow url i u).outcome ≠ .error (.validationError m) := by
  rcases sendHop_cases py settings net method i hvalid with
    ⟨answer, hop, -⟩ | ⟨-, events, e, heq, -⟩
  · exact absurd hop (hno answer)
  · have hout : (sendHop py settings net method i u).outcome = .error e := by rw [heq]
    rw [checkLoop_eq, Traced.bind_of_error hout]
    intro he
    rw [Except.error.inj he] at hout
    exact sendHop_not_validation m hout

-- ── Chains that stay secure ───────────────────────────────────────────────────────

/-- No redirect of a hop reached over `https` leads to an `http` URL that validates. -/
def NoPlainTurn (py : Python) (settings : Settings) (net : Net) (method : Str) (follow : Bool)
    (i : Nat) (u : Str) : Prop :=
  ∀ j v w, Reaches py settings net method follow i u j v → schemeIs py "https" v →
    Follows py settings net method follow j v w → schemeIs py "http" w →
      ∃ m, validateUrl py w = .error (.validationError m)

/-- Redirects never downgrade: after a request to an `https` URL every request goes to one, and
    a redirect from `https` to `http` ends the check by validation, with nothing sent to it. -/
structure NeverDowngrades (py : Python) (settings : Settings) (net : Net) (url method : Str)
    (follow : Bool) : Prop where
  secure : (sends (performHttpCheck py settings net url method follow).events).Pairwise
    fun u v => schemeIs py "https" u → schemeIs py "https" v
  ended : ∀ i u v, .send i u ∈ (performHttpCheck py settings net url method follow).events →
    schemeIs py "https" u → Follows py settings net method follow i u v → schemeIs py "http" v →
      (∃ m, (performHttpCheck py settings net url method follow).outcome =
        .error (.validationError m)) ∧
      ∀ w, .send (i + 1) w ∉ (performHttpCheck py settings net url method follow).events

theorem NoPlainTurn.next (h : NoPlainTurn py settings net method follow i u)
    (hfollow : Follows py settings net method follow i u v) :
    NoPlainTurn py settings net method follow (i + 1) v :=
  fun j w x hreach => h j w x (.step hfollow hreach)

/-- From a secure hop a redirect to a valid URL leads to a secure one. -/
theorem NoPlainTurn.https (h : NoPlainTurn py settings net method follow i u)
    (hs : schemeIs py "https" u) (hfollow : Follows py settings net method follow i u v)
    (hvalid : validateUrl py v = .ok v) : schemeIs py "https" v := by
  rcases scheme_of_valid hvalid with hv | hv
  · obtain ⟨m, hbad⟩ := h i u v (.here i u) hs hfollow hv
    rw [hvalid] at hbad
    cases hbad
  · exact hv

/-- **From a secure hop on.** Every request of a chain without a plain turn is secure. -/
theorem Loop.https (h : Loop py settings net method follow url i u events out)
    (hturn : NoPlainTurn py settings net method follow i u) (hs : schemeIs py "https" u) :
    ∀ v ∈ sends events, schemeIs py "https" v := by
  induction h with
  | refused hno hev =>
      rw [sends_of_check hev]
      exact fun v hv => (nomatch hv)
  | failed hop hsend =>
      rw [sends_hopEvents]
      exact fun v hv => List.mem_singleton.mp hv ▸ hs
  | finished hop hsend hlast =>
      rw [sends_hopEvents]
      exact fun v hv => List.mem_singleton.mp hv ▸ hs
  | unjoined hop hsend hloc hjoin =>
      rw [sends_hopEvents]
      exact fun v hv => List.mem_singleton.mp hv ▸ hs
  | invalid hfollow hop hbad =>
      rw [sends_append, sends_hopEvents]
      exact fun v hv => List.mem_singleton.mp hv ▸ hs
  | @followed i u next answer events out hfollow hop hvalid hrest ih =>
      rw [sends_append, sends_hopEvents]
      intro v hv
      rcases List.mem_append.mp hv with hv | hv
      · exact List.mem_singleton.mp hv ▸ hs
      · exact ih (hturn.next hfollow) (hturn.https hs hfollow hvalid) v hv

/-- A chain without a plain turn never goes back from `https`. -/
theorem Loop.schemes (h : Loop py settings net method follow url i u events out)
    (hturn : NoPlainTurn py settings net method follow i u) :
    (sends events).Pairwise fun v w => schemeIs py "https" v → schemeIs py "https" w := by
  induction h with
  | refused hno hev =>
      rw [sends_of_check hev]
      exact List.Pairwise.nil
  | failed hop hsend =>
      rw [sends_hopEvents]
      exact List.pairwise_singleton _ _
  | finished hop hsend hlast =>
      rw [sends_hopEvents]
      exact List.pairwise_singleton _ _
  | unjoined hop hsend hloc hjoin =>
      rw [sends_hopEvents]
      exact List.pairwise_singleton _ _
  | invalid hfollow hop hbad =>
      rw [sends_append, sends_hopEvents]
      exact List.pairwise_singleton _ _
  | @followed i u next answer events out hfollow hop hvalid hrest ih =>
      rw [sends_append, sends_hopEvents]
      refine List.pairwise_cons.mpr ⟨fun v hv hs => ?_, ih (hturn.next hfollow)⟩
      exact Loop.https hrest (hturn.next hfollow) (hturn.https hs hfollow hvalid) v hv

/-- **Which checks never downgrade.** Exactly those on whose chain no redirect from `https`
    leads to an `http` URL that validates. -/
theorem never_downgrades_iff (py : Python) (settings : Settings) (net : Net) (url method : Str)
    (follow : Bool) :
    NeverDowngrades py settings net url method follow ↔
      NoPlainTurn py settings net method follow 0 url := by
  constructor
  · intro h j v w hreach hs hfollow hplain
    rcases validateUrl_of_http hplain with hvalid | hbad
    · obtain ⟨answer, hop⟩ := hfollow.allowed
      have hsent : .send j v ∈ (performHttpCheck py settings net url method follow).events :=
        send_iff.mpr ⟨hreach, answer, hop⟩
      obtain ⟨⟨m, hout⟩, hnone⟩ := h.ended j v w hsent hs hfollow hplain
      have hreach' := Reaches.snoc hreach hfollow
      by_cases hallowed : ∃ answer, HopAllowed py settings net method (j + 1) w answer
      · exact absurd (send_iff.mpr ⟨hreach', hallowed⟩) (hnone w)
      · rw [performHttpCheck_of_reaches hreach' hvalid] at hout
        exact absurd hout (checkLoop_refused hvalid (fun a ha => hallowed ⟨a, ha⟩) m)
    · exact hbad
  · intro hturn
    constructor
    · rcases performHttpCheck_cases py settings net url method follow with
        ⟨e, hbad, -⟩ | ⟨-, events, out, hloop, heq⟩
      · rw [(performHttpCheck_refused hbad).1]
        exact List.Pairwise.nil
      · rw [sends_of_loop heq]
        exact Loop.schemes hloop hturn
    · intro i u v hsent hs hfollow hplain
      obtain ⟨hreach, answer, hop⟩ := send_iff.mp hsent
      obtain ⟨m, hbad⟩ := hturn i u v hreach hs hfollow hplain
      constructor
      · refine ⟨m, ?_⟩
        rw [performHttpCheck_of_reaches hreach hop.valid]
        exact checkLoop_invalid hfollow hbad
      · intro w hw
        obtain ⟨hreach', answer', hop'⟩ := send_iff.mp hw
        rw [Reaches.next hreach hfollow hreach'] at hop'
        rw [hop'.valid] at hbad
        cases hbad

end Schemes

/-- A server that answers every request with a redirect to the plain URL. -/
def downgradingNet : Net :=
  { steadyNet foundResponse with join := fun _ _ => some (str "http://example.com/") }

/-- **A check goes back to `http`.** The redirect from `https://example.com/` to
    `http://example.com/` is followed, and the second request is sent. -/
theorem downgrade_followed :
    ¬ ∀ (py : Python) (settings : Settings) (net : Net) (url method : Str) (follow : Bool),
        NeverDowngrades py settings net url method follow := by
  intro hclaim
  have hallowed : ∀ i url, validateUrl .asciiOnly url = .ok url →
      HopAllowed .asciiOnly {} downgradingNet (str "GET") i url [str "93.184.216.34"] := by
    intro i url hvalid
    refine ⟨hvalid, ⟨rfl, by decide, ?_⟩, rfl⟩
    intro ip hip
    rw [List.mem_singleton.mp hip]
    decide +kernel
  have hfirst := hallowed 0 (str "https://example.com/") (by decide +kernel)
  have hsecond := hallowed 1 (str "http://example.com/") (by decide +kernel)
  have hfollow : Follows .asciiOnly {} downgradingNet (str "GET") true 0
      (str "https://example.com/") (str "http://example.com/") :=
    ⟨⟨_, hfirst⟩, foundResponse, str "/", rfl, by decide, rfl⟩
  have hhttps : schemeIs .asciiOnly "https" (str "https://example.com/") :=
    ⟨⟨str "https", str "example.com", str "/", [], []⟩, by decide +kernel, rfl⟩
  have hhttp : schemeIs .asciiOnly "http" (str "http://example.com/") :=
    ⟨⟨str "http", str "example.com", str "/", [], []⟩, by decide +kernel, rfl⟩
  obtain ⟨-, hnone⟩ := (hclaim .asciiOnly {} downgradingNet (str "https://example.com/") (str "GET")
    true).ended 0 _ _ (send_iff.mpr ⟨.here _ _, _, hfirst⟩) hhttps hfollow hhttp
  exact hnone _ (send_iff.mpr ⟨.step hfollow (.here _ _), _, hsecond⟩)

end NetProbeRedirectScheme
