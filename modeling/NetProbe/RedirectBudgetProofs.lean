import NetProbe.RedirectLoopProofs

/-!
# How a chain of redirects ends

The outcome of a check is the outcome of the last iteration that its redirects lead to.
`checkLoop_outcome_of_follows` says so for one redirect, `checkLoop_outcome_of_reaches` for
any number, and one lemma for each way an iteration can end says what the outcome is there:
`checkLoop_finished`, `checkLoop_failed`, `checkLoop_refused`.

The redirect budget is read twice, with `redirect_count < max_redirects` when a response is
taken for a redirect and with `redirect_count > max_redirects` after the count has gone up.
The first test ends every chain that uses up the budget, with the redirect itself as the
result, so the second never fires (`budget_exact_iff`).
-/

namespace NetProbeRedirectBudget

open NetProbePyText NetProbeConfig NetProbeUrlSplit NetProbeSecurity NetProbeHttpService
open TracedRun

section Outcomes

variable {py : Python} {settings : Settings} {net : Net} {method url : Str} {follow : Bool}
  {i : Nat} {u : Str}

/-- The check of a valid URL ends as its loop does. -/
theorem performHttpCheck_outcome (hvalid : validateUrl py url = .ok url) :
    (performHttpCheck py settings net url method follow).outcome =
      (checkLoop py settings net method follow url 0 url).outcome := by
  rw [performHttpCheck]
  simp only [Traced.bind_eq, Traced.bind_tell, hvalid]
  rfl

/-- The iteration of an allowed hop, as far as the answer of the client. -/
theorem sendHop_allowed {answer : List Str} (hop : HopAllowed py settings net method i u answer) :
    (sendHop py settings net method i u).outcome =
      match net.send i method u with
      | .error e => .error (sendFailure u e)
      | .ok response => .ok (response, (sortedSet answer).head?) := by
  rcases sendHop_cases py settings net method i hop.valid with ⟨answer', hop', heq⟩ | ⟨hno, -⟩
  · obtain rfl := Except.ok.inj (hop'.resolved.lookup.symm.trans hop.resolved.lookup)
    refine (congrArg Traced.outcome heq).trans ?_
    cases net.send i method u with
    | error e => rfl
    | ok response => rfl
  · exact absurd hop (hno answer)

/-- A transport failure before the response ends the check, classified by `sendFailure`. -/
theorem checkLoop_failed {answer : List Str} {e : SendError}
    (hop : HopAllowed py settings net method i u answer) (hsend : net.send i method u = .error e) :
    (checkLoop py settings net method follow url i u).outcome = .error (sendFailure u e) := by
  have hout := sendHop_allowed hop
  rw [hsend] at hout
  rw [checkLoop_eq, Traced.bind_of_error hout]

/-- A response that is not followed is what the check is about. -/
theorem checkLoop_finished {answer : List Str} {response : Response}
    (hop : HopAllowed py settings net method i u answer)
    (hsend : net.send i method u = .ok response)
    (hlast : redirectTarget settings follow i response = none) :
    (checkLoop py settings net method follow url i u).outcome =
      finish py settings net url u i response (sortedSet answer).head? := by
  have hout := sendHop_allowed hop
  rw [hsend] at hout
  rw [checkLoop_eq, Traced.bind_of_ok hout, hlast]
  rfl

/-- A redirect that is followed to a valid URL hands the outcome on. -/
theorem checkLoop_outcome_of_follows {next : Str}
    (hfollow : Follows py settings net method follow i u next)
    (hvalid : validateUrl py next = .ok next) :
    (checkLoop py settings net method follow url i u).outcome =
      (checkLoop py settings net method follow url (i + 1) next).outcome := by
  obtain ⟨⟨answer, hop⟩, response, location, hsend, hloc, hjoin⟩ := hfollow
  have hout := sendHop_allowed hop
  rw [hsend] at hout
  have hlt := lt_of_redirectTarget hloc
  have hbudget : ¬ settings.max_redirects < ((i + 1 : Nat) : Int) := by omega
  have hnext : (nextUrl py net (i + 1) u location).outcome = .ok next := by
    rw [nextUrl]
    rw [hjoin]
    simp only [Traced.bind_eq, Traced.bind_tell, hvalid]
    rfl
  rw [checkLoop_eq, Traced.bind_of_ok hout, hloc]
  show (Traced.bind _ _).outcome = _
  rw [Traced.bind_of_ok hnext, if_neg hbudget]

/-- A redirect that is followed to a URL that does not validate ends the check there. -/
theorem checkLoop_invalid {next : Str} {e : ProbeError}
    (hfollow : Follows py settings net method follow i u next)
    (hbad : validateUrl py next = .error e) :
    (checkLoop py settings net method follow url i u).outcome = .error e := by
  obtain ⟨⟨answer, hop⟩, response, location, hsend, hloc, hjoin⟩ := hfollow
  have hout := sendHop_allowed hop
  rw [hsend] at hout
  have hnext : (nextUrl py net (i + 1) u location).outcome = .error e := by
    rw [nextUrl]
    rw [hjoin]
    simp only [Traced.bind_eq, Traced.bind_tell, hbad]
    rfl
  rw [checkLoop_eq, Traced.bind_of_ok hout, hloc]
  show (Traced.bind _ _).outcome = _
  rw [Traced.bind_of_error hnext]

/-- **The outcome is that of the last hop.** However many redirects lead from one valid URL to
    another, the check ends as its iteration on the latter does. -/
theorem checkLoop_outcome_of_reaches {j : Nat} {v : Str}
    (hreach : Reaches py settings net method follow i u j v)
    (hvalid : validateUrl py v = .ok v) :
    (checkLoop py settings net method follow url i u).outcome =
      (checkLoop py settings net method follow url j v).outcome := by
  induction hreach with
  | here hop w => rfl
  | @step hop hop' w next w' hfollow hrest ih =>
      have hnext : validateUrl py next = .ok next := by
        cases hrest with
        | here => exact hvalid
        | step hfollow' hrest' =>
            obtain ⟨answer, hop⟩ := hfollow'.allowed
            exact hop.valid
      rw [checkLoop_outcome_of_follows hfollow hnext]
      exact ih hvalid

/-- One redirect more at the end of a chain. -/
theorem Reaches.snoc {j : Nat} {v w : Str} (h : Reaches py settings net method follow i u j v)
    (hfollow : Follows py settings net method follow j v w) :
    Reaches py settings net method follow i u (j + 1) w := by
  induction h with
  | here => exact .step hfollow (.here _ _)
  | step hfollow' _ ih => exact .step hfollow' (ih hfollow)

/-- A check that is led to an allowed hop started at a valid URL. -/
theorem valid_of_reaches {j : Nat} {v : Str}
    (hreach : Reaches py settings net method follow i u j v)
    (hvalid : validateUrl py v = .ok v) : validateUrl py u = .ok u := by
  cases hreach with
  | here => exact hvalid
  | step hfollow hrest =>
      obtain ⟨answer, hop⟩ := hfollow.allowed
      exact hop.valid

/-- The check as a whole ends as its iteration on a hop that it is led to. -/
theorem performHttpCheck_of_reaches {j : Nat} {v : Str}
    (hreach : Reaches py settings net method follow 0 url j v)
    (hvalid : validateUrl py v = .ok v) :
    (performHttpCheck py settings net url method follow).outcome =
      (checkLoop py settings net method follow url j v).outcome := by
  rw [performHttpCheck_outcome (valid_of_reaches hreach hvalid)]
  exact checkLoop_outcome_of_reaches hreach hvalid

end Outcomes

-- ── The sequence of responses ─────────────────────────────────────────────────────

section Budget

/-- A redirect that carries a `Location`. -/
def carriesRedirect (response : Response) : Bool :=
  response.is_redirect && response.location.isSome

/-- The `k`-th URL and response of the server sequence: the start URL first, then wherever the
    redirects lead. -/
def hopAt (net : Net) (method url : Str) : Nat → Option (Str × Response)
  | 0 =>
      match net.send 0 method url with
      | .ok response => some (url, response)
      | .error _ => none
  | k + 1 =>
      (hopAt net method url k).bind fun (u, response) =>
        if response.is_redirect then
          (response.location.bind (net.join u)).bind fun next =>
            match net.send (k + 1) method next with
            | .ok response' => some (next, response')
            | .error _ => none
        else none

/-- The `k`-th response is a redirect with a `Location`. -/
def RedirectAt (net : Net) (method url : Str) (k : Nat) : Prop :=
  ∃ u response, hopAt net method url k = some (u, response) ∧ carriesRedirect response = true

variable (py : Python) (settings : Settings) (net : Net) (method url : Str)

/-- Every hop that the redirects lead to, as far as the budget goes, is allowed and reachable:
    it passes the checks and is answered, and the body of the answer arrives if it is read, which
    that of a followed redirect is not. -/
def HopsServed : Prop :=
  ∀ k : Nat, (k : Int) ≤ settings.max_redirects → (∀ j < k, RedirectAt net method url j) →
    ∃ u response, hopAt net method url k = some (u, response) ∧
      (∃ answer, HopAllowed py settings net method k u answer) ∧
        (carriesRedirect response = false ∨ (k : Int) = settings.max_redirects →
          ∃ received, receive settings.max_response_bytes 0 response.chunks = .ok received)

/-- What a result says of the response it is about. -/
structure Describes (k : Nat) (u : Str) (response : Response) (result : HttpCheckResult) :
    Prop where
  url : result.url = url
  final_url : result.final_url = u
  status_code : result.status_code = response.status_code
  reason_phrase : result.reason_phrase = response.reason_phrase
  content_type : result.content_type = response.content_type
  server : result.server = response.server
  redirect_count : result.redirect_count = k

/-- An exhausted redirect budget is an error; otherwise the first response that is no redirect
    with a `Location` is returned. -/
structure BudgetExact : Prop where
  exhausted : (∀ k : Nat, (k : Int) ≤ settings.max_redirects → RedirectAt net method url k) →
    ∃ message, (performHttpCheck py settings net url method true).outcome =
      .error (.tooManyRedirectsError message)
  returned : ∀ k : Nat, (k : Int) ≤ settings.max_redirects →
    (∀ j < k, RedirectAt net method url j) → ¬ RedirectAt net method url k →
      ∃ u response result, hopAt net method url k = some (u, response) ∧
        (performHttpCheck py settings net url method true).outcome = .ok result ∧
          Describes url k u response result

/-- The `Content-Length` of a response is no text of digits that `int()` refuses. -/
def LengthReadable (response : Response) : Prop :=
  ∀ received, ∃ length, contentLength py response.content_length received = .ok length

variable {py settings net method url}

/-- The step of `hopAt` to a URL. -/
theorem answered_at {n : Nat} {u v : Str} {response : Response}
    (h : (match net.send n method v with
      | .ok response => some (v, response)
      | .error _ => none) = some (u, response)) : u = v ∧ net.send n method u = .ok response := by
  cases hs : net.send n method v with
  | error e =>
      rw [hs] at h
      cases h
  | ok r =>
      rw [hs] at h
      cases h
      exact ⟨rfl, hs⟩

/-- A hop after the first is where the `Location` of the redirect before it leads. -/
theorem hopAt_succ {k : Nat} {v : Str} {response' : Response}
    (h : hopAt net method url (k + 1) = some (v, response')) :
    net.send (k + 1) method v = .ok response' ∧
      ∃ u response location, hopAt net method url k = some (u, response) ∧
        response.is_redirect = true ∧ response.location = some location ∧
          net.join u location = some v := by
  rw [hopAt] at h
  obtain ⟨⟨u, response⟩, hu, h⟩ := Option.bind_eq_some_iff.mp h
  dsimp only at h
  split at h
  · rename_i hred
    obtain ⟨next, hnext, h⟩ := Option.bind_eq_some_iff.mp h
    obtain ⟨location, hloc, hjoin⟩ := Option.bind_eq_some_iff.mp hnext
    obtain ⟨rfl, hsend⟩ := answered_at h
    exact ⟨hsend, u, response, location, hu, hred, hloc, hjoin⟩
  · cases h

theorem hopAt_send {k : Nat} {u : Str} {response : Response}
    (h : hopAt net method url k = some (u, response)) : net.send k method u = .ok response := by
  cases k with
  | zero => exact (answered_at h).2
  | succ k => exact (hopAt_succ h).1

theorem redirectAt_iff {k : Nat} {u : Str} {response : Response}
    (hu : hopAt net method url k = some (u, response)) :
    RedirectAt net method url k ↔ carriesRedirect response = true := by
  constructor
  · rintro ⟨u', response', hu', hc⟩
    rw [hu] at hu'
    cases hu'
    exact hc
  · intro hc
    exact ⟨u, response, hu, hc⟩

/-- While the responses are redirects and the budget lasts, the check is led along them. -/
theorem reaches_hopAt (hserved : HopsServed py settings net method url) {k : Nat}
    (hk : (k : Int) ≤ settings.max_redirects) (hred : ∀ j < k, RedirectAt net method url j)
    {u : Str} {response : Response} (hu : hopAt net method url k = some (u, response)) :
    Reaches py settings net method true 0 url k u := by
  -- along the chain: each hop follows the one before it
  induction k generalizing u response with
  | zero =>
      obtain ⟨rfl, -⟩ := answered_at hu
      exact .here 0 u
  | succ k ih =>
      have hprev : ∀ j < k, RedirectAt net method url j := fun j hj => hred j (by omega)
      obtain ⟨-, w, r, location, hw, hisred, hloc, hjoin⟩ := hopAt_succ hu
      obtain ⟨w', r', hw', hop, -⟩ := hserved k (by omega) hprev
      rw [hw] at hw'
      cases hw'
      have hfollow : Follows py settings net method true k w u := by
        refine ⟨hop, r, location, hopAt_send hw, ?_, hjoin⟩
        rw [redirectTarget]
        rw [if_pos ⟨rfl, hisred, by omega⟩]
        exact hloc
      exact Reaches.snoc (ih (by omega) hprev hw) hfollow

/-- Where the redirects or the budget end, the check returns the response it is at. -/
theorem outcome_at_end (hserved : HopsServed py settings net method url) {k : Nat}
    (hk : (k : Int) ≤ settings.max_redirects) (hred : ∀ j < k, RedirectAt net method url j)
    (hend : ¬ RedirectAt net method url k ∨ (k : Int) = settings.max_redirects) :
    ∃ u response ip, hopAt net method url k = some (u, response) ∧
      (∃ received, receive settings.max_response_bytes 0 response.chunks = .ok received) ∧
        (performHttpCheck py settings net url method true).outcome =
          finish py settings net url u k response ip := by
  obtain ⟨u, response, hu, ⟨answer, hop⟩, hread⟩ := hserved k hk hred
  have hreceive :
      ∃ received, receive settings.max_response_bytes 0 response.chunks = .ok received :=
    hread (hend.imp_left fun hno => Bool.eq_false_iff.mpr fun hc =>
      hno ((redirectAt_iff hu).mpr hc))
  have hlast : redirectTarget settings true k response = none := by
    rw [redirectTarget]
    split
    · rename_i hc
      rcases hend with hno | hbudget
      · cases hloc : response.location with
        | none => rfl
        | some location =>
            refine absurd ⟨u, response, hu, ?_⟩ hno
            rw [carriesRedirect]
            rw [hc.2.1, hloc]
            rfl
      · omega
    · rfl
  refine ⟨u, response, (sortedSet answer).head?, hu, hreceive, ?_⟩
  rw [performHttpCheck_of_reaches (reaches_hopAt hserved hk hred hu) hop.valid]
  exact checkLoop_finished hop (hopAt_send hu) hlast

/-- Whether a `Content-Length` can be read does not depend on what was received. -/
theorem lengthReadable_of_ok {py : Python} {response : Response} {received : Int}
    {length : Option Int} (h : contentLength py response.content_length received = .ok length) :
    LengthReadable py response := by
  intro received'
  unfold contentLength at h ⊢
  dsimp only at h ⊢
  split
  · rename_i hc
    rw [if_pos hc] at h
    cases hn : intOfDigits py (response.content_length.getD []) with
    | some n => exact ⟨some n, rfl⟩
    | none =>
        rw [hn] at h
        cases h
  · exact ⟨_, rfl⟩

/-- With a body that arrives a result is built, or the `Content-Length` cannot be read. -/
theorem finish_cases (py : Python) {settings : Settings} (net : Net) (url u : Str) (k : Nat)
    {response : Response} (ip : Option Str) {received : Int}
    (h : receive settings.max_response_bytes 0 response.chunks = .ok received) :
    (LengthReadable py response ∧ ∃ result,
      finish py settings net url u k response ip = .ok result ∧ Describes url k u response result) ∨
    (¬ LengthReadable py response ∧
      finish py settings net url u k response ip = .error .valueError) := by
  unfold finish
  rw [h]
  cases hc : contentLength py response.content_length received with
  | ok length =>
      left
      simp only [bind, Except.bind, hc]
      exact ⟨lengthReadable_of_ok hc, _, rfl, ⟨rfl, rfl, rfl, rfl, rfl, rfl, rfl⟩⟩
  | error e =>
      right
      have he : e = .valueError := by
        unfold contentLength at hc
        dsimp only at hc
        split at hc
        · split at hc
          · cases hc
          · exact (Except.error.inj hc).symm
        · cases hc
      refine ⟨fun hr => ?_, ?_⟩
      · obtain ⟨length, hl⟩ := hr received
        rw [hl] at hc
        cases hc
      · simp only [bind, Except.bind, hc, he]

/-- What the check makes of a response that is no redirect. -/
theorem outcome_at_answer (hserved : HopsServed py settings net method url) {k : Nat} {u : Str}
    {response : Response} (hk : (k : Int) ≤ settings.max_redirects)
    (hprev : ∀ j < k, RedirectAt net method url j) (hno : ¬ RedirectAt net method url k)
    (hu : hopAt net method url k = some (u, response)) :
    (LengthReadable py response ∧ ∃ result,
      (performHttpCheck py settings net url method true).outcome = .ok result ∧
        Describes url k u response result) ∨
    (¬ LengthReadable py response ∧
      (performHttpCheck py settings net url method true).outcome = .error .valueError) := by
  obtain ⟨u', response', ip, hu', ⟨received, hreceive⟩, hout⟩ :=
    outcome_at_end hserved hk hprev (Or.inl hno)
  rw [hu] at hu'
  cases hu'
  rw [hout]
  exact finish_cases py net url u k ip hreceive

/-- A chain that uses up the budget does not end in the exception: its last redirect is the
    result. -/
theorem not_exact_of_exhausted (hbudget : 0 ≤ settings.max_redirects)
    (hserved : HopsServed py settings net method url)
    (hall : ∀ k : Nat, (k : Int) ≤ settings.max_redirects → RedirectAt net method url k) :
    ¬ BudgetExact py settings net method url := by
  intro hexact
  obtain ⟨message, htoo⟩ := hexact.exhausted hall
  obtain ⟨u, response, ip, -, ⟨received, hreceive⟩, hout⟩ :=
    outcome_at_end (k := settings.max_redirects.toNat) hserved (by omega)
      (fun j hj => hall j (by omega)) (Or.inr (by omega))
  rw [hout] at htoo
  rcases finish_cases py net url u settings.max_redirects.toNat ip hreceive with
    ⟨-, result, hfin, -⟩ | ⟨-, hfin⟩
  · rw [hfin] at htoo
    cases htoo
  · rw [hfin] at htoo
    cases htoo

/-- The first response that is no redirect. -/
theorem first_answer
    (h : ¬ ∀ k : Nat, (k : Int) ≤ settings.max_redirects → RedirectAt net method url k) :
    ∃ k : Nat, (k : Int) ≤ settings.max_redirects ∧ (∀ j < k, RedirectAt net method url j) ∧
      ¬ RedirectAt net method url k := by
  classical
  push Not at h
  refine ⟨Nat.find h, (Nat.find_spec h).1, fun j hj => ?_, (Nat.find_spec h).2⟩
  by_contra hno
  have hle := (Nat.find_spec h).1
  exact Nat.find_min h hj ⟨by omega, hno⟩

/-- There is only one first response that is no redirect. -/
theorem first_answer_unique {k k' : Nat} (hprev : ∀ j < k, RedirectAt net method url j)
    (hno : ¬ RedirectAt net method url k) (hprev' : ∀ j < k', RedirectAt net method url j)
    (hno' : ¬ RedirectAt net method url k') : k' = k := by
  rcases Nat.lt_trichotomy k' k with hlt | heq | hlt
  · exact absurd (hprev k' hlt) hno'
  · exact heq
  · exact absurd (hprev' k hlt) hno

/-- **When the redirect budget is kept.** Where all hops are allowed and reachable, the check
    does what the budget asks for exactly if one of the first `max_redirects + 1` responses is no
    redirect with a `Location`, and the length of the first such response can be read. -/
theorem budget_exact_iff (py : Python) (settings : Settings) (net : Net) (method url : Str)
    (hbudget : 0 ≤ settings.max_redirects) (hserved : HopsServed py settings net method url) :
    BudgetExact py settings net method url ↔
      ∃ (k : Nat) (u : Str) (response : Response), (k : Int) ≤ settings.max_redirects ∧
        (∀ j < k, RedirectAt net method url j) ∧ hopAt net method url k = some (u, response) ∧
          carriesRedirect response = false ∧ LengthReadable py response := by
  constructor
  · intro hexact
    by_cases hall : ∀ k : Nat, (k : Int) ≤ settings.max_redirects → RedirectAt net method url k
    · exact absurd hexact (not_exact_of_exhausted hbudget hserved hall)
    · obtain ⟨k, hk, hprev, hno⟩ := first_answer hall
      obtain ⟨u, response, result, hu, hok, -⟩ := hexact.returned k hk hprev hno
      refine ⟨k, u, response, hk, hprev, hu, ?_, ?_⟩
      · exact Bool.eq_false_iff.mpr fun hc => hno ((redirectAt_iff hu).mpr hc)
      · rcases outcome_at_answer hserved hk hprev hno hu with ⟨hread, -⟩ | ⟨-, hbad⟩
        · exact hread
        · rw [hbad] at hok
          cases hok
  · rintro ⟨k, u, response, hk, hprev, hu, hplain, hread⟩
    have hno : ¬ RedirectAt net method url k := by
      rw [redirectAt_iff hu, hplain]
      exact Bool.false_ne_true
    refine ⟨fun hall => absurd (hall k hk) hno, ?_⟩
    intro k' hk' hprev' hno'
    obtain rfl := first_answer_unique hprev hno hprev' hno'
    rcases outcome_at_answer hserved hk hprev hno hu with ⟨-, result, hok, hdesc⟩ | ⟨hbad, -⟩
    · exact ⟨u, response, result, hu, hok, hdesc⟩
    · exact absurd hread hbad

end Budget

/-- A world in which every request to any host gets the same response, and every `Location` leads
    back to where it came from. -/
def steadyNet (response : Response) : Net :=
  { rebindingNet with
    send := fun _ _ _ => .ok response
    join := fun url _ => some url }

/-- A redirect to `/` and a plain answer, without a body. -/
def foundResponse : Response := ⟨302, str "Found", some (str "/"), none, none, none, []⟩
def okResponse : Response := ⟨200, str "OK", none, none, none, none, []⟩

/-- Every hop of that world is allowed, whatever its servers answer. -/
theorem steady_allowed (send : Nat → Str → Str → Except SendError Response) (k : Nat) :
    HopAllowed .asciiOnly {} { steadyNet okResponse with send := send } (str "GET") k
      (str "http://example.com/") [str "93.184.216.34"] := by
  refine ⟨by decide +kernel, ⟨rfl, by decide, ?_⟩, rfl⟩
  intro ip hip
  rw [List.mem_singleton.mp hip]
  decide +kernel

/-- The endless redirect. -/
theorem hopAt_steady (k : Nat) :
    hopAt (steadyNet foundResponse) (str "GET") (str "http://example.com/") k =
      some (str "http://example.com/", foundResponse) := by
  induction k with
  | zero => rfl
  | succ k ih =>
      rw [hopAt]
      rw [ih]
      rfl

/-- **The budget of an endless redirect.** With the default settings the sixth redirect in a row
    is returned as the result. -/
theorem endless_redirect_returned :
    ¬ ∀ (py : Python) (settings : Settings) (net : Net) (method url : Str),
        0 ≤ settings.max_redirects → HopsServed py settings net method url →
          BudgetExact py settings net method url := by
  intro hclaim
  have hred : ∀ k, RedirectAt (steadyNet foundResponse) (str "GET") (str "http://example.com/") k :=
    fun k => ⟨_, _, hopAt_steady k, rfl⟩
  have hserved : HopsServed .asciiOnly {} (steadyNet foundResponse) (str "GET")
      (str "http://example.com/") :=
    fun k _ _ => ⟨_, _, hopAt_steady k, ⟨_, steady_allowed _ k⟩, fun _ => ⟨0, rfl⟩⟩
  obtain ⟨message, htoo⟩ := (hclaim .asciiOnly {} _ _ _ (by decide) hserved).exhausted
    fun k _ => hred k
  obtain ⟨u, response, ip, -, ⟨received, hreceive⟩, hout⟩ :=
    outcome_at_end (k := 5) hserved (by decide) (fun j _ => hred j) (Or.inr rfl)
  rw [hout] at htoo
  rcases finish_cases .asciiOnly (steadyNet foundResponse) (str "http://example.com/") u 5 ip
    hreceive with ⟨-, result, hfin, -⟩ | ⟨-, hfin⟩
  · rw [hfin] at htoo
    cases htoo
  · rw [hfin] at htoo
    cases htoo

/-- A server that redirects once, with a body that never arrives, and then answers. -/
def redirectingNet : Net :=
  { steadyNet okResponse with
    send := fun hop _ _ =>
      .ok (if hop = 0 then { foundResponse with chunks := [.error .readTimeout] } else okResponse) }

/-- The general result on that server. -/
theorem redirected_answer_returned :
    BudgetExact .asciiOnly {} redirectingNet (str "GET") (str "http://example.com/") := by
  have hfound : hopAt redirectingNet (str "GET") (str "http://example.com/") 0 =
      some (str "http://example.com/", { foundResponse with
        chunks := [.error .readTimeout] }) := rfl
  have hplain : hopAt redirectingNet (str "GET") (str "http://example.com/") 1 =
      some (str "http://example.com/", okResponse) := rfl
  have hserved : HopsServed .asciiOnly {} redirectingNet (str "GET")
      (str "http://example.com/") := by
    intro k _ hprev
    match k with
    | 0 =>
        refine ⟨_, _, hfound, ⟨_, steady_allowed _ 0⟩, fun hread => ?_⟩
        rcases hread with hno | hbudget
        · cases hno
        · cases hbudget
    | 1 => exact ⟨_, _, hplain, ⟨_, steady_allowed _ 1⟩, fun _ => ⟨0, rfl⟩⟩
    | k + 2 =>
        have hred := (redirectAt_iff hplain).mp (hprev 1 (by omega))
        cases hred
  refine (budget_exact_iff .asciiOnly {} redirectingNet (str "GET")
    (str "http://example.com/") (by decide) hserved).mpr ?_
  refine ⟨1, _, _, by decide, fun j hj => ?_, hplain, rfl, fun received => ⟨_, rfl⟩⟩
  obtain rfl := Nat.lt_one_iff.mp hj
  exact ⟨_, _, hfound, rfl⟩

end NetProbeRedirectBudget
