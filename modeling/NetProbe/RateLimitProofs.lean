import NetProbe.AuthDepsProofs
import NetProbe.SlidingWindowProofs

/-!
# The rate limit

Runs of `RateLimiter.check`, and of `enforce_rate_limit` over requests.

The limiter is a sliding window for each key: what it does for one key is what the window does
on the times of the calls for that key, whatever other calls stand between them
(`checkAll_windows`, `answersFor_eq`, `admittedFor_eq`).  `sliding_window_exact` puts this
together with the results on windows.

A request that a trusted proxy has forwarded is counted under the first entry of its
`X-Forwarded-For` header, which is text of the client: `forwarded_identity_iff` says when the
requests of one client are counted together, and that the limit holds for a client exactly if
they are.
-/

namespace NetProbeRateLimit

open NetProbePyText NetProbeConfig NetProbeCoreAuth NetProbeAccountStore NetProbeAuthService
open NetProbeAccountRuns NetProbeDeps NetProbeAuthDeps SlidingWindow

-- ── Calls of the limiter ──────────────────────────────────────────────────────────

/-- A call of `RateLimiter.check`: the clock it reads and its key. -/
structure Check where
  now : ℚ
  key : Str
  deriving DecidableEq

/-- `RateLimiter(limit_per_minute)` -/
def newRateLimiter (limit_per_minute : Int) : RateLimiter := ⟨limit_per_minute, fun _ => []⟩

/-- Calls in order: the answers, and the limiter after them. -/
def checkAll : RateLimiter → List Check → List Bool × RateLimiter
  | limiter, [] => ([], limiter)
  | limiter, call :: calls =>
      let step := limiter.check call.now call.key
      let rest := checkAll step.2 calls
      (step.1 :: rest.1, rest.2)

/-- The answers the calls for `key` have. -/
def answersFor (limiter : RateLimiter) (calls : List Check) (key : Str) : List Bool :=
  ((calls.zip (checkAll limiter calls).1).filter fun x => x.1.key = key).map (·.2)

/-- The times of the calls for `key` that are admitted. -/
def admittedFor (limiter : RateLimiter) (calls : List Check) (key : Str) : List ℚ :=
  ((calls.zip (checkAll limiter calls).1).filter fun x => x.1.key = key ∧ x.2 = true).map (·.1.now)

/-- The times of the calls for `key`. -/
def timesFor (calls : List Check) (key : Str) : List ℚ :=
  (calls.filter fun call => call.key = key).map (·.now)

-- ── One window for each key ───────────────────────────────────────────────────────

/-- A call is an arrival at the window of its key. -/
theorem check_eq (limiter : RateLimiter) (now : ℚ) (key : Str) :
    limiter.check now key =
      ((arrive limiter.limit 60 (limiter.windows key) now).1, ⟨limiter.limit,
        Function.update limiter.windows key
          (arrive limiter.limit 60 (limiter.windows key) now).2⟩) := by
  rw [RateLimiter.check, arrive, current]
  dsimp only
  split
  · rfl
  · rfl

section Windows

variable (limiter : RateLimiter) (call : Check) (calls : List Check) (key : Str)

theorem check_windows_self :
    (limiter.check call.now call.key).2.windows call.key =
      (arrive limiter.limit 60 (limiter.windows call.key) call.now).2 := by
  rw [check_eq]
  exact Function.update_self ..

theorem check_windows_of_ne (hkey : call.key ≠ key) :
    (limiter.check call.now call.key).2.windows key = limiter.windows key := by
  rw [check_eq]
  exact Function.update_of_ne (Ne.symm hkey) ..

theorem check_limit (now : ℚ) : (limiter.check now key).2.limit = limiter.limit := by
  rw [check_eq]

theorem timesFor_cons_self :
    timesFor (call :: calls) call.key = call.now :: timesFor calls call.key := by
  unfold timesFor
  rw [List.filter_cons_of_pos (by simp), List.map_cons]

theorem timesFor_cons_of_ne (hkey : call.key ≠ key) :
    timesFor (call :: calls) key = timesFor calls key := by
  unfold timesFor
  rw [List.filter_cons_of_neg (by simpa using hkey)]

/-- The window of a key after a run. -/
theorem checkAll_windows :
    (checkAll limiter calls).2.windows key =
      (arrivals limiter.limit 60 (limiter.windows key) (timesFor calls key)).2 := by
  induction calls generalizing limiter with
  | nil => rfl
  | cons call calls ih =>
      rw [checkAll, ih, check_limit]
      by_cases hkey : call.key = key
      · subst hkey
        rw [check_windows_self, timesFor_cons_self, arrivals]
      · rw [check_windows_of_ne limiter call key hkey, timesFor_cons_of_ne call calls key hkey]

theorem checkAll_limit : (checkAll limiter calls).2.limit = limiter.limit := by
  induction calls generalizing limiter with
  | nil => rfl
  | cons call calls ih =>
      rw [checkAll, ih, check_limit]

/-- The answers for a key are those of its window. -/
theorem answersFor_eq :
    answersFor limiter calls key =
      (arrivals limiter.limit 60 (limiter.windows key) (timesFor calls key)).1 := by
  induction calls generalizing limiter with
  | nil => rfl
  | cons call calls ih =>
      have hrest := ih (limiter.check call.now call.key).2
      rw [check_limit, answersFor] at hrest
      rw [answersFor, checkAll, List.zip_cons_cons]
      by_cases hkey : call.key = key
      · subst hkey
        rw [List.filter_cons_of_pos (by simp), List.map_cons, hrest, check_windows_self,
          timesFor_cons_self, arrivals, check_eq]
      · rw [List.filter_cons_of_neg (by simpa using hkey), hrest,
          check_windows_of_ne limiter call key hkey, timesFor_cons_of_ne call calls key hkey]

/-- What is admitted for a key is what its window admits. -/
theorem admittedFor_eq :
    admittedFor limiter calls key =
      admitted limiter.limit 60 (limiter.windows key) (timesFor calls key) := by
  induction calls generalizing limiter with
  | nil => rfl
  | cons call calls ih =>
      have hrest := ih (limiter.check call.now call.key).2
      rw [check_limit, admittedFor] at hrest
      rw [admittedFor, checkAll, List.zip_cons_cons]
      by_cases hkey : call.key = key
      · subst hkey
        have hanswer : (limiter.check call.now call.key).1 =
            (arrive limiter.limit 60 (limiter.windows call.key) call.now).1 := by
          rw [check_eq]
        rw [check_windows_self] at hrest
        rw [timesFor_cons_self, admitted]
        by_cases hok : (arrive limiter.limit 60 (limiter.windows call.key) call.now).1 = true
        · rw [if_pos hok, List.filter_cons_of_pos (by simp [hanswer, hok]), List.map_cons, hrest]
        · rw [if_neg hok, List.filter_cons_of_neg (by simp [hanswer, hok]), hrest]
      · rw [List.filter_cons_of_neg (by simp [hkey]), hrest,
          check_windows_of_ne limiter call key hkey, timesFor_cons_of_ne call calls key hkey]

end Windows

theorem checkAll_append (limiter : RateLimiter) (before after : List Check) :
    (checkAll limiter (before ++ after)).1 =
      (checkAll limiter before).1 ++ (checkAll (checkAll limiter before).2 after).1 := by
  induction before generalizing limiter with
  | nil => rfl
  | cons call calls ih =>
      rw [List.cons_append, checkAll, checkAll, ih, List.cons_append]

theorem checkAll_length (limiter : RateLimiter) (calls : List Check) :
    (checkAll limiter calls).1.length = calls.length := by
  induction calls generalizing limiter with
  | nil => rfl
  | cons call calls ih =>
      rw [checkAll, List.length_cons, List.length_cons, ih]

/-- The answer of one call of a run. -/
theorem answer_at (limiter : RateLimiter) (before after : List Check) (call : Check) :
    (checkAll limiter (before ++ call :: after)).1[before.length]? =
      some (arrive limiter.limit 60
        (arrivals limiter.limit 60 (limiter.windows call.key) (timesFor before call.key)).2
          call.now).1 := by
  rw [checkAll_append, List.getElem?_append_right (checkAll_length limiter before).le,
    checkAll_length, Nat.sub_self, checkAll, List.getElem?_cons_zero, check_eq, checkAll_limit,
    checkAll_windows]

-- ── The limiter is exact ──────────────────────────────────────────────────────────

theorem timesFor_ordered {calls : List Check} (h : calls.Pairwise (·.now ≤ ·.now)) (key : Str) :
    (timesFor calls key).Pairwise (· ≤ ·) :=
  List.Pairwise.map _ (fun _ _ => id) (h.filter _)

/-- No closed interval of 60 seconds has more than `n` admitted calls for a key. -/
theorem admitted_within {n : Nat} {calls : List Check} (hordered : calls.Pairwise (·.now ≤ ·.now))
    (key : Str) (t : ℚ) :
    ((admittedFor (newRateLimiter n) calls key).filter (within 60 t)).length ≤ n := by
  rw [admittedFor_eq, ← Int.ofNat_le]
  exact window_bound (Int.natCast_nonneg n) (timesFor_ordered hordered key) t

/-- **The sliding window is exact.**  No closed interval of 60 seconds has more than `n` admitted
    calls for a key; a call is refused iff the interval that ends with it has `n` of them already;
    and the answers for a key depend on the calls for that key only. -/
theorem sliding_window_exact (n : Nat) {calls : List Check}
    (hordered : calls.Pairwise (·.now ≤ ·.now)) (key : Str) :
    (∀ t, ((admittedFor (newRateLimiter n) calls key).filter (within 60 t)).length ≤ n) ∧
      (∀ before after now, calls = before ++ ⟨now, key⟩ :: after →
        ((checkAll (newRateLimiter n) calls).1[before.length]? = some false ↔
          n ≤ ((admittedFor (newRateLimiter n) before key).filter (within 60 now)).length)) ∧
      (∀ others : List Check,
        (others.filter fun call => call.key = key) = (calls.filter fun call => call.key = key) →
          answersFor (newRateLimiter n) others key = answersFor (newRateLimiter n) calls key) := by
  refine ⟨admitted_within hordered key, ?_, ?_⟩
  · rintro before after now rfl
    obtain ⟨hbefore, -, hlater⟩ := List.pairwise_append.mp hordered
    have hto : ∀ t ∈ timesFor before key, t ≤ now := by
      intro t ht
      obtain ⟨call, hcall, rfl⟩ := List.mem_map.mp ht
      exact hlater call (List.mem_filter.mp hcall).1 _ List.mem_cons_self
    rw [answer_at, Option.some.injEq, admittedFor_eq]
    exact (refused_iff (Int.natCast_nonneg n) (timesFor_ordered hbefore key) hto).trans Int.ofNat_le
  · intro others hsame
    rw [answersFor_eq, answersFor_eq, timesFor, hsame, timesFor]

/-- Two keys, a limit of one: the third call falls on the closed end of the window of the first. -/
def sampleChecks : List Check :=
  [⟨0, str "a"⟩, ⟨30, str "b"⟩, ⟨60, str "a"⟩, ⟨61, str "a"⟩]

/-- The general result on those calls. -/
theorem sample_checks_exact :
    sampleChecks.Pairwise (·.now ≤ ·.now) ∧
      (checkAll (newRateLimiter 1) sampleChecks).1[2]? = some false ∧
      (checkAll (newRateLimiter 1) sampleChecks).1[3]? = some true := by
  have hordered : sampleChecks.Pairwise (·.now ≤ ·.now) := by decide +kernel
  have hexact := sliding_window_exact 1 hordered (str "a")
  refine ⟨hordered, ?_, by decide +kernel⟩
  exact (hexact.2.1 [⟨0, str "a"⟩, ⟨30, str "b"⟩] [⟨61, str "a"⟩] 60 rfl).mpr (by decide +kernel)

-- ── Requests of one client ────────────────────────────────────────────────────────

/-- The first entry of a header text. -/
def firstEntry (py : Python) (text : Str) : Str := strip py ((split ',' text).headD [])

/-- A trusted proxy has forwarded the request: `X-Forwarded-For` is what the client had put there,
    a comma and the address of the client. -/
structure Forwarded (settings : Settings) (client sent : Str) (request : Request) : Prop where
  proxy : ∃ address ∈ settings.trusted_proxy_ips, request.client_host = some address
  header : request.header (str "x-forwarded-for") = some (sent ++ ',' :: client)

/-- A request at a time; `sent` is what the client in question had put into the header, and
    nothing for requests of anyone else. -/
structure Visit (settings : Settings) (client : Str) where
  now : ℚ
  request : Request
  sent : Option Str
  forwarded : ∀ text, sent = some text → Forwarded settings client text request

/-- `enforce_rate_limit` on requests in order: which of them it lets through. -/
def enforceAll (env : Env) {client : Str} :
    WebState → List (Visit env.settings client) → List Bool
  | _, [] => []
  | st, visit :: visits =>
      let step := (enforceRateLimit env visit.now visit.request).run.run st
      step.1.isOk :: enforceAll env step.2 visits

/-- The times of the requests of the client that are let through. -/
def letThrough (env : Env) {client : Str} (st : WebState)
    (visits : List (Visit env.settings client)) : List ℚ :=
  ((visits.zip (enforceAll env st visits)).filter fun x => x.1.sent.isSome ∧
    x.2 = true).map (·.1.now)

/-- The call of the limiter a request makes. -/
def Visit.check (env : Env) {client : Str} (visit : Visit env.settings client) : Check :=
  ⟨visit.now, getRealClientIp env.py env.settings visit.request⟩

theorem enforceRateLimit_run (env : Env) (now : ℚ) (request : Request) (st : WebState) :
    (enforceRateLimit env now request).run.run st =
      (if (st.limiter.check now (getRealClientIp env.py env.settings request)).1 then .ok ()
        else .error rateLimitExceeded,
        { st with
          limiter := (st.limiter.check now (getRealClientIp env.py env.settings request)).2 }) := by
  show ((if (st.limiter.check now (getRealClientIp env.py env.settings request)).1 then return ()
      else throw rateLimitExceeded : Web Unit).run.run _) = _
  cases (st.limiter.check now (getRealClientIp env.py env.settings request)).1 with
  | false => rfl
  | true => rfl

theorem enforceAll_eq (env : Env) {client : Str} (st : WebState)
    (visits : List (Visit env.settings client)) :
    enforceAll env st visits = (checkAll st.limiter (visits.map (Visit.check env))).1 := by
  induction visits generalizing st with
  | nil => rfl
  | cons visit visits ih =>
      rw [enforceAll, List.map_cons, checkAll, ih, enforceRateLimit_run]
      dsimp only [Visit.check]
      cases (st.limiter.check visit.now (getRealClientIp env.py env.settings visit.request)).1
      · rfl
      · rfl

-- ── When the limit holds for a client ─────────────────────────────────────────────

/-- What is appended to a text after a delimiter leaves its first entry alone. -/
theorem split_headD_append (c : Char) (s t : Str) :
    (split c (s ++ c :: t)).headD [] = (split c s).headD [] := by
  unfold split
  rw [List.splitOn_append_cons_self]
  cases h : s.splitOn c with
  | nil => exact absurd h (List.splitOn_ne_nil c s)
  | cons entry entries => rfl

/-- **A forwarded request is counted under the first entry of what the client sent.** -/
theorem getRealClientIp_forwarded {py : Python} {settings : Settings} {client sent : Str}
    {request : Request} (h : Forwarded settings client sent request) :
    getRealClientIp py settings request = firstEntry py sent := by
  obtain ⟨address, htrusted, hhost⟩ := h.proxy
  rw [getRealClientIp, firstEntry]
  rw [hhost, Option.getD_some, if_pos (List.contains_iff_mem.mpr htrusted), h.header,
    ← split_headD_append ',' sent client]
  cases sent with
  | nil => rfl
  | cons c cs => rfl

/-- A limiter without room in any window admits nothing. -/
theorem checkAll_of_no_room {limiter : RateLimiter} (hlimit : limiter.limit ≤ 0)
    (calls : List Check) :
    ∀ answer ∈ (checkAll limiter calls).1, answer = false := by
  induction calls generalizing limiter with
  | nil => exact fun _ h => absurd h List.not_mem_nil
  | cons call calls ih =>
      intro answer hanswer
      rw [checkAll, List.mem_cons] at hanswer
      rcases hanswer with rfl | hanswer
      · rw [check_eq, arrive, if_pos (hlimit.trans (Int.natCast_nonneg _))]
      · exact ih (by rw [check_limit]; exact hlimit) answer hanswer

/-- A limiter with room for all the calls admits all of them. -/
theorem checkAll_of_room {limiter : RateLimiter} {calls : List Check}
    (hroom : ∀ key, (((limiter.windows key).length + (timesFor calls key).length : Nat) : Int) ≤
      limiter.limit) :
    ∀ answer ∈ (checkAll limiter calls).1, answer = true := by
  induction calls generalizing limiter with
  | nil => exact fun _ h => absurd h List.not_mem_nil
  | cons call calls ih =>
      have hown := hroom call.key
      rw [timesFor_cons_self, List.length_cons] at hown
      have hcurrent : (current 60 call.now (limiter.windows call.key)).length ≤
          (limiter.windows call.key).length := (List.dropWhile_sublist _).length_le
      have hfree : ¬ limiter.limit ≤ (current 60 call.now (limiter.windows call.key)).length := by
        omega
      intro answer hanswer
      rw [checkAll, List.mem_cons] at hanswer
      rcases hanswer with rfl | hanswer
      · rw [check_eq, arrive, if_neg hfree]
      · refine ih ?_ answer hanswer
        intro key
        rw [check_limit]
        by_cases hkey : call.key = key
        · subst hkey
          rw [check_windows_self, arrive, if_neg hfree, List.length_append, List.length_singleton]
          omega
        · rw [check_windows_of_ne limiter call key hkey, ← timesFor_cons_of_ne call calls key hkey]
          exact hroom key

section Client

variable {env : Env} {client : Str} {st : WebState} {visits : List (Visit env.settings client)}

/-- What is let through of the client is admitted for the key it is counted under. -/
theorem letThrough_le {key : Str}
    (hkey : ∀ visit ∈ visits, visit.sent.isSome = true → (visit.check env).key = key)
    (p : ℚ → Bool) :
    ((letThrough env st visits).filter p).length ≤
      ((admittedFor st.limiter (visits.map (Visit.check env)) key).filter p).length := by
  rw [letThrough, admittedFor]
  simp only [enforceAll_eq, List.zip_map_left, List.filter_map, List.length_map,
    List.filter_filter, ← List.countP_eq_length_filter]
  apply List.countP_mono_left
  rintro ⟨visit, answer⟩ hmem hcount
  simp only [Function.comp_apply, Bool.and_eq_true, decide_eq_true_eq, Prod.map_apply] at hcount ⊢
  exact ⟨hcount.1, hkey visit (List.of_mem_zip hmem).1 hcount.2.1, hcount.2.2⟩

/-- Calls at the times of the visits. -/
theorem checks_ordered (h : visits.Pairwise (·.now ≤ ·.now)) :
    (visits.map (Visit.check env)).Pairwise (·.now ≤ ·.now) :=
  h.map _ fun _ _ => id

/-- What the client lets through, if all of it is admitted. -/
theorem letThrough_of_all (hsent : ∀ visit ∈ visits, visit.sent.isSome = true)
    (hall : ∀ answer ∈ enforceAll env st visits, answer = true) :
    letThrough env st visits = visits.map (·.now) := by
  have hlength : visits.length ≤ (enforceAll env st visits).length := by
    rw [enforceAll_eq, checkAll_length, List.length_map]
  rw [letThrough]
  rw [List.filter_eq_self.mpr]
  · conv_rhs => rw [← List.map_fst_zip hlength, List.map_map]
    rfl
  rintro ⟨visit, answer⟩ hmem
  rw [decide_eq_true_eq]
  exact ⟨hsent visit (List.of_mem_zip hmem).1, hall answer (List.of_mem_zip hmem).2⟩

end Client

/-- In every run that begins with a fresh limiter, where the client puts only allowed texts into
    the header, at most `rate_limit_per_minute` of its requests are let through in any window. -/
def LimitHolds (env : Env) (client : Str) (allowed : Str → Prop) : Prop :=
  ∀ (st : WebState) (visits : List (Visit env.settings client)),
    st.limiter = newRateLimiter env.settings.rate_limit_per_minute →
    visits.Pairwise (·.now ≤ ·.now) →
    (∀ visit ∈ visits, ∀ text, visit.sent = some text → allowed text) →
      ∀ t, ((letThrough env st visits).filter (within 60 t)).length ≤
        env.settings.rate_limit_per_minute.toNat

/-- A limit that is not positive lets nothing through. -/
theorem limitHolds_of_no_room {env : Env} {client : Str} (allowed : Str → Prop)
    (hlimit : env.settings.rate_limit_per_minute ≤ 0) : LimitHolds env client allowed := by
  intro st visits hfresh _ _ t
  have hnone : letThrough env st visits = [] := by
    rw [letThrough]
    rw [List.map_eq_nil_iff, List.filter_eq_nil_iff]
    rintro ⟨visit, answer⟩ hmem hok
    rw [decide_eq_true_eq] at hok
    have hanswer := (List.of_mem_zip hmem).2
    rw [enforceAll_eq, hfresh] at hanswer
    have hrefused : answer = false := checkAll_of_no_room hlimit _ answer hanswer
    exact Bool.noConfusion (hrefused.symm.trans hok.2)
  rw [hnone]
  exact Nat.zero_le _

/-- One window for all requests of the client keeps the limit. -/
theorem limitHolds_of_one_entry {env : Env} {client : Str} {allowed : Str → Prop} {entry : Str}
    (hlimit : 0 ≤ env.settings.rate_limit_per_minute)
    (hone : ∀ text, allowed text → firstEntry env.py text = entry) :
      LimitHolds env client allowed := by
  intro st visits hfresh hordered hallowed t
  have hkey : ∀ visit ∈ visits, visit.sent.isSome = true → (visit.check env).key = entry := by
    intro visit hvisit hsome
    obtain ⟨text, htext⟩ := Option.isSome_iff_exists.mp hsome
    show getRealClientIp env.py env.settings visit.request = entry
    rw [getRealClientIp_forwarded (visit.forwarded text htext)]
    exact hone text (hallowed visit hvisit text htext)
  obtain ⟨n, hn⟩ := Int.eq_ofNat_of_zero_le hlimit
  refine (letThrough_le hkey (within 60 t)).trans ?_
  rw [hfresh, hn, Int.toNat_natCast]
  exact admitted_within (checks_ordered hordered) entry t

-- ── Two identities of one client ──────────────────────────────────────────────────

/-- A request that the proxy at `address` has forwarded. -/
def forwardedRequest (address client sent : Str) : Request where
  path := []
  client_host := some address
  header := fun name => if name = str "x-forwarded-for" then some (sent ++ ',' :: client) else none
  cookie := fun _ => none

theorem forwardedRequest_forwarded {settings : Settings} {address : Str}
    (h : address ∈ settings.trusted_proxy_ips) (client sent : Str) :
    Forwarded settings client sent (forwardedRequest address client sent) :=
  ⟨⟨address, h, rfl⟩, by simp [forwardedRequest]⟩

/-- A visit at time 0. -/
def visitOf {settings : Settings} {address : Str} (h : address ∈ settings.trusted_proxy_ips)
    (client sent : Str) : Visit settings client where
  now := 0
  request := forwardedRequest address client sent
  sent := some sent
  forwarded := by
    rintro text ⟨⟩
    exact forwardedRequest_forwarded h client sent

/-- A call for one key and `n` calls for another are at most `n` for each key. -/
theorem timesFor_two_keys {n : Nat} (hn : 0 < n) {call call' : Check} (hne : call'.key ≠ call.key)
    (key : Str) : (timesFor (call' :: List.replicate n call) key).length ≤ n := by
  by_cases hkey : call.key = key
  · rw [← hkey, timesFor_cons_of_ne call' _ call.key hne, timesFor, List.length_map]
    exact (List.length_filter_le _ _).trans List.length_replicate.le
  · have hrest : timesFor (List.replicate n call) key = [] := by
      rw [timesFor, List.filter_replicate_of_neg (by simpa using hkey), List.map_nil]
    by_cases hkey' : call'.key = key
    · rw [← hkey'] at hrest ⊢
      rw [timesFor_cons_self, hrest]
      exact hn
    · rw [timesFor_cons_of_ne call' _ key hkey', hrest]
      exact Nat.zero_le _

section TwoTexts

variable {env : Env} {client address text text' : Str} {allowed : Str → Prop} {n : Nat}

/-- `n` requests with one text in the header and one with another, all at one time. -/
def twoTexts (hproxy : address ∈ env.settings.trusted_proxy_ips)
    (client text text' : Str) (n : Nat) :
    List (Visit env.settings client) :=
  visitOf hproxy client text' :: List.replicate n (visitOf hproxy client text)

theorem mem_twoTexts {hproxy : address ∈ env.settings.trusted_proxy_ips}
    {visit : Visit env.settings client} (h : visit ∈ twoTexts hproxy client text text' n) :
    visit.now = 0 ∧ (visit.sent = some text' ∨ visit.sent = some text) := by
  rcases List.mem_cons.mp h with rfl | hmem
  · exact ⟨rfl, Or.inl rfl⟩
  · rw [List.eq_of_mem_replicate hmem]
    exact ⟨rfl, Or.inr rfl⟩

/-- With different first entries they are at most `n` for each key. -/
theorem twoTexts_room (hproxy : address ∈ env.settings.trusted_proxy_ips) (hn : 0 < n)
    (hne : firstEntry env.py text ≠ firstEntry env.py text') (key : Str) :
    (timesFor ((twoTexts hproxy client text text' n).map (Visit.check env)) key).length ≤ n := by
  have hkeys : ((visitOf hproxy client text').check env).key ≠
      ((visitOf hproxy client text).check env).key := by
    show getRealClientIp env.py env.settings (forwardedRequest address client text') ≠
      getRealClientIp env.py env.settings (forwardedRequest address client text)
    rw [getRealClientIp_forwarded (forwardedRequest_forwarded hproxy client text'),
      getRealClientIp_forwarded (forwardedRequest_forwarded hproxy client text)]
    exact Ne.symm hne
  rw [twoTexts]
  rw [List.map_cons, List.map_replicate]
  exact timesFor_two_keys hn hkeys key

/-- **Two identities are one request too many**: as many requests as the limit under the first,
    one under the second, all at one time. -/
theorem not_limitHolds_of_two_entries (hproxy : address ∈ env.settings.trusted_proxy_ips)
    (hlimit : 0 < env.settings.rate_limit_per_minute) (htext : allowed text)
    (htext' : allowed text') (hne : firstEntry env.py text ≠ firstEntry env.py text') :
    ¬ LimitHolds env client allowed := by
  intro hholds
  obtain ⟨n, hn⟩ := Int.eq_ofNat_of_zero_le hlimit.le
  have hordered : (twoTexts hproxy client text text' n).Pairwise (·.now ≤ ·.now) := by
    rw [List.pairwise_iff_forall_sublist]
    intro a b hab
    rw [(mem_twoTexts (hab.subset (by simp))).1, (mem_twoTexts (hab.subset (by simp))).1]
  have hallowed : ∀ visit ∈ twoTexts hproxy client text text' n, ∀ sent, visit.sent = some sent →
      allowed sent := by
    intro visit hvisit sent hsent
    rcases (mem_twoTexts hvisit).2 with h | h
    · rw [h] at hsent
      cases hsent
      exact htext'
    · rw [h] at hsent
      cases hsent
      exact htext
  have hsent : ∀ visit ∈ twoTexts hproxy client text text' n, visit.sent.isSome = true := by
    intro visit hvisit
    rcases (mem_twoTexts hvisit).2 with h | h
    · rw [h]
      rfl
    · rw [h]
      rfl
  have hall : ∀ answer ∈ enforceAll env
      ⟨Store.empty, none, newRateLimiter env.settings.rate_limit_per_minute⟩
      (twoTexts hproxy client text text' n), answer = true := by
    rw [enforceAll_eq]
    refine checkAll_of_room (fun key => ?_)
    show
      ((0 + (timesFor ((twoTexts hproxy client text text' n).map (Visit.check env)) key).length :
        Nat) :
      Int) ≤ env.settings.rate_limit_per_minute
    rw [hn, Nat.zero_add]
    exact Int.ofNat_le.mpr (twoTexts_room hproxy (by omega) hne key)
  have hcount := hholds ⟨Store.empty, none, newRateLimiter env.settings.rate_limit_per_minute⟩ _ rfl
    hordered hallowed 0
  rw [letThrough_of_all hsent hall, hn, Int.toNat_natCast, List.filter_eq_self.mpr, List.length_map]
    at hcount
  · rw [twoTexts] at hcount
    rw [List.length_cons, List.length_replicate] at hcount
    omega
  · intro t ht
    obtain ⟨visit, hvisit, rfl⟩ := List.mem_map.mp ht
    rw [(mem_twoTexts hvisit).1]
    decide +kernel

end TwoTexts

/-- **One client is counted under what it puts into the header.**  Two forwarded requests of a
    client are counted under one key iff the texts it sent have the same first entry; and the limit
    holds for a client exactly if all texts it may send have one (or nothing is let through). -/
theorem forwarded_identity_iff (env : Env) (client address : Str)
    (hproxy : address ∈ env.settings.trusted_proxy_ips) :
    (∀ (sent sent' : Str) (request request' : Request),
        Forwarded env.settings client sent request → Forwarded env.settings client sent' request' →
          (getRealClientIp env.py env.settings request = getRealClientIp env.py
            env.settings request' ↔
            firstEntry env.py sent = firstEntry env.py sent')) ∧
      ∀ allowed : Str → Prop, LimitHolds env client allowed ↔
        (env.settings.rate_limit_per_minute ≤ 0 ∨
          ∀ text text', allowed text → allowed text' →
            firstEntry env.py text = firstEntry env.py text') := by
  constructor
  · intro sent sent' request request' h h'
    rw [getRealClientIp_forwarded h, getRealClientIp_forwarded h']
  · intro allowed
    constructor
    · intro hholds
      by_cases hlimit : env.settings.rate_limit_per_minute ≤ 0
      · exact Or.inl hlimit
      · refine Or.inr fun text text' htext htext' => ?_
        by_contra hne
        exact not_limitHolds_of_two_entries hproxy (Int.not_le.mp hlimit) htext htext' hne hholds
    · rintro (hlimit | hsame)
      · exact limitHolds_of_no_room allowed hlimit
      · rcases Int.le_total env.settings.rate_limit_per_minute 0 with hlimit | hlimit
        · exact limitHolds_of_no_room allowed hlimit
        · by_cases hsome : ∃ text, allowed text
          · obtain ⟨text, htext⟩ := hsome
            exact limitHolds_of_one_entry hlimit fun text' htext' => hsame text' text htext' htext
          · exact limitHolds_of_one_entry hlimit
              fun text htext => (absurd ⟨text, htext⟩ hsome : firstEntry env.py text = [])

/-- One proxy, one request a minute. -/
def oneRequest : Env :=
  { Env.sample with
    settings := { trusted_proxy_ips := [str "10.0.0.1"], rate_limit_per_minute := 1 } }

theorem oneRequest_proxy : str "10.0.0.1" ∈ oneRequest.settings.trusted_proxy_ips := by decide

/-- The general result there: a client that sends one text is held to the limit, one that sends
    what it likes is not. -/
theorem oneRequest_identity :
    LimitHolds oneRequest (str "198.51.100.7") (fun text => text = []) ∧
      ¬ LimitHolds oneRequest (str "198.51.100.7") (fun _ => True) := by
  have hiff :=
    (forwarded_identity_iff oneRequest (str "198.51.100.7") (str "10.0.0.1") oneRequest_proxy).2
  constructor
  · rw [hiff]
    exact Or.inr (by rintro text text' rfl rfl; rfl)
  · rw [hiff]
    rintro (hlimit | hsame)
    · exact absurd hlimit (by decide)
    · exact absurd (hsame (str "1.1.1.1") (str "2.2.2.2") trivial trivial) (by decide)

/-- A client whose address is no proxy, with two texts in the header at one time: it is counted
    under two keys, and two requests are let through where the limit is one. -/
theorem two_identities_pass :
    str "198.51.100.7" ∉ oneRequest.settings.trusted_proxy_ips ∧
      getRealClientIp oneRequest.py oneRequest.settings
          (visitOf oneRequest_proxy (str "198.51.100.7") (str "1.1.1.1")).request ≠
        getRealClientIp oneRequest.py oneRequest.settings
          (visitOf oneRequest_proxy (str "198.51.100.7") (str "2.2.2.2")).request ∧
      letThrough oneRequest ⟨Store.empty, none, newRateLimiter 1⟩
        [visitOf oneRequest_proxy (str "198.51.100.7") (str "1.1.1.1"),
          visitOf oneRequest_proxy (str "198.51.100.7") (str "2.2.2.2")] = [0, 0] := by
  refine ⟨by decide, by decide, by decide +kernel⟩

end NetProbeRateLimit
