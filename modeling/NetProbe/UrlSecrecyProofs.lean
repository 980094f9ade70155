import NetProbe.PersistenceProofs
import NetProbe.RedirectLoopProofs

/-!
# What a recorded diagnostic keeps of its URLs

A URL submitted to the HTTP check leaves the request in two places: the fields `target_url`
and `target_host` of the log event, and the columns `requested_url` and `final_url` of the
stored row.  `recorded` is these four.

Two URLs have one `targetOf` if they agree on scheme, host and port, and path.  What the
record should keep is a function of it.  It keeps more: `redact_url` copies the network
location as it is, userinfo included, so the records of two checks with one target are equal
exactly if the userinfo is equal too (`recorded_eq_iff`); and a text that `urlsplit` refuses
is copied up to 2048 characters, with what follows its first `?` or `#`
(`redactUrl_refused_iff`).
-/

namespace NetProbePersistence

open NetProbePyText NetProbeConfig NetProbeUrlSplit NetProbeSecurity NetProbeCoreAuth
open NetProbeHttpService TracedRun

variable (py : Python) (settings : Settings) (crypto : Crypto)

/-- The target of a URL that `urlsplit` accepts. -/
def targetOf (url : Str) : Option Target := (urlsplit py url).map target

/-- The userinfo of a URL that `urlsplit` accepts. -/
def userinfoOf (url : Str) : Option (Option Str) := (urlsplit py url).map fun r => userinfo r.netloc

/-- What follows the first `?` or `#` of a text, if anything does. -/
def secretOf (url : Str) : Option Str :=
  match (cutBefore (fun c => c = '?' || c = '#') url).2 with
  | _ :: c :: cs => some (c :: cs)
  | _ => none

/-- `target_host` and `target_url` of the events, `requested_url` and `final_url` of the rows. -/
def recorded (sinks : List Sink) : List (Option Str × Option Str) × List (Str × Option Str) :=
  (sinks.filterMap fun
    | .log (.http_check _ target_host target_url _ _ _) => some (target_host, target_url)
    | _ => none,
   sinks.filterMap fun
    | .rows _ (.http _ requested_url _ _ _ _ _ final_url _ _ _ _ _ _ _ _ _) =>
        some (requested_url, final_url)
    | _ => none)

-- ── The text `redact_url` returns ─────────────────────────────────────────────────

section Redact

variable {py} {u u' : Str}

theorem redactUrl_cons (c : Char) (cs : Str) :
    redactUrl py (some (c :: cs)) =
      match urlsplit py (c :: cs) with
      | some parts =>
          (some (urlunsplit parts.scheme parts.netloc parts.path [] []),
            parts.query ≠ [] || parts.fragment ≠ [])
      | none => (some ((c :: cs).take 2048), false) := by
  unfold redactUrl
  rfl

/-- An accepted URL is put together again without query and fragment. -/
theorem redactUrl_accepted {c : Char} {cs : Str} {r : SplitResult}
    (hr : urlsplit py (c :: cs) = some r) :
    (redactUrl py (some (c :: cs))).1 = some (urlunsplit r.scheme r.netloc r.path [] []) := by
  rw [redactUrl_cons, hr]

/-- The text of an accepted URL splits into scheme, network location and path again. -/
theorem redactUrl_split {r : SplitResult} (hr : urlsplit py u = some r) :
    urlsplit py ((redactUrl py (some u)).1.getD []) =
      some ⟨r.scheme, r.netloc, r.path, [], []⟩ := by
  cases u with
  | nil =>
      have hempty : urlsplit py [] = some ⟨[], [], [], [], []⟩ := rfl
      rw [hempty] at hr
      cases hr
      exact hempty
  | cons c cs =>
      rw [redactUrl_accepted hr, Option.getD_some]
      exact urlsplit_urlunsplit (urlsplit_wellSplit hr)

/-- **What `redact_url` keeps.** The texts of two accepted URLs with one target are equal
    exactly if both URLs are empty or neither, and their userinfo is equal. -/
theorem redactUrl_eq_iff (htarget : targetOf py u = targetOf py u') (hsome : targetOf py u ≠ none) :
    (redactUrl py (some u)).1 = (redactUrl py (some u')).1 ↔
      (u = [] ↔ u' = []) ∧ userinfoOf py u = userinfoOf py u' := by
  unfold targetOf at htarget hsome
  cases hr : urlsplit py u with
  | none =>
      rw [hr] at hsome
      exact absurd rfl hsome
  | some r =>
      rw [hr] at htarget
      cases hr' : urlsplit py u' with
      | none =>
          rw [hr'] at htarget
          cases htarget
      | some r' =>
          rw [hr'] at htarget
          have ht : target r = target r' := Option.some.inj htarget
          have hinfo : userinfoOf py u = userinfoOf py u' ↔
              userinfo r.netloc = userinfo r'.netloc := by
            unfold userinfoOf
            rw [hr, hr']
            exact ⟨Option.some.inj, congrArg some⟩
          rw [hinfo]
          cases u with
          | nil =>
              cases u' with
              | nil =>
                  rw [hr] at hr'
                  cases hr'
                  simp
              | cons d ds =>
                  rw [redactUrl_accepted hr']
                  exact iff_of_false (fun h => nomatch h) fun h =>
                    absurd (h.1.mp rfl) (List.cons_ne_nil d ds)
          | cons c cs =>
              cases u' with
              | nil =>
                  rw [redactUrl_accepted hr]
                  exact iff_of_false (fun h => nomatch h) fun h =>
                    absurd (h.1.mpr rfl) (List.cons_ne_nil c cs)
              | cons d ds =>
                  rw [redactUrl_accepted hr, redactUrl_accepted hr', Option.some.injEq]
                  simp only [reduceCtorEq, true_and]
                  exact urlunsplit_eq_iff hr hr' ht

/-- A text that `urlsplit` refuses is copied up to 2048 characters. -/
theorem redactUrl_refused (h : urlsplit py u = none) :
    redactUrl py (some u) = (some (u.take 2048), false) := by
  cases u with
  | nil => cases h
  | cons c cs =>
      rw [redactUrl_cons, h]

/-- What follows the first delimiter is the end of the text. -/
theorem secretOf_suffix {s : Str} (h : secretOf u = some s) : s <:+ u := by
  rw [secretOf, cutBefore] at h
  dsimp only at h
  split at h
  · rename_i d c cs heq
    cases h
    have hsuffix : d :: c :: cs <:+ u := by
      rw [← heq]
      exact List.dropWhile_suffix _
    exact (List.suffix_cons d (c :: cs)).trans hsuffix
  · cases h

/-- **Refused texts.** The text of a refused URL of at most 2048 characters is free of what
    follows the first `?` or `#` exactly if nothing follows one. -/
theorem redactUrl_refused_iff (h : urlsplit py u = none) (hlen : u.length ≤ 2048) :
    (∀ s, secretOf u = some s → ¬ s <:+: (redactUrl py (some u)).1.getD []) ↔
      secretOf u = none := by
  rw [redactUrl_refused h, Option.getD_some, List.take_of_length_le hlen]
  constructor
  · intro hfree
    cases hs : secretOf u with
    | none => rfl
    | some s => exact absurd (secretOf_suffix hs).isInfix (hfree s hs)
  · intro hnone s hs
    rw [hnone] at hs
    cases hs

end Redact

-- ── What one check records ────────────────────────────────────────────────────────

/-- Rows are stored: persistence is enabled and the database carries the transaction out. -/
def persisted (c : HttpCall) : Bool :=
  settings.database_enabled && settings.diagnostic_persistence_enabled && c.call.dbFailure.isNone

/-- The result code the request ends with. -/
def resultCode (c : HttpCall) : Str :=
  match checkOutcome py settings c with
  | .ok _ => str "OK"
  | .error e => (failureOf e).code

/-- The final URL, if the check has a result. -/
def finalUrl (c : HttpCall) : Option Str :=
  match checkOutcome py settings c with
  | .ok result => some result.final_url
  | .error _ => none

section Handler

variable {py settings}

/-- The record of one call for an accepted URL. -/
theorem persist_recorded (settings : Settings) (call : Call) {payload : HttpCheckRequest}
    {data : Option HttpCheckResult} {r : SplitResult}
    (hr : urlsplit py (detailUrl payload data) = some r) :
    (persistDiagnostic py settings crypto call (.http payload data)).outcome = .ok () ∧
      recorded (persistDiagnostic py settings crypto call (.http payload data)).events =
        ([(hostname py r, (redactUrl py (some (detailUrl payload data))).1)],
          if settings.database_enabled && settings.diagnostic_persistence_enabled &&
              call.dbFailure.isNone then
            [(orElse (redactUrl py (some (detailUrl payload data))).1 (str "invalid"),
              (redactUrl py (data.map (·.final_url))).1)]
          else []) := by
  have hsplit := redactUrl_split hr
  have hhost : hostname py ⟨r.scheme, r.netloc, r.path, [], []⟩ = hostname py r := rfl
  rw [persistDiagnostic]
  simp only [logEvent, hsplit, Option.map_some, hhost]
  cases henabled : settings.database_enabled && settings.diagnostic_persistence_enabled with
  | false => exact ⟨rfl, rfl⟩
  | true =>
      cases hdb : call.dbFailure with
      | some error_type => exact ⟨rfl, rfl⟩
      | none =>
          simp only [resultRow, hsplit, Option.map_some]
          exact ⟨rfl, rfl⟩

/-- A result keeps the URL of the caller and ends at a valid URL. -/
theorem checkOutcome_ok {c : HttpCall} {result : HttpCheckResult}
    (h : checkOutcome py settings c = .ok result) :
    result.url = c.payload.url ∧ validateUrl py c.payload.url = .ok c.payload.url ∧
      validateUrl py result.final_url = .ok result.final_url := by
  rw [checkOutcome] at h
  rcases performHttpCheck_cases py settings c.net c.payload.url c.payload.method
    c.payload.follow_redirects with ⟨e, hbad, heq⟩ | ⟨hvalid, events, out, hloop, heq⟩
  · rw [heq] at h
    cases h
  · rw [heq] at h
    obtain ⟨hurl, -, hlast⟩ := hloop.result h
    obtain ⟨i, hi⟩ := mem_sends.mp (List.mem_of_getLast? hlast)
    obtain ⟨-, answer, ha⟩ := hloop.send_mem_iff.mp hi
    exact ⟨hurl, hvalid, ha.valid⟩

/-- The record of a request whose URL is accepted by `urlsplit`. -/
theorem httpCheck_recorded {c : HttpCall} {r : SplitResult}
    (hr : urlsplit py c.payload.url = some r) :
    recorded (httpCheck py settings crypto c).events =
      ([(hostname py r, (redactUrl py (some c.payload.url)).1)],
        if persisted settings c then
          [(orElse (redactUrl py (some c.payload.url)).1 (str "invalid"),
            (redactUrl py (finalUrl py settings c)).1)]
        else []) := by
  rw [httpCheck, finalUrl]
  cases hout : checkOutcome py settings c with
  | error e =>
      have hdetail : urlsplit py (detailUrl c.payload none) = some r := hr
      obtain ⟨hok, hrec⟩ := persist_recorded crypto settings (failedCall c (failureOf e)) hdetail
      have hevents : (failure py settings crypto c (failureOf e)).events =
          (persistDiagnostic py settings crypto (failedCall c (failureOf e))
            (.http c.payload none)).events := by
        rw [failure]
        rw [Traced.bind_eq, Traced.bind_of_ok hok]
        exact List.append_nil _
      show recorded (failure py settings crypto c (failureOf e)).events = _
      rw [hevents]
      exact hrec
  | ok result =>
      have hurl : detailUrl c.payload (some result) = c.payload.url := (checkOutcome_ok hout).1
      have hdetail : urlsplit py (detailUrl c.payload (some result)) = some r := by rwa [hurl]
      obtain ⟨hok, hrec⟩ := persist_recorded crypto settings (okCall c) hdetail
      simp only [hok]
      rw [hrec, hurl]
      rfl

end Handler

-- ── Two checks with one target ────────────────────────────────────────────────────

/-- Two requests that a record must not tell apart: the submitted URLs have one target, so
    have the final ones, and the requests end with the same code and are stored both or
    neither. -/
structure SameTargets (a b : HttpCall) : Prop where
  accepted : targetOf py a.payload.url ≠ none
  url : targetOf py a.payload.url = targetOf py b.payload.url
  code : resultCode py settings a = resultCode py settings b
  final : (finalUrl py settings a).map (targetOf py) = (finalUrl py settings b).map (targetOf py)
  stored : persisted settings a = persisted settings b

/-- What a record keeps beyond the target: whether the URL is empty, and the userinfo of the
    URLs it holds. -/
structure SameUserinfo (a b : HttpCall) : Prop where
  empty : a.payload.url = [] ↔ b.payload.url = []
  url : userinfoOf py a.payload.url = userinfoOf py b.payload.url
  final : persisted settings a = true →
    (finalUrl py settings a).map (userinfoOf py) = (finalUrl py settings b).map (userinfoOf py)

section Compare

variable {py settings}

/-- A failure never has the code of a result. -/
theorem failureOf_code (e : ProbeError) : (failureOf e).code ≠ str "OK" := by
  cases e <;> (simp only [failureOf]; decide)

/-- Two requests with one result code have both a final URL or neither. -/
theorem finalUrl_cases {a b : HttpCall} (h : resultCode py settings a = resultCode py settings b) :
    (finalUrl py settings a = none ∧ finalUrl py settings b = none) ∨
    ∃ fa fb, finalUrl py settings a = some fa ∧ finalUrl py settings b = some fb ∧
      validateUrl py fa = .ok fa ∧ validateUrl py fb = .ok fb := by
  unfold resultCode at h
  unfold finalUrl
  cases ha : checkOutcome py settings a with
  | error e =>
      cases hb : checkOutcome py settings b with
      | error e' => exact Or.inl ⟨rfl, rfl⟩
      | ok result' =>
          rw [ha, hb] at h
          exact absurd h (failureOf_code e)
  | ok result =>
      cases hb : checkOutcome py settings b with
      | error e' =>
          rw [ha, hb] at h
          exact absurd h.symm (failureOf_code e')
      | ok result' =>
          exact Or.inr ⟨_, _, rfl, rfl, (checkOutcome_ok ha).2.2, (checkOutcome_ok hb).2.2⟩

/-- The recorded final URLs are equal exactly if their userinfo is. -/
theorem final_eq_iff {a b : HttpCall} (h : SameTargets py settings a b) :
    (redactUrl py (finalUrl py settings a)).1 = (redactUrl py (finalUrl py settings b)).1 ↔
      (finalUrl py settings a).map (userinfoOf py) =
      (finalUrl py settings b).map (userinfoOf py) := by
  rcases finalUrl_cases h.code with ⟨ha, hb⟩ | ⟨fa, fb, ha, hb, hva, hvb⟩
  · rw [ha, hb]
    simp
  · have hfinal := h.final
    rw [ha, hb] at hfinal ⊢
    obtain ⟨-, hane, -, ra, host, hra, -⟩ := validateUrl_ok hva
    obtain ⟨-, hbne, -⟩ := validateUrl_ok hvb
    have hsome : targetOf py fa ≠ none := by
      rw [targetOf]
      rw [hra]
      simp
    rw [redactUrl_eq_iff (Option.some.inj hfinal) hsome]
    simp [hane, hbne]

/-- **What a record keeps.** The records of two requests with one target are equal exactly if
    the userinfo of the URLs in them is equal (and both URLs are empty or neither). -/
theorem recorded_eq_iff {a b : HttpCall} (h : SameTargets py settings a b) :
    recorded (httpCheck py settings crypto a).events = recorded
      (httpCheck py settings crypto b).events ↔
      SameUserinfo py settings a b := by
  have hurl := h.url
  have haccepted := h.accepted
  have hredact := redactUrl_eq_iff h.url h.accepted
  unfold targetOf at hurl haccepted
  cases hra : urlsplit py a.payload.url with
  | none =>
      rw [hra] at haccepted
      exact absurd rfl haccepted
  | some ra =>
      rw [hra] at hurl
      cases hrb : urlsplit py b.payload.url with
      | none =>
          rw [hrb] at hurl
          cases hurl
      | some rb =>
          rw [hrb] at hurl
          have hhostinfo : hostinfo ra.netloc = hostinfo rb.netloc :=
            congrArg Target.hostinfo (Option.some.inj hurl)
          have hhost : hostname py ra = hostname py rb := by
            unfold hostname
            rw [hhostinfo]
          rw [httpCheck_recorded crypto hra, httpCheck_recorded crypto hrb, hhost, ← h.stored]
          cases hp : persisted settings a with
          | false =>
              constructor
              · intro heq
                have htext : (redactUrl py (some a.payload.url)).1 =
                    (redactUrl py (some b.payload.url)).1 := by
                  simpa using heq
                obtain ⟨hempty, hinfo⟩ := hredact.mp htext
                exact ⟨hempty, hinfo, fun hpt => by rw [hp] at hpt; cases hpt⟩
              · intro hs
                rw [hredact.mpr ⟨hs.empty, hs.url⟩]
                rfl
          | true =>
              constructor
              · intro heq
                have htext : (redactUrl py (some a.payload.url)).1 =
                    (redactUrl py (some b.payload.url)).1 := by
                  have := congrArg Prod.fst heq
                  simpa using this
                have hfinal : (redactUrl py (finalUrl py settings a)).1 =
                    (redactUrl py (finalUrl py settings b)).1 := by
                  have := congrArg Prod.snd heq
                  simp only [if_true, List.cons.injEq, Prod.mk.injEq, and_true] at this
                  exact this.2
                obtain ⟨hempty, hinfo⟩ := hredact.mp htext
                exact ⟨hempty, hinfo, fun _ => (final_eq_iff h).mp hfinal⟩
              · intro hs
                rw [hredact.mpr ⟨hs.empty, hs.url⟩, (final_eq_iff h).mpr (hs.final hp)]

end Compare

/-- A request with the given URL, in a world in which nothing is reached. -/
def plainCall (url : Str) (h : url.length ≤ 2048) : HttpCall where
  payload := ⟨url, str "GET", 5000, true, h⟩
  net := rebindingNet
  call :=
    { request := ⟨str "/api/v1/http-check", some (str "198.51.100.7"), fun _ => none, fun _ => none⟩
      request_id := str "r1"
      current_user := none
      success := false
      result_code := []
      api_status_code := 0
      duration_ms := 0
      started_at := 0
      error_message := none
      completed_at := 0
      dbFailure := none }

end NetProbePersistence
