import NetProbe.PersistenceProofs

/-!
# How much of a body is read

`perform_http_check` receives the body of the last response chunk by chunk, up to the chunk with
which it reaches the limit; the body of a redirect that is followed is not received at all.  So
a server may go on for ever: whatever it sends after that, nothing is looked up, sent, recorded
or answered differently (`rest_of_body_unread`).
-/

namespace NetProbeBodyLimit

open NetProbePyText NetProbeConfig NetProbeUrlSplit NetProbeSecurity NetProbeCoreAuth
open NetProbeHttpService NetProbePersistence TracedRun

-- ── Chunks ────────────────────────────────────────────────────────────────────────

/-- The chunks that are received, with the failure that ends them if there is one. -/
def readChunks (limit : Int) : Int → List (Except SendError Nat) → List (Except SendError Nat)
  | _, [] => []
  | _, .error e :: _ => [.error e]
  | received, .ok n :: rest =>
      .ok n :: if limit ≤ received + n then [] else readChunks limit (received + n) rest

section Chunks

variable {limit received total : Int} {chunks chunks' : List (Except SendError Nat)}

theorem readChunks_initial : readChunks limit received chunks <+: chunks := by
  induction chunks generalizing received with
  | nil => exact List.prefix_refl _
  | cons chunk rest ih =>
      cases chunk with
      | error e =>
          rw [readChunks]
          exact ⟨rest, rfl⟩
      | ok n =>
          rw [readChunks]
          refine List.cons_prefix_cons.mpr ⟨rfl, ?_⟩
          split
          next => exact List.nil_prefix
          next => exact ih

/-- What is received is decided by the chunks that are. -/
theorem receive_readChunks : receive limit received (readChunks limit received chunks) =
    receive limit received chunks := by
  induction chunks generalizing received with
  | nil => rfl
  | cons chunk rest ih =>
      cases chunk with
      | error e => rfl
      | ok n =>
          rw [readChunks, receive, receive]
          by_cases hlimit : limit ≤ received + n
          · rw [if_pos hlimit, if_pos hlimit]
          · rw [if_neg hlimit, if_neg hlimit, if_neg hlimit, ih]

theorem receive_congr (h : readChunks limit received chunks = readChunks limit received chunks') :
    receive limit received chunks = receive limit received chunks' := by
  rw [← receive_readChunks, h, receive_readChunks]

/-- The limit is passed by less than one chunk. -/
theorem receive_lt {m : Nat} (hm : ∀ n, .ok n ∈ chunks → n ≤ m) (hstart : received < limit)
    (h : receive limit received chunks = .ok total) : total < limit + m := by
  induction chunks generalizing received with
  | nil =>
      cases h
      omega
  | cons chunk rest ih =>
      cases chunk with
      | error e => cases h
      | ok n =>
          have hn : n ≤ m := hm n List.mem_cons_self
          rw [receive] at h
          by_cases hlimit : limit ≤ received + n
          · rw [if_pos hlimit] at h
            cases h
            omega
          · rw [if_neg hlimit] at h
            exact ih (fun n hn => hm n (List.mem_cons_of_mem _ hn)) (Int.not_le.mp hlimit) h

end Chunks

-- ── Servers ───────────────────────────────────────────────────────────────────────

/-- What two servers send to a hop differs in chunks that are not received, at the most. -/
def SameRead (settings : Settings) (follow : Bool) (hop : Nat) :
    Except SendError Response → Except SendError Response → Prop
  | .error e, .error e' => e = e'
  | .ok r, .ok r' => ∃ chunks, r' = { r with chunks := chunks } ∧
      ((redirectTarget settings follow hop r).isSome = true ∨
        readChunks settings.max_response_bytes 0 r.chunks =
          readChunks settings.max_response_bytes 0 chunks)
  | _, _ => False

section Servers

variable {py : Python} {settings : Settings} {crypto : Crypto} {net : Net}
  {method : Str} {follow : Bool}
  {serve : Nat → Str → Str → Except SendError Response}

/-- One hop: it ends alike, or with two responses of the same head. -/
theorem sendHop_serve (py : Python) {hop : Nat} {u : Str}
    (h : SameRead settings follow hop (net.send hop method u) (serve hop method u)) :
    (sendHop py settings { net with
      send := serve } method hop u = sendHop py settings net method hop u ∧
        ∃ e, (sendHop py settings net method hop u).outcome = .error e) ∨
      ∃ r r' ip, (sendHop py settings net method hop u).outcome = .ok (r, ip) ∧
        sendHop py settings { net with send := serve } method hop u =
          ⟨(sendHop py settings net method hop u).events, .ok (r', ip)⟩ ∧
        SameRead settings follow hop (.ok r) (.ok r') := by
  rw [sendHop, sendHop]
  cases urlsplit py u with
  | none => exact .inl ⟨rfl, _, rfl⟩
  | some parts =>
      dsimp only
      rw [Traced.bind_eq, Traced.bind_eq]
      have hresolve : resolveAndValidate py settings { net with
          send := serve } hop (hostname py parts) =
          resolveAndValidate py settings net hop (hostname py parts) := rfl
      rw [hresolve]
      cases hout : (resolveAndValidate py settings net hop (hostname py parts)).outcome with
      | error e =>
          rw [Traced.bind_of_error hout, Traced.bind_of_error hout]
          exact .inl ⟨rfl, e, rfl⟩
      | ok ips =>
          rw [Traced.bind_of_ok hout, Traced.bind_of_ok hout]
          dsimp only
          cases net.build_request method u with
          | error name => exact .inl ⟨rfl, _, rfl⟩
          | ok _ =>
              dsimp only
              cases hsend : net.send hop method u with
              | error e =>
                  cases hserve : serve hop method u with
                  | error e' =>
                      rw [hsend, hserve] at h
                      cases h
                      exact .inl ⟨rfl, _, rfl⟩
                  | ok r' =>
                      rw [hsend, hserve] at h
                      cases h
              | ok r =>
                  cases hserve : serve hop method u with
                  | error e' =>
                      rw [hsend, hserve] at h
                      cases h
                  | ok r' =>
                      rw [hsend, hserve] at h
                      exact .inr ⟨r, r', ips.head?, rfl, rfl, h⟩

/-- Responses of one head give the same result. -/
theorem finish_serve {url u : Str} {i : Nat} {r : Response} {ip : Option Str}
    {chunks : List (Except SendError Nat)}
    (h : readChunks settings.max_response_bytes 0 r.chunks =
      readChunks settings.max_response_bytes 0 chunks) :
    finish py settings { net with send := serve } url u i { r with chunks := chunks } ip =
      finish py settings net url u i r ip := by
  rw [finish, finish, receive_congr h]

/-- **The rest of the chain is the same**, hop by hop. -/
theorem checkLoop_serve
    (h : ∀ hop u, SameRead settings follow hop (net.send hop method u) (serve hop method u))
    (url : Str) (i : Nat) (u : Str) :
    checkLoop py settings { net with send := serve } method follow url i u =
      checkLoop py settings net method follow url i u := by
  -- the redirect budget that is left decreases with every followed redirect
  induction hn : (settings.max_redirects - i).toNat using Nat.strong_induction_on
    generalizing i u with
  | _ n ih =>
      rw [checkLoop_eq, checkLoop_eq]
      rcases sendHop_serve py (h i u) with ⟨heq, e, he⟩ | ⟨r, r', ip, hout, heq, hsame⟩
      · rw [heq, Traced.bind_of_error he, Traced.bind_of_error he]
      · obtain ⟨chunks, rfl, hread⟩ := hsame
        rw [heq, Traced.bind_of_ok hout, Traced.bind_of_ok rfl]
        have htarget : redirectTarget settings follow i { r with chunks := chunks } =
            redirectTarget settings follow i r := rfl
        rw [htarget]
        cases hloc : redirectTarget settings follow i r with
        | none =>
            rw [hloc] at hread
            have hchunks := hread.resolve_left Bool.false_ne_true
            dsimp only [Option.elim]
            rw [finish_serve hchunks]
        | some location =>
            have hlt := lt_of_redirectTarget hloc
            dsimp only [Option.elim]
            have hrest :
                ((nextUrl py { net with send := serve } (i + 1) u location).bind fun next =>
                if settings.max_redirects < ((i + 1 : Nat) : Int) then
                  .raise (.tooManyRedirectsError (str "리다이렉트 횟수 제한을 초과했습니다."))
                else checkLoop py settings { net with
                  send := serve } method follow url (i + 1) next) =
                (nextUrl py net (i + 1) u location).bind fun next =>
                  if settings.max_redirects < ((i + 1 : Nat) : Int) then
                    .raise (.tooManyRedirectsError (str "리다이렉트 횟수 제한을 초과했습니다."))
                  else checkLoop py settings net method follow url (i + 1) next := by
              refine congrArg (Traced.bind (nextUrl py net (i + 1) u location))
                (funext fun next => ?_)
              rw [ih _ (by omega) (i + 1) next rfl]
            rw [hrest]

theorem performHttpCheck_serve (py : Python)
    (h : ∀ hop u, SameRead settings follow hop (net.send hop method u) (serve hop method u))
    (url : Str) :
    performHttpCheck py settings { net with send := serve } url method follow =
      performHttpCheck py settings net url method follow := by
  rw [performHttpCheck, performHttpCheck]
  refine congrArg (Traced.bind _) (funext fun _ => congrArg (Traced.bind _) (funext fun _ => ?_))
  exact congrArg (Traced.bind _) (funext fun _ => checkLoop_serve h url 0 url)

/-- **The rest of a body is not read.**  Let servers send other chunks after the one that reaches
    the limit, and other bodies with the redirects that are followed: the check looks up, sends and
    connects as before and ends as before, and the handler records and answers the same.  What is
    received of a body in chunks of at most `m` bytes stays below the limit and one chunk. -/
theorem rest_of_body_unread (c : HttpCall) {serve : Nat → Str → Str → Except SendError Response}
    (h : ∀ hop u, SameRead settings c.payload.follow_redirects hop
      (c.net.send hop c.payload.method u)
      (serve hop c.payload.method u)) :
    performHttpCheck py settings { c.net with send := serve } c.payload.url c.payload.method
        c.payload.follow_redirects =
      performHttpCheck py settings c.net c.payload.url c.payload.method c.payload.follow_redirects ∧
    httpCheck py settings crypto { c with net := { c.net with send := serve } } =
      httpCheck py settings crypto c ∧
    ∀ chunks received (m : Nat), 0 < settings.max_response_bytes → (∀ n, .ok n ∈ chunks → n ≤ m) →
      receive settings.max_response_bytes 0 chunks = .ok received →
        readChunks settings.max_response_bytes 0 chunks <+: chunks ∧
          received < settings.max_response_bytes + m := by
  have hcheck := performHttpCheck_serve py h c.payload.url
  refine ⟨hcheck, ?_, fun chunks received m hlimit hm hreceived =>
    ⟨readChunks_initial, receive_lt hm hlimit hreceived⟩⟩
  have houtcome : checkOutcome py settings { c with net := { c.net with send := serve } } =
      checkOutcome py settings c := congrArg Traced.outcome hcheck
  rw [httpCheck, httpCheck, houtcome]
  rfl

end Servers

/-- A server whose body reaches the limit with its first chunk. -/
def fullBody (rest : List (Except SendError Nat)) : Net where
  getaddrinfo := fun _ _ => .ok [str "93.184.216.34"]
  build_request := fun _ _ => .ok ()
  dial := fun _ _ => [str "93.184.216.34"]
  send := fun _ _ _ => .ok ⟨200, str "OK", none, none, none, none, .ok 1000000 :: rest⟩
  join := fun _ _ => none
  elapsed_ms := 1

theorem fullBody_url_le : (str "http://example.com/").length ≤ 2048 := by decide

/-- A check of that server. -/
def fullBodyCall : HttpCall where
  payload := ⟨str "http://example.com/", str "GET", 5000, true, fullBody_url_le⟩
  net := fullBody []
  call :=
    ⟨⟨str "/api/v1/http-check", none, fun _ => none, fun _ => none⟩, str "run-1", none,
      false, [], 0, 12, 0, none, 5, none⟩

theorem failing_rest_unread : (httpCheck .asciiOnly {} .plain
      { fullBodyCall with net := fullBody [.error .readTimeout] }) = httpCheck .asciiOnly
        {} .plain fullBodyCall ∧
    ((httpCheck .asciiOnly {} .plain fullBodyCall).outcome.toOption.map (·.code)) =
      some (str "OK") := by
  have hsame :
      ∀ hop u, SameRead {} true hop (fullBodyCall.net.send hop fullBodyCall.payload.method u)
      ((fullBody [.error .readTimeout]).send hop fullBodyCall.payload.method u) :=
    fun _ _ => ⟨[.ok 1000000, .error .readTimeout], rfl, .inr rfl⟩
  exact ⟨(rest_of_body_unread fullBodyCall hsame).2.1, by decide +kernel⟩

end NetProbeBodyLimit
