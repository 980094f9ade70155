import NetProbe.ProbeHandlersProofs

/-!
# What a lookup of TXT records leaves behind

A TXT record may hold a secret, so the row of a lookup of type `TXT` keeps the number of its
records and not their values.  The same details go to the log as well, through other code.

Two worlds of one shape (`SameShape`) answer every question with equally many records and
differ at most in what the records say.  The rows of a lookup in two such worlds are always
equal (`rows_same`).  Its log events are equal in all of them exactly if no record was
returned (`txt_kept_iff`): the event carries the values.
-/

namespace NetProbeTxtSecrecy

open NetProbePyText NetProbeConfig NetProbeSecurity NetProbeCoreAuth NetProbeDnsService
open NetProbePersistence NetProbeProbeHandlers TracedRun

-- ── Worlds of one shape ───────────────────────────────────────────────────────────

/-- What is left of an answer without the contents of its records. -/
def answerShape (answer : DnsAnswer) : Nat × Option Int := (answer.rdatas.length, answer.ttl)

/-- The worlds differ at most in the contents of the records they answer with. -/
structure SameShape (net net' : DnsNet) : Prop where
  nameservers : net'.nameservers = net.nameservers
  resolve : ∀ domain record_type,
    (net'.resolve domain record_type).map answerShape =
      (net.resolve domain record_type).map answerShape
  elapsed_ms : net'.elapsed_ms = net.elapsed_ms

/-- The events of the log. -/
def logsOf (sinks : List Sink) : List LogEvent :=
  sinks.filterMap fun
    | .log event => some event
    | .rows _ _ => none

/-- The rows of the committed transactions. -/
def rowsOf (sinks : List Sink) : List (DiagnosticRun × ResultRow) :=
  sinks.filterMap fun
    | .log _ => none
    | .rows run result => some (run, result)

/-- The lookup in another world. -/
def inWorld (c : DnsCall) (net : DnsNet) : DnsCall := { c with net := net }

/-- The result of a lookup that is answered. -/
def lookedUp (c : DnsCall) (net : DnsNet) (domain : Str) (nameservers : List Str)
    (answer : DnsAnswer) :
    DnsLookupResult where
  domain := domain
  record_type := c.payload.record_type
  records := answer.rdatas.map (formatRecord c.payload.record_type)
  ttl := answer.ttl
  resolver := nameservers.head?
  lookup_time_ms := net.elapsed_ms

/-- The lookup is answered in its world. -/
structure Answered (py : Python) (c : DnsCall) (domain : Str) (nameservers : List Str)
    (answer : DnsAnswer) : Prop where
  valid : validateDomain py c.payload.domain = .ok domain
  asked : c.net.nameservers = .ok nameservers
  answered : c.net.resolve domain c.payload.record_type = .ok answer

section Worlds

variable {py : Python} {c : DnsCall} {net' : DnsNet} {domain : Str} {nameservers : List Str}
  {answer : DnsAnswer}

theorem SameShape.refl (net : DnsNet) : SameShape net net := ⟨rfl, fun _ _ => rfl, rfl⟩

/-- A lookup that is answered returns what it was answered. -/
theorem dnsProbe_answered (h : Answered py c domain nameservers answer) :
    (dnsProbe py c).outcome = .ok (lookedUp c c.net domain nameservers answer) := by
  unfold dnsProbe performDnsLookup
  rw [h.valid, h.asked]
  dsimp only
  rw [Traced.bind_eq, Traced.bind_tell, h.answered]
  rfl

/-- A lookup that is answered is answered in a world of the same shape. -/
theorem Answered.same (h : Answered py c domain nameservers answer)
    (hshape : SameShape c.net net') :
    ∃ answer', Answered py (inWorld c net') domain nameservers answer' ∧
      answerShape answer' = answerShape answer := by
  have hresolve := hshape.resolve domain c.payload.record_type
  rw [h.answered] at hresolve
  cases hanswer' : net'.resolve domain c.payload.record_type with
  | error e =>
      rw [hanswer'] at hresolve
      cases hresolve
  | ok answer' =>
      rw [hanswer'] at hresolve
      refine ⟨answer', ⟨h.valid, ?_, hanswer'⟩, Except.ok.inj hresolve⟩
      exact hshape.nameservers.trans h.asked

/-- A lookup that is not answered fails alike in the worlds of its shape. -/
theorem dnsProbe_unanswered
    (hno : ∀ domain nameservers answer, ¬ Answered py c domain nameservers answer)
    (hshape : SameShape c.net net') :
    ∃ e, (dnsProbe py c).outcome = .error e ∧
      (dnsProbe py (inWorld c net')).outcome = .error e := by
  unfold dnsProbe
  have hpayload : (inWorld c net').payload = c.payload := rfl
  have hnet : (inWorld c net').net = net' := rfl
  rw [hpayload, hnet]
  cases hdomain : validateDomain py c.payload.domain with
  | error e => exact ⟨_, rfl, rfl⟩
  | ok domain =>
      unfold performDnsLookup
      dsimp only
      rw [hshape.nameservers]
      cases hservers : c.net.nameservers with
      | error name => exact ⟨_, rfl, rfl⟩
      | ok nameservers =>
          dsimp only
          rw [Traced.bind_eq, Traced.bind_tell, Traced.bind_eq, Traced.bind_tell]
          have hresolve := hshape.resolve domain c.payload.record_type
          cases hanswer : c.net.resolve domain c.payload.record_type with
          | ok answer => exact absurd ⟨hdomain, hservers, hanswer⟩ (hno domain nameservers answer)
          | error failure =>
              rw [hanswer] at hresolve
              cases hanswer' : net'.resolve domain c.payload.record_type with
              | ok answer' =>
                  rw [hanswer'] at hresolve
                  cases hresolve
              | error failure' =>
                  rw [hanswer'] at hresolve
                  cases hresolve
                  exact ⟨_, rfl, rfl⟩

end Worlds

-- ── What a lookup records ─────────────────────────────────────────────────────────

section Recorded

variable {py : Python} {settings : Settings} {crypto : Crypto} {c : DnsCall} {net' : DnsNet}
  {domain : Str} {nameservers : List Str} {answer answer' : DnsAnswer}

/-- The call of `persist_diagnostic` for a lookup that returned. -/
def returnedCall (c : DnsCall) : Call :=
  { c.call with
    success := true, result_code := str "OK", api_status_code := 200, error_message := none }

/-- The details of a lookup that returned. -/
def returnedDetails (c : DnsCall) (net : DnsNet) (domain : Str) (nameservers : List Str)
    (answer : DnsAnswer) : Details :=
  .dns c.payload (some (dnsLookupData (lookedUp c net domain nameservers answer)))

/-- What a lookup that is answered leaves is the record of its answer. -/
theorem dnsLookup_answered (h : Answered py c domain nameservers answer) :
    (dnsLookup py settings crypto c).events =
      (persistDiagnostic py settings crypto (returnedCall c)
        (returnedDetails c c.net domain nameservers answer)).events := by
  rw [dnsLookup]
  rw [dnsProbe_answered h]
  dsimp only
  rw [Traced.tryCatch_of_ok (a := ⟨200, str "OK", [],
    some (.dns (dnsLookupData (lookedUp c c.net domain nameservers answer)))⟩) recordResult_outcome]
  rw [recordResult]
  rw [Traced.bind_eq, Traced.bind_of_ok persistDiagnostic_outcome]
  exact List.append_nil _

/-- What a lookup that is not answered leaves does not depend on the world. -/
theorem dnsLookup_unanswered
    (hno : ∀ domain nameservers answer, ¬ Answered py c domain nameservers answer)
    (hshape : SameShape c.net net') :
    (dnsLookup py settings crypto (inWorld c net')).events =
    (dnsLookup py settings crypto c).events := by
  obtain ⟨e, he, he'⟩ := dnsProbe_unanswered hno hshape
  unfold dnsLookup
  rw [he, he']
  rfl

/-- The first event of a record is its log event. -/
theorem logsOf_head {call : Call} {details : Details} {event : LogEvent}
    (hlog : logEvent py settings crypto call details = some event) :
    (logsOf (persistDiagnostic py settings crypto call details).events).head? = some event := by
  rw [persistDiagnostic]
  rw [hlog]
  dsimp only
  rw [Traced.bind_eq, Traced.bind_tell]
  rfl

/-- The rows of a record depend on the row of the details and their type. -/
theorem rowsOf_congr {call : Call} {details details' : Details} {event event' : LogEvent}
    (hlog : logEvent py settings crypto call details = some event)
    (hlog' : logEvent py settings crypto call details' = some event')
    (hrow : resultRow py call details = resultRow py call details')
    (htype : details.type = details'.type) :
    rowsOf (persistDiagnostic py settings crypto call details).events =
      rowsOf (persistDiagnostic py settings crypto call details').events := by
  unfold persistDiagnostic
  rw [hlog, hlog', hrow, htype]
  dsimp only
  rw [Traced.bind_eq, Traced.bind_tell, Traced.bind_eq, Traced.bind_tell]
  rfl

/-- The log event of a lookup that is answered. -/
theorem logEvent_returned {net : DnsNet} :
    logEvent py settings crypto (returnedCall c) (returnedDetails c net domain nameservers answer) =
      some
        (.dns_lookup (commonFields py settings crypto (returnedCall c)) domain c.payload.record_type
        (answer.rdatas.map (formatRecord c.payload.record_type)) nameservers.head?
        (some net.elapsed_ms)) :=
  rfl

/-- The row of a lookup of type `TXT` keeps the number of the records. -/
theorem resultRow_same {net : DnsNet} (htxt : c.payload.record_type = str "TXT")
    (helapsed : net'.elapsed_ms = net.elapsed_ms)
    (hshape : answerShape answer' = answerShape answer) :
    resultRow py (returnedCall c) (returnedDetails c net' domain nameservers answer') =
      resultRow py (returnedCall c) (returnedDetails c net domain nameservers answer) := by
  have hlength : answer'.rdatas.length = answer.rdatas.length := congrArg Prod.fst hshape
  have httl : answer'.ttl = answer.ttl := congrArg Prod.snd hshape
  simp [resultRow, returnedDetails, dnsLookupData, lookedUp, htxt, hlength, httl, helapsed]

end Recorded

-- ── What depends on the values ────────────────────────────────────────────────────

section Kept

variable (py : Python) (settings : Settings) (crypto : Crypto)

/-- Neither sink depends on what the records say. -/
def KeepsText (c : DnsCall) : Prop :=
  ∀ net', SameShape c.net net' →
    logsOf (dnsLookup py settings crypto (inWorld c net')).events =
        logsOf (dnsLookup py settings crypto c).events ∧
      rowsOf (dnsLookup py settings crypto (inWorld c net')).events =
        rowsOf (dnsLookup py settings crypto c).events

/-- The lookup fails, or is answered with no record. -/
def ReturnsNone (c : DnsCall) : Prop :=
  ∀ domain nameservers answer, Answered py c domain nameservers answer → answer.rdatas = []

/-- The world in which every record says more. -/
def longer (net : DnsNet) : DnsNet :=
  { net with
    resolve := fun domain record_type => (net.resolve domain record_type).map fun answer =>
      { answer with rdatas := answer.rdatas.map fun r => { r with
        strings := r.strings ++ ['x'] } } }

variable {py settings crypto} {c : DnsCall} {net' : DnsNet}

theorem sameShape_longer (net : DnsNet) : SameShape net (longer net) := by
  refine ⟨rfl, fun domain record_type => ?_, rfl⟩
  rw [longer]
  dsimp only
  cases net.resolve domain record_type with
  | error e => rfl
  | ok answer => simp [Except.map, answerShape]

/-- **The rows do not depend on what the records say.** -/
theorem rows_same (htxt : c.payload.record_type = str "TXT") (hshape : SameShape c.net net') :
    rowsOf (dnsLookup py settings crypto (inWorld c net')).events =
      rowsOf (dnsLookup py settings crypto c).events := by
  by_cases hanswered : ∃ domain nameservers answer, Answered py c domain nameservers answer
  · obtain ⟨domain, nameservers, answer, h⟩ := hanswered
    obtain ⟨answer', h', hsame⟩ := h.same hshape
    rw [dnsLookup_answered h, dnsLookup_answered h']
    exact rowsOf_congr logEvent_returned logEvent_returned
      (resultRow_same htxt hshape.elapsed_ms hsame) rfl
  · rw [dnsLookup_unanswered (fun domain nameservers answer h =>
      hanswered ⟨domain, nameservers, answer, h⟩) hshape]

/-- A lookup that returns a record logs what it says. -/
theorem logs_differ {domain : Str} {nameservers : List Str} {answer : DnsAnswer}
    (htxt : c.payload.record_type = str "TXT") (h : Answered py c domain nameservers answer)
    (hsome : answer.rdatas ≠ []) :
    logsOf (dnsLookup py settings crypto (inWorld c (longer c.net))).events ≠
      logsOf (dnsLookup py settings crypto c).events := by
  have h' : Answered py (inWorld c (longer c.net)) domain nameservers
      { answer with rdatas := answer.rdatas.map fun r => { r with
        strings := r.strings ++ ['x'] } } := by
    refine ⟨h.valid, h.asked, ?_⟩
    show (c.net.resolve domain c.payload.record_type).map _ = _
    rw [h.answered]
    rfl
  intro heq
  have hhead := congrArg List.head? heq
  rw [dnsLookup_answered h, dnsLookup_answered h', logsOf_head logEvent_returned,
    logsOf_head logEvent_returned] at hhead
  have hrecords : (answer.rdatas.map fun r => { r with strings := r.strings ++ ['x'] }).map
      (formatRecord c.payload.record_type) =
        answer.rdatas.map (formatRecord c.payload.record_type) := by
    have hevent := Option.some.inj hhead
    injection hevent with _ _ _ hips
  rw [htxt] at hrecords
  cases hrdatas : answer.rdatas with
  | nil => exact hsome hrdatas
  | cons r rest =>
      rw [hrdatas, List.map_cons, List.map_cons, List.map_cons] at hrecords
      have htext : r.strings ++ ['x'] = r.strings := (List.cons.inj hrecords).1
      have hlength := congrArg List.length htext
      rw [List.length_append, List.length_singleton] at hlength
      omega

/-- **When a lookup keeps the text of TXT records.** Its rows never depend on what the records
    say.  Its log events do not exactly if no record is returned. -/
theorem txt_kept_iff (htxt : c.payload.record_type = str "TXT") :
    (∀ net', SameShape c.net net' →
      rowsOf (dnsLookup py settings crypto (inWorld c net')).events =
        rowsOf (dnsLookup py settings crypto c).events) ∧
    (KeepsText py settings crypto c ↔ ReturnsNone py c) := by
  refine ⟨fun net' hshape => rows_same htxt hshape, ?_⟩
  constructor
  · intro hkept domain nameservers answer h
    by_contra hsome
    exact logs_differ htxt h hsome (hkept _ (sameShape_longer c.net)).1
  · intro hnone net' hshape
    refine ⟨?_, rows_same htxt hshape⟩
    by_cases hanswered : ∃ domain nameservers answer, Answered py c domain nameservers answer
    · obtain ⟨domain, nameservers, answer, h⟩ := hanswered
      obtain ⟨answer', h', hsame⟩ := h.same hshape
      have hempty : answer.rdatas = [] := hnone _ _ _ h
      have hempty' : answer'.rdatas = [] := by
        have hlength : answer'.rdatas.length = answer.rdatas.length := congrArg Prod.fst hsame
        rw [hempty] at hlength
        exact List.eq_nil_of_length_eq_zero hlength
      have hanswer : answer' = answer := by
        have httl : answer'.ttl = answer.ttl := congrArg Prod.snd hsame
        cases answer
        cases answer'
        simp_all
      have hdetails : returnedDetails (inWorld c net') net' domain nameservers answer' =
          returnedDetails c c.net domain nameservers answer := by
        rw [returnedDetails, lookedUp]
        rw [hanswer, hshape.elapsed_ms]
        rfl
      rw [dnsLookup_answered h, dnsLookup_answered h']
      exact congrArg (fun details => logsOf (persistDiagnostic py settings crypto (returnedCall c)
        details).events) hdetails
    · rw [dnsLookup_unanswered (fun domain nameservers answer h =>
        hanswered ⟨domain, nameservers, answer, h⟩) hshape]

end Kept

/-- A lookup of type `TXT` that is answered with one record. -/
def txtCall (text : Str) : DnsCall where
  payload := ⟨str "example.com", str "TXT", by decide, by decide⟩
  net := ⟨.ok [], fun _ _ => .ok ⟨[⟨0, [], text, []⟩], none⟩, 0⟩
  call := bracketCall.call

/-- **The log holds the text.** Two lookups that are answered with one record each, and the
    texts are in the events of the log. -/
theorem txt_in_log :
    ¬ ∀ c : DnsCall, c.payload.record_type = str "TXT" → KeepsText .asciiOnly {} .plain c := by
  intro h
  have hanswered : Answered .asciiOnly (txtCall (str "secret")) (str "example.com") []
      ⟨[⟨0, [], str "secret", []⟩], none⟩ := ⟨by decide +kernel, rfl, rfl⟩
  have hkept := h (txtCall (str "secret")) rfl _ (sameShape_longer (txtCall (str "secret")).net)
  exact logs_differ rfl hanswered (List.cons_ne_nil _ _) hkept.1

/-- The general result on a lookup whose resolver does not answer. -/
theorem txt_kept_on_timeout :
    KeepsText .asciiOnly {} .plain
      { txtCall [] with net := ⟨.ok [], fun _ _ => .error .timeout, 0⟩ } := by
  have hnone : ReturnsNone .asciiOnly
      { txtCall [] with net := ⟨.ok [], fun _ _ => .error .timeout, 0⟩ } := by
    intro domain nameservers answer h
    cases h.answered
  have htxt : ({ txtCall [] with net := ⟨.ok [], fun _ _ => .error .timeout, 0⟩ } :
      DnsCall).payload.record_type = str "TXT" := rfl
  exact (txt_kept_iff htxt).2.mpr hnone

end NetProbeTxtSecrecy
