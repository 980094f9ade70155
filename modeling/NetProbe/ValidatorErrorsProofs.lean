import NetProbe.ProbeHandlersProofs
import NetProbe.ValidatorGrammarProofs

/-!
# The exceptions of the validators

`validate_domain` and `validate_host` raise `ValidationError` or return.  `validate_url` calls
`urlsplit` outside any `try`, and a network location that fails its checks (brackets, NFKC)
raises `ValueError` there (`validateUrl_raises_iff`).

What a client sees of a malformed target follows.  A target that is longer than its field is
refused by the schema.  The handlers of the port check and of the lookup answer the others
with `VALIDATION_ERROR`; `http_check` does so exactly if `urlsplit` takes the network location,
and with `INTERNAL_SERVER_ERROR` if it does not (`submitHttp_malformed`).
-/

namespace NetProbeValidatorErrors

open NetProbePyText NetProbeConfig NetProbeUrlSplit NetProbeSecurity NetProbeCoreAuth
open NetProbeHttpService NetProbeTcpService NetProbeDnsService NetProbePersistence
open NetProbeProbeHandlers NetProbeValidatorGrammar TracedRun

-- ── Requests as they are submitted ────────────────────────────────────────────────

/-- The answer of `validation_exception_handler` to a text that is longer than its field. -/
def tooLong (field : Str) (max_length : Nat) : Answer :=
  ⟨422, str "VALIDATION_ERROR",
    str "body." ++ field ++ str ": String should have at most " ++ (toString max_length).toList ++
      str " characters", none⟩

/-- A text goes through the schema before the handler sees it. -/
def checkedLength (field : Str) (max_length : Nat) (text : Str)
    (handler : text.length ≤ max_length → Answer) : Answer :=
  if h : text.length ≤ max_length then handler h else tooLong field max_length

section Program

variable (py : Python) (settings : Settings) (crypto : Crypto)

/-- `POST /http-check` with any text as its URL; the other fields have passed the schema. -/
def submitHttp (url method : Str) (timeout_ms : Int) (follow_redirects : Bool) (net : Net)
    (call : Call) : Answer :=
  checkedLength (str "url") 2048 url fun h =>
    respond (httpCheck py settings crypto
      ⟨⟨url, method, timeout_ms, follow_redirects, h⟩, net, call⟩).outcome

/-- `POST /port-check` with any text as its host. -/
def submitPort (host : Str) (port : Int) (hport : 1 ≤ port ∧ port ≤ 65535) (timeout_ms : Int)
    (net : TcpNet) (call : Call) : Answer :=
  checkedLength (str "host") 253 host fun h =>
    respond (portCheck py settings crypto ⟨⟨host, port, timeout_ms, h, hport⟩, net, call⟩).outcome

/-- `POST /dns-lookup` with any text as its domain. -/
def submitDns (domain record_type : Str) (htype : record_type ∈ supportedTypes) (net : DnsNet)
    (call : Call) : Answer :=
  checkedLength (str "domain") 253 domain fun h =>
    respond (dnsLookup py settings crypto ⟨⟨domain, record_type, h, htype⟩, net, call⟩).outcome

end Program

-- ── What is promised ──────────────────────────────────────────────────────────────

/-- A validator that returns or raises `ValidationError`. -/
def RaisesValidationOnly (validated : Except ProbeError Str) : Prop :=
  ∀ e, validated = .error e → ∃ message, e = .validationError message

/-- A target that its validator does not return. -/
def Malformed (validated : Except ProbeError Str) : Prop := ∃ e, validated = .error e

/-- The answer to a malformed target. -/
structure ValidationAnswer (answer : Answer) : Prop where
  status : answer.status_code = 422
  code : answer.code = str "VALIDATION_ERROR"

/-- The network location `urlsplit` finds in a URL. -/
def netlocOf (py : Python) (url : Str) : Str :=
  (splitAuthority (splitScheme py (cleaned url)).2).1

/-- The network location passes both checks of `urlsplit`. -/
def NetlocAccepted (py : Python) (url : Str) : Prop :=
  bracketsOk (netlocOf py url) = true ∧ checknetloc py (netlocOf py url) = true

-- ── The validators ────────────────────────────────────────────────────────────────

section Validators

variable {py : Python} {url : Str}

theorem urlsplit_ne_none_iff : urlsplit py url ≠ none ↔ NetlocAccepted py url := by
  show (if !bracketsOk (netlocOf py url) then none
    else if !checknetloc py (netlocOf py url) then none else some _) ≠ none ↔ _
  cases hbrackets : bracketsOk (netlocOf py url) with
  | false =>
      exact iff_of_false (fun h => h rfl) fun h => absurd (hbrackets.symm.trans h.1) (by decide)
  | true =>
      cases hnfkc : checknetloc py (netlocOf py url) with
      | false =>
          exact iff_of_false (fun h => h rfl) fun h => absurd (hnfkc.symm.trans h.2) (by decide)
      | true => exact iff_of_true (fun h => Option.some_ne_none _ h) ⟨hbrackets, hnfkc⟩

/-- The errors of `validate_url`: its own, and that of `urlsplit`. -/
theorem validateUrl_error {e : ProbeError} (h : validateUrl py url = .error e) :
    (∃ message, e = .validationError message) ∨
      e = .valueError ∧ url.length ≤ 2048 ∧ ¬ NetlocAccepted py url := by
  simp only [validateUrl] at h
  split at h
  · exact Or.inl ⟨_, (Except.error.inj h).symm⟩
  · rename_i hlen
    rw [Bool.or_eq_true, decide_eq_true_eq, decide_eq_true_eq, not_or, not_lt] at hlen
    split at h
    · rename_i hsplit
      refine Or.inr ⟨(Except.error.inj h).symm, hlen.2, fun hacc => ?_⟩
      exact urlsplit_ne_none_iff.mpr hacc hsplit
    · refine Or.inl ?_
      split at h
      · exact ⟨_, (Except.error.inj h).symm⟩
      · split at h
        · exact ⟨_, (Except.error.inj h).symm⟩
        · split at h
          · exact ⟨_, (Except.error.inj h).symm⟩
          · split at h
            · rename_i he
              exact validateHost_error (he.trans h)
            · cases h

theorem validateUrl_refused (hlen : url.length ≤ 2048) (h : ¬ NetlocAccepted py url) :
    validateUrl py url = .error .valueError := by
  have hsplit : urlsplit py url = none := by
    by_contra hsplit
    exact h (urlsplit_ne_none_iff.mp hsplit)
  have hne : url ≠ [] := by
    rintro rfl
    cases hsplit
  have hguard : ¬ (decide (url = []) || decide (2048 < url.length)) = true := by
    rw [Bool.or_eq_true, decide_eq_true_eq, decide_eq_true_eq]
    rintro (hnil | hlong)
    · exact hne hnil
    · omega
  rw [validateUrl, if_neg hguard, hsplit]

/-- **When `validate_url` raises nothing but `ValidationError`.** -/
theorem validateUrl_raises_iff :
    RaisesValidationOnly (validateUrl py url) ↔ 2048 < url.length ∨ NetlocAccepted py url := by
  constructor
  · intro h
    by_contra hnot
    rw [not_or, not_lt] at hnot
    obtain ⟨message, he⟩ := h _ (validateUrl_refused hnot.1 hnot.2)
    cases he
  · intro h e he
    rcases validateUrl_error he with hmessage | ⟨-, hlen, hacc⟩
    · exact hmessage
    · exact absurd h (not_or.mpr ⟨by omega, hacc⟩)

end Validators

-- ── The answers ───────────────────────────────────────────────────────────────────

section Answers

variable (py : Python) (settings : Settings) (crypto : Crypto) (call : Call)

theorem tooLong_answer (field : Str) (max_length : Nat) :
    ValidationAnswer (tooLong field max_length) := ⟨rfl, rfl⟩

/-- A malformed URL of schema length: the check ends in its validation. -/
theorem checkOutcome_malformed {c : HttpCall} {e : ProbeError}
    (h : validateUrl py c.payload.url = .error e) : checkOutcome py settings c = .error e := by
  rw [checkOutcome, performHttpCheck, h]
  rfl

/-- **The answer to a malformed URL.** -/
theorem submitHttp_malformed {url : Str} (method : Str) (timeout_ms : Int)
    (follow : Bool) (net : Net)
    (h : Malformed (validateUrl py url)) :
    (2048 < url.length ∨ NetlocAccepted py url →
        ValidationAnswer (submitHttp py settings crypto url method timeout_ms follow net call)) ∧
      (¬ (2048 < url.length ∨ NetlocAccepted py url) →
        submitHttp py settings crypto url method timeout_ms follow net call =
          internalServerError) := by
  obtain ⟨e, he⟩ := h
  rw [submitHttp, checkedLength]
  by_cases hlen : url.length ≤ 2048
  · rw [dif_pos hlen]
    generalize hc : (⟨⟨url, method, timeout_ms, follow, hlen⟩, net, call⟩ : HttpCall) = c
    have hurl : c.payload.url = url := by rw [← hc]
    have hcheck : checkOutcome py settings c = .error e :=
      checkOutcome_malformed py settings (hurl.symm ▸ he)
    have hlog : loggable py (.http c.payload none) = true ↔ NetlocAccepted py url := by
      have hbuilt : BuiltByHandler py settings (.http c.payload none) := trivial
      rw [loggable_iff hbuilt, ← urlsplit_ne_none_iff, ← hurl]
      constructor
      · exact fun hall => hall c.payload none rfl
      · rintro hne payload data ⟨⟩
        exact hne
    rw [httpCheck_outcome, hcheck]
    constructor
    · intro hacc
      have haccepted : NetlocAccepted py url := by
        rcases hacc with hlong | hacc
        · omega
        · exact hacc
      obtain ⟨message, rfl⟩ := validateUrl_raises_iff.mpr hacc e he
      dsimp only
      rw [if_pos (hlog.mpr haccepted)]
      exact ⟨rfl, rfl⟩
    · intro hnot
      dsimp only
      rw [if_neg fun hl => hnot (Or.inr (hlog.mp hl))]
      rfl
  · rw [dif_neg hlen]
    exact ⟨fun _ => tooLong_answer _ _, fun hnot => absurd (Or.inl (by omega)) hnot⟩

theorem submitPort_malformed {host : Str} (port : Int) (hport : 1 ≤ port ∧ port ≤ 65535)
    (timeout_ms : Int) (net : TcpNet) (h : Malformed (validateHost py host)) :
    ValidationAnswer (submitPort py settings crypto host port hport timeout_ms net call) := by
  obtain ⟨e, he⟩ := h
  obtain ⟨message, rfl⟩ := validateHost_error he
  rw [submitPort, checkedLength]
  by_cases hlen : host.length ≤ 253
  · rw [dif_pos hlen, portCheck_outcome]
    have hprobe :
        (portProbe py settings ⟨⟨host, port, timeout_ms, hlen, hport⟩, net, call⟩).outcome =
        .error (.validationError message) := by
      rw [portProbe, he]
      rfl
    rw [hprobe]
    exact ⟨rfl, rfl⟩
  · rw [dif_neg hlen]
    exact tooLong_answer _ _

theorem submitDns_malformed {domain : Str} (record_type : Str)
    (htype : record_type ∈ supportedTypes)
    (net : DnsNet) (h : Malformed (validateDomain py domain)) :
    ValidationAnswer (submitDns py settings crypto domain record_type htype net call) := by
  obtain ⟨e, he⟩ := h
  obtain ⟨message, rfl⟩ := validateDomain_error he
  rw [submitDns, checkedLength]
  by_cases hlen : domain.length ≤ 253
  · rw [dif_pos hlen, dnsLookup_outcome]
    have hprobe : (dnsProbe py ⟨⟨domain, record_type, hlen, htype⟩, net, call⟩).outcome =
        .error (.invalid (.validationError message)) := by
      rw [dnsProbe, he]
      rfl
    rw [hprobe]
    exact ⟨rfl, rfl⟩
  · rw [dif_neg hlen]
    exact tooLong_answer _ _

/-- **The errors of the validators and the answers to malformed targets.**  The validators of
    domains and hosts raise `ValidationError` only, and their handlers answer every malformed
    target so.  For a URL both hold exactly if it is too long or `urlsplit` accepts its network
    location. -/
theorem malformed_targets_iff :
    (∀ domain, RaisesValidationOnly (validateDomain py domain)) ∧
      (∀ host, RaisesValidationOnly (validateHost py host)) ∧
      (∀ url, RaisesValidationOnly (validateUrl py url) ↔
        2048 < url.length ∨ NetlocAccepted py url) ∧
      (∀ domain record_type htype net, Malformed (validateDomain py domain) →
        ValidationAnswer (submitDns py settings crypto domain record_type htype net call)) ∧
      (∀ host port hport timeout_ms net, Malformed (validateHost py host) →
        ValidationAnswer (submitPort py settings crypto host port hport timeout_ms net call)) ∧
      ∀ url method timeout_ms follow net, Malformed (validateUrl py url) →
        (ValidationAnswer (submitHttp py settings crypto url method timeout_ms follow net call) ↔
          2048 < url.length ∨ NetlocAccepted py url) := by
  refine ⟨fun _ _ he => validateDomain_error he, fun _ _ he => validateHost_error he,
    fun _ => validateUrl_raises_iff,
    fun _ _ htype net h => submitDns_malformed py settings crypto call _ htype net h,
    fun _ _ hport _ net h => submitPort_malformed py settings crypto call _ hport _ net h, ?_⟩
  intro url method timeout_ms follow net h
  obtain ⟨hgood, hbad⟩ :=
    submitHttp_malformed py settings crypto call method timeout_ms follow net h
  refine ⟨fun hanswer => ?_, hgood⟩
  by_contra hnot
  have hstatus := hanswer.status
  rw [hbad hnot] at hstatus
  exact absurd hstatus (by decide)

end Answers

/-- A URL with another scheme is answered as it should be. -/
theorem ftp_refused :
    ValidationAnswer (submitHttp .asciiOnly {} .plain (str "ftp://example.com/") (str "GET") 5000
      true bracketCall.net bracketCall.call) :=
  ((malformed_targets_iff .asciiOnly {} .plain bracketCall.call).2.2.2.2.2 _ (str "GET") 5000 true
      bracketCall.net ⟨_, (by decide +kernel : validateUrl .asciiOnly (str "ftp://example.com/") =
        .error (.validationError (str "http 또는 https 스킴만 허용됩니다.")))⟩).mpr
    (Or.inr ⟨by decide +kernel, by decide +kernel⟩)

/-- An opening bracket after the scheme: `validate_url` raises `ValueError`, and the request is
    answered with 500. -/
theorem bracket_answered_500 :
    ¬ RaisesValidationOnly (validateUrl .asciiOnly (str "http://[")) ∧
      Malformed (validateUrl .asciiOnly (str "http://[")) ∧
        submitHttp .asciiOnly {} .plain (str "http://[") (str "GET") 5000 true bracketCall.net
          bracketCall.call = internalServerError := by
  have hraises : validateUrl .asciiOnly (str "http://[") = .error .valueError := by decide +kernel
  refine ⟨fun h => ?_, ⟨_, hraises⟩, by decide +kernel⟩
  obtain ⟨message, he⟩ := h _ hraises
  cases he

end NetProbeValidatorErrors
