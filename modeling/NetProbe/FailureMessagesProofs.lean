import NetProbe.ColumnTypesProofs
import NetProbe.PersistenceProofs
import NetProbe.RedirectBudgetProofs
import NetProbe.ValidatorGrammarProofs

/-!
# What the messages of failed checks hold

The message of a failed diagnostic goes into its row, so it matters what may be in it.  Those of
the validators are fixed texts, and so are those of the transport.  Two messages quote a text from
outside, those of a hop that its lookup stops: one quotes the host, the other the first address
that is not allowed (`lookupMessage`).

Nothing else gets into the message of an HTTP check (`performHttpCheck_message`), and every hop
that redirects lead to and that its lookup stops gives the check its message
(`performHttpCheck_stopped`).
-/

namespace NetProbeFailureMessages

open NetProbePyText NetProbeConfig NetProbeUrlSplit NetProbeSecurity NetProbeHttpService
open NetProbeRedirectBudget NetProbePersistence NetProbeValidatorGrammar NetProbeColumnTypes
open TracedRun

-- ── The validators ────────────────────────────────────────────────────────────────

/-- An error of a validator with a fixed text. -/
def FixedMessage (e : ProbeError) : Prop := ∃ m, e = .validationError m ∧ nulFree m = true

section Validators

variable {py : Python} {e : ProbeError}

theorem validateDomain_message {domain : Str} (h : validateDomain py domain = .error e) :
    FixedMessage e := by
  rw [validateDomain] at h
  split at h
  · exact ⟨_, (Except.error.inj h).symm, by decide⟩
  · split at h
    · exact ⟨_, (Except.error.inj h).symm, by decide⟩
    · split at h
      · exact ⟨_, (Except.error.inj h).symm, by decide⟩
      · dsimp only at h
        split at h
        · exact ⟨_, (Except.error.inj h).symm, by decide⟩
        · split at h
          · exact ⟨_, (Except.error.inj h).symm, by decide⟩
          · cases h

theorem validateHost_message {host : Str} (h : validateHost py host = .error e) :
    FixedMessage e := by
  rw [validateHost] at h
  split at h
  · exact ⟨_, (Except.error.inj h).symm, by decide⟩
  · split at h
    · exact ⟨_, (Except.error.inj h).symm, by decide⟩
    · dsimp only at h
      split at h
      · cases h
      · exact validateDomain_message h

/-- `validate_url` lets the `ValueError` of `urlsplit` pass. -/
theorem validateUrl_message {url : Str} (h : validateUrl py url = .error e) :
    FixedMessage e ∨ e = .valueError := by
  simp only [validateUrl] at h
  split at h
  · exact Or.inl ⟨_, (Except.error.inj h).symm, by decide⟩
  · split at h
    · exact Or.inr (Except.error.inj h).symm
    · refine Or.inl ?_
      split at h
      · exact ⟨_, (Except.error.inj h).symm, by decide⟩
      · split at h
        · exact ⟨_, (Except.error.inj h).symm, by decide⟩
        · split at h
          · exact ⟨_, (Except.error.inj h).symm, by decide⟩
          · split at h
            · rename_i hhost
              exact validateHost_message (hhost.trans h)
            · cases h

/-- The text of a port is made of digits. -/
theorem port_nulFree {port : Int} (hport : 1 ≤ port ∧ port ≤ 65535) :
    nulFree (toString port).toList = true := by
  obtain ⟨n, rfl⟩ := Int.eq_ofNat_of_zero_le (show 0 ≤ port by omega)
  refine nulFree_iff.mpr fun hmem => ?_
  change '\x00' ∈ (String.ofList (Nat.toDigits 10 n)).toList at hmem
  rw [String.toList_ofList] at hmem
  have hdigit := Nat.isDigit_of_mem_toDigits (by decide) (by decide) hmem
  cases hdigit

theorem assertPortAllowed_message {settings : Settings} {port : Int}
    (hport : 1 ≤ port ∧ port ≤ 65535)
    (h : assertPortAllowed settings port = .error e) :
    ∃ m, e = .targetNotAllowedError m ∧ nulFree m = true := by
  rw [assertPortAllowed, if_neg (not_not.mpr hport)] at h
  split at h
  · cases h
  · split at h
    · refine ⟨_, (Except.error.inj h).symm, ?_⟩
      rw [nulFree_append, nulFree_append, port_nulFree hport, Bool.and_true]
      decide
    · cases h

/-- What is not to be stripped off stays. -/
theorem mem_rstrip {p : Char → Bool} {s : Str} {c : Char} (hmem : c ∈ s) (hc : p c = false) :
    c ∈ rstrip p s := by
  rw [rstrip, List.mem_reverse]
  rw [← List.mem_reverse, ← List.takeWhile_append_dropWhile (p := p) (l := s.reverse)] at hmem
  rcases List.mem_append.mp hmem with htaken | hleft
  · rw [List.mem_takeWhile_imp htaken] at hc
    cases hc
  · exact hleft

/-- The labels of an accepted domain have letters, digits and hyphens. -/
theorem validateDomain_nulFree {domain v : Str} (h : validateDomain py domain = .ok v) :
    nulFree v = true := by
  rw [validateDomain] at h
  split at h
  · cases h
  · split at h
    · cases h
    · split at h
      · cases h
      · dsimp only at h
        split at h
        · cases h
        · split at h
          · cases h
          · rename_i hlabels
            cases h
            refine nulFree_iff.mpr fun hmem => ?_
            have hstripped := mem_rstrip hmem (p := (· = '.')) (by decide)
            rw [← joined_split (rstrip _ v)] at hstripped
            rcases mem_joined hstripped with hdot | ⟨label, hlabel, hc⟩
            · cases hdot
            · have hloose : LooseLabel label := by
                refine looseLabel_iff.mpr ?_
                simpa using fun hbad => hlabels (List.any_eq_true.mpr ⟨label, hlabel, hbad⟩)
              exact absurd (hloose.symbols.2 _ hc) (by decide)

/-- A NUL that passed the validator is among the first 253 characters. -/
theorem validateHost_nulFree {host v : Str} (h : validateHost py host = .ok v) :
    nulFree (v.take 253) = nulFree v := by
  obtain ⟨hlength, haccepted⟩ := validateHost_accepted h
  cases haccepted with
  | literal hip => rw [List.take_of_length_le hlength]
  | inBrackets hb hip =>
      rw [hb, bracketed, List.length_cons, List.length_append] at hlength
      rw [List.take_of_length_le (by omega)]
  | domain hd => rw [nulFree_take (validateDomain_nulFree hd), validateDomain_nulFree hd]

end Validators

-- ── The lookup of a hop ───────────────────────────────────────────────────────────

/-- The first address that is not allowed. -/
def refusedAddress (py : Python) (settings : Settings) (ips : List Str) : Option Str :=
  if settings.allow_private_targets then none else ips.find? (isBlockedIp py)

/-- The message of `assert_ip_allowed`. -/
def notAllowedMessage (ip : Str) : Str := str "허용되지 않은 대상 주소입니다: " ++ ip

/-- The message of a hop that its lookup stops. -/
def lookupMessage (py : Python) (settings : Settings) (host : Option Str) :
    Except LookupError (List Str) → Option Str
  | .error .gaierror => some (str "DNS 조회에 실패했습니다: " ++ hostText host)
  | .error (.other _) => none
  | .ok [] => some (str "DNS 조회에 실패했습니다: " ++ hostText host)
  | .ok (ip :: ips) => (refusedAddress py settings (sortedSet (ip :: ips))).map notAllowedMessage

section Hop

variable {py : Python} {settings : Settings} {net : Net} {method url u : Str} {follow : Bool}
  {i : Nat} {host : Option Str} {e : ProbeError}

theorem assertIpAllowed_error {ip : Str} (h : assertIpAllowed py settings ip ≠ .ok ()) :
    assertIpAllowed py settings ip = .error (.targetNotAllowedError (notAllowedMessage ip)) := by
  rw [assertIpAllowed] at h ⊢
  split
  · rename_i hprivate
    rw [if_pos hprivate] at h
    exact absurd rfl h
  · rename_i hprivate
    rw [if_neg hprivate] at h
    split
    · rfl
    · rename_i hblocked
      rw [if_neg hblocked] at h
      exact absurd rfl h

/-- The check of all addresses ends at the first that is not allowed. -/
theorem assertAllAllowed_outcome (py : Python) (settings : Settings) (hop : Nat) (ips : List Str) :
    (assertAllAllowed py settings hop ips).outcome =
      match refusedAddress py settings ips with
      | none => .ok ()
      | some ip => .error (.targetNotAllowedError (notAllowedMessage ip)) := by
  induction ips with
  | nil =>
      rw [refusedAddress, List.find?_nil, ite_self]
      rfl
  | cons ip ips ih =>
      rw [assertAllAllowed, assertIpAllowed]
      rw [refusedAddress] at ih ⊢
      cases hprivate : settings.allow_private_targets with
      | true =>
          rw [hprivate, if_pos rfl] at ih
          rw [if_pos rfl, if_pos rfl]
          simpa only [Traced.bind_eq, Traced.bind_tell] using ih
      | false =>
          rw [hprivate, if_neg Bool.false_ne_true] at ih
          rw [if_neg Bool.false_ne_true, if_neg Bool.false_ne_true, List.find?_cons]
          cases hblocked : isBlockedIp py ip with
          | true => rfl
          | false =>
              rw [if_neg Bool.false_ne_true]
              simpa only [Traced.bind_eq, Traced.bind_tell] using ih

/-- A lookup that stops its hop raises an error with the message. -/
theorem resolveAndValidate_stopped {m : Str}
    (h : lookupMessage py settings host (net.getaddrinfo i host) = some m) :
    ∃ e, (resolveAndValidate py settings net i host).outcome = .error e ∧
      (failureOf e).message = m := by
  rw [resolveAndValidate]
  cases hanswer : net.getaddrinfo i host with
  | error failure =>
      rw [hanswer] at h
      cases failure with
      | gaierror => exact ⟨_, rfl, Option.some.inj h⟩
      | other name => cases h
  | ok infos =>
      rw [hanswer] at h
      simp only [Traced.bind_eq, Traced.bind_tell]
      cases infos with
      | nil => exact ⟨_, rfl, Option.some.inj h⟩
      | cons ip ips =>
          obtain ⟨refused, hrefused, rfl⟩ := Option.map_eq_some_iff.mp h
          have hne : sortedSet (ip :: ips) ≠ [] := fun hnil =>
            List.cons_ne_nil _ _ (sortedSet_eq_nil.mp hnil)
          have hout := assertAllAllowed_outcome py settings i (sortedSet (ip :: ips))
          rw [hrefused] at hout
          rw [if_neg hne, Traced.bind_of_error hout]
          exact ⟨_, rfl, rfl⟩

/-- The errors of a lookup have its message or are exceptions that it lets pass. -/
theorem resolveAndValidate_message
    (h : (resolveAndValidate py settings net i host).outcome = .error e) :
    lookupMessage py settings host (net.getaddrinfo i host) = some (failureOf e).message ∨
      ∃ name, e = .otherException name := by
  rw [resolveAndValidate] at h
  cases hanswer : net.getaddrinfo i host with
  | error failure =>
      rw [hanswer] at h
      cases failure with
      | gaierror =>
          cases h
          exact Or.inl rfl
      | other name => exact Or.inr ⟨name, (Except.error.inj h).symm⟩
  | ok infos =>
      rw [hanswer] at h
      simp only [Traced.bind_eq, Traced.bind_tell] at h
      refine Or.inl ?_
      cases infos with
      | nil =>
          cases h
          rfl
      | cons ip ips =>
          have hne : sortedSet (ip :: ips) ≠ [] := fun hnil =>
            List.cons_ne_nil _ _ (sortedSet_eq_nil.mp hnil)
          have hout := assertAllAllowed_outcome py settings i (sortedSet (ip :: ips))
          rw [if_neg hne] at h
          rw [lookupMessage]
          cases hrefused : refusedAddress py settings (sortedSet (ip :: ips)) with
          | none =>
              rw [hrefused] at hout
              rw [Traced.bind_of_ok hout] at h
              cases h
          | some refused =>
              rw [hrefused] at hout
              rw [Traced.bind_of_error hout] at h
              cases h
              rfl

/-- The lookup of a valid URL's host is the first thing its iteration does. -/
theorem sendHop_eq (hvalid : validateUrl py u = .ok u) :
    sendHop py settings net method i u =
      (resolveAndValidate py settings net i (hopHost py u)).bind fun ips =>
        match net.build_request method u with
        | .error name => .raise (.otherException name)
        | .ok _ =>
            (Traced.tell (.send i u :: (net.dial i u).map (.connect i))).bind fun _ =>
              match net.send i method u with
              | .error e => .raise (sendFailure u e)
              | .ok response => .ret (response, ips.head?) := by
  obtain ⟨-, -, -, parts, host, hparts, -⟩ := validateUrl_ok hvalid
  have hhost : hopHost py u = hostname py parts := by
    rw [hopHost, hparts]
    rfl
  rw [sendHop, hparts, hhost]
  rfl

end Hop

-- ── The check ─────────────────────────────────────────────────────────────────────

section Check

variable {py : Python} {settings : Settings} {net : Net} {method url u : Str} {follow : Bool}
  {i : Nat} {e : ProbeError}

theorem sendFailure_message (failure : SendError) :
    nulFree (failureOf (sendFailure u failure)).message = true := by
  cases failure <;> (simp only [sendFailure, failureOf]; decide)

theorem uncaught_message (failure : SendError) :
    nulFree (failureOf (uncaught failure)).message = true := by
  cases failure <;> (simp only [uncaught, failureOf]; decide)

theorem receive_message {limit received : Int} {chunks : List (Except SendError Nat)}
    (h : receive limit received chunks = .error e) : nulFree (failureOf e).message = true := by
  induction chunks generalizing received with
  | nil => cases h
  | cons chunk rest ih =>
      cases chunk with
      | error failure =>
          cases h
          exact uncaught_message failure
      | ok n =>
          rw [receive] at h
          split at h
          · cases h
          · exact ih h

theorem finish_message {response : Response} {ip : Option Str}
    (h : finish py settings net url u i response ip = .error e) :
    nulFree (failureOf e).message = true := by
  rw [finish] at h
  cases hreceive : receive settings.max_response_bytes 0 response.chunks with
  | error failure =>
      rw [hreceive] at h
      cases h
      exact receive_message hreceive
  | ok received =>
      rw [hreceive] at h
      replace h : (contentLength py response.content_length received >>= _) = Except.error e := h
      cases hlength : contentLength py response.content_length received with
      | error failure =>
          rw [hlength] at h
          cases h
          rw [contentLength] at hlength
          split at hlength
          · split at hlength
            · cases hlength
            · cases hlength
              decide
          · cases hlength
      | ok length =>
          rw [hlength] at h
          cases h

theorem validator_message (h : validateUrl py u = .error e) :
    nulFree (failureOf e).message = true := by
  rcases validateUrl_message h with ⟨m, rfl, hm⟩ | rfl
  · exact hm
  · decide

theorem nextUrl_message {location : Str} (h : (nextUrl py net i u location).outcome = .error e) :
    nulFree (failureOf e).message = true := by
  rw [nextUrl] at h
  cases hjoin : net.join u location with
  | none =>
      rw [hjoin] at h
      cases h
      decide
  | some next =>
      rw [hjoin] at h
      simp only [Traced.bind_eq, Traced.bind_tell] at h
      cases hvalid : validateUrl py next with
      | error failure =>
          rw [hvalid] at h
          cases h
          exact validator_message hvalid
      | ok v =>
          rw [hvalid] at h
          cases h

theorem otherException_message (name : Str) :
    nulFree (failureOf (.otherException name)).message = true := by
  rw [failureOf]
  decide

/-- A hop that the check is led to and that its lookup stops, with the message of the lookup. -/
def Stopped (py : Python) (settings : Settings) (net : Net) (method : Str) (follow : Bool) (i : Nat)
    (u m : Str) : Prop :=
  ∃ j v, Reaches py settings net method follow i u j v ∧ validateUrl py v = .ok v ∧
    lookupMessage py settings (hopHost py v) (net.getaddrinfo j (hopHost py v)) = some m

/-- One iteration up to the response ends with a fixed message or is stopped by its lookup. -/
theorem sendHop_message (hvalid : validateUrl py u = .ok u)
    (h : (sendHop py settings net method i u).outcome = .error e) :
    nulFree (failureOf e).message = true ∨
      Stopped py settings net method follow i u (failureOf e).message := by
  rw [sendHop_eq hvalid] at h
  cases hout : (resolveAndValidate py settings net i (hopHost py u)).outcome with
  | error failure =>
      rw [Traced.bind_of_error hout] at h
      cases h
      rcases resolveAndValidate_message hout with hmessage | ⟨name, rfl⟩
      · exact Or.inr ⟨i, u, .here _ _, hvalid, hmessage⟩
      · exact Or.inl (otherException_message name)
  | ok ips =>
      rw [Traced.bind_of_ok hout] at h
      refine Or.inl ?_
      cases hbuild : net.build_request method u with
      | error name =>
          rw [hbuild] at h
          cases h
          exact otherException_message name
      | ok _ =>
          rw [hbuild] at h
          simp only [Traced.bind_tell] at h
          cases hsend : net.send i method u with
          | error failure =>
              rw [hsend] at h
              cases h
              exact sendFailure_message failure
          | ok response =>
              rw [hsend] at h
              cases h

/-- The message of the loop from a valid URL on. -/
theorem checkLoop_message (hvalid : validateUrl py u = .ok u)
    (h : (checkLoop py settings net method follow url i u).outcome = .error e) :
    nulFree (failureOf e).message = true ∨
      Stopped py settings net method follow i u (failureOf e).message := by
  -- the redirect budget that is left decreases with every followed redirect
  induction hn : (settings.max_redirects - i).toNat using Nat.strong_induction_on
    generalizing i u with
  | _ n ih =>
      rw [checkLoop_eq] at h
      rcases sendHop_cases py settings net method i hvalid
        with ⟨answer, hop, heq⟩ | ⟨-, events, e', heq, -⟩
      · cases hsend : net.send i method u with
        | error failure =>
            rw [hsend] at heq
            rw [heq, Traced.bind_of_error rfl] at h
            cases h
            exact Or.inl (sendFailure_message failure)
        | ok response =>
            rw [hsend] at heq
            rw [heq, Traced.bind_of_ok rfl] at h
            cases hloc : redirectTarget settings follow i response with
            | none =>
                rw [hloc] at h
                exact Or.inl (finish_message h)
            | some location =>
                have hlt := lt_of_redirectTarget hloc
                have hbudget : ¬ settings.max_redirects < ((i + 1 : Nat) : Int) := by omega
                rw [hloc] at h
                cases hnext : (nextUrl py net (i + 1) u location).outcome with
                | error failure =>
                    simp only [Option.elim, Traced.bind_of_error hnext] at h
                    cases h
                    exact Or.inl (nextUrl_message hnext)
                | ok next =>
                    simp only [Option.elim, Traced.bind_of_ok hnext, if_neg hbudget] at h
                    obtain ⟨hjoin, hgood⟩ : net.join u location = some next ∧
                        validateUrl py next = .ok next := by
                      rcases nextUrl_cases py net (i + 1) u location with
                        ⟨e', -, heq'⟩ | ⟨next', e', -, -, heq'⟩ | ⟨next', hj, hv, heq'⟩
                      · rw [heq'] at hnext
                        cases hnext
                      · rw [heq'] at hnext
                        cases hnext
                      · rw [heq'] at hnext
                        cases hnext
                        exact ⟨hj, hv⟩
                    have hfollow : Follows py settings net method follow i u next :=
                      ⟨⟨answer, hop⟩, response, location, hsend, hloc, hjoin⟩
                    refine (ih _ (by omega) hgood h rfl).imp_right ?_
                    rintro ⟨j, v, hreach, hstop⟩
                    exact ⟨j, v, .step hfollow hreach, hstop⟩
      · have hout : (sendHop py settings net method i u).outcome = .error e' :=
          congrArg Traced.outcome heq
        rw [Traced.bind_of_error hout] at h
        cases h
        exact sendHop_message hvalid hout

/-- **What can be in the message of a check**: a fixed text, or what stops a hop. -/
theorem performHttpCheck_message
    (h : (performHttpCheck py settings net url method follow).outcome = .error e) :
    nulFree (failureOf e).message = true ∨
      Stopped py settings net method follow 0 url (failureOf e).message := by
  cases hvalid : validateUrl py url with
  | error failure =>
      have hout : (performHttpCheck py settings net url method follow).outcome =
          .error failure := by
        rw [performHttpCheck]
        simp only [Traced.bind_eq, Traced.bind_tell, hvalid]
        rfl
      rw [hout] at h
      cases h
      exact Or.inl (validator_message hvalid)
  | ok v =>
      obtain rfl := (validateUrl_ok hvalid).1
      rw [performHttpCheck_outcome hvalid] at h
      exact checkLoop_message hvalid h

/-- **A stopped hop gives the check its message.** -/
theorem performHttpCheck_stopped {m : Str} (h : Stopped py settings net method follow 0 url m) :
    ∃ e, (performHttpCheck py settings net url method follow).outcome = .error e ∧
      (failureOf e).message = m := by
  obtain ⟨j, v, hreach, hvalid, hstop⟩ := h
  obtain ⟨e, hout, hmessage⟩ := resolveAndValidate_stopped hstop
  have hhop : (sendHop py settings net method j v).outcome = .error e := by
    rw [sendHop_eq hvalid, Traced.bind_of_error hout]
  refine ⟨e, ?_, hmessage⟩
  rw [performHttpCheck_of_reaches hreach hvalid, checkLoop_eq, Traced.bind_of_error hhop]

end Check

end NetProbeFailureMessages
