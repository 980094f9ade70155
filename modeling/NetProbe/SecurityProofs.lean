import Mathlib.Data.List.Basic
import NetProbe.ConfigProofs
import NetProbe.IpAddressProofs
import NetProbe.UrlSplitProofs

/-!
# Target validation

The validators of `app/core/security.py`: which addresses are blocked, which domain, host and
URL texts are accepted, which ports and domains the settings allow.  A validator answers with
the accepted value or with the exception it raises; `ValueError` of `urlsplit` is not caught
by `validate_url` and is an answer of its own.

`is_blocked_ip` calls itself once, on the text of the IPv4 address embedded in a mapped
address.  That text is an IPv4 literal again (`ipAddress_ipv4Str`), so the second call is the
last one: `isBlockedIp` is one pass (`isBlockedStep`) whose recursive call is a second pass
that has no mapped address to look at.
-/

namespace NetProbeSecurity

open NetProbePyText NetProbeConfig NetProbeIpAddress NetProbeUrlSplit

/-- The exceptions of a probe, with their messages. -/
inductive ProbeError where
  | validationError (message : Str)
  | targetNotAllowedError (message : Str)
  | dnsFailedError (message : Str)
  | timeoutError (message : Str)
  | connectionRefusedError (message : Str)
  | tlsOrTransportError (message : Str)
  | tooManyRedirectsError (message : Str)
  | valueError
  | otherException (name : Str)
  deriving DecidableEq, Repr

open ProbeError

-- ── Addresses ─────────────────────────────────────────────────────────────────────

/-- `_METADATA_ADDRESSES` -/
def metadataAddresses : List Str :=
  [str "169.254.169.254", str "100.100.100.200", str "fd00:ec2::254"]

/-- The six predicates of `ipaddress` that block an address. -/
def isSpecial (py : Python) (addr : IpAddr) : Bool :=
  isLoopback py addr || isLinkLocal py addr || isMulticast py addr || isReserved py addr ||
    isUnspecified py addr || isPrivate addr

/-- One pass of `is_blocked_ip`; `again` is its call on the embedded address. -/
def isBlockedStep (py : Python) (again : Str → Bool) (ip_str : Str) : Bool :=
  if metadataAddresses.contains ip_str then true
  else
    match ipAddress ip_str with
    | none => true
    | some addr =>
        if isSpecial py addr then true
        else
          match addr with
          | .v4 _ => false
          | .v6 n _ =>
              match ipv4Mapped n with
              | some m => again (ipv4Str m)
              | none => false

/-- `is_blocked_ip(ip_str)` -/
def isBlockedIp (py : Python) (ip_str : Str) : Bool :=
  isBlockedStep py (isBlockedStep py fun _ => false) ip_str

/-- `assert_ip_allowed(ip_str)` -/
def assertIpAllowed (py : Python) (settings : Settings) (ip_str : Str) : Except ProbeError Unit :=
  if settings.allow_private_targets then .ok ()
  else if isBlockedIp py ip_str then
    .error (targetNotAllowedError (str "허용되지 않은 대상 주소입니다: " ++ ip_str))
  else .ok ()

/-- The text of an embedded address is an IPv4 literal, so the second pass never looks
    further. -/
theorem isBlockedStep_ipv4Str (py : Python) {again again' : Str → Bool} {m : Nat}
    (h : m < 2 ^ 32) :
    isBlockedStep py again (ipv4Str m) = isBlockedStep py again' (ipv4Str m) := by
  unfold isBlockedStep
  rw [ipAddress_ipv4Str h]

/-- A pass looks at its recursive call on texts of embedded addresses only. -/
theorem isBlockedStep_congr (py : Python) {again again' : Str → Bool}
    (h : ∀ m < 2 ^ 32, again (ipv4Str m) = again' (ipv4Str m)) (ip_str : Str) :
    isBlockedStep py again ip_str = isBlockedStep py again' ip_str := by
  unfold isBlockedStep
  split
  · rfl
  · split
    · rfl
    · split
      · rfl
      · split
        · rfl
        · split
          · rename_i m hm
            refine h m ?_
            unfold ipv4Mapped at hm
            split at hm
            · cases hm
            · rw [← Option.some.inj hm]
              exact Nat.mod_lt _ (by decide)
          · rfl

/-- **The recursion equation of the source.** `isBlockedIp` is the pass that calls
    `isBlockedIp` itself on the embedded address. -/
theorem isBlockedIp_eq (py : Python) (ip_str : Str) :
    isBlockedIp py ip_str = isBlockedStep py (isBlockedIp py) ip_str :=
  isBlockedStep_congr py (fun _ hm => isBlockedStep_ipv4Str py hm) ip_str

-- ── Domains and hosts ─────────────────────────────────────────────────────────────

def isAsciiAlnum (c : Char) : Bool := isAsciiAlpha c || isAsciiDigit c

/-- `[a-zA-Z0-9]([a-zA-Z0-9-]{0,61}[a-zA-Z0-9])?` -/
def isDomainLabel (s : Str) : Bool :=
  1 ≤ s.length && s.length ≤ 63 && s.all (fun c => isAsciiAlnum c || c = '-') &&
    s.head?.any isAsciiAlnum && s.getLast?.any isAsciiAlnum

/-- `_DOMAIN_LABEL_RE.match(label)`; `$` also matches before a final line feed. -/
def domainLabelMatches (label : Str) : Bool :=
  isDomainLabel label || (label.getLast? = some '\n' && isDomainLabel label.dropLast)

/-- The separators of a domain name for the IDNA codec. -/
def isIdnaDot (c : Char) : Bool := c = '.' || c = '\u3002' || c = '\uFF0E' || c = '\uFF61'

/-- `encodings.idna.ToASCII(label)` -/
def idnaToAscii (py : Python) (label : Str) : Option Str :=
  let checkLength := fun s : Str => if 0 < s.length && s.length < 64 then some s else none
  if label.all isAscii then checkLength label
  else
    (py.nameprep label).bind fun prepared =>
      if prepared.all isAscii then checkLength prepared
      else if startswith (str "xn--") (py.lower prepared) then none
      else checkLength (str "xn--" ++ py.punycode prepared)

/-- `domain.encode("idna").decode("ascii")`; `none` is `UnicodeError`.  An ASCII name is
    only checked for the lengths of its labels, the last of which may be empty. -/
def idnaEncode (py : Python) (domain : Str) : Option Str :=
  if domain = [] then some []
  else if domain.all isAscii then
    let labels := split '.' domain
    if (labels.dropLast.all fun l => 0 < l.length && l.length < 64) &&
      (labels.getLastD []).length < 64 then
      some domain
    else none
  else
    let labels := domain.splitOnP isIdnaDot
    let trailing := labels.getLastD [] = []
    let labels := if trailing then labels.dropLast else labels
    (labels.mapM (idnaToAscii py)).map fun encoded =>
      ['.'].intercalate encoded ++ (if trailing then ['.'] else [])

/-- `validate_domain(domain)` -/
def validateDomain (py : Python) (domain : Str) : Except ProbeError Str :=
  if domain = [] || 253 < domain.length then
    .error (validationError (str "도메인 형식이 올바르지 않습니다."))
  else if contains (str "://") domain || '/' ∈ domain || ':' ∈ domain then
    .error (validationError (str "도메인만 입력해야 합니다 (스킴, 경로, 포트 제외)."))
  else
    match idnaEncode py domain with
    | none => .error (validationError (str "도메인 형식이 올바르지 않습니다."))
    | some idna_domain =>
        let labels := split '.' (rstrip (· = '.') idna_domain)
        if labels.length < 2 then
          .error (validationError (str "도메인 형식이 올바르지 않습니다."))
        else if labels.any fun label => 63 < label.length || !domainLabelMatches label then
          .error (validationError (str "도메인 형식이 올바르지 않습니다."))
        else .ok idna_domain

/-- `validate_host(host)` -/
def validateHost (py : Python) (host : Str) : Except ProbeError Str :=
  if host = [] || 253 < host.length then
    .error (validationError (str "호스트 형식이 올바르지 않습니다."))
  else if contains (str "://") host || '/' ∈ host then
    .error (validationError (str "호스트 형식이 올바르지 않습니다."))
  else
    let candidate := if startswith ['['] host && endswith [']'] host then (host.drop 1).dropLast
      else host
    match ipAddress candidate with
    | some _ => .ok candidate
    | none => validateDomain py host

/-- `validate_url(url)` -/
def validateUrl (py : Python) (url : Str) : Except ProbeError Str :=
  if url = [] || 2048 < url.length then
    .error (validationError (str "URL은 2,048자를 초과할 수 없습니다."))
  else
    match urlsplit py url with
    | none => .error valueError
    | some parts =>
        if ¬ (parts.scheme = str "http" ∨ parts.scheme = str "https") then
          .error (validationError (str "http 또는 https 스킴만 허용됩니다."))
        else if (username parts).getD [] ≠ [] || (password parts).getD [] ≠ [] then
          .error (validationError (str "URL에 인증정보를 포함할 수 없습니다."))
        else
          match hostname py parts with
          | none => .error (validationError (str "URL에 호스트가 없습니다."))
          | some host =>
              match validateHost py host with
              | .error e => .error e
              | .ok _ => .ok url

/-- `assert_port_allowed(port)` -/
def assertPortAllowed (settings : Settings) (port : Int) : Except ProbeError Unit :=
  if ¬ (1 ≤ port ∧ port ≤ 65535) then
    .error (validationError (str "포트는 1~65535 범위여야 합니다."))
  else if settings.allow_private_targets then .ok ()
  else if settings.allowed_tcp_ports ≠ [] ∧ port ∉ settings.allowed_tcp_ports then
    .error (targetNotAllowedError
      (str "포트 " ++ (toString port).toList ++ str "는 공개 서비스에서 허용되지 않습니다."))
  else .ok ()

/-- `assert_domain_allowlisted(domain)` -/
def assertDomainAllowlisted (py : Python) (settings : Settings) (domain : Str) :
    Except ProbeError Unit :=
  if settings.allowed_target_domains = [] then .ok ()
  else
    let normalized := py.lower (rstrip (· = '.') domain)
    let matchesEntry := fun allowed =>
      let allowed_norm := py.lower (rstrip (· = '.') allowed)
      normalized = allowed_norm || endswith ('.' :: allowed_norm) normalized
    if settings.allowed_target_domains.any matchesEntry then .ok ()
    else .error (targetNotAllowedError (str "허용되지 않은 도메인입니다: " ++ domain))

-- ── What an accepted URL is ───────────────────────────────────────────────────────

/-- An accepted URL is returned as it is; it is an `http` or `https` URL of at most 2048
    characters, without a user name or password, with a valid host. -/
theorem validateUrl_ok {py : Python} {url v : Str} (h : validateUrl py url = .ok v) :
    v = url ∧ url ≠ [] ∧ url.length ≤ 2048 ∧ ∃ parts host,
      urlsplit py url = some parts ∧ (parts.scheme = str "http" ∨ parts.scheme = str "https") ∧
        (username parts).getD [] = [] ∧ (password parts).getD [] = [] ∧
          hostname py parts = some host ∧ ∃ a, validateHost py host = .ok a := by
  rw [validateUrl] at h
  split at h
  · cases h
  · rename_i hlen
    simp only [Bool.or_eq_true, decide_eq_true_eq, not_or, not_lt] at hlen
    split at h
    · cases h
    · rename_i parts hparts
      split at h
      · cases h
      · rename_i hscheme
        split at h
        · cases h
        · rename_i hcred
          split at h
          · cases h
          · rename_i host hhost
            split at h
            · cases h
            · rename_i a ha
              simp only [Bool.or_eq_true, decide_eq_true_eq, ne_eq, not_or, not_not] at hcred
              refine ⟨(Except.ok.inj h).symm, hlen.1, hlen.2, parts, host, hparts, ?_, hcred.1,
                hcred.2, hhost, a, ha⟩
              exact not_not.mp hscheme

end NetProbeSecurity
