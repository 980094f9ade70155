import NetProbe.PyTextProofs
import NetProbe.TracedProofs

/-!
# The DNS lookup

`perform_dns_lookup` builds a resolver, asks it for the records of one type, and formats them.
The resolver is the structure `DnsNet`; every query it is asked is an event.
-/

namespace NetProbeDnsService

open NetProbePyText TracedRun

-- ── The world outside ─────────────────────────────────────────────────────────────

/-- The exceptions of `resolver.resolve` the program tells apart. -/
inductive DnsFailure where
  | nxdomain
  | noAnswer
  | noNameservers
  | timeout
  | other (name : Str)
  deriving DecidableEq, Repr

/-- What the program reads of a record; `strings` is the text of the joined strings of a `TXT`
    record, decoded. -/
structure Rdata where
  preference : Int
  exchange : Str
  strings : Str
  text : Str
  deriving DecidableEq, Repr

/-- An answer: its records, and the time to live of the record set if there is one. -/
structure DnsAnswer where
  rdatas : List Rdata
  ttl : Option Int
  deriving DecidableEq, Repr

/-- The resolver and the clock. -/
structure DnsNet where
  /-- the name servers of `dns.asyncresolver.Resolver()`, or the exception it raises -/
  nameservers : Except Str (List Str)
  /-- `resolver.resolve(domain, record_type, raise_on_no_answer=True)` -/
  resolve : Str → Str → Except DnsFailure DnsAnswer
  elapsed_ms : Int

/-- What can be observed of a lookup. -/
inductive DnsEvent where
  | query (domain record_type : Str)
  deriving DecidableEq, Repr

/-- The exceptions of a lookup. -/
inductive DnsError where
  | domainNotFoundError (message : Str)
  | noRecordsError (message : Str)
  | timeoutError (message : Str)
  | otherException (name : Str)
  deriving DecidableEq, Repr

/-- `DnsLookupResult` -/
structure DnsLookupResult where
  domain : Str
  record_type : Str
  records : List Str
  ttl : Option Int
  resolver : Option Str
  lookup_time_ms : Int
  deriving DecidableEq, Repr

-- ── The program ───────────────────────────────────────────────────────────────────

/-- `SUPPORTED_TYPES` -/
def supportedTypes : List Str :=
  [str "A", str "AAAA", str "CNAME", str "MX", str "TXT", str "NS"]

/-- `_format_record(record_type, rdata)` -/
def formatRecord (record_type : Str) (rdata : Rdata) : Str :=
  if record_type = str "MX" then
    (toString rdata.preference).toList ++ ' ' :: rstrip (· = '.') rdata.exchange
  else if record_type = str "TXT" then rdata.strings
  else if record_type = str "CNAME" ∨ record_type = str "NS" then rstrip (· = '.') rdata.text
  else rdata.text

/-- The `except` clauses around `resolver.resolve`. -/
def resolveFailure (domain record_type : Str) : DnsFailure → DnsError
  | .nxdomain => .domainNotFoundError (str "도메인을 찾을 수 없습니다: " ++ domain)
  | .noAnswer => .noRecordsError (domain ++ str "에 " ++ record_type ++ str " 레코드가 없습니다.")
  | .noNameservers =>
      .domainNotFoundError (str "DNS 서버로부터 응답을 받지 못했습니다: " ++ domain)
  | .timeout => .timeoutError (str "DNS 조회 시간이 초과되었습니다: " ++ domain)
  | .other name => .otherException name

/-- `perform_dns_lookup(domain, record_type)` -/
def performDnsLookup (net : DnsNet) (domain record_type : Str) :
    Traced DnsEvent DnsError DnsLookupResult :=
  match net.nameservers with
  | .error name => .raise (.otherException name)
  | .ok nameservers => do
      .tell [.query domain record_type]
      match net.resolve domain record_type with
      | .error e => .raise (resolveFailure domain record_type e)
      | .ok answer =>
          .ret {
            domain := domain
            record_type := record_type
            records := answer.rdatas.map (formatRecord record_type)
            ttl := answer.ttl
            resolver := nameservers.head?
            lookup_time_ms := net.elapsed_ms }

/-- A lookup asks for its own domain; if it asks nothing, it has failed before. -/
theorem performDnsLookup_events (net : DnsNet) (domain record_type : Str) :
    (performDnsLookup net domain record_type).events = [.query domain record_type] ∨
      ((performDnsLookup net domain record_type).events = [] ∧
        ∃ name, (performDnsLookup net domain record_type).outcome = .error
          (.otherException name)) := by
  rw [performDnsLookup]
  cases net.nameservers with
  | error name => exact Or.inr ⟨rfl, name, rfl⟩
  | ok nameservers =>
      refine Or.inl ?_
      cases net.resolve domain record_type with
      | error e => simp [Traced.raise]
      | ok answer => simp [Traced.ret]

end NetProbeDnsService
