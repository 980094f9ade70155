import NetProbe.DictProofs
import NetProbe.JsonTextProofs
import NetProbe.SessionApiProofs

/-!
# The page and its CSRF token

`readCookie` and the header that `callApi` of `app/static/js/app.js` sends, with the two cookies
of a login.  The page sends as header what it reads in `document.cookie`, the browser sends its
cookies along, and the server compares both with the session (`require_csrf`).

Requests run beside each other, and each browser has one set of cookies for all of them; still a
session cookie and a CSRF cookie that a browser holds together come from one login (`Matching`), and
the session API refuses the page only for a session that is over (`page_not_refused`).
-/

namespace NetProbePageCookies

open NetProbePyText NetProbeConfig NetProbeCoreAuth NetProbeAccountStore NetProbeAuthService
open NetProbeAdminUsers NetProbeAccountRuns NetProbeDeps NetProbeAuthDeps NetProbeSessionApi
open Dictionary UniqueTable Transaction Transaction.Txn LabelledRun EventLoop EventLoop.Coroutine

-- ── Percent-encoding ──────────────────────────────────────────────────────────────

/-- The characters that `encodeURIComponent` leaves alone. -/
def unreserved (c : Char) : Bool := c.isAlphanum || (str "-_.!~*'()").contains c

def percent (octet : UInt8) : Str :=
  ['%', (octet.toNat / 16).digitChar.toUpper, (octet.toNat % 16).digitChar.toUpper]

/-- `encodeURIComponent(value)` -/
def encodeURIComponent (value : Str) : Str :=
  value.flatMap fun c => if unreserved c then [c] else (String.utf8EncodeChar c).flatMap percent

/-- `%XX` at the front. -/
def octet : Str → Option (Nat × Str)
  | '%' :: a :: b :: rest => do
      let a ← JsonText.hexValue a
      let b ← JsonText.hexValue b
      return (a * 16 + b, rest)
  | _ => none

/-- The octets that continue a character. -/
def continuation : Nat → Nat → Str → Option (Nat × Str)
  | 0, point, rest => some (point, rest)
  | n + 1, point, rest => do
      let (b, rest) ← octet rest
      if b / 64 = 2 then continuation n (point * 64 + b % 64) rest else none

/-- The character that starts with an octet: in its shortest form, and no surrogate. -/
def character (b : Nat) (rest : Str) : Option (Char × Str) := do
  let (least, point, rest) ←
    if b < 0x80 then some (0, b, rest)
    else if b / 32 = 6 then (continuation 1 (b % 32) rest).map fun r => (0x80, r)
    else if b / 16 = 14 then (continuation 2 (b % 16) rest).map fun r => (0x800, r)
    else if b / 8 = 30 then (continuation 3 (b % 8) rest).map fun r => (0x10000, r)
    else none
  if least ≤ point ∧ point.isValidChar then some (Char.ofNat point, rest) else none

/-- The characters, `n` at most; `none` is a `URIError`. -/
def decodeFrom : Nat → Str → Option Str
  | _, [] => some []
  | 0, _ :: _ => none
  | n + 1, c :: cs =>
      if c = '%' then do
        let (b, rest) ← octet (c :: cs)
        let (d, rest) ← character b rest
        return d :: (← decodeFrom n rest)
      else (decodeFrom n cs).map (c :: ·)

/-- `decodeURIComponent(value)` -/
def decodeURIComponent (value : Str) : Option Str := decodeFrom value.length value

-- ── Cookies in a text ─────────────────────────────────────────────────────────────

/-- The parts from here on, the first of which has begun. -/
def partsFrom (part : Str) : Str → List Str
  | [] => [part]
  | [c] => [part ++ [c]]
  | c :: d :: cs =>
      if c = ';' ∧ d = ' ' then part :: partsFrom [] cs else partsFrom (part ++ [c]) (d :: cs)

/-- `value.split("; ")` -/
def parts (value : Str) : List Str := partsFrom [] value

/-- `readCookie(name)` -/
def readCookie (cookie name : Str) : Str :=
  let start := encodeURIComponent name ++ ['=']
  (((parts cookie).find? start.isPrefixOf).map (·.drop start.length)).getD []

/-- `document.cookie`: the cookies that a page can see, in the order of the browser. -/
def documentCookie : List (Str × Str) → Str
  | [] => []
  | [(name, value)] => name ++ '=' :: value
  | (name, value) :: c :: cs => name ++ '=' :: (value ++ ';' :: ' ' :: documentCookie (c :: cs))

/-- The cookies of these names. -/
def visible (names : List Str) (jar : Jar) : List (Str × Str) :=
  names.filterMap fun name => (jar name).map fun value => (name, value)

/-- `options.headers` of a `POST`.  A value that cannot be decoded ends the call. -/
def pageHeaders (names : List Str) (jar : Jar) (header : Str) : Option Str :=
  if header = str "content-type" then some (str "application/json")
  else if header = str "x-csrf-token" then
    let csrf := readCookie (documentCookie (visible names jar)) (str "netprobe_csrf")
    if csrf = [] then none else decodeURIComponent csrf
  else none

/-- What `secrets.token_urlsafe` draws. -/
def UrlSafe (token : Str) : Prop := token ≠ [] ∧ ∀ c ∈ token, c.isAlphanum ∨ c = '-' ∨ c = '_'

/-- A name without the characters that separate cookies. -/
def CookieName (name : Str) : Prop := '=' ∉ name ∧ ';' ∉ name

section Texts

variable {name value part rest token : Str} {cs : List (Str × Str)} {names : List Str} {jar : Jar}

theorem encodeURIComponent_of_unreserved (h : ∀ c ∈ name, unreserved c = true) :
    encodeURIComponent name = name := by
  rw [encodeURIComponent]
  induction name with
  | nil => rfl
  | cons c cs ih =>
      rw [List.flatMap_cons, if_pos (h c List.mem_cons_self),
        ih fun d hd => h d (List.mem_cons_of_mem _ hd)]
      rfl

theorem decodeFrom_of_plain {n : Nat} (hn : value.length ≤ n) (h : '%' ∉ value) :
    decodeFrom n value = some value := by
  induction value generalizing n with
  | nil => cases n <;> rfl
  | cons c cs ih =>
      obtain ⟨m, rfl⟩ := Nat.exists_eq_succ_of_ne_zero (Nat.ne_zero_of_lt hn)
      have hc : c ≠ '%' := fun hc => h (hc ▸ List.mem_cons_self)
      have hcs : decodeFrom m cs = some cs :=
        ih (Nat.le_of_succ_le_succ hn) fun hmem => h (List.mem_cons_of_mem _ hmem)
      rw [decodeFrom, if_neg hc, hcs]
      rfl

/-- A text without `%` is decoded to itself. -/
theorem decodeURIComponent_of_plain (h : '%' ∉ value) : decodeURIComponent value = some value :=
  decodeFrom_of_plain (Nat.le_refl _) h

theorem UrlSafe.not_mem {c : Char} (h : UrlSafe token) (hc : ¬ c.isAlphanum) (hdash : c ≠ '-')
    (hunder : c ≠ '_') : c ∉ token := by
  intro hmem
  rcases h.2 c hmem with halnum | rfl | rfl
  · exact hc halnum
  · exact hdash rfl
  · exact hunder rfl

theorem partsFrom_end (h : ';' ∉ rest) : partsFrom part rest = [part ++ rest] := by
  induction rest generalizing part with
  | nil => rw [partsFrom, List.append_nil]
  | cons c cs ih =>
      have hc : c ≠ ';' := fun hc => h (hc ▸ List.mem_cons_self)
      cases cs with
      | nil => rfl
      | cons d ds =>
          rw [partsFrom, if_neg fun hsep => hc hsep.1,
            ih fun hmem => h (List.mem_cons_of_mem _ hmem)]
          rw [List.append_assoc]
          rfl

theorem partsFrom_append (h : ';' ∉ value) :
    partsFrom part (value ++ ';' :: ' ' :: rest) = (part ++ value) :: partsFrom [] rest := by
  induction value generalizing part with
  | nil => rw [List.nil_append, partsFrom, if_pos ⟨rfl, rfl⟩, List.append_nil]
  | cons c cs ih =>
      have hc : c ≠ ';' := fun hc => h (hc ▸ List.mem_cons_self)
      have hcs : partsFrom (part ++ [c]) (cs ++ ';' :: ' ' :: rest) =
          (part ++ [c] ++ cs) :: partsFrom [] rest := ih fun hmem => h (List.mem_cons_of_mem _ hmem)
      cases cs with
      | nil =>
          rw [List.cons_append, List.nil_append, partsFrom, if_neg fun hsep => hc hsep.1]
          rw [List.nil_append, List.append_nil] at hcs
          exact hcs
      | cons d ds =>
          rw [List.cons_append, List.cons_append, partsFrom, if_neg fun hsep => hc hsep.1,
            ← List.cons_append, hcs]
          rw [List.append_assoc]
          rfl

/-- The text of a cookie. -/
theorem not_mem_cookie {c : Str × Str} (hname : CookieName c.1) (hvalue : ';' ∉ c.2) :
    ';' ∉ c.1 ++ '=' :: c.2 := by
  rw [List.mem_append, List.mem_cons]
  rintro (h | h | h)
  · exact hname.2 h
  · cases h
  · exact hvalue h

/-- **`document.cookie` is taken apart into its cookies.** -/
theorem parts_documentCookie (hne : cs ≠ []) (hcs : ∀ c ∈ cs, CookieName c.1 ∧ ';' ∉ c.2) :
    parts (documentCookie cs) = cs.map fun c => c.1 ++ '=' :: c.2 := by
  induction cs with
  | nil => exact absurd rfl hne
  | cons c cs ih =>
      obtain ⟨hname, hvalue⟩ := hcs c List.mem_cons_self
      cases cs with
      | nil => exact partsFrom_end (not_mem_cookie hname hvalue)
      | cons d ds =>
          have htail := ih (List.cons_ne_nil _ _) fun e he => hcs e (List.mem_cons_of_mem _ he)
          have hsplit : documentCookie (c :: d :: ds) =
              (c.1 ++ '=' :: c.2) ++ ';' :: ' ' :: documentCookie (d :: ds) := by
            rw [documentCookie, List.append_assoc, List.cons_append]
          rw [parts, hsplit, partsFrom_append (not_mem_cookie hname hvalue),
            List.nil_append, List.map_cons]
          exact congrArg _ htail

/-- A text is cut at its first `=` in one way. -/
theorem cut_inj {a b s t : Str} (ha : '=' ∉ a) (hb : '=' ∉ b) (h : a ++ '=' :: s = b ++ '=' :: t) :
    a = b ∧ s = t := by
  induction a generalizing b with
  | nil =>
      cases b with
      | nil => exact ⟨rfl, (List.cons.inj h).2⟩
      | cons d ds => exact absurd ((List.cons.inj h).1 ▸ List.mem_cons_self) hb
  | cons c cs ih =>
      cases b with
      | nil => exact absurd ((List.cons.inj h).1.symm ▸ List.mem_cons_self) ha
      | cons d ds =>
          obtain ⟨hcd, htail⟩ := List.cons.inj h
          obtain ⟨rfl, rfl⟩ := ih (fun hmem => ha (List.mem_cons_of_mem _ hmem))
            (fun hmem => hb (List.mem_cons_of_mem _ hmem)) htail
          exact ⟨by rw [hcd], rfl⟩

/-- A cookie starts with a name and `=` if that is its name. -/
theorem isPrefixOf_cookie {c : Str × Str} (hname : CookieName c.1) (h : '=' ∉ name) :
    (name ++ ['=']).isPrefixOf (c.1 ++ '=' :: c.2) = decide (c.1 = name) := by
  rw [Bool.eq_iff_iff, List.isPrefixOf_iff_prefix, decide_eq_true_eq]
  constructor
  · rintro ⟨rest, hrest⟩
    rw [List.append_assoc, List.singleton_append] at hrest
    exact (cut_inj h hname.1 hrest).1.symm
  · rintro rfl
    exact ⟨c.2, by rw [List.append_assoc, List.singleton_append]⟩

theorem find_cookie (hcs : ∀ c ∈ cs, CookieName c.1 ∧ ';' ∉ c.2) (h : '=' ∉ name) :
    ((cs.map fun c => c.1 ++ '=' :: c.2).find? (name ++ ['=']).isPrefixOf).map
      (·.drop (name ++ ['=']).length) = valueOf cs name := by
  induction cs with
  | nil => rfl
  | cons c cs ih =>
      have htail := ih fun d hd => hcs d (List.mem_cons_of_mem _ hd)
      rw [List.map_cons, List.find?_cons, isPrefixOf_cookie (hcs c List.mem_cons_self).1 h]
      obtain ⟨n, v⟩ := c
      rw [valueOf_cons]
      by_cases hname : n = name
      · subst hname
        rw [decide_eq_true rfl, if_pos rfl, Option.map_some]
        have hsplit : n ++ '=' :: v = (n ++ ['=']) ++ v := by
          rw [List.append_assoc, List.singleton_append]
        rw [hsplit, List.drop_left]
      · rw [decide_eq_false hname, if_neg fun h => hname h.symm]
        exact htail

/-- **`readCookie` reads the cookie of the name.** -/
theorem readCookie_documentCookie (hcs : ∀ c ∈ cs, CookieName c.1 ∧ ';' ∉ c.2)
    (h : ∀ c ∈ name, unreserved c = true) : readCookie (documentCookie cs) name =
    (valueOf cs name).getD [] := by
  have heq : '=' ∉ name := fun hmem => absurd (h '=' hmem) (by decide)
  rw [readCookie, encodeURIComponent_of_unreserved h]
  by_cases hne : cs = []
  · subst hne
    show ((List.find? _ [[]]).map _).getD [] = []
    have hnot : (name ++ ['=']).isPrefixOf ([] : Str) = false := by cases name <;> rfl
    rw [List.find?_cons, hnot]
    rfl
  · rw [parts_documentCookie hne hcs, find_cookie hcs heq]

theorem valueOf_visible (hmem : name ∈ names) (hjar : jar name = some value) :
    valueOf (visible names jar) name = some value := by
  induction names with
  | nil => cases hmem
  | cons n names ih =>
      rw [visible, List.filterMap_cons]
      by_cases hname : name = n
      · subst hname
        rw [hjar, Option.map_some, valueOf_cons, if_pos rfl]
      · have hrest := ih ((List.mem_cons.mp hmem).resolve_left hname)
        cases jar n with
        | none => exact hrest
        | some v =>
            rw [Option.map_some, valueOf_cons, if_neg hname]
            exact hrest

theorem mem_visible {c : Str × Str} (hc : c ∈ visible names jar) :
    c.1 ∈ names ∧ jar c.1 = some c.2 := by
  obtain ⟨n, hn, hmap⟩ := List.mem_filterMap.mp hc
  obtain ⟨v, hv, rfl⟩ := Option.map_eq_some_iff.mp hmap
  exact ⟨hn, hv⟩

/-- **The page sends the CSRF cookie that the browser holds.** -/
theorem pageHeaders_csrf (hmem : str "netprobe_csrf" ∈ names) (hnames : ∀ n ∈ names, CookieName n)
    (hvalues : ∀ n ∈ names, ∀ v, jar n = some v → ';' ∉ v)
    (hjar : jar (str "netprobe_csrf") = some token)
    (hsafe : UrlSafe token) : pageHeaders names jar (str "x-csrf-token") = some token := by
  have hread : readCookie (documentCookie (visible names jar)) (str "netprobe_csrf") = token := by
    rw [readCookie_documentCookie, valueOf_visible hmem hjar]
    · rfl
    · intro c hc
      obtain ⟨hname, hvalue⟩ := mem_visible hc
      exact ⟨hnames _ hname, hvalues _ hname _ hvalue⟩
    · exact fun c hc =>
        List.all_eq_true.mp (by rfl : (str "netprobe_csrf").all unreserved = true) c hc
  rw [pageHeaders, if_neg (by decide), if_pos rfl]
  dsimp only
  rw [hread, if_neg hsafe.1]
  exact decodeURIComponent_of_plain (hsafe.not_mem (by decide) (by decide) (by decide))

end Texts

-- ── Exceptions of the transactions ────────────────────────────────────────────────

/-- An exception that is no answer of the program's own. -/
def Foreign : AuthError → Prop
  | .httpException .. => False
  | _ => True

section Exceptions

variable {py : Python} {settings : Settings} {crypto : Crypto} {clock : Clock}
  {α : Type} {p : AuthTxn α}

theorem raises_withPool (h : Raises Foreign p) : Raises Foreign (withPool settings p) :=
  withPool_rule h (raises_raise trivial)

theorem raises_changeAccounts {found : Store → List LockKey}
    {g : List LockKey → Store → List Account → List Account} {a : List LockKey → Store → α} :
    Raises Foreign (query found fun ks v => changeAccounts v (g ks v) (a ks v) : AuthTxn α) := by
  refine raises_query ?_
  intro ks v e h
  rw [changeAccounts] at h
  split at h
  next => cases h
  next =>
    cases h
    trivial

theorem raises_updateAccounts {keys : List LockKey} {q : Account → Bool} {f : Account → Account} :
    Raises Foreign (updateAccounts keys q f) := raises_changeAccounts

theorem raises_selectAccountForUpdate {q : Account → Bool} :
    Raises Foreign (selectAccountForUpdate q) :=
  raises_query fun _ _ _ h => by cases h

theorem raises_selectSessions {scan : Scan Session} {q : Session → Bool} :
    Raises Foreign (selectSessions scan q) := raises_query fun _ _ _ h => by cases h

theorem raises_selectSessionForUpdate {q : Session → Bool} :
    Raises Foreign (selectSessionForUpdate q) :=
  raises_query fun _ _ _ h => by cases h

theorem raises_existsSession {q : Session → Bool} : Raises Foreign (existsSession q) :=
  raises_query fun _ _ _ h => by cases h

theorem raises_updateSessions {q : Session → Bool} {f : Session → Session} :
    Raises Foreign (updateSessions q f) := raises_query fun _ _ _ h => by cases h

theorem raises_insertSession {row : Session} : Raises Foreign (insertSession row) := by
  refine raises_query ?_
  intro ks v e h
  split at h
  next =>
    cases h
    trivial
  next =>
    split at h
    next => cases h
    next =>
      cases h
      trivial

theorem raises_insertHistory {row : PasswordHistory} : Raises Foreign (insertHistory row) := by
  refine raises_query ?_
  intro ks v e h
  split at h
  next =>
    cases h
    trivial
  next =>
    split at h
    next => cases h
    next =>
      cases h
      trivial

theorem raises_selectHistory {scan : Scan PasswordHistory}
    {q : PasswordHistory → Bool} {limit : Int} :
    Raises Foreign (selectHistory scan q limit) := by
  refine raises_query ?_
  intro ks v e h
  split at h
  next =>
    cases h
    trivial
  next => cases h

theorem raises_trimHistory {scan : Scan PasswordHistory}
    {q : PasswordHistory → Bool} {limit : Int} :
    Raises Foreign (trimHistory scan q limit) := by
  refine raises_query ?_
  intro ks v e h
  split at h
  next =>
    cases h
    trivial
  next => cases h

theorem raises_addAuthEvent {fields : AuditFields} :
    Raises Foreign (addAuthEvent settings clock fields) := by
  refine (raises_tell _).bind fun _ => raises_query ?_
  intro ks v e h
  split at h
  next => cases h
  next =>
    cases h
    trivial

theorem raises_verify {user_id : Option Uuid} {password encoded_hash : Str} :
    Raises Foreign (verify settings crypto user_id password encoded_hash) := by
  rw [verify]
  split
  next => exact raises_raise trivial
  next => exact trivial

theorem raises_verifiesAny {user_id : Uuid} {password : Str} {hashes : List Str} :
    Raises Foreign (verifiesAny settings crypto user_id password hashes) := by
  induction hashes with
  | nil => exact raises_ret _
  | cons hash hashes ih =>
      rw [verifiesAny]
      refine raises_verify.bind fun matched => ?_
      cases matched with
      | false => exact ih
      | true => exact raises_ret _

theorem raises_loginSucceeds {draw : LoginDraw} {scan : Scan Session}
    {client_key user_agent : Option Str}
    {password : Str} {user : Account} : Raises Foreign
      (loginSucceeds py settings crypto clock draw scan client_key user_agent password user) := by
  refine raises_updateAccounts.bind fun _ => raises_selectSessions.bind fun sessions => ?_
  refine Raises.bind ?_ fun _ => raises_insertSession.bind fun _ =>
    raises_addAuthEvent.bind fun _ => raises_ret _
  rw [evictOldest]
  split
  next => exact raises_ret _
  next => exact raises_updateSessions.bind fun _ => raises_ret _

theorem raises_loginKnown {draw : LoginDraw} {scan : Scan Session}
    {client_key user_agent : Option Str}
    {password : Str} {found : Account} : Raises Foreign
      (loginKnown py settings crypto clock draw scan client_key user_agent password found) := by
  refine Raises.bind ?_ fun _ => ?_
  · rw [autoUnlock]
    split
    next => exact raises_updateAccounts.bind fun _ => raises_ret _
    next => exact raises_ret _
  · dsimp only
    split
    next => exact raises_addAuthEvent.bind fun _ => raises_ret _
    next =>
      refine raises_verify.bind fun matched => ?_
      cases matched with
      | true => exact raises_loginSucceeds
      | false =>
          exact raises_updateAccounts.bind fun _ => raises_addAuthEvent.bind fun _ => raises_ret _

theorem raises_authenticate {draw : LoginDraw} {scan : Scan Session}
    {username password client_ip : Str}
    {user_agent : Option Str} : Raises Foreign
      (authenticate py settings crypto clock draw scan username password client_ip user_agent) := by
  refine raises_withPool (raises_selectAccountForUpdate.bind fun found => ?_)
  cases found with
  | none => exact raises_verify.bind fun _ => raises_addAuthEvent.bind fun _ => raises_ret _
  | some found => exact raises_loginKnown

theorem raises_resolveSession {token : Str} :
    Raises Foreign (resolveSession settings crypto clock token) := by
  refine raises_withPool (raises_selectSessionForUpdate.bind fun found => ?_)
  cases found with
  | none => exact raises_ret _
  | some r =>
      dsimp only
      split
      next => exact raises_ret _
      next =>
        split
        next => exact raises_updateSessions.bind fun _ => raises_ret _
        next =>
          refine Raises.bind ?_ fun _ => raises_ret _
          rw [recordActivity]
          split
          next => exact raises_updateSessions.bind fun _ => raises_ret _
          next => exact raises_ret _

theorem raises_csrfMatches {session_id : Uuid} {token : Str} :
    Raises Foreign (csrfMatches settings crypto session_id token) :=
      raises_withPool raises_existsSession

theorem raises_revokeSession {session_id user_id : Uuid} {reason : Str} :
    Raises Foreign (revokeSession settings clock session_id user_id reason) :=
  raises_withPool (raises_updateSessions.bind fun _ => raises_addAuthEvent)

theorem raises_changePassword {scan : Scan PasswordHistory} {salt : Str} {historyId : Nat}
    {context : AuthContext} {current_password new_password : Str} : Raises Foreign
      (changePassword py settings crypto clock scan salt historyId context current_password
        new_password) := by
  refine raises_withPool (raises_selectAccountForUpdate.bind fun found => ?_)
  cases found with
  | none => exact raises_ret _
  | some user =>
      refine raises_verify.bind fun matched => ?_
      cases matched with
      | false => exact raises_ret _
      | true =>
          rw [if_pos rfl]
          split
          next => exact raises_raise trivial
          next =>
            refine raises_selectHistory.bind fun history => raises_verifiesAny.bind fun used => ?_
            cases used with
            | true => exact raises_raise trivial
            | false =>
                exact raises_insertHistory.bind fun _ => raises_updateAccounts.bind fun _ =>
                  raises_trimHistory.bind fun _ => raises_updateSessions.bind fun _ =>
                    raises_addAuthEvent.bind fun _ => raises_ret _

end Exceptions

-- ── What a request is answered ────────────────────────────────────────────────────

/-- The two tokens are those of one session. -/
def Paired (env : Env) (token csrf : Str) (s : Store) : Prop :=
  ∃ x ∈ s.sessions.rows, x.token_hash = hashToken env.crypto env.settings token ∧
    x.csrf_token_hash = hashToken env.crypto env.settings csrf

/-- The cookies a response sets: none, those of a login, or the deletions of a logout. -/
inductive Sets (env : Env) (s : Store) : List SetCookie → Prop
  | none : Sets env s []
  | login (r : LoginResult) (paired : Paired env r.token r.csrf_token s)
    (safe : UrlSafe r.csrf_token) :
      Sets env s (loginCookies env.settings r)
  | logout : Sets env s
      [deleteCookie (cookieNames env.settings).1, deleteCookie (cookieNames env.settings).2]

/-- The request has the session cookie, and the CSRF token as header and as cookie. -/
structure Sends (env : Env) (request : Request) (token csrf : Str) : Prop where
  session : request.cookie (sessionCookieName env.settings) = some token
  header : request.header (str "x-csrf-token") = some csrf
  cookie : request.cookie env.settings.csrf_cookie_name = some csrf
  nonempty : csrf ≠ []

/-- A request that is refused for its CSRF token was sent for a session that is over. -/
def Over (env : Env) (request : Request) (code : Str) (s : Store) : Prop :=
  code = str "CSRF_VALIDATION_FAILED" → ∀ token csrf, Sends env request token csrf →
    Revoked env token s

structure Admits (env : Env) (request : Request) (response : AuthResponse) (s : Store) : Prop where
  cookies : Sets env s response.cookies
  refused : ∀ code message, response.body = .error code message → Over env request code s

/-- The same of an exception. -/
def Excused (env : Env) (request : Request) : WebError → Store → Prop
  | .raised (.httpException _ code _), s => Over env request code s
  | _, _ => True

/-- How a handler ends. -/
def Outcome (env : Env) {β : Type} (request : Request) :
    Except WebError AuthResponse → World β → Prop
  | .ok response, w => Admits env request response w.store
  | .error e, w => Excused env request e w.store

/-- The CSRF token that a login draws. -/
def DrawsUrlSafe : AuthRoute → Prop
  | .login _ draw _ _ => UrlSafe draw.csrf_token
  | _ => True

section Store

variable {β : Type} {env : Env} {request : Request} {token csrf : Str} {s : Store} {w w' : World β}
  {c : WebCall β} {i : Bool} {e : WebError} {code : Str}

theorem stable_paired : Stable env (Paired env token csrf) := by
  rintro s call s' hstep ⟨x, hx, htoken, hcsrf⟩
  obtain ⟨y, hy, hxy⟩ := (call_follows hstep).session x hx
  exact ⟨y, hy, hxy.token_hash.trans htoken, hxy.csrf_token_hash.trans hcsrf⟩

theorem stable_admits {response : AuthResponse} : Stable env (Admits env request response) := by
  intro s call s' hstep hs
  refine ⟨?_, ?_⟩
  · have hcookies := hs.cookies
    generalize response.cookies = cs at hcookies
    cases hcookies with
    | none => exact .none
    | login r hpaired hsafe => exact .login r (stable_paired s call s' hstep hpaired) hsafe
    | logout => exact .logout
  · intro code message hbody hcode token csrf hsends
    exact stable_revoked s call s' hstep (hs.refused code message hbody hcode token csrf hsends)

/-- Another code is another refusal. -/
theorem over_of_ne (h : code ≠ str "CSRF_VALIDATION_FAILED") : Over env request code s :=
  fun hcode => absurd hcode h

/-- A transaction raises no answer of the program's own. -/
theorem excused_answer (hraises : Raises Foreign (c.prog env))
    (h : (service env).answer c i w = some (.error e, w')) : Excused env request e s := by
  rcases answer_cases h with ⟨hresult, -⟩ | ⟨hlost, -⟩
  · cases hr : (c.prog env).result w.store with
    | ok a =>
        rw [hr] at hresult
        cases hresult
    | error e' =>
        rw [hr] at hresult
        cases hresult
        have hforeign : Foreign e' := hraises.result hr
        cases e' with
        | httpException => exact hforeign.elim
        | _ => trivial
  · cases hlost
    trivial

/-- A login issues its two tokens together. -/
theorem paired_of_login {clock : Clock} {draw : LoginDraw} {scan : Scan Session}
    {username password client_ip : Str} {user_agent : Option Str} {r : LoginResult}
    (h : (service env).answer
      (.authenticate clock draw scan username password client_ip user_agent) i w =
      some (.ok (some r), w')) : Paired env r.token r.csrf_token w'.store ∧
        r.csrf_token = draw.csrf_token := by
  obtain ⟨hresult, rfl⟩ := result_of_answer h
  have hcall : callStep env w.store
      ⟨.authenticate clock draw scan username password client_ip user_agent, .ok (.login (some r))⟩
      ((authenticate env.py env.settings env.crypto clock draw scan username password client_ip
        user_agent).perform w.store) :=
    ⟨result_answering_of hresult, perform_answering.symm⟩
  obtain ⟨y, hy, hissued⟩ := login_stores hcall rfl
  refine ⟨⟨y, hy, hissued.token_hash, hissued.csrf_token_hash⟩, ?_⟩
  obtain ⟨events, out, hlogin, hends⟩ := callStep_authenticate hcall
  cases hlogin with
  | noPool | unknownRaised | raised | taken | unknown | refused | wrongPassword => cases hends.1
  | loggedIn =>
      cases hends.1
      rfl

/-- The check fails for a session that is over. -/
theorem revoked_of_mismatch {context : AuthContext} (hissued : Issued env token context w.store)
    (hpaired : Paired env token csrf w.store)
    (h : (service env).answer (.csrfMatches context.session_id csrf) i w = some (.ok false, w')) :
    Revoked env token w'.store := by
  obtain ⟨hresult, rfl⟩ := result_of_answer h
  change (csrfMatches env.settings env.crypto context.session_id csrf).result w.store =
    .ok false at hresult
  obtain ⟨x, hx, -, -, htoken, hid, -⟩ := hissued
  obtain ⟨y, hy, htoken', hcsrf⟩ := hpaired
  obtain rfl := token_unique hx hy (htoken.trans htoken'.symm)
  have hrevoked : Revoked env token w.store := by
    refine ⟨x, hx, htoken, ?_⟩
    rw [csrfMatches, withPool] at hresult
    split at hresult
    next =>
      rw [result_of_ok (eval_existsSession _)] at hresult
      have hnone := List.any_eq_false.mp (Except.ok.inj hresult) x hx
      rw [Option.isSome_iff_ne_none]
      simpa [hid, hcsrf] using hnone
    next => cases hresult
  rcases perform_call (WebCall.csrfMatches context.session_id csrf : WebCall β) w.store with
    hsame | ⟨call, hcall⟩
  · show Revoked env token
      ((WebCall.csrfMatches context.session_id csrf : WebCall β).prog env |>.perform
      w.store)
    rwa [hsame]
  · exact stable_revoked _ call _ hcall hrevoked

end Store

section Handlers

variable {β τ : Type} [DecidableEq τ] {env : Env} {t : τ} {w : World β} {request : Request}
  {clock csrfClock userClock : Clock}
  {C : (c : WebCall β) → Except WebError c.Result → (β → Jar) → World β → Prop}
  {I : (β → Jar) → World β → (τ → List (Event (WebCall β) WebCall.Result WebError)) → Prop}

/-- A response that sets no cookies and has no error. -/
theorem admits_data {status_code : Int} {data : AuthData} {s : Store} :
    Admits env request ⟨status_code, .data data, []⟩ s :=
  ⟨.none, fun code message h => by cases h⟩

theorem calls_await_excused {c : WebCall β} (hI : Undisturbed (service env) I)
    (hraises : Raises Foreign (c.prog env)) :
    Calls (service env) C I t (.await c) w fun r w => ∀ e, r = .error e →
      Excused env request e w.store := by
  refine calls_await hI ?_
  rintro w' i o w'' - ho e rfl
  exact excused_answer hraises ho

theorem calls_context (hI : Undisturbed (service env) I) :
    Calls (service env) C I t (NetProbeSessionApi.currentContext env clock request) w fun r w =>
      (∀ e, r = .error e → Excused env request e w.store) ∧ ∀ context, r = .ok context → ∃ token,
        request.cookie (sessionCookieName env.settings) = some token ∧
          Issued env token context w.store := by
  have hraise : ∀ {e : AuthError}, Excused env request (.raised e) w.store →
      Calls (service env) C I t (.raise (.raised e) : Task β AuthContext) w fun r w =>
        (∀ e, r = .error e → Excused env request e w.store) ∧ ∀ context, r = .ok context → ∃ token,
          request.cookie (sessionCookieName env.settings) = some token ∧
            Issued env token context w.store := by
    intro e he
    refine calls_raise ⟨?_, fun context h => by cases h⟩
    intro e' h
    cases h
    exact he
  rw [NetProbeSessionApi.currentContext]
  split
  next => exact hraise (over_of_ne (by decide))
  next => exact hraise (over_of_ne (by decide))
  next token _ hcookie =>
    refine calls_bind
      (calls_await hI (Q := fun r w => (∀ e, r = .error e → Excused env request e w.store) ∧
      ∀ context, r = .ok (some context) → Issued env token context w.store) ?_) ?_ ?_
    · rintro w' i o w'' - ho
      refine ⟨?_, ?_⟩
      · rintro e rfl
        exact excused_answer (c := WebCall.resolveSession clock token) raises_resolveSession ho
      · rintro context rfl
        exact (issued_of_resolved ho).1
    · intro found w' hfound
      cases found with
      | none =>
          refine calls_raise ⟨?_, fun context h => by cases h⟩
          intro e h
          cases h
          exact over_of_ne (by decide)
      | some context =>
          refine calls_pure ⟨fun e h => (by cases h), ?_⟩
          intro context' h
          cases h
          exact ⟨token, hcookie, hfound.2 context rfl⟩
    · intro e w' he
      refine ⟨?_, fun context h => by cases h⟩
      intro e' h
      cases h
      exact he.1 e rfl

theorem calls_user (hI : Undisturbed (service env) I) :
    Calls (service env) C I t (NetProbeSessionApi.requireCurrentUser env clock request) w fun r w =>
      ∀ e, r = .error e → Excused env request e w.store := by
  rw [NetProbeSessionApi.requireCurrentUser]
  split
  next => exact calls_pure fun e h => by cases h
  next =>
    refine calls_bind (calls_context hI) ?_ ?_
    · exact fun context w' _ => calls_pure fun e h => by cases h
    · intro e w' he e' h
      cases h
      exact he.1 e rfl

/-- **The CSRF check** refuses what the page sends only if the session is over. -/
theorem calls_csrf (hI : Undisturbed (service env) I)
    (hpaired : ∀ token csrf, Sends env request token csrf → Paired env token csrf w.store) :
    Calls (service env) C I t (NetProbeSessionApi.requireCsrf env clock request) w fun r w =>
      ∀ e, r = .error e → Excused env request e w.store := by
  rw [NetProbeSessionApi.requireCsrf]
  split
  next => exact calls_pure fun e h => by cases h
  next =>
    refine calls_bind (calls_context hI).later ?_ ?_
    · rintro context w' ⟨hlater, -, hcontext⟩
      obtain ⟨token, hcookie, hissued⟩ := hcontext context rfl
      -- a request that sends the pair passes the tests on its header and its cookie
      have hrefuse : (∀ csrf, ¬ Sends env request token csrf) →
          Calls (service env) C I t (.raise (.raised csrfValidationFailed) : Task β Unit) w'
            fun r w =>
            ∀ e, r = .error e → Excused env request e w.store := by
        intro hnot
        refine calls_raise ?_
        intro e h
        cases h
        intro _ token' csrf hsends
        have hsame : token = token' := Option.some.inj (hcookie.symm.trans hsends.session)
        exact absurd (hsame ▸ hsends) (hnot csrf)
      split
      next c cs cookie_token hheader hcsrf =>
        split
        next heq =>
          refine calls_bind
            (calls_await hI (Q := fun r w => (∀ e, r = .error e → Excused env request e w.store) ∧
            (r = .ok false → ∀ csrf, Sends env request token csrf → Revoked env token w.store)) ?_)
              ?_ ?_
          · rintro w₁ i o w₂ hlater₁ ho
            refine ⟨?_, ?_⟩
            · rintro e rfl
              exact excused_answer (c := WebCall.csrfMatches context.session_id (c :: cs))
                raises_csrfMatches ho
            · rintro rfl csrf hsends
              obtain rfl : c :: cs = csrf := Option.some.inj (hheader.symm.trans hsends.header)
              exact revoked_of_mismatch (stable_issued.later hlater₁ hissued)
                (stable_paired.later (hlater.trans hlater₁) (hpaired token _ hsends)) ho
          · intro found w₁ hfound
            cases found with
            | true => exact calls_pure fun e h => by cases h
            | false =>
                refine calls_raise ?_
                intro e h
                cases h
                intro _ token' csrf hsends
                obtain rfl : token = token' := Option.some.inj (hcookie.symm.trans hsends.session)
                exact hfound.2 rfl csrf hsends
          · intro e w₁ he e' h
            cases h
            exact he.1 e rfl
        next hne =>
          refine hrefuse fun csrf hsends => hne ?_
          exact Option.some.inj
            (hcsrf.symm.trans (hsends.cookie.trans (hsends.header.symm.trans hheader)))
      next hshape =>
        refine hrefuse fun csrf hsends => ?_
        obtain ⟨c, cs, rfl⟩ := List.exists_cons_of_ne_nil hsends.nonempty
        exact hshape c cs _ hsends.header hsends.cookie
    · rintro e w' ⟨-, he, -⟩ e' h
      cases h
      exact he e rfl

theorem calls_loginRoute {draw : LoginDraw} {scan : Scan Session} {payload : LoginRequest}
    (hI : Undisturbed (service env) I) (hsafe : UrlSafe draw.csrf_token) :
    Calls (service env) C I t (NetProbeSessionApi.login env clock draw scan payload request) w
      (Outcome env request) := by
  rw [NetProbeSessionApi.login]
  split
  next => exact calls_raise (over_of_ne (by decide))
  next =>
    refine calls_bind
      (calls_await hI (Q := fun r w => (∀ e, r = .error e → Excused env request e w.store) ∧
      ∀ result, r = .ok (some result) → Paired env result.token result.csrf_token w.store ∧
        UrlSafe result.csrf_token) ?_) ?_ ?_
    · rintro w' i o w'' - ho
      refine ⟨?_, ?_⟩
      · rintro e rfl
        exact excused_answer
          (c := WebCall.authenticate clock draw scan payload.username payload.password _ _)
          raises_authenticate ho
      · rintro result rfl
        obtain ⟨hpaired, hdraw⟩ := paired_of_login ho
        exact ⟨hpaired, hdraw ▸ hsafe⟩
    · intro found w' hfound
      cases found with
      | none =>
          refine calls_pure ⟨.none, ?_⟩
          intro code message h
          cases h
          exact over_of_ne (by decide)
      | some result =>
          obtain ⟨hpaired, hsafe'⟩ := hfound.2 result rfl
          exact calls_pure ⟨.login result hpaired hsafe', fun code message h => by cases h⟩
    · exact fun e w' he => he.1 e rfl

theorem calls_meRoute (hI : Undisturbed (service env) I) :
    Calls (service env) C I t (NetProbeSessionApi.me env clock request) w
      (Outcome env request) := by
  rw [NetProbeSessionApi.me]
  refine calls_bind (calls_user hI) ?_ fun e w' he => he e rfl
  intro found w' _
  cases found with
  | none => exact calls_pure admits_data
  | some context => exact calls_pure admits_data

theorem calls_logoutRoute (hI : Undisturbed (service env) I)
    (hpaired : ∀ token csrf, Sends env request token csrf → Paired env token csrf w.store) :
    Calls (service env) C I t (NetProbeSessionApi.logout env csrfClock userClock clock request) w
      (Outcome env request) := by
  have hdone : ∀ w', Calls (service env) C I t
      (pure ⟨200, .data .loggedOut,
        [deleteCookie (cookieNames env.settings).1, deleteCookie (cookieNames env.settings).2]⟩ :
          Task β AuthResponse) w' (Outcome env request) :=
    fun w' => calls_pure ⟨.logout, fun code message h => by cases h⟩
  rw [NetProbeSessionApi.logout]
  refine calls_bind (calls_csrf hI hpaired) ?_ fun e w' he => he e rfl
  intro _ w₁ _
  refine calls_bind (calls_user hI) ?_ fun e w' he => he e rfl
  intro found w₂ _
  cases found with
  | none => exact hdone w₂
  | some context =>
      refine calls_bind (calls_await_excused hI raises_revokeSession) ?_ fun e w' he => he e rfl
      exact fun _ w₃ _ => hdone w₃

theorem calls_updatePasswordRoute {scan : Scan PasswordHistory} {salt : Str} {historyId : Nat}
    {payload : ChangePasswordRequest} (hI : Undisturbed (service env) I)
    (hpaired : ∀ token csrf, Sends env request token csrf → Paired env token csrf w.store) :
    Calls (service env) C I t
      (NetProbeSessionApi.updatePassword env csrfClock userClock clock scan salt historyId
        payload request) w
      (Outcome env request) := by
  rw [NetProbeSessionApi.updatePassword]
  refine calls_bind (calls_csrf hI hpaired) ?_ fun e w' he => he e rfl
  intro _ w₁ _
  refine calls_bind (calls_user hI) ?_ fun e w' he => he e rfl
  intro found w₂ _
  cases found with
  | none => exact calls_raise (over_of_ne (by decide))
  | some context =>
      refine calls_bind (Q := fun r w => ∀ e, r = .error e → Excused env request e w.store)
        (calls_tryCatch (Q := fun r w => ∀ e, r = .error e → Excused env request e w.store)
          (calls_await_excused (c := WebCall.changePassword clock scan salt historyId context
            payload.current_password payload.new_password) hI raises_changePassword) ?_ ?_) ?_ ?_
      · intro _ _ _ e h
        cases h
      · intro e w₃ he
        split
        next =>
          refine calls_raise ?_
          intro e' h
          cases h
          exact over_of_ne (by decide)
        next =>
          refine calls_raise ?_
          intro e' h
          cases h
          exact he _ rfl
      · intro changed w₃ _
        split
        next => exact calls_pure admits_data
        next => exact calls_raise (over_of_ne (by decide))
      · exact fun e w' he => he e rfl

theorem calls_route {route : AuthRoute} (hI : Undisturbed (service env) I)
    (hsafe : DrawsUrlSafe route)
    (hpaired : ∀ token csrf, Sends env request token csrf → Paired env token csrf w.store) :
    Calls (service env) C I t (route.handler env request) w (Outcome env request) := by
  cases route with
  | login => exact calls_loginRoute hI hsafe
  | me => exact calls_meRoute hI
  | logout => exact calls_logoutRoute hI hpaired
  | updatePassword => exact calls_updatePasswordRoute hI hpaired

/-- **Every request is answered so**, by its route or by the exception handlers. -/
theorem calls_response {route : AuthRoute} (hI : Undisturbed (service env) I)
    (hsafe : DrawsUrlSafe route)
    (hpaired : ∀ token csrf, Sends env request token csrf → Paired env token csrf w.store) :
    Calls (service env) C I t (answered (route.handler env request)) w
      (Answered (Admits env request)) := by
  rw [answered]
  refine calls_tryCatch (calls_route hI hsafe hpaired) (fun _ _ h => h) ?_
  intro e w' he
  split
  next status_code code message =>
    refine calls_pure ⟨.none, ?_⟩
    intro code' message' h
    cases h
    exact he
  next =>
    refine calls_pure ⟨.none, ?_⟩
    intro code message h
    cases h
    exact over_of_ne (by decide)

end Handlers

-- ── Every interleaving ────────────────────────────────────────────────────────────

/-- The session cookie and the CSRF cookie of a browser are of one login. -/
def Matching (env : Env) {β τ : Type} (jars : β → Jar) (w : World β)
    (_ : τ → List (Event (WebCall β) WebCall.Result WebError)) : Prop :=
  ∀ b token csrf, jars b (sessionCookieName env.settings) = some token →
    jars b env.settings.csrf_cookie_name = some csrf → Paired env token csrf w.store ∧ UrlSafe csrf

/-- The browser takes both cookies of a login or neither. -/
def TakesBoth (settings : Settings) (accepts : SetCookie → Bool) : Prop :=
  ∀ r, ∀ c ∈ loginCookies settings r, ∀ c' ∈ loginCookies settings r, accepts c = accepts c'

/-- A visit for these statements. -/
def Ordinary (env : Env) {β : Type} : Activity β → Prop
  | .visit v => DrawsUrlSafe v.route ∧ TakesBoth env.settings v.accepts
  | .operation _ => True

section Interleaving

variable {β τ : Type} {env : Env} {t : τ} {b : β} {token csrf : Str} {w : World β} {jars : β → Jar}
  {h : τ → List (Event (WebCall β) WebCall.Result WebError)} {v : Visit β} {activity : Activity β}
  {C : (c : WebCall β) → Except WebError c.Result → (β → Jar) → World β → Prop}
  {accepts : SetCookie → Bool} {jar : Jar} {s : Store} {cs : List SetCookie} {name value : Str}

/-- A deletion leaves cookies that were there. -/
theorem receive_deletions (hcs : ∀ c ∈ cs, ¬ 0 < c.max_age)
    (h : receive accepts jar cs name = some value) :
    jar name = some value := by
  rcases receive_some h with hjar | ⟨c, hc, -, hage, -⟩
  · exact hjar
  · exact absurd hage (hcs c hc)

variable (accepts jar) in
/-- Two cookies that are taken together. -/
theorem receive_two {c c' : SetCookie} (hne : c.name ≠ c'.name) (hsame : accepts c = accepts c') :
    receive accepts jar [c, c'] = jar ∨
      receive accepts jar [c, c'] c.name = (if 0 < c.max_age then some c.value else none) ∧
        receive accepts jar [c, c'] c'.name = if 0 < c'.max_age then some c'.value else none := by
  rw [receive, receive, receive, ← hsame]
  cases accepts c with
  | false => exact Or.inl rfl
  | true =>
      right
      rw [if_pos rfl, if_pos rfl]
      constructor
      · rw [Function.update_of_ne hne, Function.update_self]
      · rw [Function.update_self]

/-- **The cookies of a browser match** after a response as before it. -/
theorem matching_receive {response : AuthResponse} {request : Request}
    (hname : env.settings.csrf_cookie_name ≠ sessionCookieName env.settings)
    (hmatch : Matching env jars w h)
    (haccepts : TakesBoth env.settings accepts)
    (hadmits : Admits env request response w.store) [DecidableEq β] :
    Matching env (Function.update jars b (receive accepts (jars b) response.cookies)) w h := by
  intro b' token csrf hsession hcsrf
  rcases eq_or_ne b' b with rfl | hne
  · rw [Function.update_self] at hsession hcsrf
    have hcookies := hadmits.cookies
    generalize response.cookies = cs at hcookies hsession hcsrf
    cases hcookies with
    | none => exact hmatch b' token csrf hsession hcsrf
    | login r hpaired hsafe =>
        rcases receive_two accepts (jars b') hname.symm
          (haccepts r _ List.mem_cons_self _ (List.mem_cons_of_mem _ List.mem_cons_self))
            with hjar | ⟨h₁, h₂⟩
        · have hsame : receive accepts (jars b') (loginCookies env.settings r) = jars b' := hjar
          rw [hsame] at hsession hcsrf
          exact hmatch b' token csrf hsession hcsrf
        · have htoken : receive accepts (jars b') (loginCookies env.settings r)
              (sessionCookieName env.settings) =
                if 0 < cookieMaxAge env.settings r.context then some r.token else none := h₁
          have hcsrf' : receive accepts (jars b') (loginCookies env.settings r)
              env.settings.csrf_cookie_name =
                if 0 < cookieMaxAge env.settings r.context then some r.csrf_token else none := h₂
          rw [htoken] at hsession
          rw [hcsrf'] at hcsrf
          by_cases hage : 0 < cookieMaxAge env.settings r.context
          · rw [if_pos hage] at hsession hcsrf
            cases hsession
            cases hcsrf
            exact ⟨hpaired, hsafe⟩
          · rw [if_neg hage] at hsession
            cases hsession
    | logout =>
        have hage : ∀ c ∈ [deleteCookie (cookieNames env.settings).1,
            deleteCookie (cookieNames env.settings).2],
            ¬ 0 < c.max_age := by
          intro c hc
          rcases List.mem_cons.mp hc with rfl | hc
          · exact Int.lt_irrefl 0
          · obtain rfl := List.mem_singleton.mp hc
            exact Int.lt_irrefl 0
        exact hmatch b' token csrf (receive_deletions hage hsession) (receive_deletions hage hcsrf)
  · rw [Function.update_of_ne hne] at hsession hcsrf
    exact hmatch b' token csrf hsession hcsrf

variable [DecidableEq τ]

theorem undisturbed_matching : @Undisturbed τ _ _ _ _ _ _ _ (service env) (@Matching env β τ) := by
  intro jars w h t c i o w' hmatch ho b token csrf hsession hcsrf
  obtain ⟨hpaired, hsafe⟩ := hmatch b token csrf hsession hcsrf
  exact ⟨stable_paired.answer ho hpaired, hsafe⟩

omit [DecidableEq τ] in
/-- What a browser sends is what it holds. -/
theorem Matching.sends {w' : World β} (hmatch : Matching env jars w h)
    (hlater : Later (service env) w w')
    (hsends : Sends env (v.request jars) token csrf) : Paired env token csrf w'.store :=
  stable_paired.later hlater (hmatch v.browser token csrf hsends.session hsends.cookie).1

variable [DecidableEq β]

/-- **Every activity leaves the cookies of the browsers matching.** -/
theorem keeps_matching (hname : env.settings.csrf_cookie_name ≠ sessionCookieName env.settings)
    (hordinary : Ordinary env activity) (hmatch : Matching env jars w h) :
    Keeps (service env) C (Matching env) t (fun _ jars w h => Matching env jars w h ∧ True)
      (activity.task env) jars w h := by
  cases activity with
  | operation op =>
      refine keeps_bind.mpr ((calls_await (c := WebCall.operation op) undisturbed_matching
        (Q := fun _ _ => True) (fun _ _ _ _ _ _ => trivial) jars h hmatch).mono
          fun r _ _ _ hr => ?_)
      cases r with
      | ok a => exact ⟨hr.1, trivial⟩
      | error e => exact ⟨hr.1, trivial⟩
  | visit v =>
      obtain ⟨hsafe, haccepts⟩ := hordinary
      refine keeps_bind.mpr (keeps_visit undisturbed_matching hmatch (fun _ => stable_admits)
        (fun w' hlater => calls_response undisturbed_matching hsafe fun token csrf hsends =>
          hmatch.sends hlater hsends) ?_ ?_)
      · intro response jars' w' h' hmatch' _ hadmits _
        exact ⟨matching_receive hname hmatch' haccepts hadmits, trivial⟩
      · exact fun e jars' w' h' hmatch' => ⟨hmatch', trivial⟩

/-- A visit that is refused for its CSRF token was sent for a session that is over. -/
theorem keeps_refused (hsafe : DrawsUrlSafe v.route)
    (hpaired : ∀ token csrf, Sends env (v.request jars) token csrf → Paired env token csrf w.store)
    (hsends : Sends env (v.request jars) token csrf) :
    Keeps (service env) C (fun _ _ _ => True) t
      (fun r _ w _ => ∀ response message, r = .ok (some response) →
      response.body = .error (str "CSRF_VALIDATION_FAILED") message → Revoked env token w.store)
      ((Activity.visit v).task env) jars w h := by
  refine keeps_bind.mpr (keeps_visit undisturbed_true trivial (fun _ => stable_admits)
    (fun w' hlater => calls_response undisturbed_true hsafe fun token csrf hsends =>
      stable_paired.later hlater (hpaired token csrf hsends)) ?_ ?_)
  · intro response jars' w' h' _ _ hadmits _ response' message hr hbody
    cases hr
    exact hadmits.refused _ message hbody rfl token csrf hsends
  · intro e jars' w' h' _ response message hr
    cases hr

variable {activities : τ → Activity β}
  {s₀ s₁ : State τ (β → Jar) (WebCall β) WebCall.Result (World β)
  WebError (Option AuthResponse)} {before acts : List (Act τ Bool)} {response : AuthResponse}
  {names : List Str}

/-- In every state the cookies of the browsers match. -/
theorem matching_run (hname : env.settings.csrf_cookie_name ≠ sessionCookieName env.settings)
    (hordinary : ∀ t, Ordinary env (activities t))
    (hjars : ∀ b, jars b (sessionCookieName env.settings) = none)
    (hrun : Run (Step (service env)) (initial (fun t => (activities t).task env) jars w)
      before s₀) :
    Matching env s₀.shared s₀.world s₀.trace := by
  have hkept₀ : Kept (service env) (fun _ _ _ _ => True) (Matching env) (fun _ _ _ _ _ => True)
      (initial (fun t => (activities t).task env) jars w) := by
    refine kept_initial ?_ fun t jars w h hmatch _ => keeps_matching hname (hordinary t) hmatch
    intro b token csrf hsession
    rw [hjars] at hsession
    cases hsession
  exact (kept_run hkept₀ (hrun.restrict_of_all fun _ _ => meets_trivial)).inv

/-- **The page is not refused** by the session API.  A request to one of its routes with the header
    of the page, sent while the browser holds a session cookie and a CSRF cookie, passes the CSRF
    check, if the session is not over by the end, whatever runs before it and beside it: other
    requests of the browser, other logins, a logout under way.  The page knows the CSRF cookie by
    one name. -/
theorem page_not_refused (hcookie : env.settings.csrf_cookie_name = str "netprobe_csrf")
    (hname : env.settings.csrf_cookie_name ≠ sessionCookieName env.settings)
    (hordinary : ∀ t, Ordinary env (activities t))
    (hjars : ∀ b, jars b (sessionCookieName env.settings) = none)
    (hbefore : Run (Step (service env)) (initial (fun t => (activities t).task env) jars w)
      before s₀)
    (hvisit : activities t = .visit v) (hcreated : s₀.phase t = .created ((activities t).task env))
    (hpage : v.headers = pageHeaders names) (hmem : str "netprobe_csrf" ∈ names)
    (hnames : ∀ n ∈ names, CookieName n)
    (hvalues : ∀ n ∈ names, ∀ value, s₀.shared v.browser n = some value → ';' ∉ value)
    (hsession : s₀.shared v.browser (sessionCookieName env.settings) = some token)
    (hcsrf : s₀.shared v.browser (str "netprobe_csrf") = some csrf)
    (hrun : Run (Step (service env)) s₀ (.start t :: acts) s₁)
    (hended : s₁.phase t = .ended (.ok (some response)))
    (hlive : ¬ Revoked env token s₁.world.store)
    (message : Str) : response.body ≠ .error (str "CSRF_VALIDATION_FAILED") message := by
  intro hbody
  have hmatch := matching_run hname hordinary hjars hbefore
  have hsafe := (hmatch v.browser token csrf hsession (hcookie ▸ hcsrf)).2
  have hsends : Sends env (v.request s₀.shared) token csrf := by
    refine ⟨hsession, ?_, hcookie ▸ hcsrf, hsafe.1⟩
    show v.headers (s₀.shared v.browser) (str "x-csrf-token") = some csrf
    rw [hpage]
    exact pageHeaders_csrf hmem hnames hvalues hcsrf hsafe
  have hdraws : DrawsUrlSafe v.route := by
    have hordinary' := hordinary t
    rw [hvisit] at hordinary'
    exact hordinary'.1
  rw [hvisit] at hcreated
  obtain ⟨w', hrefused, hafter⟩ := ended_of_start (P := fun r w => ∀ response message,
    r = .ok (some response) → response.body = .error (str "CSRF_VALIDATION_FAILED") message →
      Revoked env token w.store) hcreated (fun r hr => by cases hr)
    (keeps_refused hdraws (fun token csrf hsends => hmatch.sends .refl hsends) hsends) hrun hended
  exact hlive (stable_revoked.later hafter (hrefused response message rfl hbody))

end Interleaving

-- ── A page ────────────────────────────────────────────────────────────────────────

/-- A page that changes the password. -/
def samplePageVisit : Visit Bool where
  browser := true
  route := .updatePassword ⟨2, 2, 2⟩ ⟨2, 2, 2⟩ ⟨2, 2, 2⟩ .asInserted [] 1
    ⟨str "correct horse battery", str "another long secret"⟩
  path := str "/api/v1/auth/change-password"
  client_host := none
  headers := pageHeaders [str "netprobe_csrf"]
  accepts := fun _ => true

/-- The login of the page's browser, the page's request, and a request beside it. -/
def samplePage (t : Fin 3) : Activity Bool :=
  if t.val = 0 then
    .visit (sampleVisit true (.login ⟨1, 1, 1⟩ ⟨str "token", str "csrf", 7, []⟩ .asInserted
      ⟨str "root", str "correct horse battery"⟩))
  else if t.val = 1 then .visit samplePageVisit
  else .visit (sampleVisit true (.me ⟨2, 2, 2⟩))

theorem urlSafe_csrf : UrlSafe (str "csrf") := by
  refine ⟨by decide, ?_⟩
  intro c hc
  have hall : ∀ c ∈ str "csrf", c.isAlphanum = true := List.all_eq_true.mp rfl
  exact Or.inl (hall c hc)

theorem samplePage_ordinary : ∀ t, Ordinary .sample (samplePage t) := by
  intro t
  match t with
  | 0 => exact ⟨urlSafe_csrf, fun _ _ _ _ _ => rfl⟩
  | 1 => exact ⟨trivial, fun _ _ _ _ _ => rfl⟩
  | 2 => exact ⟨trivial, fun _ _ _ _ _ => rfl⟩

abbrev pageStart : State (Fin 3) (Bool → Jar) (WebCall Bool) WebCall.Result (World Bool) WebError
    (Option AuthResponse) :=
  initial (fun t => (samplePage t).task .sample) (fun _ _ => none)
    ⟨performAll .sample (sampleStart.take 1) .empty, []⟩

def pageLoginActs : List (Act (Fin 3) Bool) :=
  [.start 0, .resume 0 true, .resume 0 true, .resume 0 true]

def pageActs : List (Act (Fin 3) Bool) :=
  [.start 2, .resume 1 true, .resume 2 true, .resume 1 true, .resume 1 true,
    .resume 2 true, .resume 1 true, .resume 1 true, .resume 1 true]

def sampleChanged : AuthResponse := ⟨200, .data .passwordChanged, []⟩

/-- The general result on a password that is changed. -/
theorem sample_page_not_refused : ∃ s₀ s₁, Run (Step (service .sample)) pageStart pageLoginActs s₀ ∧
    Run (Step (service .sample)) s₀ (.start 1 :: pageActs) s₁ ∧
    s₁.phase 1 = .ended (.ok (some sampleChanged)) ∧
    ∀ message, sampleChanged.body ≠ .error (str "CSRF_VALIDATION_FAILED") message := by
  have hexec : (exec (next (service .sample)) pageStart pageLoginActs).any (fun s₀ =>
      decide (s₀.shared true (sessionCookieName Env.sample.settings) = some (str "token")) &&
        decide (s₀.shared true (str "netprobe_csrf") = some (str "csrf")) &&
        (exec (next (service .sample)) s₀ (.start 1 :: pageActs)).any fun s₁ =>
          decide ((s₁.phase 1).outcome = some (.ok (some sampleChanged))) &&
            s₁.world.store.sessions.rows.all fun x => x.revoked_at.isNone) = true := by
    decide +kernel
  obtain ⟨s₀, hs₀, h⟩ := (Option.any_eq_true _ _).mp hexec
  obtain ⟨hcookies, h⟩ := Bool.and_eq_true_iff.mp h
  obtain ⟨hsession, hcsrf⟩ := Bool.and_eq_true_iff.mp hcookies
  obtain ⟨s₁, hs₁, h⟩ := (Option.any_eq_true _ _).mp h
  obtain ⟨hended, hlive⟩ := Bool.and_eq_true_iff.mp h
  have hcsrf' := of_decide_eq_true hcsrf
  have hbefore : Run (Step (service .sample)) pageStart pageLoginActs s₀ := run_of_exec hs₀
  have hcreated := created_of_run (t := 1) hbefore rfl (by simp [pageLoginActs])
  have hended' := ended_of_outcome (of_decide_eq_true hended)
  have hvalues : ∀ n ∈ [str "netprobe_csrf"], ∀ value, s₀.shared true n = some value →
      ';' ∉ value := by
    intro n hn value hvalue
    rw [List.mem_singleton.mp hn, hcsrf'] at hvalue
    cases hvalue
    decide
  have hnames : ∀ n ∈ [str "netprobe_csrf"], CookieName n := by
    intro n hn
    rw [List.mem_singleton.mp hn]
    exact ⟨by decide, by decide⟩
  have hlive' : ¬ Revoked .sample (str "token") s₁.world.store := by
    rintro ⟨x, hx, -, hrevoked⟩
    have hnone := List.all_eq_true.mp hlive x hx
    rw [Option.isNone_iff_eq_none.mp hnone] at hrevoked
    cases hrevoked
  exact ⟨s₀, s₁, hbefore, run_of_exec hs₁, hended',
    page_not_refused rfl (by decide) samplePage_ordinary (fun _ => rfl) hbefore rfl hcreated rfl
      List.mem_cons_self hnames hvalues (of_decide_eq_true hsession) hcsrf'
        (run_of_exec hs₁) hended' hlive'⟩

end NetProbePageCookies
