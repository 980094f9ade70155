import NetProbe.ConfigProofs

/-!
# Passwords, tokens and client keys

`app/core/auth.py`.  The primitives (SHA-256, HMAC, argon2id) are the structure `Crypto`; a
result that needs a law of one of them names it as a hypothesis.  argon2 answers a
verification in one of four ways, three of them by exception, two of which the program maps
to "wrong password".
-/

namespace NetProbeCoreAuth

open NetProbePyText NetProbeConfig

/-- `uuid.UUID` -/
abbrev Uuid := Nat

/-- What `PasswordHasher.verify` does: return, `VerifyMismatchError`, `InvalidHashError`, or
    another `VerificationError`. -/
inductive VerifyAnswer where
  | verified
  | mismatch
  | invalidHash
  | failed
  deriving DecidableEq, Repr

/-- The primitives. -/
structure Crypto where
  /-- `hashlib.sha256(text.encode()).hexdigest()` -/
  sha256 : Str → Str
  /-- `hmac.new(secret, text, sha256).hexdigest()` -/
  hmacSha256 : Str → Str → Str
  /-- `PasswordHasher.hash(password)`, with the salt it draws -/
  argon2Hash : Str → Str → Str
  /-- `PasswordHasher.verify(hash, password)` -/
  argon2Verify : Str → Str → VerifyAnswer
  /-- `PasswordHasher.check_needs_rehash(hash)`; `none` is `InvalidHashError` -/
  argon2NeedsRehash : Str → Option Bool

/-- `AuthContext` -/
structure AuthContext where
  user_id : Uuid
  session_id : Uuid
  username : Str
  display_name : Str
  role : Role
  must_change_password : Bool
  deriving DecidableEq, Repr

-- ── Names and passwords ───────────────────────────────────────────────────────────

def isUsernameEdge (c : Char) : Bool := ('a' ≤ c && c ≤ 'z') || isAsciiDigit c

/-- `USERNAME_RE.fullmatch(username)` -/
def usernameMatches (username : Str) : Bool :=
  3 ≤ username.length && username.length ≤ 50 && username.head?.any isUsernameEdge &&
    username.getLast?.any isUsernameEdge &&
      username.all fun c => isUsernameEdge c || c = '.' || c = '_' || c = '-'

/-- `normalize_username(value)`; the error is the text of its `ValueError`. -/
def normalizeUsername (py : Python) (value : Str) : Except Str Str :=
  let username := py.lower (strip py value)
  if usernameMatches username then .ok username
  else .error (str "아이디는 영문 소문자, 숫자, '.', '_', '-'를 사용한 3~50자여야 합니다.")

/-- `PASSWORD_MIN_LENGTH` -/
def passwordMinLength : Nat := 12

/-- `PASSWORD_MAX_LENGTH` -/
def passwordMaxLength : Nat := 128

/-- `validate_password(password, username)`; the error is the text of its `ValueError`. -/
def validatePassword (py : Python) (password username : Str) : Except Str Unit :=
  if ¬ (passwordMinLength ≤ password.length ∧ password.length ≤ passwordMaxLength) then
    .error (str "비밀번호는 12~128자여야 합니다.")
  else if username ≠ [] ∧ contains (py.lower username) (py.lower password) then
    .error (str "비밀번호에 아이디를 포함할 수 없습니다.")
  else .ok ()

-- ── Hashes ────────────────────────────────────────────────────────────────────────

section Hashes

variable (crypto : Crypto) (settings : Settings)

/-- `_peppered(password)` -/
def peppered (password : Str) : Str := password ++ settings.password_pepper

/-- `hash_password(password)`, with the salt it draws -/
def hashPassword (salt password : Str) : Str := crypto.argon2Hash salt (peppered settings password)

/-- `verify_password(password, encoded_hash)`; `none` is a `VerificationError` that is not a
    mismatch, which leaves the function. -/
def verifyPassword (password encoded_hash : Str) : Option Bool :=
  match crypto.argon2Verify encoded_hash (peppered settings password) with
  | .verified => some true
  | .mismatch => some false
  | .invalidHash => some false
  | .failed => none

/-- `password_needs_rehash(encoded_hash)` -/
def passwordNeedsRehash (encoded_hash : Str) : Bool :=
  match crypto.argon2NeedsRehash encoded_hash with
  | some needs => needs
  | none => true

/-- `hash_token(token)` -/
def hashToken (token : Str) : Str := crypto.sha256 (token ++ settings.session_token_pepper)

/-- `hash_client_ip(ip)` -/
def hashClientIp (ip : Str) : Option Str :=
  if settings.client_hash_secret = [] ∨ ip = [] ∨ ip = str "unknown" then none
  else some (crypto.hmacSha256 settings.client_hash_secret ip)

/-- argon2 verifies exactly the password that was hashed, whatever the salt. -/
def ExactVerify : Prop :=
  ∀ salt p q, verifyPassword crypto settings p (hashPassword crypto settings salt q) =
    some (decide (p = q))

end Hashes

/-- The words of a text, as `value.split()` separates them. -/
def words (py : Python) (value : Str) : List Str :=
  (value.splitOnP py.isSpace).filter (· ≠ [])

/-- `summarize_user_agent(value)` -/
def summarizeUserAgent (py : Python) (value : Option Str) : Option Str :=
  match value with
  | none => none
  | some [] => none
  | some text =>
      let plain := text.map fun c => if c = '\r' || c = '\n' then ' ' else c
      some (([' '].intercalate (words py plain)).take 255)

/-- An argon2 for testing: the hash is the text itself, behind its salt. -/
def Crypto.plain : Crypto where
  sha256 := fun text => text
  hmacSha256 := fun secret text => secret ++ text
  argon2Hash := fun _ password => '$' :: password
  argon2Verify := fun hash password => if hash = '$' :: password then .verified else .mismatch
  argon2NeedsRehash := fun _ => some false

theorem plain_exactVerify (settings : Settings) : ExactVerify Crypto.plain settings := by
  intro salt p q
  unfold verifyPassword hashPassword Crypto.plain peppered
  by_cases h : p = q
  · subst h
    simp
  · have : ¬ q = p := fun h' => h h'.symm
    simp [h, this]

end NetProbeCoreAuth
