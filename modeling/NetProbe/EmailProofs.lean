import NetProbe.AuditTrailProofs

/-!
# E-mail addresses

`user_accounts.email` is unique as a text, so it is unique up to case and blanks only if every
writer stores the same form.  `create_user` stores `lower().strip()` and `update_user`
`strip().lower()`, which is the same form (`normal_newEmail`, `normal_createdAccount`), given
what Unicode says of lower case and white space (`CaseLaws`).  `create_admin` stores the
address as it is typed.

`normal_kept_iff` says which runs keep the addresses normal: those in which no row that
`create_admin` can insert has an address in another form.
-/

namespace NetProbeEmail

open NetProbePyText NetProbeConfig NetProbeCoreAuth NetProbeAccountStore NetProbeAuthService
open NetProbeAdminUsers NetProbeAccountRuns NetProbeAuditTrail UniqueTable
  Transaction Transaction.Txn
open LabelledRun

-- ── The normal form ───────────────────────────────────────────────────────────────

/-- What Unicode says of lower case and white space: lower case is its own lower case, and
    blanks at the ends have none and do not change that of the rest. -/
structure CaseLaws (py : Python) : Prop where
  lower_lower : ∀ text, py.lower (py.lower text) = py.lower text
  lower_strip : ∀ text, py.lower (strip py text) = strip py (py.lower text)

/-- `email.strip().lower()` -/
def normalForm (py : Python) (email : Str) : Str := py.lower (strip py email)

/-- Every stored address is in its normal form. -/
def NormalEmails (py : Python) (s : Store) : Prop :=
  ∀ a ∈ s.accounts.rows, ∀ email ∈ a.email, normalForm py email = email

/-- No two accounts have addresses with one normal form. -/
def DistinctEmails (py : Python) (s : Store) : Prop :=
  ∀ a ∈ s.accounts.rows, ∀ b ∈ s.accounts.rows, ∀ email ∈ a.email, ∀ email' ∈ b.email,
    normalForm py email = normalForm py email' → a = b

section NormalForm

variable {py : Python} {s : Store} {clock : Clock}

theorem normalForm_normalForm (h : CaseLaws py) (email : Str) :
    normalForm py (normalForm py email) = normalForm py email := by
  unfold normalForm
  rw [h.lower_strip, h.lower_lower, ← h.lower_strip, strip_strip]

/-- The two orders of the two steps. -/
theorem strip_lower (h : CaseLaws py) (email : Str) :
    strip py (py.lower email) = normalForm py email := (h.lower_strip email).symm

/-- Normal addresses are distinct, since the column is unique. -/
theorem NormalEmails.distinct (h : NormalEmails py s) : DistinctEmails py s := by
  intro a ha b hb email hemail email' hemail' hsame
  rw [h a ha email hemail, h b hb email' hemail'] at hsame
  refine eq_of_clash accountClash_symm ha hb ?_
  have ha' : a.email = some email := hemail
  have hb' : b.email = some email' := hemail'
  simp [accountClash, ha', hb', hsame]

theorem normal_newEmail (h : CaseLaws py) (payload : UserUpdateRequest) :
    ∀ email ∈ newEmail py payload, normalForm py email = email := by
  intro email hemail
  rw [newEmail] at hemail
  split at hemail
  · cases hemail
  · cases hemail
  · obtain rfl := Option.some.inj hemail
    exact normalForm_normalForm h _

theorem normal_patched (h : CaseLaws py) {payload : UserUpdateRequest} {a : Account}
    (ha : ∀ email ∈ a.email, normalForm py email = email) :
    ∀ email ∈ (patched py clock payload a).email, normalForm py email = email := by
  intro email hemail
  have hor : (newEmail py payload).or a.email = some email := hemail
  rcases Option.or_eq_some_iff.mp hor with hnew | ⟨-, hold⟩
  · exact normal_newEmail h payload email hnew
  · exact ha email hold

theorem normal_createdAccount {env : Env} (h : CaseLaws env.py) (actor user_id : Uuid) (salt : Str)
    (payload : UserCreateRequest) :
    ∀ email ∈ (createdAccount env.py env.settings env.crypto clock actor user_id
      salt payload).email,
      normalForm env.py email = email := by
  intro email hemail
  rw [createdAccount, newAccount] at hemail
  dsimp only at hemail
  split at hemail
  · cases hemail
  · cases hemail
  · obtain rfl := Option.some.inj hemail
    rw [strip_lower h]
    exact normalForm_normalForm h _

end NormalForm

-- ── What the operations store ─────────────────────────────────────────────────────

/-- Where `create_admin` inserts an account, its address was typed in the normal form, as far as the
    column keeps it. -/
def AdminNormal (env : Env) (s : Store) : Op → Prop
  | .createAdmin clock user_id salt username display_name email password confirm =>
      env.settings.database_enabled = true →
        ∀ row, adminRow env clock user_id salt username display_name email password
          confirm = some row →
          s.accounts.Accepts (· ++ [row]) → ∀ address ∈ keptEmail email,
            normalForm env.py address = address
  | _ => True

section Steps

variable {env : Env} {s s' : Store} {op : Op} {row : Account} {call : Call}

/-- The address of a row whose other columns change. -/
theorem RowChange.email {id : Uuid} {f : Account → Account} (h : RowChange env op id f)
    (hlaws : CaseLaws env.py) {a : Account}
    (ha : ∀ email ∈ a.email, normalForm env.py email = email) :
    ∀ email ∈ (f a).email, normalForm env.py email = email := by
  cases h with
  | expireLock | failure | login | change | unlock | reset => exact ha
  | patch => exact normal_patched hlaws ha

/-- A table with one more row. -/
theorem normal_insert (hnormal : NormalEmails env.py s)
    (hrow : ∀ email ∈ row.email, normalForm env.py email = email) :
    NormalEmails env.py (s.alterAccounts (· ++ [row])) := by
  intro b hb email hemail
  rw [Store.alterAccounts_accounts] at hb
  rcases alter_rows_cases s.accounts (· ++ [row]) with hrows | hrows
  · rw [hrows] at hb
    rcases List.mem_append.mp hb with hold | hnew
    · exact hnormal b hold email hemail
    · rw [List.mem_singleton.mp hnew] at hemail
      exact hrow email hemail
  · rw [hrows] at hb
    exact hnormal b hb email hemail

/-- A change of any operation but `create_admin` keeps the addresses normal. -/
theorem Change.normal {g : Store → Store} (h : Change env op g) (hlaws : CaseLaws env.py)
    (hop : ∀ row, NewRow env op row → ∀ email ∈ row.email, normalForm env.py email = email)
    (s : Store) (hs : NormalEmails env.py s) : NormalEmails env.py (g s) := by
  cases h with
  | same | audit | history | revoke | touch | session => exact hs
  | account hrow ks =>
      intro b hb
      obtain ⟨a, ha, rfl | rfl⟩ := mem_alterAccounts hb
      · exact hs b ha
      · exact RowChange.email hrow hlaws (hs a ha)
  | insert hnew => exact normal_insert hs (hop _ hnew)

theorem normal_step (h : callStep env s call s') (hlaws : CaseLaws env.py)
    (hop : ∀ row, NewRow env call.op row → ∀ email ∈ row.email, normalForm env.py email = email)
    (hs : NormalEmails env.py s) : NormalEmails env.py s' :=
  callStep_related (G := fun s s' => NormalEmails env.py s → NormalEmails env.py s') h
    (fun _ hs => hs) (fun _ _ _ h h' hs => h' (h hs))
    (fun _ hg s hs => Change.normal hg hlaws hop s hs) hs

/-- `create_admin` stores the address as it is typed, as far as the column keeps it. -/
theorem adminRow_email {clock : Clock} {user_id : Uuid} {salt username display_name : Str}
    {email : Option Str} {password confirm : Str}
    (h : adminRow env clock user_id salt username display_name email password confirm = some row) :
    row.email = keptEmail email := by
  rw [adminRow] at h
  split at h
  · cases h
  · split at h
    · cases h
    · split at h
      · cases h
      · split at h
        · obtain rfl := Option.some.inj h
          rfl
        · cases h

theorem admin_step_iff {clock : Clock} {user_id : Uuid} {salt username display_name : Str}
    {email : Option Str} {password confirm : Str} {answer : Except AuthError Answer}
    (h : callStep env s
      ⟨.createAdmin clock user_id salt username display_name email password confirm,
      answer⟩ s') (hs : NormalEmails env.py s) :
    NormalEmails env.py s' ↔ AdminNormal env s
      (.createAdmin clock user_id salt username display_name email password confirm) := by
  by_cases hinserts : env.settings.database_enabled = true ∧ ∃ row,
      adminRow env clock user_id salt username display_name email password confirm = some row
  · obtain ⟨hdb, row, hrow⟩ := hinserts
    have heval := eval_createAdmin (s := s) hdb hrow
    by_cases hacc : s.accounts.Accepts (· ++ [row])
    · rw [if_pos hacc] at heval
      obtain ⟨-, rfl⟩ := callStep_ok h (eval_answering_ok heval)
      constructor
      · intro hnormal _ row' hrow' _
        rw [hrow] at hrow'
        obtain rfl := Option.some.inj hrow'
        rw [← adminRow_email hrow]
        refine hnormal row ?_
        rw [Store.alterAccounts_accounts, alter_rows hacc]
        exact List.mem_append_right _ (List.mem_singleton_self _)
      · intro hadmin
        refine normal_insert hs ?_
        rw [adminRow_email hrow]
        exact hadmin hdb row hrow hacc
    · rw [if_neg hacc] at heval
      obtain ⟨-, rfl⟩ := callStep_error h (eval_answering_error heval)
      refine iff_of_true hs fun _ row' hrow' hacc' => ?_
      rw [hrow] at hrow'
      obtain rfl := Option.some.inj hrow'
      exact absurd hacc' hacc
  · have hnone : env.settings.database_enabled = true →
        adminRow env clock user_id salt username display_name email password confirm = none := by
      intro hdb
      by_contra hsome
      exact hinserts ⟨hdb, Option.ne_none_iff_exists'.mp hsome⟩
    obtain ⟨e, he⟩ := createAdmin_refuses (s := s) hnone
    obtain ⟨-, rfl⟩ := callStep_error h (eval_answering_error he)
    exact iff_of_true hs fun hdb row hrow _ => absurd ⟨hdb, row, hrow⟩ hinserts

/-- The step lemma: which calls keep the addresses normal. -/
theorem normal_step_iff (h : callStep env s call s') (hlaws : CaseLaws env.py)
    (hs : NormalEmails env.py s) : NormalEmails env.py s' ↔ AdminNormal env s call.op := by
  obtain ⟨op, answer⟩ := call
  cases op with
  | createAdmin clock user_id salt username display_name email password confirm =>
      exact admin_step_iff h hs
  | createUser clock actor user_id salt payload =>
      refine iff_of_true (normal_step h hlaws (fun row hrow => ?_) hs) trivial
      cases hrow
      exact normal_createdAccount hlaws actor user_id salt payload
  | authenticate | resolveSession | revokeSession | changePassword | updateUser | unlockUser
  | resetPassword | revokeUserSessions =>
      exact iff_of_true (normal_step h hlaws (fun row hrow => nomatch hrow) hs) trivial

end Steps

/-- The addresses after a call are in their normal forms, and distinct in them. -/
def EmailsKept (env : Env) : Store → Call → Store → Prop :=
  fun _ _ s' => NormalEmails env.py s' ∧ DistinctEmails env.py s'

/-- **E-mail addresses are unique up to case and blanks** in exactly the runs whose `create_admin`
    inserts only normal ones. -/
theorem normal_kept_iff {env : Env} (hlaws : CaseLaws env.py) (calls : List Call) :
    Throughout (callStep env) (EmailsKept env) .empty calls ↔
      Throughout (callStep env) (fun s call _ => AdminNormal env s call.op) .empty calls := by
  refine throughout_iff (I := NormalEmails env.py) (fun s call s' _ hs hstep => ?_)
    fun a ha => nomatch ha
  have hiff := normal_step_iff hstep hlaws hs
  exact
    ⟨⟨fun hkept => hiff.mp hkept.1, fun hadmin => ⟨hiff.mpr hadmin, (hiff.mpr hadmin).distinct⟩⟩,
    fun hkept => hkept.1⟩

-- ── A deployment ──────────────────────────────────────────────────────────────────

/-- The laws hold of ASCII. -/
theorem asciiOnly_caseLaws : CaseLaws .asciiOnly := by
  have hspace : isAsciiSpace ∘ Char.toLower = isAsciiSpace := by
    funext c
    show isAsciiSpace c.toLower = isAsciiSpace c
    by_cases hc : isAscii c = true
    · exact ascii_cases (P := fun c => isAsciiSpace c.toLower = isAsciiSpace c)
        (by decide +kernel) hc
    · rw [toLower_of_not_ascii hc]
  refine ⟨fun text => ?_, fun text => ?_⟩
  · show (text.map Char.toLower).map Char.toLower = text.map Char.toLower
    rw [List.map_map]
    exact List.map_congr_left fun c _ => toLower_toLower c
  · show (strip .asciiOnly text).map Char.toLower = strip .asciiOnly (text.map Char.toLower)
    show (((text.dropWhile isAsciiSpace).reverse.dropWhile isAsciiSpace).reverse).map Char.toLower =
      (((text.map Char.toLower).dropWhile isAsciiSpace).reverse.dropWhile isAsciiSpace).reverse
    rw [List.dropWhile_map, hspace, ← List.map_reverse, List.dropWhile_map,
      hspace, List.map_reverse]

/-- The first administrator, and an operator that the administrator creates. -/
def adminAndOperator (address address' : Str) (h : address'.length ≤ 320) : List Op :=
  [.createAdmin ⟨0, 0, 0⟩ 1 [] (str "root") (str "root") (some address)
    (str "correct horse battery")
      (str "correct horse battery"),
    .createUser ⟨1, 1, 1⟩ 1 2 [] { UserCreateRequest.sample with
      email := some address'
      email_length := fun _ ht => Option.some.inj ht ▸ h }]

/-- The general result on an administrator with a normal address. -/
theorem normal_admin_kept :
    Throughout (callStep .sample) (EmailsKept .sample) .empty
      (callsOf .sample (adminAndOperator (str "admin@example.com") (str " Operator@Example.com ")
        (by decide)) .empty) := by
  refine (normal_kept_iff asciiOnly_caseLaws _).mpr (throughout_cons.mpr fun s _ => ⟨?_,
    throughout_cons.mpr fun s' _ => ⟨trivial, throughout_nil⟩⟩)
  intro _ row _ _ address haddress
  obtain rfl := Option.some.inj haddress
  decide

/-- **An address in two spellings.** `create-admin` stores `Admin@Example.com`, and `create_user`
    accepts the same address for another account. -/
theorem address_stored_twice :
    ¬ ∀ (env : Env) (calls : List Call) (s : Store), CaseLaws env.py →
      Run (callStep env) .empty calls s →
      NormalEmails env.py s ∧ DistinctEmails env.py s := by
  intro h
  have hkept := h .sample (callsOf .sample (adminAndOperator (str "Admin@Example.com")
    (str "admin@example.com") (by decide)) .empty) _ asciiOnly_caseLaws (run_callsOf _ _ _)
  have hpair : ∃ a ∈ (performAll .sample (adminAndOperator (str "Admin@Example.com")
      (str "admin@example.com") (by decide)) .empty).accounts.rows,
      ∃ b ∈ (performAll .sample (adminAndOperator (str "Admin@Example.com")
        (str "admin@example.com") (by decide)) .empty).accounts.rows,
      a.email = some (str "Admin@Example.com") ∧
        b.email = some (str "admin@example.com") ∧ a.id ≠ b.id := by
    decide +kernel
  obtain ⟨a, ha, b, hb, hemail, hemail', hne⟩ := hpair
  refine hne (congrArg Account.id (hkept.2 a ha b hb _ hemail _ hemail' ?_))
  decide

end NetProbeEmail
