import NetProbe.AuthDepsProofs
import NetProbe.AccountWritesProofs
import NetProbe.CredentialProofs
import NetProbe.RelyGuaranteeProofs

/-!
# Who chose the password

`must_change_password` is the trace of the password history of an account: whoever creates the
account or resets its password issues one that must be changed, and only the owner's own
change takes the obligation away.  Any number of operations of every kind run interleaved.

They do not share a lock, so they are not serial; but the four that concern the flag hold the
lock on the id of the account when they commit (`FlagCommit`), and accounts are never deleted.
This is what each may rely on and what each guarantees (`idRely`): an account that was found
is still there when it is written, and an id that was free is still free when the row is
inserted.  `password_history` follows by induction on the run.
-/

namespace NetProbeAccountRuns

open NetProbePyText NetProbeConfig NetProbeCoreAuth NetProbeAccountStore NetProbeAuthService
open NetProbeAdminUsers NetProbeDeps NetProbeAuthDeps UniqueTable Transaction Transaction.Txn
open LabelledRun ReadCommitted

-- ── The password history of an account ────────────────────────────────────────────

/-- How the password of an account was set. -/
inductive Credential where
  | issued
  | changed
  deriving DecidableEq, Repr

/-- The flag that goes with it. -/
def Credential.mustChange : Credential → Bool
  | .issued => true
  | .changed => false

/-- One account gets a credential, the others none. -/
def givenTo (user_id : Uuid) (c : Credential) (u : Uuid) : Option Credential :=
  if user_id = u then some c else none

/-- The credential that an operation gives to an account when it commits with an answer. -/
def Op.credential : Op → Answer → Uuid → Option Credential
  | .createUser _ _ user_id _ _, _ => givenTo user_id .issued
  | .createAdmin _ user_id _ _ _ _ _ _, _ => givenTo user_id .issued
  | .resetPassword _ _ user_id _ _ _, _ => givenTo user_id .issued
  | .changePassword _ _ _ _ context _ _, .changed true => givenTo context.user_id .changed
  | _, _ => fun _ => none

section History

variable {τ : Type}

/-- The credentials that an account was given by the commits of a schedule, in their order. -/
def credentials (ops : τ → Op) (acts : List (Act τ)) (db : OpDb τ) (user_id : Uuid) :
    List Credential :=
  (commits acts db).filterMap fun c => (ops c.1).credential c.2 user_id

/-- The credential the account was given last. -/
def latestCredential (ops : τ → Op) (acts : List (Act τ)) (db : OpDb τ) (user_id : Uuid) :
    Option Credential := (credentials ops acts db user_id).getLast?

variable [DecidableEq τ] {ops : τ → Op} {start db db' : OpDb τ} {acts : List (Act τ)} {act : Act τ}
  {u : Uuid}

theorem credentials_step (h : Run Step start acts db) (hs : Step db act db') :
    credentials ops (acts ++ [act]) db' u =
      credentials ops acts db u ++
        (commits [act] db').filterMap fun c => (ops c.1).credential c.2 u := by
  unfold credentials
  rw [commits_step h hs, List.filterMap_append]

/-- A step that gives the account nothing leaves its latest credential. -/
theorem latestCredential_none (h : Run Step start acts db) (hs : Step db act db')
    (hnone : ∀ c ∈ commits [act] db', (ops c.1).credential c.2 u = none) :
    latestCredential ops (acts ++ [act]) db' u = latestCredential ops acts db u := by
  unfold latestCredential
  rw [credentials_step h hs, List.filterMap_eq_nil_iff.mpr hnone, List.append_nil]

theorem latestCredential_some {t : τ} {ans : Answer} {c : Credential} (h : Run Step start acts db)
    (hs : Step db (.commit t) db') (hphase : db'.phase t = .committed ans)
    (hc : (ops t).credential ans u = some c) :
    latestCredential ops (acts ++ [.commit t]) db' u = some c := by
  rw [latestCredential]
  rw [credentials_step h hs, commits_commit hphase, List.filterMap_cons_some (by exact hc)]
  exact List.getLast?_concat

end History

-- ── What a change does to the flags ───────────────────────────────────────────────

/-- The accounts and their flags before and after a change that gives the credentials `c`. -/
structure Flags (c : Uuid → Option Credential) (s s' : Store) : Prop where
  kept : ∀ u, s.hasAccount u = true → s'.hasAccount u = true
  new : ∀ u, s'.hasAccount u = true → s.hasAccount u = true ∨ (c u).isSome = true
  given : ∀ b ∈ s'.accounts.rows, ∀ cred ∈ c b.id, b.must_change_password = cred.mustChange
  flag : ∀ b ∈ s'.accounts.rows, c b.id = none →
    ∃ a ∈ s.accounts.rows, a.id = b.id ∧ a.must_change_password = b.must_change_password

/-- A change that leaves accounts and flags as they are. -/
abbrev SameFlags : Store → Store → Prop := Flags fun _ => none

section Flags

variable {env : Env} {c : Uuid → Option Credential} {s s' s'' : Store} {u : Uuid} {op : Op}

/-- A change that leaves the accounts alone. -/
theorem SameFlags.of_accounts (h : s'.accounts = s.accounts) : SameFlags s s' where
  kept := fun u hu => by
    rw [Store.hasAccount] at hu ⊢
    rw [h]
    exact hu
  new := fun u hu => Or.inl (by
    rw [Store.hasAccount] at hu ⊢
    rw [← h]
    exact hu)
  given := fun _ _ _ hcred => nomatch hcred
  flag := fun b hb _ => ⟨b, h ▸ hb, rfl, rfl⟩

/-- Nothing new, and then the credentials. -/
theorem SameFlags.trans (h : SameFlags s s') (h' : Flags c s' s'') : Flags c s s'' where
  kept := fun u hu => h'.kept u (h.kept u hu)
  new := by
    intro u hu
    rcases h'.new u hu with hs' | hc
    · rcases h.new u hs' with hs | hnone
      · exact Or.inl hs
      · cases hnone
    · exact Or.inr hc
  given := h'.given
  flag := by
    intro b hb hnone
    obtain ⟨a', ha', hid', hflag'⟩ := h'.flag b hb hnone
    obtain ⟨a, ha, hid, hflag⟩ := h.flag a' ha' rfl
    exact ⟨a, ha, hid.trans hid', hflag.trans hflag'⟩

/-- The credentials, and then nothing new. -/
theorem Flags.trans_same (h : Flags c s s') (h' : SameFlags s' s'') : Flags c s s'' where
  kept := fun u hu => h'.kept u (h.kept u hu)
  new := by
    intro u hu
    rcases h'.new u hu with hs' | hnone
    · exact h.new u hs'
    · cases hnone
  given := by
    intro b hb cred hcred
    obtain ⟨a', ha', hid', hflag'⟩ := h'.flag b hb rfl
    rw [← hflag']
    exact h.given a' ha' cred (hid'.symm ▸ hcred)
  flag := by
    intro b hb hnone
    obtain ⟨a', ha', hid', hflag'⟩ := h'.flag b hb rfl
    obtain ⟨a, ha, hid, hflag⟩ := h.flag a' ha' (hid'.symm ▸ hnone)
    exact ⟨a, ha, hid.trans hid', hflag.trans hflag'⟩

theorem sameFlags_update {q : Account → Bool} {f : Account → Account} (hid : ∀ a, (f a).id = a.id)
    (hflag : ∀ a, (f a).must_change_password = a.must_change_password) :
    SameFlags s (s.alterAccounts (updateWhere q f)) where
  kept := fun u hu => (hasAccount_updateWhere hid).trans hu
  new := fun u hu => Or.inl ((hasAccount_updateWhere hid).symm.trans hu)
  given := fun _ _ _ hcred => nomatch hcred
  flag := by
    intro b hb _
    obtain ⟨a, ha, rfl | rfl⟩ := mem_alterAccounts hb
    · exact ⟨b, ha, rfl, rfl⟩
    · exact ⟨a, ha, (hid a).symm, (hflag a).symm⟩

/-- **The change of a password** gives the credential, if the row was found. -/
theorem flags_setPassword {ks : List LockKey} {hash : Str} {cred : Credential} {time : Time}
    (hks : LockKey.account u ∈ ks) :
    Flags (givenTo u cred) s
      (s.alterAccounts
        (updateWhere (foundAccount ks (byId u)) (setPassword hash cred.mustChange time)))
    where
  kept := fun v hv => (hasAccount_updateWhere fun a => (setPassword_keeps a).1).trans hv
  new :=
    fun v hv => Or.inl ((hasAccount_updateWhere fun a => (setPassword_keeps a).1).symm.trans hv)
  given := by
    intro b hb cred' hcred'
    rw [givenTo] at hcred'
    split at hcred'
    · rename_i hbu
      obtain rfl : cred = cred' := Option.some.inj hcred'
      rw [Store.alterAccounts_accounts, alter_rows (accepts_update setPassword_keeps)] at hb
      obtain ⟨a, ha, rfl⟩ := mem_updateWhere.mp hb
      split
      · rfl
      · -- the row with this id is among those found
        rename_i hp
        rw [if_neg hp] at hbu
        subst hbu
        exact absurd (by simp [foundAccount, byId, hks]) hp
    · cases hcred'
  flag := by
    intro b hb hnone
    rw [Store.alterAccounts_accounts, alter_rows (accepts_update setPassword_keeps)] at hb
    obtain ⟨a, ha, rfl⟩ := mem_updateWhere.mp hb
    split
    · rename_i hp
      have hid : a.id = u := of_decide_eq_true (Bool.and_eq_true_iff.mp hp).2
      rw [if_pos hp] at hnone
      simp [givenTo, setPassword, hid] at hnone
    · exact ⟨a, ha, rfl, rfl⟩

/-- **The creation of an account** gives the credential, if the id was free. -/
theorem flags_insert {row : Account} (hmust : row.must_change_password = true)
    (hfree : s.hasAccount row.id = false) :
    Flags (givenTo row.id .issued) s (s.alterAccounts (· ++ [row])) := by
  have hrows : (s.alterAccounts (· ++ [row])).accounts.rows = s.accounts.rows ++ [row] ∨
      (s.alterAccounts (· ++ [row])).accounts.rows = s.accounts.rows := alter_rows_cases _ _
  have hback : ∀ b ∈ (s.alterAccounts (· ++ [row])).accounts.rows,
      b ∈ s.accounts.rows ∨ b = row := by
    intro b hb
    rcases hrows with h | h
    · rw [h] at hb
      simpa using hb
    · rw [h] at hb
      exact Or.inl hb
  have hother : ∀ b ∈ s.accounts.rows, b.id ≠ row.id := by
    intro b hb hid
    rw [← hid, hasAccount_of_mem hb] at hfree
    cases hfree
  refine ⟨fun u hu => ?_, fun u hu => ?_, fun b hb cred hcred => ?_, fun b hb hnone => ?_⟩
  · obtain ⟨a, ha, rfl⟩ := exists_of_hasAccount hu
    refine hasAccount_of_mem ?_
    rcases hrows with h | h
    · rw [h]
      exact List.mem_append_left _ ha
    · rw [h]
      exact ha
  · obtain ⟨b, hb, rfl⟩ := exists_of_hasAccount hu
    rcases hback b hb with hold | rfl
    · exact Or.inl (hasAccount_of_mem hold)
    · exact Or.inr (by simp [givenTo])
  · rcases hback b hb with hold | rfl
    · simp [givenTo, (hother b hold).symm] at hcred
    · obtain rfl : Credential.issued = cred := by simpa [givenTo] using hcred
      exact hmust
  · rcases hback b hb with hold | rfl
    · exact ⟨b, hold, rfl, rfl⟩
    · simp [givenTo] at hnone

/-- The changes of an operation that gives no credential. -/
theorem Change.sameFlags {g : Store → Store} (h : Change env op g)
    (hop : ∀ ans u, op.credential ans u = none) (s : Store) : SameFlags s (g s) := by
  cases h with
  | same | audit | history | revoke | touch | session => exact .of_accounts rfl
  | @account _ id f hrow ks =>
      cases hrow with
      | expireLock | failure | login | patch | unlock =>
          exact sameFlags_update (fun _ => rfl) (fun _ => rfl)
      | @change _ _ _ _ context =>
          have hnone := hop (.changed true) context.user_id
          simp [Op.credential, givenTo] at hnone
      | reset =>
          have hnone := hop .done id
          simp [Op.credential, givenTo] at hnone
  | insert hnew =>
      cases hnew with
      | @user _ _ user_id =>
          have hnone := hop .done user_id
          simp [Op.credential, givenTo] at hnone
      | @admin _ user_id =>
          have hnone := hop .done user_id
          simp [Op.credential, givenTo] at hnone

end Flags

-- ── What an operation may rely on ─────────────────────────────────────────────────

/-- Accounts stay, and nobody else creates the account whose id is locked. -/
def idRely : Rely LockKey Store where
  allows L s s' :=
    (∀ u, s.hasAccount u = true → s'.hasAccount u = true) ∧
      ∀ u, LockKey.account u ∈ L → s'.hasAccount u = true → s.hasAccount u = true
  refl := fun _ _ => ⟨fun _ h => h, fun _ _ h => h⟩
  trans := fun h h' => ⟨fun u hu => h'.1 u (h.1 u hu), fun u hL hu => h.2 u hL (h'.2 u hL hu)⟩

/-- The id of an account is locked while the account is there, or while it is not. -/
def Holds (u : Uuid) (there : Bool) (L : List LockKey) (s : Store) : Prop :=
  LockKey.account u ∈ L ∧ s.hasAccount u = there

/-- A commit gives the credential of its operation and answer, under the lock of the account. -/
structure FlagCommit (op : Op) (ans : Answer) (L : List LockKey) (s s' : Store) : Prop where
  flags : Flags (op.credential ans) s s'
  locked : ∀ u, (op.credential ans u).isSome = true → LockKey.account u ∈ L

/-- What a transaction has written gives the credentials `c`, on a store with or without the
    account. -/
def Wrote (u : Uuid) (there : Bool) (c : Uuid → Option Credential) (w : Store → Store) : Prop :=
  ∀ s, s.hasAccount u = there → Flags c s (w s)

section Relying

variable {env : Env} {op : Op} {ans : Answer} {u : Uuid} {there : Bool}
  {c : Uuid → Option Credential}
  {cred : Credential} {J : Store → Prop} {w : Store → Store} {L : List LockKey} {s : Store}

theorem stable_holds : Stable idRely (Holds u there) where
  lock := fun ks h => ⟨List.mem_append_right ks h.1, h.2⟩
  rely := by
    rintro L s s' ⟨hL, hs⟩ ⟨hkept, hlocked⟩
    refine ⟨hL, ?_⟩
    cases there with
    | true => exact hkept u hs
    | false =>
        by_contra hne
        rw [hlocked u hL (by simpa using hne)] at hs
        cases hs

theorem flagCommit_guarantees {τ : Type} (ops : τ → Op) :
    Guarantees idRely fun t => FlagCommit (ops t) := by
  intro t ans L s s' h L' hdisjoint
  refine ⟨h.flags.kept, fun u hL' hu => ?_⟩
  rcases h.flags.new u hu with hs | hgiven
  · exact hs
  · exact absurd (h.locked u hgiven) (hdisjoint _ hL')

/-- A commit that gives nothing. -/
theorem atCommit_same (hop : ∀ u, op.credential ans u = none) (hw : ∀ s, SameFlags s (w s)) :
    AtCommit J idRely (FlagCommit op) ans w L s := by
  intro s' _ _
  have hnone : op.credential ans = fun _ => none := funext hop
  refine ⟨hnone ▸ hw s', fun u hu => ?_⟩
  rw [hop u] at hu
  cases hu

/-- A commit that gives a credential to the account whose lock it holds. -/
theorem atCommit_given (hop : op.credential ans = givenTo u cred)
    (hw : Wrote u there (givenTo u cred) w) (hs : Holds u there L s) :
    AtCommit J idRely (FlagCommit op) ans w L s := by
  intro s' _ hrely
  have hs' := stable_holds.rely hs hrely
  refine ⟨hop ▸ hw s' hs'.2, fun v hv => ?_⟩
  rw [hop] at hv
  rw [givenTo] at hv
  split at hv
  · rename_i huv
    exact huv ▸ hs.1
  · cases hv

-- ── Statements ────────────────────────────────────────────────────────────────────

theorem ensures_withPool {α : Type} {R : Rely LockKey Store} {settings : Settings} {p : AuthTxn α}
    {Q : α → (Store → Store) → List LockKey → Store → Prop} (h : Ensures J R Q p w L s) :
    Ensures J R Q (withPool settings p) w L s :=
  withPool_rule (P := fun q => Ensures J R Q q w L s) h trivial

/-- `SELECT ... FOR UPDATE` answers with a row of the view that it has locked. -/
theorem ensures_selectAccountForUpdate {R : Rely LockKey Store} {p : Account → Bool}
    {Q : Option Account → (Store → Store) → List LockKey → Store → Prop}
    (hnone : ∀ L s, Q none w L s)
    (hsome : ∀ ks s₂ a, a ∈ (w s₂).accounts.rows → p a = true → LockKey.account a.id ∈ ks →
      Q (some a) w (ks ++ L) s₂) :
    Ensures J R Q (selectAccountForUpdate p) w L s := by
  refine ensures_query fun s₁ _ _ s₂ _ _ r hr => ?_
  cases hr
  cases hfind : (w s₂).accounts.rows.find? (foundAccount (accountsWhere p (w s₁)) p) with
  | none => exact hnone _ s₂
  | some a =>
      have hp := List.find?_some hfind
      rw [foundAccount] at hp
      obtain ⟨hks, hpa⟩ := Bool.and_eq_true_iff.mp hp
      exact hsome _ s₂ a (List.mem_of_find?_eq_some hfind) hpa (by simpa using hks)

/-- A verification reads and writes nothing. -/
theorem ensures_verify {R : Rely LockKey Store} {user_id : Option Uuid} {password hash : Str}
    {Q : Bool → (Store → Store) → List LockKey → Store → Prop} (h : ∀ matched, Q matched w L s) :
    Ensures J R Q (verify env.settings env.crypto user_id password hash) w L s := by
  rw [verify]
  split
  · exact trivial
  · exact h _

theorem ensures_verifiesAny {R : Rely LockKey Store} {user_id : Uuid} {password : Str}
    {hashes : List Str} {Q : Bool → (Store → Store) → List LockKey → Store → Prop}
    (h : ∀ matched, Q matched w L s) :
    Ensures J R Q (verifiesAny env.settings env.crypto user_id password hashes) w L s := by
  induction hashes with
  | nil => exact h false
  | cons hash hashes ih =>
      refine ensures_bind.mpr (ensures_verify fun matched => ?_)
      cases matched with
      | true => exact h true
      | false => exact ih

/-- A part that any operation may have: it writes no account. -/
theorem ensures_shared (env : Env) {α : Type} {P : α → Prop} {p : AuthTxn α}
    (h : ∀ op, Changes env op P p)
    (hw : Wrote u there c w) (hs : Holds u there L s) :
    Ensures J idRely
      (fun a w' L' s' => P a ∧ Wrote u there c w' ∧ Holds u there L' s') p w L s := by
  have hmakes : Makes (fun g => ∀ s, SameFlags s (g s)) P p :=
    (h (.revokeUserSessions ⟨0, 0, 0⟩ u u)).mono fun g hg => hg.sameFlags fun _ _ => rfl
  refine ensures_of_makes (F := Wrote u there c) hmakes ?_ stable_holds hw hs
  intro g w hg hw s hs
  exact (hw s hs).trans_same (hg (w s))

/-- The update of the password of an account that is locked. -/
theorem ensures_setPassword (cred : Credential) {hash : Str} {time : Time}
    (hw : Wrote u true (fun _ => none) w)
    (hs : Holds u true L s) :
    Ensures J idRely (fun _ w' L' s' => Wrote u true (givenTo u cred) w' ∧ Holds u true L' s')
      (updateAccounts [] (byId u) (setPassword hash cred.mustChange time)) w L s := by
  refine ensures_query fun s₁ _ h₁ s₂ _ h₂ r hr => ?_
  have hs₁ := stable_holds.rely hs h₁
  have hs₂ := stable_holds.rely hs₁ h₂
  rw [changeAccounts] at hr
  split at hr
  · cases hr
    refine ⟨fun t ht => SameFlags.trans (hw t ht) (flags_setPassword ?_), stable_holds.lock _ hs₂⟩
    -- the account is still in the view, so the statement finds it
    obtain ⟨a, ha, rfl⟩ := exists_of_hasAccount ((hw s₁ hs₁.2).kept u hs₁.2)
    exact List.mem_append_left _
      (List.mem_map.mpr ⟨a, List.mem_filter.mpr ⟨ha, by simp [byId]⟩, rfl⟩)
  · cases hr

/-- The insertion of an account whose password must be changed. -/
theorem ensures_storeAccount {row : Account} (hid : row.id = u)
    (hmust : row.must_change_password = true) :
    Ensures J idRely (fun _ w' L' s' => Wrote u false (givenTo u .issued) w' ∧ Holds u false L' s')
      (storeAccount row) id L s := by
  subst hid
  rw [storeAccount]
  split
  · refine ensures_query fun s₁ _ h₁ s₂ _ h₂ r hr => ?_
    split at hr
    · cases hr
    · rw [changeAccounts] at hr
      split at hr
      · rename_i hacc
        cases hr
        refine ⟨fun t ht => flags_insert hmust ht, by simp, ?_⟩
        -- an accepted row clashes with none
        by_contra hne
        obtain ⟨a, ha, hid⟩ := exists_of_hasAccount (Bool.not_eq_false _ ▸ hne)
        have hclash := accepts_append_iff.mp hacc a ha
        simp [accountClash, hid] at hclash
      · cases hr
  · exact trivial

-- ── The operations ────────────────────────────────────────────────────────────────

theorem changes_selectHistory {scan : Scan PasswordHistory}
    {p : PasswordHistory → Bool} {limit : Int}
    (op : Op) : Changes env op (fun _ => True) (selectHistory scan p limit) := by
  refine changes_read fun ks v r hr => ?_
  split at hr
  · cases hr
  · cases hr
    exact ⟨rfl, trivial⟩

theorem ensures_storePassword {clock : Clock} {scan : Scan PasswordHistory} {salt : Str}
    {historyId : Nat} {context : AuthContext} {user : Account} {new_password : Str}
    (hw : Wrote user.id true (fun _ => none) w) (hs : Holds user.id true L s) :
    Ensures J idRely
      (fun ok w' L' s' => ok = true ∧ Wrote user.id true (givenTo user.id .changed) w' ∧
        Holds user.id true L' s')
      (storePassword env.settings env.crypto clock scan salt historyId context user new_password)
      w L s := by
  refine (ensures_shared env (fun op => changes_insertHistory _) hw hs).bind ?_
  rintro _ w₁ L₁ s₁ ⟨-, hw₁, hs₁⟩
  refine (ensures_setPassword .changed hw₁ hs₁).bind ?_
  rintro _ w₂ L₂ s₂ ⟨hw₂, hs₂⟩
  exact ensures_shared env
    (fun op => (changes_trimHistory _ _ _).bind fun _ _ => changes_revoke.bind
    fun _ _ => (changes_addAuthEvent _ _).bind fun _ _ => makes_ret rfl) hw₂ hs₂

theorem ensures_changePassword {clock : Clock} {scan : Scan PasswordHistory} {salt : Str}
    {historyId : Nat} {context : AuthContext} {current_password new_password : Str} :
    Ensures J idRely
      (fun ok w' L' s' => (ok = false ∧ w' = id) ∨
        (ok = true ∧ Wrote context.user_id true (givenTo context.user_id .changed) w' ∧
          Holds context.user_id true L' s'))
      (changePassword env.py env.settings env.crypto clock scan salt historyId context
        current_password new_password) id L s := by
  refine ensures_withPool (ensures_bind.mpr (ensures_selectAccountForUpdate
    (fun _ _ => Or.inl ⟨rfl, rfl⟩) ?_))
  intro ks s₂ user huser hid hks
  have huid : user.id = context.user_id := of_decide_eq_true hid
  rw [← huid]
  have hs₂ : Holds user.id true (ks ++ L) s₂ :=
    ⟨List.mem_append_left _ hks, hasAccount_of_mem huser⟩
  refine ensures_bind.mpr (ensures_verify ?_)
  intro matched
  cases matched with
  | false => exact Or.inl ⟨rfl, rfl⟩
  | true =>
      rw [if_pos rfl]
      split
      · exact trivial
      · have hw : Wrote user.id true (fun _ => none) id := fun s _ => SameFlags.of_accounts rfl
        refine (ensures_shared env (fun op => changes_selectHistory op) hw hs₂).bind ?_
        rintro history w₁ L₁ s₁ ⟨-, hw₁, hs₁⟩
        refine ensures_bind.mpr (ensures_verifiesAny ?_)
        intro used
        cases used with
        | true => exact trivial
        | false => exact (ensures_storePassword hw₁ hs₁).mono fun _ _ _ _ hend => Or.inr hend

theorem ensures_resetPassword {clock : Clock} {actor user_id : Uuid} {salt : Str} {historyId : Nat}
    {payload : AdminResetPasswordRequest} :
    Ensures J idRely
      (fun _ w' L' s' => Wrote user_id true (givenTo user_id .issued) w' ∧ Holds user_id true L' s')
      (resetPassword env.py env.settings env.crypto clock actor user_id salt historyId payload)
      id L s := by
  refine ensures_withPool (ensures_bind.mpr (ensures_selectAccountForUpdate
    (fun _ _ => trivial) ?_))
  intro ks s₂ user huser hid hks
  obtain rfl : user.id = user_id := of_decide_eq_true hid
  have hs₂ : Holds user.id true (ks ++ L) s₂ :=
    ⟨List.mem_append_left _ hks, hasAccount_of_mem huser⟩
  have hw : Wrote user.id true (fun _ => none) id := fun s _ => SameFlags.of_accounts rfl
  dsimp only
  split
  · exact trivial
  · refine (ensures_shared env (fun op => changes_insertHistory _) hw hs₂).bind ?_
    rintro _ w₁ L₁ s₁ ⟨-, hw₁, hs₁⟩
    refine (ensures_setPassword .issued hw₁ hs₁).bind ?_
    rintro _ w₂ L₂ s₃ ⟨hw₂, hs₃⟩
    exact (ensures_shared env (fun op => changes_revoke.bind fun _ _ =>
      changes_addAuthEvent _ _) hw₂ hs₃).mono fun _ _ _ _ hend => hend.2

theorem ensures_createUser {clock : Clock} {actor user_id : Uuid} {salt : Str}
    {payload : UserCreateRequest} :
    Ensures J idRely
      (fun _ w' L' s' => Wrote user_id false (givenTo user_id .issued) w' ∧
        Holds user_id false L' s')
      (createUser env.py env.settings env.crypto clock actor user_id salt payload) id L s := by
  rw [createUser]
  split
  · exact trivial
  · refine ensures_withPool (.handle _ ((ensures_storeAccount rfl rfl).bind ?_))
    rintro _ w₁ L₁ s₁ ⟨hw₁, hs₁⟩
    refine (ensures_shared env (fun op => changes_addAuthEvent _ _) hw₁ hs₁).bind ?_
    exact fun _ _ _ _ hend => hend.2

theorem ensures_createAdmin {clock : Clock} {user_id : Uuid} {salt username display_name : Str}
    {email : Option Str} {password confirm : Str} :
    Ensures J idRely
      (fun _ w' L' s' => Wrote user_id false (givenTo user_id .issued) w' ∧
        Holds user_id false L' s')
      (createAdmin env.py env.settings env.crypto clock user_id salt username display_name email
        password confirm) id L s := by
  rw [createAdmin]
  split
  · exact trivial
  · split
    · exact trivial
    · split
      · exact trivial
      · exact ensures_withPool (.handle _ (ensures_storeAccount rfl rfl))

/-- An operation that gives no credential. -/
theorem ensures_other (hop : ∀ ans u, op.credential ans u = none) :
    Ensures J idRely (AtCommit J idRely (FlagCommit op)) (op.prog env) id L s := by
  have hkeeps : Keeps (fun w => ∀ s, SameFlags s (w s)) (op.prog env) := by
    refine (op_changes env op).keeps fun g w hg hw s => ?_
    exact SameFlags.trans (hw s) (hg.sameFlags hop (w s))
  have halways := hkeeps id fun s => SameFlags.of_accounts rfl
  exact (ensures_of_always halways).mono fun ans _ _ _ hw => atCommit_same (hop ans) hw

/-- **Every operation gives the credential it stands for**, and no other. -/
theorem ensures_credential (env : Env) (op : Op) :
    Ensures J idRely (AtCommit J idRely (FlagCommit op)) (op.prog env) id L s := by
  cases op with
  | changePassword clock scan salt historyId context current_password new_password =>
      refine ensures_changePassword.bind fun ok w' L' s' hend => ?_
      rcases hend with ⟨rfl, rfl⟩ | ⟨rfl, hw, hs⟩
      · exact atCommit_same (fun _ => rfl) fun s => SameFlags.of_accounts rfl
      · exact atCommit_given rfl hw hs
  | resetPassword =>
      exact ensures_resetPassword.bind fun _ _ _ _ hend => atCommit_given rfl hend.1 hend.2
  | createUser => exact ensures_createUser.bind fun _ _ _ _ hend => atCommit_given rfl hend.1 hend.2
  | createAdmin =>
      exact ensures_createAdmin.bind fun _ _ _ _ hend => atCommit_given rfl hend.1 hend.2
  | authenticate | resolveSession | revokeSession | updateUser | unlockUser | revokeUserSessions =>
      exact ensures_other fun _ _ => rfl

/-- What the context of a resolved session says of the flag, the account said on a store that the
    transaction has met. -/
def Seen (J : Store → Prop) (ans : Answer) : Prop :=
  ∀ c, ans = .context (some c) → ∃ m, J m ∧ ∃ a ∈ m.accounts.rows, a.id = c.user_id ∧
    a.must_change_password = c.must_change_password

theorem ensures_resolveSession {clock : Clock} {token : Str} :
    Ensures J Rely.any (fun r _ _ _ => Seen J (.context r))
      (resolveSession env.settings env.crypto clock token) id L s := by
  refine ensures_withPool (ensures_bind.mpr (ensures_query fun s₁ _ _ s₂ hs₂ _ r hr => ?_))
  cases hr
  have hnone : Seen J (.context none) := fun c hc => nomatch hc
  dsimp only
  split
  · exact hnone
  · rename_i x a hrow
    split
    · exact hnone
    · split
      · exact ensures_true.bind fun _ _ _ _ _ => hnone
      · -- the context is made of the row that the join read on this store
        refine ensures_true.bind fun _ _ _ _ _ c hc => ⟨s₂, hs₂, a, ?_, ?_⟩
        · obtain ⟨y, -, hy⟩ := Option.bind_eq_some_iff.mp hrow
          obtain ⟨a', ha', heq⟩ := Option.map_eq_some_iff.mp hy
          cases heq
          exact List.mem_of_find?_eq_some ha'
        · cases hc
          exact ⟨rfl, rfl⟩

theorem ensures_seen (env : Env) (op : Op) :
    Ensures J Rely.any (AtCommit J Rely.any fun ans _ _ _ => Seen J ans) (op.prog env) id L s := by
  cases op with
  | resolveSession clock token =>
      exact ensures_resolveSession.bind fun r w' L' s' hseen _ _ _ => hseen
  | authenticate | revokeSession | changePassword | createUser | createAdmin |
    updateUser | unlockUser
  | resetPassword | revokeUserSessions =>
      exact ensures_true.bind fun _ _ _ _ _ _ _ _ c hc => nomatch hc

end Relying

-- ── Runs ──────────────────────────────────────────────────────────────────────────

/-- The operations at their start over an empty database. -/
def opsStart {τ : Type} (env : Env) (ops : τ → Op) : OpDb τ :=
  initial (fun t => (ops t).prog env) Store.empty

/-- Every account was given a credential, and its flag is that of the latest. -/
def FlagsFollow {τ : Type} (ops : τ → Op) (acts : List (Act τ)) (db : OpDb τ) : Prop :=
  ∀ a ∈ db.store.accounts.rows, ∃ c,
    latestCredential ops acts db a.id = some c ∧ a.must_change_password = c.mustChange

section Runs

variable {τ : Type} [DecidableEq τ] {env : Env} {ops : τ → Op} {start db db' : OpDb τ}
  {acts : List (Act τ)} {act : Act τ}

/-- The step lemma. -/
theorem FlagsFollow.step (h : FlagsFollow ops acts db) (hrun : Run Step start acts db)
    (hkept : Kept (fun _ _ => True) idRely (fun t => FlagCommit (ops t)) db)
    (hs : Step db act db') :
    FlagsFollow ops (acts ++ [act]) db' := by
  intro b hb
  rcases hkept.step_store trivial hs with ⟨hother, hstore⟩ | ⟨t, ans, L, rfl, hphase, -, hQ⟩
  · rw [hstore] at hb
    obtain ⟨c, hc, hflag⟩ := h b hb
    refine ⟨c, ?_, hflag⟩
    rw [latestCredential_none hrun hs (by simp [commits_other hother]), hc]
  · cases hgiven : (ops t).credential ans b.id with
    | some c => exact ⟨c, latestCredential_some hrun hs hphase hgiven, hQ.flags.given b hb c hgiven⟩
    | none =>
        obtain ⟨a, ha, hid, hsame⟩ := hQ.flags.flag b hb hgiven
        obtain ⟨c, hc, hflag⟩ := h a ha
        refine ⟨c, ?_, hsame.symm.trans hflag⟩
        rw [latestCredential_none hrun hs (by simp [commits_commit hphase, hgiven]), ← hid, hc]

/-- The run lemma. -/
theorem flagsFollow_run (hrun : Run Step (opsStart env ops) acts db) : FlagsFollow ops acts db := by
  have hguar := flagCommit_guarantees ops
  have hstart : Kept (fun _ _ => True) idRely (fun t => FlagCommit (ops t)) (opsStart env ops) :=
    kept_initial fun t => ensures_credential env (ops t)
  refine (hrun.invariant_of_labels (I := fun acts m => Run Step (opsStart env ops) acts m ∧
    FlagsFollow ops acts m) ?_ ⟨.nil _, fun a ha => nomatch ha⟩).2
  rintro acts m act m' ⟨hm, hflags⟩ hs
  have hkept := kept_run hguar hstart hm fun _ _ _ => trivial
  exact ⟨hm.append (.single hs), hflags.step hm hkept hs⟩

/-- The flag of an account tells whether its latest credential was its own change. -/
theorem flag_iff (hrun : Run Step (opsStart env ops) acts db) {a : Account}
    (ha : a ∈ db.store.accounts.rows) :
    a.must_change_password = false ↔ latestCredential ops acts db a.id = some .changed := by
  obtain ⟨c, hc, hflag⟩ := flagsFollow_run hrun a ha
  rw [hflag, hc]
  cases c with
  | issued => simp [Credential.mustChange]
  | changed => simp [Credential.mustChange]

/-- **No privileged action on a password that somebody else chose.** -/
theorem password_history (hrun : Run Step (opsStart env ops) acts db) :
    (∀ a ∈ db.store.accounts.rows,
      a.must_change_password = false ↔ latestCredential ops acts db a.id = some .changed) ∧
    (env.settings.auth_enabled = true →
      ∀ roles clock request st out st', st.store = db.store →
        Returns (requireRoles env roles clock request) st out st' →
          ∃ token x a, GoodSession env request clock.utcnow db.store token x a ∧ a.role ∈ roles ∧
            latestCredential ops acts db a.id = some .changed) ∧
    ∀ t db' c, Step db (.commit t) db' → db'.phase t = .committed (.context (some c)) →
      c.must_change_password = false →
        ∃ acts₁ act acts₂ m, acts ++ [.commit t] = acts₁ ++ act :: acts₂ ∧ act.tid = t ∧
          Run Step (opsStart env ops) acts₁ m ∧ Run Step m (act :: acts₂) db' ∧
          latestCredential ops acts₁ m c.user_id = some .changed := by
  refine ⟨fun a ha => flag_iff hrun ha, ?_, ?_⟩
  · intro hauth roles clock request st out st' hst hreturns
    obtain ⟨token, x, a, hgood, hmust, hrole, -, -⟩ := requireRoles_returns hauth hreturns
    rw [hst] at hgood
    exact ⟨token, x, a, hgood, hrole, (flag_iff hrun hgood.account).mp hmust⟩
  · intro t db' c hs hphase hmust
    obtain ⟨-, hseen⟩ := commit_meets (R := Rely.any)
      (J := StepsOn (opsStart env ops) (acts ++ [Act.commit t]) db')
      (Q := fun t' ans _ _ _ =>
        Seen (StepsOn (opsStart env ops) (acts ++ [Act.commit t]) db' t') ans)
      (fun _ _ _ _ _ _ _ _ => trivial) (fun t' => ensures_seen env (ops t')) hrun hs
      (fun _ _ hmet => hmet) hphase
    obtain ⟨s, ⟨acts₁, act, acts₂, m, hacts, htid, hbefore, hafter, rfl⟩, a, ha, hid, hflag⟩ :=
      hseen c rfl
    refine ⟨acts₁, act, acts₂, m, hacts, htid, hbefore, hafter, ?_⟩
    rw [← hid]
    exact (flag_iff hbefore ha).mp (hflag.trans hmust)

end Runs

/-- The first administrator is created and changes the password. -/
def createAndChange : Bool → Op
  | true => .createAdmin ⟨0, 0, 0⟩ 1 [] (str "root") (str "root") none (str "correct horse battery")
      (str "correct horse battery")
  | false => .changePassword ⟨2, 2, 2⟩ .asInserted [] 1 sampleResult.context
      (str "correct horse battery") (str "a second long secret")

/-- The change begins as soon as the account is committed. -/
def changeSchedule : List (Act Bool) :=
  [.begin true, .finish true, .commit true, .begin false, .finish false, .emit false, .begin false,
    .finish false, .emit false, .begin false, .finish false, .begin false, .finish false,
    .begin false, .finish false, .begin false, .finish false, .emit false, .begin false,
    .finish false, .commit false]

/-- The general result on the first change of a password. -/
theorem first_change_ends_obligation :
    ∃ db : OpDb Bool, Run Step (opsStart .sample createAndChange) changeSchedule db ∧
      latestCredential createAndChange changeSchedule db 1 = some .changed := by
  have hexec : (exec next (opsStart .sample createAndChange) changeSchedule).any (fun db =>
      db.store.accounts.rows.any fun a => a.id = 1 && !a.must_change_password) = true := by
    decide +kernel
  obtain ⟨db, hdb, hrow⟩ := (Option.any_eq_true _ _).mp hexec
  obtain ⟨a, ha, hp⟩ := List.any_eq_true.mp hrow
  obtain ⟨hid, hflag⟩ := Bool.and_eq_true_iff.mp hp
  have hlatest := ((password_history (run_of_exec hdb)).1 a ha).mp (by simpa using hflag)
  rw [of_decide_eq_true hid] at hlatest
  exact ⟨db, run_of_exec hdb, hlatest⟩

end NetProbeAccountRuns
