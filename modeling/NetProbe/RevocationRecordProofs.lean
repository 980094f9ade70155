import NetProbe.CheckedStatementsProofs
import NetProbe.SessionCapProofs

/-!
# The record of a revocation

Seven operations revoke sessions.  Five of them ask for `revoked_at IS NULL` in the update, so
they pass over a row that is revoked already (`keepsRecords_revoke`); `resolve_session` updates
by id alone, but the row has been locked since it was read unrevoked
(`ensures_resolveSession_records`). A login reads the sessions of its user without a lock and
updates them by their ids: if one of them is revoked before the update gets its lock, its record
is overwritten (`login_overwrites_expiry`).  A logout cannot come between: its audit row refers
to the account, which the login has locked.  An expiry writes no such row.

`records_kept_while` says that this is the only way: in every interleaving in which no login finds
a revoked session among those it is about to evict, the time and the reason of a committed
revocation never change.  The condition goes into the programs as a test of what a statement sees
(`checked`), the rest is rely and guarantee: the holder of the lock of a session relies on its row.
-/

namespace NetProbeRevocationRecord

open NetProbePyText NetProbeConfig NetProbeCoreAuth NetProbeAccountStore NetProbeAuthService
open NetProbeAdminUsers NetProbeAccountRuns UniqueTable Transaction Transaction.Txn LabelledRun
open ReadCommitted

-- ── The record ────────────────────────────────────────────────────────────────────

/-- The time and the reason of every revocation are still the same. -/
def RecordsKept (s s' : Store) : Prop :=
  ∀ x ∈ s.sessions.rows, x.revoked_at.isSome = true →
    ∃ y ∈ s'.sessions.rows, y.id = x.id ∧ y.revoked_at = x.revoked_at ∧
      y.revoke_reason = x.revoke_reason

instance (s s' : Store) : Decidable (RecordsKept s s') :=
  inferInstanceAs (Decidable (∀ x ∈ s.sessions.rows, x.revoked_at.isSome = true →
    ∃ y ∈ s'.sessions.rows, _))

/-- What becomes of a row: it stays as it is unless it is among the locked rows `L`, and a
    revocation keeps its record unless it is among the rows `K`. -/
structure RowKept (K L : List LockKey) (x y : Session) : Prop where
  id : y.id = x.id
  unlocked : LockKey.session x.id ∉ L → y = x
  record : x.revoked_at.isSome = true → LockKey.session x.id ∉ K →
    y.revoked_at = x.revoked_at ∧ y.revoke_reason = x.revoke_reason

/-- Every row is kept in this way. -/
def RowsKept (K L : List LockKey) (s s' : Store) : Prop :=
  ∀ x ∈ s.sessions.rows, ∃ y ∈ s'.sessions.rows, RowKept K L x y

/-- What has been written keeps the rows. -/
def Writes (K L : List LockKey) (w : Store → Store) : Prop := ∀ s, RowsKept K L s (w s)

/-- The statements of the program change only rows they have found, and keep all records. -/
abbrev KeepsRecords {α : Type} (p : AuthTxn α) : Prop := MakesFrom (Writes []) p

section Rows

variable {K K' L L' ks : List LockKey} {s s' s'' : Store} {x y z : Session} {w g : Store → Store}
  {p : Session → Bool} {f : Session → Session}

theorem RowKept.refl (x : Session) : RowKept K L x x := ⟨rfl, fun _ => rfl, fun _ _ => ⟨rfl, rfl⟩⟩

theorem RowKept.trans (h : RowKept K L x y) (h' : RowKept K' L' y z) :
    RowKept (K' ++ K) (L' ++ L) x z where
  id := h'.id.trans h.id
  unlocked := by
    intro hnot
    rw [List.mem_append, not_or] at hnot
    have hyx := h.unlocked hnot.2
    have hzy := h'.unlocked (hyx ▸ hnot.1)
    exact hzy.trans hyx
  record := by
    intro hrevoked hnot
    rw [List.mem_append, not_or] at hnot
    obtain ⟨hat, hreason⟩ := h.record hrevoked hnot.2
    obtain ⟨hat', hreason'⟩ := h'.record (hat ▸ hrevoked) (h.id ▸ hnot.1)
    exact ⟨hat'.trans hat, hreason'.trans hreason⟩

/-- Writes add up, with the rows they have locked. -/
theorem Writes.comp (h : Writes K L w) (h' : Writes K' ks g) :
    Writes (K' ++ K) (ks ++ L) (g ∘ w) := by
  intro s x hx
  obtain ⟨y, hy, hxy⟩ := h s x hx
  obtain ⟨z, hz, hyz⟩ := h' (w s) y hy
  exact ⟨z, hz, hxy.trans hyz⟩

theorem writes_of_same (h : ∀ s, (w s).sessions = s.sessions) : Writes K L w := by
  intro s x hx
  refine ⟨x, ?_, .refl x⟩
  rw [h s]
  exact hx

/-- An update of the rows found. -/
theorem writes_update (hf : KeepsSessionKeys f)
    (hrecord : ∀ x, LockKey.session x.id ∈ ks → p x = true → x.revoked_at.isSome = true →
      LockKey.session x.id ∉ K → (f x).revoked_at = x.revoked_at ∧
        (f x).revoke_reason = x.revoke_reason) :
    Writes K ks fun s => s.setSessions (foundSession ks p) f := by
  intro s x hx
  refine ⟨_, (mem_setSessions hf).mpr ⟨x, hx, rfl⟩, ?_⟩
  cases hfound : foundSession ks p x with
  | false => exact .refl x
  | true =>
      obtain ⟨hks, hp⟩ := Bool.and_eq_true_iff.mp hfound
      have hmem : LockKey.session x.id ∈ ks := List.contains_iff_mem.mp hks
      exact ⟨(hf x).1, fun hnot => absurd hmem hnot, hrecord x hmem hp⟩

/-- A row that is added. -/
theorem writes_insert {row : Session} : Writes K ks fun s => s.alterSessions (· ++ [row]) := by
  intro s x hx
  refine ⟨x, ?_, .refl x⟩
  show x ∈ (s.sessions.alter _).rows
  rcases alter_rows_cases s.sessions (· ++ [row]) with hrows | hrows
  · rw [hrows]
    exact List.mem_append_left _ hx
  · rw [hrows]
    exact hx

theorem RecordsKept.refl (s : Store) : RecordsKept s s := fun x hx _ => ⟨x, hx, rfl, rfl, rfl⟩

theorem RecordsKept.trans (h : RecordsKept s s') (h' : RecordsKept s' s'') : RecordsKept s s'' := by
  intro x hx hrevoked
  obtain ⟨y, hy, hid, hat, hreason⟩ := h x hx hrevoked
  obtain ⟨z, hz, hid', hat', hreason'⟩ := h' y hy (hat ▸ hrevoked)
  exact ⟨z, hz, hid'.trans hid, hat'.trans hat, hreason'.trans hreason⟩

theorem RowsKept.recordsKept (h : RowsKept [] L s s') : RecordsKept s s' := by
  intro x hx hrevoked
  obtain ⟨y, hy, hxy⟩ := h x hx
  exact ⟨y, hy, hxy.id, hxy.record hrevoked List.not_mem_nil⟩

end Rows

-- ── Statements and programs that keep the records ─────────────────────────────────

section Programs

variable {env : Env} {α : Type} {clock : Clock} {user_id actor : Uuid}
  {salt : Str} {historyId : Nat}

theorem keepsRecords_of_leaves {p : AuthTxn α} (h : LeavesSessions p) : KeepsRecords p :=
  makesFrom_of_makes h fun _ _ hg => writes_of_same hg

/-- A statement that writes no session. -/
theorem leaves_query {found : Store → List LockKey}
    {f : List LockKey → Store → Except AuthError (α × (Store → Store))}
    (h : ∀ ks v r, f ks v = .ok r → ∀ s, (r.2 s).sessions = s.sessions) :
    LeavesSessions (query found f) :=
  makes_query (fun _ => rfl) fun ks v r hr => ⟨h ks v r hr, trivial⟩

theorem leaves_selectAccountForUpdate (p : Account → Bool) :
    LeavesSessions (selectAccountForUpdate p) := by
  refine leaves_query fun ks v r hr s => ?_
  cases hr
  rfl

theorem leaves_countAccounts (p : Account → Bool) : LeavesSessions (countAccounts p) := by
  refine leaves_query fun ks v r hr s => ?_
  cases hr
  rfl

theorem leaves_selectHistory (scan : Scan PasswordHistory)
    (p : PasswordHistory → Bool) (limit : Int) :
    LeavesSessions (selectHistory scan p limit) := by
  refine leaves_query fun ks v r hr s => ?_
  split at hr
  · cases hr
  · cases hr
    rfl

theorem leaves_insertHistory (row : PasswordHistory) : LeavesSessions (insertHistory row) := by
  refine leaves_query fun ks v r hr s => ?_
  split at hr
  · cases hr
  · split at hr
    · cases hr
      rfl
    · cases hr

theorem leaves_trimHistory (scan : Scan PasswordHistory)
    (p : PasswordHistory → Bool) (limit : Int) :
    LeavesSessions (trimHistory scan p limit) := by
  refine leaves_query fun ks v r hr s => ?_
  split at hr
  · cases hr
  · cases hr
    rfl

theorem leaves_storeAccount (row : Account) : LeavesSessions (storeAccount row) := by
  rw [storeAccount]
  split
  · refine leaves_query fun ks v r hr s => ?_
    split at hr
    · cases hr
    · rw [changeAccounts] at hr
      split at hr
      · cases hr
        rfl
      · cases hr
  · exact makes_raise _

theorem leaves_verify (user_id : Option Uuid) (password hash : Str) :
    LeavesSessions (verify env.settings env.crypto user_id password hash) := by
  rw [verify]
  split
  · exact makes_raise _
  · exact (makes_ret trivial).emit _

theorem leaves_verifiesAny (user_id : Uuid) (password : Str) (hashes : List Str) :
    LeavesSessions (verifiesAny env.settings env.crypto user_id password hashes) := by
  induction hashes with
  | nil => exact makes_ret trivial
  | cons hash hashes ih =>
      refine (leaves_verify _ _ _).bind fun found _ => ?_
      cases found with
      | true => exact makes_ret trivial
      | false => exact ih

/-- **A guarded revocation.** An update that asks for unrevoked rows keeps the records of the
    others. -/
theorem keepsRecords_revoke {p : Session → Bool} {time : Time} {reason : Str}
    (hguard : ∀ x, p x = true → x.revoked_at = none) :
    KeepsRecords (updateSessions p (revoke time reason)) := by
  refine makesFrom_query (fun _ => writes_of_same fun _ => rfl) fun ks v r hr => ?_
  cases hr
  refine writes_update revoke_keeps fun x _ hp hrevoked => ?_
  rw [hguard x hp] at hrevoked
  cases hrevoked

theorem keepsRecords_touch {p : Session → Bool} {now idle : Time} :
    KeepsRecords (updateSessions p (touch now idle)) := by
  refine makesFrom_query (fun _ => writes_of_same fun _ => rfl) fun _ _ _ hr => ?_
  cases hr
  exact writes_update touch_keeps fun _ _ _ _ _ => ⟨rfl, rfl⟩

theorem keepsRecords_addAuthEvent (fields : AuditFields) :
    KeepsRecords (addAuthEvent env.settings clock fields) :=
      keepsRecords_of_leaves leaves_addAuthEvent

theorem unrevoked_of_unrevokedOf {u : Uuid} {x : Session} (h : unrevokedOf u x = true) :
    x.revoked_at = none := Option.isNone_iff_eq_none.mp (Bool.and_eq_true_iff.mp h).2

theorem keepsRecords_withPool {p : AuthTxn α} (h : KeepsRecords p) :
    KeepsRecords (withPool env.settings p) := withPool_rule h (makesFrom_raise _)

theorem keepsRecords_answering {p : AuthTxn α} {f : α → Answer} (h : KeepsRecords p) :
    KeepsRecords (answering p f) := h.bind fun _ => makesFrom_ret _

theorem keepsRecords_revokeSession {session_id : Uuid} {reason : Str} :
    KeepsRecords (revokeSession env.settings clock session_id user_id reason) := by
  refine keepsRecords_withPool
    ((keepsRecords_revoke fun x hx => ?_).bind fun _ => keepsRecords_addAuthEvent _)
  exact Option.isNone_iff_eq_none.mp (Bool.and_eq_true_iff.mp hx).2

theorem keepsRecords_changePassword {scan : Scan PasswordHistory} {context : AuthContext}
    {current_password new_password : Str} :
    KeepsRecords (changePassword env.py env.settings env.crypto clock scan salt historyId context
      current_password new_password) := by
  refine keepsRecords_withPool
    ((keepsRecords_of_leaves (leaves_selectAccountForUpdate _)).bind fun found => ?_)
  cases found with
  | none => exact makesFrom_ret _
  | some user =>
      refine (keepsRecords_of_leaves (leaves_verify _ _ _)).bind fun matched => ?_
      cases matched with
      | false => exact makesFrom_ret _
      | true =>
          rw [if_pos rfl]
          split
          · exact makesFrom_raise _
          · refine (keepsRecords_of_leaves (leaves_selectHistory _ _ _)).bind fun history => ?_
            refine (keepsRecords_of_leaves (leaves_verifiesAny _ _ _)).bind fun used => ?_
            cases used with
            | true => exact makesFrom_raise _
            | false =>
                refine (keepsRecords_of_leaves (leaves_insertHistory _)).bind fun _ => ?_
                refine (keepsRecords_of_leaves leaves_updateAccounts).bind fun _ => ?_
                refine (keepsRecords_of_leaves (leaves_trimHistory _ _ _)).bind fun _ => ?_
                refine (keepsRecords_revoke fun x hx => ?_).bind fun _ =>
                  (keepsRecords_addAuthEvent _).bind fun _ => makesFrom_ret _
                exact unrevoked_of_unrevokedOf (Bool.and_eq_true_iff.mp hx).1

theorem keepsRecords_createUser {payload : UserCreateRequest} :
    KeepsRecords (createUser env.py env.settings env.crypto clock actor user_id salt payload) := by
  rw [createUser]
  split
  · exact makesFrom_raise _
  · exact keepsRecords_withPool (MakesFrom.handle _
      ((keepsRecords_of_leaves (leaves_storeAccount _)).bind fun _ =>
        (keepsRecords_addAuthEvent _).bind fun _ => makesFrom_ret _))

theorem keepsRecords_createAdmin {username display_name password confirm : Str}
    {email : Option Str} :
    KeepsRecords
      (createAdmin env.py env.settings env.crypto clock user_id salt username display_name
      email password confirm) := by
  rw [createAdmin]
  split
  · exact makesFrom_raise _
  · split
    · exact makesFrom_raise _
    · split
      · exact makesFrom_raise _
      · exact keepsRecords_withPool
          (MakesFrom.handle _ (keepsRecords_of_leaves (leaves_storeAccount _)))

theorem keepsRecords_updateUser {payload : UserUpdateRequest} :
    KeepsRecords (updateUser env.py env.settings clock actor user_id payload) := by
  refine keepsRecords_withPool
    ((keepsRecords_of_leaves (leaves_selectAccountForUpdate _)).bind fun found => ?_)
  cases found with
  | none => exact makesFrom_raise _
  | some user =>
      refine MakesFrom.bind ?_ fun _ => ?_
      · rw [lastAdminGuard]
        split
        · refine (keepsRecords_of_leaves (leaves_countAccounts _)).bind fun count => ?_
          split
          · exact makesFrom_raise _
          · exact makesFrom_ret _
        · exact makesFrom_ret _
      · rw [storePatch]
        split
        · refine (keepsRecords_of_leaves leaves_updateAccounts).bind fun _ =>
            MakesFrom.bind ?_ fun _ =>
            (keepsRecords_addAuthEvent _).bind fun _ => makesFrom_ret _
          rw [revokeDisabled]
          split
          · exact (keepsRecords_revoke fun _ => unrevoked_of_unrevokedOf).bind
              fun _ => makesFrom_ret _
          · exact makesFrom_ret _
        · exact makesFrom_raise _

theorem keepsRecords_unlockUser : KeepsRecords (unlockUser env.settings clock actor user_id) := by
  refine keepsRecords_withPool ((keepsRecords_of_leaves leaves_updateAccounts).bind fun rows => ?_)
  split
  · exact makesFrom_raise _
  · exact keepsRecords_addAuthEvent _

theorem keepsRecords_resetPassword {payload : AdminResetPasswordRequest} :
    KeepsRecords (resetPassword env.py env.settings env.crypto clock actor user_id salt
      historyId payload) := by
  refine keepsRecords_withPool
    ((keepsRecords_of_leaves (leaves_selectAccountForUpdate _)).bind fun found => ?_)
  cases found with
  | none => exact makesFrom_raise _
  | some user =>
      dsimp only
      split
      · exact makesFrom_raise _
      · refine (keepsRecords_of_leaves (leaves_insertHistory _)).bind fun _ => ?_
        refine (keepsRecords_of_leaves leaves_updateAccounts).bind fun _ => ?_
        exact (keepsRecords_revoke fun _ => unrevoked_of_unrevokedOf).bind fun _ =>
          keepsRecords_addAuthEvent _

theorem keepsRecords_revokeUserSessions :
    KeepsRecords (revokeUserSessions env.settings clock actor user_id) :=
  keepsRecords_withPool ((keepsRecords_revoke fun _ => unrevoked_of_unrevokedOf).bind fun _ =>
    (keepsRecords_addAuthEvent _).bind fun _ => makesFrom_ret _)

end Programs

-- ── What the holder of a lock relies on ───────────────────────────────────────────

/-- Sessions stay, and the locked rows are left alone. -/
def recordRely : Rely LockKey Store where
  allows L s s' := ∀ x ∈ s.sessions.rows, ∃ y ∈ s'.sessions.rows, y.id = x.id ∧
    (LockKey.session x.id ∈ L → y = x)
  refl := fun _ s x hx => ⟨x, hx, rfl, fun _ => rfl⟩
  trans := by
    intro L s s' s'' h h' x hx
    obtain ⟨y, hy, hid, hsame⟩ := h x hx
    obtain ⟨z, hz, hid', hsame'⟩ := h' y hy
    refine ⟨z, hz, hid'.trans hid, fun hlocked => ?_⟩
    have hyx := hsame hlocked
    exact (hsame' (hyx ▸ hlocked)).trans hyx

/-- A commit changes only rows it has locked, and keeps all records. -/
abbrev RecordCommit {τ : Type} (_ : τ) (_ : Answer) (L : List LockKey) (s s' : Store) : Prop :=
  RowsKept [] L s s'

/-- The rows `K` are locked, and they are unrevoked sessions. -/
structure Live (K L : List LockKey) (s : Store) : Prop where
  locked : ∀ key ∈ K, key ∈ L
  unrevoked : ∀ key ∈ K, ∃ x ∈ s.sessions.rows, key = .session x.id ∧ x.revoked_at = none

section Relying

variable {env : Env} {α : Type} {K L ks : List LockKey} {s : Store} {w : Store → Store}
  {J : Store → Prop} {clock : Clock}

theorem recordCommit_guarantees {τ : Type} :
    Guarantees recordRely (RecordCommit : τ → Answer → List LockKey → Store → Store → Prop) := by
  intro t ans L s s' h L' hdisjoint x hx
  obtain ⟨y, hy, hxy⟩ := h x hx
  exact ⟨y, hy, hxy.id, fun hlocked => hxy.unlocked (hdisjoint _ hlocked)⟩

theorem stable_live : Stable recordRely (Live K) where
  lock := fun ks h => ⟨fun key hkey => List.mem_append_right ks (h.locked key hkey), h.unrevoked⟩
  rely := by
    intro L s s' h hrely
    refine ⟨h.locked, fun key hkey => ?_⟩
    obtain ⟨x, hx, rfl, hlive⟩ := h.unrevoked key hkey
    obtain ⟨y, hy, -, hsame⟩ := hrely x hx
    obtain rfl := hsame (h.locked _ hkey)
    exact ⟨y, hy, rfl, hlive⟩

theorem live_nil : Live [] L s :=
  ⟨fun _ hkey => absurd hkey List.not_mem_nil, fun _ hkey => absurd hkey List.not_mem_nil⟩

/-- A part that keeps the records. -/
theorem ensures_keepsRecords {p : AuthTxn α} (h : KeepsRecords p) (hw : Writes K L w)
    (hs : Live K L s) :
    Ensures J recordRely (fun _ w' L' s' => Writes K L' w' ∧ Live K L' s') p w L s :=
  ensures_of_makesFrom (F := fun L w => Writes K L w) h
    (fun _ _ _ _ hg hw => hw.comp hg) stable_live hw hs

/-- The rows whose records were overwritten were unrevoked: nothing has been lost. -/
theorem atCommit_records {a : α} (hw : Writes K L w) (hs : Live K L s) :
    AtCommit J recordRely (fun _ L s s' => RowsKept [] L s s') a w L s := by
  intro s' _ hrely x hx
  obtain ⟨y, hy, hxy⟩ := hw s' x hx
  refine ⟨y, hy, hxy.id, hxy.unlocked, fun hrevoked _ => hxy.record hrevoked fun hK => ?_⟩
  obtain ⟨z, hz, hkey, hlive⟩ := (stable_live.rely hs hrely).unrevoked _ hK
  obtain rfl := session_unique hx hz (LockKey.session.inj hkey)
  rw [hlive] at hrevoked
  cases hrevoked

/-- An operation that keeps the records. -/
theorem ensures_records {p : AuthTxn α} (h : KeepsRecords p) :
    Ensures J recordRely (AtCommit J recordRely fun _ L s s' => RowsKept [] L s s') p id [] s := by
  refine (ensures_keepsRecords (K := []) h (writes_of_same fun _ => rfl) live_nil).mono ?_
  intro a w' L' s' hend
  exact atCommit_records hend.1 hend.2

/-- The rows a statement has found are there when it has their locks. -/
theorem live_of_found {p : Session → Bool} {s₁ s₂ : Store} (hw : ∀ s, (w s).sessions = s.sessions)
    (hrely : recordRely.allows L s₁ s₂)
    (hlive : ∀ y ∈ (w s₂).sessions.rows, LockKey.session y.id ∈ sessionsWhere p (w s₁) →
      y.revoked_at = none) :
    Live (sessionsWhere p (w s₁)) (sessionsWhere p (w s₁) ++ L) s₂ := by
  refine ⟨fun key hkey => List.mem_append_left L hkey, fun key hkey => ?_⟩
  obtain ⟨x, hx, rfl⟩ := List.mem_map.mp hkey
  have hx₁ := (List.mem_filter.mp hx).1
  rw [hw s₁] at hx₁
  obtain ⟨y, hy, hid, -⟩ := hrely x hx₁
  refine ⟨y, hy, congrArg LockKey.session hid.symm, hlive y ?_ ?_⟩
  · rw [hw s₂]
    exact hy
  · rw [hid]
    exact hkey

/-- An update of live rows, by whatever condition they were found. -/
theorem ensures_updateLive {p : Session → Bool} {f : Session → Session} (hf : KeepsSessionKeys f)
    (hw : ∀ s, (w s).sessions = s.sessions) {s₁ s₂ : Store} (hrely : recordRely.allows L s₁ s₂)
    (hlive : ∀ y ∈ (w s₂).sessions.rows, LockKey.session y.id ∈ sessionsWhere p (w s₁) →
      y.revoked_at = none) :
    Writes (sessionsWhere p (w s₁)) (sessionsWhere p (w s₁) ++ L)
        ((fun s => s.setSessions (foundSession (sessionsWhere p (w s₁)) p) f) ∘ w) ∧
      Live (sessionsWhere p (w s₁)) (sessionsWhere p (w s₁) ++ L) s₂ := by
  refine ⟨?_, live_of_found hw hrely hlive⟩
  have hwrites := (writes_of_same (K := []) (L := L) hw).comp
    (writes_update (K := sessionsWhere p (w s₁)) (p := p) hf fun _ hmem _ _ hnot =>
      absurd hmem hnot)
  rwa [List.append_nil] at hwrites

-- ── The two updates without a guard ───────────────────────────────────────────────

/-- **The expiry of a session.** It was unrevoked when it was locked. -/
theorem ensures_resolveSession_records {token : Str} :
    Ensures J recordRely (AtCommit J recordRely fun _ L s s' => RowsKept [] L s s')
      (resolveSession env.settings env.crypto clock token) id [] s := by
  have hread : ∀ {L : List LockKey}, Writes [] L (id ∘ id) := writes_of_same fun _ => rfl
  refine ensures_withPool (ensures_bind.mpr (ensures_query fun s₁ _ _ s₂ _ _ r hr => ?_))
  cases hr
  dsimp only
  split
  · exact atCommit_records hread live_nil
  · rename_i x a hrow
    obtain ⟨y, hfind, hjoin⟩ := Option.bind_eq_some_iff.mp hrow
    obtain ⟨a', -, heq⟩ := Option.map_eq_some_iff.mp hjoin
    cases heq
    have hx : x ∈ s₂.sessions.rows := List.mem_of_find?_eq_some hfind
    have hfound := List.find?_some hfind
    rw [foundSession] at hfound
    obtain ⟨hks, htoken⟩ := Bool.and_eq_true_iff.mp hfound
    have hlocked := List.contains_iff_mem.mp hks
    have hlive : x.revoked_at = none :=
      Option.isNone_iff_eq_none.mp (Bool.and_eq_true_iff.mp htoken).2
    split
    · exact atCommit_records hread live_nil
    · split
      · refine ensures_bind.mpr (ensures_query fun s₃ _ h₃ s₄ _ h₄ r hr => ?_)
        cases hr
        have hkeeps : KeepsSessionKeys (revoke clock.utcnow (str "EXPIRED")) := revoke_keeps
        have hend :=
          ensures_updateLive (w := id ∘ id) (p := sessionById x.id) hkeeps (fun _ => rfl) h₄ ?_
        · exact atCommit_records hend.1 hend.2
        · intro z hz hkey
          -- the row found is the one that is locked, and that is still as it was read
          obtain ⟨u, hu, hsame⟩ := List.mem_map.mp hkey
          have hid : u.id = x.id := of_decide_eq_true (List.mem_filter.mp hu).2
          have hstay := recordRely.trans h₃ h₄
          obtain ⟨x', hx', -, heq⟩ := hstay x hx
          obtain rfl := heq (List.mem_append_left _ hlocked)
          obtain rfl := session_unique hz hx' ((LockKey.session.inj hsame).symm.trans hid)
          exact hlive
      · refine (ensures_keepsRecords ?_ hread live_nil).bind fun _ _ _ _ hend =>
          atCommit_records hend.1 hend.2
        rw [recordActivity]
        split
        · exact keepsRecords_touch.bind fun _ => makesFrom_ret _
        · exact makesFrom_ret _

end Relying

-- ── The login ─────────────────────────────────────────────────────────────────────

/-- The key of the row of a session. -/
def isSessionKey : LockKey → Bool
  | .session _ => true
  | _ => false

/-- A statement that has found rows of sessions and nothing else sees none of them revoked. -/
def seesLive (ks : List LockKey) (v : Store) : Bool :=
  !ks.all isSessionKey ||
    v.sessions.rows.all fun x => !ks.contains (.session x.id) || x.revoked_at.isNone

/-- The test of an operation.  A login finds sessions when it evicts them; the others are not
    tested. -/
def evictsLive : Op → List LockKey → Store → Bool
  | .authenticate .. => seesLive
  | _ => fun _ _ => true

section Login

variable {env : Env} {α : Type} {L ks : List LockKey} {s : Store} {w : Store → Store}
  {J : Store → Prop} {e : AuthError} {clock : Clock} {draw : LoginDraw} {scan : Scan Session}
  {username password client_ip : Str} {user_agent client_key : Option Str}

theorem unrevoked_of_seesLive {p : Session → Bool} {v v' : Store}
    (h : seesLive (sessionsWhere p v) v' = true) :
    ∀ y ∈ v'.sessions.rows, LockKey.session y.id ∈ sessionsWhere p v → y.revoked_at = none := by
  have hkeys : (sessionsWhere p v).all isSessionKey = true := by
    rw [sessionsWhere, List.all_map, List.all_eq_true]
    exact fun _ _ => rfl
  rw [seesLive, hkeys, Bool.not_true, Bool.false_or, List.all_eq_true] at h
  intro y hy hkey
  have hlive := h y hy
  rw [List.contains_iff_mem.mpr hkey, Bool.not_true, Bool.false_or] at hlive
  exact Option.isNone_iff_eq_none.mp hlive

/-- At the end of a login: the records it may have overwritten are of live sessions. -/
def LoginDone (w : Store → Store) (L : List LockKey) (s : Store) : Prop :=
  ∃ K, Writes K L w ∧ Live K L s

/-- A part that writes no session. -/
theorem ensures_leaves_checked {p : AuthTxn α} (h : LeavesSessions p)
    (hw : ∀ s, (w s).sessions = s.sessions) :
    Ensures J recordRely (fun _ w' _ _ => ∀ s, (w' s).sessions = s.sessions)
      (checked seesLive e p) w L s := by
  refine (ensures_of_always ((Makes.checked h).always ?_ hw)).mono fun _ _ _ _ hend => hend.2
  intro g w hg hw s
  exact (hg (w s)).trans (hw s)

/-- A part at the end that keeps the records. -/
theorem loginDone_of_keeps {p : AuthTxn α} (h : KeepsRecords p) (hdone : LoginDone w L s) :
    Ensures J recordRely (fun _ => LoginDone) (checked seesLive e p) w L s := by
  obtain ⟨K, hw, hs⟩ := hdone
  exact (ensures_keepsRecords (MakesFrom.checked h) hw hs).mono fun _ _ _ _ hend => ⟨K, hend⟩

theorem loginDone_of_same (hw : ∀ s, (w s).sessions = s.sessions) : LoginDone w L s :=
  ⟨[], writes_of_same hw, live_nil⟩

/-- **The eviction**: its test says that it overwrites no record. -/
theorem ensures_evictOldest_records {sessions : List Session}
    (hw : ∀ s, (w s).sessions = s.sessions) :
    Ensures J recordRely (fun _ => LoginDone)
      (checked seesLive e (evictOldest env.settings clock sessions)) w L s := by
  rw [evictOldest]
  split
  · exact loginDone_of_same hw
  · refine ensures_checked_bind (ensures_checked_query fun s₁ _ _ s₂ _ h₂ hG r hr => ?_)
      fun _ _ _ _ hend => hend
    cases hr
    exact ⟨_, ensures_updateLive revoke_keeps hw h₂ (unrevoked_of_seesLive hG)⟩

theorem keepsRecords_insertSession (row : Session) : KeepsRecords (insertSession row) := by
  refine makesFrom_query (fun _ => writes_of_same fun _ => rfl) fun ks v r hr => ?_
  split at hr
  · cases hr
  · split at hr
    · cases hr
      exact writes_insert
    · cases hr

theorem leaves_selectSessions (p : Session → Bool) : LeavesSessions (selectSessions scan p) := by
  refine leaves_query fun ks v r hr s => ?_
  cases hr
  rfl

theorem ensures_loginSucceeds_records {user : Account} (hw : ∀ s, (w s).sessions = s.sessions) :
    Ensures J recordRely (fun _ => LoginDone) (checked seesLive e
      (loginSucceeds env.py env.settings env.crypto clock draw scan client_key
        user_agent password user))
      w L s := by
  refine ensures_checked_bind (ensures_leaves_checked leaves_updateAccounts hw)
    fun _ _ _ _ hw₁ => ?_
  refine ensures_checked_bind (ensures_leaves_checked (leaves_selectSessions _) hw₁)
    fun _ _ _ _ hw₂ => ?_
  refine ensures_checked_bind (ensures_evictOldest_records hw₂) fun _ _ _ _ hdone => ?_
  exact loginDone_of_keeps ((keepsRecords_insertSession _).bind fun _ =>
    (keepsRecords_addAuthEvent _).bind fun _ => makesFrom_ret _) hdone

theorem ensures_loginKnown_records {found : Account} (hw : ∀ s, (w s).sessions = s.sessions) :
    Ensures J recordRely (fun _ => LoginDone) (checked seesLive e
      (loginKnown env.py env.settings env.crypto clock draw scan client_key
        user_agent password found))
      w L s := by
  refine ensures_checked_bind (ensures_leaves_checked leaves_autoUnlock hw) fun _ _ _ _ hw₁ => ?_
  dsimp only
  split
  · exact loginDone_of_keeps ((keepsRecords_addAuthEvent _).bind fun _ => makesFrom_ret _)
      (loginDone_of_same hw₁)
  · refine ensures_checked_bind (ensures_leaves_checked (leaves_verify _ _ _) hw₁)
      fun matched _ _ _ hw₂ => ?_
    cases matched with
    | true => exact ensures_loginSucceeds_records hw₂
    | false =>
        exact loginDone_of_keeps ((keepsRecords_of_leaves leaves_updateAccounts).bind fun _ =>
          (keepsRecords_addAuthEvent _).bind fun _ => makesFrom_ret _) (loginDone_of_same hw₂)

/-- **A login that evicts live sessions only**, whatever runs between its statements. -/
theorem ensures_authenticate_records :
    Ensures J recordRely (fun _ => LoginDone) (checked seesLive e
      (authenticate env.py env.settings env.crypto clock draw scan username password
        client_ip user_agent))
      id L s := by
  refine withPool_rule
    (P := fun q => Ensures J recordRely (fun _ => LoginDone) (checked seesLive e q) id L s)
    ?_ trivial
  refine ensures_checked_bind
    (ensures_leaves_checked (leaves_selectAccountForUpdate _) fun _ => rfl)
    fun found _ _ _ hw => ?_
  cases found with
  | none =>
      exact loginDone_of_keeps ((keepsRecords_of_leaves (leaves_verify _ _ _)).bind fun _ =>
        (keepsRecords_addAuthEvent _).bind fun _ => makesFrom_ret _) (loginDone_of_same hw)
  | some found => exact ensures_loginKnown_records hw

end Login

-- ── Runs ──────────────────────────────────────────────────────────────────────────

section Runs

variable {τ : Type} [DecidableEq τ] {env : Env} {ops : τ → Op} {s : Store} {db db' : OpDb τ}
  {acts acts' : List (Act τ)}

/-- Every operation keeps the records, a login if its eviction passes the test. -/
theorem ensures_op_records (env : Env) (op : Op) {J : Store → Prop} {e : AuthError} :
    Ensures J recordRely (AtCommit J recordRely fun _ L s s' => RowsKept [] L s s')
      (checked (evictsLive op) e (op.prog env)) id [] s := by
  cases op with
  | authenticate =>
      refine ensures_checked_bind ensures_authenticate_records fun _ _ _ _ hdone => ?_
      obtain ⟨K, hw, hs⟩ := hdone
      exact atCommit_records hw hs
  | resolveSession =>
      refine Ensures.checked (ensures_resolveSession_records.bind fun _ _ _ _ hend => ?_)
      exact hend
  | revokeSession =>
      exact (ensures_records (keepsRecords_answering keepsRecords_revokeSession)).checked
  | changePassword =>
      exact (ensures_records (keepsRecords_answering keepsRecords_changePassword)).checked
  | createUser => exact (ensures_records (keepsRecords_answering keepsRecords_createUser)).checked
  | createAdmin => exact (ensures_records (keepsRecords_answering keepsRecords_createAdmin)).checked
  | updateUser => exact (ensures_records (keepsRecords_answering keepsRecords_updateUser)).checked
  | unlockUser => exact (ensures_records (keepsRecords_answering keepsRecords_unlockUser)).checked
  | resetPassword =>
      exact (ensures_records (keepsRecords_answering keepsRecords_resetPassword)).checked
  | revokeUserSessions =>
      exact (ensures_records (keepsRecords_answering keepsRecords_revokeUserSessions)).checked

/-- A schedule in which every login that finishes its eviction sees none of the sessions it has
    found revoked. -/
abbrev EvictsLive (ops : τ → Op) (db : OpDb τ) (act : Act τ) : Prop :=
  passes (fun t => evictsLive (ops t)) db act = true

/-- **A revocation record is written once**, in every interleaving in which no login evicts a
    session that it sees revoked. -/
theorem records_kept_while
    (hrun : Run (Restrict Step (EvictsLive ops)) (initial (fun t => (ops t).prog env) s) acts db)
    (hlater : Run (Restrict Step (EvictsLive ops)) db acts' db') :
    RecordsKept db.store db'.store :=
  related_within (Q := RecordCommit) AuthError.runtimeError recordCommit_guarantees RecordsKept.refl
    (fun _ _ _ => RecordsKept.trans) (fun _ _ _ _ _ => RowsKept.recordsKept)
    (fun t => ensures_op_records env (ops t)) hrun hlater

end Runs

-- ── Two runs of the operations ────────────────────────────────────────────────────

/-- One administrator with one session. -/
def oneSessionStore : Store :=
  performAll .oneSession
    (sampleStart.take 1 ++ [sampleLogin 1 (str "root") (str "correct horse battery")]) .empty

/-- A logout, and a login in a deployment that allows one session. -/
def logoutAndLogin : Bool → Op
  | true => .revokeSession ⟨3, 3, 3⟩ 7 1 (str "LOGOUT")
  | false => .authenticate ⟨2, 2, 2⟩ ⟨str "later", str "csrf", 8, []⟩ .asInserted (str "root")
      (str "correct horse battery") (str "192.0.2.7") none

/-- Both at their start, with the session of the logout. -/
def logoutAndLoginStart : OpDb Bool :=
  initial (fun t => (logoutAndLogin t).prog .oneSession) oneSessionStore

/-- The login, up to the end of the SELECT of its user's sessions. -/
def loginReads : List (Act Bool) :=
  [.begin false, .finish false, .emit false, .begin false, .finish false, .begin false,
    .finish false]

/-- The login from the update of these sessions on. -/
def loginEvicts : List (Act Bool) :=
  [.begin false, .finish false, .begin false, .finish false, .emit false, .begin false,
    .finish false, .commit false]

def logoutRuns : List (Act Bool) :=
  [.begin true, .finish true, .emit true, .begin true, .finish true, .commit true]

/-- The general result on a login that evicts the session before its logout. -/
theorem eviction_before_logout :
    ∃ db db' : OpDb Bool,
      Run (Restrict Step (EvictsLive logoutAndLogin)) logoutAndLoginStart
          (loginReads ++ loginEvicts) db ∧
        Run (Restrict Step (EvictsLive logoutAndLogin)) db logoutRuns db' ∧
          RecordsKept db.store db'.store := by
  have hexec : (exec (nextWhere (EvictsLive logoutAndLogin)) logoutAndLoginStart
      (loginReads ++ loginEvicts)).any (fun db =>
        (exec (nextWhere (EvictsLive logoutAndLogin)) db logoutRuns).isSome) = true := by
    decide +kernel
  obtain ⟨db, hdb, hexec⟩ := (Option.any_eq_true _ _).mp hexec
  obtain ⟨db', hdb'⟩ := Option.isSome_iff_exists.mp hexec
  exact ⟨db, db', run_of_exec_where hdb, run_of_exec_where hdb',
    records_kept_while (run_of_exec_where hdb) (run_of_exec_where hdb')⟩

/-- The session is asked for at the moment its idle time is up, the login is an instant older. -/
def expiryAndLogin : Bool → Op
  | true => sampleResolve (1 + minutes 30)
  | false => .authenticate ⟨minutes 30, minutes 30, minutes 30⟩ ⟨str "later", str "csrf", 8, []⟩
      .asInserted (str "root") (str "correct horse battery") (str "192.0.2.7") none

/-- Both at their start. -/
def expiryAndLoginStart : OpDb Bool :=
  initial (fun t => (expiryAndLogin t).prog .oneSession) oneSessionStore

def expiryRuns : List (Act Bool) :=
  [.begin true, .finish true, .begin true, .finish true, .commit true]

/-- **A login overwrites an expiry.** The session is revoked after the login has read it and before
    it has its lock: the reason `EXPIRED` becomes `MAX_SESSIONS`, and the time goes back.  In this
    run nobody holds an account that the rows of the other refer to. -/
theorem login_overwrites_expiry :
    ¬ ∀ (env : Env) (ops : Bool → Op) (s : Store) (acts acts' : List (Act Bool))
        (db db' : OpDb Bool),
      Run (Restrict Step fun db _ => RefsFree addedRefs db)
          (initial (fun t => (ops t).prog env) s) acts db →
        Run (Restrict Step fun db _ => RefsFree addedRefs db) db acts' db' →
          RecordsKept db.store db'.store := by
  intro h
  have hexec : (exec (nextWhere fun db _ => RefsFree addedRefs db) expiryAndLoginStart
      (loginReads ++ expiryRuns)).any (fun db =>
        (exec (nextWhere fun db _ => RefsFree addedRefs db) db loginEvicts).any fun db' =>
          decide (¬ RecordsKept db.store db'.store)) = true := by
    decide +kernel
  obtain ⟨db, hdb, hexec⟩ := (Option.any_eq_true _ _).mp hexec
  obtain ⟨db', hdb', hlost⟩ := (Option.any_eq_true _ _).mp hexec
  exact of_decide_eq_true hlost
    (h _ _ _ _ _ db db' (run_of_exec_where hdb) (run_of_exec_where hdb'))

end NetProbeRevocationRecord
