import NetProbe.PasswordFlagProofs

/-!
# The cap on the sessions of a user

A login counts the unrevoked sessions of its user, revokes the oldest of them and inserts its
own, while other logins, logouts and revocations run between its statements.  What keeps the
count right is the lock on the account that its first statement takes: as long as it is held,
no session of that user is added, and sessions are never deleted (`capRely`).  So the rows the
login has read are still there when it revokes some of them, every unrevoked session of the
user is one of them when it commits, and its own session is new.

`session_cap` is the induction on the run, with the count as its invariant, and says of every
login that commits which sessions it has revoked.
-/

namespace NetProbeAccountRuns

open NetProbePyText NetProbeConfig NetProbeCoreAuth NetProbeAccountStore NetProbeAuthService
open NetProbeAdminUsers UniqueTable Transaction Transaction.Txn LabelledRun ReadCommitted

-- ── Sessions before and after a change ────────────────────────────────────────────

/-- The sessions of a user that are not revoked. -/
def unrevokedSessions (user_id : Uuid) (s : Store) : List Session :=
  s.sessions.rows.filter (unrevokedOf user_id)

/-- Every session was there before, or is new. -/
def SessionsBack (new : Session → Prop) (s s' : Store) : Prop :=
  ∀ y ∈ s'.sessions.rows, (∃ x ∈ s.sessions.rows, Later True x y) ∨ new y

/-- The row of a session, its token and its user are locked. -/
def LockedRow (L : List LockKey) (y : Session) : Prop :=
  LockKey.session y.id ∈ L ∧ LockKey.sessionToken y.token_hash ∈ L ∧ LockKey.account y.user_id ∈ L

/-- Neither the row of a session nor its token nor its user is locked. -/
def UnlockedRow (L : List LockKey) (y : Session) : Prop :=
  LockKey.session y.id ∉ L ∧ LockKey.sessionToken y.token_hash ∉ L ∧ LockKey.account y.user_id ∉ L

section Sessions

variable {env : Env} {op : Op} {new new' : Session → Prop} {s s' s'' : Store} {u : Uuid}
  {L : List LockKey} {x y : Session}

theorem SessionsBack.refl (s : Store) : SessionsBack new s s := fun y hy => Or.inl ⟨y, hy, .refl y⟩

theorem SessionsBack.trans (h : SessionsBack new s s') (h' : SessionsBack new s' s'')
    (hnew : ∀ y z, new y → Later True y z → new z) : SessionsBack new s s'' := by
  intro z hz
  rcases h' z hz with ⟨y, hy, hyz⟩ | hz
  · rcases h y hy with ⟨x, hx, hxy⟩ | hy
    · exact Or.inl ⟨x, hx, hxy.trans hyz⟩
    · exact Or.inr (hnew y z hy hyz)
  · exact Or.inr hz

theorem SessionsBack.mono (h : SessionsBack new s s') (hnew : ∀ y, new y → new' y) :
    SessionsBack new' s s' := fun y hy => (h y hy).imp_right (hnew y)

theorem UnlockedRow.later (h : UnlockedRow L x) (hxy : Later True x y) : UnlockedRow L y := by
  rw [UnlockedRow]
  rw [hxy.id, hxy.token_hash, hxy.user_id]
  exact h

theorem Later.unrevoked (h : Later True x y) (hy : unrevokedOf u y = true) :
    unrevokedOf u x = true := by
  rw [unrevokedOf] at hy ⊢
  rw [Bool.and_eq_true_iff, Option.isNone_iff_eq_none] at hy
  rw [Bool.and_eq_true_iff, Option.isNone_iff_eq_none]
  refine ⟨by rw [← h.user_id]; exact hy.1, ?_⟩
  by_contra hne
  have hrevoked := h.revoked (Option.isSome_iff_ne_none.mpr hne)
  rw [hy.2] at hrevoked
  cases hrevoked

theorem sessionsBack_set {p : Session → Bool} {f : Session → Session} (hkeeps : KeepsSessionKeys f)
    (hf : ∀ x, Later True x (f x)) : SessionsBack new s (s.setSessions p f) := by
  intro y hy
  obtain ⟨x, hx, rfl⟩ := (mem_setSessions hkeeps).mp hy
  refine Or.inl ⟨x, hx, ?_⟩
  split
  · exact hf x
  · exact .refl x

/-- A change of an operation that is no login adds no session. -/
theorem Change.sessionsBack {g : Store → Store} (h : Change env op g)
    (hop : ∀ clock draw scan username password client_ip user_agent,
      op ≠ .authenticate clock draw scan username password client_ip user_agent) (s : Store) :
    SessionsBack (fun _ => False) s (g s) := by
  cases h with
  | same | audit | history | account | insert => exact .refl s
  | revoke p time reason => exact sessionsBack_set revoke_keeps fun x => later_revoke x
  | touch p => exact sessionsBack_set touch_keeps fun x => later_touch x trivial
  | session user => exact (hop _ _ _ _ _ _ _ rfl).elim

-- ── Counting ──────────────────────────────────────────────────────────────────────

theorem mem_unrevokedSessions :
    x ∈ unrevokedSessions u s ↔ x ∈ s.sessions.rows ∧ unrevokedOf u x = true := List.mem_filter

/-- Different unrevoked sessions have different ids. -/
theorem nodup_unrevoked_ids : ((unrevokedSessions u s).map (·.id)).Nodup := by
  refine List.pairwise_map.mpr ((s.sessions.distinct.filter _).imp ?_)
  intro x y hclash hid
  simp [sessionClash, hid] at hclash

/-- The unrevoked sessions are counted by the ids they can have. -/
theorem length_unrevoked_le {ids : List Uuid} (h : ∀ x ∈ unrevokedSessions u s, x.id ∈ ids) :
    (unrevokedSessions u s).length ≤ ids.length := by
  have hsub : (unrevokedSessions u s).map (·.id) ⊆ ids := by
    intro i hi
    obtain ⟨x, hx, rfl⟩ := List.mem_map.mp hi
    exact h x hx
  have hle := (List.subperm_of_subset nodup_unrevoked_ids hsub).length_le
  rwa [List.length_map] at hle

/-- Without new sessions of the user there are not more unrevoked ones. -/
theorem SessionsBack.length_le (h : SessionsBack new s s') (hnew : ∀ y, new y → y.user_id ≠ u) :
    (unrevokedSessions u s').length ≤ (unrevokedSessions u s).length := by
  have hmem : ∀ y ∈ unrevokedSessions u s', y.id ∈ (unrevokedSessions u s).map (·.id) := by
    intro y hy
    obtain ⟨hy, hunrevoked⟩ := mem_unrevokedSessions.mp hy
    rcases h y hy with ⟨x, hx, hxy⟩ | hy'
    · rw [hxy.id]
      exact List.mem_map_of_mem (mem_unrevokedSessions.mpr ⟨hx, hxy.unrevoked hunrevoked⟩)
    · rw [unrevokedOf] at hunrevoked
      exact absurd (of_decide_eq_true (Bool.and_eq_true_iff.mp hunrevoked).1) (hnew y hy')
  have hle := length_unrevoked_le hmem
  rwa [List.length_map] at hle

end Sessions

-- ── What an operation may rely on, and what it guarantees ─────────────────────────

/-- Sessions stay, and nobody else adds one whose row, token or user is locked. -/
def capRely : Rely LockKey Store where
  allows L s s' := SessionsLater True s s' ∧ SessionsBack (UnlockedRow L) s s'
  refl := fun _ s => ⟨.refl s, .refl s⟩
  trans := fun h h' => ⟨h.1.trans h'.1, h.2.trans h'.2 fun _ _ => UnlockedRow.later⟩

/-- The sessions a login revokes and the one it adds when it commits: `old` and `rest` are what
    it has read on the store `m`, in the order of creation. -/
structure Eviction (env : Env) (clock : Clock) (scan : Scan Session) (r : LoginResult) (m : Store)
    (old rest : List Session) (new : Session) (s s' : Store) : Prop where
  read : orderBy scan (·.created_at) (unrevokedSessions r.context.user_id m) = old ++ rest
  count : (old.length : Int) =
    max 0 ((old ++ rest).length - env.settings.max_sessions_per_user + 1)
  oldest : ∀ x ∈ old, ∀ y ∈ rest, x.created_at ≤ y.created_at
  present : ∀ x ∈ old, ∃ y ∈ s.sessions.rows, y.id = x.id
  current : ∀ x ∈ unrevokedSessions r.context.user_id s, ∃ y ∈ old ++ rest, y.id = x.id
  rows : s'.sessions.rows =
    updateWhere (fun x => (old.map (·.id)).contains x.id) (revoke clock.utcnow (str "MAX_SESSIONS"))
      s.sessions.rows ++ [new]
  id : new.id = r.context.session_id
  user_id : new.user_id = r.context.user_id
  revoked_at : new.revoked_at = none
  fresh : ∀ x ∈ old ++ rest, x.id ≠ new.id

/-- A login that returns `r` revokes the oldest of the sessions it has read. -/
def EvictsOldest (env : Env) (J : Store → Prop) (op : Op) (r : LoginResult) (s s' : Store) : Prop :=
  ∃ clock draw scan username password client_ip user_agent m old rest new,
    op = .authenticate clock draw scan username password client_ip user_agent ∧ J m ∧
      Eviction env clock scan r m old rest new s s'

/-- What a commit does to the sessions, with the locks `L`. -/
structure SessionCommit (env : Env) (J : Store → Prop) (op : Op) (ans : Answer) (L : List LockKey)
    (s s' : Store) : Prop where
  later : SessionsLater True s s'
  back : SessionsBack (LockedRow L) s s'
  cap : ∀ u, (unrevokedSessions u s').length ≤ (unrevokedSessions u s).length ∨
    ((unrevokedSessions u s').length : Int) ≤ env.settings.max_sessions_per_user
  login : ∀ r, ans = .login (some r) → EvictsOldest env J op r s s'

/-- A login has read these unrevoked sessions of its user, and holds the lock of the account. -/
structure Reading (user_id : Uuid) (sessions : List Session) (L : List LockKey) (s : Store) :
    Prop where
  locked : LockKey.account user_id ∈ L
  present : ∀ x ∈ sessions, ∃ y ∈ s.sessions.rows, y.id = x.id
  current : ∀ x ∈ unrevokedSessions user_id s, ∃ y ∈ sessions, y.id = x.id

/-- A login holds the locks of its new session, and no committed session clashes with it. -/
structure Inserting (new : Session) (L : List LockKey) (s : Store) : Prop where
  row : LockKey.session new.id ∈ L
  token : LockKey.sessionToken new.token_hash ∈ L
  fresh : ∀ x ∈ s.sessions.rows, sessionClash x new = false

section Relying

variable {env : Env} {op : Op} {ans : Answer} {u : Uuid} {J : Store → Prop} {w : Store → Store}
  {L : List LockKey} {s : Store} {sessions : List Session} {new : Session}

theorem sessionCommit_guarantees (env : Env) {τ : Type} (J : τ → Store → Prop) (ops : τ → Op) :
    Guarantees capRely fun t => SessionCommit env (J t) (ops t) := by
  intro t ans L s s' h L' hdisjoint
  refine ⟨h.later, h.back.mono fun y hy => ⟨fun hL' => ?_, fun hL' => ?_, fun hL' => ?_⟩⟩
  · exact hdisjoint _ hL' hy.1
  · exact hdisjoint _ hL' hy.2.1
  · exact hdisjoint _ hL' hy.2.2

theorem stable_reading : Stable capRely (Reading u sessions) where
  lock := fun ks h => ⟨List.mem_append_right ks h.locked, h.present, h.current⟩
  rely := by
    rintro L s s' h ⟨hlater, hback⟩
    refine ⟨h.locked, fun x hx => ?_, fun z hz => ?_⟩
    · obtain ⟨y, hy, hid⟩ := h.present x hx
      obtain ⟨z, hz, hyz⟩ := hlater y hy
      exact ⟨z, hz, hyz.id.trans hid⟩
    · obtain ⟨hz, hunrevoked⟩ := mem_unrevokedSessions.mp hz
      rcases hback z hz with ⟨y, hy, hyz⟩ | ⟨-, -, huser⟩
      · obtain ⟨x, hx, hid⟩ :=
          h.current y (mem_unrevokedSessions.mpr ⟨hy, hyz.unrevoked hunrevoked⟩)
        exact ⟨x, hx, hid.trans hyz.id.symm⟩
      · -- a new session of the user needs the lock of the account
        rw [unrevokedOf] at hunrevoked
        have hid : z.user_id = u := of_decide_eq_true (Bool.and_eq_true_iff.mp hunrevoked).1
        exact absurd (hid ▸ h.locked) huser

theorem stable_inserting : Stable capRely (Inserting new) where
  lock := fun ks h => ⟨List.mem_append_right ks h.row, List.mem_append_right ks h.token, h.fresh⟩
  rely := by
    rintro L s s' h ⟨-, hback⟩
    refine ⟨h.row, h.token, fun y hy => ?_⟩
    rcases hback y hy with ⟨x, hx, hxy⟩ | ⟨hrow, htoken, -⟩
    · have hclash := h.fresh x hx
      rw [sessionClash] at hclash ⊢
      rwa [hxy.id, hxy.token_hash]
    · by_contra hne
      have hclash : sessionClash y new = true := by simpa using hne
      rw [sessionClash] at hclash
      rcases Bool.or_eq_true_iff.mp hclash with hid | hhash
      · exact hrow (of_decide_eq_true hid ▸ h.row)
      · exact htoken (of_decide_eq_true hhash ▸ h.token)

-- ── Commits without a login ───────────────────────────────────────────────────────

/-- A commit that adds no session and is no login. -/
theorem atCommit_quiet (hans : ∀ r, ans ≠ .login (some r))
    (hw : ∀ s, SessionsLater True s (w s) ∧ SessionsBack (fun _ => False) s (w s)) :
    AtCommit J capRely (SessionCommit env J op) ans w L s := by
  intro s' _ _
  obtain ⟨hlater, hback⟩ := hw s'
  refine ⟨hlater, hback.mono fun _ h => h.elim, fun u => Or.inl ?_, fun r hr => absurd hr (hans r)⟩
  exact hback.length_le fun _ h => h.elim

/-- An operation other than a login. -/
theorem ensures_noLogin (hop : ∀ clock draw scan username password client_ip user_agent,
      op ≠ .authenticate clock draw scan username password client_ip user_agent) :
    Ensures J capRely (AtCommit J capRely (SessionCommit env J op)) (op.prog env) id L s := by
  have hans :
      Ensures J capRely (fun ans _ _ _ => ∀ r, ans ≠ .login (some r)) (op.prog env) id L s := by
    cases op with
    | authenticate => exact (hop _ _ _ _ _ _ _ rfl).elim
    | resolveSession | revokeSession | changePassword | createUser | createAdmin |
      updateUser | unlockUser
    | resetPassword | revokeUserSessions => exact ensures_true.bind fun _ _ _ _ _ r hr => nomatch hr
  have hkeeps :
      Keeps (fun w => ∀ s, SessionsLater True s (w s) ∧ SessionsBack (fun _ => False) s (w s))
      (op.prog env) := by
    refine (op_changes env op).keeps fun g w hg hw s => ?_
    obtain ⟨hlater, hback⟩ := hw s
    refine ⟨hlater.trans ?_, hback.trans (hg.sessionsBack hop (w s)) fun _ _ h => h.elim⟩
    intro x hx
    obtain ⟨y, hy, hxy⟩ := hg.sessionsLater (w s) x hx
    exact ⟨y, hy, hxy.mono fun _ => trivial⟩
  have halways := hkeeps id fun s => ⟨.refl s, .refl s⟩
  exact (hans.and (ensures_of_always halways)).mono fun _ _ _ _ h => atCommit_quiet h.1 h.2

-- ── The login ─────────────────────────────────────────────────────────────────────

/-- What a transaction has written does to the sessions what `base` does. -/
def WritesSessions (base w : Store → Store) : Prop := ∀ s, (w s).sessions = (base s).sessions

/-- The program leaves the sessions alone. -/
abbrev LeavesSessions {α : Type} (p : AuthTxn α) : Prop :=
  Makes (fun g => ∀ s, (g s).sessions = s.sessions) (fun _ => True) p

theorem leaves_updateAccounts {keys : List LockKey} {p : Account → Bool} {f : Account → Account} :
    LeavesSessions (updateAccounts keys p f) := by
  refine makes_query (fun _ => rfl) fun ks v r hr => ?_
  rw [changeAccounts] at hr
  split at hr
  · cases hr
    exact ⟨fun _ => rfl, trivial⟩
  · cases hr

theorem leaves_addAuthEvent {settings : Settings} {clock : Clock} {fields : AuditFields} :
    LeavesSessions (addAuthEvent settings clock fields) := by
  refine Makes.bind (R := fun _ => True) (makes_tell _ trivial) fun _ _ => ?_
  refine makes_query (fun _ => rfl) fun ks v r hr => ?_
  split at hr
  · cases hr
    exact ⟨fun _ => rfl, trivial⟩
  · cases hr

theorem leaves_autoUnlock {clock : Clock} {found : Account} :
    LeavesSessions (autoUnlock clock found) := by
  rw [autoUnlock]
  split
  · exact leaves_updateAccounts.bind fun _ _ => makes_ret trivial
  · exact makes_ret trivial

/-- A part of the login that leaves the sessions alone. -/
theorem ensures_leaves {α : Type} {p : AuthTxn α} {base : Store → Store}
    {I : List LockKey → Store → Prop} (h : LeavesSessions p) (hI : Stable capRely I)
    (hw : WritesSessions base w) (hs : I L s) :
    Ensures J capRely (fun _ w' L' s' => WritesSessions base w' ∧ I L' s') p w L s := by
  refine (ensures_of_makes (F := WritesSessions base) h ?_ hI hw hs).mono fun _ _ _ _ hend => hend.2
  intro g w hg hw s
  exact (hg (w s)).trans (hw s)

theorem mem_orderBy {scan : Scan Session} {key : Session → Time}
    {rows : List Session} {x : Session} :
    x ∈ orderBy scan key rows ↔ x ∈ rows := by
  rw [orderBy]
  rw [List.mem_insertionSort]
  exact (scan.perm rows).mem_iff

/-- The read of a login: the unrevoked sessions of its user on a store of the run. -/
theorem ensures_selectSessions {scan : Scan Session} (hw : WritesSessions id w)
    (hL : LockKey.account u ∈ L) :
    Ensures J capRely
      (fun sessions w' L' s' =>
        (∃ m, J m ∧ sessions = orderBy scan (·.created_at) (unrevokedSessions u m)) ∧
        WritesSessions id w' ∧ Reading u sessions L' s')
      (selectSessions scan (unrevokedOf u)) w L s := by
  refine ensures_query fun s₁ _ _ s₂ hs₂ _ r hr => ?_
  cases hr
  have hview : (w s₂).sessions.rows.filter (unrevokedOf u) = unrevokedSessions u s₂ := by
    rw [hw s₂]
    rfl
  rw [hview]
  refine ⟨⟨s₂, hs₂, rfl⟩, hw, List.mem_append_right _ hL, fun x hx => ?_, fun x hx => ?_⟩
  · exact ⟨x, (mem_unrevokedSessions.mp (mem_orderBy.mp hx)).1, rfl⟩
  · exact ⟨x, mem_orderBy.mpr hx, rfl⟩

/-- The store after the eviction of a login, as far as sessions go. -/
def afterEviction (settings : Settings) (clock : Clock) (sessions : List Session)
    (s : Store) : Store :=
  s.setSessions (fun x => (evicted settings sessions).contains x.id)
    (revoke clock.utcnow (str "MAX_SESSIONS"))

/-- A WHERE clause all of whose rows were found is the clause itself. -/
theorem foundSession_eq {ks : List LockKey} {p : Session → Bool}
    (h : ∀ x, p x = true → LockKey.session x.id ∈ ks) : foundSession ks p = p := by
  funext x
  rw [foundSession]
  cases hp : p x with
  | false => exact Bool.and_false _
  | true => simp [h x hp]

theorem mem_evicted {settings : Settings} {i : Uuid} (h : i ∈ evicted settings sessions) :
    ∃ x ∈ sessions, x.id = i := by
  obtain ⟨x, hx, hid⟩ := List.mem_map.mp h
  exact ⟨x, List.mem_of_mem_take hx, hid⟩

/-- The eviction finds every session that it is to revoke. -/
theorem ensures_evictOldest {clock : Clock} (hw : WritesSessions id w)
    (hs : Reading u sessions L s) :
    Ensures J capRely
      (fun _ w' L' s' => WritesSessions (afterEviction env.settings clock sessions) w' ∧
        Reading u sessions L' s')
      (evictOldest env.settings clock sessions) w L s := by
  rw [evictOldest]
  split
  · rename_i h0
    refine ⟨fun t => ?_, hs⟩
    rw [afterEviction]
    rw [setSessions_evict_none h0]
    exact hw t
  · refine Ensures.bind (ensures_query fun s₁ _ h₁ s₂ _ h₂ r hr => ?_) fun _ _ _ _ hend => hend
    cases hr
    have hs₁ := stable_reading.rely hs h₁
    refine ⟨fun t => ?_, stable_reading.lock _ (stable_reading.rely hs₁ h₂)⟩
    have hfound : foundSession
        (sessionsWhere (fun x => (evicted env.settings sessions).contains x.id) (w s₁))
        (fun x => (evicted env.settings sessions).contains x.id) =
          fun x => (evicted env.settings sessions).contains x.id := by
      refine foundSession_eq fun x hx => ?_
      obtain ⟨y, hy, hid⟩ := mem_evicted (List.contains_iff_mem.mp hx)
      obtain ⟨z, hz, hzid⟩ := hs₁.present y hy
      have hsame : z.id = x.id := hzid.trans hid
      rw [← hsame]
      refine List.mem_map.mpr ⟨z, List.mem_filter.mpr ⟨by rw [hw s₁]; exact hz, ?_⟩, rfl⟩
      rw [hsame]
      exact hx
    show ((w t).setSessions _ _).sessions = _
    rw [hfound]
    show (w t).sessions.alter _ = t.sessions.alter _
    rw [hw t]
    rfl

/-- No session that the store holds after the eviction clashes with a new one if none did before. -/
theorem fresh_afterEviction {settings : Settings} {clock : Clock} :
    (∀ x ∈ (afterEviction settings clock sessions s).sessions.rows, sessionClash x new = false) ↔
      ∀ x ∈ s.sessions.rows, sessionClash x new = false := by
  constructor
  · intro h x hx
    have hy := h _ ((mem_setSessions revoke_keeps).mpr ⟨x, hx, rfl⟩)
    split at hy
    · exact hy
    · exact hy
  · intro h y hy
    obtain ⟨x, hx, rfl⟩ := (mem_setSessions revoke_keeps).mp hy
    split
    · exact h x hx
    · exact h x hx

/-- The insertion of the session of a login. -/
theorem ensures_insertSession {clock : Clock}
    (hw : WritesSessions (afterEviction env.settings clock sessions) w)
    (hs : Reading u sessions L s) :
    Ensures J capRely
      (fun _ w' L' s' =>
        WritesSessions
          (fun s => (afterEviction env.settings clock sessions s).alterSessions (· ++ [new])) w' ∧
          Reading u sessions L' s' ∧ Inserting new L' s')
      (insertSession new) w L s := by
  refine ensures_query fun s₁ _ h₁ s₂ _ h₂ r hr => ?_
  split at hr
  · cases hr
  · split at hr
    · rename_i hacc
      cases hr
      refine
        ⟨fun t => ?_, stable_reading.lock _ (stable_reading.rely (stable_reading.rely hs h₁) h₂),
        by simp, by simp, ?_⟩
      · show (w t).sessions.alter _ = (afterEviction env.settings clock sessions t).sessions.alter _
        rw [hw t]
      · rw [hw s₂] at hacc
        exact fresh_afterEviction.mp (accepts_append_iff.mp hacc)
    · cases hr

-- ── The commit of a login ─────────────────────────────────────────────────────────

section Commit

variable {clock : Clock} {scan : Scan Session} {s' : Store} {p : Session → Bool}
  {time : Time} {reason : Str}

theorem rows_afterEviction (h : Inserting new L s) :
    ((afterEviction env.settings clock sessions s).alterSessions (· ++ [new])).sessions.rows =
      updateWhere (fun x => (evicted env.settings sessions).contains x.id)
        (revoke clock.utcnow (str "MAX_SESSIONS")) s.sessions.rows ++ [new] := by
  rw [Store.alterSessions_sessions,
    alter_rows (accepts_append_iff.mpr (fresh_afterEviction.mpr h.fresh))]
  rw [afterEviction]
  rw [setSessions_rows revoke_keeps]

theorem later_of_rows
    (h : s'.sessions.rows = updateWhere p (revoke time reason) s.sessions.rows ++ [new]) :
    SessionsLater True s s' := by
  intro x hx
  refine ⟨if p x then revoke time reason x else x, ?_, ?_⟩
  · rw [h]
    exact List.mem_append_left _ (mem_updateWhere.mpr ⟨x, hx, rfl⟩)
  · split
    · exact later_revoke x
    · exact .refl x

theorem back_of_rows
    (h : s'.sessions.rows = updateWhere p (revoke time reason) s.sessions.rows ++ [new]) :
    SessionsBack (· = new) s s' := by
  intro y hy
  rw [h] at hy
  rcases List.mem_append.mp hy with hold | hnew
  · obtain ⟨x, hx, rfl⟩ := mem_updateWhere.mp hold
    refine Or.inl ⟨x, hx, ?_⟩
    split
    · exact later_revoke x
    · exact .refl x
  · exact Or.inr (List.mem_singleton.mp hnew)

/-- The number of sessions a login revokes. -/
theorem length_evicted (hM : 1 ≤ env.settings.max_sessions_per_user) :
    ((sessions.take (excess env.settings sessions)).length : Int) =
      max 0 (sessions.length - env.settings.max_sessions_per_user + 1) := by
  rw [List.length_take]
  rw [excess]
  omega

/-- What is left of the sessions of the user are the read ones that are not evicted, and the new
    one. -/
theorem unrevoked_after_eviction (hread : Reading u sessions L s)
    (h : s'.sessions.rows = updateWhere (fun x => (evicted env.settings sessions).contains x.id)
      (revoke time reason) s.sessions.rows ++ [new]) {x : Session} (hx :
        x ∈ unrevokedSessions u s') :
    x.id ∈ new.id :: (sessions.drop (excess env.settings sessions)).map (·.id) := by
  obtain ⟨hx, hunrevoked⟩ := mem_unrevokedSessions.mp hx
  rw [h] at hx
  rcases List.mem_append.mp hx with hold | hnew
  · obtain ⟨y, hy, rfl⟩ := mem_updateWhere.mp hold
    split at hunrevoked
    · simp [unrevokedOf, revoke] at hunrevoked
    · rename_i hnot
      rw [if_neg hnot]
      obtain ⟨z, hz, hid⟩ := hread.current y (mem_unrevokedSessions.mpr ⟨hy, hunrevoked⟩)
      rw [← List.take_append_drop (excess env.settings sessions) sessions] at hz
      rcases List.mem_append.mp hz with hevicted | hrest
      · refine absurd (List.contains_iff_mem.mpr ?_) hnot
        exact List.mem_map.mpr ⟨z, hevicted, hid⟩
      · exact List.mem_cons_of_mem _ (List.mem_map.mpr ⟨z, hrest, hid⟩)
  · rw [List.mem_singleton.mp hnew]
    exact List.mem_cons_self ..

/-- **The count.** After the login its user has no more unrevoked sessions than allowed. -/
theorem cap_after_eviction (hM : 1 ≤ env.settings.max_sessions_per_user)
    (hread : Reading u sessions L s)
    (h : s'.sessions.rows = updateWhere (fun x => (evicted env.settings sessions).contains x.id)
      (revoke time reason) s.sessions.rows ++ [new]) :
    ((unrevokedSessions u s').length : Int) ≤ env.settings.max_sessions_per_user := by
  have hle := length_unrevoked_le fun x hx => unrevoked_after_eviction hread h hx
  rw [List.length_cons, List.length_map, List.length_drop] at hle
  rw [excess] at hle
  omega

/-- The oldest come first. -/
theorem oldest_first (scan : Scan Session) (rows : List Session) :
    (orderBy scan (·.created_at) rows).Pairwise fun x y => x.created_at ≤ y.created_at := by
  have htotal : Std.Total fun x y : Session => x.created_at ≤ y.created_at :=
    ⟨fun x y => Int.le_total x.created_at y.created_at⟩
  have htrans : IsTrans Session fun x y => x.created_at ≤ y.created_at :=
    ⟨fun x y z => Int.le_trans⟩
  exact List.pairwise_insertionSort _ _

end Commit

section Login

variable {clock : Clock} {draw : LoginDraw} {scan : Scan Session}
  {username password client_ip : Str}
  {user_agent client_key : Option Str}

/-- The sessions a login revokes, and its own. -/
theorem eviction_of_rows {r : LoginResult} {m s' : Store}
    (hM : 1 ≤ env.settings.max_sessions_per_user)
    (hsessions : sessions = orderBy scan (·.created_at) (unrevokedSessions u m))
    (hread : Reading u sessions L s) (hnew : Inserting new L s)
    (hrows : s'.sessions.rows = updateWhere (fun x => (evicted env.settings sessions).contains x.id)
      (revoke clock.utcnow (str "MAX_SESSIONS")) s.sessions.rows ++ [new])
    (hu : r.context.user_id = u) (hid : new.id = r.context.session_id)
    (huser : new.user_id = u) (hrevoked : new.revoked_at = none) :
    Eviction env clock scan r m (sessions.take (excess env.settings sessions))
      (sessions.drop (excess env.settings sessions)) new s s' where
  read := by rw [List.take_append_drop, hu, hsessions]
  count := by rw [List.take_append_drop, length_evicted hM]
  oldest := by
    have hsorted := oldest_first scan (unrevokedSessions u m)
    rw [← hsessions, ← List.take_append_drop (excess env.settings sessions) sessions] at hsorted
    exact (List.pairwise_append.mp hsorted).2.2
  present := fun x hx => hread.present x (List.mem_of_mem_take hx)
  current := by
    rw [List.take_append_drop, hu]
    exact hread.current
  rows := hrows
  id := hid
  user_id := huser.trans hu.symm
  revoked_at := hrevoked
  fresh := by
    intro x hx hxid
    rw [List.take_append_drop] at hx
    obtain ⟨y, hy, hyid⟩ := hread.present x hx
    have hclash := hnew.fresh y hy
    simp [sessionClash, hyid, hxid] at hclash

/-- A login that ends without a session has written none. -/
theorem atCommit_failed (hw : WritesSessions id w) :
    AtCommit J capRely (SessionCommit env J op) (.login none) w L s := by
  refine atCommit_quiet (fun r hr => nomatch hr) fun t =>
    ⟨fun x hx => ⟨x, ?_, .refl x⟩, fun y hy => ?_⟩
  · rw [hw t]
    exact hx
  · rw [hw t] at hy
    exact Or.inl ⟨y, hy, .refl y⟩

/-- A login that has revoked the oldest sessions it has read and inserted its own. -/
theorem atCommit_login {m : Store} {user : Account} (hM : 1 ≤ env.settings.max_sessions_per_user)
    (hop : op = .authenticate clock draw scan username password client_ip user_agent) (hm : J m)
    (hsessions : sessions = orderBy scan (·.created_at) (unrevokedSessions user.id m))
    (hnew : new = newSession env.py env.settings env.crypto clock draw client_key user_agent user)
    (hw : WritesSessions (fun s =>
      (afterEviction env.settings clock sessions s).alterSessions (· ++ [new])) w)
    (hread : Reading user.id sessions L s) (hins : Inserting new L s) :
    AtCommit J capRely (SessionCommit env J op)
      (.login (some ⟨contextOf user draw.session_id, draw.token, draw.csrf_token⟩)) w L s := by
  intro s' _ hrely
  have hread' := stable_reading.rely hread hrely
  have hins' := stable_inserting.rely hins hrely
  have hrows : (w s').sessions.rows = _ :=
    (congrArg Table.rows (hw s')).trans (rows_afterEviction hins')
  have huser : new.user_id = user.id := by rw [hnew]; rfl
  have hback := back_of_rows hrows
  refine ⟨later_of_rows hrows, hback.mono ?_, fun v => ?_, ?_⟩
  · rintro y rfl
    exact ⟨hins'.row, hins'.token, huser ▸ hread'.locked⟩
  · by_cases hv : v = user.id
    · subst hv
      exact Or.inr (cap_after_eviction hM hread' hrows)
    · refine Or.inl (hback.length_le ?_)
      rintro y rfl hy
      exact hv (hy.symm.trans huser)
  · rintro r hr
    cases hr
    exact ⟨clock, draw, scan, username, password, client_ip, user_agent, m, _, _, new, hop, hm,
      eviction_of_rows hM hsessions hread' hins' hrows rfl (by rw [hnew]; rfl) huser
        (by rw [hnew]; rfl)⟩

theorem ensures_loginSucceeds {user : Account} (hM : 1 ≤ env.settings.max_sessions_per_user)
    (hop : op = .authenticate clock draw scan username password client_ip user_agent)
    (hw : WritesSessions id w) (hL : LockKey.account user.id ∈ L) :
    Ensures J capRely (fun r => AtCommit J capRely (SessionCommit env J op) (.login r))
      (loginSucceeds env.py env.settings env.crypto clock draw scan client_key
        user_agent password user)
      w L s := by
  refine (ensures_leaves leaves_updateAccounts stable_lock hw hL).bind ?_
  rintro _ w₁ L₁ s₁ ⟨hw₁, hL₁⟩
  refine (ensures_selectSessions hw₁ hL₁).bind ?_
  rintro sessions w₂ L₂ s₂ ⟨⟨m, hm, hsessions⟩, hw₂, hread₂⟩
  refine (ensures_evictOldest hw₂ hread₂).bind ?_
  rintro _ w₃ L₃ s₃ ⟨hw₃, hread₃⟩
  refine (ensures_insertSession hw₃ hread₃).bind ?_
  rintro _ w₄ L₄ s₄ ⟨hw₄, hread₄, hins₄⟩
  refine (ensures_leaves leaves_addAuthEvent (stable_reading.and stable_inserting) hw₄
    ⟨hread₄, hins₄⟩).bind ?_
  rintro _ w₅ L₅ s₅ ⟨hw₅, hread₅, hins₅⟩
  exact atCommit_login hM hop hm hsessions rfl hw₅ hread₅ hins₅

/-- An ending of the login without a session. -/
theorem ensures_loginFailed {α : Type} {p : AuthTxn α} (h : LeavesSessions p)
    (hw : WritesSessions id w) :
    Ensures J capRely (fun r => AtCommit J capRely (SessionCommit env J op) (.login r))
      (p.bind fun _ => .ret none) w L s := by
  refine (ensures_leaves (I := fun _ _ => True) h ⟨fun _ _ => trivial, fun _ _ => trivial⟩ hw
    trivial).bind ?_
  exact fun _ _ _ _ hend => atCommit_failed hend.1

theorem ensures_loginKnown {found : Account} (hM : 1 ≤ env.settings.max_sessions_per_user)
    (hop : op = .authenticate clock draw scan username password client_ip user_agent)
    (hw : WritesSessions id w) (hL : LockKey.account found.id ∈ L) :
    Ensures J capRely (fun r => AtCommit J capRely (SessionCommit env J op) (.login r))
      (loginKnown env.py env.settings env.crypto clock draw scan client_key
        user_agent password found)
      w L s := by
  refine (ensures_leaves leaves_autoUnlock stable_lock hw hL).bind ?_
  rintro _ w₁ L₁ s₁ ⟨hw₁, hL₁⟩
  have hid : (currentUser clock.utcnow found).id = found.id := currentUser_id _ _
  dsimp only
  split
  · exact ensures_loginFailed leaves_addAuthEvent hw₁
  · refine ensures_bind.mpr (ensures_verify fun matched => ?_)
    cases matched with
    | true => exact ensures_loginSucceeds hM hop hw₁ (hid.symm ▸ hL₁)
    | false =>
        refine (ensures_leaves leaves_updateAccounts stable_lock hw₁ hL₁).bind ?_
        exact fun _ _ _ _ hend => ensures_loginFailed leaves_addAuthEvent hend.1

/-- **A login**, whatever runs between its statements. -/
theorem ensures_authenticate (hM : 1 ≤ env.settings.max_sessions_per_user)
    (hop : op = .authenticate clock draw scan username password client_ip user_agent) :
    Ensures J capRely (fun r => AtCommit J capRely (SessionCommit env J op) (.login r))
      (authenticate env.py env.settings env.crypto clock draw scan username password
        client_ip user_agent)
      id L s := by
  refine ensures_withPool (ensures_bind.mpr (ensures_selectAccountForUpdate ?_ ?_))
  · intro L' s'
    refine ensures_bind.mpr (ensures_verify fun _ => ?_)
    exact ensures_loginFailed leaves_addAuthEvent fun _ => rfl
  · intro ks s₂ found _ _ hks
    exact ensures_loginKnown hM hop (fun _ => rfl) (List.mem_append_left _ hks)

end Login

/-- Every operation keeps the sessions in order. -/
theorem ensures_sessionCommit (hM : 1 ≤ env.settings.max_sessions_per_user) (op : Op) :
    Ensures J capRely (AtCommit J capRely (SessionCommit env J op)) (op.prog env) id L s := by
  cases op with
  | authenticate => exact (ensures_authenticate hM rfl).bind fun _ _ _ _ hend => hend
  | resolveSession | revokeSession | changePassword | createUser | createAdmin |
    updateUser | unlockUser
  | resetPassword | revokeUserSessions =>
      exact ensures_noLogin fun _ _ _ _ _ _ _ hop => nomatch hop

end Relying

-- ── Runs ──────────────────────────────────────────────────────────────────────────

section Runs

variable {τ : Type} [DecidableEq τ] {env : Env} {ops : τ → Op} {s : Store} {db db' : OpDb τ}
  {acts : List (Act τ)} {J : Store → Prop}

/-- No user has more unrevoked sessions than allowed. -/
def Capped (env : Env) (s : Store) : Prop :=
  ∀ u, ((unrevokedSessions u s).length : Int) ≤ env.settings.max_sessions_per_user

/-- The step lemma. -/
theorem Capped.commit {op : Op} {ans : Answer} {L : List LockKey} {s' : Store} (h : Capped env s)
    (hcommit : SessionCommit env J op ans L s s') : Capped env s' := by
  intro u
  rcases hcommit.cap u with hle | hcap
  · exact le_trans (Int.ofNat_le.mpr hle) (h u)
  · exact hcap

/-- The run lemma. -/
theorem capped_run (hM : 1 ≤ env.settings.max_sessions_per_user) (hempty : s.sessions.rows = [])
    (hrun : Run Step (initial (fun t => (ops t).prog env) s) acts db) : Capped env db.store := by
  refine store_invariant (sessionCommit_guarantees env (fun _ _ => True) ops)
    (fun t => ensures_sessionCommit hM (ops t))
      (fun t a L s s' h hcommit => h.commit hcommit) hrun ?_
  intro u
  have hnone : unrevokedSessions u s = [] := by
    rw [unrevokedSessions]
    rw [hempty]
    rfl
  rw [hnone]
  exact le_trans Int.one_nonneg hM

/-- **The session cap.** In every interleaving from an empty session table no user ever has more
    unrevoked sessions than allowed, and a login that commits has revoked the oldest of the
    sessions it has read in one of its steps, as many as are too many, and not its own. -/
theorem session_cap (hM : 1 ≤ env.settings.max_sessions_per_user) (hempty : s.sessions.rows = [])
    (hrun : Run Step (initial (fun t => (ops t).prog env) s) acts db) :
    (∀ u, ((db.store.sessions.rows.filter (unrevokedOf u)).length : Int) ≤
      env.settings.max_sessions_per_user) ∧
    ∀ t db' r, Step db (.commit t) db' → db'.phase t = .committed (.login (some r)) →
      EvictsOldest env
        (StepsOn (initial (fun t => (ops t).prog env) s) (acts ++ [.commit t]) db' t) (ops t) r
        db.store db'.store := by
  refine ⟨capped_run hM hempty hrun, fun t db' r hs hphase => ?_⟩
  obtain ⟨L, hcommit⟩ := commit_meets (sessionCommit_guarantees env _ ops)
    (fun t => ensures_sessionCommit hM (ops t)) hrun hs (fun _ _ h => h) hphase
  exact hcommit.login r rfl

end Runs

-- ── A run of the operations ───────────────────────────────────────────────────────

/-- A deployment that allows one session. -/
def Env.oneSession : Env :=
  { Env.sample with settings := { Env.sample.settings with max_sessions_per_user := 1 } }

/-- Two logins of one account. -/
def twoLogins : Bool → Op
  | true => sampleLogin 1 (str "root") (str "correct horse battery")
  | false => .authenticate ⟨2, 2, 2⟩ ⟨str "later", str "csrf", 8, []⟩ .asInserted (str "root")
      (str "correct horse battery") (str "192.0.2.7") none

/-- Both at their start, over one administrator without sessions. -/
def twoLoginsStart : OpDb Bool :=
  initial (fun t => (twoLogins t).prog .oneSession)
    (performAll .oneSession (sampleStart.take 1) .empty)

/-- The second login has looked for the account before the first one commits. -/
def loginSchedule : List (Act Bool) :=
  [.begin true, .finish true, .begin false, .emit true, .begin true, .finish true, .begin true,
    .finish true, .begin true, .finish true, .emit true, .begin true, .finish true, .commit true,
    .finish false, .emit false, .begin false, .finish false, .begin false, .finish false,
    .begin false, .finish false, .begin false, .finish false, .emit false,
      .begin false, .finish false]

/-- What the second login returns. -/
def laterResult : LoginResult :=
  ⟨⟨1, 8, str "root", str "root", .ADMIN, true⟩, str "later", str "csrf"⟩

/-- The general result on a login that evicts the session of the other. -/
theorem second_login_evicts_first :
    ∃ db db' : OpDb Bool, Run Step twoLoginsStart loginSchedule db ∧ Step db (.commit false) db' ∧
      EvictsOldest .oneSession (StepsOn twoLoginsStart (loginSchedule ++ [.commit false]) db' false)
        (twoLogins false) laterResult db.store db'.store := by
  have hexec : (exec next twoLoginsStart loginSchedule).any (fun db =>
      (next db (.commit false)).any fun db' =>
        committedAnswer db' false = some (.login (some laterResult))) = true := by
    decide +kernel
  obtain ⟨db, hdb, hexec⟩ := (Option.any_eq_true _ _).mp hexec
  obtain ⟨db', hdb', hanswer⟩ := (Option.any_eq_true _ _).mp hexec
  have hrun : Run Step twoLoginsStart loginSchedule db := run_of_exec hdb
  have hempty : (performAll .oneSession (sampleStart.take 1) .empty).sessions.rows = [] := by
    decide +kernel
  refine ⟨db, db', hrun, step_of_next hdb', ?_⟩
  exact (session_cap (by decide) hempty hrun).2 false db' _ (step_of_next hdb')
    (phase_of_committedAnswer (of_decide_eq_true hanswer))

end NetProbeAccountRuns
