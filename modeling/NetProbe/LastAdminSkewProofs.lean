import NetProbe.AccountWritesProofs
import NetProbe.LastAdminProofs
import NetProbe.ReadCommittedProofs

/-!
# The last administrator under concurrent requests

Many `update_user` transactions that demote or disable, interleaved statement by statement.
Each locks the row of its own target and counts the administrators without locking them, so
two transactions on different targets can count each other's target and both go through
(`skew_removes_all_admins`).

`counted_admin_survives` is the exact run condition: as long as every count that lets a
request pass has seen one administrator who is neither the target of this request nor that of
another one past its own count (`CountCovered`), an administrator remains in every state of
the run.  The invariant (`Covered`) is that some administrator is not the target of any
pending request; a commit can only remove the target of the request that commits (`Frame`,
fixed by the text of the program), and the lock on the target keeps what the request read of
it true until then.  A request that meets no other one past its count is always covered
(`countCovered_of_alone`).
-/

namespace NetProbeLastAdmin

open NetProbePyText NetProbeConfig NetProbeCoreAuth NetProbeAccountStore NetProbeAuthService
open NetProbeAdminUsers NetProbeAccountRuns UniqueTable Transaction Transaction.Txn LabelledRun
open ReadCommitted

/-- A patch that only demotes or disables. -/
def OnlyRemoves (payload : UserUpdateRequest) : Prop :=
  payload.role ≠ some .ADMIN ∧ (payload.status = none ∨ payload.status = some .DISABLED)

/-- A patch that changes role or status. -/
def Removes (payload : UserUpdateRequest) : Prop := payload.role ≠ none ∨ payload.status ≠ none

section Skew

variable {py : Python} {settings : Settings} {τ : Type}

/-- The program of a request. -/
def PatchCall.prog (py : Python) (settings : Settings) (call : PatchCall) :
    AuthTxn (Option Account) :=
  updateUser py settings call.clock call.actor call.user_id call.payload

/-- What remains of a request once it holds the row of its target. -/
def PatchCall.locked (py : Python) (settings : Settings) (call : PatchCall) (user : Account) :
    AuthTxn (Option Account) :=
  (lastAdminGuard call.payload user).bind fun _ =>
    storePatch py settings call.clock call.actor call.user_id call.payload user

/-- The database of concurrent requests. -/
abbrev PatchDb (τ : Type) : Type := Db τ LockKey Store AuthEvent AuthError (Option Account)

/-- The request is past its count and can still commit a removal. -/
def Pending (calls : τ → PatchCall) (db : PatchDb τ) (t : τ) : Prop :=
  Removes (calls t).payload ∧
    ∃ x, db.phase t = .active x ∧ 2 ≤ x.done ∧ ∀ e, x.prog ≠ .raise e

/-- The condition on a run: a count that lets a request pass has seen an administrator whom
    neither this request nor a pending one removes. -/
def CountCovered (calls : τ → PatchCall) (db : PatchDb τ) : Act τ → Prop
  | .finish t => ∀ x user, db.phase t = .active x → x.done = 1 →
      db.store.accounts.rows.find? (byLiveId (calls t).user_id) = some user →
      countsAdmins (calls t).payload user = true → 1 < (usableAdmins db.store).length →
      ∃ a ∈ usableAdmins db.store, a.id ≠ (calls t).user_id ∧
        ∀ t', t' ≠ t → Pending calls db t' → a.id ≠ (calls t').user_id
  | _ => True

-- ── What a request can write ──────────────────────────────────────────────────────

/-- The writes of a request leave all accounts but its target as they are, and leave the
    administrators alone if the patch changes neither role nor status. -/
def Frame (call : PatchCall) (w : Store → Store) : Prop :=
  ∀ s, (∀ a ∈ s.accounts.rows, a.id ≠ call.user_id → a ∈ (w s).accounts.rows) ∧
    (¬ Removes call.payload → ∀ a ∈ usableAdmins s, ∃ b ∈ usableAdmins (w s), b.id = a.id)

theorem frame_id (call : PatchCall) : Frame call id :=
  fun _ => ⟨fun _ ha _ => ha, fun _ a ha => ⟨a, ha, rfl⟩⟩

/-- A statement that leaves the accounts alone. -/
theorem Frame.comp_of_accounts {call : PatchCall} {w g : Store → Store} (h : Frame call w)
    (hg : ∀ s, (g s).accounts = s.accounts) : Frame call (g ∘ w) := by
  intro s
  obtain ⟨hothers, hadmins⟩ := h s
  have hrows : (g (w s)).accounts = (w s).accounts := hg (w s)
  refine ⟨fun a ha hne => ?_, fun hno a ha => ?_⟩
  · show a ∈ (g (w s)).accounts.rows
    rw [hrows]
    exact hothers a ha hne
  · obtain ⟨b, hb, hid⟩ := hadmins hno a ha
    refine ⟨b, ?_, hid⟩
    show b ∈ (g (w s)).accounts.rows.filter usableAdmin
    rw [hrows]
    exact hb

/-- The UPDATE of a request. -/
theorem Frame.comp_patch {call : PatchCall} {w : Store → Store} (h : Frame call w)
    (ks : List LockKey) :
    Frame call ((fun s => s.alterAccounts (updateWhere (foundAccount ks (byId call.user_id))
      (patched py call.clock call.payload))) ∘ w) := by
  intro s
  obtain ⟨hothers, hadmins⟩ := h s
  have hrows := alter_rows_cases (w s).accounts
    (updateWhere (foundAccount ks (byId call.user_id)) (patched py call.clock call.payload))
  refine ⟨fun a ha hne => ?_, fun hno a ha => ?_⟩
  · have hw := hothers a ha hne
    show a ∈ ((w s).accounts.alter _).rows
    rcases hrows with heq | heq
    · rw [heq]
      exact mem_updateWhere_of_not hw (by simp [foundAccount, byId, hne])
    · rw [heq]
      exact hw
  · obtain ⟨b, hb, hid⟩ := hadmins hno a ha
    obtain ⟨hbrow, hbadmin⟩ := mem_usableAdmins.mp hb
    rcases hrows with heq | heq
    · refine ⟨if foundAccount ks (byId call.user_id) b then patched py call.clock call.payload b
        else b,
        mem_usableAdmins.mpr ⟨?_, ?_⟩, ?_⟩
      · show _ ∈ ((w s).accounts.alter _).rows
        rw [heq]
        exact mem_updateWhere.mpr ⟨b, hbrow, rfl⟩
      · have hnone : call.payload.role = none ∧ call.payload.status = none := by
          simpa [Removes] using hno
        split
        · rw [usableAdmin_patched]
          rw [applied]
          rw [hnone.1, hnone.2]
          exact hbadmin
        · exact hbadmin
      · rw [← hid]
        split <;> rfl
    · refine ⟨b, mem_usableAdmins.mpr ⟨?_, hbadmin⟩, hid⟩
      show b ∈ ((w s).accounts.alter _).rows
      rw [heq]
      exact hbrow

/-- The changes a patch can make. -/
theorem Frame.comp_change {env : Env} {call : PatchCall} {w g : Store → Store} (h : Frame call w)
    (hg : Change env (.updateUser call.clock call.actor call.user_id call.payload) g) :
    Frame call (g ∘ w) := by
  cases hg with
  | same | audit | history | revoke => exact h.comp_of_accounts fun _ => rfl
  | account hrow ks =>
      cases hrow with
      | patch => exact h.comp_patch ks
  | insert hnew => cases hnew

/-- Whatever its statements see, a request commits to its frame. -/
theorem always_frame (call : PatchCall) :
    Always (fun _ w => Frame call w) (call.prog py settings) id := by
  have hchanges : Changes ⟨py, settings, .plain⟩
      (.updateUser call.clock call.actor call.user_id call.payload) (fun _ => True)
      (call.prog py settings) := changes_updateUser
  exact hchanges.keeps (fun g w hg hw => hw.comp_change hg) id (frame_id call)

-- ── Where a request stands ────────────────────────────────────────────────────────

/-- A request starts with the lock on its target, or raises. -/
theorem prog_shape (py : Python) (settings : Settings) (call : PatchCall) :
    (∃ e, call.prog py settings = .raise e) ∨
      ∃ found effect k, call.prog py settings = .stmt found effect k ∧ ∀ ks v, effect ks v = id ∧
        ((∃ e, k ks v = .raise e) ∨
          ∃ user, user ∈ v.accounts.rows ∧ user.id = call.user_id ∧ user.deleted_at = none ∧
            .account call.user_id ∈ ks ∧ k ks v = call.locked py settings user) := by
  rw [PatchCall.prog, updateUser, withPool]
  split
  · refine Or.inr ⟨_, _, _, rfl, fun ks v => ⟨rfl, ?_⟩⟩
    dsimp only
    cases hfind : v.accounts.rows.find? (foundAccount ks (byLiveId call.user_id)) with
    | none => exact Or.inl ⟨_, rfl⟩
    | some user =>
        have hp := List.find?_some hfind
        rw [foundAccount, byLiveId] at hp
        simp only [Bool.and_eq_true, List.contains_iff_mem, decide_eq_true_eq,
          Option.isNone_iff_eq_none] at hp
        refine Or.inr ⟨user, List.mem_of_find?_eq_some hfind, hp.2.1, hp.2.2, ?_, rfl⟩
        rw [← hp.2.1]
        exact hp.1
  · exact Or.inl ⟨_, rfl⟩

/-- The next statement of a request that holds its target: the count, after which it raises if
    there is one administrator at most, or the UPDATE. -/
theorem locked_shape (py : Python) (settings : Settings) (call : PatchCall) (user : Account) :
    (∃ e, call.locked py settings user = .raise e) ∨
      ∃ found effect k, call.locked py settings user = .stmt found effect k ∧
        (countsAdmins call.payload user = true → ∀ ks v, (usableAdmins v).length ≤ 1 →
          ∃ e, k ks v = .raise e) := by
  rw [PatchCall.locked, lastAdminGuard]
  split
  · refine Or.inr ⟨_, _, _, rfl, fun _ ks v hle => ⟨lastAdminProtected, ?_⟩⟩
    rw [usableAdmins] at hle
    dsimp only [bind_ret]
    rw [if_pos hle]
    rfl
  · rename_i hc
    rw [storePatch]
    split
    · exact Or.inr ⟨_, _, _, rfl, fun h => absurd h hc⟩
    · exact Or.inl ⟨_, rfl⟩

/-- Where a request stands: before the lock it has done nothing; holding it, it knows the row
    of its target and has written nothing. -/
structure Stage (py : Python) (settings : Settings) (call : PatchCall) (db : PatchDb τ) (t : τ)
    (x : Active LockKey Store AuthEvent AuthError (Option Account)) : Prop where
  start : x.done = 0 → x.prog = call.prog py settings ∧ x.write = id
  locked : x.done = 1 → x.write = id ∧ ((∃ e, x.prog = .raise e) ∨
    ∃ user, db.store.accounts.rows.find? (byLiveId call.user_id) = some user ∧
      x.prog = call.locked py settings user)
  owns : 1 ≤ x.done → (∃ e, x.prog = .raise e) ∨ db.owner (.account call.user_id) = some t

/-- Before its second statement a request can only execute a statement or raise. -/
theorem Stage.shape {call : PatchCall} {db : PatchDb τ} {t : τ}
    {x : Active LockKey Store AuthEvent AuthError (Option Account)}
    (h : Stage py settings call db t x) (hdone : x.done < 2) :
    (∃ e, x.prog = .raise e) ∨ ∃ found effect k, x.prog = .stmt found effect k := by
  have hcases : x.done = 0 ∨ x.done = 1 := by omega
  rcases hcases with h0 | h1
  · rw [(h.start h0).1]
    rcases prog_shape py settings call with hraise | ⟨found, effect, k, hk, -⟩
    · exact Or.inl hraise
    · exact Or.inr ⟨found, effect, k, hk⟩
  · rcases (h.locked h1).2 with hraise | ⟨user, -, hprog⟩
    · exact Or.inl hraise
    · rw [hprog]
      rcases locked_shape py settings call user with hraise | ⟨found, effect, k, hk, -⟩
      · exact Or.inl hraise
      · exact Or.inr ⟨found, effect, k, hk⟩

/-- A request that is about to commit has passed its count and owns its target. -/
theorem Stage.of_ret {call : PatchCall} {db : PatchDb τ} {t : τ}
    {x : Active LockKey Store AuthEvent AuthError (Option Account)} {a : Option Account}
    (h : Stage py settings call db t x) (hp : x.prog = .ret a) :
    2 ≤ x.done ∧ db.owner (.account call.user_id) = some t := by
  have hdone : 2 ≤ x.done := by
    by_contra hlt
    rcases h.shape (Nat.lt_of_not_le hlt) with ⟨e, he⟩ | ⟨found, effect, k, hk⟩
    · rw [he] at hp
      cases hp
    · rw [hk] at hp
      cases hp
  refine ⟨hdone, ?_⟩
  rcases h.owns (by omega) with ⟨e, he⟩ | ho
  · rw [he] at hp
    cases hp
  · exact ho

section Moves

variable {call : PatchCall} {db db' : PatchDb τ} {t : τ}
  {y : Active LockKey Store AuthEvent AuthError (Option Account)} {ks : List LockKey}

/-- The beginning of a statement changes nothing. -/
theorem Stage.begin {keys : Option (List LockKey)} (h : Stage py settings call db t y)
    (hstore : db'.store = db.store) (howner : db'.owner = lockAll db.owner t []) :
    Stage py settings call db' t { y with found := keys } := by
  refine ⟨h.start, fun h1 => ?_, fun h1 => ?_⟩
  · rw [hstore]
    exact h.locked h1
  · rw [howner]
    exact (h.owns h1).imp_right lockAll_self

/-- The first statement locks the target and finds its row, or raises. -/
theorem Stage.finish {found : Store → List LockKey} {effect : List LockKey → Store → Store → Store}
    {k : List LockKey → Store → AuthTxn (Option Account)} (h : Stage py settings call db t y)
    (hstore : db'.store = db.store) (howner : db'.owner = lockAll db.owner t ks)
    (hp : y.prog = .stmt found effect k) :
    Stage py settings call db' t
      { prog := k ks (y.write db.store)
        found := none
        write := effect ks (y.write db.store) ∘ y.write
        done := y.done + 1 } := by
  have first : y.done = 0 → y.write = id ∧ effect ks (y.write db.store) = id ∧
      ((∃ e, k ks (y.write db.store) = .raise e) ∨
        ∃ user, user ∈ (y.write db.store).accounts.rows ∧ user.id = call.user_id ∧
          user.deleted_at = none ∧ LockKey.account call.user_id ∈ ks ∧
          k ks (y.write db.store) = call.locked py settings user) := by
    intro h0
    obtain ⟨hprog, hw⟩ := h.start h0
    rcases prog_shape py settings call with ⟨e, he⟩ | ⟨found', effect', k', hk, hshape⟩
    · rw [hprog, he] at hp
      cases hp
    · rw [hprog, hk] at hp
      cases hp
      exact ⟨hw, hshape ks (y.write db.store)⟩
  refine ⟨fun h0 => absurd h0 (Nat.succ_ne_zero _), fun h1 => ?_, fun _ => ?_⟩
  · obtain ⟨hw, heffect, hnext⟩ := first (Nat.succ.inj h1)
    refine ⟨by rw [heffect, hw]; rfl, ?_⟩
    rcases hnext with hraise | ⟨user, hmem, hid, hlive, -, hprog⟩
    · exact Or.inl hraise
    · rw [hw] at hmem
      rw [hstore]
      exact Or.inr ⟨user, byLiveId_find hmem hid hlive, hprog⟩
  · rw [howner]
    by_cases h0 : y.done = 0
    · rcases (first h0).2.2 with hraise | ⟨user, -, -, -, hkey, -⟩
      · exact Or.inl hraise
      · exact Or.inr (lockAll_mem hkey)
    · rcases h.owns (Nat.pos_of_ne_zero h0) with ⟨e, he⟩ | hown
      · rw [he] at hp
        cases hp
      · exact Or.inr (lockAll_self hown)

/-- Before its second statement a request emits nothing. -/
theorem Stage.emit {o : AuthEvent} {k : AuthTxn (Option Account)}
    (h : Stage py settings call db t y) (howner : db'.owner = lockAll db.owner t [])
    (hp : y.prog = .emit o k) : Stage py settings call db' t { y with prog := k } := by
  have hdone : 2 ≤ y.done := by
    by_contra hlt
    rcases h.shape (Nat.lt_of_not_le hlt) with ⟨e, he⟩ | ⟨found, effect, k', hk⟩
    · rw [he] at hp
      cases hp
    · rw [hk] at hp
      cases hp
  refine ⟨fun h0 => ?_, fun h1 => ?_, fun _ => ?_⟩
  · rw [show y.done = 0 from h0] at hdone
    omega
  · rw [show y.done = 1 from h1] at hdone
    omega
  · rcases h.owns (by omega) with ⟨e, he⟩ | hown
    · rw [he] at hp
      cases hp
    · rw [howner]
      exact Or.inr (lockAll_self hown)

end Moves

/-- Some administrator is not the target of a pending request. -/
def Covered (calls : τ → PatchCall) (db : PatchDb τ) : Prop :=
  ∃ a ∈ usableAdmins db.store, ∀ t, Pending calls db t → a.id ≠ (calls t).user_id

/-- The invariant of concurrent requests. -/
structure SkewInv (py : Python) (settings : Settings) (calls : τ → PatchCall) (db : PatchDb τ) :
    Prop where
  stage : ∀ t x, db.phase t = .active x → Stage py settings (calls t) db t x
  promised : Promised (fun t _ w => Frame (calls t) w) db
  covered : Covered calls db

variable [DecidableEq τ] {calls : τ → PatchCall} {db db' : PatchDb τ} {act : Act τ}

/-- Another transaction moved: a request that is pending now was pending before. -/
theorem Pending.of_other {t : τ} (h : Pending calls db' t) (hs : Step db act db')
    (hne : t ≠ act.tid) : Pending calls db t := by
  obtain ⟨hremoves, x, hx, hrest⟩ := h
  rw [hs.phase_other hne] at hx
  exact ⟨hremoves, x, hx, hrest⟩

/-- A step that is no commit leaves the store alone. -/
theorem store_of_not_commit (hs : Step db act db') (h : ∀ t, act ≠ .commit t) :
    db'.store = db.store := by
  cases hs with
  | commit hx hf hp => exact absurd rfl (h _)
  | _ => rfl

/-- A commit of `t` keeps the rows of all targets but its own. -/
theorem SkewInv.row_stays (hI : SkewInv py settings calls db) (hs : Step db act db') {a : Account}
    (ha : a ∈ db.store.accounts.rows) (hne : a.id ≠ (calls act.tid).user_id) :
    a ∈ db'.store.accounts.rows := by
  cases hs with
  | @commit t x r hx hf hp =>
      have hframe := hI.promised t x hx
      rw [hp] at hframe
      exact (hframe db.store).1 a ha hne
  | _ => exact ha

/-- The requests that did not move stand where they stood. -/
theorem SkewInv.stage_other (hI : SkewInv py settings calls db) (hs : Step db act db') {t : τ}
    {x : Active LockKey Store AuthEvent AuthError (Option Account)} (hne : t ≠ act.tid)
    (hx : db'.phase t = .active x) : Stage py settings (calls t) db' t x := by
  have hx' := hx
  rw [hs.phase_other hne] at hx
  have hstage := hI.stage t x hx
  refine ⟨hstage.start, fun h1 => ⟨(hstage.locked h1).1, ?_⟩, fun h1 => ?_⟩
  · rcases (hstage.locked h1).2 with hraise | ⟨user, hfind, hprog⟩
    · exact Or.inl hraise
    · obtain ⟨hmem, hid, hlive⟩ := find_byLiveId hfind
      rcases hstage.owns (by omega) with hraise | howner
      · exact Or.inl hraise
      · refine Or.inr ⟨user, byLiveId_find ?_ hid hlive, hprog⟩
        by_cases hcommit : ∃ t', act = .commit t'
        · -- the request that commits owns another row
          obtain ⟨t', rfl⟩ := hcommit
          refine hI.row_stays hs hmem fun heq => ?_
          cases hs with
          | @commit _ y r hy hf hp =>
              have howner' := ((hI.stage _ y hy).of_ret hp).2
              rw [show (calls t').user_id = (calls t).user_id from heq.symm.trans hid, howner]
                at howner'
              exact hne (Option.some.inj howner')
        · push Not at hcommit
          rw [store_of_not_commit hs hcommit]
          exact hmem
  · rcases hstage.owns h1 with hraise | howner
    · exact Or.inl hraise
    · exact Or.inr (hs.owner_of_active howner hx')

/-- The request that moved stands where it should. -/
theorem SkewInv.stage_self (hI : SkewInv py settings calls db) (hs : Step db act db')
    {x : Active LockKey Store AuthEvent AuthError (Option Account)}
    (hx : db'.phase act.tid = .active x) : Stage py settings (calls act.tid) db' act.tid x := by
  obtain ⟨y, ks, hy, hstore, howner, hmoves⟩ := hs.moves hx
  have hstage := hI.stage _ y hy
  cases hmoves with
  | begin hf hp => exact hstage.begin hstore howner
  | finish hf hp => exact hstage.finish hstore howner hp
  | emit hf hp => exact hstage.emit howner hp

/-- A request becomes pending by finishing its second statement only. -/
theorem Pending.back {t : τ} (h : Pending calls db' t) (hs : Step db act db') :
    Pending calls db t ∨ ∃ x, act = .finish t ∧ db.phase t = .active x ∧ x.done = 1 := by
  by_cases hne : t = act.tid
  · obtain ⟨hremoves, x, hx, hdone, hraise⟩ := h
    subst hne
    obtain ⟨y, ks, hy, -, -, hmoves⟩ := hs.moves hx
    cases hmoves with
    | begin hf hp => exact Or.inl ⟨hremoves, y, hy, hdone, hraise⟩
    | finish hf hp =>
        by_cases h1 : y.done = 1
        · exact Or.inr ⟨y, rfl, hy, h1⟩
        · refine Or.inl ⟨hremoves, y, hy, ?_, fun e he => ?_⟩
          · have : 2 ≤ y.done + 1 := hdone
            omega
          · rw [hp] at he
            cases he
    | emit hf hp =>
        refine Or.inl ⟨hremoves, y, hy, hdone, fun e he => ?_⟩
        rw [hp] at he
        cases he
  · exact Or.inl (h.of_other hs hne)

/-- A removal on an administrator is counted. -/
theorem countsAdmins_of_removes {payload : UserUpdateRequest} {user : Account}
    (honly : OnlyRemoves payload) (hremoves : Removes payload) (hrole : user.role = .ADMIN) :
    countsAdmins payload user = true := by
  rw [countsAdmins, UserUpdateRequest.demotes]
  obtain ⟨hadmin, hnone | hdisabled⟩ := honly
  · cases hr : payload.role with
    | none => simp [Removes, hr, hnone] at hremoves
    | some role =>
        have hne : role ≠ .ADMIN := fun h => hadmin (hr.trans (congrArg some h))
        simp [hrole, hne]
  · simp [hrole, hdisabled]

/-- A commit leaves an administrator who is covered: the one who was, since the request that
    commits was pending, or its own target, whom it does not remove. -/
theorem SkewInv.covered_commit (hI : SkewInv py settings calls db) {t : τ}
    (hs : Step db (.commit t) db') : Covered calls db' := by
  obtain ⟨a, ha, hclear⟩ := hI.covered
  have hback : ∀ t', Pending calls db' t' → Pending calls db t' := by
    intro t' h
    rcases h.back hs with hp | ⟨x, heq, -⟩
    · exact hp
    · cases heq
  have hstays := fun hne => hI.row_stays hs (mem_usableAdmins.mp ha).1 hne
  cases hs with
  | @commit _ x r hx hf hp =>
      have hret := (hI.stage t x hx).of_ret hp
      by_cases hremoves : Removes (calls t).payload
      · have hne := hclear t ⟨hremoves, x, hx, hret.1, fun e he => by rw [hp] at he; cases he⟩
        exact ⟨a, mem_usableAdmins.mpr ⟨hstays hne, (mem_usableAdmins.mp ha).2⟩,
          fun t' h' => hclear t' (hback t' h')⟩
      · have hframe := hI.promised t x hx
        rw [hp] at hframe
        obtain ⟨b, hb, hid⟩ := (hframe db.store).2 hremoves a ha
        exact ⟨b, hb, fun t' h' => hid ▸ hclear t' (hback t' h')⟩

/-- A request that becomes pending has counted, and its count is covered, or its target is no
    administrator. -/
theorem SkewInv.covered_second (hI : SkewInv py settings calls db)
    (honly : ∀ t, OnlyRemoves (calls t).payload) {t : τ}
    (hcount : CountCovered calls db (.finish t)) (hs : Step db (.finish t) db')
    {x : Active LockKey Store AuthEvent AuthError (Option Account)} (hx : db.phase t = .active x)
    (h1 : x.done = 1) (hpending : Pending calls db' t) : Covered calls db' := by
  obtain ⟨a, ha, hclear⟩ := hI.covered
  have hothers : ∀ t', t' ≠ t → Pending calls db' t' → Pending calls db t' :=
    fun t' hne h => h.of_other hs hne
  obtain ⟨hw, hprog⟩ := (hI.stage t x hx).locked h1
  cases hs with
  | @finish _ y found effect k ks hy hf hp hfree =>
      have hxy : x = y := Phase.active.inj (hx.symm.trans hy)
      subst hxy
      rcases hprog with ⟨e, he⟩ | ⟨user, hfind, hlocked⟩
      · rw [he] at hp
        cases hp
      · obtain ⟨hremoves, z, hz, -, hraise⟩ := hpending
        rw [move_phase_self] at hz
        have hze := (Phase.active.inj hz).symm
        subst hze
        by_cases hc : countsAdmins (calls t).payload user = true
        · rcases locked_shape py settings (calls t) user with
            ⟨e, he⟩ | ⟨found', effect', k', hk, hshape⟩
          · rw [hlocked, he] at hp
            cases hp
          · rw [hlocked, hk] at hp
            cases hp
            have hmany : 1 < (usableAdmins db.store).length := by
              by_contra hle
              obtain ⟨e, he⟩ := hshape hc ks (x.write db.store) (by rw [hw]; exact not_lt.mp hle)
              exact hraise e he
            obtain ⟨b, hb, hown, hrest⟩ := hcount x user hx h1 hfind hc hmany
            refine ⟨b, hb, fun t' h' => ?_⟩
            by_cases hne : t' = t
            · rw [hne]
              exact hown
            · exact hrest t' hne (hothers t' hne h')
        · refine ⟨a, ha, fun t' h' => ?_⟩
          by_cases hne : t' = t
          · intro hid
            obtain ⟨hmem, huid, -⟩ := find_byLiveId hfind
            obtain ⟨harow, haadmin⟩ := mem_usableAdmins.mp ha
            have hau := account_unique harow hmem (by rw [hid, hne, huid])
            rw [hau] at haadmin
            have hrole : user.role = .ADMIN := by
              rw [usableAdmin] at haadmin
              simp only [Bool.and_eq_true, decide_eq_true_eq] at haadmin
              exact haadmin.1.1
            exact hc (countsAdmins_of_removes (honly t) hremoves hrole)
          · exact hclear t' (hothers t' hne h')

/-- The step lemma of the covered administrator. -/
theorem SkewInv.covered_step (hI : SkewInv py settings calls db)
    (honly : ∀ t, OnlyRemoves (calls t).payload) (hcount : CountCovered calls db act)
    (hs : Step db act db') : Covered calls db' := by
  by_cases hcommit : ∃ t, act = .commit t
  · obtain ⟨t, rfl⟩ := hcommit
    exact hI.covered_commit hs
  · push Not at hcommit
    by_cases hsecond : ∃ t x, act = .finish t ∧ db.phase t = .active x ∧ x.done = 1 ∧
        Pending calls db' t
    · obtain ⟨t, x, rfl, hx, h1, hpending⟩ := hsecond
      exact hI.covered_second honly hcount hs hx h1 hpending
    · -- the store is untouched, and nobody became pending
      obtain ⟨a, ha, hclear⟩ := hI.covered
      refine ⟨a, by rw [store_of_not_commit hs hcommit]; exact ha, fun t h => ?_⟩
      rcases h.back hs with hp | ⟨x, heq, hx, h1⟩
      · exact hclear t hp
      · exact absurd ⟨t, x, heq, hx, h1, h⟩ hsecond

/-- The step lemma of the invariant. -/
theorem SkewInv.step (hI : SkewInv py settings calls db)
    (honly : ∀ t, OnlyRemoves (calls t).payload) (hcount : CountCovered calls db act)
    (hs : Step db act db') : SkewInv py settings calls db' where
  stage := by
    intro t x hx
    by_cases hne : t = act.tid
    · subst hne
      exact hI.stage_self hs hx
    · exact hI.stage_other hs hne hx
  promised := hI.promised.step hs
  covered := hI.covered_step honly hcount hs

omit [DecidableEq τ] in
theorem skewInv_initial {s : Store} (hadmins : 1 ≤ (usableAdmins s).length) :
    SkewInv py settings calls (initial (fun t => (calls t).prog py settings) s) where
  stage := by
    intro t x hx
    have hxe : x = .start ((calls t).prog py settings) := (Phase.active.inj hx).symm
    subst hxe
    exact ⟨fun _ => ⟨rfl, rfl⟩, fun h => absurd h (by simp [Active.start]),
      fun h => absurd h (by simp [Active.start])⟩
  promised := promised_initial fun t => always_frame (calls t)
  covered := by
    obtain ⟨a, ha⟩ := List.exists_mem_of_length_pos hadmins
    refine ⟨a, ha, fun t h => ?_⟩
    obtain ⟨-, x, hx, hdone, -⟩ := h
    have hxe : x = .start ((calls t).prog py settings) := (Phase.active.inj hx).symm
    subst hxe
    exact absurd hdone (by simp [Active.start])

/-- **The last administrator survives if the counts are covered.** In every interleaving of
    requests that only demote or disable, from a store with an administrator, in which every
    count that lets its request pass is covered, an administrator remains in every state. -/
theorem counted_admin_survives {s : Store} {acts : List (Act τ)}
    (honly : ∀ t, OnlyRemoves (calls t).payload) (hadmins : 1 ≤ (usableAdmins s).length)
    (hrun : Run (Restrict Step (CountCovered calls))
      (initial (fun t => (calls t).prog py settings) s) acts db') :
    1 ≤ (usableAdmins db'.store).length := by
  have hI : SkewInv py settings calls db' :=
    hrun.invariant (I := SkewInv py settings calls)
      (fun _ _ _ hI hs => hI.step honly hs.1 hs.2) (skewInv_initial hadmins)
  obtain ⟨a, ha, -⟩ := hI.covered
  exact List.length_pos_of_mem ha

omit [DecidableEq τ] in
/-- A request that meets no pending one is covered: of two administrators, one is not its
    target. -/
theorem countCovered_of_alone {t : τ} (halone : ∀ t', t' ≠ t → ¬ Pending calls db t') :
    CountCovered calls db (.finish t) := by
  intro x user hx h1 hfind hc hmany
  by_contra hnone
  push Not at hnone
  have hall : ∀ a ∈ usableAdmins db.store, a.id = (calls t).user_id := by
    intro a ha
    by_contra hne
    obtain ⟨t', hne', hpending, -⟩ := hnone a ha hne
    exact halone t' hne' hpending
  obtain ⟨b, hb⟩ := List.exists_mem_of_length_pos (show 0 < (usableAdmins db.store).length by omega)
  have := usableAdmins_of_only hb fun a ha => (hall a ha).trans (hall b hb).symm
  omega

end Skew

-- ── Two runs ──────────────────────────────────────────────────────────────────────

/-- A store with two administrators. -/
def twoAdmins : Store :=
  { Store.empty with
    accounts :=
      ⟨[sampleAccount 1 (str "root") .ADMIN .ACTIVE, sampleAccount 2 (str "second") .ADMIN .ACTIVE],
        by decide⟩ }

/-- One request demotes the second administrator, the other disables the first. -/
def removals : Bool → PatchCall
  | false => ⟨⟨0, 0, 0⟩, 1, 2, .patch (some .VIEWER) none⟩
  | true => ⟨⟨0, 0, 0⟩, 1, 1, .patch none (some .DISABLED)⟩

/-- Both lock their target, both count two administrators, both write and commit. -/
def skewSchedule : List (Act Bool) :=
  [.begin false, .finish false, .begin true, .finish true,
    .begin false, .finish false, .begin true, .finish true,
    .begin false, .finish false, .begin true, .finish true,
    .begin true, .finish true, .emit true, .begin true, .finish true, .commit true,
    .emit false, .begin false, .finish false, .commit false]

/-- Both transactions have committed. -/
def bothCommitted (db : PatchDb Bool) : Bool :=
  [false, true].all fun t =>
    match db.phase t with
    | .committed _ => true
    | _ => false

/-- **Write skew.** Two concurrent removals, each refused after the other, both commit and
    leave no administrator.  Neither waits for the accounts that the other's rows refer to. -/
theorem skew_removes_all_admins :
    (∀ t, OnlyRemoves (removals t).payload) ∧ 1 ≤ (usableAdmins twoAdmins).length ∧
      ∃ db, Run (Restrict Step fun db _ => RefsFree addedRefs db)
          (initial (fun t => (removals t).prog .asciiOnly { database_enabled := true }) twoAdmins)
          skewSchedule db ∧
        bothCommitted db = true ∧ usableAdmins db.store = [] := by
  refine
    ⟨fun t => by cases t <;> simp [OnlyRemoves, removals, UserUpdateRequest.patch], by decide, ?_⟩
  have hexec : (exec (nextWhere fun db _ => RefsFree addedRefs db)
      (initial (fun t => (removals t).prog .asciiOnly { database_enabled := true }) twoAdmins)
      skewSchedule).map (fun db => (bothCommitted db, usableAdmins db.store)) =
        some (true, []) := by
    decide +kernel
  obtain ⟨db, hdb, hpair⟩ := Option.map_eq_some_iff.mp hexec
  rw [Prod.mk.injEq] at hpair
  exact ⟨db, run_of_exec_where hdb, hpair.1, hpair.2⟩

/-- The general result on one of the two requests alone: every run of it is covered. -/
theorem counted_admin_survives_alone :
    ∃ db, Run (Restrict Step (CountCovered fun _ : Unit => removals false))
        (initial (fun _ : Unit => (removals false).prog .asciiOnly { database_enabled := true })
          twoAdmins)
        [.begin (), .finish (), .begin (), .finish (), .begin (), .finish (), .emit (), .begin (),
          .finish (), .commit ()] db ∧
      1 ≤ (usableAdmins db.store).length := by
  have hexec : (exec next (initial (fun _ : Unit => (removals false).prog .asciiOnly
      { database_enabled := true }) twoAdmins)
      [.begin (), .finish (), .begin (), .finish (), .begin (), .finish (), .emit (), .begin (),
        .finish (), .commit ()]).isSome = true := by decide +kernel
  obtain ⟨db, hdb⟩ := Option.isSome_iff_exists.mp hexec
  have hrun := (run_of_exec hdb).restrict_of_all (C := CountCovered fun _ : Unit => removals false)
    fun db act => by
      cases act with
      | finish t => exact countCovered_of_alone fun t' hne => absurd rfl hne
      | _ => exact trivial
  exact ⟨db, hrun, counted_admin_survives
    (fun _ => by simp [OnlyRemoves, removals, UserUpdateRequest.patch]) (by decide) hrun⟩

end NetProbeLastAdmin
