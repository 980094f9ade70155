import NetProbe.HttpServiceProofs

/-!
# Safety and bound of the redirect loop

What every run of the HTTP check does, for every server, resolver and client.  The proofs are
inductions on the derivation `Loop` of the run.

* `Loop.send_mem_iff`: a request is sent exactly to the hops that are reached and allowed.
* `redirect_loop_safe`: every request comes after the validation of its URL and of all
  addresses its iteration looked up; a refused hop gets nothing and ends the check with an
  exception; the number of requests is bounded by the redirect budget; a result describes
  the requests that were sent.
* `pinned_iff_dial_within_lookup`: the connections go to accepted addresses exactly as long
  as the client's own lookup stays within the answer the iteration has checked.  The program
  hands the client a URL, not an address, so nothing makes it stay there
  (`pinned_fails_on_rebinding`).
-/

namespace NetProbeHttpService

open NetProbePyText NetProbeConfig NetProbeUrlSplit NetProbeSecurity TracedRun

-- ── Events of an iteration ────────────────────────────────────────────────────────

/-- The iteration an event belongs to. -/
def Event.hop : Event → Nat
  | .visit i _ | .validated i _ | .lookup i _ _ | .accepted i _ | .send i _ | .connect i _ => i

/-- The URLs a trace sends requests to, in order. -/
def sends (events : List Event) : List Str :=
  events.filterMap fun
    | .send _ url => some url
    | _ => none

section HopEvents

variable {py : Python} {net : Net} {i j : Nat} {u v ip : Str} {answer answer' : List Str}
  {host : Option Str}

@[simp] theorem send_mem_hopEvents : .send j v ∈ hopEvents py net i u answer ↔ j = i ∧ v = u := by
  simp [hopEvents]

@[simp] theorem connect_mem_hopEvents :
    .connect j ip ∈ hopEvents py net i u answer ↔ j = i ∧ ip ∈ net.dial i u := by
  simp only [hopEvents, List.mem_cons, List.mem_append, List.mem_map, reduceCtorEq, false_or,
    Event.connect.injEq, exists_eq_right_right, and_false, exists_false]
  constructor
  · rintro ⟨hip, rfl⟩
    exact ⟨rfl, hip⟩
  · rintro ⟨rfl, hip⟩
    exact ⟨hip, rfl⟩

/-- The connections of an iteration are those dialled for its request. -/
theorem connect_iff_send_hopEvents :
    .connect j ip ∈ hopEvents py net i u answer ↔
      ∃ v, .send j v ∈ hopEvents py net i u answer ∧ ip ∈ net.dial j v := by
  simp only [connect_mem_hopEvents, send_mem_hopEvents]
  constructor
  · rintro ⟨rfl, hip⟩
    exact ⟨u, ⟨rfl, rfl⟩, hip⟩
  · rintro ⟨v, ⟨rfl, rfl⟩, hip⟩
    exact ⟨rfl, hip⟩

@[simp] theorem accepted_mem_hopEvents :
    .accepted j ip ∈ hopEvents py net i u answer ↔ j = i ∧ ip ∈ answer := by
  simp only [hopEvents, List.mem_cons, List.mem_append, List.mem_map, reduceCtorEq, false_or,
    Event.accepted.injEq, exists_eq_right_right, and_false, exists_false, or_false, mem_sortedSet]
  constructor
  · rintro ⟨hip, rfl⟩
    exact ⟨rfl, hip⟩
  · rintro ⟨rfl, hip⟩
    exact ⟨hip, rfl⟩

@[simp] theorem lookup_mem_hopEvents :
    .lookup j host answer' ∈ hopEvents py net i u answer ↔
      j = i ∧ host = hopHost py u ∧ answer' = answer := by
  simp [hopEvents]

@[simp] theorem visit_mem_hopEvents : .visit j v ∉ hopEvents py net i u answer := by
  simp [hopEvents]

/-- The events of an iteration belong to its hop, and none of them visits it. -/
theorem hop_of_mem_hopEvents {o : Event} (h : o ∈ hopEvents py net i u answer) :
    i ≤ o.hop ∧ ∀ v, o ≠ .visit i v := by
  simp only [hopEvents, List.mem_cons, List.mem_append, List.mem_map] at h
  rcases h with rfl | ⟨ip, -, rfl⟩ | rfl | ⟨ip, -, rfl⟩ <;>
    exact ⟨Nat.le_refl i, fun v => by simp⟩

theorem sends_append (tr tr' : List Event) : sends (tr ++ tr') = sends tr ++ sends tr' :=
  List.filterMap_append

@[simp] theorem sends_hopEvents : sends (hopEvents py net i u answer) = [u] := by
  have haccepted : ∀ ips : List Str, sends (ips.map (.accepted i)) = [] := by
    intro ips
    simp [sends, List.filterMap_map]
  have hconnect : ∀ ips : List Str, sends (ips.map (.connect i)) = [] := by
    intro ips
    simp [sends, List.filterMap_map]
  show sends (.lookup i _ answer :: ((sortedSet answer).map (.accepted i) ++
    .send i u :: (net.dial i u).map (.connect i))) = [u]
  rw [← List.singleton_append, sends_append, sends_append, haccepted]
  show [] ++ ([] ++ u :: sends ((net.dial i u).map (.connect i))) = [u]
  rw [hconnect]
  rfl

theorem mem_sends {tr : List Event} : v ∈ sends tr ↔ ∃ i, .send i v ∈ tr := by
  rw [sends]
  rw [List.mem_filterMap]
  constructor
  · rintro ⟨o, ho, heq⟩
    cases o with
    | send i url =>
        cases heq
        exact ⟨i, ho⟩
    | _ => cases heq
  · rintro ⟨i, hi⟩
    exact ⟨_, hi, rfl⟩

/-- An iteration that is refused sends nothing. -/
theorem sends_of_check {tr : List Event} (h : ∀ o ∈ tr, CheckEvent net i host o) :
    sends tr = [] := by
  refine List.eq_nil_iff_forall_not_mem.mpr fun v hv => ?_
  obtain ⟨j, hj⟩ := mem_sends.mp hv
  exact h _ hj

end HopEvents

-- ── What holds of every derivation ────────────────────────────────────────────────

section Runs

variable {py : Python} {settings : Settings} {net : Net} {method : Str} {follow : Bool}
  {url u : Str} {i : Nat} {events : List Event} {out : Except ProbeError HttpCheckResult}

/-- An iteration belongs to its own hop or a later one, and visits later ones only. -/
theorem Loop.hop_le (h : Loop py settings net method follow url i u events out) :
    ∀ o ∈ events, i ≤ o.hop ∧ ∀ v, o ≠ .visit i v := by
  induction h with
  | refused hno hev =>
      intro o ho
      have := hev o ho
      cases o with
      | lookup j host answer => exact ⟨Nat.le_of_eq this.1.symm, fun v => by simp⟩
      | accepted j ip => exact ⟨Nat.le_of_eq this.symm, fun v => by simp⟩
      | _ => exact this.elim
  | failed hop hsend => exact fun o ho => hop_of_mem_hopEvents ho
  | finished hop hsend hlast => exact fun o ho => hop_of_mem_hopEvents ho
  | unjoined hop hsend hloc hjoin => exact fun o ho => hop_of_mem_hopEvents ho
  | @invalid i u next answer e hfollow hop hbad =>
      intro o ho
      rcases List.mem_append.mp ho with ho | ho
      · exact hop_of_mem_hopEvents ho
      · rw [List.mem_singleton.mp ho]
        exact ⟨Nat.le_succ i, fun v => by simp⟩
  | @followed i u next answer events out hfollow hop hvalid hrest ih =>
      intro o ho
      rcases List.mem_append.mp ho with ho | ho
      · exact hop_of_mem_hopEvents ho
      · rcases List.mem_cons.mp ho with rfl | ho
        · exact ⟨Nat.le_succ i, fun v => by simp⟩
        · rcases List.mem_cons.mp ho with rfl | ho
          · exact ⟨Nat.le_succ i, fun v => by simp⟩
          · have hle : i + 1 ≤ o.hop := (ih o ho).1
            refine ⟨by omega, ?_⟩
            rintro v rfl
            exact absurd hle (by simp [Event.hop])

/-- Where an iteration leads next is determined by the inputs. -/
theorem Follows.det {next next' : Str} (h : Follows py settings net method follow i u next)
    (h' : Follows py settings net method follow i u next') : next = next' := by
  obtain ⟨-, response, location, hsend, hloc, hjoin⟩ := h
  obtain ⟨-, response', location', hsend', hloc', hjoin'⟩ := h'
  rw [hsend] at hsend'
  cases hsend'
  rw [hloc] at hloc'
  cases hloc'
  rw [hjoin] at hjoin'
  exact Option.some.inj hjoin'

theorem HopAllowed.det {answer answer' : List Str}
    (h : HopAllowed py settings net method i u answer)
    (h' : HopAllowed py settings net method i u answer') : answer = answer' := by
  have := h.resolved.lookup
  rw [h'.resolved.lookup] at this
  exact (Except.ok.inj this).symm

/-- Without a next hop only the hop itself is reached. -/
theorem Reaches.eq_of_stuck {j : Nat} {v : Str}
    (hstuck : ∀ next, ¬ Follows py settings net method follow i u next)
    (h : Reaches py settings net method follow i u j v) : j = i ∧ v = u := by
  cases h with
  | here => exact ⟨rfl, rfl⟩
  | step hfollow hrest => exact absurd hfollow (hstuck _)

/-- The hops reached from one that has a next are itself and those reached from the next. -/
theorem Reaches.iff_of_follows {j : Nat} {v next : Str}
    (hfollow : Follows py settings net method follow i u next) :
    Reaches py settings net method follow i u j v ↔
      (j = i ∧ v = u) ∨ Reaches py settings net method follow (i + 1) next j v := by
  constructor
  · intro h
    cases h with
    | here => exact Or.inl ⟨rfl, rfl⟩
    | step hfollow' hrest =>
        rw [hfollow.det hfollow']
        exact Or.inr hrest
  · rintro (⟨rfl, rfl⟩ | h)
    · exact .here _ _
    · exact .step hfollow h

/-- A hop is refused if its URL or its lookup is: it is not allowed. -/
theorem reaches_next_refused {j : Nat} {v next : Str} {e : ProbeError}
    (hbad : validateUrl py next = .error e)
    (h : Reaches py settings net method follow (i + 1) next j v) :
    ¬ ∃ answer, HopAllowed py settings net method j v answer := by
  rintro ⟨answer, ha⟩
  have hstuck : ∀ m, ¬ Follows py settings net method follow (i + 1) next m := by
    rintro m ⟨⟨answer', ha'⟩, -⟩
    rw [ha'.valid] at hbad
    cases hbad
  obtain ⟨rfl, rfl⟩ := h.eq_of_stuck hstuck
  rw [ha.valid] at hbad
  cases hbad

/-- **Which requests are sent.** The loop sends exactly to the hops that are reached and
    allowed. -/
theorem Loop.send_mem_iff (h : Loop py settings net method follow url i u events out)
    {j : Nat} {v : Str} :
    .send j v ∈ events ↔ Reaches py settings net method follow i u j v ∧
      ∃ answer, HopAllowed py settings net method j v answer := by
  -- a hop without a next sends its own request and no other
  have last : ∀ {i : Nat} {u : Str} {answer : List Str},
      HopAllowed py settings net method i u answer →
        (∀ next, ¬ Follows py settings net method follow i u next) →
          (.send j v ∈ hopEvents py net i u answer ↔
            Reaches py settings net method follow i u j v ∧
              ∃ answer, HopAllowed py settings net method j v answer) := by
    intro i u answer hop hstuck
    rw [send_mem_hopEvents]
    constructor
    · rintro ⟨rfl, rfl⟩
      exact ⟨.here _ _, answer, hop⟩
    · rintro ⟨hr, -⟩
      exact hr.eq_of_stuck hstuck
  induction h with
  | @refused i u events e hno hev =>
      constructor
      · intro hmem
        exact (hev _ hmem).elim
      · rintro ⟨hr, answer, ha⟩
        have hstuck : ∀ next, ¬ Follows py settings net method follow i u next :=
          fun next hf => hf.allowed.elim hno
        obtain ⟨rfl, rfl⟩ := hr.eq_of_stuck hstuck
        exact absurd ha (hno answer)
  | failed hop hsend =>
      refine last hop fun next hf => ?_
      obtain ⟨-, response, location, hsend', -⟩ := hf
      rw [hsend] at hsend'
      cases hsend'
  | finished hop hsend hlast =>
      refine last hop fun next hf => ?_
      obtain ⟨-, response, location, hsend', hloc, -⟩ := hf
      rw [hsend] at hsend'
      cases hsend'
      rw [hlast] at hloc
      cases hloc
  | unjoined hop hsend hloc hjoin =>
      refine last hop fun next hf => ?_
      obtain ⟨-, response, location, hsend', hloc', hjoin'⟩ := hf
      rw [hsend] at hsend'
      cases hsend'
      rw [hloc] at hloc'
      cases hloc'
      rw [hjoin] at hjoin'
      cases hjoin'
  | @invalid i u next answer e hfollow hop hbad =>
      rw [List.mem_append, send_mem_hopEvents, Reaches.iff_of_follows hfollow]
      constructor
      · rintro (⟨rfl, rfl⟩ | hmem)
        · exact ⟨Or.inl ⟨rfl, rfl⟩, answer, hop⟩
        · simp at hmem
      · rintro ⟨heq | hr, ha⟩
        · exact Or.inl heq
        · exact absurd ha (reaches_next_refused hbad hr)
  | @followed i u next answer events out hfollow hop hvalid hrest ih =>
      rw [List.mem_append, send_mem_hopEvents, Reaches.iff_of_follows hfollow]
      simp only [List.mem_cons, reduceCtorEq, false_or, ih]
      constructor
      · rintro (⟨rfl, rfl⟩ | ⟨hr, ha⟩)
        · exact ⟨Or.inl ⟨rfl, rfl⟩, answer, hop⟩
        · exact ⟨Or.inr hr, ha⟩
      · rintro ⟨heq | hr, ha⟩
        · exact Or.inl heq
        · exact Or.inr ⟨hr, ha⟩

/-- The connections of an iteration are those the client dials for its request. -/
theorem Loop.connect_mem_iff (h : Loop py settings net method follow url i u events out)
    {j : Nat} {ip : Str} :
    .connect j ip ∈ events ↔ ∃ v, .send j v ∈ events ∧ ip ∈ net.dial j v := by
  induction h with
  | refused hno hev =>
      constructor
      · intro hmem
        exact (hev _ hmem).elim
      · rintro ⟨v, hmem, -⟩
        exact (hev _ hmem).elim
  | failed hop hsend => exact connect_iff_send_hopEvents
  | finished hop hsend hlast => exact connect_iff_send_hopEvents
  | unjoined hop hsend hloc hjoin => exact connect_iff_send_hopEvents
  | invalid hfollow hop hbad =>
      simp only [List.mem_append, List.mem_singleton, reduceCtorEq, or_false]
      exact connect_iff_send_hopEvents
  | followed hfollow hop hvalid hrest ih =>
      simp only [List.mem_append, List.mem_cons, reduceCtorEq, false_or, or_and_right, exists_or,
        ih, connect_iff_send_hopEvents]

/-- An iteration that sends has accepted exactly the answer of its lookup. -/
theorem Loop.accepted_mem_iff (h : Loop py settings net method follow url i u events out)
    {j : Nat} {v ip : Str} {answer : List Str} (hsend : .send j v ∈ events)
    (ha : HopAllowed py settings net method j v answer) :
    .accepted j ip ∈ events ↔ ip ∈ answer := by
  have block : ∀ {i : Nat} {u : Str} {answer' : List Str},
      HopAllowed py settings net method i u answer' → .send j v ∈ hopEvents py net i u answer' →
        (.accepted j ip ∈ hopEvents py net i u answer' ↔ ip ∈ answer) := by
    intro i u answer' hop hmem
    obtain ⟨rfl, rfl⟩ := send_mem_hopEvents.mp hmem
    rw [accepted_mem_hopEvents, hop.det ha]
    exact and_iff_right rfl
  induction h with
  | refused hno hev => exact (hev _ hsend).elim
  | failed hop hs => exact block hop hsend
  | finished hop hs hlast => exact block hop hsend
  | unjoined hop hs hloc hjoin => exact block hop hsend
  | invalid hfollow hop hbad =>
      simp only [List.mem_append, List.mem_singleton, reduceCtorEq, or_false] at hsend ⊢
      exact block hop hsend
  | @followed i u next answer' events out hfollow hop hvalid hrest ih =>
      simp only [List.mem_append, List.mem_cons, reduceCtorEq, false_or] at hsend ⊢
      rcases hsend with hs | hs
      · -- the later iterations have other numbers
        have hlater : .accepted j ip ∉ events := by
          intro hmem
          have hle : i + 1 ≤ j := (hrest.hop_le _ hmem).1
          have hji := (send_mem_hopEvents.mp hs).1
          omega
        rw [block hop hs]
        exact ⟨fun h => h.resolve_right fun hm => absurd hm (by simpa using hlater) , Or.inl⟩
      · have hle : i + 1 ≤ j := (hrest.hop_le _ hs).1
        have hrec : .accepted j ip ∈ events ↔ ip ∈ answer := ih hs
        rw [hrec, accepted_mem_hopEvents]
        constructor
        · rintro (⟨rfl, -⟩ | hip)
          · omega
          · exact hip
        · exact Or.inr

/-- What must have happened before a request is sent: its URL has been validated, and the
    addresses its iteration looked up have been accepted. -/
def SendGuard (py : Python) (settings : Settings) (hist : List Event) : Event → Prop
  | .send j v =>
      validateUrl py v = .ok v ∧ .validated j v ∈ hist ∧ ∃ answer,
        .lookup j (hopHost py v) answer ∈ hist ∧ answer ≠ [] ∧
          ∀ ip ∈ answer, .accepted j ip ∈ hist ∧ assertIpAllowed py settings ip = .ok ()
  | _ => True

theorem hopEvents_guarded {answer : List Str} {hist : List Event}
    (hop : HopAllowed py settings net method i u answer) (hv : .validated i u ∈ hist) :
    Guarded (SendGuard py settings) hist (hopEvents py net i u answer) := by
  refine
    ⟨trivial, guarded_append.mpr ⟨?_, ⟨hop.valid, ?_, answer, ?_, hop.resolved.nonempty, ?_⟩, ?_⟩⟩
  · refine guarded_of_free fun o ho hist => ?_
    obtain ⟨ip, -, rfl⟩ := List.mem_map.mp ho
    trivial
  · simp [hv]
  · simp
  · intro ip hip
    refine ⟨?_, hop.resolved.accepted ip hip⟩
    simp [mem_sortedSet, hip]
  · refine guarded_of_free fun o ho hist => ?_
    obtain ⟨ip, -, rfl⟩ := List.mem_map.mp ho
    trivial

/-- Every request of the loop is guarded, if the URL the loop starts with has been validated. -/
theorem Loop.guarded (h : Loop py settings net method follow url i u events out)
    {hist : List Event} (hv : .validated i u ∈ hist) :
    Guarded (SendGuard py settings) hist events := by
  induction h generalizing hist with
  | refused hno hev =>
      refine guarded_of_free fun o ho hist => ?_
      have := hev o ho
      cases o with
      | send j v => exact this.elim
      | _ => trivial
  | failed hop hsend => exact hopEvents_guarded hop hv
  | finished hop hsend hlast => exact hopEvents_guarded hop hv
  | unjoined hop hsend hloc hjoin => exact hopEvents_guarded hop hv
  | invalid hfollow hop hbad =>
      exact guarded_append.mpr ⟨hopEvents_guarded hop hv, trivial, trivial⟩
  | followed hfollow hop hvalid hrest ih =>
      refine guarded_append.mpr ⟨hopEvents_guarded hop hv, trivial, trivial, ih ?_⟩
      simp

/-- The redirect budget bounds the requests. -/
theorem Loop.sends_length_le (h : Loop py settings net method follow url i u events out) :
    (sends events).length ≤ 1 + (settings.max_redirects - i).toNat := by
  induction h with
  | refused hno hev =>
      rw [sends_of_check hev]
      exact Nat.zero_le _
  | failed hop hsend => simp
  | finished hop hsend hlast => simp
  | unjoined hop hsend hloc hjoin => simp
  | invalid hfollow hop hbad =>
      rw [sends_append, sends_hopEvents]
      simp [sends]
  | @followed i u next answer events out hfollow hop hvalid hrest ih =>
      obtain ⟨-, response, location, -, hloc, -⟩ := hfollow
      have hlt := lt_of_redirectTarget hloc
      have hcount : sends (hopEvents py net i u answer ++ .visit (i + 1) next ::
          .validated (i + 1) next :: events) = u :: sends events := by
        rw [sends_append, sends_hopEvents]
        rfl
      rw [hcount, List.length_cons]
      omega

/-- A result counts the redirects, and names the last URL a request went to. -/
theorem Loop.result (h : Loop py settings net method follow url i u events out)
    {result : HttpCheckResult} (hok : out = .ok result) :
    result.url = url ∧ result.redirect_count + 1 = i + (sends events).length ∧
      (sends events).getLast? = some result.final_url := by
  induction h with
  | refused hno hev => cases hok
  | failed hop hsend => cases hok
  | unjoined hop hsend hloc hjoin => cases hok
  | invalid hfollow hop hbad => cases hok
  | @finished i u answer response hop hsend hlast =>
      obtain ⟨h1, h2, h3⟩ := finish_ok hok
      rw [sends_hopEvents]
      refine ⟨h1, by rw [h3]; rfl, by rw [h2]; rfl⟩
  | @followed i u next answer events out hfollow hop hvalid hrest ih =>
      obtain ⟨h1, h2, h3⟩ := ih hok
      have hcount : sends (hopEvents py net i u answer ++ .visit (i + 1) next ::
          .validated (i + 1) next :: events) = u :: sends events := by
        rw [sends_append, sends_hopEvents]
        rfl
      rw [hcount]
      refine ⟨h1, by rw [h2, List.length_cons]; omega, ?_⟩
      cases hs : sends events with
      | nil =>
          rw [hs] at h3
          cases h3
      | cons v vs =>
          rw [hs] at h3
          rw [List.getLast?_cons_cons]
          exact h3

/-- A visited URL that is refused gets no request, and the check ends in an exception. -/
theorem Loop.refused_url (h : Loop py settings net method follow url i u events out)
    {j : Nat} {v : Str} {e : ProbeError} (hvisit : .visit j v ∈ events)
    (hbad : validateUrl py v = .error e) :
    (∀ w, .send j w ∉ events) ∧ ∃ e', out = .error e' := by
  induction h with
  | refused hno hev => exact (hev _ hvisit).elim
  | failed hop hsend => exact absurd hvisit visit_mem_hopEvents
  | finished hop hsend hlast => exact absurd hvisit visit_mem_hopEvents
  | unjoined hop hsend hloc hjoin => exact absurd hvisit visit_mem_hopEvents
  | @invalid i u next answer e' hfollow hop hbad' =>
      simp only [List.mem_append, visit_mem_hopEvents, false_or, List.mem_singleton,
        Event.visit.injEq] at hvisit
      obtain ⟨rfl, rfl⟩ := hvisit
      refine ⟨fun w hw => ?_, e', rfl⟩
      simp at hw
  | @followed i u next answer events out hfollow hop hvalid hrest ih =>
      simp only [List.mem_append, visit_mem_hopEvents, false_or, List.mem_cons, reduceCtorEq,
        Event.visit.injEq] at hvisit
      rcases hvisit with ⟨rfl, rfl⟩ | hvisit
      · rw [hvalid] at hbad
        cases hbad
      · obtain ⟨hno, herr⟩ := ih hvisit
        refine ⟨fun w hw => ?_, herr⟩
        simp only [List.mem_append, send_mem_hopEvents, List.mem_cons, reduceCtorEq,
          false_or] at hw
        rcases hw with ⟨rfl, -⟩ | hw
        · have hle : j + 1 ≤ j := (hrest.hop_le _ hvisit).1
          omega
        · exact hno w hw

/-- A lookup with a refused address gets no request, and the check ends in an exception. -/
theorem Loop.refused_ip (h : Loop py settings net method follow url i u events out)
    {j : Nat} {host : Option Str} {answer : List Str} {ip : Str}
    (hlook : .lookup j host answer ∈ events) (hip : ip ∈ answer)
    (hbad : assertIpAllowed py settings ip ≠ .ok ()) :
    (∀ w, .send j w ∉ events) ∧ ∃ e', out = .error e' := by
  -- an iteration that sends has had all its addresses accepted
  have head : ∀ {i : Nat} {u : Str} {answer' : List Str},
      HopAllowed py settings net method i u answer' →
        .lookup j host answer ∉ hopEvents py net i u answer' := by
    intro i u answer' hop hmem
    obtain ⟨-, -, rfl⟩ := lookup_mem_hopEvents.mp hmem
    exact hbad (hop.resolved.accepted ip hip)
  induction h with
  | refused hno hev => exact ⟨fun w hw => (hev _ hw).elim, _, rfl⟩
  | failed hop hsend => exact absurd hlook (head hop)
  | finished hop hsend hlast => exact absurd hlook (head hop)
  | unjoined hop hsend hloc hjoin => exact absurd hlook (head hop)
  | invalid hfollow hop hbad' =>
      simp only [List.mem_append, List.mem_singleton, reduceCtorEq, or_false] at hlook
      exact absurd hlook (head hop)
  | @followed i u next answer' events out hfollow hop hvalid hrest ih =>
      simp only [List.mem_append, List.mem_cons, reduceCtorEq, false_or] at hlook
      rcases hlook with hlook | hlook
      · exact absurd hlook (head hop)
      · obtain ⟨hno, herr⟩ := ih hlook
        refine ⟨fun w hw => ?_, herr⟩
        simp only [List.mem_append, send_mem_hopEvents, List.mem_cons, reduceCtorEq,
          false_or] at hw
        rcases hw with ⟨rfl, -⟩ | hw
        · have hle : j + 1 ≤ j := (hrest.hop_le _ hlook).1
          omega
        · exact hno w hw

/-- Without following redirects an allowed hop gets one request, a refused one none and the
    check ends in an exception. -/
theorem Loop.sends_unfollowed (h : Loop py settings net method false url i u events out) :
    ((∃ answer, HopAllowed py settings net method i u answer) → (sends events).length = 1) ∧
      ((¬ ∃ answer, HopAllowed py settings net method i u answer) →
        sends events = [] ∧ ∃ e, out = .error e) := by
  have stuck : ∀ {i : Nat} {u next : Str}, ¬ Follows py settings net method false i u next := by
    rintro i u next ⟨-, response, location, -, hloc, -⟩
    simp [redirectTarget] at hloc
  cases h with
  | refused hno hev =>
      exact ⟨fun ⟨answer, ha⟩ => absurd ha (hno answer), fun _ => ⟨sends_of_check hev, _, rfl⟩⟩
  | failed hop hsend => exact ⟨fun _ => by simp, fun hn => absurd ⟨_, hop⟩ hn⟩
  | finished hop hsend hlast => exact ⟨fun _ => by simp, fun hn => absurd ⟨_, hop⟩ hn⟩
  | unjoined hop hsend hloc hjoin => exact ⟨fun _ => by simp, fun hn => absurd ⟨_, hop⟩ hn⟩
  | invalid hfollow hop hbad => exact absurd hfollow stuck
  | followed hfollow hop hvalid hrest => exact absurd hfollow stuck

end Runs

-- ── The check as a whole ──────────────────────────────────────────────────────────

section Check

variable (py : Python) (settings : Settings) (net : Net) (url method : Str) (follow : Bool)

/-- The check refuses its URL at once, or runs the loop on it. -/
theorem performHttpCheck_cases :
    (∃ e, validateUrl py url = .error e ∧
      performHttpCheck py settings net url method follow = ⟨[.visit 0 url], .error e⟩) ∨
    (validateUrl py url = .ok url ∧ ∃ events out,
      Loop py settings net method follow url 0 url events out ∧
        performHttpCheck py settings net url method follow =
          ⟨.visit 0 url :: .validated 0 url :: events, out⟩) := by
  rw [performHttpCheck]
  cases hv : validateUrl py url with
  | error e => exact Or.inl ⟨e, rfl, rfl⟩
  | ok v =>
      have hvu : v = url := (validateUrl_ok hv).1
      subst hvu
      exact Or.inr ⟨rfl, _, _, checkLoop_loop v 0 v hv, rfl⟩

section Parts

variable {py : Python} {settings : Settings} {net : Net} {url method : Str} {follow : Bool}

/-- A check that refuses its URL at once sends nothing and ends in an exception. -/
theorem performHttpCheck_refused {e : ProbeError} (hbad : validateUrl py url = .error e) :
    sends (performHttpCheck py settings net url method follow).events = [] ∧
      ∃ e', (performHttpCheck py settings net url method follow).outcome = .error e' := by
  rcases performHttpCheck_cases py settings net url method follow with
    ⟨e, -, heq⟩ | ⟨hvalid, -⟩
  · rw [heq]
    exact ⟨rfl, e, rfl⟩
  · rw [hbad] at hvalid
    cases hvalid

/-- Before each request of a check its guard holds. -/
theorem performHttpCheck_guarded :
    Guarded (SendGuard py settings) []
      (performHttpCheck py settings net url method follow).events := by
  rcases performHttpCheck_cases py settings net url method follow with
    ⟨e, -, heq⟩ | ⟨-, events, out, hloop, heq⟩
  · rw [heq]
    exact ⟨trivial, trivial⟩
  · rw [heq]
    exact ⟨trivial, trivial, hloop.guarded (by simp)⟩

/-- A URL that is refused gets no request, and the check ends in an exception. -/
theorem performHttpCheck_refused_url {j : Nat} {v : Str} {e : ProbeError}
    (hvisit : .visit j v ∈ (performHttpCheck py settings net url method follow).events)
    (hbad : validateUrl py v = .error e) :
    (∀ w, .send j w ∉ (performHttpCheck py settings net url method follow).events) ∧
      ∃ e', (performHttpCheck py settings net url method follow).outcome = .error e' := by
  rcases performHttpCheck_cases py settings net url method follow with
    ⟨e, -, heq⟩ | ⟨hvalid, events, out, hloop, heq⟩
  · rw [heq]
    exact ⟨fun w => by simp, e, rfl⟩
  · rw [heq] at hvisit ⊢
    simp only [List.mem_cons, Event.visit.injEq, reduceCtorEq, false_or] at hvisit
    rcases hvisit with ⟨rfl, rfl⟩ | hvisit
    · rw [hvalid] at hbad
      cases hbad
    · obtain ⟨hno, herr⟩ := hloop.refused_url hvisit hbad
      exact ⟨fun w hw => hno w (by simpa using hw), herr⟩

/-- A lookup with a refused address gets no request, and the check ends in an exception. -/
theorem performHttpCheck_refused_ip {j : Nat} {host : Option Str} {answer : List Str} {ip : Str}
    (hlook : .lookup j host answer ∈ (performHttpCheck py settings net url method follow).events)
    (hip : ip ∈ answer) (hbad : assertIpAllowed py settings ip ≠ .ok ()) :
    (∀ w, .send j w ∉ (performHttpCheck py settings net url method follow).events) ∧
      ∃ e', (performHttpCheck py settings net url method follow).outcome = .error e' := by
  rcases performHttpCheck_cases py settings net url method follow with
    ⟨e, -, heq⟩ | ⟨-, events, out, hloop, heq⟩
  · rw [heq]
    exact ⟨fun w => by simp, e, rfl⟩
  · rw [heq] at hlook ⊢
    simp only [List.mem_cons, reduceCtorEq, false_or] at hlook
    obtain ⟨hno, herr⟩ := hloop.refused_ip hlook hip hbad
    exact ⟨fun w hw => hno w (by simpa using hw), herr⟩

/-- The requests of a check that does not refuse its URL are those of its loop. -/
theorem sends_of_loop {events : List Event} {out : Except ProbeError HttpCheckResult}
    (heq : performHttpCheck py settings net url method follow =
      ⟨.visit 0 url :: .validated 0 url :: events, out⟩) :
    sends (performHttpCheck py settings net url method follow).events = sends events := by
  rw [heq]
  rfl

theorem performHttpCheck_sends_length_le :
    (sends (performHttpCheck py settings net url method follow).events).length ≤
      1 + settings.max_redirects.toNat := by
  rcases performHttpCheck_cases py settings net url method follow with
    ⟨e, hbad, -⟩ | ⟨-, events, out, hloop, heq⟩
  · rw [(performHttpCheck_refused hbad).1]
    exact Nat.zero_le _
  · rw [sends_of_loop heq]
    simpa using hloop.sends_length_le

/-- Without following redirects an allowed URL gets one request, a refused one none. -/
theorem performHttpCheck_unfollowed :
    ((∃ answer, HopAllowed py settings net method 0 url answer) →
      (sends (performHttpCheck py settings net url method false).events).length = 1) ∧
    ((¬ ∃ answer, HopAllowed py settings net method 0 url answer) →
      sends (performHttpCheck py settings net url method false).events = [] ∧
        ∃ e, (performHttpCheck py settings net url method false).outcome = .error e) := by
  rcases performHttpCheck_cases py settings net url method false with
    ⟨e, hbad, -⟩ | ⟨-, events, out, hloop, heq⟩
  · refine ⟨fun ⟨answer, ha⟩ => ?_, fun _ => performHttpCheck_refused hbad⟩
    have := ha.valid
    rw [hbad] at this
    cases this
  · rw [sends_of_loop heq, heq]
    exact hloop.sends_unfollowed

/-- What a result says about the requests of its check. -/
theorem performHttpCheck_result {result : HttpCheckResult}
    (hok : (performHttpCheck py settings net url method follow).outcome = .ok result) :
    result.url = url ∧
      (result.redirect_count : Int) =
        (sends (performHttpCheck py settings net url method follow).events).length - 1 ∧
      (sends (performHttpCheck py settings net url method follow).events).getLast? =
        some result.final_url := by
  rcases performHttpCheck_cases py settings net url method follow with
    ⟨e, hbad, -⟩ | ⟨-, events, out, hloop, heq⟩
  · obtain ⟨e', he'⟩ := (performHttpCheck_refused hbad).2
    rw [he'] at hok
    cases hok
  · rw [sends_of_loop heq]
    rw [heq] at hok
    obtain ⟨hurl, hcount, hlast⟩ := hloop.result hok
    refine ⟨hurl, ?_, hlast⟩
    omega

end Parts

/-- **Safety and bound of the redirect loop.**

    * A request is sent only after its URL has passed `validate_url` and every address of the
      lookup of its iteration has been accepted.
    * A URL that is refused, and a lookup with an address that is refused, gets no request,
      and the check ends in an exception.
    * There are at most `1 + max_redirects` requests; if redirects are not followed, exactly
      one, unless the hop is refused.
    * A result carries the caller's URL, the number of redirects and the last URL sent. -/
theorem redirect_loop_safe :
    let check := performHttpCheck py settings net url method follow
    (∀ pre j v post, check.events = pre ++ .send j v :: post →
      SendGuard py settings pre (.send j v)) ∧
    (∀ j v e, .visit j v ∈ check.events → validateUrl py v = .error e →
      (∀ w, .send j w ∉ check.events) ∧ ∃ e', check.outcome = .error e') ∧
    (∀ j host answer ip, .lookup j host answer ∈ check.events → ip ∈ answer →
      assertIpAllowed py settings ip ≠ .ok () →
        (∀ w, .send j w ∉ check.events) ∧ ∃ e', check.outcome = .error e') ∧
    (sends check.events).length ≤ 1 + settings.max_redirects.toNat ∧
    (follow = false →
      ((∃ answer, HopAllowed py settings net method 0 url answer) →
        (sends check.events).length = 1) ∧
      ((¬ ∃ answer, HopAllowed py settings net method 0 url answer) →
        sends check.events = [] ∧ ∃ e, check.outcome = .error e)) ∧
    ∀ result, check.outcome = .ok result →
      result.url = url ∧ (result.redirect_count : Int) = (sends check.events).length - 1 ∧
        (sends check.events).getLast? = some result.final_url := by
  intro check
  refine ⟨?_, ?_, ?_, performHttpCheck_sends_length_le, ?_, ?_⟩
  · intro pre j v post h
    have hguard : Guarded (SendGuard py settings) [] check.events := performHttpCheck_guarded
    rw [h] at hguard
    exact hguard.at
  · intro j v e hvisit hbad
    exact performHttpCheck_refused_url hvisit hbad
  · intro j host answer ip hlook hip hbad
    exact performHttpCheck_refused_ip hlook hip hbad
  · rintro rfl
    exact performHttpCheck_unfollowed
  · intro result hok
    exact performHttpCheck_result hok

/-- **What pins the targets.** Every connection of a check goes to an address that was
    accepted in its iteration, exactly if for every hop that gets a request the client's own
    lookup stays within the answer that the iteration has checked. -/
theorem pinned_iff_dial_within_lookup :
    (∀ i ip, .connect i ip ∈ (performHttpCheck py settings net url method follow).events →
      .accepted i ip ∈ (performHttpCheck py settings net url method follow).events) ↔
    ∀ i v answer, Reaches py settings net method follow 0 url i v →
      HopAllowed py settings net method i v answer → ∀ ip ∈ net.dial i v, ip ∈ answer := by
  rcases performHttpCheck_cases py settings net url method follow with
    ⟨e, hbad, heq⟩ | ⟨hvalid, events, out, hloop, heq⟩
  · rw [heq]
    constructor
    · intro _ i v answer hr ha
      have hstuck : ∀ next, ¬ Follows py settings net method follow 0 url next := by
        rintro next ⟨⟨answer', ha'⟩, -⟩
        have := ha'.valid
        rw [hbad] at this
        cases this
      obtain ⟨rfl, rfl⟩ := hr.eq_of_stuck hstuck
      have := ha.valid
      rw [hbad] at this
      cases this
    · intro _ i ip hmem
      simp at hmem
  · rw [heq]
    simp only [List.mem_cons, reduceCtorEq, false_or]
    constructor
    · intro hpinned i v answer hr ha ip hip
      have hsend : .send i v ∈ events := hloop.send_mem_iff.mpr ⟨hr, answer, ha⟩
      have hconnect := hloop.connect_mem_iff.mpr ⟨v, hsend, hip⟩
      exact (hloop.accepted_mem_iff hsend ha).mp (hpinned i ip hconnect)
    · intro hdial i ip hconnect
      obtain ⟨v, hsend, hip⟩ := hloop.connect_mem_iff.mp hconnect
      obtain ⟨hr, answer, ha⟩ := hloop.send_mem_iff.mp hsend
      exact (hloop.accepted_mem_iff hsend ha).mpr (hdial i v answer hr ha ip hip)

end Check

/-- A resolver that answers the check with a public address and the client with the loopback
    address. -/
def rebindingNet : Net where
  getaddrinfo := fun _ _ => .ok [str "93.184.216.34"]
  build_request := fun _ _ => .ok ()
  dial := fun _ _ => [str "127.0.0.1"]
  send := fun _ _ _ => .error .connectError
  join := fun _ _ => none
  elapsed_ms := 0

/-- With private targets refused, the check of an ordinary URL connects to the loopback
    address, which no `assert_ip_allowed` accepted. -/
theorem pinned_fails_on_rebinding :
    let settings : Settings := {}
    let check := performHttpCheck .asciiOnly settings rebindingNet (str "http://example.com/")
      (str "GET") true
    settings.allow_private_targets = false ∧ .connect 0 (str "127.0.0.1") ∈ check.events ∧
      .accepted 0 (str "127.0.0.1") ∉ check.events ∧
        assertIpAllowed .asciiOnly settings (str "127.0.0.1") ≠ .ok () := by
  intro settings check
  have hallowed : HopAllowed .asciiOnly settings rebindingNet (str "GET") 0
      (str "http://example.com/") [str "93.184.216.34"] := by
    refine ⟨by decide +kernel, ⟨rfl, by decide, ?_⟩, rfl⟩
    intro ip hip
    rw [List.mem_singleton.mp hip]
    decide +kernel
  rcases performHttpCheck_cases .asciiOnly settings rebindingNet (str "http://example.com/")
      (str "GET") true with ⟨e, hbad, -⟩ | ⟨-, events, out, hloop, heq⟩
  · rw [hallowed.valid] at hbad
    cases hbad
  · have hsend := hloop.send_mem_iff.mpr ⟨.here _ _, _, hallowed⟩
    have hevents : check.events = .visit 0 (str "http://example.com/") ::
        .validated 0 (str "http://example.com/") :: events := by
      show (performHttpCheck _ settings _ _ _ _).events = _
      rw [heq]
    rw [hevents]
    simp only [List.mem_cons, reduceCtorEq, false_or]
    refine ⟨rfl, hloop.connect_mem_iff.mpr ⟨_, hsend, by simp [rebindingNet]⟩, ?_,
      by decide +kernel⟩
    rw [hloop.accepted_mem_iff hsend hallowed]
    decide

end NetProbeHttpService
