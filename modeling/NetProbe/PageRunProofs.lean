import Mathlib.Data.List.Pairwise
import Mathlib.Logic.Function.Basic
import NetProbe.PageViewProofs
import NetProbe.RunProofs

/-!
# The page at work

`app/static/js/app.js` as the tabs of a browser run it: the forms and their checks, the requests
with the buttons that are disabled meanwhile, and the history in `localStorage`, which the tabs
share.  A handler runs to its end before the next of its tab, but between two of its accesses to
the storage the other tabs go on.

Whatever the API, the servers that were probed and the user send, and whichever accesses to the
storage fail, the page assigns only markup of its own templates to `innerHTML`, a tool has at
most one request under way, and the storage holds at most five entries.
-/

namespace NetProbePageRun

open NetProbePyText NetProbePersistence NetProbePageView HtmlText LabelledRun

-- ── Forms ─────────────────────────────────────────────────────────────────────────

/-- What a request is sent with; `client` has no body. -/
inductive Payload where
  | http (url method : Str) (timeout_seconds : InputNumber) (follow_redirects : Bool)
  | port (host : Str) (number timeout_seconds : InputNumber)
  | dns (domain record_type : Str)
  | client
  deriving DecidableEq, Repr

def Payload.tool : Payload → Tool
  | .http .. => .http
  | .port .. => .port
  | .dns .. => .dns
  | .client => .client

/-- The inputs of a form; an input of numbers that holds none is `none`. -/
inductive Form where
  | http (url method : Str) (timeout : Option InputNumber) (follow : Bool)
  | port (host : Str) (number timeout : Option InputNumber)
  | dns (domain recordType : Str)
  deriving DecidableEq, Repr

/-- The fields with a text for their error. -/
inductive Field where
  | url
  | host
  | port
  | domain
  deriving DecidableEq, Repr

/-- `Number(input.value)`; that of an empty input is zero. -/
def toNumber (value : Option InputNumber) : InputNumber := value.getD ⟨0, str "0"⟩

/-- What follows the word, whatever the case of its letters. -/
def afterWord (word : String) (text : Str) : Option Str :=
  if (text.take word.length).map Char.toLower = str word then some (text.drop word.length) else none

/-- What follows `/^https?:\/\//i`. -/
def afterScheme (text : Str) : Option Str :=
  (afterWord "https://" text).or (afterWord "http://" text)

def isLineEnd (c : Char) : Bool := c = '\n' || c = '\r' || c = '\u2028' || c = '\u2029'

/-- `/^https?:\/\/.+/i.test(url)` -/
def isHttpUrl (url : Str) : Bool :=
  match afterScheme url with
  | some (c :: _) => !isLineEnd c
  | _ => false

def Form.fields : Form → List Field
  | .http .. => [.url]
  | .port .. => [.host, .port]
  | .dns .. => [.domain]

/-- The errors of the fields. -/
def Form.errors : Form → List (Field × Str)
  | .http url _ _ _ =>
      let url := trim url
      if url = [] then [(.url, str "URL을 입력해 주세요.")]
      else if isHttpUrl url = false then
        [(.url, str "http:// 또는 https:// 로 시작하는 URL을 입력해 주세요.")]
      else []
  | .port host number _ =>
      let port := (toNumber number).value
      (if trim host = [] then [(.host, str "호스트를 입력해 주세요.")] else []) ++
        (if port = 0 ∨ port < 1 ∨ 65535 < port then
          [(.port, str "포트는 1~65535 사이의 숫자여야 합니다.")] else [])
  | .dns domain _ =>
      let domain := trim domain
      if domain = [] ∨ (afterScheme domain).isSome ∨ '/' ∈ domain then
        [(.domain, str "스킴과 경로 없이 순수 도메인만 입력해 주세요. 예: example.com")]
      else []

/-- `Number(input.value) || default` -/
def orNumber (value : Option InputNumber) (default : InputNumber) : InputNumber :=
  if (toNumber value).value = 0 then default else toNumber value

def Form.payload : Form → Payload
  | .http url method timeout follow =>
      .http (trim url) method (orNumber timeout ⟨5, str "5"⟩) follow
  | .port host number timeout => .port (trim host) (toNumber number) (orNumber timeout ⟨3, str "3"⟩)
  | .dns domain recordType => .dns (trim domain) recordType

/-- A request that passed the checks of its form. -/
def Payload.Valid : Payload → Prop
  | .http url _ _ _ => isHttpUrl url = true
  | .port host number _ => host ≠ [] ∧ 1 ≤ number.value ∧ number.value ≤ 65535
  | .dns domain _ => domain ≠ [] ∧ '/' ∉ domain
  | .client => True

theorem Form.payload_valid {form : Form} (h : form.errors = []) : form.payload.Valid := by
  cases form with
  | http url method timeout follow =>
      by_cases hempty : trim url = []
      · simp [Form.errors, hempty] at h
      · show isHttpUrl (trim url) = true
        by_contra hurl
        simp [Form.errors, hempty, hurl] at h
  | port host number timeout =>
      obtain ⟨hhost, hport⟩ := List.append_eq_nil_iff.mp h
      refine ⟨?_, ?_⟩
      · intro hempty
        simp [hempty] at hhost
      · by_contra hrange
        have hout : (toNumber number).value < 1 ∨ 65535 < (toNumber number).value := by
          by_cases hlow : (toNumber number).value < 1
          · exact .inl hlow
          · exact .inr (Rat.not_le.mp fun hhigh => hrange ⟨Rat.not_lt.mp hlow, hhigh⟩)
        rw [if_pos (.inr hout)] at hport
        cases hport
  | dns domain recordType =>
      by_cases hbad : trim domain = [] ∨ (afterScheme (trim domain)).isSome ∨ '/' ∈ trim domain
      · simp only [Form.errors, if_pos hbad] at h
        cases h
      · exact ⟨fun he => hbad (.inl he), fun hmem => hbad (.inr (.inr hmem))⟩

-- ── Replies ───────────────────────────────────────────────────────────────────────

/-- `envelope.data` -/
inductive Data where
  | http (d : HttpCheckData)
  | port (d : PortCheckData)
  | dns (d : DnsLookupData)
  | client (d : ClientInfoData)
  deriving DecidableEq, Repr

/-- `envelope`; a part that is `null` or missing is `none`. -/
inductive Envelope where
  | failure (error : Option (Str × Str)) (info : Option Meta)
  | success (data : Option Data) (info : Option Meta)
  deriving DecidableEq, Repr

/-- How `fetch` and `response.json()` end. -/
inductive Reply where
  | networkError
  | unauthorized
  | notJson
  | envelope (e : Envelope)
  deriving DecidableEq, Repr

/-- The envelope `callApi` returns.  Left out are JSON that is no envelope, and a CSRF cookie that
    `decodeURIComponent` refuses: the call then throws, and the button stays disabled. -/
def callApi : Reply → Envelope
  | .networkError => .failure (some (str "NETWORK_ERROR",
      str "서버에 연결할 수 없습니다. 네트워크 상태를 확인해 주세요.")) none
  | .unauthorized => .failure (some (str "AUTHENTICATION_REQUIRED", str "로그인이 필요합니다.")) none
  | .notJson => .failure (some (str "INTERNAL_SERVER_ERROR", str "서버 응답을 해석할 수 없습니다.")) none
  | .envelope e => e

/-- The data as the result of the request, if they are of its tool. -/
def Payload.result : Payload → Data → Option Result
  | .http url _ _ _, .http d => some (.http url d)
  | .port host number _, .port d => some (.port host number d)
  | .dns domain recordType, .dns d => some (.dns domain recordType d)
  | .client, .client d => some (.client d)
  | _, _ => none

/-- A reply with the data of another tool is none of the API's. -/
def Reply.Fits (payload : Payload) : Reply → Prop
  | .envelope (.success (some d) _) => (payload.result d).isSome
  | _ => True

instance (payload : Payload) (reply : Reply) : Decidable (reply.Fits payload) := by
  unfold Reply.Fits
  split <;> infer_instance

-- ── History ───────────────────────────────────────────────────────────────────────

def MAX_HISTORY : Nat := 5

theorem comma_separator : ∃ n, [','] = ',' :: List.replicate n ' ' := ⟨0, rfl⟩

theorem colon_separator : ∃ n, [':'] = ':' :: List.replicate n ' ' := ⟨0, rfl⟩

/-- How `JSON.stringify` writes. -/
def compact : JsonText.Style where
  ensure_ascii := false
  item_separator := [',']
  key_separator := [':']
  item_comma := comma_separator
  key_colon := colon_separator

def itemJson (item : HistoryItem) : JsonText.Json :=
  .obj [(str "kind", .str item.kind), (str "summary", .str item.summary),
    (str "statusClass", .str item.statusClass), (str "timestamp", .str item.timestamp)]

/-- An entry as the page writes it. -/
def itemOf : JsonText.Json → Option HistoryItem
  | .obj [(k₁, .str kind), (k₂, .str summary), (k₃, .str statusClass), (k₄, .str timestamp)] =>
      if [k₁, k₂, k₃, k₄] = [str "kind", str "summary", str "statusClass", str "timestamp"] then
        some ⟨kind, summary, statusClass, timestamp⟩
      else none
  | _ => none

/-- `JSON.stringify(history)` -/
def writeHistory (history : List HistoryItem) : Str :=
  JsonText.dumps compact (.arr (history.map itemJson))

/-- `loadHistory()` where `getItem` does not fail; a value that is no list of entries is `none`. -/
def loadHistory : Option Str → Option (List HistoryItem)
  | none => some []
  | some raw =>
      if raw = [] then some []
      else match JsonText.loads raw with
        | none => some []
        | some (.arr items) => items.mapM itemOf
        | some _ => none

theorem itemOf_itemJson (item : HistoryItem) : itemOf (itemJson item) = some item := rfl

/-- **The history is read back from the storage** as it was written. -/
theorem loadHistory_write (history : List HistoryItem) :
    loadHistory (some (writeHistory history)) = some history := by
  have hitems : (history.map itemJson).mapM itemOf = some history := by
    induction history with
    | nil => rfl
    | cons item history ih =>
        rw [List.map_cons, List.mapM_cons, itemOf_itemJson, ih]
        rfl
  have hraw : writeHistory history ≠ [] := by
    rw [writeHistory, JsonText.dumps]
    exact List.cons_ne_nil _ _
  rw [loadHistory, if_neg hraw, writeHistory, JsonText.loads_dumps]
  exact hitems

/-- The entry a result is recorded with. -/
def Payload.entry (payload : Payload) (outcome statusClass now : Str) : Option HistoryItem :=
  match payload with
  | .http url _ _ _ => some ⟨str "HTTP", url ++ (str " → " ++ outcome), statusClass, now⟩
  | .port host number _ =>
      some ⟨str "PORT", host ++ ':' :: (number.text ++ (str " → " ++ outcome)), statusClass, now⟩
  | .dns domain recordType =>
      some ⟨str "DNS", domain ++ (str " (" ++ (recordType ++ (str ") → " ++ outcome))),
        statusClass, now⟩
  | .client => none

-- ── Page ──────────────────────────────────────────────────────────────────────────

/-- A request under way: which one, and what its handler holds. -/
structure Request where
  number : Nat
  payload : Payload
  deriving DecidableEq, Repr

/-- What the script of a tab does next to the storage. -/
inductive Script where
  | idle
  | load (entry : HistoryItem)
  | save (history : List HistoryItem)
  | remove
  | render
  deriving DecidableEq, Repr

/-- The page in a tab.  `busy` is a disabled button, or `clientInfoLoading`; `controller` is the
    request of an `AbortController`. -/
structure Page where
  error : Field → Str
  area : Tool → Str
  busy : Tool → Bool
  controller : Tool → Option Nat
  pending : List Request
  sent : Nat
  aborted : List Request
  redirected : Bool
  historyCount : Str
  historyList : Str
  script : Script

/-- The page after `DOMContentLoaded`, before `renderHistory()` has read the storage. -/
def Page.loaded : Page where
  error := fun _ => []
  area := initialHtml
  busy := fun _ => false
  controller := fun _ => none
  pending := []
  sent := 0
  aborted := []
  redirected := false
  historyCount := str "0"
  historyList := []
  script := .render

/-- The errors of the fields of a form are shown, those of last time are not. -/
def Page.report (p : Page) (form : Form) : Page :=
  { p with
    error := fun f => (form.errors.lookup f).getD (if f ∈ form.fields then [] else p.error f) }

/-- `if (abortController) abortController.abort()` -/
def Page.abort (p : Page) (tool : Tool) : Page :=
  match p.controller tool with
  | none => p
  | some n =>
      { p with
        pending := p.pending.filter (·.number ≠ n)
        aborted := p.aborted ++ p.pending.filter (·.number = n) }

/-- The button is disabled and the request is sent. -/
def Page.send (p : Page) (payload : Payload) : Page :=
  { p with
    busy := Function.update p.busy payload.tool true
    area := Function.update p.area payload.tool (busyHtml payload.tool)
    pending := ⟨p.sent, payload⟩ :: p.pending
    sent := p.sent + 1 }

/-- `abortController = new AbortController()`, for the request that is sent next -/
def Page.control (p : Page) (tool : Tool) : Page :=
  { p with controller := Function.update p.controller tool (some p.sent) }

/-- The handlers of `submit`. -/
def Page.submit (p : Page) (form : Form) : Page :=
  let p := p.report form
  if form.errors = [] then ((p.abort form.payload.tool).control form.payload.tool).send form.payload
    else p

/-- `loadClientInfo()`, up to the call -/
def Page.loadClientInfo (p : Page) : Page := if p.busy .client then p else p.send .client

section Pages

variable (localTime : Str → Str)

/-- `container.innerHTML = ...` -/
def Page.put (p : Page) (tool : Tool) (content : Content) : Page :=
  { p with area := Function.update p.area tool (content.html localTime tool) }

/-- `saveHistoryEntry(entry)`, up to `loadHistory()` -/
def Page.saveHistoryEntry (p : Page) : Option HistoryItem → Page
  | none => p
  | some entry => { p with script := .load entry }

/-- The request is over: its button is no longer disabled. -/
def Page.settle (p : Page) (r : Request) : Page :=
  { p with
    pending := p.pending.filter (· ≠ r)
    busy := Function.update p.busy r.payload.tool false }

/-- The handler after `await callApi(...)`; without data or `meta` it fails before anything is
    shown. -/
def Page.finish (p : Page) (r : Request) (envelope : Envelope) (now : Str) : Page :=
  let p := p.settle r
  match envelope with
  | .failure error info =>
      (p.put localTime r.payload.tool (.failed error info)).saveHistoryEntry
        (r.payload.entry ((error.map Prod.fst).getD (str "ERROR")) StatusClass.error.text now)
  | .success (some d) (some info) =>
      match r.payload.result d with
      | none => p
      | some result =>
          (p.put localTime r.payload.tool (.result result info)).saveHistoryEntry
            (r.payload.entry result.badge result.statusClass.text now)
  | .success _ _ => p

/-- `if (response.status === 401) location.replace("/login")` -/
def Page.redirect (p : Page) (reply : Reply) : Page :=
  { p with redirected := p.redirected || reply = .unauthorized }

/-- `renderHistory()` with the history that was read -/
def Page.renderHistory (p : Page) (history : List HistoryItem) : Page :=
  { p with
    historyCount := JsonText.intText history.length
    historyList := historyHtml localTime history
    script := .idle }

-- ── Browser ───────────────────────────────────────────────────────────────────────

/-- The tabs with the page, and the storage they share.  `recorded` are the entries so far, the
    newest first, and `recent` those since the history was last cleared. -/
structure Browser where
  stored : Option Str
  tab : Nat → Page
  recorded : List HistoryItem
  recent : List HistoryItem

def Browser.initial : Browser := ⟨none, fun _ => .loaded, [], []⟩

/-- What happens in a tab. -/
inductive Action where
  | reload
  | submit (form : Form)
  | loadClientInfo
  | respond (number : Nat) (reply : Reply) (now : Str)
  | clearHistory
  | access (fails : Bool)
  deriving DecidableEq, Repr

def Browser.setTab (b : Browser) (i : Nat) (p : Page) : Browser :=
  { b with tab := Function.update b.tab i p }

/-- A handler, or its part up to its next access to the storage. -/
def Page.handle (p : Page) : Action → Option Page
  | .reload => some .loaded
  | .submit form => if p.busy form.payload.tool then none else some (p.submit form)
  | .loadClientInfo => some p.loadClientInfo
  | .respond number reply now =>
      match p.pending.find? (·.number = number) with
      | none => none
      | some r =>
          if reply.Fits r.payload then
            some ((p.redirect reply).finish localTime r (callApi reply) now) else none
  | .clearHistory => some { p with script := .remove }
  | .access _ => none

/-- The next access of a tab to the storage. -/
def Browser.access (b : Browser) (i : Nat) (fails : Bool) : Option Browser :=
  let p := b.tab i
  let history := if fails then some [] else loadHistory b.stored
  match p.script with
  | .idle => none
  | .load entry =>
      match history with
      | none => some (b.setTab i { p with script := .idle })
      | some history =>
          let p := { p with script := .save ((entry :: history).take MAX_HISTORY) }
          some { b.setTab i p with recorded := entry :: b.recorded, recent := entry :: b.recent }
  | .save history =>
      some { b.setTab i { p with script := .render } with
        stored := if fails then b.stored else some (writeHistory history) }
  | .remove =>
      some { b.setTab i { p with script := .render } with
        stored := if fails then b.stored else none
        recent := if fails then b.recent else [] }
  | .render =>
      match history with
      | none => some (b.setTab i { p with script := .idle })
      | some history => some (b.setTab i (p.renderHistory localTime history))

/-- A step of a tab: an access, or a handler if none is running there. -/
def Browser.next (b : Browser) (event : Nat × Action) : Option Browser :=
  match event.2 with
  | .access fails => b.access localTime event.1 fails
  | action =>
      if (b.tab event.1).script = .idle then
        ((b.tab event.1).handle localTime action).map (b.setTab event.1)
      else none

def Step (b : Browser) (event : Nat × Action) (b' : Browser) : Prop :=
  b.next localTime event = some b'

end Pages

-- ── Requests ──────────────────────────────────────────────────────────────────────

section Requests

variable {localTime : Str → Str} {p p' : Page} {tool : Tool} {payload : Payload} {r : Request}

/-- Two requests of a page that are under way together. -/
def Apart (r r' : Request) : Prop := r.number ≠ r'.number ∧ r.payload.tool ≠ r'.payload.tool

instance : Std.Symm Apart := ⟨fun _ _ h => ⟨h.1.symm, h.2.symm⟩⟩

/-- What holds of a page between two events. -/
structure Sound (localTime : Str → Str) (p : Page) : Prop where
  areas : ∀ tool, ∃ content : Content,
    p.area tool = content.html localTime tool ∧ (p.busy tool = true → content = .busy)
  busy : ∀ tool, p.busy tool = true ↔ ∃ r ∈ p.pending, r.payload.tool = tool
  apart : p.pending.Pairwise Apart
  numbers : ∀ r ∈ p.pending, r.number < p.sent
  controllers : ∀ tool n, p.controller tool = some n →
    n < p.sent ∧ ∀ r ∈ p.pending, r.number = n → r.payload.tool = tool
  valid : ∀ r ∈ p.pending, r.payload.Valid
  aborted : p.aborted = []

theorem Sound.loaded : Sound localTime .loaded where
  areas := fun _ => ⟨.initial, rfl, fun h => by cases h⟩
  busy := by
    intro tool
    constructor
    · intro h
      cases h
    · rintro ⟨r, hr, _⟩
      cases hr
  apart := .nil
  numbers := fun r hr => by cases hr
  controllers := fun tool n h => by cases h
  valid := fun r hr => by cases hr
  aborted := rfl

/-- A tool that is not busy has no request under way. -/
theorem Sound.not_pending (h : Sound localTime p) (hbusy : p.busy tool = false)
    (hr : r ∈ p.pending) :
    r.payload.tool ≠ tool := by
  intro htool
  rw [(h.busy tool).mpr ⟨r, hr, htool⟩] at hbusy
  cases hbusy

/-- **No request is aborted**: the controller of a tool that is not busy is one of the past. -/
theorem Sound.abort_eq (h : Sound localTime p) (hbusy : p.busy tool = false) :
    p.abort tool = p := by
  rw [Page.abort]
  cases hn : p.controller tool with
  | none => rfl
  | some n =>
      have hother : ∀ r ∈ p.pending, r.number ≠ n := fun r hr hnumber =>
        h.not_pending hbusy hr ((h.controllers tool n hn).2 r hr hnumber)
      have hkeep : p.pending.filter (·.number ≠ n) = p.pending :=
        List.filter_eq_self.mpr fun r hr => decide_eq_true (hother r hr)
      have hnone : p.pending.filter (·.number = n) = [] :=
        List.filter_eq_nil_iff.mpr fun r hr heq => hother r hr (of_decide_eq_true heq)
      dsimp only
      rw [hkeep, hnone, List.append_nil]

/-- A request is sent for a tool that is not busy. -/
theorem Sound.send (h : Sound localTime p) (hbusy : p.busy payload.tool = false)
    (hvalid : payload.Valid)
    {c : Tool → Option Nat} (hc : ∀ tool n, c tool = some n →
      p.controller tool = some n ∨ tool = payload.tool ∧ n = p.sent) :
    Sound localTime ({ p with controller := c }.send payload) where
  areas := by
    intro tool
    by_cases htool : tool = payload.tool
    · subst htool
      exact ⟨.busy, Function.update_self .., fun _ => rfl⟩
    · obtain ⟨content, hcontent, hb⟩ := h.areas tool
      refine ⟨content, (Function.update_of_ne htool ..).trans hcontent, fun hbusy => hb ?_⟩
      exact (Function.update_of_ne htool ..).symm.trans hbusy
  busy := by
    intro tool
    show Function.update p.busy payload.tool true tool = true ↔ _
    by_cases htool : tool = payload.tool
    · subst htool
      rw [Function.update_self]
      exact ⟨fun _ => ⟨_, List.mem_cons_self, rfl⟩, fun _ => rfl⟩
    · rw [Function.update_of_ne htool, h.busy tool]
      constructor
      · rintro ⟨r, hr, hrt⟩
        exact ⟨r, List.mem_cons_of_mem _ hr, hrt⟩
      · rintro ⟨r, hr, hrt⟩
        rcases List.mem_cons.mp hr with rfl | hr
        · exact absurd hrt.symm htool
        · exact ⟨r, hr, hrt⟩
  apart := .cons (fun r hr => ⟨(h.numbers r hr).ne', (h.not_pending hbusy hr).symm⟩) h.apart
  numbers := by
    intro r hr
    rcases List.mem_cons.mp hr with rfl | hr
    · exact Nat.lt_succ_self _
    · exact Nat.lt_succ_of_lt (h.numbers r hr)
  controllers := by
    intro tool n hn
    rcases hc tool n hn with hold | ⟨rfl, rfl⟩
    · obtain ⟨hlt, hmem⟩ := h.controllers tool n hold
      refine ⟨Nat.lt_succ_of_lt hlt, fun r hr hnumber => ?_⟩
      rcases List.mem_cons.mp hr with rfl | hr
      · exact absurd hnumber hlt.ne'
      · exact hmem r hr hnumber
    · refine ⟨Nat.lt_succ_self _, fun r hr hnumber => ?_⟩
      rcases List.mem_cons.mp hr with rfl | hr
      · rfl
      · exact absurd hnumber (h.numbers r hr).ne
  valid := by
    intro r hr
    rcases List.mem_cons.mp hr with rfl | hr
    · exact hvalid
    · exact h.valid r hr
  aborted := h.aborted

/-- Texts, the history and the script are not about requests. -/
theorem Sound.of_eq (h : Sound localTime p) (harea : p'.area = p.area) (hbusy : p'.busy = p.busy)
    (hcontroller : p'.controller = p.controller) (hpending : p'.pending = p.pending)
    (hsent : p'.sent = p.sent) (haborted : p'.aborted = p.aborted) : Sound localTime p' where
  areas := by rw [harea, hbusy]; exact h.areas
  busy := by rw [hbusy, hpending]; exact h.busy
  apart := by rw [hpending]; exact h.apart
  numbers := by rw [hpending, hsent]; exact h.numbers
  controllers := by rw [hcontroller, hpending, hsent]; exact h.controllers
  valid := by rw [hpending]; exact h.valid
  aborted := by rw [haborted]; exact h.aborted

theorem Sound.submit (h : Sound localTime p) {form : Form}
    (hbusy : p.busy form.payload.tool = false) :
    Sound localTime (p.submit form) := by
  have hreport : Sound localTime (p.report form) := h.of_eq rfl rfl rfl rfl rfl rfl
  rw [Page.submit]
  by_cases herrors : form.errors = []
  · rw [if_pos herrors, hreport.abort_eq hbusy]
    refine hreport.send hbusy (Form.payload_valid herrors) fun tool n hn => ?_
    by_cases htool : tool = form.payload.tool
    · subst htool
      rw [Function.update_self] at hn
      exact .inr ⟨rfl, (Option.some.inj hn).symm⟩
    · rw [Function.update_of_ne htool] at hn
      exact .inl hn
  · rw [if_neg herrors]
    exact hreport

theorem Sound.loadClientInfo (h : Sound localTime p) : Sound localTime p.loadClientInfo := by
  rw [Page.loadClientInfo]
  by_cases hbusy : p.busy .client = true
  · rw [if_pos hbusy]
    exact h
  · rw [if_neg hbusy]
    have hfree : p.busy (Payload.tool .client) = false := Bool.eq_false_iff.mpr hbusy
    have hvalid : Payload.Valid .client := trivial
    exact h.send hfree hvalid fun _ _ => .inl

/-- The request is over, and its tool free again. -/
theorem Sound.settle (h : Sound localTime p) (hr : r ∈ p.pending) :
    Sound localTime (p.settle r) := by
  have hsub : ∀ r' ∈ (p.settle r).pending, r' ∈ p.pending :=
    fun r' hr' => List.mem_of_mem_filter hr'
  have hfree : (p.settle r).busy r.payload.tool = false := Function.update_self ..
  have hother : ∀ tool, tool ≠ r.payload.tool → (p.settle r).busy tool = p.busy tool :=
    fun tool htool => Function.update_of_ne htool ..
  refine ⟨?_, ?_, h.apart.filter _, fun r' hr' => h.numbers r' (hsub r' hr'), ?_,
    fun r' hr' => h.valid r' (hsub r' hr'), h.aborted⟩
  · intro tool
    obtain ⟨content, hcontent, hb⟩ := h.areas tool
    refine ⟨content, hcontent, fun hbusy => hb ?_⟩
    by_cases htool : tool = r.payload.tool
    · rw [htool, hfree] at hbusy
      cases hbusy
    · rw [← hother tool htool]
      exact hbusy
  · intro tool
    by_cases htool : tool = r.payload.tool
    · subst htool
      rw [hfree]
      refine ⟨fun hfalse => (by cases hfalse), fun ⟨r', hr', hrt⟩ => ?_⟩
      -- another request of the tool would have been under way with this one
      have hne : r' ≠ r := of_decide_eq_true (List.mem_filter.mp hr').2
      exact absurd hrt (h.apart.forall (hsub r' hr') hr hne).2
    · rw [hother tool htool, h.busy tool]
      constructor
      · rintro ⟨r', hr', hrt⟩
        refine ⟨r', List.mem_filter.mpr ⟨hr', decide_eq_true ?_⟩, hrt⟩
        rintro rfl
        exact htool hrt.symm
      · rintro ⟨r', hr', hrt⟩
        exact ⟨r', hsub r' hr', hrt⟩
  · intro tool n hn
    obtain ⟨hlt, hmem⟩ := h.controllers tool n hn
    exact ⟨hlt, fun r' hr' => hmem r' (hsub r' hr')⟩

/-- What is shown in the area of a tool that is not busy is its business. -/
theorem Sound.put (h : Sound localTime p) (hbusy : p.busy tool = false) (content : Content) :
    Sound localTime (p.put localTime tool content) where
  areas := by
    intro tool'
    by_cases htool : tool' = tool
    · subst htool
      refine ⟨content, Function.update_self .., fun hb => ?_⟩
      exact absurd hb (Bool.eq_false_iff.mp hbusy)
    · obtain ⟨content', hcontent, hb⟩ := h.areas tool'
      exact ⟨content', (Function.update_of_ne htool ..).trans hcontent, hb⟩
  busy := h.busy
  apart := h.apart
  numbers := h.numbers
  controllers := h.controllers
  valid := h.valid
  aborted := h.aborted

theorem Sound.saveHistoryEntry (h : Sound localTime p) (entry : Option HistoryItem) :
    Sound localTime (p.saveHistoryEntry entry) := by
  cases entry with
  | none => exact h
  | some entry => exact h.of_eq rfl rfl rfl rfl rfl rfl

theorem Sound.finish (h : Sound localTime p) (hr : r ∈ p.pending)
    (envelope : Envelope) (now : Str) :
    Sound localTime (p.finish localTime r envelope now) := by
  have hsettle := h.settle hr
  have hput : ∀ content, Sound localTime ((p.settle r).put localTime r.payload.tool content) :=
    hsettle.put (Function.update_self ..)
  cases envelope with
  | failure error info => exact (hput _).saveHistoryEntry _
  | success data info =>
      cases data with
      | none => exact hsettle
      | some d =>
          cases info with
          | none => exact hsettle
          | some info =>
              rw [Page.finish]
              cases r.payload.result d with
              | none => exact hsettle
              | some result => exact (hput _).saveHistoryEntry _

/-- **A handler keeps a page sound.** -/
theorem Sound.handle (h : Sound localTime p) {action : Action}
    (hstep : p.handle localTime action = some p') :
    Sound localTime p' := by
  cases action with
  | reload =>
      cases hstep
      exact .loaded
  | submit form =>
      rw [Page.handle] at hstep
      split at hstep
      next => cases hstep
      next hbusy =>
        cases hstep
        exact h.submit (Bool.eq_false_iff.mpr hbusy)
  | loadClientInfo =>
      cases hstep
      exact h.loadClientInfo
  | respond number reply now =>
      rw [Page.handle] at hstep
      split at hstep
      next => cases hstep
      next r hfind =>
        split at hstep
        next =>
          cases hstep
          have hr : r ∈ p.pending := List.mem_of_find?_eq_some hfind
          have hredirect : Sound localTime (p.redirect reply) := h.of_eq rfl rfl rfl rfl rfl rfl
          exact hredirect.finish hr _ _
        next => cases hstep
  | clearHistory =>
      cases hstep
      exact h.of_eq rfl rfl rfl rfl rfl rfl
  | access fails => cases hstep

end Requests

-- ── Storage ───────────────────────────────────────────────────────────────────────

section Storage

variable {localTime : Str → Str} {b b' : Browser} {p p' : Page} {i : Nat} {event : Nat × Action}
  {history recorded : List HistoryItem}

/-- The storage holds the history. -/
def Holds (stored : Option Str) (history : List HistoryItem) : Prop :=
  stored = none ∧ history = [] ∨ stored = some (writeHistory history)

theorem Holds.load {stored : Option Str} (h : Holds stored history) :
    loadHistory stored = some history := by
  rcases h with ⟨rfl, rfl⟩ | rfl
  · rfl
  · exact loadHistory_write history

/-- At most five of the entries, in their order. -/
def Latest (history recorded : List HistoryItem) : Prop :=
  history.length ≤ MAX_HISTORY ∧ history.Sublist recorded

theorem Latest.nil : Latest [] recorded := ⟨Nat.zero_le _, List.nil_sublist _⟩

theorem Latest.cons (h : Latest history recorded) (entry : HistoryItem) :
    Latest ((entry :: history).take MAX_HISTORY) (entry :: recorded) :=
  ⟨List.length_take_le .., (List.take_sublist ..).trans (h.2.cons_cons entry)⟩

theorem Latest.mono (h : Latest history recorded) (entry : HistoryItem) :
    Latest history (entry :: recorded) :=
  ⟨h.1, h.2.cons entry⟩

/-- What the list of the history shows. -/
def Lists (localTime : Str → Str) (recorded : List HistoryItem) (p : Page) : Prop :=
  p.historyCount = str "0" ∧ p.historyList = [] ∨ ∃ history, Latest history recorded ∧
    p.historyCount = JsonText.intText history.length ∧ p.historyList = historyHtml localTime history

theorem Lists.mono (h : Lists localTime recorded p) (entry : HistoryItem) :
    Lists localTime (entry :: recorded) p := by
  rcases h with h | ⟨history, hlatest, h⟩
  · exact .inl h
  · exact .inr ⟨history, hlatest.mono entry, h⟩

theorem lists_loaded : Lists localTime recorded .loaded := .inl ⟨rfl, rfl⟩

theorem Lists.of_eq (h : Lists localTime recorded p) (hcount : p'.historyCount = p.historyCount)
    (hlist : p'.historyList = p.historyList) : Lists localTime recorded p' := by
  rw [Lists, hcount, hlist]
  exact h

/-- What holds of a tab between two steps. -/
structure TabSound (localTime : Str → Str) (recorded : List HistoryItem) (p : Page) : Prop where
  requests : Sound localTime p
  saving : ∀ history, p.script = .save history → Latest history recorded
  lists : Lists localTime recorded p

theorem TabSound.mono (h : TabSound localTime recorded p) (entry : HistoryItem) :
    TabSound localTime (entry :: recorded) p :=
  ⟨h.requests, fun history hscript => (h.saving history hscript).mono entry, h.lists.mono entry⟩

/-- The script goes on. -/
theorem TabSound.continue (h : TabSound localTime recorded p) {script : Script}
    (hscript : ∀ history, script = .save history → Latest history recorded) :
    TabSound localTime recorded { p with script := script } :=
  ⟨h.requests.of_eq rfl rfl rfl rfl rfl rfl, hscript, h.lists⟩

/-- What holds of the browser between two steps. -/
structure BrowserSound (localTime : Str → Str) (b : Browser) : Prop where
  tabs : ∀ i, TabSound localTime b.recorded (b.tab i)
  stored : ∃ history, Holds b.stored history ∧ Latest history b.recorded

/-- The list of the history is as it was, and no history is about to be saved that was not before.
    -/
def Rests (p p' : Page) : Prop :=
  (∀ history, p'.script = .save history → p.script = .save history) ∧
    p'.historyCount = p.historyCount ∧ p'.historyList = p.historyList

theorem Rests.same (hscript : p'.script = p.script) (hcount : p'.historyCount = p.historyCount)
    (hlist : p'.historyList = p.historyList) : Rests p p' :=
  ⟨fun _ h => hscript.symm.trans h, hcount, hlist⟩

theorem rests_submit (p : Page) (form : Form) : Rests p (p.submit form) := by
  rw [Page.submit]
  by_cases herrors : form.errors = []
  · rw [if_pos herrors]
    show Rests p
      (((((p.report form).abort form.payload.tool).control form.payload.tool).send form.payload))
    rw [Page.abort]
    cases (p.report form).controller form.payload.tool with
    | none => exact .same rfl rfl rfl
    | some n => exact .same rfl rfl rfl
  · rw [if_neg herrors]
    exact .same rfl rfl rfl

theorem rests_loadClientInfo (p : Page) : Rests p p.loadClientInfo := by
  rw [Page.loadClientInfo]
  by_cases hbusy : p.busy .client = true
  · rw [if_pos hbusy]
    exact .same rfl rfl rfl
  · rw [if_neg hbusy]
    exact .same rfl rfl rfl

theorem rests_saveHistoryEntry {q : Page} (h : Rests p q) (entry : Option HistoryItem) :
    Rests p (q.saveHistoryEntry entry) := by
  cases entry with
  | none => exact h
  | some entry =>
      refine ⟨fun history hscript => ?_, h.2⟩
      cases hscript

theorem rests_finish (p : Page) (r : Request) (envelope : Envelope) (now : Str) :
    Rests p (p.finish localTime r envelope now) := by
  have hsettle : Rests p (p.settle r) := .same rfl rfl rfl
  have hput : ∀ content, Rests p ((p.settle r).put localTime r.payload.tool content) :=
    fun content => .same rfl rfl rfl
  cases envelope with
  | failure error info => exact rests_saveHistoryEntry (hput _) _
  | success data info =>
      cases data with
      | none => exact hsettle
      | some d =>
          cases info with
          | none => exact hsettle
          | some info =>
              rw [Page.finish]
              cases r.payload.result d with
              | none => exact hsettle
              | some result => exact rests_saveHistoryEntry (hput _) _

/-- A handler reloads the page, or leaves the list of the history as it is. -/
theorem handle_rests {action : Action} (hstep : p.handle localTime action = some p') :
    p' = .loaded ∨ Rests p p' := by
  cases action with
  | reload =>
      cases hstep
      exact .inl rfl
  | submit form =>
      rw [Page.handle] at hstep
      split at hstep
      next => cases hstep
      next =>
        cases hstep
        exact .inr (rests_submit p form)
  | loadClientInfo =>
      cases hstep
      exact .inr (rests_loadClientInfo p)
  | respond number reply now =>
      rw [Page.handle] at hstep
      split at hstep
      next => cases hstep
      next r hfind =>
        split at hstep
        next =>
          cases hstep
          exact .inr (rests_finish (p.redirect reply) r _ now)
        next => cases hstep
  | clearHistory =>
      cases hstep
      exact .inr ⟨fun history hscript => (by cases hscript), rfl, rfl⟩
  | access fails => cases hstep

theorem TabSound.handle (h : TabSound localTime recorded p) {action : Action}
    (hstep : p.handle localTime action = some p') : TabSound localTime recorded p' := by
  have hrequests := h.requests.handle hstep
  rcases handle_rests hstep with rfl | ⟨hscript, hcount, hlist⟩
  · exact ⟨hrequests, fun history hs => (by cases hs), lists_loaded⟩
  · exact ⟨hrequests, fun history hs => h.saving history (hscript history hs),
      h.lists.of_eq hcount hlist⟩

/-- The tabs after one of them has gone on. -/
theorem tabs_update {P : Page → Prop} (hi : P p) (hrest : ∀ j, P (b.tab j)) :
    ∀ j, P ((b.setTab i p).tab j) :=
  (Function.forall_update_iff b.tab fun _ p => P p).mpr ⟨hi, fun j _ => hrest j⟩

theorem initial_sound : BrowserSound localTime .initial where
  tabs := fun _ => ⟨.loaded, fun history hs => (by cases hs), lists_loaded⟩
  stored := ⟨[], .inl ⟨rfl, rfl⟩, .nil⟩

/-- The history that is read, from a storage that may fail. -/
theorem BrowserSound.load (h : BrowserSound localTime b) (fails : Bool) :
    ∃ history, (if fails then some [] else loadHistory b.stored) = some history ∧
      Latest history b.recorded := by
  obtain ⟨history, hholds, hlatest⟩ := h.stored
  cases fails with
  | false => exact ⟨history, hholds.load, hlatest⟩
  | true => exact ⟨[], rfl, .nil⟩

/-- **An access keeps the browser sound.** -/
theorem BrowserSound.access (h : BrowserSound localTime b) {fails : Bool}
    (hstep : b.access localTime i fails = some b') : BrowserSound localTime b' := by
  obtain ⟨history, hload, hlatest⟩ := h.load fails
  rw [Browser.access] at hstep
  dsimp only at hstep
  rw [hload] at hstep
  cases hscript : (b.tab i).script with
  | idle =>
      rw [hscript] at hstep
      cases hstep
  | load entry =>
      rw [hscript] at hstep
      cases hstep
      refine ⟨tabs_update ?_ fun j => (h.tabs j).mono entry, ?_⟩
      · refine ((h.tabs i).mono entry).continue fun saved hs => ?_
        cases hs
        exact hlatest.cons entry
      · obtain ⟨stored, hholds, hstored⟩ := h.stored
        exact ⟨stored, hholds, hstored.mono entry⟩
  | save saved =>
      rw [hscript] at hstep
      cases hstep
      refine ⟨tabs_update ((h.tabs i).continue fun _ hs => (by cases hs)) h.tabs, ?_⟩
      cases fails with
      | false => exact ⟨saved, .inr rfl, (h.tabs i).saving saved hscript⟩
      | true => exact h.stored
  | remove =>
      rw [hscript] at hstep
      cases hstep
      refine ⟨tabs_update ((h.tabs i).continue fun _ hs => (by cases hs)) h.tabs, ?_⟩
      cases fails with
      | false => exact ⟨[], .inl ⟨rfl, rfl⟩, .nil⟩
      | true => exact h.stored
  | render =>
      rw [hscript] at hstep
      cases hstep
      refine ⟨tabs_update ?_ h.tabs, h.stored⟩
      exact ⟨(h.tabs i).requests.of_eq rfl rfl rfl rfl rfl rfl, fun _ hs => (by cases hs),
        .inr ⟨history, hlatest, rfl, rfl⟩⟩

/-- **The step lemma.** -/
theorem BrowserSound.step (h : BrowserSound localTime b) (hstep : Step localTime b event b') :
    BrowserSound localTime b' := by
  obtain ⟨i, action⟩ := event
  rw [Step, Browser.next] at hstep
  dsimp only at hstep
  split at hstep
  next fails => exact h.access hstep
  next =>
    split at hstep
    next =>
      obtain ⟨p', hp', rfl⟩ := Option.map_eq_some_iff.mp hstep
      exact ⟨tabs_update ((h.tabs i).handle hp') h.tabs, h.stored⟩
    next => cases hstep

theorem run_sound {events : List (Nat × Action)} (h : Run (Step localTime) .initial events b) :
    BrowserSound localTime b :=
  h.invariant (fun _ _ _ hs hstep => hs.step hstep) initial_sound

end Storage

-- ── Desks ─────────────────────────────────────────────────────────────────────────

/-- A tool as the user sees it: what it shows, and the request it waits for. -/
structure Panel where
  content : Content
  waiting : Option Request
  deriving DecidableEq, Repr

/-- The page as the user sees it: its four tools, each with one place for a request. -/
structure Desk where
  sent : Nat
  panel : Tool → Panel

def Desk.loaded : Desk := ⟨0, fun _ => ⟨.initial, none⟩⟩

def Desk.setPanel (d : Desk) (tool : Tool) (panel : Panel) : Desk :=
  { d with panel := Function.update d.panel tool panel }

/-- A tool is asked. -/
def Desk.ask (d : Desk) (payload : Payload) : Desk :=
  { d.setPanel payload.tool ⟨.busy, some ⟨d.sent, payload⟩⟩ with sent := d.sent + 1 }

/-- What the answer to a request shows; an answer that makes the handler fail shows nothing. -/
def Payload.shows (payload : Payload) : Envelope → Option Content
  | .failure error info => some (.failed error info)
  | .success (some d) (some info) => (payload.result d).map fun result => .result result info
  | .success _ _ => none

/-- An answer comes to the tool that waits for it. -/
def Panel.answer (panel : Panel) (number : Nat) (envelope : Envelope) : Panel :=
  match panel.waiting with
  | none => panel
  | some r =>
      if r.number = number then ⟨(r.payload.shows envelope).getD panel.content, none⟩ else panel

def Desk.next (d : Desk) : Action → Desk
  | .reload => .loaded
  | .submit form => if form.errors = [] then d.ask form.payload else d
  | .loadClientInfo => if (d.panel .client).waiting.isSome then d else d.ask .client
  | .respond number reply _ =>
      { d with panel := fun tool => (d.panel tool).answer number (callApi reply) }
  | .clearHistory => d
  | .access _ => d

/-- What the user of a tab sees after the events. -/
def deskOf (events : List (Nat × Action)) (i : Nat) : Desk :=
  events.foldl (fun d event => if event.1 = i then d.next event.2 else d) .loaded

section Desks

variable {localTime : Str → Str} {p p' : Page} {d : Desk} {b b' : Browser} {r : Request}
  {payload : Payload}
  {tool : Tool} {events : List (Nat × Action)}

@[simp] theorem Desk.setPanel_self (panel : Panel) : (d.setPanel tool panel).panel tool = panel :=
  Function.update_self ..

theorem Desk.setPanel_of_ne {tool' : Tool} (h : tool' ≠ tool) (panel : Panel) :
    (d.setPanel tool panel).panel tool' = d.panel tool' :=
  Function.update_of_ne h ..

@[simp] theorem Desk.setPanel_setPanel (panel panel' : Panel) :
    (d.setPanel tool panel).setPanel tool panel' = d.setPanel tool panel' :=
  congrArg (Desk.mk d.sent) (Function.update_idem ..)

/-- The tool that waits for a request is answered, -/
theorem answer_of_waiting {panel : Panel} {envelope : Envelope} (h : panel.waiting = some r) :
    panel.answer r.number envelope = ⟨(r.payload.shows envelope).getD panel.content, none⟩ := by
  simp [Panel.answer, h]

/-- and no other. -/
theorem answer_of_other {panel : Panel} {number : Nat} {envelope : Envelope}
    (h : ∀ r, panel.waiting = some r → r.number ≠ number) :
      panel.answer number envelope = panel := by
  rw [Panel.answer]
  cases hwaiting : panel.waiting with
  | none => rfl
  | some r => exact if_neg (h r hwaiting)

/-- What agrees with the panels still does when both are changed for one tool. -/
theorem update_agree {α : Type} {R : Tool → α → Panel → Prop} {f : Tool → α} {g : Tool → Panel}
    (h : ∀ t, R t (f t) (g t)) {x : α} {panel : Panel} (hx : R tool x panel) (t : Tool) :
    R t (Function.update f tool x t) (Function.update g tool panel t) := by
  by_cases ht : t = tool
  · subst ht
    rw [Function.update_self, Function.update_self]
    exact hx
  · rw [Function.update_of_ne ht, Function.update_of_ne ht]
    exact h t

theorem deskOf_concat (events : List (Nat × Action)) (event : Nat × Action) (i : Nat) :
    deskOf (events ++ [event]) i =
      if event.1 = i then (deskOf events i).next event.2 else deskOf events i := by
  simp [deskOf]

/-- The page is what the user sees. -/
structure Matches (localTime : Str → Str) (p : Page) (d : Desk) : Prop where
  sent : p.sent = d.sent
  area : ∀ tool, p.area tool = (d.panel tool).content.html localTime tool
  busy : ∀ tool, p.busy tool = (d.panel tool).waiting.isSome
  waiting : ∀ tool r, (d.panel tool).waiting = some r ↔ r ∈ p.pending ∧ r.payload.tool = tool

theorem matches_loaded : Matches localTime .loaded .loaded where
  sent := rfl
  area := fun _ => rfl
  busy := fun _ => rfl
  waiting := by
    intro tool r
    constructor
    · intro h
      cases h
    · rintro ⟨hr, _⟩
      cases hr

/-- A request is sent for a tool that is not busy: the tool is asked. -/
theorem Matches.send (h : Matches localTime p d) (hbusy : p.busy payload.tool = false)
    {c : Tool → Option Nat} :
      Matches localTime ({ p with controller := c }.send payload) (d.ask payload) where
  sent := congrArg (· + 1) h.sent
  area :=
    update_agree (R := fun tool area panel => area = panel.content.html localTime tool) h.area rfl
  busy := update_agree (R := fun _ busy panel => busy = panel.waiting.isSome) h.busy rfl
  waiting := by
    intro tool r
    show (Function.update d.panel payload.tool _ tool).waiting = some r ↔
      r ∈ (⟨p.sent, payload⟩ : Request) :: p.pending ∧ r.payload.tool = tool
    rw [List.mem_cons]
    by_cases htool : tool = payload.tool
    · subst htool
      rw [Function.update_self, h.sent]
      constructor
      · intro hr
        cases hr
        exact ⟨.inl rfl, rfl⟩
      · rintro ⟨rfl | hold, hrt⟩
        · rfl
        · have hwait := (h.waiting payload.tool r).mpr ⟨hold, hrt⟩
          rw [h.busy, hwait] at hbusy
          cases hbusy
    · rw [Function.update_of_ne htool, h.waiting tool r]
      constructor
      · exact fun ⟨hr, hrt⟩ => ⟨.inr hr, hrt⟩
      · rintro ⟨rfl | hold, hrt⟩
        · exact absurd hrt.symm htool
        · exact ⟨hold, hrt⟩

theorem Matches.of_eq (h : Matches localTime p d) (harea : p'.area = p.area)
    (hbusy : p'.busy = p.busy)
    (hpending : p'.pending = p.pending) (hsent : p'.sent = p.sent) : Matches localTime p' d where
  sent := hsent.trans h.sent
  area := by rw [harea]; exact h.area
  busy := by rw [hbusy]; exact h.busy
  waiting := by rw [hpending]; exact h.waiting

theorem Matches.submit (h : Matches localTime p d) (hsound : Sound localTime p) {form : Form}
    (hbusy : p.busy form.payload.tool = false) :
    Matches localTime (p.submit form) (d.next (.submit form)) := by
  have hreport : Matches localTime (p.report form) d := h.of_eq rfl rfl rfl rfl
  have hreported : Sound localTime (p.report form) := hsound.of_eq rfl rfl rfl rfl rfl rfl
  rw [Page.submit, Desk.next]
  by_cases herrors : form.errors = []
  · rw [if_pos herrors, if_pos herrors, hreported.abort_eq hbusy]
    exact hreport.send hbusy
  · rw [if_neg herrors, if_neg herrors]
    exact hreport

theorem Matches.loadClientInfo (h : Matches localTime p d) :
    Matches localTime p.loadClientInfo (d.next .loadClientInfo) := by
  rw [Page.loadClientInfo, Desk.next, ← h.busy]
  by_cases hbusy : p.busy .client = true
  · rw [if_pos hbusy, if_pos hbusy]
    exact h
  · rw [if_neg hbusy, if_neg hbusy]
    have hfree : p.busy (Payload.tool .client) = false := Bool.eq_false_iff.mpr hbusy
    exact h.send hfree

/-- The request is over: its tool waits no more. -/
theorem Matches.settle (h : Matches localTime p d) (hsound : Sound localTime p)
    (hr : r ∈ p.pending) :
    Matches localTime (p.settle r)
      (d.setPanel r.payload.tool ⟨(d.panel r.payload.tool).content, none⟩) where
  sent := h.sent
  area := (Function.forall_update_iff d.panel
    fun tool panel => p.area tool = panel.content.html localTime tool).mpr
      ⟨h.area r.payload.tool, fun tool _ => h.area tool⟩
  busy := update_agree (R := fun _ busy panel => busy = panel.waiting.isSome) h.busy rfl
  waiting := by
    intro tool r'
    show _ ↔ r' ∈ p.pending.filter (· ≠ r) ∧ _
    rw [List.mem_filter]
    by_cases htool : tool = r.payload.tool
    · subst htool
      rw [Desk.setPanel_self]
      constructor
      · intro hnone
        cases hnone
      · rintro ⟨⟨hr', hne⟩, hrt⟩
        exact absurd hrt (hsound.apart.forall hr' hr (of_decide_eq_true hne)).2
    · rw [Desk.setPanel_of_ne htool, h.waiting tool r']
      constructor
      · rintro ⟨hr', hrt⟩
        refine ⟨⟨hr', decide_eq_true ?_⟩, hrt⟩
        rintro rfl
        exact htool hrt.symm
      · rintro ⟨⟨hr', _⟩, hrt⟩
        exact ⟨hr', hrt⟩

/-- What is put into an area is shown there. -/
theorem Matches.put (h : Matches localTime p d) (tool : Tool) (content : Content) :
    Matches localTime (p.put localTime tool content)
      (d.setPanel tool ⟨content, (d.panel tool).waiting⟩) where
  sent := h.sent
  area :=
    update_agree (R := fun tool area panel => area = panel.content.html localTime tool) h.area rfl
  busy :=
    (Function.forall_update_iff d.panel fun tool panel => p.busy tool = panel.waiting.isSome).mpr
    ⟨h.busy tool, fun tool _ => h.busy tool⟩
  waiting := (Function.forall_update_iff d.panel fun tool panel => ∀ r, panel.waiting = some r ↔
    r ∈ p.pending ∧ r.payload.tool = tool).mpr ⟨h.waiting tool, fun tool _ => h.waiting tool⟩

theorem Matches.saveHistoryEntry (h : Matches localTime p d) (entry : Option HistoryItem) :
    Matches localTime (p.saveHistoryEntry entry) d := by
  cases entry with
  | none => exact h
  | some entry => exact h.of_eq rfl rfl rfl rfl

/-- The tool of a request shows what the answer shows, and waits no more. -/
theorem Matches.finish (h : Matches localTime p d) (hsound : Sound localTime p) (hr : r ∈ p.pending)
    (envelope : Envelope) (now : Str) :
    Matches localTime (p.finish localTime r envelope now) (d.setPanel r.payload.tool
      ⟨(r.payload.shows envelope).getD (d.panel r.payload.tool).content, none⟩) := by
  have hsettle := h.settle hsound hr
  have hput : ∀ content entry, Matches localTime
      (((p.settle r).put localTime r.payload.tool content).saveHistoryEntry entry)
      (d.setPanel r.payload.tool ⟨content, none⟩) := by
    intro content entry
    have hshown := hsettle.put r.payload.tool content
    rw [Desk.setPanel_self, Desk.setPanel_setPanel] at hshown
    exact hshown.saveHistoryEntry entry
  cases envelope with
  | failure error info => exact hput _ _
  | success data info =>
      cases data with
      | none => exact hsettle
      | some data =>
          cases info with
          | none => exact hsettle
          | some info =>
              rw [Page.finish, Payload.shows]
              cases r.payload.result data with
              | none => exact hsettle
              | some result => exact hput _ _

/-- An answer comes to the one tool that waits for it. -/
theorem Matches.next_respond (h : Matches localTime p d) (hsound : Sound localTime p)
    (hr : r ∈ p.pending)
    (reply : Reply) (now : Str) :
    d.next (.respond r.number reply now) = d.setPanel r.payload.tool
      ⟨(r.payload.shows (callApi reply)).getD (d.panel r.payload.tool).content, none⟩ := by
  refine congrArg (Desk.mk d.sent) (funext fun tool => ?_)
  by_cases htool : tool = r.payload.tool
  · subst htool
    rw [Function.update_self]
    exact answer_of_waiting ((h.waiting _ r).mpr ⟨hr, rfl⟩)
  · rw [Function.update_of_ne htool]
    refine answer_of_other fun r' hr' hnumber => htool ?_
    obtain ⟨hmem, hrt⟩ := (h.waiting tool r').mp hr'
    have heq : r' = r := by_contra fun hne => (hsound.apart.forall hmem hr hne).1 hnumber
    rw [← hrt, heq]

/-- **A handler of the page is an event of the desk.** -/
theorem Matches.handle (h : Matches localTime p d) (hsound : Sound localTime p) {action : Action}
    (hstep : p.handle localTime action = some p') : Matches localTime p' (d.next action) := by
  cases action with
  | reload =>
      cases hstep
      exact matches_loaded
  | submit form =>
      rw [Page.handle] at hstep
      split at hstep
      next => cases hstep
      next hbusy =>
        cases hstep
        exact h.submit hsound (Bool.eq_false_iff.mpr hbusy)
  | loadClientInfo =>
      cases hstep
      exact h.loadClientInfo
  | respond number reply now =>
      rw [Page.handle] at hstep
      split at hstep
      next => cases hstep
      next r hfind =>
        split at hstep
        next =>
          cases hstep
          have hr : r ∈ p.pending := List.mem_of_find?_eq_some hfind
          have hnumber : decide (r.number = number) = true :=
            List.find?_some (p := fun r : Request => decide (r.number = number)) hfind
          obtain rfl := of_decide_eq_true hnumber
          rw [h.next_respond hsound hr]
          have hredirect : Matches localTime (p.redirect reply) d := h.of_eq rfl rfl rfl rfl
          exact hredirect.finish (hsound.of_eq rfl rfl rfl rfl rfl rfl) hr _ _
        next => cases hstep
  | clearHistory =>
      cases hstep
      exact h.of_eq rfl rfl rfl rfl
  | access fails => cases hstep

/-- An access to the storage is none of the desk. -/
theorem Matches.access {i : Nat} (h : Matches localTime (b.tab i) d) {fails : Bool}
    (hstep : b.access localTime i fails = some b') :
    ∃ p', b'.tab = Function.update b.tab i p' ∧ Matches localTime p' d := by
  rw [Browser.access] at hstep
  dsimp only at hstep
  generalize (if fails then some [] else loadHistory b.stored) = history at hstep
  cases hscript : (b.tab i).script with
  | idle =>
      rw [hscript] at hstep
      cases hstep
  | load entry =>
      rw [hscript] at hstep
      cases history with
      | none =>
          cases hstep
          exact ⟨_, rfl, h.of_eq rfl rfl rfl rfl⟩
      | some history =>
          cases hstep
          exact ⟨_, rfl, h.of_eq rfl rfl rfl rfl⟩
  | save saved =>
      rw [hscript] at hstep
      cases hstep
      exact ⟨_, rfl, h.of_eq rfl rfl rfl rfl⟩
  | remove =>
      rw [hscript] at hstep
      cases hstep
      exact ⟨_, rfl, h.of_eq rfl rfl rfl rfl⟩
  | render =>
      rw [hscript] at hstep
      cases history with
      | none =>
          cases hstep
          exact ⟨_, rfl, h.of_eq rfl rfl rfl rfl⟩
      | some history =>
          cases hstep
          exact ⟨_, rfl, h.of_eq rfl rfl rfl rfl⟩

/-- The tab of an event is again what its user sees, and the other tabs are as before. -/
theorem Matches.step {i : Nat} {action : Action} (h : Matches localTime (b.tab i) d)
    (hsound : BrowserSound localTime b) (hstep : Step localTime b (i, action) b') :
    ∃ p', b'.tab = Function.update b.tab i p' ∧ Matches localTime p' (d.next action) := by
  rw [Step, Browser.next] at hstep
  dsimp only at hstep
  split at hstep
  next fails => exact h.access hstep
  next =>
    split at hstep
    next =>
      obtain ⟨p', hp', rfl⟩ := Option.map_eq_some_iff.mp hstep
      exact ⟨p', rfl, h.handle (hsound.tabs i).requests hp'⟩
    next => cases hstep

/-- **The page is the desk**: after any events every tab is what its user sees. -/
theorem run_matches (h : Run (Step localTime) .initial events b) (i : Nat) :
    Matches localTime (b.tab i) (deskOf events i) := by
  refine (h.invariant_of_labels (I := fun events b => BrowserSound localTime b ∧
    ∀ i, Matches localTime (b.tab i) (deskOf events i)) ?_
      ⟨initial_sound, fun _ => matches_loaded⟩).2 i
  rintro events b ⟨j, action⟩ b' ⟨hsound, hmatches⟩ hstep
  refine ⟨hsound.step hstep, fun i => ?_⟩
  obtain ⟨p', htab, hp'⟩ := (hmatches j).step hsound hstep
  rw [htab, deskOf_concat]
  by_cases hi : j = i
  · subst hi
    rw [Function.update_self, if_pos rfl]
    exact hp'
  · rw [Function.update_of_ne (Ne.symm hi), if_neg hi]
    exact hmatches i

end Desks

-- ── What is shown ─────────────────────────────────────────────────────────────────

section Shown

variable {localTime : Str → Str} {b b' : Browser} {i : Nat} {events : List (Nat × Action)}

/-- Two tabs: a check fails and is recorded, the other tab reads nothing. -/
def sampleEvents : List (Nat × Action) :=
  [(0, .access false), (1, .access true),
    (0, .submit (.http (str " https://a.example ") (str "GET") none true)),
    (0, .loadClientInfo), (0, .respond 0 .networkError (str "2024-01-01T00:00:00.000Z")),
      (0, .access false),
    (1, .submit (.port (str "a.example") (some ⟨443, str "443"⟩) (some ⟨3, str "3"⟩))),
      (0, .access false), (0, .access false)]

theorem sample_run : ∃ b, Run (Step id) .initial sampleEvents b := by
  have hsome : (exec (Browser.next id) .initial sampleEvents).isSome = true := by decide +kernel
  obtain ⟨b, hb⟩ := Option.isSome_iff_exists.mp hsome
  exact ⟨b, .of_exec (fun _ _ _ h => h) hb⟩

/-- **The page shows markup of its own templates only.**  Whatever was asked, answered and recorded,
    and whichever accesses to the storage failed: the browser reads a result area as the nodes of a
    content, and the list of the history as those of a history, with no tag that is not one of the
    templates. -/
theorem page_shows_templates (h : Run (Step localTime) .initial events b) (i : Nat) :
    (∀ tool, ∃ content : Content,
      tokenize ((b.tab i).area tool) = some (tokensOf (content.nodes localTime tool)) ∧
        AllHarmless (content.nodes localTime tool)) ∧
      ((b.tab i).historyList = [] ∨ ∃ history,
        tokenize (b.tab i).historyList = some (tokensOf (historyNodes localTime history)) ∧
          AllHarmless (historyNodes localTime history)) := by
  have hsound := (run_sound h).tabs i
  refine ⟨fun tool => ?_, ?_⟩
  · obtain ⟨content, harea, _⟩ := hsound.requests.areas tool
    rw [harea]
    exact ⟨content, (shows_content tool content).tokenize, harmless_content localTime tool content⟩
  · rcases hsound.lists with ⟨_, hempty⟩ | ⟨history, _, _, hlist⟩
    · exact .inl hempty
    · rw [hlist]
      exact .inr ⟨history, (shows_history localTime history).tokenize,
        harmless_history localTime history⟩

theorem sample_page_shows_templates : ∃ b, Run (Step id) .initial sampleEvents b ∧
    ∀ tool, ∃ content : Content,
      tokenize ((b.tab 0).area tool) = some (tokensOf (content.nodes id tool)) := by
  obtain ⟨b, hrun⟩ := sample_run
  refine ⟨b, hrun, fun tool => ?_⟩
  obtain ⟨content, hread, _⟩ := (page_shows_templates hrun 0).1 tool
  exact ⟨content, hread⟩

/-- **One request for each tool.**  A tool is busy exactly while a request of it is under way, and
    shows it; there is never a second one, none is aborted, and each passed the checks of its form.
    -/
theorem one_request_for_each_tool (h : Run (Step localTime) .initial events b) (i : Nat) :
    (∀ tool, (b.tab i).busy tool = true ↔ ∃ r ∈ (b.tab i).pending, r.payload.tool = tool) ∧
      (∀ tool, (b.tab i).busy tool = true → (b.tab i).area tool = busyHtml tool) ∧
      (b.tab i).pending.Pairwise (fun r r' => r.payload.tool ≠ r'.payload.tool) ∧
      (b.tab i).aborted = [] ∧ ∀ r ∈ (b.tab i).pending, r.payload.Valid := by
  have hsound := ((run_sound h).tabs i).requests
  refine ⟨hsound.busy, fun tool hbusy => ?_, hsound.apart.imp And.right,
    hsound.aborted, hsound.valid⟩
  obtain ⟨content, harea, hcontent⟩ := hsound.areas tool
  rw [harea, hcontent hbusy]
  rfl

theorem sample_one_request_for_each_tool : ∃ b, Run (Step id) .initial sampleEvents b ∧
    (b.tab 1).aborted = [] ∧ ∀ r ∈ (b.tab 1).pending, r.payload.Valid := by
  obtain ⟨b, hrun⟩ := sample_run
  exact ⟨b, hrun, (one_request_for_each_tool hrun 1).2.2.2⟩

/-- **The history stays within five entries**, however the tabs interleave and whichever accesses
    fail. The storage is always readable, and holds entries that were recorded, the newest first; so
    does the list a tab shows, whose number it shows as well. -/
theorem history_within_five (h : Run (Step localTime) .initial events b) :
    (∃ history, loadHistory b.stored = some history ∧ history.length ≤ 5 ∧
      history.Sublist b.recorded) ∧
    ∀ i, (b.tab i).historyList = [] ∧ (b.tab i).historyCount = str "0" ∨
      ∃ history : List HistoryItem,
      history.length ≤ 5 ∧ history.Sublist b.recorded ∧
        (b.tab i).historyList = historyHtml localTime history ∧
          (b.tab i).historyCount = JsonText.intText history.length := by
  have hsound := run_sound h
  obtain ⟨history, hholds, hlatest⟩ := hsound.stored
  refine ⟨⟨history, hholds.load, hlatest⟩, fun i => ?_⟩
  rcases (hsound.tabs i).lists with ⟨hcount, hlist⟩ | ⟨shown, hshown, hcount, hlist⟩
  · exact .inl ⟨hlist, hcount⟩
  · exact .inr ⟨shown, hshown.1, hshown.2, hlist, hcount⟩

theorem sample_history_within_five : ∃ b, Run (Step id) .initial sampleEvents b ∧
    ∃ history, loadHistory b.stored = some history ∧ history.length ≤ 5 ∧
      history.Sublist b.recorded := by
  obtain ⟨b, hrun⟩ := sample_run
  exact ⟨b, hrun, (history_within_five hrun).1⟩

end Shown

-- ── Working storage ───────────────────────────────────────────────────────────────

section Working

variable {localTime : Str → Str} {b b' : Browser} {i j : Nat} {event : Nat × Action}
  {events : List (Nat × Action)}

/-- No access fails, and no tab touches the storage between the reading and the saving of another.
    -/
def Quiet (b : Browser) (event : Nat × Action) : Prop :=
  ∀ fails, event.2 = .access fails →
    fails = false ∧ ∀ j ≠ event.1, ∀ history, (b.tab j).script ≠ .save history

/-- The storage holds the newest entries, or a tab is about to save them. -/
structure Exact (b : Browser) : Prop where
  saving : ∀ i history, (b.tab i).script = .save history → history = b.recent.take MAX_HISTORY
  stored : (∀ i history, (b.tab i).script ≠ .save history) →
    Holds b.stored (b.recent.take MAX_HISTORY)

theorem exact_initial : Exact .initial where
  saving := fun i history h => by cases h
  stored := fun _ => .inl ⟨rfl, rfl⟩

theorem access_tab {fails : Bool} (hstep : b.access localTime i fails = some b') :
    ∃ p, b'.tab = Function.update b.tab i p := by
  rw [Browser.access] at hstep
  dsimp only at hstep
  split at hstep
  next => cases hstep
  next =>
    split at hstep
    next =>
      cases hstep
      exact ⟨_, rfl⟩
    next =>
      cases hstep
      exact ⟨_, rfl⟩
  next =>
    cases hstep
    exact ⟨_, rfl⟩
  next =>
    cases hstep
    exact ⟨_, rfl⟩
  next =>
    split at hstep
    next =>
      cases hstep
      exact ⟨_, rfl⟩
    next =>
      cases hstep
      exact ⟨_, rfl⟩

/-- A step is an access of a tab, or a handler of an idle one. -/
theorem step_cases (hstep : Step localTime b event b') :
    (∃ fails, event.2 = .access fails ∧ b.access localTime event.1 fails = some b') ∨
      ∃ p, (b.tab event.1).script = .idle ∧ (b.tab event.1).handle localTime event.2 = some p ∧
        b' = b.setTab event.1 p := by
  obtain ⟨i, action⟩ := event
  rw [Step, Browser.next] at hstep
  dsimp only at hstep
  split at hstep
  next fails => exact .inl ⟨fails, rfl, hstep⟩
  next =>
    split at hstep
    next hidle =>
      obtain ⟨p, hp, rfl⟩ := Option.map_eq_some_iff.mp hstep
      exact .inr ⟨p, hidle, hp, rfl⟩
    next => cases hstep

/-- A step changes the page of its own tab only. -/
theorem step_other (hstep : Step localTime b event b') (hj : j ≠ event.1) : b'.tab j = b.tab j := by
  rcases step_cases hstep with ⟨fails, _, haccess⟩ | ⟨p, _, _, rfl⟩
  · obtain ⟨p, hp⟩ := access_tab haccess
    rw [hp, Function.update_of_ne hj]
  · exact Function.update_of_ne hj ..

/-- A handler of an idle tab saves nothing. -/
theorem handle_not_saving {p p' : Page} {action : Action} (hidle : p.script = .idle)
    (hstep : p.handle localTime action = some p') (history : List HistoryItem) :
    p'.script ≠ .save history := by
  intro hsave
  rcases handle_rests hstep with rfl | hrests
  · cases hsave
  · rw [hrests.1 history hsave] at hidle
    cases hidle

theorem setTab_self {p : Page} : (b.setTab i p).tab i = p := Function.update_self ..

theorem setTab_of_ne {p : Page} (hj : j ≠ i) : (b.setTab i p).tab j = b.tab j :=
  Function.update_of_ne hj ..

/-- The tab that goes on is not saving, nor was it: all is as it was with the others. -/
theorem Exact.setTab (h : Exact b) {p : Page}
    (hbefore : ∀ history, (b.tab i).script ≠ .save history)
    (hafter : ∀ history, p.script ≠ .save history) : Exact (b.setTab i p) where
  saving := by
    intro j history hsave
    by_cases hj : j = i
    · subst hj
      rw [setTab_self] at hsave
      exact absurd hsave (hafter history)
    · rw [setTab_of_ne hj] at hsave
      exact h.saving j history hsave
  stored := by
    intro hnone
    refine h.stored fun j history hsave => ?_
    by_cases hj : j = i
    · subst hj
      exact hbefore history hsave
    · refine hnone j history ?_
      rw [setTab_of_ne hj]
      exact hsave

theorem take_cons_take {α : Type} (x : α) (xs : List α) (n : Nat) :
    (x :: xs.take n).take n = (x :: xs).take n := by
  cases n with
  | zero => rfl
  | succ n =>
      rw [List.take_succ_cons, List.take_succ_cons, List.take_take, Nat.min_eq_left (Nat.le_succ n)]

/-- A tab has gone on while no other saves. -/
theorem exact_of_update {p : Page} {stored : Option Str} {recorded recent : List HistoryItem}
    (hothers : ∀ j ≠ i, ∀ history, (b.tab j).script ≠ .save history)
    (hsaving : ∀ history, p.script = .save history → history = recent.take MAX_HISTORY)
    (hstored : (∀ history, p.script ≠ .save history) → Holds stored (recent.take MAX_HISTORY)) :
    Exact ⟨stored, Function.update b.tab i p, recorded, recent⟩ where
  saving := by
    intro j history hsave
    dsimp only at hsave ⊢
    by_cases hj : j = i
    · subst hj
      rw [Function.update_self] at hsave
      exact hsaving history hsave
    · rw [Function.update_of_ne hj] at hsave
      exact absurd hsave (hothers j hj history)
  stored := by
    intro hnone
    refine hstored fun history hsave => hnone i history ?_
    dsimp only
    rw [Function.update_self]
    exact hsave

/-- **An access while no other tab saves keeps the storage exact.** -/
theorem Exact.access (h : Exact b) (hothers : ∀ j ≠ i, ∀ history, (b.tab j).script ≠ .save history)
    (hstep : b.access localTime i false = some b') : Exact b' := by
  have hload : (∀ history, (b.tab i).script ≠ .save history) →
      Holds b.stored (b.recent.take MAX_HISTORY) := by
    intro hi
    refine h.stored fun j => ?_
    by_cases hj : j = i
    · rw [hj]
      exact hi
    · exact hothers j hj
  rw [Browser.access] at hstep
  dsimp only at hstep
  rw [if_neg Bool.false_ne_true] at hstep
  cases hscript : (b.tab i).script with
  | idle =>
      rw [hscript] at hstep
      cases hstep
  | load entry =>
      have hholds := hload fun history hs => by rw [hscript] at hs; cases hs
      rw [hscript, hholds.load] at hstep
      cases hstep
      refine exact_of_update hothers (fun history hs => ?_) fun hnone => absurd rfl (hnone _)
      rw [← Script.save.inj hs]
      exact take_cons_take entry b.recent MAX_HISTORY
  | save saved =>
      rw [hscript] at hstep
      cases hstep
      refine exact_of_update hothers (fun history hs => by cases hs) fun _ => .inr ?_
      exact congrArg (fun history => some (writeHistory history)) (h.saving i saved hscript)
  | remove =>
      rw [hscript] at hstep
      cases hstep
      exact exact_of_update hothers (fun history hs => by cases hs) fun _ => .inl ⟨rfl, rfl⟩
  | render =>
      have hholds := hload fun history hs => by rw [hscript] at hs; cases hs
      rw [hscript, hholds.load] at hstep
      cases hstep
      exact exact_of_update hothers (fun history hs => by cases hs) fun _ => hholds

theorem Exact.step (h : Exact b) (hstep : Restrict (Step localTime) Quiet b event b') :
    Exact b' := by
  obtain ⟨hquiet, hstep⟩ := hstep
  rcases step_cases hstep with ⟨fails, hevent, haccess⟩ | ⟨p, hidle, hhandle, rfl⟩
  · obtain ⟨rfl, hothers⟩ := hquiet fails hevent
    exact h.access hothers haccess
  · refine h.setTab (fun history hs => ?_) (handle_not_saving hidle hhandle)
    rw [hidle] at hs
    cases hs

/-- **With a working storage the history is that of the newest five entries** since it was last
    cleared, as long as no tab touches it between the reading and the saving of another: the storage
    holds them unless a tab is about to save, and a tab that reads them shows them. -/
theorem history_is_newest_five (h : Run (Restrict (Step localTime) Quiet) .initial events b) :
    ((∀ j history, (b.tab j).script ≠ .save history) →
      loadHistory b.stored = some (b.recent.take 5)) ∧
    ∀ i b', (b.tab i).script = .render → Restrict (Step localTime) Quiet b (i, .access false) b' →
      (b'.tab i).historyList = historyHtml localTime (b.recent.take 5) ∧
        (b'.tab i).historyCount = JsonText.intText (b.recent.take 5).length := by
  have hexact : Exact b := h.invariant (fun _ _ _ hs hstep => hs.step hstep) exact_initial
  refine ⟨fun hnone => (hexact.stored hnone).load, fun i b' hscript hstep => ?_⟩
  obtain ⟨hquiet, hstep⟩ := hstep
  have hnone : ∀ j history, (b.tab j).script ≠ .save history := by
    intro j
    by_cases hj : j = i
    · intro history hs
      rw [hj, hscript] at hs
      cases hs
    · exact (hquiet false rfl).2 j hj
  have haccess : b.access localTime i false = some b' := hstep
  rw [Browser.access] at haccess
  dsimp only at haccess
  rw [if_neg Bool.false_ne_true, hscript, (hexact.stored hnone).load] at haccess
  cases haccess
  exact ⟨congrArg Page.historyList setTab_self, congrArg Page.historyCount setTab_self⟩

/-- A run of one tab with a working storage is quiet. -/
theorem quiet_of_one_tab (h : Run (Step localTime) b events b')
    (hothers : ∀ j ≠ i, ∀ history, (b.tab j).script ≠ .save history)
    (hevents : ∀ e ∈ events, e.1 = i ∧ e.2 ≠ .access true) :
    Run (Restrict (Step localTime) Quiet) b events b' := by
  induction h with
  | nil s => exact .nil s
  | @cons s s' s'' e es hstep hrun ih =>
      obtain ⟨hi, haccess⟩ := hevents e List.mem_cons_self
      subst hi
      refine .cons ⟨fun fails hfails => ⟨?_, hothers⟩, hstep⟩ (ih ?_ ?_)
      · cases fails with
        | false => rfl
        | true => exact absurd hfails haccess
      · intro j hj
        rw [step_other hstep hj]
        exact hothers j hj
      · exact fun e he => hevents e (List.mem_cons_of_mem _ he)

/-- The pages of the other tabs after a run of one of them. -/
theorem run_other (h : Run (Step localTime) b events b')
    (hevents : ∀ e ∈ events, e.1 = i) (hj : j ≠ i) :
    b'.tab j = b.tab j := by
  have hown : Run (Restrict (Step localTime) fun _ e => e.1 = i) b events b' :=
    h.restrict_of_labels hevents
  refine hown.invariant (I := fun s => s.tab j = b.tab j) (fun s e s' hs hstep => ?_) rfl
  rw [step_other hstep.2 fun heq => hj (heq.trans hstep.1), hs]

/-- One tab: two checks, and the history is read for the list. -/
def ownEvents : List (Nat × Action) :=
  [(0, .access false), (0, .submit (.dns (str "a.example") (str "A"))),
    (0, .respond 0 .unauthorized (str "2024-01-01T00:00:00.000Z")), (0, .access false),
      (0, .access false), (0, .access false), (0, .submit (.dns (str "b.example") (str "A"))),
    (0, .respond 1 .notJson (str "2024-01-01T00:00:01.000Z")), (0, .access false),
      (0, .access false)]

theorem own_history_is_newest_five : ∃ b b' : Browser,
    Run (Restrict (Step id) Quiet) .initial ownEvents b ∧ b.recent.length = 2 ∧
      loadHistory b.stored = some (b.recent.take 5) ∧
      b.next id (0, .access false) = some b' ∧
        (b'.tab 0).historyList = historyHtml id (b.recent.take 5) := by
  have hany : (exec (Browser.next id) .initial ownEvents).any (fun b =>
      (b.tab 0).script = .render ∧ b.recent.length = 2 ∧ (b.next id (0, .access false)).isSome) =
        true := by
    decide +kernel
  obtain ⟨b, hb, hfacts⟩ := (Option.any_eq_true ..).mp hany
  obtain ⟨hscript, hrecent, hnext⟩ := of_decide_eq_true hfacts
  obtain ⟨b', hb'⟩ := Option.isSome_iff_exists.mp hnext
  have hrun : Run (Step id) .initial ownEvents b := .of_exec (fun _ _ _ h => h) hb
  have hstart : ∀ j ≠ 0, ∀ history, (Browser.initial.tab j).script ≠ .save history :=
    fun _ _ _ hs => by cases hs
  have hquiet := quiet_of_one_tab hrun hstart (by decide)
  have hothers : ∀ j ≠ 0, ∀ history, (b.tab j).script ≠ .save history := by
    intro j hj
    rw [run_other hrun (i := 0) (by decide) hj]
    exact hstart j hj
  have hnone : ∀ j history, (b.tab j).script ≠ .save history := by
    intro j history hs
    by_cases hj : j = 0
    · rw [hj, hscript] at hs
      cases hs
    · exact hothers j hj history hs
  have hnewest := history_is_newest_five hquiet
  refine ⟨b, b', hquiet, hrecent, hnewest.1 hnone, hb', (hnewest.2 0 b' hscript ?_).1⟩
  exact ⟨fun fails hfails => ⟨(Action.access.inj hfails).symm, hothers⟩, hb'⟩

end Working

end NetProbePageRun
