import NetProbe.HtmlTextProofs
import NetProbe.JsonTextProofs
import NetProbe.PersistenceProofs

/-!
# What the page shows

The templates of `app/static/js/app.js`, as the texts they are assigned to `innerHTML`, and
beside each the nodes it is meant to show.  The browser reads every template as the tokens of
its nodes, whatever the server, the user or the servers that were probed have put into the data:
a text of theirs is shown as it is and adds no markup.
-/

namespace NetProbePageView

open NetProbePyText NetProbePersistence HtmlText

-- ── Values ────────────────────────────────────────────────────────────────────────

/-- `value.replace(/c/g, text)` -/
def replaceAll (c : Char) (text value : Str) : Str :=
  value.flatMap fun d => if d = c then text else [d]

/-- `escapeHtml(value)` -/
def escapeHtml (value : Str) : Str :=
  let value := replaceAll '&' (str "&amp;") value
  let value := replaceAll '<' (str "&lt;") value
  let value := replaceAll '>' (str "&gt;") value
  replaceAll '"' (str "&quot;") value

/-- A value of the data of a response. -/
inductive JsValue where
  | null
  | string (s : Str)
  | number (n : Int)
  deriving DecidableEq, Repr

/-- `String(value)` -/
def JsValue.text : JsValue → Str
  | .null => str "null"
  | .string s => s
  | .number n => JsonText.intText n

def JsValue.ofText : Option Str → JsValue
  | none => .null
  | some s => .string s

def JsValue.ofNumber : Option Int → JsValue
  | none => .null
  | some n => .number n

/-- `${n} unit` of a number, or `null`. -/
def withUnit (n : Option Int) (unit : String) : JsValue :=
  match n with
  | none => .null
  | some n => .string (JsonText.intText n ++ str unit)

/-- White space of JavaScript. -/
def isJsSpace (c : Char) : Bool :=
  ('\t' ≤ c && c ≤ '\r') || c = ' ' || c = '\u00a0' || c = '\u1680' ||
    ('\u2000' ≤ c && c ≤ '\u200a') ||
    c = '\u2028' || c = '\u2029' || c = '\u202f' || c = '\u205f' || c = '\u3000' || c = '\ufeff'

/-- `value.trim()` -/
def trim (value : Str) : Str := rstrip isJsSpace (lstrip isJsSpace value)

/-- `a || b` of texts -/
def orText (a b : Str) : Str := if a = [] then b else a

/-- The classes of results. -/
inductive StatusClass where
  | success
  | info
  | warn
  | caution
  | error
  deriving DecidableEq, Repr

def StatusClass.text : StatusClass → Str
  | .success => str "status-success"
  | .info => str "status-info"
  | .warn => str "status-warn"
  | .caution => str "status-caution"
  | .error => str "status-error"

/-- `statusClassForHttp(statusCode, reachable)`; `null` is no status. -/
def statusClassForHttp (statusCode : Option Int) (reachable : Bool) : StatusClass :=
  if !reachable then .error
  else
    let code := statusCode.getD 0
    if 200 ≤ code ∧ code < 300 then .success
    else if 300 ≤ code ∧ code < 400 then .info
    else if 400 ≤ code ∧ code < 500 then .warn
    else if 500 ≤ code then .caution
    else .info

-- ── Templates ─────────────────────────────────────────────────────────────────────

/-- An entry of a grid that is left out. -/
def JsValue.blank (value : JsValue) : Bool := value = .null || value = .string []

def resultItem (entry : Str × JsValue) : Str :=
  str "\n      <div class=\"result-item\">\n        <dt>" ++ (escapeHtml entry.1 ++
    (str "</dt>\n        <dd>" ++ (escapeHtml entry.2.text ++ str "</dd>\n      </div>")))

/-- `renderResultGrid(entries)` -/
def renderResultGrid (entries : List (Str × JsValue)) : Str :=
  str "<dl class=\"result-grid\">" ++
    ((entries.filter (!·.2.blank)).flatMap resultItem ++ str "</dl>")

/-- What a card shows besides its body. -/
structure Card where
  statusClass : StatusClass
  badgeText : Str
  headline : Str
  metaText : Str
  deriving DecidableEq, Repr

/-- `${meta ? ... : ""}` -/
def metaHtml (metaText : Str) : Str :=
  if metaText = [] then [] else str "<div class=\"result-meta\">" ++
    (escapeHtml metaText ++ str "</div>")

/-- `renderResultCard({ statusClass, badgeText, headline, meta, bodyHtml })` -/
def renderResultCard (card : Card) (bodyHtml : Str) : Str :=
  str "\n    <div class=\"result-card " ++ (card.statusClass.text ++
    (str "\">\n      <div class=\"result-headline\">\n        <span class=\"status-badge " ++
      (card.statusClass.text ++ (str "\">" ++ (escapeHtml card.badgeText ++
        (str "</span>\n        <span class=\"result-headline-text\">" ++
          (escapeHtml card.headline ++
          (str "</span>\n      </div>\n      " ++
            (metaHtml card.metaText ++ (str "\n      " ++ (bodyHtml ++
            str "\n    </div>")))))))))))

/-- A row of the table of records. -/
def recordRow (record : Str) : Str := str "<tr><td>" ++ (escapeHtml record ++ str "</td></tr>")

/-- `value ? escapeHtml(value) : "-"` -/
def orDash (value : Option Str) : Str :=
  match value with
  | some value => escapeHtml value
  | none => str "-"

/-- `bodyHtml` of a DNS lookup. -/
def dnsBody (recordType : Str) (d : DnsLookupData) : Str :=
  let rows := if d.records = [] then str "<tr><td>해당 유형의 레코드가 없습니다.</td></tr>"
    else d.records.flatMap recordRow
  str "\n      <div class=\"result-grid\" style=\"margin-bottom:8px\">\n        <div class=\"result-item\"><dt>TTL</dt><dd>" ++
    (orDash (d.ttl.map JsonText.intText) ++
  (str "</dd></div>\n        <div class=\"result-item\"><dt>조회 시간</dt><dd>" ++
    (escapeHtml (JsonText.intText d.lookup_time_ms) ++
  (str " ms</dd></div>\n        <div class=\"result-item\"><dt>리졸버</dt><dd>" ++
    (orDash (d.resolver.filter (· ≠ [])) ++
  (str "</dd></div>\n      </div>\n      <table class=\"data-table\">\n        <thead><tr><th>" ++
    (escapeHtml recordType ++
  (str " 레코드</th></tr></thead>\n        <tbody>" ++ (rows ++ str "</tbody>\n      </table>")))))))))

/-- An item of the history. -/
structure HistoryItem where
  kind : Str
  summary : Str
  statusClass : Str
  timestamp : Str
  deriving DecidableEq, Repr

section Templates

variable (localTime : Str → Str)

/-- The template of an item; `localTime` is `formatLocalTime`. -/
def historyItem (item : HistoryItem) : Str :=
  str "\n      <li class=\"history-item\">\n        <span class=\"dot " ++
    (escapeHtml item.statusClass ++
    (str "\"></span>\n        <span>[" ++ (escapeHtml item.kind ++
      (str "]</span>\n        <span>" ++ (escapeHtml item.summary ++
        (str "</span>\n        <span style=\"margin-left:auto;color:var(--text-dim)\">" ++
          (escapeHtml (localTime item.timestamp) ++ str "</span>\n      </li>")))))))

/-- `list.innerHTML` of `renderHistory()` -/
def historyHtml (history : List HistoryItem) : Str :=
  if history = [] then str "<li class=\"history-empty\">아직 조회 기록이 없습니다.</li>"
  else history.flatMap (historyItem localTime)

end Templates

-- ── Nodes ─────────────────────────────────────────────────────────────────────────

/-- A text as the page shows it. -/
def shown (text : Str) : Node := .text (newlines false text)

/-- A text of the template. -/
def space (text : String) : Node := .text (str text)

def element (name : String) (attrs : List (String × Str)) (children : List Node) : Node :=
  .element (str name) (attrs.map fun a => (str a.1, a.2)) children

def itemNodes (entry : Str × JsValue) : List Node :=
  [space "\n      ", element "div" [("class", str "result-item")]
    [space "\n        ", element "dt" [] [shown entry.1], space "\n        ",
      element "dd" [] [shown entry.2.text], space "\n      "]]

def gridNodes (entries : List (Str × JsValue)) : List Node :=
  [element "dl" [("class", str "result-grid")] ((entries.filter (!·.2.blank)).flatMap itemNodes)]

def metaNodes (metaText : Str) : List Node :=
  if metaText = [] then [] else [element "div" [("class", str "result-meta")] [shown metaText]]

def cardNodes (card : Card) (body : List Node) : List Node :=
  [space "\n    ", element "div" [("class", str "result-card " ++ card.statusClass.text)]
    ([space "\n      ", element "div" [("class", str "result-headline")]
        [space "\n        ",
          element "span" [("class", str "status-badge " ++ card.statusClass.text)]
            [shown card.badgeText],
          space "\n        ", element "span" [("class", str "result-headline-text")]
            [shown card.headline],
          space "\n      "],
      space "\n      "] ++
        (metaNodes card.metaText ++ (space "\n      " :: (body ++ [space "\n    "]))))]

def rowNodes (record : Str) : List Node := [element "tr" [] [element "td" [] [shown record]]]

def gridItem (label : String) (value : List Node) : Node :=
  element "div" [("class", str "result-item")]
    [element "dt" [] [space label], element "dd" [] value]

def dnsNodes (recordType : Str) (d : DnsLookupData) : List Node :=
  let rows := if d.records = [] then [element "tr" [] [element "td" [] [space "해당 유형의 레코드가 없습니다."]]]
    else d.records.flatMap rowNodes
  [space "\n      ",
    element "div" [("class", str "result-grid"), ("style", str "margin-bottom:8px")]
      [space "\n        ", gridItem "TTL" [shown ((d.ttl.map JsonText.intText).getD (str "-"))],
        space "\n        ",
          gridItem "조회 시간" [shown (JsonText.intText d.lookup_time_ms), space " ms"],
        space "\n        ", gridItem "리졸버" [shown ((d.resolver.filter (· ≠ [])).getD (str "-"))],
        space "\n      "],
    space "\n      ",
    element "table" [("class", str "data-table")]
      [space "\n        ",
        element "thead" [] [element "tr" [] [element "th" [] [shown recordType, space " 레코드"]]],
        space "\n        ", element "tbody" [] rows, space "\n      "]]

/-- The value of an attribute, with a text filled in. -/
def filled (start : String) (value : Str) : Str := str start ++ (newlines false value).map visible

def historyNode (localTime : Str → Str) (item : HistoryItem) : List Node :=
  [space "\n      ", element "li" [("class", str "history-item")]
    [space "\n        ", element "span" [("class", filled "dot " item.statusClass)] [],
      space "\n        ", element "span" [] [space "[", shown item.kind, space "]"],
      space "\n        ", element "span" [] [shown item.summary],
      space "\n        ",
      element "span" [("style", str "margin-left:auto;color:var(--text-dim)")]
        [shown (localTime item.timestamp)],
      space "\n      "]]

def historyNodes (localTime : Str → Str) (history : List HistoryItem) : List Node :=
  if history = [] then [element "li" [("class", str "history-empty")] [space "아직 조회 기록이 없습니다."]]
  else history.flatMap (historyNode localTime)

-- ── Reading ───────────────────────────────────────────────────────────────────────

section Reading

variable {cr cr' : Bool} {s rest text : Str} {ts ts' : List Token} {ns ns' : List Node}

theorem replaceAll_append {c : Char} {by' a b : Str} :
    replaceAll c by' (a ++ b) = replaceAll c by' a ++ replaceAll c by' b := List.flatMap_append

/-- `escapeHtml` writes the four characters as references. -/
theorem escapeHtml_eq : escapeHtml s = escape s := by
  induction s with
  | nil => rfl
  | cons c cs ih =>
      have hcons : escapeHtml (c :: cs) = escapeHtml [c] ++ escapeHtml cs := by
        show escapeHtml ([c] ++ cs) = _
        simp only [escapeHtml, replaceAll_append]
      have hchar : escapeHtml [c] = escapeChar c := by
        by_cases hc : c ∈ ['&', '<', '>', '"']
        · simp only [List.mem_cons, List.not_mem_nil, or_false] at hc
          rcases hc with rfl | rfl | rfl | rfl
          · rfl
          · rfl
          · rfl
          · rfl
        · simp only [List.mem_cons, List.not_mem_nil, or_false, not_or] at hc
          rw [escapeChar_other hc.1 hc.2.1 hc.2.2.1 hc.2.2.2]
          simp [escapeHtml, replaceAll, hc]
      rw [hcons, hchar, ih, escape, escape, List.flatMap_cons]

/-- Markup that is read as nodes. -/
def Shows (s : Str) (ns : List Node) : Prop := Reads false s false (tokensOf ns)

instance (s : Str) (ns : List Node) : Decidable (Shows s ns) :=
  inferInstanceAs (Decidable (Reads false s false (tokensOf ns)))

theorem tokensOf_append : tokensOf (ns ++ ns') = tokensOf ns ++ tokensOf ns' := by
  induction ns with
  | nil => rfl
  | cons n ns ih => rw [List.cons_append, tokensOf, tokensOf, ih, List.append_assoc]

theorem Shows.append {s' : Str} (h : Shows s ns) (h' : Shows s' ns') :
    Shows (s ++ s') (ns ++ ns') := by
  rw [Shows, tokensOf_append]
  exact Reads.append h h'

/-- A value that is filled in, and what comes after it. -/
theorem reads_value (text : Str) (h : ∀ cr, Reads cr rest cr' ts) :
    Reads false (escapeHtml text ++ rest) cr' ((shown text).tokens ++ ts) := by
  rw [escapeHtml_eq]
  exact Reads.append reads_escape (h _)

theorem shows_item (entry : Str × JsValue) : Shows (resultItem entry) (itemNodes entry) := by
  have h₁ : Reads false (str "\n      <div class=\"result-item\">\n        <dt>") false
      ((space "\n      ").tokens ++ .startTag (str "div") [(str "class", str "result-item")] ::
        ((space "\n        ").tokens ++ [.startTag (str "dt") []])) := rfl
  have h₂ : ∀ cr, Reads cr (str "</dt>\n        <dd>") false
      (.endTag (str "dt") :: ((space "\n        ").tokens ++ [.startTag (str "dd") []])) := by
    intro cr
    cases cr <;> decide +kernel
  have h₃ : ∀ cr, Reads cr (str "</dd>\n      </div>") false
      (.endTag (str "dd") :: ((space "\n      ").tokens ++ [.endTag (str "div")])) := by
    intro cr
    cases cr <;> decide +kernel
  have hread := h₁.append (reads_value entry.1 fun cr =>
    (h₂ cr).append (reads_value entry.2.text h₃))
  simpa only [Shows, resultItem, itemNodes, element, tokensOf, Node.tokens,
    List.map_cons, List.map_nil,
    List.append_assoc, List.cons_append, List.nil_append, List.append_nil] using hread

theorem shows_grid (entries : List (Str × JsValue)) :
    Shows (renderResultGrid entries) (gridNodes entries) := by
  have hitems : ∀ es : List (Str × JsValue),
      Shows (es.flatMap resultItem) (es.flatMap itemNodes) := by
    intro es
    induction es with
    | nil => exact reads_nil
    | cons e es ih =>
        rw [List.flatMap_cons, List.flatMap_cons]
        exact (shows_item e).append ih
  have h₁ : Reads false (str "<dl class=\"result-grid\">") false
      [.startTag (str "dl") [(str "class", str "result-grid")]] := rfl
  have h₂ : Reads false (str "</dl>") false [.endTag (str "dl")] := rfl
  have hread := h₁.append (Reads.append (hitems (entries.filter (!·.2.blank))) h₂)
  simpa only [Shows, renderResultGrid, gridNodes, element, tokensOf, Node.tokens,
    List.map_cons, List.map_nil,
    List.append_assoc, List.cons_append, List.nil_append, List.append_nil] using hread

theorem shows_meta (metaText : Str) : Shows (metaHtml metaText) (metaNodes metaText) := by
  rw [metaHtml, metaNodes]
  split
  next => exact reads_nil
  next =>
    have h₁ : Reads false (str "<div class=\"result-meta\">") false
        [.startTag (str "div") [(str "class", str "result-meta")]] := rfl
    have h₂ : ∀ cr, Reads cr (str "</div>") false [.endTag (str "div")] := by
      intro cr
      cases cr <;> decide +kernel
    have hread := h₁.append (reads_value metaText h₂)
    simpa only [Shows, element, tokensOf, Node.tokens, List.map_cons, List.map_nil,
      List.append_assoc, List.cons_append, List.nil_append, List.append_nil] using hread

theorem shows_card (card : Card) {bodyHtml : Str} {body : List Node} (hbody : Shows bodyHtml body) :
    Shows (renderResultCard card bodyHtml) (cardNodes card body) := by
  have h₁ : Reads false (str "\n    <div class=\"result-card " ++ (card.statusClass.text ++
      (str "\">\n      <div class=\"result-headline\">\n        <span class=\"status-badge " ++
        (card.statusClass.text ++ str "\">")))) false
      ((space "\n    ").tokens ++
        .startTag (str "div") [(str "class", str "result-card " ++ card.statusClass.text)] ::
          ((space "\n      ").tokens ++ .startTag (str "div")
            [(str "class", str "result-headline")] ::
            ((space "\n        ").tokens ++
              [.startTag (str "span")
                [(str "class", str "status-badge " ++ card.statusClass.text)]]))) := by
    cases card.statusClass <;> decide +kernel
  have h₂ : ∀ cr, Reads cr (str "</span>\n        <span class=\"result-headline-text\">") false
      (.endTag (str "span") :: ((space "\n        ").tokens ++
        [.startTag (str "span") [(str "class", str "result-headline-text")]])) := by
    intro cr
    cases cr <;> decide +kernel
  have h₃ : ∀ cr, Reads cr (str "</span>\n      </div>\n      ") false
      (.endTag (str "span") :: ((space "\n      ").tokens ++ .endTag (str "div") ::
        (space "\n      ").tokens)) := by
    intro cr
    cases cr <;> decide +kernel
  have h₄ : Reads false (str "\n      ") false (space "\n      ").tokens := rfl
  have h₅ : Reads false (str "\n    </div>") false
      ((space "\n    ").tokens ++ [.endTag (str "div")]) := rfl
  have hread := h₁.append (reads_value card.badgeText fun cr =>
    (h₂ cr).append (reads_value card.headline fun cr =>
      (h₃ cr).append (Reads.append (shows_meta card.metaText) (h₄.append (Reads.append hbody h₅)))))
  simpa only [Shows, renderResultCard, cardNodes, element, tokensOf_append, tokensOf, Node.tokens,
    List.map_cons, List.map_nil, List.append_assoc, List.cons_append,
      List.nil_append, List.append_nil]
    using hread

theorem orDash_eq (value : Option Str) : orDash value = escapeHtml (value.getD (str "-")) := by
  cases value <;> rfl

theorem shows_rows (records : List Str) :
    Shows (records.flatMap recordRow) (records.flatMap rowNodes) := by
  induction records with
  | nil => exact reads_nil
  | cons record records ih =>
      have h₁ : Reads false (str "<tr><td>") false
          [.startTag (str "tr") [], .startTag (str "td") []] := rfl
      have h₂ :
          ∀ cr, Reads cr (str "</td></tr>") false [.endTag (str "td"), .endTag (str "tr")] := by
        intro cr
        cases cr <;> decide +kernel
      have hread := h₁.append (reads_value record h₂)
      have hrow : Shows (recordRow record) (rowNodes record) := by
        simpa only [Shows, recordRow, rowNodes, element, tokensOf, Node.tokens, List.map_nil,
          List.append_assoc, List.cons_append, List.nil_append, List.append_nil] using hread
      rw [List.flatMap_cons, List.flatMap_cons]
      exact hrow.append ih

theorem shows_dns (recordType : Str) (d : DnsLookupData) :
    Shows (dnsBody recordType d) (dnsNodes recordType d) := by
  have h₁ : Reads false
      (str "\n      <div class=\"result-grid\" style=\"margin-bottom:8px\">\n        <div class=\"result-item\"><dt>TTL</dt><dd>")
      false ((space "\n      ").tokens ++
        .startTag (str "div") [(str "class", str "result-grid"),
          (str "style", str "margin-bottom:8px")] ::
          ((space "\n        ").tokens ++ .startTag (str "div")
            [(str "class", str "result-item")] ::
            .startTag (str "dt") [] ::
              ((space "TTL").tokens ++ [.endTag (str "dt"), .startTag (str "dd") []]))) := by
    decide +kernel
  have h₂ : ∀ cr, Reads cr
      (str "</dd></div>\n        <div class=\"result-item\"><dt>조회 시간</dt><dd>") false
      (.endTag (str "dd") :: .endTag (str "div") :: ((space "\n        ").tokens ++
        .startTag (str "div") [(str "class", str "result-item")] :: .startTag (str "dt") [] ::
          ((space "조회 시간").tokens ++ [.endTag (str "dt"), .startTag (str "dd") []]))) := by
    intro cr
    cases cr <;> decide +kernel
  have h₃ : ∀ cr, Reads cr
      (str " ms</dd></div>\n        <div class=\"result-item\"><dt>리졸버</dt><dd>") false
      ((space " ms").tokens ++ .endTag (str "dd") :: .endTag (str "div") ::
        ((space "\n        ").tokens ++
        .startTag (str "div") [(str "class", str "result-item")] :: .startTag (str "dt") [] ::
          ((space "리졸버").tokens ++ [.endTag (str "dt"), .startTag (str "dd") []]))) := by
    intro cr
    cases cr <;> decide +kernel
  have h₄ : ∀ cr, Reads cr
      (str "</dd></div>\n      </div>\n      <table class=\"data-table\">\n        <thead><tr><th>")
        false
      (.endTag (str "dd") :: .endTag (str "div") ::
        ((space "\n      ").tokens ++ .endTag (str "div") ::
        ((space "\n      ").tokens ++ .startTag (str "table") [(str "class", str "data-table")] ::
          ((space "\n        ").tokens ++
            [.startTag (str "thead") [], .startTag (str "tr") [], .startTag (str "th") []])))) := by
    intro cr
    cases cr <;> decide +kernel
  have h₅ : ∀ cr, Reads cr (str " 레코드</th></tr></thead>\n        <tbody>") false
      ((space " 레코드").tokens ++ .endTag (str "th") :: .endTag (str "tr") :: .endTag (str "thead") ::
        ((space "\n        ").tokens ++ [.startTag (str "tbody") []])) := by
    intro cr
    cases cr <;> decide +kernel
  have h₆ : Reads false (str "</tbody>\n      </table>") false
      (.endTag (str "tbody") :: ((space "\n      ").tokens ++ [.endTag (str "table")])) := by
    decide +kernel
  have hrows : Shows
      (if d.records = [] then str "<tr><td>해당 유형의 레코드가 없습니다.</td></tr>"
        else d.records.flatMap recordRow)
      (if d.records = [] then [element "tr" [] [element "td" [] [space "해당 유형의 레코드가 없습니다."]]]
        else d.records.flatMap rowNodes) := by
    split
    next => decide +kernel
    next => exact shows_rows _
  have hread := h₁.append (reads_value ((d.ttl.map JsonText.intText).getD (str "-")) fun cr =>
    (h₂ cr).append (reads_value (JsonText.intText d.lookup_time_ms) fun cr =>
      (h₃ cr).append (reads_value ((d.resolver.filter (· ≠ [])).getD (str "-")) fun cr =>
        (h₄ cr).append (reads_value recordType fun cr =>
          (h₅ cr).append (Reads.append hrows h₆)))))
  simpa only [Shows, dnsBody, dnsNodes, orDash_eq, gridItem, element, tokensOf,
    Node.tokens, List.map_cons,
    List.map_nil, List.append_assoc, List.cons_append, List.nil_append, List.append_nil] using hread

/-- A text in the value of an attribute, and what comes after it. -/
theorem reads_attribute {start : Str} {name key value : Str} (text : Str)
    (hstart : feed false .data start = ((false, .value .double ⟨false, name, [(key, value)]⟩), ts))
    (hrest : ∀ cr v, feed cr (.value .double ⟨false, name, [(key, value ++ v)]⟩) rest =
      ((false, .data), .startTag name [(key, value ++ v)] :: ts')) :
    Reads false (start ++ (escapeHtml text ++ rest)) false
      (ts ++ .startTag name [(key, value ++ (newlines false text).map visible)] :: ts') := by
  rw [Reads, feed_append, hstart]
  dsimp only
  rw [feed_append, escapeHtml_eq, feed_escape_value, puts_value]
  dsimp only
  rw [hrest, List.nil_append]

theorem shows_historyItem (localTime : Str → Str) (item : HistoryItem) :
    Shows (historyItem localTime item) (historyNode localTime item) := by
  have hstart :
      feed false .data (str "\n      <li class=\"history-item\">\n        <span class=\"dot ") =
      ((false, .value .double ⟨false, str "span", [(str "class", str "dot ")]⟩),
        (space "\n      ").tokens ++ .startTag (str "li") [(str "class", str "history-item")] ::
          (space "\n        ").tokens) := by
    decide +kernel
  have hrest :
      ∀ cr v, feed cr (.value .double ⟨false, str "span", [(str "class", str "dot " ++ v)]⟩)
      (str "\"></span>\n        <span>[") = ((false, .data), .startTag (str "span")
        [(str "class", str "dot " ++ v)] :: .endTag (str "span") :: ((space "\n        ").tokens ++
          .startTag (str "span") [] :: (space "[").tokens)) := by
    intro cr v
    cases cr <;> rfl
  have h₁ : ∀ cr, Reads cr (str "]</span>\n        <span>") false ((space "]").tokens ++
      .endTag (str "span") :: ((space "\n        ").tokens ++ [.startTag (str "span") []])) := by
    intro cr
    cases cr <;> decide +kernel
  have h₂ : ∀ cr, Reads cr
      (str "</span>\n        <span style=\"margin-left:auto;color:var(--text-dim)\">") false
      (.endTag (str "span") :: ((space "\n        ").tokens ++
        [.startTag (str "span")
          [(str "style", str "margin-left:auto;color:var(--text-dim)")]])) := by
    intro cr
    cases cr <;> decide +kernel
  have h₃ : ∀ cr, Reads cr (str "</span>\n      </li>") false
      (.endTag (str "span") :: ((space "\n      ").tokens ++ [.endTag (str "li")])) := by
    intro cr
    cases cr <;> decide +kernel
  have hread := (reads_attribute item.statusClass hstart hrest).append
    (reads_value item.kind fun cr => (h₁ cr).append (reads_value item.summary fun cr =>
      (h₂ cr).append (reads_value (localTime item.timestamp) h₃)))
  simpa only [Shows, historyItem, historyNode, filled, element, tokensOf,
    Node.tokens, List.map_cons,
    List.map_nil, List.append_assoc, List.cons_append, List.nil_append, List.append_nil] using hread

theorem shows_items (localTime : Str → Str) (history : List HistoryItem) :
    Shows (history.flatMap (historyItem localTime)) (history.flatMap (historyNode localTime)) := by
  induction history with
  | nil => exact reads_nil
  | cons item history ih =>
      rw [List.flatMap_cons, List.flatMap_cons]
      exact (shows_historyItem localTime item).append ih

theorem shows_history (localTime : Str → Str) (history : List HistoryItem) :
    Shows (historyHtml localTime history) (historyNodes localTime history) := by
  rw [historyHtml, historyNodes]
  split
  next => decide +kernel
  next => exact shows_items localTime history

end Reading

-- ── Results ───────────────────────────────────────────────────────────────────────

/-- `envelope.meta` -/
structure Meta where
  request_id : Str
  timestamp : Str
  deriving DecidableEq, Repr

/-- `HttpCheckData`, what the page reads of it. -/
structure HttpCheckData where
  final_url : Option Str
  reachable : Bool
  status_code : Option Int
  reason_phrase : Option Str
  resolved_ip : Option Str
  response_time_ms : Int
  content_length : Option Int
  content_type : Option Str
  redirect_count : Int
  deriving DecidableEq, Repr

/-- `ClientInfoData` -/
structure ClientInfoData where
  client_ip : Str
  forwarded_for : List Str
  user_agent : Option Str
  accept_language : Option Str
  protocol : Str
  scheme : Str
  host : Str
  deriving DecidableEq, Repr

/-- What `Number(...)` makes of an input, and how `${n}` writes it. -/
structure InputNumber where
  value : Rat
  text : Str
  deriving DecidableEq, Repr

/-- A result, with what was asked for. -/
inductive Result where
  | http (url : Str) (d : HttpCheckData)
  | port (host : Str) (number : InputNumber) (d : PortCheckData)
  | dns (domain recordType : Str) (d : DnsLookupData)
  | client (d : ClientInfoData)
  deriving DecidableEq, Repr

/-- `values.join(", ")` -/
def joinComma (values : List Str) : Str := [',', ' '].intercalate values

def httpBadge (d : HttpCheckData) : Str :=
  if d.reachable then
    trim ((JsValue.ofNumber d.status_code).text ++ ' ' :: d.reason_phrase.getD [])
  else str "연결 실패"

def httpHeadline (d : HttpCheckData) : Str :=
  if d.reachable then str "연결 성공 · " ++ (JsonText.intText d.response_time_ms ++ str "ms")
  else str "대상에 연결할 수 없습니다."

def httpEntries (d : HttpCheckData) : List (Str × JsValue) :=
  [(str "최종 URL", .ofText d.final_url), (str "대상 IP", .ofText d.resolved_ip),
   (str "응답 시간", withUnit (some d.response_time_ms) " ms"), (str "콘텐츠 유형", .ofText d.content_type),
   (str "응답 크기", withUnit d.content_length " bytes"), (str "리다이렉트 횟수", .number d.redirect_count)]

/-- `PORT_RESULT_LABEL[result] || result` -/
def portLabel (result : Str) : Str :=
  if result = str "OPEN" then str "열림"
  else if result = str "REFUSED" then str "연결 거부"
  else if result = str "TIMEOUT" then str "응답 없음"
  else if result = str "DNS_FAILED" then str "DNS 조회 실패"
  else if result = str "BLOCKED" then str "접근 차단"
  else result

/-- `PORT_RESULT_STATUS_CLASS[result] || "status-info"` -/
def portStatusClass (result : Str) : StatusClass :=
  if result = str "OPEN" then .success
  else if result = str "REFUSED" then .warn
  else if result = str "TIMEOUT" then .caution
  else if result = str "DNS_FAILED" then .error
  else if result = str "BLOCKED" then .error
  else .info

def portEntries (d : PortCheckData) : List (Str × JsValue) :=
  [(str "변환된 IP", .string (joinComma d.resolved_ips)),
   (str "연결 시간", withUnit d.connection_time_ms " ms"), (str "설명", .string d.message)]

def dnsBadge (d : DnsLookupData) : Str :=
  if d.records = [] then str "결과 없음" else JsonText.intText d.records.length ++ str "건"

def clientEntries (d : ClientInfoData) : List (Str × JsValue) :=
  [(str "접속 IP", .string d.client_ip),
   (str "프록시 전달 IP", .string (orText (joinComma d.forwarded_for) (str "없음"))),
   (str "User-Agent", .ofText d.user_agent), (str "언어", .ofText d.accept_language),
   (str "프로토콜", .string d.protocol), (str "접속 방식", .string d.scheme), (str "Host", .string d.host)]

/-- `badgeText`, and the badge in the history. -/
def Result.badge : Result → Str
  | .http _ d => httpBadge d
  | .port _ _ d => portLabel d.result
  | .dns _ _ d => dnsBadge d
  | .client _ => str "접속 정보"

def Result.statusClass : Result → StatusClass
  | .http _ d => statusClassForHttp d.status_code d.reachable
  | .port _ _ d => portStatusClass d.result
  | .dns _ _ d => if d.records = [] then .warn else .success
  | .client _ => .info

def Result.headline : Result → Str
  | .http _ d => httpHeadline d
  | .port host number _ => host ++ ':' :: number.text
  | .dns domain recordType _ => domain ++ (str " · " ++ recordType)
  | .client d => d.client_ip

def Result.bodyHtml : Result → Str
  | .http _ d => renderResultGrid (httpEntries d)
  | .port _ _ d => renderResultGrid (portEntries d)
  | .dns _ recordType d => dnsBody recordType d
  | .client d => renderResultGrid (clientEntries d)

def Result.bodyNodes : Result → List Node
  | .http _ d => gridNodes (httpEntries d)
  | .port _ _ d => gridNodes (portEntries d)
  | .dns _ recordType d => dnsNodes recordType d
  | .client d => gridNodes (clientEntries d)

/-- The card of `showResultError(container, envelope)`. -/
def errorCard (error : Option (Str × Str)) (info : Option Meta) : Card :=
  let code := (error.map Prod.fst).getD (str "UNKNOWN_ERROR")
  { statusClass :=
      if code = str "VALIDATION_ERROR" ∨ code = str "TARGET_NOT_ALLOWED" then .warn else .error
    badgeText := code
    headline := (error.map Prod.snd).getD (str "알 수 없는 오류가 발생했습니다.")
    metaText := (info.map fun info => str "요청 ID " ++ info.request_id).getD [] }

/-- The four tools of the page. -/
inductive Tool where
  | http
  | port
  | dns
  | client
  deriving DecidableEq, Repr

def initialText : Tool → String
  | .http | .port => " 진단을 실행하면 결과가 여기에 표시됩니다."
  | .dns => " 조회를 실행하면 결과가 여기에 표시됩니다."
  | .client => " 접속 정보를 불러오는 중입니다…"

def busyText : Tool → String
  | .http | .port => "진단 중입니다…"
  | .dns => "조회 중입니다…"
  | .client => "접속 정보를 불러오는 중입니다…"

/-- The result area of `index.html`. -/
def initialHtml (tool : Tool) : Str :=
  str "<p class=\"result-placeholder\"><span>○</span>" ++ (str (initialText tool) ++ str "</p>")

def initialNodes (tool : Tool) : List Node :=
  [element "p" [("class", str "result-placeholder")]
    [element "span" [] [space "○"], space (initialText tool)]]

/-- The result area while a request is under way. -/
def busyHtml (tool : Tool) : Str :=
  str "<p class=\"result-placeholder\">" ++ (str (busyText tool) ++ str "</p>")

def busyNodes (tool : Tool) : List Node :=
  [element "p" [("class", str "result-placeholder")] [space (busyText tool)]]

theorem shows_initial (tool : Tool) : Shows (initialHtml tool) (initialNodes tool) := by
  cases tool <;> decide +kernel

theorem shows_busy (tool : Tool) : Shows (busyHtml tool) (busyNodes tool) := by
  cases tool <;> decide +kernel

/-- What the result area of a tool holds. -/
inductive Content where
  | initial
  | busy
  | failed (error : Option (Str × Str)) (info : Option Meta)
  | result (r : Result) (info : Meta)
  deriving DecidableEq, Repr

section Contents

variable (localTime : Str → Str)

def Result.card (r : Result) (info : Meta) : Card where
  statusClass := r.statusClass
  badgeText := match r with
    | .http _ _ => orText r.badge (str "-")
    | _ => r.badge
  headline := r.headline
  metaText := str "요청 ID " ++ (info.request_id ++ (str " · " ++ localTime info.timestamp))

/-- `resultArea.innerHTML` -/
def Content.html (tool : Tool) : Content → Str
  | .initial => initialHtml tool
  | .busy => busyHtml tool
  | .failed error info => renderResultCard (errorCard error info) []
  | .result r info => renderResultCard (r.card localTime info) r.bodyHtml

def Content.nodes (tool : Tool) : Content → List Node
  | .initial => initialNodes tool
  | .busy => busyNodes tool
  | .failed error info => cardNodes (errorCard error info) []
  | .result r info => cardNodes (r.card localTime info) r.bodyNodes

variable {localTime}

theorem shows_body (r : Result) : Shows r.bodyHtml r.bodyNodes := by
  cases r with
  | http url d => exact shows_grid _
  | port host number d => exact shows_grid _
  | dns domain recordType d => exact shows_dns recordType d
  | client d => exact shows_grid _

/-- **A result area is read as its nodes**, whatever the data of the result or of the failure. -/
theorem shows_content (tool : Tool) (content : Content) :
    Shows (content.html localTime tool) (content.nodes localTime tool) := by
  cases content with
  | initial => exact shows_initial tool
  | busy => exact shows_busy tool
  | failed error info => exact shows_card _ reads_nil
  | result r info => exact shows_card _ (shows_body r)

end Contents

-- ── Tags ──────────────────────────────────────────────────────────────────────────

section Tags

variable {name : List Char} {attrs : List (List Char × List Char)} {children ns ns' : List Node}

/-- The tags of the templates. -/
def templateTags : List Str :=
  ["div", "span", "p", "dl", "dt", "dd", "table", "thead", "tbody", "tr", "th", "td", "li"].map str

/-- The attributes of the templates besides `class`. -/
def templateStyles : List (Str × Str) :=
  [(str "style", str "margin-bottom:8px"),
    (str "style", str "margin-left:auto;color:var(--text-dim)")]

/-- A token that is a character, or a tag as a template has it. -/
def Harmless : Token → Prop
  | .char _ => True
  | .startTag name attrs =>
      name ∈ templateTags ∧ ∀ a ∈ attrs, a.1 = str "class" ∨ a ∈ templateStyles
  | .endTag name => name ∈ templateTags

def HarmlessNode (n : Node) : Prop := ∀ t ∈ n.tokens, Harmless t

def AllHarmless (ns : List Node) : Prop := ∀ t ∈ tokensOf ns, Harmless t

@[simp] theorem allHarmless_nil : AllHarmless [] := fun t ht => by cases ht

@[simp] theorem allHarmless_cons {n : Node} :
    AllHarmless (n :: ns) ↔ HarmlessNode n ∧ AllHarmless ns := by
  rw [AllHarmless, tokensOf, List.forall_mem_append, AllHarmless, HarmlessNode]

@[simp] theorem harmless_text {s : List Char} : HarmlessNode (.text s) := by
  intro t ht
  obtain ⟨c, _, rfl⟩ := List.mem_map.mp ht
  trivial

@[simp] theorem harmless_element : HarmlessNode (.element name attrs children) ↔
    (name ∈ templateTags ∧ ∀ a ∈ attrs, a.1 = str "class" ∨ a ∈ templateStyles) ∧
      AllHarmless children := by
  rw [HarmlessNode, Node.tokens, List.forall_mem_cons, List.forall_mem_append,
    List.forall_mem_singleton]
  exact ⟨fun h => ⟨h.1, h.2.1⟩, fun h => ⟨h.1, h.2, h.1.1⟩⟩

@[simp] theorem allHarmless_append : AllHarmless (ns ++ ns') ↔ AllHarmless ns ∧
    AllHarmless ns' := by
  rw [AllHarmless, tokensOf_append, List.forall_mem_append, AllHarmless, AllHarmless]

theorem allHarmless_flatMap {α : Type} {f : α → List Node}
    (h : ∀ x, AllHarmless (f x)) (xs : List α) :
    AllHarmless (xs.flatMap f) := by
  induction xs with
  | nil => exact allHarmless_nil
  | cons x xs ih =>
      rw [List.flatMap_cons]
      exact allHarmless_append.mpr ⟨h x, ih⟩

theorem harmless_grid (entries : List (Str × JsValue)) : AllHarmless (gridNodes entries) := by
  have hitems : AllHarmless ((entries.filter (!·.2.blank)).flatMap itemNodes) :=
    allHarmless_flatMap (fun entry => by simp [itemNodes, element, space, shown, templateTags]) _
  simp [gridNodes, element, templateTags, hitems]

theorem harmless_card (card : Card) {body : List Node} (hbody : AllHarmless body) :
    AllHarmless (cardNodes card body) := by
  have hmeta : AllHarmless (metaNodes card.metaText) := by
    rw [metaNodes]
    split
    next => exact allHarmless_nil
    next => simp [element, shown, templateTags]
  simp [cardNodes, element, space, shown, templateTags, hmeta, hbody]

theorem harmless_dns (recordType : Str) (d : DnsLookupData) :
    AllHarmless (dnsNodes recordType d) := by
  have hrows : AllHarmless (if d.records = [] then
      [element "tr" [] [element "td" [] [space "해당 유형의 레코드가 없습니다."]]]
      else d.records.flatMap rowNodes) := by
    split
    next => simp [element, space, templateTags]
    next =>
      exact allHarmless_flatMap (fun record => by simp [rowNodes, element, shown, templateTags]) _
  rw [dnsNodes]
  generalize (if d.records = [] then _ else d.records.flatMap rowNodes) = rows at hrows ⊢
  simp [gridItem, element, space, shown, templateTags, templateStyles, hrows]

theorem harmless_body (r : Result) : AllHarmless r.bodyNodes := by
  cases r with
  | http url d => exact harmless_grid _
  | port host number d => exact harmless_grid _
  | dns domain recordType d => exact harmless_dns recordType d
  | client d => exact harmless_grid _

/-- **A result area has the tags of its templates**, and no others. -/
theorem harmless_content (localTime : Str → Str) (tool : Tool) (content : Content) :
    AllHarmless (content.nodes localTime tool) := by
  cases content with
  | initial => simp [Content.nodes, initialNodes, element, space, templateTags]
  | busy => simp [Content.nodes, busyNodes, element, space, templateTags]
  | failed error info => exact harmless_card _ allHarmless_nil
  | result r info => exact harmless_card _ (harmless_body r)

theorem harmless_history (localTime : Str → Str) (history : List HistoryItem) :
    AllHarmless (historyNodes localTime history) := by
  rw [historyNodes]
  split
  next => simp [element, space, templateTags]
  next =>
    refine allHarmless_flatMap (fun item => ?_) _
    simp [historyNode, element, space, shown, templateTags, templateStyles]

end Tags

end NetProbePageView
