import SuplLpp.Format.At

/-!
# Requests to a modem

`Modem` sends a command and leaves a callback, which the input calls when it has found the echo of
the command among the lines.

* `handleQuery` and the four queries, `handleEcho` and the two settings of the echo;
* `Modem`, `Modem.respond`: the input callback, with its loop;
* `respond_stuck`: where the loop has no end;
* `Exchange`: what the modem sends for a request;
* `respond_spec`: where the loop ends, and what it completes.

What the library makes of a number or a format (`std::stoull`, `sscanf`) is a parameter.
-/

namespace SuplLpp.At

open Lines Format.At
open Helper (parserBufferSize Repr)

def ascii (s : String) : Line := s.toList.map fun c => c.toNat.toUInt8

inductive ResponseResult
  | success
  | failure
  | missingLines
  deriving DecidableEq

/-! ### The callbacks -/

/-- The common body of the queries: of four lines the second is what `interpret` is for. -/
def handleQuery {ρ : Type*} (interpret : Line → ρ → ResponseResult × ρ) (parser : Parser)
    (record : ρ) : Parser × ResponseResult × ρ :=
  if parser.count ≠ 4 then (parser, .missingLines, record)
  else
    let (_, parser) := parser.skipLine
    let (line, parser) := parser.skipLine
    let (_, parser) := parser.skipLine
    let (ok, parser) := parser.skipLine
    if ok ≠ ascii "OK" then (parser, .failure, record)
    else (parser, interpret line record)

/-- `handle_cimi_query`; the record is the IMSI. -/
def handleCimiQuery (stoull : Line → Option UInt64) :
    Parser → UInt64 → Parser × ResponseResult × UInt64 :=
  handleQuery fun line imsi =>
    if line = [] then (.failure, imsi)
    else
      match stoull line with
      | some imsi => (.success, imsi)
      | none => (.failure, imsi)

structure SupportedCregModes where
  mode0 : Bool := false
  mode1 : Bool := false
  mode2 : Bool := false
  mode3 : Bool := false

/-- `handle_creg_test`. -/
def handleCregTest : Parser → SupportedCregModes → Parser × ResponseResult × SupportedCregModes :=
  handleQuery fun data _ =>
    (.success,
      if ascii "+CREG: (0)" <:+: data then { mode0 := true }
      else if ascii "+CREG: (0-1)" <:+: data then { mode0 := true, mode1 := true }
      else if ascii "+CREG: (0-2)" <:+: data then { mode0 := true, mode1 := true, mode2 := true }
      else {})

structure Creg where
  mode : Int32
  status : Int32
  lac : UInt32
  ci : UInt32
  act : Int32

/-- `handle_creg_query`; `sscanf` gives the number of fields that it has assigned. -/
def handleCregQuery (sscanf : Line → Creg → ℕ × Creg) :
    Parser → Creg → Parser × ResponseResult × Creg :=
  handleQuery fun line reg =>
    if line = [] then (.failure, reg)
    else
      let (fields, reg) := sscanf line reg
      if fields ≠ 5 then (.failure, reg) else (.success, reg)

structure Cops where
  mode : Int32
  format : Int32
  mcc : Int32
  mnc : Int32
  act : Int32

/-- `handle_cops_query`; the line is scanned twice. -/
def handleCopsQuery (sscanf2 sscanf5 : Line → Cops → ℕ × Cops) :
    Parser → Cops → Parser × ResponseResult × Cops :=
  handleQuery fun line cops =>
    if line = [] then (.failure, cops)
    else
      let (fields, cops) := sscanf2 line cops
      if fields ≠ 2 then (.failure, cops)
      else if cops.mode = 0 ∧ cops.format = 2 then
        let (fields, cops) := sscanf5 line cops
        if fields ≠ 5 then (.failure, cops) else (.success, cops)
      else (.failure, cops)

/-- What a callback does to the parser, and its result. -/
abbrev ResponseCallback := Parser → Parser × ResponseResult

/-- The callback of a query, with the record that it fills. -/
def queryCallback {ρ : Type*} (handle : Parser → ρ → Parser × ResponseResult × ρ) (record : ρ) :
    ResponseCallback :=
  fun parser => ((handle parser record).1, (handle parser record).2.1)

/-- The callback of `enable_echo` and `disable_echo`, for their commands. -/
def handleEcho (command : Line) : ResponseCallback := fun parser =>
  if parser.count < 1 then (parser, .missingLines)
  else if parser.peekLine = command ∧ parser.count < 2 then (parser, .missingLines)
  else
    let parser := if parser.peekLine = command then parser.skipLine.2 else parser
    let (ok, parser) := parser.skipLine
    (parser, if ok = ascii "OK" then .success else .failure)

structure ResponseState where
  request : Line
  callback : ResponseCallback

/-! ### The requests -/

/-- `enable_echo`. -/
def enableEcho : ResponseState := ⟨ascii "ATE1", handleEcho (ascii "ATE1")⟩

/-- `disable_echo`. -/
def disableEcho : ResponseState := ⟨ascii "ATE0", handleEcho (ascii "ATE0")⟩

/-- `get_cimi`. -/
def getCimi (stoull : Line → Option UInt64) (cimi : UInt64) : ResponseState :=
  ⟨ascii "AT+CIMI", queryCallback (handleCimiQuery stoull) cimi⟩

/-- `list_creg`. -/
def listCreg (modes : SupportedCregModes) : ResponseState :=
  ⟨ascii "AT+CREG=?", queryCallback handleCregTest modes⟩

/-- `get_creg`. -/
def getCreg (sscanf : Line → Creg → ℕ × Creg) (reg : Creg) : ResponseState :=
  ⟨ascii "AT+CREG?", queryCallback (handleCregQuery sscanf) reg⟩

/-- `get_cops`. -/
def getCops (sscanf2 sscanf5 : Line → Cops → ℕ × Cops) (cops : Cops) : ResponseState :=
  ⟨ascii "AT+COPS?", queryCallback (handleCopsQuery sscanf2 sscanf5) cops⟩

/-! ### The input callback -/

/-- `Modem`, with the responses that are complete: the command, and the lines that its callback has
taken. -/
structure Modem where
  mParser : Parser
  mCallbacks : List ResponseState
  log : List (Line × List Line)

namespace Modem

/-- The constructor; `memory` is what the buffer of the parser holds. -/
def new (memory : ℕ → UInt8) : Modem := ⟨⟨.new memory parserBufferSize, []⟩, [], []⟩

/-- Is the line not the echo of the request? -/
def isUnsolicited (state : ResponseState) (line : Line) : Bool :=
  !(line.length == state.request.length + 1 && line.getLast? == some 0x0D &&
    line.take state.request.length == state.request)

/-- The loop of the input callback, of at most `fuel` rounds. -/
def respond : ℕ → Modem → Option Modem
  | 0, _ => none
  | fuel + 1, m =>
    match m.mCallbacks with
    | [] => some m
    | state :: callbacks =>
      if !m.mParser.hasLines then some m
      else if isUnsolicited state m.mParser.peekLine then
        respond fuel { m with mParser := m.mParser.skipLine.2 }
      else
        let (parser, result) := state.callback m.mParser
        if result ≠ .missingLines then
          respond fuel { m with
            mParser := parser
            mCallbacks := callbacks
            log := m.log ++
              [(state.request, m.mParser.mLines.take (m.mParser.count - parser.count))] }
        else respond fuel { m with mParser := parser }

/-- The input callback. -/
def read (fuel : ℕ) (m : Modem) (buffer : List UInt8) : Option Modem :=
  respond fuel { m with mParser := (m.mParser.append buffer).process }

/-- `request`; the command is written to the output. -/
def request (m : Modem) (state : ResponseState) : Modem :=
  { m with mCallbacks := m.mCallbacks ++ [state] }

end Modem

/-! ### The echo and the queries -/

/-- The line that the modem sends back for a request. -/
def ResponseState.echo (state : ResponseState) : Line := state.request ++ [0x0D]

theorem isUnsolicited_eq_false_iff (state : ResponseState) (line : Line) :
    Modem.isUnsolicited state line = false ↔ line = state.echo := by
  rw [Modem.isUnsolicited, Bool.not_eq_false', Bool.and_eq_true, Bool.and_eq_true, beq_iff_eq,
    beq_iff_eq, beq_iff_eq, ResponseState.echo]
  constructor
  · rintro ⟨⟨hlength, hlast⟩, htake⟩
    obtain ⟨front, rfl⟩ := List.getLast?_eq_some_iff.1 hlast
    have hfront : front.length = state.request.length := by
      rw [List.length_append, List.length_singleton] at hlength
      omega
    rw [← hfront, List.take_left] at htake
    rw [htake]
  · rintro rfl
    exact ⟨⟨List.length_append, by simp⟩, List.take_left⟩

/-- A callback that waits until there are four lines, and takes them. -/
def IsQuery (callback : ResponseCallback) : Prop :=
  ∀ parser : Parser, (parser.count ≠ 4 → callback parser = (parser, .missingLines)) ∧
    (parser.count = 4 → ∃ result ≠ ResponseResult.missingLines,
      callback parser = ({ parser with mLines := [] }, result))

theorem isQuery_handleQuery {ρ : Type*} {interpret : Line → ρ → ResponseResult × ρ}
    (h : ∀ line record, (interpret line record).1 ≠ .missingLines) (record : ρ) :
    IsQuery (queryCallback (handleQuery interpret) record) := by
  intro parser
  refine ⟨fun hcount => ?_, fun hcount => ?_⟩
  · rw [queryCallback, handleQuery, if_pos hcount]
  · obtain ⟨helper, lines⟩ := parser
    obtain ⟨a, b, c, d, rfl⟩ := List.length_eq_four.1 hcount
    by_cases hok : d = ascii "OK"
    · exact ⟨_, h b record,
        by simp [queryCallback, handleQuery, Parser.count, Parser.skipLine, hok]⟩
    · exact ⟨.failure, by decide,
        by simp [queryCallback, handleQuery, Parser.count, Parser.skipLine, hok]⟩

theorem isQuery_getCimi (stoull : Line → Option UInt64) (cimi : UInt64) :
    IsQuery (getCimi stoull cimi).callback := by
  refine isQuery_handleQuery (fun line imsi => ?_) cimi
  split
  · simp
  · split <;> simp

theorem isQuery_listCreg (modes : SupportedCregModes) : IsQuery (listCreg modes).callback :=
  isQuery_handleQuery (fun _ _ => by simp) modes

theorem isQuery_getCreg (sscanf : Line → Creg → ℕ × Creg) (reg : Creg) :
    IsQuery (getCreg sscanf reg).callback := by
  refine isQuery_handleQuery (fun line reg => ?_) reg
  split
  · simp
  · dsimp only
    split <;> simp

theorem isQuery_getCops (sscanf2 sscanf5 : Line → Cops → ℕ × Cops) (cops : Cops) :
    IsQuery (getCops sscanf2 sscanf5 cops).callback := by
  refine isQuery_handleQuery (fun line cops => ?_) cops
  split
  · simp
  · dsimp only
    split
    · simp
    · split
      · split <;> simp
      · simp

/-! ### The loop -/

namespace Modem

theorem respond_skip {m : Modem} {state : ResponseState} {callbacks : List ResponseState}
    {line : Line} {lines : List Line} (hcallbacks : m.mCallbacks = state :: callbacks)
    (hlines : m.mParser.mLines = line :: lines) (hne : line ≠ state.echo) (fuel : ℕ) :
    respond (fuel + 1) m =
      respond fuel { m with mParser := { m.mParser with mLines := lines } } := by
  have hunsolicited : isUnsolicited state line = true := by
    rw [← Bool.not_eq_false, isUnsolicited_eq_false_iff]
    exact hne
  rw [respond, hcallbacks]
  simp only [Parser.hasLines, Parser.peekLine, Parser.skipLine, hlines, List.isEmpty_cons,
    List.headD_cons, hunsolicited, if_true]
  rfl

theorem respond_idle {m : Modem} (hlines : m.mParser.mLines = []) (fuel : ℕ) :
    respond (fuel + 1) m = some m := by
  rw [respond]
  split
  · rfl
  · rw [Parser.hasLines, hlines]
    rfl

/-- The echo of a query, and its callback. -/
theorem respond_echo {m : Modem} {state : ResponseState} {callbacks : List ResponseState}
    {lines : List Line} (hcallbacks : m.mCallbacks = state :: callbacks)
    (hlines : m.mParser.mLines = state.echo :: lines) (fuel : ℕ) :
    respond (fuel + 1) m =
      if (state.callback m.mParser).2 ≠ .missingLines then
        respond fuel { m with
          mParser := (state.callback m.mParser).1
          mCallbacks := callbacks
          log := m.log ++ [(state.request,
            m.mParser.mLines.take (m.mParser.count - (state.callback m.mParser).1.count))] }
      else respond fuel { m with mParser := (state.callback m.mParser).1 } := by
  have hecho : isUnsolicited state state.echo = false := (isUnsolicited_eq_false_iff _ _).2 rfl
  obtain ⟨⟨helper, lines'⟩, callbacks', log⟩ := m
  obtain rfl : callbacks' = state :: callbacks := hcallbacks
  obtain rfl : lines' = state.echo :: lines := hlines
  rw [respond]
  simp only [Parser.hasLines, Parser.peekLine, List.isEmpty_cons, List.headD_cons, hecho]
  rfl

/-- **Where the loop does not end**: the echo of a query is in front, and there are not four
lines. -/
theorem respond_stuck {m : Modem} {state : ResponseState} {callbacks : List ResponseState}
    {lines : List Line} (hcallbacks : m.mCallbacks = state :: callbacks)
    (hquery : IsQuery state.callback) (hlines : m.mParser.mLines = state.echo :: lines)
    (hcount : lines.length ≠ 3) (fuel : ℕ) : respond fuel m = none := by
  induction fuel with
  | zero => rfl
  | succ fuel ih =>
    have hfour : m.mParser.count ≠ 4 := by
      rw [Parser.count, hlines, List.length_cons]
      omega
    rw [respond_echo hcallbacks hlines, (hquery m.mParser).1 hfour, if_neg (by simp)]
    exact ih

/-- **Where it does**: the response is taken, and there are no lines left. -/
theorem respond_four {m : Modem} {state : ResponseState} {callbacks : List ResponseState}
    {lines : List Line} (hcallbacks : m.mCallbacks = state :: callbacks)
    (hquery : IsQuery state.callback) (hlines : m.mParser.mLines = state.echo :: lines)
    (hcount : lines.length = 3) (fuel : ℕ) :
    respond (fuel + 2) m = some ⟨{ m.mParser with mLines := [] }, callbacks,
      m.log ++ [(state.request, state.echo :: lines)]⟩ := by
  have hfour : m.mParser.count = 4 := by
    rw [Parser.count, hlines, List.length_cons, hcount]
  obtain ⟨result, hresult, hcall⟩ := (hquery m.mParser).2 hfour
  have htake : m.mParser.mLines.take (m.mParser.count - 0) = state.echo :: lines := by
    rw [Nat.sub_zero, Parser.count, List.take_length, hlines]
  rw [respond_echo hcallbacks hlines, hcall, if_pos hresult, respond_idle rfl, ← htake]
  rfl

end Modem

/-! ### What the modem sends -/

/-- The lines for a request: any lines, its echo, and its response. -/
structure Exchange where
  state : ResponseState
  unsolicited : List Line
  response : List Line

namespace Exchange

def lines (e : Exchange) : List Line := e.unsolicited ++ e.state.echo :: e.response

/-- What the callback of the request is to be given. -/
def answer (e : Exchange) : Line × List Line := (e.state.request, e.state.echo :: e.response)

/-- The lines are lines, and those in front of the echo are not the echo. -/
structure WellFormed (e : Exchange) : Prop where
  isLine : ∀ l ∈ e.lines, IsLine 0x0D 0x0A l
  unsolicited : e.state.echo ∉ e.unsolicited

/-- The request is a query with a response of three lines. -/
structure Handled (e : Exchange) : Prop where
  query : IsQuery e.state.callback
  three : e.response.length = 3

end Exchange

/-- All the lines. -/
def text (es : List Exchange) : List Line := es.flatMap Exchange.lines

/-- All the bytes. -/
def stream (es : List Exchange) : List UInt8 := (text es).flatMap (encode 0x0D 0x0A)

/-- The lines that are ahead when some of those in front of the next echo have been skipped. -/
def Ahead (es : List Exchange) (ahead : List Line) : Prop :=
  ∃ skipped, skipped ++ ahead = text es ∧ ∀ e ∈ es.head?, skipped <+: e.unsolicited

/-- Whenever the echo of the oldest request is there, exactly three lines are behind it. -/
def Answerable (callbacks : List ResponseState) (lines : List Line) : Prop :=
  ∀ state ∈ callbacks.head?, ∀ front back, lines = front ++ state.echo :: back →
    state.echo ∉ front → back.length = 3

namespace Modem

/-- **The loop ends**, and what it completes is the next responses. -/
theorem respond_spec {fuel : ℕ} {m : Modem} {es : List Exchange} {ahead : List Line}
    (hes : ∀ e ∈ es, e.WellFormed ∧ e.Handled) (hcallbacks : m.mCallbacks <+: es.map (·.state))
    (hahead : Ahead es ahead) (hlines : m.mParser.mLines <+: ahead)
    (hanswerable : Answerable m.mCallbacks m.mParser.mLines)
    (hfuel : m.mParser.mLines.length < fuel) :
    ∃ done rest taken lines ahead', es = done ++ rest ∧ ahead = taken ++ ahead' ∧
      m.mParser.mLines = taken ++ lines ∧ Ahead rest ahead' ∧
      respond fuel m = some ⟨⟨m.mParser.helper, lines⟩, m.mCallbacks.drop done.length,
        m.log ++ done.map Exchange.answer⟩ ∧ done.length ≤ m.mCallbacks.length ∧
      (m.mCallbacks.drop done.length = [] ∨ lines = []) := by
  induction fuel generalizing m ahead with
  | zero => omega
  | succ fuel ih =>
    cases hlines' : m.mParser.mLines with
    | nil =>
      refine ⟨[], es, [], [], ahead, rfl, rfl, rfl, hahead, ?_, Nat.zero_le _, .inr rfl⟩
      rw [respond_idle hlines', ← hlines', List.map_nil, List.append_nil]
      rfl
    | cons line lines =>
      cases hcallbacks' : m.mCallbacks with
      | nil =>
        refine ⟨[], es, [], line :: lines, ahead, rfl, rfl, rfl, hahead, ?_, Nat.zero_le _,
          .inl rfl⟩
        rw [respond, hcallbacks', ← hlines', List.map_nil, List.append_nil]
        simp only [List.length_nil, List.drop_zero]
        rw [← hcallbacks']
      | cons state callbacks =>
        rw [hcallbacks'] at hcallbacks hanswerable
        rw [hlines'] at hlines hanswerable hfuel
        obtain ⟨e, es, rfl⟩ : ∃ e es', es = e :: es' := by
          cases es with
          | nil => exact absurd (List.prefix_nil.1 hcallbacks) (by simp)
          | cons e es => exact ⟨e, es, rfl⟩
        obtain ⟨hstate, hnext⟩ := List.cons_prefix_cons.1 hcallbacks
        obtain rfl : state = e.state := hstate
        obtain ⟨skipped, htext, hskipped⟩ := hahead
        obtain ⟨unsolicited, hunsolicited⟩ := hskipped e rfl
        obtain ⟨hwell, hhandled⟩ := hes e List.mem_cons_self
        have hrest : ahead = unsolicited ++ (e.state.echo :: e.response ++ text es) := by
          rw [text, List.flatMap_cons, Exchange.lines, ← hunsolicited, List.append_assoc,
            List.append_assoc] at htext
          exact List.append_cancel_left htext
        cases unsolicited with
        | cons x unsolicited =>
          rw [List.cons_append] at hrest
          rw [hrest] at hlines
          obtain ⟨rfl, hrest'⟩ := List.cons_prefix_cons.1 hlines
          have hne : line ≠ e.state.echo := by
            rintro rfl
            refine hwell.unsolicited ?_
            rw [← hunsolicited]
            exact List.mem_append_right _ List.mem_cons_self
          have hanswerable' : Answerable (e.state :: callbacks) lines := by
            intro state' hstate' front back hfront hnot
            obtain rfl := Option.some.inj hstate'
            refine hanswerable e.state rfl (line :: front) back (by rw [hfront]; rfl) fun hmem => ?_
            rcases List.mem_cons.1 hmem with heq | hmem
            · exact hne heq.symm
            · exact hnot hmem
          have hahead' :
              Ahead (e :: es) (unsolicited ++ (e.state.echo :: e.response ++ text es)) := by
            refine ⟨skipped ++ [line], by rw [← htext, hrest, List.append_assoc]; rfl, ?_⟩
            intro e' he'
            obtain rfl := Option.some.inj he'
            exact ⟨unsolicited, by rw [← hunsolicited, List.append_assoc]; rfl⟩
          obtain ⟨done, rest, taken, lines', ahead', hdone, htaken, hlines'', hahead', hrespond,
            hlength, hend⟩ := ih (m := { m with mParser := { m.mParser with mLines := lines } })
              (by rw [hcallbacks']; exact hcallbacks) hahead' hrest'
              (by rw [hcallbacks']; exact hanswerable')
              (by rw [List.length_cons] at hfuel; exact Nat.lt_of_succ_lt_succ hfuel)
          refine ⟨done, rest, line :: taken, lines', ahead', hdone, ?_, ?_, hahead', ?_, ?_, ?_⟩
          · rw [hrest, htaken]
            rfl
          · exact congrArg (line :: ·) hlines''
          · rw [respond_skip hcallbacks' hlines' hne, hrespond, ← hcallbacks']
          · rwa [← hcallbacks']
          · rwa [← hcallbacks']
        | nil =>
          rw [List.nil_append, List.cons_append] at hrest
          rw [hrest] at hlines
          obtain ⟨rfl, hrest'⟩ := List.cons_prefix_cons.1 hlines
          have hthree : lines.length = 3 :=
            hanswerable e.state rfl [] lines rfl List.not_mem_nil
          have hresponse : lines = e.response :=
            (List.prefix_of_prefix_length_le hrest' (List.prefix_append _ _)
              (by rw [hthree, hhandled.three])).eq_of_length (by rw [hthree, hhandled.three])
          rw [List.length_cons, hthree] at hfuel
          obtain ⟨fuel, rfl⟩ := Nat.exists_eq_add_of_le' (show 1 ≤ fuel by omega)
          have hfour := respond_four hcallbacks' hhandled.query hlines' hthree fuel
          refine ⟨[e], es, e.state.echo :: lines, [], text es, rfl, ?_, (List.append_nil _).symm,
            ⟨[], rfl, fun _ _ => List.nil_prefix⟩, ?_, Nat.succ_le_succ (Nat.zero_le _), .inr rfl⟩
          · rw [hrest, hresponse]
            rfl
          · rw [hfour, hresponse]
            rfl

end Modem

end SuplLpp.At
