import SuplLpp.Lpp.Delivery
import SuplLpp.Lpp.Ended

/-!
# When location reports stop

* `isEnded`, `reports`, `requests`: what a history tells of a transaction;
* `StopsAsRequested`: the reports on a transaction and the timer of its delivery stop as the
  request says;
* `Meets`: what a step must find.  The delivery does not count its reports, so it must not come to
  send them too often before the transaction is ended;
* `Account`, `Kept`: what is kept of one transaction, and of the client;
* `reports_stop`: in a run whose steps meet the condition, reports stop as requested on every
  transaction.
-/

namespace SuplLpp.Lpp

/-! ### What a history tells of a transaction -/

section History

variable {ω : Type*}

/-- A side ends the transaction. -/
def Sight.ends (h : TransactionHandle) : Sight ω → Bool
  | .lpp e => e.ends h
  | _ => false

/-- A side has ended the transaction. -/
def isEnded (out : List (Sight ω)) (h : TransactionHandle) : Bool := out.any (Sight.ends h)

/-- A report on the transaction goes to the SUPL session, or to the queue for it. -/
def Sight.report (h : TransactionHandle) : Sight ω → Option (Message (Body ω))
  | .lpp (.posSent k m) | .lpp (.posQueued k m) =>
    if k = h ∧ isReport m = true then some m else none
  | _ => none

def reports (out : List (Sight ω)) (h : TransactionHandle) : List (Message (Body ω)) :=
  out.filterMap (Sight.report h)

def Sight.request (h : TransactionHandle) : Sight ω → Option DeliveryDescription
  | .started k description => if k = h then some description else none
  | _ => none

def Sight.asks (h : TransactionHandle) : Sight ω → Bool
  | .asked k => k = h
  | _ => false

/-- How often a report was to be sent on the transaction. -/
def asked (out : List (Sight ω)) (h : TransactionHandle) : ℕ := out.countP (Sight.asks h)

/-- The deliveries that were started on the transaction, each with what came after. -/
def requests (out : List (Sight ω)) (h : TransactionHandle) :
    List (DeliveryDescription × List (Sight ω)) :=
  Since.since (Sight.request h) out

variable {out es : List (Sight ω)} {h : TransactionHandle}

theorem isEnded_append : isEnded (out ++ es) h = (isEnded out h || isEnded es h) :=
  List.any_append

theorem isEnded_lpp (es : List (Event (Body ω))) :
    isEnded (es.map .lpp) h = es.any (Event.ends h) := by
  simp [isEnded, List.any_map, Function.comp_def, Sight.ends]

theorem asked_append : asked (out ++ es) h = asked out h + asked es h := List.countP_append

theorem reports_append : reports (out ++ es) h = reports out h ++ reports es h :=
  List.filterMap_append

/-- Nothing in the history starts a delivery. -/
theorem requests_lpp (es : List (Event (Body ω))) : requests (es.map .lpp) h = [] :=
  Since.since_eq_nil (by simp [Sight.request])

/-- Of the call that is to send a report itself nothing else is seen. -/
theorem isEnded_asked (hes : ∀ o ∈ es, ∃ k, o = .asked k) : isEnded es h = false :=
  List.any_eq_false.2 fun o ho => by
    obtain ⟨k, rfl⟩ := hes o ho
    exact Bool.false_ne_true

theorem reports_asked (hes : ∀ o ∈ es, ∃ k, o = .asked k) : reports es h = [] :=
  List.filterMap_eq_nil_iff.2 fun o ho => by
    obtain ⟨k, rfl⟩ := hes o ho
    rfl

theorem requests_asked (hes : ∀ o ∈ es, ∃ k, o = .asked k) : requests es h = [] :=
  Since.since_eq_nil fun o ho => by
    obtain ⟨k, rfl⟩ := hes o ho
    rfl

end History

section Property

variable {σ ω : Type*} (supl : Supl σ) (codec : Codec (Body ω))

/-- The timer runs, and when it ticks a report is handed over that passes. -/
def Continues (c : LocationClient σ) (h : TransactionHandle) : Prop :=
  c.timer h = true ∧ ∃ transaction, c.session.1.findTransaction h = some transaction ∧
    ∀ asked answer : Answer, asked.handled = false →
      c.session.1.passes supl codec h transaction (reportMessage answer.report) = true →
      Room c.session.1 →
      reports (Mealy.run (LocationClient.step supl codec) c
        [.tick h, .answer asked, .answer answer]).2 h =
        [c.session.1.withHeader h transaction (reportMessage answer.report)]

/-- **Reports on a transaction stop as requested.**  At most as many reports are sent as the
request asks for, and the last of these carries the end; a transaction that was ended sees no
report any more; and when no call is under way, there is no timer for a transaction that was ended
or has had its reports.  If their number is not limited, they continue until the transaction is
ended or the client is cancelled. -/
structure StopsAsRequested (c : LocationClient σ) (out : List (Sight ω)) (h : TransactionHandle) :
    Prop where
  amount : ∀ r ∈ requests out h, ∀ n, r.1.amount = some n →
    (reports r.2 h).length ≤ n ∧ ∀ m, (reports r.2 h)[n - 1]? = some m → m.endTransaction = true
  silent : ∀ a b, out = a ++ b → requests a h ≠ [] → isEnded a h = true → reports b h = []
  stopped : c.idle = true → ∀ r ∈ requests out h,
    (isEnded out h = true ∨ ∃ n, r.1.amount = some n ∧ 0 < n ∧ (reports r.2 h).length = n) →
      c.timer h = false
  continues : c.idle = true → ∀ r ∈ requests out h, r.1.amount = none → .cancelled ∉ r.2 →
    isEnded out h = false → Continues supl codec c h

/-! ### What a step must find -/

/-- The call at the session that a step makes. -/
def LocationClient.sessionOp (c : LocationClient σ) :
    LocationOp σ ω → Option (Endpoint.Op σ (Body ω))
  | .session op => if LocationClient.waits op && !c.pieces.isEmpty then none else some op
  | .answer answer =>
    match c.pieces with
    | .provide delivery :: _ =>
      some (.send delivery.mTransaction (reportMessage answer.report))
    | _ => none
  | _ => none

/-- `send_with_end` hands over a report on `h`. -/
def HandsOverWithEnd (s : Endpoint σ) (h k : TransactionHandle) (m : Message (Body ω)) : Prop :=
  k = h ∧ isReport m = true ∧ Room s ∧ ∃ d, s.findTransaction k = some d ∧
    (s.asking k d).refuses k m = false ∧
    (s.asking k d).passes supl codec k { d with clientShouldSendEnd := true } m = true

/-- The call hands over a report on `h`; `last`: it carries the end. -/
def HandsOverReport (s : Endpoint σ) (h : TransactionHandle) (last : Bool) :
    Endpoint.Op σ (Body ω) → Prop
  | .send k m =>
    k = h ∧ isReport m = true ∧ Room s ∧ ∃ d, s.findTransaction k = some d ∧
      s.refuses k m = false ∧ s.passes supl codec k d m = true ∧ last = d.clientShouldSendEnd
  | .sendWithEnd k m => HandsOverWithEnd supl codec s h k m ∧ last = true
  | .abort k => HandsOverWithEnd supl codec s h k (Endpoint.createAbort codec) ∧ last = true
  | _ => False

/-- The transaction on which a step starts a delivery. -/
def LocationClient.starts (c : LocationClient σ) : LocationOp σ ω → Option TransactionHandle
  | .startPeriodicLocationInformation transaction _ _ => some transaction
  | .answer answer =>
    match c.pieces with
    | .requested transaction inner :: _ =>
      if answer.handled then none else inner.description.map fun _ => transaction
    | _ => none
  | _ => none

/-- The condition on a step.
* A call is to send a report only while fewer than the amount have come since the request with it,
  or as many and it would carry the end; and not while the payload with the server's end of the
  transaction is being delivered.
* The server ends a transaction on which reports were requested only if its end alone is enough.
* No delivery starts on a transaction for both ends that the server has ended.
* A delivery comes into the map while its transaction is there, and with its timer scheduled if the
  reports are not limited. -/
structure Meets (c : LocationClient σ) (out : List (Sight ω)) (op : LocationOp σ ω) : Prop where
  report : ∀ call, c.sessionOp op = some call → ∀ h last,
    reportCall codec c.session.1 call = some (h, last) → ∀ r ∈ requests out h,
      arrived c.session.2 h = false ∧ ∀ n, r.1.amount = some n →
        asked r.2 h + 1 < n ∨ asked r.2 h + 1 = n ∧ last = true
  receive : ∀ m, c.sessionOp op = some (.receive m) → c.session.2 = none →
    ∀ h, requests out h ≠ [] → ∀ d, c.session.1.findTransaction h = some d →
      (c.session.1.receive m).2.1.any (Event.ends h) = true → d.singleSideEndable = true
  start : ∀ h, c.starts op = some h → ∀ d, c.session.1.findTransaction h = some d →
    d.singleSideEndable = true ∨ d.serverHasSentEnd = false ∧ arrived c.session.2 h = false
  insert : ∀ answer delivery pieces, op = .answer answer →
    c.pieces = .insert delivery :: pieces →
    (∃ d, c.session.1.findTransaction delivery.mTransaction = some d) ∧
      ((∃ r ∈ requests out delivery.mTransaction, r.1.amount = none) →
        delivery.mPeriodicTask = true)

end Property

/-! ### The account of a transaction -/

section Account

variable {ω : Type*} {out es : List (Sight ω)} {h : TransactionHandle}

/-- Reports are left, or all were sent and the last of them ended the transaction. -/
def Within (closed : Bool) (sent : List (Message (Body ω))) (n : ℕ) : Prop :=
  sent.length < n ∨ sent.length = n ∧ (0 < n → closed = true ∧
    ∀ m, sent[n - 1]? = some m → m.endTransaction = true)

/-- A report is due: the transaction was not ended, and at least two reports are left, or this is
the last one and carries the end. -/
def Due (out : List (Sight ω)) (h : TransactionHandle) (last : Bool) : Prop :=
  ∀ r ∈ requests out h, isEnded out h = false ∧ ∀ n, r.1.amount = some n →
    (reports r.2 h).length + 1 < n ∨ (reports r.2 h).length + 1 = n ∧ last = true

/-- What is kept of the reports on a transaction. -/
structure Account (out : List (Sight ω)) (h : TransactionHandle) : Prop where
  amount : ∀ r ∈ requests out h, ∀ n, r.1.amount = some n →
    Within (isEnded out h) (reports r.2 h) n
  silent : ∀ a b, out = a ++ b → requests a h ≠ [] → isEnded a h = true → reports b h = []
  counts : ∀ r ∈ requests out h, (reports r.2 h).length ≤ asked r.2 h

theorem account_nil : Account ([] : List (Sight ω)) h where
  amount r hr := by simp [requests] at hr
  silent a b hab hreq := by
    obtain ⟨rfl, -⟩ := List.nil_eq_append_iff.1 hab
    simp [requests] at hreq
  counts r hr := by simp [requests] at hr

theorem Within.mono {closed closed' : Bool} {sent : List (Message (Body ω))} {n : ℕ}
    (hw : Within closed sent n) (hclosed : closed = true → closed' = true) :
    Within closed' sent n :=
  hw.imp_right fun hall => ⟨hall.1, fun hn => ⟨hclosed (hall.2 hn).1, (hall.2 hn).2⟩⟩

theorem requests_append : requests (out ++ es) h =
    (requests out h).map (fun r => (r.1, r.2 ++ es)) ++ requests es h :=
  Since.since_append _ _ _

/-- Nothing that is reported comes after no report. -/
theorem reports_eq_nil_of_append {a b : List (Sight ω)} (hab : reports (a ++ b) h = []) :
    reports b h = [] := by
  rw [reports_append, List.append_eq_nil_iff] at hab
  exact hab.2

/-- A step without a report on the transaction. -/
theorem Account.quiet (ha : Account out h) (hes : reports es h = [])
    (hnew : ∀ r ∈ requests es h, reports r.2 h = []) : Account (out ++ es) h := by
  constructor
  · rw [requests_append]
    refine List.forall_mem_append.2 ⟨List.forall_mem_map.2 fun r hr n hn => ?_, fun r hr n _ => ?_⟩
    · rw [reports_append, hes, List.append_nil]
      refine (ha.amount r hr n hn).mono fun hclosed => ?_
      rw [isEnded_append, hclosed, Bool.true_or]
    · rw [hnew r hr]
      rcases n.eq_zero_or_pos with rfl | hpos
      · exact Or.inr ⟨rfl, fun hpos => absurd hpos (lt_irrefl 0)⟩
      · exact Or.inl hpos
  · intro a b hab hreqa hended
    rcases List.append_eq_append_iff.1 hab with ⟨a', -, rfl⟩ | ⟨b', rfl, rfl⟩
    · exact reports_eq_nil_of_append hes
    · rw [reports_append, ha.silent a b' rfl hreqa hended, hes, List.append_nil]
  · rw [requests_append]
    refine List.forall_mem_append.2 ⟨List.forall_mem_map.2 fun r hr => ?_, fun r hr => ?_⟩
    · rw [reports_append, hes, List.append_nil, asked_append]
      exact (ha.counts r hr).trans (Nat.le_add_right _ _)
    · rw [hnew r hr]
      exact Nat.zero_le _

/-- A step with one report, which is due; if it carries the end, the transaction is ended, and no
report comes after an end. -/
theorem Account.report (ha : Account out h) (hreq : requests es h = []) {m : Message (Body ω)}
    (hone : reports es h = [m]) (hasked : 1 ≤ asked es h) (hdue : Due out h m.endTransaction)
    (hend : m.endTransaction = true → isEnded es h = true)
    (htidy : ∀ a b, es = a ++ b → isEnded a h = true → reports b h = []) :
    Account (out ++ es) h := by
  constructor
  · rw [requests_append, hreq, List.append_nil]
    refine List.forall_mem_map.2 fun r hr n hn => ?_
    rw [reports_append, hone]
    rcases (hdue r hr).2 n hn with hlt | ⟨heq, hlast⟩
    · exact Or.inl (by simpa using hlt)
    · refine Or.inr ⟨by simpa using heq, fun _ => ⟨?_, fun m' hm' => ?_⟩⟩
      · rw [isEnded_append, hend hlast, Bool.or_true]
      · rw [← heq, Nat.add_sub_cancel, List.getElem?_concat_length] at hm'
        cases hm'
        exact hlast
  · intro a b hab hreqa hended
    -- what is due is not ended
    have hnot : requests out h ≠ [] → isEnded out h = false := by
      intro hne
      obtain ⟨r, hr⟩ := List.exists_mem_of_ne_nil _ hne
      exact (hdue r hr).1
    rcases List.append_eq_append_iff.1 hab with ⟨a', rfl, rfl⟩ | ⟨b', rfl, rfl⟩
    · rw [requests_append, List.append_eq_nil_iff, List.map_eq_nil_iff] at hreq
      rw [requests_append, hreq.1, List.append_nil, ne_eq, List.map_eq_nil_iff] at hreqa
      rw [isEnded_append, hnot hreqa, Bool.false_or] at hended
      exact htidy a' b rfl hended
    · have hreqout : requests (a ++ b') h ≠ [] := by
        rw [requests_append]
        simpa using fun hnil => absurd hnil hreqa
      have hfalse := hnot hreqout
      rw [isEnded_append, hended, Bool.true_or] at hfalse
      cases hfalse
  · rw [requests_append, hreq, List.append_nil]
    refine List.forall_mem_map.2 fun r hr => ?_
    rw [reports_append, hone, asked_append, List.length_append]
    exact Nat.add_le_add (ha.counts r hr) hasked

/-- After the first thing seen there is no report. -/
theorem reports_tidy {o : Sight ω} (hes : reports es h = []) :
    ∀ a b, o :: es = a ++ b → isEnded a h = true → reports b h = [] := by
  intro a b hab ha
  cases a with
  | nil => simp [isEnded] at ha
  | cons x a =>
    obtain ⟨rfl, rfl⟩ := List.cons.inj hab
    exact reports_eq_nil_of_append hes

/-- Events that hand nothing over report nothing. -/
theorem reports_eq_nil {es : List (Event (Body ω))} (hes : ∀ e ∈ es, e.isPos = false) :
    reports (es.map .lpp) h = [] := by
  refine List.filterMap_eq_nil_iff.2 (List.forall_mem_map.2 fun e he => ?_)
  have := hes e he
  cases e <;> simp_all [Event.isPos, Sight.report]

end Account

/-! ### What the session shows of a report -/

section Sights

variable {σ ω : Type*} {supl : Supl σ} {codec : Codec (Body ω)} {s : Endpoint σ}
  {h : TransactionHandle}

/-- The events `es` of the call show no report on `h`, or one that the call hands over, which ends
the transaction if it carries the end. -/
def Shows (supl : Supl σ) (codec : Codec (Body ω)) (s : Endpoint σ) (h : TransactionHandle)
    (call : Endpoint.Op σ (Body ω)) (es : List (Event (Body ω))) : Prop :=
  reports (es.map .lpp) h = [] ∨
    ∃ m, HandsOverReport supl codec s h m.endTransaction call ∧ reports (es.map .lpp) h = [m] ∧
      (m.endTransaction = true → es.any (Event.ends h) = true) ∧
      ∀ a b, es.map .lpp = a ++ b → isEnded a h = true → reports b h = []

/-- When the hand-over of a message shows a report. -/
theorem report_handover {k : TransactionHandle} {d : TransactionData} {m m' : Message (Body ω)} :
    (Sight.lpp (s.handover k d m)).report h = some m' ↔
      k = h ∧ isReport m = true ∧ Room s ∧ m' = s.withHeader k d m := by
  have hbody : isReport (s.withHeader k d m) = isReport m := rfl
  unfold Endpoint.handover Room
  cases hs : s.mSession with
  | none =>
    by_cases hq : s.mPosQueue.length < 16
    · simp [hq, Sight.report, hbody, and_assoc, @eq_comm _ m']
    · simp [hq, Sight.report]
  | some session => simp [Sight.report, hbody, and_assoc, @eq_comm _ m']

/-- The events of a message that passes. -/
theorem send_events {k : TransactionHandle} {d : TransactionData} {m : Message (Body ω)}
    (hd : s.findTransaction k = some d) (hr : s.refuses k m = false)
    (hp : s.passes supl codec k d m = true) :
    (s.send supl codec k m).2 = s.handover k d m ::
      if d.clientShouldSendEnd then [.clientEnded k, .onEndTransaction k] else [] := by
  rw [(Endpoint.send_of_passes supl codec hd hr hp).2.2, Transactions.clientEndTransaction_of_find
    (d := { d with clientShouldSendEnd := false }) (by simp)]

/-- The end of the transaction reports nothing. -/
theorem reports_end (b : Bool) (k : TransactionHandle) :
    reports ((if b then [.clientEnded k, .onEndTransaction k] else []).map
      (Sight.lpp (ω := ω))) h = [] :=
  reports_eq_nil (by split_ifs <;> simp [Event.isPos])

theorem reports_send (h : TransactionHandle) {k : TransactionHandle} {d : TransactionData}
    {m : Message (Body ω)} (hd : s.findTransaction k = some d) (hr : s.refuses k m = false)
    (hp : s.passes supl codec k d m = true) :
    reports ((s.send supl codec k m).2.map .lpp) h =
      ((Sight.lpp (s.handover k d m)).report h).toList := by
  rw [send_events hd hr hp, List.map_cons, reports, List.filterMap_cons, ← reports, reports_end]
  cases (Sight.lpp (s.handover k d m)).report h <;> rfl

theorem shows_send (supl : Supl σ) (codec : Codec (Body ω)) (s : Endpoint σ)
    (k : TransactionHandle) (m : Message (Body ω)) :
    Shows supl codec s h (.send k m) (s.send supl codec k m).2 := by
  cases hr : s.refuses k m with
  | true =>
    rw [Endpoint.send_of_refuses supl codec hr]
    exact Or.inl rfl
  | false =>
    obtain ⟨d, hd, -⟩ := Endpoint.find_of_not_refuses hr
    cases hp : s.passes supl codec k d m with
    | false =>
      obtain ⟨-, -, hes⟩ := Endpoint.send_of_fails supl codec hd hr hp
      refine Or.inl (List.filterMap_eq_nil_iff.2 (List.forall_mem_map.2 fun e he => ?_))
      rw [hes e he]
      rfl
    | true =>
      have hsent := reports_send h hd hr hp
      cases hover : (Sight.lpp (s.handover k d m)).report h with
      | none =>
        rw [hover] at hsent
        exact Or.inl hsent
      | some m' =>
        rw [hover] at hsent
        obtain ⟨rfl, hreport, hroom, rfl⟩ := report_handover.1 hover
        refine Or.inr ⟨_, ⟨rfl, hreport, hroom, d, hd, hr, hp, rfl⟩, hsent, fun hlast => ?_, ?_⟩
        · have hshould : d.clientShouldSendEnd = true := hlast
          simp [send_events hd hr hp, hshould, Event.ends]
        · rw [send_events hd hr hp, List.map_cons]
          exact reports_tidy (reports_end _ _)

theorem handsOverWithEnd_of_asking {k : TransactionHandle} {m : Message (Body ω)}
    {d : TransactionData} (hd : s.findTransaction k = some d) {last : Bool}
    (hover : HandsOverReport supl codec (s.asking k d) h last (.send k m)) :
    HandsOverWithEnd supl codec s h k m ∧ last = true := by
  obtain ⟨hk, hreport, hroom, d', hd', hr, hp, rfl⟩ := hover
  obtain rfl : { d with clientShouldSendEnd := true } = d' := by
    simpa [Endpoint.asking] using hd'
  exact ⟨⟨hk, hreport, hroom, d, hd, hr, hp⟩, rfl⟩

/-- What `send_with_end` shows, for a call that hands over what it hands over. -/
theorem shows_sendWithEnd {call : Endpoint.Op σ (Body ω)} (k : TransactionHandle)
    (m : Message (Body ω))
    (hcall : ∀ last, HandsOverWithEnd supl codec s h k m ∧ last = true →
      HandsOverReport supl codec s h last call) :
    Shows supl codec s h call (s.sendWithEnd supl codec k m).2 := by
  cases hd : s.findTransaction k with
  | none => exact Or.inl (by simp [Endpoint.sendWithEnd, hd, reports])
  | some d =>
    simp only [Endpoint.sendWithEnd, hd]
    rcases (shows_send supl codec (s.asking k d) k m : Shows _ _ _ h _ _) with
      hnone | ⟨m', hover, hrest⟩
    · exact Or.inl hnone
    · exact Or.inr ⟨m', hcall _ (handsOverWithEnd_of_asking hd hover), hrest⟩

/-- A call that hands over a report is one that is to send it. -/
theorem reportCall_of_handsOver {last : Bool} {call : Endpoint.Op σ (Body ω)}
    (hover : HandsOverReport supl codec s h last call) :
    reportCall codec s call = some (h, last) := by
  cases call with
  | send k m =>
    obtain ⟨rfl, hreport, -, d, hd, -, -, rfl⟩ := hover
    simp [reportCall, sentBy, hd, hreport]
  | sendWithEnd k m =>
    obtain ⟨⟨rfl, hreport, -, d, hd, -⟩, rfl⟩ := hover
    simp [reportCall, sentBy, hd, hreport]
  | abort k =>
    obtain ⟨⟨rfl, hreport, -, d, hd, -⟩, rfl⟩ := hover
    simp [reportCall, sentBy, hd, hreport]
  | _ => exact absurd hover id

theorem find_of_reportCall {last : Bool} {call : Endpoint.Op σ (Body ω)}
    (hcall : reportCall codec s call = some (h, last)) : ∃ d, s.findTransaction h = some d := by
  unfold reportCall at hcall
  obtain ⟨⟨k, m, withEnd⟩, -, hcall⟩ := Option.bind_eq_some_iff.1 hcall
  obtain ⟨d, hd, hcall⟩ := Option.bind_eq_some_iff.1 hcall
  split_ifs at hcall
  cases hcall
  exact ⟨d, hd⟩

/-- **What a step of the session shows** of the reports on a transaction. -/
theorem shows_step (supl : Supl σ) (codec : Codec (Body ω)) (h : TransactionHandle)
    {c : Endpoint.Config σ} (hc : c.1.toTransactions.Keyed)
    (call : Endpoint.Op σ (Body ω)) :
    Shows supl codec c.1 h call (Endpoint.step supl codec c call).2 := by
  obtain ⟨s, frame⟩ := c
  cases call with
  | send k m => exact shows_send _ _ _ k m
  | sendWithEnd k m => exact shows_sendWithEnd k m fun last hlast => hlast
  | abort k => exact shows_sendWithEnd k _ fun last hlast => hlast
  | createTransaction sse =>
    refine Or.inl (reports_eq_nil ?_)
    simp [Endpoint.step, Endpoint.keeping, Endpoint.createTransaction, Endpoint.onTransactions,
      hc.createTransaction, Event.isPos]
  | deleteTransaction k =>
    refine Or.inl (reports_eq_nil ?_)
    show ∀ e ∈ (s.toTransactions.clientEndTransaction k).2, e.isPos = false
    cases hd : s.findTransaction k with
    | none => simp [Transactions.clientEndTransaction, hd]
    | some d => simp [Transactions.clientEndTransaction_of_find hd, Event.isPos]
  | receive m =>
    cases frame with
    | some f => exact Or.inl rfl
    | none =>
      refine Or.inl (reports_eq_nil ?_)
      have harrival : ∀ k (m : Message (Body ω)), ∀ e ∈ Endpoint.arrival k m, e.isPos = false := by
        intro k m
        cases he : m.endTransaction <;> simp [Endpoint.arrival, he, Event.isPos]
      show ∀ e ∈ (s.receive m).2.1, e.isPos = false
      rcases Endpoint.receive_cases hc m with
        h | ⟨m, d, -, -, h⟩ | ⟨m, k, h⟩ | h | ⟨m, id, -, -, h⟩ <;> rw [h]
      · simp
      · exact harrival _ _
      · simp [Event.isPos]
      · simp
      · exact List.forall_mem_cons.2 ⟨rfl, harrival _ _⟩
  | returned =>
    cases frame with
    | none => exact Or.inl rfl
    | some f =>
      obtain ⟨k, b⟩ := f
      cases b with
      | false => exact Or.inl rfl
      | true =>
        refine Or.inl (reports_eq_nil ?_)
        show ∀ e ∈ (s.toTransactions.serverEndTransaction k).2, e.isPos = false
        cases hd : s.findTransaction k with
        | none => simp [Transactions.serverEndTransaction, hd]
        | some d =>
          rw [Transactions.serverEndTransaction_of_find hd]
          split_ifs <;> simp [Event.isPos]
  | supl session => exact Or.inl rfl
  | posinit => exact Or.inl rfl

end Sights

/-! ### Whole runs -/

section Runs

variable {σ ω : Type*} {supl : Supl σ} {codec : Codec (Body ω)} {c : LocationClient σ}
  {out : List (Sight ω)}

/-- What every step that meets its condition keeps. -/
structure Kept (c : LocationClient σ) (out : List (Sight ω)) : Prop where
  follows : Follows c.session.1.toTransactions c.session.2 (isEnded out)
  requested : ∀ h, requests out h ≠ [] → ∀ d, c.session.1.findTransaction h = some d →
    d.singleSideEndable = true ∨ isEnded out h = false
  live : ∀ h ∈ c.mLocationInformationDeliveries, requests out h ≠ [] ∧
    ∃ d, c.session.1.findTransaction h = some d
  waiting : ∀ d, .insert d ∈ c.pieces → requests out d.mTransaction ≠ []
  own : ∀ h d, c.mLocationInformationDeliveries.lookup h = some d → d.mTransaction = h
  account : ∀ h, Account out h
  continues : ∀ h, ∀ r ∈ requests out h, r.1.amount = none → .cancelled ∉ r.2 →
    isEnded out h = false →
      c.timer h = true ∨ ∃ d, .insert d ∈ c.pieces ∧ d.mTransaction = h

theorem kept_new (hack : Bool) : Kept (LocationClient.new (σ := σ) hack) ([] : List (Sight ω)) where
  follows := follows_new
  requested h hh := absurd rfl hh
  live h hh := by simp [LocationClient.new] at hh
  waiting d hd := by simp [LocationClient.new] at hd
  own h d hd := by simp [LocationClient.new] at hd
  account _ := account_nil
  continues h r hr := by simp [requests] at hr

/-- The pieces that are left still put into the map what was to be put there. -/
theorem Kept.pieces (hk : Kept c out) (pieces : List LocationPiece)
    (hp : ∀ d, .insert d ∈ c.pieces ↔ .insert d ∈ pieces) :
    Kept { c with pieces := pieces } out where
  follows := hk.follows
  requested := hk.requested
  live := hk.live
  waiting d hd := hk.waiting d ((hp d).2 hd)
  own := hk.own
  account := hk.account
  continues h r hr hn hcancel hended := by
    rcases hk.continues h r hr hn hcancel hended with htimer | ⟨d, hd, hh⟩
    · exact Or.inl htimer
    · exact Or.inr ⟨d, (hp d).1 hd, hh⟩

/-- A report that is to be sent when the condition allows it is due. -/
theorem Kept.due (hk : Kept c out) {call : Endpoint.Op σ (Body ω)} {h : TransactionHandle}
    {last : Bool} (hcall : reportCall codec c.session.1 call = some (h, last))
    (hmeets : ∀ r ∈ requests out h, arrived c.session.2 h = false ∧ ∀ n, r.1.amount = some n →
      asked r.2 h + 1 < n ∨ asked r.2 h + 1 = n ∧ last = true) : Due out h last := by
  intro r hr
  obtain ⟨harrived, hamount⟩ := hmeets r hr
  obtain ⟨d, hd⟩ := find_of_reportCall hcall
  refine ⟨?_, fun n hn => ?_⟩
  · rcases hk.requested h (List.ne_nil_of_mem hr) d hd with halone | hnot
    · obtain ⟨-, hserver, hsame⟩ := hk.follows.entry h d hd
      rw [hsame, hserver halone, harrived]
      rfl
    · exact hnot
  · have hle := (hk.account h).counts r hr
    rcases hamount n hn with hlt | ⟨heq, hlast⟩
    · exact Or.inl (by omega)
    · rcases Nat.lt_or_ge ((reports r.2 h).length + 1) n with hlt | hge
      · exact Or.inl hlt
      · exact Or.inr ⟨by omega, hlast⟩

section Seen

variable {call : Endpoint.Op σ (Body ω)} {h : TransactionHandle}

/-- What is seen of a call itself. -/
theorem asking_mem : ∀ o ∈ ((reportCall codec c.session.1 call).map fun call =>
    Sight.asked (ω := ω) call.1).toList, ∃ k, o = .asked k := by
  intro o ho
  obtain ⟨call', -, rfl⟩ := Option.map_eq_some_iff.1 (Option.mem_toList.1 ho)
  exact ⟨_, rfl⟩

theorem isEnded_onSession : isEnded (c.onSession supl codec call).2 h =
    (Endpoint.step supl codec c.session call).2.any (Event.ends h) := by
  rw [LocationClient.onSession, isEnded_append, isEnded_asked asking_mem, isEnded_lpp,
    Bool.false_or]

theorem reports_onSession : reports (c.onSession supl codec call).2 h =
    reports ((Endpoint.step supl codec c.session call).2.map .lpp) h := by
  rw [LocationClient.onSession, reports_append, reports_asked asking_mem, List.nil_append]

theorem requests_onSession : requests (c.onSession supl codec call).2 h = [] := by
  rw [LocationClient.onSession, requests_append, requests_asked asking_mem, requests_lpp]
  rfl

theorem asked_onSession {last : Bool} (hcall : reportCall codec c.session.1 call = some (h, last)) :
    1 ≤ asked (c.onSession supl codec call).2 h := by
  rw [LocationClient.onSession, asked_append, hcall]
  exact Nat.le_add_right_of_le (by simp [asked, Sight.asks])

/-- A delivery that is left was there before, and its transaction was not removed. -/
theorem left_onSession {d : LocationInformationDelivery}
    (hd : (c.onSession supl codec call).1.mLocationInformationDeliveries.lookup h = some d) :
    .onEndTransaction h ∉ (Endpoint.step supl codec c.session call).2 ∧
      c.mLocationInformationDeliveries.lookup h = some d := by
  rcases LocationClient.foldl_onEvent_lookup
      { c with session := (Endpoint.step supl codec c.session call).1 }
      (Endpoint.step supl codec c.session call).2 h with ⟨-, hnone⟩ | ⟨hnot, hsame⟩
  · exact absurd (hd.symm.trans hnone) (by simp)
  · exact ⟨hnot, hsame.symm.trans hd⟩

/-- A call that ends a transaction and leaves it in the table is a payload with the server's end
of it. -/
theorem alone_of_ends (hkeyed : c.session.1.toTransactions.Keyed) {d : TransactionData}
    (hreceive : ∀ m, call = .receive m → c.session.2 = none →
      (c.session.1.receive m).2.1.any (Event.ends h) = true → d.singleSideEndable = true)
    (hany : (Endpoint.step supl codec c.session call).2.any (Event.ends h) = true)
    (hnot : .onEndTransaction h ∉ (Endpoint.step supl codec c.session call).2) :
    d.singleSideEndable = true := by
  by_cases hcall : ∃ m, call = .receive m
  · obtain ⟨m, rfl⟩ := hcall
    cases hframe : c.session.2 with
    | none =>
      refine hreceive m rfl hframe ?_
      simpa only [Endpoint.step, hframe] using hany
    | some f => simp [Endpoint.step, hframe] at hany
  · exact absurd (endsRemove_step hkeyed (fun m hm => hcall ⟨m, hm⟩) h hany) hnot

/-- The reports of a call are those of its transaction that were due. -/
theorem Account.onSession (ha : Account out h) (hkeyed : c.session.1.toTransactions.Keyed)
    (hreport : ∀ last, reportCall codec c.session.1 call = some (h, last) → Due out h last) :
    Account (out ++ (c.onSession supl codec call).2) h := by
  rcases shows_step supl codec h hkeyed call with hnone | ⟨m, hover, hone, hend, htidy⟩
  · exact ha.quiet (reports_onSession.trans hnone) fun r hr => by simp [requests_onSession] at hr
  · have hcall := reportCall_of_handsOver hover
    refine ha.report requests_onSession (reports_onSession.trans hone) (asked_onSession hcall)
      (hreport _ hcall) (fun hlast => ?_) fun a b hab ha => ?_
    · rw [isEnded_onSession, hend hlast]
    · -- the call itself ends nothing
      rcases List.append_eq_append_iff.1 hab with ⟨a', rfl, hrest⟩ | ⟨b', hsplit, rfl⟩
      · rw [isEnded_append, isEnded_asked asking_mem, Bool.false_or] at ha
        exact htidy a' b hrest ha
      · rw [isEnded_asked fun o ho => asking_mem o (hsplit ▸ List.mem_append_left _ ho)] at ha
        cases ha

end Seen

/-- **A call of the session** that meets its condition. -/
theorem Kept.onSession (hk : Kept c out) (call : Endpoint.Op σ (Body ω))
    (hreport : ∀ h last, reportCall codec c.session.1 call = some (h, last) → Due out h last)
    (hreceive : ∀ m, call = .receive m → c.session.2 = none →
      ∀ h, requests out h ≠ [] → ∀ d, c.session.1.findTransaction h = some d →
        (c.session.1.receive m).2.1.any (Event.ends h) = true → d.singleSideEndable = true) :
    Kept (c.onSession supl codec call).1 (out ++ (c.onSession supl codec call).2) := by
  have hmoves := moves_step supl codec hk.follows call
  have hended : ∀ h, isEnded (out ++ (c.onSession supl codec call).2) h =
      (isEnded out h || (Endpoint.step supl codec c.session call).2.any (Event.ends h)) := by
    intro h
    rw [isEnded_append, isEnded_onSession]
  have hreq : ∀ h, requests (c.onSession supl codec call).2 h = [] := fun _ => requests_onSession
  have hreq' : ∀ h, requests (out ++ (c.onSession supl codec call).2) h ≠ [] ↔
      requests out h ≠ [] := by
    intro h
    rw [requests_append, hreq, List.append_nil, ne_eq, List.map_eq_nil_iff]
  constructor
  · rw [funext hended, LocationClient.onSession, LocationClient.foldl_onEvent_session]
    exact hmoves.follows
  · intro h hh d' hd'
    rw [hreq'] at hh
    rw [LocationClient.onSession, LocationClient.foldl_onEvent_session] at hd'
    rw [hended]
    rcases hmoves.origin h d' hd' with ⟨d, hd, hsse⟩ | halone | hnot
    · rw [← hsse]
      rcases hk.requested h hh d hd with halone | hnot
      · exact Or.inl halone
      · rw [hnot, Bool.false_or]
        cases hany : (Endpoint.step supl codec c.session call).2.any (Event.ends h) with
        | false => exact Or.inr rfl
        | true =>
          refine Or.inl (alone_of_ends hk.follows.keyed
            (fun m hm hframe => hreceive m hm hframe h hh d hd) hany fun hmem => ?_)
          rw [hmoves.gone h hmem] at hd'
          cases hd'
    · exact Or.inl halone
    · exact Or.inr hnot
  · intro h hh
    obtain ⟨delivery, hdelivery⟩ := Option.isSome_iff_exists.1 (AList.lookup_isSome.2 hh)
    obtain ⟨hnot, hbefore⟩ := left_onSession hdelivery
    obtain ⟨hrequested, d, hd⟩ := hk.live h (Table.mem_of_lookup hbefore)
    obtain ⟨d', hd', -⟩ := hmoves.stays h d hd hnot
    refine ⟨(hreq' h).2 hrequested, d', ?_⟩
    rw [LocationClient.onSession, LocationClient.foldl_onEvent_session]
    exact hd'
  · intro d hd
    rw [LocationClient.onSession, LocationClient.insert_mem_foldl_onEvent] at hd
    exact (hreq' _).2 (hk.waiting d hd)
  · exact fun h d hd => hk.own h d (left_onSession hd).2
  · exact fun h => (hk.account h).onSession hk.follows.keyed (hreport h)
  · intro h r hr hn hcancel hnot
    rw [requests_append, hreq, List.append_nil, List.mem_map] at hr
    obtain ⟨r, hr, rfl⟩ := hr
    rw [hended, Bool.or_eq_false_iff] at hnot
    have hcancel' : .cancelled ∉ r.2 := fun hmem => hcancel (List.mem_append_left _ hmem)
    rcases hk.continues h r hr hn hcancel' hnot.1 with htimer | ⟨d, hd, hh⟩
    · left
      rcases LocationClient.foldl_onEvent_lookup
          { c with session := (Endpoint.step supl codec c.session call).1 }
          (Endpoint.step supl codec c.session call).2 h with ⟨hmem, -⟩ | ⟨-, hsame⟩
      · have hover := hmoves.hasEnded h hmem
        rw [hnot.1, hnot.2] at hover
        cases hover
      · rw [LocationClient.timer, LocationClient.onSession, hsame]
        exact htimer
    · exact Or.inr ⟨d, (LocationClient.insert_mem_foldl_onEvent _ _ d).2 hd, hh⟩

/-- A delivery starts; it comes into the map when the first report was made. -/
theorem Kept.start (hk : Kept c out) (k : TransactionHandle) (description : DeliveryDescription)
    (registers : Bool) (hstart : ∀ d, c.session.1.findTransaction k = some d →
      d.singleSideEndable = true ∨ d.serverHasSentEnd = false ∧ arrived c.session.2 k = false) :
    Kept (c.startPeriodicLocationInformation (ω := ω) k description registers).1
      (out ++ (c.startPeriodicLocationInformation k description registers).2) := by
  unfold LocationClient.startPeriodicLocationInformation
  split_ifs with hlookup
  · simpa using hk
  · have hended : ∀ h, isEnded (out ++ [.started k description]) h = isEnded out h := by
      intro h
      simp [isEnded, Sight.ends]
    have hnew : ∀ h, ∀ r ∈ requests [Sight.started (ω := ω) k description] h,
        r.2 = [] ∧ k = h := by
      intro h r hr
      by_cases hkh : k = h
      · simp only [requests, Since.since, Sight.request, hkh, if_true, List.mem_singleton] at hr
        exact ⟨by rw [hr], hkh⟩
      · simp [requests, Since.since, Sight.request, hkh] at hr
    have hmore : ∀ h, requests out h ≠ [] → requests (out ++ [.started k description]) h ≠ [] := by
      intro h hh hnil
      rw [requests_append, List.append_eq_nil_iff, List.map_eq_nil_iff] at hnil
      exact hh hnil.1
    constructor
    · rw [funext hended]
      exact hk.follows
    · intro h hh d hd
      rw [hended]
      by_cases hreq : requests out h = []
      · obtain rfl : k = h := by
          rw [requests_append, hreq, List.map_nil, List.nil_append] at hh
          obtain ⟨r, hr⟩ := List.exists_mem_of_ne_nil _ hh
          exact (hnew h r hr).2
        rcases hstart d hd with halone | ⟨hserver, harrived⟩
        · exact Or.inl halone
        · refine Or.inr ?_
          rw [(hk.follows.entry k d hd).2.2, hserver, harrived]
          rfl
      · exact hk.requested h hreq d hd
    · exact fun h hh => ⟨hmore h (hk.live h hh).1, (hk.live h hh).2⟩
    · intro d hd
      simp only [List.mem_cons, reduceCtorEq, LocationPiece.insert.injEq, false_or] at hd
      rcases hd with rfl | hd
      · have hfirst : requests [Sight.started (ω := ω) k description] k = [(description, [])] := by
          simp [requests, Since.since, Sight.request]
        show requests (out ++ [.started k description]) k ≠ []
        rw [requests_append, hfirst]
        exact List.append_ne_nil_of_right_ne_nil _ (List.cons_ne_nil _ _)
      · exact hmore _ (hk.waiting d hd)
    · exact hk.own
    · refine fun h => (hk.account h).quiet rfl fun r hr => ?_
      rw [(hnew h r hr).1]
      rfl
    · intro h r hr hn hcancel hnot
      rw [requests_append, List.mem_append, List.mem_map] at hr
      rw [hended] at hnot
      rcases hr with ⟨r, hr, rfl⟩ | hr
      · have hcancel' : .cancelled ∉ r.2 := fun hmem => hcancel (List.mem_append_left _ hmem)
        rcases hk.continues h r hr hn hcancel' hnot with htimer | ⟨d, hd, hh⟩
        · exact Or.inl htimer
        · exact Or.inr ⟨d, by simp [hd], hh⟩
      · exact Or.inr ⟨.new k description (c.mScheduler && registers), by simp, (hnew h r hr).2⟩

/-- A delivery comes into the map. -/
theorem Kept.insert (hk : Kept c out) {d : LocationInformationDelivery}
    {pieces : List LocationPiece} (hp : c.pieces = .insert d :: pieces)
    (hlive : ∃ t, c.session.1.findTransaction d.mTransaction = some t)
    (htimer : (∃ r ∈ requests out d.mTransaction, r.1.amount = none) → d.mPeriodicTask = true) :
    Kept { c with
      pieces := pieces
      mLocationInformationDeliveries :=
        c.mLocationInformationDeliveries.insert d.mTransaction d } out where
  follows := hk.follows
  requested := hk.requested
  live h hh := by
    rcases (AList.mem_insert _).1 hh with rfl | hh
    · exact ⟨hk.waiting d (by rw [hp]; exact List.mem_cons_self), hlive⟩
    · exact hk.live h hh
  waiting d' hd' := hk.waiting d' (by rw [hp]; exact List.mem_cons_of_mem _ hd')
  own h d' hd' := by
    rw [Table.lookup_insert] at hd'
    split_ifs at hd' with hkh
    · cases hd'
      exact hkh.symm
    · exact hk.own h d' hd'
  account := hk.account
  continues h r hr hn hcancel hnot := by
    by_cases hkh : h = d.mTransaction
    · subst hkh
      left
      simpa [LocationClient.timer] using htimer ⟨r, hr, hn⟩
    · rcases hk.continues h r hr hn hcancel hnot with ht | ⟨d', hd', hh⟩
      · left
        simpa [LocationClient.timer, Table.lookup_insert, hkh] using ht
      · refine Or.inr ⟨d', ?_, hh⟩
        rw [hp] at hd'
        rcases List.mem_cons.1 hd' with heq | hd'
        · cases heq
          exact absurd hh.symm hkh
        · exact hd'

theorem Kept.cancel (hk : Kept c out) :
    Kept (c.cancel supl codec).1 (out ++ (c.cancel supl codec).2) := by
  have hended : ∀ h, isEnded (out ++ [.cancelled]) h = isEnded out h := by
    intro h
    simp [isEnded, Sight.ends]
  have hreq : ∀ h, requests [Sight.cancelled (ω := ω)] h = [] := fun _ => rfl
  have hreq' : ∀ h, requests (out ++ [.cancelled]) h ≠ [] ↔ requests out h ≠ [] := by
    intro h
    rw [requests_append, hreq, List.append_nil, ne_eq, List.map_eq_nil_iff]
  refine
    { follows := ?_
      requested := fun h hh d hd => ?_
      live := fun h hh => by simp [LocationClient.cancel] at hh
      waiting := fun d hd => (hreq' _).2 (hk.waiting d hd)
      own := fun h d hd => by simp [LocationClient.cancel] at hd
      account := fun h => (hk.account h).quiet rfl fun r hr => by
        simp [LocationClient.cancel, hreq] at hr
      continues := fun h r hr _ hcancel => ?_ }
  · simp only [LocationClient.cancel, funext hended]
    exact hk.follows
  · simp only [LocationClient.cancel] at hh
    simp only [LocationClient.cancel, hended]
    exact hk.requested h ((hreq' h).1 hh) d hd
  · simp only [LocationClient.cancel, requests_append, hreq, List.append_nil, List.mem_map] at hr
    obtain ⟨r, -, rfl⟩ := hr
    simp at hcancel

/-- **A callback returns.** -/
theorem Kept.resume (hk : Kept c out) {answer : Answer}
    (hop : Meets codec c out (.answer answer)) :
    Kept (c.resume supl codec answer).1 (out ++ (c.resume supl codec answer).2) := by
  have hpop : ∀ p pieces, c.pieces = p :: pieces → (∀ d, p ≠ .insert d) →
      ∀ d, .insert d ∈ c.pieces ↔ .insert d ∈ pieces := by
    intro p pieces hp hne d
    rw [hp, List.mem_cons, or_iff_right (hne d).symm]
  cases hp : c.pieces with
  | nil => simpa [LocationClient.resume, hp] using hk
  | cons p pieces =>
    cases p with
    | requested k inner =>
      have hrest := hk.pieces _ (hpop _ _ hp (by simp))
      simp only [LocationClient.resume, hp]
      split_ifs with hhandled
      · simpa using hrest
      · cases hdescription : inner.description with
        | none => simpa using hrest
        | some description =>
          refine hrest.start k description answer.registers (hop.start k ?_)
          simp [LocationClient.starts, hp, hhandled, hdescription]
    | advanced d =>
      have hrest := hpop _ _ hp (by simp)
      simp only [LocationClient.resume, hp]
      split_ifs
      · simpa using hk.pieces _ hrest
      · simpa using hk.pieces (.provide d :: pieces) fun d' => (hrest d').trans (by simp)
    | provide d =>
      simp only [LocationClient.resume, hp]
      have hcall : c.sessionOp (.answer answer) =
          some (.send d.mTransaction (reportMessage (ω := ω) answer.report)) := by
        simp [LocationClient.sessionOp, hp]
      have hrest := hk.pieces _ (hpop _ _ hp (by simp))
      exact hrest.onSession _
        (fun h last hlast => hrest.due hlast (hop.report _ hcall h last hlast)) (by simp)
    | insert d =>
      obtain ⟨hlive, htimer⟩ := hop.insert answer d pieces rfl hp
      simpa [LocationClient.resume, hp] using hk.insert hp hlive htimer

/-- **One step** that meets its condition. -/
theorem Kept.step (hk : Kept c out) {op : LocationOp σ ω} (hop : Meets codec c out op) :
    Kept (c.step supl codec op).1 (out ++ (c.step supl codec op).2) := by
  cases op with
  | session call =>
    simp only [LocationClient.step]
    split_ifs with hwaits
    · simpa using hk
    · have hcall : c.sessionOp (.session call) = some call := by
        rw [LocationClient.sessionOp, if_neg hwaits]
      refine hk.onSession call
        (fun h last hlast => hk.due hlast (hop.report call hcall h last hlast)) ?_
      rintro m rfl
      exact hop.receive m hcall
  | tick k =>
    simp only [LocationClient.step, LocationClient.tick, List.append_nil]
    split
    · exact hk
    · split_ifs
      · exact hk.pieces _ fun d => by simp
      · exact hk
  | answer answer => exact hk.resume hop
  | startPeriodicLocationInformation k description registers =>
    exact hk.start k description registers (hop.start k rfl)
  | stopPeriodicLocationInformation k => simpa [LocationClient.step] using hk
  | schedule =>
    simp only [LocationClient.step, List.append_nil]
    exact ⟨hk.follows, hk.requested, hk.live, hk.waiting, hk.own, hk.account, hk.continues⟩
  | cancel => exact hk.cancel

/-- A transaction with a running timer goes on reporting. -/
theorem Kept.continues_of_timer (hk : Kept c out) (hidle : c.idle = true) {h : TransactionHandle}
    (htimer : c.timer h = true) : Continues supl codec c h := by
  obtain ⟨delivery, hdelivery, htask⟩ := (Option.any_eq_true _ _).1 htimer
  obtain ⟨-, d, hd⟩ := hk.live h (Table.mem_of_lookup hdelivery)
  have hown := hk.own h delivery hdelivery
  refine ⟨htimer, d, hd, fun asked answer hasked hp hroom => ?_⟩
  have hpieces : c.pieces = [] := by
    simp only [LocationClient.idle, Bool.and_eq_true, List.isEmpty_iff] at hidle
    exact hidle.1
  have hr : c.session.1.refuses h (reportMessage (ω := ω) answer.report) = false := by
    simp [Endpoint.refuses, reportMessage, hd, (hk.follows.entry h d hd).1]
  have hsent := reports_send h hd hr hp
  rw [report_handover.2 ⟨rfl, rfl, hroom, rfl⟩] at hsent
  simp only [Mealy.run_cons, Mealy.run_nil, LocationClient.step, LocationClient.tick, hdelivery,
    hidle, htask, Bool.and_self, if_true, LocationClient.resume, hasked, Bool.false_eq_true,
    if_false, hown, List.append_nil, List.nil_append]
  rw [reports_onSession]
  exact hsent

/-- When no call is under way, a transaction that was ended has no timer. -/
theorem Kept.timer_of_ended (hk : Kept c out) (hidle : c.idle = true) {h : TransactionHandle}
    (hended : isEnded out h = true) : c.timer h = false := by
  by_contra htimer
  obtain ⟨delivery, hdelivery, -⟩ :=
    (Option.any_eq_true _ _).1 (Bool.eq_true_of_not_eq_false htimer)
  obtain ⟨hrequested, d, hd⟩ := hk.live h (Table.mem_of_lookup hdelivery)
  obtain ⟨-, hsse, hsame⟩ := hk.follows.entry h d hd
  have hframe : c.session.2 = none := by
    simp only [LocationClient.idle, Bool.and_eq_true, Option.isNone_iff_eq_none] at hidle
    exact hidle.2
  have hserver : d.serverHasSentEnd = true := by
    rw [hended, hframe] at hsame
    simpa [arrived] using hsame.symm
  rcases hk.requested h hrequested d hd with halone | hnot
  · rw [hsse halone] at hserver
    cases hserver
  · rw [hended] at hnot
    cases hnot

/-- The state and the history that are kept are as requested. -/
theorem Kept.stopsAsRequested (hk : Kept c out) (h : TransactionHandle) :
    StopsAsRequested supl codec c out h where
  amount r hr n hn := by
    rcases (hk.account h).amount r hr n hn with hlt | ⟨heq, hlast⟩
    · refine ⟨hlt.le, fun m hm => ?_⟩
      have := (List.getElem?_eq_some_iff.1 hm).1
      omega
    · refine ⟨heq.le, fun m hm => (hlast ?_).2 m hm⟩
      have := (List.getElem?_eq_some_iff.1 hm).1
      omega
  silent := (hk.account h).silent
  stopped hidle r hr hover := by
    refine hk.timer_of_ended hidle ?_
    rcases hover with hended | ⟨n, hn, hpos, heq⟩
    · exact hended
    · rcases (hk.account h).amount r hr n hn with hlt | ⟨-, hlast⟩
      · omega
      · exact (hlast hpos).1
  continues hidle r hr hn hcancel hnot := by
    refine hk.continues_of_timer hidle ?_
    rcases hk.continues h r hr hn hcancel hnot with htimer | ⟨d, hd, -⟩
    · exact htimer
    · -- no delivery waits for its first report
      simp only [LocationClient.idle, Bool.and_eq_true, List.isEmpty_iff] at hidle
      rw [hidle.1] at hd
      cases hd

end Runs

/-- **Location reports stop as requested** in every run whose steps meet the condition. -/
theorem reports_stop {σ ω : Type*} (supl : Supl σ) (codec : Codec (Body ω)) (hack : Bool)
    (ops : List (LocationOp σ ω))
    (hops : Mealy.Along (Meets codec) (LocationClient.step supl codec)
      (LocationClient.new hack) [] ops) (h : TransactionHandle) :
    StopsAsRequested supl codec
      (Mealy.run (LocationClient.step supl codec) (LocationClient.new hack) ops).1
      (Mealy.run (LocationClient.step supl codec) (LocationClient.new hack) ops).2 h :=
  (Mealy.invariant_run (P := Kept) (fun _ _ _ hk hop => hk.step hop) (kept_new hack)
    hops).stopsAsRequested h

/-! ### A request with two reports, and one with a single report -/

/-- A codec that encodes every message. -/
def Codec.location : Codec (Body Unit) := ⟨fun _ => [0], fun _ => none, .other ()⟩

/-- The answer of a callback that is not set. -/
def Answer.unset : Answer := ⟨false, ⟨none, none⟩, true⟩

/-- A client that is connected gets a request from the server and makes the first report. -/
def firstReport (reportingAmount : ℤ) : List (LocationOp Unit Unit) :=
  [.schedule, .session (.supl (some ())),
    .session (.receive (some ⟨some ⟨5, .locationServer⟩, false, none,
      some (.requestLocationInformation ⟨some ⟨some ⟨some reportingAmount, 3⟩⟩⟩)⟩)),
    .answer .unset, .answer .unset, .answer .unset, .answer .unset, .session .returned]

/-- A step of the session that is to send no report. -/
theorem meets_session {σ ω : Type*} {codec : Codec (Body ω)} {c : LocationClient σ}
    {out : List (Sight ω)} {call : Endpoint.Op σ (Body ω)}
    (hreport : reportCall codec c.session.1 call = none)
    (hreceive : ∀ m, call = .receive m → ∀ h, requests out h ≠ [] → ∀ d,
      c.session.1.findTransaction h = some d → d.singleSideEndable = true) :
    Meets codec c out (.session call) where
  report call' hcall h last hlast := by
    simp only [LocationClient.sessionOp, Option.ite_none_left_eq_some, Option.some.injEq] at hcall
    rw [← hcall.2, hreport] at hlast
    cases hlast
  receive m hcall _ h hh d hd _ := by
    simp only [LocationClient.sessionOp, Option.ite_none_left_eq_some, Option.some.injEq] at hcall
    exact hreceive m hcall.2 h hh d hd
  start h hstart := by cases hstart
  insert answer delivery pieces hop := by cases hop

/-- A callback returns without a report; no delivery starts, and none comes into the map. -/
theorem meets_answer {σ ω : Type*} {codec : Codec (Body ω)} {c : LocationClient σ}
    {out : List (Sight ω)} {answer : Answer}
    (hcall : c.sessionOp (ω := ω) (.answer answer) = none)
    (hstart : c.starts (ω := ω) (.answer answer) = none)
    (hinsert : ∀ delivery pieces, c.pieces ≠ .insert delivery :: pieces) :
    Meets codec c out (.answer answer) where
  report call hcall' := by simp [hcall] at hcall'
  receive m hcall' := by simp [hcall] at hcall'
  start h hstart' := by simp [hstart] at hstart'
  insert _ delivery pieces _ hp := absurd hp (hinsert delivery pieces)

/-- The server ends the transaction before the second and last report is due. -/
theorem reports_stop_two :
    StopsAsRequested Supl.ideal Codec.location
      (Mealy.run (LocationClient.step Supl.ideal Codec.location) (LocationClient.new false)
        (firstReport 1 ++ [.session (.receive (some ⟨some ⟨5, .locationServer⟩, true, none,
          some (.other ())⟩)), .session .returned])).1
      (Mealy.run (LocationClient.step Supl.ideal Codec.location) (LocationClient.new false)
        (firstReport 1 ++ [.session (.receive (some ⟨some ⟨5, .locationServer⟩, true, none,
          some (.other ())⟩)), .session .returned])).2
      ⟨5, 1, .locationServer⟩ := by
  refine reports_stop Supl.ideal Codec.location false _ ?_ _
  refine ⟨?_, ?_, ?_, ?_, ?_, ?_, ?_, ?_, ?_, ?_, trivial⟩
  · -- the client is scheduled
    exact ⟨by simp [LocationClient.sessionOp], by simp [LocationClient.sessionOp],
      by simp [LocationClient.starts], by simp⟩
  · exact meets_session rfl fun m hm => by cases hm
  · -- the request comes in; there is no other one
    exact meets_session rfl fun m _ h hh => absurd rfl hh
  · -- the request is not handled, and the delivery starts on a transaction of the server
    refine ⟨(fun call hcall => by cases hcall), (fun m hm => by cases hm), fun h hh d hd => ?_,
      fun answer delivery pieces _ hp => by cases hp⟩
    cases hh
    cases hd
    exact Or.inl rfl
  · -- nor is the first report
    exact meets_answer rfl rfl fun d pieces hp => by cases hp
  · -- the first report is one of two
    refine ⟨?_, (fun m hm => by cases hm), (fun h hh => by cases hh),
      fun answer delivery pieces _ hp => by cases hp⟩
    intro call hcall h last hlast r hr
    cases hcall
    cases hlast
    cases List.mem_singleton.1 hr
    refine ⟨rfl, fun n hn => ?_⟩
    cases hn
    exact Or.inl (by decide)
  · -- the delivery comes into the map
    refine ⟨(fun call hcall => by cases hcall), (fun m hm => by cases hm),
      (fun h hh => by cases hh), ?_⟩
    intro answer delivery pieces _ hp
    cases hp
    exact ⟨⟨_, rfl⟩, fun _ => rfl⟩
  · exact meets_session rfl fun m hm => by cases hm
  · -- the end of the server comes in
    refine meets_session rfl fun m _ h _ d hd => ?_
    obtain rfl : h = ⟨5, 1, .locationServer⟩ := List.mem_singleton.1 (Table.mem_of_lookup hd)
    cases hd
    rfl
  · exact meets_session rfl fun m hm => by cases hm

/-- **The timer reports again** after the only report that was asked for. -/
theorem reports_go_on :
    ¬StopsAsRequested Supl.ideal Codec.location
      (Mealy.run (LocationClient.step Supl.ideal Codec.location) (LocationClient.new false)
        (firstReport 0 ++ [.tick ⟨5, 1, .locationServer⟩, .answer .unset, .answer .unset])).1
      (Mealy.run (LocationClient.step Supl.ideal Codec.location) (LocationClient.new false)
        (firstReport 0 ++ [.tick ⟨5, 1, .locationServer⟩, .answer .unset, .answer .unset])).2
      ⟨5, 1, .locationServer⟩ := by
  intro h
  have hlen := (h.amount _ List.mem_cons_self 1 rfl).1
  exact absurd hlen (by decide)

end SuplLpp.Lpp
