import SuplLpp.Modem.Requests

/-!
# The answers of a modem, over whole runs

* `Op`, `Run`: requests that are made and bytes that are read, in any order;
* `Meets`: what a read needs, in the state before it;
* `Stands`: what has been answered, and which lines are ahead;
* `Answered`, `answers`: in every run whose reads meet it, every request has its own lines.
-/

namespace SuplLpp.At

open Lines Format.At
open Helper (parserBufferSize Repr)

inductive Op
  | request (state : ResponseState)
  | read (buffer : List UInt8)

/-- The requests that are made. -/
def requests : List Op → List ResponseState
  | [] => []
  | .request state :: ops => state :: requests ops
  | .read _ :: ops => requests ops

/-- The bytes that are read. -/
def bytes : List Op → List UInt8
  | [] => []
  | .request _ :: ops => bytes ops
  | .read buffer :: ops => buffer ++ bytes ops

namespace Modem

/-- One request or one read; a read may take any finite number of rounds. -/
def Step (m : Modem) (op : Op) (m' : Modem) : Prop :=
  match op with
  | .request state => m' = m.request state
  | .read buffer => ∃ fuel, m.read fuel buffer = some m'

/-- One after the other. -/
def Run : Modem → List Op → Modem → Prop
  | m, [], m' => m' = m
  | m, op :: ops, m' => ∃ m₁, m.Step op m₁ ∧ Run m₁ ops m'

/-- What a read needs: the bytes fit, no line is too long, and behind the echo of the oldest
request exactly its three lines are there. -/
def Meets (m : Modem) : Op → Prop
  | .request _ => True
  | .read buffer =>
    let q := contents m.mParser.helper ++ buffer
    q.length < m.mParser.helper.mBufferCapacity ∧ (∀ l ∈ (splitLines q).1, l.length ≤ 121) ∧
      (splitLines q).2.length ≤ 121 ∧
      Answerable m.mCallbacks (m.mParser.mLines ++ (splitLines q).1)

/-- All the reads of a run meet it. -/
def MeetsAlong : Modem → List Op → Prop
  | _, [] => True
  | m, op :: ops => m.Meets op ∧ ∀ m₁, m.Step op m₁ → MeetsAlong m₁ ops

end Modem

/-- The run returns from every read; the responses that are complete are those of the first
exchanges; and behind a read, every exchange is among them whose request has been made and whose
bytes have been read. -/
def Answered (memory : ℕ → UInt8) (es : List Exchange) (ops : List Op) : Prop :=
  ∃ m, (Modem.new memory).Run ops m ∧ (∃ k, m.log = (es.take k).map Exchange.answer) ∧
    ∀ front buffer, ops = front ++ [.read buffer] → ∀ n ≤ es.length, n ≤ (requests ops).length →
      (stream (es.take n)).length ≤ (bytes ops).length → n ≤ m.log.length

/-! ### The lines of the bytes that have been read -/

section Lines

variable {es : List Exchange}

theorem isLine_text (hes : ∀ e ∈ es, e.WellFormed) : ∀ l ∈ text es, IsLine 0x0D 0x0A l := by
  intro l hl
  obtain ⟨e, he, hl⟩ := List.mem_flatMap.1 hl
  exact (hes e he).isLine l hl

theorem text_append (es es' : List Exchange) : text (es ++ es') = text es ++ text es' :=
  List.flatMap_append

theorem stream_append (es es' : List Exchange) : stream (es ++ es') = stream es ++ stream es' := by
  rw [stream, text_append, List.flatMap_append]
  rfl

/-- Exchanges whose bytes have been read have their lines found. -/
theorem length_text_le (hes : ∀ e ∈ es, e.WellFormed) {q : List UInt8} (hq : q <+: stream es)
    {n : ℕ} (hn : (stream (es.take n)).length ≤ q.length) :
    (text (es.take n)).length ≤ (splitLines q).1.length := by
  have hbegins : stream (es.take n) <+: stream es := by
    conv_rhs => rw [← List.take_append_drop n es, stream_append]
    exact List.prefix_append _ _
  obtain ⟨rest, rfl⟩ := List.prefix_of_prefix_length_le hbegins hq hn
  rw [splitLines, stream,
    split_lines (by decide) (isLine_text fun e he => hes e (List.mem_of_mem_take he)),
    List.length_append]
  exact Nat.le_add_right _ _

/-- With all lines taken, the next exchange has not been read whole. -/
theorem length_lt_of_ahead {done : List Exchange} {e : Exchange} {rest : List Exchange}
    {taken ahead : List Line} (htext : text (done ++ e :: rest) = taken ++ ahead)
    (hahead : Ahead (e :: rest) ahead) : taken.length < (text (done ++ [e])).length := by
  obtain ⟨skipped, hskipped, hbegins⟩ := hahead
  have hle := (hbegins e rfl).length_le
  rw [text_append, ← hskipped, ← List.append_assoc] at htext
  rw [← List.append_cancel_right htext, text_append, List.length_append, List.length_append, text,
    text, List.flatMap_singleton, Exchange.lines, List.length_append, List.length_cons]
  omega

end Lines

/-! ### One step of the run -/

/-- After these requests and these bytes, the first exchanges have been answered. -/
structure Stands (es : List Exchange) (issued : List ResponseState) (got : List UInt8) (m : Modem)
    (done : List Exchange) : Prop where
  begins : done <+: es
  log : m.log = done.map Exchange.answer
  callbacks : m.mCallbacks = issued.drop done.length
  length_le : done.length ≤ issued.length
  capacity : m.mParser.helper.mBufferCapacity = parserBufferSize
  repr : Repr m.mParser.helper (splitLines got).2
  lines : ∃ taken ahead, (splitLines got).1 = taken ++ m.mParser.mLines ∧
    text es = taken ++ ahead ∧ Ahead (es.drop done.length) ahead

section Steps

variable {es : List Exchange} {issued : List ResponseState} {got : List UInt8} {m : Modem}
  {done : List Exchange}

theorem Stands.request (h : Stands es issued got m done) (state : ResponseState) :
    Stands es (issued ++ [state]) got (m.request state) done :=
  ⟨h.begins, h.log, by
    rw [Modem.request, h.callbacks, List.drop_append_of_le_length h.length_le],
    by rw [List.length_append]; exact Nat.le_add_right_of_le h.length_le, h.capacity, h.repr,
    h.lines⟩

/-- What the parser makes of a read: the lines that end in it stand behind the others. -/
theorem process_append (h : Stands es issued got m done) {buffer : List UInt8}
    (hmeets : m.Meets (.read buffer)) :
    ∃ helper lines, (m.mParser.append buffer).process = ⟨helper, m.mParser.mLines ++ lines⟩ ∧
      helper.mBufferCapacity = parserBufferSize ∧ Repr helper (splitLines (got ++ buffer)).2 ∧
      (splitLines (got ++ buffer)).1 = (splitLines got).1 ++ lines ∧
      Answerable m.mCallbacks (m.mParser.mLines ++ lines) := by
  obtain ⟨hfits, hshort, hrest, hanswerable⟩ := hmeets
  rw [contents_eq h.repr] at hfits hshort hrest hanswerable
  rw [List.length_append] at hfits
  obtain ⟨hcap, hrepr⟩ := h.repr.append_fits hfits
  obtain ⟨helper, hprocess, hcap', hrepr'⟩ := processLoop_spec (p := m.mParser.append buffer) hrepr
    (le_of_eq hrepr.bufferLength.symm) hshort hrest
  refine ⟨helper, _, hprocess, hcap'.trans (hcap.trans h.capacity), ?_, ?_, hanswerable⟩
  · rw [splitLines, split_append (by decide)]
    exact hrepr'
  · rw [splitLines, split_append (by decide)]

/-- **A read** that meets it returns. -/
theorem Stands.read (h : Stands es issued got m done)
    (hes : ∀ e ∈ es, e.WellFormed ∧ e.Handled) {buffer : List UInt8}
    (hissued : issued <+: es.map (·.state)) (hstream : got ++ buffer <+: stream es)
    (hmeets : m.Meets (.read buffer)) :
    ∃ m' done', m.Step (.read buffer) m' ∧ Stands es issued (got ++ buffer) m' done' ∧
      ∀ n ≤ es.length, n ≤ issued.length → (stream (es.take n)).length ≤ (got ++ buffer).length →
        n ≤ done'.length := by
  have hwell : ∀ e ∈ es, e.WellFormed := fun e he => (hes e he).1
  obtain ⟨helper, lines, hprocess, hcap, hrepr, hsplit, hanswerable⟩ := process_append h hmeets
  obtain ⟨taken, ahead, htaken, htext, hahead⟩ := h.lines
  have hsplit' : (splitLines (got ++ buffer)).1 = taken ++ (m.mParser.mLines ++ lines) := by
    rw [hsplit, htaken, List.append_assoc]
  have hlines : m.mParser.mLines ++ lines <+: ahead := by
    have hbegins : (splitLines (got ++ buffer)).1 <+: text es :=
      split_begins (by decide) (isLine_text hwell) hstream
    rw [hsplit', htext] at hbegins
    exact (List.prefix_append_right_inj taken).1 hbegins
  obtain ⟨done₁, rest, taken₁, lines₁, ahead₁, hdone₁, hahead₁, hlines₁, hnext, hrespond, hlength,
    hend⟩ := Modem.respond_spec (m := ⟨⟨helper, m.mParser.mLines ++ lines⟩, m.mCallbacks, m.log⟩)
      (fun e he => hes e (List.mem_of_mem_drop he))
      (by rw [h.callbacks, List.map_drop]; exact hissued.drop _) hahead hlines hanswerable
      (Nat.lt_succ_self _)
  rw [h.callbacks, List.drop_drop] at hend
  rw [h.callbacks, List.length_drop] at hlength
  have hall : es = (done ++ done₁) ++ rest := by
    rw [List.append_assoc, ← hdone₁]
    exact (List.prefix_iff_eq_append.1 h.begins).symm
  have hread : (splitLines (got ++ buffer)).1 = (taken ++ taken₁) ++ lines₁ := by
    rw [hsplit', List.append_assoc]
    exact congrArg (taken ++ ·) hlines₁
  have htext' : text es = (taken ++ taken₁) ++ ahead₁ := by rw [htext, hahead₁, List.append_assoc]
  refine ⟨_, done ++ done₁, ⟨_, by rw [Modem.read, hprocess]; exact hrespond⟩, ?_,
    fun n hn hn' hbytes => ?_⟩
  · refine ⟨⟨rest, hall.symm⟩, ?_, ?_, ?_, hcap, hrepr, taken ++ taken₁, ahead₁, hread, htext', ?_⟩
    · rw [List.map_append, h.log]
    · rw [List.length_append, h.callbacks, List.drop_drop]
    · have hle := h.length_le
      rw [List.length_append]
      omega
    · rwa [hall, List.drop_left]
  · by_contra hlt
    rw [not_le, List.length_append] at hlt
    -- there are requests left, so all lines have been taken
    obtain rfl : lines₁ = [] := hend.resolve_left fun hnil => by
      rw [List.drop_eq_nil_iff] at hnil
      omega
    rw [List.append_nil] at hread
    obtain ⟨e, rest, rfl⟩ : ∃ e rest', rest = e :: rest' := by
      cases rest with
      | nil =>
        rw [hall, List.append_nil, List.length_append] at hn
        omega
      | cons e rest => exact ⟨e, rest, rfl⟩
    have hfew := length_lt_of_ahead (by rw [← hall, htext']) hnext
    have hmany := length_text_le hwell hstream hbytes
    have hbegins : text (done ++ done₁ ++ [e]) <+: text (es.take n) := by
      have hfirst : done ++ done₁ ++ [e] <+: es.take n := by
        refine List.prefix_take_iff.2 ⟨⟨rest, ?_⟩, ?_⟩
        · rw [hall, List.append_assoc]
          rfl
        · rw [List.length_append, List.length_append, List.length_singleton]
          omega
      obtain ⟨others, hothers⟩ := hfirst
      rw [← hothers, text_append _ others]
      exact List.prefix_append _ _
    have hle := hbegins.length_le
    rw [hread] at hmany
    omega

end Steps

/-! ### The run -/

/-- A run whose reads meet it goes through. -/
theorem Stands.run {es : List Exchange} (hes : ∀ e ∈ es, e.WellFormed ∧ e.Handled) {ops : List Op} :
    ∀ {issued : List ResponseState} {got : List UInt8} {m : Modem} {done : List Exchange},
      Stands es issued got m done → issued ++ requests ops <+: es.map (·.state) →
      got ++ bytes ops <+: stream es → m.MeetsAlong ops →
      ∃ m' done', m.Run ops m' ∧ Stands es (issued ++ requests ops) (got ++ bytes ops) m' done' ∧
        ∀ front buffer, ops = front ++ [.read buffer] → ∀ n ≤ es.length,
          n ≤ (issued ++ requests ops).length →
          (stream (es.take n)).length ≤ (got ++ bytes ops).length → n ≤ m'.log.length := by
  induction ops with
  | nil =>
    intro issued got m done h _ _ _
    refine ⟨m, done, rfl, ?_, fun front buffer heq => absurd heq (by simp)⟩
    simpa [requests, bytes] using h
  | cons op ops ih =>
    intro issued got m done h hrequests hbytes hmeets
    obtain ⟨hmeet, hnext⟩ := hmeets
    cases op with
    | request state =>
      have hmove : issued ++ requests (.request state :: ops) =
          (issued ++ [state]) ++ requests ops := by rw [List.append_assoc]; rfl
      rw [hmove] at hrequests ⊢
      obtain ⟨m', done', hrun, hstands, hcomplete⟩ :=
        ih (h.request state) hrequests hbytes (hnext _ rfl)
      refine ⟨m', done', ⟨_, rfl, hrun⟩, hstands, fun front buffer heq => ?_⟩
      cases front with
      | nil => cases heq
      | cons op front => exact hcomplete front buffer (List.cons.inj heq).2
    | read buffer =>
      have hmove : got ++ bytes (.read buffer :: ops) = (got ++ buffer) ++ bytes ops := by
        rw [List.append_assoc]
        rfl
      rw [hmove] at hbytes ⊢
      obtain ⟨m₁, done₁, hstep, hstands₁, hcomplete₁⟩ := h.read hes
        ((List.prefix_append _ _).trans hrequests) ((List.prefix_append _ _).trans hbytes) hmeet
      obtain ⟨m', done', hrun, hstands, hcomplete⟩ :=
        ih hstands₁ hrequests hbytes (hnext _ hstep)
      refine ⟨m', done', ⟨m₁, hstep, hrun⟩, hstands, fun front buffer' heq => ?_⟩
      cases front with
      | nil =>
        obtain rfl := (List.cons.inj heq).2
        obtain rfl : m' = m₁ := hrun
        rw [hstands₁.log, List.length_map]
        simpa [requests, bytes] using hcomplete₁
      | cons op front => exact hcomplete front buffer' (List.cons.inj heq).2

theorem stands_new (memory : ℕ → UInt8) (es : List Exchange) :
    Stands es [] [] (.new memory) [] :=
  ⟨List.nil_prefix, rfl, rfl, le_rfl, rfl, Helper.repr_new memory (by decide) (by decide),
    [], text es, rfl, rfl, [], rfl, fun _ _ => List.nil_prefix⟩

theorem MeetsAlong.begin {m : Modem} {front back : List Op} (h : m.MeetsAlong (front ++ back)) :
    m.MeetsAlong front := by
  induction front generalizing m with
  | nil => trivial
  | cons op front ih => exact ⟨h.1, fun m₁ hstep => ih (h.2 m₁ hstep)⟩

theorem requests_append (ops ops' : List Op) :
    requests (ops ++ ops') = requests ops ++ requests ops' := by
  induction ops with
  | nil => rfl
  | cons op ops ih => cases op <;> simp [requests, ih]

theorem bytes_append (ops ops' : List Op) : bytes (ops ++ ops') = bytes ops ++ bytes ops' := by
  induction ops with
  | nil => rfl
  | cons op ops ih => cases op <;> simp [bytes, ih]

/-- **In every run whose reads meet it**, every call of the input returns, and every request is
given the lines of its own response. -/
theorem answers (memory : ℕ → UInt8) {es : List Exchange}
    (hes : ∀ e ∈ es, e.WellFormed) (hhandled : ∀ e ∈ es, e.Handled) {ops : List Op}
    (hrequests : requests ops <+: es.map (·.state)) (hbytes : bytes ops <+: stream es)
    (hmeets : (Modem.new memory).MeetsAlong ops) :
    ∀ front back, ops = front ++ back → Answered memory es front := by
  rintro front back rfl
  rw [requests_append] at hrequests
  rw [bytes_append] at hbytes
  obtain ⟨m, done, hrun, hstands, hcomplete⟩ := (stands_new memory es).run
    (fun e he => ⟨hes e he, hhandled e he⟩) ((List.prefix_append _ _).trans hrequests)
    ((List.prefix_append _ _).trans hbytes) (MeetsAlong.begin hmeets)
  refine ⟨m, hrun, ⟨done.length, ?_⟩, hcomplete⟩
  rw [← List.prefix_iff_eq_take.1 hstands.begins, hstands.log]

/-! ### An answer that comes whole, and one that does not -/

/-- What the modem sends for `AT+CIMI`, behind a line of its own. -/
def cimiExchange : Exchange where
  state := getCimi
    (fun line => if line = ascii "310150123456789" then some 310150123456789 else none) 0
  unsolicited := [ascii "RING"]
  response := [ascii "310150123456789", [], ascii "OK"]

theorem wellFormed_cimiExchange : cimiExchange.WellFormed :=
  ⟨by decide +kernel, by decide +kernel⟩

/-- The response comes in one piece. -/
theorem answers_cimiExchange : Answered (fun _ => 0) [cimiExchange]
    [.request cimiExchange.state, .read (stream [cimiExchange])] := by
  refine answers (fun _ => 0) (by simpa using wellFormed_cimiExchange)
    (by simpa using ⟨isQuery_getCimi _ _, rfl⟩) ?_ ?_ ?_ _ [] (List.append_nil _).symm
  · exact List.prefix_rfl
  · simp [bytes]
  · refine ⟨trivial, ?_⟩
    rintro m₁ rfl
    refine ⟨?_, fun _ _ => trivial⟩
    have hempty : contents ((Modem.new fun _ => 0).request cimiExchange.state).mParser.helper =
        [] := contents_eq (Helper.repr_new _ (by decide) (by decide))
    rw [Modem.Meets, hempty]
    refine ⟨by decide +kernel, by decide +kernel, by decide +kernel, ?_⟩
    intro state hstate front back hlines hnot
    obtain rfl := Option.some.inj hstate
    have htext : [] ++ (splitLines ([] ++ stream [cimiExchange])).1 = text [cimiExchange] := by
      decide +kernel
    replace hlines := htext.symm.trans hlines
    rcases front with _ | ⟨a, _ | ⟨b, front⟩⟩
    · exact absurd (List.cons.inj hlines).1 (by decide +kernel)
    · obtain ⟨-, hlines⟩ := List.cons.inj hlines
      rw [← (List.cons.inj hlines).2]
      rfl
    · obtain ⟨-, hlines⟩ := List.cons.inj hlines
      rw [← (List.cons.inj hlines).1] at hnot
      exact absurd (List.mem_cons_of_mem _ List.mem_cons_self) hnot

/-- **A read that ends behind the echo**: the call of the input does not return. -/
theorem not_answers_cimiExchange :
    ¬Answered (fun _ => 0) [cimiExchange]
      [.request cimiExchange.state, .read ((stream [cimiExchange]).take 16)] := by
  rintro ⟨m, ⟨m₁, rfl, m₂, ⟨fuel, hread⟩, -⟩, -⟩
  have hnew : Repr (Helper.Parser.new (fun _ => 0) parserBufferSize) [] :=
    Helper.repr_new _ (by decide) (by decide)
  have hrepr : Repr ((Helper.Parser.new (fun _ => 0) parserBufferSize).append
      ((stream [cimiExchange]).take 16)).1 ([] ++ (stream [cimiExchange]).take 16) :=
    (hnew.append_fits (by decide +kernel)).2
  obtain ⟨helper, hprocess, -⟩ := processLoop_spec (p := ⟨_, []⟩) hrepr
    (le_of_eq hrepr.bufferLength.symm) (by decide +kernel) (by decide +kernel)
  have hlines : [] ++ (splitLines ([] ++ (stream [cimiExchange]).take 16)).1 =
      [ascii "RING", cimiExchange.state.echo] := by decide +kernel
  rw [hlines] at hprocess
  have hstuck : Modem.read fuel ((Modem.new fun _ => 0).request cimiExchange.state)
      ((stream [cimiExchange]).take 16) = none := by
    rw [Modem.read]
    have hparser : (((Modem.new fun _ => 0).request cimiExchange.state).mParser.append
      ((stream [cimiExchange]).take 16)).process = _ := hprocess
    rw [hparser]
    cases fuel with
    | zero => rfl
    | succ fuel =>
      rw [Modem.respond_skip rfl rfl (by decide +kernel)]
      exact Modem.respond_stuck rfl (isQuery_getCimi _ _) rfl (by decide) fuel
  rw [hstuck] at hread
  cases hread

end SuplLpp.At
