/-
Which responses are too large.

* **Delivered** — a response has come as a whole, without an error and before any timeout.
* `awaitHead_delivered`, `readBody_delivered` — how far such a response is read.
* **Measured** — whether the length in a head tells where the body ends. **Framed** says that a body
  goes with its head.
* `refused_iff` — a response is refused exactly if its body is larger than the limit or the length
  in its head is, and is returned as it came if not. So the body alone decides unless the head gives
  a length above the limit that is not that of the body.

The length in the head is looked at before anything is read. Whether it tells anything about the
body depends on the method of the request, the status and the coding, and none of them is asked for.
-/
import HttpGateway.Proofs.Forward.Deadlines
import HttpGateway.Proofs.Forward.Outbound
import HttpGateway.Proofs.Net.Address
import HttpGateway.Simulation.Reply

namespace HttpGateway.Forward

open Http Net Outbound Text

/-- A response that has come as a whole by some time, without an error and before any timeout. The
connection has asked for the body of the request or let it go before the write timeout, unless the
head came before that; no pause is as long as the idle timeout; and the end comes before the
response timeout. -/
structure Delivered (x : Terms) (events : Happenings) (r : Response) (t : Instant) : Prop where
  ordered : events.Pairwise (·.1 ≤ ·.1)
  whole : ∃ first times rest, Arriving events r (first :: times) ((t, .finished) :: rest) ∧
    (x.timeouts.write ≤ first → ∃ e ∈ events, e.1 < x.timeouts.write ∧ e.2.Handles) ∧
    (first :: times ++ [t]).IsChain fun u v => v < u + x.timeouts.idle
  inTime : t < x.timeouts.response

variable {x : Terms} {events before during rest : Happenings} {r : Response}
  {first since due t : Instant} {h : Happening} {b : TrackedBody} {status : Status}
  {fields : Fields} {body bytes : ByteArray}

/-! ### Up to the head -/

/-- What comes no later than a head that is in time is in time itself, if the body of the request is
not left alone for too long. -/
theorem not_headLimit_lt {signal : WriteSignal} (hdue : due ≤ first)
    (hfirst : first < x.timeouts.response)
    (hwrite : signal = .waiting → x.timeouts.write ≤ first → due < x.timeouts.write) :
    ¬ (x.headLimit signal).1 < due := by
  unfold Terms.headLimit
  split
  next hcond =>
    intro hlate
    exact absurd (hwrite hcond.1 (Nat.le_trans (Nat.le_of_lt hlate) hdue)) (Nat.lt_asymm hlate)
  next => exact Nat.not_lt_of_le (Nat.le_trans hdue (Nat.le_of_lt hfirst))

/-- A head that comes in time is reached. -/
theorem awaitHead_delivered (hanswers : ∀ e ∈ before, ¬ e.2.Answers)
    (hordered : (before ++ (first, .head status fields) :: rest).Pairwise (·.1 ≤ ·.1))
    (hfirst : first < x.timeouts.response)
    (hwrite : b.signal = .waiting → x.timeouts.write ≤ first →
      ∃ e ∈ before, e.1 < x.timeouts.write ∧ e.2.Handles) :
    awaitHead x b.signal (noticed b (before ++ (first, .head status fields) :: rest))
      = if x.mostBytes < (declaredLength? fields).getD 0 then ⟨.error x.tooLarge, first⟩
        else readBody x status fields emptyBody first (noticed (bodyAfterAll b before) rest) := by
  induction before generalizing b with
  | nil =>
    have htime : ¬ (x.headLimit b.signal).1 < first := by
      refine not_headLimit_lt (Nat.le_refl _) hfirst fun hwaiting hle => ?_
      obtain ⟨e, he, -⟩ := hwrite hwaiting hle
      exact absurd he List.not_mem_nil
    rw [List.nil_append, noticed_arrival id rfl, awaitHead, if_neg htime]
    rfl
  | cons e before ih =>
    obtain ⟨due, h⟩ := e
    obtain ⟨hno, hanswers⟩ := List.forall_mem_cons.mp hanswers
    obtain ⟨hlater, hordered⟩ := List.pairwise_cons.mp hordered
    have hdue : due ≤ first := hlater (first, .head status fields) (by simp)
    have htime : ¬ (x.headLimit b.signal).1 < due := by
      refine not_headLimit_lt hdue hfirst fun hwaiting hle => ?_
      -- This is what is done to the body of the request early enough, or that is still to come.
      obtain ⟨e, he, hearly, -⟩ := hwrite hwaiting hle
      rcases List.mem_cons.mp he with rfl | he
      · exact hearly
      · exact Nat.lt_of_le_of_lt (hlater e (List.mem_append_left _ he)) hearly
    by_cases hh : h.Handles
    · -- From here on the signal of the body is given.
      rw [List.cons_append, awaitHead_handled x hh, if_neg fun hlate => htime hlate.2,
        ih hanswers hordered fun hwaiting => absurd hwaiting (signal_given hh)]
      rfl
    · have hwrite' : b.signal = .waiting → x.timeouts.write ≤ first →
          ∃ e ∈ before, e.1 < x.timeouts.write ∧ e.2.Handles := by
        intro hwaiting hle
        obtain ⟨e, he, hearly, hhandles⟩ := hwrite hwaiting hle
        rcases List.mem_cons.mp he with rfl | he
        · exact absurd hhandles hh
        · exact ⟨e, he, hearly, hhandles⟩
      have hnext := ih hanswers hordered hwrite'
      cases h with
      | asked | letGo => exact absurd trivial hh
      | head | broken => exact absurd trivial hno
      | piece | finished =>
        rw [List.cons_append, noticed_arrival id rfl, awaitHead, if_neg htime]
        exact hnext

/-! ### The body -/

theorem size_le_foldl (pieces : List (Instant × ByteArray)) (body : ByteArray) :
    body.size ≤ (pieces.foldl (fun body piece => body ++ piece.2) body).size := by
  induction pieces generalizing body with
  | nil => exact Nat.le_refl _
  | cons p pieces ih =>
    calc body.size ≤ (body ++ p.2).size := by rw [ByteArray.size_append]; exact Nat.le_add_right ..
      _ ≤ _ := ih (body ++ p.2)

/-- What comes no later than the next frame is in time if that is. -/
theorem not_bodyLimit_lt {times : List Instant} (hne : times ≠ [])
    (hpauses : (since :: times).IsChain fun u v => v < u + x.timeouts.idle)
    (hafter : ∀ v ∈ times, due ≤ v ∧ v < x.timeouts.response) :
    ¬ (x.bodyLimit since).1 < due := by
  obtain ⟨v, times, rfl⟩ := List.exists_cons_of_ne_nil hne
  have hpause : v < since + x.timeouts.idle := (List.isChain_cons_cons.mp hpauses).1
  obtain ⟨hdue, htime⟩ := hafter v List.mem_cons_self
  unfold Terms.bodyLimit
  split
  · exact Nat.not_lt_of_le (Nat.le_trans hdue (Nat.le_of_lt hpause))
  · exact Nat.not_lt_of_le (Nat.le_trans hdue (Nat.le_of_lt htime))

/-- The body of a response that comes in time is read to its end if it fits in, and is too large if
not. -/
theorem readBody_delivered (status : Status) (fields : Fields) (b : TrackedBody)
    (hends : ∀ e ∈ during, ¬ e.2.Ends)
    (hordered : (during ++ (t, .finished) :: rest).Pairwise (·.1 ≤ ·.1))
    (hpauses : (since :: ((pieces during).map (·.1) ++ [t])).IsChain
      fun u v => v < u + x.timeouts.idle)
    (htime : t < x.timeouts.response) (hfits : body.size ≤ x.mostBytes) :
    let whole := (pieces during).foldl (fun body piece => body ++ piece.2) body
    let e := readBody x status fields body since (noticed b (during ++ (t, .finished) :: rest))
    (x.mostBytes < whole.size → e.outcome = .error x.tooLarge) ∧
      (whole.size ≤ x.mostBytes → e = ⟨.ok ⟨status, fields, whole⟩, t⟩) := by
  induction during generalizing b body since with
  | nil =>
    have hintime : ¬ (x.bodyLimit since).1 < t :=
      not_bodyLimit_lt (List.cons_ne_nil t []) hpauses
        (List.forall_mem_singleton.mpr ⟨Nat.le_refl t, htime⟩)
    rw [List.nil_append, noticed_arrival id rfl, readBody, if_neg hintime]
    exact ⟨fun hlarge => absurd hlarge (Nat.not_lt_of_le hfits), fun _ => rfl⟩
  | cons e during ih =>
    obtain ⟨due, h⟩ := e
    obtain ⟨hno, hends'⟩ := List.forall_mem_cons.mp hends
    obtain ⟨hlater, hordered'⟩ := List.pairwise_cons.mp hordered
    -- No frame to come is earlier than this, and the first of them ends the pause in time.
    have hintime : ¬ (x.bodyLimit since).1 < due := by
      refine not_bodyLimit_lt (by simp) hpauses fun v hv => ?_
      rcases List.mem_append.mp hv with hv | hv
      · obtain ⟨e, he, rfl⟩ := mem_of_mem_pieces hv
        have hend : e.1 ≤ t :=
          (List.pairwise_append.mp hordered).2.2 e he (t, .finished) List.mem_cons_self
        refine ⟨?_, Nat.lt_of_le_of_lt hend htime⟩
        rcases List.mem_cons.mp he with rfl | he
        · exact Nat.le_refl _
        · exact hlater e (List.mem_append_left _ he)
      · rw [List.mem_singleton.mp hv]
        exact ⟨hlater (t, .finished) (by simp), htime⟩
    by_cases hh : h.Handles
    · have hpieces : pieces ((due, h) :: during) = pieces during := by
        cases h with
        | asked | letGo => rfl
        | _ => exact hh.elim
      rw [hpieces] at hpauses ⊢
      rcases readBody_handled x status fields body since b due (during ++ (t, .finished) :: rest) hh
        with heq | ⟨hlate, -⟩
      · rw [List.cons_append, heq]
        exact ih _ hends' hordered' hpauses hfits
      · exact absurd hlate hintime
    cases h with
    | asked | letGo => exact absurd trivial hh
    | head =>
      rw [List.cons_append, noticed_arrival id rfl, readBody, if_neg hintime]
      exact ih _ hends' hordered' hpauses hfits
    | piece bytes =>
      rw [List.cons_append, noticed_arrival id rfl, readBody, if_neg hintime]
      by_cases hlarge : x.mostBytes < body.size + bytes.size
      · rw [if_pos hlarge]
        rw [← ByteArray.size_append] at hlarge
        have hwhole := Nat.lt_of_lt_of_le hlarge (size_le_foldl (pieces during) (body ++ bytes))
        exact ⟨fun _ => rfl, fun hle => absurd hwhole (Nat.not_lt_of_le hle)⟩
      · rw [if_neg hlarge]
        refine ih _ hends' hordered' (List.isChain_cons_cons.mp hpauses).2 ?_
        rw [ByteArray.size_append]
        exact Nat.le_of_not_lt hlarge
    | finished | broken => exact absurd trivial hno

/-! ### The length in the head -/

/-- No digit is white space. -/
theorem isBlank_of_digit {c : Char} (hdigit : (digitIn? 10 c).isSome = true) :
    isBlank c = false := by
  have hrange : '0' ≤ c ∧ c ≤ '9' := by
    unfold digitIn? at hdigit
    split_ifs at hdigit with hfigure hlower hupper
    · exact hfigure
    · -- Letters count from ten.
      simp only [Option.filter_some, Option.isSome_ite, decide_eq_true_eq] at hdigit
      omega
    · simp only [Option.filter_some, Option.isSome_ite, decide_eq_true_eq] at hdigit
      omega
    · cases hdigit
  have hlow : 48 ≤ c.toNat := UInt32.le_iff_toNat_le.mp hrange.1
  have hhigh : c.toNat ≤ 57 := UInt32.le_iff_toNat_le.mp hrange.2
  exact isBlank_of_visible (by omega) (by omega)

/-- Whether a body ends where the length in its head says, if there is one. A coding is told apart
from its contents, and the length of those does not count. -/
def Measured (method : String) (r : Response) : Prop :=
  ¬ Bodiless method r.status ∧ r.fields.contains "transfer-encoding" = false

instance (method : String) (r : Response) : Decidable (Measured method r) :=
  inferInstanceAs (Decidable (_ ∧ _))

/-- A line that gives a length in digits, once or several times. -/
def Gives (line : FieldValue) (n : Nat) : Prop :=
  ∃ s, line.text? = some s ∧ ∀ entry ∈ commaEntries s,
    '+' ∉ entry.toList ∧ unsigned? (Nat.pow 2 64) entry.toList = some n

/-- A response whose body goes with its head: there is none where there must be none, and where the
length in the head counts it is that of the body. -/
structure Framed (method : String) (r : Response) : Prop where
  bodiless : Bodiless method r.status → r.body.size = 0
  measured : Measured method r → ∀ line ∈ r.fields.getAll "content-length", Gives line r.body.size

/-- A text that is a number is the only one of its entries. -/
theorem commaEntries_of_unsigned? {bound n : Nat} {s : String}
    (hs : unsigned? bound s.toList = some n) : commaEntries s = [s] := by
  have hchars : ∀ c ∈ s.toList, c = '+' ∨ (digitIn? 10 c).isSome = true := by
    intro c hc
    by_contra hother
    obtain ⟨hplus, hdigit⟩ := not_or.mp hother
    rw [unsigned?_eq_none hc (by simpa using hdigit) hplus] at hs
    cases hs
  have hcomma : ',' ∉ s.toList := fun hc => absurd (hchars _ hc) (by decide)
  have hblank : ∀ c ∈ s.toList, isBlank c = false := fun c hc =>
    (hchars c hc).elim (fun hplus => hplus ▸ rfl) isBlank_of_digit
  have htrim : trim s.toList = s.toList :=
    trim_append (t := []) (by simp) hblank
  rw [commaEntries, List.splitOn_eq_singleton hcomma, List.map_singleton, htrim,
    String.ofList_toList]

/-- Where all lines give one length, no other one is read. -/
theorem declaredLength?_of_gives {n m : Nat}
    (hlines : ∀ line ∈ fields.getAll "content-length", Gives line n)
    (hread : declaredLength? fields = some m) : m = n := by
  obtain ⟨s, htext, hnumber⟩ := Option.bind_eq_some_iff.mp hread
  obtain ⟨line, hline, hs⟩ := Option.bind_eq_some_iff.mp htext
  obtain ⟨s', hs', hentries⟩ := hlines line (List.mem_of_mem_head? hline)
  obtain rfl : s = s' := Option.some.inj (hs.symm.trans hs')
  rw [commaEntries_of_unsigned? hnumber] at hentries
  obtain ⟨-, hentry⟩ := List.forall_mem_singleton.mp hentries
  exact Option.some.inj (hnumber.symm.trans hentry)

/-- Where the length in the head counts, it is not larger than the body. -/
theorem Framed.declared_le {method : String} (hframed : Framed method r)
    (hmeasured : Measured method r) : (declaredLength? r.fields).getD 0 ≤ r.body.size := by
  cases hread : declaredLength? r.fields with
  | none => exact Nat.zero_le _
  | some m => exact Nat.le_of_eq (declaredLength?_of_gives (hframed.measured hmeasured) hread)

/-- A response that comes as a whole is refused, or it is returned as it came. -/
theorem exchange_delivered (hway : Delivered x events r t) (bytes : ByteArray) :
    let e := exchange x (noticed (.ofBytes bytes) events)
    (x.mostBytes < (declaredLength? r.fields).getD 0 ∨ x.mostBytes < r.body.size →
      e.outcome = .error x.tooLarge) ∧
    ((declaredLength? r.fields).getD 0 ≤ x.mostBytes → r.body.size ≤ x.mostBytes →
      e = ⟨.ok r, t⟩) := by
  obtain ⟨first, times, rest, ⟨before, _, during, rfl, hanswers, hends, htimes, hbody⟩, hwrite,
    hpauses⟩ := hway.whole
  obtain ⟨rfl, rfl⟩ := List.cons.inj htimes
  obtain ⟨-, hordered, -⟩ := List.pairwise_append.mp hway.ordered
  obtain ⟨hafter, hordered⟩ := List.pairwise_cons.mp hordered
  have hfirst : first < x.timeouts.response :=
    Nat.lt_of_le_of_lt (hafter (t, .finished) (by simp)) hway.inTime
  -- What is done to the body of the request early enough is done before the head comes.
  have hwrite' : x.timeouts.write ≤ first →
      ∃ e ∈ before, e.1 < x.timeouts.write ∧ e.2.Handles := by
    intro hle
    obtain ⟨e, he, hearly, hhandles⟩ := hwrite hle
    exact ⟨e, mem_before_of_lt hway.ordered he (Nat.lt_of_lt_of_le hearly hle), hearly, hhandles⟩
  have hhead : exchange x (noticed (.ofBytes bytes)
      (before ++ (first, .head r.status r.fields) :: (during ++ (t, .finished) :: rest))) = _ :=
    awaitHead_delivered (b := .ofBytes bytes) hanswers hway.ordered hfirst fun _ => hwrite'
  have hnone : emptyBody.size ≤ x.mostBytes := Nat.zero_le x.mostBytes
  have hread := readBody_delivered r.status r.fields (bodyAfterAll (.ofBytes bytes) before) hends
    hordered hpauses hway.inTime hnone
  rw [← hbody] at hread
  obtain ⟨hlarge, hfits⟩ := hread
  rw [hhead]
  by_cases hdeclared : x.mostBytes < (declaredLength? r.fields).getD 0
  · rw [if_pos hdeclared]
    exact ⟨fun _ => rfl, fun hle => absurd hdeclared (Nat.not_lt_of_le hle)⟩
  · rw [if_neg hdeclared]
    exact ⟨fun h => hlarge (h.resolve_left hdeclared), fun _ => hfits⟩

/-- **When a response is refused for its size.** Of the responses that come as a whole those are
refused whose body is larger than the limit, and those whose head gives a length larger than that;
any other is returned as it came, with all pieces of its body in their order. So what is refused are
the bodies above the limit, and nothing else, unless the head gives a length above the limit to a
body that is within it. Where the length in the head counts for the body, that does not happen,
whatever the method of the request. -/
theorem refused_iff (hway : Delivered x events r t) (bytes : ByteArray) :
    let e := exchange x (noticed (.ofBytes bytes) events)
    let declared := (declaredLength? r.fields).getD 0
    (e.outcome = .error x.tooLarge ↔ x.mostBytes < declared ∨ x.mostBytes < r.body.size) ∧
    (e.outcome ≠ .error x.tooLarge → e = ⟨.ok r, t⟩) ∧
    ((e.outcome = .error x.tooLarge ↔ x.mostBytes < r.body.size)
      ↔ ¬ (x.mostBytes < declared ∧ r.body.size ≤ x.mostBytes)) ∧
    ∀ method, Framed method r → Measured method r →
      (e.outcome = .error x.tooLarge ↔ x.mostBytes < r.body.size) := by
  intro e declared
  obtain ⟨hlarge, hfits⟩ := exchange_delivered hway bytes
  have hreturned : ¬ (x.mostBytes < declared ∨ x.mostBytes < r.body.size) → e = ⟨.ok r, t⟩ := by
    intro h
    obtain ⟨hdeclared, hsize⟩ := not_or.mp h
    exact hfits (Nat.le_of_not_lt hdeclared) (Nat.le_of_not_lt hsize)
  have hrefused : e.outcome = .error x.tooLarge
      ↔ x.mostBytes < declared ∨ x.mostBytes < r.body.size := by
    refine ⟨fun herror => ?_, hlarge⟩
    by_contra h
    rw [hreturned h] at herror
    cases herror
  refine ⟨hrefused, fun h => hreturned fun hlarge => h (hrefused.mpr hlarge), ?_, ?_⟩
  · rw [hrefused]
    omega
  · intro method hframed hmeasured
    have hdeclared : declared ≤ r.body.size := hframed.declared_le hmeasured
    rw [hrefused]
    omega

/-- A body of ten bytes in two pieces, with trailers between them and the end, is returned if the
limit is ten bytes and refused if it is nine. -/
theorem refused_iff_ten_bytes :
    let x (limit : Nat) : Terms := ⟨⟨10, 100, 1000, 50⟩, limit, "127.0.0.1:9000"⟩
    let r : Response := ⟨.ok, ⟨[("content-length", utf8 "10".toList)]⟩, "helloworld".toUTF8⟩
    let events : Happenings := [(5, .asked), (200, .head r.status r.fields),
      (210, .piece "hello".toUTF8), (240, .piece "world".toUTF8), (245, .piece emptyBody),
      (245, .finished)]
    (∀ limit, Delivered (x limit) events r 245) ∧ Framed "GET" r ∧ Measured "GET" r ∧
      exchange (x 10) (noticed (.ofBytes emptyBody) events) = ⟨.ok r, 245⟩ ∧
      (exchange (x 9) (noticed (.ofBytes emptyBody) events)).outcome
        = .error (.responseTooLarge "127.0.0.1:9000" 9) := by
  intro x r events
  have hway : ∀ limit, Delivered (x limit) events r 245 := fun limit => {
    ordered := by decide
    whole := ⟨200, [210, 240, 245], [], ⟨[(5, .asked)], 200,
      [(210, .piece "hello".toUTF8), (240, .piece "world".toUTF8), (245, .piece emptyBody)], rfl,
      by simp [Happening.Answers], by simp [Happening.Ends], rfl, by decide⟩,
      fun _ => ⟨(5, .asked), by simp [events], (by decide : 5 < 100), trivial⟩,
      (by decide : [200, 210, 240, 245, 245].IsChain fun u v => v < u + 50)⟩
    inTime := (by decide : 245 < 1000) }
  have hframed : Framed "GET" r := {
    bodiless := fun hnone => absurd hnone (by decide)
    measured := fun _ => List.forall_mem_singleton.mpr ⟨"10", by decide, by decide⟩ }
  have hmeasured : Measured "GET" r := by decide
  obtain ⟨-, hreturned, -, hten⟩ := refused_iff (hway 10) emptyBody
  obtain ⟨-, -, -, hnine⟩ := refused_iff (hway 9) emptyBody
  refine ⟨hway, hframed, hmeasured, hreturned fun hrefused => ?_, ?_⟩
  · exact absurd ((hten "GET" hframed hmeasured).mp hrefused) (by decide)
  · exact (hnine "GET" hframed hmeasured).mpr (by decide)

/-- An answer to `HEAD` that gives a length above the limit has no body, and it is refused. So is
one that says that nothing was modified, and one in chunks with a length that does not count. -/
theorem refused_without_body :
    let x : Terms := ⟨⟨10, 100, 1000, 50⟩, 4, "127.0.0.1:9000"⟩
    let length : String × FieldValue := ("content-length", utf8 "5".toList)
    let empty (s : Status) : Response := ⟨s, ⟨[length]⟩, emptyBody⟩
    let comes (s : Status) : Happenings :=
      [(0, .letGo), (10, .head s ⟨[length]⟩), (10, .finished)]
    let chunked : Response :=
      ⟨.ok, ⟨[length, ("transfer-encoding", utf8 "chunked".toList)]⟩, "ok".toUTF8⟩
    let inChunks : Happenings := [(0, .letGo), (10, .head .ok chunked.fields),
      (10, .piece chunked.body), (10, .finished)]
    (∀ s, Delivered x (comes s) (empty s) 10 ∧ Framed "HEAD" (empty s) ∧
      (exchange x (noticed (.ofBytes emptyBody) (comes s))).outcome = .error x.tooLarge) ∧
    Framed "GET" (empty ⟨304, by decide⟩) ∧
    (Delivered x inChunks chunked 10 ∧ Framed "GET" chunked ∧ chunked.body.size = 2 ∧
      (exchange x (noticed (.ofBytes emptyBody) inChunks)).outcome = .error x.tooLarge) ∧
    noticed (.ofBytes emptyBody) (comes .ok)
      = ({ delay := 10, declared := some 5 } : Simulation.Reply).schedule "HEAD" ∧
    ¬ ∀ (method : String) (x : Terms) events r t bytes, Delivered x events r t → Framed method r →
      ((exchange x (noticed (.ofBytes bytes) events)).outcome = .error x.tooLarge
        ↔ x.mostBytes < r.body.size) := by
  intro x length empty comes chunked inChunks
  have hempty : ∀ s, Delivered x (comes s) (empty s) 10 := fun s => {
    ordered := by simp [comes]
    whole := ⟨10, [], [], ⟨[(0, .letGo)], 10, [], rfl, by simp [Happening.Answers], by simp, rfl,
      rfl⟩, fun hle => absurd hle (by decide), (by decide : [10, 10].IsChain fun u v => v < u + 50)⟩
    inTime := by decide }
  have hchunked : Delivered x inChunks chunked 10 := {
    ordered := by decide
    whole := ⟨10, [10], [], ⟨[(0, .letGo)], 10, [(10, .piece chunked.body)], rfl,
      by simp [Happening.Answers], by simp [Happening.Ends], rfl, by decide⟩,
      fun hle => absurd hle (by decide), by decide⟩
    inTime := by decide }
  have hhead : ∀ s, Framed "HEAD" (empty s) := fun s =>
    ⟨fun _ => rfl, fun hmeasured => absurd (.inl rfl) hmeasured.1⟩
  have hrefused : ∀ s, (exchange x (noticed (.ofBytes emptyBody) (comes s))).outcome
      = .error x.tooLarge := fun s =>
    (exchange_delivered (hempty s) emptyBody).1
      (.inl (by decide : 4 < (declaredLength? ⟨[length]⟩).getD 0))
  refine ⟨fun s => ⟨hempty s, hhead s, hrefused s⟩, ?_, ⟨hchunked, ?_, by decide, ?_⟩, ?_, ?_⟩
  · exact ⟨fun _ => rfl, fun hmeasured => absurd (by decide) hmeasured.1⟩
  · exact ⟨fun hnone => absurd hnone (by decide), fun hmeasured => absurd hmeasured.2 (by decide)⟩
  · exact (exchange_delivered hchunked emptyBody).1 (.inl (by decide))
  · decide
  · intro hall
    have hsize := (hall "HEAD" x (comes .ok) (empty .ok) 10 emptyBody (hempty .ok)
      (hhead .ok)).mp (hrefused .ok)
    exact absurd hsize (by decide)

end HttpGateway.Forward
