/-
How many calls a rate limit lets through.

* `take_whole` — under limits that are whole numbers, and at whole seconds, a bucket holds a whole
  number of tokens, and the floating-point arithmetic is that of whole numbers.
* **Level** — what the tokens in a bucket have to do with the calls that were let through: from no
  second on more of them than the limits allow, less these tokens, and from some second on just as
  many.
* **Stock** — a bucket of a client with such a level, or none as long as the client has not come.
* `Stock.step`, `Stock.run` — every call keeps it, and so does a sequence of calls.
* `allowance` — so a call is turned away exactly when as many as the limits allow have been let
  through, and it leaves nothing behind.

The second from which on the calls make up what is allowed is the one in which the bucket was full
for the last time.
-/
import HttpGateway.Proofs.Filter.Clients
import HttpGateway.Proofs.Keyed
import HttpGateway.Proofs.Number.Numeral
import Mathlib.Data.Finset.Order

namespace HttpGateway.Filter

open Http Number Request

variable {rate burst last now n s t : Nat} {start : Instant}

/-! ### A bucket of whole tokens -/

/-- Limits that are whole numbers. -/
def Limits.whole (rate burst : Nat) : Limits := ⟨.finite rate, .finite burst⟩

theorem positive?_decimal {args : Args} {name : String} (hpos : 1 ≤ n) (hn : n < 2 ^ 53)
    (h : argument? args name = some (String.ofList (Text.decimal n))) :
    positive? args name = some (.finite n) := by
  have htrim : Text.trim (Text.decimal n) = Text.decimal n := by
    have hdigits := fun c hc => (Text.digit_of_mem_decimal (n := n) (c := c) hc).2.1
    simpa using Text.trim_append (t := []) (by simp) hdigits
  have hlt : Floating.lt (.finite 0) (.finite n) = true := by
    simpa [Floating.lt, Floating.le, Floating.value] using Nat.ne_of_gt hpos
  rw [positive?, h, Option.bind_some, String.toList_ofList, htrim, readDecimal?_decimal hn,
    Option.filter_some, if_pos hlt]

/-- Whole numbers are set as limits by their digits. -/
theorem limits_decimal (hrate : 1 ≤ rate) (hrate' : rate < 2 ^ 53) (hburst : 1 ≤ burst)
    (hburst' : burst < 2 ^ 53) :
    limits [("requests_per_second", String.ofList (Text.decimal rate)),
      ("burst", String.ofList (Text.decimal burst))] = .whole rate burst := by
  have hle : (1 : Rat) ≤ burst := by exact_mod_cast hburst
  have hone : (Floating.finite burst).maxNum .one = .finite burst := by
    simp [Floating.maxNum, Floating.one, Floating.le, Floating.value, hle]
  rw [limits, positive?_decimal hrate hrate' rfl, positive?_decimal hburst hburst' rfl]
  simp only [Option.getD_some, hone, Limits.whole]

theorem shows_secondsOf (s : Nat) : (secondsOf (.ofSecs s)).Shows s := by
  have hwhole : Instant.ofSecs s / 1000000 = s := Nat.mul_div_cancel s (by decide)
  have hrest : Instant.ofSecs s % 1000000 = 0 := Nat.mul_mod_left s 1000000
  have hfraction :
      (Floating.ofNat .double 0).div .double (.ofNat .double 1000000000) = .finite 0 := by
    decide +kernel
  have hsum := (shows_round s).add (.exact (by decide : 0 < 2 ^ 53))
  rw [secondsOf, hwhole, hrest, Nat.zero_mul, hfraction]
  exact hsum

/-- The tokens that are added while no one comes are whole, and exact as far as they count. -/
theorem refilled_whole (start : Instant) (last now : Nat) (hrate : 1 ≤ rate) (hn : n ≤ burst)
    (hburst : burst < 2 ^ 53) :
    TokenBucket.refilled ⟨.finite n, start + .ofSecs last⟩ (.finite burst) (.finite rate)
        (start + .ofSecs now)
      = .finite (min (n + rate * (now - last)) burst : Nat) := by
  have hspan : start + .ofSecs now - (start + .ofSecs last) = Instant.ofSecs (now - last) := by
    rw [Nat.add_sub_add_left]
    exact (Nat.sub_mul ..).symm
  have hsum := Floating.Shows.add (.exact (hn.trans_lt hburst))
    ((shows_secondsOf (now - last)).mul hrate)
  rw [TokenBucket.refilled, hspan, hsum.minNum hburst, Nat.mul_comm]

theorem take_whole (start : Instant) (last now : Nat) (hrate : 1 ≤ rate) (hn : n ≤ burst)
    (hburst : burst < 2 ^ 53) :
    TokenBucket.take ⟨.finite n, start + .ofSecs last⟩ (.finite burst) (.finite rate)
        (start + .ofSecs now)
      = match min (n + rate * (now - last)) burst with
        | 0 => (false, ⟨.finite 0, start + .ofSecs now⟩)
        | k + 1 => (true, ⟨.finite k, start + .ofSecs now⟩) := by
  have hle : min (n + rate * (now - last)) burst ≤ burst := Nat.min_le_right ..
  rw [TokenBucket.take, refilled_whole start last now hrate hn hburst]
  generalize min (n + rate * (now - last)) burst = tokens at hle
  simp only [Floating.one_le_natCast, decide_eq_true_eq]
  cases tokens with
  | zero => rfl
  | succ k => rw [if_pos (Nat.le_add_left 1 k), Floating.sub_one_natCast (hle.trans_lt hburst)]

/-! ### What was let through -/

/-- How many of some seconds lie between two. -/
def between (s t : Nat) (seconds : List Nat) : Nat := seconds.countP fun u => s ≤ u && u ≤ t

/-- How many of some seconds are not before one. -/
def since (s : Nat) (seconds : List Nat) : Nat := seconds.countP (s ≤ ·)

variable {seconds : List Nat}

theorem between_le_since (s t : Nat) (seconds : List Nat) :
    between s t seconds ≤ since s seconds :=
  List.countP_mono_left fun u _ h => by simp_all

theorem between_eq_since (h : ∀ u ∈ seconds, u ≤ t) : between s t seconds = since s seconds :=
  List.countP_congr fun u hu => by simp [h u hu]

theorem since_eq_zero (h : ∀ u ∈ seconds, u < s) : since s seconds = 0 :=
  List.countP_eq_zero.mpr fun u hu => by simpa using h u hu

theorem since_concat (h : s ≤ now) : since s (seconds ++ [now]) = since s seconds + 1 := by
  simp [since, h]

/-- What the tokens in a bucket have to do with the seconds in which calls were let through, none of
which is after `now`. -/
structure Level (rate burst : Nat) (seconds : List Nat) (now n : Nat) : Prop where
  le_burst : n ≤ burst
  past : ∀ u ∈ seconds, u ≤ now
  bound : ∀ s ≤ now, since s seconds + n ≤ burst + rate * (now - s)
  tight : ∃ s ≤ now, since s seconds + n = burst + rate * (now - s)
  within : ∀ s t, s ≤ t → between s t seconds ≤ burst + rate * (t - s)

theorem level_full (rate burst now : Nat) : Level rate burst [] now burst where
  le_burst := Nat.le_refl burst
  past := by simp
  bound s _ := by simp [since]
  tight := ⟨now, Nat.le_refl now, by simp [since]⟩
  within s t _ := by simp [between]

namespace Level

/-- What is allowed from one second on is what is allowed up to another one, and from there on. -/
theorem mul_span (rate : Nat) (hs : s ≤ last) (hle : last ≤ now) :
    rate * (now - s) = rate * (last - s) + rate * (now - last) := by
  rw [← Nat.mul_add]
  congr 1
  omega

/-- Nothing is let through while tokens are added. Where they make the bucket full, all that was let
through before is made up for. -/
theorem refill (h : Level rate burst seconds last n) (hle : last ≤ now) :
    Level rate burst seconds now (min (n + rate * (now - last)) burst) where
  le_burst := Nat.min_le_right ..
  past u hu := (h.past u hu).trans hle
  bound s hs := by
    have hmin := Nat.min_le_left (n + rate * (now - last)) burst
    by_cases hlast : s ≤ last
    · have hspan := mul_span rate hlast hle
      have := h.bound s hlast
      omega
    · have hnone : since s seconds = 0 := since_eq_zero fun u hu =>
        (h.past u hu).trans_lt (Nat.lt_of_not_le hlast)
      omega
  tight := by
    by_cases hfull : n + rate * (now - last) ≤ burst
    · obtain ⟨s, hs, htight⟩ := h.tight
      have hspan := mul_span rate hs hle
      exact ⟨s, hs.trans hle, by omega⟩
    · have hlt : last < now := by
        refine lt_of_le_of_ne hle fun heq => hfull ?_
        simpa [heq] using h.le_burst
      have hnone : since now seconds = 0 := since_eq_zero fun u hu => (h.past u hu).trans_lt hlt
      refine ⟨now, Nat.le_refl now, ?_⟩
      rw [hnone, Nat.min_eq_right (Nat.le_of_not_le hfull), Nat.sub_self, Nat.mul_zero,
        Nat.zero_add, Nat.add_zero]
  within := h.within

/-- A call that is let through takes one token. -/
theorem take (h : Level rate burst seconds now (n + 1)) :
    Level rate burst (seconds ++ [now]) now n := by
  have hpast : ∀ u ∈ seconds ++ [now], u ≤ now := by
    simpa [or_imp, forall_and] using h.past
  have hbound : ∀ s ≤ now, since s (seconds ++ [now]) + n ≤ burst + rate * (now - s) := by
    intro s hs
    have := h.bound s hs
    rw [since_concat hs]
    omega
  refine ⟨(Nat.le_succ n).trans h.le_burst, hpast, hbound, ?_, fun s t hst => ?_⟩
  · obtain ⟨s, hs, htight⟩ := h.tight
    exact ⟨s, hs, by rw [since_concat hs]; omega⟩
  · by_cases ht : now ≤ t
    · -- All that was let through from `s` on was let through until now.
      have hle := between_le_since s t (seconds ++ [now])
      by_cases hs : s ≤ now
      · have hspan : rate * (now - s) ≤ rate * (t - s) :=
          Nat.mul_le_mul_left rate (Nat.sub_le_sub_right ht s)
        have := hbound s hs
        omega
      · have hnone := since_eq_zero fun u hu => (hpast u hu).trans_lt (Nat.lt_of_not_le hs)
        omega
    · have hsame : between s t (seconds ++ [now]) = between s t seconds := by
        simp [between, ht]
      rw [hsame]
      exact h.within s t hst

/-- There is no token exactly if the most that may be let through have been, from some second on. -/
theorem eq_zero_iff (h : Level rate burst seconds now n) :
    n = 0 ↔ ∃ s ≤ now, between s now seconds = burst + rate * (now - s) := by
  constructor
  · rintro rfl
    obtain ⟨s, hs, htight⟩ := h.tight
    exact ⟨s, hs, by rw [between_eq_since h.past]; omega⟩
  · rintro ⟨s, hs, hmost⟩
    have := h.bound s hs
    rw [between_eq_since h.past] at hmost
    omega

end Level

/-- Whether a request may go on. -/
def Outcome.passes : Outcome → Bool
  | pass _ => true
  | _ => false

namespace RateLimit

variable {client : String} {m : FilterMemory} {calls : List Call} {x : Call}

/-! ### Calls and what they are answered -/

/-- The second of a call, counted from `start`. -/
def Call.second (start : Instant) (x : Call) : Nat := Instant.secondsBetween start x.now

/-- Calls of one client under the same limits, one after another, and whole seconds after `start`.
-/
structure Steady (client : String) (l : Limits) (start : Instant) (calls : List Call) : Prop where
  client_eq : ∀ x ∈ calls, x.client = client
  limits_eq : ∀ x ∈ calls, limits x.args = l
  now_eq : ∀ x ∈ calls, x.now = start + .ofSecs (x.second start)
  ordered : calls.Pairwise fun x y => x.second start ≤ y.second start

theorem Steady.sublist {l : Limits} {calls' : List Call} (h : Steady client l start calls)
    (hs : calls'.Sublist calls) : Steady client l start calls' where
  client_eq x hx := h.client_eq x (hs.subset hx)
  limits_eq x hx := h.limits_eq x (hs.subset hx)
  now_eq x hx := h.now_eq x (hs.subset hx)
  ordered := h.ordered.sublist hs

/-- The seconds in which calls were let through. -/
def passedIn (start : Instant) (log : List (Call × Outcome)) : List Nat :=
  (log.filter (·.2.passes)).map (·.1.second start)

/-- What the filter remembers after calls. -/
def memoryAfter (m : FilterMemory) (calls : List Call) : FilterMemory :=
  calls.foldl (fun m x => (filter.apply x.args x.now x.context m).2) m

theorem answers_append (m : FilterMemory) (calls later : List Call) :
    answers m (calls ++ later) = answers m calls ++ answers (memoryAfter m calls) later := by
  induction calls generalizing m with
  | nil => rfl
  | cons x rest ih => simp only [List.cons_append, answers, ih, memoryAfter, List.foldl_cons]

theorem map_fst_answers (m : FilterMemory) (calls : List Call) :
    (answers m calls).map (·.1) = calls := by
  induction calls generalizing m with
  | nil => rfl
  | cons x rest ih => rw [answers, List.map_cons, ih]

/-- The answers up to some call, and those from it on. -/
theorem answers_split {log rest : List (Call × Outcome)} (h : answers m calls = log ++ rest) :
    calls = log.map (·.1) ++ rest.map (·.1) ∧ answers m (log.map (·.1)) = log ∧
      answers (memoryAfter m (log.map (·.1))) (rest.map (·.1)) = rest := by
  have hcalls : calls = log.map (·.1) ++ rest.map (·.1) := by
    rw [← List.map_append, ← h, map_fst_answers]
  have hlength : (answers m (log.map (·.1))).length = log.length := by
    rw [← List.length_map (·.1), map_fst_answers, List.length_map]
  rw [hcalls, answers_append] at h
  exact ⟨hcalls, List.append_inj h hlength⟩

/-! ### The bucket of a client -/

/-- What is known of the bucket of a client, if calls were let through in the given seconds and none
of the client's calls came after `now`. -/
inductive Stock (client : String) (rate burst : Nat) (start : Instant) (m : FilterMemory) :
    List Nat → Nat → Prop
  | fresh (now : Nat) (h : m.buckets.find (bucketKey (.whole rate burst) client) = none) :
    Stock client rate burst start m [] now
  | kept {seconds : List Nat} {last now n : Nat}
    (h : m.buckets.find (bucketKey (.whole rate burst) client)
      = some ⟨.finite n, start + .ofSecs last⟩)
    (hlevel : Level rate burst seconds last n) (hle : last ≤ now) :
    Stock client rate burst start m seconds now

namespace Stock

theorem later {later : Nat} (h : Stock client rate burst start m seconds now) (hle : now ≤ later) :
    Stock client rate burst start m seconds later := by
  cases h with
  | fresh _ h => exact .fresh later h
  | kept h hlevel hlast => exact .kept h hlevel (hlast.trans hle)

/-- The bucket that the next call finds. Only one that was there before can be empty. -/
theorem bucket (h : Stock client rate burst start m seconds now) (hburst : 1 ≤ burst) :
    ∃ n last, last ≤ now ∧ Level rate burst seconds last n ∧
      m.buckets.findD (bucketKey (.whole rate burst) client)
          (.full (.finite burst) (start + .ofSecs now)) = ⟨.finite n, start + .ofSecs last⟩ ∧
      (n = 0 → m.buckets.find (bucketKey (.whole rate burst) client)
        = some ⟨.finite n, start + .ofSecs last⟩) := by
  cases h with
  | fresh _ h =>
    refine ⟨burst, now, Nat.le_refl now, level_full rate burst now, ?_, fun hn => by omega⟩
    rw [Keyed.findD, h]
    rfl
  | @kept _ last _ n h hlevel hle =>
    refine ⟨n, last, hle, hlevel, ?_, fun _ => h⟩
    rw [Keyed.findD, h]
    rfl

/-- A call is turned away and changes nothing, or is let through and takes a token. -/
theorem step (h : Stock client rate burst start m seconds now) (hrate : 1 ≤ rate)
    (hburst : 1 ≤ burst) (hburst' : burst < 2 ^ 53) (hclient : x.client = client)
    (hlimits : limits x.args = .whole rate burst) (hnow : x.now = start + .ofSecs now) :
    Level rate burst seconds now 0 ∧ filter.apply x.args x.now x.context m
        = (.turnAway x.context .tooManyRequests "Too many requests", m) ∨
      ∃ n, Level rate burst seconds now (n + 1) ∧
        (filter.apply x.args x.now x.context m).1 = .pass x.context ∧
        Stock client rate burst start (filter.apply x.args x.now x.context m).2 (seconds ++ [now])
          now := by
  obtain ⟨n, last, hle, hlevel, hbucket, hfind⟩ := h.bucket hburst
  have htake := take_whole start last now hrate hlevel.le_burst hburst'
  have hrefill := hlevel.refill hle
  have hcheck : check m.buckets (limits x.args) x.client x.now
      = let taken := TokenBucket.take ⟨.finite n, start + .ofSecs last⟩ (.finite burst)
          (.finite rate) (start + .ofSecs now)
        (taken.1, m.buckets.set (bucketKey (.whole rate burst) client) taken.2) := by
    rw [hclient, hlimits, hnow, ← hbucket]
    rfl
  rw [apply_eq, hcheck, htake]
  clear htake hcheck
  cases htokens : min (n + rate * (now - last)) burst with
  | zero =>
    -- Nothing was added, so the bucket was already empty in this very second.
    have hnone : n = 0 ∧ rate * (now - last) = 0 := by omega
    have hlast : last = now := by
      rcases Nat.mul_eq_zero.mp hnone.2 with h | h <;> omega
    obtain ⟨rfl, -⟩ := hnone
    rw [htokens] at hrefill
    refine .inl ⟨hrefill, ?_⟩
    rw [hlast] at hfind
    simp only [Bool.false_eq_true, if_false]
    rw [Keyed.set_of_find (by exact_mod_cast hfind rfl)]
  | succ k =>
    rw [htokens] at hrefill
    exact .inr ⟨k, hrefill, rfl, .kept (Keyed.find_set_self ..) hrefill.take (Nat.le_refl now)⟩

/-- Calls one after another. -/
theorem run (h : Stock client rate burst start m seconds last) (hrate : 1 ≤ rate)
    (hburst : 1 ≤ burst) (hburst' : burst < 2 ^ 53)
    (hcalls : Steady client (.whole rate burst) start calls)
    (hlast : ∀ x ∈ calls, last ≤ x.second start) (hle : last ≤ now)
    (hnow : ∀ x ∈ calls, x.second start ≤ now) :
    Stock client rate burst start (memoryAfter m calls)
      (seconds ++ passedIn start (answers m calls)) now := by
  induction calls generalizing m seconds last with
  | nil => simpa [passedIn, answers, memoryAfter] using h.later hle
  | cons x rest ih =>
    obtain ⟨hbefore, -⟩ := List.pairwise_cons.mp hcalls.ordered
    obtain ⟨hx, hrest⟩ := List.forall_mem_cons.mp hnow
    have hsteady := hcalls.sublist (List.sublist_cons_self x rest)
    have hnext := (h.later (hlast x List.mem_cons_self)).step hrate hburst hburst'
      (hcalls.client_eq x List.mem_cons_self) (hcalls.limits_eq x List.mem_cons_self)
      (hcalls.now_eq x List.mem_cons_self)
    rw [memoryAfter, List.foldl_cons, answers]
    obtain ⟨-, haway⟩ | ⟨n, -, hpass, hstock⟩ := hnext
    · rw [haway]
      exact ih (h.later (hlast x List.mem_cons_self)) hsteady hbefore hx hrest
    · have hseconds : passedIn start ((x, (filter.apply x.args x.now x.context m).1)
          :: answers (filter.apply x.args x.now x.context m).2 rest)
          = x.second start :: passedIn start
            (answers (filter.apply x.args x.now x.context m).2 rest) := by
        simp [passedIn, hpass, Outcome.passes]
      rw [hseconds, List.append_cons]
      exact ih hstock hsteady hbefore hx hrest

theorem within (h : Stock client rate burst start m seconds now) (hst : s ≤ t) :
    between s t seconds ≤ burst + rate * (t - s) := by
  cases h with
  | fresh => exact Nat.zero_le _
  | kept _ hlevel => exact hlevel.within s t hst

end Stock

/-- What a call is answered, and what the bucket held when it came: it is turned away, and then
nothing has changed, exactly if there was no token. -/
theorem answer_cases (hrate : 1 ≤ rate) (hburst : 1 ≤ burst) (hburst' : burst < 2 ^ 53)
    (hnew : m.buckets.find (bucketKey (.whole rate burst) client) = none)
    (hcalls : Steady client (.whole rate burst) start calls) {log rest : List (Call × Outcome)}
    {answer : Outcome} (h : answers m calls = log ++ (x, answer) :: rest) :
    Level rate burst (passedIn start log) (x.second start) 0 ∧ answer.passes = false ∧
        filter.apply x.args x.now x.context (memoryAfter m (log.map (·.1)))
          = (answer, memoryAfter m (log.map (·.1))) ∨
      ∃ n, Level rate burst (passedIn start log) (x.second start) (n + 1) ∧
        answer.passes = true := by
  obtain ⟨hsplit, hlog, hrest⟩ := answers_split h
  rw [List.map_cons, answers] at hrest
  have hanswer := (Prod.mk.inj (List.cons.inj hrest).1).2
  set before := log.map (·.1)
  have hx : x ∈ calls := hsplit ▸ by simp
  have hordered := List.pairwise_append.mp (hsplit ▸ hcalls.ordered)
  have hbefore : ∀ y ∈ before, y.second start ≤ x.second start := fun y hy =>
    hordered.2.2 y hy x (by simp)
  have hsteady := hcalls.sublist (hsplit ▸ List.sublist_append_left before _)
  have hstock := (Stock.fresh 0 hnew).run hrate hburst hburst' hsteady (fun _ _ => Nat.zero_le _)
    (Nat.zero_le _) hbefore
  rw [List.nil_append, hlog] at hstock
  obtain ⟨hlevel, haway⟩ | ⟨n, hlevel, hpass, -⟩ := hstock.step hrate hburst hburst'
    (hcalls.client_eq x hx) (hcalls.limits_eq x hx) (hcalls.now_eq x hx)
  · rw [haway] at hanswer
    subst hanswer
    exact .inl ⟨hlevel, rfl, haway⟩
  · rw [hpass] at hanswer
    subst hanswer
    exact .inr ⟨n, hlevel, rfl⟩

/-- **A rate limit lets through as much as it says, and no less.** The limits of a client are whole
numbers below `2 ^ 53`; they are set by their digits. It comes again and again, at whole seconds.
Between two seconds it is let through no more often than there is room for tokens, and tokens are
added in between. It is turned away exactly if since some second it was let through that often. And
a call that is turned away changes no later answer, neither to this client nor to another one. -/
theorem allowance (hrate : 1 ≤ rate) (hrate' : rate < 2 ^ 53) (hburst : 1 ≤ burst)
    (hburst' : burst < 2 ^ 53)
    (hnew : m.buckets.find (bucketKey (.whole rate burst) client) = none)
    (hcalls : Steady client (.whole rate burst) start calls) :
    limits [("requests_per_second", String.ofList (Text.decimal rate)),
      ("burst", String.ofList (Text.decimal burst))] = .whole rate burst ∧
    (∀ s t, s ≤ t →
      between s t (passedIn start (answers m calls)) ≤ burst + rate * (t - s)) ∧
    ∀ log x answer rest, answers m calls = log ++ (x, answer) :: rest →
      let now := x.second start
      (answer.passes = false ↔
        ∃ s ≤ now, between s now (passedIn start log) = burst + rate * (now - s)) ∧
      (answer.passes = false → ∀ later, ∃ answered,
        answers m (log.map (·.1) ++ x :: later) = log ++ (x, answer) :: answered ∧
        answers m (log.map (·.1) ++ later) = log ++ answered) := by
  refine ⟨limits_decimal hrate hrate' hburst hburst', fun s t hst => ?_, ?_⟩
  · obtain ⟨now, hnow⟩ := (calls.map (·.second start)).toFinset.exists_le
    have hstock := (Stock.fresh 0 hnew).run hrate hburst hburst' hcalls
      (fun _ _ => Nat.zero_le _) (Nat.zero_le now)
      fun x hx => hnow _ (List.mem_toFinset.mpr (List.mem_map_of_mem hx))
    rw [List.nil_append] at hstock
    exact hstock.within hst
  · intro log x answer rest hanswers now
    obtain ⟨hlevel, haway, happly⟩ | ⟨n, hlevel, hpass⟩ :=
      answer_cases hrate hburst hburst' hnew hcalls hanswers
    · have hlog := (answers_split hanswers).2.1
      refine ⟨iff_of_true haway (hlevel.eq_zero_iff.mp rfl), fun _ later => ?_⟩
      refine ⟨answers (memoryAfter m (log.map (·.1))) later, ?_, ?_⟩
      · rw [answers_append, hlog, answers, happly]
      · rw [answers_append, hlog]
    · have hmore : ¬ ∃ s ≤ now, between s now (passedIn start log) = burst + rate * (now - s) :=
        fun hmost => Nat.succ_ne_zero n (hlevel.eq_zero_iff.mpr hmost)
      have hnot : ¬ answer.passes = false := by simp [hpass]
      exact ⟨iff_of_false hnot hmore, fun haway => absurd haway hnot⟩

/-- Three calls at once and two more a second later are let through, and a call after either of them
is turned away. The last one of these makes no difference to a call that comes still later. -/
theorem allowance_three_at_once :
    let call (second : Nat) (rate : String) : Call :=
      ⟨[("requests_per_second", rate), ("burst", "3")], 500000 + .ofSecs second,
        .ofRequest "a1" "GET" ⟨none, none, ['/'], none⟩ .empty emptyBody ⟨.v4 [10, 0, 0, 1], 9⟩⟩
    let before := [call 0 "2", call 0 " 2.0", call 0 "2e0", call 0 "2", call 1 "2", call 1 "2"]
    let calls := before ++ [call 1 "2"]
    Steady "10.0.0.1" (.whole 2 3) 500000 calls ∧
      (answers {} calls).map (·.2.passes) = [true, true, true, false, true, true, false] ∧
      between 0 1 (passedIn 500000 (answers {} calls)) ≤ 3 + 2 * (1 - 0) ∧
      (∃ s ≤ 1, between s 1 (passedIn 500000 (answers {} before)) = 3 + 2 * (1 - s)) ∧
      ∃ answered,
        answers {} (calls ++ [call 2 "2"]) = answers {} calls ++ answered ∧
        answers {} (before ++ [call 2 "2"]) = answers {} before ++ answered := by
  intro call before calls
  have hclient : ∀ x ∈ calls, x.client = "10.0.0.1" := by decide +kernel
  have hlimits : ∀ x ∈ calls, limits x.args = .whole 2 3 := by decide +kernel
  have hnow : ∀ x ∈ calls, x.now = 500000 + .ofSecs (x.second 500000) := by decide +kernel
  have hordered : calls.Pairwise fun x y => x.second 500000 ≤ y.second 500000 := by
    decide +kernel
  have hpasses : (answers {} calls).map (·.2.passes)
      = [true, true, true, false, true, true, false] := by decide +kernel
  have hsteady : Steady "10.0.0.1" (.whole 2 3) 500000 calls := ⟨hclient, hlimits, hnow, hordered⟩
  have hlast : answers {} calls
      = answers {} before ++ answers (memoryAfter {} before) [call 1 "2"] := answers_append ..
  have hnew : (FilterMemory.buckets {}).find (bucketKey (.whole 2 3) "10.0.0.1") = none := rfl
  obtain ⟨-, hwithin, hexact⟩ := allowance (by decide : 1 ≤ 2) (by decide) (by decide : 1 ≤ 3)
    (by decide) hnew hsteady
  have hsecond : (call 1 "2").second 500000 = 1 := by decide +kernel
  obtain ⟨hmost, hleft⟩ := hexact _ _ _ _ hlast
  rw [hsecond] at hmost
  have haway : (filter.apply (call 1 "2").args (call 1 "2").now (call 1 "2").context
      (memoryAfter {} before)).1.passes = false := by decide +kernel
  obtain ⟨answered, hwith, hwithout⟩ := hleft haway [call 2 "2"]
  rw [map_fst_answers, List.append_cons] at hwith
  rw [map_fst_answers] at hwithout
  refine ⟨hsteady, hpasses, hwithin 0 1 (by decide), hmost.mp haway, answered, ?_, hwithout⟩
  exact hwith.trans ((List.append_cons ..).trans (congrArg (· ++ answered) hlast.symm))

end RateLimit

end HttpGateway.Filter
