/-
Clients of a rate limit.

* `of_mem_positional` — a number is written without a bar.
* `bucketKey_inj` — so the key of a bucket tells the client, whatever the client is called: all that
  stands behind the second bar of a key is the client.
* **RateLimit.Alike** — two memories with the same buckets for a client.
* `clients_apart` — what the filter answers to a client does not depend on the others.

A client that calls itself by a text with bars in it cannot come to the bucket of another one,
because the limits stand in front: where the client begins is known before anything of it is read.
-/
import HttpGateway.Filter.RateLimit
import HttpGateway.Proofs.Net.Address

namespace HttpGateway

open Text

/-- Two texts are cut at the first separator in one way only. -/
theorem Text.front_inj {sep : Char} {s s' t t' : List Char} (hs : sep ∉ s) (hs' : sep ∉ s')
    (h : s ++ sep :: t = s' ++ sep :: t') : s = s' ∧ t = t' := by
  have hfront : ∀ {s t : List Char}, sep ∉ s → (s ++ sep :: t).takeWhile (· ≠ sep) = s := by
    intro s t hs
    rw [List.takeWhile_append_of_pos fun c hc => by simpa using ne_of_mem_of_not_mem hc hs,
      List.takeWhile_cons_of_neg (by simp), List.append_nil]
  obtain rfl : s = s' := by rw [← hfront hs, h, hfront hs']
  exact ⟨rfl, (List.cons.inj (List.append_cancel_left h)).2⟩

/-! ### The text of a number -/

namespace Number

/-- The characters of numbers and of the names of infinity and of not-a-number. -/
def numberChars : List Char := Net.hexDigits ++ "-.infNa".toList

variable {c : Char}

theorem of_mem_dropTrailingZeros {s : List Char} (h : c ∈ dropTrailingZeros s) : c ∈ s := by
  induction s with
  | nil => cases h
  | cons d rest ih =>
    rw [dropTrailingZeros, List.foldr_cons] at h
    split at h
    · cases h
    · exact List.mem_cons.mpr ((List.mem_cons.mp h).imp_right ih)

theorem of_mem_positionalDigits {coefficient : Nat} {place : Int}
    (h : c ∈ positionalDigits coefficient place) : c ∈ numberChars := by
  have hzeros : ∀ n, c ∈ List.replicate n '0' → c ∈ numberChars := fun n hc =>
    List.eq_of_mem_replicate hc ▸ by decide
  have hdigits : c ∈ decimal coefficient → c ∈ numberChars := fun hc =>
    have hdigit := Net.of_mem_digitsOnto (by decide) (by decide) coefficient [] hc
    List.mem_append_left _ (hdigit.resolve_right List.not_mem_nil)
  unfold positionalDigits at h
  dsimp only at h
  split at h
  · exact (List.mem_append.mp h).elim hdigits (hzeros _)
  -- Zeros are put in front, and what there is then is cut in two.
  have hpadded : ∀ n, c ∈ List.replicate n '0' ++ decimal coefficient → c ∈ numberChars :=
    fun n hc => (List.mem_append.mp hc).elim (hzeros n) hdigits
  split at h
  · exact hpadded _ (List.mem_of_mem_take h)
  rcases List.mem_append.mp h with h | h
  · exact hpadded _ (List.mem_of_mem_take h)
  rcases List.mem_cons.mp h with rfl | h
  · decide
  · exact hpadded _ (List.mem_of_mem_drop (of_mem_dropTrailingZeros h))

/-- A number is written in digits, with a sign, a point or a name at most. -/
theorem of_mem_positional {x : Floating} (h : c ∈ positional x) : c ∈ numberChars := by
  cases x with
  | nan => exact forall_mem_of_all (by decide) c h
  | infinity negative => cases negative <;> exact forall_mem_of_all (by decide) c h
  | negativeZero => exact forall_mem_of_all (by decide) c h
  | finite q =>
    rw [positional] at h
    split at h
    · exact List.mem_singleton.mp h ▸ by decide
    rcases List.mem_append.mp h with h | h
    · split at h
      · exact List.mem_singleton.mp h ▸ by decide
      · cases h
    · exact of_mem_positionalDigits h

theorem bar_not_mem_positional (x : Floating) : '|' ∉ positional x := fun h =>
  absurd (of_mem_positional h) (by decide)

end Number

namespace Filter.RateLimit

open Request

/-- A request that the filter is applied to. -/
structure Call where
  args : Args
  now : Instant
  context : Context

/-- The client that a call is for. -/
abbrev Call.client (x : Call) : String := x.context.client

variable {l l' : Limits} {client other : String} {b b' : Keyed String TokenBucket}
  {m m' : FilterMemory}

/-! ### Buckets of a client -/

/-- The key of a bucket tells its client, and the texts of its limits. -/
theorem bucketKey_inj (h : bucketKey l client = bucketKey l' other) :
    Number.positional l.rate = Number.positional l'.rate ∧
      Number.positional l.capacity = Number.positional l'.capacity ∧ client = other := by
  have htext := String.ofList_injective h
  rw [List.append_assoc, List.cons_append, List.append_assoc, List.cons_append] at htext
  have hbar := Number.bar_not_mem_positional
  obtain ⟨hrate, hrest⟩ := front_inj (hbar _) (hbar _) htext
  obtain ⟨hcapacity, hclient⟩ := front_inj (hbar _) (hbar _) hrest
  exact ⟨hrate, hcapacity, String.toList_inj.mp hclient⟩

/-- A check takes from the bucket of its key, or from a full one where there is none. -/
theorem check_eq (b : Keyed String TokenBucket) (l : Limits) (client : String) (now : Instant) :
    check b l client now
      = let bucket := b.findD (bucketKey l client) (.full l.capacity now)
        let taken := bucket.take l.capacity l.rate now
        (taken.1, b.set (bucketKey l client) taken.2) := rfl

/-- A check of one client leaves the buckets of the others alone, under whatever limits. -/
theorem find_check_other (h : client ≠ other) (b : Keyed String TokenBucket) (now : Instant) :
    (check b l client now).2.find (bucketKey l' other) = b.find (bucketKey l' other) := by
  rw [check_eq]
  exact Keyed.find_set_other b (fun hkey => h (bucketKey_inj hkey).2.2) _

/-- What a check comes to depends on the bucket of its key alone. -/
theorem check_congr (h : b.find (bucketKey l client) = b'.find (bucketKey l client))
    (now : Instant) :
    (check b l client now).1 = (check b' l client now).1 ∧
      ∀ key, b.find key = b'.find key →
        (check b l client now).2.find key = (check b' l client now).2.find key := by
  simp only [check_eq, Keyed.findD, h]
  refine ⟨trivial, fun key hkey => ?_⟩
  by_cases hown : bucketKey l client = key
  · rw [← hown, Keyed.find_set_self, Keyed.find_set_self]
  · rw [Keyed.find_set_other _ hown, Keyed.find_set_other _ hown, hkey]

/-! ### Answers -/

/-- What the filter answers to calls, one after another. -/
def answers (m : FilterMemory) : List Call → List (Call × Outcome)
  | [] => []
  | x :: rest =>
    let applied := filter.apply x.args x.now x.context m
    (x, applied.1) :: answers applied.2 rest

theorem apply_eq (x : Call) (m : FilterMemory) :
    filter.apply x.args x.now x.context m
      = let checked := check m.buckets (limits x.args) x.client x.now
        (if checked.1 then .pass x.context
          else .turnAway x.context .tooManyRequests "Too many requests",
          { m with buckets := checked.2 }) := by
  dsimp only [filter]
  by_cases h : (check m.buckets (limits x.args) x.context.client x.now).1 = true
  · rw [if_pos h, if_pos h]
  · rw [if_neg h, if_neg h]

/-- Two memories with the same buckets for a client. -/
def Alike (client : String) (m m' : FilterMemory) : Prop :=
  ∀ l, m.buckets.find (bucketKey l client) = m'.buckets.find (bucketKey l client)

/-- A call of another client makes no difference. -/
theorem Alike.aside (h : Alike client m m') {x : Call} (hx : x.client ≠ client) :
    Alike client (filter.apply x.args x.now x.context m).2 m' := fun l => by
  rw [apply_eq, ← h l]
  exact find_check_other hx m.buckets x.now

/-- A call of the client itself gets the same answer, and makes the same of its buckets. -/
theorem Alike.apply (h : Alike client m m') {x : Call} (hx : x.client = client) :
    (filter.apply x.args x.now x.context m).1 = (filter.apply x.args x.now x.context m').1 ∧
      Alike client (filter.apply x.args x.now x.context m).2
        (filter.apply x.args x.now x.context m').2 := by
  subst hx
  obtain ⟨hanswer, hbuckets⟩ := check_congr (h (limits x.args)) x.now
  rw [apply_eq, apply_eq]
  exact ⟨by simp only [hanswer], fun l => hbuckets _ (h l)⟩

/-- Calls of other clients can be left out. -/
theorem Alike.answers (h : Alike client m m') (calls : List Call) :
    (answers m calls).filter (·.1.client = client)
      = RateLimit.answers m' (calls.filter (·.client = client)) := by
  induction calls generalizing m m' with
  | nil => rfl
  | cons x rest ih =>
    rw [RateLimit.answers, List.filter_cons, List.filter_cons]
    by_cases hx : x.client = client
    · obtain ⟨hanswer, hnext⟩ := h.apply hx
      rw [if_pos (by simpa using hx), if_pos (by simpa using hx), RateLimit.answers, hanswer,
        ih hnext]
    · rw [if_neg (by simpa using hx), if_neg (by simpa using hx)]
      exact ih (h.aside hx)

/-- **Clients are apart.** Any number of clients come to the filter, in any order, at any times and
with any arguments, and they may be called whatever they like. What each of them is answered is what
it would be answered if nobody else came. -/
theorem clients_apart (m : FilterMemory) (calls : List Call) (client : String) :
    (answers m calls).filter (·.1.client = client)
      = answers m (calls.filter (·.client = client)) :=
  Alike.answers (fun _ => rfl) calls

end Filter.RateLimit

end HttpGateway
