/-
Widening a gray release.

* **GrayPolicy.Widens** — a policy with the same strategies, none of which asks for more.
* **Grows** — what a wider strategy makes of an answer: it fails just where the other one fails, and
  holds wherever the other one holds.
* **Keeps** — what a wider policy makes of an answer: what was gray is gray, and it fails only where
  the other one fails, with the same error.
* `Grows.orElse` — strategies that are tried one after another.
* `widening_keeps_gray` — a wider policy keeps all requests in the gray group that were there.

A policy that grows strategy by strategy does not grow itself: where a wider strategy holds, a later
one is not asked for any more, and with it the error goes that it would have met. So the two
relations are kept apart, and the strategies in front have to satisfy the stronger one.
-/
import HttpGateway.Balance.Selector
import Mathlib.Data.List.Basic

namespace HttpGateway.Balance.GrayPolicy

open Http Settings

/-! ### Answers -/

/-- The answer of a wider strategy beside that of a narrower one. -/
inductive Grows : Except GrayError Bool → Except GrayError Bool → Prop
  | answered {a b : Bool} (h : a = true → b = true) : Grows (.ok a) (.ok b)
  | failed (e : GrayError) : Grows (.error e) (.error e)

/-- The answer of a wider policy beside that of a narrower one. -/
structure Keeps (a b : Except GrayError Bool) : Prop where
  gray : a = .ok true → b = .ok true
  failed : ∀ e, b = .error e → a = .error e

theorem Grows.keeps {a b : Except GrayError Bool} (h : Grows a b) : Keeps a b := by
  cases h with
  | answered h =>
    refine ⟨fun hgray => congrArg Except.ok (h (Except.ok.inj hgray)), fun e he => ?_⟩
    cases he
  | failed e => exact ⟨fun hgray => hgray, fun _ he => he⟩

/-- What was gray is gray, and what had a group has one. -/
theorem Keeps.toOption {a b : Except GrayError Bool} (h : Keeps a b) :
    (a.toOption = some true → b.toOption = some true) ∧
      (b.toOption = none → a.toOption = none) := by
  constructor
  · intro hgray
    cases a with
    | error e => cases hgray
    | ok gray => rw [h.gray (congrArg Except.ok (Option.some.inj hgray)), Except.toOption]
  · intro hnone
    cases b with
    | error e => rw [h.failed e rfl, Except.toOption]
    | ok gray => cases hnone

/-- A strategy, and what is asked where it does not hold. -/
def orElse (strategy rest : Except GrayError Bool) : Except GrayError Bool := do
  if ← strategy then return true else rest

theorem evaluate_eq (p : GrayPolicy) (h : Fields) (client : String) :
    p.evaluate h client =
      orElse (optionally p.header (headerHolds · h))
        (orElse (optionally p.userPercentage (userHolds · h))
          (orElse (.ok ((p.addressRanges.getD []).any (inRange client)))
            (optionally p.requestPercentage (requestHolds · h)))) := rfl

/-- A strategy that grows in front of strategies that keep what is gray. -/
theorem Grows.orElse {a b rest rest' : Except GrayError Bool} (h : Grows a b)
    (hrest : Keeps rest rest') : Keeps (orElse a rest) (orElse b rest') := by
  cases h with
  | failed e => exact (Grows.failed e).keeps
  | @answered a b h =>
    cases a with
    | true =>
      rw [h rfl]
      exact (Grows.answered id).keeps
    | false =>
      cases b with
      | false => exact hrest
      -- Only the wider strategy holds, whatever the narrower policy comes to.
      | true => exact ⟨fun _ => rfl, fun e he => nomatch he⟩

/-! ### Strategies -/

variable {p q : GrayPolicy} {h : Fields} {client : String}

/-- A test of what a field says holds wherever a narrower one holds. -/
theorem grows_test (found : Except GrayError (Option String)) {f g : String → Bool}
    (hfg : ∀ s, f s = true → g s = true) :
    Grows (found >>= fun | some s => .ok (f s) | none => .ok false)
      (found >>= fun | some s => .ok (g s) | none => .ok false) := by
  match found with
  | .error e => exact .failed e
  | .ok none => exact .answered id
  | .ok (some s) => exact .answered (hfg s)

theorem grows_optionally {α : Type} {r : α → α → Prop} {a b : Option α}
    {holds : α → Except GrayError Bool} (h : Option.Rel r a b)
    (hgrows : ∀ x y, r x y → Grows (holds x) (holds y)) :
    Grows (optionally a holds) (optionally b holds) := by
  cases h with
  | some hxy => exact hgrows _ _ hxy
  | none => exact .answered id

theorem grows_headerHolds {r s : HeaderRule} (hname : r.name = s.name)
    (hvalues : r.values ⊆ s.values) : Grows (headerHolds r h) (headerHolds s h) := by
  have hcontains : ∀ v, r.values.contains v = true → s.values.contains v = true := by
    simpa using fun v hv => hvalues hv
  have hgrows := grows_test (fieldText h r.name) hcontains
  unfold headerHolds
  rw [← hname]
  exact hgrows

/-- A share of what is spread over the buckets. -/
theorem share_grows {m n : Nat} (hmn : m ≤ n) (key : String) :
    decide (bucket key < m) = true → decide (bucket key < n) = true := by
  simpa using fun hkey => Nat.lt_of_lt_of_le hkey hmn

theorem grows_userHolds {m n : Nat} (hmn : m ≤ n) : Grows (userHolds m h) (userHolds n h) :=
  grows_test (firstText h ["user-id", "x-user-id"]) (share_grows hmn)

theorem grows_requestHolds {m n : Nat} (hmn : m ≤ n) :
    Grows (requestHolds m h) (requestHolds n h) :=
  grows_test (firstText h ["request-id", "x-request-id"]) (share_grows hmn)

theorem grows_inRange (client : String) {a b : Option (List String)}
    (hab : Option.Rel (· ⊆ ·) a b) :
    Grows (.ok ((a.getD []).any (inRange client))) (.ok ((b.getD []).any (inRange client))) := by
  refine .answered fun hany => ?_
  cases hab with
  | none => exact hany
  | some hsub =>
    obtain ⟨range, hmem, hin⟩ := List.any_eq_true.mp hany
    exact List.any_eq_true.mpr ⟨range, hsub hmem, hin⟩

/-! ### Policies -/

/-- The same strategies, with the same field and perhaps more values, larger shares and more address
ranges. -/
structure Widens (p q : GrayPolicy) : Prop where
  header : Option.Rel (fun r s => r.name = s.name ∧ r.values ⊆ s.values) p.header q.header
  users : Option.Rel (· ≤ ·) p.userPercentage q.userPercentage
  addresses : Option.Rel (· ⊆ ·) p.addressRanges q.addressRanges
  requests : Option.Rel (· ≤ ·) p.requestPercentage q.requestPercentage

theorem Widens.evaluate (hw : p.Widens q) : Keeps (p.evaluate h client) (q.evaluate h client) := by
  have hheader := grows_optionally hw.header fun _ _ hrs =>
    grows_headerHolds (h := h) hrs.1 hrs.2
  have husers := grows_optionally hw.users fun _ _ hmn => grows_userHolds (h := h) hmn
  have hrequests := grows_optionally hw.requests fun _ _ hmn => grows_requestHolds (h := h) hmn
  have haddresses := grows_inRange client hw.addresses
  rw [evaluate_eq, evaluate_eq]
  exact hheader.orElse (husers.orElse (haddresses.orElse hrequests.keeps))

/-- **Widening a release keeps what is gray.** A policy has the same strategies as another one, with
the same field and perhaps more values, larger shares and more address ranges. Then every request
that is gray by the narrower policy is gray by the wider one, and the wider one fails only where the
narrower one fails, with the same error. In a route with the one in place of the other no request
leaves the gray group, and none that belongs to a group belongs to none. -/
theorem widening_keeps_gray (hw : p.Widens q) (h : Fields) (client : String) :
    (p.evaluate h client = .ok true → q.evaluate h client = .ok true) ∧
    (∀ e, q.evaluate h client = .error e → p.evaluate h client = .error e) ∧
    ∀ r : Route, p.enabled = q.enabled →
      let before := grayGroup { r with gray := some p } h client
      let after := grayGroup { r with gray := some q } h client
      (before = some true → after = some true) ∧ (after = none → before = none) := by
  have hkeeps : Keeps (p.evaluate h client) (q.evaluate h client) := hw.evaluate
  refine ⟨hkeeps.gray, hkeeps.failed, fun r henabled => ?_⟩
  simp only [grayGroup, henabled]
  cases q.enabled with
  | false => exact ⟨fun hgray => hgray, fun _ => rfl⟩
  | true => exact hkeeps.toOption

/-- More values of the field, all users where there were none, and more addresses. A request that is
gray by its address remains so, though its field has none of the values and its number cannot be
read. From another address the number is what both policies stumble on. -/
theorem widening_keeps_gray_by_address :
    let p : GrayPolicy := ⟨true, some ⟨"x-canary", ["true"]⟩, some 0, some ["10.0."], some 10⟩
    let q : GrayPolicy :=
      ⟨true, some ⟨"x-canary", ["beta", "true"]⟩, some 100, some ["10.1.*", "10.0."], some 20⟩
    let h : Fields := ⟨[("x-canary", FieldValue.ofAscii "no"), ("request-id", [0xff])]⟩
    let r : Route := ⟨"a", "/a", .roundRobin, some p, [], false, [], 0⟩
    p.Widens q ∧ p.enabled = q.enabled ∧ grayGroup r h "10.0.3.4" = some true ∧
      grayGroup { r with gray := some q } h "10.0.3.4" = some true ∧
      q.evaluate h "10.2.0.1" = .error ⟨"request-id"⟩ ∧
      p.evaluate h "10.2.0.1" = .error ⟨"request-id"⟩ := by
  intro p q h r
  have hw : p.Widens q :=
    ⟨.some ⟨rfl, by decide⟩, .some (by decide), .some (by decide), .some (by decide)⟩
  have hgray : grayGroup r h "10.0.3.4" = some true := by decide +kernel
  have hfails : q.evaluate h "10.2.0.1" = .error ⟨"request-id"⟩ := by decide +kernel
  have hgroup := (widening_keeps_gray hw h "10.0.3.4").2.2 r rfl
  exact ⟨hw, rfl, hgray, hgroup.1 hgray, hfails,
    (widening_keeps_gray hw h "10.2.0.1").2.1 _ hfails⟩

end HttpGateway.Balance.GrayPolicy
