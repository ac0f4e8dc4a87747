/-
What the filters that are always there let pass.

* **BearsListed** — the first `Authorization` line of a message is a text with a token that is
  listed. `Bearer.passes_iff` says that the filter that asks for a token goes by nothing else.
* `builtin_apply` — the filters that are always there turn a request away or let it pass, and what
  they let pass is as it was but for what they leave with it.
* `Passed.bearsListed` — so wherever in a chain of them that filter stands, what passes the chain
  bore a listed token when it came.
* **TurnedAway** — the first filter of a chain that turns a request away. `passed_or_turnedAway`
  says that a chain of registered filters comes to nothing else.
-/
import HttpGateway.Proofs.Filter.Chain

namespace HttpGateway.Filter

open Http Request Settings Text

variable {name listed : String} {f : Filter} {args : Args} {now : Instant} {c c' : Context}
  {m m' : FilterMemory} {spec : FilterSpec} {specs : List FilterSpec} {h : Fields} {t : List Char}

/-! ### Tokens -/

/-- Whether the first `Authorization` line is a text that names the scheme and then a token, and the
token is one of the entries of a list with commas between them. White space around the token and
around the entries does not matter; a blank token is none. -/
def BearsListed (h : Fields) (listed : String) : Prop :=
  ∃ text token, h.text? "authorization" = some text ∧ text.toList = bearerScheme ++ token ∧
    trim token ≠ [] ∧ trim token ∈ (listed.toList.splitOn ',').map trim

theorem mem_commaEntries :
    String.ofList t ∈ commaEntries listed ↔ t ∈ (listed.toList.splitOn ',').map trim := by
  rw [commaEntries, List.mem_map, List.mem_map]
  refine exists_congr fun entry => and_congr_right fun _ => ?_
  exact ⟨fun heq => String.ofList_injective heq, fun heq => congrArg String.ofList heq⟩

theorem nonBlank?_eq_some {s : List Char} {token : String} :
    nonBlank? s = some token ↔ trim s ≠ [] ∧ token = String.ofList (trim s) := by
  rw [nonBlank?]
  cases htrim : trim s with
  | nil => simp
  | cons c rest => simp [eq_comm]

theorem bearerToken?_eq_some {token : String} :
    bearerToken? h = some token ↔ ∃ text rest, h.text? "authorization" = some text ∧
      text.toList = bearerScheme ++ rest ∧ trim rest ≠ [] ∧ token = String.ofList (trim rest) := by
  rw [bearerToken?, Option.bind_eq_some_iff]
  refine exists_congr fun text => ?_
  rw [exists_and_left]
  refine and_congr_right fun _ => ?_
  constructor
  · intro htoken
    split at htoken
    · next hscheme =>
      obtain ⟨rest, hrest⟩ := List.isPrefixOf_iff_prefix.mp hscheme
      rw [← hrest, List.drop_left] at htoken
      exact ⟨rest, hrest.symm, nonBlank?_eq_some.mp htoken⟩
    · cases htoken
  · rintro ⟨rest, hrest, htoken⟩
    have hscheme : bearerScheme.isPrefixOf text.toList = true :=
      List.isPrefixOf_iff_prefix.mpr ⟨rest, hrest.symm⟩
    rw [if_pos hscheme, hrest, List.drop_left]
    exact nonBlank?_eq_some.mpr htoken

theorem bearsListed_iff :
    BearsListed h listed ↔ ∃ token, bearerToken? h = some token ∧ token ∈ commaEntries listed := by
  constructor
  · rintro ⟨text, rest, htext, hrest, hblank, hmem⟩
    exact ⟨_, bearerToken?_eq_some.mpr ⟨text, rest, htext, hrest, hblank, rfl⟩,
      mem_commaEntries.mpr hmem⟩
  · rintro ⟨token, htoken, hmem⟩
    obtain ⟨text, rest, htext, hrest, hblank, rfl⟩ := bearerToken?_eq_some.mp htoken
    exact ⟨text, rest, htext, hrest, hblank, mem_commaEntries.mp hmem⟩

instance (h : Fields) (listed : String) : Decidable (BearsListed h listed) :=
  decidable_of_iff ((bearerToken? h).any (commaEntries listed).contains = true) <| by
    rw [bearsListed_iff, Option.any_eq_true]
    simp only [List.contains_iff_mem]

namespace Bearer

/-- **Listed tokens** are all that the filter with a list lets pass. -/
theorem passes_iff (hlisted : argument? args "tokens" = some listed) :
    (∃ c', outcome args c = .pass c') ↔ BearsListed c.fields listed := by
  have haccepts : ∀ token, accepts args token = true ↔ token ∈ commaEntries listed := by
    intro token
    rw [accepts, hlisted, List.contains_iff_mem]
  rw [bearsListed_iff, outcome]
  cases htoken : bearerToken? c.fields with
  | none => simp
  | some token =>
    by_cases hmem : token ∈ commaEntries listed
    · simp [hmem, (haccepts token).mpr hmem]
    · simp [hmem, mt (haccepts token).mp hmem]

/-- A request is turned away, or goes on with its token. -/
theorem outcome_cases (args : Args) (c : Context) :
    (∃ token, outcome args c = .pass (c.setAttribute "auth.token" (.text token))) ∨
      outcome args c = .turnAway c (rejectionStatus args) "Unauthorized" := by
  rw [outcome]
  split
  · exact .inr rfl
  · next token _ =>
    split
    · exact .inl ⟨token, rfl⟩
    · exact .inr rfl

end Bearer

/-! ### The filters that are always there -/

theorem find_builtin (hf : Registry.builtin.find name = some f) :
    name = f.name ∧ (f = Bearer.filter ∨ f = RateLimit.filter) := by
  have hentries : Registry.builtin.find name
      = if Bearer.filter.name = name then some Bearer.filter
        else if RateLimit.filter.name = name then some RateLimit.filter else none := rfl
  rw [hentries] at hf
  split at hf
  · next hname =>
    obtain rfl := Option.some.inj hf
    exact ⟨hname.symm, .inl rfl⟩
  split at hf
  · next hname =>
    obtain rfl := Option.some.inj hf
    exact ⟨hname.symm, .inr rfl⟩
  · cases hf

/-- A filter that is always there turns a request away as it is, or leaves something with it. -/
theorem builtin_apply (hf : Registry.builtin.find name = some f) (args : Args) (now : Instant)
    (c : Context) (m : FilterMemory) :
    (∃ attributes, (f.apply args now c m).1 = .pass { c with attributes }) ∨
      ∃ status message, (f.apply args now c m).1 = .turnAway c status message := by
  rcases (find_builtin hf).2 with rfl | rfl
  · rcases Bearer.outcome_cases args c with ⟨token, hpass⟩ | hturn
    · exact .inl ⟨_, hpass⟩
    · exact .inr ⟨_, _, hturn⟩
  · simp only [RateLimit.filter]
    split
    · exact .inl ⟨c.attributes, rfl⟩
    · exact .inr ⟨_, _, rfl⟩

theorem builtin_pass (hf : Registry.builtin.find name = some f)
    (hpass : f.apply args now c m = (.pass c', m')) : ∃ attributes, c' = { c with attributes } := by
  rcases builtin_apply hf args now c m with ⟨attributes, happly⟩ | ⟨_, _, happly⟩
  · rw [hpass] at happly
    exact ⟨attributes, Outcome.pass.inj happly⟩
  · rw [hpass] at happly
    cases happly

theorem builtin_turnAway {status : Status} {message : String}
    (hf : Registry.builtin.find name = some f)
    (hturn : f.apply args now c m = (.turnAway c' status message, m')) : c' = c := by
  rcases builtin_apply hf args now c m with ⟨_, happly⟩ | ⟨_, _, happly⟩
  · rw [hturn] at happly
    cases happly
  · rw [hturn] at happly
    exact (Outcome.turnAway.inj happly).1

/-- A request that has passed is as it was but for what filters have left with it. -/
theorem Passed.builtin (hp : Passed .builtin now specs c m c' m') :
    ∃ attributes, c' = { c with attributes } := by
  induction hp with
  | @nil c m => exact ⟨c.attributes, rfl⟩
  | @cons spec rest f c m c₁ m₁ c' m' hf hpass _ ih =>
    obtain ⟨attributes, rfl⟩ := ih
    obtain ⟨_, rfl⟩ := builtin_pass hf hpass
    exact ⟨attributes, rfl⟩

/-- **No way around the list**: what has passed a chain with the filter that asks for a token bore a
listed one. -/
theorem Passed.bearsListed (hp : Passed .builtin now specs c m c' m') (hspec : spec ∈ specs)
    (hname : spec.name = Bearer.filter.name)
    (hlisted : argument? spec.args "tokens" = some listed) : BearsListed c.fields listed := by
  -- The filter stands in front, or behind a filter that has left the fields alone.
  induction hp with
  | nil => cases hspec
  | @cons first rest f c m c₁ m₁ c' m' hf hpass _ ih =>
    rcases List.mem_cons.mp hspec with rfl | hrest
    · have hbearer : f = Bearer.filter := by
        have hfound : Registry.builtin.find Bearer.filter.name = some Bearer.filter := rfl
        rw [hname, hfound] at hf
        exact (Option.some.inj hf).symm
      subst hbearer
      exact (Bearer.passes_iff hlisted).mp ⟨c₁, congrArg Prod.fst hpass⟩
    · obtain ⟨attributes, rfl⟩ := builtin_pass hf hpass
      exact ih hrest

/-! ### The first filter that turns a request away -/

/-- The filters in front of one let a request pass, and that one turns it away. -/
inductive TurnedAway (registry : Registry) (now : Instant) (specs : List FilterSpec) (c : Context)
    (m : FilterMemory) (status : Status) (message : String) (c' : Context) (m' : FilterMemory) :
    Prop
  | intro {front : List FilterSpec} {spec : FilterSpec} {back : List FilterSpec}
      {c₁ : Context} {m₁ : FilterMemory} {f : Filter} : specs = front ++ spec :: back →
      Passed registry now front c m c₁ m₁ → registry.find spec.name = some f →
      f.apply spec.args now c₁ m₁ = (.turnAway c' status message, m') →
      TurnedAway registry now specs c m status message c' m'

theorem TurnedAway.builtin {status : Status} {message : String}
    (h : TurnedAway .builtin now specs c m status message c' m') :
    ∃ attributes, c' = { c with attributes } := by
  obtain ⟨-, hfront, hf, hturn⟩ := h
  obtain rfl := builtin_turnAway hf hturn
  exact hfront.builtin

/-- Filters that are always there let a request pass, or one of them turns it away. -/
theorem passed_or_turnedAway
    (hknown : ∀ spec ∈ specs, (Registry.builtin.find spec.name).isSome = true) (now : Instant)
    (c : Context) (m : FilterMemory) :
    (∃ c' m', Passed .builtin now specs c m c' m') ∨
      ∃ status message c' m', TurnedAway .builtin now specs c m status message c' m' ∧
        runFilters .builtin now specs c m = (.failed (.rejected status message), c', m') := by
  obtain ⟨result, c', m', hrun⟩ : ∃ result c' m',
      runFilters .builtin now specs c m = (result, c', m') := ⟨_, _, _, rfl⟩
  cases runFilters_course hrun with
  | passed hp => exact .inl ⟨c', m', hp⟩
  | @refused front spec back c₁ m₁ _ _ e hspecs hfront hrefuses =>
    cases hrefuses with
    | unknown hnone =>
      have hsome := hknown spec (hspecs ▸ List.mem_append_right _ List.mem_cons_self)
      rw [hnone] at hsome
      cases hsome
    | turnedAway hf hturn =>
      exact .inr ⟨_, _, c', m', .intro hspecs hfront hf hturn, hrun⟩
  | brokenDown _ _ hf hbroken =>
    rcases builtin_apply hf _ now c' _ with ⟨_, happly⟩ | ⟨_, _, happly⟩ <;>
      rw [hbroken] at happly <;> cases happly

end HttpGateway.Filter
