/-
What is left of the fields of a message when it is passed on.

* **IsFieldName**, **SameLetters** — texts that can name a field, and texts that differ in case.
* **Lists** — a line that is a text lists a name: the name is one of the entries between commas,
  with white space around it or without, in whatever case.
* **OfConnection** — a name that is never passed on, or that some `Connection` line lists.
* `lists_iff` — what a line lists is what is read of it.
* `stripHop_exact` — all lines of such names are dropped and all others are kept, in their order.

The lines that tell what is dropped are dropped themselves. So there is nothing that they tell when
fields are stripped again, and nothing is left that they could name.
-/
import HttpGateway.Proofs.Http.Field
import HttpGateway.Proofs.Net.Address
import HttpGateway.Proofs.Text.Trimmed

namespace HttpGateway.Http

open Text

variable {c : Char} {s t : List Char} {h : Fields} {line : FieldValue} {name : String}

/-! ### Names -/

/-- A text that can be the name of a field. -/
def IsFieldName (s : List Char) : Prop :=
  s ≠ [] ∧ s.length ≤ longestFieldName ∧ ∀ c ∈ s, isTokenChar c = true

/-- Two texts that differ in case only. -/
def SameLetters (s t : List Char) : Prop := s.map Char.toLower = t.map Char.toLower

/-- All names are kept in lower case. -/
def Fields.Lowered (h : Fields) : Prop :=
  ∀ e ∈ h.entries, e.1.toList.map Char.toLower = e.1.toList

/-- A text in lower case is not changed again. -/
theorem toLower_toLower (c : Char) : c.toLower.toLower = c.toLower := by
  by_cases hupper : c.val ≥ 'A'.val ∧ c.val ≤ 'Z'.val
  · have hletters : ∀ n < 26, (Char.ofNat (65 + n)).toLower.toLower
        = (Char.ofNat (65 + n)).toLower := by decide
    have hlow : 65 ≤ c.toNat := UInt32.le_iff_toNat_le.mp hupper.1
    have hhigh : c.toNat ≤ 90 := UInt32.le_iff_toNat_le.mp hupper.2
    have hletter := hletters (c.toNat - 65) (by omega)
    rwa [Nat.add_sub_cancel' hlow, Char.ofNat_toNat] at hletter
  · have hsame : c.toLower = c := dif_neg hupper
    rw [hsame, hsame]

theorem fieldName?_eq_some {s name : String} :
    fieldName? s = some name ↔
      IsFieldName s.toList ∧ s.toList.map Char.toLower = name.toList := by
  have hvalid : (!s.toList.isEmpty && s.toList.length ≤ longestFieldName
      && s.toList.all isTokenChar) = true ↔ IsFieldName s.toList := by
    simp [IsFieldName, and_assoc]
  have hlowered : String.ofList (s.toList.map Char.toLower) = name
      ↔ s.toList.map Char.toLower = name.toList := by
    rw [← String.toList_inj, String.toList_ofList]
  rw [fieldName?, ← hvalid, ← hlowered]
  split
  · next hname => simp [hname]
  · next hname => simp [hname]

/-- No name has white space in it. -/
theorem isBlank_of_isTokenChar (hc : isTokenChar c = true) : isBlank c = false := by
  have hsigns : ∀ d ∈ "!#$%&'*+-.^_`|~".toList, isBlank d = false := forall_mem_of_all (by decide)
  rcases Bool.or_eq_true_iff.mp hc with hletter | hsign
  · delta Char.isAlphanum Char.isAlpha Char.isUpper Char.isLower Char.isDigit at hletter
    simp only [Bool.or_eq_true, Bool.and_eq_true, decide_eq_true_eq, UInt32.le_iff_toNat_le]
      at hletter
    change ((65 ≤ c.toNat ∧ c.toNat ≤ 90) ∨ (97 ≤ c.toNat ∧ c.toNat ≤ 122)) ∨
      (48 ≤ c.toNat ∧ c.toNat ≤ 57) at hletter
    exact isBlank_of_visible (by omega) (by omega)
  · exact hsigns c (List.contains_iff_mem.mp hsign)

/-! ### What `Connection` lines list -/

/-- A line that is a text lists a name. -/
def Lists (line : FieldValue) (name : String) : Prop :=
  ∃ text, line.text? = some text ∧ ∃ entry ∈ text.toList.splitOn ',', ∃ before token after,
    entry = before ++ (token ++ after) ∧ (∀ c ∈ before, isBlank c = true) ∧
      (∀ c ∈ after, isBlank c = true) ∧ IsFieldName token ∧ SameLetters token name.toList

/-- A name that concerns one connection only: it always does, or some `Connection` line lists it. -/
def OfConnection (h : Fields) (name : String) : Prop :=
  name ∈ hopNames ∨ ∃ line ∈ h.getAll "connection", Lists line name

/-- A name in lower case is listed by a line exactly if it is read of one of the entries. -/
theorem lists_iff (hname : name.toList.map Char.toLower = name.toList) :
    Lists line name ↔
      ∃ text, line.text? = some text ∧
        ∃ entry ∈ commaEntries text, fieldName? entry = some name := by
  refine exists_congr fun text => and_congr_right fun _ => ?_
  simp only [commaEntries, List.mem_map, exists_exists_and_eq_and, fieldName?_eq_some,
    String.toList_ofList]
  refine exists_congr fun entry => and_congr_right fun _ => ?_
  simp only [SameLetters, hname]
  constructor
  · rintro ⟨before, token, after, hentry, hbefore, hafter, htoken, hletters⟩
    have hnone : ∀ c ∈ token, isBlank c = false := fun c hc =>
      isBlank_of_isTokenChar (htoken.2.2 c hc)
    rw [(trim_eq_iff hnone).mpr ⟨before, after, hentry, hbefore, hafter⟩]
    exact ⟨htoken, hletters⟩
  · rintro ⟨htoken, hletters⟩
    have hnone : ∀ c ∈ trim entry, isBlank c = false := fun c hc =>
      isBlank_of_isTokenChar (htoken.2.2 c hc)
    obtain ⟨before, after, hentry, hbefore, hafter⟩ := (trim_eq_iff hnone).mp rfl
    exact ⟨before, _, after, hentry, hbefore, hafter, htoken, hletters⟩

/-- A name that is not passed on is one of those that are dropped. -/
theorem ofConnection_iff (hname : name.toList.map Char.toLower = name.toList) :
    OfConnection h name ↔ name ∈ hopNames ∨ name ∈ namedByConnection h := by
  rw [mem_namedByConnection]
  exact or_congr_right (exists_congr fun _ => and_congr_right fun _ => lists_iff hname)

/-- Names that are read of an entry are in lower case. -/
theorem lowered_of_named (hnamed : NamedByConnection h name) :
    name.toList.map Char.toLower = name.toList := by
  obtain ⟨-, -, -, -, entry, -, hentry⟩ := hnamed
  rw [← (fieldName?_eq_some.mp hentry).2, List.map_map]
  exact List.map_congr_left fun c _ => toLower_toLower c

/-! ### What is left -/

theorem Fields.eq_of_entries {h h' : Fields} (heq : h.entries = h'.entries) : h = h' := by
  cases h
  cases h'
  exact congrArg Fields.mk heq

theorem Fields.eraseAll_eq (h : Fields) (names : List String) :
    h.eraseAll names = ⟨h.entries.filter fun e => e.1 ∉ names⟩ := by
  unfold eraseAll
  induction names generalizing h with
  | nil => exact congrArg Fields.mk (List.filter_eq_self.mpr fun e _ => by simp).symm
  | cons name rest ih =>
    rw [List.foldl_cons, ih, erase, List.filter_filter]
    simp [not_or, Bool.and_comm]

theorem entries_stripHop (h : Fields) : (stripHop h).entries
    = h.entries.filter fun e => ¬ (e.1 ∈ hopNames ∨ e.1 ∈ namedByConnection h) := by
  rw [stripHop, Fields.eraseAll_eq, Fields.eraseAll_eq, List.filter_filter]
  simp [not_or]

/-- The lines that name fields are not passed on themselves. -/
theorem namedByConnection_stripHop (h : Fields) : namedByConnection (stripHop h) = [] := by
  rw [namedByConnection, (getAll_stripHop h "connection").1 (.inl (by decide))]
  rfl

/-- So nothing is dropped when the rest is stripped again. -/
theorem stripHop_stripHop (h : Fields) : stripHop (stripHop h) = stripHop h := by
  have hkept : ∀ e ∈ (stripHop h).entries, e.1 ∉ hopNames := by
    intro e he hhop
    rw [entries_stripHop, List.mem_filter, decide_eq_true_eq] at he
    exact he.2 (.inl hhop)
  have hentries : (stripHop (stripHop h)).entries = (stripHop h).entries := by
    rw [entries_stripHop (stripHop h), namedByConnection_stripHop, List.filter_eq_self]
    intro e he
    rw [decide_eq_true_eq, or_iff_left List.not_mem_nil]
    exact hkept e he
  exact Fields.eq_of_entries hentries

open Classical in
/-- **What concerns one connection only is dropped, and nothing else.** Dropped are the eight names
that always do, and those that a `Connection` line lists which is a text: between its commas, with
or without white space around, there is a text that can name a field and differs from the name in
case only. All lines of any other name are kept as they are, in their order. When the fields are
stripped a second time, nothing happens. -/
theorem stripHop_exact (h : Fields) (hlowered : h.Lowered) :
    (stripHop h).entries = (h.entries.filter fun e => ¬ OfConnection h e.1) ∧
    (∀ name, ¬ OfConnection h name → (stripHop h).getAll name = h.getAll name) ∧
    stripHop (stripHop h) = stripHop h := by
  refine ⟨?_, fun name hname => ?_, stripHop_stripHop h⟩
  · rw [entries_stripHop]
    refine List.filter_congr fun e he => ?_
    rw [decide_eq_decide, ofConnection_iff (hlowered e he)]
  · refine (getAll_stripHop h name).2 (fun hhop => hname (.inl hhop)) fun hnamed => hname ?_
    rw [ofConnection_iff (lowered_of_named hnamed)]
    exact .inr (mem_namedByConnection.mpr hnamed)

open Classical in
/-- Two `Connection` lines. The first one lists a field that has two lines, in another case and
behind a tab, and besides that nothing and something that is no name. The second one is no text, so
the field that it seems to list is kept, with both its lines. -/
theorem stripHop_exact_two_lines :
    let text (s : String) : FieldValue := utf8 s.toList
    let h : Fields := ⟨[("x-kept", text "1"), ("connection", text "Close ,\tX-Secret,, a b"),
      ("x-secret", text "2"), ("te", text "trailers"), ("connection", text "x-kept, é"),
      ("x-kept", text "3"), ("x-secret", text "4")]⟩
    h.Lowered ∧ OfConnection h "x-secret" ∧
      (h.entries.filter fun e => ¬ OfConnection h e.1)
        = [("x-kept", text "1"), ("x-kept", text "3")] ∧
      stripHop (stripHop h) = stripHop h := by
  intro text h
  have hlowered : h.Lowered := by
    unfold Fields.Lowered
    decide +kernel
  have hlisted : OfConnection h "x-secret" := (ofConnection_iff (by decide)).mpr (by decide +kernel)
  have hentries : (stripHop h).entries = [("x-kept", text "1"), ("x-kept", text "3")] := by
    decide +kernel
  obtain ⟨hexact, -, htwice⟩ := stripHop_exact h hlowered
  exact ⟨hlowered, hlisted, hexact.symm.trans hentries, htwice⟩

end HttpGateway.Http
