import ClassApi.Proofs.Words

/-!
# Names that camel case leaves alone

A name in camel case is cut into words again at its capitals and digits. Each character then is
written as a capital where a word begins and in lower case elsewhere, so camel case leaves the name
alone unless a capital is not cut off from the character before it. That happens to a word of one
letter behind another such word, since the two look like an acronym; in front of any other word the
cut survives. So camel case is stable just when no two words of one letter follow each other behind
the first word.
-/

namespace ClassApi

namespace Naming

/-! ## Camel case, character by character -/

/-- Characters behind `prev` in camel case: capitals where words begin, and small letters
elsewhere. -/
def recased (prev : Char) : List Char → List Char
  | [] => []
  | c :: rest => (if startsWord prev c rest.head? then c.toUpper else c.toLower) :: recased c rest

/-- The words behind a word that was begun, in camel case, are what is left of the text, in camel
case. -/
theorem exists_splitWords_recased {cs : List Char} (h : AllAlphanum cs) (prev : Char)
    (before : List Char) :
    ∃ more others, splitWords (prev :: before) cs = ((prev :: before).reverse ++ more) :: others ∧
      small more ++ (others.map small).flatMap capital = recased prev cs := by
  induction cs generalizing prev before with
  | nil => exact ⟨[], [], by rw [List.append_nil]; rfl, rfl⟩
  | cons c rest ih =>
    have hc : c.isAlphanum = true := h c List.mem_cons_self
    have hrest : AllAlphanum rest := fun d hd => h d (List.mem_cons_of_mem _ hd)
    rw [splitWords.eq_def, recased]
    simp only [hc, Bool.not_true, Bool.false_eq_true, if_false]
    by_cases hstarts : startsWord prev c rest.head? = true
    · obtain ⟨more, others, hsplit, hrecased⟩ := ih hrest c []
      refine ⟨[], (c :: more) :: others, ?_, ?_⟩
      · rw [if_pos hstarts, List.append_nil, hsplit]
        rfl
      · rw [if_pos hstarts, ← hrecased, ← toUpper_toLower]
        rfl
    · obtain ⟨more, others, hsplit, hrecased⟩ := ih hrest c (prev :: before)
      refine ⟨c :: more, others, ?_, ?_⟩
      · rw [if_neg hstarts, hsplit, List.reverse_cons, List.append_assoc, List.singleton_append]
      · rw [if_neg hstarts, ← hrecased]
        rfl

/-- Camel case of a text of letters and digits. -/
theorem toList_camelCase_of_cons {text : String} {c : Char} {rest : List Char}
    (htext : text.toList = c :: rest) (h : AllAlphanum text.toList) :
    (camelCase text).toList = c.toLower :: recased c rest := by
  rw [htext] at h
  obtain ⟨more, others, hsplit, hrecased⟩ :=
    exists_splitWords_recased (fun d hd => h d (List.mem_cons_of_mem _ hd)) c []
  have hc : c.isAlphanum = true := h c List.mem_cons_self
  have hwords : splitWords [] text.toList = (c :: more) :: others := by
    rw [htext, splitWords.eq_def]
    simp only [hc, Bool.not_true, Bool.false_eq_true, if_false]
    rw [hsplit]
    rfl
  rw [toList_camelCase, smallWords, hwords, ← hrecased]
  rfl

/-! ## Characters that are left alone -/

/-- Whether a word is a single letter. -/
def IsLetter (word : List Char) : Prop :=
  ∃ c, word = [c] ∧ c.isAlpha = true

theorem IsWord.wellSplit {word : List Char} (h : IsWord word) : WellSplit [word] where
  nonempty := List.forall_mem_singleton.mpr h.nonempty
  alphanum := List.forall_mem_singleton.mpr h.alphanum
  uniform := List.forall_mem_singleton.mpr h.isUniform
  apart := List.isChain_singleton word

theorem isLower_or_isDigit_of_goesOn {c d : Char} (h : goesOn c d = true) :
    d.isLower = true ∨ d.isDigit = true := by
  rw [goesOn] at h
  split at h
  · exact Or.inr h
  · exact Or.inl h

theorem isUpper_of_goesOn {c d : Char} (h : goesOn c d = true) : d.isUpper = false := by
  rcases isLower_or_isDigit_of_goesOn h with hlower | hdigit
  · exact isUpper_of_isLower hlower
  · exact isUpper_of_isDigit hdigit

theorem goesOn_congr {c d : Char} (h : c.isDigit = d.isDigit) : goesOn c = goesOn d := by
  rw [goesOn, goesOn, h]

theorem isDigit_of_goesOn_eq {c d : Char} (h : goesOn c d = true) : d.isDigit = c.isDigit := by
  rw [goesOn] at h
  split at h
  · next hc => rw [hc, h]
  · next hc => rw [isDigit_of_isLower h, Bool.eq_false_iff.mpr hc]

theorem startsWord_of_goesOn {c d : Char} (h : goesOn c d = true) (next : Option Char) :
    startsWord c d next = false := by
  rw [startsWord, isUpper_of_goesOn h, isDigit_of_goesOn_eq h]
  simp

/-- What goes on with a word is left alone. -/
theorem recased_append {prev : Char} {run : List Char} (h : ∀ d ∈ run, goesOn prev d = true)
    (rest : List Char) : recased prev (run ++ rest) = run ++ recased (run.getLastD prev) rest := by
  induction run generalizing prev with
  | nil => rfl
  | cons c run ih =>
    obtain ⟨hc, hrun⟩ := List.forall_mem_cons.mp h
    have hsame : c.toLower = c := toLower_of_not_isUpper (isUpper_of_goesOn hc)
    have hgoes : goesOn c = goesOn prev := goesOn_congr (isDigit_of_goesOn_eq hc)
    rw [List.cons_append, recased, startsWord_of_goesOn hc, if_neg Bool.false_ne_true, hsame,
      List.getLastD_cons, ih (hgoes ▸ hrun), List.cons_append]

/-- The first character of a word stays as it is unless it is a capital behind another one that no
small letter follows. -/
theorem recased_capital_iff {prev : Char} (hprev : prev.isAlphanum = true) (c : Char)
    (next : Option Char) :
    (if startsWord prev c.toUpper next then c.toUpper.toUpper else c.toUpper.toLower) = c.toUpper ↔
      ¬ (prev.isUpper = true ∧ c.isAlpha = true ∧ (next.map Char.isLower).getD false = false) := by
  by_cases halpha : c.isAlpha = true
  · have hupper : c.toUpper.isUpper = true := (isUpper_toUpper c).trans halpha
    have hdigit : c.toUpper.isDigit = false := (isDigit_toUpper c).trans (isDigit_of_isAlpha halpha)
    have hlower : c.toUpper.toLower ≠ c.toUpper := fun he => by
      have hsmall := isUpper_toLower c.toUpper
      rw [he, hupper] at hsmall
      cases hsmall
    have hkept : (if startsWord prev c.toUpper next then c.toUpper.toUpper else c.toUpper.toLower) =
        c.toUpper ↔ startsWord prev c.toUpper next = true := by
      split
      · next hstarts => simp only [toUpper_toUpper, hstarts]
      · next hstarts => simp only [hlower, hstarts, Bool.false_eq_true]
    rw [hkept, startsWord, hupper, hdigit, halpha]
    rw [Char.isAlphanum, isAlpha_eq, Bool.or_eq_true, Bool.or_eq_true] at hprev
    -- behind a small letter or a digit a capital always begins a word
    rcases hprev with (hprev | hprev) | hprev
    · rw [hprev, isDigit_of_isUpper hprev, isLower_of_isUpper hprev]
      simp
    · rw [hprev]
      simp [isUpper_of_isLower hprev]
    · rw [hprev, isUpper_of_isDigit hprev]
      simp
  · have hnot := Bool.eq_false_iff.mpr halpha
    have hsame : c.toUpper = c :=
      toUpper_of_not_isLower (Bool.eq_false_iff.mpr (mt isAlpha_of_isLower halpha))
    have hsmall : c.toLower = c :=
      toLower_of_not_isUpper (Bool.eq_false_iff.mpr (mt isAlpha_of_isUpper halpha))
    rw [hsame, hsame, hsmall, hnot]
    simp

/-! ## Words that are left alone -/

section Word

variable {word : List Char}

theorem IsWord.goesOn {c : Char} {rest : List Char} (h : IsWord (c :: rest)) :
    ∀ d ∈ small rest, goesOn c d = true :=
  goesOn_small h.wellSplit

theorem capital_small_cons (c : Char) (rest : List Char) :
    capital (small (c :: rest)) = c.toUpper :: small rest := by
  rw [small, List.map_cons, capital, toUpper_toLower, small]

/-- A word with a capital ends in one just when it is a single letter. -/
theorem isUpper_getLastD_iff (h : IsWord word) (prev : Char) :
    ((capital (small word)).getLastD prev).isUpper = true ↔ IsLetter word := by
  obtain ⟨c, rest, rfl⟩ := List.exists_cons_of_ne_nil h.nonempty
  rw [capital_small_cons, List.getLastD_cons]
  cases rest with
  | nil =>
    show c.toUpper.isUpper = true ↔ _
    rw [isUpper_toUpper]
    constructor
    · exact fun halpha => ⟨c, rfl, halpha⟩
    · rintro ⟨d, hd, halpha⟩
      cases hd
      exact halpha
  | cons d rest =>
    have hmem : (small (d :: rest)).getLastD c.toUpper ∈ small (d :: rest) := by
      rw [small, List.map_cons, List.getLastD_cons]
      exact List.getLastD_mem_cons
    rw [isUpper_of_goesOn (h.goesOn _ hmem)]
    constructor
    · exact fun hfalse => absurd hfalse Bool.false_ne_true
    · rintro ⟨e, he, -⟩
      cases he

/-- A word with a capital is left alone unless it is a letter behind a capital. -/
theorem recased_word_iff (h : IsWord word) {prev : Char} (hprev : prev.isAlphanum = true)
    {rest : List Char} (hrest : ∀ d, rest.head? = some d → d.isLower = false) :
    recased prev (capital (small word) ++ rest) = capital (small word) ++ rest ↔
      ¬ (prev.isUpper = true ∧ IsLetter word) ∧
      recased ((capital (small word)).getLastD prev) rest = rest := by
  obtain ⟨c, more, rfl⟩ := List.exists_cons_of_ne_nil h.nonempty
  have hgoes : goesOn c.toUpper = Naming.goesOn c := goesOn_congr (isDigit_toUpper c)
  have hletter :
      c.isAlpha = true ∧ ((small more ++ rest).head?.map Char.isLower).getD false = false ↔
      IsLetter (c :: more) := by
    cases more with
    | nil =>
      -- what follows does not begin with a small letter
      have hnext : (rest.head?.map Char.isLower).getD false = false := by
        cases hhead : rest.head? with
        | none => rfl
        | some d => exact hrest d hhead
      constructor
      · exact fun hc => ⟨c, rfl, hc.1⟩
      · rintro ⟨d, hd, halpha⟩
        cases hd
        exact ⟨halpha, hnext⟩
    | cons d more =>
      constructor
      · rintro ⟨halpha, hnext⟩
        -- the letter that follows in the word is a small one
        have hd : d.isAlpha = true := (h.kind.resolve_left fun hdigits => by
          have hdigit := hdigits c List.mem_cons_self
          rw [isDigit_of_isAlpha halpha] at hdigit
          cases hdigit) d (List.mem_cons_of_mem _ List.mem_cons_self)
        have hlower : d.toLower.isLower = false := hnext
        rw [isLower_toLower, hd] at hlower
        cases hlower
      · rintro ⟨e, he, -⟩
        cases he
  rw [capital_small_cons, List.cons_append, recased, recased_append (hgoes ▸ h.goesOn),
    List.cons.injEq, List.append_right_inj, recased_capital_iff hprev, hletter, List.getLastD_cons]

theorem IsWord.getLastD_alphanum (h : IsWord word) (prev : Char) :
    ((capital (small word)).getLastD prev).isAlphanum = true := by
  obtain ⟨c, rest, rfl⟩ := List.exists_cons_of_ne_nil h.nonempty
  have halphanum : AllAlphanum (c.toUpper :: small rest) :=
    AllAlphanum.cons (alphanum_facts (h.alphanum c List.mem_cons_self)).1
      (small_alphanum fun d hd => h.alphanum d (List.mem_cons_of_mem _ hd))
  rw [capital_small_cons, List.getLastD_cons]
  exact halphanum _ List.getLastD_mem_cons

end Word

/-- Words with capitals do not begin with a small letter. -/
theorem isLower_head?_capitals {ws : List (List Char)} (hws : ∀ word ∈ ws, IsWord word) {d : Char}
    (hd : (capitals ws).head? = some d) : d.isLower = false := by
  cases ws with
  | nil => cases hd
  | cons word others =>
    obtain ⟨c, rest, rfl⟩ := List.exists_cons_of_ne_nil (hws _ List.mem_cons_self).nonempty
    cases hd
    exact isLower_toUpper _

/-- Words with capitals are left alone unless one is a letter behind another letter, or the first
one behind a capital. -/
theorem recased_capitals_iff {prev : Char} (hprev : prev.isAlphanum = true) {ws : List (List Char)}
    (hws : ∀ word ∈ ws, IsWord word) :
    recased prev (capitals ws) = capitals ws ↔
      (∀ word ∈ ws.head?, ¬ (prev.isUpper = true ∧ IsLetter word)) ∧
        ws.IsChain fun word next => ¬ (IsLetter word ∧ IsLetter next) := by
  induction ws generalizing prev with
  | nil => exact ⟨fun _ => ⟨fun word hword => (nomatch hword), List.isChain_nil⟩, fun _ => rfl⟩
  | cons word ws ih =>
    obtain ⟨hword, hothers⟩ := List.forall_mem_cons.mp hws
    have hcapitals : capitals (word :: ws) = capital (small word) ++ capitals ws := rfl
    rw [hcapitals, recased_word_iff hword hprev fun d hd => isLower_head?_capitals hothers hd,
      ih (hword.getLastD_alphanum prev) hothers, List.isChain_cons, isUpper_getLastD_iff hword prev]
    simp

/-- Camel case leaves a name in camel case alone just when no two words of one letter follow each
other behind the first word of the name. -/
theorem camelCase_camelCase_iff (name : String) :
    camelCase (camelCase name) = camelCase name ↔
      (words name).tail.IsChain fun word next =>
        ¬ (IsLetter word.toList ∧ IsLetter next.toList) := by
  have hws : ∀ word ∈ splitWords [] name.toList, IsWord word :=
    (divides_splitWords [] name.toList (pending_nil name.toList)).isWord
  have hname := toList_camelCase name
  rw [words, ← List.map_tail, List.isChain_map]
  simp only [String.toList_ofList]
  rw [smallWords] at hname
  cases hsplit : splitWords [] name.toList with
  | nil =>
    rw [hsplit] at hname
    have hempty : camelCase name = "" := String.toList_eq_nil_iff.mp hname
    rw [hempty]
    exact ⟨fun _ => List.isChain_nil, fun _ => rfl⟩
  | cons word others =>
    rw [hsplit] at hws hname
    obtain ⟨hword, hothers⟩ := List.forall_mem_cons.mp hws
    obtain ⟨c, rest, rfl⟩ := List.exists_cons_of_ne_nil hword.nonempty
    have htext : (camelCase name).toList = c.toLower :: (small rest ++ capitals others) := hname
    have hgoes : goesOn c.toLower = goesOn c := goesOn_congr (isDigit_toLower c)
    -- the first word ends in a small letter or a digit
    have hmem : (small rest).getLastD c.toLower ∈ small (c :: rest) := List.getLastD_mem_cons
    have halphanum : ((small rest).getLastD c.toLower).isAlphanum = true :=
      small_alphanum hword.alphanum _ hmem
    have hupper : ((small rest).getLastD c.toLower).isUpper = false := by
      obtain ⟨d, -, hd⟩ := List.mem_map.mp hmem
      rw [← hd, isUpper_toLower]
    rw [← String.toList_inj, toList_camelCase_of_cons htext (camelCase_alphanum name), htext,
      toLower_toLower, List.cons.injEq, recased_append (hgoes ▸ hword.goesOn),
      List.append_right_inj,
      recased_capitals_iff halphanum hothers, hupper, List.tail_cons]
    simp

/-- Letters behind the first word run into one another. -/
example : camelCase "x_y_z" = "xYZ" := by
  cbv

example : camelCase "xYZ" = "xYz" := by
  cbv

end Naming

end ClassApi
