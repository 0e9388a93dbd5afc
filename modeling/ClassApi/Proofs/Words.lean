import ClassApi.Proofs.WordCuts
import Mathlib.Data.List.Chain

/-!
# Words

A text of letters and digits is split where the case changes and between letters and digits, so its
words are numbers or have no digits, and no number follows another. In camel case the words are put
back together, each but the first with a capital. As a number ends before the next letter and any
other word before the next capital or digit, the words can be read off again: texts of letters and
digits have one camel case exactly when they have the same words, up to the case of the letters.
What a name loses on the way are the characters between its words and the case of its letters.
-/

namespace ClassApi

namespace Naming

/-! ## A word behind a text -/

theorem startsWord_of_capital {prev c next : Char} (hprev : prev.isAlphanum = true)
    (hc : c.isUpper = true) (hnext : next.isLower = true) :
    startsWord prev c (some next) = true := by
  rw [Char.isAlphanum, isAlpha_eq, Bool.or_eq_true, Bool.or_eq_true] at hprev
  rw [startsWord, hc, isDigit_of_isUpper hc, Option.map_some, Option.getD_some, hnext]
  rcases hprev with (hupper | hlower) | hdigit
  · simp [hupper]
  · simp [hlower]
  · simp [hdigit]

theorem startsWord_before_capital {c : Char} (prev d : Char) (hc : c.isUpper = true) :
    startsWord prev d (some c) = startsWord prev d none := by
  rw [startsWord, startsWord, Option.map_some, isLower_of_isUpper hc]
  rfl

/-- A text that begins with a capital and a small letter is split off from what stands before it. -/
theorem splitWords_append {c next : Char} (hc : c.isUpper = true) (hnext : next.isLower = true)
    (after cs : List Char) {current : List Char} (hcurrent : AllAlphanum current) :
    splitWords current (cs ++ c :: next :: after) = splitWords current cs ++
      splitWords [c] (next :: after) := by
  have halphanum := isAlphanum_of_isAlpha (isAlpha_of_isUpper hc)
  induction cs generalizing current with
  | nil =>
    rw [List.nil_append, splitWords.eq_def current (c :: next :: after),
      splitWords.eq_def current []]
    simp only [halphanum, Bool.not_true, Bool.false_eq_true, if_false]
    cases current with
    | nil => rfl
    | cons prev before =>
      simp only
      rw [List.head?_cons,
        if_pos (startsWord_of_capital (hcurrent prev List.mem_cons_self) hc hnext)]
      rfl
  | cons d rest ih =>
    have hlook : ∀ prev, startsWord prev d (rest ++ c :: next :: after).head? =
        startsWord prev d rest.head? := by
      intro prev
      cases rest with
      | nil => exact startsWord_before_capital prev d hc
      | cons e others => rfl
    rw [List.cons_append, splitWords.eq_def current (d :: (rest ++ c :: next :: after)),
      splitWords.eq_def current (d :: rest)]
    simp only [hlook]
    by_cases hd : d.isAlphanum = true
    · rw [hd, Bool.not_true, if_neg Bool.false_ne_true, if_neg Bool.false_ne_true]
      cases current with
      | nil => exact ih (AllAlphanum.cons hd AllAlphanum.nil)
      | cons prev before =>
        simp only
        split
        · rw [ih (AllAlphanum.cons hd AllAlphanum.nil), List.cons_append]
        · exact ih (AllAlphanum.cons hd hcurrent)
    · have hnot : (!d.isAlphanum) = true := by simpa using hd
      rw [if_pos hnot, if_pos hnot, ih AllAlphanum.nil]
      split
      · rfl
      · rw [List.cons_append]

/-! ## The words of a text of letters and digits -/

/-- Whether words can be those of a text of letters and digits. -/
structure WellSplit (ws : List (List Char)) : Prop where
  /-- No word is empty. -/
  nonempty : ∀ word ∈ ws, word ≠ []
  /-- Words hold letters and digits. -/
  alphanum : ∀ word ∈ ws, AllAlphanum word
  /-- Every word is a number or has no digits. -/
  uniform : ∀ word ∈ ws, IsUniform word
  /-- No number follows another one. -/
  apart : ws.IsChain fun word next => ¬ (IsNumber word ∧ IsNumber next)

/-- Between digits there is no cut. -/
theorem not_cut_of_isDigit {prev c : Char} (hprev : prev.isDigit = true) (hc : c.isDigit = true)
    (after : List Char) : ¬ Cut prev c after := by
  have hnot : ¬ c.isUpper = true := by rw [isUpper_of_isDigit hc]; exact Bool.false_ne_true
  intro h
  cases h with
  | rise _ hupper => exact hnot hupper
  | kind hkind => exact hkind (hprev.trans hc.symm)
  | acronym _ hupper => exact hnot hupper

/-- No number follows another one where nothing is skipped. -/
theorem Divides.isChain {text : List Char} {ws : List (List Char)} (h : Divides text ws)
    (halphanum : AllAlphanum text) :
    ws.IsChain fun word next => ¬ (IsNumber word ∧ IsNumber next) := by
  induction h with
  | nil => exact List.isChain_nil
  | skip hc _ _ =>
    rw [halphanum _ List.mem_cons_self] at hc
    cases hc
  | @word word text ws hword hcut hrest ih =>
    have htext : AllAlphanum text := fun c hc => halphanum c (List.mem_append_right word hc)
    refine List.isChain_cons.mpr ⟨fun next hnext ⟨hnumber, hnumber'⟩ => ?_, ih htext⟩
    cases hrest with
    | nil => cases hnext
    | skip hc _ =>
      rw [htext _ List.mem_cons_self] at hc
      cases hc
    | @word following text ws hfollowing _ _ =>
      -- the next word begins right behind the number, at a cut
      cases hnext
      obtain ⟨c, more, rfl⟩ := List.exists_cons_of_ne_nil hfollowing.nonempty
      have hlast := List.getLast?_eq_some_getLast hword.nonempty
      have hc := hnumber' c List.mem_cons_self
      exact not_cut_of_isDigit (hnumber _ (List.getLast_mem hword.nonempty)) hc _
        (hcut _ c _ hlast rfl (hfollowing.alphanum c List.mem_cons_self))

theorem wellSplit_splitWords {cs : List Char} (h : AllAlphanum cs) :
    WellSplit (splitWords [] cs) := by
  have hdivides : Divides cs (splitWords [] cs) := divides_splitWords [] cs (pending_nil cs)
  exact ⟨fun word hword => (hdivides.isWord word hword).nonempty,
    fun word hword => (hdivides.isWord word hword).alphanum,
    fun word hword => (hdivides.isWord word hword).isUniform, hdivides.isChain h⟩

theorem WellSplit.tail {word : List Char} {ws : List (List Char)} (h : WellSplit (word :: ws)) :
    WellSplit ws :=
  ⟨fun w hw => h.nonempty w (List.mem_cons_of_mem _ hw),
    fun w hw => h.alphanum w (List.mem_cons_of_mem _ hw),
    fun w hw => h.uniform w (List.mem_cons_of_mem _ hw), (List.isChain_cons.mp h.apart).2⟩

/-! ## Words put together -/

/-- A word in lower case. -/
def small (word : List Char) : List Char :=
  word.map Char.toLower

/-- A word with a capital. -/
def capital : List Char → List Char
  | [] => []
  | c :: rest => c.toUpper :: rest

theorem toList_upperFirst {word : List Char} (h : AllAlphanum word) :
    (upperFirst (String.ofList word)).toList = capital word := by
  rw [upperFirst, String.toList_ofList]
  cases word with
  | nil => rfl
  | cons c rest =>
    simp only [String.toList_ofList,
      upperChar_ascii (toNat_lt_of_isAlphanum (h c List.mem_cons_self))]
    rfl

/-- The words of a name in lower case. -/
def smallWords (name : String) : List (List Char) :=
  (splitWords [] name.toList).map small

/-- Words with capitals, put together. -/
def capitals (ws : List (List Char)) : List Char :=
  (ws.map small).flatMap capital

theorem small_alphanum {word : List Char} (h : AllAlphanum word) : AllAlphanum (small word) := by
  intro c hc
  obtain ⟨d, hd, rfl⟩ := List.mem_map.mp hc
  exact (alphanum_facts (h d hd)).2

/-- Words put together, each but the first with a capital. -/
def joined : List (List Char) → List Char
  | [] => []
  | word :: others => word ++ others.flatMap capital

theorem toList_camelCase (name : String) : (camelCase name).toList = joined (smallWords name) := by
  have hwords := splitWords_alphanum name.toList AllAlphanum.nil
  have hlower : ∀ word : List Char, (String.ofList word).toLower = String.ofList (small word) := by
    intro word
    rw [← String.toList_inj, toList_toLower, String.toList_ofList, String.toList_ofList, small]
  rw [camelCase, words, smallWords]
  cases hsplit : splitWords [] name.toList with
  | nil => rfl
  | cons word others =>
    rw [hsplit] at hwords
    simp only [List.map_cons, joined, String.toList_join, List.flatMap_cons, List.map_map, hlower,
      String.toList_ofList]
    rw [List.flatMap_map, List.flatMap_map]
    refine congrArg _ (List.flatMap_congr fun other hother => ?_)
    show (upperFirst (String.ofList other).toLower).toList = capital (small other)
    rw [hlower, toList_upperFirst (small_alphanum (hwords other (List.mem_cons_of_mem _ hother)))]

theorem smallWords_append {c next : Char} (hc : c.isUpper = true) (hnext : next.isLower = true)
    (after : List Char) (name : String) :
    smallWords (name ++ String.ofList (c :: next :: after)) =
      smallWords name ++ (splitWords [c] (next :: after)).map small := by
  rw [smallWords, smallWords, String.toList_append, String.toList_ofList,
    splitWords_append hc hnext after name.toList AllAlphanum.nil, List.map_append]

/-! ## What is kept -/

theorem small_small (word : List Char) : small (small word) = small word := by
  rw [small, small, List.map_map]
  exact List.map_congr_left fun c _ => toLower_toLower c

theorem small_capital (word : List Char) : small (capital word) = small word := by
  cases word with
  | nil => rfl
  | cons c rest => rw [capital, small, List.map_cons, toLower_toUpper, small, List.map_cons]

theorem small_append (front back : List Char) : small (front ++ back) = small front ++ small back :=
  List.map_append

theorem small_capitals (ws : List (List Char)) : small (capitals ws) = small ws.flatten := by
  induction ws with
  | nil => rfl
  | cons word ws ih =>
    rw [capitals, List.map_cons, List.flatMap_cons, ← capitals, List.flatten_cons, small_append,
      small_append, ih, small_capital, small_small]

/-- Words that are put together in camel case keep their characters up to case. -/
theorem small_joined (ws : List (List Char)) :
    small (joined (ws.map small)) = small ws.flatten := by
  cases ws with
  | nil => rfl
  | cons word others =>
    rw [List.map_cons, joined, ← capitals, List.flatten_cons, small_append, small_append,
      small_capitals, small_small]

/-- What splitting a name and joining its words does to the characters of the name. -/
structure SplitLaws (name : String) : Prop where
  /-- The words are those that the name falls into, and it falls into no others. -/
  words_iff : ∀ ws : List String, words name = ws ↔ Divides name.toList (ws.map String.toList)
  /-- Put together, the words are the letters and digits of the name. -/
  flatten : (words name).flatMap String.toList = name.toList.filter Char.isAlphanum
  /-- Every word has characters, of one kind, and is not cut. -/
  isWord : ∀ word ∈ words name, IsWord word.toList
  /-- Camel case has letters and digits only. -/
  alphanum : AllAlphanum (camelCase name).toList
  /-- It does not begin with a capital. -/
  initial : ∀ c, initial (camelCase name) = some c → c.isUpper = false
  /-- It has the letters and digits of the name, up to case. -/
  letters : (camelCase name).toLower.toList = (name.toList.filter Char.isAlphanum).map Char.toLower

/-- Splitting a name into words loses no letter or digit and adds nothing, and so does joining them
in camel case but for the case of letters. -/
theorem split_laws (name : String) : SplitLaws name := by
  have hdivides : Divides name.toList (splitWords [] name.toList) :=
    divides_splitWords [] name.toList (pending_nil name.toList)
  refine ⟨fun ws => words_eq_iff, ?_, ?_, camelCase_alphanum name, fun c hc => ?_, ?_⟩
  · rw [words, List.flatMap_map]
    simp only [String.toList_ofList, List.flatMap_id']
    exact hdivides.flatten_eq
  · intro word hword
    obtain ⟨cs, hcs, rfl⟩ := List.mem_map.mp hword
    rw [String.toList_ofList]
    exact hdivides.isWord cs hcs
  · obtain ⟨d, -, rfl⟩ := initial_camelCase hc
    exact isUpper_toLower d
  · rw [toList_toLower, toList_camelCase, ← small, smallWords, small_joined,
      hdivides.flatten_eq, small]

/-! ## Reading words off -/

/-- How a word goes on behind its first character: with digits behind a digit, else with small
letters. -/
def goesOn (first : Char) : Char → Bool :=
  if first.isDigit then Char.isDigit else Char.isLower

section Reading

variable {c : Char} {rest : List Char} {ws : List (List Char)}

theorem goesOn_small (h : WellSplit ((c :: rest) :: ws)) : ∀ d ∈ small rest, goesOn c d = true := by
  intro e he
  obtain ⟨d, hd, rfl⟩ := List.mem_map.mp he
  rw [goesOn]
  rcases h.uniform _ List.mem_cons_self with hnumber | hletters
  · rw [if_pos (hnumber c List.mem_cons_self), isDigit_toLower]
    exact hnumber d (List.mem_cons_of_mem _ hd)
  · have halphanum := h.alphanum _ List.mem_cons_self d (List.mem_cons_of_mem _ hd)
    rw [Char.isAlphanum, hletters d (List.mem_cons_of_mem _ hd), Bool.or_false] at halphanum
    rw [if_neg (by rw [hletters c List.mem_cons_self]; exact Bool.false_ne_true),
      isLower_toLower, halphanum]

/-- What stands behind a word does not go on with it. -/
theorem goesOn_capitals (h : WellSplit ((c :: rest) :: ws)) :
    ∀ d, (capitals ws).head? = some d → goesOn c d = false := by
  intro e he
  cases ws with
  | nil => cases he
  | cons next others =>
    cases next with
    | nil => exact absurd rfl (h.nonempty [] (List.mem_cons_of_mem _ List.mem_cons_self))
    | cons d after =>
      have hhead : e = d.toUpper := toUpper_toLower d ▸ (Option.some.inj he).symm
      rw [hhead, goesOn]
      rcases h.uniform _ List.mem_cons_self with hnumber | hletters
      · rw [if_pos (hnumber c List.mem_cons_self), isDigit_toUpper]
        -- a number comes before, so the next word is none
        have hapart := (List.isChain_cons.mp h.apart).1 (d :: after) rfl
        rcases h.uniform _ (List.mem_cons_of_mem _ List.mem_cons_self) with hnext | hnext
        · exact absurd ⟨hnumber, hnext⟩ hapart
        · exact hnext d List.mem_cons_self
      · rw [if_neg (by rw [hletters c List.mem_cons_self]; exact Bool.false_ne_true),
          isLower_toUpper]

end Reading

/-- A text is cut where its characters stop having a property. -/
theorem append_inj_of_head {α : Type} {p : α → Bool} {front front' back back' : List α}
    (hfront : ∀ x ∈ front, p x = true) (hfront' : ∀ x ∈ front', p x = true)
    (hback : ∀ x, back.head? = some x → p x = false)
    (hback' : ∀ x, back'.head? = some x → p x = false) (h : front ++ back = front' ++ back') :
    front = front' ∧ back = back' := by
  have hstop : ∀ back : List α, (∀ x, back.head? = some x → p x = false) →
      back.takeWhile p = [] := by
    intro back hback
    cases back with
    | nil => rfl
    | cons x rest => rw [List.takeWhile_cons_of_neg (by rw [hback x rfl]; exact Bool.false_ne_true)]
  have htake := congrArg (List.takeWhile p) h
  rw [List.takeWhile_append_of_pos hfront, List.takeWhile_append_of_pos hfront', hstop back hback,
    hstop back' hback', List.append_nil, List.append_nil] at htake
  subst htake
  exact ⟨rfl, List.append_cancel_left h⟩

/-- Behind first characters of one small form, the rest of the word and what follows can be told
apart. -/
theorem small_append_capitals_inj {c c' : Char} {rest rest' : List Char} {ws ws' : List (List Char)}
    (h : WellSplit ((c :: rest) :: ws)) (h' : WellSplit ((c' :: rest') :: ws'))
    (hc : c.toLower = c'.toLower) (he : small rest ++ capitals ws = small rest' ++ capitals ws') :
    small rest = small rest' ∧ capitals ws = capitals ws' := by
  have hdigit : c.isDigit = c'.isDigit := by rw [← isDigit_toLower c, hc, isDigit_toLower]
  have hgoes : goesOn c' = goesOn c := by rw [goesOn, goesOn, hdigit]
  exact append_inj_of_head (goesOn_small h) (hgoes ▸ goesOn_small h') (goesOn_capitals h) (hgoes ▸
    goesOn_capitals h') he

theorem capitals_inj {ws ws' : List (List Char)} (h : WellSplit ws) (h' : WellSplit ws')
    (he : capitals ws = capitals ws') : ws.map small = ws'.map small := by
  induction ws generalizing ws' with
  | nil =>
    cases ws' with
    | nil => rfl
    | cons word' others' =>
      cases word' with
      | nil => exact absurd rfl (h'.nonempty [] List.mem_cons_self)
      | cons c' rest' => cases he
  | cons word others ih =>
    cases word with
    | nil => exact absurd rfl (h.nonempty [] List.mem_cons_self)
    | cons c rest =>
      cases ws' with
      | nil => cases he
      | cons word' others' =>
        cases word' with
        | nil => exact absurd rfl (h'.nonempty [] List.mem_cons_self)
        | cons c' rest' =>
          have hcons : c.toLower.toUpper :: (small rest ++ capitals others) =
              c'.toLower.toUpper :: (small rest' ++ capitals others') := he
          obtain ⟨hupper, htail⟩ := List.cons.inj hcons
          rw [toUpper_toLower, toUpper_toLower] at hupper
          have hc : c.toLower = c'.toLower := by
            rw [← toLower_toUpper, hupper, toLower_toUpper]
          obtain ⟨hrest, hothers⟩ := small_append_capitals_inj h h' hc htail
          have hword : small (c :: rest) = small (c' :: rest') := List.cons_eq_cons.mpr ⟨hc, hrest⟩
          rw [List.map_cons, List.map_cons, hword, ih h.tail h'.tail hothers]

/-- Texts of letters and digits have one camel case exactly when they have the same words, up to the
case of the letters. -/
theorem camelCase_eq_iff {name other : String} (h : AllAlphanum name.toList)
    (hother : AllAlphanum other.toList) :
    camelCase name = camelCase other ↔ smallWords name = smallWords other := by
  rw [← String.toList_inj, toList_camelCase, toList_camelCase, smallWords, smallWords]
  have hsplit := wellSplit_splitWords h
  have hsplit' := wellSplit_splitWords hother
  refine ⟨fun he => ?_, congrArg joined⟩
  generalize splitWords [] name.toList = ws at he hsplit ⊢
  generalize splitWords [] other.toList = ws' at he hsplit' ⊢
  have hempty : ∀ {ws : List (List Char)}, WellSplit ws → joined (ws.map small) = [] → ws = [] := by
    intro ws hws hjoined
    cases ws with
    | nil => rfl
    | cons word others =>
      have hword : small word = [] := (List.append_eq_nil_iff.mp hjoined).1
      exact absurd (List.map_eq_nil_iff.mp hword) (hws.nonempty word List.mem_cons_self)
  cases ws with
  | nil => rw [hempty hsplit' he.symm]
  | cons word others =>
    cases ws' with
    | nil => cases hempty hsplit he
    | cons word' others' =>
      cases word with
      | nil => exact absurd rfl (hsplit.nonempty [] List.mem_cons_self)
      | cons c rest =>
        cases word' with
        | nil => exact absurd rfl (hsplit'.nonempty [] List.mem_cons_self)
        | cons c' rest' =>
          have hcons : c.toLower :: (small rest ++ capitals others) =
              c'.toLower :: (small rest' ++ capitals others') := he
          obtain ⟨hc, htail⟩ := List.cons.inj hcons
          obtain ⟨hrest, hothers⟩ := small_append_capitals_inj hsplit hsplit' hc htail
          have hword : small (c :: rest) = small (c' :: rest') := List.cons_eq_cons.mpr ⟨hc, hrest⟩
          rw [List.map_cons, List.map_cons, hword, capitals_inj hsplit.tail hsplit'.tail hothers]

/-! ## Names in capitals -/

/-- A word in upper case. -/
def large (word : List Char) : List Char :=
  word.map Char.toUpper

theorem toList_screamingSnakeCase (name : String) :
    (screamingSnakeCase name).toList =
      ['_'].intercalate ((splitWords [] name.toList).map large) := by
  rw [screamingSnakeCase, words, String.toList_intercalate, List.map_map, List.map_map]
  refine congrArg _ (List.map_congr_left fun word _ => ?_)
  show (String.ofList word).toUpper.toList = large word
  rw [toList_toUpper, String.toList_ofList, large]

theorem small_large (word : List Char) : small (large word) = small word := by
  rw [small, large, List.map_map]
  exact List.map_congr_left fun c _ => toLower_toUpper c

theorem large_small (word : List Char) : large (small word) = large word := by
  rw [large, small, List.map_map]
  exact List.map_congr_left fun c _ => toUpper_toLower c

theorem map_large_eq_iff {ws ws' : List (List Char)} :
    ws.map large = ws'.map large ↔ ws.map small = ws'.map small := by
  have hsmall : ∀ ws : List (List Char), (ws.map large).map small = ws.map small := fun ws => by
    rw [List.map_map]
    exact List.map_congr_left fun word _ => small_large word
  have hlarge : ∀ ws : List (List Char), (ws.map small).map large = ws.map large := fun ws => by
    rw [List.map_map]
    exact List.map_congr_left fun word _ => large_small word
  constructor
  · intro he
    rw [← hsmall ws, he, hsmall ws']
  · intro he
    rw [← hlarge ws, he, hlarge ws']

/-- Texts that have words agree in capitals exactly when they have the same words, up to the case of
the letters. -/
theorem screamingSnakeCase_eq_iff {name other : String} (h : smallWords name ≠ [])
    (hother : smallWords other ≠ []) :
    screamingSnakeCase name = screamingSnakeCase other ↔ smallWords name = smallWords other := by
  have hwords : ∀ text : String, ∀ word ∈ splitWords [] text.toList, AllAlphanum word := fun text =>
    splitWords_alphanum text.toList AllAlphanum.nil
  have hplain : ∀ text : String, ∀ word ∈ (splitWords [] text.toList).map large, '_' ∉ word := by
    intro text word hword hmem
    obtain ⟨given, hgiven, rfl⟩ := List.mem_map.mp hword
    obtain ⟨c, hc, hupper⟩ := List.mem_map.mp hmem
    have halphanum := (alphanum_facts (hwords text given hgiven c hc)).1
    rw [hupper] at halphanum
    exact absurd halphanum (by decide)
  have hsplit : ∀ text : String, smallWords text ≠ [] →
      (screamingSnakeCase text).toList.splitOn '_' = (splitWords [] text.toList).map large := by
    intro text hne
    rw [toList_screamingSnakeCase, List.splitOn_intercalate '_' (hplain text)]
    exact fun he => hne (List.map_eq_nil_iff.mpr (List.map_eq_nil_iff.mp he))
  rw [← String.toList_inj, smallWords, smallWords, ← map_large_eq_iff, ← hsplit name h,
    ← hsplit other hother]
  refine ⟨congrArg _, fun he => ?_⟩
  have hjoined := congrArg ['_'].intercalate he
  rwa [List.intercalate_splitOn, List.intercalate_splitOn] at hjoined

end Naming

end ClassApi
