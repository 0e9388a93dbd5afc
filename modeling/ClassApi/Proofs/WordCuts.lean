import ClassApi.Proofs.NameShapes

/-!
# Where names are cut into words

A name falls into words in one way only. Characters other than letters and digits are skipped. The
words between them hold digits only or letters only; they are cut wherever a small letter meets a
capital, a letter meets a digit, or the last of several capitals has a small letter behind it, and
nowhere else. So nothing of a name is lost but the characters that are skipped.
-/

namespace ClassApi

namespace Naming

/-! ## Letters and digits -/

theorem toLower_of_not_isUpper {c : Char} (h : c.isUpper = false) : c.toLower = c :=
  dif_neg (of_decide_eq_false h)

theorem toUpper_of_not_isLower {c : Char} (h : c.isLower = false) : c.toUpper = c := by
  refine dif_neg fun hrange => ?_
  have hlower : c.isLower = true :=
    Bool.and_eq_true_iff.mpr ⟨decide_eq_true hrange.1, decide_eq_true hrange.2⟩
  exact Bool.false_ne_true (h.symm.trans hlower)

theorem isAlpha_eq (c : Char) : c.isAlpha = (c.isUpper || c.isLower) :=
  rfl

/-- What holds of the characters of ASCII, and of those that have no case and are no digits, holds
of all. -/
@[elab_as_elim]
theorem of_ascii {motive : Char → Prop} (c : Char) (hascii : ∀ n < 128, motive (Char.ofNat n))
    (hother : ∀ c : Char, c.isUpper = false → c.isLower = false → c.isDigit = false →
      c.toLower = c → c.toUpper = c → motive c) : motive c := by
  by_cases h : c.isAlphanum = true
  · have hc := hascii c.toNat (toNat_lt_of_isAlphanum h)
    rwa [Char.ofNat_toNat] at hc
  · rw [Char.isAlphanum, isAlpha_eq, Bool.not_eq_true, Bool.or_eq_false_iff,
      Bool.or_eq_false_iff] at h
    obtain ⟨⟨hupper, hlower⟩, hdigit⟩ := h
    exact hother c hupper hlower hdigit (toLower_of_not_isUpper hupper)
      (toUpper_of_not_isLower hlower)

theorem isDigit_of_isAlpha {c : Char} (h : c.isAlpha = true) : c.isDigit = false :=
  of_ascii (motive := fun c => c.isAlpha = true →
    c.isDigit = false) c (by decide) (fun _ _ _ hdigit _ _ _ => hdigit) h

theorem isLower_of_isUpper {c : Char} (h : c.isUpper = true) : c.isLower = false :=
  of_ascii (motive := fun c => c.isUpper = true →
    c.isLower = false) c (by decide) (fun _ _ hlower _ _ _ _ => hlower) h

theorem isUpper_of_isLower {c : Char} (h : c.isLower = true) : c.isUpper = false :=
  of_ascii (motive := fun c => c.isLower = true →
    c.isUpper = false) c (by decide) (fun _ hupper _ _ _ _ _ => hupper) h

theorem isUpper_of_isDigit {c : Char} (h : c.isDigit = true) : c.isUpper = false :=
  of_ascii (motive := fun c => c.isDigit = true →
    c.isUpper = false) c (by decide) (fun _ hupper _ _ _ _ _ => hupper) h

theorem isAlpha_of_isUpper {c : Char} (h : c.isUpper = true) : c.isAlpha = true := by
  rw [isAlpha_eq, h, Bool.true_or]

theorem isAlpha_of_isLower {c : Char} (h : c.isLower = true) : c.isAlpha = true := by
  rw [isAlpha_eq, h, Bool.or_true]

theorem isDigit_of_isUpper {c : Char} (h : c.isUpper = true) : c.isDigit = false :=
  isDigit_of_isAlpha (isAlpha_of_isUpper h)

theorem isDigit_of_isLower {c : Char} (h : c.isLower = true) : c.isDigit = false :=
  isDigit_of_isAlpha (isAlpha_of_isLower h)

theorem isAlphanum_of_isAlpha {c : Char} (h : c.isAlpha = true) : c.isAlphanum = true := by
  rw [Char.isAlphanum, h, Bool.true_or]

/-! ## Small letters and capitals -/

section Case

variable (c : Char)

@[simp]
theorem isDigit_toLower : c.toLower.isDigit = c.isDigit :=
  of_ascii c (by decide) (fun _ _ _ _ hsmall _ => by rw [hsmall])

@[simp]
theorem isDigit_toUpper : c.toUpper.isDigit = c.isDigit :=
  of_ascii c (by decide) (fun _ _ _ _ _ hcapital => by rw [hcapital])

@[simp]
theorem isAlpha_toLower : c.toLower.isAlpha = c.isAlpha :=
  of_ascii c (by decide) (fun _ _ _ _ hsmall _ => by rw [hsmall])

@[simp]
theorem isAlpha_toUpper : c.toUpper.isAlpha = c.isAlpha :=
  of_ascii c (by decide) (fun _ _ _ _ _ hcapital => by rw [hcapital])

@[simp]
theorem isUpper_toLower : c.toLower.isUpper = false :=
  of_ascii c (by decide) (fun _ hupper _ _ hsmall _ => by rw [hsmall, hupper])

@[simp]
theorem isLower_toUpper : c.toUpper.isLower = false :=
  of_ascii c (by decide) (fun _ _ hlower _ _ hcapital => by rw [hcapital, hlower])

@[simp]
theorem isLower_toLower : c.toLower.isLower = c.isAlpha :=
  of_ascii c (by decide) (fun _ hupper _ _ hsmall _ =>
    by rw [hsmall, isAlpha_eq, hupper, Bool.false_or])

@[simp]
theorem isUpper_toUpper : c.toUpper.isUpper = c.isAlpha :=
  of_ascii c (by decide) (fun _ _ hlower _ _ hcapital =>
    by rw [hcapital, isAlpha_eq, hlower, Bool.or_false])

@[simp]
theorem toLower_toLower : c.toLower.toLower = c.toLower :=
  toLower_of_not_isUpper (isUpper_toLower c)

@[simp]
theorem toUpper_toUpper : c.toUpper.toUpper = c.toUpper :=
  toUpper_of_not_isLower (isLower_toUpper c)

@[simp]
theorem toLower_toUpper : c.toUpper.toLower = c.toLower :=
  of_ascii c (by decide) (fun _ _ _ _ _ hcapital => by rw [hcapital])

@[simp]
theorem toUpper_toLower : c.toLower.toUpper = c.toUpper :=
  of_ascii c (by decide) (fun _ _ _ _ hsmall _ => by rw [hsmall])

end Case

/-! ## Cuts and words -/

/-- Whether a name is cut between two characters, `after` being what stands behind the second. -/
inductive Cut : Char → Char → List Char → Prop where
  /-- A small letter meets a capital. -/
  | rise {prev c : Char} (h : prev.isLower = true) (hc : c.isUpper = true) (after : List Char) :
      Cut prev c after
  /-- A letter meets a digit, or a digit a letter. -/
  | kind {prev c : Char} (h : prev.isDigit ≠ c.isDigit) (after : List Char) : Cut prev c after
  /-- The last capital of an acronym begins a word. -/
  | acronym {prev c next : Char} (h : prev.isUpper = true) (hc : c.isUpper = true)
      (hnext : next.isLower = true) (after : List Char) : Cut prev c (next :: after)

theorem startsWord_iff {prev c : Char} {after : List Char} :
    startsWord prev c after.head? = true ↔ Cut prev c after := by
  rw [startsWord, Bool.or_eq_true, Bool.or_eq_true, Bool.and_eq_true, Bool.and_eq_true,
    Bool.and_eq_true, bne_iff_ne]
  constructor
  · rintro ((⟨hprev, hc⟩ | hkind) | ⟨⟨hprev, hc⟩, hnext⟩)
    · exact .rise hprev hc after
    · exact .kind hkind after
    · cases after with
      | nil => cases hnext
      | cons next after => exact .acronym hprev hc hnext after
  · intro h
    cases h with
    | rise hprev hc => exact Or.inl (Or.inl ⟨hprev, hc⟩)
    | kind hkind => exact Or.inl (Or.inr hkind)
    | acronym hprev hc hnext => exact Or.inr ⟨⟨hprev, hc⟩, hnext⟩

/-- Whether a text that `more` stands behind is not cut. -/
def Uncut (text more : List Char) : Prop :=
  ∀ front prev c after, text = front ++ prev :: c :: after → ¬ Cut prev c (after ++ more)

/-- Whether characters are a word. -/
structure IsWord (word : List Char) : Prop where
  /-- There are some. -/
  nonempty : word ≠ []
  /-- They are digits, or they are letters. -/
  kind : (∀ c ∈ word, c.isDigit = true) ∨ ∀ c ∈ word, c.isAlpha = true
  /-- There is no cut between them. -/
  uncut : Uncut word []

theorem IsWord.alphanum {word : List Char} (h : IsWord word) : AllAlphanum word := by
  intro c hc
  rcases h.kind with hdigits | hletters
  · rw [Char.isAlphanum, hdigits c hc, Bool.or_true]
  · exact isAlphanum_of_isAlpha (hletters c hc)

/-- Whether a text falls into words. -/
inductive Divides : List Char → List (List Char) → Prop where
  /-- A text without characters has no words. -/
  | nil : Divides [] []
  /-- A character other than a letter or digit is skipped. -/
  | skip {c : Char} {text : List Char} {ws : List (List Char)} (hc : c.isAlphanum = false)
      (h : Divides text ws) :
      Divides (c :: text) ws
  /-- A word stands in front; it is cut off from a letter or digit that follows at once. -/
  | word {word text : List Char} {ws : List (List Char)} (hword : IsWord word)
      (hcut : ∀ last c after, word.getLast? = some last → text = c :: after → c.isAlphanum = true →
        Cut last c after)
      (h : Divides text ws) : Divides (word ++ text) (word :: ws)

theorem Cut.append {prev c : Char} {after : List Char} (h : Cut prev c after) (more : List Char) :
    Cut prev c (after ++ more) := by
  cases h with
  | rise hprev hc => exact .rise hprev hc _
  | kind hkind => exact .kind hkind _
  | acronym hprev hc hnext after => exact .acronym hprev hc hnext (after ++ more)

theorem Uncut.isolated {text more : List Char} (h : Uncut text more) : Uncut text [] := by
  intro front prev c after hsplit hcut
  rw [List.append_nil] at hcut
  exact h front prev c after hsplit (hcut.append more)

theorem uncut_nil (more : List Char) : Uncut [] more :=
  fun front prev _ _ hsplit =>
    absurd hsplit.symm (List.append_ne_nil_of_right_ne_nil front (List.cons_ne_nil prev _))

theorem uncut_singleton (c : Char) (more : List Char) : Uncut [c] more := by
  intro front prev d after hsplit
  have hlength := congrArg List.length hsplit
  simp at hlength
  omega

/-- A text that is not cut before the next character goes on with it. -/
theorem Uncut.snoc {before more : List Char} {prev c : Char}
    (h : Uncut (prev :: before).reverse (c :: more)) (hcut : ¬ Cut prev c more) :
    Uncut (c :: prev :: before).reverse more := by
  intro front p d after hsplit
  rw [List.reverse_cons] at hsplit
  rcases List.eq_nil_or_concat' after with rfl | ⟨init, last, rfl⟩
  · have hends : (prev :: before).reverse ++ [c] = (front ++ [p]) ++ [d] := by
      rw [hsplit, List.append_assoc, List.singleton_append]
    obtain ⟨hfront, hc⟩ := List.append_inj' hends rfl
    rw [List.reverse_cons] at hfront
    obtain ⟨-, hp⟩ := List.append_inj' hfront rfl
    cases hc
    cases hp
    exact hcut
  · have hends : (prev :: before).reverse ++ [c] = (front ++ p :: d :: init) ++ [last] := by
      rw [hsplit, List.append_assoc, List.cons_append, List.cons_append]
    obtain ⟨hfront, hc⟩ := List.append_inj' hends rfl
    cases hc
    rw [List.append_assoc]
    exact h front p d init hfront

/-! ## Words are cut off -/

/-- Whether a word has digits only. -/
def IsNumber (word : List Char) : Prop :=
  ∀ c ∈ word, c.isDigit = true

/-- Whether a word has no digits, or digits only. -/
def IsUniform (word : List Char) : Prop :=
  IsNumber word ∨ ∀ c ∈ word, c.isDigit = false

theorem IsUniform.cons {c prev : Char} {before : List Char} (h : IsUniform (prev :: before))
    (hsame : prev.isDigit = c.isDigit) : IsUniform (c :: prev :: before) := by
  rcases h with hnumber | hletters
  · exact Or.inl (List.forall_mem_cons.mpr ⟨hsame ▸ hnumber prev List.mem_cons_self, hnumber⟩)
  · exact Or.inr (List.forall_mem_cons.mpr ⟨hsame ▸ hletters prev List.mem_cons_self, hletters⟩)

theorem isUniform_singleton (c : Char) : IsUniform [c] := by
  cases hc : c.isDigit with
  | true => exact Or.inl (List.forall_mem_singleton.mpr hc)
  | false => exact Or.inr (List.forall_mem_singleton.mpr hc)

/-- Whether `current`, last character first, can be the beginning of a word that `more` stands
behind. -/
structure Pending (current more : List Char) : Prop where
  /-- It holds letters and digits. -/
  alphanum : AllAlphanum current
  /-- They are digits, or none of them is. -/
  uniform : IsUniform current
  /-- There is no cut between them. -/
  uncut : Uncut current.reverse more

theorem pending_nil (more : List Char) : Pending [] more :=
  ⟨AllAlphanum.nil, Or.inl (List.forall_mem_nil _), uncut_nil more⟩

theorem pending_singleton {c : Char} (hc : c.isAlphanum = true) (more : List Char) :
    Pending [c] more :=
  ⟨AllAlphanum.cons hc AllAlphanum.nil, isUniform_singleton c, uncut_singleton c more⟩

theorem Pending.cons {before more : List Char} {prev c : Char}
    (h : Pending (prev :: before) (c :: more)) (hc : c.isAlphanum = true)
    (hcut : ¬ Cut prev c more) : Pending (c :: prev :: before) more where
  alphanum := AllAlphanum.cons hc h.alphanum
  uniform := h.uniform.cons (by_contra fun hkind => hcut (.kind hkind more))
  uncut := h.uncut.snoc hcut

/-- What was read is a word when it ends. -/
theorem Pending.isWord {current more : List Char} (h : Pending current more) (hne : current ≠ []) :
    IsWord current.reverse where
  nonempty := mt List.reverse_eq_nil_iff.mp hne
  kind := by
    simp only [List.mem_reverse]
    refine h.uniform.imp_right fun hletters c hc => ?_
    have halphanum := h.alphanum c hc
    rwa [Char.isAlphanum, hletters c hc, Bool.or_false] at halphanum
  uncut := h.uncut.isolated

/-- A text falls into the words that are split off. -/
theorem divides_splitWords (current cs : List Char) (h : Pending current cs) :
    Divides (current.reverse ++ cs) (splitWords current cs) := by
  fun_induction splitWords current cs with
  | case1 current hempty =>
    rw [List.isEmpty_iff.mp hempty]
    exact .nil
  | case2 current hcurrent =>
    exact .word (h.isWord (mt List.isEmpty_iff.mpr hcurrent))
      (fun _ d after _ hnil => absurd hnil.symm (List.cons_ne_nil d after)) .nil
  | case3 current c rest hc hempty ih =>
    rw [List.isEmpty_iff.mp hempty]
    exact .skip (by simpa using hc) (ih (pending_nil rest))
  | case4 current c rest hc hcurrent ih =>
    have hskip : c.isAlphanum = false := by simpa using hc
    refine .word (h.isWord (mt List.isEmpty_iff.mpr hcurrent)) (fun last d after _ he hd => ?_)
      (.skip hskip (ih (pending_nil rest)))
    -- no letter or digit follows at once
    cases he
    rw [hskip] at hd
    cases hd
  | case5 c rest hc ih =>
    exact ih (pending_singleton (by simpa using hc) rest)
  | case6 c rest hc prev before hstarts ih =>
    refine .word (h.isWord (List.cons_ne_nil prev before)) (fun last d after hlast he _ => ?_)
      (ih (pending_singleton (by simpa using hc) rest))
    rw [List.getLast?_reverse, List.head?_cons] at hlast
    cases hlast
    cases he
    exact startsWord_iff.mp hstarts
  | case7 c rest hc prev before hgoes ih =>
    have hword := ih (h.cons (by simpa using hc) (mt startsWord_iff.mpr hgoes))
    rwa [List.reverse_cons, List.append_assoc, List.singleton_append] at hword

/-! ## Words are found -/

/-- A capital that a small letter follows is not cut off from it. -/
theorem not_cut_of_isLower {c next : Char} (hc : c.isUpper = true) (hnext : next.isLower = true)
    (after : List Char) : ¬ Cut c next after := by
  intro h
  cases h with
  | rise hlower => exact Bool.false_ne_true ((isLower_of_isUpper hc).symm.trans hlower)
  | kind hkind => exact hkind ((isDigit_of_isUpper hc).trans (isDigit_of_isLower hnext).symm)
  | acronym _ hupper => exact Bool.false_ne_true ((isLower_of_isUpper hupper).symm.trans hnext)

/-- What stands behind a word makes no cut in it, if the word is cut off from the next letter or
digit. -/
theorem not_cut_append {prev c : Char} {more text : List Char} (huncut : ¬ Cut prev c more)
    (hcut : more = [] → ∀ d after, text = d :: after → d.isAlphanum = true → Cut c d after) :
    ¬ Cut prev c (more ++ text) := by
  intro h
  cases more with
  | cons next more =>
    -- only the next character counts
    have hfull : startsWord prev c (next :: more ++ text).head? = true := startsWord_iff.mpr h
    have hfirst : startsWord prev c (next :: more).head? = true := hfull
    exact huncut (startsWord_iff.mp hfirst)
  | nil =>
    rw [List.nil_append] at h
    cases h with
    | rise hprev hc => exact huncut (.rise hprev hc [])
    | kind hkind => exact huncut (.kind hkind [])
    | acronym hprev hc hnext after =>
      have halphanum := isAlphanum_of_isAlpha (isAlpha_of_isLower hnext)
      exact not_cut_of_isLower hc hnext after (hcut rfl _ after rfl halphanum)

theorem splitWords_ends {current text : List Char} (hne : current ≠ [])
    (hcut : ∀ last c after, current.head? = some last → text = c :: after → c.isAlphanum = true →
      Cut last c after) :
    splitWords current text = current.reverse :: splitWords [] text := by
  obtain ⟨prev, before, rfl⟩ := List.exists_cons_of_ne_nil hne
  cases text with
  | nil => rfl
  | cons c after =>
    rw [splitWords.eq_def (prev :: before), splitWords.eq_def []]
    by_cases hc : c.isAlphanum = true
    · have hstarts := startsWord_iff.mpr (hcut prev c after rfl rfl hc)
      simp only [hc, hstarts, Bool.not_true, Bool.false_eq_true, if_false, if_true]
    · have hskip : (!c.isAlphanum) = true := by simpa using hc
      simp only [hskip, if_true, List.isEmpty_cons, List.isEmpty_nil, Bool.false_eq_true, if_false]

/-- A word that was begun is read to its end. -/
theorem splitWords_word {current more text : List Char} (hne : current ≠ [])
    (hword : IsWord (current.reverse ++ more))
    (hcut : ∀ last c after, (current.reverse ++ more).getLast? = some last → text = c :: after →
      c.isAlphanum = true → Cut last c after) :
    splitWords current (more ++ text) = (current.reverse ++ more) :: splitWords [] text := by
  induction more generalizing current with
  | nil =>
    rw [List.append_nil] at hcut ⊢
    rw [List.nil_append]
    exact splitWords_ends hne fun last c after hlast =>
      hcut last c after (List.getLast?_reverse.trans hlast)
  | cons c more ih =>
    obtain ⟨prev, before, rfl⟩ := List.exists_cons_of_ne_nil hne
    have hsnoc : (prev :: before).reverse ++ c :: more = (c :: prev :: before).reverse ++ more := by
      simp
    have hsplit : (prev :: before).reverse ++ c :: more = before.reverse ++ prev :: c :: more := by
      rw [List.reverse_cons, List.append_assoc, List.singleton_append]
    have hc : c.isAlphanum = true := hword.alphanum c (List.mem_append_right _ List.mem_cons_self)
    have hgoes : ¬ Cut prev c (more ++ text) := by
      have huncut := hword.uncut _ _ _ _ hsplit
      rw [List.append_nil] at huncut
      refine not_cut_append huncut fun hmore d after => hcut c d after ?_
      rw [hmore, List.getLast?_append_cons]
      rfl
    have hstarts : startsWord prev c (more ++ text).head? = false :=
      Bool.eq_false_iff.mpr (mt startsWord_iff.mp hgoes)
    rw [List.cons_append, splitWords.eq_def]
    simp only [hc, hstarts, Bool.not_true, Bool.false_eq_true, if_false]
    rw [hsnoc] at hword hcut ⊢
    exact ih (List.cons_ne_nil c _) hword hcut

/-- The words a text falls into are those that are split off. -/
theorem splitWords_of_divides {text : List Char} {ws : List (List Char)} (h : Divides text ws) :
    splitWords [] text = ws := by
  induction h with
  | nil => rfl
  | skip hc _ ih =>
    rw [splitWords.eq_def]
    simp only [hc, Bool.not_false, if_true, List.isEmpty_nil]
    exact ih
  | @word word text ws hword hcut _ ih =>
    obtain ⟨c, more, rfl⟩ := List.exists_cons_of_ne_nil hword.nonempty
    have hc : c.isAlphanum = true := hword.alphanum c List.mem_cons_self
    rw [List.cons_append, splitWords.eq_def]
    simp only [hc, Bool.not_true, Bool.false_eq_true, if_false]
    rw [splitWords_word (List.cons_ne_nil c []) hword hcut, ih]
    rfl

/-- The words of a name are those it falls into, and it falls into no others. -/
theorem words_eq_iff {name : String} {ws : List String} :
    words name = ws ↔ Divides name.toList (ws.map String.toList) := by
  constructor
  · rintro rfl
    have hid : String.toList ∘ String.ofList = id := funext fun _ => String.toList_ofList
    rw [words, List.map_map, hid, List.map_id]
    exact divides_splitWords [] name.toList (pending_nil _)
  · intro h
    have hid : String.ofList ∘ String.toList = id := funext fun _ => String.ofList_toList
    rw [words, splitWords_of_divides h, List.map_map, hid, List.map_id]

/-- Words are cut at changes of case and kind and at separators. -/
example : words "URLPath2-my_ID" = ["URL", "Path", "2", "my", "ID"] := by
  cbv

/-! ## What words are -/

theorem IsWord.isUniform {word : List Char} (h : IsWord word) : IsUniform word :=
  h.kind.imp_right fun hletters c hc => isDigit_of_isAlpha (hletters c hc)

section Divides

variable {text : List Char} {ws : List (List Char)}

theorem Divides.isWord (h : Divides text ws) : ∀ word ∈ ws, IsWord word := by
  induction h with
  | nil => exact List.forall_mem_nil _
  | skip _ _ ih => exact ih
  | word hword _ _ ih => exact List.forall_mem_cons.mpr ⟨hword, ih⟩

/-- The words put together are the letters and digits of the text. -/
theorem Divides.flatten_eq (h : Divides text ws) : ws.flatten = text.filter Char.isAlphanum := by
  induction h with
  | nil => rfl
  | skip hc _ ih => rw [ih, List.filter_cons_of_neg (by rw [hc]; exact Bool.false_ne_true)]
  | word hword _ _ ih => rw [List.flatten_cons, ih, List.filter_append,
    List.filter_eq_self.mpr hword.alphanum]

end Divides

end Naming

end ClassApi
