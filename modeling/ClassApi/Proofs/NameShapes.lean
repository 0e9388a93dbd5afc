import ClassApi.Proofs.Naming

/-!
# How generated names begin and end

A capitalised name does not begin with a small letter, whatever script it is written in, and a name
in camel case does not begin with a capital. So names that are put together around a capitalised one
are told apart by their first and last characters, and capitalising keeps names in camel case apart.
-/

namespace ClassApi

namespace Naming

/-! ## First and last characters -/

/-- The first character of a name. -/
def initial (name : String) : Option Char :=
  name.toList.head?

/-- The last character of a name. -/
def final (name : String) : Option Char :=
  name.toList.getLast?

theorem initial_append (start rest : String) :
    initial (start ++ rest) = (initial start).or (initial rest) := by
  rw [initial, String.toList_append, List.head?_append]
  rfl

theorem final_append (start rest : String) :
    final (start ++ rest) = (final rest).or (final start) := by
  rw [final, String.toList_append, List.getLast?_append]
  rfl

/-- Names that end in different characters differ. -/
theorem append_ne_append {a b x y : String} {c d : Char} (hx : final x = some c)
    (hy : final y = some d) (h : c ≠ d) : a ++ x ≠ b ++ y := by
  intro he
  have hfinal := congrArg final he
  rw [final_append, final_append, hx, hy] at hfinal
  exact h (Option.some.inj hfinal)

theorem append_ne_of_not_prefix {start rest name : String} (h : ¬ start.toList <+: name.toList) :
    start ++ rest ≠ name := by
  rintro rfl
  rw [String.toList_append] at h
  exact h (List.prefix_append _ _)

theorem append_ne_of_not_suffix {start rest name : String} (h : ¬ rest.toList <:+ name.toList) :
    start ++ rest ≠ name := by
  rintro rfl
  rw [String.toList_append] at h
  exact h (List.suffix_append _ _)

theorem ne_append_self {name rest : String} (h : rest ≠ "") : name ≠ name ++ rest := by
  intro he
  have hempty : name.toList ++ [] = name.toList ++ rest.toList := by
    rw [List.append_nil, ← String.toList_append, ← he]
  exact h (String.toList_eq_nil_iff.mp (List.append_cancel_left hempty).symm)

/-! ## Capitalised names -/

/-- Whether a name does not begin with a small letter. -/
def IsCapitalised (name : String) : Prop :=
  ∀ c, initial name = some c → c.isLower = false

/-- Whether a given name is capitalised can be computed. -/
theorem isCapitalised_of_all {name : String} (h : (initial name).all (fun c => !c.isLower) = true) :
    IsCapitalised name := by
  intro c hc
  rw [hc, Option.all_some, Bool.not_eq_true'] at h
  exact h

theorem IsCapitalised.append {start rest : String} (hstart : IsCapitalised start)
    (hrest : IsCapitalised rest) : IsCapitalised (start ++ rest) := by
  intro c hc
  rw [initial_append] at hc
  cases hinitial : initial start with
  | none => exact hrest c (by rwa [hinitial, Option.none_or] at hc)
  | some d => exact hstart c (by rw [hinitial, ← hc, hinitial, Option.some_or])

/-- A capitalised name is not one that begins with a small letter. -/
theorem IsCapitalised.ne {name other : String} (h : IsCapitalised name) {c : Char}
    (hc : initial other = some c) (hlower : c.isLower = true) : name ≠ other := by
  rintro rfl
  exact Bool.false_ne_true ((h c hc).symm.trans hlower)

theorem of_isLower_ofNat {n : Nat} (h : (Char.ofNat n).isLower = true) : 97 ≤ n ∧ n ≤ 122 := by
  obtain ⟨hlow, hhigh⟩ := Bool.and_eq_true_iff.mp h
  have hlow' : 97 ≤ (Char.ofNat n).toNat := UInt32.le_iff_toNat_le.mp (of_decide_eq_true hlow)
  have hhigh' : (Char.ofNat n).toNat ≤ 122 := UInt32.le_iff_toNat_le.mp (of_decide_eq_true hhigh)
  by_cases hvalid : n.isValidChar
  · have hn : (Char.ofNat n).toNat = n := by
      rw [Char.ofNat, dif_pos hvalid]
      rfl
    omega
  · -- a number that is no character stands for the null character
    have hn : (Char.ofNat n).toNat = 0 := by
      rw [Char.ofNat, dif_neg hvalid]
      rfl
    omega

/-- Whether no character of a run is shifted to a small letter of ASCII. -/
def AvoidsLower (r : CaseRange) : Prop :=
  (r.last : Int) + r.shift < 97 ∨ 122 < (r.first : Int) + r.shift

instance (r : CaseRange) : Decidable (AvoidsLower r) :=
  inferInstanceAs (Decidable (_ ∨ _))

theorem shiftBy_avoids {table : List CaseRange} (h : ∀ r ∈ table, AvoidsLower r) {n : Nat}
    (hn : n < 97 ∨ 122 < n ∨ ∃ r ∈ table, r.covers n = true) :
    ¬ (97 ≤ shiftBy table n ∧ shiftBy table n ≤ 122) := by
  induction table with
  | nil =>
    rw [shiftBy]
    rcases hn with hn | hn | ⟨r, hr, -⟩
    · omega
    · omega
    · exact absurd hr List.not_mem_nil
  | cons r rest ih =>
    rw [shiftBy]
    by_cases hcovers : r.covers n = true
    · rw [if_pos hcovers]
      rw [CaseRange.covers, Bool.and_eq_true, Bool.and_eq_true, decide_eq_true_eq,
        decide_eq_true_eq] at hcovers
      have havoids := h r List.mem_cons_self
      rw [AvoidsLower] at havoids
      omega
    · rw [if_neg hcovers]
      refine ih (fun r' hr' => h r' (List.mem_cons_of_mem _ hr')) (hn.imp_right fun hn =>
        hn.imp_right ?_)
      rintro ⟨r', hr', hcovers'⟩
      rcases List.mem_cons.mp hr' with rfl | hmem
      · exact absurd hcovers' hcovers
      · exact ⟨r', hmem, hcovers'⟩

set_option maxRecDepth 4000 in
/-- A character in upper case does not begin with a small letter. -/
theorem isLower_upperChar {c d : Char} (h : (upperChar c).head? = some d) : d.isLower = false := by
  rw [Bool.eq_false_iff]
  intro hlower
  rw [upperChar] at h
  split at h
  · -- a character with an image of its own
    rename_i points hpoints
    have hspecial : ∀ entry ∈ CaseTable.upperSpecial, ∀ n ∈ entry.2.head?,
        ¬ (97 ≤ n ∧ n ≤ 122) := by decide
    obtain ⟨front, rest, htable, -⟩ := List.lookup_eq_some_iff.mp hpoints
    have hmem : (c.toNat, points) ∈ CaseTable.upperSpecial :=
      htable ▸ List.mem_append_right _ List.mem_cons_self
    rw [List.head?_map] at h
    obtain ⟨n, hn, rfl⟩ := Option.map_eq_some_iff.mp h
    exact hspecial _ hmem n hn (of_isLower_ofNat hlower)
  · cases h
    have havoids : ∀ r ∈ CaseTable.upper, AvoidsLower r := by decide
    refine shiftBy_avoids havoids ?_ (of_isLower_ofNat hlower)
    -- the first run of the table holds the small letters of ASCII
    by_cases hn : c.toNat < 97 ∨ 122 < c.toNat
    · exact hn.imp_right Or.inl
    · refine Or.inr (Or.inr ⟨⟨0x61, 0x7A, 1, -32⟩, List.mem_cons_self, ?_⟩)
      have hrange : 0x61 ≤ c.toNat ∧ c.toNat ≤ 0x7A := by omega
      rw [CaseRange.covers, Bool.and_eq_true, Bool.and_eq_true, decide_eq_true_eq,
        decide_eq_true_eq, beq_iff_eq]
      exact ⟨hrange, Nat.mod_one _⟩

theorem isCapitalised_upperFirst (name : String) : IsCapitalised (upperFirst name) := by
  intro c hc
  rw [initial, upperFirst] at hc
  cases hname : name.toList with
  | nil =>
    rw [hname] at hc
    cases hc
  | cons d rest =>
    rw [hname] at hc
    simp only [String.toList_ofList, List.head?_append] at hc
    cases himage : (upperChar d).head? with
    | some e =>
      rw [himage, Option.some_or] at hc
      exact isLower_upperChar (himage.trans hc)
    | none =>
      -- every character has an image of at least one character
      have hnonempty : ∀ entry ∈ CaseTable.upperSpecial, entry.2 ≠ [] := by decide
      rw [List.head?_eq_none_iff, upperChar] at himage
      split at himage
      · rename_i points hpoints
        obtain ⟨front, others, htable, -⟩ := List.lookup_eq_some_iff.mp hpoints
        have hmem : (d.toNat, points) ∈ CaseTable.upperSpecial :=
          htable ▸ List.mem_append_right _ List.mem_cons_self
        exact absurd (List.map_eq_nil_iff.mp himage) (hnonempty _ hmem)
      · cases himage

/-! ## Names made of words -/

/-- No word is empty. -/
theorem splitWords_ne_nil (cs current : List Char) : ∀ word ∈ splitWords current cs, word ≠ [] := by
  induction cs generalizing current with
  | nil =>
    intro word hword
    rw [splitWords.eq_def] at hword
    cases current with
    | nil => cases hword
    | cons d before =>
      rw [List.mem_singleton.mp hword]
      exact List.reverse_ne_nil_iff.mpr (List.cons_ne_nil d before)
  | cons c rest ih =>
    intro word hword
    rw [splitWords.eq_def] at hword
    simp only at hword
    cases current with
    | nil =>
      split at hword
      · exact ih [] word hword
      · exact ih [c] word hword
    | cons d before =>
      have hreverse : (d :: before).reverse ≠ [] :=
        List.reverse_ne_nil_iff.mpr (List.cons_ne_nil d before)
      split at hword
      · rcases List.mem_cons.mp hword with rfl | hmem
        · exact hreverse
        · exact ih [] word hmem
      · simp only at hword
        split at hword
        · rcases List.mem_cons.mp hword with rfl | hmem
          · exact hreverse
          · exact ih [c] word hmem
        · exact ih (c :: d :: before) word hword

/-- The first word begins where reading began, or else with the first letter or digit. -/
theorem head?_splitWords (cs current : List Char) :
    (splitWords current cs).head?.bind List.head? =
      current.getLast?.or (cs.find? Char.isAlphanum) := by
  fun_induction splitWords current cs with
  | case1 current hempty =>
    rw [List.isEmpty_iff.mp hempty]
    rfl
  | case2 current hcurrent =>
    rw [List.head?_cons, Option.bind_some, List.head?_reverse, List.find?_nil, Option.or_none]
  | case3 current c rest hc hempty ih =>
    rw [ih, List.isEmpty_iff.mp hempty, List.find?_cons_of_neg (by simpa using hc)]
  | case4 current c rest hc hcurrent ih =>
    rw [List.head?_cons, Option.bind_some, List.head?_reverse,
      List.getLast?_eq_some_getLast (mt List.isEmpty_iff.mpr hcurrent), Option.some_or]
  | case5 c rest hc ih =>
    rw [ih, List.find?_cons_of_pos (by simpa using hc)]
    rfl
  | case6 c rest hc prev before hstarts ih =>
    rw [List.head?_cons, Option.bind_some, List.head?_reverse,
      List.getLast?_eq_some_getLast (List.cons_ne_nil _ _), Option.some_or]
  | case7 c rest hc prev before hgoes ih =>
    rw [ih, List.getLast?_cons_cons, List.getLast?_eq_some_getLast (List.cons_ne_nil _ _),
      Option.some_or, Option.some_or]

/-- The first character of the first word is the first letter or digit. -/
theorem head?_words (name : String) :
    (splitWords [] name.toList).head?.bind List.head? = name.toList.find? Char.isAlphanum := by
  rw [head?_splitWords, List.getLast?_nil, Option.none_or]

/-- A name in camel case begins with the first letter or digit, in lower case. -/
theorem initial_camelCase_eq (name : String) :
    initial (camelCase name) = (name.toList.find? Char.isAlphanum).map Char.toLower := by
  rw [← head?_words, camelCase, words]
  cases hwords : splitWords [] name.toList with
  | nil => rfl
  | cons word others =>
    have hne : word ≠ [] := splitWords_ne_nil _ _ word (hwords ▸ List.mem_cons_self)
    rw [List.map_cons, List.map_cons]
    simp only [initial, String.toList_join, List.flatMap_cons, toList_toLower, String.toList_ofList,
      List.head?_append, List.head?_map, List.head?_cons, Option.bind_some]
    rw [List.head?_eq_some_head hne]
    rfl

/-- The name of a sort member begins with the first letter or digit, in upper case. -/
theorem initial_screamingSnakeCase_eq (name : String) :
    initial (screamingSnakeCase name) = (name.toList.find? Char.isAlphanum).map Char.toUpper := by
  rw [← head?_words, screamingSnakeCase, words]
  cases hwords : splitWords [] name.toList with
  | nil => rfl
  | cons word others =>
    have hne : word ≠ [] := splitWords_ne_nil _ _ word (hwords ▸ List.mem_cons_self)
    have hword : initial (String.ofList word).toUpper = word.head?.map Char.toUpper := by
      rw [initial, toList_toUpper, String.toList_ofList, List.head?_map]
    rw [List.head?_cons, Option.bind_some, List.map_cons, List.map_cons]
    cases others with
    | nil => rw [List.map_nil, List.map_nil, String.intercalate_singleton, hword]
    | cons next others =>
      rw [List.map_cons, List.map_cons, String.intercalate_cons_of_ne_nil (List.cons_ne_nil _ _),
        String.append_assoc, initial_append, hword, List.head?_eq_some_head hne]
      rfl

/-- A name in camel case is empty or begins with a letter or digit in lower case. -/
theorem initial_camelCase {name : String} {c : Char} (h : initial (camelCase name) = some c) :
    ∃ d : Char, d.isAlphanum = true ∧ d.toLower = c := by
  rw [initial_camelCase_eq] at h
  obtain ⟨d, hd, rfl⟩ := Option.map_eq_some_iff.mp h
  exact ⟨d, List.find?_some hd, rfl⟩

/-- A name with its first character in lower case. -/
def lowerInitial : List Char → List Char
  | [] => []
  | c :: rest => c.toLower :: rest

/-- Capitalising a name in camel case changes the case of its first character only. -/
theorem lowerInitial_upperFirst_camelCase (name : String) :
    lowerInitial (upperFirst (camelCase name)).toList = (camelCase name).toList := by
  cases hname : (camelCase name).toList with
  | nil =>
    rw [upperFirst, hname]
    rfl
  | cons c rest =>
    obtain ⟨d, hd, rfl⟩ :=
      initial_camelCase (congrArg List.head? hname : initial (camelCase name) = some c)
    have hall : ∀ n < 128, (Char.ofNat n).toLower.toUpper.toLower = (Char.ofNat n).toLower := by
      decide
    have hback := hall d.toNat (toNat_lt_of_isAlphanum hd)
    rw [Char.ofNat_toNat] at hback
    rw [upperFirst, hname]
    simp only [String.toList_ofList]
    rw [upperChar_ascii (toNat_lt_of_isAlphanum (alphanum_facts hd).2), List.singleton_append,
      lowerInitial, hback]

/-- Names in camel case stay apart when they are capitalised. -/
theorem upperFirst_camelCase_inj {name other : String} :
    upperFirst (camelCase name) = upperFirst (camelCase other) ↔
      camelCase name = camelCase other := by
  refine ⟨fun h => String.toList_inj.mp ?_, fun h => congrArg upperFirst h⟩
  rw [← lowerInitial_upperFirst_camelCase name, ← lowerInitial_upperFirst_camelCase other, h]

end Naming

end ClassApi
