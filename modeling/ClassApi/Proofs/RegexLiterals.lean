import ClassApi.Proofs.Canonical
import ClassApi.Proofs.FilterCondition

/-!
# Literals of regular expressions

A literal `/pattern/flags` is split at its last slash. Flags hold no slash, so there is one way only
to see a text as a literal, however many slashes the pattern has and even if it is empty. What is
read from a literal keeps the pattern and has the flags in order. It is shown to clients as a
literal again, and that literal is read as the same.
-/

namespace ClassApi.RegexLiteral

theorem eq_append_of_splitLastSlash {cs front back : List Char}
    (h : splitLastSlash cs = some (front, back)) : cs = front ++ '/' :: back := by
  induction cs generalizing front with
  | nil => cases h
  | cons c rest ih =>
    rw [splitLastSlash] at h
    split at h
    · rename_i before after hrest
      cases h
      rw [ih hrest, List.cons_append]
    · split at h
      · rename_i hslash
        cases h
        rw [hslash, List.nil_append]
      · cases h

/-- What is refused is no literal, and is refused for one reason only. -/
theorem ofText_cases (literal className field : String) :
    (∃ pattern flags, HasForm literal pattern flags) ∨
      ofText literal className field = .error (.invalidRegExp className field) := by
  rw [ofText]
  split
  · rename_i rest hliteral
    split
    · rename_i pattern flags hsplit
      by_cases hflags : (flags.all fun c => isAlphanumeric c || c == '_') = true
      · refine Or.inl ⟨String.ofList pattern, String.ofList flags, String.toList_inj.mp ?_, ?_⟩
        · rw [hliteral, eq_append_of_splitLastSlash hsplit]
          simp
        · rw [String.toList_ofList]
          exact List.all_eq_true.mp hflags
      · rw [if_neg hflags]
        exact Or.inr rfl
    · exact Or.inr rfl
  · exact Or.inr rfl

/-- Sorted flags are flags. -/
theorem HasForm.sorted {literal pattern flags : String} (h : HasForm literal pattern flags) :
    HasForm ("/" ++ pattern ++ "/" ++ Extended.sortOptions flags) pattern
      (Extended.sortOptions flags) := by
  refine ⟨rfl, fun c hc => h.2 c ?_⟩
  exact (Extended.perm_sortOptions flags).mem_iff.mp hc

/-- A text is read exactly when it is a literal, and any other one is refused. A literal has one
pattern and one list of flags. It is read as its pattern with its flags in order, shown as the
literal of these, and that one is read as the same. -/
theorem ofText_reads_literals (literal className field : String) :
    ((∃ r, ofText literal className field = .ok r) ↔
      ∃ pattern flags, HasForm literal pattern flags) ∧
    (ofText literal className field = .error (.invalidRegExp className field) ↔
      ¬ ∃ pattern flags, HasForm literal pattern flags) ∧
    ∀ pattern flags, HasForm literal pattern flags →
      (∀ pattern' flags', HasForm literal pattern' flags' → pattern = pattern' ∧ flags = flags') ∧
      ∃ options, options.toList.Perm flags.toList ∧ options.toList.Pairwise (· ≤ ·) ∧
        ofText literal className field = .ok ⟨pattern, options⟩ ∧
        (toValue ⟨pattern, options⟩).toDatum = .string ("/" ++ pattern ++ "/" ++ options) ∧
        ofText ("/" ++ pattern ++ "/" ++ options) className field = .ok ⟨pattern, options⟩ := by
  have hcases := ofText_cases literal className field
  refine ⟨⟨?_, ?_⟩, ⟨?_, ?_⟩, ?_⟩
  · rintro ⟨r, hr⟩
    rcases hcases with hform | herror
    · exact hform
    · rw [hr] at herror
      cases herror
  · rintro ⟨pattern, flags, h⟩
    exact ⟨_, ofText_of_hasForm h className field⟩
  · rintro herror ⟨pattern, flags, h⟩
    rw [ofText_of_hasForm h] at herror
    cases herror
  · intro hform
    exact hcases.resolve_left hform
  · intro pattern flags h
    -- sorting sorted flags again changes nothing, so the printed literal is read as the same
    have hagain := ofText_of_hasForm h.sorted className field
    rw [Extended.sortOptions_sorted] at hagain
    exact ⟨fun _ _ h' => h.unique h', Extended.sortOptions flags, Extended.perm_sortOptions flags,
      Extended.pairwise_sortOptions flags, ofText_of_hasForm h className field, rfl, hagain⟩

/-- The pattern of a literal has a slash, and its flags are neither in order nor without
repetition. -/
theorem ofText_reads_literals_slashes :
    HasForm "/a/b/sis" "a/b" "sis" ∧
    (∀ pattern flags, HasForm "/a/b/sis" pattern flags → "a/b" = pattern ∧ "sis" = flags) ∧
    ∃ options, options.toList.Perm "sis".toList ∧ options.toList.Pairwise (· ≤ ·) ∧
      ofText "/a/b/sis" "User" "name" = .ok ⟨"a/b", options⟩ ∧
      (toValue ⟨"a/b", options⟩).toDatum = .string ("/" ++ "a/b" ++ "/" ++ options) ∧
      ofText ("/" ++ "a/b" ++ "/" ++ options) "User" "name" = .ok ⟨"a/b", options⟩ := by
  have hflags : "sis".toList.all (fun c => isAlphanumeric c || c == '_') = true := by decide +kernel
  have hform : HasForm "/a/b/sis" "a/b" "sis" := ⟨by decide, List.all_eq_true.mp hflags⟩
  obtain ⟨hunique, hread⟩ := (ofText_reads_literals "/a/b/sis" "User" "name").2.2 "a/b" "sis" hform
  exact ⟨hform, hunique, hread⟩

end ClassApi.RegexLiteral
