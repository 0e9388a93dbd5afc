import ClassApi.Proofs.Registration
import Mathlib.Data.List.Perm.Basic

/-!
# The order of class definitions does not matter

A class is brought into normal form with the names that all definitions give, and these are looked
up by key. The keys are different, so the order in which the names were collected makes no
difference to what is found, and every class comes out the same wherever its definition stands.
Classes are looked up by key as well, and so it is for a registry as a whole.
-/

namespace ClassApi

/-! ## Validity -/

namespace ClassDefinition

variable {definitions others : List ClassDefinition}

theorem NamesValid.perm (h : NamesValid definitions) (hperm : definitions.Perm others) :
    NamesValid others where
  notPrefixed d hd := h.notPrefixed d (hperm.mem_iff.mpr hd)
  notFile d hd := h.notFile d (hperm.mem_iff.mpr hd)
  distinct := (hperm.map key).nodup_iff.mp h.distinct
  free hmem := h.free ((hperm.map key).mem_iff.mpr hmem)

end ClassDefinition

namespace Registry

/-! ## Names that are looked up -/

section Targets

variable {targets others : Fields String}

theorem resolveElement_congr (h : ∀ key, Fields.get? targets key = Fields.get? others key)
    (unparsable : DefinitionError) (spec : FieldSpec) :
    resolveElement targets unparsable spec = resolveElement others unparsable spec := by
  cases spec with
  | token name => rfl
  | detailed options => simp only [resolveElement, h]
  | list items => rfl

theorem resolveField_congr (h : ∀ key, Fields.get? targets key = Fields.get? others key)
    (className rawName : String) (spec : FieldSpec) :
    resolveField targets className rawName spec = resolveField others className rawName spec := by
  simp only [resolveField, resolveElement_congr h]

/-- A class depends on what names are found, not on how they are kept. -/
theorem resolveClass_congr (h : ∀ key, Fields.get? targets key = Fields.get? others key)
    (d : ClassDefinition) : resolveClass targets d = resolveClass others d := by
  simp only [resolveClass, resolveFields_eq_mapM, resolveField_congr h]

end Targets

variable {definitions others : List ClassDefinition}

/-- The same names are found for definitions in any order. -/
theorem get?_targets_perm (hperm : definitions.Perm others)
    (h : ClassDefinition.NamesValid definitions) (key : String) :
    Fields.get? (targets definitions) key = Fields.get? (targets others) key := by
  have hnodup : (Fields.names (targets definitions)).Nodup := by
    rw [names_targets]
    exact List.nodup_cons.mpr ⟨h.free, h.distinct⟩
  exact Fields.get?_perm ((hperm.map ClassDefinition.target).cons _) hnodup key

/-- Definitions in another order give the same classes in another order. -/
theorem exists_perm_classes (hperm : definitions.Perm others) {r : Registry}
    (h : ofDefinitions definitions = .ok r) :
    ∃ r', ofDefinitions others = .ok r' ∧ r.classes.Perm r'.classes := by
  obtain ⟨hnames, hclasses⟩ := ofDefinitions_eq_ok_iff.mp h
  have hsame :
      List.Forall₂ (fun d c => resolveClass (targets others) d = .ok c) definitions r.classes :=
    hclasses.imp fun d c hc => resolveClass_congr (get?_targets_perm hperm hnames) d ▸ hc
  obtain ⟨classes, hothers, hpermClasses⟩ := List.perm_comp_forall₂ hperm.symm hsame
  exact ⟨⟨classes⟩, ofDefinitions_eq_ok_iff.mpr ⟨hnames.perm hperm, hothers⟩, hpermClasses.symm⟩

theorem get?_perm (hperm : definitions.Perm others) {r r' : Registry}
    (h : ofDefinitions definitions = .ok r) (h' : ofDefinitions others = .ok r') (name : String) :
    r.get? name = r'.get? name := by
  obtain ⟨_, hothers, hclasses⟩ := exists_perm_classes hperm h
  cases h'.symm.trans hothers
  refine Option.ext fun c => ?_
  rw [get?_eq_some_iff h, get?_eq_some_iff h', hclasses.mem_iff]

/-- Definitions in any order are accepted or refused alike. The registries they give find the same
class under every name, with the same fields of the same kinds that point at the same classes, and
have the same name in use for it. -/
theorem ofDefinitions_order_irrelevant (hperm : definitions.Perm others) :
    ((∃ r, ofDefinitions definitions = .ok r) ↔ ∃ r', ofDefinitions others = .ok r') ∧
    ∀ r r', ofDefinitions definitions = .ok r → ofDefinitions others = .ok r' →
      ∀ name, r.get? name = r'.get? name ∧ r.canonicalName? name = r'.canonicalName? name := by
  refine ⟨⟨?_, ?_⟩, fun r r' h h' name => ?_⟩
  · rintro ⟨r, h⟩
    obtain ⟨r', h', -⟩ := exists_perm_classes hperm h
    exact ⟨r', h'⟩
  · rintro ⟨r', h'⟩
    obtain ⟨r, h, -⟩ := exists_perm_classes hperm.symm h'
    exact ⟨r, h⟩
  · have hget := get?_perm hperm h h' name
    exact ⟨hget, by rw [canonicalName?, canonicalName?, hget]⟩

end Registry

namespace Sample

/-- A field that refers to a class. -/
def reference (className : String) : FieldSpec :=
  .detailed
    { typeName := some "relation", reference := some className
      required := false, description := none }

/-- The definitions of two classes that refer to one another. -/
def library : List ClassDefinition :=
  [{ name := "author", plural := none, fields := [("books", .list [reference "BOOK"])] },
    { name := "book", plural := none, fields := [("written_by", reference "author")] }]

/-- The names that relations may point at in these definitions. -/
def libraryTargets : Fields String :=
  [("file", "File"), ("author", "Author"), ("book", "Book")]

/-- The class of authors. -/
def author : ClassInfo where
  name := "Author"
  plural := none
  fields :=
    [{ name := "books", kind := .relationList "Book", required := false, description := none }]

/-- The class of books. -/
def book : ClassInfo where
  name := "Book"
  plural := none
  fields :=
    [{ name := "writtenBy", kind := .relation "Author", required := false, description := none }]

end Sample

namespace Registry

theorem library_accepted : ofDefinitions Sample.library = .ok ⟨[Sample.author, Sample.book]⟩ := by
  have htargets : collectTargets Sample.library [("file", fileClass)] =
      .ok Sample.libraryTargets := by
    decide +kernel
  have hclasses : resolveClasses Sample.libraryTargets Sample.library =
      .ok [Sample.author, Sample.book] := by
    decide +kernel
  rw [ofDefinitions, lowerText_fileClass, htargets]
  change (resolveClasses Sample.libraryTargets Sample.library >>= fun classes => .ok ⟨classes⟩) =
    Except.ok (⟨[Sample.author, Sample.book]⟩ : Registry)
  rw [hclasses]
  rfl

/-- Classes that refer to one another, from the first to the last and from the last to the first. -/
theorem ofDefinitions_order_irrelevant_library :
    Sample.library.Perm Sample.library.reverse ∧
    ofDefinitions Sample.library = .ok ⟨[Sample.author, Sample.book]⟩ ∧
    ∃ r', ofDefinitions Sample.library.reverse = .ok r' ∧ r'.get? "BOOK" = some Sample.book ∧
      r'.canonicalName? "BOOK" = some "Book" := by
  have hperm : Sample.library.Perm Sample.library.reverse := (List.reverse_perm _).symm
  obtain ⟨hiff, hsame⟩ := ofDefinitions_order_irrelevant hperm
  obtain ⟨r', hr'⟩ := hiff.mp ⟨_, library_accepted⟩
  obtain ⟨hget, hname⟩ := hsame _ r' library_accepted hr' "BOOK"
  have hsmall : lowerText "Book" = "book" := by decide +kernel
  have hcapital : lowerText "BOOK" = "book" := by decide +kernel
  have hbook := (get?_eq_some_iff library_accepted).mpr
    ⟨List.mem_cons_of_mem _ List.mem_cons_self, hsmall.trans hcapital.symm⟩
  have hfile : ¬ "BOOK".toLower = fileClass.toLower := by
    rw [toLower_fileClass]
    decide +kernel
  refine ⟨hperm, library_accepted, r', hr', hget ▸ hbook, ?_⟩
  rw [← hname, canonicalName?, if_neg hfile, hbook]
  rfl

end Registry

end ClassApi
