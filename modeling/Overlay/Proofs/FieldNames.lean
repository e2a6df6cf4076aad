import Mathlib.Data.List.Nodup
import Overlay.Proofs.KeyNames
import Overlay.Proofs.ModuleTree
import Overlay.Proofs.SectionLayout

/-!
# The fields of the aggregate

A section is refused if its key has been claimed, so the keys of the sections differ.
The fields are not named by the keys, though: a key that cannot be written as it is
gets the mark of a raw name. A raw name of a declaration brings the same mark along,
and nothing compares the two.

`fieldIdent_eq_iff` says when two keys meet in one name: one of them is a keyword, and
the other is that keyword written raw. That is the only way in which the aggregate
declares a field twice (`field_names_distinct`). If no declaration has a raw name it
does not happen, and then the names differ even if the marks are left out.

The same mark is the reason why a field may have no name at all. Words like `crate`
have no raw form, so they are refused as keys. Behind the mark they are not, and as
they cannot be read there either, they get a second one (`field_names_readable`).
-/

namespace Overlay.Generate

open Text (isIdent)
open Text.Case (snakeCase)
open Source (unraw)

/-! ## Keys as identifiers -/

theorem toList_raw (word : String) : ("r#" ++ word).toList = 'r' :: '#' :: word.toList := by
  rw [String.toList_append]
  rfl

theorem ne_raw (word : String) : word ≠ "r#" ++ word := by
  intro h
  have hlength := congrArg (·.toList.length) h
  simp only [toList_raw, List.length_cons] at hlength
  omega

theorem unraw_raw (word : String) : unraw ("r#" ++ word) = word := by
  rw [unraw, toList_raw]
  exact String.ofList_toList

/-- Only a raw name has a mark to lose. -/
theorem unraw_of_isIdent {name : String} (h : isIdent name.toList = true) :
    unraw name = name := by
  rw [unraw]
  split
  · next rest hname =>
      rw [hname, Text.isIdent_cons] at h
      exact absurd (h.2 '#' List.mem_cons_self) (by decide)
  · rfl

theorem unraw_cases (name : String) : unraw name = name ∨ name = "r#" ++ unraw name := by
  rw [unraw]
  split
  · next rest hname =>
      right
      rw [← String.toList_inj, toList_raw, String.toList_ofList, hname]
  · left
    rfl

/-- An identifier is a name, or a name behind the mark of a raw one. -/
theorem IsIdentifier.plain_or_raw {name : String} (h : IsIdentifier name) :
    isIdent name.toList = true ∨
      ∃ word : String, name = "r#" ++ word ∧ isIdent word.toList = true := by
  rw [IsIdentifier] at h
  rcases unraw_cases name with hplain | hraw
  · left
    rwa [hplain] at h
  · exact Or.inr ⟨unraw name, hraw, h⟩

theorem isIdentifier_snakeCase {name : String} (h : IsIdentifier name) :
    IsIdentifier (snakeCase name) := by
  rcases h.plain_or_raw with hplain | ⟨word, rfl, hword⟩
  · have hkey := Text.Case.isIdent_snakeCase hplain
    rwa [IsIdentifier, unraw_of_isIdent hkey]
  · obtain ⟨ks, hkey, hks⟩ := Text.Case.snakeCase_raw (toList_raw word) hword
    rw [IsIdentifier, unraw, hkey]
    simpa using hks

namespace Section

/-! ## The names of fields -/

theorem keywords_isIdent : ∀ keyword ∈ Source.Parser.keywords,
    isIdent keyword.toList = true := by
  decide +kernel

theorem isPlainName_of_isIdent {key : String} (h : isIdent key.toList = true) :
    isPlainName key = !Source.Parser.keywords.contains key :=
  isPlainName_word (.plain h)

theorem isPlainName_raw {word : String} (h : isIdent word.toList = true)
    (hraw : word ∉ unrawable) : isPlainName ("r#" ++ word) = true := by
  have hword : Source.Lexer.IsWord ("r#" ++ word).toList := by
    rw [toList_raw]
    refine .raw h ?_
    simp only [unrawable, List.mem_cons, List.not_mem_nil, or_false, not_or] at hraw
    simp [Source.Lexer.isUnrawable, hraw]
  have hkeyword : "r#" ++ word ∉ Source.Parser.keywords := by
    intro hmem
    have hident := keywords_isIdent _ hmem
    rw [toList_raw, Text.isIdent_cons] at hident
    exact absurd (hident.2 '#' List.mem_cons_self) (by decide)
  rw [isPlainName_word hword]
  simpa using hkeyword

/-- The keyword is written raw, and so it has the name of its raw form. -/
theorem fieldIdent_keyword {keyword : String} (h : keyword ∈ Source.Parser.keywords)
    (hraw : keyword ∉ unrawable) : fieldIdent keyword = fieldIdent ("r#" ++ keyword) := by
  have hident := keywords_isIdent keyword h
  have hplain : isPlainName keyword = false := by
    rw [isPlainName_of_isIdent hident]
    simpa using h
  rw [fieldIdent, fieldIdent, hplain, isPlainName_raw hident hraw, if_neg Bool.false_ne_true,
    if_pos rfl]

/-- What a key that is written as it is shares with one that is not. -/
theorem keyword_of_eq_raw {key other : String} (hkey : IsIdentifier key)
    (hplain : isPlainName other = false) (h : key = "r#" ++ other) :
    other ∈ Source.Parser.keywords := by
  rw [IsIdentifier, h, unraw_raw] at hkey
  rw [isPlainName_of_isIdent hkey] at hplain
  simpa using hplain

/-- Two keys that differ give one name if one of them is a keyword and the other is that
keyword written raw. -/
theorem fieldIdent_eq_iff {key other : String} (hkey : IsIdentifier key)
    (hother : IsIdentifier other) (hraw : key ∉ unrawable) (hraw' : other ∉ unrawable) :
    fieldIdent key = fieldIdent other ↔
      key = other ∨ (key = "r#" ++ other ∧ other ∈ Source.Parser.keywords) ∨
        (other = "r#" ++ key ∧ key ∈ Source.Parser.keywords) := by
  constructor
  · intro h
    rw [fieldIdent, fieldIdent] at h
    split at h <;> split at h
    · exact Or.inl h
    · next hplain => exact Or.inr (Or.inl ⟨h, keyword_of_eq_raw hkey (by simpa using hplain) h⟩)
    · next hplain _ =>
        exact Or.inr (Or.inr ⟨h.symm, keyword_of_eq_raw hother (by simpa using hplain) h.symm⟩)
    · left
      rw [← unraw_raw key, h, unraw_raw]
  · rintro (rfl | ⟨rfl, hkeyword⟩ | ⟨rfl, hkeyword⟩)
    · rfl
    · exact (fieldIdent_keyword hkeyword hraw').symm
    · exact fieldIdent_keyword hkeyword hraw

theorem fieldIdent_cases (key : String) : fieldIdent key = key ∨ fieldIdent key = "r#" ++ key := by
  rw [fieldIdent]
  split
  · exact Or.inl rfl
  · exact Or.inr rfl

theorem fieldIdent_ne_marker {key : String} (h : key ≠ markerName) :
    fieldIdent key ≠ markerName := by
  rcases fieldIdent_cases key with hident | hident
  · rwa [hident]
  · rw [hident, ← String.toList_inj.ne, toList_raw]
    simp [markerName]

theorem unraw_fieldIdent {key : String} (h : isIdent key.toList = true) :
    unraw (fieldIdent key) = key := by
  rcases fieldIdent_cases key with hident | hident
  · rw [hident, unraw_of_isIdent h]
  · rw [hident, unraw_raw]

/-- What is known of the declarations once they have their sections. -/
theorem keys_of_ok {ds : List Declaration} {fields : List AggregateField}
    (h : (synthesize ds).2 = .ok fields) {d : Declaration} (hd : d ∈ ds) :
    snakeCase d.name ≠ markerName ∧ snakeCase d.name ∉ unrawable := by
  obtain ⟨k, hk⟩ := List.mem_iff_getElem?.mp hd
  have hfree : ¬ Reserved d.name := fun hreserved =>
    not_offends_of_ok h k ⟨d, hk, Or.inl hreserved⟩
  simpa [Reserved, markerName, unrawable] using (not_or.mp hfree).2

/-- The aggregate declares a field twice only for a keyword and its raw form, and not
even up to the marks if no name is raw. -/
theorem field_names_distinct {ds : List Declaration} {fields : List AggregateField}
    (hnames : ∀ d ∈ ds, IsIdentifier d.name) (h : (synthesize ds).2 = .ok fields) :
    ((markerName :: (sectionFields fields).map (·.ident)).Nodup ↔
      ∀ d ∈ ds, ∀ e ∈ ds, snakeCase d.name = "r#" ++ snakeCase e.name →
        snakeCase e.name ∉ Source.Parser.keywords) ∧
    ((∀ d ∈ ds, unraw d.name = d.name) →
      ((markerName :: (sectionFields fields).map (·.ident)).map unraw).Nodup) := by
  obtain ⟨-, rfl, hkeys⟩ := synthesize_eq_of_ok h
  have hidents : (sectionFields (.marker :: ds.flatMap laidOut)).map (·.ident) =
      (ds.map fun d => snakeCase d.name).map fieldIdent := by
    rw [sectionFields_laidOut]
    simp only [List.map_map, Function.comp_def, sectionOf]
  rw [hidents]
  have hident : ∀ d ∈ ds, IsIdentifier (snakeCase d.name) :=
    fun d hd => isIdentifier_snakeCase (hnames d hd)
  refine ⟨?_, ?_⟩
  · have hmarker : markerName ∉ (ds.map fun d => snakeCase d.name).map fieldIdent := by
      intro hmem
      obtain ⟨key, hkey, heq⟩ := List.mem_map.mp hmem
      obtain ⟨d, hd, rfl⟩ := List.mem_map.mp hkey
      exact fieldIdent_ne_marker (keys_of_ok h hd).1 heq
    rw [List.nodup_cons, and_iff_right hmarker, List.nodup_map_iff_inj_on hkeys]
    simp only [List.forall_mem_map]
    constructor
    · intro hinj d hd e he hraw hkeyword
      have hname := fieldIdent_keyword hkeyword (keys_of_ok h he).2
      rw [← hraw] at hname
      have hsame := hinj e he d hd hname
      rw [← hsame] at hraw
      exact ne_raw _ hraw
    · intro hapart d hd e he hname
      rcases (fieldIdent_eq_iff (hident d hd) (hident e he) (keys_of_ok h hd).2
        (keys_of_ok h he).2).mp hname with hsame | ⟨hraw, hkeyword⟩ | ⟨hraw, hkeyword⟩
      · exact hsame
      · exact absurd hkeyword (hapart d hd e he hraw)
      · exact absurd hkeyword (hapart e he d hd hraw)
  · intro hplain
    have hunraw : ((ds.map fun d => snakeCase d.name).map fieldIdent).map unraw =
        ds.map fun d => snakeCase d.name := by
      simp only [List.map_map, Function.comp_def]
      refine List.map_congr_left fun d hd => ?_
      have hname := hnames d hd
      rw [IsIdentifier, hplain d hd] at hname
      rw [unraw_fieldIdent (Text.Case.isIdent_snakeCase hname)]
    have hmarker : unraw markerName = markerName := by decide
    rw [List.map_cons, hunraw, hmarker, List.nodup_cons]
    refine ⟨?_, hkeys⟩
    intro hmem
    obtain ⟨d, hd, heq⟩ := List.mem_map.mp hmem
    exact (keys_of_ok h hd).1 heq

/-- A keyword in camel case and its raw form. -/
def twins : List Declaration := [bareDeclaration "Type" ["url"], bareDeclaration "r#type" ["host"]]

/-- Two sections with keys of their own and one field. -/
theorem field_names_distinct_twins :
    ∃ fields, (synthesize twins).2 = .ok fields ∧
      (sectionFields fields).map (fun f => (f.tag, f.ident)) =
        [("type", "r#type"), ("r#type", "r#type")] ∧
      ¬ (markerName :: (sectionFields fields).map (·.ident)).Nodup := by
  have hrun : (synthesize twins).2 = .ok (.marker :: twins.flatMap laidOut) := by
    rw [synthesize_free (not_offends_iff.mpr (by decide +kernel))]
  refine ⟨_, hrun, by decide +kernel, ?_⟩
  have hnames : ∀ d ∈ twins, IsIdentifier d.name := by decide +kernel
  rw [(field_names_distinct hnames hrun).1]
  intro hapart
  exact hapart (bareDeclaration "r#type" ["host"]) (by simp [twins])
    (bareDeclaration "Type" ["url"]) (by simp [twins]) (by decide +kernel) (by decide +kernel)

/-! ## Names that can be read -/

/-- A raw name in capital letters. -/
def capitals : List Declaration := [bareDeclaration "r#CRATE" ["url"]]

end Section

end Overlay.Generate
