import Mathlib.Data.List.Basic
import Mathlib.Order.Lattice.Nat
import Overlay.Generate.Section

/-!
# How sections are laid out

Declarations are laid out one after another. Each one gets the keys of its fields, then
claims a key of its own among those that have been claimed, and the first one that
cannot have its key ends the run; the declarations behind it are left as they came.

`claim_free` and `claim_refused` say what one declaration does after others, whatever
the order in which the claimed keys are kept. From them a run is known in two halves:
`layOut_free` when no declaration offends, and `layOut_refused` up to the first one
that does. There are no other runs, so `synthesize_outcome` decides them all.
-/

namespace Overlay.Generate.Section

open Text.Case

/-- The field of the aggregate for a declaration. -/
def sectionOf (d : Declaration) : SectionField :=
  ⟨fieldIdent (snakeCase d.name), snakeCase d.name, d.name⟩

/-- A name that the generated module needs for itself, or that gives a key which is no
name of a field. -/
def Reserved (name : String) : Prop :=
  name = "Config" ∨
    snakeCase name ∈ ["embedding", "crate", "self", "super", "Self", "_"]

/-- A declaration that cannot follow the others. -/
def Offending (before : List Declaration) (d : Declaration) : Prop :=
  Reserved d.name ∨ ∃ e ∈ before, snakeCase e.name = snakeCase d.name

instance (name : String) : Decidable (Reserved name) :=
  inferInstanceAs (Decidable (_ ∨ _))

instance (before : List Declaration) (d : Declaration) : Decidable (Offending before d) :=
  inferInstanceAs (Decidable (_ ∨ ∃ e ∈ before, snakeCase e.name = snakeCase d.name))

/-- The failure for a declaration that cannot follow the others. A reserved name is
reported before a repeated key. -/
inductive Refused (before : List Declaration) (d : Declaration) : Failure → Prop
  | reserved (h : Reserved d.name) : Refused before d (.reservedSectionName d.name)
  | repeated {e : Declaration} (h : ¬ Reserved d.name) (he : e ∈ before)
      (hkey : snakeCase e.name = snakeCase d.name) :
      Refused before d (.duplicateSection e.name d.name (snakeCase d.name))

/-! ## One declaration -/

/-- What declarations have claimed, the last of them first. -/
def claims (before : List Declaration) : List (String × String) :=
  (before.map fun d => (snakeCase d.name, d.name)).reverse

theorem claims_snoc (before : List Declaration) (d : Declaration) :
    claims (before ++ [d]) = (snakeCase d.name, d.name) :: claims before := by
  simp [claims]

theorem mem_claims {before : List Declaration} {key name : String} :
    (key, name) ∈ claims before ↔ ∃ e ∈ before, snakeCase e.name = key ∧ e.name = name := by
  simp [claims]

theorem lookup_claims_eq_none {before : List Declaration} {key : String} :
    (claims before).lookup key = none ↔ ¬ ∃ e ∈ before, snakeCase e.name = key := by
  rw [List.lookup_eq_none_iff]
  constructor
  · rintro hfree ⟨e, he, rfl⟩
    simpa using hfree _ (mem_claims.mpr ⟨e, he, rfl, rfl⟩)
  · rintro hfree ⟨other, name⟩ hentry
    obtain ⟨e, he, rfl, -⟩ := mem_claims.mp hentry
    rw [bne_iff_ne]
    intro heq
    exact hfree ⟨e, he, heq.symm⟩

theorem exists_of_lookup_claims {before : List Declaration} {key first : String}
    (h : (claims before).lookup key = some first) :
    ∃ e ∈ before, snakeCase e.name = key ∧ e.name = first := by
  obtain ⟨newer, older, hsplit, -⟩ := List.lookup_eq_some_iff.mp h
  exact mem_claims.mp (by simp [hsplit])

theorem reserved_iff (name : String) :
    Reserved name ↔ (name == aggregateName) = true ∨
      (snakeCase name == markerName || unrawable.contains (snakeCase name)) = true := by
  simp [Reserved, aggregateName, markerName, unrawable]

theorem claim_free {before : List Declaration} {d : Declaration} (h : ¬ Offending before d) :
    claim (claims before) d.name = .ok (snakeCase d.name) := by
  obtain ⟨hname, hkey⟩ := not_or.mp h
  obtain ⟨haggregate, htag⟩ := not_or.mp (mt (reserved_iff d.name).mpr hname)
  rw [claim, if_neg haggregate]
  simp only []
  rw [if_neg htag, lookup_claims_eq_none.mpr hkey]

theorem claim_refused {before : List Declaration} {d : Declaration}
    (h : Offending before d) :
    ∃ f, claim (claims before) d.name = .error f ∧ Refused before d f := by
  by_cases hname : Reserved d.name
  · refine ⟨_, ?_, .reserved hname⟩
    rw [claim]
    rcases (reserved_iff d.name).mp hname with haggregate | htag
    · rw [if_pos haggregate]
    · split
      · rfl
      · simp only []
        rw [if_pos htag]
  · obtain ⟨haggregate, htag⟩ := not_or.mp (mt (reserved_iff d.name).mpr hname)
    cases hlookup : (claims before).lookup (snakeCase d.name) with
    | none => exact absurd (h.resolve_left hname) (lookup_claims_eq_none.mp hlookup)
    | some first =>
        obtain ⟨e, he, hkey, rfl⟩ := exists_of_lookup_claims hlookup
        refine ⟨_, ?_, .repeated hname he hkey⟩
        rw [claim, if_neg haggregate]
        simp only []
        rw [if_neg htag, hlookup]

/-! ## All declarations -/

/-- None of the declarations offends where it stands. -/
def Free (before ds : List Declaration) : Prop :=
  ∀ pre d post, ds = pre ++ d :: post → ¬ Offending (before ++ pre) d

theorem free_cons {before ds : List Declaration} {d : Declaration}
    (h : Free before (d :: ds)) : ¬ Offending before d ∧ Free (before ++ [d]) ds := by
  refine ⟨by simpa using h [] d ds rfl, ?_⟩
  rintro pre e post rfl
  simpa using h (d :: pre) e post rfl

theorem Free.keys {before ds : List Declaration} (h : Free before ds) :
    (∀ d ∈ ds, ∀ e ∈ before, snakeCase e.name ≠ snakeCase d.name) ∧
      (ds.map fun d => snakeCase d.name).Nodup := by
  induction ds generalizing before with
  | nil => simp
  | cons d ds ih =>
      obtain ⟨hd, hrest⟩ := free_cons h
      obtain ⟨hother, hdistinct⟩ := ih hrest
      refine ⟨?_, ?_⟩
      · intro c hc e he heq
        rcases List.mem_cons.mp hc with rfl | hc
        · exact hd (Or.inr ⟨e, he, heq⟩)
        · exact hother c hc e (by simp [he]) heq
      · rw [List.map_cons, List.nodup_cons]
        refine ⟨?_, hdistinct⟩
        intro hmem
        obtain ⟨c, hc, heq⟩ := List.mem_map.mp hmem
        exact hother c hc d (by simp) heq.symm

/-- The lines of the aggregate for a declaration. -/
def laidOut (d : Declaration) : List AggregateField := [.spacer, .sectionField (sectionOf d)]

theorem layOut_free {before ds : List Declaration} (h : Free before ds) :
    layOut (claims before) ds = (ds.map tagFields, .ok (ds.flatMap laidOut)) := by
  induction ds generalizing before with
  | nil => rfl
  | cons d ds ih =>
      obtain ⟨hd, hrest⟩ := free_cons h
      rw [layOut, claim_free hd]
      simp only [← claims_snoc, ih hrest]
      rfl

theorem layOut_refused {before pre : List Declaration} {d : Declaration}
    (hpre : Free before pre) (hd : Offending (before ++ pre) d) (post : List Declaration) :
    ∃ f, layOut (claims before) (pre ++ d :: post) =
        ((pre ++ [d]).map tagFields ++ post, .error f) ∧ Refused (before ++ pre) d f := by
  induction pre generalizing before with
  | nil =>
      rw [List.append_nil] at hd
      obtain ⟨f, hclaim, hrefused⟩ := claim_refused hd
      refine ⟨f, ?_, by simpa using hrefused⟩
      rw [List.nil_append, layOut, hclaim]
      rfl
  | cons e pre ih =>
      obtain ⟨he, hrest⟩ := free_cons hpre
      obtain ⟨f, hlater, hrefused⟩ := ih hrest (by simpa using hd)
      refine ⟨f, ?_, by simpa using hrefused⟩
      rw [List.cons_append, layOut, claim_free he]
      simp only [← claims_snoc, hlater]
      rfl

theorem sectionFields_laidOut (ds : List Declaration) :
    sectionFields (.marker :: ds.flatMap laidOut) = ds.map sectionOf := by
  induction ds with
  | nil => rfl
  | cons d ds ih =>
      rw [List.map_cons, ← ih]
      rfl

/-! ## By the place of a declaration -/

/-- The `k`-th declaration offends. -/
def Offends (ds : List Declaration) (k : Nat) : Prop :=
  ∃ d, ds[k]? = some d ∧ Offending (ds.take k) d

instance (ds : List Declaration) (k : Nat) : Decidable (Offends ds k) :=
  decidable_of_iff ((ds[k]?).any (fun d => decide (Offending (ds.take k) d)) = true) <| by
    simp [Offends, Option.any_eq_true]

theorem not_offends_iff {ds : List Declaration} :
    (∀ k, ¬ Offends ds k) ↔ ∀ k < ds.length, ¬ Offends ds k := by
  refine ⟨fun h k _ => h k, fun h k hk => ?_⟩
  obtain ⟨d, hd, hoffending⟩ := hk
  obtain ⟨hlength, -⟩ := List.getElem?_eq_some_iff.mp hd
  exact h k hlength ⟨d, hd, hoffending⟩

theorem exists_least {ds : List Declaration} {k : Nat} (h : Offends ds k) :
    ∃ k, Offends ds k ∧ ∀ j < k, ¬ Offends ds j := by
  classical
  exact ⟨Nat.find ⟨k, h⟩, Nat.find_spec _, fun j hj => Nat.find_min _ hj⟩

theorem split_at {ds : List Declaration} {k : Nat} {d : Declaration} (h : ds[k]? = some d) :
    ds = ds.take k ++ d :: ds.drop (k + 1) := by
  obtain ⟨hk, rfl⟩ := List.getElem?_eq_some_iff.mp h
  rw [List.getElem_cons_drop, List.take_append_drop]

theorem free_iff {ds : List Declaration} : Free [] ds ↔ ∀ k, ¬ Offends ds k := by
  constructor
  · rintro h k ⟨d, hd, hoffending⟩
    exact h _ _ _ (split_at hd) hoffending
  · rintro h pre d post rfl hoffending
    exact h pre.length ⟨d, by simp, by simpa using hoffending⟩

theorem free_take {ds : List Declaration} {k : Nat} (h : ∀ j < k, ¬ Offends ds j) :
    Free [] (ds.take k) := by
  rw [free_iff]
  rintro j ⟨d, hd, hoffending⟩
  have hj : j < k := by
    obtain ⟨hlt, -⟩ := List.getElem?_eq_some_iff.mp hd
    rw [List.length_take] at hlt
    omega
  rw [List.getElem?_take_of_lt hj] at hd
  rw [List.take_take, Nat.min_eq_left (by omega)] at hoffending
  exact h j hj ⟨d, hd, hoffending⟩

/-- The first `n` declarations have got the keys of their fields, and nothing else is
different. -/
def KeysGiven (n : Nat) (ds tagged : List Declaration) : Prop :=
  ∀ i, tagged[i]? = (ds[i]?).map fun d =>
    if i < n then
      { d with fields := d.fields.map fun f => { f with tag := some (snakeCase f.name) } }
    else d

theorem keysGiven_take (n : Nat) (ds : List Declaration) :
    KeysGiven n ds ((ds.take n).map tagFields ++ ds.drop n) := by
  intro i
  rw [List.getElem?_append, List.length_map, List.length_take, List.getElem?_map,
    List.getElem?_drop]
  by_cases hi : i < n
  · by_cases hlength : i < ds.length
    · rw [if_pos (by omega), List.getElem?_take_of_lt hi]
      simp only [hi, if_true]
      rfl
    · rw [if_neg (by omega), List.getElem?_eq_none (by omega), List.getElem?_eq_none (by omega)]
      rfl
  · rw [if_neg (by omega)]
    simp only [hi, if_false, Option.map_id']
    by_cases hlength : n ≤ ds.length
    · congr 1
      omega
    · rw [List.getElem?_eq_none (by omega), List.getElem?_eq_none (by omega)]

theorem synthesize_of_layOut {ds tagged : List Declaration}
    {outcome : Except Failure (List AggregateField)} (h : layOut [] ds = (tagged, outcome)) :
    synthesize ds = (tagged, outcome.map (.marker :: ·)) := by
  rw [synthesize, h]

theorem synthesize_free {ds : List Declaration} (h : ∀ k, ¬ Offends ds k) :
    synthesize ds = (ds.map tagFields, .ok (.marker :: ds.flatMap laidOut)) :=
  synthesize_of_layOut (layOut_free (free_iff.mpr h))

theorem synthesize_refused {ds : List Declaration} {k : Nat} {d : Declaration}
    (hd : ds[k]? = some d) (hoffending : Offending (ds.take k) d)
    (hleast : ∀ j < k, ¬ Offends ds j) :
    ∃ f, synthesize ds = ((ds.take (k + 1)).map tagFields ++ ds.drop (k + 1), .error f) ∧
      Refused (ds.take k) d f := by
  obtain ⟨f, hlayOut, hrefused⟩ :=
    layOut_refused (free_take hleast) (by simpa using hoffending) (ds.drop (k + 1))
  have htake : ds.take (k + 1) = ds.take k ++ [d] := by
    rw [List.take_add_one, hd]
    rfl
  rw [← split_at hd, ← htake] at hlayOut
  exact ⟨f, synthesize_of_layOut hlayOut, hrefused⟩

theorem not_offends_of_ok {ds : List Declaration} {fields : List AggregateField}
    (h : (synthesize ds).2 = .ok fields) (k : Nat) : ¬ Offends ds k := by
  intro hk
  obtain ⟨k, ⟨d, hd, hoffending⟩, hleast⟩ := exists_least hk
  obtain ⟨f, hrun, -⟩ := synthesize_refused hd hoffending hleast
  rw [hrun] at h
  cases h

theorem synthesize_eq_of_ok {ds : List Declaration} {fields : List AggregateField}
    (h : (synthesize ds).2 = .ok fields) :
    synthesize ds = (ds.map tagFields, .ok fields) ∧
      fields = .marker :: ds.flatMap laidOut ∧ (ds.map fun d => snakeCase d.name).Nodup := by
  have hfree := not_offends_of_ok h
  have hrun := synthesize_free hfree
  rw [hrun] at h
  cases h
  exact ⟨hrun, rfl, (free_iff.mpr hfree).keys.2⟩

/-- The declarations all get their sections unless one of them offends, and then the
first that does decides the failure and where the keys of fields end. -/
theorem synthesize_outcome (ds : List Declaration) :
    ((∃ fields, (synthesize ds).2 = .ok fields) ↔ ∀ k, ¬ Offends ds k) ∧
    (∀ fields, (synthesize ds).2 = .ok fields →
      fields = .marker :: ds.flatMap (fun d => [.spacer, .sectionField
        ⟨fieldIdent (snakeCase d.name), snakeCase d.name, d.name⟩]) ∧
      ((sectionFields fields).map (·.tag)).Nodup ∧
      KeysGiven ds.length ds (synthesize ds).1) ∧
    ∀ k, Offends ds k → (∀ j < k, ¬ Offends ds j) →
      ∃ d f, ds[k]? = some d ∧ (synthesize ds).2 = .error f ∧ Refused (ds.take k) d f ∧
        ((ds.take k).map fun e => snakeCase e.name).Nodup ∧
        KeysGiven (k + 1) ds (synthesize ds).1 := by
  refine ⟨⟨?_, ?_⟩, ?_, ?_⟩
  · rintro ⟨fields, hfields⟩
    exact not_offends_of_ok hfields
  · intro h
    rw [synthesize_free h]
    exact ⟨_, rfl⟩
  · intro fields hfields
    obtain ⟨hrun, rfl, hdistinct⟩ := synthesize_eq_of_ok hfields
    refine ⟨rfl, ?_, ?_⟩
    · rw [sectionFields_laidOut, List.map_map]
      exact hdistinct
    · rw [hrun]
      simpa using keysGiven_take ds.length ds
  · rintro k ⟨d, hd, hoffending⟩ hleast
    obtain ⟨f, hrun, hrefused⟩ := synthesize_refused hd hoffending hleast
    rw [hrun]
    exact ⟨d, f, hd, rfl, hrefused, (free_take hleast).keys.2, keysGiven_take _ _⟩

/-- A declaration of which only the names matter. -/
def bareDeclaration (name : String) (fields : List String) : Declaration :=
  { name
    module := "sections"
    fields := fields.map fun field => ⟨field, field, "String", [], none⟩
    derivesDefault := false
    literal := .mk .expression [] []
    declaredIn := "config"
    literalSource := ⟨"config", "", ⟨[], []⟩⟩ }

/-- The third declaration has the key of the first, and the last one has a name that is
reserved. -/
def clashing : List Declaration :=
  [bareDeclaration "HTTPServer" ["Port"], bareDeclaration "Db" ["url"],
    bareDeclaration "HttpServer" ["host"], bareDeclaration "Config" ["path"]]

theorem synthesize_outcome_clashing :
    (synthesize clashing).2 =
        .error (.duplicateSection "HTTPServer" "HttpServer" "http_server") ∧
      (synthesize clashing).1.map (fun d => d.fields.map (·.tag)) =
        [[some "port"], [some "url"], [some "host"], [none]] := by
  obtain ⟨d, f, hd, hfailure, hrefused, -, -⟩ :=
    (synthesize_outcome clashing).2.2 2 (by decide +kernel) (by decide +kernel)
  obtain rfl : bareDeclaration "HttpServer" ["host"] = d := Option.some.inj hd
  refine ⟨?_, by decide +kernel⟩
  rw [hfailure]
  cases hrefused with
  | reserved h => exact absurd h (by decide +kernel)
  | repeated h he hkey =>
      simp only [clashing, List.take, List.mem_cons, List.not_mem_nil, or_false] at he
      rcases he with rfl | rfl
      · rfl
      · exact absurd hkey (by decide +kernel)

end Overlay.Generate.Section
