import Overlay.Generate.Render
import Overlay.Proofs.SectionLayout

/-!
# What the generated module says of its sections

Three parts of the generated module speak of the sections: the copies of their types,
the fields of the aggregate, and the defaults. They are written by three functions, from
the declarations, from the fields of the aggregate, and from both; the last one puts them
together again by nothing but their order, and the fields come with a marker in front and
blank lines between.

`TypeCopy`, `Member` and `Default` are what the text says of one section in each of the
parts, with the text they stand for. `Shows` is the module as a frame around three
sequences of them. `sections_agree` then compares the sequences with the declarations and
with each other, place by place.
-/

namespace Overlay.Generate.Render

open Source Section
open Text.Case (snakeCase)

/-- A line of the text. -/
def line (l : String) : String := l ++ "\n"

/-- Lines as one text. -/
def joined (ls : List String) : String := String.join (ls.map line)

theorem joined_nil : joined [] = "" := rfl

theorem joined_cons (l : String) (ls : List String) : joined (l :: ls) = line l ++ joined ls := by
  rw [joined, List.map_cons, String.join_cons, joined]

theorem joined_append (ls ms : List String) : joined (ls ++ ms) = joined ls ++ joined ms := by
  rw [joined, List.map_append, String.join_append, joined, joined]

theorem joined_map {α : Type} (xs : List α) (f : α → String) :
    joined (xs.map f) = String.join (xs.map fun x => line (f x)) := by
  rw [joined, List.map_map]
  rfl

theorem joined_flatMap {α : Type} (xs : List α) (f : α → List String) :
    joined (xs.flatMap f) = String.join (xs.map fun x => joined (f x)) := by
  induction xs with
  | nil => rfl
  | cons x xs ih => rw [List.flatMap_cons, joined_append, ih, List.map_cons, String.join_cons]

/-! ## The pieces -/

/-- A field in the copy of a type. -/
structure FieldCopy where
  attributes : List String
  key : String
  ident : String
  type : String

def FieldCopy.text (f : FieldCopy) : String :=
  String.join (f.attributes.map fun a => line ("        " ++ a)) ++
    line ("        #[serde(rename = \"" ++ f.key ++ "\")]") ++
    line ("        pub " ++ f.ident ++ ": " ++ f.type ++ ",")

/-- The copy of a type. -/
structure TypeCopy where
  /-- The path of the type. -/
  origin : String
  derives : String
  name : String
  fields : List FieldCopy

def TypeCopy.text (t : TypeCopy) : String :=
  line "" ++
    line ("    /// Copy of `" ++ t.origin ++ "`.") ++
    line ("    #[derive(" ++ t.derives ++ ")]") ++
    if t.fields = [] then line ("    pub struct " ++ t.name ++ " \x7b\x7d")
    else
      line ("    pub struct " ++ t.name ++ " \x7b") ++
        String.join (t.fields.map FieldCopy.text) ++ line "    \x7d"

/-- A field of the aggregate that holds a section. -/
structure Member where
  key : String
  ident : String
  type : String

def Member.text (m : Member) : String :=
  line "" ++
    line ("    /// The `" ++ m.type ++ "` section.") ++
    line ("    #[serde(rename = \"" ++ m.key ++ "\")]") ++
    line ("    pub " ++ m.ident ++ ": sections::" ++ m.type ++ ",")

/-- The default of a section. -/
structure Default where
  ident : String
  type : String
  values : List String
  base : Option String

def Default.text (v : Default) : String :=
  let head := "            " ++ v.ident ++ ": sections::" ++ v.type
  if v.values = [] ∧ v.base = none then line (head ++ " \x7b\x7d,")
  else
    line (head ++ " \x7b") ++
      String.join (v.values.map fun value => line ("                " ++ value ++ ",")) ++
      (v.base.elim "" fun b => line ("                .." ++ b)) ++ line "            \x7d,"

/-! ## What is written for a declaration -/

def FieldCopy.of (f : DeclaredField) : FieldCopy :=
  ⟨f.attributes, f.tag.getD f.name, f.ident, f.type⟩

theorem joined_sectionField (f : DeclaredField) :
    joined (sectionField f) = (FieldCopy.of f).text := by
  rw [sectionField, joined_append, joined_map, joined_cons, joined_cons, joined_nil,
    String.append_empty, ← String.append_assoc]
  rfl

def TypeCopy.of (d : Declaration) : TypeCopy where
  origin := d.module ++ "::" ++ d.name
  derives := "Debug, Clone," ++ (if d.derivesDefault then " Default," else "") ++
    " ::serde::Deserialize, ::serde::Serialize"
  name := d.name
  fields := d.fields.map FieldCopy.of

theorem derives_of (d : Declaration) :
    "    #[derive(Debug, Clone," ++ (if d.derivesDefault then " Default," else "") ++ " " ++
        serialization ++ "::Deserialize, " ++ serialization ++ "::Serialize)]" =
      "    #[derive(" ++ (TypeCopy.of d).derives ++ ")]" := by
  rw [TypeCopy.of, serialization]
  cases d.derivesDefault <;> rfl

theorem joined_sectionStruct (d : Declaration) :
    joined (sectionStruct d) = (TypeCopy.of d).text := by
  have horigin : "    /// Copy of `" ++ d.module ++ "::" ++ d.name ++ "`." =
      "    /// Copy of `" ++ (TypeCopy.of d).origin ++ "`." := by
    simp only [TypeCopy.of, String.append_assoc]
  rw [sectionStruct, joined_append, TypeCopy.text]
  simp only [joined_cons, joined_nil, String.append_empty, derives_of, horigin,
    ← String.append_assoc]
  congr 1
  cases hfields : d.fields with
  | nil =>
      rw [if_pos List.isEmpty_nil, if_pos (by rw [TypeCopy.of, hfields]; rfl), joined_cons,
        joined_nil, String.append_empty, String.append_assoc]
      rfl
  | cons f fs =>
      rw [if_neg (by simp), if_neg (by simp [TypeCopy.of, hfields]), ← hfields,
        List.cons_append, joined_cons, joined_append, joined_flatMap, joined_cons, joined_nil,
        String.append_empty]
      simp only [joined_sectionField, TypeCopy.of, List.map_map, Function.comp_def,
        String.append_assoc]
      rfl

def Member.of (f : SectionField) : Member := ⟨f.tag, f.ident, f.typeName⟩

theorem joined_member (f : SectionField) :
    joined ([.spacer, .sectionField f].flatMap aggregateField) = (Member.of f).text := by
  rw [List.flatMap_cons, List.flatMap_cons, List.flatMap_nil, List.append_nil, joined_append,
    aggregateField, aggregateField]
  simp only [joined_cons, joined_nil, String.append_empty, String.append_assoc, Member.text, Member.of]

def Default.of (ident : String) (d : Declaration) : Default where
  ident
  type := d.name
  values := (literalFields d.literal).map d.literalSource.snippet
  base := match literalBase? d.literal with
    | some b => some (if isTypeDefaultCall b then defaultCall else d.literalSource.snippet b)
    | none =>
      if d.derivesDefault && (literalFields d.literal).length < d.fields.length then some defaultCall
      else none

theorem base?_eq (ident : String) (d : Declaration) :
    base? d = (Default.of ident d).base.map (".." ++ ·) := by
  rw [base?, Default.of]
  cases literalBase? d.literal with
  | some b => rfl
  | none =>
      simp only []
      split <;> rfl

theorem isSome_base (ident : String) (d : Declaration) :
    (Default.of ident d).base.isSome = true ↔
      (literalBase? d.literal).isSome = true ∨
        d.derivesDefault = true ∧ (literalFields d.literal).length < d.fields.length := by
  rw [Default.of]
  cases literalBase? d.literal with
  | some b => simp
  | none =>
      by_cases hless : (literalFields d.literal).length < d.fields.length
      · simp [hless]
      · simp [hless]

theorem joined_initializer (ident : String) (d : Declaration) :
    joined (initializer ident d) = (Default.of ident d).text := by
  have hvalues : (literalFields d.literal).map
        (fun f => line ("                " ++ d.literalSource.snippet f ++ ",")) =
      (Default.of ident d).values.map fun value => line ("                " ++ value ++ ",") := by
    simp only [Default.of, List.map_map, Function.comp_def]
  have hnone : (literalFields d.literal).isEmpty = decide ((Default.of ident d).values = []) := by
    cases hfields : literalFields d.literal <;> simp [Default.of, hfields]
  rw [initializer, Default.text]
  simp only [base?_eq ident, hnone]
  cases hbase : (Default.of ident d).base with
  | none =>
      by_cases hempty : (Default.of ident d).values = []
      · rw [if_pos (by simp [hempty]), if_pos (by simp [hempty]), joined_cons, joined_nil,
          String.append_empty]
        simp only [Default.of, inBraces, String.append_assoc]
        rfl
      · rw [if_neg (by simp [hempty]), if_neg (by simp [hempty])]
        simp only [joined_append, joined_cons, joined_nil, joined_map, hvalues, Option.map_none,
          Option.toList_none, Option.elim_none, String.append_empty]
        rfl
  | some b =>
      rw [if_neg (by simp), if_neg (by simp)]
      simp only [joined_append, joined_cons, joined_nil, joined_map, hvalues, Option.map_some,
        Option.toList_some, Option.elim_some, String.append_empty, ← String.append_assoc]
      rfl

/-! ## The module -/

/-- The module of the copies, which is not written if there are none. -/
def copies (types : List TypeCopy) : String :=
  if types = [] then ""
  else
    joined ["", "/// Sections merged into [`Config`].", "pub mod sections \x7b",
        "    use super::*;"] ++
      String.join (types.map TypeCopy.text) ++ line "\x7d"

/-- The aggregate up to the first section. -/
def aggregateOpening : String :=
  joined
    ["",
     "/// Configuration assembled from the sections declared in `config.rs`.",
     "#[derive(Debug, Clone, ::serde::Deserialize, ::serde::Serialize)]",
     "pub struct Config \x7b",
     "    /// Layer sources applied by `Config::new`.",
     "    #[serde(skip)]",
     "    pub embedding: ::layercfg::Embedding,"]

/-- The implementations up to the first default. -/
def defaultsOpening : String :=
  joined
    ["",
     "impl ::layercfg::Embedded for Config \x7b",
     "    fn embedding(&self) -> &::layercfg::Embedding \x7b",
     "        &self.embedding",
     "    \x7d",
     "",
     "    fn embedding_mut(&mut self) -> &mut ::layercfg::Embedding \x7b",
     "        &mut self.embedding",
     "    \x7d",
     "\x7d",
     "",
     "impl Config \x7b",
     "    /// Builds the configuration from its defaults, then the layers selected",
     "    /// by `opts`.",
     "    ///",
     "    /// # Errors",
     "    ///",
     "    /// Returns `LayerError` when a layer cannot be read or merged.",
     "    pub fn new<I>(opts: I) -> ::core::result::Result<Self, ::layercfg::LayerError>",
     "    where",
     "        I: ::core::iter::IntoIterator<Item = ::layercfg::ConfigOption>,",
     "    \x7b",
     "        let mut config = Self::new_default();",
     "        ::layercfg::Embedding::init(&mut config, opts)?;",
     "        ::core::result::Result::Ok(config)",
     "    \x7d",
     "",
     "    /// Returns the defaults written in `config.rs`.",
     "    #[must_use]",
     "    pub fn new_default() -> Self \x7b",
     "        Self \x7b",
     "            embedding: ::layercfg::Embedding::default(),"]

/-- The implementations after the last default. -/
def defaultsClosing : String :=
  joined
    ["        \x7d",
     "    \x7d",
     "\x7d",
     "",
     "impl ::core::default::Default for Config \x7b",
     "    fn default() -> Self \x7b",
     "        Self::new_default()",
     "    \x7d",
     "\x7d"]

/-- The text of a module with these copies of types, fields and defaults. -/
def Shows (input : Input) (types : List TypeCopy) (members : List Member)
    (defaults : List Default) : Prop :=
  text input =
    joined (header input ++ imports input) ++ copies types ++
    aggregateOpening ++ String.join (members.map Member.text) ++ line "\x7d" ++
    defaultsOpening ++ String.join (defaults.map Default.text) ++ defaultsClosing

theorem joined_sections (ds : List Declaration) :
    joined (sections ds) = copies (ds.map TypeCopy.of) := by
  rw [sections, copies]
  cases ds with
  | nil => rfl
  | cons d ds =>
      rw [if_neg (by simp), if_neg (by simp), joined_append, joined_append, joined_flatMap,
        List.map_map]
      simp only [joined_sectionStruct, Function.comp_def]
      rfl

theorem joined_aggregate (ds : List Declaration) :
    joined (aggregate (.marker :: ds.flatMap laidOut)) =
      aggregateOpening ++ String.join (ds.map fun d => (Member.of (sectionOf d)).text) ++
        line "\x7d" := by
  have hmembers : joined ((ds.flatMap laidOut).flatMap aggregateField) =
      String.join (ds.map fun d => (Member.of (sectionOf d)).text) := by
    rw [List.flatMap_assoc, joined_flatMap]
    simp only [laidOut, joined_member]
  rw [aggregate, List.flatMap_cons, joined_append, joined_append, joined_append, hmembers,
    aggregateField, aggregateOpening]
  simp only [joined_cons, joined_nil, openBrace, library, serialization, aggregateName, markerName,
    scriptName, String.reduceAppend, String.append_empty, String.append_assoc]

theorem joined_implementations (input : Input) :
    joined (implementations input) =
      defaultsOpening ++ joined (initializers input) ++ defaultsClosing := by
  simp only [implementations, joined_append, defaultsOpening, defaultsClosing, openBrace, library,
    aggregateName, markerName, scriptName, String.reduceAppend]

/-- Each field meets the declaration that it was made for. -/
theorem joined_initializers {input : Input} {ds : List Declaration}
    (hdeclarations : input.declarations = ds.map tagFields)
    (haggregate : input.aggregate = .marker :: ds.flatMap laidOut) :
    joined (initializers input) =
      String.join (ds.map fun d => (Default.of (sectionOf d).ident (tagFields d)).text) := by
  rw [initializers, hdeclarations, haggregate, sectionFields_laidOut, List.zip_map',
    List.flatMap_map, joined_flatMap]
  simp only [joined_initializer]

/-- What a declaration's copy, field and default have in common with it and with each
other. -/
structure Agree (d : Declaration) (t : TypeCopy) (m : Member) (v : Default) : Prop where
  name : t.name = d.name ∧ m.type = d.name ∧ v.type = d.name
  ident : m.ident = fieldIdent (snakeCase d.name) ∧ v.ident = m.ident
  key : m.key = snakeCase d.name
  fields : t.fields.map (fun f => (f.ident, f.type, f.key)) =
    d.fields.map fun f => (f.ident, f.type, snakeCase f.name)
  values : v.values = (literalFields d.literal).map d.literalSource.snippet
  base : v.base.isSome = true ↔
    (literalBase? d.literal).isSome = true ∨
      d.derivesDefault = true ∧ (literalFields d.literal).length < d.fields.length
  given : ∀ e, literalBase? d.literal = some e →
    v.base = some (if isTypeDefaultCall e then defaultCall else d.literalSource.snippet e)

theorem agree_of (d : Declaration) :
    Agree d (TypeCopy.of (tagFields d)) (Member.of (sectionOf d))
      (Default.of (sectionOf d).ident (tagFields d)) where
  name := ⟨rfl, rfl, rfl⟩
  ident := by simp only [Member.of, Default.of, sectionOf, and_self]
  key := by simp only [Member.of, sectionOf]
  fields := by
    simp only [TypeCopy.of, tagFields, List.map_map, Function.comp_def, FieldCopy.of,
      Option.getD_some]
  values := rfl
  base := by
    have hlength : (tagFields d).fields.length = d.fields.length := by
      rw [tagFields, List.length_map]
    rw [isSome_base, hlength]
    rfl
  given := by
    intro e he
    have hsame : literalBase? (tagFields d).literal = some e := he
    rw [Default.of, hsame]
    rfl

/-- Copies, fields and defaults come in the order of the declarations, one of each for
every declaration, and agree with it. -/
theorem sections_agree {input : Input} {ds : List Declaration}
    (h : synthesize ds = (input.declarations, .ok input.aggregate)) :
    ∃ types members defaults, Shows input types members defaults ∧
      types.length = ds.length ∧ members.length = ds.length ∧ defaults.length = ds.length ∧
      ∀ (k : Nat) (d : Declaration), ds[k]? = some d →
        ∃ t m v, types[k]? = some t ∧ members[k]? = some m ∧ defaults[k]? = some v ∧
          Agree d t m v := by
  obtain ⟨hrun, haggregate, -⟩ := synthesize_eq_of_ok (congrArg Prod.snd h)
  have hdeclarations : input.declarations = ds.map tagFields := by
    rw [h] at hrun
    exact congrArg Prod.fst hrun
  refine ⟨ds.map fun d => TypeCopy.of (tagFields d), ds.map fun d => Member.of (sectionOf d),
    ds.map fun d => Default.of (sectionOf d).ident (tagFields d), ?_, by simp, by simp, by simp, ?_⟩
  · have htext : text input = joined (lines input) := rfl
    rw [Shows, htext, lines, joined_append, joined_append, joined_append (_ ++ _) (sections _),
      joined_sections, haggregate, joined_aggregate, joined_implementations,
      joined_initializers hdeclarations haggregate, hdeclarations]
    simp only [List.map_map, Function.comp_def, String.append_assoc]
  · intro k d hd
    refine ⟨_, _, _, by rw [List.getElem?_map, hd]; rfl, by rw [List.getElem?_map, hd]; rfl,
      by rw [List.getElem?_map, hd]; rfl, agree_of d⟩

/-- A token that is nowhere in a text. -/
def placeless (text : String) : Token := .ident text ⟨⟨0, 0⟩, ⟨0, 0⟩⟩

/-- The literal of the first declaration leaves a field to its type, and the second one,
whose key is a keyword, has nothing to give. -/
def twoSections : List Declaration :=
  [{ bareDeclaration "HttpServer" ["host", "Port"] with
      derivesDefault := true
      literal := .mk (.record ["HttpServer"]) [] [.mk .fieldValue [placeless "host"] []] },
    bareDeclaration "Type" []]

def twoSectionsInput : Input where
  sourceLabel := "src/config.rs"
  module := "demo"
  script := ⟨"src/config.rs", "", ⟨[], []⟩⟩
  imports := []
  declarations := twoSections.map tagFields
  aggregate := .marker :: twoSections.flatMap laidOut

theorem sections_agree_two :
    ∃ types members defaults, Shows twoSectionsInput types members defaults ∧
      types.length = 2 ∧
      types[0]?.map (fun t => t.fields.map (·.key)) = some ["host", "port"] ∧
      defaults[0]?.map (fun v => (v.values, v.base.isSome)) = some (["host"], true) ∧
      members[1]?.map (fun m => (m.ident, m.type)) = some ("r#type", "Type") ∧
      defaults[1]?.map (fun v => (v.ident, v.base.isSome)) = some ("r#type", false) := by
  have hrun : synthesize twoSections =
      (twoSectionsInput.declarations, .ok twoSectionsInput.aggregate) :=
    synthesize_free (not_offends_iff.mpr (by decide +kernel))
  obtain ⟨types, members, defaults, hshows, hlength, -, -, hagree⟩ := sections_agree hrun
  obtain ⟨t, m, v, ht, hm, hv, hfirst⟩ := hagree 0 _ rfl
  obtain ⟨t', m', v', ht', hm', hv', hsecond⟩ := hagree 1 _ rfl
  refine ⟨types, members, defaults, hshows, hlength, ?_, ?_, ?_, ?_⟩
  · have hkeys := congrArg (List.map fun f => f.2.2) hfirst.fields
    rw [List.map_map] at hkeys
    rw [ht, Option.map_some]
    exact congrArg some (hkeys.trans (by decide +kernel))
  · have hbase := hfirst.base.mpr (by decide +kernel)
    rw [hv, Option.map_some, hbase, hfirst.values]
    decide +kernel
  · rw [hm', Option.map_some, hsecond.ident.1, hsecond.name.2.1]
    decide +kernel
  · have hbase : v'.base.isSome = false :=
      Bool.eq_false_iff.mpr (mt hsecond.base.mp (by decide +kernel))
    rw [hv', Option.map_some, hbase, hsecond.ident.2, hsecond.ident.1]
    decide +kernel

end Overlay.Generate.Render
