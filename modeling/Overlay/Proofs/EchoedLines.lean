import Overlay.Proofs.ReadBack
import Overlay.Proofs.Settings
import Overlay.Proofs.Spelling

/-!
# An echo as lines

The echo for the environment writes an assignment for every field and a line break
after it. Names have no line break in them, numbers have none, and the text of a list
has none either, since a break inside of a string is written as an escape there. A
field that holds text is different: its text is written as it is. So the text has as
many lines as there are fields, and one more for every line break in a value
(`echo_lines`), and it is made of the lines that were meant exactly if no value breaks
one of them.
-/

namespace Overlay.Layer

open Overlay.Tree

/-! ## Lines of a text -/

/-- A text on one line. -/
def OneLine (s : String) : Prop := '\n' ∉ s.toList

instance (s : String) : Decidable (OneLine s) := inferInstanceAs (Decidable (_ ∉ _))

/-- How many line breaks a text has. -/
def breaks (s : String) : Nat := s.toList.count '\n'

theorem breaks_eq_zero {s : String} : breaks s = 0 ↔ OneLine s := List.count_eq_zero

theorem breaks_append (s t : String) : breaks (s ++ t) = breaks s + breaks t := by
  rw [breaks, String.toList_append, List.count_append, breaks, breaks]

theorem oneLine_append {s t : String} : OneLine (s ++ t) ↔ OneLine s ∧ OneLine t := by
  simp only [OneLine, String.toList_append, List.mem_append, not_or]

/-- Some texts, each of them ended by a line break. -/
def ended (lines : List String) : String := String.join (lines.map (· ++ "\n"))

/-- A text consists of these lines. -/
def InLines (text : String) (lines : List String) : Prop :=
  text = ended lines ∧ ∀ line ∈ lines, OneLine line

theorem breaks_ended (lines : List String) :
    breaks (ended lines) = lines.length + (lines.map breaks).sum := by
  induction lines with
  | nil => rfl
  | cons line lines ih =>
      have hcons : ended (line :: lines) = line ++ "\n" ++ ended lines := by
        rw [ended, List.map_cons, String.join_cons]
        rfl
      have hbreak : breaks "\n" = 1 := rfl
      rw [hcons, breaks_append, breaks_append, ih, hbreak, List.length_cons, List.map_cons,
        List.sum_cons]
      omega

/-! ## What has no line break -/

theorem break_not_mem_escapeChar (c : Char) : '\n' ∉ Json.escapeChar c := by
  by_cases hlow : c.toNat < 32
  · have hall : ∀ n < 32, '\n' ∉ Json.escapeChar (Char.ofNat n) := by decide
    simpa using hall _ hlow
  · have hc : c ≠ '\n' := by
      rintro rfl
      exact hlow (by decide)
    rw [Json.escapeChar]
    split_ifs <;> simp [hc.symm]

theorem oneLine_quote (s : String) : OneLine (Json.quote s) := by
  rw [OneLine, Json.quote, String.toList_ofList]
  simp [break_not_mem_escapeChar]

theorem oneLine_intercalate {s : String} (hs : OneLine s) {ts : List String}
    (h : ∀ t ∈ ts, OneLine t) : OneLine (s.intercalate ts) := by
  induction ts with
  | nil => simp [OneLine]
  | cons t ts ih =>
      obtain ⟨ht, hts⟩ := List.forall_mem_cons.mp h
      cases ts with
      | nil => rwa [String.intercalate_singleton]
      | cons u ts =>
          rw [String.intercalate_cons_cons, oneLine_append, oneLine_append]
          exact ⟨⟨ht, hs⟩, ih hts⟩

theorem compactAll_eq_map (ts : List Tree) : Json.compactAll ts = ts.map Json.compact := by
  induction ts with
  | nil => rfl
  | cons t ts ih => rw [Json.compactAll, ih, List.map_cons]

/-- The text of a list of texts. -/
theorem oneLine_compact_texts (ss : List String) :
    OneLine (Json.compact (.list (ss.map .text))) := by
  have hitems : ∀ t ∈ Json.compactAll (ss.map .text), OneLine t := by
    intro t ht
    rw [compactAll_eq_map, List.map_map, List.mem_map] at ht
    obtain ⟨s, _, rfl⟩ := ht
    exact oneLine_quote s
  rw [Json.compact, oneLine_append, oneLine_append]
  exact ⟨⟨by decide, oneLine_intercalate (by decide) hitems⟩, by decide⟩

theorem oneLine_toDigits (n : Nat) : OneLine (String.ofList (Nat.toDigits 10 n)) := by
  intro h
  rw [String.toList_ofList] at h
  exact absurd (Nat.isDigit_of_mem_toDigits (by decide) (by decide) h) (by decide)

theorem oneLine_int (i : Int) : OneLine (toString i) := by
  have hrepr : toString i = i.repr := rfl
  rw [hrepr, Int.repr_eq_if]
  split
  · rw [Nat.repr_eq_ofList_toDigits]
    exact oneLine_toDigits _
  · rw [oneLine_append, Nat.repr_eq_ofList_toDigits]
    exact ⟨by decide, oneLine_toDigits _⟩

theorem oneLine_withPrefix {envPrefix : Option String} (honeLine : ∀ p ∈ envPrefix, OneLine p)
    {name : String} (hname : OneLine name) : OneLine (withPrefix envPrefix name) := by
  cases envPrefix with
  | none => exact hname
  | some p =>
      rw [withPrefix, oneLine_append, oneLine_append]
      exact ⟨⟨honeLine p rfl, by decide⟩, hname⟩

/-! ## The lines of a service -/

namespace Service

/-- A field of a section and the text of its value. -/
structure FieldText where
  outer : String
  field : String
  value : String

namespace Settings

/-- All fields of all sections, in the order of their keys, with the texts of their values: text
as it is, a number in digits, and a list as a list of strings. -/
def fieldTexts (c : Settings) : List FieldText :=
  [⟨"http_server_config", "host", c.server.host⟩,
    ⟨"http_server_config", "port", c.server.port⟩,
    ⟨"oidc_config", "client_id", c.identity.clientId⟩,
    ⟨"oidc_config", "issuer", c.identity.issuer⟩,
    ⟨"oidc_config", "scopes", Json.compact (.list (c.identity.scopes.map .text))⟩,
    ⟨"redis_config", "db", toString c.store.database.toInt⟩,
    ⟨"redis_config", "host", c.store.host⟩,
    ⟨"redis_config", "password", c.store.password⟩,
    ⟨"redis_config", "port", c.store.port⟩,
    ⟨"redis_config", "user", c.store.user⟩]

/-- The values that are text. -/
def texts (c : Settings) : List String :=
  [c.server.host, c.server.port, c.identity.clientId, c.identity.issuer, c.store.host,
    c.store.password, c.store.port, c.store.user]

/-- The line for a field: the name of its variable and its value. -/
def fieldLine (envPrefix : Option String) (f : FieldText) : String :=
  withPrefix envPrefix (variableName [f.outer, f.field]) ++ "=" ++ f.value

/-- The lines of an echo. -/
def lines (c : Settings) (envPrefix : Option String) : List String :=
  c.fieldTexts.map (fieldLine envPrefix)

/-- The settings as a tree of plain values, in the order of the keys. -/
theorem plainValue_tree (c : Settings) :
    c.tree.plainValue = .dict
      [("http_server_config", .dict [("host", .text c.server.host), ("port", .text c.server.port)]),
        ("oidc_config",
          .dict
            [("client_id", .text c.identity.clientId), ("issuer", .text c.identity.issuer),
              ("scopes", .list (plainValues (c.identity.scopes.map .text)))]),
        ("redis_config",
          .dict
            [("db", (Tree.number (.signed c.store.database.toInt)).plainValue),
              ("host", .text c.store.host), ("password", .text c.store.password),
              ("port", .text c.store.port), ("user", .text c.store.user)])] := by
  simp +decide only [tree, Server.tree, Store.tree, Identity.tree, plainValue, plainEntries,
    ofEntries, List.foldl_cons, List.foldl_nil, Tree.insert, if_true, if_false]

theorem exists_plainValue_signed (i : Int) :
    ∃ n, (Tree.number (.signed i)).plainValue = .number n ∧ Json.writeNumber n = toString i := by
  rw [plainValue]
  split
  · next h =>
    refine ⟨_, rfl, ?_⟩
    rw [Json.writeNumber, ← Int.toNat_of_nonneg h]
    rfl
  · exact ⟨_, rfl, rfl⟩

theorem assignments_eq_lines (c : Settings) (envPrefix : Option String) :
    assignments envPrefix c.tree.plainValue = c.lines envPrefix := by
  obtain ⟨n, hn, hwrite⟩ := exists_plainValue_signed c.store.database.toInt
  rw [plainValue_tree, hn, Schema.plainValues_map_text, lines, fieldTexts, ← hwrite]
  rfl

theorem echo_env (c : Settings) (m : Marker) (sink : Configuration.Sink) :
    (c.configuration m).echo .env sink = sink.take (ended (c.lines m.envPrefix)) := by
  rw [← assignments_eq_lines]
  rfl

theorem oneLine_names (c : Settings) :
    ∀ f ∈ c.fieldTexts, OneLine (variableName [f.outer, f.field]) := by
  simp only [fieldTexts, List.forall_mem_cons]
  decide

theorem breaks_fieldLine {c : Settings} {envPrefix : Option String}
    (honeLine : ∀ p ∈ envPrefix, OneLine p) {f : FieldText} (hf : f ∈ c.fieldTexts) :
    breaks (fieldLine envPrefix f) = breaks f.value := by
  have hname := oneLine_withPrefix honeLine (c.oneLine_names f hf)
  have hequals : breaks "=" = 0 := rfl
  rw [fieldLine, breaks_append, breaks_append, breaks_eq_zero.mpr hname, hequals]
  omega

/-- Only texts can break a line. -/
theorem breaks_values (c : Settings) :
    (c.fieldTexts.map fun f => breaks f.value).sum = (c.texts.map breaks).sum := by
  have hscopes := breaks_eq_zero.mpr (oneLine_compact_texts c.identity.scopes)
  have hdatabase := breaks_eq_zero.mpr (oneLine_int c.store.database.toInt)
  simp only [fieldTexts, texts, List.map_cons, List.map_nil, List.sum_cons, List.sum_nil,
    hscopes, hdatabase]
  omega

theorem breaks_lines (c : Settings) {envPrefix : Option String}
    (honeLine : ∀ p ∈ envPrefix, OneLine p) :
    ((c.lines envPrefix).map breaks).sum = (c.texts.map breaks).sum := by
  rw [← breaks_values, lines, List.map_map]
  refine congrArg List.sum (List.map_congr_left fun f hf => ?_)
  exact breaks_fieldLine honeLine hf

end Settings

theorem sum_breaks_eq_zero {lines : List String} :
    (lines.map breaks).sum = 0 ↔ ∀ line ∈ lines, OneLine line := by
  simp only [List.sum_eq_zero_iff, List.forall_mem_map, breaks_eq_zero]

/-- The echo of a service for the environment. It has the line of every field of every section,
each of them ended by a line break; with the line breaks inside of the values counted as well, it
consists of these lines exactly if no text has one. -/
theorem echo_lines (c : Settings) (m : Marker) (honeLine : ∀ p ∈ m.envPrefix, OneLine p) :
    (c.fieldTexts.map fun f => (f.outer, f.field)).Perm
      (schema.fields.flatMap fun s => s.2.1.fields.map fun f => (s.1, f.1)) ∧
    (∀ sink : Configuration.Sink,
      (c.configuration m).echo .env sink = sink.take (ended (c.lines m.envPrefix))) ∧
    breaks (ended (c.lines m.envPrefix)) =
      c.fieldTexts.length + (c.texts.map breaks).sum ∧
    (InLines (ended (c.lines m.envPrefix)) (c.lines m.envPrefix) ↔
      ∀ s ∈ c.texts, OneLine s) := by
  have hfields : (c.fieldTexts.map fun f => (f.outer, f.field)) =
      Settings.initial.fieldTexts.map fun f => (f.outer, f.field) := rfl
  refine ⟨?_, c.echo_env m, ?_, ?_⟩
  · rw [hfields]
    decide
  · rw [breaks_ended, c.breaks_lines honeLine, Settings.lines, List.length_map]
  · rw [InLines, ← sum_breaks_eq_zero, c.breaks_lines honeLine, sum_breaks_eq_zero]
    exact and_iff_right rfl

/-- Settings with a line break in a host and one in a list. -/
def broken : Settings :=
  { Settings.initial with
    server := ⟨"a\nREDIS_CONFIG__DB=2", "80"⟩
    identity := ⟨"", "", ["b\nc"]⟩ }

theorem echo_lines_broken :
    (∀ p ∈ some "APP", OneLine p) ∧
    (broken.configuration ⟨some "APP", none⟩).echo .env ⟨none, false⟩ =
      .ok (ended (broken.lines (some "APP"))) ∧
    breaks (ended (broken.lines (some "APP"))) = 11 ∧
    ¬ InLines (ended (broken.lines (some "APP"))) (broken.lines (some "APP")) := by
  have honeLine : ∀ p ∈ some "APP", OneLine p := by
    rintro p ⟨rfl⟩
    decide
  obtain ⟨-, hecho, hbreaks, hlines⟩ := echo_lines broken ⟨some "APP", none⟩ honeLine
  refine ⟨honeLine, hecho ⟨none, false⟩, hbreaks.trans (by decide), fun h => ?_⟩
  exact absurd (hlines.mp h) (by decide)

end Service

end Overlay.Layer
