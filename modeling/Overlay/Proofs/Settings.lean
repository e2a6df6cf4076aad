import Mathlib.Data.List.Forall2
import Overlay.Layer.Preset
import Overlay.Proofs.Paths

/-!
# The settings of a service

A configuration holds a tree, but not any tree: it is one that its schema has
read, and so it is known down to its leaves. For a service that is a structure
with ten fields, `Settings`, and `read_service` says that reading with the
schema of a service gives the tree of such a structure whenever it gives
anything.

A record can be read from a dictionary or from a list. From a dictionary every
field is read from the entry under its own key (`FieldRead`), which is what
later says where the value of a field came from; from a list fields are only
known to have been read from something (`FieldFilled`).
-/

namespace Overlay.Layer

open Overlay.Tree

theorem bind_ok {ε α β : Type} {x : Except ε α} {f : α → Except ε β} {b : β}
    (h : x >>= f = .ok b) : ∃ a, x = .ok a ∧ f a = .ok b := by
  cases x with
  | error e => cases h
  | ok a => exact ⟨a, rfl, h⟩

theorem Reading.under_ok {α : Type} {key : String} {r : Reading α} {a : α}
    (h : r.under key = .ok a) : r = .ok a := by
  cases r with
  | error c => cases h
  | ok b => exact h

namespace Schema

attribute [local simp] read readFields collect readSequence

/-! ## Leaves -/

theorem read_text {t v : Tree} (h : read .text t = .ok v) :
    ∃ s, t = .text s ∧ v = .text s := by
  cases t with
  | text s =>
      rw [read] at h
      cases h
      exact ⟨s, rfl, rfl⟩
  | null | bool _ | number _ | list _ | dict _ => simp [read, mismatch] at h

theorem readItems_text {n : Nat} {ts vs : List Tree}
    (h : readItems (read .text) n ts = .ok vs) :
    vs = ts ∧ ∃ ss : List String, ts = ss.map .text := by
  induction ts generalizing n vs with
  | nil =>
      cases h
      exact ⟨rfl, [], rfl⟩
  | cons t ts ih =>
      rw [readItems] at h
      obtain ⟨v, hv, h⟩ := bind_ok h
      obtain ⟨rest, hrest, h⟩ := bind_ok h
      cases h
      obtain ⟨s, rfl, rfl⟩ := read_text (Reading.under_ok hv)
      obtain ⟨rfl, ss, rfl⟩ := ih hrest
      exact ⟨rfl, s :: ss, rfl⟩

theorem read_texts {t v : Tree} (h : read (.list .text) t = .ok v) :
    v = t ∧ ∃ ss : List String, t = .list (ss.map .text) := by
  cases t with
  | list ts =>
      rw [read] at h
      obtain ⟨vs, hvs, h⟩ := bind_ok h
      cases h
      obtain ⟨rfl, ss, rfl⟩ := readItems_text hvs
      exact ⟨rfl, ss, rfl⟩
  | null | bool _ | number _ | text _ | dict _ => simp [read, mismatch] at h

theorem boundedInt_ok {i lowest limit : Int} {found v : Tree} {expected : String}
    {result : Number}
    (h : boundedInt i lowest limit found expected result = .ok v) :
    lowest ≤ i ∧ i < limit ∧ v = .number result := by
  rw [boundedInt] at h
  split at h
  · next hbounds =>
    cases h
    simpa using hbounds
  · cases h

/-- A whole number keeps its value, whatever form it came in. -/
theorem read_signed {bits : Nat} {t v : Tree} (h : read (.signed bits) t = .ok v) :
    ∃ i : Int, v = .number (.signed i) ∧ v.plainValue = t.plainValue ∧
      -(Nat.pow 2 (bits - 1) : Int) ≤ i ∧ i < Nat.pow 2 (bits - 1) := by
  rw [read, readSigned.eq_def] at h
  simp only [] at h
  split at h
  · next n =>
    obtain ⟨hlow, hhigh, rfl⟩ := boundedInt_ok h
    exact ⟨n, rfl, by simp [plainValue], hlow, hhigh⟩
  · next i =>
    obtain ⟨hlow, hhigh, rfl⟩ := boundedInt_ok h
    exact ⟨i, rfl, rfl, hlow, hhigh⟩
  · cases h

/-- Reading a leaf takes no dictionary and gives the same plain value. -/
def Faithful (schema : Schema) : Prop :=
  ∀ t v, read schema t = .ok v → t.isDict = false ∧ v.plainValue = t.plainValue

/-- Schemas of text, of whole numbers and of lists of text. -/
def isLeaf : Schema → Bool
  | .text | .signed _ | .list .text => true
  | _ => false

theorem faithful_of_isLeaf {schema : Schema} (h : schema.isLeaf = true) :
    Faithful schema := by
  intro t v hread
  match schema with
  | .text =>
      obtain ⟨s, rfl, rfl⟩ := read_text hread
      exact ⟨rfl, rfl⟩
  | .list .text =>
      obtain ⟨rfl, ss, rfl⟩ := read_texts hread
      exact ⟨rfl, rfl⟩
  | .signed bits =>
      obtain ⟨i, -, hplain, -⟩ := read_signed hread
      refine ⟨?_, hplain⟩
      cases t with
      | dict es => simp [read, readSigned, mismatch] at hread
      | null | bool _ | number _ | text _ | list _ => rfl

/-! ## Records -/

/-- What a field holds that is left out. -/
def omitted : Schema → Option Tree → Option Tree
  | _, some t => some t
  | .optional _, none => some .null
  | _, none => none

/-- An entry that was read for a field from its entry in a dictionary. -/
def FieldRead (es : Entries) (field : String × Schema × Option Tree)
    (entry : String × Tree) : Prop :=
  entry.1 = field.1 ∧
    match find? field.1 es with
    | some t => read field.2.1 t = .ok entry.2
    | none => omitted field.2.1 field.2.2 = some entry.2

/-- An entry that was read for a field. -/
def FieldFilled (field : String × Schema × Option Tree)
    (entry : String × Tree) : Prop :=
  entry.1 = field.1 ∧
    ((∃ t, read field.2.1 t = .ok entry.2) ∨
      omitted field.2.1 field.2.2 = some entry.2)

theorem FieldRead.filled {es : Entries} {field : String × Schema × Option Tree}
    {entry : String × Tree} (h : FieldRead es field entry) :
    FieldFilled field entry := by
  obtain ⟨hkey, hvalue⟩ := h
  refine ⟨hkey, ?_⟩
  split at hvalue
  · next t _ => exact Or.inl ⟨t, hvalue⟩
  · exact Or.inr hvalue

theorem collect_cons {k : String} {result : Option (Reading Tree)}
    {fallback : Option Tree}
    {rest : List (String × Option (Reading Tree) × Option Tree)} {out : Entries}
    (h : collect ((k, result, fallback) :: rest) = .ok out) :
    ∃ v others, out = (k, v) :: others ∧ collect rest = .ok others ∧
      (result = some (.ok v) ∨ result = none ∧ fallback = some v) := by
  match result, fallback with
  | some (.ok v), _ =>
      obtain ⟨others, hothers, h⟩ := bind_ok h
      cases h
      exact ⟨v, others, rfl, hothers, Or.inl rfl⟩
  | none, some v =>
      obtain ⟨others, hothers, h⟩ := bind_ok h
      cases h
      exact ⟨v, others, rfl, hothers, Or.inr ⟨rfl, rfl⟩⟩
  | some (.error _), _ | none, none => cases h

theorem readFields_cons (k : String) (schema : Schema) (default : Option Tree)
    (rest : Fields) (es : Entries) :
    readFields ((k, schema, default) :: rest) es =
      (k, (find? k es).map (read schema), omitted schema default) ::
        readFields rest es := by
  rw [readFields.eq_def]
  cases default with
  | some t => rfl
  | none => cases schema <;> rfl

theorem collect_readFields {fields : Fields} {es out : Entries}
    (h : collect (readFields fields es) = .ok out) :
    List.Forall₂ (FieldRead es) fields out := by
  induction fields generalizing out with
  | nil =>
      rw [readFields, collect] at h
      cases h
      exact List.Forall₂.nil
  | cons field rest ih =>
      obtain ⟨k, schema, default⟩ := field
      rw [readFields_cons] at h
      obtain ⟨v, others, rfl, hothers, hv⟩ := collect_cons h
      refine List.Forall₂.cons ⟨rfl, ?_⟩ (ih hothers)
      rcases hv with hfound | ⟨hmissing, hdefault⟩
      · obtain ⟨t, ht, hread⟩ := Option.map_eq_some_iff.mp hfound
        simp only [ht]
        exact hread
      · simp only [Option.map_eq_none_iff.mp hmissing]
        exact hdefault

/-- An entry that was read for a field from its place in a list. -/
def ItemRead (item : Option Tree) (field : String × Schema × Option Tree)
    (entry : String × Tree) : Prop :=
  entry.1 = field.1 ∧
    match item with
    | some t => read field.2.1 t = .ok entry.2
    | none => field.2.2 = some entry.2

theorem ItemRead.filled {item : Option Tree}
    {field : String × Schema × Option Tree} {entry : String × Tree}
    (h : ItemRead item field entry) : FieldFilled field entry := by
  obtain ⟨hkey, hvalue⟩ := h
  refine ⟨hkey, ?_⟩
  cases item with
  | some t => exact Or.inl ⟨t, hvalue⟩
  | none =>
      refine Or.inr ?_
      simp only [] at hvalue
      rw [hvalue]
      cases field.2.1 <;> rfl

theorem readSequence_ok {name : String} {total index : Nat} {fields : Fields}
    {ts : List Tree} {out : Entries}
    (h : readSequence name total index fields ts = .ok out) :
    List.Forall₂ FieldFilled fields out ∧
      ∀ (i : Nat) field, fields[i]? = some field →
        ∃ v, (field.1, v) ∈ out ∧ ItemRead ts[i]? field (field.1, v) := by
  induction fields generalizing index ts out with
  | nil =>
      rw [readSequence] at h
      cases h
      exact ⟨List.Forall₂.nil, by simp⟩
  | cons field rest ih =>
      obtain ⟨v, others, hrest, rfl, hv⟩ : ∃ v others,
          readSequence name total (index + 1) rest ts.tail = .ok others ∧
            out = (field.1, v) :: others ∧ ItemRead ts[0]? field (field.1, v) := by
        obtain ⟨k, schema, default⟩ := field
        match ts, default with
        | t :: ts, _ =>
            rw [readSequence] at h
            obtain ⟨v, hv, h⟩ := bind_ok h
            obtain ⟨others, hothers, h⟩ := bind_ok h
            cases h
            exact ⟨v, others, hothers, rfl, rfl, Reading.under_ok hv⟩
        | [], some d =>
            rw [readSequence] at h
            obtain ⟨others, hothers, h⟩ := bind_ok h
            cases h
            exact ⟨d, others, hothers, rfl, rfl, rfl⟩
        | [], none =>
            rw [readSequence] at h
            cases h
      obtain ⟨hfilled, hitems⟩ := ih hrest
      refine ⟨List.Forall₂.cons hv.filled hfilled, ?_⟩
      intro i other hother
      cases i with
      | zero =>
          obtain rfl : field = other := by simpa using hother
          exact ⟨v, List.mem_cons_self, hv⟩
      | succ i =>
          obtain ⟨w, hw, hitem⟩ := hitems i other (by simpa using hother)
          rw [List.getElem?_tail] at hitem
          exact ⟨w, List.mem_cons_of_mem _ hw, hitem⟩

theorem read_record_dict {name : String} {fields : Fields} {es : Entries}
    {v : Tree} (h : read (.record name fields) (.dict es) = .ok v) :
    ∃ out, v = .dict out ∧ List.Forall₂ (FieldRead es) fields out := by
  rw [read] at h
  split at h
  · cases h
  · obtain ⟨out, hout, h⟩ := bind_ok h
    cases h
    exact ⟨out, rfl, collect_readFields hout⟩

theorem read_record {name : String} {fields : Fields} {t v : Tree}
    (h : read (.record name fields) t = .ok v) :
    ∃ out, v = .dict out ∧ List.Forall₂ FieldFilled fields out := by
  cases t with
  | dict es =>
      obtain ⟨out, hv, hout⟩ := read_record_dict h
      exact ⟨out, hv, hout.imp fun _ _ => FieldRead.filled⟩
  | list ts =>
      rw [read] at h
      obtain ⟨out, hout, h⟩ := bind_ok h
      cases h
      exact ⟨out, rfl, (readSequence_ok hout).1⟩
  | null | bool _ | number _ | text _ => simp [read, mismatch] at h

theorem keys_filled {fields : Fields} {out : Entries}
    (h : List.Forall₂ FieldFilled fields out) :
    out.map (·.1) = fields.map (·.1) := by
  induction h with
  | nil => rfl
  | cons hfirst _ ih => rw [List.map_cons, List.map_cons, hfirst.1, ih]

theorem mem_fieldRead {fields : Fields} {es out : Entries}
    (h : List.Forall₂ (FieldRead es) fields out)
    {field : String × Schema × Option Tree} (hfield : field ∈ fields) :
    ∃ v, (field.1, v) ∈ out ∧ FieldRead es field (field.1, v) := by
  induction h with
  | nil => cases hfield
  | @cons first entry rest others hfirst _ ih =>
      rcases List.mem_cons.mp hfield with rfl | hfield
      · obtain ⟨hkey, hvalue⟩ := hfirst
        refine ⟨entry.2, ?_, rfl, hvalue⟩
        rw [← hkey]
        exact List.mem_cons_self
      · obtain ⟨v, hv, hread⟩ := ih hfield
        exact ⟨v, List.mem_cons_of_mem _ hv, hread⟩

/-- The fields of a record. -/
def fields : Schema → Fields
  | .record _ fields => fields
  | _ => []

/-- The names of the fields of a record. -/
def names (schema : Schema) : List String := schema.fields.map (·.1)

theorem read_field {schema : Schema} {es : Entries} {v t : Tree}
    (h : read schema (.dict es) = .ok v) (hnames : schema.names.Nodup)
    {field : String × Schema × Option Tree} (hfield : field ∈ schema.fields)
    (ht : find? field.1 es = some t) :
    ∃ out w, v = .dict out ∧ find? field.1 out = some w ∧
      read field.2.1 t = .ok w := by
  cases schema with
  | record name fields =>
      obtain ⟨out, rfl, hout⟩ := read_record_dict h
      have hkeys : (out.map (·.1)).Nodup := by
        rw [keys_filled (hout.imp fun _ _ => FieldRead.filled)]
        exact hnames
      obtain ⟨w, hw, -, hread⟩ := mem_fieldRead hout hfield
      simp only [ht] at hread
      exact ⟨out, w, rfl, find?_of_mem hkeys hw, hread⟩
  | any | text | bool | double | unsigned _ | signed _ | optional _ | list _
  | labels _ | choice _ _ => cases hfield

theorem read_item {schema : Schema} {ts : List Tree} {v : Tree}
    (h : read schema (.list ts) = .ok v) (hnames : schema.names.Nodup) {i : Nat}
    {field : String × Schema × Option Tree}
    (hfield : schema.fields[i]? = some field) :
    ∃ out w, v = .dict out ∧ find? field.1 out = some w ∧
      ItemRead ts[i]? field (field.1, w) := by
  cases schema with
  | record name fields =>
      rw [read] at h
      obtain ⟨out, hout, h⟩ := bind_ok h
      cases h
      obtain ⟨hfilled, hitems⟩ := readSequence_ok hout
      have hkeys : (out.map (·.1)).Nodup := by
        rw [keys_filled hfilled]
        exact hnames
      obtain ⟨w, hw, hread⟩ := hitems i field hfield
      exact ⟨out, w, rfl, find?_of_mem hkeys hw, hread⟩
  | any | text | bool | double | unsigned _ | signed _ | optional _ | list _
  | labels _ | choice _ _ => simp [fields] at hfield

def isRecord : Schema → Bool
  | .record _ _ => true
  | _ => false

/-- A record is read from a dictionary or from a list. -/
theorem kind_of_read {schema : Schema} (hschema : schema.isRecord = true)
    {t v : Tree} (h : read schema t = .ok v) :
    t.isDict = true ∨ ∃ items, t = .list items := by
  cases schema with
  | record name fields =>
      cases t with
      | dict es => exact Or.inl rfl
      | list items => exact Or.inr ⟨items, rfl⟩
      | null | bool _ | number _ | text _ => simp [read, mismatch] at h
  | any | text | bool | double | unsigned _ | signed _ | optional _ | list _
  | labels _ | choice _ _ => cases hschema

/-- Records of records of leaves, no two fields of a record having one name. -/
structure Sections (schema : Schema) : Prop where
  names_nodup : schema.names.Nodup
  inner_nodup : ∀ s ∈ schema.fields, s.2.1.names.Nodup
  records : ∀ s ∈ schema.fields, s.2.1.isRecord = true
  leaves : ∀ s ∈ schema.fields, ∀ f ∈ s.2.1.fields, f.2.1.isLeaf = true

namespace Sections

variable {schema : Schema} {es : Entries} {v : Tree}
  {s f : String × Schema × Option Tree}

/-- What is at a path before reading is there afterwards, and it was a leaf. -/
theorem read_at (hschema : Sections schema) (h : read schema (.dict es) = .ok v)
    (hs : s ∈ schema.fields) (hf : f ∈ s.2.1.fields) {t : Tree}
    (ht : at? (.dict es) [s.1, f.1] = some t) :
    t.isDict = false ∧ (v.at? [s.1, f.1]).map plainValue = some t.plainValue := by
  rw [at?_dict_cons, Option.bind_eq_some_iff] at ht
  obtain ⟨u, hu, ht⟩ := ht
  cases u with
  | dict inner =>
      rw [at?_dict_cons, Option.bind_eq_some_iff] at ht
      obtain ⟨t', ht', ht⟩ := ht
      obtain rfl : t' = t := by simpa using ht
      obtain ⟨out, w, rfl, hw, hread⟩ := read_field h hschema.names_nodup hs hu
      obtain ⟨out', w', rfl, hw', hread'⟩ :=
        read_field hread (hschema.inner_nodup s hs) hf ht'
      obtain ⟨hleaf, hplain⟩ :=
        faithful_of_isLeaf (hschema.leaves s hs f hf) _ _ hread'
      refine ⟨hleaf, ?_⟩
      rw [at?_dict_cons, hw, Option.bind_some, at?_dict_cons, hw', Option.bind_some,
        at?_nil, Option.map_some, hplain]
  | null | bool _ | number _ | text _ | list _ => cases ht

/-- A list gives the fields of a section in their order. -/
theorem read_at_list (hschema : Sections schema)
    (h : read schema (.dict es) = .ok v) (hs : s ∈ schema.fields)
    {items : List Tree} (hitems : find? s.1 es = some (.list items)) {i : Nat}
    (hf : s.2.1.fields[i]? = some f) :
    (v.at? [s.1, f.1]).map plainValue = ((items[i]?).or f.2.2).map plainValue := by
  obtain ⟨out, w, rfl, hw, hread⟩ := read_field h hschema.names_nodup hs hitems
  obtain ⟨out', w', rfl, hw', -, hread'⟩ :=
    read_item hread (hschema.inner_nodup s hs) hf
  have hmem : f ∈ s.2.1.fields := List.mem_of_getElem? hf
  have hat : at? (.dict out) [s.1, f.1] = some w' := by
    rw [at?_dict_cons, hw, Option.bind_some, at?_dict_cons, hw', Option.bind_some,
      at?_nil]
  rw [hat]
  cases hitem : items[i]? with
  | none =>
      simp only [hitem] at hread'
      rw [hread', Option.none_or]
  | some t =>
      simp only [hitem] at hread'
      rw [Option.map_some, Option.some_or, Option.map_some,
        (faithful_of_isLeaf (hschema.leaves s hs f hmem) _ _ hread').2]

end Sections

/-! ## Fields of text -/

theorem FieldFilled.text {k : String} {default : Option Tree}
    {entry : String × Tree} (h : FieldFilled (k, .text, default) entry)
    (hdefault : ∀ t, default = some t → ∃ s, t = .text s) :
    ∃ s, entry = (k, .text s) := by
  obtain ⟨j, v⟩ := entry
  obtain ⟨rfl, ⟨t, ht⟩ | homitted⟩ := h
  · obtain ⟨s, -, rfl⟩ := read_text ht
    exact ⟨s, rfl⟩
  · cases default with
    | none => cases homitted
    | some d =>
        obtain ⟨s, rfl⟩ := hdefault d rfl
        cases homitted
        exact ⟨s, rfl⟩

theorem FieldFilled.read {k : String} {schema : Schema} {entry : String × Tree}
    (h : FieldFilled (k, schema, none) entry)
    (hrequired : omitted schema none = none) :
    entry.1 = k ∧ ∃ t, Schema.read schema t = .ok entry.2 := by
  obtain ⟨hkey, hread | homitted⟩ := h
  · exact ⟨hkey, hread⟩
  · cases hrequired.symm.trans homitted

end Schema

/-! ## A service -/

namespace Service

open Schema

structure Server where
  host : String
  port : String

structure Store where
  host : String
  port : String
  user : String
  password : String
  database : Int64

structure Identity where
  issuer : String
  clientId : String
  scopes : List String

/-- What a service is configured with. -/
structure Settings where
  server : Server
  store : Store
  identity : Identity

def Server.tree (s : Server) : Tree :=
  .dict [("host", .text s.host), ("port", .text s.port)]

def Store.tree (s : Store) : Tree :=
  .dict
    [("host", .text s.host), ("port", .text s.port), ("user", .text s.user),
      ("password", .text s.password), ("db", .number (.signed s.database.toInt))]

def Identity.tree (s : Identity) : Tree :=
  .dict
    [("issuer", .text s.issuer), ("client_id", .text s.clientId),
      ("scopes", .list (s.scopes.map .text))]

namespace Settings

def tree (s : Settings) : Tree :=
  .dict
    [("http_server_config", s.server.tree), ("redis_config", s.store.tree),
      ("oidc_config", s.identity.tree)]

/-- A service with some settings, last initialized from some sources. -/
def configuration (s : Settings) (marker : Marker) : Configuration :=
  ⟨schema, .tree s.tree, marker⟩

/-- The settings of a new service. -/
def initial : Settings :=
  ⟨⟨"0.0.0.0", "8080"⟩, ⟨"localhost", "6379", "", "", 1⟩,
    ⟨"https://id.example.com", "", []⟩⟩

example : initial.configuration .empty = Service.configuration := rfl

end Settings

theorem read_server {t v : Tree} (h : Preset.httpServer.read t = .ok v) :
    ∃ s : Server, v = s.tree := by
  obtain ⟨out, rfl, hout⟩ := read_record h
  obtain _ | ⟨hhost, hout⟩ := hout
  obtain _ | ⟨hport, hout⟩ := hout
  cases hout
  obtain ⟨host, rfl⟩ := hhost.text (by simp)
  obtain ⟨port, rfl⟩ := hport.text (by simp)
  exact ⟨⟨host, port⟩, rfl⟩

theorem read_store {t v : Tree} (h : Preset.redis.read t = .ok v) :
    ∃ s : Store, v = s.tree := by
  obtain ⟨out, rfl, hout⟩ := read_record h
  obtain _ | ⟨hhost, hout⟩ := hout
  obtain _ | ⟨hport, hout⟩ := hout
  obtain _ | ⟨huser, hout⟩ := hout
  obtain _ | ⟨hpassword, hout⟩ := hout
  obtain _ | ⟨hdatabase, hout⟩ := hout
  cases hout
  obtain ⟨host, rfl⟩ := hhost.text (by simp)
  obtain ⟨port, rfl⟩ := hport.text (by simp)
  obtain ⟨user, rfl⟩ := huser.text (by simp)
  obtain ⟨password, rfl⟩ := hpassword.text (by simp)
  obtain ⟨hkey, t, ht⟩ := hdatabase.read rfl
  obtain ⟨i, hi, -, hlow, hhigh⟩ := read_signed ht
  refine ⟨⟨host, port, user, password, Int64.ofInt i⟩, ?_⟩
  rw [Store.tree, Int64.toInt_ofInt_of_le hlow hhigh, ← hi, ← hkey]

theorem read_identity {t v : Tree} (h : identity.read t = .ok v) :
    ∃ s : Identity, v = s.tree := by
  obtain ⟨out, rfl, hout⟩ := read_record h
  obtain _ | ⟨hissuer, hout⟩ := hout
  obtain _ | ⟨hclient, hout⟩ := hout
  obtain _ | ⟨hscopes, hout⟩ := hout
  cases hout
  obtain ⟨issuer, rfl⟩ := hissuer.text (by simp)
  obtain ⟨clientId, rfl⟩ := hclient.text (by simp)
  obtain ⟨hkey, t, ht⟩ := hscopes.read rfl
  obtain ⟨hv, scopes, rfl⟩ := read_texts ht
  refine ⟨⟨issuer, clientId, scopes⟩, ?_⟩
  rw [Identity.tree, ← hv, ← hkey]

/-- The schema of a service gives settings, or it gives nothing. -/
theorem read_service {t v : Tree} (h : schema.read t = .ok v) :
    ∃ s : Settings, v = s.tree := by
  obtain ⟨out, rfl, hout⟩ := read_record h
  obtain _ | ⟨hserver, hout⟩ := hout
  obtain _ | ⟨hstore, hout⟩ := hout
  obtain _ | ⟨hidentity, hout⟩ := hout
  cases hout
  obtain ⟨hkey₁, t₁, ht₁⟩ := hserver.read rfl
  obtain ⟨hkey₂, t₂, ht₂⟩ := hstore.read rfl
  obtain ⟨hkey₃, t₃, ht₃⟩ := hidentity.read rfl
  obtain ⟨server, hs₁⟩ := read_server ht₁
  obtain ⟨store, hs₂⟩ := read_store ht₂
  obtain ⟨provider, hs₃⟩ := read_identity ht₃
  refine ⟨⟨server, store, provider⟩, ?_⟩
  rw [Settings.tree, ← hs₁, ← hs₂, ← hs₃, ← hkey₁, ← hkey₂, ← hkey₃]

theorem sections_schema : Sections schema :=
  ⟨by decide, by decide, by decide, by decide⟩

end Service

end Overlay.Layer
