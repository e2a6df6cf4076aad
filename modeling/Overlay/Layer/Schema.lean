import Overlay.Layer.Mismatch
import Overlay.Tree.Plain

/-!
# Schemas

A schema says what a configuration value looks like, and reads a tree into that form. Dictionaries
are read in the order of their keys, and the first value that does not fit is reported.
-/

namespace Overlay.Layer

open Decimal (Double)

/-- The form of a value. -/
inductive Schema where
  | any
  | text
  | bool
  | double
  | unsigned (bits : Nat)
  | signed (bits : Nat)
  | optional (inner : Schema)
  | list (item : Schema)
  | labels (value : Schema)
  | choice (name : String) (variants : List String)
  /-- Named fields in order, each with its default if it may be left out. -/
  | record (name : String) (fields : List (String × Schema × Option Tree))

/-- The fields of a record. -/
abbrev Fields := List (String × Schema × Option Tree)

/-- A value in its form, or the first complaint. -/
abbrev Reading (α : Type) := Except Complaint α

def mismatch {α : Type} (cause : Mismatch) : Reading α := .error ⟨cause, []⟩

/-- A reading of the value under a key. -/
def Reading.under {α : Type} (key : String) (r : Reading α) : Reading α := r.mapError (·.under key)

namespace Schema

/-- An integer within its bounds. -/
def boundedInt (i lowest limit : Int) (found : Tree) (expected : String) (result : Number) :
    Reading Tree :=
  if lowest ≤ i && i < limit then .ok (.number result) else mismatch (.range found expected)

def readUnsigned (bits : Nat) (t : Tree) : Reading Tree :=
  let expected := "u" ++ toString bits
  match t with
  | .number (.unsigned n) => boundedInt n 0 (Nat.pow 2 bits) t expected (.unsigned n)
  | .number (.signed i) => boundedInt i 0 (Nat.pow 2 bits) t expected (.unsigned i.toNat)
  | _ => mismatch (.kind t expected)

def readSigned (bits : Nat) (t : Tree) : Reading Tree :=
  let expected := "i" ++ toString bits
  let limit : Int := Nat.pow 2 (bits - 1)
  match t with
  | .number (.unsigned n) => boundedInt n (-limit) limit t expected (.signed n)
  | .number (.signed i) => boundedInt i (-limit) limit t expected (.signed i)
  | _ => mismatch (.kind t expected)

def readDouble : Tree → Reading Tree
  | .number (.float d) => .ok (.number (.float d))
  | .number (.unsigned n) => .ok (.number (.float (Double.ofInt n)))
  | .number (.signed i) => .ok (.number (.float (Double.ofInt i)))
  | t => mismatch (.kind t "f64")

def readVariant (variants : List String) (name : String) : Reading Tree :=
  if variants.contains name then .ok (.text name) else mismatch (.variant name variants)

/-- A variant is given by its name, or by a dictionary from its name to null. -/
def readChoice (name : String) (variants : List String) : Tree → Reading Tree
  | .text s => readVariant variants s
  | .dict [] => mismatch (.kind (.dict []) "enum")
  | .dict ((key, value) :: _) => do
    let chosen ← readVariant variants key
    match value with
    | .null => return chosen
    | other => Reading.under key (mismatch (.kind other "unit"))
  | t => mismatch (.kind t ("enum " ++ name))

/-- Reads items, each under its number. -/
def readItems (read : Tree → Reading Tree) : (index : Nat) → List Tree → Reading (List Tree)
  | _, [] => .ok []
  | index, t :: rest => do
    let value ← Reading.under (toString index) (read t)
    return value :: (← readItems read (index + 1) rest)

/-- Reads the values of entries, each under its key. -/
def readEntries (read : Tree → Reading Tree) : Tree.Entries → Reading Tree.Entries
  | [] => .ok []
  | (k, t) :: rest => do
    let value ← Reading.under k (read t)
    return (k, value) :: (← readEntries read rest)

/-- The first complaint about the fields, in the order of the entries. -/
def firstComplaint (results : List (String × Option (Reading Tree))) :
    Tree.Entries → Option Complaint
  | [] => none
  | (k, _) :: rest =>
    match results.find? fun r => r.1 == k with
    | some (_, some (.error c)) => some (c.under k)
    | _ => firstComplaint results rest

/-- The fields that were read, in their order; one that is missing needs a default. -/
def collect : List (String × Option (Reading Tree) × Option Tree) → Reading Tree.Entries
  | [] => .ok []
  | (k, some (.ok t), _) :: rest => do return (k, t) :: (← collect rest)
  | (k, none, some t) :: rest => do return (k, t) :: (← collect rest)
  | (k, _, _) :: _ => mismatch (.missing k)

/-- How many elements a record has, in words. -/
def elementCount (name : String) (n : Nat) : String :=
  "struct " ++ name ++ " with " ++ toString n ++ (if n = 1 then " element" else " elements")

mutual

/-- Reads a tree into the form of a schema. -/
def read : Schema → Tree → Reading Tree
  | .any, t => .ok t.plainValue
  | .text, .text s => .ok (.text s)
  | .text, t => mismatch (.kind t "a string")
  | .bool, .bool b => .ok (.bool b)
  | .bool, t => mismatch (.kind t "a boolean")
  | .double, t => readDouble t
  | .unsigned bits, t => readUnsigned bits t
  | .signed bits, t => readSigned bits t
  | .optional _, .null => .ok .null
  | .optional inner, t => read inner t
  | .list item, .list ts => do return .list (← readItems (read item) 0 ts)
  | .list _, t => mismatch (.kind t "a sequence")
  | .labels value, .dict es => do return .dict (← readEntries (read value) es)
  | .labels _, t => mismatch (.kind t "a map")
  | .choice name variants, t => readChoice name variants t
  | .record _ fields, .dict es =>
    let results := readFields fields es
    match firstComplaint (results.map fun r => (r.1, r.2.1)) es with
    | some c => .error c
    | none => do return .dict (← collect results)
  | .record name fields, .list ts => do
    return .dict (← readSequence name fields.length 0 fields ts)
  | .record name _, t => mismatch (.kind t ("struct " ++ name))

/-- Reads each field from its entry, if there is one. -/
def readFields : Fields → Tree.Entries → List (String × Option (Reading Tree) × Option Tree)
  | [], _ => []
  | (k, schema, fallback) :: rest, es =>
    let fallback := match fallback, schema with
      | some t, _ => some t
      | none, .optional _ => some .null
      | none, _ => none
    (k, (Tree.find? k es).map (read schema), fallback) :: readFields rest es

/-- Reads the fields of a record of `total` fields from items in their order. -/
def readSequence (name : String) (total index : Nat) :
    Fields → List Tree → Reading Tree.Entries
  | [], _ => .ok []
  | (k, schema, _) :: rest, t :: ts => do
    let value ← Reading.under (toString index) (read schema t)
    return (k, value) :: (← readSequence name total (index + 1) rest ts)
  | (k, _, some fallback) :: rest, [] => do
    return (k, fallback) :: (← readSequence name total (index + 1) rest [])
  | (_, _, none) :: _, [] => mismatch (.length index (elementCount name total))

end

end Schema

end Overlay.Layer
