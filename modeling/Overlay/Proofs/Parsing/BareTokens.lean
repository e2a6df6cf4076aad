import Overlay.Proofs.Parsing.Forward

/-!
# Tokens without their places

What a text means does not depend on where its tokens stand. Bare tokens have lost their places. A
mark that is joined to the next one stays so, but a comma is no part of any longer mark, so nothing
is joined to it.
-/

namespace Overlay.Source

namespace Token

/-- The place of what has none. -/
def nowhere : Span := ⟨.start, .start⟩

/-- Whether a mark may be joined to what follows it. -/
def joins : List Token → Bool
  | punct c _ _ :: _ => c != ','
  | _ => false

mutual

/-- A token without its place, before something a mark may be joined to or not. -/
def bare (joined : Bool) : Token → Token
  | ident text _ => ident text nowhere
  | punct c joint _ => punct c (joint && joined) nowhere
  | lifetime text _ => lifetime text nowhere
  | literal text _ => literal text nowhere
  | group d _ _ body => group d nowhere nowhere (bareAll body)

/-- Tokens in a row without their places. -/
def bareAll : List Token → List Token
  | [] => []
  | t :: rest => bare (joins rest) t :: bareAll rest

end

@[simp] theorem length_bareAll (ts : List Token) : (bareAll ts).length = ts.length := by
  induction ts with
  | nil => rfl
  | cons t ts ih => simp [bareAll, ih]

@[simp] theorem bareAll_drop (ts : List Token) (n : Nat) :
    bareAll (ts.drop n) = (bareAll ts).drop n := by
  induction ts generalizing n with
  | nil => simp [bareAll]
  | cons t ts ih =>
      cases n with
      | zero => rfl
      | succ n => simp [bareAll, ih]

@[simp] theorem bareAll_tail (ts : List Token) : bareAll ts.tail = (bareAll ts).tail := by
  cases ts <;> simp [bareAll]

mutual

theorem size_bare (joined : Bool) : ∀ t : Token, (bare joined t).size = t.size
  | ident .. | punct .. | lifetime .. | literal .. => by simp [bare, size]
  | group d o c body => by
      simp only [bare, size]
      rw [sizeAll_bareAll body]

theorem sizeAll_bareAll : ∀ ts : List Token, sizeAll (bareAll ts) = sizeAll ts
  | [] => rfl
  | t :: rest => by
      simp only [bareAll, sizeAll]
      rw [size_bare _ t, sizeAll_bareAll rest]

end

theorem size_pos (t : Token) : 0 < t.size := by
  cases t <;> simp [size]

theorem sizeAll_drop (ts : List Token) (n : Nat) (hn : n ≤ ts.length) :
    sizeAll (ts.drop n) + n ≤ sizeAll ts := by
  induction ts generalizing n with
  | nil =>
      have : n = 0 := by simpa using hn
      simp [this, sizeAll]
  | cons t ts ih =>
      cases n with
      | zero => simp
      | succ n =>
          have hle := ih n (by simpa using hn)
          have := t.size_pos
          simp only [List.drop_succ_cons, sizeAll]
          omega

/-- Tokens that are bare in the same way also are without the joints between them. -/
theorem map_bare_of_bareAll {ts us : List Token} (h : bareAll ts = bareAll us) :
    ts.map (bare false) = us.map (bare false) := by
  induction ts generalizing us with
  | nil =>
      cases us with
      | nil => rfl
      | cons u us => simp [bareAll] at h
  | cons t ts ih =>
      cases us with
      | nil => simp [bareAll] at h
      | cons u us =>
          simp only [bareAll, List.cons.injEq] at h
          simp only [List.map_cons, List.cons.injEq]
          refine ⟨?_, ih h.2⟩
          cases t <;> cases u <;> simp_all [bare]

end Token

open Token

namespace Parser

/-! ## What stands ahead -/

section Bare

variable (ts : List Token)

theorem isWord_bareAll (w : String) : isWord w (bareAll ts) = isWord w ts := by
  match ts with
  | [] => rfl
  | t :: rest => cases t <;> rfl

theorem isAnyWord_bareAll (ws : List String) : isAnyWord ws (bareAll ts) = isAnyWord ws ts := by
  simp only [isAnyWord, isWord_bareAll]

theorem isName_bareAll : isName (bareAll ts) = isName ts := by
  match ts with
  | [] => rfl
  | t :: rest => cases t <;> rfl

theorem isIdent_bareAll : isIdent (bareAll ts) = isIdent ts := by
  match ts with
  | [] => rfl
  | t :: rest => cases t <;> rfl

theorem isLifetime_bareAll : isLifetime (bareAll ts) = isLifetime ts := by
  match ts with
  | [] => rfl
  | t :: rest => cases t <;> rfl

theorem isGroup_bareAll (d : Delimiter) : isGroup d (bareAll ts) = isGroup d ts := by
  match ts with
  | [] => rfl
  | t :: rest => cases t <;> rfl

theorem isString_bareAll : isString (bareAll ts) = isString ts := by
  match ts with
  | [] => rfl
  | t :: rest => cases t <;> rfl

theorem isLiteral_bareAll : isLiteral (bareAll ts) = isLiteral ts := by
  match ts with
  | [] => rfl
  | .ident .. :: rest | .lifetime .. :: rest | .literal .. :: rest | .group .. :: rest => rfl
  | .punct c joint span :: rest =>
      simp only [bareAll, bare]
      match rest with
      | [] => simp [bareAll, isLiteral]
      | t :: rest =>
          by_cases hc : c = '-'
          · subst hc
            cases t <;> rfl
          · cases t <;> simp [bareAll, bare, isLiteral, hc]

/-- Whether the tokens start with a literal after a minus. -/
def isNegative : List Token → Bool
  | .punct '-' _ _ :: .literal .. :: _ => true
  | _ => false

theorem isNegative_bareAll : isNegative (bareAll ts) = isNegative ts := by
  match ts with
  | [] => rfl
  | .ident .. :: rest | .lifetime .. :: rest | .literal .. :: rest | .group .. :: rest => rfl
  | .punct c joint span :: rest =>
      simp only [bareAll, bare]
      match rest with
      | [] => simp [bareAll, isNegative]
      | t :: rest =>
          by_cases hc : c = '-'
          · subst hc
            cases t <;> rfl
          · cases t <;> simp [bareAll, bare, isNegative, hc]

theorem literal_eq : literal = (do
    let ts ← ahead
    if isNegative ts then skip 2 else if isLiteral ts then skip 1 else refuse "expected literal") := by
  unfold literal
  congr
  funext ts
  split
  · rfl
  · next h =>
      have : isNegative ts = false := by
        unfold isNegative
        split
        · exact (h _ _ _ _ _ rfl).elim
        · rfl
      rw [this]
      rfl

/-- A mark without commas and semicolons. -/
class Operator (m : String) : Prop where
  plain : ',' ∉ m.toList ∧ ';' ∉ m.toList

instance : Operator "!" := ⟨by decide⟩
instance : Operator "!=" := ⟨by decide⟩
instance : Operator "#" := ⟨by decide⟩
instance : Operator "&" := ⟨by decide⟩
instance : Operator "&=" := ⟨by decide⟩
instance : Operator "*" := ⟨by decide⟩
instance : Operator "*=" := ⟨by decide⟩
instance : Operator "+" := ⟨by decide⟩
instance : Operator "-" := ⟨by decide⟩
instance : Operator "-=" := ⟨by decide⟩
instance : Operator "->" := ⟨by decide⟩
instance : Operator "." := ⟨by decide⟩
instance : Operator ".." := ⟨by decide⟩
instance : Operator "..." := ⟨by decide⟩
instance : Operator "..=" := ⟨by decide⟩
instance : Operator ":" := ⟨by decide⟩
instance : Operator "::" := ⟨by decide⟩
instance : Operator "^" := ⟨by decide⟩
instance : Operator "%" := ⟨by decide⟩
instance : Operator "/" := ⟨by decide⟩
instance : Operator "<" := ⟨by decide⟩
instance : Operator "<<=" := ⟨by decide⟩
instance : Operator "<=" := ⟨by decide⟩
instance : Operator "=" := ⟨by decide⟩
instance : Operator "=>" := ⟨by decide⟩
instance : Operator ">" := ⟨by decide⟩
instance : Operator "?" := ⟨by decide⟩
instance : Operator "@" := ⟨by decide⟩
instance : Operator "|" := ⟨by decide⟩
instance : Operator "|=" := ⟨by decide⟩
instance : Operator "||" := ⟨by decide⟩

theorem operator_of_mem_binaryOperators {o : String × Level}
    (ho : o ∈ Grammar.binaryOperators) : Operator o.1 := by
  have h : Grammar.binaryOperators.all (fun o =>
    !o.1.toList.contains ',' && !o.1.toList.contains ';') = true := by decide
  have := List.all_eq_true.mp h o ho
  exact ⟨by simpa using this⟩

/-- A mark in which no comma follows another character. -/
class Mark (m : String) : Prop where
  inner : ',' ∉ m.toList.tail

instance (m : String) [h : Operator m] : Mark m := ⟨fun hm => h.plain.1 (List.mem_of_mem_tail hm)⟩

instance : Mark "," := ⟨by decide⟩
instance : Mark ";" := ⟨by decide⟩

theorem marksAhead_bareAll {cs : List Char} (hcs : ',' ∉ cs.tail) :
    marksAhead cs (bareAll ts) = marksAhead cs ts := by
  induction cs generalizing ts with
  | nil => cases ts <;> rfl
  | cons c more ih =>
      match ts with
      | [] => cases more <;> rfl
      | .ident .. :: rest | .lifetime .. :: rest | .literal .. :: rest | .group .. :: rest =>
          cases more <;> rfl
      | .punct d joint span :: rest =>
          cases more with
          | nil => rfl
          | cons c' more =>
              have htail : ',' ∉ more := fun h => hcs (List.mem_cons_of_mem _ h)
              have hcomma : c' ≠ ',' := fun h => hcs (by simp [h])
              simp only [bareAll, bare, marksAhead]
              rw [ih rest htail]
              match rest with
              | [] => cases more <;> simp [marksAhead]
              | .ident .. :: _ | .lifetime .. :: _ | .literal .. :: _ | .group .. :: _ =>
                  cases more <;> simp [marksAhead]
              | .punct e _ _ :: _ =>
                  by_cases he : e = ','
                  · have hne : (c' == e) = false := by simp [he, hcomma]
                    cases more <;> simp [marksAhead, hne]
                  · have hjoins : joins (.punct e ‹_› ‹_› :: ‹_›) = true := by simp [joins, he]
                    rw [hjoins, Bool.and_true]

theorem isMark_bareAll (m : String) [hm : Mark m] : isMark m (bareAll ts) = isMark m ts :=
  marksAhead_bareAll ts hm.inner

end Bare

end Parser

end Overlay.Source
