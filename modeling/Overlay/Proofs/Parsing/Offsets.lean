import Mathlib.Data.List.DropRight
import Overlay.Source.SourceFile

/-!
# Offsets of positions

There are three ways to say where a character of a text stands: by the characters
before it, by the bytes before it, and by its line and its column. The place behind
some characters is counted from these alone (`lineColumn`): how many line feeds there
are, and how many characters since the last one. The offset of that place is the number
of their bytes (`offset?_lineColumn`), whatever follows them. So what stands between
two places is quoted character by character (`quoted?_eq`).
-/

namespace Overlay.Source

/-! ## Bytes -/

/-- The number of bytes of some characters. -/
def byteLength (cs : List Char) : Nat := (String.ofList cs).utf8ByteSize

@[simp] theorem byteLength_nil : byteLength [] = 0 := rfl

theorem byteLength_append (a b : List Char) :
    byteLength (a ++ b) = byteLength a + byteLength b := by
  rw [byteLength, String.ofList_append, String.utf8ByteSize_append]
  rfl

theorem byteLength_cons (c : Char) (cs : List Char) :
    byteLength (c :: cs) = c.utf8Size + byteLength cs := by
  rw [← List.singleton_append, byteLength_append]
  congr 1
  rw [byteLength, ← String.singleton_eq_ofList, String.utf8ByteSize_singleton]

theorem byteLength_pos {cs : List Char} (h : cs ≠ []) : 0 < byteLength cs := by
  cases cs with
  | nil => exact absurd rfl h
  | cons c cs =>
      have := c.utf8Size_pos
      rw [byteLength_cons]
      omega

theorem fromOffset?_append (before after : List Char) :
    fromOffset? (byteLength before) (before ++ after) = some after := by
  induction before with
  | nil => rw [byteLength_nil, List.nil_append, fromOffset?]
  | cons c before ih =>
      obtain ⟨n, hn⟩ : ∃ n, byteLength (c :: before) = n + 1 :=
        Nat.exists_eq_add_one_of_ne_zero (Nat.ne_of_gt (byteLength_pos (List.cons_ne_nil c before)))
      rw [byteLength_cons] at hn
      rw [byteLength_cons, hn, List.cons_append, fromOffset?, if_pos (by omega),
        show n + 1 - c.utf8Size = byteLength before by omega, ih]

theorem firstBytes?_append (cs after : List Char) :
    firstBytes? (byteLength cs) (cs ++ after) = some cs := by
  induction cs with
  | nil => rw [byteLength_nil, firstBytes?]
  | cons c cs ih =>
      obtain ⟨n, hn⟩ : ∃ n, byteLength (c :: cs) = n + 1 :=
        Nat.exists_eq_add_one_of_ne_zero (Nat.ne_of_gt (byteLength_pos (List.cons_ne_nil c cs)))
      rw [byteLength_cons] at hn
      rw [byteLength_cons, hn, List.cons_append, firstBytes?, if_pos (by omega),
        show n + 1 - c.utf8Size = byteLength cs by omega, ih, Option.map_some]

theorem charOffsets_append (offset : Nat) (line after : List Char) :
    (charOffsets offset (line ++ after))[line.length]? = some (offset + byteLength line) := by
  induction line generalizing offset with
  | nil => cases after <;> rfl
  | cons c line ih =>
      rw [List.cons_append, charOffsets, List.length_cons, List.getElem?_cons_succ, ih,
        byteLength_cons, Nat.add_assoc]

/-! ## Lines -/

theorem behindFeeds_cons_of_ne {c : Char} (h : c ≠ '\n') (offset : Nat) (cs : List Char) :
    behindFeeds offset (c :: cs) = behindFeeds (offset + c.utf8Size) cs := by
  rw [behindFeeds, if_neg h]

/-- A line starts behind whole lines, each with its line feed. -/
theorem behindFeeds_append {lines : List Char} (hlines : ∀ c ∈ lines.getLast?, c = '\n')
    (offset : Nat) (rest : List Char) :
    (offset :: behindFeeds offset (lines ++ rest))[lines.count '\n']? =
      some (offset + byteLength lines) := by
  induction lines generalizing offset with
  | nil => rfl
  | cons c lines ih =>
      have hmore : ∀ d ∈ lines.getLast?, d = '\n' := by
        intro d hd
        apply hlines
        rw [List.getLast?_cons, Option.mem_def.mp hd]
        rfl
      rw [byteLength_cons, ← Nat.add_assoc, ← ih hmore (offset + c.utf8Size), List.cons_append]
      by_cases hc : c = '\n'
      · subst hc
        rw [List.count_cons_self, List.getElem?_cons_succ, behindFeeds, if_pos rfl]
        rfl
      · -- There is a line feed behind a character that is none, so both starts are passed.
        have hfeed : 0 < lines.count '\n' := by
          rw [List.count_pos_iff]
          cases lines with
          | nil => exact absurd (hlines c rfl) hc
          | cons d lines =>
              have hlast := List.getLast?_eq_some_getLast (List.cons_ne_nil d lines)
              rw [← hmore _ hlast]
              exact List.getLast_mem _
        obtain ⟨k, hk⟩ := Nat.exists_eq_add_one_of_ne_zero (Nat.ne_of_gt hfeed)
        rw [List.count_cons_of_ne hc, behindFeeds_cons_of_ne hc, hk, List.getElem?_cons_succ,
          List.getElem?_cons_succ]

/-! ## Lines and columns -/

/-- Whether a character stays on its line. -/
def staysOnLine (c : Char) : Bool := c != '\n'

/-- The line and the column behind some characters: the line feeds among them, and the characters
since the last one. -/
def lineColumn (before : List Char) : Position :=
  ⟨1 + before.count '\n', (before.rtakeWhile staysOnLine).length⟩

/-- Characters are whole lines, and the start of one more. -/
theorem exists_lines (cs : List Char) :
    ∃ lines, cs = lines ++ cs.rtakeWhile staysOnLine ∧ (∀ c ∈ lines.getLast?, c = '\n') ∧
      lines.count '\n' = cs.count '\n' := by
  have hcs : cs.rdropWhile staysOnLine ++ cs.rtakeWhile staysOnLine = cs :=
    List.rdropWhile_append_rtakeWhile
  refine ⟨cs.rdropWhile staysOnLine, hcs.symm, fun c hc => ?_, ?_⟩
  · have hne : cs.rdropWhile staysOnLine ≠ [] := by
      intro hnil
      rw [hnil] at hc
      cases hc
    rw [List.getLast?_eq_some_getLast hne] at hc
    rw [← Option.some.inj hc]
    simpa [staysOnLine] using List.rdropWhile_last_not staysOnLine cs hne
  · have hline : (cs.rtakeWhile staysOnLine).count '\n' = 0 := by
      refine List.count_eq_zero.mpr fun hmem => ?_
      exact absurd (List.mem_rtakeWhile_imp hmem) (by decide)
    conv_rhs => rw [← hcs]
    rw [List.count_append, hline, Nat.add_zero]

theorem Position.advanceAll_append (p : Position) (a b : List Char) :
    p.advanceAll (a ++ b) = (p.advanceAll a).advanceAll b := List.foldl_append

/-- Walking over characters counts their lines and columns. -/
theorem advanceAll_start (cs : List Char) : Position.start.advanceAll cs = lineColumn cs := by
  induction cs using List.reverseRecOn with
  | nil => rfl
  | append_singleton cs c ih =>
      rw [Position.advanceAll_append, ih]
      show (lineColumn cs).advance c = lineColumn (cs ++ [c])
      rw [Position.advance, lineColumn, lineColumn]
      by_cases hc : c = '\n'
      · subst hc
        rw [if_pos rfl, List.rtakeWhile_concat_neg _ _ _ (by decide), List.count_append]
        rfl
      · have hstays : staysOnLine c = true := by simpa [staysOnLine] using hc
        rw [if_neg hc, List.rtakeWhile_concat_pos _ _ _ hstays, List.count_append,
          List.count_singleton, if_neg (by simpa using hc), List.length_append]
        rfl

namespace SourceFile

variable {file : SourceFile} {before middle after : List Char}

/-- The offset of a place is the number of bytes before it. -/
theorem offset?_lineColumn (h : file.text.toList = before ++ after) :
    file.offset? (lineColumn before) = some (byteLength before) := by
  obtain ⟨lines, hbefore, hlines, hcount⟩ := exists_lines before
  have htext : file.text.toList = lines ++ (before.rtakeWhile staysOnLine ++ after) := by
    rw [h, ← List.append_assoc, ← hbefore]
  have hstart : (lineStarts file.text.toList)[before.count '\n']? = some (byteLength lines) := by
    rw [htext, lineStarts, ← hcount, behindFeeds_append hlines, Nat.zero_add]
  have hbytes : byteLength before =
      byteLength lines + byteLength (before.rtakeWhile staysOnLine) := by
    rw [← byteLength_append, ← hbefore]
  have hline : (lineColumn before).line ≠ 0 := by
    show 1 + before.count '\n' ≠ 0
    omega
  have hindex : (lineColumn before).line - 1 = before.count '\n' := Nat.add_sub_cancel_left ..
  rw [offset?, if_neg hline, hindex, hstart, Option.bind_some, htext, fromOffset?_append,
    Option.bind_some, hbytes]
  exact charOffsets_append ..

theorem between?_eq (h : file.text.toList = before ++ middle ++ after) (hmiddle : middle ≠ []) :
    file.between? (byteLength before) (byteLength (before ++ middle)) = some middle := by
  have hpos := byteLength_pos hmiddle
  rw [between?, byteLength_append, if_pos (by omega), h, List.append_assoc, fromOffset?_append,
    Option.bind_some, Nat.add_sub_cancel_left, firstBytes?_append]

/-- A node between two places of a text is quoted. -/
theorem quoted?_eq {n : Node} (h : file.text.toList = before ++ middle ++ after)
    (hmiddle : middle ≠ [])
    (hspan : n.span? = some ⟨lineColumn before, lineColumn (before ++ middle)⟩) :
    file.quoted? n = some middle := by
  have hstart : file.offset? (lineColumn before) = some (byteLength before) :=
    offset?_lineColumn (by rw [h, List.append_assoc])
  rw [quoted?, hspan, Option.bind_some, hstart, Option.bind_some, offset?_lineColumn h,
    Option.bind_some, between?_eq h hmiddle]

theorem snippet_of_quoted? {n : Node} (h : file.quoted? n = some middle) :
    file.snippet n = String.ofList middle := by
  rw [snippet, h]

end SourceFile

end Overlay.Source
