import Overlay.Proofs.EntryPoint
import Overlay.Proofs.Parsing.CallStatements

/-!
# The forms of the aggregation call

An aggregation call may be written as a call of a function or of a macro, and a macro may be called
with any of the three delimiters. Of the function the arguments are read with the rest of the
script; of a macro they are only tokens that are read later, by themselves. Both come to the same
arguments: whatever may stand between the parentheses of the function may stand between the
delimiters of the macro, and is cut at the same commas.
-/

namespace Overlay.Source

open Overlay.Source.Parser Overlay.Source.Grammar Token

/-! ## Tokens wherever they stand -/

namespace Token

mutual

/-- A token without its place. -/
def placeless : Token → Token
  | ident text _ => ident text nowhere
  | punct c joint _ => punct c joint nowhere
  | lifetime text _ => lifetime text nowhere
  | literal text _ => literal text nowhere
  | group d _ _ body => group d nowhere nowhere (placelessAll body)

/-- Tokens in a row without their places. -/
def placelessAll : List Token → List Token
  | [] => []
  | t :: rest => placeless t :: placelessAll rest

end

theorem placelessAll_eq_map (ts : List Token) : placelessAll ts = ts.map placeless := by
  induction ts with
  | nil => rfl
  | cons t ts ih => rw [placelessAll, ih, List.map_cons]

theorem placelessAll_append (us vs : List Token) :
    placelessAll (us ++ vs) = placelessAll us ++ placelessAll vs := by
  simp only [placelessAll_eq_map, List.map_append]

theorem length_placelessAll (ts : List Token) : (placelessAll ts).length = ts.length := by
  rw [placelessAll_eq_map, List.length_map]

theorem joins_placelessAll (ts : List Token) : joins (placelessAll ts) = joins ts := by
  cases ts with
  | nil => rfl
  | cons t rest => cases t <;> rfl

mutual

theorem bare_placeless (joined : Bool) : ∀ t : Token, bare joined (placeless t) = bare joined t
  | ident .. | punct .. | lifetime .. | literal .. => rfl
  | group d o c body => by rw [placeless, bare, bare, bareAll_placelessAll body]

/-- Tokens that differ in their places only are read alike. -/
theorem bareAll_placelessAll : ∀ ts : List Token, bareAll (placelessAll ts) = bareAll ts
  | [] => rfl
  | t :: rest => by
      rw [placelessAll, bareAll, bareAll, joins_placelessAll, bare_placeless _ t,
        bareAll_placelessAll rest]

end

theorem bareAll_of_placelessAll {us vs : List Token} (h : placelessAll us = placelessAll vs) :
    bareAll us = bareAll vs := by
  rw [← bareAll_placelessAll, h, bareAll_placelessAll]

mutual

/-- Whether two tokens differ in their places only. -/
def same : Token → Token → Bool
  | ident x _, ident y _ => x == y
  | punct c j _, punct d k _ => c == d && j == k
  | lifetime x _, lifetime y _ => x == y
  | literal x _, literal y _ => x == y
  | group d _ _ us, group e _ _ vs => d == e && sameAll us vs
  | _, _ => false

/-- Whether tokens in a row differ in their places only. -/
def sameAll : List Token → List Token → Bool
  | [], [] => true
  | t :: us, u :: vs => same t u && sameAll us vs
  | _, _ => false

end

mutual

theorem placeless_of_same : ∀ {t u : Token}, same t u = true → placeless t = placeless u
  | ident .., ident .., h | lifetime .., lifetime .., h | literal .., literal .., h => by
      rw [same, beq_iff_eq] at h
      rw [placeless, placeless, h]
  | punct .., punct .., h => by
      rw [same, Bool.and_eq_true, beq_iff_eq, beq_iff_eq] at h
      rw [placeless, placeless, h.1, h.2]
  | group .., group .., h => by
      rw [same, Bool.and_eq_true, beq_iff_eq] at h
      rw [placeless, placeless, h.1, placelessAll_of_sameAll h.2]

theorem placelessAll_of_sameAll :
    ∀ {us vs : List Token}, sameAll us vs = true → placelessAll us = placelessAll vs
  | [], [], _ => rfl
  | t :: us, u :: vs, h => by
      rw [sameAll, Bool.and_eq_true] at h
      rw [placelessAll, placelessAll, placeless_of_same h.1, placelessAll_of_sameAll h.2]

end

end Token

/-! ## Tokens between commas -/

/-- The tokens are those of the pieces with commas between them, and maybe one behind the last. -/
inductive Separated : List (List Token) → List Token → Prop where
  | nothing : Separated [] []
  | last (piece : List Token) : Separated [piece] piece
  | more {pieces : List (List Token)} {rest : List Token} (piece : List Token) (joint : Bool)
      (span : Span) (h : Separated pieces rest) :
      Separated (piece :: pieces) (piece ++ .punct ',' joint span :: rest)

theorem Separated.placeless {pieces : List (List Token)} {ts : List Token} (h : Separated pieces ts) :
    Separated (pieces.map placelessAll) (placelessAll ts) := by
  induction h with
  | nothing => exact .nothing
  | last piece => exact .last _
  | more piece joint span h ih =>
      rw [placelessAll_append, placelessAll]
      exact .more _ joint nowhere ih

/-- Where tokens are cut is settled by how long the pieces are. -/
theorem Separated.eq_of_length {pieces : List (List Token)} {ts : List Token}
    (h : Separated pieces ts) {others : List (List Token)} (hothers : Separated others ts)
    (hlength : pieces.map List.length = others.map List.length) : pieces = others := by
  induction h generalizing others with
  | nothing =>
      exact (List.map_eq_nil_iff.mp hlength.symm).symm
  | last piece =>
      cases hothers with
      | nothing => simp at hlength
      | last => rfl
      | more other joint span h => simp at hlength
  | @more pieces rest piece joint span h ih =>
      generalize hts : piece ++ .punct ',' joint span :: rest = ts at hothers
      cases hothers with
      | nothing => simp at hlength
      | last =>
          rw [← hts] at hlength
          simp at hlength
      | more other joint' span' h' =>
          simp only [List.map_cons, List.cons.injEq] at hlength
          obtain ⟨rfl, hrest⟩ := List.append_inj hts hlength.1
          cases hrest
          rw [ih h' hlength.2]

/-- The expressions of a list with commas are the pieces between the commas. -/
theorem separated_of_commaList {p : Parser Node} [Forward p] [Tight p] {s t : Stream}
    {args : List Node} (h : commaList p s = .ok (args, t)) (ht : t.rest = []) :
    Separated (args.map Node.tokens) s.rest := by
  change separatedUntil.go List.isEmpty "," p (s.rest.length + 1) s = _ at h
  generalize s.rest.length + 1 = fuel at h
  induction fuel generalizing s args with
  | zero =>
      cases h
      rw [ht]
      exact .nothing
  | succ fuel ih =>
      obtain ⟨_, _, hahead, h⟩ := run_bind_ok h
      cases hahead
      split at h
      · next hnil =>
          cases h
          rw [ht]
          exact .nothing
      · obtain ⟨a, u, ha, h⟩ := run_bind_ok h
        have hrest := (Forward.onward ha).rest_eq
        rw [← Tight.tokens ha] at hrest
        obtain ⟨_, _, hahead, h⟩ := run_bind_ok h
        cases hahead
        split at h
        · next hnil =>
            cases h
            rw [hrest, ht, List.append_nil]
            exact .last _
        · obtain ⟨_, v, hmark, h⟩ := run_bind_ok h
          obtain ⟨hcomma, rfl⟩ := run_mark_ok hmark
          obtain ⟨joint, span, rest, hu⟩ := exists_of_isMark rfl hcomma
          obtain ⟨more, w, hmore, h⟩ := run_bind_ok h
          cases h
          rw [hrest, hu]
          refine .more _ joint span ?_
          have hpieces := ih hmore
          rwa [show (",").length = 1 from rfl, hu] at hpieces

/-! ## Scripts of one call -/

/-- The tokens of a path without arguments. -/
def pathTokens (rooted : Bool) : List String → List Token
  | [] => []
  | x :: xs => (if rooted then colons else []) ++ .ident x nowhere
      :: xs.flatMap fun y => colons ++ [.ident y nowhere]
where
  colons : List Token := [.punct ':' true nowhere, .punct ':' false nowhere]

/-- The forms of a call. -/
inductive CallForm where
  | function
  | macroCall (d : Delimiter)

/-- What stands behind the path of a call of the given form; a macro in braces needs no semicolon. -/
def CallForm.tail (ts : List Token) : CallForm → List Token
  | function => [.group .paren nowhere nowhere ts, .punct ';' false nowhere]
  | macroCall d => .punct '!' false nowhere :: .group d nowhere nowhere ts
      :: if d = .brace then [] else [.punct ';' false nowhere]

/-- The tokens of a script that only calls what the path names on the given tokens. -/
def callScript (form : CallForm) (rooted : Bool) (segs : List String) (ts : List Token) : List Token :=
  entryTokens nowhere nowhere nowhere nowhere nowhere nowhere (pathTokens rooted segs ++ form.tail ts)

/-- The text consists of these tokens, wherever they stand in it. -/
def ReadsAs (text : String) (ts : List Token) : Prop :=
  ∃ read, tokenize (fileContent text.toList) = .ok read ∧ placelessAll read = placelessAll ts

theorem ReadsAs.of_sameAll {text : String} {ts : List Token}
    (h : (tokenize (fileContent text.toList)).toOption.any (sameAll · ts) = true) : ReadsAs text ts := by
  match hread : tokenize (fileContent text.toList), h with
  | .ok read, h => exact ⟨read, hread, placelessAll_of_sameAll h⟩

section Shapes

variable {us : List Token} {x : String} {joint : Bool} {c : Char} {d : Delimiter} {ts rest : List Token}

theorem placelessAll_eq_append {vs : List Token} (h : placelessAll us = placelessAll (vs ++ ts)) :
    ∃ vs' ts', us = vs' ++ ts' ∧ placelessAll vs' = placelessAll vs ∧
      placelessAll ts' = placelessAll ts := by
  simp only [placelessAll_eq_map, List.map_append] at h ⊢
  exact List.map_eq_append_iff.mp h

theorem placelessAll_eq_nil (h : placelessAll us = placelessAll []) : us = [] := by
  rw [placelessAll_eq_map] at h
  exact List.map_eq_nil_iff.mp h

theorem placelessAll_eq_ident {a : Span}
    (h : placelessAll us = placelessAll (.ident x a :: rest)) :
    ∃ a' rest', us = .ident x a' :: rest' ∧ placelessAll rest' = placelessAll rest := by
  match us, h with
  | .ident y b :: vs, h =>
      simp only [placelessAll, placeless, List.cons.injEq, Token.ident.injEq, and_true] at h
      obtain ⟨rfl, hvs⟩ := h
      exact ⟨b, vs, rfl, hvs⟩

theorem placelessAll_eq_punct {a : Span}
    (h : placelessAll us = placelessAll (.punct c joint a :: rest)) :
    ∃ a' rest', us = .punct c joint a' :: rest' ∧ placelessAll rest' = placelessAll rest := by
  match us, h with
  | .punct y j b :: vs, h =>
      simp only [placelessAll, placeless, List.cons.injEq, Token.punct.injEq, and_true] at h
      obtain ⟨⟨rfl, rfl⟩, hvs⟩ := h
      exact ⟨b, vs, rfl, hvs⟩

theorem placelessAll_eq_group {o a : Span}
    (h : placelessAll us = placelessAll (.group d o a ts :: rest)) :
    ∃ o' a' ts' rest', us = .group d o' a' ts' :: rest' ∧ placelessAll ts' = placelessAll ts ∧
      placelessAll rest' = placelessAll rest := by
  match us, h with
  | .group e p q body :: vs, h =>
      simp only [placelessAll, placeless, List.cons.injEq, Token.group.injEq, true_and] at h
      obtain ⟨⟨rfl, hbody⟩, hvs⟩ := h
      exact ⟨p, q, body, vs, rfl, hbody, hvs⟩

/-- Tokens of a path are so wherever they stand. -/
theorem moreSegments_of_placelessAll {xs : List String} (h : placelessAll us
    = placelessAll (xs.flatMap fun y => pathTokens.colons ++ [.ident y nowhere])) :
    MoreSegments xs us := by
  induction xs generalizing us with
  | nil =>
      rw [placelessAll_eq_nil h]
      exact .nil
  | cons x xs ih =>
      obtain ⟨a, us, rfl, h₁⟩ := placelessAll_eq_punct h
      obtain ⟨b, us, rfl, h₂⟩ := placelessAll_eq_punct h₁
      obtain ⟨c, us, rfl, h₃⟩ := placelessAll_eq_ident h₂
      exact .cons a b c (ih h₃)

theorem pathTokens_of_placelessAll {rooted : Bool} {segs : List String} (hsegs : segs ≠ [])
    (h : placelessAll us = placelessAll (pathTokens rooted segs)) : PathTokens rooted segs us := by
  obtain ⟨x, xs, rfl⟩ := List.exists_cons_of_ne_nil hsegs
  cases rooted with
  | false =>
      obtain ⟨a, us, rfl, hmore⟩ := placelessAll_eq_ident h
      exact .plain a (moreSegments_of_placelessAll hmore)
  | true => exact .rooted (moreSegments_of_placelessAll h)

/-- What stands behind the path of a call, wherever it stands. -/
inductive CallTail (ts : List Token) : CallForm → List Token → Prop where
  | function {o c m : Span} {args : List Token} (hargs : placelessAll args = placelessAll ts) :
      CallTail ts .function [.group .paren o c args, .punct ';' false m]
  | macroCall {d : Delimiter} {m o c : Span} {args w : List Token}
      (hargs : placelessAll args = placelessAll ts) (hw : CallEnd w) :
      CallTail ts (.macroCall d) (.punct '!' false m :: .group d o c args :: w)

theorem callTail_of_placelessAll {form : CallForm} (h : placelessAll us = placelessAll (form.tail ts)) :
    CallTail ts form us := by
  cases form with
  | function =>
      obtain ⟨o, c, args, us, rfl, hargs, h₁⟩ := placelessAll_eq_group h
      obtain ⟨m, us, rfl, h₂⟩ := placelessAll_eq_punct h₁
      rw [placelessAll_eq_nil h₂]
      exact .function hargs
  | macroCall d =>
      obtain ⟨m, us, rfl, h₁⟩ := placelessAll_eq_punct h
      obtain ⟨o, c, args, us, rfl, hargs, h₂⟩ := placelessAll_eq_group h₁
      refine .macroCall hargs ?_
      split at h₂
      · rw [placelessAll_eq_nil h₂]
        exact .nothing
      · obtain ⟨m, us, rfl, h₃⟩ := placelessAll_eq_punct h₂
        rw [placelessAll_eq_nil h₃]
        exact .semicolon m

/-- A text of these tokens is an entry point that makes the call. -/
theorem ReadsAs.shape {text : String} {form : CallForm} {rooted : Bool} {segs : List String}
    (hsegs : segs ≠ []) (h : ReadsAs text (callScript form rooted segs ts)) :
    ∃ all a b p q o c us w, tokenize (fileContent text.toList) = .ok all ∧
      all = entryTokens a b p q o c (us ++ w) ∧ PathTokens rooted segs us ∧ CallTail ts form w := by
  obtain ⟨read, hread, h⟩ := h
  obtain ⟨a, us, rfl, h₁⟩ := placelessAll_eq_ident h
  obtain ⟨b, us, rfl, h₂⟩ := placelessAll_eq_ident h₁
  obtain ⟨p, q, none, us, rfl, hnone, h₃⟩ := placelessAll_eq_group h₂
  obtain ⟨o, c, body, us, rfl, hbody, h₄⟩ := placelessAll_eq_group h₃
  obtain ⟨us, w, rfl, hus, hw⟩ := placelessAll_eq_append hbody
  rw [placelessAll_eq_nil hnone, placelessAll_eq_nil h₄] at hread
  exact ⟨_, a, b, p, q, o, c, us, w, hread, rfl, pathTokens_of_placelessAll hsegs hus,
    callTail_of_placelessAll hw⟩

end Shapes

/-! ## Arguments that are read elsewhere -/

instance (k : Nat) : Tight ((ofDepth k).expr true) := by
  cases k with
  | zero => exact inferInstanceAs (Tight (refuse _))
  | succ k => exact inferInstanceAs (Tight (exprProduction (ofDepth k) true))

/-- At this depth all the tokens are read as arguments. -/
def ReadsArguments (depth : Nat) (e : Position) (ts : List Token) (args : List Node) : Prop :=
  ∃ t, commaList ((ofDepth depth).expr true) ⟨ts, 0, e, none⟩ = .ok (args, t) ∧
    t.stray = none ∧ t.rest = []

section Arguments

variable {depth : Nat} {e : Position} {ts : List Token} {args : List Node}

theorem ReadsArguments.separated (h : ReadsArguments depth e ts args) :
    Separated (args.map Node.tokens) ts := by
  obtain ⟨t, hrun, -, hrest⟩ := h
  exact separated_of_commaList hrun hrest

theorem length_tokens_of_like {args args' : List Node} (h : Like args args') :
    (args.map Node.tokens).map List.length = (args'.map Node.tokens).map List.length := by
  have hlength (n : Node) : (bare n).tokens.length = n.tokens.length := by
    obtain ⟨role, tokens, children⟩ := n
    rw [bare_node]
    exact List.length_map ..
  have h := congrArg (List.map fun n => n.tokens.length) h.eq
  simp only [bare_list, List.map_map, Function.comp_def, hlength] at h ⊢
  exact h

/-- The same arguments are read from the same tokens in another place. -/
theorem ReadsArguments.elsewhere (h : ReadsArguments depth e ts args)
    (hdepth : 2 * sizeAll ts + 2 ≤ depth) {ts' : List Token} (hts : placelessAll ts' = placelessAll ts)
    {depth' : Nat} (hdepth' : 2 * sizeAll ts' + 2 ≤ depth') (e' : Position) :
    ∃ args', ReadsArguments depth' e' ts' args' ∧
      (args'.map Node.tokens).map placelessAll = (args.map Node.tokens).map placelessAll := by
  have hseparated := h.separated
  obtain ⟨t, hrun, hstray, hrest⟩ := h
  have hbare := bareAll_of_placelessAll hts
  have hsize : sizeAll ts = sizeAll ts' := by rw [← sizeAll_bareAll, ← hbare, sizeAll_bareAll]
  have hdepths : 2 * sizeAll ts + 2 ≤ min depth depth' := Nat.le_min.mpr ⟨hdepth, by rwa [hsize]⟩
  have := isAlike_ofDepth (min depth depth') (Nat.min_le_left _ _) (Nat.min_le_right _ _)
  have halike : Alike (min depth depth') 0 (commaList ((ofDepth depth).expr true))
    (commaList ((ofDepth depth').expr true)) := inferInstance
  have hstream : Like (⟨ts, 0, e, none⟩ : Stream) ⟨ts', 0, e', none⟩ := like_stream hbare.symm rfl
  obtain ⟨args', ending, hrun', hlike⟩ := run_of_alike halike hrun hstray hdepths hstream
  have hused : (used ⟨ts, 0, e, none⟩ t).length = ts'.length := by
    have hall := (Forward.onward hrun).rest_eq
    rw [hrest, List.append_nil] at hall
    rw [← hall, ← length_placelessAll, ← hts, length_placelessAll]
  have hread : ReadsArguments depth' e' ts' args' :=
    ⟨_, hrun', rfl, by rw [behind, hused]; exact List.drop_length⟩
  refine ⟨args', hread, Separated.eq_of_length hread.separated.placeless ?_ ?_⟩
  · rw [hts]
    exact hseparated.placeless
  · have hlengths := length_tokens_of_like hlike
    simp only [List.map_map, Function.comp_def, length_placelessAll] at hlengths ⊢
    exact hlengths.symm

end Arguments

/-! ## Trees of the scripts -/

theorem parseTokens_of_run {α : Type} {p : Grammar → Parser α} {ending : Position} {ts : List Token}
    {a : α} {t : Stream} (h : p (.forTokens ts) ⟨ts, 0, ending, none⟩ = .ok (a, t))
    (hstray : t.stray = none) (hrest : t.rest = []) : parseTokens p ending ts = .ok a := by
  simp only [parseTokens, h, hstray, hrest]

theorem parseFile_eq {text : String} {ts : List Token} (h : tokenize (fileContent text.toList) = .ok ts) :
    parseFile text = parseTokens fileProduction .start ts := by
  rw [parseFile, parseText, h]
  rfl

section Trees

variable {text : String} {rooted : Bool} {segs : List String} {us args w ts : List Token}
  {a b p q o c o' c' m : Span} (htext : tokenize (fileContent text.toList) = .ok ts)
  (h : PathTokens rooted segs us) (hsegs : ∀ x ∈ segs, IsSegment x) (hlength : 2 ≤ segs.length)
  (hw : CallEnd w)

include htext h hsegs hlength hw

/-- A script that calls a function is read only if the arguments are. -/
theorem readsArguments_of_parseFile
    (hts : ts = entryTokens a b p q o c (us ++ .group .paren o' c' args :: w)) {file : File}
    (hfile : parseFile text = .ok file) :
    ∃ nodes, ReadsArguments (argumentDepth ts) c'.start args nodes := by
  rw [parseFile_eq htext] at hfile
  obtain ⟨t, hrun, hstray, hrest⟩ := run_of_parseTokens hfile
  obtain ⟨whole, block, statement, call, callee, hcall⟩ := run_file_call h hsegs hlength hw hts
  rw [hcall] at hrun
  cases hargs : commaList ((ofDepth (argumentDepth ts)).expr true) ⟨args, 0, c'.start, none⟩ with
  | error f =>
      rw [hargs] at hrun
      cases hrun
  | ok r =>
      rw [hargs] at hrun
      cases hrun
      exact ⟨r.1, r.2, hargs, leftover_eq_none.mp hstray⟩

/-- If the arguments are read, a script that calls a function is the call of them. -/
theorem parseFile_function
    (hts : ts = entryTokens a b p q o c (us ++ .group .paren o' c' args :: w)) {nodes : List Node}
    (hargs : ReadsArguments (argumentDepth ts) c'.start args nodes) :
    ∃ whole block statement call callee, parseFile text = .ok (entryTree whole block statement
      (.mk .call call (.mk (.path false segs) callee [] :: nodes))) := by
  obtain ⟨t, hrun, hstray, hrest⟩ := hargs
  obtain ⟨whole, block, statement, call, callee, hcall⟩ := run_file_call h hsegs hlength hw hts
  rw [hrun] at hcall
  refine ⟨whole, block, statement, call, callee, ?_⟩
  rw [parseFile_eq htext]
  exact parseTokens_of_run hcall (leftover_eq_none.mpr ⟨hstray, hrest⟩) rfl

/-- A script that calls a macro keeps the tokens of the arguments. -/
theorem parseFile_macro {d : Delimiter}
    (hts : ts = entryTokens a b p q o c (us ++ .punct '!' false m :: .group d o' c' args :: w)) :
    ∃ whole block statement call, parseFile text = .ok (entryTree whole block statement
      (.mk (.macroCall ⟨segs, d, c', args⟩) call [])) := by
  obtain ⟨whole, block, statement, call, hcall⟩ := run_file_macro h hsegs hlength hw hts
  refine ⟨whole, block, statement, call, ?_⟩
  rw [parseFile_eq htext]
  exact parseTokens_of_run hcall rfl rfl

end Trees

end Overlay.Source

namespace Overlay.Generate.Script

open Source

/-! ## What is extracted -/

/-- Of a script with one statement that is a call, the arguments of the call are extracted. -/
theorem extract_entryTree {script : SourceFile} {whole block statement : List Token} {value : Node}
    {call : Call} (htree : script.tree = entryTree whole block statement value)
    (hvalue : value.isAttribute = false) (hcall : callOf? value = some call) :
    (extract script).2 = (call.arguments script.path).map (.of script.tree) := by
  let main : Node := .mk (.functionDecl "main") whole
    [.mk .block block [.mk .statement statement [value]]]
  have hitems : script.tree.items = [] ++ main :: [] := by rw [htree]; rfl
  have hentry : (allNodes script.tree).find? isEntryPoint = some main := by
    rw [find?_allNodes hitems rfl, htree]
    rfl
  have hcalled : statementCall? (.mk .statement statement [value]) = some call := by
    show ([value].dropWhile Node.isAttribute).head?.bind callOf? = _
    rw [List.dropWhile_cons_of_neg (by rw [hvalue]; exact Bool.false_ne_true)]
    exact hcall
  have hstatements : statements main = [] ++ .mk .statement statement [value] :: [] := rfl
  exact extract_called hentry (List.cons_ne_nil _ _)
    (findSome?_last hstatements hcalled fun _ h => nomatch h)

/-- The arguments that are extracted: their numbers, and their tokens wherever these stand. -/
def Extraction.pieces (e : Extraction) : List (Nat × List Token) :=
  e.arguments.map fun a => (a.index, Token.placelessAll a.expr.tokens)

theorem pieces_of (file : File) (args : List Node) : (Extraction.of file args).pieces
    = ((args.map Node.tokens).map Token.placelessAll).mapIdx Prod.mk := by
  apply List.ext_getElem
  · simp [Extraction.pieces, Extraction.of]
  · intro i h h'
    simp [Extraction.pieces, Extraction.of]

section Forms

variable {script : SourceFile} {path text : String} {tree : File} {args : List Node}
  {whole block statement : List Token}

theorem extract_function {call callee : List Token} {segs : List String}
    (hsegs : isAggregationPath segs = true) (htree : tree = entryTree whole block statement
      (.mk .call call (.mk (.path false segs) callee [] :: args))) :
    (extract ⟨path, text, tree⟩).2 = .ok (.of tree args) := by
  have hcall : callOf? (.mk .call call (.mk (.path false segs) callee [] :: args))
      = some (.function args) := if_pos hsegs
  rw [extract_entryTree htree rfl hcall]
  rfl

theorem extract_macro {call : List Token} {c : MacroCall} (hpath : isAggregationPath c.path = true)
    (htree : tree = entryTree whole block statement (.mk (.macroCall c) call []))
    (hargs : c.arguments = .ok args) : (extract ⟨path, text, tree⟩).2 = .ok (.of tree args) := by
  have hcall : callOf? (.mk (.macroCall c) call []) = some (.macroCall c) := if_pos hpath
  rw [extract_entryTree htree rfl hcall, Call.arguments, hargs]
  rfl

end Forms

/-- The arguments of a call in a script are read at a depth that is enough. -/
theorem le_argumentDepth {all us args w : List Token} {a b p q o c o' c' : Span}
    (h : all = entryTokens a b p q o c (us ++ .group .paren o' c' args :: w)) :
    2 * Token.sizeAll args + 2 ≤ argumentDepth all := by
  rw [h, argumentDepth]
  simp only [entryTokens, Token.sizeAll, Token.size, Token.sizeAll_append]
  omega

theorem parse_of_parseFile {path text : String} {tree : File} (h : parseFile text = .ok tree) :
    SourceFile.parse path text = .ok ⟨path, text, tree⟩ := by
  rw [SourceFile.parse, h]

theorem parseFile_of_parse {path text : String} {script : SourceFile}
    (h : SourceFile.parse path text = .ok script) : parseFile text = .ok script.tree := by
  rw [SourceFile.parse] at h
  split at h
  · next tree htree =>
      cases h
      exact htree
  · cases h

/-- Tokens that are read as arguments somewhere are extracted as the same arguments from a script of
any form. -/
theorem extract_of_readsArguments {rooted : Bool} {segs : List String} {ts : List Token}
    (hsegs : ∀ x ∈ segs, IsSegment x) (hpath : isAggregationPath segs = true) {form : CallForm}
    {text : String} (htext : ReadsAs text (callScript form rooted segs ts)) {depth : Nat} {e : Position}
    {args : List Node} {ts₀ : List Token} (hargs : ReadsArguments depth e ts₀ args)
    (hdepth : 2 * Token.sizeAll ts₀ + 2 ≤ depth)
    (hts₀ : Token.placelessAll ts₀ = Token.placelessAll ts) (path : String) :
    ∃ script e, SourceFile.parse path text = .ok script ∧ (extract script).2 = .ok e ∧
      e.pieces = ((args.map Node.tokens).map Token.placelessAll).mapIdx Prod.mk := by
  have hlength : 2 ≤ segs.length := of_decide_eq_true (Bool.and_eq_true_iff.mp hpath).1
  have hne : segs ≠ [] := List.ne_nil_of_length_pos (Nat.lt_of_lt_of_le Nat.zero_lt_two hlength)
  obtain ⟨all, a, b, p, q, o, c, us, w, hread, hall, hus, htail⟩ := htext.shape hne
  cases htail with
  | @function o' c' m ts' hts =>
      obtain ⟨args', hargs', hsame⟩ := hargs.elsewhere hdepth (hts.trans hts₀.symm)
        (le_argumentDepth hall) c'.start
      obtain ⟨whole, block, statement, call, callee, htree⟩ :=
        parseFile_function hread hus hsegs hlength (.semicolon m) hall hargs'
      refine ⟨_, _, parse_of_parseFile htree, extract_function hpath rfl, ?_⟩
      rw [pieces_of, hsame]
  | @macroCall d m o' c' ts' w hts hw =>
      obtain ⟨args', hargs', hsame⟩ := hargs.elsewhere hdepth (hts.trans hts₀.symm)
        (Nat.add_le_add_left (by decide : 2 ≤ 8) (2 * Token.sizeAll ts')) c'.start
      obtain ⟨t, hrun, hstray, hrest⟩ := hargs'
      obtain ⟨whole, block, statement, call, htree⟩ :=
        parseFile_macro hread hus hsegs hlength hw hall
      refine ⟨_, _, parse_of_parseFile htree,
        extract_macro hpath rfl (parseTokens_of_run hrun hstray hrest), ?_⟩
      rw [pieces_of, hsame]

/-- The forms of the aggregation call are interchangeable: if the call of a function on some tokens is
read, then these are arguments with commas between them, and from a script in any of the forms
exactly these arguments are extracted. -/
theorem callForms_agree {rooted : Bool} {segs : List String} (hsegs : ∀ x ∈ segs, IsSegment x)
    (hlength : 2 ≤ segs.length) (hname : segs.getLast? = some "build_configs") {ts : List Token}
    {path text : String} (htext : ReadsAs text (callScript .function rooted segs ts))
    {script : SourceFile} (hscript : SourceFile.parse path text = .ok script) :
    ∃ pieces, Separated pieces (Token.placelessAll ts) ∧
      ∀ form path text, ReadsAs text (callScript form rooted segs ts) →
        ∃ script e, SourceFile.parse path text = .ok script ∧ (extract script).2 = .ok e ∧
          e.pieces = pieces.mapIdx Prod.mk := by
  have hpath : isAggregationPath segs = true := by
    rw [isAggregationPath, hname, Bool.and_eq_true]
    exact ⟨decide_eq_true hlength, rfl⟩
  have hne : segs ≠ [] := List.ne_nil_of_length_pos (Nat.lt_of_lt_of_le Nat.zero_lt_two hlength)
  obtain ⟨all, a, b, p, q, o, c, us, w, hread, hall, hus, htail⟩ := htext.shape hne
  cases htail with
  | @function o' c' m ts₀ hts₀ =>
      obtain ⟨args, hargs⟩ := readsArguments_of_parseFile hread hus hsegs hlength (.semicolon m) hall
        (parseFile_of_parse hscript)
      refine ⟨(args.map Node.tokens).map Token.placelessAll, ?_, fun form path text htext => ?_⟩
      · rw [← hts₀]
        exact hargs.separated.placeless
      · exact extract_of_readsArguments hsegs hpath htext hargs (le_argumentDepth hall) hts₀ path

/-- The tokens `A, &b.c(1),`: two arguments, and a comma behind the last one. -/
def twoArguments : List Token :=
  [.ident "A" Token.nowhere, .punct ',' false Token.nowhere, .punct '&' false Token.nowhere,
    .ident "b" Token.nowhere, .punct '.' false Token.nowhere, .ident "c" Token.nowhere,
    .group .paren Token.nowhere Token.nowhere [.literal "1" Token.nowhere],
    .punct ',' false Token.nowhere]

theorem callForms_agree_twoArguments :
    let reads (text : String) (form : CallForm) : Prop :=
      ReadsAs text (callScript form true ["layercfg", "build_configs"] twoArguments)
    reads "fn main() \x7b ::layercfg::build_configs(A, &b.c(1),); \x7d" .function ∧
    reads "fn main() \x7b ::layercfg::build_configs!(A, &b.c(1),); \x7d" (.macroCall .paren) ∧
    reads "fn main() \x7b ::layercfg::build_configs![A, &b.c(1),]; \x7d" (.macroCall .bracket) ∧
    reads "fn main() \x7b ::layercfg::build_configs!\x7bA, &b.c(1),\x7d \x7d" (.macroCall .brace) ∧
    ∃ pieces, Separated pieces (Token.placelessAll twoArguments) ∧
      ∀ form path text, reads text form →
        ∃ script e, SourceFile.parse path text = .ok script ∧ (extract script).2 = .ok e ∧
          e.pieces = pieces.mapIdx Prod.mk := by
  intro reads
  have hreads : reads "fn main() \x7b ::layercfg::build_configs(A, &b.c(1),); \x7d" .function :=
    .of_sameAll (by decide +kernel)
  have hparsed : (SourceFile.parse scriptName
      "fn main() \x7b ::layercfg::build_configs(A, &b.c(1),); \x7d").toOption.map (fun _ => ())
        = some () := by decide +kernel
  obtain ⟨script, hscript, -⟩ := parsed_of_map hparsed
  exact ⟨hreads, .of_sameAll (by decide +kernel), .of_sameAll (by decide +kernel),
    .of_sameAll (by decide +kernel), callForms_agree (by decide) (by decide) (by decide) hreads hscript⟩

end Overlay.Generate.Script
