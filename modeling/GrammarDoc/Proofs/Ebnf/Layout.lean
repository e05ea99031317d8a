import GrammarDoc.Proofs.Ebnf.Clauses
import GrammarDoc.Proofs.Term.Nodes
import GrammarDoc.Renderer
/-!
# The layout of EBNF documents

An EBNF document is one block of lines per production, in declaration order, so the
document of two lists of productions is the two documents one after the other.
`LaidOut` states the block of a production from the printed texts of its parts: a
body that is not a choice of several branches takes one line `name = text ;`; a choice
of several branches puts its first branch after `name = `, every further branch on a
line of `w` blanks and `| `, and closes with a line of `w` blanks and `;`, where `w` is
the number of characters of the name plus one. A branch on a line of its own is put in
parentheses exactly when, under its single-child wrappers, it is a sequence of at
least two items, since `a, b | c` would read as a sequence holding a choice.

When no name and no literal holds a line break, the printed texts hold none either, so
the lines of a block are exactly the pieces between its line feeds, and the `|` or `;`
of each continuation line stands in the column of the `=` of the first
(`AlignedAt`), columns counted in characters.

Main statement: `ebnf_blocks_align_under_equals`.
-/

namespace GrammarDoc

namespace Ebnf

/-- `n` blanks. -/
def blanks (n : ℕ) : String := String.ofList (List.replicate n ' ')

@[simp] theorem toList_blanks (n : ℕ) : (blanks n).toList = List.replicate n ' ' := by
  simp [blanks]

end Ebnf

open Ebnf

namespace Term

/-- Whether a term is a sequence of at least two items. -/
def isLongSequence : Term → Bool
  | .sequence (_ :: _ :: _) => true
  | _ => false

/-- The text of a branch on a line of its own, from its printed text: in parentheses
exactly when the branch, under its single-child wrappers, is a sequence of at least two
items. -/
def branchText (b : Term) (text : String) : String :=
  if b.unwrap.isLongSequence then "(" ++ text ++ ")" else text

/-- The text a node writes of its own: a literal's text or a reference's name. -/
def ownText : Term → String
  | .literal text => text
  | .nonTerminal name => name
  | _ => ""

/-- A branch on a line of its own is its printed text, bracketed as `branchText` says. -/
theorem renderBranch_eq (t : Term) : t.renderBranch = t.branchText <$> t.render := by
  unfold renderBranch branchText
  cases t.render with
  | error e => rfl
  | ok text =>
    show (match t.unwrap with
      | .sequence (_ :: _ :: _) => pure ("(" ++ text ++ ")")
      | _ => pure text) = Except.ok _
    split <;> simp_all [isLongSequence]

end Term

/-- The block the layout rules give a production named `name` with the given body. -/
def LaidOut (name : String) : Term → String → Prop
  | .choice (first :: second :: rest), block =>
    ∃ r lines, first.render = .ok r ∧
      List.Forall₂ (fun b row => ∃ r, b.render = .ok r ∧
        row = blanks (name.length + 1) ++ "| " ++ b.branchText r ++ "\n") (second :: rest) lines ∧
      block = name ++ " = " ++ first.branchText r ++ "\n" ++ String.join lines ++
        blanks (name.length + 1) ++ ";\n"
  | body, block => ∃ r, body.render = .ok r ∧ block = name ++ " = " ++ r ++ " ;\n"

/-- The lines of a block stand under its first: the first line has `=` at column `w`,
and every further line has `w` blanks and then `|` or `;`. The lines are the pieces
between line feeds; the block ends with one, so the last piece is empty. -/
def AlignedAt (w : ℕ) (block : String) : Prop :=
  ∃ first rest, block.toList.splitOn '\n' = first :: rest ++ [[]] ∧ first[w]? = some '=' ∧
    ∀ row ∈ rest, row.take w = List.replicate w ' ' ∧
      (row[w]? = some '|' ∨ row[w]? = some ';')

/-! ### The blocks of productions -/

namespace Production

variable {name : String} {body : Term} {block : String}

/-- A body of one alternative is written on the line of its name. -/
theorem toEbnf_of_branches_single {b : Term} (hb : body.branches = [b])
    (h : (⟨name, body⟩ : Production).toEbnf = .ok block) :
    ∃ r, b.render = .ok r ∧ block = name ++ " = " ++ r ++ " ;\n" := by
  unfold toEbnf at h
  rw [hb] at h
  obtain ⟨r, hr, h⟩ := bind_eq_ok.1 h
  cases h
  exact ⟨r, hr, rfl⟩

/-- A body of several alternatives is written one alternative per line. -/
theorem toEbnf_of_branches_cons {first second : Term} {rest : List Term}
    (hb : body.branches = first :: second :: rest)
    (h : (⟨name, body⟩ : Production).toEbnf = .ok block) :
    ∃ r lines, first.render = .ok r ∧
      List.Forall₂ (fun b row => ∃ r, b.render = .ok r ∧
        row = blanks (name.length + 1) ++ "| " ++ b.branchText r ++ "\n") (second :: rest) lines ∧
      block = name ++ " = " ++ first.branchText r ++ "\n" ++ String.join lines ++
        blanks (name.length + 1) ++ ";\n" := by
  unfold toEbnf at h
  rw [hb] at h
  obtain ⟨head, hhead, h⟩ := bind_eq_ok.1 h
  obtain ⟨lines, hlines, h⟩ := bind_eq_ok.1 h
  cases h
  rw [Term.renderBranch_eq] at hhead
  obtain ⟨r, hr, rfl⟩ := map_eq_ok.1 hhead
  refine ⟨r, lines, hr, (mapM_eq_ok.1 hlines).imp fun b row hbl => ?_, rfl⟩
  -- each further line is the branch's bracketed text after the blanks and the bar
  obtain ⟨rb, hrb, hpure⟩ := bind_eq_ok.1 hbl
  cases hpure
  rw [Term.renderBranch_eq] at hrb
  obtain ⟨r', hr', rfl⟩ := map_eq_ok.1 hrb
  exact ⟨r', hr', rfl⟩

/-- **The block of a production is laid out by the rules**, whenever it is written. -/
theorem toEbnf_laidOut {p : Production} (h : p.toEbnf = .ok block) :
    LaidOut p.name p.body block := by
  obtain ⟨name, body⟩ := p
  match body with
  | .choice (first :: second :: rest) => exact toEbnf_of_branches_cons rfl h
  | .choice [b] =>
    -- a choice of one branch is printed as that branch
    obtain ⟨r, hr, rfl⟩ := toEbnf_of_branches_single (show (Term.choice [b]).branches = [b] from rfl) h
    exact ⟨r, hr, rfl⟩
  | .choice [] => cases h
  | .literal _ => exact toEbnf_of_branches_single rfl h
  | .nonTerminal _ => exact toEbnf_of_branches_single rfl h
  | .sequence _ => exact toEbnf_of_branches_single rfl h
  | .repetition .. => exact toEbnf_of_branches_single rfl h

end Production

/-! ### Printed text without line breaks -/

section Breaks

/-- Text joined with a separator holds a character only if the separator or a piece
does. -/
theorem not_mem_intercalate {c : Char} {sep : String} (hsep : c ∉ sep.toList) :
    ∀ {xs : List String}, (∀ x ∈ xs, c ∉ x.toList) → c ∉ (sep.intercalate xs).toList
  | [], _ => by simp
  | [x], h => by
    rw [String.intercalate_singleton]
    exact h x List.mem_cons_self
  | x :: y :: rest, h => by
    rw [String.intercalate_cons_cons, String.toList_append, String.toList_append]
    simp only [List.mem_append, not_or]
    exact ⟨⟨h x List.mem_cons_self, hsep⟩,
      not_mem_intercalate hsep fun z hz => h z (List.mem_cons_of_mem x hz)⟩

/-- A count is written in decimal digits. -/
theorem newline_not_mem_toDigits (n : ℕ) : '\n' ∉ Nat.toDigits 10 n := fun hmem =>
  absurd (Nat.isDigit_of_mem_toDigits (by decide) (by decide) hmem) (by decide)

theorem newline_not_mem_at {o : Operand} (h : '\n' ∉ o.text.toList) (level : Precedence) :
    '\n' ∉ (o.at level).toList := by
  unfold Operand.at
  split <;> simp [h]

theorem newline_not_mem_quote {text q : String} (h : '\n' ∉ text.toList)
    (hq : quote text = .ok q) : '\n' ∉ q.toList := by
  unfold quote at hq
  split at hq
  · cases hq
    simp [h]
  · split at hq
    · cases hq
      simp [h]
    · cases hq

/-- Every clause form writes the body's text and line-free marks and counts. -/
theorem ClauseForm.newline_not_mem_operand {body : Operand} (h : '\n' ∉ body.text.toList) :
    ∀ f : ClauseForm, '\n' ∉ (f.operand body).text.toList
  | .star => by simp [ClauseForm.operand, h]
  | .opt => by simp [ClauseForm.operand, h]
  | .upTo k => by simp [ClauseForm.operand, h, newline_not_mem_toDigits]
  | .once => h
  | .times k => by
    simp only [ClauseForm.operand, String.toList_append, List.mem_append, not_or, Nat.toList_repr]
    refine ⟨⟨newline_not_mem_toDigits k, by simp⟩, ?_⟩
    split <;> simp [h]

/-- The clauses of a repetition hold no line break that the body does not. -/
theorem newline_not_mem_clauses {min : UInt64} {max : Option UInt64} {body : Operand}
    {cs : List Operand} (hc : clauses min max body = .ok cs) (h : '\n' ∉ body.text.toList) :
    ∀ c ∈ cs, '\n' ∉ c.text.toList := by
  -- clauses that were written come from bounds that are not refused
  have hacc : ¬ ((∃ m, max = some m ∧ m < min) ∨ (min = 0 ∧ max = some 0)) := fun hr => by
    obtain ⟨e, he⟩ := clauses_refused body hr
    rw [hc] at he
    cases he
  obtain ⟨forms, hforms, -⟩ := clauses_accepted body hacc
  rw [hc] at hforms
  cases hforms
  intro c hcm
  obtain ⟨f, -, rfl⟩ := List.mem_map.1 hcm
  exact ClauseForm.newline_not_mem_operand h f

variable {t : Term}

theorem newline_free_of_mem_children {c : Term} (h : ∀ s ∈ t.nodes, '\n' ∉ s.ownText.toList)
    (hc : c ∈ t.children) : ∀ s ∈ c.nodes, '\n' ∉ s.ownText.toList :=
  fun s hs => h s (Term.nodes_subset_of_mem_children hc hs)

mutual

/-- **Printed text holds no line break unless a literal or a name does.** -/
theorem newline_not_mem_print :
    ∀ t : Term, (∀ s ∈ t.nodes, '\n' ∉ s.ownText.toList) →
      ∀ {o : Operand}, t.print = .ok o → '\n' ∉ o.text.toList
  | .literal text, h, o, hp => by
    obtain ⟨q, hq, hp⟩ := bind_eq_ok.1 hp
    cases hp
    exact newline_not_mem_quote (h _ (Term.mem_nodes_self _)) hq
  | .nonTerminal name, h, o, hp => by
    cases hp
    exact h _ (Term.mem_nodes_self _)
  | .sequence [], _, o, hp => by cases hp
  | .choice [], _, o, hp => by cases hp
  | .sequence [item], h, o, hp =>
    newline_not_mem_print item (newline_free_of_mem_children h (by simp [Term.children])) hp
  | .choice [branch], h, o, hp =>
    newline_not_mem_print branch (newline_free_of_mem_children h (by simp [Term.children])) hp
  | .sequence (a :: b :: rest), h, o, hp => by
    obtain ⟨ops, hops, hp⟩ := bind_eq_ok.1 hp
    cases hp
    have hall := newline_not_mem_printAll (a :: b :: rest)
      (fun u hu => newline_free_of_mem_children h hu) hops
    exact not_mem_intercalate (by simp) (List.forall_mem_map.2 fun op hop =>
      newline_not_mem_at (hall op hop) .sequence)
  | .choice (a :: b :: rest), h, o, hp => by
    obtain ⟨ops, hops, hp⟩ := bind_eq_ok.1 hp
    cases hp
    have hall := newline_not_mem_printAll (a :: b :: rest)
      (fun u hu => newline_free_of_mem_children h hu) hops
    have hjoin := not_mem_intercalate (show '\n' ∉ " | ".toList by simp) (List.forall_mem_map.2 hall)
    simp only [String.toList_append, List.mem_append, not_or]
    exact ⟨⟨by simp, hjoin⟩, by simp⟩
  | .repetition min max body, h, o, hp => by
    obtain ⟨op, hop, hp⟩ := bind_eq_ok.1 hp
    obtain ⟨cs, hcs, hp⟩ := bind_eq_ok.1 hp
    have hbody := newline_not_mem_print body
      (newline_free_of_mem_children h (by simp [Term.children])) hop
    have hclauses := newline_not_mem_clauses hcs hbody
    -- one clause stands alone; two are joined by a comma
    split at hp
    · cases hp
      exact hclauses _ List.mem_cons_self
    · cases hp
      exact not_mem_intercalate (by simp) (List.forall_mem_map.2 hclauses)

theorem newline_not_mem_printAll :
    ∀ ts : List Term, (∀ t ∈ ts, ∀ s ∈ t.nodes, '\n' ∉ s.ownText.toList) →
      ∀ {os : List Operand}, Term.printAll ts = .ok os → ∀ o ∈ os, '\n' ∉ o.text.toList
  | [], _, os, hp => by
    cases hp
    simp
  | t :: ts, h, os, hp => by
    obtain ⟨o, ho, hp⟩ := bind_eq_ok.1 hp
    obtain ⟨os', hos, hp⟩ := bind_eq_ok.1 hp
    cases hp
    intro o' ho'
    rcases List.mem_cons.1 ho' with rfl | ho'
    · exact newline_not_mem_print t (h t List.mem_cons_self) ho
    · exact newline_not_mem_printAll ts (fun u hu => h u (List.mem_cons_of_mem t hu)) hos o' ho'

end

theorem newline_not_mem_render {r : String} (h : ∀ s ∈ t.nodes, '\n' ∉ s.ownText.toList)
    (hr : t.render = .ok r) : '\n' ∉ r.toList := by
  obtain ⟨o, ho, rfl⟩ := map_eq_ok.1 hr
  exact newline_not_mem_print t h ho

theorem newline_not_mem_branchText {r : String} (h : '\n' ∉ r.toList) :
    '\n' ∉ (t.branchText r).toList := by
  unfold Term.branchText
  split <;> simp [h]

end Breaks

/-! ### Lines and columns -/

section Lines

/-- Lines written one after another, each followed by a line feed. -/
def linesText (ls : List (List Char)) : List Char := (ls.map (· ++ ['\n'])).flatten

@[simp] theorem linesText_nil : linesText [] = [] := rfl

@[simp] theorem linesText_cons (l : List Char) (ls : List (List Char)) :
    linesText (l :: ls) = l ++ '\n' :: linesText ls := by
  simp [linesText]

theorem linesText_append (ls ls' : List (List Char)) :
    linesText (ls ++ ls') = linesText ls ++ linesText ls' := by
  simp [linesText]

/-- Lines each followed by a line feed are the lines joined by line feeds, with an empty
line after the last. -/
theorem linesText_eq_intercalate :
    ∀ ls : List (List Char), linesText ls = ['\n'].intercalate (ls ++ [[]])
  | [] => rfl
  | l :: ls => by
    obtain ⟨l', zs, hz⟩ := List.exists_cons_of_ne_nil
      (List.append_ne_nil_of_right_ne_nil ls (List.cons_ne_nil ([] : List Char) []))
    rw [List.cons_append, hz, List.intercalate_cons_cons, ← hz, ← linesText_eq_intercalate ls,
      linesText_cons]
    simp

/-- **The pieces between the line feeds of written lines are the lines**, and an empty
piece after the last, if no line holds a line feed. -/
theorem splitOn_linesText {ls : List (List Char)} (h : ∀ l ∈ ls, '\n' ∉ l) :
    (linesText ls).splitOn '\n' = ls ++ [[]] := by
  rw [linesText_eq_intercalate]
  refine List.splitOn_intercalate '\n' (fun l hl => ?_) (by simp)
  rcases List.mem_append.1 hl with hl | hl
  · exact h l hl
  · rw [List.mem_singleton.1 hl]
    exact List.not_mem_nil

/-- The `=` after a name stands at the column of the name's length plus one. -/
theorem lead_getElem (name rest : String) :
    (name ++ " = " ++ rest).toList[name.length + 1]? = some '=' := by
  rw [String.toList_append, String.toList_append, List.append_assoc,
    List.getElem?_append_right (by simp [String.length_toList])]
  simp [String.length_toList]

/-- A line of `w` blanks and then a mark has the mark at column `w`. -/
theorem blank_line_column (w : ℕ) (c : Char) (rest : List Char) :
    (List.replicate w ' ' ++ c :: rest).take w = List.replicate w ' ' ∧
      (List.replicate w ' ' ++ c :: rest)[w]? = some c := by
  refine ⟨List.take_left' (List.length_replicate ..), ?_⟩
  rw [List.getElem?_append_right (by simp)]
  simp

/-- The lines of the further branches: each is `w` blanks, a bar and the branch. -/
theorem branch_lines {w : ℕ} :
    ∀ {bs : List Term} {lines : List String},
      List.Forall₂ (fun b row => ∃ r, b.render = .ok r ∧
        row = blanks w ++ "| " ++ b.branchText r ++ "\n") bs lines →
      (∀ b ∈ bs, ∀ s ∈ b.nodes, '\n' ∉ s.ownText.toList) →
      ∃ cs, (String.join lines).toList = linesText cs ∧
        ∀ l ∈ cs, '\n' ∉ l ∧ l.take w = List.replicate w ' ' ∧ l[w]? = some '|'
  | [], [], .nil, _ => ⟨[], rfl, by simp⟩
  | b :: bs, row :: lines, .cons ⟨r, hr, hline⟩ hrest, h => by
    obtain ⟨cs, hcs, hall⟩ := branch_lines hrest fun u hu => h u (List.mem_cons_of_mem b hu)
    have hbreak : '\n' ∉ (b.branchText r).toList :=
      newline_not_mem_branchText (newline_not_mem_render (h b List.mem_cons_self) hr)
    have hcol := blank_line_column w '|' (' ' :: (b.branchText r).toList)
    refine ⟨(List.replicate w ' ' ++ '|' :: ' ' :: (b.branchText r).toList) :: cs, ?_, ?_⟩
    · rw [String.join_cons, String.toList_append, hcs, hline, linesText_cons]
      simp
    · intro c hc
      rcases List.mem_cons.1 hc with rfl | hc
      · exact ⟨by simp [hbreak], hcol⟩
      · exact hall c hc

/-- A block of one line has its `=` at the column after the name and a blank. -/
theorem alignedAt_single {name r : String} (hname : '\n' ∉ name.toList)
    (hr : '\n' ∉ r.toList) : AlignedAt (name.length + 1) (name ++ " = " ++ r ++ " ;\n") := by
  have htext : (name ++ " = " ++ r ++ " ;\n").toList = linesText [(name ++ " = " ++ (r ++ " ;")).toList] := by
    simp
  refine ⟨(name ++ " = " ++ (r ++ " ;")).toList, [], ?_, lead_getElem name _, by simp⟩
  rw [htext, splitOn_linesText (by simp [hname, hr])]

/-- A block of several lines: the first after the name and `=`, then the lines of the
further branches and the closing line, all with their mark at the column of `=`. -/
theorem alignedAt_lines {name head joined : String} {cs : List (List Char)}
    (hname : '\n' ∉ name.toList) (hhead : '\n' ∉ head.toList)
    (hjoined : joined.toList = linesText cs)
    (hcs : ∀ l ∈ cs, '\n' ∉ l ∧ l.take (name.length + 1) = List.replicate (name.length + 1) ' ' ∧
      l[name.length + 1]? = some '|') :
    AlignedAt (name.length + 1)
      (name ++ " = " ++ head ++ "\n" ++ joined ++ blanks (name.length + 1) ++ ";\n") := by
  have hclose := blank_line_column (name.length + 1) ';' []
  have htext : (name ++ " = " ++ head ++ "\n" ++ joined ++ blanks (name.length + 1) ++ ";\n").toList =
      linesText ((name ++ " = " ++ head).toList ::
        (cs ++ [List.replicate (name.length + 1) ' ' ++ [';']])) := by
    simp [linesText_append, ← hjoined]
  refine ⟨(name ++ " = " ++ head).toList, cs ++ [List.replicate (name.length + 1) ' ' ++ [';']],
    ?_, lead_getElem name head, ?_⟩
  · rw [htext, splitOn_linesText]
    intro l hl
    rcases List.mem_cons.1 hl with rfl | hl
    · simp [hname, hhead]
    rcases List.mem_append.1 hl with hl | hl
    · exact (hcs l hl).1
    · rw [List.mem_singleton.1 hl]
      simp
  · intro row hl
    rcases List.mem_append.1 hl with hl | hl
    · exact ⟨(hcs row hl).2.1, .inl (hcs row hl).2.2⟩
    · rw [List.mem_singleton.1 hl]
      exact ⟨hclose.1, .inr hclose.2⟩

/-- **A block laid out by the rules has its bars and its closing `;` under its `=`**, when
neither the name nor a literal or reference of the body holds a line break. -/
theorem LaidOut.alignedAt {name : String} {body : Term} {block : String}
    (h : LaidOut name body block) (hname : '\n' ∉ name.toList)
    (hbody : ∀ s ∈ body.nodes, '\n' ∉ s.ownText.toList) :
    AlignedAt (name.length + 1) block := by
  match body, h with
  | .choice (first :: second :: rest), ⟨r, lines, hr, hlines, hblock⟩ =>
    have hfree : ∀ b ∈ first :: second :: rest, ∀ s ∈ b.nodes, '\n' ∉ s.ownText.toList :=
      fun b hb => newline_free_of_mem_children hbody hb
    obtain ⟨cs, hcs, hall⟩ := branch_lines hlines fun b hb =>
      hfree b (List.mem_cons_of_mem first hb)
    rw [hblock]
    exact alignedAt_lines hname
      (newline_not_mem_branchText (newline_not_mem_render (hfree first List.mem_cons_self) hr))
      hcs hall
  | .choice [], ⟨r, hr, hblock⟩ | .choice [_], ⟨r, hr, hblock⟩ | .literal _, ⟨r, hr, hblock⟩
  | .nonTerminal _, ⟨r, hr, hblock⟩ | .sequence _, ⟨r, hr, hblock⟩
  | .repetition .., ⟨r, hr, hblock⟩ =>
    rw [hblock]
    exact alignedAt_single hname (newline_not_mem_render hbody hr)

end Lines

/-! ### Documents -/

namespace Grammar

theorem toEbnf_nil : (⟨[]⟩ : Grammar).toEbnf = .ok "" := rfl

/-- The document of two lists of productions is the two documents one after the other. -/
theorem toEbnf_append (ps qs : List Production) :
    (⟨ps ++ qs⟩ : Grammar).toEbnf =
      (do let a ← (⟨ps⟩ : Grammar).toEbnf; let b ← (⟨qs⟩ : Grammar).toEbnf; pure (a ++ b)) := by
  unfold toEbnf
  rw [List.mapM_append]
  cases ps.mapM Production.toEbnf <;> cases qs.mapM Production.toEbnf <;>
    simp [String.join_append]

/-- A written document is the blocks of its productions, in order. -/
theorem toEbnf_eq_ok {g : Grammar} {text : String} (h : g.toEbnf = .ok text) :
    ∃ blocks, List.Forall₂ (fun p block => p.toEbnf = .ok block) g.productions blocks ∧
      text = String.join blocks := by
  obtain ⟨blocks, hblocks, h⟩ := bind_eq_ok.1 h
  cases h
  exact ⟨blocks, mapM_eq_ok.1 hblocks, rfl⟩

end Grammar

/-- **EBNF layout: one block per production, continuation lines aligned under `=`.** The
document of no production is empty, and the document of two lists of productions is the
two documents one after the other. A written document is one block per production in
declaration order, each laid out by the rules of `LaidOut`; and when neither the
production's name nor any literal or reference in its body holds a line break, the `|`
or `;` that starts each further line of the block stands in the column of the `=` of
its first line, columns counted in characters. -/
theorem ebnf_blocks_align_under_equals :
    Renderer.render .ebnf ⟨[]⟩ = .ok "" ∧
    (∀ ps qs : List Production, Renderer.render .ebnf ⟨ps ++ qs⟩ =
      (do let a ← Renderer.render .ebnf ⟨ps⟩; let b ← Renderer.render .ebnf ⟨qs⟩; pure (a ++ b))) ∧
    ∀ (g : Grammar) (text : String), Renderer.render .ebnf g = .ok text →
      ∃ blocks, text = String.join blocks ∧
        List.Forall₂ (fun p block => LaidOut p.name p.body block ∧
          ('\n' ∉ p.name.toList → (∀ s ∈ p.body.nodes, '\n' ∉ s.ownText.toList) →
            AlignedAt (p.name.length + 1) block)) g.productions blocks := by
  refine ⟨Grammar.toEbnf_nil, Grammar.toEbnf_append, fun g text h => ?_⟩
  obtain ⟨blocks, hblocks, rfl⟩ := Grammar.toEbnf_eq_ok h
  refine ⟨blocks, rfl, hblocks.imp fun p block hp => ?_⟩
  have hlaid := Production.toEbnf_laidOut hp
  exact ⟨hlaid, fun hname hbody => hlaid.alignedAt hname hbody⟩

/-- An item that is `x` or the sequence `a, b`: the second branch goes on a line of its
own, in parentheses, with its bar under the `=`, and so does the closing `;`. -/
theorem item_choice_aligns_under_equals :
    Renderer.render .ebnf ⟨[⟨"item", .choice [.nonTerminal "x",
        .sequence [.nonTerminal "a", .nonTerminal "b"]]⟩]⟩ =
      .ok "item = x\n     | (a, b)\n     ;\n" ∧
    AlignedAt 5 "item = x\n     | (a, b)\n     ;\n" := by
  have hrender : Renderer.render .ebnf ⟨[⟨"item", .choice [.nonTerminal "x",
      .sequence [.nonTerminal "a", .nonTerminal "b"]]⟩]⟩ =
      .ok "item = x\n     | (a, b)\n     ;\n" := by
    decide +kernel
  obtain ⟨blocks, htext, hfor⟩ := ebnf_blocks_align_under_equals.2.2 _ _ hrender
  cases hfor with
  | cons hp hrest =>
    cases hrest
    refine ⟨hrender, ?_⟩
    rw [htext, String.join_cons, String.join_nil, String.append_empty]
    exact hp.2 (by decide) (by decide)

end GrammarDoc
