import GrammarDoc.Proofs.Term.Language
/-!
# ISO 14977 syntax

The syntax that EBNF text is read under, and what it means.

A text is first split into tokens (`lex`): blanks and line breaks between tokens
are skipped; a terminal is the text between two equal quotes, `'` or `"`, that holds
no such quote, and may be empty; a word is a maximal run of letters, digits and
underscores; each of `= | , * ; ( ) [ ] { }` is a mark on its own. Any other
character outside a terminal is refused. `Spells cs ts` says the same from the side
of the tokens: `cs` is `ts` written out, with blanks where they may stand.

A word of digits only is a count and a word that does not start with a digit is a
meta-identifier. `Derives` is the grammar of expressions: `|` binds loosest, then
`,`, then `k *`; a primary is a terminal, a meta-identifier, or an expression in
`( )`, `[ ]` or `{ }`. A document is a list of rules `N = E ;` (`DerivesRules`).

`Expr.lang` gives the meaning over the atoms of `Term.lang`: a terminal or a
meta-identifier is the word of its one atom, `[E]` is `E` or nothing, `{E}` any
number of `E`, and `k * P` exactly `k` of `P`.
-/

namespace GrammarDoc

namespace Ebnf

/-! ### Tokens -/

/-- Letters, digits and the underscore: the characters of a word. -/
def isWordChar (c : Char) : Bool := c.isAlphanum || c == '_'

/-- The characters skipped between tokens. -/
def isBlank (c : Char) : Bool := c == ' ' || c == '\n' || c == '\t' || c == '\r'

/-- The characters that are tokens on their own. -/
def isMark (c : Char) : Bool :=
  ['=', '|', ',', '*', ';', '(', ')', '[', ']', '{', '}'].contains c

/-- The characters that open and close a terminal. -/
def isQuote (c : Char) : Bool := c == '"' || c == '\''

/-- A token of EBNF text. -/
inductive Token where
  /-- A terminal: the text between its quotes. -/
  | terminal (text : String)
  /-- A maximal run of letters, digits and underscores. -/
  | word (text : String)
  /-- One of the characters that stand alone. -/
  | mark (c : Char)
  deriving DecidableEq, Repr

/-- Where the lexer stands between two characters. -/
inductive LexState where
  /-- Between tokens. -/
  | between
  /-- Inside a word; its characters so far, last first. -/
  | word (rev : List Char)
  /-- Inside a terminal opened by `quote`; its characters so far, last first. -/
  | quoted (quote : Char) (rev : List Char)
  deriving DecidableEq, Repr

/-- What a character read between tokens starts: nothing for a blank, a terminal at
a quote, a word at a word character, a mark at a mark. -/
def begin (c : Char) : Option (List Token × LexState) :=
  if isBlank c then some ([], .between)
  else if isQuote c then some ([], .quoted c [])
  else if isWordChar c then some ([], .word [c])
  else if isMark c then some ([.mark c], .between)
  else none

/-- Reading one character: the tokens it completes, and where the lexer then stands.
A character that cannot continue a word ends it and is read as between tokens. -/
def lexChar : LexState → Char → Option (List Token × LexState)
  | .between, c => begin c
  | .word rev, c =>
    if isWordChar c then some ([], .word (c :: rev))
    else (begin c).map fun (ts, s) => (.word (String.ofList rev.reverse) :: ts, s)
  | .quoted q rev, c =>
    if c = q then some ([.terminal (String.ofList rev.reverse)], .between)
    else some ([], .quoted q (c :: rev))

/-- The tokens left open at the end of the text: a word is complete, a terminal is
not. -/
def finish : LexState → Option (List Token)
  | .between => some []
  | .word rev => some [.word (String.ofList rev.reverse)]
  | .quoted _ _ => none

/-- The tokens of the rest of a text, read from a state. -/
def lexFrom : LexState → List Char → Option (List Token)
  | s, [] => finish s
  | s, c :: cs => do
    let (ts, s') ← lexChar s c
    let rest ← lexFrom s' cs
    pure (ts ++ rest)

/-- The tokens of a text, or none if it cannot be split into tokens. -/
def lex (cs : List Char) : Option (List Token) := lexFrom .between cs

/-- `cs` is the tokens `ts` written out: blanks between tokens, a terminal between
equal quotes that it does not contain, a word of word characters that the next
character does not continue, and a mark as itself. -/
inductive Spells : List Char → List Token → Prop
  | nil : Spells [] []
  | blank {c cs ts} : isBlank c = true → Spells cs ts → Spells (c :: cs) ts
  | mark {c cs ts} : isMark c = true → Spells cs ts → Spells (c :: cs) (.mark c :: ts)
  | terminal {q cs ts} (s : List Char) : isQuote q = true → q ∉ s → Spells cs ts →
      Spells (q :: (s ++ q :: cs)) (.terminal (String.ofList s) :: ts)
  | word {cs ts} (w : List Char) : w ≠ [] → (∀ c ∈ w, isWordChar c = true) →
      (∀ c ∈ cs.head?, isWordChar c = false) → Spells cs ts →
      Spells (w ++ cs) (.word (String.ofList w) :: ts)

/-- Writing `a` and then `b` puts no word character right after another. -/
def Separated (a b : List Char) : Prop :=
  ∀ x ∈ a.getLast?, ∀ y ∈ b.head?, isWordChar x = true → isWordChar y = false

theorem separated_of_head {a b : List Char} (h : ∀ y ∈ b.head?, isWordChar y = false) :
    Separated a b :=
  fun _ _ y hy _ => h y hy

theorem Separated.of_append_left {p a b : List Char} (h : Separated (p ++ a) b) :
    Separated a b := by
  intro x hx y hy hw
  have hne : a ≠ [] := by
    rintro rfl
    simp at hx
  exact h x (by rw [List.getLast?_append_of_ne_nil _ hne]; exact hx) y hy hw

/-! ### Reading tokens -/

section Lexing

theorem isBlank_of_isQuote {c : Char} (h : isQuote c = true) : isBlank c = false := by
  simp only [isQuote, Bool.or_eq_true, beq_iff_eq] at h
  rcases h with rfl | rfl <;> rfl

theorem isWordChar_of_isQuote {c : Char} (h : isQuote c = true) : isWordChar c = false := by
  simp only [isQuote, Bool.or_eq_true, beq_iff_eq] at h
  rcases h with rfl | rfl <;> rfl

theorem isBlank_of_isWordChar {c : Char} (h : isWordChar c = true) : isBlank c = false := by
  cases hb : isBlank c
  · rfl
  · simp only [isBlank, Bool.or_eq_true, beq_iff_eq] at hb
    rcases hb with ((rfl | rfl) | rfl) | rfl <;> simp [isWordChar] at h

theorem isQuote_of_isWordChar {c : Char} (h : isWordChar c = true) : isQuote c = false := by
  cases hq : isQuote c
  · rfl
  · exact absurd h (by simp [isWordChar_of_isQuote hq])

theorem not_isBlank_of_isMark {c : Char} (h : isMark c = true) :
    isBlank c = false ∧ isQuote c = false ∧ isWordChar c = false := by
  simp only [isMark, List.contains_eq_mem, List.mem_cons, List.not_mem_nil, or_false,
    decide_eq_true_eq] at h
  rcases h with rfl | rfl | rfl | rfl | rfl | rfl | rfl | rfl | rfl | rfl | rfl <;> decide

theorem begin_of_isWordChar {c : Char} (h : isWordChar c = true) :
    begin c = some ([], .word [c]) := by
  simp [begin, isBlank_of_isWordChar h, isQuote_of_isWordChar h, h]

theorem lexFrom_cons (s : LexState) (c : Char) (cs : List Char) :
    lexFrom s (c :: cs) = (lexChar s c).bind fun r => (lexFrom r.2 cs).map (r.1 ++ ·) := by
  rw [lexFrom]
  cases lexChar s c with
  | none => rfl
  | some r =>
    show (lexFrom r.2 cs).bind (fun rest => some (r.1 ++ rest)) = (lexFrom r.2 cs).map (r.1 ++ ·)
    cases lexFrom r.2 cs <;> rfl

/-- A character that ends no word is read as if between tokens. -/
theorem lexFrom_word_end {rev cs : List Char} (h : ∀ c ∈ cs.head?, isWordChar c = false) :
    lexFrom (.word rev) cs = (.word (String.ofList rev.reverse) :: ·) <$> lexFrom .between cs := by
  match cs, h with
  | [], _ => rfl
  | c :: cs, h =>
    have hc : isWordChar c = false := h c rfl
    rw [lexFrom_cons, lexFrom_cons, lexChar, lexChar, if_neg (by simp [hc])]
    cases begin c with
    | none => rfl
    | some r =>
      obtain ⟨ts, s⟩ := r
      simp only [Option.map_some, Option.bind_some]
      cases lexFrom s cs <;> rfl

/-- Word characters go into the word. -/
theorem lexFrom_word {cs : List Char} :
    ∀ {rev w : List Char}, (∀ c ∈ w, isWordChar c = true) →
      lexFrom (.word rev) (w ++ cs) = lexFrom (.word (w.reverse ++ rev)) cs
  | _, [], _ => rfl
  | rev, c :: w, h => by
    have hc : isWordChar c = true := h c List.mem_cons_self
    rw [List.cons_append, lexFrom_cons, lexChar, if_pos hc, Option.bind_some,
      lexFrom_word fun d hd => h d (List.mem_cons_of_mem c hd)]
    simp

/-- Inside a terminal every character up to the closing quote is text. -/
theorem lexFrom_quoted {q : Char} {cs : List Char} :
    ∀ {rev s : List Char}, q ∉ s →
      lexFrom (.quoted q rev) (s ++ q :: cs) =
        (.terminal (String.ofList (rev.reverse ++ s)) :: ·) <$> lexFrom .between cs
  | rev, [], _ => by
    rw [List.nil_append, lexFrom_cons, lexChar, if_pos rfl, Option.bind_some, List.append_nil]
    rfl
  | rev, c :: s, h => by
    have hc : c ≠ q := fun e => h (e ▸ List.mem_cons_self)
    have hrev : (c :: rev).reverse ++ s = rev.reverse ++ c :: s := by simp
    rw [List.cons_append, lexFrom_cons, lexChar, if_neg hc, Option.bind_some,
      lexFrom_quoted fun hm => h (List.mem_cons_of_mem c hm), hrev]
    cases lexFrom .between cs <;> rfl

/-- **A text that spells tokens is read as those tokens.** -/
theorem lex_of_spells {cs : List Char} {ts : List Token} (h : Spells cs ts) : lex cs = some ts := by
  unfold lex
  induction h with
  | nil => rfl
  | @blank c cs ts hc _ ih =>
    rw [lexFrom_cons, lexChar, begin, if_pos hc, Option.bind_some, ih]
    rfl
  | @mark c cs ts hc _ ih =>
    obtain ⟨hb, hq, hw⟩ := not_isBlank_of_isMark hc
    rw [lexFrom_cons, lexChar, begin, if_neg (by simp [hb]), if_neg (by simp [hq]),
      if_neg (by simp [hw]), if_pos hc, Option.bind_some, ih]
    rfl
  | @terminal q cs ts s hq hs _ ih =>
    rw [lexFrom_cons, lexChar, begin, if_neg (by simp [isBlank_of_isQuote hq]), if_pos hq,
      Option.bind_some, lexFrom_quoted hs, ih]
    rfl
  | @word cs ts w hne hw hhead _ ih =>
    obtain ⟨c, w', rfl⟩ := List.exists_cons_of_ne_nil hne
    have hc : isWordChar c = true := hw c List.mem_cons_self
    -- the first character opens the word, the others go into it, the next one ends it
    rw [List.cons_append, lexFrom_cons, lexChar, begin_of_isWordChar hc, Option.bind_some,
      lexFrom_word fun d hd => hw d (List.mem_cons_of_mem c hd), lexFrom_word_end hhead, ih]
    simp

/-- Spelt texts written one after the other spell the tokens one after the other, if
no word runs into the next. -/
theorem Spells.append {a b : List Char} {ts us : List Token} (ha : Spells a ts)
    (hb : Spells b us) (hsep : Separated a b) : Spells (a ++ b) (ts ++ us) := by
  induction ha with
  | nil => exact hb
  | @blank c cs ts hc _ ih =>
    exact .blank hc (ih (@Separated.of_append_left [c] cs b hsep))
  | @mark c cs ts hc _ ih =>
    exact .mark hc (ih (@Separated.of_append_left [c] cs b hsep))
  | @terminal q cs ts s hq hs _ ih =>
    have hsplit : q :: (s ++ q :: cs) = (q :: (s ++ [q])) ++ cs := by simp
    have hsep' : Separated cs b := Separated.of_append_left (hsplit ▸ hsep)
    have hassoc : q :: (s ++ q :: cs) ++ b = q :: (s ++ q :: (cs ++ b)) := by simp
    rw [hassoc, List.cons_append]
    exact .terminal s hq hs (ih hsep')
  | @word cs ts w hne hw hhead _ ih =>
    -- the word ends where it ended before, or where `b` starts when nothing followed it
    have hhead' : ∀ c ∈ (cs ++ b).head?, isWordChar c = false := by
      cases cs with
      | nil =>
        intro y hy
        have hlast : w.getLast? = some (w.getLast hne) := List.getLast?_eq_some_getLast hne
        exact hsep _ (by simpa using hlast) y hy (hw _ (List.getLast_mem hne))
      | cons d ds => exact fun y hy => hhead y (by simpa using hy)
    rw [List.append_assoc, List.cons_append]
    exact .word w hne hw hhead' (ih (Separated.of_append_left hsep))

end Lexing

/-! ### Expressions -/

/-- An expression of ISO 14977 EBNF. -/
inductive Expr where
  /-- A terminal string. -/
  | terminal (text : String)
  /-- A meta-identifier: the name of a rule, never expanded. -/
  | ident (name : String)
  /-- `( E )` -/
  | group (body : Expr)
  /-- `[ E ]` -/
  | optional (body : Expr)
  /-- `{ E }` -/
  | repeated (body : Expr)
  /-- `k * P` -/
  | times (count : ℕ) (body : Expr)
  /-- `F , S` -/
  | seq (first rest : Expr)
  /-- `S | E` -/
  | alt (first rest : Expr)
  deriving DecidableEq, Repr

/-- The words the expression describes. -/
def Expr.lang : Expr → Language Atom
  | .terminal text => {[.lit text]}
  | .ident name => {[.ref name]}
  | .group body => body.lang
  | .optional body => 1 + body.lang
  | .repeated body => KStar.kstar body.lang
  | .times count body => body.lang ^ count
  | .seq first rest => first.lang * rest.lang
  | .alt first rest => first.lang + rest.lang

/-- How tightly a piece of an expression binds, loosest first. -/
inductive Level where
  /-- Sequences separated by `|`. -/
  | expression
  /-- Factors separated by `,`. -/
  | sequence
  /-- A primary with a count in front. -/
  | factor
  /-- A terminal, a meta-identifier or a bracketed expression. -/
  | primary
  deriving DecidableEq, Repr

/-- The levels in order: `expression` below `sequence` below `factor` below `primary`. -/
def Level.rank : Level → ℕ
  | .expression => 0
  | .sequence => 1
  | .factor => 2
  | .primary => 3

/-- A meta-identifier: a word that does not start with a digit. -/
def IsName (w : String) : Prop :=
  w.toList ≠ [] ∧ (∀ c ∈ w.toList, isWordChar c = true) ∧ ∀ c ∈ w.toList.head?, c.isDigit = false

theorem isName_iff_all {w : String} : IsName w ↔
    w.toList ≠ [] ∧ w.toList.all isWordChar = true ∧ w.toList.head?.all (!·.isDigit) = true := by
  simp [IsName, Option.all_eq_true]

-- Decided through list and option tests, never by ranging over every character.
instance (w : String) : Decidable (IsName w) :=
  decidable_of_iff _ isName_iff_all.symm

/-- A count: a word of decimal digits, and its value. -/
def IsCount (w : String) (k : ℕ) : Prop :=
  w.toList ≠ [] ∧ (∀ c ∈ w.toList, c.isDigit = true) ∧ Nat.ofDigitChars 10 w.toList 0 = k

/-- The grammar of expressions: `Derives l ts e` says that the tokens `ts` read as the
expression `e` at level `l`. -/
inductive Derives : Level → List Token → Expr → Prop
  | alt {ts us a b} : Derives .sequence ts a → Derives .expression us b →
      Derives .expression (ts ++ .mark '|' :: us) (.alt a b)
  | expression {ts a} : Derives .sequence ts a → Derives .expression ts a
  | seq {ts us a b} : Derives .factor ts a → Derives .sequence us b →
      Derives .sequence (ts ++ .mark ',' :: us) (.seq a b)
  | sequence {ts a} : Derives .factor ts a → Derives .sequence ts a
  | times {w k ts a} : IsCount w k → Derives .primary ts a →
      Derives .factor (.word w :: .mark '*' :: ts) (.times k a)
  | factor {ts a} : Derives .primary ts a → Derives .factor ts a
  | terminal (text : String) : Derives .primary [.terminal text] (.terminal text)
  | ident {w} : IsName w → Derives .primary [.word w] (.ident w)
  | group {ts a} : Derives .expression ts a →
      Derives .primary (.mark '(' :: (ts ++ [.mark ')'])) (.group a)
  | optional {ts a} : Derives .expression ts a →
      Derives .primary (.mark '[' :: (ts ++ [.mark ']'])) (.optional a)
  | repeated {ts a} : Derives .expression ts a →
      Derives .primary (.mark '{' :: (ts ++ [.mark '}'])) (.repeated a)

/-- The rules of a document, `N = E ;` one after the other. -/
inductive DerivesRules : List Token → List (String × Expr) → Prop
  | nil : DerivesRules [] []
  | cons {n ts us e rs} : IsName n → Derives .expression ts e → DerivesRules us rs →
      DerivesRules (.word n :: .mark '=' :: (ts ++ .mark ';' :: us)) ((n, e) :: rs)

/-- **The text reads as the rules**: it splits into tokens, and the tokens are the
rules in order. -/
def ParsesAs (text : String) (rules : List (String × Expr)) : Prop :=
  ∃ ts, lex text.toList = some ts ∧ DerivesRules ts rules

/-- What reads at a level reads at every looser level. -/
theorem Derives.lift {ts : List Token} {a : Expr} :
    ∀ {l l' : Level}, l'.rank ≤ l.rank → Derives l ts a → Derives l' ts a
  | .expression, .expression, _, h => h
  | .sequence, .expression, _, h => .expression h
  | .sequence, .sequence, _, h => h
  | .factor, .expression, _, h => .expression (.sequence h)
  | .factor, .sequence, _, h => .sequence h
  | .factor, .factor, _, h => h
  | .primary, .expression, _, h => .expression (.sequence (.factor h))
  | .primary, .sequence, _, h => .sequence (.factor h)
  | .primary, .factor, _, h => .factor h
  | .primary, .primary, _, h => h
  | .expression, .sequence, hl, _ => absurd hl (by decide)
  | .expression, .factor, hl, _ => absurd hl (by decide)
  | .expression, .primary, hl, _ => absurd hl (by decide)
  | .sequence, .factor, hl, _ => absurd hl (by decide)
  | .sequence, .primary, hl, _ => absurd hl (by decide)
  | .factor, .primary, hl, _ => absurd hl (by decide)

/-- Two sequences joined by a comma read as one sequence, of the product language. -/
theorem Derives.seq_append {ts us : List Token} {a b : Expr} (ha : Derives .sequence ts a)
    (hb : Derives .sequence us b) :
    ∃ c, Derives .sequence (ts ++ .mark ',' :: us) c ∧ c.lang = a.lang * b.lang := by
  -- the first sequence is a chain of factors; the second goes at its end
  suffices key : ∀ {l ts a}, Derives l ts a → l = .sequence →
      ∃ c, Derives .sequence (ts ++ .mark ',' :: us) c ∧ c.lang = a.lang * b.lang from
    key ha rfl
  intro l ts a h hl
  induction h with
  | @seq ts₁ ts₂ a₁ a₂ h₁ _ _ ih₂ =>
    obtain ⟨c, hc, hlang⟩ := ih₂ rfl
    refine ⟨.seq a₁ c, ?_, ?_⟩
    · rw [List.append_assoc, List.cons_append]
      exact .seq h₁ hc
    · rw [Expr.lang, hlang, Expr.lang, mul_assoc]
  | sequence h _ => exact ⟨.seq _ b, .seq h hb, rfl⟩
  | alt => cases hl
  | expression => cases hl
  | times => cases hl
  | factor => cases hl
  | terminal => cases hl
  | ident => cases hl
  | group => cases hl
  | optional => cases hl
  | repeated => cases hl

end Ebnf

end GrammarDoc
