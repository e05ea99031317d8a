import GrammarDoc.Proofs.Definition.Shape
import GrammarDoc.Renderer
/-!
# Grammars read back from their JSON form

Writing a built grammar as a definition and reading the definition gives the grammar
back, provided no production has the empty name: its key `<>` is not read as a name.

The writer and the reader agree term by term (`term_toDefinition`): a token gives back
its literal or its reference, an array of two or more items its sequence, and an
operator object its choice or its repetition. This needs at every node what a built
grammar has: no sequence or choice of one child, no malformed node, and no reference
to the empty name.

Main statements: `Definition.productions_toDefinition` for the JSON value, and
`json_reload_gives_built_grammar` for the text of a file.
-/

namespace GrammarDoc

namespace Definition

open Json

/-! ### Tokens -/

theorem enclosed?_wrap (opening closing : Char) (inner : List Char) :
    enclosed? opening closing (opening :: (inner ++ [closing])) = some inner := by
  cases inner with
  | nil => simp [enclosed?]
  | cons c cs =>
    simp only [List.cons_append, enclosed?]
    rw [← List.cons_append, List.getLast?_concat, List.dropLast_concat]
    simp

theorem enclosed?_of_ne {opening closing c : Char} (l : List Char) (h : c ≠ opening) :
    enclosed? opening closing (c :: l) = none := by
  match l with
  | [] => rfl
  | _ :: _ => simp [enclosed?, h]

/-- A literal's token reads back as the literal. -/
theorem ofToken_literalToken (text : String) : ofToken (literalToken text) = .literal text := by
  unfold literalToken
  split
  · -- the token is the text in apostrophes, which no angle bracket opens
    have hq : ("'" ++ text ++ "'").toList = '\'' :: (text.toList ++ ['\'']) := by simp
    simp only [ofToken, hq, enclosed?_of_ne _ (show '\'' ≠ '<' by decide), enclosed?_wrap,
      String.ofList_toList]
  · rename_i hshape
    have hangle : enclosed? '<' '>' text.toList = none := by
      cases h : enclosed? '<' '>' text.toList <;> simp_all
    have hquote : enclosed? '\'' '\'' text.toList = none := by
      cases h : enclosed? '\'' '\'' text.toList <;> simp_all
    simp only [ofToken, hangle, hquote]

/-- A reference's token reads back as the reference, if the name is not empty. -/
theorem ofToken_referenceToken {name : String} (h : name ≠ "") :
    ofToken (referenceToken name) = .nonTerminal name := by
  obtain ⟨c, cs, hcs⟩ := List.exists_cons_of_ne_nil (mt String.toList_eq_nil_iff.1 h)
  have hr : (referenceToken name).toList = '<' :: (name.toList ++ ['>']) := by
    simp [referenceToken]
  simp only [ofToken, hr, enclosed?_wrap, hcs]
  rw [← hcs, String.ofList_toList]

/-- The token of the empty name is `<>`, which encloses no name and so reads as the
literal `<>`. -/
theorem ofToken_referenceToken_empty : ofToken (referenceToken "") = .literal "<>" := by decide

/-- **Tokens read back as what they were written for**: a literal's token gives the
literal, and a reference's token gives the reference, for every name but the empty one,
whose token `<>` reads as the literal `<>`. -/
theorem token_decoder_inverts_encoder :
    (∀ text, ofToken (literalToken text) = .literal text) ∧
      ∀ name, ofToken (referenceToken name) =
        if name = "" then .literal "<>" else .nonTerminal name := by
  refine ⟨ofToken_literalToken, fun name => ?_⟩
  split
  · rename_i hempty
    rw [hempty, ofToken_referenceToken_empty]
  · exact ofToken_referenceToken ‹_›

/-- The reference to the empty name does not read back as itself. -/
theorem empty_name_token_is_no_reference : ofToken (referenceToken "") ≠ .nonTerminal "" := by
  decide

/-- A reference's token is read as a key with the name, if the name is not empty. -/
theorem nameOf?_referenceToken {name : String} (h : name ≠ "") :
    nameOf? (referenceToken name) = some name := by
  obtain ⟨c, cs, hcs⟩ := List.exists_cons_of_ne_nil (mt String.toList_eq_nil_iff.1 h)
  have hr : (referenceToken name).toList = '<' :: (name.toList ++ ['>']) := by
    simp [referenceToken]
  simp only [nameOf?, hr, enclosed?_wrap, hcs]
  rw [← hcs, String.ofList_toList]

/-! ### The reader, one form at a time -/

section Reader

variable {key : String}

theorem term_string (token : String) : term key (.string token) = .ok (ofToken token) := by
  rw [term]

theorem term_array {items : List Value} (hne : items ≠ []) :
    term key (.array items) = (items.mapM (term key)).map sequenceOf := by
  rw [term]
  · rw [List.mapM_subtype (fun _ _ => rfl), List.unattach_attach]
    cases items.mapM (term key) <;> rfl
  · exact hne

theorem term_choice {fields : List (String × Value)} {branches : List Value}
    (hc : fields.lookup "choice" = some (.array branches)) (hne : branches ≠ []) :
    term key (.object fields) = (branches.mapM (term key)).map .choice := by
  rw [term]
  split
  · rename_i h
    rw [hc] at h
    cases h
    exact absurd rfl hne
  · rename_i h
    rw [hc] at h
    cases h
    rw [List.mapM_subtype (fun _ _ => rfl), List.unattach_attach]
    cases branches.mapM (term key) <;> rfl
  · rename_i _ hnot h
    rw [hc] at h
    cases h
    exact (hnot branches rfl).elim
  · rename_i h
    rw [hc] at h
    cases h

theorem term_optional {fields : List (String × Value)} {body : Value}
    (hc : fields.lookup "choice" = none) (ho : fields.lookup "optional" = some body) :
    term key (.object fields) = (term key body).map Term.optional := by
  rw [term]
  split <;> rename_i h <;> rw [hc] at h <;> cases h
  split <;> rename_i h' <;> rw [ho] at h' <;> cases h'
  cases term key body <;> rfl

theorem term_repeat {fields : List (String × Value)} {body : Value} {lo hi : Option Count}
    (hc : fields.lookup "choice" = none) (ho : fields.lookup "optional" = none)
    (hr : fields.lookup "repeat" = some body) (hlo : bound key fields .min = .ok lo)
    (hhi : bound key fields .max = .ok hi) (hle : hi.any (· < lo.getD 0) = false) :
    term key (.object fields) = (term key body).map (.repetition (lo.getD 0) hi) := by
  rw [term]
  split <;> rename_i h <;> rw [hc] at h <;> cases h
  split <;> rename_i h' <;> rw [ho] at h' <;> cases h'
  split <;> rename_i h'' <;> rw [hr] at h'' <;> cases h''
  rw [hlo, hhi]
  simp only [ok_bind, hle, Bool.false_eq_true, if_false]
  cases term key body <;> rfl

end Reader

/-! ### Terms -/

/-- What the reader needs of a node to give it back from its JSON form: it is no
sequence or choice of one child, it is not malformed, and it is no reference to the
empty name. -/
def Reloadable (s : Term) : Prop :=
  s.isWrapper = false ∧ (∀ p, s.nodeFault p = none) ∧ s.refName? ≠ some ""

mutual

/-- **A term reads back from its JSON form**, if every node of it is reloadable. -/
theorem term_toDefinition (key : String) :
    ∀ t : Term, (∀ s ∈ t.nodes, Reloadable s) → term key t.toDefinition = .ok t
  | .literal text, _ => by
    rw [Term.toDefinition, term_string, ofToken_literalToken]
  | .nonTerminal name, h => by
    have hname : name ≠ "" := fun he => (h _ (Term.mem_nodes_self _)).2.2 (by rw [he]; rfl)
    rw [Term.toDefinition, term_string, ofToken_referenceToken hname]
  | .sequence [], h => absurd ((h _ (Term.mem_nodes_self _)).2.1 key) (by simp [Term.nodeFault])
  | .sequence [_], h => absurd (h _ (Term.mem_nodes_self _)).1 (by simp [Term.isWrapper])
  | .sequence (a :: b :: rest), h => by
    rw [Term.toDefinition, term_array (by simp [Term.toDefinitionAll]),
      mapM_toDefinitionAll key (a :: b :: rest) (Term.forall_mem_nodes_iff.1 h).2]
    rfl
  | .choice [], h => absurd ((h _ (Term.mem_nodes_self _)).2.1 key) (by simp [Term.nodeFault])
  | .choice [_], h => absurd (h _ (Term.mem_nodes_self _)).1 (by simp [Term.isWrapper])
  | .choice (a :: b :: rest), h => by
    rw [Term.toDefinition, term_choice rfl (by simp [Term.toDefinitionAll]),
      mapM_toDefinitionAll key (a :: b :: rest) (Term.forall_mem_nodes_iff.1 h).2]
    rfl
  | .repetition min max body, h => by
    have hbody := term_toDefinition key body
      ((Term.forall_mem_nodes_iff.1 h).2 body (by simp [Term.children]))
    -- the bounds are in order, so the reader's own check passes
    have hle : max.any (· < min) = false := by
      have hfault := (h _ (Term.mem_nodes_self _)).2.1 key
      cases max with
      | none => rfl
      | some m =>
        simp only [Term.nodeFault, ite_eq_right_iff, reduceCtorEq, imp_false] at hfault
        simpa using hfault
    simp only [Term.toDefinition]
    split
    · rename_i hopt
      obtain ⟨rfl, rfl⟩ := hopt
      rw [term_optional rfl rfl, hbody]
      rfl
    · rw [@term_repeat key _ _ (some min) max rfl rfl rfl rfl ?_ hle, hbody]
      · rfl
      · cases max <;> rfl

/-- The JSON forms of reloadable terms read back as the terms. -/
theorem mapM_toDefinitionAll (key : String) : ∀ ts : List Term,
    (∀ t ∈ ts, ∀ s ∈ t.nodes, Reloadable s) → (Term.toDefinitionAll ts).mapM (term key) = .ok ts
  | [], _ => rfl
  | t :: ts, h => by
    rw [Term.toDefinitionAll, List.mapM_cons, term_toDefinition key t (h t List.mem_cons_self),
      mapM_toDefinitionAll key ts fun u hu => h u (List.mem_cons_of_mem t hu)]
    rfl

end

/-! ### Productions and grammars -/

/-- A production's key and its array of alternatives read as the production. -/
theorem production_array {key name : String} {alternatives : List Value}
    (hkey : nameOf? key = some name) (hne : alternatives ≠ []) :
    production key (.array alternatives) =
      (alternatives.mapM (term key)).map fun ts => ⟨name, Term.ofAlternatives ts⟩ := by
  unfold production
  rw [hkey]
  match alternatives, hne with
  | a :: rest, _ =>
    dsimp only
    cases (a :: rest).mapM (term key) <;> rfl

/-- **A production reads back from its key and the alternatives written for its body.** -/
theorem production_alternativesDefinition {name : String} {body : Term} (hname : name ≠ "")
    (h : ∀ s ∈ body.nodes, Reloadable s) :
    production (referenceToken name) body.alternativesDefinition = .ok ⟨name, body⟩ := by
  -- a body that is no choice is written as its only alternative
  have hone : ∀ t : Term, (∀ s ∈ t.nodes, Reloadable s) →
      production (referenceToken name) (.array [t.toDefinition]) = .ok ⟨name, t⟩ := by
    intro t ht
    have hts : [t.toDefinition].mapM (term (referenceToken name)) = .ok [t] :=
      mapM_toDefinitionAll _ [t] fun u hu => (List.mem_singleton.1 hu) ▸ ht
    rw [production_array (nameOf?_referenceToken hname) (List.cons_ne_nil _ _), hts]
    rfl
  cases body with
  | choice branches =>
    match branches, h with
    | [], h => exact absurd ((h _ (Term.mem_nodes_self _)).2.1 "") (by simp [Term.nodeFault])
    | [_], h => exact absurd (h _ (Term.mem_nodes_self _)).1 (by simp [Term.isWrapper])
    | a :: b :: rest, h =>
      rw [Term.alternativesDefinition,
        production_array (nameOf?_referenceToken hname) (by simp [Term.toDefinitionAll]),
        mapM_toDefinitionAll _ (a :: b :: rest) (Term.forall_mem_nodes_iff.1 h).2]
      rfl
  | literal => exact hone _ h
  | nonTerminal => exact hone _ h
  | sequence => exact hone _ h
  | repetition => exact hone _ h

/-- Setting a new key adds its field at the end. -/
theorem insertField_of_not_mem {fields : List (String × Value)} {key : String} {v : Value}
    (h : key ∉ fields.map (·.1)) : insertField fields key v = fields ++ [(key, v)] := by
  induction fields with
  | nil => rfl
  | cons kv rest ih =>
    obtain ⟨k, w⟩ := kv
    have hk : k ≠ key := fun he => h (by simp [he])
    have hrest : key ∉ rest.map (·.1) := fun hr => h (List.mem_cons_of_mem _ hr)
    simp [insertField, hk, ih hrest]

theorem referenceToken_injective : Function.Injective referenceToken := by
  intro a b h
  have hl := congrArg String.toList h
  simp only [referenceToken, String.toList_append, List.append_cancel_right_eq] at hl
  exact String.toList_inj.1 (List.append_cancel_left hl)

/-- The JSON form of a grammar whose names are distinct has one field per production,
in order. -/
theorem toDefinition_eq_object {g : Grammar} (h : (g.productions.map (·.name)).Nodup) :
    g.toDefinition = .object (g.productions.map fun p =>
      (referenceToken p.name, p.body.alternativesDefinition)) := by
  -- the fields set so far are kept, and each new key goes at the end
  have fold : ∀ (ps : List Production) (acc : List (String × Value)),
      (acc.map (·.1) ++ ps.map fun p => referenceToken p.name).Nodup →
      ps.foldl (fun fields p => insertField fields (referenceToken p.name)
        p.body.alternativesDefinition) acc =
        acc ++ ps.map fun p => (referenceToken p.name, p.body.alternativesDefinition) := by
    intro ps
    induction ps with
    | nil => simp
    | cons p ps ih =>
      intro acc hnd
      have hnew : referenceToken p.name ∉ acc.map (·.1) :=
        fun hmem => (List.nodup_append.1 hnd).2.2 _ hmem _ List.mem_cons_self rfl
      rw [List.foldl_cons, insertField_of_not_mem hnew, ih]
      · simp
      · simpa using hnd
  have hkeys : (g.productions.map fun p => referenceToken p.name).Nodup := by
    simpa only [List.map_map, Function.comp_def] using h.map referenceToken_injective
  rw [Grammar.toDefinition, fold g.productions [] (by simpa using hkeys), List.nil_append]

/-- **A grammar reads back from its JSON form**, if its names are distinct and not
empty and every node of its bodies is reloadable. -/
theorem productions_toDefinition {g : Grammar} (hnd : (g.productions.map (·.name)).Nodup)
    (h : ∀ p ∈ g.productions, p.name ≠ "" ∧ ∀ s ∈ p.body.nodes, Reloadable s) :
    productions g.toDefinition = .ok g.productions := by
  rw [toDefinition_eq_object hnd, productions, mapM_eq_ok, List.forall₂_map_left_iff,
    List.forall₂_same]
  intro p hp
  exact production_alternativesDefinition (h p hp).1 (h p hp).2

/-- **Every node of a built grammar is reloadable**, if no production has the empty
name: normalising left no wrapper, the checks left no malformed node, and every
reference names a production. -/
theorem reloadable_of_build_eq_ok {b : Builder} {g : Grammar} (h : b.build = .ok g)
    (hnames : ∀ p ∈ g.productions, p.name ≠ "") :
    ∀ p ∈ g.productions, ∀ s ∈ p.body.nodes, Reloadable s := by
  obtain ⟨-, hf, hu, rfl⟩ := Builder.build_eq_ok_iff.1 h
  intro p hp s hs
  obtain ⟨q, hq, rfl⟩ := List.mem_map.1 hp
  obtain ⟨u, hu_mem, hwrap, rfl⟩ := Term.mem_nodes_normalize.1 hs
  obtain ⟨hw, hfault, href⟩ := Term.normalize_of_not_isWrapper hwrap
  refine ⟨hw, fun p' => ?_, ?_⟩
  · have hnone : u.nodeFault q.name = none := by
      simp only [Builder.shapeFaults, List.flatMap_eq_nil_iff, Term.faults,
        List.filterMap_eq_nil_iff] at hf
      exact hf q hq u hu_mem
    rw [hfault]
    exact Term.nodeFault_eq_none_iff.1 hnone
  · rw [href]
    intro hempty
    -- the empty name is referred to, so some production has it
    have hdef : "" ∈ b.names := by
      simp only [Builder.undefinedNames, List.filter_eq_nil_iff, decide_not,
        Bool.not_eq_true', decide_eq_false_iff_not, not_not] at hu
      exact hu "" (List.mem_filterMap.2 ⟨u, List.mem_flatMap.2 ⟨q, hq, hu_mem⟩, hempty⟩)
    obtain ⟨q', hq', hname⟩ := List.mem_map.1 hdef
    exact hnames _ (List.mem_map_of_mem hq') hname

end Definition

/-- **A built grammar written as JSON loads back as itself**, if no production has the
empty name and the writer's text for the grammar's JSON value reads back as that value.
The file then holds exactly the grammar's productions, and a builder given the file
builds the grammar again. -/
theorem json_reload_gives_built_grammar {b : Builder} {g : Grammar} {text : String}
    {f : SourceFile} (hbuild : b.build = .ok g) (hnames : ∀ p ∈ g.productions, p.name ≠ "")
    (htext : Renderer.render .json g = .ok text) (hf : f.contents = .ok text.toUTF8)
    (hread : Json.parse (Json.Filtered.ofBytes (g.toDefinition.pretty 0 ++ "\n").toUTF8.toList) =
      .ok g.toDefinition) :
    f.load = .ok g.productions ∧ ∃ b' : Builder, ({} : Builder).load f = .ok b' ∧
      b'.productions = g.productions ∧ b'.build = .ok g := by
  have htext' : g.toDefinition.pretty 0 ++ "\n" = text := by
    simpa [Renderer.render] using htext
  have hnd : (g.productions.map (·.name)).Nodup := by
    obtain ⟨hnd, -, -, rfl⟩ := Builder.build_eq_ok_iff.1 hbuild
    simpa [Builder.names, Function.comp_def] using hnd
  have hrules : Definition.productions g.toDefinition = .ok g.productions :=
    Definition.productions_toDefinition hnd fun p hp =>
      ⟨hnames p hp, Definition.reloadable_of_build_eq_ok hbuild hnames p hp⟩
  have hload : f.load = .ok g.productions := by
    unfold SourceFile.load
    rw [hf]
    dsimp only
    rw [← htext', hread]
    dsimp only
    rw [hrules]
  refine ⟨hload, ⟨{ productions := g.productions }, ?_, rfl, Builder.build_eq_ok_of_built hbuild⟩⟩
  rw [Builder.load, hload]
  rfl

/-- Sums of terms, where a term is `x`, the literal `<y>` written like a reference, or a
sum in brackets with an optional mark after it. -/
def sumsGrammar : Grammar :=
  ⟨[⟨"sum", .sequence [.nonTerminal "term",
      .repetition 0 none (.sequence [.literal "+", .nonTerminal "term"])]⟩,
    ⟨"term", .choice [.literal "x", .literal "<y>",
      .sequence [.literal "(", .nonTerminal "sum", .literal ")",
        .repetition 0 (some 1) (.literal "!")]]⟩]⟩

theorem sums_grammar_reloads :
    (SourceFile.mk "sums.json" (.ok (sumsGrammar.toDefinition.pretty 0 ++ "\n").toUTF8)).load =
        .ok sumsGrammar.productions ∧
      ∃ b' : Builder, ({} : Builder).load
          (SourceFile.mk "sums.json" (.ok (sumsGrammar.toDefinition.pretty 0 ++ "\n").toUTF8)) =
          .ok b' ∧ b'.productions = sumsGrammar.productions ∧ b'.build = .ok sumsGrammar :=
  @json_reload_gives_built_grammar { productions := sumsGrammar.productions } sumsGrammar _ _ rfl
    (by decide) rfl rfl (toOption_eq_some_iff.1 (by decide +kernel))

/-- A production with the empty name is written under the key `<>`, which the reader
does not take as a name: the grammar builds and its JSON text reads back as the value
written, yet the definition is refused and the file does not load. -/
theorem unnamed_production_does_not_reload :
    ({ productions := [⟨"", .choice [.literal "x", .literal "y"]⟩] } : Builder).build =
        .ok ⟨[⟨"", .choice [.literal "x", .literal "y"]⟩]⟩ ∧
      Renderer.render .json ⟨[⟨"", .choice [.literal "x", .literal "y"]⟩]⟩ =
        .ok "\x7b\n    \"<>\": [\n        \"x\",\n        \"y\"\n    ]\n\x7d\n" ∧
      (Json.parse (Json.Filtered.ofBytes
        "\x7b\n    \"<>\": [\n        \"x\",\n        \"y\"\n    ]\n\x7d\n".toUTF8.toList)).toOption =
        some (Grammar.toDefinition ⟨[⟨"", .choice [.literal "x", .literal "y"]⟩]⟩) ∧
      Definition.productions (Grammar.toDefinition ⟨[⟨"", .choice [.literal "x", .literal "y"]⟩]⟩) =
        .error (.invalidName "<>") ∧
      (SourceFile.mk "unnamed.json"
        (.ok "\x7b\n    \"<>\": [\n        \"x\",\n        \"y\"\n    ]\n\x7d\n".toUTF8)).load.toOption =
        none :=
  ⟨rfl, by decide, by decide +kernel, by decide +kernel, by decide +kernel⟩

end GrammarDoc
