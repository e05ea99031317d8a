import GrammarDoc.Proofs.Build
import GrammarDoc.Proofs.Json.Keys
import GrammarDoc.Steps
import Mathlib.Data.List.Nodup
/-!
# Loaded grammars pass the shape checks

The loader and the builder enforce the same rules on terms, each in its own way: an
empty array is no sequence, a choice needs a branch, and a repetition's greatest
count may not be below its least. The loader also unwraps an array of one item, so
it never builds a sequence of one item; and since the keys of a JSON object are
distinct and a key gives its name back, one file never defines a name twice.

So a builder fed only definition files fails, if at all, on a name that two files
define or on a reference that no file defines.

Main statement: `loaded_grammars_pass_shape_checks`.
-/

namespace GrammarDoc

namespace Definition

open Json

/-- What the loader promises of every node of a term it reads: the node is not
malformed, and it is not a sequence of one item. -/
def LoadedNode (s : Term) : Prop :=
  (∀ p, s.nodeFault p = none) ∧ ∀ x, s ≠ .sequence [x]

theorem enclosed?_eq_some {opening closing : Char} {l inner : List Char}
    (h : enclosed? opening closing l = some inner) : l = opening :: (inner ++ [closing]) := by
  match l, h with
  | first :: second :: more, h =>
    simp only [enclosed?] at h
    split at h
    · rename_i hshape
      cases h
      rw [hshape.1, List.dropLast_append_getLast? closing hshape.2]
    · cases h

/-- A key read as a name is the name between angle brackets, and the name is not
empty. -/
theorem nameOf?_eq_some {key name : String} (h : nameOf? key = some name) :
    name ≠ "" ∧ key.toList = '<' :: (name.toList ++ ['>']) := by
  unfold nameOf? at h
  split at h
  · rename_i inner c cs hinner
    cases h
    refine ⟨fun he => ?_, ?_⟩
    · have := congrArg String.toList he
      simp at this
    · simpa using enclosed?_eq_some hinner
  · cases h

theorem nameOf?_injective {key key' name : String} (h : nameOf? key = some name)
    (h' : nameOf? key' = some name) : key = key' :=
  String.toList_inj.1 ((nameOf?_eq_some h).2.trans (nameOf?_eq_some h').2.symm)

theorem ofToken_loaded (token : String) : ∀ s ∈ (ofToken token).nodes, LoadedNode s := by
  -- a token reads as a literal or as a reference, a node with no children
  have leaf : ∀ t : Term, (∀ p, t.nodeFault p = none) → (∀ x, t ≠ .sequence [x]) →
      t.children = [] → ∀ s ∈ t.nodes, LoadedNode s := by
    intro t hf hs hc s hmem
    rw [Term.nodes_eq_cons, hc] at hmem
    simp only [List.flatMap_nil, List.mem_singleton] at hmem
    exact hmem ▸ ⟨hf, hs⟩
  unfold ofToken
  split
  · exact leaf _ (fun _ => rfl) (fun _ h => by cases h) rfl
  · split <;> exact leaf _ (fun _ => rfl) (fun _ h => by cases h) rfl

/-- A node that is loaded itself, over children loaded at every depth, is loaded at
every depth. -/
theorem loaded_of_children {t : Term} (ht : LoadedNode t)
    (hc : ∀ c ∈ t.children, ∀ s ∈ c.nodes, LoadedNode s) : ∀ s ∈ t.nodes, LoadedNode s :=
  Term.forall_mem_nodes_iff.2 ⟨ht, hc⟩

/-- The terms read from the members of a list, each loaded at every depth. -/
theorem loaded_of_mapM {key : String} {vs : List Value} {ts : List Term}
    (h : vs.mapM (term key) = .ok ts)
    (ih : ∀ v ∈ vs, ∀ {t}, term key v = .ok t → ∀ s ∈ t.nodes, LoadedNode s) :
    ∀ c ∈ ts, ∀ s ∈ c.nodes, LoadedNode s := by
  intro c hc
  obtain ⟨v, hv, hvc⟩ := exists_mem_of_mapM_eq_ok h hc
  exact ih v hv hvc

/-- **Every node of a term read from JSON is loaded:** no node is malformed, and no
sequence has a single item. -/
theorem term_loaded {key : String} {v : Value} {t : Term} (h : term key v = .ok t) :
    ∀ s ∈ t.nodes, LoadedNode s := by
  fun_induction term key v generalizing t with
  | case1 token =>
    cases h
    exact ofToken_loaded token
  | case2 => cases h
  | case3 items hne ih =>
    obtain ⟨ts, hts, h⟩ := bind_eq_ok.1 h
    rw [List.mapM_subtype (fun _ _ => rfl), List.unattach_attach] at hts
    have hitems := loaded_of_mapM hts fun v hv _ hv' => ih v hv hv'
    have hlen := (mapM_eq_ok.1 hts).length_eq
    cases h
    -- an array of one item is that item, of more a sequence of them
    match ts, hlen, hitems with
    | [], hlen, _ => exact absurd (List.length_eq_zero_iff.1 hlen) hne
    | [c], _, hitems => exact hitems c List.mem_cons_self
    | c :: d :: rest, _, hitems =>
      exact loaded_of_children ⟨fun _ => rfl, fun _ h => by cases h⟩ hitems
  | case4 => cases h
  | case5 fields branches hne _ ih =>
    obtain ⟨ts, hts, h⟩ := bind_eq_ok.1 h
    rw [List.mapM_subtype (fun _ _ => rfl), List.unattach_attach] at hts
    have hitems := loaded_of_mapM hts fun v hv _ hv' => ih v hv hv'
    have hlen := (mapM_eq_ok.1 hts).length_eq
    cases h
    match ts, hlen, hitems with
    | [], hlen, _ => exact absurd (List.length_eq_zero_iff.1 hlen) hne
    | c :: rest, _, hitems =>
      exact loaded_of_children ⟨fun _ => rfl, fun _ h => by cases h⟩ hitems
  | case6 => cases h
  | case7 fields _ body _ ih =>
    obtain ⟨t', ht', h⟩ := bind_eq_ok.1 h
    cases h
    exact loaded_of_children ⟨fun _ => rfl, fun _ h => by cases h⟩
      (by simpa [Term.optional, Term.children] using ih ht')
  | case8 fields _ _ body _ ih =>
    obtain ⟨lo, -, h⟩ := bind_eq_ok.1 h
    obtain ⟨hi, -, h⟩ := bind_eq_ok.1 h
    split at h
    · cases h
    · rename_i hbounds
      obtain ⟨t', ht', h⟩ := bind_eq_ok.1 h
      cases h
      -- the bounds passed the loader's own order check
      have hnode : ∀ p, (Term.repetition (lo.getD 0) hi t').nodeFault p = none := by
        intro p
        cases hi with
        | none => rfl
        | some m => simpa [Term.nodeFault] using hbounds
      exact loaded_of_children ⟨hnode, fun _ h => by cases h⟩
        (by simpa [Term.children] using ih ht')
  | case9 => cases h
  | case10 => cases h

/-- **A production read from a key** has the key's name and a body loaded at every
depth: one alternative is the body, several a choice between them. -/
theorem production_loaded {key : String} {rules : Value} {p : Production}
    (h : production key rules = .ok p) :
    nameOf? key = some p.name ∧ ∀ s ∈ p.body.nodes, LoadedNode s := by
  unfold production at h
  cases hn : nameOf? key with
  | none => simp [hn] at h
  | some name =>
    simp only [hn] at h
    split at h
    · cases h
    · rename_i alternatives hne
      obtain ⟨ts, hts, h⟩ := bind_eq_ok.1 h
      cases h
      refine ⟨rfl, ?_⟩
      have hitems := loaded_of_mapM hts fun _ _ _ hv => term_loaded hv
      have hlen := (mapM_eq_ok.1 hts).length_eq
      match ts, hlen, hitems with
      | [], hlen, _ => exact absurd (List.length_eq_zero_iff.1 hlen) hne
      | [c], _, hitems => exact hitems c List.mem_cons_self
      | c :: d :: rest, _, hitems =>
        exact loaded_of_children ⟨fun _ => rfl, fun _ h => by cases h⟩ hitems
    · cases h

/-- The productions of a definition, one for each field of its object, in order. -/
theorem productions_eq_ok {v : Value} {ps : List Production} (h : productions v = .ok ps) :
    ∃ fields, v = .object fields ∧
      List.Forall₂ (fun kv p => production kv.1 kv.2 = .ok p) fields ps := by
  match v, h with
  | .object fields, h => exact ⟨fields, rfl, mapM_eq_ok.1 h⟩

/-- Distinct keys give distinct names. -/
theorem names_nodup_of_keys {fields : List (String × Value)} {ps : List Production}
    (h : List.Forall₂ (fun kv p => production kv.1 kv.2 = .ok p) fields ps)
    (hkeys : (fields.map (·.1)).Nodup) : (ps.map (·.name)).Nodup := by
  induction h with
  | nil => exact List.nodup_nil
  | @cons kv p fields ps hp hrest ih =>
    rw [List.map_cons, List.nodup_cons] at hkeys ⊢
    refine ⟨fun hmem => hkeys.1 ?_, ih hkeys.2⟩
    obtain ⟨q, hq, hqname⟩ := List.mem_map.1 hmem
    obtain ⟨kv', hkv', hq'⟩ := exists_mem_of_forall₂ hrest hq
    have hsame := nameOf?_injective (production_loaded hp).1
      (hqname ▸ (production_loaded hq').1)
    exact hsame ▸ List.mem_map_of_mem hkv'

end Definition

/-! ### Builders fed only definition files -/

/-- The file loads, and one of its productions has the name. -/
def SourceFile.Defines (f : SourceFile) (name : String) : Prop :=
  ∃ ps, f.load = .ok ps ∧ name ∈ ps.map (·.name)

/-- A file that loads read its productions from a JSON value with distinct keys. -/
theorem SourceFile.load_eq_ok {f : SourceFile} {ps : List Production} (h : f.load = .ok ps) :
    ∃ v : Json.Value, v.keys.Nodup ∧ Definition.productions v = .ok ps := by
  unfold SourceFile.load at h
  split at h
  · cases h
  · split at h
    · cases h
    · rename_i v hv
      split at h
      · cases h
      · cases h
        exact ⟨v, Json.parse_keys_nodup hv, ‹_›⟩

/-- **A file that loads defines each name once**, with bodies loaded at every depth. -/
theorem SourceFile.load_loaded {f : SourceFile} {ps : List Production} (h : f.load = .ok ps) :
    (ps.map (·.name)).Nodup ∧ ∀ p ∈ ps, ∀ s ∈ p.body.nodes, Definition.LoadedNode s := by
  obtain ⟨v, hkeys, hv⟩ := SourceFile.load_eq_ok h
  obtain ⟨fields, rfl, hfields⟩ := Definition.productions_eq_ok hv
  refine ⟨Definition.names_nodup_of_keys hfields hkeys, fun p hp => ?_⟩
  obtain ⟨kv, -, hkv⟩ := exists_mem_of_forall₂ hfields hp
  exact (Definition.production_loaded hkv).2

/-- A run of loads that all succeed adds the files' productions, file after file. -/
theorem Builder.runSteps_loads {b b' : Builder} {files : List SourceFile}
    {outcomes : List (Except ParsingError Unit)}
    (h : b.runSteps (files.map .load) = (outcomes, some b')) :
    ∃ pss, List.Forall₂ (fun f ps => f.load = .ok ps) files pss ∧
      b'.productions = b.productions ++ pss.flatten := by
  induction files generalizing b outcomes with
  | nil =>
    simp only [List.map_nil, Builder.runSteps, Prod.mk.injEq, Option.some.injEq] at h
    obtain ⟨-, rfl⟩ := h
    exact ⟨[], .nil, by simp⟩
  | cons f files ih =>
    simp only [List.map_cons, Builder.runSteps, Builder.load] at h
    cases hl : f.load with
    | error e => simp [hl] at h
    | ok ps =>
      simp only [hl, Except.map_ok] at h
      rcases hr : (b.extend ps).runSteps (files.map .load) with ⟨rest, final⟩
      rw [hr] at h
      simp only [Prod.mk.injEq] at h
      obtain ⟨-, rfl⟩ := h
      obtain ⟨pss, hpss, hprods⟩ := ih hr
      refine ⟨ps :: pss, .cons hl hpss, ?_⟩
      simp [hprods, Builder.extend]

/-- A name that occurs twice among the names of several files, each defining its
names once, is defined by two different files. -/
theorem defines_twice {files : List SourceFile} {pss : List (List Production)}
    (hl : List.Forall₂ (fun f ps => f.load = .ok ps) files pss) {n : String}
    (hc : 2 ≤ (pss.flatten.map (·.name)).count n) :
    ∃ f g, [f, g].Sublist files ∧ f.Defines n ∧ g.Defines n := by
  induction hl with
  | nil => simp at hc
  | @cons f ps files pss hf hrest ih =>
    rw [List.flatten_cons, List.map_append, List.count_append] at hc
    by_cases hn : n ∈ ps.map (·.name)
    · -- the file defines the name once, so one of the later files defines it too
      have hone := List.count_eq_one_of_mem (SourceFile.load_loaded hf).1 hn
      have hlater : n ∈ pss.flatten.map (·.name) := List.count_pos_iff.1 (by omega)
      obtain ⟨q, hq, rfl⟩ := List.mem_map.1 hlater
      obtain ⟨qs, hqs, hq⟩ := List.mem_flatten.1 hq
      obtain ⟨g, hg, hgl⟩ := exists_mem_of_forall₂ hrest hqs
      exact ⟨f, g, List.cons_sublist_cons.2 (List.singleton_sublist.2 hg), ⟨ps, hf, hn⟩,
        ⟨qs, hgl, List.mem_map_of_mem hq⟩⟩
    · rw [List.count_eq_zero_of_not_mem hn, Nat.zero_add] at hc
      obtain ⟨f', g, hsub, hf', hg⟩ := ih hc
      exact ⟨f', g, hsub.cons f, hf', hg⟩

/-- Productions read from a JSON value have non-empty names, distinct when the value's
keys are, and bodies that pass the shape check with no sequence of one item. -/
theorem productions_pass_shape_checks {v : Json.Value} {ps : List Production}
    (hv : Definition.productions v = .ok ps) :
    (∀ p ∈ ps, p.name ≠ "") ∧ (v.keys.Nodup → (ps.map (·.name)).Nodup) ∧
      (∀ p ∈ ps, p.body.checkShape p.name = .ok ()) ∧
      ∀ p ∈ ps, ∀ s ∈ p.body.nodes, ∀ x, s ≠ .sequence [x] := by
  obtain ⟨fields, rfl, hfields⟩ := Definition.productions_eq_ok hv
  have hp : ∀ p ∈ ps, ∃ key, Definition.nameOf? key = some p.name ∧
      ∀ s ∈ p.body.nodes, Definition.LoadedNode s := fun p hp => by
    obtain ⟨kv, -, hkv⟩ := exists_mem_of_forall₂ hfields hp
    exact ⟨kv.1, Definition.production_loaded hkv⟩
  refine ⟨fun p hmem => ?_, Definition.names_nodup_of_keys hfields, fun p hmem => ?_,
    fun p hmem => ?_⟩
  · obtain ⟨key, hkey, -⟩ := hp p hmem
    exact (Definition.nameOf?_eq_some hkey).1
  · obtain ⟨-, -, hnodes⟩ := hp p hmem
    exact Term.checkShape_eq_ok_iff.2 fun s hs => (hnodes s hs).1 p.name
  · obtain ⟨-, -, hnodes⟩ := hp p hmem
    exact fun s hs => (hnodes s hs).2

/-- A builder fed only files that load has no shape faults: every node of every body
is loaded. -/
theorem shapeFaults_eq_nil_of_loads {files : List SourceFile}
    {outcomes : List (Except ParsingError Unit)} {b : Builder}
    (hrun : ({} : Builder).runSteps (files.map .load) = (outcomes, some b)) :
    b.shapeFaults = [] := by
  obtain ⟨pss, hpss, hprods⟩ := Builder.runSteps_loads hrun
  simp only [Builder.shapeFaults, List.flatMap_eq_nil_iff, Term.faults,
    List.filterMap_eq_nil_iff]
  intro p hp s hs
  rw [hprods, List.nil_append] at hp
  obtain ⟨ps, hps, hp⟩ := List.mem_flatten.1 hp
  obtain ⟨f, -, hf⟩ := exists_mem_of_forall₂ hpss hps
  exact ((SourceFile.load_loaded hf).2 p hp s hs).1 p.name

/-- A builder fed only files that load fails to build only on a name that two different
files define, or on a reference to a name that no production has. -/
theorem build_error_of_loads {files : List SourceFile}
    {outcomes : List (Except ParsingError Unit)} {b : Builder} {e : GrammarError}
    (hrun : ({} : Builder).runSteps (files.map .load) = (outcomes, some b))
    (hbuild : b.build = .error e) :
    (∃ n, e = .duplicate n ∧ ∃ f g, [f, g].Sublist files ∧ f.Defines n ∧ g.Defines n) ∨
      ∃ n, e = .undefined n := by
  obtain ⟨pss, hpss, hprods⟩ := Builder.runSteps_loads hrun
  rw [Builder.build_eq, shapeFaults_eq_nil_of_loads hrun] at hbuild
  cases hrep : firstRepeated b.names with
  | some n =>
    rw [hrep] at hbuild
    cases hbuild
    obtain ⟨pre, post, hnames, -, hn⟩ := firstRepeated_eq_some hrep
    have hcount : 2 ≤ (pss.flatten.map (·.name)).count n := by
      have hnames' : pss.flatten.map (·.name) = pre ++ n :: post := by
        rw [← hnames, Builder.names, hprods, List.nil_append]
      rw [hnames', List.count_append, List.count_cons_self]
      have := List.count_pos_iff.2 hn
      omega
    exact .inl ⟨n, rfl, defines_twice hpss hcount⟩
  | none =>
    rw [hrep] at hbuild
    cases hu : b.undefinedNames.head? with
    | some n =>
      rw [hu] at hbuild
      cases hbuild
      exact .inr ⟨n, rfl⟩
    | none =>
      rw [hu] at hbuild
      cases hbuild

/-- **Loaded grammars pass the shape checks.**
1. For every JSON value the loader reads as productions, the names are not empty,
   distinct when the value's keys are, every body passes the shape check, and no
   node of a body is a sequence of one item.
2. A builder fed only files that load fails to build only on a name that two
   different files define, or on a reference to a name that no production has. -/
theorem loaded_grammars_pass_shape_checks :
    (∀ (v : Json.Value) (ps : List Production), Definition.productions v = .ok ps →
      (∀ p ∈ ps, p.name ≠ "") ∧ (v.keys.Nodup → (ps.map (·.name)).Nodup) ∧
      (∀ p ∈ ps, p.body.checkShape p.name = .ok ()) ∧
      ∀ p ∈ ps, ∀ s ∈ p.body.nodes, ∀ x, s ≠ .sequence [x]) ∧
    ∀ (files : List SourceFile) (outcomes : List (Except ParsingError Unit)) (b : Builder)
      (e : GrammarError), ({} : Builder).runSteps (files.map .load) = (outcomes, some b) →
      b.build = .error e →
      (∃ n, e = .duplicate n ∧ ∃ f g, [f, g].Sublist files ∧ f.Defines n ∧ g.Defines n) ∨
        ∃ n, e = .undefined n :=
  ⟨fun _ _ hv => productions_pass_shape_checks hv,
    fun _ _ _ _ hrun hbuild => build_error_of_loads hrun hbuild⟩

end GrammarDoc
