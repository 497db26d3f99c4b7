import Mathlib
import PagedQuery.Proofs.NameMap
import PagedQuery.Proofs.Reading
import PagedQuery.Source

/-!
# Compiled criteria

Criteria compile if each of their predicates suits the field that its name means, and then they are
tested clause by clause.

* `Predicate.check_eq_ok`: when a predicate suits a field;
* `Predicate.compile_eq_ok_iff`, `Criteria.compile_eq_ok_iff`: what predicates and criteria compile
  to;
* `Criteria.exists_compile`: criteria all of whose predicates suit their fields compile;
* `Criteria.exists_compile_ofList`, `Criteria.exists_compile_given`: what criteria mean that are
  made of a list of predicates, some of which may be missing;
* `Criteria.compile_single`: criteria of one predicate compile to one clause.
-/

namespace PagedQuery

variable {schema : Schema} {name : String} {field : Field} {predicate : Predicate}

/-- A name that does not mean the identifier means the attribute of this name. -/
theorem Schema.name_of_resolve {a : Attribute} (h : schema.resolve name = .ok (.declared a)) :
    a.name = name := by
  rw [resolve] at h
  split at h
  · cases h
  · split at h
    · next ha =>
      cases h
      simpa using List.find?_some ha
    · cases h

/-- A predicate suits a field that can be searched, if it looks for a text, and that can be compared
    with each of its values. -/
theorem Predicate.check_eq_ok
    (hsearch : ∀ needle, predicate = .contains needle → field.isSearchable)
    (hliterals : ∀ v ∈ predicate.literals, ∀ kind, v.kind? = some kind → field.accepts kind) :
    predicate.check name field = .ok () := by
  have hfind : (predicate.literals.filterMap Value.kind?).find? (!field.accepts ·) = none := by
    rw [List.find?_eq_none]
    intro kind hkind
    obtain ⟨v, hv, hof⟩ := List.mem_filterMap.1 hkind
    rw [hliterals v hv kind hof]
    decide
  cases predicate with
  | contains needle => exact if_pos (hsearch needle rfl)
  | equals v | range lower upper =>
    rw [check]
    · simp only [hfind]
    · exact nofun

theorem Predicate.compile_eq_ok (hfield : schema.resolve name = .ok field)
    (hcheck : predicate.check name field = .ok ()) :
    predicate.compile schema name = .ok ⟨field, predicate.matcher⟩ :=
  bind_eq_ok.2 ⟨_, hfield, bind_eq_ok.2 ⟨(), hcheck, rfl⟩⟩

/-- A predicate compiles to a clause on the field that its name means, which it suits. -/
theorem Predicate.compile_eq_ok_iff {clause : Clause} :
    predicate.compile schema name = .ok clause ↔
      schema.resolve name = .ok clause.field ∧ predicate.check name clause.field = .ok () ∧
        clause.matcher = predicate.matcher := by
  constructor
  · intro h
    obtain ⟨field, hfield, h⟩ := bind_eq_ok.1 h
    obtain ⟨⟨⟩, hcheck, h⟩ := bind_eq_ok.1 h
    cases h
    exact ⟨hfield, hcheck, rfl⟩
  · obtain ⟨field, matcher⟩ := clause
    rintro ⟨hfield, hcheck, rfl⟩
    exact compile_eq_ok hfield hcheck

namespace Criteria

/-- Criteria compile to the clauses that their predicates compile to. -/
theorem compile_eq_ok_iff {criteria : Criteria} {compiled : CompiledFilter} :
    criteria.compile schema = .ok compiled ↔
      List.Forall₂ (fun b clause => schema.resolve b.1 = .ok clause.field ∧
        b.2.check b.1 clause.field = .ok () ∧ clause.matcher = b.2.matcher)
        criteria.toList compiled := by
  simp only [← Predicate.compile_eq_ok_iff]
  exact mapM_eq_ok_iff

/-- Criteria compile if each of their predicates suits the field that it is asked of, and then to a
    clause for each of them. -/
theorem exists_compile {criteria : Criteria}
    (h : ∀ name predicate, criteria.get? name = some predicate →
      ∃ field, schema.resolve name = .ok field ∧ predicate.check name field = .ok ()) :
    ∃ compiled, criteria.compile schema = .ok compiled ∧
      List.Forall₂ (fun b clause => schema.resolve b.1 = .ok clause.field ∧
        clause.matcher = b.2.matcher) criteria.toList compiled := by
  refine exists_mapM_eq_ok fun b hb => ?_
  obtain ⟨field, hfield, hcheck⟩ := h b.1 b.2 (NameMap.get?_of_mem hb)
  exact ⟨_, Predicate.compile_eq_ok hfield hcheck, hfield, rfl⟩

/-- Criteria of one predicate compile to one clause. -/
theorem compile_single (hfield : schema.resolve name = .ok field)
    (hcheck : predicate.check name field = .ok ()) :
    compile (NameMap.empty.insert name predicate) schema = .ok [⟨field, predicate.matcher⟩] := by
  have hclauses : [(name, predicate)].mapM (fun b => b.2.compile schema b.1) =
      .ok [⟨field, predicate.matcher⟩] := by
    rw [List.mapM_cons, Predicate.compile_eq_ok hfield hcheck]
    rfl
  exact hclauses

/-- Where each clause is a predicate on the field that its name means, a record passes if it passes
    all of them. -/
theorem accepts_iff {bindings : List (String × Predicate)} {compiled : CompiledFilter}
    (h : List.Forall₂ (fun b clause => schema.resolve b.1 = .ok clause.field ∧
      clause.matcher = b.2.matcher) bindings compiled) (r : Record) :
    compiled.accepts r = true ↔ ∀ b ∈ bindings, ∃ field, schema.resolve b.1 = .ok field ∧
      Clause.accepts ⟨field, b.2.matcher⟩ r = true := by
  rw [CompiledFilter.accepts, List.all_eq_true]
  induction h with
  | nil => exact iff_of_true (List.forall_mem_nil _) (List.forall_mem_nil _)
  | @cons b clause bindings compiled hb _ ih =>
    obtain ⟨field, matcher⟩ := clause
    obtain ⟨hfield, rfl⟩ := hb
    rw [List.forall_mem_cons, List.forall_mem_cons, ih]
    refine and_congr_left fun _ => ⟨fun haccepts => ⟨field, hfield, haccepts⟩, ?_⟩
    rintro ⟨_, hfield', haccepts⟩
    cases hfield.symm.trans hfield'
    exact haccepts

/-- In criteria that compile each predicate does, to one of the clauses. -/
theorem exists_clause {criteria : Criteria} {compiled : CompiledFilter}
    (h : criteria.compile schema = .ok compiled) {b : String × Predicate}
    (hb : b ∈ criteria.toList) : ∃ clause ∈ compiled, b.2.compile schema b.1 = .ok clause :=
  exists_of_mem_right (mapM_eq_ok_iff.1 h).flip hb

/-- In criteria that compile each predicate suits the field that its name means. -/
theorem suits_of_compile {criteria : Criteria} {compiled : CompiledFilter}
    (h : criteria.compile schema = .ok compiled) : ∀ b ∈ criteria.toList, ∃ field,
      schema.resolve b.1 = .ok field ∧ b.2.check b.1 field = .ok () := by
  intro b hb
  obtain ⟨clause, -, hclause⟩ := exists_clause h hb
  obtain ⟨hfield, hcheck, -⟩ := Predicate.compile_eq_ok_iff.1 hclause
  exact ⟨clause.field, hfield, hcheck⟩

/-- A record passes criteria that compile if it passes each of their predicates. -/
theorem accepts_iff_of_compile {criteria : Criteria} {compiled : CompiledFilter}
    (h : criteria.compile schema = .ok compiled) (r : Record) :
    compiled.accepts r = true ↔ ∀ b ∈ criteria.toList, ∃ field, schema.resolve b.1 = .ok field ∧
      Clause.accepts ⟨field, b.2.matcher⟩ r = true :=
  accepts_iff ((compile_eq_ok_iff.1 h).imp fun _ _ hclause => ⟨hclause.1, hclause.2.2⟩) r

/-- Criteria of predicates under different names compile if each of them suits the field that it is
    asked of, and then a record passes if it passes each of them. -/
theorem exists_compile_ofList {bindings : List (String × Predicate)}
    (hnames : (bindings.map (·.1)).Nodup) (h : ∀ b ∈ bindings, ∃ field,
      schema.resolve b.1 = .ok field ∧ b.2.check b.1 field = .ok ()) :
    ∃ compiled, compile (.ofList bindings) schema = .ok compiled ∧
      ∀ r, compiled.accepts r = true ↔ ∀ b ∈ bindings, ∃ field, schema.resolve b.1 = .ok field ∧
        Clause.accepts ⟨field, b.2.matcher⟩ r = true := by
  have hsuits (name : String) (predicate : Predicate)
      (hb : NameMap.get? (.ofList bindings) name = some predicate) :
      ∃ field, schema.resolve name = .ok field ∧ predicate.check name field = .ok () :=
    h (name, predicate) (NameMap.mem_of_mem_ofList (NameMap.mem_of_get? hb))
  obtain ⟨compiled, hcompiled, hclauses⟩ := exists_compile hsuits
  refine ⟨compiled, hcompiled, fun r => ?_⟩
  simp only [accepts_iff hclauses, NameMap.mem_toList_ofList hnames]

/-- The predicates among those that may be asked for under some names. -/
def given (parts : List (String × Option Predicate)) : List (String × Predicate) :=
  parts.flatMap fun (name, predicate?) => predicate?.toList.map (name, ·)

theorem forall_mem_given {parts : List (String × Option Predicate)}
    {P : String × Predicate → Prop} :
    (∀ b ∈ given parts, P b) ↔ ∀ part ∈ parts, ∀ predicate ∈ part.2, P (part.1, predicate) := by
  simp only [given, List.forall_mem_flatMap, List.forall_mem_map, Option.mem_toList, Option.mem_def]

/-- What is not asked for takes a name away, and adds none. -/
theorem names_given_sublist (parts : List (String × Option Predicate)) :
    ((given parts).map (·.1)).Sublist (parts.map (·.1)) := by
  induction parts with
  | nil => exact .slnil
  | cons part parts ih =>
    obtain ⟨name, predicate?⟩ := part
    rw [given, List.flatMap_cons, List.map_append, List.map_cons]
    cases predicate? with
    | none => exact ih.cons name
    | some predicate => exact ih.cons_cons name

/-- Criteria of what is asked for under different names compile if each predicate suits its field,
    and then a record passes if it passes each predicate that is there. -/
theorem exists_compile_given {parts : List (String × Option Predicate)}
    (hnames : (parts.map (·.1)).Nodup) (h : ∀ part ∈ parts, ∀ predicate ∈ part.2, ∃ field,
      schema.resolve part.1 = .ok field ∧ predicate.check part.1 field = .ok ()) :
    ∃ compiled, compile (.ofList (given parts)) schema = .ok compiled ∧
      ∀ r, compiled.accepts r = true ↔ ∀ part ∈ parts, ∀ predicate ∈ part.2, ∃ field,
        schema.resolve part.1 = .ok field ∧
          Clause.accepts ⟨field, predicate.matcher⟩ r = true := by
  obtain ⟨compiled, hcompiled, haccepts⟩ :=
    exists_compile_ofList (hnames.sublist (names_given_sublist parts)) (forall_mem_given.2 h)
  exact ⟨compiled, hcompiled, fun r => (haccepts r).trans forall_mem_given⟩

end Criteria

/-- One clause is all that there is to pass. -/
theorem CompiledFilter.accepts_single (clause : Clause) (r : Record) :
    CompiledFilter.accepts [clause] r = clause.accepts r :=
  Bool.and_true _

end PagedQuery
