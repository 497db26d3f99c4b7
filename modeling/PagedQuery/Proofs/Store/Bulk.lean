import Mathlib
import PagedQuery.Proofs.Store.Refusal

/-!
# Collections put in as a whole

A collection goes into a database in one transaction, and without a look at the schema that is
stored for each of its records. It ends as if its entity had been registered and its records had
been put in one by one, by an operation for each: all of these operations succeed or the first that
fails gives the error. Only what a failure leaves behind is different.

* `Collection.oneByOne`: these operations;
* `Database.outcomes`: what all operations of a run come to, or the first error among their answers;
* `run_forM_insertRecord`: records in one transaction, and an operation for each;
* `persistCollection_ends_as_oneByOne`: the two ways of putting a collection in.
-/

namespace PagedQuery

/-- The operations that put a collection in one by one: its entity is registered, and then comes
    each of its records. -/
def Collection.oneByOne (c : Collection) : List Operation :=
  .createEntity c.schema :: c.records.toList.map (.persistRecord c.schema.entity)

namespace Transaction

variable {α : Type} {t : Transaction α} {db written : Database} {a : α} {e : Error}

theorem commit_of_ok (h : t.run db = .ok (a, written)) : t.commit db = (.ok a, written) := by
  rw [commit, h]

theorem commit_of_error (h : t.run db = .error e) : t.commit db = (.error e, db) := by
  rw [commit, h]

end Transaction

namespace Database

variable {db : Database} {store : Store} {c d : Collection} {schema : Schema} {r : Record}
  {records : List Record} {operation : Operation} {operations : List Operation}
  {outcome : Outcome} {e : Error}

/-- What the operations of a run come to if all of them succeed, and otherwise the error of the
    first that fails. -/
def outcomes (db : Database) (operations : List Operation) : Except Error (List Outcome) :=
  (db.answers operations).mapM id

theorem outcomes_of_ok (h : (operation.run db).1 = .ok outcome) :
    db.outcomes (operation :: operations) =
      ((operation.run db).2.outcomes operations).map (outcome :: ·) := by
  rw [outcomes, answers, List.mapM_cons, h]
  show (((operation.run db).2.answers operations).mapM id).bind _ = _
  rw [outcomes]
  cases ((operation.run db).2.answers operations).mapM id <;> rfl

theorem outcomes_of_error (h : (operation.run db).1 = .error e) :
    db.outcomes (operation :: operations) = .error e := by
  rw [outcomes, answers, List.mapM_cons, h]
  rfl

theorem outcomes_eq_ok_iff : (∃ outcomes, db.outcomes operations = .ok outcomes) ↔
    ∀ answer ∈ db.answers operations, ∃ outcome, answer = .ok outcome := by
  constructor
  · rintro ⟨outcomes, h⟩ answer hanswer
    obtain ⟨outcome, -, houtcome⟩ := exists_of_mem_right (mapM_eq_ok_iff.1 h).flip hanswer
    exact ⟨outcome, houtcome⟩
  · intro h
    obtain ⟨outcomes, houtcomes, -⟩ := exists_mapM_eq_ok (R := fun _ _ => True)
      fun answer hanswer => (h answer hanswer).imp fun _ heq => ⟨heq, trivial⟩
    exact ⟨outcomes, houtcomes⟩

theorem outcomes_eq_error_iff : db.outcomes operations = .error e ↔
    ∃ before rest, db.answers operations = before ++ .error e :: rest ∧
      ∀ answer ∈ before, ∃ outcome, answer = .ok outcome := by
  rw [outcomes, mapM_eq_error_iff]
  constructor
  · rintro ⟨before, _, rest, hsplit, hbefore, rfl⟩
    exact ⟨before, rest, hsplit, hbefore⟩
  · rintro ⟨before, rest, hsplit, hbefore⟩
    exact ⟨before, _, rest, hsplit, hbefore, rfl⟩

/-! ## Records -/

/-- A record that fits is put in by an operation as by the write alone. -/
theorem run_persistRecord (h : db.Represents store)
    (hc : store.collection? schema.entity = some c) (hschema : c.schema = schema)
    (hadmitted : schema.validate r = .ok ()) :
    (Operation.persistRecord schema.entity r).run db =
      (((Transaction.insertRecord schema r).commit db).1.map fun _ => .done,
        ((Transaction.insertRecord schema r).commit db).2) := by
  subst hschema
  have hfits := schemaFitting_eq h hc r
  rw [hadmitted] at hfits
  simp only [Operation.run, persistRecord, hfits, Except.map]

/-- Records that fit are put in in one transaction as by an operation for each. -/
theorem run_forM_insertRecord (h : db.Represents store)
    (hc : store.collection? schema.entity = some c) (hschema : c.schema = schema)
    (hadmitted : ∀ r ∈ records, schema.validate r = .ok ()) :
    (records.forM (Transaction.insertRecord schema)).run db =
      (db.outcomes (records.map (.persistRecord schema.entity))).map fun _ =>
        ((), db.after (records.map (.persistRecord schema.entity))) := by
  induction records generalizing db store c with
  | nil => rfl
  | cons r records ih =>
    obtain ⟨hr, hrecords⟩ := List.forall_mem_cons.1 hadmitted
    have hoperation := run_persistRecord h hc hschema hr
    subst hschema
    have htracks := insertRecord_tracks h hc hr
    show ((Transaction.insertRecord c.schema r).run db).bind _ = _
    generalize hwrite : (Transaction.insertRecord c.schema r).run db = x at htracks
    generalize hy : store.insert c.schema.entity r = y at htracks
    cases htracks with
    | error e =>
      -- The transaction stops here, and this is the first operation that fails.
      rw [Transaction.commit_of_error hwrite] at hoperation
      rw [List.map_cons, outcomes_of_error (congrArg Prod.fst hoperation)]
      rfl
    | @ok p later hlater =>
      obtain ⟨⟨⟩, written⟩ := p
      rw [Transaction.commit_of_ok hwrite] at hoperation
      obtain ⟨d, hd, hschema, -⟩ := Store.extends_of_leads (Store.leads_insert hy) _ _ hc
      have hrest := ih hlater hd hschema hrecords
      have hafter : db.after (.persistRecord c.schema.entity r ::
          records.map (.persistRecord c.schema.entity)) =
            written.after (records.map (.persistRecord c.schema.entity)) :=
        congrArg (Database.after · _) (congrArg Prod.snd hoperation)
      rw [List.map_cons, outcomes_of_ok (congrArg Prod.fst hoperation), hafter, hoperation]
      show (records.forM (Transaction.insertRecord c.schema)).run written = _
      rw [hrest]
      cases written.outcomes (records.map (.persistRecord c.schema.entity)) <;> rfl

/-! ## Collections -/

theorem run_createEntity (schema : Schema) (db : Database) :
    (Operation.createEntity schema).run db =
      (((Transaction.storeEntity schema).commit db).1.map .registered,
        ((Transaction.storeEntity schema).commit db).2) :=
  rfl

/-- A collection is put in in one transaction as by the operations that put it in one by one. -/
theorem run_storeCollection_eq (h : db.Represents store) (c : Collection) :
    (Transaction.storeCollection c false).run db =
      (db.outcomes c.oneByOne).map fun _ => (some c.size, db.after c.oneByOne) := by
  have hadmitted : ∀ r ∈ c.records.toList, c.schema.validate r = .ok () := fun r hr =>
    Schema.validate_eq_ok_iff.2 (c.admitted r hr)
  have hoperation := run_createEntity c.schema db
  have htracks := storeEntity_tracks h c.schema
  generalize hwrite : (Transaction.storeEntity c.schema).run db = x at htracks
  generalize hy : store.register c.schema = y at htracks
  cases htracks with
  | error e =>
    rw [Transaction.commit_of_error hwrite] at hoperation
    rw [Collection.oneByOne, outcomes_of_error (congrArg Prod.fst hoperation)]
    show ((Transaction.storeEntity c.schema).run db).bind _ = _
    rw [hwrite]
    rfl
  | @ok p q hpq =>
    obtain ⟨existed, registered⟩ := p
    obtain ⟨_, later⟩ := q
    obtain ⟨rfl, hlater⟩ := hpq
    rw [Transaction.commit_of_ok hwrite] at hoperation
    obtain ⟨d, hd, hschema⟩ := Store.exists_of_register hy
    have hafter : db.after c.oneByOne =
        registered.after (c.records.toList.map (.persistRecord c.schema.entity)) :=
      congrArg (Database.after · _) (congrArg Prod.snd hoperation)
    rw [Transaction.run_storeCollection_of_ok hwrite,
      run_forM_insertRecord hlater hd hschema hadmitted, hafter, Collection.oneByOne,
      outcomes_of_ok (congrArg Prod.fst hoperation), hoperation]
    cases registered.outcomes (c.records.toList.map (.persistRecord c.schema.entity)) <;> rfl

theorem persistCollection_of_ok (h : db.Represents store) {outcomes : List Outcome}
    (hall : db.outcomes c.oneByOne = .ok outcomes) :
    db.persistCollection c = (.ok c.size, db.after c.oneByOne) := by
  refine Transaction.commit_of_ok ?_
  rw [StateT.run_map, run_storeCollection_eq h, hall]
  rfl

theorem persistCollection_of_error (h : db.Represents store)
    (herror : db.outcomes c.oneByOne = .error e) : db.persistCollection c = (.error e, db) := by
  refine Transaction.commit_of_error ?_
  rw [StateT.run_map, run_storeCollection_eq h, herror]
  rfl

end Database

open Database

/-- A collection is put into a database that only operations have changed exactly if its entity can
    be registered and then its records be put in one by one. It leaves the tables that these
    operations leave, row by row. Otherwise it fails as the first of them that does, and leaves the
    tables as they were. -/
theorem persistCollection_ends_as_oneByOne {db : Database} (h : db.Reachable) (c : Collection) :
    ((∃ count, (db.persistCollection c).1 = .ok count) ↔
      ∀ answer ∈ db.answers c.oneByOne, ∃ outcome, answer = .ok outcome) ∧
    (∀ count, (db.persistCollection c).1 = .ok count →
      count = c.size ∧ (db.persistCollection c).2 = db.after c.oneByOne) ∧
    ∀ e, ((db.persistCollection c).1 = .error e ↔
        ∃ before rest, db.answers c.oneByOne = before ++ .error e :: rest ∧
          ∀ answer ∈ before, ∃ outcome, answer = .ok outcome) ∧
      ((db.persistCollection c).1 = .error e → (db.persistCollection c).2 = db) := by
  obtain ⟨store, h⟩ := h.exists_represents
  rw [← outcomes_eq_ok_iff]
  simp only [← outcomes_eq_error_iff]
  cases hall : db.outcomes c.oneByOne with
  | ok outcomes =>
    rw [persistCollection_of_ok h hall]
    refine ⟨⟨fun _ => ⟨outcomes, rfl⟩, fun _ => ⟨c.size, rfl⟩⟩, ?_,
      fun e => ⟨⟨nofun, nofun⟩, nofun⟩⟩
    rintro _ ⟨⟩
    exact ⟨rfl, rfl⟩
  | error e =>
    rw [persistCollection_of_error h hall]
    refine ⟨⟨?_, ?_⟩, nofun, fun e' => ⟨?_, fun _ => rfl⟩⟩
    · rintro ⟨_, ⟨⟩⟩
    · rintro ⟨_, ⟨⟩⟩
    · rw [Except.error.injEq, Except.error.injEq]

/-- The three offers are put in as by four operations. The two late ones, of which the first is new,
    then fail as the last of three operations does, and leave no trace. -/
theorem lateOffers_end_as_oneByOne :
    ∃ db : Database, Database.empty.persistCollection threeOffers = (.ok 3, db) ∧
      Database.empty.after threeOffers.oneByOne = db ∧
      db.persistCollection lateOffers = (.error (.duplicateRecord "Offer" "1"), db) ∧
      ∃ before rest, db.answers lateOffers.oneByOne =
        before ++ .error (.duplicateRecord "Offer" "1") :: rest := by
  have hanswer : (Database.empty.persistCollection threeOffers).1 = .ok 3 := rfl
  obtain ⟨-, hstored, -⟩ := persistCollection_ends_as_oneByOne (.of_run []) threeOffers
  obtain ⟨records, hschema, hscan, hall⟩ := exists_scan_of_persistCollection threeOffers
  have hids : records.map (·.id) = [.integer 1, .text "1", .integer 2] := map_id_eq_of_agrees hall
  have hsplit : lateOffers.records.toList =
      [.ofList (.integer 3) [("MaxQty", .integer 40)]] ++ .ofList (.text "1") [] :: [] := rfl
  have hrefused := map_eq_error.1 ((empty_represents.after
    [.persistCollection threeOffers]).persistCollection_eq_error_iff.2
      (.takenAmong (c := lateOffers) hschema hscan hsplit (by rw [hids]; decide)
        (by rw [hids]; decide)))
  obtain ⟨-, -, hfails⟩ :=
    persistCollection_ends_as_oneByOne (.of_run [.persistCollection threeOffers]) lateOffers
  obtain ⟨herror, hsame⟩ := hfails (.duplicateRecord "Offer" "1")
  obtain ⟨before, rest, hanswers, -⟩ := herror.1 hrefused
  exact ⟨_, Prod.ext hanswer rfl, (hstored 3 hanswer).2.symm, Prod.ext hrefused (hsame hrefused),
    before, rest, hanswers⟩

end PagedQuery
