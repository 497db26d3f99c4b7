import Mathlib
import PagedQuery.Proofs.Store.Calls

/-!
# A shared database is linearizable

However the sections of calls are interleaved, the answers are those that the calls would have got
one after the other, in some order that puts a call before all that were made after its end. A call
takes its place in the order in its last section. For a record that is put in this is the writing,
and not the reading of the schema before it: no call changes a schema that is stored, so the record
fits what it finds, although others may have written in between.

* `Shared.Steps`: what can happen, case by case;
* `Database.Linearizes`: what it means for an order of calls to explain a history;
* `Database.Explains`: the invariant, which also says what the calls under way can count on; each
  step preserves it (`Explains.make`, `Explains.fit`, `Explains.finish`, `Explains.leave`);
* `shared_linearizable`: every history from a reachable database is explained by an order of its
  calls, no record that was put in is lost, and an open source can be scanned at any time.
-/

namespace PagedQuery

open Database (Represents)

/-! ## Steps -/

/-- The answer of a call that has come to its end. -/
def Stage.answer? : Stage → Option (Except Error Reply)
  | answered answer | left answer => some answer
  | _ => none

namespace Shared

variable {s s' : Shared} {event : Event}

/-- What can happen to a shared database. -/
inductive Steps (s : Shared) : Event → Shared → Prop
  /-- A call is made. -/
  | make {t : ℕ} {call : Call} : s.stage t = .absent → s.isPossible call = true →
      s.Steps (.call t call) (s.put t (.called call))
  /-- A record is found to fit. -/
  | fit {t : ℕ} {entity : String} {r : Record} {schema : Schema} :
      s.stage t = .called (.persistRecord entity r) → s.db.schemaFitting entity r = .ok schema →
      s.Steps (.enter t) (s.put t (.fitted schema r))
  /-- A call is carried out in one section, or fails in its first. -/
  | run {t : ℕ} {call : Call} : s.stage t = .called call →
      s.Steps (.enter t) { s.put t (.answered (call.run s.db).1) with db := (call.run s.db).2 }
  /-- A record that was found to fit is put in, unless its identifier is taken by now. -/
  | insert {t : ℕ} {schema : Schema} {r : Record} : s.stage t = .fitted schema r →
      s.Steps (.enter t)
        { s.put t (.answered (((Transaction.insertRecord schema r).commit s.db).1.map
            fun _ => .done)) with
          db := ((Transaction.insertRecord schema r).commit s.db).2 }
  /-- Somebody gets an answer. -/
  | leave {t : ℕ} {answer : Except Error Reply} : s.stage t = .answered answer →
      s.Steps (.leave t)
        { s.put t (.left answer) with opened := openedBy answer ++ s.opened }

theorem steps_of_step? (h : s.step? event = some s') : s.Steps event s' := by
  cases event with
  | call t call =>
    rw [step?] at h
    split at h
    · next hstage =>
      split at h
      · next hpossible =>
        cases h
        exact .make hstage hpossible
      · cases h
    · cases h
  | enter t =>
    obtain ⟨⟨stage, db⟩, henter, h⟩ := Option.bind_eq_some_iff.1 h
    cases h
    cases hstage : s.stage t with
    | called call =>
      rw [hstage] at henter
      cases call with
      | persistRecord entity r =>
        rw [Stage.enter?] at henter
        split at henter
        · next hfits =>
          cases henter
          exact .fit hstage hfits
        · next e hfails =>
          cases henter
          have hrun : (Call.persistRecord entity r).run s.db = (.error e, s.db) := by
            simp only [Call.run, Database.persistRecord, hfails]
            rfl
          have hstep := Steps.run hstage
          rwa [hrun] at hstep
      | _ =>
        cases henter
        exact .run hstage
    | fitted schema r =>
      rw [hstage] at henter
      cases henter
      exact .insert hstage
    | _ =>
      rw [hstage] at henter
      cases henter
  | leave t =>
    rw [step?] at h
    split at h
    · next hstage =>
      cases h
      exact .leave hstage
    · cases h

end Shared

/-! ## Orders that explain a history -/

/-- Whether the second call was over, and its answer given, when the first one was made. -/
def Completed.Follows (history : List Event) (x y : Completed) : Prop :=
  List.Sublist [.leave y.ticket, .call x.ticket x.call] history

/-- What a call that has got to a stage can count on. -/
def Stage.Sound (history : List Event) (s : Shared) (t : ℕ) : Stage → Prop
  | absent | answered _ => .leave t ∉ history
  | called call => .leave t ∉ history ∧ .call t call ∈ history ∧ s.isPossible call = true
  -- The schema that the record was found to fit is still stored.
  | fitted schema r => .leave t ∉ history ∧ .call t (.persistRecord schema.entity r) ∈ history ∧
    s.db.schema schema.entity = .ok schema ∧ schema.validate r = .ok ()
  | left _ => True

namespace Database

/-- An order of calls, one after the other, that explains a history. -/
structure Linearizes (db : Database) (history : List Event) (s : Shared)
    (order : List Completed) : Prop where
  /-- One after the other, the calls have the answers that they got and leave the tables as they
      are. -/
  runs : db.Runs order s.db
  /-- No call comes twice. -/
  distinct : (order.map (·.ticket)).Nodup
  /-- They are calls that were made. -/
  made : ∀ x ∈ order, .call x.ticket x.call ∈ history
  /-- They are those that have come to their end, with the answers that they got. -/
  answered : ∀ t answer, (s.stage t).answer? = some answer ↔
    ∃ x ∈ order, x.ticket = t ∧ x.answer = answer
  /-- None comes before one that was over when it was made. -/
  ordered : order.Pairwise fun x y => ¬x.Follows history y
  /-- A scan has the records that are stored when it comes. -/
  scanned : ∀ before x after schema, order = before ++ x :: after → x.call = .scan schema →
    ∃ mid records, db.Runs before mid ∧ mid.source schema.entity = .ok ⟨schema, .ok records⟩ ∧
      x.answer = .ok (.scanned records)

/-- An order that explains a history, with what can be said of the calls under way. -/
structure Explains (db : Database) (history : List Event) (s : Shared)
    (order : List Completed) : Prop extends db.Linearizes history s order where
  sound : ∀ t, (s.stage t).Sound history s t
  /-- The schema that a source was opened with is still stored. -/
  opened : ∀ schema ∈ s.opened, s.db.schema schema.entity = .ok schema

end Database

section

variable {db last : Database} {store : Store} {history : List Event} {event : Event}
  {s s' : Shared} {order : List Completed} {t : ℕ} {call : Call} {stage : Stage} {schema : Schema}
  {r : Record} {answer : Except Error Reply}

theorem Completed.Follows.of_concat {x y : Completed} (h : x.Follows (history ++ [event]) y) :
    x.Follows history y ∨ event = .call x.ticket x.call := by
  obtain ⟨before, rest, heq, hbefore, hrest⟩ := List.sublist_append_iff.1 h
  rcases List.sublist_singleton.1 hrest with rfl | rfl
  · rw [List.append_nil] at heq
    rw [← heq] at hbefore
    exact .inl hbefore
  · have hlast := congrArg List.getLast? heq
    simp only [List.getLast?_append, List.getLast?_singleton, Option.some_or] at hlast
    exact .inr (Option.some.inj hlast).symm

theorem Shared.isPossible_mono (hopened : s.opened ⊆ s'.opened) (h : s.isPossible call = true) :
    s'.isPossible call = true := by
  cases call with
  | scan schema => exact decide_eq_true (hopened (of_decide_eq_true h))
  | _ => rfl

theorem Shared.eq_of_mem_openedBy (h : schema ∈ openedBy answer) :
    answer = .ok (.opened schema) := by
  unfold openedBy at h
  split at h
  · rw [List.mem_singleton.1 h]
  · cases h

theorem Stage.Sound.mono (h : stage.Sound history s t) (hevent : event ≠ .leave t)
    (hopened : s.opened ⊆ s'.opened)
    (hschema : ∀ {entity schema}, s.db.schema entity = .ok schema →
      s'.db.schema entity = .ok schema) : stage.Sound (history ++ [event]) s' t := by
  have hleave : .leave t ∉ history → .leave t ∉ history ++ [event] := by
    intro hnot hmem
    rcases List.mem_append.1 hmem with hmem | hmem
    · exact hnot hmem
    · exact hevent (List.mem_singleton.1 hmem).symm
  cases stage with
  | absent | answered => exact hleave h
  | called call =>
    obtain ⟨hnot, hcalled, hpossible⟩ := h
    exact ⟨hleave hnot, List.mem_append_left _ hcalled, Shared.isPossible_mono hopened hpossible⟩
  | fitted schema r =>
    obtain ⟨hnot, hcalled, hstored, hfits⟩ := h
    exact ⟨hleave hnot, List.mem_append_left _ hcalled, hschema hstored, hfits⟩
  | left => trivial

theorem Stage.Sound.leave_notMem (h : stage.Sound history s t)
    (hstage : ∀ answer, stage ≠ .left answer) : .leave t ∉ history := by
  cases stage with
  | absent | answered => exact h
  | called | fitted => exact h.1
  | left answer => exact absurd rfl (hstage answer)

/-- When one call gets on, the others can count on what they could. -/
theorem Shared.sound_put (h : ∀ n, (s.stage n).Sound history s n)
    (hput : s'.stage = (s.put t stage).stage) (hevent : ∀ n, n ≠ t → event ≠ .leave n)
    (hopened : s.opened ⊆ s'.opened)
    (hschema : ∀ {entity schema}, s.db.schema entity = .ok schema →
      s'.db.schema entity = .ok schema) (hstage : stage.Sound (history ++ [event]) s' t) (n : ℕ) :
    (s'.stage n).Sound (history ++ [event]) s' n := by
  rw [hput]
  by_cases hn : n = t
  · subst hn
    have hself : (s.put n stage).stage n = stage := if_pos rfl
    rwa [hself]
  · have hother : (s.put t stage).stage n = s.stage n := if_neg hn
    rw [hother]
    exact (h n).mono (hevent n hn) hopened hschema

theorem Shared.answer?_put (hstage : stage.answer? = (s.stage t).answer?) (n : ℕ) :
    ((s.put t stage).stage n).answer? = (s.stage n).answer? := by
  by_cases hn : n = t
  · subst hn
    have hself : (s.put n stage).stage n = stage := if_pos rfl
    rw [hself, hstage]
  · have hother : (s.put t stage).stage n = s.stage n := if_neg hn
    rw [hother]

namespace Database

/-- An order explains what happens next as well, if this gives no call an answer. -/
theorem Linearizes.keep (h : db.Linearizes history s order) (hdb : s'.db = s.db)
    (hanswer : ∀ n, (s'.stage n).answer? = (s.stage n).answer?)
    (hevent : ∀ x ∈ order, event ≠ .call x.ticket x.call) :
    db.Linearizes (history ++ [event]) s' order where
  runs := hdb ▸ h.runs
  distinct := h.distinct
  made x hx := List.mem_append_left _ (h.made x hx)
  answered n answer := by
    rw [hanswer]
    exact h.answered n answer
  ordered := h.ordered.imp_of_mem fun hx _ hnot hfollows =>
    hfollows.of_concat.elim hnot (hevent _ hx)
  scanned := h.scanned

namespace Explains

theorem start (db : Database) : db.Explains [] (.start db) [] where
  runs := .nil db
  distinct := .nil
  made := nofun
  answered _ _ := ⟨nofun, nofun⟩
  ordered := .nil
  scanned before x after schema hsplit := by simp at hsplit
  sound _ := List.not_mem_nil
  opened := nofun

/-- A call that is made leaves the order as it is. -/
theorem make (h : db.Explains history s order) (hstage : s.stage t = .absent)
    (hpossible : s.isPossible call = true) :
    db.Explains (history ++ [.call t call]) (s.put t (.called call)) order where
  toLinearizes := by
    refine h.keep rfl (Shared.answer?_put (by rw [hstage]; rfl)) ?_
    rintro x hx ⟨⟩
    have hanswered := (h.answered x.ticket x.answer).2 ⟨x, hx, rfl, rfl⟩
    rw [hstage] at hanswered
    cases hanswered
  sound := by
    have hnot := (h.sound t).leave_notMem (by rw [hstage]; nofun)
    refine Shared.sound_put h.sound rfl nofun (List.Subset.refl _) id ⟨?_, ?_, hpossible⟩
    · simpa using hnot
    · exact List.mem_append_right _ (List.mem_singleton_self _)
  opened := h.opened

/-- So does a record that is found to fit. -/
theorem fit (hs : s.db.Represents store) (h : db.Explains history s order) {entity : String}
    (hstage : s.stage t = .called (.persistRecord entity r))
    (hfits : s.db.schemaFitting entity r = .ok schema) :
    db.Explains (history ++ [.enter t]) (s.put t (.fitted schema r)) order where
  toLinearizes := h.keep rfl (Shared.answer?_put (by rw [hstage]; rfl)) nofun
  sound := by
    have hsound := h.sound t
    rw [hstage] at hsound
    obtain ⟨hnot, hcalled, -⟩ := hsound
    obtain ⟨rfl, hschema, hadmitted⟩ := hs.schemaFitting_eq_ok hfits
    refine Shared.sound_put h.sound rfl nofun (List.Subset.refl _) id ⟨?_, ?_, hschema, hadmitted⟩
    · simpa using hnot
    · exact List.mem_append_left _ hcalled
  opened := h.opened

theorem notMem_order (h : db.Explains history s order) (hstage : (s.stage t).answer? = none) :
    ∀ x ∈ order, x.ticket ≠ t := by
  rintro x hx rfl
  have hanswered := (h.answered x.ticket x.answer).2 ⟨x, hx, rfl, rfl⟩
  rw [hstage] at hanswered
  cases hanswered

theorem leave_notMem (h : db.Explains history s order) (hstage : (s.stage t).answer? = none) :
    .leave t ∉ history := by
  refine (h.sound t).leave_notMem fun answer heq => ?_
  rw [heq] at hstage
  cases hstage

/-- A scan of a source that is open has the records that are stored. -/
theorem exists_scanned (hs : s.db.Represents store) (h : db.Explains history s order)
    (hpossible : s.isPossible (.scan schema) = true)
    (hrun : (Call.scan schema).run s.db = (answer, last)) : ∃ records,
      s.db.source schema.entity = .ok ⟨schema, .ok records⟩ ∧ answer = .ok (.scanned records) := by
  have hopened := h.opened schema (of_decide_eq_true hpossible)
  obtain ⟨records, hscan, hsource⟩ := hs.exists_source hopened
  refine ⟨records, hsource, ?_⟩
  injection hrun with hanswer
  rw [← hanswer, hscan]
  rfl

/-- A call that comes to its end goes to the end of the order. -/
theorem finish (hs : s.db.Represents store) (h : db.Explains history s order)
    (hcalled : .call t call ∈ history) (hstage : (s.stage t).answer? = none)
    (hpossible : s.isPossible call = true) (hrun : call.run s.db = (answer, last)) :
    db.Explains (history ++ [.enter t]) { s.put t (.answered answer) with db := last }
      (order ++ [⟨t, call, answer⟩]) where
  runs := h.runs.concat hrun
  distinct := by
    rw [List.map_append, List.nodup_append]
    refine ⟨h.distinct, List.nodup_singleton t, ?_⟩
    rintro n hn _ hlast rfl
    obtain ⟨x, hx, rfl⟩ := List.mem_map.1 hn
    exact h.notMem_order hstage x hx (List.mem_singleton.1 hlast)
  made := by
    refine List.forall_mem_append.2 ⟨fun x hx => List.mem_append_left _ (h.made x hx), ?_⟩
    exact List.forall_mem_singleton.2 (List.mem_append_left _ hcalled)
  answered n a := by
    simp only [List.mem_append, List.mem_singleton, or_and_right, exists_or, exists_eq_left,
      ← h.answered]
    by_cases hn : n = t
    · subst hn
      have hself : (s.put n (.answered answer)).stage n = .answered answer := if_pos rfl
      rw [hself, hstage]
      simp [Stage.answer?]
    · have hother : (s.put t (.answered answer)).stage n = s.stage n := if_neg hn
      rw [hother]
      simp [Ne.symm hn]
  ordered := by
    refine List.pairwise_append.2 ⟨?_, List.pairwise_singleton _ _, ?_⟩
    · exact h.ordered.imp fun hnot hfollows => hfollows.of_concat.elim hnot nofun
    · -- The last call has not been left, so no other was made after that.
      intro x hx y hy hfollows
      rw [List.mem_singleton.1 hy] at hfollows
      have hleft := hfollows.of_concat.resolve_right nofun
      exact h.leave_notMem hstage (hleft.subset List.mem_cons_self)
  scanned before x after schema hsplit hscan := by
    rcases List.eq_nil_or_concat after with rfl | ⟨after, y, rfl⟩
    · obtain ⟨rfl, hx⟩ := List.append_inj' hsplit rfl
      cases hx
      cases hscan
      obtain ⟨records, hsource, hanswer⟩ := h.exists_scanned hs hpossible hrun
      exact ⟨s.db, records, h.runs, hsource, hanswer⟩
    · rw [List.concat_eq_append, ← List.cons_append, ← List.append_assoc] at hsplit
      obtain ⟨hsplit, -⟩ := List.append_inj' hsplit rfl
      exact h.scanned before x after schema hsplit hscan
  sound := by
    have hnot := h.leave_notMem hstage
    refine Shared.sound_put h.sound rfl nofun (List.Subset.refl _) ?_ ?_
    · exact fun hschema => hs.schema_of_call (x := ⟨t, call, answer⟩) hrun hschema
    · simpa [Stage.Sound] using hnot
  opened schema hschema :=
    hs.schema_of_call (x := ⟨t, call, answer⟩) hrun (h.opened schema hschema)

/-- An answer that is given leaves the order as it is. -/
theorem leave (hdb : db.Represents store) (h : db.Explains history s order)
    (hstage : s.stage t = .answered answer) :
    db.Explains (history ++ [.leave t])
      { s.put t (.left answer) with opened := Shared.openedBy answer ++ s.opened } order where
  toLinearizes := h.keep rfl (Shared.answer?_put (by rw [hstage]; rfl)) nofun
  sound := by
    refine Shared.sound_put h.sound rfl ?_ (List.subset_append_right _ _) id trivial
    rintro n hn ⟨⟩
    exact hn rfl
  opened := by
    refine List.forall_mem_append.2 ⟨fun schema hschema => ?_, h.opened⟩
    obtain ⟨x, hx, -, hanswer⟩ := (h.answered t answer).1 (by rw [hstage]; rfl)
    refine hdb.schema_of_runs h.runs hx ?_
    rw [hanswer]
    exact Shared.eq_of_mem_openedBy hschema

/-- Every history is explained by an order of its calls. -/
theorem exists_of_run? (hdb : db.Represents store)
    (hrun : (Shared.start db).run? history = some s) : ∃ order, db.Explains history s order := by
  induction history using List.reverseRecOn generalizing s with
  | nil =>
    cases hrun
    exact ⟨[], .start db⟩
  | append_singleton history event ih =>
    rw [Shared.run?, List.foldlM_append] at hrun
    obtain ⟨mid, hmid, hstep⟩ := Option.bind_eq_some_iff.1 hrun
    obtain ⟨order, h⟩ := ih hmid
    obtain ⟨held, hs, -⟩ := hdb.exists_of_runs h.runs
    rw [List.foldlM_cons] at hstep
    simp only [List.foldlM_nil, bind_pure] at hstep
    cases Shared.steps_of_step? hstep with
    | make hstage hpossible => exact ⟨order, h.make hstage hpossible⟩
    | fit hstage hfits => exact ⟨order, h.fit hs hstage hfits⟩
    | @run t call hstage =>
      have hsound := h.sound t
      rw [hstage] at hsound
      exact ⟨_, h.finish hs hsound.2.1 (by rw [hstage]; rfl) hsound.2.2 rfl⟩
    | @insert t schema r hstage =>
      have hsound := h.sound t
      rw [hstage] at hsound
      obtain ⟨-, hcalled, hschema, hadmitted⟩ := hsound
      -- The schema is read again by a call that is made as a whole, and it is the same.
      have hfits : mid.db.schemaFitting schema.entity r = .ok schema := by
        rw [schemaFitting, hschema, ok_bind, hadmitted]
        rfl
      refine ⟨_, h.finish hs hcalled (by rw [hstage]; rfl) rfl ?_⟩
      simp only [Call.run, persistRecord, hfits]
    | leave hstage => exact ⟨order, h.leave hdb hstage⟩

end Explains

end Database

end

open Database

/-- However calls are interleaved on a shared database, there is an order of those that have come to
    their end in which, made one after the other, they have the answers that they got and leave the
    tables that there are; and a call that was made after another one was over comes behind it. Each
    record that was put in is there, once, and fits, and at any time an open source has the records
    that are stored. -/
theorem shared_linearizable {db : Database} (h : db.Reachable) {history : List Event} {s : Shared}
    (hrun : (Shared.start db).run? history = some s) :
    ∃ order, db.Linearizes history s order ∧ (∀ entity, db.Keeps order s.db entity) ∧
      ∀ schema ∈ s.opened, ∃ records, s.db.scan schema = .ok records ∧
        s.db.source schema.entity = .ok ⟨schema, .ok records⟩ := by
  obtain ⟨store, hdb⟩ := h.exists_represents
  obtain ⟨order, hexplains⟩ := Explains.exists_of_run? hdb hrun
  obtain ⟨held, hs, -⟩ := hdb.exists_of_runs hexplains.runs
  refine ⟨order, hexplains.toLinearizes, hdb.keeps hexplains.runs, fun schema hschema => ?_⟩
  exact hs.exists_source (hexplains.opened schema hschema)

/-- An offer that two put in at the same time. -/
def fourthOffer : Record :=
  .ofList (.integer 4) [("MaxQty", .integer 60)]

/-- Both read the schema before either of them writes. -/
def race : List Event :=
  [.call 0 (.persistRecord "Offer" fourthOffer), .call 1 (.persistRecord "Offer" fourthOffer),
    .enter 0, .enter 1, .enter 1, .enter 0, .leave 0, .leave 1]

/-- The offer is put in by one of them at most. -/
theorem race_has_one_winner :
    ∃ s order, (Shared.start (Database.empty.after [.persistCollection threeOffers])).run? race =
        some s ∧
      (Database.empty.after [.persistCollection threeOffers]).Linearizes race s order ∧
      ∀ x ∈ order, ∀ y ∈ order, x.ticket = 0 → y.ticket = 1 →
        ¬(x.answer = .ok .done ∧ y.answer = .ok .done) := by
  obtain ⟨records, hschema, -, -⟩ := exists_scan_of_persistCollection threeOffers
  have hfits : (Database.empty.after [.persistCollection threeOffers]).schemaFitting "Offer"
      fourthOffer = .ok threeOffers.schema := by
    show (Database.schema _ threeOffers.schema.entity >>= _) = _
    rw [hschema, ok_bind]
    rfl
  obtain ⟨s, hrun⟩ : ∃ s, (Shared.start (Database.empty.after
      [.persistCollection threeOffers])).run? race = some s := by
    generalize Database.empty.after [.persistCollection threeOffers] = db at hfits
    simp [race, Shared.run?, Shared.step?, Shared.start, Shared.put, Shared.isPossible,
      Stage.enter?, hfits]
  obtain ⟨order, hlinearizes, hkeeps, -⟩ :=
    shared_linearizable (.of_run [.persistCollection threeOffers]) hrun
  refine ⟨s, order, hrun, hlinearizes, ?_⟩
  have hinserted : ∀ x ∈ order, x.answer = .ok .done → fourthOffer ∈ x.inserted "Offer" := by
    intro x hx hdone
    have hmade := hlinearizes.made x hx
    simp only [race, List.mem_cons, Event.call.injEq, reduceCtorEq, List.not_mem_nil, or_false]
      at hmade
    rw [Completed.inserted, hdone, hmade.elim And.right And.right]
    exact List.mem_singleton_self _
  rintro x hx y hy hfirst hsecond ⟨hdone, hdone'⟩
  have hne : x ≠ y := by
    rintro rfl
    cases hfirst.symm.trans hsecond
  exact (hkeeps "Offer").id_ne hx hy hne (hinserted x hx hdone) (hinserted y hy hdone') rfl

end PagedQuery
