import Mathlib
import PagedQuery.Proofs.Paging

/-!
# Sorted answers and the order of the source

A sort compares records by a field and then by their identifiers, so records with different
identifiers never compare equal, whatever their keys are (`id_eq_of_compareRecords`). Where all
identifiers are different a list of records has therefore one sorted form only
(`sortRecords_eq_of_perm`), and a query with a sort does not tell in which order the source lists
its records.

* `query_eq_of_perm`: two sources with the same records answer a query with a sort by the same page.
-/

namespace PagedQuery

variable {records others : List Record} {field : Field} {direction : Direction}

/-- Records that compare equal have the same identifier, even if their keys are equal only as
    numbers, or both missing. -/
theorem id_eq_of_compareRecords {a b : Record} (h : compareRecords field direction a b = .eq) :
    a.id = b.id :=
  Std.LawfulEqOrd.eq_of_compare (Ordering.then_eq_eq.1 h).2

/-- Records with different identifiers have one sorted order. -/
theorem sortRecords_eq_of_perm (h : records.Perm others) (hids : (records.map (·.id)).Nodup) :
    sortRecords field direction records = sortRecords field direction others := by
  have hrecords := sortRecords_perm field direction records
  have hothers := sortRecords_perm field direction others
  refine eq_of_perm_of_ordered (sortRecords_pairwise field direction records)
    (sortRecords_pairwise field direction others) (hrecords.trans (h.trans hothers.symm)) ?_
  intro a ha b hb heq
  exact List.inj_on_of_nodup_map hids (hrecords.mem_iff.1 ha) (hrecords.mem_iff.1 hb)
    (id_eq_of_compareRecords heq)

namespace RecordSource

variable {source other : RecordSource}

/-- What a filter leaves of the records is sorted the same, in whatever order they come. -/
theorem result_eq_of_perm (hschema : source.schema = other.schema)
    (hscan : source.scan = .ok records) (hother : other.scan = .ok others)
    (hperm : records.Perm others) (hids : (records.map (·.id)).Nodup) (filter : Option Criteria)
    (sort : SortSpec) :
    source.result filter (some sort) = other.result filter (some sort) := by
  rw [result, result, hschema, hscan, hother]
  -- Until the records are read the two do the same, and may fail the same.
  refine bind_congr fun compiled => ?_
  cases hfield : other.schema.resolve sort.name with
  | error e => simp only [resolveSort, SortSpec.resolve, hfield]; rfl
  | ok field =>
    simp only [resolveSort, SortSpec.resolve, hfield]
    refine congrArg Except.ok (sortRecords_eq_of_perm (hperm.filter _) ?_)
    exact hids.sublist (List.filter_sublist.map _)

/-- Two sources that list the same records, no two with the same identifier, answer alike every
    query with a sort, in whatever orders they list them. If the page is one that exists, the filter
    compiles and the sort names a field, both answer with the same page. -/
theorem query_eq_of_perm (hschema : source.schema = other.schema)
    (hscan : source.scan = .ok records) (hother : other.scan = .ok others)
    (hperm : records.Perm others) (hids : (records.map (·.id)).Nodup) (filter : Option Criteria)
    (sort : SortSpec) (request : PageRequest) :
    source.query filter (some sort) request = other.query filter (some sort) request ∧
      ∀ compiled field, request.validate = .ok () →
        compileFilter source.schema filter = .ok compiled →
        source.schema.resolve sort.name = .ok field →
          ∃ page : Page Record, source.query filter (some sort) request = .ok page ∧
            other.query filter (some sort) request = .ok page ∧
            page.totalRecords = records.countP compiled.accepts := by
  have hquery : source.query filter (some sort) request =
      other.query filter (some sort) request := by
    rw [query, query, result_eq_of_perm hschema hscan hother hperm hids]
  refine ⟨hquery, fun compiled field hrequest hfilter hfield => ?_⟩
  have hsort : resolveSort source.schema (some sort) = .ok (some (field, sort.direction)) := by
    rw [resolveSort, SortSpec.resolve, hfield]
    rfl
  have hpage : source.query filter (some sort) request =
      .ok (.slice (sortRecords field sort.direction (records.filter compiled.accepts)) request) :=
    bind_eq_ok.2 ⟨(), hrequest, bind_eq_ok.2 ⟨_, result_eq hfilter hsort hscan, rfl⟩⟩
  refine ⟨_, hpage, hquery ▸ hpage, ?_⟩
  rw [List.countP_eq_length_filter]
  exact (sortRecords_perm _ _ _).length_eq

/-- Reviews, listed in some order. -/
def reviews (records : List Record) : RecordSource where
  schema :=
    { entity := "Review"
      identifier := "ReviewID"
      attributes := [⟨"Rating", .decimal⟩]
      names_valid := by decide
      names_distinct := by decide }
  scan := .ok records

/-- Four ratings: an integer, a decimal that equals it, one that is null and one that is missing. -/
def fourRatings : List Record :=
  [.ofList (.integer 2) [("Rating", .decimal ⟨400, 2⟩)], .ofList (.text "2") [],
    .ofList (.integer 1) [("Rating", .integer 4)], .ofList (.integer 3) [("Rating", .null)]]

/-- The second page of the ratings from the greatest to the least, two to a page, whether they are
    listed forwards or backwards. -/
theorem fourRatings_reversed :
    ∃ page, (reviews fourRatings).query none (some ⟨"Rating", .descending⟩) ⟨2, 2⟩ = .ok page ∧
      (reviews fourRatings.reverse).query none (some ⟨"Rating", .descending⟩) ⟨2, 2⟩ = .ok page ∧
      page.totalRecords = 4 := by
  obtain ⟨-, hpage⟩ := @query_eq_of_perm fourRatings fourRatings.reverse (reviews fourRatings)
    (reviews fourRatings.reverse) rfl rfl rfl (List.reverse_perm _).symm (by decide) none
    ⟨"Rating", .descending⟩ ⟨2, 2⟩
  exact hpage [] (.declared ⟨"Rating", .decimal⟩) rfl rfl rfl

end RecordSource

end PagedQuery
