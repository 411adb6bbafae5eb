import HadithService.Editions.Source
import HadithService.Proofs.Collection
import HadithService.Proofs.Search.Answers

/-!
# Queries that are answered alike

As long as what is published does not change, a query has one answer, whatever was asked before it
and whatever is asked at the same time.  Two queries are answered alike when they have the same one
for everything that can be published (`Search.answeredAlike_iff`).  So it does not matter whether
the name of a collection is given as a name or as a text (`Search.alike_of_lookup`).
-/

namespace HadithService.Search

open EditionSource (atOnce)

variable {source : EditionSource} {q q' : Query} {answer : Except Unavailable (Option Results)}
  {x slug : String} {collection text : Option String} {limit : Option Nat}

/-! ### Answers -/

/-- The answers that a query can get from a source: as the last of queries that are asked one after
the other, or among queries that are asked at the same time.  The cache may have any lifetime and
any capacity, and has nothing in it before the first query. -/
inductive IsAnswer (source : EditionSource) (q : Query) :
    Except Unavailable (Option Results) → Prop where
  | last {lifetime : Duration} {capacity : Nat} {earlier : List (Instant × Query)} {now : Instant}
      {answer : Except Unavailable (Option Results)}
      (hanswer : (answers source (.empty lifetime capacity)
        (earlier ++ [(now, q)])).getLast? = some answer) :
    IsAnswer source q answer
  | among {lifetime : Duration} {capacity : Nat} {moves : List (Instant × InquiryMove)}
      {s : Inquiries} {inquiry : Inquiry} {answer : Except Unavailable (Option Results)}
      (hrun : (Inquiries.idle (.empty lifetime capacity)).run source moves = some s)
      (hasked : inquiry ∈ s.asked) (hquery : inquiry.query = q)
      (hanswer : s.answer? inquiry = some answer) :
    IsAnswer source q answer

/-- A query can be answered, and what the source has is all it can be answered. -/
theorem isAnswer_iff :
  IsAnswer source q answer ↔ answer = q.answerFrom source.edition
  := by
  constructor
  · intro h
    cases h with
    | last hanswer =>
      rw [answers_eq (EditionStore.Sound.empty source.edition _ _), List.map_append,
        List.map_singleton, List.getLast?_concat] at hanswer
      apply (Option.some.inj hanswer).symm
    | @among lifetime capacity moves s inquiry _ hrun hasked hquery hanswer =>
      have hempty : (EditionCache.empty lifetime capacity).Faithful source.edition :=
        EditionCache.Faithful.empty lifetime capacity
      rw [← hquery]
      apply ((Inquiries.Sound.idle hempty).run hrun).answer_eq hasked hanswer
  · rintro rfl
    have hanswer : (answers source (.empty 0 0) ([] ++ [(0, q)])).getLast?
        = some (q.answerFrom source.edition) := by
      rw [answers_eq (EditionStore.Sound.empty source.edition 0 0)]
      rfl
    apply IsAnswer.last hanswer

/-- Whatever is published, there is an answer that the one query gets and no other, and that the
other query gets and no other. -/
def AnsweredAlike (q q' : Query) : Prop :=
  ∀ (published : String → Publication) (rounds : String → Nat),
    ∃ answer : Except Unavailable (Option Results),
      (∀ given, IsAnswer (.ofPublications published rounds) q given ↔ given = answer) ∧
      ∀ given, IsAnswer (.ofPublications published rounds) q' given ↔ given = answer

theorem atOnce_edition (published : String → Publication) (slug : String) :
  (atOnce published).edition slug = .ofPublication slug (published slug)
  := rfl

theorem answeredAlike_iff :
  AnsweredAlike q q' ↔
    ∀ published,
      q.answerFrom (atOnce published).edition = q'.answerFrom (atOnce published).edition
  := by
  have hiff : ∀ (published : String → Publication) (rounds : String → Nat) (q : Query) given,
      IsAnswer (.ofPublications published rounds) q given ↔
        given = q.answerFrom (atOnce published).edition :=
    fun published rounds q given => isAnswer_iff
  constructor
  · intro h published
    obtain ⟨answer, hq, hq'⟩ := h published fun _ => 0
    rw [(hq _).mp ((hiff ..).mpr rfl), (hq' _).mp ((hiff ..).mpr rfl)]
  · intro h published rounds
    use q.answerFrom (atOnce published).edition
    constructor
    · apply hiff
    · rw [h published]
      apply hiff

theorem answeredAlike_comm :
  AnsweredAlike q q' ↔ AnsweredAlike q' q
  := by
  rw [answeredAlike_iff, answeredAlike_iff]
  simp only [eq_comm]

theorem answerFrom_congr {edition : String → Fetched} (hplan : q.plan = q'.plan)
    (hcut : q.cut = q'.cut) :
  q.answerFrom edition = q'.answerFrom edition
  := by
  rw [Query.answerFrom, Query.answerFrom, Query.answer, Query.answer, hplan, hcut]

/-! ### What is asked for -/

theorem given_of_blank (hx : Text.isBlankText x = true) :
  given (some x) = none
  := by
  rw [given, Option.bind_some, Text.unlessBlank, if_pos hx]
  rfl

theorem given_of_not_blank (hx : Text.isBlankText x = false) :
  given (some x) = some (Text.trim x)
  := by
  rw [given, Option.bind_some, Text.unlessBlank, if_neg (Bool.eq_false_iff.mp hx)]
  rfl

theorem plan_of_detected (hx : Text.isBlankText x = false) (hcollection : given collection = none)
    (hdetect : Collection.detect x = some slug) :
  (Query.mk (some x) collection limit).plan = .whole slug
  := by
  rw [Query.plan, hcollection, given_of_not_blank hx]
  simp only [Collection.detect_trim, hdetect]

/-- In a text that is a name in the table, whatever its case and the blanks around it, the collection
of this name is detected.  So a query for the collection is answered like a query for the text. -/
theorem alike_of_lookup (h : Collection.lookup x = some slug) :
  Collection.detect x = some slug ∧
    ∀ limit, AnsweredAlike ⟨none, some x, limit⟩ ⟨some x, none, limit⟩
  := by
  have hblank := Collection.not_isBlankText_of_lookup h
  have hdetect := Collection.detect_eq_of_lookup h
  use hdetect
  intro limit
  have hname : (Query.mk none (some x) limit).plan = .whole slug := by
    rw [Query.plan, given_of_not_blank hblank]
    simp only [given, Option.bind_none, Option.map_none, Collection.resolve_trim_of_lookup h]
  have htext : (Query.mk (some x) none limit).plan = .whole slug :=
    plan_of_detected hblank rfl hdetect
  rw [answeredAlike_iff]
  intro published
  apply answerFrom_congr
  · rw [hname, htext]
  · rfl

/-- The Kelvin sign is lowered to the letter k. -/
theorem alike_of_lookup_kelvin :
  Collection.lookup "\u3000Mali\u212a " = some "ara-malik" ∧
    AnsweredAlike ⟨none, some "\u3000Mali\u212a ", some 5⟩ ⟨some "\u3000Mali\u212a ", none, some 5⟩
  := by
  have hlookup : Collection.lookup "\u3000Mali\u212a " = some "ara-malik" := by decide +kernel
  use hlookup
  apply (alike_of_lookup hlookup).2 (some 5)

end HadithService.Search
