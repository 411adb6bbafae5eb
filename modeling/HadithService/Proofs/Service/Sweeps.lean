import HadithService.Proofs.Editions.Recency
import HadithService.Proofs.Limits.RateLimiter
import HadithService.Proofs.Limits.Strikes
import HadithService.Service.Stores

/-!
# Sweeps go unnoticed

A sweep drops only what has expired, and what has expired counts for nothing.  So two services of
which one makes sweeps and the other does not remain alike (`Service.Alike`): they count the same
for every client and every conversation, and their caches keep the same insertions.  All calls of
their stores have the same answers (`Service.answers_without_sweeps`).
-/

namespace HadithService

/-! ### Limiters -/

namespace RateLimiter

variable {r r' : RateLimiter} {key : String} {last now : Instant}

theorem AgreesAt.symm (h : r.AgreesAt key last r') :
  r'.AgreesAt key last r
  where
    limit_eq := h.limit_eq.symm
    window_eq := h.window_eq.symm
    current_eq now hle := (h.current_eq now hle).symm

/-- From an instant on every client has the same counter in two limiters, of which the first may be
swept. -/
structure Alike (last : Instant) (r r' : RateLimiter) : Prop where
  distinct : Counter.Distinct r.counters
  agrees : ∀ key, r.AgreesAt key last r'

namespace Alike

theorem of_unused (h : r.counters = []) :
  r.Alike 0 r
  where
    distinct := by rw [h]; apply List.nodup_nil
    agrees key := .refl key 0 r

theorem later (h : r.Alike last r') (hle : last ≤ now) :
  r.Alike now r'
  where
    distinct := h.distinct
    agrees key := (h.agrees key).later hle

theorem check_fst (h : r.Alike last r') (hle : last ≤ now) (client : String) :
  (r.check client now).1 = (r'.check client now).1
  := (h.agrees client).check_fst hle

theorem check (h : r.Alike last r') (hle : last ≤ now) (client : String) :
  (r.check client now).2.Alike now (r'.check client now).2
  where
    distinct := distinct_after h.distinct (.check client now)
    agrees key := by
      by_cases hkey : client = key
      · subst hkey
        apply (h.agrees client).check hle
      · have hleft := (h.agrees key).check_of_ne hkey now
        apply (hleft.symm.check_of_ne hkey now).symm.later hle

theorem prune (h : r.Alike last r') (hle : last ≤ now) :
  (r.prune now).2.Alike now r'
  where
    distinct := distinct_after h.distinct (.prune now)
    agrees key := (h.agrees key).prune h.distinct hle

end Alike

end RateLimiter

/-! ### Trackers -/

namespace OffTopicTracker

variable {t t' : OffTopicTracker} {last now : Instant}

/-- Two trackers count the same strikes. -/
structure Alike (last : Instant) (t t' : OffTopicTracker) : Prop where
  threshold_eq : t.threshold = t'.threshold
  timeout_eq : t.timeout = t'.timeout
  counts : ∃ history, t.Counts history last ∧ t'.Counts history last

namespace Alike

theorem of_unused (h : t.counters = []) :
  t.Alike 0 t
  := by
  obtain ⟨threshold, timeout, counters⟩ := t
  subst h
  use rfl, rfl, fun _ => [], Counts.new threshold timeout
  apply Counts.new threshold timeout

theorem isClosed_eq (h : t.Alike last t') (hle : last ≤ now) (session : String) :
  t.isClosed session now = t'.isClosed session now
  := by
  obtain ⟨history, hcounts, hcounts'⟩ := h.counts
  rw [Bool.eq_iff_iff, hcounts.isClosed_iff session hle, hcounts'.isClosed_iff session hle,
    h.threshold_eq, h.timeout_eq]

theorem record_fst (h : t.Alike last t') (hle : last ≤ now) (session : String) :
  (t.record session now).1 = (t'.record session now).1
  := by
  obtain ⟨history, hcounts, hcounts'⟩ := h.counts
  rw [hcounts.record_fst session hle, hcounts'.record_fst session hle, h.threshold_eq,
    h.timeout_eq]

theorem later (h : t.Alike last t') (hle : last ≤ now) :
  t.Alike now t'
  := by
  obtain ⟨history, hcounts, hcounts'⟩ := h.counts
  exact { h with counts := ⟨history, hcounts.later hle, hcounts'.later hle⟩ }

theorem record (h : t.Alike last t') (hle : last ≤ now) (session : String) :
  (t.record session now).2.Alike now (t'.record session now).2
  where
    threshold_eq := h.threshold_eq
    timeout_eq := h.timeout_eq
    counts := by
      obtain ⟨history, hcounts, hcounts'⟩ := h.counts
      exact ⟨_, hcounts.record session hle, hcounts'.record session hle⟩

theorem prune (h : t.Alike last t') (hle : last ≤ now) :
  (t.prune now).2.Alike now t'
  where
    threshold_eq := h.threshold_eq
    timeout_eq := h.timeout_eq
    counts := by
      obtain ⟨history, hcounts, hcounts'⟩ := h.counts
      exact ⟨history, hcounts.prune hle, hcounts'.later hle⟩

end Alike

end OffTopicTracker

/-! ### Caches -/

namespace EditionCache

variable {c c' : EditionCache} {history : List CachedEdition} {last now : Instant}

/-- Two caches keep the same insertions and have counted the same lookups. -/
structure Alike (history : List CachedEdition) (last : Instant) (c c' : EditionCache) : Prop where
  limits : c.SameLimits c'
  hits_eq : c.hits = c'.hits
  misses_eq : c.misses = c'.misses
  keeps : c.Keeps history last
  keeps' : c'.Keeps history last

namespace Alike

theorem of_unused (h : c.editions = []) :
  c.Alike [] 0 c
  := ⟨.refl c, rfl, rfl, .of_nil h, .of_nil h⟩

theorem later (h : c.Alike history last c') (hle : last ≤ now) :
  c.Alike history now c'
  := { h with keeps := h.keeps.later hle, keeps' := h.keeps'.later hle }

theorem peek_eq (h : c.Alike history last c') (hle : last ≤ now) (slug : String) :
  c.peek slug now = c'.peek slug now
  := by
  apply Option.ext
  intro hadiths
  rw [h.keeps.peek_eq_some_iff hle, h.keeps'.peek_eq_some_iff hle, h.limits.lifetime_eq,
    h.limits.capacity_eq]

theorem get (h : c.Alike history last c') (hle : last ≤ now) (slug : String) :
  (c.get slug now).2.Alike history now (c'.get slug now).2
  where
    limits := (SameLimits.get c slug now).trans (h.limits.trans (SameLimits.get c' slug now).symm)
    hits_eq := by
      rw [EditionCache.get, EditionCache.get, h.peek_eq hle]
      cases c'.peek slug now with
      | none => apply h.hits_eq
      | some hadiths => exact congrArg (· + 1) h.hits_eq
    misses_eq := by
      rw [EditionCache.get, EditionCache.get, h.peek_eq hle]
      cases c'.peek slug now with
      | none => exact congrArg (· + 1) h.misses_eq
      | some hadiths => apply h.misses_eq
    keeps := (h.keeps.get slug now).later hle
    keeps' := (h.keeps'.get slug now).later hle

theorem insert (h : c.Alike history last c') (slug : String) (hadiths : List Hadith)
    (hle : last ≤ now) (hlater : ∀ e ∈ history, e.fetchedAt < now) :
  (c.insert slug hadiths now).Alike (⟨slug, hadiths, now⟩ :: history) now
    (c'.insert slug hadiths now)
  where
    limits := (SameLimits.insert c slug hadiths now).trans
      (h.limits.trans (SameLimits.insert c' slug hadiths now).symm)
    hits_eq := by
      rw [insert_eq c, insert_eq c']
      apply h.hits_eq
    misses_eq := by
      rw [insert_eq c, insert_eq c']
      apply h.misses_eq
    keeps := h.keeps.insert slug hadiths hle hlater
    keeps' := h.keeps'.insert slug hadiths hle hlater

theorem prune (h : c.Alike history last c') (hle : last ≤ now) :
  (c.prune now).Alike history now c'
  := { h with
    limits := ⟨h.limits.lifetime_eq, h.limits.capacity_eq⟩
    keeps := h.keeps.prune hle
    keeps' := h.keeps'.later hle }

end Alike

end EditionCache

/-! ### The service -/

namespace Service

variable {s t : Service} {history : List CachedEdition} {last now : Instant} {c : StoreCall}
  {calls : List (Instant × StoreCall)}

/-- Two services, of which the first may be swept, answer all calls of their stores alike. -/
structure Alike (history : List CachedEdition) (last : Instant) (s t : Service) : Prop where
  explain : s.explainLimiter.Alike last t.explainLimiter
  chat : s.chatLimiter.Alike last t.chatLimiter
  offTopic : s.offTopic.Alike last t.offTopic
  cache : s.store.cache.Alike history last t.store.cache

namespace Alike

theorem of_unused (h : s.IsUnused) :
  s.Alike [] 0 s
  where
    explain := .of_unused h.explainLimiter
    chat := .of_unused h.chatLimiter
    offTopic := .of_unused h.offTopic
    cache := .of_unused h.cache

theorem later (h : s.Alike history last t) (hle : last ≤ now) :
  s.Alike history now t
  where
    explain := h.explain.later hle
    chat := h.chat.later hle
    offTopic := h.offTopic.later hle
    cache := h.cache.later hle

theorem sweep (h : s.Alike history last t) (hle : last ≤ now) :
  (s.serve now .sweep).2.Alike history now t
  where
    explain := h.explain.prune hle
    chat := h.chat.prune hle
    offTopic := h.offTopic.prune hle
    cache := h.cache.prune hle

theorem serve_fst (h : s.Alike history last t) (hle : last ≤ now) (c : StoreCall) :
  (s.serve now c).1 = (t.serve now c).1
  := by
  cases c with
  | checkExplain client =>
    exact congrArg (some ∘ StoreAnswer.allowed) (h.explain.check_fst hle client)
  | checkChat client =>
    exact congrArg (some ∘ StoreAnswer.allowed) (h.chat.check_fst hle client)
  | strike session =>
    exact congrArg (some ∘ StoreAnswer.counted) (h.offTopic.record_fst hle session)
  | isClosed session =>
    exact congrArg (some ∘ StoreAnswer.closed) (h.offTopic.isClosed_eq hle session)
  | insert slug hadiths => rfl
  | get slug =>
    have hfound := h.cache.peek_eq hle slug
    rw [← EditionCache.get_fst, ← EditionCache.get_fst] at hfound
    exact congrArg (some ∘ StoreAnswer.found) hfound
  | sweep => rfl

theorem serve (h : s.Alike history last t) (hle : last ≤ now) (hcall : c ≠ .sweep)
    (hnew : ∀ e ∈ history, ∀ f ∈ c.inserted? now, e.fetchedAt ≠ f.fetchedAt) :
  (s.serve now c).2.Alike ((c.inserted? now).toList ++ history) now (t.serve now c).2
  := by
  have hlater := h.later hle
  cases c with
  | checkExplain client => exact { hlater with explain := h.explain.check hle client }
  | checkChat client => exact { hlater with chat := h.chat.check hle client }
  | strike session => exact { hlater with offTopic := h.offTopic.record hle session }
  | isClosed session => exact hlater
  | insert slug hadiths =>
    have hbefore : ∀ e ∈ history, e.fetchedAt < now := by
      intro e he
      apply Nat.lt_of_le_of_ne (hlater.cache.keeps.le_last e he)
      apply hnew e he _ rfl
    exact { hlater with cache := h.cache.insert slug hadiths hle hbefore }
  | get slug => exact { hlater with cache := h.cache.get hle slug }
  | sweep => contradiction

/-- After a run of calls the services are still alike, and have given the same answers. -/
theorem run (h : s.Alike history last t) (hordered : calls.Pairwise fun c d => c.1 ≤ d.1)
    (hlast : ∀ c ∈ calls, last ≤ c.1)
    (hapart : (history.reverse ++ insertions calls).Pairwise fun e f => e.fetchedAt ≠ f.fetchedAt) :
  s.storeAnswers calls = t.storeAnswers (withoutSweeps calls) ∧
    ∃ history last, (s.served calls).Alike history last (t.served (withoutSweeps calls))
  := by
  induction calls generalizing s t history last with
  | nil => exact ⟨rfl, history, last, h⟩
  | cons call rest ih =>
    obtain ⟨now, c⟩ := call
    obtain ⟨hfirst, hrest⟩ := List.pairwise_cons.mp hordered
    have hle : last ≤ now := hlast _ List.mem_cons_self
    by_cases hcall : c = .sweep
    · subst hcall
      have hskip : withoutSweeps ((now, .sweep) :: rest) = withoutSweeps rest := rfl
      rw [hskip]
      apply ih (h.sweep hle) hrest hfirst hapart
    · have hkeep : withoutSweeps ((now, c) :: rest) = (now, c) :: withoutSweeps rest :=
        List.filter_cons_of_pos (by simpa using hcall)
      have hinsertions : insertions ((now, c) :: rest)
          = (c.inserted? now).toList ++ insertions rest := by
        rw [insertions, List.filterMap_cons]
        cases c.inserted? now with
        | none => rfl
        | some e => rfl
      rw [hinsertions] at hapart
      have hnew : ∀ e ∈ history, ∀ f ∈ c.inserted? now, e.fetchedAt ≠ f.fetchedAt := by
        intro e he f hf
        apply (List.pairwise_append.mp hapart).2.2 e (List.mem_reverse.mpr he)
        simp [Option.mem_def.mp hf]
      have hreverse : ((c.inserted? now).toList ++ history).reverse ++ insertions rest
          = history.reverse ++ ((c.inserted? now).toList ++ insertions rest) := by
        rw [List.reverse_append, List.append_assoc]
        congr 2
        cases c.inserted? now with
        | none => rfl
        | some e => rfl
      obtain ⟨hanswers, hrun⟩ := ih (h.serve hle hcall hnew) hrest hfirst (hreverse ▸ hapart)
      rw [hkeep, storeAnswers, storeAnswers, h.serve_fst hle, hanswers]
      exact ⟨rfl, hrun⟩

end Alike

/-- Whenever sweeps are made, every call of a limiter, of the tracker and of the cache is answered
as if there had been none, and as many lookups are counted as hits and misses; for the calls come
in their order, and no two insertions at the same time. -/
theorem answers_without_sweeps (s : Service) (hs : s.IsUnused) (calls : List (Instant × StoreCall))
    (hordered : calls.Pairwise fun c d => c.1 ≤ d.1)
    (hapart : (insertions calls).Pairwise fun e f => e.fetchedAt ≠ f.fetchedAt) :
  s.storeAnswers calls = s.storeAnswers (withoutSweeps calls) ∧
    let swept := (s.served calls).store.cache.stats
    let unswept := (s.served (withoutSweeps calls)).store.cache.stats
    swept.hits = unswept.hits ∧ swept.misses = unswept.misses
  := by
  obtain ⟨hanswers, history, last, halike⟩ :=
    (Alike.of_unused hs).run hordered (fun _ _ => Nat.zero_le _) hapart
  use hanswers, congrArg UInt64.toNat halike.cache.hits_eq
  apply congrArg UInt64.toNat halike.cache.misses_eq

/-- A service whose stores forget after ten nanoseconds. -/
def forgetful : Service :=
  { new .default true with
    explainLimiter := .new 1 10
    offTopic := .new 2 10
    store := .empty 10 2 }

/-- Calls with sweeps in between, right after something has expired. -/
def visits : List (Instant × StoreCall) :=
  [(0, .checkExplain "a"), (1, .strike "s"), (2, .insert "x" []), (5, .strike "s"), (6, .sweep),
   (10, .checkExplain "a"), (11, .sweep), (11, .checkExplain "a"), (15, .isClosed "s"),
   (16, .sweep), (16, .isClosed "s"), (17, .get "x"), (18, .insert "y" []), (29, .sweep),
   (30, .insert "y" []), (31, .get "y")]

theorem answers_without_sweeps_visits :
  forgetful.IsUnused ∧ (visits.Pairwise fun c d => c.1 ≤ d.1) ∧
    ((insertions visits).Pairwise fun e f => e.fetchedAt ≠ f.fetchedAt) ∧
    forgetful.storeAnswers visits = forgetful.storeAnswers (withoutSweeps visits) ∧
    forgetful.storeAnswers (withoutSweeps visits)
      = [.allowed true, .counted ⟨1, 1, false⟩, .stored, .counted ⟨2, 0, true⟩, .allowed false,
         .allowed true, .closed true, .closed false, .found none, .stored, .stored,
         .found (some [])]
  := by
  have hunused : forgetful.IsUnused := ⟨rfl, rfl, rfl, rfl⟩
  have hordered : visits.Pairwise fun c d => c.1 ≤ d.1 := by decide
  have hapart : (insertions visits).Pairwise fun e f => e.fetchedAt ≠ f.fetchedAt := by decide
  use hunused, hordered, hapart
  use (answers_without_sweeps forgetful hunused visits hordered hapart).1
  decide

end Service

end HadithService
