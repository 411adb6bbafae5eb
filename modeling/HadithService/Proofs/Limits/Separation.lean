import HadithService.Limits.OffTopic
import HadithService.Proofs.Limits.RateLimiter

/-!
# What the limits say of one key

Two limiters that have the same counters under a key say the same of it, and so do two trackers,
whatever other keys they have; and what happens to other keys keeps it so.
-/

namespace HadithService

/-! ### Limiters -/

namespace RateLimiter

/-- Two limiters have the same counters under a key. -/
structure SameFor (key : String) (r r' : RateLimiter) : Prop where
  limit_eq : r.limit = r'.limit
  window_eq : r.window = r'.window
  under_eq : Counter.under r.counters key = Counter.under r'.counters key

namespace SameFor

variable {r r' : RateLimiter} {key other : String}

theorem refl (key : String) (r : RateLimiter) :
  r.SameFor key r
  := ⟨rfl, rfl, rfl⟩

theorem symm (h : r.SameFor key r') :
  r'.SameFor key r
  := ⟨h.limit_eq.symm, h.window_eq.symm, h.under_eq.symm⟩

theorem trans {r'' : RateLimiter} (h : r.SameFor key r') (h' : r'.SameFor key r'') :
  r.SameFor key r''
  where
    limit_eq := h.limit_eq.trans h'.limit_eq
    window_eq := h.window_eq.trans h'.window_eq
    under_eq := h.under_eq.trans h'.under_eq

theorem current_eq (h : r.SameFor key r') (now : Instant) :
  Counter.current r.counters r.window key now = Counter.current r'.counters r'.window key now
  := by
  rw [h.window_eq]
  apply Counter.current_congr h.under_eq

theorem check_fst (h : r.SameFor key r') (now : Instant) :
  (r.check key now).1 = (r'.check key now).1
  := by
  rw [RateLimiter.check_fst, RateLimiter.check_fst, h.current_eq, h.limit_eq]

theorem under_check (r : RateLimiter) (key : String) (now : Instant) :
  Counter.under (r.check key now).2.counters key = [r.counted key now]
  := by
  have hself := Counter.under_put_self r.counters (r.counted key now)
  rw [counted_key] at hself
  rw [check_snd, hself]

theorem check (h : r.SameFor key r') (now : Instant) :
  (r.check key now).2.SameFor key (r'.check key now).2
  where
    limit_eq := by rw [check_limit, check_limit, h.limit_eq]
    window_eq := by rw [check_window, check_window, h.window_eq]
    under_eq := by
      rw [under_check, under_check, counted, counted, h.current_eq, h.limit_eq]

theorem check_of_ne (r : RateLimiter) (h : other ≠ key) (now : Instant) :
  r.SameFor key (r.check other now).2
  where
    limit_eq := by rw [check_limit]
    window_eq := by rw [check_window]
    under_eq := by
      have hkey : (r.counted other now).key ≠ key := by rwa [counted_key]
      rw [check_snd, Counter.under_put_of_ne r.counters hkey]

theorem prune (h : r.SameFor key r') (now : Instant) :
  (r.prune now).2.SameFor key (r'.prune now).2
  where
    limit_eq := h.limit_eq
    window_eq := h.window_eq
    under_eq := by
      change Counter.under (Counter.alive _ _ _) _ = Counter.under (Counter.alive _ _ _) _
      rw [Counter.under_alive, Counter.under_alive, h.under_eq, h.window_eq]

end SameFor

end RateLimiter

/-! ### Trackers -/

namespace OffTopicTracker

/-- Two trackers have the same counters under the name of a conversation. -/
structure SameFor (session : String) (t t' : OffTopicTracker) : Prop where
  threshold_eq : t.threshold = t'.threshold
  timeout_eq : t.timeout = t'.timeout
  under_eq : Counter.under t.counters session = Counter.under t'.counters session

namespace SameFor

variable {t t' : OffTopicTracker} {session other : String}

theorem refl (session : String) (t : OffTopicTracker) :
  t.SameFor session t
  := ⟨rfl, rfl, rfl⟩

theorem symm (h : t.SameFor session t') :
  t'.SameFor session t
  := ⟨h.threshold_eq.symm, h.timeout_eq.symm, h.under_eq.symm⟩

theorem trans {t'' : OffTopicTracker} (h : t.SameFor session t') (h' : t'.SameFor session t'') :
  t.SameFor session t''
  where
    threshold_eq := h.threshold_eq.trans h'.threshold_eq
    timeout_eq := h.timeout_eq.trans h'.timeout_eq
    under_eq := h.under_eq.trans h'.under_eq

theorem isClosed (h : t.SameFor session t') (now : Instant) :
  t.isClosed session now = t'.isClosed session now
  := by
  rw [OffTopicTracker.isClosed, OffTopicTracker.isClosed, Counter.find?_congr h.under_eq,
    h.threshold_eq, h.timeout_eq]

theorem current_eq (h : t.SameFor session t') (now : Instant) :
  Counter.current t.counters t.timeout session now
    = Counter.current t'.counters t'.timeout session now
  := by
  rw [h.timeout_eq]
  apply Counter.current_congr h.under_eq

theorem record_fst (h : t.SameFor session t') (now : Instant) :
  (t.record session now).1 = (t'.record session now).1
  := by
  rw [OffTopicTracker.record, OffTopicTracker.record, h.current_eq, h.threshold_eq]

theorem under_record (t : OffTopicTracker) (session : String) (now : Instant) :
  Counter.under (t.record session now).2.counters session
    = [⟨session, (Counter.current t.counters t.timeout session now).count + 1, now⟩]
  := Counter.under_put_self t.counters ⟨session, _, now⟩

theorem record (h : t.SameFor session t') (now : Instant) :
  (t.record session now).2.SameFor session (t'.record session now).2
  where
    threshold_eq := h.threshold_eq
    timeout_eq := h.timeout_eq
    under_eq := by rw [under_record, under_record, h.current_eq]

theorem record_of_ne (t : OffTopicTracker) (h : other ≠ session) (now : Instant) :
  t.SameFor session (t.record other now).2
  where
    threshold_eq := rfl
    timeout_eq := rfl
    under_eq := (Counter.under_put_of_ne t.counters (c := ⟨other, _, now⟩) h).symm

theorem prune (h : t.SameFor session t') (now : Instant) :
  (t.prune now).2.SameFor session (t'.prune now).2
  where
    threshold_eq := h.threshold_eq
    timeout_eq := h.timeout_eq
    under_eq := by
      change Counter.under (Counter.alive _ _ _) _ = Counter.under (Counter.alive _ _ _) _
      rw [Counter.under_alive, Counter.under_alive, h.under_eq, h.timeout_eq]

end SameFor

end OffTopicTracker

end HadithService
