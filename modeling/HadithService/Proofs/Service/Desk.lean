import HadithService.Proofs.Search.Answers
import HadithService.Proofs.Service.Quotas
import HadithService.Service.Desk

/-!
# Requests at the same time are answered as requests by themselves

A request that is no search does not touch the store, so it may be taken while searches are under
way (`Desk.take_of_no_search`).  A search is answered among others as it is answered by a service
that is asked nothing else, and it can be answered as soon as no load can go on
(`Desk.finish?_eq_receive`).  What carries this is that the searches under way are sound, and that
every load which is not done belongs to one of them (`Desk.Sound`).
-/

namespace HadithService

open Search (Inquiries Inquiry InquiryMove Query)

variable {source : EditionSource} {edition : String → Fetched} {now : Instant} {r : Http.Request}
  {q : Query} {inquiry : Inquiry}

/-! ### Requests by themselves -/

namespace Service

variable {s t : Service}

theorem finished_of_settings_eq (h : t.settings = s.settings) (r : Http.Request)
    (handling : Handling) :
  t.finished r handling = s.finished r handling
  := by
  cases handling with
  | answered response => simp only [finished, dressed, sharing, h]
  | pending p => rfl

/-- A search gets the answer to its query. -/
theorem receive_fst_of_search (source : EditionSource) (s : Service) (now : Instant)
    (h : Query.ofRequest? r = some q) :
  (s.receive source now r).1 =
    s.finished r (.answered (Search.response (Search.search source q (s.store.wait now)).1))
  := by
  rw [Query.ofRequest?] at h
  split at h
  · rename_i hsearch
    cases hquery : Input.search r.target.query with
    | error name =>
      rw [hquery] at h
      cases h
    | ok query =>
      rw [hquery] at h
      obtain rfl := Option.some.inj h
      rw [receive_of_search source s now hsearch, answerSearch, hquery]
      rfl
  · cases h

/-- A request that is no search needs no edition and leaves the store as it is. -/
theorem receive_of_no_search (s : Service) (now : Instant) (h : Query.ofRequest? r = none) :
  ∃ handling t, t.store = s.store ∧
    ∀ source, (s.receive source now r).1 = handling ∧ (s.receive source now r).2.2 = t
  := by
  cases herrand : Errand.ofRequest? r with
  | some e =>
    use (s.receive Desk.noSource now r).1, (s.receive Desk.noSource now r).2.2
    constructor
    · cases happeal : Appeal.ofRequest? r with
      | some a => apply (receive_of_appeal Desk.noSource happeal).sameBesides.store_eq
      | none => rw [(receive_of_unread Desk.noSource herrand happeal).2]
    · intro source
      rw [receive_of_errand source herrand, receive_of_errand Desk.noSource herrand]
      exact ⟨rfl, rfl⟩
  | none =>
    by_cases hsearch : (Route.ofPath? r.target.path == some .search
        && Route.search.methods.contains r.method) = true
    · rw [Query.ofRequest?, if_pos hsearch] at h
      cases hquery : Input.search r.target.query with
      | ok query =>
        rw [hquery] at h
        cases h
      | error name =>
        use s.finished r (.answered (repeatedField name)), s, rfl
        intro source
        rw [receive_of_search source s now hsearch, answerSearch, hquery]
        exact ⟨rfl, rfl⟩
    · obtain ⟨response, htake⟩ := take_of_plain s now herrand hsearch
      use s.finished r (.answered response), s, rfl
      intro source
      rw [receive, htake source]
      exact ⟨rfl, rfl⟩

end Service

/-! ### Loads that somebody waits for -/

namespace Search.Inquiries

variable {s t : Inquiries} {u : Loading} {m : Move} {i : Nat} {l : Load}
  {answer : Except Unavailable (Option Results)}

/-- Every load that is not done is one of a search that has not been answered, and there are no
loads without a search. -/
structure IsAttended (s : Inquiries) : Prop where
  awaited : ∀ i l, s.loading.loads[i]? = some l → Loading.outcome? l = none →
    ∃ a ∈ s.asked, i ∈ a.loads
  tidy : s.asked = [] → s.loading.loads = []

/-- A load of a search that has its answer is done. -/
theorem outcome?_isSome_of_answer? (hanswer : s.answer? inquiry = some answer)
    (hi : i ∈ inquiry.loads) (hl : s.loading.loads[i]? = some l) :
  (Loading.outcome? l).isSome = true
  := by
  obtain ⟨hle, hlt⟩ := List.mem_range'_1.mp hi
  have hmem : l ∈ s.loadsOf inquiry := by
    have hget : (s.loadsOf inquiry)[i - inquiry.start]? = some l := by
      rw [loadsOf, List.getElem?_take_of_lt (by omega), List.getElem?_drop,
        Nat.add_sub_cancel' hle, hl]
    apply List.mem_of_getElem? hget
  rw [answer?] at hanswer
  split at hanswer
  · rename_i hall
    apply List.all_eq_true.mp hall l hmem
  · cases hanswer

namespace IsAttended

theorem begun (h : s.IsAttended) (q : Query) :
  (s.begun q).IsAttended
  := by
  constructor
  · intro i l hl hopen
    by_cases hi : i < s.loading.loads.length
    · rw [Inquiries.begun, List.getElem?_append_left hi] at hl
      obtain ⟨a, ha, hmem⟩ := h.awaited i l hl hopen
      use a, List.mem_append_left _ ha
    · use ⟨q, s.loading.loads.length⟩
      constructor
      · apply List.mem_append_right _ (List.mem_singleton_self _)
      · have hlt := (List.getElem?_eq_some_iff.mp hl).1
        rw [Inquiries.begun, List.length_append, List.length_map] at hlt
        apply List.mem_range'_1.mpr
        use Nat.le_of_not_lt hi
  · intro hasked
    cases List.append_ne_nil_of_right_ne_nil _ (List.cons_ne_nil _ _) hasked

/-- A load that is not done after a step was not done before. -/
theorem step (h : s.IsAttended) (hstep : Loading.Step s.loading now m u)
    (hload : m.load? = some i) :
  IsAttended { s with loading := u }
  := by
  constructor
  · intro j l hl hopen
    obtain ⟨slug, p, p', hi, hloads, hlt⟩ := hstep.exists_setPhase hload
    rw [hloads] at hl
    rcases Loading.setPhase_cases hi hl with ⟨rfl, rfl⟩ | ⟨-, hl⟩
    · apply h.awaited j _ hi
      rw [← Option.not_isSome_iff_eq_none, Loading.outcome?_isSome_iff]
      apply Nat.ne_of_gt (Nat.zero_lt_of_lt hlt)
    · apply h.awaited j l hl hopen
  · intro hasked
    have hlength := hstep.length_loads hload
    rw [h.tidy hasked] at hlength
    apply List.eq_nil_of_length_eq_zero hlength

theorem move (h : s.IsAttended) (hmove : s.move source now m' = some t) :
  t.IsAttended
  := by
  rcases move_cases hmove with ⟨q, -, rfl⟩ | ⟨-, rfl⟩ | ⟨i, m, u, -, hload, hstep, -, rfl⟩
  · apply h.begun q
  · exact ⟨h.awaited, h.tidy⟩
  · apply h.step hstep hload

/-- Without a search that has its answer the loads that are not done are still waited for. -/
theorem exists_mem_erase (h : s.IsAttended) (hanswer : s.answer? inquiry = some answer)
    (hl : s.loading.loads[i]? = some l) (hopen : Loading.outcome? l = none) :
  ∃ a ∈ s.asked.erase inquiry, i ∈ a.loads
  := by
  obtain ⟨a, ha, hi⟩ := h.awaited i l hl hopen
  have hne : a ≠ inquiry := by
    rintro rfl
    have hsome := outcome?_isSome_of_answer? hanswer hi hl
    rw [hopen] at hsome
    cases hsome
  use a, (List.mem_erase_of_ne hne).mpr ha

/-- When the last search has its answer, every load is done. -/
theorem isSettled (h : s.IsAttended) (hanswer : s.answer? inquiry = some answer)
    (hlast : s.asked.erase inquiry = []) :
  s.loading.isSettled = true
  := by
  apply List.all_eq_true.mpr
  intro l hl
  obtain ⟨i, hi⟩ := List.mem_iff_getElem?.mp hl
  by_contra hopen
  obtain ⟨a, ha, -⟩ := h.exists_mem_erase hanswer hi (Option.not_isSome_iff_eq_none.mp hopen)
  rw [hlast] at ha
  cases ha

end IsAttended

/-- What stays when a search has been answered: all loads, or none if it was the last search. -/
theorem without_cases (s : Inquiries) (inquiry : Inquiry) :
  (s.asked.erase inquiry = [] ∧ s.without inquiry = ⟨s.loading.settled, []⟩) ∨
    (s.asked.erase inquiry ≠ [] ∧ s.without inquiry = { s with asked := s.asked.erase inquiry })
  := by
  rw [without]
  cases s.asked.erase inquiry with
  | nil =>
    left
    exact ⟨rfl, rfl⟩
  | cons a asked =>
    right
    exact ⟨List.cons_ne_nil a asked, rfl⟩

theorem IsAttended.without (h : s.IsAttended) (hanswer : s.answer? inquiry = some answer) :
  (s.without inquiry).IsAttended
  := by
  rcases s.without_cases inquiry with ⟨-, heq⟩ | ⟨hne, heq⟩
  · rw [heq]
    constructor
    · intro i l hl
      cases hl
    · intro _
      rfl
  · rw [heq]
    constructor
    · intro i l hl hopen
      apply h.exists_mem_erase hanswer hl hopen
    · intro hnil
      cases hne hnil

/-- A sound state is sound without a search that has been answered. -/
theorem Sound.without (h : s.Sound edition) (hattended : s.IsAttended)
    (hanswer : s.answer? inquiry = some answer) :
  (s.without inquiry).Sound edition
  := by
  rcases s.without_cases inquiry with ⟨hnil, heq⟩ | ⟨-, heq⟩
  · rw [heq]
    constructor
    · apply h.orderly.settled (hattended.isSettled hanswer hnil)
    · constructor
      · apply h.faithful.cache
      · intro i l outcome hl
        cases hl
    · intro a ha
      cases ha
  · rw [heq]
    constructor
    · apply h.orderly
    · apply h.faithful
    · intro a ha
      apply h.placed a (List.mem_of_mem_erase ha)

end Search.Inquiries

namespace Desk

variable {settings : Settings} {s : Service} {d d' : Desk} {m : InquiryMove} {e : DeskEvent}
  {handling : Handling}

/-! ### Sound desks -/

/-- The searches under way are sound, every load that is not done is one of theirs, and the settings
are as they were. -/
structure Sound (edition : String → Fetched) (settings : Settings) (d : Desk) : Prop where
  inquiries : d.inquiries.Sound edition
  attended : d.inquiries.IsAttended
  settings : d.service.settings = settings

namespace Sound

/-- A service between requests is a sound desk. -/
theorem ofService (h : s.store.Sound edition) :
  (ofService s).Sound edition s.settings
  := by
  have hloads : ∀ (i : Nat) (l : Load), s.store.loading.loads[i]? ≠ some l := by
    intro i l hl
    rw [h.idle] at hl
    cases hl
  constructor
  · constructor
    · apply h.orderly
    · constructor
      · apply h.faithful
      · intro i l outcome hl
        cases hloads i l hl
    · intro a ha
      cases ha
  · constructor
    · intro i l hl
      cases hloads i l hl
    · intro _
      apply h.idle
  · rfl

/-- When all searches have been answered, what is left is a service between requests. -/
theorem store (h : d.Sound edition settings) (hasked : d.asked = []) :
  d.service.store.Sound edition
  where
    idle := h.attended.tidy hasked
    orderly := h.inquiries.orderly
    faithful := h.inquiries.faithful.cache

/-- A desk stays sound when its service does something that leaves the store as it is. -/
theorem serve (h : d.Sound edition settings) (hstore : s.store = d.service.store)
    (hsettings : s.settings = d.service.settings) :
  Sound edition settings ⟨s, d.asked⟩
  := by
  have hinquiries : (Desk.mk s d.asked).inquiries = d.inquiries := by
    rw [Desk.inquiries, Desk.inquiries, Desk.loading, Desk.loading, hstore]
  constructor
  · rw [hinquiries]
    apply h.inquiries
  · rw [hinquiries]
    apply h.attended
  · apply hsettings.trans h.settings

/-- A desk stays sound when there is a move of its searches. -/
theorem move (h : d.Sound source.edition settings)
    (hmove : d.inquiries.move source now m = some d'.inquiries)
    (hsettings : d'.service.settings = d.service.settings) :
  d'.Sound source.edition settings
  where
    inquiries := h.inquiries.move hmove
    attended := h.attended.move hmove
    settings := hsettings.trans h.settings

theorem step (h : d.Sound source.edition settings) (hstep : d.step source now m = some d') :
  d'.Sound source.edition settings
  := by
  obtain ⟨t, hmove, rfl⟩ := Option.map_eq_some_iff.mp hstep
  exact h.move hmove rfl

theorem take (h : d.Sound source.edition settings) (now : Instant) (r : Http.Request) :
  (d.take now r).2.Sound source.edition settings
  := by
  rw [Desk.take]
  cases hrequest : Query.ofRequest? r with
  | some q =>
    have hmove : d.inquiries.move source now (.ask q) = some (d.inquiries.begun q) := rfl
    exact h.move hmove rfl
  | none =>
    obtain ⟨handling, t, hstore, hreceive⟩ := d.service.receive_of_no_search now hrequest
    apply h.serve
    · apply (congrArg Service.store (hreceive noSource).2).trans hstore
    · apply Service.receive_settings

theorem finish (h : d.Sound edition settings)
    (hfinish : d.finish? now r inquiry = some (handling, d')) :
  d'.Sound edition settings
  := by
  obtain ⟨found, hanswer, heq⟩ := Option.map_eq_some_iff.mp hfinish
  obtain ⟨-, rfl⟩ := Prod.mk.inj heq
  constructor
  · apply h.inquiries.without h.attended hanswer
  · apply h.attended.without hanswer
  · apply h.settings

/-- Every event keeps a sound desk sound. -/
theorem after (h : d.Sound source.edition settings) (hafter : d.after source now e = some d') :
  d'.Sound source.edition settings
  := by
  cases e with
  | request r =>
    obtain rfl := Option.some.inj hafter
    apply h.take
  | advance load => apply h.step hafter
  | reply load => apply h.step hafter
  | finish r inquiry =>
    obtain ⟨⟨handling, t⟩, hfinish, rfl⟩ := Option.map_eq_some_iff.mp hafter
    apply h.finish hfinish
  | resume p reply =>
    obtain rfl := Option.some.inj hafter
    exact h.serve rfl rfl
  | sweep =>
    obtain rfl := Option.some.inj hafter
    exact h.move (m := .sweep) rfl rfl

theorem run {events : List (Instant × DeskEvent)} (h : d.Sound source.edition settings)
    (hrun : d.run source events = some d') :
  d'.Sound source.edition settings
  := by
  induction events generalizing d with
  | nil =>
    obtain rfl := Option.some.inj hrun
    apply h
  | cons a events ih =>
    obtain ⟨now, e⟩ := a
    obtain ⟨t, ht, hrun⟩ := Option.bind_eq_some_iff.mp hrun
    apply ih (h.after ht) hrun

end Sound

/-! ### What requests are answered -/

/-- A request that is no search is taken as the service takes it, whatever searches are under way,
and leaves the store as it is. -/
theorem take_of_no_search (source : EditionSource) (d : Desk) (now : Instant)
    (h : Query.ofRequest? r = none) :
  let taken := d.service.receive source now r
  d.take now r = (.inr taken.1, { d with service := taken.2.2 }) ∧
    taken.2.2.store = d.service.store
  := by
  obtain ⟨handling, t, hstore, hreceive⟩ := d.service.receive_of_no_search now h
  obtain ⟨hhandling, hservice⟩ := hreceive noSource
  rw [take, h]
  simp only [serve, hhandling, hservice, (hreceive source).1, (hreceive source).2, true_and]
  apply hstore

/-- A load that cannot go on by itself has called the source, waits for its turn or is done. -/
theorem obstacle_cases {load : Nat} (hstuck : d.step source now (.advance load) = none) :
  (∃ slug lock, d.loading.loads[load]? = some ⟨slug, .fetching lock⟩ ∧
      d.obstacle load = .source slug) ∨
    (∃ slug lock, d.loading.loads[load]? = some ⟨slug, .waiting lock⟩ ∧
      d.loading.holds load lock = false ∧ d.obstacle load = .lock) ∨
    ((∀ l, d.loading.loads[load]? = some l → (Loading.outcome? l).isSome = true) ∧
      d.obstacle load = .done)
  := by
  have hadvance : d.loading.advance now load = none := by
    have hmove := Option.map_eq_none_iff.mp hstuck
    apply Option.map_eq_none_iff.mp hmove
  rw [Loading.advance] at hadvance
  rw [obstacle]
  cases hl : d.loading.loads[load]? with
  | none =>
    right
    right
    simp
  | some l =>
    obtain ⟨slug, p⟩ := l
    rw [hl] at hadvance
    cases p with
    | fetching lock =>
      left
      use slug, lock
    | waiting lock =>
      right
      left
      use slug, lock, rfl
      simpa using hadvance
    | done outcome =>
      right
      right
      simp [Loading.outcome?]
    | _ => cases hadvance

end Desk

/-- A search that is answered while others are under way gets the answer that a service gives which
is asked nothing else, and it can be answered as soon as no load can go on. -/
theorem Desk.finish?_eq_receive {settings : Settings} {isConfigured : Bool} {d : Desk}
    {events : List (Instant × DeskEvent)}
    (hrun : (ofService (.new settings isConfigured)).run source events = some d)
    (hasked : inquiry ∈ d.asked) (hrequest : Query.ofRequest? r = some inquiry.query) :
  (∀ now handling d', d.finish? now r inquiry = some (handling, d') →
    handling = ((Service.new settings isConfigured).receive source now r).1) ∧
  ∀ now, (∀ m, m.isStep = true → d.step source now m = none) →
    (d.finish? now r inquiry).isSome = true
  := by
  have hempty : (Service.new settings isConfigured).store.Sound source.edition :=
    EditionStore.Sound.empty source.edition _ _
  have hsound := (Sound.ofService hempty).run hrun
  constructor
  · intro now handling d' hfinish
    obtain ⟨found, hanswer, heq⟩ := Option.map_eq_some_iff.mp hfinish
    obtain ⟨rfl, -⟩ := Prod.mk.inj heq
    rw [Service.receive_fst_of_search source _ now hrequest, Search.search_fst (hempty.wait now),
      ← hsound.inquiries.answer_eq hasked hanswer]
    apply Service.finished_of_settings_eq
    apply hsound.settings
  · intro now hstuck
    rw [finish?, Option.isSome_map]
    have hmoves : ∀ m, m.isStep = true → d.inquiries.move source now m = none := by
      intro m hm
      apply Option.map_eq_none_iff.mp (hstuck m hm)
    apply hsound.inquiries.answer?_of_stuck inquiry hmoves

/-- A request for the edition that `Search.oneEdition` has. -/
def Desk.bukhariRequest : Http.Request where
  id := "a"
  arrival := 0
  method := "GET"
  target := ⟨"/api/search", "collection=bukhari"⟩
  headers := []
  peer := none
  body := []

/-- Two such requests at the same time, the loads of which go on in turn. -/
def Desk.twoAtATime : List (Instant × DeskEvent) :=
  [(1, .request bukhariRequest), (2, .request bukhariRequest), (3, .advance 0), (3, .advance 1),
   (4, .advance 0), (4, .advance 1), (5, .advance 0), (5, .advance 1), (6, .advance 0),
   (7, .advance 0), (8, .reply 0), (9, .advance 0), (9, .advance 0), (9, .advance 0),
   (10, .advance 1), (10, .advance 1)]

-- both can be answered, and the source was called once
example :
  ((Desk.ofService (.new .default false)).run Search.oneEdition Desk.twoAtATime).map
      (fun d => (d.asked.map fun a => (d.finish? 11 Desk.bukhariRequest a).isSome, d.loading.calls))
    = some ([true, true], ["ara-bukhari"])
  := by decide +kernel

end HadithService
